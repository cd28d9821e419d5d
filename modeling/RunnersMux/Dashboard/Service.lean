import RunnersMux.Dashboard.Runners

/-! `RunnerService` with its table, and what its requests do outside the process.

A runner is the row that `CreateRunner` inserts. Its name leads to everything
else: its entry in a manager, its directory, its scale set. The row that a
`Start` was given stays with the threads of that `Start`, which tells whose
listener a listener is. `InitializeEnvironment` is taken call by call, each of
which can fail, as far as the directory and the `.credentials` in it go.
-/

set_option autoImplicit false

namespace RunnersMux

open Foundations

abbrev ClientID := Nat

/-- A row of the table `runners`. -/
structure Sqlc.Runner where
  id : Nat
  name : RunnerName
  mode : String
  url : String
  dir : String
  pat : String
  maxRunners : Int
  labels : String
  runnerGroup : String
  jobsCompleted : Nat
  createdAt : String
  deriving DecidableEq, Repr

/-- The columns of it that the service and its managers read. The identifier
is never given out twice. -/
structure RunnerRow where
  id : Nat
  name : RunnerName
  mode : String
  url : String
  dir : String
  pat : String
  runnerGroup : String
  deriving DecidableEq, Repr

/-- The directory of a standalone runner: whose `InitializeEnvironment` has last had it
in place, and the registration in its `.credentials`. -/
structure Environment where
  user : RunnerRow
  registration : Option Nat
  deriving DecidableEq, Repr

/-- A scale set on GitHub, and whose listener last asked for it. -/
structure GitHubScaleSet where
  id : Nat
  user : RunnerRow
  deriving DecidableEq, Repr

/-- The calls of `InitializeEnvironment`: `MkdirAll`, the write of the marker, `Stat` of `.credentials`
and of `config.sh`, the copy of the template or the syncs and copies of an upgrade, `MkdirAll` of the
directory of the shim, its copy, and `config.sh`. -/
inductive PreparePhase where
  | making
  | marking
  | checking
  | provisioning (registered : Bool)
  | copying (registered : Bool)
  | syncing (registered : Bool)
  | linking (registered : Bool)
  | injecting (registered : Bool)
  | registering
  | returned (error : Option String)
  deriving DecidableEq, Repr

/-- The answer to one of them: its error, whether `config.sh` is there, and how far a call that
fails has got. -/
structure Provision where
  error : Option String
  template : Bool
  /-- It has made the directory, or has registered the runner. -/
  begun : Bool
  /-- And it has written `.credentials`. -/
  saved : Bool
  deriving DecidableEq, Repr

inductive DeletePhase where
  | stopping
  | halting (t : ThreadID)
  | deleting
  /-- Inside `time.Sleep`, in the goroutine that goes on after the response. -/
  | sleeping
  | removing (t : ThreadID)
  | deregistering
  | unregistering
  | clearing
  | dropping (id : Nat)
  | done
  deriving DecidableEq, Repr

/-- A `DeleteRunner`, with the row that it has read. -/
structure Deletion where
  row : RunnerRow
  force : Bool
  token : String
  phase : DeletePhase
  deriving DecidableEq, Repr

structure Deployment where
  service : RunnerService
  rows : Map RunnerName RunnerRow
  nextID : Nat
  creating : Map ClientID RunnerRow
  updating : Map UpdateID RunnerRow
  deletions : Map ClientID Deletion
  /-- The `cfg` of a lifecycle thread of the standalone manager. -/
  configs : Map ThreadID RunnerRow
  /-- The `cfg` of a launch of the scale set manager, and of its listener. -/
  launches : Map ThreadID RunnerRow
  /-- Where the `InitializeEnvironment` of a lifecycle thread is, once it has begun. -/
  preparing : Map ThreadID PreparePhase
  /-- The rows whose `InitializeEnvironment` has begun, or whose listener goroutine has been spawned. -/
  underway : List RunnerRow
  dirs : Map String Environment
  registrations : Map Nat RunnerRow
  scaleSets : Map (String × String × RunnerName) GitHubScaleSet
  /-- The listeners inside `runListener` that have their scale set. -/
  acquired : Finset ThreadID
  /-- The next identifier that GitHub gives out. -/
  nextRegistration : Nat

inductive DeploymentEvent where
  | createRunner (c : ClientID) (name : RunnerName) (mode url pat runnerGroup : String)
  | start (c : ClientID) (t : ThreadID)
  | refuse (c : ClientID)
  | updateRunner (u : UpdateID) (name : RunnerName)
  | ask (u : UpdateID)
  | edit (u : UpdateID) (pat runnerGroup : String)
  | add (u : UpdateID) (t : ThreadID)
  | deleteRunner (d : ClientID) (name : RunnerName) (force : Bool) (token : String)
  | removeRunner (d : ClientID) (t : ThreadID)
  | proceed (d : ClientID) (ok : Bool)
  | initializeEnvironment (t : ThreadID) (ran : Provision)
  | standalone (call : Call)
  | scaleset (event : ScaleSetEvent)
  /-- `runListener` gets its scale set, or creates it. -/
  | acquire (g : ThreadID)
  deriving DecidableEq

namespace RunnerRow

/-- The directory that `createRunner` gives a runner of a mode. -/
def directory (name : RunnerName) (mode : String) : String :=
  if mode = "standalone" then "/opt/runners/" ++ name else ""

/-- Where GitHub keeps the scale set of a row. An empty group is the default one. -/
def scaleSetKey (row : RunnerRow) : String × String × RunnerName :=
  (row.url, if row.runnerGroup = "" then "default" else row.runnerGroup, row.name)

/-- `COALESCE` in `UpdateRunner`: an empty value leaves the column. -/
def edited (row : RunnerRow) (pat runnerGroup : String) : RunnerRow :=
  { row with
    pat := if pat = "" then row.pat else pat
    runnerGroup := if runnerGroup = "" then row.runnerGroup else runnerGroup }

end RunnerRow

/-- `RemoveRunner`: the first section of a `Stop`, and whether it goes on to `Halt`. -/
def RunnerService.removeRunner (s : RunnerService) (t : ThreadID) (name : RunnerName) (force : Bool)
    (mode : String) : Option (RunnerService × Bool) :=
  if mode = "standalone" then
    match s.standalone.manager.processes.stop name with
    | .ok (some _) => (s.standalone.act (.stop t name force)).map fun standalone => ({ s with standalone }, true)
    | _ => some (s, false)
  else if mode = "scaleset" then
    match s.scaleset.manager.processes.stop name with
    | .ok (some _) => (s.scaleset.step (.stop t name)).map fun scaleset => ({ s with scaleset }, true)
    | _ => some (s, false)
  else some (s, false)

/-- The call of `Stop` in a thread has returned. -/
def RunnerService.returned (s : RunnerService) (t : ThreadID) (mode : String) : Bool :=
  if mode = "standalone" then
    match s.standalone.threads.lookup t with
    | some (.stop _ (.returned _)) => true
    | _ => false
  else
    match s.scaleset.threads.lookup t with
    | some (.halt _ .returned) => true
    | _ => false

/-- `AddRunner` calls a `Start` that is refused. -/
def RunnerService.refuses (s : RunnerService) (name : RunnerName) (mode : String) : Bool :=
  let processes :=
    if mode = "standalone" ∨ mode = "" then s.standalone.manager.processes else s.scaleset.manager.processes
  (processes.start name 0).toOption.isNone

namespace Deployment

def new : Deployment where
  service := .new
  rows := ∅
  nextID := 1
  creating := ∅
  updating := ∅
  deletions := ∅
  configs := ∅
  launches := ∅
  preparing := ∅
  underway := []
  dirs := ∅
  registrations := ∅
  scaleSets := ∅
  acquired := ∅
  nextRegistration := 0

/-- A `Start` has been accepted in a thread, and keeps the row that it was given. -/
def started (s : Deployment) (t : ThreadID) (row : RunnerRow) (service : RunnerService) : Deployment :=
  if row.mode = "scaleset" then { s with service, launches := s.launches.insert t row }
  else { s with service, configs := s.configs.insert t row }

/-- The directory is in its place, with the `.credentials` that it has had. -/
def made (s : Deployment) (row : RunnerRow) : Deployment :=
  { s with dirs := s.dirs.insert row.dir ⟨row, (s.dirs.lookup row.dir).bind (·.registration)⟩ }

/-- `config.sh` has registered the runner, and has written `.credentials` unless it has failed before. -/
def registered (s : Deployment) (row : RunnerRow) (saved : Bool) : Deployment :=
  { s with
    dirs := if saved then s.dirs.insert row.dir ⟨row, some s.nextRegistration⟩ else s.dirs
    registrations := s.registrations.insert s.nextRegistration row
    nextRegistration := s.nextRegistration + 1 }

/-- One call of `InitializeEnvironment`. -/
def prepare (s : Deployment) (row : RunnerRow) (ran : Provision) : PreparePhase → Option (Deployment × PreparePhase)
  | .making =>
      match ran.error with
      | some text => some (s, .returned (some text))
      | none => some (s.made row, .marking)
  -- Nobody looks at the error of this write.
  | .marking => some (s, .checking)
  | .checking =>
      match ran.error, (s.dirs.lookup row.dir).bind (·.registration) with
      | some text, _ => some (s, .returned (some text))
      -- With `.credentials` in place the old registration stays, and is this runner's now.
      | none, some registration =>
          some ({ s with registrations := s.registrations.modify registration fun _ => row }, .provisioning true)
      | none, none => some (s, .provisioning false)
  | .provisioning registered =>
      some (s, if ran.template ∧ (s.dirs.lookup row.dir).isSome then .syncing registered else .copying registered)
  | .copying registered =>
      match ran.error with
      | some text => some (if ran.begun then s.made row else s, .returned (some text))
      | none => some (s.made row, .linking registered)
  | .syncing registered =>
      match ran.error with
      | some text => some (s, .returned (some text))
      | none => some (s, .linking registered)
  | .linking registered =>
      match ran.error with
      | some text => some (if ran.begun then s.made row else s, .returned (some text))
      | none => some (s.made row, .injecting registered)
  -- An empty token is an error of this step, for a runner that is not registered.
  | .injecting registered =>
      match ran.error with
      | some text => some (s, .returned (some text))
      | none => some (s, if registered then .returned none else .registering)
  | .registering =>
      match ran.error with
      | some text => some (if ran.begun then s.registered row ran.saved else s, .returned (some text))
      -- No command runs in a directory that is gone.
      | none => if s.dirs.lookup row.dir = none then none else some (s.registered row true, .returned none)
  | .returned _ => none

/-- `Launch` goes on with what its `InitializeEnvironment` has returned. -/
def unprepared (s : Deployment) : Call → Bool
  | .own (.run t answer) =>
      match s.service.standalone.threads.lookup t with
      | some (.lifecycle _ (.initializeEnvironment _ :: _)) =>
          decide (s.preparing.lookup t ≠ some (.returned answer.error))
      | _ => false
  | _ => false

/-- The listener would come online before it has its scale set. -/
def early (s : Deployment) : ScaleSetEvent → Bool
  | .run g reply =>
      match s.service.scaleset.threads.lookup g with
      | some (.listener _ (.starting _)) => !reply.flag && decide (g ∉ s.acquired)
      | _ => false
  | _ => false

/-- A new listener goroutine has the row of its launch. -/
def spawned (s : Deployment) : ScaleSetEvent → Deployment
  | .spawn t g =>
      match s.launches.lookup t with
      | some row => { s with launches := s.launches.insert g row, underway := s.underway.insert row }
      | none => s
  | _ => s

/-- What `Deregister` does next, or the end of a `Sleep` or a `Stop`. -/
def delete (s : Deployment) (deletion : Deletion) (ok : Bool) : Option (Deployment × DeletePhase) :=
  let row := deletion.row
  match deletion.phase with
  | .halting t => if s.service.returned t row.mode then some (s, .deleting) else none
  | .deleting => some ({ s with rows := s.rows.erase row.name }, .sleeping)
  | .removing t => if s.service.returned t row.mode then some (s, .deregistering) else none
  | .deregistering =>
      if row.mode = "standalone" then
        match (s.dirs.lookup row.dir).bind (·.registration) with
        | some _ => some (s, if deletion.token = "" then .clearing else .unregistering)
        | none => some (s, .clearing)
      else
        -- Without an answer from GitHub there is nothing to delete.
        match s.scaleSets.lookup row.scaleSetKey with
        | some scaleSet => some (s, if ok then .dropping scaleSet.id else .done)
        | none => some (s, .done)
  | .unregistering =>
      match s.dirs.lookup row.dir with
      | some ⟨user, some registration⟩ =>
          if ok then
            some ({ s with
              dirs := s.dirs.insert row.dir ⟨user, none⟩
              registrations := s.registrations.erase registration }, .clearing)
          else some (s, .clearing)
      | _ => some (s, .clearing)
  | .clearing => some (if row.dir = "" then s else { s with dirs := s.dirs.erase row.dir }, .done)
  | .dropping id =>
      match s.scaleSets.lookup row.scaleSetKey with
      | some scaleSet =>
          -- GitHub deletes by the identifier that was looked up before.
          if ok ∧ scaleSet.id = id then some ({ s with scaleSets := s.scaleSets.erase row.scaleSetKey }, .done)
          else some (s, .done)
      | none => some (s, .done)
  | .stopping | .sleeping | .done => none

def step (s : Deployment) : DeploymentEvent → Option Deployment
  | .createRunner c name mode url pat runnerGroup =>
      -- The table has one row a name, and checks the mode.
      if s.creating.lookup c = none ∧ s.rows.lookup name = none ∧ (mode = "standalone" ∨ mode = "scaleset") then
        let row : RunnerRow := ⟨s.nextID, name, mode, url, RunnerRow.directory name mode, pat, runnerGroup⟩
        some { s with
          rows := s.rows.insert name row
          nextID := s.nextID + 1
          creating := s.creating.insert c row }
      else none
  | .start c t =>
      match s.creating.lookup c with
      | some row => (s.service.addRunner t row.name row.mode).map fun service =>
          { s.started t row service with creating := s.creating.erase c }
      | none => none
  | .refuse c =>
      match s.creating.lookup c with
      | some row =>
          if s.service.refuses row.name row.mode then some { s with creating := s.creating.erase c } else none
      | none => none
  | .updateRunner u name =>
      match s.rows.lookup name with
      | some row => (s.service.step (.updateRunner u name row.mode)).map fun service =>
          { s with service, updating := s.updating.insert u row }
      | none => none
  | .ask u => (s.service.step (.ask u)).map fun service => { s with service }
  | .edit u pat runnerGroup =>
      match s.service.updates.lookup u, s.updating.lookup u with
      | some (.adding _ _), some row =>
          -- The statement names the row by its identifier.
          match s.rows.lookup row.name with
          | some current =>
              if current.id = row.id then
                some { s with
                  rows := s.rows.insert row.name (current.edited pat runnerGroup)
                  updating := s.updating.insert u (current.edited pat runnerGroup) }
              else none
          | none => none
      | _, _ => none
  | .add u t =>
      match s.service.updates.lookup u, s.updating.lookup u with
      | some (.adding _ _), some row => (s.service.addRunner t row.name row.mode).map fun service =>
          { s.started t row { service with updates := service.updates.erase u } with
            updating := s.updating.erase u }
      | _, _ => none
  | .deleteRunner d name force token =>
      match s.rows.lookup name with
      | some row =>
          if s.deletions.lookup d = none then
            some { s with deletions := s.deletions.insert d ⟨row, force, token, .stopping⟩ }
          else none
      | none => none
  | .removeRunner d t =>
      match s.deletions.lookup d with
      | some deletion =>
          let removed (force : Bool) (halting next : DeletePhase) : Option Deployment :=
            (s.service.removeRunner t deletion.row.name force deletion.row.mode).map fun (service, halts) =>
              { s with
                service
                deletions := s.deletions.insert d { deletion with phase := if halts then halting else next } }
          match deletion.phase with
          | .stopping => removed deletion.force (.halting t) .deleting
          -- The second call is made whether or not the request was forced.
          | .sleeping => removed true (.removing t) .deregistering
          | _ => none
      | none => none
  | .proceed d ok =>
      match s.deletions.lookup d with
      | some deletion => (s.delete deletion ok).map fun (after, phase) =>
          { after with deletions := s.deletions.insert d { deletion with phase } }
      | none => none
  | .initializeEnvironment t ran =>
      match s.service.standalone.threads.lookup t, s.configs.lookup t with
      | some (.lifecycle _ (.initializeEnvironment _ :: _)), some row =>
          (s.prepare row ran ((s.preparing.lookup t).getD .making)).map fun (after, phase) =>
            { after with
              underway := s.underway.insert row
              preparing := s.preparing.insert t phase }
      | _, _ => none
  | .standalone call =>
      if s.unprepared call then none
      else (s.service.step (.standalone call)).map fun service => { s with service }
  | .scaleset event =>
      if s.early event then none
      else (s.service.step (.scaleset event)).map fun service => { s.spawned event with service }
  | .acquire g =>
      match s.service.scaleset.threads.lookup g, s.launches.lookup g with
      | some (.listener _ (.starting _)), some row =>
          -- A scale set of that name is taken over, whoever made it.
          let id := ((s.scaleSets.lookup row.scaleSetKey).map (·.id)).getD s.nextRegistration
          if g ∈ s.acquired then none
          else some { s with
            scaleSets := s.scaleSets.insert row.scaleSetKey ⟨id, row⟩
            acquired := insert g s.acquired
            nextRegistration := s.nextRegistration + 1 }
      | _, _ => none

variable (s : Deployment)

/-- A started runner leaves everything alone but its manager, the launches and the configs. -/
theorem started_frame (t : ThreadID) (row : RunnerRow) (service : RunnerService) :
    ∃ launches configs, s.started t row service = { s with service, launches, configs } := by
  unfold started
  split
  · exact ⟨_, s.configs, rfl⟩
  · exact ⟨s.launches, _, rfl⟩

@[simp] theorem started_service (t : ThreadID) (row : RunnerRow) (service : RunnerService) :
    (s.started t row service).service = service := by
  obtain ⟨_, _, same⟩ := s.started_frame t row service
  rw [same]

@[simp] theorem started_rows (t : ThreadID) (row : RunnerRow) (service : RunnerService) :
    (s.started t row service).rows = s.rows := by
  obtain ⟨_, _, same⟩ := s.started_frame t row service
  rw [same]

@[simp] theorem started_creating (t : ThreadID) (row : RunnerRow) (service : RunnerService) :
    (s.started t row service).creating = s.creating := by
  obtain ⟨_, _, same⟩ := s.started_frame t row service
  rw [same]

@[simp] theorem started_updating (t : ThreadID) (row : RunnerRow) (service : RunnerService) :
    (s.started t row service).updating = s.updating := by
  obtain ⟨_, _, same⟩ := s.started_frame t row service
  rw [same]

@[simp] theorem started_deletions (t : ThreadID) (row : RunnerRow) (service : RunnerService) :
    (s.started t row service).deletions = s.deletions := by
  obtain ⟨_, _, same⟩ := s.started_frame t row service
  rw [same]

@[simp] theorem started_nextID (t : ThreadID) (row : RunnerRow) (service : RunnerService) :
    (s.started t row service).nextID = s.nextID := by
  obtain ⟨_, _, same⟩ := s.started_frame t row service
  rw [same]

/-- A spawned listener is none of the table's business. -/
theorem spawned_frame (event : ScaleSetEvent) :
    ∃ launches underway, s.spawned event = { s with launches, underway } ∧ s.underway ⊆ underway := by
  unfold spawned
  split
  · split
    · exact ⟨_, _, rfl, List.subset_insert _ _⟩
    · exact ⟨s.launches, s.underway, rfl, List.Subset.refl _⟩
  · exact ⟨s.launches, s.underway, rfl, List.Subset.refl _⟩

/-- What a call of `InitializeEnvironment` does outside the process. -/
inductive Prepares (s : Deployment) (row : RunnerRow) : Deployment → Prop where
  | nothing : Prepares s row s
  | made : Prepares s row (s.made row)
  | keeps {registration : Nat} :
      Prepares s row { s with registrations := s.registrations.modify registration fun _ => row }
  | registered {saved : Bool} : Prepares s row (s.registered row saved)

variable {s}

theorem prepare_prepares {row : RunnerRow} {ran : Provision} {phase next : PreparePhase} {after : Deployment}
    (prepared : s.prepare row ran phase = some (after, next)) : Prepares s row after := by
  have either {begun : Bool} {changed : Deployment} (changes : Prepares s row changed) :
      Prepares s row (if begun = true then changed else s) := by
    cases begun with
    | true => exact changes
    | false => exact .nothing
  cases phase with
  | making =>
      simp only [prepare] at prepared
      split at prepared <;> cases prepared
      · exact .nothing
      · exact .made
  | checking =>
      simp only [prepare] at prepared
      split at prepared <;> cases prepared
      · exact .nothing
      · exact .keeps
      · exact .nothing
  | copying | linking =>
      simp only [prepare] at prepared
      split at prepared <;> cases prepared
      · exact either .made
      · exact .made
  | syncing | injecting =>
      simp only [prepare] at prepared
      split at prepared <;> cases prepared <;> exact .nothing
  | registering =>
      simp only [prepare] at prepared
      split at prepared
      · cases prepared
        exact either .registered
      · split at prepared <;> cases prepared
        exact .registered
  | marking | provisioning =>
      cases prepared
      exact .nothing
  | returned => cases prepared

/-- `InitializeEnvironment` works outside the process. -/
theorem Prepares.frame {row : RunnerRow} {after : Deployment} (prepares : Prepares s row after) :
    ∃ dirs registrations nextRegistration, after = { s with dirs, registrations, nextRegistration } := by
  cases prepares with
  | nothing => exact ⟨s.dirs, s.registrations, s.nextRegistration, rfl⟩
  | made => exact ⟨_, s.registrations, s.nextRegistration, rfl⟩
  | keeps => exact ⟨s.dirs, _, s.nextRegistration, rfl⟩
  | registered => exact ⟨_, _, _, rfl⟩

end Deployment

/-- The cases of a step of the deployment. -/
inductive DeploymentMoves (s : Deployment) : DeploymentEvent → Deployment → Prop where
  | createRunner {c : ClientID} {name : RunnerName} {mode url pat runnerGroup : String}
      (fresh : s.creating.lookup c = none) (unused : s.rows.lookup name = none)
      (valid : mode = "standalone" ∨ mode = "scaleset") {row : RunnerRow}
      (is : row = ⟨s.nextID, name, mode, url, RunnerRow.directory name mode, pat, runnerGroup⟩) :
      DeploymentMoves s (.createRunner c name mode url pat runnerGroup) { s with
        rows := s.rows.insert name row
        nextID := s.nextID + 1
        creating := s.creating.insert c row }
  | start {c : ClientID} {t : ThreadID} {row : RunnerRow} {service : RunnerService}
      (found : s.creating.lookup c = some row) (added : s.service.addRunner t row.name row.mode = some service) :
      DeploymentMoves s (.start c t) { s.started t row service with creating := s.creating.erase c }
  | refuse {c : ClientID} {row : RunnerRow} (found : s.creating.lookup c = some row)
      (refused : s.service.refuses row.name row.mode = true) :
      DeploymentMoves s (.refuse c) { s with creating := s.creating.erase c }
  | updateRunner {u : UpdateID} {name : RunnerName} {row : RunnerRow} {service : RunnerService}
      (found : s.rows.lookup name = some row) (asked : s.service.step (.updateRunner u name row.mode) = some service) :
      DeploymentMoves s (.updateRunner u name) { s with service, updating := s.updating.insert u row }
  | ask {u : UpdateID} {service : RunnerService} (asked : s.service.step (.ask u) = some service) :
      DeploymentMoves s (.ask u) { s with service }
  | edit {u : UpdateID} {pat runnerGroup : String} {row current : RunnerRow} (found : s.updating.lookup u = some row)
      (known : s.rows.lookup row.name = some current) (same : current.id = row.id) :
      DeploymentMoves s (.edit u pat runnerGroup) { s with
        rows := s.rows.insert row.name (current.edited pat runnerGroup)
        updating := s.updating.insert u (current.edited pat runnerGroup) }
  | add {u : UpdateID} {t : ThreadID} {row : RunnerRow} {service : RunnerService} {updates : Map UpdateID Update}
      (found : s.updating.lookup u = some row) (added : s.service.addRunner t row.name row.mode = some service) :
      DeploymentMoves s (.add u t)
        { s.started t row { service with updates } with updating := s.updating.erase u }
  | deleteRunner {d : ClientID} {name : RunnerName} {force : Bool} {token : String} {row : RunnerRow}
      (found : s.rows.lookup name = some row) : DeploymentMoves s (.deleteRunner d name force token)
        { s with deletions := s.deletions.insert d ⟨row, force, token, .stopping⟩ }
  | removeRunner {d : ClientID} {t : ThreadID} {deletion : Deletion} {service : RunnerService} {force halts : Bool}
      {phase : DeletePhase} (found : s.deletions.lookup d = some deletion)
      (removed : s.service.removeRunner t deletion.row.name force deletion.row.mode = some (service, halts))
      (goes : phase = .halting t ∨ phase = .removing t ∨ phase = .deleting ∨ phase = .deregistering) :
      DeploymentMoves s (.removeRunner d t)
        { s with service, deletions := s.deletions.insert d { deletion with phase } }
  | proceed {d : ClientID} {ok : Bool} {deletion : Deletion} {between : Deployment} {phase : DeletePhase}
      (found : s.deletions.lookup d = some deletion) (deleted : s.delete deletion ok = some (between, phase)) :
      DeploymentMoves s (.proceed d ok) { between with deletions := s.deletions.insert d { deletion with phase } }
  | prepare {t : ThreadID} {ran : Provision} {name : RunnerName} {entry : Nat} {rest : List Section} {row : RunnerRow}
      {between : Deployment} {phase : PreparePhase}
      (here : s.service.standalone.threads.lookup t = some (.lifecycle name (.initializeEnvironment entry :: rest)))
      (mine : s.configs.lookup t = some row) (prepares : s.Prepares row between) :
      DeploymentMoves s (.initializeEnvironment t ran) { between with
        underway := s.underway.insert row
        preparing := s.preparing.insert t phase }
  | standalone {call : Call} {standalone : Standalone} (idle : call.starts = none)
      (taken : s.service.standalone.step call = some standalone) (ready : s.unprepared call = false) :
      DeploymentMoves s (.standalone call) { s with service := { s.service with standalone } }
  | scaleset {event : ScaleSetEvent} {scaleset : ScaleSet} (idle : event.starts = none)
      (taken : s.service.scaleset.step event = some scaleset) :
      DeploymentMoves s (.scaleset event) { s.spawned event with service := { s.service with scaleset } }
  | acquire {g : ThreadID} {name : RunnerName} {context id : Nat} {row : RunnerRow}
      (here : s.service.scaleset.threads.lookup g = some (.listener name (.starting context)))
      (mine : s.launches.lookup g = some row) : DeploymentMoves s (.acquire g) { s with
        scaleSets := s.scaleSets.insert row.scaleSetKey ⟨id, row⟩
        acquired := insert g s.acquired
        nextRegistration := s.nextRegistration + 1 }

theorem Deployment.step_moves {s after : Deployment} {event : DeploymentEvent} (taken : s.step event = some after) :
    DeploymentMoves s event after := by
  cases event with
  | createRunner c name mode url pat runnerGroup =>
      simp only [Deployment.step] at taken
      split at taken <;> cases taken
      next valid => exact .createRunner valid.1 valid.2.1 valid.2.2 rfl
  | start c t =>
      simp only [Deployment.step] at taken
      split at taken
      · next row found =>
          obtain ⟨service, added, rfl⟩ := Option.map_eq_some_iff.mp taken
          exact .start found added
      · cases taken
  | refuse c =>
      simp only [Deployment.step] at taken
      split at taken
      · next row found =>
          split at taken <;> cases taken
          next refused => exact .refuse found refused
      · cases taken
  | updateRunner u name =>
      simp only [Deployment.step] at taken
      split at taken
      · next row found =>
          obtain ⟨service, asked, rfl⟩ := Option.map_eq_some_iff.mp taken
          exact .updateRunner found asked
      · cases taken
  | ask u =>
      obtain ⟨service, asked, rfl⟩ := Option.map_eq_some_iff.mp taken
      exact .ask asked
  | edit u pat runnerGroup =>
      simp only [Deployment.step] at taken
      split at taken
      · next row _ found =>
          split at taken
          · next current known =>
              split at taken <;> cases taken
              next same => exact .edit found known same
          · cases taken
      · cases taken
  | add u t =>
      simp only [Deployment.step] at taken
      split at taken
      · next row _ found =>
          obtain ⟨service, added, rfl⟩ := Option.map_eq_some_iff.mp taken
          exact .add found added
      · cases taken
  | deleteRunner d name force token =>
      simp only [Deployment.step] at taken
      split at taken
      · next row found =>
          split at taken <;> cases taken
          exact .deleteRunner found
      · cases taken
  | removeRunner d t =>
      simp only [Deployment.step] at taken
      split at taken
      · next deletion found =>
          split at taken
          · obtain ⟨⟨service, halts⟩, removed, rfl⟩ := Option.map_eq_some_iff.mp taken
            exact .removeRunner found removed (by cases halts <;> simp)
          · obtain ⟨⟨service, halts⟩, removed, rfl⟩ := Option.map_eq_some_iff.mp taken
            exact .removeRunner found removed (by cases halts <;> simp)
          · cases taken
      · cases taken
  | proceed d ok =>
      simp only [Deployment.step] at taken
      split at taken
      · next deletion found =>
          obtain ⟨⟨between, phase⟩, deleted, rfl⟩ := Option.map_eq_some_iff.mp taken
          exact .proceed found deleted
      · cases taken
  | initializeEnvironment t ran =>
      simp only [Deployment.step] at taken
      split at taken
      · next here mine =>
          obtain ⟨⟨between, phase⟩, prepared, rfl⟩ := Option.map_eq_some_iff.mp taken
          exact .prepare here mine (prepare_prepares prepared)
      · cases taken
  | standalone call =>
      simp only [Deployment.step] at taken
      split at taken
      · cases taken
      · next ready =>
          obtain ⟨service, moved, rfl⟩ := Option.map_eq_some_iff.mp taken
          simp only [RunnerService.step] at moved
          split at moved
          · next idle =>
              obtain ⟨standalone, stepped, rfl⟩ := Option.map_eq_some_iff.mp moved
              exact .standalone idle stepped (Bool.eq_false_iff.mpr ready)
          · cases moved
  | scaleset event =>
      simp only [Deployment.step] at taken
      split at taken
      · cases taken
      · obtain ⟨service, moved, rfl⟩ := Option.map_eq_some_iff.mp taken
        simp only [RunnerService.step] at moved
        split at moved
        · next idle =>
            obtain ⟨scaleset, stepped, rfl⟩ := Option.map_eq_some_iff.mp moved
            exact .scaleset idle stepped
        · cases moved
  | acquire g =>
      simp only [Deployment.step] at taken
      split at taken
      · next here mine =>
          split at taken <;> cases taken
          exact .acquire here mine
      · cases taken

end RunnersMux
