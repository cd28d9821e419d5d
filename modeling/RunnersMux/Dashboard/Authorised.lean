import RunnersMux.Dashboard.Managing

/-! Which rows a request may find behind the name that it was authorised for.

A request in flight reaches whatever row has its name when it takes a step. As
long as nobody creates one there that its client may not manage, everything that
it changes is something that it was authorised for.
-/

set_option autoImplicit false

namespace RunnersMux

open Foundations

/-- A row of some mode that comes under the name of a deletion is still going to be reached. -/
def DeletePhase.reaches (row : RunnerRow) (mode : String) : DeletePhase → Bool
  | .stopping | .halting _ | .deleting => true
  | .sleeping => decide (row.mode = mode)
  | _ => false

/-- A row is another one, perhaps after an edit. -/
structure RunnerRow.Continues (row old : RunnerRow) : Prop where
  id : row.id = old.id
  name : row.name = old.name
  url : row.url = old.url
  mode : row.mode = old.mode

namespace Deployment

variable {s after : Deployment}

/-- What a deletion does to the table, and how far it still reaches. -/
theorem delete_table {deletion : Deletion} {ok : Bool} {phase : DeletePhase}
    (deleted : s.delete deletion ok = some (after, phase)) :
    after.updating = s.updating ∧ after.deletions = s.deletions ∧ after.nextID = s.nextID ∧
      (∀ name row, after.rows.lookup name = some row → s.rows.lookup name = some row) ∧
        ∀ mode, phase.reaches deletion.row mode = true → deletion.phase.reaches deletion.row mode = true := by
  unfold delete at deleted
  cases old : deletion.phase with
  | halting t | removing t =>
      rw [old] at deleted
      dsimp only at deleted
      split at deleted <;> cases deleted
      exact ⟨rfl, rfl, rfl, fun _ _ found => found, by simp [DeletePhase.reaches]⟩
  | deleting =>
      rw [old] at deleted
      cases deleted
      exact ⟨rfl, rfl, rfl, fun _ _ found => Map.lookup_of_erase found, by simp [DeletePhase.reaches]⟩
  | deregistering =>
      rw [old] at deleted
      dsimp only at deleted
      split at deleted
      · split at deleted <;> cases deleted
        · refine ⟨rfl, rfl, rfl, fun _ _ found => found, ?_⟩
          split <;> simp [DeletePhase.reaches]
        · exact ⟨rfl, rfl, rfl, fun _ _ found => found, by simp [DeletePhase.reaches]⟩
      · split at deleted <;> cases deleted
        · refine ⟨rfl, rfl, rfl, fun _ _ found => found, ?_⟩
          split <;> simp [DeletePhase.reaches]
        · exact ⟨rfl, rfl, rfl, fun _ _ found => found, by simp [DeletePhase.reaches]⟩
  | clearing =>
      rw [old] at deleted
      cases deleted
      split <;> exact ⟨rfl, rfl, rfl, fun _ _ found => found, by simp [DeletePhase.reaches]⟩
  | unregistering | dropping id =>
      rw [old] at deleted
      dsimp only at deleted
      split at deleted
      · split at deleted <;> cases deleted <;>
          exact ⟨rfl, rfl, rfl, fun _ _ found => found, by simp [DeletePhase.reaches]⟩
      · cases deleted
        exact ⟨rfl, rfl, rfl, fun _ _ found => found, by simp [DeletePhase.reaches]⟩
  | stopping | sleeping | done =>
      rw [old] at deleted
      cases deleted

/-- A deletion has its runner stopped at first, and again after its sleep. -/
theorem removeRunner_table {d : ClientID} {t : ThreadID} (taken : s.step (.removeRunner d t) = some after) :
    ∃ deletion phase, s.deletions.lookup d = some deletion ∧
      after.deletions = s.deletions.insert d { deletion with phase } ∧
        (∀ mode, deletion.row.mode = mode → deletion.phase.reaches deletion.row mode = true) ∧
          ∀ mode, phase.reaches deletion.row mode = true → deletion.phase.reaches deletion.row mode = true := by
  simp only [step] at taken
  split at taken
  · next deletion found =>
      split at taken
      · next stopping =>
          obtain ⟨⟨service, halts⟩, removed, rfl⟩ := Option.map_eq_some_iff.mp taken
          exact ⟨deletion, _, found, rfl, by simp [DeletePhase.reaches, stopping], by simp [DeletePhase.reaches, stopping]⟩
      · next sleeping =>
          obtain ⟨⟨service, halts⟩, removed, rfl⟩ := Option.map_eq_some_iff.mp taken
          refine ⟨deletion, _, found, rfl, by simp [DeletePhase.reaches, sleeping], fun mode reaches => ?_⟩
          cases halts <;> simp [DeletePhase.reaches] at reaches
      · cases taken
  · cases taken

/-- A row that a step leaves in the table was there, or is created. -/
theorem rows_step {event : DeploymentEvent} (taken : s.step event = some after) {name : RunnerName} {row : RunnerRow}
    (found : after.rows.lookup name = some row) :
    (∃ old, s.rows.lookup name = some old ∧ row.Continues old) ∨
      (∃ c pat runnerGroup, event = .createRunner c name row.mode row.url pat runnerGroup) ∧ row.name = name ∧
        row.id = s.nextID ∧ s.nextID < after.nextID := by
  have kept {row : RunnerRow} (found : s.rows.lookup name = some row) :
      ∃ old, s.rows.lookup name = some old ∧ row.Continues old :=
    ⟨row, found, rfl, rfl, rfl, rfl⟩
  cases step_moves taken with
  | @createRunner c other mode url pat runnerGroup row' fresh unused valid is =>
      rcases Map.lookup_of_insert found with ⟨rfl, rfl⟩ | ⟨_, old⟩
      · subst is
        exact .inr ⟨⟨c, pat, runnerGroup, rfl⟩, rfl, rfl, Nat.lt_succ_self _⟩
      · exact .inl (kept old)
  | start | add =>
      rw [started_rows] at found
      exact .inl (kept found)
  | edit held known same =>
      rcases Map.lookup_of_insert found with ⟨rfl, rfl⟩ | ⟨_, old⟩
      · exact .inl ⟨_, known, rfl, rfl, rfl, rfl⟩
      · exact .inl (kept old)
  | proceed mine deleted =>
      exact .inl (kept ((delete_table deleted).2.2.2.1 name row found))
  | @scaleset event =>
      obtain ⟨_, _, same, _⟩ := s.spawned_frame event
      rw [same] at found
      exact .inl (kept found)
  | prepare here mine prepares =>
      obtain ⟨_, _, _, rfl⟩ := prepares.frame
      exact .inl (kept found)
  | refuse | updateRunner | ask | deleteRunner | removeRunner | standalone | acquire => exact .inl (kept found)

theorem nextID_step {event : DeploymentEvent} (taken : s.step event = some after) : s.nextID ≤ after.nextID := by
  cases step_moves taken with
  | createRunner => exact Nat.le_succ _
  | start | add => simp
  | proceed mine deleted => exact (delete_table deleted).2.2.1.ge
  | @scaleset event =>
      obtain ⟨_, _, same, _⟩ := s.spawned_frame event
      rw [same]
  | prepare here mine prepares =>
      obtain ⟨_, _, _, rfl⟩ := prepares.frame
      exact Nat.le_refl _
  | refuse | updateRunner | ask | edit | deleteRunner | removeRunner | standalone | acquire => exact Nat.le_refl _

/-- A row that an update has in hand was read from the table, and only an edit changes it. -/
theorem updating_step {event : DeploymentEvent} (taken : s.step event = some after) {u : UpdateID} {held : RunnerRow}
    (found : after.updating.lookup u = some held) :
    (∃ old, s.updating.lookup u = some old ∧ (held = old ∨
      ∃ current, s.rows.lookup old.name = some current ∧ current.id = old.id ∧ held.Continues current)) ∨
      ∃ name, event = .updateRunner u name ∧ s.rows.lookup name = some held := by
  have kept (found : s.updating.lookup u = some held) : ∃ old, s.updating.lookup u = some old ∧ (held = old ∨
      ∃ current, s.rows.lookup old.name = some current ∧ current.id = old.id ∧ held.Continues current) :=
    ⟨held, found, .inl rfl⟩
  cases step_moves taken with
  | @updateRunner v name row service known asked =>
      rcases Map.lookup_of_insert found with ⟨rfl, rfl⟩ | ⟨_, old⟩
      · exact .inr ⟨name, rfl, known⟩
      · exact .inl (kept old)
  | edit own known same =>
      rcases Map.lookup_of_insert found with ⟨rfl, rfl⟩ | ⟨_, old⟩
      · exact .inl ⟨_, own, .inr ⟨_, known, same, rfl, rfl, rfl, rfl⟩⟩
      · exact .inl (kept old)
  | add own added => exact .inl (kept (Map.lookup_of_erase found))
  | start =>
      rw [started_updating] at found
      exact .inl (kept found)
  | proceed mine deleted =>
      have same : _ = s.updating := (delete_table deleted).1
      exact .inl (kept (same ▸ found))
  | @scaleset event =>
      obtain ⟨_, _, same, _⟩ := s.spawned_frame event
      rw [same] at found
      exact .inl (kept found)
  | prepare here mine prepares =>
      obtain ⟨_, _, _, rfl⟩ := prepares.frame
      exact .inl (kept found)
  | createRunner | refuse | ask | deleteRunner | removeRunner | standalone | acquire => exact .inl (kept found)

/-- A deletion goes on with its row, and reaches no further than before. -/
theorem deletions_step {event : DeploymentEvent} (taken : s.step event = some after) {d : ClientID} {deletion : Deletion}
    (found : after.deletions.lookup d = some deletion) :
    (∃ old, s.deletions.lookup d = some old ∧ deletion.row = old.row ∧
      ∀ mode, deletion.phase.reaches old.row mode = true → old.phase.reaches old.row mode = true) ∨
      ∃ name force token, event = .deleteRunner d name force token ∧ s.rows.lookup name = some deletion.row := by
  have kept (found : s.deletions.lookup d = some deletion) : ∃ old, s.deletions.lookup d = some old ∧
      deletion.row = old.row ∧
        ∀ mode, deletion.phase.reaches old.row mode = true → old.phase.reaches old.row mode = true :=
    ⟨deletion, found, rfl, fun _ reaches => reaches⟩
  cases step_moves taken with
  | @deleteRunner e name force token row known =>
      rcases Map.lookup_of_insert found with ⟨rfl, rfl⟩ | ⟨_, old⟩
      · exact .inr ⟨name, force, token, rfl, known⟩
      · exact .inl (kept old)
  | removeRunner =>
      obtain ⟨old, phase, mine, same, _, reaches⟩ := removeRunner_table taken
      rw [same] at found
      rcases Map.lookup_of_insert found with ⟨rfl, rfl⟩ | ⟨_, other⟩
      · exact .inl ⟨old, mine, rfl, reaches⟩
      · exact .inl (kept other)
  | proceed mine deleted =>
      obtain ⟨_, same, _, _, reaches⟩ := delete_table deleted
      rcases Map.lookup_of_insert found with ⟨rfl, rfl⟩ | ⟨_, old⟩
      · exact .inl ⟨_, mine, rfl, reaches⟩
      · exact .inl (kept (same ▸ old))
  | start | add =>
      rw [started_deletions] at found
      exact .inl (kept found)
  | @scaleset event =>
      obtain ⟨_, _, same, _⟩ := s.spawned_frame event
      rw [same] at found
      exact .inl (kept found)
  | prepare here mine prepares =>
      obtain ⟨_, _, _, rfl⟩ := prepares.frame
      exact .inl (kept found)
  | createRunner | refuse | updateRunner | ask | edit | standalone | acquire => exact .inl (kept found)

end Deployment

/-- A row of some mode that comes under the name of a request is still going to be reached by it. -/
def ManageRequest.reaches (request : ManageRequest) (s : Deployment) (r : ClientID) (mode : String) : Bool :=
  match request.phase, request.method with
  | .checking, _ | .permitted, _ => true
  | .serving, .delete => (s.deletions.lookup r).any fun deletion => deletion.phase.reaches deletion.row mode
  | _, _ => false

namespace Management

variable {canManage : Requester → String → Bool} {s after : Management}

/-- The name, the mode and the URL of a runner that is created. -/
def creates : ManageEvent → Option (RunnerName × String × String)
  | .deployment (.createRunner _ name mode url _ _) => some (name, mode, url)
  | _ => none

/-- Nobody creates a runner under the name of a permitted request that is still going to reach it, with
a URL that its client may not manage. -/
def Undiverted (canManage : Requester → String → Bool) (s : Management) (event : ManageEvent) : Prop :=
  ∀ created ∈ creates event, ∀ r request, s.requests.lookup r = some request → request.name = created.1 →
    canManage request.requester request.url = true → request.reaches s.deployment r created.2.1 = true →
      canManage request.requester created.2.2 = true

instance (s : Management) (event : ManageEvent) : Decidable (Undiverted canManage s event) :=
  inferInstanceAs (Decidable (∀ created ∈ creates event, ∀ r request, s.requests.lookup r = some request → _))

/-- Whatever a request may reach is something that its client may manage. -/
structure Authorised (canManage : Requester → String → Bool) (s : Management) : Prop where
  rows : ∀ name row, s.deployment.rows.lookup name = some row → row.name = name ∧ row.id < s.deployment.nextID
  permitted : ∀ r request, s.requests.lookup r = some request → request.phase = .permitted ∨ request.phase = .serving →
    canManage request.requester request.url = true
  waiting : ∀ r request, s.requests.lookup r = some request → canManage request.requester request.url = true →
    ∀ row, s.deployment.rows.lookup request.name = some row → request.reaches s.deployment r row.mode = true →
      canManage request.requester row.url = true
  updating : ∀ u held, s.deployment.updating.lookup u = some held → held.id < s.deployment.nextID ∧
    (∀ row, s.deployment.rows.lookup held.name = some row → row.id = held.id → row.url = held.url) ∧
      ∃ request, s.requests.lookup u = some request ∧ request.phase = .serving ∧
        canManage request.requester held.url = true
  deletions : ∀ d deletion, s.deployment.deletions.lookup d = some deletion →
    ∃ request, s.requests.lookup d = some request ∧ request.phase = .serving ∧ request.method = .delete ∧
      request.name = deletion.row.name

theorem lookup_goOn (s : Management) (r other : ClientID) (request : ManageRequest) (phase : ManagePhase) :
    (s.goOn r request phase).requests.lookup other =
      if other = r then some { request with phase } else s.requests.lookup other :=
  Map.lookup_insert_if ..

/-- A request that is not yet with the service goes on. -/
theorem goOn_authorised (authorised : Authorised canManage s) {r : ClientID} {request : ManageRequest}
    {phase : ManagePhase} (found : s.requests.lookup r = some request)
    (early : request.phase = .checking ∨ request.phase = .permitted)
    (allowed : phase = .permitted ∨ phase = .serving → canManage request.requester request.url = true) :
    Authorised canManage (s.goOn r request phase) := by
  have others {other : ClientID} {held : ManageRequest} (known : s.requests.lookup other = some held)
      (serving : held.phase = .serving) : (s.goOn r request phase).requests.lookup other = some held := by
    rw [lookup_goOn]
    split
    · next same =>
        subst same
        cases found.symm.trans known
        rcases early with early | early <;> cases early.symm.trans serving
    · exact known
  constructor
  · exact authorised.rows
  · intro other held known
    rw [lookup_goOn] at known
    split at known
    · cases known
      exact allowed
    · exact authorised.permitted other held known
  · intro other held known mine row here reaches
    rw [lookup_goOn] at known
    split at known
    · cases known
      apply authorised.waiting r request found mine row here
      rcases early with early | early <;> simp [ManageRequest.reaches, early]
    · exact authorised.waiting other held known mine row here reaches
  · intro u held known
    obtain ⟨older, same, owner, mine, serving, manages⟩ := authorised.updating u held known
    exact ⟨older, same, owner, others mine serving, serving, manages⟩
  · intro d deletion known
    obtain ⟨owner, mine, serving, method, name⟩ := authorised.deletions d deletion known
    exact ⟨owner, others mine serving, serving, method, name⟩

/-- A request that makes its call of the service may manage the row that it finds there. -/
def Enters (canManage : Requester → String → Bool) (s : Management) (event : DeploymentEvent) : Prop :=
  ∀ r request, s.requests.lookup r = some request → ∀ force token, event = request.call r force token →
    request.phase = .serving ∧ ∀ row, s.deployment.rows.lookup request.name = some row →
      canManage request.requester row.url = true

/-- Only a request in the table makes its call. -/
def Called (s : Management) (event : DeploymentEvent) : Prop :=
  event.guarded = true → ∃ r request force token, s.requests.lookup r = some request ∧ event = request.call r force token

theorem updateRunner_called {u : UpdateID} {name : RunnerName} (called : s.Called (.updateRunner u name)) :
    ∃ request force token, s.requests.lookup u = some request ∧ request.name = name ∧
      (.updateRunner u name : DeploymentEvent) = request.call u force token := by
  obtain ⟨r, request, force, token, found, is⟩ := called rfl
  cases method : request.method with
  | update =>
      simp only [ManageRequest.call, method] at is
      cases is
      exact ⟨request, force, token, found, rfl, by simp [ManageRequest.call, method]⟩
  | delete =>
      simp only [ManageRequest.call, method] at is
      cases is

theorem deleteRunner_called {d : ClientID} {name : RunnerName} {force : Bool} {token : String}
    (called : s.Called (.deleteRunner d name force token)) :
    ∃ request, s.requests.lookup d = some request ∧ request.name = name ∧ request.method = .delete ∧
      (.deleteRunner d name force token : DeploymentEvent) = request.call d force token := by
  obtain ⟨r, request, force, token, found, is⟩ := called rfl
  cases method : request.method with
  | update =>
      simp only [ManageRequest.call, method] at is
      cases is
  | delete =>
      simp only [ManageRequest.call, method] at is
      cases is
      exact ⟨request, found, rfl, method, by simp [ManageRequest.call, method]⟩

theorem reaches_step {event : DeploymentEvent} {deployment : Deployment} (taken : s.deployment.step event = some deployment)
    {r : ClientID} {request : ManageRequest} {mode : String} (reaches : request.reaches deployment r mode = true) :
    request.reaches s.deployment r mode = true ∨ ∃ name force token, event = .deleteRunner r name force token := by
  unfold ManageRequest.reaches at reaches ⊢
  split at reaches
  · exact .inl rfl
  · exact .inl rfl
  · cases found : deployment.deletions.lookup r with
    | none =>
        rw [found] at reaches
        cases reaches
    | some deletion =>
        rw [found, Option.any_some] at reaches
        rcases Deployment.deletions_step taken found with ⟨old, before, same, back⟩ | ⟨name, force, token, is, _⟩
        · rw [same] at reaches
          rw [before, Option.any_some]
          exact .inl (back mode reaches)
        · exact .inr ⟨name, force, token, is⟩
  · cases reaches

/-- A step of the service takes a waiting request to no other row than its own, if a runner that is created
diverts it nowhere. -/
theorem waiting_authorised (authorised : Authorised canManage s) {event : DeploymentEvent} {deployment : Deployment}
    (taken : s.deployment.step event = some deployment) (undiverted : Undiverted canManage s (.deployment event))
    (called : s.Called event) (enters : Enters canManage s event) {r : ClientID} {request : ManageRequest}
    (found : s.requests.lookup r = some request) (mine : canManage request.requester request.url = true) {row : RunnerRow}
    (here : deployment.rows.lookup request.name = some row) (reaches : request.reaches deployment r row.mode = true) :
    canManage request.requester row.url = true := by
  rcases Deployment.rows_step taken here with ⟨old, before, continues⟩ | ⟨⟨c, pat, runnerGroup, rfl⟩, _⟩
  · rw [continues.url]
    rw [continues.mode] at reaches
    rcases reaches_step taken reaches with reached | ⟨name, force, token, rfl⟩
    · exact authorised.waiting r request found mine old before reached
    · obtain ⟨other, also, _, _, is⟩ := deleteRunner_called called
      cases found.symm.trans also
      exact (enters r request found _ _ is).2 old before
  · rcases reaches_step taken reaches with reached | ⟨_, _, _, other⟩
    · exact undiverted _ rfl r request found rfl mine reached
    · cases other

/-- An update that has its row in hand keeps a row that its client may manage. -/
theorem held_authorised (authorised : Authorised canManage s) {event : DeploymentEvent} {deployment : Deployment}
    (taken : s.deployment.step event = some deployment) {u : UpdateID} {held old : RunnerRow}
    (before : s.deployment.updating.lookup u = some old)
    (same : held = old ∨ ∃ current, s.deployment.rows.lookup old.name = some current ∧ current.id = old.id ∧
      held.Continues current) :
    held.id < deployment.nextID ∧
      (∀ row, deployment.rows.lookup held.name = some row → row.id = held.id → row.url = held.url) ∧
        ∃ request, s.requests.lookup u = some request ∧ request.phase = .serving ∧
          canManage request.requester held.url = true := by
  have later := Deployment.nextID_step taken
  obtain ⟨bounded, own, request, mine, serving, manages⟩ := authorised.updating u old before
  have continues : held.id = old.id ∧ held.name = old.name ∧ held.url = old.url := by
    rcases same with rfl | ⟨current, known, id, edited⟩
    · exact ⟨rfl, rfl, rfl⟩
    · exact ⟨edited.id.trans id, edited.name.trans (authorised.rows _ _ known).1, edited.url.trans (own current known id)⟩
  obtain ⟨id, name, url⟩ := continues
  rw [id, name, url]
  refine ⟨Nat.lt_of_lt_of_le bounded later, fun row here same => ?_, request, mine, serving, manages⟩
  rcases Deployment.rows_step taken here with ⟨before, known, goes⟩ | ⟨_, _, fresh, _⟩
  · exact goes.url.trans (own before known (goes.id.symm.trans same))
  · omega

/-- A step of the service keeps what requests may reach, if a runner that is created diverts none of them. -/
theorem deployment_authorised (authorised : Authorised canManage s) {event : DeploymentEvent} {deployment : Deployment}
    (taken : s.deployment.step event = some deployment) (undiverted : Undiverted canManage s (.deployment event))
    (called : s.Called event) (enters : Enters canManage s event) : Authorised canManage { s with deployment } := by
  have later := Deployment.nextID_step taken
  constructor
  · intro name row found
    rcases Deployment.rows_step taken found with ⟨old, before, continues⟩ | ⟨_, named, id, more⟩
    · obtain ⟨named, bounded⟩ := authorised.rows name old before
      exact ⟨continues.name.trans named, continues.id ▸ Nat.lt_of_lt_of_le bounded later⟩
    · exact ⟨named, id ▸ more⟩
  · exact authorised.permitted
  · intro r request found mine row here reaches
    exact waiting_authorised authorised taken undiverted called enters found mine here reaches
  · intro u held found
    rcases Deployment.updating_step taken found with ⟨old, before, same⟩ | ⟨name, rfl, known⟩
    · exact held_authorised authorised taken before same
    · obtain ⟨request, force, token, mine, rfl, is⟩ := updateRunner_called called
      obtain ⟨serving, manages⟩ := enters u request mine force token is
      obtain ⟨named, bounded⟩ := authorised.rows _ held known
      refine ⟨Nat.lt_of_lt_of_le bounded later, fun row here _ => ?_, request, mine, serving, manages held known⟩
      rw [named] at here
      rcases Deployment.rows_step taken here with ⟨old, before, continues⟩ | ⟨⟨_, _, _, other⟩, _⟩
      · cases known.symm.trans before
        exact continues.url
      · cases other
  · intro d deletion found
    rcases Deployment.deletions_step taken found with ⟨old, before, row, _⟩ | ⟨name, force, token, rfl, known⟩
    · rw [row]
      exact authorised.deletions d old before
    · obtain ⟨request, mine, rfl, method, is⟩ := deleteRunner_called called
      exact ⟨request, mine, (enters d request mine _ _ is).1, method, (authorised.rows _ _ known).1.symm⟩

/-- A call names its request. -/
theorem call_inj {first second : ManageRequest} {r other : ClientID} {force also : Bool} {token same : String}
    (is : first.call r force token = second.call other also same) : r = other := by
  unfold ManageRequest.call at is
  split at is <;> split at is
  · exact (DeploymentEvent.updateRunner.inj is).1
  · cases is
  · cases is
  · exact (DeploymentEvent.deleteRunner.inj is).1

/-- A request comes in and has the row of its name read. -/
theorem request_authorised (authorised : Authorised canManage s) {r : ClientID} {requester : Requester} {method : Method}
    {name : RunnerName} {row : RunnerRow} (fresh : s.requests.lookup r = none)
    (found : s.deployment.rows.lookup name = some row) :
    Authorised canManage
      { s with requests := s.requests.insert r ⟨requester, method, name, row.url, .checking⟩ } := by
  have others {other : ClientID} {held : ManageRequest} (known : s.requests.lookup other = some held) :
      (s.requests.insert r ⟨requester, method, name, row.url, .checking⟩).lookup other = some held := by
    rw [Map.lookup_insert_if]
    split
    · next same =>
        subst same
        cases fresh.symm.trans known
    · exact known
  constructor
  · exact authorised.rows
  · intro other held known phase
    rcases Map.lookup_of_insert known with ⟨_, rfl⟩ | ⟨_, old⟩
    · rcases phase with phase | phase <;> cases phase
    · exact authorised.permitted other held old phase
  · intro other held known mine current here reaches
    rcases Map.lookup_of_insert known with ⟨_, rfl⟩ | ⟨_, old⟩
    · cases found.symm.trans here
      exact mine
    · exact authorised.waiting other held old mine current here reaches
  · intro u held known
    obtain ⟨older, same, owner, mine, serving, manages⟩ := authorised.updating u held known
    exact ⟨older, same, owner, others mine, serving, manages⟩
  · intro d deletion known
    obtain ⟨owner, mine, rest⟩ := authorised.deletions d deletion known
    exact ⟨owner, others mine, rest⟩

/-- A permitted request makes its call of the service, which reads the row again. -/
theorem enter_authorised (authorised : Authorised canManage s) {r : ClientID} {request : ManageRequest} {force : Bool}
    {token : String} {deployment : Deployment} (found : s.requests.lookup r = some request)
    (permitted : request.phase = .permitted) (taken : s.deployment.step (request.call r force token) = some deployment) :
    Authorised canManage ({ s with deployment }.goOn r request .serving) := by
  have allowed := authorised.permitted r request found (.inl permitted)
  have serving : Authorised canManage (s.goOn r request .serving) :=
    goOn_authorised authorised found (.inr permitted) fun _ => allowed
  have mine : (s.goOn r request .serving).requests.lookup r = some { request with phase := .serving } := by
    rw [lookup_goOn, if_pos rfl]
  apply deployment_authorised serving taken
  · intro created some_
    cases method : request.method <;> simp [ManageRequest.call, method, creates] at some_
  · exact fun _ => ⟨r, _, force, token, mine, rfl⟩
  · intro other held known also same is
    obtain rfl := call_inj is
    cases mine.symm.trans known
    refine ⟨rfl, fun row here => authorised.waiting r request found allowed row here ?_⟩
    simp [ManageRequest.reaches, permitted]

theorem authorised_step (authorised : Authorised canManage s) {event : ManageEvent} (undiverted : Undiverted canManage s event)
    (taken : s.step canManage event = some after) : Authorised canManage after := by
  cases event with
  | request r requester method name =>
      simp only [step] at taken
      split at taken
      · next row found =>
          split at taken <;> cases taken
          next fresh => exact request_authorised authorised fresh found
      · cases taken
  | check r =>
      simp only [step] at taken
      split at taken
      · next request found =>
          split at taken <;> cases taken
          next checking =>
            apply goOn_authorised authorised found (.inl checking)
            intro phase
            split at phase
            · next allowed => exact allowed
            · rcases phase with phase | phase <;> cases phase
      · cases taken
  | enter r force token =>
      simp only [step] at taken
      split at taken
      · next request found =>
          split at taken
          · next permitted =>
              obtain ⟨deployment, stepped, rfl⟩ := Option.map_eq_some_iff.mp taken
              exact enter_authorised authorised found permitted stepped
          · cases taken
      · cases taken
  | abandon r =>
      simp only [step] at taken
      split at taken
      · next request found =>
          split at taken <;> cases taken
          next permitted =>
            apply goOn_authorised authorised found (.inr permitted)
            intro phase
            rcases phase with phase | phase <;> cases phase
      · cases taken
  | deployment event =>
      simp only [step] at taken
      split at taken
      · cases taken
      · next free =>
          obtain ⟨deployment, stepped, rfl⟩ := Option.map_eq_some_iff.mp taken
          apply deployment_authorised authorised stepped undiverted
          · exact fun guarded => absurd guarded free
          · intro r request _ force token is
            subst is
            cases method : request.method <;> simp [ManageRequest.call, method, DeploymentEvent.guarded] at free

theorem new_authorised (canManage : Requester → String → Bool) : Authorised canManage new := by
  constructor
  · intro name row found
    cases found
  · intro r request found
    cases found
  · intro r request found
    cases found
  · intro u held found
    cases found
  · intro d deletion found
    cases found

/-- A dashboard with an admin. -/
def administered : Dashboard (Map Token (Username × Nat)) :=
  .new Cache.expiring (some ⟨[⟨"github.com"⟩], [⟨"github.com", "root"⟩]⟩)

/-- Somebody who is logged in to github.com. -/
def loggedIn (username : Username) : Requester :=
  let users := (∅ : Map Host Username).insert "github.com" username
  ⟨⟨.authMiddleware, [("gh_token_github_com", "t")], 0, .none, .next (some users)⟩, some users⟩

/-- Alice is an admin of one repository. -/
def onlyMine (repoInfo : RepoInfo) (username : Username) (_ : Token) : Except String Bool :=
  .ok (username = "alice" && repoInfo.repo = "mine")

def creation (c : ClientID) (name : RunnerName) (repo : String) : ManageEvent :=
  .deployment (.createRunner c name "scaleset" ("https://github.com/o/" ++ repo) "" "")

/-- A permitted deletion up to the statement that deletes the row. -/
def stopping (r : ClientID) : List ManageEvent := [.enter r false "", .deployment (.removeRunner r r)]

end Management

end RunnersMux
