import RunnersMux.Orchestrator.Addresses
import RunnersMux.Orchestrator.Serving
import RunnersMux.Worker.Contacts

/-! From the allocation of a container to the payload inside it.

A shim or a scaler asks for a worker, is told an address, and has a connection or a
request to whatever container answers there. The container lets one of them start
its payload. A container that its taker cannot use is aborted by the ID it was
allocated under.
-/

set_option autoImplicit false

namespace RunnersMux

open Foundations

/-- The process of a shim, or a goroutine of `startWorker` with the config that it pushes. -/
inductive TakerKind where
  | shim
  | scaler (encodedJITConfig : String)
  deriving DecidableEq, Repr

inductive TakerPhase where
  /-- Inside `AllocateWorker`, or waiting for its answer. -/
  | requesting
  /-- About to connect, or to post. -/
  | assigned
  /-- Through to the address. -/
  | connected
  /-- About to have the container aborted. -/
  | aborting
  /-- Gone with what it had been allocated. -/
  | lost
  | ended
  deriving DecidableEq, Repr

/-- Answerable for the container of its call. -/
def TakerPhase.answers : TakerPhase → Bool
  | .requesting | .assigned | .aborting | .lost => true
  | .connected | .ended => false

structure Taker where
  kind : TakerKind
  phase : TakerPhase
  worker : Option WarmWorker
  /-- The container behind the address. Not a variable of the code. -/
  target : Option ContainerID
  deriving DecidableEq, Repr

namespace TakerKind

/-- What it sends to the worker's address. -/
def contact : TakerKind → GoroutineID → LauncherEvent
  | .shim, g => .dial g
  | .scaler encodedJITConfig, g => .postStart g true (.ok encodedJITConfig)

/-- What the launcher makes of it. -/
def contender : TakerKind → GoroutineID → Contender
  | .shim, g => .connection g
  | .scaler encodedJITConfig, g => .start g encodedJITConfig

theorem contact_brings (kind : TakerKind) (g : GoroutineID) : (kind.contact g).brings = some (kind.contender g) := by
  cases kind <;> rfl

/-- A contender is that of one call. -/
theorem contender_call {kind other : TakerKind} {g h : GoroutineID}
    (same : kind.contender g = other.contender h) : g = h := by
  cases kind <;> cases other <;> cases same <;> rfl

end TakerKind

/-- The calls that the takers make. -/
def Action.taken {Event Outcome : Type} : Action Event Outcome → Bool
  | .allocate .. | .abort .. => true
  | _ => false

/-- The address that Docker gives to a container that it creates. -/
def Action.address {Event Outcome : Type} : Action Event Outcome → Option String
  | .bootCreate _ _ _ ipAddress => some ipAddress
  | _ => none

/-- The orchestrator, the main processes of the containers, and the takers by the goroutine
that serves their call. -/
structure Handover (Managers : Type) where
  system : System Managers
  launchers : Map ContainerID WorkerLauncher
  takers : Map GoroutineID Taker

inductive HandoverEvent (Event Outcome : Type) where
  | system (action : Action Event Outcome)
  | request (g : GoroutineID) (runner : RunnerName) (choice : Option ContainerID) (kind : TakerKind)
  | answer (g : GoroutineID)
  | quit (g : GoroutineID)
  /-- With the container that answers at the address, if the connection succeeds. -/
  | contact (g : GoroutineID) (target : Option ContainerID)
  | proceed (g : GoroutineID) (failed : Bool)
  | abort (g h : GoroutineID)
  | launcher (id : ContainerID) (event : LauncherEvent)

namespace System

variable {Managers Event Outcome : Type} {interfaces : Interfaces Managers Event Outcome}
  {state after : System Managers} {action : Action Event Outcome}

theorem Assigned.active_known (assigned : Assigned state) {id : ContainerID}
    (active : id ∈ state.orchestrator.activeWorkers) : state.docker.lookup id ≠ none := by
  intro absent
  have unknown := (assigned.unknown id absent).2
  have holders := state.occupied_nonneg id
  have one := activeAt_mem active
  omega

/-- A call that has returned stays as it is. -/
theorem effect_returned (effect : Effect interfaces state action after) {g : GoroutineID} {runner : RunnerName}
    {worker : WarmWorker} (returned : state.goroutines.lookup g = some (.allocate runner (.returned worker))) :
    after.goroutines.lookup g = some (.allocate runner (.returned worker)) := by
  have resumes := effect_resumes effect g
  rw [returned] at resumes
  generalize after.goroutines.lookup g = new at resumes ⊢
  cases resumes with
  | same => rfl
  | progresses progress => cases progress

/-- A call has begun with this step, or has been under way and is still the same. -/
theorem effect_call (effect : Effect interfaces state action after) {g : GoroutineID} {runner : RunnerName}
    {phase : AllocatePhase} (call : after.goroutines.lookup g = some (.allocate runner phase)) :
    (∃ choice, action = .allocate g runner choice) ∨ ∃ before,
      state.goroutines.lookup g = some (.allocate runner before) ∧
        (before = phase ∨ (Goroutine.allocate runner before).reply = none) := by
  have resumes := effect_resumes effect g
  rw [call] at resumes
  generalize state.goroutines.lookup g = old at resumes ⊢
  cases resumes with
  | same => exact .inr ⟨phase, rfl, .inl rfl⟩
  | progresses progress =>
      cases progress with
      | begins begun => exact .inl ⟨_, begun⟩
      | _ => exact .inr ⟨_, rfl, .inr rfl⟩

end System

namespace Handover

variable {Managers Event Outcome : Type}

/-- A container that is created starts its launcher. -/
def launched (launchers : Map ContainerID WorkerLauncher) : Action Event Outcome → Map ContainerID WorkerLauncher
  | .bootCreate _ id _ _ => launchers.insert id .new
  | _ => launchers

def retake (s : Handover Managers) (g : GoroutineID) (taker : Taker) : Handover Managers :=
  { s with takers := s.takers.insert g taker }

/-- What `AllocateWorker` has returned. -/
def answer (s : Handover Managers) (g : GoroutineID) (taker : Taker) : Option (Handover Managers) :=
  if taker.phase = .requesting then
    match (s.system.goroutines.lookup g).bind Goroutine.reply with
    | some (.response workerIP containerID) =>
        some (s.retake g { taker with phase := .assigned, worker := some ⟨containerID, workerIP⟩ })
    | some (.error _ _) => some (s.retake g { taker with phase := .ended })
    | none => none
  else none

/-- A shim is killed, gives up on the response or gets none to its request for an abort. -/
def quit (s : Handover Managers) (g : GoroutineID) (taker : Taker) : Option (Handover Managers) :=
  if taker.kind = .shim ∧ taker.phase ≠ .lost ∧ taker.phase ≠ .ended then
    some (s.retake g { taker with phase := if taker.phase = .connected then .ended else .lost })
  else none

/-- The connection of a shim to port 9000, or the request of a scaler to port 9001. -/
def contact (s : Handover Managers) (g : GoroutineID) (taker : Taker) : Option ContainerID → Option (Handover Managers)
  | none => if taker.phase = .assigned then some (s.retake g { taker with phase := .aborting }) else none
  | some id =>
      match taker.worker, s.system.docker.lookup id, s.launchers.lookup id with
      | some worker, some container, some launcher =>
          if taker.phase = .assigned ∧ container.running = true ∧ container.ipAddress = worker.ipAddress then
            (launcher.step (taker.kind.contact g)).map fun launcher =>
              { s with
                launchers := s.launchers.insert id launcher
                takers := s.takers.insert g { taker with phase := .connected, target := some id } }
          else none
      | _, _, _ => none

/-- A shim that cannot write its header has the worker aborted, a scaler one that does not answer with 200. -/
def proceed (s : Handover Managers) (g : GoroutineID) (taker : Taker) (failed : Bool) : Option (Handover Managers) :=
  if taker.phase = .connected then
    if failed = true then some (s.retake g { taker with phase := .aborting })
    else
      match taker.kind with
      | .shim => some (s.retake g { taker with phase := .ended })
      | .scaler _ =>
          match (taker.target.bind s.launchers.lookup).bind fun launcher => launcher.starts.lookup g with
          | some (.answered status) =>
              some (s.retake g { taker with phase := if status = 200 then .ended else .aborting })
          | _ => none
  else none

def step (interfaces : Interfaces Managers Event Outcome) (s : Handover Managers) :
    HandoverEvent Event Outcome → Option (Handover Managers)
  | .system action =>
      if action.taken = true then none
      else
        (System.step interfaces s.system action).map fun system =>
          { s with system, launchers := launched s.launchers action }
  | .request g runner choice kind =>
      if s.takers.lookup g = none then
        (System.step interfaces s.system (.allocate g runner choice)).map fun system =>
          { s with system, takers := s.takers.insert g ⟨kind, .requesting, none, none⟩ }
      else none
  | .answer g => (s.takers.lookup g).bind (s.answer g)
  | .quit g => (s.takers.lookup g).bind (s.quit g)
  | .contact g target => (s.takers.lookup g).bind fun taker => s.contact g taker target
  | .proceed g failed => (s.takers.lookup g).bind fun taker => s.proceed g taker failed
  | .abort g h =>
      match s.takers.lookup g with
      | some taker =>
          match taker.worker with
          | some worker =>
              if taker.phase = .aborting then
                (System.step interfaces s.system (.abort h worker.containerID)).map fun system =>
                  { s with system, takers := s.takers.insert g { taker with phase := .ended } }
              else none
          | none => none
      | none => none
  | .launcher id event =>
      match s.launchers.lookup id with
      | some launcher =>
          if s.system.running id = true ∧ event.brings = none then
            (launcher.step event).map fun launcher => { s with launchers := s.launchers.insert id launcher }
          else none
      | none => none

/-- Docker gives a container an address at which nobody answers, and connections and requests
have identities of their own. -/
def Permits (s : Handover Managers) : HandoverEvent Event Outcome → Prop
  | .system action => ∀ ipAddress ∈ action.address, System.Unused s.system.docker ipAddress
  | .request g _ _ kind =>
      ∀ id ∈ s.launchers.keys, ∀ launcher ∈ s.launchers.lookup id, ¬launcher.Knows (kind.contender g)
  | _ => True

instance (s : Handover Managers) : (event : HandoverEvent Event Outcome) → Decidable (s.Permits event)
  | .system action => inferInstanceAs (Decidable (∀ ipAddress ∈ action.address, _))
  | .request _ _ _ _ => inferInstanceAs (Decidable (∀ id ∈ _, _))
  | .answer _ | .quit _ | .contact _ _ | .proceed _ _ | .abort _ _ | .launcher _ _ => isTrue trivial

/-- Nobody has had the use of a container before the process starts. -/
def Unclaimed (first : Handover Managers) (id : ContainerID) : Prop :=
  first.system.docker.lookup id = none ∨ id ∈ first.system.orchestrator.warmPool

/-- The process starts, and nobody has got through to the containers that it recovers into its pool. -/
structure Opens (maxWorkers warmWorkers : Int) (managers : Managers) (s : Handover Managers) : Prop where
  booted : ∃ docker listing, (∀ containers, listing = some containers → Reports docker containers) ∧
    s.system = System.booted maxWorkers warmWorkers docker listing managers
  apart : System.Apart s.system.docker
  takers : s.takers = ∅
  coherent : ∀ id launcher, s.launchers.lookup id = some launcher → launcher.Coherent
  unused : ∀ id launcher contender, s.launchers.lookup id = some launcher → s.Unclaimed id → ¬launcher.Knows contender

/-- Somebody answers for an allocated container, or has got through to it. -/
inductive Minded (s : Handover Managers) (id : ContainerID) : Prop where
  | answers {g : GoroutineID} {taker : Taker} {runner : RunnerName} (found : s.takers.lookup g = some taker)
      (answers : taker.phase.answers = true)
      (registered : (s.system.goroutines.lookup g).bind Goroutine.registered = some (id, runner))
  | reached {g : GoroutineID} {taker : Taker} {launcher : WorkerLauncher} (found : s.takers.lookup g = some taker)
      (there : s.launchers.lookup id = some launcher) (knows : launcher.Knows (taker.kind.contender g))

/-- The taker of a payload was allocated the container, or one that has stopped. -/
structure Owns (s : Handover Managers) (id : ContainerID) (payload : WorkerPayload) (g : GoroutineID) (taker : Taker)
    (runner : RunnerName) (worker : WarmWorker) : Prop where
  found : s.takers.lookup g = some taker
  starter : payload.starter = taker.kind.contender g
  target : taker.target = some id
  returned : s.system.goroutines.lookup g = some (.allocate runner (.returned worker))
  place : worker.containerID = id ∨ s.system.Gone worker.containerID

/-- What has become of the containers that nobody had the use of. -/
structure HandedOver (first s : Handover Managers) : Prop where
  once : ∀ id launcher, s.launchers.lookup id = some launcher → launcher.payloads.length ≤ 1
  owned : ∀ id launcher, s.launchers.lookup id = some launcher → Unclaimed first id → ∀ payload ∈ launcher.payloads,
    ∃ g taker runner worker, s.Owns id payload g taker runner worker
  busy : ∀ id launcher contender, s.launchers.lookup id = some launcher → launcher.Knows contender →
    launcher.payloads ≠ [] ∨ launcher.Pending contender
  minded : ∀ id worker, s.system.orchestrator.activeWorkers.lookup id = some worker →
    s.system.running id = true → id ∉ first.system.orchestrator.activeWorkers → s.Minded id

/-- What a run keeps. -/
structure Kept (first s : Handover Managers) : Prop where
  assigned : System.Assigned s.system
  addressed : System.Addressed s.system
  apart : System.Apart s.system.docker
  coherent : ∀ id launcher, s.launchers.lookup id = some launcher → launcher.Coherent
  answered : ∀ g taker worker, s.takers.lookup g = some taker → taker.worker = some worker →
    ∃ runner, s.system.goroutines.lookup g = some (.allocate runner (.returned worker))
  untold : ∀ g taker, s.takers.lookup g = some taker → taker.phase = .requesting → taker.worker = none
  unsent : ∀ g taker, s.takers.lookup g = some taker → taker.phase = .requesting ∨ taker.phase = .assigned →
    taker.target = none
  targets : ∀ g taker id, s.takers.lookup g = some taker → taker.target = some id →
    ∃ worker, taker.worker = some worker ∧ (worker.containerID = id ∨ s.system.Gone worker.containerID)
  through : ∀ id launcher g taker, s.launchers.lookup id = some launcher → s.takers.lookup g = some taker →
    launcher.Knows (taker.kind.contender g) → taker.target = some id
  own : ∀ id launcher contender, s.launchers.lookup id = some launcher → Unclaimed first id →
    launcher.Knows contender → ∃ g taker, s.takers.lookup g = some taker ∧ contender = taker.kind.contender g
  calls : ∀ g runner phase, s.system.goroutines.lookup g = some (.allocate runner phase) →
    ∃ taker, s.takers.lookup g = some taker ∧
      ((Goroutine.allocate runner phase).reply = none → taker.phase = .requesting ∨ taker.phase = .lost)
  minded : ∀ id worker, s.system.orchestrator.activeWorkers.lookup id = some worker →
    s.system.running id = true → id ∉ first.system.orchestrator.activeWorkers → s.Minded id

section
variable {first s : Handover Managers}

theorem launched_lookup {launchers : Map ContainerID WorkerLauncher} {action : Action Event Outcome} {id : ContainerID}
    {launcher : WorkerLauncher} (found : (launched launchers action).lookup id = some launcher) :
    launchers.lookup id = some launcher ∨ launcher = .new := by
  unfold launched at found
  split at found
  · rcases Map.lookup_of_insert found with ⟨_, same⟩ | ⟨_, old⟩
    · exact .inr same.symm
    · exact .inl old
  · exact .inl found

/-- A container that Docker has known keeps its launcher. -/
theorem launched_known {interfaces : Interfaces Managers Event Outcome} {state after : System Managers}
    {action : Action Event Outcome} (effect : System.Effect interfaces state action after)
    (launchers : Map ContainerID WorkerLauncher) {id : ContainerID} (known : state.docker.lookup id ≠ none) :
    (launched launchers action).lookup id = launchers.lookup id := by
  cases effect with
  | @bootCreate g key short ipAddress found fresh =>
      apply Finmap.lookup_insert_of_ne
      rintro rfl
      exact known fresh
  | _ => rfl

/-- A step of the orchestrator. A call that it begins is one that a taker makes. -/
theorem Kept.orchestrates (kept : Kept first s) {interfaces : Interfaces Managers Event Outcome}
    {system : System Managers} {action : Action Event Outcome}
    (effect : System.Effect interfaces s.system action system)
    (unused : ∀ ipAddress ∈ action.address, System.Unused s.system.docker ipAddress)
    (called : ∀ g runner choice, action = .allocate g runner choice →
      ∃ taker, s.takers.lookup g = some taker ∧ taker.phase = .requesting) :
    Kept first { s with system, launchers := launched s.launchers action } := by
  have unmoved := System.effect_unmoved effect
  constructor
  · exact System.assigned_step interfaces kept.assigned effect
  · exact System.addressed_step interfaces kept.addressed effect
  · apply System.apart_step kept.apart effect
    rintro g id short ipAddress rfl
    exact unused ipAddress rfl
  · intro id launcher found
    rcases launched_lookup found with old | rfl
    · exact kept.coherent id launcher old
    · exact WorkerLauncher.new_coherent
  · intro g taker worker found has
    obtain ⟨runner, returned⟩ := kept.answered g taker worker found has
    exact ⟨runner, System.effect_returned effect returned⟩
  · exact kept.untold
  · exact kept.unsent
  · intro g taker id found target
    obtain ⟨worker, has, place⟩ := kept.targets g taker id found target
    exact ⟨worker, has, place.imp_right unmoved.gone⟩
  · intro id launcher g taker found mine knows
    rcases launched_lookup found with old | rfl
    · exact kept.through id launcher g taker old mine knows
    · exact absurd knows (WorkerLauncher.new_knows _)
  · intro id launcher contender found free knows
    rcases launched_lookup found with old | rfl
    · exact kept.own id launcher contender old free knows
    · exact absurd knows (WorkerLauncher.new_knows _)
  · intro g runner phase call
    rcases System.effect_call effect call with ⟨choice, begun⟩ | ⟨before, earlier, same | open_⟩
    · obtain ⟨taker, found, requesting⟩ := called g runner choice begun
      exact ⟨taker, found, fun _ => .inl requesting⟩
    · subst same
      exact kept.calls g runner before earlier
    · obtain ⟨taker, found, waits⟩ := kept.calls g runner before earlier
      exact ⟨taker, found, fun _ => waits open_⟩
  · intro id worker active running new
    rcases System.effect_active effect active with before | ⟨g, ⟨runner, phase, call, claims⟩, registered⟩
    · have known := kept.assigned.active_known (Finmap.mem_of_lookup_eq_some before)
      cases kept.minded id worker before (unmoved.running known running) new with
      | answers found answers made => exact .answers found answers (System.effect_registered effect made)
      | reached found there knows => exact .reached found ((launched_known effect s.launchers known).trans there) knows
    · obtain ⟨taker, found, waits⟩ := kept.calls g runner phase call
      have answers : taker.phase.answers = true := by
        rcases waits (by cases phase <;> first | rfl | cases claims) with requesting | lost
        · rw [requesting, TakerPhase.answers]
        · rw [lost, TakerPhase.answers]
      exact .answers found answers registered

/-- A taker goes on by itself. While its call is under way it stays with it, and it stays answerable
for a container that is still active unless it has got through to that. -/
theorem Kept.retake (kept : Kept first s) {g : GoroutineID} {old new : Taker} (found : s.takers.lookup g = some old)
    (kind : new.kind = old.kind) (target : ∀ id, old.target = some id → new.target = some id)
    (targets : ∀ id, new.target = some id →
      ∃ worker, new.worker = some worker ∧ (worker.containerID = id ∨ s.system.Gone worker.containerID))
    (answered : ∀ worker, new.worker = some worker →
      ∃ runner, s.system.goroutines.lookup g = some (.allocate runner (.returned worker)))
    (untold : new.phase = .requesting → new.worker = none)
    (unsent : new.phase = .requesting ∨ new.phase = .assigned → new.target = none)
    (waits : (s.system.goroutines.lookup g).bind Goroutine.reply = none → old.phase = .requesting ∨ old.phase = .lost →
      new.phase = .requesting ∨ new.phase = .lost)
    (minds : ∀ id runner, (s.system.goroutines.lookup g).bind Goroutine.registered = some (id, runner) →
      old.phase.answers = true → id ∈ s.system.orchestrator.activeWorkers → s.system.running id = true →
      new.phase.answers = true ∨
        ∃ launcher, s.launchers.lookup id = some launcher ∧ launcher.Knows (old.kind.contender g)) :
    Kept first (s.retake g new) := by
  have mine {h : GoroutineID} {taker : Taker} (looked : (s.retake g new).takers.lookup h = some taker) :
      h = g ∧ taker = new ∨ s.takers.lookup h = some taker := by
    rcases Map.lookup_of_insert looked with ⟨same, is⟩ | ⟨_, before⟩
    · exact .inl ⟨same, is.symm⟩
    · exact .inr before
  have there {h : GoroutineID} {taker : Taker} (looked : s.takers.lookup h = some taker) :
      ∃ later, (s.retake g new).takers.lookup h = some later ∧ later.kind = taker.kind := by
    by_cases same : h = g
    · subst same
      cases found.symm.trans looked
      exact ⟨new, Finmap.lookup_insert _, kind⟩
    · exact ⟨taker, (Finmap.lookup_insert_of_ne _ same).trans looked, rfl⟩
  constructor
  · exact kept.assigned
  · exact kept.addressed
  · exact kept.apart
  · exact kept.coherent
  · intro h taker worker looked has
    rcases mine looked with ⟨rfl, rfl⟩ | before
    · exact answered worker has
    · exact kept.answered h taker worker before has
  · intro h taker looked phase
    rcases mine looked with ⟨rfl, rfl⟩ | before
    · exact untold phase
    · exact kept.untold h taker before phase
  · intro h taker looked phase
    rcases mine looked with ⟨rfl, rfl⟩ | before
    · exact unsent phase
    · exact kept.unsent h taker before phase
  · intro h taker id looked reaches
    rcases mine looked with ⟨rfl, rfl⟩ | before
    · exact targets id reaches
    · exact kept.targets h taker id before reaches
  · intro id launcher h taker launches looked knows
    rcases mine looked with ⟨rfl, rfl⟩ | before
    · rw [kind] at knows
      exact target id (kept.through id launcher h old launches found knows)
    · exact kept.through id launcher h taker launches before knows
  · intro id launcher contender launches free knows
    obtain ⟨h, taker, looked, rfl⟩ := kept.own id launcher contender launches free knows
    obtain ⟨later, still, same⟩ := there looked
    exact ⟨h, later, still, by rw [same]⟩
  · intro h runner phase call
    obtain ⟨taker, looked, open_⟩ := kept.calls h runner phase call
    by_cases same : h = g
    · subst same
      cases found.symm.trans looked
      refine ⟨new, Finmap.lookup_insert _, fun none_ => waits ?_ (open_ none_)⟩
      exact (congrArg (·.bind Goroutine.reply) call).trans none_
    · exact ⟨taker, (Finmap.lookup_insert_of_ne _ same).trans looked, open_⟩
  · intro id worker active running fresh
    cases kept.minded id worker active running fresh with
    | @answers h taker runner looked answers registered =>
        by_cases same : h = g
        · subst same
          cases found.symm.trans looked
          have member := Finmap.mem_of_lookup_eq_some active
          rcases minds id runner registered answers member running with still | ⟨_, there, knows⟩
          · exact .answers (Finmap.lookup_insert _) still registered
          · exact .reached (Finmap.lookup_insert _) there (by rwa [kind])
        · exact .answers ((Finmap.lookup_insert_of_ne _ same).trans looked) answers registered
    | reached looked launches knows =>
        obtain ⟨later, still, same⟩ := there looked
        exact .reached still launches (by rwa [same])

/-- Such a taker goes on to one of the later phases. -/
theorem Kept.move (kept : Kept first s) {g : GoroutineID} {taker : Taker} (found : s.takers.lookup g = some taker)
    {phase : TakerPhase} (told : phase ≠ .requesting) (sent : phase ≠ .assigned)
    (waits : (s.system.goroutines.lookup g).bind Goroutine.reply = none →
      taker.phase = .requesting ∨ taker.phase = .lost → phase = .lost)
    (minds : ∀ id runner, (s.system.goroutines.lookup g).bind Goroutine.registered = some (id, runner) →
      taker.phase.answers = true → id ∈ s.system.orchestrator.activeWorkers → phase.answers = true) :
    Kept first (s.retake g { taker with phase }) := by
  refine kept.retake found rfl (fun _ => id) (fun id => kept.targets g taker id found)
    (fun worker => kept.answered g taker worker found) ?_ ?_ ?_ ?_
  · intro requesting
    exact absurd requesting told
  · intro early
    exact absurd early (not_or.mpr ⟨told, sent⟩)
  · exact fun none_ before => .inr (waits none_ before)
  · exact fun id runner registered answers active _ => .inl (minds id runner registered answers active)

theorem Kept.answer (kept : Kept first s) {g : GoroutineID} {taker : Taker} {after : Handover Managers}
    (found : s.takers.lookup g = some taker) (taken : s.answer g taker = some after) : Kept first after := by
  obtain ⟨requesting, made⟩ := Option.ite_none_right_eq_some.mp taken
  split at made
  · next workerIP containerID reply =>
      cases made
      obtain ⟨goroutine, looked, replies⟩ := Option.bind_eq_some_iff.mp reply
      have target := kept.unsent g taker found (.inl requesting)
      refine kept.retake found rfl (fun _ => id) ?_ ?_ ?_ ?_ ?_ ?_
      · simp [target]
      · intro worker is
        cases is
        unfold Goroutine.reply at replies
        split at replies <;> cases replies
        exact ⟨_, looked⟩
      · simp
      · simp [target]
      · simp [reply]
      · simp [TakerPhase.answers]
  · next text status reply =>
      cases made
      obtain ⟨goroutine, looked, replies⟩ := Option.bind_eq_some_iff.mp reply
      refine kept.move found (by simp) (by simp) (by simp [reply]) ?_
      intro id runner registered
      rw [looked] at registered
      unfold Goroutine.reply at replies
      split at replies <;> cases replies
      cases registered
  · cases made

theorem Kept.quit (kept : Kept first s) {g : GoroutineID} {taker : Taker} {after : Handover Managers}
    (found : s.takers.lookup g = some taker) (taken : s.quit g taker = some after) : Kept first after := by
  obtain ⟨⟨_, stays, goes⟩, made⟩ := Option.ite_none_right_eq_some.mp taken
  cases made
  split
  · next connected =>
      refine kept.move found (by simp) (by simp) ?_ ?_
      · simp [connected]
      · simp [connected, TakerPhase.answers]
  · refine kept.move found (by simp) (by simp) (fun _ _ => rfl) ?_
    simp [TakerPhase.answers]

/-- Without a connection the taker has its own container aborted. -/
theorem Kept.miss (kept : Kept first s) {g : GoroutineID} {taker : Taker} {after : Handover Managers}
    (found : s.takers.lookup g = some taker) (taken : s.contact g taker none = some after) : Kept first after := by
  obtain ⟨assigned, made⟩ := Option.ite_none_right_eq_some.mp taken
  cases made
  refine kept.move found (by simp) (by simp) ?_ ?_
  · simp [assigned]
  · simp [TakerPhase.answers]

theorem Kept.proceed (kept : Kept first s) {g : GoroutineID} {taker : Taker} {failed : Bool} {after : Handover Managers}
    (found : s.takers.lookup g = some taker) (taken : s.proceed g taker failed = some after) : Kept first after := by
  obtain ⟨connected, made⟩ := Option.ite_none_right_eq_some.mp taken
  have moves {phase : TakerPhase} (later : phase = .aborting ∨ phase = .ended) :
      Kept first (s.retake g { taker with phase }) := by
    refine kept.move found ?_ ?_ ?_ ?_
    · rcases later with rfl | rfl <;> simp
    · rcases later with rfl | rfl <;> simp
    · simp [connected]
    · simp [connected, TakerPhase.answers]
  split at made
  · cases made
    exact moves (.inl rfl)
  · split at made
    · cases made
      exact moves (.inr rfl)
    · split at made
      · cases made
        split
        · exact moves (.inr rfl)
        · exact moves (.inl rfl)
      · cases made

/-- A step of the main process of a container. Whom it brings is through to that container. -/
theorem Kept.launches (kept : Kept first s) {id : ContainerID} {event : LauncherEvent} {launcher later : WorkerLauncher}
    (there : s.launchers.lookup id = some launcher) (taken : launcher.step event = some later)
    (brought : ∀ contender, event.brings = some contender →
      ∃ g taker, s.takers.lookup g = some taker ∧ contender = taker.kind.contender g ∧ taker.target = some id) :
    Kept first { s with launchers := s.launchers.insert id later } := by
  have either {key : ContainerID} {other : WorkerLauncher}
      (found : (s.launchers.insert id later).lookup key = some other) :
      key = id ∧ other = later ∨ s.launchers.lookup key = some other := by
    rcases Map.lookup_of_insert found with ⟨same, is⟩ | ⟨_, before⟩
    · exact .inl ⟨same, is.symm⟩
    · exact .inr before
  constructor
  · exact kept.assigned
  · exact kept.addressed
  · exact kept.apart
  · intro key other found
    rcases either found with ⟨rfl, rfl⟩ | before
    · exact (kept.coherent key launcher there).step taken
    · exact kept.coherent key other before
  · exact kept.answered
  · exact kept.untold
  · exact kept.unsent
  · exact kept.targets
  · intro key other g taker found mine knows
    rcases either found with ⟨rfl, rfl⟩ | before
    · rcases (WorkerLauncher.step_knows taken _).mp knows with known | brings
      · exact kept.through key launcher g taker there mine known
      · obtain ⟨h, comer, comes, same, target⟩ := brought _ brings
        cases TakerKind.contender_call same
        cases comes.symm.trans mine
        exact target
    · exact kept.through key other g taker before mine knows
  · intro key other contender found free knows
    rcases either found with ⟨rfl, rfl⟩ | before
    · rcases (WorkerLauncher.step_knows taken _).mp knows with known | brings
      · exact kept.own key launcher contender there free known
      · obtain ⟨g, taker, found, same, _⟩ := brought _ brings
        exact ⟨g, taker, found, same⟩
    · exact kept.own key other contender before free knows
  · exact kept.calls
  · intro key worker active running fresh
    cases kept.minded key worker active running fresh with
    | answers found answers registered => exact .answers found answers registered
    | @reached g taker other found launches knows =>
        by_cases same : key = id
        · subst same
          cases there.symm.trans launches
          exact .reached found (Finmap.lookup_insert _) ((WorkerLauncher.step_knows taken _).mpr (.inl knows))
        · exact .reached found ((Finmap.lookup_insert_of_ne _ same).trans launches) knows

/-- What answers at the address of a worker is the worker's container, or that one has stopped. -/
theorem Kept.place (kept : Kept first s) {g : GoroutineID} {taker : Taker} {worker : WarmWorker} {id : ContainerID}
    {container : Container} (found : s.takers.lookup g = some taker) (has : taker.worker = some worker)
    (known : s.system.docker.lookup id = some container) (running : container.running = true)
    (address : container.ipAddress = worker.ipAddress) :
    worker.containerID = id ∨ s.system.Gone worker.containerID := by
  obtain ⟨runner, returned⟩ := kept.answered g taker worker found has
  obtain ⟨record, there, same⟩ := kept.addressed.goroutines g _ worker returned rfl
  cases runs : record.running with
  | false => exact .inr ⟨record, there, runs⟩
  | true => exact .inl (kept.apart.eq there known runs running (same.trans address.symm))

theorem Kept.contact (kept : Kept first s) {g : GoroutineID} {taker : Taker} {id : ContainerID}
    {after : Handover Managers} (found : s.takers.lookup g = some taker)
    (taken : s.contact g taker (some id) = some after) : Kept first after := by
  simp only [Handover.contact] at taken
  split at taken
  · next worker container launcher has known there =>
      obtain ⟨⟨assigned, running, address⟩, made⟩ := Option.ite_none_right_eq_some.mp taken
      obtain ⟨later, stepped, rfl⟩ := Option.map_eq_some_iff.mp made
      have place := kept.place found has known running address
      -- It has got through before it gives up what it answers for.
      have sent : Kept first (s.retake g { taker with phase := .aborting, target := some id }) := by
        refine kept.retake found rfl ?_ ?_ (fun worker => kept.answered g taker worker found) ?_ ?_ ?_ ?_
        · simp [kept.unsent g taker found (.inr assigned)]
        · intro key target
          cases target
          exact ⟨worker, has, place⟩
        · simp
        · simp
        · simp [assigned]
        · simp [TakerPhase.answers]
      have looked : (s.retake g { taker with phase := .aborting, target := some id }).takers.lookup g =
          some { taker with phase := .aborting, target := some id } := Finmap.lookup_insert _
      have brings := taker.kind.contact_brings g
      have reached := sent.launches there stepped fun contender comes =>
        ⟨g, _, looked, (Option.some.inj (brings.symm.trans comes)).symm, rfl⟩
      have connected : Kept first ({ s.retake g { taker with phase := .aborting, target := some id } with
          launchers := s.launchers.insert id later }.retake g
            { taker with phase := .connected, target := some id }) := by
        refine reached.retake looked rfl (fun _ target => target) ?_ (fun worker => kept.answered g taker worker found)
          ?_ ?_ ?_ ?_
        · intro key target
          cases target
          exact ⟨worker, has, place⟩
        · simp
        · simp
        · simp
        · intro key runner registered _ _ runs
          right
          obtain ⟨_, returned⟩ := kept.answered g taker worker found has
          have same : worker.containerID = key := by
            have registered := (congrArg (·.bind Goroutine.registered) returned).symm.trans registered
            exact congrArg Prod.fst (Option.some.inj registered)
          rcases place with rfl | ⟨record, there, dead⟩
          · subst same
            exact ⟨later, Finmap.lookup_insert _, (WorkerLauncher.step_knows stepped _).mpr (.inr brings)⟩
          · obtain ⟨now, there', alive⟩ := System.running_iff.mp runs
            subst same
            cases there.symm.trans there'
            cases dead.symm.trans alive
      simpa only [Handover.retake, Finmap.insert_insert] using connected
  · cases taken

/-- A taker begins, of which no container has heard. -/
theorem Kept.begins (kept : Kept first s) {g : GoroutineID} {kind : TakerKind} (new : s.takers.lookup g = none)
    (unheard : ∀ id launcher, s.launchers.lookup id = some launcher → ¬launcher.Knows (kind.contender g)) :
    Kept first (s.retake g ⟨kind, .requesting, none, none⟩) := by
  have mine {h : GoroutineID} {taker : Taker}
      (looked : (s.retake g ⟨kind, .requesting, none, none⟩).takers.lookup h = some taker) :
      h = g ∧ taker = ⟨kind, .requesting, none, none⟩ ∨ s.takers.lookup h = some taker := by
    rcases Map.lookup_of_insert looked with ⟨same, is⟩ | ⟨_, before⟩
    · exact .inl ⟨same, is.symm⟩
    · exact .inr before
  have there {h : GoroutineID} {taker : Taker} (looked : s.takers.lookup h = some taker) :
      (s.retake g ⟨kind, .requesting, none, none⟩).takers.lookup h = some taker := by
    refine (Finmap.lookup_insert_of_ne _ ?_).trans looked
    rintro rfl
    cases new.symm.trans looked
  constructor
  · exact kept.assigned
  · exact kept.addressed
  · exact kept.apart
  · exact kept.coherent
  · intro h taker worker looked has
    rcases mine looked with ⟨rfl, rfl⟩ | before
    · cases has
    · exact kept.answered h taker worker before has
  · intro h taker looked phase
    rcases mine looked with ⟨rfl, rfl⟩ | before
    · rfl
    · exact kept.untold h taker before phase
  · intro h taker looked phase
    rcases mine looked with ⟨rfl, rfl⟩ | before
    · rfl
    · exact kept.unsent h taker before phase
  · intro h taker id looked target
    rcases mine looked with ⟨rfl, rfl⟩ | before
    · cases target
    · exact kept.targets h taker id before target
  · intro id launcher h taker launches looked knows
    rcases mine looked with ⟨rfl, rfl⟩ | before
    · exact absurd knows (unheard id launcher launches)
    · exact kept.through id launcher h taker launches before knows
  · intro id launcher contender launches free knows
    obtain ⟨h, taker, looked, same⟩ := kept.own id launcher contender launches free knows
    exact ⟨h, taker, there looked, same⟩
  · intro h runner phase call
    obtain ⟨taker, looked, waits⟩ := kept.calls h runner phase call
    exact ⟨taker, there looked, waits⟩
  · intro id worker active running fresh
    cases kept.minded id worker active running fresh with
    | answers looked answers registered => exact .answers (there looked) answers registered
    | reached looked launches knows => exact .reached (there looked) launches knows

theorem abort_inactive {interfaces : Interfaces Managers Event Outcome} {state after : System Managers}
    {h : GoroutineID} {id : ContainerID} (effect : System.Effect interfaces state (.abort h id) after) :
    id ∉ after.orchestrator.activeWorkers := by
  cases effect with
  | abortActive found =>
      simp [Orchestrator.removeActive]
  | abortUnknown absent =>
      intro active
      obtain ⟨worker, found⟩ := Finmap.mem_iff.mp active
      cases absent.symm.trans found

/-- The request for an abort takes the container of the call out of `activeWorkers`. -/
theorem Kept.aborts (kept : Kept first s) {interfaces : Interfaces Managers Event Outcome} {system : System Managers}
    {g h : GoroutineID} {taker : Taker} {worker : WarmWorker} (found : s.takers.lookup g = some taker)
    (has : taker.worker = some worker) (aborting : taker.phase = .aborting)
    (effect : System.Effect interfaces s.system (.abort h worker.containerID) system) :
    Kept first { s with system, takers := s.takers.insert g { taker with phase := .ended } } := by
  have gone : Kept first { s with system, launchers := s.launchers } :=
    kept.orchestrates effect (fun _ address => by cases address) (fun _ _ _ begun => by cases begun)
  apply gone.move found (by simp) (by simp)
  · simp [aborting]
  · intro id runner registered _ active
    obtain ⟨_, returned⟩ := gone.answered g taker worker found has
    have same := (congrArg (·.bind Goroutine.registered) returned).symm.trans registered
    cases congrArg Prod.fst (Option.some.inj same)
    exact absurd active (abort_inactive effect)

theorem kept_step (interfaces : Interfaces Managers Event Outcome) {event : HandoverEvent Event Outcome}
    {after : Handover Managers} (kept : Kept first s) (permits : s.Permits event)
    (taken : step interfaces s event = some after) : Kept first after := by
  cases event with
  | system action =>
      simp only [step] at taken
      split at taken
      · cases taken
      · next free =>
          obtain ⟨system, stepped, rfl⟩ := Option.map_eq_some_iff.mp taken
          apply kept.orchestrates (System.step_effect interfaces stepped) permits
          rintro g runner choice rfl
          exact absurd rfl free
  | request g runner choice kind =>
      obtain ⟨new, made⟩ := Option.ite_none_right_eq_some.mp taken
      obtain ⟨system, stepped, rfl⟩ := Option.map_eq_some_iff.mp made
      have begun := kept.begins new fun id launcher found =>
        permits id (Finmap.mem_keys.mpr (Finmap.mem_of_lookup_eq_some found)) launcher found
      refine begun.orchestrates (System.step_effect interfaces stepped) (fun _ address => by cases address) ?_
      intro h runner choice same
      cases same
      exact ⟨_, Finmap.lookup_insert _, rfl⟩
  | answer g =>
      obtain ⟨taker, found, made⟩ := Option.bind_eq_some_iff.mp taken
      exact kept.answer found made
  | quit g =>
      obtain ⟨taker, found, made⟩ := Option.bind_eq_some_iff.mp taken
      exact kept.quit found made
  | contact g target =>
      obtain ⟨taker, found, made⟩ := Option.bind_eq_some_iff.mp taken
      cases target with
      | none => exact kept.miss found made
      | some id => exact kept.contact found made
  | proceed g failed =>
      obtain ⟨taker, found, made⟩ := Option.bind_eq_some_iff.mp taken
      exact kept.proceed found made
  | abort g h =>
      simp only [step] at taken
      split at taken
      · next taker found =>
          split at taken
          · next worker has =>
              obtain ⟨aborting, made⟩ := Option.ite_none_right_eq_some.mp taken
              obtain ⟨system, stepped, rfl⟩ := Option.map_eq_some_iff.mp made
              exact kept.aborts found has aborting (System.step_effect interfaces stepped)
          · cases taken
      · cases taken
  | launcher id event =>
      simp only [step] at taken
      split at taken
      · next launcher there =>
          obtain ⟨⟨_, alone⟩, made⟩ := Option.ite_none_right_eq_some.mp taken
          obtain ⟨later, stepped, rfl⟩ := Option.map_eq_some_iff.mp made
          refine kept.launches there stepped ?_
          intro contender brings
          cases alone.symm.trans brings
      · cases taken

theorem Opens.kept {maxWorkers warmWorkers : Int} {managers : Managers}
    (opens : Opens maxWorkers warmWorkers managers s) : Kept s s := by
  obtain ⟨docker, listing, reports, booted⟩ := opens.booted
  have nobody (g : GoroutineID) (taker : Taker) : s.takers.lookup g ≠ some taker := by simp [opens.takers]
  constructor
  · rw [booted]
    exact System.assigned_booted ⟨docker, listing, fun containers is => (reports containers is).toLists, rfl⟩
  · rw [booted]
    exact System.addressed_booted reports maxWorkers warmWorkers managers
  · exact opens.apart
  · exact opens.coherent
  · exact fun g taker _ found => absurd found (nobody g taker)
  · exact fun g taker found => absurd found (nobody g taker)
  · exact fun g taker found => absurd found (nobody g taker)
  · exact fun g taker _ found => absurd found (nobody g taker)
  · exact fun _ _ g taker _ found => absurd found (nobody g taker)
  · exact fun id launcher contender found free knows => absurd knows (opens.unused id launcher contender found free)
  · intro g runner phase call
    rw [booted] at call
    cases call
  · exact fun id worker active _ fresh => absurd (Finmap.mem_of_lookup_eq_some active) fresh

theorem Kept.handedOver (kept : Kept first s) : HandedOver first s := by
  constructor
  · intro id launcher found
    rw [(kept.coherent id launcher found).once]
    split <;> simp
  · intro id launcher found free payload among
    have knows := (kept.coherent id launcher found).payload_known among
    obtain ⟨g, taker, mine, starter⟩ := kept.own id launcher payload.starter found free knows
    have target := kept.through id launcher g taker found mine (starter ▸ knows)
    obtain ⟨worker, has, place⟩ := kept.targets g taker id mine target
    obtain ⟨runner, returned⟩ := kept.answered g taker worker mine has
    exact ⟨g, taker, runner, worker, mine, starter, target, returned, place⟩
  · exact fun id launcher contender found => (kept.coherent id launcher found).busy
  · exact kept.minded

end

/-- A payload runs in the container that its taker was allocated, unless that one has stopped, and
no allocated container is left without a payload for which nobody is answerable. -/
theorem handed_over (interfaces : Interfaces Managers Event Outcome) (maxWorkers warmWorkers : Int)
    (managers : Managers) (first s : Handover Managers) (opens : Opens maxWorkers warmWorkers managers first)
    (reached : Reaches (step interfaces) (· = first) Permits s) : HandedOver first s := by
  apply Kept.handedOver
  apply reached.invariant
  · rintro _ rfl
    exact opens.kept
  · intro before event after _ kept permits taken
    exact kept_step interfaces kept permits taken

/-- A recovered container is allocated to a shim, which starts its payload there. -/
theorem handed_over_shim : ∃ (s : Handover Unit) (launcher : WorkerLauncher) (payload : WorkerPayload),
    s.launchers.lookup "c1" = some launcher ∧ launcher.payloads = [payload] ∧
      ∃ g taker runner worker, s.Owns "c1" payload g taker runner worker := by
  let first : Handover Unit := ⟨System.oneWarm 1 1, (∅ : Map ContainerID WorkerLauncher).insert "c1" .new, ∅⟩
  have opens : Opens 1 1 () first := by
    constructor
    · exact ⟨_, _, fun containers is => by cases is; decide, rfl⟩
    · decide
    · rfl
    · intro id launcher found
      rcases Map.lookup_of_insert found with ⟨rfl, rfl⟩ | ⟨_, none_⟩
      · exact WorkerLauncher.new_coherent
      · cases none_
    · intro id launcher contender found _
      rcases Map.lookup_of_insert found with ⟨rfl, rfl⟩ | ⟨_, none_⟩
      · exact WorkerLauncher.new_knows contender
      · cases none_
  obtain ⟨s, reached, launches⟩ : ∃ s, Reaches (step Interfaces.silent) (· = first) Permits s ∧
      (s.launchers.lookup "c1").map (fun launcher => launcher.payloads.map WorkerPayload.starter) =
        some [.connection 0] := by
    refine Reaches.of_replay rfl [.request 0 "r" (some "c1") .shim, .system (.rename 0 (some "2")),
      .system (.check 0 true), .system (.register 0), .system (.markBusy 0), .system (.evaluate 0 ()), .answer 0,
      .launcher "c1" (.listen none), .launcher "c1" (.listen none), .contact 0 (some "c1"),
      .launcher "c1" (.accept none), .launcher "c1" (.startOnce (.connection 0)),
      .launcher "c1" (.startOnce (.connection 0))] ?_
    decide
  obtain ⟨launcher, found, payloads⟩ := Option.map_eq_some_iff.mp launches
  obtain ⟨payload, only, _⟩ := List.map_eq_singleton_iff.mp payloads
  have handed := handed_over Interfaces.silent 1 1 () first s opens reached
  refine ⟨s, launcher, payload, found, only, handed.owned "c1" launcher found ?_ payload ?_⟩
  · exact .inr (by decide)
  · rw [only]
    exact List.mem_singleton_self payload

end Handover

end RunnersMux
