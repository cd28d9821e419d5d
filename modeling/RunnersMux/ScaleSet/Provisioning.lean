import RunnersMux.Orchestrator.Supply
import RunnersMux.ScaleSet.Scaler

/-! A scale set does not over-provision.

`pendingCount` is read before the active count, and a worker is registered before
its goroutine leaves `pendingCount`. A worker that moves from one count to the
other is counted twice at worst, so what a call finds missing is missing indeed.
-/

set_option autoImplicit false

namespace RunnersMux

open Foundations

namespace DesirePhase

/-- The goroutines that a call has decided on and has yet to start. -/
def left : DesirePhase → Int
  | .spawning _ left => left
  | _ => 0

theorem left_nonneg (phase : DesirePhase) : 0 ≤ phase.left := by
  cases phase <;> simp [left]

/-- The pending count that is read while the mutex is held. -/
def read : DesirePhase → Option Int
  | .locked _ pending | .counted _ pending _ => some pending
  | _ => none

end DesirePhase

namespace WorkerPhase

/-- Not yet inside `AllocateWorker`. -/
def early : WorkerPhase → Int
  | .generating | .requesting => 1
  | _ => 0

/-- The deferred decrement has not run. -/
def pending : WorkerPhase → Int
  | .finished => 0
  | _ => 1

theorem pending_nonneg (phase : WorkerPhase) : 0 ≤ phase.pending := by
  cases phase <;> simp [pending]

end WorkerPhase

/-- An event that may take from the supply. -/
def ScalingEvent.loses {Event Outcome : Type} : ScalingEvent Event Outcome → Bool
  | .orchestrator action => action.loses
  | .generate _ success => !success
  | .abort _ _ => true
  | _ => false

namespace Scaling

variable {Managers Event Outcome : Type}

/-- The workers that are decided on and neither obtained nor given up. -/
def starting (s : Scaling Managers) : Int :=
  s.calls.weigh (fun _ => DesirePhase.left) + s.workers.weigh (fun _ => WorkerPhase.early) +
    System.tally (Goroutine.seeks s.scaler.runnerName) s.system.goroutines

def supply (s : Scaling Managers) : Int :=
  s.system.orchestrator.getActiveCount s.scaler.runnerName + s.starting

/-- The workers that an event decides on. -/
def adds (s : Scaling Managers) : ScalingEvent Event Outcome → Int
  | .orchestrator action => action.asks s.scaler.runnerName
  | .scaleUp c =>
      match s.calls.lookup c with
      | some (.counted count pending active) => s.scaler.scaleUp count pending active
      | _ => 0
  | _ => 0

section
variable {s after : Scaling Managers} {c : CallID} {w : GoroutineID}

theorem supply_proceed (phase : DesirePhase) :
    (s.proceed c phase).supply = s.supply + phase.left - Map.found DesirePhase.left (s.calls.lookup c) := by
  unfold supply starting proceed
  dsimp only
  rw [Map.weigh_insert]
  omega

theorem supply_work (phase : WorkerPhase) :
    (s.work w phase).supply = s.supply + phase.early - Map.found WorkerPhase.early (s.workers.lookup w) := by
  unfold supply starting work
  dsimp only
  rw [Map.weigh_insert]
  omega

theorem supply_system (system : System Managers) : ({ s with system } : Scaling Managers).supply =
    s.supply + system.supply s.scaler.runnerName - s.system.supply s.scaler.runnerName := by
  unfold supply starting System.supply
  dsimp only
  omega

theorem supply_scaler (mutex : Bool) (pendingCount : Int) :
    ({ s with scaler := { s.scaler with mutex, pendingCount } } : Scaling Managers).supply = s.supply := rfl

/-- Each event adds what it decides on, and takes nothing unless something fails or dies. -/
theorem supply_scales {interfaces : Interfaces Managers Event Outcome} {event : ScalingEvent Event Outcome}
    (scales : Scales interfaces s event after) :
    after.supply ≤ s.supply + s.adds event ∧ (event.loses = false → after.supply = s.supply + s.adds event) := by
  have exactly (equal : after.supply = s.supply + s.adds event) :
      after.supply ≤ s.supply + s.adds event ∧ (event.loses = false → after.supply = s.supply + s.adds event) :=
    ⟨Int.le_of_eq equal, fun _ => equal⟩
  cases scales with
  | @orchestrator action system acted =>
      have supplied := System.supply_step interfaces (System.step_effect interfaces acted) s.scaler.runnerName
      have most := supplied.most
      rw [supply_system]
      simp only [adds, ScalingEvent.loses]
      refine ⟨by omega, fun keeps => ?_⟩
      have equal := supplied.equal keeps
      omega
  | desire fresh free =>
      apply exactly
      rw [supply_proceed]
      simp [supply_scaler, fresh, adds, DesirePhase.left]
  | measure found =>
      apply exactly
      rw [supply_proceed]
      simp [found, adds, DesirePhase.left]
  | @scaleUp c count pending active found =>
      apply exactly
      have nonneg := s.scaler.scaleUp_nonneg count pending active
      rw [supply_proceed]
      simp only [supply_scaler, found, adds, DesirePhase.left, Map.found_some]
      omega
  | spawn found fresh =>
      -- One that was still to be started has been started.
      apply exactly
      rw [supply_work, supply_proceed]
      simp only [proceed, found, fresh, adds, DesirePhase.left, WorkerPhase.early, Map.found_some, Map.found_none]
      omega
  | respond found =>
      apply exactly
      rw [supply_proceed]
      simp [found, adds, DesirePhase.left]
  | generate found =>
      apply exactly
      rw [supply_work]
      simp [found, adds, WorkerPhase.early]
  | generateFail found =>
      rw [supply_work]
      simp [found, adds, WorkerPhase.early, ScalingEvent.loses]
  | @allocate w choice system found acted =>
      -- The goroutine enters `AllocateWorker`: one early worker less, one seeking call more.
      apply exactly
      have equal := (System.supply_step interfaces (System.step_effect interfaces acted) s.scaler.runnerName).equal rfl
      have asks : (Action.allocate w s.scaler.runnerName choice : Action Event Outcome).asks s.scaler.runnerName = 1 :=
        if_pos rfl
      rw [supply_work, supply_system]
      simp only [found, adds, WorkerPhase.early, Map.found_some]
      omega
  | allocated found | timedOut found | push found | pushFail found | aborted found =>
      apply exactly
      rw [supply_work]
      simp [found, adds, WorkerPhase.early]
  | @abort w g id system found acted =>
      have most := (System.supply_step interfaces (System.step_effect interfaces acted) s.scaler.runnerName).most
      have asks : (Action.abort g id : Action Event Outcome).asks s.scaler.runnerName = 0 := rfl
      rw [supply_work, supply_system]
      simp only [found, adds, WorkerPhase.early, Map.found_some, ScalingEvent.loses]
      exact ⟨by omega, fun keeps => by cases keeps⟩
  | finish found free =>
      apply exactly
      rw [supply_work]
      simp [supply_scaler, found, adds, WorkerPhase.early]

end

/-- The workers that are decided on and have not run their deferred decrement. -/
def undecremented (s : Scaling Managers) : Int :=
  s.calls.weigh (fun _ => DesirePhase.left) + s.workers.weigh fun _ => WorkerPhase.pending

/-- What a call that holds the mutex has read. -/
def reading (s : Scaling Managers) (c : CallID) : Option Int := (s.calls.lookup c).bind DesirePhase.read

/-- Who holds the mutex, and what `pendingCount` counts. -/
structure Bookkept (s : Scaling Managers) : Prop where
  held : ∀ c pending, s.reading c = some pending → s.scaler.mutex = true ∧ pending = s.scaler.pendingCount
  single : ∀ c d, (s.reading c).isSome = true → (s.reading d).isSome = true → c = d
  pending : s.scaler.pendingCount = s.undecremented

section
variable {s after : Scaling Managers} {c : CallID} {w : GoroutineID}

/-- No call holds the mutex. -/
theorem Bookkept.quiet (outside : ∀ d, after.reading d = none)
    (pending : after.scaler.pendingCount = after.undecremented) : Bookkept after := by
  constructor
  · intro d own reads
    cases (outside d).symm.trans reads
  · intro d e inside
    rw [outside d] at inside
    cases inside
  · exact pending

theorem new_bookkept (system : System Managers) (runnerName : RunnerName) (maxRunners : Int) :
    Bookkept (new system runnerName maxRunners) := .quiet (fun _ => rfl) rfl

/-- No call is inside while the mutex is free. -/
theorem Bookkept.outside (kept : Bookkept s) (free : s.scaler.mutex = false) (d : CallID) : s.reading d = none := by
  cases reads : s.reading d with
  | none => rfl
  | some pending => cases free.symm.trans (kept.held d pending reads).1

/-- A step of the calls and the workers that leaves the mutex and the two sums alone. -/
theorem Bookkept.same (kept : Bookkept s) (scaler : after.scaler = s.scaler)
    (reading : ∀ d, after.reading d = s.reading d) (undecremented : after.undecremented = s.undecremented) :
    Bookkept after := by
  constructor
  · intro d pending reads
    rw [reading] at reads
    rw [scaler]
    exact kept.held d pending reads
  · intro d e inside also
    rw [reading] at inside also
    exact kept.single d e inside also
  · rw [scaler, undecremented]
    exact kept.pending

theorem undecremented_proceed (phase : DesirePhase) : (s.proceed c phase).undecremented =
    s.undecremented + phase.left - Map.found DesirePhase.left (s.calls.lookup c) := by
  unfold undecremented proceed
  dsimp only
  rw [Map.weigh_insert]
  omega

theorem undecremented_work (phase : WorkerPhase) : (s.work w phase).undecremented =
    s.undecremented + phase.pending - Map.found WorkerPhase.pending (s.workers.lookup w) := by
  unfold undecremented work
  dsimp only
  rw [Map.weigh_insert]
  omega

theorem lookup_proceed (phase : DesirePhase) (d : CallID) :
    (s.proceed c phase).calls.lookup d = if d = c then some phase else s.calls.lookup d := Map.lookup_insert_if ..

theorem reading_of {phase : DesirePhase} (found : s.calls.lookup c = some phase) : s.reading c = phase.read := by
  unfold reading
  rw [found]
  rfl

theorem reading_proceed (phase : DesirePhase) (d : CallID) :
    (s.proceed c phase).reading d = if d = c then phase.read else s.reading d := by
  unfold reading
  rw [lookup_proceed]
  split <;> rfl

/-- A call that goes on without a change of the mutex. -/
theorem Bookkept.proceed {old phase : DesirePhase} (kept : Bookkept s) (found : s.calls.lookup c = some old)
    (read : phase.read = old.read) (left : phase.left = old.left) : Bookkept (s.proceed c phase) := by
  refine kept.same rfl (fun d => ?_) ?_
  · rw [reading_proceed]
    split
    · next same =>
        rw [same, reading_of found]
        exact read
    · rfl
  · rw [undecremented_proceed, found, Map.found_some, left]
    omega

/-- A worker that goes on, with its decrement still to come. -/
theorem Bookkept.work {old phase : WorkerPhase} (kept : Bookkept s) (system : System Managers)
    (found : s.workers.lookup w = some old) (pending : phase.pending = old.pending) :
    Bookkept ({ s with system }.work w phase) := by
  refine kept.same rfl (fun _ => rfl) ?_
  rw [undecremented_work]
  simp only [found, Map.found_some, pending]
  exact Int.add_sub_cancel _ _

/-- A call takes the mutex, and reads `pendingCount`. -/
theorem Bookkept.locks (kept : Bookkept s) (count : Int) (fresh : s.calls.lookup c = none)
    (free : s.scaler.mutex = false) :
    Bookkept ({ s with scaler := { s.scaler with mutex := true } }.proceed c (.locked count s.scaler.pendingCount)) := by
  have only {d : CallID} (inside : (({ s with scaler := { s.scaler with mutex := true } }.proceed c
      (.locked count s.scaler.pendingCount)).reading d).isSome = true) : d = c := by
    by_contra different
    rw [reading_proceed, if_neg different] at inside
    cases (congrArg Option.isSome (kept.outside free d)).symm.trans inside
  have pending := kept.pending
  constructor
  · intro d own reads
    cases only (by rw [reads]; rfl)
    rw [reading_proceed, if_pos rfl] at reads
    cases reads
    exact ⟨rfl, rfl⟩
  · intro d e inside also
    exact (only inside).trans (only also).symm
  · rw [undecremented_proceed]
    simp only [fresh, Map.found_none, DesirePhase.left, Int.add_zero, Int.sub_zero]
    exact pending

/-- The call that holds the mutex adds what it has decided on, and lets go of it. -/
theorem Bookkept.unlocks {count pending active : Int} (kept : Bookkept s)
    (found : s.calls.lookup c = some (.counted count pending active)) :
    Bookkept ({ s with scaler := { s.scaler with
      mutex := false
      pendingCount := s.scaler.pendingCount + s.scaler.scaleUp count pending active } }.proceed c
        (.spawning (s.scaler.targetRunnerCount count) (s.scaler.scaleUp count pending active).toNat)) := by
  have nonneg := s.scaler.scaleUp_nonneg count pending active
  have before := kept.pending
  apply Bookkept.quiet
  · intro d
    rw [reading_proceed]
    split
    · rfl
    · next different =>
        cases also : s.reading d with
        | none => exact also
        | some own => exact absurd (kept.single d c (by rw [also]; rfl) (by rw [reading_of found]; rfl)) different
  · rw [undecremented_proceed]
    simp only [found, Map.found_some, DesirePhase.left]
    change s.scaler.pendingCount + _ = s.undecremented + _ - 0
    omega

theorem Bookkept.scales {interfaces : Interfaces Managers Event Outcome} {event : ScalingEvent Event Outcome}
    (kept : Bookkept s) (scales : Scales interfaces s event after) : Bookkept after := by
  cases scales with
  | orchestrator acted => exact kept.same rfl (fun _ => rfl) rfl
  | desire fresh free => exact kept.locks _ fresh free
  | measure found => exact kept.proceed found rfl rfl
  | scaleUp found => exact kept.unlocks found
  | @spawn c w target left found fresh =>
      -- The new goroutine stands for one that was still to be started.
      refine kept.same rfl (fun d => ?_) ?_
      · refine (reading_proceed _ d).trans ?_
        split
        · next same =>
            rw [same, reading_of found]
            rfl
        · rfl
      · rw [undecremented_work, undecremented_proceed]
        simp only [Scaling.proceed, found, fresh, Map.found_some, Map.found_none, DesirePhase.left,
          WorkerPhase.pending]
        omega
  | respond found => exact kept.proceed found rfl rfl
  | generate found | generateFail found | allocated found | timedOut found | push found | pushFail found
  | aborted found => exact kept.work s.system found rfl
  | allocate found acted => exact kept.work _ found rfl
  | abort found acted => exact kept.work _ found rfl
  | finish found free =>
      have pending := kept.pending
      apply Bookkept.quiet
      · exact kept.outside free
      · rw [undecremented_work]
        simp only [found, Map.found_some, WorkerPhase.pending]
        change s.scaler.pendingCount - 1 = s.undecremented + 0 - 1
        omega

end

/-- Nobody else allocates in the name of the scaler's runner. -/
def Alone (s : Scaling Managers) : ScalingEvent Event Outcome → Prop
  | .orchestrator action => action.requests ≠ some s.scaler.runnerName
  | _ => True

instance (s : Scaling Managers) : ∀ event : ScalingEvent Event Outcome, Decidable (s.Alone event)
  | .orchestrator action => inferInstanceAs (Decidable (action.requests ≠ _))
  | .desire _ _ | .measure _ | .scaleUp _ | .spawn _ _ | .respond _ | .generate _ _ | .allocate _ _ | .allocated _
  | .push _ _ | .abort _ _ | .aborted _ | .finish _ => .isTrue trivial

/-- The goroutine of a worker has neither obtained one nor failed to. -/
def seeking (s : Scaling Managers) (w : GoroutineID) : WorkerPhase → Bool
  | .generating | .requesting => true
  | .allocating =>
      match s.system.goroutines.lookup w with
      | some (.allocate _ phase) => phase.seeks
      | _ => false
  | _ => false

/-- The goroutines that have not yet obtained or failed to obtain a worker, with
those that are about to be started. -/
def unobtained (s : Scaling Managers) : Int :=
  s.calls.weigh (fun _ => DesirePhase.left) + s.workers.count s.seeking

/-- The calls of `AllocateWorker` for the runner are those of the scaler's goroutines. -/
structure Linked (s : Scaling Managers) : Prop where
  inside : ∀ w, s.workers.lookup w = some .allocating → ∃ seeks, s.system.callOf w = some (s.scaler.runnerName, seeks)
  own : ∀ g, s.system.callOf g = some (s.scaler.runnerName, true) → s.workers.lookup g = some .allocating

section
variable {s after : Scaling Managers} {w : GoroutineID}

theorem seeking_call {runner : RunnerName} {seeks : Bool} (call : s.system.callOf w = some (runner, seeks)) :
    s.seeking w .allocating = seeks := by
  obtain ⟨goroutine, found, same⟩ := Option.bind_eq_some_iff.mp call
  cases goroutine with
  | allocate name phase =>
      cases same
      simp [Scaling.seeking, found]
  | _ => cases same

/-- The goroutines inside `AllocateWorker` are as many as its calls for the runner. -/
theorem Linked.seeking (linked : Linked s) : (s.workers.weigh fun w phase =>
      (if s.seeking w phase = true then 1 else 0) - phase.early) =
    System.tally (Goroutine.seeks s.scaler.runnerName) s.system.goroutines := by
  apply Map.weigh_congr
  intro w
  rw [System.found_seeks]
  cases found : s.workers.lookup w with
  | none =>
      rw [if_neg fun call => by cases found.symm.trans (linked.own w call)]
      rfl
  | some phase =>
      cases phase with
      | allocating =>
          -- The goroutine's own call decides on both sides.
          obtain ⟨seeks, call⟩ := linked.inside w found
          rw [Map.found_some, seeking_call call, call]
          cases seeks <;> simp [WorkerPhase.early]
      | _ =>
          rw [if_neg fun call => by cases found.symm.trans (linked.own w call)]
          rfl

theorem Linked.unobtained (linked : Linked s) : s.unobtained = s.starting := by
  have split := s.workers.weigh_add (fun _ => WorkerPhase.early)
    fun w phase => (if s.seeking w phase = true then 1 else 0) - phase.early
  have whole : (s.workers.weigh fun w phase =>
      phase.early + ((if s.seeking w phase = true then 1 else 0) - phase.early)) = s.workers.count s.seeking := by
    unfold Map.count
    congr
    funext w phase
    omega
  rw [linked.seeking, whole] at split
  unfold Scaling.unobtained starting
  omega

/-- Whoever has not obtained a worker has not run its decrement. -/
theorem unobtained_le : s.unobtained ≤ s.undecremented := by
  unfold unobtained undecremented Map.count
  refine Int.add_le_add_left (Map.weigh_le _ fun w phase _ => ?_) _
  split
  · next seeks => cases phase <;> first | exact Int.le_refl 1 | cases seeks
  · exact phase.pending_nonneg

theorem new_linked (system : System Managers) (runnerName : RunnerName) (maxRunners : Int)
    (idle : ∀ g, system.callOf g ≠ some (runnerName, true)) : Linked (new system runnerName maxRunners) := by
  constructor
  · intro w found
    cases found
  · intro g call
    exact absurd call (idle g)

/-- A step of the orchestrator that is not a new request for the runner. -/
theorem Linked.system {interfaces : Interfaces Managers Event Outcome} {action : Action Event Outcome}
    {system : System Managers} (linked : Linked s) (acted : System.step interfaces s.system action = some system)
    (other : action.requests ≠ some s.scaler.runnerName) : Linked { s with system } := by
  have moves (g : GoroutineID) := System.callMoves_step interfaces (System.step_effect interfaces acted) g
  constructor
  · intro w found
    obtain ⟨seeks, call⟩ := linked.inside w found
    exact (moves w).stays call
  · intro g call
    rcases (moves g).back call with before | ⟨choice, begun⟩
    · exact linked.own g before
    · exact absurd (congrArg Action.requests begun) other

theorem lookup_work (phase : WorkerPhase) (g : GoroutineID) :
    (s.work w phase).workers.lookup g = if g = w then some phase else s.workers.lookup g := Map.lookup_insert_if ..

/-- A worker that goes on outside `AllocateWorker`. -/
theorem Linked.work {phase : WorkerPhase} (linked : Linked s)
    (settled : s.workers.lookup w = some .allocating → s.system.callOf w ≠ some (s.scaler.runnerName, true))
    (outside : phase ≠ .allocating) : Linked (s.work w phase) := by
  constructor
  · intro g here
    rw [lookup_work] at here
    split at here
    · cases here
      exact absurd rfl outside
    · exact linked.inside g here
  · intro g call
    have here := linked.own g call
    rw [lookup_work, if_neg]
    · exact here
    · rintro rfl
      exact settled here call

theorem Linked.scales {interfaces : Interfaces Managers Event Outcome} {event : ScalingEvent Event Outcome}
    (linked : Linked s) (alone : Alone s event) (scales : Scales interfaces s event after) : Linked after := by
  have away {w : GoroutineID} {old : WorkerPhase} (found : s.workers.lookup w = some old) (other : old ≠ .allocating)
      {system : System Managers} :
      s.workers.lookup w = some .allocating → system.callOf w ≠ some (s.scaler.runnerName, true) :=
    fun inside => absurd (Option.some.inj (found.symm.trans inside)) other
  cases scales with
  | orchestrator acted => exact linked.system acted alone
  | desire | measure | scaleUp | respond => exact ⟨linked.inside, linked.own⟩
  | spawn found fresh =>
      refine Linked.work ⟨linked.inside, linked.own⟩ (fun inside => ?_) (by simp)
      cases fresh.symm.trans inside
  | generate found | generateFail found | push found | pushFail found | aborted found =>
      exact linked.work (away found (by simp)) (by simp)
  | @allocate w choice system found acted =>
      have moves (g : GoroutineID) := System.callMoves_step interfaces (System.step_effect interfaces acted) g
      have called := System.callOf_allocate acted
      constructor
      · intro g here
        rw [lookup_work] at here
        split at here
        · next same => exact ⟨true, same ▸ called⟩
        · obtain ⟨seeks, call⟩ := linked.inside g here
          exact (moves g).stays call
      · intro g call
        rw [lookup_work]
        split
        · rfl
        · next different =>
            rcases (moves g).back call with before | ⟨_, begun⟩
            · exact linked.own g before
            · cases begun
              exact absurd rfl different
  | allocated found returned =>
      -- A call that has returned seeks no more.
      refine linked.work (fun _ call => ?_) (by simp)
      unfold System.callOf at call
      rw [returned] at call
      cases call
  | timedOut found cancelled =>
      refine linked.work (fun _ call => ?_) (by simp)
      unfold System.callOf at call
      rw [cancelled] at call
      cases call
  | abort found acted =>
      exact (linked.system acted (by simp [Action.requests])).work (away found (by simp)) (by simp)
  | finish found free => exact Linked.work ⟨linked.inside, linked.own⟩ (away found (by simp)) (by simp)

/-- The bound, and what a call that has counted still knows. -/
structure Bounded (bound : Int) (s : Scaling Managers) : Prop where
  most : s.scaler.maxRunners ≤ bound
  total : s.supply ≤ bound
  counted : ∀ c count pending active, s.calls.lookup c = some (.counted count pending active) →
    s.supply ≤ active + pending

/-- What a call counts covers the supply: whoever is yet to obtain a worker is pending. -/
theorem Bounded.counts {bound count pending : Int} {c : CallID} (bounded : Bounded bound s) (kept : Bookkept s)
    (linked : Linked s) (found : s.calls.lookup c = some (.locked count pending)) : Bounded bound (s.proceed c
      (.counted count pending (s.system.orchestrator.getActiveCount s.scaler.runnerName))) := by
  have same : (s.proceed c (.counted count pending
      (s.system.orchestrator.getActiveCount s.scaler.runnerName))).supply = s.supply := by
    rw [supply_proceed]
    simp [found, DesirePhase.left]
  refine ⟨bounded.most, same ▸ bounded.total, fun d other own active here => ?_⟩
  rw [same]
  rw [lookup_proceed] at here
  split at here
  · cases here
    -- Active and pending: the second count includes all that are yet to be obtained.
    have pendings := (kept.held c pending (reading_of found)).2.trans kept.pending
    have starts := linked.unobtained
    have least := s.unobtained_le
    unfold supply
    omega
  · exact bounded.counted d other own active here

/-- What a call decides on fits: it has counted at least what there is. -/
theorem Bounded.decides {bound count pending active : Int} {c : CallID} (bounded : Bounded bound s) (kept : Bookkept s)
    (found : s.calls.lookup c = some (.counted count pending active)) :
    Bounded bound ({ s with scaler := { s.scaler with
      mutex := false
      pendingCount := s.scaler.pendingCount + s.scaler.scaleUp count pending active } }.proceed c
        (.spawning (s.scaler.targetRunnerCount count) (s.scaler.scaleUp count pending active).toNat)) := by
  constructor
  · exact bounded.most
  · have counted := bounded.counted c count pending active found
    have total := bounded.total
    have most := bounded.most
    have nonneg := s.scaler.scaleUp_nonneg count pending active
    have target : s.scaler.targetRunnerCount count ≤ s.scaler.maxRunners := Int.min_le_right _ _
    have room : s.supply + s.scaler.scaleUp count pending active ≤ bound := by
      unfold Scaler.scaleUp
      split <;> omega
    rw [supply_proceed]
    simp only [supply_scaler, found, Map.found_some, DesirePhase.left]
    omega
  · intro d other own alive here
    rw [lookup_proceed] at here
    split at here
    · cases here
    · next different =>
        have inside : s.reading d = some own := reading_of here
        exact absurd (kept.single d c (by rw [inside]; rfl) (by rw [reading_of found]; rfl)) different

theorem Bounded.scales {interfaces : Interfaces Managers Event Outcome} {event : ScalingEvent Event Outcome}
    {bound : Int} (bounded : Bounded bound s) (kept : Bookkept s) (linked : Linked s) (alone : Alone s event)
    (scales : Scales interfaces s event after) : Bounded bound after := by
  have supplied := (supply_scales scales).1
  -- What has been counted stays an upper bound as long as nothing is added.
  have carried (same : after.scaler.maxRunners = s.scaler.maxRunners) (adds : s.adds event = 0)
      (before : ∀ c count pending active, after.calls.lookup c = some (.counted count pending active) →
        s.calls.lookup c = some (.counted count pending active)) : Bounded bound after := by
    rw [adds, Int.add_zero] at supplied
    exact ⟨same ▸ bounded.most, Int.le_trans supplied bounded.total, fun c count pending active found =>
      Int.le_trans supplied (bounded.counted c count pending active (before c count pending active found))⟩
  have proceeds {c : CallID} {phase : DesirePhase}
      (outside : ∀ count pending active, phase ≠ .counted count pending active) (d : CallID)
      (count pending active : Int)
      (here : (s.proceed c phase).calls.lookup d = some (.counted count pending active)) :
      s.calls.lookup d = some (.counted count pending active) := by
    rw [lookup_proceed] at here
    split at here
    · cases here
      exact absurd rfl (outside _ _ _)
    · exact here
  cases scales with
  | orchestrator acted => exact carried rfl (if_neg alone) fun _ _ _ _ => id
  | desire fresh free => exact carried rfl rfl (proceeds (by simp))
  | measure found => exact bounded.counts kept linked found
  | scaleUp found => exact bounded.decides kept found
  | spawn found fresh => exact carried rfl rfl (proceeds (by simp))
  | respond found => exact carried rfl rfl (proceeds (by simp))
  | generate | generateFail | allocate | allocated | timedOut | push | pushFail | abort | aborted | finish =>
      exact carried rfl rfl fun _ _ _ _ => id

end

/-- The workers that a scale set has and those that its goroutines are yet to obtain
are never more than `maxRunners`, or than it had when the scaler was created. -/
theorem never_over_provisions (interfaces : Interfaces Managers Event Outcome) (system : System Managers)
    (runnerName : RunnerName) (maxRunners : Int) (idle : ∀ g, system.callOf g ≠ some (runnerName, true))
    (s : Scaling Managers)
    (reached : Reaches (step interfaces) (· = new system runnerName maxRunners) Alone s) :
    s.system.orchestrator.getActiveCount runnerName + s.unobtained ≤
        max maxRunners (system.orchestrator.getActiveCount runnerName) ∧
      s.scaler.pendingCount = s.undecremented ∧ 0 ≤ s.scaler.pendingCount := by
  have all : s.scaler.runnerName = runnerName ∧ Bookkept s ∧ Linked s ∧
      Bounded (max maxRunners (system.orchestrator.getActiveCount runnerName)) s := by
    apply reached.invariant
    · rintro _ rfl
      have linked := new_linked system runnerName maxRunners idle
      refine ⟨rfl, new_bookkept system runnerName maxRunners, linked, Int.le_max_left _ _, ?_, ?_⟩
      · unfold supply
        rw [← linked.unobtained]
        change system.orchestrator.getActiveCount runnerName + (0 + 0) ≤ _
        omega
      · intro c count pending active found
        cases found
    · rintro state event after _ ⟨name, kept, linked, bounded⟩ alone taken
      have scales := step_scales interfaces taken
      refine ⟨?_, kept.scales scales, linked.scales alone scales, bounded.scales kept linked alone scales⟩
      cases scales <;> exact name
  obtain ⟨name, kept, linked, bounded⟩ := all
  have total := bounded.total
  have starts := linked.unobtained
  refine ⟨?_, kept.pending, ?_⟩
  · unfold supply at total
    rwa [name, ← starts] at total
  · rw [kept.pending]
    exact Int.add_nonneg (s.calls.weigh_nonneg fun _ => DesirePhase.left_nonneg)
      (s.workers.weigh_nonneg fun _ => WorkerPhase.pending_nonneg)

/-- Two workers are wanted, and the first has been registered. -/
theorem never_over_provisions_registered : ∃ s : Scaling Unit,
    Reaches (step Interfaces.silent) (· = new (System.oneWarm 5 1) "r" 2) Alone s ∧
      (s.system.orchestrator.getActiveCount "r" = 1 ∧ s.unobtained = 1 ∧ s.scaler.pendingCount = 2) ∧
      s.system.orchestrator.getActiveCount "r" + s.unobtained ≤ 2 := by
  obtain ⟨s, reached, shape⟩ : ∃ s, Reaches (step Interfaces.silent) (· = new (System.oneWarm 5 1) "r" 2) Alone s ∧
      s.system.orchestrator.getActiveCount "r" = 1 ∧ s.unobtained = 1 ∧ s.scaler.pendingCount = 2 := by
    refine Reaches.of_replay rfl [.desire 0 5, .measure 0, .scaleUp 0, .spawn 0 10, .spawn 0 11, .generate 10 true,
      .allocate 10 (some "c1"), .orchestrator (.rename 10 none), .orchestrator (.check 10 true),
      .orchestrator (.register 10)] ?_
    decide
  have idle (g : GoroutineID) : (System.oneWarm 5 1).callOf g ≠ some ("r", true) := by
    intro call
    cases call
  exact ⟨s, reached, shape, (never_over_provisions Interfaces.silent _ "r" 2 idle s reached).1⟩

end Scaling

end RunnersMux
