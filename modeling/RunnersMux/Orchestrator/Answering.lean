import RunnersMux.Orchestrator.Filling
import RunnersMux.Orchestrator.Orphans

/-! That every call of `AllocateWorker` is answered.

In a run in which nothing dies, fails or is withdrawn, a call waits until there is
a container for it, and looks into the pool after each broadcast. A broadcast may
wake the calls that wait and `maintainPool` for nothing, so the number of waiting
calls bounds the steps that come between two of them.
-/

set_option autoImplicit false

namespace RunnersMux

open Foundations

/-- What `maintainPool` would boot if there were no limit. -/
def Orchestrator.wanted (o : Orchestrator) : Int := max 0 (o.target - o.stock)

namespace Goroutine

/-- The broadcasts that a boot or a call has ahead of it. -/
def broadcasts : Goroutine → Int
  | .boot .starting | .boot (.inspecting _) | .boot (.started _) | .boot (.pooled _) | .boot .announcing => 1
  | .allocate _ (.waiting _) | .allocate _ (.claimed _) | .allocate _ (.renamed _) | .allocate _ (.alive _) => 1
  | _ => 0

/-- The steps that a boot or a call has ahead of it, without those after which it waits again. -/
def steps : Goroutine → Int
  | .boot .starting => 5
  | .boot (.inspecting _) => 4
  | .boot (.started _) => 3
  | .boot (.pooled _) => 2
  | .boot .announcing => 1
  | .allocate _ (.waiting _) => 6
  | .allocate _ (.claimed _) => 5
  | .allocate _ (.renamed _) => 4
  | .allocate _ (.alive _) => 3
  | .allocate _ (.registered _) => 2
  | .allocate _ (.marked _) => 1
  | _ => 0

/-- A call that may look into the pool, on a channel that is closed. -/
def looks (o : Orchestrator) : Goroutine → Int
  | .allocate _ (.waiting channel) => if o.closed channel then 1 else 0
  | _ => 0

/-- A call, or a boot, whose container runs. -/
def served (running : ContainerID → Bool) : Goroutine → Bool
  | .allocate _ (.claimed candidate) | .allocate _ (.renamed candidate) | .allocate _ (.alive candidate) =>
      running candidate.containerID
  | .allocate _ (.registered _) | .allocate _ (.marked _) => true
  | goroutine => goroutine.calm running

theorem broadcasts_nonneg (goroutine : Goroutine) : 0 ≤ goroutine.broadcasts := by
  unfold broadcasts
  split <;> decide

theorem steps_nonneg (goroutine : Goroutine) : 0 ≤ goroutine.steps := by
  unfold steps
  split <;> decide

theorem looks_bounds (o : Orchestrator) (goroutine : Goroutine) :
    0 ≤ goroutine.looks o ∧ goroutine.looks o ≤ goroutine.requests := by
  cases goroutine with
  | allocate runner phase =>
      cases phase with
      | waiting channel => by_cases closed : o.closed channel = true <;> simp [looks, requests, closed]
      | _ => simp [looks, requests]
  | _ => simp [looks, requests]

end Goroutine

namespace System

variable {Managers Event Outcome : Type}

/-- The steps of a run in which nothing dies, fails or is withdrawn, and no call is made. -/
def Answers (state : System Managers) : Action Event Outcome → Prop
  | .wake .. | .rename .. | .register _ | .markBusy _ | .evaluate .. => True
  | .check _ alive => alive = true
  | action => Fills state action

instance (state : System Managers) (action : Action Event Outcome) : Decidable (Answers state action) := by
  unfold Answers
  split <;> infer_instance

/-- The calls that wait. -/
def callers (state : System Managers) : Int := tally Goroutine.requests state.goroutines

/-- The broadcasts that are still to come, at most. -/
def wakes (state : System Managers) : Int := state.orchestrator.wanted + tally Goroutine.broadcasts state.goroutines

/-- The steps that are still to come but for those that a broadcast to come leads to. -/
def toil (state : System Managers) : Int :=
  6 * state.orchestrator.wanted + tally Goroutine.steps state.goroutines +
    tally (Goroutine.looks state.orchestrator) state.goroutines + state.poolWork

/-- The steps that are still to come, at most. -/
def labour (state : System Managers) : Int := state.toil + (state.callers + 2) * state.wakes

section
variable {state after : System Managers}

theorem callers_nonneg (state : System Managers) : 0 ≤ state.callers := tally_nonneg Goroutine.requests_nonneg _

theorem wakes_nonneg (state : System Managers) : 0 ≤ state.wakes :=
  Int.add_nonneg (Int.le_max_left ..) (tally_nonneg Goroutine.broadcasts_nonneg _)

theorem toil_nonneg (state : System Managers) : 0 ≤ state.toil := by
  have wanted : 0 ≤ state.orchestrator.wanted := Int.le_max_left ..
  have steps := tally_nonneg Goroutine.steps_nonneg state.goroutines
  have looks := tally_nonneg (fun goroutine => (Goroutine.looks_bounds state.orchestrator goroutine).1) state.goroutines
  have pool := state.poolWork_bounds.1
  unfold toil
  omega

theorem labour_nonneg (state : System Managers) : 0 ≤ state.labour := by
  have callers := state.callers_nonneg
  exact Int.add_nonneg state.toil_nonneg (Int.mul_nonneg (by omega) state.wakes_nonneg)

/-- A step that is no broadcast. -/
theorem labour_quiet (toil : after.toil < state.toil) (callers : after.callers ≤ state.callers)
    (wakes : after.wakes ≤ state.wakes) : after.labour < state.labour := by
  have waiting := state.callers_nonneg
  have product : (after.callers + 2) * after.wakes ≤ (state.callers + 2) * state.wakes :=
    Int.mul_le_mul (by omega) wakes after.wakes_nonneg (by omega)
  unfold labour
  omega

/-- A broadcast wakes the calls that wait, and `maintainPool`. -/
theorem labour_broadcast (toil : after.toil < state.toil + state.callers + 2) (callers : after.callers = state.callers)
    (wakes : after.wakes = state.wakes - 1) : after.labour < state.labour := by
  have product : (state.callers + 2) * (state.wakes - 1) = (state.callers + 2) * state.wakes - (state.callers + 2) := by
    rw [Int.mul_sub, Int.mul_one]
  unfold labour
  rw [callers, wakes, product]
  omega

/-- The calls that may look are among those that wait. -/
theorem tally_looks_le (state : System Managers) (o : Orchestrator) :
    tally (Goroutine.looks o) state.goroutines ≤ state.callers := by
  unfold callers tally
  apply Map.weigh_le
  intro _ goroutine _
  exact (goroutine.looks_bounds o).2

/-- One goroutine goes on, and no channel is closed. -/
theorem labour_resume {between : System Managers} {g : GoroutineID} {old new : Goroutine}
    (same : between.goroutines = state.goroutines) (found : state.goroutines.lookup g = some old)
    (pool : between.pool = state.pool) (channel : between.orchestrator.broadcastCh = state.orchestrator.broadcastCh)
    (wanted : between.orchestrator.wanted = state.orchestrator.wanted)
    (steps : new.steps + new.looks state.orchestrator < old.steps + old.looks state.orchestrator)
    (requests : new.requests ≤ old.requests) (broadcasts : new.broadcasts ≤ old.broadcasts) :
    (between.resume g new).labour < state.labour := by
  have looks (goroutine : Goroutine) : goroutine.looks between.orchestrator = goroutine.looks state.orchestrator := by
    unfold Goroutine.looks Orchestrator.closed
    rw [channel]
  have work : (between.resume g new).poolWork = state.poolWork := by
    unfold poolWork Orchestrator.closed
    rw [resume_pool, pool, resume_orchestrator, channel]
  apply labour_quiet
  · unfold toil
    rw [work, resume_orchestrator, wanted, funext looks, resume_goroutines, same, tally_insert, tally_insert, found]
    simp only [Map.found_some]
    omega
  · unfold callers
    rw [resume_goroutines, same, tally_insert, found]
    simp only [Map.found_some]
    omega
  · unfold wakes
    rw [resume_orchestrator, wanted, resume_goroutines, same, tally_insert, found]
    simp only [Map.found_some]
    omega

/-- One goroutine goes on, with a broadcast. -/
theorem labour_announce {between : System Managers} {g : GoroutineID} {old new : Goroutine}
    (same : between.goroutines = state.goroutines) (found : state.goroutines.lookup g = some old)
    (wanted : between.orchestrator.wanted = state.orchestrator.wanted) (steps : new.steps < old.steps)
    (quiet : old.requests = 0 ∧ new.requests = 0) (broadcasts : old.broadcasts = 1 ∧ new.broadcasts = 0) :
    (between.resume g new).labour < state.labour := by
  have callers : (between.resume g new).callers = state.callers := by
    unfold callers
    rw [resume_goroutines, same, tally_insert, found, Map.found_some, quiet.1, quiet.2]
    omega
  apply labour_broadcast _ callers
  · unfold wakes
    rw [resume_orchestrator, wanted, resume_goroutines, same, tally_insert, found, Map.found_some, broadcasts.1,
      broadcasts.2]
    omega
  · have before := state.poolWork_bounds.1
    have later := (between.resume g new).poolWork_bounds.2
    have looked := tally_nonneg (fun goroutine => (Goroutine.looks_bounds state.orchestrator goroutine).1)
      state.goroutines
    have looking := (between.resume g new).tally_looks_le between.orchestrator
    have fewer : tally Goroutine.steps (between.resume g new).goroutines < tally Goroutine.steps state.goroutines := by
      rw [resume_goroutines, same, tally_insert, found, Map.found_some]
      omega
    rw [callers] at looking
    unfold toil
    rw [resume_orchestrator, wanted]
    omega

end

/-- Nothing is in progress but calls and boots whose containers run, and the warm containers run. -/
structure Undisturbed (state : System Managers) : Prop where
  goroutines : ∀ g goroutine, state.goroutines.lookup g = some goroutine → goroutine.served state.running = true
  warm : ∀ id worker, state.orchestrator.warmPool.lookup id = some worker → state.running worker.containerID = true

instance (state : System Managers) : Decidable (Undisturbed state) :=
  decidable_of_iff (_ ∧ _) ⟨fun both => ⟨both.1, both.2⟩, fun undisturbed => ⟨undisturbed.goroutines, undisturbed.warm⟩⟩

/-- What answering the calls keeps. -/
structure Answering (state : System Managers) : Prop where
  assigned : Assigned state
  tallied : Tallied state
  awake : Awake state
  undisturbed : Undisturbed state
  configured : 0 ≤ state.orchestrator.warmWorkersConfig

theorem served_mono {running later : ContainerID → Bool} (keeps : ∀ id, running id = true → later id = true)
    {goroutine : Goroutine} (served : goroutine.served running = true) : goroutine.served later = true := by
  unfold Goroutine.served at served ⊢
  split at served
  · exact keeps _ served
  · exact keeps _ served
  · exact keeps _ served
  · rfl
  · rfl
  · exact calm_mono keeps served

theorem Undisturbed.resume {state between : System Managers} {g : GoroutineID} {new : Goroutine}
    (undisturbed : Undisturbed state) (same : between.goroutines = state.goroutines)
    (keeps : ∀ id, state.running id = true → between.running id = true) (own : new.served between.running = true)
    (warm : ∀ id worker, between.orchestrator.warmPool.lookup id = some worker →
      between.running worker.containerID = true) : Undisturbed (between.resume g new) := by
  refine ⟨?_, warm⟩
  intro other goroutine found
  rw [resume_goroutines, same] at found
  rcases Map.lookup_of_insert found with ⟨_, rfl⟩ | ⟨_, before⟩
  · exact own
  · exact served_mono keeps (undisturbed.goroutines other goroutine before)

theorem answering_step (interfaces : Interfaces Managers Event Outcome) {state after : System Managers}
    {action : Action Event Outcome} (answering : Answering state) (answers : Answers state action)
    (effect : Effect interfaces state action after) : Answering after ∧ after.labour < state.labour := by
  have announced : announcesRetries state action := by
    have neither : action.aborts = false ∧ action.retries = false := by
      cases action <;> first | exact ⟨rfl, rfl⟩ | cases answers
    refine ⟨neither.1, fun retries => ?_⟩
    rw [neither.2] at retries
    cases retries
  have assigned := assigned_step interfaces answering.assigned effect
  have tallied := tallied_step interfaces answering.tallied effect
  have awake := awake_step interfaces answering.awake announced effect
  have undisturbed := answering.undisturbed
  have configured := answering.configured
  have same (id : ContainerID) (runs : state.running id = true) : state.running id = true := runs
  cases effect with
  | poolLock idle =>
      refine ⟨⟨assigned, tallied, awake, ⟨undisturbed.goroutines, undisturbed.warm⟩, configured⟩, ?_⟩
      have before : state.poolWork = 2 := by
        unfold poolWork
        rcases idle with acquiring | ⟨channel, blocked, closed⟩
        · rw [acquiring]
        · simp [blocked, closed]
      refine labour_quiet ?_ (Int.le_refl _) (Int.le_refl _)
      change 6 * state.orchestrator.wanted + tally Goroutine.steps state.goroutines +
        tally (Goroutine.looks state.orchestrator) state.goroutines + 1 < state.toil
      unfold toil
      omega
  | poolBlock held waits =>
      refine ⟨⟨assigned, tallied, awake, ⟨undisturbed.goroutines, undisturbed.warm⟩, configured⟩, ?_⟩
      have before : state.poolWork = 1 := by simp [poolWork, held]
      have later : poolWork { state with pool := .blocked state.orchestrator.broadcastCh } = 0 := by
        simp [poolWork, Orchestrator.closed]
      refine labour_quiet ?_ (Int.le_refl _) (Int.le_refl _)
      change 6 * state.orchestrator.wanted + tally Goroutine.steps state.goroutines +
        tally (Goroutine.looks state.orchestrator) state.goroutines + poolWork _ < state.toil
      unfold toil
      omega
  | @poolBoot g held short room fresh =>
      refine ⟨⟨assigned, tallied, awake, undisturbed.resume rfl same rfl undisturbed.warm, configured⟩, ?_⟩
      have wanted : state.orchestrator.admitBoot.wanted = state.orchestrator.wanted - 1 := by
        change max 0 (state.orchestrator.target -
          (state.orchestrator.warmPool.size + (state.orchestrator.bootingCount + 1))) = _
        unfold Orchestrator.stocked at short
        unfold Orchestrator.wanted Orchestrator.stock
        omega
      apply labour_quiet
      · change 6 * state.orchestrator.admitBoot.wanted + tally Goroutine.steps (state.goroutines.insert g _) +
          tally (Goroutine.looks state.orchestrator) (state.goroutines.insert g _) + state.poolWork < state.toil
        unfold toil
        rw [wanted, tally_insert, tally_insert, fresh]
        simp only [Goroutine.steps, Goroutine.looks, Map.found_none]
        omega
      · unfold callers
        rw [resume_goroutines, tally_insert, fresh]
        simp [Goroutine.requests]
      · unfold wakes
        rw [resume_orchestrator, wanted, resume_goroutines, tally_insert, fresh]
        simp only [Goroutine.broadcasts, Map.found_none]
        omega
  | @bootCreate g key short ipAddress found fresh =>
      have keeps (id : ContainerID) (runs : state.running id = true) :
          System.running
            { state with docker := state.docker.insert key ⟨namePrefixWarm ++ short, ipAddress, true⟩ } id = true := by
        unfold System.running at runs ⊢
        rw [Finmap.lookup_insert_of_ne]
        · exact runs
        · rintro rfl
          simp [fresh] at runs
      refine ⟨⟨assigned, tallied, awake, undisturbed.resume rfl keeps ?_ ?_, configured⟩, ?_⟩
      · simp [Goroutine.served, Goroutine.calm, System.running]
      · exact fun id worker pooled => keeps _ (undisturbed.warm id worker pooled)
      · exact labour_resume rfl found rfl rfl rfl (by simp [Goroutine.steps, Goroutine.looks]) (Int.le_refl _)
          (Int.le_refl _)
  | @bootInspect g key container found known =>
      have runs : state.running key = true := undisturbed.goroutines g _ found
      refine ⟨⟨assigned, tallied, awake, undisturbed.resume rfl same runs undisturbed.warm, configured⟩, ?_⟩
      exact labour_resume rfl found rfl rfl rfl (by simp [Goroutine.steps, Goroutine.looks]) (Int.le_refl _)
        (Int.le_refl _)
  | @bootPool g worker found free =>
      have runs : state.running worker.containerID = true := undisturbed.goroutines g _ found
      have wanted : (state.orchestrator.recordBoot (some worker)).wanted = state.orchestrator.wanted := by
        unfold Orchestrator.wanted
        rw [(Orchestrator.stock_recordBoot (answering.assigned.unpooled found)).1]
        rfl
      refine ⟨⟨assigned, tallied, awake, undisturbed.resume rfl same runs ?_, configured⟩, ?_⟩
      · intro id other pooled
        rcases Map.lookup_of_insert pooled with ⟨_, rfl⟩ | ⟨_, before⟩
        · exact runs
        · exact undisturbed.warm id other before
      · exact labour_resume rfl found rfl rfl wanted (by simp [Goroutine.steps, Goroutine.looks]) (Int.le_refl _)
          (Int.le_refl _)
  | bootGiveUp found free => simp [Answers, Fills, System.fills, found] at answers
  | @bootAlive g worker found alive =>
      refine ⟨⟨assigned, tallied, awake, undisturbed.resume rfl same rfl undisturbed.warm, configured⟩, ?_⟩
      exact labour_resume rfl found rfl rfl rfl (by simp [Goroutine.steps, Goroutine.looks]) (Int.le_refl _)
        (Int.le_refl _)
  | @bootBroadcast g found free =>
      have found : state.goroutines.lookup g = some (.boot .announcing) := by
        rcases found with found | found
        · exact found
        · cases undisturbed.goroutines g _ found
      refine ⟨⟨assigned, tallied, awake, undisturbed.resume rfl same rfl undisturbed.warm, configured⟩, ?_⟩
      exact labour_announce rfl found rfl (by decide) ⟨rfl, rfl⟩ ⟨rfl, rfl⟩
  | @wake g runner choice channel o phase found closed free picked =>
      have looked : (Goroutine.allocate runner (.waiting channel)).looks state.orchestrator = 1 := if_pos closed
      cases picked with
      | @claim id candidate pooled =>
          have wanted : (state.orchestrator.claim id).wanted = state.orchestrator.wanted := by
            have less := Map.size_erase state.orchestrator.warmPool id
            rw [pooled, Map.found_some] at less
            change max 0 (state.orchestrator.warmWorkersConfig + (state.orchestrator.pendingAllocations - 1) -
              (Map.size (state.orchestrator.warmPool.erase id) + state.orchestrator.bootingCount)) = _
            unfold Orchestrator.wanted Orchestrator.target Orchestrator.stock
            omega
          have runs := undisturbed.warm id candidate pooled
          refine ⟨⟨assigned, tallied, awake, undisturbed.resume rfl same runs ?_, configured⟩, ?_⟩
          · exact fun other worker left => undisturbed.warm other worker (Map.lookup_of_erase left)
          · refine labour_resume rfl found rfl rfl wanted ?_ Int.one_nonneg (Int.le_refl _)
            rw [looked]
            simp [Goroutine.steps, Goroutine.looks]
      | wait empty =>
          refine ⟨⟨assigned, tallied, awake, undisturbed.resume rfl same rfl undisturbed.warm, configured⟩, ?_⟩
          refine labour_resume rfl found rfl rfl rfl ?_ (Int.le_refl _) (Int.le_refl _)
          rw [looked]
          simp [Goroutine.steps, Goroutine.looks, Orchestrator.closed]
  | @rename g runner candidate suffix found =>
      have runs : state.running candidate.containerID = true := undisturbed.goroutines g _ found
      have keeps (id : ContainerID) := state.containerRename_running candidate.containerID id
        (namePrefixActive ++ runner ++ "-" ++ suffix)
      refine ⟨⟨assigned, tallied, awake, undisturbed.resume (containerRename_goroutines ..) ?_ ?_ ?_, ?_⟩, ?_⟩
      · exact fun id alive => (keeps id).trans alive
      · exact (keeps _).trans runs
      · rw [containerRename_orchestrator]
        exact fun id worker pooled => (keeps _).trans (undisturbed.warm id worker pooled)
      · rw [resume_orchestrator, containerRename_orchestrator]
        exact configured
      · have still := containerRename_orchestrator state candidate.containerID
          (namePrefixActive ++ runner ++ "-" ++ suffix)
        exact labour_resume (containerRename_goroutines ..) found (containerRename_pool ..) (by rw [still])
          (by rw [still])
          (by simp [Goroutine.steps, Goroutine.looks]) (Int.le_refl _) (Int.le_refl _)
  | @renameFail g runner candidate found =>
      have runs : state.running candidate.containerID = true := undisturbed.goroutines g _ found
      refine ⟨⟨assigned, tallied, awake, undisturbed.resume rfl same runs undisturbed.warm, configured⟩, ?_⟩
      exact labour_resume rfl found rfl rfl rfl (by simp [Goroutine.steps, Goroutine.looks]) (Int.le_refl _)
        (Int.le_refl _)
  | checkAlive found alive =>
      refine ⟨⟨assigned, tallied, awake, undisturbed.resume rfl same alive undisturbed.warm, configured⟩, ?_⟩
      exact labour_resume rfl found rfl rfl rfl (by simp [Goroutine.steps, Goroutine.looks]) (Int.le_refl _)
        (Int.le_refl _)
  | checkDead found => cases answers
  | register found free =>
      refine ⟨⟨assigned, tallied, awake, undisturbed.resume rfl same rfl undisturbed.warm, configured⟩, ?_⟩
      exact labour_announce rfl found rfl (by simp [Goroutine.steps]) ⟨rfl, rfl⟩ ⟨rfl, rfl⟩
  | markBusy found =>
      refine ⟨⟨assigned, tallied, awake, undisturbed.resume rfl same rfl undisturbed.warm, configured⟩, ?_⟩
      exact labour_resume rfl found rfl rfl rfl (by simp [Goroutine.steps, Goroutine.looks]) (Int.le_refl _)
        (Int.le_refl _)
  | @evaluate g outcome caller later found goes free =>
      obtain ⟨paused, managers, frame⟩ := state.evaluateCapacity_frame interfaces.pauser outcome
      have runs := undisturbed.goroutines g caller found
      rw [frame] at assigned tallied awake ⊢
      unfold afterEvaluation at goes
      split at goes <;> cases goes
      · cases runs
      · refine ⟨⟨assigned, tallied, awake, undisturbed.resume rfl same rfl undisturbed.warm, configured⟩, ?_⟩
        exact labour_resume rfl found rfl rfl rfl (by simp [Goroutine.steps, Goroutine.looks]) (Int.le_refl _)
          (Int.le_refl _)
      · cases runs
      · cases runs
  | _ => cases answers

/-- Every step of the pool is one of the answering. -/
theorem Fills.answers {state : System Managers} {action : Action Event Outcome} (fills : Fills state action) :
    Answers state action := by
  cases action with
  | wake | rename | register | markBusy | evaluate => trivial
  | check => cases fills
  | _ => exact fills

/-- Where no step is left no call is on its way to its container. -/
theorem Undisturbed.calm [Inhabited Outcome] {interfaces : Interfaces Managers Event Outcome} {state : System Managers}
    (undisturbed : Undisturbed state) (stuck : Stuck (step interfaces) Answers state) : Settling state := by
  have locked (after : System Managers) : state.locked after = some after :=
    if_neg (stuck_free fun action fills => stuck action fills.answers)
  intro g goroutine found
  have served := undisturbed.goroutines g goroutine found
  unfold Goroutine.served at served
  split at served
  · have enabled := stuck (.rename g none) trivial
    simp [step, found] at enabled
  · have enabled := stuck (.check g true) rfl
    simp [step, found, served] at enabled
  · have enabled := stuck (.register g) trivial
    simp [step, found, locked] at enabled
  · have enabled := stuck (.markBusy g) trivial
    simp [step, found] at enabled
  · have enabled := stuck (.evaluate g default) trivial
    simp [step, found, afterEvaluation, locked] at enabled
  · exact served

/-- A call that waits finds nothing in the pool, and no room for another container. -/
theorem Answering.waits_full [Inhabited Outcome] {interfaces : Interfaces Managers Event Outcome}
    {state : System Managers}
    (answering : Answering state) (stuck : Stuck (step interfaces) Answers state) {g : GoroutineID}
    {runner : RunnerName}
    {channel : Nat} (found : state.goroutines.lookup g = some (.allocate runner (.waiting channel))) :
    state.orchestrator.maxWorkers ≤ state.orchestrator.activeWorkers.size := by
  have filled : Stuck (step interfaces) Fills state := fun action fills => stuck action fills.answers
  have calm := answering.undisturbed.calm stuck
  obtain ⟨booted, reason⟩ := stuck_satisfied answering.tallied answering.awake calm filled
  have locked (after : System Managers) : state.locked after = some after := if_neg (stuck_free filled)
  have opened : state.orchestrator.closed channel = false := by
    rw [Bool.eq_false_iff]
    intro closed
    by_cases empty : state.orchestrator.warmPool = ∅
    · have enabled := stuck (.wake g none) trivial
      simp [step, found, closed, claimOrWait, empty, locked] at enabled
    · obtain ⟨id, candidate, known⟩ : ∃ id candidate, state.orchestrator.warmPool.lookup id = some candidate := by
        by_contra missing
        push Not at missing
        refine empty (Finmap.ext_lookup fun id => ?_)
        rw [Finmap.lookup_empty, Option.eq_none_iff_forall_ne_some]
        exact missing id
      have enabled := stuck (.wake g (some id)) trivial
      simp [step, found, closed, claimOrWait, known, locked] at enabled
  have latest := Orchestrator.open_eq (answering.awake.callChannel g runner channel found) opened
  have nobody : state.bootAnnouncers = 0 := tally_rests (calm.rests filled) fun _ rests => (resting_idle rests).2.1
  have empty : state.orchestrator.warmPool.size = 0 := by
    rcases answering.awake.empty g runner (latest ▸ found) with empty | announced
    · exact empty
    · omega
  rcases reason with stocked | full
  · -- The request itself keeps the target above the empty pool.
    have requested := Map.found_le_weigh state.goroutines (fun _ => Goroutine.requests)
      (fun _ => Goroutine.requests_nonneg) g
    have pending := answering.tallied.pending
    have configured := answering.configured
    rw [found] at requested
    simp only [Map.found_some, Goroutine.requests] at requested
    unfold Orchestrator.stocked Orchestrator.target at stocked
    unfold tally at pending
    omega
  · unfold Orchestrator.full Orchestrator.total at full
    omega

/-- Every call of the one state has a container in the other, or was withdrawn, or waits while the active
workers alone take up the limit. -/
def Answered (state last : System Managers) : Prop :=
  ∀ g runner phase, state.goroutines.lookup g = some (.allocate runner phase) →
    ∃ later, last.goroutines.lookup g = some (.allocate runner later) ∧
      ((∃ candidate, later = .returned candidate) ∨ later = .cancelled ∨
        (∃ channel, later = .waiting channel) ∧ last.orchestrator.maxWorkers ≤ last.orchestrator.activeWorkers.size)

/-- A call stays a call for its runner. -/
def Called (state last : System Managers) : Prop :=
  ∀ g runner phase, state.goroutines.lookup g = some (.allocate runner phase) →
    ∃ later, last.goroutines.lookup g = some (.allocate runner later)

theorem calls_step {interfaces : Interfaces Managers Event Outcome} {state between after : System Managers}
    {action : Action Event Outcome} (calls : Called state between) (effect : Effect interfaces between action after) :
    Called state after := by
  intro g runner phase called
  obtain ⟨middle, before⟩ := calls g runner phase called
  have resumes := effect_resumes effect g
  rw [before] at resumes
  generalize after.goroutines.lookup g = new at resumes ⊢
  cases resumes with
  | same => exact ⟨middle, rfl⟩
  | progresses progress => cases progress <;> exact ⟨_, rfl⟩

theorem Answering.answered [Inhabited Outcome] {interfaces : Interfaces Managers Event Outcome}
    {state last : System Managers}
    (answering : Answering last) (calls : Called state last) (stuck : Stuck (step interfaces) Answers last) :
    Answered state last := by
  intro g runner phase called
  obtain ⟨later, found⟩ := calls g runner phase called
  refine ⟨later, found, ?_⟩
  have calm := answering.undisturbed.calm stuck
  rcases calm.rests (fun action fills => stuck action fills.answers) g _ found with settled | waits
  · cases later <;> first | exact .inl ⟨_, rfl⟩ | exact .inr (.inl rfl) | cases settled
  · cases later with
    | waiting channel => exact .inr (.inr ⟨⟨channel, rfl⟩, answering.waits_full stuck found⟩)
    | _ => cases waits

end System

end RunnersMux
