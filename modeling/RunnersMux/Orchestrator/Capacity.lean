import RunnersMux.Foundations.Transitions
import RunnersMux.Orchestrator.Recovery

/-! The limit on worker containers.

`maintainPool` admits a boot by counting warm, active and booting containers.
A container that `AllocateWorker` has claimed and not yet registered is in none
of the three. The limit is kept by the runs in which no boot is admitted
against the slot of such a container.
-/

set_option autoImplicit false

namespace RunnersMux

open Foundations

/-- One for a call whose container is out of `warmPool` and may still be registered. -/
def Goroutine.claimed : Goroutine → Int
  | .allocate _ (.claimed _) | .allocate _ (.renamed _) | .allocate _ (.alive _) => 1
  | _ => 0

theorem Goroutine.claimed_nonneg (goroutine : Goroutine) : 0 ≤ goroutine.claimed := by
  unfold claimed
  split <;> decide

/-- An iteration of `maintainPool`. -/
def Action.loops {Event Outcome : Type} : Action Event Outcome → Bool
  | .poolLoop _ => true
  | _ => false

namespace System

variable {Managers Event Outcome : Type}

def claimedCount (state : System Managers) : Int := tally Goroutine.claimed state.goroutines

/-- The limit of the README on containers booted at once. -/
def WithinCapacity (maxWorkers : Int) (state : System Managers) : Prop :=
  state.orchestrator.total ≤ maxWorkers

/-- `maxWorkers` is constant during the run. -/
def constantMax (maxWorkers : Int) (_ : System Managers) (action : Action Event Outcome) : Prop :=
  ∀ settings ∈ action.settings, settings.1 = maxWorkers

/-- A boot that the pool admits leaves room for the claimed containers too. -/
def admitsClaims (maxWorkers : Int) (state : System Managers) (action : Action Event Outcome) : Prop :=
  constantMax maxWorkers state action ∧
    (action.loops = true → ¬state.orchestrator.stocked → ¬state.orchestrator.full →
      state.orchestrator.total + state.claimedCount < maxWorkers)

instance (maxWorkers : Int) (state : System Managers) :
    Decidable (WithinCapacity maxWorkers state) := inferInstanceAs (Decidable (_ ≤ _))

instance (maxWorkers : Int) (state : System Managers) (action : Action Event Outcome) :
    Decidable (constantMax maxWorkers state action) :=
  inferInstanceAs (Decidable (∀ settings ∈ action.settings, settings.1 = maxWorkers))

instance (maxWorkers : Int) (state : System Managers) (action : Action Event Outcome) :
    Decidable (admitsClaims maxWorkers state action) := inferInstanceAs (Decidable (_ ∧ (_ → _)))

/-- The limit with the claimed containers counted in. -/
structure Slots (maxWorkers : Int) (state : System Managers) : Prop where
  constant : state.orchestrator.maxWorkers = maxWorkers
  room : state.orchestrator.total + state.claimedCount ≤ maxWorkers

theorem Picked.slots {o after : Orchestrator} {phase : AllocatePhase} (picked : Picked o after phase) :
    after.maxWorkers = o.maxWorkers ∧ ∀ runner,
      after.total + (Goroutine.allocate runner phase).claimed = o.total := by
  cases picked with
  | claim found =>
      refine ⟨rfl, fun runner => ?_⟩
      rw [o.total_claim found]
      simp only [Goroutine.claimed]
      omega
  | wait empty => exact ⟨rfl, fun runner => Int.add_zero _⟩

theorem Reaped.slots {reporter : StatusReporter Managers} {state between : System Managers}
    {id : ContainerID} {changed : Bool} (reaped : Reaped reporter state id between changed) :
    between.orchestrator.maxWorkers = state.orchestrator.maxWorkers ∧
      between.goroutines = state.goroutines ∧
      between.orchestrator.total ≤ state.orchestrator.total := by
  cases reaped with
  | active found =>
      refine ⟨rfl, rfl, ?_⟩
      simp only [Orchestrator.total_broadcast, Orchestrator.total_removeActive _ found]
      omega
  | warm absent found =>
      refine ⟨rfl, rfl, ?_⟩
      simp only [Orchestrator.total_broadcast, Orchestrator.total_removeWarm _ found]
      omega
  | unknown absent missing => exact ⟨rfl, rfl, Int.le_refl _⟩

theorem afterEvaluation_claimed {caller later : Goroutine} (goes : afterEvaluation caller = some later) :
    caller.claimed = 0 ∧ later.claimed = 0 := by
  unfold afterEvaluation at goes
  split at goes <;> cases goes <;> exact ⟨rfl, rfl⟩

/-- Only an admitted boot adds to the slots in use; a registration moves a
claimed container into a slot that is already counted. -/
theorem slots_step (interfaces : Interfaces Managers Event Outcome) {maxWorkers : Int}
    {state after : System Managers} {action : Action Event Outcome} (slots : Slots maxWorkers state)
    (admitted : admitsClaims maxWorkers state action)
    (effect : Effect interfaces state action after) : Slots maxWorkers after := by
  obtain ⟨constant, room⟩ := slots
  cases effect with
  | poolLock | poolBlock | setStatusReporter | managers => exact ⟨constant, room⟩
  | poolBoot held short full fresh =>
      -- `total < maxWorkers` alone would not count the claimed containers.
      have space := admitted.2 rfl short full
      refine ⟨constant, ?_⟩
      simp only [claimedCount, resume_orchestrator, resume_goroutines, tally_insert, fresh,
        Goroutine.claimed, Map.found_none, Orchestrator.total_admitBoot] at *
      omega
  | bootCreate found | bootCreateFail found | bootInspect found | bootInspectFail found
  | bootAlive found | bootDead found | checkDead found | discard found | markBusy found | kill found =>
      refine ⟨by simpa using constant, ?_⟩
      simp only [claimedCount, resume_orchestrator, resume_goroutines, remove_orchestrator,
        remove_goroutines, tally_insert, found, Goroutine.claimed, Map.found_some] at *
      omega
  | bootPool found free =>
      refine ⟨constant, ?_⟩
      have grown := state.orchestrator.total_recordBoot_le ‹_›
      simp only [claimedCount, resume_orchestrator, resume_goroutines, tally_insert, found,
        Goroutine.claimed, Map.found_some] at *
      omega
  | bootGiveUp found free =>
      refine ⟨constant, ?_⟩
      simp only [claimedCount, resume_orchestrator, resume_goroutines, tally_insert, found,
        Goroutine.claimed, Map.found_some, Orchestrator.total_recordBoot_none] at *
      omega
  | bootDeath found free reaped =>
      obtain ⟨max, goroutines, total⟩ := reaped.slots
      refine ⟨max.trans constant, ?_⟩
      simp only [claimedCount, resume_orchestrator, resume_goroutines, goroutines, tally_insert, found,
        Goroutine.claimed, Map.found_some] at *
      omega
  | bootBroadcast found free =>
      refine ⟨constant, ?_⟩
      rcases found with found | found <;>
        simp only [claimedCount, resume_orchestrator, resume_goroutines, tally_insert, found,
          Goroutine.claimed, Map.found_some, Orchestrator.total_broadcast] at * <;> omega
  | allocate fresh free picked =>
      -- A claimed container leaves `total`, and the call holds its slot.
      obtain ⟨max, total⟩ := picked.slots
      refine ⟨max.trans constant, ?_⟩
      have moved := total ‹_›
      simp only [claimedCount, resume_orchestrator, resume_goroutines, tally_insert, fresh,
        Map.found_none, Orchestrator.total_broadcast, Orchestrator.total_request] at *
      omega
  | wake found closed free picked =>
      obtain ⟨max, total⟩ := picked.slots
      refine ⟨max.trans constant, ?_⟩
      have moved := total ‹_›
      simp only [claimedCount, resume_orchestrator, resume_goroutines, tally_insert, found,
        Goroutine.claimed, Map.found_some] at *
      omega
  | cancel found free =>
      refine ⟨constant, ?_⟩
      simp only [claimedCount, resume_orchestrator, resume_goroutines, tally_insert, found,
        Goroutine.claimed, Map.found_some, Orchestrator.total_withdraw] at *
      omega
  | rename found | renameFail found | checkAlive found =>
      refine ⟨by simpa using constant, ?_⟩
      simp only [claimedCount, resume_orchestrator, resume_goroutines, containerRename_orchestrator,
        containerRename_goroutines, tally_insert, found, Goroutine.claimed, Map.found_some] at *
      omega
  | retry found free picked =>
      obtain ⟨max, total⟩ := picked.slots
      refine ⟨max.trans constant, ?_⟩
      have moved := total ‹_›
      simp only [claimedCount, resume_orchestrator, resume_goroutines, tally_insert, found,
        Goroutine.claimed, Map.found_some, Orchestrator.total_request] at *
      omega
  | register found free =>
      refine ⟨constant, ?_⟩
      have grown := state.orchestrator.total_register_le ‹RunnerName› ‹_›
      simp only [claimedCount, resume_orchestrator, resume_goroutines, tally_insert, found,
        Goroutine.claimed, Map.found_some, Orchestrator.total_broadcast] at *
      omega
  | dieEvent known dead fresh free reaped =>
      obtain ⟨max, goroutines, total⟩ := reaped.slots
      refine ⟨max.trans constant, ?_⟩
      simp only [claimedCount, resume_orchestrator, resume_goroutines, goroutines, tally_insert, fresh,
        Goroutine.claimed, Map.found_none] at *
      omega
  | abortActive found fresh free =>
      refine ⟨constant, ?_⟩
      have shrunk := state.orchestrator.total_removeActive found ‹ActiveWorker›.runnerName
      simp only [claimedCount, resume_orchestrator, resume_goroutines, tally_insert, fresh,
        Goroutine.claimed, Map.found_none] at *
      omega
  | abortUnknown absent fresh free =>
      refine ⟨constant, ?_⟩
      simp only [claimedCount, resume_orchestrator, resume_goroutines, tally_insert, fresh,
        Goroutine.claimed, Map.found_none] at *
      omega
  | evaluate found goes free =>
      obtain ⟨paused, managers, frame⟩ := state.evaluateCapacity_frame interfaces.pauser ‹_›
      have unclaimed := afterEvaluation_claimed goes
      rw [frame]
      refine ⟨constant, ?_⟩
      have same : Orchestrator.total { state.orchestrator with isPaused := paused } =
          state.orchestrator.total := rfl
      simp only [claimedCount, resume_orchestrator, resume_goroutines, tally_insert, found,
        Map.found_some, unclaimed, same] at *
      omega
  | updateSettings free => exact ⟨admitted.1 _ rfl, room⟩
  | die alive => exact ⟨by simpa using constant, by simpa [claimedCount] using room⟩

theorem slots_booted {maxWorkers warmWorkers : Int} {managers : Managers} {state : System Managers}
    (started : Started maxWorkers warmWorkers managers state)
    (within : WithinCapacity maxWorkers state) : Slots maxWorkers state := by
  obtain ⟨docker, listing, answers, rfl⟩ := started
  obtain ⟨warm, active, listeners, recovered⟩ :=
    (Orchestrator.newOrchestrator maxWorkers warmWorkers).recoverState_frame listing
  have unclaimed : (booted maxWorkers warmWorkers docker listing managers).claimedCount = 0 := rfl
  constructor
  · change ((Orchestrator.newOrchestrator maxWorkers warmWorkers).recoverState listing).maxWorkers = _
    rw [recovered]
    rfl
  · rw [unclaimed]
    unfold WithinCapacity at within
    omega

/-- With room kept for the claimed containers the limit holds in every state,
and those containers are within it too. -/
theorem within_capacity (interfaces : Interfaces Managers Event Outcome) (maxWorkers warmWorkers : Int)
    (managers : Managers) (state : System Managers)
    (reached : Reaches (step interfaces)
      (fun start => Started maxWorkers warmWorkers managers start ∧ WithinCapacity maxWorkers start)
      (admitsClaims maxWorkers) state) :
    WithinCapacity maxWorkers state ∧ state.orchestrator.total + state.claimedCount ≤ maxWorkers := by
  have slots : Slots maxWorkers state := by
    apply reached.invariant
    · intro start begins
      exact slots_booted begins.1 begins.2
    · intro earlier action after _ slots admitted taken
      exact slots_step interfaces slots admitted (step_effect interfaces taken)
  have unclaimed : 0 ≤ state.claimedCount := tally_nonneg Goroutine.claimed_nonneg state.goroutines
  have room := slots.room
  refine ⟨?_, room⟩
  unfold WithinCapacity
  omega

/-- The pool boots a replacement for a container that a call has claimed, and
the call then registers it: one active and one booting against a limit of one. -/
theorem capacity_exceeded : ∃ state : System Unit,
    Reaches (step Interfaces.silent)
      (fun start => Started 1 1 () start ∧ WithinCapacity 1 start) (constantMax 1) state ∧
    ¬WithinCapacity 1 state := by
  apply Reaches.of_replay ⟨oneWarm_started 1 1, by decide⟩ [.allocate 0 "r" (some "c1"), .poolLock,
    .poolLoop 1, .poolLoop 2, .rename 0 (some "2"), .check 0 true, .register 0]
  decide

theorem within_capacity_two : ∃ state : System Unit,
    (state.orchestrator.activeWorkers.size = 1 ∧ state.orchestrator.bootingCount = 1) ∧
    WithinCapacity 2 state ∧ state.orchestrator.total + state.claimedCount ≤ 2 := by
  obtain ⟨state, reached, shape⟩ : ∃ state, Reaches (step Interfaces.silent)
      (fun start => Started 2 1 () start ∧ WithinCapacity 2 start) (admitsClaims 2) state ∧
      state.orchestrator.activeWorkers.size = 1 ∧ state.orchestrator.bootingCount = 1 := by
    apply Reaches.of_replay ⟨oneWarm_started 2 1, by decide⟩ [.allocate 0 "r" (some "c1"), .poolLock,
      .poolLoop 1, .poolLoop 2, .rename 0 (some "2"), .check 0 true, .register 0]
    decide
  exact ⟨state, shape, within_capacity Interfaces.silent 2 1 () state reached⟩

end System

end RunnersMux
