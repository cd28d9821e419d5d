import RunnersMux.Foundations.Transitions
import RunnersMux.Orchestrator.Recovery

/-! The two counters of the pool.

`bootingCount` and `pendingAllocations` count goroutines in certain phases. The
sums over the goroutines that they equal are what the rest is stated with.
-/

set_option autoImplicit false

namespace RunnersMux

open Foundations

namespace Goroutine

/-- A call of `startContainer` whose result is not recorded yet. -/
def boots : Goroutine → Int
  | .boot .starting | .boot (.inspecting _) | .boot .failed | .boot (.started _) => 1
  | _ => 0

/-- A request that `pendingAllocations` counts. -/
def requests : Goroutine → Int
  | .allocate _ (.waiting _) => 1
  | _ => 0

theorem requests_nonneg (goroutine : Goroutine) : 0 ≤ goroutine.requests := by
  unfold requests
  split <;> decide

end Goroutine

namespace System

variable {Managers Event Outcome : Type}

structure Tallied (state : System Managers) : Prop where
  booting : state.orchestrator.bootingCount = tally Goroutine.boots state.goroutines
  pending : state.orchestrator.pendingAllocations = tally Goroutine.requests state.goroutines

/-- A section that ends with one goroutine in a new phase changes each counter
by the difference of the two phases. -/
theorem Tallied.resume {state between : System Managers} {g : GoroutineID} {old : Option Goroutine}
    {new : Goroutine} (tallied : Tallied state) (same : between.goroutines = state.goroutines)
    (found : state.goroutines.lookup g = old)
    (booting : between.orchestrator.bootingCount =
      state.orchestrator.bootingCount + new.boots - Map.found Goroutine.boots old)
    (pending : between.orchestrator.pendingAllocations =
      state.orchestrator.pendingAllocations + new.requests - Map.found Goroutine.requests old) :
    Tallied (between.resume g new) := by
  have boots := tallied.booting
  have requests := tallied.pending
  constructor
  · rw [resume_orchestrator, resume_goroutines, tally_insert, same, found, booting, boots]
  · rw [resume_orchestrator, resume_goroutines, tally_insert, same, found, pending, requests]

theorem Picked.tallied {o after : Orchestrator} {phase : AllocatePhase} (picked : Picked o after phase)
    (runner : RunnerName) : after.bootingCount = o.bootingCount ∧
      (Goroutine.allocate runner phase).boots = 0 ∧
      after.pendingAllocations = o.pendingAllocations - 1 + (Goroutine.allocate runner phase).requests := by
  cases picked with
  | claim found => exact ⟨rfl, rfl, (Int.add_zero _).symm⟩
  | wait empty => exact ⟨rfl, rfl, (Int.sub_add_cancel _ 1).symm⟩

/-- A call that picks has made its request, and takes it back with the worker. -/
theorem Tallied.pick {state : System Managers} {g : GoroutineID} {old : Option Goroutine} {runner : RunnerName}
    {o after : Orchestrator} {phase : AllocatePhase} (tallied : Tallied state) (picked : Picked o after phase)
    (found : state.goroutines.lookup g = old) (booting : o.bootingCount = state.orchestrator.bootingCount)
    (still : Map.found Goroutine.boots old = 0)
    (pending : o.pendingAllocations =
      state.orchestrator.pendingAllocations + 1 - Map.found Goroutine.requests old) :
    Tallied ({ state with orchestrator := after }.resume g (.allocate runner phase)) := by
  obtain ⟨same, boots, requests⟩ := picked.tallied runner
  refine tallied.resume rfl found ?_ ?_
  · change after.bootingCount = _
    omega
  · change after.pendingAllocations = state.orchestrator.pendingAllocations + _ - _
    omega

theorem Reaped.tallied {reporter : StatusReporter Managers} {state between : System Managers}
    {key : ContainerID} {changed : Bool} (reaped : Reaped reporter state key between changed) :
    between.goroutines = state.goroutines ∧
      between.orchestrator.bootingCount = state.orchestrator.bootingCount ∧
      between.orchestrator.pendingAllocations = state.orchestrator.pendingAllocations := by
  cases reaped <;> exact ⟨rfl, rfl, rfl⟩

theorem afterEvaluation_tallied {caller later : Goroutine} (goes : afterEvaluation caller = some later) :
    later.boots = caller.boots ∧ later.requests = caller.requests := by
  unfold afterEvaluation at goes
  split at goes <;> cases goes <;> exact ⟨rfl, rfl⟩

theorem tallied_step (interfaces : Interfaces Managers Event Outcome) {state after : System Managers}
    {action : Action Event Outcome} (tallied : Tallied state)
    (effect : Effect interfaces state action after) : Tallied after := by
  cases effect with
  | poolLock | poolBlock | setStatusReporter | managers | updateSettings =>
      exact ⟨tallied.booting, tallied.pending⟩
  | poolBoot held short full fresh =>
      refine tallied.resume rfl fresh ?_ ?_
      · exact (Int.sub_zero _).symm
      · exact (Int.add_sub_cancel _ 0).symm
  | bootCreate found | bootCreateFail found | bootInspect found | bootAlive found | bootDead found
  | renameFail found | checkAlive found | checkDead found | markBusy found =>
      refine tallied.resume rfl found ?_ ?_ <;> exact (Int.add_sub_cancel _ _).symm
  | bootInspectFail found | discard found | kill found =>
      refine tallied.resume (remove_goroutines ..) found ?_ ?_ <;> rw [remove_orchestrator] <;>
        exact (Int.add_sub_cancel _ _).symm
  | rename found =>
      refine tallied.resume (containerRename_goroutines ..) found ?_ ?_ <;>
        rw [containerRename_orchestrator] <;> exact (Int.add_sub_cancel _ _).symm
  | bootPool found free | bootGiveUp found free =>
      -- The result is recorded: one call of `startContainer` less.
      refine tallied.resume rfl found ?_ ?_
      · exact congrArg (· - 1) (Int.add_zero _).symm
      · exact (Int.add_sub_cancel _ _).symm
  | @bootDeath g worker between changed found free reaped =>
      -- A pooled container is not booting any more, so its death moves neither counter.
      obtain ⟨goroutines, booting, pending⟩ := reaped.tallied
      refine tallied.resume goroutines found ?_ ?_
      · rw [booting]
        cases changed <;> exact (Int.add_sub_cancel _ _).symm
      · rw [pending]
        exact (Int.add_sub_cancel _ _).symm
  | bootBroadcast found free =>
      rcases found with found | found <;>
        refine tallied.resume rfl found ?_ ?_ <;> exact (Int.add_sub_cancel _ _).symm
  | allocate fresh free picked => exact tallied.pick picked fresh rfl rfl (Int.sub_zero _).symm
  | wake found closed free picked => exact tallied.pick picked found rfl rfl (Int.add_sub_cancel _ 1).symm
  | cancel found free =>
      refine tallied.resume rfl found ?_ ?_
      · exact (Int.add_sub_cancel _ _).symm
      · exact congrArg (· - 1) (Int.add_zero _).symm
  | retry found free picked => exact tallied.pick picked found rfl rfl (Int.sub_zero _).symm
  | register found free =>
      refine tallied.resume rfl found ?_ ?_ <;> exact (Int.add_sub_cancel _ _).symm
  | dieEvent known dead fresh free reaped =>
      obtain ⟨goroutines, booting, pending⟩ := reaped.tallied
      refine tallied.resume goroutines fresh ?_ ?_
      · exact booting.trans (Int.add_sub_cancel _ 0).symm
      · exact pending.trans (Int.add_sub_cancel _ 0).symm
  | abortActive found fresh free =>
      refine tallied.resume rfl fresh ?_ ?_ <;> exact (Int.add_sub_cancel _ 0).symm
  | abortUnknown absent fresh free =>
      refine tallied.resume rfl fresh ?_ ?_ <;> exact (Int.add_sub_cancel _ 0).symm
  | evaluate found goes free =>
      obtain ⟨paused, managers, frame⟩ := state.evaluateCapacity_frame interfaces.pauser ‹_›
      obtain ⟨boots, requests⟩ := afterEvaluation_tallied goes
      rw [frame]
      refine tallied.resume rfl found ?_ ?_
      · rw [boots]
        exact (Int.add_sub_cancel _ _).symm
      · rw [requests]
        exact (Int.add_sub_cancel _ _).symm
  | die alive =>
      constructor
      · rw [stop_orchestrator, stop_goroutines]
        exact tallied.booting
      · rw [stop_orchestrator, stop_goroutines]
        exact tallied.pending

theorem tallied_booted {maxWorkers warmWorkers : Int} {managers : Managers} {state : System Managers}
    (started : Started maxWorkers warmWorkers managers state) : Tallied state := by
  obtain ⟨docker, listing, answers, rfl⟩ := started
  obtain ⟨warm, active, listeners, recovered⟩ :=
    (Orchestrator.newOrchestrator maxWorkers warmWorkers).recoverState_frame listing
  constructor
  · change ((Orchestrator.newOrchestrator maxWorkers warmWorkers).recoverState listing).bootingCount = 0
    rw [recovered]
    rfl
  · change ((Orchestrator.newOrchestrator maxWorkers warmWorkers).recoverState listing).pendingAllocations = 0
    rw [recovered]
    rfl

theorem reached_tallied (interfaces : Interfaces Managers Event Outcome) {maxWorkers warmWorkers : Int}
    {managers : Managers} {allowed : System Managers → Action Event Outcome → Prop} {state : System Managers}
    (reached : Reaches (step interfaces) (Started maxWorkers warmWorkers managers) allowed state) :
    Tallied state := by
  apply reached.invariant
  · intro start started
    exact tallied_booted started
  · intro earlier action after _ tallied _ taken
    exact tallied_step interfaces tallied (step_effect interfaces taken)

end System

end RunnersMux
