import RunnersMux.Orchestrator.Sparing

/-! The workers that a runner has or is about to be given.

A call of `AllocateWorker` seeks a worker until it has registered one or its
context has ended. The active workers of a runner and its seeking calls add up to
its supply, which a registration leaves alone: only a new request adds to it, and
only a death, an abort or a cancelled request takes from it.
-/

set_option autoImplicit false

namespace RunnersMux

open Foundations

/-- A call that has neither registered a worker nor given up. -/
def AllocatePhase.seeks : AllocatePhase → Bool
  | .waiting _ | .claimed _ | .renamed _ | .dead _ | .discarded | .alive _ => true
  | .registered _ | .marked _ | .returned _ | .cancelled => false

def Goroutine.seeks (runner : RunnerName) : Goroutine → Int
  | .allocate name phase => if name = runner ∧ phase.seeks = true then 1 else 0
  | _ => 0

theorem Goroutine.seeks_nonneg (runner : RunnerName) (goroutine : Goroutine) : 0 ≤ goroutine.seeks runner := by
  unfold seeks
  split
  · split <;> decide
  · decide

/-- What a step adds to the supply of a runner. -/
def Action.asks {Event Outcome : Type} (runner : RunnerName) (action : Action Event Outcome) : Int :=
  if action.requests = some runner then 1 else 0

/-- A step that may take from it. -/
def Action.loses {Event Outcome : Type} : Action Event Outcome → Bool
  | .bootDeath _ | .dieEvent _ _ | .abort _ _ | .cancel _ => true
  | _ => false

namespace System

variable {Managers Event Outcome : Type}

def supply (state : System Managers) (runner : RunnerName) : Int :=
  state.orchestrator.getActiveCount runner + tally (Goroutine.seeks runner) state.goroutines

/-- What a step does to the supply. -/
structure Supplied (runner : RunnerName) (action : Action Event Outcome) (state after : System Managers) : Prop where
  most : after.supply runner ≤ state.supply runner + action.asks runner
  equal : action.loses = false → after.supply runner = state.supply runner + action.asks runner

section
variable {state between after : System Managers} {runner : RunnerName} {action : Action Event Outcome}

theorem Supplied.of_eq (equal : after.supply runner = state.supply runner + action.asks runner) :
    Supplied runner action state after := ⟨Int.le_of_eq equal, fun _ => equal⟩

theorem Supplied.of_le (loses : action.loses = true)
    (most : after.supply runner ≤ state.supply runner + action.asks runner) : Supplied runner action state after :=
  ⟨most, fun keeps => Bool.noConfusion (keeps.symm.trans loses)⟩

theorem supply_resume {g : GoroutineID} {new : Goroutine} {old : Option Goroutine}
    (same : between.goroutines = state.goroutines) (found : state.goroutines.lookup g = old) :
    (between.resume g new).supply runner = between.orchestrator.getActiveCount runner +
      (tally (Goroutine.seeks runner) state.goroutines + new.seeks runner -
        Map.found (Goroutine.seeks runner) old) := by
  unfold supply
  rw [resume_orchestrator, resume_goroutines, tally_insert, same, found]

/-- A step of one goroutine that begins or ends to seek as the active workers tell. -/
theorem Supplied.moves {g : GoroutineID} {new : Goroutine} {old : Option Goroutine}
    (same : between.goroutines = state.goroutines) (found : state.goroutines.lookup g = old)
    (balance : between.orchestrator.getActiveCount runner + new.seeks runner =
      state.orchestrator.getActiveCount runner + Map.found (Goroutine.seeks runner) old + action.asks runner) :
    Supplied runner action state (between.resume g new) := by
  apply Supplied.of_eq
  rw [supply_resume same found]
  unfold supply
  omega

/-- A step of a goroutine that has nothing to do with it. -/
theorem Supplied.goes {g : GoroutineID} {new : Goroutine} {old : Option Goroutine}
    (same : between.goroutines = state.goroutines) (found : state.goroutines.lookup g = old)
    (asks : action.asks runner = 0)
    (active : between.orchestrator.getActiveCount runner = state.orchestrator.getActiveCount runner)
    (seeks : new.seeks runner = Map.found (Goroutine.seeks runner) old) :
    Supplied runner action state (between.resume g new) := by
  apply Supplied.moves same found
  omega

/-- A step that may take an active worker, or a call that seeks one. -/
theorem Supplied.drops {g : GoroutineID} {new : Goroutine} {old : Option Goroutine} (loses : action.loses = true)
    (same : between.goroutines = state.goroutines) (found : state.goroutines.lookup g = old)
    (asks : action.asks runner = 0)
    (active : between.orchestrator.getActiveCount runner ≤ state.orchestrator.getActiveCount runner)
    (seeks : new.seeks runner ≤ Map.found (Goroutine.seeks runner) old) :
    Supplied runner action state (between.resume g new) := by
  apply Supplied.of_le loses
  rw [supply_resume same found]
  unfold supply
  omega

theorem Picked.seeks {o after : Orchestrator} {phase : AllocatePhase} (picked : Picked o after phase) :
    phase.seeks = true := by
  cases picked <;> rfl

theorem seeks_allocate {name : RunnerName} {phase : AllocatePhase} (seeks : phase.seeks = true) :
    (Goroutine.allocate name phase).seeks runner = if name = runner then 1 else 0 := by
  simp [Goroutine.seeks, seeks]

theorem seeks_settled {name : RunnerName} {phase : AllocatePhase} (settled : phase.seeks = false) :
    (Goroutine.allocate name phase).seeks runner = 0 := by
  simp [Goroutine.seeks, settled]

theorem supply_step (interfaces : Interfaces Managers Event Outcome)
    (effect : Effect interfaces state action after) (runner : RunnerName) : Supplied runner action state after := by
  cases effect with
  | poolLock | poolBlock | setStatusReporter | managers | updateSettings => exact .of_eq (Int.add_zero _).symm
  | poolBoot held short full fresh => exact .goes rfl fresh rfl rfl rfl
  | bootCreate found | bootCreateFail found | bootInspect found | bootPool found | bootGiveUp found
  | bootAlive found | bootDead found | renameFail found | checkAlive found | checkDead found | markBusy found =>
      exact .goes rfl found rfl rfl rfl
  -- Docker's containers do not enter the supply.
  | bootInspectFail found | discard found | kill found =>
      exact .goes (remove_goroutines ..) found rfl (by rw [remove_orchestrator]) rfl
  | rename found =>
      exact .goes (containerRename_goroutines ..) found rfl (by rw [containerRename_orchestrator]) rfl
  | @bootDeath g worker between changed found free reaped =>
      obtain ⟨same, fewer⟩ := reaped.count runner
      exact .drops rfl same found rfl fewer (Int.le_refl 0)
  | bootBroadcast found free =>
      rcases found with found | found <;> exact .goes rfl found rfl rfl rfl
  | @allocate g name choice o phase fresh free picked =>
      -- A new call seeks from its first section on.
      refine .moves rfl fresh ?_
      rw [seeks_allocate picked.seeks]
      refine congrArg₂ (· + ·) ((picked.count name runner).1.trans (Int.add_zero _).symm) ?_
      simp [Action.asks, Action.requests]
  | wake found closed free picked | retry found free picked =>
      refine .goes rfl found rfl (picked.count "" runner).1 ?_
      rw [seeks_allocate picked.seeks]
      exact (seeks_allocate rfl).symm
  | @cancel g name channel found free =>
      have settled : (Goroutine.allocate name .cancelled).seeks runner = 0 := seeks_settled rfl
      refine .drops rfl rfl found rfl (Int.le_refl _) ?_
      rw [settled, Map.found_some]
      exact Goroutine.seeks_nonneg runner _
  | @register g name candidate found free =>
      -- The new worker takes the place of the call that has sought it.
      have seeker : (Goroutine.allocate name (.alive candidate)).seeks runner = if name = runner then 1 else 0 :=
        seeks_allocate rfl
      have settled : (Goroutine.allocate name (.registered candidate)).seeks runner = 0 := seeks_settled rfl
      refine .moves rfl found ?_
      rw [Map.found_some, seeker, settled]
      exact congrArg (· + (0 : Int)) (state.orchestrator.getActiveCount_register name runner candidate)
  | dieEvent known dead fresh free reaped =>
      obtain ⟨same, fewer⟩ := reaped.count runner
      exact .drops rfl same fresh rfl fewer (Int.le_refl 0)
  | abortActive found fresh free =>
      -- The entry may be another runner's, so the count falls at most.
      exact .drops rfl rfl fresh rfl (Orchestrator.getActiveCount_removeActive_le ..) (Int.le_refl 0)
  | abortUnknown absent fresh free => exact .goes rfl fresh rfl rfl rfl
  | @evaluate g outcome caller later found goes free =>
      obtain ⟨paused, managers, frame⟩ := state.evaluateCapacity_frame interfaces.pauser outcome
      rw [frame]
      refine .goes rfl found rfl rfl ?_
      unfold afterEvaluation at goes
      split at goes <;> cases goes <;> rfl
  | die alive =>
      apply Supplied.of_eq
      unfold supply
      rw [stop_orchestrator, stop_goroutines]
      exact (Int.add_zero _).symm

end

end System

/-- Whose call of `AllocateWorker` a goroutine runs, and whether it seeks. -/
def Goroutine.call : Goroutine → Option (RunnerName × Bool)
  | .allocate runner phase => some (runner, phase.seeks)
  | _ => none

namespace System

variable {Managers Event Outcome : Type}

def callOf (state : System Managers) (g : GoroutineID) : Option (RunnerName × Bool) :=
  (state.goroutines.lookup g).bind Goroutine.call

theorem Picked.call {o after : Orchestrator} {phase : AllocatePhase} (picked : Picked o after phase)
    (runner : RunnerName) : (Goroutine.allocate runner phase).call = some (runner, true) :=
  congrArg (fun seeks => some (runner, seeks)) picked.seeks

/-- What a step does to the call of a goroutine. -/
inductive CallMoves (action : Action Event Outcome) (g : GoroutineID) :
    Option (RunnerName × Bool) → Option (RunnerName × Bool) → Prop where
  | same {call : Option (RunnerName × Bool)} : CallMoves action g call call
  | settles {runner : RunnerName} : CallMoves action g (some (runner, true)) (some (runner, false))
  | begins {runner : RunnerName} {choice : Option ContainerID} (begun : action = .allocate g runner choice) :
      CallMoves action g none (some (runner, true))

section
variable {state between after : System Managers} {action : Action Event Outcome} {g : GoroutineID}

theorem CallMoves.keeps {old new : Option (RunnerName × Bool)} (equal : new = old) : CallMoves action g old new :=
  equal ▸ .same

theorem CallMoves.stays {old new : Option (RunnerName × Bool)} {runner : RunnerName} {seeks : Bool}
    (moved : CallMoves action g old new) (call : old = some (runner, seeks)) : ∃ still, new = some (runner, still) := by
  cases moved with
  | same => exact ⟨seeks, call⟩
  | settles =>
      cases call
      exact ⟨false, rfl⟩
  | begins => cases call

theorem CallMoves.back {old new : Option (RunnerName × Bool)} {runner : RunnerName}
    (moved : CallMoves action g old new) (call : new = some (runner, true)) :
    old = some (runner, true) ∨ ∃ choice, action = .allocate g runner choice := by
  cases moved with
  | same => exact .inl call
  | settles => cases call
  | begins begun =>
      cases call
      exact .inr ⟨_, begun⟩

theorem callMoves_step (interfaces : Interfaces Managers Event Outcome)
    (effect : Effect interfaces state action after) (g : GoroutineID) :
    CallMoves action g (state.callOf g) (after.callOf g) := by
  have resumes := effect_resumes effect g
  unfold callOf
  generalize state.goroutines.lookup g = old, after.goroutines.lookup g = new at resumes ⊢
  cases resumes with
  | same => exact .same
  | progresses progress =>
      cases progress with
      | begins begun picked =>
          rw [Option.bind_some, picked.call]
          exact .begins begun
      | wakes picked | retries picked => exact .keeps (picked.call _)
      | cancels | registers => exact .settles
      | _ => exact .same

/-- What a goroutine weighs in the supply is read off its call. -/
theorem found_seeks (state : System Managers) (g : GoroutineID) (runner : RunnerName) :
    Map.found (Goroutine.seeks runner) (state.goroutines.lookup g) =
      if state.callOf g = some (runner, true) then 1 else 0 := by
  unfold callOf
  cases state.goroutines.lookup g with
  | none => rfl
  | some goroutine =>
      cases goroutine with
      | allocate name phase => simp [Goroutine.seeks, Goroutine.call]
      | _ => rfl

theorem callOf_allocate {interfaces : Interfaces Managers Event Outcome} {runner : RunnerName}
    {choice : Option ContainerID} (acted : step interfaces state (.allocate g runner choice) = some after) :
    after.callOf g = some (runner, true) := by
  cases step_effect interfaces acted with
  | allocate fresh free picked =>
      unfold callOf
      rw [resume_goroutines, Finmap.lookup_insert]
      exact picked.call runner

end

end System

end RunnersMux
