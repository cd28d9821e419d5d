import RunnersMux.Orchestrator.Counters

/-! What the two pool counters count.

`Counters` keeps them as sums over the goroutines. Here the sums are numbers of
calls: those of `AllocateWorker` without a container, and those of
`startContainer` without a recorded result. A call that fails has never
registered anything, so it leaves no trace in the assignment maps.
-/

set_option autoImplicit false

namespace RunnersMux

open Foundations

namespace AllocatePhase

/-- `candidate` is set, from the claim until the loop starts over or returns it. -/
def holdsContainer : AllocatePhase → Bool
  | .claimed _ | .renamed _ | .dead _ | .discarded | .alive _ | .registered _ | .marked _ | .returned _ => true
  | .waiting _ | .cancelled => false

def hasReturned : AllocatePhase → Bool
  | .returned _ | .cancelled => true
  | _ => false

/-- The call may still return an error, or has: nothing is registered yet. -/
def mayFail : AllocatePhase → Bool
  | .registered _ | .marked _ | .returned _ => false
  | _ => true

end AllocatePhase

namespace Goroutine

/-- A call of `AllocateWorker` that holds no container and has not returned. -/
def awaitsContainer : Goroutine → Bool
  | .allocate _ phase => !phase.holdsContainer && !phase.hasReturned
  | _ => false

/-- A call of `startContainer` whose result is not recorded. -/
def isBooting : Goroutine → Bool
  | .boot .starting | .boot (.inspecting _) | .boot .failed | .boot (.started _) => true
  | _ => false

def mayFail : Goroutine → Bool
  | .allocate _ phase => phase.mayFail
  | _ => false

theorem requests_eq (goroutine : Goroutine) :
    goroutine.requests = if goroutine.awaitsContainer then 1 else 0 := by
  cases goroutine with
  | allocate runner phase => cases phase <;> rfl
  | boot phase => rfl
  | death phase => rfl
  | abort phase => rfl

theorem boots_eq (goroutine : Goroutine) : goroutine.boots = if goroutine.isBooting then 1 else 0 := by
  cases goroutine with
  | boot phase => cases phase <;> rfl
  | allocate runner phase => rfl
  | death phase => rfl
  | abort phase => rfl

end Goroutine

/-- The goroutine that takes the step. The pool's own steps, the settings, Docker
and the managers have none. -/
def Action.goroutine {Event Outcome : Type} : Action Event Outcome → Option GoroutineID
  | .bootCreate g _ _ _ | .bootCreateFail g | .bootInspect g | .bootInspectFail g _ | .bootRecord g
  | .bootCheck g _ | .bootDeath g | .bootBroadcast g => some g
  | .allocate g _ _ | .wake g _ | .cancel g | .rename g _ | .check g _ | .discard g _ | .retry g _
  | .register g | .markBusy g => some g
  | .dieEvent g _ | .abort g _ | .kill g _ | .evaluate g _ => some g
  | .poolLock | .poolLoop _ | .updateSettings _ _ | .setStatusReporter | .die _ | .managers _ => none

namespace System

variable {Managers Event Outcome : Type}

/-- The calls of `AllocateWorker`, from their first section on, that hold no
container and have not returned. -/
def awaiting (state : System Managers) : Int :=
  state.goroutines.count fun _ goroutine => goroutine.awaitsContainer

/-- The calls of `startContainer` whose result is not recorded. -/
def bootsInProgress (state : System Managers) : Int :=
  state.goroutines.count fun _ goroutine => goroutine.isBooting

/-- What a call that returns an error must leave alone. -/
def SameAssignment (state after : System Managers) : Prop :=
  after.orchestrator.activeWorkers = state.orchestrator.activeWorkers ∧
    after.orchestrator.activeListeners = state.orchestrator.activeListeners

/-- The goroutine has registered a container or is no call of `AllocateWorker`. -/
def CannotFail (state : System Managers) (g : GoroutineID) : Prop :=
  ∃ goroutine, state.goroutines.lookup g = some goroutine ∧ goroutine.mayFail = false

theorem tally_requests (state : System Managers) : tally Goroutine.requests state.goroutines = state.awaiting :=
  congrArg (state.goroutines.weigh ·) (funext fun _ => funext Goroutine.requests_eq)

theorem tally_boots (state : System Managers) : tally Goroutine.boots state.goroutines = state.bootsInProgress :=
  congrArg (state.goroutines.weigh ·) (funext fun _ => funext Goroutine.boots_eq)

theorem Picked.sameAssignment {o after : Orchestrator} {phase : AllocatePhase} (picked : Picked o after phase) :
    after.activeWorkers = o.activeWorkers ∧ after.activeListeners = o.activeListeners := by
  cases picked <;> exact ⟨rfl, rfl⟩

/-- No step takes a goroutine back to where its call may fail. -/
theorem Progress.mayFail {action : Action Event Outcome} {g : GoroutineID} {old new : Goroutine}
    (progress : Progress action g (some old) new) (safe : old.mayFail = false) : new.mayFail = false := by
  cases progress with
  | boots | deaths | aborts | marks | returns => rfl
  | wakes | cancels | renames | lives | dies | discards | retries | registers => cases safe

theorem cannotFail_step {interfaces : Interfaces Managers Event Outcome} {state after : System Managers}
    {action : Action Event Outcome} {g : GoroutineID} (safe : CannotFail state g)
    (effect : Effect interfaces state action after) : CannotFail after g := by
  obtain ⟨goroutine, found, safe⟩ := safe
  have resumes := effect_resumes effect g
  rw [found] at resumes
  generalize looked : after.goroutines.lookup g = later at resumes
  cases resumes with
  | same => exact ⟨goroutine, looked, safe⟩
  | progresses progress => exact ⟨_, looked, progress.mayFail safe⟩

theorem CannotFail.resume {state : System Managers} {g : GoroutineID} {goroutine : Goroutine}
    (safe : goroutine.mayFail = false) : CannotFail (state.resume g goroutine) g :=
  ⟨goroutine, Finmap.lookup_insert _, safe⟩

/-- A step of a goroutine leaves the assignment alone, or its call cannot fail
afterwards: only a registration and the loss of a container touch the maps. -/
theorem effect_assignment {interfaces : Interfaces Managers Event Outcome} {state after : System Managers}
    {action : Action Event Outcome} {g : GoroutineID} (effect : Effect interfaces state action after)
    (caller : action.goroutine = some g) : SameAssignment state after ∨ CannotFail after g := by
  cases effect with
  | poolLock | poolBlock | poolBoot | setStatusReporter | managers | updateSettings | die => cases caller
  | bootCreate | bootCreateFail | bootInspect | bootGiveUp | bootAlive | bootDead | bootBroadcast =>
      exact .inl ⟨rfl, rfl⟩
  | bootPool | cancel | renameFail | checkAlive | checkDead | markBusy | abortUnknown =>
      exact .inl ⟨rfl, rfl⟩
  | bootInspectFail | discard | kill =>
      left
      simp [SameAssignment]
  | rename =>
      left
      simp [SameAssignment]
  | allocate fresh free picked => exact .inl picked.sameAssignment
  | wake found closed free picked => exact .inl picked.sameAssignment
  | retry found free picked => exact .inl picked.sameAssignment
  | evaluate found goes free =>
      obtain ⟨paused, managers, frame⟩ := state.evaluateCapacity_frame interfaces.pauser ‹_›
      rw [frame]
      exact .inl ⟨rfl, rfl⟩
  | register | bootDeath | dieEvent | abortActive =>
      right
      cases caller
      exact .resume rfl

/-- What a step of a failed call did to the assignment, wherever in the run it was. -/
theorem failed_call_untouched (interfaces : Interfaces Managers Event Outcome) {state after last : System Managers}
    {action : Action Event Outcome} {g : GoroutineID} {runner : RunnerName}
    (taken : step interfaces state action = some after) (caller : action.goroutine = some g)
    (further : Reaches (step interfaces) (· = after) everyStep last)
    (failed : last.goroutines.lookup g = some (.allocate runner .cancelled)) : SameAssignment state after := by
  rcases effect_assignment (step_effect interfaces taken) caller with same | safe
  · exact same
  · -- From here on the call could not have come to an error.
    have stays : CannotFail last g := by
      apply further.invariant
      · intro start begins
        subst begins
        exact safe
      · intro earlier between later _ safe _ taken
        exact cannotFail_step safe (step_effect interfaces taken)
    obtain ⟨goroutine, found, safe⟩ := stays
    cases failed.symm.trans found
    cases safe

/-- In every reachable state both counters are numbers of calls in progress, and
no step of a call that has returned an error changed the assignment. -/
theorem counters_exact (interfaces : Interfaces Managers Event Outcome) {maxWorkers warmWorkers : Int}
    {managers : Managers} {state : System Managers}
    (reached : Reaches (step interfaces) (Started maxWorkers warmWorkers managers) everyStep state) :
    state.orchestrator.pendingAllocations = state.awaiting ∧
      state.orchestrator.bootingCount = state.bootsInProgress ∧
      0 ≤ state.orchestrator.pendingAllocations ∧ 0 ≤ state.orchestrator.bootingCount ∧
      ∀ action after last g runner, step interfaces state action = some after → action.goroutine = some g →
        Reaches (step interfaces) (· = after) everyStep last →
        last.goroutines.lookup g = some (.allocate runner .cancelled) → SameAssignment state after := by
  have tallied := reached_tallied interfaces reached
  have pending := tallied.pending.trans (tally_requests state)
  have booting := tallied.booting.trans (tally_boots state)
  refine ⟨pending, booting, ?_, ?_, ?_⟩
  · rw [pending]
    exact Map.count_nonneg _ _
  · rw [booting]
    exact Map.count_nonneg _ _
  · intro action after last g runner taken caller further failed
    exact failed_call_untouched interfaces taken caller further failed

/-- A call whose only candidate is found dead waits again and is then cancelled. -/
theorem counters_exact_cancelled : ∃ state after : System Unit,
    state.awaiting = 1 ∧ state.orchestrator.pendingAllocations = state.awaiting ∧
    step Interfaces.silent state (.cancel 0) = some after ∧ SameAssignment state after := by
  obtain ⟨state, reached, waits, found⟩ : ∃ state, Reaches (step Interfaces.silent) (Started 1 0 ()) everyStep state ∧
      state.awaiting = 1 ∧ (step Interfaces.silent state (.cancel 0)).any (fun after =>
        after.goroutines.lookup 0 = some (.allocate "r" .cancelled)) = true := by
    apply Reaches.of_replay (oneWarm_started 1 0) [.allocate 0 "r" (some "c1"), .rename 0 none, .check 0 false,
      .discard 0 true, .retry 0 none]
    decide
  obtain ⟨after, taken, cancelled⟩ := (Option.any_eq_true _ _).mp found
  have counts := counters_exact Interfaces.silent reached
  refine ⟨state, after, waits, counts.1, taken, ?_⟩
  exact counts.2.2.2.2 (.cancel 0) after after 0 "r" taken rfl (.start rfl) (of_decide_eq_true cancelled)

end System

end RunnersMux
