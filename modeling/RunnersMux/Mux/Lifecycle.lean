import RunnersMux.Foundations.FiniteMaps

/-! The lifecycle that both managers share: `state.go` and `base_manager.go`.

Only `Transition` consults the table. `Start`, `Stop`, `MarkBusy` and `MarkIdle`
write the state directly. An entry is a heap object: a caller may hold on to it
after `Start` has replaced it, so entries carry an address.
-/

set_option autoImplicit false

namespace RunnersMux

open Foundations

abbrev RunnerName := String

inductive RunnerState where
  | registering
  | online
  | busy
  | paused
  | draining
  | offline
  | failed
  deriving DecidableEq, Repr

/-- The states in which a lifecycle has ended. -/
def RunnerState.down : RunnerState → Bool
  | .offline | .failed => true
  | _ => false

def validTransitions : RunnerState → List RunnerState
  | .registering => [.online, .failed, .offline]
  | .online => [.busy, .paused, .draining, .failed, .offline]
  | .busy => [.online, .draining, .failed]
  | .paused => [.online, .draining]
  | .draining => [.offline]
  | .offline => [.registering]
  | .failed => [.registering, .offline]

inductive MuxError where
  | invalidTransition (source target : RunnerState)
  | runnerNotFound (name : RunnerName)
  | runnerAlreadyRunning (name : RunnerName) (state : RunnerState)
  deriving DecidableEq, Repr

def validateTransition (source target : RunnerState) : Except MuxError Unit :=
  if target ∈ validTransitions source then .ok () else .error (.invalidTransition source target)

structure ProcessState where
  address : Nat
  state : RunnerState
  error : String
  activeWorkers : Nat
  deriving DecidableEq, Repr

def ProcessState.busy (process : ProcessState) : ProcessState :=
  { process with
    activeWorkers := process.activeWorkers + 1
    state := if process.state = .online ∨ process.state = .paused then .busy else process.state }

/-- A count of zero stays zero, as the subtraction of natural numbers has it. -/
def ProcessState.idle (idleState : RunnerState) (process : ProcessState) : ProcessState :=
  { process with
    activeWorkers := process.activeWorkers - 1
    state := if process.activeWorkers - 1 = 0 ∧ process.state = .busy then idleState else process.state }

/-- The `Processes` of a `BaseManager`. -/
abbrev Processes := Map RunnerName ProcessState

/-- The calls of a `BaseManager` by which a manager itself writes its table. -/
inductive TableCall where
  | start (name : RunnerName) (address : Nat)
  | transition (name : RunnerName) (goal : RunnerState)
  | setError (name : RunnerName) (text : String)
  | fail (name : RunnerName) (address : Nat) (text : String)
  | stop (name : RunnerName)
  deriving DecidableEq, Repr

namespace TableCall

def starts : TableCall → Option RunnerName
  | .start name _ => some name
  | _ => none

/-- No manager asks for a transition to Busy. -/
def plain : TableCall → Prop
  | .transition _ goal => goal ≠ .busy
  | _ => True

end TableCall

namespace Processes

/-- `Transition`, which takes the lock itself. -/
def transition (processes : Processes) (name : RunnerName) (target : RunnerState) :
    Except MuxError Processes :=
  match processes.lookup name with
  | some process => do
      validateTransition process.state target
      pure (processes.insert name { process with state := target })
  | none => .error (.runnerNotFound name)

/-- A call of `Transition` whose error is ignored. -/
def transitioned (processes : Processes) (name : RunnerName) (target : RunnerState) : Processes :=
  match processes.transition name target with
  | .ok after => after
  | .error _ => processes

def setError (processes : Processes) (name : RunnerName) (text : String) : Processes :=
  processes.modify name fun process => { process with error := text }

/-- The first section of `Start`: the guard, then a fresh entry. -/
def start (processes : Processes) (name : RunnerName) (address : Nat) : Except MuxError Processes :=
  match processes.lookup name with
  | some process =>
      if process.state ≠ .offline ∧ process.state ≠ .failed ∧ process.state ≠ .registering then
        .error (.runnerAlreadyRunning name process.state)
      else .ok (processes.insert name ⟨address, .registering, "", 0⟩)
  | none => .ok (processes.insert name ⟨address, .registering, "", 0⟩)

/-- The last section of a `Start` whose launch failed. It writes to the entry it
created, which may no longer be the one in the map. -/
def fail (processes : Processes) (name : RunnerName) (address : Nat) (text : String) : Processes :=
  processes.modify name fun process =>
    if process.address = address then { process with state := .failed, error := text } else process

/-- The first section of `Stop`; `none` is the early return of a stopped runner. -/
def stop (processes : Processes) (name : RunnerName) : Except MuxError (Option Processes) :=
  match processes.lookup name with
  | some process =>
      if process.state = .offline ∨ process.state = .failed then .ok none
      else .ok (some (processes.insert name { process with state := .draining }))
  | none => .error (.runnerNotFound name)

def isDraining (processes : Processes) (name : RunnerName) : Bool :=
  (processes.lookup name).any fun process => process.state = .draining

def getState (processes : Processes) (name : RunnerName) : Option RunnerState :=
  (processes.lookup name).map (·.state)

def markBusy (processes : Processes) (name : RunnerName) : Processes :=
  processes.modify name ProcessState.busy

def markIdle (processes : Processes) (name : RunnerName) (idleState : RunnerState) : Processes :=
  processes.modify name (ProcessState.idle idleState)

def call (processes : Processes) : TableCall → Option Processes
  | .start name address => (processes.start name address).toOption
  | .transition name goal => (processes.transition name goal).toOption
  | .setError name text => some (processes.setError name text)
  | .fail name address text => some (processes.fail name address text)
  | .stop name => (processes.stop name).toOption.join

def down (processes : Processes) (name : RunnerName) : Bool := (processes.getState name).any RunnerState.down

/-- No entry, or one whose lifecycle has ended. -/
def resting (processes : Processes) (name : RunnerName) : Bool := (processes.getState name).all RunnerState.down

/-- An ignored `Transition` writes the state if the table has the move. -/
theorem lookup_transitioned (processes : Processes) (name other : RunnerName) (target : RunnerState) :
    (processes.transitioned name target).lookup other =
      if other = name then (processes.lookup other).map fun process =>
        if target ∈ validTransitions process.state then { process with state := target } else process
      else processes.lookup other := by
  unfold transitioned transition
  cases found : processes.lookup name with
  | none =>
      dsimp only
      split
      · next same => rw [same, found]; rfl
      · rfl
  | some process =>
      dsimp only
      by_cases valid : target ∈ validTransitions process.state
      · simp only [validateTransition, if_pos valid]
        change (processes.insert name { process with state := target }).lookup other = _
        rw [Map.lookup_insert_if]
        split
        · next same => rw [same, found]; simp [valid]
        · rfl
      · simp only [validateTransition, if_neg valid]
        change processes.lookup other = _
        split
        · next same => rw [same, found]; simp [valid]
        · rfl

/-- After a `Transition` that the table allows, or that changes nothing, the runner
is in its target state. -/
theorem transitioned_arrives {processes : Processes} {name : RunnerName} {source target : RunnerState}
    (state : processes.getState name = some source) (valid : target ∈ validTransitions source ∨ source = target) :
    ∃ entry, (processes.transitioned name target).lookup name = some entry ∧ entry.state = target := by
  obtain ⟨process, found, same⟩ := Option.map_eq_some_iff.mp state
  have moved := lookup_transitioned processes name name target
  rw [if_pos rfl, found, Option.map_some] at moved
  refine ⟨_, moved, ?_⟩
  rw [same]
  rcases valid with allowed | already
  · rw [if_pos allowed]
  · split
    · rfl
    · exact same.trans already

/-- `Start` is refused for a Paused runner, whose listener may be stopped. -/
theorem start_ok {processes after : Processes} {name : RunnerName} {address : Nat}
    (started : processes.start name address = .ok after) :
    processes.getState name ≠ some .paused ∧
      after = processes.insert name ⟨address, .registering, "", 0⟩ := by
  unfold start at started
  split at started
  · next process found =>
      split at started
      · cases started
      · next guard =>
          cases started
          refine ⟨?_, rfl⟩
          unfold getState
          rw [found]
          intro paused
          have state : process.state = .paused := Option.some.inj paused
          rw [state] at guard
          exact guard (by decide)
  · next missing =>
      cases started
      unfold getState
      rw [missing]
      exact ⟨nofun, rfl⟩

theorem stop_ok {processes after : Processes} {name : RunnerName}
    (stopped : processes.stop name = .ok (some after)) :
    ∃ process, processes.lookup name = some process ∧
      after = processes.insert name { process with state := .draining } := by
  unfold stop at stopped
  split at stopped
  · next process found =>
      split at stopped <;> cases stopped
      exact ⟨process, found, rfl⟩
  · cases stopped

/-- `Stop` returns early for a runner whose lifecycle has ended. -/
theorem stop_up {processes after : Processes} {name : RunnerName}
    (stopped : processes.stop name = .ok (some after)) : processes.down name = false := by
  unfold stop at stopped
  unfold down getState
  split at stopped
  · next process found =>
      split at stopped <;> cases stopped
      next up =>
        rw [found]
        change process.state.down = false
        cases state : process.state <;> simp [RunnerState.down, state] at up ⊢
  · cases stopped

end Processes

theorem down_lookup {processes : Processes} {name : RunnerName} :
    processes.down name = (processes.lookup name).any fun process => process.state.down := by
  unfold Processes.down Processes.getState
  cases processes.lookup name <;> rfl

theorem resting_lookup {processes : Processes} {name : RunnerName} :
    processes.resting name = (processes.lookup name).all fun process => process.state.down := by
  unfold Processes.resting Processes.getState
  cases processes.lookup name <;> rfl

end RunnersMux
