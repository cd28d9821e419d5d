import RunnersMux.Orchestrator.Effects
import RunnersMux.Standalone.Effects

/-! The managers that the orchestrator talks to: `mux.Multiplexer` as its status
reporter, and the standalone manager as its pauser.

Every step of the composed system is at most one call on the standalone manager,
which `standaloneCall` names from the state before the step.
-/

set_option autoImplicit false

namespace RunnersMux

open Foundations

/-- Of the scale set manager only its table is modelled. -/
structure Multiplexer where
  standalone : Standalone
  scaleset : Processes

/-- A step that the orchestrator does not ask for. The goroutines of the scale
set manager may leave any table behind. -/
inductive ManagerEvent where
  | standalone (event : Event)
  | scaleset (processes : Processes)
  deriving DecidableEq

namespace Multiplexer

def new : Multiplexer where
  standalone := .new
  scaleset := ∅

def lockOthers (m : Multiplexer) (outcome : Finset Pid) (activeRunners : Finset RunnerName) : Multiplexer :=
  { m with standalone := { m.standalone with
      manager := m.standalone.manager.lockOthers outcome activeRunners } }

def unlockOthers (m : Multiplexer) (outcome : Finset Pid) : Multiplexer :=
  { m with standalone := { m.standalone with manager := m.standalone.manager.unlockOthers outcome } }

/-- `MarkBusy` asks both managers; the one without such a runner does nothing. -/
def markBusy (m : Multiplexer) (name : RunnerName) : Multiplexer where
  standalone := { m.standalone with manager := m.standalone.manager.markBusy name }
  scaleset := m.scaleset.markBusy name

def markIdle (m : Multiplexer) (name : RunnerName) : Multiplexer where
  standalone := { m.standalone with manager := m.standalone.manager.markIdle name }
  scaleset := m.scaleset.markIdle name .online

def act (m : Multiplexer) : ManagerEvent → Option Multiplexer
  | .standalone event => (m.standalone.act event).map fun standalone => { m with standalone }
  | .scaleset processes => some { m with scaleset := processes }

/-- What `NewApp` plugs into the orchestrator. -/
def interfaces : Interfaces Multiplexer ManagerEvent (Finset Pid) where
  pauser := ⟨fun outcome activeRunners m => m.lockOthers outcome activeRunners,
    fun outcome m => m.unlockOthers outcome⟩
  reporter := ⟨fun name m => m.markBusy name, fun name m => m.markIdle name⟩
  act := act

end Multiplexer

/-- The step of the standalone manager's own that an action is. -/
def Action.own : Action ManagerEvent (Finset Pid) → Option Event
  | .managers (.standalone event) => some event
  | _ => none

namespace System

variable (state : System Multiplexer)

/-- The call of `MarkIdle` that the death or the abort of a container makes. -/
def idles (id : ContainerID) : Option Call :=
  if state.orchestrator.reporter then
    (state.orchestrator.activeWorkers.lookup id).map fun worker => .markIdle worker.runnerName
  else none

/-- The call of the pauser that `evaluateCapacity` makes. -/
def pauses (outcome : Finset Pid) : Option Call :=
  if state.orchestrator.maxWorkers ≤ state.orchestrator.totalAssigned ∧ state.orchestrator.isPaused = false then
    some (.lockOthers outcome state.orchestrator.activeRunners)
  else if state.orchestrator.totalAssigned < state.orchestrator.maxWorkers ∧ state.orchestrator.isPaused = true then
    some (.unlockOthers outcome)
  else none

/-- The call on the standalone manager that a step amounts to. -/
def standaloneCall : Action ManagerEvent (Finset Pid) → Option Call
  | .markBusy g =>
      match state.goroutines.lookup g with
      | some (.allocate runner _) => if state.orchestrator.reporter then some (.markBusy runner) else none
      | _ => none
  | .bootDeath g =>
      match state.goroutines.lookup g with
      | some (.boot (.dead worker)) => state.idles worker.containerID
      | _ => none
  | .dieEvent _ id | .abort _ id => state.idles id
  | .evaluate _ outcome => state.pauses outcome
  | .managers (.standalone event) => some (.own event)
  | _ => none

/-- A step makes the named call on the standalone manager, or none. -/
def Calls (call : Option Call) (after : System Multiplexer) : Prop :=
  match call with
  | some call => state.managers.standalone.step call = some after.managers.standalone
  | none => after.managers.standalone = state.managers.standalone

variable {state}

theorem Reaped.calls {between : System Multiplexer} {id : ContainerID} {changed : Bool}
    (reaped : Reaped Multiplexer.interfaces.reporter state id between changed) :
    state.Calls (state.idles id) between := by
  unfold idles Calls
  cases reaped with
  | active found =>
      rw [found]
      unfold report
      cases state.orchestrator.reporter <;> rfl
  | warm absent found =>
      rw [absent]
      cases state.orchestrator.reporter <;> rfl
  | unknown absent missing =>
      rw [absent]
      cases state.orchestrator.reporter <;> rfl

theorem evaluateCapacity_calls (outcome : Finset Pid) :
    state.Calls (state.pauses outcome) (state.evaluateCapacity Multiplexer.interfaces.pauser outcome) := by
  by_cases full : state.orchestrator.maxWorkers ≤ state.orchestrator.totalAssigned ∧
      state.orchestrator.isPaused = false
  · simp only [pauses, evaluateCapacity, Orchestrator.evaluateCapacity, if_pos full]
    rfl
  · by_cases freed : state.orchestrator.totalAssigned < state.orchestrator.maxWorkers ∧
        state.orchestrator.isPaused = true
    · simp only [pauses, evaluateCapacity, Orchestrator.evaluateCapacity, if_neg full, if_pos freed]
      rfl
    · simp only [pauses, evaluateCapacity, Orchestrator.evaluateCapacity, if_neg full, if_neg freed]
      rfl

/-- The composed system drives the standalone manager by its own calls only. -/
theorem effect_calls {after : System Multiplexer} {action : Action ManagerEvent (Finset Pid)}
    (effect : Effect Multiplexer.interfaces state action after) :
    state.Calls (state.standaloneCall action) after := by
  cases effect with
  | bootDeath found free reaped =>
      have calls := reaped.calls
      simp only [standaloneCall, found]
      exact calls
  | markBusy found =>
      simp only [standaloneCall, found, Calls, report]
      cases state.orchestrator.reporter <;> rfl
  | dieEvent known dead fresh free reaped => exact reaped.calls
  | abortActive found fresh free =>
      simp only [standaloneCall, idles, found, Calls, report]
      cases state.orchestrator.reporter <;> rfl
  | abortUnknown absent fresh free =>
      simp only [standaloneCall, idles, absent, Calls]
      cases state.orchestrator.reporter <;> rfl
  | evaluate found goes free => exact evaluateCapacity_calls _
  | @managers event managers acted =>
      cases event with
      | standalone event =>
          obtain ⟨standalone, taken, rfl⟩ := Option.map_eq_some_iff.mp acted
          exact taken
      | scaleset processes =>
          cases acted
          rfl
  | bootInspectFail found | discard found | kill found =>
      exact congrArg Multiplexer.standalone (remove_managers _ _ _)
  | die alive => exact congrArg Multiplexer.standalone (stop_managers _ _)
  | rename found =>
      exact congrArg Multiplexer.standalone (containerRename_managers _ _ _)
  | _ => rfl

/-- The orchestrator marks a runner or, in an evaluation, moves the pause. -/
theorem standaloneCall_cases {action : Action ManagerEvent (Finset Pid)} {call : Call}
    (made : call ∈ state.standaloneCall action) :
    (∃ event, action = .managers (.standalone event) ∧ call = .own event) ∨ (∃ runner, call = .markBusy runner) ∨
      (∃ runner, call = .markIdle runner) ∨ ∃ g outcome, action = .evaluate g outcome := by
  have idles (id : ContainerID) (marked : call ∈ state.idles id) : ∃ runner, call = .markIdle runner := by
    unfold System.idles at marked
    split at marked
    · obtain ⟨worker, _, rfl⟩ := Option.map_eq_some_iff.mp marked
      exact ⟨worker.runnerName, rfl⟩
    · cases marked
  cases action with
  | markBusy g =>
      simp only [standaloneCall] at made
      split at made
      · split at made <;> cases made
        exact .inr (.inl ⟨_, rfl⟩)
      · cases made
  | bootDeath g =>
      simp only [standaloneCall] at made
      split at made
      · exact .inr (.inr (.inl (idles _ made)))
      · cases made
  | dieEvent g id => exact .inr (.inr (.inl (idles id made)))
  | abort g id => exact .inr (.inr (.inl (idles id made)))
  | evaluate g outcome => exact .inr (.inr (.inr ⟨g, outcome, rfl⟩))
  | managers event =>
      cases event with
      | standalone event =>
          cases made
          exact .inl ⟨event, rfl, rfl⟩
      | scaleset processes => cases made
  | _ => cases made

end System

end RunnersMux
