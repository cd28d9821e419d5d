import RunnersMux.Foundations.Ranges
import RunnersMux.Mux.Lifecycle

/-! What a `BaseManager` says about its runners, and which runners it knows.

It knows every runner for which it has accepted a `Start`, forever.
-/

set_option autoImplicit false

namespace RunnersMux

open Foundations

structure RunnerStatus where
  name : RunnerName
  mode : String
  state : RunnerState
  error : String
  activeWorkers : Nat
  deriving DecidableEq, Repr

def ProcessState.status (mode : String) (name : RunnerName) (process : ProcessState) : RunnerStatus :=
  ⟨name, mode, process.state, process.error, process.activeWorkers⟩

namespace Processes

def getStatus (processes : Processes) (mode : String) (name : RunnerName) : Option RunnerStatus :=
  (processes.lookup name).map (ProcessState.status mode name)

def listRunners (processes : Processes) (mode : String) (range : Range processes) : List RunnerStatus :=
  range.entries.map fun entry => entry.2.status mode entry.1

theorem find_listRunners (processes : Processes) (mode : String) (range : Range processes) (name : RunnerName) :
    (processes.listRunners mode range).reverse.find? (fun status => status.name = name) =
      processes.getStatus mode name :=
  find_item RunnerStatus.name
    (fun found => List.mem_reverse.trans (range.mem_map (fun name process => process.status mode name) found))
    (fun _ _ _ => rfl) name

/-- The later table has entries of the same runners. -/
def Retains (before after : Processes) : Prop :=
  ∀ name, after.lookup name = none ↔ before.lookup name = none

variable {processes after : Processes} {name : RunnerName}

theorem retains_refl (processes : Processes) : processes.Retains processes := fun _ => Iff.rfl

theorem retains_modify (change : ProcessState → ProcessState) : processes.Retains (processes.modify name change) := by
  intro other
  rw [Map.lookup_modify]
  split
  · exact Option.map_eq_none_iff
  · exact Iff.rfl

theorem retains_mapValues (change : RunnerName → ProcessState → ProcessState) :
    processes.Retains (processes.mapValues change) := by
  intro other
  rw [Map.lookup_mapValues]
  exact Option.map_eq_none_iff

theorem retains_insert {process entry : ProcessState} (known : processes.lookup name = some process) :
    processes.Retains (processes.insert name entry) := by
  intro other
  rw [Map.lookup_insert_if]
  split
  · next same =>
      rw [same, known]
      exact ⟨nofun, nofun⟩
  · exact Iff.rfl

theorem retains_transitioned (goal : RunnerState) : processes.Retains (processes.transitioned name goal) := by
  intro other
  rw [lookup_transitioned]
  split
  · exact Option.map_eq_none_iff
  · exact Iff.rfl

theorem retains_stop (stopped : processes.stop name = .ok (some after)) : processes.Retains after := by
  obtain ⟨process, known, rfl⟩ := stop_ok stopped
  exact retains_insert known

/-- A call of a manager other than `Start`. -/
theorem retains_call {request : TableCall} (called : processes.call request = some after) (idle : request.starts = none) :
    processes.Retains after := by
  cases request with
  | start name address => cases idle
  | transition name goal =>
      have moved : processes.transitioned name goal = after := by
        unfold transitioned
        cases result : processes.transition name goal with
        | ok moved => simpa [call, result, Except.toOption] using called
        | error refused => simp [call, result, Except.toOption] at called
      exact moved ▸ retains_transitioned goal
  | setError name text | fail name address text =>
      cases called
      exact retains_modify _
  | stop name =>
      cases result : processes.stop name with
      | error refused => simp [call, result, Except.toOption] at called
      | ok stopped =>
          cases stopped with
          | none => simp [call, result, Except.toOption] at called
          | some kept =>
              obtain rfl : kept = after := by simpa [call, result, Except.toOption] using called
              exact retains_stop result

end Processes

end RunnersMux
