import RunnersMux.Mux.Lifecycle

/-! Which writes of the lifecycle follow its table.

`ValidateTransition` stands before one write of the state out of many. The others
have guards of their own, and some of these let a change pass that the table
does not have.
-/

set_option autoImplicit false

namespace RunnersMux

open Foundations

/-- The table, read from the right. -/
def RunnerState.sources : RunnerState → List RunnerState
  | .registering => [.offline, .failed]
  | .online => [.registering, .busy, .paused]
  | .busy => [.online]
  | .paused => [.online]
  | .draining => [.online, .busy, .paused]
  | .offline => [.registering, .online, .draining, .failed]
  | .failed => [.registering, .online, .busy]

theorem mem_sources (source goal : RunnerState) : source ∈ goal.sources ↔ goal ∈ validTransitions source := by
  cases goal <;> cases source <;> decide

namespace ProcessState

/-- The one entry may become the other. -/
def Follows (before after : ProcessState) : Prop :=
  after.state ≠ before.state → after.state ∈ validTransitions before.state

instance (before after : ProcessState) : Decidable (before.Follows after) :=
  inferInstanceAs (Decidable (after.state ≠ before.state → _))

theorem follows_same {before after : ProcessState} (same : after.state = before.state) : before.Follows after :=
  fun changed => absurd same changed

theorem follows_busy (process : ProcessState) : process.Follows process.busy ↔ process.state ≠ .paused := by
  unfold Follows busy
  cases process.state <;> simp [validTransitions]

/-- The last worker of a Busy runner leaves it in the state that the caller asks for. -/
theorem follows_idle (process : ProcessState) (goal : RunnerState) : process.Follows (process.idle goal) ↔
    (process.state = .busy → process.activeWorkers ≤ 1 → goal ≠ .busy → goal ∈ validTransitions .busy) := by
  unfold Follows idle
  by_cases last : process.activeWorkers - 1 = 0 ∧ process.state = .busy
  · have few : process.activeWorkers ≤ 1 := by omega
    rw [if_pos last, last.2]
    exact ⟨fun follows _ _ => follows, fun follows => follows rfl few⟩
  · rw [if_neg last]
    refine ⟨fun _ busy few => absurd ⟨by omega, busy⟩ last, fun _ changed => absurd rfl changed⟩

end ProcessState

namespace Processes

/-- Every state that differs in the later table is one that the earlier state leads to. -/
def Follows (before after : Processes) : Prop :=
  ∀ name entry, before.lookup name = some entry → ∀ kept ∈ after.lookup name, entry.Follows kept

instance (before after : Processes) : Decidable (before.Follows after) :=
  inferInstanceAs (Decidable (∀ name entry, before.lookup name = some entry → ∀ kept ∈ after.lookup name, _))

/-- `Transition` is accepted. -/
def Accepts (processes : Processes) (name : RunnerName) (goal : RunnerState) : Prop :=
  ∃ after, processes.transition name goal = .ok after

variable {processes after : Processes} {name : RunnerName} {goal : RunnerState}

theorem accepts_iff : processes.Accepts name goal ↔
    ∃ state ∈ processes.getState name, state ∈ goal.sources := by
  unfold Accepts transition getState
  cases processes.lookup name with
  | none => simp
  | some process =>
      by_cases valid : goal ∈ validTransitions process.state
      · simp [validateTransition, mem_sources, valid, bind, Except.bind, pure, Except.pure]
      · simp [validateTransition, mem_sources, valid, bind, Except.bind]

instance : Decidable (processes.Accepts name goal) := decidable_of_iff _ accepts_iff.symm

theorem follows_refl (processes : Processes) : processes.Follows processes := by
  intro other entry found kept looked
  cases found.symm.trans looked
  exact ProcessState.follows_same rfl

/-- A write of one entry. -/
theorem follows_modify (change : ProcessState → ProcessState) : processes.Follows (processes.modify name change) ↔
    ∀ entry, processes.lookup name = some entry → entry.Follows (change entry) := by
  constructor
  · intro follows entry found
    apply follows name entry found
    rw [Map.lookup_modify, if_pos rfl, found]
    rfl
  · intro follows other entry found kept looked
    rw [Map.lookup_modify, found] at looked
    split at looked
    · next same =>
        subst same
        cases looked
        exact follows entry found
    · cases looked
      exact ProcessState.follows_same rfl

theorem follows_mapValues (change : RunnerName → ProcessState → ProcessState)
    (follows : ∀ other entry, processes.lookup other = some entry → entry.Follows (change other entry)) :
    processes.Follows (processes.mapValues change) := by
  intro other entry found kept looked
  rw [Map.lookup_mapValues, found] at looked
  cases looked
  exact follows other entry found

theorem follows_insert (entry : ProcessState) : processes.Follows (processes.insert name entry) ↔
    ∀ old, processes.lookup name = some old → old.Follows entry := by
  constructor
  · intro follows old found
    exact follows name old found entry (Finmap.lookup_insert _)
  · intro follows other old found kept looked
    rcases Map.lookup_of_insert looked with ⟨rfl, rfl⟩ | ⟨_, kept⟩
    · exact follows old found
    · cases found.symm.trans kept
      exact ProcessState.follows_same rfl

theorem follows_transitioned (processes : Processes) (name : RunnerName) (goal : RunnerState) :
    processes.Follows (processes.transitioned name goal) := by
  intro other entry found kept looked
  rw [lookup_transitioned, found] at looked
  split at looked
  · cases looked
    dsimp only
    split
    · next valid => exact fun _ => valid
    · exact ProcessState.follows_same rfl
  · cases looked
    exact ProcessState.follows_same rfl

theorem follows_setError (text : String) : processes.Follows (processes.setError name text) :=
  (follows_modify _).mpr fun _ _ => ProcessState.follows_same rfl

/-- The guard of `Start` lets Registering pass, which the new entry is in as well. -/
theorem follows_start {address : Nat} (started : processes.start name address = .ok after) : processes.Follows after := by
  obtain ⟨_, rfl⟩ := start_ok started
  refine (follows_insert _).mpr fun old found changed => ?_
  unfold start at started
  rw [found] at started
  dsimp only at started
  split at started
  · cases started
  · next guard => cases state : old.state <;> simp [state, validTransitions] at guard changed ⊢

/-- The guard of `Stop` lets Registering pass, which the table does not. -/
theorem follows_stop (stopped : processes.stop name = .ok (some after)) :
    processes.Follows after ↔ processes.getState name ≠ some .registering := by
  have up := stop_up stopped
  obtain ⟨process, found, rfl⟩ := stop_ok stopped
  rw [down_lookup, found] at up
  change process.state.down = false at up
  unfold getState
  rw [follows_insert, found]
  constructor
  · intro follows registering
    have state : process.state = .registering := Option.some.inj registering
    have moved : RunnerState.draining ≠ process.state → .draining ∈ validTransitions process.state := follows process rfl
    rw [state] at moved
    exact absurd (moved (by decide)) (by decide)
  · rintro different old ⟨⟩ changed
    cases state : process.state <;> simp [state, RunnerState.down, validTransitions] at up different changed ⊢

theorem follows_fail {address : Nat} (text : String) : processes.Follows (processes.fail name address text) ↔
    ∀ entry, processes.lookup name = some entry → entry.address = address →
      entry.state ∈ [RunnerState.registering, .online, .busy, .failed] := by
  unfold fail
  rw [follows_modify]
  refine forall_congr' fun entry => forall_congr' fun _ => ?_
  by_cases own : entry.address = address
  · simp only [own, true_imp_iff]
    unfold ProcessState.Follows
    cases state : entry.state <;> simp [validTransitions]
  · simp only [own, false_imp_iff, iff_true]
    exact ProcessState.follows_same rfl

theorem follows_markBusy : processes.Follows (processes.markBusy name) ↔
    processes.getState name ≠ some .paused := by
  unfold markBusy getState
  rw [follows_modify]
  cases processes.lookup name with
  | none => simp
  | some process => simp [ProcessState.follows_busy]

theorem follows_markIdle : processes.Follows (processes.markIdle name goal) ↔
    ∀ entry, processes.lookup name = some entry → entry.state = .busy → entry.activeWorkers ≤ 1 → goal ≠ .busy →
      goal ∈ validTransitions .busy := by
  unfold markIdle
  rw [follows_modify]
  exact forall_congr' fun entry => forall_congr' fun _ => ProcessState.follows_idle entry goal

end Processes

end RunnersMux
