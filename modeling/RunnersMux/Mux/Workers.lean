import RunnersMux.Mux.Multiplexer
import RunnersMux.Standalone.Halts

/-! The `ActiveWorkers` of the two managers under one step.

Of all the calls that write a table only three write a count: `Start` begins it
at zero, `MarkBusy` adds one, and `MarkIdle` takes one off unless it is zero.
-/

set_option autoImplicit false

namespace RunnersMux

open Foundations

/-- The two managers, by what `Mode` returns. -/
inductive Mode where
  | standalone
  | scaleset
  deriving DecidableEq, Repr

def Multiplexer.processes (m : Multiplexer) : Mode → Processes
  | .standalone => m.standalone.manager.processes
  | .scaleset => m.scaleset

namespace Processes

/-- The `ActiveWorkers` of a runner that has an entry. -/
def workers (processes : Processes) (name : RunnerName) : Option Nat := (processes.lookup name).map (·.activeWorkers)

/-- A Busy runner has a worker. -/
def Worked (processes : Processes) : Prop :=
  ∀ name process, processes.lookup name = some process → process.state = .busy → 0 < process.activeWorkers

/-- What a step makes of the counts, and that it leaves no runner Busy without one. -/
structure Counts (before after : Processes) (change : RunnerName → Option Nat → Option Nat) : Prop where
  workers : ∀ name, after.workers name = change name (before.workers name)
  worked : before.Worked → after.Worked

variable {processes after : Processes}

theorem Counts.same (processes : Processes) : Counts processes processes fun _ => id := ⟨fun _ => rfl, id⟩

/-- A call that writes one existing entry. -/
theorem counts_modify {name : RunnerName} {change : ProcessState → ProcessState} (count : Nat → Nat)
    (counts : ∀ process, (change process).activeWorkers = count process.activeWorkers)
    (works : ∀ process, (process.state = .busy → 0 < process.activeWorkers) → (change process).state = .busy →
      0 < (change process).activeWorkers) :
    Counts processes (processes.modify name change) fun other before =>
      if name = other then before.map count else before := by
  constructor
  · intro other
    unfold workers
    rw [Map.lookup_modify]
    by_cases same : other = name
    · subst same
      rw [if_pos rfl, if_pos rfl]
      cases processes.lookup other with
      | none => rfl
      | some process => exact congrArg some (counts process)
    · rw [if_neg same, if_neg (Ne.symm same)]
  · intro worked other process found busy
    rw [Map.lookup_modify] at found
    split at found
    · obtain ⟨entry, known, rfl⟩ := Option.map_eq_some_iff.mp found
      exact works entry (worked other entry known) busy
    · exact worked other process found busy

theorem counts_markBusy (name : RunnerName) : Counts processes (processes.markBusy name) fun other before =>
    if name = other then before.map (· + 1) else before :=
  counts_modify _ (fun _ => rfl) fun process _ _ => Nat.succ_pos process.activeWorkers

theorem counts_markIdle (name : RunnerName) {idleState : RunnerState} (idle : idleState ≠ .busy) :
    Counts processes (processes.markIdle name idleState) fun other before =>
      if name = other then before.map (· - 1) else before := by
  refine counts_modify _ (fun _ => rfl) ?_
  intro process worked busy
  unfold ProcessState.idle at busy ⊢
  dsimp only at busy ⊢
  split at busy
  · exact absurd busy idle
  · next still =>
      -- Busy before and after: the count did not reach zero.
      have left : process.activeWorkers - 1 ≠ 0 := fun none_ => still ⟨none_, busy⟩
      omega

/-- An entry that is replaced or added. -/
theorem counts_insert {name : RunnerName} {entry : ProcessState} (plain : entry.state ≠ .busy) :
    Counts processes (processes.insert name entry) fun other before =>
      if name = other then some entry.activeWorkers else before := by
  constructor
  · intro other
    unfold workers
    rw [Map.lookup_insert_if]
    by_cases same : other = name
    · rw [if_pos same, if_pos same.symm]
      rfl
    · rw [if_neg same, if_neg (Ne.symm same)]
  · intro worked other process found busy
    rcases Map.lookup_of_insert found with ⟨_, rfl⟩ | ⟨_, old⟩
    · exact absurd busy plain
    · exact worked other process old busy

/-- A state that is overwritten. -/
theorem counts_restate {name : RunnerName} {process : ProcessState} {goal : RunnerState}
    (known : processes.lookup name = some process) (plain : goal ≠ .busy) :
    Counts processes (processes.insert name { process with state := goal }) fun _ => id := by
  have counts : Counts processes (processes.insert name { process with state := goal }) _ := counts_insert plain
  refine ⟨fun other => ?_, counts.worked⟩
  refine (counts.workers other).trans ?_
  split
  · next same =>
      subst same
      simp [workers, known]
  · rfl

theorem counts_transitioned (name : RunnerName) {goal : RunnerState} (plain : goal ≠ .busy) :
    Counts processes (processes.transitioned name goal) fun _ => id := by
  unfold transitioned transition
  cases known : processes.lookup name with
  | none => exact .same _
  | some process =>
      dsimp only
      by_cases valid : goal ∈ validTransitions process.state
      · simp only [validateTransition, if_pos valid]
        exact counts_restate known plain
      · simp only [validateTransition, if_neg valid]
        exact .same _

theorem counts_kept {name : RunnerName} {change : ProcessState → ProcessState}
    (counts : ∀ process, (change process).activeWorkers = process.activeWorkers)
    (plain : ∀ process, (change process).state = .busy → process.state = .busy) :
    Counts processes (processes.modify name change) fun _ => id := by
  have changed : Counts processes (processes.modify name change) fun other before =>
      if name = other then before.map id else before := by
    refine counts_modify id counts ?_
    intro process worked busy
    rw [counts]
    exact worked (plain process busy)
  refine ⟨fun other => (changed.workers other).trans ?_, changed.worked⟩
  simp

/-- A manager's own call writes no count but the zero of a `Start`. -/
theorem call_counts {request : TableCall} (called : processes.call request = some after) (plain : request.plain) :
    Counts processes after fun name before => if request.starts = some name then some 0 else before := by
  have kept {after : Processes} (counts : Counts processes after fun _ => id) (none_ : request.starts = none) :
      Counts processes after fun name before => if request.starts = some name then some 0 else before := by
    rw [none_]
    exact counts
  cases request with
  | start name address =>
      simp only [call, Except.toOption] at called
      split at called <;> cases called
      next started =>
        rw [(start_ok started).2]
        have counts : Counts processes (processes.insert name ⟨address, .registering, "", 0⟩) _ :=
          counts_insert (by simp)
        refine ⟨fun other => (counts.workers other).trans ?_, counts.worked⟩
        simp [TableCall.starts]
  | transition name goal =>
      have same : after = processes.transitioned name goal := by
        unfold transitioned
        simp only [call, Except.toOption] at called
        split at called <;> cases called
        next moved => rw [moved]
      rw [same]
      exact kept (counts_transitioned name plain) rfl
  | setError name text =>
      cases called
      exact kept (counts_kept (fun _ => rfl) fun _ => id) rfl
  | fail name address text =>
      cases called
      refine kept (counts_kept ?_ ?_) rfl
      · intro process
        split <;> rfl
      · intro process busy
        split at busy
        · cases busy
        · exact busy
  | stop name =>
      simp only [call, Except.toOption] at called
      split at called
      · next stopped =>
          cases called
          obtain ⟨process, known, rfl⟩ := stop_ok stopped
          exact kept (counts_restate known (by decide)) rfl
      · cases called

theorem counts_restated {change : RunnerName → ProcessState → ProcessState}
    (counts : ∀ name process, (change name process).activeWorkers = process.activeWorkers)
    (plain : ∀ name process, (change name process).state = .busy → process.state = .busy) :
    Counts processes (processes.mapValues change) fun _ => id := by
  constructor
  · intro name
    unfold workers
    rw [Map.lookup_mapValues]
    cases processes.lookup name with
    | none => rfl
    | some process => exact congrArg some (counts name process)
  · intro worked name process found busy
    rw [Map.lookup_mapValues] at found
    obtain ⟨entry, known, rfl⟩ := Option.map_eq_some_iff.mp found
    rw [counts]
    exact worked name entry known (plain name entry busy)

end Processes

namespace StandaloneManager

variable {m after : StandaloneManager} {runner : RunnerName} {answer : Answer} {head : Section} {todo : List Section}

theorem sweep_counts (m : StandaloneManager) (outcome : Finset Pid) {source goal : RunnerState} (sent : Signal)
    (spared : Finset RunnerName) (plain : goal ≠ .busy) :
    Processes.Counts m.processes (m.sweep outcome source goal sent spared).processes fun _ => id := by
  unfold StandaloneManager.sweep
  dsimp only
  apply Processes.counts_restated
  · intro name process
    split <;> rfl
  · intro name process busy
    split at busy
    · exact absurd busy plain
    · exact busy

theorem perform_counts (performed : m.perform runner answer head = some (after, todo))
    (plain : head ≠ .transition .busy) : Processes.Counts m.processes after.processes fun _ => id := by
  rcases perform_processes performed with same | ⟨goal, rfl, same⟩ | ⟨text, rfl, same⟩ | ⟨entry, text, rfl, same⟩
  · rw [same]
    exact .same _
  · rw [same]
    exact Processes.counts_transitioned runner fun busy => plain (congrArg _ busy)
  · rw [same]
    exact Processes.counts_kept (fun _ => rfl) fun _ => id
  · rw [same]
    refine Processes.counts_kept ?_ ?_
    · intro process
      split <;> rfl
    · intro process busy
      split at busy
      · cases busy
      · exact busy

end StandaloneManager

namespace Standalone

/-- No thread asks for a transition to Busy. -/
def Plain (s : Standalone) : Prop :=
  ∀ t runner todo, s.threads.lookup t = some (.lifecycle runner todo) → .transition .busy ∉ todo

variable {s after : Standalone} {call : Call}

theorem perform_plain {m after : StandaloneManager} {runner : RunnerName} {answer : Answer} {head : Section}
    {todo : List Section} (performed : m.perform runner answer head = some (after, todo)) :
    .transition .busy ∉ todo := by
  cases perform_performs performed with
  | @spawnFail caller text failed => cases caller <;> simp [Caller.failure]
  | @abort caller pid => cases caller <;> simp [Caller.failure]
  | record records => cases records <;> simp [launched]
  | _ => simp

/-- One thread has moved. -/
theorem Plain.resume {t : ThreadID} {thread : Thread} {manager : StandaloneManager} (plain : s.Plain)
    (fits : ∀ name todo, thread = .lifecycle name todo → .transition .busy ∉ todo) :
    (s.resume t thread manager).Plain := by
  intro other name todo found
  rw [lookup_resume] at found
  split at found
  · exact fits name todo (Option.some.inj found)
  · exact plain other name todo found

theorem Plain.step (plain : s.Plain) (taken : s.step call = some after) : after.Plain := by
  cases call with
  | own event =>
      cases act_moves taken with
      | start fresh started =>
          apply plain.resume
          rintro _ _ ⟨⟩
          simp
      | stop fresh stopped => exact plain.resume (by simp)
      | @perform t answer runner head todo rest manager here performed =>
          apply plain.resume
          rintro _ _ ⟨⟩ member
          rcases List.mem_append.mp member with new | later
          · exact perform_plain performed new
          · exact plain t runner _ here (List.mem_cons_of_mem _ later)
      | advance here advanced => exact plain.resume (by simp)
      | exit alive => exact plain
  | lockOthers outcome activeRunners | unlockOthers outcome | markBusy runner | markIdle runner =>
      cases taken
      exact plain

/-- What a call makes of the count of a runner. -/
def counted (call : Call) (name : RunnerName) (before : Option Nat) : Option Nat :=
  match call with
  | .own (.start _ runner) => if runner = name then some 0 else before
  | .markBusy runner => if runner = name then before.map (· + 1) else before
  | .markIdle runner => if runner = name then before.map (· - 1) else before
  | _ => before

theorem step_counts (plain : s.Plain) (taken : s.step call = some after) :
    Processes.Counts s.manager.processes after.manager.processes (counted call) := by
  cases call with
  | own event =>
      cases act_moves taken with
      | start fresh started =>
          rw [(Processes.start_ok started).2]
          exact Processes.counts_insert (by simp)
      | stop fresh stopped =>
          obtain ⟨process, known, rfl⟩ := Processes.stop_ok stopped
          exact Processes.counts_restate known (by decide)
      | perform found performed =>
          refine StandaloneManager.perform_counts performed ?_
          rintro rfl
          exact plain _ _ _ found List.mem_cons_self
      | @advance t answer runner phase next manager found advanced =>
          change Processes.Counts s.manager.processes manager.processes _
          rw [(advance_frame advanced).1]
          exact .same _
      | exit alive => exact .same _
  | lockOthers outcome activeRunners =>
      cases taken
      exact StandaloneManager.sweep_counts s.manager outcome .stop activeRunners (by decide)
  | unlockOthers outcome =>
      cases taken
      exact StandaloneManager.sweep_counts s.manager outcome .cont ∅ (by decide)
  | markBusy runner =>
      cases taken
      exact Processes.counts_markBusy runner
  | markIdle runner =>
      cases taken
      refine Processes.counts_markIdle runner ?_
      split <;> decide

end Standalone

end RunnersMux
