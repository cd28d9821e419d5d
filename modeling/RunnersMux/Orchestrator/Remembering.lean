import RunnersMux.Orchestrator.Agreement

/-! A runner that is started while its workers run.

Workers outlive the listener and the process. `Start` replaces the whole entry
of its runner, whose count begins at zero, and reads no count of the
orchestrator's.
-/

set_option autoImplicit false

namespace RunnersMux

open Foundations

theorem Processes.start_workers {processes after : Processes} {runner : RunnerName} {address : Nat}
    (started : processes.start runner address = .ok after) : after.workers runner = some 0 := by
  rw [(start_ok started).2]
  unfold workers
  rw [Finmap.lookup_insert]
  rfl

namespace System

/-- The accepted `Start` of a runner by one of the managers. -/
def Begins (state : System Multiplexer) (mode : Mode) (runner : RunnerName)
    (action : Action ManagerEvent (Finset Pid)) : Prop :=
  match mode with
  | .standalone => ∃ t, action = .managers (.standalone (.start t runner))
  | .scaleset => ∃ address processes, action = .managers (.scaleset processes) ∧
      state.managers.scaleset.start runner address = .ok processes

/-- Allocations and deaths after a `Start`: the runner is not started again, and none
of its workers is lost before the call that registered one has marked it. -/
structure OneByOne (mode : Mode) (runner : RunnerName) (state : System Multiplexer)
    (action : Action ManagerEvent (Finset Pid)) : Prop extends
    StartsOnly (fun other name => ¬(other = mode ∧ name = runner)) state action where
  apart : state.retires action = some runner → tally (Goroutine.unmarked runner) state.goroutines = 0

/-- After a `Start` the entry counts the workers, and later on its count is zero
exactly when the last of them is gone. -/
structure Remembers (mode : Mode) (runner : RunnerName) (after : System Multiplexer) : Prop where
  equal : ∃ count, after.workers mode runner = some count ∧ (count : Int) = after.orchestrator.getActiveCount runner
  later : ∀ last, Reaches (step Multiplexer.interfaces) (· = after) (OneByOne mode runner) last → last.Calm →
    ∀ count ∈ last.workers mode runner, count = 0 ↔ last.orchestrator.getActiveCount runner = 0

variable {state after : System Multiplexer} {action : Action ManagerEvent (Finset Pid)} {mode : Mode}
  {runner : RunnerName}

/-- A `Start` writes its own entry, with a count of zero. -/
theorem Begins.effect (begins : state.Begins mode runner action)
    (taken : step Multiplexer.interfaces state action = some after) :
    after.workers mode runner = some 0 ∧ after.orchestrator = state.orchestrator ∧
      after.goroutines = state.goroutines := by
  cases mode with
  | standalone =>
      obtain ⟨t, rfl⟩ := begins
      cases step_effect Multiplexer.interfaces taken with
      | managers acted =>
          obtain ⟨standalone, moved, rfl⟩ := Option.map_eq_some_iff.mp acted
          cases act_moves moved with
          | start fresh started => exact ⟨Processes.start_workers started, rfl, rfl⟩
  | scaleset =>
      obtain ⟨address, processes, rfl, started⟩ := begins
      cases step_effect Multiplexer.interfaces taken with
      | managers acted =>
          cases acted
          exact ⟨Processes.start_workers started, rfl, rfl⟩

/-- What holds from the `Start` on. -/
structure Kept (mode : Mode) (runner : RunnerName) (state : System Multiplexer) : Prop where
  assigned : Assigned state
  plain : state.managers.standalone.Plain
  installed : state.orchestrator.reporter = true
  level : state.Level mode runner

/-- A runner that loses a worker had one. -/
theorem retires_counted (assigned : Assigned state) (retired : state.retires action = some runner) :
    0 < state.orchestrator.getActiveCount runner := by
  obtain ⟨worker, found, rfl⟩ := Option.map_eq_some_iff.mp retired
  obtain ⟨id, _, looked⟩ := Option.bind_eq_some_iff.mp found
  have entry := Map.found_le_weigh state.orchestrator.activeWorkers
    (fun _ other => if decide (other.runnerName = worker.runnerName) = true then 1 else 0)
    (fun _ _ => by split <;> decide) id
  rw [looked, Map.found_some, if_pos (decide_eq_true rfl)] at entry
  rw [assigned.counted]
  exact entry

theorem kept_step (kept : Kept mode runner state) (orderly : OneByOne mode runner state action)
    (effect : Effect Multiplexer.interfaces state action after) : Kept mode runner after := by
  refine ⟨assigned_step Multiplexer.interfaces kept.assigned effect, effect_plain kept.plain effect,
    effect_reporter effect kept.installed, ?_⟩
  apply kept.level.step kept.plain orderly.toStartsOnly effect
  · intro _
    exact kept.installed
  · intro retired count found
    have same := kept.level count found
    have positive := retires_counted kept.assigned retired
    have marked := orderly.apart retired
    unfold markedCount at same
    omega
  · intro may
    exact absurd ⟨rfl, rfl⟩ may

/-- A `Start` remembers the workers of its runner exactly when there is none. -/
theorem start_remembers_workers (maxWorkers warmWorkers : Int) (state after : System Multiplexer)
    (reached : Reaches (step Multiplexer.interfaces) (Started maxWorkers warmWorkers .new) everyStep state)
    (calm : state.Calm) (installed : state.orchestrator.reporter = true) (mode : Mode) (runner : RunnerName)
    (action : Action ManagerEvent (Finset Pid)) (begins : state.Begins mode runner action)
    (taken : step Multiplexer.interfaces state action = some after) :
    Remembers mode runner after ↔ state.orchestrator.getActiveCount runner = 0 := by
  obtain ⟨zero, orchestrator, goroutines⟩ := begins.effect taken
  constructor
  · intro remembers
    obtain ⟨count, found, same⟩ := remembers.equal
    cases zero.symm.trans found
    rw [← orchestrator]
    exact same.symm
  · intro idle
    have idle' : after.orchestrator.getActiveCount runner = 0 := by rw [orchestrator, idle]
    have kept : Kept mode runner after := by
      have effect := step_effect Multiplexer.interfaces taken
      have plain : state.managers.standalone.Plain := by
        apply reached.invariant
        · rintro _ ⟨docker, listing, _, rfl⟩ t name todo found
          cases found
        · intro earlier action after _ plain _ taken
          exact effect_plain plain (step_effect Multiplexer.interfaces taken)
      refine ⟨assigned_step _ (reached_assigned _ reached) effect, effect_plain plain effect,
        effect_reporter effect installed, ?_⟩
      intro count found
      cases zero.symm.trans found
      have marked := calm.marked runner
      unfold markedCount at marked ⊢
      rw [orchestrator, goroutines, marked, idle]
      rfl
    refine ⟨⟨0, zero, idle'.symm⟩, ?_⟩
    intro last later calm count found
    have kept : Kept mode runner last := by
      apply later.invariant
      · rintro _ rfl
        exact kept
      · intro earlier action after _ kept orderly taken
        exact kept_step kept orderly (step_effect Multiplexer.interfaces taken)
    have same := kept.level count found
    rw [calm.marked runner] at same
    omega

/-- A restart that finds one container at work for `r`. -/
def oneActive : System Multiplexer := restarted 1 0 .new [⟨"c1", ["/github-mux-active-r-1"], "running", []⟩]

theorem oneActive_started : Started 1 0 .new oneActive := by
  refine ⟨_, _, ?_, rfl⟩
  rintro containers ⟨⟩
  exact ⟨by decide, by decide⟩

/-- The runner is started with a count of zero next to its worker. -/
theorem start_forgets_worker : ∃ state after : System Multiplexer,
    Reaches (step Multiplexer.interfaces) (Started 1 0 .new) everyStep state ∧ state.Calm ∧
    state.orchestrator.reporter = true ∧ state.workers .standalone "r" = none ∧
    step Multiplexer.interfaces state (.managers (.standalone (.start 0 "r"))) = some after ∧
    ¬Remembers .standalone "r" after := by
  obtain ⟨state, reached, calm, installed, missing, taken⟩ : ∃ state, Reaches (step Multiplexer.interfaces)
      (Started 1 0 .new) everyStep state ∧ state.Calm ∧ state.orchestrator.reporter = true ∧
      state.workers .standalone "r" = none ∧
      (step Multiplexer.interfaces state (.managers (.standalone (.start 0 "r")))).any (fun after =>
        decide (after.workers .standalone "r" = some 0 ∧ after.orchestrator.getActiveCount "r" = 1)) = true := by
    apply Reaches.of_replay oneActive_started [.setStatusReporter]
    decide
  cases stepped : step Multiplexer.interfaces state (.managers (.standalone (.start 0 "r"))) with
  | none =>
      rw [stepped] at taken
      cases taken
  | some after =>
      rw [stepped] at taken
      obtain ⟨zero, one⟩ := of_decide_eq_true taken
      refine ⟨state, after, reached, calm, installed, missing, stepped, fun remembers => ?_⟩
      obtain ⟨count, found, same⟩ := remembers.equal
      cases zero.symm.trans found
      cases same.trans one

theorem start_remembers_workers_none : ∃ state after : System Multiplexer,
    state.orchestrator.reporter = true ∧ Remembers .standalone "r" after := by
  obtain ⟨state, reached, calm, installed, idle, taken⟩ : ∃ state, Reaches (step Multiplexer.interfaces)
      (Started 1 0 .new) everyStep state ∧ state.Calm ∧ state.orchestrator.reporter = true ∧
      state.orchestrator.getActiveCount "r" = 0 ∧
      (step Multiplexer.interfaces state (.managers (.standalone (.start 0 "r")))).isSome = true := by
    apply Reaches.of_replay oneActive_started [.setStatusReporter, .die "c1", .dieEvent 0 "c1", .evaluate 0 ∅]
    decide
  obtain ⟨after, taken⟩ := Option.isSome_iff_exists.mp taken
  exact ⟨state, after, installed, (start_remembers_workers 1 0 state after reached calm installed .standalone "r" _
    ⟨0, rfl⟩ taken).mpr idle⟩

end System

end RunnersMux
