import RunnersMux.Standalone.Sole
import RunnersMux.ScaleSet.Sole

/-! `RunnerService` and the two managers that its requests start runners on.

`UpdateRunner` asks both managers for the state of the runner, in one lock
section each, and calls `AddRunner` later. `CreateRunner` calls it at once. The
mode comes from the runner's row.
-/

set_option autoImplicit false

namespace RunnersMux

open Foundations

abbrev UpdateID := Nat

/-- An `UpdateRunner` whose check the standalone manager, or both managers, have passed. -/
inductive Update where
  | asking (runner : RunnerName) (mode : String)
  | adding (runner : RunnerName) (mode : String)
  deriving DecidableEq, Repr

structure RunnerService where
  standalone : Standalone
  scaleset : ScaleSet
  updates : Map UpdateID Update

inductive ServiceEvent where
  | createRunner (t : ThreadID) (runner : RunnerName) (mode : String)
  | updateRunner (u : UpdateID) (runner : RunnerName) (mode : String)
  | ask (u : UpdateID)
  | add (u : UpdateID) (t : ThreadID)
  | standalone (call : Call)
  | scaleset (event : ScaleSetEvent)
  deriving DecidableEq

/-- The states in which `UpdateRunner` refuses to edit a runner. -/
def RunnerState.running : RunnerState → Bool
  | .online | .busy | .registering | .paused | .draining => true
  | .offline | .failed => false

namespace RunnerService

def new : RunnerService where
  standalone := .new
  scaleset := .new
  updates := ∅

/-- The call of `Start` that `AddRunner` makes in a manager. An unknown mode is an error. -/
def addRunner (s : RunnerService) (t : ThreadID) (runner : RunnerName) (mode : String) : Option RunnerService :=
  if mode = "standalone" ∨ mode = "" then
    (s.standalone.act (.start t runner)).map fun standalone => { s with standalone }
  else if mode = "scaleset" then
    (s.scaleset.step (.start t runner)).map fun scaleset => { s with scaleset }
  else none

/-- A step; `none` when it is not enabled. A request that is refused returns at
once and is no step. -/
def step (s : RunnerService) : ServiceEvent → Option RunnerService
  | .createRunner t runner mode => s.addRunner t runner mode
  | .updateRunner u runner mode =>
      if s.updates.lookup u = none then
        match s.standalone.manager.processes.getState runner with
        | some state => if state.running then none else some { s with updates := s.updates.insert u (.adding runner mode) }
        | none => some { s with updates := s.updates.insert u (.asking runner mode) }
      else none
  | .ask u =>
      match s.updates.lookup u with
      | some (.asking runner mode) =>
          if (s.scaleset.manager.processes.getState runner).any RunnerState.running then none
          else some { s with updates := s.updates.insert u (.adding runner mode) }
      | _ => none
  | .add u t =>
      match s.updates.lookup u with
      | some (.adding runner mode) =>
          (s.addRunner t runner mode).map fun after => { after with updates := after.updates.erase u }
      | _ => none
  -- A manager starts no runner of its own accord.
  | .standalone call =>
      if call.starts = none then (s.standalone.step call).map fun standalone => { s with standalone } else none
  | .scaleset event =>
      if event.starts = none then (s.scaleset.step event).map fun scaleset => { s with scaleset } else none

/-- The runner that a step starts. -/
def starts (s : RunnerService) : ServiceEvent → Option RunnerName
  | .createRunner _ runner _ => some runner
  | .add u _ =>
      match s.updates.lookup u with
      | some (.adding runner _) => some runner
      | _ => none
  | _ => none

/-- A `Start` finds no entry of its runner that is up, in either manager. -/
def StartsAtRest (s : RunnerService) (event : ServiceEvent) : Prop :=
  ∀ runner ∈ s.starts event, s.standalone.manager.processes.resting runner = true ∧
    s.scaleset.manager.processes.resting runner = true

instance (s : RunnerService) (event : ServiceEvent) : Decidable (s.StartsAtRest event) :=
  inferInstanceAs (Decidable (∀ runner ∈ s.starts event, _))

end RunnerService

inductive Listener where
  | process (pid : Pid)
  | goroutine (g : ThreadID)
  deriving DecidableEq, Repr

namespace RunnerService

/-- A listener process of the runner that has not exited, or a goroutine inside `runListener`. -/
def live (s : RunnerService) (runner : RunnerName) : Listener → Bool
  | .process pid => (s.standalone.manager.groups.lookup pid).any fun group => group.live && group.runner = runner
  | .goroutine g =>
      match s.scaleset.threads.lookup g with
      | some (.listener name phase) => name = runner && phase.live
      | _ => false

/-- At most one manager is engaged for a runner, and by one thread. -/
structure Sole (s : RunnerService) : Prop where
  custody : s.standalone.Custody
  standalone : s.standalone.Sole fun _ => True
  scaleset : s.scaleset.Sole
  apart : ∀ t g runner, s.standalone.engaged t runner → ¬s.scaleset.engaged g runner

variable {s after : RunnerService}

/-- What an accepted call of `AddRunner` has started. -/
theorem addRunner_cases {t : ThreadID} {runner : RunnerName} {mode : String}
    (added : s.addRunner t runner mode = some after) :
    (∃ standalone, s.standalone.step (.own (.start t runner)) = some standalone ∧ after = { s with standalone }) ∨
      ∃ scaleset, s.scaleset.step (.start t runner) = some scaleset ∧ after = { s with scaleset } := by
  unfold addRunner at added
  split at added
  · obtain ⟨standalone, taken, rfl⟩ := Option.map_eq_some_iff.mp added
    exact .inl ⟨standalone, taken, rfl⟩
  · split at added
    · obtain ⟨scaleset, taken, rfl⟩ := Option.map_eq_some_iff.mp added
      exact .inr ⟨scaleset, taken, rfl⟩
    · cases added

/-- The standalone manager takes a step; what it starts rests in the other. -/
theorem Sole.byStandalone {call : Call} {standalone : Standalone} (sole : s.Sole)
    (rested : ∀ runner ∈ call.starts, s.standalone.manager.processes.resting runner = true ∧
      s.scaleset.manager.processes.resting runner = true)
    (taken : s.standalone.step call = some standalone) : Sole { s with standalone } := by
  refine ⟨sole.custody.step taken, ?_, sole.scaleset, ?_⟩
  · exact sole.standalone.step sole.custody (fun runner started _ => (rested runner started).1) taken
  · intro t g runner mine theirs
    rcases Standalone.engaged_step sole.custody taken mine with before | ⟨started, _⟩
    · exact sole.apart t g runner before theirs
    · cases (rested runner started).2.symm.trans (sole.scaleset.up g runner theirs)

theorem Sole.byScaleset {event : ScaleSetEvent} {scaleset : ScaleSet} (sole : s.Sole)
    (rested : ∀ runner ∈ event.starts, s.standalone.manager.processes.resting runner = true ∧
      s.scaleset.manager.processes.resting runner = true)
    (taken : s.scaleset.step event = some scaleset) : Sole { s with scaleset } := by
  refine ⟨sole.custody, sole.standalone, ?_, ?_⟩
  · exact sole.scaleset.step (fun runner started => (rested runner started).2) taken
  · intro t g runner mine theirs
    rcases ScaleSet.engaged_step taken theirs with ⟨other, before⟩ | started
    · exact sole.apart t other runner mine before
    · cases (rested runner started).1.symm.trans (sole.standalone.up t runner ⟨trivial, mine⟩)

theorem Sole.add {t : ThreadID} {runner : RunnerName} {mode : String} (sole : s.Sole)
    (rested : s.standalone.manager.processes.resting runner = true ∧ s.scaleset.manager.processes.resting runner = true)
    (added : s.addRunner t runner mode = some after) : after.Sole := by
  rcases addRunner_cases added with ⟨standalone, taken, rfl⟩ | ⟨scaleset, taken, rfl⟩
  · apply sole.byStandalone _ taken
    rintro name ⟨⟩
    exact rested
  · apply sole.byScaleset _ taken
    rintro name ⟨⟩
    exact rested

/-- Pending updates hold no runner. -/
theorem Sole.updated (sole : s.Sole) (updates : Map UpdateID Update) : Sole { s with updates } :=
  ⟨sole.custody, sole.standalone, sole.scaleset, sole.apart⟩

theorem Sole.step {event : ServiceEvent} (sole : s.Sole) (atRest : s.StartsAtRest event)
    (taken : s.step event = some after) : after.Sole := by
  cases event with
  | createRunner t runner mode => exact sole.add (atRest runner rfl) taken
  | updateRunner u runner mode =>
      simp only [RunnerService.step] at taken
      split at taken
      · split at taken
        · split at taken <;> cases taken
          exact sole.updated _
        · cases taken
          exact sole.updated _
      · cases taken
  | ask u =>
      simp only [RunnerService.step] at taken
      split at taken
      · split at taken <;> cases taken
        exact sole.updated _
      · cases taken
  | add u t =>
      simp only [RunnerService.step] at taken
      split at taken
      · next runner mode found =>
          obtain ⟨between, added, rfl⟩ := Option.map_eq_some_iff.mp taken
          have rested := atRest runner (by simp [starts, found])
          exact (sole.add rested added).updated _
      · cases taken
  | standalone call =>
      simp only [RunnerService.step] at taken
      split at taken
      · next idle =>
          obtain ⟨standalone, moved, rfl⟩ := Option.map_eq_some_iff.mp taken
          exact sole.byStandalone (by simp [idle]) moved
      · cases taken
  | scaleset event =>
      simp only [RunnerService.step] at taken
      split at taken
      · next idle =>
          obtain ⟨scaleset, moved, rfl⟩ := Option.map_eq_some_iff.mp taken
          exact sole.byScaleset (by simp [idle]) moved
      · cases taken

theorem new_sole : Sole .new where
  custody := Standalone.new_custody
  standalone := Standalone.new_sole _
  scaleset := ScaleSet.new_sole
  apart := by
    rintro t g runner ⟨todo, found, _⟩
    cases found

theorem reached_sole (reached : Reaches step (· = .new) StartsAtRest s) : s.Sole := by
  apply reached.invariant
  · rintro _ rfl
    exact new_sole
  · intro state event after _ sole atRest taken
    exact sole.step atRest taken

/-- A live listener has an engaged thread in its manager. -/
theorem live_cases {runner : RunnerName} {listener : Listener} (live : s.live runner listener = true) :
    (∃ pid group, listener = .process pid ∧ s.standalone.manager.groups.lookup pid = some group ∧
        group.live = true ∧ group.runner = runner) ∨
      ∃ g phase, listener = .goroutine g ∧ s.scaleset.threads.lookup g = some (.listener runner phase) ∧
        phase.live = true := by
  cases listener with
  | process pid =>
      obtain ⟨group, known, both⟩ := (Option.any_eq_true _ _).mp live
      rw [Bool.and_eq_true, decide_eq_true_iff] at both
      exact .inl ⟨pid, group, rfl, known, both⟩
  | goroutine g =>
      simp only [RunnerService.live] at live
      split at live
      · next name phase found =>
          rw [Bool.and_eq_true, decide_eq_true_iff] at live
          obtain ⟨rfl, alive⟩ := live
          exact .inr ⟨g, phase, rfl, found, alive⟩
      · cases live

/-- As long as no `Start` is accepted for a runner that has an entry which is up, a
runner has at most one live listener in both managers together. -/
theorem one_listener (s : RunnerService) (reached : Reaches step (· = .new) StartsAtRest s) (runner : RunnerName)
    (one two : Listener) (live : s.live runner one = true) (alive : s.live runner two = true) : one = two := by
  have sole := reached_sole reached
  have engaged {phase : ListenerPhase} (live : phase.live = true) : phase.engaged = true := by
    cases phase <;> first | rfl | cases live
  -- A process and a goroutine would be engaged for the runner in both managers.
  have mixed {pid : Pid} {group : ProcessGroup} {g : ThreadID} {phase : ListenerPhase}
      (known : s.standalone.manager.groups.lookup pid = some group) (runs : group.live = true)
      (mine : group.runner = runner) (found : s.scaleset.threads.lookup g = some (.listener runner phase))
      (inside : phase.live = true) : False := by
    obtain ⟨t, todo, here, member⟩ := sole.custody.engaged known runs
    rw [mine] at here
    exact sole.apart t g runner ⟨todo, here, engaged_of_owner member⟩ (.inr ⟨phase, found, engaged inside⟩)
  rcases live_cases live with ⟨pid, group, rfl, known, runs, mine⟩ | ⟨g, phase, rfl, found, inside⟩ <;>
    rcases live_cases alive with ⟨other, another, rfl, looked, also, yours⟩ | ⟨h, next, rfl, here, within⟩
  · exact congrArg Listener.process (sole.standalone.listener sole.custody known looked runs also trivial
      (mine.trans yours.symm))
  · exact (mixed known runs mine here within).elim
  · exact (mixed looked also yours found inside).elim
  · exact congrArg Listener.goroutine (sole.scaleset.listener found here inside within)

/-- What the world answers to a section that succeeds, and the process it forks. -/
def forks (pid : Pid) : Answer := ⟨none, pid, false, ∅⟩

/-- Two updates of a runner that has no entry pass their checks before either starts it. -/
def overlapping : List ServiceEvent :=
  [.updateRunner 0 "a" "standalone", .updateRunner 1 "a" "standalone", .ask 0, .ask 1, .add 0 10, .add 1 11,
    .standalone (.own (.run 10 (forks 1))), .standalone (.own (.run 10 (forks 1))),
    .standalone (.own (.run 10 (forks 1))), .standalone (.own (.run 11 (forks 2))),
    .standalone (.own (.run 11 (forks 2))), .standalone (.own (.run 11 (forks 2))),
    .createRunner 20 "b" "scaleset", .createRunner 21 "b" "scaleset",
    .scaleset (.run 20 ⟨false, none, false⟩), .scaleset (.spawn 20 30),
    .scaleset (.run 21 ⟨false, none, false⟩), .scaleset (.spawn 21 31)]

/-- Nothing keeps two starts of one runner from overlapping, in either manager. -/
theorem two_listeners : ∃ s, Reaches step (· = .new) everyStep s ∧
    (s.live "a" (.process 1) = true ∧ s.live "a" (.process 2) = true) ∧
    (s.live "b" (.goroutine 30) = true ∧ s.live "b" (.goroutine 31) = true) := by
  refine Reaches.of_replay rfl overlapping ?_
  decide

/-- One update, whose listener runs. -/
theorem one_listener_one_update : ∃ s, Reaches step (· = .new) StartsAtRest s ∧
    s.live "a" (.process 1) = true ∧ ∀ other, s.live "a" other = true → .process 1 = other := by
  have ⟨s, reached, live⟩ : ∃ s, Reaches step (· = .new) StartsAtRest s ∧ s.live "a" (.process 1) = true := by
    refine Reaches.of_replay rfl [.updateRunner 0 "a" "standalone", .ask 0, .add 0 10,
      .standalone (.own (.run 10 (forks 1))), .standalone (.own (.run 10 (forks 1))),
      .standalone (.own (.run 10 (forks 1)))] ?_
    decide
  exact ⟨s, reached, live, fun other alive => one_listener s reached "a" (.process 1) other live alive⟩

end RunnerService

end RunnersMux
