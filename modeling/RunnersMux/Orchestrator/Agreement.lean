import RunnersMux.Orchestrator.Jobs
import RunnersMux.Orchestrator.Sparing
import RunnersMux.Mux.Workers

/-! The two counts of a runner's workers.

`activeListeners` changes under the mutex. The manager's `ActiveWorkers` follows
a removal inside the same section, but an addition only with the later
`MarkBusy`, so the calls in between make up the difference, as long as no
removal finds a count of zero.
-/

set_option autoImplicit false

namespace RunnersMux

open Foundations

theorem Processes.Counts.of {before after : Processes} {change other : RunnerName → Option Nat → Option Nat}
    (counts : Processes.Counts before after change) (same : ∀ name count, change name count = other name count) :
    Processes.Counts before after other :=
  ⟨fun name => (counts.workers name).trans (same name _), counts.worked⟩

namespace System

section
variable {Managers Event Outcome : Type}

variable {state between : System Managers}

/-- No call of `AllocateWorker` has asked for a container for the runner. -/
def Untouched (state : System Managers) (runner : RunnerName) : Prop :=
  ∀ g phase, state.goroutines.lookup g ≠ some (.allocate runner phase)

/-- Only `AllocateWorker` itself asks. -/
theorem effect_untouched {interfaces : Interfaces Managers Event Outcome} {after : System Managers}
    {action : Action Event Outcome} (effect : Effect interfaces state action after) {runner : RunnerName}
    (untouched : state.Untouched runner) (unasked : runner ∉ action.requests) : after.Untouched runner := by
  intro g phase made
  have before := untouched g
  have resumes := effect_resumes effect g
  generalize state.goroutines.lookup g = old, after.goroutines.lookup g = new at made before resumes
  cases resumes with
  | same => exact before phase made
  | progresses progress =>
      cases progress with
      | boot | boots | death | deaths | abort | aborts => cases made
      | begins begun =>
          cases made
          subst begun
          exact unasked rfl
      | _ =>
          cases made
          exact before _ rfl

/-- The status reporter stays installed. -/
theorem effect_reporter {interfaces : Interfaces Managers Event Outcome} {after : System Managers}
    {action : Action Event Outcome} (effect : Effect interfaces state action after)
    (installed : state.orchestrator.reporter = true) : after.orchestrator.reporter = true := by
  cases effect with
  | setStatusReporter => rfl
  | bootInspectFail found | discard found | kill found =>
      exact (congrArg Orchestrator.reporter (remove_orchestrator _ _ _)).trans installed
  | die alive => exact (congrArg Orchestrator.reporter (stop_orchestrator _ _)).trans installed
  | rename found => exact (congrArg Orchestrator.reporter (containerRename_orchestrator _ _ _)).trans installed
  | bootDeath found free reaped => cases reaped <;> exact installed
  | dieEvent known dead fresh free reaped => cases reaped <;> exact installed
  | allocate fresh free picked => cases picked <;> exact installed
  | wake found closed free picked => cases picked <;> exact installed
  | retry found free picked => cases picked <;> exact installed
  | evaluate found goes free =>
      obtain ⟨paused, managers, frame⟩ := state.evaluateCapacity_frame interfaces.pauser ‹_›
      rw [frame]
      exact installed
  | _ => exact installed

end

variable {state after : System Multiplexer} {action : Action ManagerEvent (Finset Pid)}

/-- What a step of the orchestrator makes of a runner's `ActiveWorkers`. -/
def reported (state : System Multiplexer) (action : Action ManagerEvent (Finset Pid)) (name : RunnerName)
    (before : Option Nat) : Option Nat :=
  if state.orchestrator.reporter = true ∧ state.marks action = some name then before.map (· + 1)
  else if state.orchestrator.reporter = true ∧ state.retires action = some name then before.map (· - 1)
  else before

theorem report_busy (state : System Multiplexer) (mode : Mode) (runner : RunnerName) :
    Processes.Counts (state.managers.processes mode)
      ((state.report (Multiplexer.interfaces.reporter.markBusy runner)).processes mode)
      fun name before => if state.orchestrator.reporter = true ∧ runner = name then before.map (· + 1)
        else before := by
  unfold report
  cases state.orchestrator.reporter with
  | false => exact (Processes.Counts.same _).of fun _ _ => by simp
  | true =>
      cases mode <;> exact (Processes.counts_markBusy runner).of fun _ _ => by simp

theorem report_idle (state : System Multiplexer) (mode : Mode) (runner : RunnerName) :
    Processes.Counts (state.managers.processes mode)
      ((state.report (Multiplexer.interfaces.reporter.markIdle runner)).processes mode)
      fun name before => if state.orchestrator.reporter = true ∧ runner = name then before.map (· - 1)
        else before := by
  unfold report
  cases state.orchestrator.reporter with
  | false => exact (Processes.Counts.same _).of fun _ _ => by simp
  | true =>
      cases mode with
      | standalone =>
          refine (Processes.counts_markIdle runner ?_).of fun _ _ => by simp
          split <;> decide
      | scaleset => exact (Processes.counts_markIdle runner (by decide)).of fun _ _ => by simp

theorem Reaped.reports {between : System Multiplexer} {id : ContainerID} {changed : Bool}
    (reaped : Reaped Multiplexer.interfaces.reporter state id between changed) (mode : Mode) :
    Processes.Counts (state.managers.processes mode) (between.managers.processes mode)
      fun name before => if state.orchestrator.reporter = true ∧
        (state.orchestrator.activeWorkers.lookup id).map (·.runnerName) = some name then before.map (· - 1)
        else before := by
  cases reaped with
  | active found =>
      rw [found]
      exact (report_idle state mode _).of fun _ _ => by simp
  | warm absent found =>
      rw [absent]
      exact (Processes.Counts.same _).of fun _ _ => by simp
  | unknown absent missing =>
      rw [absent]
      exact (Processes.Counts.same _).of fun _ _ => by simp

theorem evaluateCapacity_counts (outcome : Finset Pid) (mode : Mode) :
    Processes.Counts (state.managers.processes mode)
      ((state.evaluateCapacity Multiplexer.interfaces.pauser outcome).managers.processes mode) fun _ => id := by
  unfold evaluateCapacity Orchestrator.evaluateCapacity
  split
  · cases mode with
    | standalone => exact StandaloneManager.sweep_counts _ outcome .stop _ (by decide)
    | scaleset => exact .same _
  · split
    · cases mode with
      | standalone => exact StandaloneManager.sweep_counts _ outcome .cont ∅ (by decide)
      | scaleset => exact .same _
    · exact .same _

/-- The managers count what the orchestrator reports. -/
theorem effect_counts (effect : Effect Multiplexer.interfaces state action after)
    (outside : ∀ event, action ≠ .managers event) (mode : Mode) :
    Processes.Counts (state.managers.processes mode) (after.managers.processes mode) (state.reported action) := by
  have silent (managers : after.managers = state.managers) (marks : state.marks action = none)
      (retires : state.retires action = none) :
      Processes.Counts (state.managers.processes mode) (after.managers.processes mode) (state.reported action) := by
    rw [managers]
    exact (Processes.Counts.same _).of fun _ _ => by simp [reported, marks, retires]
  cases effect with
  | bootDeath found free reaped =>
      refine (reaped.reports mode).of fun _ _ => ?_
      simp [reported, marks, retires, handles, found]
  | markBusy found =>
      refine (report_busy state mode _).of fun _ _ => ?_
      simp [reported, marks, retires, handles, found]
  | dieEvent known dead fresh free reaped =>
      refine (reaped.reports mode).of fun _ _ => ?_
      simp [reported, marks, retires, handles]
  | abortActive found fresh free =>
      refine (report_idle state mode _).of fun _ _ => ?_
      simp [reported, marks, retires, found]
  | abortUnknown absent fresh free => exact silent rfl rfl (by simp [retires, absent])
  | evaluate found goes free =>
      refine (evaluateCapacity_counts _ mode).of fun _ _ => ?_
      simp [reported, marks, retires, handles]
  | managers acted => exact absurd rfl (outside _)
  | bootInspectFail found | discard found | kill found => exact silent (remove_managers ..) rfl rfl
  | die alive => exact silent (stop_managers ..) rfl rfl
  | rename found => exact silent (containerRename_managers ..) rfl rfl
  | _ => exact silent rfl rfl rfl

end System

def Action.starts : Action ManagerEvent (Finset Pid) → Option RunnerName
  | .managers (.standalone (.start _ runner)) => some runner
  | _ => none

def Action.table : Action ManagerEvent (Finset Pid) → Option Processes
  | .managers (.scaleset processes) => some processes
  | _ => none

namespace System

variable {state after : System Multiplexer} {action : Action ManagerEvent (Finset Pid)}
  {allowed : Mode → RunnerName → Prop}

/-- The scale set manager writes its table by its own calls, and both managers
start only the runners that they may. -/
structure StartsOnly (allowed : Mode → RunnerName → Prop) (state : System Multiplexer)
    (action : Action ManagerEvent (Finset Pid)) : Prop where
  standalone : ∀ runner ∈ action.starts, allowed .standalone runner
  scaleset : ∀ processes ∈ action.table, ∃ request : TableCall, request.plain ∧
    state.managers.scaleset.call request = some processes ∧ ∀ runner ∈ request.starts, allowed .scaleset runner

def workers (state : System Multiplexer) (mode : Mode) (runner : RunnerName) : Option Nat :=
  (state.managers.processes mode).workers runner

/-- A step of the managers' own changes no count, but a `Start` begins one. -/
theorem managers_counts {event : ManagerEvent} (plain : state.managers.standalone.Plain)
    (starts : StartsOnly allowed state (.managers event))
    (effect : Effect Multiplexer.interfaces state (.managers event) after) (mode : Mode) :
    ∃ start : Option RunnerName, (∀ runner ∈ start, allowed mode runner) ∧
      Processes.Counts (state.managers.processes mode) (after.managers.processes mode)
        fun name before => if start = some name then some 0 else before := by
  have same (processes : Processes) : Processes.Counts processes processes fun name before =>
      if (none : Option RunnerName) = some name then some 0 else before :=
    (Processes.Counts.same processes).of fun _ _ => by simp
  cases effect with
  | managers acted =>
      cases event with
      | standalone event =>
          obtain ⟨standalone, taken, rfl⟩ := Option.map_eq_some_iff.mp acted
          have taken : state.managers.standalone.step (.own event) = some standalone := taken
          cases mode with
          | standalone =>
              refine ⟨_, starts.standalone, (Standalone.step_counts plain taken).of fun name before => ?_⟩
              cases event <;> simp [Standalone.counted, Action.starts]
          | scaleset => exact ⟨none, by simp, same _⟩
      | scaleset processes =>
          cases acted
          cases mode with
          | standalone => exact ⟨none, by simp, same _⟩
          | scaleset =>
              obtain ⟨request, ordinary, called, may⟩ := starts.scaleset processes rfl
              exact ⟨request.starts, may, Processes.call_counts called ordinary⟩

/-- A count changes as reported, or a `Start` that is allowed begins it. -/
theorem effect_workers (plain : state.managers.standalone.Plain) (starts : StartsOnly allowed state action)
    (effect : Effect Multiplexer.interfaces state action after) (mode : Mode) :
    ((state.managers.processes mode).Worked → (after.managers.processes mode).Worked) ∧ ∀ runner,
      after.workers mode runner = state.reported action runner (state.workers mode runner) ∨
        allowed mode runner ∧ after.workers mode runner = some 0 ∧ state.markedChange action runner = 0 := by
  by_cases outside : ∀ event, action ≠ .managers event
  · have counts := effect_counts effect outside mode
    exact ⟨counts.worked, fun runner => .inl (counts.workers runner)⟩
  · obtain ⟨event, rfl⟩ := not_forall_not.mp outside
    obtain ⟨start, may, counts⟩ := managers_counts plain starts effect mode
    refine ⟨counts.worked, fun runner => ?_⟩
    unfold workers
    rw [counts.workers]
    split
    · next begins => exact .inr ⟨may runner begins, rfl, by simp [markedChange, marks, retires, handles]⟩
    · exact .inl (by simp [reported, marks, retires, handles])

/-- The manager's count of a runner is the number of its marked workers. -/
def Level (state : System Multiplexer) (mode : Mode) (runner : RunnerName) : Prop :=
  ∀ count ∈ state.workers mode runner, (count : Int) = state.markedCount runner

/-- A marked worker is reported, and a removal does not meet the floor of `MarkIdle`. -/
theorem Level.step {mode : Mode} {runner : RunnerName} (level : state.Level mode runner)
    (plain : state.managers.standalone.Plain) (starts : StartsOnly allowed state action)
    (effect : Effect Multiplexer.interfaces state action after)
    (installed : state.marks action = some runner ∨ state.retires action = some runner →
      state.orchestrator.reporter = true)
    (floor : state.retires action = some runner → ∀ count ∈ state.workers mode runner, 0 < count)
    (fresh : allowed mode runner → state.markedCount runner = 0) : after.Level mode runner := by
  intro count found
  have marked := markedCount_effect effect runner
  rcases (effect_workers plain starts effect mode).2 runner with reports | ⟨may, zero, unchanged⟩
  · rw [reports] at found
    unfold reported at found
    unfold markedChange at marked
    by_cases busy : state.marks action = some runner
    · rw [if_pos ⟨installed (.inl busy), busy⟩] at found
      obtain ⟨before, known, rfl⟩ := Option.map_eq_some_iff.mp found
      have same := level before known
      rw [if_pos busy, marks_retires busy, if_neg (by simp)] at marked
      omega
    · rw [if_neg fun both => busy both.2] at found
      rw [if_neg busy] at marked
      by_cases idle : state.retires action = some runner
      · rw [if_pos ⟨installed (.inr idle), idle⟩] at found
        obtain ⟨before, known, rfl⟩ := Option.map_eq_some_iff.mp found
        have same := level before known
        have positive := floor idle before known
        rw [if_pos idle] at marked
        omega
      · rw [if_neg fun both => idle both.2] at found
        have same := level count found
        rw [if_neg idle] at marked
        omega
  · rw [zero] at found
    cases found
    rw [marked, unchanged, fresh may]
    rfl

/-- The setting: the status reporter is installed and a runner is started before
its first allocation, and no runner is started again after it. -/
structure StartsFirst (state : System Multiplexer) (action : Action ManagerEvent (Finset Pid)) : Prop extends
    StartsOnly (fun _ => state.Untouched) state action where
  installed : ∀ runner ∈ action.requests, state.orchestrator.reporter = true
  entered : ∀ runner ∈ action.requests, ∃ mode, state.workers mode runner ≠ none

/-- A runner that loses a worker is counted for one. -/
structure MarksBeforeLoss (state : System Multiplexer) (action : Action ManagerEvent (Finset Pid)) : Prop extends
    StartsFirst state action where
  counted : ∀ runner ∈ state.retires action, ∀ mode, ∀ count ∈ state.workers mode runner, 0 < count

/-- What holds between two steps of such a run. -/
structure Balanced (state : System Multiplexer) : Prop where
  assigned : Assigned state
  plain : state.managers.standalone.Plain
  worked : ∀ mode, (state.managers.processes mode).Worked
  traced : ∀ id worker, state.orchestrator.activeWorkers.lookup id = some worker →
    ∃ g, (state.goroutines.lookup g).bind Goroutine.registered = some (id, worker.runnerName)
  installed : ∀ runner, ¬state.Untouched runner → state.orchestrator.reporter = true
  entered : ∀ runner, ¬state.Untouched runner → ∃ mode, state.workers mode runner ≠ none
  level : ∀ mode runner, state.Level mode runner

theorem registered_touched {runner : RunnerName} {id : ContainerID} {g : GoroutineID}
    (made : (state.goroutines.lookup g).bind Goroutine.registered = some (id, runner)) : ¬state.Untouched runner := by
  obtain ⟨goroutine, found, entry⟩ := Option.bind_eq_some_iff.mp made
  intro untouched
  unfold Goroutine.registered at entry
  split at entry <;> cases entry <;> exact untouched g _ found

/-- Nobody has worked for such a runner. -/
theorem Balanced.unmarked (balanced : Balanced state) {runner : RunnerName} (untouched : state.Untouched runner) :
    state.markedCount runner = 0 := by
  have active : state.orchestrator.activeOf runner = 0 := by
    unfold Orchestrator.activeOf Map.count
    apply Map.weigh_eq_zero
    intro id worker found
    obtain ⟨g, made⟩ := balanced.traced id worker found
    apply if_neg
    simp only [decide_eq_true_eq]
    rintro rfl
    exact registered_touched made untouched
  have owed : tally (Goroutine.unmarked runner) state.goroutines = 0 := by
    apply Map.weigh_eq_zero
    intro g goroutine found
    unfold Goroutine.unmarked
    split
    · rw [if_neg]
      rintro rfl
      exact untouched g _ found
    · rfl
  unfold markedCount
  rw [balanced.assigned.counted runner, active, owed]
  rfl

theorem marks_touched {runner : RunnerName} (marked : state.marks action = some runner) :
    ¬state.Untouched runner := by
  unfold marks at marked
  split at marked
  · split at marked
    · next found =>
        cases marked
        exact fun untouched => untouched _ _ found
    · cases marked
  · cases marked

theorem Balanced.retires (balanced : Balanced state) {runner : RunnerName}
    (retired : state.retires action = some runner) : ¬state.Untouched runner := by
  obtain ⟨worker, found, rfl⟩ := Option.map_eq_some_iff.mp retired
  obtain ⟨id, _, looked⟩ := Option.bind_eq_some_iff.mp found
  obtain ⟨g, made⟩ := balanced.traced id worker looked
  exact registered_touched made

theorem effect_plain (plain : state.managers.standalone.Plain)
    (effect : Effect Multiplexer.interfaces state action after) : after.managers.standalone.Plain := by
  have calls := effect_calls effect
  unfold Calls at calls
  split at calls
  · exact plain.step calls
  · rw [calls]
    exact plain

theorem balanced_step (balanced : Balanced state) (marks : MarksBeforeLoss state action)
    (effect : Effect Multiplexer.interfaces state action after) : Balanced after := by
  have touched {runner : RunnerName} (later : ¬after.Untouched runner) :
      ¬state.Untouched runner ∨ runner ∈ action.requests := by
    by_cases asked : runner ∈ action.requests
    · exact .inr asked
    · exact .inl fun before => later (effect_untouched effect before asked)
  have counts (mode : Mode) := effect_workers balanced.plain marks.toStartsOnly effect mode
  constructor
  · exact assigned_step Multiplexer.interfaces balanced.assigned effect
  · exact effect_plain balanced.plain effect
  · intro mode
    exact (counts mode).1 (balanced.worked mode)
  · intro id worker found
    rcases effect_active effect found with before | ⟨g, _, made⟩
    · obtain ⟨g, made⟩ := balanced.traced id worker before
      exact ⟨g, effect_registered effect made⟩
    · exact ⟨g, made⟩
  · intro runner later
    apply effect_reporter effect
    rcases touched later with before | asked
    · exact balanced.installed runner before
    · exact marks.installed runner asked
  · intro runner later
    have entered : ∃ mode, state.workers mode runner ≠ none := by
      rcases touched later with before | asked
      · exact balanced.entered runner before
      · exact marks.entered runner asked
    obtain ⟨mode, entered⟩ := entered
    refine ⟨mode, ?_⟩
    rcases (counts mode).2 runner with reports | ⟨_, zero, _⟩
    · rw [reports]
      unfold reported
      split
      · simpa using entered
      · split
        · simpa using entered
        · exact entered
    · simp [zero]
  · intro mode runner
    apply (balanced.level mode runner).step balanced.plain marks.toStartsOnly effect
    · rintro (marked | retired)
      · exact balanced.installed runner (marks_touched marked)
      · exact balanced.installed runner (balanced.retires retired)
    · intro retired
      exact marks.counted runner retired mode
    · exact balanced.unmarked

/-- A process that has found no container. -/
def fresh (maxWorkers warmWorkers : Int) : System Multiplexer := booted maxWorkers warmWorkers ∅ (some []) .new

theorem fresh_started (maxWorkers warmWorkers : Int) :
    Started maxWorkers warmWorkers .new (fresh maxWorkers warmWorkers) := by
  refine ⟨∅, some [], ?_, rfl⟩
  rintro containers ⟨⟩
  exact ⟨List.nodup_nil, by simp⟩

theorem fresh_balanced (maxWorkers warmWorkers : Int) : Balanced (fresh maxWorkers warmWorkers) := by
  have untouched (runner : RunnerName) : (fresh maxWorkers warmWorkers).Untouched runner := by
    intro g phase found
    cases found
  constructor
  · exact assigned_booted (fresh_started maxWorkers warmWorkers)
  · intro t runner todo found
    cases found
  · intro mode name process found
    cases mode <;> cases found
  · intro id worker found
    cases found
  · intro runner touched
    exact absurd (untouched runner) touched
  · intro runner touched
    exact absurd (untouched runner) touched
  · intro mode runner count found
    cases mode <;> cases found

end System

/-- The runner that a call of `AllocateWorker` asks for. -/
def Goroutine.asker : Goroutine → Option RunnerName
  | .allocate runner _ => some runner
  | _ => none

/-- A call of `AllocateWorker`, `handleContainerDeath` or `AbortWorker` that has not returned. -/
def Goroutine.underWay : Goroutine → Bool
  | .allocate _ (.returned _) | .allocate _ .cancelled | .death .finished | .abort .finished => false
  | .allocate _ _ | .death _ | .abort _ | .boot (.dead _) | .boot .evaluating => true
  | .boot _ => false

namespace System

/-- No such call is in progress. -/
def Calm (state : System Multiplexer) : Prop :=
  ∀ g goroutine, state.goroutines.lookup g = some goroutine → goroutine.underWay = false

instance (state : System Multiplexer) : Decidable state.Calm := inferInstanceAs (Decidable (∀ _ _, _ → _))

/-- The owning manager has the orchestrator's count, and shows no runner Busy that
has no worker. A runner without an entry has none. -/
structure SameCount (state : System Multiplexer) (runner : RunnerName) : Prop where
  entry : ∀ mode, ∀ process ∈ (state.managers.processes mode).lookup runner,
    (process.activeWorkers : Int) = state.orchestrator.getActiveCount runner ∧
      (state.orchestrator.getActiveCount runner = 0 → process.state ≠ .busy)
  missing : (∀ mode, (state.managers.processes mode).lookup runner = none) →
    state.orchestrator.getActiveCount runner = 0

theorem Calm.marked {state : System Multiplexer} (calm : state.Calm) (runner : RunnerName) :
    state.markedCount runner = state.orchestrator.getActiveCount runner := by
  have none_ : tally (Goroutine.unmarked runner) state.goroutines = 0 := by
    apply Map.weigh_eq_zero
    intro g goroutine found
    have settled := calm g goroutine found
    unfold Goroutine.unmarked
    split
    · cases settled
    · rfl
  unfold markedCount
  omega

theorem Balanced.same {state : System Multiplexer} (balanced : Balanced state) (calm : state.Calm)
    (runner : RunnerName) : SameCount state runner := by
  have marked := calm.marked runner
  constructor
  · intro mode process found
    have found : (state.managers.processes mode).lookup runner = some process := found
    have same := balanced.level mode runner process.activeWorkers (by simp [workers, Processes.workers, found])
    refine ⟨same.trans marked, ?_⟩
    intro idle busy
    have positive := balanced.worked mode runner process found busy
    omega
  · intro absent
    have untouched : state.Untouched runner := by
      by_contra touched
      obtain ⟨mode, entered⟩ := balanced.entered runner touched
      apply entered
      simp [workers, Processes.workers, absent mode]
    rw [← marked, balanced.unmarked untouched]

/-- While every runner that loses a worker is counted for one, the two counts agree
whenever no call is in progress. -/
theorem same_counts (maxWorkers warmWorkers : Int) (state : System Multiplexer)
    (reached : Reaches (step Multiplexer.interfaces) (· = fresh maxWorkers warmWorkers) MarksBeforeLoss state)
    (calm : state.Calm) (runner : RunnerName) : SameCount state runner := by
  have balanced : Balanced state := by
    apply reached.invariant
    · rintro start rfl
      exact fresh_balanced maxWorkers warmWorkers
    · intro earlier action after _ balanced marks taken
      exact balanced_step balanced marks (step_effect Multiplexer.interfaces taken)
  exact balanced.same calm runner

/-- A step of that setting which leaves the scale set manager alone. -/
def StartsListeners (state : System Multiplexer) (action : Action ManagerEvent (Finset Pid)) : Prop :=
  action.table = none ∧ (∀ runner ∈ action.starts, state.Untouched runner) ∧
    (∀ runner ∈ action.requests, state.orchestrator.reporter = true) ∧
    ∀ runner ∈ action.requests, state.workers .standalone runner ≠ none

instance (state : System Multiplexer) (runner : RunnerName) : Decidable (state.Untouched runner) :=
  decidable_of_iff (∀ g goroutine, state.goroutines.lookup g = some goroutine → goroutine.asker ≠ some runner) <| by
    constructor
    · intro others g phase found
      exact others g _ found rfl
    · intro untouched g goroutine found asks
      unfold Goroutine.asker at asks
      split at asks <;> cases asks
      exact untouched g _ found

instance (state : System Multiplexer) (action : Action ManagerEvent (Finset Pid)) :
    Decidable (StartsListeners state action) :=
  inferInstanceAs (Decidable (_ ∧ _ ∧ _ ∧ _))

theorem StartsListeners.first {state : System Multiplexer} {action : Action ManagerEvent (Finset Pid)}
    (starts : StartsListeners state action) : StartsFirst state action := by
  obtain ⟨alone, untouched, installed, entered⟩ := starts
  refine ⟨⟨untouched, ?_⟩, installed, fun runner asked => ⟨.standalone, entered runner asked⟩⟩
  rw [alone]
  rintro _ ⟨⟩

/-- The listener `r` is started, and a container boots. -/
def online : List (Action ManagerEvent (Finset Pid)) :=
  .setStatusReporter :: .managers (.standalone (.start 0 "r")) ::
    List.replicate 6 (.managers (.standalone (.run 0 (.of 7)))) ++
    [.poolLock, .poolLoop 0, .poolLoop 1, .bootCreate 0 "c1" "1" "10.0.0.1", .bootInspect 0, .bootRecord 0,
      .bootCheck 0 true, .bootBroadcast 0, .allocate 1 "r" (some "c1"), .rename 1 none, .check 1 true, .register 1]

/-- The container dies before the call marks its runner: `MarkIdle` comes first and
stops at zero, and `MarkBusy` counts a worker that is gone. -/
theorem counts_diverge : ∃ state : System Multiplexer,
    Reaches (step Multiplexer.interfaces) (· = fresh 1 1) StartsFirst state ∧ state.Calm ∧ ¬SameCount state "r" := by
  obtain ⟨state, reached, calm, idle, process, found, busy⟩ : ∃ state, Reaches (step Multiplexer.interfaces)
      (· = fresh 1 1) StartsListeners state ∧ state.Calm ∧ state.orchestrator.getActiveCount "r" = 0 ∧
      ∃ process ∈ (state.managers.processes .standalone).lookup "r", process.state = .busy := by
    refine Reaches.of_replay rfl (online ++ [.die "c1", .dieEvent 2 "c1", .markBusy 1, .evaluate 1 ∅,
      .evaluate 2 ∅]) ?_
    decide
  refine ⟨state, reached.mono fun _ _ starts => starts.first, calm, fun same => ?_⟩
  exact (same.entry .standalone process found).2 idle busy

/-- A job and its end. -/
theorem same_counts_one_job : ∃ state : System Multiplexer,
    state.jobsCompleted = [("c1", "r")] ∧ SameCount state "r" := by
  obtain ⟨state, reached, calm, jobs⟩ : ∃ state, Reaches (step Multiplexer.interfaces) (· = fresh 1 1)
      (fun state action => StartsListeners state action ∧ ∀ runner ∈ state.retires action,
        (∀ count ∈ state.workers .standalone runner, 0 < count) ∧
        ∀ count ∈ state.workers .scaleset runner, 0 < count) state ∧ state.Calm ∧
      state.jobsCompleted = [("c1", "r")] := by
    refine Reaches.of_replay rfl (online ++ [.markBusy 1, .evaluate 1 ∅, .die "c1", .dieEvent 2 "c1",
      .evaluate 2 ∅]) ?_
    decide
  refine ⟨state, jobs, same_counts 1 1 state (reached.mono ?_) calm "r"⟩
  rintro earlier action ⟨starts, counted⟩
  refine ⟨starts.first, fun runner retired mode => ?_⟩
  cases mode with
  | standalone => exact (counted runner retired).1
  | scaleset => exact (counted runner retired).2

end System

end RunnersMux
