import RunnersMux.Orchestrator.Phantoms

/-! An abort next to a death.

`AbortWorker` and `handleContainerDeath` remove an active worker by two copies of
the same updates. The die event that follows an abort finds the container in
neither map. What the abort's copy leaves out is the broadcast, so a waiter that
a death would wake goes on sleeping.
-/

set_option autoImplicit false

namespace RunnersMux

open Foundations

/-- An evaluation neither reads nor writes the channel. -/
theorem Orchestrator.evaluateCapacity_broadcast {Managers Outcome : Type} (pauser : GlobalPauser Managers Outcome)
    (outcome : Outcome) (o : Orchestrator) (managers : Managers) :
    o.broadcast.evaluateCapacity pauser outcome managers =
      ((o.evaluateCapacity pauser outcome managers).1.broadcast, (o.evaluateCapacity pauser outcome managers).2) := by
  change (if o.maxWorkers ≤ o.totalAssigned ∧ o.isPaused = false then _
    else if o.totalAssigned < o.maxWorkers ∧ o.isPaused = true then _ else _) = _
  unfold evaluateCapacity
  split
  · rfl
  · split <;> rfl

/-- An evaluation moves the pause and nothing else. -/
theorem Orchestrator.evaluateCapacity_same {Managers Outcome : Type} (pauser : GlobalPauser Managers Outcome)
    (outcome : Outcome) (o : Orchestrator) (managers : Managers) :
    ∃ paused, (o.evaluateCapacity pauser outcome managers).1 = { o with isPaused := paused } := by
  unfold evaluateCapacity
  split
  · exact ⟨true, rfl⟩
  · split
    · exact ⟨false, rfl⟩
    · exact ⟨o.isPaused, rfl⟩

/-- Who may be blocked on a broadcast channel. -/
inductive Waiter where
  | maintainPool
  | allocate (g : GoroutineID)
  deriving DecidableEq, Repr

namespace System

variable {Managers Event Outcome : Type}

/-- The channel that a waiter is blocked on. -/
def awaits (state : System Managers) : Waiter → Option Nat
  | .maintainPool =>
      match state.pool with
      | .blocked channel => some channel
      | _ => none
  | .allocate g =>
      match state.goroutines.lookup g with
      | some (.allocate _ (.waiting channel)) => some channel
      | _ => none

/-- A waiter sleeps in the first state, on a channel that is closed by the second. -/
def Wakes (state after : System Managers) (waiter : Waiter) : Prop :=
  ∃ channel ∈ state.awaits waiter, state.orchestrator.closed channel = false ∧
    after.orchestrator.closed channel = true

instance (state after : System Managers) (waiter : Waiter) : Decidable (Wakes state after waiter) :=
  inferInstanceAs (Decidable (∃ channel ∈ state.awaits waiter, _))

/-- `AbortWorker` from its start to its return, then the die event of the container it has killed. -/
def abortRun (g h : GoroutineID) (id : ContainerID) (outcome : Outcome) : List (Action Event Outcome) :=
  [.abort g id, .evaluate g outcome, .kill g true, .dieEvent h id]

/-- The container dies, unless it is dead already, and its event is handled. -/
def deathRun (state : System Managers) (g : GoroutineID) (id : ContainerID) (outcome : Outcome) :
    List (Action Event Outcome) :=
  (if state.running id then [.die id] else []) ++ [.dieEvent g id, .evaluate g outcome]

/-- What both removals make of the orchestrator and the managers, up to the broadcast. -/
def removed (interfaces : Interfaces Managers Event Outcome) (state : System Managers) (id : ContainerID)
    (runner : RunnerName) (outcome : Outcome) : Orchestrator × Managers :=
  (state.orchestrator.removeActive id runner).evaluateCapacity interfaces.pauser outcome
    (state.report (interfaces.reporter.markIdle runner))

/-- Two ways to end a worker of a runner leave the same behind, and wake the same
waiters; only the second one counts a completed job. -/
structure Agree (state aborted died : System Managers) (id : ContainerID) (runner : RunnerName) : Prop where
  warmPool : aborted.orchestrator.warmPool = died.orchestrator.warmPool
  activeWorkers : aborted.orchestrator.activeWorkers = died.orchestrator.activeWorkers
  activeListeners : aborted.orchestrator.activeListeners = died.orchestrator.activeListeners
  isPaused : aborted.orchestrator.isPaused = died.orchestrator.isPaused
  managers : aborted.managers = died.managers
  woken : ∀ waiter, Wakes state aborted waiter ↔ Wakes state died waiter
  aborts : aborted.jobsCompleted = state.jobsCompleted
  completes : died.jobsCompleted = (id, runner) :: state.jobsCompleted

section
variable (interfaces : Interfaces Managers Event Outcome) (outcome : Outcome) {state : System Managers}
  {id : ContainerID} {worker : ActiveWorker} {g h : GoroutineID}

theorem stop_leaves (state : System Managers) {container : Container} (known : state.docker.lookup id = some container) :
    ∃ stopped, (state.stop id).docker.lookup id = some stopped ∧ stopped.running = false := by
  unfold stop
  rw [known]
  exact ⟨_, Finmap.lookup_insert _, rfl⟩

/-- A die event of a container in neither map. -/
theorem dieEvent_unknown {container : Container} (known : state.docker.lookup id = some container)
    (dead : container.running = false) (active : state.orchestrator.activeWorkers.lookup id = none)
    (warm : state.orchestrator.warmPool.lookup id = none) (free : state.pool ≠ .holding)
    (fresh : state.goroutines.lookup h = none) :
    step interfaces state (.dieEvent h id) =
      some ({ state with delivered := insert id state.delivered }.resume h (.death .finished)) := by
  simp only [step, known, dead, if_true, handleContainerDeath, active, warm, spawn, fresh, locked, free, if_false,
    Option.bind_some, Bool.false_eq_true]

theorem dieEvent_active {container : Container} (known : state.docker.lookup id = some container)
    (dead : container.running = false) (active : state.orchestrator.activeWorkers.lookup id = some worker)
    (free : state.pool ≠ .holding) (fresh : state.goroutines.lookup h = none) :
    step interfaces state (.dieEvent h id) = some ({ state with
      orchestrator := (state.orchestrator.removeActive id worker.runnerName).broadcast
      managers := state.report (interfaces.reporter.markIdle worker.runnerName)
      jobsCompleted := (id, worker.runnerName) :: state.jobsCompleted
      delivered := insert id state.delivered }.resume h (.death .evaluating)) := by
  simp only [step, known, dead, if_true, handleContainerDeath, active, spawn, fresh, locked, free, if_false,
    Option.bind_some]

theorem evaluate_step {caller later : Goroutine} (found : state.goroutines.lookup g = some caller)
    (goes : afterEvaluation caller = some later) (free : state.pool ≠ .holding) :
    step interfaces state (.evaluate g outcome) =
      some ((state.evaluateCapacity interfaces.pauser outcome).resume g later) := by
  simp only [step, found, Option.bind_some, goes, locked, free, if_false]

/-- The abort: its die event is that of an unknown container. -/
theorem abort_run (assigned : Assigned state) (active : state.orchestrator.activeWorkers.lookup id = some worker)
    (free : state.pool ≠ .holding) (fresh : state.goroutines.lookup g = none) (other : state.goroutines.lookup h = none)
    (apart : h ≠ g) :
    ∃ aborted, replay (step interfaces) everyStep state (abortRun g h id outcome) = some aborted ∧
      aborted.orchestrator = (removed interfaces state id worker.runnerName outcome).1 ∧
      aborted.managers = (removed interfaces state id worker.runnerName outcome).2 ∧
      aborted.jobsCompleted = state.jobsCompleted := by
  let begun : System Managers := { state with
    orchestrator := state.orchestrator.removeActive id worker.runnerName
    managers := state.report (interfaces.reporter.markIdle worker.runnerName) }.resume g (.abort (.evaluating id))
  let evaluated := (begun.evaluateCapacity interfaces.pauser outcome).resume g (.abort (.killing id))
  let killed := (evaluated.stop id).resume g (.abort .finished)
  have begins : step interfaces state (.abort g id) = some begun := by
    simp only [step, abortWorker, active, spawn, fresh, locked, free, if_true, if_false, Option.bind_some]
    rfl
  have evaluates : step interfaces begun (.evaluate g outcome) = some evaluated :=
    evaluate_step interfaces outcome (Finmap.lookup_insert _) rfl free
  have kills : step interfaces evaluated (.kill g true) = some killed := by
    have found : evaluated.goroutines.lookup g = some (.abort (.killing id)) := Finmap.lookup_insert _
    simp only [step, found]
    rfl
  have orchestrator : killed.orchestrator = (removed interfaces state id worker.runnerName outcome).1 :=
    stop_orchestrator evaluated id
  obtain ⟨paused, same⟩ := (state.orchestrator.removeActive id worker.runnerName).evaluateCapacity_same
    interfaces.pauser outcome (state.report (interfaces.reporter.markIdle worker.runnerName))
  -- The container was active, so Docker knows it and it is not warm.
  have member : id ∈ state.orchestrator.activeWorkers := Finmap.mem_of_lookup_eq_some active
  obtain ⟨container, known⟩ := assigned.known (.inr member)
  obtain ⟨stopped, gone, dead⟩ : ∃ stopped, killed.docker.lookup id = some stopped ∧ stopped.running = false :=
    evaluated.stop_leaves known
  have unknown : killed.orchestrator.activeWorkers.lookup id = none := by
    rw [orchestrator, removed, same]
    exact Finmap.lookup_erase _ _
  have cold : killed.orchestrator.warmPool.lookup id = none := by
    rw [orchestrator, removed, same]
    exact Finmap.lookup_eq_none.mpr fun warm => assigned.exclusive.warm_active id warm member
  -- Nobody but the abort itself has run, and the goroutine of the event is another one.
  have missing : killed.goroutines.lookup h = none := by
    change ((evaluated.stop id).goroutines.insert g _).lookup h = none
    rw [stop_goroutines, Map.lookup_insert_if, if_neg apart]
    change ((state.goroutines.insert g _).insert g _).lookup h = none
    rw [Map.lookup_insert_if, if_neg apart, Map.lookup_insert_if, if_neg apart, other]
  have unlocked : killed.pool ≠ .holding := by
    change (evaluated.stop id).pool ≠ .holding
    rw [stop_pool]
    exact free
  have reaps : step interfaces killed (.dieEvent h id) = _ := dieEvent_unknown interfaces gone dead unknown cold unlocked missing
  refine ⟨{ killed with delivered := insert id killed.delivered }.resume h (.death .finished), ?_, orchestrator, ?_, ?_⟩
  · simp only [abortRun, replay, begins, evaluates, kills, reaps, if_true, Option.bind_some]
  · exact stop_managers evaluated id
  · exact stop_jobsCompleted evaluated id

/-- The die event of an active worker and the evaluation after it. -/
theorem reap_run {container : Container} (known : state.docker.lookup id = some container)
    (dead : container.running = false) (active : state.orchestrator.activeWorkers.lookup id = some worker)
    (free : state.pool ≠ .holding) (fresh : state.goroutines.lookup g = none) :
    ∃ died, replay (step interfaces) everyStep state [.dieEvent g id, .evaluate g outcome] = some died ∧
      died.orchestrator = (removed interfaces state id worker.runnerName outcome).1.broadcast ∧
      died.managers = (removed interfaces state id worker.runnerName outcome).2 ∧
      died.jobsCompleted = (id, worker.runnerName) :: state.jobsCompleted := by
  have reaps := dieEvent_active interfaces known dead active free fresh
  generalize begins : System.resume _ g (.death .evaluating) = begun at reaps
  have evaluates : step interfaces begun (.evaluate g outcome) =
      some ((begun.evaluateCapacity interfaces.pauser outcome).resume g (.death .finished)) := by
    subst begins
    exact evaluate_step interfaces outcome (Finmap.lookup_insert _) rfl free
  have apart := (state.orchestrator.removeActive id worker.runnerName).evaluateCapacity_broadcast interfaces.pauser
    outcome (state.report (interfaces.reporter.markIdle worker.runnerName))
  have orchestrator := congrArg Prod.fst apart
  have managers := congrArg Prod.snd apart
  refine ⟨(begun.evaluateCapacity interfaces.pauser outcome).resume g (.death .finished), ?_, ?_, ?_, ?_⟩
  · simp only [replay, reaps, evaluates, if_true, Option.bind_some]
  · subst begins
    exact orchestrator
  · subst begins
    exact managers
  · subst begins
    rfl

/-- The death: the same removal and evaluation, and a broadcast. -/
theorem death_run (assigned : Assigned state) (active : state.orchestrator.activeWorkers.lookup id = some worker)
    (free : state.pool ≠ .holding) (fresh : state.goroutines.lookup g = none) :
    ∃ died, replay (step interfaces) everyStep state (deathRun state g id outcome) = some died ∧
      died.orchestrator = (removed interfaces state id worker.runnerName outcome).1.broadcast ∧
      died.managers = (removed interfaces state id worker.runnerName outcome).2 ∧
      died.jobsCompleted = (id, worker.runnerName) :: state.jobsCompleted := by
  obtain ⟨container, known⟩ := assigned.known (.inr (Finmap.mem_of_lookup_eq_some active))
  unfold deathRun
  split
  · next alive =>
      -- A running container dies first, which changes neither map nor counter.
      obtain ⟨stopped, gone, dead⟩ := state.stop_leaves known
      rw [← stop_orchestrator state id] at active
      rw [← stop_pool state id] at free
      rw [← stop_goroutines state id] at fresh
      obtain ⟨died, ran, orchestrator, managers, jobs⟩ := reap_run interfaces outcome gone dead
        active free fresh
      have same : removed interfaces (state.stop id) id worker.runnerName outcome =
          removed interfaces state id worker.runnerName outcome := by
        simp only [removed, report, stop_orchestrator, stop_managers]
      refine ⟨died, ?_, orchestrator.trans ?_, managers.trans ?_, jobs.trans ?_⟩
      · have dies : step interfaces state (.die id) = some (state.stop id) := by
          simp only [step, alive, if_true]
        simp only [List.cons_append, List.nil_append]
        rw [replay, if_pos trivial, dies]
        exact ran
      · rw [same]
      · rw [same]
      · rw [stop_jobsCompleted]
  · next gone =>
      have dead : container.running = false := by
        simpa [running, known] using gone
      exact reap_run interfaces outcome known dead active free fresh

/-- An abort closes no channel. -/
theorem not_wakes {after : System Managers} (waiter : Waiter)
    (same : after.orchestrator.broadcastCh = state.orchestrator.broadcastCh) : ¬Wakes state after waiter := by
  rintro ⟨channel, _, opened, closed⟩
  unfold Orchestrator.closed at opened closed
  rw [same, opened] at closed
  cases closed

/-- A broadcast wakes whoever sleeps on the open channel. -/
theorem wakes_iff {after : System Managers} (waiter : Waiter)
    (next : after.orchestrator.broadcastCh = state.orchestrator.broadcastCh + 1) :
    Wakes state after waiter ↔ state.awaits waiter = some state.orchestrator.broadcastCh := by
  constructor
  · rintro ⟨channel, awaited, opened, closed⟩
    have later := of_decide_eq_false opened
    have earlier := of_decide_eq_true closed
    rw [next] at earlier
    have same : channel = state.orchestrator.broadcastCh := by omega
    exact same ▸ awaited
  · intro awaited
    refine ⟨_, awaited, decide_eq_false (Nat.lt_irrefl _), decide_eq_true ?_⟩
    rw [next]
    exact Nat.lt_succ_self _

/-- An abort leaves behind what a death does, except that it wakes nobody: they
agree exactly where nobody sleeps on the open channel. -/
theorem abort_agrees (interfaces : Interfaces Managers Event Outcome) (maxWorkers warmWorkers : Int)
    (managers : Managers) (state : System Managers)
    (reached : Reaches (step interfaces) (Started maxWorkers warmWorkers managers) everyStep state)
    (id : ContainerID) (worker : ActiveWorker) (active : state.orchestrator.activeWorkers.lookup id = some worker)
    (free : state.pool ≠ .holding) (outcome : Outcome) (g h : GoroutineID) (apart : h ≠ g)
    (fresh : state.goroutines.lookup g = none) (other : state.goroutines.lookup h = none) :
    ∃ aborted died, replay (step interfaces) everyStep state (abortRun g h id outcome) = some aborted ∧
      replay (step interfaces) everyStep state (deathRun state g id outcome) = some died ∧
      (Agree state aborted died id worker.runnerName ↔
        ∀ waiter, state.awaits waiter ≠ some state.orchestrator.broadcastCh) := by
  have assigned := reached_assigned interfaces reached
  obtain ⟨aborted, aborts, spared, idle, kept⟩ := abort_run interfaces outcome assigned active free fresh
    other apart
  obtain ⟨died, dies, lost, idled, counted⟩ := death_run interfaces outcome assigned active free fresh
  obtain ⟨paused, frame⟩ := (state.orchestrator.removeActive id worker.runnerName).evaluateCapacity_same
    interfaces.pauser outcome (state.report (interfaces.reporter.markIdle worker.runnerName))
  have silent : aborted.orchestrator.broadcastCh = state.orchestrator.broadcastCh := by
    rw [spared, removed, frame]
    rfl
  have loud : died.orchestrator.broadcastCh = state.orchestrator.broadcastCh + 1 := by
    rw [lost, removed, frame]
    rfl
  refine ⟨aborted, died, aborts, dies, ?_⟩
  constructor
  · intro agree waiter awaited
    exact not_wakes waiter silent ((agree.woken waiter).mpr ((wakes_iff waiter loud).mpr awaited))
  · intro nobody
    constructor
    · rw [spared, lost]
      rfl
    · rw [spared, lost]
      rfl
    · rw [spared, lost]
      rfl
    · rw [spared, lost]
      rfl
    · exact idle.trans idled.symm
    · intro waiter
      refine ⟨fun wakes => absurd wakes (not_wakes waiter silent), fun wakes => ?_⟩
      exact absurd ((wakes_iff waiter loud).mp wakes) (nobody waiter)
    · exact kept
    · exact counted

/-- A pool at its limit waits for a broadcast: the death of the one worker wakes
it, the abort of the same worker does not. -/
theorem abort_wakes_nobody : ∃ state : System Unit, Reaches (step Interfaces.silent) (Started 1 0 ()) everyStep state ∧
    state.pool ≠ .holding ∧ "c1" ∈ state.orchestrator.activeWorkers ∧
    ∃ aborted ∈ replay (step Interfaces.silent) everyStep state (abortRun 3 4 "c1" ()),
    ∃ died ∈ replay (step Interfaces.silent) everyStep state (deathRun state 3 "c1" ()),
      Wakes state died .maintainPool ∧ ¬Wakes state aborted .maintainPool := by
  apply Reaches.of_replay (oneWarm_started 1 0) [.allocate 0 "r" (some "c1"), .rename 0 none, .check 0 true, .register 0,
    .markBusy 0, .evaluate 0 (), .allocate 1 "r" none, .poolLock, .poolLoop 2]
  decide

/-- Nobody waits, and the abort agrees with the death. -/
theorem abort_agrees_unobserved : ∃ state : System Unit, state.orchestrator.getActiveCount "r" = 1 ∧
    ∃ aborted died, replay (step Interfaces.silent) everyStep state (abortRun 3 4 "c1" ()) = some aborted ∧
      replay (step Interfaces.silent) everyStep state (deathRun state 3 "c1" ()) = some died ∧
      Agree state aborted died "c1" "r" := by
  obtain ⟨state, reached, count, active, free, fresh, other, nobody, calls⟩ : ∃ state, Reaches (step Interfaces.silent)
      (Started 1 0 ()) everyStep state ∧ state.orchestrator.getActiveCount "r" = 1 ∧
      state.orchestrator.activeWorkers.lookup "c1" = some ⟨"c1", "10.0.0.1", "r"⟩ ∧ state.pool ≠ .holding ∧
      state.goroutines.lookup 3 = none ∧ state.goroutines.lookup 4 = none ∧ state.awaits .maintainPool = none ∧
      ∀ g goroutine, state.goroutines.lookup g = some goroutine → state.awaits (.allocate g) = none := by
    apply Reaches.of_replay (oneWarm_started 1 0) [.allocate 0 "r" (some "c1"), .rename 0 none, .check 0 true,
      .register 0, .markBusy 0, .evaluate 0 ()]
    decide
  obtain ⟨aborted, died, aborts, dies, agree⟩ := abort_agrees Interfaces.silent 1 0 () state reached "c1" _ active free
    () 3 4 (by decide) fresh other
  refine ⟨state, count, aborted, died, aborts, dies, agree.mpr ?_⟩
  intro waiter
  cases waiter with
  | maintainPool =>
      rw [nobody]
      nofun
  | allocate g =>
      cases found : state.goroutines.lookup g with
      | none => simp [awaits, found]
      | some goroutine =>
          rw [calls g goroutine found]
          nofun

end

end System

end RunnersMux
