import RunnersMux.Orchestrator.Pausing
import RunnersMux.Standalone.Holding

/-! A full system takes no further standalone job.

The state of a runner, the state of its process and the pause are written by
different calls. They agree whenever no call is under way, if the evaluation that
ends a change of the counts and keeps the pause reaches every listener that runs
without a job.
-/

set_option autoImplicit false

namespace RunnersMux

open Foundations

namespace Standalone

/-- The recorded state is Paused exactly for a stopped listener, and the pause has
stopped every listener that waits for a job. -/
structure Firm (s : Standalone) : Prop where
  paused : ∀ pid group, s.manager.groups.lookup pid = some group → group.live = true →
    (s.manager.processes.getState group.runner = some .paused ↔ group.stopped = true)
  full : s.manager.globalPaused = true → ∀ pid group, s.manager.groups.lookup pid = some group →
    group.live = true → ∀ process ∈ s.manager.processes.lookup group.runner, process.waits → group.stopped = true

instance (s : Standalone) : Decidable s.Firm :=
  decidable_of_iff (_ ∧ _) ⟨fun both => ⟨both.1, both.2⟩, fun firm => ⟨firm.paused, firm.full⟩⟩

variable {s : Standalone}

theorem Quiet.unheld (quiet : s.Quiet) (pid : Pid) : ¬s.Held pid := by
  rintro ⟨t, thread, found, holds⟩
  have settled := quiet t thread found
  cases thread with
  | lifecycle runner todo => cases holds
  | stop runner phase =>
      cases phase with
      | halting force => cases holds
      | returned error => cases holds
      | _ => cases settled

theorem Quiet.unthawing (quiet : s.Quiet) (pid : Pid) : ¬s.Thawing pid := by
  rintro ⟨t, thread, found, thaws⟩
  obtain ⟨runner, rest, rfl, waits⟩ := Thread.thawing_lifecycle thaws
  have settled := quiet t _ found
  exact of_decide_eq_false settled (List.ne_nil_of_mem waits)

/-- Outside launches every live listener is recorded for its runner. -/
theorem Quiet.recorded (quiet : s.Quiet) (owned : Owned s) (attended : Attended s) {pid : Pid} {group : ProcessGroup}
    (known : s.manager.groups.lookup pid = some group) (live : s.manager.live pid = true) :
    ∃ data, s.manager.listenerData.lookup group.runner = some data ∧ data.pgid = pid := by
  obtain ⟨t, runner, todo, found, member⟩ := owned.alive pid live
  have sane := owned.sane t runner todo found
  obtain ⟨_, same, looked, _, mine⟩ := sane.unreaped pid member
  cases known.symm.trans looked
  have settled := quiet t _ found
  have serves : ∃ attempt, .serve pid attempt ∈ todo := by
    cases todo with
    | nil => cases member
    | cons head rest =>
        rw [owners_cons] at member
        rcases List.mem_append.mp member with own | later
        · replace own : head.owned = some pid := Option.mem_toList.mp own
          cases head with
          | serve other attempt =>
              cases own
              exact ⟨attempt, List.mem_cons_self⟩
          | record caller other => cases settled
          | abort caller other => cases settled
          | _ => cases own
        · obtain ⟨task, placed, owns⟩ := List.mem_filterMap.mp later
          have straight := (List.pairwise_cons.mp (attended.straight t runner _ found)).1 task placed
          cases task with
          | serve other attempt =>
              cases owns
              exact ⟨attempt, List.mem_cons_of_mem _ placed⟩
          | record caller other => cases (straight rfl).2
          | abort caller other => cases (straight rfl).2
          | _ => cases owns
  obtain ⟨attempt, serves⟩ := serves
  obtain ⟨data, recorded, _, pgid⟩ := sane.recorded pid attempt serves
  exact ⟨data, mine ▸ recorded, pgid⟩

/-- With no debt left, the states, the processes and the pause agree. -/
theorem Tight.firm (tight : Tight False s) (owned : Owned s) (thawable : Thawable s) (attended : Attended s)
    (quiet : s.Quiet) : Firm s := by
  have live {pid : Pid} {group : ProcessGroup} (known : s.manager.groups.lookup pid = some group)
      (alive : group.live = true) : s.manager.live pid = true := by
    unfold StandaloneManager.live
    rw [known]
    exact alive
  have stopped {pid : Pid} {group : ProcessGroup} (known : s.manager.groups.lookup pid = some group)
      (alive : group.live = true) : s.manager.stopped pid = group.stopped := by
    unfold StandaloneManager.stopped
    rw [known, Option.any_some, alive, Bool.true_and]
  have loose {pid : Pid} {group : ProcessGroup} (known : s.manager.groups.lookup pid = some group)
      (alive : group.live = true) (runs : group.stopped = false) : s.Loose pid :=
    ⟨live known alive, (stopped known alive).trans runs, quiet.unheld pid⟩
  constructor
  · intro pid group known alive
    constructor
    · intro paused
      obtain ⟨process, found, state⟩ := Option.map_eq_some_iff.mp paused
      obtain ⟨data, recorded, rfl⟩ := quiet.recorded owned attended known (live known alive)
      cases runs : group.stopped with
      | true => rfl
      | false =>
          rcases tight.paused _ data process recorded found (loose known alive runs) state with thaws | ⟨_, _, owed⟩
          · exact absurd thaws (quiet.unthawing data.pgid)
          · exact owed.elim
    · intro frozen
      have ⟨unfreezing, unhalting⟩ := quiet.unaccounted pid
      rcases thawable.explained pid ((stopped known alive).trans frozen) with ⟨runner, aimed⟩ | freezing | halting
      · obtain ⟨process, data, found, recorded, state, rfl, _⟩ := StandaloneManager.target_some.mp aimed
        obtain ⟨_, t, todo, attempt, here, serves⟩ := owned.owner runner data recorded (live known alive)
        obtain ⟨_, other, looked, _, mine⟩ := (owned.sane t runner todo here).unreaped _ (serve_mem_owners serves)
        cases known.symm.trans looked
        unfold Processes.getState
        rw [mine, found, Option.map_some, state]
      · exact absurd freezing unfreezing
      · exact absurd halting unhalting
  · intro held pid group known alive process found waits
    obtain ⟨data, recorded, rfl⟩ := quiet.recorded owned attended known (live known alive)
    cases runs : group.stopped with
    | true => rfl
    | false => exact (tight.idle _ data process recorded found (loose known alive runs) held waits).elim

end Standalone

/-- The call that an evaluation ends. -/
def Action.evaluator : Action ManagerEvent (Finset Pid) → Option GoroutineID
  | .evaluate g _ => some g
  | _ => none

namespace System

variable {state after : System Multiplexer} {action : Action ManagerEvent (Finset Pid)}

/-- No other call is going to evaluate the capacity. -/
def EvaluatesLast (state : System Multiplexer) (g : GoroutineID) : Prop :=
  ∀ other goroutine, state.goroutines.lookup other = some goroutine → goroutine.evaluates = true → other = g

instance (state : System Multiplexer) (g : GoroutineID) : Decidable (state.EvaluatesLast g) :=
  inferInstanceAs (Decidable (∀ other goroutine, state.goroutines.lookup other = some goroutine → _))

/-- What keeps the freeze: the manager loses track of no listener, and the last
evaluation of a full system stops every listener that runs without a job. It
does so if the pause begins with it, and the runner is Online and not spared. -/
structure KeepsFreeze (state : System Multiplexer) (action : Action ManagerEvent (Finset Pid)) : Prop where
  holdable : ∀ call ∈ state.standaloneCall action, state.managers.standalone.Holdable call
  reaches : ∀ g ∈ action.evaluator, state.orchestrator.maxWorkers ≤ state.orchestrator.totalAssigned →
    state.EvaluatesLast g → ∀ runner data, state.managers.standalone.manager.listenerData.lookup runner = some data →
    ∀ process ∈ state.managers.standalone.manager.processes.lookup runner,
    state.managers.standalone.Loose data.pgid → process.waits →
    state.orchestrator.isPaused = false ∧ process.state = .online ∧ runner ∉ state.orchestrator.activeRunners

instance (state : System Multiplexer) (action : Action ManagerEvent (Finset Pid)) :
    Decidable (KeepsFreeze state action) :=
  decidable_of_iff (_ ∧ _) ⟨fun both => ⟨both.1, both.2⟩, fun keeps => ⟨keeps.holdable, keeps.reaches⟩⟩

/-- What holds between two steps. -/
structure Holding (state : System Multiplexer) : Prop where
  owned : state.managers.standalone.Owned
  thawable : state.managers.standalone.Thawable
  attended : state.managers.standalone.Attended
  agreed : state.Agreed
  tight : Standalone.Tight state.Owed state.managers.standalone

/-- A container's death or abort marks its runner idle and owes an evaluation. -/
theorem idles_owed (effect : Effect Multiplexer.interfaces state action after) {runner : RunnerName}
    (made : .markIdle runner ∈ state.standaloneCall action) : after.Owed := by
  have reaped {id : ContainerID} {between : System Multiplexer} {changed : Bool}
      (reaped : Reaped Multiplexer.interfaces.reporter state id between changed)
      (made : .markIdle runner ∈ state.idles id) : changed = true := by
    unfold idles at made
    cases reaped with
    | active found => rfl
    | warm absent found =>
        rw [absent] at made
        split at made <;> cases made
    | unknown absent missing =>
        rw [absent] at made
        split at made <;> cases made
  cases effect with
  | bootDeath found free dead =>
      simp only [standaloneCall, found] at made
      cases reaped dead made
      exact owed_resume rfl
  | dieEvent known gone fresh free dead =>
      cases reaped dead made
      exact owed_resume rfl
  | abortActive found fresh free => exact owed_resume rfl
  | abortUnknown absent fresh free => exact owed_resume rfl
  | markBusy found =>
      simp only [standaloneCall, found] at made
      split at made <;> cases made
  | evaluate found goes free =>
      simp only [standaloneCall, pauses] at made
      split at made
      · cases made
      · split at made <;> cases made
  | @managers event managers acted => cases event <;> cases made
  | _ => cases made

/-- The last evaluation settles what is owed. -/
theorem Holding.evaluate {g : GoroutineID} {outcome : Finset Pid} {later : Goroutine} (holding : Holding state)
    (keeps : KeepsFreeze state (.evaluate g outcome)) :
    Standalone.Tight ((state.evaluateCapacity Multiplexer.interfaces.pauser outcome).resume g later).Owed
      (state.evaluateCapacity Multiplexer.interfaces.pauser outcome).managers.standalone := by
  have same : (state.evaluateCapacity Multiplexer.interfaces.pauser outcome).goroutines = state.goroutines := by
    obtain ⟨paused, managers, frame⟩ := state.evaluateCapacity_frame Multiplexer.interfaces.pauser outcome
    rw [frame]
  -- A listener that this evaluation does not reach is left to another one.
  have reaches (runner : RunnerName) (data : ListenerData) (process : ProcessState)
      (full : state.orchestrator.maxWorkers ≤ state.orchestrator.totalAssigned)
      (recorded : state.managers.standalone.manager.listenerData.lookup runner = some data)
      (known : state.managers.standalone.manager.processes.lookup runner = some process)
      (loose : state.managers.standalone.Loose data.pgid) (waits : process.waits) :
      ((state.evaluateCapacity Multiplexer.interfaces.pauser outcome).resume g later).Owed ∨
        state.orchestrator.isPaused = false ∧ process.state = .online ∧
          runner ∉ state.orchestrator.activeRunners := by
    by_cases last : state.EvaluatesLast g
    · exact .inr (keeps.reaches g rfl full last runner data recorded process known loose waits)
    · unfold EvaluatesLast at last
      push Not at last
      obtain ⟨other, goroutine, found, evaluates, different⟩ := last
      refine .inl ⟨other, goroutine, ?_, evaluates⟩
      rw [resume_goroutines, same, Finmap.lookup_insert_of_ne _ different]
      exact found
  have agreed := holding.agreed
  unfold Agreed at agreed
  unfold evaluateCapacity Orchestrator.evaluateCapacity at reaches ⊢
  by_cases full : state.orchestrator.maxWorkers ≤ state.orchestrator.totalAssigned ∧
      state.orchestrator.isPaused = false
  · rw [if_pos full] at reaches ⊢
    refine holding.tight.lockOthers holding.owned outcome _ (agreed.trans full.2) ?_
    intro runner data process recorded known loose waits
    exact (reaches runner data process full.1 recorded known loose waits).imp_right And.right
  · rw [if_neg full] at reaches ⊢
    by_cases freed : state.orchestrator.totalAssigned < state.orchestrator.maxWorkers ∧
        state.orchestrator.isPaused = true
    · rw [if_pos freed]
      exact .unlockOthers holding.owned outcome
    · rw [if_neg freed] at reaches ⊢
      apply holding.tight.settle
      intro runner data process recorded known loose held waits
      have paused : state.orchestrator.isPaused = true := agreed.symm.trans held
      have kept := Int.not_lt.mp fun below => freed ⟨below, paused⟩
      rcases reaches runner data process kept recorded known loose waits with owed | ⟨unpaused, _⟩
      · exact owed
      · cases paused.symm.trans unpaused

/-- No other step leaves a debt that is not owed. -/
theorem Holding.carries (holding : Holding state) (keeps : KeepsFreeze state action)
    (effect : Effect Multiplexer.interfaces state action after) (other : ∀ g outcome, action ≠ .evaluate g outcome) :
    Standalone.Tight after.Owed after.managers.standalone := by
  have owes := (effect_owes Multiplexer.interfaces effect other).1
  have later {s : Standalone} (tight : Standalone.Tight state.Owed s) : Standalone.Tight after.Owed s := by
    apply tight.settle
    intro runner data process recorded known loose held waits
    exact owes (tight.idle runner data process recorded known loose held waits)
  have calls := effect_calls effect
  unfold Calls at calls
  split at calls
  · next call made =>
      rcases standaloneCall_cases made with ⟨event, _, rfl⟩ | ⟨runner, rfl⟩ | ⟨runner, rfl⟩ | ⟨g, outcome, same⟩
      · exact later (holding.tight.act holding.owned holding.attended (keeps.holdable _ made) calls)
      · rw [← Option.some.inj calls]
        exact later holding.tight.markBusy
      · rw [← Option.some.inj calls]
        apply holding.tight.markIdle.settle
        intro _ _ _ _ _ _ _ _
        exact idles_owed effect made
      · exact absurd same (other g outcome)
  · rw [calls]
    exact later holding.tight

theorem holding_step (holding : Holding state) (keeps : KeepsFreeze state action)
    (effect : Effect Multiplexer.interfaces state action after) : Holding after := by
  have calls := effect_calls effect
  have agreed := agreed_step holding.agreed effect
  have tight : Standalone.Tight after.Owed after.managers.standalone := by
    by_cases evaluation : ∃ g outcome, action = .evaluate g outcome
    · obtain ⟨g, outcome, rfl⟩ := evaluation
      cases effect with
      | evaluate found goes free => exact holding.evaluate keeps
    · exact holding.carries keeps effect fun g outcome same => evaluation ⟨g, outcome, same⟩
  unfold Calls at calls
  split at calls
  · next call made =>
      have holdable := keeps.holdable call made
      constructor
      · exact holding.owned.step holdable.resumable.orderly calls
      · exact holding.thawable.step holding.owned holdable.resumable calls
      · exact holding.attended.step holding.owned holdable.spared calls
      · exact agreed
      · exact tight
  · exact ⟨calls ▸ holding.owned, calls ▸ holding.thawable, calls ▸ holding.attended, agreed, tight⟩

/-- In a run that keeps the freeze, the states of the runners, the processes and
the pause agree whenever no evaluation is owed and no launch or halt is under way. -/
theorem freeze_holds (maxWorkers warmWorkers : Int) (state : System Multiplexer)
    (reached : Reaches (step Multiplexer.interfaces) (Started maxWorkers warmWorkers .new) KeepsFreeze state)
    (unowed : ¬state.Owed) (quiet : state.managers.standalone.Quiet) : state.managers.standalone.Firm := by
  have holding : Holding state := by
    apply reached.invariant
    · rintro start ⟨docker, listing, _, rfl⟩
      obtain ⟨warm, active, listeners, recovered⟩ :=
        (Orchestrator.newOrchestrator maxWorkers warmWorkers).recoverState_frame listing
      constructor
      · exact Standalone.new_owned
      · exact Standalone.new_thawable
      · exact Standalone.new_attended
      · change false = ((Orchestrator.newOrchestrator maxWorkers warmWorkers).recoverState listing).isPaused
        rw [recovered]
        rfl
      · exact Standalone.new_tight
    · intro earlier action later _ holding keeps taken
      exact holding_step holding keeps (step_effect Multiplexer.interfaces taken)
  have tight : Standalone.Tight False state.managers.standalone := by
    apply holding.tight.settle
    intro runner data process recorded known loose held waits
    exact unowed (holding.tight.idle runner data process recorded known loose held waits)
  exact tight.firm holding.owned holding.thawable holding.attended quiet

/-- The steps of a launch in the composed system. -/
def launching (t : ThreadID) (runner : RunnerName) (pid : Pid) : List (Action ManagerEvent (Finset Pid)) :=
  .managers (.standalone (.start t runner)) :: List.replicate 6 (.managers (.standalone (.run t (.of pid))))

/-- Two warm containers, a limit of one, and the launches of two listeners. -/
def twoLaunches : List (Action ManagerEvent (Finset Pid)) :=
  .setStatusReporter :: (launching 0 "a" 7 ++ launching 1 "b" 8)

def warmed : System Multiplexer :=
  restarted 1 0 .new [⟨"c1", ["/github-mux-warm-1"], "running", []⟩, ⟨"c2", ["/github-mux-warm-2"], "running", []⟩]

theorem warmed_started : Started 1 0 .new warmed := by
  refine ⟨_, _, ?_, rfl⟩
  rintro containers ⟨⟩
  exact ⟨by decide, by decide⟩

/-- Both listeners take a job before the first evaluation. The job of `a` ends, the
other one keeps the system full, and `MarkIdle` has left `a` Paused without a signal. -/
theorem idle_listener_runs : ∃ state : System Multiplexer,
    Reaches (step Multiplexer.interfaces) (Started 1 0 .new) everyStep state ∧ ¬state.Owed ∧
    state.managers.standalone.Quiet ∧ ¬state.managers.standalone.Firm := by
  refine Reaches.of_replay warmed_started (twoLaunches ++ [.allocate 0 "a" (some "c1"), .allocate 1 "b" (some "c2"),
    .rename 0 none, .check 0 true, .rename 1 none, .check 1 true, .register 0, .markBusy 0, .register 1, .markBusy 1,
    .evaluate 0 ∅, .evaluate 1 ∅, .die "c1", .dieEvent 2 "c1", .evaluate 2 ∅]) ?_
  decide

/-- `a` takes a job, and the pause stops `b`. -/
theorem freeze_holds_one_job : ∃ state : System Multiplexer,
    (state.managers.standalone.manager.globalPaused = true ∧
      state.managers.standalone.manager.stopped 8 = true ∧ state.managers.standalone.manager.stopped 7 = false) ∧
    state.managers.standalone.Firm := by
  obtain ⟨state, reached, unowed, quiet, shape⟩ : ∃ state, Reaches (step Multiplexer.interfaces)
      (Started 1 0 .new) KeepsFreeze state ∧ ¬state.Owed ∧ state.managers.standalone.Quiet ∧
      state.managers.standalone.manager.globalPaused = true ∧
      state.managers.standalone.manager.stopped 8 = true ∧ state.managers.standalone.manager.stopped 7 = false := by
    refine Reaches.of_replay warmed_started (twoLaunches ++ [.allocate 0 "a" (some "c1"), .rename 0 none,
      .check 0 true, .register 0, .markBusy 0, .evaluate 0 ∅]) ?_
    decide
  exact ⟨state, shape, freeze_holds 1 0 state reached unowed quiet⟩

end System

end RunnersMux
