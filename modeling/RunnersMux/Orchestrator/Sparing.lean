import RunnersMux.Orchestrator.Jobs
import RunnersMux.Orchestrator.Pausing
import RunnersMux.Standalone.Thawing

/-! Which listeners a freeze spares.

`LockOthers` spares the runners with an active worker. A worker counts from its
registration on, but the listener is only marked afterwards, outside the mutex:
between the two a stopped listener may own as many workers as there are calls
that have not marked it yet, and no more.
-/

set_option autoImplicit false

namespace RunnersMux

open Foundations

/-- A call that has registered a worker of the runner and not yet called `MarkBusy`. -/
def Goroutine.unmarked (runner : RunnerName) : Goroutine → Int
  | .allocate name (.registered _) => if name = runner then 1 else 0
  | _ => 0

theorem Goroutine.unmarked_nonneg (runner : RunnerName) (goroutine : Goroutine) : 0 ≤ goroutine.unmarked runner := by
  unfold unmarked
  split
  · split <;> decide
  · decide

namespace Orchestrator

theorem getActiveCount_register (o : Orchestrator) (runner other : RunnerName) (candidate : WarmWorker) :
    (o.register runner candidate).getActiveCount other =
      o.getActiveCount other + if runner = other then 1 else 0 := by
  unfold getActiveCount register
  rw [Map.lookup_insert_if]
  by_cases same : runner = other
  · rw [if_pos same.symm, if_pos same, same]
    rfl
  · rw [if_neg (Ne.symm same), if_neg same, Int.add_zero]

theorem getActiveCount_removeActive (o : Orchestrator) (id : ContainerID) (runner other : RunnerName) :
    (o.removeActive id runner).getActiveCount other =
      o.getActiveCount other - if runner = other then 1 else 0 := by
  unfold getActiveCount removeActive
  rw [Map.lookup_insert_if]
  by_cases same : runner = other
  · rw [if_pos same.symm, if_pos same, same]
    rfl
  · rw [if_neg (Ne.symm same), if_neg same, Int.sub_zero]

theorem getActiveCount_removeActive_le (o : Orchestrator) (id : ContainerID) (runner other : RunnerName) :
    (o.removeActive id runner).getActiveCount other ≤ o.getActiveCount other := by
  rw [getActiveCount_removeActive]
  split <;> omega

/-- A runner that is not spared has no active worker. -/
theorem unspared {o : Orchestrator} {runner : RunnerName} (frozen : runner ∉ o.activeRunners) :
    o.getActiveCount runner ≤ 0 := by
  by_cases positive : 0 < o.getActiveCount runner
  · refine absurd ?_ frozen
    refine Finset.mem_filter.mpr ⟨?_, positive⟩
    unfold getActiveCount at positive
    cases found : o.activeListeners.lookup runner with
    | none =>
        rw [found] at positive
        exact absurd positive (by decide)
    | some count => exact Finmap.mem_keys.mpr (Finmap.mem_of_lookup_eq_some found)
  · exact Int.not_lt.mp positive

end Orchestrator

namespace System

section
variable {Managers Event Outcome : Type} {state between : System Managers}

/-- The workers of a runner for which its listener has been marked. -/
def markedCount (state : System Managers) (runner : RunnerName) : Int :=
  state.orchestrator.getActiveCount runner - tally (Goroutine.unmarked runner) state.goroutines

/-- The runner that a step is about to mark. -/
def marks (state : System Managers) : Action Event Outcome → Option RunnerName
  | .markBusy g =>
      match state.goroutines.lookup g with
      | some (.allocate runner (.registered _)) => some runner
      | _ => none
  | _ => none

theorem Picked.count {o after : Orchestrator} {phase : AllocatePhase} (picked : Picked o after phase)
    (name runner : RunnerName) : after.getActiveCount runner = o.getActiveCount runner ∧
      (Goroutine.allocate name phase).unmarked runner = 0 := by
  cases picked with
  | claim found => exact ⟨rfl, rfl⟩
  | wait empty => exact ⟨rfl, rfl⟩

/-- The runner that loses an active worker by a death or an abort. -/
def retires (state : System Managers) (action : Action Event Outcome) : Option RunnerName :=
  let id := match action with
    | .abort _ id => some id
    | other => state.handles other
  (id.bind state.orchestrator.activeWorkers.lookup).map (·.runnerName)

theorem marks_retires {state : System Managers} {action : Action Event Outcome} {runner : RunnerName}
    (marked : state.marks action = some runner) : state.retires action = none := by
  cases action with
  | markBusy g => rfl
  | _ => cases marked

/-- What a step makes of the number of marked workers. -/
def markedChange (state : System Managers) (action : Action Event Outcome) (runner : RunnerName) : Int :=
  (if state.marks action = some runner then 1 else 0) - (if state.retires action = some runner then 1 else 0)

theorem markedCount_resume {runner : RunnerName} {g : GoroutineID} {new : Goroutine} {old : Option Goroutine}
    {change : Int} (same : between.goroutines = state.goroutines) (found : state.goroutines.lookup g = old)
    (count : between.orchestrator.getActiveCount runner - new.unmarked runner =
      state.orchestrator.getActiveCount runner - Map.found (Goroutine.unmarked runner) old + change) :
    (between.resume g new).markedCount runner = state.markedCount runner + change := by
  unfold markedCount
  rw [resume_orchestrator, resume_goroutines, tally_insert, same, found]
  omega

theorem Reaped.counted {reporter : StatusReporter Managers} {id : ContainerID} {changed : Bool}
    (reaped : Reaped reporter state id between changed) (runner : RunnerName) :
    between.goroutines = state.goroutines ∧
      between.orchestrator.getActiveCount runner = state.orchestrator.getActiveCount runner -
        if (state.orchestrator.activeWorkers.lookup id).map (·.runnerName) = some runner then 1 else 0 := by
  cases reaped with
  | active found =>
      refine ⟨rfl, ?_⟩
      rw [found]
      refine (state.orchestrator.getActiveCount_removeActive id _ runner).trans ?_
      simp
  | warm absent found =>
      refine ⟨rfl, ?_⟩
      rw [absent]
      exact (Int.sub_zero _).symm
  | unknown absent missing =>
      refine ⟨rfl, ?_⟩
      rw [absent]
      exact (Int.sub_zero _).symm

theorem Reaped.count {reporter : StatusReporter Managers} {id : ContainerID} {changed : Bool}
    (reaped : Reaped reporter state id between changed) (runner : RunnerName) :
    between.goroutines = state.goroutines ∧
      between.orchestrator.getActiveCount runner ≤ state.orchestrator.getActiveCount runner := by
  obtain ⟨same, count⟩ := reaped.counted runner
  refine ⟨same, ?_⟩
  rw [count]
  split <;> omega

/-- A registration and the mark that it still owes cancel out. -/
theorem markedCount_effect {interfaces : Interfaces Managers Event Outcome} {after : System Managers}
    {action : Action Event Outcome} (effect : Effect interfaces state action after) (runner : RunnerName) :
    after.markedCount runner = state.markedCount runner + state.markedChange action runner := by
  have none_ : (state.orchestrator.getActiveCount runner - 0 : Int) =
      state.orchestrator.getActiveCount runner - 0 + 0 := (Int.add_zero _).symm
  cases effect with
  | poolLock | poolBlock | setStatusReporter | managers | updateSettings => exact (Int.add_zero _).symm
  | poolBoot held short full fresh => exact markedCount_resume rfl fresh none_
  | bootCreate found | bootCreateFail found | bootInspect found | bootPool found | bootGiveUp found
  | bootAlive found | bootDead found | cancel found | renameFail found | checkAlive found | checkDead found =>
      exact markedCount_resume rfl found none_
  | bootInspectFail found | discard found | kill found =>
      refine markedCount_resume (remove_goroutines ..) found ?_
      rw [remove_orchestrator]
      exact none_
  | rename found =>
      refine markedCount_resume (containerRename_goroutines ..) found ?_
      rw [containerRename_orchestrator]
      exact none_
  | @bootDeath g worker between changed found free reaped =>
      obtain ⟨goroutines, count⟩ := reaped.counted runner
      refine markedCount_resume goroutines found ?_
      simp only [markedChange, marks, retires, handles, found, Option.bind_some, Map.found_some]
      cases changed <;> simp only [Goroutine.unmarked] <;> rw [count] <;> simp <;> omega
  | bootBroadcast found free => rcases found with found | found <;> exact markedCount_resume rfl found none_
  | @allocate g name choice o phase fresh free picked =>
      obtain ⟨count, phase⟩ := picked.count name runner
      refine markedCount_resume rfl fresh ?_
      rw [phase]
      exact (congrArg (· - 0) count).trans none_
  | @wake g name choice channel o phase found closed free picked =>
      obtain ⟨count, phase⟩ := picked.count name runner
      refine markedCount_resume rfl found ?_
      rw [phase]
      exact (congrArg (· - 0) count).trans none_
  | @retry g name choice o phase found free picked =>
      obtain ⟨count, phase⟩ := picked.count name runner
      refine markedCount_resume rfl found ?_
      rw [phase]
      exact (congrArg (· - 0) count).trans none_
  | @register g name candidate found free =>
      refine markedCount_resume rfl found ?_
      change (state.orchestrator.register name candidate).getActiveCount runner -
        (if name = runner then 1 else 0) = _ - 0 + 0
      rw [Orchestrator.getActiveCount_register]
      omega
  | @markBusy g name candidate found =>
      refine markedCount_resume rfl found ?_
      simp only [markedChange, marks, retires, handles, found, Goroutine.unmarked, Map.found_some, Option.bind_none,
        Option.map_none, Option.some.injEq]
      simp
  | @dieEvent g id container between changed known dead fresh free reaped =>
      obtain ⟨goroutines, count⟩ := reaped.counted runner
      refine markedCount_resume goroutines fresh ?_
      simp only [markedChange, marks, retires, handles, Option.bind_some, Map.found_none, Goroutine.unmarked]
      rw [count]
      simp
      omega
  | @abortActive g id worker found fresh free =>
      refine markedCount_resume rfl fresh ?_
      simp only [markedChange, marks, retires, Option.bind_some, Map.found_none, Goroutine.unmarked, found]
      rw [Orchestrator.getActiveCount_removeActive]
      simp
      omega
  | @abortUnknown g id absent fresh free =>
      refine markedCount_resume rfl fresh ?_
      simp only [markedChange, marks, retires, Option.bind_some, Map.found_none, Goroutine.unmarked, absent]
      simp
  | @evaluate g outcome caller later found goes free =>
      obtain ⟨paused, managers, frame⟩ := state.evaluateCapacity_frame interfaces.pauser outcome
      rw [frame]
      refine markedCount_resume rfl found ?_
      unfold afterEvaluation at goes
      split at goes <;> cases goes <;> exact none_
  | die alive =>
      unfold markedCount
      rw [stop_orchestrator, stop_goroutines]
      exact (Int.add_zero _).symm

/-- A runner gains a marked worker by `MarkBusy` only. -/
theorem markedCount_step {interfaces : Interfaces Managers Event Outcome} {after : System Managers}
    {action : Action Event Outcome} (effect : Effect interfaces state action after) (runner : RunnerName)
    (unmarked : runner ∉ state.marks action) : after.markedCount runner ≤ state.markedCount runner := by
  rw [markedCount_effect effect runner, markedChange, if_neg (mt Option.mem_def.mpr unmarked)]
  split <;> omega

end

end System

/-- Every listener is Online, runs, and is the leader of its own group. -/
structure Standalone.Launched (s : Standalone) : Prop where
  online : ∀ name data, s.manager.listenerData.lookup name = some data → s.manager.live data.pgid = true →
    s.manager.processes.getState name = some .online
  running : ∀ name data, s.manager.listenerData.lookup name = some data → s.manager.stopped data.pgid = false
  apart : ∀ name data, s.manager.listenerData.lookup name = some data → s.manager.live data.pgid = true →
    ∀ other written, s.manager.listenerData.lookup other = some written → data.pgid = written.pgid → name = other

instance (s : Standalone) : Decidable s.Launched :=
  decidable_of_iff (_ ∧ _ ∧ _) ⟨fun all => ⟨all.1, all.2.1, all.2.2⟩, fun launched =>
    ⟨launched.online, launched.running, launched.apart⟩⟩

namespace System

variable {state after : System Multiplexer} {action : Action ManagerEvent (Finset Pid)}

def stopped (state : System Multiplexer) (pid : Pid) : Bool := state.managers.standalone.manager.stopped pid

def listenerData (state : System Multiplexer) : Map RunnerName ListenerData :=
  state.managers.standalone.manager.listenerData

/-- The listeners are left to the orchestrator, and it marks none while it is stopped. -/
structure MarksRunning (state : System Multiplexer) (action : Action ManagerEvent (Finset Pid)) : Prop where
  settled : action.own = none
  running : ∀ runner ∈ state.marks action, ∀ data ∈ state.listenerData.lookup runner, state.stopped data.pgid = false

instance (state : System Multiplexer) (action : Action ManagerEvent (Finset Pid)) :
    Decidable (MarksRunning state action) :=
  decidable_of_iff (_ ∧ _) ⟨fun both => ⟨both.1, both.2⟩, fun marks => ⟨marks.settled, marks.running⟩⟩

/-- A listener stopped by a step was not spared, and is the target of a runner. -/
def Freezes (state : System Multiplexer) (pid : Pid) : Prop :=
  state.managers.standalone.manager.live pid = true ∧ ∃ name ∉ state.orchestrator.activeRunners,
    state.managers.standalone.manager.target .online name = some pid

theorem stopped_step (settled : action.own = none) (effect : Effect Multiplexer.interfaces state action after) :
    after.listenerData = state.listenerData ∧
      (∀ pid, after.managers.standalone.manager.live pid = state.managers.standalone.manager.live pid) ∧
      ∀ pid, after.stopped pid = true → state.stopped pid = true ∨
        state.Freezes pid ∧ state.marks action = none := by
  have calls := effect_calls effect
  unfold Calls at calls
  split at calls
  · next call made =>
      unfold listenerData stopped
      rcases standaloneCall_cases made with ⟨event, own, _⟩ | ⟨runner, rfl⟩ | ⟨runner, rfl⟩ | ⟨g, outcome, rfl⟩
      · subst own
        cases settled
      · rw [← Option.some.inj calls]
        exact ⟨rfl, fun _ => rfl, fun _ => .inl⟩
      · rw [← Option.some.inj calls]
        exact ⟨rfl, fun _ => rfl, fun _ => .inl⟩
      · simp only [standaloneCall, pauses] at made
        split at made
        · cases made
          rw [← Option.some.inj calls]
          refine ⟨rfl, fun pid => StandaloneManager.live_signal_spared _ _ _ pid (by decide), ?_⟩
          intro pid frozen
          change ((state.managers.standalone.manager.signal _ .stop).stopped pid) = true at frozen
          rw [StandaloneManager.stopped_signal] at frozen
          split at frozen
          · next aimed =>
              exact .inr ⟨⟨(Bool.and_eq_true_iff.mp frozen).1, StandaloneManager.mem_targets.mp aimed⟩, rfl⟩
          · exact .inl frozen
        · split at made <;> cases made
          rw [← Option.some.inj calls]
          refine ⟨rfl, fun pid => StandaloneManager.live_signal_spared _ _ _ pid (by decide), ?_⟩
          intro pid frozen
          change ((state.managers.standalone.manager.signal _ .cont).stopped pid) = true at frozen
          rw [StandaloneManager.stopped_signal] at frozen
          split at frozen
          · cases (Bool.and_false _).symm.trans frozen
          · exact .inl frozen
  · unfold listenerData stopped
    rw [calls]
    exact ⟨rfl, fun _ => rfl, fun _ => .inl⟩

/-- A stopped listener has no worker that has been marked, and a group of its own. -/
structure Spared (state : System Multiplexer) : Prop where
  apart : ∀ name data, state.listenerData.lookup name = some data →
    state.managers.standalone.manager.live data.pgid = true → ∀ other written,
    state.listenerData.lookup other = some written → data.pgid = written.pgid → name = other
  counted : ∀ runner data, state.listenerData.lookup runner = some data → state.stopped data.pgid = true →
    state.markedCount runner ≤ 0

theorem spared_step (spared : Spared state) (marks : MarksRunning state action)
    (effect : Effect Multiplexer.interfaces state action after) : Spared after := by
  obtain ⟨records, alive, freezes⟩ := stopped_step marks.settled effect
  constructor
  · intro name data found live other written also
    rw [records] at found also
    rw [alive] at live
    exact spared.apart name data found live other written also
  · intro runner data found frozen
    rw [records] at found
    rcases freezes data.pgid frozen with before | ⟨⟨live, name, unspared, target⟩, marksNone⟩
    · have unmarked : runner ∉ state.marks action := by
        intro marked
        cases before.symm.trans (marks.running runner marked data found)
      exact Int.le_trans (markedCount_step effect runner unmarked) (spared.counted runner data found before)
    · obtain ⟨_, written, _, also, _, same, _⟩ := StandaloneManager.target_some.mp target
      cases spared.apart runner data found live name written also same.symm
      have unmarked : runner ∉ state.marks action := by
        rw [marksNone]
        nofun
      have idle := Orchestrator.unspared unspared
      have owed := tally_nonneg (Goroutine.unmarked_nonneg runner) state.goroutines
      have step := markedCount_step effect runner unmarked
      unfold markedCount at step ⊢
      omega

/-- If no listener is marked while it is stopped, the runner of a stopped
listener owns no worker once every call has passed its evaluation. -/
theorem active_listener_runs (maxWorkers warmWorkers : Int) (managers : Multiplexer)
    (launched : managers.standalone.Launched) (state : System Multiplexer)
    (reached : Reaches (step Multiplexer.interfaces) (Started maxWorkers warmWorkers managers) MarksRunning state)
    (quiet : ¬state.Owed) (runner : RunnerName) (data : ListenerData)
    (found : state.listenerData.lookup runner = some data) (active : 0 < state.orchestrator.getActiveCount runner) :
    state.stopped data.pgid = false := by
  have spared : Spared state := by
    apply reached.invariant
    · rintro start ⟨docker, listing, answers, rfl⟩
      constructor
      · exact launched.apart
      · intro name written recorded frozen
        cases (launched.running name written recorded).symm.trans frozen
    · intro earlier action after _ spared marks taken
      exact spared_step spared marks (step_effect Multiplexer.interfaces taken)
  have marked : tally (Goroutine.unmarked runner) state.goroutines = 0 := by
    apply Map.weigh_eq_zero
    intro g goroutine here
    unfold Goroutine.unmarked
    split
    · exact absurd ⟨g, _, here, rfl⟩ quiet
    · rfl
  cases frozen : state.stopped data.pgid with
  | false => rfl
  | true =>
      have none_ := spared.counted runner data found frozen
      unfold markedCount at none_
      omega

/-- Two listeners, launched one after the other. -/
def twoOnline : Multiplexer where
  standalone := (replay Standalone.step everyStep .new (launch 0 "a" 7 ++ launch 1 "b" 8)).getD .new
  scaleset := ∅

theorem twoOnline_launched : twoOnline.standalone.Launched := by decide

/-- Two warm containers for the two listeners, and a limit of one. -/
def twoWarm : System Multiplexer :=
  restarted 1 0 twoOnline [⟨"c1", ["/github-mux-warm-1"], "running", []⟩, ⟨"c2", ["/github-mux-warm-2"], "running", []⟩]

theorem twoWarm_started : Started 1 0 twoOnline twoWarm := by
  refine ⟨_, _, ?_, rfl⟩
  rintro containers ⟨⟩
  exact ⟨by decide, by decide⟩

/-- `b` claims a container, `a` claims and registers the other, and its
evaluation stops `b`. Then `b` is registered and marked Busy, while stopped. -/
theorem active_listener_frozen : ∃ state : System Multiplexer,
    Reaches (step Multiplexer.interfaces) (Started 1 0 twoOnline) (fun _ action => action.own = none) state ∧
    ¬state.Owed ∧ ∃ runner data, state.listenerData.lookup runner = some data ∧
      0 < state.orchestrator.getActiveCount runner ∧ state.stopped data.pgid = true := by
  apply Reaches.of_replay twoWarm_started [.setStatusReporter, .allocate 0 "b" (some "c1"),
    .allocate 1 "a" (some "c2"), .rename 1 none, .check 1 true, .register 1, .markBusy 1, .evaluate 1 ∅,
    .rename 0 none, .check 0 true, .register 0, .markBusy 0, .evaluate 0 ∅]
  decide

/-- One job: its listener runs and the other one is stopped. -/
theorem active_listener_runs_alone : ∃ state : System Multiplexer,
    state.stopped 8 = true ∧ state.stopped 7 = false := by
  obtain ⟨state, reached, quiet, frozen, active, data, found, pgid⟩ : ∃ state,
      Reaches (step Multiplexer.interfaces) (Started 1 0 twoOnline) MarksRunning state ∧ ¬state.Owed ∧
      state.stopped 8 = true ∧ 0 < state.orchestrator.getActiveCount "a" ∧
      ∃ data ∈ state.listenerData.lookup "a", data.pgid = 7 := by
    apply Reaches.of_replay twoWarm_started [.setStatusReporter, .allocate 1 "a" (some "c2"), .rename 1 none,
      .check 1 true, .register 1, .markBusy 1, .evaluate 1 ∅]
    decide
  exact ⟨state, frozen, pgid ▸ active_listener_runs 1 0 twoOnline twoOnline_launched state reached quiet "a"
    data found active⟩

end System

end RunnersMux
