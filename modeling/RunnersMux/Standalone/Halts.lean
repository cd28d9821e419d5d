import RunnersMux.Standalone.Thawing

/-! A `Halt` that returns leaves no live listener behind.

It returns after a signal that found no process or killed it, or when it has
seen the runner Offline. A runner is not Offline as long as one of its
lifecycles can still come to a listener.
-/

set_option autoImplicit false

namespace RunnersMux

open Foundations

namespace Section

/-- A section from which the lifecycle can still come to a listener. -/
def working : Section → Bool
  | .transition _ | .setError _ | .fail _ _ | .forget _ | .disarm _ => false
  | _ => true

/-- A section that leaves none in its place and the runner up. -/
def passing : Section → Bool
  | .transition goal => !goal.down
  | .setError _ | .forget _ | .arm _ _ | .disarm _ => true
  | _ => false

/-- A section of a launch whose process is not recorded. -/
def launching : Section → Bool
  | .record _ _ | .abort _ _ => true
  | _ => false

end Section

def Ongoing (todo : List Section) : Prop := ∃ later ∈ todo, later.working = true

/-- Only passing sections stand before one that works, and none before one that
has yet to record a process. -/
def Straight (todo : List Section) : Prop :=
  todo.Pairwise fun head later => later.working = true → head.passing = true ∧ later.launching = false

theorem Straight.append {todo rest : List Section} (first : Straight todo) (second : Straight rest)
    (ended : ¬Ongoing rest) : Straight (todo ++ rest) := by
  refine List.pairwise_append.mpr ⟨first, second, ?_⟩
  intro head _ later member working
  exact absurd ⟨later, member, working⟩ ended

theorem Straight.ended {head : Section} {rest : List Section} (straight : Straight (head :: rest))
    (slow : head.passing = false) : ¬Ongoing rest := by
  rintro ⟨later, member, working⟩
  have ⟨passing, _⟩ := (List.pairwise_cons.mp straight).1 later member working
  cases slow.symm.trans passing

theorem failure_straight (caller : Caller) (text : String) : Straight (caller.failure text) := by
  cases caller <;> simp [Straight, Caller.failure, Section.working]

/-- A signal leaves every process with its runner. -/
theorem StandaloneManager.runner_signal (m : StandaloneManager) (pgids : Finset Pid) (sent : Signal) (pid : Pid) :
    ((m.signal pgids sent).groups.lookup pid).map (·.runner) = (m.groups.lookup pid).map (·.runner) := by
  rw [lookup_signal]
  cases m.groups.lookup pid with
  | none => rfl
  | some group =>
      by_cases hit : pid ∈ pgids <;> simp [hit, ProcessGroup.deliver_runner]

section
variable {m after : StandaloneManager} {runner : RunnerName} {answer : Answer} {head : Section} {todo : List Section}

/-- The shape of what a section leaves in its place. -/
theorem perform_todo (performed : m.perform runner answer head = some (after, todo)) :
    Straight todo ∧ (head.passing = true ∨ head.working = false → todo = []) := by
  cases perform_performs performed with
  | spawnFail failed => exact ⟨failure_straight _ _, by simp [Section.passing, Section.working]⟩
  | abort => exact ⟨failure_straight _ _, by simp [Section.passing, Section.working]⟩
  | record records =>
      cases records <;>
        simp [Straight, launched, Section.passing, Section.working, Section.launching, RunnerState.down]
  | _ => simp [Straight, Section.passing, Section.working, Section.launching, RunnerState.down]

/-- The sections that write an entry. -/
theorem perform_processes (performed : m.perform runner answer head = some (after, todo)) :
    after.processes = m.processes ∨
      (∃ goal, head = .transition goal ∧ after.processes = m.processes.transitioned runner goal) ∨
      (∃ text, head = .setError text ∧ after.processes = m.processes.setError runner text) ∨
      ∃ entry text, head = .fail entry text ∧ after.processes = m.processes.fail runner entry text := by
  cases perform_performs performed with
  | @transition goal => exact .inr (.inl ⟨goal, rfl, rfl⟩)
  | @setError text => exact .inr (.inr (.inl ⟨text, rfl, rfl⟩))
  | @fail entry text => exact .inr (.inr (.inr ⟨entry, text, rfl, rfl⟩))
  | record records => cases records <;> exact .inl rfl
  | _ => exact .inl rfl

/-- A lifecycle takes its runner down with a section after which it ends. -/
theorem perform_down (performed : m.perform runner answer head = some (after, todo))
    (down : after.processes.down runner = true) :
    m.processes.down runner = true ∨ head.passing = false ∧ head.working = false := by
  rcases perform_processes performed with same | ⟨goal, rfl, same⟩ | ⟨text, rfl, same⟩ | ⟨entry, text, rfl, same⟩
  · rw [same] at down
    exact .inl down
  · rw [same, down_lookup, Processes.lookup_transitioned, if_pos rfl] at down
    rw [down_lookup]
    cases known : m.processes.lookup runner with
    | none =>
        rw [known] at down
        cases down
    | some process =>
        rw [known] at down
        dsimp only [Option.map_some, Option.any_some] at down ⊢
        split at down
        · right
          exact ⟨congrArg not down, rfl⟩
        · exact .inl down
  · rw [same, down_lookup, Processes.setError, Map.lookup_modify, if_pos rfl] at down
    rw [down_lookup]
    cases known : m.processes.lookup runner <;> rw [known] at down
    · cases down
    · exact .inl down
  · exact .inr ⟨rfl, rfl⟩

/-- A lifecycle thread resumes no process, and changes the owner of none that it
does not fork. -/
theorem perform_groups (performed : m.perform runner answer head = some (after, todo)) {pid : Pid}
    (live : after.live pid = true) (old : pid ∉ head.forks answer) :
    m.live pid = true ∧ (m.stopped pid = true → after.stopped pid = true) ∧
      (after.groups.lookup pid).map (·.runner) = (m.groups.lookup pid).map (·.runner) := by
  have kept (same : after.groups.lookup pid = m.groups.lookup pid) :
      m.live pid = true ∧ (m.stopped pid = true → after.stopped pid = true) ∧
        (after.groups.lookup pid).map (·.runner) = (m.groups.lookup pid).map (·.runner) := by
    unfold StandaloneManager.live StandaloneManager.stopped at *
    rw [same] at live ⊢
    exact ⟨live, id, rfl⟩
  have ended {own : Pid} {change : ProcessGroup → ProcessGroup}
      (same : after.groups = m.groups.modify own change)
      (ends : ∀ group, m.groups.lookup own = some group → (change group).live = false) :
      after.groups.lookup pid = m.groups.lookup pid := by
    unfold StandaloneManager.live at live
    rw [same, Map.lookup_modify] at live
    rw [same, Map.lookup_modify]
    split
    · next mine =>
        subst mine
        rw [if_pos rfl] at live
        cases known : m.groups.lookup pid with
        | none => rfl
        | some group =>
            rw [known, Option.map_some, Option.any_some, ends group known] at live
            cases live
    · rfl
  cases perform_performs performed with
  | spawn clean nonzero free =>
      refine kept (Finmap.lookup_insert_of_ne _ ?_)
      rintro rfl
      apply old
      unfold Section.forks
      rw [if_pos clean]
      rfl
  | @record caller own _ _ records =>
      have signalled (same : after = (m.enter runner own).signal {own} .stop) :
          m.live pid = true ∧ (m.stopped pid = true → after.stopped pid = true) ∧
            (after.groups.lookup pid).map (·.runner) = (m.groups.lookup pid).map (·.runner) := by
        subst same
        have before : m.live pid = true := by
          rw [StandaloneManager.live_signal_spared _ _ _ _ (by decide)] at live
          exact live
        refine ⟨before, ?_, StandaloneManager.runner_signal (m.enter runner own) {own} .stop pid⟩
        intro stopped
        rw [StandaloneManager.stopped_signal]
        split
        · exact (Bool.and_true _).trans before
        · exact stopped
      cases records with
      | cancelled => exact kept rfl
      | free open_ => exact kept rfl
      | frozen paused => exact signalled rfl
      | missed paused dead => exact signalled rfl
  | abort =>
      apply kept
      refine ended rfl fun group _ => ?_
      change (group.deliver .kill).live = false
      rw [ProcessGroup.deliver_live]
      exact Bool.and_false _
  | @serve own attempt status exited =>
      apply kept
      refine ended rfl fun group known => ?_
      rw [known] at exited
      change group.exit.isNone = false
      rw [show group.exit = some status from exited]
      rfl
  | _ => exact kept rfl

end

/-- The group that a `Halt` past its locked section is dealing with. -/
def StopPhase.holds : StopPhase → Option Pid
  | .killing pgid | .resuming _ pgid | .interrupting _ pgid | .polling pgid | .checking pgid | .expiring pgid =>
      some pgid
  | .halting _ | .returned _ => none

def Thread.holds : Thread → Option Pid
  | .stop _ phase => phase.holds
  | .lifecycle _ _ => none

/-- The process that `SIGINT` goes to leads the group. -/
def StopPhase.leads (pid : Pid) : StopPhase → Prop
  | .resuming leader _ | .interrupting leader _ => leader = pid
  | _ => True

theorem Steady.runner {m after : StandaloneManager} (steady : Steady m after) {pid : Pid} (live : m.live pid = true) :
    (after.groups.lookup pid).map (·.runner) = (m.groups.lookup pid).map (·.runner) := by
  obtain ⟨group, known, _⟩ := (Option.any_eq_true _ _).mp live
  obtain ⟨kept, looked, _, same⟩ := steady.group pid group known
  rw [known, looked, Option.map_some, Option.map_some, same]

namespace Standalone

def Held (s : Standalone) (pid : Pid) : Prop :=
  ∃ t thread, s.threads.lookup t = some thread ∧ thread.holds = some pid

instance (s : Standalone) (pid : Pid) : Decidable (s.Held pid) :=
  inferInstanceAs (Decidable (∃ t thread, s.threads.lookup t = some thread ∧ _))

/-- A lifecycle keeps its runner up, and a `Halt` holds a listener of its runner. -/
structure Attended (s : Standalone) : Prop where
  straight : ∀ t runner todo, s.threads.lookup t = some (.lifecycle runner todo) → Straight todo
  up : ∀ t runner todo, s.threads.lookup t = some (.lifecycle runner todo) → Ongoing todo →
    s.manager.processes.down runner = false
  halted : ∀ t runner phase pid, s.threads.lookup t = some (.stop runner phase) → phase.holds = some pid →
    s.manager.live pid = true →
    phase.leads pid ∧ (s.manager.groups.lookup pid).map (·.runner) = some runner

/-- One thread takes a step, or a new one begins. -/
theorem Attended.moved {s : Standalone} {t : ThreadID} {thread : Thread} {manager : StandaloneManager}
    (attended : Attended s)
    (downs : ∀ other name todo, other ≠ t → s.threads.lookup other = some (.lifecycle name todo) → Ongoing todo →
      manager.processes.down name = true → s.manager.processes.down name = true)
    (live : ∀ pid, manager.live pid = true → s.Held pid → s.manager.live pid = true ∧
      (manager.groups.lookup pid).map (·.runner) = (s.manager.groups.lookup pid).map (·.runner))
    (straight : ∀ runner todo, thread = .lifecycle runner todo → Straight todo)
    (up : ∀ runner todo, thread = .lifecycle runner todo → Ongoing todo → manager.processes.down runner = false)
    (halted : ∀ runner phase pid, thread = .stop runner phase → phase.holds = some pid →
      manager.live pid = true → phase.leads pid ∧ (manager.groups.lookup pid).map (·.runner) = some runner) :
    Attended (s.resume t thread manager) := by
  have looked (other : ThreadID) : (s.resume t thread manager).threads.lookup other =
      if other = t then some thread else s.threads.lookup other :=
    Map.lookup_insert_if _ _ _ _
  constructor
  · intro other runner todo found
    rw [looked] at found
    split at found
    · exact straight runner todo (Option.some.inj found)
    · exact attended.straight other runner todo found
  · intro other runner todo found ongoing
    rw [looked] at found
    split at found
    · exact up runner todo (Option.some.inj found) ongoing
    · next different =>
        have before := attended.up other runner todo found ongoing
        refine Bool.eq_false_iff.mpr fun down => ?_
        cases before.symm.trans (downs other runner todo different found ongoing down)
  · intro other runner phase pid found holds alive
    rw [looked] at found
    split at found
    · exact halted runner phase pid (Option.some.inj found) holds alive
    · obtain ⟨before, same⟩ := live pid alive ⟨other, _, found, holds⟩
      have ⟨leads, owner⟩ := attended.halted other runner phase pid found holds before
      exact ⟨leads, same.trans owner⟩

/-- A step that no thread takes. -/
theorem Attended.kept {s : Standalone} {manager : StandaloneManager} (attended : Attended s)
    (downs : ∀ name, manager.processes.down name = true → s.manager.processes.down name = true)
    (steady : Steady s.manager manager) : Attended { s with manager } := by
  constructor
  · exact attended.straight
  · intro t runner todo found ongoing
    refine Bool.eq_false_iff.mpr fun down => ?_
    cases (attended.up t runner todo found ongoing).symm.trans (downs runner down)
  · intro t runner phase pid found holds alive
    have before := steady.live pid alive
    have ⟨leads, owner⟩ := attended.halted t runner phase pid found holds before
    exact ⟨leads, (steady.runner before).trans owner⟩

theorem Attended.performs {s : Standalone} {t : ThreadID} {runner : RunnerName} {head : Section}
    {rest todo : List Section} {answer : Answer} {manager : StandaloneManager} (owned : Owned s)
    (attended : Attended s) (found : s.threads.lookup t = some (.lifecycle runner (head :: rest)))
    (performed : s.manager.perform runner answer head = some (manager, todo))
    (spared : ∀ pid ∈ head.forks answer, ¬s.Held pid) :
    Attended (s.resume t (.lifecycle runner (todo ++ rest)) manager) := by
  have straight := attended.straight t runner _ found
  have ⟨shape, nothing⟩ := perform_todo performed
  apply attended.moved
  · intro other name others different here ongoing down
    by_cases same : name = runner
    · subst same
      obtain ⟨later, member, _⟩ := ongoing
      cases others with
      | nil => cases member
      | cons next others => exact absurd (owned.single other t name next head others rest here found) different
    · rw [down_lookup, ((perform_frame performed).2 name same).1, ← down_lookup] at down
      exact down
  · intro pid live held
    have ⟨before, _, owner⟩ := perform_groups performed live fun forked => spared pid forked held
    exact ⟨before, owner⟩
  · rintro _ _ ⟨⟩
    cases slow : head.passing with
    | true =>
        rw [nothing (.inl slow)]
        exact (List.pairwise_cons.mp straight).2
    | false => exact shape.append (List.pairwise_cons.mp straight).2 (straight.ended slow)
  · rintro _ _ ⟨⟩ ⟨later, member, working⟩
    refine Bool.eq_false_iff.mpr fun down => ?_
    rcases perform_down performed down with before | ⟨slow, idle⟩
    · have ongoing : Ongoing (head :: rest) := by
        rcases List.mem_append.mp member with new | old
        · refine ⟨head, List.mem_cons_self, ?_⟩
          cases works : head.working with
          | true => rfl
          | false =>
              rw [nothing (.inr works)] at new
              cases new
        · exact ⟨later, List.mem_cons_of_mem _ old, working⟩
      cases (attended.up t runner _ found ongoing).symm.trans before
    · rw [nothing (.inr idle)] at member
      exact straight.ended slow ⟨later, member, working⟩
  · nofun

/-- What a `Halt` holds it has held before, unless it has just read it. -/
theorem advance_holds {m after : StandaloneManager} {runner : RunnerName} {answer : Answer} {phase next : StopPhase}
    {pid : Pid} (advanced : m.advance runner answer phase = some (after, next)) (holds : next.holds = some pid) :
    (phase.holds = some pid ∧ (phase.leads pid → next.leads pid)) ∨
      ∃ data, m.listenerData.lookup runner = some data ∧ data.pgid = pid ∧
        (data.cmd = some pid → next.leads pid) := by
  cases advance_advances advanced with
  | kill known cmd => exact .inr ⟨_, known, Option.some.inj holds, fun _ => trivial⟩
  | @resume data leader known cmd =>
      refine .inr ⟨data, known, Option.some.inj holds, fun same => ?_⟩
      exact Option.some.inj (cmd.symm.trans same)
  | resuming => exact .inl ⟨holds, id⟩
  | interrupting | polling | overdue => exact .inl ⟨holds, fun _ => trivial⟩
  | _ => cases holds

theorem Attended.advances {s : Standalone} {t : ThreadID} {runner : RunnerName} {answer : Answer}
    {phase next : StopPhase} {manager : StandaloneManager} (owned : Owned s) (attended : Attended s)
    (found : s.threads.lookup t = some (.stop runner phase))
    (advanced : s.manager.advance runner answer phase = some (manager, next)) :
    Attended (s.resume t (.stop runner next) manager) := by
  have steady := StandaloneManager.advance_steady advanced
  have same := (advance_frame advanced).1
  apply attended.moved
  · intro other name todo _ _ _ down
    rw [same] at down
    exact down
  · intro pid live _
    exact ⟨steady.live pid live, steady.runner (steady.live pid live)⟩
  · nofun
  · nofun
  · rintro _ _ pid ⟨⟩ holds alive
    have before := steady.live pid alive
    rw [steady.runner before]
    rcases advance_holds advanced holds with ⟨held, leads⟩ | ⟨data, looked, rfl, leads⟩
    · have ⟨led, owner⟩ := attended.halted t runner phase pid found held before
      exact ⟨leads led, owner⟩
    · obtain ⟨cmd, other, todo, attempt, here, serves⟩ := owned.owner runner data looked before
      obtain ⟨_, group, known, _, owner⟩ := (owned.sane other runner todo here).unreaped _ (serve_mem_owners serves)
      exact ⟨leads cmd, by rw [known, Option.map_some, owner]⟩

theorem down_sweep {m : StandaloneManager} {outcome : Finset Pid} {source goal : RunnerState} (sent : Signal)
    {spared : Finset RunnerName} {name : RunnerName} (up : goal.down = false)
    (down : (m.sweep outcome source goal sent spared).processes.down name = true) :
    m.processes.down name = true := by
  rw [down_lookup] at down ⊢
  change ((m.processes.mapValues _).lookup name).any _ = true at down
  rw [Map.lookup_mapValues, Option.any_map] at down
  cases known : m.processes.lookup name with
  | none =>
      rw [known] at down
      cases down
  | some process =>
      rw [known] at down
      change RunnerState.down (ProcessState.state (if _ then _ else _)) = true at down
      split at down
      · cases up.symm.trans down
      · exact down

theorem down_modify {processes : Processes} {runner name : RunnerName} {change : ProcessState → ProcessState}
    (keeps : ∀ process, (change process).state.down = true → process.state.down = true)
    (down : Processes.down (processes.modify runner change) name = true) : processes.down name = true := by
  rw [down_lookup, Map.lookup_modify] at down
  rw [down_lookup]
  split at down
  · cases known : processes.lookup name with
    | none =>
        rw [known] at down
        cases down
    | some process =>
        rw [known] at down
        exact keeps process down
  · exact down

theorem down_insert {processes after : Processes} {runner name : RunnerName} {entry : ProcessState}
    (up : entry.state.down = false) (same : after = processes.insert runner entry)
    (down : after.down name = true) : name ≠ runner ∧ processes.down name = true := by
  rw [same, down_lookup, Map.lookup_insert_if] at down
  split at down
  · cases up.symm.trans down
  · next different => exact ⟨different, down_lookup.trans down⟩

theorem busy_down (process : ProcessState) (down : process.busy.state.down = true) : process.state.down = true := by
  unfold ProcessState.busy at down
  dsimp only at down
  split at down
  · cases down
  · exact down

theorem idle_down {idleState : RunnerState} (up : idleState.down = false) (process : ProcessState)
    (down : (process.idle idleState).state.down = true) : process.state.down = true := by
  unfold ProcessState.idle at down
  dsimp only at down
  split at down
  · cases up.symm.trans down
  · exact down

theorem Attended.step {s after : Standalone} {call : Call} (owned : Owned s) (attended : Attended s)
    (spared : ∀ pid ∈ s.forks call, ¬s.Held pid) (taken : s.step call = some after) : Attended after := by
  cases call with
  | own event =>
      cases act_moves taken with
      | @start t runner processes fresh started =>
          obtain ⟨_, same⟩ := Processes.start_ok started
          have downs {name : RunnerName} : processes.down name = true → _ := down_insert rfl same
          apply attended.moved
          · intro _ name _ _ _ _ down
            exact (downs down).2
          · intro pid live _
            exact ⟨live, rfl⟩
          · rintro _ _ ⟨⟩
            exact List.pairwise_singleton _ _
          · rintro _ _ ⟨⟩ _
            exact Bool.eq_false_iff.mpr fun down => (downs down).1 rfl
          · nofun
      | @stop t runner force processes fresh stopped =>
          obtain ⟨process, _, same⟩ := Processes.stop_ok stopped
          have downs {name : RunnerName} : processes.down name = true → _ := down_insert rfl same
          apply attended.moved
          · intro _ name _ _ _ _ down
            exact (downs down).2
          · intro pid live _
            exact ⟨live, rfl⟩
          · nofun
          · nofun
          · rintro _ _ pid ⟨⟩ holds
            cases holds
      | @perform t answer runner head todo rest manager found performed =>
          apply attended.performs owned found performed
          intro pid forked
          apply spared pid
          simp only [forks, found]
          exact forked
      | advance found advanced => exact attended.advances owned found advanced
      | exit alive => exact attended.kept (fun _ down => down) (StandaloneManager.exit_steady _ _)
  | lockOthers outcome activeRunners =>
      cases taken
      exact attended.kept (fun _ => down_sweep .stop rfl) (.of_signal rfl rfl)
  | unlockOthers outcome =>
      cases taken
      exact attended.kept (fun _ => down_sweep .cont rfl) (.of_signal rfl rfl)
  | markBusy runner =>
      cases taken
      exact attended.kept (fun _ => down_modify busy_down) (.of_groups rfl fun _ => rfl)
  | markIdle runner =>
      cases taken
      refine attended.kept (fun _ => down_modify (idle_down ?_)) (.of_groups rfl fun _ => rfl)
      split <;> rfl

theorem ongoing_of_owner {todo : List Section} {pid : Pid} (member : pid ∈ owners todo) : Ongoing todo := by
  obtain ⟨task, mine, owns⟩ := List.mem_filterMap.mp member
  refine ⟨task, mine, ?_⟩
  unfold Section.owned at owns
  split at owns
  · rfl
  · rfl
  · rfl
  · cases owns

/-- A `Halt` lets go of a listener only when it is dead. -/
theorem Attended.returns {s : Standalone} {t : ThreadID} {runner : RunnerName} {answer : Answer}
    {phase next : StopPhase} {manager : StandaloneManager} {pid : Pid} (owned : Owned s) (attended : Attended s)
    (found : s.threads.lookup t = some (.stop runner phase)) (holds : phase.holds = some pid)
    (advanced : s.manager.advance runner answer phase = some (manager, next))
    (live : manager.live pid = true) : next.holds = some pid := by
  have before := (StandaloneManager.advance_steady advanced).live pid live
  have ⟨leads, owner⟩ := attended.halted t runner phase pid found holds before
  have killed (same : manager = s.manager.signal {pid} .kill) : False := by
    rw [same, StandaloneManager.live_signal, before] at live
    simp at live
  cases advance_advances advanced with
  | resuming | interrupting | polling | overdue => exact holds
  | killing | expiring =>
      cases holds
      exact (killed rfl).elim
  | @missed leader pgid lost =>
      rw [show leader = pid from leads, StandaloneManager.answers, before, Bool.true_or] at lost
      cases lost
  | offline state =>
      -- The thread that serves the listener would have a runner that is down.
      obtain ⟨other, name, todo, here, member⟩ := owned.alive pid before
      obtain ⟨_, group, known, _, mine⟩ := (owned.sane other name todo here).unreaped pid member
      rw [known, Option.map_some, mine] at owner
      have up := attended.up other name todo here (ongoing_of_owner member)
      rw [Option.some.inj owner] at up
      unfold Processes.down at up
      rw [state] at up
      cases up
  | _ => cases holds

theorem new_attended : Attended .new := by
  constructor
  · intro t runner todo found
    cases found
  · intro t runner todo found
    cases found
  · intro t runner phase pid found
    cases found

end Standalone

end RunnersMux
