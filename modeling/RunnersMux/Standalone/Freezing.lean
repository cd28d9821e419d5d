import RunnersMux.Standalone.Orderly

/-! Whoever stops a listener leaves something behind that resumes it.

A stopped listener is accounted for in one of three ways: its runner is Paused,
so that `UnlockOthers` will signal it; its launch has yet to make the transition
to Paused; or a `Halt` is about to resume or kill it. The middle one is where
the checked transition of `launchListener` can be rejected and lose track of it.
-/

set_option autoImplicit false

namespace RunnersMux

open Foundations

/-- The listeners that a thread will wait for. -/
def served (todo : List Section) : List Pid :=
  todo.filterMap fun
    | .serve pid _ => some pid
    | _ => none

theorem mem_served {todo : List Section} {pid : Pid} :
    pid ∈ served todo ↔ ∃ attempt, .serve pid attempt ∈ todo := by
  unfold served
  rw [List.mem_filterMap]
  constructor
  · rintro ⟨task, member, named⟩
    cases task <;> cases named
    exact ⟨_, member⟩
  · rintro ⟨attempt, member⟩
    exact ⟨_, member, rfl⟩

/-- A launch that has stopped its listener and not yet made the transition. -/
def Thread.freezing (pid : Pid) : Thread → Bool
  | .lifecycle _ (.transition .paused :: rest) => decide (pid ∈ served rest)
  | _ => false

/-- A `Halt` that is going to resume or kill the listener. -/
def StandaloneManager.halting (m : StandaloneManager) (pid : Pid) : Thread → Bool
  | .stop runner (.halting _) =>
      (m.listenerData.lookup runner).any fun data => data.cmd = some pid ∧ data.pgid = pid
  | .stop _ (.killing pgid) | .stop _ (.resuming _ pgid) => decide (pgid = pid)
  | _ => false

theorem StandaloneManager.halting_iff {m : StandaloneManager} {pid : Pid} {thread : Thread} :
    m.halting pid thread = true ↔
      (∃ runner force data, thread = .stop runner (.halting force) ∧ m.listenerData.lookup runner = some data ∧
        data.cmd = some pid ∧ data.pgid = pid) ∨
      (∃ runner, thread = .stop runner (.killing pid)) ∨ ∃ runner other, thread = .stop runner (.resuming other pid) := by
  constructor
  · intro halts
    unfold StandaloneManager.halting at halts
    split at halts
    · next runner force =>
        obtain ⟨data, looked, both⟩ := (Option.any_eq_true _ _).mp halts
        have ⟨cmd, pgid⟩ := of_decide_eq_true both
        exact .inl ⟨runner, force, data, rfl, looked, cmd, pgid⟩
    · next runner pgid =>
        cases of_decide_eq_true halts
        exact .inr (.inl ⟨runner, rfl⟩)
    · next runner other pgid =>
        cases of_decide_eq_true halts
        exact .inr (.inr ⟨runner, other, rfl⟩)
    · exact absurd halts Bool.false_ne_true
  · rintro (⟨runner, force, data, rfl, looked, cmd, pgid⟩ | ⟨runner, rfl⟩ | ⟨runner, other, rfl⟩)
    · exact (Option.any_eq_true _ _).mpr ⟨data, looked, decide_eq_true ⟨cmd, pgid⟩⟩
    · exact decide_eq_true rfl
    · exact decide_eq_true rfl

namespace Standalone

def Recorded (s : Standalone) (pid : Pid) : Prop := ∃ runner, s.manager.target .paused runner = some pid

def Freezing (s : Standalone) (pid : Pid) : Prop :=
  ∃ t thread, s.threads.lookup t = some thread ∧ thread.freezing pid = true

def Halting (s : Standalone) (pid : Pid) : Prop :=
  ∃ t thread, s.threads.lookup t = some thread ∧ s.manager.halting pid thread = true

instance (s : Standalone) (pid : Pid) : Decidable (s.Halting pid) :=
  inferInstanceAs (Decidable (∃ t thread, s.threads.lookup t = some thread ∧ _))

/-- The section that a call runs, and what its thread runs after it. -/
def turn (s : Standalone) : Call → Option (RunnerName × Section × List Section)
  | .own (.run t _) =>
      match s.threads.lookup t with
      | some (.lifecycle runner (head :: rest)) => some (runner, head, rest)
      | _ => none
  | _ => none

/-- The runner that a call would take out of Paused. -/
def unpauses (s : Standalone) : Call → Option RunnerName
  | .markBusy runner => some runner
  | call =>
      match s.turn call with
      | some (runner, .transition goal, _) => if goal ∈ validTransitions .paused then some runner else none
      | _ => none

/-- What keeps a stopped listener from being forgotten. The transition to Paused
that follows the signal of a launch is accepted, under the pause that caused it,
or a `Halt` will see to the listener; and no runner is moved from Paused while
its listener is stopped. -/
structure Resumable (s : Standalone) (call : Call) : Prop where
  orderly : Orderly s call
  accepted : ∀ turn ∈ s.turn call, turn.2.1 = .transition .paused →
    ∀ pid ∈ served turn.2.2, s.manager.stopped pid = true →
      (s.manager.globalPaused = true ∧ (s.manager.processes.getState turn.1 = some .online ∨
        s.manager.processes.getState turn.1 = some .paused)) ∨ s.Halting pid
  held : ∀ runner ∈ s.unpauses call, ∀ pid ∈ s.manager.target .paused runner, s.manager.stopped pid = false

instance (s : Standalone) (call : Call) : Decidable (Resumable s call) :=
  decidable_of_iff (_ ∧ _ ∧ _) ⟨fun all => ⟨all.1, all.2.1, all.2.2⟩, fun resumable =>
    ⟨resumable.orderly, resumable.accepted, resumable.held⟩⟩

/-- Every stopped listener is accounted for, without the pause by a thread that
is about to deal with it. -/
structure Thawable (s : Standalone) : Prop where
  explained : ∀ pid, s.manager.stopped pid = true → s.Recorded pid ∨ s.Freezing pid ∨ s.Halting pid
  freed : s.manager.globalPaused = false → ∀ pid, s.manager.stopped pid = true →
    s.Freezing pid ∨ s.Halting pid

/-- What a step does to a listener that it finds stopped, and to what accounts for it. -/
structure Carries (s after : Standalone) (pid : Pid) : Prop where
  stopped : s.manager.stopped pid = true
  recorded : s.Recorded pid → after.Recorded pid ∨ after.Halting pid
  freezing : s.Freezing pid → after.Freezing pid ∨ after.Halting pid ∨
    after.manager.globalPaused = true ∧ after.Recorded pid
  halting : s.Halting pid → after.Halting pid

theorem Thawable.carried {s after : Standalone} (thawable : Thawable s)
    (carries : ∀ pid, after.manager.stopped pid = true → after.Freezing pid ∨ Carries s after pid)
    (pause : after.manager.globalPaused = s.manager.globalPaused) : Thawable after := by
  constructor
  · intro pid stopped
    rcases carries pid stopped with freezing | carry
    · exact .inr (.inl freezing)
    · rcases thawable.explained pid carry.stopped with recorded | freezing | halting
      · exact (carry.recorded recorded).imp_right .inr
      · rcases carry.freezing freezing with still | halting | ⟨_, recorded⟩
        · exact .inr (.inl still)
        · exact .inr (.inr halting)
        · exact .inl recorded
      · exact .inr (.inr (carry.halting halting))
  · intro open_ pid stopped
    rcases carries pid stopped with freezing | carry
    · exact .inl freezing
    · rcases thawable.freed (pause ▸ open_) pid carry.stopped with freezing | halting
      · rcases carry.freezing freezing with still | halting | ⟨paused, _⟩
        · exact .inl still
        · exact .inr halting
        · cases open_.symm.trans paused
      · exact .inr (carry.halting halting)

/-- A Paused runner whose entry and record keep what `UnlockOthers` reads of them. -/
theorem Recorded.kept {s after : Standalone} {pid : Pid} (recorded : s.Recorded pid)
    (keeps : ∀ name process data, s.manager.processes.lookup name = some process → process.state = .paused →
      s.manager.listenerData.lookup name = some data → data.pgid = pid →
      (∃ entry, after.manager.processes.lookup name = some entry ∧ entry.state = .paused) ∧
        ∃ written, after.manager.listenerData.lookup name = some written ∧ written.pgid = pid) :
    after.Recorded pid := by
  obtain ⟨name, aimed⟩ := recorded
  obtain ⟨process, data, found, looked, paused, pgid, nonzero⟩ := StandaloneManager.target_some.mp aimed
  obtain ⟨⟨entry, entered, state⟩, written, wrote, same⟩ := keeps name process data found paused looked pgid
  exact ⟨name, StandaloneManager.target_some.mpr ⟨entry, written, entered, wrote, state, same, nonzero⟩⟩

theorem Freezing.lifecycle {thread : Thread} {pid : Pid} (freezing : thread.freezing pid = true) :
    ∃ runner rest, thread = .lifecycle runner (.transition .paused :: rest) ∧ pid ∈ served rest := by
  unfold Thread.freezing at freezing
  split at freezing
  · exact ⟨_, _, rfl, of_decide_eq_true freezing⟩
  · cases freezing

/-- A `Halt` of another thread goes on if the record it reads is kept. -/
theorem Halting.kept {s after : Standalone} {pid : Pid} {t : ThreadID} {thread : Thread}
    (found : after.threads.lookup t = some thread) (halts : s.manager.halting pid thread = true)
    (keeps : ∀ runner data, s.manager.listenerData.lookup runner = some data → data.cmd = some pid →
      data.pgid = pid → ∃ written, after.manager.listenerData.lookup runner = some written ∧
        written.cmd = some pid ∧ written.pgid = pid) : after.Halting pid := by
  refine ⟨t, thread, found, StandaloneManager.halting_iff.mpr ?_⟩
  rcases StandaloneManager.halting_iff.mp halts with ⟨runner, force, data, same, looked, cmd, pgid⟩ | later
  · obtain ⟨written, wrote, both⟩ := keeps runner data looked cmd pgid
    exact .inl ⟨runner, force, written, same, wrote, both⟩
  · exact .inr later

/-- The record of a stopped listener survives the sections of its runner that
are not quick: they run while no live listener is recorded. -/
theorem Carries.perform {s : Standalone} {t : ThreadID} {runner : RunnerName} {head : Section}
    {rest todo : List Section} {answer : Answer} {manager : StandaloneManager} {pid : Pid} (owned : Owned s)
    (found : s.threads.lookup t = some (.lifecycle runner (head :: rest)))
    (performed : s.manager.perform runner answer head = some (manager, todo))
    (accepted : head = .transition .paused → pid ∈ served rest → s.manager.stopped pid = true →
      (s.manager.globalPaused = true ∧ (s.manager.processes.getState runner = some .online ∨
        s.manager.processes.getState runner = some .paused)) ∨ s.Halting pid)
    (held : ∀ goal, head = .transition goal → goal ∈ validTransitions .paused →
      s.manager.target .paused runner = some pid → s.manager.stopped pid = false)
    (stopped : manager.stopped pid = true) :
    (s.resume t (.lifecycle runner (todo ++ rest)) manager).Freezing pid ∨
      Carries s (s.resume t (.lifecycle runner (todo ++ rest)) manager) pid := by
  have looked (other : ThreadID) : (s.resume t (.lifecycle runner (todo ++ rest)) manager).threads.lookup other =
      if other = t then some (.lifecycle runner (todo ++ rest)) else s.threads.lookup other :=
    Map.lookup_insert_if _ _ _ _
  rcases perform_stopped performed stopped with ⟨before, serves⟩ | ⟨caller, rfl⟩
  · right
    have frame := perform_frame performed
    have alive := StandaloneManager.stopped_live before
    have quick (data : ListenerData) (recorded : s.manager.listenerData.lookup runner = some data)
        (same : data.pgid = pid) : head.quick = true := by
      cases slow : head.quick with
      | true => rfl
      | false =>
          subst same
          cases alive.symm.trans (owned.dead found slow serves recorded)
    -- Every record of the listener, the other runners' and this one's, is kept.
    have keeps (name : RunnerName) (data : ListenerData)
        (recorded : s.manager.listenerData.lookup name = some data) (same : data.pgid = pid) :
        manager.listenerData.lookup name = some data := by
      by_cases mine : name = runner
      · subst mine
        rcases Section.quick_cases (quick data recorded same) with ⟨goal, rfl, _⟩ | ⟨text, rfl⟩ <;>
          cases performed <;> exact recorded
      · rw [(frame.2 name mine).2, recorded]
    have halting (halts : s.Halting pid) :
        (s.resume t (.lifecycle runner (todo ++ rest)) manager).Halting pid := by
      obtain ⟨other, thread, here, halts⟩ := halts
      have different : other ≠ t := by
        rintro rfl
        cases found.symm.trans here
        cases halts
      apply Halting.kept ((looked other).trans (if_neg different |>.trans here)) halts
      intro name data recorded cmd pgid
      exact ⟨data, keeps name data recorded pgid, cmd, pgid⟩
    constructor
    · exact before
    · intro recorded
      left
      have nonzero : pid ≠ 0 := by
        obtain ⟨_, aimed⟩ := recorded
        obtain ⟨_, _, _, _, _, _, nonzero⟩ := StandaloneManager.target_some.mp aimed
        exact nonzero
      apply Recorded.kept recorded
      intro name process data known paused record pgid
      refine ⟨?_, data, keeps name data record pgid, pgid⟩
      by_cases mine : name = runner
      · subst mine
        have aimed : s.manager.target .paused name = some pid :=
          StandaloneManager.target_some.mpr ⟨process, data, known, record, paused, pgid, nonzero⟩
        rcases Section.quick_cases (quick data record pgid) with ⟨goal, rfl, _⟩ | ⟨text, rfl⟩ <;>
          cases performed
        · refine ⟨process, ?_, paused⟩
          change (s.manager.processes.transitioned name goal).lookup name = some process
          rw [Processes.lookup_transitioned, if_pos rfl, known, Option.map_some, paused]
          -- A goal that the table allows from Paused would move a stopped listener.
          rw [if_neg]
          intro allowed
          cases before.symm.trans (held goal rfl allowed aimed)
        · refine ⟨{ process with error := text }, ?_, paused⟩
          change (s.manager.processes.setError name text).lookup name = _
          rw [Processes.setError, Map.lookup_modify, if_pos rfl, known]
          rfl
      · exact ⟨process, (frame.2 name mine).1.trans known, paused⟩
    · rintro ⟨other, thread, here, freezes⟩
      by_cases same : other = t
      · subst same
        cases found.symm.trans here
        obtain ⟨_, _, shape, waits⟩ := Freezing.lifecycle freezes
        cases shape
        rcases accepted rfl waits before with ⟨paused, state⟩ | halts
        · obtain ⟨attempt, member⟩ := mem_served.mp waits
          have sane := owned.sane _ _ _ here
          have later := List.mem_cons_of_mem (Section.transition .paused) member
          obtain ⟨data, record, _, pgid⟩ := sane.recorded pid attempt later
          have nonzero := (sane.unreaped pid (serve_mem_owners later)).1
          cases performed
          have arrived : ∃ entry, (s.manager.processes.transitioned runner .paused).lookup runner = some entry ∧
              entry.state = .paused := by
            rcases state with online | still
            · exact Processes.transitioned_arrives online (.inl (by decide))
            · exact Processes.transitioned_arrives still (.inr rfl)
          obtain ⟨entry, entered, moved⟩ := arrived
          refine .inr (.inr ⟨paused, runner, StandaloneManager.target_some.mpr ?_⟩)
          exact ⟨entry, data, entered, record, moved, pgid, nonzero⟩
        · exact .inr (.inl (halting halts))
      · exact .inl ⟨other, thread, (looked other).trans (if_neg same |>.trans here), freezes⟩
    · exact halting
  · left
    refine ⟨t, _, (looked t).trans (if_pos rfl), decide_eq_true ?_⟩
    exact mem_served.mpr ⟨caller.attempt, List.mem_append_left _ (by simp)⟩

/-- A step that leaves the records of a stopped listener. -/
theorem Carries.frame {s after : Standalone} {pid : Pid} (stopped : s.manager.stopped pid = true)
    (threads : ∀ t thread, s.threads.lookup t = some thread → thread.freezing pid = true ∨
      s.manager.halting pid thread = true → after.threads.lookup t = some thread ∨ after.Halting pid)
    (steady : Steady s.manager after.manager)
    (states : ∀ name process, s.manager.target .paused name = some pid →
      s.manager.processes.lookup name = some process → process.state = .paused →
      (∃ entry, after.manager.processes.lookup name = some entry ∧ entry.state = .paused) ∨ after.Halting pid) :
    Carries s after pid := by
  constructor
  · exact stopped
  · rintro ⟨name, aimed⟩
    obtain ⟨process, data, found, looked, paused, pgid, nonzero⟩ := StandaloneManager.target_some.mp aimed
    rcases states name process aimed found paused with ⟨entry, entered, state⟩ | halts
    · obtain ⟨written, wrote, _, same⟩ := steady.forth looked
      left
      exact ⟨name, StandaloneManager.target_some.mpr
        ⟨entry, written, entered, wrote, state, same.trans pgid, nonzero⟩⟩
    · exact .inr halts
  · rintro ⟨t, thread, found, freezes⟩
    rcases threads t thread found (.inl freezes) with kept | halts
    · exact .inl ⟨t, thread, kept, freezes⟩
    · exact .inr (.inl halts)
  · rintro ⟨t, thread, found, halts⟩
    rcases threads t thread found (.inr halts) with kept | halts
    · apply Halting.kept kept halts
      intro runner data looked cmd pgid
      obtain ⟨written, wrote, same, also⟩ := steady.forth looked
      exact ⟨written, wrote, same.trans cmd, also.trans pgid⟩
    · exact halts

end Standalone

namespace StandaloneManager

variable {m after : StandaloneManager} {runner : RunnerName} {answer : Answer} {phase next : StopPhase}

/-- `SIGCONT` and `SIGKILL` leave none of their listeners stopped, and `SIGINT` stops none. -/
theorem stopped_signalled (pgid : Pid) (sent : Signal) (other : sent ≠ .stop) {pid : Pid}
    (kept : (m.signal {pgid} sent).stopped pid = true) : m.stopped pid = true ∧ (sent ≠ .int → pgid ≠ pid) := by
  rw [stopped_signal] at kept
  split at kept
  · cases sent with
    | stop => exact absurd rfl other
    | int => exact ⟨(Bool.and_eq_true_iff.mp kept).2, fun different => absurd rfl different⟩
    | cont => cases (Bool.and_false _).symm.trans kept
    | kill => cases (Bool.and_false _).symm.trans kept
  · next missed =>
      refine ⟨kept, fun _ same => missed ?_⟩
      rw [same]
      exact Finset.mem_singleton_self pid

/-- A `Halt` stops nothing, and drops no listener that is still stopped. -/
theorem advance_stopped (advanced : m.advance runner answer phase = some (after, next)) {pid : Pid}
    (stopped : after.stopped pid = true) : m.stopped pid = true ∧
      (m.halting pid (.stop runner phase) = true → after.halting pid (.stop runner next) = true) := by
  have done (other : m.halting pid (.stop runner phase) = false) :
      m.halting pid (.stop runner phase) = true → after.halting pid (.stop runner next) = true :=
    fun halts => Bool.noConfusion (other.symm.trans halts)
  -- What the locked section finds is what it goes on to signal.
  have finds {force : Bool} (shape : phase = .halting force) (halts : m.halting pid (.stop runner phase) = true) :
      ∃ data, m.listenerData.lookup runner = some data ∧ data.cmd = some pid ∧ data.pgid = pid := by
    subst shape
    rcases halting_iff.mp halts with ⟨_, _, data, same, looked, cmd, pgid⟩ | ⟨_, same⟩ | ⟨_, _, same⟩
    · cases same
      exact ⟨data, looked, cmd, pgid⟩
    · cases same
    · cases same
  cases advance_advances advanced with
  | missing absent =>
      refine ⟨stopped, fun halts => ?_⟩
      obtain ⟨data, looked, _⟩ := finds rfl halts
      cases absent.symm.trans looked
  | kill known cmd =>
      refine ⟨stopped, fun halts => halting_iff.mpr (.inr (.inl ⟨runner, ?_⟩))⟩
      obtain ⟨data, looked, _, rfl⟩ := finds rfl halts
      cases known.symm.trans looked
      rfl
  | @resume _ leader known cmd =>
      refine ⟨stopped, fun halts => halting_iff.mpr (.inr (.inr ⟨runner, leader, ?_⟩))⟩
      obtain ⟨data, looked, _, rfl⟩ := finds rfl halts
      cases known.symm.trans looked
      rfl
  | cancel known dead | idle known dead =>
      refine ⟨stopped, fun halts => ?_⟩
      obtain ⟨data, looked, cmd, _⟩ := finds rfl halts
      cases known.symm.trans looked
      cases dead.symm.trans cmd
  | @killing pgid error =>
      have ⟨before, different⟩ := stopped_signalled pgid .kill nofun stopped
      exact ⟨before, fun halts => absurd (of_decide_eq_true halts) (different nofun)⟩
  | @resuming other pgid =>
      have ⟨before, different⟩ := stopped_signalled pgid .cont nofun stopped
      exact ⟨before, fun halts => absurd (of_decide_eq_true halts) (different nofun)⟩
  | @interrupting other | @missed other =>
      exact ⟨(stopped_signalled other .int nofun stopped).1, done rfl⟩
  | @expiring pgid => exact ⟨(stopped_signalled pgid .kill nofun stopped).1, done rfl⟩
  | _ => exact ⟨stopped, done rfl⟩

end StandaloneManager

end RunnersMux
