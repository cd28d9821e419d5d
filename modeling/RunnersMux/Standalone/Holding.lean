import RunnersMux.Standalone.Halts

/-! What a pause still has to stop.

A listener is loose if it is live, runs, and no `Halt` is dealing with it. Under
a pause a loose listener of an idle runner is a debt, and so is one whose runner
is Paused already: an evaluation of the capacity has yet to come. Whether one is
owed is a parameter here.
-/

set_option autoImplicit false

namespace RunnersMux

open Foundations

/-- A launch that has yet to make the transition to Online. -/
def Thread.thawing (pid : Pid) : Thread → Bool
  | .lifecycle _ (.transition .online :: rest) => decide (pid ∈ served rest)
  | _ => false

theorem Thread.thawing_lifecycle {thread : Thread} {pid : Pid} (thaws : thread.thawing pid = true) :
    ∃ runner rest, thread = .lifecycle runner (.transition .online :: rest) ∧ pid ∈ served rest := by
  unfold thawing at thaws
  split at thaws
  · exact ⟨_, _, rfl, of_decide_eq_true thaws⟩
  · cases thaws

/-- Without a job and not on its way out. -/
def ProcessState.waits (process : ProcessState) : Prop :=
  process.state ≠ .draining ∧ process.activeWorkers = 0

instance (process : ProcessState) : Decidable process.waits := inferInstanceAs (Decidable (_ ∧ _))

namespace Standalone

def Thawing (s : Standalone) (pid : Pid) : Prop :=
  ∃ t thread, s.threads.lookup t = some thread ∧ thread.thawing pid = true

structure Loose (s : Standalone) (pid : Pid) : Prop where
  live : s.manager.live pid = true
  runs : s.manager.stopped pid = false
  free : ¬s.Held pid

instance (s : Standalone) (pid : Pid) : Decidable (s.Loose pid) :=
  decidable_of_iff (_ ∧ _ ∧ _) ⟨fun all => ⟨all.1, all.2.1, all.2.2⟩, fun loose =>
    ⟨loose.live, loose.runs, loose.free⟩⟩

/-- Every loose listener that the pause should hold is owed an evaluation. -/
structure Tight (owed : Prop) (s : Standalone) : Prop where
  paused : ∀ runner data process, s.manager.listenerData.lookup runner = some data →
    s.manager.processes.lookup runner = some process → s.Loose data.pgid → process.state = .paused →
    s.Thawing data.pgid ∨ s.manager.globalPaused = true ∧ process.activeWorkers = 0 ∧ owed
  idle : ∀ runner data process, s.manager.listenerData.lookup runner = some data →
    s.manager.processes.lookup runner = some process → s.Loose data.pgid → s.manager.globalPaused = true →
    process.waits → owed

/-- An entry and its listener that were as they are before a step. -/
structure Inherits (s after : Standalone) (runner : RunnerName) (pid : Pid) (process : ProcessState) : Prop where
  data : ∃ before, s.manager.listenerData.lookup runner = some before ∧ before.pgid = pid
  loose : s.Loose pid
  entry : ∃ before, s.manager.processes.lookup runner = some before ∧ before.activeWorkers = process.activeWorkers ∧
    (process.state = .paused → before.state = .paused ∧ (s.Thawing pid → after.Thawing pid)) ∧
    (before.state = .draining → process.state = .draining)

variable {owed : Prop} {s after : Standalone}

theorem Tight.carried (tight : Tight owed s) (pause : after.manager.globalPaused = s.manager.globalPaused)
    (carries : ∀ runner data process, after.manager.listenerData.lookup runner = some data →
      after.manager.processes.lookup runner = some process → after.Loose data.pgid →
      process.state = .draining ∨ (s.manager.globalPaused = false ∧ after.Thawing data.pgid) ∨
        Inherits s after runner data.pgid process) : Tight owed after := by
  constructor
  · intro runner data process recorded known loose paused
    rcases carries runner data process recorded known loose with draining | ⟨_, thaws⟩ | inherits
    · cases paused.symm.trans draining
    · exact .inl thaws
    · obtain ⟨before, looked, same⟩ := inherits.data
      obtain ⟨entry, found, workers, states, _⟩ := inherits.entry
      have ⟨was, keeps⟩ := states paused
      rcases tight.paused runner before entry looked found (same ▸ inherits.loose) was with thaws | ⟨held, none_, owes⟩
      · exact .inl (keeps (same ▸ thaws))
      · exact .inr ⟨pause.trans held, workers ▸ none_, owes⟩
  · intro runner data process recorded known loose held waits
    rcases carries runner data process recorded known loose with draining | ⟨open_, _⟩ | inherits
    · exact absurd draining waits.1
    · cases open_.symm.trans (pause.symm.trans held)
    · obtain ⟨before, looked, same⟩ := inherits.data
      obtain ⟨entry, found, workers, _, drains⟩ := inherits.entry
      exact tight.idle runner before entry looked found (same ▸ inherits.loose) (pause.symm.trans held)
        ⟨fun draining => waits.1 (drains draining), workers.trans waits.2⟩

/-- A step that leaves the runner's entry and record alone. -/
theorem Inherits.same {runner : RunnerName} {pid : Pid} {data : ListenerData} {process : ProcessState}
    (recorded : s.manager.listenerData.lookup runner = some data) (pgid : data.pgid = pid)
    (known : s.manager.processes.lookup runner = some process) (loose : s.Loose pid)
    (thawing : s.Thawing pid → after.Thawing pid) : Inherits s after runner pid process where
  data := ⟨data, recorded, pgid⟩
  loose := loose
  entry := ⟨process, known, rfl, fun paused => ⟨paused, thawing⟩, id⟩

section
variable {t : ThreadID} {thread : Thread} {manager : StandaloneManager} {pid : Pid}

/-- A new thread, or one that has let go of nothing. -/
theorem held_resume (lets : ∀ old, s.threads.lookup t = some old → old.holds = some pid → thread.holds = some pid)
    (held : s.Held pid) : (s.resume t thread manager).Held pid := by
  obtain ⟨other, old, found, holds⟩ := held
  by_cases same : other = t
  · subst same
    exact ⟨other, thread, (lookup_resume other).trans (if_pos rfl), lets old found holds⟩
  · exact ⟨other, old, (lookup_resume other).trans ((if_neg same).trans found), holds⟩

theorem thawing_resume (lets : ∀ old, s.threads.lookup t = some old → old.thawing pid = true → thread.thawing pid = true)
    (thaws : s.Thawing pid) : (s.resume t thread manager).Thawing pid := by
  obtain ⟨other, old, found, thaws⟩ := thaws
  by_cases same : other = t
  · subst same
    exact ⟨other, thread, (lookup_resume other).trans (if_pos rfl), lets old found thaws⟩
  · exact ⟨other, old, (lookup_resume other).trans ((if_neg same).trans found), thaws⟩

end

/-- A thread that serves a listener after a step has launched it in the step, or
served it before. -/
theorem perform_serves {m after : StandaloneManager} {runner : RunnerName} {answer : Answer} {head : Section}
    {todo : List Section} (performed : m.perform runner answer head = some (after, todo)) {pid : Pid} {attempt : Nat}
    (serves : .serve pid attempt ∈ todo) :
    ∃ caller, head = .record caller pid ∧ Records m runner caller pid answer.outcome after todo := by
  have owns := serve_mem_owners serves
  cases perform_performs performed with
  | @record caller own _ _ records =>
      have mine : pid = own := by
        cases records with
        | cancelled => cases List.mem_singleton.mp serves
        | _ => exact List.mem_singleton.mp owns
      rw [mine]
      exact ⟨caller, rfl, records⟩
  | spawn clean nonzero free => cases List.mem_singleton.mp serves
  | spawnFail | abort =>
      rw [owners_failure] at owns
      cases owns
  | _ => cases owns

/-- The thread that serves a listener is the only one with a transition before it. -/
theorem Owned.thawing {t : ThreadID} {runner : RunnerName} {head : Section} {rest : List Section} {pid : Pid}
    {attempt : Nat} (owned : Owned s) (found : s.threads.lookup t = some (.lifecycle runner (head :: rest)))
    (serves : .serve pid attempt ∈ head :: rest) (thaws : s.Thawing pid) : head = .transition .online := by
  obtain ⟨other, thread, there, thaws⟩ := thaws
  obtain ⟨name, others, rfl, served⟩ := Thread.thawing_lifecycle thaws
  obtain ⟨_, also⟩ := mem_served.mp served
  have equal := owned.apart t other runner name _ _ pid found there (serve_mem_owners serves)
    (serve_mem_owners (List.mem_cons_of_mem _ also))
  subst equal
  cases found.symm.trans there
  rfl

section
variable {t : ThreadID} {runner : RunnerName} {head : Section} {rest todo : List Section} {answer : Answer}
  {manager : StandaloneManager} {data : ListenerData} {process : ProcessState}

/-- A section of one runner and the listener of another. -/
theorem Inherits.other {name : RunnerName} (owned : Owned s)
    (found : s.threads.lookup t = some (.lifecycle runner (head :: rest)))
    (performed : s.manager.perform runner answer head = some (manager, todo)) (different : name ≠ runner)
    (old : data.pgid ∉ head.forks answer) (recorded : manager.listenerData.lookup name = some data)
    (known : manager.processes.lookup name = some process) (live : manager.live data.pgid = true)
    (runs : manager.stopped data.pgid = false) (free : ¬s.Held data.pgid) :
    Inherits s (s.resume t (.lifecycle runner (todo ++ rest)) manager) name data.pgid process := by
  have ⟨entry, record⟩ := (perform_frame performed).2 name different
  rw [record] at recorded
  obtain ⟨before, keeps, _⟩ := perform_groups performed live old
  have ran : s.manager.stopped data.pgid = false := by
    cases stopped : s.manager.stopped data.pgid with
    | false => rfl
    | true => cases (keeps stopped).symm.trans runs
  apply Inherits.same recorded rfl (entry.symm.trans known) ⟨before, ran, free⟩
  apply thawing_resume
  intro thread here thaws
  cases found.symm.trans here
  obtain ⟨_, _, shape, served⟩ := Thread.thawing_lifecycle thaws
  cases shape
  obtain ⟨_, also⟩ := mem_served.mp served
  obtain ⟨_, other, others, attempt, there, serves⟩ := owned.owner name data recorded before
  have equal := owned.apart t other runner name _ others data.pgid found there
    (serve_mem_owners (List.mem_cons_of_mem _ also)) (serve_mem_owners serves)
  subst equal
  cases found.symm.trans there
  exact absurd rfl different

/-- A section between the launch of a listener and `Wait`. -/
theorem Inherits.quick {attempt : Nat} (owned : Owned s)
    (found : s.threads.lookup t = some (.lifecycle runner (head :: rest))) (quick : head.quick = true)
    (serves : .serve data.pgid attempt ∈ rest)
    (performed : s.manager.perform runner answer head = some (manager, todo))
    (frozen : head = .transition .paused → s.manager.processes.getState runner = some .online →
      ∀ pid ∈ served rest, ¬s.Loose pid)
    (recorded : manager.listenerData.lookup runner = some data)
    (known : manager.processes.lookup runner = some process) (live : manager.live data.pgid = true)
    (runs : manager.stopped data.pgid = false) (free : ¬s.Held data.pgid) :
    Inherits s (s.resume t (.lifecycle runner (todo ++ rest)) manager) runner data.pgid process := by
  have mine := owned.thawing found (List.mem_cons_of_mem head serves)
  rcases Section.quick_cases quick with ⟨goal, rfl, goals⟩ | ⟨text, rfl⟩
  · cases performed
    have before : s.Loose data.pgid := ⟨live, runs, free⟩
    change (s.manager.processes.transitioned runner goal).lookup runner = some process at known
    rw [Processes.lookup_transitioned, if_pos rfl] at known
    obtain ⟨entry, entered, moved⟩ := Option.map_eq_some_iff.mp known
    refine ⟨⟨data, recorded, rfl⟩, before, entry, entered, ?_, ?_, ?_⟩
    · rw [← moved]
      split <;> rfl
    · intro paused
      rw [← moved] at paused
      rcases goals with rfl | rfl
      · split at paused
        · cases paused
        · next refused =>
            rw [paused] at refused
            exact absurd (by decide) refused
      · split at paused
        · next allowed =>
            -- Online is the only state from which the table leads to Paused.
            have online : entry.state = .online := by
              cases state : entry.state <;> rw [state] at allowed <;> first | rfl | exact absurd allowed (by decide)
            have state : s.manager.processes.getState runner = some .online := by
              unfold Processes.getState
              rw [entered, Option.map_some, online]
            exact absurd before (frozen rfl state _ (mem_served.mpr ⟨attempt, serves⟩))
        · refine ⟨paused, fun thaws => ?_⟩
          cases mine thaws
    · intro draining
      rw [← moved, draining]
      rcases goals with rfl | rfl <;> exact draining
  · cases performed
    change (s.manager.processes.setError runner text).lookup runner = some process at known
    rw [Processes.setError, Map.lookup_modify, if_pos rfl] at known
    obtain ⟨entry, entered, moved⟩ := Option.map_eq_some_iff.mp known
    refine ⟨⟨data, recorded, rfl⟩, ⟨live, runs, free⟩, entry, entered, ?_, ?_, ?_⟩
    · rw [← moved]
    · intro paused
      rw [← moved] at paused
      refine ⟨paused, fun thaws => ?_⟩
      cases mine thaws
    · intro draining
      rw [← moved]
      exact draining

/-- A section of a lifecycle makes no listener loose, except one that it has
launched without a pause. -/
theorem Tight.performs (tight : Tight owed s) (owned : Owned s)
    (kept : Owned (s.resume t (.lifecycle runner (todo ++ rest)) manager))
    (found : s.threads.lookup t = some (.lifecycle runner (head :: rest)))
    (performed : s.manager.perform runner answer head = some (manager, todo))
    (frozen : head = .transition .paused → s.manager.processes.getState runner = some .online →
      ∀ pid ∈ served rest, ¬s.Loose pid)
    (unrecorded : ∀ pid ∈ head.forks answer, ∀ name data,
      s.manager.listenerData.lookup name = some data → data.pgid ≠ pid) :
    Tight owed (s.resume t (.lifecycle runner (todo ++ rest)) manager) := by
  have free {pid : Pid} (loose : (s.resume t (.lifecycle runner (todo ++ rest)) manager).Loose pid) : ¬s.Held pid := by
    intro held
    apply loose.free
    apply held_resume _ held
    intro old here holds
    cases found.symm.trans here
    cases holds
  apply tight.carried (perform_frame performed).1
  intro name data process recorded known loose
  by_cases same : name = runner
  · subst same
    obtain ⟨_, other, others, attempt, here, serves⟩ := kept.owner name data recorded loose.live
    have member : .serve data.pgid attempt ∈ todo ++ rest := by
      rw [lookup_resume] at here
      split at here
      · cases here
        exact serves
      · next different =>
          cases others with
          | nil => cases serves
          | cons next others => exact absurd (owned.single other t name next head others rest here found) different
    rcases List.mem_append.mp member with new | old
    · -- The listener has been launched by this section.
      obtain ⟨caller, rfl, records⟩ := perform_serves performed new
      have stopped (same : manager = (s.manager.enter name data.pgid).signal {data.pgid} .stop) : False := by
        have runs : manager.stopped data.pgid = false := loose.runs
        have live : manager.live data.pgid = true := loose.live
        rw [same, StandaloneManager.live_signal_spared _ _ _ _ (by decide)] at live
        rw [same, StandaloneManager.stopped_signal, if_pos (Finset.mem_singleton_self _), live] at runs
        cases runs
      cases records with
      | cancelled => cases List.mem_singleton.mp new
      | frozen paused => exact (stopped rfl).elim
      | missed paused dead => exact (stopped rfl).elim
      | free open_ =>
          refine .inr (.inl ⟨open_, t, _, (lookup_resume t).trans (if_pos rfl), decide_eq_true ?_⟩)
          exact mem_served.mpr ⟨caller.attempt, List.mem_append_left _ (by simp)⟩
    · have quick : head.quick = true := by
        cases slow : head.quick with
        | true => rfl
        | false =>
            have owns := serve_mem_owners old
            rw [(owned.sane t name _ found).tidy.1 slow] at owns
            cases owns
      exact .inr (.inr (.quick owned found quick old performed frozen recorded known loose.live loose.runs (free loose)))
  · have record : s.manager.listenerData.lookup name = some data :=
      ((perform_frame performed).2 name same).2.symm.trans recorded
    have old : data.pgid ∉ head.forks answer := fun forked => unrecorded _ forked name data record rfl
    exact .inr (.inr (.other owned found performed same old recorded known loose.live loose.runs (free loose)))

end

/-- A `Halt` resumes a listener only while it deals with it. -/
theorem advance_runs {m manager : StandaloneManager} {runner : RunnerName} {answer : Answer}
    {phase next : StopPhase} {pid : Pid} (advanced : m.advance runner answer phase = some (manager, next))
    (live : manager.live pid = true) (stopped : m.stopped pid = true) (free : next.holds ≠ some pid) :
    manager.stopped pid = true := by
  have signalled (own : Pid) (sent : Signal) (same : manager = m.signal {own} sent)
      (missed : own ≠ pid ∨ sent = .int) : manager.stopped pid = true := by
    rw [same, StandaloneManager.stopped_signal]
    rcases missed with different | rfl
    · rw [if_neg fun mine => different (Finset.mem_singleton.mp mine).symm]
      exact stopped
    · rw [StandaloneManager.stopped_live stopped, stopped]
      split <;> rfl
  have killed (own : Pid) (same : manager = m.signal {own} .kill) : own ≠ pid := by
    rintro rfl
    rw [same, StandaloneManager.live_signal] at live
    simp at live
  cases advance_advances advanced with
  | @killing pgid | @expiring pgid => exact signalled pgid .kill rfl (.inl (killed pgid rfl))
  | @resuming leader pgid => exact signalled pgid .cont rfl (.inl fun same => free (congrArg some same))
  | @interrupting leader | @missed leader => exact signalled leader .int rfl (.inr rfl)
  | _ => exact stopped

theorem Tight.advances {t : ThreadID} {runner : RunnerName} {answer : Answer} {phase next : StopPhase}
    {manager : StandaloneManager} (tight : Tight owed s) (owned : Owned s) (attended : Attended s)
    (found : s.threads.lookup t = some (.stop runner phase))
    (advanced : s.manager.advance runner answer phase = some (manager, next)) :
    Tight owed (s.resume t (.stop runner next) manager) := by
  have steady := StandaloneManager.advance_steady advanced
  have frame := advance_frame advanced
  apply tight.carried frame.2
  intro name data process recorded known loose
  obtain ⟨before, looked, _, pgid⟩ := steady.back recorded
  right
  right
  apply Inherits.same looked pgid ((congrArg _ frame.1).symm.trans known)
  · constructor
    · exact steady.live _ loose.live
    · cases stopped : s.manager.stopped data.pgid with
      | false => rfl
      | true =>
          have free : next.holds ≠ some data.pgid := fun holds =>
            loose.free ⟨t, _, (lookup_resume t).trans (if_pos rfl), holds⟩
          cases (advance_runs advanced loose.live stopped free).symm.trans loose.runs
    · intro held
      apply loose.free
      apply held_resume _ held
      intro old here holds
      cases found.symm.trans here
      exact attended.returns owned found holds advanced loose.live
  · apply thawing_resume
    intro old here thaws
    cases found.symm.trans here
    cases thaws

/-- A new thread begins with the entry of its runner. -/
theorem Tight.begins {t : ThreadID} {thread : Thread} {runner : RunnerName} {entry : ProcessState} {next : Nat}
    (tight : Tight owed s) (fresh : s.threads.lookup t = none)
    (own : ∀ data, s.manager.listenerData.lookup runner = some data → s.manager.live data.pgid = true →
      entry.state = .draining) :
    Tight owed (s.resume t thread { s.manager with processes := s.manager.processes.insert runner entry, next }) := by
  refine tight.carried rfl ?_
  intro name data process recorded known loose
  replace recorded : s.manager.listenerData.lookup name = some data := recorded
  have free : ¬s.Held data.pgid := by
    intro held
    apply loose.free
    apply held_resume _ held
    intro old here
    cases fresh.symm.trans here
  change (s.manager.processes.insert runner entry).lookup name = some process at known
  rcases Map.lookup_of_insert known with ⟨rfl, rfl⟩ | ⟨_, old⟩
  · exact .inl (own data recorded loose.live)
  · right
    right
    apply Inherits.same recorded rfl old ⟨loose.live, loose.runs, free⟩
    apply thawing_resume
    intro old here
    cases fresh.symm.trans here

theorem Tight.exits {pid : Pid} {status : ExitStatus} (tight : Tight owed s) :
    Tight owed { s with manager := { s.manager with
      groups := s.manager.groups.modify pid fun group => { group with exit := some status } } } := by
  refine tight.carried rfl ?_
  intro name data process recorded known loose
  have steady := StandaloneManager.exit_steady (m := s.manager) pid status
  right
  right
  refine .same (s := s) recorded rfl known ?_ id
  constructor
  · exact steady.live _ loose.live
  · have live := loose.live
    have runs := loose.runs
    unfold StandaloneManager.live at live
    unfold StandaloneManager.stopped at runs ⊢
    rw [Map.lookup_modify] at live runs
    split at live
    · cases known : s.manager.groups.lookup data.pgid <;> rw [known] at live <;> cases live
    · next different =>
        rw [if_neg different] at runs
        exact runs
  · exact loose.free

/-- `MarkBusy` gives a runner a job and takes it out of Paused. -/
theorem Tight.markBusy {runner : RunnerName} (tight : Tight owed s) :
    Tight owed { s with manager := s.manager.markBusy runner } := by
  constructor
  · intro name data process recorded known loose paused
    change (s.manager.processes.modify runner ProcessState.busy).lookup name = some process at known
    rw [Map.lookup_modify] at known
    split at known
    · obtain ⟨entry, _, rfl⟩ := Option.map_eq_some_iff.mp known
      unfold ProcessState.busy at paused
      dsimp only at paused
      split at paused
      · cases paused
      · next other => exact absurd (.inr paused) other
    · exact tight.paused name data process recorded known ⟨loose.live, loose.runs, loose.free⟩ paused
  · intro name data process recorded known loose held waits
    change (s.manager.processes.modify runner ProcessState.busy).lookup name = some process at known
    rw [Map.lookup_modify] at known
    split at known
    · obtain ⟨entry, _, rfl⟩ := Option.map_eq_some_iff.mp known
      exact absurd waits.2 (Nat.succ_ne_zero _)
    · exact tight.idle name data process recorded known ⟨loose.live, loose.runs, loose.free⟩ held waits

/-- `MarkIdle` may leave a runner Paused, or idle, whose listener runs; the
evaluation that follows it is owed. -/
theorem Tight.markIdle {runner : RunnerName} (tight : Tight owed s) :
    Tight True { s with manager := s.manager.markIdle runner } := by
  constructor
  · intro name data process recorded known loose paused
    have before : s.Loose data.pgid := ⟨loose.live, loose.runs, loose.free⟩
    change (s.manager.processes.modify runner _).lookup name = some process at known
    rw [Map.lookup_modify] at known
    split at known
    · obtain ⟨entry, entered, rfl⟩ := Option.map_eq_some_iff.mp known
      unfold ProcessState.idle at paused ⊢
      dsimp only at paused ⊢
      split at paused
      · next last =>
          split at paused
          · next held => exact .inr ⟨held, last.1, trivial⟩
          · cases paused
      · rcases tight.paused name data entry recorded entered before paused with thaws | ⟨held, none_, _⟩
        · exact .inl thaws
        · exact .inr ⟨held, by rw [none_], trivial⟩
    · rcases tight.paused name data process recorded known before paused with thaws | ⟨held, none_, _⟩
      · exact .inl thaws
      · exact .inr ⟨held, none_, trivial⟩
  · intro name data process _ _ _ _ _
    trivial

/-- The debt changes hands. -/
theorem Tight.settle {later : Prop} (tight : Tight owed s)
    (settles : ∀ runner data process, s.manager.listenerData.lookup runner = some data →
      s.manager.processes.lookup runner = some process → s.Loose data.pgid → s.manager.globalPaused = true →
      process.waits → later) : Tight later s := by
  constructor
  · intro runner data process recorded known loose paused
    rcases tight.paused runner data process recorded known loose paused with thaws | ⟨held, none_, _⟩
    · exact .inl thaws
    · refine .inr ⟨held, none_, settles runner data process recorded known loose held ⟨?_, none_⟩⟩
      rw [paused]
      decide
  · exact settles

/-- What a sweep does to a runner whose listener it leaves running. -/
theorem swept (sent : Signal) {outcome : Finset Pid} {source goal : RunnerState} {spared : Finset RunnerName}
    {name : RunnerName} {data : ListenerData} {process : ProcessState} (owned : Owned s)
    (recorded : s.manager.listenerData.lookup name = some data)
    (known : (s.manager.sweep outcome source goal sent spared).processes.lookup name = some process)
    (live : s.manager.live data.pgid = true) : ∃ entry, s.manager.processes.lookup name = some entry ∧
      ((name ∉ spared ∧ entry.state = source) ∧ s.manager.target source name = some data.pgid ∧
        process = { entry with state := goal } ∨
      ¬(name ∉ spared ∧ entry.state = source) ∧ process = entry) := by
  change (s.manager.processes.mapValues _).lookup name = some process at known
  rw [Map.lookup_mapValues] at known
  obtain ⟨entry, entered, moved⟩ := Option.map_eq_some_iff.mp known
  have nonzero : data.pgid ≠ 0 := by
    intro zero
    rw [zero, owned.nonzero] at live
    cases live
  refine ⟨entry, entered, ?_⟩
  by_cases chosen : name ∉ spared ∧ entry.state = source
  · have target : s.manager.target source name = some data.pgid :=
      StandaloneManager.target_some.mpr ⟨entry, data, entered, recorded, chosen.2, rfl, nonzero⟩
    left
    refine ⟨chosen, target, ?_⟩
    rw [← moved, if_pos]
    refine ⟨chosen.1, ?_⟩
    rw [target, Option.any_some, StandaloneManager.answers, live, Bool.true_or]
  · right
    refine ⟨chosen, ?_⟩
    rw [← moved, if_neg]
    rintro ⟨kept, aims⟩
    exact chosen ⟨kept, StandaloneManager.target_state entered aims⟩

/-- A freeze that begins the pause leaves only those listeners loose that it spares
or does not find Online. -/
theorem Tight.lockOthers {later : Prop} (tight : Tight owed s) (owned : Owned s) (outcome : Finset Pid)
    (activeRunners : Finset RunnerName) (unpaused : s.manager.globalPaused = false)
    (reaches : ∀ runner data process, s.manager.listenerData.lookup runner = some data →
      s.manager.processes.lookup runner = some process → s.Loose data.pgid → process.waits →
      later ∨ process.state = .online ∧ runner ∉ activeRunners) :
    Tight later { s with manager := s.manager.lockOthers outcome activeRunners } := by
  have kept {name : RunnerName} {data : ListenerData} {process : ProcessState}
      (recorded : s.manager.listenerData.lookup name = some data)
      (known : (s.manager.lockOthers outcome activeRunners).processes.lookup name = some process)
      (loose : Standalone.Loose { s with manager := s.manager.lockOthers outcome activeRunners } data.pgid) :
      s.manager.processes.lookup name = some process ∧ s.Loose data.pgid ∧
        ¬(name ∉ activeRunners ∧ process.state = .online) := by
    have live : (s.manager.signal (s.manager.targets .online activeRunners) .stop).live data.pgid = true := loose.live
    have runs : (s.manager.signal (s.manager.targets .online activeRunners) .stop).stopped data.pgid = false :=
      loose.runs
    rw [StandaloneManager.live_signal_spared _ _ _ _ (by decide)] at live
    rw [StandaloneManager.stopped_signal] at runs
    obtain ⟨entry, entered, ⟨chosen, target, _⟩ | ⟨missed, rfl⟩⟩ := swept .stop owned recorded known live
    · rw [if_pos (StandaloneManager.mem_targets.mpr ⟨name, chosen.1, target⟩), live] at runs
      cases runs
    · refine ⟨entered, ⟨live, ?_, loose.free⟩, missed⟩
      split at runs
      · rw [live] at runs
        cases runs
      · exact runs
  constructor
  · intro name data process recorded known loose paused
    obtain ⟨entered, before, _⟩ := kept recorded known loose
    rcases tight.paused name data process recorded entered before paused with thaws | ⟨held, _⟩
    · exact .inl thaws
    · cases unpaused.symm.trans held
  · intro name data process recorded known loose _ waits
    obtain ⟨entered, before, missed⟩ := kept recorded known loose
    rcases reaches name data process recorded entered before waits with owes | ⟨online, unspared⟩
    · exact owes
    · exact absurd ⟨unspared, online⟩ missed

/-- A thaw leaves no runner Paused whose listener is live. -/
theorem Tight.unlockOthers {later : Prop} (owned : Owned s) (outcome : Finset Pid) :
    Tight later { s with manager := s.manager.unlockOthers outcome } := by
  constructor
  · intro name data process recorded known loose paused
    have live : (s.manager.signal (s.manager.targets .paused ∅) .cont).live data.pgid = true := loose.live
    rw [StandaloneManager.live_signal_spared _ _ _ _ (by decide)] at live
    obtain ⟨entry, entered, ⟨_, _, rfl⟩ | ⟨missed, rfl⟩⟩ := swept .cont owned recorded known live
    · cases paused
    · exact absurd ⟨Finset.notMem_empty name, paused⟩ missed
  · nofun

/-- What a step has to leave alone for the pause to hold: it loses no stopped
listener, a launch under the pause finds its listener still stopped when it makes
the transition, and no number is handed out with which a `Halt` still deals. -/
structure Holdable (s : Standalone) (call : Call) : Prop where
  resumable : Resumable s call
  frozen : ∀ turn ∈ s.turn call, turn.2.1 = .transition .paused →
    s.manager.processes.getState turn.1 = some .online → ∀ pid ∈ served turn.2.2, ¬s.Loose pid
  spared : ∀ pid ∈ s.forks call, ¬s.Held pid

instance (s : Standalone) (call : Call) : Decidable (Holdable s call) :=
  decidable_of_iff (_ ∧ _ ∧ _) ⟨fun all => ⟨all.1, all.2.1, all.2.2⟩, fun holdable =>
    ⟨holdable.resumable, holdable.frozen, holdable.spared⟩⟩

/-- The manager's own steps incur no debt. -/
theorem Tight.act {event : Event} (tight : Tight owed s) (owned : Owned s) (attended : Attended s)
    (holdable : Holdable s (.own event)) (taken : s.act event = some after) : Tight owed after := by
  have orderly := holdable.resumable.orderly
  have kept : Owned after := owned.step orderly (show s.step (.own event) = some after from taken)
  cases act_moves taken with
  | start fresh started =>
      obtain ⟨_, rfl⟩ := Processes.start_ok started
      apply tight.begins fresh
      intro data recorded live
      obtain ⟨_, other, todo, attempt, found, serves⟩ := owned.owner _ data recorded live
      cases todo with
      | nil => cases serves
      | cons head rest =>
          have ended := orderly.starts _ rfl other _ found
          simp [Thread.runs] at ended
  | stop fresh stopped =>
      obtain ⟨process, _, rfl⟩ := Processes.stop_ok stopped
      exact tight.begins fresh fun _ _ _ => rfl
  | @perform t answer runner head todo rest manager found performed =>
      have turn : s.turn (.own (.run t answer)) = some (runner, head, rest) := by
        simp only [Standalone.turn, found]
      apply tight.performs owned kept found performed
      · exact holdable.frozen _ turn
      · intro pid forked
        apply orderly.forks pid
        simp only [forks, found]
        exact forked
  | advance found advanced => exact tight.advances owned attended found advanced
  | exit alive => exact tight.exits

theorem new_tight : Tight owed .new := by
  constructor
  · intro runner data process recorded
    cases recorded
  · intro runner data process recorded
    cases recorded

end Standalone

end RunnersMux
