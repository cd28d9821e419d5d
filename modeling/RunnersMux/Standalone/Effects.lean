import RunnersMux.Standalone.Threads

/-! What signals and steps of the standalone manager do, said once.

`Moves` names the cases of a manager step. What a section does to the manager is
read off `perform` and `advance`, whose cases are the sections themselves.
-/

set_option autoImplicit false

namespace RunnersMux

open Foundations

namespace ProcessGroup

theorem deliver_runner (signal : Signal) (group : ProcessGroup) :
    (group.deliver signal).runner = group.runner := by
  unfold deliver
  split
  · cases signal <;> rfl
  · rfl

theorem deliver_reaped (signal : Signal) (group : ProcessGroup) :
    (group.deliver signal).reaped = group.reaped := by
  unfold deliver
  split
  · cases signal <;> rfl
  · rfl

/-- Only `SIGKILL` ends a process at once. -/
theorem deliver_live (signal : Signal) (group : ProcessGroup) :
    (group.deliver signal).live = (group.live && signal != .kill) := by
  unfold deliver
  by_cases alive : group.live = true
  · rw [if_pos alive]
    cases signal <;> simp_all [live]
  · rw [if_neg alive]
    simp [alive]

theorem deliver_frozen (signal : Signal) (group : ProcessGroup) :
    ((group.deliver signal).live && (group.deliver signal).stopped) =
      (group.live && match signal with
        | .stop => true
        | .cont => false
        | .int => group.stopped
        | .kill => false) := by
  rw [deliver_live]
  unfold deliver
  by_cases alive : group.live = true
  · rw [if_pos alive]
    cases signal <;> simp [alive]
  · simp [alive]

end ProcessGroup

namespace StandaloneManager

section
variable (m : StandaloneManager) (pgids : Finset Pid) (sent : Signal) (pid : Pid)

theorem lookup_signal : (m.signal pgids sent).groups.lookup pid =
    (m.groups.lookup pid).map fun group => if pid ∈ pgids then group.deliver sent else group :=
  Map.lookup_mapValues _ _ _

theorem live_signal : (m.signal pgids sent).live pid =
    (m.live pid && !(decide (pid ∈ pgids) && sent == .kill)) := by
  unfold live
  rw [lookup_signal]
  cases m.groups.lookup pid with
  | none => rfl
  | some group =>
      by_cases hit : pid ∈ pgids <;> simp [hit, ProcessGroup.deliver_live, bne]

theorem live_signal_spared (spared : sent ≠ .kill) : (m.signal pgids sent).live pid = m.live pid := by
  rw [live_signal, beq_eq_false_iff_ne.mpr spared, Bool.and_false, Bool.not_false, Bool.and_true]

theorem stopped_signal : (m.signal pgids sent).stopped pid =
    if pid ∈ pgids then m.live pid && (match sent with
      | .stop => true
      | .cont => false
      | .int => m.stopped pid
      | .kill => false)
    else m.stopped pid := by
  unfold stopped live
  rw [lookup_signal]
  cases m.groups.lookup pid with
  | none => split <;> rfl
  | some group =>
      by_cases hit : pid ∈ pgids
      · simp only [hit, if_true, Option.map_some, Option.any_some, ProcessGroup.deliver_frozen]
        cases sent <;> simp
      · simp [hit]

theorem stopped_live {m : StandaloneManager} {pid : Pid} (stopped : m.stopped pid = true) :
    m.live pid = true := by
  unfold StandaloneManager.stopped at stopped
  unfold StandaloneManager.live
  cases found : m.groups.lookup pid with
  | none => rw [found] at stopped; cases stopped
  | some group =>
      rw [found] at stopped
      exact (Bool.and_eq_true_iff.mp stopped).1

/-- A runner's target is in the set that a sweep signals, unless it is spared. -/
theorem mem_targets {m : StandaloneManager} {state : RunnerState} {spared : Finset RunnerName} {pid : Pid} :
    pid ∈ m.targets state spared ↔ ∃ name ∉ spared, m.target state name = some pid := by
  unfold targets
  rw [Finset.mem_biUnion]
  constructor
  · rintro ⟨name, member, aimed⟩
    rw [Finset.mem_sdiff] at member
    exact ⟨name, member.2, Option.mem_toFinset.mp aimed⟩
  · rintro ⟨name, kept, aimed⟩
    refine ⟨name, ?_, Option.mem_toFinset.mpr aimed⟩
    rw [Finset.mem_sdiff, Finmap.mem_keys]
    refine ⟨?_, kept⟩
    unfold target at aimed
    split at aimed
    · next found _ => exact Finmap.mem_of_lookup_eq_some found
    · cases aimed

theorem target_some {m : StandaloneManager} {state : RunnerState} {name : RunnerName} {pid : Pid} :
    m.target state name = some pid ↔ ∃ process data, m.processes.lookup name = some process ∧
      m.listenerData.lookup name = some data ∧ process.state = state ∧ data.pgid = pid ∧ pid ≠ 0 := by
  unfold target
  constructor
  · intro aimed
    split at aimed
    · next process data found recorded =>
        split at aimed
        · next both =>
            cases aimed
            exact ⟨process, data, found, recorded, both.1, rfl, both.2⟩
        · cases aimed
    · cases aimed
  · rintro ⟨process, data, found, recorded, same, rfl, nonzero⟩
    rw [found, recorded]
    exact if_pos ⟨same, nonzero⟩

/-- A sweep aims at the runners in its source state. -/
theorem target_state {m : StandaloneManager} {source : RunnerState} {name : RunnerName} {process : ProcessState}
    {answers : Pid → Bool} (found : m.processes.lookup name = some process)
    (aims : (m.target source name).any answers = true) : process.state = source := by
  obtain ⟨pid, aimed, _⟩ := (Option.any_eq_true _ _).mp aims
  obtain ⟨current, _, here, _, state, _⟩ := target_some.mp aimed
  cases found.symm.trans here
  exact state

end

end StandaloneManager

/-- What follows the locked section of `launchListener` that has recorded its process. -/
def launched (goal : RunnerState) (pid : Pid) (caller : Caller) : List Section :=
  [.transition goal, .setError "", .serve pid caller.attempt]

/-- The cases of that section. -/
inductive Records (m : StandaloneManager) (runner : RunnerName) (caller : Caller) (pid : Pid)
    (outcome : Finset Pid) : StandaloneManager → List Section → Prop where
  | cancelled : Records m runner caller pid outcome m [.abort caller pid]
  | frozen (paused : m.globalPaused = true) : Records m runner caller pid outcome
      ((m.enter runner pid).signal {pid} .stop) (launched .paused pid caller)
  | missed (paused : m.globalPaused = true) (dead : m.live pid = false) : Records m runner caller pid outcome
      ((m.enter runner pid).signal {pid} .stop) (launched .online pid caller)
  | free (open_ : m.globalPaused = false) : Records m runner caller pid outcome
      (m.enter runner pid) (launched .online pid caller)

theorem record_records (m : StandaloneManager) (runner : RunnerName) (caller : Caller) (pid : Pid)
    (outcome : Finset Pid) : Records m runner caller pid outcome (m.record runner caller pid outcome).1
      (m.record runner caller pid outcome).2 := by
  have finished : Records m runner caller pid outcome
      (StandaloneManager.record.finish m runner caller pid outcome).1
      (StandaloneManager.record.finish m runner caller pid outcome).2 := by
    unfold StandaloneManager.record.finish
    cases paused : m.globalPaused with
    | false => exact .free paused
    | true =>
        cases arrived : m.answers outcome pid with
        | true => exact .frozen paused
        | false => exact .missed paused (Bool.or_eq_false_iff.mp arrived).1
  unfold StandaloneManager.record
  split
  · split
    · exact .cancelled
    · exact finished
  · exact finished

/-- The cases of a section of a lifecycle thread. -/
inductive Performs (m : StandaloneManager) (runner : RunnerName) (answer : Answer) :
    Section → StandaloneManager → List Section → Prop where
  | prepareFail {entry : Nat} {text : String} (failed : answer.error = some text) :
      Performs m runner answer (.initializeEnvironment entry) m [.fail entry text]
  | prepare {entry : Nat} (clean : answer.error = none) :
      Performs m runner answer (.initializeEnvironment entry) m [.store entry]
  | store {entry : Nat} : Performs m runner answer (.store entry)
      { m with
        listenerData := m.listenerData.insert runner ⟨m.next, none, 0, none⟩
        next := m.next + 1 } [.spawn (.launch entry)]
  | spawnFail {caller : Caller} {text : String} (failed : answer.error = some text) :
      Performs m runner answer (.spawn caller) m (caller.failure text)
  | spawn {caller : Caller} (clean : answer.error = none) (nonzero : answer.pid ≠ 0)
      (free : (m.groups.lookup answer.pid).all (·.reaped) = true) :
      Performs m runner answer (.spawn caller)
        { m with groups := m.groups.insert answer.pid (.launched runner) } [.record caller answer.pid]
  | record {caller : Caller} {pid : Pid} {after : StandaloneManager} {todo : List Section}
      (records : Records m runner caller pid answer.outcome after todo) :
      Performs m runner answer (.record caller pid) after todo
  | abort {caller : Caller} {pid : Pid} : Performs m runner answer (.abort caller pid)
      { m with groups := m.groups.modify pid fun group => { group.deliver .kill with reaped := true } }
      (caller.failure "launch cancelled by Halt")
  | transition {goal : RunnerState} : Performs m runner answer (.transition goal) (m.transition runner goal) []
  | setError {text : String} : Performs m runner answer (.setError text) (m.setError runner text) []
  | fail {entry : Nat} {text : String} : Performs m runner answer (.fail entry text)
      { m with processes := m.processes.fail runner entry text } []
  | serve {pid : Pid} {attempt : Nat} {status : ExitStatus}
      (ended : (m.groups.lookup pid).bind (·.exit) = some status) : Performs m runner answer (.serve pid attempt)
      { m with groups := m.groups.modify pid fun group => { group with reaped := true } }
      [.exited status attempt answer.flag]
  | exited {status : ExitStatus} {attempt : Nat} {fast : Bool} : Performs m runner answer (.exited status attempt fast)
      m [.decide (m.processes.isDraining runner) status attempt fast]
  | finish {draining : Bool} {status : ExitStatus} {attempt : Nat} {fast : Bool} {data : Option Nat} :
      Performs m runner answer (.decide draining status attempt fast) m
        [.transition .offline, .forget data, .setError status.text]
  | retry {draining : Bool} {status : ExitStatus} {attempt : Nat} {fast : Bool} {data : Option Nat} :
      Performs m runner answer (.decide draining status attempt fast) { m with next := m.next + 1 }
        [.transition .registering, .setError "", .arm data m.next, .backoff m.next attempt data]
  | giveUp {draining : Bool} {status : ExitStatus} {attempt : Nat} {fast : Bool} {data : Option Nat} :
      Performs m runner answer (.decide draining status attempt fast) m
        [.transition .offline, .setError status.text, .forget data]
  | forget {data : Option Nat} : Performs m runner answer (.forget data)
      (m.update runner data fun current => { current with cmd := none, retryCancel := none }) []
  | arm {data : Option Nat} {channel : Nat} : Performs m runner answer (.arm data channel)
      (m.update runner data fun current => { current with cmd := none, retryCancel := some channel }) []
  | fire {channel attempt : Nat} {data : Option Nat} : Performs m runner answer (.backoff channel attempt data)
      m [.spawn (.retry attempt data)]
  | cancel {channel attempt : Nat} {data : Option Nat} (closed : channel ∈ m.closed) :
      Performs m runner answer (.backoff channel attempt data) m [.transition .offline, .disarm data]
  | disarm {data : Option Nat} : Performs m runner answer (.disarm data)
      (m.update runner data fun current => { current with retryCancel := none }) []

/-- The cases of a step of `Halt`. -/
inductive Advances (m : StandaloneManager) (runner : RunnerName) (answer : Answer) :
    StopPhase → StandaloneManager → StopPhase → Prop where
  | missing {force : Bool} (absent : m.listenerData.lookup runner = none) :
      Advances m runner answer (.halting force) m (.returned (some "runner not found"))
  | kill {data : ListenerData} {pid : Pid} (known : m.listenerData.lookup runner = some data)
      (cmd : data.cmd = some pid) : Advances m runner answer (.halting true) m (.killing data.pgid)
  | resume {data : ListenerData} {pid : Pid} (known : m.listenerData.lookup runner = some data)
      (cmd : data.cmd = some pid) : Advances m runner answer (.halting false) m (.resuming pid data.pgid)
  | cancel {force : Bool} {data : ListenerData} {channel : Nat} (known : m.listenerData.lookup runner = some data)
      (dead : data.cmd = none) : Advances m runner answer (.halting force)
        { m with
          listenerData := m.listenerData.insert runner { data with retryCancel := none }
          closed := insert channel m.closed } (.returned none)
  | idle {force : Bool} {data : ListenerData} (known : m.listenerData.lookup runner = some data)
      (dead : data.cmd = none) : Advances m runner answer (.halting force) m (.returned none)
  | killing {pgid : Pid} {error : Option String} :
      Advances m runner answer (.killing pgid) (m.signal {pgid} .kill) (.returned error)
  | resuming {pid pgid : Pid} :
      Advances m runner answer (.resuming pid pgid) (m.signal {pgid} .cont) (.interrupting pid pgid)
  | interrupting {pid pgid : Pid} :
      Advances m runner answer (.interrupting pid pgid) (m.signal {pid} .int) (.polling pgid)
  | missed {pid pgid : Pid} (lost : m.answers answer.outcome pid = false) :
      Advances m runner answer (.interrupting pid pgid) (m.signal {pid} .int) (.returned (some "no such process"))
  | polling {pgid : Pid} : Advances m runner answer (.polling pgid) m (.checking pgid)
  | offline {pgid : Pid} (state : m.processes.getState runner = some .offline) :
      Advances m runner answer (.checking pgid) m (.returned none)
  | overdue {pgid : Pid} : Advances m runner answer (.checking pgid) m (.expiring pgid)
  | expiring {pgid : Pid} :
      Advances m runner answer (.expiring pgid) (m.signal {pgid} .kill) (.returned none)

section
variable {m after : StandaloneManager} {runner : RunnerName} {answer : Answer} {head : Section} {todo : List Section}

theorem perform_performs (performed : m.perform runner answer head = some (after, todo)) :
    Performs m runner answer head after todo := by
  cases head with
  | initializeEnvironment entry =>
      simp only [StandaloneManager.perform] at performed
      split at performed <;> cases performed
      · next failed => exact .prepareFail failed
      · next clean => exact .prepare clean
  | store entry =>
      cases performed
      exact .store
  | spawn caller =>
      simp only [StandaloneManager.perform] at performed
      split at performed
      · next failed =>
          cases performed
          exact .spawnFail failed
      · next clean =>
          split at performed <;> cases performed
          next free => exact .spawn clean free.1 free.2
  | record caller pid =>
      have records := record_records m runner caller pid answer.outcome
      rw [Option.some.inj performed] at records
      exact .record records
  | abort caller pid =>
      cases performed
      exact .abort
  | transition goal =>
      cases performed
      exact .transition
  | setError text =>
      cases performed
      exact .setError
  | fail entry text =>
      cases performed
      exact .fail
  | serve pid attempt =>
      simp only [StandaloneManager.perform] at performed
      obtain ⟨status, ended, same⟩ := Option.map_eq_some_iff.mp performed
      cases same
      exact .serve ended
  | exited status attempt fast =>
      cases performed
      exact .exited
  | decide draining status attempt fast =>
      simp only [StandaloneManager.perform, Option.some.injEq, StandaloneManager.afterExit] at performed
      split at performed
      · cases performed
        exact .finish
      · split at performed <;> cases performed
        · exact .retry
        · exact .giveUp
  | forget data =>
      cases performed
      exact .forget
  | arm data channel =>
      cases performed
      exact .arm
  | backoff channel attempt data =>
      simp only [StandaloneManager.perform] at performed
      split at performed
      · cases performed
        exact .fire
      · split at performed <;> cases performed
        next closed => exact .cancel closed
  | disarm data =>
      cases performed
      exact .disarm

/-- A section of one runner leaves every other runner's entries and the pause alone. -/
theorem perform_frame (performed : m.perform runner answer head = some (after, todo)) :
    after.globalPaused = m.globalPaused ∧ ∀ name, name ≠ runner →
      after.processes.lookup name = m.processes.lookup name ∧
      after.listenerData.lookup name = m.listenerData.lookup name := by
  cases perform_performs performed with
  | store =>
      refine ⟨rfl, fun name different => ⟨rfl, ?_⟩⟩
      exact Finmap.lookup_insert_of_ne _ different
  | record records =>
      cases records with
      | cancelled => exact ⟨rfl, fun _ _ => ⟨rfl, rfl⟩⟩
      | _ =>
          refine ⟨rfl, fun name different => ⟨rfl, ?_⟩⟩
          simp [StandaloneManager.enter, StandaloneManager.signal, different]
  | transition =>
      refine ⟨rfl, fun name different => ⟨?_, rfl⟩⟩
      exact (Processes.lookup_transitioned ..).trans (if_neg different)
  | setError | fail =>
      refine ⟨rfl, fun name different => ⟨?_, rfl⟩⟩
      exact (Map.lookup_modify ..).trans (if_neg different)
  | forget | arm | disarm =>
      refine ⟨rfl, fun name different => ⟨rfl, ?_⟩⟩
      simp [StandaloneManager.update, different]
  | _ => exact ⟨rfl, fun _ _ => ⟨rfl, rfl⟩⟩

theorem advance_advances {phase next : StopPhase} (advanced : m.advance runner answer phase = some (after, next)) :
    Advances m runner answer phase after next := by
  cases phase with
  | halting force =>
      simp only [StandaloneManager.advance, StandaloneManager.halt, Option.some.injEq] at advanced
      split at advanced
      · next absent =>
          cases advanced
          exact .missing absent
      · next data known =>
          split at advanced
          · next pid _ cmd =>
              cases advanced
              cases force with
              | true => exact .kill known cmd
              | false => exact .resume known cmd
          · next channel dead _ =>
              cases advanced
              exact .cancel known dead
          · next dead _ =>
              cases advanced
              exact .idle known dead
  | killing pgid =>
      cases advanced
      exact .killing
  | resuming pid pgid =>
      cases advanced
      exact .resuming
  | interrupting pid pgid =>
      cases advanced
      split
      · exact .interrupting
      · next lost => exact .missed (Bool.eq_false_iff.mpr lost)
  | polling pgid =>
      simp only [StandaloneManager.advance] at advanced
      split at advanced <;> cases advanced
      exact .polling
  | checking pgid =>
      cases advanced
      split
      · next state => exact .offline state
      · exact .overdue
  | expiring pgid =>
      cases advanced
      exact .expiring
  | returned error => cases advanced

theorem advance_frame {phase next : StopPhase}
    (advanced : m.advance runner answer phase = some (after, next)) :
    after.processes = m.processes ∧ after.globalPaused = m.globalPaused := by
  cases advance_advances advanced <;> exact ⟨rfl, rfl⟩

/-- A change of one group that cannot leave it both live and stopped. -/
theorem stopped_groups {groups : Map Pid ProcessGroup} (own : Pid)
    (others : ∀ pid, pid ≠ own → groups.lookup pid = m.groups.lookup pid)
    (ends : (groups.lookup own).all (fun group => !(group.live && group.stopped)) = true) {pid : Pid}
    (stopped : ({ m with groups } : StandaloneManager).stopped pid = true) : m.stopped pid = true ∧ pid ≠ own := by
  unfold StandaloneManager.stopped at stopped ⊢
  dsimp only at stopped
  by_cases same : pid = own
  · subst same
    cases known : groups.lookup pid with
    | none =>
        rw [known] at stopped
        cases stopped
    | some group =>
        rw [known] at stopped ends
        change (!(group.live && group.stopped)) = true at ends
        rw [show (group.live && group.stopped) = true from stopped] at ends
        cases ends
  · rw [others pid same] at stopped
    exact ⟨stopped, same⟩

/-- A lifecycle thread stops the listener that it has just launched, and no other. -/
theorem perform_stopped (performed : m.perform runner answer head = some (after, todo)) {pid : Pid}
    (stopped : after.stopped pid = true) :
    m.stopped pid = true ∧ (∀ attempt, head ≠ .serve pid attempt) ∨
      ∃ caller, todo = launched .paused pid caller := by
  have kept (groups : after.groups = m.groups) (other : ∀ pid attempt, head ≠ .serve pid attempt) :
      m.stopped pid = true ∧ (∀ attempt, head ≠ .serve pid attempt) ∨
        ∃ caller, todo = launched .paused pid caller := by
    unfold StandaloneManager.stopped at stopped ⊢
    rw [groups] at stopped
    exact .inl ⟨stopped, other pid⟩
  cases perform_performs performed with
  | spawn clean nonzero free =>
      refine .inl ⟨(stopped_groups answer.pid ?_ ?_ stopped).1, nofun⟩
      · intro other different
        exact Finmap.lookup_insert_of_ne _ different
      · rw [Finmap.lookup_insert]
        rfl
  | @record caller other _ _ records =>
      have signalled (same : after = (m.enter runner other).signal {other} .stop) :
          m.stopped pid = true ∨ pid = other ∧ m.live pid = true := by
        rw [same, StandaloneManager.stopped_signal] at stopped
        split at stopped
        · next mine => exact .inr ⟨Finset.mem_singleton.mp mine, (Bool.and_eq_true_iff.mp stopped).1⟩
        · exact .inl stopped
      cases records with
      | cancelled => exact kept rfl nofun
      | free open_ => exact kept rfl nofun
      | frozen paused =>
          rcases signalled rfl with before | ⟨rfl, _⟩
          · exact .inl ⟨before, nofun⟩
          · exact .inr ⟨caller, rfl⟩
      | missed paused dead =>
          rcases signalled rfl with before | ⟨rfl, alive⟩
          · exact .inl ⟨before, nofun⟩
          · cases alive.symm.trans dead
  | @abort caller other =>
      refine .inl ⟨(stopped_groups other ?_ ?_ stopped).1, nofun⟩
      · intro another different
        rw [Map.lookup_modify, if_neg different]
      · rw [Map.lookup_modify, if_pos rfl]
        cases m.groups.lookup other with
        | none => rfl
        | some group =>
            have ended := ProcessGroup.deliver_live .kill group
            simp only [bne_self_eq_false, Bool.and_false] at ended
            simp only [Option.map_some, Option.all_some, ProcessGroup.live] at ended ⊢
            simp [ended]
  | @serve other attempt status exited =>
      have both := stopped_groups other ?_ ?_ stopped
      · refine .inl ⟨both.1, fun again equal => ?_⟩
        cases equal
        exact both.2 rfl
      · intro another different
        rw [Map.lookup_modify, if_neg different]
      · rw [Map.lookup_modify, if_pos rfl]
        obtain ⟨group, known, ended⟩ := Option.bind_eq_some_iff.mp exited
        rw [known]
        simp [ProcessGroup.live, ended]
  | _ => exact kept rfl nofun

end

/-- The cases of a step of the manager's own. -/
inductive Moves (s : Standalone) : Event → Standalone → Prop where
  | start {t : ThreadID} {runner : RunnerName} {processes : Processes}
      (fresh : s.threads.lookup t = none)
      (started : s.manager.processes.start runner s.manager.next = .ok processes) :
      Moves s (.start t runner) (s.resume t (.lifecycle runner [.initializeEnvironment s.manager.next])
        { s.manager with processes, next := s.manager.next + 1 })
  | stop {t : ThreadID} {runner : RunnerName} {force : Bool} {processes : Processes}
      (fresh : s.threads.lookup t = none)
      (stopped : s.manager.processes.stop runner = .ok (some processes)) :
      Moves s (.stop t runner force) (s.resume t (.stop runner (.halting force)) { s.manager with processes })
  | perform {t : ThreadID} {answer : Answer} {runner : RunnerName} {head : Section}
      {todo rest : List Section} {manager : StandaloneManager}
      (found : s.threads.lookup t = some (.lifecycle runner (head :: rest)))
      (performed : s.manager.perform runner answer head = some (manager, todo)) :
      Moves s (.run t answer) (s.resume t (.lifecycle runner (todo ++ rest)) manager)
  | advance {t : ThreadID} {answer : Answer} {runner : RunnerName} {phase next : StopPhase}
      {manager : StandaloneManager} (found : s.threads.lookup t = some (.stop runner phase))
      (advanced : s.manager.advance runner answer phase = some (manager, next)) :
      Moves s (.run t answer) (s.resume t (.stop runner next) manager)
  | exit {pid : Pid} {status : ExitStatus} (alive : s.manager.live pid = true) :
      Moves s (.exit pid status) { s with manager := { s.manager with
        groups := s.manager.groups.modify pid fun group => { group with exit := some status } } }

theorem act_moves {s after : Standalone} {event : Event} (taken : s.act event = some after) :
    Moves s event after := by
  cases event with
  | start t runner =>
      simp only [Standalone.act] at taken
      split at taken
      · next fresh =>
          split at taken
          · next processes started =>
              cases taken
              exact .start fresh started
          · cases taken
      · cases taken
  | stop t runner force =>
      simp only [Standalone.act] at taken
      split at taken
      · next fresh =>
          split at taken
          · next processes stopped =>
              cases taken
              exact .stop fresh stopped
          · cases taken
      · cases taken
  | run t answer =>
      simp only [Standalone.act] at taken
      split at taken
      · next runner head rest found =>
          obtain ⟨⟨manager, todo⟩, performed, same⟩ := Option.map_eq_some_iff.mp taken
          cases same
          exact .perform found performed
      · next runner phase found =>
          obtain ⟨⟨manager, next⟩, advanced, same⟩ := Option.map_eq_some_iff.mp taken
          cases same
          exact .advance found advanced
      · cases taken
  | exit pid status =>
      simp only [Standalone.act] at taken
      split at taken
      · next alive =>
          cases taken
          exact .exit alive
      · cases taken

/-- What a call on the standalone manager leaves in `globalPaused`. -/
def Call.pause (before : Bool) : Call → Bool
  | .lockOthers _ _ => true
  | .unlockOthers _ => false
  | _ => before

theorem Standalone.step_pause {s after : Standalone} {call : Call} (taken : s.step call = some after) :
    after.manager.globalPaused = call.pause s.manager.globalPaused := by
  cases call with
  | own event =>
      cases act_moves taken with
      | start fresh started => rfl
      | stop fresh stopped => rfl
      | perform found performed => exact (perform_frame performed).1
      | advance found advanced => exact (advance_frame advanced).2
      | exit alive => rfl
  | lockOthers outcome activeRunners =>
      cases taken
      rfl
  | unlockOthers outcome =>
      cases taken
      rfl
  | markBusy runner =>
      cases taken
      rfl
  | markIdle runner =>
      cases taken
      rfl

end RunnersMux
