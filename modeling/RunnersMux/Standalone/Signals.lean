import RunnersMux.Foundations.Transitions
import RunnersMux.Standalone.Records

/-! Whom the signals of the standalone manager reach.

A launch signals the process that it has just forked. The sweeps signal the
`PGID` of a record, which nobody clears, and a `Halt` signals numbers that it
has copied from one. The `Cmd` of the record is what tells a listener from a
number that the kernel may have given away, as long as the goroutine whose
`Wait` has returned is not still to clear it.
-/

set_option autoImplicit false

namespace RunnersMux

open Foundations

/-- One call of `kill`, and the runner that it is made for. -/
structure Sending where
  runner : RunnerName
  pid : Pid
  signal : Signal
  deriving DecidableEq, Repr

namespace StandaloneManager

/-- The calls of `LockOthers` or `UnlockOthers`. -/
def swept (m : StandaloneManager) (state : RunnerState) (spared : Finset RunnerName) (sent : Signal) : Finset Sending :=
  (m.processes.keys \ spared).biUnion fun name => ((m.target state name).map fun pid => Sending.mk name pid sent).toFinset

/-- The locked section of `launchListener` finds a closed `retryCancel`. -/
def calledOff (m : StandaloneManager) (runner : RunnerName) : Bool :=
  ((m.listenerData.lookup runner).bind (·.retryCancel)).any fun channel => channel ∈ m.closed

/-- A listener process of the runner that has not been waited for. -/
def listener (m : StandaloneManager) (runner : RunnerName) (pid : Pid) : Bool :=
  (m.groups.lookup pid).any fun group => group.runner = runner && !group.reaped

end StandaloneManager

def StopPhase.sends : StopPhase → Option (Pid × Signal)
  | .killing pgid => some (pgid, .kill)
  | .resuming _ pgid => some (pgid, .cont)
  | .interrupting pid _ => some (pid, .int)
  | .expiring pgid => some (pgid, .kill)
  | .halting _ | .polling _ | .checking _ | .returned _ => none

/-- The number that a `Halt` has copied from the record, and signals next. -/
def StopPhase.copy (phase : StopPhase) : Option Pid := phase.sends.map Prod.fst

/-- A section after the return of a `Wait` with which the `Cmd` of the record at the address is
still to be cleared. The pointer to the record is read between the two. -/
def Section.clears (address : Nat) : Section → Bool
  | .exited _ _ _ | .decide _ _ _ _ => true
  | .forget data | .arm data _ => data = some address
  | _ => false

def Thread.clears (runner : RunnerName) (address : Nat) : Thread → Bool
  | .lifecycle name todo => name = runner && todo.any (·.clears address)
  | .stop _ _ => false

namespace Standalone

/-- The signals of a step that go to a number read from a record, now or by an earlier section of `Halt`. -/
def recordedSends (s : Standalone) : Call → Finset Sending
  | .lockOthers _ activeRunners => s.manager.swept .online activeRunners .stop
  | .unlockOthers _ => s.manager.swept .paused ∅ .cont
  | .own (.run t _) =>
      match s.threads.lookup t with
      | some (.stop runner phase) => (phase.sends.map fun sent => Sending.mk runner sent.1 sent.2).toFinset
      | _ => ∅
  | _ => ∅

/-- The signals of a launch to the process that it has forked. -/
def launchSends (s : Standalone) : Call → Finset Sending
  | .own (.run t _) =>
      match s.threads.lookup t with
      | some (.lifecycle runner (.record _ pid :: _)) =>
          if s.manager.calledOff runner = false ∧ s.manager.globalPaused = true then {⟨runner, pid, .stop⟩} else ∅
      | some (.lifecycle runner (.abort _ pid :: _)) => {⟨runner, pid, .kill⟩}
      | _ => ∅
  | _ => ∅

/-- The calls of `kill` that a step makes. -/
def sends (s : Standalone) (call : Call) : Finset Sending := s.recordedSends call ∪ s.launchSends call

/-- Every signal of the step goes to a listener of its runner that has not been reaped. -/
def Aimed (s : Standalone) (call : Call) : Prop :=
  ∀ sending ∈ s.sends call, s.manager.listener sending.runner sending.pid = true

instance (s : Standalone) (call : Call) : Decidable (s.Aimed call) :=
  inferInstanceAs (Decidable (∀ sending ∈ s.sends call, _))

def Clears (s : Standalone) (runner : RunnerName) (address : Nat) : Prop :=
  ∃ t thread, s.threads.lookup t = some thread ∧ thread.clears runner address = true

instance (s : Standalone) (runner : RunnerName) (address : Nat) : Decidable (s.Clears runner address) :=
  inferInstanceAs (Decidable (∃ t thread, s.threads.lookup t = some thread ∧ _))

/-- The record has a `Cmd`, and no goroutine of the runner is about to clear it. -/
def Stands (s : Standalone) (runner : RunnerName) (data : ListenerData) : Prop :=
  data.cmd.isSome = true ∧ ¬s.Clears runner data.address

instance (s : Standalone) (runner : RunnerName) (data : ListenerData) : Decidable (s.Stands runner data) :=
  inferInstanceAs (Decidable (_ ∧ _))

/-- The guard that `LockOthers` and `UnlockOthers` lack: whoever is in the one state and has a
`PGID` has a `Cmd` that stands. -/
def Guarded (s : Standalone) (state : RunnerState) (spared : Finset RunnerName) : Prop :=
  ∀ name data, s.manager.listenerData.lookup name = some data →
    name ∉ spared → s.manager.processes.getState name = some state → data.pgid ≠ 0 → s.Stands name data

instance (s : Standalone) (state : RunnerState) (spared : Finset RunnerName) : Decidable (s.Guarded state spared) :=
  inferInstanceAs (Decidable (∀ name data, s.manager.listenerData.lookup name = some data → _))

/-- The record of the runner still has the `Cmd` that a `Halt` has copied. -/
def Unmoved (s : Standalone) (runner : RunnerName) (pid : Pid) : Prop :=
  ∃ data ∈ s.manager.listenerData.lookup runner, data.cmd = some pid ∧ s.Stands runner data

instance (s : Standalone) (runner : RunnerName) (pid : Pid) : Decidable (s.Unmoved runner pid) :=
  inferInstanceAs (Decidable (∃ data ∈ _, _))

/-- What keeps a step from a number that the kernel may have given away. -/
def Fresh (s : Standalone) : Call → Prop
  | .lockOthers _ activeRunners => s.Guarded .online activeRunners
  | .unlockOthers _ => s.Guarded .paused ∅
  | .own (.run t _) =>
      match s.threads.lookup t with
      | some (.stop runner phase) => ∀ pid ∈ phase.copy, s.Unmoved runner pid
      | _ => True
  | _ => True

instance (s : Standalone) (call : Call) : Decidable (s.Fresh call) := by
  unfold Fresh
  split
  · infer_instance
  · infer_instance
  · split <;> infer_instance
  · infer_instance

end Standalone

section
variable {m after : StandaloneManager} {runner : RunnerName} {answer : Answer} {head : Section} {todo : List Section}

theorem record_groups (m : StandaloneManager) (runner : RunnerName) (caller : Caller) (pid : Pid) (outcome : Finset Pid) :
    (m.record runner caller pid outcome).1.groups =
      if m.calledOff runner = false ∧ m.globalPaused = true then (m.signal {pid} .stop).groups else m.groups := by
  have finished : (StandaloneManager.record.finish m runner caller pid outcome).1.groups =
      if m.globalPaused = true then (m.signal {pid} .stop).groups else m.groups := by
    unfold StandaloneManager.record.finish
    cases m.globalPaused <;> rfl
  unfold StandaloneManager.record StandaloneManager.calledOff
  cases (m.listenerData.lookup runner).bind (·.retryCancel) with
  | none => simpa using finished
  | some channel =>
      by_cases closed : channel ∈ m.closed
      · simp [closed]
      · simpa [closed] using finished

theorem mem_swept {state : RunnerState} {spared : Finset RunnerName} {sent : Signal} {pid : Pid}
    (aimed : pid ∈ m.targets state spared) : ∃ name, ⟨name, pid, sent⟩ ∈ m.swept state spared sent := by
  obtain ⟨name, member, target⟩ := Finset.mem_biUnion.mp aimed
  refine ⟨name, Finset.mem_biUnion.mpr ⟨name, member, ?_⟩⟩
  rw [Option.mem_toFinset.mp target]
  exact Finset.mem_singleton_self _

/-- What signals change of a process is as it was. -/
def Undisturbed (after : StandaloneManager) (pid : Pid) (group : ProcessGroup) : Prop :=
  ∃ kept, after.groups.lookup pid = some kept ∧ kept.stopped = group.stopped ∧ kept.terminated = group.terminated

theorem undisturbed_signal {pgids : Finset Pid} {sent : Signal} {pid : Pid} {group : ProcessGroup}
    (known : m.groups.lookup pid = some group) (same : after.groups = (m.signal pgids sent).groups) (spared : pid ∉ pgids) :
    Undisturbed after pid group := by
  refine ⟨group, ?_, rfl, rfl⟩
  rw [same, StandaloneManager.lookup_signal, known, Option.map_some, if_neg spared]

/-- A section that waits for the process, or is to clear the record that names it. -/
def Section.tends (address : Nat) (pid : Pid) : Section → Bool
  | .serve own _ => own = pid
  | later => later.clears address

/-- What a section makes of the `Cmd` that its runner's record has after it. -/
theorem perform_tends (performed : m.perform runner answer head = some (after, todo)) {data : ListenerData}
    (known : after.listenerData.lookup runner = some data) {pid : Pid} (named : data.cmd = some pid) :
    (data.pgid = pid ∧ ∃ later ∈ todo, later.tends data.address pid = true) ∨
      ∃ before, m.listenerData.lookup runner = some before ∧ before.cmd = some pid ∧ before.pgid = data.pgid ∧
        before.address = data.address ∧
        (head.tends data.address pid = true → ∃ later ∈ todo, later.tends data.address pid = true) := by
  have same (kept : m.listenerData.lookup runner = some data)
      (hands : head.tends data.address pid = true → ∃ later ∈ todo, later.tends data.address pid = true) :
      ∃ before, m.listenerData.lookup runner = some before ∧ before.cmd = some pid ∧ before.pgid = data.pgid ∧
        before.address = data.address ∧
        (head.tends data.address pid = true → ∃ later ∈ todo, later.tends data.address pid = true) :=
    ⟨data, kept, named, rfl, rfl, hands⟩
  -- A write through a pointer that clears the `Cmd` missed the record.
  have cleared {pointer channel : Option Nat} {current : ListenerData}
      (found : m.listenerData.lookup runner = some current)
      (written : (if some current.address = pointer then { current with cmd := none, retryCancel := channel }
        else current) = data) : m.listenerData.lookup runner = some data ∧ pointer ≠ some data.address := by
    split at written
    · subst written
      cases named
    · next missed =>
        subst written
        exact ⟨found, Ne.symm missed⟩
  cases head with
  | store entry =>
      cases performed
      cases (Finmap.lookup_insert _).symm.trans known
      cases named
  | record caller own =>
      cases perform_performs performed with
      | record records =>
          have entered (looked : (m.enter runner own).listenerData.lookup runner = some data) :
              data.pgid = pid ∧ own = pid := by
            unfold StandaloneManager.enter at looked
            rw [Map.lookup_modify, if_pos rfl] at looked
            obtain ⟨current, _, rfl⟩ := Option.map_eq_some_iff.mp looked
            exact ⟨Option.some.inj named, Option.some.inj named⟩
          cases records with
          | cancelled => exact .inr (same known fun hands => by cases hands)
          | frozen | missed | free =>
              left
              obtain ⟨group, rfl⟩ := entered known
              exact ⟨group, .serve own caller.attempt, by simp [launched], by simp [Section.tends]⟩
  | serve own attempt =>
      cases perform_performs performed with
      | serve ended => exact .inr (same known fun _ => ⟨_, List.mem_singleton_self _, rfl⟩)
  | exited status attempt fast =>
      cases performed
      exact .inr (same known fun _ => ⟨_, List.mem_singleton_self _, rfl⟩)
  | decide draining status attempt fast =>
      have pointed (kept : m.listenerData.lookup runner = some data) :
          (m.listenerData.lookup runner).map (·.address) = some data.address := by rw [kept, Option.map_some]
      rcases decide_cases performed with ⟨rfl, rfl | rfl⟩ | ⟨_, rfl, rfl⟩
      · exact .inr (same known fun _ => ⟨.forget _, by simp, decide_eq_true (pointed known)⟩)
      · exact .inr (same known fun _ => ⟨.forget _, by simp, decide_eq_true (pointed known)⟩)
      · exact .inr (same known fun _ => ⟨.arm _ m.next, by simp, decide_eq_true (pointed known)⟩)
  | forget pointer | arm pointer channel =>
      cases performed
      unfold StandaloneManager.update at known
      rw [Map.lookup_modify, if_pos rfl] at known
      obtain ⟨current, found, written⟩ := Option.map_eq_some_iff.mp known
      obtain ⟨kept, missed⟩ := cleared found written
      exact .inr (same kept fun tends => absurd (of_decide_eq_true tends) missed)
  | disarm pointer =>
      cases performed
      unfold StandaloneManager.update at known
      rw [Map.lookup_modify, if_pos rfl] at known
      obtain ⟨current, found, rfl⟩ := Option.map_eq_some_iff.mp known
      refine .inr ⟨current, found, ?_, ?_, ?_, fun hands => by cases hands⟩
      · split at named <;> exact named
      · split <;> rfl
      · split <;> rfl
  | _ =>
      have kept : after.listenerData = m.listenerData := by cases perform_performs performed <;> rfl
      exact .inr (same (kept ▸ known) fun hands => by cases hands)

end

namespace Standalone

variable {s after : Standalone}

/-- A process that a record names has a goroutine of the runner: one that waits for it, or one
that has waited and is to clear the record. -/
def Tended (s : Standalone) : Prop :=
  ∀ runner data, s.manager.listenerData.lookup runner = some data → ∀ pid, data.cmd = some pid →
    data.pgid = pid ∧ ∃ t todo, s.threads.lookup t = some (.lifecycle runner todo) ∧
      ∃ later ∈ todo, later.tends data.address pid = true

theorem new_tended : Tended .new := nofun

/-- A step that leaves the lifecycles where they are, and of the records what names a process. -/
theorem Tended.carried (tended : s.Tended)
    (records : ∀ runner data, after.manager.listenerData.lookup runner = some data → data.cmd.isSome = true →
      s.manager.listenerData.lookup runner = some data)
    (threads : ∀ t runner todo, s.threads.lookup t = some (.lifecycle runner todo) →
      after.threads.lookup t = some (.lifecycle runner todo)) : after.Tended := by
  intro runner data known pid named
  obtain ⟨group, t, todo, found, tends⟩ := tended runner data (records runner data known (by simp [named])) pid named
  exact ⟨group, t, todo, threads t runner todo found, tends⟩

theorem Tended.performs {t : ThreadID} {name : RunnerName} {head : Section} {rest todo : List Section}
    {answer : Answer} {manager : StandaloneManager} (tended : s.Tended)
    (found : s.threads.lookup t = some (.lifecycle name (head :: rest)))
    (performed : s.manager.perform name answer head = some (manager, todo)) :
    (s.resume t (.lifecycle name (todo ++ rest)) manager).Tended := by
  have mine : (s.resume t (.lifecycle name (todo ++ rest)) manager).threads.lookup t =
      some (.lifecycle name (todo ++ rest)) := (lookup_resume t).trans (if_pos rfl)
  intro runner data known pid named
  by_cases same : runner = name
  · subst same
    rcases perform_tends performed known named with
      ⟨group, later, member, tends⟩ | ⟨before, looked, cmd, group, address, hands⟩
    · exact ⟨group, t, _, mine, later, List.mem_append_left _ member, tends⟩
    · obtain ⟨equal, other, others, here, later, member, tends⟩ := tended runner before looked pid cmd
      refine ⟨group.symm.trans equal, ?_⟩
      rw [address] at tends
      by_cases moves : other = t
      · subst moves
        cases found.symm.trans here
        refine ⟨other, _, mine, ?_⟩
        rcases List.mem_cons.mp member with rfl | old
        · obtain ⟨next, new, still⟩ := hands tends
          exact ⟨next, List.mem_append_left _ new, still⟩
        · exact ⟨later, List.mem_append_right _ old, tends⟩
      · exact ⟨other, others, (lookup_resume other).trans ((if_neg moves).trans here), later, member, tends⟩
  · obtain ⟨group, other, others, here, tends⟩ :=
      tended runner data (((perform_frame performed).2 runner same).2.symm.trans known) pid named
    exact ⟨group, other, others, (lookup_resume_other found (Ne.symm same)).mpr here, tends⟩

theorem Tended.step {call : Call} (tended : s.Tended) (taken : s.step call = some after) : after.Tended := by
  cases call with
  | own event =>
      cases act_moves taken with
      | start fresh started =>
          refine tended.carried (fun _ _ known _ => known) fun other runner todo found => ?_
          rw [lookup_resume, if_neg, found]
          rintro rfl
          cases fresh.symm.trans found
      | stop fresh stopped =>
          refine tended.carried (fun _ _ known _ => known) fun other runner todo found => ?_
          exact (lookup_resume_stop (fun _ _ here => by cases fresh.symm.trans here) other runner todo).mpr found
      | perform found performed => exact tended.performs found performed
      | @advance t answer name phase next manager found advanced =>
          refine tended.carried ?_ fun other runner todo here =>
            (lookup_resume_stop (fun _ _ also => by cases found.symm.trans also) other runner todo).mpr here
          intro runner data known named
          rcases advance_records advanced with ⟨records, _⟩ | ⟨old, channel, _, dead, _, _, records⟩
          · exact records ▸ known
          · change manager.listenerData.lookup runner = some data at known
            rw [records, Map.lookup_insert_if] at known
            split at known
            · -- The record whose channel is closed names no process.
              cases known
              rw [dead] at named
              cases named
            · exact known
      | exit alive => exact tended.carried (fun _ _ known _ => known) fun _ _ _ found => found
  | lockOthers | unlockOthers | markBusy | markIdle =>
      cases taken
      exact tended.carried (fun _ _ known _ => known) fun _ _ _ found => found

/-- What a goroutine waits for is a listener of its runner. -/
theorem Custody.listens (custody : s.Custody) {t : ThreadID} {runner : RunnerName} {todo : List Section} {pid : Pid}
    (found : s.threads.lookup t = some (.lifecycle runner todo)) (owns : pid ∈ owners todo) :
    s.manager.listener runner pid = true := by
  obtain ⟨group, known, unreaped, mine⟩ := (custody.kept t runner todo found).unreaped pid owns
  simp [StandaloneManager.listener, known, unreaped, mine]

/-- A `Cmd` that stands is a listener of its runner, and the leader of the group in `PGID`. -/
theorem Stands.listens {runner : RunnerName} {data : ListenerData} {pid : Pid} (stands : s.Stands runner data)
    (custody : s.Custody) (tended : s.Tended) (known : s.manager.listenerData.lookup runner = some data)
    (named : data.cmd = some pid) : data.pgid = pid ∧ s.manager.listener runner pid = true := by
  obtain ⟨group, t, todo, found, later, member, tends⟩ := tended runner data known pid named
  refine ⟨group, ?_⟩
  have spared : later.clears data.address = false := by
    refine Bool.eq_false_iff.mpr fun clears => stands.2 ⟨t, _, found, ?_⟩
    simpa [Thread.clears] using ⟨later, member, clears⟩
  cases later with
  | serve own attempt =>
      cases of_decide_eq_true tends
      exact custody.listens found (serve_mem_owners member)
  | _ => cases spared.symm.trans tends

/-- A launch signals what its own goroutine waits for. -/
theorem launch_aimed (custody : s.Custody) {call : Call} {sending : Sending} (sent : sending ∈ s.launchSends call) :
    s.manager.listener sending.runner sending.pid = true := by
  unfold launchSends at sent
  split at sent
  · split at sent
    · next found =>
        split at sent
        · cases Finset.mem_singleton.mp sent
          exact custody.listens found (mem_owners_head rfl)
        · cases sent
    · next found =>
        cases Finset.mem_singleton.mp sent
        exact custody.listens found (mem_owners_head rfl)
    · cases sent
  · cases sent

/-- A sweep whose runners have a `Cmd` that stands signals their listeners. -/
theorem swept_aimed (custody : s.Custody) (tended : s.Tended) {state : RunnerState} {spared : Finset RunnerName}
    (guarded : s.Guarded state spared) {sent : Signal} {sending : Sending}
    (member : sending ∈ s.manager.swept state spared sent) :
    s.manager.listener sending.runner sending.pid = true := by
  obtain ⟨name, among, aimed⟩ := Finset.mem_biUnion.mp member
  obtain ⟨pid, target, rfl⟩ := Option.map_eq_some_iff.mp (Option.mem_toFinset.mp aimed)
  obtain ⟨process, data, found, known, here, rfl, nonzero⟩ := StandaloneManager.target_some.mp target
  have finds : s.manager.processes.getState name = some state := by simp [Processes.getState, found, here]
  have stands := guarded name data known (Finset.mem_sdiff.mp among).2 finds nonzero
  obtain ⟨pid, named⟩ := Option.isSome_iff_exists.mp stands.1
  obtain ⟨rfl, listens⟩ := stands.listens custody tended known named
  exact listens

theorem Fresh.aimed {call : Call} (fresh : s.Fresh call) (custody : s.Custody) (tended : s.Tended) : s.Aimed call := by
  intro sending member
  rcases Finset.mem_union.mp member with recorded | launch
  · cases call with
    | lockOthers | unlockOthers => exact swept_aimed custody tended fresh recorded
    | markBusy | markIdle => cases recorded
    | own event =>
        cases event with
        | start | stop | exit => cases recorded
        | run t answer =>
            unfold recordedSends at recorded
            unfold Fresh at fresh
            dsimp only at recorded fresh
            split at recorded
            · next runner phase found =>
                rw [found] at fresh
                obtain ⟨⟨pid, sent⟩, sends, rfl⟩ := Option.map_eq_some_iff.mp (Option.mem_toFinset.mp recorded)
                obtain ⟨data, known, named, stands⟩ := fresh pid (by simp [StopPhase.copy, sends])
                exact (stands.listens custody tended known named).2
            · cases recorded
  · exact launch_aimed custody launch

theorem undisturbed_perform {t : ThreadID} {runner : RunnerName} {answer : Answer} {head : Section}
    {rest todo : List Section} {manager : StandaloneManager} {pid : Pid} {group : ProcessGroup}
    (found : s.threads.lookup t = some (.lifecycle runner (head :: rest)))
    (performed : s.manager.perform runner answer head = some (manager, todo))
    (known : s.manager.groups.lookup pid = some group) (unreaped : group.reaped = false)
    (unsent : ∀ sending ∈ s.launchSends (.own (.run t answer)), sending.pid ≠ pid) :
    Undisturbed manager pid group := by
  have same (kept : manager.groups = s.manager.groups) : Undisturbed manager pid group :=
    ⟨group, kept ▸ known, rfl, rfl⟩
  unfold launchSends at unsent
  dsimp only at unsent
  rw [found] at unsent
  cases head with
  | record caller own =>
      have groups := record_groups s.manager runner caller own answer.outcome
      have records : s.manager.record runner caller own answer.outcome = (manager, todo) := Option.some.inj performed
      rw [records] at groups
      dsimp only at unsent
      split at groups
      · next both =>
          rw [if_pos both] at unsent
          have other : own ≠ pid := unsent _ (Finset.mem_singleton_self _)
          exact undisturbed_signal known groups (by simpa using other.symm)
      · exact same groups
  | abort caller own =>
      cases performed
      have other : own ≠ pid := unsent _ (Finset.mem_singleton_self _)
      refine ⟨group, ?_, rfl, rfl⟩
      dsimp only
      rw [Map.lookup_modify, if_neg other.symm, known]
  | spawn caller =>
      cases perform_performs performed with
      | spawnFail => exact same rfl
      | spawn clean nonzero free =>
          refine ⟨group, ?_, rfl, rfl⟩
          dsimp only
          rw [Map.lookup_insert_if, if_neg, known]
          rintro rfl
          rw [known] at free
          cases unreaped.symm.trans free
  | serve own attempt =>
      cases perform_performs performed with
      | serve ended =>
          unfold Undisturbed
          dsimp only
          rw [Map.lookup_modify, known]
          split
          · exact ⟨_, rfl, rfl, rfl⟩
          · exact ⟨group, rfl, rfl, rfl⟩
  | _ => cases perform_performs performed <;> exact same rfl

theorem undisturbed_advance {t : ThreadID} {runner : RunnerName} {answer : Answer} {phase next : StopPhase}
    {manager : StandaloneManager} {pid : Pid} {group : ProcessGroup}
    (found : s.threads.lookup t = some (.stop runner phase))
    (advanced : s.manager.advance runner answer phase = some (manager, next))
    (known : s.manager.groups.lookup pid = some group)
    (unsent : ∀ sending ∈ s.recordedSends (.own (.run t answer)), sending.pid ≠ pid) :
    Undisturbed manager pid group := by
  unfold recordedSends at unsent
  dsimp only at unsent
  rw [found] at unsent
  have spared {own : Pid} {sent : Signal} (sends : phase.sends = some (own, sent)) : pid ∉ ({own} : Finset Pid) := by
    have other : own ≠ pid := unsent ⟨runner, own, sent⟩ (by simp [sends])
    simpa using other.symm
  cases advance_advances advanced with
  | killing | resuming | interrupting | missed | expiring => exact undisturbed_signal known rfl (spared rfl)
  | _ => exact ⟨group, known, rfl, rfl⟩

/-- No signal is left out: a step stops, continues or terminates no process that it does not send to. -/
theorem undisturbed_step {call : Call} (taken : s.step call = some after) {pid : Pid} {group : ProcessGroup}
    (known : s.manager.groups.lookup pid = some group) (unreaped : group.reaped = false)
    (unsent : ∀ sending ∈ s.sends call, sending.pid ≠ pid) : Undisturbed after.manager pid group := by
  have recorded (sending : Sending) (member : sending ∈ s.recordedSends call) : sending.pid ≠ pid :=
    unsent sending (Finset.mem_union_left _ member)
  have unswept {state : RunnerState} {spared : Finset RunnerName} {sent : Signal}
      (sweeps : s.recordedSends call = s.manager.swept state spared sent) : pid ∉ s.manager.targets state spared := by
    intro aimed
    obtain ⟨name, member⟩ := mem_swept aimed
    exact recorded _ (sweeps ▸ member) rfl
  cases call with
  | own event =>
      cases act_moves taken with
      | start | stop => exact ⟨group, known, rfl, rfl⟩
      | perform found performed =>
          refine undisturbed_perform found performed known unreaped fun sending member => ?_
          exact unsent sending (Finset.mem_union_right _ member)
      | advance found advanced => exact undisturbed_advance found advanced known recorded
      | exit alive =>
          unfold Undisturbed
          dsimp only
          rw [Map.lookup_modify, known]
          split
          · exact ⟨_, rfl, rfl, rfl⟩
          · exact ⟨group, rfl, rfl, rfl⟩
  | lockOthers outcome activeRunners =>
      cases taken
      exact undisturbed_signal known rfl (unswept rfl)
  | unlockOthers outcome =>
      cases taken
      exact undisturbed_signal known rfl (unswept rfl)
  | markBusy runner | markIdle runner =>
      cases taken
      exact ⟨group, known, rfl, rfl⟩

/-- The step stops, continues or terminates no process but those that it signals for their own runner. -/
def SparesOthers (s : Standalone) (call : Call) (after : Standalone) : Prop :=
  ∀ pid group, s.manager.groups.lookup pid = some group → group.reaped = false →
    (∀ sending ∈ s.sends call, sending.pid = pid → sending.runner ≠ group.runner) → Undisturbed after.manager pid group

theorem Aimed.sparesOthers {call : Call} (aimed : s.Aimed call) (taken : s.step call = some after) :
    s.SparesOthers call after := by
  intro pid group known unreaped apart
  apply undisturbed_step taken known unreaped
  rintro sending member rfl
  have listens := aimed sending member
  simp [StandaloneManager.listener, known] at listens
  exact apart sending member rfl listens.1.symm

/-- A listener that comes online under the process ID 7. -/
def onlineAt (t : ThreadID) (runner : RunnerName) : List Call :=
  .own (.start t runner) :: List.replicate 6 (.own (.run t ⟨none, 7, true, ∅⟩))

/-- In every run whose sweeps find no runner without a `Cmd` that stands, and whose `Halt`s signal
what the record still has, all signals go to listeners of their runners that have not been reaped,
and no process of another runner is disturbed. -/
theorem signals_aimed (calls : List Call) (fresh : Throughout step (fun s call _ => s.Fresh call) .new calls) :
    Throughout step (fun s call after => s.Aimed call ∧ s.SparesOthers call after) .new calls := by
  refine Throughout.imp_invariant (fun s => s.Custody ∧ s.Tended) ?_ ?_ ⟨new_custody, new_tended⟩ fresh
  · rintro s call after ⟨custody, tended⟩ taken meets
    have aimed := meets.aimed custody tended
    exact ⟨aimed, aimed.sparesOthers taken⟩
  · rintro s call after ⟨custody, tended⟩ taken _
    exact ⟨custody.step taken, tended.step taken⟩

/-- A listener is stopped by the pause and continued, and ended by a `Stop`. -/
theorem signals_aimed_stop : Throughout step (fun s call after => s.Aimed call ∧ s.SparesOthers call after) .new
    (onlineAt 0 "a" ++ [.lockOthers ∅ ∅, .unlockOthers ∅, .own (.stop 1 "a" false)] ++
      List.replicate 3 (.own (.run 1 ⟨none, 7, false, ∅⟩)) ++ [.own (.exit 7 .clean)] ++
      List.replicate 6 (.own (.run 0 ⟨none, 7, true, ∅⟩)) ++ List.replicate 2 (.own (.run 1 ⟨none, 7, false, ∅⟩))) := by
  apply signals_aimed
  decide

/-- `LockOthers` between the `Wait` for a listener and its `Transition` to Offline stops the listener
of the one active runner, which has been given the number since; and a runner that is started anew
within the poll of its `Halt` leaves the last `SIGKILL` to the old group. -/
theorem signals_stray :
    (∃ s, Reaches step (· = .new) everyStep s ∧ ∃ after ∈ s.step (.lockOthers ∅ {"b"}),
      ¬s.Aimed (.lockOthers ∅ {"b"}) ∧ s.manager.listener "b" 7 = true ∧ after.manager.stopped 7 = true) ∧
    ∃ s, Reaches step (· = .new) everyStep s ∧ ∃ after ∈ s.step (.own (.run 1 ⟨none, 8, true, ∅⟩)),
      ⟨"a", 7, .kill⟩ ∈ s.sends (.own (.run 1 ⟨none, 8, true, ∅⟩)) ∧ s.manager.listener "a" 7 = false ∧
      after.manager.processes.getState "a" = some .online := by
  constructor
  · refine Reaches.of_replay rfl (onlineAt 0 "a" ++ [.own (.exit 7 .clean), .own (.run 0 ⟨none, 7, true, ∅⟩)] ++
      onlineAt 1 "b") ?_
    decide
  · refine Reaches.of_replay rfl (onlineAt 0 "a" ++ [.own (.stop 1 "a" false)] ++
      List.replicate 3 (.own (.run 1 ⟨none, 7, false, ∅⟩)) ++ [.own (.exit 7 .clean)] ++
      List.replicate 6 (.own (.run 0 ⟨none, 7, true, ∅⟩)) ++ [.own (.start 2 "a")] ++
      List.replicate 6 (.own (.run 2 ⟨none, 8, true, ∅⟩)) ++
      List.replicate 2 (.own (.run 1 ⟨none, 8, true, ∅⟩))) ?_
    decide

end Standalone

end RunnersMux
