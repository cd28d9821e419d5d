import RunnersMux.Standalone.Ownership
import RunnersMux.Foundations.Transitions

/-! Runs in which a launch never overlaps another launch of the same runner.

What a step asks of its pre-state for the ownership of the listeners to survive
it is `Orderly`; the run lemma is `reached_owned`.
-/

set_option autoImplicit false

namespace RunnersMux

open Foundations

/-- A change of the manager that every lifecycle thread can ignore. -/
structure Steady (m after : StandaloneManager) : Prop where
  data : ∀ name, (after.listenerData.lookup name).map (fun data => (data.cmd, data.pgid)) =
    (m.listenerData.lookup name).map fun data => (data.cmd, data.pgid)
  group : ∀ pid group, m.groups.lookup pid = some group → ∃ kept, after.groups.lookup pid = some kept ∧
    kept.reaped = group.reaped ∧ kept.runner = group.runner
  live : ∀ pid, after.live pid = true → m.live pid = true

namespace Steady

variable {m after : StandaloneManager}

theorem of_groups (groups : after.groups = m.groups)
    (data : ∀ name, (after.listenerData.lookup name).map (fun data => (data.cmd, data.pgid)) =
      (m.listenerData.lookup name).map fun data => (data.cmd, data.pgid)) : Steady m after := by
  constructor
  · exact data
  · intro pid group known
    rw [groups]
    exact ⟨group, known, rfl, rfl⟩
  · intro pid live
    unfold StandaloneManager.live at live ⊢
    rw [← groups]
    exact live

theorem of_signal {pgids : Finset Pid} {sent : Signal} (groups : after.groups = (m.signal pgids sent).groups)
    (records : after.listenerData = m.listenerData) : Steady m after := by
  constructor
  · intro name
    rw [records]
  · intro pid group known
    rw [groups, StandaloneManager.lookup_signal, known]
    refine ⟨_, rfl, ?_, ?_⟩
    · split
      · exact ProcessGroup.deliver_reaped _ _
      · rfl
    · split
      · exact ProcessGroup.deliver_runner _ _
      · rfl
  · intro pid live
    have same : after.live pid = (m.signal pgids sent).live pid := by
      unfold StandaloneManager.live
      rw [groups]
    rw [same, StandaloneManager.live_signal] at live
    exact (Bool.and_eq_true_iff.mp live).1

theorem back (steady : Steady m after) {name : RunnerName} {data : ListenerData}
    (looked : after.listenerData.lookup name = some data) :
    ∃ before, m.listenerData.lookup name = some before ∧ before.cmd = data.cmd ∧ before.pgid = data.pgid := by
  have same := steady.data name
  rw [looked] at same
  obtain ⟨before, found, equal⟩ := Option.map_eq_some_iff.mp same.symm
  exact ⟨before, found, congrArg Prod.fst equal, congrArg Prod.snd equal⟩

theorem forth (steady : Steady m after) {name : RunnerName} {data : ListenerData}
    (looked : m.listenerData.lookup name = some data) :
    ∃ now, after.listenerData.lookup name = some now ∧ now.cmd = data.cmd ∧ now.pgid = data.pgid := by
  have same := steady.data name
  rw [looked] at same
  obtain ⟨now, found, equal⟩ := Option.map_eq_some_iff.mp same
  exact ⟨now, found, congrArg Prod.fst equal, congrArg Prod.snd equal⟩

theorem sane (steady : Steady m after) {runner : RunnerName} {todo : List Section} (sane : Sane m runner todo) :
    Sane after runner todo := by
  constructor
  · exact sane.tidy
  · intro pid member
    obtain ⟨nonzero, group, known, unreaped, mine⟩ := sane.unreaped pid member
    obtain ⟨kept, looked, still, same⟩ := steady.group pid group known
    exact ⟨nonzero, kept, looked, still.trans unreaped, same.trans mine⟩
  · intro late
    obtain ⟨data, looked⟩ := sane.stored late
    obtain ⟨now, found, _, _⟩ := steady.forth looked
    exact ⟨now, found⟩
  · intro pid attempt member
    obtain ⟨data, looked, cmd, pgid⟩ := sane.recorded pid attempt member
    obtain ⟨now, found, same, also⟩ := steady.forth looked
    exact ⟨now, found, same.trans cmd, also.trans pgid⟩

end Steady

namespace Standalone

section
variable {s after : Standalone} {t : ThreadID} {runner : RunnerName} {entry : Nat} {manager : StandaloneManager}

theorem OwnersApart.steady (apart : OwnersApart s) (threads : ∀ t runner todo,
    after.threads.lookup t = some (.lifecycle runner todo) ↔ s.threads.lookup t = some (.lifecycle runner todo)) :
    OwnersApart after := by
  intro t other runner name todo others pid one two
  exact apart t other runner name todo others pid ((threads _ _ _).mp one) ((threads _ _ _).mp two)

theorem LiveOwned.steady (alive : LiveOwned s) (steady : Steady s.manager after.manager) (threads : ∀ t runner todo,
    after.threads.lookup t = some (.lifecycle runner todo) ↔ s.threads.lookup t = some (.lifecycle runner todo)) :
    LiveOwned after := by
  intro pid live
  obtain ⟨t, runner, todo, found, member⟩ := alive pid (steady.live pid live)
  exact ⟨t, runner, todo, (threads _ _ _).mpr found, member⟩

/-- A lifecycle that begins owns nothing. -/
theorem OwnersApart.begins (apart : OwnersApart s) :
    OwnersApart (s.resume t (.lifecycle runner [.initializeEnvironment entry]) manager) := by
  intro first second name other todo others pid one two member also
  rw [lookup_resume] at one two
  split at one
  · cases one
    cases member
  · split at two
    · cases two
      cases also
    · exact apart first second name other todo others pid one two member also

theorem lookup_begins {other : ThreadID} {thread new : Thread} (fresh : s.threads.lookup t = none)
    (found : s.threads.lookup other = some thread) : (s.resume t new manager).threads.lookup other = some thread := by
  rw [lookup_resume, if_neg, found]
  rintro rfl
  cases fresh.symm.trans found

theorem LiveOwned.begins {new : Thread} (alive : LiveOwned s) (fresh : s.threads.lookup t = none)
    (steady : Steady s.manager manager) : LiveOwned (s.resume t new manager) := by
  intro pid live
  obtain ⟨other, name, todo, found, member⟩ := alive pid (steady.live pid live)
  exact ⟨other, name, todo, lookup_begins fresh found, member⟩

end

/-- A step that leaves the lifecycle threads where they are. -/
theorem Owned.steady {s after : Standalone} (owned : Owned s) (steady : Steady s.manager after.manager)
    (threads : ∀ t runner todo, after.threads.lookup t = some (.lifecycle runner todo) ↔
      s.threads.lookup t = some (.lifecycle runner todo)) : Owned after := by
  constructor
  · intro t other runner head next rest others one two
    exact owned.single t other runner head next rest others ((threads _ _ _).mp one) ((threads _ _ _).mp two)
  · exact OwnersApart.steady owned.apart threads
  · intro t runner todo found
    exact steady.sane (owned.sane t runner todo ((threads _ _ _).mp found))
  · intro runner data recorded live
    obtain ⟨before, looked, cmd, pgid⟩ := steady.back recorded
    rw [← pgid] at live ⊢
    obtain ⟨mine, t, todo, attempt, found, member⟩ := owned.owner runner before looked (steady.live _ live)
    exact ⟨cmd ▸ mine, t, todo, attempt, (threads _ _ _).mpr found, member⟩
  · exact LiveOwned.steady owned.alive steady threads

/-- A new lifecycle begins when the runner's last one has run to its end. -/
theorem Owned.begins {s : Standalone} {t : ThreadID} {runner : RunnerName} {entry : Nat}
    {manager : StandaloneManager} (owned : Owned s) (fresh : s.threads.lookup t = none)
    (ended : ∀ other thread, s.threads.lookup other = some thread → thread.runs runner = false)
    (groups : manager.groups = s.manager.groups) (records : manager.listenerData = s.manager.listenerData) :
    Owned (s.resume t (.lifecycle runner [.initializeEnvironment entry]) manager) := by
  have steady : Steady s.manager manager := .of_groups groups fun name => by rw [records]
  have idle (other : ThreadID) (head : Section) (rest : List Section)
      (found : s.threads.lookup other = some (.lifecycle runner (head :: rest))) : False := by
    have stopped := ended other _ found
    simp [Thread.runs] at stopped
  constructor
  · intro first second name head next rest others one two
    rw [lookup_resume] at one two
    split at one <;> split at two
    · next same also => exact same.trans also.symm
    · have equal := (Thread.lifecycle.inj (Option.some.inj one)).1
      subst equal
      exact (idle second next others two).elim
    · have equal := (Thread.lifecycle.inj (Option.some.inj two)).1
      subst equal
      exact (idle first head rest one).elim
    · exact owned.single first second name head next rest others one two
  · exact OwnersApart.begins owned.apart
  · intro other name todo found
    rw [lookup_resume] at found
    split at found
    · cases found
      exact .of_ownerless rfl (by simp [Section.late])
    · exact steady.sane (owned.sane other name todo found)
  · intro name data recorded live
    obtain ⟨cmd, other, todo, attempt, found, member⟩ :=
      owned.owner name data (records ▸ recorded) (steady.live _ live)
    exact ⟨cmd, other, todo, attempt, lookup_begins fresh found, member⟩
  · exact LiveOwned.begins owned.alive fresh steady

end Standalone

def Call.starts : Call → Option RunnerName
  | .own (.start _ runner) => some runner
  | _ => none

/-- The process that a step forks. -/
def Standalone.forks (s : Standalone) : Call → Option Pid
  | .own (.run t answer) =>
      match s.threads.lookup t with
      | some (.lifecycle _ (head :: _)) => head.forks answer
      | _ => none
  | _ => none

/-- A runner is started after its last lifecycle has ended, and the kernel hands
out no number that is still recorded as a `PGID`. -/
structure Orderly (s : Standalone) (call : Call) : Prop where
  starts : ∀ runner ∈ call.starts, ∀ t thread, s.threads.lookup t = some thread → thread.runs runner = false
  forks : ∀ pid ∈ s.forks call, ∀ name data, s.manager.listenerData.lookup name = some data → data.pgid ≠ pid

instance (s : Standalone) (call : Call) : Decidable (Orderly s call) :=
  decidable_of_iff (_ ∧ _) ⟨fun both => ⟨both.1, both.2⟩, fun orderly => ⟨orderly.starts, orderly.forks⟩⟩

namespace StandaloneManager

variable {m after : StandaloneManager}

theorem advance_steady {runner : RunnerName} {answer : Answer} {phase next : StopPhase}
    (advanced : m.advance runner answer phase = some (after, next)) : Steady m after := by
  cases advance_advances advanced with
  | cancel known dead =>
      refine .of_groups rfl fun name => ?_
      dsimp only
      rw [Map.lookup_insert_if]
      split
      · next equal => rw [equal, known]; rfl
      · rfl
  | killing | resuming | interrupting | missed | expiring => exact .of_signal rfl rfl
  | _ => exact .of_groups rfl fun _ => rfl

theorem exit_steady (pid : Pid) (status : ExitStatus) : Steady m
    { m with groups := m.groups.modify pid fun group => { group with exit := some status } } := by
  constructor
  · intro name
    rfl
  · intro other group known
    dsimp only
    rw [Map.lookup_modify, known]
    split
    · exact ⟨_, rfl, rfl, rfl⟩
    · exact ⟨_, rfl, rfl, rfl⟩
  · intro other alive
    unfold StandaloneManager.live at alive ⊢
    dsimp only at alive
    rw [Map.lookup_modify] at alive
    split at alive
    · cases known : m.groups.lookup other with
      | none =>
          rw [known] at alive
          cases alive
      | some group =>
          rw [known] at alive
          cases alive
    · exact alive

end StandaloneManager

namespace Standalone

theorem new_owned : Owned .new := by
  constructor
  · intro t other runner head next rest others found
    cases found
  · intro t other runner name todo others pid found
    cases found
  · intro t runner todo found
    cases found
  · intro runner data recorded
    cases recorded
  · intro pid alive
    cases alive

/-- The stop threads are not the lifecycle threads' business. -/
theorem lookup_resume_stop {s : Standalone} {t : ThreadID} {runner : RunnerName} {phase : StopPhase}
    {manager : StandaloneManager} (apart : ∀ name todo, s.threads.lookup t ≠ some (.lifecycle name todo))
    (other : ThreadID) (name : RunnerName) (todo : List Section) :
    (s.resume t (.stop runner phase) manager).threads.lookup other = some (.lifecycle name todo) ↔
      s.threads.lookup other = some (.lifecycle name todo) := by
  change (s.threads.insert t (.stop runner phase)).lookup other = _ ↔ _
  rw [Map.lookup_insert_if]
  split
  · next same =>
      subst same
      constructor
      · nofun
      · intro found
        exact absurd found (apart name todo)
  · rfl

theorem Owned.step {s after : Standalone} {call : Call} (owned : Owned s) (orderly : Orderly s call)
    (taken : s.step call = some after) : Owned after := by
  cases call with
  | own event =>
      cases act_moves taken with
      | start fresh started => exact owned.begins fresh (orderly.starts _ rfl) rfl rfl
      | stop fresh stopped =>
          refine owned.steady (.of_groups rfl fun _ => rfl) (lookup_resume_stop ?_)
          intro name todo found
          cases fresh.symm.trans found
      | perform found performed =>
          apply owned.performs found performed
          intro pid forked
          apply orderly.forks pid
          simp only [forks, found]
          exact forked
      | advance found advanced =>
          apply owned.steady (StandaloneManager.advance_steady advanced)
          apply lookup_resume_stop
          intro name todo lifecycle
          cases found.symm.trans lifecycle
      | exit alive => exact owned.steady (StandaloneManager.exit_steady _ _) fun _ _ _ => Iff.rfl
  | lockOthers outcome activeRunners =>
      cases taken
      exact owned.steady (.of_signal rfl rfl) fun _ _ _ => Iff.rfl
  | unlockOthers outcome =>
      cases taken
      exact owned.steady (.of_signal rfl rfl) fun _ _ _ => Iff.rfl
  | markBusy runner =>
      cases taken
      exact owned.steady (.of_groups rfl fun _ => rfl) fun _ _ _ => Iff.rfl
  | markIdle runner =>
      cases taken
      exact owned.steady (.of_groups rfl fun _ => rfl) fun _ _ _ => Iff.rfl

/-- In an orderly run every live listener has one owner. -/
theorem reached_owned {allowed : Standalone → Call → Prop} (orderly : ∀ s call, allowed s call → Orderly s call)
    {s : Standalone} (reached : Reaches step (· = .new) allowed s) : Owned s := by
  apply reached.invariant
  · rintro _ rfl
    exact new_owned
  · intro state call after _ owned permitted taken
    exact owned.step (orderly state call permitted) taken

end Standalone

end RunnersMux
