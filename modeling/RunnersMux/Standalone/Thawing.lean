import RunnersMux.Standalone.Freezing

/-! No listener stays stopped after the pause has ended.

One step of a run that meets `Resumable` keeps every stopped listener accounted
for, and so does the run. Outside launches and halts the only account that is
left is a Paused runner, and `UnlockOthers` leaves none.
-/

set_option autoImplicit false

namespace RunnersMux

open Foundations

namespace StandaloneManager

variable {m : StandaloneManager} {source : RunnerState} {spared : Finset RunnerName} {name : RunnerName}
  {process : ProcessState} (outcome : Finset Pid) (goal : RunnerState) (sent : Signal)

theorem sweep_moves {pid : Pid} (found : m.processes.lookup name = some process) (kept : name ∉ spared)
    (aimed : m.target source name = some pid) (live : m.live pid = true) :
    (m.sweep outcome source goal sent spared).processes.lookup name = some { process with state := goal } := by
  change (m.processes.mapValues _).lookup name = _
  rw [Map.lookup_mapValues, found, Option.map_some, if_pos]
  refine ⟨kept, ?_⟩
  rw [aimed, Option.any_some, answers, live, Bool.true_or]

theorem sweep_other (found : m.processes.lookup name = some process) (other : process.state ≠ source) :
    (m.sweep outcome source goal sent spared).processes.lookup name = some process := by
  change (m.processes.mapValues _).lookup name = _
  rw [Map.lookup_mapValues, found, Option.map_some, if_neg]
  rintro ⟨_, aims⟩
  exact other (target_state found aims)

end StandaloneManager

namespace Standalone

theorem Thawable.lockOthers {s : Standalone} (thawable : Thawable s) (outcome : Finset Pid)
    (activeRunners : Finset RunnerName) :
    Thawable { s with manager := s.manager.lockOthers outcome activeRunners } := by
  constructor
  · intro pid stopped
    change (s.manager.signal (s.manager.targets .online activeRunners) .stop).stopped pid = true at stopped
    rw [StandaloneManager.stopped_signal] at stopped
    split at stopped
    · next aimed =>
        have live := (Bool.and_eq_true_iff.mp stopped).1
        obtain ⟨name, kept, target⟩ := StandaloneManager.mem_targets.mp aimed
        obtain ⟨process, data, found, looked, _, pgid, nonzero⟩ := StandaloneManager.target_some.mp target
        have moved := StandaloneManager.sweep_moves outcome .paused .stop found kept target live
        exact .inl ⟨name, StandaloneManager.target_some.mpr ⟨_, data, moved, looked, rfl, pgid, nonzero⟩⟩
    · rcases thawable.explained pid stopped with recorded | other
      · left
        apply Recorded.kept recorded
        intro name process data found paused looked pgid
        refine ⟨⟨process, ?_, paused⟩, data, looked, pgid⟩
        exact StandaloneManager.sweep_other outcome .paused .stop found (by rw [paused]; decide)
      · exact .inr other
  · nofun

theorem Thawable.unlockOthers {s : Standalone} (thawable : Thawable s) (outcome : Finset Pid) :
    Thawable { s with manager := s.manager.unlockOthers outcome } := by
  have others (pid : Pid) (stopped : (s.manager.unlockOthers outcome).stopped pid = true) :
      s.Freezing pid ∨ s.Halting pid := by
    change (s.manager.signal (s.manager.targets .paused ∅) .cont).stopped pid = true at stopped
    rw [StandaloneManager.stopped_signal] at stopped
    split at stopped
    · cases (Bool.and_false _).symm.trans stopped
    · next missed =>
        rcases thawable.explained pid stopped with ⟨name, target⟩ | other
        · exact absurd (StandaloneManager.mem_targets.mpr ⟨name, Finset.notMem_empty name, target⟩) missed
        · exact other
  constructor
  · intro pid stopped
    exact .inr (others pid stopped)
  · intro _ pid stopped
    exact others pid stopped

theorem Thawable.begins {s : Standalone} {t : ThreadID} {thread : Thread} {runner : RunnerName}
    {processes : Processes} {next : Nat} (thawable : Thawable s) (fresh : s.threads.lookup t = none)
    (started : s.manager.processes.start runner s.manager.next = .ok processes) :
    Thawable (s.resume t thread { s.manager with processes, next }) := by
  refine thawable.carried (fun pid stopped => .inr (.frame stopped ?_ (.of_groups rfl fun _ => rfl) ?_)) rfl
  · exact fun other older found _ => .inl (lookup_begins fresh found)
  · intro name process _ found paused
    obtain ⟨refused, rfl⟩ := Processes.start_ok started
    refine .inl ⟨process, (Finmap.lookup_insert_of_ne _ ?_).trans found, paused⟩
    rintro rfl
    apply refused
    unfold Processes.getState
    rw [found, ← paused]
    rfl

theorem Thawable.stops {s : Standalone} {t : ThreadID} {runner : RunnerName} {force : Bool}
    {processes : Processes} (thawable : Thawable s) (owned : Owned s) (fresh : s.threads.lookup t = none)
    (stops : s.manager.processes.stop runner = .ok (some processes)) :
    Thawable (s.resume t (.stop runner (.halting force)) { s.manager with processes }) := by
  refine thawable.carried (fun pid stopped => .inr (.frame stopped ?_ (.of_groups rfl fun _ => rfl) ?_)) rfl
  · exact fun other older found _ => .inl (lookup_begins fresh found)
  · intro name process aimed found paused
    obtain ⟨entry, known, rfl⟩ := Processes.stop_ok stops
    by_cases same : name = runner
    · -- The runner is Draining from here on, and the new thread knows its listener.
      subst same
      obtain ⟨_, data, _, looked, _, pgid, _⟩ := StandaloneManager.target_some.mp aimed
      subst pgid
      have live : s.manager.live data.pgid = true := StandaloneManager.stopped_live stopped
      right
      exact ⟨t, _, Finmap.lookup_insert _, StandaloneManager.halting_iff.mpr
        (.inl ⟨name, force, data, rfl, looked, (owned.owner name data looked live).1, rfl⟩)⟩
    · exact .inl ⟨process, (Finmap.lookup_insert_of_ne _ same).trans found, paused⟩

theorem Thawable.advances {s : Standalone} {t : ThreadID} {runner : RunnerName} {answer : Answer}
    {phase next : StopPhase} {manager : StandaloneManager} (thawable : Thawable s)
    (found : s.threads.lookup t = some (.stop runner phase))
    (advanced : s.manager.advance runner answer phase = some (manager, next)) :
    Thawable (s.resume t (.stop runner next) manager) := by
  have frame := advance_frame advanced
  apply thawable.carried
  · intro pid stopped
    right
    have ⟨before, moves⟩ := StandaloneManager.advance_stopped advanced stopped
    apply Carries.frame before
    · intro other thread here deals
      by_cases same : other = t
      · subst same
        cases found.symm.trans here
        rcases deals with freezes | halts
        · cases freezes
        · exact .inr ⟨other, _, Finmap.lookup_insert _, moves halts⟩
      · exact .inl ((Finmap.lookup_insert_of_ne _ same).trans here)
    · exact StandaloneManager.advance_steady advanced
    · intro name process _ known paused
      exact .inl ⟨process, (congrArg _ frame.1).trans known, paused⟩
  · exact frame.2

theorem Thawable.exits {s : Standalone} {pid : Pid} {status : ExitStatus} (thawable : Thawable s) :
    Thawable { s with manager := { s.manager with
      groups := s.manager.groups.modify pid fun group => { group with exit := some status } } } := by
  apply thawable.carried
  · intro other stopped
    right
    apply Carries.frame
    · apply And.left
      apply stopped_groups pid _ _ stopped
      · intro another different
        rw [Map.lookup_modify, if_neg different]
      · rw [Map.lookup_modify, if_pos rfl]
        cases s.manager.groups.lookup pid <;> rfl
    · intro t thread found _
      exact .inl found
    · exact StandaloneManager.exit_steady pid status
    · intro name process _ found paused
      exact .inl ⟨process, found, paused⟩
  · rfl

/-- A change of one entry that leaves a Paused runner with a stopped listener Paused. -/
theorem Thawable.marks {s : Standalone} {runner : RunnerName} {change : ProcessState → ProcessState}
    (thawable : Thawable s)
    (keeps : ∀ process pid, s.manager.processes.lookup runner = some process → process.state = .paused →
      s.manager.target .paused runner = some pid → s.manager.stopped pid = true → (change process).state = .paused) :
    Thawable { s with manager := { s.manager with processes := s.manager.processes.modify runner change } } := by
  apply thawable.carried
  · intro pid stopped
    right
    have before : s.manager.stopped pid = true := stopped
    apply Carries.frame before
    · intro t thread found _
      exact .inl found
    · exact .of_groups rfl fun _ => rfl
    · intro name process aimed found paused
      left
      by_cases same : name = runner
      · subst same
        refine ⟨change process, ?_, keeps process pid found paused aimed before⟩
        change (s.manager.processes.modify name change).lookup name = _
        rw [Map.lookup_modify, if_pos rfl, found]
        rfl
      · refine ⟨process, ?_, paused⟩
        change (s.manager.processes.modify runner change).lookup name = _
        rw [Map.lookup_modify, if_neg same, found]
  · rfl

theorem Thawable.step {s after : Standalone} {call : Call} (owned : Owned s) (thawable : Thawable s)
    (resumable : Resumable s call) (taken : s.step call = some after) : Thawable after := by
  cases call with
  | own event =>
      cases act_moves taken with
      | start fresh started => exact thawable.begins fresh started
      | stop fresh stops => exact thawable.stops owned fresh stops
      | @perform t answer runner head todo rest manager found performed =>
          have turn : s.turn (.own (.run t answer)) = some (runner, head, rest) := by
            simp only [Standalone.turn, found]
          apply thawable.carried
          · intro pid stopped
            apply Carries.perform owned found performed
            · intro shape waits
              exact resumable.accepted _ turn shape pid waits
            · intro goal shape allowed aimed
              apply resumable.held runner _ pid aimed
              subst shape
              simp only [unpauses, turn, if_pos allowed]
              rfl
            · exact stopped
          · exact (perform_frame performed).1
      | advance found advanced => exact thawable.advances found advanced
      | exit alive => exact thawable.exits
  | lockOthers outcome activeRunners =>
      cases taken
      exact thawable.lockOthers outcome activeRunners
  | unlockOthers outcome =>
      cases taken
      exact thawable.unlockOthers outcome
  | markBusy runner =>
      cases taken
      apply thawable.marks
      intro process pid _ _ aimed stopped
      cases stopped.symm.trans (resumable.held runner rfl pid aimed)
  | markIdle runner =>
      cases taken
      apply thawable.marks
      intro process pid _ paused _ _
      unfold ProcessState.idle
      rw [paused]
      exact if_neg fun both => RunnerState.noConfusion both.2

theorem new_thawable : Thawable .new := by
  constructor
  · intro pid stopped
    cases stopped
  · intro _ pid stopped
    cases stopped

theorem reached_thawable {allowed : Standalone → Call → Prop}
    (resumable : ∀ s call, allowed s call → Resumable s call) {s : Standalone}
    (reached : Reaches step (· = .new) allowed s) : Owned s ∧ Thawable s := by
  apply reached.invariant
  · rintro _ rfl
    exact ⟨new_owned, new_thawable⟩
  · intro state call after _ ⟨owned, thawable⟩ permitted taken
    have careful := resumable state call permitted
    exact ⟨owned.step careful.orderly taken, thawable.step owned careful taken⟩

end Standalone

/-- A thread inside `launchListener`, from the fork on, or inside `Halt`. -/
def Thread.calling : Thread → Bool
  | .lifecycle _ (.record _ _ :: _) | .lifecycle _ (.abort _ _ :: _) => true
  | .lifecycle _ (_ :: rest) => decide (served rest ≠ [])
  | .lifecycle _ [] => false
  | .stop _ (.returned _) => false
  | .stop _ _ => true

/-- An answer without an error; a section that forks gets the process ID. -/
def Answer.of (pid : Pid) : Answer := ⟨none, pid, false, ∅⟩

theorem Thread.freezing_calling {thread : Thread} {pid : Pid} (freezes : thread.freezing pid = true) :
    thread.calling = true := by
  obtain ⟨runner, rest, rfl, waits⟩ := Standalone.Freezing.lifecycle freezes
  exact decide_eq_true (List.ne_nil_of_mem waits)

theorem StandaloneManager.halting_calling {m : StandaloneManager} {thread : Thread} {pid : Pid}
    (halts : m.halting pid thread = true) : thread.calling = true := by
  rcases halting_iff.mp halts with ⟨_, _, _, rfl, _⟩ | ⟨_, rfl⟩ | ⟨_, _, rfl⟩ <;> rfl

/-- The steps of a launch, from `Start` to `Wait`. -/
def launch (t : ThreadID) (runner : RunnerName) (pid : Pid) : List Call :=
  .own (.start t runner) :: List.replicate 6 (.own (.run t (.of pid)))

namespace Standalone

def Quiet (s : Standalone) : Prop := ∀ t thread, s.threads.lookup t = some thread → thread.calling = false

/-- No live listener is stopped. -/
def Thawed (s : Standalone) : Prop :=
  ∀ pid group, s.manager.groups.lookup pid = some group → group.live = true → group.stopped = false

instance (s : Standalone) : Decidable s.Quiet := inferInstanceAs (Decidable (∀ _ _, _ → _))

instance (s : Standalone) : Decidable s.Thawed := inferInstanceAs (Decidable (∀ _ _, _ → _))

theorem Quiet.unaccounted {s : Standalone} (quiet : s.Quiet) (pid : Pid) : ¬s.Freezing pid ∧ ¬s.Halting pid := by
  constructor
  · rintro ⟨t, thread, found, freezes⟩
    cases (quiet t thread found).symm.trans (Thread.freezing_calling freezes)
  · rintro ⟨t, thread, found, halts⟩
    cases (quiet t thread found).symm.trans (StandaloneManager.halting_calling halts)

/-- In a run that loses track of no stopped listener, none is left stopped when
the pause is over and no launch or halt is under way. -/
theorem no_listener_frozen {s : Standalone} (reached : Reaches step (· = .new) Resumable s) (quiet : s.Quiet)
    (unpaused : s.manager.globalPaused = false) : s.Thawed := by
  intro pid group found live
  cases frozen : group.stopped with
  | false => rfl
  | true =>
      have stopped : s.manager.stopped pid = true := by
        unfold StandaloneManager.stopped
        rw [found, Option.any_some, live, frozen]
        rfl
      obtain ⟨_, thawable⟩ := reached_thawable (fun _ _ resumable => resumable) reached
      have ⟨unfreezing, unhalting⟩ := quiet.unaccounted pid
      rcases thawable.freed unpaused pid stopped with freezing | halting
      · exact absurd freezing unfreezing
      · exact absurd halting unhalting

/-- A listener launched under the pause is stopped, the transition from
Registering to Paused is rejected, and `UnlockOthers` passes the runner by. -/
theorem listener_stays_frozen : ∃ s, Reaches step (· = .new) everyStep s ∧ s.Quiet ∧
    s.manager.globalPaused = false ∧ ¬s.Thawed := by
  refine Reaches.of_replay rfl (.lockOthers ∅ ∅ :: launch 0 "r" 7 ++ [.unlockOthers ∅]) ?_
  decide

/-- A launch, a pause and its end. -/
theorem no_listener_frozen_once : ∃ s : Standalone, s.manager.live 7 = true ∧ s.Thawed := by
  obtain ⟨s, reached, quiet, unpaused, live⟩ : ∃ s, Reaches step (· = .new) Resumable s ∧ s.Quiet ∧
      s.manager.globalPaused = false ∧ s.manager.live 7 = true := by
    refine Reaches.of_replay rfl (launch 0 "r" 7 ++ [.lockOthers ∅ ∅, .unlockOthers ∅]) ?_
    decide
  exact ⟨s, live, no_listener_frozen reached quiet unpaused⟩

end Standalone

end RunnersMux
