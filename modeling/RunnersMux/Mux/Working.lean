import RunnersMux.Mux.Workers
import RunnersMux.Standalone.Conforming
import RunnersMux.ScaleSet.Conforming

/-! Whether the state of a runner tells that it works.

`MarkBusy`, `MarkIdle` and the two sweeps keep the state and the count in step.
`Transition` writes the state alone: a listener that comes online takes its entry
to Online whatever has been counted there before.
-/

set_option autoImplicit false

namespace RunnersMux

open Foundations

/-- The state and the count agree. -/
def ProcessState.Fits (process : ProcessState) : Prop :=
  (process.state = .busy → 1 ≤ process.activeWorkers) ∧
    (process.state = .online ∨ process.state = .paused → process.activeWorkers = 0)

instance (process : ProcessState) : Decidable process.Fits := inferInstanceAs (Decidable (_ ∧ _))

theorem ProcessState.fits_elsewhere {process : ProcessState}
    (elsewhere : process.state ∉ [RunnerState.busy, .online, .paused]) : process.Fits := by
  constructor
  · intro state
    simp [state] at elsewhere
  · rintro (state | state) <;> simp [state] at elsewhere

theorem ProcessState.fits_busy (process : ProcessState) : process.busy.Fits := by
  unfold Fits busy
  cases process.state <;> simp

theorem ProcessState.fits_idle {process : ProcessState} {goal : RunnerState} (fits : process.Fits)
    (idle : goal = .online ∨ goal = .paused) : (process.idle goal).Fits := by
  unfold ProcessState.idle Fits at *
  by_cases last : process.activeWorkers - 1 = 0 ∧ process.state = .busy
  · rw [if_pos last]
    rcases idle with rfl | rfl <;> simp [last.1]
  · rw [if_neg last]
    constructor
    · intro busy
      have left : process.activeWorkers - 1 ≠ 0 := fun none_ => last ⟨none_, busy⟩
      dsimp only
      omega
    · intro free
      dsimp only
      rw [fits.2 free]

namespace Processes

/-- A Busy runner has a worker, and an Online or Paused one has none. -/
def BusyMeansWorking (processes : Processes) : Prop :=
  ∀ name process, processes.lookup name = some process → process.Fits

instance (processes : Processes) : Decidable processes.BusyMeansWorking :=
  inferInstanceAs (Decidable (∀ name process, processes.lookup name = some process → _))

/-- An accepted `Transition` to Online finds no worker counted. -/
def OnlineIdle (processes : Processes) (request : Option (RunnerName × RunnerState)) : Prop :=
  ∀ transition ∈ request, transition.2 = .online → ∀ process, processes.lookup transition.1 = some process →
    .online ∈ validTransitions process.state → process.activeWorkers = 0

instance (processes : Processes) (request : Option (RunnerName × RunnerState)) : Decidable (processes.OnlineIdle request) :=
  inferInstanceAs (Decidable (∀ transition ∈ request, transition.2 = .online →
    ∀ process, processes.lookup transition.1 = some process → _))

variable {processes : Processes} {name : RunnerName}

theorem onlineIdle_none : processes.OnlineIdle none := nofun

theorem onlineIdle_some {goal : RunnerState} : processes.OnlineIdle (some (name, goal)) ↔
    (goal = .online → ∀ process, processes.lookup name = some process →
      .online ∈ validTransitions process.state → process.activeWorkers = 0) := by
  simp [OnlineIdle]

theorem fits_modify {change : ProcessState → ProcessState} (fits : processes.BusyMeansWorking)
    (keeps : ∀ process, process.Fits → (change process).Fits) :
    Processes.BusyMeansWorking (processes.modify name change) := by
  intro other process found
  rw [Map.lookup_modify] at found
  split at found
  · obtain ⟨entry, known, rfl⟩ := Option.map_eq_some_iff.mp found
    exact keeps entry (fits other entry known)
  · exact fits other process found

theorem fits_insert {entry : ProcessState} (fits : processes.BusyMeansWorking) (fit : entry.Fits) :
    Processes.BusyMeansWorking (processes.insert name entry) := by
  intro other process found
  rcases Map.lookup_of_insert found with ⟨_, rfl⟩ | ⟨_, old⟩
  · exact fit
  · exact fits other process old

theorem fits_fail {address : Nat} {text : String} (fits : processes.BusyMeansWorking) :
    (processes.fail name address text).BusyMeansWorking := by
  refine fits_modify fits fun process fit => ?_
  split
  · exact ProcessState.fits_elsewhere (by simp)
  · exact fit

theorem fits_setError {text : String} (fits : processes.BusyMeansWorking) :
    (processes.setError name text).BusyMeansWorking := fits_modify fits fun _ fit => fit

theorem fits_start {after : Processes} {address : Nat} (fits : processes.BusyMeansWorking)
    (started : processes.start name address = .ok after) : after.BusyMeansWorking := by
  rw [(start_ok started).2]
  exact fits_insert fits (ProcessState.fits_elsewhere (by simp))

theorem fits_stop {after : Processes} (fits : processes.BusyMeansWorking)
    (stopped : processes.stop name = .ok (some after)) : after.BusyMeansWorking := by
  obtain ⟨process, _, rfl⟩ := stop_ok stopped
  exact fits_insert fits (ProcessState.fits_elsewhere (by simp))

/-- No transition but the one to Online can break the agreement: only an Online runner,
which has no worker, is ever taken to Paused. -/
theorem fits_transitioned {goal : RunnerState} (fits : processes.BusyMeansWorking) (plain : goal ≠ .busy) :
    (processes.transitioned name goal).BusyMeansWorking ↔ processes.OnlineIdle (some (name, goal)) := by
  rw [onlineIdle_some]
  constructor
  · rintro after rfl process found valid
    have moved := after name { process with state := .online } (by
      rw [lookup_transitioned, if_pos rfl, found, Option.map_some, if_pos valid])
    exact moved.2 (.inl rfl)
  · intro idle other process found
    rw [lookup_transitioned] at found
    split at found
    · next same =>
        subst same
        obtain ⟨entry, known, rfl⟩ := Option.map_eq_some_iff.mp found
        have fit := fits other entry known
        split
        · next valid =>
            refine ⟨fun busy => absurd busy plain, ?_⟩
            rintro (online | paused)
            · have online : goal = .online := online
              subst online
              exact idle rfl entry known valid
            · have paused : goal = .paused := paused
              subst paused
              have source : entry.state = .online := by
                cases state : entry.state <;> simp [state, validTransitions] at valid ⊢
              exact fit.2 (.inl source)
        · exact fit
    · exact fits other process found

end Processes

/-- A sweep takes Online to Paused or back, and neither has a worker. -/
theorem StandaloneManager.fits_sweep {m : StandaloneManager} (outcome : Finset Pid) {source goal : RunnerState}
    (sent : Signal) (spared : Finset RunnerName) (fits : m.processes.BusyMeansWorking)
    (idle : source = .online ∨ source = .paused) (plain : goal ≠ .busy) :
    (m.sweep outcome source goal sent spared).processes.BusyMeansWorking := by
  intro name process found
  change (m.processes.mapValues _).lookup name = _ at found
  rw [Map.lookup_mapValues] at found
  obtain ⟨entry, known, rfl⟩ := Option.map_eq_some_iff.mp found
  split
  · next moved =>
      obtain ⟨pid, aimed, _⟩ := (Option.any_eq_true _ _).mp moved.2
      obtain ⟨same, _, looked, _, state, _, _⟩ := target_some.mp aimed
      cases known.symm.trans looked
      refine ⟨fun busy => absurd busy plain, fun _ => (fits name entry known).2 ?_⟩
      rw [state]
      exact idle
  · exact fits name entry known

namespace Standalone

variable {s after : Standalone} {call : Call}

theorem requests_plain (plain : s.Plain) {name : RunnerName} {goal : RunnerState}
    (asked : s.requests call = some (name, goal)) : goal ≠ .busy := by
  unfold requests at asked
  split at asked
  · split at asked
    · next found =>
        cases asked
        rintro rfl
        exact plain _ _ _ found List.mem_cons_self
    · cases asked
  · cases asked

/-- A step keeps the agreement exactly if the `Transition` it calls does. -/
theorem fits_step (plain : s.Plain) (fits : s.manager.processes.BusyMeansWorking) (taken : s.step call = some after) :
    after.manager.processes.BusyMeansWorking ↔ s.manager.processes.OnlineIdle (s.requests call) := by
  have quiet (none_ : s.requests call = none) (kept : after.manager.processes.BusyMeansWorking) :
      after.manager.processes.BusyMeansWorking ↔ s.manager.processes.OnlineIdle (s.requests call) := by
    rw [none_]
    exact ⟨fun _ => Processes.onlineIdle_none, fun _ => kept⟩
  cases call with
  | own event =>
      cases act_moves taken with
      | start fresh started => exact quiet rfl (Processes.fits_start fits started)
      | stop fresh stopped => exact quiet rfl (Processes.fits_stop fits stopped)
      | @perform t answer runner head todo rest manager found performed =>
          change manager.processes.BusyMeansWorking ↔ _
          cases head with
          | transition goal =>
              cases performed
              have asked : s.requests (.own (.run t answer)) = some (runner, goal) := by simp only [requests, found]
              rw [asked]
              exact Processes.fits_transitioned fits (requests_plain plain asked)
          | setError text =>
              cases performed
              exact quiet (by simp only [requests, found]) (Processes.fits_setError fits)
          | fail entry text =>
              cases performed
              exact quiet (by simp only [requests, found]) (Processes.fits_fail fits)
          | _ =>
              refine quiet (by simp only [requests, found]) ?_
              change manager.processes.BusyMeansWorking
              rcases perform_processes performed with same | ⟨_, other, _⟩ | ⟨_, other, _⟩ | ⟨_, _, other, _⟩
              · rw [same]
                exact fits
              all_goals cases other
      | @advance t answer runner phase next manager found advanced =>
          refine quiet (by simp only [requests, found]) ?_
          change manager.processes.BusyMeansWorking
          rw [(advance_frame advanced).1]
          exact fits
      | exit alive => exact quiet rfl fits
  | lockOthers outcome activeRunners =>
      cases taken
      exact quiet rfl (StandaloneManager.fits_sweep outcome .stop activeRunners fits (.inl rfl) (by decide))
  | unlockOthers outcome =>
      cases taken
      exact quiet rfl (StandaloneManager.fits_sweep outcome .cont ∅ fits (.inr rfl) (by decide))
  | markBusy runner =>
      cases taken
      exact quiet rfl (Processes.fits_modify fits fun process _ => process.fits_busy)
  | markIdle runner =>
      cases taken
      refine quiet rfl (Processes.fits_modify fits fun _ fit => ProcessState.fits_idle fit ?_)
      split
      · exact .inr rfl
      · exact .inl rfl

end Standalone

namespace ScaleSet

variable {s after : ScaleSet} {event : ScaleSetEvent}

theorem fits_step (fits : s.manager.processes.BusyMeansWorking) (taken : s.step event = some after) :
    after.manager.processes.BusyMeansWorking ↔ s.manager.processes.OnlineIdle (s.requests event) := by
  have quiet (none_ : s.requests event = none) (kept : after.manager.processes.BusyMeansWorking) :
      after.manager.processes.BusyMeansWorking ↔ s.manager.processes.OnlineIdle (s.requests event) := by
    rw [none_]
    exact ⟨fun _ => Processes.onlineIdle_none, fun _ => kept⟩
  cases step_moves taken with
  | start fresh started => exact quiet rfl (Processes.fits_start fits started)
  | spawn found fresh => exact quiet rfl fits
  | stop fresh stopped => exact quiet rfl (Processes.fits_stop fits stopped)
  | launch found launches =>
      refine quiet (by simp only [requests, found]) ?_
      cases launches with
      | fail => exact Processes.fits_fail fits
      | store | leave | failed => exact fits
  | @halt t reply runner phase next manager found table counter =>
      refine quiet (by simp only [requests, found]) ?_
      change manager.processes.BusyMeansWorking
      rw [table]
      exact fits
  | markBusy => exact quiet rfl (Processes.fits_modify fits fun process _ => process.fits_busy)
  | markIdle => exact quiet rfl (Processes.fits_modify fits fun _ fit => ProcessState.fits_idle fit (.inl rfl))
  | @listen t reply runner phase next manager found listens =>
      change manager.processes.BusyMeansWorking ↔ _
      simp only [step, run, found] at taken
      obtain ⟨⟨_, _⟩, listened, same⟩ := Option.map_eq_some_iff.mp taken
      cases congrArg ScaleSet.manager same
      cases phase with
      | starting context =>
          cases flag : reply.flag with
          | true =>
              refine quiet (by simp only [requests, found, flag, if_true]) ?_
              simp only [ScaleSetManager.listen, flag, if_true, ScaleSetManager.leave] at listened
              split at listened <;> cases listened
              exact fits
          | false =>
              have asked : s.requests (.run t reply) = some (runner, .online) := by simp [requests, found, flag]
              simp only [ScaleSetManager.listen, flag] at listened
              cases listened
              rw [asked]
              exact Processes.fits_transitioned fits (by decide)
      | ending failure =>
          cases listened
          have asked : s.requests (.run t reply) = some (runner, if failure.isSome then .failed else .offline) := by
            simp only [requests, found]
          rw [asked]
          refine Processes.fits_transitioned fits ?_
          split <;> decide
      | reporting text =>
          cases listened
          exact quiet (by simp only [requests, found]) (Processes.fits_setError fits)
      | listening | exited | dropping | done =>
          refine quiet (by simp only [requests, found]) ?_
          cases listens <;> exact fits

end ScaleSet

/-- In a run of either manager every state reached has a worker for each Busy runner and none
for an Online or Paused one, exactly if no accepted `Transition` to Online finds a worker. -/
theorem busy_means_working (calls : List Call) (events : List ScaleSetEvent) :
    (Throughout Standalone.step (fun _ _ after => after.manager.processes.BusyMeansWorking) .new calls ↔
        Throughout Standalone.step (fun s call _ => s.manager.processes.OnlineIdle (s.requests call)) .new calls) ∧
      (Throughout ScaleSet.step (fun _ _ after => after.manager.processes.BusyMeansWorking) .new events ↔
        Throughout ScaleSet.step (fun s event _ => s.manager.processes.OnlineIdle (s.requests event)) .new events) := by
  constructor
  · apply Throughout.congr_invariant fun s => s.Plain ∧ s.manager.processes.BusyMeansWorking
    · rintro s call after ⟨plain, fits⟩ taken
      exact Standalone.fits_step plain fits taken
    · rintro s call after ⟨plain, _⟩ taken kept
      exact ⟨plain.step taken, kept⟩
    · exact ⟨nofun, nofun⟩
  · apply Throughout.congr_invariant fun s => s.manager.processes.BusyMeansWorking
    · intro s event after fits taken
      exact ScaleSet.fits_step fits taken
    · intro s event after _ _ kept
      exact kept
    · exact nofun

/-- A Busy standalone runner whose listener fails early is relaunched, and its `Transition` to
Online is accepted; a scale set runner is marked busy before its listener comes online. -/
theorem online_with_worker :
    (∃ s, Reaches Standalone.step (· = .new) everyStep s ∧ ¬s.manager.processes.BusyMeansWorking ∧
      s.manager.processes.getState "a" = some .online ∧ s.manager.processes.workers "a" = some 1) ∧
    (∃ s, Reaches ScaleSet.step (· = .new) everyStep s ∧ ¬s.manager.processes.BusyMeansWorking ∧
      s.manager.processes.getState "b" = some .online ∧ s.manager.processes.workers "b" = some 1) := by
  constructor
  · refine Reaches.of_replay rfl ([.own (.start 0 "a")] ++ List.replicate 6 (.own (.run 0 ⟨none, 7, true, ∅⟩)) ++
      [.markBusy "a", .own (.exit 7 (.error "exit status 1"))] ++
      List.replicate 10 (.own (.run 0 ⟨none, 8, true, ∅⟩))) ?_
    decide
  · refine Reaches.of_replay rfl [.start 0 "b", .run 0 ⟨false, none, false⟩, .spawn 0 10, .markBusy "b",
      .run 10 ⟨false, none, false⟩] ?_
    decide

end RunnersMux
