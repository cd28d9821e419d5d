import RunnersMux.Standalone.Conforming
import RunnersMux.ScaleSet.Conforming

/-! The lifecycle and its table, over the runs of both managers. -/

set_option autoImplicit false

namespace RunnersMux

open Foundations

/-- A run follows the table and has its transitions accepted exactly if each of its steps
conforms. Where every `Start` finds its runner at rest, a step conforms exactly if it is regular. -/
theorem lifecycle_lawful (calls : List Call) (events : List ScaleSetEvent) :
    (Throughout Standalone.step Standalone.Lawful .new calls ↔
        Throughout Standalone.step (fun s call _ => s.Conforms call) .new calls) ∧
      (Throughout Standalone.step (fun s call _ => s.Rested call) .new calls →
        (Throughout Standalone.step Standalone.Lawful .new calls ↔
          Throughout Standalone.step (fun s call _ => s.Regular call) .new calls)) ∧
      (Throughout ScaleSet.step ScaleSet.Lawful .new events ↔
        Throughout ScaleSet.step (fun s event _ => s.Conforms event) .new events) ∧
      (Throughout ScaleSet.step (fun s event _ => s.Rested event) .new events →
        (Throughout ScaleSet.step ScaleSet.Lawful .new events ↔
          Throughout ScaleSet.step (fun s event _ => s.Regular event) .new events)) := by
  refine ⟨?_, fun rested => ?_, ?_, fun rested => ?_⟩
  · apply Throughout.congr
    intro s call after taken
    exact Standalone.lawful_iff taken
  · refine Throughout.congr_reached (· = .new) Standalone.Rested Standalone.Regular (fun s call after reached taken => ?_)
      (.start rfl) rested
    obtain ⟨_, sole, staged⟩ := Standalone.reached_staged reached
    exact (Standalone.lawful_iff taken).trans (Standalone.regular_iff sole staged)
  · apply Throughout.congr
    intro s event after taken
    exact ScaleSet.lawful_iff taken
  · refine Throughout.congr_reached (· = .new) ScaleSet.Rested ScaleSet.Regular (fun s event after reached taken => ?_)
      (.start rfl) rested
    obtain ⟨sole, phased⟩ := ScaleSet.reached_phased reached
    exact (ScaleSet.lawful_iff taken).trans (ScaleSet.regular_iff sole phased)

/-- What nothing goes wrong in. -/
def Answer.fine (pid : Pid) : Answer := ⟨none, pid, true, ∅⟩

/-- A listener of the runner "a" comes online in the thread 0. -/
def listening : List Call :=
  .own (.start 0 "a") :: List.replicate 6 (.own (.run 0 (.fine 7)))

/-- A `Stop` sets a Registering runner Draining; and after a listener that has lived for a short
time the goroutine asks for Registering, which is refused. -/
theorem lifecycle_unlawful :
    (∃ s, Reaches Standalone.step (· = .new) everyStep s ∧ ∃ after ∈ s.step (.own (.stop 1 "a" false)),
      s.manager.processes.getState "a" = some .registering ∧
      after.manager.processes.getState "a" = some .draining ∧ ¬s.Lawful (.own (.stop 1 "a" false)) after) ∧
    ∃ s, Reaches Standalone.step (· = .new) everyStep s ∧ ∃ after ∈ s.step (.own (.run 0 (.fine 7))),
      s.requests (.own (.run 0 (.fine 7))) = some ("a", .registering) ∧
      s.manager.processes.getState "a" = some .online ∧ ¬s.Lawful (.own (.run 0 (.fine 7))) after := by
  constructor
  · refine Reaches.of_replay rfl [.own (.start 0 "a")] ?_
    decide
  · refine Reaches.of_replay rfl
      (listening ++ .own (.exit 7 (.error "exit status 1")) :: List.replicate 3 (.own (.run 0 (.fine 7)))) ?_
    decide

/-- A runner of each mode that starts, works, is stopped and exits. -/
theorem lifecycle_lawful_once :
    Throughout Standalone.step (fun s call _ => s.Regular call) .new
        (listening ++ [.markBusy "a", .own (.stop 1 "a" false), .markIdle "a", .own (.exit 7 .clean)] ++
          List.replicate 6 (.own (.run 0 (.fine 7)))) ∧
      Throughout ScaleSet.step (fun s event _ => s.Regular event) .new
        [.start 0 "b", .run 0 ⟨false, none, false⟩, .spawn 0 10, .run 10 ⟨false, none, false⟩, .markBusy "b",
          .markIdle "b", .stop 1 "b", .run 10 ⟨true, none, false⟩, .run 10 ⟨true, none, false⟩,
          .run 10 ⟨true, none, false⟩] := by
  have ⟨_, standalone, _, scaleset⟩ := lifecycle_lawful
    (listening ++ [.markBusy "a", .own (.stop 1 "a" false), .markIdle "a", .own (.exit 7 .clean)] ++
      List.replicate 6 (.own (.run 0 (.fine 7))))
    [.start 0 "b", .run 0 ⟨false, none, false⟩, .spawn 0 10, .run 10 ⟨false, none, false⟩, .markBusy "b",
      .markIdle "b", .stop 1 "b", .run 10 ⟨true, none, false⟩, .run 10 ⟨true, none, false⟩,
      .run 10 ⟨true, none, false⟩]
  exact ⟨(standalone (by decide)).mp (by decide), (scaleset (by decide)).mp (by decide)⟩

end RunnersMux
