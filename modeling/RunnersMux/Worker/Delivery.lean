import RunnersMux.Worker.Bridge

/-! What the listener has when the shim exits.

The launcher reports an exit code once its own copies are done. The shim leaves
with that code as soon as it has it, whether or not its copy to the listener is.
-/

set_option autoImplicit false

namespace RunnersMux

open Foundations

namespace Bridge

/-- `Runner.Worker` has run, and the copy to the listener has nothing left to do and has not failed. -/
def Flushed (s : Bridge) : Prop :=
  s.worker ≠ .unstarted ∧ s.toShim.queue = [] ∧ s.stream2.held = [] ∧ s.stream2 ≠ .ended true

instance (s : Bridge) : Decidable s.Flushed := inferInstanceAs (Decidable (_ ∧ _))

/-- The shim exits only when the copy to the listener is through. -/
def ExitsFlushed (s : Bridge) (event : BridgeEvent) : Prop := event = .exit → s.Flushed

instance (s : Bridge) (event : BridgeEvent) : Decidable (s.ExitsFlushed event) :=
  inferInstanceAs (Decidable (_ → _))

end Bridge

namespace LauncherPhase

/-- The write ends of the pipe of `Runner.Worker`: its own, and the one that the launcher keeps. -/
def writeEnds (worker : RealWorker) : LauncherPhase → Nat
  | .waiting | .closing _ => if worker = .running then 2 else 1
  | _ => if worker = .unstarted then 1 else 0

/-- How far the worker is, by where the launcher is. -/
def suits (worker : RealWorker) (drainDone : Bool) : LauncherPhase → Prop
  | .starting => worker = .unstarted
  | .waiting => worker ≠ .unstarted
  | .closing code | .joining code => worker = .exited code
  | .finished code => worker = .exited code ∧ drainDone = true ∨ worker = .unstarted
  | .gone => worker ≠ .running

variable {worker : RealWorker} {drainDone : Bool} {phase : LauncherPhase}

theorem suits_done (suits : phase.suits worker drainDone) : phase.suits worker true := by
  cases phase with
  | finished code => exact Or.imp_left (fun both => ⟨both.1, rfl⟩) suits
  | _ => exact suits

/-- A worker that runs is waited for. -/
theorem suits_running (suits : phase.suits .running drainDone) : phase = .waiting := by
  cases phase with
  | waiting => rfl
  | starting => exact absurd suits nofun
  | closing | joining => exact absurd suits nofun
  | finished => rcases suits with ⟨exited, _⟩ | unstarted <;> contradiction
  | gone => exact absurd rfl suits

end LauncherPhase

namespace Bridge

structure Ordered (s : Bridge) : Prop where
  staged : s.launcher.suits s.worker s.drainDone
  writers : s.workerWrite.writers = s.launcher.writeEnds s.worker
  readers : s.workerWrite.readers ≠ 0
  exiting : ∀ code, s.shim = .exiting code → s.launcher ≠ .starting ∧
    (s.worker = .exited code ∧ s.drainDone = true ∨ s.worker = .unstarted)
  drained : s.drainDone = true → ∃ failed, s.drain = .ended failed
  through : s.drain = .ended false → s.workerWrite.exhausted
  torn : s.drain = .ended true → s.shim.alive = false
  shim : s.shim.alive = true → s.toShim.readers ≠ 0
  conn : s.drainDone = false → s.launcher ≠ .gone → s.toShim.writers ≠ 0

variable {s after : Bridge}

theorem Ordered.step {event : BridgeEvent} (ordered : s.Ordered) (taken : s.step event = some after) :
    after.Ordered := by
  obtain ⟨staged, writers, readers, exiting, drained, through, torn, shim, conn⟩ := ordered
  have waits (running : s.worker = .running) : s.launcher = .waiting := by
    have suits : s.launcher.suits .running s.drainDone := running ▸ staged
    exact LauncherPhase.suits_running suits
  -- While `Runner.Worker` runs, its pipe has a writer, and no copy from it comes to an end.
  have writing (running : s.worker = .running) : s.workerWrite.writers ≠ 0 := by
    rw [writers, waits running, running]
    nofun
  cases step_moves taken with
  | listenerWrites | listenerReads | listenerClosesOut | listenerClosesIn | stream1 | feed | fed | workerReads =>
      exact ⟨staged, writers, readers, exiting, drained, through, torn, shim, conn⟩
  | stream2 alive copies =>
      obtain ⟨same, open_, _⟩ := copies.ends
      exact ⟨staged, writers, readers, exiting, drained, through, torn, same ▸ shim, open_ ▸ conn⟩
  | drain here busy copies =>
      obtain ⟨same, open_, targets, ends, _⟩ := copies.ends
      refine ⟨staged, open_.trans writers, same ▸ readers, exiting, ?_, ?_, ?_, targets ▸ shim, ends ▸ conn⟩
      · exact fun done => absurd done (by simp [busy])
      · intro ended
        dsimp only at ended
        subst ended
        exact copies.ended
      · intro ended
        dsimp only at ended
        subst ended
        -- Of the three ends that can fail the copy, only the shim can have closed one.
        rcases copies.ended with closed | closed | closed
        · exact absurd closed readers
        · exact Bool.eq_false_iff.mpr fun alive => shim alive closed
        · exact absurd closed (conn busy here)
  | drained here ended =>
      refine ⟨LauncherPhase.suits_done staged, writers, readers, fun code same => ?_, fun _ => ⟨_, ended⟩, through, torn, shim, nofun⟩
      exact (exiting code same).imp_right (Or.imp_left fun both => ⟨both.1, rfl⟩)
  | launch fresh =>
      have one : s.workerWrite.writers = 1 := by
        rw [fresh] at staged writers
        rw [writers, staged]
        rfl
      refine ⟨nofun, ?_, readers, fun code same => absurd fresh (exiting code same).1, drained, fun ended => ?_, torn, shim,
        fun done _ => conn done (by simp [fresh])⟩
      · change s.workerWrite.writers + 1 = 2
        rw [one]
      · cases one.symm.trans (through ended).2
  | fail fresh =>
      rw [fresh] at staged writers
      have one : s.workerWrite.writers = LauncherPhase.writeEnds s.worker (.finished 1) := writers
      exact ⟨.inr staged, one, readers, fun code same => absurd fresh (exiting code same).1, drained, through, torn, shim,
        fun done _ => conn done (by simp [fresh])⟩
  | workerWrites running =>
      exact ⟨staged, writers, readers, exiting, drained, fun ended => absurd (through ended).2 (writing running), torn, shim,
        conn⟩
  | @workerExits code running =>
      have waiting := waits running
      rw [waiting, running] at writers
      refine ⟨?_, ?_, readers, fun code same => ?_, drained, fun ended => ?_, torn, shim, conn⟩
      · rw [waiting]
        nofun
      · rw [writers, waiting]
        rfl
      · rcases (exiting code same).2 with ⟨exited, _⟩ | unstarted
        · cases running.symm.trans exited
        · cases running.symm.trans unstarted
      · exact absurd (through ended).2 (writing running)
  | wait waiting exited =>
      rw [waiting] at writers
      exact ⟨exited, writers, readers, fun code same => ⟨nofun, (exiting code same).2⟩, drained, through, torn, shim,
        fun done _ => conn done (by simp [waiting])⟩
  | closeWrite closing =>
      rw [closing] at staged writers
      -- The launcher has its own write end, so that the copy cannot have been through.
      have one : s.workerWrite.writers = 1 := by
        rw [writers, staged]
        rfl
      refine ⟨staged, ?_, readers, fun code same => ⟨nofun, (exiting code same).2⟩, drained, fun ended => ?_, torn, shim,
        fun done _ => conn done (by simp [closing])⟩
      · rw [one, staged]
        rfl
      · cases one.symm.trans (through ended).2
  | join joining fed done =>
      rw [joining] at staged writers
      exact ⟨.inl ⟨staged, done⟩, writers, readers, fun code same => ⟨nofun, (exiting code same).2⟩, drained, through, torn,
        shim, fun open_ _ => conn open_ (by simp [joining])⟩
  | leave finished =>
      rw [finished] at staged writers
      refine ⟨?_, writers, readers, fun code same => ⟨nofun, (exiting code same).2⟩, drained, through, torn, shim,
        fun _ here => absurd rfl here⟩
      intro running
      rcases staged with ⟨exited, _⟩ | unstarted
      · cases running.symm.trans exited
      · cases running.symm.trans unstarted
  | receive copying | retry copying =>
      exact ⟨staged, writers, readers, nofun, drained, through, fun ended => absurd (torn ended) (by simp [copying, ShimPhase.alive]),
        fun _ => shim (by simp [copying, ShimPhase.alive]), conn⟩
  | answer fetching finished =>
      have alive : s.shim.alive = true := by
        rw [fetching]
        rfl
      refine ⟨staged, writers, readers, ?_, drained, through, fun ended => absurd (torn ended) (by simp [alive]),
        fun _ => shim alive, conn⟩
      rintro _ ⟨⟩
      rw [finished] at staged
      exact ⟨by simp [finished], staged⟩
  | abandon fetching | exit exiting =>
      exact ⟨staged, writers, readers, nofun, drained, through, fun _ => rfl, nofun, conn⟩

/-- As long as the shim is there, what `Runner.Worker` has written is in one of five places, or was in
hand when the copy to the listener failed. -/
structure Flows (s : Bridge) : Prop where
  solid : s.stream2.Solid
  flows : s.shim.alive = true → ∃ lost,
    s.delivered ++ lost ++ s.stream2.held ++ s.toShim.queue ++ s.drain.held ++ s.workerWrite.queue = s.written ∧
      (lost = [] ↔ s.stream2 ≠ .ended true)

theorem Flows.step {event : BridgeEvent} (ordered : s.Ordered) (flows : s.Flows) (taken : s.step event = some after) :
    after.Flows := by
  have later := ordered.step taken
  obtain ⟨solid, flows⟩ := flows
  cases step_moves taken with
  | @listenerReads count =>
      refine ⟨solid, fun alive => ?_⟩
      obtain ⟨lost, flow, exact_⟩ := flows alive
      refine ⟨lost, ?_, exact_⟩
      rw [← flow]
      simp [delivered, Pipe.drop]
  | stream2 alive copies =>
      refine ⟨copies.solid, fun _ => ?_⟩
      obtain ⟨lost, flow, exact_⟩ := flows alive
      obtain ⟨now, moved, fails, goes⟩ := copies.flow
      have nothing : lost = [] := by
        refine exact_.mpr fun ended => ?_
        rw [ended] at copies
        cases copies
      refine ⟨now, ?_, fun empty failed => ?_, goes⟩
      -- What this copy moves stays on the way; a failure takes only what it has in hand.
      · have through := congrArg (s.received ++ · ++ (s.drain.held ++ s.workerWrite.queue)) moved
        rw [← flow, nothing]
        simpa [delivered] using through
      · dsimp only at failed
        subst failed
        exact copies.loses solid (ordered.shim alive) ((fails rfl).symm.trans empty)
  | drain here busy copies =>
      refine ⟨solid, fun alive => ?_⟩
      obtain ⟨lost, flow, exact_⟩ := flows alive
      obtain ⟨now, moved, _, goes⟩ := copies.flow
      -- The connection is open at the other end, so this copy does not fail.
      have nothing : now = [] := goes fun failed => by simp [later.torn failed] at alive
      have through := congrArg (s.delivered ++ lost ++ s.stream2.held ++ ·) moved
      refine ⟨lost, ?_, exact_⟩
      rw [← flow]
      simpa [delivered, nothing] using through
  | workerWrites running =>
      refine ⟨solid, fun alive => ?_⟩
      obtain ⟨lost, flow, exact_⟩ := flows alive
      refine ⟨lost, ?_, exact_⟩
      rw [← flow]
      simp [delivered, Pipe.put]
  | receive copying | retry copying | answer copying =>
      exact ⟨solid, fun _ => flows (by simp [copying, ShimPhase.alive])⟩
  | abandon fetching | exit exiting =>
      refine ⟨solid, fun alive => ?_⟩
      cases alive
  | _ => exact ⟨solid, flows⟩

theorem reached_flows {capacity : Option Nat} (reached : Reaches step (· = .new capacity) everyStep s) :
    s.Ordered ∧ s.Flows := by
  apply reached.invariant
  · rintro _ rfl
    constructor
    · exact ⟨rfl, rfl, nofun, nofun, nofun, nofun, nofun, nofun, nofun⟩
    · exact ⟨nofun, fun _ => ⟨[], rfl, ⟨nofun, fun _ => rfl⟩⟩⟩
  · rintro state event next _ ⟨ordered, flows⟩ _ taken
    exact ⟨ordered.step taken, flows.step ordered taken⟩

/-- The launcher has reported, so that whatever is missing is on the connection, in the hands of the
copy to the listener, or lost by it. -/
theorem exiting_flushed {code : Int} (ordered : s.Ordered) (flows : s.Flows) (exiting : s.shim = .exiting code) :
    s.worker = .exited code ∧ s.delivered = s.written ↔ s.Flushed := by
  have alive : s.shim.alive = true := by
    rw [exiting]
    rfl
  rcases (ordered.exiting code exiting).2 with ⟨exited, done⟩ | unstarted
  · obtain ⟨failed, ended⟩ := ordered.drained done
    cases failed with
    | true => cases alive.symm.trans (ordered.torn ended)
    | false =>
        obtain ⟨lost, flow, exact_⟩ := flows.flows alive
        have empty := (ordered.through ended).1
        have rest : s.delivered ++ (lost ++ s.stream2.held ++ s.toShim.queue) = s.written := by
          simpa [ended, Copy.held, empty] using flow
        rw [← rest, List.self_eq_append_right, List.append_eq_nil_iff, List.append_eq_nil_iff, exact_, Flushed, exited]
        constructor
        · rintro ⟨_, ⟨whole, held⟩, queue⟩
          refine ⟨fun same => ?_, queue, held, whole⟩
          cases same
        · rintro ⟨_, queue, held, whole⟩
          exact ⟨rfl, ⟨whole, held⟩, queue⟩
  · rw [Flushed, unstarted]
    constructor
    · rintro ⟨same, _⟩
      cases same
    · exact fun all => absurd rfl all.1

/-- Nothing that happens after the exit changes what was delivered by then. -/
def Kept (s : Bridge) : Prop :=
  ∀ code, s.shim = .exited code → s.worker = .exited code ∧ s.delivered = s.written

theorem Kept.step {event : BridgeEvent} (kept : s.Kept) (ordered : s.Ordered) (flows : s.Flows)
    (flushed : s.ExitsFlushed event) (taken : s.step event = some after) : after.Kept := by
  intro code exited
  cases step_moves taken with
  | listenerReads =>
      have ⟨worker, same⟩ := kept code exited
      refine ⟨worker, ?_⟩
      rw [← same]
      simp [delivered, Pipe.drop]
  | stream2 alive copies =>
      rw [show s.shim = .exited code from exited] at alive
      cases alive
  | launch fresh =>
      have staged := ordered.staged
      rw [fresh, (kept code exited).1] at staged
      cases staged
  | workerWrites running | workerExits running => cases running.symm.trans (kept code exited).1
  | receive | answer | retry | abandon => cases exited
  | exit exiting =>
      cases exited
      have both := (exiting_flushed ordered flows exiting).mpr (flushed rfl)
      exact both
  | _ => exact kept code exited

/-- If the shim never exits before its copy to the listener is through, it exits with the code of
`Runner.Worker`, and the listener's pipe has got every byte. The copy has to be through for that
in every run. -/
theorem shim_delivers (capacity : Option Nat) :
    (∀ s, Reaches step (· = .new capacity) ExitsFlushed s →
      ∀ code, s.shim = .exited code → s.worker = .exited code ∧ s.delivered = s.written) ∧
    ∀ s, Reaches step (· = .new capacity) everyStep s → ∀ after, s.step .exit = some after →
      ∃ code, after.shim = .exited code ∧ (after.worker = .exited code ∧ after.delivered = after.written ↔ s.Flushed) := by
  constructor
  · intro s reached
    have holds : s.Kept ∧ s.Ordered ∧ s.Flows := by
      apply reached.invariant
      · rintro _ rfl
        have start : Reaches step (· = .new capacity) everyStep (.new capacity) := .start rfl
        exact ⟨nofun, reached_flows start⟩
      · rintro state event next _ ⟨kept, ordered, flows⟩ flushed taken
        exact ⟨kept.step ordered flows flushed taken, ordered.step taken, flows.step ordered taken⟩
    exact holds.1
  · intro s reached after taken
    obtain ⟨ordered, flows⟩ := reached_flows reached
    cases step_moves taken with
    | @exit code exiting =>
        have exactly := exiting_flushed ordered flows exiting
        exact ⟨code, rfl, exactly⟩

/-- The worker writes two bytes and exits, and the launcher reports its code. -/
def reported (code : Int) : List BridgeEvent :=
  [.launch true, .workerWrites [1, 2], .drain 2, .drain 2, .workerExits code, .wait, .closeWrite, .drain 0, .drain 0,
    .feed 0, .feed 0, .join]

/-- The listener still sends a byte, which nobody takes any more: the shim exits before it has
read what the worker wrote. -/
theorem shim_truncates : ∃ s, Reaches step (· = .new (some 65536)) everyStep s ∧ s.shim = .exited 0 ∧
    s.worker = .exited 0 ∧ s.written = [1, 2] ∧ s.delivered = [] := by
  refine Reaches.of_replay rfl (reported 0 ++ [.listenerWrites [9], .stream1 1, .stream1 1, .receive, .fetch true, .exit]) ?_
  decide

/-- The shim reads to the end of the connection, and exits. -/
theorem shim_delivers_once : ∃ s after, Reaches step (· = .new (some 65536)) ExitsFlushed s ∧
    s.step .exit = some after ∧ after.shim = .exited 7 ∧ after.worker = .exited 7 ∧ after.delivered = after.written ∧
    after.written = [1, 2] ∧ s.Flushed := by
  obtain ⟨s, reached, flushed, after, taken, exited, written⟩ : ∃ s, Reaches step (· = .new (some 65536)) ExitsFlushed s ∧
      s.Flushed ∧ ∃ after ∈ s.step .exit, after.shim = .exited 7 ∧ after.written = [1, 2] := by
    refine Reaches.of_replay rfl (reported 7 ++ [.stream2 1, .stream2 1, .stream2 1, .stream2 1, .stream2 0, .receive,
      .fetch true]) ?_
    decide
  have ⟨delivers, exactly⟩ := shim_delivers (some 65536)
  have ⟨worker, whole⟩ := delivers after (reached.next (fun _ => flushed) taken) 7 exited
  obtain ⟨code, same, through⟩ := exactly s (reached.mono fun _ _ _ => trivial) after taken
  cases exited.symm.trans same
  exact ⟨s, after, reached, taken, exited, worker, whole, written, through.mp ⟨worker, whole⟩⟩

end Bridge

end RunnersMux
