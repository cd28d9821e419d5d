import RunnersMux.Worker.Delivery

/-! Whether the launcher gets past its worker.

It keeps the read end of the worker's pipe open. Once the worker has exited nobody
reads there, and the copy that feeds the pipe waits for room forever.
-/

set_option autoImplicit false

namespace RunnersMux

open Foundations

/-- The steps of `runStandaloneWorker` and of its goroutines. -/
def BridgeEvent.launcher : BridgeEvent → Bool
  | .launch _ | .wait | .closeWrite | .join | .feed _ | .drain _ => true
  | _ => false

/-- `finish` has not been called. -/
def LauncherPhase.busy : LauncherPhase → Bool
  | .starting | .waiting | .closing _ | .joining _ => true
  | .finished _ | .gone => false

def RealWorker.dead : RealWorker → Bool
  | .exited _ => true
  | _ => false

namespace Bridge

/-- `Runner.Worker` has exited, and the launcher can do nothing about it. -/
def Stuck (s : Bridge) : Prop :=
  s.worker.dead = true ∧ s.launcher.busy = true ∧ ∀ event, event.launcher = true → s.step event = none

/-- What the copy to the worker has in hand fits in the worker's pipe. -/
def Roomy (s : Bridge) : Prop := s.workerRead.fits s.feed.held.length

/-- When the worker exits, and at every read of the copy after that, the bytes in hand fit in what is
free of the worker's pipe. -/
def ExitsRoomy (s : Bridge) : BridgeEvent → Prop
  | .workerExits _ => s.Roomy
  | .feed count => s.worker.dead = true → s.feed = .reading → s.workerRead.fits count
  | _ => True

instance (s : Bridge) : Decidable s.Roomy := inferInstanceAs (Decidable (s.workerRead.fits _))

instance (s : Bridge) : DecidablePred s.ExitsRoomy
  | .workerExits _ => inferInstanceAs (Decidable s.Roomy)
  | .feed count => inferInstanceAs (Decidable (s.worker.dead = true → s.feed = .reading → s.workerRead.fits count))
  | .listenerWrites _ | .listenerReads _ | .listenerClosesOut | .listenerClosesIn | .stream1 _ | .stream2 _ | .drain _
  | .launch _ | .workerWrites _ | .workerReads _ | .wait | .closeWrite | .join | .leave | .receive | .fetch _
  | .exit => inferInstanceAs (Decidable True)

/-- How the launcher's goroutines leave the pipes. -/
structure Plumbed (s : Bridge) : Prop where
  feed : s.feed.Solid
  drain : s.drain.Solid
  fed : s.feedDone = true → ∃ failed, s.feed = .ended failed
  writers : s.feedDone = false → s.workerRead.writers ≠ 0
  readers : s.workerRead.readers = if s.worker = .running then 2 else 1
  within : s.workerRead.fits 0
  closed : s.drainDone = true → s.toLauncher.readers = 0
  unbounded : s.toShim.capacity = none

variable {s after : Bridge}

theorem Plumbed.step {event : BridgeEvent} (ordered : s.Ordered) (plumbed : s.Plumbed)
    (taken : s.step event = some after) : after.Plumbed := by
  obtain ⟨feed, drain, fed, writers, readers, within, closed, unbounded⟩ := plumbed
  cases step_moves taken with
  | stream1 alive copies =>
      obtain ⟨_, _, same, _⟩ := copies.ends
      exact ⟨feed, drain, fed, writers, readers, within, same ▸ closed, unbounded⟩
  | stream2 alive copies =>
      obtain ⟨_, _, _, _, same, _⟩ := copies.ends
      exact ⟨feed, drain, fed, writers, readers, within, closed, same.trans unbounded⟩
  | feed here busy copies =>
      obtain ⟨inputs, _, outputs, ends, _⟩ := copies.ends
      exact ⟨copies.solid, drain, fun done => absurd done (by simp [busy]), ends ▸ writers, outputs.trans readers,
        copies.within within, inputs ▸ closed, unbounded⟩
  | fed here ended => exact ⟨feed, drain, fun _ => ⟨_, ended⟩, nofun, readers, within, closed, unbounded⟩
  | drain here busy copies =>
      obtain ⟨_, _, _, _, _, same⟩ := copies.ends
      exact ⟨feed, copies.solid, fed, writers, readers, within, closed, same.trans unbounded⟩
  | drained here ended => exact ⟨feed, drain, fed, writers, readers, within, fun _ => rfl, unbounded⟩
  | launch fresh =>
      have unstarted := ordered.staged
      rw [fresh] at unstarted
      have one : s.workerRead.readers = 1 := by
        rw [readers, unstarted]
        rfl
      exact ⟨feed, drain, fed, writers, congrArg (· + 1) one, within, closed, unbounded⟩
  | workerReads running =>
      refine ⟨feed, drain, fed, writers, readers, fun capacity bound => ?_, closed, unbounded⟩
      have held := within capacity bound
      simp only [Pipe.drop, List.length_drop]
      omega
  | workerExits running =>
      have two : s.workerRead.readers = 2 := by
        rw [readers, running]
        rfl
      exact ⟨feed, drain, fed, writers, congrArg (· - 1) two, within, closed, unbounded⟩
  | leave finished => exact ⟨feed, drain, fed, writers, readers, within, fun _ => rfl, unbounded⟩
  | _ => exact ⟨feed, drain, fed, writers, readers, within, closed, unbounded⟩

theorem reached_plumbed {capacity : Option Nat} (reached : Reaches step (· = .new capacity) everyStep s) :
    s.Ordered ∧ s.Plumbed := by
  refine ⟨(reached_flows reached).1, ?_⟩
  apply reached.invariant
  · rintro _ rfl
    exact ⟨nofun, nofun, nofun, nofun, rfl, fun capacity bound => Nat.zero_le _, nofun, rfl⟩
  · rintro state event next earlier plumbed _ taken
    exact plumbed.step (reached_flows earlier).1 taken

/-- A goroutine of the launcher that can do nothing is inside its copy. -/
theorem drain_waits (here : s.launcher ≠ .gone) (undone : s.drainDone = false)
    (disabled : ∀ count, s.step (.drain count) = none) :
    (∀ failed, s.drain ≠ .ended failed) ∧ ∀ count, s.drain.step s.workerWrite s.toShim count = none := by
  simp only [Bridge.step, here, undone, Bool.false_eq_true, or_self, if_false] at disabled
  cases copy : s.drain with
  | ended failed => simp [copy] at disabled
  | reading | writing => simpa [copy] using disabled

theorem feed_waits (here : s.launcher ≠ .gone) (undone : s.feedDone = false)
    (disabled : ∀ count, s.step (.feed count) = none) :
    (∀ failed, s.feed ≠ .ended failed) ∧ ∀ count, s.feed.step s.toLauncher s.workerRead count = none := by
  simp only [Bridge.step, here, undone, Bool.false_eq_true, or_self, if_false] at disabled
  cases copy : s.feed with
  | ended failed => simp [copy] at disabled
  | reading | writing => simpa [copy] using disabled

/-- All that can hold the launcher up after its worker is the copy to a full pipe. -/
theorem stuck_full (ordered : s.Ordered) (plumbed : s.Plumbed) (stuck : s.Stuck) :
    ∃ held, s.feed = .writing held ∧ ¬s.workerRead.fits 1 := by
  obtain ⟨dead, busy, disabled⟩ := stuck
  have waits := disabled .wait rfl
  have closes := disabled .closeWrite rfl
  have joins := disabled .join rfl
  have staged := ordered.staged
  have writers := ordered.writers
  cases worker : s.worker with
  | unstarted | running =>
      rw [worker] at dead
      cases dead
  | exited code =>
      rw [worker] at staged writers
      cases phase : s.launcher with
      | starting =>
          rw [phase] at staged
          cases staged
      | waiting => simp [Bridge.step, phase, worker] at waits
      | closing => simp [Bridge.step, phase] at closes
      | finished | gone =>
          rw [phase] at busy
          cases busy
      | joining =>
          rw [phase] at writers
          have here : s.launcher ≠ .gone := by simp [phase]
          have drained : s.drainDone = true := by
            by_contra undone
            obtain ⟨copying, waits⟩ := drain_waits here (Bool.eq_false_iff.mpr undone) fun count => disabled (.drain count) rfl
            -- Nobody writes to that pipe any more, and the connection never fills.
            rcases Copy.waits waits plumbed.drain with ⟨_, _, opened, _⟩ | ⟨held, _, full, _⟩ | ⟨failed, ended⟩
            · exact opened writers
            · exact full fun capacity bound => by simp [plumbed.unbounded] at bound
            · exact copying failed ended
          have undone : s.feedDone = false := by
            by_contra done
            simp [Bridge.step, phase, drained, done] at joins
          obtain ⟨copying, waits⟩ := feed_waits here undone fun count => disabled (.feed count) rfl
          -- The other goroutine has closed the connection, so this one is not inside a read.
          rcases Copy.waits waits plumbed.feed with ⟨_, _, _, opened⟩ | ⟨held, writing, full, _⟩ | ⟨failed, ended⟩
          · exact absurd (plumbed.closed drained) opened
          · exact ⟨held, writing, full⟩
          · exact absurd ended (copying failed)

/-- The worker has exited, and what the copy to it has in hand fits. -/
def Spared (s : Bridge) : Prop := s.worker.dead = true → s.Roomy

theorem Spared.step {event : BridgeEvent} (spared : s.Spared) (roomy : s.ExitsRoomy event)
    (taken : s.step event = some after) : after.Spared := by
  intro dead
  cases step_moves taken with
  | feed here busy copies =>
      have held := spared dead
      exact copies.room held fun reading => roomy dead reading
  | @fed count failed here ended => exact spared dead
  | launch fresh => cases dead
  | workerReads running =>
      rw [show s.worker = .running from running] at dead
      cases dead
  | workerExits running => exact roomy
  | _ => exact spared dead

/-- The worker has exited, and what the copy to it has in hand does not fit any more. -/
structure Stuffed (s : Bridge) : Prop where
  dead : s.worker.dead = true
  busy : s.launcher.busy = true
  stuffed : ¬s.Roomy

theorem Stuffed.step {event : BridgeEvent} (ordered : s.Ordered) (plumbed : s.Plumbed) (stuffed : s.Stuffed)
    (taken : s.step event = some after) : after.Stuffed := by
  obtain ⟨dead, busy, stuffed⟩ := stuffed
  have undone : s.feedDone = false := by
    by_contra done
    obtain ⟨failed, ended⟩ := plumbed.fed (by simpa using done)
    exact stuffed (by rw [Roomy, ended]; exact plumbed.within)
  have readers : s.workerRead.readers ≠ 0 := by
    rw [plumbed.readers]
    split <;> nofun
  have gone (running : s.worker = .running) : False := by
    rw [running] at dead
    cases dead
  cases step_moves taken with
  | feed here open_ copies =>
      have still := copies.stuffed plumbed.within readers (plumbed.writers undone) stuffed
      exact ⟨dead, busy, still⟩
  | launch fresh | fail fresh =>
      have staged := ordered.staged
      rw [fresh] at staged
      rw [staged] at dead
      cases dead
  | workerReads running | workerExits running => exact (gone running).elim
  | wait | closeWrite => exact ⟨dead, rfl, stuffed⟩
  | join joining fed drained => cases undone.symm.trans fed
  | leave finished =>
      rw [finished] at busy
      cases busy
  | _ => exact ⟨dead, busy, stuffed⟩

/-- If what the copy to the worker has in hand fits when the worker exits, and whatever it reads after
that does, the launcher can always go on after its worker. Where it does not fit, `finish` is never
called. -/
theorem launcher_proceeds (capacity : Option Nat) :
    (∀ s, Reaches step (· = .new capacity) ExitsRoomy s → ¬s.Stuck) ∧
    ∀ s, Reaches step (· = .new capacity) everyStep s → s.worker.dead = true → s.launcher.busy = true → ¬s.Roomy →
      ∀ later, Reaches step (· = s) everyStep later → later.launcher.busy = true := by
  constructor
  · intro s reached stuck
    have ⟨ordered, plumbed⟩ := reached_plumbed (reached.mono fun _ _ _ => trivial)
    obtain ⟨held, writing, full⟩ := stuck_full ordered plumbed stuck
    have spared : s.Spared := by
      apply reached.invariant
      · rintro _ rfl ⟨⟩
      · intro state event next _ spared roomy taken
        exact spared.step roomy taken
    have something : held ≠ [] := fun empty => plumbed.feed (by rw [writing, empty])
    have fits := spared stuck.1
    rw [Roomy, writing] at fits
    exact full (Pipe.fits_mono fits (List.length_pos_iff.mpr something))
  · intro s reached dead busy stuffed later further
    have holds : (later.Ordered ∧ later.Plumbed) ∧ later.Stuffed := by
      apply further.invariant
      · rintro _ rfl
        exact ⟨reached_plumbed reached, dead, busy, stuffed⟩
      · rintro state event next _ ⟨⟨ordered, plumbed⟩, stuffed⟩ _ taken
        exact ⟨⟨ordered.step taken, plumbed.step ordered taken⟩, stuffed.step ordered plumbed taken⟩
    exact holds.2.busy

/-- Nothing but room in the worker's pipe lets the launcher go on. -/
theorem full_stuck {code : Int} {held : List Byte} (exited : s.worker = .exited code) (joining : s.launcher = .joining code)
    (drained : s.drainDone = true) (undone : s.feedDone = false) (writing : s.feed = .writing held)
    (full : ¬s.workerRead.fits 1) (readers : s.workerRead.readers ≠ 0) (writers : s.workerRead.writers ≠ 0) : s.Stuck := by
  refine ⟨by rw [exited]; rfl, by rw [joining]; rfl, fun event mine => ?_⟩
  cases event with
  | launch ok | wait | closeWrite => simp [Bridge.step, joining]
  | join => simp [Bridge.step, joining, undone]
  | drain count => simp [Bridge.step, drained]
  | feed count =>
      have waits : (Copy.writing held).step s.toLauncher s.workerRead count = none := by
        simp only [Copy.step, readers, writers, or_self, if_false]
        exact if_neg fun all => full (Pipe.fits_mono all.2.2 all.1)
      simp [Bridge.step, joining, undone, writing, waits]
  | _ => cases mine

/-- The worker runs, and some bytes of the listener wait in its pipe. -/
def filling (capacity waiting : Nat) : Bridge :=
  { new (some capacity) with
    launcher := .waiting
    worker := .running
    workerRead := ⟨some capacity, List.replicate waiting 0, 2, 1⟩
    workerWrite := ⟨some capacity, [], 1, 2⟩ }

/-- One byte on its way from the listener to the copy that feeds the worker. -/
def sent : List BridgeEvent := [.listenerWrites [0], .stream1 1, .stream1 1, .feed 1]

theorem filling_next {capacity waiting : Nat} (room : waiting < capacity) :
    replay step everyStep (filling capacity waiting) (sent ++ [.feed 1]) = some (filling capacity (waiting + 1)) := by
  have positive : 0 < capacity := Nat.zero_lt_of_lt room
  simp [sent, filling, new, replay, Bridge.step, Pipe.write, Pipe.fits, Pipe.new, Copy.step, Copy.carrying, Pipe.put,
    Pipe.drop, ShimPhase.alive, List.replicate_succ', Nat.add_one_le_iff, positive, room]

theorem reaches_filling {capacity waiting : Nat} (room : waiting ≤ capacity) :
    Reaches step (· = .new (some capacity)) everyStep (filling capacity waiting) := by
  induction waiting with
  | zero =>
      have launched : (new (some capacity)).step (.launch true) = some (filling capacity 0) := rfl
      exact .next (.start rfl) trivial launched
  | succ waiting ih => exact (ih (Nat.le_of_succ_le room)).replay (filling_next room)

/-- The worker has read nothing and exited, and its pipe is one byte short. -/
def short (capacity : Nat) : Bridge :=
  { filling capacity capacity with
    toLauncher := ⟨none, [], 0, 1⟩
    workerRead := ⟨some capacity, List.replicate capacity 0, 1, 1⟩
    workerWrite := ⟨some capacity, [], 1, 0⟩
    toShim := ⟨none, [], 1, 0⟩
    feed := .writing [0]
    drain := .ended false
    drainDone := true
    worker := .exited 0
    launcher := .joining 0 }

theorem reaches_short {capacity : Nat} (some_ : 0 < capacity) :
    Reaches step (· = .new (some capacity)) everyStep (short capacity) := by
  have one : 1 ≤ capacity := some_
  have played : replay step everyStep (filling capacity capacity)
      (sent ++ [.workerExits 0, .wait, .closeWrite, .drain 0, .drain 0]) = some (short capacity) := by
    simp [sent, short, filling, new, replay, Bridge.step, Pipe.write, Pipe.fits, Pipe.new, Copy.step,
      Copy.carrying, Pipe.put, Pipe.drop, ShimPhase.alive, closeConn, one]
  exact (reaches_filling (Nat.le_refl capacity)).replay played

theorem short_stuck (capacity : Nat) : (short capacity).Stuck ∧ ¬(short capacity).Roomy := by
  have full : ¬(short capacity).workerRead.fits 1 := by
    intro fits
    have room := fits capacity rfl
    simp only [short, List.length_replicate] at room
    omega
  exact ⟨full_stuck rfl rfl rfl rfl rfl full nofun nofun, full⟩

/-- The listener sends one byte more than the pipe takes, and the worker exits without a read: the
launcher never calls `finish`. -/
theorem launcher_deadlocks : ∃ s, Reaches step (· = .new (some 65536)) everyStep s ∧ s.Stuck ∧ s.shim = .copying :=
  ⟨short 65536, reaches_short (by decide), (short_stuck 65536).1, rfl⟩

/-- One launcher that goes on after its worker, and one that does not. -/
theorem launcher_proceeds_once :
    (∃ s, Reaches step (· = .new (some 2)) ExitsRoomy s ∧ s.worker.dead = true ∧ s.launcher.busy = true ∧
      s.feed.held ≠ [] ∧ ¬s.Stuck) ∧
    ∃ s, Reaches step (· = .new (some 2)) everyStep s ∧ s.worker.dead = true ∧
      ∀ later, Reaches step (· = s) everyStep later → later.launcher.busy = true := by
  have ⟨proceeds, stays⟩ := launcher_proceeds (some 2)
  constructor
  · obtain ⟨s, reached, dead, busy, held⟩ : ∃ s, Reaches step (· = .new (some 2)) ExitsRoomy s ∧
        s.worker.dead = true ∧ s.launcher.busy = true ∧ s.feed.held ≠ [] := by
      refine Reaches.of_replay rfl (.launch true :: sent ++ [.feed 1] ++ sent ++ [.workerExits 0, .wait]) ?_
      decide
    exact ⟨s, reached, dead, busy, held, proceeds s reached⟩
  · have reached : Reaches step (· = .new (some 2)) everyStep (short 2) := reaches_short (by decide)
    have ⟨⟨dead, busy, _⟩, stuffed⟩ := short_stuck 2
    exact ⟨short 2, reached, dead, stays _ reached dead busy stuffed⟩

end Bridge

end RunnersMux
