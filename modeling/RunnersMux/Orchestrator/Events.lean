import Mathlib.Data.Int.Order.Basic
import RunnersMux.Foundations.Transitions
import RunnersMux.Orchestrator.State

/-! The event stream of `watchEvents`.

A stream replays the die events from the second it is asked for and delivers the
later ones until it ends. The second of the next stream is read off the clock
only after the end has been noticed, and again after every failed attempt, so
what dies in between is in no stream, unless the clock still shows the second in
which the last stream ended.
-/

set_option autoImplicit false

namespace RunnersMux

open Foundations

/-- The clock counts nanoseconds, `Since` counts seconds. -/
def second : Int := 1000000000

/-- `Unix`. -/
def unix (now : Int) : Int := now / second

def eventReplayMargin : Int := 60

theorem unix_le (now : Int) : unix now * second ≤ now := Int.ediv_mul_le now (by decide)

structure Death where
  containerID : ContainerID
  time : Int
  deriving DecidableEq, Repr

inductive WatchPhase where
  | connecting
  | streaming
  /-- The range over the channel is over, and the error has been read. -/
  | ended
  | sleeping (deadline : Int)
  deriving DecidableEq, Repr

/-- `watchEvents` with the events that Docker has seen. `handled` are the calls of
`handleContainerDeath`, and `windows` the streams that have ended, latest first. -/
structure Watcher where
  now : Int
  first : Int
  since : Int
  phase : WatchPhase
  deaths : List Death
  handled : List Death
  windows : List (Int × Int)
  deriving DecidableEq, Repr

inductive WatchAction where
  | elapse (duration : Nat)
  | die (id : ContainerID)
  | connect (accepted : Bool)
  | receive (death : Death)
  | fail
  | renew
  | wake
  deriving DecidableEq, Repr

/-- What `NewOrchestrator` starts: the events of the last minute are replayed. -/
def watchEvents (now : Int) (deaths : List Death) : Watcher where
  now := now
  first := unix now - eventReplayMargin
  since := unix now - eventReplayMargin
  phase := .connecting
  deaths := deaths
  handled := []
  windows := []

namespace Watcher

/-- The events that the stream delivers. -/
def due (w : Watcher) : List Death := w.deaths.filter fun death => w.since * second ≤ death.time

def step (w : Watcher) : WatchAction → Option Watcher
  | .elapse duration => some { w with now := w.now + duration }
  | .die id => some { w with deaths := ⟨id, w.now⟩ :: w.deaths }
  | .connect accepted =>
      if w.phase = .connecting then some { w with phase := if accepted then .streaming else .ended } else none
  | .receive death =>
      if w.phase = .streaming ∧ death ∈ w.due then some { w with handled := death :: w.handled } else none
  | .fail =>
      -- The loop has received every event of the stream before it sees the channel closed.
      if w.phase = .streaming then
        some { w with
          phase := .ended
          handled := w.due ++ w.handled
          windows := (w.since, w.now) :: w.windows }
      else none
  | .renew =>
      if w.phase = .ended then
        some { w with since := unix w.now, phase := .sleeping (w.now + second) }
      else none
  | .wake =>
      match w.phase with
      | .sleeping deadline => if deadline ≤ w.now then some { w with phase := .connecting } else none
      | _ => none

/-- The process starts at some time, with events that are already over. -/
def Begins (w : Watcher) : Prop :=
  ∃ now deaths, (∀ death ∈ deaths, death.time ≤ now) ∧ w = watchEvents now deaths

/-- Every event since the first second has been handled, or the open stream is going
to deliver it. In time, the ended streams and the open one leave no gap. -/
structure Gapless (w : Watcher) : Prop where
  deaths : ∀ death ∈ w.deaths, w.first * second ≤ death.time → death ∈ w.handled ∨ death ∈ w.due
  windows : ∀ time, w.first * second ≤ time → time ≤ w.now → w.since * second ≤ time ∨
    ∃ window ∈ w.windows, window.1 * second ≤ time ∧ time ≤ window.2

/-- The clock is read in the second in which the last stream ended. -/
def RenewsAtOnce (w : Watcher) : WatchAction → Prop
  | .renew => ∃ window ∈ w.windows.head?, unix w.now = unix window.2
  | _ => True

instance (w : Watcher) : (action : WatchAction) → Decidable (w.RenewsAtOnce action)
  | .renew => inferInstanceAs (Decidable (∃ window ∈ w.windows.head?, _))
  | .elapse _ | .die _ | .connect _ | .receive _ | .fail | .wake => isTrue trivial

/-- The end of the last stream; before that, the first second. -/
def covered (w : Watcher) : Int := (w.windows.head?.map (·.2)).getD (w.first * second)

/-- The next stream begins where the last one ended, or earlier, and everything
before that has been handled. -/
structure Seamless (w : Watcher) : Prop where
  past : w.covered ≤ w.now
  next : w.phase ≠ .ended → w.since * second ≤ w.covered
  deaths : ∀ death ∈ w.deaths, w.first * second ≤ death.time → death ∈ w.handled ∨ w.covered ≤ death.time
  windows : ∀ time, w.first * second ≤ time → time < w.covered →
    ∃ window ∈ w.windows, window.1 * second ≤ time ∧ time ≤ window.2

variable {w after : Watcher} {action : WatchAction}

theorem Seamless.gapless (seamless : Seamless w) (open_ : w.phase = .streaming) : Gapless w := by
  have next : w.since * second ≤ w.covered := by
    apply seamless.next
    simp [open_]
  constructor
  · intro death member since
    rcases seamless.deaths death member since with handled | later
    · exact .inl handled
    · right
      apply List.mem_filter.mpr
      exact ⟨member, decide_eq_true (next.trans later)⟩
  · intro time since _
    by_cases streamed : w.since * second ≤ time
    · exact .inl streamed
    · right
      apply seamless.windows time since
      omega

theorem watchEvents_seamless (now : Int) (deaths : List Death) : Seamless (watchEvents now deaths) := by
  have before : (unix now - eventReplayMargin) * second ≤ now := by
    have floor := unix_le now
    have margin : (unix now - eventReplayMargin) * second = unix now * second - 60000000000 := by
      rw [Int.sub_mul]
      rfl
    omega
  constructor
  · exact before
  · intro _
    exact Int.le_refl _
  · intro death _ since
    exact .inr since
  · intro time since early
    exact absurd early (Int.not_lt.mpr since)

theorem seamless_step (seamless : Seamless w) (atOnce : w.RenewsAtOnce action)
    (taken : w.step action = some after) : Seamless after := by
  obtain ⟨past, next, deaths, windows⟩ := seamless
  cases action with
  | elapse duration =>
      cases taken
      refine ⟨?_, next, deaths, windows⟩
      change w.covered ≤ w.now + duration
      omega
  | die id =>
      cases taken
      refine ⟨past, next, ?_, windows⟩
      intro death member since
      rcases List.mem_cons.mp member with new | old
      · subst new
        exact .inr past
      · exact deaths death old since
  | connect accepted =>
      simp only [step] at taken
      split at taken <;> cases taken
      next connecting =>
        refine ⟨past, fun _ => next ?_, deaths, windows⟩
        simp [connecting]
  | receive death =>
      simp only [step] at taken
      split at taken <;> cases taken
      refine ⟨past, next, ?_, windows⟩
      intro other member since
      rcases deaths other member since with handled | later
      · exact .inl (List.mem_cons_of_mem _ handled)
      · exact .inr later
  | fail =>
      simp only [step] at taken
      split at taken <;> cases taken
      next streaming =>
        have begun : w.since * second ≤ w.covered := by
          apply next
          simp [streaming]
        refine ⟨Int.le_refl _, fun other => absurd rfl other, ?_, ?_⟩
        · intro death member since
          left
          apply List.mem_append.mpr
          rcases deaths death member since with handled | later
          · exact .inr handled
          · left
            apply List.mem_filter.mpr
            exact ⟨member, decide_eq_true (begun.trans later)⟩
        · intro time since early
          -- Before the stream the earlier ones cover the time.
          by_cases streamed : w.since * second ≤ time
          · exact ⟨_, List.mem_cons_self, streamed, Int.le_of_lt early⟩
          · obtain ⟨window, member, covers⟩ := windows time since (by omega)
            exact ⟨window, List.mem_cons_of_mem _ member, covers⟩
  | renew =>
      simp only [step] at taken
      split at taken <;> cases taken
      refine ⟨past, fun _ => ?_, deaths, windows⟩
      obtain ⟨window, last, same⟩ := atOnce
      have ended : w.covered = window.2 := by
        unfold covered
        rw [Option.mem_def.mp last]
        rfl
      change unix w.now * second ≤ w.covered
      rw [same, ended]
      exact unix_le window.2
  | wake =>
      simp only [step] at taken
      split at taken
      · next deadline sleeping =>
          split at taken <;> cases taken
          refine ⟨past, fun _ => next ?_, deaths, windows⟩
          simp [sleeping]
      · cases taken

/-- If `watchEvents` reads the clock in the second in which the stream ended, no
death is missed. -/
theorem no_death_missed (w : Watcher) (reached : Reaches step Begins RenewsAtOnce w)
    (open_ : w.phase = .streaming) : Gapless w := by
  have seamless : Seamless w := by
    apply reached.invariant
    · rintro _ ⟨now, deaths, _, rfl⟩
      exact watchEvents_seamless now deaths
    · intro earlier action after _ seamless atOnce taken
      exact seamless_step seamless atOnce taken
  exact seamless.gapless open_

/-- The container dies after the stream has ended, and the clock is read in the next second. -/
theorem death_missed : ∃ w, Reaches step Begins everyStep w ∧ w.phase = .streaming ∧ ¬Gapless w := by
  obtain ⟨w, reached, open_, died, since, unhandled, undue⟩ : ∃ w, Reaches step Begins everyStep w ∧
      w.phase = .streaming ∧ ⟨"c1", 100600000000⟩ ∈ w.deaths ∧ w.first * second ≤ 100600000000 ∧
      ⟨"c1", 100600000000⟩ ∉ w.handled ∧ ⟨"c1", 100600000000⟩ ∉ w.due := by
    refine Reaches.of_replay ⟨100000000000, [], by simp, rfl⟩ [.connect true, .elapse 500000000, .fail,
      .elapse 100000000, .die "c1", .elapse 500000000, .renew, .elapse 1000000000, .wake, .connect true] ?_
    decide
  refine ⟨w, reached, open_, fun gapless => ?_⟩
  rcases gapless.deaths _ died since with handled | due
  · exact unhandled handled
  · exact undue due

/-- The same death, with the clock read at once. -/
theorem no_death_missed_once : ∃ w : Watcher, w.handled = [] ∧ w.due = [⟨"c1", 100600000000⟩] ∧ Gapless w := by
  obtain ⟨w, reached, open_, handled, due⟩ : ∃ w, Reaches step Begins RenewsAtOnce w ∧ w.phase = .streaming ∧
      w.handled = [] ∧ w.due = [⟨"c1", 100600000000⟩] := by
    refine Reaches.of_replay ⟨100000000000, [], by simp, rfl⟩ [.connect true, .elapse 500000000, .fail,
      .elapse 100000000, .die "c1", .renew, .elapse 1000000000, .wake, .connect true] ?_
    decide
  exact ⟨w, handled, due, no_death_missed w reached open_⟩

end Watcher

end RunnersMux
