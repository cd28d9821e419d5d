import RunnersMux.Orchestrator.Counters
import RunnersMux.Orchestrator.Phantoms

/-! Broadcasts and the conditions that waiters wait for.

A goroutine that falsifies a wait condition broadcasts later, and until it does
it is counted as announcing. The exception is the retry after a dead candidate:
the request is counted again without a broadcast, and `maintainPool` may sleep
on the channel that nobody is about to close.
-/

set_option autoImplicit false

namespace RunnersMux

open Foundations

namespace Goroutine

/-- A boot goroutine that has recorded its result and not broadcast yet. -/
def announcesBoot : Goroutine → Int
  | .boot (.pooled _) | .boot (.dead _) | .boot .evaluating | .boot .announcing | .boot .backoff => 1
  | _ => 0

def waits : Goroutine → Bool
  | .allocate _ (.waiting _) => true
  | _ => false

/-- A goroutine with a broadcast, or a retry, ahead of it. -/
def announces : Goroutine → Int
  | .allocate _ (.claimed _) | .allocate _ (.renamed _) | .allocate _ (.dead _)
  | .allocate _ .discarded | .allocate _ (.alive _) => 1
  | goroutine => goroutine.announcesBoot

theorem announcesBoot_nonneg (goroutine : Goroutine) : 0 ≤ goroutine.announcesBoot := by
  unfold announcesBoot
  split <;> decide

theorem announces_nonneg (goroutine : Goroutine) : 0 ≤ goroutine.announces := by
  unfold announces
  split
  all_goals first | decide | exact announcesBoot_nonneg _

end Goroutine

namespace Action

variable {Event Outcome : Type}

def aborts : Action Event Outcome → Bool
  | .abort .. => true
  | _ => false

/-- The way back to the loop of `AllocateWorker` after a dead candidate. -/
def retries : Action Event Outcome → Bool
  | .retry .. => true
  | _ => false

end Action

namespace Orchestrator

theorem open_eq {o : Orchestrator} {channel : Nat} (bounded : channel ≤ o.broadcastCh)
    (opened : o.closed channel = false) : channel = o.broadcastCh := by
  have latest := of_decide_eq_false opened
  omega

/-- Why `maintainPool` may sleep while a number of broadcasts are still to come. -/
def MaySleep (o : Orchestrator) (announcers : Int) : Prop := o.stocked ∨ o.full ∨ 0 < announcers

theorem MaySleep.of_pos {o : Orchestrator} {announcers : Int} (positive : 0 < announcers) :
    o.MaySleep announcers := .inr (.inr positive)

end Orchestrator

namespace System

variable {Managers Event Outcome : Type}

def announcers (state : System Managers) : Int := tally Goroutine.announces state.goroutines

def bootAnnouncers (state : System Managers) : Int := tally Goroutine.announcesBoot state.goroutines

theorem announcers_nonneg (state : System Managers) : 0 ≤ state.announcers :=
  tally_nonneg Goroutine.announces_nonneg _

theorem bootAnnouncers_nonneg (state : System Managers) : 0 ≤ state.bootAnnouncers :=
  tally_nonneg Goroutine.announcesBoot_nonneg _

/-- What a sleeper on the open channel can rely on. -/
structure Awake (state : System Managers) : Prop where
  poolChannel : ∀ channel, state.pool = .blocked channel → channel ≤ state.orchestrator.broadcastCh
  callChannel : ∀ g runner channel, state.goroutines.lookup g = some (.allocate runner (.waiting channel)) →
    channel ≤ state.orchestrator.broadcastCh
  reason : state.pool = .blocked state.orchestrator.broadcastCh →
    state.orchestrator.MaySleep state.announcers
  empty : ∀ g runner, state.goroutines.lookup g =
      some (.allocate runner (.waiting state.orchestrator.broadcastCh)) →
    state.orchestrator.warmPool.size = 0 ∨ 0 < state.bootAnnouncers

/-- A section without a broadcast that ends with one goroutine in a new phase. -/
theorem Awake.silent {state between : System Managers} {g : GoroutineID} {old : Option Goroutine}
    {new : Goroutine} (awake : Awake state) (same : between.goroutines = state.goroutines)
    (found : state.goroutines.lookup g = old) (pool : between.pool = state.pool)
    (channel : between.orchestrator.broadcastCh = state.orchestrator.broadcastCh)
    (reason : state.pool = .blocked state.orchestrator.broadcastCh →
      state.orchestrator.MaySleep state.announcers →
      between.orchestrator.MaySleep
        (state.announcers + new.announces - Map.found Goroutine.announces old))
    (empty : state.orchestrator.warmPool.size = 0 ∨ 0 < state.bootAnnouncers →
      between.orchestrator.warmPool.size = 0 ∨
        0 < state.bootAnnouncers + new.announcesBoot - Map.found Goroutine.announcesBoot old)
    (waits : ∀ runner other, new = .allocate runner (.waiting other) →
      other = state.orchestrator.broadcastCh ∧ between.orchestrator.warmPool.size = 0) :
    Awake (between.resume g new) := by
  have announcers : (between.resume g new).announcers =
      state.announcers + new.announces - Map.found Goroutine.announces old := by
    unfold announcers
    rw [resume_goroutines, tally_insert, same, found]
  have bootAnnouncers : (between.resume g new).bootAnnouncers =
      state.bootAnnouncers + new.announcesBoot - Map.found Goroutine.announcesBoot old := by
    unfold bootAnnouncers
    rw [resume_goroutines, tally_insert, same, found]
  constructor
  · intro other blocked
    rw [resume_pool, pool] at blocked
    rw [resume_orchestrator, channel]
    exact awake.poolChannel other blocked
  · intro caller runner other looked
    rw [resume_goroutines, Map.lookup_insert_if, same] at looked
    rw [resume_orchestrator, channel]
    split at looked
    · exact Nat.le_of_eq (waits runner other (Option.some.inj looked)).1
    · exact awake.callChannel caller runner other looked
  · intro blocked
    rw [resume_pool, pool, resume_orchestrator, channel] at blocked
    rw [announcers, resume_orchestrator]
    exact reason blocked (awake.reason blocked)
  · intro caller runner looked
    rw [resume_goroutines, Map.lookup_insert_if, same, resume_orchestrator, channel] at looked
    rw [bootAnnouncers, resume_orchestrator]
    split at looked
    · exact .inl (waits runner _ (Option.some.inj looked)).2
    · exact empty (awake.empty caller runner looked)

/-- After a broadcast nobody sleeps on the open channel, except a call that
found the pool empty just now. -/
theorem Awake.broadcast {state between : System Managers} {g : GoroutineID} {new : Goroutine}
    (awake : Awake state) (same : between.goroutines = state.goroutines)
    (pool : between.pool = state.pool)
    (channel : between.orchestrator.broadcastCh = state.orchestrator.broadcastCh + 1)
    (waits : ∀ runner other, new = .allocate runner (.waiting other) →
      other = between.orchestrator.broadcastCh ∧ between.orchestrator.warmPool.size = 0) :
    Awake (between.resume g new) := by
  constructor
  · intro other blocked
    rw [resume_pool, pool] at blocked
    rw [resume_orchestrator, channel]
    exact Nat.le_succ_of_le (awake.poolChannel other blocked)
  · intro caller runner other looked
    rw [resume_goroutines, Map.lookup_insert_if, same] at looked
    rw [resume_orchestrator]
    split at looked
    · exact Nat.le_of_eq (waits runner other (Option.some.inj looked)).1
    · rw [channel]
      exact Nat.le_succ_of_le (awake.callChannel caller runner other looked)
  · intro blocked
    rw [resume_pool, pool, resume_orchestrator, channel] at blocked
    exact absurd (awake.poolChannel _ blocked) (Nat.not_succ_le_self _)
  · intro caller runner looked
    rw [resume_goroutines, Map.lookup_insert_if, same] at looked
    split at looked
    · exact .inl (waits runner _ (Option.some.inj looked)).2
    · rw [resume_orchestrator, channel] at looked
      exact absurd (awake.callChannel caller runner _ looked) (Nat.not_succ_le_self _)

/-- Such a section that neither changes a wait condition nor makes or keeps a promise. -/
theorem Awake.still {state between : System Managers} {g : GoroutineID} {old : Option Goroutine}
    {new : Goroutine} (awake : Awake state) (same : between.goroutines = state.goroutines)
    (found : state.goroutines.lookup g = old) (pool : between.pool = state.pool)
    (orchestrator : between.orchestrator = state.orchestrator)
    (announces : new.announces = Map.found Goroutine.announces old)
    (announcesBoot : new.announcesBoot = Map.found Goroutine.announcesBoot old)
    (waits : ∀ runner other, new ≠ .allocate runner (.waiting other)) :
    Awake (between.resume g new) := by
  refine awake.silent same found pool (congrArg _ orchestrator) ?_ ?_ ?_
  · intro _ reason
    rw [orchestrator, announces, Int.add_sub_cancel]
    exact reason
  · intro empty
    rw [orchestrator, announcesBoot, Int.add_sub_cancel]
    exact empty
  · intro runner other waiting
    exact absurd waiting (waits runner other)

/-- A claim takes a container away without a broadcast, which the claiming call
owes until it registers or retries. -/
theorem Awake.claims {state : System Managers} {o : Orchestrator} {g : GoroutineID} {runner : RunnerName}
    {id : ContainerID} {candidate : WarmWorker} {old : Goroutine} (awake : Awake state)
    (recorded : o.warmPool.lookup id = some candidate)
    (channel : o.broadcastCh = state.orchestrator.broadcastCh)
    (pool : o.warmPool = state.orchestrator.warmPool) (found : state.goroutines.lookup g = some old)
    (calls : old.announcesBoot = 0) :
    Awake ({ state with orchestrator := o.claim id }.resume g (.allocate runner (.claimed candidate))) := by
  refine awake.silent rfl found rfl channel ?_ ?_ nofun
  · intro _ _
    have owed := Map.found_le_weigh state.goroutines (fun _ => Goroutine.announces)
      (fun _ => Goroutine.announces_nonneg) g
    rw [found] at owed
    apply Orchestrator.MaySleep.of_pos
    change 0 < state.announcers + 1 - _
    unfold announcers tally
    omega
  · intro empty
    right
    -- The pool held the claimed container, so an open channel has a boot's broadcast to come.
    have rest := Map.size_nonneg (o.warmPool.erase id)
    rw [Map.size_erase, recorded, Map.found_some, pool] at rest
    change 0 < state.bootAnnouncers + 0 - Map.found Goroutine.announcesBoot (some old)
    rw [Map.found_some, calls]
    omega

theorem afterEvaluation_announces {caller later : Goroutine} (goes : afterEvaluation caller = some later) :
    later.announces = caller.announces ∧ later.announcesBoot = caller.announcesBoot ∧
      ∀ runner channel, later ≠ .allocate runner (.waiting channel) := by
  unfold afterEvaluation at goes
  split at goes <;> cases goes <;> exact ⟨rfl, rfl, nofun⟩

/-- The runs of the claim: no `AbortWorker`, and a retry that goes back to
waiting leaves no sleeping `maintainPool` without a reason or a broadcast. -/
def announcesRetries (state : System Managers) (action : Action Event Outcome) : Prop :=
  action.aborts = false ∧
    (action.retries = true → state.pool = .blocked state.orchestrator.broadcastCh →
      state.orchestrator.warmPool.size = 0 →
      state.orchestrator.request.stocked ∨ state.orchestrator.full ∨ 1 < state.announcers)

theorem awake_step (interfaces : Interfaces Managers Event Outcome) {state after : System Managers}
    {action : Action Event Outcome} (awake : Awake state) (announced : announcesRetries state action)
    (effect : Effect interfaces state action after) : Awake after := by
  have some_ := state.announcers_nonneg
  have boots := state.bootAnnouncers_nonneg
  cases effect with
  | poolLock =>
      exact ⟨nofun, awake.callChannel, nofun, awake.empty⟩
  | poolBlock held waits =>
      refine ⟨?_, awake.callChannel, fun _ => waits.imp_right .inl, awake.empty⟩
      rintro channel ⟨⟩
      exact Nat.le_refl _
  | setStatusReporter | managers => exact ⟨awake.poolChannel, awake.callChannel, awake.reason, awake.empty⟩
  | poolBoot held short full fresh =>
      refine awake.silent rfl fresh rfl rfl ?_ ?_ nofun
      · intro blocked
        cases held.symm.trans blocked
      · intro empty
        change state.orchestrator.warmPool.size = 0 ∨ 0 < state.bootAnnouncers + 0 - 0
        omega
  | bootCreate found | bootCreateFail found | bootInspect found | bootAlive found | bootDead found
  | renameFail found | checkAlive found | checkDead found | markBusy found =>
      exact awake.still rfl found rfl rfl rfl rfl nofun
  | bootInspectFail found | discard found | kill found =>
      exact awake.still (remove_goroutines ..) found (remove_pool ..) (remove_orchestrator ..) rfl rfl nofun
  | rename found =>
      exact awake.still (containerRename_goroutines ..) found (containerRename_pool ..)
        (containerRename_orchestrator ..) rfl rfl nofun
  | bootPool found free | bootGiveUp found free =>
      -- The goroutine owes a broadcast from here on.
      refine awake.silent rfl found rfl rfl ?_ ?_ nofun
      · intro _ _
        apply Orchestrator.MaySleep.of_pos
        simp only [Map.found_some, Goroutine.announces, Goroutine.announcesBoot]
        omega
      · intro _
        right
        simp only [Map.found_some, Goroutine.announcesBoot]
        omega
  | bootDeath found free reaped =>
      -- `handleContainerDeath` broadcasts by itself, unless it does not know the container.
      cases reaped with
      | active recorded => exact awake.broadcast rfl rfl rfl nofun
      | warm absent recorded => exact awake.broadcast rfl rfl rfl nofun
      | unknown absent missing => exact awake.still rfl found rfl rfl rfl rfl nofun
  | bootBroadcast found free => exact awake.broadcast rfl rfl rfl nofun
  | allocate fresh free picked =>
      cases picked with
      | claim recorded => exact awake.broadcast rfl rfl rfl nofun
      | wait empty =>
          -- The call takes its channel under the lock that found the pool empty.
          refine awake.broadcast rfl rfl rfl ?_
          rintro runner other ⟨⟩
          exact ⟨rfl, Map.size_eq_zero.mpr empty⟩
  | wake found closed free picked =>
      cases picked with
      | claim recorded => exact awake.claims recorded rfl rfl found rfl
      | wait empty =>
          refine awake.silent rfl found rfl rfl ?_ ?_ ?_
          · intro _ reason
            exact (Int.add_sub_cancel state.announcers 0).symm ▸ reason
          · intro _
            exact .inl (Map.size_eq_zero.mpr empty)
          · rintro runner other ⟨⟩
            exact ⟨rfl, Map.size_eq_zero.mpr empty⟩
  | cancel found free =>
      refine awake.silent rfl found rfl rfl ?_ ?_ nofun
      · rintro _ (stocked | full | owed)
        · left
          unfold Orchestrator.stocked Orchestrator.target Orchestrator.withdraw at *
          dsimp only
          omega
        · exact .inr (.inl full)
        · exact .inr (.inr (by simpa [Goroutine.announces, Goroutine.announcesBoot] using owed))
      · intro empty
        change state.orchestrator.warmPool.size = 0 ∨ 0 < state.bootAnnouncers + 0 - 0
        omega
  | retry found free picked =>
      cases picked with
      | claim recorded => exact awake.claims recorded rfl rfl found rfl
      | wait empty =>
          have none_ : state.orchestrator.warmPool.size = 0 := Map.size_eq_zero.mpr empty
          refine awake.silent rfl found rfl rfl ?_ (fun _ => .inl none_) ?_
          · intro blocked _
            -- The retrying goroutine itself owes nothing any more.
            refine (announced.2 rfl blocked none_).imp_right (.imp_right ?_)
            intro others
            change 0 < state.announcers + 0 - 1
            omega
          · rintro runner other ⟨⟩
            exact ⟨rfl, none_⟩
  | register found free => exact awake.broadcast rfl rfl rfl nofun
  | dieEvent known dead fresh free reaped =>
      cases reaped with
      | active recorded => exact awake.broadcast rfl rfl rfl nofun
      | warm absent recorded => exact awake.broadcast rfl rfl rfl nofun
      | unknown absent missing => exact awake.still rfl fresh rfl rfl rfl rfl nofun
  | abortActive | abortUnknown => cases announced.1
  | evaluate found goes free =>
      obtain ⟨paused, managers, frame⟩ := state.evaluateCapacity_frame interfaces.pauser ‹_›
      obtain ⟨announces, announcesBoot, waits⟩ := afterEvaluation_announces goes
      rw [frame]
      refine awake.silent rfl found rfl rfl ?_ ?_ ?_
      · intro _ reason
        rw [announces, Map.found_some, Int.add_sub_cancel]
        exact reason
      · intro empty
        rw [announcesBoot, Map.found_some, Int.add_sub_cancel]
        exact empty
      · intro runner other waiting
        exact absurd waiting (waits runner other)
  | updateSettings free =>
      constructor
      · exact fun channel blocked => Nat.le_succ_of_le (awake.poolChannel channel blocked)
      · exact fun g runner channel found => Nat.le_succ_of_le (awake.callChannel g runner channel found)
      · exact fun blocked => absurd (awake.poolChannel _ blocked) (Nat.not_succ_le_self _)
      · exact fun g runner found => absurd (awake.callChannel g runner _ found) (Nat.not_succ_le_self _)
  | die alive =>
      refine ⟨?_, ?_, ?_, ?_⟩ <;>
        simp only [announcers, bootAnnouncers, stop_orchestrator, stop_goroutines, stop_pool]
      · exact awake.poolChannel
      · exact awake.callChannel
      · exact awake.reason
      · exact awake.empty

theorem awake_booted {maxWorkers warmWorkers : Int} {managers : Managers} {state : System Managers}
    (started : Started maxWorkers warmWorkers managers state) : Awake state := by
  obtain ⟨docker, listing, answers, rfl⟩ := started
  exact ⟨nofun, nofun, nofun, nofun⟩

/-- `maintainPool` waits on a channel nobody has closed. -/
def sleeps (state : System Managers) : Bool :=
  match state.pool with
  | .blocked channel => !state.orchestrator.closed channel
  | _ => false

theorem sleeps_blocked {state : System Managers} (sleeps : state.sleeps = true) :
    ∃ channel, state.pool = .blocked channel ∧ state.orchestrator.closed channel = false := by
  unfold System.sleeps at sleeps
  split at sleeps
  · next channel blocked => exact ⟨channel, blocked, by simpa using sleeps⟩
  · cases sleeps

/-- Nothing is in progress but waiting calls and a pool that sleeps on the open channel. -/
structure Resting (state : System Managers) : Prop where
  calls : ∀ g goroutine, state.goroutines.lookup g = some goroutine →
    goroutine.settled = true ∨ goroutine.waits = true
  pool : state.sleeps = true

/-- A call of `AllocateWorker` that waits on a channel nobody has closed. -/
def Waits (state : System Managers) (g : GoroutineID) : Prop :=
  ∃ runner channel, state.goroutines.lookup g = some (.allocate runner (.waiting channel)) ∧
    state.orchestrator.closed channel = false

/-- The sleepers have their reasons. A request is stranded only against a full
house, given that the number of warm workers asked for is a number. -/
structure Awaited (state : System Managers) : Prop where
  pool : state.orchestrator.stocked ∨ state.orchestrator.full
  calls : ∀ g, state.Waits g → state.orchestrator.warmPool = ∅
  stranded : 0 ≤ state.orchestrator.warmWorkersConfig → ∀ g, state.Waits g → state.orchestrator.full

theorem resting_idle {goroutine : Goroutine} (rests : goroutine.settled = true ∨ goroutine.waits = true) :
    goroutine.announces = 0 ∧ goroutine.announcesBoot = 0 ∧ goroutine.boots = 0 := by
  unfold Goroutine.settled Goroutine.waits at rests
  rcases rests with rests | rests <;> split at rests <;> first | exact ⟨rfl, rfl, rfl⟩ | cases rests

instance (state : System Managers) : Decidable (Resting state) :=
  decidable_of_iff (_ ∧ _) ⟨fun both => ⟨both.1, both.2⟩, fun resting => ⟨resting.calls, resting.pool⟩⟩

instance (state : System Managers) (action : Action Event Outcome) :
    Decidable (announcesRetries state action) := inferInstanceAs (Decidable (_ ∧ (_ → _ → _ → _)))

/-- Runs without `AbortWorker`. -/
def withoutAborts (_ : System Managers) (action : Action Event Outcome) : Prop := action.aborts = false

instance (state : System Managers) (action : Action Event Outcome) :
    Decidable (withoutAborts state action) := inferInstanceAs (Decidable (_ = false))

end System

end RunnersMux
