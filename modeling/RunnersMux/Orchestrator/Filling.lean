import RunnersMux.Foundations.Measures
import RunnersMux.Orchestrator.Wakeups
import Mathlib.Data.Fintype.EquivFin

/-! What `maintainPool` arrives at.

Left alone, the loop and its boots come to rest: every boot takes one container
off the shortage, and the last broadcast finds nothing to do. The pool then holds
what it held before, booting containers included, and exactly what was missing.
-/

set_option autoImplicit false

namespace RunnersMux

open Foundations

namespace Orchestrator

/-- The containers that `maintainPool` has asked for. -/
def stock (o : Orchestrator) : Int := o.warmPool.size + o.bootingCount

/-- The boots that the two waits of `maintainPool` still let through. -/
def shortage (o : Orchestrator) : Int := max 0 (min (o.target - o.stock) (o.maxWorkers - o.total))

theorem shortage_nonneg (o : Orchestrator) : 0 ≤ o.shortage := Int.le_max_left ..

theorem shortage_eq_zero {o : Orchestrator} : o.shortage = 0 ↔ o.stocked ∨ o.full := by
  unfold shortage stocked full stock
  omega

/-- A boot that gets past both waits is one of the missing. -/
theorem shortage_admitBoot {o : Orchestrator} (short : ¬o.stocked) (room : ¬o.full) :
    o.admitBoot.shortage = o.shortage - 1 := by
  have total := o.total_admitBoot
  unfold shortage stocked full at *
  change max 0 (min (o.target - (o.warmPool.size + (o.bootingCount + 1))) (o.maxWorkers - o.admitBoot.total)) = _
  unfold stock
  omega

/-- A booted container was asked for before. -/
theorem stock_recordBoot {o : Orchestrator} {worker : WarmWorker}
    (fresh : o.warmPool.lookup worker.containerID = none) :
    (o.recordBoot (some worker)).stock = o.stock ∧ (o.recordBoot (some worker)).total = o.total := by
  constructor
  · change Map.size (o.warmPool.insert worker.containerID worker) + (o.bootingCount - 1) =
      o.warmPool.size + o.bootingCount
    rw [Map.size_insert, fresh, Map.found_none]
    omega
  · change Map.size (o.warmPool.insert worker.containerID worker) + o.activeWorkers.size + (o.bootingCount - 1) =
      o.warmPool.size + o.activeWorkers.size + o.bootingCount
    rw [Map.size_insert, fresh, Map.found_none]
    omega

end Orchestrator

namespace Goroutine

/-- What a boot that succeeds has left to do, with the wake of the pool at its end. -/
def bootWork : Goroutine → Int
  | .boot .starting => 7
  | .boot (.inspecting _) => 6
  | .boot (.started _) => 5
  | .boot (.pooled _) => 4
  | .boot .announcing => 3
  | _ => 0

theorem bootWork_nonneg (goroutine : Goroutine) : 0 ≤ goroutine.bootWork := by
  unfold bootWork
  split <;> decide

/-- A call that has returned or waits, or a boot whose container runs. -/
def calm (running : ContainerID → Bool) : Goroutine → Bool
  | .boot .starting | .boot .announcing => true
  | .boot (.inspecting id) => running id
  | .boot (.started worker) | .boot (.pooled worker) => running worker.containerID
  | goroutine => goroutine.settled || goroutine.waits

end Goroutine

namespace System

variable {Managers Event Outcome : Type}

/-- The steps of `maintainPool` and of boots that succeed. -/
def fills (state : System Managers) : Action Event Outcome → Bool
  | .poolLock | .poolLoop _ | .bootCreate .. | .bootInspect _ | .bootBroadcast _ => true
  | .bootRecord g => state.goroutines.lookup g ≠ some (.boot .failed)
  | .bootCheck _ alive => alive
  | _ => false

/-- A run in which nothing but the pool moves. -/
def Fills (state : System Managers) (action : Action Event Outcome) : Prop := state.fills action = true

instance (state : System Managers) (action : Action Event Outcome) : Decidable (Fills state action) :=
  inferInstanceAs (Decidable (_ = _))

def poolWork (state : System Managers) : Int :=
  match state.pool with
  | .acquiring => 2
  | .holding => 1
  | .blocked channel => if state.orchestrator.closed channel then 2 else 0

/-- The steps that are left at most. -/
def work (state : System Managers) : Int :=
  8 * state.orchestrator.shortage + tally Goroutine.bootWork state.goroutines + state.poolWork

theorem poolWork_bounds (state : System Managers) : 0 ≤ state.poolWork ∧ state.poolWork ≤ 2 := by
  unfold poolWork
  split
  · decide
  · decide
  · split <;> decide

theorem work_nonneg (state : System Managers) : 0 ≤ state.work := by
  have shortage := state.orchestrator.shortage_nonneg
  have boots := tally_nonneg Goroutine.bootWork_nonneg state.goroutines
  have pool := state.poolWork_bounds.1
  unfold work
  omega

/-- Nothing is in progress but waiting calls and boots whose containers run. -/
def Settling (state : System Managers) : Prop :=
  ∀ g goroutine, state.goroutines.lookup g = some goroutine → goroutine.calm state.running = true

instance (state : System Managers) : Decidable (Settling state) :=
  inferInstanceAs (Decidable (∀ _ _, _ → _))

/-- What filling the pool keeps, next to the number of containers it arrives at. -/
structure Filling (goal : Int) (state : System Managers) : Prop where
  assigned : Assigned state
  tallied : Tallied state
  awake : Awake state
  calm : Settling state
  goal : state.orchestrator.stock + state.orchestrator.shortage = goal

theorem calm_mono {running later : ContainerID → Bool} (keeps : ∀ id, running id = true → later id = true)
    {goroutine : Goroutine} (calm : goroutine.calm running = true) : goroutine.calm later = true := by
  unfold Goroutine.calm at calm ⊢
  split at calm
  · rfl
  · rfl
  · exact keeps _ calm
  · exact keeps _ calm
  · exact keeps _ calm
  · exact calm

theorem Settling.resume {state between : System Managers} {g : GoroutineID} {new : Goroutine} (calm : Settling state)
    (same : between.goroutines = state.goroutines)
    (keeps : ∀ id, state.running id = true → between.running id = true) (own : new.calm between.running = true) :
    Settling (between.resume g new) := by
  intro other goroutine found
  rw [resume_goroutines, same] at found
  rcases Map.lookup_of_insert found with ⟨_, rfl⟩ | ⟨_, before⟩
  · exact own
  · exact calm_mono keeps (calm other goroutine before)

/-- A container that a boot carries is not in the pool yet. -/
theorem Assigned.unpooled {state : System Managers} (assigned : Assigned state) {g : GoroutineID} {worker : WarmWorker}
    (found : state.goroutines.lookup g = some (.boot (.started worker))) :
    state.orchestrator.warmPool.lookup worker.containerID = none := by
  rw [Finmap.lookup_eq_none]
  intro pooled
  have warm := warmAt_mem pooled
  have holder := Map.found_le_weigh state.goroutines (fun _ => Goroutine.holds worker.containerID)
    (fun _ => Goroutine.holds_nonneg _) g
  rw [found, Map.found_some] at holder
  have mine : Goroutine.holds worker.containerID (.boot (.started worker)) = 1 := mark_self _
  have once := assigned.once worker.containerID
  have owned := state.owned_nonneg worker.containerID
  unfold occupied tally at once
  omega

theorem filling_step (interfaces : Interfaces Managers Event Outcome) {goal : Int} {state after : System Managers}
    {action : Action Event Outcome} (filling : Filling goal state) (fills : Fills state action)
    (effect : Effect interfaces state action after) : Filling goal after ∧ after.work < state.work := by
  have announced : announcesRetries state action := by
    have neither : action.aborts = false ∧ action.retries = false := by
      cases action <;> first | exact ⟨rfl, rfl⟩ | cases fills
    refine ⟨neither.1, fun retries => ?_⟩
    rw [neither.2] at retries
    cases retries
  have assigned := assigned_step interfaces filling.assigned effect
  have tallied := tallied_step interfaces filling.tallied effect
  have awake := awake_step interfaces filling.awake announced effect
  have calm := filling.calm
  have goal_ := filling.goal
  cases effect with
  | poolLock idle =>
      refine ⟨⟨assigned, tallied, awake, calm, goal_⟩, ?_⟩
      have before : state.poolWork = 2 := by
        unfold poolWork
        rcases idle with acquiring | ⟨channel, blocked, closed⟩
        · rw [acquiring]
        · simp [blocked, closed]
      change 8 * state.orchestrator.shortage + tally Goroutine.bootWork state.goroutines + 1 <
        8 * state.orchestrator.shortage + tally Goroutine.bootWork state.goroutines + state.poolWork
      omega
  | poolBlock held waits =>
      refine ⟨⟨assigned, tallied, awake, calm, goal_⟩, ?_⟩
      have before : state.poolWork = 1 := by simp [poolWork, held]
      have later : poolWork { state with pool := .blocked state.orchestrator.broadcastCh } = 0 := by
        simp [poolWork, Orchestrator.closed]
      change 8 * state.orchestrator.shortage + tally Goroutine.bootWork state.goroutines + poolWork _ <
        8 * state.orchestrator.shortage + tally Goroutine.bootWork state.goroutines + state.poolWork
      omega
  | @poolBoot g held short room fresh =>
      have missing := Orchestrator.shortage_admitBoot short room
      refine ⟨⟨assigned, tallied, awake, calm.resume rfl (fun _ runs => runs) rfl, ?_⟩, ?_⟩
      · change state.orchestrator.admitBoot.stock + state.orchestrator.admitBoot.shortage = goal
        have grown : state.orchestrator.admitBoot.stock = state.orchestrator.stock + 1 := by
          simp only [Orchestrator.stock, Orchestrator.admitBoot]
          omega
        omega
      · have pool : ({ state with orchestrator := state.orchestrator.admitBoot }.resume g (.boot .starting)).poolWork =
            state.poolWork := rfl
        unfold work
        rw [pool, resume_orchestrator, missing, resume_goroutines, tally_insert, fresh]
        simp only [Goroutine.bootWork, Map.found_none]
        omega
  | @bootCreate g key short ipAddress found fresh =>
      refine ⟨⟨assigned, tallied, awake, calm.resume rfl ?_ ?_, goal_⟩, ?_⟩
      · intro id runs
        unfold System.running at runs ⊢
        rw [Finmap.lookup_insert_of_ne]
        · exact runs
        · rintro rfl
          simp [fresh] at runs
      · simp [Goroutine.calm, System.running]
      · have pool : poolWork ({ state with
            docker := state.docker.insert key ⟨namePrefixWarm ++ short, ipAddress, true⟩ }.resume g
              (.boot (.inspecting key))) = state.poolWork := rfl
        unfold work
        rw [pool, resume_orchestrator, resume_goroutines, tally_insert, found]
        simp only [Goroutine.bootWork, Map.found_some]
        omega
  | @bootInspect g key container found known =>
      refine ⟨⟨assigned, tallied, awake, calm.resume rfl (fun _ runs => runs)
        (calm g (.boot (.inspecting key)) found), goal_⟩, ?_⟩
      have pool : poolWork (state.resume g (.boot (.started ⟨key, container.ipAddress⟩))) = state.poolWork := rfl
      unfold work
      rw [pool, resume_orchestrator, resume_goroutines, tally_insert, found]
      simp only [Goroutine.bootWork, Map.found_some]
      omega
  | @bootPool g worker found free =>
      obtain ⟨stock, total⟩ := Orchestrator.stock_recordBoot (filling.assigned.unpooled found)
      have shortage : (state.orchestrator.recordBoot (some worker)).shortage = state.orchestrator.shortage := by
        unfold Orchestrator.shortage
        rw [stock, total]
        rfl
      refine ⟨⟨assigned, tallied, awake, calm.resume rfl (fun _ runs => runs)
        (calm g (.boot (.started worker)) found), ?_⟩, ?_⟩
      · rw [resume_orchestrator, stock, shortage]
        exact goal_
      · have pool : poolWork ({ state with
            orchestrator := state.orchestrator.recordBoot (some worker) }.resume g (.boot (.pooled worker))) =
              state.poolWork := rfl
        unfold work
        rw [pool, resume_orchestrator, shortage, resume_goroutines, tally_insert, found]
        simp only [Goroutine.bootWork, Map.found_some]
        omega
  | bootGiveUp found free => simp [Fills, System.fills, found] at fills
  | @bootAlive g worker found alive =>
      refine ⟨⟨assigned, tallied, awake, calm.resume rfl (fun _ runs => runs) rfl, goal_⟩, ?_⟩
      have pool : poolWork (state.resume g (.boot .announcing)) = state.poolWork := rfl
      unfold work
      rw [pool, resume_orchestrator, resume_goroutines, tally_insert, found]
      simp only [Goroutine.bootWork, Map.found_some]
      omega
  | @bootBroadcast g found free =>
      have found : state.goroutines.lookup g = some (.boot .announcing) := by
        rcases found with found | found
        · exact found
        · cases calm g _ found
      refine ⟨⟨assigned, tallied, awake, calm.resume rfl (fun _ runs => runs) rfl, goal_⟩, ?_⟩
      have before := state.poolWork_bounds.1
      have later := (poolWork_bounds ({ state with
        orchestrator := state.orchestrator.broadcast }.resume g (.boot .finished))).2
      have shortage : state.orchestrator.broadcast.shortage = state.orchestrator.shortage := rfl
      unfold work
      rw [resume_orchestrator, shortage, resume_goroutines, tally_insert, found]
      simp only [Goroutine.bootWork, Map.found_some]
      omega
  | _ => cases fills

/-- `maintainPool` does not keep the mutex for good. -/
theorem stuck_free {interfaces : Interfaces Managers Event Outcome} {state : System Managers}
    (stuck : Stuck (step interfaces) Fills state) : state.pool ≠ .holding := by
  intro held
  obtain ⟨g, fresh⟩ := Infinite.exists_notMem_finset state.goroutines.keys
  have unused : state.goroutines.lookup g = none := Finmap.lookup_eq_none.mpr fun member =>
    fresh (Finmap.mem_keys.mpr member)
  have enabled := stuck (.poolLoop g) rfl
  simp only [step, held, if_true, spawn, unused] at enabled
  split at enabled <;> cases enabled

/-- Where no step is left every boot is finished. -/
theorem Settling.rests {interfaces : Interfaces Managers Event Outcome} {state : System Managers}
    (calm : Settling state)
    (stuck : Stuck (step interfaces) Fills state) (g : GoroutineID) (goroutine : Goroutine)
    (found : state.goroutines.lookup g = some goroutine) : goroutine.settled = true ∨ goroutine.waits = true := by
  have locked (after : System Managers) : state.locked after = some after := if_neg (stuck_free stuck)
  have own := calm g goroutine found
  unfold Goroutine.calm at own
  split at own
  · obtain ⟨id, fresh⟩ := Infinite.exists_notMem_finset state.docker.keys
    have unused : state.docker.lookup id = none := Finmap.lookup_eq_none.mpr fun member =>
      fresh (Finmap.mem_keys.mpr member)
    have enabled := stuck (.bootCreate g id "" "") rfl
    simp [step, found, unused] at enabled
  · have enabled := stuck (.bootBroadcast g) rfl
    simp [step, found, locked] at enabled
  · next id =>
      have enabled := stuck (.bootInspect g) rfl
      unfold System.running at own
      split at own
      · next container known => simp [step, found, known] at enabled
      · cases own
  · next worker =>
      have enabled := stuck (.bootRecord g) (by simp [Fills, System.fills, found])
      simp [step, found, locked] at enabled
  · next worker =>
      have enabled := stuck (.bootCheck g true) rfl
      simp [step, found, own] at enabled
  · exact Bool.or_eq_true_iff.mp own

/-- What counts goroutines in other phases counts none. -/
theorem tally_rests {state : System Managers} (rests : ∀ g goroutine, state.goroutines.lookup g = some goroutine →
    goroutine.settled = true ∨ goroutine.waits = true) {weight : Goroutine → Int} (none_ : ∀ goroutine : Goroutine,
      goroutine.settled = true ∨ goroutine.waits = true → weight goroutine = 0) : tally weight state.goroutines = 0 :=
  Map.weigh_eq_zero _ _ fun g goroutine found => none_ goroutine (rests g goroutine found)

/-- Then nothing boots, and the pool sleeps for a reason. -/
theorem stuck_satisfied {interfaces : Interfaces Managers Event Outcome} {state : System Managers}
    (tallied : Tallied state) (awake : Awake state) (calm : Settling state)
    (stuck : Stuck (step interfaces) Fills state) :
    state.orchestrator.bootingCount = 0 ∧ (state.orchestrator.stocked ∨ state.orchestrator.full) := by
  have rests := calm.rests stuck
  refine ⟨tallied.booting.trans (tally_rests rests fun _ rests => (resting_idle rests).2.2), ?_⟩
  have asleep : ∃ channel, state.pool = .blocked channel ∧ state.orchestrator.closed channel = false := by
    have enabled := stuck .poolLock rfl
    cases phase : state.pool with
    | acquiring => simp [step, phase] at enabled
    | holding => exact absurd phase (stuck_free stuck)
    | blocked channel => exact ⟨channel, rfl, by simpa [step, phase] using enabled⟩
  obtain ⟨channel, blocked, opened⟩ := asleep
  have latest := Orchestrator.open_eq (awake.poolChannel channel blocked) opened
  have nobody : state.announcers = 0 := tally_rests rests fun _ rests => (resting_idle rests).1
  rcases awake.reason (latest ▸ blocked) with stocked | full | announced
  · exact .inl stocked
  · exact .inr full
  · omega

end System

end RunnersMux
