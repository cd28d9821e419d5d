import RunnersMux.Orchestrator.Goroutines

/-! What one step can do, said once.

`Effect` lists the enabled outcomes of an action with their guards. Every
invariant is proved by cases on it; no later proof unfolds `step`.
-/

set_option autoImplicit false

namespace RunnersMux

open Foundations

namespace System

variable {Managers Event Outcome : Type}

theorem tally_insert (weight : Goroutine → Int) (goroutines : Map GoroutineID Goroutine)
    (g : GoroutineID) (goroutine : Goroutine) :
    tally weight (goroutines.insert g goroutine) =
      tally weight goroutines + weight goroutine - Map.found weight (goroutines.lookup g) :=
  Map.weigh_insert goroutines (fun _ => weight) g goroutine

theorem tally_nonneg {weight : Goroutine → Int} (nonneg : ∀ goroutine, 0 ≤ weight goroutine)
    (goroutines : Map GoroutineID Goroutine) : 0 ≤ tally weight goroutines :=
  Map.weigh_nonneg goroutines fun _ => nonneg

section
variable (state : System Managers) (g : GoroutineID) (goroutine : Goroutine) (id : ContainerID)
  (name : String)

@[simp] theorem resume_orchestrator : (state.resume g goroutine).orchestrator = state.orchestrator := rfl
@[simp] theorem resume_docker : (state.resume g goroutine).docker = state.docker := rfl
@[simp] theorem resume_pool : (state.resume g goroutine).pool = state.pool := rfl
@[simp] theorem resume_managers : (state.resume g goroutine).managers = state.managers := rfl
@[simp] theorem resume_delivered : (state.resume g goroutine).delivered = state.delivered := rfl
@[simp] theorem resume_goroutines :
    (state.resume g goroutine).goroutines = state.goroutines.insert g goroutine := rfl

@[simp] theorem stop_orchestrator : (state.stop id).orchestrator = state.orchestrator := by
  unfold stop; split <;> rfl
@[simp] theorem stop_goroutines : (state.stop id).goroutines = state.goroutines := by
  unfold stop; split <;> rfl
@[simp] theorem stop_pool : (state.stop id).pool = state.pool := by unfold stop; split <;> rfl
@[simp] theorem stop_managers : (state.stop id).managers = state.managers := by unfold stop; split <;> rfl
@[simp] theorem stop_delivered : (state.stop id).delivered = state.delivered := by
  unfold stop; split <;> rfl

/-- A forced removal has stopped the container, or nothing has happened. -/
theorem remove_cases (removed : Bool) :
    state.remove removed id = state ∧ removed = false ∨ state.remove removed id = state.stop id ∧ removed = true := by
  cases removed
  · exact .inl ⟨rfl, rfl⟩
  · exact .inr ⟨rfl, rfl⟩

@[simp] theorem remove_orchestrator (removed : Bool) : (state.remove removed id).orchestrator = state.orchestrator := by
  cases removed <;> simp [remove]
@[simp] theorem remove_goroutines (removed : Bool) : (state.remove removed id).goroutines = state.goroutines := by
  cases removed <;> simp [remove]
@[simp] theorem remove_pool (removed : Bool) : (state.remove removed id).pool = state.pool := by
  cases removed <;> simp [remove]
@[simp] theorem remove_managers (removed : Bool) : (state.remove removed id).managers = state.managers := by
  cases removed <;> simp [remove]
@[simp] theorem remove_delivered (removed : Bool) : (state.remove removed id).delivered = state.delivered := by
  cases removed <;> simp [remove]

theorem stop_jobsCompleted : (state.stop id).jobsCompleted = state.jobsCompleted := by
  unfold stop; split <;> rfl

theorem remove_jobsCompleted (removed : Bool) : (state.remove removed id).jobsCompleted = state.jobsCompleted := by
  cases removed <;> simp [remove, stop_jobsCompleted]

@[simp] theorem containerRename_orchestrator :
    (state.containerRename id name).orchestrator = state.orchestrator := by
  unfold containerRename; split <;> rfl
@[simp] theorem containerRename_goroutines :
    (state.containerRename id name).goroutines = state.goroutines := by
  unfold containerRename; split <;> rfl
@[simp] theorem containerRename_pool : (state.containerRename id name).pool = state.pool := by
  unfold containerRename; split <;> rfl
@[simp] theorem containerRename_managers :
    (state.containerRename id name).managers = state.managers := by
  unfold containerRename; split <;> rfl
@[simp] theorem containerRename_delivered :
    (state.containerRename id name).delivered = state.delivered := by
  unfold containerRename; split <;> rfl

end

/-- An evaluation touches the pause flag and the managers, nothing else. -/
theorem evaluateCapacity_frame (pauser : GlobalPauser Managers Outcome) (outcome : Outcome)
    (state : System Managers) :
    ∃ paused managers, state.evaluateCapacity pauser outcome =
      { state with orchestrator := { state.orchestrator with isPaused := paused }, managers } := by
  unfold evaluateCapacity Orchestrator.evaluateCapacity
  split
  · exact ⟨true, _, rfl⟩
  · split
    · exact ⟨false, _, rfl⟩
    · exact ⟨state.orchestrator.isPaused, state.managers, rfl⟩

/-- The three outcomes of the critical section of `handleContainerDeath`. -/
inductive Reaped (reporter : StatusReporter Managers) (state : System Managers) (id : ContainerID) :
    System Managers → Bool → Prop where
  | active {worker : ActiveWorker} (found : state.orchestrator.activeWorkers.lookup id = some worker) :
      Reaped reporter state id { state with
        orchestrator := (state.orchestrator.removeActive id worker.runnerName).broadcast
        managers := state.report (reporter.markIdle worker.runnerName)
        jobsCompleted := (id, worker.runnerName) :: state.jobsCompleted } true
  | warm {worker : WarmWorker} (absent : state.orchestrator.activeWorkers.lookup id = none)
      (found : state.orchestrator.warmPool.lookup id = some worker) :
      Reaped reporter state id { state with
        orchestrator := (state.orchestrator.removeWarm id).broadcast } false
  | unknown (absent : state.orchestrator.activeWorkers.lookup id = none)
      (missing : state.orchestrator.warmPool.lookup id = none) :
      Reaped reporter state id state false

theorem handleContainerDeath_reaped (reporter : StatusReporter Managers) (state : System Managers)
    (id : ContainerID) :
    Reaped reporter state id (state.handleContainerDeath reporter id).1
      (state.handleContainerDeath reporter id).2 := by
  unfold handleContainerDeath
  cases active : state.orchestrator.activeWorkers.lookup id with
  | some worker => exact .active active
  | none =>
      cases warm : state.orchestrator.warmPool.lookup id with
      | some worker => exact .warm active warm
      | none => exact .unknown active warm

/-- The two outcomes of the loop body of `AllocateWorker`. -/
inductive Picked (o : Orchestrator) : Orchestrator → AllocatePhase → Prop where
  | claim {id : ContainerID} {candidate : WarmWorker} (found : o.warmPool.lookup id = some candidate) :
      Picked o (o.claim id) (.claimed candidate)
  | wait (empty : o.warmPool = ∅) : Picked o o (.waiting o.broadcastCh)

theorem claimOrWait_picked {o after : Orchestrator} {choice : Option ContainerID} {phase : AllocatePhase}
    (taken : claimOrWait o choice = some (after, phase)) : Picked o after phase := by
  cases choice with
  | some id =>
      obtain ⟨candidate, found, same⟩ := Option.map_eq_some_iff.mp taken
      cases same
      exact .claim found
  | none =>
      simp only [claimOrWait] at taken
      split at taken
      · next empty =>
          cases taken
          exact .wait empty
      · cases taken

inductive Effect (interfaces : Interfaces Managers Event Outcome) (state : System Managers) :
    Action Event Outcome → System Managers → Prop where
  | poolLock (idle : state.pool = .acquiring ∨
        ∃ channel, state.pool = .blocked channel ∧ state.orchestrator.closed channel = true) :
      Effect interfaces state .poolLock { state with pool := .holding }
  | poolBlock {g : GoroutineID} (held : state.pool = .holding)
      (waits : state.orchestrator.stocked ∨ state.orchestrator.full) :
      Effect interfaces state (.poolLoop g)
        { state with pool := .blocked state.orchestrator.broadcastCh }
  | poolBoot {g : GoroutineID} (held : state.pool = .holding)
      (short : ¬state.orchestrator.stocked) (room : ¬state.orchestrator.full)
      (fresh : state.goroutines.lookup g = none) :
      Effect interfaces state (.poolLoop g)
        ({ state with orchestrator := state.orchestrator.admitBoot }.resume g (.boot .starting))
  | bootCreate {g : GoroutineID} {id : ContainerID} {short ipAddress : String}
      (found : state.goroutines.lookup g = some (.boot .starting))
      (fresh : state.docker.lookup id = none) :
      Effect interfaces state (.bootCreate g id short ipAddress)
        ({ state with
          docker := state.docker.insert id ⟨namePrefixWarm ++ short, ipAddress, true⟩ }.resume g
            (.boot (.inspecting id)))
  | bootCreateFail {g : GoroutineID} (found : state.goroutines.lookup g = some (.boot .starting)) :
      Effect interfaces state (.bootCreateFail g) (state.resume g (.boot .failed))
  | bootInspect {g : GoroutineID} {id : ContainerID} {container : Container}
      (found : state.goroutines.lookup g = some (.boot (.inspecting id)))
      (known : state.docker.lookup id = some container) :
      Effect interfaces state (.bootInspect g)
        (state.resume g (.boot (.started ⟨id, container.ipAddress⟩)))
  | bootInspectFail {g : GoroutineID} {removed : Bool} {id : ContainerID}
      (found : state.goroutines.lookup g = some (.boot (.inspecting id))) :
      Effect interfaces state (.bootInspectFail g removed) ((state.remove removed id).resume g (.boot .failed))
  | bootPool {g : GoroutineID} {worker : WarmWorker}
      (found : state.goroutines.lookup g = some (.boot (.started worker)))
      (free : state.pool ≠ .holding) :
      Effect interfaces state (.bootRecord g)
        ({ state with orchestrator := state.orchestrator.recordBoot (some worker) }.resume g
          (.boot (.pooled worker)))
  | bootGiveUp {g : GoroutineID} (found : state.goroutines.lookup g = some (.boot .failed))
      (free : state.pool ≠ .holding) :
      Effect interfaces state (.bootRecord g)
        ({ state with orchestrator := state.orchestrator.recordBoot none }.resume g (.boot .backoff))
  | bootAlive {g : GoroutineID} {worker : WarmWorker}
      (found : state.goroutines.lookup g = some (.boot (.pooled worker)))
      (alive : state.running worker.containerID = true) :
      Effect interfaces state (.bootCheck g true) (state.resume g (.boot .announcing))
  | bootDead {g : GoroutineID} {worker : WarmWorker}
      (found : state.goroutines.lookup g = some (.boot (.pooled worker))) :
      Effect interfaces state (.bootCheck g false) (state.resume g (.boot (.dead worker)))
  | bootDeath {g : GoroutineID} {worker : WarmWorker} {between : System Managers} {changed : Bool}
      (found : state.goroutines.lookup g = some (.boot (.dead worker)))
      (free : state.pool ≠ .holding)
      (reaped : Reaped interfaces.reporter state worker.containerID between changed) :
      Effect interfaces state (.bootDeath g)
        (between.resume g (.boot (if changed then .evaluating else .announcing)))
  | bootBroadcast {g : GoroutineID}
      (found : state.goroutines.lookup g = some (.boot .announcing) ∨
        state.goroutines.lookup g = some (.boot .backoff))
      (free : state.pool ≠ .holding) :
      Effect interfaces state (.bootBroadcast g)
        ({ state with orchestrator := state.orchestrator.broadcast }.resume g (.boot .finished))
  | allocate {g : GoroutineID} {runner : RunnerName} {choice : Option ContainerID}
      {o : Orchestrator} {phase : AllocatePhase}
      (fresh : state.goroutines.lookup g = none) (free : state.pool ≠ .holding)
      (picked : Picked state.orchestrator.request.broadcast o phase) :
      Effect interfaces state (.allocate g runner choice)
        ({ state with orchestrator := o }.resume g (.allocate runner phase))
  | wake {g : GoroutineID} {runner : RunnerName} {choice : Option ContainerID} {channel : Nat}
      {o : Orchestrator} {phase : AllocatePhase}
      (found : state.goroutines.lookup g = some (.allocate runner (.waiting channel)))
      (closed : state.orchestrator.closed channel = true) (free : state.pool ≠ .holding)
      (picked : Picked state.orchestrator o phase) :
      Effect interfaces state (.wake g choice)
        ({ state with orchestrator := o }.resume g (.allocate runner phase))
  | cancel {g : GoroutineID} {runner : RunnerName} {channel : Nat}
      (found : state.goroutines.lookup g = some (.allocate runner (.waiting channel)))
      (free : state.pool ≠ .holding) :
      Effect interfaces state (.cancel g)
        ({ state with orchestrator := state.orchestrator.withdraw }.resume g
          (.allocate runner .cancelled))
  | rename {g : GoroutineID} {runner : RunnerName} {candidate : WarmWorker} {suffix : String}
      (found : state.goroutines.lookup g = some (.allocate runner (.claimed candidate))) :
      Effect interfaces state (.rename g (some suffix))
        ((state.containerRename candidate.containerID
          (namePrefixActive ++ runner ++ "-" ++ suffix)).resume g (.allocate runner (.renamed candidate)))
  | renameFail {g : GoroutineID} {runner : RunnerName} {candidate : WarmWorker}
      (found : state.goroutines.lookup g = some (.allocate runner (.claimed candidate))) :
      Effect interfaces state (.rename g none)
        (state.resume g (.allocate runner (.renamed candidate)))
  | checkAlive {g : GoroutineID} {runner : RunnerName} {candidate : WarmWorker}
      (found : state.goroutines.lookup g = some (.allocate runner (.renamed candidate)))
      (alive : state.running candidate.containerID = true) :
      Effect interfaces state (.check g true) (state.resume g (.allocate runner (.alive candidate)))
  | checkDead {g : GoroutineID} {runner : RunnerName} {candidate : WarmWorker}
      (found : state.goroutines.lookup g = some (.allocate runner (.renamed candidate))) :
      Effect interfaces state (.check g false) (state.resume g (.allocate runner (.dead candidate)))
  | discard {g : GoroutineID} {removed : Bool} {runner : RunnerName} {candidate : WarmWorker}
      (found : state.goroutines.lookup g = some (.allocate runner (.dead candidate))) :
      Effect interfaces state (.discard g removed)
        ((state.remove removed candidate.containerID).resume g (.allocate runner .discarded))
  | retry {g : GoroutineID} {runner : RunnerName} {choice : Option ContainerID}
      {o : Orchestrator} {phase : AllocatePhase}
      (found : state.goroutines.lookup g = some (.allocate runner .discarded))
      (free : state.pool ≠ .holding) (picked : Picked state.orchestrator.request o phase) :
      Effect interfaces state (.retry g choice)
        ({ state with orchestrator := o }.resume g (.allocate runner phase))
  | register {g : GoroutineID} {runner : RunnerName} {candidate : WarmWorker}
      (found : state.goroutines.lookup g = some (.allocate runner (.alive candidate)))
      (free : state.pool ≠ .holding) :
      Effect interfaces state (.register g)
        ({ state with
          orchestrator := (state.orchestrator.register runner candidate).broadcast }.resume g
            (.allocate runner (.registered candidate)))
  | markBusy {g : GoroutineID} {runner : RunnerName} {candidate : WarmWorker}
      (found : state.goroutines.lookup g = some (.allocate runner (.registered candidate))) :
      Effect interfaces state (.markBusy g)
        ({ state with managers := state.report (interfaces.reporter.markBusy runner) }.resume g
          (.allocate runner (.marked candidate)))
  | dieEvent {g : GoroutineID} {id : ContainerID} {container : Container}
      {between : System Managers} {changed : Bool}
      (known : state.docker.lookup id = some container) (dead : container.running = false)
      (fresh : state.goroutines.lookup g = none) (free : state.pool ≠ .holding)
      (reaped : Reaped interfaces.reporter state id between changed) :
      Effect interfaces state (.dieEvent g id)
        ({ between with delivered := insert id state.delivered }.resume g
          (.death (if changed then .evaluating else .finished)))
  | abortActive {g : GoroutineID} {id : ContainerID} {worker : ActiveWorker}
      (found : state.orchestrator.activeWorkers.lookup id = some worker)
      (fresh : state.goroutines.lookup g = none) (free : state.pool ≠ .holding) :
      Effect interfaces state (.abort g id)
        ({ state with
          orchestrator := state.orchestrator.removeActive id worker.runnerName
          managers := state.report (interfaces.reporter.markIdle worker.runnerName) }.resume g
            (.abort (.evaluating id)))
  | abortUnknown {g : GoroutineID} {id : ContainerID}
      (absent : state.orchestrator.activeWorkers.lookup id = none)
      (fresh : state.goroutines.lookup g = none) (free : state.pool ≠ .holding) :
      Effect interfaces state (.abort g id) (state.resume g (.abort (.evaluating id)))
  | kill {g : GoroutineID} {removed : Bool} {id : ContainerID}
      (found : state.goroutines.lookup g = some (.abort (.killing id))) :
      Effect interfaces state (.kill g removed) ((state.remove removed id).resume g (.abort .finished))
  | evaluate {g : GoroutineID} {outcome : Outcome} {caller later : Goroutine}
      (found : state.goroutines.lookup g = some caller) (goes : afterEvaluation caller = some later)
      (free : state.pool ≠ .holding) :
      Effect interfaces state (.evaluate g outcome)
        ((state.evaluateCapacity interfaces.pauser outcome).resume g later)
  | updateSettings {maxWorkers warmWorkers : Int} (free : state.pool ≠ .holding) :
      Effect interfaces state (.updateSettings maxWorkers warmWorkers)
        { state with orchestrator := state.orchestrator.updateSettings maxWorkers warmWorkers }
  | setStatusReporter :
      Effect interfaces state .setStatusReporter
        { state with orchestrator := { state.orchestrator with reporter := true } }
  | die {id : ContainerID} (alive : state.running id = true) :
      Effect interfaces state (.die id) (state.stop id)
  | managers {event : Event} {managers : Managers} (acted : interfaces.act state.managers event = some managers) :
      Effect interfaces state (.managers event) { state with managers }

theorem locked_eq_some {state after last : System Managers} (taken : state.locked after = some last) :
    state.pool ≠ .holding ∧ last = after := by
  unfold locked at taken
  split at taken
  · cases taken
  · next free => exact ⟨free, (Option.some.inj taken).symm⟩

theorem spawn_eq_some {state after last : System Managers} {g : GoroutineID}
    (taken : state.spawn g after = some last) : state.goroutines.lookup g = none ∧ last = after := by
  unfold spawn at taken
  split at taken
  · next fresh => exact ⟨fresh, (Option.some.inj taken).symm⟩
  · cases taken

theorem spawn_locked {state after last : System Managers} {g : GoroutineID}
    (taken : (state.spawn g after).bind state.locked = some last) :
    state.goroutines.lookup g = none ∧ state.pool ≠ .holding ∧ last = after := by
  obtain ⟨between, spawned, rest⟩ := Option.bind_eq_some_iff.mp taken
  obtain ⟨fresh, rfl⟩ := spawn_eq_some spawned
  obtain ⟨free, rfl⟩ := locked_eq_some rest
  exact ⟨fresh, free, rfl⟩

theorem step_effect (interfaces : Interfaces Managers Event Outcome) {state after : System Managers}
    {action : Action Event Outcome} (taken : step interfaces state action = some after) :
    Effect interfaces state action after := by
  cases action with
  | poolLock =>
      simp only [step] at taken
      split at taken
      · next acquiring =>
          cases taken
          exact .poolLock (.inl acquiring)
      · next channel blocked =>
          split at taken
          · next closed =>
              cases taken
              exact .poolLock (.inr ⟨channel, blocked, closed⟩)
          · cases taken
      · cases taken
  | poolLoop g =>
      simp only [step] at taken
      split at taken
      · next held =>
          split at taken
          · next waits =>
              cases taken
              exact .poolBlock held waits
          · next goes =>
              obtain ⟨fresh, rfl⟩ := spawn_eq_some taken
              exact .poolBoot held (fun stocked => goes (.inl stocked)) (fun full => goes (.inr full)) fresh
      · cases taken
  | bootCreate g id short ipAddress =>
      simp only [step] at taken
      split at taken
      · next found =>
          split at taken
          · next fresh =>
              cases taken
              exact .bootCreate found fresh
          · cases taken
      · cases taken
  | bootCreateFail g =>
      simp only [step] at taken
      split at taken
      · next found =>
          cases taken
          exact .bootCreateFail found
      · cases taken
  | bootInspect g =>
      simp only [step] at taken
      split at taken
      · next id found =>
          obtain ⟨container, known, rfl⟩ := Option.map_eq_some_iff.mp taken
          exact .bootInspect found known
      · cases taken
  | bootInspectFail g removed =>
      simp only [step] at taken
      split at taken
      · next id found =>
          cases taken
          exact .bootInspectFail found
      · cases taken
  | bootRecord g =>
      simp only [step] at taken
      split at taken
      · next worker found =>
          obtain ⟨free, rfl⟩ := locked_eq_some taken
          exact .bootPool found free
      · next found =>
          obtain ⟨free, rfl⟩ := locked_eq_some taken
          exact .bootGiveUp found free
      · cases taken
  | bootCheck g alive =>
      simp only [step] at taken
      split at taken
      · next worker found =>
          cases alive with
          | false =>
              cases taken
              exact .bootDead found
          | true =>
              simp only [if_true] at taken
              split at taken
              · next alive =>
                  cases taken
                  exact .bootAlive found alive
              · cases taken
      · cases taken
  | bootDeath g =>
      simp only [step] at taken
      split at taken
      · next worker found =>
          obtain ⟨free, rfl⟩ := locked_eq_some taken
          exact .bootDeath found free (handleContainerDeath_reaped _ _ _)
      · cases taken
  | bootBroadcast g =>
      simp only [step] at taken
      split at taken
      · next found =>
          obtain ⟨free, rfl⟩ := locked_eq_some taken
          exact .bootBroadcast (.inl found) free
      · next found =>
          obtain ⟨free, rfl⟩ := locked_eq_some taken
          exact .bootBroadcast (.inr found) free
      · cases taken
  | allocate g runner choice =>
      simp only [step] at taken
      obtain ⟨⟨o, phase⟩, picked, rest⟩ := Option.bind_eq_some_iff.mp taken
      obtain ⟨fresh, free, rfl⟩ := spawn_locked rest
      exact .allocate fresh free (claimOrWait_picked picked)
  | wake g choice =>
      simp only [step] at taken
      split at taken
      · next runner channel found =>
          split at taken
          · next closed =>
              obtain ⟨⟨o, phase⟩, picked, rest⟩ := Option.bind_eq_some_iff.mp taken
              obtain ⟨free, rfl⟩ := locked_eq_some rest
              exact .wake found closed free (claimOrWait_picked picked)
          · cases taken
      · cases taken
  | cancel g =>
      simp only [step] at taken
      split at taken
      · next runner channel found =>
          obtain ⟨free, rfl⟩ := locked_eq_some taken
          exact .cancel found free
      · cases taken
  | rename g short =>
      simp only [step] at taken
      split at taken
      · next runner candidate found =>
          cases short with
          | none =>
              cases taken
              exact .renameFail found
          | some suffix =>
              cases taken
              exact .rename found
      · cases taken
  | check g alive =>
      simp only [step] at taken
      split at taken
      · next runner candidate found =>
          cases alive with
          | false =>
              cases taken
              exact .checkDead found
          | true =>
              simp only [if_true] at taken
              split at taken
              · next alive =>
                  cases taken
                  exact .checkAlive found alive
              · cases taken
      · cases taken
  | discard g removed =>
      simp only [step] at taken
      split at taken
      · next runner candidate found =>
          cases taken
          exact .discard found
      · cases taken
  | retry g choice =>
      simp only [step] at taken
      split at taken
      · next runner found =>
          obtain ⟨⟨o, phase⟩, picked, rest⟩ := Option.bind_eq_some_iff.mp taken
          obtain ⟨free, rfl⟩ := locked_eq_some rest
          exact .retry found free (claimOrWait_picked picked)
      · cases taken
  | register g =>
      simp only [step] at taken
      split at taken
      · next runner candidate found =>
          obtain ⟨free, rfl⟩ := locked_eq_some taken
          exact .register found free
      · cases taken
  | markBusy g =>
      simp only [step] at taken
      split at taken
      · next runner candidate found =>
          cases taken
          exact .markBusy found
      · cases taken
  | dieEvent g id =>
      simp only [step] at taken
      split at taken
      · next container known =>
          split at taken
          · next dead =>
              obtain ⟨fresh, free, rfl⟩ := spawn_locked taken
              exact .dieEvent known dead fresh free (handleContainerDeath_reaped _ _ _)
          · cases taken
      · cases taken
  | abort g id =>
      simp only [step] at taken
      obtain ⟨fresh, free, rfl⟩ := spawn_locked taken
      unfold abortWorker
      cases active : state.orchestrator.activeWorkers.lookup id with
      | some worker => exact .abortActive active fresh free
      | none => exact .abortUnknown active fresh free
  | kill g removed =>
      simp only [step] at taken
      split at taken
      · next id found =>
          cases taken
          exact .kill found
      · cases taken
  | evaluate g outcome =>
      simp only [step] at taken
      split at taken
      · next later goes =>
          obtain ⟨caller, found, goes⟩ := Option.bind_eq_some_iff.mp goes
          obtain ⟨free, rfl⟩ := locked_eq_some taken
          exact .evaluate found goes free
      · cases taken
  | updateSettings maxWorkers warmWorkers =>
      obtain ⟨free, rfl⟩ := locked_eq_some taken
      exact .updateSettings free
  | setStatusReporter =>
      cases taken
      exact .setStatusReporter
  | die id =>
      simp only [step] at taken
      split at taken
      · next alive =>
          cases taken
          exact .die alive
      · cases taken
  | managers event =>
      obtain ⟨managers, acted, rfl⟩ := Option.map_eq_some_iff.mp taken
      exact .managers acted

/-- What a step makes of a goroutine that it resumes; the phases of a call in full. -/
inductive Progress (action : Action Event Outcome) (g : GoroutineID) : Option Goroutine → Goroutine → Prop where
  | boot {phase : BootPhase} : Progress action g none (.boot phase)
  | boots {before phase : BootPhase} : Progress action g (some (.boot before)) (.boot phase)
  | death {phase : DeathPhase} : Progress action g none (.death phase)
  | deaths {before phase : DeathPhase} : Progress action g (some (.death before)) (.death phase)
  | abort {phase : AbortPhase} : Progress action g none (.abort phase)
  | aborts {before phase : AbortPhase} : Progress action g (some (.abort before)) (.abort phase)
  | begins {runner : RunnerName} {choice : Option ContainerID} {o after : Orchestrator} {phase : AllocatePhase}
      (begun : action = .allocate g runner choice) (picked : Picked o after phase) :
      Progress action g none (.allocate runner phase)
  | wakes {runner : RunnerName} {channel : Nat} {o after : Orchestrator} {phase : AllocatePhase}
      (picked : Picked o after phase) :
      Progress action g (some (.allocate runner (.waiting channel))) (.allocate runner phase)
  | cancels {runner : RunnerName} {channel : Nat} :
      Progress action g (some (.allocate runner (.waiting channel))) (.allocate runner .cancelled)
  | renames {runner : RunnerName} {candidate : WarmWorker} :
      Progress action g (some (.allocate runner (.claimed candidate))) (.allocate runner (.renamed candidate))
  | lives {runner : RunnerName} {candidate : WarmWorker} :
      Progress action g (some (.allocate runner (.renamed candidate))) (.allocate runner (.alive candidate))
  | dies {runner : RunnerName} {candidate : WarmWorker} :
      Progress action g (some (.allocate runner (.renamed candidate))) (.allocate runner (.dead candidate))
  | discards {runner : RunnerName} {candidate : WarmWorker} :
      Progress action g (some (.allocate runner (.dead candidate))) (.allocate runner .discarded)
  | retries {runner : RunnerName} {o after : Orchestrator} {phase : AllocatePhase} (picked : Picked o after phase) :
      Progress action g (some (.allocate runner .discarded)) (.allocate runner phase)
  | registers {runner : RunnerName} {candidate : WarmWorker} (registered : action = .register g) :
      Progress action g (some (.allocate runner (.alive candidate))) (.allocate runner (.registered candidate))
  | marks {runner : RunnerName} {candidate : WarmWorker} :
      Progress action g (some (.allocate runner (.registered candidate))) (.allocate runner (.marked candidate))
  | returns {runner : RunnerName} {candidate : WarmWorker} :
      Progress action g (some (.allocate runner (.marked candidate))) (.allocate runner (.returned candidate))

/-- A step leaves a goroutine alone or takes it further. -/
inductive Resumes (action : Action Event Outcome) (g : GoroutineID) : Option Goroutine → Option Goroutine → Prop where
  | same {goroutine : Option Goroutine} : Resumes action g goroutine goroutine
  | progresses {old : Option Goroutine} {new : Goroutine} (progress : Progress action g old new) :
      Resumes action g old (some new)

theorem Progress.resumes {state between : System Managers} {action : Action Event Outcome} {h : GoroutineID}
    {old : Option Goroutine} {new : Goroutine} (progress : Progress action h old new)
    (same : between.goroutines = state.goroutines) (found : state.goroutines.lookup h = old) (g : GoroutineID) :
    Resumes action g (state.goroutines.lookup g) ((between.resume h new).goroutines.lookup g) := by
  rw [resume_goroutines, same, Map.lookup_insert_if]
  split
  · next equal =>
      subst equal
      rw [found]
      exact .progresses progress
  · exact .same

theorem Reaped.goroutines {reporter : StatusReporter Managers} {state between : System Managers} {id : ContainerID}
    {changed : Bool} (reaped : Reaped reporter state id between changed) : between.goroutines = state.goroutines := by
  cases reaped <;> rfl

theorem effect_resumes {interfaces : Interfaces Managers Event Outcome} {state after : System Managers}
    {action : Action Event Outcome} (effect : Effect interfaces state action after) (g : GoroutineID) :
    Resumes action g (state.goroutines.lookup g) (after.goroutines.lookup g) := by
  cases effect with
  | poolLock | poolBlock | setStatusReporter | managers | updateSettings => exact .same
  | poolBoot held short full fresh => exact Progress.boot.resumes rfl fresh g
  | bootCreate found | bootCreateFail found | bootInspect found | bootPool found | bootGiveUp found
  | bootAlive found | bootDead found => exact Progress.boots.resumes rfl found g
  | bootInspectFail found => exact Progress.boots.resumes (remove_goroutines ..) found g
  | bootDeath found free reaped => exact Progress.boots.resumes reaped.goroutines found g
  | bootBroadcast found free =>
      rcases found with found | found <;> exact Progress.boots.resumes rfl found g
  | allocate fresh free picked => exact (Progress.begins rfl picked).resumes rfl fresh g
  | wake found closed free picked => exact (Progress.wakes picked).resumes rfl found g
  | cancel found free => exact Progress.cancels.resumes rfl found g
  | rename found => exact Progress.renames.resumes (containerRename_goroutines ..) found g
  | renameFail found => exact Progress.renames.resumes rfl found g
  | checkAlive found alive => exact Progress.lives.resumes rfl found g
  | checkDead found => exact Progress.dies.resumes rfl found g
  | discard found => exact Progress.discards.resumes (remove_goroutines ..) found g
  | retry found free picked => exact (Progress.retries picked).resumes rfl found g
  | register found free => exact (Progress.registers rfl).resumes rfl found g
  | markBusy found => exact Progress.marks.resumes rfl found g
  | dieEvent known dead fresh free reaped => exact Progress.death.resumes reaped.goroutines fresh g
  | abortActive found fresh free => exact Progress.abort.resumes rfl fresh g
  | abortUnknown absent fresh free => exact Progress.abort.resumes rfl fresh g
  | kill found => exact Progress.aborts.resumes (remove_goroutines ..) found g
  | @evaluate h outcome caller later found goes free =>
      obtain ⟨paused, managers, frame⟩ := state.evaluateCapacity_frame interfaces.pauser outcome
      rw [frame]
      have progress : Progress (.evaluate h outcome : Action Event Outcome) h (some caller) later := by
        unfold afterEvaluation at goes
        split at goes <;> cases goes
        · exact .boots
        · exact .returns
        · exact .deaths
        · exact .aborts
      exact progress.resumes rfl found g
  | die alive =>
      rw [stop_goroutines]
      exact .same

end System

end RunnersMux
