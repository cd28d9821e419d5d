import RunnersMux.Orchestrator.State

/-! The goroutines of the orchestrator and one atomic step of any of them.

A step is a critical section, or one call out of the mutex: to Docker, to the
status reporter, or a wait on a channel. `maintainPool` keeps the mutex over
several iterations, so its lock is explicit and excludes every other section.
Finished goroutines stay in the table, so that a run remembers its results.
-/

set_option autoImplicit false

namespace RunnersMux

open Foundations

abbrev GoroutineID := Nat

/-- A managed container as Docker knows it. Dead ones stay known, so no ID
that Docker has handed out is ever handed out again. -/
structure Container where
  name : String
  ipAddress : String
  running : Bool
  deriving DecidableEq, Repr

def namePrefixWarm : String := "github-mux-warm-"
def namePrefixActive : String := "github-mux-active-"

/-- The single `maintainPool` goroutine. -/
inductive PoolPhase where
  | acquiring
  | holding
  | blocked (channel : Nat)
  deriving DecidableEq, Repr

/-- A boot goroutine of `maintainPool`. The first three phases are inside
`startContainer`; `failed` and `started` hold its result, not yet recorded. -/
inductive BootPhase where
  | starting
  | inspecting (id : ContainerID)
  | failed
  | started (worker : WarmWorker)
  | pooled (worker : WarmWorker)
  | dead (worker : WarmWorker)
  | evaluating
  | announcing
  | backoff
  | finished
  deriving DecidableEq, Repr

/-- A call of `AllocateWorker`, from its first critical section on. -/
inductive AllocatePhase where
  | waiting (channel : Nat)
  | claimed (candidate : WarmWorker)
  | renamed (candidate : WarmWorker)
  | dead (candidate : WarmWorker)
  | discarded
  | alive (candidate : WarmWorker)
  | registered (candidate : WarmWorker)
  | marked (candidate : WarmWorker)
  | returned (candidate : WarmWorker)
  | cancelled
  deriving DecidableEq, Repr

/-- A call of `handleContainerDeath` made for a die event. -/
inductive DeathPhase where
  | evaluating
  | finished
  deriving DecidableEq, Repr

inductive AbortPhase where
  | evaluating (id : ContainerID)
  | killing (id : ContainerID)
  | finished
  deriving DecidableEq, Repr

inductive Goroutine where
  | boot (phase : BootPhase)
  | allocate (runner : RunnerName) (phase : AllocatePhase)
  | death (phase : DeathPhase)
  | abort (phase : AbortPhase)
  deriving DecidableEq, Repr

/-- What the orchestrator calls, and the managers' own steps. -/
structure Interfaces (Managers Event Outcome : Type) where
  pauser : GlobalPauser Managers Outcome
  reporter : StatusReporter Managers
  act : Managers → Event → Option Managers

/-- Interfaces without an effect, for runs in which only the orchestrator matters. -/
def Interfaces.silent : Interfaces Unit Empty Unit where
  pauser := ⟨fun _ _ managers => managers, fun _ managers => managers⟩
  reporter := ⟨fun _ managers => managers, fun _ managers => managers⟩
  act := fun _ event => event.elim

structure System (Managers : Type) where
  orchestrator : Orchestrator
  docker : Map ContainerID Container
  goroutines : Map GoroutineID Goroutine
  pool : PoolPhase
  managers : Managers
  /-- Containers whose die event has been passed to `handleContainerDeath`. -/
  delivered : Finset ContainerID
  /-- The calls of `IncrementJobsCompleted`, latest first. -/
  jobsCompleted : List (ContainerID × RunnerName)

inductive Action (Event Outcome : Type) where
  | poolLock
  | poolLoop (g : GoroutineID)
  | bootCreate (g : GoroutineID) (id : ContainerID) (short ipAddress : String)
  | bootCreateFail (g : GoroutineID)
  | bootInspect (g : GoroutineID)
  | bootInspectFail (g : GoroutineID) (removed : Bool)
  | bootRecord (g : GoroutineID)
  | bootCheck (g : GoroutineID) (alive : Bool)
  | bootDeath (g : GoroutineID)
  | bootBroadcast (g : GoroutineID)
  | allocate (g : GoroutineID) (runner : RunnerName) (choice : Option ContainerID)
  | wake (g : GoroutineID) (choice : Option ContainerID)
  | cancel (g : GoroutineID)
  | rename (g : GoroutineID) (short : Option String)
  | check (g : GoroutineID) (alive : Bool)
  | discard (g : GoroutineID) (removed : Bool)
  | retry (g : GoroutineID) (choice : Option ContainerID)
  | register (g : GoroutineID)
  | markBusy (g : GoroutineID)
  | dieEvent (g : GoroutineID) (id : ContainerID)
  | abort (g : GoroutineID) (id : ContainerID)
  | kill (g : GoroutineID) (removed : Bool)
  | evaluate (g : GoroutineID) (outcome : Outcome)
  | updateSettings (maxWorkers warmWorkers : Int)
  | setStatusReporter
  | die (id : ContainerID)
  | managers (event : Event)
  deriving DecidableEq, Repr

/-- The arguments of `UpdateSettings`. -/
def Action.settings {Event Outcome : Type} : Action Event Outcome → Option (Int × Int)
  | .updateSettings maxWorkers warmWorkers => some (maxWorkers, warmWorkers)
  | _ => none

/-- The runner that a new call of `AllocateWorker` asks for. -/
def Action.requests {Event Outcome : Type} : Action Event Outcome → Option RunnerName
  | .allocate _ runner _ => some runner
  | _ => none

namespace System

variable {Managers Event Outcome : Type}

/-- A section that needs the mutex runs only while `maintainPool` has dropped it. -/
def locked (state after : System Managers) : Option (System Managers) :=
  if state.pool = .holding then none else some after

def resume (state : System Managers) (g : GoroutineID) (goroutine : Goroutine) : System Managers :=
  { state with goroutines := state.goroutines.insert g goroutine }

def spawn (state : System Managers) (g : GoroutineID) (after : System Managers) :
    Option (System Managers) :=
  if state.goroutines.lookup g = none then some after else none

def running (state : System Managers) (id : ContainerID) : Bool :=
  match state.docker.lookup id with
  | some container => container.running
  | none => false

/-- A container stops, by itself or by a forced removal. -/
def stop (state : System Managers) (id : ContainerID) : System Managers :=
  match state.docker.lookup id with
  | some container => { state with docker := state.docker.insert id { container with running := false } }
  | none => state

/-- A forced `ContainerRemove`; its error is thrown away, and the container then runs on. -/
def remove (state : System Managers) (removed : Bool) (id : ContainerID) : System Managers :=
  if removed then state.stop id else state

/-- `ContainerRename`; a failure is only logged. -/
def containerRename (state : System Managers) (id : ContainerID) (name : String) : System Managers :=
  match state.docker.lookup id with
  | some container => { state with docker := state.docker.insert id { container with name := name } }
  | none => state

/-- A call to the status reporter, if one is installed. -/
def report (state : System Managers) (call : Managers → Managers) : Managers :=
  if state.orchestrator.reporter then call state.managers else state.managers

/-- The loop body of `AllocateWorker` up to the next unlock: claim the chosen
container, or take the current channel when the pool is empty. -/
def claimOrWait (o : Orchestrator) : Option ContainerID → Option (Orchestrator × AllocatePhase)
  | some id => (o.warmPool.lookup id).map fun candidate => (o.claim id, .claimed candidate)
  | none => if o.warmPool = ∅ then some (o, .waiting o.broadcastCh) else none

/-- The critical section of `handleContainerDeath` and whether the caller goes
on to evaluate the capacity. An ID in neither map unlocks and returns. -/
def handleContainerDeath (reporter : StatusReporter Managers) (state : System Managers)
    (id : ContainerID) : System Managers × Bool :=
  match state.orchestrator.activeWorkers.lookup id with
  | some worker =>
      ({ state with
          orchestrator := (state.orchestrator.removeActive id worker.runnerName).broadcast
          managers := state.report (reporter.markIdle worker.runnerName)
          jobsCompleted := (id, worker.runnerName) :: state.jobsCompleted }, true)
  | none =>
      match state.orchestrator.warmPool.lookup id with
      | some _ => ({ state with orchestrator := (state.orchestrator.removeWarm id).broadcast }, false)
      | none => (state, false)

/-- The critical section of `AbortWorker`. -/
def abortWorker (reporter : StatusReporter Managers) (state : System Managers) (id : ContainerID) :
    System Managers :=
  match state.orchestrator.activeWorkers.lookup id with
  | some worker =>
      { state with
        orchestrator := state.orchestrator.removeActive id worker.runnerName
        managers := state.report (reporter.markIdle worker.runnerName) }
  | none => state

def evaluateCapacity (pauser : GlobalPauser Managers Outcome) (outcome : Outcome)
    (state : System Managers) : System Managers :=
  let result := state.orchestrator.evaluateCapacity pauser outcome state.managers
  { state with orchestrator := result.1, managers := result.2 }

/-- The goroutine that has called `evaluateCapacity`, once it returns. -/
def afterEvaluation : Goroutine → Option Goroutine
  | .boot .evaluating => some (.boot .announcing)
  | .allocate runner (.marked candidate) => some (.allocate runner (.returned candidate))
  | .death .evaluating => some (.death .finished)
  | .abort (.evaluating id) => some (.abort (.killing id))
  | _ => none

/-- A sum over the goroutines; counts of goroutines in some phase are such sums. -/
def tally (weight : Goroutine → Int) (goroutines : Map GoroutineID Goroutine) : Int :=
  goroutines.weigh fun _ => weight

/-- One atomic step; `none` when the action is not enabled. -/
def step (interfaces : Interfaces Managers Event Outcome) (state : System Managers) :
    Action Event Outcome → Option (System Managers)
  | .poolLock =>
      match state.pool with
      | .acquiring => some { state with pool := .holding }
      | .blocked channel =>
          if state.orchestrator.closed channel then some { state with pool := .holding } else none
      | .holding => none
  | .poolLoop g =>
      if state.pool = .holding then
        -- Either wait drops the mutex and takes the channel that is open now.
        if state.orchestrator.stocked ∨ state.orchestrator.full then
          some { state with pool := .blocked state.orchestrator.broadcastCh }
        else
          state.spawn g
            ({ state with orchestrator := state.orchestrator.admitBoot }.resume g (.boot .starting))
      else none
  | .bootCreate g id short ipAddress =>
      match state.goroutines.lookup g with
      | some (.boot .starting) =>
          if state.docker.lookup id = none then
            some ({ state with
              docker := state.docker.insert id ⟨namePrefixWarm ++ short, ipAddress, true⟩ }.resume g
                (.boot (.inspecting id)))
          else none
      | _ => none
  | .bootCreateFail g =>
      match state.goroutines.lookup g with
      | some (.boot .starting) => some (state.resume g (.boot .failed))
      | _ => none
  | .bootInspect g =>
      match state.goroutines.lookup g with
      | some (.boot (.inspecting id)) =>
          (state.docker.lookup id).map fun container =>
            state.resume g (.boot (.started ⟨id, container.ipAddress⟩))
      | _ => none
  | .bootInspectFail g removed =>
      match state.goroutines.lookup g with
      -- The deferred removal of a container that is not returned.
      | some (.boot (.inspecting id)) => some ((state.remove removed id).resume g (.boot .failed))
      | _ => none
  | .bootRecord g =>
      match state.goroutines.lookup g with
      | some (.boot (.started worker)) =>
          state.locked ({ state with
            orchestrator := state.orchestrator.recordBoot (some worker) }.resume g (.boot (.pooled worker)))
      | some (.boot .failed) =>
          state.locked ({ state with
            orchestrator := state.orchestrator.recordBoot none }.resume g (.boot .backoff))
      | _ => none
  | .bootCheck g alive =>
      match state.goroutines.lookup g with
      | some (.boot (.pooled worker)) =>
          -- A failed inspection counts as dead, so a live container may be given up.
          if alive then
            if state.running worker.containerID then some (state.resume g (.boot .announcing)) else none
          else some (state.resume g (.boot (.dead worker)))
      | _ => none
  | .bootDeath g =>
      match state.goroutines.lookup g with
      | some (.boot (.dead worker)) =>
          let result := state.handleContainerDeath interfaces.reporter worker.containerID
          state.locked (result.1.resume g (.boot (if result.2 then .evaluating else .announcing)))
      | _ => none
  | .bootBroadcast g =>
      match state.goroutines.lookup g with
      | some (.boot .announcing) | some (.boot .backoff) =>
          state.locked ({ state with
            orchestrator := state.orchestrator.broadcast }.resume g (.boot .finished))
      | _ => none
  | .allocate g runner choice =>
      (claimOrWait state.orchestrator.request.broadcast choice).bind fun (o, phase) =>
        (state.spawn g ({ state with orchestrator := o }.resume g (.allocate runner phase))).bind
          state.locked
  | .wake g choice =>
      match state.goroutines.lookup g with
      | some (.allocate runner (.waiting channel)) =>
          if state.orchestrator.closed channel then
            (claimOrWait state.orchestrator choice).bind fun (o, phase) =>
              state.locked ({ state with orchestrator := o }.resume g (.allocate runner phase))
          else none
      | _ => none
  | .cancel g =>
      match state.goroutines.lookup g with
      | some (.allocate runner (.waiting _)) =>
          state.locked ({ state with
            orchestrator := state.orchestrator.withdraw }.resume g (.allocate runner .cancelled))
      | _ => none
  | .rename g short =>
      match state.goroutines.lookup g with
      | some (.allocate runner (.claimed candidate)) =>
          -- A failed rename is logged, and the allocation goes on.
          let renamed := match short with
            | some suffix =>
                state.containerRename candidate.containerID (namePrefixActive ++ runner ++ "-" ++ suffix)
            | none => state
          some (renamed.resume g (.allocate runner (.renamed candidate)))
      | _ => none
  | .check g alive =>
      match state.goroutines.lookup g with
      | some (.allocate runner (.renamed candidate)) =>
          if alive then
            if state.running candidate.containerID then
              some (state.resume g (.allocate runner (.alive candidate)))
            else none
          else some (state.resume g (.allocate runner (.dead candidate)))
      | _ => none
  | .discard g removed =>
      match state.goroutines.lookup g with
      | some (.allocate runner (.dead candidate)) =>
          some ((state.remove removed candidate.containerID).resume g (.allocate runner .discarded))
      | _ => none
  | .retry g choice =>
      match state.goroutines.lookup g with
      | some (.allocate runner .discarded) =>
          (claimOrWait state.orchestrator.request choice).bind fun (o, phase) =>
            state.locked ({ state with orchestrator := o }.resume g (.allocate runner phase))
      | _ => none
  | .register g =>
      match state.goroutines.lookup g with
      -- The container may have died since the check.
      | some (.allocate runner (.alive candidate)) =>
          state.locked ({ state with
            orchestrator := (state.orchestrator.register runner candidate).broadcast }.resume g
              (.allocate runner (.registered candidate)))
      | _ => none
  | .markBusy g =>
      match state.goroutines.lookup g with
      -- Outside the mutex: the reporter has a lock of its own.
      | some (.allocate runner (.registered candidate)) =>
          some ({ state with managers := state.report (interfaces.reporter.markBusy runner) }.resume g
            (.allocate runner (.marked candidate)))
      | _ => none
  | .dieEvent g id =>
      match state.docker.lookup id with
      | some container =>
          if container.running = false then
            -- An event may be handled at any time after the death, also more than once.
            let result := state.handleContainerDeath interfaces.reporter id
            (state.spawn g ({ result.1 with delivered := insert id state.delivered }.resume g
              (.death (if result.2 then .evaluating else .finished)))).bind state.locked
          else none
      | none => none
  | .abort g id =>
      (state.spawn g ((state.abortWorker interfaces.reporter id).resume g (.abort (.evaluating id)))).bind
        state.locked
  | .kill g removed =>
      match state.goroutines.lookup g with
      | some (.abort (.killing id)) => some ((state.remove removed id).resume g (.abort .finished))
      | _ => none
  | .evaluate g outcome =>
      match (state.goroutines.lookup g).bind afterEvaluation with
      | some goroutine =>
          state.locked ((state.evaluateCapacity interfaces.pauser outcome).resume g goroutine)
      | none => none
  | .updateSettings maxWorkers warmWorkers =>
      state.locked { state with
        orchestrator := state.orchestrator.updateSettings maxWorkers warmWorkers }
  | .setStatusReporter => some { state with orchestrator := { state.orchestrator with reporter := true } }
  | .die id => if state.running id then some (state.stop id) else none
  | .managers event => (interfaces.act state.managers event).map fun managers => { state with managers }

end System

end RunnersMux
