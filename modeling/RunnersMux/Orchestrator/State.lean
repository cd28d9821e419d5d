import RunnersMux.Mux.Lifecycle

/-! The orchestrator's record and the bodies of its critical sections.

Every function here runs with the mutex held; which goroutine calls it, and
between which other calls, is the business of the step relation. Channels are
numbered: `broadcastCh` is the open one and every smaller number is closed.
-/

set_option autoImplicit false

namespace RunnersMux

open Foundations

abbrev ContainerID := String

structure WarmWorker where
  containerID : ContainerID
  ipAddress : String
  deriving DecidableEq, Repr

structure ActiveWorker where
  containerID : ContainerID
  ipAddress : String
  runnerName : RunnerName
  deriving DecidableEq, Repr

structure Orchestrator where
  broadcastCh : Nat
  warmPool : Map ContainerID WarmWorker
  activeWorkers : Map ContainerID ActiveWorker
  activeListeners : Map RunnerName Int
  maxWorkers : Int
  warmWorkersConfig : Int
  bootingCount : Int
  pendingAllocations : Int
  isPaused : Bool
  /-- Whether `SetStatusReporter` has installed the multiplexer yet. -/
  reporter : Bool

/-- `GlobalPauser`. The outcome stands for what `kill` answers on process
groups whose leader has already exited. -/
structure GlobalPauser (Managers Outcome : Type) where
  lockOthers : Outcome → Finset RunnerName → Managers → Managers
  unlockOthers : Outcome → Managers → Managers

structure StatusReporter (Managers : Type) where
  markBusy : RunnerName → Managers → Managers
  markIdle : RunnerName → Managers → Managers

namespace Orchestrator

def broadcast (o : Orchestrator) : Orchestrator :=
  { o with broadcastCh := o.broadcastCh + 1 }

def closed (o : Orchestrator) (channel : Nat) : Bool := channel < o.broadcastCh

/-- An absent key of a Go map of integers reads as zero. -/
def getActiveCount (o : Orchestrator) (runner : RunnerName) : Int :=
  (o.activeListeners.lookup runner).getD 0

/-- The total that `maintainPool` tests against `maxWorkers`. -/
def total (o : Orchestrator) : Int := o.warmPool.size + o.activeWorkers.size + o.bootingCount

def target (o : Orchestrator) : Int := o.warmWorkersConfig + o.pendingAllocations

/-- The first wait of `maintainPool`: enough containers are warm or booting. -/
def stocked (o : Orchestrator) : Prop := o.target ≤ o.warmPool.size + o.bootingCount

/-- The second wait of `maintainPool`: no slot is left. -/
def full (o : Orchestrator) : Prop := o.maxWorkers ≤ o.total

instance (o : Orchestrator) : Decidable o.stocked := inferInstanceAs (Decidable (_ ≤ _))
instance (o : Orchestrator) : Decidable o.full := inferInstanceAs (Decidable (_ ≤ _))

/-- `maintainPool` admits one more boot. -/
def admitBoot (o : Orchestrator) : Orchestrator := { o with bootingCount := o.bootingCount + 1 }

/-- The boot goroutine records the result of `startContainer`. -/
def recordBoot (o : Orchestrator) : Option WarmWorker → Orchestrator
  | some worker => { o with
      bootingCount := o.bootingCount - 1
      warmPool := o.warmPool.insert worker.containerID worker }
  | none => { o with bootingCount := o.bootingCount - 1 }

/-- `AllocateWorker` announces a request. -/
def request (o : Orchestrator) : Orchestrator :=
  { o with pendingAllocations := o.pendingAllocations + 1 }

def withdraw (o : Orchestrator) : Orchestrator :=
  { o with pendingAllocations := o.pendingAllocations - 1 }

/-- Take the candidate that the iteration over `warmPool` met first. -/
def claim (o : Orchestrator) (id : ContainerID) : Orchestrator :=
  { o.withdraw with warmPool := o.warmPool.erase id }

def register (o : Orchestrator) (runner : RunnerName) (candidate : WarmWorker) : Orchestrator :=
  { o with
    activeWorkers := o.activeWorkers.insert candidate.containerID
      ⟨candidate.containerID, candidate.ipAddress, runner⟩
    activeListeners := o.activeListeners.insert runner (o.getActiveCount runner + 1) }

/-- The removal shared by `handleContainerDeath` and `AbortWorker`. -/
def removeActive (o : Orchestrator) (id : ContainerID) (runner : RunnerName) : Orchestrator :=
  { o with
    activeWorkers := o.activeWorkers.erase id
    activeListeners := o.activeListeners.insert runner (o.getActiveCount runner - 1) }

def removeWarm (o : Orchestrator) (id : ContainerID) : Orchestrator :=
  { o with warmPool := o.warmPool.erase id }

def updateSettings (o : Orchestrator) (maxWorkers warmWorkers : Int) : Orchestrator :=
  { o with maxWorkers := maxWorkers, warmWorkersConfig := warmWorkers }.broadcast

def totalAssigned (o : Orchestrator) : Int := o.activeListeners.weigh fun _ count => count

/-- The runners that a freeze spares. -/
def activeRunners (o : Orchestrator) : Finset RunnerName :=
  o.activeListeners.keys.filter fun runner => 0 < o.getActiveCount runner

/-- `evaluateCapacity`, with the pauser called inside the section. -/
def evaluateCapacity {Managers Outcome : Type} (pauser : GlobalPauser Managers Outcome)
    (outcome : Outcome) (o : Orchestrator) (managers : Managers) : Orchestrator × Managers :=
  if o.maxWorkers ≤ o.totalAssigned ∧ o.isPaused = false then
    ({ o with isPaused := true }, pauser.lockOthers outcome o.activeRunners managers)
  else if o.totalAssigned < o.maxWorkers ∧ o.isPaused = true then
    ({ o with isPaused := false }, pauser.unlockOthers outcome managers)
  else (o, managers)

/-! What each section does to the total that the admission test reads. -/

section
variable (o : Orchestrator)

@[simp] theorem total_broadcast : o.broadcast.total = o.total := rfl
@[simp] theorem total_request : o.request.total = o.total := rfl
@[simp] theorem total_withdraw : o.withdraw.total = o.total := rfl

@[simp] theorem total_admitBoot : o.admitBoot.total = o.total + 1 := by
  simp only [total, admitBoot]
  omega

@[simp] theorem total_recordBoot_none : (o.recordBoot none).total = o.total - 1 := by
  simp only [total, recordBoot]
  omega

theorem total_recordBoot_le (worker : WarmWorker) : (o.recordBoot (some worker)).total ≤ o.total := by
  have entry := Map.found_one_bounds (o.warmPool.lookup worker.containerID)
  simp only [total, recordBoot, Map.size_insert]
  omega

theorem total_claim {id : ContainerID} {candidate : WarmWorker}
    (found : o.warmPool.lookup id = some candidate) : (o.claim id).total = o.total - 1 := by
  simp only [total, claim, withdraw, Map.size_erase, found, Map.found_some]
  omega

theorem total_register_le (runner : RunnerName) (candidate : WarmWorker) :
    (o.register runner candidate).total ≤ o.total + 1 := by
  have entry := Map.found_one_bounds (o.activeWorkers.lookup candidate.containerID)
  simp only [total, register, Map.size_insert]
  omega

theorem total_removeActive {id : ContainerID} {worker : ActiveWorker}
    (found : o.activeWorkers.lookup id = some worker) (runner : RunnerName) :
    (o.removeActive id runner).total = o.total - 1 := by
  simp only [total, removeActive, Map.size_erase, found, Map.found_some]
  omega

theorem total_removeWarm {id : ContainerID} {worker : WarmWorker}
    (found : o.warmPool.lookup id = some worker) : (o.removeWarm id).total = o.total - 1 := by
  simp only [total, removeWarm, Map.size_erase, found, Map.found_some]
  omega

end

end Orchestrator

end RunnersMux
