import RunnersMux.Foundations.Transitions
import RunnersMux.Orchestrator.Effects

/-! The scaler of one scale set and the orchestrator that it allocates from.

`HandleDesiredRunnerCount` decides under the scaler's mutex how many workers are
missing, and starts a goroutine for each. The goroutine asks for a worker, pushes
its payload to it, and leaves `pendingCount` when it returns. While it is inside
`AllocateWorker`, it is the goroutine of the same number in the orchestrator.
-/

set_option autoImplicit false

namespace RunnersMux

open Foundations

abbrev CallID := Nat

/-- A call of `HandleDesiredRunnerCount`. It holds the mutex in its first two phases. -/
inductive DesirePhase where
  | locked (count pending : Int)
  | counted (count pending active : Int)
  | spawning (target : Int) (left : Nat)
  | returned (target : Int)
  deriving DecidableEq, Repr

/-- A goroutine of `startWorker`. -/
inductive WorkerPhase where
  | generating
  | requesting
  | allocating
  | pushing (worker : WarmWorker)
  | rejected (id : ContainerID)
  | aborting (g : GoroutineID)
  | ending
  | finished
  deriving DecidableEq, Repr

/-- The fields of `Scaler` that its functions read. -/
structure Scaler where
  runnerName : RunnerName
  maxRunners : Int
  /-- Whether a call holds the mutex. -/
  mutex : Bool
  pendingCount : Int
  deriving DecidableEq, Repr

namespace Scaler

def targetRunnerCount (scaler : Scaler) (count : Int) : Int := min count scaler.maxRunners

/-- What `HandleDesiredRunnerCount` finds missing. -/
def scaleUp (scaler : Scaler) (count pending active : Int) : Int :=
  if active + pending < scaler.targetRunnerCount count then scaler.targetRunnerCount count - (active + pending) else 0

theorem scaleUp_nonneg (scaler : Scaler) (count pending active : Int) : 0 ≤ scaler.scaleUp count pending active := by
  unfold scaleUp
  split <;> omega

end Scaler

structure Scaling (Managers : Type) where
  system : System Managers
  scaler : Scaler
  calls : Map CallID DesirePhase
  workers : Map GoroutineID WorkerPhase

/-- The steps of the scaler, next to those of the orchestrator. -/
inductive ScalingEvent (Event Outcome : Type) where
  | orchestrator (action : Action Event Outcome)
  | desire (c : CallID) (count : Int)
  | measure (c : CallID)
  | scaleUp (c : CallID)
  | spawn (c : CallID) (w : GoroutineID)
  | respond (c : CallID)
  | generate (w : GoroutineID) (success : Bool)
  | allocate (w : GoroutineID) (choice : Option ContainerID)
  | allocated (w : GoroutineID)
  | push (w : GoroutineID) (accepted : Bool)
  | abort (w g : GoroutineID)
  | aborted (w : GoroutineID)
  | finish (w : GoroutineID)
  deriving DecidableEq, Repr

namespace Scaling

variable {Managers Event Outcome : Type}

/-- A new `Scaler` next to an orchestrator that may have been at work before. -/
def new (system : System Managers) (runnerName : RunnerName) (maxRunners : Int) : Scaling Managers where
  system := system
  scaler := ⟨runnerName, maxRunners, false, 0⟩
  calls := ∅
  workers := ∅

def proceed (s : Scaling Managers) (c : CallID) (phase : DesirePhase) : Scaling Managers :=
  { s with calls := s.calls.insert c phase }

def work (s : Scaling Managers) (w : GoroutineID) (phase : WorkerPhase) : Scaling Managers :=
  { s with workers := s.workers.insert w phase }

def step (interfaces : Interfaces Managers Event Outcome) (s : Scaling Managers) :
    ScalingEvent Event Outcome → Option (Scaling Managers)
  | .orchestrator action => (System.step interfaces s.system action).map fun system => { s with system }
  | .desire c count =>
      if s.calls.lookup c = none ∧ s.scaler.mutex = false then
        some ({ s with scaler := { s.scaler with mutex := true } }.proceed c (.locked count s.scaler.pendingCount))
      else none
  | .measure c =>
      match s.calls.lookup c with
      | some (.locked count pending) =>
          -- `GetActiveCount` takes the orchestrator's own mutex.
          if s.system.pool = .holding then none
          else some (s.proceed c (.counted count pending
            (s.system.orchestrator.getActiveCount s.scaler.runnerName)))
      | _ => none
  | .scaleUp c =>
      match s.calls.lookup c with
      | some (.counted count pending active) =>
          let scaleUp := s.scaler.scaleUp count pending active
          some ({ s with scaler := { s.scaler with
            mutex := false
            pendingCount := s.scaler.pendingCount + scaleUp } }.proceed c
              (.spawning (s.scaler.targetRunnerCount count) scaleUp.toNat))
      | _ => none
  | .spawn c w =>
      match s.calls.lookup c with
      | some (.spawning target (left + 1)) =>
          if s.workers.lookup w = none then some ((s.proceed c (.spawning target left)).work w .generating)
          else none
      | _ => none
  | .respond c =>
      match s.calls.lookup c with
      | some (.spawning target 0) => some (s.proceed c (.returned target))
      | _ => none
  | .generate w success =>
      match s.workers.lookup w with
      | some .generating => some (s.work w (if success then .requesting else .ending))
      | _ => none
  | .allocate w choice =>
      match s.workers.lookup w with
      | some .requesting =>
          (System.step interfaces s.system (.allocate w s.scaler.runnerName choice)).map fun system =>
            { s with system }.work w .allocating
      | _ => none
  | .allocated w =>
      match s.workers.lookup w, s.system.goroutines.lookup w with
      | some .allocating, some (.allocate _ (.returned candidate)) => some (s.work w (.pushing candidate))
      -- The context of a worker ends after 15 minutes.
      | some .allocating, some (.allocate _ .cancelled) => some (s.work w .ending)
      | _, _ => none
  | .push w accepted =>
      match s.workers.lookup w with
      | some (.pushing worker) => some (s.work w (if accepted then .ending else .rejected worker.containerID))
      | _ => none
  | .abort w g =>
      match s.workers.lookup w with
      | some (.rejected id) =>
          (System.step interfaces s.system (.abort g id)).map fun system => { s with system }.work w (.aborting g)
      | _ => none
  | .aborted w =>
      match s.workers.lookup w with
      | some (.aborting g) =>
          if s.system.goroutines.lookup g = some (.abort .finished) then some (s.work w .ending) else none
      | _ => none
  | .finish w =>
      match s.workers.lookup w with
      | some .ending =>
          -- The deferred decrement.
          if s.scaler.mutex then none
          else some ({ s with scaler := { s.scaler with
            pendingCount := s.scaler.pendingCount - 1 } }.work w .finished)
      | _ => none

/-- The enabled outcomes of an event. -/
inductive Scales (interfaces : Interfaces Managers Event Outcome) (s : Scaling Managers) :
    ScalingEvent Event Outcome → Scaling Managers → Prop where
  | orchestrator {action : Action Event Outcome} {system : System Managers}
      (acted : System.step interfaces s.system action = some system) :
      Scales interfaces s (.orchestrator action) { s with system }
  | desire {c : CallID} {count : Int} (fresh : s.calls.lookup c = none) (free : s.scaler.mutex = false) :
      Scales interfaces s (.desire c count)
        ({ s with scaler := { s.scaler with mutex := true } }.proceed c (.locked count s.scaler.pendingCount))
  | measure {c : CallID} {count pending : Int} (found : s.calls.lookup c = some (.locked count pending)) :
      Scales interfaces s (.measure c) (s.proceed c (.counted count pending
        (s.system.orchestrator.getActiveCount s.scaler.runnerName)))
  | scaleUp {c : CallID} {count pending active : Int}
      (found : s.calls.lookup c = some (.counted count pending active)) :
      Scales interfaces s (.scaleUp c)
        ({ s with scaler := { s.scaler with
          mutex := false
          pendingCount := s.scaler.pendingCount + s.scaler.scaleUp count pending active } }.proceed c
            (.spawning (s.scaler.targetRunnerCount count) (s.scaler.scaleUp count pending active).toNat))
  | spawn {c : CallID} {w : GoroutineID} {target : Int} {left : Nat}
      (found : s.calls.lookup c = some (.spawning target (left + 1))) (fresh : s.workers.lookup w = none) :
      Scales interfaces s (.spawn c w) ((s.proceed c (.spawning target left)).work w .generating)
  | respond {c : CallID} {target : Int} (found : s.calls.lookup c = some (.spawning target 0)) :
      Scales interfaces s (.respond c) (s.proceed c (.returned target))
  | generate {w : GoroutineID} (found : s.workers.lookup w = some .generating) :
      Scales interfaces s (.generate w true) (s.work w .requesting)
  | generateFail {w : GoroutineID} (found : s.workers.lookup w = some .generating) :
      Scales interfaces s (.generate w false) (s.work w .ending)
  | allocate {w : GoroutineID} {choice : Option ContainerID} {system : System Managers}
      (found : s.workers.lookup w = some .requesting)
      (acted : System.step interfaces s.system (.allocate w s.scaler.runnerName choice) = some system) :
      Scales interfaces s (.allocate w choice) ({ s with system }.work w .allocating)
  | allocated {w : GoroutineID} {runner : RunnerName} {candidate : WarmWorker}
      (found : s.workers.lookup w = some .allocating)
      (returned : s.system.goroutines.lookup w = some (.allocate runner (.returned candidate))) :
      Scales interfaces s (.allocated w) (s.work w (.pushing candidate))
  | timedOut {w : GoroutineID} {runner : RunnerName} (found : s.workers.lookup w = some .allocating)
      (cancelled : s.system.goroutines.lookup w = some (.allocate runner .cancelled)) :
      Scales interfaces s (.allocated w) (s.work w .ending)
  | push {w : GoroutineID} {worker : WarmWorker} (found : s.workers.lookup w = some (.pushing worker)) :
      Scales interfaces s (.push w true) (s.work w .ending)
  | pushFail {w : GoroutineID} {worker : WarmWorker} (found : s.workers.lookup w = some (.pushing worker)) :
      Scales interfaces s (.push w false) (s.work w (.rejected worker.containerID))
  | abort {w g : GoroutineID} {id : ContainerID} {system : System Managers}
      (found : s.workers.lookup w = some (.rejected id))
      (acted : System.step interfaces s.system (.abort g id) = some system) :
      Scales interfaces s (.abort w g) ({ s with system }.work w (.aborting g))
  | aborted {w g : GoroutineID} (found : s.workers.lookup w = some (.aborting g)) :
      Scales interfaces s (.aborted w) (s.work w .ending)
  | finish {w : GoroutineID} (found : s.workers.lookup w = some .ending) (free : s.scaler.mutex = false) :
      Scales interfaces s (.finish w)
        ({ s with scaler := { s.scaler with pendingCount := s.scaler.pendingCount - 1 } }.work w .finished)

theorem step_scales (interfaces : Interfaces Managers Event Outcome) {s after : Scaling Managers}
    {event : ScalingEvent Event Outcome} (taken : step interfaces s event = some after) :
    Scales interfaces s event after := by
  cases event with
  | orchestrator action =>
      obtain ⟨system, acted, rfl⟩ := Option.map_eq_some_iff.mp taken
      exact .orchestrator acted
  | desire c count =>
      simp only [step] at taken
      split at taken
      · next open_ =>
          cases taken
          exact .desire open_.1 open_.2
      · cases taken
  | measure c =>
      simp only [step] at taken
      split at taken
      · next count pending found =>
          split at taken
          · cases taken
          · cases taken
            exact .measure found
      · cases taken
  | scaleUp c =>
      simp only [step] at taken
      split at taken
      · next count pending active found =>
          cases taken
          exact .scaleUp found
      · cases taken
  | spawn c w =>
      simp only [step] at taken
      split at taken
      · next target left found =>
          split at taken
          · next fresh =>
              cases taken
              exact .spawn found fresh
          · cases taken
      · cases taken
  | respond c =>
      simp only [step] at taken
      split at taken
      · next target found =>
          cases taken
          exact .respond found
      · cases taken
  | generate w success =>
      simp only [step] at taken
      split at taken
      · next found =>
          cases taken
          cases success with
          | true => exact .generate found
          | false => exact .generateFail found
      · cases taken
  | allocate w choice =>
      simp only [step] at taken
      split at taken
      · next found =>
          obtain ⟨system, acted, rfl⟩ := Option.map_eq_some_iff.mp taken
          exact .allocate found acted
      · cases taken
  | allocated w =>
      simp only [step] at taken
      split at taken
      · next runner candidate found returned =>
          cases taken
          exact .allocated found returned
      · next runner found cancelled =>
          cases taken
          exact .timedOut found cancelled
      · cases taken
  | push w accepted =>
      simp only [step] at taken
      split at taken
      · next worker found =>
          cases taken
          cases accepted with
          | true => exact .push found
          | false => exact .pushFail found
      · cases taken
  | abort w g =>
      simp only [step] at taken
      split at taken
      · next id found =>
          obtain ⟨system, acted, rfl⟩ := Option.map_eq_some_iff.mp taken
          exact .abort found acted
      · cases taken
  | aborted w =>
      simp only [step] at taken
      split at taken
      · next g found =>
          split at taken
          · cases taken
            exact .aborted found
          · cases taken
      · cases taken
  | finish w =>
      simp only [step] at taken
      split at taken
      · next found =>
          split at taken
          · cases taken
          · next free =>
              cases taken
              exact .finish found (Bool.eq_false_iff.mpr free)
      · cases taken

end Scaling

end RunnersMux
