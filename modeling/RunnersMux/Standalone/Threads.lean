import RunnersMux.Standalone.Manager

/-! The goroutines of the standalone manager.

A `Start` and the wait goroutine it ends in are one thread: a list of sections
that it still has to run, each one atomic. The sections are the critical
sections of the source, and its calls out of the manager. A section may put
others in its place; what follows it in the list waits.
-/

set_option autoImplicit false

namespace RunnersMux

open Foundations

abbrev ThreadID := Nat

def maxListenerRetries : Nat := 3

/-- Who has called `launchListener`: `Launch` for an entry, or the wait
goroutine after an exit, which holds a pointer to the `ListenerData` it read. -/
inductive Caller where
  | launch (entry : Nat)
  | retry (attempt : Nat) (data : Option Nat)
  deriving DecidableEq, Repr

inductive Section where
  | initializeEnvironment (entry : Nat)
  | store (entry : Nat)
  | spawn (caller : Caller)
  | record (caller : Caller) (pid : Pid)
  | abort (caller : Caller) (pid : Pid)
  | transition (goal : RunnerState)
  | setError (text : String)
  | fail (entry : Nat) (text : String)
  /-- `currentCmd.Wait()`. -/
  | serve (pid : Pid) (attempt : Nat)
  | exited (status : ExitStatus) (attempt : Nat) (fast : Bool)
  | decide (draining : Bool) (status : ExitStatus) (attempt : Nat) (fast : Bool)
  | forget (data : Option Nat)
  | arm (data : Option Nat) (channel : Nat)
  | backoff (channel : Nat) (attempt : Nat) (data : Option Nat)
  | disarm (data : Option Nat)
  deriving DecidableEq, Repr

/-- A call of `Stop` past its first section, inside `Halt`. -/
inductive StopPhase where
  | halting (force : Bool)
  | killing (pgid : Pid)
  | resuming (pid pgid : Pid)
  | interrupting (pid pgid : Pid)
  | polling (pgid : Pid)
  | checking (pgid : Pid)
  | expiring (pgid : Pid)
  | returned (error : Option String)
  deriving DecidableEq, Repr

inductive Thread where
  | lifecycle (runner : RunnerName) (todo : List Section)
  | stop (runner : RunnerName) (phase : StopPhase)
  deriving DecidableEq, Repr

structure Standalone where
  manager : StandaloneManager
  threads : Map ThreadID Thread

/-- What the world answers to a section: an error text, a process ID, whether a
listener lived shorter than `fastFailThreshold`, whether a timer fired, and the
groups without a live listener for which `kill` returns nil. -/
structure Answer where
  error : Option String
  pid : Pid
  flag : Bool
  outcome : Finset Pid
  deriving DecidableEq

/-- The steps that nobody outside the manager asks for, and its own callers'. -/
inductive Event where
  | start (t : ThreadID) (runner : RunnerName)
  | stop (t : ThreadID) (runner : RunnerName) (force : Bool)
  | run (t : ThreadID) (answer : Answer)
  | exit (pid : Pid) (status : ExitStatus)
  deriving DecidableEq

/-- The error that a retry or a start reports for a failed launch. -/
def Caller.failure (caller : Caller) (text : String) : List Section :=
  match caller with
  | .launch entry => [.transition .failed, .setError text, .fail entry text]
  | .retry attempt data =>
      [.transition .failed,
        .setError ("retry " ++ toString (attempt + 1) ++ " failed to launch: " ++ text), .disarm data]

/-- The attempt that the wait goroutine counts for the launched process. -/
def Caller.attempt : Caller → Nat
  | .launch _ => 0
  | .retry attempt _ => attempt + 1

def ExitStatus.text : ExitStatus → String
  | .clean => ""
  | .error text => text

namespace StandaloneManager

/-- Write the new process into the `ListenerData`, if there is one. -/
def enter (m : StandaloneManager) (runner : RunnerName) (pid : Pid) : StandaloneManager :=
  { m with listenerData := m.listenerData.modify runner fun data =>
      { data with cmd := some pid, pgid := pid, retryCancel := none } }

/-- The locked section of `launchListener`, up to the transition it decides on. -/
def record (m : StandaloneManager) (runner : RunnerName) (caller : Caller) (pid : Pid)
    (outcome : Finset Pid) : StandaloneManager × List Section :=
  match (m.listenerData.lookup runner).bind (·.retryCancel) with
  | some channel =>
      -- A closed channel is a `Halt` that came while the process was forked.
      if channel ∈ m.closed then (m, [.abort caller pid]) else finish
  | none => finish
where
  finish :=
    let rest := [.setError "", .serve pid caller.attempt]
    if m.globalPaused then
      ((m.enter runner pid).signal {pid} .stop,
        .transition (if m.answers outcome pid then .paused else .online) :: rest)
    else (m.enter runner pid, .transition .online :: rest)

/-- The branches of the wait goroutine after an exit. -/
def afterExit (m : StandaloneManager) (runner : RunnerName) (draining : Bool) (status : ExitStatus)
    (attempt : Nat) (fast : Bool) : StandaloneManager × List Section :=
  let data := (m.listenerData.lookup runner).map (·.address)
  if draining ∨ status = .clean then
    (m, [.transition .offline, .forget data, .setError status.text])
  else if attempt < maxListenerRetries ∧ fast then
    ({ m with next := m.next + 1 },
      [.transition .registering, .setError "", .arm data m.next, .backoff m.next attempt data])
  else (m, [.transition .offline, .setError status.text, .forget data])

/-- One section of a lifecycle thread and the sections it leaves in its place. -/
def perform (m : StandaloneManager) (runner : RunnerName) (answer : Answer) :
    Section → Option (StandaloneManager × List Section)
  | .initializeEnvironment entry =>
      match answer.error with
      | some text => some (m, [.fail entry text])
      | none => some (m, [.store entry])
  | .store entry =>
      some ({ m with
        listenerData := m.listenerData.insert runner ⟨m.next, none, 0, none⟩
        next := m.next + 1 }, [.spawn (.launch entry)])
  | .spawn caller =>
      match answer.error with
      | some text => some (m, caller.failure text)
      | none =>
          -- A number is free once its last process has been waited for.
          if answer.pid ≠ 0 ∧ (m.groups.lookup answer.pid).all (·.reaped) then
            some ({ m with groups := m.groups.insert answer.pid (.launched runner) },
              [.record caller answer.pid])
          else none
  | .record caller pid => some (m.record runner caller pid answer.outcome)
  | .abort caller pid =>
      some ({ m with groups := m.groups.modify pid fun group =>
        { group.deliver .kill with reaped := true } }, caller.failure "launch cancelled by Halt")
  | .transition goal => some (m.transition runner goal, [])
  | .setError text => some (m.setError runner text, [])
  | .fail entry text => some ({ m with processes := m.processes.fail runner entry text }, [])
  | .serve pid attempt =>
      ((m.groups.lookup pid).bind (·.exit)).map fun status =>
        ({ m with groups := m.groups.modify pid fun group => { group with reaped := true } },
          [.exited status attempt answer.flag])
  | .exited status attempt fast =>
      -- Draining is read in a section of its own, before the branch is taken.
      some (m, [.decide (m.processes.isDraining runner) status attempt fast])
  | .decide draining status attempt fast => some (m.afterExit runner draining status attempt fast)
  | .forget data =>
      some (m.update runner data fun current => { current with cmd := none, retryCancel := none }, [])
  | .arm data channel =>
      some (m.update runner data fun current => { current with cmd := none, retryCancel := some channel }, [])
  | .backoff channel attempt data =>
      -- The `select` may take the timer although the channel is closed.
      if answer.flag then some (m, [.spawn (.retry attempt data)])
      else if channel ∈ m.closed then some (m, [.transition .offline, .disarm data])
      else none
  | .disarm data => some (m.update runner data fun current => { current with retryCancel := none }, [])

/-- The locked section of `Halt`. -/
def halt (m : StandaloneManager) (runner : RunnerName) (force : Bool) : StandaloneManager × StopPhase :=
  match m.listenerData.lookup runner with
  | none => (m, .returned (some "runner not found"))
  | some data =>
      match data.cmd, data.retryCancel with
      | some pid, _ => (m, if force then .killing data.pgid else .resuming pid data.pgid)
      | none, some channel =>
          -- No process: the wait goroutine will see the closed channel, or the next launch.
          ({ m with
            listenerData := m.listenerData.insert runner { data with retryCancel := none }
            closed := insert channel m.closed }, .returned none)
      | none, none => (m, .returned none)

/-- One step of `Halt`. `SIGINT` goes to the listener alone, and the polling
loop ends when the runner is `Offline` or its deadline has passed. -/
def advance (m : StandaloneManager) (runner : RunnerName) (answer : Answer) :
    StopPhase → Option (StandaloneManager × StopPhase)
  | .halting force => some (m.halt runner force)
  | .killing pgid =>
      some (m.signal {pgid} .kill,
        .returned (if m.answers answer.outcome pgid then none else some "no such process"))
  | .resuming pid pgid => some (m.signal {pgid} .cont, .interrupting pid pgid)
  | .interrupting pid pgid =>
      -- A `SIGINT` that fails returns its error without any wait.
      some (m.signal {pid} .int,
        if m.answers answer.outcome pid then .polling pgid else .returned (some "no such process"))
  | .polling pgid =>
      if m.processes.getState runner = some .offline ∨ answer.flag then some (m, .checking pgid) else none
  | .checking pgid =>
      some (m, if m.processes.getState runner = some .offline then .returned none else .expiring pgid)
  | .expiring pgid => some (m.signal {pgid} .kill, .returned none)
  | .returned _ => none

end StandaloneManager

namespace Standalone

def new : Standalone where
  manager := .new
  threads := ∅

def resume (s : Standalone) (t : ThreadID) (thread : Thread) (manager : StandaloneManager) : Standalone where
  manager := manager
  threads := s.threads.insert t thread

/-- One step of the manager's own; `none` when the event is not enabled. A
rejected `Start` or `Stop` returns at once and is no step. -/
def act (s : Standalone) : Event → Option Standalone
  | .start t runner =>
      if s.threads.lookup t = none then
        match s.manager.processes.start runner s.manager.next with
        | .ok processes =>
            some (s.resume t (.lifecycle runner [.initializeEnvironment s.manager.next])
              { s.manager with processes, next := s.manager.next + 1 })
        | .error _ => none
      else none
  | .stop t runner force =>
      if s.threads.lookup t = none then
        match s.manager.processes.stop runner with
        | .ok (some processes) =>
            some (s.resume t (.stop runner (.halting force)) { s.manager with processes })
        | _ => none
      else none
  | .run t answer =>
      match s.threads.lookup t with
      | some (.lifecycle runner (head :: rest)) =>
          (s.manager.perform runner answer head).map fun (manager, todo) =>
            s.resume t (.lifecycle runner (todo ++ rest)) manager
      | some (.stop runner phase) =>
          (s.manager.advance runner answer phase).map fun (manager, next) =>
            s.resume t (.stop runner next) manager
      | _ => none
  | .exit pid status =>
      if s.manager.live pid then
        some { s with manager := { s.manager with
          groups := s.manager.groups.modify pid fun group => { group with exit := some status } } }
      else none

end Standalone

/-- The calls of the orchestrator, next to the manager's own steps. -/
inductive Call where
  | own (event : Event)
  | lockOthers (outcome : Finset Pid) (activeRunners : Finset RunnerName)
  | unlockOthers (outcome : Finset Pid)
  | markBusy (runner : RunnerName)
  | markIdle (runner : RunnerName)
  deriving DecidableEq

namespace Standalone

def step (s : Standalone) : Call → Option Standalone
  | .own event => s.act event
  | .lockOthers outcome activeRunners => some { s with manager := s.manager.lockOthers outcome activeRunners }
  | .unlockOthers outcome => some { s with manager := s.manager.unlockOthers outcome }
  | .markBusy runner => some { s with manager := s.manager.markBusy runner }
  | .markIdle runner => some { s with manager := s.manager.markIdle runner }

end Standalone

end RunnersMux
