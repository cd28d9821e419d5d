import RunnersMux.Mux.Lifecycle

/-! The standalone manager: its record, the listener processes, and signals.

A listener is launched as the leader of its own process group, so one number
names both. The kernel hands a number out again once its process has been
reaped. A signal reaches a listener that has not exited. What `kill` answers for
a group without such a listener is open, and each call brings its own answer.
-/

set_option autoImplicit false

namespace RunnersMux

open Foundations

abbrev Pid := Nat

inductive Signal where
  | stop
  | cont
  | int
  | kill
  deriving DecidableEq, Repr

inductive ExitStatus where
  | clean
  | error (text : String)
  deriving DecidableEq, Repr

/-- A listener process and its group. -/
structure ProcessGroup where
  runner : RunnerName
  exit : Option ExitStatus
  stopped : Bool
  /-- A termination signal has been sent. -/
  terminated : Bool
  reaped : Bool
  deriving DecidableEq, Repr

namespace ProcessGroup

def live (group : ProcessGroup) : Bool := group.exit.isNone

def launched (runner : RunnerName) : ProcessGroup where
  runner := runner
  exit := none
  stopped := false
  terminated := false
  reaped := false

/-- A signal changes nothing about a process that has exited. -/
def deliver (signal : Signal) (group : ProcessGroup) : ProcessGroup :=
  if group.live then
    match signal with
    | .stop => { group with stopped := true }
    | .cont => { group with stopped := false }
    | .int => { group with terminated := true }
    | .kill => { group with terminated := true, exit := some (.error "signal: killed") }
  else group

end ProcessGroup

/-- The fields of `ListenerData`. The zero of `PGID` means none, and a channel
is a number. -/
structure ListenerData where
  address : Nat
  cmd : Option Pid
  pgid : Pid
  retryCancel : Option Nat
  deriving DecidableEq, Repr

structure StandaloneManager where
  processes : Processes
  listenerData : Map RunnerName ListenerData
  globalPaused : Bool
  groups : Map Pid ProcessGroup
  /-- The closed `retryCancel` channels. -/
  closed : Finset Nat
  /-- The next address or channel that has not been used. -/
  next : Nat

namespace StandaloneManager

def new : StandaloneManager where
  processes := ∅
  listenerData := ∅
  globalPaused := false
  groups := ∅
  closed := ∅
  next := 0

def live (m : StandaloneManager) (pid : Pid) : Bool := (m.groups.lookup pid).any ProcessGroup.live

def stopped (m : StandaloneManager) (pid : Pid) : Bool :=
  (m.groups.lookup pid).any fun group => group.live && group.stopped

/-- Whether `kill` on the group returns nil. -/
def answers (m : StandaloneManager) (outcome : Finset Pid) (pgid : Pid) : Bool :=
  m.live pgid || pgid ∈ outcome

def signal (m : StandaloneManager) (pgids : Finset Pid) (signal : Signal) : StandaloneManager :=
  { m with groups := m.groups.mapValues fun pgid group =>
      if pgid ∈ pgids then group.deliver signal else group }

/-- The group that `LockOthers` or `UnlockOthers` signals for a runner in a given state. -/
def target (m : StandaloneManager) (state : RunnerState) (name : RunnerName) : Option Pid :=
  match m.processes.lookup name, m.listenerData.lookup name with
  | some process, some data => if process.state = state ∧ data.pgid ≠ 0 then some data.pgid else none
  | _, _ => none

def targets (m : StandaloneManager) (state : RunnerState) (spared : Finset RunnerName) : Finset Pid :=
  (m.processes.keys \ spared).biUnion fun name => (m.target state name).toFinset

/-- The loop of both functions: signal the group of every runner in the one
state, and move the runners whose signal arrived to the other. -/
def sweep (m : StandaloneManager) (outcome : Finset Pid) (source goal : RunnerState) (sent : Signal)
    (spared : Finset RunnerName) : StandaloneManager :=
  { m.signal (m.targets source spared) sent with
    processes := m.processes.mapValues fun name process =>
      if name ∉ spared ∧ (m.target source name).any (m.answers outcome) then
        { process with state := goal }
      else process }

def lockOthers (m : StandaloneManager) (outcome : Finset Pid) (activeRunners : Finset RunnerName) :
    StandaloneManager :=
  { m.sweep outcome .online .paused .stop activeRunners with globalPaused := true }

def unlockOthers (m : StandaloneManager) (outcome : Finset Pid) : StandaloneManager :=
  { m.sweep outcome .paused .online .cont ∅ with globalPaused := false }

def markBusy (m : StandaloneManager) (name : RunnerName) : StandaloneManager :=
  { m with processes := m.processes.markBusy name }

/-- The state of an idle runner is read from the pause. -/
def markIdle (m : StandaloneManager) (name : RunnerName) : StandaloneManager :=
  { m with processes := m.processes.markIdle name (if m.globalPaused then .paused else .online) }

def transition (m : StandaloneManager) (name : RunnerName) (goal : RunnerState) : StandaloneManager :=
  { m with processes := m.processes.transitioned name goal }

def setError (m : StandaloneManager) (name : RunnerName) (text : String) : StandaloneManager :=
  { m with processes := m.processes.setError name text }

/-- A write through a pointer to a `ListenerData`, which the map may have dropped. -/
def update (m : StandaloneManager) (name : RunnerName) (data : Option Nat)
    (change : ListenerData → ListenerData) : StandaloneManager :=
  { m with listenerData := m.listenerData.modify name fun current =>
      if some current.address = data then change current else current }

end StandaloneManager

end RunnersMux
