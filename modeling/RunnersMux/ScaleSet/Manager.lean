import RunnersMux.Mux.Tenancy
import RunnersMux.Standalone.Threads

/-! The scale set manager: its table, the contexts of its listeners, and its goroutines.

A `Start` launches a goroutine that runs the listener, and waits for it in a
thread of its own. What a listener returns, and when, is open, except that
`context.Canceled` needs a cancelled context. The context that `Start` is given
is never done.
-/

set_option autoImplicit false

namespace RunnersMux

open Foundations

/-- The fields of `ScaleSetManager`. A cancel function is the number of its context. -/
structure ScaleSetManager where
  processes : Processes
  cancels : Map RunnerName Nat
  cancelled : Finset Nat
  /-- The next address or context that has not been used. -/
  next : Nat

/-- A `Start` past its first section. -/
inductive LaunchPhase where
  | storing (entry : Nat)
  | spawning (entry context : Nat)
  | waiting (entry : Nat)
  | failing (entry : Nat) (text : String)
  | returned (error : Option String)
  deriving DecidableEq, Repr

/-- The goroutine of `Launch`: inside `runListener` up to `exited`, then its cleanup. -/
inductive ListenerPhase where
  | starting (context : Nat)
  | listening (context : Nat)
  | exited (error : Option String) (canceled : Bool)
  | ending (failure : Option String)
  | reporting (text : String)
  | dropping
  | done
  deriving DecidableEq, Repr

/-- A `Stop` past its first section. -/
inductive HaltPhase where
  | halting
  | cancelling (context : Nat)
  | returned
  deriving DecidableEq, Repr

inductive ScaleSetThread where
  | launch (runner : RunnerName) (phase : LaunchPhase)
  | listener (runner : RunnerName) (phase : ListenerPhase)
  | halt (runner : RunnerName) (phase : HaltPhase)
  deriving DecidableEq, Repr

structure ScaleSet where
  manager : ScaleSetManager
  threads : Map ThreadID ScaleSetThread

/-- What the world answers: whether `runListener` returns or the timeout of
`Launch` has passed, and the error that a listener returns. -/
structure Reply where
  flag : Bool
  error : Option String
  canceled : Bool
  deriving DecidableEq

inductive ScaleSetEvent where
  | start (t : ThreadID) (runner : RunnerName)
  | spawn (t g : ThreadID)
  | stop (t : ThreadID) (runner : RunnerName)
  | run (t : ThreadID) (reply : Reply)
  | markBusy (runner : RunnerName)
  | markIdle (runner : RunnerName)
  deriving DecidableEq

def ScaleSetEvent.starts : ScaleSetEvent → Option RunnerName
  | .start _ runner => some runner
  | _ => none

namespace ScaleSetManager

def new : ScaleSetManager where
  processes := ∅
  cancels := ∅
  cancelled := ∅
  next := 0

/-- `Launch`, and the end of `Start`. Its loop goes on until the ticker finds the
runner Online or Failed. -/
def launch (m : ScaleSetManager) (runner : RunnerName) (reply : Reply) :
    LaunchPhase → Option (ScaleSetManager × LaunchPhase)
  | .storing entry =>
      some ({ m with cancels := m.cancels.insert runner m.next, next := m.next + 1 }, .spawning entry m.next)
  | .waiting entry =>
      if reply.flag then some (m, .returned none)
      else
        match m.processes.lookup runner with
        | some process =>
            if process.state = .online then some (m, .returned none)
            else if process.state = .failed then
              some (m, .failing entry ("scaleset listener failed: " ++ process.error))
            else none
        | none => none
  | .failing entry text =>
      some ({ m with processes := m.processes.fail runner entry text }, .returned (some text))
  | .spawning _ _ | .returned _ => none

/-- What `runListener` returns. -/
def leave (m : ScaleSetManager) (context : Nat) (reply : Reply) : Option (ScaleSetManager × ListenerPhase) :=
  if reply.canceled = true → context ∈ m.cancelled then some (m, .exited reply.error reply.canceled) else none

/-- The goroutine of a listener. -/
def listen (m : ScaleSetManager) (runner : RunnerName) (reply : Reply) :
    ListenerPhase → Option (ScaleSetManager × ListenerPhase)
  | .starting context =>
      if reply.flag then m.leave context reply
      else some ({ m with processes := m.processes.transitioned runner .online }, .listening context)
  | .listening context => if reply.flag then m.leave context reply else none
  | .exited error canceled =>
      some (m, .ending (if m.processes.isDraining runner ∨ canceled = true then none else error))
  | .ending failure =>
      some ({ m with processes := m.processes.transitioned runner (if failure.isSome then .failed else .offline) },
        .reporting (failure.getD ""))
  | .reporting text => some ({ m with processes := m.processes.setError runner text }, .dropping)
  | .dropping => some ({ m with cancels := m.cancels.erase runner }, .done)
  | .done => none

/-- `Halt` looks the cancel function up under the lock and calls it after. -/
def halt (m : ScaleSetManager) (runner : RunnerName) : HaltPhase → Option (ScaleSetManager × HaltPhase)
  | .halting =>
      match m.cancels.lookup runner with
      | some context => some (m, .cancelling context)
      | none => some (m, .returned)
  | .cancelling context => some ({ m with cancelled := insert context m.cancelled }, .returned)
  | .returned => none

end ScaleSetManager

namespace ScaleSet

def new : ScaleSet where
  manager := .new
  threads := ∅

def resume (s : ScaleSet) (t : ThreadID) (thread : ScaleSetThread) (manager : ScaleSetManager) : ScaleSet where
  manager := manager
  threads := s.threads.insert t thread

/-- One step of one thread. -/
def run (s : ScaleSet) (t : ThreadID) (reply : Reply) : Option ScaleSet :=
  match s.threads.lookup t with
  | some (.launch runner phase) =>
      (s.manager.launch runner reply phase).map fun (manager, next) => s.resume t (.launch runner next) manager
  | some (.listener runner phase) =>
      (s.manager.listen runner reply phase).map fun (manager, next) => s.resume t (.listener runner next) manager
  | some (.halt runner phase) =>
      (s.manager.halt runner phase).map fun (manager, next) => s.resume t (.halt runner next) manager
  | none => none

def step (s : ScaleSet) : ScaleSetEvent → Option ScaleSet
  | .start t runner =>
      if s.threads.lookup t = none then
        match s.manager.processes.start runner s.manager.next with
        | .ok processes => some (s.resume t (.launch runner (.storing s.manager.next))
            { s.manager with processes, next := s.manager.next + 1 })
        | .error _ => none
      else none
  | .spawn t g =>
      match s.threads.lookup t with
      | some (.launch runner (.spawning entry context)) =>
          if s.threads.lookup g = none then
            some ((s.resume t (.launch runner (.waiting entry)) s.manager).resume g
              (.listener runner (.starting context)) s.manager)
          else none
      | _ => none
  | .stop t runner =>
      if s.threads.lookup t = none then
        match s.manager.processes.stop runner with
        | .ok (some processes) => some (s.resume t (.halt runner .halting) { s.manager with processes })
        | _ => none
      else none
  | .run t reply => s.run t reply
  | .markBusy runner => some { s with manager := { s.manager with processes := s.manager.processes.markBusy runner } }
  | .markIdle runner =>
      some { s with manager := { s.manager with processes := s.manager.processes.markIdle runner .online } }

end ScaleSet

/-- The cases of a step of `Launch`. -/
inductive Launches (m : ScaleSetManager) (runner : RunnerName) : LaunchPhase → ScaleSetManager → LaunchPhase → Prop where
  | store {entry : Nat} : Launches m runner (.storing entry)
      { m with cancels := m.cancels.insert runner m.next, next := m.next + 1 } (.spawning entry m.next)
  | leave {entry : Nat} : Launches m runner (.waiting entry) m (.returned none)
  | failed {entry : Nat} {process : ProcessState} {text : String} (known : m.processes.lookup runner = some process)
      (down : process.state = .failed) : Launches m runner (.waiting entry) m (.failing entry text)
  | fail {entry : Nat} {text : String} : Launches m runner (.failing entry text)
      { m with processes := m.processes.fail runner entry text } (.returned (some text))

/-- The cases of a step of a listener's goroutine. -/
inductive Listens (m : ScaleSetManager) (runner : RunnerName) : ListenerPhase → ScaleSetManager → ListenerPhase → Prop where
  | online {context : Nat} : Listens m runner (.starting context)
      { m with processes := m.processes.transitioned runner .online } (.listening context)
  | abandon {context : Nat} {error : Option String} {canceled : Bool} :
      Listens m runner (.starting context) m (.exited error canceled)
  | leave {context : Nat} {error : Option String} {canceled : Bool} :
      Listens m runner (.listening context) m (.exited error canceled)
  | decide {error failure : Option String} {canceled : Bool} :
      Listens m runner (.exited error canceled) m (.ending failure)
  | finish {failure : Option String} {goal : RunnerState} {text : String} (down : goal.down = true) :
      Listens m runner (.ending failure) { m with processes := m.processes.transitioned runner goal } (.reporting text)
  | report {text : String} : Listens m runner (.reporting text)
      { m with processes := m.processes.setError runner text } .dropping
  | drop : Listens m runner .dropping { m with cancels := m.cancels.erase runner } .done

section
variable {m after : ScaleSetManager} {runner : RunnerName} {reply : Reply}

theorem launch_launches {phase next : LaunchPhase} (launched : m.launch runner reply phase = some (after, next)) :
    Launches m runner phase after next := by
  cases phase with
  | storing entry =>
      cases launched
      exact .store
  | waiting entry =>
      simp only [ScaleSetManager.launch] at launched
      split at launched
      · cases launched
        exact .leave
      · split at launched
        · next process known =>
            split at launched
            · cases launched
              exact .leave
            · split at launched <;> cases launched
              next down => exact .failed known down
        · cases launched
  | failing entry text =>
      cases launched
      exact .fail
  | spawning entry context | returned error => cases launched

theorem listen_listens {phase next : ListenerPhase} (listened : m.listen runner reply phase = some (after, next)) :
    Listens m runner phase after next := by
  have leaves (context : Nat) (left : m.leave context reply = some (after, next)) :
      after = m ∧ next = .exited reply.error reply.canceled := by
    unfold ScaleSetManager.leave at left
    split at left <;> cases left
    exact ⟨rfl, rfl⟩
  cases phase with
  | starting context =>
      simp only [ScaleSetManager.listen] at listened
      split at listened
      · obtain ⟨rfl, rfl⟩ := leaves context listened
        exact .abandon
      · cases listened
        exact .online
  | listening context =>
      simp only [ScaleSetManager.listen] at listened
      split at listened
      · obtain ⟨rfl, rfl⟩ := leaves context listened
        exact .leave
      · cases listened
  | exited error canceled =>
      cases listened
      exact .decide
  | ending failure =>
      cases listened
      apply Listens.finish
      split <;> rfl
  | reporting text =>
      cases listened
      exact .report
  | dropping =>
      cases listened
      exact .drop
  | done => cases listened

/-- A `Halt` writes neither the table nor the counter. -/
theorem halt_frame {phase next : HaltPhase} (halted : m.halt runner phase = some (after, next)) :
    after.processes = m.processes ∧ after.next = m.next := by
  cases phase with
  | halting =>
      simp only [ScaleSetManager.halt] at halted
      split at halted <;> cases halted <;> exact ⟨rfl, rfl⟩
  | cancelling context =>
      cases halted
      exact ⟨rfl, rfl⟩
  | returned => cases halted

end

/-- The cases of a step of the scale set manager. -/
inductive ScaleSetMoves (s : ScaleSet) : ScaleSetEvent → ScaleSet → Prop where
  | start {t : ThreadID} {runner : RunnerName} {processes : Processes} (fresh : s.threads.lookup t = none)
      (started : s.manager.processes.start runner s.manager.next = .ok processes) :
      ScaleSetMoves s (.start t runner) (s.resume t (.launch runner (.storing s.manager.next))
        { s.manager with processes, next := s.manager.next + 1 })
  | spawn {t g : ThreadID} {runner : RunnerName} {entry context : Nat}
      (found : s.threads.lookup t = some (.launch runner (.spawning entry context)))
      (fresh : s.threads.lookup g = none) :
      ScaleSetMoves s (.spawn t g) ((s.resume t (.launch runner (.waiting entry)) s.manager).resume g
        (.listener runner (.starting context)) s.manager)
  | stop {t : ThreadID} {runner : RunnerName} {processes : Processes} (fresh : s.threads.lookup t = none)
      (stopped : s.manager.processes.stop runner = .ok (some processes)) :
      ScaleSetMoves s (.stop t runner) (s.resume t (.halt runner .halting) { s.manager with processes })
  | launch {t : ThreadID} {reply : Reply} {runner : RunnerName} {phase next : LaunchPhase} {manager : ScaleSetManager}
      (found : s.threads.lookup t = some (.launch runner phase))
      (launches : Launches s.manager runner phase manager next) :
      ScaleSetMoves s (.run t reply) (s.resume t (.launch runner next) manager)
  | listen {t : ThreadID} {reply : Reply} {runner : RunnerName} {phase next : ListenerPhase}
      {manager : ScaleSetManager} (found : s.threads.lookup t = some (.listener runner phase))
      (listens : Listens s.manager runner phase manager next) :
      ScaleSetMoves s (.run t reply) (s.resume t (.listener runner next) manager)
  | halt {t : ThreadID} {reply : Reply} {runner : RunnerName} {phase next : HaltPhase} {manager : ScaleSetManager}
      (found : s.threads.lookup t = some (.halt runner phase))
      (table : manager.processes = s.manager.processes) (counter : manager.next = s.manager.next) :
      ScaleSetMoves s (.run t reply) (s.resume t (.halt runner next) manager)
  | markBusy {runner : RunnerName} : ScaleSetMoves s (.markBusy runner)
      { s with manager := { s.manager with processes := s.manager.processes.markBusy runner } }
  | markIdle {runner : RunnerName} : ScaleSetMoves s (.markIdle runner)
      { s with manager := { s.manager with processes := s.manager.processes.markIdle runner .online } }

theorem ScaleSet.step_moves {s after : ScaleSet} {event : ScaleSetEvent} (taken : s.step event = some after) :
    ScaleSetMoves s event after := by
  cases event with
  | start t runner =>
      simp only [ScaleSet.step] at taken
      split at taken
      · next fresh =>
          split at taken <;> cases taken
          next processes started => exact .start fresh started
      · cases taken
  | spawn t g =>
      simp only [ScaleSet.step] at taken
      split at taken
      · next runner entry context found =>
          split at taken <;> cases taken
          next fresh => exact .spawn found fresh
      · cases taken
  | stop t runner =>
      simp only [ScaleSet.step] at taken
      split at taken
      · next fresh =>
          split at taken <;> cases taken
          next processes stopped => exact .stop fresh stopped
      · cases taken
  | run t reply =>
      simp only [ScaleSet.step, ScaleSet.run] at taken
      split at taken
      · next runner phase found =>
          obtain ⟨⟨manager, next⟩, launched, same⟩ := Option.map_eq_some_iff.mp taken
          cases same
          exact .launch found (launch_launches launched)
      · next runner phase found =>
          obtain ⟨⟨manager, next⟩, listened, same⟩ := Option.map_eq_some_iff.mp taken
          cases same
          exact .listen found (listen_listens listened)
      · next runner phase found =>
          obtain ⟨⟨manager, next⟩, halted, same⟩ := Option.map_eq_some_iff.mp taken
          cases same
          exact .halt found (halt_frame halted).1 (halt_frame halted).2
      · cases taken
  | markBusy runner =>
      cases taken
      exact .markBusy
  | markIdle runner =>
      cases taken
      exact .markIdle

end RunnersMux
