import RunnersMux.Foundations.Pipes
import RunnersMux.Foundations.Transitions

/-! The bridge between a listener and its remote `Runner.Worker`.

The worker-shim copies between the listener's pipes and a TCP connection, the
worker-launcher between the connection and the pipes of the worker. The config
files have crossed the connection before the bridge begins; whatever goes wrong
in the launcher before the worker runs is one failure. A container that is killed
is not modelled.
-/

set_option autoImplicit false

namespace RunnersMux

open Foundations

abbrev Byte := UInt8

inductive RealWorker where
  | unstarted
  | running
  | exited (code : Int)
  deriving DecidableEq, Repr

/-- Where `runStandaloneWorker` is, and `main` after it. -/
inductive LauncherPhase where
  | starting
  /-- Inside `cmd.Wait`. -/
  | waiting
  | closing (code : Int)
  /-- Inside `wg.Wait`. -/
  | joining (code : Int)
  | finished (code : Int)
  | gone
  deriving DecidableEq, Repr

/-- Where `main` of the shim is. -/
inductive ShimPhase where
  /-- Inside `<-errChan`. -/
  | copying
  | fetching (attempt : Nat)
  | exiting (code : Int)
  | exited (code : Int)
  | failed
  deriving DecidableEq, Repr

def ShimPhase.alive : ShimPhase → Bool
  | .copying | .fetching _ | .exiting _ => true
  | .exited _ | .failed => false

structure Bridge where
  /-- What the listener writes, up to `Runner.Worker`. -/
  pipeHandleOut : Pipe Byte
  toLauncher : Pipe Byte
  workerRead : Pipe Byte
  /-- What `Runner.Worker` writes, up to the listener. -/
  workerWrite : Pipe Byte
  toShim : Pipe Byte
  pipeHandleIn : Pipe Byte
  stream1 : Copy Byte
  stream2 : Copy Byte
  /-- `io.Copy(shimWrite, conn)`, and whether its goroutine is done. -/
  feed : Copy Byte
  feedDone : Bool
  /-- `io.Copy(conn, shimRead)`, and whether its goroutine is done. -/
  drain : Copy Byte
  drainDone : Bool
  worker : RealWorker
  launcher : LauncherPhase
  shim : ShimPhase
  /-- Everything that `Runner.Worker` has written. -/
  written : List Byte
  /-- Everything that the listener has read. -/
  received : List Byte
  deriving DecidableEq, Repr

inductive BridgeEvent where
  | listenerWrites (bytes : List Byte)
  | listenerReads (count : Nat)
  | listenerClosesOut
  | listenerClosesIn
  | stream1 (count : Nat)
  | stream2 (count : Nat)
  | feed (count : Nat)
  | drain (count : Nat)
  | launch (ok : Bool)
  | workerWrites (bytes : List Byte)
  | workerReads (count : Nat)
  | workerExits (code : Int)
  | wait
  | closeWrite
  | join
  | leave
  | receive
  | fetch (ok : Bool)
  | exit
  deriving DecidableEq, Repr

namespace Bridge

/-- The shim is connected and the launcher has made its pipes. The connection
never fills. -/
def new (capacity : Option Nat) : Bridge where
  pipeHandleOut := .new capacity
  toLauncher := .new none
  workerRead := .new capacity
  workerWrite := .new capacity
  toShim := .new none
  pipeHandleIn := .new capacity
  stream1 := .reading
  stream2 := .reading
  feed := .reading
  feedDone := false
  drain := .reading
  drainDone := false
  worker := .unstarted
  launcher := .starting
  shim := .copying
  written := []
  received := []

/-- The bytes that have been written to the listener's pipe. -/
def delivered (s : Bridge) : List Byte := s.received ++ s.pipeHandleIn.queue

/-- The end of the shim process. -/
def leaveShim (s : Bridge) (phase : ShimPhase) : Bridge :=
  { s with
    shim := phase
    pipeHandleOut := { s.pipeHandleOut with readers := 0 }
    toLauncher := { s.toLauncher with writers := 0 }
    toShim := { s.toShim with readers := 0 }
    pipeHandleIn := { s.pipeHandleIn with writers := 0 } }

/-- `conn.Close()` in the launcher, or the end of its process. -/
def closeConn (s : Bridge) : Bridge :=
  { s with toLauncher := { s.toLauncher with readers := 0 }, toShim := { s.toShim with writers := 0 } }

def step (s : Bridge) : BridgeEvent → Option Bridge
  | .listenerWrites bytes => (s.pipeHandleOut.write bytes).map fun pipeHandleOut => { s with pipeHandleOut }
  | .listenerReads count =>
      if s.pipeHandleIn.readers ≠ 0 then
        some { s with
          pipeHandleIn := s.pipeHandleIn.drop count
          received := s.received ++ s.pipeHandleIn.queue.take count }
      else none
  | .listenerClosesOut => some { s with pipeHandleOut := { s.pipeHandleOut with writers := 0 } }
  | .listenerClosesIn => some { s with pipeHandleIn := { s.pipeHandleIn with readers := 0 } }
  | .stream1 count =>
      if s.shim.alive then
        (s.stream1.step s.pipeHandleOut s.toLauncher count).map fun (stream1, pipeHandleOut, toLauncher) =>
          { s with stream1, pipeHandleOut, toLauncher }
      else none
  | .stream2 count =>
      if s.shim.alive then
        (s.stream2.step s.toShim s.pipeHandleIn count).map fun (stream2, toShim, pipeHandleIn) =>
          { s with stream2, toShim, pipeHandleIn }
      else none
  | .feed count =>
      if s.launcher = .gone ∨ s.feedDone then none
      else
        match s.feed with
        | .ended _ => some { s with feedDone := true, workerRead := { s.workerRead with writers := 0 } }
        | copy => (copy.step s.toLauncher s.workerRead count).map fun (feed, toLauncher, workerRead) =>
            { s with feed, toLauncher, workerRead }
  | .drain count =>
      if s.launcher = .gone ∨ s.drainDone then none
      else
        match s.drain with
        | .ended _ => some { s.closeConn with drainDone := true }
        | copy => (copy.step s.workerWrite s.toShim count).map fun (drain, workerWrite, toShim) =>
            { s with drain, workerWrite, toShim }
  | .launch ok =>
      if s.launcher = .starting then
        if ok then
          -- The child has its own copies of the two ends, and the parent keeps both.
          some { s with
            launcher := .waiting
            worker := .running
            workerRead := { s.workerRead with readers := s.workerRead.readers + 1 }
            workerWrite := { s.workerWrite with writers := s.workerWrite.writers + 1 } }
        else some { s with launcher := .finished 1 }
      else none
  | .workerWrites bytes =>
      if s.worker = .running then
        (s.workerWrite.write bytes).map fun workerWrite => { s with workerWrite, written := s.written ++ bytes }
      else none
  | .workerReads count =>
      if s.worker = .running then some { s with workerRead := s.workerRead.drop count } else none
  | .workerExits code =>
      if s.worker = .running then
        some { s with
          worker := .exited code
          workerRead := { s.workerRead with readers := s.workerRead.readers - 1 }
          workerWrite := { s.workerWrite with writers := s.workerWrite.writers - 1 } }
      else none
  | .wait =>
      match s.launcher, s.worker with
      | .waiting, .exited code => some { s with launcher := .closing code }
      | _, _ => none
  | .closeWrite =>
      match s.launcher with
      | .closing code =>
          some { s with
            launcher := .joining code
            workerWrite := { s.workerWrite with writers := s.workerWrite.writers - 1 } }
      | _ => none
  | .join =>
      match s.launcher with
      | .joining code => if s.feedDone ∧ s.drainDone then some { s with launcher := .finished code } else none
      | _ => none
  | .leave =>
      match s.launcher with
      | .finished _ => some { s.closeConn with launcher := .gone }
      | _ => none
  | .receive =>
      -- Either copy will do: `main` takes the first error that comes.
      match s.shim, s.stream1, s.stream2 with
      | .copying, .ended _, _ | .copying, _, .ended _ => some { s with shim := .fetching 0 }
      | _, _, _ => none
  | .fetch ok =>
      match s.shim with
      | .fetching attempt =>
          if ok then
            -- The launcher answers once it has called `finish`.
            match s.launcher with
            | .finished code => some { s with shim := .exiting code }
            | _ => none
          else some (if attempt = 4 then s.leaveShim .failed else { s with shim := .fetching (attempt + 1) })
      | _ => none
  | .exit =>
      match s.shim with
      | .exiting code => some (s.leaveShim (.exited code))
      | _ => none

end Bridge

/-- The cases of a step of the bridge. -/
inductive BridgeMoves (s : Bridge) : BridgeEvent → Bridge → Prop where
  | listenerWrites {bytes : List Byte} {pipeHandleOut : Pipe Byte} :
      BridgeMoves s (.listenerWrites bytes) { s with pipeHandleOut }
  | listenerReads {count : Nat} : BridgeMoves s (.listenerReads count)
      { s with
        pipeHandleIn := s.pipeHandleIn.drop count
        received := s.received ++ s.pipeHandleIn.queue.take count }
  | listenerClosesOut : BridgeMoves s .listenerClosesOut
      { s with pipeHandleOut := { s.pipeHandleOut with writers := 0 } }
  | listenerClosesIn : BridgeMoves s .listenerClosesIn { s with pipeHandleIn := { s.pipeHandleIn with readers := 0 } }
  | stream1 {count : Nat} {stream1 : Copy Byte} {pipeHandleOut toLauncher : Pipe Byte} (alive : s.shim.alive = true)
      (copies : Copies s.pipeHandleOut s.toLauncher count s.stream1 stream1 pipeHandleOut toLauncher) :
      BridgeMoves s (.stream1 count) { s with stream1, pipeHandleOut, toLauncher }
  | stream2 {count : Nat} {stream2 : Copy Byte} {toShim pipeHandleIn : Pipe Byte} (alive : s.shim.alive = true)
      (copies : Copies s.toShim s.pipeHandleIn count s.stream2 stream2 toShim pipeHandleIn) :
      BridgeMoves s (.stream2 count) { s with stream2, toShim, pipeHandleIn }
  | feed {count : Nat} {feed : Copy Byte} {toLauncher workerRead : Pipe Byte} (here : s.launcher ≠ .gone)
      (busy : s.feedDone = false) (copies : Copies s.toLauncher s.workerRead count s.feed feed toLauncher workerRead) :
      BridgeMoves s (.feed count) { s with feed, toLauncher, workerRead }
  | fed {count : Nat} {failed : Bool} (here : s.launcher ≠ .gone) (ended : s.feed = .ended failed) :
      BridgeMoves s (.feed count) { s with feedDone := true, workerRead := { s.workerRead with writers := 0 } }
  | drain {count : Nat} {drain : Copy Byte} {workerWrite toShim : Pipe Byte} (here : s.launcher ≠ .gone)
      (busy : s.drainDone = false) (copies : Copies s.workerWrite s.toShim count s.drain drain workerWrite toShim) :
      BridgeMoves s (.drain count) { s with drain, workerWrite, toShim }
  | drained {count : Nat} {failed : Bool} (here : s.launcher ≠ .gone) (ended : s.drain = .ended failed) :
      BridgeMoves s (.drain count) { s.closeConn with drainDone := true }
  | launch (fresh : s.launcher = .starting) : BridgeMoves s (.launch true)
      { s with
        launcher := .waiting
        worker := .running
        workerRead := { s.workerRead with readers := s.workerRead.readers + 1 }
        workerWrite := { s.workerWrite with writers := s.workerWrite.writers + 1 } }
  | fail (fresh : s.launcher = .starting) : BridgeMoves s (.launch false) { s with launcher := .finished 1 }
  | workerWrites {bytes : List Byte} (running : s.worker = .running) : BridgeMoves s (.workerWrites bytes)
      { s with workerWrite := s.workerWrite.put bytes, written := s.written ++ bytes }
  | workerReads {count : Nat} (running : s.worker = .running) :
      BridgeMoves s (.workerReads count) { s with workerRead := s.workerRead.drop count }
  | workerExits {code : Int} (running : s.worker = .running) : BridgeMoves s (.workerExits code)
      { s with
        worker := .exited code
        workerRead := { s.workerRead with readers := s.workerRead.readers - 1 }
        workerWrite := { s.workerWrite with writers := s.workerWrite.writers - 1 } }
  | wait {code : Int} (waiting : s.launcher = .waiting) (exited : s.worker = .exited code) :
      BridgeMoves s .wait { s with launcher := .closing code }
  | closeWrite {code : Int} (closing : s.launcher = .closing code) : BridgeMoves s .closeWrite
      { s with
        launcher := .joining code
        workerWrite := { s.workerWrite with writers := s.workerWrite.writers - 1 } }
  | join {code : Int} (joining : s.launcher = .joining code) (fed : s.feedDone = true) (drained : s.drainDone = true) :
      BridgeMoves s .join { s with launcher := .finished code }
  | leave {code : Int} (finished : s.launcher = .finished code) :
      BridgeMoves s .leave { s.closeConn with launcher := .gone }
  | receive (copying : s.shim = .copying) : BridgeMoves s .receive { s with shim := .fetching 0 }
  | answer {attempt : Nat} {code : Int} (fetching : s.shim = .fetching attempt) (finished : s.launcher = .finished code) :
      BridgeMoves s (.fetch true) { s with shim := .exiting code }
  | retry {attempt : Nat} (fetching : s.shim = .fetching attempt) :
      BridgeMoves s (.fetch false) { s with shim := .fetching (attempt + 1) }
  | abandon {attempt : Nat} (fetching : s.shim = .fetching attempt) :
      BridgeMoves s (.fetch false) (s.leaveShim .failed)
  | exit {code : Int} (exiting : s.shim = .exiting code) : BridgeMoves s .exit (s.leaveShim (.exited code))

theorem Bridge.step_moves {s after : Bridge} {event : BridgeEvent} (taken : s.step event = some after) :
    BridgeMoves s event after := by
  cases event with
  | listenerWrites bytes =>
      obtain ⟨pipeHandleOut, _, rfl⟩ := Option.map_eq_some_iff.mp taken
      exact .listenerWrites
  | listenerReads count =>
      simp only [Bridge.step] at taken
      split at taken <;> cases taken
      exact .listenerReads
  | listenerClosesOut =>
      cases taken
      exact .listenerClosesOut
  | listenerClosesIn =>
      cases taken
      exact .listenerClosesIn
  | stream1 count =>
      simp only [Bridge.step] at taken
      split at taken
      · next alive =>
          obtain ⟨⟨stream1, pipeHandleOut, toLauncher⟩, stepped, rfl⟩ := Option.map_eq_some_iff.mp taken
          exact .stream1 alive (Copy.step_copies stepped)
      · cases taken
  | stream2 count =>
      simp only [Bridge.step] at taken
      split at taken
      · next alive =>
          obtain ⟨⟨stream2, toShim, pipeHandleIn⟩, stepped, rfl⟩ := Option.map_eq_some_iff.mp taken
          exact .stream2 alive (Copy.step_copies stepped)
      · cases taken
  | feed count =>
      simp only [Bridge.step] at taken
      split at taken
      · cases taken
      · next busy =>
          rw [not_or, Bool.not_eq_true] at busy
          split at taken
          · next ended =>
              cases taken
              exact .fed busy.1 ended
          · obtain ⟨⟨feed, toLauncher, workerRead⟩, stepped, rfl⟩ := Option.map_eq_some_iff.mp taken
            exact .feed busy.1 busy.2 (Copy.step_copies stepped)
  | drain count =>
      simp only [Bridge.step] at taken
      split at taken
      · cases taken
      · next busy =>
          rw [not_or, Bool.not_eq_true] at busy
          split at taken
          · next ended =>
              cases taken
              exact .drained busy.1 ended
          · obtain ⟨⟨drain, workerWrite, toShim⟩, stepped, rfl⟩ := Option.map_eq_some_iff.mp taken
            exact .drain busy.1 busy.2 (Copy.step_copies stepped)
  | launch ok =>
      simp only [Bridge.step] at taken
      split at taken
      · next fresh =>
          cases ok with
          | true =>
              cases taken
              exact .launch fresh
          | false =>
              cases taken
              exact .fail fresh
      · cases taken
  | workerWrites bytes =>
      simp only [Bridge.step] at taken
      split at taken
      · next running =>
          obtain ⟨workerWrite, wrote, rfl⟩ := Option.map_eq_some_iff.mp taken
          unfold Pipe.write at wrote
          split at wrote <;> cases wrote
          exact .workerWrites running
      · cases taken
  | workerReads count =>
      simp only [Bridge.step] at taken
      split at taken <;> cases taken
      next running => exact .workerReads running
  | workerExits code =>
      simp only [Bridge.step] at taken
      split at taken <;> cases taken
      next running => exact .workerExits running
  | wait =>
      simp only [Bridge.step] at taken
      split at taken <;> cases taken
      next waiting exited => exact .wait waiting exited
  | closeWrite =>
      simp only [Bridge.step] at taken
      split at taken <;> cases taken
      next closing => exact .closeWrite closing
  | join =>
      simp only [Bridge.step] at taken
      split at taken
      · next joining =>
          split at taken <;> cases taken
          next both => exact .join joining both.1 both.2
      · cases taken
  | leave =>
      simp only [Bridge.step] at taken
      split at taken <;> cases taken
      next finished => exact .leave finished
  | receive =>
      simp only [Bridge.step] at taken
      split at taken <;> cases taken
      · exact .receive ‹s.shim = .copying›
      · exact .receive ‹s.shim = .copying›
  | fetch ok =>
      simp only [Bridge.step] at taken
      split at taken
      · next attempt fetching =>
          cases ok with
          | true =>
              simp only [if_true] at taken
              split at taken <;> cases taken
              next finished => exact .answer fetching finished
          | false =>
              simp only [Bool.false_eq_true, if_false] at taken
              split at taken <;> cases taken
              · exact .abandon fetching
              · exact .retry fetching
      · cases taken
  | exit =>
      simp only [Bridge.step] at taken
      split at taken <;> cases taken
      next exiting => exact .exit exiting

end RunnersMux
