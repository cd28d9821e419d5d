import RunnersMux.Foundations.Once
import RunnersMux.Foundations.Transitions
import RunnersMux.Worker.Header

/-! A worker container: what starts its payload, and who is told its exit code.

TCP connections and requests to `/start` contend for one `sync.Once`. `main` and
any number of requests to `/wait` wait for `finish`. A container that is killed is
not modelled.
-/

set_option autoImplicit false

namespace RunnersMux

open Foundations

/-- Who calls `startOnce.Do`, with what it would start. -/
inductive Contender where
  /-- `runStandaloneWorker` on a connection. -/
  | connection (conn : Nat)
  /-- `runJITWorker`, for a request. -/
  | start (id : Nat) (jitConfig : String)
  deriving DecidableEq, Repr

inductive WaitStatus where
  | exited (code : Fin 256)
  | signaled
  deriving DecidableEq, Repr

def WaitStatus.exitCode : WaitStatus → Int
  | .exited code => code.val
  | .signaled => -1

/-- The errors of `cmd.Wait`. -/
inductive WaitError where
  | exitError (status : WaitStatus)
  | other (text : String)
  deriving DecidableEq, Repr

/-- `cmd.Wait`, for a process that it finds the status of, or not. -/
def waitError : Except String WaitStatus → Option WaitError
  | .error text => some (.other text)
  | .ok status => if status = .exited 0 then none else some (.exitError status)

/-- The exit code that both payloads make of the error. -/
def WaitError.exitCode : Option WaitError → Int
  | none => 0
  | some (.exitError status) => status.exitCode
  | some (.other _) => 1

/-- `os.Exit` keeps the low byte. -/
def exitStatus (code : Int) : Nat := (code % 256).toNat

/-- What a payload has come to. -/
inductive PayloadResult where
  | setUpFailed
  | waited (found : Except String WaitStatus)

/-- The exit code of a payload; 1 if there is none to be had. -/
def PayloadResult.code : PayloadResult → Int
  | .setUpFailed | .waited (.error _) => 1
  | .waited (.ok status) => status.exitCode

inductive PayloadPhase where
  | readingHeader
  | writingFiles
  | firstPipe
  | secondPipe
  | spawning
  | running
  /-- Inside `wg.Wait`. -/
  | joining (exitCode : Int)
  /-- About to call `finish`. -/
  | finishing (code : Int)
  | returned
  deriving DecidableEq, Repr

structure WorkerPayload where
  starter : Contender
  phase : PayloadPhase
  /-- The counter of the `WaitGroup` of its copies. -/
  copies : Nat
  /-- Not a variable of the code. -/
  result : Option PayloadResult

/-- What the calls in a payload return. -/
inductive PayloadEvent where
  | readFramedHeader (result : Except String WorkerHeader)
  | writeConfigFiles (result : Except String Unit)
  | pipe (err : Option String)
  | start (err : Option String)
  | wait (found : Except String WaitStatus)
  /-- A goroutine with an `io.Copy` is done. -/
  | copied
  | join

namespace WorkerPayload

def new (starter : Contender) : WorkerPayload where
  starter
  phase := match starter with
    | .connection _ => .readingHeader
    | .start _ _ => .spawning
  copies := 0
  result := none

/-- An error before the process runs. -/
def fail (payload : WorkerPayload) : WorkerPayload := { payload with phase := .finishing 1, result := some .setUpFailed }

def runStandaloneWorker (payload : WorkerPayload) : PayloadEvent → Option WorkerPayload
  | .readFramedHeader result =>
      if payload.phase = .readingHeader then
        match result with
        | .error _ => some payload.fail
        | .ok header =>
            some { payload with phase := if header.configFiles.getD ∅ = ∅ then .firstPipe else .writingFiles }
      else none
  | .writeConfigFiles result =>
      if payload.phase = .writingFiles then
        match result with
        | .error _ => some payload.fail
        | .ok () => some { payload with phase := .firstPipe }
      else none
  | .pipe err =>
      match payload.phase, err with
      | .firstPipe, some _ | .secondPipe, some _ => some payload.fail
      | .firstPipe, none => some { payload with phase := .secondPipe }
      | .secondPipe, none => some { payload with phase := .spawning, copies := 2 }
      | _, _ => none
  | .start err =>
      if payload.phase = .spawning then
        match err with
        | some _ => some payload.fail
        | none => some { payload with phase := .running }
      else none
  | .wait found =>
      if payload.phase = .running then
        some { payload with phase := .joining (WaitError.exitCode (waitError found)), result := some (.waited found) }
      else none
  | .copied => if 0 < payload.copies then some { payload with copies := payload.copies - 1 } else none
  | .join =>
      match payload.phase with
      | .joining exitCode => if payload.copies = 0 then some { payload with phase := .finishing exitCode } else none
      | _ => none

def runJITWorker (payload : WorkerPayload) : PayloadEvent → Option WorkerPayload
  | .start err =>
      if payload.phase = .spawning then
        match err with
        | some _ => some payload.fail
        | none => some { payload with phase := .running }
      else none
  | .wait found =>
      if payload.phase = .running then
        some { payload with phase := .finishing (WaitError.exitCode (waitError found)), result := some (.waited found) }
      else none
  | .readFramedHeader _ | .writeConfigFiles _ | .pipe _ | .copied | .join => none

def step (payload : WorkerPayload) (event : PayloadEvent) : Option WorkerPayload :=
  match payload.starter with
  | .connection _ => payload.runStandaloneWorker event
  | .start _ _ => payload.runJITWorker event

end WorkerPayload

/-- The goroutine that accepts connections. -/
inductive AcceptLoop where
  | accepting
  | handling (conn : Nat)
  | stopped
  deriving DecidableEq, Repr

/-- Where `handleStart` is. -/
inductive StartRequest where
  /-- With what the decoder makes of the body. -/
  | received (post : Bool) (body : Except String String)
  | contending (jitConfig : String)
  | answered (status : Nat)
  deriving DecidableEq

/-- Where `handleWait` is. -/
inductive WaitRequest where
  | waiting
  | read (exitCode : Int)
  | answered (exitCode : Int)
  | signalled (exitCode : Int)
  deriving DecidableEq, Repr

/-- Where `main` is. -/
inductive LauncherMain where
  | listenHTTP
  | listenTCP
  | waiting
  /-- In its `select`. -/
  | leaving (exitCode : Int)
  /-- After `log.Fatalf`, with status 1. -/
  | failed
  | exited (status : Nat)
  deriving DecidableEq, Repr

structure WorkerLauncher where
  exitCode : Int
  finished : Bool
  waitFetched : Bool
  startOnce : Once Contender
  /-- The calls of `startOnce.Do`. -/
  calls : Map Contender OnceCall
  main : LauncherMain
  /-- Connections that have not been accepted. -/
  backlog : List Nat
  acceptLoop : AcceptLoop
  /-- Connections that the loop has closed. -/
  closed : List Nat
  starts : Map Nat StartRequest
  waits : Map Nat WaitRequest
  /-- The payloads that have been started. -/
  payloads : List WorkerPayload
  /-- The arguments of the calls of `finish`. -/
  finishes : List Int

inductive LauncherEvent where
  | listen (err : Option String)
  | dial (conn : Nat)
  | accept (err : Option String)
  | startOnce (contender : Contender)
  /-- The accept loop goes on after its `Do`. -/
  | decide (conn : Nat)
  | postStart (id : Nat) (post : Bool) (body : Except String String)
  | decode (id : Nat)
  /-- `handleStart` ends after its `Do`. -/
  | answerStart (id : Nat)
  | getWait (id : Nat)
  | wakeWait (id : Nat)
  | answerWait (id : Nat)
  | signal (id : Nat)
  | payload (index : Nat) (event : PayloadEvent)
  | finish (index : Nat)
  | wakeMain
  /-- The `select` of `main`. -/
  | leave (timeout : Bool)

namespace WorkerLauncher

def new : WorkerLauncher where
  exitCode := 0
  finished := false
  waitFetched := false
  startOnce := .fresh
  calls := ∅
  main := .listenHTTP
  backlog := []
  acceptLoop := .accepting
  closed := []
  starts := ∅
  waits := ∅
  payloads := []
  finishes := []

variable (s : WorkerLauncher)

def finish (code : Int) : WorkerLauncher :=
  { s with exitCode := code, finished := true, finishes := s.finishes ++ [code] }

/-- `main`, up to the loop around its condition variable. -/
def listen (err : Option String) : Option WorkerLauncher :=
  match s.main, err with
  | .listenHTTP, some _ | .listenTCP, some _ => some { s with main := .failed }
  | .listenHTTP, none => some { s with main := .listenTCP }
  | .listenTCP, none => some { s with main := .waiting }
  | _, _ => none

def servesHTTP : Bool := s.main ≠ .listenHTTP

def servesTCP : Bool := s.main ≠ .listenHTTP && s.main ≠ .listenTCP

/-- The kernel queues a new connection. -/
def dial (conn : Nat) : Option WorkerLauncher :=
  if s.servesTCP = true ∧ conn ∉ s.backlog ∧ s.calls.lookup (.connection conn) = none then
    some { s with backlog := s.backlog ++ [conn] }
  else none

def accept (err : Option String) : Option WorkerLauncher :=
  if s.servesTCP = true ∧ s.acceptLoop = .accepting then
    match err with
    | some _ => some s
    | none =>
        match s.backlog with
        | [] => none
        | conn :: backlog =>
            some { s with backlog, acceptLoop := .handling conn, calls := s.calls.insert (.connection conn) .entering }
  else none

/-- A call of `startOnce.Do` goes on. Its function starts the payload. -/
def doOnce (contender : Contender) : Option WorkerLauncher :=
  match s.calls.lookup contender with
  | none => none
  | some call =>
      match s.startOnce.step contender call with
      | none => none
      | some (startOnce, call) =>
          some { s with
            startOnce
            calls := s.calls.insert contender call
            payloads := if call = .returned true then s.payloads ++ [.new contender] else s.payloads }

def decide (conn : Nat) : Option WorkerLauncher :=
  if s.acceptLoop = .handling conn then
    match s.calls.lookup (.connection conn) with
    | some (.returned false) => some { s with acceptLoop := .accepting, closed := s.closed ++ [conn] }
    -- Only accept one connection for standalone mode.
    | some (.returned true) => some { s with acceptLoop := .stopped }
    | _ => none
  else none

def postStart (id : Nat) (post : Bool) (body : Except String String) : Option WorkerLauncher :=
  if s.servesHTTP = true ∧ s.starts.lookup id = none then
    some { s with starts := s.starts.insert id (.received post body) }
  else none

/-- `handleStart`, before its `Do`. -/
def decode (id : Nat) : Option WorkerLauncher :=
  match s.starts.lookup id with
  | some (.received post body) =>
      if post = false then some { s with starts := s.starts.insert id (.answered 405) }
      else
        match body with
        | .error _ => some { s with starts := s.starts.insert id (.answered 400) }
        | .ok jitConfig =>
            some { s with
              starts := s.starts.insert id (.contending jitConfig)
              calls := s.calls.insert (.start id jitConfig) .entering }
  | _ => none

def answerStart (id : Nat) : Option WorkerLauncher :=
  match s.starts.lookup id with
  | some (.contending jitConfig) =>
      match s.calls.lookup (.start id jitConfig) with
      | some (.returned startedHere) =>
          some { s with starts := s.starts.insert id (.answered (if startedHere = true then 200 else 409)) }
      | _ => none
  | _ => none

def getWait (id : Nat) : Option WorkerLauncher :=
  if s.servesHTTP = true ∧ s.waits.lookup id = none then some { s with waits := s.waits.insert id .waiting } else none

/-- `handleWait` gets past its condition variable. -/
def wakeWait (id : Nat) : Option WorkerLauncher :=
  if s.waits.lookup id = some .waiting ∧ s.finished = true then
    some { s with waits := s.waits.insert id (.read s.exitCode) }
  else none

def answerWait (id : Nat) : Option WorkerLauncher :=
  match s.waits.lookup id with
  | some (.read exitCode) => some { s with waits := s.waits.insert id (.answered exitCode) }
  | _ => none

def signal (id : Nat) : Option WorkerLauncher :=
  match s.waits.lookup id with
  | some (.answered exitCode) => some { s with waits := s.waits.insert id (.signalled exitCode), waitFetched := true }
  | _ => none

def payloadStep (index : Nat) (event : PayloadEvent) : Option WorkerLauncher :=
  match s.payloads[index]? with
  | none => none
  | some payload =>
      match payload.step event with
      | none => none
      | some payload => some { s with payloads := s.payloads.set index payload }

def payloadFinish (index : Nat) : Option WorkerLauncher :=
  match s.payloads[index]? with
  | none => none
  | some payload =>
      match payload.phase with
      | .finishing code => some ({ s with payloads := s.payloads.set index { payload with phase := .returned } }.finish code)
      | _ => none

/-- `main` gets past its condition variable. -/
def wakeMain : Option WorkerLauncher :=
  if s.main = .waiting ∧ s.finished = true then some { s with main := .leaving s.exitCode } else none

def leave (timeout : Bool) : Option WorkerLauncher :=
  match s.main with
  | .leaving exitCode =>
      if timeout = true ∨ s.waitFetched = true then some { s with main := .exited (exitStatus exitCode) } else none
  | _ => none

/-- The process has ended. -/
def gone : Bool :=
  match s.main with
  | .failed | .exited _ => true
  | _ => false

def step (event : LauncherEvent) : Option WorkerLauncher :=
  if s.gone = true then none
  else
    match event with
    | .listen err => s.listen err
    | .dial conn => s.dial conn
    | .accept err => s.accept err
    | .startOnce contender => s.doOnce contender
    | .decide conn => s.decide conn
    | .postStart id post body => s.postStart id post body
    | .decode id => s.decode id
    | .answerStart id => s.answerStart id
    | .getWait id => s.getWait id
    | .wakeWait id => s.wakeWait id
    | .answerWait id => s.answerWait id
    | .signal id => s.signal id
    | .payload index event => s.payloadStep index event
    | .finish index => s.payloadFinish index
    | .wakeMain => s.wakeMain
    | .leave timeout => s.leave timeout

end WorkerLauncher

end RunnersMux
