import RunnersMux.Mux.Statuses
import RunnersMux.ScaleSet.Listening
import RunnersMux.Standalone.Environment

/-! The responses of the handlers of runners, with the rows that they make.

A row has its personal access token in it from the statement that reads it to the
response that it is embedded in. What the service meets around it is given for
each request: the live states, GitHub, the file system, and which statements fail.
-/

set_option autoImplicit false

namespace RunnersMux

open Foundations

namespace Sqlc

structure CreateRunnerParams where
  name : RunnerName
  mode : String
  url : String
  dir : String
  pat : String
  maxRunners : Int
  labels : String
  runnerGroup : String
  deriving DecidableEq, Repr

structure UpdateRunnerParams where
  pat : Option String
  maxRunners : Option Int
  labels : Option String
  runnerGroup : Option String
  id : Nat
  deriving DecidableEq, Repr

structure Runners where
  rows : List Runner
  nextID : Nat
  deriving DecidableEq, Repr

inductive Statement where
  | listRunners
  /-- In the handler, and again in the service. -/
  | getExisting
  | getRunnerByName
  | createRunner
  | updateRunner
  | deleteRunnerByName
  deriving DecidableEq, Repr

end Sqlc

/-- What `launchListener` meets: the errors of its two pipes and of the process that it starts in a
directory, and whether a `Halt` has closed the channel of a record in between. -/
structure Forking where
  stdoutPipe : Option String
  stderrPipe : Option String
  start : String → Option String
  halted : RunnerName → Bool

/-- The error of `launchListener`. -/
def launchListener (cfg : Sqlc.Runner) (met : Forking) : Option String :=
  match met.stdoutPipe, met.stderrPipe, met.start cfg.dir with
  | some err, _, _ | none, some err, _ | none, none, some err => some err
  | none, none, none => if met.halted cfg.name then some "launch cancelled by Halt" else none

/-- The error of `startRunner`; what its goroutine does comes after the response. -/
def startRunner (cfg : Sqlc.Runner) (met : Forking) : Option String := launchListener cfg met

/-- What a request meets. -/
structure Surroundings where
  standalone : Processes
  scaleset : Processes
  first : Range standalone
  second : Range scaleset
  /-- The error of a statement, where the database fails. -/
  failure : Sqlc.Statement → Option String
  /-- The driver's texts for a name that is taken and for an unknown mode. -/
  uniqueViolation : String
  checkViolation : String
  now : String
  /-- `AuthMiddleware` lets the request through. -/
  loggedIn : Bool
  /-- There are credentials in a directory. -/
  registered : String → Bool
  canManage : String → Bool
  generateRegToken : String → Except String String
  codec : MetaCodec
  image : Image
  /-- The files that `InitializeEnvironment` finds, and the answers to its calls. -/
  files : Contents
  answers : Nat → Ran
  forking : Forking
  newClient : NewClient
  /-- The setting `max_workers`, where it is read. -/
  maxWorkers : Option String
  glimpse : Glimpse

namespace Api

structure CombinedRunner where
  runner : Sqlc.Runner
  state : RunnerState
  activeWorkers : Nat
  error : String
  hasPat : Bool
  canManage : Bool
  isRegistered : Bool
  deriving DecidableEq, Repr

inductive Body where
  | error (text : String)
  /-- An error with the name of its runner. -/
  | runnerError (text : String) (runnerName : RunnerName)
  | runners (all : List CombinedRunner)
  | combined (runner : CombinedRunner)
  | runner (runner : Sqlc.Runner)
  | status (text : String)
  deriving DecidableEq, Repr

structure Response where
  status : Nat
  body : Body
  deriving DecidableEq, Repr

structure CreatePayload where
  name : RunnerName
  mode : String
  url : String
  pat : String
  maxRunners : Int
  labels : List String
  runnerGroup : String
  deriving DecidableEq, Repr

structure UpdatePayload where
  pat : String
  maxRunners : Int
  labels : List String
  runnerGroup : String
  deriving DecidableEq, Repr

/-- A request; its payload is `none` if it cannot be decoded. -/
inductive Request where
  | listRunners
  | getRunner (name : RunnerName)
  | createRunner (payload : Option CreatePayload)
  | updateRunner (name : RunnerName) (payload : Option UpdatePayload)
  | deleteRunner (name : RunnerName)
  deriving DecidableEq, Repr

end Api

def RunnerState.text : RunnerState → String
  | .registering => "Registering"
  | .online => "Online"
  | .busy => "Busy"
  | .paused => "Paused"
  | .draining => "Draining"
  | .offline => "Offline"
  | .failed => "Failed"

namespace Sqlc.Runners

variable (env : Surroundings) (table : Runners)

def listRunners : Except String (List Runner) :=
  match env.failure .listRunners with
  | some err => .error err
  | none => .ok (table.rows.mergeSort fun first second => first.name ≤ second.name)

def getRunnerByName (statement : Statement) (name : RunnerName) : Except String Runner :=
  match env.failure statement with
  | some err => .error err
  | none =>
      match table.rows.find? fun row => row.name = name with
      | some row => .ok row
      | none => .error "sql: no rows in result set"

def createRunner (params : CreateRunnerParams) : Except String (Runner × Runners) :=
  match env.failure .createRunner with
  | some err => .error err
  | none =>
      if ¬(params.mode = "standalone" ∨ params.mode = "scaleset") then .error env.checkViolation
      else if table.rows.any fun row => row.name = params.name then .error env.uniqueViolation
      else
        let row : Runner := ⟨table.nextID, params.name, params.mode, params.url, params.dir, params.pat, params.maxRunners,
          params.labels, params.runnerGroup, 0, env.now⟩
        .ok (row, ⟨table.rows ++ [row], table.nextID + 1⟩)

/-- `COALESCE` for each column. -/
def coalesce (row : Runner) (params : UpdateRunnerParams) : Runner :=
  { row with
    pat := params.pat.getD row.pat
    maxRunners := params.maxRunners.getD row.maxRunners
    labels := params.labels.getD row.labels
    runnerGroup := params.runnerGroup.getD row.runnerGroup }

def updateRunner (params : UpdateRunnerParams) : Except String (Runner × Runners) :=
  match env.failure .updateRunner with
  | some err => .error err
  | none =>
      match table.rows.find? fun row => row.id = params.id with
      | some row => .ok (coalesce row params,
          { table with rows := table.rows.map fun row => if row.id = params.id then coalesce row params else row })
      | none => .error "sql: no rows in result set"

def deleteRunnerByName (name : RunnerName) : Except String Runners :=
  match env.failure .deleteRunnerByName with
  | some err => .error err
  | none => .ok { table with rows := table.rows.filter fun row => row.name ≠ name }

end Sqlc.Runners

namespace Api

open Sqlc (Runner)

variable (env : Surroundings) (table : Sqlc.Runners)

def isRegistered (row : Runner) : Bool := row.mode = "standalone" && row.dir != "" && env.registered row.dir

/-- A row without its token, next to a status. -/
def combine (row : Runner) (status : Option RunnerStatus) : CombinedRunner :=
  let status := status.getD ⟨"", "", .offline, "", 0⟩
  { runner := { row with pat := "" }
    state := status.state
    activeWorkers := status.activeWorkers
    error := status.error
    hasPat := row.pat ≠ ""
    canManage := false
    isRegistered := isRegistered env row }

def statusMap : Map RunnerName RunnerStatus :=
  collect RunnerStatus.name
    (env.standalone.listRunners "standalone" env.first ++ env.scaleset.listRunners "scaleset" env.second)

def getRunnerStatus (name : RunnerName) : Option RunnerStatus :=
  (env.standalone.getStatus "standalone" name).or (env.scaleset.getStatus "scaleset" name)

inductive ServiceError where
  | notFound
  | other (text : String)
  deriving DecidableEq, Repr

def ServiceError.text : ServiceError → String
  | .notFound => "runner not found"
  | .other text => text

/-- `GetRunnerByName` in the service, which tells a missing row by the text of the error. -/
def readRow (statement : Sqlc.Statement) (name : RunnerName) : Except ServiceError Runner :=
  match table.getRunnerByName env statement name with
  | .error err => .error (if contains err "no rows in result set" then .notFound else .other ("db error: " ++ err))
  | .ok row => .ok row

def serviceGetRunner (name : RunnerName) : Except ServiceError CombinedRunner :=
  match readRow env table .getExisting name with
  | .error err => .error err
  | .ok row => .ok (combine env row (getRunnerStatus env name))

/-- The refusal of a `Start`, by the state of the runner in its manager. -/
def alreadyRunning (processes : Processes) (name : RunnerName) : Option String :=
  match processes.lookup name with
  | some process =>
      if process.state ≠ .offline ∧ process.state ≠ .failed ∧ process.state ≠ .registering then
        some ("runner is already running: " ++ name ++ " is in state " ++ process.state.text)
      else none
  | none => none

/-- `Launch` of the standalone manager. -/
def launchStandalone (cfg : Runner) (token : String) : Option String :=
  (environmentError env.codec env.image cfg token env.files env.answers).or (startRunner cfg env.forking)

/-- The error of `AddRunner`. -/
def addRunner (cfg : Runner) (token : String) : Option String :=
  if cfg.mode = "standalone" ∨ cfg.mode = "" then
    (alreadyRunning env.standalone cfg.name).or (launchStandalone env cfg token)
  else if cfg.mode = "scaleset" then
    (alreadyRunning env.scaleset cfg.name).or
      (launchScaleSet env.newClient cfg ((env.maxWorkers.bind atoi).getD 5) env.glimpse)
  else some ("unknown runner mode: " ++ cfg.mode)

/-- An error of `CreateRunner`, with or without the row that has been made. -/
inductive CreateError where
  | unsaved (text : String)
  | unstarted (text : String)
  deriving DecidableEq, Repr

def serviceCreateRunner (params : Sqlc.CreateRunnerParams) (regToken : String) : Except CreateError Runner × Sqlc.Runners :=
  match table.createRunner env params with
  | .error err => (.error (.unsaved ("failed to save runner: " ++ err)), table)
  | .ok (row, table) =>
      match addRunner env row regToken with
      | some err => (.error (.unstarted ("failed to start runner: " ++ err)), table)
      | none => (.ok { row with pat := "" }, table)

/-- The states in which a runner cannot be edited. -/
def editable : RunnerState → Bool
  | .online | .busy | .registering | .paused | .draining => false
  | .offline | .failed => true

def updateParams (id : Nat) (input : UpdatePayload) : Sqlc.UpdateRunnerParams where
  pat := if input.pat ≠ "" then some input.pat else none
  maxRunners := if 0 < input.maxRunners then some input.maxRunners else none
  labels := if input.labels ≠ [] then some (",".intercalate input.labels) else none
  runnerGroup := if input.runnerGroup ≠ "" then some input.runnerGroup else none
  id

/-- The row that `UpdateRunner` starts, and the table after it. -/
def edit (row : Runner) (input : UpdatePayload) : Except String (Runner × Sqlc.Runners) :=
  if isRegistered env row ∧ input.pat = "" ∧ input.maxRunners = 0 ∧ input.runnerGroup = "" ∧ input.labels = [] then
    .ok (row, table)
  else table.updateRunner env (updateParams row.id input)

def serviceUpdateRunner (name : RunnerName) (input : UpdatePayload) (regToken : String) : Except String Runner × Sqlc.Runners :=
  match readRow env table .getRunnerByName name with
  | .error err => (.error err.text, table)
  | .ok row =>
      match (getRunnerStatus env name).filter fun status => !editable status.state with
      | some status => (.error ("cannot edit runner " ++ name ++ " while it is " ++ status.state.text ++
          " — remove and recreate instead"), table)
      | none =>
          match edit env table row input with
          | .error err => (.error ("failed to update runner: " ++ err), table)
          | .ok (updated, table) =>
              match addRunner env updated regToken with
              | some err => (.error ("failed to start runner: " ++ err), table)
              | none => (.ok { updated with pat := "" }, table)

def serviceDeleteRunner (name : RunnerName) : Except String Sqlc.Runners :=
  match readRow env table .getRunnerByName name with
  | .error err => .error err.text
  | .ok _ =>
      match table.deleteRunnerByName env name with
      | .error err => .error ("failed to delete from db: " ++ err)
      | .ok table => .ok table

def listRunners : Response :=
  match table.listRunners env with
  | .error err => ⟨500, .error ("failed to list runners: " ++ err)⟩
  | .ok rows => ⟨200, .runners (rows.map fun row => combine env row ((statusMap env).lookup row.name))⟩

def getRunner (name : RunnerName) : Response :=
  match serviceGetRunner env table name with
  | .error .notFound => ⟨404, .error ServiceError.notFound.text⟩
  | .error err => ⟨500, .error err.text⟩
  | .ok runner => ⟨200, .combined { runner with canManage := env.canManage runner.runner.url }⟩

def createParams (payload : CreatePayload) : Sqlc.CreateRunnerParams where
  name := payload.name
  mode := payload.mode
  url := payload.url
  dir := if payload.mode = "standalone" then "/opt/runners/" ++ payload.name else ""
  pat := payload.pat
  maxRunners := payload.maxRunners
  labels := ",".intercalate payload.labels
  runnerGroup := payload.runnerGroup

def createRunner : Option CreatePayload → Response × Sqlc.Runners
  | none => (⟨400, .error "invalid payload"⟩, table)
  | some payload =>
      if blank payload.name || blank payload.mode || blank payload.url then
        (⟨400, .error "name, mode, and url are required"⟩, table)
      else
        match if payload.mode = "standalone" then env.generateRegToken payload.url else .ok "" with
        | .error err => (⟨422, .runnerError ("failed to generate registration token: " ++ err) payload.name⟩, table)
        | .ok regToken =>
            match serviceCreateRunner env table (createParams payload) regToken with
            | (.error (.unstarted err), table) => (⟨422, .runnerError ("failed to start runner: " ++ err) payload.name⟩, table)
            | (.error (.unsaved err), table) => (⟨500, .error err⟩, table)
            | (.ok runner, table) => (⟨201, .runner runner⟩, table)

/-- What `updateRunner` and `deleteRunner` do first: the row as it is shown, or the response that ends the request. -/
def authorise (name : RunnerName) : Except Response CombinedRunner :=
  match serviceGetRunner env table name with
  | .error .notFound => .error ⟨404, .error "runner not found"⟩
  | .error (.other _) => .error ⟨500, .error "db error"⟩
  | .ok existing =>
      if env.canManage existing.runner.url then .ok existing
      else .error ⟨403, .error "you don't have admin access to manage this runner"⟩

def updateRunner (name : RunnerName) : Option UpdatePayload → Response × Sqlc.Runners
  | none => (⟨400, .error "invalid payload"⟩, table)
  | some payload =>
      match authorise env table name with
      | .error response => (response, table)
      | .ok existing =>
          match if existing.runner.mode = "standalone" ∧ existing.isRegistered = false then
              env.generateRegToken existing.runner.url else .ok "" with
          | .error err => (⟨422, .runnerError ("failed to generate registration token: " ++ err) name⟩, table)
          | .ok regToken =>
              match serviceUpdateRunner env table name payload regToken with
              | (.error err, table) =>
                  if contains err "cannot edit runner" then (⟨409, .error err⟩, table)
                  else (⟨422, .runnerError ("failed to start runner: " ++ err) name⟩, table)
              | (.ok runner, table) => (⟨200, .runner runner⟩, table)

def deleteRunner (name : RunnerName) : Response × Sqlc.Runners :=
  match authorise env table name with
  | .error response => (response, table)
  | .ok _ =>
      match serviceDeleteRunner env table name with
      | .error err => (⟨500, .error err⟩, table)
      | .ok table => (⟨200, .status "deleted"⟩, table)

/-- A request behind `AuthMiddleware`. -/
def handle : Request → Response × Sqlc.Runners
  | .listRunners => (listRunners env table, table)
  | .getRunner name => (getRunner env table name, table)
  | .createRunner payload => createRunner env table payload
  | .updateRunner name payload => updateRunner env table name payload
  | .deleteRunner name => deleteRunner env table name

def serve (request : Request) : Response × Sqlc.Runners :=
  if request ≠ .listRunners ∧ env.loggedIn = false then (⟨401, .error "not logged in"⟩, table) else handle env table request

/-- The responses to a sequence of requests, each with what it meets. -/
def responses : Sqlc.Runners → List (Surroundings × Request) → List Response
  | _, [] => []
  | table, (env, request) :: rest => (serve env table request).1 :: responses (serve env table request).2 rest

end Api

end RunnersMux
