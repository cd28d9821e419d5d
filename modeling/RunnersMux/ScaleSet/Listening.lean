import RunnersMux.Dashboard.Service
import RunnersMux.Foundations.Trimming
import Mathlib.Data.List.Infix

/-! How the listener of a scale set comes online, and what `Launch` sees of it.

GitHub's client is made with the token of the row. Whatever it answers is given,
and the error texts of `runListener` are built around its own.
-/

set_option autoImplicit false

namespace RunnersMux

open Foundations

/-- `strings.Contains`. -/
def contains (text part : String) : Bool := decide (part.toList <:+: text.toList)

/-- A client of `actions/scaleset`, and the listener that is made from its session: what the calls return. -/
structure ScaleSetClient where
  getRunnerGroupByName : String → Except String Nat
  getRunnerScaleSet : Nat → RunnerName → Except String (Option Nat)
  createRunnerScaleSet : RunnerName → Nat → List String → Except String Nat
  /-- The error, for each attempt. -/
  messageSessionClient : Nat → Nat → Option String
  newListener : Nat → Int → Option String
  /-- The error with which `Run` ends, unless it ends by the cancelling of its context. -/
  run : Nat → Int → Option String

/-- `NewClientWithPersonalAccessToken`, with a URL and a token. -/
abbrev NewClient := String → String → Except String ScaleSetClient

namespace ScaleSetClient

variable (client : ScaleSetClient)

/-- A text that a call of the client returns as its error. -/
inductive Errs (text : String) : Prop where
  | group {runnerGroup : String} (is : client.getRunnerGroupByName runnerGroup = .error text) : Errs text
  | find {id : Nat} {name : RunnerName} (is : client.getRunnerScaleSet id name = .error text) : Errs text
  | create {name : RunnerName} {id : Nat} {labels : List String}
      (is : client.createRunnerScaleSet name id labels = .error text) : Errs text
  | session {attempt id : Nat} (is : client.messageSessionClient attempt id = some text) : Errs text
  | listener {id : Nat} {maxRunners : Int} (is : client.newListener id maxRunners = some text) : Errs text
  | run {id : Nat} {maxRunners : Int} (is : client.run id maxRunners = some text) : Errs text

end ScaleSetClient

/-- The labels that `runListener` creates a scale set with. -/
def registeredLabels (column : String) : List String :=
  if column = "" then [] else ((splitAt column ',').map trimSpace).filter (· ≠ "")

section
variable (client : ScaleSetClient) (cfg : Sqlc.Runner)

/-- The scale set of a row, which is created unless it is there. -/
def scaleSetOf : Except String Nat :=
  let runnerGroupID :=
    if cfg.runnerGroup = "" ∨ cfg.runnerGroup = "default" then .ok 1 else client.getRunnerGroupByName cfg.runnerGroup
  match runnerGroupID with
  | .error err => .error ("failed to get runner group ID: " ++ err)
  | .ok runnerGroupID =>
      match client.getRunnerScaleSet runnerGroupID cfg.name with
      | .error err => .error ("failed to get runner scale set: " ++ err)
      | .ok (some scaleSetID) => .ok scaleSetID
      | .ok none =>
          match client.createRunnerScaleSet cfg.name runnerGroupID (registeredLabels cfg.labels) with
          | .error err => .error ("failed to create runner scale set: " ++ err)
          | .ok scaleSetID => .ok scaleSetID

def maxSessionRetries : Nat := 3

/-- The attempts at a session, and their error. A conflict with an old one is waited for, but not at
the last attempt. -/
def openSession (scaleSetID : Nat) : List Nat → Option String
  | [] => none
  | attempt :: later =>
      match client.messageSessionClient attempt scaleSetID with
      | none => none
      | some err =>
          if contains err "409 Conflict" ∧ attempt < maxSessionRetries - 1 then openSession scaleSetID later
          else some ("failed to create message session client: " ++ err)

/-- `runListener`: the error with which it returns before its listener is online, or the error of
the `Run` of the listener. -/
def runListener (newClient : NewClient) (globalMaxWorkers : Int) : Except String (Option String) :=
  match newClient cfg.url cfg.pat with
  | .error err => .error ("failed to create scaleset client: " ++ err)
  | .ok client =>
      match scaleSetOf client cfg with
      | .error err => .error err
      | .ok scaleSetID =>
          match openSession client scaleSetID (List.range maxSessionRetries) with
          | some err => .error err
          | none =>
              let listenerMaxRunners := if 0 < cfg.maxRunners then cfg.maxRunners else globalMaxWorkers
              match client.newListener scaleSetID listenerMaxRunners with
              | some err => .error ("failed to create listener: " ++ err)
              | none => .ok (client.run scaleSetID listenerMaxRunners)

end

/-- Which state of the runner the polls of `Launch` are the first to find: that the listener is
online, that it has failed, the same before its error is set, or none of them for a minute, as for a
runner that is being stopped. -/
inductive Glimpse where
  | online
  | failed
  | unexplained
  | timeout
  deriving DecidableEq, Repr

/-- What `Launch` finds with its polls. -/
inductive Polled where
  | online
  | failed (error : String)
  | timeout
  deriving DecidableEq, Repr

/-- A listener that has failed before it is online is never found to be. -/
def polled : Glimpse → Except String (Option String) → Polled
  | .online, .ok _ => .online
  | .online, .error err | .failed, .error err | .failed, .ok (some err) => .failed err
  | .unexplained, .error _ | .unexplained, .ok (some _) => .failed ""
  | _, _ => .timeout

/-- `Launch` of the scale set manager. -/
def launchScaleSet (newClient : NewClient) (cfg : Sqlc.Runner) (globalMaxWorkers : Int) (glimpse : Glimpse) :
    Option String :=
  match polled glimpse (runListener cfg newClient globalMaxWorkers) with
  | .failed err => some ("scaleset listener failed: " ++ err)
  | .online | .timeout => none

end RunnersMux
