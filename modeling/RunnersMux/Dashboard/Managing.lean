import RunnersMux.Dashboard.Service
import RunnersMux.Dashboard.Tokens

/-! `updateRunner` and `deleteRunner` ahead of the service.

The handler reads the row of the name and has the permission for its URL checked.
The service then reads the row of that name again. In between, and as long as the
service is at work, any other request may go on.
-/

set_option autoImplicit false

namespace RunnersMux

open Foundations

/-- The client of a request: its cookies, and what `AuthMiddleware` has put into the context. -/
structure Requester where
  request : Request
  users : Option (Map Host Username)
  deriving DecidableEq

/-- The result of `checkCanManage`, where the hosts always answer the same. -/
def Dashboard.canManage {Store : Type} (d : Dashboard Store)
    (checkAdminAccess : RepoInfo → Username → Token → Except String Bool) (requester : Requester) (runnerURL : String) : Bool :=
  match d.checkCanManage requester.request requester.users runnerURL with
  | .decided allowed => allowed
  | .ask repoInfo username oauthToken => (checkAdminAccess repoInfo username oauthToken).toOption.getD false

inductive Method where
  | update
  | delete
  deriving DecidableEq, Repr

inductive ManagePhase where
  /-- `GetRunner` has returned a row, and `checkCanManage` is called for its URL. -/
  | checking
  | permitted
  /-- Inside `UpdateRunner` or `DeleteRunner`. -/
  | serving
  | finished
  deriving DecidableEq, Repr

structure ManageRequest where
  requester : Requester
  method : Method
  name : RunnerName
  /-- The URL of the row that the handler has read. -/
  url : String
  phase : ManagePhase
  deriving DecidableEq

structure Management where
  deployment : Deployment
  requests : Map ClientID ManageRequest

inductive ManageEvent where
  | request (r : ClientID) (requester : Requester) (method : Method) (name : RunnerName)
  | check (r : ClientID)
  | enter (r : ClientID) (force : Bool) (token : String)
  /-- A request ends without the service: it has no registration token, or finds no row or a
  runner that it cannot edit. -/
  | abandon (r : ClientID)
  | deployment (event : DeploymentEvent)

namespace ManageRequest

/-- The call that a permitted request makes. -/
def call (request : ManageRequest) (r : ClientID) (force : Bool) (token : String) : DeploymentEvent :=
  match request.method with
  | .update => .updateRunner r request.name
  | .delete => .deleteRunner r request.name force token

end ManageRequest

/-- A call of the service that only a permitted request makes. -/
def DeploymentEvent.guarded : DeploymentEvent → Bool
  | .updateRunner _ _ | .deleteRunner _ _ _ _ => true
  | _ => false

namespace Management

def new : Management where
  deployment := .new
  requests := ∅

def goOn (s : Management) (r : ClientID) (request : ManageRequest) (phase : ManagePhase) : Management :=
  { s with requests := s.requests.insert r { request with phase } }

def step (canManage : Requester → String → Bool) (s : Management) : ManageEvent → Option Management
  | .request r requester method name =>
      match s.deployment.rows.lookup name with
      | some row =>
          if s.requests.lookup r = none then
            some { s with requests := s.requests.insert r ⟨requester, method, name, row.url, .checking⟩ }
          else none
      | none => none
  | .check r =>
      match s.requests.lookup r with
      | some request =>
          if request.phase = .checking then
            some (s.goOn r request (if canManage request.requester request.url then .permitted else .finished))
          else none
      | none => none
  | .enter r force token =>
      match s.requests.lookup r with
      | some request =>
          if request.phase = .permitted then
            (s.deployment.step (request.call r force token)).map fun deployment =>
              { s with deployment }.goOn r request .serving
          else none
      | none => none
  | .abandon r =>
      match s.requests.lookup r with
      | some request => if request.phase = .permitted then some (s.goOn r request .finished) else none
      | none => none
  | .deployment event =>
      if event.guarded then none else (s.deployment.step event).map fun deployment => { s with deployment }

/-- A step of a request changes a row: it writes or deletes the row in the table, hands it to a
`Start`, or has the runner of its name and mode stopped. -/
def Changes (s : Management) (r : ClientID) (row : RunnerRow) : ManageEvent → Prop
  | .deployment (.edit u _ _) => u = r ∧ ∃ held, s.deployment.updating.lookup u = some held ∧
      s.deployment.rows.lookup held.name = some row ∧ row.id = held.id
  | .deployment (.add u _) => u = r ∧ s.deployment.updating.lookup u = some row
  | .deployment (.removeRunner d _) => d = r ∧ ∃ deletion, s.deployment.deletions.lookup d = some deletion ∧
      s.deployment.rows.lookup deletion.row.name = some row ∧ row.mode = deletion.row.mode
  | .deployment (.proceed d _) => d = r ∧ ∃ deletion, s.deployment.deletions.lookup d = some deletion ∧
      deletion.phase = .deleting ∧ s.deployment.rows.lookup deletion.row.name = some row
  | _ => False

end Management

end RunnersMux
