import RunnersMux.Config.Auth
import RunnersMux.Foundations.Caches
import RunnersMux.Foundations.Transitions

/-! Requests to the dashboard on their way through `AuthMiddleware` or `authStatus`.

Both loop over the configured hosts and look the token of the host's cookie up:
in the cache, and on a miss at the host itself. A request is visiting its hosts
or waiting for an answer, so that requests may be served concurrently. The
answers of the hosts are remembered with the requests.
-/

set_option autoImplicit false

namespace RunnersMux

open Foundations

abbrev RequestID := Nat

/-- The seconds for which `getOrCreateUsername` caches a username. -/
def userTTL : Nat := 300

inductive Handler where
  | authMiddleware
  | authStatus
  deriving DecidableEq, Repr

structure HostStatus where
  host : Host
  loggedIn : Bool
  isAdmin : Bool
  deriving DecidableEq, Repr

/-- What the loop over the hosts has gathered. -/
structure Visits where
  users : Map Host Username
  loggedIn : Bool
  statuses : List HostStatus
  deriving DecidableEq

inductive RequestPhase where
  | visiting (todo : List OAuthAppConfig)
  | asking (app : OAuthAppConfig) (token : Token) (todo : List OAuthAppConfig)
  /-- The wrapped handler runs, with the users in its context or without any. -/
  | next (users : Option (Map Host Username))
  | unauthorized
  | reported
  deriving DecidableEq

structure Request where
  handler : Handler
  cookies : List (String × String)
  started : Nat
  visits : Visits
  phase : RequestPhase
  deriving DecidableEq

def cookieNameForHost (host : Host) : String :=
  "gh_token_" ++ String.ofList (host.toList.map fun char => if char = '.' then '_' else char)

/-- The first cookie of a name. -/
def Request.cookie (request : Request) (name : String) : Option String :=
  (request.cookies.find? fun cookie => cookie.1 = name).map (·.2)

/-- The token of a host, if the client sends a cookie for it that is not empty. -/
def Request.token (request : Request) (host : Host) : Option Token :=
  (request.cookie (cookieNameForHost host)).filter (· ≠ "")

/-- A successful `GetAuthenticatedUser`, with the time at which it is cached. -/
structure Authentication where
  host : Host
  token : Token
  username : Username
  time : Nat
  deriving DecidableEq, Repr

namespace Visits

def none : Visits where
  users := ∅
  loggedIn := false
  statuses := []

/-- No cookie for the host. -/
def skip (visits : Visits) (host : Host) : Visits :=
  { visits with statuses := visits.statuses ++ [⟨host, false, false⟩] }

/-- A cookie whose token the host did not accept. -/
def fail (visits : Visits) (host : Host) : Visits :=
  { visits with
    loggedIn := true
    statuses := visits.statuses ++ [⟨host, true, false⟩] }

def identify (visits : Visits) (host : Host) (username : Username) (isAdmin : Bool) : Visits where
  users := visits.users.insert host username
  loggedIn := true
  statuses := visits.statuses ++ [⟨host, true, isAdmin⟩]

end Visits

/-- The `API` with the requests it is serving. -/
structure Dashboard (Store : Type) where
  authCfg : Option AuthConfig
  userCache : Store
  clock : Nat
  /-- Latest first. -/
  answers : List Authentication
  requests : Map RequestID Request

inductive DashboardAction where
  | arrive (id : RequestID) (handler : Handler) (cookies : List (String × String)) (now : Nat)
  | visit (id : RequestID) (now : Nat)
  | answer (id : RequestID) (result : Except String Username) (now : Nat)

namespace Dashboard

variable {Store : Type} (cache : Cache Store Token Username)

def new (authCfg : Option AuthConfig) : Dashboard Store where
  authCfg := authCfg
  userCache := cache.empty
  clock := 0
  answers := []
  requests := ∅

/-- The hosts to visit; a nil config has none. -/
def apps (d : Dashboard Store) : List OAuthAppConfig := (d.authCfg.map (·.oauthApps)).getD []

def isAdmin (d : Dashboard Store) (username : Username) (host : Host) : Bool :=
  d.authCfg.any fun cfg => cfg.isAdmin username host

def isAdminFromContext (d : Dashboard Store) : Option (Map Host Username) → Bool
  | none => false
  | some users => decide (∃ host username, users.lookup host = some username ∧ d.isAdmin username host = true)

/-- Whether `AdminMiddleware` lets a request on that `AuthMiddleware` has let through. -/
def adminMiddleware (d : Dashboard Store) : Option (Map Host Username) → Bool
  | none => true
  | some users => d.isAdminFromContext (some users)

def proceed (d : Dashboard Store) (id : RequestID) (request : Request) (now : Nat) : Dashboard Store :=
  { d with
    clock := now
    requests := d.requests.insert id request }

/-- The end of the loop over the hosts. -/
def finish (request : Request) : RequestPhase :=
  match request.handler with
  | .authMiddleware => if request.visits.loggedIn then .next (some request.visits.users) else .unauthorized
  | .authStatus => .reported

/-- Without configured hosts the middleware lets every request through. -/
def enter (d : Dashboard Store) (handler : Handler) : RequestPhase :=
  if d.apps = [] then
    match handler with
    | .authMiddleware => .next none
    | .authStatus => .reported
  else .visiting d.apps

/-- One iteration of the loop, up to the question to the host. -/
def visit (d : Dashboard Store) (request : Request) (now : Nat) (app : OAuthAppConfig)
    (rest : List OAuthAppConfig) : Request :=
  match request.token app.host with
  | none => { request with
      visits := request.visits.skip app.host
      phase := .visiting rest }
  | some token =>
      -- The key is the token; the host plays no part in it.
      match cache.get d.userCache now token with
      | some username => { request with
          visits := request.visits.identify app.host username (d.isAdmin username app.host)
          phase := .visiting rest }
      | none => { request with phase := .asking app token rest }

def step (d : Dashboard Store) : DashboardAction → Option (Dashboard Store)
  | .arrive id handler cookies now =>
      if d.requests.lookup id = none ∧ d.clock ≤ now then
        some (d.proceed id ⟨handler, cookies, now, .none, d.enter handler⟩ now)
      else none
  | .visit id now =>
      match d.requests.lookup id with
      | some request =>
          if d.clock ≤ now then
            match request.phase with
            | .visiting [] => some (d.proceed id { request with phase := finish request } now)
            | .visiting (app :: rest) => some (d.proceed id (d.visit cache request now app rest) now)
            | _ => none
          else none
      | none => none
  | .answer id result now =>
      match d.requests.lookup id with
      | some request =>
          if d.clock ≤ now then
            match request.phase with
            | .asking app token rest =>
                match result with
                -- The cookie counts as a login although the host refused its token.
                | .error _ => some (d.proceed id { request with
                    visits := request.visits.fail app.host
                    phase := .visiting rest } now)
                | .ok username =>
                    some ({ d with
                      userCache := cache.set d.userCache now token username userTTL
                      answers := ⟨app.host, token, username, now⟩ :: d.answers }.proceed id { request with
                        visits := request.visits.identify app.host username (d.isAdmin username app.host)
                        phase := .visiting rest } now)
            | _ => none
          else none
      | none => none

/-- The cases of a step. -/
inductive Serves (d : Dashboard Store) : DashboardAction → Dashboard Store → Prop where
  | arrive {id : RequestID} {handler : Handler} {cookies : List (String × String)} {now : Nat}
      (fresh : d.requests.lookup id = none) (later : d.clock ≤ now) :
      Serves d (.arrive id handler cookies now) (d.proceed id ⟨handler, cookies, now, .none, d.enter handler⟩ now)
  | finish {id : RequestID} {now : Nat} {request : Request} (found : d.requests.lookup id = some request)
      (later : d.clock ≤ now) (done : request.phase = .visiting []) :
      Serves d (.visit id now) (d.proceed id { request with phase := finish request } now)
  | visit {id : RequestID} {now : Nat} {request : Request} {app : OAuthAppConfig} {rest : List OAuthAppConfig}
      (found : d.requests.lookup id = some request) (later : d.clock ≤ now)
      (head : request.phase = .visiting (app :: rest)) :
      Serves d (.visit id now) (d.proceed id (d.visit cache request now app rest) now)
  | refuse {id : RequestID} {now : Nat} {request : Request} {app : OAuthAppConfig} {token : Token}
      {rest : List OAuthAppConfig} {text : String} (found : d.requests.lookup id = some request)
      (later : d.clock ≤ now) (asked : request.phase = .asking app token rest) :
      Serves d (.answer id (.error text) now) (d.proceed id { request with
        visits := request.visits.fail app.host
        phase := .visiting rest } now)
  | accept {id : RequestID} {now : Nat} {request : Request} {app : OAuthAppConfig} {token : Token}
      {rest : List OAuthAppConfig} {username : Username} (found : d.requests.lookup id = some request)
      (later : d.clock ≤ now) (asked : request.phase = .asking app token rest) :
      Serves d (.answer id (.ok username) now) ({ d with
        userCache := cache.set d.userCache now token username userTTL
        answers := ⟨app.host, token, username, now⟩ :: d.answers }.proceed id { request with
          visits := request.visits.identify app.host username (d.isAdmin username app.host)
          phase := .visiting rest } now)

theorem step_serves {d after : Dashboard Store} {action : DashboardAction}
    (taken : d.step cache action = some after) : Serves cache d action after := by
  cases action with
  | arrive id handler cookies now =>
      simp only [step] at taken
      split at taken
      · next enabled =>
          cases taken
          exact .arrive enabled.1 enabled.2
      · cases taken
  | visit id now =>
      simp only [step] at taken
      split at taken
      · next request found =>
          split at taken
          · next later =>
              split at taken
              · next done =>
                  cases taken
                  exact .finish found later done
              · next app rest head =>
                  cases taken
                  exact .visit found later head
              · cases taken
          · cases taken
      · cases taken
  | answer id result now =>
      simp only [step] at taken
      split at taken
      · next request found =>
          split at taken
          · next later =>
              split at taken
              · next app token rest asked =>
                  split at taken
                  · cases taken
                    exact .refuse found later asked
                  · cases taken
                    exact .accept found later asked
              · cases taken
          · cases taken
      · cases taken

theorem lookup_proceed (d : Dashboard Store) (id other : RequestID) (request : Request) (now : Nat) :
    (d.proceed id request now).requests.lookup other =
      if other = id then some request else d.requests.lookup other :=
  Map.lookup_insert_if ..

/-- A property of requests that survives what one step changes. -/
theorem proceed_all {d : Dashboard Store} (holds : Request → Prop) {id : RequestID} {request : Request} {now : Nat}
    (others : ∀ other old, d.requests.lookup other = some old → holds old) (this : holds request) :
    ∀ other old, (d.proceed id request now).requests.lookup other = some old → holds old := by
  intro other old found
  rw [lookup_proceed] at found
  split at found
  · cases found
    exact this
  · exact others other old found

end Dashboard

end RunnersMux
