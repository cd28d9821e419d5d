import RunnersMux.Dashboard.Requests
import RunnersMux.GitHub.Urls

/-! The OAuth tokens of one browser: its cookies, and the requests that read them.

`exchangeToken` sets a cookie, `logout` deletes cookies, and the browser sends
back the ones it has. Every question to a host is recorded with the token that it
carries. The handlers of runners are followed up to the service, the answers of
the hosts and the row that they read are those of the environment.
-/

set_option autoImplicit false

namespace RunnersMux

open Foundations

/-- A JSON object of strings, as `WriteError` and the auth handlers write it. -/
structure Response where
  status : Nat
  fields : List (String × String)
  deriving DecidableEq, Repr

def writeError (status : Nat) (err : String) : Response := ⟨status, [("error", err)]⟩

/-- The characters of a cookie's name; `http.SetCookie` writes no header for another one. -/
def isToken (name : String) : Bool :=
  name.toList.all fun char => char.isAlphanum || "!#$%&'*+-.^_`|~".toList.contains char

/-- `http.SetCookie` drops every other character of a value. -/
def validCookieValue (char : Char) : Bool :=
  decide (' ' ≤ char) && decide (char < '\x7f') && char != '"' && char != ';' && char != '\\'

def sanitizeCookieValue (value : String) : String := String.ofList (value.toList.filter validCookieValue)

/-- The cookies of a browser. -/
abbrev Jar := Map String String

/-- A `Set-Cookie` with a value. -/
def Jar.set (jar : Jar) (name value : String) : Jar :=
  if isToken name then jar.insert name (sanitizeCookieValue value) else jar

/-- A `Set-Cookie` with a negative age. -/
def Jar.delete (jar : Jar) (name : String) : Jar := if isToken name then jar.erase name else jar

/-- What the token endpoint of a host answers. -/
inductive TokenAnswer where
  | failed (err : String)
  | refused (status : Nat) (body : String)
  | undecodable (err : String)
  | decoded (accessToken error : String)
  deriving DecidableEq, Repr

def AuthConfig.getAppConfig (cfg : AuthConfig) (host : Host) : Option OAuthAppConfig :=
  cfg.oauthApps.find? fun app => app.host = host

/-- The response to a code and a host, or `none` for an invalid payload, and the token that is set as
the host's cookie. -/
def exchangeToken (cfg : AuthConfig) (payload : Option (String × Host)) (answer : TokenAnswer) :
    Response × Option (Host × Token) :=
  match payload with
  | none => (writeError 400 "invalid payload", none)
  | some (code, host) =>
      if code = "" ∨ host = "" then (writeError 400 "code and host are required", none)
      else
        match cfg.getAppConfig host with
        | none => (writeError 404 ("no OAuth App configured for host " ++ host), none)
        | some _ =>
            match answer with
            | .failed err => (writeError 502 ("failed to exchange code: " ++ err), none)
            | .refused status body =>
                (writeError 502 ("OAuth token exchange failed: " ++ status.repr ++ " " ++ body), none)
            | .undecodable err => (writeError 500 ("failed to decode token response: " ++ err), none)
            | .decoded accessToken error =>
                if error ≠ "" then (writeError 502 ("OAuth error: " ++ error), none)
                else if accessToken = "" then (writeError 502 "OAuth token exchange returned empty token", none)
                else (⟨200, [("access_token", accessToken), ("host", host)]⟩, some (host, accessToken))

/-- The cookies after a logout. Without a host every configured one is logged out. -/
def logout (apps : List OAuthAppConfig) (jar : Jar) (host : Host) : Jar :=
  if apps = [] then jar
  else if host ≠ "" then jar.delete (cookieNameForHost host)
  else apps.foldl (fun jar app => jar.delete (cookieNameForHost app.host)) jar

/-- The row of a runner as its handlers read it. -/
structure ExistingRunner where
  url : String
  mode : String
  isRegistered : Bool
  deriving DecidableEq, Repr

namespace Request

variable (request : Request)

def getOAuthTokenForHost (host : Host) : Except String Token :=
  match request.token host with
  | none => .error ("not signed in to " ++ host)
  | some token => .ok token

/-- The repository and the token with which `generateRegToken` asks for a registration token. -/
def generateRegToken (runnerURL : String) : Except String (RepoInfo × Token) :=
  match parseRepoURL runnerURL with
  | .error err => .error ("invalid runner URL: " ++ err)
  | .ok repoInfo =>
      match request.getOAuthTokenForHost repoInfo.host with
      | .error err => .error ("not signed in to " ++ repoInfo.host ++ " — please re-login: " ++ err)
      | .ok oauthToken => .ok (repoInfo, oauthToken)

end Request

/-- How far `checkCanManage` gets without `CheckAdminAccess`. -/
inductive Permission where
  | decided (allowed : Bool)
  | ask (repoInfo : RepoInfo) (username : Username) (oauthToken : Token)
  deriving DecidableEq, Repr

/-- What `checkCanManage` returns after the answer to `CheckAdminAccess`, if it asks. -/
def Permission.allows (answer : Except String Bool) : Permission → Bool
  | .decided allowed => allowed
  | .ask _ _ _ => answer.toOption.getD false

namespace Dashboard

variable {Store : Type}

def checkCanManage (d : Dashboard Store) (request : Request) (users : Option (Map Host Username)) (runnerURL : String) :
    Permission :=
  match users with
  | none => .decided true
  | some users =>
      if d.isAdminFromContext (some users) then .decided true
      else
        match parseRepoURL runnerURL with
        | .error _ => .decided false
        | .ok repoInfo =>
            match users.lookup repoInfo.host with
            | none => .decided false
            | some username =>
                match request.getOAuthTokenForHost repoInfo.host with
                | .error _ => .decided false
                | .ok oauthToken => .ask repoInfo username oauthToken

end Dashboard

/-- A handler behind `AuthMiddleware`, with the answers that it gets. -/
inductive HandlerCall where
  | listGitHubRepos
  | createRunner (name mode url : String)
  | getRunner (row : ExistingRunner)
  | updateRunner (row : ExistingRunner) (canManage : Except String Bool)
  | deleteRunner (row : ExistingRunner) (canManage : Except String Bool)
  /-- The settings, a missing row, or an invalid payload. -/
  | other

/-- The URL of the row for which a handler calls `checkCanManage`. -/
def HandlerCall.managed : HandlerCall → Option String
  | .getRunner row | .updateRunner row _ | .deleteRunner row _ => some row.url
  | _ => none

/-- The hosts that a handler asks because the client is logged in there. -/
def HandlerCall.lists (apps : List OAuthAppConfig) : HandlerCall → List Host
  | .listGitHubRepos => apps.map (·.host)
  | _ => []

namespace Permission

/-- The question of `CheckAdminAccess`. -/
def sends : Permission → List (Host × Token)
  | .decided _ => []
  | .ask repoInfo _ oauthToken => [(repoInfo.host, oauthToken)]

end Permission

/-- The question of `GetRegistrationToken`. -/
def registers : Except String (RepoInfo × Token) → List (Host × Token)
  | .error _ => []
  | .ok (repoInfo, oauthToken) => [(repoInfo.host, oauthToken)]

namespace Dashboard

variable {Store : Type} (d : Dashboard Store) (request : Request) (users : Option (Map Host Username))

/-- The URL for which a handler wants a registration token, if it gets so far. -/
def registrationURL : HandlerCall → Option String
  | .createRunner name mode url =>
      if !(blank name || blank mode || blank url) ∧ mode = "standalone" then some url else none
  | .updateRunner row canManage =>
      if (d.checkCanManage request users row.url).allows canManage ∧ row.mode = "standalone" ∧ row.isRegistered = false then
        some row.url
      else none
  | .deleteRunner row canManage =>
      -- What fails from here on is ignored: the runner is deleted without a token.
      if (d.checkCanManage request users row.url).allows canManage ∧ row.mode = "standalone" then some row.url else none
  | .listGitHubRepos | .getRunner _ | .other => none

/-- The hosts that a handler asks, and the tokens that it sends them. -/
def sends (call : HandlerCall) : List (Host × Token) :=
  ((call.lists d.apps).filterMap fun host => (request.token host).map fun token => (host, token)) ++
    (call.managed.elim [] fun url => (d.checkCanManage request users url).sends) ++
      (d.registrationURL request users call).elim [] fun url => registers (request.generateRegToken url)

end Dashboard

/-- The dashboard and one browser. -/
structure Browsing (Store : Type) where
  dashboard : Dashboard Store
  jar : Jar
  /-- The hosts and the tokens for which `exchangeToken` has set a cookie. -/
  obtained : List (Host × Token)
  /-- The hosts that have been sent a token. -/
  sent : List (Host × Token)

inductive BrowsingAction where
  | exchangeToken (payload : Option (String × Host)) (answer : TokenAnswer)
  | logout (host : Host)
  /-- The browser has kept a cookie for its seven days. -/
  | expire (name : String)
  | serve (action : DashboardAction)
  | handle (id : RequestID) (call : HandlerCall)

namespace Browsing

variable {Store : Type} (cache : Cache Store Token Username)

def new (authCfg : AuthConfig) : Browsing Store where
  dashboard := .new cache (some authCfg)
  jar := ∅
  obtained := []
  sent := []

/-- A request that the browser makes carries its cookies, in some order. -/
def Carries (jar : Jar) (cookies : List (String × String)) : Prop :=
  (∀ cookie ∈ cookies, jar.lookup cookie.1 = some cookie.2) ∧ ∀ name value, jar.lookup name = some value → (name, value) ∈ cookies

instance (jar : Jar) (cookies : List (String × String)) : Decidable (Carries jar cookies) :=
  inferInstanceAs (Decidable (_ ∧ ∀ name value, jar.lookup name = some value → (name, value) ∈ cookies))

/-- The cookies with which a request comes in. -/
def carried : DashboardAction → Option (List (String × String))
  | .arrive _ _ cookies _ => some cookies
  | _ => none

/-- The question for a username with which a visit to a host ends. -/
def asks (after : Dashboard Store) : DashboardAction → List (Host × Token)
  | .visit id _ =>
      match after.requests.lookup id with
      | some request =>
          match request.phase with
          | .asking app token _ => [(app.host, token)]
          | _ => []
      | none => []
  | _ => []

/-- The login that the dashboard sees for a host. -/
def login (s : Browsing Store) (host : Host) : Option Token := (s.jar.lookup (cookieNameForHost host)).filter (· ≠ "")

def step (s : Browsing Store) : BrowsingAction → Option (Browsing Store)
  | .exchangeToken payload answer =>
      match s.dashboard.authCfg with
      -- A nil config panics.
      | none => some s
      | some cfg =>
          match (exchangeToken cfg payload answer).2 with
          | none => some s
          | some (host, token) => some { s with
              jar := s.jar.set (cookieNameForHost host) token
              obtained := (host, token) :: s.obtained }
  | .logout host => some { s with jar := RunnersMux.logout s.dashboard.apps s.jar host }
  | .expire name => some { s with jar := s.jar.erase name }
  | .serve action =>
      if ∀ cookies ∈ carried action, Carries s.jar cookies then
        (s.dashboard.step cache action).map fun dashboard =>
          { s with dashboard, sent := asks dashboard action ++ s.sent }
      else none
  | .handle id call =>
      match s.dashboard.requests.lookup id with
      | some request =>
          match request.phase with
          | .next users => some { s with
              dashboard := { s.dashboard with requests := s.dashboard.requests.erase id }
              sent := s.dashboard.sends request users call ++ s.sent }
          | _ => none
      | none => none

end Browsing

end RunnersMux
