import RunnersMux.Dashboard.Requests

/-! Who gets past `AuthMiddleware`.

The middleware asks whether a host's cookie is there, not whether its host knows
the token, and a config that could not be loaded is a config without hosts.
-/

set_option autoImplicit false

namespace RunnersMux

open Foundations

/-- The wrapped handler is run. -/
def Request.runs (request : Request) : Bool :=
  match request.phase with
  | .next _ => true
  | _ => false

/-- `AuthMiddleware` has come to its end. -/
def Request.decided (request : Request) : Bool :=
  match request.phase with
  | .next _ | .unauthorized => true
  | _ => false

namespace Dashboard

variable {Store : Type} {cache : Cache Store Token Username} {Data : Type}

/-- Some configured host has authenticated the token in its cookie. -/
def Authenticated (d : Dashboard Store) (request : Request) : Prop :=
  ∃ app ∈ d.apps, ∃ token, request.token app.host = some token ∧
    ∃ answer ∈ d.answers, answer.host = app.host ∧ answer.token = token

instance (d : Dashboard Store) (request : Request) : Decidable (d.Authenticated request) :=
  decidable_of_iff (∃ app ∈ d.apps, ∃ token ∈ request.token app.host,
    ∃ answer ∈ d.answers, answer.host = app.host ∧ answer.token = token) (by simp [Authenticated])

/-- The file says that there are no hosts. -/
def Ungated (unmarshal : Data → Except String AuthConfig) (file : FileRead Data) : Prop :=
  file = .missing ∨ ∃ data cfg, file = .content data ∧ unmarshal data = .ok cfg ∧ cfg.oauthApps = []

def Loads (unmarshal : Data → Except String AuthConfig) (file : FileRead Data) : Prop :=
  file = .missing ∨ ∃ data cfg, file = .content data ∧ unmarshal data = .ok cfg

/-- The wrapped handler is run only if no login is configured, or a host knows the client. -/
def Gated (unmarshal : Data → Except String AuthConfig) (file : FileRead Data) (d : Dashboard Store)
    (request : Request) : Prop :=
  request.runs = true → Ungated unmarshal file ∨ d.Authenticated request

/-- Every host before the ones still to visit has been looked at, and a cookie
found for any of them counts as a login. -/
structure Visited (apps : List OAuthAppConfig) (request : Request) (seen todo : List OAuthAppConfig) : Prop where
  apps : apps = seen ++ todo
  loggedIn : request.visits.loggedIn = seen.any fun app => (request.token app.host).isSome

/-- How far a request has come, and what has been decided at its end. -/
def Entered (apps : List OAuthAppConfig) (request : Request) : Prop :=
  match request.phase with
  | .visiting todo => apps ≠ [] ∧ ∃ seen, Visited apps request seen todo
  | .asking app token todo => apps ≠ [] ∧ request.token app.host = some token ∧
      ∃ seen, Visited apps request seen (app :: todo)
  | .next none => apps = []
  | .next (some _) => ∃ app ∈ apps, (request.token app.host).isSome = true
  | .unauthorized => apps ≠ [] ∧ ∀ app ∈ apps, request.token app.host = none
  | .reported => True

/-- The end of the loop: any cookie that is not empty lets the request through. -/
theorem Entered.runs {apps : List OAuthAppConfig} {request : Request} (entered : Entered apps request)
    (decided : request.decided = true) :
    request.runs = true ↔ apps = [] ∨ ∃ app ∈ apps, (request.token app.host).isSome = true := by
  unfold Entered at entered
  unfold Request.decided at decided
  unfold Request.runs
  split at entered
  · next phase =>
      rw [phase] at decided
      cases decided
  · next phase =>
      rw [phase] at decided
      cases decided
  · next phase =>
      rw [phase]
      exact ⟨fun _ => .inl entered, fun _ => rfl⟩
  · next phase =>
      rw [phase]
      exact ⟨fun _ => .inr entered, fun _ => rfl⟩
  · next phase =>
      rw [phase]
      constructor
      · nofun
      · rintro (empty | ⟨app, member, some_⟩)
        · exact absurd empty entered.1
        · rw [entered.2 app member] at some_
          cases some_
  · next phase =>
      rw [phase] at decided
      cases decided

/-- One more host has been looked at. -/
theorem Visited.next {apps seen todo : List OAuthAppConfig} {request later : Request} {app : OAuthAppConfig}
    (visited : Visited apps request seen (app :: todo)) (cookies : later.cookies = request.cookies)
    (loggedIn : later.visits.loggedIn = (request.visits.loggedIn || (request.token app.host).isSome)) :
    Visited apps later (seen ++ [app]) todo := by
  have same (host : Host) : later.token host = request.token host := by
    unfold Request.token Request.cookie
    rw [cookies]
  constructor
  · rw [visited.apps, List.append_assoc]
    rfl
  · rw [loggedIn, visited.loggedIn, List.any_append]
    simp [same]

theorem Entered.finish {apps seen : List OAuthAppConfig} {request : Request} (some_ : apps ≠ [])
    (visited : Visited apps request seen []) :
    Entered apps { request with phase := Dashboard.finish request } := by
  have all : apps = seen := visited.apps.trans (List.append_nil seen)
  have counted := visited.loggedIn
  rw [← all] at counted
  unfold Entered Dashboard.finish
  cases request.handler with
  | authStatus => trivial
  | authMiddleware =>
      cases loggedIn : request.visits.loggedIn with
      | true =>
          rw [loggedIn] at counted
          obtain ⟨app, member, found⟩ := List.any_eq_true.mp counted.symm
          exact ⟨app, member, found⟩
      | false =>
          rw [loggedIn] at counted
          refine ⟨some_, fun app member => ?_⟩
          have missing := List.any_eq_false.mp counted.symm app member
          exact Option.not_isSome_iff_eq_none.mp missing

theorem entered_step {d after : Dashboard Store} {action : DashboardAction}
    (entered : ∀ id request, d.requests.lookup id = some request → Entered d.apps request)
    (serves : Serves cache d action after) : after.authCfg = d.authCfg ∧
      ∀ id request, after.requests.lookup id = some request → Entered d.apps request := by
  cases serves with
  | @arrive id handler cookies now fresh later =>
      refine ⟨rfl, proceed_all _ entered ?_⟩
      unfold Entered enter
      by_cases empty : d.apps = []
      · rw [if_pos empty]
        cases handler with
        | authMiddleware => exact empty
        | authStatus => trivial
      · rw [if_neg empty]
        exact ⟨empty, [], rfl, rfl⟩
  | finish found later done =>
      have before := entered _ _ found
      unfold Entered at before
      rw [done] at before
      obtain ⟨some_, seen, visited⟩ := before
      exact ⟨rfl, proceed_all _ entered (Entered.finish some_ visited)⟩
  | @visit id now request app rest found later head =>
      have before := entered _ _ found
      unfold Entered at before
      rw [head] at before
      obtain ⟨some_, seen, visited⟩ := before
      refine ⟨rfl, proceed_all _ entered ?_⟩
      unfold Dashboard.visit
      split
      · next missing =>
          refine ⟨some_, _, visited.next rfl ?_⟩
          rw [missing]
          exact (Bool.or_false _).symm
      · next token mine =>
          split
          · refine ⟨some_, _, visited.next rfl ?_⟩
            rw [mine]
            exact (Bool.or_true _).symm
          · exact ⟨some_, mine, seen, visited.apps, visited.loggedIn⟩
  | refuse found later asked | accept found later asked =>
      have before := entered _ _ found
      unfold Entered at before
      rw [asked] at before
      obtain ⟨some_, mine, seen, visited⟩ := before
      refine ⟨rfl, proceed_all _ entered ⟨some_, _, visited.next rfl ?_⟩⟩
      rw [mine]
      exact (Bool.or_true _).symm

/-- The step that ends a request of the middleware asks nobody. -/
theorem decided_step {d after : Dashboard Store} {action : DashboardAction} {id : RequestID} {request : Request}
    (serves : Serves cache d action after) (found : after.requests.lookup id = some request)
    (decided : request.decided = true)
    (undecided : ∀ earlier, d.requests.lookup id = some earlier → earlier.decided = false) :
    after.answers = d.answers := by
  cases serves with
  | arrive fresh later => rfl
  | finish known later done => rfl
  | visit known later head => rfl
  | refuse known later asked => rfl
  | accept known later asked =>
      rw [lookup_proceed] at found
      split at found
      · cases found
        cases decided
      · rw [undecided request found] at decided
        cases decided

/-- A file that loads without hosts is the only way to a config without hosts,
next to a file that does not load. -/
theorem newApp_apps {unmarshal : Data → Except String AuthConfig} {file : FileRead Data}
    (loads : Loads unmarshal file) (d : Dashboard Store) (config : d.authCfg = newApp unmarshal file) :
    d.apps = [] ↔ Ungated unmarshal file := by
  unfold apps Ungated
  rw [config]
  rcases loads with rfl | ⟨data, cfg, rfl, parsed⟩
  · simp [newApp, loadAuthConfig]
  · simp [newApp, loadAuthConfig, parsed]

theorem newApp_fails {unmarshal : Data → Except String AuthConfig} {file : FileRead Data}
    (fails : ¬Loads unmarshal file) : newApp unmarshal file = none := by
  unfold Loads at fails
  push Not at fails
  unfold newApp loadAuthConfig
  cases file with
  | missing => exact absurd rfl fails.1
  | unreadable text => rfl
  | content data =>
      cases parsed : unmarshal data with
      | ok cfg => exact absurd parsed (fails.2 data cfg rfl)
      | error text => simp [parsed]

theorem Ungated.loads {unmarshal : Data → Except String AuthConfig} {file : FileRead Data}
    (ungated : Ungated unmarshal file) : Loads unmarshal file := by
  rcases ungated with missing | ⟨data, cfg, content, parsed, _⟩
  · exact .inl missing
  · exact .inr ⟨data, cfg, content, parsed⟩

/-- The gate keeps its promise to a request exactly if the file loads and no host
is configured, no cookie is sent for any of the hosts, or a host has
authenticated the token of its cookie. -/
theorem gate_sound_iff (cache : Cache Store Token Username) (unmarshal : Data → Except String AuthConfig)
    (file : FileRead Data) (d after : Dashboard Store) (action : DashboardAction) (id : RequestID) (request : Request)
    (reached : Reaches (step cache) (· = new cache (newApp unmarshal file)) everyStep d)
    (taken : d.step cache action = some after) (found : after.requests.lookup id = some request)
    (decided : request.decided = true)
    (undecided : ∀ earlier, d.requests.lookup id = some earlier → earlier.decided = false) :
    after.Gated unmarshal file request ↔
      Loads unmarshal file ∧ (d.apps = [] ∨ (∀ app ∈ d.apps, request.token app.host = none) ∨
        d.Authenticated request) := by
  obtain ⟨config, entered⟩ : d.authCfg = newApp unmarshal file ∧
      ∀ id request, d.requests.lookup id = some request → Entered d.apps request := by
    apply reached.invariant
    · rintro _ rfl
      refine ⟨rfl, ?_⟩
      intro id request found
      cases found
    · intro earlier action next _ before _ taken
      obtain ⟨config, entered⟩ := entered_step before.2 (step_serves cache taken)
      refine ⟨config.trans before.1, ?_⟩
      unfold apps at entered ⊢
      rw [config]
      exact entered
  have serves := step_serves cache taken
  obtain ⟨kept, ended⟩ := entered_step entered serves
  have runs := (ended id request found).runs decided
  have same : after.Authenticated request ↔ d.Authenticated request := by
    unfold Authenticated apps
    rw [decided_step serves found decided undecided, kept]
  unfold Gated
  rw [same, runs]
  by_cases loads : Loads unmarshal file
  · rw [← newApp_apps loads d config]
    constructor
    · intro gated
      refine ⟨loads, ?_⟩
      by_cases sent : ∃ app ∈ d.apps, (request.token app.host).isSome = true
      · exact (gated (.inr sent)).imp_right .inr
      · refine .inr (.inl fun app member => ?_)
        push Not at sent
        exact Option.not_isSome_iff_eq_none.mp (sent app member)
    · rintro ⟨_, empty | none_ | authenticated⟩ sent
      · exact .inl empty
      · rcases sent with empty | ⟨app, member, some_⟩
        · exact .inl empty
        · rw [none_ app member] at some_
          cases some_
      · exact .inr authenticated
  · -- A nil config lets everybody in, and has no hosts that could authenticate.
    have empty : d.apps = [] := by
      unfold apps
      rw [config, newApp_fails loads]
      rfl
    constructor
    · intro gated
      rcases gated (.inl empty) with ungated | ⟨app, member, _⟩
      · exact absurd ungated.loads loads
      · rw [empty] at member
        cases member
    · intro sound
      exact absurd sound.1 loads

/-- A parser for the files below: it knows one host, or nothing. -/
def unmarshalHost : Option Host → Except String AuthConfig
  | some host => .ok ⟨[⟨host⟩], []⟩
  | none => .error "yaml: did not find expected node content"

/-- Neither file says that there are no hosts. -/
theorem unmarshalHost_gates (content : Option Host) : ¬Ungated unmarshalHost (.content content) := by
  rintro (missing | ⟨data, cfg, _, parsed, empty⟩)
  · cases missing
  · cases data with
    | none => cases parsed
    | some host =>
        cases parsed
        cases empty

/-- A file that does not parse opens the route to a client without cookies, and a
token that the host refuses opens it as well. -/
theorem gate_open :
    (∃ d after : Dashboard (Map Token (Username × Nat)), ∃ action request,
      Reaches (step Cache.expiring) (· = new Cache.expiring (newApp unmarshalHost (.content none))) everyStep d ∧
      d.step Cache.expiring action = some after ∧ d.requests.lookup 0 = none ∧
      after.requests.lookup 0 = some request ∧ request.decided = true ∧ request.cookies = [] ∧
      ¬after.Gated unmarshalHost (.content none) request) ∧
    ∃ d after : Dashboard (Map Token (Username × Nat)), ∃ action request earlier,
      Reaches (step Cache.expiring) (· = new Cache.expiring (newApp unmarshalHost (.content (some "a.example"))))
        everyStep d ∧
      d.step Cache.expiring action = some after ∧ d.requests.lookup 0 = some earlier ∧ earlier.decided = false ∧
      after.requests.lookup 0 = some request ∧ request.decided = true ∧
      request.cookies = [("gh_token_a_example", "x")] ∧
      ¬after.Gated unmarshalHost (.content (some "a.example")) request := by
  constructor
  · obtain ⟨d, reached, after, taken, fresh, request, found, decided, none_, runs, unknown⟩ :
        ∃ d : Dashboard (Map Token (Username × Nat)),
          Reaches (step Cache.expiring) (· = new Cache.expiring (newApp unmarshalHost (.content none))) everyStep d ∧
          ∃ after ∈ d.step Cache.expiring (.arrive 0 .authMiddleware [] 0), d.requests.lookup 0 = none ∧
            ∃ request ∈ after.requests.lookup 0, request.decided = true ∧ request.cookies = [] ∧
              request.runs = true ∧ ¬after.Authenticated request := by
      refine Reaches.of_replay rfl [] ?_
      decide
    refine ⟨d, after, _, request, reached, taken, fresh, found, decided, none_, ?_⟩
    intro gated
    rcases gated runs with ungated | authenticated
    · exact unmarshalHost_gates none ungated
    · exact unknown authenticated
  · obtain ⟨d, reached, after, taken, earlier, known, undecided, request, found, decided, sent, runs, unknown⟩ :
        ∃ d : Dashboard (Map Token (Username × Nat)),
          Reaches (step Cache.expiring)
            (· = new Cache.expiring (newApp unmarshalHost (.content (some "a.example")))) everyStep d ∧
          ∃ after ∈ d.step Cache.expiring (.visit 0 3), ∃ earlier ∈ d.requests.lookup 0,
            earlier.decided = false ∧ ∃ request ∈ after.requests.lookup 0, request.decided = true ∧
              request.cookies = [("gh_token_a_example", "x")] ∧ request.runs = true ∧
              ¬after.Authenticated request := by
      refine Reaches.of_replay rfl [.arrive 0 .authMiddleware [("gh_token_a_example", "x")] 0, .visit 0 1,
        .answer 0 (.error "401 Unauthorized") 2] ?_
      decide
    refine ⟨d, after, _, request, earlier, reached, taken, known, undecided, found, decided, sent, ?_⟩
    intro gated
    rcases gated runs with ungated | authenticated
    · exact unmarshalHost_gates _ ungated
    · exact unknown authenticated

/-- A client whose token the host knows is let through. -/
theorem gate_sound_iff_accepted : ∃ after : Dashboard (Map Token (Username × Nat)), ∃ request,
    request.runs = true ∧ after.Gated unmarshalHost (.content (some "a.example")) request := by
  obtain ⟨d, reached, after, taken, earlier, known, undecided, request, found, decided, runs, authenticated⟩ :
      ∃ d : Dashboard (Map Token (Username × Nat)),
        Reaches (step Cache.expiring)
          (· = new Cache.expiring (newApp unmarshalHost (.content (some "a.example")))) everyStep d ∧
        ∃ after ∈ d.step Cache.expiring (.visit 0 3), ∃ earlier ∈ d.requests.lookup 0,
          earlier.decided = false ∧ ∃ request ∈ after.requests.lookup 0, request.decided = true ∧
            request.runs = true ∧ d.Authenticated request := by
    refine Reaches.of_replay rfl [.arrive 0 .authMiddleware [("gh_token_a_example", "x")] 0, .visit 0 1,
      .answer 0 (.ok "root") 2] ?_
    decide
  refine ⟨after, request, runs, (gate_sound_iff Cache.expiring unmarshalHost (.content (some "a.example")) d after _ 0
    request reached taken found decided ?_).mpr ⟨.inr ⟨_, _, rfl, rfl⟩, .inr (.inr authenticated)⟩⟩
  intro other same
  cases known.symm.trans same
  exact undecided

end Dashboard

end RunnersMux
