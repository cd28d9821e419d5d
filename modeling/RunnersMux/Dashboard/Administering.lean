import RunnersMux.Dashboard.Gate
import RunnersMux.Dashboard.Settings

/-! The settings behind `AdminMiddleware`, with all other requests going on beside.

The handlers hold no lock: an update makes its writes one after the other, and those
of others may come in between.

Which host has named a user is not settled by a hit of the cache, which is keyed
by tokens. What is settled is that a configured host has named an admin for a
token that the client has sent.
-/

set_option autoImplicit false

namespace RunnersMux

open Foundations

/-- A request of `/settings`; the body of a `PUT` is `none` if it does not decode. -/
inductive SettingsCall where
  | getSettings
  | updateSettings (body : Option Payload)

inductive SettingsBody where
  | error (text : String)
  | settings (maxWorkers warmWorkers : Int)
  | status (text : String)
  deriving DecidableEq, Repr

structure SettingsResponse where
  status : Nat
  body : SettingsBody
  deriving DecidableEq, Repr

/-- What `getSettings` makes of a value; what is missing, cannot be read or is no number is zero. -/
def Settings.number (settings : Settings) (ok : Bool) (key : String) : Int :=
  if ok then (atoi (settings.get key)).getD 0 else 0

/-- One effect of `updateSettings`: two writes of the table, and the call of `UpdateSettings`. -/
inductive SettingsWrite where
  | maxWorkers (value : Int)
  | warmWorkers (value : Int)
  | limits (maxWorkers warmWorkers : Int)
  deriving DecidableEq, Repr

/-- The effects of a payload, in their order. -/
def Payload.writes (payload : Payload) : List SettingsWrite :=
  (if 0 < payload.maxWorkers then [.maxWorkers payload.maxWorkers] else []) ++
    (if 0 ≤ payload.warmWorkers then [.warmWorkers payload.warmWorkers] else []) ++
    [.limits payload.maxWorkers payload.warmWorkers]

/-- Where a handler is. -/
inductive Handling where
  | readingMax
  | readingWarm (maxWorkers : Int)
  | writing (rest : List SettingsWrite)
  deriving DecidableEq, Repr

/-- One effect; nobody looks at the error of a write of the table. -/
def SettingsApp.write {Managers Event Outcome : Type} (interfaces : Interfaces Managers Event Outcome)
    (s : SettingsApp Managers) (ok : Bool) : SettingsWrite → Option (SettingsApp Managers)
  | .maxWorkers value => some (if ok then { s with settings := s.settings.insert "max_workers" (itoa value) } else s)
  | .warmWorkers value => some (if ok then { s with settings := s.settings.insert "warm_workers" (itoa value) } else s)
  | .limits maxWorkers warmWorkers =>
      (s.system.step interfaces (.updateSettings maxWorkers warmWorkers)).map fun system => { s with system }

/-- What one effect makes of the table and the live limits. -/
def SettingsWrite.apply (ok : Bool) : SettingsWrite → Settings × Int × Int → Settings × Int × Int
  | .maxWorkers value, (settings, live) => (if ok then settings.insert "max_workers" (itoa value) else settings, live)
  | .warmWorkers value, (settings, live) => (if ok then settings.insert "warm_workers" (itoa value) else settings, live)
  | .limits max warm, (settings, _) => (settings, max, warm)

/-- The dashboard and the settings that it guards. -/
structure Administration (Store Managers : Type) where
  dashboard : Dashboard Store
  app : SettingsApp Managers
  calls : Map RequestID SettingsCall
  handling : Map RequestID Handling
  responses : Map RequestID SettingsResponse

inductive AdministrationEvent (Event Outcome : Type) where
  | request (id : RequestID) (call : SettingsCall) (cookies : List (String × String)) (now : Nat)
  /-- A request goes on through `AuthMiddleware`, or another route is asked for. -/
  | dashboard (action : DashboardAction)
  /-- What comes after `AuthMiddleware`. -/
  | handle (id : RequestID)
  /-- A handler takes its next step, with or without an error of the database. -/
  | proceed (id : RequestID) (ok : Bool)
  | run (action : Action Event Outcome)

namespace Dashboard

variable {Store : Type}

def HasHost (d : Dashboard Store) (host : Host) : Prop := ∃ app ∈ d.apps, app.host = host

/-- A configured host has said, not longer than the time to live before the request arrived, that the token
in the cookie of a host belongs to a user. -/
def Vouched (d : Dashboard Store) (request : Request) (host : Host) (username : Username) : Prop :=
  d.HasHost host ∧ ∃ token, request.token host = some token ∧ ∃ answer ∈ d.answers, d.HasHost answer.host ∧
    answer.token = token ∧ answer.username = username ∧ request.started ≤ answer.time + userTTL

/-- No login is configured, or the user of one of the cookies is an admin. -/
def Administers (d : Dashboard Store) (request : Request) : Prop :=
  d.apps = [] ∨ ∃ host username, d.isAdmin username host = true ∧ d.Vouched request host username

end Dashboard

namespace Administration

variable {Store Managers Event Outcome : Type}

def new (cache : Cache Store Token Username) (authCfg : Option AuthConfig) (app : SettingsApp Managers) :
    Administration Store Managers :=
  ⟨.new cache authCfg, app, ∅, ∅, ∅⟩

def respond (s : Administration Store Managers) (id : RequestID) (response : SettingsResponse) :
    Administration Store Managers :=
  { s with responses := s.responses.insert id response }

def accepted : SettingsResponse := ⟨200, .status "updated"⟩

/-- The handler of a call begins. -/
def serve (s : Administration Store Managers) (id : RequestID) : SettingsCall → Administration Store Managers
  | .getSettings => { s with handling := s.handling.insert id .readingMax }
  | .updateSettings none => s.respond id ⟨400, .error "invalid payload"⟩
  | .updateSettings (some payload) => { s with handling := s.handling.insert id (.writing payload.writes) }

def advance (interfaces : Interfaces Managers Event Outcome) (s : Administration Store Managers) (id : RequestID)
    (ok : Bool) : Handling → Option (Administration Store Managers)
  | .readingMax =>
      some { s with handling := s.handling.insert id (.readingWarm (s.app.settings.number ok "max_workers")) }
  | .readingWarm maxWorkers => some ({ s with handling := s.handling.erase id }.respond id
      ⟨200, .settings maxWorkers (s.app.settings.number ok "warm_workers")⟩)
  -- The lock of the orchestrator is only held within a write.
  | .writing (write :: next :: rest) => (s.app.write interfaces ok write).map fun app =>
      { s with app, handling := s.handling.insert id (.writing (next :: rest)) }
  | .writing [write] => (s.app.write interfaces ok write).map fun app =>
      { s with app, handling := s.handling.erase id }.respond id accepted
  | .writing [] => none

def step (cache : Cache Store Token Username) (interfaces : Interfaces Managers Event Outcome)
    (s : Administration Store Managers) : AdministrationEvent Event Outcome → Option (Administration Store Managers)
  | .request id call cookies now =>
      (s.dashboard.step cache (.arrive id .authMiddleware cookies now)).map fun dashboard =>
        { s with dashboard, calls := s.calls.insert id call }
  | .dashboard action => (s.dashboard.step cache action).map fun dashboard => { s with dashboard }
  | .handle id => (s.dashboard.requests.lookup id).bind fun request => (s.calls.lookup id).bind fun call =>
      if s.responses.lookup id = none ∧ s.handling.lookup id = none then
        match request.phase with
        | .next users =>
            if s.dashboard.adminMiddleware users then some (s.serve id call)
            else some (s.respond id ⟨403, .error "admin access required"⟩)
        | .unauthorized => some (s.respond id ⟨401, .error "not logged in"⟩)
        | _ => none
      else none
  | .proceed id ok => (s.handling.lookup id).bind (s.advance interfaces id ok)
  | .run action => (s.app.step interfaces (.run action)).map fun app => { s with app }

end Administration

namespace Dashboard

variable {Store : Type} {cache : Cache Store Token Username} {d after : Dashboard Store} {request later : Request}

/-- What a request that has arrived by now has gathered. -/
structure Vetted (d : Dashboard Store) (now : Nat) (request : Request) : Prop where
  started : request.started ≤ now
  context : ∀ users, request.phase = .next (some users) → users = request.visits.users
  vouched : ∀ host username, request.visits.users.lookup host = some username → d.Vouched request host username

structure Credible (cache : Cache Store Token Username) (d : Dashboard Store) : Prop where
  remembers : Cache.Remembers cache userTTL Authentication.token Authentication.username Authentication.time
    d.answers d.userCache
  answers : ∀ answer ∈ d.answers, d.HasHost answer.host
  entered : ∀ id request, d.requests.lookup id = some request → Entered d.apps request
  vetted : ∀ id request, d.requests.lookup id = some request → d.Vetted d.clock request

theorem apps_of_config (config : after.authCfg = d.authCfg) : after.apps = d.apps := by
  unfold apps
  rw [config]

theorem Vouched.mono {host : Host} {username : Username} (vouched : d.Vouched request host username)
    (more : d.answers ⊆ after.answers) (config : after.authCfg = d.authCfg) (cookies : later.cookies = request.cookies)
    (started : later.started = request.started) : after.Vouched later host username := by
  obtain ⟨known, token, mine, answer, member, configured, rest⟩ := vouched
  have apps : after.apps = d.apps := apps_of_config config
  unfold Vouched HasHost Request.token Request.cookie at *
  rw [apps, cookies, started]
  exact ⟨known, token, mine, answer, more member, configured, rest⟩

/-- The users stay vouched for while their request goes on, except for one that is added. -/
theorem Vetted.next {now time : Nat} (vetted : d.Vetted now request) (since : now ≤ time)
    (more : d.answers ⊆ after.answers) (config : after.authCfg = d.authCfg) (cookies : later.cookies = request.cookies)
    (started : later.started = request.started)
    (context : ∀ users, later.phase = .next (some users) → users = later.visits.users)
    (users : ∀ host username, later.visits.users.lookup host = some username →
      request.visits.users.lookup host = some username ∨ after.Vouched later host username) :
    after.Vetted time later where
  started := started ▸ vetted.started.trans since
  context := context
  vouched := by
    intro host username found
    rcases users host username found with before | new
    · exact (vetted.vouched host username before).mono more config cookies started
    · exact new

/-- A request takes a step, perhaps after an answer of its host. -/
theorem Credible.proceed {base : Dashboard Store} {id : RequestID} {now : Nat} (credible : Credible cache d)
    (since : d.clock ≤ now) (requests : base.requests = d.requests) (config : base.authCfg = d.authCfg)
    (more : d.answers ⊆ base.answers)
    (remembers : Cache.Remembers cache userTTL Authentication.token Authentication.username Authentication.time
      base.answers base.userCache)
    (answers : ∀ answer ∈ base.answers, d.HasHost answer.host)
    (entered : ∀ other old, (base.proceed id later now).requests.lookup other = some old → Entered d.apps old)
    (vetted : (base.proceed id later now).Vetted now later) : Credible cache (base.proceed id later now) := by
  have apps : (base.proceed id later now).apps = d.apps := apps_of_config config
  refine ⟨remembers, ?_, ?_, ?_⟩
  · intro answer member
    unfold HasHost
    rw [apps]
    exact answers answer member
  · rw [apps]
    exact entered
  · have others : ∀ other old, base.requests.lookup other = some old → (base.proceed id later now).Vetted now old := by
      intro other old found
      have before := credible.vetted other old (requests ▸ found)
      exact before.next since more config rfl rfl before.context fun host username kept => .inl kept
    exact proceed_all _ others vetted

theorem credible_step (lawful : cache.Lawful) {action : DashboardAction} (credible : Credible cache d)
    (serves : Serves cache d action after) : Credible cache after := by
  have entered := (entered_step credible.entered serves).2
  have same := List.Subset.refl d.answers
  cases serves with
  | @arrive id handler cookies now fresh since =>
      refine credible.proceed since rfl rfl same credible.remembers credible.answers entered ⟨Nat.le_refl _, ?_, ?_⟩
      · intro users passed
        simp only [enter] at passed
        split at passed
        · split at passed <;> cases passed
        · cases passed
      · intro host username found
        cases found
  | @finish id now request found since done =>
      have vetted := credible.vetted _ _ found
      refine credible.proceed since rfl rfl same credible.remembers credible.answers entered ?_
      refine vetted.next since same rfl rfl rfl ?_ fun host username kept => .inl kept
      intro users passed
      simp only [finish] at passed
      split at passed
      · split at passed <;> cases passed
        rfl
      · cases passed
  | @visit id now request app rest found since head =>
      have vetted := credible.vetted _ _ found
      have configured : d.HasHost app.host := by
        have before := credible.entered _ _ found
        unfold Entered at before
        rw [head] at before
        obtain ⟨_, seen, visited⟩ := before
        exact ⟨app, by simp [visited.apps], rfl⟩
      refine credible.proceed since rfl rfl same credible.remembers credible.answers entered ?_
      unfold Dashboard.visit
      split
      · exact vetted.next since same rfl rfl rfl (by simp) fun host username kept => .inl kept
      · next token mine =>
          split
          · next username hit =>
              -- The answer behind the hit may be that of another host.
              refine vetted.next since same rfl rfl rfl (by simp) fun host name known => ?_
              rcases Map.lookup_of_insert known with ⟨rfl, rfl⟩ | ⟨_, before⟩
              · obtain ⟨answer, latest, named, fresh⟩ := credible.remembers now token username hit
                have member := List.mem_of_find?_eq_some latest
                have about : answer.token = token := by simpa using List.find?_some latest
                refine .inr ⟨configured, token, mine, answer, member, credible.answers answer member, about, named, ?_⟩
                exact (vetted.started.trans since).trans fresh
              · exact .inl before
          · exact vetted.next since same rfl rfl rfl (by simp) fun host username kept => .inl kept
  | @refuse id now request app token rest text found since asked =>
      have vetted := credible.vetted _ _ found
      refine credible.proceed since rfl rfl same credible.remembers credible.answers entered ?_
      exact vetted.next since same rfl rfl rfl (by simp) fun host username kept => .inl kept
  | @accept id now request app token rest username found since asked =>
      have vetted := credible.vetted _ _ found
      obtain ⟨configured, mine⟩ : d.HasHost app.host ∧ request.token app.host = some token := by
        have before := credible.entered _ _ found
        unfold Entered at before
        rw [asked] at before
        obtain ⟨_, mine, seen, visited⟩ := before
        exact ⟨⟨app, by simp [visited.apps], rfl⟩, mine⟩
      have more : d.answers ⊆ ⟨app.host, token, username, now⟩ :: d.answers := List.subset_cons_self _ _
      refine credible.proceed since rfl rfl more ?_ ?_ entered ?_
      · exact lawful.remembers_set ⟨app.host, token, username, now⟩ credible.remembers
      · exact List.forall_mem_cons.mpr ⟨configured, credible.answers⟩
      · refine vetted.next since more rfl rfl rfl (by simp) fun host name known => ?_
        rcases Map.lookup_of_insert known with ⟨rfl, rfl⟩ | ⟨_, before⟩
        · refine .inr ⟨configured, token, mine, _, List.mem_cons_self, configured, rfl, rfl, ?_⟩
          exact (vetted.started.trans since).trans (Nat.le_add_right _ _)
        · exact .inl before

theorem new_credible (lawful : cache.Lawful) (authCfg : Option AuthConfig) : Credible cache (new cache authCfg) where
  remembers := lawful.remembers_empty
  answers := by simp [new]
  entered := by simp [new]
  vetted := by simp [new]

/-- Whom `AdminMiddleware` lets through. -/
theorem Credible.admits (credible : Credible cache d) {id : RequestID} (found : d.requests.lookup id = some request)
    {users : Option (Map Host Username)} (passed : request.phase = .next users)
    (admits : d.adminMiddleware users = true) : d.Administers request := by
  cases users with
  | none =>
      have entered := credible.entered id request found
      unfold Entered at entered
      rw [passed] at entered
      exact .inl entered
  | some users =>
      obtain ⟨host, username, known, admin⟩ := of_decide_eq_true admits
      have vetted := credible.vetted id request found
      rw [vetted.context users passed] at known
      exact .inr ⟨host, username, admin, vetted.vouched host username known⟩

/-- A request that has been decided stays as it is, and what is known of it stays true. -/
theorem decided_kept {action : DashboardAction} (serves : Serves cache d action after) {id : RequestID}
    (found : d.requests.lookup id = some request) (decided : request.decided = true) :
    after.requests.lookup id = some request ∧ d.answers ⊆ after.answers ∧ after.authCfg = d.authCfg := by
  have apart {other : RequestID} {old new : Request} {now : Nat} {base : Dashboard Store}
      (known : d.requests.lookup other = some old) (open_ : old.decided = false) (same : base.requests = d.requests) :
      (base.proceed other new now).requests.lookup id = some request := by
    rw [lookup_proceed, same]
    split
    · next equal =>
        subst equal
        cases found.symm.trans known
        rw [decided] at open_
        cases open_
    · exact found
  cases serves with
  | @arrive other handler cookies now fresh since =>
      refine ⟨?_, List.Subset.refl _, rfl⟩
      rw [lookup_proceed, if_neg]
      · exact found
      · rintro rfl
        cases found.symm.trans fresh
  | finish known since done => exact ⟨apart known (by simp [Request.decided, done]) rfl, List.Subset.refl _, rfl⟩
  | visit known since head => exact ⟨apart known (by simp [Request.decided, head]) rfl, List.Subset.refl _, rfl⟩
  | refuse known since asked => exact ⟨apart known (by simp [Request.decided, asked]) rfl, List.Subset.refl _, rfl⟩
  | accept known since asked =>
      exact ⟨apart known (by simp [Request.decided, asked]) rfl, List.subset_cons_self _ _, rfl⟩

theorem Administers.mono (administers : d.Administers request) (more : d.answers ⊆ after.answers)
    (config : after.authCfg = d.authCfg) : after.Administers request := by
  unfold Administers isAdmin at *
  rw [apps_of_config config, config]
  apply administers.imp_right
  rintro ⟨host, username, admin, vouched⟩
  exact ⟨host, username, admin, vouched.mono more config rfl rfl⟩

end Dashboard

namespace Administration

variable {Store Managers Event Outcome : Type} {cache : Cache Store Token Username}
  {interfaces : Interfaces Managers Event Outcome} {start : SettingsApp Managers}
  {s after : Administration Store Managers}

/-- The answer to a request of the dashboard: all but two kinds of them are for an admin, and one of these
is for a client without a cookie. -/
structure Earned (d : Dashboard Store) (request : Request) (response : SettingsResponse) : Prop where
  decided : request.decided = true
  admin : response.status ≠ 401 → response.status ≠ 403 → d.Administers request
  login : response.status = 401 → ∀ app ∈ d.apps, request.token app.host = none

/-- The table, and the limits that the orchestrator works with. -/
def limits (app : SettingsApp Managers) : Settings × Int × Int :=
  (app.settings, app.system.orchestrator.maxWorkers, app.system.orchestrator.warmWorkersConfig)

/-- A write that a request has made, and whether the database has taken it. -/
abbrev Attempt : Type := RequestID × SettingsWrite × Bool

/-- The table and the limits after some writes. -/
def made (first : Settings × Int × Int) (attempts : List Attempt) : Settings × Int × Int :=
  attempts.foldl (fun limits attempt => attempt.2.1.apply attempt.2.2 limits) first

/-- The writes of one request. -/
def own (id : RequestID) (attempts : List Attempt) : List SettingsWrite :=
  attempts.filterMap fun attempt => if attempt.1 = id then some attempt.2.1 else none

theorem own_append (id asked : RequestID) (attempts : List Attempt) (write : SettingsWrite) (ok : Bool) :
    own id (attempts ++ [(asked, write, ok)]) = own id attempts ++ if asked = id then [write] else [] := by
  by_cases same : asked = id <;> simp [own, same]

theorem own_of_mem {id : RequestID} {attempts : List Attempt} (member : id ∈ attempts.map Prod.fst) :
    own id attempts ≠ [] := by
  obtain ⟨attempt, among, rfl⟩ := List.mem_map.mp member
  exact List.ne_nil_of_mem (List.mem_filterMap.mpr ⟨attempt, among, if_pos rfl⟩)

/-- An admin has asked, or no login is configured. -/
def Served (s : Administration Store Managers) (id : RequestID) : Prop :=
  ∃ request, s.dashboard.requests.lookup id = some request ∧ request.decided = true ∧ s.dashboard.Administers request

def Updates (s : Administration Store Managers) (id : RequestID) (payload : Payload) : Prop :=
  s.calls.lookup id = some (.updateSettings (some payload))

/-- Every write is one of the payload of its own request, in the order of the handler, and an
update is answered once all of them have been made. -/
structure Accounts (s : Administration Store Managers) (start : SettingsApp Managers) (attempts : List Attempt) :
    Prop where
  limits : limits s.app = made (limits start) attempts
  called : ∀ id ∈ attempts.map Prod.fst,
    s.Served id ∧ ∃ payload, s.Updates id payload ∧ own id attempts <+: payload.writes
  answered : ∀ id, s.responses.lookup id = some accepted ↔
    ∃ payload, s.Updates id payload ∧ own id attempts = payload.writes

/-- The writes that have been made, and those that the handlers at work have still to make. -/
structure Ledger (start : SettingsApp Managers) (attempts : List Attempt) (s : Administration Store Managers) :
    Prop where
  limits : limits s.app = made (limits start) attempts
  served : ∀ id phase, s.handling.lookup id = some phase → s.Served id ∧ s.responses.lookup id = none
  writing : ∀ id rest, s.handling.lookup id = some (.writing rest) →
    rest ≠ [] ∧ ∃ payload, s.Updates id payload ∧ own id attempts ++ rest = payload.writes
  done : ∀ id, s.responses.lookup id = some accepted →
    s.Served id ∧ ∃ payload, s.Updates id payload ∧ own id attempts = payload.writes
  idle : ∀ id, own id attempts ≠ [] →
    (∃ rest, s.handling.lookup id = some (.writing rest)) ∨ s.responses.lookup id = some accepted

structure Governed (cache : Cache Store Token Username) (start : SettingsApp Managers)
    (s : Administration Store Managers) : Prop where
  credible : Dashboard.Credible cache s.dashboard
  earned : ∀ id response, s.responses.lookup id = some response → ∃ request,
    s.dashboard.requests.lookup id = some request ∧ Earned s.dashboard request response
  ledger : ∃ attempts, s.Ledger start attempts

theorem Earned.mono {d later : Dashboard Store} {request : Request} {response : SettingsResponse}
    (earned : Earned d request response) (more : d.answers ⊆ later.answers) (config : later.authCfg = d.authCfg) :
    Earned later request response where
  decided := earned.decided
  admin unrefused allowed := (earned.admin unrefused allowed).mono more config
  login := Dashboard.apps_of_config config ▸ earned.login

theorem Ledger.accounts {attempts : List Attempt} (ledger : s.Ledger start attempts) : s.Accounts start attempts where
  limits := ledger.limits
  called := by
    intro id member
    rcases ledger.idle id (own_of_mem member) with ⟨rest, writing⟩ | answered
    · obtain ⟨_, payload, updates, all⟩ := ledger.writing id rest writing
      exact ⟨(ledger.served id _ writing).1, payload, updates, rest, all⟩
    · obtain ⟨served, payload, updates, all⟩ := ledger.done id answered
      exact ⟨served, payload, updates, all ▸ List.prefix_refl _⟩
  answered := by
    intro id
    constructor
    · exact fun answered => (ledger.done id answered).2
    · rintro ⟨payload, updates, all⟩
      have some_ : own id attempts ≠ [] := by rw [all]; simp [Payload.writes]
      refine (ledger.idle id some_).resolve_left ?_
      -- A handler at work has a write to make.
      rintro ⟨rest, writing⟩
      obtain ⟨left, other, also, both⟩ := ledger.writing id rest writing
      cases updates.symm.trans also
      rw [all] at both
      exact left (List.append_right_eq_self.mp both)

/-- A step that makes no write, begins no handler and answers nothing. -/
theorem Ledger.same {attempts : List Attempt} (ledger : s.Ledger start attempts)
    (handling : after.handling = s.handling) (responses : after.responses = s.responses)
    (served : ∀ id, s.Served id → after.Served id)
    (calls : ∀ id payload, s.Served id → s.Updates id payload → after.Updates id payload)
    (same : Administration.limits after.app = Administration.limits s.app) : after.Ledger start attempts := by
  constructor
  · exact same.trans ledger.limits
  · rw [handling, responses]
    exact fun id phase found => (ledger.served id phase found).imp_left (served id)
  · rw [handling]
    intro id rest found
    obtain ⟨left, payload, updates, all⟩ := ledger.writing id rest found
    exact ⟨left, payload, calls id payload (ledger.served id _ found).1 updates, all⟩
  · rw [responses]
    intro id answered
    obtain ⟨admin, payload, updates, all⟩ := ledger.done id answered
    exact ⟨served id admin, payload, calls id payload admin updates, all⟩
  · rw [handling, responses]
    exact ledger.idle

/-- One request leaves its handler and is answered: what is known of the handlers at work. -/
theorem Ledger.served_others {attempts : List Attempt} (ledger : s.Ledger start attempts) {id asked : RequestID}
    {phase : Handling} (found : (s.handling.erase id).lookup asked = some phase) (response : SettingsResponse) :
    s.Served asked ∧ (s.responses.insert id response).lookup asked = none := by
  obtain ⟨different, before⟩ := Map.lookup_erase_some found
  refine (ledger.served asked phase before).imp_right fun none_ => ?_
  exact (Finmap.lookup_insert_of_ne _ different).trans none_

theorem Ledger.idle_others {attempts : List Attempt} (ledger : s.Ledger start attempts) {id asked : RequestID}
    (different : asked ≠ id) (some_ : own asked attempts ≠ []) (response : SettingsResponse) :
    (∃ rest, (s.handling.erase id).lookup asked = some (.writing rest)) ∨
      (s.responses.insert id response).lookup asked = some accepted := by
  refine (ledger.idle asked some_).imp ?_ ?_
  · exact fun ⟨rest, writing⟩ => ⟨rest, (Finmap.lookup_erase_ne different).trans writing⟩
  · exact fun answered => (Finmap.lookup_insert_of_ne _ different).trans answered

theorem Served.serves {action : DashboardAction} {dashboard : Dashboard Store} {id : RequestID} (served : s.Served id)
    (serves : Dashboard.Serves cache s.dashboard action dashboard) (same : after.dashboard = dashboard) :
    after.Served id := by
  obtain ⟨request, found, decided, administers⟩ := served
  obtain ⟨still, more, config⟩ := Dashboard.decided_kept serves found decided
  exact ⟨request, same ▸ still, decided, same ▸ administers.mono more config⟩

/-- The middleware goes on. -/
theorem Governed.serves (lawful : cache.Lawful) (governed : s.Governed cache start) {action : DashboardAction}
    {dashboard : Dashboard Store} (serves : Dashboard.Serves cache s.dashboard action dashboard) :
    Governed cache start { s with dashboard } := by
  refine ⟨Dashboard.credible_step lawful governed.credible serves, ?_, ?_⟩
  · intro id response answered
    obtain ⟨request, found, earned⟩ := governed.earned id response answered
    obtain ⟨still, more, config⟩ := Dashboard.decided_kept serves found earned.decided
    exact ⟨request, still, earned.mono more config⟩
  · obtain ⟨attempts, ledger⟩ := governed.ledger
    exact ⟨attempts, ledger.same rfl rfl (fun id served => served.serves serves rfl) (fun _ _ _ updates => updates) rfl⟩

/-- A request is answered that has made no write, and will make none. -/
theorem Governed.respond (governed : s.Governed cache start) {id : RequestID} {response : SettingsResponse}
    (open_ : s.responses.lookup id = none) (other : response ≠ accepted)
    (unwritten : ∀ rest, s.handling.lookup id ≠ some (.writing rest))
    (earned : ∃ request, s.dashboard.requests.lookup id = some request ∧ Earned s.dashboard request response) :
    Governed cache start ({ s with handling := s.handling.erase id }.respond id response) := by
  refine ⟨governed.credible, Map.forall_insert governed.earned earned, ?_⟩
  obtain ⟨attempts, ledger⟩ := governed.ledger
  refine ⟨attempts, ledger.limits, ?_, ?_, ?_, ?_⟩
  · exact fun asked phase found => ledger.served_others found response
  · exact fun asked rest found => ledger.writing asked rest (Map.lookup_of_erase found)
  · intro asked answered
    rcases Map.lookup_of_insert answered with ⟨_, same⟩ | ⟨_, before⟩
    · exact absurd same other
    · exact ledger.done asked before
  · intro asked some_
    have different : asked ≠ id := by
      rintro rfl
      rcases ledger.idle asked some_ with ⟨rest, writing⟩ | answered
      · exact unwritten rest writing
      · cases open_.symm.trans answered
    exact ledger.idle_others different some_ response

/-- A handler begins, or goes on without a write. -/
theorem Governed.begin (governed : s.Governed cache start) {id : RequestID} {phase : Handling}
    (open_ : s.responses.lookup id = none) (unwritten : ∀ rest, s.handling.lookup id ≠ some (.writing rest))
    (served : s.Served id) (writing : ∀ rest, phase = .writing rest →
      ∃ payload, s.Updates id payload ∧ rest = payload.writes) :
    Governed cache start { s with handling := s.handling.insert id phase } := by
  refine ⟨governed.credible, governed.earned, ?_⟩
  obtain ⟨attempts, ledger⟩ := governed.ledger
  have unmade : own id attempts = [] := by
    by_contra some_
    rcases ledger.idle id some_ with ⟨rest, found⟩ | answered
    · exact unwritten rest found
    · cases open_.symm.trans answered
  refine ⟨attempts, ledger.limits, Map.forall_insert ledger.served ⟨served, open_⟩, ?_, ledger.done, ?_⟩
  · intro asked rest found
    rcases Map.lookup_of_insert found with ⟨rfl, same⟩ | ⟨_, before⟩
    · obtain ⟨payload, updates, rfl⟩ := writing rest same
      exact ⟨by simp [Payload.writes], payload, updates, by rw [unmade, List.nil_append]⟩
    · exact ledger.writing asked rest before
  · intro asked some_
    have different : asked ≠ id := by
      rintro rfl
      exact some_ unmade
    refine (ledger.idle asked some_).imp_left ?_
    exact fun ⟨rest, found⟩ => ⟨rest, (Finmap.lookup_insert_of_ne _ different).trans found⟩

/-- The effect of a write, on the table or on the orchestrator. -/
theorem write_limits {app : SettingsApp Managers} {ok : Bool} {write : SettingsWrite}
    (written : s.app.write interfaces ok write = some app) : limits app = write.apply ok (limits s.app) := by
  cases write with
  | maxWorkers value | warmWorkers value =>
      cases written
      cases ok <;> rfl
  | limits maxWorkers warmWorkers =>
      obtain ⟨system, updated, rfl⟩ := Option.map_eq_some_iff.mp written
      cases System.step_effect interfaces updated with
      | updateSettings free => rfl

/-- A handler makes its next write, and answers after the last one. -/
theorem Governed.write (governed : s.Governed cache start) {id : RequestID} {ok : Bool} {write : SettingsWrite}
    {rest : List SettingsWrite} (found : s.handling.lookup id = some (.writing (write :: rest)))
    {app : SettingsApp Managers} (written : s.app.write interfaces ok write = some app)
    (goes : rest ≠ [] ∧ after = { s with app, handling := s.handling.insert id (.writing rest) } ∨
      rest = [] ∧ after = { s with app, handling := s.handling.erase id }.respond id accepted) :
    after.Governed cache start := by
  obtain ⟨attempts, ledger⟩ := governed.ledger
  obtain ⟨served, open_⟩ := ledger.served id _ found
  obtain ⟨_, payload, updates, all⟩ := ledger.writing id _ found
  have mine : own id (attempts ++ [(id, write, ok)]) = own id attempts ++ [write] := by rw [own_append, if_pos rfl]
  have others {asked : RequestID} (different : asked ≠ id) :
      own asked (attempts ++ [(id, write, ok)]) = own asked attempts := by
    rw [own_append, if_neg (Ne.symm different), List.append_nil]
  have limits : Administration.limits app = made (Administration.limits start) (attempts ++ [(id, write, ok)]) := by
    rw [write_limits written, ledger.limits, made, made, List.foldl_append]
    rfl
  rcases goes with ⟨left, rfl⟩ | ⟨rfl, rfl⟩
  -- The handler has more to write, so its writes are not all of the payload yet.
  · refine ⟨governed.credible, governed.earned, attempts ++ [(id, write, ok)], limits,
      Map.forall_insert ledger.served ⟨served, open_⟩, ?_, ?_, ?_⟩
    · intro asked later here
      rcases Map.lookup_of_insert here with ⟨rfl, same⟩ | ⟨different, before⟩
      · cases same
        exact ⟨left, payload, updates, by rw [mine, List.append_assoc, List.singleton_append, all]⟩
      · rw [others different]
        exact ledger.writing asked later before
    · intro asked answered
      have different : asked ≠ id := by
        rintro rfl
        cases open_.symm.trans answered
      rw [others different]
      exact ledger.done asked answered
    · intro asked some_
      by_cases same : asked = id
      · exact .inl ⟨rest, same ▸ Finmap.lookup_insert _⟩
      · rw [others same] at some_
        refine (ledger.idle asked some_).imp_left ?_
        exact fun ⟨later, here⟩ => ⟨later, (Finmap.lookup_insert_of_ne _ same).trans here⟩
  · obtain ⟨request, known, decided, administers⟩ := served
    have earned : ∃ request, s.dashboard.requests.lookup id = some request ∧ Earned s.dashboard request accepted :=
      ⟨request, known, decided, fun _ _ => administers, by simp [accepted]⟩
    refine ⟨governed.credible, Map.forall_insert governed.earned earned, attempts ++ [(id, write, ok)], limits,
      ?_, ?_, ?_, ?_⟩
    · exact fun asked phase here => ledger.served_others here accepted
    · intro asked later here
      obtain ⟨different, before⟩ := Map.lookup_erase_some here
      rw [others different]
      exact ledger.writing asked later before
    · intro asked answered
      rcases Map.lookup_of_insert answered with ⟨rfl, _⟩ | ⟨different, before⟩
      · exact ⟨⟨request, known, decided, administers⟩, payload, updates, mine.trans all⟩
      · rw [others different]
        exact ledger.done asked before
    · intro asked some_
      by_cases same : asked = id
      · exact .inr (same ▸ Finmap.lookup_insert _)
      · rw [others same] at some_
        exact ledger.idle_others same some_ accepted

/-- The orchestrator takes a step of its own. -/
theorem Governed.run (governed : s.Governed cache start) {action : Action Event Outcome} {app : SettingsApp Managers}
    (taken : s.app.step interfaces (.run action) = some app) : Governed cache start { s with app } := by
  refine ⟨governed.credible, governed.earned, ?_⟩
  obtain ⟨attempts, ledger⟩ := governed.ledger
  refine ⟨attempts, ledger.same rfl rfl (fun _ served => served) (fun _ _ _ updates => updates) ?_⟩
  simp only [SettingsApp.step] at taken
  split at taken
  · next quiet =>
      obtain ⟨system, moved, rfl⟩ := Option.map_eq_some_iff.mp taken
      obtain ⟨max, warm⟩ := System.effect_settings (System.step_effect interfaces moved) quiet
      -- A step of the orchestrator does not reach the table, and leaves its own limits alone.
      simp only [Administration.limits, max, warm]
  · cases taken

/-- A handler begins behind both middlewares. -/
theorem Governed.serve (governed : s.Governed cache start) {id : RequestID} {call : SettingsCall}
    (open_ : s.responses.lookup id = none) (begins : s.handling.lookup id = none)
    (called : s.calls.lookup id = some call) (served : s.Served id) : (s.serve id call).Governed cache start := by
  have unwritten (rest : List SettingsWrite) : s.handling.lookup id ≠ some (.writing rest) := by simp [begins]
  cases call with
  | getSettings => exact governed.begin open_ unwritten served nofun
  | updateSettings body =>
      cases body with
      | none =>
          obtain ⟨request, found, decided, administers⟩ := served
          have earned : ∃ request, s.dashboard.requests.lookup id = some request ∧
              Earned s.dashboard request ⟨400, .error "invalid payload"⟩ :=
            ⟨request, found, decided, fun _ _ => administers, by simp⟩
          have answered := governed.respond open_ (by decide) unwritten earned
          rwa [Map.erase_absent begins] at answered
      | some payload =>
          refine governed.begin open_ unwritten served ?_
          rintro _ ⟨⟩
          exact ⟨payload, called, rfl⟩

theorem Governed.advance (governed : s.Governed cache start) {id : RequestID} {ok : Bool} {phase : Handling}
    (found : s.handling.lookup id = some phase) (taken : s.advance interfaces id ok phase = some after) :
    after.Governed cache start := by
  obtain ⟨attempts, ledger⟩ := governed.ledger
  obtain ⟨served, open_⟩ := ledger.served id phase found
  cases phase with
  | readingMax =>
      cases taken
      exact governed.begin open_ (by simp [found]) served nofun
  | readingWarm maxWorkers =>
      cases taken
      obtain ⟨request, known, decided, administers⟩ := served
      refine governed.respond open_ (by simp [accepted]) (by simp [found]) ?_
      exact ⟨request, known, decided, fun _ _ => administers, by simp⟩
  | writing rest =>
      cases rest with
      | nil => cases taken
      | cons write later =>
          cases later with
          | nil =>
              obtain ⟨app, written, rfl⟩ := Option.map_eq_some_iff.mp taken
              exact governed.write found written (.inr ⟨rfl, rfl⟩)
          | cons next others =>
              obtain ⟨app, written, rfl⟩ := Option.map_eq_some_iff.mp taken
              exact governed.write found written (.inl ⟨nofun, rfl⟩)

theorem Governed.step (lawful : cache.Lawful) (governed : s.Governed cache start)
    {event : AdministrationEvent Event Outcome} (taken : s.step cache interfaces event = some after) :
    after.Governed cache start := by
  cases event with
  | request id call cookies now =>
      obtain ⟨dashboard, arrived, same⟩ := Option.map_eq_some_iff.mp taken
      cases same
      have serves := Dashboard.step_serves cache arrived
      have later := governed.serves lawful serves
      refine ⟨later.credible, later.earned, ?_⟩
      obtain ⟨attempts, ledger⟩ := governed.ledger
      refine ⟨attempts, ledger.same rfl rfl (fun asked served => served.serves serves rfl) ?_ rfl⟩
      intro asked payload served updates
      refine (Finmap.lookup_insert_of_ne _ ?_).trans updates
      -- What has got to its handler has arrived before.
      rintro rfl
      obtain ⟨request, found, _⟩ := served
      cases serves with
      | arrive fresh _ => cases fresh.symm.trans found
  | dashboard action =>
      obtain ⟨dashboard, moved, same⟩ := Option.map_eq_some_iff.mp taken
      cases same
      exact governed.serves lawful (Dashboard.step_serves cache moved)
  | handle id =>
      obtain ⟨request, found, taken⟩ := Option.bind_eq_some_iff.mp taken
      obtain ⟨call, called, taken⟩ := Option.bind_eq_some_iff.mp taken
      have refuses {response : SettingsResponse} (open_ : s.responses.lookup id = none ∧ s.handling.lookup id = none)
          (other : response ≠ accepted)
          (earned : ∃ request, s.dashboard.requests.lookup id = some request ∧ Earned s.dashboard request response) :
          (s.respond id response).Governed cache start := by
        have answered := governed.respond open_.1 other (by simp [open_.2]) earned
        rwa [Map.erase_absent open_.2] at answered
      split at taken
      · next open_ =>
          split at taken
          · next users passed =>
              have decided : request.decided = true := by simp [Request.decided, passed]
              split at taken
              · next admits =>
                  cases taken
                  have administers := governed.credible.admits found passed admits
                  exact governed.serve open_.1 open_.2 called ⟨request, found, decided, administers⟩
              · cases taken
                exact refuses open_ (by decide) ⟨request, found, decided, by simp, by simp⟩
          · next refused =>
              cases taken
              apply refuses open_ (by decide)
              have entered := governed.credible.entered id request found
              unfold Dashboard.Entered at entered
              rw [refused] at entered
              exact ⟨request, found, by simp [Request.decided, refused], by simp, fun _ => entered.2⟩
          · cases taken
      · cases taken
  | proceed id ok =>
      obtain ⟨phase, found, taken⟩ := Option.bind_eq_some_iff.mp taken
      exact governed.advance found taken
  | run action =>
      obtain ⟨app, moved, same⟩ := Option.map_eq_some_iff.mp taken
      cases same
      exact governed.run moved

theorem new_governed (lawful : cache.Lawful) (authCfg : Option AuthConfig) (start : SettingsApp Managers) :
    (new cache authCfg start).Governed cache start where
  credible := Dashboard.new_credible lawful authCfg
  earned := by simp [new]
  ledger := ⟨[], rfl, by simp [new], by simp [new], by simp [new], by simp [own]⟩

/-- Another payload for both settings. -/
def lowered : Payload where
  values := ((∅ : Map String Int).insert "warm_workers" 1).insert "max_workers" 2
  fits := by decide

end Administration

end RunnersMux
