import RunnersMux.Dashboard.Requests

/-! Who a client is taken for, and on which host.

The cache is keyed by the token alone. A hit says what the host answered that
was asked last about the token, and this is the host of the cookie only if no
other host has been asked since.
-/

set_option autoImplicit false

namespace RunnersMux

open Foundations

namespace Dashboard

variable {Store : Type} {cache : Cache Store Token Username}

/-- The host itself has said, not longer than the time to live before the
request arrived, that the token in its cookie belongs to the user. -/
def Answered (d : Dashboard Store) (request : Request) (host : Host) (username : Username) : Prop :=
  ∃ token, request.token host = some token ∧ ∃ answer ∈ d.answers, answer.host = host ∧ answer.token = token ∧
    answer.username = username ∧ request.started ≤ answer.time + userTTL

/-- Every user that a request is served as, and every admin that it is reported
as, is one that the host has authenticated. -/
structure Identified (d : Dashboard Store) (request : Request) : Prop where
  users : ∀ host username, request.visits.users.lookup host = some username → d.Answered request host username
  statuses : ∀ status ∈ request.visits.statuses, status.isAdmin = true →
    ∃ username, d.isAdmin username status.host = true ∧ d.Answered request status.host username

/-- The lookup of a token that a step makes, for a host and at a time. -/
def looks (d : Dashboard Store) : DashboardAction → Option (Host × Token × Nat)
  | .visit id now =>
      match d.requests.lookup id with
      | some request =>
          match request.phase with
          | .visiting (app :: _) => (request.token app.host).map fun token => (app.host, token, now)
          | _ => none
      | none => none
  | _ => none

/-- A hit was stored by a lookup for the same host: of the hosts that have been
asked about the token, this one was asked last. -/
def sameHost (cache : Cache Store Token Username) (d : Dashboard Store) (action : DashboardAction) : Prop :=
  ∀ look ∈ d.looks action, ∀ username ∈ cache.get d.userCache look.2.2 look.2.1,
    ∀ latest ∈ d.answers.find? (fun answer => answer.token = look.2.1), latest.host = look.1

instance (d : Dashboard Store) (action : DashboardAction) : Decidable (sameHost cache d action) :=
  inferInstanceAs (Decidable (∀ look ∈ d.looks action, ∀ username ∈ _, ∀ latest ∈ _, _))

theorem Answered.mono {d after : Dashboard Store} {request later : Request} {host : Host} {username : Username}
    (answered : d.Answered request host username) (more : d.answers ⊆ after.answers)
    (cookies : later.cookies = request.cookies) (started : later.started = request.started) :
    after.Answered later host username := by
  obtain ⟨token, mine, answer, member, rest⟩ := answered
  refine ⟨token, ?_, answer, more member, ?_⟩
  · unfold Request.token Request.cookie at mine ⊢
    rw [cookies]
    exact mine
  · rw [started]
    exact rest

/-- What the loop has gathered stays right when the request goes on and hosts answer. -/
theorem Identified.mono {d after : Dashboard Store} {request later : Request} (identified : d.Identified request)
    (more : d.answers ⊆ after.answers) (config : after.authCfg = d.authCfg) (cookies : later.cookies = request.cookies)
    (started : later.started = request.started) (users : later.visits.users = request.visits.users)
    (statuses : ∀ status ∈ later.visits.statuses, status.isAdmin = true → status ∈ request.visits.statuses) :
    after.Identified later := by
  constructor
  · intro host username found
    rw [users] at found
    exact (identified.users host username found).mono more cookies started
  · intro status member admin
    obtain ⟨username, isAdmin, answered⟩ := identified.statuses status (statuses status member admin) admin
    refine ⟨username, ?_, answered.mono more cookies started⟩
    unfold Dashboard.isAdmin at isAdmin ⊢
    rw [config]
    exact isAdmin

/-- A lookup that the host stands for. -/
theorem Identified.identify {d : Dashboard Store} {request later : Request} {host : Host} {username : Username}
    (identified : d.Identified request) (answered : d.Answered request host username)
    (cookies : later.cookies = request.cookies) (started : later.started = request.started)
    (visits : later.visits = request.visits.identify host username (d.isAdmin username host)) :
    d.Identified later := by
  have same {other : Host} {name : Username} (answered : d.Answered request other name) :
      d.Answered later other name :=
    answered.mono (List.Subset.refl _) cookies started
  constructor
  · intro other name found
    rw [visits] at found
    change (request.visits.users.insert host username).lookup other = some name at found
    rcases Map.lookup_of_insert found with ⟨equal, rfl⟩ | ⟨_, old⟩
    · rw [equal]
      exact same answered
    · exact same (identified.users other name old)
  · intro status member admin
    rw [visits] at member
    rcases List.mem_append.mp member with earlier | new
    · obtain ⟨name, isAdmin, answered⟩ := identified.statuses status earlier admin
      exact ⟨name, isAdmin, same answered⟩
    · cases List.mem_singleton.mp new
      exact ⟨username, admin, same answered⟩

/-- What holds of a request between two steps. -/
structure Handled (d : Dashboard Store) (now : Nat) (request : Request) : Prop where
  started : request.started ≤ now
  asks : ∀ app token rest, request.phase = .asking app token rest → request.token app.host = some token
  context : ∀ users, request.phase = .next (some users) → users = request.visits.users
  identified : d.Identified request

structure Sound (cache : Cache Store Token Username) (d : Dashboard Store) : Prop where
  remembers : Cache.Remembers cache userTTL Authentication.token Authentication.username Authentication.time
    d.answers d.userCache
  handled : ∀ id request, d.requests.lookup id = some request → d.Handled d.clock request

/-- One request goes on, perhaps after an answer has been cached. -/
theorem Sound.proceed {d base : Dashboard Store} {id : RequestID} {request : Request} {now : Nat}
    (sound : Sound cache d) (later : d.clock ≤ now) (requests : base.requests = d.requests)
    (config : base.authCfg = d.authCfg) (more : d.answers ⊆ base.answers)
    (remembers : Cache.Remembers cache userTTL Authentication.token Authentication.username Authentication.time
      base.answers base.userCache)
    (handled : base.Handled now request) : Sound cache (base.proceed id request now) := by
  constructor
  · exact remembers
  · have others : ∀ other old, base.requests.lookup other = some old →
        (base.proceed id request now).Handled now old := by
      intro other old found
      have before := sound.handled other old (requests ▸ found)
      constructor
      · exact Nat.le_trans before.started later
      · exact before.asks
      · exact before.context
      · exact before.identified.mono more config rfl rfl rfl fun _ member _ => member
    apply proceed_all ((base.proceed id request now).Handled now) others
    constructor
    · exact handled.started
    · exact handled.asks
    · exact handled.context
    · exact handled.identified.mono (List.Subset.refl _) rfl rfl rfl rfl fun _ member _ => member

/-- A request that goes on to its next host keeps its arrival. -/
theorem Handled.next {d : Dashboard Store} {later : Request} {now : Nat} {rest : List OAuthAppConfig}
    (started : later.started ≤ now) (phase : later.phase = .visiting rest) (identified : d.Identified later) :
    d.Handled now later := by
  constructor
  · exact started
  · intro app token todo asked
    cases phase.symm.trans asked
  · intro users passed
    cases phase.symm.trans passed
  · exact identified

theorem sound_step (lawful : cache.Lawful) {d after : Dashboard Store} {action : DashboardAction}
    (sound : Sound cache d) (own : sameHost cache d action) (serves : Serves cache d action after) :
    Sound cache after := by
  have same := List.Subset.refl d.answers
  cases serves with
  | arrive fresh later =>
      refine sound.proceed later rfl rfl same sound.remembers ⟨Nat.le_refl _, ?_, ?_, ?_⟩
      · intro app token rest asked
        unfold enter at asked
        split at asked
        · split at asked <;> cases asked
        · cases asked
      · intro users passed
        unfold enter at passed
        split at passed
        · split at passed <;> cases passed
        · cases passed
      · constructor
        · intro host username found
          cases found
        · intro status member
          cases member
  | finish found later done =>
      have handled := sound.handled _ _ found
      refine sound.proceed later rfl rfl same sound.remembers ⟨Nat.le_trans handled.started later, ?_, ?_, ?_⟩
      · intro app token rest asked
        unfold finish at asked
        split at asked
        · split at asked <;> cases asked
        · cases asked
      · intro users passed
        unfold finish at passed
        split at passed
        · split at passed <;> cases passed
          rfl
        · cases passed
      · exact handled.identified.mono same rfl rfl rfl rfl fun _ member _ => member
  | @visit id now request app rest found later head =>
      have handled := sound.handled _ _ found
      have started := Nat.le_trans handled.started later
      refine sound.proceed later rfl rfl same sound.remembers ?_
      unfold Dashboard.visit
      split
      · refine .next started rfl (handled.identified.mono same rfl rfl rfl rfl ?_)
        intro status member admin
        rcases List.mem_append.mp member with earlier | new
        · exact earlier
        · cases List.mem_singleton.mp new
          cases admin
      · next token mine =>
          split
          · next username hit =>
              -- The answer behind the hit is the latest one about the token.
              refine .next started rfl (handled.identified.identify ?_ rfl rfl rfl)
              obtain ⟨answer, latest, named, fresh⟩ := sound.remembers now token username hit
              have looked : d.looks (.visit id now) = some (app.host, token, now) := by
                simp only [looks, found, head, mine, Option.map_some]
              have host := own _ looked username hit answer latest
              have about : decide (answer.token = token) = true :=
                List.find?_some (p := fun write : Authentication => decide (write.token = token)) latest
              exact ⟨token, mine, answer, List.mem_of_find?_eq_some latest, host, of_decide_eq_true about, named,
                Nat.le_trans started fresh⟩
          · constructor
            · exact started
            · intro other sought todo asked
              cases asked
              exact mine
            · intro users passed
              cases passed
            · exact handled.identified.mono same rfl rfl rfl rfl fun _ member _ => member
  | refuse found later asked =>
      have handled := sound.handled _ _ found
      refine sound.proceed later rfl rfl same sound.remembers ?_
      refine .next (Nat.le_trans handled.started later) rfl (handled.identified.mono same rfl rfl rfl rfl ?_)
      intro status member admin
      rcases List.mem_append.mp member with earlier | new
      · exact earlier
      · cases List.mem_singleton.mp new
        cases admin
  | @accept id now request app token rest username found later asked =>
      have handled := sound.handled _ _ found
      have started := Nat.le_trans handled.started later
      have more : d.answers ⊆ ⟨app.host, token, username, now⟩ :: d.answers := List.subset_cons_self _ _
      refine sound.proceed later rfl rfl more ?_ (.next started rfl ?_)
      · exact lawful.remembers_set ⟨app.host, token, username, now⟩ sound.remembers
      · have identified : Identified { d with
            userCache := cache.set d.userCache now token username userTTL
            answers := ⟨app.host, token, username, now⟩ :: d.answers } request :=
          handled.identified.mono more rfl rfl rfl rfl fun _ member _ => member
        refine identified.identify ?_ rfl rfl rfl
        exact ⟨token, handled.asks app token rest asked, _, List.mem_cons_self, rfl, rfl, rfl,
          Nat.le_trans started (Nat.le_add_right _ _)⟩

theorem new_sound (lawful : cache.Lawful) (authCfg : Option AuthConfig) : Sound cache (new cache authCfg) := by
  constructor
  · exact lawful.remembers_empty
  · intro id request found
    cases found

/-- If every hit was stored by a lookup for the same host, every request is
served as users whom their hosts have authenticated, and as an admin only if one
of them is. -/
theorem identity_per_host (cache : Cache Store Token Username) (lawful : cache.Lawful) (authCfg : Option AuthConfig)
    (d : Dashboard Store)
    (reached : Reaches (step cache) (· = new cache authCfg) (sameHost cache) d)
    (id : RequestID) (request : Request) (found : d.requests.lookup id = some request) :
    d.Identified request ∧ ∀ users, request.phase = .next users → d.isAdminFromContext users = true →
      ∃ host username, d.isAdmin username host = true ∧ d.Answered request host username := by
  have sound : Sound cache d := by
    apply reached.invariant
    · rintro _ rfl
      exact new_sound lawful authCfg
    · intro earlier action after _ sound own taken
      exact sound_step lawful sound own (step_serves cache taken)
  have identified := (sound.handled id request found).identified
  refine ⟨identified, ?_⟩
  intro users passed admin
  cases users with
  | none => cases admin
  | some users =>
      obtain ⟨host, username, known, isAdmin⟩ := of_decide_eq_true admin
      rw [(sound.handled id request found).context users passed] at known
      exact ⟨host, username, isAdmin, identified.users host username known⟩

/-- Two hosts with their own OAuth apps; root is an admin on the second one only. -/
def twoHosts : AuthConfig where
  oauthApps := [⟨"a.example"⟩, ⟨"b.example"⟩]
  admins := [⟨"b.example", "root"⟩]

/-- A client that sends one token as the cookie of both hosts. -/
def sharedToken : List (String × String) := [("gh_token_a_example", "t"), ("gh_token_b_example", "t")]

/-- Somebody called root on the first host becomes an admin of the second, which
is never asked. -/
theorem identity_confused : ∃ d : Dashboard (Map Token (Username × Nat)),
    Reaches (step Cache.expiring) (· = new Cache.expiring (some twoHosts)) everyStep d ∧
    ∃ request users, d.requests.lookup 0 = some request ∧ request.phase = .next users ∧
      ¬d.Identified request ∧ d.isAdminFromContext users = true ∧
      ¬∃ host username, d.isAdmin username host = true ∧ d.Answered request host username := by
  obtain ⟨d, reached, config, silent, request, found, passed, known, admin⟩ :
      ∃ d : Dashboard (Map Token (Username × Nat)),
        Reaches (step Cache.expiring) (· = new Cache.expiring (some twoHosts)) everyStep d ∧
        d.authCfg = some twoHosts ∧ (∀ answer ∈ d.answers, answer.host ≠ "b.example") ∧
        ∃ request ∈ d.requests.lookup 0, request.phase = .next (some request.visits.users) ∧
          request.visits.users.lookup "b.example" = some "root" ∧
          d.isAdminFromContext (some request.visits.users) = true := by
    refine Reaches.of_replay rfl [.arrive 0 .authMiddleware sharedToken 0, .visit 0 1, .answer 0 (.ok "root") 2,
      .visit 0 3, .visit 0 4] ?_
    decide
  have unanswered (username : Username) : ¬d.Answered request "b.example" username := by
    rintro ⟨token, _, answer, member, host, _⟩
    exact silent answer member host
  refine ⟨d, reached, request, _, found, passed, ?_, admin, ?_⟩
  · intro identified
    exact unanswered "root" (identified.users "b.example" "root" known)
  · rintro ⟨host, username, isAdmin, answered⟩
    have only : host = "b.example" := by
      unfold Dashboard.isAdmin at isAdmin
      rw [config] at isAdmin
      simp [AuthConfig.isAdmin, twoHosts] at isAdmin
      exact isAdmin.1.symm
    exact unanswered username (only ▸ answered)

/-- Two requests with the cookie of one host: the second is served from the cache. -/
theorem identity_per_host_twice : ∃ d : Dashboard (Map Token (Username × Nat)), ∃ request,
    request.visits.users.lookup "b.example" = some "root" ∧ d.Identified request := by
  obtain ⟨d, reached, request, found, known⟩ : ∃ d : Dashboard (Map Token (Username × Nat)),
      Reaches (step Cache.expiring) (· = new Cache.expiring (some twoHosts)) (sameHost Cache.expiring) d ∧
      ∃ request ∈ d.requests.lookup 1, request.visits.users.lookup "b.example" = some "root" := by
    refine Reaches.of_replay rfl [.arrive 0 .authMiddleware [("gh_token_b_example", "t")] 0, .visit 0 1, .visit 0 1,
      .answer 0 (.ok "root") 2, .visit 0 3, .arrive 1 .authStatus [("gh_token_b_example", "t")] 60, .visit 1 60,
      .visit 1 61] ?_
    decide
  exact ⟨d, request, known, (identity_per_host Cache.expiring Cache.expiring_lawful (some twoHosts) d reached 1
    request found).1⟩

end Dashboard

end RunnersMux
