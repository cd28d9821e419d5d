import RunnersMux.Dashboard.Tokens

/-! A token stays with its host, as far as the names of cookies tell hosts apart.

Every cookie of the browser was set for a host, with a token that this host has
issued. A host that looks a cookie up finds its own if no other configured host
has a cookie of that name.
-/

set_option autoImplicit false

namespace RunnersMux

open Foundations

/-- No other configured host has the cookie of a host. -/
def OwnCookie (apps : List OAuthAppConfig) (host : Host) : Prop :=
  ∀ app ∈ apps, cookieNameForHost app.host = cookieNameForHost host → app.host = host

instance (apps : List OAuthAppConfig) (host : Host) : Decidable (OwnCookie apps host) :=
  inferInstanceAs (Decidable (∀ app ∈ apps, _))

def HasApp (apps : List OAuthAppConfig) (host : Host) : Prop := ∃ app ∈ apps, app.host = host

namespace Browsing

variable {Store : Type} {cache : Cache Store Token Username}

/-- The hosts for which an action sets or deletes a cookie, or has one looked up for a registration. -/
def named (s : Browsing Store) : BrowsingAction → List Host
  | .exchangeToken (some (_, host)) (.decoded _ _) => [host]
  | .logout host => if host = "" then [] else [host]
  | .handle id call =>
      match s.dashboard.requests.lookup id with
      | some request =>
          match request.phase with
          | .next users =>
              match (s.dashboard.registrationURL request users call).map parseRepoURL with
              | some (.ok repoInfo) => [repoInfo.host]
              | _ => []
          | _ => []
      | none => []
  | _ => []

/-- The token that an action brings. -/
def issued : BrowsingAction → Option Token
  | .exchangeToken _ (.decoded accessToken _) => some accessToken
  | _ => none

/-- The action confuses no configured host with another one, and its token fits into a cookie. -/
def Apart (s : Browsing Store) (action : BrowsingAction) : Prop :=
  (∀ host ∈ s.named action, OwnCookie s.dashboard.apps host) ∧
    ∀ token ∈ issued action, sanitizeCookieValue token = token

instance (s : Browsing Store) (action : BrowsingAction) : Decidable (s.Apart action) :=
  inferInstanceAs (Decidable ((∀ host ∈ s.named action, _) ∧ ∀ token ∈ issued action, _))

/-- A cookie that was set for a configured host, with a token of that host. -/
def Owned (apps : List OAuthAppConfig) (obtained : List (Host × Token)) (cookie : String × String) : Prop :=
  ∃ host, HasApp apps host ∧ OwnCookie apps host ∧ cookie.1 = cookieNameForHost host ∧ (host, cookie.2) ∈ obtained

/-- The hosts that a request has to do with are configured ones. -/
structure Listed (apps : List OAuthAppConfig) (request : Request) : Prop where
  users : ∀ host username, request.visits.users.lookup host = some username → HasApp apps host
  visiting : ∀ todo, request.phase = .visiting todo → todo ⊆ apps
  asking : ∀ app token todo, request.phase = .asking app token todo → app ∈ apps ∧ todo ⊆ apps
  next : ∀ users, request.phase = .next (some users) → ∀ host username, users.lookup host = some username →
    HasApp apps host

structure Traced (s : Browsing Store) : Prop where
  jar : ∀ name value, s.jar.lookup name = some value → Owned s.dashboard.apps s.obtained (name, value)
  cookies : ∀ id request, s.dashboard.requests.lookup id = some request →
    ∀ cookie ∈ request.cookies, Owned s.dashboard.apps s.obtained cookie
  listed : ∀ id request, s.dashboard.requests.lookup id = some request → Listed s.dashboard.apps request
  sent : ∀ send ∈ s.sent, send ∈ s.obtained

variable {apps : List OAuthAppConfig} {obtained : List (Host × Token)} {request : Request} {host : Host} {token : Token}

theorem Owned.mono {cookie : String × String} {more : List (Host × Token)} (owned : Owned apps obtained cookie)
    (subset : obtained ⊆ more) : Owned apps more cookie := by
  obtain ⟨host, configured, own, name, member⟩ := owned
  exact ⟨host, configured, own, name, subset member⟩

/-- The token that is found for a host is its own, if the host is configured or has its own cookie. -/
theorem token_obtained (owned : ∀ cookie ∈ request.cookies, Owned apps obtained cookie)
    (known : HasApp apps host ∨ OwnCookie apps host) (found : request.token host = some token) :
    (host, token) ∈ obtained := by
  unfold Request.token Request.cookie at found
  obtain ⟨value, _⟩ := Option.filter_eq_some_iff.mp found
  obtain ⟨cookie, first, rfl⟩ := Option.map_eq_some_iff.mp value
  have name : cookie.1 = cookieNameForHost host := by simpa using List.find?_some first
  obtain ⟨other, ⟨app, member, rfl⟩, own, same, issued⟩ := owned cookie (List.mem_of_find?_eq_some first)
  have cookies : cookieNameForHost app.host = cookieNameForHost host := same.symm.trans name
  have equal : app.host = host := by
    rcases known with ⟨other, configured, rfl⟩ | alone
    · exact (own other configured cookies.symm).symm
    · exact alone app member cookies
  rw [← equal]
  exact issued

theorem getOAuthToken_obtained (owned : ∀ cookie ∈ request.cookies, Owned apps obtained cookie)
    (known : HasApp apps host ∨ OwnCookie apps host) (found : request.getOAuthTokenForHost host = .ok token) :
    (host, token) ∈ obtained := by
  unfold Request.getOAuthTokenForHost at found
  split at found
  · cases found
  · next other mine =>
      cases found
      exact token_obtained owned known mine

/-- The host that is asked whether somebody is an admin has said who it is, and gets its own token. -/
theorem checkCanManage_asks {d : Dashboard Store} {users : Option (Map Host Username)} {url : String}
    {repoInfo : RepoInfo} {username : Username} (asks : d.checkCanManage request users url = .ask repoInfo username token) :
    ∃ others, users = some others ∧ others.lookup repoInfo.host = some username ∧
      request.getOAuthTokenForHost repoInfo.host = .ok token := by
  unfold Dashboard.checkCanManage at asks
  split at asks
  · cases asks
  · next others =>
      split at asks
      · cases asks
      · split at asks
        · cases asks
        · split at asks
          · cases asks
          · next known =>
              split at asks
              · cases asks
              · next found =>
                  cases asks
                  exact ⟨others, rfl, known, found⟩

/-- Who has an admin's rights checked has been identified by the host, which gets its own token. -/
theorem check_obtained {d : Dashboard Store} {users : Option (Map Host Username)} {url : String}
    (owned : ∀ cookie ∈ request.cookies, Owned d.apps obtained cookie) (listed : Listed d.apps request)
    (phase : request.phase = .next users) : ∀ send ∈ (d.checkCanManage request users url).sends, send ∈ obtained := by
  intro send check
  cases permission : d.checkCanManage request users url with
  | decided allowed =>
      rw [permission] at check
      cases check
  | ask repoInfo username oauthToken =>
      rw [permission] at check
      obtain rfl := List.mem_singleton.mp check
      obtain ⟨others, context, known, found⟩ := checkCanManage_asks permission
      exact getOAuthToken_obtained owned (.inl (listed.next others (context ▸ phase) _ _ known)) found

/-- A registration is asked for with the token of its host, if that has its own cookie. -/
theorem registration_obtained {url : String} (owned : ∀ cookie ∈ request.cookies, Owned apps obtained cookie)
    (apart : ∀ repoInfo, parseRepoURL url = .ok repoInfo → OwnCookie apps repoInfo.host) :
    ∀ send ∈ registers (request.generateRegToken url), send ∈ obtained := by
  intro send registration
  unfold Request.generateRegToken at registration
  cases parsed : parseRepoURL url with
  | error err =>
      rw [parsed] at registration
      cases registration
  | ok repoInfo =>
      rw [parsed] at registration
      dsimp only at registration
      cases found : request.getOAuthTokenForHost repoInfo.host with
      | error err =>
          rw [found] at registration
          cases registration
      | ok oauthToken =>
          rw [found] at registration
          obtain rfl := List.mem_singleton.mp registration
          exact getOAuthToken_obtained owned (.inr (apart repoInfo parsed)) found

/-- What a handler sends was obtained from the same host, if the host of a registration has its own cookie. -/
theorem sends_obtained {d : Dashboard Store} {users : Option (Map Host Username)} {call : HandlerCall}
    (owned : ∀ cookie ∈ request.cookies, Owned d.apps obtained cookie) (listed : Listed d.apps request)
    (phase : request.phase = .next users)
    (apart : ∀ url ∈ d.registrationURL request users call, ∀ repoInfo, parseRepoURL url = .ok repoInfo →
      OwnCookie d.apps repoInfo.host) :
    ∀ send ∈ d.sends request users call, send ∈ obtained := by
  intro send member
  rcases List.mem_append.mp member with front | registration
  · rcases List.mem_append.mp front with listing | check
    · -- The repositories are listed at configured hosts.
      obtain ⟨host, lists, some_⟩ := List.mem_filterMap.mp listing
      obtain ⟨token, found, rfl⟩ := Option.map_eq_some_iff.mp some_
      cases call with
      | listGitHubRepos =>
          obtain ⟨app, configured, rfl⟩ := List.mem_map.mp lists
          exact token_obtained owned (.inl ⟨app, configured, rfl⟩) found
      | _ => cases lists
    · cases managed : call.managed with
      | none => simp [managed] at check
      | some url =>
          rw [managed, Option.elim_some] at check
          exact check_obtained owned listed phase send check
  · cases wants : d.registrationURL request users call with
    | none => simp [wants] at registration
    | some url =>
        rw [wants, Option.elim_some] at registration
        exact registration_obtained owned (apart url wants) send registration

/-- A request that goes on to its next host. -/
theorem Listed.go {todo : List OAuthAppConfig} (phase : request.phase = .visiting todo) (rest : todo ⊆ apps)
    (users : ∀ host username, request.visits.users.lookup host = some username → HasApp apps host) :
    Listed apps request := by
  constructor
  · exact users
  · intro other visiting
    rw [phase] at visiting
    cases visiting
    exact rest
  · intro app token other asking
    cases phase.symm.trans asking
  · intro others next
    cases phase.symm.trans next

theorem finish_cases (request : Request) : Dashboard.finish request = .next (some request.visits.users) ∨
    Dashboard.finish request = .unauthorized ∨ Dashboard.finish request = .reported := by
  unfold Dashboard.finish
  split
  · split <;> simp
  · simp

/-- A request that has come to its end with the users that it has gathered. -/
theorem Listed.finish (listed : Listed apps request) :
    Listed apps { request with phase := Dashboard.finish request } := by
  rcases finish_cases request with ended | ended | ended <;> rw [ended]
  · refine ⟨listed.users, by simp, by simp, fun users next => ?_⟩
    cases next
    exact listed.users
  · exact ⟨listed.users, by simp, by simp, by simp⟩
  · exact ⟨listed.users, by simp, by simp, by simp⟩

/-- The phase in which a request arrives. -/
theorem Listed.enter (d : Dashboard Store) (handler : Handler) (cookies : List (String × String)) (now : Nat) :
    Listed d.apps ⟨handler, cookies, now, .none, d.enter handler⟩ := by
  constructor
  · intro host username found
    cases found
  · intro todo visiting
    simp only [Dashboard.enter] at visiting
    split at visiting
    · split at visiting <;> cases visiting
    · cases visiting
      exact List.Subset.refl _
  · intro app token todo asking
    simp only [Dashboard.enter] at asking
    split at asking
    · split at asking <;> cases asking
    · cases asking
  · intro users next
    simp only [Dashboard.enter] at next
    split at next
    · split at next <;> cases next
    · cases next

/-- One more host: the request goes on to the next one, or asks this one with its own token. -/
theorem visit_listed (cache : Cache Store Token Username) {d : Dashboard Store} (now : Nat) {app : OAuthAppConfig} {rest : List OAuthAppConfig}
    (owned : ∀ cookie ∈ request.cookies, Owned d.apps obtained cookie) (listed : Listed d.apps request)
    (head : request.phase = .visiting (app :: rest)) :
    (∀ cookie ∈ (d.visit cache request now app rest).cookies, Owned d.apps obtained cookie) ∧
      Listed d.apps (d.visit cache request now app rest) ∧
        ∀ asked token todo, (d.visit cache request now app rest).phase = .asking asked token todo →
          (asked.host, token) ∈ obtained := by
  have subset := listed.visiting _ head
  have configured : app ∈ d.apps := subset List.mem_cons_self
  have further : rest ⊆ d.apps := fun other member => subset (List.mem_cons_of_mem _ member)
  simp only [Dashboard.visit]
  split
  · exact ⟨owned, .go rfl further listed.users, by simp⟩
  · next token mine =>
      split
      · refine ⟨owned, .go rfl further ?_, by simp⟩
        exact Map.forall_insert listed.users ⟨app, configured, rfl⟩
      · refine ⟨owned, ⟨listed.users, by simp, ?_, by simp⟩, ?_⟩
        · intro asked other todo phase
          cases phase
          exact ⟨configured, further⟩
        · intro asked other todo phase
          cases phase
          exact token_obtained owned (.inl ⟨app, configured, rfl⟩) mine

/-- One step of `AuthMiddleware` or `authStatus`, and what it asks. -/
theorem serves_traced {s : Browsing Store} {action : DashboardAction} {after : Dashboard Store} (traced : s.Traced)
    (carries : ∀ cookies ∈ carried action, Carries s.jar cookies) (serves : Dashboard.Serves cache s.dashboard action after) :
    after.apps = s.dashboard.apps ∧
      (∀ id request, after.requests.lookup id = some request →
        (∀ cookie ∈ request.cookies, Owned s.dashboard.apps s.obtained cookie) ∧ Listed s.dashboard.apps request) ∧
      ∀ send ∈ asks after action, send ∈ s.obtained := by
  have others (id : RequestID) (request : Request) (found : s.dashboard.requests.lookup id = some request) :=
    And.intro (traced.cookies id request found) (traced.listed id request found)
  cases serves with
  | @arrive id handler cookies now fresh later =>
      refine ⟨rfl, Dashboard.proceed_all _ others ⟨?_, .enter _ _ _ _⟩, by simp [asks]⟩
      intro cookie member
      exact traced.jar _ _ ((carries cookies rfl).1 cookie member)
  | @finish id now request found later done =>
      obtain ⟨owned, listed⟩ := others _ _ found
      refine ⟨rfl, Dashboard.proceed_all _ others ⟨owned, listed.finish⟩, ?_⟩
      intro send member
      simp only [asks, Dashboard.lookup_proceed, if_true] at member
      rcases finish_cases request with ended | ended | ended <;> simp [ended] at member
  | @visit id now request app rest found later head =>
      obtain ⟨owned, listed⟩ := others _ _ found
      obtain ⟨cookies, visited, asked⟩ := visit_listed cache now owned listed head
      refine ⟨rfl, Dashboard.proceed_all _ others ⟨cookies, visited⟩, ?_⟩
      intro send member
      simp only [asks, Dashboard.lookup_proceed, if_true] at member
      split at member
      · next asks token todo phase =>
          rw [List.mem_singleton.mp member]
          exact asked asks token todo phase
      · cases member
  | @refuse id now request app token rest text found later asked =>
      obtain ⟨owned, listed⟩ := others _ _ found
      exact ⟨rfl, Dashboard.proceed_all _ others ⟨owned, .go rfl (listed.asking _ _ _ asked).2 listed.users⟩, by simp [asks]⟩
  | @accept id now request app token rest username found later asked =>
      obtain ⟨owned, listed⟩ := others _ _ found
      obtain ⟨configured, further⟩ := listed.asking _ _ _ asked
      refine ⟨rfl, Dashboard.proceed_all _ others ⟨owned, .go rfl further ?_⟩, by simp [asks]⟩
      exact Map.forall_insert listed.users ⟨app, configured, rfl⟩

theorem lookup_set {jar : Jar} {name value other found : String} (kept : (jar.set name value).lookup other = some found) :
    (other = name ∧ sanitizeCookieValue value = found) ∨ jar.lookup other = some found := by
  unfold Jar.set at kept
  split at kept
  · exact (Map.lookup_of_insert kept).imp_right And.right
  · exact .inr kept

theorem lookup_delete {jar : Jar} {name other found : String} (kept : (jar.delete name).lookup other = some found) :
    jar.lookup other = some found := by
  unfold Jar.delete at kept
  split at kept
  · exact Map.lookup_of_erase kept
  · exact kept

/-- A logout sets no cookie. -/
theorem lookup_logout {jar : Jar} {name found : String} (kept : (logout apps jar host).lookup name = some found) :
    jar.lookup name = some found := by
  have deletes (apps : List OAuthAppConfig) (jar : Jar)
      (kept : (apps.foldl (fun jar app => jar.delete (cookieNameForHost app.host)) jar).lookup name = some found) :
      jar.lookup name = some found := by
    induction apps generalizing jar with
    | nil => exact kept
    | cons app rest ih => exact lookup_delete (ih _ kept)
  unfold logout at kept
  split at kept
  · exact kept
  · split at kept
    · exact lookup_delete kept
    · exact deletes apps jar kept

/-- A token is issued for a configured host. -/
theorem exchangeToken_issues {cfg : AuthConfig} {payload : Option (String × Host)} {answer : TokenAnswer}
    (issues : (exchangeToken cfg payload answer).2 = some (host, token)) :
    (∃ code error, payload = some (code, host) ∧ answer = .decoded token error) ∧ HasApp cfg.oauthApps host := by
  unfold exchangeToken at issues
  split at issues
  · cases issues
  · next code asked =>
      split at issues
      · cases issues
      · split at issues
        · cases issues
        · next app found =>
            split at issues
            · cases issues
            · cases issues
            · cases issues
            · next error =>
                split at issues
                · cases issues
                · split at issues
                  · cases issues
                  · cases issues
                    have named : app.host = host := by simpa using List.find?_some found
                    exact ⟨⟨code, error, rfl, rfl⟩, app, List.mem_of_find?_eq_some found, named⟩

/-- A token that was issued for a host becomes the cookie of that host. -/
theorem Traced.issue {s : Browsing Store} (traced : s.Traced) (configured : HasApp s.dashboard.apps host)
    (own : OwnCookie s.dashboard.apps host) (fits : sanitizeCookieValue token = token) :
    Traced { s with jar := s.jar.set (cookieNameForHost host) token, obtained := (host, token) :: s.obtained } := by
  obtain ⟨jar, cookies, listed, sent⟩ := traced
  have more : s.obtained ⊆ (host, token) :: s.obtained := List.subset_cons_self _ _
  constructor
  · intro name value found
    rcases lookup_set found with ⟨rfl, rfl⟩ | old
    · exact ⟨host, configured, own, rfl, by rw [fits]; exact List.mem_cons_self⟩
    · exact (jar name value old).mono more
  · exact fun id request found cookie member => (cookies id request found cookie member).mono more
  · exact listed
  · exact fun send member => more (sent send member)

theorem traced_step {s after : Browsing Store} {action : BrowsingAction} (traced : s.Traced) (apart : s.Apart action)
    (taken : s.step cache action = some after) : after.Traced := by
  obtain ⟨jar, cookies, listed, sent⟩ := traced
  cases action with
  | exchangeToken payload answer =>
      simp only [step] at taken
      split at taken
      · cases taken
        exact ⟨jar, cookies, listed, sent⟩
      · next cfg config =>
          split at taken
          · cases taken
            exact ⟨jar, cookies, listed, sent⟩
          · next host token issues =>
              cases taken
              obtain ⟨⟨code, error, rfl, rfl⟩, configured⟩ := exchangeToken_issues issues
              have apps : s.dashboard.apps = cfg.oauthApps := by simp [Dashboard.apps, config]
              have own : OwnCookie s.dashboard.apps host := apart.1 host (List.mem_singleton_self host)
              have fits : sanitizeCookieValue token = token := apart.2 token rfl
              exact Traced.issue ⟨jar, cookies, listed, sent⟩ (apps ▸ configured) own fits
  | logout host =>
      cases taken
      exact ⟨fun name value found => jar name value (lookup_logout found), cookies, listed, sent⟩
  | expire name =>
      cases taken
      exact ⟨fun name value found => jar name value (Map.lookup_of_erase found), cookies, listed, sent⟩
  | serve action =>
      simp only [step] at taken
      split at taken
      · next carries =>
          obtain ⟨dashboard, served, rfl⟩ := Option.map_eq_some_iff.mp taken
          obtain ⟨apps, requests, asked⟩ := serves_traced ⟨jar, cookies, listed, sent⟩ carries (Dashboard.step_serves cache served)
          constructor
          · rw [apps]
            exact jar
          · rw [apps]
            exact fun id request found => (requests id request found).1
          · rw [apps]
            exact fun id request found => (requests id request found).2
          · intro send member
            exact (List.mem_append.mp member).elim (asked send) (sent send)
      · cases taken
  | handle id call =>
      simp only [step] at taken
      split at taken
      · next request found =>
          split at taken
          · next users phase =>
              cases taken
              constructor
              · exact jar
              · exact fun id request found => cookies id request (Map.lookup_of_erase found)
              · exact fun id request found => listed id request (Map.lookup_of_erase found)
              · intro send member
                rcases List.mem_append.mp member with new | old
                · apply sends_obtained (cookies id request found) (listed id request found) phase ?_ send new
                  intro url wants repoInfo parsed
                  apply apart.1
                  simp [named, found, phase, Option.mem_def.mp wants, parsed]
                · exact sent send old
          · cases taken
      · cases taken

theorem new_traced (cache : Cache Store Token Username) (authCfg : AuthConfig) : (new cache authCfg).Traced := by
  constructor
  · intro name value found
    cases found
  · intro id request found
    cases found
  · intro id request found
    cases found
  · intro send member
    cases member

theorem login_delete {s : Browsing Store} {host other : Host} (apart : cookieNameForHost other ≠ cookieNameForHost host) :
    ({ s with jar := s.jar.delete (cookieNameForHost host) } : Browsing Store).login other = s.login other := by
  simp only [login, Jar.delete]
  split
  · rw [Map.lookup_erase_if, if_neg apart]
  · rfl

/-- If every host that is logged in to or out of, or has a registration looked up, has a cookie name
of its own, every token that is sent to a host was obtained from it, and a logout of one host leaves
the others logged in. -/
theorem tokens_confined (cache : Cache Store Token Username) (authCfg : AuthConfig) (s : Browsing Store)
    (reached : Reaches (step cache) (· = new cache authCfg) Apart s) :
    (∀ send ∈ s.sent, send ∈ s.obtained) ∧
      ∀ host after, host ≠ "" → s.Apart (.logout host) → s.step cache (.logout host) = some after →
        ∀ app ∈ s.dashboard.apps, app.host ≠ host → after.login app.host = s.login app.host := by
  constructor
  · have traced : s.Traced := by
      apply reached.invariant
      · intro initial start
        subst start
        exact new_traced cache authCfg
      · intro earlier action later _ traced apart taken
        exact traced_step traced apart taken
    exact traced.sent
  · intro host after some apart taken app configured other
    cases taken
    have own : OwnCookie s.dashboard.apps host := apart.1 host (by simp [named, some])
    have names : cookieNameForHost app.host ≠ cookieNameForHost host := fun same => other (own app configured same)
    have many : s.dashboard.apps ≠ [] := List.ne_nil_of_mem configured
    simp only [logout, if_neg many, if_pos some]
    exact login_delete names

/-- Two hosts whose names differ in a dot. -/
def lookalikes : AuthConfig where
  oauthApps := [⟨"my_ghe.local"⟩, ⟨"my.ghe.local"⟩]
  admins := []

/-- The token of one host is sent to the other, and a logout there ends the login on the first. -/
theorem tokens_stray : (lookalikes.oauthApps.map (·.host)).Nodup ∧ ∃ s : Browsing (Map Token (Username × Nat)),
    Reaches (step Cache.expiring) (· = new Cache.expiring lookalikes) everyStep s ∧
      (∃ send ∈ s.sent, send ∉ s.obtained) ∧
        ∃ after ∈ s.step Cache.expiring (.logout "my_ghe.local"),
          s.login "my.ghe.local" = some "t" ∧ after.login "my.ghe.local" = none := by
  refine ⟨by decide, ?_⟩
  refine Reaches.of_replay rfl [.exchangeToken (some ("code", "my.ghe.local")) (.decoded "t" ""),
    .serve (.arrive 0 .authStatus [("gh_token_my_ghe_local", "t")] 0), .serve (.visit 0 1)] ?_
  decide +kernel

/-- A host of its own, and one without a dot. -/
def twoLogins : AuthConfig where
  oauthApps := [⟨"github.com"⟩, ⟨"ghe"⟩]
  admins := []

/-- Somebody logged in to both hosts creates a runner, which sends the token of its host. A logout of
one host leaves the other login. -/
theorem tokens_confined_registration : ∃ s : Browsing (Map Token (Username × Nat)),
    ("github.com", "t") ∈ s.sent ∧ (∀ send ∈ s.sent, send ∈ s.obtained) ∧
      ∃ after ∈ s.step Cache.expiring (.logout "ghe"), after.login "github.com" = s.login "github.com" ∧
        s.login "github.com" = some "t" ∧ after.login "ghe" = none := by
  obtain ⟨s, reached, sent, apps, apart, loggedIn, out⟩ : ∃ s : Browsing (Map Token (Username × Nat)),
      Reaches (step Cache.expiring) (· = new Cache.expiring twoLogins) Apart s ∧ ("github.com", "t") ∈ s.sent ∧
        ⟨"github.com"⟩ ∈ s.dashboard.apps ∧ s.Apart (.logout "ghe") ∧ s.login "github.com" = some "t" ∧
          ∃ after ∈ s.step Cache.expiring (.logout "ghe"), after.login "ghe" = none := by
    refine Reaches.of_replay rfl [.exchangeToken (some ("code", "github.com")) (.decoded "t" ""),
      .exchangeToken (some ("code", "ghe")) (.decoded "u" ""),
      .serve (.arrive 0 .authMiddleware [("gh_token_ghe", "u"), ("gh_token_github_com", "t")] 0), .serve (.visit 0 1),
      .serve (.answer 0 (.ok "me") 2), .serve (.visit 0 3), .serve (.answer 0 (.ok "me") 4), .serve (.visit 0 5),
      .handle 0 (.createRunner "a" "standalone" "https://github.com/o/r")] ?_
    decide +kernel
  obtain ⟨after, taken, gone⟩ := out
  obtain ⟨confined, others⟩ := tokens_confined Cache.expiring twoLogins s reached
  exact ⟨s, sent, confined, after, taken, others "ghe" after (by decide) apart taken ⟨"github.com"⟩ apps (by decide),
    loggedIn, gone⟩

end Browsing

end RunnersMux
