import RunnersMux.GitHub.Access
import RunnersMux.Web.Configuring

/-! From the list of the picker to the runners that are added with it.

The page sends the URL of an entry and nothing else of it. Everything that the
server does for a runner starts from that URL again, when it is created and
whenever it is looked after.
-/

set_option autoImplicit false

namespace RunnersMux.Web

open Foundations

/-- An entry of the list as it arrives at the page. -/
def scopeOf (repo : RunnersMux.AdminRepo) : Scope :=
  ⟨⟨Text.of repo.owner, Text.of repo.repo⟩, Text.of repo.host, Text.of repo.url, Text.of repo.kind⟩

/-- The scopes of the list of a client. -/
def Picked (apps : List OAuthAppConfig) (request : Request) (github : Host → Token → GitHubAPI) (r : Scope) : Prop :=
  r ∈ (listGitHubRepos apps request github).map scopeOf

instance (apps : List OAuthAppConfig) (request : Request) (github : Host → Token → GitHubAPI) :
    DecidablePred (Picked apps request github) :=
  fun r => inferInstanceAs (Decidable (r ∈ List.map _ _))

/-- What a client can do with a URL that the page sends for an entry of the list. -/
structure Usable {Store : Type} (d : Dashboard Store) (requester : Requester) (github : Host → Token → GitHubAPI)
    (repo : RunnersMux.AdminRepo) (url : String) : Prop where
  url_eq : url = repo.url
  managed : d.canManage (accessAnswer github) requester url = true
  token : ∃ token, requester.request.token repo.host = some token ∧
    requester.request.generateRegToken url = .ok (⟨repo.host, repo.owner, repo.repo⟩, token)

section
variable {Store : Type} {apps : List OAuthAppConfig} {request : Request} {users : Map Host Username}
  {github : Host → Token → GitHubAPI}

/-- On the page as well, a URL stands for one scope. -/
theorem key_picked (acquainted : Acquainted apps request users github) {r s : Scope}
    (one : Picked apps request github r) (other : Picked apps request github s) (same : r.url = s.url) :
    repoKey r = repoKey s := by
  obtain ⟨repo, listed, rfl⟩ := List.mem_map.mp one
  obtain ⟨further, also, rfl⟩ := List.mem_map.mp other
  have urls : repo.url = further.url := by
    have texts : received (Text.of repo.url) = received (Text.of further.url) := congrArg received same
    simpa only [received_of] using texts
  obtain ⟨hosts, owners, repos⟩ := url_listed acquainted listed also urls
  simp [repoKey, scopeOf, hosts, owners, repos]

theorem usable_picked (d : Dashboard Store) (acquainted : Acquainted d.apps request users github)
    {repo : RunnersMux.AdminRepo} (listed : repo ∈ listGitHubRepos d.apps request github) :
    Usable d ⟨request, some users⟩ github repo (received (scopeOf repo).url) := by
  have same : received (scopeOf repo).url = repo.url := received_of repo.url
  rw [same]
  obtain ⟨managed, token⟩ := managed_listed d acquainted listed
  exact ⟨rfl, managed, token⟩

end

namespace AddRunner

/-- Runners that are added with the picker are asked for once each. Their URLs lead the server back to
the entries that were picked, which it lets the user manage and has a registration token made for. -/
theorem submits_managed {Store : Type} (d : Dashboard Store) (request : Request) (users : Map Host Username)
    (github : Host → Token → GitHubAPI) (acquainted : Acquainted d.apps request users github) (browser : Browser)
    (page : AddRunner) (reached : Reaches (step browser) (· = initial) (Answers (Picked d.apps request github)) page)
    (enabled : page.enabled = true) (draws : Nat → List (Fin 36)) (requests : List AddRunnerPayload)
    (submits : (page.handleSubmit browser draws).requests = some requests) :
    (requests.map (·.url)).Nodup ∧ ∀ q ∈ requests, ∃ repo ∈ listGitHubRepos d.apps request github,
      Usable d ⟨request, some users⟩ github repo (received q.url) ∧ ∀ group ∈ q.runnerGroup, repo.repo = "" := by
  have sound := reached_sound reached
  obtain ⟨mode, _, asks⟩ := submits_lacking sound enabled submits
  constructor
  · rw [urls_asked asks]
    exact lacking_urls sound (fun r s one other same => key_picked acquainted one other same) mode
  · intro q asked
    obtain ⟨r, own⟩ := asks_some asks asked
    obtain ⟨repo, listed, rfl⟩ := List.mem_map.mp own.known
    refine ⟨repo, listed, ?_, ?_⟩
    · rw [own.url_eq]
      exact usable_picked d acquainted listed
    · intro group given
      -- The page looks at the text of the repository, the server at the string behind it.
      have none_ : received (Text.of repo.repo) = received [] := congrArg received (own.group group given).2
      rw [received_of] at none_
      exact none_

/-- An admin of an organisation picks the organisation and its one repository. -/
theorem submits_managed_both : ∃ (page : AddRunner) (requests : List AddRunnerPayload) (d : Dashboard Unit)
    (requester : Requester) (github : Host → Token → GitHubAPI) (repo : RunnersMux.AdminRepo) (q : AddRunnerPayload),
    page.selectedRepos.length = 2 ∧ requests.length = 2 ∧ (requests.map (·.url)).Nodup ∧ q ∈ requests ∧
      Usable d requester github repo (received q.url) := by
  let member : Membership := ⟨"admin", "acme"⟩
  let tool : Repository := ⟨"acme", "tool", "https://h/acme/tool", some true⟩
  let client : GitHubAPI := ⟨⟨fun _ => .ok [member], fun _ => [.ok tool]⟩,
    fun owner repo => if owner = "acme" ∧ repo = "tool" then .ok tool else .error "404 Not Found",
    fun _ org => if org = "acme" then .ok member else .error "404 Not Found"⟩
  let github : Host → Token → GitHubAPI := fun _ _ => client
  let d : Dashboard Unit := ⟨some ⟨[⟨"h"⟩], []⟩, (), 0, [], ∅⟩
  let users : Map Host Username := (∅ : Map Host Username).insert "h" "u"
  let request : Request := ⟨.authMiddleware, [("gh_token_h", "t")], 0, .none, .next (some users)⟩
  have part {text : String} (some_ : text ≠ "")
      (plain : text.toList.all (fun char => char ≠ '/' && !isSpace char) = true) : AddressPart text := by
    have chars : ∀ char ∈ text.toList, char ≠ '/' ∧ isSpace char = false := by simpa using plain
    exact ⟨some_, fun slash => (chars '/' slash).1 rfl, fun char member => (chars char member).2⟩
  have acme : AddressPart "acme" := part (by decide) rfl
  have below : AddressPart "tool" := part (by decide) rfl
  have agrees : Agrees "h" "u" client := by
    constructor
    · intro options memberships answered m own
      cases answered
      rw [List.mem_singleton.mp own]
      exact ⟨acme, member, rfl, rfl⟩
    · intro perPage repo own
      rw [Except.ok.inj (List.mem_singleton.mp own)]
      exact ⟨acme, below, by decide, tool, rfl, rfl⟩
  have acquainted : Acquainted d.apps request users github := by
    constructor
    · intro app configured
      rw [List.mem_singleton.mp configured]
      exact part (by decide) rfl
    · intro app configured token mine
      rw [List.mem_singleton.mp configured]
      exact ⟨"u", by decide, agrees⟩
  let browser : Browser := ⟨default, fun _ => none⟩
  obtain ⟨page, reached, enabled, both, two⟩ : ∃ page,
      Reaches (step browser) (· = initial) (Answers (Picked d.apps request github)) page ∧ page.enabled = true ∧
      page.selectedRepos.length = 2 ∧ (page.handleSubmit browser fun _ => []).requests.map List.length = some 2 := by
    let scopes := (listGitHubRepos d.apps request github).map scopeOf
    refine Reaches.of_replay rfl ([.openDialog (some scopes)] ++
      scopes.map (fun r => .select (.toggleLeft (repoKey r))) ++ [.select .moveRight, .confirm]) ?_
    decide +kernel
  obtain ⟨requests, submits, length⟩ := Option.map_eq_some_iff.mp two
  obtain ⟨distinct, usable⟩ := submits_managed d request users github acquainted browser page reached enabled _
    requests submits
  obtain ⟨q, asked⟩ := List.exists_mem_of_length_pos (length.symm ▸ Nat.two_pos)
  obtain ⟨repo, _, own, _⟩ := usable q asked
  exact ⟨page, requests, d, ⟨request, some users⟩, github, repo, q, both, length, distinct, asked, own⟩

end AddRunner

end RunnersMux.Web
