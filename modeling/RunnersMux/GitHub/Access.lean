import RunnersMux.Dashboard.Managing
import RunnersMux.GitHub.Listing

/-! The picker and the permission, which ask the same host in different ways.

`listGitHubRepos` lists what a user administers, each entry with a URL.
`checkCanManage` starts from the URL of a runner. In between lie the parser of
URLs and the names that GitHub gives out.
-/

set_option autoImplicit false

namespace RunnersMux

open Foundations

/-- The calls of `ListAdminRepos` and those of `CheckAdminAccess`. -/
structure GitHubAPI extends GitHubClient where
  getRepository : (owner repo : String) → Except String Repository
  getOrgMembership : (username : Username) → (org : String) → Except String Membership

def checkAdminAccess (client : GitHubAPI) (owner repo : String) (username : Username) : Except String Bool :=
  if repo ≠ "" then
    match client.getRepository owner repo with
    | .error err => .error ("failed to get repository: " ++ err)
    | .ok repository => .ok (repository.permissions.getD false)
  else
    match client.getOrgMembership username owner with
    | .error err => .error ("failed to get org membership: " ++ err)
    | .ok membership => .ok (membership.role = "admin")

/-- The loop over the configured hosts. A host without a cookie, or that fails, is skipped. -/
def listGitHubRepos (apps : List OAuthAppConfig) (request : Request) (github : Host → Token → GitHubAPI) :
    List AdminRepo :=
  apps.flatMap fun app =>
    match request.token app.host with
    | none => []
    | some token => (listAdminRepos (github app.host token).toGitHubClient app.host).toOption.getD []

/-- The answers of the hosts to `checkCanManage`. -/
def accessAnswer (github : Host → Token → GitHubAPI) (repoInfo : RepoInfo) (username : Username) (oauthToken : Token) :
    Except String Bool :=
  checkAdminAccess (github repoInfo.host oauthToken) repoInfo.owner repoInfo.repo username

/-- A part of an address: neither empty, nor with slashes or white space in it. -/
structure AddressPart (part : String) : Prop where
  nonempty : part ≠ ""
  slashless : '/' ∉ part.toList
  spaceless : ∀ char ∈ part.toList, isSpace char = false

/-- The page of an organisation, or of a repository. -/
def address (host owner repo : String) : String :=
  "https://" ++ host ++ "/" ++ owner ++ (if repo = "" then "" else "/" ++ repo)

/-- What GitHub documents about the answers to the token of a user: lists and single entries agree, a page has
the address of what it shows, and names are parts of addresses. -/
structure Agrees (host : Host) (username : Username) (client : GitHubAPI) : Prop where
  membership : ∀ options memberships, client.listOrgMemberships options = .ok memberships → ∀ m ∈ memberships,
    AddressPart m.organization ∧
      ∃ same, client.getOrgMembership username m.organization = .ok same ∧ same.role = m.role
  repository : ∀ perPage repo, .ok repo ∈ client.listByAuthenticatedUserIter perPage →
    AddressPart repo.owner ∧ AddressPart repo.name ∧ repo.htmlURL = address host repo.owner repo.name ∧
      ∃ same, client.getRepository repo.owner repo.name = .ok same ∧ same.permissions = repo.permissions

section
variable {host owner repo : String}

theorem AddressPart.chars (named : AddressPart owner) : owner.toList ≠ [] := by
  intro none_
  exact named.nonempty (String.toList_injective none_)

/-- The path of an address. -/
def addressPath (owner repo : String) : List Char := owner.toList ++ if repo = "" then [] else '/' :: repo.toList

theorem toList_address : (address host owner repo).toList =
    "https://".toList ++ (host.toList ++ '/' :: addressPath owner repo) := by
  unfold address addressPath
  split <;> simp

/-- A path ends in a character of a name. -/
theorem last_addressPath (named : AddressPart owner) (below : repo = "" ∨ AddressPart repo) :
    ∃ last, (addressPath owner repo).getLast? = some last ∧ last ≠ '/' ∧ isSpace last = false := by
  have ends {part : String} (own : AddressPart part) :
      ∃ last, part.toList.getLast? = some last ∧ last ≠ '/' ∧ isSpace last = false := by
    have member := List.getLast_mem own.chars
    refine ⟨_, List.getLast?_eq_getLast_of_ne_nil own.chars, ?_, own.spaceless _ member⟩
    intro slash
    rw [slash] at member
    exact own.slashless member
  unfold addressPath
  rcases below with none_ | some_
  · simpa [none_] using ends named
  · obtain ⟨last, found, plain⟩ := ends some_
    refine ⟨last, ?_, plain⟩
    simp [some_.nonempty, List.getLast?_append, List.getLast?_cons, found]

theorem splitOn_addressPath (named : AddressPart owner) (below : repo = "" ∨ AddressPart repo) :
    (addressPath owner repo).splitOn '/' = owner.toList :: if repo = "" then [] else [repo.toList] := by
  unfold addressPath
  rcases below with none_ | some_
  · simp [none_, List.splitOn_eq_singleton named.slashless]
  · rw [if_neg some_.nonempty, if_neg some_.nonempty, List.splitOn_append_cons_self_of_not_mem named.slashless,
      List.splitOn_eq_singleton some_.slashless]

/-- Nothing of an address is trimmed. -/
theorem toList_trimmedURL_address (named : AddressPart owner) (below : repo = "" ∨ AddressPart repo) :
    (trimmedURL (address host owner repo)).toList = (address host owner repo).toList := by
  obtain ⟨last, found, slash, space⟩ := last_addressPath named below
  have ends : (address host owner repo).toList.getLast? = some last := by
    rw [toList_address]
    simp [List.getLast?_append, List.getLast?_cons, found]
  have kept {p : Char → Bool} (stays : p last = false) :
      (address host owner repo).toList.rdropWhile p = (address host owner repo).toList := by
    rw [List.rdropWhile_eq_self_iff]
    intro some_
    rw [List.getLast?_eq_getLast_of_ne_nil some_] at ends
    simp [Option.some.inj ends, stays]
  have front : (address host owner repo).toList.dropWhile isSpace = (address host owner repo).toList := by
    rw [toList_address]
    rfl
  unfold trimmedURL
  rw [toList_trimRight, toList_trimSpace, front, kept space, kept (by simpa using slash)]

/-- A host has one slash behind it, a scheme two. -/
theorem scheme_absent (located : AddressPart host) (named : AddressPart owner) (below : repo = "" ∨ AddressPart repo) :
    ¬"http://".toList <+: host.toList ++ '/' :: addressPath owner repo := by
  rintro ⟨rest, same⟩
  -- Cut at the first slash of each, the host would be the scheme and the path would start with a slash.
  have again : "http:".toList ++ '/' :: '/' :: rest = host.toList ++ '/' :: addressPath owner repo := same
  have scheme : '/' ∉ "http:".toList := by decide
  have lengths : some "http:".toList.length = some host.toList.length := by
    rw [← idxOf_append scheme ('/' :: rest), ← idxOf_append located.slashless (addressPath owner repo), again]
  have path : '/' :: rest = addressPath owner repo :=
    (List.cons.inj (List.append_inj again (Option.some.inj lengths)).2).2
  have pieces := splitOn_addressPath named below
  rw [← path, List.splitOn_cons_eq_if_modifyHead] at pieces
  exact named.chars (List.cons.inj pieces).1.symm

theorem toList_strippedURL_address (located : AddressPart host) (named : AddressPart owner)
    (below : repo = "" ∨ AddressPart repo) :
    (strippedURL (address host owner repo)).toList = host.toList ++ '/' :: addressPath owner repo := by
  rw [toList_strippedURL, toList_trimmedURL_address named below, toList_address, dropPrefix_append,
    dropPrefix_absent (scheme_absent located named below)]

/-- An address leads back to what it is the address of. -/
theorem parse_address (located : AddressPart host) (named : AddressPart owner) (below : repo = "" ∨ AddressPart repo) :
    parseRepoURL (address host owner repo) = .ok ⟨host, owner, repo⟩ := by
  have whole := toList_strippedURL_address located named below
  obtain ⟨first, more, kept, _, parsed⟩ := parse_below located.chars located.slashless whole
  rw [splitOn_addressPath named below, List.dropWhile_cons_of_neg (by simpa using named.chars)] at kept
  obtain ⟨rfl, rfl⟩ := List.cons.inj kept
  rw [parsed]
  by_cases org : repo = ""
  · simp [org]
  · simp [org]

end

section
variable {client : GitHubAPI} {host : Host} {username : Username} {repo : AdminRepo} {repos : List AdminRepo}

theorem mem_appendRepos {results : List AdminRepo} {found : List (Except String Repository)}
    (lists : appendRepos host results found = .ok repos) (member : repo ∈ repos) :
    repo ∈ results ∨ ∃ repository, .ok repository ∈ found ∧ repository.adminRepo host = some repo := by
  induction found generalizing results with
  | nil =>
      cases lists
      exact .inl member
  | cons first rest ih =>
      cases first with
      | error err => cases lists
      | ok repository =>
          rcases ih lists with before | ⟨other, later, entry⟩
          · rcases List.mem_append.mp before with earlier | own
            · exact .inl earlier
            · exact .inr ⟨repository, List.mem_cons_self, by simpa using own⟩
          · exact .inr ⟨other, List.mem_cons_of_mem _ later, entry⟩

/-- An entry of the list is an organisation or a repository that the user administers. -/
theorem mem_listAdminRepos (lists : listAdminRepos client.toGitHubClient host = .ok repos) (member : repo ∈ repos) :
    (∃ memberships, client.listOrgMemberships ⟨"active", 100, 0⟩ = .ok memberships ∧
        ∃ m ∈ memberships, m.adminRepo host = some repo) ∨
      ∃ repository, .ok repository ∈ client.listByAuthenticatedUserIter 100 ∧
        repository.adminRepo host = some repo := by
  unfold listAdminRepos at lists
  split at lists
  · cases lists
  · next memberships answered =>
      rcases mem_appendRepos lists member with org | found
      · exact .inl ⟨memberships, answered, List.mem_filterMap.mp org⟩
      · exact .inr found

/-- What an entry of the picker is worth to its user. -/
structure Offers (client : GitHubAPI) (host : Host) (username : Username) (repo : AdminRepo) : Prop where
  host_eq : repo.host = host
  owner : AddressPart repo.owner
  below : repo.repo = "" ∨ AddressPart repo.repo
  url_eq : repo.url = address host repo.owner repo.repo
  access : checkAdminAccess client repo.owner repo.repo username = .ok true

theorem offers_listed (agrees : Agrees host username client)
    (lists : listAdminRepos client.toGitHubClient host = .ok repos) (member : repo ∈ repos) :
    Offers client host username repo := by
  rcases mem_listAdminRepos lists member with ⟨memberships, answered, m, own, entry⟩ | ⟨repository, own, entry⟩
  · obtain ⟨named, same, again, role⟩ := agrees.membership _ memberships answered m own
    unfold Membership.adminRepo at entry
    split at entry <;> cases entry
    next admin =>
      have admin : m.role = "admin" := not_not.mp admin
      exact ⟨rfl, named, .inl rfl, by simp [address], by simp [checkAdminAccess, again, role, admin]⟩
  · obtain ⟨named, below, located, same, again, permissions⟩ := agrees.repository _ repository own
    unfold Repository.adminRepo at entry
    split at entry <;> cases entry
    next admin =>
      refine ⟨rfl, named, .inr below, located, ?_⟩
      simp [checkAdminAccess, below.nonempty, again, permissions, admin]

/-- The parser finds what is offered. -/
theorem Offers.parsed (offers : Offers client host username repo) (located : AddressPart host) :
    parseRepoURL repo.url = .ok ⟨repo.host, repo.owner, repo.repo⟩ := by
  rw [offers.url_eq, offers.host_eq, parse_address located offers.owner offers.below]

end

/-- The hosts are parts of addresses, and `AuthMiddleware` has asked each of them that the client is
logged in to who the client is. -/
structure Acquainted (apps : List OAuthAppConfig) (request : Request) (users : Map Host Username)
    (github : Host → Token → GitHubAPI) : Prop where
  located : ∀ app ∈ apps, AddressPart app.host
  user : ∀ app ∈ apps, ∀ token, request.token app.host = some token →
    ∃ username, users.lookup app.host = some username ∧ Agrees app.host username (github app.host token)

section
variable {Store : Type} {apps : List OAuthAppConfig} {request : Request} {users : Map Host Username}
  {github : Host → Token → GitHubAPI} {repo : AdminRepo}

/-- An entry comes from the host that it names, with the client's token for that host. -/
theorem offers_listGitHubRepos (acquainted : Acquainted apps request users github)
    (listed : repo ∈ listGitHubRepos apps request github) : AddressPart repo.host ∧ ∃ token username,
      request.token repo.host = some token ∧ users.lookup repo.host = some username ∧
        Offers (github repo.host token) repo.host username repo := by
  obtain ⟨app, configured, entry⟩ := List.mem_flatMap.mp listed
  split at entry
  · cases entry
  · next token mine =>
      obtain ⟨username, known, agrees⟩ := acquainted.user app configured token mine
      cases lists : listAdminRepos (github app.host token).toGitHubClient app.host with
      -- A host that fails has no entries in the list.
      | error err => simp [lists, Except.toOption] at entry
      | ok repos =>
          have member : repo ∈ repos := by simpa [lists, Except.toOption] using entry
          have offers := offers_listed agrees lists member
          have same := offers.host_eq
          rw [same]
          exact ⟨acquainted.located app configured, token, username, mine, known, offers⟩

/-- What the picker lists, its user may manage and have runners registered for. -/
theorem managed_listed (d : Dashboard Store) (acquainted : Acquainted apps request users github)
    (listed : repo ∈ listGitHubRepos apps request github) :
    d.canManage (accessAnswer github) ⟨request, some users⟩ repo.url = true ∧ ∃ token,
      request.token repo.host = some token ∧
        request.generateRegToken repo.url = .ok (⟨repo.host, repo.owner, repo.repo⟩, token) := by
  obtain ⟨located, token, username, mine, known, offers⟩ := offers_listGitHubRepos acquainted listed
  have parsed := offers.parsed located
  have signedIn : request.getOAuthTokenForHost repo.host = .ok token := by simp [Request.getOAuthTokenForHost, mine]
  constructor
  · unfold Dashboard.canManage Dashboard.checkCanManage
    -- An admin of the dashboard is let through before anything is parsed.
    by_cases admin : d.isAdminFromContext (some users) = true
    · simp [admin]
    · simp [admin, parsed, known, signedIn, accessAnswer, offers.access, Except.toOption]
  · refine ⟨token, mine, ?_⟩
    unfold Request.generateRegToken
    simp only [parsed, signedIn]

/-- Two entries of one URL are the same scope. -/
theorem url_listed {other : AdminRepo} (acquainted : Acquainted apps request users github)
    (listed : repo ∈ listGitHubRepos apps request github) (also : other ∈ listGitHubRepos apps request github)
    (same : repo.url = other.url) : repo.host = other.host ∧ repo.owner = other.owner ∧ repo.repo = other.repo := by
  obtain ⟨located, _, _, _, _, offers⟩ := offers_listGitHubRepos acquainted listed
  obtain ⟨there, _, _, _, _, others⟩ := offers_listGitHubRepos acquainted also
  have parsed := offers.parsed located
  rw [same, others.parsed there] at parsed
  have info := Except.ok.inj parsed
  rw [RepoInfo.mk.injEq] at info
  exact ⟨info.1.symm, info.2.1.symm, info.2.2.symm⟩

end

end RunnersMux
