import Mathlib.Data.List.Perm.Basic

/-! `auth.go`: what a user administers.

The repositories come from an iterator that turns the pages over by itself. The
memberships come from a single call, which answers with one page.
-/

set_option autoImplicit false

namespace RunnersMux

/-- What the getters of a membership return, which are empty strings for nil pointers. -/
structure Membership where
  role : String
  organization : String
  deriving DecidableEq, Repr

structure Repository where
  owner : String
  name : String
  htmlURL : String
  /-- `GetPermissions`, nil or with its `GetAdmin`. -/
  permissions : Option Bool
  deriving DecidableEq, Repr

structure AdminRepo where
  host : String
  owner : String
  /-- Empty for org-level. -/
  repo : String
  url : String
  kind : String
  deriving DecidableEq, Repr

structure ListOrgMembershipsOptions where
  state : String
  perPage : Nat
  /-- The first page is asked for with 0 or with 1. -/
  page : Nat
  deriving DecidableEq, Repr

/-- The two calls of the third-party client. The iterator yields an error in the place of a page
that it could not get. -/
structure GitHubClient where
  listOrgMemberships : ListOrgMembershipsOptions → Except String (List Membership)
  listByAuthenticatedUserIter : Nat → List (Except String Repository)

def Membership.adminRepo (host : String) (m : Membership) : Option AdminRepo :=
  if m.role ≠ "admin" then none
  else some ⟨host, m.organization, "", "https://" ++ host ++ "/" ++ m.organization, "organization"⟩

def Repository.adminRepo (host : String) (repo : Repository) : Option AdminRepo :=
  if repo.permissions = some true then some ⟨host, repo.owner, repo.name, repo.htmlURL, "repository"⟩ else none

/-- The loop over the iterator; the first error is returned. -/
def appendRepos (host : String) : List AdminRepo → List (Except String Repository) → Except String (List AdminRepo)
  | results, [] => .ok results
  | _, .error err :: _ => .error ("failed to list repos: " ++ err)
  | results, .ok repo :: rest => appendRepos host (results ++ (repo.adminRepo host).toList) rest

def listAdminRepos (client : GitHubClient) (host : String) : Except String (List AdminRepo) :=
  match client.listOrgMemberships ⟨"active", 100, 0⟩ with
  | .error err => .error ("failed to list org memberships: " ++ err)
  | .ok memberships =>
      appendRepos host (memberships.filterMap (·.adminRepo host)) (client.listByAuthenticatedUserIter 100)

/-- A list in pages of at most so many entries. -/
structure Paged (α : Type) (perPage : Nat) where
  pages : List (List α)
  bounded : ∀ page ∈ pages, page.length ≤ perPage

namespace Paged

variable {α : Type} {perPage : Nat}

def all (paged : Paged α perPage) : List α := paged.pages.flatten

/-- A page by its number, from 1 on; 0 stands for the first one. -/
def page (paged : Paged α perPage) (number : Nat) : List α := paged.pages[number - 1]?.getD []

/-- The entries after the first page. -/
def beyond (paged : Paged α perPage) : List α := paged.pages.tail.flatten

theorem all_eq (paged : Paged α perPage) : paged.all = paged.page 0 ++ paged.beyond := by
  unfold all page beyond
  cases paged.pages <;> rfl

end Paged

/-- A user's active memberships and repositories, as GitHub has them in pages. -/
structure Account where
  memberships : Paged Membership 100
  repositories : Paged Repository 100

namespace Account

/-- The client of an account for which no call fails. -/
def client (account : Account) : GitHubClient where
  listOrgMemberships options := .ok (account.memberships.page options.page)
  listByAuthenticatedUserIter _ := account.repositories.all.map .ok

/-- One entry for every organisation and for every repository that the user administers. -/
def administers (account : Account) (host : String) : List AdminRepo :=
  account.memberships.all.filterMap (·.adminRepo host) ++ account.repositories.all.filterMap (·.adminRepo host)

/-- The result has exactly these entries, each once. -/
def ListsAll (account : Account) (host : String) : Prop :=
  ∃ results, listAdminRepos account.client host = .ok results ∧ results.Perm (account.administers host)

end Account

theorem appendRepos_ok (host : String) (results : List AdminRepo) (repos : List Repository) :
    appendRepos host results (repos.map .ok) = .ok (results ++ repos.filterMap (·.adminRepo host)) := by
  induction repos generalizing results with
  | nil => simp [appendRepos]
  | cons repo rest ih =>
      rw [List.map_cons, appendRepos, ih, List.append_assoc]
      cases entry : repo.adminRepo host <;> simp [entry]

theorem listAdminRepos_client (account : Account) (host : String) : listAdminRepos account.client host =
    .ok ((account.memberships.page 0).filterMap (·.adminRepo host) ++
      account.repositories.all.filterMap (·.adminRepo host)) :=
  appendRepos_ok host _ _

theorem adminRepo_none (host : String) (m : Membership) : m.adminRepo host = none ↔ m.role ≠ "admin" := by
  unfold Membership.adminRepo
  split <;> simp_all

/-- The memberships after the first page are what is missing. -/
theorem listsAll_perm (account : Account) (host : String) :
    account.ListsAll host ↔ account.memberships.beyond.filterMap (·.adminRepo host) = [] := by
  unfold Account.ListsAll Account.administers
  rw [listAdminRepos_client, account.memberships.all_eq, List.filterMap_append]
  constructor
  · rintro ⟨results, ⟨⟩, perm⟩
    have same := perm.length_eq
    simp only [List.length_append] at same
    exact List.length_eq_zero_iff.mp (by omega)
  · intro none_
    refine ⟨_, rfl, ?_⟩
    rw [none_, List.append_nil]

/-- `ListAdminRepos` is complete exactly for users without an admin role beyond the first page of
their memberships. -/
theorem lists_all_iff (account : Account) (host : String) :
    account.ListsAll host ↔ ∀ m ∈ account.memberships.beyond, m.role ≠ "admin" := by
  rw [listsAll_perm, List.filterMap_eq_nil_iff]
  exact forall₂_congr fun m _ => adminRepo_none host m

/-- A member of a hundred organisations and the owner of one more. -/
def ownerOfOne : Account where
  memberships :=
    ⟨[(List.range 100).map fun number => ⟨"member", "org" ++ number.repr⟩, [⟨"admin", "acme"⟩]], by simp⟩
  repositories := ⟨[], nofun⟩

/-- The organisation is on the second page, and the list is empty. -/
theorem second_page_missed : ¬ownerOfOne.ListsAll "ghe.local" ∧
    ownerOfOne.administers "ghe.local" = [⟨"ghe.local", "acme", "", "https://ghe.local/acme", "organization"⟩] ∧
    listAdminRepos ownerOfOne.client "ghe.local" = .ok [] := by
  have members : (ownerOfOne.memberships.page 0).filterMap (·.adminRepo "ghe.local") = [] := by
    rw [List.filterMap_eq_nil_iff]
    intro m member
    obtain ⟨number, _, rfl⟩ := List.mem_map.mp member
    simp [Membership.adminRepo]
  refine ⟨?_, ?_, ?_⟩
  · rw [listsAll_perm]
    exact nofun
  · unfold Account.administers
    rw [Paged.all_eq, List.filterMap_append, members]
    rfl
  · rw [listAdminRepos_client, members]
    rfl

end RunnersMux
