import Mathlib.Data.Finset.Basic
import RunnersMux.Foundations.Tables
import RunnersMux.Foundations.Transitions
import RunnersMux.Web.AddRunner

/-! `SelectorPanel`: the dialog in which scopes are chosen.

The list on the left comes from the server and may be fetched again at any time;
the one on the right is the page's selection. Selections are kept by key, and a
search hides what it does not find without taking it out of them.
-/

set_option autoImplicit false

namespace RunnersMux.Web

open Foundations

abbrev Text := List UInt16

/-- A literal of the source. -/
def Text.of (literal : String) : Text := literal.toList.flatMap fun char => utf16 char.toNat

deriving instance DecidableEq for AdminRepo

/-- An `AdminRepo` with all its fields, which the page calls a scope. -/
structure Scope extends AdminRepo where
  host : Text
  url : Text
  /-- "organization" or "repository". -/
  kind : Text
  deriving DecidableEq

def repoKey (r : Scope) : Text := r.host ++ Text.of ":" ++ r.owner ++ Text.of ":" ++ r.repo

/-- Scopes that all come from the server, none of them twice. -/
structure Listed (served : Scope → Prop) (scopes : List Scope) : Prop where
  keyed : Keyed repoKey scopes
  known : ∀ r ∈ scopes, served r

instance (served : Scope → Prop) [DecidablePred served] (scopes : List Scope) : Decidable (Listed served scopes) :=
  have : Decidable (Keyed repoKey scopes) := inferInstanceAs (Decidable (List.Nodup _))
  decidable_of_iff (Keyed repoKey scopes ∧ ∀ r ∈ scopes, served r)
    ⟨fun both => ⟨both.1, both.2⟩, fun listed => ⟨listed.keyed, listed.known⟩⟩

theorem Listed.filter {served : Scope → Prop} {scopes : List Scope} (listed : Listed served scopes)
    (stays : Scope → Bool) : Listed served (scopes.filter stays) :=
  ⟨listed.keyed.filter stays, fun r member => listed.known r (List.mem_of_mem_filter member)⟩

structure SelectorPanel where
  /-- The data of `useSWR`, if there is any yet. -/
  repos : Option (List Scope)
  searchQuery : Text
  debouncedQuery : Text
  leftSelected : Finset Text
  rightSelected : Finset Text
  rightPanel : List Scope
  deriving DecidableEq

inductive SelectorAction where
  | search (value : Text)
  /-- The timer of 150 ms; a change of the query clears it. -/
  | debounce
  | fetched (repos : List Scope)
  | toggleLeft (key : Text)
  | toggleRight (key : Text)
  | moveRight
  | moveLeft
  deriving DecidableEq

def toggle (selected : Finset Text) (key : Text) : Finset Text :=
  if key ∈ selected then selected.erase key else insert key selected

namespace SelectorPanel

/-- The panel as it mounts; the cache of `useSWR` may have the repositories already. -/
def mount (selected : List Scope) (cached : Option (List Scope)) : SelectorPanel :=
  ⟨cached, [], [], ∅, ∅, selected⟩

def rightKeys (panel : SelectorPanel) : List Text := panel.rightPanel.map repoKey

def finds (data : CaseData) (query : Text) (r : Scope) : Bool :=
  let q := data.toLowerCase query
  let fullRepo := if r.repo ≠ [] then r.owner ++ Text.of "/" ++ r.repo else r.owner
  q.isEmpty || q <:+: data.toLowerCase fullRepo || q <:+: data.toLowerCase r.owner ||
    q <:+: data.toLowerCase r.repo || q <:+: data.toLowerCase r.host || q <:+: data.toLowerCase r.url

def leftItems (data : CaseData) (panel : SelectorPanel) : List Scope :=
  (panel.repos.getD []).filter fun r => repoKey r ∉ panel.rightKeys ∧ finds data panel.debouncedQuery r

def moveRight (data : CaseData) (panel : SelectorPanel) : SelectorPanel :=
  let toMove := (panel.leftItems data).filter fun r => repoKey r ∈ panel.leftSelected
  { panel with rightPanel := panel.rightPanel ++ toMove, leftSelected := ∅ }

def moveLeft (panel : SelectorPanel) : SelectorPanel :=
  let toRemove := (panel.rightPanel.filter fun r => repoKey r ∈ panel.rightSelected).map repoKey
  { panel with rightPanel := panel.rightPanel.filter fun r => repoKey r ∉ toRemove, rightSelected := ∅ }

/-- One event of the panel; `none` for a button that is not there or disabled. -/
def step (data : CaseData) (panel : SelectorPanel) : SelectorAction → Option SelectorPanel
  | .search value => some { panel with searchQuery := value }
  | .debounce => some { panel with debouncedQuery := panel.searchQuery }
  | .fetched repos => some { panel with repos := some repos }
  | .toggleLeft key =>
      if key ∈ (panel.leftItems data).map repoKey then
        some { panel with leftSelected := toggle panel.leftSelected key }
      else none
  | .toggleRight key =>
      if key ∈ panel.rightKeys then some { panel with rightSelected := toggle panel.rightSelected key } else none
  | .moveRight => if panel.leftSelected = ∅ then none else some (panel.moveRight data)
  | .moveLeft => if panel.rightSelected = ∅ then none else some panel.moveLeft

/-- What the panel has on either side is listed. -/
structure Sound (served : Scope → Prop) (panel : SelectorPanel) : Prop where
  left : Listed served (panel.repos.getD [])
  right : Listed served panel.rightPanel

/-- A fetched list is one that the server makes. -/
def Answers (served : Scope → Prop) : SelectorAction → Prop
  | .fetched repos => Listed served repos
  | _ => True

instance (served : Scope → Prop) [DecidablePred served] : DecidablePred (Answers served)
  | .fetched repos => inferInstanceAs (Decidable (Listed served repos))
  | .search _ | .debounce | .toggleLeft _ | .toggleRight _ | .moveRight | .moveLeft => .isTrue trivial

section
variable {data : CaseData} {served : Scope → Prop} {panel after : SelectorPanel}

theorem sound_moveRight (sound : panel.Sound served) : (panel.moveRight data).Sound served := by
  refine ⟨sound.left, ?_, ?_⟩
  · apply sound.right.keyed.concat
    · exact (sound.left.keyed.filter _).filter _
    · intro r right other moved same
      -- What is on the left has not been moved yet.
      have left := (List.mem_filter.mp (List.mem_of_mem_filter moved)).2
      have absent : repoKey other ∉ panel.rightKeys := by simpa using (of_decide_eq_true left).1
      exact absent (same ▸ List.mem_map_of_mem right)
  · intro r member
    rcases List.mem_append.mp member with right | moved
    · exact sound.right.known r right
    · exact sound.left.known r (List.mem_of_mem_filter (List.mem_of_mem_filter moved))

/-- Every event keeps both sides listed. -/
theorem sound_step {action : SelectorAction} (sound : panel.Sound served) (answers : Answers served action)
    (taken : panel.step data action = some after) : after.Sound served := by
  cases action with
  | search value | debounce =>
      cases taken
      exact ⟨sound.left, sound.right⟩
  | fetched repos =>
      cases taken
      exact ⟨answers, sound.right⟩
  | toggleLeft key | toggleRight key =>
      simp only [step] at taken
      split at taken <;> cases taken
      exact ⟨sound.left, sound.right⟩
  | moveRight =>
      simp only [step] at taken
      split at taken <;> cases taken
      exact sound_moveRight sound
  | moveLeft =>
      simp only [step] at taken
      split at taken <;> cases taken
      exact ⟨sound.left, sound.right.filter _⟩

end

end SelectorPanel

end RunnersMux.Web
