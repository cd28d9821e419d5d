import Mathlib.Logic.Function.Basic
import RunnersMux.Foundations.Filepaths

/-! Trees of directories and files, and the calls of Go's `os` package on them.

A file is whatever is not a directory, a symbolic link included: no deletion
follows it. Which names there can be is the file system's own business.
-/

set_option autoImplicit false

namespace RunnersMux.Foundations

inductive Node where
  | dir
  | file
  deriving DecidableEq, Repr

/-- What there is at each place. Everything but the root is in a directory. -/
@[ext] structure Tree (accepts : String → Bool) where
  node : Location → Option Node
  root : node [] = some .dir
  nested : ∀ place name, node (place ++ [name]) ≠ none → node place = some .dir ∧ Proper name ∧ accepts name = true

/-- Why a path leads nowhere. Only the first is an `ErrNotExist`. -/
inductive PathError where
  | notExist
  | notDir
  deriving DecidableEq, Repr

namespace Tree

variable {accepts : String → Bool}

/-- `Mkdir` of a name in a directory. -/
def mkdir (tree : Tree accepts) (place : Location) (name : String) : Option (Tree accepts) :=
  if free : tree.node place = some .dir ∧ tree.node (place ++ [name]) = none ∧ Proper name ∧ accepts name = true then
    some {
      node := Function.update tree.node (place ++ [name]) (some .dir)
      root := by
        rw [Function.update_of_ne (by simp), tree.root]
      nested := by
        intro parent other present
        by_cases same : parent ++ [other] = place ++ [name]
        · obtain ⟨rfl, ⟨⟩⟩ := List.append_inj' same rfl
          rw [Function.update_of_ne (by simp)]
          exact ⟨free.1, free.2.2⟩
        · rw [Function.update_of_ne same] at present
          obtain ⟨known, named⟩ := tree.nested parent other present
          rw [Function.update_of_ne, known]
          · exact ⟨rfl, named⟩
          · rintro rfl
            cases known.symm.trans free.2.1 }
  else none

/-- `MkdirAll`, from a directory on: make what is missing, up to the first failure. -/
def mkdirFrom (tree : Tree accepts) (place : Location) : List String → Tree accepts
  | [] => tree
  | element :: rest =>
      if element = "" ∨ element = "." then tree.mkdirFrom place rest
      else if element = ".." then tree.mkdirFrom place.dropLast rest
      else
        match tree.node (place ++ [element]) with
        | some .dir => tree.mkdirFrom (place ++ [element]) rest
        -- `MkdirAll` gives up at a file, and leaves what it has made so far.
        | some .file => tree
        | none =>
            match tree.mkdir place element with
            | some made => made.mkdirFrom (place ++ [element]) rest
            | none => tree

def mkdirAll (tree : Tree accepts) (path : String) : Tree accepts := tree.mkdirFrom [] (Filepath.split path)

/-- The directories that `MkdirAll` passes through on its way down. -/
def visits (accepts : String → Bool) (place : Location) : List String → List Location
  | [] => []
  | element :: rest =>
      if element = "" ∨ element = "." then visits accepts place rest
      else if element = ".." then visits accepts place.dropLast rest
      else if accepts element then (place ++ [element]) :: visits accepts (place ++ [element]) rest
      else []

/-- Take away what is at a place and below it. The root stays. -/
def remove (tree : Tree accepts) (target : Location) : Tree accepts where
  node place := if target <+: place ∧ place ≠ [] then none else tree.node place
  root := by
    rw [if_neg (fun gone => gone.2 rfl), tree.root]
  nested := by
    intro place name present
    split at present
    · exact absurd rfl present
    · next stays =>
        obtain ⟨known, named⟩ := tree.nested place name present
        refine ⟨?_, named⟩
        rw [if_neg, known]
        intro gone
        exact stays ⟨gone.1.trans (List.prefix_append _ _), by simp⟩

/-- `RemoveAll` of a cleaned path. -/
def removeAll (tree : Tree accepts) (path : String) : Tree accepts := tree.remove (Filepath.locate path)

/-- Follow the elements from one place to another. -/
def walk (tree : Tree accepts) (place : Location) : List String → Except PathError Location
  | [] => .ok place
  | element :: rest =>
      match tree.node place with
      | some .dir =>
          if element = "" ∨ element = "." then tree.walk place rest
          else if element = ".." then tree.walk place.dropLast rest
          else if tree.node (place ++ [element]) = none then .error .notExist
          else tree.walk (place ++ [element]) rest
      | some .file => .error .notDir
      | none => .error .notExist

/-- `Stat`: the place that it has found. -/
def stat (tree : Tree accepts) (path : String) : Except PathError Location := tree.walk [] (Filepath.split path)

/-- The directories on the way to a place, and nothing else. -/
def spine (target : Location) (named : ∀ name ∈ target, Proper name ∧ accepts name = true) : Tree accepts where
  node place := if place <+: target then some .dir else none
  root := if_pos List.nil_prefix
  nested := by
    intro place name present
    split at present
    · next within =>
        refine ⟨if_pos ((List.prefix_append _ _).trans within), named name (within.mem (by simp))⟩
    · exact absurd rfl present

variable {tree : Tree accepts} {place target : Location}

theorem node_remove : (tree.remove target).node place = if target <+: place ∧ place ≠ [] then none else tree.node place := rfl

theorem node_spine (named : ∀ name ∈ target, Proper name ∧ accepts name = true) :
    (spine target named).node place = if place <+: target then some .dir else none := rfl

/-- The names on the way to something. -/
theorem names_accepted (present : tree.node place ≠ none) : ∀ name ∈ place, accepts name = true := by
  induction place using List.reverseRecOn with
  | nil => nofun
  | append_singleton parent name ih =>
      obtain ⟨known, _, accepted⟩ := tree.nested parent name present
      have above : tree.node parent ≠ none := by simp [known]
      intro other member
      rcases List.mem_append.mp member with old | new
      · exact ih above other old
      · rw [List.mem_singleton.mp new]
        exact accepted

theorem node_dropLast (here : tree.node place = some .dir) : tree.node place.dropLast = some .dir := by
  cases place using List.reverseRecOn with
  | nil => exact here
  | append_singleton parent name =>
      rw [List.dropLast_concat]
      exact (tree.nested parent name (by simp [here])).1

theorem node_mkdir {made : Tree accepts} {name : String} (makes : tree.mkdir place name = some made) :
    made.node = Function.update tree.node (place ++ [name]) (some .dir) ∧ tree.node (place ++ [name]) = none ∧
      accepts name = true := by
  unfold mkdir at makes
  split at makes
  · next free =>
      cases makes
      exact ⟨rfl, free.2.1, free.2.2.2⟩
  · cases makes

/-- `MkdirAll` adds nothing but what it passes through. -/
theorem mkdirFrom_adds {elements : List String} {other : Location}
    (made : (tree.mkdirFrom place elements).node other ≠ none) :
    tree.node other ≠ none ∨ other ∈ visits accepts place elements := by
  fun_induction mkdirFrom tree place elements with
  | case1 => exact .inl made
  | case2 tree place element rest stays ih =>
      rw [visits, if_pos stays]
      exact ih made
  | case3 tree place rest up ih =>
      rw [visits, if_neg up, if_pos rfl]
      exact ih made
  | case4 tree place element rest moves down known ih =>
      have accepted := (tree.nested place element (by simp [known])).2.2
      rw [visits, if_neg moves, if_neg down, if_pos accepted]
      exact (ih made).imp_right (List.mem_cons_of_mem _)
  | case5 => exact .inl made
  | case6 tree place element rest moves down missing grown makes ih =>
      obtain ⟨update, _, accepted⟩ := node_mkdir makes
      rw [visits, if_neg moves, if_neg down, if_pos accepted]
      rcases ih made with before | later
      · rw [update] at before
        by_cases same : other = place ++ [element]
        · exact .inr (same ▸ List.mem_cons_self)
        · rw [Function.update_of_ne same] at before
          exact .inl before
      · exact .inr (List.mem_cons_of_mem _ later)
  | case7 => exact .inl made

theorem mkdirFrom_keeps {elements : List String} {other : Location} (known : tree.node other ≠ none) :
    (tree.mkdirFrom place elements).node other ≠ none := by
  fun_induction mkdirFrom tree place elements with
  | case1 | case5 | case7 => exact known
  | case2 _ _ _ _ _ ih | case3 _ _ _ _ ih | case4 _ _ _ _ _ _ _ ih => exact ih known
  | case6 tree place element rest moves down missing grown makes ih =>
      apply ih
      rw [(node_mkdir makes).1, Function.update_apply]
      split
      · nofun
      · exact known

/-- A directory that is missing can be made where there is one to hold it. -/
theorem mkdir_makes {name : String} (here : tree.node place = some .dir) (missing : tree.node (place ++ [name]) = none)
    (proper : Proper name) (accepted : accepts name = true) : tree.mkdir place name ≠ none := by
  unfold mkdir
  rw [dif_pos ⟨here, missing, proper, accepted⟩]
  nofun

/-- Where there are no files, `MkdirAll` makes all that it passes through. -/
theorem mkdirFrom_makes {elements : List String} (bare : ∀ other, tree.node other ≠ some .file)
    (here : tree.node place = some .dir) (slashless : ∀ element ∈ elements, '/' ∉ element.toList) {other : Location}
    (visited : other ∈ visits accepts place elements) : (tree.mkdirFrom place elements).node other ≠ none := by
  fun_induction mkdirFrom tree place elements with
  | case1 => cases visited
  | case2 tree place element rest stays ih =>
      rw [visits, if_pos stays] at visited
      exact ih bare here (List.forall_mem_cons.mp slashless).2 visited
  | case3 tree place rest up ih =>
      rw [visits, if_neg up, if_pos rfl] at visited
      exact ih bare (node_dropLast here) (List.forall_mem_cons.mp slashless).2 visited
  | case4 tree place element rest moves down known ih =>
      rw [visits, if_neg moves, if_neg down] at visited
      split at visited
      · rcases List.mem_cons.mp visited with same | later
        · apply mkdirFrom_keeps
          rw [same, known]
          nofun
        · exact ih bare known (List.forall_mem_cons.mp slashless).2 later
      · cases visited
  | case5 tree place element rest moves down file => exact absurd file (bare _)
  | case6 tree place element rest moves down missing grown makes ih =>
      obtain ⟨update, _, accepted⟩ := node_mkdir makes
      -- The new directory is where the walk goes on, and there is still no file.
      have new : grown.node (place ++ [element]) = some .dir := by
        rw [update, Function.update_self]
      have empty (third : Location) : grown.node third ≠ some .file := by
        rw [update, Function.update_apply]
        split
        · nofun
        · exact bare third
      rw [visits, if_neg moves, if_neg down, if_pos accepted] at visited
      rcases List.mem_cons.mp visited with same | later
      · apply mkdirFrom_keeps
        rw [same, new]
        nofun
      · exact ih empty new (List.forall_mem_cons.mp slashless).2 later
  | case7 tree place element rest moves down missing fails =>
      rw [visits, if_neg moves, if_neg down] at visited
      split at visited
      · next accepted =>
          rw [not_or] at moves
          have proper : Proper element := ⟨moves.1, moves.2, down, slashless element List.mem_cons_self⟩
          exact absurd fails (mkdir_makes here missing proper accepted)
      · cases visited

/-- What is found is where the elements lead. -/
theorem walk_resolve {elements : List String} {found : Location} (walked : tree.walk place elements = .ok found) :
    found = resolve place elements := by
  fun_induction walk tree place elements with
  | case1 =>
      cases walked
      rfl
  | case2 place element rest here stays ih =>
      rw [ih walked, resolve, resolve, List.foldl_cons, descend, if_pos stays]
  | case3 place rest here moves ih =>
      rw [ih walked, resolve, resolve, List.foldl_cons, descend, if_neg moves, if_pos rfl]
  | case5 place element rest here moves down known ih =>
      rw [ih walked, resolve, resolve, List.foldl_cons, descend, if_neg moves, if_neg down]
  | case4 | case6 | case7 => cases walked

end Tree

end RunnersMux.Foundations
