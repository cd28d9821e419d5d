import Mathlib.Data.List.DropRight
import Mathlib.Data.List.Infix

/-! Go's `filepath` functions on rooted paths.

A path is cut at its separators. An element goes down, up, or nowhere, and the
place where all of them lead is the path that `Clean` writes out again.
-/

set_option autoImplicit false

namespace RunnersMux.Foundations

/-- The names on the way from the root. -/
abbrev Location := List String

/-- A name that an entry of a directory can have. -/
structure Proper (element : String) : Prop where
  nonempty : element ≠ ""
  here : element ≠ "."
  up : element ≠ ".."
  slashless : '/' ∉ element.toList

instance (element : String) : Decidable (Proper element) :=
  decidable_of_iff (element ≠ "" ∧ element ≠ "." ∧ element ≠ ".." ∧ '/' ∉ element.toList)
    ⟨fun ⟨nonempty, here, up, slashless⟩ => ⟨nonempty, here, up, slashless⟩,
      fun ⟨nonempty, here, up, slashless⟩ => ⟨nonempty, here, up, slashless⟩⟩

/-- Where one element leads. The parent of the root is the root. -/
def descend (place : Location) (element : String) : Location :=
  if element = "" ∨ element = "." then place
  else if element = ".." then place.dropLast
  else place ++ [element]

/-- Where the elements lead, whatever there is on the way. -/
def resolve (place : Location) (elements : List String) : Location := elements.foldl descend place

namespace Filepath

def split (path : String) : List String := (path.toList.splitOn '/').map String.ofList

/-- The path that is written out for a place. -/
def rooted (place : Location) : String := String.ofList ('/' :: ['/'].intercalate (place.map String.toList))

/-- The place that a path names. -/
def locate (path : String) : Location := resolve [] (split path)

/-- `filepath.Clean`, and `filepath.Abs`, of a rooted path. -/
def clean (path : String) : String := rooted (locate path)

/-- `filepath.Join` of a rooted path and an element. -/
def join (dir element : String) : String := clean (dir ++ "/" ++ element)

/-- `filepath.Dir`, all of a path but its last element. -/
def dir (path : String) : String := clean (String.ofList (path.toList.rdropWhile (· ≠ '/')))

/-- `filepath.Base`, the last name of a path. -/
def base (path : String) : String :=
  if path = "" then "."
  else
    let chars := path.toList.rdropWhile (· = '/')
    if chars = [] then "/" else String.ofList (chars.rtakeWhile (· ≠ '/'))

end Filepath

open Filepath

theorem descend_proper {element : String} (proper : Proper element) (place : Location) :
    descend place element = place ++ [element] := by
  unfold descend
  rw [if_neg (not_or.mpr ⟨proper.nonempty, proper.here⟩), if_neg proper.up]

theorem resolve_append (place : Location) (first second : List String) :
    resolve place (first ++ second) = resolve (resolve place first) second :=
  List.foldl_append

theorem resolve_proper {elements : List String} (proper : ∀ element ∈ elements, Proper element) (place : Location) :
    resolve place elements = place ++ elements := by
  induction elements generalizing place with
  | nil => exact (List.append_nil place).symm
  | cons element rest ih =>
      rw [List.forall_mem_cons] at proper
      change resolve (descend place element) rest = _
      rw [descend_proper proper.1, ih proper.2, List.append_assoc]
      rfl

/-- What elements without separators lead to has proper names only. -/
theorem resolve_names {elements : List String} (slashless : ∀ element ∈ elements, '/' ∉ element.toList)
    {place : Location} (named : ∀ name ∈ place, Proper name) : ∀ name ∈ resolve place elements, Proper name := by
  induction elements generalizing place with
  | nil => exact named
  | cons element rest ih =>
      rw [List.forall_mem_cons] at slashless
      apply ih slashless.2
      unfold descend
      split
      · exact named
      · next other =>
          rw [not_or] at other
          split
          · exact fun name member => named name (List.mem_of_mem_dropLast member)
          · next down =>
              intro name member
              rcases List.mem_append.mp member with old | new
              · exact named name old
              · rw [List.mem_singleton.mp new]
                exact ⟨other.1, other.2, down, slashless.1⟩

namespace Filepath

theorem split_append (front back : String) : split (front ++ "/" ++ back) = split front ++ split back := by
  have chars : (front ++ "/" ++ back).toList = front.toList ++ '/' :: back.toList := by
    simp
  unfold split
  rw [chars, List.splitOn_append_cons_self, List.map_append]

theorem split_slashless (path : String) : ∀ element ∈ split path, '/' ∉ element.toList := by
  have pieces (chars : List Char) : ∀ piece ∈ chars.splitOn '/', '/' ∉ piece := by
    induction chars with
    | nil => simp
    | cons char rest ih =>
        rw [List.splitOn_cons_eq_if_modifyHead]
        split
        · simpa using ih
        · next other =>
            cases parts : rest.splitOn '/' with
            | nil => exact absurd parts (List.splitOn_ne_nil _ _)
            | cons first others =>
                rw [parts, List.forall_mem_cons] at ih
                have apart : '/' ≠ char := fun same => other (beq_iff_eq.mpr same.symm)
                rw [List.modifyHead_cons, List.forall_mem_cons]
                refine ⟨fun member => ?_, ih.2⟩
                rcases List.mem_cons.mp member with same | later
                · exact apart same
                · exact ih.1 later
  intro element member
  obtain ⟨piece, part, rfl⟩ := List.mem_map.mp member
  simpa using pieces _ piece part

theorem locate_names (path : String) : ∀ name ∈ locate path, Proper name :=
  resolve_names (split_slashless path) nofun

/-- A written path leads to its place. -/
theorem locate_rooted {place : Location} (named : ∀ name ∈ place, Proper name) : locate (rooted place) = place := by
  cases place with
  | nil => decide
  | cons first rest =>
      have pieces : split (rooted (first :: rest)) = "" :: first :: rest := by
        have slashless : ∀ piece ∈ (first :: rest).map String.toList, '/' ∉ piece := by
          intro piece member
          obtain ⟨name, own, rfl⟩ := List.mem_map.mp member
          exact (named name own).slashless
        have cut := List.splitOn_intercalate '/' slashless (by simp)
        unfold split rooted
        rw [String.toList_ofList, List.splitOn_cons_eq_if_modifyHead, if_pos (by decide), cut]
        simp [Function.comp_def]
      unfold locate
      rw [pieces]
      change resolve [] (first :: rest) = _
      rw [resolve_proper named, List.nil_append]

theorem locate_clean (path : String) : locate (clean path) = locate path := locate_rooted (locate_names path)

theorem split_proper {element : String} (proper : Proper element) : split element = [element] := by
  unfold split
  rw [List.splitOn_eq_singleton proper.slashless]
  simp

theorem locate_join {element : String} (dir : String) (proper : Proper element) :
    locate (join dir element) = locate dir ++ [element] := by
  unfold join
  rw [locate_clean, locate, split_append, resolve_append, split_proper proper]
  exact descend_proper proper _

theorem join_rooted {element : String} (dir : String) (proper : Proper element) :
    join dir element = rooted (locate dir ++ [element]) := by
  rw [← locate_join dir proper]
  unfold join
  rw [locate_clean]
  rfl

theorem locate_slash (path : String) : locate (path ++ "/") = locate path := by
  have cut : path ++ "/" = path ++ "/" ++ "" := by simp
  unfold locate
  rw [cut, split_append, resolve_append]
  change resolve (resolve [] (split path)) [""] = _
  rfl

theorem locate_join_slash {element : String} (dir : String) (proper : Proper element) :
    locate (join dir (element ++ "/")) = locate dir ++ [element] := by
  unfold join
  rw [locate_clean, ← String.append_assoc, locate_slash, ← locate_clean]
  exact locate_join dir proper

theorem intercalate_concat {α : Type} {pieces : List (List α)} (separator : List α) (some_ : pieces ≠ [])
    (last : List α) :
    separator.intercalate (pieces ++ [last]) = separator.intercalate pieces ++ separator ++ last := by
  induction pieces with
  | nil => exact absurd rfl some_
  | cons first rest ih =>
      by_cases single : rest = []
      · subst single
        simp [List.intercalate]
      · rw [List.cons_append, List.intercalate_cons_of_ne_nil (by simp), ih single,
          List.intercalate_cons_of_ne_nil single]
        simp

/-- A written path ends with its last name, behind one that leads to the rest. -/
theorem rooted_concat {place : Location} (named : ∀ name ∈ place, Proper name) (element : String) :
    ∃ stem, locate stem = place ∧ rooted (place ++ [element]) = stem ++ "/" ++ element := by
  cases place with
  | nil => exact ⟨"", by decide, by simp [rooted]⟩
  | cons first rest =>
      refine ⟨rooted (first :: rest), locate_rooted named, ?_⟩
      rw [← String.toList_inj]
      unfold rooted
      rw [List.map_append, List.map_singleton, intercalate_concat _ (by simp)]
      simp

theorem dir_rooted {place : Location} (named : ∀ name ∈ place, Proper name) {element : String}
    (proper : Proper element) : dir (rooted (place ++ [element])) = rooted place := by
  obtain ⟨stem, leads, path⟩ := rooted_concat named element
  have cut : (stem ++ "/" ++ element).toList.rdropWhile (· ≠ '/') = (stem ++ "/").toList := by
    have same : ∀ char ∈ element.toList.reverse, (fun char => decide (char ≠ '/')) char = true := by
      intro char member
      apply decide_eq_true
      rintro rfl
      exact proper.slashless (List.mem_reverse.mp member)
    unfold List.rdropWhile
    rw [String.toList_append, List.reverse_append, List.dropWhile_append_of_pos same]
    simp
  unfold dir clean
  rw [path, cut, String.ofList_toList, locate_slash, leads]

theorem base_rooted {place : Location} (named : ∀ name ∈ place, Proper name) {element : String}
    (proper : Proper element) : base (rooted (place ++ [element])) = element := by
  obtain ⟨stem, leads, path⟩ := rooted_concat named element
  have slashless : ∀ char ∈ element.toList, char ≠ '/' := by
    rintro char member rfl
    exact proper.slashless member
  have chars : (stem ++ "/" ++ element).toList = stem.toList ++ '/' :: element.toList := by simp
  have whole : (stem ++ "/" ++ element).toList.rdropWhile (· = '/') = stem.toList ++ '/' :: element.toList := by
    rw [chars, List.rdropWhile_eq_self_iff]
    intro nonempty
    have some_ : element.toList ≠ [] := by simpa using proper.nonempty
    rw [List.getLast_append_of_ne_nil _ (by simp), List.getLast_cons some_]
    simpa using slashless _ (List.getLast_mem some_)
  have last : (stem.toList ++ '/' :: element.toList).rtakeWhile (· ≠ '/') = element.toList := by
    have same : ∀ char ∈ element.toList.reverse, (fun char => decide (char ≠ '/')) char = true :=
      fun char member => decide_eq_true (slashless char (List.mem_reverse.mp member))
    unfold List.rtakeWhile
    rw [List.reverse_append, List.reverse_cons, List.append_assoc, List.takeWhile_append_of_pos same]
    simp
  unfold base
  rw [path, if_neg (by simp), whole]
  dsimp only
  rw [if_neg (by simp), last, String.ofList_toList]

end Filepath

end RunnersMux.Foundations
