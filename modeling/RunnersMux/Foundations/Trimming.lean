import Mathlib.Data.List.DropRight
import RunnersMux.Foundations.Strings

/-! More of Go's `strings`: trimming, and cutting at a separator.

A trimmed end is a `rdropWhile` of the characters. It commutes with whatever is
taken off the other end, as long as that part ends in a character that stays.
-/

set_option autoImplicit false

namespace RunnersMux.Foundations

/-- `strings.TrimRight`. -/
def trimRight (text cutset : String) : String := String.ofList (text.toList.rdropWhile (· ∈ cutset.toList))

/-- `strings.Trim`. -/
def trim (text cutset : String) : String :=
  String.ofList ((text.toList.dropWhile (· ∈ cutset.toList)).rdropWhile (· ∈ cutset.toList))

/-- `strings.TrimSpace`. -/
def trimSpace (text : String) : String := String.ofList ((text.toList.dropWhile isSpace).rdropWhile isSpace)

/-- `strings.Index` of one character; `none` is the -1 of the source. -/
def index (text : String) (char : Char) : Option Nat := text.toList.idxOf? char

/-- `strings.Split` at one character. -/
def splitAt (text : String) (char : Char) : List String := (text.toList.splitOn char).map String.ofList

theorem toList_trimRight (text cutset : String) :
    (trimRight text cutset).toList = text.toList.rdropWhile (· ∈ cutset.toList) := String.toList_ofList

theorem toList_trim (text cutset : String) : (trim text cutset).toList =
    (text.toList.dropWhile (· ∈ cutset.toList)).rdropWhile (· ∈ cutset.toList) := String.toList_ofList

theorem toList_trimSpace (text : String) :
    (trimSpace text).toList = (text.toList.dropWhile isSpace).rdropWhile isSpace := String.toList_ofList

section
universe u
variable {α : Type u} {front : List α}

/-- What stands before a character that stays is not trimmed. -/
theorem rdropWhile_append_kept (p : α → Bool) (stays : ∀ last ∈ front.getLast?, p last = false) (back : List α) :
    (front ++ back).rdropWhile p = front ++ back.rdropWhile p := by
  induction back using List.reverseRecOn with
  | nil =>
      rw [List.append_nil, List.rdropWhile_nil, List.append_nil, List.rdropWhile_eq_self_iff]
      intro some_
      rw [stays _ (List.getLast?_eq_getLast_of_ne_nil some_)]
      decide
  | append_singleton rest last ih =>
      rw [← List.append_assoc, List.rdropWhile_concat, List.rdropWhile_concat]
      split
      · exact ih
      · exact List.append_assoc ..

/-- What is left ends in an element that stays. -/
theorem last_rdropWhile (p : α → Bool) (text : List α) : ∀ last ∈ (text.rdropWhile p).getLast?, p last = false := by
  intro last member
  have some_ : text.rdropWhile p ≠ [] := by
    intro none_
    simp [none_] at member
  rw [List.getLast?_eq_getLast_of_ne_nil some_] at member
  cases member
  simpa using List.rdropWhile_last_not p text some_

theorem rtakeWhile_eq_nil (p : α → Bool) (text : List α) :
    text.rtakeWhile p = [] ↔ ∀ last ∈ text.getLast?, p last = false := by
  rw [List.rtakeWhile_eq_nil_iff]
  constructor
  · intro none_ last member
    have some_ : text ≠ [] := by
      intro empty
      simp [empty] at member
    rw [List.getLast?_eq_getLast_of_ne_nil some_] at member
    cases member
    simpa using none_ some_
  · intro stays some_
    simpa using stays _ (List.getLast?_eq_getLast_of_ne_nil some_)

/-- A list that starts with an element that stays loses nothing there, and neither do its prefixes. -/
theorem dropWhile_of_prefix {p : α → Bool} {whole : List α} (starts : front <+: whole.dropWhile p) :
    front.dropWhile p = front := by
  cases front with
  | nil => rfl
  | cons head rest =>
      obtain ⟨more, same⟩ := starts
      have stays : p head = false := by
        have first := List.head?_dropWhile_not p whole
        rw [← same] at first
        simpa using first
      rw [List.dropWhile_cons_of_neg (by simp [stays])]

/-- Elements dropped in front leave the last one. -/
theorem getLast_dropWhile {p : α → Bool} {text : List α} {last : α}
    (ends : (text.dropWhile p).getLast? = some last) : text.getLast? = some last := by
  rw [← List.takeWhile_append_dropWhile (p := p) (l := text), List.getLast?_append, ends]
  rfl

end

/-- `strings.TrimPrefix` of the characters. -/
def dropPrefix (lead text : List Char) : List Char := if lead.isPrefixOf text then text.drop lead.length else text

theorem toList_trimPrefix (text lead : String) : (trimPrefix text lead).toList = dropPrefix lead.toList text.toList := by
  unfold trimPrefix hasPrefix dropPrefix
  split
  · exact String.toList_ofList
  · rfl

theorem dropPrefix_append (lead rest : List Char) : dropPrefix lead (lead ++ rest) = rest := by
  simp [dropPrefix]

theorem dropPrefix_absent {lead text : List Char} (absent : ¬lead <+: text) : dropPrefix lead text = text := by
  unfold dropPrefix
  rw [if_neg (by simpa using absent)]

/-- Two prefixes are taken off as one. -/
theorem append_prefix_iff (first second text : List Char) :
    first ++ second <+: text ↔ first <+: text ∧ second <+: dropPrefix first text := by
  constructor
  · rintro ⟨rest, rfl⟩
    rw [List.append_assoc, dropPrefix_append]
    exact ⟨List.prefix_append _ _, List.prefix_append _ _⟩
  · rintro ⟨⟨rest, rfl⟩, more⟩
    rw [dropPrefix_append] at more
    exact (List.prefix_append_right_inj first).mpr more

/-- Taking a prefix off commutes with trimming the other end. -/
theorem dropPrefix_rdropWhile {lead : List Char} {p : Char → Bool} (stays : ∀ last ∈ lead.getLast?, p last = false)
    (text : List Char) : dropPrefix lead (text.rdropWhile p) = (dropPrefix lead text).rdropWhile p := by
  by_cases starts : lead <+: text
  · obtain ⟨rest, rfl⟩ := starts
    rw [rdropWhile_append_kept p stays, dropPrefix_append, dropPrefix_append]
  · rw [dropPrefix_absent starts, dropPrefix_absent]
    exact fun trimmed => starts (trimmed.trans (List.rdropWhile_prefix p text))

theorem dropPrefix_last {lead text : List Char} {char : Char} (ends : lead.getLast? = some char)
    (differs : text.getLast? ≠ some char) : (dropPrefix lead text).getLast? = text.getLast? := by
  by_cases starts : lead <+: text
  · obtain ⟨rest, rfl⟩ := starts
    rw [dropPrefix_append]
    cases rest with
    | nil =>
        rw [List.append_nil] at differs
        exact absurd ends differs
    | cons head rest => simp [List.getLast?_cons]
  · rw [dropPrefix_absent starts]

theorem idxOf_append {char : Char} {front : List Char} (absent : char ∉ front) (back : List Char) :
    (front ++ char :: back).idxOf? char = some front.length := by
  induction front with
  | nil => simp [List.idxOf?_cons]
  | cons head rest ih =>
      rw [List.mem_cons, not_or] at absent
      simp [List.idxOf?_cons, ih absent.2, Ne.symm absent.1]

theorem separator_splitOn {α : Type} [DecidableEq α] {separator : α} (text : List α) :
    ∀ piece ∈ text.splitOn separator, separator ∉ piece := by
  induction text with
  | nil => simp
  | cons head rest ih =>
      rw [List.splitOn_cons_eq_if_modifyHead]
      split
      · simpa using ih
      · next other =>
          cases pieces : rest.splitOn separator with
          | nil => exact absurd pieces (List.splitOn_ne_nil _ _)
          | cons first others =>
              rw [pieces, List.forall_mem_cons] at ih
              rw [List.modifyHead_cons, List.forall_mem_cons, List.mem_cons, not_or]
              exact ⟨⟨fun same => other (beq_iff_eq.mpr same.symm), ih.1⟩, ih.2⟩

/-- Separators in front are empty pieces. -/
theorem splitOn_dropWhile {char : Char} {text : List Char} (some_ : ∃ other ∈ text, other ≠ char) :
    (text.dropWhile (· = char)).splitOn char = (text.splitOn char).dropWhile (· = []) := by
  induction text with
  | nil => simp at some_
  | cons head rest ih =>
      by_cases same : head = char
      · subst same
        have others : ∃ other ∈ rest, other ≠ head := by simpa using some_
        simp [List.splitOn_cons_eq_if_modifyHead, ih others]
      · rw [List.dropWhile_cons_of_neg (by simpa using same)]
        cases pieces : (head :: rest).splitOn char with
        | nil => exact absurd pieces (List.splitOn_ne_nil _ _)
        | cons piece others =>
            rw [List.dropWhile_cons_of_neg]
            rintro empty
            have empty : piece = [] := by simpa using empty
            subst empty
            rw [List.splitOn_cons_eq_if_modifyHead] at pieces
            cases more : rest.splitOn char with
            | nil => exact absurd more (List.splitOn_ne_nil _ _)
            | cons first later => simp [more, same] at pieces

end RunnersMux.Foundations
