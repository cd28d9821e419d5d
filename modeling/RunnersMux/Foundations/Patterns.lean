import Mathlib.Data.List.Chain

/-! Regular expressions as JavaScript runs them, without captures and with no
flag but `g`.

A matcher tries the ways to match in an order and takes the first. What stands
before a position is the reverse of a list, what is left of the text a list.
-/

set_option autoImplicit false

namespace RunnersMux.Foundations

universe u
variable {α : Type u}

inductive Pattern (α : Type u) where
  /-- One element of a class. -/
  | unit (member : α → Bool)
  /-- One or more elements of a class, as many as there are first. -/
  | many (member : α → Bool)
  | start
  | stop
  | seq (first second : Pattern α)
  | alt (first second : Pattern α)

def downFrom : Nat → List Nat
  | 0 => []
  | n + 1 => (n + 1) :: downFrom n

@[simp] theorem mem_downFrom {n bound : Nat} : n ∈ downFrom bound ↔ 0 < n ∧ n ≤ bound := by
  induction bound with
  | zero => simp [downFrom, Nat.pos_iff_ne_zero]
  | succ bound ih =>
      simp only [downFrom, List.mem_cons, ih]
      omega

namespace Pattern

/-- What a pattern says of a part of a text between two others. -/
def Matches : Pattern α → (before matched rest : List α) → Prop
  | unit member, _, matched, _ => ∃ element, matched = [element] ∧ member element = true
  | many member, _, matched, _ => matched ≠ [] ∧ ∀ element ∈ matched, member element = true
  | start, before, matched, _ => matched = [] ∧ before = []
  | stop, _, matched, rest => matched = [] ∧ rest = []
  | seq first second, before, matched, rest => ∃ front back, matched = front ++ back ∧
      first.Matches before front (back ++ rest) ∧ second.Matches (front.reverse ++ before) back rest
  | alt first second, before, matched, rest => first.Matches before matched rest ∨ second.Matches before matched rest

/-- The lengths of the matches at a position, in the order in which they are tried. -/
def lengths : Pattern α → (before text : List α) → List Nat
  | unit _, _, [] => []
  | unit member, _, head :: _ => if member head then [1] else []
  | many member, _, text => downFrom (text.takeWhile member).length
  | start, before, _ => if before.isEmpty then [0] else []
  | stop, _, text => if text.isEmpty then [0] else []
  | seq first second, before, text => (first.lengths before text).flatMap fun n =>
      (second.lengths ((text.take n).reverse ++ before) (text.drop n)).map (n + ·)
  | alt first second, before, text => first.lengths before text ++ second.lengths before text

/-- The match at a position, if there is one. -/
def here (pattern : Pattern α) (before text : List α) : Option Nat := (pattern.lengths before text).head?

/-- `RegExp.prototype.test`, from a position on. -/
def testFrom (pattern : Pattern α) (before : List α) : List α → Bool
  | [] => (pattern.here before []).isSome
  | head :: rest => (pattern.here before (head :: rest)).isSome || testFrom pattern (head :: before) rest

def test (pattern : Pattern α) (text : List α) : Bool := pattern.testFrom [] text

/-- `String.prototype.replace` under the flag `g`, from a position on. `skip` counts what is left of
the last match; after a match of length 0 the scan goes on one element further. -/
def replaceFrom (pattern : Pattern α) (replacement : List α) : (skip : Nat) → (before : List α) → List α → List α
  | 0, before, [] => if (pattern.here before []).isSome then replacement else []
  | _ + 1, _, [] => []
  | 0, before, head :: rest =>
      match pattern.here before (head :: rest) with
      | none => head :: replaceFrom pattern replacement 0 (head :: before) rest
      | some 0 => replacement ++ head :: replaceFrom pattern replacement 0 (head :: before) rest
      | some (skip + 1) => replacement ++ replaceFrom pattern replacement skip (head :: before) rest
  | skip + 1, before, head :: rest => replaceFrom pattern replacement skip (head :: before) rest

def replace (pattern : Pattern α) (replacement text : List α) : List α := pattern.replaceFrom replacement 0 [] text

theorem take_all {member : α → Bool} {text : List α} {n : Nat} (short : n ≤ text.length) :
    (∀ element ∈ text.take n, member element = true) ↔ n ≤ (text.takeWhile member).length := by
  induction text generalizing n with
  | nil =>
      have none_ : n = 0 := by simpa using short
      simp [none_]
  | cons head rest ih =>
      cases n with
      | zero => simp
      | succ n =>
          have shorter : n ≤ rest.length := by simpa using short
          by_cases belongs : member head
          · simpa [belongs] using ih shorter
          · simp [belongs]

theorem none_taken {text : List α} {n : Nat} : n ≤ text.length ∧ (n = 0 ∨ text = []) ↔ n = 0 := by
  rw [← List.length_eq_zero_iff]
  omega

/-- The matcher tries what the pattern says, and nothing else. -/
theorem mem_lengths {pattern : Pattern α} {before text : List α} {n : Nat} :
    n ∈ pattern.lengths before text ↔ n ≤ text.length ∧ pattern.Matches before (text.take n) (text.drop n) := by
  induction pattern generalizing before text n with
  | unit member =>
      cases text with
      | nil => simp [lengths, Matches]
      | cons head rest =>
          cases n with
          | zero => by_cases belongs : member head <;> simp [lengths, Matches, belongs]
          | succ n =>
              by_cases belongs : member head <;> simp [lengths, Matches, belongs, none_taken]
  | many member =>
      simp only [lengths, Matches, mem_downFrom]
      constructor
      · rintro ⟨some_, within⟩
        have short := within.trans (List.takeWhile_prefix member).length_le
        refine ⟨short, ?_, (take_all short).mpr within⟩
        rw [ne_eq, List.take_eq_nil_iff, ← List.length_eq_zero_iff]
        omega
      · rintro ⟨short, some_, all⟩
        refine ⟨?_, (take_all short).mp all⟩
        rw [ne_eq, List.take_eq_nil_iff] at some_
        omega
  | start =>
      cases before with
      | nil => simp [lengths, Matches, none_taken]
      | cons head rest => simp [lengths, Matches]
  | stop =>
      cases text with
      | nil => simp [lengths, Matches]
      | cons head rest =>
          -- The text would be empty, as both of its parts are.
          simp only [lengths, Matches, List.isEmpty_cons, Bool.false_eq_true, if_false, List.not_mem_nil, false_iff]
          rintro ⟨_, matched, ends⟩
          have whole := List.take_append_drop n (head :: rest)
          rw [matched, ends] at whole
          cases whole
  | seq first second left right =>
      simp only [lengths, Matches, List.mem_flatMap, List.mem_map, left, right]
      constructor
      · rintro ⟨front, ⟨frontShort, frontMatches⟩, back, ⟨backShort, backMatches⟩, rfl⟩
        rw [List.length_drop] at backShort
        refine ⟨by omega, text.take front, (text.drop front).take back, List.take_add .., ?_, ?_⟩
        · rwa [← List.drop_drop, List.take_append_drop]
        · rwa [List.drop_drop] at backMatches
      · rintro ⟨short, front, back, split, frontMatches, backMatches⟩
        have whole : text = front ++ (back ++ text.drop n) := by
          rw [← List.append_assoc, ← split, List.take_append_drop]
        have total : front.length + back.length = n := by
          rw [← List.length_append, ← split, List.length_take]
          omega
        refine ⟨front.length, ?_, back.length, ?_, total⟩
        · rw [whole]
          simpa using frontMatches
        · rw [whole]
          simpa using backMatches
  | alt first second left right =>
      simp only [lengths, Matches, List.mem_append, left, right]
      exact and_or_left.symm

theorem isSome_here {pattern : Pattern α} {before text : List α} : (pattern.here before text).isSome = true ↔
    ∃ matched rest, text = matched ++ rest ∧ pattern.Matches before matched rest := by
  rw [here, List.isSome_head?]
  constructor
  · intro some_
    obtain ⟨n, member⟩ := List.exists_mem_of_ne_nil _ (by simpa using some_)
    exact ⟨_, _, (List.take_append_drop n text).symm, (mem_lengths.mp member).2⟩
  · rintro ⟨matched, rest, rfl, holds⟩
    have member : matched.length ∈ pattern.lengths before (matched ++ rest) := by
      rw [mem_lengths]
      simpa using holds
    simpa using List.ne_nil_of_mem member

theorem testFrom_iff {pattern : Pattern α} {before text : List α} : pattern.testFrom before text = true ↔
    ∃ front matched rest, text = front ++ (matched ++ rest) ∧
      pattern.Matches (front.reverse ++ before) matched rest := by
  induction text generalizing before with
  | nil =>
      rw [testFrom, isSome_here]
      constructor
      · rintro ⟨matched, rest, split, holds⟩
        exact ⟨[], matched, rest, split, holds⟩
      · rintro ⟨front, matched, rest, split, holds⟩
        cases front with
        | nil => exact ⟨matched, rest, split, holds⟩
        | cons first front => cases split
  | cons head tail ih =>
      rw [testFrom, Bool.or_eq_true, isSome_here, ih]
      constructor
      · rintro (⟨matched, rest, split, holds⟩ | ⟨front, matched, rest, rfl, holds⟩)
        · exact ⟨[], matched, rest, split, holds⟩
        · exact ⟨head :: front, matched, rest, rfl, by simpa using holds⟩
      · rintro ⟨front, matched, rest, split, holds⟩
        cases front with
        | nil => exact .inl ⟨matched, rest, split, holds⟩
        | cons first front =>
            obtain ⟨rfl, rfl⟩ := List.cons.inj split
            exact .inr ⟨front, matched, rest, rfl, by simpa using holds⟩

/-- `test` finds a match wherever in the text there is one. -/
theorem test_iff {pattern : Pattern α} {text : List α} : pattern.test text = true ↔
    ∃ front matched rest, text = front ++ (matched ++ rest) ∧ pattern.Matches front.reverse matched rest := by
  rw [test, testFrom_iff]
  simp

/-- A run of a class between the anchors is the whole text. -/
theorem test_whole {member : α → Bool} {text : List α} :
    (seq start (seq (many member) stop)).test text = true ↔ text ≠ [] ∧ ∀ element ∈ text, member element = true := by
  rw [test_iff]
  constructor
  · rintro ⟨front, matched, rest, rfl, first, others, rfl, ⟨rfl, begins⟩, run, last, rfl, holds, rfl, rfl⟩
    have begins : front = [] := by simpa using begins
    subst begins
    simpa [Matches] using holds
  · intro holds
    exact ⟨[], text, [], by simp, [], text, rfl, ⟨rfl, rfl⟩, text, [], by simp, holds, rfl, rfl⟩

variable {member : α → Bool} {before rest : List α} {head : α}

@[simp] theorem here_unit_nil : (unit member).here before [] = none := rfl

@[simp] theorem here_unit_cons : (unit member).here before (head :: rest) = if member head then some 1 else none := by
  by_cases belongs : member head <;> simp [here, lengths, belongs]

theorem here_many : (many member).here before rest =
    match (rest.takeWhile member).length with
    | 0 => none
    | n + 1 => some (n + 1) := by
  unfold here lengths
  cases (rest.takeWhile member).length <;> rfl

theorem replaceFrom_unit (value : α) (before text : List α) : (unit member).replaceFrom [value] 0 before text =
    text.map fun element => if member element then value else element := by
  induction text generalizing before with
  | nil => simp [replaceFrom]
  | cons head rest ih => by_cases belongs : member head <;> simp [replaceFrom, belongs, ih]

/-- A replaced class maps the text. -/
theorem replace_unit (value : α) (text : List α) : (unit member).replace [value] text =
    text.map fun element => if member element then value else element :=
  replaceFrom_unit value [] text

end Pattern

/-- Every run of members as one value. -/
def squeeze (member : α → Bool) (value : α) : (inRun : Bool) → List α → List α
  | _, [] => []
  | inRun, head :: rest =>
      if member head then (if inRun then [] else [value]) ++ squeeze member value true rest
      else head :: squeeze member value false rest

/-- Less one member at the front, if it begins with one. -/
def dropHead (member : α → Bool) : List α → List α
  | [] => []
  | head :: rest => if member head then rest else head :: rest

/-- Less one member at the back. -/
def dropLast (member : α → Bool) (text : List α) : List α := (dropHead member text.reverse).reverse

/-- No two members stand side by side. -/
def Separated (member : α → Bool) (text : List α) : Prop :=
  text.IsChain fun left right => ¬(member left = true ∧ member right = true)

section
variable {member : α → Bool} {value : α} {text : List α}

/-- A run is replaced where it begins, and skipped from there on. -/
theorem Pattern.replaceFrom_many (text before : List α) :
    (Pattern.many member).replaceFrom [value] 0 before text = squeeze member value false text ∧
    (Pattern.many member).replaceFrom [value] (text.takeWhile member).length before text =
      squeeze member value true text := by
  induction text generalizing before with
  | nil => simp [replaceFrom, squeeze, here_many]
  | cons head rest ih => by_cases belongs : member head <;> simp [replaceFrom, squeeze, here_many, belongs, ih]

theorem Pattern.replace_many (value : α) (text : List α) :
    (Pattern.many member).replace [value] text = squeeze member value false text :=
  (Pattern.replaceFrom_many text []).1

theorem mem_squeeze {inRun : Bool} {element : α} (kept : element ∈ squeeze member value inRun text) :
    element = value ∨ element ∈ text := by
  induction text generalizing inRun with
  | nil => simp [squeeze] at kept
  | cons head rest ih =>
      rw [squeeze] at kept
      split at kept
      · rcases List.mem_append.mp kept with first | kept
        · left
          cases inRun with
          | true => cases first
          | false => exact List.mem_singleton.mp first
        · exact (ih kept).imp_right (List.mem_cons_of_mem head)
      · rcases List.mem_cons.mp kept with rfl | kept
        · exact .inr List.mem_cons_self
        · exact (ih kept).imp_right (List.mem_cons_of_mem head)

/-- What follows a run does not begin with a member. -/
theorem separated_squeeze (member : α → Bool) (value : α) (text : List α) :
    Separated member (squeeze member value false text) ∧ Separated member (squeeze member value true text) ∧
    ∀ head ∈ (squeeze member value true text).head?, member head = false := by
  induction text with
  | nil => simp [squeeze, Separated]
  | cons head rest ih =>
      obtain ⟨outside, inside, follows⟩ := ih
      by_cases belongs : member head
      · simp only [squeeze, belongs, if_true]
        refine ⟨List.isChain_cons.mpr ⟨?_, inside⟩, inside, follows⟩
        intro next here both
        exact absurd both.2 (by simp [follows next here])
      · have chained : Separated member (head :: squeeze member value false rest) := by
          refine List.isChain_cons.mpr ⟨?_, outside⟩
          exact fun _ _ both => belongs both.1
        simp only [squeeze, belongs]
        refine ⟨chained, chained, ?_⟩
        simpa using belongs

/-- Members that are the value already, and apart, stay. -/
theorem squeeze_separated (only : ∀ element, member element = true → element = value)
    (separated : Separated member text) : squeeze member value false text = text ∧
    ((∀ head ∈ text.head?, member head = false) → squeeze member value true text = text) := by
  induction text with
  | nil => simp [squeeze]
  | cons head rest ih =>
      obtain ⟨apart, others⟩ := List.isChain_cons.mp separated
      obtain ⟨outside, inside⟩ := ih others
      by_cases belongs : member head
      · constructor
        · have follows : ∀ next ∈ rest.head?, member next = false := by
            intro next here
            simpa [belongs] using apart next here
          simp [squeeze, belongs, inside follows]
          exact (only head belongs).symm
        · intro begins
          exact absurd belongs (by simp [begins head rfl])
      · simp [squeeze, belongs, outside]

theorem suffix_dropHead (member : α → Bool) (text : List α) : dropHead member text <:+ text := by
  cases text with
  | nil => exact List.suffix_rfl
  | cons head rest => by_cases belongs : member head <;> simp [dropHead, belongs]

theorem prefix_dropLast (member : α → Bool) (text : List α) : dropLast member text <+: text := by
  rw [← List.reverse_suffix, dropLast, List.reverse_reverse]
  exact suffix_dropHead member text.reverse

theorem dropHead_self (begins : ∀ head ∈ text.head?, member head = false) : dropHead member text = text := by
  cases text with
  | nil => rfl
  | cons head rest => simp [dropHead, begins head rfl]

theorem dropLast_self (ends : ∀ last ∈ text.getLast?, member last = false) : dropLast member text = text := by
  rw [dropLast, dropHead_self, List.reverse_reverse]
  simpa using ends

/-- Less a member, a text whose members stand apart begins with none. -/
theorem head_dropHead (separated : Separated member text) :
    ∀ head ∈ (dropHead member text).head?, member head = false := by
  cases text with
  | nil => simp [dropHead]
  | cons head rest =>
      by_cases belongs : member head
      · intro next here
        simp only [dropHead, belongs, if_true] at here
        simpa [belongs] using (List.isChain_cons.mp separated).1 next here
      · simp [dropHead, belongs]

theorem Separated.reverse (separated : Separated member text) : Separated member text.reverse := by
  refine List.isChain_reverse.mpr (List.IsChain.imp ?_ separated)
  exact fun _ _ apart both => apart both.symm

theorem last_dropLast (separated : Separated member text) :
    ∀ last ∈ (dropLast member text).getLast?, member last = false := by
  rw [dropLast, List.getLast?_reverse]
  exact head_dropHead separated.reverse

/-- A prefix begins as the text does, if it begins at all. -/
theorem head_dropLast (begins : ∀ head ∈ text.head?, member head = false) :
    ∀ head ∈ (dropLast member text).head?, member head = false := by
  obtain ⟨back, split⟩ := prefix_dropLast member text
  intro head here
  apply begins
  rw [← split, List.head?_append, here]
  rfl

theorem dropLast_cons {head : α} {rest : List α} (kept : rest ≠ [] ∨ member head = false) :
    dropLast member (head :: rest) = head :: dropLast member rest := by
  unfold dropLast
  rw [List.reverse_cons]
  cases back : rest.reverse with
  | nil =>
      have none_ : rest = [] := by simpa using back
      have stays : member head = false := by simpa [none_] using kept
      simp [dropHead, stays]
  | cons last others => by_cases belongs : member last <;> simp [dropHead, belongs]

namespace Pattern

/-- A member at either end of the text. -/
def edges (member : α → Bool) : Pattern α := alt (seq start (unit member)) (seq (unit member) stop)

theorem here_edges {before : List α} {head : α} {rest : List α} : (edges member).here before (head :: rest) =
    if member head ∧ (before = [] ∨ rest = []) then some 1 else none := by
  cases before <;> cases rest <;> by_cases belongs : member head <;>
    simp [edges, here, lengths, belongs]

/-- Behind the first position only the last element can go. -/
theorem replaceFrom_edges {before : List α} (inside : before ≠ []) (text : List α) :
    (edges member).replaceFrom [] 0 before text = dropLast member text := by
  induction text generalizing before with
  | nil => simp [replaceFrom, dropLast, dropHead]
  | cons head rest ih =>
      have rest_ := ih (List.cons_ne_nil head before)
      by_cases taken : member head = true ∧ rest = []
      · obtain ⟨belongs, rfl⟩ := taken
        simp [replaceFrom, here_edges, belongs, dropLast, dropHead]
      · have kept : rest ≠ [] ∨ member head = false := by grind
        rw [dropLast_cons kept, ← rest_, replaceFrom, here_edges, if_neg (by grind)]

theorem replace_edges (text : List α) :
    (edges member).replace [] text = dropLast member (dropHead member text) := by
  unfold replace
  cases text with
  | nil => simp [replaceFrom, dropLast, dropHead]
  | cons head rest =>
      have rest_ : (edges member).replaceFrom [] 0 [head] rest = dropLast member rest :=
        replaceFrom_edges (List.cons_ne_nil head []) rest
      by_cases belongs : member head
      · simp [replaceFrom, here_edges, belongs, dropHead, rest_]
      · simp [replaceFrom, here_edges, belongs, dropHead, rest_, dropLast_cons]

end Pattern

end

end RunnersMux.Foundations
