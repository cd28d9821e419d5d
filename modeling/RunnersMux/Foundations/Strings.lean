import Mathlib.Algebra.Group.Int.Defs

/-! The functions of Go's `strings` and `strconv` packages that names, URLs and
settings go through.

They act on the characters of a string. The separators of the code are ASCII,
so cutting at a character and cutting at its byte give the same pieces.
-/

set_option autoImplicit false

namespace RunnersMux.Foundations

def hasPrefix (text lead : String) : Bool := lead.toList.isPrefixOf text.toList

def trimPrefix (text lead : String) : String :=
  if hasPrefix text lead then String.ofList (text.toList.drop lead.toList.length) else text

/-- The index of the last occurrence; `none` is the -1 of the source. -/
def lastIndex (char : Char) : List Char → Option Nat
  | [] => none
  | head :: rest =>
      match lastIndex char rest with
      | some index => some (index + 1)
      | none => if head = char then some 0 else none

/-- `unicode.IsSpace`. -/
def isSpace (char : Char) : Bool :=
  char ∈ ['\t', '\n', '\x0b', '\x0c', '\r', ' ', '\u0085', '\u00a0', '\u1680', '\u2028', '\u2029', '\u202f',
    '\u205f', '\u3000'] || ('\u2000' ≤ char && char ≤ '\u200a')

/-- What `TrimSpace` trims to the empty string. -/
def blank (text : String) : Bool := text.toList.all isSpace

/-- The values of an `int` of 64 bits. -/
def InRange (value : Int) : Prop := -2 ^ 63 ≤ value ∧ value < 2 ^ 63

instance (value : Int) : Decidable (InRange value) := inferInstanceAs (Decidable (_ ∧ _))

/-- A non-empty run of decimal digits. -/
def digits (chars : List Char) : Option Nat :=
  if chars ≠ [] ∧ chars.all Char.isDigit = true then some (Nat.ofDigitChars 10 chars 0) else none

/-- `strconv.Atoi`: a sign, then digits, within range. -/
def atoi (text : String) : Option Int :=
  (match text.toList with
    | '-' :: rest => (digits rest).map fun value : Nat => -(value : Int)
    | '+' :: rest => (digits rest).map fun value : Nat => (value : Int)
    | chars => (digits chars).map fun value : Nat => (value : Int)).filter fun value => decide (InRange value)

/-- `strconv.Itoa`. -/
def itoa (value : Int) : String := value.repr

theorem hasPrefix_append (lead rest : String) : hasPrefix (lead ++ rest) lead = true := by
  simp [hasPrefix]

theorem trimPrefix_append (lead rest : String) : trimPrefix (lead ++ rest) lead = rest := by
  unfold trimPrefix
  rw [if_pos (hasPrefix_append lead rest)]
  simp

theorem lastIndex_absent {char : Char} {text : List Char} (absent : char ∉ text) : lastIndex char text = none := by
  induction text with
  | nil => rfl
  | cons head rest ih =>
      rw [List.mem_cons, not_or] at absent
      simp [lastIndex, ih absent.2, Ne.symm absent.1]

/-- The last separator stands before what has none. -/
theorem lastIndex_append {char : Char} {back : List Char} (absent : char ∉ back) (front : List Char) :
    lastIndex char (front ++ char :: back) = some front.length := by
  induction front with
  | nil => simp [lastIndex, lastIndex_absent absent]
  | cons head rest ih => simp [lastIndex, ih]

theorem digits_repr (value : Nat) : digits value.repr.toList = some value := by
  have printed : value.repr.toList = Nat.toDigits 10 value := Nat.toList_repr
  unfold digits
  rw [printed, if_pos]
  · rw [Nat.ofDigitChars_ten_toDigits]
  · refine ⟨Nat.toDigits_ne_nil, ?_⟩
    rw [List.all_eq_true]
    intro char member
    exact Nat.isDigit_of_mem_toDigits (by decide) (by decide) member

theorem filter_fits {value : Int} (fits : InRange value) :
    (some value).filter (fun other => decide (InRange other)) = some value := by
  rw [Option.filter_some, if_pos (decide_eq_true fits)]

/-- What `Itoa` prints, `Atoi` reads. -/
theorem atoi_itoa {value : Int} (fits : InRange value) : atoi (itoa value) = some value := by
  unfold atoi
  cases value with
  | ofNat n =>
      have shape : (itoa (.ofNat n)).toList = n.repr.toList := rfl
      rw [shape]
      have unsigned : ∀ char ∈ n.repr.toList, char.isDigit = true := by
        rw [Nat.toList_repr]
        exact fun char member => Nat.isDigit_of_mem_toDigits (by decide) (by decide) member
      have read := digits_repr n
      split
      · next rest shape =>
          rw [shape] at unsigned
          exact absurd (unsigned '-' List.mem_cons_self) (by decide)
      · next rest shape =>
          rw [shape] at unsigned
          exact absurd (unsigned '+' List.mem_cons_self) (by decide)
      · rw [read, Option.map_some]
        exact filter_fits fits
  | negSucc n =>
      have shape : (itoa (.negSucc n)).toList = '-' :: (n + 1).repr.toList := String.toList_append
      rw [shape]
      simp only [digits_repr, Option.map_some]
      exact filter_fits fits

end RunnersMux.Foundations
