import Mathlib.Data.List.Basic

/-! `String.prototype.toLowerCase`.

A text of JavaScript is a list of 16-bit units. Its code points are lower-cased
after the tables of Unicode, whose rows beyond ASCII are open here: one code
point may become several.
-/

set_option autoImplicit false

namespace RunnersMux.Foundations

def isLeading (unit : UInt16) : Bool := 0xD800 ≤ unit && unit ≤ 0xDBFF

def isTrailing (unit : UInt16) : Bool := 0xDC00 ≤ unit && unit ≤ 0xDFFF

/-- `StringToCodePoints`. A surrogate outside a pair is a code point of its own. -/
def codePoints : List UInt16 → List Nat
  | [] => []
  | [unit] => [unit.toNat]
  | unit :: next :: rest =>
      if isLeading unit && isTrailing next then
        (0x10000 + (unit.toNat - 0xD800) * 0x400 + (next.toNat - 0xDC00)) :: codePoints rest
      else unit.toNat :: codePoints (next :: rest)

/-- `UTF16EncodeCodePoint`. -/
def utf16 (point : Nat) : List UInt16 :=
  if point < 0x10000 then [UInt16.ofNat point]
  else [UInt16.ofNat (0xD800 + (point - 0x10000) / 0x400), UInt16.ofNat (0xDC00 + (point - 0x10000) % 0x400)]

theorem utf16_unit (unit : UInt16) : utf16 unit.toNat = [unit] := by
  rw [utf16, if_pos unit.toNat_lt, UInt16.ofNat_toNat]

theorem utf16_pair {unit next : UInt16} (leading : isLeading unit = true) (trailing : isTrailing next = true) :
    utf16 (0x10000 + (unit.toNat - 0xD800) * 0x400 + (next.toNat - 0xDC00)) = [unit, next] := by
  simp only [isLeading, isTrailing, Bool.and_eq_true, decide_eq_true_eq, UInt16.le_iff_toNat_le] at leading trailing
  have bounds : 0xD800 ≤ unit.toNat ∧ 0xDC00 ≤ next.toNat ∧ next.toNat < 0xDC00 + 0x400 := by
    exact ⟨leading.1, trailing.1, Nat.lt_succ_of_le trailing.2⟩
  generalize point : 0x10000 + (unit.toNat - 0xD800) * 0x400 + (next.toNat - 0xDC00) = whole
  have high : 0xD800 + (whole - 0x10000) / 0x400 = unit.toNat := by omega
  have low : 0xDC00 + (whole - 0x10000) % 0x400 = next.toNat := by omega
  rw [utf16, if_neg (by omega), high, low, UInt16.ofNat_toNat, UInt16.ofNat_toNat]

/-- No unit is lost, in or outside a pair. -/
theorem utf16_codePoints (text : List UInt16) : (codePoints text).flatMap utf16 = text := by
  induction text using codePoints.induct with
  | case1 => rfl
  | case2 unit => simp [codePoints, utf16_unit]
  | case3 unit next rest paired ih =>
      have both := Bool.and_eq_true_iff.mp paired
      simp [codePoints, paired, ih, utf16_pair both.1 both.2]
  | case4 unit next rest apart ih => simp [codePoints, apart, ih, utf16_unit]

/-- The tables of Unicode that lower-casing reads, in any version that keeps ASCII. -/
structure CaseData where
  lower : Nat → List Nat
  cased : Nat → Bool
  caseIgnorable : Nat → Bool
  ascii : ∀ point < 128, lower point = [if 65 ≤ point ∧ point ≤ 90 then point + 32 else point]

namespace CaseData

/-- Nothing but ASCII. -/
instance : Inhabited CaseData where
  default := {
    lower := fun point => [if 65 ≤ point ∧ point ≤ 90 then point + 32 else point]
    cased := fun point => (65 ≤ point && point ≤ 90) || (97 ≤ point && point ≤ 122)
    caseIgnorable := fun point => point ∈ [0x27, 0x2E, 0x3A, 0x5E, 0x60]
    ascii := fun _ _ => rfl }

variable (data : CaseData)

/-- A cased letter stands behind nothing but case-ignorable characters. -/
def reachesCased : List Nat → Bool
  | [] => false
  | point :: rest => data.cased point || (data.caseIgnorable point && reachesCased rest)

/-- A final sigma, by the condition `Final_Sigma`; every other mapping is without one. -/
def lowerAt (before : List Nat) (point : Nat) (rest : List Nat) : List Nat :=
  if point = 0x03A3 ∧ data.reachesCased before = true ∧ data.reachesCased rest = false then [0x03C2]
  else data.lower point

def lowerFrom : (before : List Nat) → List Nat → List Nat
  | _, [] => []
  | before, point :: rest => data.lowerAt before point rest ++ lowerFrom (point :: before) rest

def toLowerCase (text : List UInt16) : List UInt16 := (data.lowerFrom [] (codePoints text)).flatMap utf16

variable {data}

theorem lowerFrom_fixed {points : List Nat} (before : List Nat)
    (fixed : ∀ point ∈ points, point ≠ 0x03A3 ∧ data.lower point = [point]) : data.lowerFrom before points = points := by
  induction points generalizing before with
  | nil => rfl
  | cons point rest ih =>
      obtain ⟨other, same⟩ := fixed point List.mem_cons_self
      simp [lowerFrom, lowerAt, other, same, ih _ fun next member => fixed next (List.mem_cons_of_mem _ member)]

/-- A text without capitals stays as it is, whatever pairs it has. -/
theorem toLowerCase_fixed {text : List UInt16}
    (fixed : ∀ point ∈ codePoints text, point ≠ 0x03A3 ∧ data.lower point = [point]) : data.toLowerCase text = text := by
  rw [toLowerCase, lowerFrom_fixed [] fixed, utf16_codePoints]

/-- An ASCII text is its code points. -/
theorem mem_codePoints_ascii {text : List UInt16} (ascii : ∀ unit ∈ text, unit.toNat < 128) {point : Nat}
    (member : point ∈ codePoints text) : ∃ unit ∈ text, unit.toNat = point := by
  induction text using codePoints.induct with
  | case1 => simp [codePoints] at member
  | case2 unit => simpa [codePoints, eq_comm] using member
  | case3 unit next rest paired =>
      simp only [isLeading, Bool.and_eq_true, decide_eq_true_eq, UInt16.le_iff_toNat_le] at paired
      have leading : 0xD800 ≤ unit.toNat := paired.1.1
      have low := ascii unit List.mem_cons_self
      omega
  | case4 unit next rest apart ih =>
      simp only [codePoints, apart, Bool.false_eq_true, if_false, List.mem_cons] at member
      rcases member with rfl | member
      · exact ⟨unit, List.mem_cons_self, rfl⟩
      · obtain ⟨other, here, same⟩ := ih (fun unit here => ascii unit (List.mem_cons_of_mem _ here)) member
        exact ⟨other, List.mem_cons_of_mem _ here, same⟩

theorem toLowerCase_ascii {text : List UInt16}
    (small : ∀ unit ∈ text, unit.toNat < 128 ∧ ¬(65 ≤ unit.toNat ∧ unit.toNat ≤ 90)) : data.toLowerCase text = text := by
  apply toLowerCase_fixed
  intro point member
  obtain ⟨unit, here, rfl⟩ := mem_codePoints_ascii (fun unit here => (small unit here).1) member
  obtain ⟨low, notCapital⟩ := small unit here
  refine ⟨by omega, ?_⟩
  rw [data.ascii _ low, if_neg notCapital]

end CaseData

end RunnersMux.Foundations
