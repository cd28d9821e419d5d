import RunnersMux.Foundations.Casing

/-! Texts of 16-bit units against texts of characters.

A text of characters survives the way to the units and back. On the other way a
surrogate without its partner is replaced, and nothing else is touched.
-/

set_option autoImplicit false

namespace RunnersMux.Foundations

/-- U+FFFD for what is no character. -/
def scalar (point : Nat) : Nat := if point.isValidChar then point else 0xFFFD

/-- The characters of a text, a lone surrogate replaced. -/
def mend (text : List UInt16) : List UInt16 := (codePoints text).flatMap fun point => utf16 (scalar point)

theorem toNat_unit {point : Nat} (small : point < 0x10000) : (UInt16.ofNat point).toNat = point :=
  UInt16.toNat_ofNat_of_lt' small

theorem isLeading_iff {unit : UInt16} : isLeading unit = true ↔ 0xD800 ≤ unit.toNat ∧ unit.toNat ≤ 0xDBFF := by
  simp [isLeading, UInt16.le_iff_toNat_le]

theorem isTrailing_iff {unit : UInt16} : isTrailing unit = true ↔ 0xDC00 ≤ unit.toNat ∧ unit.toNat ≤ 0xDFFF := by
  simp [isTrailing, UInt16.le_iff_toNat_le]

/-- A character is read back whatever follows it. -/
theorem codePoints_utf16 {point : Nat} (valid : point.isValidChar) (rest : List UInt16) :
    codePoints (utf16 point ++ rest) = point :: codePoints rest := by
  unfold utf16
  split
  · next small =>
      have same := toNat_unit small
      have unit : isLeading (UInt16.ofNat point) = false := by
        rw [Bool.eq_false_iff, Ne, isLeading_iff, same]
        rcases valid with low | high <;> omega
      cases rest with
      | nil => simp [codePoints, same]
      | cons next rest => simp [codePoints, unit, same]
  · next large =>
      have bound : point < 0x110000 := by
        rcases valid with low | high <;> omega
      generalize lead : 0xD800 + (point - 0x10000) / 0x400 = first
      generalize trail : 0xDC00 + (point - 0x10000) % 0x400 = second
      have high : (UInt16.ofNat first).toNat = first := toNat_unit (by omega)
      have low : (UInt16.ofNat second).toNat = second := toNat_unit (by omega)
      have leading : isLeading (UInt16.ofNat first) = true := isLeading_iff.mpr (by omega)
      have trailing : isTrailing (UInt16.ofNat second) = true := isTrailing_iff.mpr (by omega)
      have whole : 0x10000 + (first - 0xD800) * 0x400 + (second - 0xDC00) = point := by omega
      simp only [List.cons_append, List.nil_append, codePoints, leading, trailing, Bool.and_self, if_true, high, low,
        whole]

theorem codePoints_flatMap {points : List Nat} (valid : ∀ point ∈ points, point.isValidChar) :
    codePoints (points.flatMap utf16) = points := by
  induction points with
  | nil => rfl
  | cons point rest ih =>
      rw [List.flatMap_cons, codePoints_utf16 (valid point List.mem_cons_self),
        ih fun other member => valid other (List.mem_cons_of_mem _ member)]

/-- What one unit has become. -/
def Mended (unit later : UInt16) : Prop :=
  later = unit ∨ (0xD800 ≤ unit.toNat ∧ unit.toNat ≤ 0xDFFF) ∧ later = 0xFFFD

theorem mended_unit (unit : UInt16) : ∃ later, utf16 (scalar unit.toNat) = [later] ∧ Mended unit later := by
  unfold scalar
  split
  · exact ⟨unit, utf16_unit unit, .inl rfl⟩
  · next lone =>
      refine ⟨0xFFFD, rfl, .inr ⟨?_, rfl⟩⟩
      have small := unit.toNat_lt
      unfold Nat.isValidChar at lone
      omega

/-- Unit by unit, so that the ends of a text are those of the mended one. -/
theorem mend_mended (text : List UInt16) : List.Forall₂ Mended text (mend text) := by
  unfold mend
  induction text using codePoints.induct with
  | case1 => exact .nil
  | case2 unit =>
      obtain ⟨later, same, mended⟩ := mended_unit unit
      simpa [codePoints, same] using mended
  | case3 unit next rest paired ih =>
      have both := Bool.and_eq_true_iff.mp paired
      have valid : (0x10000 + (unit.toNat - 0xD800) * 0x400 + (next.toNat - 0xDC00)).isValidChar := by
        have leading := isLeading_iff.mp both.1
        have trailing := isTrailing_iff.mp both.2
        right
        omega
      simp only [codePoints, paired, if_true, List.flatMap_cons, scalar, valid, utf16_pair both.1 both.2]
      exact .cons (.inl rfl) (.cons (.inl rfl) ih)
  | case4 unit next rest apart ih =>
      obtain ⟨later, same, mended⟩ := mended_unit unit
      rw [codePoints, if_neg apart, List.flatMap_cons, same]
      exact .cons mended ih

end RunnersMux.Foundations
