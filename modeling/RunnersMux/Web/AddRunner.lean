import RunnersMux.Foundations.Casing
import RunnersMux.Foundations.Patterns
import RunnersMux.Orchestrator.Naming

/-! The names of the page that adds runners: what it makes of an owner and a
repository, and which names it takes for valid.

The four replacements of `sanitizeName` lower-case, put a dash for everything
else, collapse the dashes and trim them. Each keeps what the one before it has
established, so a name that comes out goes through again unchanged.
-/

set_option autoImplicit false

namespace RunnersMux.Web

open Foundations

def dash : UInt16 := 45

def isDash (unit : UInt16) : Bool := unit = dash

/-- `[a-z0-9_-]`. -/
def nameUnit (unit : UInt16) : Bool :=
  (97 ≤ unit && unit ≤ 122) || (48 ≤ unit && unit ≤ 57) || unit = 95 || unit = dash

def sanitizeName (data : CaseData) (name : List UInt16) : List UInt16 :=
  let lower := data.toLowerCase name
  let replaced := (Pattern.unit fun unit => !nameUnit unit).replace [dash] lower
  let collapsed := (Pattern.many isDash).replace [dash] replaced
  (Pattern.edges isDash).replace [] collapsed

/-- `/^[a-z0-9_-]+$/`. -/
def isValidName (name : List UInt16) : Bool := (Pattern.seq .start (.seq (.many nameUnit) .stop)).test name

/-- The fields of a repository that its name is made of; `repo` is empty for an organization. -/
structure AdminRepo where
  owner : List UInt16
  repo : List UInt16

/-- A digit of base 36. -/
def digitUnit (digit : Fin 36) : UInt16 := UInt16.ofNat (if digit.val < 10 then 48 + digit.val else 87 + digit.val)

/-- What `toString(36)` prints of a number below 1 with these digits behind its point. -/
def fractionText : List (Fin 36) → List UInt16
  | [] => [48]
  | digits => 48 :: 46 :: digits.map digitUnit

/-- `substring(2, 8)` of what `Math.random` has drawn. -/
def randomId (drawn : List (Fin 36)) : List UInt16 := ((fractionText drawn).take 8).drop 2

def generateName (data : CaseData) (repo : AdminRepo) (drawn : List (Fin 36)) : List UInt16 :=
  if repo.repo ≠ [] then
    sanitizeName data repo.owner ++ dash :: sanitizeName data repo.repo ++ dash :: randomId drawn
  else sanitizeName data repo.owner ++ dash :: randomId drawn

/-- A valid name or none, with its dashes apart and inside. -/
structure Tidy (name : List UInt16) : Prop where
  valid : name = [] ∨ isValidName name = true
  separated : Separated isDash name
  begins : name.head? ≠ some dash
  ends : name.getLast? ≠ some dash

theorem isValidName_iff {name : List UInt16} :
    isValidName name = true ↔ name ≠ [] ∧ ∀ unit ∈ name, nameUnit unit = true := Pattern.test_whole

theorem Tidy.units {name : List UInt16} (tidy : Tidy name) : ∀ unit ∈ name, nameUnit unit = true := by
  rcases tidy.valid with rfl | valid
  · simp
  · exact (isValidName_iff.mp valid).2

/-- The second replacement. -/
def replaceUnit (unit : UInt16) : UInt16 := if !nameUnit unit then dash else unit

theorem nameUnit_replaceUnit (unit : UInt16) : nameUnit (replaceUnit unit) = true := by
  by_cases allowed : nameUnit unit
  · simp [replaceUnit, allowed]
  · rw [replaceUnit, if_pos (by simp [allowed])]
    decide

theorem replaceUnit_self {unit : UInt16} (allowed : nameUnit unit = true) : replaceUnit unit = unit := by
  simp [replaceUnit, allowed]

theorem sanitizeName_eq (data : CaseData) (name : List UInt16) : sanitizeName data name =
    dropLast isDash (dropHead isDash (squeeze isDash dash false ((data.toLowerCase name).map replaceUnit))) := by
  rw [sanitizeName, Pattern.replace_unit, Pattern.replace_many, Pattern.replace_edges]
  rfl

theorem isDash_dash {unit : UInt16} : isDash unit = true ↔ unit = dash := by
  simp [isDash]

/-- An end that is no dash. -/
theorem ne_dash {end_ : Option UInt16} : end_ ≠ some dash ↔ ∀ unit ∈ end_, isDash unit = false := by
  cases end_ <;> simp [isDash]

theorem sanitizeName_units {data : CaseData} {name : List UInt16} :
    ∀ unit ∈ sanitizeName data name, nameUnit unit = true := by
  intro unit member
  rw [sanitizeName_eq] at member
  have squeezed := (suffix_dropHead _ _).subset ((prefix_dropLast _ _).subset member)
  rcases mem_squeeze squeezed with rfl | replaced
  · decide
  · obtain ⟨lower, _, rfl⟩ := List.mem_map.mp replaced
    exact nameUnit_replaceUnit lower

theorem tidy_sanitizeName (data : CaseData) (name : List UInt16) : Tidy (sanitizeName data name) := by
  have apart := (separated_squeeze isDash dash ((data.toLowerCase name).map replaceUnit)).1
  have trimmed := apart.suffix (suffix_dropHead isDash _)
  constructor
  · by_cases empty : sanitizeName data name = []
    · exact .inl empty
    · exact .inr (isValidName_iff.mpr ⟨empty, sanitizeName_units⟩)
  · rw [sanitizeName_eq]
    exact trimmed.prefix (prefix_dropLast isDash _)
  · rw [sanitizeName_eq, ne_dash]
    exact head_dropLast (head_dropHead apart)
  · rw [sanitizeName_eq, ne_dash]
    exact last_dropLast trimmed

/-- A unit of a name is ASCII and no capital. -/
theorem nameUnit_lower {unit : UInt16} (allowed : nameUnit unit = true) :
    unit.toNat < 128 ∧ ¬(65 ≤ unit.toNat ∧ unit.toNat ≤ 90) := by
  simp only [nameUnit, dash, Bool.or_eq_true, Bool.and_eq_true, decide_eq_true_eq, UInt16.le_iff_toNat_le,
    ← UInt16.toNat_inj, UInt16.reduceToNat] at allowed
  omega

/-- None of the four replacements finds anything in a tidy name. -/
theorem sanitizeName_tidy (data : CaseData) {name : List UInt16} (tidy : Tidy name) : sanitizeName data name = name := by
  have lower : data.toLowerCase name = name :=
    CaseData.toLowerCase_ascii fun unit member => nameUnit_lower (tidy.units unit member)
  have replaced : name.map replaceUnit = name :=
    (List.map_congr_left fun unit member => replaceUnit_self (tidy.units unit member)).trans (List.map_id name)
  have squeezed : squeeze isDash dash false name = name :=
    (squeeze_separated (fun _ => isDash_dash.mp) tidy.separated).1
  rw [sanitizeName_eq, lower, replaced, squeezed, dropHead_self (ne_dash.mp tidy.begins),
    dropLast_self (ne_dash.mp tidy.ends)]

theorem nameUnit_digitUnit : ∀ digit : Fin 36, nameUnit (digitUnit digit) = true := by
  decide

/-- The point of a fraction is the second character, which `substring` leaves out. -/
theorem randomId_units (drawn : List (Fin 36)) : ∀ unit ∈ randomId drawn, nameUnit unit = true := by
  cases drawn with
  | nil => simp [randomId, fractionText]
  | cons first rest =>
      intro unit member
      have digits : unit ∈ (first :: rest).map digitUnit := by
        simp only [randomId, fractionText, List.take_succ_cons, List.drop_succ_cons, List.drop_zero] at member
        exact List.mem_of_mem_take member
      obtain ⟨digit, _, rfl⟩ := List.mem_map.mp digits
      exact nameUnit_digitUnit digit

theorem join_units {front back : List UInt16} (left : ∀ unit ∈ front, nameUnit unit = true)
    (right : ∀ unit ∈ back, nameUnit unit = true) : ∀ unit ∈ front ++ dash :: back, nameUnit unit = true := by
  intro unit member
  rcases List.mem_append.mp member with member | member
  · exact left unit member
  · rcases List.mem_cons.mp member with rfl | member
    · decide
    · exact right unit member

theorem isValidName_generateName (data : CaseData) (repo : AdminRepo) (drawn : List (Fin 36)) :
    isValidName (generateName data repo drawn) = true := by
  rw [isValidName_iff]
  unfold generateName
  split
  · exact ⟨by simp, join_units (join_units sanitizeName_units sanitizeName_units) (randomId_units drawn)⟩
  · exact ⟨by simp, join_units sanitizeName_units (randomId_units drawn)⟩

/-- Sanitising is a projection onto the tidy names, and the names that are generated are valid. -/
theorem sanitizeName_projects (data : CaseData) :
    (∀ name, Tidy (sanitizeName data name)) ∧
    (∀ name, sanitizeName data (sanitizeName data name) = sanitizeName data name) ∧
    (∀ name, sanitizeName data name = name ↔ Tidy name) ∧
    ∀ repo drawn, isValidName (generateName data repo drawn) = true := by
  refine ⟨tidy_sanitizeName data, ?_, ?_, isValidName_generateName data⟩
  · intro name
    exact sanitizeName_tidy data (tidy_sanitizeName data name)
  · intro name
    constructor
    · intro fixed
      rw [← fixed]
      exact tidy_sanitizeName data name
    · exact sanitizeName_tidy data

/-- `!A  B!` is `a-b`, and `! !` is nothing. -/
example : sanitizeName default [33, 65, 32, 32, 66, 33] = [97, 45, 98] ∧ sanitizeName default [33, 32, 33] = [] := by
  decide +kernel

/-- What `encoding/json` reads of a name that the page has sent. -/
def received (name : List UInt16) : RunnerName :=
  String.ofList ((codePoints name).map fun point => if point.isValidChar then Char.ofNat point else '\uFFFD')

theorem nameChar_nameUnit {unit : UInt16} (allowed : nameUnit unit = true) : nameChar (Char.ofNat unit.toNat) = true := by
  have small := (nameUnit_lower allowed).1
  have table : ∀ point < 128, nameUnit (UInt16.ofNat point) = true → nameChar (Char.ofNat point) = true := by
    decide +kernel
  exact table unit.toNat small (by rwa [UInt16.ofNat_toNat])

/-- A name that the page takes for valid is one that Docker takes. -/
theorem nameable_received {name : List UInt16} (valid : isValidName name = true) :
    System.nameable (received name) := by
  obtain ⟨some_, units⟩ := isValidName_iff.mp valid
  have ascii : ∀ unit ∈ name, unit.toNat < 128 := fun unit member => (nameUnit_lower (units unit member)).1
  constructor
  · intro empty
    have points : codePoints name = [] := by
      simpa [received, String.toList_ofList] using congrArg String.toList empty
    apply some_
    rw [← utf16_codePoints name, points]
    rfl
  · rw [received, String.toList_ofList, List.all_map, List.all_eq_true]
    intro point member
    obtain ⟨unit, here, rfl⟩ := CaseData.mem_codePoints_ascii ascii member
    have char : unit.toNat.isValidChar := .inl ((ascii unit here).trans (by decide))
    simp only [Function.comp_apply, char, if_true]
    exact nameChar_nameUnit (units unit here)

/-- The field for the name; `nameManuallyEdited` says that the user has typed in it. -/
structure NameField where
  name : List UInt16
  nameManuallyEdited : Bool

inductive NameAction where
  | change (value : List UInt16)
  | resetToAuto
  | fixFormat

namespace NameField

def empty : NameField := ⟨[], false⟩

def apply (data : CaseData) (field : NameField) : NameAction → NameField
  | .change value => ⟨value, true⟩
  | .resetToAuto => empty
  | .fixFormat => { field with name := sanitizeName data field.name }

/-- The page disables the submit button. -/
def isNameInvalid (field : NameField) (isBatch : Bool) : Bool :=
  !isBatch && field.nameManuallyEdited && !field.name.isEmpty && !isValidName field.name

/-- The name that `handleSubmit` sends for a repository. -/
def runnerName (field : NameField) (data : CaseData) (isBatch : Bool) (repo : AdminRepo) (drawn : List (Fin 36)) :
    List UInt16 :=
  if isBatch then generateName data repo drawn
  else if field.name.isEmpty then generateName data repo drawn else field.name

/-- A name in the field has been typed, also one that has been put into format since. -/
def Typed (field : NameField) : Prop := field.name ≠ [] → field.nameManuallyEdited = true

theorem typed_apply (data : CaseData) {field : NameField} (typed : field.Typed) (action : NameAction) :
    (field.apply data action).Typed := by
  cases action with
  | change value => exact fun _ => rfl
  | resetToAuto => exact fun some_ => absurd rfl some_
  | fixFormat =>
      intro some_
      apply typed
      intro none_
      have nothing : Tidy [] := ⟨.inl rfl, .nil, by simp, by simp⟩
      apply some_
      change sanitizeName data field.name = []
      rw [none_, sanitizeName_tidy data nothing]

theorem valid_runnerName {data : CaseData} {field : NameField} {isBatch : Bool} (typed : field.Typed)
    (enabled : field.isNameInvalid isBatch = false) (repo : AdminRepo) (drawn : List (Fin 36)) :
    isValidName (field.runnerName data isBatch repo drawn) = true := by
  unfold runnerName
  split
  · exact isValidName_generateName data repo drawn
  · next single =>
      split
      · exact isValidName_generateName data repo drawn
      · next some_ =>
          have edited := typed (by simpa using some_)
          simpa [isNameInvalid, single, edited, some_] using enabled

end NameField

end RunnersMux.Web
