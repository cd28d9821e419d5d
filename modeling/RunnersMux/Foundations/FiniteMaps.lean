import Mathlib.Algebra.BigOperators.Group.Finset.Basic
import Mathlib.Algebra.BigOperators.Group.Multiset.Basic
import Mathlib.Algebra.Order.BigOperators.Group.Multiset
import Mathlib.Data.Finmap
import Mathlib.Data.Int.Order.Basic
import Mathlib.Tactic.Abel

/-! Sums over the entries of a finite map.

A size, a count and a total are all one sum of weights, and one insertion or
deletion changes it by the weight of the single key it touches. Accounting
invariants over maps reduce to linear arithmetic through these equations.
-/

set_option autoImplicit false

namespace RunnersMux.Foundations

/-- A map from keys to values; absent keys are absent, not defaulted. -/
abbrev Map (Key Value : Type) := Finmap fun _ : Key => Value

namespace Map

variable {Key Value : Type}

def weigh (map : Map Key Value) (weight : Key → Value → Int) : Int :=
  (map.entries.map fun entry => weight entry.1 entry.2).sum

/-- Number of entries with a property. -/
def count (map : Map Key Value) (chosen : Key → Value → Bool) : Int :=
  map.weigh fun key value => if chosen key value then 1 else 0

def size (map : Map Key Value) : Int := map.weigh fun _ _ => 1

/-- The weight of whatever a lookup found. -/
def found (weight : Value → Int) : Option Value → Int
  | some value => weight value
  | none => 0

@[simp] theorem found_some (weight : Value → Int) (value : Value) :
    found weight (some value) = weight value := rfl

@[simp] theorem found_none (weight : Value → Int) : found weight none = 0 := rfl

theorem weigh_nonneg (map : Map Key Value) {weight : Key → Value → Int}
    (nonneg : ∀ key value, 0 ≤ weight key value) : 0 ≤ map.weigh weight := by
  refine Multiset.sum_nonneg fun summand member => ?_
  obtain ⟨entry, _, rfl⟩ := Multiset.mem_map.mp member
  exact nonneg entry.1 entry.2

theorem weigh_add (map : Map Key Value) (first second : Key → Value → Int) :
    (map.weigh fun key value => first key value + second key value) = map.weigh first + map.weigh second :=
  Multiset.sum_map_add

theorem count_nonneg (map : Map Key Value) (chosen : Key → Value → Bool) : 0 ≤ map.count chosen :=
  map.weigh_nonneg fun key value => by split <;> decide

theorem size_nonneg (map : Map Key Value) : 0 ≤ map.size := map.weigh_nonneg fun _ _ => by decide

theorem size_eq_zero {map : Map Key Value} : map.size = 0 ↔ map = ∅ := by
  have card : map.size = map.entries.card := by
    simp [size, weigh]
  rw [card]
  constructor
  · intro none_
    exact Finmap.ext (Multiset.card_eq_zero.mp (Int.ofNat_eq_zero.mp none_))
  · rintro rfl
    rfl

variable [DecidableEq Key]

/-- A property of all entries is decided at the keys. -/
instance decidableEntries (map : Map Key Value) (holds : Key → Value → Prop)
    [∀ key value, Decidable (holds key value)] :
    Decidable (∀ key value, map.lookup key = some value → holds key value) :=
  decidable_of_iff (∀ key ∈ map.keys, ∀ value ∈ map.lookup key, holds key value) <| by
    constructor
    · intro all key value found
      exact all key (Finmap.mem_keys.mpr (Finmap.mem_of_lookup_eq_some found)) value found
    · intro all key _ value found
      exact all key value found

instance decidableEntry (map : Map Key Value) (holds : Key → Value → Prop)
    [∀ key value, Decidable (holds key value)] :
    Decidable (∃ key value, map.lookup key = some value ∧ holds key value) :=
  decidable_of_iff (∃ key ∈ map.keys, ∃ value ∈ map.lookup key, holds key value) <| by
    constructor
    · rintro ⟨key, _, value, found, holds⟩
      exact ⟨key, value, found, holds⟩
    · rintro ⟨key, value, found, holds⟩
      exact ⟨key, Finmap.mem_keys.mpr (Finmap.mem_of_lookup_eq_some found), value, found, holds⟩

theorem lookup_insert_if (map : Map Key Value) (key other : Key) (value : Value) :
    (map.insert key value).lookup other = if other = key then some value else map.lookup other := by
  by_cases same : other = key
  · subst same
    simp
  · simp [same]

/-- An insertion loses no key. -/
theorem lookup_insert_known {map : Map Key Value} {key other : Key} {value old : Value}
    (known : map.lookup other = some old) : (map.insert key value).lookup other ≠ none := by
  rw [lookup_insert_if]
  split
  · nofun
  · rw [known]
    nofun

theorem lookup_erase_if (map : Map Key Value) (key other : Key) :
    (map.erase key).lookup other = if other = key then none else map.lookup other := by
  by_cases same : other = key
  · subst same
    simp
  · simp [same]

/-- What is left after a deletion was there before, under another key. -/
theorem lookup_erase_some {map : Map Key Value} {key other : Key} {value : Value}
    (found : (map.erase key).lookup other = some value) : other ≠ key ∧ map.lookup other = some value := by
  rw [lookup_erase_if] at found
  split at found
  · cases found
  · next apart => exact ⟨apart, found⟩

theorem lookup_of_erase {map : Map Key Value} {key other : Key} {value : Value}
    (found : (map.erase key).lookup other = some value) : map.lookup other = some value :=
  (lookup_erase_some found).2

theorem erase_absent {map : Map Key Value} {key : Key} (absent : map.lookup key = none) : map.erase key = map := by
  apply Finmap.ext_lookup
  intro other
  rw [lookup_erase_if]
  split
  · next same => rw [same, absent]
  · rfl

/-- What is there after an insertion is the new entry, or was there before. -/
theorem lookup_of_insert {map : Map Key Value} {key other : Key} {value entry : Value}
    (found : (map.insert key value).lookup other = some entry) :
    other = key ∧ value = entry ∨ other ≠ key ∧ map.lookup other = some entry := by
  rw [lookup_insert_if] at found
  split at found
  · next same => exact .inl ⟨same, Option.some.inj found⟩
  · next apart => exact .inr ⟨apart, found⟩

/-- What holds of every entry holds after an insertion if it holds of the new one. -/
theorem forall_insert {map : Map Key Value} {holds : Key → Value → Prop}
    (all : ∀ key value, map.lookup key = some value → holds key value) {key : Key} {value : Value}
    (own : holds key value) (other : Key) (entry : Value) (found : (map.insert key value).lookup other = some entry) :
    holds other entry := by
  rcases lookup_of_insert found with ⟨rfl, rfl⟩ | ⟨_, old⟩
  · exact own
  · exact all other entry old

theorem forall_erase {map : Map Key Value} {holds : Key → Value → Prop}
    (all : ∀ key value, map.lookup key = some value → holds key value) (key other : Key) (entry : Value)
    (found : (map.erase key).lookup other = some entry) : holds other entry :=
  all other entry (lookup_of_erase found)

theorem sum_kerase (weight : Key → Value → Int) (key : Key) (entries : List (Sigma fun _ : Key => Value)) :
    ((entries.kerase key).map fun entry => weight entry.1 entry.2).sum =
      (entries.map fun entry => weight entry.1 entry.2).sum -
        found (weight key) (entries.dlookup key) := by
  induction entries with
  | nil => simp
  | cons entry rest ih =>
      obtain ⟨other, value⟩ := entry
      by_cases same : key = other
      · subst same
        simp
      · have kept : List.kerase key (⟨other, value⟩ :: rest) = ⟨other, value⟩ :: List.kerase key rest :=
          List.kerase_cons_ne same
        have passed : List.dlookup key (⟨other, value⟩ :: rest) = List.dlookup key rest :=
          List.dlookup_cons_ne rest ⟨other, value⟩ same
        rw [kept, passed]
        simp only [List.map_cons, List.sum_cons, ih]
        omega

theorem weigh_erase (map : Map Key Value) (weight : Key → Value → Int) (key : Key) :
    weigh (map.erase key) weight = map.weigh weight - found (weight key) (map.lookup key) := by
  induction map using Finmap.induction_on with
  | H entries => exact sum_kerase weight key entries.entries

theorem weigh_insert (map : Map Key Value) (weight : Key → Value → Int) (key : Key) (value : Value) :
    weigh (map.insert key value) weight =
      map.weigh weight + weight key value - found (weight key) (map.lookup key) := by
  induction map using Finmap.induction_on with
  | H entries =>
      have rest := sum_kerase weight key entries.entries
      change (((⟨key, value⟩ :: entries.entries.kerase key).map fun entry => weight entry.1 entry.2).sum : Int) =
        (entries.entries.map fun entry => weight entry.1 entry.2).sum + weight key value -
          found (weight key) (entries.entries.dlookup key)
      simp only [List.map_cons, List.sum_cons, rest]
      omega

/-- One entry weighs at most as much as all of them. -/
theorem found_le_weigh (map : Map Key Value) (weight : Key → Value → Int)
    (nonneg : ∀ key value, 0 ≤ weight key value) (key : Key) :
    found (weight key) (map.lookup key) ≤ map.weigh weight := by
  have rest := weigh_nonneg (map.erase key) nonneg
  rw [weigh_erase] at rest
  omega

theorem found_add_le_weigh (map : Map Key Value) (weight : Key → Value → Int)
    (nonneg : ∀ key value, 0 ≤ weight key value) {first second : Key} (apart : first ≠ second) :
    found (weight first) (map.lookup first) + found (weight second) (map.lookup second) ≤
      map.weigh weight := by
  have rest := found_le_weigh (map.erase first) weight nonneg second
  rw [weigh_erase, lookup_erase_if, if_neg apart.symm] at rest
  omega

theorem weigh_eq_zero (map : Map Key Value) (weight : Key → Value → Int)
    (zero : ∀ key value, map.lookup key = some value → weight key value = 0) : map.weigh weight = 0 := by
  apply Multiset.sum_eq_zero
  intro summand member
  obtain ⟨entry, present, rfl⟩ := Multiset.mem_map.mp member
  exact zero entry.1 entry.2 (Finmap.mem_lookup_iff.mpr present)

theorem weigh_le (map : Map Key Value) {light heavy : Key → Value → Int}
    (le : ∀ key value, map.lookup key = some value → light key value ≤ heavy key value) :
    map.weigh light ≤ map.weigh heavy := by
  apply Multiset.sum_map_le_sum_map
  intro entry present
  exact le entry.1 entry.2 (Finmap.mem_lookup_iff.mpr present)

/-- The sum over the keys, among others that are absent. -/
theorem weigh_keys (map : Map Key Value) (weight : Key → Value → Int) {keys : Finset Key} (all : map.keys ⊆ keys) :
    map.weigh weight = ∑ key ∈ keys, found (weight key) (map.lookup key) := by
  have present : map.weigh weight = ∑ key ∈ map.keys, found (weight key) (map.lookup key) := by
    change (map.entries.map _).sum = ((map.entries.map Sigma.fst).map _).sum
    rw [Multiset.map_map]
    refine congrArg Multiset.sum (Multiset.map_congr rfl fun entry member => ?_)
    change weight entry.1 entry.2 = found (weight entry.1) (map.lookup entry.1)
    rw [Finmap.mem_lookup_iff.mpr member]
    rfl
  rw [present]
  apply Finset.sum_subset all
  intro key _ absent
  rw [Finmap.lookup_eq_none.mpr fun member => absent (Finmap.mem_keys.mpr member)]
  rfl

/-- Two maps that agree on the weight of each key, present or not, weigh the same. -/
theorem weigh_congr {Other : Type} (map : Map Key Value) (other : Map Key Other) {weight : Key → Value → Int}
    {load : Key → Other → Int}
    (same : ∀ key, found (weight key) (map.lookup key) = found (load key) (other.lookup key)) :
    map.weigh weight = other.weigh load := by
  rw [weigh_keys map weight Finset.subset_union_left, weigh_keys other load Finset.subset_union_right]
  exact Finset.sum_congr rfl fun key _ => same key

theorem size_insert (map : Map Key Value) (key : Key) (value : Value) :
    size (map.insert key value) = map.size + 1 - found (fun _ => 1) (map.lookup key) :=
  map.weigh_insert _ key value

theorem size_erase (map : Map Key Value) (key : Key) :
    size (map.erase key) = map.size - found (fun _ => 1) (map.lookup key) :=
  map.weigh_erase _ key

theorem found_one_bounds (value : Option Value) :
    0 ≤ found (fun _ => 1) value ∧ found (fun _ => 1) value ≤ 1 := by
  cases value <;> simp [found]

/-- Change the value of one key, if it is present. -/
def modify (map : Map Key Value) (key : Key) (change : Value → Value) : Map Key Value :=
  match map.lookup key with
  | some value => map.insert key (change value)
  | none => map

@[simp] theorem lookup_modify (map : Map Key Value) (key other : Key) (change : Value → Value) :
    (map.modify key change).lookup other =
      if other = key then (map.lookup other).map change else map.lookup other := by
  unfold modify
  by_cases same : other = key
  · subst same
    cases found : map.lookup other with
    | some value => simp
    | none => simp [found]
  · rw [if_neg same]
    split
    · exact Finmap.lookup_insert_of_ne _ same
    · rfl

/-- Change every value; the keys stay. -/
def mapValues (map : Map Key Value) (change : Key → Value → Value) : Map Key Value where
  entries := map.entries.map fun entry => ⟨entry.1, change entry.1 entry.2⟩
  nodupKeys := by
    rw [← Multiset.nodup_keys, Multiset.keys, Multiset.map_map]
    exact Multiset.nodup_keys.mpr map.nodupKeys

@[simp] theorem lookup_mapValues (map : Map Key Value) (change : Key → Value → Value) (key : Key) :
    (map.mapValues change).lookup key = (map.lookup key).map (change key) := by
  apply Option.ext
  intro value
  rw [← Option.mem_def, ← Option.mem_def, Finmap.mem_lookup_iff, Option.mem_map]
  constructor
  · intro member
    obtain ⟨⟨other, old⟩, present, same⟩ := Multiset.mem_map.mp member
    cases same
    exact ⟨old, Finmap.mem_lookup_iff.mpr present, rfl⟩
  · rintro ⟨old, present, rfl⟩
    exact Multiset.mem_map.mpr ⟨⟨key, old⟩, Finmap.mem_lookup_iff.mp present, rfl⟩

end Map

end RunnersMux.Foundations
