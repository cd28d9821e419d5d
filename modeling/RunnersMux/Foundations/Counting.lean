import RunnersMux.Foundations.FiniteMaps
import Mathlib.Algebra.BigOperators.Group.Finset.Piecewise
import Mathlib.Algebra.BigOperators.Ring.Finset
import Mathlib.Algebra.Order.BigOperators.Group.Finset
import Mathlib.Data.Finset.Option

/-! Entries of a finite map counted against a set.

A count is bounded by any set of keys that covers it. What the values of a map
name is a set again, no larger than the number of values that name something.
-/

set_option autoImplicit false

namespace RunnersMux.Foundations.Map

variable {Key Value : Type}


theorem size_eq_card (map : Map Key Value) : map.size = map.keys.card := by
  change (map.entries.map fun _ => (1 : Int)).sum = ((map.entries.map Sigma.fst).card : Int)
  simp

variable [DecidableEq Key]

/-- Keys that hold every chosen entry are as many as those entries at least. -/
theorem count_le_card {map : Map Key Value} {chosen : Key → Value → Bool} {keys : Finset Key}
    (covers : ∀ key value, map.lookup key = some value → chosen key value = true → key ∈ keys) :
    map.count chosen ≤ keys.card := by
  have each : ∀ key ∈ map.keys ∪ keys, found (fun value => if chosen key value then (1 : Int) else 0) (map.lookup key) ≤
      if key ∈ keys then 1 else 0 := by
    intro key _
    cases entry : map.lookup key with
    | none =>
        rw [found_none]
        split <;> decide
    | some value =>
        rw [found_some]
        by_cases picked : chosen key value = true
        · rw [if_pos picked, if_pos (covers key value entry picked)]
        · rw [if_neg picked]
          split <;> decide
  calc map.count chosen
      = ∑ key ∈ map.keys ∪ keys, found (fun value => if chosen key value then (1 : Int) else 0) (map.lookup key) :=
        map.weigh_keys _ Finset.subset_union_left
    _ ≤ ∑ key ∈ map.keys ∪ keys, if key ∈ keys then (1 : Int) else 0 := Finset.sum_le_sum each
    _ = keys.card := by
        rw [Finset.sum_ite_mem, Finset.inter_eq_right.mpr Finset.subset_union_right, Finset.sum_const]
        simp

variable {Other : Type} [DecidableEq Other]

/-- What the entries name. -/
def gather (map : Map Key Value) (names : Value → Option Other) : Finset Other :=
  map.keys.biUnion fun key => ((map.lookup key).bind names).toFinset

theorem mem_gather {map : Map Key Value} {names : Value → Option Other} {other : Other} :
    other ∈ map.gather names ↔ ∃ key value, map.lookup key = some value ∧ names value = some other := by
  simp only [gather, Finset.mem_biUnion, Option.mem_toFinset, Option.mem_def, Option.bind_eq_some_iff]
  constructor
  · rintro ⟨key, _, value, entry, named⟩
    exact ⟨key, value, entry, named⟩
  · rintro ⟨key, value, entry, named⟩
    exact ⟨key, Finmap.mem_keys.mpr (Finmap.mem_of_lookup_eq_some entry), value, entry, named⟩

theorem card_gather_le (map : Map Key Value) (names : Value → Option Other) :
    (map.gather names).card ≤ map.weigh fun _ value => if (names value).isSome then 1 else 0 := by
  rw [weigh_keys map _ (Finset.Subset.refl _)]
  have few := Finset.card_biUnion_le (s := map.keys) (t := fun key => ((map.lookup key).bind names).toFinset)
  calc ((map.gather names).card : Int)
      ≤ ((∑ key ∈ map.keys, ((map.lookup key).bind names).toFinset.card : Nat) : Int) := Int.ofNat_le.mpr few
    _ = ∑ key ∈ map.keys, found (fun value => if (names value).isSome then (1 : Int) else 0) (map.lookup key) := by
        rw [Nat.cast_sum]
        refine Finset.sum_congr rfl fun key _ => ?_
        cases map.lookup key with
        | none => rfl
        | some value => cases named : names value <;> simp [named]

end RunnersMux.Foundations.Map
