import Mathlib.Data.List.Nodup
import Mathlib.Logic.Function.Basic

/-! Tables: lists of rows of which no two have the same key.

Such a list is a partial function from keys to rows. An insertion, an update of
all rows and a deletion by key are the same on the list and on the function.
-/

set_option autoImplicit false

namespace RunnersMux.Foundations

universe u v

variable {Row : Type u} {Key : Type v}

/-- No two rows have the same key. -/
def Keyed (key : Row → Key) (rows : List Row) : Prop := (rows.map key).Nodup

namespace Keyed

variable {key : Row → Key} {rows : List Row}

theorem append {row : Row} (keyed : Keyed key rows) (fresh : ∀ other ∈ rows, key other ≠ key row) :
    Keyed key (rows ++ [row]) := by
  unfold Keyed
  rw [List.map_append, List.nodup_append']
  refine ⟨keyed, List.nodup_singleton _, ?_⟩
  simpa [List.disjoint_singleton] using fresh

/-- Two tables without a key in common. -/
theorem concat {more : List Row} (keyed : Keyed key rows) (others : Keyed key more)
    (apart : ∀ row ∈ rows, ∀ other ∈ more, key row ≠ key other) : Keyed key (rows ++ more) := by
  unfold Keyed
  rw [List.map_append, List.nodup_append']
  refine ⟨keyed, others, ?_⟩
  rintro _ one other
  obtain ⟨row, member, rfl⟩ := List.mem_map.mp one
  obtain ⟨second, also, same⟩ := List.mem_map.mp other
  exact apart row member second also same.symm

/-- An update that leaves the keys. -/
theorem map {change : Row → Row} (keyed : Keyed key rows) (keeps : ∀ row, key (change row) = key row) :
    Keyed key (rows.map change) := by
  unfold Keyed
  rw [List.map_map]
  have same : key ∘ change = key := funext keeps
  rwa [same]

theorem filter (keyed : Keyed key rows) (stays : Row → Bool) : Keyed key (rows.filter stays) :=
  keyed.sublist (List.filter_sublist.map key)

theorem eq (keyed : Keyed key rows) {first second : Row} (one : first ∈ rows) (other : second ∈ rows)
    (same : key first = key second) : first = second :=
  List.inj_on_of_nodup_map keyed one other same

end Keyed

section
variable [DecidableEq Key] (key : Row → Key) (rows : List Row)

/-- The row with a key. -/
def rowAt (wanted : Key) : Option Row := rows.find? fun row => key row = wanted

variable {key rows}

theorem rowAt_mem {wanted : Key} {found : Row} (finds : rowAt key rows wanted = some found) :
    found ∈ rows ∧ key found = wanted :=
  ⟨List.mem_of_find?_eq_some finds, by simpa using List.find?_some finds⟩

theorem rowAt_eq_none {wanted : Key} : rowAt key rows wanted = none ↔ ∀ other ∈ rows, key other ≠ wanted := by
  simp [rowAt, List.find?_eq_none]

/-- A row is found by its key. -/
theorem Keyed.rowAt_eq_some (keyed : Keyed key rows) {wanted : Key} {found : Row} :
    rowAt key rows wanted = some found ↔ found ∈ rows ∧ key found = wanted := by
  constructor
  · exact rowAt_mem
  · rintro ⟨member, rfl⟩
    cases finds : rowAt key rows (key found) with
    | none => exact absurd rfl (rowAt_eq_none.mp finds found member)
    | some other =>
        obtain ⟨also, same⟩ := rowAt_mem finds
        rw [keyed.eq also member same]

theorem rowAt_append {new : Row} (fresh : ∀ other ∈ rows, key other ≠ key new) :
    rowAt key (rows ++ [new]) = Function.update (rowAt key rows) (key new) (some new) := by
  funext wanted
  unfold rowAt
  rw [List.find?_append, List.find?_singleton]
  by_cases same : wanted = key new
  · subst same
    have absent : rows.find? (fun other => key other = key new) = none := rowAt_eq_none.mpr fresh
    rw [absent, Function.update_self]
    simp
  · rw [Function.update_of_ne same]
    simp [Ne.symm same]

theorem rowAt_map {change : Row → Row} (keeps : ∀ row, key (change row) = key row) (wanted : Key) :
    rowAt key (rows.map change) wanted = (rowAt key rows wanted).map change := by
  unfold rowAt
  rw [List.find?_map]
  congr 2
  funext other
  simp [keeps]

theorem rowAt_filter (gone : Key) :
    rowAt key (rows.filter fun row => key row ≠ gone) = Function.update (rowAt key rows) gone none := by
  funext wanted
  by_cases same : wanted = gone
  · subst same
    rw [Function.update_self, rowAt_eq_none]
    intro other member
    simpa using (List.mem_filter.mp member).2
  · rw [Function.update_of_ne same]
    unfold rowAt
    rw [List.find?_filter]
    congr 1
    funext other
    by_cases own : key other = wanted
    · simp [own, same]
    · simp [own]

end

end RunnersMux.Foundations
