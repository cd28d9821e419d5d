import RunnersMux.Foundations.FiniteMaps

/-! Loops over the entries of a map, and the map that a loop over a list fills.

The order of a loop over a map is anybody's choice. A map filled from such loops
does not depend on it: under each key it has the entry of the last loop that has
one.
-/

set_option autoImplicit false

namespace RunnersMux.Foundations

variable {Key Value Item : Type} [DecidableEq Key]

/-- The entries of a map in the order in which a loop visits them. -/
structure Range (map : Map Key Value) where
  entries : List (Key × Value)
  once : (entries.map Prod.fst).Nodup
  complete : ∀ key value, (key, value) ∈ entries ↔ map.lookup key = some value

/-- Some loop over every map. -/
theorem Range.inhabited (map : Map Key Value) : Nonempty (Range map) := by
  induction map using Finmap.induction_on with
  | H list =>
      refine ⟨⟨list.entries.map fun entry => (entry.1, entry.2), ?_, fun key value => ?_⟩⟩
      · rw [List.map_map]
        exact list.nodupKeys
      · have there : (key, value) ∈ list.entries.map (fun entry => (entry.1, entry.2)) ↔
            (⟨key, value⟩ : Sigma fun _ => Value) ∈ list.entries := by
          constructor
          · intro member
            obtain ⟨⟨_, _⟩, own, ⟨⟩⟩ := List.mem_map.mp member
            exact own
          · exact List.mem_map_of_mem (f := fun entry : Sigma fun _ => Value => (entry.1, entry.2))
        rw [there, Finmap.lookup_toFinmap]
        exact (AList.mem_lookup_iff (s := list)).symm

theorem Range.mem_map {map : Map Key Value} (range : Range map) (item : Key → Value → Item) (found : Item) :
    (found ∈ range.entries.map fun entry => item entry.1 entry.2) ↔
      ∃ key value, map.lookup key = some value ∧ item key value = found := by
  constructor
  · intro member
    obtain ⟨⟨key, value⟩, visits, same⟩ := List.mem_map.mp member
    exact ⟨key, value, (range.complete key value).mp visits, same⟩
  · rintro ⟨key, value, known, rfl⟩
    exact List.mem_map_of_mem (f := fun entry : Key × Value => item entry.1 entry.2)
      ((range.complete key value).mpr known)

/-- Where the items of a list are made from the entries of a map, a search by key finds what
its entry makes. -/
theorem find_item {map : Map Key Value} {item : Key → Value → Item} {items : List Item} (name : Item → Key)
    (made : ∀ found, found ∈ items ↔ ∃ key value, map.lookup key = some value ∧ item key value = found)
    (named : ∀ key value, map.lookup key = some value → name (item key value) = key) (key : Key) :
    items.find? (fun found => name found = key) = (map.lookup key).map (item key) := by
  cases result : items.find? (fun found => name found = key) with
  | some found =>
      obtain ⟨other, value, known, rfl⟩ := (made found).mp (List.mem_of_find?_eq_some result)
      have own : name (item other value) = key := by simpa using List.find?_some result
      obtain rfl : other = key := (named other value known).symm.trans own
      rw [known, Option.map_some]
  | none =>
      cases known : map.lookup key with
      | none => rfl
      | some value =>
          have other := List.find?_eq_none.mp result _ ((made _).mpr ⟨key, value, known, rfl⟩)
          simp [named key value known] at other

/-- The map from the key of each item to the last item of that key. -/
def collect (name : Item → Key) (items : List Item) : Map Key Item :=
  items.foldl (fun map item => map.insert (name item) item) ∅

theorem lookup_collect (name : Item → Key) (items : List Item) (key : Key) :
    (collect name items).lookup key = items.reverse.find? (fun item => name item = key) := by
  have filled (map : Map Key Item) : (items.foldl (fun map item => map.insert (name item) item) map).lookup key =
      (items.reverse.find? fun item => name item = key).or (map.lookup key) := by
    induction items generalizing map with
    | nil => rfl
    | cons first rest ih =>
        rw [List.foldl_cons, ih, Map.lookup_insert_if, List.reverse_cons, List.find?_append, Option.or_assoc]
        congr 1
        by_cases own : name first = key
        · simp [own]
        · simp [own, Ne.symm own]
  rw [collect, filled, Finmap.lookup_empty, Option.or_none]

end RunnersMux.Foundations
