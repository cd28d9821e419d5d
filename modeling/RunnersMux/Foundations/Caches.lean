import RunnersMux.Foundations.FiniteMaps

/-! Caches whose entries expire.

A cache is its three operations. What the law gives is one-sided: a hit is a
value that was set for the key and has not expired, but an entry may be gone
earlier. That suffices to trace every hit back to the history of the writes.
-/

set_option autoImplicit false

namespace RunnersMux.Foundations

/-- The operations, at the times at which they are called. -/
structure Cache (Store Key Value : Type) where
  empty : Store
  get : Store → Nat → Key → Option Value
  set : Store → Nat → Key → Value → Nat → Store

namespace Cache

variable {Store Key Value Write : Type}

structure Lawful (cache : Cache Store Key Value) : Prop where
  get_empty : ∀ now key, cache.get cache.empty now key = none
  get_set : ∀ store now key value ttl later other found,
    cache.get (cache.set store now key value ttl) later other = some found →
    (other = key ∧ found = value ∧ later ≤ now + ttl) ∨ (other ≠ key ∧ cache.get store later other = some found)

section
variable [DecidableEq Key]

/-- A cache that keeps every entry until it expires. -/
def expiring : Cache (Map Key (Value × Nat)) Key Value where
  empty := ∅
  get store now key := (store.lookup key).bind fun entry => if now ≤ entry.2 then some entry.1 else none
  set store now key value ttl := store.insert key (value, now + ttl)

theorem expiring_lawful : (expiring : Cache (Map Key (Value × Nat)) Key Value).Lawful := by
  constructor
  · intro now key
    rfl
  · intro store now key value ttl later other found hit
    simp only [expiring, Map.lookup_insert_if] at hit ⊢
    by_cases same : other = key
    · rw [if_pos same, Option.bind_some] at hit
      split at hit
      · next fresh => exact .inl ⟨same, (Option.some.inj hit).symm, fresh⟩
      · cases hit
    · rw [if_neg same] at hit
      exact .inr ⟨same, hit⟩

variable (cache : Cache Store Key Value) (ttl : Nat) (key : Write → Key) (value : Write → Value) (time : Write → Nat)

/-- Every hit is the latest write of its key, not older than the time to live. -/
def Remembers (history : List Write) (store : Store) : Prop :=
  ∀ now sought found, cache.get store now sought = some found →
    ∃ write, history.find? (fun write => key write = sought) = some write ∧ value write = found ∧
      now ≤ time write + ttl

variable {cache ttl key value time}

theorem Lawful.remembers_empty (lawful : cache.Lawful) : Remembers cache ttl key value time [] cache.empty := by
  intro now sought found hit
  cases (lawful.get_empty now sought).symm.trans hit

theorem Lawful.remembers_set (lawful : cache.Lawful) {history : List Write} {store : Store} (write : Write)
    (remembers : Remembers cache ttl key value time history store) :
    Remembers cache ttl key value time (write :: history)
      (cache.set store (time write) (key write) (value write) ttl) := by
  intro now sought found hit
  rcases lawful.get_set _ _ _ _ _ _ _ _ hit with ⟨same, equal, fresh⟩ | ⟨other, kept⟩
  · exact ⟨write, List.find?_cons_of_pos (decide_eq_true same.symm), equal.symm, fresh⟩
  · obtain ⟨earlier, latest, equal, fresh⟩ := remembers now sought found kept
    refine ⟨earlier, ?_, equal, fresh⟩
    rw [List.find?_cons_of_neg (by simpa using Ne.symm other), latest]

end

end Cache

end RunnersMux.Foundations
