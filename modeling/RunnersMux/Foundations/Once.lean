import RunnersMux.Foundations.FiniteMaps

/-! A guard that lets one caller in.

Callers that come while the first one is inside wait for it, and those that come
after it go on without having been let in.
-/

set_option autoImplicit false

namespace RunnersMux.Foundations

inductive Once (Caller : Type) where
  | fresh
  | running (caller : Caller)
  | done
  deriving DecidableEq, Repr

/-- Where a caller is in its call. -/
inductive OnceCall where
  | entering
  | inside
  /-- Whether it was the one that had been let in. -/
  | returned (first : Bool)
  deriving DecidableEq, Repr

namespace Once

variable {Caller : Type}

/-- A call goes in or past, or comes out again. -/
def step (once : Once Caller) (caller : Caller) : OnceCall → Option (Once Caller × OnceCall)
  | .entering =>
      match once with
      | .fresh => some (.running caller, .inside)
      | .running _ => none
      | .done => some (.done, .returned false)
  | .inside => some (.done, .returned true)
  | .returned _ => none

variable {once after : Once Caller} {caller : Caller} {call next : OnceCall}

theorem step_cases (taken : once.step caller call = some (after, next)) :
    (call = .entering ∧ once = .fresh ∧ after = .running caller ∧ next = .inside) ∨
      (call = .entering ∧ once = .done ∧ after = .done ∧ next = .returned false) ∨
      (call = .inside ∧ after = .done ∧ next = .returned true) := by
  cases call with
  | entering =>
      cases once with
      | fresh =>
          cases taken
          exact .inl ⟨rfl, rfl, rfl, rfl⟩
      | running other => simp [step] at taken
      | done =>
          cases taken
          exact .inr (.inl ⟨rfl, rfl, rfl, rfl⟩)
  | inside =>
      cases taken
      exact .inr (.inr ⟨rfl, rfl, rfl⟩)
  | returned first => simp [step] at taken

/-- A call that goes on has not come out. -/
theorem ne_returned (taken : once.step caller call = some (after, next)) (first : Bool) : call ≠ .returned first := by
  rintro rfl
  simp [step] at taken

variable [DecidableEq Caller]

/-- The guard knows who is inside, and that nobody has been before. -/
structure Guards (once : Once Caller) (calls : Map Caller OnceCall) : Prop where
  inside : ∀ caller, calls.lookup caller = some .inside → once = .running caller
  running : ∀ caller, once = .running caller → calls.lookup caller = some .inside
  returned : ∀ caller first, calls.lookup caller = some (.returned first) → once = .done
  first : ∀ caller other, calls.lookup caller = some (.returned true) → calls.lookup other = some (.returned true) →
    caller = other

variable {calls : Map Caller OnceCall}

theorem Guards.new : Guards (.fresh : Once Caller) ∅ := by
  constructor <;> simp

theorem Guards.enter (guards : Guards once calls) (absent : calls.lookup caller = none) :
    Guards once (calls.insert caller .entering) := by
  constructor
  · intro other found
    simp only [Map.lookup_insert_if] at found
    split at found
    · simp at found
    · exact guards.inside other found
  · intro other runs
    have found := guards.running other runs
    have apart : other ≠ caller := by
      rintro rfl
      simp [absent] at found
    simpa [Map.lookup_insert_if, apart] using found
  · intro other first found
    simp only [Map.lookup_insert_if] at found
    split at found
    · simp at found
    · exact guards.returned other first found
  · intro one other found also
    simp only [Map.lookup_insert_if] at found also
    split at found
    · simp at found
    · split at also
      · simp at also
      · exact guards.first one other found also

theorem Guards.step (guards : Guards once calls) (there : calls.lookup caller = some call)
    (taken : once.step caller call = some (after, next)) : Guards after (calls.insert caller next) := by
  obtain ⟨inside, running, returned, first⟩ := guards
  obtain ⟨rfl, rfl, rfl, rfl⟩ | ⟨rfl, rfl, rfl, rfl⟩ | ⟨rfl, rfl, rfl⟩ := step_cases taken
  · -- A fresh guard has nobody inside and nobody who has come out.
    have nobody (other : Caller) : calls.lookup other ≠ some .inside := fun found => by cases inside other found
    have never (other : Caller) (was : Bool) : calls.lookup other ≠ some (.returned was) := fun found => by
      cases returned other was found
    constructor <;> simp only [Map.lookup_insert_if] <;> grind
  · -- Behind a guard that is done, a caller goes past.
    have nobody (other : Caller) : calls.lookup other ≠ some .inside := fun found => by cases inside other found
    constructor <;> simp only [Map.lookup_insert_if] <;> grind
  · -- Whoever comes out was inside, so that nobody else is or has come out.
    have here := inside caller there
    have alone (other : Caller) (found : calls.lookup other = some .inside) : other = caller := by
      cases here.symm.trans (inside other found)
      rfl
    have never (other : Caller) (was : Bool) : calls.lookup other ≠ some (.returned was) := fun found => by
      cases here.symm.trans (returned other was found)
    constructor <;> simp only [Map.lookup_insert_if] <;> grind

/-- Who has come out stays out. -/
theorem lookup_returned {other : Caller} {first : Bool} (there : calls.lookup caller = some call)
    (taken : once.step caller call = some (after, next)) (found : calls.lookup other = some (.returned first)) :
    (calls.insert caller next).lookup other = some (.returned first) := by
  have apart : other ≠ caller := by
    rintro rfl
    exact ne_returned taken first (Option.some.inj (there.symm.trans found))
  simpa [Map.lookup_insert_if, apart] using found

end Once

end RunnersMux.Foundations
