import RunnersMux.Foundations.Transitions

/-! Runs that come to an end.

Steps that lower a natural number bound the length of a run, and from every
state some run goes on until no step is left. The invariant that the descent
rests on holds where such a run stops.
-/

set_option autoImplicit false

namespace RunnersMux.Foundations

universe u v

variable {State : Type u} {Action : Type v}

/-- No allowed step is enabled. -/
def Stuck (step : State → Action → Option State) (allowed : State → Action → Prop) (state : State) : Prop :=
  ∀ action, allowed state action → step state action = none

/-- An invariant of the allowed steps under which each of them lowers a measure. -/
structure Descends (step : State → Action → Option State) (allowed : State → Action → Prop) (holds : State → Prop)
    (measure : State → Nat) : Prop where
  kept : ∀ state action after, holds state → allowed state action → step state action = some after → holds after
  falls : ∀ state action after, holds state → allowed state action → step state action = some after →
    measure after < measure state

namespace Descends

variable {step : State → Action → Option State} {allowed : State → Action → Prop} {holds : State → Prop}
  {measure : State → Nat}

section
variable [∀ state action, Decidable (allowed state action)]

/-- A run is no longer than what it takes off the measure. -/
theorem bounds (descends : Descends step allowed holds measure) {state last : State} {actions : List Action}
    (begins : holds state) (played : replay step allowed state actions = some last) :
    holds last ∧ actions.length + measure last ≤ measure state := by
  induction actions generalizing state with
  | nil =>
      cases played
      exact ⟨begins, by simp⟩
  | cons action rest ih =>
      simp only [replay] at played
      split at played
      · next permitted =>
          obtain ⟨after, taken, remaining⟩ := Option.bind_eq_some_iff.mp played
          have falls := descends.falls state action after begins permitted taken
          obtain ⟨ends, further⟩ := ih (descends.kept state action after begins permitted taken) remaining
          refine ⟨ends, ?_⟩
          rw [List.length_cons]
          omega
      · cases played

/-- Some run goes on until it is stuck. -/
theorem exists_stuck (descends : Descends step allowed holds measure) (state : State) (begins : holds state) :
    ∃ actions last, replay step allowed state actions = some last ∧ Stuck step allowed last := by
  induction bound : measure state using Nat.strongRecOn generalizing state with
  | _ value ih =>
      subst bound
      by_cases stuck : Stuck step allowed state
      · exact ⟨[], state, rfl, stuck⟩
      · simp only [Stuck, not_forall] at stuck
        obtain ⟨action, permitted, enabled⟩ := stuck
        obtain ⟨after, taken⟩ := Option.ne_none_iff_exists'.mp enabled
        obtain ⟨rest, last, played, ends⟩ := ih (measure after)
          (descends.falls state action after begins permitted taken)
          after (descends.kept state action after begins permitted taken) rfl
        refine ⟨action :: rest, last, ?_, ends⟩
        rw [replay, if_pos permitted, taken]
        exact played

end

end Descends

end RunnersMux.Foundations
