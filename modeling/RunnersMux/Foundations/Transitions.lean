import Mathlib.Logic.Basic

/-! Runs of an executable, guarded step.

A step answers `none` for an action that is not enabled. A result about runs
names the states it starts from and the steps it ranges over; the same closure
serves an unrestricted system and one whose steps all meet a condition.
-/

set_option autoImplicit false

namespace RunnersMux.Foundations

universe u v

variable {State : Type u} {Action : Type v}

/-- The end states of runs from a starting state whose steps are all allowed. -/
inductive Reaches (step : State → Action → Option State) (start : State → Prop)
    (allowed : State → Action → Prop) : State → Prop where
  | start {state : State} : start state → Reaches step start allowed state
  | next {state after : State} {action : Action} : Reaches step start allowed state →
      allowed state action → step state action = some after → Reaches step start allowed after

/-- No restriction on the steps of a run. -/
abbrev everyStep : State → Action → Prop := fun _ _ => True

namespace Reaches

variable {step : State → Action → Option State} {start : State → Prop}
  {allowed : State → Action → Prop}

/-- The run rule: what holds at the start and survives one allowed step holds
in every state a run reaches. Earlier invariants are available at the step. -/
theorem invariant {holds : State → Prop} (initially : ∀ state, start state → holds state)
    (preserved : ∀ state action after, Reaches step start allowed state → holds state →
      allowed state action → step state action = some after → holds after)
    {state : State} (reached : Reaches step start allowed state) : holds state := by
  induction reached with
  | start begin => exact initially _ begin
  | next earlier permitted taken ih => exact preserved _ _ _ earlier ih permitted taken

theorem mono {other : State → Action → Prop}
    (weaker : ∀ state action, allowed state action → other state action)
    {state : State} (reached : Reaches step start allowed state) :
    Reaches step start other state := by
  induction reached with
  | start begin => exact .start begin
  | next _ permitted taken ih => exact .next ih (weaker _ _ permitted) taken

/-- A run goes on from where another has ended. -/
theorem trans {state last : State} (reached : Reaches step start allowed state)
    (further : Reaches step (· = state) allowed last) : Reaches step start allowed last := by
  induction further with
  | start begin =>
      subst begin
      exact reached
  | next _ permitted taken ih => exact .next ih permitted taken

end Reaches

/-- Replay a list of actions; `none` if one is disabled or not allowed. -/
def replay (step : State → Action → Option State) (allowed : State → Action → Prop)
    [∀ state action, Decidable (allowed state action)] : State → List Action → Option State
  | state, [] => some state
  | state, action :: rest =>
      if allowed state action then (step state action).bind (replay step allowed · rest) else none

theorem Reaches.replay {step : State → Action → Option State} {start : State → Prop}
    {allowed : State → Action → Prop} [∀ state action, Decidable (allowed state action)]
    {actions : List Action} {state last : State} (reached : Reaches step start allowed state)
    (played : Foundations.replay step allowed state actions = some last) :
    Reaches step start allowed last := by
  induction actions generalizing state with
  | nil =>
      cases played
      exact reached
  | cons action rest ih =>
      simp only [Foundations.replay] at played
      split at played
      · next permitted =>
          obtain ⟨after, taken, remaining⟩ := Option.bind_eq_some_iff.mp played
          exact ih (.next reached permitted taken) remaining
      · cases played

/-- A replayed run that ends in a state with a decidable property. -/
theorem Reaches.of_replay {step : State → Action → Option State} {start : State → Prop}
    {allowed : State → Action → Prop} [∀ state action, Decidable (allowed state action)]
    {shows : State → Prop} [DecidablePred shows] {first : State} (begins : start first)
    (actions : List Action)
    (played : (Foundations.replay step allowed first actions).any (fun last => decide (shows last)) = true) :
    ∃ state, Reaches step start allowed state ∧ shows state := by
  cases result : Foundations.replay step allowed first actions with
  | none => simp [result] at played
  | some last =>
      rw [result] at played
      exact ⟨last, Reaches.replay (.start begins) result, of_decide_eq_true played⟩

/-- Every action of a list is enabled in its turn, and its step is good. -/
def Throughout (step : State → Action → Option State) (good : State → Action → State → Prop) :
    State → List Action → Prop
  | _, [] => True
  | state, action :: rest => ∃ after ∈ step state action, good state action after ∧ Throughout step good after rest

instance decidableThroughout (step : State → Action → Option State) (good : State → Action → State → Prop)
    [∀ state action after, Decidable (good state action after)] :
    ∀ state actions, Decidable (Throughout step good state actions)
  | _, [] => inferInstanceAs (Decidable True)
  | state, action :: rest =>
      have := fun after => decidableThroughout step good after rest
      inferInstanceAs (Decidable (∃ after ∈ step state action, good state action after ∧ _))

namespace Throughout

variable {step : State → Action → Option State} {good : State → Action → State → Prop}

theorem congr {fine : State → Action → State → Prop}
    (agree : ∀ state action after, step state action = some after → (good state action after ↔ fine state action after))
    (state : State) (actions : List Action) : Throughout step good state actions ↔ Throughout step fine state actions := by
  induction actions generalizing state with
  | nil => exact Iff.rfl
  | cons action rest ih =>
      refine exists_congr fun after => and_congr_right fun taken => ?_
      exact and_congr (agree state action after taken) (ih after)

/-- What a condition on a step makes of it, while an invariant holds that the condition keeps. -/
theorem imp_invariant {fine : State → Action → State → Prop} (holds : State → Prop)
    (gives : ∀ state action after, holds state → step state action = some after → good state action after →
      fine state action after)
    (kept : ∀ state action after, holds state → step state action = some after → good state action after → holds after)
    {state : State} {actions : List Action} (initially : holds state) (run : Throughout step good state actions) :
    Throughout step fine state actions := by
  induction actions generalizing state with
  | nil => trivial
  | cons action rest ih =>
      obtain ⟨after, taken, meets, rests⟩ := run
      have still := kept state action after initially taken meets
      exact ⟨after, taken, gives state action after initially taken meets, ih still rests⟩

/-- Two conditions on a step that agree while an invariant holds, which the one of them keeps. -/
theorem congr_invariant {fine : State → Action → State → Prop} (holds : State → Prop)
    (agree : ∀ state action after, holds state → step state action = some after →
      (good state action after ↔ fine state action after))
    (kept : ∀ state action after, holds state → step state action = some after → good state action after → holds after)
    {state : State} {actions : List Action} (initially : holds state) :
    Throughout step good state actions ↔ Throughout step fine state actions := by
  constructor
  · refine imp_invariant holds ?_ kept initially
    intro state action after held taken
    exact (agree state action after held taken).mp
  · refine imp_invariant holds ?_ ?_ initially
    · intro state action after held taken
      exact (agree state action after held taken).mpr
    · intro state action after held taken meets
      exact kept state action after held taken ((agree state action after held taken).mpr meets)

/-- Two conditions on a step that agree in the states which the one of them lets a run reach. -/
theorem congr_reached (start : State → Prop) (given fine : State → Action → Prop)
    (agree : ∀ state action after, Reaches step start (fun state action => given state action ∧ fine state action) state →
      step state action = some after → (good state action after ↔ fine state action))
    {state : State} {actions : List Action}
    (reached : Reaches step start (fun state action => given state action ∧ fine state action) state)
    (granted : Throughout step (fun state action _ => given state action) state actions) :
    Throughout step good state actions ↔ Throughout step (fun state action _ => fine state action) state actions := by
  induction actions generalizing state with
  | nil => exact Iff.rfl
  | cons action rest ih =>
      obtain ⟨after, taken, gives, granted⟩ := granted
      have same := agree state action after reached taken
      have further (meets : fine state action) := ih (.next reached ⟨gives, meets⟩ taken) granted
      constructor
      · rintro ⟨other, also, holds, rests⟩
        cases taken.symm.trans also
        have meets := same.mp holds
        exact ⟨after, taken, meets, (further meets).mp rests⟩
      · rintro ⟨other, also, meets, rests⟩
        cases taken.symm.trans also
        exact ⟨after, taken, same.mpr meets, (further meets).mpr rests⟩

end Throughout

end RunnersMux.Foundations
