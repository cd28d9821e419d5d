import RunnersMux.Foundations.Transitions

/-! Forward simulation between two executable steps.

The abstract side answers a step of the concrete one with a run of its own, so
with several steps or with none. What is shown of the concrete states that a run
reaches is then shown by abstract states that a run reaches.
-/

set_option autoImplicit false

namespace RunnersMux.Foundations

universe u v w x

variable {State : Type u} {Action : Type v} {Image : Type w} {Reply : Type x}
  {step : State → Action → Option State} {start : State → Prop} {allowed : State → Action → Prop}
  {imageStep : Image → Reply → Option Image} {imageStart : Image → Prop} {imageAllowed : Image → Reply → Prop}

/-- A run of one step. -/
theorem Reaches.once {state after : State} {action : Action} (permitted : allowed state action)
    (taken : step state action = some after) : Reaches step (· = state) allowed after :=
  .next (.start rfl) permitted taken

/-- A run has a first state. -/
theorem Reaches.origin {state : State} (reached : Reaches step start allowed state) :
    ∃ first, start first ∧ Reaches step (· = first) allowed state := by
  induction reached with
  | start begin => exact ⟨_, begin, .start rfl⟩
  | next _ permitted taken ih =>
      obtain ⟨first, begins, reached⟩ := ih
      exact ⟨first, begins, .next reached permitted taken⟩

/-- The simulation rule. Both ends may use that they are reached. -/
theorem Reaches.simulated {shows : State → Image → Prop}
    (starts : ∀ state, start state → ∃ image, imageStart image ∧ shows state image)
    (answers : ∀ state action after image, Reaches step start allowed state →
      Reaches imageStep imageStart imageAllowed image → shows state image → allowed state action →
      step state action = some after →
      ∃ later, Reaches imageStep (· = image) imageAllowed later ∧ shows after later)
    {state : State} (reached : Reaches step start allowed state) :
    ∃ image, Reaches imageStep imageStart imageAllowed image ∧ shows state image := by
  induction reached with
  | start begin =>
      obtain ⟨image, starting, shown⟩ := starts _ begin
      exact ⟨image, .start starting, shown⟩
  | next earlier permitted taken ih =>
      obtain ⟨image, before, shown⟩ := ih
      obtain ⟨later, answered, still⟩ := answers _ _ _ image earlier before shown permitted taken
      exact ⟨later, before.trans answered, still⟩

end RunnersMux.Foundations
