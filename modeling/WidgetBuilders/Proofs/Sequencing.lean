/-!
# Steps that may fail, one after another

A sequence has a result if each of its steps has one, and fails with the first that fails. These
laws take a sequence apart without opening the steps.
-/

namespace WidgetBuilders

variable {ε α β : Type}

/-- A sequence succeeds if its first step does and the rest succeeds from there. -/
theorem bind_eq_ok_iff {first : Except ε α} {next : α → Except ε β} {result : β} :
    first >>= next = .ok result ↔ ∃ value, first = .ok value ∧ next value = .ok result := by
  constructor
  · intro succeeded
    cases first with
    | error fault => cases succeeded
    | ok value => exact ⟨value, rfl, succeeded⟩
  · rintro ⟨value, rfl, succeeded⟩
    exact succeeded

/-- A sequence fails if its first step does, or if the rest does from where the first one led. -/
theorem bind_eq_error_iff {first : Except ε α} {next : α → Except ε β} {fault : ε} :
    first >>= next = .error fault ↔
      first = .error fault ∨ ∃ value, first = .ok value ∧ next value = .error fault := by
  constructor
  · intro failed
    cases first with
    | error other =>
      cases failed
      exact Or.inl rfl
    | ok value => exact Or.inr ⟨value, rfl, failed⟩
  · rintro (rfl | ⟨value, rfl, failed⟩)
    · rfl
    · exact failed

/-- What is made of the value of a step succeeds if the step does. -/
theorem map_eq_ok_iff {step : Except ε α} {make : α → β} {result : β} :
    step.map make = .ok result ↔ ∃ value, step = .ok value ∧ make value = result := by
  cases step with
  | error fault => simp [Except.map]
  | ok value => simp [Except.map]

end WidgetBuilders
