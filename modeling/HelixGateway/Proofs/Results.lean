/-!
# Results that may fail

What a result comes from when it was changed on the way: a value comes from a value, and a failure from a failure.

Main statements: `map_eq_ok`, `map_eq_error`, `mapError_eq_ok`, `mapError_eq_error`, `isOk_map`, `toOption_map`.
-/

namespace HelixGateway

variable {ε ε' α β : Type}

/-- A value that is mapped comes from a value. -/
theorem map_eq_ok {f : α → β} {x : Except ε α} {y : β} (h : x.map f = .ok y) : ∃ a, x = .ok a ∧ f a = y := by
  cases x with
  | error e => cases h
  | ok a => exact ⟨a, rfl, Except.ok.inj h⟩

theorem map_eq_error {f : α → β} {x : Except ε α} {e : ε} (h : x.map f = .error e) : x = .error e := by
  cases x with
  | error e' => rw [Except.error.inj h]
  | ok a => cases h

/-- Mapping the errors keeps the values. -/
theorem mapError_eq_ok {f : ε → ε'} {x : Except ε α} {y : α} (h : x.mapError f = .ok y) : x = .ok y := by
  cases x with
  | error e => cases h
  | ok a => rw [Except.ok.inj h]

theorem mapError_eq_error {f : ε → ε'} {x : Except ε α} {e : ε'} (h : x.mapError f = .error e) :
    ∃ a, x = .error a ∧ f a = e := by
  cases x with
  | error a => exact ⟨a, rfl, Except.error.inj h⟩
  | ok a => cases h

theorem isOk_map (f : α → β) (x : Except ε α) : (x.map f).isOk = x.isOk := by
  cases x with
  | error e => rfl
  | ok a => rfl

theorem toOption_map (f : α → β) (x : Except ε α) : (x.map f).toOption = x.toOption.map f := by
  cases x with
  | error e => rfl
  | ok a => rfl

end HelixGateway
