/-!
# Results one after another

A computation that may fail goes on when its first step gives a value, and fails for a reason of one
of its steps.
-/

namespace HeaderEnum

variable {ε α β : Type}

/-- A result that gives a value is that value. -/
theorem eq_ok_of_toOption {result : Except ε α} {value : α}
    (h : result.toOption = some value) : result = .ok value := by
  cases result with
  | error reason => cases h
  | ok found => exact congrArg Except.ok (Option.some.inj h)

/-- Two steps give a result when the second one gives it from the value of the first. -/
theorem bind_eq_ok_iff {first : Except ε α} {next : α → Except ε β} {result : β} :
    (first >>= next) = .ok result ↔ ∃ value, first = .ok value ∧ next value = .ok result := by
  cases first with
  | error reason => simp [bind, Except.bind]
  | ok value => simp [bind, Except.bind]

/-- Two steps do not fail for a reason for which neither of them fails. -/
theorem bind_ne_error {reason : ε} {first : Except ε α} {next : α → Except ε β}
    (hfirst : first ≠ .error reason) (hnext : ∀ value, next value ≠ .error reason) :
    (first >>= next) ≠ .error reason := by
  cases first with
  | error other =>
    intro h
    have hreason : other = reason := Except.error.inj h
    exact hfirst (congrArg Except.error hreason)
  | ok value => exact hnext value

section

variable {δ : Type} {change : ε → δ}

/-- A value is not put in other words. -/
@[simp]
theorem mapError_ok (value : α) : (Except.ok value : Except ε α).mapError change = .ok value := rfl

/-- A failure is put in other words. -/
@[simp]
theorem mapError_error (reason : ε) :
    (Except.error reason : Except ε α).mapError change = .error (change reason) := rfl

end

end HeaderEnum
