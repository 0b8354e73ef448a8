import Mathlib.Tactic.Lemma
/-!
# Results that are values

When a computation that can fail ends with a value, taken apart along the ways in which it is put
together; and what it fails with, when that does not depend on the values on the way.
-/

namespace Provisioner

variable {ε ε' α β : Type} {result : Except ε α}

lemma bind_eq_ok_iff {f : α → Except ε β} {value : β} :
    result.bind f = .ok value ↔ ∃ first, result = .ok first ∧ f first = .ok value := by
  cases result with
  | error e => simp [Except.bind]
  | ok first => simp [Except.bind]

lemma bind_eq_error_iff {f : α → Except ε β} {e : ε} :
    result.bind f = .error e ↔
      result = .error e ∨ ∃ first, result = .ok first ∧ f first = .error e := by
  cases result with
  | error cause => simp [Except.bind]
  | ok first => simp [Except.bind]

lemma map_eq_ok_iff {f : α → β} {value : β} :
    result.map f = .ok value ↔ ∃ first, result = .ok first ∧ f first = value := by
  cases result with
  | error e => simp [Except.map]
  | ok first => simp [Except.map]

lemma map_eq_error_iff {f : α → β} {e : ε} : result.map f = .error e ↔ result = .error e := by
  cases result with
  | error cause => simp [Except.map]
  | ok first => simp [Except.map]

lemma mapError_eq_ok_iff {f : ε → ε'} {value : α} :
    result.mapError f = .ok value ↔ result = .ok value := by
  constructor
  · intro h
    cases result with
    | error e => cases h
    | ok first =>
      cases h
      rfl
  · rintro rfl
    rfl

lemma mapError_eq_error_iff {f : ε → ε'} {e : ε'} :
    result.mapError f = .error e ↔ ∃ cause, result = .error cause ∧ f cause = e := by
  constructor
  · intro h
    cases result with
    | error cause =>
      cases h
      exact ⟨cause, rfl, rfl⟩
    | ok first => cases h
  · rintro ⟨cause, rfl, rfl⟩
    rfl

lemma toOption_eq_some_iff {value : α} : result.toOption = some value ↔ result = .ok value := by
  cases result with
  | error e => simp [Except.toOption]
  | ok first => simp [Except.toOption]

/-! ### What a computation fails with -/

/-- The error that a result is, if it is one. -/
def failure? : Except ε α → Option ε
  | .error e => some e
  | .ok _ => none

@[simp] lemma failure?_ok (value : α) : failure? (.ok value : Except ε α) = none := rfl

@[simp] lemma failure?_error (e : ε) : failure? (.error e : Except ε α) = some e := rfl

lemma failure?_eq_some_iff {e : ε} : failure? result = some e ↔ result = .error e := by
  cases result <;> simp

lemma failure?_eq_none_iff : failure? result = none ↔ ∃ value, result = .ok value := by
  cases result <;> simp

/-- Of two computations, one after the other, the first failure counts. -/
lemma failure?_bind {f : α → Except ε β} {later : Option ε}
    (hlater : ∀ value, failure? (f value) = later) :
    failure? (result >>= f) = (failure? result).or later := by
  cases result with
  | error e => rfl
  | ok value => exact hlater value

/-- A value that is only changed makes no failure. -/
lemma failure?_bind_pure {f : α → β} :
    failure? (result >>= fun value => pure (f value)) = failure? result := by
  cases result <;> rfl

end Provisioner
