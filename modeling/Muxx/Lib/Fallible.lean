import Mathlib.Init

/-! Computations that end with a value or an error: what a successful one
says about its parts. -/
namespace Muxx.Fallible

variable {ε α β : Type} {x : Except ε α} {f : α → Except ε β} {a b : α}

theorem bind_ok {b : β} : x >>= f = .ok b ↔ ∃ a, x = .ok a ∧ f a = .ok b := by
  constructor
  · intro h
    cases x with
    | error e => cases h
    | ok a => exact ⟨a, rfl, h⟩
  · rintro ⟨a, rfl, h⟩
    exact h

theorem bind_error {e : ε} :
    x >>= f = .error e ↔ x = .error e ∨ ∃ a, x = .ok a ∧ f a = .error e := by
  cases x with
  | error e' => simp [bind, Except.bind]
  | ok a => simp [bind, Except.bind]

theorem isOk_iff : x.isOk = true ↔ ∃ a, x = .ok a := by
  cases x <;> simp [Except.isOk, Except.toBool]

@[simp] theorem ok_bind : Except.ok a >>= f = f a := rfl

@[simp] theorem error_bind {e : ε} : (Except.error e : Except ε α) >>= f = .error e := rfl

@[simp] theorem pure_eq_ok : (pure a : Except ε α) = .ok a := rfl

/-- The computation succeeds with a value that passes the test. -/
def succeeds (x : Except ε α) (p : α → Bool) : Bool :=
  match x with
  | .ok a => p a
  | .error _ => false

theorem succeeds_iff {p : α → Bool} : succeeds x p = true ↔ ∃ a, x = .ok a ∧ p a = true := by
  cases x <;> simp [succeeds]

/-- What a computation that does not succeed fails with. -/
def failure (x : Except ε α) : Option ε :=
  match x with
  | .ok _ => none
  | .error e => some e

theorem failure_some {e : ε} (failed : failure x = some e) : x = .error e := by
  cases x with
  | ok a => cases failed
  | error e' =>
    cases failed
    rfl

end Muxx.Fallible
