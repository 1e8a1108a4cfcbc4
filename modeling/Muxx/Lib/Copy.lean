import Mathlib.Logic.Function.Basic
import Mathlib.Tactic.Common

/-!
# Copying cell by cell

A memory is a function. Cells `src 0`, `src 1`, … are copied to `dst 0`,
`dst 1`, … one after another:

* `copy_moved`: when no cell is written before it is read, the values arrive;
* `copy_kept`, `copy_same`: no other cell changes, and none that has the value already;
* `copy_traced`: which cell the value at the end comes from.
-/

namespace Muxx.Copy

variable {α β : Type} [DecidableEq α]

def copy (src dst : ℕ → α) : ℕ → (α → β) → α → β
  | 0, mem => mem
  | n + 1, mem =>
    let mem := copy src dst n mem
    Function.update mem (dst n) (mem (src n))

section Copy
variable {src dst : ℕ → α} {mem : α → β} {n : ℕ}

theorem copy_kept {a : α} (out : ∀ i < n, a ≠ dst i) : copy src dst n mem a = mem a := by
  induction n with
  | zero => rfl
  | succ n ih =>
    rw [copy, Function.update_of_ne (out n (Nat.lt_succ_self n))]
    exact ih fun i bound => out i (Nat.lt_succ_of_lt bound)

/-- Cells that have the value already. -/
theorem copy_same (same : ∀ i < n, mem (src i) = mem (dst i)) : copy src dst n mem = mem := by
  induction n with
  | zero => rfl
  | succ n ih =>
    rw [copy, ih fun i bound => same i (Nat.lt_succ_of_lt bound), same n (Nat.lt_succ_self n)]
    exact Function.update_eq_self ..

theorem copy_kept_since {k : ℕ} (le : k ≤ n) {a : α} (out : ∀ i < n, k ≤ i → a ≠ dst i) :
    copy src dst n mem a = copy src dst k mem a := by
  induction le with
  | refl => rfl
  | @step n le ih =>
    rw [copy, Function.update_of_ne (out n (Nat.lt_succ_self n) le)]
    exact ih fun i bound => out i (Nat.lt_succ_of_lt bound)

theorem copy_moved (unread : ∀ i < n, ∀ j < i, src i ≠ dst j)
    (distinct : ∀ i < n, ∀ j < i, dst i ≠ dst j) {i : ℕ} (bound : i < n) :
    copy src dst n mem (dst i) = mem (src i) := by
  induction n with
  | zero => exact absurd bound (Nat.not_lt_zero i)
  | succ n ih =>
    rw [copy]
    rcases Nat.lt_succ_iff_lt_or_eq.mp bound with earlier | rfl
    · rw [Function.update_of_ne (distinct n (Nat.lt_succ_self n) i earlier).symm]
      exact ih (fun i bound => unread i (Nat.lt_succ_of_lt bound))
        (fun i bound => distinct i (Nat.lt_succ_of_lt bound)) earlier
    · rw [Function.update_self]
      exact copy_kept (unread i (Nat.lt_succ_self i))

/-- A trace: a cell that has not been written yet has its own value, and one that has been
written has the value of the cell that was copied there. -/
theorem copy_traced (distinct : ∀ i < n, ∀ j < i, dst i ≠ dst j) {origin : ℕ → α}
    (fresh : ∀ i < n, (∀ j < i, src i ≠ dst j) → origin i = src i)
    (again : ∀ i < n, ∀ j < i, src i = dst j → origin i = origin j) {i : ℕ} (bound : i < n) :
    copy src dst n mem (dst i) = mem (origin i) := by
  induction n generalizing i with
  | zero => exact absurd bound (Nat.not_lt_zero i)
  | succ n ih =>
    have earlier {i : ℕ} (bound : i < n) : copy src dst n mem (dst i) = mem (origin i) :=
      ih (fun i bound => distinct i (Nat.lt_succ_of_lt bound))
        (fun i bound => fresh i (Nat.lt_succ_of_lt bound))
        (fun i bound => again i (Nat.lt_succ_of_lt bound)) bound
    rw [copy]
    rcases Nat.lt_succ_iff_lt_or_eq.mp bound with before | rfl
    · rw [Function.update_of_ne (distinct n (Nat.lt_succ_self n) i before).symm]
      exact earlier before
    · rw [Function.update_self]
      by_cases written : ∃ j < i, src i = dst j
      · obtain ⟨j, before, same⟩ := written
        rw [same, earlier before, again i bound j before same]
      · have unwritten : ∀ j < i, src i ≠ dst j := fun j before same => written ⟨j, before, same⟩
        rw [copy_kept unwritten, fresh i bound unwritten]

end Copy

end Muxx.Copy
