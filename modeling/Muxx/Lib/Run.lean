import Muxx.Lib.Fallible

/-!
# Runs

Systems that take one step for each input, where a step may fail:

* `Reachable`, `Reachable.invariant`: the states reached when every step meets
  a condition, and the invariant rule;
* `exec`, `reachable_exec`: such runs from a list of inputs;
* `Steps`, `steps_iff_meets`: the steps of a run all do what they should
  exactly when they all meet a condition.
-/

namespace Muxx.Run

open Fallible

variable {σ ι ε : Type} {step : σ → ι → Except ε σ} {cond : σ → ι → Prop} {s₀ s s' : σ}

/-- The states a run from `s₀` reaches when all its steps meet `cond`. -/
inductive Reachable (step : σ → ι → Except ε σ) (cond : σ → ι → Prop) (s₀ : σ) : σ → Prop
  | start : Reachable step cond s₀ s₀
  | step {s s' : σ} {i : ι} (before : Reachable step cond s₀ s) (meets : cond s i)
      (stepped : step s i = .ok s') : Reachable step cond s₀ s'

theorem Reachable.invariant (Inv : σ → Prop) (start : Inv s₀)
    (kept : ∀ s i s', Inv s → cond s i → step s i = .ok s' → Inv s')
    (h : Reachable step cond s₀ s) : Inv s := by
  induction h with
  | start => exact start
  | step _ meets stepped ih => exact kept _ _ _ ih meets stepped

/-- The state after a list of inputs. -/
def exec (step : σ → ι → Except ε σ) (s : σ) : List ι → Except ε σ
  | [] => .ok s
  | i :: is => do exec step (← step s i) is

/-- Every step of the run meets `cond`. -/
def Meets (step : σ → ι → Except ε σ) (cond : σ → ι → Prop) : σ → List ι → Prop
  | _, [] => True
  | s, i :: is => cond s i ∧ ∀ s', step s i = .ok s' → Meets step cond s' is

instance Meets.decidable [∀ s i, Decidable (cond s i)] :
    ∀ s is, Decidable (Meets step cond s is)
  | _, [] => inferInstanceAs (Decidable True)
  | s, i :: is =>
    match e : step s i with
    | .ok s' =>
      have := Meets.decidable s' is
      decidable_of_iff (cond s i ∧ Meets step cond s' is) (by simp [Meets, e])
    | .error _ => decidable_of_iff (cond s i) (by simp [Meets, e])

theorem Reachable.exec_from (before : Reachable step cond s₀ s) {is : List ι}
    (meets : Meets step cond s is) (ran : exec step s is = .ok s') :
    Reachable step cond s₀ s' := by
  induction is generalizing s with
  | nil => cases ran; exact before
  | cons i is ih =>
    obtain ⟨t, stepped, rest⟩ := bind_ok.mp ran
    exact ih (before.step meets.1 stepped) (meets.2 t stepped) rest

theorem Meets.left {is js : List ι} (meets : Meets step cond s (is ++ js)) :
    Meets step cond s is := by
  induction is generalizing s with
  | nil => trivial
  | cons i is ih => exact ⟨meets.1, fun s' stepped => ih (meets.2 s' stepped)⟩

theorem reachable_exec {is : List ι} (meets : Meets step cond s₀ is)
    (ran : exec step s₀ is = .ok s) : Reachable step cond s₀ s :=
  Reachable.start.exec_from meets ran

/-- The invariant rule for properties of the inputs so far. -/
theorem exec_history (Inv : List ι → σ → Prop)
    (kept : ∀ done s i s', Inv done s → cond s i → step s i = .ok s' → Inv (done ++ [i]) s')
    {done is : List ι} (start : Inv done s) (meets : Meets step cond s is)
    (ran : exec step s is = .ok s') : Inv (done ++ is) s' := by
  induction is generalizing done s with
  | nil =>
    cases ran
    rw [List.append_nil]
    exact start
  | cons i is ih =>
    obtain ⟨t, stepped, rest⟩ := bind_ok.mp ran
    rw [List.append_cons]
    exact ih (kept done s i t start meets.1 stepped) (meets.2 t stepped) rest

/-- Runs within `dom` meet a condition that follows from an invariant. -/
theorem Meets.of_invariant {dom : σ → ι → Prop} (Inv : σ → Prop)
    (kept : ∀ s i s', Inv s → dom s i → step s i = .ok s' → Inv s')
    (follows : ∀ s i, Inv s → dom s i → cond s i) {is : List ι} (start : Inv s)
    (within : Meets step dom s is) : Meets step cond s is := by
  induction is generalizing s with
  | nil => trivial
  | cons i is ih =>
    refine ⟨follows s i start within.1, ?_⟩
    intro s' stepped
    exact ih (kept s i s' start within.1 stepped) (within.2 s' stepped)

/-- A run goes through when no state it can reach refuses a step. -/
theorem exec_ok (goes : ∀ s i, Reachable step cond s₀ s → cond s i → ∃ s', step s i = .ok s')
    {is : List ι} (meets : Meets step cond s₀ is) : ∃ s, exec step s₀ is = .ok s := by
  suffices from_reached : ∀ s, Reachable step cond s₀ s → Meets step cond s is →
      ∃ s', exec step s is = .ok s' from from_reached s₀ .start meets
  clear meets
  induction is with
  | nil => exact fun s _ _ => ⟨s, rfl⟩
  | cons i is ih =>
    intro s before ⟨first, rest⟩
    obtain ⟨t, stepped⟩ := goes s i before first
    obtain ⟨s', ran⟩ := ih t (before.step first stepped) (rest t stepped)
    exact ⟨s', bind_ok.mpr ⟨t, stepped, ran⟩⟩

/-- Every step of the run is one that `T` allows. -/
def Steps (step : σ → ι → Except ε σ) (T : σ → ι → σ → Prop) : σ → List ι → Prop
  | _, [] => True
  | s, i :: is => ∀ s', step s i = .ok s' → T s i s' ∧ Steps step T s' is

theorem meets_of_forall {p : ι → Prop} {is : List ι} (h : ∀ i ∈ is, p i) :
    Meets step (fun _ => p) s is := by
  induction is generalizing s with
  | nil => trivial
  | cons i is ih =>
    exact ⟨h i List.mem_cons_self, fun s' _ => ih fun j hj => h j (List.mem_cons_of_mem _ hj)⟩

/-- In runs within `dom`, while the invariant holds: a step that meets the
condition is allowed and keeps the invariant, and a step that does not meet it
is taken and not allowed. -/
theorem steps_iff_meets {T : σ → ι → σ → Prop} {dom : σ → ι → Prop} (Inv : σ → Prop)
    (kept : ∀ s i s', Inv s → dom s i → cond s i → step s i = .ok s' → T s i s' ∧ Inv s')
    (broken : ∀ s i, Inv s → dom s i → ¬ cond s i → ∃ s', step s i = .ok s' ∧ ¬ T s i s')
    (start : Inv s) (is : List ι) (within : Meets step dom s is) :
    Steps step T s is ↔ Meets step cond s is := by
  induction is generalizing s with
  | nil => exact Iff.rfl
  | cons i is ih =>
    obtain ⟨first, later⟩ := within
    constructor
    · intro steps
      have meets : cond s i := by
        refine Classical.byContradiction fun unmet => ?_
        obtain ⟨s', stepped, forbidden⟩ := broken s i start first unmet
        exact forbidden (steps s' stepped).1
      exact ⟨meets, fun s' stepped =>
        (ih (kept s i s' start first meets stepped).2 (later s' stepped)).mp (steps s' stepped).2⟩
    · rintro ⟨meets, rest⟩ s' stepped
      obtain ⟨allowed, inv⟩ := kept s i s' start first meets stepped
      exact ⟨allowed, (ih inv (later s' stepped)).mpr (rest s' stepped)⟩

end Muxx.Run
