import Muxx.Lib.Fallible

/-!
# Programs over a shared state

A program acts on a state that others may change between its actions:

* `Prog`: programs as trees of labelled actions, and their monad;
* `Prog.read`, `Prog.write`, `Prog.call`: the actions programs are written with;
* `run`: what a program does when nobody interferes;
* `Moves`: every action of a program is a move of a relation.
-/

namespace Muxx

open Fallible

/-- A program ends with a value or stops the machine, or it performs an action:
at the place `pt` it reads the state and updates it, both in one go, and goes
on with what it has read. -/
inductive Prog (π σ ε α : Type) : Type
  | ret (a : α)
  | stop (e : ε)
  | act (pt : π) (upd : σ → σ) (next : σ → Prog π σ ε α)

namespace Prog

variable {π σ ε α β : Type}

def bind : Prog π σ ε α → (α → Prog π σ ε β) → Prog π σ ε β
  | ret a, f => f a
  | stop e, _ => stop e
  | act pt upd next, f => act pt upd fun s => bind (next s) f

instance : Monad (Prog π σ ε) where
  pure := ret
  bind := bind

def read (pt : π) (f : σ → α) : Prog π σ ε α := act pt id fun s => ret (f s)

def write (pt : π) (upd : σ → σ) : Prog π σ ε Unit := act pt upd fun _ => ret ()

/-- A function that runs without interruption. -/
def call (pt : π) (f : σ → α × σ) : Prog π σ ε α := act pt (fun s => (f s).2) fun s => ret (f s).1

/-- The program alone, from the state `s`. -/
def run : Prog π σ ε α → σ → Except ε (α × σ)
  | ret a, s => .ok (a, s)
  | stop e, _ => .error e
  | act _ upd next, s => run (next s) (upd s)

section Run
variable {s : σ} {pt : π}

@[simp] theorem run_pure {a : α} : run (pure a : Prog π σ ε α) s = .ok (a, s) := rfl

@[simp] theorem run_stop {e : ε} : run (stop e : Prog π σ ε α) s = .error e := rfl

@[simp] theorem run_read {f : σ → α} : run (read pt f : Prog π σ ε α) s = .ok (f s, s) := rfl

@[simp] theorem run_write {upd : σ → σ} :
    run (write pt upd : Prog π σ ε Unit) s = .ok ((), upd s) := rfl

@[simp] theorem run_call {f : σ → α × σ} : run (call pt f : Prog π σ ε α) s = .ok (f s) := rfl

@[simp] theorem run_bind {p : Prog π σ ε α} {f : α → Prog π σ ε β} :
    run (p >>= f) s = (do let (a, s') ← run p s; run (f a) s') := by
  induction p generalizing s with
  | ret a => rfl
  | stop e => rfl
  | act pt upd next ih => exact ih s

end Run

/-- Every action of the program is a move of `R`, whatever has been read before. -/
def Moves (R : σ → σ → Prop) : Prog π σ ε α → Prop
  | ret _ | stop _ => True
  | act _ upd next => ∀ s, R s (upd s) ∧ Moves R (next s)

section Moves
variable {R : σ → σ → Prop} {pt : π}

theorem Moves.bind {p : Prog π σ ε α} {f : α → Prog π σ ε β} (first : Moves R p)
    (rest : ∀ a, Moves R (f a)) : Moves R (p >>= f) := by
  induction p with
  | ret a => exact rest a
  | stop e => trivial
  | act pt upd next ih =>
    intro s
    exact ⟨(first s).1, ih s (first s).2⟩

theorem Moves.call {f : σ → α × σ} (move : ∀ s, R s (f s).2) :
    Moves R (call pt f : Prog π σ ε α) := fun s => ⟨move s, trivial⟩

theorem Moves.read {f : σ → α} (refl : ∀ s, R s s) : Moves R (read pt f : Prog π σ ε α) :=
  fun s => ⟨refl s, trivial⟩

theorem Moves.write {upd : σ → σ} (move : ∀ s, R s (upd s)) :
    Moves R (write pt upd : Prog π σ ε Unit) := fun s => ⟨move s, trivial⟩

theorem Moves.run {p : Prog π σ ε α} (moves : Moves R p) (refl : ∀ s, R s s)
    (trans : ∀ {s₁ s₂ s₃}, R s₁ s₂ → R s₂ s₃ → R s₁ s₃) {s s' : σ} {a : α}
    (ran : run p s = .ok (a, s')) : R s s' := by
  induction p generalizing s with
  | ret a => cases ran; exact refl _
  | stop e => cases ran
  | act pt upd next ih => exact trans (moves s).1 (ih s (moves s).2 ran)

end Moves

end Prog

end Muxx
