import Mathlib.Logic.Function.Basic
import Muxx.Lib.Program
import Muxx.Lib.Run

/-!
# Interleavings

A machine runs one program for each of its threads and may switch to another
thread before any action:

* `Machine`, `Machine.step`: the machine and its moves;
* `Rules`, `Safe`: rely and guarantee, and the proof rules for a program;
* `Machine.sound`: on a machine whose programs are safe, every run keeps the
  invariant and stops only with what the rules allow.
-/

namespace Muxx

open Fallible Run

/-! ## The machine -/

/-- Programs act on the part `view` of the machine's state, and `put` is the
state after an action that has changed it. `running` is the thread whose action
is next. `κ` are the requests a thread can make, each served by a program;
`enter` and `leave` change the state when it begins and when it has ended, and
`switch` makes another thread the running one when it can. -/
structure Machine (ι π σ τ ε κ α : Type) where
  view : τ → σ
  put : τ → σ → τ
  running : τ → ι
  program : κ → Prog π σ ε α
  enter : τ → τ
  leave : τ → τ
  canSwitch : ι → τ → Bool
  switch : ι → τ → τ

/-- The state and the rest of each thread's program. -/
structure Config (ι π σ τ ε α : Type) where
  state : τ
  rest : ι → Option (Prog π σ ε α)

inductive Move (ι κ : Type)
  /-- The running thread's next action. -/
  | act
  | enter (request : κ)
  | leave
  | switch (thread : ι)

namespace Machine

variable {ι π σ τ ε κ α : Type} (M : Machine ι π σ τ ε κ α)

variable [DecidableEq ι]

/-- A move that is not possible changes nothing. -/
def step (c : Config ι π σ τ ε α) : Move ι κ → Except ε (Config ι π σ τ ε α)
  | .act =>
    match c.rest (M.running c.state) with
    | some (.act _ upd next) =>
      .ok ⟨M.put c.state (upd (M.view c.state)),
        Function.update c.rest (M.running c.state) (some (next (M.view c.state)))⟩
    | some (.stop e) => .error e
    | _ => .ok c
  | .enter request =>
    match c.rest (M.running c.state) with
    | none =>
      .ok ⟨M.enter c.state,
        Function.update c.rest (M.running c.state) (some (M.program request))⟩
    | some _ => .ok c
  | .leave =>
    match c.rest (M.running c.state) with
    | some (.ret _) =>
      .ok ⟨M.leave c.state, Function.update c.rest (M.running c.state) none⟩
    | _ => .ok c
  | .switch thread =>
    .ok (if M.canSwitch thread c.state then ⟨M.switch thread c.state, c.rest⟩ else c)

/-- Only a program stops the machine. -/
theorem step_error {c : Config ι π σ τ ε α} {m : Move ι κ} {e : ε}
    (stopped : M.step c m = .error e) : ∃ t, c.rest t = some (.stop e) := by
  unfold step at stopped
  split at stopped
  case h_1 =>
    split at stopped
    case h_2 rest =>
      cases stopped
      exact ⟨_, rest⟩
    all_goals cases stopped
  case h_4 => cases stopped
  all_goals split at stopped <;> cases stopped

/-- The action of the move, if any, meets the condition of its place, and the
request that it begins is one of those considered. -/
def Meets (cond : π → τ → Prop) (asked : κ → τ → Prop) (c : Config ι π σ τ ε α) :
    Move ι κ → Prop
  | .act =>
    match c.rest (M.running c.state) with
    | some (.act pt _ _) => cond pt c.state
    | _ => True
  | .enter request =>
    match c.rest (M.running c.state) with
    | none => asked request c.state
    | some _ => True
  | _ => True

instance (cond : π → τ → Prop) (asked : κ → τ → Prop) [∀ pt s, Decidable (cond pt s)]
    [∀ r s, Decidable (asked r s)] (c : Config ι π σ τ ε α) (m : Move ι κ) :
    Decidable (M.Meets cond asked c m) := by
  unfold Meets
  repeat' split
  all_goals infer_instance

end Machine

/-! ## Rely and guarantee -/

/-- What is known of every state, what each thread's actions do, and what the
machine's own moves do. `cond` is a condition on the state at a place of a
program, and `allowed` says with what a program may stop. A thread is `idle`
between requests, and `post` is what it knows when it has served one. -/
structure Rules (ι π σ τ ε κ : Type) where
  view : τ → σ
  put : τ → σ → τ
  running : τ → ι
  cond : π → τ → Prop
  inv : τ → Prop
  guar : ι → τ → τ → Prop
  env : τ → τ → Prop
  allowed : ε → Prop
  idle : ι → τ → Prop := fun _ _ => True
  post : ι → κ → τ → Prop := fun _ _ _ => True

namespace Rules

variable {ι π σ τ ε κ α β : Type} (R : Rules ι π σ τ ε κ) (t : ι)

/-- The other threads and the machine keep `P`. -/
def Stable (P : τ → Prop) : Prop :=
  ∀ s s', R.inv s → P s → (R.env s s' ∨ ∃ u, u ≠ t ∧ R.guar u s s') → P s'

/-- Started by `t` in a state with `P`, each of the program's actions keeps to
the guarantee and to the invariant, and a value it ends with satisfies `Q`. -/
def Safe : Prog π σ ε α → (τ → Prop) → (α → τ → Prop) → Prop
  | .ret a, P, Q => ∀ s, R.inv s → P s → Q a s
  | .stop e, P, _ => ∀ s, R.inv s → P s → R.allowed e
  | .act pt upd next, P, Q => ∀ s, R.running s = t → R.inv s → P s → R.cond pt s →
      R.guar t s (R.put s (upd (R.view s))) ∧ R.inv (R.put s (upd (R.view s))) ∧
        ∃ P', R.Stable t P' ∧ P' (R.put s (upd (R.view s))) ∧ Safe (next (R.view s)) P' Q

end Rules

namespace Rules

variable {ι π σ τ ε κ α β : Type} {R : Rules ι π σ τ ε κ} {t : ι}
  {P P' : τ → Prop} {Q Q' : α → τ → Prop}

theorem Stable.and (h : R.Stable t P) (h' : R.Stable t P') :
    R.Stable t fun s => P s ∧ P' s :=
  fun s s' inv p moved => ⟨h s s' inv p.1 moved, h' s s' inv p.2 moved⟩

theorem stable_const {p : Prop} : R.Stable t fun _ => p := fun _ _ _ h _ => h

theorem Safe.weaken {p : Prog π σ ε α} (h : R.Safe t p P Q)
    (pre : ∀ s, R.inv s → P' s → P s) (post : ∀ a s, R.inv s → Q a s → Q' a s) :
    R.Safe t p P' Q' := by
  induction p generalizing P P' with
  | ret a => exact fun s inv p' => post a s inv (h s inv (pre s inv p'))
  | stop e => exact fun s inv p' => h s inv (pre s inv p')
  | act pt upd next ih =>
    intro s running inv p' cond
    obtain ⟨guar, inv', P₁, stable, p₁, rest⟩ := h s running inv (pre s inv p') cond
    exact ⟨guar, inv', P₁, stable, p₁, ih _ rest fun _ _ h => h⟩

theorem Safe.pre {p : Prog π σ ε α} (h : R.Safe t p P Q)
    (pre : ∀ s, R.inv s → P' s → P s) : R.Safe t p P' Q :=
  h.weaken pre fun _ _ _ q => q

/-- What is known of the state may say something that is not about the state. -/
theorem Safe.assuming {fact : Prop} {p : Prog π σ ε α} (h : fact → R.Safe t p P Q) :
    R.Safe t p (fun s => fact ∧ P s) Q := by
  cases p with
  | ret a => exact fun s inv pre => h pre.1 s inv pre.2
  | stop e => exact fun s inv pre => h pre.1 s inv pre.2
  | act pt upd next => exact fun s running inv pre => h pre.1 s running inv pre.2

theorem Safe.ret {a : α} (h : ∀ s, R.inv s → P s → Q a s) :
    R.Safe t (pure a : Prog π σ ε α) P Q := h

theorem Safe.bind {p : Prog π σ ε α} {f : α → Prog π σ ε β} {Q' : β → τ → Prop}
    (first : R.Safe t p P Q) (rest : ∀ a, R.Safe t (f a) (Q a) Q') :
    R.Safe t (p >>= f) P Q' := by
  induction p generalizing P with
  | ret a => exact (rest a).pre first
  | stop e => exact first
  | act pt upd next ih =>
    intro s running inv p cond
    obtain ⟨guar, inv', P₁, stable, p₁, next⟩ := first s running inv p cond
    exact ⟨guar, inv', P₁, stable, p₁, ih _ next⟩

theorem Safe.call {pt : π} {f : σ → α × σ} (stable : ∀ a, R.Stable t (Q a))
    (h : ∀ s, R.running s = t → R.inv s → P s → R.cond pt s →
      R.guar t s (R.put s (f (R.view s)).2) ∧ R.inv (R.put s (f (R.view s)).2) ∧
        Q (f (R.view s)).1 (R.put s (f (R.view s)).2)) :
    R.Safe t (Prog.call pt f : Prog π σ ε α) P Q := by
  intro s running inv p cond
  obtain ⟨guar, inv', q⟩ := h s running inv p cond
  exact ⟨guar, inv', Q (f (R.view s)).1, stable _, q, fun _ _ q => q⟩

theorem Safe.write {pt : π} {upd : σ → σ} {Q : Unit → τ → Prop} (stable : R.Stable t (Q ()))
    (h : ∀ s, R.running s = t → R.inv s → P s → R.cond pt s →
      R.guar t s (R.put s (upd (R.view s))) ∧ R.inv (R.put s (upd (R.view s))) ∧
        Q () (R.put s (upd (R.view s)))) :
    R.Safe t (Prog.write pt upd : Prog π σ ε Unit) P Q := by
  intro s running inv p cond
  obtain ⟨guar, inv', q⟩ := h s running inv p cond
  exact ⟨guar, inv', Q (), stable, q, fun _ _ q => q⟩

/-- Reading keeps to the guarantee when what is put back is what was there. -/
theorem Safe.read {pt : π} {f : σ → α} (same : ∀ s, R.put s (R.view s) = s)
    (guar : ∀ s, R.guar t s s) (stable : ∀ a, R.Stable t (Q a))
    (h : ∀ s, R.running s = t → R.inv s → P s → R.cond pt s → Q (f (R.view s)) s) :
    R.Safe t (Prog.read pt f : Prog π σ ε α) P Q := by
  intro s running inv p cond
  simp only [id_eq, same]
  exact ⟨guar s, inv, Q (f (R.view s)), stable _, h s running inv p cond, fun _ _ q => q⟩

end Rules

/-! ## Soundness -/

section Soundness
variable {ι π σ τ ε κ α : Type} [DecidableEq ι] {M : Machine ι π σ τ ε κ α}
  {R : Rules ι π σ τ ε α} {asked : κ → τ → Prop} {c c₀ : Config ι π σ τ ε α}

/-- The rules describe the machine: its own moves are among `env`, and each
request's program is safe from the moment an idle thread makes it. -/
structure Machine.Follows (M : Machine ι π σ τ ε κ α) (R : Rules ι π σ τ ε α)
    (asked : κ → τ → Prop) : Prop where
  view : R.view = M.view
  put : R.put = M.put
  running : R.running = M.running
  enter : ∀ s, R.inv s → R.env s (M.enter s) ∧ R.inv (M.enter s)
  leave : ∀ s, R.inv s → R.env s (M.leave s) ∧ R.inv (M.leave s)
  switch : ∀ t s, M.canSwitch t s → R.inv s → R.env s (M.switch t s) ∧ R.inv (M.switch t s)
  idle : ∀ t, R.Stable t (R.idle t)
  served : ∀ t a s, R.inv s → R.post t a s → R.idle t s
  program : ∀ request s, R.inv s → R.idle (M.running s) s → asked request s →
    R.Safe (M.running s) (M.program request) (R.idle (M.running s)) (R.post (M.running s))

/-- The invariant holds, and each thread is idle or at a safe point of its
program. -/
structure Config.Sound (R : Rules ι π σ τ ε α) (c : Config ι π σ τ ε α) : Prop where
  inv : R.inv c.state
  idle : ∀ t, c.rest t = none → R.idle t c.state
  safe : ∀ t p, c.rest t = some p →
    ∃ P, R.Stable t P ∧ P c.state ∧ R.Safe t p P (R.post t)

/-- A step that keeps what the other threads know. -/
theorem Config.Sound.moved (h : c.Sound R) {s : τ} (inv : R.inv s) {t : ι}
    {p : Option (Prog π σ ε α)} (stable : ∀ t, R.Stable t (R.idle t))
    (kept : ∀ u, u ≠ t → R.env c.state s ∨ ∃ v, v ≠ u ∧ R.guar v c.state s)
    (idle : p = none → R.idle t s)
    (safe : ∀ q, p = some q → ∃ P, R.Stable t P ∧ P s ∧ R.Safe t q P (R.post t)) :
    Config.Sound R ⟨s, Function.update c.rest t p⟩ := by
  refine ⟨inv, fun u rest => ?_, fun u q rest => ?_⟩
  · have rest : Function.update c.rest t p u = none := rest
    by_cases hu : u = t
    · subst hu
      rw [Function.update_self] at rest
      exact idle rest
    · rw [Function.update_of_ne hu] at rest
      exact stable u _ _ h.inv (h.idle u rest) (kept u hu)
  · have rest : Function.update c.rest t p u = some q := rest
    by_cases hu : u = t
    · subst hu
      rw [Function.update_self] at rest
      exact safe q rest
    · rw [Function.update_of_ne hu] at rest
      obtain ⟨P, stable, holds, safe⟩ := h.safe u q rest
      exact ⟨P, stable, stable _ _ h.inv holds (kept u hu), safe⟩

theorem Config.Sound.act (h : c.Sound R) (follows : M.Follows R asked) {pt : π} {upd : σ → σ}
    {next : σ → Prog π σ ε α}
    (rest : c.rest (R.running c.state) = some (.act pt upd next)) (cond : R.cond pt c.state) :
    Config.Sound R
      ⟨R.put c.state (upd (R.view c.state)),
        Function.update c.rest (R.running c.state) (some (next (R.view c.state)))⟩ := by
  obtain ⟨P, _, holds, safe⟩ := h.safe _ _ rest
  obtain ⟨guar, inv, P', stable', holds', safe'⟩ := safe _ rfl h.inv holds cond
  refine h.moved inv follows.idle (fun u hu => .inr ⟨_, Ne.symm hu, guar⟩) nofun fun q same => ?_
  cases same
  exact ⟨P', stable', holds', safe'⟩

omit [DecidableEq ι] in
/-- What a thread knows when it has served a request. -/
theorem Config.Sound.post (h : c.Sound R) {t : ι} {a : α} (rest : c.rest t = some (.ret a)) :
    R.post t a c.state := by
  obtain ⟨P, _, holds, safe⟩ := h.safe t _ rest
  exact safe c.state h.inv holds

theorem Config.Sound.step (h : c.Sound R) (follows : M.Follows R asked) {m : Move ι κ}
    (meets : M.Meets R.cond asked c m) {c' : Config ι π σ τ ε α} (stepped : M.step c m = .ok c') :
    c'.Sound R := by
  cases m with
  | act =>
    unfold Machine.step at stepped
    unfold Machine.Meets at meets
    dsimp only at stepped meets
    split at stepped
    case h_1 pt upd next rest =>
      cases stepped
      rw [rest] at meets
      rw [← follows.running] at rest ⊢
      rw [← follows.view, ← follows.put]
      exact h.act follows rest meets
    case h_2 => cases stepped
    case h_3 => cases stepped; exact h
  | enter request =>
    unfold Machine.step at stepped
    unfold Machine.Meets at meets
    dsimp only at stepped meets
    split at stepped
    case h_1 rest =>
      cases stepped
      rw [rest] at meets
      obtain ⟨env, inv⟩ := follows.enter c.state h.inv
      have idle := h.idle _ rest
      refine h.moved inv follows.idle (fun _ _ => .inl env) nofun fun q same => ?_
      cases same
      exact ⟨_, follows.idle _, follows.idle _ _ _ h.inv idle (.inl env),
        follows.program request c.state h.inv idle meets⟩
    case h_2 => cases stepped; exact h
  | leave =>
    unfold Machine.step at stepped
    dsimp only at stepped
    split at stepped
    case h_1 a rest =>
      cases stepped
      obtain ⟨env, inv⟩ := follows.leave c.state h.inv
      have idle := follows.served _ a _ h.inv (h.post rest)
      refine h.moved inv follows.idle (fun _ _ => .inl env) (fun _ => ?_) nofun
      exact follows.idle _ _ _ h.inv idle (.inl env)
    case h_2 => cases stepped; exact h
  | switch thread =>
    cases stepped
    split
    case isTrue can =>
      obtain ⟨env, inv⟩ := follows.switch thread c.state can h.inv
      refine ⟨inv, fun u rest => follows.idle u _ _ h.inv (h.idle u rest) (.inl env),
        fun u q rest => ?_⟩
      obtain ⟨P, stable, holds, safe⟩ := h.safe u q rest
      exact ⟨P, stable, stable _ _ h.inv holds (.inl env), safe⟩
    case isFalse => exact h

/-- On a machine that follows the rules, a run whose moves meet the conditions
keeps the invariant and every thread at a safe point. -/
theorem Machine.sound (follows : M.Follows R asked) (start : c₀.Sound R)
    (h : Reachable M.step (M.Meets R.cond asked) c₀ c) : c.Sound R :=
  h.invariant (Config.Sound R) start fun _ _ _ sound meets stepped =>
    sound.step follows meets stepped

/-- A machine at safe points stops only with what the rules allow. -/
theorem Config.Sound.allowed (h : c.Sound R) {m : Move ι κ} {e : ε}
    (stopped : M.step c m = .error e) : R.allowed e := by
  obtain ⟨t, rest⟩ := M.step_error stopped
  obtain ⟨P, _, holds, safe⟩ := h.safe t _ rest
  exact safe c.state h.inv holds

/-- A machine that no rule allows to stop does not. -/
theorem Machine.never_stops (follows : M.Follows R asked) (start : c₀.Sound R)
    (never : ∀ e, ¬ R.allowed e) {moves : List (Move ι κ)}
    (meets : Run.Meets M.step (M.Meets R.cond asked) c₀ moves) :
    ∃ c, exec M.step c₀ moves = .ok c := by
  refine exec_ok (fun c m reached _ => ?_) meets
  cases stepped : M.step c m with
  | ok c' => exact ⟨c', rfl⟩
  | error e => exact absurd ((Machine.sound follows start reached).allowed stepped) (never e)

end Soundness

end Muxx
