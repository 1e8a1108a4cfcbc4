import Muxx.Lib.Pdp11

/-!
# Routines that call others

A call pushes the return address, the routine called runs to its `rts`, and that
pops the address.

* `Advances`: one step of a routine, or a whole call;
* `Follows.unique`: there is one way through, when the routines called have one.
-/

namespace Muxx.Pdp11

section Calls
variable {σ : Type} [Bus σ]

/-- The routine that a line calls. -/
def Line.entry (c : Cpu σ) : Line → Option Word
  | .jsr d =>
    match d.place false c with
    | (.mem a, _) => some a
    | _ => none
  | .jsrAt x r => Bus.read c.bus (c.get r + x)
  | _ => none

/-- `link` gives the return address of each line, `routine` what the routine at
an address does. -/
inductive Advances (code : List Line) (link : Nat → Word)
    (routine : Word → Cpu σ → Cpu σ → Prop) : Nat × Cpu σ → Nat × Cpu σ → Prop
  | step {s t : Nat × Cpu σ} (stepped : step code s = some t) : Advances code link routine s t
  | call {pc : Nat} {c c₁ c₂ c₃ : Cpu σ} {l : Line} {a : Word} (there : code[pc]? = some l)
      (entry : l.entry c = some a) (pushed : c.push (link pc) = some c₁)
      (ran : routine a c₁ c₂) (popped : c₂.pop = some (link pc, c₃)) :
      Advances code link routine (pc, c) (pc + 1, c₃)

/-- Control gets from one line to another, through the calls between them. -/
def Follows (code : List Line) (link : Nat → Word) (routine : Word → Cpu σ → Cpu σ → Prop) :
    Nat × Cpu σ → Nat × Cpu σ → Prop :=
  Relation.ReflTransGen (Advances code link routine)

/-- A routine runs from its first line to its `rts`. -/
def Returns (code : List Line) (link : Nat → Word) (routine : Word → Cpu σ → Cpu σ → Prop)
    (c c' : Cpu σ) : Prop :=
  ∃ pc, Follows code link routine (0, c) (pc, c') ∧ code[pc]? = some .rts

variable {code : List Line} {link : Nat → Word} {routine : Word → Cpu σ → Cpu σ → Prop}

theorem Reaches.follows {s t : Nat × Cpu σ} (reaches : Reaches code s t) :
    Follows code link routine s t :=
  Relation.ReflTransGen.mono (fun _ _ stepped => Advances.step stepped) _ _ reaches

theorem Follows.trans {s t u : Nat × Cpu σ} (first : Follows code link routine s t)
    (rest : Follows code link routine t u) : Follows code link routine s u :=
  Relation.ReflTransGen.trans first rest

theorem Follows.call {pc : Nat} {c c₁ c₂ c₃ : Cpu σ} {l : Line} {a : Word}
    (there : code[pc]? = some l) (entry : l.entry c = some a) (pushed : c.push (link pc) = some c₁)
    (ran : routine a c₁ c₂) (popped : c₂.pop = some (link pc, c₃)) :
    Follows code link routine (pc, c) (pc + 1, c₃) :=
  Relation.ReflTransGen.single (.call there entry pushed ran popped)

/-- A line that calls is no step. -/
theorem step_entry {pc : Nat} {c : Cpu σ} {l : Line} {a : Word} (there : code[pc]? = some l)
    (entry : l.entry c = some a) : step code (pc, c) = none := by
  cases l with
  | jsr d | jsrAt x r => simp only [step, there]
  | _ => cases entry

theorem Advances.unique (one : ∀ a, Relator.RightUnique (routine a)) :
    Relator.RightUnique (Advances code link routine) := by
  intro s t u first second
  cases first with
  | step stepped =>
    cases second with
    | step stepped' => exact Option.some_inj.mp (stepped.symm.trans stepped')
    | call there entry => exact absurd (stepped.symm.trans (step_entry there entry)) (Option.some_ne_none _)
  | call there entry pushed ran popped =>
    cases second with
    | step stepped => exact absurd (stepped.symm.trans (step_entry there entry)) (Option.some_ne_none _)
    | call there' entry' pushed' ran' popped' =>
      obtain rfl := Option.some_inj.mp (there.symm.trans there')
      obtain rfl := Option.some_inj.mp (entry.symm.trans entry')
      obtain rfl := Option.some_inj.mp (pushed.symm.trans pushed')
      obtain rfl := one _ ran ran'
      rw [(Prod.mk.inj (Option.some_inj.mp (popped.symm.trans popped'))).2]

/-- `rts` is the end of a routine. -/
theorem advances_rts {pc : Nat} {c : Cpu σ} (there : code[pc]? = some .rts) (t : Nat × Cpu σ) :
    ¬ Advances code link routine (pc, c) t := by
  intro advances
  cases advances with
  | step stepped =>
    simp only [Pdp11.step, there] at stepped
    cases stepped
  | call there' entry =>
    obtain rfl := Option.some_inj.mp (there.symm.trans there')
    cases entry

theorem Returns.unique (one : ∀ a, Relator.RightUnique (routine a)) {c c₁ c₂ : Cpu σ}
    (first : Returns code link routine c c₁) (second : Returns code link routine c c₂) : c₁ = c₂ := by
  obtain ⟨pc₁, follows₁, at₁⟩ := first
  obtain ⟨pc₂, follows₂, at₂⟩ := second
  have stays {pc : Nat} {d : Cpu σ} {t : Nat × Cpu σ} (there : code[pc]? = some .rts)
      (follows : Follows code link routine (pc, d) t) : (pc, d) = t := by
    rcases Relation.ReflTransGen.cases_head follows with same | ⟨u, advances, -⟩
    · exact same
    · exact absurd advances (advances_rts there u)
  rcases Relation.ReflTransGen.total_of_right_unique (Advances.unique one) follows₁ follows₂ with
    onward | onward
  · exact congrArg Prod.snd (stays at₁ onward)
  · exact (congrArg Prod.snd (stays at₂ onward)).symm

end Calls

end Muxx.Pdp11
