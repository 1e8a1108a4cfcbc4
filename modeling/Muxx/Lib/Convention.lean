import Muxx.Lib.Pdp11

/-!
# Calls

Plain memory, and how C calls a function on it: the arguments are pushed from
right to left, then the return address.

* `Stacked`: the words that pushes leave in memory;
* `pushAll_stacked`, `call_args`: what the callee finds.
-/

namespace Muxx.Pdp11

/-- Words at even addresses, and no devices. -/
abbrev Ram := Word → Word

instance ram : Bus Ram where
  read m a := if a.toNat % 2 = 1 then none else some (m a)
  write m a w := if a.toNat % 2 = 1 then none else some (Function.update m a w)

theorem read_ram {a : Word} (even : a.toNat % 2 = 0) (m : Ram) : Bus.read m a = some (m a) :=
  if_neg (by omega)

theorem write_ram {a : Word} (even : a.toNat % 2 = 0) (m : Ram) (w : Word) :
    Bus.write m a w = some (Function.update m a w) :=
  if_neg (by omega)

theorem even_bit {a : Word} (even : a.toNat % 2 = 0) : a.getLsbD 0 = false := by
  rw [BitVec.getLsbD, Nat.testBit_zero, even]
  rfl

theorem even_mask {a : Word} (even : a.toNat % 2 = 0) : a &&& 0xFFFE = a := by
  have mask : ∀ i : Fin 16, i ≠ 0 → (0xFFFE : Word).getLsbD i = true := by decide
  apply BitVec.eq_of_getLsbD_eq
  intro i within
  rw [BitVec.getLsbD_and]
  by_cases first : i = 0
  · subst first
    rw [even_bit even, Bool.false_and]
  · rw [mask ⟨i, within⟩ fun same => first (congrArg Fin.val same), Bool.and_true]

/-- A byte that is written at an even address is the low one of the word. -/
theorem writeb_ram {a : Word} (even : a.toNat % 2 = 0) (m : Ram) (b : Byte) :
    ∃ w : Word, Bus.writeb m a b = some (Function.update m a w) ∧ w.setWidth 8 = b := by
  refine ⟨(m a).extractLsb' 8 8 ++ b, ?_, BitVec.setWidth_append_eq_right⟩
  simp only [Bus.writeb, even_mask even, even_bit even, read_ram even, write_ram even]
  rfl

section Convention
variable {σ : Type} [Bus σ]

def Cpu.pushAll : List Word → Cpu σ → Option (Cpu σ)
  | [], c => some c
  | w :: ws, c => (c.push w).bind (pushAll ws)

/-- A call from a function whose own frame takes `frame` bytes. -/
def Cpu.call (c : Cpu σ) (frame : Word) (args : List Word) (ret : Word) : Option (Cpu σ) :=
  Cpu.pushAll (args.reverse ++ [ret]) (c.set .sp (c.get .sp - frame))

/-- An argument at the entry of a function. -/
def Cpu.arg (c : Cpu σ) (i : Nat) : Option Word :=
  Bus.read c.bus (c.get .sp + 2 + BitVec.ofNat 16 (2 * i))

end Convention

/-! ## What pushes leave in memory -/

/-- The words `ws` were pushed at `sp`, the first one first. -/
structure Stacked (m m' : Ram) (sp : Word) (ws : List Word) : Prop where
  word : ∀ i (within : i < ws.length), m' (sp - BitVec.ofNat 16 (2 * (i + 1))) = ws[i]
  other : ∀ a : Word, a.toNat + 2 * ws.length < sp.toNat ∨ sp.toNat ≤ a.toNat → m' a = m a

section Stacked
variable {m m' : Ram} {sp : Word} {ws : List Word} {c : Cpu Ram}

theorem Stacked.nil (m : Ram) (sp : Word) : Stacked m m sp [] :=
  ⟨fun i within => absurd within (Nat.not_lt_zero i), fun _ _ => rfl⟩

theorem Stacked.push (h : Stacked m m' sp ws) (room : 2 * (ws.length + 1) ≤ sp.toNat) (w : Word) :
    Stacked m (Function.update m' (sp - BitVec.ofNat 16 (2 * (ws.length + 1))) w) sp
      (ws ++ [w]) := by
  constructor
  · intro i within
    rw [List.length_append, List.length_singleton] at within
    by_cases last : i = ws.length
    · subst last
      rw [Function.update_self, List.getElem_concat_length rfl]
    · have before : i < ws.length := by omega
      have apart : sp - BitVec.ofNat 16 (2 * (i + 1)) ≠
          sp - BitVec.ofNat 16 (2 * (ws.length + 1)) := by
        bv_omega
      rw [Function.update_of_ne apart, h.word i before, List.getElem_append_left before]
  · intro a outside
    rw [List.length_append, List.length_singleton] at outside
    have apart : a ≠ sp - BitVec.ofNat 16 (2 * (ws.length + 1)) := by
      bv_omega
    rw [Function.update_of_ne apart]
    apply h.other
    omega

theorem push_kernel (kernel : userMode c.psw = false) (even : c.ksp.toNat % 2 = 0) (w : Word) :
    c.push w = some
      { c with ksp := c.ksp + -2, bus := Function.update c.bus (c.ksp + -2) w } := by
  have slot : (c.ksp + -2).toNat % 2 = 0 := by
    bv_omega
  simp only [Cpu.push, Cpu.get, Cpu.set, kernel, Bool.false_eq_true, if_false, write_ram slot,
    Option.map_some]

theorem arg_ram (kernel : userMode c.psw = false) (even : c.ksp.toNat % 2 = 0) (i : Nat) :
    c.arg i = some (c.bus (c.ksp + 2#16 + BitVec.ofNat 16 (2 * i))) := by
  have slot : (c.ksp + 2#16 + BitVec.ofNat 16 (2 * i)).toNat % 2 = 0 := by
    bv_omega
  simp only [Cpu.arg, Cpu.get, kernel, Bool.false_eq_true, if_false]
  exact read_ram slot _

/-- More words, when `done` have been pushed at `sp`. -/
theorem pushAll_after {done : List Word} (kernel : userMode c.psw = false)
    (even : sp.toNat % 2 = 0) (room : 2 * (done.length + ws.length) ≤ sp.toNat)
    (at_done : c.ksp = sp - BitVec.ofNat 16 (2 * done.length)) (stacked : Stacked m c.bus sp done) :
    ∃ m', c.pushAll ws = some
        { c with ksp := sp - BitVec.ofNat 16 (2 * (done.length + ws.length)), bus := m' } ∧
      Stacked m m' sp (done ++ ws) := by
  induction ws generalizing c done with
  | nil =>
    refine ⟨c.bus, ?_, by simpa using stacked⟩
    simp only [Cpu.pushAll, List.length_nil, Nat.add_zero, ← at_done]
  | cons w ws ih =>
    rw [List.length_cons] at room
    have slot : c.ksp + -2 = sp - BitVec.ofNat 16 (2 * (done.length + 1)) := by
      bv_omega
    have pushed := push_kernel kernel (by bv_omega) w
    rw [slot] at pushed
    have length : (done ++ [w]).length = done.length + 1 := by
      rw [List.length_append, List.length_singleton]
    have total : done.length + 1 + ws.length = done.length + (ws.length + 1) := by
      omega
    obtain ⟨m', ran, after⟩ := ih (c := { c with
        ksp := sp - BitVec.ofNat 16 (2 * (done.length + 1))
        bus := Function.update c.bus (sp - BitVec.ofNat 16 (2 * (done.length + 1))) w }) kernel
      (by omega) (by rw [length]) (stacked.push (by omega) w)
    refine ⟨m', ?_, by simpa using after⟩
    rw [Cpu.pushAll, pushed, Option.bind_some, ran, length, List.length_cons, total]

theorem pushAll_stacked (ws : List Word) (kernel : userMode c.psw = false) (even : c.ksp.toNat % 2 = 0)
    (room : 2 * ws.length ≤ c.ksp.toNat) :
    ∃ m, c.pushAll ws =
        some { c with ksp := c.ksp - BitVec.ofNat 16 (2 * ws.length), bus := m } ∧
      Stacked c.bus m c.ksp ws := by
  have start : c.ksp = c.ksp - BitVec.ofNat 16 (2 * ([] : List Word).length) :=
    (BitVec.sub_zero _).symm
  simpa using pushAll_after kernel even (by simpa using room) start (Stacked.nil c.bus c.ksp)

/-- The callee finds the arguments in order. -/
theorem call_args (frame ret : Word) (args : List Word) (kernel : userMode c.psw = false)
    (even : (c.ksp - frame).toNat % 2 = 0)
    (room : frame.toNat + 2 * (args.length + 1) ≤ c.ksp.toNat) :
    ∃ c', c.call frame args ret = some c' ∧ userMode c'.psw = false ∧
      c'.ksp = c.ksp - frame - BitVec.ofNat 16 (2 * (args.length + 1)) ∧
      ∀ i (within : i < args.length), c'.bus (c'.ksp + 2 + BitVec.ofNat 16 (2 * i)) = args[i] := by
  have set : c.set .sp (c.get .sp - frame) = { c with ksp := c.ksp - frame } := by
    simp only [Cpu.get, Cpu.set, kernel, Bool.false_eq_true, if_false]
  have length : (args.reverse ++ [ret]).length = args.length + 1 := by
    rw [List.length_append, List.length_reverse, List.length_singleton]
  obtain ⟨m, ran, stacked⟩ := pushAll_stacked (args.reverse ++ [ret])
    (c := { c with ksp := c.ksp - frame }) kernel even (by rw [length]; bv_omega)
  have called : c.call frame args ret = some { c with
      ksp := c.ksp - frame - BitVec.ofNat 16 (2 * (args.length + 1)), bus := m } := by
    rw [Cpu.call, set, ran, length]
  refine ⟨_, called, kernel, rfl, ?_⟩
  intro i within
  have slot : c.ksp - frame - BitVec.ofNat 16 (2 * (args.length + 1)) + 2 +
      BitVec.ofNat 16 (2 * i) = c.ksp - frame - BitVec.ofNat 16 (2 * (args.length - 1 - i + 1)) := by
    bv_omega
  have before : args.length - 1 - i < args.reverse.length := by
    rw [List.length_reverse]
    omega
  have same : args.length - 1 - (args.length - 1 - i) = i := by omega
  show m (c.ksp - frame - BitVec.ofNat 16 (2 * (args.length + 1)) + 2 + BitVec.ofNat 16 (2 * i)) = _
  rw [slot, stacked.word _ (by omega), List.getElem_append_left before, List.getElem_reverse]
  simp only [same]

end Stacked

end Muxx.Pdp11
