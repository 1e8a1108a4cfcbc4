import Muxx.Lib.Convention

/-!
# Memory in bytes

Plain memory as routines see it that move bytes: a word is two of them, the low
one first.

* `setWord_apply`: the two bytes that a word takes;
* `word_setWord`, `word_setWord_of_ne`: words are found as they were written;
* `readb_bytes`, `writeb_bytes`: a byte is moved at any address.
-/

namespace Muxx.Pdp11

/-- Bytes at all addresses, and no devices. -/
abbrev Bytes := Word → Byte

def word (m : Bytes) (a : Word) : Word := m (a + 1) ++ m a

def setWord (m : Bytes) (a w : Word) : Bytes :=
  Function.update (Function.update m a (w.setWidth 8)) (a + 1) (w.extractLsb' 8 8)

instance bytes : Bus Bytes where
  read m a := if a.toNat % 2 = 1 then none else some (word m a)
  write m a w := if a.toNat % 2 = 1 then none else some (setWord m a w)

/-- The bytes from `a` on. -/
def Span (a : Word) (n : Nat) (x : Word) : Prop := a.toNat ≤ x.toNat ∧ x.toNat < a.toNat + n

instance (a : Word) (n : Nat) (x : Word) : Decidable (Span a n x) :=
  inferInstanceAs (Decidable (_ ∧ _))

section Bytes
variable {m m' : Bytes} {a b x w : Word}

/-- The bytes below `a`. -/
theorem span_below {n : Nat} (room : n ≤ a.toNat) :
    Span (a - BitVec.ofNat 16 n) n x ↔ a.toNat ≤ x.toNat + n ∧ x.toNat < a.toNat := by
  have low : (a - BitVec.ofNat 16 n).toNat = a.toNat - n := by
    have small : (BitVec.ofNat 16 n).toNat = n := by
      rw [BitVec.toNat_ofNat, Nat.mod_eq_of_lt (by omega)]
    rw [BitVec.toNat_sub_of_le, small]
    rwa [BitVec.le_def, small]
  rw [Span, low]
  omega

theorem read_bytes (even : a.toNat % 2 = 0) : Bus.read m a = some (word m a) :=
  if_neg (by omega)

theorem write_bytes (even : a.toNat % 2 = 0) : Bus.write m a w = some (setWord m a w) :=
  if_neg (by omega)

theorem setWord_apply (m : Bytes) (a w x : Word) : setWord m a w x =
    if x = a + 1 then w.extractLsb' 8 8 else if x = a then w.setWidth 8 else m x := by
  simp only [setWord, Function.update_apply]

theorem setWord_of_ne (low : x ≠ a) (high : x ≠ a + 1) (w : Word) : setWord m a w x = m x := by
  rw [setWord_apply, if_neg high, if_neg low]

@[simp] theorem word_setWord (m : Bytes) (a w : Word) : word (setWord m a w) a = w := by
  have apart : a ≠ a + 1 := by
    bv_omega
  rw [word, setWord_apply, setWord_apply, if_pos rfl, if_neg apart, if_pos rfl]
  exact BitVec.extractLsb'_append_extractLsb'_eq_extractLsb' rfl |>.trans (by simp)

theorem word_congr (low : m a = m' a) (high : m (a + 1) = m' (a + 1)) : word m a = word m' a := by
  rw [word, word, low, high]

theorem read_congr (low : m a = m' a) (high : m (a + 1) = m' (a + 1)) :
    Bus.read m a = Bus.read m' a := by
  show (if _ then _ else _) = if _ then _ else _
  rw [word_congr low high]

theorem word_setWord_of_ne (even : a.toNat % 2 = 0) (even' : b.toNat % 2 = 0) (apart : a ≠ b)
    (w : Word) : word (setWord m b w) a = word m a := by
  apply word_congr
  · exact setWord_of_ne apart (by bv_omega) w
  · exact setWord_of_ne (by bv_omega) (by bv_omega) w

theorem toNat_mask (a : Word) : (a &&& 0xFFFE).toNat = a.toNat / 2 * 2 := by
  have half : (a.toNat &&& 0xFFFE) / 2 = a.toNat / 2 := by
    rw [Nat.and_div_two]
    show a.toNat / 2 &&& 2 ^ 15 - 1 = _
    rw [Nat.and_two_pow_sub_one_eq_mod, Nat.mod_eq_of_lt (by omega)]
  have even : (a.toNat &&& 0xFFFE) % 2 = 0 := by
    simpa using Nat.and_mod_two_pow (a := a.toNat) (b := 0xFFFE) (n := 1)
  rw [BitVec.toNat_and]
  show a.toNat &&& 0xFFFE = _
  omega

theorem mask_odd (odd : a.toNat % 2 = 1) : a &&& 0xFFFE = a + -1 ∧ a.getLsbD 0 = true := by
  constructor
  · have mask := toNat_mask a
    bv_omega
  · rw [BitVec.getLsbD, Nat.testBit_zero, odd]
    rfl

theorem low_word (m : Bytes) (a : Word) : (word m a).setWidth 8 = m a :=
  BitVec.setWidth_append_eq_right

theorem high_word (m : Bytes) (a : Word) : (word m a).extractLsb' 8 8 = m (a + 1) :=
  BitVec.extractLsb'_append_eq_left

theorem readb_bytes (m : Bytes) (a : Word) : Bus.readb m a = some (m a) := by
  rcases Nat.mod_two_eq_zero_or_one a.toNat with even | odd
  · rw [Bus.readb, even_mask even, even_bit even, read_bytes even, Option.map_some]
    exact congrArg some (low_word m a)
  · have below : (a + -1).toNat % 2 = 0 := by
      bv_omega
    have back : a + -1 + 1 = a := by
      bv_omega
    rw [Bus.readb, (mask_odd odd).1, (mask_odd odd).2, read_bytes below, Option.map_some, if_pos rfl,
      high_word, back]

theorem writeb_bytes (m : Bytes) (a : Word) (b : Byte) :
    Bus.writeb m a b = some (Function.update m a b) := by
  rcases Nat.mod_two_eq_zero_or_one a.toNat with even | odd
  · have apart : a + 1 ≠ a := by
      bv_omega
    have same : setWord m a ((word m a).extractLsb' 8 8 ++ b) = Function.update m a b := by
      funext x
      rw [setWord_apply, Function.update_apply, BitVec.extractLsb'_append_eq_left, high_word,
        BitVec.setWidth_append_eq_right]
      by_cases high : x = a + 1
      · rw [if_pos high, high, if_neg apart]
      · rw [if_neg high]
    simp only [Bus.writeb, even_mask even, even_bit even, read_bytes even, write_bytes even]
    exact congrArg some same
  · have below : (a + -1).toNat % 2 = 0 := by
      bv_omega
    have back : a + -1 + 1 = a := by
      bv_omega
    have same : setWord m (a + -1) (b ++ (word m (a + -1)).setWidth 8) = Function.update m a b := by
      funext x
      rw [setWord_apply, Function.update_apply, BitVec.extractLsb'_append_eq_left, back,
        BitVec.setWidth_append_eq_right, low_word]
      by_cases low : x = a + -1
      · rw [if_pos low, low]
      · rw [if_neg low]
    simp only [Bus.writeb, (mask_odd odd).1, (mask_odd odd).2, read_bytes below, write_bytes below]
    exact congrArg some same

/-! ## Pushes -/

/-- The words `ws` pushed at `sp`, the first one first. -/
def pushes (m : Bytes) (sp : Word) : List Word → Bytes
  | [] => m
  | w :: ws => pushes (setWord m (sp + -2) w) (sp + -2) ws

theorem pushes_other (m : Bytes) (sp : Word) {ws : List Word} (room : 2 * ws.length ≤ sp.toNat)
    (outside : ¬ Span (sp - BitVec.ofNat 16 (2 * ws.length)) (2 * ws.length) x) :
    pushes m sp ws x = m x := by
  induction ws generalizing m sp with
  | nil => rfl
  | cons w ws ih =>
    rw [List.length_cons] at room outside
    have far : x.toNat + 2 * (ws.length + 1) < sp.toNat ∨ sp.toNat ≤ x.toNat := by
      unfold Span at outside
      bv_omega
    rw [pushes, ih, setWord_of_ne (by bv_omega) (by bv_omega)]
    · bv_omega
    · unfold Span
      bv_omega

theorem word_pushes (m : Bytes) {sp : Word} (ws : List Word) (even : sp.toNat % 2 = 0)
    (room : 2 * ws.length ≤ sp.toNat) (i : Nat) (within : i < ws.length) :
    word (pushes m sp ws) (sp - BitVec.ofNat 16 (2 * (i + 1))) = ws[i] := by
  induction ws generalizing m sp i with
  | nil => exact absurd within (Nat.not_lt_zero i)
  | cons w ws ih =>
    rw [List.length_cons] at room within
    cases i with
    | zero =>
      have slot : sp - BitVec.ofNat 16 (2 * (0 + 1)) = sp + -2 := by
        bv_omega
      rw [pushes, slot]
      have kept (y : Word) (near : y = sp + -2 ∨ y = sp + -2 + 1) :
          pushes (setWord m (sp + -2) w) (sp + -2) ws y = setWord m (sp + -2) w y := by
        apply pushes_other
        · bv_omega
        · unfold Span
          bv_omega
      rw [word_congr (kept _ (.inl rfl)) (kept _ (.inr rfl)), word_setWord]
      rfl
    | succ i =>
      have slot : sp - BitVec.ofNat 16 (2 * (i + 1 + 1)) =
          sp + -2 - BitVec.ofNat 16 (2 * (i + 1)) := by
        bv_omega
      rw [pushes, slot, ih _ (by bv_omega) (by bv_omega) i (by omega), List.getElem_cons_succ]

end Bytes

/-! ## Registers -/

section Registers
variable {σ : Type} (c : Cpu σ) (r : Reg) (w : Word)

theorem get_set : (c.set r w).get r = w := by
  cases r with
  | sp => cases mode : userMode c.psw <;> simp [mode]
  | _ => rfl

theorem get_set_of_ne {r r' : Reg} (other : r' ≠ r) : (c.set r w).get r' = c.get r' := by
  cases r with
  | sp => cases mode : userMode c.psw <;> cases r' <;> simp_all
  | _ => cases r' <;> first | rfl | exact absurd rfl other

@[simp] theorem set_psw : (c.set r w).psw = c.psw := by
  cases r with
  | sp => cases mode : userMode c.psw <;> simp [mode]
  | _ => rfl

@[simp] theorem set_bus : (c.set r w).bus = c.bus := by
  cases r with
  | sp => cases mode : userMode c.psw <;> simp [mode]
  | _ => rfl

theorem get_with (f : Flags) (bus : σ) : ({ c with flags := f, bus := bus } : Cpu σ).get r = c.get r := by
  cases r <;> rfl

/-- All registers but the stack pointer and those in `rs` are as they were, and
so is the mode. -/
structure SameRegs (rs : List Reg) (c c' : Cpu σ) : Prop where
  reg : ∀ r, r ≠ .sp → r ∉ rs → c'.get r = c.get r
  psw : c'.psw = c.psw

theorem SameRegs.trans {rs rs' : List Reg} {c c' c'' : Cpu σ} (first : SameRegs rs c c')
    (second : SameRegs rs' c' c'') : SameRegs (rs ++ rs') c c'' := by
  refine ⟨?_, second.psw.trans first.psw⟩
  intro r notSp free
  rw [List.mem_append, not_or] at free
  exact (second.reg r notSp free.2).trans (first.reg r notSp free.1)

end Registers

section Push
variable {c : Cpu Bytes} {r : Reg} {rs : List Reg}

theorem push_reg (other : r ≠ .sp) (even : (c.get .sp).toNat % 2 = 0) :
    ∃ c', (Instr.mov (.reg r) (.dec .sp)).exec c = some c' ∧ SameRegs [] c c' ∧
      c'.get .sp = c.get .sp + -2 ∧ c'.bus = setWord c.bus (c.get .sp + -2) (c.get r) := by
  have slot : (c.get .sp + -2).toNat % 2 = 0 := by
    bv_omega
  have moved : (c.set .sp (c.get .sp + -2)).get r = c.get r := get_set_of_ne _ _ other
  refine ⟨{ c.set .sp (c.get .sp + -2) with
      flags := (c.set .sp (c.get .sp + -2)).flags.move (c.get r)
      bus := setWord c.bus (c.get .sp + -2) (c.get r) }, ?_, ⟨?_, set_psw c _ _⟩, ?_, rfl⟩
  · simp only [Instr.exec, Operand.place, Place.read, Place.write, stride, moved, set_bus,
      Bool.false_and, Bool.false_eq_true, if_false, write_bytes slot, Option.map_some, bind,
      Option.bind_some]
  · intro r notSp _
    rw [get_with, get_set_of_ne c _ notSp]
  · rw [get_with, get_set]

/-- `add $n,sp`. -/
theorem add_sp (c : Cpu Bytes) (n : Word) : ∃ c', (Instr.add (.imm n) (.reg .sp)).exec c = some c' ∧
    SameRegs [] c c' ∧ c'.get .sp = c.get .sp + n ∧ c'.bus = c.bus := by
  refine ⟨{ c with flags := .sum n (c.get .sp), bus := c.bus }.set .sp (n + c.get .sp), rfl,
    ⟨?_, set_psw ..⟩, ?_, set_bus ..⟩
  · intro r notSp _
    rw [get_set_of_ne _ _ notSp, get_with]
  · rw [get_set, BitVec.add_comm]

theorem push_bytes (even : (c.get .sp).toNat % 2 = 0) (w : Word) :
    ∃ c', c.push w = some c' ∧ SameRegs [] c c' ∧ c'.get .sp = c.get .sp + -2 ∧
      c'.bus = setWord c.bus (c.get .sp + -2) w := by
  have slot : (c.get .sp + -2).toNat % 2 = 0 := by
    bv_omega
  refine ⟨{ c.set .sp (c.get .sp + -2) with
      flags := (c.set .sp (c.get .sp + -2)).flags
      bus := setWord c.bus (c.get .sp + -2) w }, ?_, ⟨?_, set_psw ..⟩, ?_, rfl⟩
  · simp only [Cpu.push, write_bytes slot, Option.map_some]
  · intro r notSp _
    rw [get_with, get_set_of_ne _ _ notSp]
  · rw [get_with, get_set]

theorem pop_bytes (even : (c.get .sp).toNat % 2 = 0) :
    ∃ c', c.pop = some (word c.bus (c.get .sp), c') ∧ SameRegs [] c c' ∧
      c'.get .sp = c.get .sp + 2 ∧ c'.bus = c.bus := by
  refine ⟨c.set .sp (c.get .sp + 2), ?_, ⟨?_, set_psw ..⟩, get_set .., set_bus ..⟩
  · simp only [Cpu.pop, read_bytes even, Option.map_some]
  · intro r notSp _
    exact get_set_of_ne _ _ notSp

theorem pop_reg (other : r ≠ .sp) (even : (c.get .sp).toNat % 2 = 0) :
    ∃ c', (Instr.mov (.inc .sp) (.reg r)).exec c = some c' ∧ SameRegs [r] c c' ∧
      c'.get r = word c.bus (c.get .sp) ∧ c'.get .sp = c.get .sp + 2 ∧ c'.bus = c.bus := by
  let c₁ : Cpu Bytes := { c.set .sp (c.get .sp + 2) with
    flags := (c.set .sp (c.get .sp + 2)).flags.move (word c.bus (c.get .sp))
    bus := (c.set .sp (c.get .sp + 2)).bus }
  have moved {r' : Reg} : c₁.get r' = (c.set .sp (c.get .sp + 2)).get r' := get_with ..
  refine ⟨c₁.set r (word c.bus (c.get .sp)), ?_, ⟨?_, ?_⟩, get_set .., ?_, ?_⟩
  · simp only [Instr.exec, Operand.place, Place.read, Place.write, stride, set_bus,
      Bool.false_and, Bool.false_eq_true, if_false, read_bytes even, bind, Option.bind_some, c₁]
  · intro r' notSp free
    rw [get_set_of_ne _ _ (List.ne_of_not_mem_cons free), moved,
      get_set_of_ne _ _ notSp]
  · rw [set_psw]
    exact set_psw ..
  · rw [get_set_of_ne _ _ other.symm, moved, get_set]
  · rw [set_bus]
    exact set_bus ..

/-- `bis (sp)+,r`. -/
theorem bis_pop (other : r ≠ .sp) (even : (c.get .sp).toNat % 2 = 0) :
    ∃ c', (Instr.bis (.inc .sp) (.reg r)).exec c = some c' ∧ SameRegs [r] c c' ∧
      c'.get r = word c.bus (c.get .sp) ||| c.get r ∧ c'.get .sp = c.get .sp + 2 ∧
      c'.bus = c.bus := by
  let w := word c.bus (c.get .sp) ||| c.get r
  let c₁ : Cpu Bytes := { c.set .sp (c.get .sp + 2) with
    flags := (c.set .sp (c.get .sp + 2)).flags.move w, bus := (c.set .sp (c.get .sp + 2)).bus }
  have moved {r' : Reg} : c₁.get r' = (c.set .sp (c.get .sp + 2)).get r' := get_with ..
  have old : (c.set .sp (c.get .sp + 2)).get r = c.get r := get_set_of_ne _ _ other
  refine ⟨c₁.set r w, ?_, ⟨?_, ?_⟩, get_set .., ?_, ?_⟩
  · simp only [Instr.exec, Instr.combine, Operand.place, Place.read, Place.write, stride, set_bus,
      Bool.false_and, Bool.false_eq_true, if_false, read_bytes even, bind, Option.bind_some, old, w,
      c₁]
  · intro r' notSp free
    rw [get_set_of_ne _ _ (List.ne_of_not_mem_cons free), moved, get_set_of_ne _ _ notSp]
  · rw [set_psw]
    exact set_psw ..
  · rw [get_set_of_ne _ _ other.symm, moved, get_set]
  · rw [set_bus]
    exact set_bus ..

theorem load_reg {x : Word} {b : Reg} (other : r ≠ .sp) (even : (c.get b + x).toNat % 2 = 0) :
    ∃ c', (Instr.mov (.index x b) (.reg r)).exec c = some c' ∧ SameRegs [r] c c' ∧
      c'.get r = word c.bus (c.get b + x) ∧ c'.get .sp = c.get .sp ∧ c'.bus = c.bus := by
  let c₁ : Cpu Bytes := { c with flags := c.flags.move (word c.bus (c.get b + x)), bus := c.bus }
  have moved {r' : Reg} : c₁.get r' = c.get r' := get_with ..
  refine ⟨c₁.set r (word c.bus (c.get b + x)), ?_, ⟨?_, set_psw ..⟩, get_set .., ?_, set_bus ..⟩
  · simp only [Instr.exec, Operand.place, Place.read, Place.write, read_bytes even, bind,
      Option.bind_some, c₁]
  · intro r' _ free
    rw [get_set_of_ne _ _ (List.ne_of_not_mem_cons free), moved]
  · rw [get_set_of_ne _ _ other.symm, moved]

theorem load_deferred {b : Reg} (other : r ≠ .sp) (even : (c.get b).toNat % 2 = 0) :
    ∃ c', (Instr.mov (.deferred b) (.reg r)).exec c = some c' ∧ SameRegs [r] c c' ∧
      c'.get r = word c.bus (c.get b) ∧ c'.get .sp = c.get .sp ∧ c'.bus = c.bus := by
  let c₁ : Cpu Bytes := { c with flags := c.flags.move (word c.bus (c.get b)), bus := c.bus }
  have moved {r' : Reg} : c₁.get r' = c.get r' := get_with ..
  refine ⟨c₁.set r (word c.bus (c.get b)), ?_, ⟨?_, set_psw ..⟩, get_set .., ?_, set_bus ..⟩
  · simp only [Instr.exec, Operand.place, Place.read, Place.write, read_bytes even, bind,
      Option.bind_some, c₁]
  · intro r' _ free
    rw [get_set_of_ne _ _ (List.ne_of_not_mem_cons free), moved]
  · rw [get_set_of_ne _ _ other.symm, moved]

/-- Registers are pushed one after the other. -/
theorem push_regs (plain : .sp ∉ rs)
    (even : (c.get .sp).toNat % 2 = 0) (room : 2 * rs.length ≤ (c.get .sp).toNat) :
    ∃ c', execAll (rs.map fun r => .mov (.reg r) (.dec .sp)) c = some c' ∧ SameRegs [] c c' ∧
      c'.get .sp = c.get .sp - BitVec.ofNat 16 (2 * rs.length) ∧
      c'.bus = pushes c.bus (c.get .sp) (rs.map c.get) := by
  induction rs generalizing c with
  | nil => exact ⟨c, rfl, ⟨fun _ _ _ => rfl, rfl⟩, (BitVec.sub_zero _).symm, rfl⟩
  | cons r rs ih =>
    rw [List.length_cons] at room
    have other : r ≠ .sp := fun same => plain (same ▸ List.mem_cons_self)
    have plain : .sp ∉ rs := fun mem => plain (List.mem_cons_of_mem _ mem)
    have slot : (c.get .sp + -2).toNat % 2 = 0 := by
      bv_omega
    obtain ⟨c₁, ran, keeps, sp, bus⟩ := push_reg other even
    obtain ⟨c₂, rest, keeps', sp', bus'⟩ := ih plain (by rw [sp]; exact slot) (by rw [sp]; bv_omega)
    have regs : rs.map c₁.get = rs.map c.get := by
      apply List.map_congr_left
      intro r mem
      exact keeps.reg r (fun same => plain (same ▸ mem)) List.not_mem_nil
    refine ⟨c₂, execAll_cons ran rest, ⟨?_, keeps'.psw.trans keeps.psw⟩, ?_, ?_⟩
    · intro r notSp free
      exact (keeps'.reg r notSp free).trans (keeps.reg r notSp free)
    · rw [sp', sp, List.length_cons]
      bv_omega
    · rw [bus', bus, sp, regs]
      rfl

end Push

end Muxx.Pdp11
