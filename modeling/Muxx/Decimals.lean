import Muxx.Digits
import Muxx.Lib.Subroutines

/-!
# Decimal digits

itod, itods and itodl of itod.s, in their own words. `itod` is the address of
the first, and `link` gives the return addresses.
-/

namespace Muxx

open Pdp11

/-- Divide r3 by ten and put the digit below r1. -/
def decimalDigit : List Instr := [
  .clr (.reg .r2),
  .div (.imm 10) .r2,
  .add (.imm 0x30) (.reg .r3),
  .movb (.reg .r3) (.dec .r1),
  .mov (.reg .r2) (.reg .r3)]

def itodCode : List Line :=
  procentry true true false 0 ++ [
    .instr (.mov (.index 4 .r5) (.reg .r3)),
    .instr (.mov (.index 6 .r5) (.reg .r1)),
    .instr (.mov (.imm 5) (.reg .r0)),
    .instr (.add (.reg .r0) (.reg .r1)),
    .label 10] ++
  decimalDigit.map .instr ++ [
    .sob .r0 10] ++
  procexit true true false 0

def itodsCode (itod : ADDRESS) : List Line :=
  procentry false false false 0 ++ [
    .instr (.mov (.index 6 .r5) (.reg .r1)),
    .instr (.mov (.index 4 .r5) (.reg .r0)),
    .bpl 10,
    .instr (.movb (.imm 0x2D) (.inc .r1)),
    .instr (.neg (.reg .r0)),
    .br 20,
    .label 10,
    .instr (.movb (.imm 0x20) (.inc .r1)),
    .label 20,
    .instr (.mov (.reg .r1) (.dec .sp)),
    .instr (.mov (.reg .r0) (.dec .sp)),
    .jsr (.abs itod),
    .instr (.add (.imm 4) (.reg .sp))] ++
  procexit false false false 0

/-- Copy as many bytes as r1 says from r0 to r4. -/
def moveBytes (label : Nat) : List Line :=
  [.label label, .instr (.movb (.inc .r0) (.inc .r4)), .sob .r1 label]

def itodlCode (itod : ADDRESS) : List Line :=
  procentry true true true 3 ++ [
    .instr (.mov (.index 4 .r5) (.reg .r2)),
    .instr (.mov (.index 6 .r5) (.reg .r3)),
    .instr (.div (.imm 10000) .r2),
    .instr (.mov (.reg .r5) (.reg .r1)),
    .instr (.sub (.imm 6) (.reg .r1)),
    .instr (.mov (.reg .r1) (.dec .sp)),
    .instr (.mov (.reg .r1) (.dec .sp)),
    .instr (.mov (.reg .r2) (.dec .sp)),
    .jsr (.abs itod),
    .instr (.add (.imm 4) (.reg .sp)),
    .instr (.mov (.deferred .sp) (.reg .r0)),
    .instr (.mov (.imm 5) (.reg .r1)),
    .instr (.mov (.index 8 .r5) (.reg .r4))] ++
  moveBytes 10 ++ [
    .instr (.mov (.deferred .sp) (.reg .r1)),
    .instr (.mov (.reg .r3) (.dec .sp)),
    .jsr (.abs itod),
    .instr (.add (.imm 2) (.reg .sp)),
    .instr (.mov (.inc .sp) (.reg .r0)),
    .instr (.inc (.reg .r0)),
    .instr (.mov (.imm 4) (.reg .r1))] ++
  moveBytes 20 ++ [
    .instr (.clr (.reg .r0))] ++
  procexit true true true 3

/-- The code at `itod`. -/
def itodAt (itod a : ADDRESS) (c c' : Cpu Bytes) : Prop := a = itod ∧ Runs itodCode .rts c c'

/-! ## itod -/

section Itod
variable {c : Cpu Bytes} {v buf : WORD}

theorem dividend_low (w : WORD) : (0#16 ++ w).toInt = w.toNat := by
  have low : (0#16 ++ w).toNat = w.toNat := by
    rw [BitVec.toNat_append]
    simp
  rw [BitVec.toInt_eq_toNat_of_lt, low]
  rw [low]
  have := w.isLt
  omega

theorem divide_ten (c : Cpu Bytes) (clear : c.r2 = 0#16) : c.divide 10#16 .r2 .r3 =
    { c with r2 := BitVec.ofNat 16 (c.r3.toNat / 10), r3 := BitVec.ofNat 16 (c.r3.toNat % 10),
             flags := Flags.move {} (BitVec.ofNat 16 (c.r3.toNat / 10)) } := by
  have range := c.r3.isLt
  have ten : (10#16 : WORD).toInt = 10 := rfl
  have quotient : (c.r3.toNat : Int).tdiv 10 = (c.r3.toNat / 10 : Nat) := rfl
  have rest : (c.r3.toNat : Int).tmod 10 = (c.r3.toNat % 10 : Nat) := rfl
  have fits : Fits c.r3.toNat 10 := by
    refine ⟨by decide, ?_, ?_⟩ <;> rw [quotient] <;> omega
  simp only [Cpu.divide, Cpu.get, clear, dividend_low, ten, if_pos fits, quotient, rest, Cpu.set,
    BitVec.ofInt_natCast]

theorem decimal_digit (w : WORD) :
    (0x30#16 + BitVec.ofNat 16 (w.toNat % 10)).setWidth 8 = digit 10 w.toNat := by
  apply BitVec.eq_of_toNat_eq
  rw [toNat_digit (by decide) (by decide), BitVec.toNat_setWidth, BitVec.toNat_add,
    BitVec.toNat_ofNat, BitVec.toNat_ofNat]
  omega

theorem decimalDigit_exec (c : Cpu Bytes) : ∃ c', execAll decimalDigit c = some c' ∧
    c'.bus = Function.update c.bus (c.r1 + -1) (digit 10 c.r3.toNat) ∧
    c'.r3 = BitVec.ofNat 16 (c.r3.toNat / 10) ∧ c'.r1 = c.r1 + -1 ∧ c'.r0 = c.r0 ∧
    c'.r4 = c.r4 ∧ InFrame c c' := by
  simp [decimalDigit, divide_ten, writeb_bytes, Place.readb, Place.writeb, ← decimal_digit]

/-- Five digits, from the last one on. -/
theorem decimalDigits_run (c : Cpu Bytes) (five : c.r0 = 5) :
    ∃ c', Reaches itodCode (9, c) (16, c') ∧ c'.bus = putDigits 10 5 c.r3.toNat c.bus c.r1 ∧
      c'.r4 = c.r4 ∧ InFrame c c' := by
  let I (n : Nat) (d : Cpu Bytes) : Prop := n ≤ 5 ∧ d.r0 = BitVec.ofNat 16 n ∧
    putDigits 10 n d.r3.toNat d.bus d.r1 = putDigits 10 5 c.r3.toNat c.bus c.r1 ∧ d.r4 = c.r4 ∧
    InFrame c d
  have turn (n : Nat) (d : Cpu Bytes) (_ : n + 1 < 65536) (before : I (n + 1) d) :
      ∃ d', execAll decimalDigit d = some d' ∧ d'.get .r0 = BitVec.ofNat 16 (n + 1) ∧
        I n (d'.set .r0 (BitVec.ofNat 16 n)) := by
    obtain ⟨few, r0, bus, r4, same⟩ := before
    obtain ⟨d', ran, bus', r3', r1', r0', r4', same'⟩ := decimalDigit_exec d
    have quotient : d'.r3.toNat = d.r3.toNat / 10 := by
      have range := d.r3.isLt
      rw [r3', BitVec.toNat_ofNat, Nat.mod_eq_of_lt (by omega)]
    refine ⟨d', ran, r0'.trans r0, by omega, rfl, ?_, r4'.trans r4,
      (same.trans same').set (by decide) _⟩
    show putDigits 10 n d'.r3.toNat d'.bus d'.r1 = _
    rw [quotient, bus', r1', ← bus, putDigits]
  have text : .label 10 :: decimalDigit.map .instr ++ [.sob .r0 10] <+: itodCode.drop 9 := ⟨_, rfl⟩
  obtain ⟨c', ⟨-, -, bus, r4, same⟩, reaches⟩ :=
    Reaches.sob (rfl : target itodCode 10 = some 9) text I turn (n := 4) (by decide)
      ⟨le_rfl, five, rfl, rfl, .refl c⟩
  exact ⟨c', reaches, bus, r4, same⟩

theorem itod_runs (called : Called c [v, buf] 10) (apart : BufferApart c buf 5 2 10) :
    ∃ c', Runs itodCode .rts c c' ∧ Converts c c' buf (numeral 10 5 v.toNat) 10 := by
  have even := called.even
  have room : 2 * (0 : WORD).toNat + 10 ≤ (c.get .sp).toNat := called.room
  obtain ⟨c₁, ran₁, built⟩ := procentry_enters true true false 0 (by decide) even room
  have value : Bus.read c₁.bus (c₁.r5 + 4#16) = some v := built.read called room 0 (by simp)
  have buffer : Bus.read c₁.bus (c₁.r5 + 6#16) = some buf := built.read called room 1 (by simp)
  obtain ⟨c₂, ran₂, r3, r1, r0, r4₂, bus₂, same₂⟩ : ∃ c₂,
      execAll (instrsAt itodCode 5 4) c₁ = some c₂ ∧ c₂.r3 = v ∧ c₂.r1 = buf + 5 ∧ c₂.r0 = 5 ∧
        c₂.r4 = c₁.r4 ∧ c₂.bus = c₁.bus ∧ InFrame c₁ c₂ := by
    simp [instrsAt, itodCode, procentry, value, buffer, BitVec.add_comm 5#16 buf]
  obtain ⟨c₃, reaches, bus₃, r4₃, same₃⟩ := decimalDigits_run c₂ r0
  have framed := same₂.trans same₃
  have bus : c₃.bus = putDigits 10 5 v.toNat c₁.bus (buf + BitVec.ofNat 16 5) := by
    rw [bus₃, r3, bus₂, r1]
    rfl
  have other (a : ADDRESS) (outside : ¬ Span buf 5 a) : c₃.bus a = c₁.bus a :=
    bus ▸ putDigits_other apart.top v.toNat outside
  have frame : FrameHeld true true false 0 c c₃.bus :=
    built.frame.kept (by decide) room fun a inside _ =>
      other a (apart.frame (n := 8) (by decide) called.room inside)
  obtain ⟨c₄, pc, leaves, last, restored⟩ := procexit_reaches itodCode 16 ⟨_, rfl⟩
    even room built framed frame
  have r4 : c₃.r4 = c.r4 := (r4₃.trans r4₂).trans (built.keeps.reg .r4 (by decide) (by decide))
  refine ⟨c₄, ⟨pc, ?_, last⟩, ?_⟩
  · have entered : Reaches itodCode (0, c) (5, c₁) := Reaches.block ⟨_, rfl⟩ ran₁
    have started : Reaches itodCode (5, c₁) (9, c₂) := Reaches.straight rfl rfl ran₂
    exact entered.trans (started.trans (reaches.trans leaves))
  · apply restored.converts built framed ⟨by simp, by simp, fun _ => r4⟩ (by decide) called.room
    · rw [numeral_length, bus]
      exact textAt_putDigits 10 _ apart.top _
    · intro a outside _
      rw [numeral_length] at outside
      exact other a outside

/-- A call of itod with its arguments at the stack pointer. -/
theorem itod_called {code : List Line} {pc : Nat} {itod : ADDRESS} (link : Nat → WORD)
    (there : code[pc]? = some (.jsr (.abs itod))) (even : (c.get .sp).toNat % 2 = 0)
    (room : 12 ≤ (c.get .sp).toNat) (top : (c.get .sp).toNat + 4 ≤ 65536)
    (value : word c.bus (c.get .sp) = v) (buffer : word c.bus (c.get .sp + 2) = buf)
    (high : buf.toNat + 5 ≤ 65536)
    (apart : buf.toNat + 17 ≤ (c.get .sp).toNat ∨ (c.get .sp).toNat + 4 ≤ buf.toNat) :
    ∃ c', Follows code link (itodAt itod) (pc, c) (pc + 1, c') ∧
      Converts c c' buf (numeral 10 5 v.toNat) 12 := by
  obtain ⟨c₁, pushed, same₁, sp₁, bus₁⟩ := push_bytes even (link pc)
  have lower : (c.get .sp + -2).toNat = (c.get .sp).toNat - 2 := by
    bv_omega
  have kept {a : ADDRESS} (above : (c.get .sp).toNat ≤ a.toNat) : c₁.bus a = c.bus a := by
    rw [bus₁]
    exact setWord_of_ne (by bv_omega) (by bv_omega) _
  have arg (a : ADDRESS) (above : (c.get .sp).toNat ≤ a.toNat)
      (below : a.toNat < (c.get .sp).toNat + 3) : word c₁.bus a = word c.bus a := by
    apply word_congr
    · exact kept above
    · apply kept
      bv_omega
  have called : Called c₁ [v, buf] 10 := by
    constructor
    · rw [sp₁, lower]
      omega
    · rw [sp₁, lower]
      omega
    · show (c₁.get .sp).toNat + 6 ≤ 65536
      rw [sp₁, lower]
      omega
    · intro i within
      match i, within with
      | 0, _ =>
        have first : c₁.get .sp + 2 + BitVec.ofNat 16 (2 * 0) = c.get .sp := by
          rw [sp₁]
          bv_omega
        rw [first, arg _ le_rfl (by omega), value]
        rfl
      | 1, _ =>
        have second : c₁.get .sp + 2 + BitVec.ofNat 16 (2 * 1) = c.get .sp + 2 := by
          rw [sp₁]
          bv_omega
        rw [second, arg _ (by bv_omega) (by bv_omega), buffer]
        rfl
  have apart₁ : BufferApart c₁ buf 5 2 10 := by
    refine ⟨high, ?_⟩
    rw [sp₁, lower]
    omega
  obtain ⟨c₂, runs, converts⟩ := itod_runs called apart₁
  obtain ⟨c₃, popped, same₃, sp₃, bus₃⟩ := pop_bytes (c := c₂)
    (by rw [converts.sp]; exact called.even)
  have text := converts.written
  rw [numeral_length] at text
  have unchanged {a : ADDRESS} (outside : ¬ Span buf 5 a)
      (far : a.toNat + 12 < (c.get .sp).toNat ∨ (c.get .sp).toNat ≤ a.toNat + 2) :
      c₃.bus a = c₁.bus a := by
    rw [bus₃]
    apply converts.other
    · rwa [numeral_length]
    · rw [span_below called.room, sp₁, lower]
      omega
  have link_kept : word c₂.bus (c₂.get .sp) = link pc := by
    rw [converts.sp, sp₁, ← bus₃]
    refine (word_congr ?_ ?_).trans ((congrArg (word · _) bus₁).trans (word_setWord ..))
    · apply unchanged
      · unfold Span
        omega
      · omega
    · apply unchanged
      · unfold Span
        bv_omega
      · bv_omega
  refine ⟨c₃, .call there rfl pushed ⟨rfl, runs⟩ (link_kept ▸ popped), ?_, ?_, ?_, ?_, ?_, ?_, ?_, ?_⟩
  · rw [numeral_length, bus₃]
    exact text
  · intro a outside far
    rw [numeral_length] at outside
    rw [span_below room] at far
    rw [unchanged outside (by omega), bus₁]
    exact setWord_of_ne (by bv_omega) (by bv_omega) _
  · exact (same₃.reg .r2 (by decide) (by decide)).trans
      (converts.r2.trans (same₁.reg .r2 (by decide) (by decide)))
  · exact (same₃.reg .r3 (by decide) (by decide)).trans
      (converts.r3.trans (same₁.reg .r3 (by decide) (by decide)))
  · exact (same₃.reg .r4 (by decide) (by decide)).trans
      (converts.r4.trans (same₁.reg .r4 (by decide) (by decide)))
  · exact (same₃.reg .r5 (by decide) (by decide)).trans
      (converts.r5.trans (same₁.reg .r5 (by decide) (by decide)))
  · rw [sp₃, converts.sp, sp₁]
    ring
  · exact same₃.psw.trans (converts.psw.trans same₁.psw)

end Itod

/-! ## itods -/

/-- The sign character and five digits of a signed word. -/
def signedText (v : WORD) : List Byte :=
  (if v.msb then 0x2D else 0x20) :: numeral 10 5 v.toInt.natAbs

section Itods
variable {c : Cpu Bytes} {v buf : WORD}

/-- The sign is written, and the value made positive. -/
theorem itods_sign (itod : ADDRESS) (value : Bus.read c.bus (c.r5 + 4#16) = some v)
    (buffer : Bus.read c.bus (c.r5 + 6#16) = some buf) :
    ∃ c', Reaches (itodsCode itod) (3, c) (12, c') ∧ c'.r0.toNat = v.toInt.natAbs ∧
      c'.r1 = buf + 1 ∧ c'.bus = Function.update c.bus buf (if v.msb then 0x2D else 0x20) ∧
      c'.r2 = c.r2 ∧ c'.r3 = c.r3 ∧ c'.r4 = c.r4 ∧ InFrame c c' := by
  obtain ⟨c₁, ran₁, r1₁, r0₁, n₁, bus₁, r2₁, r3₁, r4₁, same₁⟩ : ∃ c₁,
      execAll (instrsAt (itodsCode itod) 3 2) c = some c₁ ∧ c₁.r1 = buf ∧ c₁.r0 = v ∧
        c₁.flags.n = v.msb ∧ c₁.bus = c.bus ∧ c₁.r2 = c.r2 ∧ c₁.r3 = c.r3 ∧ c₁.r4 = c.r4 ∧
        InFrame c c₁ := by
    simp [instrsAt, itodsCode, procentry, value, buffer, Flags.move]
  have first : Reaches (itodsCode itod) (3, c) (5, c₁) := Reaches.straight rfl rfl ran₁
  have bpl : step (itodsCode itod) (5, c₁) = if v.msb then some (6, c₁) else some (9, c₁) := by
    rw [← n₁]
    rfl
  cases sign : v.msb with
  | false =>
    have magnitude : v.toNat = v.toInt.natAbs := by
      rw [BitVec.toInt_eq_msb_cond, sign]
      rfl
    rw [sign] at bpl
    have branch : Reaches (itodsCode itod) (5, c₁) (10, c₁) := (Reaches.one bpl).trans (.one rfl)
    obtain ⟨c₂, ran₂, r0₂, r1₂, bus₂, r2₂, r3₂, r4₂, same₂⟩ : ∃ c₂,
        execAll (instrsAt (itodsCode itod) 10 1) c₁ = some c₂ ∧ c₂.r0 = v ∧ c₂.r1 = buf + 1 ∧
          c₂.bus = Function.update c.bus buf 0x20 ∧ c₂.r2 = c.r2 ∧ c₂.r3 = c.r3 ∧ c₂.r4 = c.r4 ∧
          InFrame c₁ c₂ := by
      simp [instrsAt, itodsCode, procentry, writeb_bytes, Place.readb, Place.writeb, r0₁, r1₁, bus₁,
        r2₁, r3₁, r4₁]
    have second : Reaches (itodsCode itod) (10, c₁) (11, c₂) := Reaches.straight rfl rfl ran₂
    refine ⟨c₂, first.trans (branch.trans (second.trans (.one rfl))), ?_, r1₂, bus₂, r2₂, r3₂, r4₂,
      same₁.trans same₂⟩
    rw [r0₂, magnitude]
  | true =>
    have magnitude : (-v).toNat = v.toInt.natAbs := by
      have low := BitVec.toNat_ge_of_msb_true sign
      have range := v.isLt
      rw [BitVec.toInt_eq_msb_cond, sign, if_pos rfl, BitVec.toNat_neg]
      omega
    rw [sign] at bpl
    obtain ⟨c₂, ran₂, r0₂, r1₂, bus₂, r2₂, r3₂, r4₂, same₂⟩ : ∃ c₂,
        execAll (instrsAt (itodsCode itod) 6 2) c₁ = some c₂ ∧ c₂.r0 = -v ∧ c₂.r1 = buf + 1 ∧
          c₂.bus = Function.update c.bus buf 0x2D ∧ c₂.r2 = c.r2 ∧ c₂.r3 = c.r3 ∧ c₂.r4 = c.r4 ∧
          InFrame c₁ c₂ := by
      simp [instrsAt, itodsCode, procentry, writeb_bytes, Place.readb, Place.writeb, r0₁, r1₁, bus₁,
        r2₁, r3₁, r4₁]
    have second : Reaches (itodsCode itod) (6, c₁) (8, c₂) := Reaches.straight rfl rfl ran₂
    have jump : Reaches (itodsCode itod) (8, c₂) (12, c₂) :=
      (Reaches.one (t := (11, c₂)) rfl).trans (.one rfl)
    refine ⟨c₂, first.trans ((Reaches.one bpl).trans (second.trans jump)), ?_, r1₂, bus₂, r2₂, r3₂,
      r4₂, same₁.trans same₂⟩
    rw [r0₂, magnitude]

/-- itod is called with the magnitude and the place behind the sign, and the stack is
popped. -/
theorem itods_calls (itod : ADDRESS) (link : Nat → WORD) (even : (c.get .sp).toNat % 2 = 0)
    (room : 16 ≤ (c.get .sp).toNat) (high : c.r1.toNat + 5 ≤ 65536)
    (apart : c.r1.toNat + 21 ≤ (c.get .sp).toNat ∨ (c.get .sp).toNat ≤ c.r1.toNat) :
    ∃ c', Follows (itodsCode itod) link (itodAt itod) (12, c) (16, c') ∧
      textAt c'.bus c.r1 5 = numeral 10 5 c.r0.toNat ∧
      (∀ a, ¬ Span c.r1 5 a → a.toNat + 16 < (c.get .sp).toNat ∨ (c.get .sp).toNat ≤ a.toNat →
        c'.bus a = c.bus a) ∧
      c'.r2 = c.r2 ∧ c'.r3 = c.r3 ∧ c'.r4 = c.r4 ∧ InFrame c c' := by
  obtain ⟨c₁, ran₁, same₁, sp₁, bus₁⟩ := push_regs (c := c) (by decide : .sp ∉ [Reg.r1, .r0]) even
    (by show 4 ≤ _; omega)
  have sp₁ : c₁.get .sp = c.get .sp - 4 := sp₁
  have lower : (c.get .sp - 4).toNat = (c.get .sp).toNat - 4 := by
    bv_omega
  have pushed := word_pushes c.bus ([.r1, .r0].map c.get) even (by show 4 ≤ _; omega)
  have first : word c₁.bus (c₁.get .sp) = c.r0 := by
    rw [sp₁, bus₁]
    exact pushed 1 (by simp)
  have second : word c₁.bus (c₁.get .sp + 2) = c.r1 := by
    have slot : c.get .sp - 4 + 2 = c.get .sp - BitVec.ofNat 16 (2 * (0 + 1)) := by
      show c.get .sp - 4 + 2 = c.get .sp - 2
      ring
    rw [sp₁, bus₁, slot, pushed 0 (by simp)]
    rfl
  obtain ⟨c₂, follows, converts⟩ := itod_called (c := c₁) link
    (rfl : (itodsCode itod)[14]? = some (.jsr (.abs itod))) (by rw [sp₁, lower]; omega)
    (by rw [sp₁, lower]; omega) (by rw [sp₁, lower]; omega) first second high
    (by rw [sp₁, lower]; omega)
  obtain ⟨c₃, ran₃, same₃, sp₃, bus₃⟩ := add_sp c₂ 4
  have written := converts.written
  rw [numeral_length] at written
  have started : Reaches (itodsCode itod) (12, c) (14, c₁) := Reaches.block ⟨_, rfl⟩ ran₁
  have ended : Reaches (itodsCode itod) (15, c₂) (16, c₃) := .one (step_instr rfl ran₃)
  refine ⟨c₃, started.follows.trans (follows.trans ended.follows), ?_, ?_, ?_, ?_, ?_, ?_, ?_, ?_⟩
  · rw [bus₃]
    exact written
  · intro a outside far
    rw [bus₃, converts.other a (by rwa [numeral_length]), bus₁, pushes_other]
    · show 4 ≤ _
      omega
    · rw [span_below (by show 4 ≤ _; omega)]
      show ¬ (_ ≤ a.toNat + 4 ∧ _)
      omega
    · rw [sp₁, span_below (by rw [lower]; omega), lower]
      omega
  · exact (same₃.reg .r2 (by decide) (by decide)).trans
      (converts.r2.trans (same₁.reg .r2 (by decide) (by decide)))
  · exact (same₃.reg .r3 (by decide) (by decide)).trans
      (converts.r3.trans (same₁.reg .r3 (by decide) (by decide)))
  · exact (same₃.reg .r4 (by decide) (by decide)).trans
      (converts.r4.trans (same₁.reg .r4 (by decide) (by decide)))
  · exact (same₃.reg .r5 (by decide) (by decide)).trans
      (converts.r5.trans (same₁.reg .r5 (by decide) (by decide)))
  · rw [sp₃, converts.sp, sp₁]
    ring
  · exact same₃.psw.trans (converts.psw.trans same₁.psw)

theorem itods_runs (itod : ADDRESS) (link : Nat → WORD) (called : Called c [v, buf] 20)
    (apart : BufferApart c buf 6 2 20) :
    ∃ c', Returns (itodsCode itod) link (itodAt itod) c c' ∧ Converts c c' buf (signedText v) 20 := by
  have even := called.even
  have deep := called.room
  have top : (c.get .sp).toNat + 6 ≤ 65536 := called.top
  have high := apart.top
  have beside := apart.apart
  have room : 2 * (0 : WORD).toNat + 10 ≤ (c.get .sp).toNat := Nat.le_trans (by decide) deep
  obtain ⟨c₁, ran₁, built⟩ := procentry_enters false false false 0 (by decide) even room
  have value : Bus.read c₁.bus (c₁.r5 + 4#16) = some v := built.read called room 0 (by simp)
  have buffer : Bus.read c₁.bus (c₁.r5 + 6#16) = some buf := built.read called room 1 (by simp)
  obtain ⟨c₂, reaches₂, r0₂, r1₂, bus₂, r2₂, r3₂, r4₂, same₂⟩ :=
    itods_sign itod value buffer
  have sp₂ : c₂.get .sp = c.get .sp - 4 := same₂.sp.trans built.sp
  have base : (c.get .sp - 4).toNat = (c.get .sp).toNat - 4 := by
    bv_omega
  have after : (buf + 1).toNat = buf.toNat + 1 := by
    bv_omega
  obtain ⟨c₃, follows, text, kept, r2₃, r3₃, r4₃, same₃⟩ := itods_calls (c := c₂) itod link
    (by rw [sp₂, base]; omega) (by rw [sp₂, base]; omega) (by rw [r1₂, after]; omega)
    (by rw [sp₂, base, r1₂, after]; omega)
  rw [r1₂] at text kept
  rw [sp₂, base] at kept
  have other {a : ADDRESS} (outside : ¬ Span buf 6 a)
      (far : a.toNat + 20 < (c.get .sp).toNat ∨ (c.get .sp).toNat ≤ a.toNat + 4) :
      c₃.bus a = c₁.bus a := by
    unfold Span at outside
    rw [kept a _ (by omega), bus₂]
    · exact Function.update_of_ne (by bv_omega) _ _
    · unfold Span
      omega
  have framed : InFrame c₁ c₃ := same₂.trans same₃
  have frame : FrameHeld false false false 0 c c₃.bus := by
    refine built.frame.kept (by decide) room fun a inside _ => ?_
    obtain ⟨low, below⟩ := (span_below (n := 4) (by omega)).mp inside
    apply other
    · exact apart.frame (n := 4) (by decide) deep inside
    · omega
  obtain ⟨c₄, pc, leaves, last, restored⟩ := procexit_reaches (itodsCode itod) 16
    ⟨_, rfl⟩ even room built framed frame
  have saved {r : Reg} (notSp : r ≠ .sp) (free : r ≠ .r5) : c₁.get r = c.get r :=
    built.keeps.reg r notSp (by simpa using free)
  refine ⟨c₄, ⟨pc, ?_, last⟩, ?_⟩
  · have entered : Reaches (itodsCode itod) (0, c) (3, c₁) := Reaches.block ⟨_, rfl⟩ ran₁
    exact (entered.trans reaches₂).follows.trans (follows.trans leaves.follows)
  · apply restored.converts built framed ⟨fun _ => ?_, fun _ => ?_, fun _ => ?_⟩ (by decide) deep
    · show textAt c₃.bus buf (numeral 10 5 v.toInt.natAbs).length.succ = _
      have sign : c₃.bus buf = if v.msb then 0x2D else 0x20 := by
        rw [kept, bus₂, Function.update_self]
        · unfold Span
          omega
        · omega
      rw [numeral_length, textAt_succ, sign, text, r0₂]
      rfl
    · intro a outside far
      rw [signedText, List.length_cons, numeral_length] at outside
      rw [span_below deep] at far
      exact other outside (by omega)
    · exact r2₃.trans (r2₂.trans (saved (r := .r2) (by decide) (by decide)))
    · exact r3₃.trans (r3₂.trans (saved (r := .r3) (by decide) (by decide)))
    · exact r4₃.trans (r4₂.trans (saved (r := .r4) (by decide) (by decide)))

end Itods

/-! ## itodl -/

section MoveBytes
variable {c : Cpu Bytes}

theorem moveByte_exec (c : Cpu Bytes) :
    ∃ c', execAll [.movb (.inc .r0) (.inc .r4)] c = some c' ∧
      c'.bus = Function.update c.bus c.r4 (c.bus c.r0) ∧ c'.r0 = c.r0 + 1 ∧ c'.r4 = c.r4 + 1 ∧
      c'.r1 = c.r1 ∧ c'.r3 = c.r3 ∧ InFrame c c' := by
  simp [readb_bytes, writeb_bytes, Place.readb, Place.writeb]

/-- Bytes are copied to a place that is apart from theirs. -/
theorem moveBytes_run {code : List Line} {pc l n : Nat} (labelled : target code l = some pc)
    (there : moveBytes l <+: code.drop pc) (count : c.r1 = BitVec.ofNat 16 (n + 1))
    (low : c.r0.toNat + (n + 1) ≤ 65536) (high : c.r4.toNat + (n + 1) ≤ 65536)
    (apart : c.r0.toNat + (n + 1) ≤ c.r4.toNat ∨ c.r4.toNat + (n + 1) ≤ c.r0.toNat) :
    ∃ c', Reaches code (pc, c) (pc + 3, c') ∧ textAt c'.bus c.r4 (n + 1) = textAt c.bus c.r0 (n + 1) ∧
      (∀ a, ¬ Span c.r4 (n + 1) a → c'.bus a = c.bus a) ∧ c'.r4 = c.r4 + BitVec.ofNat 16 (n + 1) ∧
      c'.r3 = c.r3 ∧ InFrame c c' := by
  let I (left : Nat) (d : Cpu Bytes) : Prop := left ≤ n + 1 ∧ d.r1 = BitVec.ofNat 16 left ∧
    d.r0 = c.r0 + BitVec.ofNat 16 (n + 1 - left) ∧ d.r4 = c.r4 + BitVec.ofNat 16 (n + 1 - left) ∧
    (∀ i < n + 1 - left, d.bus (c.r4 + BitVec.ofNat 16 i) = c.bus (c.r0 + BitVec.ofNat 16 i)) ∧
    (∀ a, ¬ Span c.r4 (n + 1 - left) a → d.bus a = c.bus a) ∧ d.r3 = c.r3 ∧ InFrame c d
  have turn (left : Nat) (d : Cpu Bytes) (_ : left + 1 < 65536) (before : I (left + 1) d) :
      ∃ d', execAll [.movb (.inc .r0) (.inc .r4)] d = some d' ∧
        d'.get .r1 = BitVec.ofNat 16 (left + 1) ∧ I left (d'.set .r1 (BitVec.ofNat 16 left)) := by
    obtain ⟨few, r1, r0, r4, copied, other, r3, same⟩ := before
    obtain ⟨d', ran, bus, r0', r4', r1', r3', same'⟩ := moveByte_exec d
    have done : n + 1 - left = n + 1 - (left + 1) + 1 := by
      omega
    have from' : d.r0 = c.r0 + BitVec.ofNat 16 (n - left) := by
      rw [r0]
      congr 2
      omega
    have to' : d.r4 = c.r4 + BitVec.ofNat 16 (n - left) := by
      rw [r4]
      congr 2
      omega
    have before' : n + 1 - (left + 1) = n - left := by
      omega
    rw [before'] at copied other
    have source : d.bus d.r0 = c.bus (c.r0 + BitVec.ofNat 16 (n - left)) := by
      rw [from']
      apply other
      unfold Span
      bv_omega
    have next {a : ADDRESS} : a + BitVec.ofNat 16 (n - left) + 1 = a + BitVec.ofNat 16 (n + 1 - left) := by
      bv_omega
    refine ⟨d', ran, r1'.trans r1, by omega, rfl, ?_, ?_, ?_, ?_, r3'.trans r3,
      (same.trans same').set (by decide) _⟩
    · exact r0'.trans (by rw [from', next])
    · exact r4'.trans (by rw [to', next])
    · intro i within
      show d'.bus _ = _
      rw [bus, source, to']
      by_cases last : i = n - left
      · rw [last, Function.update_self]
      · have apart' : c.r4 + BitVec.ofNat 16 i ≠ c.r4 + BitVec.ofNat 16 (n - left) := by
          bv_omega
        rw [Function.update_of_ne apart', copied i (by omega)]
    · intro a outside
      show d'.bus _ = _
      rw [bus, Function.update_of_ne]
      · apply other
        unfold Span at *
        omega
      · unfold Span at outside
        rw [to']
        bv_omega
  have text : .label l :: [Instr.movb (.inc .r0) (.inc .r4)].map .instr ++ [.sob .r1 l] <+:
      code.drop pc := there
  obtain ⟨c', ⟨-, -, -, r4, copied, other, r3, same⟩, reaches⟩ :=
    Reaches.sob labelled text I turn (n := n) (by omega)
      ⟨le_rfl, count, by simp, by simp, by simp, by simp, rfl, .refl c⟩
  refine ⟨c', reaches, ?_, other, r4, r3, same⟩
  exact List.map_congr_left fun i mem => copied i (List.mem_range.mp mem)

end MoveBytes

/-- The two halves that itodl converts: the quotient and the remainder by 10000,
if the division takes place. -/
def longParts (high low : WORD) : WORD × WORD :=
  if Fits (high ++ low).toInt 10000 then
    (.ofInt 16 ((high ++ low).toInt.tdiv 10000), .ofInt 16 ((high ++ low).toInt.tmod 10000))
  else (high, low)

/-- What the calls of itodl write to, for a stack pointer `s` at its entry: the
stack below its frame, and its local variables. -/
def Touched (s a : ADDRESS) : Prop :=
  s.toNat ≤ a.toNat + 34 ∧ a.toNat + 16 < s.toNat ∨ s.toNat ≤ a.toNat + 8 ∧ a.toNat + 2 < s.toNat

section Itodl
variable {c : Cpu Bytes} {s buf : ADDRESS}

theorem divide_long (c : Cpu Bytes) : (c.divide 10000 .r2 .r3).r2 = (longParts c.r2 c.r3).1 ∧
    (c.divide 10000 .r2 .r3).r3 = (longParts c.r2 c.r3).2 ∧
    (c.divide 10000 .r2 .r3).bus = c.bus ∧ InFrame c (c.divide 10000 .r2 .r3) := by
  by_cases fits : Fits (c.r2 ++ c.r3).toInt 10000
  · have parts : longParts c.r2 c.r3 = (.ofInt 16 ((c.r2 ++ c.r3).toInt.tdiv 10000),
        .ofInt 16 ((c.r2 ++ c.r3).toInt.tmod 10000)) := if_pos fits
    have divided : c.divide 10000 .r2 .r3 = { c with
        r2 := .ofInt 16 ((c.r2 ++ c.r3).toInt.tdiv 10000)
        r3 := .ofInt 16 ((c.r2 ++ c.r3).toInt.tmod 10000)
        flags := Flags.move {} (.ofInt 16 ((c.r2 ++ c.r3).toInt.tdiv 10000)) } := if_pos fits
    rw [parts, divided]
    exact ⟨rfl, rfl, rfl, ⟨rfl, rfl, rfl⟩⟩
  · have divided : c.divide 10000 .r2 .r3 = { c with
        flags := { c.flags with v := true, c := (10000 : WORD) == 0 } } := if_neg fits
    rw [longParts, if_neg fits, divided]
    exact ⟨rfl, rfl, rfl, ⟨rfl, rfl, rfl⟩⟩

theorem below_toNat (k : Nat) (room : k ≤ s.toNat) : (s - BitVec.ofNat 16 k).toNat = s.toNat - k := by
  have small : (BitVec.ofNat 16 k).toNat = k := by
    rw [BitVec.toNat_ofNat, Nat.mod_eq_of_lt (by omega)]
  rw [BitVec.toNat_sub_of_le, small]
  rwa [BitVec.le_def, small]

/-- Between the first call and the first copy. -/
theorem itodl_fetch (itod : ADDRESS) (even : s.toNat % 2 = 0)
    (sp : c.get .sp = s - 22) (fp : c.r5 = s - 2) (work : word c.bus (s - 18) = s - 8)
    (arg : word c.bus (s + 6) = buf) :
    ∃ c', Reaches (itodlCode itod) (16, c) (20, c') ∧ c'.get .sp = s - 18 ∧ c'.r0 = s - 8 ∧
      c'.r1 = 5 ∧ c'.r4 = buf ∧ c'.r3 = c.r3 ∧ c'.r5 = c.r5 ∧ c'.psw = c.psw ∧ c'.bus = c.bus := by
  obtain ⟨c₁, ran₁, same₁, sp₁, bus₁⟩ := add_sp c 4
  have sp₁ : c₁.get .sp = s - 18 := by
    rw [sp₁, sp]
    ring
  obtain ⟨c₂, ran₂, same₂, r0₂, sp₂, bus₂⟩ := load_deferred (c := c₁) (r := .r0) (b := .sp)
    (by decide) (by rw [sp₁]; bv_omega)
  rw [sp₁, bus₁, work] at r0₂
  obtain ⟨c₃, ran₃, r1₃, r0₃, r3₃, bus₃, same₃⟩ : ∃ c₃,
      (Instr.mov (.imm 5) (.reg .r1)).exec c₂ = some c₃ ∧ c₃.r1 = 5 ∧ c₃.r0 = c₂.r0 ∧
        c₃.r3 = c₂.r3 ∧ c₃.bus = c₂.bus ∧ InFrame c₂ c₃ := by
    simp
  have fp₃ : c₃.r5 = c.r5 := same₃.r5.trans ((same₁.trans same₂).reg .r5 (by decide) (by decide))
  have slot : c₃.get .r5 + 8 = s + 6 := by
    rw [Cpu.get, fp₃, fp]
    ring
  obtain ⟨c₄, ran₄, same₄, r4₄, sp₄, bus₄⟩ := load_reg (c := c₃) (r := .r4) (b := .r5) (x := 8)
    (by decide) (by rw [slot]; bv_omega)
  have bus : c₃.bus = c.bus := by
    rw [bus₃, bus₂, bus₁]
  rw [slot, bus, arg] at r4₄
  have text : ([.add (.imm 4) (.reg .sp), .mov (.deferred .sp) (.reg .r0), .mov (.imm 5) (.reg .r1),
      .mov (.index 8 .r5) (.reg .r4)] : List Instr).map .instr <+: (itodlCode itod).drop 16 := ⟨_, rfl⟩
  refine ⟨c₄, Reaches.block text (execAll_cons ran₁ (execAll_cons ran₂ (execAll_cons ran₃
    (execAll_cons ran₄ rfl)))), ?_, ?_, ?_, r4₄, ?_, ?_, ?_, bus₄.trans bus⟩
  · rw [sp₄, same₃.sp, sp₂, sp₁]
  · exact (same₄.reg .r0 (by decide) (by decide)).trans (r0₃.trans r0₂)
  · exact (same₄.reg .r1 (by decide) (by decide)).trans r1₃
  · exact (same₄.reg .r3 (by decide) (by decide)).trans
      (r3₃.trans ((same₁.trans same₂).reg .r3 (by decide) (by decide)))
  · exact (same₄.reg .r5 (by decide) (by decide)).trans fp₃
  · exact same₄.psw.trans (same₃.psw.trans (same₁.trans same₂).psw)

/-- The first five digits. -/
theorem itodl_upper (itod : ADDRESS) (link : Nat → WORD) (even : s.toNat % 2 = 0) (deep : 34 ≤ s.toNat)
    (top : s.toNat + 8 ≤ 65536) (sp : c.get .sp = s - 16) (fp : c.r5 = s - 2) (work : c.r1 = s - 8)
    (arg : word c.bus (s + 6) = buf) (high : buf.toNat + 9 ≤ 65536)
    (apart : buf.toNat + 43 ≤ s.toNat ∨ s.toNat + 8 ≤ buf.toNat) :
    ∃ c', Follows (itodlCode itod) link (itodAt itod) (12, c) (23, c') ∧ c'.get .sp = s - 18 ∧
      word c'.bus (s - 18) = s - 8 ∧ textAt c'.bus buf 5 = numeral 10 5 c.r2.toNat ∧
      (∀ a, ¬ Span buf 5 a → ¬ Touched s a → c'.bus a = c.bus a) ∧ c'.r4 = buf + 5 ∧
      c'.r3 = c.r3 ∧ c'.r5 = c.r5 ∧ c'.psw = c.psw := by
  have low8 : (s - 8).toNat = s.toNat - 8 := below_toNat 8 (by omega)
  have low16 : (s - 16).toNat = s.toNat - 16 := below_toNat 16 (by omega)
  have low18 : (s - 18).toNat = s.toNat - 18 := below_toNat 18 (by omega)
  have low22 : (s - 22).toNat = s.toNat - 22 := below_toNat 22 (by omega)
  obtain ⟨c₃, ran₃, same₃, sp₃, bus₃⟩ := push_regs (c := c) (by decide : .sp ∉ [Reg.r1, .r1, .r2])
    (by rw [sp, low16]; omega) (by rw [sp, low16]; show 6 ≤ _; omega)
  rw [sp] at bus₃
  have sp₃ : c₃.get .sp = s - 22 := by
    rw [sp₃, sp]
    show s - 16 - 6 = s - 22
    ring
  have pushed := word_pushes c.bus ([.r1, .r1, .r2].map c.get) (by rw [low16]; omega)
    (by rw [low16]; show 6 ≤ _; omega)
  have word22 : word c₃.bus (s - 22) = c.r2 := by
    have slot : s - 22 = s - 16 - BitVec.ofNat 16 (2 * (2 + 1)) := by
      show s - 22 = s - 16 - 6
      ring
    rw [bus₃, slot, pushed 2 (by simp)]
    rfl
  have word20 : word c₃.bus (s - 22 + 2) = s - 8 := by
    have slot : s - 22 + 2 = s - 16 - BitVec.ofNat 16 (2 * (1 + 1)) := by
      show s - 22 + 2 = s - 16 - 4
      ring
    rw [bus₃, slot, pushed 1 (by simp)]
    exact work
  have word18 : word c₃.bus (s - 18) = s - 8 := by
    have slot : s - 18 = s - 16 - BitVec.ofNat 16 (2 * (0 + 1)) := by
      show s - 18 = s - 16 - 2
      ring
    rw [bus₃, slot, pushed 0 (by simp)]
    exact work
  obtain ⟨c₄, follows, converts⟩ := itod_called (c := c₃) link
    (rfl : (itodlCode itod)[15]? = some (.jsr (.abs itod))) (by rw [sp₃, low22]; omega)
    (by rw [sp₃, low22]; omega) (by rw [sp₃, low22]; omega) (by rw [sp₃, word22])
    (by rw [sp₃, word20]) (by rw [low8]; omega) (.inr (by rw [sp₃, low22, low8]; omega))
  have written := converts.written
  rw [numeral_length] at written
  have untouched {a : ADDRESS} (outside : ¬ Touched s a) : c₄.bus a = c.bus a := by
    unfold Touched at outside
    rw [converts.other, bus₃, pushes_other]
    · rw [low16]
      show 6 ≤ _
      omega
    · rw [span_below (by rw [low16]; show 6 ≤ _; omega), low16]
      show ¬ (_ ≤ a.toNat + 6 ∧ _)
      omega
    · rw [numeral_length, Span, low8]
      omega
    · rw [sp₃, span_below (by rw [low22]; omega), low22]
      omega
  have kept18 : word c₄.bus (s - 18) = s - 8 := by
    rw [← word18]
    have kept {a : ADDRESS} (inside : s.toNat - 18 ≤ a.toNat ∧ a.toNat < s.toNat - 16) :
        c₄.bus a = c₃.bus a := by
      apply converts.other
      · rw [numeral_length, Span, low8]
        omega
      · rw [sp₃, span_below (by rw [low22]; omega), low22]
        omega
    apply word_congr <;> apply kept <;> bv_omega
  have sp₄ : c₄.get .sp = s - 22 := converts.sp.trans sp₃
  have fp₄ : c₄.r5 = s - 2 := converts.r5.trans ((same₃.reg .r5 (by decide) (by decide)).trans fp)
  have arg₄ : word c₄.bus (s + 6) = buf := by
    rw [← arg]
    apply word_congr <;> apply untouched <;> unfold Touched <;> bv_omega
  obtain ⟨c₅, fetched, sp₅, r0₅, r1₅, r4₅, r3₅, r5₅, psw₅, bus₅⟩ :=
    itodl_fetch itod even sp₄ fp₄ kept18 arg₄
  obtain ⟨c₆, loop, text, other, r4₆, r3₆, same₆⟩ := moveBytes_run (c := c₅) (n := 4)
    (rfl : target (itodlCode itod) 10 = some 20) ⟨_, rfl⟩ r1₅ (by rw [r0₅, low8]; omega)
    (by rw [r4₅]; omega) (by rw [r0₅, r4₅, low8]; omega)
  rw [r4₅, r0₅] at text
  rw [r4₅] at other r4₆
  have started : Reaches (itodlCode itod) (12, c) (15, c₃) := Reaches.block ⟨_, rfl⟩ ran₃
  refine ⟨c₆, started.follows.trans (follows.trans (fetched.trans loop).follows), same₆.sp.trans sp₅,
    ?_, ?_, ?_, r4₆, ?_, ?_, ?_⟩
  · rw [← kept18, ← bus₅]
    apply word_congr <;> apply other <;> unfold Span <;> bv_omega
  · rw [text, bus₅, written]
  · intro a outside far
    rw [other a outside, bus₅, untouched far]
  · exact r3₆.trans (r3₅.trans (converts.r3.trans (same₃.reg .r3 (by decide) (by decide))))
  · exact same₆.r5.trans (r5₅.trans (converts.r5.trans (same₃.reg .r5 (by decide) (by decide))))
  · exact same₆.psw.trans (psw₅.trans (converts.psw.trans same₃.psw))

/-- Between the second call and the second copy. -/
theorem itodl_refetch (itod : ADDRESS) (even : s.toNat % 2 = 0) (sp : c.get .sp = s - 20)
    (work : word c.bus (s - 18) = s - 8) :
    ∃ c', Reaches (itodlCode itod) (26, c) (30, c') ∧ c'.get .sp = s - 16 ∧ c'.r0 = s - 7 ∧
      c'.r1 = 4 ∧ c'.r4 = c.r4 ∧ c'.r5 = c.r5 ∧ c'.psw = c.psw ∧ c'.bus = c.bus := by
  obtain ⟨c₁, ran₁, same₁, sp₁, bus₁⟩ := add_sp c 2
  have sp₁ : c₁.get .sp = s - 18 := by
    rw [sp₁, sp]
    ring
  obtain ⟨c₂, ran₂, same₂, r0₂, sp₂, bus₂⟩ := pop_reg (c := c₁) (r := .r0) (by decide)
    (by rw [sp₁]; bv_omega)
  rw [sp₁, bus₁, work] at r0₂
  obtain ⟨c₃, ran₃, r1₃, r0₃, r4₃, bus₃, same₃⟩ : ∃ c₃,
      execAll [.inc (.reg .r0), .mov (.imm 4) (.reg .r1)] c₂ = some c₃ ∧ c₃.r1 = 4 ∧
        c₃.r0 = c₂.r0 + 1 ∧ c₃.r4 = c₂.r4 ∧ c₃.bus = c₂.bus ∧ InFrame c₂ c₃ := by
    simp
  have text : ([.add (.imm 2) (.reg .sp), .mov (.inc .sp) (.reg .r0), .inc (.reg .r0),
      .mov (.imm 4) (.reg .r1)] : List Instr).map .instr <+: (itodlCode itod).drop 26 := ⟨_, rfl⟩
  refine ⟨c₃, Reaches.block text (execAll_cons ran₁ (execAll_cons ran₂ ran₃)), ?_, ?_, r1₃, ?_, ?_, ?_,
    ?_⟩
  · rw [same₃.sp, sp₂, sp₁]
    ring
  · have r0₂ : c₂.r0 = s - 8 := r0₂
    rw [r0₃, r0₂]
    ring
  · exact r4₃.trans ((same₁.trans same₂).reg .r4 (by decide) (by decide))
  · exact same₃.r5.trans ((same₁.trans same₂).reg .r5 (by decide) (by decide))
  · exact same₃.psw.trans (same₁.trans same₂).psw
  · rw [bus₃, bus₂, bus₁]

/-- The last four digits. -/
theorem itodl_lower (itod : ADDRESS) (link : Nat → WORD) (even : s.toNat % 2 = 0) (deep : 34 ≤ s.toNat)
    (top : s.toNat + 8 ≤ 65536) (sp : c.get .sp = s - 18) (work : word c.bus (s - 18) = s - 8)
    (to' : c.r4 = buf) (high : buf.toNat + 4 ≤ 65536)
    (apart : buf.toNat + 38 ≤ s.toNat ∨ s.toNat + 8 ≤ buf.toNat) :
    ∃ c', Follows (itodlCode itod) link (itodAt itod) (23, c) (33, c') ∧ c'.get .sp = s - 16 ∧
      textAt c'.bus buf 4 = numeral 10 4 c.r3.toNat ∧
      (∀ a, ¬ Span buf 4 a → ¬ Touched s a → c'.bus a = c.bus a) ∧ c'.r5 = c.r5 ∧ c'.psw = c.psw := by
  have low7 : (s - 7).toNat = s.toNat - 7 := below_toNat 7 (by omega)
  have low8 : (s - 8).toNat = s.toNat - 8 := below_toNat 8 (by omega)
  have low18 : (s - 18).toNat = s.toNat - 18 := below_toNat 18 (by omega)
  have low20 : (s - 20).toNat = s.toNat - 20 := below_toNat 20 (by omega)
  obtain ⟨c₁, ran₁, same₁, r1₁, sp₁, bus₁⟩ := load_deferred (c := c) (r := .r1) (b := .sp) (by decide)
    (by rw [sp, low18]; omega)
  obtain ⟨c₂, ran₂, same₂, sp₂, bus₂⟩ := push_reg (c := c₁) (r := .r3) (by decide)
    (by rw [sp₁, sp, low18]; omega)
  have slot : c₁.get .sp + -2 = s - 20 := by
    rw [sp₁, sp]
    ring
  rw [slot] at sp₂ bus₂
  have value : word c₂.bus (s - 20) = c.r3 := by
    rw [bus₂, word_setWord]
    exact same₁.reg .r3 (by decide) (by decide)
  have kept18 : word c₂.bus (s - 20 + 2) = s - 8 := by
    have next : s - 20 + 2 = s - 18 := by
      ring
    rw [next, bus₂, word_setWord_of_ne (by rw [low18]; omega) (by rw [low20]; omega) (by bv_omega), bus₁,
      work]
  obtain ⟨c₃, follows, converts⟩ := itod_called (c := c₂) link
    (rfl : (itodlCode itod)[25]? = some (.jsr (.abs itod))) (by rw [sp₂, low20]; omega)
    (by rw [sp₂, low20]; omega) (by rw [sp₂, low20]; omega) (by rw [sp₂, value])
    (by rw [sp₂, kept18]) (by rw [low8]; omega) (.inr (by rw [sp₂, low20, low8]; omega))
  have written := converts.written
  rw [numeral_length] at written
  have called_kept {a : ADDRESS} (above : s.toNat ≤ a.toNat + 20 ∨ a.toNat + 32 < s.toNat)
      (outside : ¬ Span (s - 8) 5 a) : c₃.bus a = c₂.bus a := by
    apply converts.other
    · rwa [numeral_length]
    · rw [sp₂, span_below (by rw [low20]; omega), low20]
      omega
  have untouched {a : ADDRESS} (outside : ¬ Touched s a) : c₃.bus a = c.bus a := by
    unfold Touched at outside
    rw [called_kept, bus₂, setWord_of_ne, bus₁]
    · bv_omega
    · bv_omega
    · omega
    · rw [Span, low8]
      omega
  have work₃ : word c₃.bus (s - 18) = s - 8 := by
    have next : s - 20 + 2 = s - 18 := by
      ring
    rw [← kept18, next]
    have above : (s - 18 + 1).toNat = s.toNat - 17 := by
      bv_omega
    apply word_congr
    · exact called_kept (by omega) (by rw [Span, low8]; omega)
    · exact called_kept (by omega) (by rw [Span, low8]; omega)
  obtain ⟨c₄, fetched, sp₄, r0₄, r1₄, r4₄, r5₄, psw₄, bus₄⟩ :=
    itodl_refetch itod even (converts.sp.trans sp₂) work₃
  have dest : c₄.r4 = buf := r4₄.trans (converts.r4.trans
    (((same₁.trans same₂).reg .r4 (by decide) (by decide)).trans to'))
  obtain ⟨c₅, loop, text, other, -, -, same₅⟩ := moveBytes_run (c := c₄) (n := 3)
    (rfl : target (itodlCode itod) 20 = some 30) ⟨_, rfl⟩ r1₄ (by rw [r0₄, low7]; omega)
    (by rw [dest]; omega) (by rw [r0₄, dest, low7]; omega)
  rw [dest, r0₄, bus₄] at text
  rw [dest] at other
  -- The first digit of five is left out.
  have digits : textAt c₃.bus (s - 7) 4 = numeral 10 4 c.r3.toNat := by
    have next : s - 8 + 1 = s - 7 := by
      ring
    rw [textAt_succ, numeral_succ, next] at written
    exact (List.cons.inj written).2
  have calls : ([.mov (.deferred .sp) (.reg .r1), .mov (.reg .r3) (.dec .sp)] : List Instr).map .instr <+:
      (itodlCode itod).drop 23 := ⟨_, rfl⟩
  have started : Reaches (itodlCode itod) (23, c) (25, c₂) :=
    Reaches.block calls (execAll_cons ran₁ (execAll_cons ran₂ rfl))
  refine ⟨c₅, started.follows.trans (follows.trans (fetched.trans loop).follows), same₅.sp.trans sp₄,
    text.trans digits, ?_, ?_, ?_⟩
  · intro a outside far
    rw [other a outside, bus₄, untouched far]
  · exact same₅.r5.trans (r5₄.trans (converts.r5.trans
      ((same₁.trans same₂).reg .r5 (by decide) (by decide))))
  · exact same₅.psw.trans (psw₄.trans (converts.psw.trans (same₁.trans same₂).psw))

/-- The number whose digits itodl writes. -/
def itodlValue (high low : WORD) : Nat :=
  (longParts high low).1.toNat * 10 ^ 4 + (longParts high low).2.toNat % 10 ^ 4

theorem itodlValue_numeral (high low : WORD) : numeral 10 9 (itodlValue high low) =
    numeral 10 5 (longParts high low).1.toNat ++ numeral 10 4 (longParts high low).2.toNat := by
  have front : itodlValue high low / 10 ^ 4 = (longParts high low).1.toNat := by
    rw [itodlValue]
    omega
  have rest : itodlValue high low % 10 ^ 4 = (longParts high low).2.toNat % 10 ^ 4 := by
    rw [itodlValue]
    omega
  rw [numeral_append 5 4, front, ← numeral_mod 4 (itodlValue high low), rest, numeral_mod]

/-- The division, and the address of the work buffer. -/
theorem itodl_start (itod : ADDRESS) {high low : WORD} (first : Bus.read c.bus (c.r5 + 4#16) = some high)
    (second : Bus.read c.bus (c.r5 + 6#16) = some low) :
    ∃ c', Reaches (itodlCode itod) (7, c) (12, c') ∧ c'.r1 = c.r5 - 6 ∧
      c'.r2 = (longParts high low).1 ∧ c'.r3 = (longParts high low).2 ∧ c'.bus = c.bus ∧
      InFrame c c' := by
  obtain ⟨c₁, ran₁, r2₁, r3₁, bus₁, same₁⟩ : ∃ c₁,
      execAll (instrsAt (itodlCode itod) 7 2) c = some c₁ ∧ c₁.r2 = high ∧ c₁.r3 = low ∧
        c₁.bus = c.bus ∧ InFrame c c₁ := by
    simp [instrsAt, itodlCode, procentry, first, second]
  obtain ⟨r2₂, r3₂, bus₂, same₂⟩ := divide_long c₁
  rw [r2₁, r3₁] at r2₂ r3₂
  obtain ⟨c₃, ran₃, r1₃, r2₃, r3₃, bus₃, same₃⟩ : ∃ c₃,
      execAll (instrsAt (itodlCode itod) 10 2) (c₁.divide 10000 .r2 .r3) = some c₃ ∧
        c₃.r1 = (c₁.divide 10000 .r2 .r3).r5 - 6 ∧ c₃.r2 = (c₁.divide 10000 .r2 .r3).r2 ∧
        c₃.r3 = (c₁.divide 10000 .r2 .r3).r3 ∧ c₃.bus = (c₁.divide 10000 .r2 .r3).bus ∧
        InFrame (c₁.divide 10000 .r2 .r3) c₃ := by
    simp [instrsAt, itodlCode, procentry]
  have loaded : Reaches (itodlCode itod) (7, c) (9, c₁) := Reaches.straight rfl rfl ran₁
  have divided : Reaches (itodlCode itod) (9, c₁) (10, c₁.divide 10000 .r2 .r3) :=
    .one (step_instr rfl rfl)
  have placed : Reaches (itodlCode itod) (10, c₁.divide 10000 .r2 .r3) (12, c₃) :=
    Reaches.straight rfl rfl ran₃
  refine ⟨c₃, loaded.trans (divided.trans placed), ?_, r2₃.trans r2₂, r3₃.trans r3₂, ?_,
    (same₁.trans same₂).trans same₃⟩
  · rw [r1₃, same₂.r5, same₁.r5]
  · rw [bus₃, bus₂, bus₁]

theorem itodl_runs (itod : ADDRESS) (link : Nat → WORD) {high low : WORD}
    (called : Called c [high, low, buf] 34) (apart : BufferApart c buf 9 3 34) :
    ∃ c', Returns (itodlCode itod) link (itodAt itod) c c' ∧
      Converts c c' buf (numeral 10 9 (itodlValue high low)) 34 := by
  have even := called.even
  have deep := called.room
  have top : (c.get .sp).toNat + 8 ≤ 65536 := called.top
  have fits := apart.top
  have beside := apart.apart
  have room : 2 * (3 : WORD).toNat + 10 ≤ (c.get .sp).toNat := Nat.le_trans (by decide) deep
  obtain ⟨c₁, ran₁, built⟩ := procentry_enters true true true 3 (by decide) even room
  have first : Bus.read c₁.bus (c₁.r5 + 4#16) = some high := built.read called room 0 (by simp)
  have second : Bus.read c₁.bus (c₁.r5 + 6#16) = some low := built.read called room 1 (by simp)
  have third : Bus.read c₁.bus (c₁.r5 + 8#16) = some buf := built.read called room 2 (by simp)
  obtain ⟨c₂, reaches₂, r1₂, r2₂, r3₂, bus₂, same₂⟩ := itodl_start itod first second
  have fp₁ : c₁.r5 = c.get .sp - 2 := by
    rw [built.r5]
    ring
  have sp₁ : c₁.get .sp = c.get .sp - 16 := built.sp
  have arg : word c₂.bus (c.get .sp + 6) = buf := by
    have slot : c₁.r5 + 8#16 = c.get .sp + 6 := by
      rw [fp₁]
      show c.get .sp - 2 + 8 = c.get .sp + 6
      ring
    rw [slot, read_bytes (by bv_omega), ← bus₂] at third
    exact Option.some_inj.mp third
  obtain ⟨c₃, follows₃, sp₃, work₃, text₃, other₃, r4₃, r3₃, r5₃, psw₃⟩ := itodl_upper itod link even deep
    top (same₂.sp.trans sp₁) (same₂.r5.trans fp₁) (by rw [r1₂, fp₁]; ring) arg (by omega) (by omega)
  have after : (buf + 5).toNat = buf.toNat + 5 := by
    bv_omega
  obtain ⟨c₄, follows₄, sp₄, text₄, other₄, r5₄, psw₄⟩ := itodl_lower itod link even deep top sp₃ work₃ r4₃
    (by omega) (by omega)
  rw [r2₂] at text₃
  rw [r3₃, r3₂] at text₄
  obtain ⟨c₅, ran₅, bus₅, same₅⟩ : ∃ c₅, (Instr.clr (.reg .r0)).exec c₄ = some c₅ ∧
      c₅.bus = c₄.bus ∧ InFrame c₄ c₅ := by
    simp
  have framed : InFrame c₁ c₅ := by
    refine InFrame.trans ⟨?_, ?_, ?_⟩ same₅
    · exact r5₄.trans (r5₃.trans same₂.r5)
    · exact sp₄.trans sp₁.symm
    · exact psw₄.trans (psw₃.trans same₂.psw)
  have other {a : ADDRESS} (outside : ¬ Span buf 9 a) (far : ¬ Touched (c.get .sp) a) :
      c₅.bus a = c₁.bus a := by
    unfold Span at outside
    rw [bus₅, other₄ a _ far, other₃ a _ far, bus₂]
    · unfold Span
      omega
    · rw [Span, after]
      omega
  have frame : FrameHeld true true true 3 c c₅.bus := by
    refine built.frame.kept (by decide) room fun a inside outside => ?_
    obtain ⟨low, below⟩ := (span_below (n := 16) (by omega)).mp inside
    apply other
    · exact apart.frame (n := 16) (by decide) deep inside
    · have base : (c.get .sp + -2 - 2 * 3).toNat = (c.get .sp).toNat - 8 := toNat_locals room
      have outside : ¬ Span (c.get .sp + -2 - 2 * 3) 6 a := outside
      rw [Span, base] at outside
      unfold Touched
      omega
  obtain ⟨c₆, pc, leaves, last, restored⟩ := procexit_reaches (itodlCode itod) 34 ⟨_, rfl⟩ even room
    built framed frame
  refine ⟨c₆, ⟨pc, ?_, last⟩, ?_⟩
  · have entered : Reaches (itodlCode itod) (0, c) (7, c₁) := Reaches.block ⟨_, rfl⟩ ran₁
    have ended : Reaches (itodlCode itod) (33, c₄) (34, c₅) := .one (step_instr rfl ran₅)
    exact (entered.trans reaches₂).follows.trans
      (follows₃.trans (follows₄.trans (ended.trans leaves).follows))
  · apply restored.converts built framed (by simp) (by decide) deep
    · have upper : textAt c₄.bus buf 5 = textAt c₃.bus buf 5 := by
        apply textAt_congr
        intro i within
        have place : (buf + BitVec.ofNat 16 i).toNat = buf.toNat + i := by
          bv_omega
        apply other₄
        · rw [Span, after, place]
          omega
        · rw [Touched, place]
          omega
      rw [numeral_length, bus₅, itodlValue_numeral, ← text₃, ← text₄, ← upper]
      exact textAt_add c₄.bus buf 5 4
    · intro a outside far
      rw [numeral_length] at outside
      rw [span_below deep] at far
      apply other outside
      unfold Touched
      omega

theorem itodlValue_iff {v : LONGWORD} (nine : v.toNat < 10 ^ 9) :
    itodlValue (v.extractLsb' 16 16) (v.setWidth 16) % 10 ^ 9 = v.toNat ↔ v.toNat < 327680000 := by
  have whole : v.extractLsb' 16 16 ++ v.setWidth 16 = v := by
    rw [BitVec.setWidth_eq_extractLsb' (by decide)]
    exact (BitVec.extractLsb'_append_extractLsb'_eq_extractLsb' rfl).trans (by simp)
  have signed : v.toInt = v.toNat := BitVec.toInt_eq_toNat_of_lt (by omega)
  have quotient : (v.toNat : Int).tdiv 10000 = (v.toNat / 10000 : Nat) := rfl
  have rest : (v.toNat : Int).tmod 10000 = (v.toNat % 10000 : Nat) := rfl
  have high : (v.extractLsb' 16 16).toNat = v.toNat / 2 ^ 16 := by
    rw [BitVec.extractLsb'_toNat, Nat.shiftRight_eq_div_pow]
    omega
  have low : (v.setWidth 16).toNat = v.toNat % 2 ^ 16 := BitVec.toNat_setWidth ..
  by_cases fits : Fits (v.toNat : Int) 10000
  · have small := fits.2.2
    rw [quotient] at small
    have front : (BitVec.ofInt 16 (v.toNat / 10000 : Nat)).toNat = v.toNat / 10000 := by
      rw [BitVec.ofInt_natCast, BitVec.toNat_ofNat, Nat.mod_eq_of_lt (by omega)]
    have back : (BitVec.ofInt 16 (v.toNat % 10000 : Nat)).toNat = v.toNat % 10000 := by
      rw [BitVec.ofInt_natCast, BitVec.toNat_ofNat, Nat.mod_eq_of_lt (by omega)]
    rw [itodlValue, longParts, whole, signed, if_pos fits, quotient, rest, front, back]
    omega
  · have large : 327680000 ≤ v.toNat := by
      by_contra small
      apply fits
      refine ⟨by decide, ?_, ?_⟩ <;> rw [quotient] <;> omega
    have upper : v.toNat / 2 ^ 16 ≤ 15258 := by
      omega
    have lower := Nat.mod_lt (v.toNat % 2 ^ 16) (by decide : 10 ^ 4 > 0)
    rw [itodlValue, longParts, whole, signed, if_neg fits, high, low, Nat.mod_eq_of_lt (by omega)]
    omega

theorem itodl_converts_iff (itod : ADDRESS) (link : Nat → WORD) {v : LONGWORD} (nine : v.toNat < 10 ^ 9)
    (called : Called c [v.extractLsb' 16 16, v.setWidth 16, buf] 34)
    (apart : BufferApart c buf 9 3 34) :
    (∃ c', Returns (itodlCode itod) link (itodAt itod) c c' ∧
      Converts c c' buf (numeral 10 9 v.toNat) 34) ↔ v.toNat < 327680000 := by
  have below : v.toNat % 10 ^ 9 = v.toNat := Nat.mod_eq_of_lt nine
  obtain ⟨c₁, returns, converts⟩ := itodl_runs itod link called apart
  have same : numeral 10 9 v.toNat =
      numeral 10 9 (itodlValue (v.extractLsb' 16 16) (v.setWidth 16)) ↔ _ :=
    numeral_inj (by decide) (by decide)
  rw [below, eq_comm (a := v.toNat), itodlValue_iff nine] at same
  rw [← same]
  constructor
  · rintro ⟨c', returns', converts'⟩
    have one (a : ADDRESS) : Relator.RightUnique (itodAt itod a) := by
      rintro c d e ⟨-, runs⟩ ⟨-, runs'⟩
      exact runs.unique leaves_rts runs'
    obtain rfl := returns.unique one returns'
    have text := converts.written
    have text' := converts'.written
    rw [numeral_length] at text text'
    exact text'.symm.trans text
  · intro text
    exact ⟨c₁, returns, text ▸ converts⟩

/-- itod and itods write every word, itodl the numbers of nine digits whose
quotient by 10000 is a signed word. -/
theorem decimal_digits_iff (itod : ADDRESS) (link link' : Nat → WORD) {v : LONGWORD} {d e : Cpu Bytes}
    {w x buf' buf'' : WORD} (nine : v.toNat < 10 ^ 9)
    (called : Called c [v.extractLsb' 16 16, v.setWidth 16, buf] 34)
    (apart : BufferApart c buf 9 3 34) (called' : Called d [w, buf'] 10)
    (apart' : BufferApart d buf' 5 2 10) (called'' : Called e [x, buf''] 20)
    (apart'' : BufferApart e buf'' 6 2 20) :
    ((∃ c', Returns (itodlCode itod) link (itodAt itod) c c' ∧
        Converts c c' buf (numeral 10 9 v.toNat) 34) ∧
      (∃ d', Runs itodCode .rts d d' ∧ Converts d d' buf' (numeral 10 5 w.toNat) 10) ∧
      ∃ e', Returns (itodsCode itod) link' (itodAt itod) e e' ∧
        Converts e e' buf'' (signedText x) 20) ↔ v.toNat < 327680000 := by
  rw [itodl_converts_iff itod link nine called apart]
  exact and_iff_left ⟨itod_runs called' apart', itods_runs itod link' called'' apart''⟩

end Itodl

theorem calling_decimal :
    Called (calling [0x075B, 0xCD15, 0x2000]) [0x075B, 0xCD15, 0x2000] 34 ∧
      BufferApart (calling [0x075B, 0xCD15, 0x2000]) 0x2000 9 3 34 ∧
      Called (calling [0x8000, 0x2000]) [0x8000, 0x2000] 20 ∧
      BufferApart (calling [0x8000, 0x2000]) 0x2000 6 2 20 :=
  ⟨⟨by decide, by decide, by decide, by decide⟩, ⟨by decide, by decide⟩,
    ⟨by decide, by decide, by decide, by decide⟩, ⟨by decide, by decide⟩⟩

/-- 123456789 as a longword, and 0x8000 without and with a sign. -/
theorem decimal_digits_sample :
    (∃ c', Returns (itodlCode 0x400) (fun _ => 0) (itodAt 0x400) (calling [0x075B, 0xCD15, 0x2000]) c' ∧
        Converts (calling [0x075B, 0xCD15, 0x2000]) c' 0x2000 (numeral 10 9 123456789) 34) ∧
      (∃ d', Runs itodCode .rts (calling [0x8000, 0x2000]) d' ∧
        Converts (calling [0x8000, 0x2000]) d' 0x2000 (numeral 10 5 32768) 10) ∧
      ∃ e', Returns (itodsCode 0x400) (fun _ => 0) (itodAt 0x400) (calling [0x8000, 0x2000]) e' ∧
        Converts (calling [0x8000, 0x2000]) e' 0x2000 (signedText 0x8000) 20 :=
  (decimal_digits_iff 0x400 (fun _ => 0) (fun _ => 0) (v := 123456789) (w := 0x8000) (x := 0x8000)
    (by decide) calling_decimal.1 calling_decimal.2.1
    ⟨by decide, by decide, by decide, by decide⟩ ⟨by decide, by decide⟩
    calling_decimal.2.2.1 calling_decimal.2.2.2).mpr (by decide)

/-- 327680000 is written as 050000000: the division does not take place, and the
halves of the longword are converted. -/
theorem itodl_overflows :
    Called (calling [0x1388, 0, 0x2000]) [0x1388, 0, 0x2000] 34 ∧
      BufferApart (calling [0x1388, 0, 0x2000]) 0x2000 9 3 34 ∧
      ¬ ∃ c', Returns (itodlCode 0x400) (fun _ => 0) (itodAt 0x400) (calling [0x1388, 0, 0x2000]) c' ∧
        Converts (calling [0x1388, 0, 0x2000]) c' 0x2000 (numeral 10 9 327680000) 34 := by
  have called : Called (calling [0x1388, 0, 0x2000]) [0x1388, 0, 0x2000] 34 :=
    ⟨by decide, by decide, by decide, by decide⟩
  have apart : BufferApart (calling [0x1388, 0, 0x2000]) 0x2000 9 3 34 := ⟨by decide, by decide⟩
  refine ⟨called, apart, ?_⟩
  intro converts
  have small := (itodl_converts_iff 0x400 (fun _ => 0) (v := 327680000) (by decide) called apart).mp
    converts
  exact absurd small (by decide)

end Muxx
