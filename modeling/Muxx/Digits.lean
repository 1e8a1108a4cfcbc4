import Muxx.Frames
import Muxx.Lib.Numerals

/-!
# Octal digits

itoo and itool of itoo.s, in their own words.
-/

namespace Muxx

open Pdp11

/-- The value of azero. -/
abbrev azero : WORD := 0x30

/-- Put the digit of the last three bits of r1 below r2, and shift them out. -/
def octalGroup : List Instr := [
  .mov (.reg .r1) (.reg .r4),
  .bic (.imm 0b1111111111111000) (.reg .r4),
  .add (.imm azero) (.reg .r4),
  .movb (.reg .r4) (.dec .r2),
  .ash (.imm (-3)) .r1]

def octalGroups (label : Nat) : List Line :=
  .label label :: octalGroup.map .instr ++ [.sob .r3 label]

def itooCode : List Line :=
  procentry true true true 0 ++ [
    .instr (.clr (.reg .r0)),
    .instr (.mov (.index 4 .r5) (.reg .r1)),
    .instr (.mov (.index 6 .r5) (.reg .r2)),
    .instr (.mov (.imm 6) (.reg .r3)),
    .instr (.add (.reg .r3) (.reg .r2)),
    .instr (.mov (.imm 5) (.reg .r3))] ++
  octalGroups 10 ++ [
    .instr (.mov (.reg .r1) (.reg .r4)),
    .instr (.bic (.imm 0b1111111111111110) (.reg .r4)),
    .instr (.add (.imm azero) (.reg .r4)),
    .instr (.movb (.reg .r4) (.dec .r2))] ++
  procexit true true true 0

def itoolCode : List Line :=
  procentry true true true 0 ++ [
    .instr (.clr (.reg .r0)),
    .instr (.mov (.index 6 .r5) (.reg .r1)),
    .instr (.mov (.index 8 .r5) (.reg .r2)),
    .instr (.mov (.imm 11) (.reg .r3)),
    .instr (.add (.reg .r3) (.reg .r2)),
    .instr (.mov (.imm 5) (.reg .r3))] ++
  octalGroups 10 ++ [
    .instr (.mov (.reg .r1) (.reg .r4)),
    .instr (.bic (.imm 0b1111111111111110) (.reg .r4)),
    .instr (.mov (.reg .r4) (.dec .sp)),
    .instr (.mov (.index 4 .r5) (.reg .r1)),
    .instr (.mov (.reg .r1) (.reg .r4)),
    .instr (.bic (.imm 0b1111111111111100) (.reg .r4)),
    .instr (.asl (.reg .r4)),
    .instr (.bis (.inc .sp) (.reg .r4)),
    .instr (.add (.imm azero) (.reg .r4)),
    .instr (.movb (.reg .r4) (.dec .r2)),
    .instr (.mov (.imm 5) (.reg .r3)),
    .instr (.ash (.imm (-2)) .r1)] ++
  octalGroups 20 ++
  procexit true true true 0

/-! ## The loop -/

section Groups
variable {c : Cpu Bytes} {w : WORD}

theorem and_seven (w : WORD) : (7#16 &&& w).toNat = w.toNat % 8 := by
  rw [BitVec.toNat_and, Nat.and_comm]
  exact Nat.and_two_pow_sub_one_eq_mod _ 3

theorem octal_digit (w : WORD) : (azero + (7#16 &&& w)).setWidth 8 = digit 8 w.toNat := by
  have small := Nat.mod_lt w.toNat (by decide : 8 > 0)
  apply BitVec.eq_of_toNat_eq
  rw [toNat_digit (by decide) (by decide), BitVec.toNat_setWidth, BitVec.toNat_add, and_seven]
  show (0x30 + w.toNat % 8) % 65536 % 256 = _
  omega

/-- Bits that an arithmetic shift brings down. -/
theorem sshiftRight_mod (w : WORD) {s n : Nat} (within : s + n ≤ 16) :
    (w.sshiftRight s).toNat % 2 ^ n = w.toNat / 2 ^ s % 2 ^ n := by
  have bits : (w.sshiftRight s).extractLsb' 0 n = w.extractLsb' s n := by
    apply BitVec.eq_of_getLsbD_eq
    intro i small
    rw [BitVec.getLsbD_extractLsb', BitVec.getLsbD_extractLsb', BitVec.getLsbD_sshiftRight]
    simp [small, show s + i < 16 by omega, show i < 16 by omega]
  have same := congrArg BitVec.toNat bits
  rw [BitVec.extractLsb'_toNat, BitVec.extractLsb'_toNat, Nat.shiftRight_zero,
    Nat.shiftRight_eq_div_pow] at same
  exact same

theorem octalGroup_exec (c : Cpu Bytes) : ∃ c', execAll octalGroup c = some c' ∧
    c'.bus = Function.update c.bus (c.r2 + -1) (digit 8 c.r1.toNat) ∧
    c'.r1 = c.r1.sshiftRight 3 ∧ c'.r2 = c.r2 + -1 ∧ c'.r3 = c.r3 ∧ InFrame c c' := by
  have three (w : WORD) : shifted w (count 65533#16) = w.sshiftRight 3 := rfl
  have low := octal_digit c.r1
  simp [octalGroup, writeb_bytes, Place.readb, Place.writeb, three, ← low]

/-- Five groups, from the last one on. -/
theorem octalGroups_run (code : List Line) (pc l : Nat) (labelled : target code l = some pc)
    (there : octalGroups l <+: code.drop pc) (five : c.r3 = 5) :
    ∃ c', Reaches code (pc, c) (pc + 7, c') ∧ c'.bus = putDigits 8 5 c.r1.toNat c.bus c.r2 ∧
      c'.r1 = c.r1.sshiftRight 15 ∧ c'.r2 = c.r2 - 5 ∧ InFrame c c' := by
  let I (n : Nat) (d : Cpu Bytes) : Prop := n ≤ 5 ∧ d.r3 = BitVec.ofNat 16 n ∧
    d.r1 = c.r1.sshiftRight (3 * (5 - n)) ∧ d.r2 = c.r2 - BitVec.ofNat 16 (5 - n) ∧
    putDigits 8 n (c.r1.toNat / 8 ^ (5 - n)) d.bus d.r2 = putDigits 8 5 c.r1.toNat c.bus c.r2 ∧
    InFrame c d
  have start : I 5 c :=
    ⟨le_rfl, five, (BitVec.sshiftRight_zero ..).symm, (BitVec.sub_zero _).symm,
      by rw [Nat.sub_self, pow_zero, Nat.div_one], .refl c⟩
  have turn (n : Nat) (d : Cpu Bytes) (_ : n + 1 < 65536) (before : I (n + 1) d) :
      ∃ d', execAll octalGroup d = some d' ∧ d'.get .r3 = BitVec.ofNat 16 (n + 1) ∧
        I n (d'.set .r3 (BitVec.ofNat 16 n)) := by
    obtain ⟨few, r3, r1, r2, bus, same⟩ := before
    obtain ⟨d', ran, bus', r1', r2', r3', same'⟩ := octalGroup_exec d
    have done : 5 - n = 5 - (n + 1) + 1 := by
      omega
    have last : digit 8 d.r1.toNat = digit 8 (c.r1.toNat / 8 ^ (5 - (n + 1))) := by
      have bits := sshiftRight_mod c.r1 (s := 3 * (5 - (n + 1))) (n := 3) (by omega)
      rw [pow_mul] at bits
      rw [digit, digit, r1]
      exact congrArg (fun d => BitVec.ofNat 8 (0x30 + d)) bits
    refine ⟨d', ran, r3'.trans r3, by omega, rfl, ?_, ?_, ?_, (same.trans same').set (by decide) _⟩
    · show d'.r1 = _
      rw [r1', r1, ← BitVec.sshiftRight_add, done, Nat.mul_add]
    · show d'.r2 = _
      rw [r2', r2]
      bv_omega
    · show putDigits 8 n _ d'.bus d'.r2 = _
      rw [bus', r2', ← bus, putDigits, last, Nat.div_div_eq_div_mul, ← pow_succ, done]
  obtain ⟨c', ⟨-, -, r1, r2, bus, same⟩, reaches⟩ :=
    Reaches.sob labelled there I turn (n := 4) (by decide) start
  exact ⟨c', reaches, bus, r1, r2, same⟩

end Groups

/-! ## itoo -/

/-- A conversion routine called in state `c` has returned in state `c'`: the
buffer at `buf` holds `text`, and no other byte has changed but `depth` bytes
below the stack pointer. -/
structure Converts (c c' : Cpu Bytes) (buf : ADDRESS) (text : List Byte) (depth : Nat) : Prop where
  written : textAt c'.bus buf text.length = text
  other : ∀ a, ¬ Span buf text.length a →
    ¬ Span (c.get .sp - BitVec.ofNat 16 depth) depth a → c'.bus a = c.bus a
  r2 : c'.r2 = c.r2
  r3 : c'.r3 = c.r3
  r4 : c'.r4 = c.r4
  r5 : c'.r5 = c.r5
  sp : c'.get .sp = c.get .sp
  psw : c'.psw = c.psw

/-- The buffer is clear of the arguments and of the stack below them. -/
structure BufferApart (c : Cpu Bytes) (buf : ADDRESS) (size args depth : Nat) : Prop where
  top : buf.toNat + size ≤ 65536
  apart : buf.toNat + size + depth ≤ (c.get .sp).toNat ∨
    (c.get .sp).toNat + 2 + 2 * args ≤ buf.toNat

section Converts
variable {c c₁ c₂ c' : Cpu Bytes} {buf : ADDRESS} {size args depth : Nat}

/-- The buffer is clear of the frame. -/
theorem BufferApart.frame (h : BufferApart c buf size args depth) {n : Nat} (within : n ≤ depth)
    (room : depth ≤ (c.get .sp).toNat) {a : ADDRESS} (inside : Span (c.get .sp - BitVec.ofNat 16 n) n a) :
    ¬ Span buf size a := by
  obtain ⟨low, high⟩ := (span_below (by omega)).mp inside
  have apart := h.apart
  unfold Span
  omega

theorem FrameRestored.converts {saver2 saver3 saver4 : Bool} {locals : WORD}
    (restored : FrameRestored saver2 saver3 saver4 c c₂ c')
    (built : FrameBuilt saver2 saver3 saver4 locals c c₁) (body : InFrame c₁ c₂)
    (saved : (saver2 = false → c₂.r2 = c.r2) ∧ (saver3 = false → c₂.r3 = c.r3) ∧
      (saver4 = false → c₂.r4 = c.r4))
    (deep : frameSize saver2 saver3 saver4 locals ≤ depth) (room : depth ≤ (c.get .sp).toNat)
    {text : List Byte} (written : textAt c₂.bus buf text.length = text)
    (other : ∀ a, ¬ Span buf text.length a → ¬ Span (c.get .sp - BitVec.ofNat 16 depth) depth a →
      c₂.bus a = c₁.bus a) : Converts c c' buf text depth := by
  refine ⟨restored.bus ▸ written, ?_, ?_, ?_, ?_, restored.r5, restored.sp,
    restored.psw.trans (body.psw.trans built.keeps.psw)⟩
  · intro a outside below
    rw [restored.bus, other a outside below]
    apply built.other
    intro inside
    rw [span_below room] at below
    have := (span_below (deep.trans room)).mp inside
    omega
  · rw [restored.r2]
    cases saver2 with
    | false => exact saved.1 rfl
    | true => rfl
  · rw [restored.r3]
    cases saver3 with
    | false => exact saved.2.1 rfl
    | true => rfl
  · rw [restored.r4]
    cases saver4 with
    | false => exact saved.2.2 rfl
    | true => rfl

end Converts

section Itoo
variable {c : Cpu Bytes} {v buf : WORD}

theorem last_octal (v : WORD) :
    (azero + (1#16 &&& v.sshiftRight 15)).setWidth 8 = digit 8 (v.toNat / 8 ^ 5) := by
  have bit := sshiftRight_mod v (s := 15) (n := 1) (by decide)
  have low : (1#16 &&& v.sshiftRight 15).toNat = v.toNat / 8 ^ 5 % 8 := by
    have below := v.isLt
    rw [BitVec.toNat_and, Nat.and_comm]
    refine (Nat.and_two_pow_sub_one_eq_mod _ 1).trans (bit.trans ?_)
    omega
  have small := Nat.mod_lt (v.toNat / 8 ^ 5) (by decide : 8 > 0)
  apply BitVec.eq_of_toNat_eq
  rw [toNat_digit (by decide) (by decide), BitVec.toNat_setWidth, BitVec.toNat_add, low]
  show (0x30 + v.toNat / 8 ^ 5 % 8) % 65536 % 256 = _
  omega

theorem itoo_runs (called : Called c [v, buf] 10) (apart : BufferApart c buf 6 2 10) :
    ∃ c', Runs itooCode .rts c c' ∧ Converts c c' buf (numeral 8 6 v.toNat) 10 := by
  have even := called.even
  have room : 2 * (0 : WORD).toNat + 10 ≤ (c.get .sp).toNat := called.room
  obtain ⟨c₁, ran₁, built⟩ := procentry_enters true true true 0 (by decide) even room
  have value : Bus.read c₁.bus (c₁.r5 + 4#16) = some v := built.read called room 0 (by simp)
  have buffer : Bus.read c₁.bus (c₁.r5 + 6#16) = some buf := built.read called room 1 (by simp)
  obtain ⟨c₂, ran₂, r1, r2, r3, bus₂, same₂⟩ : ∃ c₂, execAll (instrsAt itooCode 6 6) c₁ = some c₂ ∧
      c₂.r1 = v ∧ c₂.r2 = buf + 6 ∧ c₂.r3 = 5 ∧ c₂.bus = c₁.bus ∧ InFrame c₁ c₂ := by
    simp [instrsAt, itooCode, procentry, value, buffer, BitVec.add_comm 6#16 buf]
  obtain ⟨c₃, reaches, bus₃, r1', r2', same₃⟩ :=
    octalGroups_run itooCode 12 10 rfl ⟨_, rfl⟩ r3
  obtain ⟨c₄, ran₄, bus₄, same₄⟩ : ∃ c₄, execAll (instrsAt itooCode 19 4) c₃ = some c₄ ∧
      c₄.bus = Function.update c₃.bus (c₃.r2 + -1) ((azero + (1#16 &&& c₃.r1)).setWidth 8) ∧
      InFrame c₃ c₄ := by
    simp [instrsAt, itooCode, procentry, octalGroups, octalGroup, writeb_bytes, Place.readb,
      Place.writeb]
  have bus : c₄.bus = putDigits 8 6 v.toNat c₁.bus (buf + 6) := by
    rw [bus₄, r1', r1, last_octal, r2', r2, bus₃, bus₂, r1, r2, putDigits_add 1 5]
    rfl
  have written := textAt_putDigits 8 c₁.bus apart.top v.toNat
  have other (a : ADDRESS) (outside : ¬ Span buf 6 a) : c₄.bus a = c₁.bus a :=
    bus ▸ putDigits_other apart.top v.toNat outside
  have frame : FrameHeld true true true 0 c c₄.bus :=
    built.frame.kept (by decide) room fun a inside _ =>
      other a (apart.frame (n := 10) le_rfl called.room inside)
  obtain ⟨c₅, pc, leaves, last, restored⟩ := procexit_reaches itooCode 23 ⟨_, rfl⟩
    even room built ((same₂.trans same₃).trans same₄) frame
  refine ⟨c₅, ⟨pc, ?_, last⟩, ?_⟩
  · have entered : Reaches itooCode (0, c) (6, c₁) := Reaches.block ⟨_, rfl⟩ ran₁
    have started : Reaches itooCode (6, c₁) (12, c₂) := Reaches.straight rfl rfl ran₂
    have ended : Reaches itooCode (19, c₃) (23, c₄) := Reaches.straight rfl rfl ran₄
    exact entered.trans (started.trans (reaches.trans (ended.trans leaves)))
  · apply restored.converts built ((same₂.trans same₃).trans same₄) (by simp) le_rfl called.room
    · rw [numeral_length, bus]
      exact written
    · intro a outside _
      rw [numeral_length] at outside
      exact other a outside

end Itoo

/-! ## itool -/

section Itool
variable {c : Cpu Bytes} {high low buf : WORD}

/-- The number whose digits itool writes: the shifts of the high word repeat its
sign. -/
def itoolValue (high low : WORD) : Nat :=
  (high.sshiftRight 2).toNat * 2 ^ 18 + (high.toNat % 4 * 2 ^ 16 + low.toNat)

theorem mixed_octal (high low : WORD) :
    (azero + ((1#16 &&& low.sshiftRight 15) ||| (3#16 &&& high) <<< 1)).setWidth 8 =
      digit 8 (itoolValue high low / 8 ^ 5) := by
  have small : ∀ i < 2, ∀ j < 4, BitVec.ofNat 16 i ||| BitVec.ofNat 16 j <<< 1 =
      BitVec.ofNat 16 (2 * j + i) := by
    decide
  have bit := sshiftRight_mod low (s := 15) (n := 1) (by decide)
  have one : (1#16 &&& low.sshiftRight 15) = BitVec.ofNat 16 (low.toNat / 2 ^ 15 % 2) := by
    apply BitVec.eq_of_toNat_eq
    rw [BitVec.toNat_and, Nat.and_comm]
    refine (Nat.and_two_pow_sub_one_eq_mod _ 1).trans (bit.trans ?_)
    exact (Nat.mod_eq_of_lt (by omega)).symm
  have two : (3#16 &&& high) = BitVec.ofNat 16 (high.toNat % 4) := by
    apply BitVec.eq_of_toNat_eq
    rw [BitVec.toNat_and, Nat.and_comm]
    refine (Nat.and_two_pow_sub_one_eq_mod _ 2).trans ?_
    exact (Nat.mod_eq_of_lt (by omega)).symm
  have below := low.isLt
  rw [one, two, small _ (Nat.mod_lt _ (by decide)) _ (Nat.mod_lt _ (by decide))]
  apply BitVec.eq_of_toNat_eq
  rw [toNat_digit (by decide) (by decide), BitVec.toNat_setWidth, BitVec.toNat_add,
    BitVec.toNat_ofNat, itoolValue]
  show (0x30 + (2 * (high.toNat % 4) + low.toNat / 2 ^ 15 % 2) % 2 ^ 16) % 2 ^ 16 % 2 ^ 8 = _
  omega

/-- The digit of the last bit of r1 and the first two bits of the argument at
`4(r5)`. -/
theorem itool_middle (even : (c.get .sp).toNat % 2 = 0)
    (kept : ∀ w, Bus.read (setWord c.bus (c.get .sp + -2) w) (c.r5 + 4#16) = some high) :
    ∃ c', Reaches itoolCode (19, c) (31, c') ∧
      c'.bus = Function.update (setWord c.bus (c.get .sp + -2) (1#16 &&& c.r1)) (c.r2 + -1)
        ((azero + ((1#16 &&& c.r1) ||| (3#16 &&& high) <<< 1)).setWidth 8) ∧
      c'.r1 = high.sshiftRight 2 ∧ c'.r2 = c.r2 + -1 ∧ c'.r3 = 5 ∧ InFrame c c' := by
  have two (w : WORD) : shifted w (count 65534#16) = w.sshiftRight 2 := rfl
  obtain ⟨c₁, ran₁, r4₁, r2₁, bus₁, same₁⟩ : ∃ c₁, execAll (instrsAt itoolCode 19 2) c = some c₁ ∧
      c₁.r4 = (1#16 &&& c.r1) ∧ c₁.r2 = c.r2 ∧ c₁.bus = c.bus ∧ InFrame c c₁ := by
    simp [instrsAt, itoolCode, procentry, octalGroups, octalGroup]
  obtain ⟨c₂, ran₂, same₂, sp₂, bus₂⟩ := push_reg (c := c₁) (r := .r4) (by decide)
    (by rw [same₁.sp]; exact even)
  rw [same₁.sp] at sp₂ bus₂
  have bus₂ : c₂.bus = setWord c.bus (c.get .sp + -2) (1#16 &&& c.r1) := by
    rw [bus₂, bus₁, Cpu.get, r4₁]
  have fp₂ : c₂.r5 = c.r5 := (same₂.reg .r5 (by decide) (by decide)).trans same₁.r5
  have r2₂ : c₂.r2 = c.r2 := (same₂.reg .r2 (by decide) (by decide)).trans r2₁
  have value : Bus.read c₂.bus (c₂.r5 + 4#16) = some high := by
    rw [fp₂, bus₂, kept]
  obtain ⟨c₃, ran₃, r4₃, r2₃, r1₃, bus₃, same₃⟩ : ∃ c₃,
      execAll (instrsAt itoolCode 22 4) c₂ = some c₃ ∧ c₃.r4 = (3#16 &&& high) <<< 1 ∧
        c₃.r2 = c₂.r2 ∧ c₃.r1 = high ∧ c₃.bus = c₂.bus ∧ InFrame c₂ c₃ := by
    simp [instrsAt, itoolCode, procentry, octalGroups, octalGroup, value]
  obtain ⟨c₄, ran₄, same₄, r4₄, sp₄, bus₄⟩ := bis_pop (c := c₃) (r := .r4) (by decide)
    (by rw [same₃.sp, sp₂]; bv_omega)
  obtain ⟨c₅, ran₅, bus₅, r1₅, r2₅, r3₅, same₅⟩ : ∃ c₅,
      execAll (instrsAt itoolCode 27 4) c₄ = some c₅ ∧
        c₅.bus = Function.update c₄.bus (c₄.r2 + -1) ((azero + c₄.r4).setWidth 8) ∧
        c₅.r1 = c₄.r1.sshiftRight 2 ∧ c₅.r2 = c₄.r2 + -1 ∧ c₅.r3 = 5 ∧ InFrame c₄ c₅ := by
    simp [instrsAt, itoolCode, procentry, octalGroups, octalGroup, writeb_bytes, Place.readb,
      Place.writeb, two]
  have r2₄ : c₄.r2 = c.r2 := (same₄.reg .r2 (by decide) (by decide)).trans (r2₃.trans r2₂)
  have r1₄ : c₄.r1 = high := (same₄.reg .r1 (by decide) (by decide)).trans r1₃
  have busOf : c₄.bus = setWord c.bus (c.get .sp + -2) (1#16 &&& c.r1) := by
    rw [bus₄, bus₃, bus₂]
  have mixed : c₄.r4 = (1#16 &&& c.r1) ||| (3#16 &&& high) <<< 1 := by
    refine r4₄.trans ?_
    rw [bus₃, bus₂, same₃.sp, sp₂, word_setWord, Cpu.get, r4₃]
  have framed : InFrame c c₅ := by
    refine InFrame.trans ?_ same₅
    refine ⟨(same₄.reg .r5 (by decide) (by decide)).trans (same₃.r5.trans fp₂), ?_,
      same₄.psw.trans (same₃.psw.trans (same₂.psw.trans same₁.psw))⟩
    rw [sp₄, same₃.sp, sp₂]
    ring
  have first : Reaches itoolCode (19, c) (21, c₁) := Reaches.straight rfl rfl ran₁
  have second : Reaches itoolCode (21, c₁) (22, c₂) := .one (step_instr rfl ran₂)
  have third : Reaches itoolCode (22, c₂) (26, c₃) := Reaches.straight rfl rfl ran₃
  have fourth : Reaches itoolCode (26, c₃) (27, c₄) := .one (step_instr rfl ran₄)
  have fifth : Reaches itoolCode (27, c₄) (31, c₅) := Reaches.straight rfl rfl ran₅
  refine ⟨c₅, first.trans (second.trans (third.trans (fourth.trans fifth))), ?_, ?_, ?_, r3₅, framed⟩
  · rw [bus₅, busOf, r2₄, mixed]
  · rw [r1₅, r1₄]
  · rw [r2₅, r2₄]

/-- The digits of the low word, the one between the words and those of the high word are
the eleven of the number. The word that is pushed meanwhile is clear of them. -/
theorem itool_digits {s : ADDRESS} (m : Bytes) (w : WORD) (top : buf.toNat + 11 ≤ 65536)
    (clear : ¬ Span (buf + 6) 5 s) (clear' : ¬ Span (buf + 6) 5 (s + 1)) :
    putDigits 8 5 (high.sshiftRight 2).toNat
      (Function.update (setWord (putDigits 8 5 low.toNat m (buf + 11)) s w) (buf + 11 - 5#16 + -1)
        ((azero + ((1#16 &&& low.sshiftRight 15) ||| (3#16 &&& high) <<< 1)).setWidth 8))
      (buf + 11 - 5#16 + -1) =
      putDigits 8 11 (itoolValue high low) (setWord m s w) (buf + 11) := by
  have next : (buf + 6).toNat = buf.toNat + 6 := by
    bv_omega
  have last : buf + 11 = buf + 6 + BitVec.ofNat 16 5 := by
    show buf + 11 = buf + 6 + 5
    ring
  have lowDigits (m : Bytes) : putDigits 8 5 (itoolValue high low) m (buf + 11) =
      putDigits 8 5 low.toNat m (buf + 11) := by
    have same : itoolValue high low % 8 ^ 5 = low.toNat % 8 ^ 5 := by
      rw [itoolValue]
      omega
    rw [← putDigits_mod, same, putDigits_mod]
  have highDigits : itoolValue high low / 8 ^ 6 = (high.sshiftRight 2).toNat := by
    rw [itoolValue]
    omega
  have one (v : Nat) (m : Bytes) (p : WORD) :
      putDigits 8 1 v m p = Function.update m (p + -1) (digit 8 v) := rfl
  have mixed : buf + 11 - 5#16 + -1 = buf + 11 - 6#16 := by
    show buf + 11 - 5 + -1 = buf + 11 - 6
    ring
  rw [putDigits_add 5 6, putDigits_add 1 5, highDigits, lowDigits, last,
    putDigits_setWord (by omega) _ clear clear', ← last, mixed_octal, one, ← mixed]

theorem itool_runs (called : Called c [high, low, buf] 12) (apart : BufferApart c buf 11 3 12) :
    ∃ c', Runs itoolCode .rts c c' ∧ Converts c c' buf (numeral 8 11 (itoolValue high low)) 12 := by
  have even := called.even
  have deep := called.room
  have room : 2 * (0 : WORD).toNat + 10 ≤ (c.get .sp).toNat := Nat.le_trans (by decide) deep
  obtain ⟨c₁, ran₁, built⟩ := procentry_enters true true true 0 (by decide) even room
  have first : Bus.read c₁.bus (c₁.r5 + 4#16) = some high := built.read called room 0 (by simp)
  have second : Bus.read c₁.bus (c₁.r5 + 6#16) = some low := built.read called room 1 (by simp)
  have buffer : Bus.read c₁.bus (c₁.r5 + 8#16) = some buf := built.read called room 2 (by simp)
  obtain ⟨c₂, ran₂, r1₂, r2₂, r3₂, bus₂, same₂⟩ : ∃ c₂,
      execAll (instrsAt itoolCode 6 6) c₁ = some c₂ ∧ c₂.r1 = low ∧ c₂.r2 = buf + 11 ∧ c₂.r3 = 5 ∧
        c₂.bus = c₁.bus ∧ InFrame c₁ c₂ := by
    simp [instrsAt, itoolCode, procentry, second, buffer, BitVec.add_comm 11#16 buf]
  obtain ⟨c₃, reaches₃, bus₃, r1₃, r2₃, same₃⟩ :=
    octalGroups_run itoolCode 12 10 rfl ⟨_, rfl⟩ r3₂
  have framed₃ := same₂.trans same₃
  -- The word that is pushed goes below the frame.
  have sp₃ : c₃.get .sp + -2 = c.get .sp - BitVec.ofNat 16 12 := by
    rw [framed₃.sp, built.sp]
    show c.get .sp - 10 + -2 = c.get .sp - 12
    ring
  have bus₃ : c₃.bus = putDigits 8 5 low.toNat c₁.bus (buf + 11) := by
    rw [bus₃, bus₂, r1₂, r2₂]
  have below (a : ADDRESS) (inside : Span (c.get .sp - BitVec.ofNat 16 12) 12 a) :
      ¬ Span buf 11 a := apart.frame le_rfl deep inside
  have top11 := apart.top
  have above := apart.apart
  have args : (c.get .sp).toNat + 8 ≤ 65536 := called.top
  have last : buf + 11 = buf + 6 + BitVec.ofNat 16 5 := by
    show buf + 11 = buf + 6 + 5
    ring
  have next : (buf + 6).toNat = buf.toNat + 6 := by
    bv_omega
  have kept (w : WORD) : Bus.read (setWord c₃.bus (c₃.get .sp + -2) w) (c₃.r5 + 4#16) = some high := by
    have found (a : ADDRESS) (low : (c.get .sp).toNat ≤ a.toNat)
        (high : a.toNat < (c.get .sp).toNat + 8) :
        setWord c₃.bus (c₃.get .sp + -2) w a = c₁.bus a := by
      have outside : ¬ Span (buf + 6) 5 a := by
        unfold Span
        omega
      rw [sp₃, setWord_of_ne (by bv_omega) (by bv_omega), bus₃, last]
      exact putDigits_other (by omega) _ outside
    rw [framed₃.r5, ← first]
    apply read_congr <;> apply found <;> rw [built.r5] <;> bv_omega
  obtain ⟨c₄, reaches₄, bus₄, r1₄, r2₄, r3₄, same₄⟩ := itool_middle
    (by bv_omega) kept
  have clear : ¬ Span (buf + 6) 5 (c.get .sp - BitVec.ofNat 16 12) := by
    unfold Span
    bv_omega
  have clear' : ¬ Span (buf + 6) 5 (c.get .sp - BitVec.ofNat 16 12 + 1) := by
    unfold Span
    bv_omega
  obtain ⟨c₅, reaches₅, bus₅, r1₅, r2₅, same₅⟩ :=
    octalGroups_run itoolCode 31 20 rfl ⟨_, rfl⟩ r3₄
  have bus : c₅.bus = putDigits 8 11 (itoolValue high low)
      (setWord c₁.bus (c.get .sp - BitVec.ofNat 16 12) (1#16 &&& c₃.r1)) (buf + 11) := by
    rw [bus₅, r1₄, bus₄, r2₄, sp₃, bus₃, r2₃, r2₂, r1₃, r1₂]
    exact itool_digits _ _ top11 clear clear'
  have other (a : ADDRESS) (outside : ¬ Span buf 11 a) (apart : a ≠ c.get .sp - BitVec.ofNat 16 12)
      (apart' : a ≠ c.get .sp - BitVec.ofNat 16 12 + 1) : c₅.bus a = c₁.bus a := by
    rw [bus]
    exact (putDigits_other top11 _ outside).trans (setWord_of_ne apart apart' _)
  have frame : FrameHeld true true true 0 c c₅.bus := by
    refine built.frame.kept (by decide) room fun a inside _ => ?_
    obtain ⟨low, high⟩ := (span_below (n := 10) (by omega)).mp inside
    have within : Span (c.get .sp - BitVec.ofNat 16 12) 12 a := (span_below deep).mpr (by omega)
    exact other a (below a within) (by bv_omega) (by bv_omega)
  obtain ⟨c₆, pc, leaves, last, restored⟩ := procexit_reaches itoolCode 38 ⟨_, rfl⟩
    even room built (framed₃.trans (same₄.trans same₅)) frame
  refine ⟨c₆, ⟨pc, ?_, last⟩, ?_⟩
  · have entered : Reaches itoolCode (0, c) (6, c₁) := Reaches.block ⟨_, rfl⟩ ran₁
    have started : Reaches itoolCode (6, c₁) (12, c₂) := Reaches.straight rfl rfl ran₂
    exact entered.trans (started.trans (reaches₃.trans (reaches₄.trans (reaches₅.trans leaves))))
  · apply restored.converts built (framed₃.trans (same₄.trans same₅)) (by simp) (by decide) deep
    · rw [numeral_length, bus]
      exact textAt_putDigits 8 _ top11 _
    · intro a outside clear
      rw [numeral_length] at outside
      rw [span_below deep] at clear
      exact other a outside (by bv_omega) (by bv_omega)

/-- The number whose digits are written is the one that was passed, unless a
sign was shifted in. -/
theorem itoolValue_iff (v : LONGWORD) :
    itoolValue (v.extractLsb' 16 16) (v.setWidth 16) % 8 ^ 11 = v.toNat ↔ v.toNat < 2 ^ 31 := by
  have range := v.isLt
  have high : (v.extractLsb' 16 16).toNat = v.toNat / 2 ^ 16 := by
    rw [BitVec.extractLsb'_toNat, Nat.shiftRight_eq_div_pow]
    omega
  have low : (v.setWidth 16).toNat = v.toNat % 2 ^ 16 := BitVec.toNat_setWidth ..
  rw [itoolValue, high, low]
  by_cases sign : v.toNat < 2 ^ 31
  · have clear : (v.extractLsb' 16 16).msb = false := by
      rw [BitVec.msb_eq_decide, high, decide_eq_false_iff_not]
      omega
    rw [BitVec.sshiftRight_eq_of_msb_false clear, BitVec.toNat_ushiftRight, high,
      Nat.shiftRight_eq_div_pow]
    omega
  · have set : (v.extractLsb' 16 16).msb = true := by
      rw [BitVec.msb_eq_decide, high, decide_eq_true_iff]
      omega
    rw [BitVec.sshiftRight_eq_of_msb_true set, BitVec.toNat_not, BitVec.toNat_ushiftRight,
      BitVec.toNat_not, high, Nat.shiftRight_eq_div_pow]
    omega

theorem itool_converts_iff {v : LONGWORD}
    (called : Called c [v.extractLsb' 16 16, v.setWidth 16, buf] 12)
    (apart : BufferApart c buf 11 3 12) :
    (∃ c', Runs itoolCode .rts c c' ∧ Converts c c' buf (numeral 8 11 v.toNat) 12) ↔
      v.toNat < 2 ^ 31 := by
  have below : v.toNat % 8 ^ 11 = v.toNat := Nat.mod_eq_of_lt (Nat.lt_trans v.isLt (by decide))
  obtain ⟨c₁, runs, converts⟩ := itool_runs called apart
  have same : numeral 8 11 v.toNat = numeral 8 11 (itoolValue (v.extractLsb' 16 16) (v.setWidth 16)) ↔
      _ := numeral_inj (by decide) (by decide)
  rw [below, eq_comm (a := v.toNat), itoolValue_iff] at same
  rw [← same]
  constructor
  · rintro ⟨c', runs', converts'⟩
    obtain rfl := runs.unique leaves_rts runs'
    have text := converts.written
    have text' := converts'.written
    rw [numeral_length] at text text'
    exact text'.symm.trans text
  · intro text
    exact ⟨c₁, runs, text ▸ converts⟩

/-- itoo writes every word as its octal digits, itool the longwords whose first
bit is clear. -/
theorem octal_digits_iff {d : Cpu Bytes} {v : LONGWORD} {w buf' : WORD}
    (called : Called c [v.extractLsb' 16 16, v.setWidth 16, buf] 12)
    (apart : BufferApart c buf 11 3 12) (called' : Called d [w, buf'] 10)
    (apart' : BufferApart d buf' 6 2 10) :
    ((∃ c', Runs itoolCode .rts c c' ∧ Converts c c' buf (numeral 8 11 v.toNat) 12 ∧
        value 8 (textAt c'.bus buf 11) = v.toNat) ∧
      ∃ d', Runs itooCode .rts d d' ∧ Converts d d' buf' (numeral 8 6 w.toNat) 10 ∧
        value 8 (textAt d'.bus buf' 6) = w.toNat) ↔ v.toNat < 2 ^ 31 := by
  have back {m : Bytes} {a : ADDRESS} {n k : Nat} (written : textAt m a n = numeral 8 n k)
      (small : k < 8 ^ n) : value 8 (textAt m a n) = k := by
    rw [written, value_numeral (by decide) (by decide), Nat.mod_eq_of_lt small]
  constructor
  · rintro ⟨⟨c', runs, converts, -⟩, -⟩
    exact (itool_converts_iff called apart).mp ⟨c', runs, converts⟩
  · intro small
    obtain ⟨c', runs, converts⟩ := (itool_converts_iff called apart).mpr small
    obtain ⟨d', runs', converts'⟩ := itoo_runs called' apart'
    have text := converts.written
    have text' := converts'.written
    rw [numeral_length] at text text'
    refine ⟨⟨c', runs, converts, back text ?_⟩, d', runs', converts', back text' ?_⟩
    · omega
    · have range := w.isLt
      omega

end Itool

theorem calling_octal : Called (calling [0x1234, 0x5670, 0x2000]) [0x1234, 0x5670, 0x2000] 12 ∧
    BufferApart (calling [0x1234, 0x5670, 0x2000]) 0x2000 11 3 12 ∧
    Called (calling [0xABCD, 0x2000]) [0xABCD, 0x2000] 10 ∧
    BufferApart (calling [0xABCD, 0x2000]) 0x2000 6 2 10 := by
  refine ⟨⟨by decide, by decide, by decide, by decide⟩, ⟨by decide, by decide⟩,
    ⟨by decide, by decide, by decide, by decide⟩, ⟨by decide, by decide⟩⟩

/-- 0x12345670 and 0xABCD, into buffers at 0x2000. -/
theorem octal_digits_sample :
    (∃ c', Runs itoolCode .rts (calling [0x1234, 0x5670, 0x2000]) c' ∧
        Converts (calling [0x1234, 0x5670, 0x2000]) c' 0x2000 (numeral 8 11 0x12345670) 12 ∧
        value 8 (textAt c'.bus 0x2000 11) = 0x12345670) ∧
      ∃ d', Runs itooCode .rts (calling [0xABCD, 0x2000]) d' ∧
        Converts (calling [0xABCD, 0x2000]) d' 0x2000 (numeral 8 6 0xABCD) 10 ∧
        value 8 (textAt d'.bus 0x2000 6) = 0xABCD :=
  (octal_digits_iff (v := 0x12345670) (w := 0xABCD) calling_octal.1 calling_octal.2.1
    calling_octal.2.2.1 calling_octal.2.2.2).mpr (by decide)

/-- The longword 0x80000000 is written as 60000000000. -/
theorem itool_sign :
    Called (calling [0x8000, 0, 0x2000]) [0x8000, 0, 0x2000] 12 ∧
      BufferApart (calling [0x8000, 0, 0x2000]) 0x2000 11 3 12 ∧
      ¬ ∃ c', Runs itoolCode .rts (calling [0x8000, 0, 0x2000]) c' ∧
        Converts (calling [0x8000, 0, 0x2000]) c' 0x2000 (numeral 8 11 0x80000000) 12 := by
  have called : Called (calling [0x8000, 0, 0x2000]) [0x8000, 0, 0x2000] 12 :=
    ⟨by decide, by decide, by decide, by decide⟩
  have apart : BufferApart (calling [0x8000, 0, 0x2000]) 0x2000 11 3 12 := ⟨by decide, by decide⟩
  refine ⟨called, apart, ?_⟩
  intro converts
  have small := (itool_converts_iff (v := 0x80000000) called apart).mp converts
  exact absurd small (by decide)

end Muxx
