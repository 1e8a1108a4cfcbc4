import Muxx.Digits
import Muxx.Lib.Glyphs

/-!
# Hexadecimal digits

itoh and itohb of itoh.s, in their own words. `htab` is the address of their table.
-/

namespace Muxx

open Pdp11

/-- The text at htab. -/
def htabText : List Byte :=
  [0x30, 0x31, 0x32, 0x33, 0x34, 0x35, 0x36, 0x37, 0x38, 0x39, 0x41, 0x42, 0x43, 0x44, 0x45, 0x46]

def hexDigit (d : Nat) : Byte := htabText.getD d 0

/-- Put the digit of the last four bits of r1 below r2, and shift them out. `copy` moves
r1 to r4. -/
def hexGroup (htab : ADDRESS) (copy : Instr) : List Instr := [
  copy,
  .bic (.imm 0b1111111111110000) (.reg .r4),
  .add (.imm htab) (.reg .r4),
  .movb (.deferred .r4) (.dec .r2),
  .ash (.imm (-4)) .r1]

/-- What itoh and itohb have in common: how they load and copy the value, and how many
digits it has. -/
def hexCode (htab : ADDRESS) (load copy : Instr) (digits : WORD) : List Line :=
  procentry true true true 0 ++ [
    .instr (.clr (.reg .r0)),
    .instr load,
    .instr (.mov (.index 6 .r5) (.reg .r2)),
    .instr (.mov (.imm digits) (.reg .r3)),
    .instr (.add (.reg .r3) (.reg .r2)),
    .label 10] ++
  (hexGroup htab copy).map .instr ++ [
    .sob .r3 10] ++
  procexit true true true 0

def itohCode (htab : ADDRESS) : List Line :=
  hexCode htab (.mov (.index 4 .r5) (.reg .r1)) (.mov (.reg .r1) (.reg .r4)) 4

def itohbCode (htab : ADDRESS) : List Line :=
  hexCode htab (.movb (.index 4 .r5) (.reg .r1)) (.movb (.reg .r1) (.reg .r4)) 2

/-- The table is in memory. -/
def Tabulated (htab : ADDRESS) (m : Bytes) : Prop :=
  ∀ d < 16, m (BitVec.ofNat 16 d + htab) = hexDigit d

section Hex
variable {c : Cpu Bytes} {htab p : ADDRESS} {copy load : Instr} {n : Nat}

theorem and_fifteen (w : WORD) : 15#16 &&& w = BitVec.ofNat 16 (w.toNat % 16) := by
  apply BitVec.eq_of_toNat_eq
  rw [BitVec.toNat_and, Nat.and_comm, BitVec.toNat_ofNat]
  refine (Nat.and_two_pow_sub_one_eq_mod _ 4).trans ?_
  show w.toNat % 16 = w.toNat % 16 % 65536
  omega

/-- Bits that the extension of a sign keeps. -/
theorem signExtend_mod (b : Byte) {n : Nat} (within : n ≤ 8) :
    (b.signExtend 16).toNat % 2 ^ n = b.toNat % 2 ^ n := by
  have bits : (b.signExtend 16).extractLsb' 0 n = b.extractLsb' 0 n := by
    apply BitVec.eq_of_getLsbD_eq
    intro i small
    rw [BitVec.getLsbD_extractLsb', BitVec.getLsbD_extractLsb', BitVec.getLsbD_signExtend]
    simp [small, show i < 16 by omega, show i < 8 by omega]
  have same := congrArg BitVec.toNat bits
  rw [BitVec.extractLsb'_toNat, BitVec.extractLsb'_toNat, Nat.shiftRight_zero,
    Nat.shiftRight_zero] at same
  exact same

/-- The instruction copies r1 to r4, at least its low byte. -/
def Copies (copy : Instr) : Prop :=
  ∀ c : Cpu Bytes, ∃ c', copy.exec c = some c' ∧ c'.r4.toNat % 16 = c.r1.toNat % 16 ∧
    c'.bus = c.bus ∧ c'.r1 = c.r1 ∧ c'.r2 = c.r2 ∧ c'.r3 = c.r3 ∧ InFrame c c'

theorem copies_mov : Copies (.mov (.reg .r1) (.reg .r4)) := by
  intro c
  simp [Instr.exec]

theorem copies_movb : Copies (.movb (.reg .r1) (.reg .r4)) := by
  intro c
  have low : ((c.r1.setWidth 8).signExtend 16).toNat % 16 = c.r1.toNat % 16 := by
    refine (signExtend_mod (c.r1.setWidth 8) (n := 4) (by decide)).trans ?_
    rw [BitVec.toNat_setWidth]
    omega
  simp [Instr.exec, Place.readb, Place.writeb, low]

theorem hexGroup_exec (copies : Copies copy) (c : Cpu Bytes) (table : Tabulated htab c.bus) :
    ∃ c', execAll (hexGroup htab copy) c = some c' ∧
      c'.bus = Function.update c.bus (c.r2 + -1) (hexDigit (c.r1.toNat % 16)) ∧
      c'.r1 = c.r1.sshiftRight 4 ∧ c'.r2 = c.r2 + -1 ∧ c'.r3 = c.r3 ∧ InFrame c c' := by
  obtain ⟨c₁, copied, r4, bus, r1, r2, r3, same⟩ := copies c
  have four (w : WORD) : shifted w (count 65532#16) = w.sshiftRight 4 := rfl
  have glyph : c₁.bus (htab + (15#16 &&& c₁.r4)) = hexDigit (c.r1.toNat % 16) := by
    rw [and_fifteen, r4, BitVec.add_comm, bus]
    exact table _ (Nat.mod_lt _ (by decide))
  have rest : ∃ c', execAll (hexGroup htab copy).tail c₁ = some c' ∧
      c'.bus = Function.update c₁.bus (c₁.r2 + -1) (c₁.bus (htab + (15#16 &&& c₁.r4))) ∧
      c'.r1 = c₁.r1.sshiftRight 4 ∧ c'.r2 = c₁.r2 + -1 ∧ c'.r3 = c₁.r3 ∧ InFrame c₁ c' := by
    simp [hexGroup, writeb_bytes, readb_bytes, Place.readb, Place.writeb, four]
  obtain ⟨c', ran, bus', r1', r2', r3', same'⟩ := rest
  refine ⟨c', execAll_cons copied ran, ?_, ?_, ?_, r3'.trans r3, same.trans same'⟩
  · rw [bus', glyph, bus, r2]
  · rw [r1', r1]
  · rw [r2', r2]

/-- The digits of the low bits of r1 go to the buffer, from the last one on. -/
theorem hexGroups_run (load : Instr) (digits : WORD) (copies : Copies copy) (few : n + 1 ≤ 4)
    (three : c.r3 = BitVec.ofNat 16 (n + 1)) (last : c.r2 = p + BitVec.ofNat 16 (n + 1))
    (room : p.toNat + (n + 1) ≤ 65536) (table : Tabulated htab c.bus)
    (apart : ∀ d < 16, ¬ Span p (n + 1) (BitVec.ofNat 16 d + htab)) :
    ∃ c', Reaches (hexCode htab load copy digits) (11, c) (18, c') ∧
      textAt c'.bus p (n + 1) = spell hexDigit 16 (n + 1) c.r1.toNat ∧
      (∀ a, ¬ Span p (n + 1) a → c'.bus a = c.bus a) ∧ InFrame c c' := by
  let I (k : Nat) (d : Cpu Bytes) : Prop := k ≤ n + 1 ∧ d.r3 = BitVec.ofNat 16 k ∧
    d.r1 = c.r1.sshiftRight (4 * (n + 1 - k)) ∧ d.r2 = p + BitVec.ofNat 16 k ∧
    textAt d.bus (p + BitVec.ofNat 16 k) (n + 1 - k) = spell hexDigit 16 (n + 1 - k) c.r1.toNat ∧
    (∀ a, ¬ Span p (n + 1) a → d.bus a = c.bus a) ∧ InFrame c d
  have start : I (n + 1) c := by
    refine ⟨le_rfl, three, ?_, last, ?_, fun a _ => rfl, .refl c⟩
    · rw [Nat.sub_self]; exact (BitVec.sshiftRight_zero ..).symm
    · rw [Nat.sub_self]; rfl
  have turn (k : Nat) (d : Cpu Bytes) (_ : k + 1 < 65536) (before : I (k + 1) d) :
      ∃ d', execAll (hexGroup htab copy) d = some d' ∧ d'.get .r3 = BitVec.ofNat 16 (k + 1) ∧
        I k (d'.set .r3 (BitVec.ofNat 16 k)) := by
    obtain ⟨within, r3, r1, r2, text, other, same⟩ := before
    have table' : Tabulated htab d.bus := fun e small => by
      rw [other _ (apart e small)]
      exact table e small
    obtain ⟨d', ran, bus', r1', r2', r3', same'⟩ := hexGroup_exec copies d table'
    have done : n + 1 - k = n + 1 - (k + 1) + 1 := by omega
    have place : d.r2 + -1 = p + BitVec.ofNat 16 k := by rw [r2]; exact span_end p k
    have digit : d.r1.toNat % 16 = c.r1.toNat / 16 ^ (n + 1 - (k + 1)) % 16 := by
      have bits := sshiftRight_mod c.r1 (s := 4 * (n + 1 - (k + 1))) (n := 4) (by omega)
      rw [pow_mul] at bits
      rw [r1]
      exact bits
    rw [place] at bus' r2'
    refine ⟨d', ran, r3'.trans r3, by omega, rfl, ?_, r2', ?_, ?_, (same.trans same').set (by decide) _⟩
    · show d'.r1 = _
      rw [r1', r1, ← BitVec.sshiftRight_add, done, Nat.mul_add]
    · show textAt d'.bus _ _ = _
      rw [done, textAt_succ, spell_succ, bus', Function.update_self, digit]
      have next : p + BitVec.ofNat 16 k + 1 = p + BitVec.ofNat 16 (k + 1) := by
        rw [BitVec.ofNat_add k 1, ← BitVec.add_assoc]
        rfl
      rw [next, ← text]
      refine congrArg _ (textAt_congr fun i small => Function.update_of_ne ?_ ..)
      bv_omega
    · intro a outside
      show d'.bus a = c.bus a
      rw [bus', Function.update_of_ne, other a outside]
      rintro rfl
      apply outside
      unfold Span
      bv_omega
  obtain ⟨c', ⟨-, -, -, -, text, other, same⟩, reaches⟩ :=
    have labelled : target (hexCode htab load copy digits) 10 = some 11 := rfl
    Reaches.sob labelled ⟨_, rfl⟩ I turn (by omega) start
  refine ⟨c', reaches, ?_, other, same⟩
  simpa using text

/-- What the load puts into r1. -/
def Loads (load : Instr) (v : WORD) (r1 : WORD) : Prop :=
  ∀ c : Cpu Bytes, Bus.read c.bus (c.r5 + 4#16) = some v → (c.r5 + 4#16).toNat % 2 = 0 →
    ∃ c', load.exec c = some c' ∧ c'.r1 = r1 ∧ c'.bus = c.bus ∧ InFrame c c'

theorem loads_mov (v : WORD) : Loads (.mov (.index 4 .r5) (.reg .r1)) v v := by
  intro c value _
  simp [Instr.exec, value]

theorem loads_movb (v : WORD) :
    Loads (.movb (.index 4 .r5) (.reg .r1)) v ((v.setWidth 8).signExtend 16) := by
  intro c value even
  have low : c.bus (c.r5 + 4#16) = v.setWidth 8 := by
    rw [read_bytes even] at value
    rw [← Option.some.inj value, low_word]
  simp [Instr.exec, Place.readb, Place.writeb, readb_bytes, low]

theorem hexCode_runs {v r1 buf : WORD} (copies : Copies copy) (loads : Loads load v r1)
    (few : n + 1 ≤ 4) (called : Called c [v, buf] 10) (apart : BufferApart c buf (n + 1) 2 10)
    (table : Tabulated htab c.bus)
    (beside : ∀ d < 16, ¬ Span buf (n + 1) (BitVec.ofNat 16 d + htab) ∧
      ¬ Span (c.get .sp - 10) 10 (BitVec.ofNat 16 d + htab)) :
    ∃ c', Runs (hexCode htab load copy (BitVec.ofNat 16 (n + 1))) .rts c c' ∧
      Converts c c' buf (spell hexDigit 16 (n + 1) r1.toNat) 10 := by
  have even := called.even
  have top : (c.get .sp).toNat + 6 ≤ 65536 := called.top
  have room : 2 * (0 : WORD).toNat + 10 ≤ (c.get .sp).toNat := called.room
  generalize digits : BitVec.ofNat 16 (n + 1) = few'
  let code := hexCode htab load copy few'
  obtain ⟨c₁, ran₁, built⟩ := procentry_enters true true true 0 (by decide) even room
  have value : Bus.read c₁.bus (c₁.r5 + 4#16) = some v := built.read called room 0 (by simp)
  have buffer : Bus.read c₁.bus (c₁.r5 + 6#16) = some buf := built.read called room 1 (by simp)
  have even' : (c₁.r5 + 4#16).toNat % 2 = 0 := by
    rw [built.r5]
    bv_omega
  obtain ⟨c₂, ran₂, bus₂, r5₂, same₂⟩ : ∃ c₂, (Instr.clr (.reg .r0)).exec c₁ = some c₂ ∧
      c₂.bus = c₁.bus ∧ c₂.r5 = c₁.r5 ∧ InFrame c₁ c₂ := by
    simp [Instr.exec]
  rw [← bus₂, ← r5₂] at value buffer
  obtain ⟨c₃, ran₃, r1₃, bus₃, same₃⟩ := loads c₂ value (r5₂ ▸ even')
  rw [← bus₃, ← same₃.r5] at buffer
  obtain ⟨c₄, ran₄, r1₄, r2₄, r3₄, bus₄, same₄⟩ : ∃ c₄,
      execAll ((instrsAt code 8 3)) c₃ = some c₄ ∧ c₄.r1 = c₃.r1 ∧ c₄.r2 = buf + few' ∧
        c₄.r3 = few' ∧ c₄.bus = c₃.bus ∧ InFrame c₃ c₄ := by
    have text : instrsAt code 8 3 = [.mov (.index 6 .r5) (.reg .r2), .mov (.imm few') (.reg .r3),
      .add (.reg .r3) (.reg .r2)] := rfl
    rw [text]
    simp [buffer, BitVec.add_comm few' buf]
  have bus : c₄.bus = c₁.bus := bus₄.trans (bus₃.trans bus₂)
  have table' : Tabulated htab c₄.bus := by
    intro d small
    rw [bus, built.other]
    · exact table d small
    · exact (beside d small).2
  obtain ⟨c₅, reaches, text, other, same₅⟩ := hexGroups_run load few' copies few
    (r3₄.trans digits.symm) (r2₄.trans (by rw [digits])) apart.top table'
    fun d small => (beside d small).1
  have body : InFrame c₁ c₅ := same₂.trans (same₃.trans (same₄.trans same₅))
  have frame : FrameHeld true true true 0 c c₅.bus :=
    built.frame.kept (by decide) room fun a inside _ => by
      rw [other a (apart.frame (n := 10) le_rfl called.room inside), bus]
  obtain ⟨c₆, pc, leaves, last, restored⟩ := procexit_reaches code 18 ⟨_, rfl⟩ even room built body frame
  refine ⟨c₆, ⟨pc, ?_, last⟩, ?_⟩
  · have entered : Reaches code (0, c) (6, c₁) := Reaches.block ⟨_, rfl⟩ ran₁
    have cleared : Reaches code (6, c₁) (7, c₂) := .one (step_instr rfl ran₂)
    have loaded : Reaches code (7, c₂) (8, c₃) := .one (step_instr rfl ran₃)
    have started : Reaches code (8, c₃) (11, c₄) := Reaches.straight rfl rfl ran₄
    exact entered.trans (cleared.trans (loaded.trans (started.trans (reaches.trans leaves))))
  · rw [r1₄, r1₃] at text
    apply restored.converts built body (by simp) le_rfl called.room
    · rw [spell_length]
      exact text
    · intro a outside _
      rw [spell_length] at outside
      rw [other a outside, bus]

end Hex

/-- The digit that a character stands for. -/
def hexValue (b : Byte) : Nat := htabText.idxOf b

/-- Where a call of itoh or itohb finds its table: clear of the buffer and of the frame. -/
structure TableApart (c : Cpu Bytes) (htab buf : ADDRESS) (size : Nat) : Prop where
  table : Tabulated htab c.bus
  apart : ∀ d < 16, ¬ Span buf size (BitVec.ofNat 16 d + htab) ∧
    ¬ Span (c.get .sp - 10) 10 (BitVec.ofNat 16 d + htab)

/-- itoh writes the four digits of every word and itohb the two of every byte, and
nothing else but their frames; reading the digits back gives the number. -/
theorem hex_digits {c d : Cpu Bytes} {htab v w buf buf' : WORD}
    (called : Called c [v, buf] 10) (apart : BufferApart c buf 4 2 10)
    (table : TableApart c htab buf 4) (called' : Called d [w, buf'] 10)
    (apart' : BufferApart d buf' 2 2 10) (table' : TableApart d htab buf' 2) :
    (∃ c', Runs (itohCode htab) .rts c c' ∧
        Converts c c' buf (spell hexDigit 16 4 v.toNat) 10 ∧
        valueOf hexValue 16 (textAt c'.bus buf 4) = v.toNat) ∧
      ∃ d', Runs (itohbCode htab) .rts d d' ∧
        Converts d d' buf' (spell hexDigit 16 2 (w.setWidth 8).toNat) 10 ∧
        valueOf hexValue 16 (textAt d'.bus buf' 2) = (w.setWidth 8).toNat := by
  have reads : ∀ d < 16, hexValue (hexDigit d) = d := by decide
  constructor
  · obtain ⟨c', ran, converts⟩ := hexCode_runs (n := 3) copies_mov (loads_mov v) (by decide) called
      apart table.table table.apart
    have written := converts.written
    rw [spell_length] at written
    refine ⟨c', ran, converts, ?_⟩
    rw [written, valueOf_spell reads (by decide)]
    exact Nat.mod_eq_of_lt v.isLt
  · obtain ⟨d', ran, converts⟩ := hexCode_runs (n := 1) copies_movb (loads_movb w) (by decide) called'
      apart' table'.table table'.apart
    have written := converts.written
    rw [spell_length] at written
    have low : spell hexDigit 16 2 ((w.setWidth 8).signExtend 16).toNat =
        spell hexDigit 16 2 (w.setWidth 8).toNat := by
      rw [← spell_mod, show 16 ^ 2 = 2 ^ 8 from rfl, signExtend_mod (w.setWidth 8) le_rfl]
      exact spell_mod 2 _
    rw [low] at converts written
    refine ⟨d', ran, converts, ?_⟩
    rw [written, valueOf_spell reads (by decide)]
    exact Nat.mod_eq_of_lt (w.setWidth 8).isLt

/-- A call with the table at 0x3000. -/
def callingTabled (args : List WORD) : Cpu Bytes :=
  { calling args with
    bus := fun a => if 0x3000 ≤ a.toNat ∧ a.toNat < 0x3010 then hexDigit (a.toNat - 0x3000)
      else (calling args).bus a }

/-- 0xABCD and the byte 0xEF of 0x89EF, into buffers at 0x2000. -/
theorem hex_digits_sample :
    (∃ c', Runs (itohCode 0x3000) .rts (callingTabled [0xABCD, 0x2000]) c' ∧
        Converts (callingTabled [0xABCD, 0x2000]) c' 0x2000 (spell hexDigit 16 4 0xABCD) 10 ∧
        valueOf hexValue 16 (textAt c'.bus 0x2000 4) = 0xABCD) ∧
      ∃ d', Runs (itohbCode 0x3000) .rts (callingTabled [0x89EF, 0x2000]) d' ∧
        Converts (callingTabled [0x89EF, 0x2000]) d' 0x2000 (spell hexDigit 16 2 0xEF) 10 ∧
        valueOf hexValue 16 (textAt d'.bus 0x2000 2) = 0xEF := by
  refine hex_digits (v := 0xABCD) (w := 0x89EF)
    ⟨by decide, by decide, by decide, by decide⟩ ⟨by decide, by decide⟩ ⟨?_, by decide⟩
    ⟨by decide, by decide, by decide, by decide⟩ ⟨by decide, by decide⟩ ⟨?_, by decide⟩
  · unfold Tabulated; decide
  · unfold Tabulated; decide

end Muxx
