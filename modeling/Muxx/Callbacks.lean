import Muxx.Frames
import Muxx.Lib.Polling

/-!
# Driver callbacks

The read and write callbacks of the line printer (lptdrv.s) and of the paper tape
(ptpdrv.s), in their own words, with devices that change their registers at any time.
-/

namespace Muxx

open Pdp11

/-! ## The devices -/

def ptpPrs : ADDRESS := 0o177550
def ptpPrb : ADDRESS := 0o177552
def ptpPps : ADDRESS := 0o177554
def ptpPpb : ADDRESS := 0o177556
def lptLps : ADDRESS := 0o177514
def lptLpb : ADDRESS := 0o177516

/-- ERROR, and ERROR with DONE or READY. -/
def deviceError : WORD := 0o100000
def deviceReady : WORD := 0o100200

def einvvalCode : WORD := -6
def errdevCode : WORD := -12
def eeofCode : WORD := -16
def enotsupCode : WORD := -18

/-! ## The routines -/

/-- Load the address of the packet and check its size. -/
def loadPacket : List Line :=
  procentry false false false 0 ++ [
    .instr (.mov (.index 4 .r5) (.reg .r1)),
    .instr (.cmp (.index 12 .r1) (.imm 1)),
    .beq 5,
    .instr (.mov (.imm einvvalCode) (.reg .r0)),
    .br 900,
    .label 5,
    .instr .clc]

/-- Copy the error code to the packet, at 900, and leave, at 999. -/
def storeError : List Line :=
  [ .label 900,
    .instr .sec,
    .instr (.mov (.reg .r0) (.index 2 .r1)),
    .label 999] ++
  procexit false false false 0

/-- ptpwrite and lptwrite for their registers. The label dowrite is 100 here. -/
def writeCode (status buffer : ADDRESS) : List Line :=
  loadPacket ++ [
    .label 10,
    .instr (.bit (.imm deviceReady) (.abs status)),
    .beq 10,
    .instr (.bit (.imm deviceError) (.abs status)),
    .beq 100,
    .instr (.mov (.imm errdevCode) (.reg .r0)),
    .br 900,
    .label 100,
    .instr (.movb (.index 14 .r1) (.abs buffer)),
    .instr (.mov (.imm 1) (.reg .r0)),
    .br 999] ++
  storeError

def ptpwriteCode : List Line := writeCode ptpPps ptpPpb
def lptwriteCode : List Line := writeCode lptLps lptLpb

def ptpreadCode : List Line :=
  loadPacket ++ [
    .instr (.mov (.abs ptpPrs) (.reg .r0)),
    .instr (.bit (.imm deviceError) (.reg .r0)),
    .beq 10,
    .instr (.mov (.imm errdevCode) (.reg .r0)),
    .br 900,
    .label 10,
    .instr (.bis (.imm 1) (.abs ptpPrs)),
    .label 20,
    .instr (.bit (.imm deviceReady) (.abs ptpPrs)),
    .beq 20,
    .bmi 30,
    .instr (.movb (.abs ptpPrb) (.index 14 .r1)),
    .instr (.mov (.imm 1) (.reg .r0)),
    .br 999,
    .label 30,
    .instr (.mov (.imm eeofCode) (.reg .r0))] ++
  storeError

/-- r1 is not loaded. -/
def lptreadCode : List Line :=
  procentry false false false 0 ++ [
    .label 30,
    .instr (.mov (.imm enotsupCode) (.reg .r0))] ++
  storeError

/-! ## Frames below the devices -/

/-- The I/O page, where the devices are. -/
def OnIoPage (D : Devices) : Prop := ∀ a, D.has a = true → 0o160000 ≤ a.toNat

section Apart
variable {D : Devices} {c : Cpu Bytes}

theorem OnIoPage.plain (page : OnIoPage D) {a : ADDRESS} (low : a.toNat < 0o160000) :
    D.has a = false := by
  cases there : D.has a with
  | false => rfl
  | true => exact absurd (page a there) (by omega)

theorem OnIoPage.below (page : OnIoPage D) {a : ADDRESS} (low : a.toNat + 1 < 0o160000) :
    D.has a = false ∧ D.has (a + 1) = false :=
  ⟨page.plain (by omega), page.plain (by bv_omega)⟩

theorem entry_apart (page : OnIoPage D) (even : (c.get .sp).toNat % 2 = 0)
    (room : 4 ≤ (c.get .sp).toNat) (top : (c.get .sp).toNat ≤ 0o160000) :
    ApartBlock D (entryInstrs false false false 0) c := by
  obtain ⟨c₁, pushed, -, sp₁, -⟩ := push_reg (c := c) (r := .r5) (by decide) even
  have low : (c.get .sp + -2).toNat + 1 < 0o160000 := by bv_omega
  refine ⟨⟨trivial, page.below low, trivial⟩, fun d ran => ?_⟩
  cases pushed.symm.trans ran
  refine ⟨⟨trivial, trivial, trivial⟩, fun d ran => ?_⟩
  cases ran
  have low : (c₁.get .sp + -2).toNat + 1 < 0o160000 := by
    rw [sp₁]
    bv_omega
  exact ⟨⟨trivial, page.below low, trivial⟩, fun _ _ => trivial⟩

theorem exit_apart (page : OnIoPage D) {s : ADDRESS} (even : s.toNat % 2 = 0) (room : 4 ≤ s.toNat)
    (top : s.toNat ≤ 0o160000) (sp : c.get .sp = s - 4) (frame : word c.bus (s - 4) = s + -2) :
    ApartBlock D (exitInstrs false false false 0) c := by
  obtain ⟨c₁, popped, -, fp, sp₁, -⟩ := pop_reg (c := c) (r := .r5) (by decide) (by rw [sp]; bv_omega)
  have low : (c.get .sp).toNat + 1 < 0o160000 := by
    rw [sp]
    bv_omega
  refine ⟨⟨page.below low, trivial, trivial⟩, fun d ran => ?_⟩
  cases popped.symm.trans ran
  refine ⟨⟨trivial, trivial, trivial⟩, fun d ran => ?_⟩
  cases ran
  have low : (s + -2).toNat + 1 < 0o160000 := by bv_omega
  have fp : c₁.r5 = s + -2 := by
    rw [← frame, ← sp]
    exact fp
  refine ⟨⟨?_, trivial, trivial⟩, fun _ _ => trivial⟩
  show (Pdp11.Place.mem (Cpu.get (Cpu.set _ .sp c₁.r5) .sp)).Apart D
  rw [get_set, fp]
  exact page.below low

end Apart

theorem movb_exec {c : Cpu Bytes} {s o : Operand} {a b : ADDRESS}
    (source : s.place true c = (.mem a, c))
    (dest : o.place true c = (.mem b, c)) : (Instr.movb s o).exec c = some { c with
      flags := c.flags.move ((c.bus a).signExtend 16), bus := Function.update c.bus b (c.bus a) } := by
  simp only [Instr.exec, source, dest, Pdp11.Place.readb, readb_bytes, bind, Option.bind_some, Pdp11.Place.writeb,
    writeb_bytes, Option.map_some]

/-! ## What the callbacks share -/

/-- A callback is called with the address of a packet, clear of the devices and of
the stack. -/
structure PacketCall (D : Devices) (c : Cpu Bytes) (iopkt : ADDRESS) : Prop where
  called : Called c [iopkt] 10
  page : OnIoPage D
  stack : (c.get .sp).toNat + 4 ≤ 0o160000
  even : iopkt.toNat % 2 = 0
  top : iopkt.toNat + 16 ≤ 0o160000
  apart : iopkt.toNat + 16 + 4 ≤ (c.get .sp).toNat ∨ (c.get .sp).toNat + 4 ≤ iopkt.toNat

theorem PacketCall.packet {D : Devices} {c : Cpu Bytes} {iopkt a : ADDRESS}
    (h : PacketCall D c iopkt) (inside : Span iopkt 16 a) :
    D.has a = false ∧ ¬ Span (c.get .sp - 4) 4 a := by
  have top := h.top
  have room : 10 ≤ (c.get .sp).toNat := h.called.room
  have apart := h.apart
  refine ⟨h.page.plain ?_, fun frame => ?_⟩
  · have := inside.2
    omega
  · obtain ⟨low, high⟩ := (span_below (n := 4) (by omega)).mp frame
    have := inside.1
    have := inside.2
    omega

/-- The packet says that there is one byte. -/
def OneByte (c : Cpu Bytes) (iopkt : ADDRESS) : Prop := word c.bus (iopkt + 12) = 1

/-- Where a callback returns: it has kept the registers but r0 and r1, and the
memory outside its frame, the devices and `region`. -/
structure CallbackKept (D : Devices) (region : ADDRESS → Prop) (c c' : Cpu Bytes) : Prop where
  r2 : c'.r2 = c.r2
  r3 : c'.r3 = c.r3
  r4 : c'.r4 = c.r4
  r5 : c'.r5 = c.r5
  sp : c'.get .sp = c.get .sp
  psw : c'.psw = c.psw
  other : ∀ a, D.has a = false → ¬ region a → ¬ Span (c.get .sp - 4) 4 a → c'.bus a = c.bus a

/-- In the body of a callback the frame is held. -/
structure InBody (D : Devices) (region : ADDRESS → Prop) (c d : Cpu Bytes) : Prop where
  r2 : d.r2 = c.r2
  r3 : d.r3 = c.r3
  r4 : d.r4 = c.r4
  r5 : d.r5 = c.get .sp + -2
  sp : d.get .sp = c.get .sp - 4
  psw : d.psw = c.psw
  frame : FrameHeld false false false 0 c d.bus
  other : ∀ a, D.has a = false → ¬ region a → ¬ Span (c.get .sp - 4) 4 a → d.bus a = c.bus a

/-- The register shows an error at some time. -/
def Shown (D : Devices) (status : ADDRESS) (t t' : Nat) : Prop :=
  ∃ u ≥ t, u < t' ∧ deviceError &&& word (D.regs u) status ≠ 0

/-- The result is an error that the packet has as well, and line `l` was not passed. -/
structure PacketError (l : Nat) (e : WORD) (iopkt : ADDRESS) (pcs : List Nat) (c : Cpu Bytes) :
    Prop where
  result : c.r0 = e
  error : word c.bus (iopkt + 2) = e
  avoided : l ∉ pcs

section Parts
variable {D : Devices} {region : ADDRESS → Prop} {c d d' : Cpu Bytes} {iopkt e : ADDRESS}
variable {code : List Line} {k : Nat}

theorem PacketCall.plain (h : PacketCall D c iopkt) {a : ADDRESS}
    (inside : Span (c.get .sp - 4) 4 a) : D.has a = false := by
  have room : 10 ≤ (c.get .sp).toNat := h.called.room
  have stack := h.stack
  obtain ⟨low, high⟩ := (span_below (n := 4) (by omega)).mp inside
  exact h.page.plain (by omega)

/-- Steps that change r0, r1, the flags and the devices. -/
theorem InBody.next (body : InBody D region c d) (h : PacketCall D c iopkt)
    (regs : d'.r2 = d.r2 ∧ d'.r3 = d.r3 ∧ d'.r4 = d.r4 ∧ InFrame d d') (agree : Agree D d.bus d'.bus) :
    InBody D region c d' := by
  obtain ⟨r2, r3, r4, same⟩ := regs
  refine ⟨r2.trans body.r2, r3.trans body.r3, r4.trans body.r4, same.r5.trans body.r5,
    same.sp.trans body.sp, same.psw.trans body.psw, ?_, ?_⟩
  · exact body.frame.kept (by decide) h.called.room fun a inside _ => agree a (h.plain inside)
  · intro a plain outside below
    rw [agree a plain]
    exact body.other a plain outside below

theorem avoids {l : Nat} {first rest : List Nat} (early : l ∉ first) (late : l ∉ rest) :
    l ∉ first ++ rest := fun mem => (List.mem_append.mp mem).elim early late

theorem above {l n : Nat} {lines : List Nat} (before : ∀ p ∈ lines, p < n) (late : n ≤ l) :
    l ∉ lines := fun mem => absurd (before l mem) (by omega)

theorem below {l n : Nat} {lines : List Nat} (after : ∀ p ∈ lines, n ≤ p) (early : l < n) :
    l ∉ lines := fun mem => absurd (after l mem) (by omega)

/-- The result is set, before a branch to a label. -/
theorem settle_clear {l n : Nat} (load : code[k]? = some (.instr (.mov (.imm e) (.reg .r0))))
    (br : code[k + 1]? = some (.br l)) (labelled : target code l = some n) :
    Plain D code [k, k + 1] (k, d) (n, { d with r0 := e, flags := d.flags.move e }) := by
  refine Plain.step ?_ (step_instr load rfl) (Plain.jump br (fun _ same => by cases same) ?_)
  · intro i there
    cases load.symm.trans there
    exact ⟨trivial, trivial, trivial⟩
  · simp only [step, br, labelled]
    rfl

/-- From 999 on. -/
theorem leave_live (h : PacketCall D c iopkt) (body : InBody D region c d)
    (there : .label 999 :: procexit false false false 0 <+: code.drop k) (t : Nat) :
    ∃ t' c', Live D code [k, k + 1, k + 2, k + 3] (t, k, d) (t', k + 4, c') ∧
      code[k + 4]? = some .rts ∧ c'.r0 = d.r0 ∧ Agree D d.bus c'.bus ∧ CallbackKept D region c c' := by
  have room : 2 * (0 : WORD).toNat + 10 ≤ (c.get .sp).toNat := h.called.room
  have even := h.called.even
  have stack := h.stack
  have sp : d.get .sp = c.get .sp - BitVec.ofNat 16 (frameSize false false false 0) := body.sp
  obtain ⟨c₁, ran, restored⟩ := procexit_leaves even room sp body.frame
  have apart : ApartBlock D (exitInstrs false false false 0) d :=
    exit_apart h.page even (by omega) (by omega) body.sp body.frame.self
  obtain ⟨after, text⟩ := there
  have label : code[k]? = some (.label 999) := by
    rw [← List.head?_drop, ← text]
    rfl
  have exit : (exitInstrs false false false 0).map .instr <+: code.drop (k + 1) := by
    refine ⟨.rts :: after, ?_⟩
    rw [← List.tail_drop, ← text]
    rfl
  have last : code[k + 4]? = some .rts := by
    rw [← List.getElem?_drop, ← text]
    rfl
  have clear : Plain D code [k, k + 1, k + 2, k + 3] (k, d) (k + 4, c₁) :=
    (Plain.label label).trans (Plain.block exit ran apart)
  obtain ⟨m, live, agree⟩ := clear.live (.refl D d.bus) t
  rw [restored.bus] at agree
  refine ⟨_, _, live, last, restored.r0, agree, restored.r2.trans body.r2, restored.r3.trans body.r3,
    restored.r4.trans body.r4, restored.r5, (get_with ..).trans restored.sp,
    restored.psw.trans body.psw, ?_⟩
  intro a plain outside below
  exact (agree a plain).trans (body.other a plain outside below)

/-- From 900 on: r1 has the address whose error field is stored. -/
theorem fail_live (h : PacketCall D c iopkt) (body : InBody D region c d)
    (even : d.r1.toNat % 2 = 0) (low : d.r1.toNat + 4 ≤ 0o160000)
    (covered : ∀ a, Span (d.r1 + 2) 2 a → region a)
    (apart : ∀ a, Span (d.r1 + 2) 2 a → ¬ Span (c.get .sp - 4) 4 a)
    (there : storeError <+: code.drop k) (t : Nat) :
    ∃ t' c', Live D code [k, k + 1, k + 2, k + 3, k + 4, k + 5, k + 6] (t, k, d) (t', k + 7, c') ∧
      code[k + 7]? = some .rts ∧ c'.r0 = d.r0 ∧ word c'.bus (d.r1 + 2) = d.r0 ∧
      (∀ a, D.has a = false → ¬ Span (d.r1 + 2) 2 a → c'.bus a = d.bus a) ∧
      CallbackKept D region c c' := by
  obtain ⟨after, text⟩ := there
  have line (j : Nat) : code[k + j]? = (code.drop k)[j]? := List.getElem?_drop.symm
  have label : code[k]? = some (.label 900) := by rw [← Nat.add_zero k, line, ← text]; rfl
  have sec : code[k + 1]? = some (.instr .sec) := by rw [line, ← text]; rfl
  have store : code[k + 2]? = some (.instr (.mov (.reg .r0) (.index 2 .r1))) := by
    rw [line, ← text]; rfl
  have exit : .label 999 :: procexit false false false 0 <+: code.drop (k + 3) := by
    refine ⟨after, ?_⟩
    rw [← List.drop_drop, ← text]
    rfl
  have even' : (d.r1 + 2#16).toNat % 2 = 0 := by bv_omega
  have below : (d.r1 + 2).toNat + 1 < 0o160000 := by bv_omega
  let d₂ : Cpu Bytes := { d with
    flags := Flags.move { d.flags with c := true } d.r0, bus := setWord d.bus (d.r1 + 2) d.r0 }
  have stored : (Instr.mov (.reg .r0) (.index 2 .r1)).exec
      { d with flags := { d.flags with c := true } } = some d₂ := by
    simp [Instr.exec, write_bytes even', d₂]
  have clear : Plain D code [k, k + 1, k + 2] (k, d) (k + 3, d₂) := by
    refine (Plain.label label).trans (Plain.step ?_ (step_instr sec rfl)
      (Plain.one ?_ (step_instr store stored)))
    · intro i there
      cases sec.symm.trans there
      trivial
    · intro i there
      cases store.symm.trans there
      exact ⟨trivial, h.page.below below, trivial⟩
  have kept {a : ADDRESS} (outside : ¬ Span (d.r1 + 2) 2 a) : d₂.bus a = d.bus a := by
    apply setWord_of_ne
    · rintro rfl
      exact outside ⟨le_rfl, by omega⟩
    · rintro rfl
      apply outside
      unfold Span
      bv_omega
  have body₂ : InBody D region c d₂ := by
    refine ⟨body.r2, body.r3, body.r4, body.r5, body.sp, body.psw, ?_, ?_⟩
    · exact body.frame.kept (by decide) h.called.room fun a inside _ =>
        kept fun packet => apart a packet inside
    · intro a plain outside below
      rw [kept fun packet => outside (covered a packet)]
      exact body.other a plain outside below
  obtain ⟨m, live, agree⟩ := clear.live (.refl D d.bus) t
  have body₃ : InBody D region c { d₂ with bus := m } :=
    body₂.next h ⟨rfl, rfl, rfl, rfl, rfl, rfl⟩ agree
  obtain ⟨t', c', leaves, last, r0, agree', after⟩ := leave_live h body₃ exit (t + 3)
  have all := agree.trans agree'
  refine ⟨t', c', live.trans leaves, last, r0, ?_, ?_, after⟩
  · have low := h.page.below below
    rw [word_congr (all _ low.1) (all _ low.2)]
    exact word_setWord ..
  · intro a plain outside
    rw [all a plain, kept outside]

def sizeInstrs : List Instr :=
  entryInstrs false false false 0 ++ [.mov (.index 4 .r5) (.reg .r1), .cmp (.index 12 .r1) (.imm 1)]

/-- Up to the comparison of the size. -/
theorem size_clear (h : PacketCall D c iopkt) (there : loadPacket <+: code) :
    ∃ d, Plain D code (List.range' 0 5) (0, c) (5, d) ∧ InBody D (fun _ => False) c d ∧
      d.r1 = iopkt ∧ (d.flags.z = true ↔ OneByte c iopkt) := by
  have room : 2 * (0 : WORD).toNat + 10 ≤ (c.get .sp).toNat := h.called.room
  obtain ⟨c₁, entered, built⟩ := procentry_enters false false false 0 (by decide) h.called.even room
  have stack := h.stack
  have arg : Bus.read c₁.bus (c₁.r5 + 4#16) = some iopkt := built.read h.called room 0 Nat.one_pos
  have top := h.top
  have even : (iopkt + 12#16).toNat % 2 = 0 := by
    have := h.even
    bv_omega
  have bottom : (c.get .sp - BitVec.ofNat 16 (frameSize false false false 0)).toNat =
      (c.get .sp).toNat - 4 := toNat_bottom (by decide) room
  have size : word c₁.bus (iopkt + 12#16) = word c.bus (iopkt + 12) := by
    have apart := h.apart
    apply word_congr
    · apply built.other
      rw [Span, bottom, frameSize]
      bv_omega
    · apply built.other
      rw [Span, bottom, frameSize]
      bv_omega
  let c₂ : Cpu Bytes := { c₁ with r1 := iopkt, flags := c₁.flags.move iopkt }
  let c₃ : Cpu Bytes := { c₂ with flags := .difference (word c.bus (iopkt + 12)) 1 }
  have loaded : (Instr.mov (.index 4 .r5) (.reg .r1)).exec c₁ = some c₂ := by
    simp [Instr.exec, arg, c₂]
  have compared : (Instr.cmp (.index 12 .r1) (.imm 1)).exec c₂ = some c₃ := by
    simp [Instr.exec, read_bytes even, size, c₂, c₃]
  have frame : c₁.r5 + 4 = c.get .sp + 2 := by
    rw [built.r5]
    ring
  have low : (c.get .sp + 2).toNat + 1 < 0o160000 := by bv_omega
  have low' : (iopkt + 12).toNat + 1 < 0o160000 := by bv_omega
  have ran : execAll sizeInstrs c = some c₃ :=
    execAll_append entered (execAll_cons loaded (execAll_cons compared rfl))
  have apart : ApartBlock D sizeInstrs c := by
    refine (entry_apart h.page h.called.even (by omega) (by omega)).append fun d ran => ?_
    cases entered.symm.trans ran
    refine ⟨⟨?_, trivial, trivial⟩, fun d ran => ?_⟩
    · show (Pdp11.Place.mem (c₁.r5 + 4)).Apart D
      rw [frame]
      exact h.page.below low
    · cases loaded.symm.trans ran
      exact ⟨⟨h.page.below low', trivial, trivial⟩, fun _ _ => trivial⟩
  obtain ⟨after, text⟩ := there
  have block : sizeInstrs.map .instr <+: code.drop 0 := ⟨_, text⟩
  refine ⟨c₃, Plain.block block ran apart, ⟨?_, ?_, ?_, built.r5, built.sp, built.keeps.psw,
    built.frame, ?_⟩, rfl, ?_⟩
  · exact built.keeps.reg .r2 (by decide) (by decide)
  · exact built.keeps.reg .r3 (by decide) (by decide)
  · exact built.keeps.reg .r4 (by decide) (by decide)
  · intro a _ _ outside
    exact built.other a outside
  · show (Flags.difference _ _).z = true ↔ _
    rw [Flags.difference_z, decide_eq_true_iff]
    rfl

theorem InBody.widen (body : InBody D (fun _ => False) c d) : InBody D region c d :=
  { body with other := fun a plain _ below => body.other a plain not_false below }

/-- A packet of one byte is let through. -/
theorem load_live (h : PacketCall D c iopkt) (there : loadPacket <+: code)
    (labelled : target code 5 = some 8) (one : OneByte c iopkt) (t : Nat) :
    ∃ t' d, Live D code [0, 1, 2, 3, 4, 5, 8, 9] (t, 0, c) (t', 10, d) ∧
      InBody D (fun _ => False) c d ∧ d.r1 = iopkt := by
  obtain ⟨d, clear, body, r1, z⟩ := size_clear h there
  obtain ⟨after, text⟩ := there
  have beq : code[5]? = some (.beq 5) := by rw [← text]; rfl
  have label : code[8]? = some (.label 5) := by rw [← text]; rfl
  have clc : code[9]? = some (.instr .clc) := by rw [← text]; rfl
  have beqs : step code (5, d) = some (8, d) := by
    simp only [step, beq, z.mpr one, labelled]
    rfl
  have rest : Plain D code [5, 8, 9] (5, d) (10, { d with flags := { d.flags with c := false } }) := by
    refine (Plain.jump beq (fun _ same => by cases same) beqs).trans
      ((Plain.label label).trans (Plain.one ?_ (step_instr clc rfl)))
    intro i there
    cases clc.symm.trans there
    trivial
  obtain ⟨m, live, agree⟩ := (clear.trans rest).live (.refl D c.bus) t
  refine ⟨_, _, live, body.next h ?_ agree, r1⟩
  exact ⟨rfl, rfl, rfl, rfl, rfl, rfl⟩

/-- Any other packet is not. -/
theorem load_fails (h : PacketCall D c iopkt) (there : loadPacket <+: code)
    (labelled : target code 900 = some k) (other : ¬ OneByte c iopkt) (t : Nat) :
    ∃ t' d, Live D code [0, 1, 2, 3, 4, 5, 6, 7] (t, 0, c) (t', k, d) ∧
      InBody D (fun _ => False) c d ∧ d.r1 = iopkt ∧ d.r0 = einvvalCode := by
  obtain ⟨d, clear, body, r1, z⟩ := size_clear h there
  obtain ⟨after, text⟩ := there
  have beq : code[5]? = some (.beq 5) := by rw [← text]; rfl
  have load : code[6]? = some (.instr (.mov (.imm einvvalCode) (.reg .r0))) := by rw [← text]; rfl
  have br : code[7]? = some (.br 900) := by rw [← text]; rfl
  have beqs : step code (5, d) = some (6, d) := by
    simp only [step, beq, Bool.eq_false_iff.mpr (mt z.mp other)]
    rfl
  have rest := (Plain.jump beq (fun _ same => by cases same) beqs).trans
    (settle_clear (D := D) (d := d) load br labelled)
  obtain ⟨m, live, agree⟩ := (clear.trans rest).live (.refl D c.bus) t
  refine ⟨_, _, live, body.next h ?_ agree, r1, rfl⟩
  exact ⟨rfl, rfl, rfl, rfl, rfl, rfl⟩

end Parts

/-- Devices that are ready from some time on. -/
def lateDevices : Devices where
  has a := decide (0o160000 ≤ a.toNat)
  regs t a := if t < 100 then 0 else if a.toNat % 2 = 0 then 0x80 else 0

theorem lateDevices_answer {reg : ADDRESS} (even : reg.toNat % 2 = 0) :
    Answers lateDevices reg deviceReady := by
  intro t
  refine ⟨t + 100, by omega, fun i _ => ?_⟩
  have later : ¬ t + 100 + i < 100 := by omega
  have low : (lateDevices.regs (t + 100 + i)) reg = 0x80 := by
    simp only [lateDevices, later, even, if_true, if_false]
  have odd : ¬ (reg + 1).toNat % 2 = 0 := by bv_omega
  have high : (lateDevices.regs (t + 100 + i)) (reg + 1) = 0 := by
    simp only [lateDevices, later, odd, if_false]
  rw [word, low, high]
  decide

/-- A packet of one byte. -/
def sending : Cpu Bytes :=
  { calling [0x2000] with bus := setWord (calling [0x2000]).bus 0x200c 1, r1 := 0x3000 }

theorem sending_packet : PacketCall lateDevices sending 0x2000 where
  called :=
    { even := by decide
      room := by decide
      top := by decide
      arg := by decide }
  page := fun a there => of_decide_eq_true there
  stack := by decide
  even := by decide
  top := by decide
  apart := by decide

/-! ## Writing -/

/-- The byte of the packet goes to a device register. -/
def Sent (D : Devices) (c : Cpu Bytes) (iopkt buffer : ADDRESS) (t : Nat) (d d' : Cpu Bytes) :
    Prop :=
  d'.bus = Function.update (D.seen t d).bus buffer (c.bus (iopkt + 14))

/-- Where ptpwrite and lptwrite return, from time `t` to `t'`, through the lines
`pcs`. -/
inductive ByteSent (D : Devices) (status buffer iopkt : ADDRESS) (c : Cpu Bytes) (t : Nat)
    (pcs : List Nat) (s : Nat × Nat × Cpu Bytes) : Prop
  | byte (one : OneByte c iopkt) (result : s.2.2.r0 = 1)
      (sent : Once D (writeCode status buffer) 18 (Sent D c iopkt buffer) pcs (t, 0, c) s)
      (packet : ∀ a, Span iopkt 16 a → s.2.2.bus a = c.bus a)
  | size (other : ¬ OneByte c iopkt) (refused : PacketError 18 einvvalCode iopkt pcs s.2.2)
  | device (one : OneByte c iopkt) (refused : PacketError 18 errdevCode iopkt pcs s.2.2)
      (shown : Shown D status t s.1)

section Write
variable {D : Devices} {c d : Cpu Bytes} {iopkt status buffer : ADDRESS}
variable {code : List Line} {k : Nat}

/-- Up to the test for errors. -/
theorem ready_live (buffer : ADDRESS) (h : PacketCall D c iopkt) (one : OneByte c iopkt)
    (even : status.toNat % 2 = 0)
    (device : D.has status = true ∧ D.has (status + 1) = true)
    (answers : Answers D status deviceReady) (t : Nat) :
    ∃ pcs u d, Live D (writeCode status buffer) pcs (t, 0, c) (u + 1, 14, d) ∧
      (∀ p ∈ pcs, p < 14) ∧ t ≤ u ∧ InBody D (fun _ => False) c d ∧ d.r1 = iopkt ∧
      d.flags.z = decide (deviceError &&& word (D.regs u) status = 0) := by
  have head : loadPacket <+: writeCode status buffer := ⟨_, rfl⟩
  obtain ⟨t₁, d₁, loads, body₁, r1⟩ := load_live h head rfl one t
  have loop : [.label 10, .instr (.bit (.imm deviceReady) (.abs status)), .beq 10] <+:
      (writeCode status buffer).drop 10 := ⟨_, rfl⟩
  have there : (writeCode status buffer)[13]? =
      some (.instr (.bit (.imm deviceError) (.abs status))) := rfl
  obtain ⟨pcs, u, w, m, polls, -, -, lines, agree⟩ := Live.poll loop rfl even device answers t₁ d₁
  have tests := bit_seen there even
    device u { d₁ with flags := d₁.flags.move (deviceReady &&& w), bus := m }
  have seen : Agree D d₁.bus _ :=
    agree.trans (agree_seen D u { d₁ with flags := d₁.flags.move (deviceReady &&& w), bus := m })
  have all := (loads.trans polls).trans (.step tests (.done _))
  refine ⟨_, u, _, all, ?_, ?_, body₁.next h ?_ seen, r1, rfl⟩
  · intro p mem
    simp only [List.mem_append, List.mem_cons, List.not_mem_nil, or_false] at mem
    rcases mem with (mem | mem) | mem
    · omega
    · have := lines p mem
      omega
    · omega
  · have := (loads.trans polls).time
    omega
  · exact ⟨rfl, rfl, rfl, rfl, rfl, rfl⟩

/-- The byte is sent. -/
theorem send_step (status : ADDRESS) (h : PacketCall D c iopkt) (body : InBody D (fun _ => False) c d)
    (r1 : d.r1 = iopkt) (device : D.has buffer = true) (u : Nat) :
    ∃ d', step (writeCode status buffer) (18, D.seen u d) = some (19, d') ∧
      Sent D c iopkt buffer u d d' ∧ InBody D (fun _ => False) c d' := by
  have send : (writeCode status buffer)[18]? = some (.instr (.movb (.index 14 .r1) (.abs buffer))) :=
    rfl
  have moved := movb_exec (c := D.seen u d) (s := .index 14 .r1) (o := .abs buffer) rfl rfl
  have packet : (D.seen u d).bus (d.r1 + 14) = c.bus (iopkt + 14) := by
    have there := h.packet (a := iopkt + 14) (by have := h.top; unfold Span; bv_omega)
    rw [r1, agree_seen D u d _ there.1, body.other _ there.1 not_false there.2]
  refine ⟨_, step_instr send moved, congrArg (Function.update _ buffer) packet,
    body.next h ⟨rfl, rfl, rfl, rfl, rfl, rfl⟩ ?_⟩
  intro a plain
  have other : a ≠ buffer := by
    rintro rfl
    rw [plain] at device
    cases device
  exact (Function.update_of_ne other ..).trans (agree_seen D u d a plain)

/-- No error: the byte is sent and the callback leaves. -/
theorem sent_live (h : PacketCall D c iopkt) (body : InBody D (fun _ => False) c d)
    (r1 : d.r1 = iopkt) (device : D.has buffer = true) (fine : d.flags.z = true) {t u : Nat}
    {pcs : List Nat} (ready : Live D (writeCode status buffer) pcs (t, 0, c) (u, 14, d))
    (lines : ∀ p ∈ pcs, p < 14) :
    ∃ pcs s, Live D (writeCode status buffer) pcs (t, 0, c) s ∧
      (writeCode status buffer)[s.2.1]? = some .rts ∧ s.2.2.r0 = 1 ∧
      CallbackKept D (fun _ => False) c s.2.2 ∧
      Once D (writeCode status buffer) 18 (Sent D c iopkt buffer) pcs (t, 0, c) s := by
  have beq : (writeCode status buffer)[14]? = some (.beq 100) := rfl
  have label : (writeCode status buffer)[17]? = some (.label 100) := rfl
  have load : (writeCode status buffer)[19]? = some (.instr (.mov (.imm 1) (.reg .r0))) := rfl
  have br : (writeCode status buffer)[20]? = some (.br 999) := rfl
  have hundred : target (writeCode status buffer) 100 = some 17 := rfl
  have out : target (writeCode status buffer) 999 = some 24 := rfl
  have branches : step (writeCode status buffer) (14, d) = some (17, d) := by
    simp only [step, beq, fine, hundred]
    rfl
  have first : Plain D (writeCode status buffer) [14, 17] (14, d) (18, d) :=
    (Plain.jump beq (fun _ same => by cases same) branches).trans (.label label)
  obtain ⟨m, live, agree⟩ := first.live (.refl D d.bus) u
  have body₁ : InBody D (fun _ => False) c { d with bus := m } :=
    body.next h ⟨rfl, rfl, rfl, rfl, rfl, rfl⟩ agree
  obtain ⟨d₂, sends, sent, body₂⟩ := send_step status h body₁ r1 device (u + 2)
  have last := settle_clear (D := D) (d := d₂) load br out
  obtain ⟨m', live', agree'⟩ := last.live (.refl D d₂.bus) (u + 2 + 1)
  have body₃ : InBody D (fun _ => False) c
      { d₂ with r0 := 1, flags := d₂.flags.move 1, bus := m' } :=
    body₂.next h ⟨rfl, rfl, rfl, rfl, rfl, rfl⟩ agree'
  have exit : .label 999 :: procexit false false false 0 <+: (writeCode status buffer).drop 24 :=
    ⟨[], rfl⟩
  obtain ⟨t', c', exits, rts, r0, -, kept⟩ := leave_live h body₃ exit (u + 2 + 1 + 2)
  have fresh : 18 ∉ pcs ++ [14, 17] ∧ 18 ∉ [19, 20] ++ [24, 25, 26, 27] :=
    ⟨avoids (above lines (by decide)) (by decide), by decide⟩
  obtain ⟨all, once⟩ := (ready.trans live).once sends (live'.trans exits) fresh sent
  exact ⟨_, _, all, rts, r0, kept, once⟩

theorem PacketCall.error (h : PacketCall D c iopkt) (a : ADDRESS) (inside : Span (iopkt + 2) 2 a) :
    Span iopkt 16 a := by
  have top := h.top
  unfold Span at inside ⊢
  bv_omega

/-- The error is stored and the callback leaves. -/
theorem refused_live (h : PacketCall D c iopkt) (body : InBody D (fun _ => False) c d)
    (r1 : d.r1 = iopkt) (there : storeError <+: code.drop k) {t u : Nat} {pcs : List Nat}
    (refused : Live D code pcs (t, 0, c) (u, k, d)) :
    ∃ pcs' s, Live D code (pcs ++ pcs') (t, 0, c) s ∧ code[s.2.1]? = some .rts ∧
      s.2.2.r0 = d.r0 ∧ word s.2.2.bus (iopkt + 2) = d.r0 ∧ (∀ p ∈ pcs', k ≤ p) ∧ u ≤ s.1 ∧
      CallbackKept D (Span (iopkt + 2) 2) c s.2.2 := by
  have even := h.even
  have top := h.top
  have body' : InBody D (Span (iopkt + 2) 2) c d := body.widen
  obtain ⟨t', c', leaves, rts, r0, error, -, kept⟩ := fail_live h body' (by rwa [r1])
    (by rw [r1]; omega) (by rw [r1]; exact fun _ inside => inside)
    (by rw [r1]; exact fun a inside => (h.packet (h.error a inside)).2) there u
  rw [r1] at error
  have time := leaves.time
  refine ⟨_, _, refused.trans leaves, rts, r0, error, ?_, ?_, kept⟩
  · intro p mem
    simp only [List.mem_cons, List.not_mem_nil, or_false] at mem
    omega
  · exact Nat.le.intro time.symm

theorem CallbackKept.widen {region region' : ADDRESS → Prop} {c' : Cpu Bytes}
    (kept : CallbackKept D region c c') (wider : ∀ a, region a → region' a) :
    CallbackKept D region' c c' :=
  { kept with other := fun a plain outside below =>
      kept.other a plain (fun inside => outside (wider a inside)) below }

theorem error_clear (wrong : d.flags.z = false) : Plain D (writeCode status buffer) [14, 15, 16]
    (14, d) (21, { d with r0 := errdevCode, flags := d.flags.move errdevCode }) := by
  have beq : (writeCode status buffer)[14]? = some (.beq 100) := rfl
  have load : (writeCode status buffer)[15]? = some (.instr (.mov (.imm errdevCode) (.reg .r0))) := rfl
  have br : (writeCode status buffer)[16]? = some (.br 900) := rfl
  have error : target (writeCode status buffer) 900 = some 21 := rfl
  have falls : step (writeCode status buffer) (14, d) = some (15, d) := by
    simp only [step, beq, wrong]
    rfl
  exact (Plain.jump beq (fun _ same => by cases same) falls).trans (settle_clear load br error)

/-- However the device behaves, as long as it answers, ptpwrite and lptwrite return.
They have sent the byte of the packet once, or the error is in the packet. -/
theorem write_returns (h : PacketCall D c iopkt) (even : status.toNat % 2 = 0)
    (device : D.has status = true ∧ D.has (status + 1) = true) (data : D.has buffer = true)
    (answers : Answers D status deviceReady) (t : Nat) :
    ∃ pcs s, Live D (writeCode status buffer) pcs (t, 0, c) s ∧
      (writeCode status buffer)[s.2.1]? = some .rts ∧ CallbackKept D (Span (iopkt + 2) 2) c s.2.2 ∧
      ByteSent D status buffer iopkt c t pcs s := by
  have head : loadPacket <+: writeCode status buffer := ⟨_, rfl⟩
  have there : storeError <+: (writeCode status buffer).drop 21 := ⟨[], rfl⟩
  by_cases one : OneByte c iopkt
  · obtain ⟨pcs, u, d, ready, lines, late, body, r1, z⟩ := ready_live buffer h one even
      device answers t
    cases fine : d.flags.z with
    | true =>
      obtain ⟨pcs', s, all, rts, r0, kept, once⟩ := sent_live h body r1 data fine ready lines
      refine ⟨pcs', s, all, rts, kept.widen (fun _ => False.elim),
        .byte one r0 once fun a inside => ?_⟩
      exact kept.other a (h.packet inside).1 not_false (h.packet inside).2
    | false =>
      obtain ⟨m, live, agree⟩ := (error_clear fine).live (.refl D d.bus) (u + 1)
      have body₁ : InBody D (fun _ => False) c
          { d with r0 := errdevCode, flags := d.flags.move errdevCode, bus := m } :=
        body.next h ⟨rfl, rfl, rfl, rfl, rfl, rfl⟩ agree
      obtain ⟨pcs', s, all, rts, r0, error, lines', later, kept⟩ :=
        refused_live h body₁ r1 there (ready.trans live)
      refine ⟨_, s, all, rts, kept, .device one ⟨r0, error, ?_⟩ ⟨u, late, ?_, ?_⟩⟩
      · exact avoids (avoids (above lines (by decide)) (by decide)) (below lines' (by decide))
      · exact Nat.lt_of_lt_of_le (by omega) later
      · exact of_decide_eq_false (z.symm.trans fine)
  · obtain ⟨u, d, refused, body, r1, r0⟩ := load_fails h head rfl one t
    obtain ⟨pcs', s, all, rts, r0', error, lines, -, kept⟩ := refused_live h body r1 there refused
    refine ⟨_, s, all, rts, kept, .size one ⟨r0'.trans r0, error.trans r0, ?_⟩⟩
    exact avoids (by decide) (below lines (by decide))

end Write

theorem write_returns_printer : ∃ pcs s, Live lateDevices lptwriteCode pcs (7, 0, sending) s ∧
    lptwriteCode[s.2.1]? = some .rts ∧ CallbackKept lateDevices (Span (0x2000 + 2) 2) sending s.2.2 ∧
    ByteSent lateDevices lptLps lptLpb 0x2000 sending 7 pcs s :=
  write_returns sending_packet (by decide) (by decide) (by decide) (lateDevices_answer (by decide)) 7

/-! ## Reading -/

/-- The reader's byte goes to the packet. -/
def Received (D : Devices) (iopkt : ADDRESS) (b : BYTE) (t : Nat) (d d' : Cpu Bytes) : Prop :=
  D.regs t ptpPrb = b ∧ d'.bus = Function.update (D.seen t d).bus (iopkt + 14) b

/-- Where ptpread returns, from time `t` to `t'`, through the lines `pcs`. -/
inductive ByteRead (D : Devices) (iopkt : ADDRESS) (c : Cpu Bytes) (t : Nat) (pcs : List Nat)
    (s : Nat × Nat × Cpu Bytes) : Prop
  | byte (one : OneByte c iopkt) (result : s.2.2.r0 = 1) (b : BYTE)
      (received : Once D ptpreadCode 21 (Received D iopkt b) pcs (t, 0, c) s)
      (area : s.2.2.bus (iopkt + 14) = b)
      (packet : ∀ a, Span iopkt 16 a → a ≠ iopkt + 14 → s.2.2.bus a = c.bus a)
  | size (other : ¬ OneByte c iopkt) (refused : PacketError 21 einvvalCode iopkt pcs s.2.2)
  | device (one : OneByte c iopkt) (refused : PacketError 21 errdevCode iopkt pcs s.2.2)
      (shown : Shown D ptpPrs t s.1)
  | eof (one : OneByte c iopkt) (refused : PacketError 21 eeofCode iopkt pcs s.2.2)
      (shown : Shown D ptpPrs t s.1)

section Read
variable {D : Devices} {c d : Cpu Bytes} {iopkt : ADDRESS}

/-- Up to the first test for errors. -/
theorem tested_live (h : PacketCall D c iopkt) (one : OneByte c iopkt)
    (device : D.has ptpPrs = true ∧ D.has (ptpPrs + 1) = true) (t : Nat) :
    ∃ pcs u d, Live D ptpreadCode pcs (t, 0, c) (u + 2, 12, d) ∧ (∀ p ∈ pcs, p < 12) ∧ t ≤ u ∧
      InBody D (fun _ => False) c d ∧ d.r1 = iopkt ∧
      d.flags.z = decide (deviceError &&& word (D.regs u) ptpPrs = 0) := by
  have head : loadPacket <+: ptpreadCode := ⟨_, rfl⟩
  obtain ⟨u, d, loads, body, r1⟩ := load_live h head rfl one t
  have load : ptpreadCode[10]? = some (.instr (.mov (.abs ptpPrs) (.reg .r0))) := rfl
  have bit : ptpreadCode[11]? = some (.instr (.bit (.imm deviceError) (.reg .r0))) := rfl
  have shown : Bus.read (D.seen u d).bus ptpPrs = some (word (D.regs u) ptpPrs) := by
    rw [read_bytes (by decide)]
    refine congrArg some (word_congr ?_ ?_)
    · exact if_pos device.1
    · exact if_pos device.2
  let d₁ : Cpu Bytes := { D.seen u d with
    r0 := word (D.regs u) ptpPrs, flags := d.flags.move (word (D.regs u) ptpPrs) }
  have loaded : step ptpreadCode (10, D.seen u d) = some (11, d₁) := by
    apply step_instr load
    simp only [Instr.exec, Operand.place, Pdp11.Place.read, shown, bind, Option.bind_some, Pdp11.Place.write]
    rfl
  have test : Plain D ptpreadCode [11] (11, d₁) (12, { d₁ with
      flags := d₁.flags.move (deviceError &&& word (D.regs u) ptpPrs) }) := by
    refine Plain.one ?_ (step_instr bit rfl)
    intro i there
    cases bit.symm.trans there
    exact ⟨trivial, trivial, trivial⟩
  obtain ⟨m, live, agree⟩ := test.live (.refl D d₁.bus) (u + 1)
  have all := loads.trans (.step loaded live)
  refine ⟨_, u, _, all, by decide, ?_, body.next h ⟨rfl, rfl, rfl, rfl, rfl, rfl⟩ ?_, r1, rfl⟩
  · exact Nat.le.intro loads.time.symm
  · exact (agree_seen D u d).trans agree

/-- The reader is enabled. -/
theorem enable_step (h : PacketCall D c iopkt) (body : InBody D (fun _ => False) c d)
    (device : D.has ptpPrs = true ∧ D.has (ptpPrs + 1) = true) (u : Nat) :
    ∃ d', step ptpreadCode (16, D.seen u d) = some (17, d') ∧ d'.r1 = d.r1 ∧
      InBody D (fun _ => False) c d' := by
  have bis : ptpreadCode[16]? = some (.instr (.bis (.imm 1) (.abs ptpPrs))) := rfl
  have even : ptpPrs.toNat % 2 = 0 := by decide
  generalize ptpPrs = prs at bis even device
  have enabled : (Instr.bis (.imm 1) (.abs prs)).exec (D.seen u d) = some { D.seen u d with
      flags := d.flags.move (1 ||| word (D.seen u d).bus prs),
      bus := setWord (D.seen u d).bus prs (1 ||| word (D.seen u d).bus prs) } := by
    simp only [Instr.exec, Instr.combine, Operand.place, Pdp11.Place.read, read_bytes even, bind,
      Option.bind_some, Pdp11.Place.write, write_bytes even, Option.map_some]
    rfl
  refine ⟨_, step_instr bis enabled, rfl, body.next h ⟨rfl, rfl, rfl, rfl, rfl, rfl⟩ ?_⟩
  intro a plain
  refine (setWord_of_ne ?_ ?_ _).trans (agree_seen D u d a plain)
  · rintro rfl
    cases plain.symm.trans device.1
  · rintro rfl
    cases plain.symm.trans device.2

theorem error_shown {w : WORD} (negative : (deviceReady &&& w).msb = true) : deviceError &&& w ≠ 0 := by
  intro none
  have := congrArg BitVec.msb none
  rw [BitVec.msb_and] at negative this
  exact absurd (negative.symm.trans this) (by decide)

/-- Once the reader shows no error, it is enabled and answers: the byte is read, or
the tape has ended. -/
theorem answered_live (h : PacketCall D c iopkt) (body : InBody D (fun _ => False) c d)
    (r1 : d.r1 = iopkt) (device : D.has ptpPrs = true ∧ D.has (ptpPrs + 1) = true)
    (answers : Answers D ptpPrs deviceReady) (fine : d.flags.z = true) (t : Nat) :
    ∃ pcs u d', Live D ptpreadCode pcs (t, 12, d) (u, 20, d') ∧ 21 ∉ pcs ∧
      InBody D (fun _ => False) c d' ∧ d'.r1 = iopkt ∧ (d'.flags.n = true → Shown D ptpPrs t u) := by
  have beq : ptpreadCode[12]? = some (.beq 10) := rfl
  have label : ptpreadCode[15]? = some (.label 10) := rfl
  have ten : target ptpreadCode 10 = some 15 := rfl
  have branches : step ptpreadCode (12, d) = some (15, d) := by
    simp only [step, beq, fine, ten]
    rfl
  have first : Plain D ptpreadCode [12, 15] (12, d) (16, d) :=
    (Plain.jump beq (fun _ same => by cases same) branches).trans (.label label)
  obtain ⟨m, live, agree⟩ := first.live (.refl D d.bus) t
  have body₁ : InBody D (fun _ => False) c { d with bus := m } :=
    body.next h ⟨rfl, rfl, rfl, rfl, rfl, rfl⟩ agree
  obtain ⟨d₂, enabled, same, body₂⟩ := enable_step h body₁ device (t + 2)
  have loop : [.label 20, .instr (.bit (.imm deviceReady) (.abs ptpPrs)), .beq 20] <+:
      ptpreadCode.drop 17 := ⟨_, rfl⟩
  obtain ⟨pcs, u, w, m', polls, -, ⟨u', late, early, found⟩, lines, agree'⟩ :=
    Live.poll loop rfl (by decide) device answers (t + 3) d₂
  have all := live.trans (.step enabled polls)
  refine ⟨_, u, _, all, ?_, body₂.next h ⟨rfl, rfl, rfl, rfl, rfl, rfl⟩ agree', same.trans r1, ?_⟩
  · intro mem
    simp only [List.mem_append, List.mem_cons, List.not_mem_nil, or_false] at mem
    rcases mem with (mem | mem) | mem | mem
    · exact absurd mem (by decide)
    · exact absurd mem (by decide)
    · exact absurd mem (by decide)
    · exact absurd (lines _ mem).2 (by decide)
  · intro negative
    exact ⟨u', by omega, early, found ▸ error_shown negative⟩

theorem unable_clear (wrong : d.flags.z = false) : Plain D ptpreadCode [12, 13, 14] (12, d)
    (26, { d with r0 := errdevCode, flags := d.flags.move errdevCode }) := by
  have beq : ptpreadCode[12]? = some (.beq 10) := rfl
  have load : ptpreadCode[13]? = some (.instr (.mov (.imm errdevCode) (.reg .r0))) := rfl
  have br : ptpreadCode[14]? = some (.br 900) := rfl
  have falls : step ptpreadCode (12, d) = some (13, d) := by
    simp only [step, beq, wrong]
    rfl
  exact (Plain.jump beq (fun _ same => by cases same) falls).trans (settle_clear load br rfl)

theorem ended_clear (ended : d.flags.n = true) : Plain D ptpreadCode [20, 24, 25] (20, d)
    (26, { d with r0 := eeofCode, flags := d.flags.move eeofCode }) := by
  have bmi : ptpreadCode[20]? = some (.bmi 30) := rfl
  have label : ptpreadCode[24]? = some (.label 30) := rfl
  have load : ptpreadCode[25]? = some (.instr (.mov (.imm eeofCode) (.reg .r0))) := rfl
  have thirty : target ptpreadCode 30 = some 24 := rfl
  have branches : step ptpreadCode (20, d) = some (24, d) := by
    simp only [step, bmi, ended, thirty]
    rfl
  refine (Plain.jump bmi (fun _ same => by cases same) branches).trans ((Plain.label label).trans
    (Plain.one ?_ (step_instr load rfl)))
  intro i there
  cases load.symm.trans there
  exact ⟨trivial, trivial, trivial⟩

/-- The byte is received. -/
theorem receive_step (h : PacketCall D c iopkt) (body : InBody D (fun _ => False) c d)
    (r1 : d.r1 = iopkt) (device : D.has ptpPrb = true) (u : Nat) :
    ∃ d', step ptpreadCode (21, D.seen u d) = some (22, d') ∧
      Received D iopkt (D.regs u ptpPrb) u d d' ∧ InBody D (fun a => a = iopkt + 14) c d' := by
  have receive : ptpreadCode[21]? = some (.instr (.movb (.abs ptpPrb) (.index 14 .r1))) := rfl
  have moved := movb_exec (c := D.seen u d) (s := .abs ptpPrb) (o := .index 14 .r1) rfl rfl
  have shown : (D.seen u d).bus ptpPrb = D.regs u ptpPrb := if_pos device
  have place : d.r1 + 14 = iopkt + 14 := congrArg (· + 14) r1
  have packet := h.packet (a := iopkt + 14) (by have := h.top; unfold Span; bv_omega)
  have other {a : ADDRESS} (plain : D.has a = false) (elsewhere : a ≠ iopkt + 14) :
      Function.update (D.seen u d).bus (d.r1 + 14) ((D.seen u d).bus ptpPrb) a = d.bus a := by
    rw [place]
    exact (Function.update_of_ne elsewhere ..).trans (agree_seen D u d a plain)
  refine ⟨_, step_instr receive moved, ⟨rfl, ?_⟩, body.r2, body.r3, body.r4, body.r5, body.sp,
    body.psw, ?_, ?_⟩
  · rw [← shown, ← place]
    rfl
  · refine body.frame.kept (by decide) h.called.room fun a inside _ => other (h.plain inside) ?_
    rintro rfl
    exact packet.2 inside
  · intro a plain elsewhere below
    exact (other plain elsewhere).trans (body.other a plain not_false below)

theorem received_live (h : PacketCall D c iopkt) (body : InBody D (fun _ => False) c d)
    (r1 : d.r1 = iopkt) (device : D.has ptpPrb = true) (more : d.flags.n = false) {t u : Nat}
    {pcs : List Nat} (answered : Live D ptpreadCode pcs (t, 0, c) (u, 20, d)) (unread : 21 ∉ pcs) :
    ∃ pcs s b, Live D ptpreadCode pcs (t, 0, c) s ∧ ptpreadCode[s.2.1]? = some .rts ∧
      s.2.2.r0 = 1 ∧ CallbackKept D (fun a => a = iopkt + 14) c s.2.2 ∧ s.2.2.bus (iopkt + 14) = b ∧
      Once D ptpreadCode 21 (Received D iopkt b) pcs (t, 0, c) s := by
  have bmi : ptpreadCode[20]? = some (.bmi 30) := rfl
  have load : ptpreadCode[22]? = some (.instr (.mov (.imm 1) (.reg .r0))) := rfl
  have br : ptpreadCode[23]? = some (.br 999) := rfl
  have out : target ptpreadCode 999 = some 29 := rfl
  have falls : step ptpreadCode (20, d) = some (21, d) := by
    simp only [step, bmi, more]
    rfl
  obtain ⟨m, live, agree⟩ := (Plain.jump bmi (fun _ same => by cases same) falls).live (.refl D d.bus) u
  have body₁ : InBody D (fun _ => False) c { d with bus := m } :=
    body.next h ⟨rfl, rfl, rfl, rfl, rfl, rfl⟩ agree
  obtain ⟨d₂, receives, received, body₂⟩ := receive_step h body₁ r1 device (u + 1)
  obtain ⟨m', live', agree'⟩ := (settle_clear load br out).live (.refl D d₂.bus) (u + 1 + 1)
  have body₃ : InBody D (fun a => a = iopkt + 14) c
      { d₂ with r0 := 1, flags := d₂.flags.move 1, bus := m' } :=
    body₂.next h ⟨rfl, rfl, rfl, rfl, rfl, rfl⟩ agree'
  have exit : .label 999 :: procexit false false false 0 <+: ptpreadCode.drop 29 := ⟨[], rfl⟩
  obtain ⟨t', c', exits, rts, r0, kept', kept⟩ := leave_live h body₃ exit (u + 1 + 1 + 2)
  have plain := (h.packet (a := iopkt + 14) (by have := h.top; unfold Span; bv_omega)).1
  have fresh : 21 ∉ pcs ++ [20] ∧ 21 ∉ [22, 23] ++ [29, 30, 31, 32] :=
    ⟨avoids unread (by decide), by decide⟩
  obtain ⟨all, once⟩ := (answered.trans live).once receives (live'.trans exits) fresh received
  refine ⟨_, _, _, all, rts, r0, kept, ?_, once⟩
  refine (kept' _ plain).trans ((agree' _ plain).trans ((congrFun received.2 _).trans ?_))
  exact Function.update_self ..

/-- However the reader behaves, as long as it answers, ptpread returns. It has read
one byte into the packet, or the error is in the packet. -/
theorem ptpread_returns (h : PacketCall D c iopkt)
    (device : D.has ptpPrs = true ∧ D.has (ptpPrs + 1) = true) (data : D.has ptpPrb = true)
    (answers : Answers D ptpPrs deviceReady) (t : Nat) :
    ∃ pcs s, Live D ptpreadCode pcs (t, 0, c) s ∧ ptpreadCode[s.2.1]? = some .rts ∧
      CallbackKept D (fun a => Span (iopkt + 2) 2 a ∨ a = iopkt + 14) c s.2.2 ∧
      ByteRead D iopkt c t pcs s := by
  have head : loadPacket <+: ptpreadCode := ⟨_, rfl⟩
  have there : storeError <+: ptpreadCode.drop 26 := ⟨[], rfl⟩
  by_cases one : OneByte c iopkt
  · obtain ⟨pcs, u, d, tested, lines, late, body, r1, z⟩ := tested_live h one device t
    cases fine : d.flags.z with
    | true =>
      obtain ⟨pcs', u', d', answered, unread, body', r1', shown⟩ :=
        answered_live h body r1 device answers fine (u + 2)
      have reached := tested.trans answered
      have unread : 21 ∉ pcs ++ pcs' := avoids (above lines (by decide)) unread
      cases more : d'.flags.n with
      | false =>
        obtain ⟨pcs, s, b, all, rts, r0, kept, area, once⟩ :=
          received_live h body' r1' data more reached unread
        refine ⟨pcs, s, all, rts, kept.widen fun a here => .inr here,
          .byte one r0 b once area fun a inside other => ?_⟩
        exact kept.other a (h.packet inside).1 other (h.packet inside).2
      | true =>
        obtain ⟨m, live, agree⟩ := (ended_clear more).live (.refl D d'.bus) u'
        have body₁ : InBody D (fun _ => False) c
            { d' with r0 := eeofCode, flags := d'.flags.move eeofCode, bus := m } :=
          body'.next h ⟨rfl, rfl, rfl, rfl, rfl, rfl⟩ agree
        obtain ⟨pcs'', s, all, rts, r0, error, lines', later, kept⟩ :=
          refused_live h body₁ r1' there (reached.trans live)
        obtain ⟨v, after, before, bit⟩ := shown more
        refine ⟨_, s, all, rts, kept.widen fun a inside => .inl inside,
          .eof one ⟨r0, error, ?_⟩ ⟨v, by omega, by omega, bit⟩⟩
        exact avoids (avoids unread (by decide)) (below lines' (by decide))
    | false =>
      obtain ⟨m, live, agree⟩ := (unable_clear fine).live (.refl D d.bus) (u + 2)
      have body₁ : InBody D (fun _ => False) c
          { d with r0 := errdevCode, flags := d.flags.move errdevCode, bus := m } :=
        body.next h ⟨rfl, rfl, rfl, rfl, rfl, rfl⟩ agree
      obtain ⟨pcs', s, all, rts, r0, error, lines', later, kept⟩ :=
        refused_live h body₁ r1 there (tested.trans live)
      refine ⟨_, s, all, rts, kept.widen fun a inside => .inl inside,
        .device one ⟨r0, error, ?_⟩ ⟨u, late, by omega, of_decide_eq_false (z.symm.trans fine)⟩⟩
      exact avoids (avoids (above lines (by decide)) (by decide)) (below lines' (by decide))
  · obtain ⟨u, d, refused, body, r1, r0⟩ := load_fails h head rfl one t
    obtain ⟨pcs', s, all, rts, r0', error, lines, -, kept⟩ := refused_live h body r1 there refused
    refine ⟨_, s, all, rts, kept.widen fun a inside => .inl inside,
      .size one ⟨r0'.trans r0, error.trans r0, ?_⟩⟩
    exact avoids (by decide) (below lines (by decide))

theorem ptpread_returns_late : ∃ pcs s, Live lateDevices ptpreadCode pcs (7, 0, sending) s ∧
    ptpreadCode[s.2.1]? = some .rts ∧
    CallbackKept lateDevices (fun a => Span (0x2000 + 2) 2 a ∨ a = 0x2000 + 14) sending s.2.2 ∧
    ByteRead lateDevices 0x2000 sending 7 pcs s :=
  ptpread_returns sending_packet (by decide) (by decide) (lateDevices_answer (by decide)) 7

/-- The error word of the packet after two bytes of memory have been written. -/
theorem packet_error {c' : Cpu Bytes} (h : PacketCall D c iopkt) (even : c.r1.toNat % 2 = 0)
    (stored : word c'.bus (c.r1 + 2) = enotsupCode) (kept : CallbackKept D (Span (c.r1 + 2) 2) c c') :
    word c'.bus (iopkt + 2) = enotsupCode ↔
      c.r1 = iopkt ∨ word c.bus (iopkt + 2) = enotsupCode := by
  by_cases same : c.r1 = iopkt
  · simp only [← same, stored, true_or]
  have top := h.top
  have packetEven := h.even
  have untouched (a : ADDRESS) (inside : Span (iopkt + 2) 2 a) : c'.bus a = c.bus a := by
    have within : Span iopkt 16 a := by
      unfold Span at inside ⊢
      bv_omega
    refine kept.other a (h.packet within).1 (fun written => same ?_) (h.packet within).2
    unfold Span at inside written
    apply BitVec.eq_of_toNat_eq
    bv_omega
  have error : word c'.bus (iopkt + 2) = word c.bus (iopkt + 2) :=
    word_congr (untouched _ (by unfold Span; bv_omega)) (untouched _ (by unfold Span; bv_omega))
  rw [error, or_iff_right same]

/-- lptread does not load r1: the error goes to the memory that r1 has the address of,
and the packet gets it only if that is its address. -/
theorem lptread_stores (h : PacketCall D c iopkt) (even : c.r1.toNat % 2 = 0)
    (low : c.r1.toNat + 4 ≤ 0o160000) (apart : ∀ a, Span (c.r1 + 2) 2 a → ¬ Span (c.get .sp - 4) 4 a)
    (t : Nat) :
    ∃ pcs s, Live D lptreadCode pcs (t, 0, c) s ∧ lptreadCode[s.2.1]? = some .rts ∧
      s.2.2.r0 = enotsupCode ∧ word s.2.2.bus (c.r1 + 2) = enotsupCode ∧
      CallbackKept D (Span (c.r1 + 2) 2) c s.2.2 ∧
      (word s.2.2.bus (iopkt + 2) = enotsupCode ↔
        c.r1 = iopkt ∨ word c.bus (iopkt + 2) = enotsupCode) := by
  have room : 2 * (0 : WORD).toNat + 10 ≤ (c.get .sp).toNat := h.called.room
  have stack := h.stack
  obtain ⟨d, entered, built⟩ := procentry_enters false false false 0 (by decide) h.called.even room
  have apart' : ApartBlock D (entryInstrs false false false 0) c :=
    entry_apart h.page h.called.even (by omega) (by omega)
  have block : (entryInstrs false false false 0).map .instr <+: lptreadCode.drop 0 := ⟨_, rfl⟩
  have label : lptreadCode[3]? = some (.label 30) := rfl
  have load : lptreadCode[4]? = some (.instr (.mov (.imm enotsupCode) (.reg .r0))) := rfl
  have loads : Plain D lptreadCode [4] (4, d)
      (5, { d with r0 := enotsupCode, flags := d.flags.move enotsupCode }) := by
    refine Plain.one ?_ (step_instr load rfl)
    intro i there
    cases load.symm.trans there
    exact ⟨trivial, trivial, trivial⟩
  obtain ⟨m, live, agree⟩ := ((Plain.block block entered apart').trans
    ((Plain.label label).trans loads)).live (.refl D c.bus) t
  have r1 : d.r1 = c.r1 := built.keeps.reg .r1 (by decide) (by decide)
  have even' := even
  rw [← r1] at even low apart ⊢
  have body : InBody D (fun _ => False) c d :=
    { r2 := built.keeps.reg .r2 (by decide) (by decide)
      r3 := built.keeps.reg .r3 (by decide) (by decide)
      r4 := built.keeps.reg .r4 (by decide) (by decide)
      r5 := built.r5
      sp := built.sp
      psw := built.keeps.psw
      frame := built.frame
      other := fun a _ _ below => built.other a below }
  have body₁ : InBody D (fun _ => False) c
      { d with r0 := enotsupCode, flags := d.flags.move enotsupCode, bus := m } :=
    body.next h ⟨rfl, rfl, rfl, rfl, rfl, rfl⟩ agree
  have there : storeError <+: lptreadCode.drop 5 := ⟨[], rfl⟩
  obtain ⟨t', c', leaves, rts, r0, error, -, kept⟩ := fail_live h body₁.widen even low
    (fun _ inside => inside) apart there (t + 5)
  refine ⟨_, _, live.trans leaves, rts, r0, error, kept, ?_⟩
  rw [r1]
  rw [r1] at error kept
  exact packet_error h even' error kept

theorem lptread_stores_elsewhere : ∃ pcs s, Live lateDevices lptreadCode pcs (7, 0, sending) s ∧
    lptreadCode[s.2.1]? = some .rts ∧ s.2.2.r0 = enotsupCode ∧
    word s.2.2.bus (sending.r1 + 2) = enotsupCode ∧
    CallbackKept lateDevices (Span (sending.r1 + 2) 2) sending s.2.2 ∧
    (word s.2.2.bus (0x2000 + 2) = enotsupCode ↔
      sending.r1 = 0x2000 ∨ word sending.bus (0x2000 + 2) = enotsupCode) := by
  refine lptread_stores sending_packet (by decide) (by decide) (fun a inside frame => ?_) 7
  have low := inside.2
  have high := frame.1
  rw [show (sending.r1 + 2).toNat = 0x3002 by decide] at low
  rw [show (sending.get .sp - 4).toNat = 0x0ffc by decide] at high
  have := inside.1
  rw [show (sending.r1 + 2).toNat = 0x3002 by decide] at this
  have := frame.2
  rw [show (sending.get .sp - 4).toNat = 0x0ffc by decide] at this
  omega

end Read

end Muxx
