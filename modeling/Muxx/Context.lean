import Mathlib.Data.Fin.VecNotation
import Mathlib.Tactic.FinCases
import Muxx.Board
import Muxx.Tasks

/-!
# Saving and restoring a task

The routines of muxx_copytrapframe.s and muxx_switch.s, in their own words:

* `copytrapfp_saves`, `copyMMUstate_saves`: what the first two put into the TCB;
* `copytrapfp_cur`: that is what `copytrapfp` puts there in the model of tasks.
-/

namespace Muxx

open Pdp11

/-! ## Offsets into a TCB -/

namespace Offset

abbrev status : WORD := 16
abbrev r0 : WORD := 36
abbrev r1 : WORD := 38
abbrev r2 : WORD := 40
abbrev r3 : WORD := 42
abbrev r4 : WORD := 44
abbrev r5 : WORD := 46
abbrev sp : WORD := 48
abbrev pc : WORD := 50
abbrev psw : WORD := 52
abbrev usp : WORD := 54
abbrev ksp : WORD := 58
abbrev mmuState : WORD := 60

end Offset

/-- TCB.UPAR, TCB.UPDR, TCB.KPAR and TCB.KPDR. -/
def Bank.offset : Bank → WORD
  | .upar => 60
  | .updr => 76
  | .kpar => 92
  | .kpdr => 108

/-- The value of TSK_INIT and TSK_RUN. -/
abbrev tskInit : WORD := 0
abbrev tskRun : WORD := 3

/-! ## MACLIB.s -/

def procentry (saver2 saver3 saver4 : Bool) (locals : WORD) : List Line :=
  [.instr (.mov (.reg .r5) (.dec .sp)), .instr (.mov (.reg .sp) (.reg .r5))] ++
    (if locals = 0 then [] else [.instr (.sub (.imm (2 * locals)) (.reg .sp))]) ++
    (if saver2 then [.instr (.mov (.reg .r2) (.dec .sp))] else []) ++
    (if saver3 then [.instr (.mov (.reg .r3) (.dec .sp))] else []) ++
    (if saver4 then [.instr (.mov (.reg .r4) (.dec .sp))] else []) ++
    [.instr (.mov (.reg .r5) (.dec .sp))]

def procexit (getr2 getr3 getr4 : Bool) (locals : WORD) : List Line :=
  [.instr (.mov (.inc .sp) (.reg .r5))] ++
    (if getr4 then [.instr (.mov (.index (-2 * locals - 6) .r5) (.reg .r4))] else []) ++
    (if getr3 then [.instr (.mov (.index (-2 * locals - 4) .r5) (.reg .r3))] else []) ++
    (if getr2 then [.instr (.mov (.index (-2 * locals - 2) .r5) (.reg .r2))] else []) ++
    [.instr (.mov (.reg .r5) (.reg .sp)), .instr (.mov (.inc .sp) (.reg .r5)), .rts]

/-! ## The routines

`curtcb` is the address of the variable of that name. -/

def copytrapfpCode (curtcb : ADDRESS) : List Line := [
  .instr (.mov (.index 2 .sp) (.reg .r1)),
  .instr (.mov .psw (.dec .sp)),
  .instr (.mov (.imm 0x00E0) .psw),
  .instr (.mov (.abs curtcb) (.reg .r0)),
  .instr (.mov (.index 2 .r1) (.index Offset.r5 .r0)),
  .instr (.mov (.index 4 .r1) (.index Offset.r4 .r0)),
  .instr (.mov (.index 6 .r1) (.index Offset.r3 .r0)),
  .instr (.mov (.index 8 .r1) (.index Offset.r2 .r0)),
  .instr (.mov (.index 10 .r1) (.index Offset.r1 .r0)),
  .instr (.mov (.index 12 .r1) (.index Offset.r0 .r0)),
  .instr (.mov (.index 14 .r1) (.index Offset.pc .r0)),
  .instr (.mov (.index 16 .r1) (.index Offset.psw .r0)),
  .instr (.add (.imm 14) (.reg .r1)),
  .instr (.mov (.reg .r1) (.index Offset.ksp .r0)),
  .instr (.bis (.imm 0b0011000000000000) .psw),
  .instr .mfpdSp,
  .instr (.mov (.inc .sp) (.index Offset.usp .r0)),
  .instr (.mov (.index Offset.psw .r0) (.reg .r1)),
  .instr (.bic (.imm 0x3FFF) (.reg .r1)),
  .instr (.cmp (.imm 0xC000) (.reg .r1)),
  .bne 10,
  .instr (.mov (.index Offset.usp .r0) (.index Offset.sp .r0)),
  .br 99,
  .label 10,
  .label 20,
  .instr (.mov (.index Offset.ksp .r0) (.index Offset.sp .r0)),
  .label 99,
  .instr (.mov (.inc .sp) .psw),
  .rts]

/-- Copy eight registers to where r0 points. -/
def copyBank (bank : Bank) (label : Nat) : List Line := [
  .instr (.mov (.imm bank.base) (.reg .r1)),
  .instr (.mov (.imm 8) (.reg .r2)),
  .label label,
  .instr (.mov (.inc .r1) (.inc .r0)),
  .sob .r2 label]

def copyMMUstateCode (curtcb : ADDRESS) : List Line :=
  procentry true false false 0 ++ [
    .instr (.mov (.abs curtcb) (.reg .r0)),
    .instr (.add (.imm Offset.mmuState) (.reg .r0))] ++
  copyBank .upar 10 ++ copyBank .updr 20 ++ copyBank .kpar 50 ++ copyBank .kpdr 60 ++
  procexit true false false 0

/-- Load eight registers from the TCB in r3. -/
def loadBank (bank : Bank) (label : Nat) : List Line := [
  .instr (.mov (.reg .r3) (.reg .r0)),
  .instr (.mov (.imm bank.base) (.reg .r1)),
  .instr (.mov (.imm 8) (.reg .r2)),
  .label label,
  .instr (.mov (.index bank.offset .r0) (.inc .r1)),
  .instr (.add (.imm 2) (.reg .r0)),
  .sob .r2 label]

def muxxSwitchCode (curtcb : ADDRESS) : List Line := [
    .instr (.mov (.abs curtcb) (.reg .r0)),
    .instr (.mov (.index Offset.r1 .r0) (.reg .r1)),
    .instr (.mov (.index Offset.r2 .r0) (.reg .r2)),
    .instr (.mov (.index Offset.r3 .r0) (.reg .r3)),
    .instr (.mov (.index Offset.r4 .r0) (.reg .r4)),
    .instr (.mov (.index Offset.r5 .r0) (.reg .r5)),
    .instr (.mov (.index (Bank.offset .kpar + 12) .r0) (.abs (Bank.register .kpar 6))),
    .instr (.mov (.index (Bank.offset .upar + 12) .r0) (.abs (Bank.register .upar 6))),
    .instr (.mov (.index (Bank.offset .kpdr + 12) .r0) (.abs (Bank.register .kpdr 6))),
    .instr (.mov (.index (Bank.offset .updr + 12) .r0) (.abs (Bank.register .updr 6))),
    .instr (.mov (.index Offset.ksp .r0) (.reg .sp)),
    .instr (.cmp (.index Offset.status .r0) (.imm tskInit)),
    .bne 5,
    .instr (.mov (.index Offset.psw .r0) (.dec .sp)),
    .instr (.mov (.index Offset.pc .r0) (.dec .sp)),
    .label 5,
    .instr (.mov (.imm tskRun) (.index Offset.status .r0)),
    .instr (.mov .psw (.dec .sp)),
    .instr (.mov (.imm 0x30E0) .psw),
    .instr (.mov (.index Offset.usp .r0) (.dec .sp)),
    .instr .mtpdSp,
    .instr (.mov (.inc .sp) .psw),
    .instr (.mov (.reg .r3) (.dec .sp)),
    .instr (.mov (.reg .r2) (.dec .sp)),
    .instr (.mov (.reg .r1) (.dec .sp)),
    .instr (.mov (.index Offset.r0 .r0) (.dec .sp)),
    .instr (.mov (.reg .r0) (.reg .r3))] ++
  loadBank .upar 10 ++ loadBank .updr 20 ++ loadBank .kpar 50 ++ loadBank .kpdr 60 ++ [
    .instr (.mov (.inc .sp) (.reg .r0)),
    .instr (.mov (.inc .sp) (.reg .r1)),
    .instr (.mov (.inc .sp) (.reg .r2)),
    .instr (.mov (.inc .sp) (.reg .r3)),
    .rti]

/-- The offsets are those of the fields in the C structures of muxx.h: a TCB
begins with 36 bytes of other fields, then come CPUSTATE and MMUSTATE. -/
example :
    Offset.r0.toNat = [8, 2, 2, 4, 2, 2, 2, 2, 2, 2, 2, 2, 2, 2].sum ∧
      Offset.mmuState.toNat = Offset.r0.toNat + 2 * 12 ∧
      [Bank.upar, .updr, .kpar, .kpdr].map (fun bank => bank.offset.toNat) =
        (List.range 4).map fun i => Offset.mmuState.toNat + 16 * i := by
  decide

/-! ## Where things are -/

/-- The TCB at `tcb` and the variable are resident, and apart. -/
structure TcbPlaced (curtcb tcb : ADDRESS) : Prop where
  cur : Resident curtcb
  even : tcb.toNat % 2 = 0
  high : tcb.toNat + 124 ≤ 0o140000
  apart : curtcb.toNat + 2 ≤ tcb.toNat ∨ tcb.toNat + 124 ≤ curtcb.toNat

section TcbPlaced
variable {curtcb tcb x : ADDRESS}

theorem TcbPlaced.field (h : TcbPlaced curtcb tcb) (within : x.toNat < 124) (even : x.toNat % 2 = 0) :
    Resident (tcb + x) := by
  have base := h.even
  have high := h.high
  constructor <;> bv_omega

theorem TcbPlaced.ne (h : TcbPlaced curtcb tcb) (within : x.toNat < 124) : curtcb ≠ tcb + x := by
  have high := h.high
  have apart := h.apart
  have top := h.cur.high
  bv_omega

end TcbPlaced

/-- The CPU state in a TCB. -/
def cpuStateAt (b : Board) (tcb : ADDRESS) : CPUSTATE where
  gpr i := b.data (tcb + Offset.r0 + BitVec.ofNat 16 (2 * i))
  sp := b.data (tcb + Offset.sp)
  pc := b.data (tcb + Offset.pc)
  psw := b.data (tcb + Offset.psw)
  usp := b.data (tcb + Offset.usp)
  ksp := b.data (tcb + Offset.ksp)

/-- The MMU state in a TCB. -/
def mmuStateAt (b : Board) (tcb : ADDRESS) : MMUSTATE where
  upar i := b.data (tcb + Bank.offset .upar + BitVec.ofNat 16 (2 * i))
  updr i := b.data (tcb + Bank.offset .updr + BitVec.ofNat 16 (2 * i))
  kpar i := b.data (tcb + Bank.offset .kpar + BitVec.ofNat 16 (2 * i))
  kpdr i := b.data (tcb + Bank.offset .kpdr + BitVec.ofNat 16 (2 * i))

/-- The frame at `fp` on the kernel stack. -/
def frameAt (c : Cpu Board) (fp : ADDRESS) : FRAME where
  gpr := ![c.bus.stack (fp + 12), c.bus.stack (fp + 10), c.bus.stack (fp + 8),
    c.bus.stack (fp + 6), c.bus.stack (fp + 4), c.bus.stack (fp + 2)]
  pc := c.bus.stack (fp + 14)
  psw := c.bus.stack (fp + 16)
  ksp := fp + 14
  usp := c.usp

/-- What a routine of the kernel leaves as it was: the stack pointers, the
registers of the MMU, the words of the stack in use, and resident memory except
the bytes from `low` to `high` of the TCB. -/
structure Spares (c c' : Cpu Board) (tcb : ADDRESS) (low high : Nat) : Prop where
  kernel : userMode c'.psw = false
  ksp : c'.ksp = c.ksp
  usp : c'.usp = c.usp
  mmu : c'.bus.mmu = c.bus.mmu
  data : ∀ a, (∀ x : WORD, low ≤ x.toNat → x.toNat < high → a ≠ tcb + x) →
    c'.bus.data a = c.bus.data a
  stack : ∀ a, OnStack a → c.ksp.toNat ≤ a.toNat → c'.bus.stack a = c.bus.stack a

/-! ## copytrapfp -/

/-- At the entry of copytrapfp: the argument is the address of a frame further
up on the stack. -/
structure AtTrap (c : Cpu Board) (curtcb tcb fp : ADDRESS) : Prop where
  kernel : userMode c.psw = false
  placed : TcbPlaced curtcb tcb
  cur : c.bus.data curtcb = tcb
  arg : c.bus.stack (c.ksp + 2#16) = fp
  spEven : c.ksp.toNat % 2 = 0
  fpEven : fp.toNat % 2 = 0
  room : 0o140000 + 4 ≤ c.ksp.toNat
  below : c.ksp.toNat ≤ fp.toNat
  top : fp.toNat + 16 < 0o160000

section Copytrapfp
variable {c : Cpu Board} {curtcb tcb fp x y w : ADDRESS} {b : Board}

theorem AtTrap.sp (h : AtTrap c curtcb tcb fp) (near : x ∈ [2, 0xFFFE, 0xFFFC]) :
    OnStack (c.ksp + x) := by
  have even := h.spEven
  have room := h.room
  have below := h.below
  have top := h.top
  simp only [List.mem_cons, List.not_mem_nil, or_false] at near
  rcases near with rfl | rfl | rfl <;> constructor <;> bv_omega

theorem AtTrap.frame (h : AtTrap c curtcb tcb fp) (within : x.toNat ≤ 16 ∧ x.toNat % 2 = 0) :
    OnStack (fp + x) := by
  have even := h.fpEven
  have room := h.room
  have below := h.below
  have top := h.top
  constructor <;> bv_omega

theorem AtTrap.inFrame (h : AtTrap c curtcb tcb fp) (within : x.toNat ≤ 16) :
    c.ksp.toNat ≤ (fp + x).toNat := by
  have below := h.below
  have top := h.top
  bv_omega

/-- The two words that are pushed lie below the stack in use. -/
theorem AtTrap.setStack (h : AtTrap c curtcb tcb fp) {a : ADDRESS} (onStack : OnStack a)
    (inUse : c.ksp.toNat ≤ a.toNat) (near : y ∈ [0xFFFE, 0xFFFC]) :
    (b.setStack (c.ksp + y) w).stack a = b.stack a := by
  have room := h.room
  have apart : a ≠ c.ksp + y := by
    simp only [List.mem_cons, List.not_mem_nil, or_false] at near
    rcases near with rfl | rfl <;> bv_omega
  rw [setStack_stack (h.sp (List.mem_cons_of_mem _ near)) onStack, if_neg apart]

/-- After the frame and the user stack pointer are in the TCB. The old status
word is on the stack. -/
structure Saving (c c' : Cpu Board) (tcb fp : ADDRESS) : Prop where
  r0 : c'.r0 = tcb
  kernel : userMode c'.psw = false
  ksp : c'.ksp = c.ksp + 65534#16
  usp : c'.usp = c.usp
  mmu : c'.bus.mmu = c.bus.mmu
  top : ∃ f, c'.bus.stack (c.ksp + 65534#16) = status c.psw f
  gpr : ∀ i, (cpuStateAt c'.bus tcb).gpr i = (frameAt c fp).gpr i
  pc : c'.bus.data (tcb + 50#16) = (frameAt c fp).pc
  psw : c'.bus.data (tcb + 52#16) = (frameAt c fp).psw
  uspField : c'.bus.data (tcb + 54#16) = c.usp
  kspField : c'.bus.data (tcb + 58#16) = fp + 14
  data : ∀ a, (∀ x : WORD, 36 ≤ x.toNat → x.toNat < 60 → a ≠ tcb + x) →
    c'.bus.data a = c.bus.data a
  stack : ∀ a, OnStack a → c.ksp.toNat ≤ a.toNat → c'.bus.stack a = c.bus.stack a

/-- Up to the comparison of the saved mode with user mode. -/
theorem copytrapfp_straight (h : AtTrap c curtcb tcb fp) :
    ∃ c', execAll (instrsAt (copytrapfpCode curtcb) 0 20) c = some c' ∧
      c'.flags.z = decide ((frameAt c fp).psw &&& 0xC000 = 0xC000) ∧ Saving c c' tcb fp := by
  have kernel := h.kernel
  have cur := h.cur
  have arg := h.arg
  have readField (x : WORD) (within : x.toNat < 124) (even : x.toNat % 2 = 0) :=
    read_data (h.placed.field within even)
  have writeField (x : WORD) (within : x.toNat < 124) (even : x.toNat % 2 = 0) :=
    write_data (h.placed.field within even)
  have readFrame (x : WORD) (within : x.toNat ≤ 16 ∧ x.toNat % 2 = 0) := read_stack (h.frame within)
  have kept (b : Board) (x y w : WORD) (within : x.toNat ≤ 16 ∧ x.toNat % 2 = 0)
      (near : y ∈ [0xFFFE, 0xFFFC]) : (b.setStack (c.ksp + y) w).stack (fp + x) = b.stack (fp + x) :=
    h.setStack (h.frame within) (h.inFrame within.1) near
  have pushed (b : Board) (y w : WORD) (near : y ∈ [0xFFFE, 0xFFFC]) :
      (b.setStack (c.ksp + y) w).stack (c.ksp + y) = w := by
    rw [setStack_stack (h.sp (List.mem_cons_of_mem _ near)) (h.sp (List.mem_cons_of_mem _ near)),
      if_pos rfl]
  have trap : userMode 224#16 = false := by decide
  simp -implicitDefEqProofs [instrsAt, copytrapfpCode, kernel, trap, read_stack (h.sp _),
    write_stack (h.sp _), read_data h.placed.cur, cur, arg, readField, writeField, readFrame, kept,
    pushed, BitVec.add_assoc]
  constructor
  · show (Flags.difference 0xC000 (0xC000 &&& (frameAt c fp).psw)).z = _
    rw [Flags.difference_z, BitVec.and_comm]
    exact decide_eq_decide.mpr eq_comm
  constructor
  case top =>
    refine ⟨c.flags.move fp, ?_⟩
    simp [setStack_stack (h.sp _) (h.sp _)]
  case gpr =>
    intro i
    fin_cases i <;> simp [cpuStateAt, frameAt, BitVec.add_assoc]
  case kspField => simp [BitVec.add_comm]
  case data =>
    intro a other
    simp [other]
  case stack =>
    intro a onStack inUse
    simp [h.setStack onStack inUse]
  all_goals simp [frameAt, trap]

/-- TCB.SP is no word that the frame gives. -/
theorem Saving.setSp {c' : Cpu Board} (h : Saving c c' tcb fp) (f : Flags) (w : WORD) :
    Saving c { c' with flags := f, bus := c'.bus.setData (tcb + 48#16) w } tcb fp := by
  obtain ⟨r0, kernel, ksp, usp, mmu, top, gpr, pc, psw, uspField, kspField, data, stack⟩ := h
  constructor
  case gpr =>
    intro i
    have kept := gpr i
    fin_cases i <;> simpa [cpuStateAt, BitVec.add_assoc] using kept
  case data =>
    intro a other
    simp [other, data a other]
  all_goals simpa

theorem copytrapfp_branch {c₁ : Cpu Board} (h : AtTrap c curtcb tcb fp) (saving : Saving c c₁ tcb fp)
    (mode : c₁.flags.z = decide ((frameAt c fp).psw &&& 0xC000 = 0xC000)) :
    ∃ c₂, Reaches (copytrapfpCode curtcb) (20, c₁) (26, c₂) ∧ Saving c c₂ tcb fp ∧
      c₂.bus.data (tcb + Offset.sp) =
        if (frameAt c fp).psw &&& 0xC000 = 0xC000 then c.usp else fp + 14 := by
  have readField (x : WORD) (within : x.toNat < 124) (even : x.toNat % 2 = 0) :=
    read_data (h.placed.field within even)
  have writeField (x : WORD) (within : x.toNat < 124) (even : x.toNat % 2 = 0) :=
    write_data (h.placed.field within even)
  have store (pc : Nat) (x w : WORD) (there : (copytrapfpCode curtcb)[pc]? =
      some (.instr (.mov (.index x .r0) (.index Offset.sp .r0))))
      (within : x.toNat < 124 ∧ x.toNat % 2 = 0) (value : c₁.bus.data (tcb + x) = w) :
      ∃ c₂, Reaches (copytrapfpCode curtcb) (pc, c₁) (pc + 1, c₂) ∧ Saving c c₂ tcb fp ∧
        c₂.bus.data (tcb + Offset.sp) = w := by
    refine ⟨_, .one (step_instr there ?_), saving.setSp (c₁.flags.move w) w, by simp⟩
    simp -implicitDefEqProofs [saving.r0, readField x within.1 within.2, writeField, value]
  by_cases user : (frameAt c fp).psw &&& 0xC000 = 0xC000
  · rw [decide_eq_true user] at mode
    obtain ⟨c₂, stored, kept, value⟩ := store 21 Offset.usp c.usp rfl (by decide) saving.uspField
    refine ⟨c₂, ?_, kept, by rw [if_pos user, value]⟩
    have fallThrough : Reaches (copytrapfpCode curtcb) (20, c₁) (21, c₁) := .one (by
      simp [step, copytrapfpCode, mode])
    exact fallThrough.trans (stored.trans (.one rfl))
  · rw [decide_eq_false user] at mode
    obtain ⟨c₂, stored, kept, value⟩ := store 25 Offset.ksp (fp + 14) rfl (by decide) saving.kspField
    refine ⟨c₂, ?_, kept, by rw [if_neg user, value]⟩
    have jump : Reaches (copytrapfpCode curtcb) (20, c₁) (23, c₁) := .one (by
      simp [step, copytrapfpCode, mode, target]
      rfl)
    have labels : Reaches (copytrapfpCode curtcb) (23, c₁) (25, c₁) :=
      (Reaches.one rfl).trans (.one rfl)
    exact jump.trans (labels.trans stored)

/-- The CPU state that the routine makes of a frame. -/
def FRAME.saved (fp : FRAME) : CPUSTATE where
  gpr := fp.gpr
  sp := if fp.psw &&& 0xC000 = 0xC000 then fp.usp else fp.ksp
  pc := fp.pc
  psw := fp.psw
  usp := fp.usp
  ksp := fp.ksp

/-- It is that of the model of tasks. -/
theorem copytrapfp_cur (k : Kernel) (fp : FRAME) : (copytrapfp k fp).cur.cpuState = fp.saved :=
  congrArg TCB.cpuState (k.setTcb_self k.curtcb _)

/-- copytrapfp puts the frame and the user stack pointer into the TCB of the
running task. -/
theorem copytrapfp_saves (h : AtTrap c curtcb tcb fp) :
    ∃ c', Runs (copytrapfpCode curtcb) .rts c c' ∧ Spares c c' tcb 36 60 ∧
      cpuStateAt c'.bus tcb = (frameAt c fp).saved := by
  obtain ⟨c₁, ran, mode, saving₁⟩ := copytrapfp_straight h
  have straight : Reaches (copytrapfpCode curtcb) (0, c) (20, c₁) := .straight rfl rfl ran
  obtain ⟨c₂, branch, saving, sp⟩ := copytrapfp_branch h saving₁ mode
  obtain ⟨f, top⟩ := saving.top
  have popped : (Instr.mov (.inc .sp) .psw).exec c₂ = some
      { c₂ with ksp := c.ksp, psw := status c.psw f, flags := .ofWord (status c.psw f) } := by
    simp -implicitDefEqProofs [saving.kernel, saving.ksp, read_stack (h.sp _), top, BitVec.add_assoc]
  refine ⟨_, ⟨28, straight.trans (branch.trans ((Reaches.one rfl).trans
    (.one (step_instr rfl popped)))), rfl⟩, ?_, ?_⟩
  · exact ⟨by simpa using h.kernel, rfl, saving.usp, saving.mmu, saving.data, saving.stack⟩
  · have gpr : (cpuStateAt c₂.bus tcb).gpr = (frameAt c fp).gpr := funext saving.gpr
    have saved : (frameAt c fp).saved =
        { gpr := (frameAt c fp).gpr, pc := (frameAt c fp).pc, psw := (frameAt c fp).psw
          ksp := fp + 14, usp := c.usp
          sp := if (frameAt c fp).psw &&& 0xC000 = 0xC000 then c.usp else fp + 14 } := rfl
    rw [saved, ← gpr, ← sp, ← saving.pc, ← saving.psw, ← saving.uspField, ← saving.kspField]
    rfl

end Copytrapfp

/-! ## copyMMUstate -/

/-- Eight words from `t` on hold `regs`, and the rest is as in `d`. -/
structure Stored (d d' : ADDRESS → WORD) (t : ADDRESS) (regs : Fin 8 → WORD) (n : Nat) : Prop where
  stored : ∀ i : Fin 8, i < n → d' (t + BitVec.ofNat 16 (2 * i)) = regs i
  other : ∀ a, (∀ i : Fin 8, a ≠ t + BitVec.ofNat 16 (2 * i)) → d' a = d a

section CopyMMUstate
variable {code : List Line} {pc l n k : Nat} {bank : Bank} {c : Cpu Board} {t : ADDRESS}
variable {d d' : ADDRESS → WORD} {regs : Fin 8 → WORD}

theorem cell_inj {i j : Fin 8} (same : t + BitVec.ofNat 16 (2 * i) = t + BitVec.ofNat 16 (2 * j)) :
    i = j := by
  have low := i.isLt
  have low' := j.isLt
  apply Fin.ext
  bv_omega

theorem Stored.next (h : Stored d d' t regs n) (within : n < 8) :
    Stored d (Function.update d' (t + BitVec.ofNat 16 (2 * n)) (regs ⟨n, within⟩)) t regs
      (n + 1) := by
  constructor
  · intro i before
    by_cases last : i = ⟨n, within⟩
    · subst last
      exact Function.update_self ..
    · rw [Function.update_of_ne]
      · exact h.stored i (Nat.lt_of_le_of_ne (Nat.lt_succ_iff.mp before) fun he => last (Fin.ext he))
      · exact fun same => last (cell_inj (j := ⟨n, within⟩) same)
  · intro a apart
    rw [Function.update_of_ne (apart ⟨n, within⟩)]
    exact h.other a apart

theorem after_two (a : ADDRESS) (n : Nat) :
    a + BitVec.ofNat 16 (2 * n) + 2#16 = a + BitVec.ofNat 16 (2 * (n + 1)) := by
  rw [BitVec.add_assoc, Nat.mul_add, BitVec.ofNat_add]

/-- After `k` registers, with `n` to go. -/
def copying (c : Cpu Board) (bank : Bank) (t : ADDRESS) (k n : Nat) (f : Flags)
    (d : ADDRESS → WORD) : Cpu Board :=
  { c with
    r0 := t + BitVec.ofNat 16 (2 * k)
    r1 := bank.base + BitVec.ofNat 16 (2 * k)
    r2 := BitVec.ofNat 16 n
    flags := f
    bus := { c.bus with data := d } }

theorem copying_turn (resident : Resident (t + BitVec.ofNat 16 (2 * k))) (within : k < 8)
    (f : Flags) (d : ADDRESS → WORD) :
    execAll [.mov (.inc .r1) (.inc .r0)] (copying c bank t k n f d) =
      some (copying c bank t (k + 1) n (f.move (c.bus.mmu.bank bank ⟨k, within⟩))
        (Function.update d (t + BitVec.ofNat 16 (2 * k)) (c.bus.mmu.bank bank ⟨k, within⟩))) := by
  have read := read_register bank ⟨k, within⟩ { c.bus with data := d }
  have write := write_data resident { c.bus with data := d }
  simp only [Bank.register] at read write
  simp -implicitDefEqProofs [copying, read, write, after_two]
  rfl

/-- The loop over the registers of a bank. -/
theorem copyBank_loop (labelled : target code l = some pc)
    (there : .label l :: [Instr.mov (.inc .r1) (.inc .r0)].map .instr ++ [.sob .r2 l] <+:
      code.drop pc)
    (resident : ∀ i : Fin 8, Resident (t + BitVec.ofNat 16 (2 * i))) (f : Flags) :
    ∃ f' d, Stored c.bus.data d t (c.bus.mmu.bank bank) 8 ∧
      Reaches code (pc, copying c bank t 0 8 f c.bus.data) (pc + 3, copying c bank t 8 0 f' d) := by
  let left (n : Nat) (c' : Cpu Board) : Prop := ∃ k f d, k + n = 8 ∧
    Stored c.bus.data d t (c.bus.mmu.bank bank) k ∧ c' = copying c bank t k n f d
  have turn (n : Nat) (c' : Cpu Board) (_ : n + 1 < 65536) (before : left (n + 1) c') :
      ∃ c'', execAll [.mov (.inc .r1) (.inc .r0)] c' = some c'' ∧
        c''.get .r2 = BitVec.ofNat 16 (n + 1) ∧ left n (c''.set .r2 (BitVec.ofNat 16 n)) := by
    obtain ⟨k, f, d, count, kept, rfl⟩ := before
    have within : k < 8 := by omega
    refine ⟨_, copying_turn (resident ⟨k, within⟩) within f d, rfl, ?_⟩
    exact ⟨k + 1, _, _, by omega, kept.next within, rfl⟩
  have start : left 8 (copying c bank t 0 8 f c.bus.data) :=
    ⟨0, f, _, rfl, ⟨fun i before => absurd before (Nat.not_lt_zero i), fun a _ => rfl⟩, rfl⟩
  obtain ⟨c', ⟨k, f', d, count, kept, rfl⟩, reaches⟩ :=
    Reaches.sob labelled there left turn (n := 7) (by decide) start
  obtain rfl : k = 8 := by omega
  exact ⟨f', d, kept, reaches⟩

theorem copyBank_copies (text : copyBank bank l <+: code.drop pc)
    (labelled : target code l = some (pc + 2))
    (resident : ∀ i : Fin 8, Resident (t + BitVec.ofNat 16 (2 * i))) (r0 : c.r0 = t) :
    ∃ r1 f d, Stored c.bus.data d t (c.bus.mmu.bank bank) 8 ∧
      Reaches code (pc, c) (pc + 5,
        { c with r0 := t + 16, r1 := r1, r2 := 0, flags := f, bus := { c.bus with data := d } }) := by
  obtain ⟨rest, text⟩ := text
  have entry : [Instr.mov (.imm bank.base) (.reg .r1), .mov (.imm 8) (.reg .r2)].map .instr <+:
      code.drop pc := ⟨_, text⟩
  have ran : execAll [Instr.mov (.imm bank.base) (.reg .r1), .mov (.imm 8) (.reg .r2)] c =
      some (copying c bank t 0 8 (c.flags.move 8) c.bus.data) := by
    simp -implicitDefEqProofs [copying, ← r0]
  have loop : .label l :: [Instr.mov (.inc .r1) (.inc .r0)].map .instr ++ [.sob .r2 l] <+:
      code.drop (pc + 2) := by
    rw [← List.drop_drop, ← text]
    exact ⟨rest, rfl⟩
  obtain ⟨f', d, kept, reaches⟩ := copyBank_loop labelled loop resident (c.flags.move 8)
  exact ⟨_, f', d, kept, (Reaches.block entry ran).trans reaches⟩

/-- At the entry of a routine that works on the TCB of the running task. -/
structure AtEntry (c : Cpu Board) (curtcb tcb : ADDRESS) : Prop where
  kernel : userMode c.psw = false
  placed : TcbPlaced curtcb tcb
  cur : c.bus.data curtcb = tcb
  spEven : c.ksp.toNat % 2 = 0
  room : 0o140000 + 6 ≤ c.ksp.toNat
  top : c.ksp.toNat < 0o160000

/-- The banks in the TCB that have been filled. -/
structure Filled (c : Cpu Board) (tcb : ADDRESS) (banks : List Bank) (d : ADDRESS → WORD) :
    Prop where
  stored : ∀ bank ∈ banks, ∀ i : Fin 8,
    d (tcb + bank.offset + BitVec.ofNat 16 (2 * i)) = c.bus.mmu.bank bank i
  other : ∀ a, (∀ x : WORD, 60 ≤ x.toNat → x.toNat < 124 → a ≠ tcb + x) → d a = c.bus.data a

theorem bank_apart {tcb : ADDRESS} {bank bank' : Bank} (other : bank ≠ bank') (i j : Fin 8) :
    tcb + bank.offset + BitVec.ofNat 16 (2 * i) ≠ tcb + bank'.offset + BitVec.ofNat 16 (2 * j) := by
  have low := i.isLt
  have low' := j.isLt
  cases bank <;> cases bank' <;> simp only [Bank.offset, ne_eq, reduceCtorEq, not_true] at * <;>
    bv_omega

theorem bank_within (bank : Bank) (i : Fin 8) :
    60 ≤ (bank.offset + BitVec.ofNat 16 (2 * i)).toNat ∧
      (bank.offset + BitVec.ofNat 16 (2 * i)).toNat < 124 := by
  revert i
  cases bank <;> decide

theorem TcbPlaced.cell {curtcb tcb : ADDRESS} (placed : TcbPlaced curtcb tcb) (i : Fin 8) :
    Resident (tcb + bank.offset + BitVec.ofNat 16 (2 * i)) := by
  have within := bank_within bank i
  have even : (bank.offset + BitVec.ofNat 16 (2 * i)).toNat % 2 = 0 := by
    revert i
    cases bank <;> decide
  rw [BitVec.add_assoc]
  exact placed.field within.2 even

theorem Filled.next {tcb : ADDRESS} {banks : List Bank} (h : Filled c tcb banks d)
    (new : bank ∉ banks)
    (kept : Stored d d' (tcb + bank.offset) (c.bus.mmu.bank bank) 8) :
    Filled c tcb (bank :: banks) d' := by
  constructor
  · intro bank' mem i
    rcases List.mem_cons.mp mem with rfl | before
    · exact kept.stored i i.isLt
    · have apart : bank' ≠ bank := fun same => new (same ▸ before)
      rw [kept.other _ (bank_apart apart i)]
      exact h.stored bank' before i
  · intro a apart
    rw [kept.other, h.other a apart]
    intro i
    have within := bank_within bank i
    rw [BitVec.add_assoc]
    exact apart _ within.1 within.2

/-- Between two banks. -/
def filling (c : Cpu Board) (r0 r1 r2 : WORD) (f : Flags) (d : ADDRESS → WORD) : Cpu Board :=
  { c with r0 := r0, r1 := r1, r2 := r2, flags := f, bus := { c.bus with data := d } }

theorem fill_bank {curtcb tcb r1 r2 : ADDRESS} {banks : List Bank} (placed : TcbPlaced curtcb tcb)
    (code : List Line) (pc : Nat) (bank : Bank) (new : bank ∉ banks)
    (text : copyBank bank l <+: code.drop pc)
    (labelled : target code l = some (pc + 2)) {f : Flags} (filled : Filled c tcb banks d) :
    ∃ r1' f' d', Filled c tcb (bank :: banks) d' ∧
      Reaches code (pc, filling c (tcb + bank.offset) r1 r2 f d)
        (pc + 5, filling c (tcb + bank.offset + 16) r1' 0 f' d') := by
  obtain ⟨r1', f', d', kept, reaches⟩ :=
    copyBank_copies (c := filling c (tcb + bank.offset) r1 r2 f d) text labelled
      placed.cell rfl
  exact ⟨r1', f', d', filled.next new kept, reaches⟩

theorem fill_banks {curtcb tcb : ADDRESS} (placed : TcbPlaced curtcb tcb) (c : Cpu Board)
    (r1 r2 : WORD) (f : Flags) :
    ∃ r1' f' d, Filled c tcb [.kpdr, .kpar, .updr, .upar] d ∧
      Reaches (copyMMUstateCode curtcb) (6, filling c (tcb + 60) r1 r2 f c.bus.data)
        (26, filling c (tcb + 124) r1' 0 f' d) := by
  have none : Filled c tcb [] c.bus.data :=
    ⟨fun bank mem => absurd mem List.not_mem_nil, fun a _ => rfl⟩
  have step (bank bank' : Bank) (same : bank.offset + 16 = bank'.offset) :
      tcb + bank.offset + 16 = tcb + bank'.offset := by
    rw [BitVec.add_assoc, same]
  obtain ⟨_, _, _, filled, first⟩ := fill_bank placed (copyMMUstateCode curtcb) 6
    .upar (by decide) (by exact ⟨_, rfl⟩) rfl none
  rw [step .upar .updr rfl] at first
  obtain ⟨_, _, _, filled, second⟩ := fill_bank placed (copyMMUstateCode curtcb) 11
    .updr (by decide) (by exact ⟨_, rfl⟩) rfl filled
  rw [step .updr .kpar rfl] at second
  obtain ⟨_, _, _, filled, third⟩ := fill_bank placed (copyMMUstateCode curtcb) 16
    .kpar (by decide) (by exact ⟨_, rfl⟩) rfl filled
  rw [step .kpar .kpdr rfl] at third
  obtain ⟨r1', f', d, filled, fourth⟩ := fill_bank placed (copyMMUstateCode curtcb) 21
    .kpdr (by decide) (by exact ⟨_, rfl⟩) rfl filled
  have last : tcb + Bank.offset .kpdr + 16 = tcb + 124 := by
    rw [BitVec.add_assoc]
    rfl
  rw [last] at fourth
  exact ⟨r1', f', d, filled, first.trans (second.trans (third.trans fourth))⟩

section Service
variable {curtcb tcb x y w : ADDRESS} {b : Board}

theorem AtEntry.sp (h : AtEntry c curtcb tcb) (near : x ∈ [0, 0xFFFE, 0xFFFC, 0xFFFA]) :
    OnStack (c.ksp + x) := by
  have even := h.spEven
  have room := h.room
  have top := h.top
  simp only [List.mem_cons, List.not_mem_nil, or_false] at near
  rcases near with rfl | rfl | rfl | rfl <;> constructor <;> bv_omega

theorem AtEntry.setStack (h : AtEntry c curtcb tcb) {a : ADDRESS} (onStack : OnStack a)
    (inUse : c.ksp.toNat ≤ a.toNat) (near : y ∈ [0xFFFE, 0xFFFC, 0xFFFA]) :
    (b.setStack (c.ksp + y) w).stack a = b.stack a := by
  have room := h.room
  have apart : a ≠ c.ksp + y := by
    simp only [List.mem_cons, List.not_mem_nil, or_false] at near
    rcases near with rfl | rfl | rfl <;> bv_omega
  rw [setStack_stack (h.sp (List.mem_cons_of_mem _ near)) onStack, if_neg apart]

/-- What procentry has pushed, and nothing else. -/
structure Entered (c : Cpu Board) (b : Board) : Prop where
  frame : b.stack (c.ksp + 65530#16) = c.ksp + 65534#16
  r2 : b.stack (c.ksp + 65532#16) = c.r2
  r5 : b.stack (c.ksp + 65534#16) = c.r5
  data : b.data = c.bus.data
  mmu : b.mmu = c.bus.mmu
  stack : ∀ a, OnStack a → c.ksp.toNat ≤ a.toNat → b.stack a = c.bus.stack a

theorem AtEntry.entered (h : AtEntry c curtcb tcb) :
    Entered c (((c.bus.setStack (c.ksp + 65534#16) c.r5).setStack (c.ksp + 65532#16) c.r2).setStack
      (c.ksp + 65530#16) (c.ksp + 65534#16)) := by
  have apart (x y : WORD) (other : x ≠ y) : ¬ c.ksp + x = c.ksp + y := by
    bv_omega
  have read (b : Board) (x y w : WORD) (near : x ∈ [0, 0xFFFE, 0xFFFC, 0xFFFA])
      (near' : y ∈ [0, 0xFFFE, 0xFFFC, 0xFFFA]) :
      (b.setStack (c.ksp + x) w).stack (c.ksp + y) =
        if c.ksp + y = c.ksp + x then w else b.stack (c.ksp + y) :=
    setStack_stack (h.sp near) (h.sp near')
  constructor
  · rw [read _ _ _ _ (by decide) (by decide), if_pos rfl]
  · rw [read _ _ _ _ (by decide) (by decide), if_neg (apart _ _ (by decide)),
      read _ _ _ _ (by decide) (by decide), if_pos rfl]
  · rw [read _ _ _ _ (by decide) (by decide), if_neg (apart _ _ (by decide)),
      read _ _ _ _ (by decide) (by decide), if_neg (apart _ _ (by decide)),
      read _ _ _ _ (by decide) (by decide), if_pos rfl]
  · simp only [setStack_data]
  · simp only [setStack_mmu]
  · intro a onStack inUse
    rw [h.setStack onStack inUse (by decide), h.setStack onStack inUse (by decide),
      h.setStack onStack inUse (by decide)]

theorem withData_self {b : Board} (same : b.data = d) : { b with data := d } = b := by
  subst same
  rfl

theorem copyMMUstate_entry (h : AtEntry c curtcb tcb) :
    ∃ b, Entered c b ∧ execAll (instrsAt (copyMMUstateCode curtcb) 0 6) c =
      some (filling { c with r5 := c.ksp + 65534#16, ksp := c.ksp + 65530#16, bus := b }
        (tcb + 60) c.r1 c.r2 (.sum 60 tcb) b.data) := by
  refine ⟨_, h.entered, ?_⟩
  have kernel := h.kernel
  have cur := h.cur
  have sum : tcb + 60#16 = 60#16 + tcb := BitVec.add_comm ..
  simp only [filling, withData_self]
  simp -implicitDefEqProofs [instrsAt, copyMMUstateCode, procentry, kernel,
    write_stack (h.sp _), read_data h.placed.cur, cur, BitVec.add_assoc, sum]

/-- procexit restores r2 and r5. -/
theorem copyMMUstate_exit (h : AtEntry c curtcb tcb) (entered : Entered c b) (r1 : WORD) (f : Flags)
    (d : ADDRESS → WORD) :
    execAll (instrsAt (copyMMUstateCode curtcb) 26 4)
      (filling { c with r5 := c.ksp + 65534#16, ksp := c.ksp + 65530#16, bus := b }
        (tcb + 124) r1 0 f d) = some
      { c with r0 := tcb + 124, r1 := r1, flags := f.move c.r5, bus := { b with data := d } } := by
  have kernel := h.kernel
  have read (x : WORD) (near : x ∈ [0, 0xFFFE, 0xFFFC, 0xFFFA]) :
      Bus.read { b with data := d } (c.ksp + x) = some (b.stack (c.ksp + x)) :=
    read_stack (h.sp near) _
  have text : instrsAt (copyMMUstateCode curtcb) 26 4 = [.mov (.inc .sp) (.reg .r5),
      .mov (.index 65534#16 .r5) (.reg .r2), .mov (.reg .r5) (.reg .sp),
      .mov (.inc .sp) (.reg .r5)] := rfl
  have at5 : c.ksp + 65530#16 + 2#16 = c.ksp + 65532#16 := BitVec.add_assoc ..
  have at2 : c.ksp + 65534#16 + 65534#16 = c.ksp + 65532#16 := BitVec.add_assoc ..
  have top : c.ksp + 65534#16 + 2#16 = c.ksp := (BitVec.add_assoc ..).trans (BitVec.add_zero _)
  have frame : (Instr.mov (.inc .sp) (.reg .r5)).exec
      (filling { c with r5 := c.ksp + 65534#16, ksp := c.ksp + 65530#16, bus := b }
        (tcb + 124) r1 0 f d) =
      some { c with
        r0 := tcb + 124, r1 := r1, r2 := 0, r5 := c.ksp + 65534#16, ksp := c.ksp + 65532#16
        flags := f.move (c.ksp + 65534#16), bus := { b with data := d } } := by
    simp -implicitDefEqProofs [filling, kernel, read, entered.frame, at5]
  have saved : (Instr.mov (.index 65534#16 .r5) (.reg .r2)).exec
      { c with
        r0 := tcb + 124, r1 := r1, r2 := 0, r5 := c.ksp + 65534#16, ksp := c.ksp + 65532#16
        flags := f.move (c.ksp + 65534#16), bus := { b with data := d } } =
      some { c with
        r0 := tcb + 124, r1 := r1, r5 := c.ksp + 65534#16, ksp := c.ksp + 65532#16
        flags := f.move c.r2, bus := { b with data := d } } := by
    simp -implicitDefEqProofs [read, entered.r2, at2]
  rw [text]
  refine execAll_cons frame (execAll_cons saved ?_)
  simp -implicitDefEqProofs [kernel, read, entered.r5, top]

/-- copyMMUstate puts the registers of the memory management unit into the TCB
of the running task. -/
theorem copyMMUstate_saves (h : AtEntry c curtcb tcb) :
    ∃ c', Runs (copyMMUstateCode curtcb) .rts c c' ∧ Spares c c' tcb 60 124 ∧
      mmuStateAt c'.bus tcb = c.bus.mmu ∧ c'.r2 = c.r2 ∧ c'.r3 = c.r3 ∧ c'.r4 = c.r4 ∧
      c'.r5 = c.r5 := by
  obtain ⟨b, entered, ran⟩ := copyMMUstate_entry h
  let c₁ : Cpu Board := { c with r5 := c.ksp + 65534#16, ksp := c.ksp + 65530#16, bus := b }
  have entry : Reaches (copyMMUstateCode curtcb) (0, c)
      (6, filling c₁ (tcb + 60) c.r1 c.r2 (.sum 60 tcb) b.data) :=
    .straight rfl rfl ran
  obtain ⟨r1, f, d, filled, banks⟩ := fill_banks h.placed c₁ c.r1 c.r2 (.sum 60 tcb)
  have finish : Reaches (copyMMUstateCode curtcb) (26, filling c₁ (tcb + 124) r1 0 f d) (30, _) :=
    .straight rfl rfl (copyMMUstate_exit h entered r1 f d)
  refine ⟨_, ⟨30, entry.trans (banks.trans finish), rfl⟩, ?_, ?_, rfl, rfl, rfl, rfl⟩
  · have other (a : ADDRESS) (apart : ∀ x : WORD, 60 ≤ x.toNat → x.toNat < 124 → a ≠ tcb + x) :
        d a = c.bus.data a := by
      rw [filled.other a apart]
      exact congrFun entered.data a
    exact ⟨h.kernel, rfl, rfl, entered.mmu, other, entered.stack⟩
  · apply MMUSTATE.ext_bank
    intro bank
    funext i
    have stored : d (tcb + bank.offset + BitVec.ofNat 16 (2 * i)) = c.bus.mmu.bank bank i := by
      rw [filled.stored bank (by cases bank <;> decide) i]
      exact congrArg (fun mmu => MMUSTATE.bank mmu bank i) entered.mmu
    rw [← stored]
    cases bank <;> rfl

end Service

end CopyMMUstate

end Muxx
