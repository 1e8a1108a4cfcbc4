import Muxx.Context

/-!
# Resuming a task

muxx_switch takes the registers of the running task from its TCB, and with the
routines that save them:

* `muxxSwitch_restores`: what is in the registers at the `rti`;
* `context_restored`: the way to the TCB and back.
-/

namespace Muxx

open Pdp11

/-! ## Loading the memory management unit -/

section Load
variable {code : List Line} {pc l n k : Nat} {bank : Bank} {c : Cpu Board} {tcb : ADDRESS}
variable {m m' : MMUSTATE} {f : Flags} {r0 r1 r2 : WORD}

/-- The registers of `bank` below `n` come from the TCB, other banks are as in `m`. -/
structure Loading (b : Board) (tcb : ADDRESS) (bank : Bank) (m m' : MMUSTATE) (n : Nat) : Prop where
  loaded : ∀ i : Fin 8, i < n → m'.bank bank i = (mmuStateAt b tcb).bank bank i
  other : ∀ bank', bank' ≠ bank → m'.bank bank' = m.bank bank'

theorem mmuStateAt_bank (b : Board) (tcb : ADDRESS) (bank : Bank) (i : Fin 8) :
    (mmuStateAt b tcb).bank bank i = b.data (tcb + bank.offset + BitVec.ofNat 16 (2 * i)) := by
  cases bank <;> rfl

theorem Loading.next {b : Board} (h : Loading b tcb bank m m' n) (within : n < 8) :
    Loading b tcb bank m
      (m'.setBank bank ⟨n, within⟩ ((mmuStateAt b tcb).bank bank ⟨n, within⟩)) (n + 1) := by
  constructor
  · intro i before
    rw [bank_setBank]
    by_cases last : i = ⟨n, within⟩
    · rw [if_pos ⟨rfl, last⟩, last]
    · rw [if_neg fun same => last same.2]
      exact h.loaded i (Nat.lt_of_le_of_ne (Nat.lt_succ_iff.mp before) fun he => last (Fin.ext he))
  · intro bank' apart
    funext i
    rw [bank_setBank, if_neg fun same => apart same.1, h.other bank' apart]

/-- After `k` registers, with `n` to go. -/
def loading (c : Cpu Board) (bank : Bank) (tcb : ADDRESS) (k n : Nat) (f : Flags) (m : MMUSTATE) :
    Cpu Board :=
  { c with
    r0 := tcb + BitVec.ofNat 16 (2 * k)
    r1 := bank.base + BitVec.ofNat 16 (2 * k)
    r2 := BitVec.ofNat 16 n
    flags := f
    bus := { c.bus with mmu := m } }

theorem loading_turn (resident : Resident (tcb + bank.offset + BitVec.ofNat 16 (2 * k)))
    (within : k < 8) (f : Flags) (m : MMUSTATE) :
    execAll [.mov (.index bank.offset .r0) (.inc .r1), .add (.imm 2) (.reg .r0)]
        (loading c bank tcb k n f m) =
      some (loading c bank tcb (k + 1) n (.sum 2 (tcb + BitVec.ofNat 16 (2 * k)))
        (m.setBank bank ⟨k, within⟩ ((mmuStateAt c.bus tcb).bank bank ⟨k, within⟩))) := by
  have read := read_data resident { c.bus with mmu := m }
  have write := write_register bank ⟨k, within⟩ { c.bus with mmu := m }
  have cell : tcb + BitVec.ofNat 16 (2 * k) + bank.offset =
      tcb + bank.offset + BitVec.ofNat 16 (2 * k) := add_right_comm ..
  have next : 2#16 + (tcb + BitVec.ofNat 16 (2 * k)) = tcb + BitVec.ofNat 16 (2 * (k + 1)) := by
    rw [BitVec.add_comm, after_two]
  simp only [Bank.register] at write
  rw [mmuStateAt_bank]
  simp -implicitDefEqProofs [loading, cell, read, write, after_two, next]
  rfl

/-- The loop over the registers of a bank. -/
theorem loadBank_loop (labelled : target code l = some pc)
    (there : .label l :: [Instr.mov (.index bank.offset .r0) (.inc .r1),
      .add (.imm 2) (.reg .r0)].map .instr ++ [.sob .r2 l] <+: code.drop pc)
    (resident : ∀ i : Fin 8, Resident (tcb + bank.offset + BitVec.ofNat 16 (2 * i)))
    (f : Flags) (m : MMUSTATE) :
    ∃ f' m', Loading c.bus tcb bank m m' 8 ∧
      Reaches code (pc, loading c bank tcb 0 8 f m) (pc + 4, loading c bank tcb 8 0 f' m') := by
  let left (n : Nat) (c' : Cpu Board) : Prop := ∃ k f m', k + n = 8 ∧
    Loading c.bus tcb bank m m' k ∧ c' = loading c bank tcb k n f m'
  have turn (n : Nat) (c' : Cpu Board) (_ : n + 1 < 65536) (before : left (n + 1) c') :
      ∃ c'', execAll [.mov (.index bank.offset .r0) (.inc .r1), .add (.imm 2) (.reg .r0)] c' =
          some c'' ∧
        c''.get .r2 = BitVec.ofNat 16 (n + 1) ∧ left n (c''.set .r2 (BitVec.ofNat 16 n)) := by
    obtain ⟨k, f, m', count, held, rfl⟩ := before
    have within : k < 8 := by omega
    refine ⟨_, loading_turn (resident ⟨k, within⟩) within f m', rfl, ?_⟩
    exact ⟨k + 1, _, _, by omega, held.next within, rfl⟩
  have start : left 8 (loading c bank tcb 0 8 f m) :=
    ⟨0, f, m, rfl, ⟨fun i before => absurd before (Nat.not_lt_zero i), fun bank' _ => rfl⟩, rfl⟩
  obtain ⟨c', ⟨k, f', m', count, held, rfl⟩, reaches⟩ :=
    Reaches.sob (n := 7) labelled there left turn (by decide) start
  obtain rfl : k = 8 := by omega
  exact ⟨f', m', held, reaches⟩

/-- Between two banks. -/
def refilling (c : Cpu Board) (r0 r1 r2 : WORD) (f : Flags) (m : MMUSTATE) : Cpu Board :=
  { c with r0 := r0, r1 := r1, r2 := r2, flags := f, bus := { c.bus with mmu := m } }

theorem loadBank_loads (text : loadBank bank l <+: code.drop pc)
    (labelled : target code l = some (pc + 3))
    (resident : ∀ i : Fin 8, Resident (tcb + bank.offset + BitVec.ofNat 16 (2 * i)))
    (r3 : c.r3 = tcb) (r0 r1 r2 : WORD) (f : Flags) (m : MMUSTATE) :
    ∃ r0' r1' r2' f' m', Loading c.bus tcb bank m m' 8 ∧
      Reaches code (pc, refilling c r0 r1 r2 f m) (pc + 7, refilling c r0' r1' r2' f' m') := by
  obtain ⟨rest, text⟩ := text
  have entry : [Instr.mov (.reg .r3) (.reg .r0), .mov (.imm bank.base) (.reg .r1),
      .mov (.imm 8) (.reg .r2)].map .instr <+: code.drop pc := ⟨_, text⟩
  have ran : execAll [Instr.mov (.reg .r3) (.reg .r0), .mov (.imm bank.base) (.reg .r1),
      .mov (.imm 8) (.reg .r2)] (refilling c r0 r1 r2 f m) =
        some (loading c bank tcb 0 8 (f.move 8) m) := by
    simp -implicitDefEqProofs [loading, refilling, ← r3]
  have loop : .label l :: [Instr.mov (.index bank.offset .r0) (.inc .r1),
      .add (.imm 2) (.reg .r0)].map .instr ++ [.sob .r2 l] <+: code.drop (pc + 3) := by
    rw [← List.drop_drop, ← text]
    exact ⟨rest, rfl⟩
  obtain ⟨f', m', held, reaches⟩ := loadBank_loop labelled loop resident (f.move 8) m
  exact ⟨_, _, _, f', m', held, (Reaches.block entry ran).trans reaches⟩

/-- The banks that have been loaded. -/
def Loaded (b : Board) (tcb : ADDRESS) (banks : List Bank) (m : MMUSTATE) : Prop :=
  ∀ bank ∈ banks, ∀ i, m.bank bank i = (mmuStateAt b tcb).bank bank i

theorem Loaded.next {b : Board} {banks : List Bank} (h : Loaded b tcb banks m)
    (held : Loading b tcb bank m m' 8) : Loaded b tcb (bank :: banks) m' := by
  intro bank' mem i
  by_cases same : bank' = bank
  · subst same
    exact held.loaded i i.isLt
  · rw [held.other bank' same]
    exact h bank' ((List.mem_cons.mp mem).resolve_left same) i

theorem load_bank {curtcb : ADDRESS} {banks : List Bank} (placed : TcbPlaced curtcb tcb)
    (r3 : c.r3 = tcb) (code : List Line) (pc : Nat) (bank : Bank)
    (text : loadBank bank l <+: code.drop pc)
    (labelled : target code l = some (pc + 3)) (loaded : Loaded c.bus tcb banks m) :
    ∃ r0' r1' r2' f' m', Loaded c.bus tcb (bank :: banks) m' ∧
      Reaches code (pc, refilling c r0 r1 r2 f m) (pc + 7, refilling c r0' r1' r2' f' m') := by
  obtain ⟨r0', r1', r2', f', m', held, reaches⟩ :=
    loadBank_loads text labelled placed.cell r3 r0 r1 r2 f m
  exact ⟨r0', r1', r2', f', m', loaded.next held, reaches⟩

theorem load_banks {curtcb : ADDRESS} (placed : TcbPlaced curtcb tcb) (r3 : c.r3 = tcb) :
    ∃ r0 r1 r2 f, Reaches (muxxSwitchCode curtcb) (27, c)
      (55, refilling c r0 r1 r2 f (mmuStateAt c.bus tcb)) := by
  have none : Loaded c.bus tcb [] c.bus.mmu := fun bank mem => absurd mem List.not_mem_nil
  obtain ⟨_, _, _, _, _, loaded, first⟩ := load_bank placed r3 (muxxSwitchCode curtcb)
    27 .upar (by exact ⟨_, rfl⟩) rfl none
  obtain ⟨_, _, _, _, _, loaded, second⟩ := load_bank placed r3 (muxxSwitchCode curtcb)
    34 .updr (by exact ⟨_, rfl⟩) rfl loaded
  obtain ⟨_, _, _, _, _, loaded, third⟩ := load_bank placed r3 (muxxSwitchCode curtcb)
    41 .kpar (by exact ⟨_, rfl⟩) rfl loaded
  obtain ⟨r0, r1, r2, f, m, loaded, fourth⟩ := load_bank placed r3 (muxxSwitchCode curtcb)
    48 .kpdr (by exact ⟨_, rfl⟩) rfl loaded
  have all : m = mmuStateAt c.bus tcb := by
    apply MMUSTATE.ext_bank
    intro bank
    funext i
    exact loaded bank (by cases bank <;> decide) i
  rw [all] at fourth
  exact ⟨r0, r1, r2, f, first.trans (second.trans (third.trans fourth))⟩

end Load

/-! ## muxx_switch -/

/-- At the entry of muxx_switch: the running task has run before, and its kernel
stack pointer `sp` is on its stack page. -/
structure AtSwitch (c : Cpu Board) (curtcb tcb sp : ADDRESS) : Prop where
  kernel : userMode c.psw = false
  placed : TcbPlaced curtcb tcb
  cur : c.bus.data curtcb = tcb
  started : c.bus.data (tcb + 16#16) ≠ tskInit
  ksp : c.bus.data (tcb + 58#16) = sp
  spEven : sp.toNat % 2 = 0
  room : 0o140000 + 8 ≤ sp.toNat
  top : sp.toNat < 0o160000

section Switch
variable {c : Cpu Board} {curtcb tcb sp x y w : ADDRESS} {b : Board}

theorem AtSwitch.onStack (h : AtSwitch c curtcb tcb sp)
    (near : x ∈ [0, 0xFFFE, 0xFFFC, 0xFFFA, 0xFFF8]) : OnStack (sp + x) := by
  have even := h.spEven
  have room := h.room
  have top := h.top
  simp only [List.mem_cons, List.not_mem_nil, or_false] at near
  rcases near with rfl | rfl | rfl | rfl | rfl <;> constructor <;> bv_omega

theorem AtSwitch.setStack (h : AtSwitch c curtcb tcb sp) {a : ADDRESS} (onStack : OnStack a)
    (inUse : sp.toNat ≤ a.toNat) (near : y ∈ [0xFFFE, 0xFFFC, 0xFFFA, 0xFFF8]) :
    (b.setStack (sp + y) w).stack a = b.stack a := by
  have room := h.room
  have apart : a ≠ sp + y := by
    simp only [List.mem_cons, List.not_mem_nil, or_false] at near
    rcases near with rfl | rfl | rfl | rfl <;> bv_omega
  rw [setStack_stack (h.onStack (List.mem_cons_of_mem _ near)) onStack, if_neg apart]

/-- On the stack of the new task. -/
def onTask (c : Cpu Board) (tcb sp : ADDRESS) (m : MMUSTATE) : Cpu Board :=
  { c with
    r0 := tcb
    r1 := c.bus.data (tcb + 38#16)
    r2 := c.bus.data (tcb + 40#16)
    r3 := c.bus.data (tcb + 42#16)
    r4 := c.bus.data (tcb + 44#16)
    r5 := c.bus.data (tcb + 46#16)
    ksp := sp
    flags := .difference (c.bus.data (tcb + 16#16)) tskInit
    bus := { c.bus with mmu := m } }

/-- Up to the comparison with TSK_INIT. -/
theorem muxxSwitch_head (h : AtSwitch c curtcb tcb sp) :
    ∃ m : MMUSTATE, m.kpar 6 = (mmuStateAt c.bus tcb).kpar 6 ∧
      execAll (instrsAt (muxxSwitchCode curtcb) 0 12) c = some (onTask c tcb sp m) := by
  have readField (x : WORD) (within : x.toNat < 124) (even : x.toNat % 2 = 0) :=
    read_data (h.placed.field within even)
  have kernel := h.kernel
  have cur := h.cur
  have ksp := h.ksp
  let word (x : WORD) : WORD := c.bus.data (tcb + x)
  let m := (((c.bus.mmu.setBank .kpar 6 (word 104#16)).setBank .upar 6 (word 72#16)).setBank .kpdr 6
    (word 120#16)).setBank .updr 6 (word 88#16)
  have page : m.kpar 6 = (mmuStateAt c.bus tcb).kpar 6 := by
    show m.bank .kpar 6 = _
    simp [m, word, bank_setBank, mmuStateAt, Bank.offset, BitVec.add_assoc]
  refine ⟨m, page, ?_⟩
  simp -implicitDefEqProofs [instrsAt, muxxSwitchCode, onTask, readField, Bank.offset,
    write_register, Board.setRegister, read_data h.placed.cur, cur, kernel, ksp, m, word]

/-- The condition codes that are pushed with the status word. -/
def pushedFlags (c : Cpu Board) (tcb : ADDRESS) : Flags :=
  (Flags.difference (c.bus.data (tcb + 16#16)) tskInit).move tskRun

/-- The new status, and the user stack pointer by way of the stack. -/
theorem muxxSwitch_usp (h : AtSwitch c curtcb tcb sp) (m : MMUSTATE) :
    execAll (instrsAt (muxxSwitchCode curtcb) 16 6) (onTask c tcb sp m) = some
      { onTask c tcb sp m with
        usp := c.bus.data (tcb + 54#16)
        psw := status c.psw (pushedFlags c tcb)
        flags := .ofWord (status c.psw (pushedFlags c tcb))
        bus := (((onTask c tcb sp m).bus.setData (tcb + 16#16) tskRun).setStack (sp + 65534#16)
          (status c.psw (pushedFlags c tcb))).setStack (sp + 65532#16)
            (c.bus.data (tcb + 54#16)) } := by
  have readField (x : WORD) (within : x.toNat < 124) (even : x.toNat % 2 = 0) :=
    read_data (h.placed.field within even)
  have writeField (x : WORD) (within : x.toNat < 124) (even : x.toNat % 2 = 0) :=
    write_data (h.placed.field within even)
  have kernel := h.kernel
  have low : userMode 12512#16 = false := by decide
  have user : previousUser 12512#16 = true := by decide
  simp -implicitDefEqProofs [instrsAt, muxxSwitchCode, onTask, readField, writeField, pushedFlags,
      write_stack (h.onStack _), read_stack (h.onStack _), setStack_stack, h.onStack,
      kernel, low, user, BitVec.add_assoc]

/-- The final r0 to r3 are pushed. -/
theorem muxxSwitch_push (h : AtSwitch c curtcb tcb sp) {c₂ : Cpu Board}
    (kernel : userMode c₂.psw = false) (ksp : c₂.ksp = sp) (r0 : c₂.r0 = tcb) :
    execAll (instrsAt (muxxSwitchCode curtcb) 22 5) c₂ = some
      { c₂ with
        r3 := tcb, ksp := sp + 65528#16, flags := c₂.flags.move tcb
        bus := (((c₂.bus.setStack (sp + 65534#16) c₂.r3).setStack (sp + 65532#16) c₂.r2).setStack
          (sp + 65530#16) c₂.r1).setStack (sp + 65528#16) (c₂.bus.data (tcb + 36#16)) } := by
  have readField (x : WORD) (within : x.toNat < 124) (even : x.toNat % 2 = 0) :=
    read_data (h.placed.field within even)
  simp -implicitDefEqProofs [instrsAt, muxxSwitchCode, readField, write_stack (h.onStack _),
    kernel, ksp, r0, BitVec.add_assoc]

/-- And popped after the loops. -/
theorem muxxSwitch_pop (h : AtSwitch c curtcb tcb sp) {c₃ : Cpu Board}
    (kernel : userMode c₃.psw = false) (ksp : c₃.ksp = sp + 65528#16) :
    execAll (instrsAt (muxxSwitchCode curtcb) 55 4) c₃ = some
      { c₃ with
        r0 := c₃.bus.stack (sp + 65528#16), r1 := c₃.bus.stack (sp + 65530#16)
        r2 := c₃.bus.stack (sp + 65532#16), r3 := c₃.bus.stack (sp + 65534#16)
        ksp := sp, flags := c₃.flags.move (c₃.bus.stack (sp + 65534#16)) } := by
  have text : instrsAt (muxxSwitchCode curtcb) 55 4 = [.mov (.inc .sp) (.reg .r0),
      .mov (.inc .sp) (.reg .r1), .mov (.inc .sp) (.reg .r2), .mov (.inc .sp) (.reg .r3)] := rfl
  simp -implicitDefEqProofs [text, read_stack (h.onStack _), kernel, ksp, BitVec.add_assoc]

/-- The bus after the pushes. -/
structure Pushed (b b' : Board) (sp r0 r1 r2 r3 : WORD) : Prop where
  r0 : b'.stack (sp + 65528#16) = r0
  r1 : b'.stack (sp + 65530#16) = r1
  r2 : b'.stack (sp + 65532#16) = r2
  r3 : b'.stack (sp + 65534#16) = r3
  data : b'.data = b.data
  mmu : b'.mmu = b.mmu
  stack : ∀ a, OnStack a → sp.toNat ≤ a.toNat → b'.stack a = b.stack a

theorem AtSwitch.pushed (h : AtSwitch c curtcb tcb sp) (b : Board) (r0 r1 r2 r3 : WORD) :
    Pushed b ((((b.setStack (sp + 65534#16) r3).setStack (sp + 65532#16) r2).setStack
      (sp + 65530#16) r1).setStack (sp + 65528#16) r0) sp r0 r1 r2 r3 := by
  have apart (x y : WORD) (other : x ≠ y) : ¬ sp + x = sp + y := by
    bv_omega
  have read (b : Board) (x y w : WORD) (near : x ∈ [0, 0xFFFE, 0xFFFC, 0xFFFA, 0xFFF8])
      (near' : y ∈ [0, 0xFFFE, 0xFFFC, 0xFFFA, 0xFFF8]) :
      (b.setStack (sp + x) w).stack (sp + y) =
        if sp + y = sp + x then w else b.stack (sp + y) :=
    setStack_stack (h.onStack near) (h.onStack near')
  constructor
  · rw [read _ _ _ _ (by decide) (by decide), if_pos rfl]
  · rw [read _ _ _ _ (by decide) (by decide), if_neg (apart _ _ (by decide)),
      read _ _ _ _ (by decide) (by decide), if_pos rfl]
  · rw [read _ _ _ _ (by decide) (by decide), if_neg (apart _ _ (by decide)),
      read _ _ _ _ (by decide) (by decide), if_neg (apart _ _ (by decide)),
      read _ _ _ _ (by decide) (by decide), if_pos rfl]
  · rw [read _ _ _ _ (by decide) (by decide), if_neg (apart _ _ (by decide)),
      read _ _ _ _ (by decide) (by decide), if_neg (apart _ _ (by decide)),
      read _ _ _ _ (by decide) (by decide), if_neg (apart _ _ (by decide)),
      read _ _ _ _ (by decide) (by decide), if_pos rfl]
  · simp only [setStack_data]
  · simp only [setStack_mmu]
  · intro a onStack inUse
    rw [h.setStack onStack inUse (by decide), h.setStack onStack inUse (by decide),
      h.setStack onStack inUse (by decide), h.setStack onStack inUse (by decide)]

/-- What the switch gives the processor: all of the TCB's registers. -/
structure Resumed (c c' : Cpu Board) (tcb : ADDRESS) : Prop where
  kernel : userMode c'.psw = false
  r0 : c'.r0 = (cpuStateAt c.bus tcb).gpr 0
  r1 : c'.r1 = (cpuStateAt c.bus tcb).gpr 1
  r2 : c'.r2 = (cpuStateAt c.bus tcb).gpr 2
  r3 : c'.r3 = (cpuStateAt c.bus tcb).gpr 3
  r4 : c'.r4 = (cpuStateAt c.bus tcb).gpr 4
  r5 : c'.r5 = (cpuStateAt c.bus tcb).gpr 5
  ksp : c'.ksp = (cpuStateAt c.bus tcb).ksp
  usp : c'.usp = (cpuStateAt c.bus tcb).usp
  mmu : c'.bus.mmu = mmuStateAt c.bus tcb
  data : c'.bus.data = Function.update c.bus.data (tcb + Offset.status) tskRun
  stack : ∀ a, OnStack a → c'.ksp.toNat ≤ a.toNat →
    c'.bus.stack a = c.bus.pages (physical ((mmuStateAt c.bus tcb).kpar 6) a)

/-- The status is no part of the saved state. -/
theorem mmuStateAt_status {d : ADDRESS → WORD} (data : d = Function.update c.bus.data (tcb + 16#16) w) :
    mmuStateAt { b with data := d } tcb = mmuStateAt c.bus tcb := by
  apply MMUSTATE.ext_bank
  intro bank
  funext i
  have within := bank_within bank i
  have apart : tcb + bank.offset + BitVec.ofNat 16 (2 * i) ≠ tcb + 16#16 := by
    rw [BitVec.add_assoc]
    bv_omega
  rw [mmuStateAt_bank, mmuStateAt_bank, data]
  exact Function.update_of_ne apart ..

theorem stack_congr {b b' : Board} (pages : b.pages = b'.pages)
    (page : b.mmu.kpar 6 = b'.mmu.kpar 6) : b.stack = b'.stack := by
  funext a
  simp only [Board.stack, pages, page]

/-- On the stack of the new task, with the user stack pointer and the new status. -/
structure OnTask (c c₂ : Cpu Board) (tcb sp : ADDRESS) : Prop where
  kernel : userMode c₂.psw = false
  r0 : c₂.r0 = tcb
  r1 : c₂.r1 = (cpuStateAt c.bus tcb).gpr 1
  r2 : c₂.r2 = (cpuStateAt c.bus tcb).gpr 2
  r3 : c₂.r3 = (cpuStateAt c.bus tcb).gpr 3
  r4 : c₂.r4 = (cpuStateAt c.bus tcb).gpr 4
  r5 : c₂.r5 = (cpuStateAt c.bus tcb).gpr 5
  ksp : c₂.ksp = sp
  usp : c₂.usp = (cpuStateAt c.bus tcb).usp
  page : c₂.bus.mmu.kpar 6 = (mmuStateAt c.bus tcb).kpar 6
  data : c₂.bus.data = Function.update c.bus.data (tcb + 16#16) tskRun
  stack : ∀ a, OnStack a → sp.toNat ≤ a.toNat →
    c₂.bus.stack a = c.bus.pages (physical ((mmuStateAt c.bus tcb).kpar 6) a)

theorem muxxSwitch_onTask (h : AtSwitch c curtcb tcb sp) :
    ∃ c₂, Reaches (muxxSwitchCode curtcb) (0, c) (22, c₂) ∧ OnTask c c₂ tcb sp := by
  obtain ⟨m, page, ran⟩ := muxxSwitch_head h
  have head : Reaches (muxxSwitchCode curtcb) (0, c) (12, onTask c tcb sp m) :=
    .straight rfl rfl ran
  have started : (onTask c tcb sp m).flags.z = false := by
    show (Flags.difference _ _).z = false
    rw [Flags.difference_z, decide_eq_false h.started]
  have branch : step (muxxSwitchCode curtcb) (12, onTask c tcb sp m) =
      some (15, onTask c tcb sp m) := by
    simp [step, muxxSwitchCode, started, target]
    rfl
  have usp : Reaches (muxxSwitchCode curtcb) (16, onTask c tcb sp m) (22, _) :=
    .straight rfl rfl (muxxSwitch_usp h m)
  refine ⟨_, head.trans ((Reaches.one branch).trans ((Reaches.one rfl).trans usp)), ?_⟩
  constructor
  case kernel => simpa using h.kernel
  case r1 | r2 | r3 | r4 | r5 => simp [cpuStateAt, onTask, BitVec.add_assoc]
  case page => simpa [onTask] using page
  case stack =>
    intro a onStack inUse
    rw [h.setStack onStack inUse (by decide), h.setStack onStack inUse (by decide), ← page]
    rfl
  all_goals rfl

/-- muxx_switch takes all registers from the TCB. -/
theorem muxxSwitch_restores (h : AtSwitch c curtcb tcb sp) :
    ∃ c', Runs (muxxSwitchCode curtcb) .rti c c' ∧ Resumed c c' tcb := by
  obtain ⟨c₂, entered, task⟩ := muxxSwitch_onTask h
  have pushed := h.pushed c₂.bus (c₂.bus.data (tcb + 36#16)) c₂.r1 c₂.r2 c₂.r3
  have push := muxxSwitch_push h task.kernel task.ksp task.r0
  generalize (((c₂.bus.setStack (sp + 65534#16) c₂.r3).setStack (sp + 65532#16) c₂.r2).setStack
    (sp + 65530#16) c₂.r1).setStack (sp + 65528#16) (c₂.bus.data (tcb + 36#16)) = b at pushed push
  have below : Reaches (muxxSwitchCode curtcb) (22, c₂) (27, _) := .straight rfl rfl push
  let c₃ : Cpu Board :=
    { c₂ with r3 := tcb, ksp := sp + 65528#16, flags := c₂.flags.move tcb, bus := b }
  obtain ⟨r0, r1, r2, f, loops⟩ := load_banks h.placed (c := c₃) rfl
  have kernel : userMode (refilling c₃ r0 r1 r2 f (mmuStateAt b tcb)).psw = false := task.kernel
  have pop : Reaches (muxxSwitchCode curtcb) (55, refilling c₃ r0 r1 r2 f (mmuStateAt b tcb))
      (59, _) :=
    .straight rfl rfl (muxxSwitch_pop h kernel rfl)
  refine ⟨_, ⟨59, entered.trans (below.trans (loops.trans pop)), rfl⟩, ?_⟩
  have data : b.data = Function.update c.bus.data (tcb + 16#16) tskRun := pushed.data.trans task.data
  have mmu : mmuStateAt b tcb = mmuStateAt c.bus tcb := mmuStateAt_status data
  have same : Board.stack { b with mmu := mmuStateAt b tcb } = b.stack := by
    refine stack_congr rfl ?_
    show (mmuStateAt b tcb).kpar 6 = b.mmu.kpar 6
    rw [mmu, pushed.mmu, task.page]
  have first : c₂.bus.data (tcb + 36#16) = (cpuStateAt c.bus tcb).gpr 0 := by
    have apart : tcb + 36#16 ≠ tcb + 16#16 := by
      bv_omega
    rw [task.data, Function.update_of_ne apart]
    simp [cpuStateAt]
  constructor
  case kernel => exact task.kernel
  case r0 => exact (congrFun same _).trans (pushed.r0.trans first)
  case r1 => exact (congrFun same _).trans (pushed.r1.trans task.r1)
  case r2 => exact (congrFun same _).trans (pushed.r2.trans task.r2)
  case r3 => exact (congrFun same _).trans (pushed.r3.trans task.r3)
  case r4 => exact task.r4
  case r5 => exact task.r5
  case ksp => exact h.ksp.symm
  case usp => exact task.usp
  case mmu => exact mmu
  case data => exact data
  case stack =>
    intro a onStack inUse
    exact (congrFun same a).trans ((pushed.stack a onStack inUse).trans (task.stack a onStack inUse))

end Switch

/-! ## The way there and back -/

/-- From `c` to `c'` nothing has changed in the saved state of the task, nor from
`fp` on in the stack page, which `par` maps. -/
structure Undisturbed (c c' : Cpu Board) (tcb fp par : ADDRESS) : Prop where
  data : ∀ x : WORD, 36 ≤ x.toNat → x.toNat < 124 → c'.bus.data (tcb + x) = c.bus.data (tcb + x)
  pages : ∀ a, OnStack a → fp.toNat ≤ a.toNat →
    c'.bus.pages (physical par a) = c.bus.pages (physical par a)

/-- At the `rti`, the state is that of `c` with the frame at `fp`. -/
structure Recovered (c c' : Cpu Board) (fp : ADDRESS) : Prop where
  r0 : c'.r0 = (frameAt c fp).gpr 0
  r1 : c'.r1 = (frameAt c fp).gpr 1
  r2 : c'.r2 = (frameAt c fp).gpr 2
  r3 : c'.r3 = (frameAt c fp).gpr 3
  r4 : c'.r4 = (frameAt c fp).gpr 4
  r5 : c'.r5 = (frameAt c fp).gpr 5
  ksp : c'.ksp = fp + 14
  usp : c'.usp = c.usp
  mmu : c'.bus.mmu = c.bus.mmu
  rti : c'.rti = some ((frameAt c fp).pc, { c' with
    ksp := fp + 18, psw := (frameAt c fp).psw, flags := .ofWord (frameAt c fp).psw })

section RoundTrip
variable {c c₁ c₂ c₃ c₄ c' : Cpu Board} {curtcb tcb fp : ADDRESS} {b b' : Board}

theorem cpuStateAt_congr (same : ∀ x : WORD, 36 ≤ x.toNat → x.toNat < 60 →
    b'.data (tcb + x) = b.data (tcb + x)) : cpuStateAt b' tcb = cpuStateAt b tcb := by
  have gpr (i : Fin 6) : b'.data (tcb + Offset.r0 + BitVec.ofNat 16 (2 * i)) =
      b.data (tcb + Offset.r0 + BitVec.ofNat 16 (2 * i)) := by
    have low := i.isLt
    rw [BitVec.add_assoc]
    apply same <;> bv_omega
  simp only [cpuStateAt, gpr, same _ (show 36 ≤ Offset.sp.toNat by decide) (by decide),
    same _ (show 36 ≤ Offset.pc.toNat by decide) (by decide),
    same _ (show 36 ≤ Offset.psw.toNat by decide) (by decide),
    same _ (show 36 ≤ Offset.usp.toNat by decide) (by decide),
    same _ (show 36 ≤ Offset.ksp.toNat by decide) (by decide)]

theorem mmuStateAt_congr (same : ∀ x : WORD, 60 ≤ x.toNat → x.toNat < 124 →
    b'.data (tcb + x) = b.data (tcb + x)) : mmuStateAt b' tcb = mmuStateAt b tcb := by
  apply MMUSTATE.ext_bank
  intro bank
  funext i
  have within := bank_within bank i
  rw [mmuStateAt_bank, mmuStateAt_bank, BitVec.add_assoc]
  exact same _ within.1 within.2

/-- A task that copytrapfp and copyMMUstate have saved goes on where it was, once
muxx_switch resumes it: the frame's registers, stack pointers and mapping are
back. Before copyMMUstate and before the switch, others may run that leave the
TCB's saved state and the frame on the kernel stack page alone. -/
theorem context_restored (h : AtTrap c curtcb tcb fp) :
    ∃ c₁, Runs (copytrapfpCode curtcb) .rts c c₁ ∧ Spares c c₁ tcb 36 60 ∧
      ∀ c₂, AtEntry c₂ curtcb tcb → c₂.ksp.toNat ≤ fp.toNat → c₂.bus.mmu = c.bus.mmu →
        Undisturbed c₁ c₂ tcb fp (c.bus.mmu.kpar 6) →
      ∃ c₃, Runs (copyMMUstateCode curtcb) .rts c₂ c₃ ∧ Spares c₂ c₃ tcb 60 124 ∧
        ∀ c₄, userMode c₄.psw = false → c₄.bus.data curtcb = tcb →
          c₄.bus.data (tcb + Offset.status) ≠ tskInit →
          Undisturbed c₃ c₄ tcb fp (c.bus.mmu.kpar 6) →
        ∃ c₅, Runs (muxxSwitchCode curtcb) .rti c₄ c₅ ∧ Recovered c c₅ fp := by
  obtain ⟨c₁, ran₁, spares₁, saved⟩ := copytrapfp_saves h
  refine ⟨c₁, ran₁, spares₁, ?_⟩
  intro c₂ entry below mmu between
  obtain ⟨c₃, ran₃, spares₃, kept, -⟩ := copyMMUstate_saves entry
  refine ⟨c₃, ran₃, spares₃, ?_⟩
  intro c₄ kernel cur started others
  have cpu : cpuStateAt c₄.bus tcb = (frameAt c fp).saved := by
    rw [← saved]
    apply cpuStateAt_congr
    intro x low high
    have apart (y : WORD) (first : 60 ≤ y.toNat) (_ : y.toNat < 124) : tcb + x ≠ tcb + y := by
      bv_omega
    rw [others.data x low (by omega), spares₃.data _ apart, between.data x low (by omega)]
  have regs : mmuStateAt c₄.bus tcb = c.bus.mmu := by
    rw [← mmu, ← kept]
    apply mmuStateAt_congr
    intro x low high
    exact others.data x (by omega) high
  have top := h.top
  have bottom := h.room
  have inUse := h.below
  have even := h.fpEven
  have switch : AtSwitch c₄ curtcb tcb (fp + 14) := by
    refine ⟨kernel, h.placed, cur, started, congrArg CPUSTATE.ksp cpu, ?_, ?_, ?_⟩ <;> bv_omega
  obtain ⟨c₅, ran₅, resumed⟩ := muxxSwitch_restores switch
  refine ⟨c₅, ran₅, ?_⟩
  have ksp : c₅.ksp = fp + 14 := resumed.ksp.trans (congrArg CPUSTATE.ksp cpu)
  have frame (x : WORD) (within : 14 ≤ x.toNat ∧ x.toNat ≤ 16) (even' : x.toNat % 2 = 0) :
      c₅.bus.stack (fp + x) = c.bus.stack (fp + x) := by
    have onStack : OnStack (fp + x) := h.frame ⟨within.2, even'⟩
    have above : c₅.ksp.toNat ≤ (fp + x).toNat := by
      rw [ksp]
      bv_omega
    have inFrame : fp.toNat ≤ (fp + x).toNat := by
      bv_omega
    have mapped₃ : c₃.bus.mmu = c.bus.mmu := spares₃.mmu.trans mmu
    calc c₅.bus.stack (fp + x)
      _ = c₄.bus.pages (physical (c.bus.mmu.kpar 6) (fp + x)) := by
        rw [resumed.stack _ onStack above, regs]
      _ = c₃.bus.pages (physical (c.bus.mmu.kpar 6) (fp + x)) := others.pages _ onStack inFrame
      _ = c₃.bus.stack (fp + x) := by rw [Board.stack, mapped₃]
      _ = c₂.bus.stack (fp + x) := spares₃.stack _ onStack (below.trans inFrame)
      _ = c₂.bus.pages (physical (c.bus.mmu.kpar 6) (fp + x)) := by rw [Board.stack, mmu]
      _ = c₁.bus.pages (physical (c.bus.mmu.kpar 6) (fp + x)) := between.pages _ onStack inFrame
      _ = c₁.bus.stack (fp + x) := by rw [Board.stack, spares₁.mmu]
      _ = c.bus.stack (fp + x) := spares₁.stack _ onStack (inUse.trans inFrame)
  have kernel₅ := resumed.kernel
  have pc := read_stack (h.frame (x := 14#16) (by decide)) c₅.bus
  have psw := read_stack (h.frame (x := 16#16) (by decide)) c₅.bus
  rw [frame 14#16 (by decide) (by decide)] at pc
  rw [frame 16#16 (by decide) (by decide)] at psw
  constructor
  case ksp => exact ksp
  case usp => exact resumed.usp.trans (congrArg CPUSTATE.usp cpu)
  case mmu => exact resumed.mmu.trans regs
  case rti =>
    simp -implicitDefEqProofs [Cpu.rti, kernel₅, ksp, pc, psw, frameAt, BitVec.add_assoc]
  case r0 => exact resumed.r0.trans (congrFun (congrArg CPUSTATE.gpr cpu) 0)
  case r1 => exact resumed.r1.trans (congrFun (congrArg CPUSTATE.gpr cpu) 1)
  case r2 => exact resumed.r2.trans (congrFun (congrArg CPUSTATE.gpr cpu) 2)
  case r3 => exact resumed.r3.trans (congrFun (congrArg CPUSTATE.gpr cpu) 3)
  case r4 => exact resumed.r4.trans (congrFun (congrArg CPUSTATE.gpr cpu) 4)
  case r5 => exact resumed.r5.trans (congrFun (congrArg CPUSTATE.gpr cpu) 5)

end RoundTrip

/-- A trap from user mode, with other registers than zero in the frame. -/
def trapped : Cpu Board where
  r0 := 0
  r1 := 0
  r2 := 0
  r3 := 0
  r4 := 0
  r5 := 0
  ksp := 0o150000
  usp := 0o157776
  psw := 0x30E0
  flags := {}
  bus := {
    data a := if a = 0o1000 then 0o2000 else 0
    pages p := if p = physical 0o1400 0o150002 then 0o150010 else BitVec.ofNat 16 p
    mmu := { initMmu with kpar := fun i => 0o200 * BitVec.ofNat 16 i } }

theorem trapped_atTrap : AtTrap trapped 0o1000 0o2000 0o150010 where
  kernel := by decide
  placed := ⟨⟨by decide, by decide⟩, by decide, by decide, by decide⟩
  cur := by decide
  arg := by decide +kernel
  spEven := by decide
  fpEven := by decide
  room := by decide
  below := by decide
  top := by decide

theorem trapped_restored :
    ∃ c₁ c₃ c₅ : Cpu Board, Runs (copytrapfpCode 0o1000) .rts trapped c₁ ∧
      Runs (copyMMUstateCode 0o1000) .rts c₁ c₃ ∧
      Runs (muxxSwitchCode 0o1000) .rti
        { c₃ with bus := c₃.bus.setData (0o2000 + Offset.status) 2 } c₅ ∧
      Recovered trapped c₅ 0o150010 := by
  obtain ⟨c₁, ran₁, spares₁, next⟩ := context_restored trapped_atTrap
  have apart (x : WORD) (within : x.toNat < 124) : (0o1000 : ADDRESS) ≠ 0o2000 + x :=
    trapped_atTrap.placed.ne within
  have entry : AtEntry c₁ 0o1000 0o2000 := by
    refine ⟨spares₁.kernel, trapped_atTrap.placed, ?_, ?_, ?_, ?_⟩
    · exact spares₁.data _ fun x _ high => apart x (by omega)
    all_goals rw [spares₁.ksp]; decide
  obtain ⟨c₃, ran₃, spares₃, next⟩ := next c₁ entry (by rw [spares₁.ksp]; decide) spares₁.mmu
    ⟨fun x _ _ => rfl, fun a _ _ => rfl⟩
  have cur : (c₃.bus.setData (0o2000 + Offset.status) 2).data 0o1000 = 0o2000 := by
    rw [setData_data, if_neg (apart Offset.status (by decide)),
      spares₃.data _ fun x _ high => apart x high]
    exact entry.cur
  have started : (c₃.bus.setData (0o2000 + Offset.status) 2).data (0o2000 + Offset.status) ≠
      tskInit := by
    rw [setData_data, if_pos rfl]
    decide
  have others : Undisturbed c₃ { c₃ with bus := c₃.bus.setData (0o2000 + Offset.status) 2 } 0o2000
      0o150010 (trapped.bus.mmu.kpar 6) := by
    constructor
    · intro x low high
      have other : (0o2000 : ADDRESS) + x ≠ 0o2000 + Offset.status := by
        bv_omega
      show (c₃.bus.setData (0o2000 + Offset.status) 2).data (0o2000 + x) = _
      rw [setData_data, if_neg other]
    · intro a _ _
      rfl
  obtain ⟨c₅, ran₅, restored⟩ := next { c₃ with bus := c₃.bus.setData (0o2000 + Offset.status) 2 }
    spares₃.kernel cur started others
  exact ⟨c₁, c₃, c₅, ran₁, ran₃, ran₅, restored⟩

end Muxx
