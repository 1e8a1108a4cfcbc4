import Muxx.Lib.Pdp11
import Muxx.Mmu

/-!
# The bus in kernel mode

What kernel code finds at an address: the registers of the memory management
unit, the stack page, which lies where kernel register 6 says, and resident
memory, which all tasks have in common. Descriptors are plain words, and page 7
is resident where it has no register of the unit.
-/

namespace Muxx

open Pdp11

/-! ## Registers -/

/-- The registers of user and kernel mode, eight of each kind. -/
inductive Bank
  | upar | updr | kpar | kpdr
  deriving DecidableEq

/-- MMU.UISAR0, MMU.UISDR0, MMU.KISAR0 and MMU.KISDR0. -/
def Bank.base : Bank → ADDRESS
  | .upar => 0o177640
  | .updr => 0o177600
  | .kpar => 0o172340
  | .kpdr => 0o172300

def Bank.register (bank : Bank) (i : Fin 8) : ADDRESS := bank.base + BitVec.ofNat 16 (2 * i)

def MMUSTATE.bank (mmu : MMUSTATE) : Bank → Fin 8 → WORD
  | .upar => mmu.upar
  | .updr => mmu.updr
  | .kpar => mmu.kpar
  | .kpdr => mmu.kpdr

def MMUSTATE.setBank (mmu : MMUSTATE) (bank : Bank) (i : Fin 8) (w : WORD) : MMUSTATE :=
  match bank with
  | .upar => { mmu with upar := Function.update mmu.upar i w }
  | .updr => { mmu with updr := Function.update mmu.updr i w }
  | .kpar => { mmu with kpar := Function.update mmu.kpar i w }
  | .kpdr => { mmu with kpdr := Function.update mmu.kpdr i w }

theorem MMUSTATE.ext_bank {mmu mmu' : MMUSTATE} (same : ∀ bank, mmu.bank bank = mmu'.bank bank) :
    mmu = mmu' := by
  cases mmu
  cases mmu'
  have upar := same .upar
  have updr := same .updr
  have kpar := same .kpar
  have kpdr := same .kpdr
  simp only [MMUSTATE.bank] at upar updr kpar kpdr
  rw [upar, updr, kpar, kpdr]

theorem bank_setBank (mmu : MMUSTATE) (bank bank' : Bank) (i j : Fin 8) (w : WORD) :
    (mmu.setBank bank i w).bank bank' j = if bank' = bank ∧ j = i then w else mmu.bank bank' j := by
  cases bank <;> cases bank' <;> simp [MMUSTATE.bank, MMUSTATE.setBank, Function.update_apply]

/-- The register at an address of the I/O page. -/
def registerAt (a : ADDRESS) : Option (Bank × Fin 8) :=
  [Bank.upar, .updr, .kpar, .kpdr].findSome? fun bank =>
    if (a - bank.base).toNat < 16 then some (bank, Fin.ofNat 8 ((a - bank.base).toNat / 2))
    else none

theorem registerAt_register : ∀ bank i, registerAt (Bank.register bank i) = some (bank, i) := by
  intro bank
  cases bank <;> decide +kernel

theorem registerAt_low {a : ADDRESS} (low : a.toNat < 0o160000) : registerAt a = none := by
  have apart (bank : Bank) : ¬ (a - bank.base).toNat < 16 := by
    cases bank <;> simp only [Bank.base] <;> bv_omega
  unfold registerAt
  simp only [List.findSome?_cons, if_neg (apart _), List.findSome?_nil]

/-! ## Memory -/

/-- Words at even addresses. `pages` is physical memory. -/
structure Board where
  data : ADDRESS → WORD
  pages : Nat → WORD
  mmu : MMUSTATE

namespace Board

/-- A word of the stack page. -/
def stack (b : Board) (a : ADDRESS) : WORD := b.pages (physical (b.mmu.kpar 6) a)

def setStack (b : Board) (a : ADDRESS) (w : WORD) : Board :=
  { b with pages := Function.update b.pages (physical (b.mmu.kpar 6) a) w }

def setData (b : Board) (a : ADDRESS) (w : WORD) : Board :=
  { b with data := Function.update b.data a w }

def setRegister (b : Board) (bank : Bank) (i : Fin 8) (w : WORD) : Board :=
  { b with mmu := b.mmu.setBank bank i w }

instance bus : Bus Board where
  read b a :=
    if a.toNat % 2 = 1 then none
    else some (match registerAt a with
      | some (bank, i) => b.mmu.bank bank i
      | none => if pageOf a = 6 then b.stack a else b.data a)
  write b a w :=
    if a.toNat % 2 = 1 then none
    else some (match registerAt a with
      | some (bank, i) => b.setRegister bank i w
      | none => if pageOf a = 6 then b.setStack a w else b.setData a w)

end Board

/-- A word of page 6. -/
structure OnStack (a : ADDRESS) : Prop where
  even : a.toNat % 2 = 0
  low : 0o140000 ≤ a.toNat
  high : a.toNat < 0o160000

/-- A word below page 6. -/
structure Resident (a : ADDRESS) : Prop where
  even : a.toNat % 2 = 0
  high : a.toNat < 0o140000

section Access
variable {b : Board} {a a' : ADDRESS} {w : WORD}

theorem OnStack.page (h : OnStack a) : pageOf a = 6 := by
  have low := h.low
  have high := h.high
  apply Fin.ext
  show a.toNat / 8192 % 8 = 6
  omega

theorem Resident.page (h : Resident a) : pageOf a ≠ 6 := by
  intro page
  have page : a.toNat / 8192 % 8 = 6 := congrArg Fin.val page
  have high := h.high
  omega

theorem read_stack (h : OnStack a) (b : Board) : Bus.read b a = some (b.stack a) := by
  show (if _ then _ else _) = _
  rw [if_neg (by rw [h.even]; decide), registerAt_low h.high]
  dsimp only
  rw [if_pos h.page]

theorem write_stack (h : OnStack a) (b : Board) (w : WORD) :
    Bus.write b a w = some (b.setStack a w) := by
  show (if _ then _ else _) = _
  rw [if_neg (by rw [h.even]; decide), registerAt_low h.high]
  dsimp only
  rw [if_pos h.page]

theorem read_data (h : Resident a) (b : Board) : Bus.read b a = some (b.data a) := by
  show (if _ then _ else _) = _
  rw [if_neg (by rw [h.even]; decide), registerAt_low (h.high.trans (by decide))]
  dsimp only
  rw [if_neg h.page]

theorem write_data (h : Resident a) (b : Board) (w : WORD) :
    Bus.write b a w = some (b.setData a w) := by
  show (if _ then _ else _) = _
  rw [if_neg (by rw [h.even]; decide), registerAt_low (h.high.trans (by decide))]
  dsimp only
  rw [if_neg h.page]

theorem register_even : ∀ bank i, (Bank.register bank i).toNat % 2 = 0 := by
  intro bank
  cases bank <;> decide

theorem read_register (bank : Bank) (i : Fin 8) (b : Board) :
    Bus.read b (bank.register i) = some (b.mmu.bank bank i) := by
  show (if _ then _ else _) = _
  rw [if_neg (by rw [register_even]; decide), registerAt_register]

theorem write_register (bank : Bank) (i : Fin 8) (b : Board) (w : WORD) :
    Bus.write b (bank.register i) w = some (b.setRegister bank i w) := by
  show (if _ then _ else _) = _
  rw [if_neg (by rw [register_even]; decide), registerAt_register]

/-- Words of the stack page are apart in memory. -/
theorem setStack_stack (h : OnStack a) (h' : OnStack a') :
    (b.setStack a w).stack a' = if a' = a then w else b.stack a' := by
  have apart (par : WORD) : physical par a' = physical par a ↔ a' = a := by
    constructor
    · intro same
      have low := h.low
      have high := h.high
      have low' := h'.low
      have high' := h'.high
      apply BitVec.eq_of_toNat_eq
      unfold physical blockOf at same
      omega
    · rintro rfl
      rfl
  simp only [Board.stack, Board.setStack, Function.update_apply, apart]

@[simp] theorem setStack_data : (b.setStack a w).data = b.data := rfl

@[simp] theorem setStack_mmu : (b.setStack a w).mmu = b.mmu := rfl

@[simp] theorem setData_mmu : (b.setData a w).mmu = b.mmu := rfl

@[simp] theorem setData_pages : (b.setData a w).pages = b.pages := rfl

@[simp] theorem setData_stack : (b.setData a w).stack = b.stack := rfl

@[simp] theorem setData_data :
    (b.setData a w).data a' = if a' = a then w else b.data a' := by
  simp only [Board.setData, Function.update_apply]

@[simp] theorem setRegister_data {bank : Bank} {i : Fin 8} :
    (b.setRegister bank i w).data = b.data := rfl

@[simp] theorem setRegister_pages {bank : Bank} {i : Fin 8} :
    (b.setRegister bank i w).pages = b.pages := rfl

@[simp] theorem setRegister_mmu {bank : Bank} {i : Fin 8} :
    (b.setRegister bank i w).mmu = b.mmu.setBank bank i w := rfl

end Access

end Muxx
