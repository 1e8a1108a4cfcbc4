import Muxx.Lib.Fallible
import Muxx.Mmu

/-!
# Memory in kernel mode

The page registers of kernel mode are words of the I/O page, so a store can move
the pages that later accesses go through:

* `kernelMode`: the registers that a memory holds;
* `kernelMode_withRegisters`: those that have been written to it;
* `loadByte`, `storeByte`, `loadWord`, `storeWord`: accesses at virtual addresses;
* `loadWord_io`, `storeWord_io`: what they do on the I/O page.
-/

namespace Muxx

open Fallible

/-! ## The registers -/

/-- The word at a physical address. -/
def wordIn (mem : Nat → BYTE) (p : Nat) : WORD := mem (p + 1) ++ mem p

def putWord (mem : Nat → BYTE) (p : Nat) (w : WORD) : Nat → BYTE :=
  Function.update (Function.update mem p (w.setWidth 8)) (p + 1) (w.extractLsb' 8 8)

/-- MMU_KISAR0 to MMU_KISAR7 in physical memory. -/
def kisarByte (i : Fin 8) : Nat := 0o772340 + 2 * i.val

/-- MMU_KISDR0 to MMU_KISDR7 in physical memory. -/
def kisdrByte (i : Fin 8) : Nat := 0o772300 + 2 * i.val

/-- The page registers of kernel mode. -/
def kernelMode (mem : Nat → BYTE) : MMUSTATE where
  kpar i := wordIn mem (kisarByte i)
  kpdr i := wordIn mem (kisdrByte i)

/-- The kernel has its program and tables in pages 0 to 2, its stack in page 6 and the
devices in page 7. -/
def ownPages : List (Fin 8) := [0, 1, 2, 6, 7]

/-- The kernel's own pages are where they were. -/
def SamePages (mem mem' : Nat → BYTE) : Prop :=
  ∀ page ∈ ownPages, (kernelMode mem').kpar page = (kernelMode mem).kpar page ∧
    (kernelMode mem').kpdr page = (kernelMode mem).kpdr page

instance SamePages.decidable (mem mem' : Nat → BYTE) : Decidable (SamePages mem mem') :=
  inferInstanceAs (Decidable (∀ page ∈ ownPages, _ ∧ _))

namespace MMUSTATE
variable (mmu : MMUSTATE) (addr : ADDRESS)

/-- The byte of physical memory that kernel mode has at an address. -/
def cell : Nat := physical (mmu.kpar (pageOf addr)) addr

/-- Kernel mode may read the address. -/
def Loads : Prop :=
  readable (mmu.kpdr (pageOf addr)) = true ∧ InPage (mmu.kpdr (pageOf addr)) (blockOf addr)

/-- Kernel mode may write the address. -/
def Stores : Prop :=
  writable (mmu.kpdr (pageOf addr)) = true ∧ InPage (mmu.kpdr (pageOf addr)) (blockOf addr)

instance Loads.decidable : Decidable (mmu.Loads addr) := inferInstanceAs (Decidable (_ ∧ _))

instance Stores.decidable : Decidable (mmu.Stores addr) := inferInstanceAs (Decidable (_ ∧ _))

end MMUSTATE

/-! ## Accesses -/

/-- A byte of one of the registers. -/
def InUnit (p : Nat) : Prop := 0o772300 ≤ p ∧ p < 0o772320 ∨ 0o772340 ≤ p ∧ p < 0o772360

/-- Below the I/O page there is memory. In it the registers are there, and of the
other addresses those that `bus` has. -/
def Responds (bus : ADDRESS → Bool) (p : Nat) : Prop :=
  p < 0o760000 ∨ InUnit p ∨ bus (BitVec.ofNat 16 p) = true

instance InUnit.decidable (p : Nat) : Decidable (InUnit p) := inferInstanceAs (Decidable (_ ∨ _))

instance Responds.decidable (bus : ADDRESS → Bool) (p : Nat) : Decidable (Responds bus p) :=
  inferInstanceAs (Decidable (_ ∨ _ ∨ _))

section Accesses
variable (bus : ADDRESS → Bool) (mem : Nat → BYTE)

/-- Kernel mode reads what `look` finds. -/
def loadAt {α : Type} (addr : ADDRESS) (look : Nat → α) : Except Fault α :=
  if (kernelMode mem).Loads addr then
    if Responds bus ((kernelMode mem).cell addr) then .ok (look ((kernelMode mem).cell addr))
    else .error (.panic "CPUERR")
  else .error (.panic "MMUERR")

/-- Kernel mode writes what `put` puts there. When this moves the kernel's own pages,
its program does not go on. -/
def storeAt (addr : ADDRESS) (put : Nat → Nat → BYTE) : Except Fault (Nat → BYTE) :=
  if (kernelMode mem).Stores addr then
    if Responds bus ((kernelMode mem).cell addr) then
      if SamePages mem (put ((kernelMode mem).cell addr)) then
        .ok (put ((kernelMode mem).cell addr))
      else .error .outside
    else .error (.panic "CPUERR")
  else .error (.panic "MMUERR")

def loadByte (addr : ADDRESS) : Except Fault BYTE := loadAt bus mem addr mem

def storeByte (addr : ADDRESS) (b : BYTE) : Except Fault (Nat → BYTE) :=
  storeAt bus mem addr fun p => Function.update mem p b

def loadWord (addr : ADDRESS) : Except Fault WORD := loadAt bus mem addr (wordIn mem)

def storeWord (addr : ADDRESS) (w : WORD) : Except Fault (Nat → BYTE) :=
  storeAt bus mem addr fun p => putWord mem p w

end Accesses

section Accesses
variable {bus : ADDRESS → Bool} {mem mem' : Nat → BYTE} {addr : ADDRESS}

theorem loadAt_ok {α : Type} {look : Nat → α} {v : α} : loadAt bus mem addr look = .ok v ↔
    (kernelMode mem).Loads addr ∧ Responds bus ((kernelMode mem).cell addr) ∧
      v = look ((kernelMode mem).cell addr) := by
  unfold loadAt
  split_ifs with may there
  · exact ⟨fun same => ⟨may, there, (Except.ok.inj same).symm⟩, fun h => h.2.2 ▸ rfl⟩
  · exact ⟨nofun, fun h => absurd h.2.1 there⟩
  · exact ⟨nofun, fun h => absurd h.1 may⟩

theorem storeAt_ok {put : Nat → Nat → BYTE} : storeAt bus mem addr put = .ok mem' ↔
    (kernelMode mem).Stores addr ∧ Responds bus ((kernelMode mem).cell addr) ∧
      SamePages mem (put ((kernelMode mem).cell addr)) ∧
        mem' = put ((kernelMode mem).cell addr) := by
  unfold storeAt
  split_ifs with may there same
  · exact ⟨fun h => ⟨may, there, same, (Except.ok.inj h).symm⟩, fun h => h.2.2.2 ▸ rfl⟩
  · exact ⟨nofun, fun h => absurd h.2.2.1 same⟩
  · exact ⟨nofun, fun h => absurd h.2.1 there⟩
  · exact ⟨nofun, fun h => absurd h.1 may⟩

theorem SamePages.refl (mem : Nat → BYTE) : SamePages mem mem := fun _ _ => ⟨rfl, rfl⟩

theorem SamePages.trans {mem'' : Nat → BYTE} (first : SamePages mem mem')
    (second : SamePages mem' mem'') : SamePages mem mem'' := fun page own =>
  ⟨(second page own).1.trans (first page own).1, (second page own).2.trans (first page own).2⟩

end Accesses

/-! ## Words of memory -/

section Words
variable {mem mem' : Nat → BYTE} {p q : Nat} {w : WORD}

theorem wordIn_putWord (mem : Nat → BYTE) (p : Nat) (w : WORD) : wordIn (putWord mem p w) p = w := by
  unfold wordIn putWord
  rw [Function.update_self, Function.update_of_ne (Nat.ne_of_lt (Nat.lt_succ_self p)),
    Function.update_self]
  exact (BitVec.extractLsb'_append_extractLsb'_eq_extractLsb' rfl).trans (by simp)

theorem putWord_ne {a : Nat} (low : a ≠ p) (high : a ≠ p + 1) : putWord mem p w a = mem a := by
  rw [putWord, Function.update_of_ne high, Function.update_of_ne low]

theorem wordIn_putWord_ne (apart : q + 1 < p ∨ p + 1 < q) :
    wordIn (putWord mem p w) q = wordIn mem q := by
  unfold wordIn
  rw [putWord_ne (by omega) (by omega), putWord_ne (by omega) (by omega)]

theorem wordIn_congr (low : mem' p = mem p) (high : mem' (p + 1) = mem (p + 1)) :
    wordIn mem' p = wordIn mem p := by
  rw [wordIn, wordIn, low, high]

/-- The registers do not depend on other memory. -/
theorem kernelMode_congr (same : ∀ a, InUnit a → mem' a = mem a) : kernelMode mem' = kernelMode mem := by
  have word (p : Nat) (low : InUnit p) (high : InUnit (p + 1)) : wordIn mem' p = wordIn mem p :=
    wordIn_congr (same p low) (same (p + 1) high)
  have kpar (i : Fin 8) : wordIn mem' (kisarByte i) = wordIn mem (kisarByte i) :=
    word _ (by unfold InUnit kisarByte; omega) (by unfold InUnit kisarByte; omega)
  have kpdr (i : Fin 8) : wordIn mem' (kisdrByte i) = wordIn mem (kisdrByte i) :=
    word _ (by unfold InUnit kisdrByte; omega) (by unfold InUnit kisdrByte; omega)
  simp only [kernelMode, kpar, kpdr]

theorem samePages_memory (same : ∀ a, InUnit a → mem' a = mem a) : SamePages mem mem' := by
  intro page _
  rw [kernelMode_congr same]
  exact ⟨rfl, rfl⟩

/-- A word that is stored in a register. -/
theorem kernelMode_putKisar (mem : Nat → BYTE) (i : Fin 8) (w : WORD) :
    kernelMode (putWord mem (kisarByte i) w) =
      { kernelMode mem with kpar := Function.update (kernelMode mem).kpar i w } := by
  unfold kernelMode
  congr 1 <;> funext j
  · by_cases same : j = i
    · subst same
      rw [wordIn_putWord, Function.update_self]
    · rw [Function.update_of_ne same]
      have other : j.val ≠ i.val := fun h => same (Fin.ext h)
      exact wordIn_putWord_ne (by unfold kisarByte; omega)
  · exact wordIn_putWord_ne (by unfold kisarByte kisdrByte; omega)

theorem kernelMode_putKisdr (mem : Nat → BYTE) (i : Fin 8) (w : WORD) :
    kernelMode (putWord mem (kisdrByte i) w) =
      { kernelMode mem with kpdr := Function.update (kernelMode mem).kpdr i w } := by
  unfold kernelMode
  congr 1 <;> funext j
  · exact wordIn_putWord_ne (by unfold kisarByte kisdrByte; omega)
  · by_cases same : j = i
    · subst same
      rw [wordIn_putWord, Function.update_self]
    · rw [Function.update_of_ne same]
      have other : j.val ≠ i.val := fun h => same (Fin.ext h)
      exact wordIn_putWord_ne (by unfold kisdrByte; omega)

/-- Memory with the registers of kernel mode in it. -/
def withRegisters (mmu : MMUSTATE) (mem : Nat → BYTE) (a : Nat) : BYTE :=
  let byte (w : WORD) : BYTE := if a % 2 = 0 then w.setWidth 8 else w.extractLsb' 8 8
  if 0o772340 ≤ a ∧ a < 0o772360 then byte (mmu.kpar (Fin.ofNat 8 ((a - 0o772340) / 2)))
  else if 0o772300 ≤ a ∧ a < 0o772320 then byte (mmu.kpdr (Fin.ofNat 8 ((a - 0o772300) / 2)))
  else mem a

theorem kernelMode_withRegisters (mmu : MMUSTATE) (mem : Nat → BYTE) (i : Fin 8) :
    (kernelMode (withRegisters mmu mem)).kpar i = mmu.kpar i ∧
      (kernelMode (withRegisters mmu mem)).kpdr i = mmu.kpdr i := by
  have whole (w : WORD) : w.extractLsb' 8 8 ++ w.setWidth 8 = w :=
    (BitVec.extractLsb'_append_extractLsb'_eq_extractLsb' rfl).trans (by simp)
  have index : ∀ i : Fin 8, Fin.ofNat 8 (2 * i.val / 2) = i ∧ Fin.ofNat 8 ((2 * i.val + 1) / 2) = i := by
    decide
  obtain ⟨low, high⟩ := index i
  constructor
  · have low : withRegisters mmu mem (kisarByte i) = (mmu.kpar i).setWidth 8 := by
      unfold withRegisters
      rw [if_pos (by unfold kisarByte; omega)]
      simp only [kisarByte, Nat.add_sub_cancel_left, low]
      exact if_pos (by omega)
    have high : withRegisters mmu mem (kisarByte i + 1) = (mmu.kpar i).extractLsb' 8 8 := by
      unfold withRegisters
      rw [if_pos (by unfold kisarByte; omega)]
      simp only [kisarByte, Nat.add_assoc, Nat.add_sub_cancel_left, high]
      exact if_neg (by omega)
    exact (congrArg₂ (· ++ ·) high low).trans (whole _)
  · have low : withRegisters mmu mem (kisdrByte i) = (mmu.kpdr i).setWidth 8 := by
      unfold withRegisters
      rw [if_neg (by unfold kisdrByte; omega), if_pos (by unfold kisdrByte; omega)]
      simp only [kisdrByte, Nat.add_sub_cancel_left, low]
      exact if_pos (by omega)
    have high : withRegisters mmu mem (kisdrByte i + 1) = (mmu.kpdr i).extractLsb' 8 8 := by
      unfold withRegisters
      rw [if_neg (by unfold kisdrByte; omega), if_pos (by unfold kisdrByte; omega)]
      simp only [kisdrByte, Nat.add_assoc, Nat.add_sub_cancel_left, high]
      exact if_neg (by omega)
    exact (congrArg₂ (· ++ ·) high low).trans (whole _)

end Words

/-! ## The I/O page -/

/-- Page 7 of kernel mode is the I/O page, and page 6 a stack without its first block. -/
structure KernelPages (mem : Nat → BYTE) : Prop where
  io : (kernelMode mem).kpar 7 = 0o7600
  stack : ¬ InPage ((kernelMode mem).kpdr 6) 0

/-- Kernel mode can read and write the whole I/O page. -/
structure KernelMapped (mem : Nat → BYTE) : Prop extends KernelPages mem where
  access : (kernelMode mem).kpdr 7 = pdrAccRw ||| pdrSiz8k

instance KernelMapped.decidable (mem : Nat → BYTE) : Decidable (KernelMapped mem) :=
  decidable_of_iff (((kernelMode mem).kpar 7 = 0o7600 ∧ ¬ InPage ((kernelMode mem).kpdr 6) 0) ∧
    (kernelMode mem).kpdr 7 = pdrAccRw ||| pdrSiz8k)
    ⟨fun h => ⟨⟨h.1.1, h.1.2⟩, h.2⟩, fun h => ⟨⟨h.io, h.stack⟩, h.access⟩⟩

section Io
variable {bus : ADDRESS → Bool} {mem mem' : Nat → BYTE} {addr : ADDRESS} {w : WORD}

theorem KernelPages.same (h : KernelPages mem) (same : SamePages mem mem') : KernelPages mem' := by
  refine ⟨(same 7 (by decide)).1.trans h.io, ?_⟩
  rw [(same 6 (by decide)).2]
  exact h.stack

theorem KernelMapped.same (h : KernelMapped mem) (same : SamePages mem mem') : KernelMapped mem' :=
  ⟨h.toKernelPages.same same, (same 7 (by decide)).2.trans h.access⟩

/-- A page shows a run of memory, which may go round its end. -/
theorem physical_mod (par : WORD) (addr : ADDRESS) :
    physical par addr = (par.toNat * 64 + addr.toNat % 8192) % 262144 := by
  unfold physical blockOf
  omega

theorem pageOf_io (high : 0o160000 ≤ addr.toNat) : pageOf addr = 7 := by
  have low := addr.isLt
  apply Fin.ext
  simp only [pageOf, Fin.ofNat]
  show addr.toNat / 8192 % 8 = 7
  omega

/-- The last page of the address space shows the last one of memory. -/
theorem physical_io (high : 0o160000 ≤ addr.toNat) :
    physical 0o7600 addr = addr.toNat + 0o600000 := by
  have low := addr.isLt
  unfold physical blockOf
  show (3968 + addr.toNat % 8192 / 64) % 4096 * 64 + addr.toNat % 64 = _
  omega

theorem KernelPages.cell (h : KernelPages mem) (high : 0o160000 ≤ addr.toNat) :
    (kernelMode mem).cell addr = addr.toNat + 0o600000 := by
  unfold MMUSTATE.cell
  rw [pageOf_io high, h.io, physical_io high]

theorem KernelMapped.accesses (h : KernelMapped mem) (high : 0o160000 ≤ addr.toNat) :
    (kernelMode mem).Loads addr ∧ (kernelMode mem).Stores addr := by
  have last : blockOf addr ≤ 127 := by unfold blockOf; omega
  have inPage : InPage (pdrAccRw ||| pdrSiz8k) (blockOf addr) := last
  unfold MMUSTATE.Loads MMUSTATE.Stores
  rw [pageOf_io high, h.access]
  exact ⟨⟨by decide, inPage⟩, by decide, inPage⟩

theorem loadWord_done (h : KernelPages mem) (high : 0o160000 ≤ addr.toNat)
    (loaded : loadWord bus mem addr = .ok w) : w = wordIn mem (addr.toNat + 0o600000) := by
  obtain ⟨-, -, rfl⟩ := loadAt_ok.mp loaded
  rw [h.cell high]

theorem storeWord_done (h : KernelPages mem) (high : 0o160000 ≤ addr.toNat)
    (stored : storeWord bus mem addr w = .ok mem') : Responds bus (addr.toNat + 0o600000) ∧
      mem' = putWord mem (addr.toNat + 0o600000) w ∧ KernelPages mem' := by
  obtain ⟨-, there, same, rfl⟩ := storeAt_ok.mp stored
  have after := h.same same
  rw [h.cell high] at there after ⊢
  exact ⟨there, rfl, after⟩

theorem loadWord_io (h : KernelMapped mem) (high : 0o160000 ≤ addr.toNat)
    (there : Responds bus (addr.toNat + 0o600000)) :
    loadWord bus mem addr = .ok (wordIn mem (addr.toNat + 0o600000)) := by
  refine loadAt_ok.mpr ⟨(h.accesses high).1, ?_, ?_⟩
  · rw [h.cell high]
    exact there
  · rw [h.cell high]

theorem storeWord_io (h : KernelMapped mem) (high : 0o160000 ≤ addr.toNat)
    (there : Responds bus (addr.toNat + 0o600000))
    (same : SamePages mem (putWord mem (addr.toNat + 0o600000) w)) :
    storeWord bus mem addr w = .ok (putWord mem (addr.toNat + 0o600000) w) := by
  refine storeAt_ok.mpr ⟨(h.accesses high).2, ?_, ?_, ?_⟩ <;> rw [h.cell high]
  · exact there
  · exact same

end Io

end Muxx
