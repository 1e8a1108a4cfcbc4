import Muxx.Lib.Run
import Muxx.Transfer

/-!
# What a copy is for

muxx_svc_xcopy is to put the bytes of one task into the memory of another and to leave
all else as it was:

* `UserMapped`: the user pages that muxx_setup_taskmem lays;
* `Copied`: what a copy is for;
* `XcopyCopies`, `xcopy_copies`: the ranges with which it always does that.
-/

namespace Muxx

open Copy Fallible Run

namespace Core

/-- The byte of memory that a task has at an address. -/
def taskByte (m : Core) (task : Fin maxTasks) (addr : Nat) : Nat :=
  physical ((m.kernel.tct task).mmuState.upar (pageOf (BitVec.ofNat 16 addr)))
    (BitVec.ofNat 16 addr)

/-- What a copy is for. -/
structure Copied (m m' : Core) (dst src : Fin maxTasks) (dstaddr srcaddr size : WORD) : Prop where
  moved : ∀ i < size.toNat, m'.mem (m.taskByte dst (dstaddr.toNat + i)) =
    m.mem (m.taskByte src (srcaddr.toNat + i))
  kept : ∀ a, (∀ i < size.toNat, a ≠ m.taskByte dst (dstaddr.toNat + i)) → m'.mem a = m.mem a
  par4 : (kernelMode m'.mem).kpar 4 = (kernelMode m.mem).kpar 4
  par5 : (kernelMode m'.mem).kpar 5 = (kernelMode m.mem).kpar 5
  pdr4 : (kernelMode m'.mem).kpdr 4 = (kernelMode m.mem).kpdr 4
  pdr5 : (kernelMode m'.mem).kpdr 5 = (kernelMode m.mem).kpdr 5

end Core

/-- The pages of user mode as muxx_setup_taskmem lays them: those that all tasks share are at
their place, and all start in memory. -/
structure UserMapped (upar : Fin 8 → WORD) : Prop where
  shared : ∀ page : Fin 8, page < 3 → upar page = 128 * BitVec.ofNat 16 page
  start : ∀ page, (upar page).toNat < 4096

instance UserMapped.decidable (upar : Fin 8 → WORD) : Decidable (UserMapped upar) :=
  decidable_of_iff ((∀ page : Fin 8, page < 3 → upar page = 128 * BitVec.ofNat 16 page) ∧
    ∀ page, (upar page).toNat < 4096) ⟨fun h => ⟨h.1, h.2⟩, fun h => ⟨h.shared, h.start⟩⟩

namespace Core

/-- Every copy between tasks, one of which is not named by pid 0, does what it
is for if its ranges do not overlap in memory and it answers EOK. -/
def XcopyCopies (bus : ADDRESS → Bool) (dstaddr srcaddr size : WORD) : Prop :=
  ∀ (m : Core) (dstpid srcpid : WORD) (dst src : Fin maxTasks), KernelPages m.mem →
    findtcb m.kernel dstpid = some dst → findtcb m.kernel srcpid = some src →
    UserMapped (m.kernel.tct dst).mmuState.upar → UserMapped (m.kernel.tct src).mmuState.upar →
    (dstpid ≠ 0 ∨ srcpid ≠ 0) →
    (∀ i < size.toNat, ∀ j < size.toNat,
      m.taskByte src (srcaddr.toNat + i) ≠ m.taskByte dst (dstaddr.toNat + j)) →
    ∀ m', svcXcopy bus m dstpid dstaddr srcpid srcaddr size = .ok (eok, m') →
      Copied m m' dst src dstaddr srcaddr size

end Core

/-! ## Ranges -/

/-- The range lies in one page of 8 KB. -/
def InOnePage (addr size : WORD) : Prop := addr.toNat % 8192 + size.toNat ≤ 8192

/-- With its page at block `par` the range is over registers of the windows. -/
def OverWindows (par addr size : WORD) : Prop := ∃ i < size.toNat, WindowByte (destCell par addr i)

/-- There the range can be read. -/
def ReadsThrough (bus : ADDRESS → Bool) (par addr size : WORD) : Prop :=
  ∀ i < size.toNat, Responds bus (destCell par addr i)

/-- There the range can be written, or up to a byte of the register that moves the window to
other memory. -/
def WritesThrough (bus : ADDRESS → Bool) (par addr size : WORD) : Prop :=
  ReadsThrough bus par addr size ∨ ∃ i < size.toNat, Kisar5Byte (destCell par addr i) ∧
    ∀ j < i, Responds bus (destCell par addr j)

/-- There the range has no byte of the other one, when that is in a page that all tasks share. -/
def ClearOfShared (par addr other size : WORD) : Prop :=
  pageOf other < 3 → ∀ i < size.toNat, ∀ j < size.toNat, destCell par addr i ≠ other.toNat + j

/-- A task can have its page where the range reads registers of the windows. -/
def ReadsWindows (bus : ADDRESS → Bool) (addr other size : WORD) : Prop :=
  ¬ pageOf addr < 3 ∧ ∃ par : WORD, par.toNat < 4096 ∧ OverWindows par addr size ∧
    ReadsThrough bus par addr size ∧ ClearOfShared par addr other size

/-- A task can have its page where the range writes registers of the windows. -/
def WritesWindows (bus : ADDRESS → Bool) (addr other size : WORD) : Prop :=
  ¬ pageOf addr < 3 ∧ ∃ par : WORD, par.toNat < 4096 ∧ OverWindows par addr size ∧
    WritesThrough bus par addr size ∧ ClearOfShared par addr other size

/-- The ranges have an address in common in the pages that all tasks share. -/
def ShareKernel (dstaddr srcaddr size : WORD) : Prop :=
  ∃ i < size.toNat, ∃ j < size.toNat, (srcaddr.toNat + i) % 65536 < 0o60000 ∧
    (srcaddr.toNat + i) % 65536 = (dstaddr.toNat + j) % 65536

section Ranges
variable {bus : ADDRESS → Bool} {upar : Fin 8 → WORD} {addr size : WORD} {i : Nat}

theorem onePage_turns : InOnePage addr size ↔ turns addr size = 0 := by
  rw [turns_none, offset_toNat]
  rfl

theorem destCell_within {par : WORD} (page : InOnePage addr size) (bound : i < size.toNat) :
    destCell par addr i = (par.toNat * 64 + addr.toNat % 8192 + i) % 262144 := by
  unfold InOnePage at page
  rw [destCell, physical_mod, small_toNat]
  omega

theorem sourceCell_within {par4 par5 : WORD} (page : InOnePage addr size) (bound : i < size.toNat) :
    sourceCell par4 par5 addr i = destCell par4 addr i := by
  unfold InOnePage at page
  rw [sourceCell, if_pos (by omega), destCell]

/-- Within its page a range has no byte twice. -/
theorem destCell_inj {par : WORD} {j : Nat} (page : InOnePage addr size) (bound : i < size.toNat)
    (bound' : j < size.toNat) (same : destCell par addr i = destCell par addr j) : i = j := by
  rw [destCell_within page bound, destCell_within page bound'] at same
  unfold InOnePage at page
  omega

/-- The page of an address that all tasks share. -/
theorem shared_toNat (low : pageOf addr < 3) : addr.toNat < 0o60000 ∧
    (128 * BitVec.ofNat 16 (pageOf addr) : WORD).toNat * 64 = addr.toNat / 8192 * 8192 := by
  have top := addr.isLt
  have number : (pageOf addr).val = addr.toNat / 8192 := by
    show addr.toNat / 8192 % 8 = _
    omega
  have under : (pageOf addr).val < 3 := low
  have all : ∀ page : Fin 8, (128 * BitVec.ofNat 16 page : WORD).toNat = 128 * page.val := by decide
  rw [all]
  omega

/-- A range in such a page is where its addresses say. -/
theorem UserMapped.shared_cell (h : UserMapped upar) (page : InOnePage addr size) (low : pageOf addr < 3)
    (bound : i < size.toNat) : destCell (upar (pageOf addr)) addr i = addr.toNat + i := by
  obtain ⟨top, place⟩ := shared_toNat low
  rw [destCell_within page bound, h.shared _ low]
  unfold InOnePage at page
  omega

/-- The shared pages are not over the windows. -/
theorem UserMapped.unshared (h : UserMapped upar) (page : InOnePage addr size) (bound : i < size.toNat)
    (window : WindowByte (destCell (upar (pageOf addr)) addr i)) : ¬ pageOf addr < 3 := by
  intro low
  obtain ⟨top, -⟩ := shared_toNat low
  rw [h.shared_cell page low bound] at window
  unfold InOnePage at page
  unfold WindowByte at window
  omega

end Ranges

/-! ## Within the pages -/

section Within
variable {bus : ADDRESS → Bool} {mem : Nat → BYTE} {par4 par5 : WORD} {src dst : Nat → Nat} {n : Nat}

/-- The windows stay where they are when their registers are not written. -/
theorem Laid.copied (h : Laid mem par4 par5) (src dst : Nat → Nat) (clear : ∀ i < n, ¬ WindowByte (dst i)) :
    Laid (copy src dst n mem) par4 par5 := by
  have kept (p : Nat) (window : WindowByte p) : copy src dst n mem p = mem p :=
    copy_kept fun i bound same => clear i bound (same ▸ window)
  have word (p : Nat) (low : WindowByte p) (high : WindowByte (p + 1)) :
      wordIn (copy src dst n mem) p = wordIn mem p := wordIn_congr (kept p low) (kept _ high)
  constructor
  · exact (word _ (by decide) (by decide)).trans h.par4
  · exact (word _ (by decide) (by decide)).trans h.par5
  · exact (word _ (by decide) (by decide)).trans h.pdr4
  · exact (word _ (by decide) (by decide)).trans h.pdr5

/-- Where the pointers have not moved, closing the windows puts back what was there. -/
theorem closed_window {m : Nat → BYTE} {p : Nat} (window : WindowByte p) :
    closed m (windowRegs mem) 0 0 p = mem p := by
  have bytes : p = kisarByte 4 ∨ p = kisarByte 4 + 1 ∨ p = kisarByte 5 ∨ p = kisarByte 5 + 1 ∨
      p = kisdrByte 4 ∨ p = kisdrByte 4 + 1 ∨ p = kisdrByte 5 ∨ p = kisdrByte 5 + 1 := by
    unfold WindowByte at window
    simp only [kisarByte, kisdrByte]
    simp
    omega
  have low (p : Nat) : (wordIn mem p).setWidth 8 = mem p := BitVec.setWidth_append_eq_right
  have high (p : Nat) : (wordIn mem p).extractLsb' 8 8 = mem (p + 1) :=
    BitVec.extractLsb'_append_eq_left
  have regs : windowRegs mem = { pdr4 := wordIn mem (kisdrByte 4), pdr5 := wordIn mem (kisdrByte 5)
                                 par4 := wordIn mem (kisarByte 4)
                                 par5 := wordIn mem (kisarByte 5) } := rfl
  rw [closed, regs]
  rcases bytes with rfl | rfl | rfl | rfl | rfl | rfl | rfl | rfl <;>
    simp [putWord, kisarByte, kisdrByte, low, high]

theorem closed_other {m : Nat → BYTE} {regs : WindowRegs} {p : Nat} (out : ¬ WindowByte p) :
    closed m regs 0 0 p = m p := by
  unfold WindowByte at out
  unfold closed
  rw [putWord_ne, putWord_ne, putWord_ne, putWord_ne] <;>
    simp only [kisarByte, kisdrByte] <;> simp <;> omega

end Within
namespace Core

section Bytes
variable {m : Core} {task : Fin maxTasks} {addr size : WORD} {i : Nat}

/-- Within a page, the bytes of a task lie under the page's address register. -/
theorem taskByte_within (task : Fin maxTasks) (page : InOnePage addr size) (bound : i < size.toNat) :
    m.taskByte task (addr.toNat + i) =
      destCell ((m.kernel.tct task).mmuState.upar (pageOf addr)) addr i := by
  unfold InOnePage at page
  have low := addr.isLt
  have here : pageOf (BitVec.ofNat 16 (addr.toNat + i)) = pageOf addr := by
    apply pageOf_congr
    rw [BitVec.toNat_ofNat]
    omega
  unfold taskByte destCell
  rw [here]
  apply physical_congr
  rw [small_toNat, BitVec.toNat_ofNat]
  omega

theorem copied_nothing (m : Core) (dst src : Fin maxTasks) (dstaddr srcaddr : WORD) :
    Copied m m dst src dstaddr srcaddr 0 :=
  ⟨fun i bound => absurd bound (Nat.not_lt_zero i), fun _ _ => rfl, rfl, rfl, rfl, rfl⟩

theorem closed_kernelMode {mem m : Nat → BYTE} :
    ((kernelMode (closed m (windowRegs mem) 0 0)).kpar 4 = (kernelMode mem).kpar 4 ∧
      (kernelMode (closed m (windowRegs mem) 0 0)).kpar 5 = (kernelMode mem).kpar 5) ∧
    (kernelMode (closed m (windowRegs mem) 0 0)).kpdr 4 = (kernelMode mem).kpdr 4 ∧
      (kernelMode (closed m (windowRegs mem) 0 0)).kpdr 5 = (kernelMode mem).kpdr 5 := by
  refine ⟨⟨?_, ?_⟩, ?_, ?_⟩ <;>
    exact wordIn_congr (closed_window (by decide)) (closed_window (by decide))

end Bytes

section Holds
variable {bus : ADDRESS → Bool} {m m' : Core} {dst src : Fin maxTasks}
variable {dstpid srcpid dstaddr srcaddr size : WORD}

/-- Ranges that are nowhere the same are clear of the shared pages. -/
theorem clear_of_shared {task other : Fin maxTasks} {addr addr' : WORD}
    (page : InOnePage addr size) (page' : InOnePage addr' size)
    (mapped : UserMapped (m.kernel.tct other).mmuState.upar)
    (disjoint : ∀ i < size.toNat, ∀ j < size.toNat,
      m.taskByte task (addr.toNat + i) ≠ m.taskByte other (addr'.toNat + j)) :
    ClearOfShared ((m.kernel.tct task).mmuState.upar (pageOf addr)) addr addr' size := by
  intro low i bound j bound' same
  apply disjoint i bound j bound'
  rw [taskByte_within task page bound, taskByte_within other page' bound',
    mapped.shared_cell page' low bound']
  exact same

/-- The destination is over the windows only if it could be written there. -/
theorem dest_clear {mem : Nat → BYTE} {upar : Fin 8 → WORD} {par4 : WORD} {c : Copying}
    (mapped : UserMapped upar) (page : InOnePage dstaddr size)
    (unwritten : ¬ WritesWindows bus dstaddr srcaddr size)
    (clear : ClearOfShared (upar (pageOf dstaddr)) dstaddr srcaddr size)
    (laid : Laid mem par4 (upar (pageOf dstaddr)))
    (copied : copyBytes bus size.toNat (.start srcaddr dstaddr mem) = .ok c) {i : Nat}
    (bound : i < size.toNat) : ¬ WindowByte (destCell (upar (pageOf dstaddr)) dstaddr i) := by
  have answers {j : Nat} (bound : j < size.toNat)
      (before : ∀ l < j, ¬ Kisar5Byte (destCell (upar (pageOf dstaddr)) dstaddr l)) :
      Responds bus (destCell (upar (pageOf dstaddr)) dstaddr j) :=
    dest_answers laid.par5 page copied bound before
  intro window
  refine unwritten ⟨mapped.unshared page bound window, _, mapped.start _, ⟨i, bound, window⟩, ?_, clear⟩
  by_cases reached : ∃ j, j < size.toNat ∧ Kisar5Byte (destCell (upar (pageOf dstaddr)) dstaddr j)
  · -- the first byte of the register that is reached
    right
    obtain ⟨bound, moved⟩ := Nat.find_spec reached
    refine ⟨Nat.find reached, bound, moved, fun l earlier => ?_⟩
    refine answers (earlier.trans bound) fun l' earlier' at_five => ?_
    exact Nat.find_min reached (earlier'.trans earlier)
      ⟨(earlier'.trans earlier).trans bound, at_five⟩
  · left
    intro j bound
    refine answers bound fun l earlier at_five => reached ⟨l, earlier.trans bound, at_five⟩

/-- Copies that stay within a page on both sides and clear of the windows do what they
are for. -/
theorem copies_within (srcPage : InOnePage srcaddr size) (dstPage : InOnePage dstaddr size)
    (unread : ¬ ReadsWindows bus srcaddr dstaddr size)
    (unwritten : ¬ WritesWindows bus dstaddr srcaddr size) : XcopyCopies bus dstaddr srcaddr size := by
  intro m dstpid srcpid dst src mapped dstFound srcFound dstMapped srcMapped apart disjoint m' called
  by_cases nonempty : size = 0
  · subst nonempty
    cases called
    exact copied_nothing m dst src dstaddr srcaddr
  obtain ⟨-, transferred⟩ := svcXcopy_eok nonempty apart dstFound srcFound called
  obtain ⟨c, copied, -, -, mem⟩ := transfer_done mapped transferred
  rw [onePage_turns.mp srcPage, onePage_turns.mp dstPage] at mem
  have laid := opened_laid m.mem ((m.kernel.tct src).mmuState.upar (pageOf srcaddr))
    ((m.kernel.tct dst).mmuState.upar (pageOf dstaddr))
  have clear := clear_of_shared dstPage srcPage srcMapped fun i bound j bound' =>
    (disjoint j bound' i bound).symm
  have dstClear {i : Nat} (bound : i < size.toNat) :=
    dest_clear dstMapped dstPage unwritten clear laid copied bound
  have stay {i : Nat} (bound : i ≤ size.toNat) := laid.copied
    (sourceCell ((m.kernel.tct src).mmuState.upar (pageOf srcaddr))
      ((m.kernel.tct dst).mmuState.upar (pageOf dstaddr)) srcaddr)
    (destCell ((m.kernel.tct dst).mmuState.upar (pageOf dstaddr)) dstaddr)
    fun j earlier => dstClear (lt_of_lt_of_le (b := i) earlier bound)
  obtain ⟨goes, cells⟩ := (copyBytes_ok dstPage fun i bound => stay (Nat.le_of_lt bound)).mp
    ⟨c, copied, rfl⟩
  have dest {i : Nat} (bound : i < size.toNat) := taskByte_within (m := m) dst dstPage bound
  have source {i : Nat} (bound : i < size.toNat) :
      sourceCell ((m.kernel.tct src).mmuState.upar (pageOf srcaddr))
        ((m.kernel.tct dst).mmuState.upar (pageOf dstaddr)) srcaddr i =
          m.taskByte src (srcaddr.toNat + i) := by
    rw [taskByte_within src srcPage bound, sourceCell_within srcPage bound]
  have srcClear {i : Nat} (bound : i < size.toNat) :
      ¬ WindowByte (m.taskByte src (srcaddr.toNat + i)) := by
    intro window
    rw [taskByte_within src srcPage bound] at window
    refine unread ⟨srcMapped.unshared srcPage bound window, _, srcMapped.start _, ⟨i, bound, window⟩,
      fun j bound => ?_, clear_of_shared srcPage dstPage dstMapped disjoint⟩
    rw [← taskByte_within src srcPage bound, ← source bound]
    exact (goes j bound).source
  obtain ⟨⟨par4, par5⟩, pdr4, pdr5⟩ := @closed_kernelMode m.mem c.mem
  rw [← mem] at par4 par5 pdr4 pdr5
  refine ⟨?_, ?_, par4, par5, pdr4, pdr5⟩
  · intro i bound
    rw [mem, closed_other (by rw [dest bound]; exact dstClear bound), cells, dest bound, copy_moved _ _ bound,
      source bound, opened_other (srcClear bound)]
    · intro i bound j before same
      rw [source bound, ← dest (before.trans bound)] at same
      exact disjoint i bound j (before.trans bound) same
    · intro i bound j before same
      have := destCell_inj dstPage bound (before.trans bound) same
      omega
  · intro a other
    rw [mem]
    by_cases window : WindowByte a
    · exact closed_window window
    · rw [closed_other window, cells, copy_kept fun i bound => dest bound ▸ other i bound,
        opened_other window]

/-- Copies that cannot come back, or whose ranges overlap in every pair of tasks. -/
theorem copies_never (never : ¬ InOnePage dstaddr size ∨
    ¬ (Answered bus 4 (turns srcaddr size) ∧ Answered bus 5 (turns dstaddr size)) ∨
      ShareKernel dstaddr srcaddr size) : XcopyCopies bus dstaddr srcaddr size := by
  intro m dstpid srcpid dst src mapped dstFound srcFound dstMapped srcMapped apart disjoint m' called
  by_cases nonempty : size = 0
  · subst nonempty
    cases called
    exact copied_nothing m dst src dstaddr srcaddr
  obtain ⟨-, transferred⟩ := svcXcopy_eok nonempty apart dstFound srcFound called
  obtain ⟨c, copied, pages, answered, -⟩ := transfer_done mapped transferred
  rcases never with beyond | silent | ⟨i, bound, j, bound', low, same⟩
  · exact absurd copied (copyBytes_crossing pages (Nat.not_le.mp beyond))
  · exact absurd answered silent
  · refine absurd ?_ (disjoint i bound j bound')
    have address : BitVec.ofNat 16 (srcaddr.toNat + i) = BitVec.ofNat 16 (dstaddr.toNat + j) :=
      BitVec.eq_of_toNat_eq (by rw [BitVec.toNat_ofNat, BitVec.toNat_ofNat]; exact same)
    have kernel : pageOf (BitVec.ofNat 16 (dstaddr.toNat + j)) < 3 := by
      show (BitVec.ofNat 16 (dstaddr.toNat + j)).toNat / 8192 % 8 < 3
      rw [BitVec.toNat_ofNat]
      omega
    unfold taskByte
    rw [address, srcMapped.shared _ kernel, dstMapped.shared _ kernel]

end Holds

end Core
/-! ## Copies that fail -/

namespace Core

/-- A page of a task: the shared ones at their place, page `own` at block `par`, and the others
in 64 KB of its own. -/
def pageAt (first : WORD) (own : Fin 8) (par : WORD) (page : Fin 8) : WORD :=
  if page < 3 then 128 * BitVec.ofNat 16 page
  else if page = own then par
  else first + 128 * BitVec.ofNat 16 page

/-- INIT and two tasks with memory of their own. -/
def spreadKernel (srcOwn : Fin 8) (srcPar : WORD) (dstOwn : Fin 8) (dstPar : WORD) : Kernel where
  tct := fun i =>
    if i = 0 then { pid := 1, privileges := 1, status := .run }
    else if i = 1 then { pid := 2, mmuState := { upar := pageAt 1024 srcOwn srcPar } }
    else if i = 2 then { pid := 3, mmuState := { upar := pageAt 2048 dstOwn dstPar } }
    else {}
  curtcb := 0
  mmcbt := {}

def spread (srcOwn : Fin 8) (srcPar : WORD) (dstOwn : Fin 8) (dstPar : WORD) (mem : Nat → BYTE) :
    Core :=
  ⟨spreadKernel srcOwn srcPar dstOwn dstPar, mem⟩

/-- Kernel mode has the I/O page and a stack, and all ones in the registers of pages 4
and 5. -/
def ones : Nat → BYTE :=
  putWord (putWord (putWord (fun _ => 0xFF) (kisarByte 7) 0o7600) (kisdrByte 7)
    (pdrAccRw ||| pdrSiz8k)) (kisdrByte 6) 0x400E

theorem ones_window {p : Nat} (window : WindowByte p) : ones p = 0xFF := by
  unfold WindowByte at window
  unfold ones
  rw [putWord_ne, putWord_ne, putWord_ne] <;> simp only [kisarByte, kisdrByte] <;> simp <;> omega

theorem ones_mapped {mem : Nat → BYTE} (same : ∀ a, InUnit a → mem a = ones a) : KernelMapped mem := by
  have registers := kernelMode_congr same
  refine ⟨⟨?_, ?_⟩, ?_⟩ <;> rw [registers] <;> decide

section Spread
variable {bus : ADDRESS → Bool} {dstaddr srcaddr size : WORD} {srcOwn dstOwn own : Fin 8}
variable {srcPar dstPar par first : WORD} {mem : Nat → BYTE}

theorem spreadKernel_tasks (srcOwn : Fin 8) (srcPar : WORD) (dstOwn : Fin 8) (dstPar : WORD) :
    findtcb (spreadKernel srcOwn srcPar dstOwn dstPar) 3 = some 2 ∧
      findtcb (spreadKernel srcOwn srcPar dstOwn dstPar) 2 = some 1 := ⟨rfl, rfl⟩

/-- Where the tasks have their memory. -/
theorem pageAt_toNat (far : first = 1024 ∨ first = 2048) (own : Fin 8) (par : WORD) (page : Fin 8) :
    (pageAt first own par page).toNat = if page < 3 then 128 * page.val
      else if page = own then par.toNat else first.toNat + 128 * page.val := by
  unfold pageAt
  have low : ∀ page : Fin 8, (128 * BitVec.ofNat 16 page : WORD).toNat = 128 * page.val := by decide
  have high : ∀ page : Fin 8, (1024 + 128 * BitVec.ofNat 16 page : WORD).toNat = 1024 + 128 * page.val ∧
      (2048 + 128 * BitVec.ofNat 16 page : WORD).toNat = 2048 + 128 * page.val := by decide
  split_ifs
  · exact low page
  · rfl
  · rcases far with rfl | rfl
    · exact (high page).1
    · exact (high page).2

theorem far_toNat (far : first = 1024 ∨ first = 2048) : first.toNat = 1024 ∨ first.toNat = 2048 := by
  rcases far with rfl | rfl
  · exact .inl rfl
  · exact .inr rfl

theorem pageAt_mapped (far : first = 1024 ∨ first = 2048) (own : Fin 8) (start : par.toNat < 4096) :
    UserMapped (pageAt first own par) := by
  refine ⟨fun page low => if_pos low, fun page => ?_⟩
  have small : page.val < 8 := page.isLt
  have place := far_toNat far
  rw [pageAt_toNat far]
  split_ifs <;> omega

theorem plain_mapped (far : first = 1024 ∨ first = 2048) : UserMapped (pageAt first 0 0) :=
  pageAt_mapped far 0 (by decide)

theorem plain_page : ∀ page : Fin 8, page < 3 ∨ page ≠ 0 := by decide

theorem plain_toNat (far : first = 1024 ∨ first = 2048) (page : Fin 8) :
    (pageAt first 0 0 page).toNat = if page < 3 then 128 * page.val else first.toNat + 128 * page.val := by
  rw [pageAt_toNat far]
  split
  case isTrue => rfl
  case isFalse own => rw [if_neg ((plain_page page).resolve_left own)]

/-- The pages in memory. -/
theorem plain_ram (far : first = 1024 ∨ first = 2048) (page : Fin 8) (addr : ADDRESS) :
    physical (pageAt first 0 0 page) addr < 0o600000 := by
  have small : page.val < 8 := page.isLt
  have place := far_toNat far
  have low : (pageAt first 0 0 page).toNat ≤ 2048 + 128 * 7 := by
    rw [plain_toNat far]
    split_ifs <;> omega
  rw [physical_mod]
  omega

/-- A byte of one of the tasks. -/
theorem plain_byte (far : first = 1024 ∨ first = 2048) (a : Nat) :
    physical (pageAt first 0 0 (pageOf (BitVec.ofNat 16 a))) (BitVec.ofNat 16 a) =
      if a % 65536 / 8192 < 3 then a % 65536 else first.toNat * 64 + a % 65536 := by
  have page : (pageOf (BitVec.ofNat 16 a)).val = a % 65536 / 8192 := by
    show (BitVec.ofNat 16 a).toNat / 8192 % 8 = _
    rw [BitVec.toNat_ofNat]
    omega
  have kernel : pageOf (BitVec.ofNat 16 a) < 3 ↔ a % 65536 / 8192 < 3 := by
    rw [← page]
    exact Iff.rfl
  have place := far_toNat far
  rw [physical_mod, plain_toNat far, page, BitVec.toNat_ofNat]
  simp only [kernel]
  split_ifs <;> omega

/-- The two tasks have only the shared pages in common. -/
theorem plain_disjoint (unshared : ¬ ShareKernel dstaddr srcaddr size) (i : Nat) (bound : i < size.toNat)
    (j : Nat) (bound' : j < size.toNat) : (spread 0 0 0 0 mem).taskByte 1 (srcaddr.toNat + i) ≠
      (spread 0 0 0 0 mem).taskByte 2 (dstaddr.toNat + j) := by
  intro same
  have same : physical (pageAt 1024 0 0 (pageOf (BitVec.ofNat 16 (srcaddr.toNat + i)))) _ =
    physical (pageAt 2048 0 0 (pageOf (BitVec.ofNat 16 (dstaddr.toNat + j)))) _ := same
  have first : (1024 : WORD).toNat = 1024 := rfl
  have second : (2048 : WORD).toNat = 2048 := rfl
  rw [plain_byte (.inl rfl), plain_byte (.inr rfl), first, second] at same
  split_ifs at same with low
  · exact unshared ⟨i, bound, j, bound', by omega, same⟩
  all_goals omega

/-- A page near the end of memory has nothing of the other task. -/
theorem high_apart {addr other : WORD} (far : first = 1024 ∨ first = 2048) (high : 0o600000 ≤ par.toNat * 64)
    (start : par.toNat < 4096) (page : InOnePage addr size) (page' : InOnePage other size)
    (clear : ClearOfShared par addr other size) {i j : Nat} (bound : i < size.toNat)
    (bound' : j < size.toNat) :
    destCell par addr i ≠ destCell (pageAt first 0 0 (pageOf other)) other j := by
  intro same
  by_cases low : pageOf other < 3
  · rw [(plain_mapped far).shared_cell page' low bound'] at same
    exact clear low i bound j bound' same
  · have place := far_toNat far
    have three : ¬ (pageOf other).val < 3 := low
    have small : (pageOf other).val < 8 := (pageOf other).isLt
    rw [destCell_within page bound, destCell_within page' bound', plain_toNat far, if_neg low] at same
    unfold InOnePage at page page'
    omega

/-- What a copy that does what it is for would leave. -/
theorem spread_copied (copies : XcopyCopies bus dstaddr srcaddr size)
    (srcStart : srcPar.toNat < 4096) (dstStart : dstPar.toNat < 4096)
    (disjoint : ∀ i < size.toNat, ∀ j < size.toNat,
      (spread srcOwn srcPar dstOwn dstPar mem).taskByte 1 (srcaddr.toNat + i) ≠
        (spread srcOwn srcPar dstOwn dstPar mem).taskByte 2 (dstaddr.toNat + j))
    (same : ∀ a, InUnit a → mem a = ones a) (nonempty : size ≠ 0) {c : Copying}
    (copied : copyBytes bus size.toNat (.start srcaddr dstaddr (opened mem
      (pageAt 1024 srcOwn srcPar (pageOf srcaddr)) (pageAt 2048 dstOwn dstPar (pageOf dstaddr)))) = .ok c)
    (answered : Answered bus 4 (turns srcaddr size) ∧ Answered bus 5 (turns dstaddr size)) :
    Copied (spread srcOwn srcPar dstOwn dstPar mem) { spread srcOwn srcPar dstOwn dstPar mem with
      mem := closed c.mem (windowRegs mem) (turns srcaddr size) (turns dstaddr size) }
        2 1 dstaddr srcaddr size := by
  have mapped := ones_mapped same
  obtain ⟨dstFound, srcFound⟩ := spreadKernel_tasks srcOwn srcPar dstOwn dstPar
  have read : mayRead (spreadKernel srcOwn srcPar dstOwn dstPar) 1 := .inl rfl
  have write : mayWrite (spreadKernel srcOwn srcPar dstOwn dstPar) 2 := .inl rfl
  have transferred : transfer bus mem (pageAt 1024 srcOwn srcPar) (pageAt 2048 dstOwn dstPar) srcaddr
      dstaddr size = .ok (closed c.mem (windowRegs mem) (turns srcaddr size) (turns dstaddr size)) :=
    transfer_made mapped copied answered
  refine copies (spread srcOwn srcPar dstOwn dstPar mem) 3 2 2 1 mapped.toKernelPages dstFound srcFound
    (pageAt_mapped (.inr rfl) dstOwn dstStart) (pageAt_mapped (.inl rfl) srcOwn srcStart) (by decide)
    disjoint _ ?_
  rw [svcXcopy_eq nonempty (by decide) dstFound srcFound, if_neg]
  · show (transfer bus mem (pageAt 1024 srcOwn srcPar) (pageAt 2048 dstOwn dstPar) srcaddr dstaddr
      size >>= _) = _
    rw [transferred]
    rfl
  · exact fun refused => refused.elim (· read) (· write)

end Spread

section Fails
variable {bus : ADDRESS → Bool} {dstaddr srcaddr size addr : WORD} {mem : Nat → BYTE} {i : Nat}

theorem pageAt_own {first par : WORD} {page : Fin 8} (own : ¬ page < 3) :
    pageAt first page par page = par := by
  unfold pageAt
  rw [if_neg own, if_pos rfl]

/-- Where a page must lie to be over the windows. -/
theorem over_high {par : WORD} (page : InOnePage addr size) (start : par.toNat < 4096)
    (covers : OverWindows par addr size) :
    0o600000 ≤ par.toNat * 64 ∧ 3840 ≤ par.toNat ∧ par.setWidth 8 ≠ 255#8 := by
  obtain ⟨i, bound, window⟩ := covers
  rw [destCell_within page bound] at window
  unfold InOnePage at page
  unfold WindowByte at window
  refine ⟨by omega, by omega, fun same => ?_⟩
  have same := congrArg BitVec.toNat same
  rw [BitVec.toNat_setWidth] at same
  have : (255#8).toNat = 255 := rfl
  omega

theorem memory_clear {p : Nat} (low : p < 0o600000) : ¬ InUnit p ∧ Responds bus p := by
  refine ⟨?_, .inl (low.trans (by decide))⟩
  unfold InUnit
  omega

/-- Copies that write no page register. -/
theorem copy_clear {src dst : Nat → Nat} {n : Nat} (clear : ∀ i < n, ¬ InUnit (dst i)) {a : Nat}
    (inUnit : InUnit a) : copy src dst n mem a = mem a :=
  copy_kept fun i bound same => clear i bound (same ▸ inUnit)

theorem clear_goes {src dst : Nat → Nat} {n : Nat}
    (clear : ∀ i < n, ¬ InUnit (dst i) ∧ Responds bus (dst i)) (source : ∀ i < n, Responds bus (src i))
    (i : Nat) (bound : i < n) : ByteGoes bus src dst mem i := by
  refine ⟨source i bound, (clear i bound).2, samePages_memory fun a inUnit => ?_⟩
  rw [copy_clear (fun j earlier => (clear j (by omega)).1) inUnit,
    copy_clear (fun j earlier => (clear j (by omega)).1) inUnit]

theorem clear_copied {par4 par5 : WORD} (page : InOnePage dstaddr size)
    (clear : ∀ i < size.toNat, ¬ InUnit (destCell par5 dstaddr i) ∧ Responds bus (destCell par5 dstaddr i))
    (source : ∀ i < size.toNat, Responds bus (sourceCell par4 par5 srcaddr i)) :
    ∃ c, copyBytes bus size.toNat (.start srcaddr dstaddr (opened mem par4 par5)) = .ok c ∧
      Laid c.mem par4 par5 ∧ c.mem = copy (sourceCell par4 par5 srcaddr) (destCell par5 dstaddr)
        size.toNat (opened mem par4 par5) := by
  have laid {n : Nat} (le : n ≤ size.toNat) : Laid (copy (sourceCell par4 par5 srcaddr)
      (destCell par5 dstaddr) n (opened mem par4 par5)) par4 par5 :=
    (opened_laid mem par4 par5).copied _ _ fun i bound window =>
      (clear i (by omega)).1 window.inUnit
  obtain ⟨c, copied, cells⟩ := (copyBytes_ok page fun i bound => laid (Nat.le_of_lt bound)).mpr
    ⟨clear_goes clear source, rfl⟩
  exact ⟨c, copied, cells ▸ laid (Nat.le_refl _), cells⟩

/-- A pointer that has moved does not put its register back. -/
theorem closed_moved {m : Nat → BYTE} {regs : WindowRegs} {t4 t5 : Nat} (moved : t4 ≠ 0) :
    (kernelMode (closed m regs t4 t5)).kpar 4 = (kernelMode m).kpar 4 := by
  show wordIn (closed m regs t4 t5) (kisarByte 4) = wordIn m (kisarByte 4)
  have four : kisarByte 4 = 0o772350 := rfl
  have five : kisarByte 5 = 0o772352 := rfl
  have four' : kisdrByte 4 = 0o772310 := rfl
  have five' : kisdrByte 5 = 0o772312 := rfl
  unfold closed
  rw [wordIn_putWord_ne (by omega), wordIn_putWord_ne (by omega), wordIn_putWord_ne (by omega),
    wordIn_putWord_ne (by omega)]

/-- A source over the end of its page, and something takes what the restore writes. -/
theorem fails_crossing (crosses : ¬ InOnePage srcaddr size) (dstPage : InOnePage dstaddr size)
    (answered : Answered bus 4 (turns srcaddr size)) (unshared : ¬ ShareKernel dstaddr srcaddr size) :
    ¬ XcopyCopies bus dstaddr srcaddr size := by
  intro copies
  have nonempty : size ≠ 0 := by
    rintro rfl
    exact crosses (by unfold InOnePage; show _ + 0 ≤ 8192; omega)
  obtain ⟨c, copied, laid, -⟩ := @clear_copied bus dstaddr srcaddr size ones
    (pageAt 1024 0 0 (pageOf srcaddr)) (pageAt 2048 0 0 (pageOf dstaddr)) dstPage
    (fun i _ => memory_clear (plain_ram (.inr rfl) _ _)) (fun i _ => .inl (by
      unfold sourceCell
      split
      · exact (plain_ram (.inl rfl) _ _).trans (by decide)
      · exact (plain_ram (.inr rfl) _ _).trans (by decide)))
  have restored := (spread_copied copies (by decide) (by decide) (plain_disjoint unshared)
    (fun _ _ => rfl) nonempty copied ⟨answered, .inl (onePage_turns.mp dstPage)⟩).par4
  have still : (kernelMode (closed c.mem (windowRegs ones) (turns srcaddr size)
      (turns dstaddr size))).kpar 4 = (kernelMode ones).kpar 4 := restored
  rw [closed_moved fun none => crosses (onePage_turns.mpr none), laid.par4] at still
  have start := (@plain_mapped 1024 (.inl rfl)).start (pageOf srcaddr)
  rw [still] at start
  exact absurd start (by decide)

/-- In an open window no byte of the registers is all ones. -/
theorem opened_window {par4 par5 : WORD} (fits4 : par4.toNat < 4096) (fits5 : par5.toNat < 4096)
    (low4 : par4.setWidth 8 ≠ 255#8) (low5 : par5.setWidth 8 ≠ 255#8) {p : Nat} (window : WindowByte p) :
    opened mem par4 par5 p ≠ 0xFF := by
  have bytes : p = kisarByte 4 ∨ p = kisarByte 4 + 1 ∨ p = kisarByte 5 ∨ p = kisarByte 5 + 1 ∨
      p = kisdrByte 4 ∨ p = kisdrByte 4 + 1 ∨ p = kisdrByte 5 ∨ p = kisdrByte 5 + 1 := by
    unfold WindowByte at window
    simp only [kisarByte, kisdrByte]
    simp
    omega
  have high {w : WORD} (fits : w.toNat < 4096) : w.extractLsb' 8 8 ≠ 255#8 := by
    intro same
    have same := congrArg BitVec.toNat same
    rw [BitVec.extractLsb'_toNat, Nat.shiftRight_eq_div_pow] at same
    have : (255#8).toNat = 255 := rfl
    omega
  rcases bytes with rfl | rfl | rfl | rfl | rfl | rfl | rfl | rfl <;>
    simp [opened, putWord, kisarByte, kisdrByte, windowPdr, low4, low5, high fits4, high fits5]

theorem plain_low {first : WORD} (far : first = 1024 ∨ first = 2048) (page : Fin 8) :
    (pageAt first 0 0 page).setWidth 8 ≠ 255#8 := by
  rcases far with rfl | rfl <;> revert page <;> decide

/-- A source over the registers of its own windows. -/
theorem fails_source (srcPage : InOnePage srcaddr size) (dstPage : InOnePage dstaddr size)
    (reads : ReadsWindows bus srcaddr dstaddr size) : ¬ XcopyCopies bus dstaddr srcaddr size := by
  intro copies
  obtain ⟨own, par, start, covers, read, clear⟩ := reads
  obtain ⟨high, -, low4⟩ := over_high srcPage start covers
  obtain ⟨w, bound, window⟩ := covers
  have four : pageAt 1024 (pageOf srcaddr) par (pageOf srcaddr) = par := pageAt_own own
  have nonempty : size ≠ 0 := by
    rintro rfl
    exact absurd bound (Nat.not_lt_zero w)
  have source {i : Nat} (bound : i < size.toNat) :
      (spread (pageOf srcaddr) par 0 0 ones).taskByte 1 (srcaddr.toNat + i) = destCell par srcaddr i := by
    rw [taskByte_within 1 srcPage bound]
    exact congrArg (destCell · srcaddr i) four
  have dest {i : Nat} (bound : i < size.toNat) :
      (spread (pageOf srcaddr) par 0 0 ones).taskByte 2 (dstaddr.toNat + i) =
        destCell (pageAt 2048 0 0 (pageOf dstaddr)) dstaddr i := taskByte_within 2 dstPage bound
  have disjoint (i : Nat) (bound : i < size.toNat) (j : Nat) (bound' : j < size.toNat) :
      (spread (pageOf srcaddr) par 0 0 ones).taskByte 1 (srcaddr.toNat + i) ≠
        (spread (pageOf srcaddr) par 0 0 ones).taskByte 2 (dstaddr.toNat + j) := by
    rw [source bound, dest bound']
    exact high_apart (.inr rfl) high start srcPage dstPage clear bound bound'
  have ram (i : Nat) : destCell (pageAt 2048 0 0 (pageOf dstaddr)) dstaddr i < 0o600000 :=
    plain_ram (.inr rfl) _ _
  obtain ⟨c, copied, -, cells⟩ := @clear_copied bus dstaddr srcaddr size ones par
    (pageAt 2048 0 0 (pageOf dstaddr)) dstPage (fun i _ => memory_clear (ram i))
    (fun i bound => sourceCell_within srcPage bound ▸ read i bound)
  have moved := (spread_copied copies start (by decide) disjoint (fun _ _ => rfl) nonempty
    (by rw [four]; exact copied)
    ⟨.inl (onePage_turns.mp srcPage), .inl (onePage_turns.mp dstPage)⟩).moved w bound
  have out : ¬ WindowByte (destCell (pageAt 2048 0 0 (pageOf dstaddr)) dstaddr w) := by
    have := ram w
    unfold WindowByte
    omega
  rw [dest bound, source bound, onePage_turns.mp srcPage, onePage_turns.mp dstPage] at moved
  dsimp only [spread] at moved
  rw [closed_other out, cells, copy_moved _ _ bound, sourceCell_within srcPage bound,
    ones_window window] at moved
  · exact opened_window start ((plain_mapped (.inr rfl)).start _) low4 (plain_low (.inr rfl) _) window
      moved
  · intro i bound j before same
    rw [sourceCell_within srcPage bound, ← source bound, ← dest (before.trans bound)] at same
    exact disjoint i bound j (before.trans bound) same
  · intro i bound j before same
    have := destCell_inj dstPage bound (before.trans bound) same
    omega

/-! ### A copy that moves its own window -/

/-- The register of window 5 with a zero in its high or its low byte. -/
def movedPar (par : WORD) (high : Bool) : WORD :=
  if high then (0 : BYTE) ++ par.setWidth 8 else par.extractLsb' 8 8 ++ (0 : BYTE)

section Moved
variable {start : Nat → BYTE} {par4 par : WORD} {p : Nat}

/-- The window shows memory then. -/
theorem movedPar_memory (near : 3840 ≤ par.toNat) (fits : par.toNat < 4096) (high : Bool) :
    (movedPar par high).toNat * 64 + 8192 ≤ 0o760000 := by
  unfold movedPar
  cases high with
  | true =>
    have low : (par.setWidth 8).toNat < 256 := (par.setWidth 8).isLt
    have whole : ((0 : BYTE) ++ par.setWidth 8).toNat = (par.setWidth 8).toNat := by
      rw [BitVec.toNat_append]
      exact (congrArg (· ||| _) (Nat.zero_shiftLeft 8)).trans (Nat.zero_or _)
    show ((0 : BYTE) ++ par.setWidth 8).toNat * 64 + 8192 ≤ _
    omega
  | false =>
    have fifteen : (par.extractLsb' 8 8).toNat = 15 := by
      rw [BitVec.extractLsb'_toNat, Nat.shiftRight_eq_div_pow]
      omega
    have whole : (par.extractLsb' 8 8 ++ (0 : BYTE)).toNat = 3840 := by
      rw [BitVec.toNat_append, fifteen]
      rfl
    show (par.extractLsb' 8 8 ++ (0 : BYTE)).toNat * 64 + 8192 ≤ _
    omega

theorem kisar5_other (at_five : Kisar5Byte p) {q : Nat}
    (other : q ≠ 0o772352 ∧ q + 1 ≠ 0o772352 ∧ q ≠ 0o772353 ∧ q + 1 ≠ 0o772353) :
    wordIn (Function.update start p 0) q = wordIn start q := by
  unfold Kisar5Byte at at_five
  exact wordIn_congr (Function.update_of_ne (by omega) ..) (Function.update_of_ne (by omega) ..)

theorem laid_moved (laid : Laid start par4 par) (at_five : Kisar5Byte p) :
    Laid (Function.update start p 0) par4 (movedPar par (decide (p = 0o772353))) := by
  refine ⟨(kisar5_other at_five (by decide)).trans laid.par4, ?_,
    (kisar5_other at_five (by decide)).trans laid.pdr4,
    (kisar5_other at_five (by decide)).trans laid.pdr5⟩
  have five : wordIn start 0o772352 = par := laid.par5
  have low : start 0o772352 = par.setWidth 8 := by
    rw [← five, wordIn, BitVec.setWidth_append_eq_right]
  have high : start 0o772353 = par.extractLsb' 8 8 := by
    rw [← five, wordIn, BitVec.extractLsb'_append_eq_left]
  show wordIn _ 0o772352 = _
  unfold wordIn
  rcases at_five with rfl | rfl
  · rw [Function.update_self, Function.update_of_ne (by decide), high]
    rfl
  · rw [Function.update_self, Function.update_of_ne (by decide), low]
    rfl

theorem samePages_kisar5 (at_five : Kisar5Byte p) : SamePages start (Function.update start p 0) := by
  intro page own
  have five : page.val ≠ 5 := (by decide : ∀ page ∈ ownPages, page.val ≠ 5) page own
  exact ⟨kisar5_other at_five (by unfold kisarByte; omega),
    kisar5_other at_five (by unfold kisdrByte; omega)⟩

end Moved

/-- Up to cell `e` the copy finds what it reads, and then a zero. -/
structure Echoes (start : Nat → BYTE) (src dst : Nat → Nat) (e n : Nat) : Prop where
  same : ∀ j < e, start (src j) = start (dst j)
  zero : e < n → start (src e) = 0
  ram : ∀ j < n, e < j → dst j < 0o760000

section Echo
variable {start : Nat → BYTE} {src dst : Nat → Nat} {e n i j : Nat}

theorem Echoes.before (h : Echoes start src dst e n) (le : i ≤ e) : copy src dst i start = start :=
  copy_same fun j earlier => h.same j (lt_of_lt_of_le earlier le)

/-- The registers change in the byte that the zero goes to. -/
theorem Echoes.after (h : Echoes start src dst e n) (later : e < i) (bound : i ≤ n) {a : Nat}
    (inUnit : InUnit a) : copy src dst i start a = Function.update start (dst e) 0 a := by
  rw [copy_kept_since (k := e + 1) later]
  · rw [copy, h.before (Nat.le_refl e), h.zero (by omega)]
  · intro j earlier later' same
    have low := h.ram j (by omega) later'
    unfold InUnit at inUnit
    omega

/-- Up to `e` the bytes of the range where it lies, and then zeros. -/
def echoed (par dstaddr srcaddr size : WORD) (e : Nat) (a : Nat) : BYTE :=
  let first := (pageAt 1024 0 0 (pageOf srcaddr)).toNat * 64 + srcaddr.toNat % 8192
  if first ≤ a ∧ a < first + size.toNat then
    if a - first < e then
      opened ones (pageAt 1024 0 0 (pageOf srcaddr)) par (destCell par dstaddr (a - first))
    else 0
  else ones a

theorem opened_congr {mem mem' : Nat → BYTE} {par4 par5 : WORD} {a : Nat} (same : mem' a = mem a) :
    opened mem' par4 par5 a = opened mem par4 par5 a := by
  simp only [opened, putWord, Function.update_apply, same]

theorem plain_cell {first : WORD} {addr : WORD} (far : first = 1024 ∨ first = 2048)
    (page : InOnePage addr size) (bound : j < size.toNat) :
    destCell (pageAt first 0 0 (pageOf addr)) addr j =
      (pageAt first 0 0 (pageOf addr)).toNat * 64 + addr.toNat % 8192 + j := by
  have small : (pageOf addr).val < 8 := (pageOf addr).isLt
  have place := far_toNat far
  have low : (pageAt first 0 0 (pageOf addr)).toNat ≤ 2048 + 128 * 7 := by
    rw [plain_toNat far]
    split_ifs <;> omega
  rw [destCell_within page bound]
  unfold InOnePage at page
  omega

theorem echoed_cell {par : WORD} (page : InOnePage srcaddr size) (bound : j < size.toNat) :
    echoed par dstaddr srcaddr size e (destCell (pageAt 1024 0 0 (pageOf srcaddr)) srcaddr j) =
      if j < e then opened ones (pageAt 1024 0 0 (pageOf srcaddr)) par (destCell par dstaddr j) else 0 := by
  have cell := plain_cell (.inl rfl) page bound
  have back : destCell (pageAt 1024 0 0 (pageOf srcaddr)) srcaddr j -
      ((pageAt 1024 0 0 (pageOf srcaddr)).toNat * 64 + srcaddr.toNat % 8192) = j := by omega
  unfold echoed
  dsimp only
  rw [if_pos (by omega), back]

theorem echoed_other {par : WORD} {a : Nat} (page : InOnePage srcaddr size)
    (other : ∀ i < size.toNat, a ≠ destCell (pageAt 1024 0 0 (pageOf srcaddr)) srcaddr i) :
    echoed par dstaddr srcaddr size e a = ones a := by
  unfold echoed
  dsimp only
  apply if_neg
  rintro ⟨low, under⟩
  obtain ⟨j, rfl⟩ := Nat.exists_eq_add_of_le low
  have bound : j < size.toNat := by omega
  exact other j bound (plain_cell (.inl rfl) page bound).symm

end Echo

/-- A copy over the registers of its own windows can be made to go through: up to byte `e` it
writes what is there, and if that is one of KISAR5 it then moves the window to memory. -/
theorem echo_copied {par : WORD} {e : Nat} (srcPage : InOnePage srcaddr size)
    (dstPage : InOnePage dstaddr size) (inMemory : par.toNat < 4096) (near : 3840 ≤ par.toNat)
    (apart : ∀ i < size.toNat, ∀ j < size.toNat,
      destCell par dstaddr i ≠ destCell (pageAt 1024 0 0 (pageOf srcaddr)) srcaddr j)
    (le : e ≤ size.toNat) (answers : ∀ j < e, Responds bus (destCell par dstaddr j))
    (moves : e < size.toNat → Kisar5Byte (destCell par dstaddr e)) :
    ∃ c, copyBytes bus size.toNat (.start srcaddr dstaddr (opened
      (echoed par dstaddr srcaddr size e) (pageAt 1024 0 0 (pageOf srcaddr)) par)) = .ok c := by
  generalize par4_eq : pageAt 1024 0 0 (pageOf srcaddr) = par4 at apart ⊢
  generalize start_eq : opened (echoed par dstaddr srcaddr size e) par4 par = start
  let par5 := movedPar par (decide (destCell par dstaddr e = 0o772353))
  let src (i : Nat) := destCell par4 srcaddr i
  let dst (i : Nat) := if i ≤ e then destCell par dstaddr i else destCell par5 dstaddr i
  have laid : Laid start par4 par := start_eq ▸ opened_laid ..
  have srcRam (i : Nat) : src i < 0o600000 := by
    show destCell par4 srcaddr i < _
    rw [← par4_eq]
    exact plain_ram (.inl rfl) _ _
  have ram (i : Nat) : destCell par5 dstaddr i < 0o760000 := by
    have memory : par5.toNat * 64 + 8192 ≤ 0o760000 := movedPar_memory near inMemory _
    rw [destCell, physical_mod, small_toNat]
    omega
  have value {j : Nat} (bound : j < size.toNat) : start (src j) =
      if j < e then opened ones par4 par (destCell par dstaddr j) else 0 := by
    have out : ¬ WindowByte (src j) := by
      have := srcRam j
      unfold WindowByte
      omega
    have cell := @echoed_cell dstaddr srcaddr size e j par srcPage bound
    rw [par4_eq] at cell
    rw [← start_eq, opened_other out]
    exact cell
  have echoes : Echoes start src dst e size.toNat := by
    refine ⟨fun j earlier => ?_, fun more => ?_, fun j _ later => ?_⟩
    · have there : start (destCell par dstaddr j) = opened ones par4 par (destCell par dstaddr j) := by
        rw [← start_eq]
        exact opened_congr (echoed_other srcPage (par4_eq ▸ apart j (by omega)))
      rw [value (by omega), if_pos earlier, ← there]
      exact congrArg start (if_pos (Nat.le_of_lt earlier)).symm
    · rw [value more, if_neg (Nat.lt_irrefl e)]
    · exact (congrArg (· < 0o760000) (if_neg (by omega))).mpr (ram j)
  have zero_goes : dst e = destCell par dstaddr e := if_pos (Nat.le_refl e)
  have after {i : Nat} (later : e < i) (bound : i ≤ size.toNat) := kernelMode_congr
    fun a inUnit => zero_goes ▸ echoes.after later bound inUnit
  have laidAt {i : Nat} (bound : i < size.toNat) :
      Laid (copy src dst i start) par4 (if i ≤ e then par else par5) := by
    split
    case isTrue le' =>
      rw [echoes.before le']
      exact laid
    case isFalse later =>
      have here := laid_moved laid (moves (by omega))
      have registers := after (Nat.lt_of_not_le later) (Nat.le_of_lt bound)
      exact ⟨registers ▸ here.par4, registers ▸ here.par5, registers ▸ here.pdr4, registers ▸ here.pdr5⟩
  have goes (i : Nat) (bound : i < size.toNat) : ByteGoes bus src dst start i := by
    refine ⟨.inl (by have := srcRam i; omega), ?_, ?_⟩
    · show Responds bus (if i ≤ e then _ else _)
      split
      case isTrue le' =>
        rcases Nat.lt_or_eq_of_le le' with earlier | rfl
        · exact answers i earlier
        · right; left
          have at_five := moves bound
          unfold Kisar5Byte at at_five
          unfold InUnit
          omega
      case isFalse => exact .inl (ram i)
    · show SamePages (copy src dst i start) (copy src dst (i + 1) start)
      rcases Nat.lt_trichotomy i e with earlier | rfl | later
      · rw [echoes.before (Nat.le_of_lt earlier), echoes.before (i := i + 1) earlier]
        exact SamePages.refl _
      · rw [SamePages, after (Nat.lt_succ_self i) bound, echoes.before (Nat.le_refl i)]
        exact samePages_kisar5 (moves bound)
      · rw [SamePages, after later (Nat.le_of_lt bound), after (Nat.lt_succ_of_lt later) bound]
        exact fun _ _ => ⟨rfl, rfl⟩
  obtain ⟨c, copied, -⟩ := (@copyBytes_follows bus _ (.start srcaddr dstaddr start) size.toNat src dst
    fun i bound => (laidAt bound).follows (by unfold InOnePage at dstPage; omega)
      (sourceCell_within srcPage bound).symm (by
      show (if i ≤ e then _ else _) = _
      split <;> rfl)).mpr ⟨goes, rfl⟩
  exact ⟨c, copied⟩

/-- A destination over the registers of its own windows. -/
theorem fails_dest (srcPage : InOnePage srcaddr size) (dstPage : InOnePage dstaddr size)
    (writes : WritesWindows bus dstaddr srcaddr size) : ¬ XcopyCopies bus dstaddr srcaddr size := by
  intro copies
  obtain ⟨own, par, start, covers, written, clear⟩ := writes
  obtain ⟨high, near, low5⟩ := over_high dstPage start covers
  obtain ⟨w, bound, window⟩ := covers
  have five : pageAt 2048 (pageOf dstaddr) par (pageOf dstaddr) = par := pageAt_own own
  have nonempty : size ≠ 0 := by
    rintro rfl
    exact absurd bound (Nat.not_lt_zero w)
  have apart (i : Nat) (bound : i < size.toNat) (j : Nat) (bound' : j < size.toNat) :=
    high_apart (.inl rfl) high start dstPage srcPage clear bound bound'
  -- `v` is a byte of a register that is not all ones afterwards if it has been moved
  obtain ⟨e, v, le, answers, moves, vBound, vWindow, other⟩ : ∃ e v, e ≤ size.toNat ∧
      (∀ j < e, Responds bus (destCell par dstaddr j)) ∧
      (e < size.toNat → Kisar5Byte (destCell par dstaddr e)) ∧ v < size.toNat ∧
      WindowByte (destCell par dstaddr v) ∧ (if v < e then
        opened ones (pageAt 1024 0 0 (pageOf srcaddr)) par (destCell par dstaddr v) else 0) ≠ 0xFF := by
    rcases written with through | ⟨e, eBound, at_five, before⟩
    · refine ⟨size.toNat, w, Nat.le_refl _, through, fun more => absurd more (Nat.lt_irrefl _), bound,
        window, ?_⟩
      rw [if_pos bound]
      exact opened_window ((plain_mapped (.inl rfl)).start _) start (plain_low (.inl rfl) _) low5 window
    · refine ⟨e, e, Nat.le_of_lt eBound, before, fun _ => at_five, eBound, ?_, ?_⟩
      · unfold Kisar5Byte at at_five
        unfold WindowByte
        omega
      · rw [if_neg (Nat.lt_irrefl e)]
        decide
  generalize memory : echoed par dstaddr srcaddr size e = mem
  have same : ∀ a, InUnit a → mem a = ones a := fun a inUnit => memory ▸ echoed_other srcPage
    fun i bound here => by
      have ram : destCell (pageAt 1024 0 0 (pageOf srcaddr)) srcaddr i < 0o600000 := plain_ram (.inl rfl) _ _
      unfold InUnit at inUnit
      omega
  have source {i : Nat} (bound : i < size.toNat) : (spread 0 0 (pageOf dstaddr) par mem).taskByte 1
      (srcaddr.toNat + i) = destCell (pageAt 1024 0 0 (pageOf srcaddr)) srcaddr i :=
    taskByte_within 1 srcPage bound
  have dest {i : Nat} (bound : i < size.toNat) : (spread 0 0 (pageOf dstaddr) par mem).taskByte 2
      (dstaddr.toNat + i) = destCell par dstaddr i := by
    rw [taskByte_within 2 dstPage bound]
    exact congrArg (destCell · dstaddr i) five
  have disjoint (i : Nat) (bound : i < size.toNat) (j : Nat) (bound' : j < size.toNat) :
      (spread 0 0 (pageOf dstaddr) par mem).taskByte 1 (srcaddr.toNat + i) ≠
        (spread 0 0 (pageOf dstaddr) par mem).taskByte 2 (dstaddr.toNat + j) := by
    rw [source bound, dest bound']
    exact (apart j bound' i bound).symm
  obtain ⟨c, copied⟩ := echo_copied srcPage dstPage start near apart le answers moves
  rw [memory] at copied
  have moved := (spread_copied copies (by decide) start disjoint same nonempty
    (by rw [five]; exact copied)
    ⟨.inl (onePage_turns.mp srcPage), .inl (onePage_turns.mp dstPage)⟩).moved v vBound
  rw [dest vBound, source vBound, onePage_turns.mp srcPage, onePage_turns.mp dstPage] at moved
  dsimp only [spread] at moved
  rw [closed_window vWindow, same _ (by unfold WindowByte at vWindow; unfold InUnit; omega),
    ones_window vWindow, ← memory, echoed_cell srcPage vBound] at moved
  exact other moved.symm

end Fails

end Core

namespace Core

def createBig : TaskOp := .creprc (fun _ => 0x20) (usrTask ||| tszBig) 0 0

/-- All memory is zero but for the byte behind the end of the first page of task 0101. -/
def crossing (k : Kernel) : Core where
  kernel := k
  mem := withRegisters k.mmu fun a => if a = 576 * 64 then 0x41 else 0

end Core

end Muxx
