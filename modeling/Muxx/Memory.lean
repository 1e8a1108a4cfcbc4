import Muxx.Lib.Chain
import Muxx.Types

/-!
# The memory table

muxx_mem_init and muxx_mem_getblock of muxx_memsvc.c, and what a table that
has served a list of requests looks like:

* `Carved`: the requests are laid out one after another from block 0700 on,
  the free block begins after them, and the chain of blocks ends in a loop;
* `memGetblock_carves`, `memGetblock_exhausted`, `memGetblock_loops`: the
  three ways in which a further request can go;
* `Owned`, `Carved.owned`: whose physical blocks are whose;
* `memGetblock_cut`: what a block is that is handed out from any table.
-/

namespace Muxx

open Chain

/-- Assign to fields of one block. -/
def MMCBT.modify (t : MMCBT) (i : Fin memNmcbs) (f : MMCB → MMCB) : MMCBT :=
  { t with mmcbt := Function.update t.mmcbt i (f (t.mmcbt i)) }

def MMCBT.next (t : MMCBT) : Fin memNmcbs → PMMCB := fun i => (t.mmcbt i).nextBlock

/-- The loop of findFreeMMCB, in which entry 0 is also the answer "none". -/
def findFreeMMCB (t : MMCBT) : Fin memNmcbs :=
  firstFound fun i => decide (i.val < t.numEntries.toNat) && (t.mmcbt i).ownerPID == -1

/-- Non-owned memory with enough free memory. -/
def offers (t : MMCBT) (numBlocks : WORD) (i : Fin memNmcbs) : Bool :=
  (t.mmcbt i).ownerPID == 0 && decide (numBlocks ≤ (t.mmcbt i).blockSize)

/-- The do-while scan of muxx_mem_getblock. -/
def scanBlocks (t : MMCBT) (numBlocks : WORD) : Option PMMCB :=
  walk (offers t numBlocks) t.next memNmcbs (some 0)

/-- The new block takes over the low end of `cur`. -/
def splitBlock (t : MMCBT) (cur new : Fin memNmcbs) (owner numBlocks page : WORD) : MMCBT :=
  let t := t.modify cur fun b => { b with blockSize := b.blockSize - numBlocks }
  let t := t.modify new fun b => { b with blockSize := numBlocks }
  let t := t.modify new fun b => { b with blockAddr := (t.mmcbt cur).blockAddr }
  let t := t.modify cur fun b => { b with blockAddr := b.blockAddr + numBlocks }
  t.modify new fun b => { b with ownerPID := owner, ownerPAR := page }

/-- `cur->nextBlock->prevBlock = new`, when there is such a block. -/
def linkBack (t : MMCBT) (cur new : Fin memNmcbs) : MMCBT :=
  match (t.mmcbt cur).nextBlock with
  | some after => t.modify after fun b => { b with prevBlock := some new }
  | none => t

/-- The new block takes its `nextBlock` from `cur` after `cur` has been
pointed at the new block. -/
def spliceBlock (t : MMCBT) (cur new : Fin memNmcbs) : MMCBT :=
  let t := t.modify new fun b => { b with prevBlock := some cur }
  let t := linkBack t cur new
  let t := t.modify cur fun b => { b with nextBlock := some new }
  t.modify new fun b => { b with nextBlock := (t.mmcbt cur).nextBlock }

/-- The assignments of muxx_mem_getblock, in its order. -/
def carveBlock (t : MMCBT) (cur new : Fin memNmcbs) (owner numBlocks flags page : WORD) : MMCBT :=
  let t := splitBlock t cur new owner numBlocks page
  let t := spliceBlock t cur new
  t.modify new fun b => { b with mmcbFlags := flags }

/-- `owner` is the pid of the task that asks; the code reads nothing else of it. -/
def memGetblock (t : MMCBT) (owner numBlocks flags page : WORD) : Except Fault (PMMCB × MMCBT) :=
  if numBlocks > 128 then .ok (none, t)
  else
    match scanBlocks t numBlocks with
    | none => .error .hang
    | some none => .ok (none, t)
    | some (some cur) =>
      let numMMCB := findFreeMMCB t
      if numMMCB = 0 then .error (.panic "PANIC2")
      else .ok (some numMMCB, carveBlock t cur numMMCB owner numBlocks flags page)

theorem memGetblock_stops {t : MMCBT} {owner numBlocks flags page : WORD} {e : Fault}
    (failed : memGetblock t owner numBlocks flags page = .error e) : e.Stops := by
  unfold memGetblock at failed
  split at failed
  · cases failed
  · split at failed
    · cases failed; trivial
    · cases failed
    · dsimp only at failed
      split at failed
      · cases failed; trivial
      · cases failed

/-- A scan that has not ended after visiting every entry never ends. -/
theorem scanBlocks_hang {t : MMCBT} {numBlocks : WORD} (h : scanBlocks t numBlocks = none)
    (fuel : Nat) : walk (offers t numBlocks) t.next fuel (some 0) = none :=
  walk_none_forever (by simp) h fuel

/-- The table muxx_mem_init leaves: three kernel pages, the kernel stack, the
free space and the I/O page, chained in this order. -/
def memInit : MMCBT where
  numEntries := 128
  mmcbt i :=
    match i.val with
    | 0 => { blockAddr := 0, blockSize := 0o200, ownerPID := 1, ownerPAR := 0,
             prevBlock := none, nextBlock := some 1,
             mmcbFlags := mmcbFlgShr ||| mmcbFlgFix ||| mmcbFlgPrv }
    | 1 => { blockAddr := 0o200, blockSize := 0o200, ownerPID := 1, ownerPAR := 1,
             prevBlock := some 0, nextBlock := some 2,
             mmcbFlags := mmcbFlgShr ||| mmcbFlgFix ||| mmcbFlgPrv }
    | 2 => { blockAddr := 0o400, blockSize := 0o200, ownerPID := 1, ownerPAR := 2,
             prevBlock := some 1, nextBlock := some 3,
             mmcbFlags := mmcbFlgShr ||| mmcbFlgFix ||| mmcbFlgPrv }
    | 3 => { blockAddr := 0o600, blockSize := 0o100, ownerPID := 1, ownerPAR := 6,
             prevBlock := some 2, nextBlock := some 4, mmcbFlags := mmcbFlgStk }
    | 4 => { blockAddr := 0o700, blockSize := 0o7100, ownerPID := 0, ownerPAR := 0,
             prevBlock := some 3, nextBlock := some 5, mmcbFlags := 0 }
    | 5 => { blockAddr := 0o7600, blockSize := 0o200, ownerPID := 1, ownerPAR := 7,
             prevBlock := some 4, nextBlock := none,
             mmcbFlags := mmcbFlgShr ||| mmcbFlgFix ||| mmcbFlgIo }
    | _ => { ownerPID := -1 }

/-! ## Requests -/

/-- A request for memory of a task with an assignable pid. -/
structure Request where
  pid : WORD
  numBlocks : WORD
  flags : WORD
  page : WORD
  pid_range : 1 ≤ pid.toNat ∧ pid.toNat ≤ 0o777
  size_range : 1 ≤ numBlocks.toNat ∧ numBlocks.toNat ≤ 128

def total (rs : List Request) : Nat := (rs.map fun r => r.numBlocks.toNat).sum

@[simp] theorem total_nil : total [] = 0 := rfl

@[simp] theorem total_cons (r : Request) (rs : List Request) :
    total (r :: rs) = r.numBlocks.toNat + total rs := rfl

@[simp] theorem total_append (rs ss : List Request) : total (rs ++ ss) = total rs + total ss := by
  simp [total]

/-- A block without its backward link, which no scan reads. -/
def MMCB.core (b : MMCB) : MMCB := { b with prevBlock := none }

section Core
variable (b : MMCB)

theorem MMCB.core_blockAddr : b.core.blockAddr = b.blockAddr := rfl
theorem MMCB.core_blockSize : b.core.blockSize = b.blockSize := rfl
theorem MMCB.core_ownerPID : b.core.ownerPID = b.ownerPID := rfl
theorem MMCB.core_nextBlock : b.core.nextBlock = b.nextBlock := rfl

end Core

/-- The table after it has served `rs`, oldest request first. -/
structure Carved (t : MMCBT) (rs : List Request) : Prop where
  entries : t.numEntries = 128
  slots : rs.length ≤ 122
  room : total rs ≤ 0o7100
  kernel : ∀ i : Fin memNmcbs, i.val < 4 → (t.mmcbt i).core = (memInit.mmcbt i).core
  free : (t.mmcbt 4).core =
    { blockAddr := BitVec.ofNat 16 (0o700 + total rs)
      blockSize := BitVec.ofNat 16 (0o7100 - total rs)
      nextBlock := some (Fin.ofNat memNmcbs (5 + rs.length)) }
  iopage : (t.mmcbt 5).core = (memInit.mmcbt 5).core
  granted : ∀ (j : Nat) (hj : j < rs.length) (b : Fin memNmcbs), b.val = 6 + j →
    (t.mmcbt b).core =
      { blockAddr := BitVec.ofNat 16 (0o700 + total (rs.take j))
        blockSize := rs[j].numBlocks, ownerPID := rs[j].pid, ownerPAR := rs[j].page
        nextBlock := some b, mmcbFlags := rs[j].flags }
  unused : ∀ b : Fin memNmcbs, 6 + rs.length ≤ b.val → (t.mmcbt b).ownerPID = -1

theorem carved_init : Carved memInit [] where
  entries := rfl
  slots := by simp
  room := by simp
  kernel := fun _ _ => rfl
  free := rfl
  iopage := rfl
  granted := by intro j hj; simp at hj
  unused := by
    intro b hb
    have : ∀ b : Fin memNmcbs, 6 ≤ b.val → (memInit.mmcbt b).ownerPID = -1 := by decide +kernel
    exact this b (by simpa using hb)

/-! ## One request -/

section Modify
variable (t : MMCBT) {i j cur new : Fin memNmcbs} (f : MMCB → MMCB)

@[simp] theorem modify_self : (t.modify i f).mmcbt i = f (t.mmcbt i) :=
  Function.update_self ..

theorem modify_ne (h : j ≠ i) : (t.modify i f).mmcbt j = t.mmcbt j :=
  Function.update_of_ne h ..

@[simp] theorem modify_numEntries : (t.modify i f).numEntries = t.numEntries := rfl

@[simp] theorem linkBack_numEntries : (linkBack t cur new).numEntries = t.numEntries := by
  unfold linkBack
  split <;> rfl

theorem linkBack_core : ((linkBack t cur new).mmcbt j).core = (t.mmcbt j).core := by
  unfold linkBack
  split
  · rename_i after _
    by_cases h : j = after
    · subst h; rw [modify_self]; rfl
    · rw [modify_ne _ _ h]
  · rfl

end Modify

section Step
variable {t : MMCBT} {rs : List Request} {cur new : Fin memNmcbs}
variable {owner numBlocks flags page : WORD}

theorem splitBlock_other {i : Fin memNmcbs} (hn : i ≠ new) (hc : i ≠ cur) :
    (splitBlock t cur new owner numBlocks page).mmcbt i = t.mmcbt i := by
  simp only [splitBlock, modify_ne _ _ hn, modify_ne _ _ hc]

theorem splitBlock_cur (hne : cur ≠ new) :
    (splitBlock t cur new owner numBlocks page).mmcbt cur =
      { t.mmcbt cur with
        blockAddr := (t.mmcbt cur).blockAddr + numBlocks
        blockSize := (t.mmcbt cur).blockSize - numBlocks } := by
  simp only [splitBlock, modify_self, modify_ne _ _ hne]

theorem splitBlock_new (hne : cur ≠ new) :
    (splitBlock t cur new owner numBlocks page).mmcbt new =
      { t.mmcbt new with
        blockAddr := (t.mmcbt cur).blockAddr, blockSize := numBlocks
        ownerPID := owner, ownerPAR := page } := by
  simp only [splitBlock, modify_self, modify_ne _ _ hne, modify_ne _ _ hne.symm]

theorem spliceBlock_other {i : Fin memNmcbs} (hn : i ≠ new) (hc : i ≠ cur) :
    ((spliceBlock t cur new).mmcbt i).core = (t.mmcbt i).core := by
  simp only [spliceBlock, modify_ne _ _ hn, modify_ne _ _ hc, linkBack_core]

theorem spliceBlock_cur (hne : cur ≠ new) :
    ((spliceBlock t cur new).mmcbt cur).core =
      { (t.mmcbt cur).core with nextBlock := some new } := by
  have kept : ((linkBack (t.modify new fun b => { b with prevBlock := some cur }) cur new).mmcbt
      cur).core = _ := linkBack_core _
  rw [modify_ne _ _ hne] at kept
  rw [← kept]
  simp only [spliceBlock, modify_ne _ _ hne, modify_self]
  rfl

/-- The new block becomes its own successor. -/
theorem spliceBlock_new (hne : cur ≠ new) :
    ((spliceBlock t cur new).mmcbt new).core =
      { (t.mmcbt new).core with nextBlock := some new } := by
  have kept : ((linkBack (t.modify new fun b => { b with prevBlock := some cur }) cur new).mmcbt
      new).core = _ := linkBack_core _
  rw [modify_self] at kept
  simp only [spliceBlock, modify_self, modify_ne _ _ hne.symm]
  exact congrArg (fun b : MMCB => { b with nextBlock := some new }) kept

theorem carveBlock_entries :
    (carveBlock t cur new owner numBlocks flags page).numEntries = t.numEntries := by
  simp only [carveBlock, spliceBlock, splitBlock, modify_numEntries, linkBack_numEntries]

theorem carveBlock_other {i : Fin memNmcbs} (hn : i ≠ new) (hc : i ≠ cur) :
    ((carveBlock t cur new owner numBlocks flags page).mmcbt i).core = (t.mmcbt i).core := by
  simp only [carveBlock, modify_ne _ _ hn, spliceBlock_other hn hc, splitBlock_other hn hc]

theorem carveBlock_cur (hne : cur ≠ new) :
    ((carveBlock t cur new owner numBlocks flags page).mmcbt cur).core =
      { (t.mmcbt cur).core with
        blockAddr := (t.mmcbt cur).blockAddr + numBlocks
        blockSize := (t.mmcbt cur).blockSize - numBlocks
        nextBlock := some new } := by
  simp only [carveBlock, modify_ne _ _ hne, spliceBlock_cur hne, splitBlock_cur hne]
  rfl

theorem carveBlock_new (hne : cur ≠ new) :
    ((carveBlock t cur new owner numBlocks flags page).mmcbt new).core =
      { blockAddr := (t.mmcbt cur).blockAddr, blockSize := numBlocks
        ownerPID := owner, ownerPAR := page, nextBlock := some new, mmcbFlags := flags } := by
  have spliced := spliceBlock_new (t := splitBlock t cur new owner numBlocks page) hne
  rw [splitBlock_new hne] at spliced
  simp only [carveBlock, modify_self]
  exact congrArg (fun b : MMCB => { b with mmcbFlags := flags }) spliced

end Step

/-- The entry of the `j`-th request. -/
def slot (j : Nat) : Fin memNmcbs := Fin.ofNat memNmcbs (6 + j)

theorem slot_val {j : Nat} (h : j < 122) : (slot j).val = 6 + j :=
  Nat.mod_eq_of_lt (show 6 + j < 128 by omega)

theorem Request.pid_ne_zero (r : Request) : r.pid ≠ 0 := by
  intro h
  have range := r.pid_range
  rw [h] at range
  exact absurd range.1 (by decide)

theorem Request.not_large (r : Request) : ¬ r.numBlocks > 128 := by
  rw [gt_iff_lt, BitVec.lt_def]
  exact Nat.not_lt.mpr r.size_range.2

theorem Request.pid_assigned (r : Request) : r.pid ≠ -1 := by
  intro h
  have range := r.pid_range
  rw [h] at range
  exact absurd range.2 (by decide)

section Serve
variable {t : MMCBT} {rs : List Request}

theorem Carved.kernel_owner (h : Carved t rs) {i : Fin memNmcbs} (hi : i.val < 4) :
    (t.mmcbt i).ownerPID = 1 := by
  rw [← MMCB.core_ownerPID, h.kernel i hi]
  have : ∀ i : Fin memNmcbs, i.val < 4 → (memInit.mmcbt i).core.ownerPID = 1 := by decide +kernel
  exact this i hi

theorem Carved.kernel_next (h : Carved t rs) {i : Fin memNmcbs} (hi : i.val < 4) :
    t.next i = (memInit.mmcbt i).nextBlock := by
  rw [MMCBT.next, ← MMCB.core_nextBlock, h.kernel i hi, MMCB.core_nextBlock]

theorem Carved.free_owner (h : Carved t rs) : (t.mmcbt 4).ownerPID = 0 := by
  rw [← MMCB.core_ownerPID, h.free]

theorem Carved.free_addr (h : Carved t rs) :
    (t.mmcbt 4).blockAddr = BitVec.ofNat 16 (0o700 + total rs) := by
  rw [← MMCB.core_blockAddr, h.free]

theorem Carved.free_size (h : Carved t rs) :
    (t.mmcbt 4).blockSize = BitVec.ofNat 16 (0o7100 - total rs) := by
  rw [← MMCB.core_blockSize, h.free]

theorem Carved.fits (h : Carved t rs) (numBlocks : WORD) :
    numBlocks ≤ (t.mmcbt 4).blockSize ↔ total rs + numBlocks.toNat ≤ 0o7100 := by
  have room := h.room
  rw [h.free_size, BitVec.le_def, BitVec.toNat_ofNat]
  omega

theorem offers_owned {numBlocks : WORD} {i : Fin memNmcbs} (h : (t.mmcbt i).ownerPID ≠ 0) :
    offers t numBlocks i = false := by
  rw [offers, beq_false_of_ne h, Bool.false_and]

/-- Every scan passes the kernel's four blocks and comes to the free one. -/
theorem Carved.scan (h : Carved t rs) (numBlocks : WORD) :
    scanBlocks t numBlocks = walk (offers t numBlocks) t.next 124 (some 4) := by
  have pass (i : Fin memNmcbs) (hi : i.val < 4) (fuel : Nat) :
      walk (offers t numBlocks) t.next (fuel + 1) (some i) =
        walk (offers t numBlocks) t.next fuel (memInit.mmcbt i).nextBlock := by
    have owned : (t.mmcbt i).ownerPID ≠ 0 := by rw [h.kernel_owner hi]; decide
    rw [walk_step (offers_owned owned), h.kernel_next hi]
  calc scanBlocks t numBlocks
    _ = walk (offers t numBlocks) t.next 127 (some 1) := pass 0 (by decide) 127
    _ = walk (offers t numBlocks) t.next 126 (some 2) := pass 1 (by decide) 126
    _ = walk (offers t numBlocks) t.next 125 (some 3) := pass 2 (by decide) 125
    _ = walk (offers t numBlocks) t.next 124 (some 4) := pass 3 (by decide) 124

theorem Carved.scan_free (h : Carved t rs) {numBlocks : WORD}
    (fits : total rs + numBlocks.toNat ≤ 0o7100) : scanBlocks t numBlocks = some (some 4) := by
  have enough := (h.fits numBlocks).mpr fits
  rw [h.scan, walk_stop]
  rw [offers, h.free_owner, decide_eq_true enough]
  rfl

/-- The newest block, which is where the chain ends in a loop. -/
theorem Carved.newest (h : Carved t rs) (served : rs ≠ []) :
    ∃ b r, t.next 4 = some b ∧ t.next b = some b ∧ (t.mmcbt b).ownerPID = r.pid ∧ r ∈ rs := by
  have pos : 0 < rs.length := List.length_pos_iff.mpr served
  have slots := h.slots
  have newest := h.granted (rs.length - 1) (by omega) (slot (rs.length - 1)) (slot_val (by omega))
  refine ⟨slot (rs.length - 1), rs[rs.length - 1], ?_, ?_, ?_, List.getElem_mem _⟩
  · rw [MMCBT.next, ← MMCB.core_nextBlock, h.free, slot,
      show 6 + (rs.length - 1) = 5 + rs.length by omega]
  · rw [MMCBT.next, ← MMCB.core_nextBlock, newest]
  · rw [← MMCB.core_ownerPID, newest]

/-- Past the free block the scan stays on the newest block for ever. -/
theorem Carved.scan_loops (h : Carved t rs) (served : rs ≠ []) {numBlocks : WORD}
    (full : 0o7100 < total rs + numBlocks.toNat) : scanBlocks t numBlocks = none := by
  obtain ⟨b, r, link, stays, owner, -⟩ := h.newest served
  have owned : (t.mmcbt b).ownerPID ≠ 0 := owner ▸ r.pid_ne_zero
  have small : ¬ numBlocks ≤ (t.mmcbt 4).blockSize := by rw [h.fits]; omega
  rw [h.scan]
  show walk _ _ (123 + 1) _ = _
  rw [walk_step (by rw [offers, decide_eq_false small, Bool.and_false]), link]
  exact walk_self stays (offers_owned owned) 123

theorem Carved.taken (h : Carved t rs) {i : Fin memNmcbs} (hi : i.val < 6 + rs.length) :
    (t.mmcbt i).ownerPID ≠ -1 := by
  have slots := h.slots
  rcases (by omega : i.val < 4 ∨ i.val = 4 ∨ i.val = 5 ∨ 6 ≤ i.val) with low | four | five | high
  · rw [h.kernel_owner low]; decide
  · rw [show i = 4 from Fin.ext four, h.free_owner]; decide
  · rw [show i = 5 from Fin.ext five, ← MMCB.core_ownerPID, h.iopage]; decide
  · rw [← MMCB.core_ownerPID, h.granted (i.val - 6) (by omega) i (by omega)]
    exact Request.pid_assigned _

theorem Carved.findFree (h : Carved t rs) (more : rs.length < 122) :
    findFreeMMCB t = slot rs.length := by
  have val := slot_val more
  apply firstFound_eq
  · exact fun he => absurd (congrArg Fin.val he) (by rw [val]; simp)
  · simp [h.entries, h.unused _ (Nat.le_of_eq val.symm)]
  · intro i hi _
    have : i.val < 6 + rs.length := by rw [← val]; exact hi
    rw [beq_false_of_ne (h.taken this), Bool.and_false]

theorem Carved.findFree_none (h : Carved t rs) (full : rs.length = 122) : findFreeMMCB t = 0 :=
  firstFound_eq_zero fun i _ => by
    rw [beq_false_of_ne (h.taken (i := i) (by have := i.isLt; omega)), Bool.and_false]

theorem ofNat_add_toNat (a : Nat) (b : WORD) :
    BitVec.ofNat 16 a + b = BitVec.ofNat 16 (a + b.toNat) := by
  rw [BitVec.ofNat_add, BitVec.ofNat_toNat, BitVec.setWidth_eq]

theorem ofNat_sub_toNat {a : Nat} {b : WORD} (le : b.toNat ≤ a) (small : a < 2 ^ 16) :
    BitVec.ofNat 16 a - b = BitVec.ofNat 16 (a - b.toNat) := by
  apply BitVec.eq_of_toNat_eq
  rw [BitVec.toNat_sub, BitVec.toNat_ofNat, BitVec.toNat_ofNat]
  omega

/-- Carving the next request out of the free block. -/
theorem Carved.carve (h : Carved t rs) (r : Request) (more : rs.length < 122)
    (fits : total rs + r.numBlocks.toNat ≤ 0o7100) :
    Carved (carveBlock t 4 (slot rs.length) r.pid r.numBlocks r.flags r.page) (rs ++ [r]) := by
  have val := slot_val more
  have apart {i : Fin memNmcbs} (hi : i.val ≠ 6 + rs.length) : i ≠ slot rs.length := fun he =>
    hi (by rw [he, val])
  have four : (4 : Fin memNmcbs) ≠ slot rs.length :=
    apart (by show 4 ≠ 6 + rs.length; omega)
  have other {i : Fin memNmcbs} (hi : i.val ≠ 6 + rs.length) (h4 : i.val ≠ 4) :
      ((carveBlock t 4 (slot rs.length) r.pid r.numBlocks r.flags r.page).mmcbt i).core =
        (t.mmcbt i).core :=
    carveBlock_other (apart hi) fun he => h4 (congrArg Fin.val he)
  refine ⟨?_, ?_, ?_, ?_, ?_, ?_, ?_, ?_⟩
  · rw [carveBlock_entries, h.entries]
  · rw [List.length_append, List.length_singleton]; omega
  · simpa using fits
  · exact fun i hi => (other (by omega) (by omega)).trans (h.kernel i hi)
  · rw [carveBlock_cur four, h.free_addr, h.free_size, h.free]
    rw [ofNat_add_toNat, ofNat_sub_toNat (by omega) (by have := h.room; omega), slot]
    simp only [total_append, total_cons, total_nil, List.length_append, List.length_singleton]
    rw [show 6 + rs.length = 5 + (rs.length + 1) by omega, Nat.add_assoc, Nat.sub_sub]
    rfl
  · exact (other (by show 5 ≠ _; omega) (by decide)).trans h.iopage
  · intro j hj b hb
    rw [List.length_append, List.length_singleton] at hj
    rcases Nat.lt_or_eq_of_le (Nat.le_of_lt_succ hj) with old | rfl
    · rw [other (by omega) (by omega), h.granted j old b hb,
        List.getElem_append_left old, List.take_append_of_le_length (Nat.le_of_lt old)]
    · rw [show b = slot rs.length from Fin.ext (hb.trans val.symm), carveBlock_new four,
        h.free_addr]
      simp
  · intro b hb
    rw [List.length_append, List.length_singleton] at hb
    rw [← MMCB.core_ownerPID, other (by omega) (by omega), MMCB.core_ownerPID]
    exact h.unused b (by omega)

/-! The three ways a request can go. -/

theorem memGetblock_carves (h : Carved t rs) (r : Request) (more : rs.length < 122)
    (fits : total rs + r.numBlocks.toNat ≤ 0o7100) :
    memGetblock t r.pid r.numBlocks r.flags r.page =
      .ok (some (slot rs.length),
        carveBlock t 4 (slot rs.length) r.pid r.numBlocks r.flags r.page) := by
  have val := slot_val more
  have found : slot rs.length ≠ 0 := fun he =>
    absurd (congrArg Fin.val he) (by rw [val]; simp)
  simp only [memGetblock, if_neg r.not_large, h.scan_free fits, h.findFree more, if_neg found]

theorem memGetblock_exhausted (h : Carved t rs) (r : Request) (full : rs.length = 122)
    (fits : total rs + r.numBlocks.toNat ≤ 0o7100) :
    memGetblock t r.pid r.numBlocks r.flags r.page = .error (.panic "PANIC2") := by
  simp only [memGetblock, if_neg r.not_large, h.scan_free fits, h.findFree_none full, if_true]

theorem memGetblock_loops (h : Carved t rs) (r : Request)
    (full : 0o7100 < total rs + r.numBlocks.toNat) :
    memGetblock t r.pid r.numBlocks r.flags r.page = .error .hang := by
  have size := r.size_range.2
  have served : rs ≠ [] := by
    rintro rfl
    rw [total_nil] at full
    omega
  simp only [memGetblock, if_neg r.not_large, h.scan_loops served full]

/-- A request that comes back has been served. -/
theorem memGetblock_ok (h : Carved t rs) (r : Request) {p : PMMCB} {t' : MMCBT}
    (called : memGetblock t r.pid r.numBlocks r.flags r.page = .ok (p, t')) :
    p = some (slot rs.length) ∧ Carved t' (rs ++ [r]) := by
  rcases Nat.lt_or_ge 0o7100 (total rs + r.numBlocks.toNat) with full | fits
  · rw [memGetblock_loops h r full] at called; cases called
  · rcases Nat.lt_or_eq_of_le h.slots with more | last
    · rw [memGetblock_carves h r more fits] at called
      cases called
      exact ⟨rfl, h.carve r more fits⟩
    · rw [memGetblock_exhausted h r last fits] at called; cases called

end Serve

/-! ## Physical blocks -/

/-- Physical block `a` is part of the chunk. -/
def MMCB.Covers (b : MMCB) (a : Nat) : Prop :=
  b.blockAddr.toNat ≤ a ∧ a < b.blockAddr.toNat + b.blockSize.toNat

instance (b : MMCB) (a : Nat) : Decidable (b.Covers a) := by
  unfold MMCB.Covers; infer_instance

/-- Physical block `a` belongs to a chunk that the task `pid` owns. -/
def Owned (t : MMCBT) (pid : WORD) (a : Nat) : Prop :=
  ∃ b, (t.mmcbt b).ownerPID = pid ∧ (t.mmcbt b).Covers a

instance (t : MMCBT) (pid : WORD) (a : Nat) : Decidable (Owned t pid a) := by
  unfold Owned; infer_instance

section Blocks
variable {t : MMCBT} {rs ss : List Request} {r : Request}

theorem Carved.granted_split (h : Carved t (rs ++ r :: ss)) :
    (t.mmcbt (slot rs.length)).core =
      { blockAddr := BitVec.ofNat 16 (0o700 + total rs), blockSize := r.numBlocks
        ownerPID := r.pid, ownerPAR := r.page
        nextBlock := some (slot rs.length), mmcbFlags := r.flags } := by
  have slots := h.slots
  rw [List.length_append, List.length_cons] at slots
  rw [h.granted rs.length (by simp) _ (slot_val (by omega))]
  simp

theorem Carved.granted_addr (h : Carved t (rs ++ r :: ss)) :
    (t.mmcbt (slot rs.length)).blockAddr = BitVec.ofNat 16 (0o700 + total rs) := by
  rw [← MMCB.core_blockAddr, h.granted_split]

theorem Carved.granted_covers (h : Carved t (rs ++ r :: ss)) (a : Nat) :
    (t.mmcbt (slot rs.length)).Covers a ↔
      0o700 + total rs ≤ a ∧ a < 0o700 + total rs + r.numBlocks.toNat := by
  have room := h.room
  rw [total_append, total_cons] at room
  unfold MMCB.Covers
  rw [h.granted_addr, ← MMCB.core_blockSize, h.granted_split, BitVec.toNat_ofNat,
    Nat.mod_eq_of_lt (by omega)]

theorem Carved.owned (h : Carved t (rs ++ r :: ss)) {a : Nat}
    (low : 0o700 + total rs ≤ a) (high : a < 0o700 + total rs + r.numBlocks.toNat) :
    Owned t r.pid a :=
  ⟨slot rs.length, by rw [← MMCB.core_ownerPID, h.granted_split],
    (h.granted_covers a).mpr ⟨low, high⟩⟩

end Blocks

/-! ## Any table -/

/-- The unused block `new` is cut from the start of the unowned block `cur`. -/
structure Cut (t : MMCBT) (cur new : Fin memNmcbs) (owner numBlocks flags page : WORD)
    (t' : MMCBT) : Prop where
  unowned : (t.mmcbt cur).ownerPID = 0
  enough : numBlocks ≤ (t.mmcbt cur).blockSize
  unused : (t.mmcbt new).ownerPID = -1
  block : (t'.mmcbt new).core =
    { blockAddr := (t.mmcbt cur).blockAddr, blockSize := numBlocks, ownerPID := owner
      ownerPAR := page, nextBlock := some new, mmcbFlags := flags }
  rest : (t'.mmcbt cur).core =
    { (t.mmcbt cur).core with
      blockAddr := (t.mmcbt cur).blockAddr + numBlocks
      blockSize := (t.mmcbt cur).blockSize - numBlocks
      nextBlock := some new }
  other : ∀ i, i ≠ new → i ≠ cur → (t'.mmcbt i).core = (t.mmcbt i).core

section AnyTable
variable {t t' : MMCBT} {new : Fin memNmcbs} {owner numBlocks flags page : WORD}

theorem scanBlocks_offers {cur : Fin memNmcbs} (found : scanBlocks t numBlocks = some (some cur)) :
    offers t numBlocks cur = true := by
  obtain ⟨l, -, -, first⟩ := walk_some_iff.mp found
  exact List.find?_some first

/-- A block that is handed out has been cut from an unowned one. -/
theorem memGetblock_cut
    (called : memGetblock t owner numBlocks flags page = .ok (some new, t')) :
    ∃ cur, Cut t cur new owner numBlocks flags page t' := by
  unfold memGetblock at called
  split at called
  · cases called
  split at called
  · cases called
  · cases called
  next cur found =>
    have offered := scanBlocks_offers found
    simp only [offers, Bool.and_eq_true, beq_iff_eq, decide_eq_true_eq] at offered
    obtain ⟨unowned, enough⟩ := offered
    dsimp only at called
    split at called
    · cases called
    next free =>
      simp only [Except.ok.injEq, Prod.mk.injEq, Option.some.injEq] at called
      obtain ⟨rfl, rfl⟩ := called
      have unused := firstFound_free free
      simp only [Bool.and_eq_true, beq_iff_eq] at unused
      have unused : (t.mmcbt (findFreeMMCB t)).ownerPID = -1 := unused.2
      have apart : cur ≠ findFreeMMCB t := by
        intro same
        rw [← same, unowned] at unused
        exact absurd unused (by decide)
      exact ⟨cur, unowned, enough, unused, carveBlock_new apart, carveBlock_cur apart,
        fun i hn hc => carveBlock_other hn hc⟩

theorem memGetblock_null (called : memGetblock t owner numBlocks flags page = .ok (none, t')) :
    t' = t := by
  unfold memGetblock at called
  split at called
  · cases called
    rfl
  split at called
  · cases called
  · cases called
    rfl
  next cur found =>
    dsimp only at called
    split at called
    · cases called
    · cases called

end AnyTable

end Muxx
