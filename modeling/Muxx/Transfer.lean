import Muxx.Lib.Copy
import Muxx.KernelMode
import Muxx.Tasks

/-!
# Copies between tasks

muxx_svc_xcopy of muxx_xcopy_svc.c with the bytes it moves. Kernel pages 4 and
5 are laid over the page of the source and the page of the destination; at the
end of a page the pointer to the address register is moved, not the page.

* `copyBytes_ok`: as long as the windows stay where they are, this is a copy cell by
  cell;
* `copyBytes_crossing`: a destination that goes over the end of its page;
* `dest_answers`: what a copy that moves its own window has written before;
* `transfer_done`, `transfer_made`: the copy with its windows opened and closed;
* `Core.svcXcopy_answer`: the return code is that of the model without memory.
-/

namespace Muxx

open Copy Fallible

/-- The kernel and the bytes of physical memory, which have the page registers of kernel
mode among them. The kernel's own tables and variables are not looked for in it, and
other device registers count as memory. -/
structure Core where
  kernel : Kernel
  mem : Nat → BYTE

/-- The variables of the loop for one side: the pointer to the address register,
the offset into the page, and the pointer to the next byte. -/
structure Window where
  par : ADDRESS
  offset : WORD
  byte : ADDRESS

/-- At the end of a page. The pointer counts words. -/
def Window.turn (w : Window) (page : ADDRESS) : Window :=
  if w.offset ≥ 8192 then
    { par := w.par + 2 * 0o200
      offset := w.offset - 8192
      byte := page + (w.offset - 8192) }
  else w

def Window.next (w : Window) : Window :=
  { w with offset := w.offset + 1, byte := w.byte + 1 }

structure Copying where
  src : Window
  dst : Window
  mem : Nat → BYTE

def copyByte (bus : ADDRESS → Bool) (c : Copying) : Except Fault Copying := do
  let src := c.src.turn (5 * 8192)
  let dst := c.dst.turn (6 * 8192)
  let b ← loadByte bus c.mem src.byte
  let mem ← storeByte bus c.mem dst.byte b
  return { src := src.next, dst := dst.next, mem := mem }

def copyBytes (bus : ADDRESS → Bool) : Nat → Copying → Except Fault Copying
  | 0, c => .ok c
  | n + 1, c => do copyBytes bus n (← copyByte bus c)

/-- The page that is laid over a task's page gives access to 8 KB. -/
abbrev windowPdr : WORD := pdrAccRw ||| pdrSiz8k ||| pdrDirUp

/-- The registers of kernel pages 4 and 5. -/
structure WindowRegs where
  pdr4 : WORD
  pdr5 : WORD
  par4 : WORD
  par5 : WORD

section
variable (bus : ADDRESS → Bool) (mem : Nat → BYTE)

def readWindows : Except Fault WindowRegs := do
  let pdr4 ← loadWord bus mem (kisdr 4)
  let pdr5 ← loadWord bus mem (kisdr 5)
  let par4 ← loadWord bus mem (kisar 4)
  let par5 ← loadWord bus mem (kisar 5)
  return { pdr4, pdr5, par4, par5 }

def openWindows (par4 par5 : WORD) : Except Fault (Nat → BYTE) := do
  let mem ← storeWord bus mem (kisar 4) par4
  let mem ← storeWord bus mem (kisar 5) par5
  let mem ← storeWord bus mem (kisdr 4) windowPdr
  let pdr4 ← loadWord bus mem (kisdr 4)
  storeWord bus mem (kisdr 5) pdr4

/-- `par4` and `par5` are where the pointers to the address registers stand. -/
def closeWindows (par4 par5 : ADDRESS) (regs : WindowRegs) : Except Fault (Nat → BYTE) := do
  let mem ← storeWord bus mem par4 regs.par4
  let mem ← storeWord bus mem par5 regs.par5
  let mem ← storeWord bus mem (kisdr 4) regs.pdr4
  storeWord bus mem (kisdr 5) regs.pdr5

end

/-- The windows before the first byte. -/
def Copying.start (srcaddr dstaddr : WORD) (mem : Nat → BYTE) : Copying :=
  let soffset := srcaddr &&& 0x1FFF
  let doffset := dstaddr &&& 0x1FFF
  { src := ⟨kisar 4, soffset, 4 * 8192 + soffset⟩
    dst := ⟨kisar 5, doffset, 5 * 8192 + doffset⟩
    mem := mem }

/-- The copy once it is permitted, from the user pages `spar` to the user pages
`dpar`. -/
def transfer (bus : ADDRESS → Bool) (mem : Nat → BYTE) (spar dpar : Fin 8 → WORD)
    (srcaddr dstaddr size : WORD) : Except Fault (Nat → BYTE) := do
  let regs ← readWindows bus mem
  let mem ← openWindows bus mem (spar (pageOf srcaddr)) (dpar (pageOf dstaddr))
  let c ← copyBytes bus size.toNat (.start srcaddr dstaddr mem)
  closeWindows bus c.mem c.src.par c.dst.par regs

namespace Core

/-- `n` bytes are copied in kernel mode. -/
def copyUp (bus : ADDRESS → Bool) (m : Core) (t f : ADDRESS) : Nat → Except Fault Core
  | 0 => .ok m
  | n + 1 => do
    let b ← loadByte bus m.mem f
    let mem ← storeByte bus m.mem t b
    copyUp bus { m with mem := mem } (t + 1) (f + 1) n

/-- memcpy counts its bytes with an `int`. -/
def memcpy (bus : ADDRESS → Bool) (m : Core) (t f n : WORD) : Except Fault Core :=
  m.copyUp bus t f n.toInt.toNat

/-- The caller may read the task's memory. -/
def mayRead (k : Kernel) (srctcb : Fin maxTasks) : Prop :=
  (k.tct srctcb).uic = k.cur.uic ∨ k.cur.operprv ∨ k.cur.auditprv

/-- The caller may write the task's memory. -/
def mayWrite (k : Kernel) (dsttcb : Fin maxTasks) : Prop :=
  (k.tct dsttcb).uic = k.cur.uic ∨ k.cur.operprv

instance mayRead.decidable (k : Kernel) (srctcb : Fin maxTasks) : Decidable (mayRead k srctcb) :=
  inferInstanceAs (Decidable (_ ∨ _ ∨ _))

instance mayWrite.decidable (k : Kernel) (dsttcb : Fin maxTasks) : Decidable (mayWrite k dsttcb) :=
  inferInstanceAs (Decidable (_ ∨ _))

/-- A copy from the task itself to itself is made at once, and then once more. -/
def svcXcopy (bus : ADDRESS → Bool) (m : Core) (dstpid dstaddr srcpid srcaddr size : WORD) :
    Except Fault (Int × Core) := do
  if size = 0 then return (eok, m)
  let m ← if dstpid = 0 ∧ srcpid = 0 then m.memcpy bus dstaddr srcaddr size else .ok m
  let oldpsw := m.kernel.ipl
  let k := m.kernel.setpl7
  match findtcb k srcpid, findtcb k dstpid with
  | none, _ => throw .nullref
  | some srctcb, dsttcb =>
    if ¬ mayRead k srctcb then return (enopriv, { m with kernel := k.setpl oldpsw })
    match dsttcb with
    | none => throw .nullref
    | some dsttcb =>
      if ¬ mayWrite k dsttcb then return (enopriv, { m with kernel := k.setpl oldpsw })
      -- the source reads the old registers before it looks for the tasks
      let mem ← transfer bus m.mem (k.tct srctcb).mmuState.upar (k.tct dsttcb).mmuState.upar
        srcaddr dstaddr size
      return (eok, { kernel := k.setpl oldpsw, mem := mem })

end Core

/-! ## The pointers -/

/-- How often the pointer has moved after `size` bytes from `addr` on. -/
def turns (addr size : WORD) : Nat := ((addr &&& 0x1FFF).toNat + size.toNat - 1) / 8192

def Window.step (page : ADDRESS) (w : Window) : Window := (w.turn page).next

/-- Where the pointer stands for byte `i`: on from `first`, up to the end of
the page, and from then on in the page at `next`, over and over. -/
def pointer (first next : ADDRESS) (addr : WORD) (i : Nat) : ADDRESS :=
  (if addr.toNat % 8192 + i < 8192 then first else next) +
    BitVec.ofNat 16 ((addr.toNat + i) % 8192)

/-- Where the pointer of a window stands for byte `i`. -/
def Window.at (w : Window) (page : ADDRESS) (i : Nat) : Window :=
  ((Window.step page)^[i] w).turn page

theorem offset_toNat (addr : WORD) : (addr &&& 0x1FFF).toNat = addr.toNat % 8192 := by
  rw [BitVec.toNat_and]
  exact Nat.and_two_pow_sub_one_eq_mod addr.toNat 13

theorem turns_none {addr size : WORD} :
    turns addr size = 0 ↔ (addr &&& 0x1FFF).toNat + size.toNat ≤ 8192 := by
  unfold turns
  omega

section Pointers
variable {n : Nat}

theorem Window.turn_within {w : Window} (page : ADDRESS) (within : w.offset.toNat < 8192) :
    w.turn page = w := by
  unfold Window.turn
  apply if_neg
  rw [ge_iff_le, BitVec.le_def]
  exact Nat.not_le.mpr within

/-- After `n` bytes the pointer has moved `t` times. It moves before a byte, not
after one, so the offset may stand at the end of the page. -/
structure Turned (w₀ w : Window) (n t : Nat) : Prop where
  par : w.par = w₀.par + 256 * BitVec.ofNat 16 t
  offset : w.offset.toNat + 8192 * t = w₀.offset.toNat + n
  page : w.offset.toNat ≤ 8192
  start : w.offset.toNat = 0 → t = 0

theorem Turned.step {w₀ w : Window} {t : Nat} (h : Turned w₀ w n t) (page : ADDRESS) :
    ∃ t, Turned w₀ (w.step page) (n + 1) t := by
  have offset := h.offset
  by_cases within : w.offset.toNat < 8192
  · have next : (w.offset + 1).toNat = w.offset.toNat + 1 := by
      rw [BitVec.toNat_add]
      exact Nat.mod_eq_of_lt (Nat.lt_of_le_of_lt within (by decide))
    refine ⟨t, ?_⟩
    rw [Window.step, Window.turn_within page within]
    refine ⟨h.par, ?_, ?_, ?_⟩
    · show (w.offset + 1).toNat + _ = _
      omega
    · show (w.offset + 1).toNat ≤ _
      omega
    · show (w.offset + 1).toNat = 0 → _
      omega
  · have full : w.offset = 8192 := BitVec.eq_of_toNat_eq (Nat.le_antisymm h.page (Nat.not_lt.mp within))
    have turned : w.turn page = ⟨w.par + 256, 0, page + 0⟩ := by
      rw [Window.turn, full]
      rfl
    refine ⟨t + 1, ?_⟩
    rw [Window.step, turned]
    rw [full] at offset
    have offset : 8192 + 8192 * t = w₀.offset.toNat + n := offset
    have one : (1 : WORD).toNat = 1 := rfl
    refine ⟨?_, ?_, one.trans_le (by decide), fun none => absurd (one.symm.trans none) (by decide)⟩
    · show w.par + 256 = _
      rw [h.par, BitVec.add_assoc, BitVec.ofNat_add, BitVec.mul_add]
      rfl
    · show 1 + 8192 * (t + 1) = _
      omega

theorem iterate_turned {w : Window} (within : w.offset.toNat < 8192) (page : ADDRESS) (n : Nat) :
    ∃ t, Turned w ((Window.step page)^[n] w) n t := by
  induction n with
  | zero =>
    refine ⟨0, ?_, rfl, Nat.le_of_lt within, fun _ => rfl⟩
    exact (BitVec.add_zero w.par).symm
  | succ n ih =>
    obtain ⟨t, turned⟩ := ih
    rw [Function.iterate_succ_apply']
    exact turned.step page

theorem iterate_par {w : Window} (within : w.offset.toNat < 8192) (page : ADDRESS) (n : Nat) :
    ((Window.step page)^[n] w).par =
      w.par + 256 * BitVec.ofNat 16 ((w.offset.toNat + n - 1) / 8192) := by
  obtain ⟨t, turned⟩ := iterate_turned within page n
  have count : (w.offset.toNat + n - 1) / 8192 = t := by
    have offset := turned.offset
    have page := turned.page
    have start := turned.start
    omega
  rw [count]
  exact turned.par

theorem Window.at_next (w : Window) (page : ADDRESS) (i : Nat) :
    w.at page (i + 1) = (w.at page i).next.turn page := by
  unfold Window.at
  rw [Function.iterate_succ_apply', Window.step]

/-- The offset has the low bits of the address, and the pointer follows it. -/
theorem Window.at_pointer {w : Window} {first : ADDRESS} {addr : WORD}
    (offset : w.offset = addr &&& 0x1FFF) (byte : w.byte = first + w.offset) (page : ADDRESS)
    (i : Nat) : (w.at page i).byte = pointer first page addr i := by
  have low : w.offset.toNat = addr.toNat % 8192 := offset ▸ offset_toNat addr
  have follows : (w.at page i).offset = BitVec.ofNat 16 ((addr.toNat + i) % 8192) ∧
      (w.at page i).byte = (if addr.toNat % 8192 + i < 8192 then first else page) +
        (w.at page i).offset := by
    have small (n : Nat) : (BitVec.ofNat 16 (n % 8192)).toNat = n % 8192 := by
      rw [BitVec.toNat_ofNat]
      omega
    induction i with
    | zero =>
      have start : w.at page 0 = w :=
        Window.turn_within page (low.trans_lt (Nat.mod_lt _ (by decide)))
      rw [start, if_pos (by omega)]
      refine ⟨BitVec.eq_of_toNat_eq ?_, byte⟩
      rw [small, low, Nat.add_zero]
    | succ i ih =>
      obtain ⟨here, stands⟩ := ih
      have one : (BitVec.ofNat 16 ((addr.toNat + i) % 8192) + 1).toNat =
          (addr.toNat + i) % 8192 + 1 := by
        rw [BitVec.toNat_add, small]
        exact Nat.mod_eq_of_lt (by show _ + 1 < 65536; omega)
      rw [Window.at_next]
      by_cases last : (addr.toNat + i) % 8192 + 1 = 8192
      · have full : (w.at page i).next.offset = 8192 := by
          apply BitVec.eq_of_toNat_eq
          show ((w.at page i).offset + 1).toNat = 8192
          rw [here, one, last]
        have zero : (addr.toNat + (i + 1)) % 8192 = 0 := by omega
        rw [Window.turn, full, if_pos (by decide), if_neg (by omega), zero]
        exact ⟨rfl, rfl⟩
      · have same : (addr.toNat + (i + 1)) % 8192 = (addr.toNat + i) % 8192 + 1 := by omega
        have offset : (w.at page i).next.offset.toNat = (addr.toNat + i) % 8192 + 1 := by
          show ((w.at page i).offset + 1).toNat = _
          rw [here, one]
        rw [Window.turn_within page (by omega)]
        refine ⟨BitVec.eq_of_toNat_eq ?_, ?_⟩
        · rw [offset, small, same]
        · show (w.at page i).byte + 1 = _ + ((w.at page i).offset + 1)
          rw [stands, BitVec.add_assoc]
          congr 1
          exact if_congr (by omega) rfl rfl
  rw [follows.2, follows.1, pointer]

theorem window_toNat (page : Fin 8) (offset : WORD) :
    (BitVec.ofNat 16 page * 8192 + offset).toNat = (page * 8192 + offset.toNat) % 65536 := by
  have small : page.val % 65536 = page.val := by omega
  have size : (8192 : WORD).toNat = 8192 := rfl
  rw [BitVec.toNat_add, BitVec.toNat_mul, BitVec.toNat_ofNat, size, small, Nat.mod_add_mod]

theorem pageOf_window (page : Fin 8) {offset : WORD} (within : offset.toNat < 8192) :
    pageOf (BitVec.ofNat 16 page * 8192 + offset) = page := by
  apply Fin.ext
  simp only [pageOf, Fin.ofNat, window_toNat]
  omega


end Pointers

/-! ## The loop -/

/-- Both windows of the copy are over pages of 8 KB. -/
structure Laid (mem : Nat → BYTE) (par4 par5 : WORD) : Prop where
  par4 : (kernelMode mem).kpar 4 = par4
  par5 : (kernelMode mem).kpar 5 = par5
  pdr4 : (kernelMode mem).kpdr 4 = windowPdr
  pdr5 : (kernelMode mem).kpdr 5 = windowPdr

/-- Where byte `i` is read: behind the end of the page through the other window. -/
def sourceCell (par4 par5 : WORD) (srcaddr : WORD) (i : Nat) : Nat :=
  physical (if srcaddr.toNat % 8192 + i < 8192 then par4 else par5)
    (BitVec.ofNat 16 ((srcaddr.toNat + i) % 8192))

/-- Where byte `i` is written. -/
def destCell (par5 : WORD) (dstaddr : WORD) (i : Nat) : Nat :=
  physical par5 (BitVec.ofNat 16 ((dstaddr.toNat + i) % 8192))

section Loop
variable {bus : ADDRESS → Bool} {mem mem' : Nat → BYTE} {par4 par5 srcaddr dstaddr : WORD} {c c' : Copying}
variable {n i : Nat}

theorem copyByte_ok : copyByte bus c = .ok c' ↔
    ((kernelMode c.mem).Loads (c.src.turn (5 * 8192)).byte ∧
      Responds bus ((kernelMode c.mem).cell (c.src.turn (5 * 8192)).byte)) ∧
    ((kernelMode c.mem).Stores (c.dst.turn (6 * 8192)).byte ∧
      Responds bus ((kernelMode c.mem).cell (c.dst.turn (6 * 8192)).byte)) ∧
    SamePages c.mem c'.mem ∧
      c' = { src := c.src.step (5 * 8192)
             dst := c.dst.step (6 * 8192)
             mem := Function.update c.mem ((kernelMode c.mem).cell (c.dst.turn (6 * 8192)).byte)
               (c.mem ((kernelMode c.mem).cell (c.src.turn (5 * 8192)).byte)) } := by
  constructor
  · intro copied
    obtain ⟨b, loaded, rest⟩ := bind_ok.mp copied
    obtain ⟨mem, stored, ret⟩ := bind_ok.mp rest
    obtain ⟨loads, there, rfl⟩ := loadAt_ok.mp loaded
    obtain ⟨stores, there', same, rfl⟩ := storeAt_ok.mp stored
    cases ret
    exact ⟨⟨loads, there⟩, ⟨stores, there'⟩, same, rfl⟩
  · rintro ⟨⟨loads, there⟩, ⟨stores, there'⟩, same, rfl⟩
    exact bind_ok.mpr ⟨_, loadAt_ok.mpr ⟨loads, there, rfl⟩,
      bind_ok.mpr ⟨_, storeAt_ok.mpr ⟨stores, there', same, rfl⟩, rfl⟩⟩

/-- The last byte may as well be taken off. -/
theorem copyBytes_snoc (bus : ADDRESS → Bool) (n : Nat) (c : Copying) :
    copyBytes bus (n + 1) c = (do copyByte bus (← copyBytes bus n c)) := by
  induction n generalizing c with
  | zero =>
    show (copyByte bus c >>= fun c => .ok c) = copyByte bus c
    cases copyByte bus c <;> rfl
  | succ n ih =>
    show (copyByte bus c >>= copyBytes bus (n + 1)) = _
    cases first : copyByte bus c with
    | error fault =>
      simp only [copyBytes, first]
      rfl
    | ok c₁ =>
      have rest : copyBytes bus (n + 1) c = copyBytes bus n c₁ := by
        rw [copyBytes, first]
        rfl
      rw [rest]
      exact ih c₁

theorem copyBytes_windows (copied : copyBytes bus n c = .ok c') :
    c'.src = (Window.step (5 * 8192))^[n] c.src ∧ c'.dst = (Window.step (6 * 8192))^[n] c.dst ∧
      SamePages c.mem c'.mem := by
  induction n generalizing c' with
  | zero =>
    cases copied
    exact ⟨rfl, rfl, SamePages.refl _⟩
  | succ n ih =>
    rw [copyBytes_snoc] at copied
    obtain ⟨c₁, before, last⟩ := bind_ok.mp copied
    obtain ⟨src, dst, same⟩ := ih before
    obtain ⟨-, -, same', moved⟩ := copyByte_ok.mp last
    rw [Function.iterate_succ_apply', Function.iterate_succ_apply', ← src, ← dst]
    exact ⟨by rw [moved], by rw [moved], same.trans same'⟩

/-- The bytes before the last one have been copied. -/
theorem copyBytes_prefix (copied : copyBytes bus n c = .ok c') (before : i < n) :
    ∃ c₁ c₂, copyBytes bus i c = .ok c₁ ∧ copyByte bus c₁ = .ok c₂ := by
  induction n generalizing c' with
  | zero => exact absurd before (Nat.not_lt_zero i)
  | succ n ih =>
    rw [copyBytes_snoc] at copied
    obtain ⟨c₁, rest, last⟩ := bind_ok.mp copied
    rcases Nat.lt_succ_iff_lt_or_eq.mp before with earlier | rfl
    · exact ih rest earlier
    · exact ⟨c₁, c', rest, last⟩

theorem start_src (i : Nat) : ((Copying.start srcaddr dstaddr mem).src.at (5 * 8192) i).byte =
    pointer (4 * 8192) (5 * 8192) srcaddr i := Window.at_pointer rfl rfl _ i

theorem start_dst (i : Nat) : ((Copying.start srcaddr dstaddr mem).dst.at (6 * 8192) i).byte =
    pointer (5 * 8192) (6 * 8192) dstaddr i := Window.at_pointer rfl rfl _ i

theorem small_toNat (n : Nat) : (BitVec.ofNat 16 (n % 8192)).toNat = n % 8192 := by
  rw [BitVec.toNat_ofNat]
  omega

theorem physical_window (par : WORD) (page : Fin 8) (offset : WORD) :
    physical par (BitVec.ofNat 16 page * 8192 + offset) = physical par offset := by
  apply physical_congr
  rw [window_toNat]
  omega

/-- A page of 8 KB under one of the windows. -/
theorem window_access {page : Fin 8} {par : WORD} (laid : (kernelMode mem).kpar page = par)
    (whole : (kernelMode mem).kpdr page = windowPdr) (m : Nat) :
    let addr := BitVec.ofNat 16 page * 8192 + BitVec.ofNat 16 (m % 8192)
    ((kernelMode mem).Loads addr ∧ (kernelMode mem).Stores addr) ∧
      (kernelMode mem).cell addr = physical par (BitVec.ofNat 16 (m % 8192)) := by
  intro addr
  have within : (BitVec.ofNat 16 (m % 8192)).toNat < 8192 :=
    (small_toNat m).trans_lt (Nat.mod_lt _ (by decide))
  have here : pageOf addr = page := pageOf_window page within
  unfold MMUSTATE.Loads MMUSTATE.Stores MMUSTATE.cell
  rw [here, whole, laid]
  exact ⟨⟨⟨by decide, inPage_whole _⟩, by decide, inPage_whole _⟩, physical_window ..⟩

theorem Laid.source (h : Laid mem par4 par5) (srcaddr : WORD) (i : Nat) :
    (kernelMode mem).Loads (pointer (4 * 8192) (5 * 8192) srcaddr i) ∧
      (kernelMode mem).cell (pointer (4 * 8192) (5 * 8192) srcaddr i) =
        sourceCell par4 par5 srcaddr i := by
  unfold pointer sourceCell
  split
  · obtain ⟨⟨loads, -⟩, cell⟩ := window_access h.par4 h.pdr4 (srcaddr.toNat + i)
    exact ⟨loads, cell⟩
  · obtain ⟨⟨loads, -⟩, cell⟩ := window_access h.par5 h.pdr5 (srcaddr.toNat + i)
    exact ⟨loads, cell⟩

theorem Laid.dest (h : Laid mem par4 par5) (within : dstaddr.toNat % 8192 + i < 8192) :
    (kernelMode mem).Stores (pointer (5 * 8192) (6 * 8192) dstaddr i) ∧
      (kernelMode mem).cell (pointer (5 * 8192) (6 * 8192) dstaddr i) = destCell par5 dstaddr i := by
  unfold pointer destCell
  rw [if_pos within]
  obtain ⟨⟨-, stores⟩, cell⟩ := window_access h.par5 h.pdr5 (dstaddr.toNat + i)
  exact ⟨stores, cell⟩

/-- What stops the copy of byte `i`. -/
structure ByteGoes (bus : ADDRESS → Bool) (src dst : Nat → Nat) (mem : Nat → BYTE) (i : Nat) : Prop where
  source : Responds bus (src i)
  dest : Responds bus (dst i)
  same : SamePages (copy src dst i mem) (copy src dst (i + 1) mem)

/-- Byte `i` is read at `src i` and written at `dst i`. -/
structure BytePlaced (c : Copying) (src dst : Nat → Nat) (i : Nat) : Prop where
  loads : (kernelMode (copy src dst i c.mem)).Loads (c.src.at (5 * 8192) i).byte
  source : (kernelMode (copy src dst i c.mem)).cell (c.src.at (5 * 8192) i).byte = src i
  stores : (kernelMode (copy src dst i c.mem)).Stores (c.dst.at (6 * 8192) i).byte
  dest : (kernelMode (copy src dst i c.mem)).cell (c.dst.at (6 * 8192) i).byte = dst i

/-- The loop copies cell by cell. -/
theorem copyBytes_follows {src dst : Nat → Nat} (follows : ∀ i < n, BytePlaced c src dst i) :
    (∃ c', copyBytes bus n c = .ok c' ∧ c'.mem = mem') ↔
      (∀ i < n, ByteGoes bus src dst c.mem i) ∧ mem' = copy src dst n c.mem := by
  induction n generalizing mem' with
  | zero =>
    constructor
    · rintro ⟨c', copied, rfl⟩
      cases copied
      exact ⟨fun i bound => absurd bound (Nat.not_lt_zero i), rfl⟩
    · rintro ⟨-, rfl⟩
      exact ⟨_, rfl, rfl⟩
  | succ n ih =>
    have before (mem' : Nat → BYTE) := @ih mem' fun i bound => follows i (Nat.lt_succ_of_lt bound)
    have here := follows n (Nat.lt_succ_self n)
    -- one more byte from the state that the first `n` have left
    have next {c₁ c' : Copying} (ran : copyBytes bus n c = .ok c₁)
        (now : c₁.mem = copy src dst n c.mem) : copyByte bus c₁ = .ok c' ↔
          ByteGoes bus src dst c.mem n ∧
            c' = { src := c₁.src.step (5 * 8192)
                   dst := c₁.dst.step (6 * 8192)
                   mem := copy src dst (n + 1) c.mem } := by
      obtain ⟨from_src, to_dst, -⟩ := copyBytes_windows ran
      have read : (c₁.src.turn (5 * 8192)).byte = (c.src.at (5 * 8192) n).byte := by
        rw [from_src]
        rfl
      have written : (c₁.dst.turn (6 * 8192)).byte = (c.dst.at (6 * 8192) n).byte := by
        rw [to_dst]
        rfl
      rw [copyByte_ok, read, written, now, here.source, here.dest]
      constructor
      · rintro ⟨⟨-, there⟩, ⟨-, there'⟩, same, rfl⟩
        exact ⟨⟨there, there', same⟩, rfl⟩
      · rintro ⟨goes, rfl⟩
        exact ⟨⟨here.loads, goes.source⟩, ⟨here.stores, goes.dest⟩, goes.same, rfl⟩
    constructor
    · rintro ⟨c', copied, rfl⟩
      rw [copyBytes_snoc] at copied
      obtain ⟨c₁, ran, last⟩ := bind_ok.mp copied
      obtain ⟨all, now⟩ := (before _).mp ⟨c₁, ran, rfl⟩
      obtain ⟨goes, rfl⟩ := (next ran now).mp last
      refine ⟨fun i bound => ?_, rfl⟩
      rcases Nat.lt_succ_iff_lt_or_eq.mp bound with earlier | rfl
      · exact all i earlier
      · exact goes
    · rintro ⟨all, rfl⟩
      obtain ⟨c₁, ran, now⟩ := (before _).mpr ⟨fun i bound => all i (Nat.lt_succ_of_lt bound), rfl⟩
      rw [copyBytes_snoc]
      exact ⟨_, bind_ok.mpr ⟨c₁, ran, (next ran now).mpr ⟨all n (Nat.lt_succ_self n), rfl⟩⟩, rfl⟩

/-- With the windows where they are laid, the bytes go from page to page. -/
theorem Laid.follows {src dst : Nat → Nat} (h : Laid (copy src dst i mem) par4 par5)
    (within : dstaddr.toNat % 8192 + i < 8192) (source : src i = sourceCell par4 par5 srcaddr i)
    (dest : dst i = destCell par5 dstaddr i) : BytePlaced (.start srcaddr dstaddr mem) src dst i := by
  obtain ⟨loads, read⟩ := h.source srcaddr i
  obtain ⟨stores, written⟩ := h.dest within
  constructor
  · rw [start_src]
    exact loads
  · rw [start_src, source]
    exact read
  · rw [start_dst]
    exact stores
  · rw [start_dst, dest]
    exact written

/-- As long as the windows stay where they are and the destination does not come to
the end of its page, the loop copies cell by cell. -/
theorem copyBytes_ok (fits : dstaddr.toNat % 8192 + n ≤ 8192)
    (stay : ∀ i < n, Laid (copy (sourceCell par4 par5 srcaddr) (destCell par5 dstaddr) i mem) par4 par5) :
    (∃ c', copyBytes bus n (.start srcaddr dstaddr mem) = .ok c' ∧ c'.mem = mem') ↔
      (∀ i < n, ByteGoes bus (sourceCell par4 par5 srcaddr) (destCell par5 dstaddr) mem i) ∧
        mem' = copy (sourceCell par4 par5 srcaddr) (destCell par5 dstaddr) n mem :=
  copyBytes_follows fun i bound => (stay i bound).follows (by omega) rfl rfl

/-- A byte of the address register of the destination's window. -/
def Kisar5Byte (p : Nat) : Prop := p = 0o772352 ∨ p = 0o772353

instance Kisar5Byte.decidable (p : Nat) : Decidable (Kisar5Byte p) := inferInstanceAs (Decidable (_ ∨ _))

theorem dest_cell (at_five : (kernelMode mem).kpar 5 = par5) (within : dstaddr.toNat % 8192 + i < 8192) :
    (kernelMode mem).cell (pointer (5 * 8192) (6 * 8192) dstaddr i) = destCell par5 dstaddr i := by
  have low : (BitVec.ofNat 16 ((dstaddr.toNat + i) % 8192)).toNat < 8192 :=
    (small_toNat _).trans_lt (Nat.mod_lt _ (by decide))
  have here : pageOf (5 * 8192 + BitVec.ofNat 16 ((dstaddr.toNat + i) % 8192)) = 5 :=
    pageOf_window 5 low
  rw [pointer, if_pos within, destCell, MMUSTATE.cell, here, at_five]
  exact physical_window par5 5 _

/-- Where the window is as it was, byte `n` goes where it should. -/
theorem dest_next {c₁ c₂ : Copying} (ran : copyBytes bus n (.start srcaddr dstaddr mem) = .ok c₁)
    (last : copyByte bus c₁ = .ok c₂) (at_five : (kernelMode c₁.mem).kpar 5 = par5)
    (within : dstaddr.toNat % 8192 + n < 8192) :
    Responds bus (destCell par5 dstaddr n) ∧
      ∃ b, c₂.mem = Function.update c₁.mem (destCell par5 dstaddr n) b := by
  obtain ⟨-, ⟨-, there⟩, -, rfl⟩ := copyByte_ok.mp last
  have to_dst : (c₁.dst.turn (6 * 8192)).byte = pointer (5 * 8192) (6 * 8192) dstaddr n := by
    rw [(copyBytes_windows ran).2.1]
    exact start_dst n
  rw [to_dst, dest_cell at_five within] at there ⊢
  exact ⟨there, _, rfl⟩

/-- Until a byte of that register is written, the window stays where it is and only the
destination changes. -/
theorem dest_stays (start : (kernelMode mem).kpar 5 = par5) (fits : dstaddr.toNat % 8192 + n ≤ 8192)
    (before : ∀ i < n, ¬ Kisar5Byte (destCell par5 dstaddr i))
    (copied : copyBytes bus n (.start srcaddr dstaddr mem) = .ok c') :
    (kernelMode c'.mem).kpar 5 = par5 ∧
      ∀ a, c'.mem a ≠ mem a → ∃ i < n, a = destCell par5 dstaddr i := by
  induction n generalizing c' with
  | zero =>
    cases copied
    exact ⟨start, fun a changed => absurd rfl changed⟩
  | succ n ih =>
    rw [copyBytes_snoc] at copied
    obtain ⟨c₁, ran, last⟩ := bind_ok.mp copied
    obtain ⟨at_five, only⟩ := ih (by omega) (fun i bound => before i (by omega)) ran
    obtain ⟨-, b, stored⟩ := dest_next ran last at_five (by omega)
    have out := before n (Nat.lt_succ_self n)
    unfold Kisar5Byte at out
    rw [stored]
    constructor
    · have low : kisarByte 5 ≠ destCell par5 dstaddr n := fun same => out (.inl same.symm)
      have high : kisarByte 5 + 1 ≠ destCell par5 dstaddr n := fun same => out (.inr same.symm)
      exact (wordIn_congr (Function.update_of_ne low ..) (Function.update_of_ne high ..)).trans at_five
    · intro a changed
      by_cases here : a = destCell par5 dstaddr n
      · exact ⟨n, Nat.lt_succ_self n, here⟩
      · rw [Function.update_of_ne here] at changed
        obtain ⟨i, bound, there⟩ := only a changed
        exact ⟨i, Nat.lt_succ_of_lt bound, there⟩

/-- Until then something must answer. -/
theorem dest_answers (start : (kernelMode mem).kpar 5 = par5)
    (fits : dstaddr.toNat % 8192 + n ≤ 8192)
    (copied : copyBytes bus n (.start srcaddr dstaddr mem) = .ok c') (bound : i < n)
    (before : ∀ j < i, ¬ Kisar5Byte (destCell par5 dstaddr j)) :
    Responds bus (destCell par5 dstaddr i) := by
  obtain ⟨c₁, c₂, ran, last⟩ := copyBytes_prefix copied bound
  obtain ⟨at_five, -⟩ := dest_stays start (by omega) before ran
  exact (dest_next ran last at_five (by omega)).1

/-- A byte of the address register of one of the windows. -/
def KisarByte (p : Nat) : Prop := 0o772350 ≤ p ∧ p < 0o772354

theorem source_cell (at_four : (kernelMode mem).kpar 4 = par4) (at_five : (kernelMode mem).kpar 5 = par5) :
    (kernelMode mem).cell (pointer (4 * 8192) (5 * 8192) srcaddr i) =
      sourceCell par4 par5 srcaddr i := by
  have low : (BitVec.ofNat 16 ((srcaddr.toNat + i) % 8192)).toNat < 8192 :=
    (small_toNat _).trans_lt (Nat.mod_lt _ (by decide))
  unfold pointer sourceCell MMUSTATE.cell
  split
  · have here : pageOf (4 * 8192 + BitVec.ofNat 16 ((srcaddr.toNat + i) % 8192)) = 4 := pageOf_window 4 low
    rw [here, at_four]
    exact physical_window par4 4 _
  · have here : pageOf (5 * 8192 + BitVec.ofNat 16 ((srcaddr.toNat + i) % 8192)) = 5 := pageOf_window 5 low
    rw [here, at_five]
    exact physical_window par5 5 _

/-- Until a byte of these registers is written, what the loop copies it copies cell by cell. -/
theorem cells_copied (four : (kernelMode mem).kpar 4 = par4) (five : (kernelMode mem).kpar 5 = par5)
    (fits : dstaddr.toNat % 8192 + n ≤ 8192) (before : ∀ i < n, ¬ KisarByte (destCell par5 dstaddr i))
    (copied : copyBytes bus n (.start srcaddr dstaddr mem) = .ok c') :
    ((kernelMode c'.mem).kpar 4 = par4 ∧ (kernelMode c'.mem).kpar 5 = par5) ∧
      c'.mem = copy (sourceCell par4 par5 srcaddr) (destCell par5 dstaddr) n mem := by
  induction n generalizing c' with
  | zero =>
    cases copied
    exact ⟨⟨four, five⟩, rfl⟩
  | succ n ih =>
    rw [copyBytes_snoc] at copied
    obtain ⟨c₁, ran, last⟩ := bind_ok.mp copied
    obtain ⟨⟨at_four, at_five⟩, cells⟩ := ih (by omega) (fun i bound => before i (by omega)) ran
    obtain ⟨-, -, -, stored⟩ := copyByte_ok.mp last
    obtain ⟨from_src, to_dst, -⟩ := copyBytes_windows ran
    have read : (c₁.src.turn (5 * 8192)).byte = pointer (4 * 8192) (5 * 8192) srcaddr n := by
      rw [from_src]
      exact start_src n
    have written : (c₁.dst.turn (6 * 8192)).byte = pointer (5 * 8192) (6 * 8192) dstaddr n := by
      rw [to_dst]
      exact start_dst n
    have mem : c'.mem = Function.update c₁.mem (destCell par5 dstaddr n)
        (c₁.mem (sourceCell par4 par5 srcaddr n)) := by
      rw [stored, read, written, source_cell at_four at_five, dest_cell at_five (by omega)]
    have out := before n (Nat.lt_succ_self n)
    unfold KisarByte at out
    have kept {p : Nat} (register : 0o772350 ≤ p ∧ p < 0o772354) :
        Function.update c₁.mem (destCell par5 dstaddr n) (c₁.mem (sourceCell par4 par5 srcaddr n)) p =
          c₁.mem p := Function.update_of_ne (by omega) ..
    rw [mem]
    refine ⟨⟨?_, ?_⟩, ?_⟩
    · exact (wordIn_congr (kept (by decide)) (kept (by decide))).trans at_four
    · exact (wordIn_congr (kept (by decide)) (kept (by decide))).trans at_five
    · rw [copy, cells]

/-- The last byte may be one of that register. -/
theorem dest_changes (start : (kernelMode mem).kpar 5 = par5) (fits : dstaddr.toNat % 8192 + n ≤ 8192)
    (before : ∀ i, i + 1 < n → ¬ Kisar5Byte (destCell par5 dstaddr i))
    (copied : copyBytes bus n (.start srcaddr dstaddr mem) = .ok c') {a : Nat} (changed : c'.mem a ≠ mem a) :
    ∃ i < n, a = destCell par5 dstaddr i := by
  cases n with
  | zero =>
    cases copied
    exact absurd rfl changed
  | succ n =>
    rw [copyBytes_snoc] at copied
    obtain ⟨c₁, ran, last⟩ := bind_ok.mp copied
    obtain ⟨at_five, only⟩ := dest_stays start (by omega) (fun i bound => before i (by omega)) ran
    obtain ⟨-, b, stored⟩ := dest_next ran last at_five (by omega)
    by_cases here : a = destCell par5 dstaddr n
    · exact ⟨n, Nat.lt_succ_self n, here⟩
    · rw [stored, Function.update_of_ne here] at changed
      obtain ⟨i, bound, there⟩ := only a changed
      exact ⟨i, Nat.lt_succ_of_lt bound, there⟩

/-- A destination over the end of its page goes on at the start of kernel page 6, where
the stack has no memory. -/
theorem copyBytes_crossing (mapped : KernelPages mem) (beyond : 8192 < dstaddr.toNat % 8192 + n) :
    copyBytes bus n (.start srcaddr dstaddr mem) ≠ .ok c' := by
  intro copied
  obtain ⟨c₁, c₂, ran, last⟩ := copyBytes_prefix copied
    (i := 8192 - dstaddr.toNat % 8192) (by omega)
  obtain ⟨-, dst, same⟩ := copyBytes_windows ran
  have to_dst : (c₁.dst.turn (6 * 8192)).byte = 6 * 8192 := by
    rw [dst]
    refine (@start_dst mem srcaddr dstaddr _).trans ?_
    have low := dstaddr.isLt
    have start : (dstaddr.toNat + (8192 - dstaddr.toNat % 8192)) % 8192 = 0 := by omega
    rw [pointer, if_neg (by omega), start]
    rfl
  obtain ⟨-, ⟨⟨-, inPage⟩, -⟩, -⟩ := copyByte_ok.mp last
  have stack := (mapped.same same).stack
  rw [to_dst, show pageOf (6 * 8192) = 6 from rfl] at inPage
  exact stack inPage

end Loop

/-! ## Opening and closing the windows -/

/-- Something takes the word that is written at the end to where the pointer to
the address register of `page` stands after `t` moves. -/
def Answered (bus : ADDRESS → Bool) (page : Fin 8) (t : Nat) : Prop :=
  t = 0 ∨ bus (kisar page + 256 * BitVec.ofNat 16 t) = true

instance Answered.decidable (bus : ADDRESS → Bool) (page : Fin 8) (t : Nat) :
    Decidable (Answered bus page t) :=
  inferInstanceAs (Decidable (_ ∨ _))

/-- The registers of the windows that a memory holds. -/
def windowRegs (mem : Nat → BYTE) : WindowRegs where
  pdr4 := (kernelMode mem).kpdr 4
  pdr5 := (kernelMode mem).kpdr 5
  par4 := (kernelMode mem).kpar 4
  par5 := (kernelMode mem).kpar 5

/-- The windows are open over `par4` and `par5`. -/
def opened (mem : Nat → BYTE) (par4 par5 : WORD) : Nat → BYTE :=
  putWord (putWord (putWord (putWord mem (kisarByte 4) par4) (kisarByte 5) par5) (kisdrByte 4)
    windowPdr) (kisdrByte 5) windowPdr

/-- The windows are closed, the pointers having moved `t4` and `t5` times. -/
def closed (mem : Nat → BYTE) (regs : WindowRegs) (t4 t5 : Nat) : Nat → BYTE :=
  putWord (putWord (putWord (putWord mem (kisarByte 4 + 256 * t4) regs.par4)
    (kisarByte 5 + 256 * t5) regs.par5) (kisdrByte 4) regs.pdr4) (kisdrByte 5) regs.pdr5

/-- A byte of a register of the windows. -/
def WindowByte (p : Nat) : Prop := 0o772310 ≤ p ∧ p < 0o772314 ∨ 0o772350 ≤ p ∧ p < 0o772354

instance WindowByte.decidable (p : Nat) : Decidable (WindowByte p) :=
  inferInstanceAs (Decidable (_ ∨ _))

theorem WindowByte.inUnit {p : Nat} (window : WindowByte p) : InUnit p := by
  unfold WindowByte at window
  unfold InUnit
  omega

theorem turns_le (addr size : WORD) : turns addr size ≤ 8 := by
  have offset : (addr &&& 0x1FFF).toNat ≤ 8191 := by
    rw [BitVec.toNat_and]
    exact Nat.and_le_right
  have size := size.isLt
  unfold turns
  omega

section Registers
variable {bus : ADDRESS → Bool} {mem mem' : Nat → BYTE} {par4 par5 w : WORD} {page : Fin 8} {t : Nat}

theorem kisar_bytes : ∀ page : Fin 8, 0o160000 ≤ (kisar page).toNat ∧
    (kisar page).toNat + 0o600000 = kisarByte page := by
  decide

theorem kisdr_bytes : ∀ page : Fin 8, 0o160000 ≤ (kisdr page).toNat ∧
    (kisdr page).toNat + 0o600000 = kisdrByte page := by
  decide

theorem kisar_inUnit (page : Fin 8) : InUnit (kisarByte page) := by
  unfold InUnit kisarByte
  omega

theorem kisdr_inUnit (page : Fin 8) : InUnit (kisdrByte page) := by
  unfold InUnit kisdrByte
  omega

theorem samePages_kisar (free : page ∉ ownPages) (mem : Nat → BYTE) (w : WORD) :
    SamePages mem (putWord mem (kisarByte page) w) := by
  intro other own
  have apart : other ≠ page := fun same => free (same ▸ own)
  rw [kernelMode_putKisar]
  exact ⟨Function.update_of_ne apart .., rfl⟩

theorem samePages_kisdr (free : page ∉ ownPages) (mem : Nat → BYTE) (w : WORD) :
    SamePages mem (putWord mem (kisdrByte page) w) := by
  intro other own
  have apart : other ≠ page := fun same => free (same ▸ own)
  rw [kernelMode_putKisdr]
  exact ⟨rfl, Function.update_of_ne apart ..⟩

/-- Kernel mode has the registers at hand. -/
theorem storeWord_kisar (bus : ADDRESS → Bool) (h : KernelMapped mem) (page : Fin 8)
    (free : page ∉ ownPages) (w : WORD) :
    storeWord bus mem (kisar page) w = .ok (putWord mem (kisarByte page) w) ∧
      KernelMapped (putWord mem (kisarByte page) w) := by
  have same := samePages_kisar free mem w
  refine ⟨?_, h.same same⟩
  obtain ⟨high, place⟩ := kisar_bytes page
  rw [← place] at same ⊢
  exact storeWord_io h high (place ▸ .inr (.inl (kisar_inUnit page))) same

theorem storeWord_kisdr (bus : ADDRESS → Bool) (h : KernelMapped mem) (page : Fin 8)
    (free : page ∉ ownPages) (w : WORD) :
    storeWord bus mem (kisdr page) w = .ok (putWord mem (kisdrByte page) w) ∧
      KernelMapped (putWord mem (kisdrByte page) w) := by
  have same := samePages_kisdr free mem w
  refine ⟨?_, h.same same⟩
  obtain ⟨high, place⟩ := kisdr_bytes page
  rw [← place] at same ⊢
  exact storeWord_io h high (place ▸ .inr (.inl (kisdr_inUnit page))) same

theorem loadWord_kisar (h : KernelMapped mem) (page : Fin 8) :
    loadWord bus mem (kisar page) = .ok ((kernelMode mem).kpar page) := by
  have there : Responds bus ((kisar page).toNat + 0o600000) :=
    (kisar_bytes page).2 ▸ .inr (.inl (kisar_inUnit page))
  rw [loadWord_io h (kisar_bytes page).1 there, (kisar_bytes page).2]
  rfl

theorem loadWord_kisdr (h : KernelMapped mem) (page : Fin 8) :
    loadWord bus mem (kisdr page) = .ok ((kernelMode mem).kpdr page) := by
  have there : Responds bus ((kisdr page).toNat + 0o600000) :=
    (kisdr_bytes page).2 ▸ .inr (.inl (kisdr_inUnit page))
  rw [loadWord_io h (kisdr_bytes page).1 there, (kisdr_bytes page).2]
  rfl

theorem readWindows_io (h : KernelMapped mem) : readWindows bus mem = .ok (windowRegs mem) := by
  unfold readWindows
  simp only [loadWord_kisar h, loadWord_kisdr h, ok_bind]
  rfl

theorem openWindows_io (bus : ADDRESS → Bool) (h : KernelMapped mem) (par4 par5 : WORD) :
    openWindows bus mem par4 par5 = .ok (opened mem par4 par5) ∧
      KernelMapped (opened mem par4 par5) := by
  obtain ⟨first, h₁⟩ := storeWord_kisar bus h 4 (by decide) par4
  obtain ⟨second, h₂⟩ := storeWord_kisar bus h₁ 5 (by decide) par5
  obtain ⟨third, h₃⟩ := storeWord_kisdr bus h₂ 4 (by decide) windowPdr
  obtain ⟨fourth, h₄⟩ := storeWord_kisdr bus h₃ 5 (by decide) windowPdr
  have pdr4 : (kernelMode (putWord (putWord (putWord mem (kisarByte 4) par4) (kisarByte 5) par5)
      (kisdrByte 4) windowPdr)).kpdr 4 = windowPdr := by
    simp only [kernelMode_putKisdr, Function.update_self]
  refine ⟨?_, h₄⟩
  unfold openWindows
  simp only [first, second, third, ok_bind, loadWord_kisdr h₃, pdr4]
  exact fourth

/-- Whatever access kernel mode has, what comes back has read and written the registers. -/
theorem readWindows_done {regs : WindowRegs} (h : KernelPages mem)
    (ran : readWindows bus mem = .ok regs) : regs = windowRegs mem := by
  obtain ⟨pdr4, read₁, ran⟩ := bind_ok.mp ran
  obtain ⟨pdr5, read₂, ran⟩ := bind_ok.mp ran
  obtain ⟨par4, read₃, ran⟩ := bind_ok.mp ran
  obtain ⟨par5, read₄, ran⟩ := bind_ok.mp ran
  obtain rfl := loadWord_done h (kisdr_bytes 4).1 read₁
  obtain rfl := loadWord_done h (kisdr_bytes 5).1 read₂
  obtain rfl := loadWord_done h (kisar_bytes 4).1 read₃
  obtain rfl := loadWord_done h (kisar_bytes 5).1 read₄
  exact (Except.ok.inj ran).symm

theorem openWindows_done (h : KernelPages mem) (ran : openWindows bus mem par4 par5 = .ok mem') :
    mem' = opened mem par4 par5 ∧ KernelPages mem' := by
  obtain ⟨_, stored₁, ran⟩ := bind_ok.mp ran
  obtain ⟨-, rfl, h₁⟩ := storeWord_done h (kisar_bytes 4).1 stored₁
  obtain ⟨_, stored₂, ran⟩ := bind_ok.mp ran
  obtain ⟨-, rfl, h₂⟩ := storeWord_done h₁ (kisar_bytes 5).1 stored₂
  obtain ⟨_, stored₃, ran⟩ := bind_ok.mp ran
  obtain ⟨-, rfl, h₃⟩ := storeWord_done h₂ (kisdr_bytes 4).1 stored₃
  obtain ⟨pdr4, read₄, ran⟩ := bind_ok.mp ran
  obtain rfl := loadWord_done h₃ (kisdr_bytes 4).1 read₄
  rw [wordIn_putWord] at ran
  obtain ⟨-, rfl, h₄⟩ := storeWord_done h₃ (kisdr_bytes 5).1 ran
  exact ⟨rfl, h₄⟩

theorem opened_laid (mem : Nat → BYTE) (par4 par5 : WORD) : Laid (opened mem par4 par5) par4 par5 := by
  unfold opened
  constructor <;> simp [kernelMode_putKisar, kernelMode_putKisdr]

theorem opened_other {a : Nat} (out : ¬ WindowByte a) : opened mem par4 par5 a = mem a := by
  unfold WindowByte at out
  unfold opened
  rw [putWord_ne, putWord_ne, putWord_ne, putWord_ne] <;>
    simp only [kisarByte, kisdrByte] <;> simp <;> omega

/-- A pointer that has moved is that of no register of the unit. -/
theorem answers_moved (few : t ≤ 8) :
    Responds bus (kisarByte page + 256 * t) ↔ Answered bus page t := by
  have address : BitVec.ofNat 16 (kisarByte page + 256 * t) = kisar page + 256 * BitVec.ofNat 16 t := by
    have all : ∀ page : Fin 8, ∀ t : Fin 9, BitVec.ofNat 16 (kisarByte page + 256 * t) =
        kisar page + 256 * BitVec.ofNat 16 t := by decide
    exact all page ⟨t, Nat.lt_succ_of_le few⟩
  unfold Responds Answered
  rw [address]
  by_cases still : t = 0
  · subst still
    exact iff_of_true (.inr (.inl (kisar_inUnit page))) (.inl rfl)
  · have high : ¬ kisarByte page + 256 * t < 0o760000 := by unfold kisarByte; omega
    have out : ¬ InUnit (kisarByte page + 256 * t) := by unfold InUnit kisarByte; omega
    simp only [high, out, still, false_or]

theorem samePages_moved (page : Fin 8) (free : page ∉ ownPages) (few : t ≤ 8) (mem : Nat → BYTE) (w : WORD) :
    SamePages mem (putWord mem (kisarByte page + 256 * t) w) := by
  by_cases still : t = 0
  · subst still
    exact samePages_kisar free mem w
  · apply samePages_memory
    intro a inUnit
    have low : a ≠ kisarByte page + 256 * t := by
      unfold InUnit at inUnit
      unfold kisarByte
      omega
    have high : a ≠ kisarByte page + 256 * t + 1 := by
      unfold InUnit at inUnit
      unfold kisarByte
      omega
    exact putWord_ne low high

theorem moved_bytes (page : Fin 8) (few : t ≤ 8) :
    0o160000 ≤ (kisar page + 256 * BitVec.ofNat 16 t).toNat ∧
      (kisar page + 256 * BitVec.ofNat 16 t).toNat + 0o600000 = kisarByte page + 256 * t := by
  have all : ∀ page : Fin 8, ∀ t : Fin 9,
      0o160000 ≤ (kisar page + 256 * BitVec.ofNat 16 t).toNat ∧
        (kisar page + 256 * BitVec.ofNat 16 t).toNat + 0o600000 = kisarByte page + 256 * t := by
    decide
  exact all page ⟨t, Nat.lt_succ_of_le few⟩

/-- A word that is written where a pointer stands. -/
theorem storeWord_moved (h : KernelMapped mem) (free : page ∉ ownPages) (few : t ≤ 8)
    (answered : Answered bus page t) (w : WORD) :
    storeWord bus mem (kisar page + 256 * BitVec.ofNat 16 t) w =
      .ok (putWord mem (kisarByte page + 256 * t) w) ∧
        KernelMapped (putWord mem (kisarByte page + 256 * t) w) := by
  have same := samePages_moved page free few mem w
  refine ⟨?_, h.same same⟩
  obtain ⟨high, place⟩ := moved_bytes page few
  have there := (answers_moved few).mpr answered
  rw [← place] at same there ⊢
  exact storeWord_io h high there same

theorem closeWindows_io (h : KernelMapped mem) {t4 t5 : Nat} (few4 : t4 ≤ 8) (few5 : t5 ≤ 8)
    (answered4 : Answered bus 4 t4) (answered5 : Answered bus 5 t5) (regs : WindowRegs) :
    closeWindows bus mem (kisar 4 + 256 * BitVec.ofNat 16 t4) (kisar 5 + 256 * BitVec.ofNat 16 t5)
      regs = .ok (closed mem regs t4 t5) := by
  obtain ⟨first, h₁⟩ := storeWord_moved h (by decide) few4 answered4 regs.par4
  obtain ⟨second, h₂⟩ := storeWord_moved h₁ (by decide) few5 answered5 regs.par5
  obtain ⟨third, h₃⟩ := storeWord_kisdr bus h₂ 4 (by decide) regs.pdr4
  obtain ⟨fourth, -⟩ := storeWord_kisdr bus h₃ 5 (by decide) regs.pdr5
  unfold closeWindows
  rw [first, ok_bind, second, ok_bind, third, ok_bind, fourth]
  rfl

theorem closeWindows_done (h : KernelPages mem) {t4 t5 : Nat} (few4 : t4 ≤ 8) (few5 : t5 ≤ 8)
    {regs : WindowRegs} (ran : closeWindows bus mem (kisar 4 + 256 * BitVec.ofNat 16 t4)
      (kisar 5 + 256 * BitVec.ofNat 16 t5) regs = .ok mem') :
    (Answered bus 4 t4 ∧ Answered bus 5 t5) ∧ mem' = closed mem regs t4 t5 := by
  obtain ⟨high4, place4⟩ := moved_bytes 4 few4
  obtain ⟨high5, place5⟩ := moved_bytes 5 few5
  obtain ⟨_, stored₁, ran⟩ := bind_ok.mp ran
  obtain ⟨there4, rfl, h₁⟩ := storeWord_done h high4 stored₁
  obtain ⟨_, stored₂, ran⟩ := bind_ok.mp ran
  obtain ⟨there5, rfl, h₂⟩ := storeWord_done h₁ high5 stored₂
  obtain ⟨_, stored₃, ran⟩ := bind_ok.mp ran
  obtain ⟨-, rfl, h₃⟩ := storeWord_done h₂ (kisdr_bytes 4).1 stored₃
  obtain ⟨-, rfl, -⟩ := storeWord_done h₃ (kisdr_bytes 5).1 ran
  rw [place4] at there4
  rw [place5] at there5
  refine ⟨⟨(answers_moved few4).mp there4, (answers_moved few5).mp there5⟩, ?_⟩
  rw [place4, place5]
  rfl

end Registers

/-! ## The service -/

section Transfers
variable {bus : ADDRESS → Bool} {mem mem' : Nat → BYTE}
variable {spar dpar : Fin 8 → WORD} {srcaddr dstaddr size : WORD}

/-- Where the pointers are at the end. -/
theorem pointers {n : Nat} {c : Copying}
    (copied : copyBytes bus n (.start srcaddr dstaddr mem) = .ok c) (count : n = size.toNat) :
    c.src.par = kisar 4 + 256 * BitVec.ofNat 16 (turns srcaddr size) ∧
      c.dst.par = kisar 5 + 256 * BitVec.ofNat 16 (turns dstaddr size) := by
  subst count
  have within (addr : WORD) : (addr &&& 0x1FFF).toNat < 8192 := by
    rw [offset_toNat]
    exact Nat.mod_lt _ (by decide)
  obtain ⟨src, dst, -⟩ := copyBytes_windows copied
  rw [src, dst]
  constructor
  · exact iterate_par (within srcaddr) _ _
  · exact iterate_par (within dstaddr) _ _

/-- A copy that comes back has been made, and its pointers stand where something answers. -/
theorem transfer_done (h : KernelPages mem)
    (ran : transfer bus mem spar dpar srcaddr dstaddr size = .ok mem') :
    ∃ c, copyBytes bus size.toNat (.start srcaddr dstaddr
        (opened mem (spar (pageOf srcaddr)) (dpar (pageOf dstaddr)))) = .ok c ∧
      KernelPages (opened mem (spar (pageOf srcaddr)) (dpar (pageOf dstaddr))) ∧
      (Answered bus 4 (turns srcaddr size) ∧ Answered bus 5 (turns dstaddr size)) ∧
        mem' = closed c.mem (windowRegs mem) (turns srcaddr size) (turns dstaddr size) := by
  obtain ⟨regs, read, ran⟩ := bind_ok.mp ran
  obtain rfl := readWindows_done h read
  obtain ⟨mem₁, opens, ran⟩ := bind_ok.mp ran
  obtain ⟨rfl, h₁⟩ := openWindows_done h opens
  obtain ⟨c, copied, closes⟩ := bind_ok.mp ran
  obtain ⟨src, dst⟩ := pointers copied rfl
  obtain ⟨-, -, same⟩ := copyBytes_windows copied
  rw [src, dst] at closes
  exact ⟨c, copied, h₁, closeWindows_done (h₁.same same) (turns_le _ _) (turns_le _ _) closes⟩

theorem transfer_made {c : Copying} (h : KernelMapped mem)
    (copied : copyBytes bus size.toNat (.start srcaddr dstaddr
      (opened mem (spar (pageOf srcaddr)) (dpar (pageOf dstaddr)))) = .ok c)
    (answered : Answered bus 4 (turns srcaddr size) ∧ Answered bus 5 (turns dstaddr size)) :
    transfer bus mem spar dpar srcaddr dstaddr size =
      .ok (closed c.mem (windowRegs mem) (turns srcaddr size) (turns dstaddr size)) := by
  obtain ⟨opens, h₁⟩ := openWindows_io bus h (spar (pageOf srcaddr)) (dpar (pageOf dstaddr))
  obtain ⟨src, dst⟩ := pointers copied rfl
  obtain ⟨-, -, same⟩ := copyBytes_windows copied
  unfold transfer
  rw [readWindows_io h, ok_bind, opens, ok_bind, copied, ok_bind, src, dst]
  exact closeWindows_io (h₁.same same) (turns_le _ _) (turns_le _ _) answered.1 answered.2 _

end Transfers

namespace Core

section Service
variable {bus : ADDRESS → Bool} {m m' : Core} {dst src : Fin maxTasks}
variable {dstpid srcpid dstaddr srcaddr size : WORD}

/-- The service between two tasks one of which is not named by pid 0. The
interrupt priority is put back in every case. -/
theorem svcXcopy_eq (nonempty : size ≠ 0) (apart : ¬ (dstpid = 0 ∧ srcpid = 0))
    (dstFound : findtcb m.kernel dstpid = some dst) (srcFound : findtcb m.kernel srcpid = some src) :
    svcXcopy bus m dstpid dstaddr srcpid srcaddr size =
      if ¬ mayRead m.kernel src ∨ ¬ mayWrite m.kernel dst then .ok (enopriv, m)
      else do
        let mem ← transfer bus m.mem (m.kernel.tct src).mmuState.upar
          (m.kernel.tct dst).mmuState.upar srcaddr dstaddr size
        return (eok, { kernel := m.kernel, mem := mem }) := by
  have dstFound : findtcb m.kernel.setpl7 dstpid = some dst := dstFound
  have srcFound : findtcb m.kernel.setpl7 srcpid = some src := srcFound
  unfold svcXcopy
  rw [if_neg nonempty, if_neg apart]
  simp only [ok_bind, dstFound, srcFound]
  have read : mayRead m.kernel.setpl7 src ↔ mayRead m.kernel src := Iff.rfl
  have write : mayWrite m.kernel.setpl7 dst ↔ mayWrite m.kernel dst := Iff.rfl
  simp only [read, write]
  by_cases read : mayRead m.kernel src
  · by_cases write : mayWrite m.kernel dst
    · rw [if_neg (not_not.mpr read), if_neg (not_not.mpr write), if_neg (by tauto)]
      rfl
    · rw [if_neg (not_not.mpr read), if_pos write, if_pos (.inr write)]
      rfl
  · rw [if_pos read, if_pos (.inl read)]
    rfl

/-- The answer is the one that creation counts on. -/
theorem svcXcopy_answer {rc : Int} (nonempty : size ≠ 0) (apart : ¬ (dstpid = 0 ∧ srcpid = 0))
    (dstFound : findtcb m.kernel dstpid = some dst) (srcFound : findtcb m.kernel srcpid = some src)
    (called : svcXcopy bus m dstpid dstaddr srcpid srcaddr size = .ok (rc, m')) :
    Muxx.svcXcopy m.kernel dstpid srcpid size.toNat = .ok rc := by
  have some : ¬ size.toNat = 0 := fun none => nonempty (BitVec.eq_of_toNat_eq none)
  rw [svcXcopy_eq nonempty apart dstFound srcFound] at called
  have code : Muxx.svcXcopy m.kernel dstpid srcpid size.toNat =
      if mayRead m.kernel src then if mayWrite m.kernel dst then .ok eok else .ok enopriv
      else .ok enopriv := by
    unfold Muxx.svcXcopy
    rw [if_neg some, srcFound, dstFound]
    rfl
  rw [code]
  by_cases read : mayRead m.kernel src
  · by_cases write : mayWrite m.kernel dst
    · rw [if_neg (by tauto)] at called
      obtain ⟨_, -, ret⟩ := bind_ok.mp called
      cases ret
      rw [if_pos read, if_pos write]
    · rw [if_pos (.inr write)] at called
      cases called
      rw [if_pos read, if_neg write]
  · rw [if_pos (.inl read)] at called
    cases called
    rw [if_neg read]

theorem svcXcopy_eok (nonempty : size ≠ 0) (apart : dstpid ≠ 0 ∨ srcpid ≠ 0)
    (dstFound : findtcb m.kernel dstpid = some dst) (srcFound : findtcb m.kernel srcpid = some src)
    (called : svcXcopy bus m dstpid dstaddr srcpid srcaddr size = .ok (eok, m')) :
    m'.kernel = m.kernel ∧ transfer bus m.mem (m.kernel.tct src).mmuState.upar
      (m.kernel.tct dst).mmuState.upar srcaddr dstaddr size = .ok m'.mem := by
  rw [svcXcopy_eq nonempty (by tauto) dstFound srcFound] at called
  split at called
  · cases called
  obtain ⟨mem, transferred, ret⟩ := bind_ok.mp called
  cases ret
  exact ⟨rfl, transferred⟩

end Service

end Core

end Muxx
