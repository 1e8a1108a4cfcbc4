import Muxx.Types

/-! The memory management unit: the physical blocks of 64 bytes that a page
address register and a page descriptor register let a program reach. The
layout of a descriptor is that of CONFIG.s. Physical memory has 4096 blocks. -/
namespace Muxx

/-- Access control field. -/
def acf (pdr : WORD) : WORD := pdr &&& 7

/-- Expansion direction. -/
def downward (pdr : WORD) : Bool := pdr.getLsbD 3

/-- Page length field. -/
def plf (pdr : WORD) : Nat := (pdr >>> 8 &&& (0x7f : WORD)).toNat

/-- The values of the access field that allow reading. -/
def readable (pdr : WORD) : Bool :=
  acf pdr == 1 || acf pdr == 2 || acf pdr == 4 || acf pdr == 5 || acf pdr == 6

/-- The values of the access field that allow writing. -/
def writable (pdr : WORD) : Bool := acf pdr == 4 || acf pdr == 5 || acf pdr == 6

/-- Block number `bn` lies within the length of the page. -/
def InPage (pdr : WORD) (bn : Nat) : Prop :=
  if downward pdr then plf pdr ≤ bn ∧ bn ≤ 127 else bn ≤ plf pdr

/-- The page is laid over physical block `a`, whatever its access field. -/
def Spans (par pdr : WORD) (a : Nat) : Prop :=
  ∃ bn, InPage pdr bn ∧ a = (par.toNat + bn) % 4096

def Reads (par pdr : WORD) (a : Nat) : Prop := readable pdr = true ∧ Spans par pdr a

def Writes (par pdr : WORD) (a : Nat) : Prop := writable pdr = true ∧ Spans par pdr a

instance (pdr : WORD) (bn : Nat) : Decidable (InPage pdr bn) := by
  unfold InPage; infer_instance

section Span
variable {par pdr : WORD} {lo a : Nat}

/-- An upward page reaches `plf + 1` blocks from its address. -/
theorem Spans.upward (h : Spans par pdr a) (up : downward pdr = false)
    (fits : par.toNat + plf pdr < 4096) : par.toNat ≤ a ∧ a ≤ par.toNat + plf pdr := by
  obtain ⟨bn, inPage, rfl⟩ := h
  rw [InPage, up] at inPage
  have inPage : bn ≤ plf pdr := inPage
  rw [Nat.mod_eq_of_lt (by omega)]
  omega

/-- A downward page reaches the last `128 - plf` of its 128 blocks. -/
theorem Spans.downward (h : Spans par pdr a) (down : downward pdr = true)
    (fits : par.toNat + 127 < 4096) : par.toNat + plf pdr ≤ a ∧ a ≤ par.toNat + 127 := by
  obtain ⟨bn, inPage, rfl⟩ := h
  rw [InPage, if_pos down] at inPage
  rw [Nat.mod_eq_of_lt (by omega)]
  omega

/-- The span of a page does not depend on its access field. -/
theorem spans_access {pdr pdr' : WORD} (same : pdr' &&& 0xfff8 = pdr &&& 0xfff8) :
    Spans par pdr' a ↔ Spans par pdr a := by
  have bit (i : Nat) (low : 3 ≤ i) (high : i < 16) : pdr'.getLsbD i = pdr.getLsbD i := by
    have mask : (0xfff8 : WORD).getLsbD i = true :=
      (by decide : ∀ i : Fin 16, 3 ≤ i.val → (0xfff8 : WORD).getLsbD i.val = true) ⟨i, high⟩ low
    have := congrArg (fun w : WORD => w.getLsbD i) same
    simpa only [BitVec.getLsbD_and, mask, Bool.and_true] using this
  have len : pdr' >>> 8 &&& (0x7f : WORD) = pdr >>> 8 &&& (0x7f : WORD) := by
    refine BitVec.eq_of_getLsbD_eq fun i hi => ?_
    rw [BitVec.getLsbD_and, BitVec.getLsbD_and, BitVec.getLsbD_ushiftRight,
      BitVec.getLsbD_ushiftRight]
    congr 1
    by_cases h : 8 + i < 16
    · exact bit (8 + i) (by omega) h
    · rw [BitVec.getLsbD_of_ge _ _ (by omega), BitVec.getLsbD_of_ge _ _ (by omega)]
  have dir : Muxx.downward pdr' = Muxx.downward pdr := bit 3 (by omega) (by omega)
  simp only [Spans, InPage, dir, plf, len]

end Span

/-! ## Virtual addresses -/

def pageOf (addr : ADDRESS) : Fin 8 := Fin.ofNat 8 (addr.toNat / 8192)

/-- The block of its page that an address lies in. -/
def blockOf (addr : ADDRESS) : Nat := addr.toNat % 8192 / 64

/-- The byte of physical memory that a page with address register `par` puts at
an address. -/
def physical (par : WORD) (addr : ADDRESS) : Nat :=
  (par.toNat + blockOf addr) % 4096 * 64 + addr.toNat % 64

section Address
variable {par : WORD} {addr addr' : ADDRESS}

theorem physical_congr (same : addr.toNat % 8192 = addr'.toNat % 8192) :
    physical par addr = physical par addr' := by
  unfold physical blockOf
  omega

theorem pageOf_congr (same : addr.toNat / 8192 = addr'.toNat / 8192) :
    pageOf addr = pageOf addr' := by
  unfold pageOf
  rw [same]

/-- A page of 8 KB has all its blocks. -/
theorem inPage_whole (addr : ADDRESS) : InPage (pdrAccRw ||| pdrSiz8k ||| pdrDirUp) (blockOf addr) := by
  have last : blockOf addr ≤ 127 := by unfold blockOf; omega
  exact last

end Address

/-- MMU_KISAR0 to MMU_KISAR7. -/
def kisar (i : Fin 8) : ADDRESS := 0o172340 + 2 * BitVec.ofNat 16 i

/-- MMU_KISDR0 to MMU_KISDR7. -/
def kisdr (i : Fin 8) : ADDRESS := 0o172300 + 2 * BitVec.ofNat 16 i

end Muxx
