import Muxx.Lib.Fallible
import Muxx.Memory

/-! Sequences of memory requests on the table muxx_mem_init leaves: the chain
of blocks, the physical memory that is handed out, and the requests that are
answered. -/
namespace Muxx

open Chain Fallible

/-- Serve the requests in order. Each call contributes the chunk it hands out,
as it is when the call returns. -/
def serve : List Request → MMCBT → Except Fault (List MMCB × MMCBT)
  | [], t => .ok ([], t)
  | r :: rs, t => do
    let (new, t) ← memGetblock t r.pid r.numBlocks r.flags r.page
    let (blocks, t') ← serve rs t
    return ((new.map t.mmcbt).toList ++ blocks, t')

/-- The blocks handed out are one run of memory, right after what was handed
out before. -/
theorem serve_carved {t t' : MMCBT} {served rs : List Request} {blocks : List MMCB}
    (h : Carved t served) (called : serve rs t = .ok (blocks, t')) :
    Carved t' (served ++ rs) ∧
      ∀ a, (∃ b ∈ blocks, b.Covers a) ↔
        0o700 + total served ≤ a ∧ a < 0o700 + total (served ++ rs) := by
  induction rs generalizing t served blocks with
  | nil =>
    cases called
    exact ⟨by simpa using h, fun a => by simp⟩
  | cons r rs ih =>
    obtain ⟨⟨new, t₁⟩, got, rest⟩ := bind_ok.mp called
    obtain ⟨⟨later, t₂⟩, laterServed, ret⟩ := bind_ok.mp rest
    obtain ⟨rfl, carved⟩ := memGetblock_ok h r got
    cases ret
    obtain ⟨carved', covered⟩ := ih carved laterServed
    rw [List.append_assoc, List.singleton_append] at carved' covered
    refine ⟨carved', fun a => ?_⟩
    have first := carved.granted_covers a
    have split := covered a
    simp only [total_append, total_cons, total_nil] at split ⊢
    simp only [Option.map_some, Option.toList_some, List.singleton_append, List.mem_cons,
      exists_eq_or_imp, first, split]
    omega

/-- Requests that fit into the table and into memory are all served. -/
theorem serve_returns {t : MMCBT} {served : List Request} (rs : List Request) (h : Carved t served)
    (slots : served.length + rs.length ≤ 122) (room : total (served ++ rs) ≤ 0o7100) :
    ∃ blocks t', serve rs t = .ok (blocks, t') := by
  induction rs generalizing t served with
  | nil => exact ⟨[], t, rfl⟩
  | cons r rs ih =>
    rw [List.length_cons] at slots
    rw [total_append, total_cons] at room
    have got := memGetblock_carves h r (by omega) (by omega)
    have carved := h.carve r (by omega) (by omega)
    obtain ⟨blocks, t', called⟩ := ih carved
      (by rw [List.length_append, List.length_singleton]; omega)
      (by simp only [total_append, total_cons, total_nil]; omega)
    exact ⟨_, t', by simp [serve, got, called]; rfl⟩

/-! ## The chain -/

/-- `nextBlock` leads from the first entry through every block in use, once
each, to NULL, and `prevBlock` leads back. -/
def WellLinked (t : MMCBT) : Prop :=
  ∃ l, Chain.Path t.next (some 0) l ∧ l.Nodup ∧ (∀ b, b ∈ l ↔ (t.mmcbt b).ownerPID ≠ -1) ∧
    ∀ b ∈ l, ∀ c, (t.next b = some c → (t.mmcbt c).prevBlock = some b) ∧
      ((t.mmcbt b).prevBlock = some c → t.next c = some b)

theorem memInit_wellLinked : WellLinked memInit := by
  refine ⟨[0, 1, 2, 3, 4, 5], by decide, by decide, ?_, ?_⟩
  · decide +kernel
  · decide +kernel

/-- The chain of blocks is well formed after a sequence of requests exactly
when the sequence is empty. -/
theorem chain_wellLinked_iff (rs : List Request) (blocks : List MMCB) (t : MMCBT)
    (called : serve rs memInit = .ok (blocks, t)) : WellLinked t ↔ rs = [] := by
  constructor
  · rintro ⟨l, path, -, inUse, -⟩
    by_contra served
    obtain ⟨carved, -⟩ := serve_carved carved_init called
    obtain ⟨b, r, -, stays, owner, -⟩ := carved.newest served
    have mem : b ∈ l := (inUse b).mpr (owner ▸ r.pid_assigned)
    exact path.not_self mem stays
  · rintro rfl
    cases called
    exact memInit_wellLinked

/-- The first task asks for one page. -/
def onePage : Request where
  pid := 2
  numBlocks := 128
  flags := 0
  page := 3
  pid_range := by decide
  size_range := by decide

theorem chain_wellLinked_calls :
    WellLinked memInit ∧ ∃ blocks t, serve [onePage] memInit = .ok (blocks, t) ∧ ¬ WellLinked t := by
  refine ⟨(chain_wellLinked_iff [] [] memInit rfl).mpr rfl, ?_⟩
  obtain ⟨blocks, t, called⟩ := serve_returns [onePage] carved_init (by decide) (by decide)
  exact ⟨blocks, t, called, fun sound =>
    List.cons_ne_nil _ _ ((chain_wellLinked_iff [onePage] blocks t called).mp sound)⟩

theorem chain_breaks :
    ∃ blocks t, serve [onePage] memInit = .ok (blocks, t) ∧ ¬ WellLinked t := by
  obtain ⟨blocks, t, called⟩ := serve_returns [onePage] carved_init (by decide) (by decide)
  refine ⟨blocks, t, called, ?_⟩
  rintro ⟨l, path, -, inUse, -⟩
  obtain ⟨b, r, -, stays, owner, -⟩ := (serve_carved carved_init called).1.newest (by decide)
  exact path.not_self ((inUse b).mpr (owner ▸ r.pid_assigned)) stays

/-! ## The memory handed out -/

def Overlap (b c : MMCB) : Prop := ∃ a, b.Covers a ∧ c.Covers a

/-- The chunks muxx_mem_init marks as owned. -/
def InitOwned (i : Fin memNmcbs) : Prop :=
  (memInit.mmcbt i).ownerPID ≠ 0 ∧ (memInit.mmcbt i).ownerPID ≠ -1

instance (i : Fin memNmcbs) : Decidable (InitOwned i) := by
  unfold InitOwned; infer_instance

/-- They are the kernel's memory and the I/O page. -/
theorem initOwned_covers (a : Nat) :
    (∃ i, InitOwned i ∧ (memInit.mmcbt i).Covers a) ↔ a < 0o700 ∨ 0o7600 ≤ a ∧ a < 0o10000 := by
  constructor
  · rintro ⟨i, owned, covers⟩
    have bounds : ∀ i, InitOwned i →
        ((memInit.mmcbt i).blockAddr.toNat + (memInit.mmcbt i).blockSize.toNat ≤ 0o700 ∨
          0o7600 ≤ (memInit.mmcbt i).blockAddr.toNat ∧
          (memInit.mmcbt i).blockAddr.toNat + (memInit.mmcbt i).blockSize.toNat ≤ 0o10000) := by
      decide +kernel
    have := bounds i owned
    unfold MMCB.Covers at covers
    omega
  · intro range
    rcases (by omega : a < 0o200 ∨ (0o200 ≤ a ∧ a < 0o400) ∨ (0o400 ≤ a ∧ a < 0o600) ∨
        (0o600 ≤ a ∧ a < 0o700) ∨ 0o7600 ≤ a ∧ a < 0o10000) with h | h | h | h | h
    · exact ⟨0, by decide, Nat.zero_le a, h⟩
    · exact ⟨1, by decide, h⟩
    · exact ⟨2, by decide, h⟩
    · exact ⟨3, by decide, h⟩
    · exact ⟨5, by decide, h⟩

/-- What a sequence of requests hands out stays clear of the memory that was
owned from the start exactly when it asks for at most 06700 blocks in all. -/
theorem handedOut_clear_iff (rs : List Request) (blocks : List MMCB) (t : MMCBT)
    (called : serve rs memInit = .ok (blocks, t)) :
    (∀ b ∈ blocks, ∀ i, InitOwned i → ¬ Overlap b (memInit.mmcbt i)) ↔ total rs ≤ 0o6700 := by
  obtain ⟨carved, covered⟩ := serve_carved carved_init called
  rw [List.nil_append] at carved covered
  have room := carved.room
  constructor
  · intro clear
    by_contra large
    obtain ⟨b, mem, covers⟩ := (covered 0o7600).mpr ⟨by simp, by omega⟩
    obtain ⟨i, owned, both⟩ := (initOwned_covers 0o7600).mpr (by simp)
    exact clear b mem i owned ⟨_, covers, both⟩
  · rintro small b mem i owned ⟨a, covers, both⟩
    have range := (covered a).mp ⟨b, mem, covers⟩
    have kept := (initOwned_covers a).mp ⟨i, owned, both⟩
    rw [total_nil] at range
    omega

theorem handedOut_clear_onePage :
    ∃ blocks t, serve [onePage] memInit = .ok (blocks, t) ∧
      ((∀ b ∈ blocks, ∀ i, InitOwned i → ¬ Overlap b (memInit.mmcbt i)) ↔
        total [onePage] ≤ 0o6700) := by
  obtain ⟨blocks, t, called⟩ := serve_returns [onePage] carved_init (by decide) (by decide)
  exact ⟨blocks, t, called, handedOut_clear_iff [onePage] blocks t called⟩

/-- The last of 28 pages lies on the I/O page. -/
theorem handedOut_meets_ioPage :
    ∃ blocks t, serve (List.replicate 28 onePage) memInit = .ok (blocks, t) ∧
      ¬ ∀ b ∈ blocks, ∀ i, InitOwned i → ¬ Overlap b (memInit.mmcbt i) := by
  obtain ⟨blocks, t, called⟩ :=
    serve_returns (List.replicate 28 onePage) carved_init (by decide) (by decide)
  refine ⟨blocks, t, called, fun clear => ?_⟩
  obtain ⟨b, mem, covers⟩ := ((serve_carved carved_init called).2 0o7600).mpr (by decide)
  obtain ⟨i, owned, both⟩ := (initOwned_covers 0o7600).mpr (by simp)
  exact clear b mem i owned ⟨_, covers, both⟩

/-! ## Requests that cannot be met -/

/-- The request comes back, with memory if there is an unowned block that is large
enough and else with nothing. -/
def WellAnswered (t : MMCBT) (r : Request) : Prop :=
  ∃ p t', memGetblock t r.pid r.numBlocks r.flags r.page = .ok (p, t') ∧
    if ∃ i, offers t r.numBlocks i = true then
      ∃ cur new, p = some new ∧ Cut t cur new r.pid r.numBlocks r.flags r.page t'
    else p = none ∧ t' = t

/-- Only the free block is unowned. -/
theorem Carved.offers_iff {t : MMCBT} {rs : List Request} (h : Carved t rs) (numBlocks : WORD) :
    (∃ i, offers t numBlocks i = true) ↔ total rs + numBlocks.toNat ≤ 0o7100 := by
  constructor
  · rintro ⟨i, offered⟩
    by_contra full
    have unowned : (t.mmcbt i).ownerPID = 0 := by
      simp only [offers, Bool.and_eq_true, beq_iff_eq] at offered
      exact offered.1
    have free : i = 4 := by
      by_contra other
      have owned : (t.mmcbt i).ownerPID ≠ 0 := by
        by_cases low : i.val < 4
        · rw [h.kernel_owner low]
          decide
        by_cases five : i.val = 5
        · rw [show i = 5 from Fin.ext five, ← MMCB.core_ownerPID, h.iopage]
          decide
        have high : 6 ≤ i.val := by
          have : i.val ≠ 4 := fun same => other (Fin.ext same)
          omega
        by_cases served : i.val < 6 + rs.length
        · rw [← MMCB.core_ownerPID, h.granted (i.val - 6) (by omega) i (by omega)]
          exact Request.pid_ne_zero _
        · rw [h.unused i (Nat.le_of_not_lt served)]
          decide
      exact owned unowned
    rw [free, offers, Bool.and_eq_true, decide_eq_true_eq, h.fits] at offered
    exact full offered.2
  · intro fits
    refine ⟨4, ?_⟩
    rw [offers, h.free_owner, decide_eq_true ((h.fits numBlocks).mpr fits)]
    rfl

/-- A request for which there is an unused entry is answered as it should be exactly
when an unowned block is large enough for it. -/
theorem getblock_answered_iff (rs : List Request) (blocks : List MMCB) (t : MMCBT)
    (called : serve rs memInit = .ok (blocks, t)) (r : Request)
    (unused : ∃ i, (t.mmcbt i).ownerPID = -1) :
    WellAnswered t r ↔ ∃ i, offers t r.numBlocks i = true := by
  have carved : Carved t rs := (serve_carved carved_init called).1
  have more : rs.length < 122 := by
    obtain ⟨i, free⟩ := unused
    by_contra full
    have within : i.val < 6 + rs.length := by
      have bound : i.val < 128 := i.isLt
      omega
    exact carved.taken within free
  constructor
  · rintro ⟨p, t', answer, -⟩
    rw [carved.offers_iff]
    by_contra full
    rw [memGetblock_loops carved r (Nat.lt_of_not_le full)] at answer
    cases answer
  · intro offered
    have answer := memGetblock_carves carved r more ((carved.offers_iff _).mp offered)
    obtain ⟨cur, cut⟩ := memGetblock_cut answer
    refine ⟨_, _, answer, ?_⟩
    rw [if_pos offered]
    exact ⟨cur, _, rfl, cut⟩

theorem getblock_answered_first :
    (WellAnswered memInit onePage ↔ ∃ i, offers memInit onePage.numBlocks i = true) ∧
      ∃ i, offers memInit onePage.numBlocks i = true :=
  ⟨getblock_answered_iff [] [] memInit rfl onePage ⟨6, rfl⟩, by decide +kernel⟩

/-- After 28 pages, a request for another one stays in the loop over the chain. -/
theorem getblock_never_returns :
    ∃ blocks t, serve (List.replicate 28 onePage) memInit = .ok (blocks, t) ∧
      (∃ i, (t.mmcbt i).ownerPID = -1) ∧ ¬ WellAnswered t onePage ∧
      ∀ fuel, walk (offers t onePage.numBlocks) t.next fuel (some 0) = none := by
  obtain ⟨blocks, t, called⟩ :=
    serve_returns (List.replicate 28 onePage) carved_init (by decide) (by decide)
  have carved := (serve_carved carved_init called).1
  have loops : scanBlocks t onePage.numBlocks = none := carved.scan_loops (by decide) (by decide)
  refine ⟨blocks, t, called, ⟨slot 28, carved.unused _ (by decide)⟩, ?_, scanBlocks_hang loops⟩
  rintro ⟨p, t', answer, -⟩
  rw [memGetblock_loops carved onePage (by decide)] at answer
  cases answer

end Muxx
