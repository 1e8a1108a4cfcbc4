import Muxx.TaskMemory

/-!
# What a setup maps

muxx_setup_taskmem on any memory table, from the side of the page registers and
from that of the table:

* `SparesPage`: the pages that a part does not touch;
* `MappedTo`: the blocks handed out so far are mapped by the pages they are
  recorded for;
* `taskmem_mapped_iff`: all blocks of a task are, unless it is a driver task.
-/

namespace Muxx

open Fallible

variable {n : Nat}

/-! ## Parts -/

/-- The registers of a page in user and in kernel mode. -/
def MMUSTATE.page (m : MMUSTATE) (p : Fin 8) : (WORD × WORD) × WORD × WORD :=
  ((m.upar p, m.updr p), m.kpar p, m.kpdr p)

/-- The part leaves a page alone. -/
def SparesPage (f : Setup n) (p : Fin 8) : Prop :=
  ∀ ⦃task t rc task' t'⦄, f task t = .ok (rc, task', t') →
    task'.mmuState.page p = task.mmuState.page p

/-- Nothing else about the task has changed. -/
def SameTask (task task' : TCB n) : Prop :=
  task' = { task with mmuState := task'.mmuState, taskTUCB := task'.taskTUCB }

def Setup.SparesTask (f : Setup n) : Prop :=
  ∀ ⦃task t rc task' t'⦄, f task t = .ok (rc, task', t') → SameTask task task'

section Parts
variable {f g : Setup n} {task task' task'' : TCB n} {t t' : MMCBT} {page p : Fin 8} {rc : Int}
variable {numBlocks flags ownerPAR pdr : WORD} {base : WORD → WORD}

theorem SameTask.refl (task : TCB n) : SameTask task task := rfl

theorem SameTask.trans (h : SameTask task task') (h' : SameTask task' task'') :
    SameTask task task'' := by
  rw [SameTask, h', h]

theorem SameTask.pid (h : SameTask task task') : task'.pid = task.pid := by rw [h]

theorem SameTask.taskType (h : SameTask task task') : task'.taskType = task.taskType := by rw [h]

theorem SameTask.clockTicks (h : SameTask task task') : task'.clockTicks = task.clockTicks := by
  rw [h]

theorem SameTask.privileges (h : SameTask task task') : task'.privileges = task.privileges := by
  rw [h]

theorem Setup.SparesTask.andThen (hf : f.SparesTask) (hg : g.SparesTask) :
    (f.andThen g).SparesTask := by
  intro task t rc task' t' called
  obtain ⟨⟨rc₁, task₁, t₁⟩, first, rest⟩ := bind_ok.mp called
  dsimp only at rest
  split at rest
  · cases rest
    exact hf first
  · exact (hf first).trans (hg rest)

theorem Setup.SparesTask.when {c : TCB n → Prop} [DecidablePred c] (hf : f.SparesTask) :
    Setup.SparesTask fun task t => if c task then f task t else .ok (eok, task, t) := by
  intro task t rc task' t' called
  dsimp only at called
  split at called
  · exact hf called
  · cases called
    exact .refl task

theorem mapPage_sparesTask :
    (mapPage page numBlocks flags ownerPAR base pdr : Setup n).SparesTask := by
  intro task t rc task' t' called
  obtain ⟨⟨mcb, t₁⟩, -, rest⟩ := bind_ok.mp called
  cases mcb with
  | none =>
    cases rest
    exact .refl task
  | some b =>
    cases rest
    rfl

/-- Whether or not it succeeds, a setup touches nothing but the memory. -/
theorem setupTaskmem_sparesTask : (setupTaskmem : Setup n).SparesTask := by
  have kernel : (kernelPages : Setup n).SparesTask := by
    intro task t rc task' t' called
    cases called
    rfl
  have tucb : (placeTUCB : Setup n).SparesTask := by
    intro task t rc task' t' called
    cases called
    rfl
  have io : (ioPage : Setup n).SparesTask := by
    intro task t rc task' t' called
    cases called
    rfl
  have medium : (mediumPage : Setup n).SparesTask := mapPage_sparesTask.when
  have big : (bigPage : Setup n).SparesTask := mapPage_sparesTask.when
  have buffer : (bufferPage : Setup n).SparesTask := mapPage_sparesTask.when
  intro task t rc task' t' called
  unfold setupTaskmem at called
  split at called
  · cases called
    exact .refl task
  · exact (kernel.andThen <| mapPage_sparesTask.andThen <| medium.andThen <| big.andThen <|
      tucb.andThen <| mapPage_sparesTask.andThen <| io.andThen buffer) called

theorem Setup.andThen_ok (called : f.andThen g task t = .ok (eok, task', t')) :
    ∃ task₁ t₁, f task t = .ok (eok, task₁, t₁) ∧ g task₁ t₁ = .ok (eok, task', t') := by
  obtain ⟨⟨rc, task₁, t₁⟩, first, rest⟩ := bind_ok.mp called
  dsimp only at rest
  split at rest
  next failed =>
    cases rest
    exact absurd rfl failed
  next ok =>
    obtain rfl : rc = eok := not_not.mp ok
    exact ⟨task₁, t₁, first, rest⟩

theorem page_setBoth_ne (m : MMUSTATE) (other : p ≠ page) (par pdr : WORD) :
    ((m.setUser page par pdr).setKernel page par pdr).page p = m.page p := by
  simp [MMUSTATE.page, MMUSTATE.setUser, MMUSTATE.setKernel, other]

theorem page_setBoth (m : MMUSTATE) (page : Fin 8) (par pdr : WORD) :
    ((m.setUser page par pdr).setKernel page par pdr).page page = ((par, pdr), par, pdr) := by
  simp [MMUSTATE.page, MMUSTATE.setUser, MMUSTATE.setKernel]

theorem SparesPage.when {c : TCB n → Prop} [DecidablePred c] (hf : SparesPage f p) :
    SparesPage (fun task t => if c task then f task t else .ok (eok, task, t)) p := by
  intro task t rc task' t' called
  dsimp only at called
  split at called
  · exact hf called
  · cases called
    rfl

theorem mapPage_spares (other : p ≠ page) :
    SparesPage (mapPage page numBlocks flags ownerPAR base pdr : Setup n) p := by
  intro task t rc task' t' called
  obtain ⟨⟨mcb, t₁⟩, -, rest⟩ := bind_ok.mp called
  cases mcb with
  | none =>
    cases rest
    rfl
  | some b =>
    cases rest
    exact page_setBoth_ne _ other _ _

theorem mediumPage_spares (other : p ≠ 4) : SparesPage (mediumPage : Setup n) p :=
  (mapPage_spares other).when

theorem bigPage_spares (other : p ≠ 5) : SparesPage (bigPage : Setup n) p :=
  (mapPage_spares other).when

theorem placeTUCB_spares : SparesPage (placeTUCB : Setup n) p := by
  intro task t rc task' t' called
  cases called
  rfl

theorem ioPage_spares (other : p ≠ 7) : SparesPage (ioPage : Setup n) p := by
  intro task t rc task' t' called
  cases called
  dsimp only
  split_ifs <;> simp [MMUSTATE.page, MMUSTATE.setUser, MMUSTATE.setKernel, other]

theorem bufferPage_spares (other : p ≠ 4) : SparesPage (bufferPage : Setup n) p :=
  (mapPage_spares other).when

/-- A page that has been mapped is laid over a block cut from the table. -/
theorem mapPage_ok
    (called : mapPage page numBlocks flags ownerPAR base pdr task t = .ok (eok, task', t')) :
    ∃ cur b, Cut t cur b task.pid numBlocks flags ownerPAR t' ∧ SameTask task task' ∧
      task'.taskTUCB = task.taskTUCB ∧ task'.mmuState.page page =
        ((base (t'.mmcbt b).blockAddr, pdr), base (t'.mmcbt b).blockAddr, pdr) := by
  obtain ⟨⟨mcb, t₁⟩, got, rest⟩ := bind_ok.mp called
  cases mcb with
  | none => cases rest
  | some b =>
    cases rest
    obtain ⟨cur, cut⟩ := memGetblock_cut got
    exact ⟨cur, b, cut, rfl, rfl, page_setBoth ..⟩

/-- The states that a successful setup goes through. -/
theorem setupTaskmem_stages (called : setupTaskmem task t = .ok (eok, task', t')) :
    checkType task = eok ∧ ∃ task₁ task₂ t₂ task₃ t₃ task₄ t₄ task₅ task₆ t₆ task₇,
      kernelPages task t = .ok (eok, task₁, t) ∧
      codePage 3 3 task₁ t = .ok (eok, task₂, t₂) ∧
      mediumPage task₂ t₂ = .ok (eok, task₃, t₃) ∧
      bigPage task₃ t₃ = .ok (eok, task₄, t₄) ∧
      placeTUCB task₄ t₄ = .ok (eok, task₅, t₄) ∧
      stackPage task₅ t₄ = .ok (eok, task₆, t₆) ∧
      ioPage task₆ t₆ = .ok (eok, task₇, t₆) ∧
      bufferPage task₇ t₆ = .ok (eok, task', t') := by
  unfold setupTaskmem at called
  split at called
  next invalid =>
    exact absurd (Prod.mk.inj (Except.ok.inj called)).1 invalid
  next valid =>
    obtain ⟨task₁, t₁, kernel, called⟩ := Setup.andThen_ok called
    obtain ⟨task₂, t₂, first, called⟩ := Setup.andThen_ok called
    obtain ⟨task₃, t₃, medium, called⟩ := Setup.andThen_ok called
    obtain ⟨task₄, t₄, big, called⟩ := Setup.andThen_ok called
    obtain ⟨task₅, t₅, tucb, called⟩ := Setup.andThen_ok called
    obtain ⟨task₆, t₆, stack, called⟩ := Setup.andThen_ok called
    obtain ⟨task₇, t₇, io, buffer⟩ := Setup.andThen_ok called
    cases kernel
    cases tucb
    cases io
    exact ⟨not_not.mp valid, _, task₂, t₂, task₃, t₃, task₄, t₄, _, task₆, t₆, _, rfl, first, medium,
      big, rfl, stack, rfl, buffer⟩

end Parts

/-! ## Blocks and pages -/

/-- The block is one that was unused in `t₀`. -/
def Allocated (t₀ t : MMCBT) (b : Fin memNmcbs) : Prop :=
  (t₀.mmcbt b).ownerPID = -1 ∧ (t.mmcbt b).ownerPID ≠ -1

/-- The page can be read and is laid over nothing outside of the chunk. -/
def Inside (b : MMCB) (par pdr : WORD) : Prop :=
  readable pdr = true ∧
    ∀ a, Spans par pdr a → ∃ j < b.blockSize.toNat, a = (b.blockAddr.toNat + j) % 4096

/-- The address register of a page that maps the chunk. -/
def MMCB.par (b : MMCB) : WORD :=
  if b.mmcbFlags = mmcbFlgStk then b.blockAddr - 0o100 else b.blockAddr

/-- The page that the chunk is recorded for maps it. -/
def Maps (m : MMUSTATE) (b : MMCB) : Prop :=
  ∃ p : Fin 8, b.ownerPAR.toNat = p.val ∧ m.upar p = b.par ∧ m.kpar p = b.par ∧
    Inside b b.par (m.updr p) ∧ Inside b b.par (m.kpdr p)

/-- The page is one of 8 KB that can be written, over a block of its own. -/
def CodeMapped (t₀ t : MMCBT) (m : MMUSTATE) (p : Fin 8) : Prop :=
  ∃ b, Allocated t₀ t b ∧ (t.mmcbt b).ownerPAR.toNat = p.val ∧ (t.mmcbt b).blockSize = 0o200 ∧
    m.page p = (((t.mmcbt b).blockAddr, pdrAccRw ||| pdrSiz8k), (t.mmcbt b).blockAddr,
      pdrAccRw ||| pdrSiz8k)

/-- The blocks handed out since `t₀` are mapped by pages before `next`, and pages
3 up to `code` are code pages. -/
structure MappedTo (t₀ : MMCBT) (pid : WORD) (code next : Nat) (task : TCB n) (t : MMCBT) :
    Prop where
  owner : task.pid = pid
  unused : ∀ b, (t.mmcbt b).ownerPID = -1 → (t₀.mmcbt b).ownerPID = -1
  blocks : ∀ b, Allocated t₀ t b → (t.mmcbt b).ownerPID = pid ∧
    (t.mmcbt b).ownerPAR.toNat < next ∧ Maps task.mmuState (t.mmcbt b)
  pages : ∀ p : Fin 8, 3 ≤ p.val → p.val < code → CodeMapped t₀ t task.mmuState p

section Blocks
variable {t₀ t t' : MMCBT} {m m' : MMUSTATE} {b b' : MMCB} {p page : Fin 8} {code next : Nat}
variable {task task' : TCB n} {pid numBlocks flags ownerPAR pdr : WORD} {base : WORD → WORD}
variable {cur new : Fin memNmcbs}

/-- What a scan reads of a block, and what is recorded of it. -/
theorem core_fields (core : b'.core = b.core) : b'.blockAddr = b.blockAddr ∧
    b'.blockSize = b.blockSize ∧ b'.ownerPID = b.ownerPID ∧ b'.ownerPAR = b.ownerPAR ∧
      b'.mmcbFlags = b.mmcbFlags := by
  obtain ⟨addr, size, owner, recorded, -, -, flags⟩ := MMCB.mk.inj core
  exact ⟨addr, size, owner, recorded, flags⟩

theorem Maps.congr (h : Maps m b) (core : b'.core = b.core)
    (same : ∀ p : Fin 8, b.ownerPAR.toNat = p.val → m'.page p = m.page p) : Maps m' b' := by
  obtain ⟨p, recorded, upar, kpar, user, kernel⟩ := h
  have page := same p recorded
  simp only [MMUSTATE.page, Prod.mk.injEq] at page
  obtain ⟨⟨upar', updr'⟩, kpar', kpdr'⟩ := page
  obtain ⟨addr, size, -, recorded', flags⟩ := core_fields core
  have par : b'.par = b.par := by rw [MMCB.par, addr, flags, MMCB.par]
  have inside (pdr : WORD) (h : Inside b b.par pdr) : Inside b' b'.par pdr := by
    rw [Inside, par, addr, size]
    exact h
  refine ⟨p, by rw [recorded', recorded], ?_, ?_, ?_, ?_⟩
  · rw [upar', upar, par]
  · rw [kpar', kpar, par]
  · rw [updr']
    exact inside _ user
  · rw [kpdr']
    exact inside _ kernel

theorem CodeMapped.congr (h : CodeMapped t₀ t m p) (same : m'.page p = m.page p)
    (kept : ∀ b, Allocated t₀ t b → Allocated t₀ t' b ∧ (t'.mmcbt b).core = (t.mmcbt b).core) :
    CodeMapped t₀ t' m' p := by
  obtain ⟨b, allocated, recorded, size, mapped⟩ := h
  obtain ⟨allocated', core⟩ := kept b allocated
  obtain ⟨addr, size', -, recorded', -⟩ := core_fields core
  refine ⟨b, allocated', ?_, ?_, ?_⟩
  · rw [recorded', recorded]
  · rw [size', size]
  · rw [same, addr, mapped]

/-- Another block is handed out: the earlier ones stay as they are. -/
theorem MappedTo.earlier (h : MappedTo t₀ pid code next task t) (nonzero : pid ≠ 0)
    (cut : Cut t cur new pid numBlocks flags ownerPAR t') :
    (∀ b, b ≠ new → Allocated t₀ t' b → Allocated t₀ t b) ∧
      ∀ b, Allocated t₀ t b → Allocated t₀ t' b ∧ (t'.mmcbt b).core = (t.mmcbt b).core := by
  have owner : (t'.mmcbt cur).ownerPID = 0 := by
    rw [← MMCB.core_ownerPID, cut.rest, MMCB.core_ownerPID, cut.unowned]
  constructor
  · rintro b other ⟨before, after⟩
    refine ⟨before, ?_⟩
    by_cases same : b = cur
    · rw [same, cut.unowned]
      decide
    · rwa [← MMCB.core_ownerPID, ← cut.other b other same]
  · rintro b ⟨before, after⟩
    have own := (h.blocks b ⟨before, after⟩).1
    have apart : b ≠ new := by
      rintro rfl
      exact after cut.unused
    have other : b ≠ cur := by
      rintro rfl
      exact nonzero (own.symm.trans cut.unowned)
    have core := cut.other b apart other
    refine ⟨⟨before, ?_⟩, core⟩
    rwa [← MMCB.core_ownerPID, core]

/-- The block that is handed out. -/
theorem MappedTo.allocated (h : MappedTo t₀ pid code next task t) (assigned : pid ≠ -1)
    (cut : Cut t cur new pid numBlocks flags ownerPAR t') : Allocated t₀ t' new := by
  refine ⟨h.unused new cut.unused, ?_⟩
  rw [← MMCB.core_ownerPID, cut.block]
  exact assigned

/-- The next page is mapped. -/
theorem MappedTo.mapPage (h : MappedTo t₀ pid code next task t) (nonzero : pid ≠ 0)
    (assigned : pid ≠ -1) (after : next ≤ page.val) (own : ownerPAR.toNat = page.val)
    (begun : code ≤ next)
    (par : ∀ addr, base addr = if flags = mmcbFlgStk then addr - 0o100 else addr)
    (inside : ∀ b : MMCB, b.blockSize = numBlocks → Inside b (base b.blockAddr) pdr)
    (called : mapPage page numBlocks flags ownerPAR base pdr task t = .ok (eok, task', t')) :
    MappedTo t₀ pid code (page.val + 1) task' t' ∧
      ∃ b, Allocated t₀ t' b ∧ (t'.mmcbt b).ownerPAR = ownerPAR ∧
        (t'.mmcbt b).blockSize = numBlocks ∧ task'.mmuState.page page =
          ((base (t'.mmcbt b).blockAddr, pdr), base (t'.mmcbt b).blockAddr, pdr) := by
  obtain ⟨cur, new, cut, same, -, mapped⟩ := mapPage_ok called
  rw [h.owner] at cut
  obtain ⟨before, kept⟩ := h.earlier nonzero cut
  have spares (p : Fin 8) (other : p ≠ page) : task'.mmuState.page p = task.mmuState.page p :=
    mapPage_spares other called
  have block := cut.block
  have size : (t'.mmcbt new).blockSize = numBlocks := congrArg MMCB.blockSize block
  have recorded : (t'.mmcbt new).ownerPAR = ownerPAR := congrArg MMCB.ownerPAR block
  refine ⟨⟨same.pid.trans h.owner, ?_, ?_, ?_⟩, new, h.allocated assigned cut, recorded, size, mapped⟩
  · intro b unused
    by_cases hn : b = new
    · rw [hn, ← MMCB.core_ownerPID, block] at unused
      exact absurd unused assigned
    · by_cases hc : b = cur
      · rw [hc, ← MMCB.core_ownerPID, cut.rest, MMCB.core_ownerPID, cut.unowned] at unused
        exact absurd unused (by decide)
      · rw [← MMCB.core_ownerPID, cut.other b hn hc] at unused
        exact h.unused b unused
  · intro b allocated
    by_cases hn : b = new
    · subst hn
      have flag : (t'.mmcbt b).mmcbFlags = flags := congrArg MMCB.mmcbFlags block
      have base_par : base (t'.mmcbt b).blockAddr = (t'.mmcbt b).par := by
        rw [par, MMCB.par, flag]
      have fits := inside _ size
      rw [base_par] at fits mapped
      simp only [MMUSTATE.page, Prod.mk.injEq] at mapped
      obtain ⟨⟨upar, updr⟩, kpar, kpdr⟩ := mapped
      refine ⟨congrArg MMCB.ownerPID block, by rw [recorded, own]; exact Nat.lt_succ_self _,
        page, by rw [recorded, own], upar, kpar, ?_, ?_⟩
      · rw [updr]
        exact fits
      · rw [kpdr]
        exact fits
    · have old := before b hn allocated
      obtain ⟨owner, early, maps⟩ := h.blocks b old
      have core := (kept b old).2
      obtain ⟨-, -, owner', recorded', -⟩ := core_fields core
      refine ⟨owner'.trans owner, ?_, maps.congr core ?_⟩
      · rw [recorded']
        omega
      · intro p at_p
        exact spares p (by rintro rfl; omega)
  · intro p low high
    exact (h.pages p low high).congr (spares p (by rintro rfl; omega)) kept

theorem inside_code {b : MMCB} (size : b.blockSize = 0o200) :
    Inside b b.blockAddr (pdrAccRw ||| pdrSiz8k) := by
  refine ⟨by decide, ?_⟩
  rintro a ⟨bn, within, rfl⟩
  have last : bn ≤ 127 := within
  refine ⟨bn, ?_, rfl⟩
  rw [size]
  exact Nat.lt_succ_of_le last

theorem inside_stack {b : MMCB} (size : b.blockSize = 0o100) :
    Inside b (b.blockAddr - 0o100) (pdrAccRw ||| pdrSiz4k ||| pdrDirDn) := by
  refine ⟨by decide, ?_⟩
  rintro a ⟨bn, within, rfl⟩
  obtain ⟨low, high⟩ : 64 ≤ bn ∧ bn ≤ 127 := within
  refine ⟨bn - 64, ?_, ?_⟩
  · rw [size]
    exact (by omega : bn - 64 < 64)
  · have base : (b.blockAddr - 0o100).toNat = (65536 - 64 + b.blockAddr.toNat) % 65536 :=
      BitVec.toNat_sub ..
    omega

/-- The pages of a task for its program, from page 3 on. -/
def codePages (type : WORD) : Nat :=
  if type &&& 0o70 = tszBig then 3 else if type &&& 0o70 = tszMed then 2 else 1

theorem MappedTo.weaken {next' : Nat} (h : MappedTo t₀ pid code next task t) (le : next ≤ next') :
    MappedTo t₀ pid code next' task t := by
  refine ⟨h.owner, h.unused, ?_, h.pages⟩
  intro b allocated
  obtain ⟨owner, early, maps⟩ := h.blocks b allocated
  exact ⟨owner, Nat.lt_of_lt_of_le early le, maps⟩

/-- A part that hands out nothing and spares the pages before `next`. -/
theorem MappedTo.spared (h : MappedTo t₀ pid code next task t) (begun : code ≤ next)
    (same : SameTask task task')
    (spares : ∀ p : Fin 8, p.val < next → task'.mmuState.page p = task.mmuState.page p) :
    MappedTo t₀ pid code next task' t := by
  refine ⟨same.pid.trans h.owner, h.unused, ?_, ?_⟩
  · intro b allocated
    obtain ⟨owner, early, maps⟩ := h.blocks b allocated
    refine ⟨owner, early, maps.congr rfl ?_⟩
    intro p at_p
    exact spares p (by omega)
  · intro p low high
    exact (h.pages p low high).congr (spares p (by omega)) fun b allocated => ⟨allocated, rfl⟩

/-- One more code page. -/
theorem MappedTo.codePage (h : MappedTo t₀ pid code code task t) (nonzero : pid ≠ 0)
    (assigned : pid ≠ -1) (here : page.val = code) (own : ownerPAR.toNat = page.val)
    (called : codePage page ownerPAR task t = .ok (eok, task', t')) :
    MappedTo t₀ pid (code + 1) (code + 1) task' t' := by
  subst here
  obtain ⟨recorded, b, allocated, owner, size, mapped⟩ :=
    h.mapPage nonzero assigned (Nat.le_refl _) own (Nat.le_refl _)
      (fun addr => (if_neg (by decide)).symm) (fun b size => inside_code size) called
  refine ⟨recorded.owner, recorded.unused, recorded.blocks, ?_⟩
  intro p low high
  by_cases here : p = page
  · subst here
    exact ⟨b, allocated, by rw [owner, own], size, mapped⟩
  · exact recorded.pages p low (by omega)

end Blocks

/-! ## The whole setup -/

/-- What a task can rely on after its memory has been set up. -/
structure WellMapped (t t' : MMCBT) (task : TCB n) : Prop where
  blocks : ∀ b, Allocated t t' b → Maps task.mmuState (t'.mmcbt b)
  code : ∀ p : Fin 8, 3 ≤ p.val → p.val < 3 + codePages task.taskType →
    CodeMapped t t' task.mmuState p
  tucb : 3 * 8192 ≤ task.taskTUCB.toNat ∧
    task.taskTUCB.toNat + 64 ≤ (3 + codePages task.taskType) * 8192
  buffer : task.ttype = drvTask → ∀ b, Allocated t t' b → (t'.mmcbt b).mmcbFlags = mmcbFlgBuf →
    ∀ p : Fin 8, 3 ≤ p.val → p.val < 3 + codePages task.taskType →
      (t'.mmcbt b).ownerPAR.toNat ≠ p.val

section Whole
variable (fresh : FreshTask n) {t t' : MMCBT} {task' : TCB n}

theorem FreshTask.pid_ne_zero : fresh.task.pid ≠ 0 := by
  intro zero
  have range := fresh.pid_range.1
  rw [zero] at range
  exact absurd range (by decide)

theorem FreshTask.pid_assigned : fresh.task.pid ≠ -1 := by
  intro none
  have range := fresh.pid_range.2
  rw [none] at range
  exact absurd range (by decide)

/-- After the part for medium and big tasks. -/
theorem mediumPage_records {pid : WORD} {task task' : TCB n} {t₀ : MMCBT}
    (h : MappedTo t₀ pid 4 4 task t) (nonzero : pid ≠ 0) (assigned : pid ≠ -1)
    (called : mediumPage task t = .ok (eok, task', t')) :
    SameTask task task' ∧ if task.tsize = tszMed ∨ task.tsize = tszBig then
      MappedTo t₀ pid 5 5 task' t' else MappedTo t₀ pid 4 4 task' t' := by
  unfold mediumPage at called
  split at called
  next medium =>
    obtain ⟨-, -, -, same, -⟩ := mapPage_ok called
    rw [if_pos medium]
    exact ⟨same, h.codePage nonzero assigned rfl rfl called⟩
  next small =>
    cases called
    rw [if_neg small]
    exact ⟨.refl _, h⟩

/-- The code pages are mapped, and nothing else is. -/
theorem code_recorded {task₁ task₂ task₃ task₄ : TCB n} {t₂ t₃ t₄ : MMCBT}
    (kernel : kernelPages fresh.task t = .ok (eok, task₁, t))
    (first : codePage 3 3 task₁ t = .ok (eok, task₂, t₂))
    (medium : mediumPage task₂ t₂ = .ok (eok, task₃, t₃))
    (big : bigPage task₃ t₃ = .ok (eok, task₄, t₄)) :
    SameTask fresh.task task₄ ∧ MappedTo t fresh.task.pid (3 + codePages fresh.task.taskType)
      (3 + codePages fresh.task.taskType) task₄ t₄ := by
  have nonzero := fresh.pid_ne_zero
  have assigned := fresh.pid_assigned
  have same₁ : SameTask fresh.task task₁ := by
    cases kernel
    rfl
  have start : MappedTo t fresh.task.pid 3 3 task₁ t := by
    refine ⟨same₁.pid, fun b unused => unused, ?_, ?_⟩
    · rintro b ⟨before, after⟩
      exact absurd before after
    · intro p low high
      omega
  obtain ⟨-, -, -, same₂, -⟩ := mapPage_ok first
  obtain ⟨same₃, after₃⟩ := mediumPage_records (start.codePage nonzero assigned rfl rfl first)
    nonzero assigned medium
  have type₃ := ((same₁.trans same₂).trans same₃).taskType
  have type₂ := (same₁.trans same₂).taskType
  rw [TCB.tsize, type₂] at after₃
  unfold bigPage at big
  rw [TCB.tsize, type₃] at big
  unfold codePages
  by_cases isBig : fresh.task.taskType &&& 0o70 = tszBig
  · rw [if_pos isBig] at big
    rw [if_pos (.inr isBig)] at after₃
    rw [if_pos isBig]
    obtain ⟨-, -, -, same₄, -⟩ := mapPage_ok big
    exact ⟨((same₁.trans same₂).trans same₃).trans same₄,
      after₃.codePage nonzero assigned rfl rfl big⟩
  · rw [if_neg isBig] at big
    cases big
    refine ⟨(same₁.trans same₂).trans same₃, ?_⟩
    by_cases isMed : fresh.task.taskType &&& 0o70 = tszMed
    · rw [if_pos (.inl isMed)] at after₃
      rw [if_neg isBig, if_pos isMed]
      exact after₃
    · rw [if_neg (not_or.mpr ⟨isMed, isBig⟩)] at after₃
      rw [if_neg isBig, if_neg isMed]
      exact after₃

/-- Everything but the buffer of a driver task is mapped as it is recorded. -/
theorem setup_recorded (called : setupTaskmem fresh.task t = .ok (eok, task', t')) :
    ∃ task₇ t₆, MappedTo t fresh.task.pid (3 + codePages fresh.task.taskType) 7 task₇ t₆ ∧
      SameTask fresh.task task₇ ∧ (3 * 8192 ≤ task₇.taskTUCB.toNat ∧
        task₇.taskTUCB.toNat + 64 ≤ (3 + codePages fresh.task.taskType) * 8192) ∧
      bufferPage task₇ t₆ = .ok (eok, task', t') := by
  obtain ⟨-, task₁, task₂, t₂, task₃, t₃, task₄, t₄, task₅, task₆, t₆, task₇, kernel, first, medium,
    big, tucb, stack, io, buffer⟩ := setupTaskmem_stages called
  obtain ⟨same₄, code⟩ := code_recorded fresh kernel first medium big
  have few : codePages fresh.task.taskType ≤ 3 := by
    unfold codePages
    split_ifs <;> decide
  have same₅ : SameTask task₄ task₅ := by
    cases tucb
    rfl
  have record₅ := code.spared (Nat.le_refl _) same₅ fun p _ => placeTUCB_spares tucb
  obtain ⟨record₆, -⟩ := (record₅.weaken (Nat.add_le_add_left few 3)).mapPage fresh.pid_ne_zero
    fresh.pid_assigned (Nat.le_refl _) rfl (Nat.add_le_add_left few 3)
    (fun addr => (if_pos rfl).symm) (fun b size => inside_stack size) stack
  obtain ⟨-, -, -, same₆, tucb₆, -⟩ := mapPage_ok stack
  have same₇ : SameTask task₆ task₇ := by
    cases io
    rfl
  have record₇ := record₆.spared (Nat.le_trans (Nat.add_le_add_left few 3) (by decide)) same₇
    fun p before => ioPage_spares (by rintro rfl; exact absurd before (by decide)) io
  refine ⟨task₇, t₆, record₇, ((same₄.trans same₅).trans same₆).trans same₇, ?_, buffer⟩
  have tucb₇ : task₇.taskTUCB = task₆.taskTUCB := by
    cases io
    rfl
  rw [tucb₇, tucb₆]
  cases tucb
  dsimp only
  rw [TCB.tsize, same₄.taskType, codePages]
  split_ifs <;> decide

/-- A driver task is not big, and then no part touches page 5. -/
theorem driver_page5 (driver : fresh.task.ttype = drvTask)
    (called : setupTaskmem fresh.task t = .ok (eok, task', t')) :
    task'.mmuState.page 5 = ((0, 0), 0, 0) := by
  obtain ⟨valid, task₁, task₂, t₂, task₃, t₃, task₄, t₄, task₅, task₆, t₆, task₇, kernel, first,
    medium, big, tucb, stack, io, buffer⟩ := setupTaskmem_stages called
  have notBig : fresh.task.tsize ≠ tszBig := by
    intro isBig
    have other : drvTask ≠ sysTask ∧ drvTask ≠ usrTask := by decide
    rw [checkType, driver, if_neg other.1, if_neg other.2, if_pos rfl, if_pos isBig] at valid
    split_ifs at valid <;> exact absurd valid (by decide)
  have same₁ : SameTask fresh.task task₁ := by
    cases kernel
    rfl
  have same₃ : SameTask task₂ task₃ := by
    unfold mediumPage at medium
    split at medium
    · obtain ⟨-, -, -, same, -⟩ := mapPage_ok medium
      exact same
    · cases medium
      exact .refl _
  obtain ⟨-, -, -, same₂, -⟩ := mapPage_ok first
  have small : task₃.tsize ≠ tszBig := by
    rw [TCB.tsize, ((same₁.trans same₂).trans same₃).taskType]
    exact notBig
  have skipped : task₄ = task₃ := by
    rw [bigPage, if_neg small] at big
    cases big
    rfl
  have page₁ : task₁.mmuState.page 5 = ((0, 0), 0, 0) := by
    cases kernel
    simp [MMUSTATE.page, MMUSTATE.setUser, MMUSTATE.setKernel, fresh.unmapped]
  calc task'.mmuState.page 5
    _ = task₇.mmuState.page 5 := bufferPage_spares (by decide) buffer
    _ = task₆.mmuState.page 5 := ioPage_spares (by decide) io
    _ = task₅.mmuState.page 5 := mapPage_spares (by decide) stack
    _ = task₄.mmuState.page 5 := placeTUCB_spares tucb
    _ = task₃.mmuState.page 5 := by rw [skipped]
    _ = task₂.mmuState.page 5 := mediumPage_spares (by decide) medium
    _ = task₁.mmuState.page 5 := mapPage_spares (by decide) first
    _ = ((0, 0), 0, 0) := page₁

/-- A setup that succeeds on any table maps everything as it is recorded exactly when
the task is not a driver task: the buffer is recorded for page 5 and mapped by page 4. -/
theorem taskmem_mapped_iff (t t' : MMCBT) (task' : TCB n)
    (called : setupTaskmem fresh.task t = .ok (eok, task', t')) :
    WellMapped t t' task' ↔ fresh.task.ttype ≠ drvTask := by
  obtain ⟨task₇, t₆, recorded, same, tucb, buffer⟩ := setup_recorded fresh called
  have type := same.taskType
  have ttype : task₇.ttype = fresh.task.ttype := congrArg (· &&& 0o7) type
  rw [bufferPage, ttype] at buffer
  constructor
  · intro mapped driver
    rw [if_pos driver] at buffer
    obtain ⟨cur, b, cut, -⟩ := mapPage_ok buffer
    rw [recorded.owner] at cut
    have allocated := recorded.allocated fresh.pid_assigned cut
    obtain ⟨p, at_p, -, -, inside, -⟩ := mapped.blocks b allocated
    have own : (t'.mmcbt b).ownerPAR = 5 := congrArg MMCB.ownerPAR cut.block
    obtain rfl : p = 5 := by
      rw [own] at at_p
      exact Fin.ext at_p.symm
    have unmapped := driver_page5 fresh driver called
    simp only [MMUSTATE.page, Prod.mk.injEq] at unmapped
    rw [unmapped.1.2] at inside
    exact absurd inside.1 (by decide)
  · intro other
    rw [if_neg other] at buffer
    cases buffer
    refine ⟨fun b allocated => (recorded.blocks b allocated).2.2, ?_, ?_, ?_⟩
    · rw [type]
      exact recorded.pages
    · rw [type]
      exact tucb
    · intro driver
      exact absurd (ttype.symm.trans driver) other

end Whole

theorem taskmem_mapped_small : ∃ task t, setupTaskmem (smallTask : FreshTask 16).task memInit =
    .ok (eok, task, t) ∧
      (WellMapped memInit t task ↔ (smallTask : FreshTask 16).task.ttype ≠ drvTask) ∧
        (smallTask : FreshTask 16).task.ttype ≠ drvTask := by
  have returns : succeeds (setupTaskmem (smallTask : FreshTask 16).task memInit)
      (fun r => decide (r.1 = eok)) = true := by decide +kernel
  obtain ⟨⟨rc, task, t⟩, called, ok⟩ := succeeds_iff.mp returns
  obtain rfl : rc = eok := of_decide_eq_true ok
  exact ⟨task, t, called, taskmem_mapped_iff smallTask memInit t task called, by decide⟩

/-- The buffer of a driver task of medium size takes the place of its second code page. -/
theorem taskmem_driver_unmapped : ∃ task t,
    setupTaskmem (driverTask : FreshTask 16).task memInit = .ok (eok, task, t) ∧
      ¬ WellMapped memInit t task ∧ task.mmuState.updr 4 = pdrAccRw ||| pdrSiz1k := by
  have returns : succeeds (setupTaskmem (driverTask : FreshTask 16).task memInit) (fun r =>
      decide (r.1 = eok) && decide (r.2.1.mmuState.updr 4 = pdrAccRw ||| pdrSiz1k) &&
        decide (3 + codePages r.2.1.taskType = 5)) = true := by
    decide +kernel
  obtain ⟨⟨rc, task, t⟩, called, facts⟩ := succeeds_iff.mp returns
  simp only [Bool.and_eq_true, decide_eq_true_eq] at facts
  obtain ⟨⟨rfl, page4⟩, pages⟩ := facts
  refine ⟨task, t, called, ?_, page4⟩
  intro mapped
  obtain ⟨b, -, -, -, code⟩ := mapped.code 4 (by decide) (by rw [pages]; decide)
  simp only [MMUSTATE.page, Prod.mk.injEq] at code
  rw [code.1.2] at page4
  exact absurd page4 (by decide)

end Muxx
