import Muxx.Mapping
import Muxx.Protection

/-!
# The pages of the kernel

The pages 0 to 2, 6 and 7, on which the kernel itself runs in every task: its
code and data, the stack and the I/O page.

* `Furnished`: what muxx_setup_taskmem makes of their descriptors;
* `setAccess_serves_stack`, `setAccess_serves_io`: what muxx_svc_protmem makes of
  them, since it gives kernel mode the descriptor of user mode;
* `kernel_kept_iff`: runs in which they stay as they were.
-/

namespace Muxx

open Fallible Run

def IsKernelPage (p : Fin 8) : Prop := p.val < 3 ∨ 6 ≤ p.val

/-- The descriptor of kernel mode after the setup of a task. -/
def kernelPdr (p : Fin 8) : WORD :=
  if p = 6 then pdrAccRw ||| pdrSiz4k ||| pdrDirDn else pdrAccRw ||| pdrSiz8k

/-- The page can be read and written, over its length and in its direction. -/
def ServesKernel (p : Fin 8) (pdr : WORD) : Prop :=
  readable pdr = true ∧ writable pdr = true ∧ plf pdr = plf (kernelPdr p) ∧
    downward pdr = downward (kernelPdr p)

instance ServesKernel.decidable (p : Fin 8) (pdr : WORD) : Decidable (ServesKernel p pdr) :=
  inferInstanceAs (Decidable (_ ∧ _))

def KernelPagesServed (m : MMUSTATE) : Prop := ∀ p, IsKernelPage p → ServesKernel p (m.kpdr p)

/-- A task that has been set up has the I/O page in kernel mode. -/
def TCB.SetUp {n : Nat} (t : TCB n) : Prop := t.pid ≠ 0 ∧ t.mmuState.kpar 7 = 0o7600

/-- The tasks keep the pages of the kernel, saved and while they run. -/
def KernelKept (k : Kernel) : Prop :=
  (∀ i, (k.tct i).SetUp → KernelPagesServed (k.tct i).mmuState) ∧
    (k.cur.SetUp → KernelPagesServed k.mmu)

/-- A call of protmem that passes the checks is about a private page, or gives write
access to the stack, or to the I/O page, which the caller has IOPRV or AUDITPRV for. -/
def CallOp.Harmless (s : TaskRun) : CallOp → Prop
  | .task _ => True
  | .protmem pid page prot =>
    let k := s.kernel
    protmemCheck k pid page prot = eok → k.cur.SetUp → page ≤ 5 ∨
      prot = pdrAccRw ∧ (page = 6 ∨ k.cur.ioprv = true ∨ k.cur.auditprv = true)

/-! ## After the setup -/

/-- The task has the I/O page in user mode. -/
def TCB.hasIo {n : Nat} (t : TCB n) : Bool := t.operprv || t.ioprv || t.auditprv

/-- The fields of the descriptors that decide about the pages of the kernel. -/
structure Furnished {n : Nat} (t : TCB n) : Prop where
  served : KernelPagesServed t.mmuState
  stack : t.mmuState.updr 6 &&& 0xfff8 = kernelPdr 6 &&& 0xfff8
  io : t.mmuState.updr 7 &&& 0xfff8 =
    if t.hasIo then kernelPdr 7 &&& 0xfff8 else 0

section Setup
variable {n : Nat} {task task' : TCB n} {t t' : MMCBT}

theorem TCB.hasIo_congr (privileges : task'.privileges = task.privileges) :
    task'.hasIo = task.hasIo := by
  simp only [TCB.hasIo, TCB.operprv, TCB.ioprv, TCB.auditprv, privileges]

theorem Furnished.congr (h : Furnished task) (mmuState : task'.mmuState = task.mmuState)
    (privileges : task'.privileges = task.privileges) : Furnished task' := by
  obtain ⟨served, stack, io⟩ := h
  refine ⟨mmuState ▸ served, mmuState ▸ stack, ?_⟩
  rw [mmuState, TCB.hasIo_congr privileges, io]

/-- What ioPage makes of page 7. -/
theorem ioPage_page (called : ioPage task t = .ok (eok, task', t)) :
    task'.mmuState.kpar 7 = 0o7600 ∧ task'.mmuState.kpdr 7 = pdrAccRw ||| pdrSiz8k ∧
      task'.mmuState.updr 7 &&& 0xfff8 = if task.hasIo then kernelPdr 7 &&& 0xfff8 else 0 := by
  cases called
  dsimp only
  refine ⟨?_, ?_, ?_⟩
  · split_ifs <;> simp [MMUSTATE.setUser, MMUSTATE.setKernel]
  · split_ifs <;> simp [MMUSTATE.setUser, MMUSTATE.setKernel]
  · cases oper : task.operprv <;> cases io : task.ioprv <;> cases audit : task.auditprv <;>
      simp [MMUSTATE.setUser, MMUSTATE.setKernel, TCB.hasIo, oper, io, audit, kernelPdr]

/-- A successful setup gives the kernel its pages. -/
theorem setup_furnished (called : setupTaskmem task t = .ok (eok, task', t')) :
    Furnished task' ∧ task'.mmuState.kpar 7 = 0o7600 := by
  obtain ⟨-, task₁, task₂, t₂, task₃, t₃, task₄, t₄, task₅, task₆, t₆, task₇, kernel, first, medium,
    big, tucb, stack, io, buffer⟩ := setupTaskmem_stages called
  have last (p : Fin 8) (other : p ≠ 4) : task'.mmuState.page p = task₇.mmuState.page p :=
    bufferPage_spares other buffer
  have low (p : Fin 8) (shared : p.val < 3) : task'.mmuState.kpdr p = pdrAccRw ||| pdrSiz8k := by
    have page : task'.mmuState.page p = task₁.mmuState.page p := calc
      _ = task₇.mmuState.page p := last p (by rintro rfl; exact absurd shared (by decide))
      _ = task₆.mmuState.page p := ioPage_spares (by rintro rfl; exact absurd shared (by decide)) io
      _ = task₅.mmuState.page p :=
        mapPage_spares (by rintro rfl; exact absurd shared (by decide)) stack
      _ = task₄.mmuState.page p := placeTUCB_spares tucb
      _ = task₃.mmuState.page p :=
        bigPage_spares (by rintro rfl; exact absurd shared (by decide)) big
      _ = task₂.mmuState.page p :=
        mediumPage_spares (by rintro rfl; exact absurd shared (by decide)) medium
      _ = task₁.mmuState.page p :=
        mapPage_spares (by rintro rfl; exact absurd shared (by decide)) first
    simp only [MMUSTATE.page, Prod.mk.injEq] at page
    rw [page.2.2]
    cases kernel
    have pages : p = 0 ∨ p = 1 ∨ p = 2 := by omega
    rcases pages with rfl | rfl | rfl <;> simp [MMUSTATE.setUser, MMUSTATE.setKernel]
  obtain ⟨-, b, -, -, -, page₆⟩ := mapPage_ok stack
  have stackPage : task'.mmuState.page 6 = _ :=
    ((last 6 (by decide)).trans (ioPage_spares (by decide) io)).trans page₆
  obtain ⟨kpar, kpdr, updr⟩ := ioPage_page io
  have ioPage := last 7 (by decide)
  simp only [MMUSTATE.page, Prod.mk.injEq] at stackPage ioPage
  have same₇ : task₇.privileges = task₆.privileges := by
    cases io
    rfl
  have same' : task'.privileges = task₇.privileges := by
    unfold bufferPage at buffer
    split at buffer
    · obtain ⟨-, -, -, same, -⟩ := mapPage_ok buffer
      exact same.privileges
    · cases buffer
      rfl
  refine ⟨⟨?_, ?_, ?_⟩, ioPage.2.1.trans kpar⟩
  · rintro p (shared | high)
    · have other : p ≠ 6 := by
        rintro rfl
        exact absurd shared (by decide)
      rw [low p shared, ServesKernel, kernelPdr, if_neg other]
      decide
    · have pages : p = 6 ∨ p = 7 := by omega
      rcases pages with rfl | rfl
      · rw [stackPage.2.2]
        decide
      · rw [ioPage.2.2, kpdr]
        decide
  · rw [stackPage.1.2]
    rfl
  · rw [ioPage.1.2, updr, TCB.hasIo_congr (same'.trans same₇)]

end Setup

/-! ## After a call of protmem -/

section Change
variable {t : TCB maxTasks} {pdr prot : WORD} {page : Fin 8}

theorem setAccess_serves_stack (masked : pdr &&& 0xfff8 = kernelPdr 6 &&& 0xfff8)
    (known : prot = pdrAccRw ∨ prot = pdrAccRo ∨ prot = pdrAccNa) :
    ServesKernel 6 (setAccess pdr prot) ↔ prot = pdrAccRw := by
  rw [setAccess, masked]
  rcases known with rfl | rfl | rfl <;> decide

/-- Without the privileges for it, page 7 has no length in user mode. -/
theorem setAccess_serves_io {hasIo : Bool}
    (masked : pdr &&& 0xfff8 = if hasIo then kernelPdr 7 &&& 0xfff8 else 0)
    (known : prot = pdrAccRw ∨ prot = pdrAccRo ∨ prot = pdrAccNa) :
    ServesKernel 7 (setAccess pdr prot) ↔ prot = pdrAccRw ∧ hasIo = true := by
  rw [setAccess, masked]
  rcases known with rfl | rfl | rfl <;> cases hasIo <;> decide

theorem setAccess_mask (pdr : WORD)
    (known : prot = pdrAccRw ∨ prot = pdrAccRo ∨ prot = pdrAccNa) :
    setAccess pdr prot &&& 0xfff8 = pdr &&& 0xfff8 := by
  have mask : prot &&& 0xfff8 = 0 := by
    rcases known with rfl | rfl | rfl <;> decide
  rw [setAccess, BitVec.and_or_distrib_right, BitVec.and_assoc, mask]
  simp

/-- A change of a private page, or one that the pages of the kernel survive. -/
theorem Furnished.change (h : Furnished t) (own : 3 ≤ page.val)
    (known : prot = pdrAccRw ∨ prot = pdrAccRo ∨ prot = pdrAccNa) :
    KernelPagesServed (t.setPdr page (setAccess (t.mmuState.updr page) prot)).mmuState ↔
      page.val ≤ 5 ∨ prot = pdrAccRw ∧ (page = 6 ∨ t.hasIo = true) := by
  have other (p : Fin 8) (hp : p ≠ page) :
      (t.setPdr page (setAccess (t.mmuState.updr page) prot)).mmuState.kpdr p =
        t.mmuState.kpdr p := Function.update_of_ne hp ..
  have changed : (t.setPdr page (setAccess (t.mmuState.updr page) prot)).mmuState.kpdr page =
      setAccess (t.mmuState.updr page) prot := Function.update_self ..
  have split : KernelPagesServed (t.setPdr page (setAccess (t.mmuState.updr page) prot)).mmuState ↔
      (IsKernelPage page → ServesKernel page (setAccess (t.mmuState.updr page) prot)) := by
    constructor
    · intro served kernel
      exact changed ▸ served page kernel
    · intro serves p kernel
      by_cases hp : p = page
      · subst hp
        exact changed.symm ▸ serves kernel
      · rw [other p hp]
        exact h.served p kernel
  rw [split]
  rcases (by omega : page.val ≤ 5 ∨ page = 6 ∨ page = 7) with low | rfl | rfl
  · exact iff_of_true (fun kernel => by unfold IsKernelPage at kernel; omega) (.inl low)
  · have serves := setAccess_serves_stack h.stack known
    simp only [IsKernelPage, serves]
    simp
  · have serves := setAccess_serves_io h.io known
    simp only [IsKernelPage, serves]
    simp

/-- The fields that a change of access leaves. -/
theorem Furnished.keeps (h : Furnished t)
    (known : prot = pdrAccRw ∨ prot = pdrAccRo ∨ prot = pdrAccNa)
    (served : KernelPagesServed (t.setPdr page (setAccess (t.mmuState.updr page) prot)).mmuState) :
    Furnished (t.setPdr page (setAccess (t.mmuState.updr page) prot)) := by
  have masked (p : Fin 8) :
      (t.setPdr page (setAccess (t.mmuState.updr page) prot)).mmuState.updr p &&& 0xfff8 =
        t.mmuState.updr p &&& 0xfff8 := by
    by_cases hp : p = page
    · subst hp
      simp only [TCB.setPdr, MMUSTATE.setPdr, Function.update_self]
      exact setAccess_mask _ known
    · simp only [TCB.setPdr, MMUSTATE.setPdr, Function.update_of_ne hp]
  exact ⟨served, (masked 6).trans h.stack, (masked 7).trans h.io⟩

end Change

/-! ## Runs -/

/-- The invariant of the runs. -/
structure KernelSound (k : Kernel) (rs : List Request) : Prop where
  pids : Pids k
  memory : Carved k.mmcbt rs
  mmu : k.mmu = k.cur.mmuState
  within : Within (fun i => (k.tct i).pid ≠ 0) k
  tasks : ∀ i, (k.tct i).SetUp → Furnished (k.tct i)

section Steps
variable {k k' : Kernel} {s s' : TaskRun} {rs : List Request}

theorem KernelSound.kept (h : KernelSound k rs) : KernelKept k := by
  refine ⟨fun i setUp => (h.tasks i setUp).served, ?_⟩
  intro setUp
  rw [h.mmu]
  exact (h.tasks k.curtcb setUp).served

theorem KernelSound.move (h : KernelSound k rs) (moved : Moved k k')
    (within : Within (fun i => (k.tct i).pid ≠ 0) k') : KernelSound k' rs := by
  obtain ⟨mmuState, mmu⟩ := moved.mmu h.mmu
  have same : (fun i => (k'.tct i).pid ≠ 0) = fun i => (k.tct i).pid ≠ 0 :=
    funext fun i => by rw [moved.pid]
  refine ⟨moved.pids h.pids, moved.mmcbt ▸ h.memory, mmu, same ▸ within, ?_⟩
  rintro i ⟨nonzero, kpar⟩
  rw [moved.pid] at nonzero
  rw [mmuState] at kpar
  exact (h.tasks i ⟨nonzero, kpar⟩).congr (mmuState i) (moved.privileges i)

/-- The task of a creation has the pages of the kernel if it has been set up. -/
theorem newTask_furnished (h : KernelSound k rs) {name : Name} {type entry privs : WORD}
    {new : Option (Fin maxTasks)} (called : newTask k name type entry privs = .ok (new, k')) :
    ∃ i tcb rs', Made k i tcb k' ∧ Carved k'.mmcbt rs' ∧ (tcb.SetUp → Furnished tcb) ∧
      ∀ j, new = some j → j = i := by
  obtain ⟨i, tcb, made, -, outcome⟩ := newTask_ok h.pids h.memory called
  rcases outcome with ⟨rfl, same, unmapped⟩ | ⟨rfl, task₀, -, -, settingUp⟩
  · refine ⟨i, tcb, rs, made, same ▸ h.memory, ?_, nofun⟩
    rintro ⟨-, kpar⟩
    rw [unmapped] at kpar
    exact absurd kpar (by decide)
  · obtain ⟨new, carved, -, -⟩ := settingUp.run
    refine ⟨i, tcb, rs ++ new, made, carved, ?_, fun j same => (Option.some_inj.mp same).symm⟩
    intro _
    obtain ⟨⟨pididx, k₁⟩, -, rest⟩ := bind_ok.mp called
    cases pididx with
    | error _ => cases rest
    | ok j =>
      obtain ⟨⟨rc, tcb', mmcbt⟩, setUp, ret⟩ := bind_ok.mp rest
      obtain ⟨found, rfl⟩ := Prod.mk.inj (Except.ok.inj ret)
      by_cases ok : rc = eok
      · rw [if_pos ok] at found
        obtain rfl : j = i := Option.some_inj.mp found
        have self : tcb' = tcb := (Kernel.setTcb_self ..).symm.trans made.self
        rw [ok] at setUp
        exact self ▸ (setup_furnished setUp).1
      · rw [if_neg ok] at found
        cases found

theorem KernelSound.made (h : KernelSound k rs) {i : Fin maxTasks} {t : TCB maxTasks}
    {rs' : List Request} (made : Made k i t k') (memory : Carved k'.mmcbt rs')
    (furnished : t.SetUp → Furnished t) : KernelSound k' rs' ∧ (k'.tct i).pid ≠ 0 := by
  have new_pid : (k'.tct i).pid ≠ 0 := by
    rw [made.self]
    intro zero
    have range := made.pid_range.1
    rw [zero] at range
    exact absurd range (by decide)
  have notCur : k.curtcb ≠ i := fun he => h.within.cur (he ▸ made.entry.2)
  have mmu : k'.mmu = k.mmu := by rw [made.only]
  have curtcb : k'.curtcb = k.curtcb := by rw [made.only]
  refine ⟨⟨made.pids, memory, ?_, ?_, ?_⟩, new_pid⟩
  · rw [mmu, h.mmu, Kernel.cur, Kernel.cur, curtcb, made.other notCur]
  · apply h.within.made made
    intro j nonzero
    by_cases same : j = i
    · rw [same]
      exact new_pid
    · rw [made.other same]
      exact nonzero
  · intro j setUp
    by_cases same : j = i
    · subst same
      rw [made.self] at setUp ⊢
      exact furnished setUp
    · rw [made.other same] at setUp ⊢
      exact h.tasks j setUp

theorem KernelSound.task (h : KernelSound s.kernel rs) {op : TaskOp} (onTask : op.OnTask s)
    (called : s.step op = .ok s') : ∃ rs', KernelSound s'.kernel rs' := by
  rcases TaskRun.step_cases called with ⟨-, name, type, entry, privs, new, k₁, made, outcome⟩ |
      ⟨moved, within⟩
  · obtain ⟨i, tcb, rs', made, memory, furnished, new⟩ := newTask_furnished h made
    obtain ⟨sound, live⟩ := h.made made memory furnished
    rcases outcome with rfl | ⟨j, some, added⟩
    · exact ⟨rs', sound⟩
    · obtain rfl := new j some
      exact ⟨rs', sound.move (addReady_only added).moved (sound.within.addReady live added)⟩
  · refine ⟨rs, h.move (moved _ moved_throughout) (within _ h.within ?_)⟩
    rintro fp task rfl
    exact onTask

/-- The running task after a call of protmem that has been granted. -/
theorem KernelSound.granted (h : KernelSound k rs) {pid page prot : WORD}
    (unprivileged : k.cur.operprv = false) (granted : protmemCheck k pid page prot = eok) :
    ((svcProtmem k pid page prot).2.cur.SetUp ↔ k.cur.SetUp) ∧
      (k.cur.SetUp → (KernelPagesServed (svcProtmem k pid page prot).2.cur.mmuState ↔
        page ≤ 5 ∨ prot = pdrAccRw ∧
          (page = 6 ∨ k.cur.ioprv = true ∨ k.cur.auditprv = true)) ∧
        (KernelPagesServed (svcProtmem k pid page prot).2.cur.mmuState →
          Furnished (svcProtmem k pid page prot).2.cur)) := by
  obtain ⟨known, index, low, high, -⟩ := protmemCheck_granted h.pids unprivileged granted
  have cur : (svcProtmem k pid page prot).2.cur = k.cur.setPdr (pageIndex page)
      (setAccess (k.cur.mmuState.updr (pageIndex page)) prot) := by
    rw [svcProtmem_granted h.pids unprivileged granted]
    exact Kernel.setTcb_self ..
  rw [cur]
  refine ⟨Iff.rfl, ?_⟩
  intro setUp
  have furnished : Furnished k.cur := h.tasks k.curtcb setUp
  refine ⟨?_, furnished.keeps known⟩
  rw [furnished.change (index ▸ low) known, index]
  have io : k.cur.hasIo = true ↔ k.cur.ioprv = true ∨ k.cur.auditprv = true := by
    rw [TCB.hasIo, unprivileged, Bool.false_or, Bool.or_eq_true]
  have six : pageIndex page = 6 ↔ page = 6 := by
    rw [Fin.ext_iff, index, ← BitVec.toNat_inj]
    rfl
  exact or_congr_right (and_congr_right fun _ => or_congr six io)

theorem KernelSound.protmem (h : KernelSound k rs) {pid page prot : WORD}
    (unprivileged : k.cur.operprv = false) (granted : protmemCheck k pid page prot = eok)
    (served : k.cur.SetUp → KernelPagesServed (svcProtmem k pid page prot).2.cur.mmuState) :
    KernelSound (svcProtmem k pid page prot).2 rs := by
  obtain ⟨setUp, change⟩ := h.granted unprivileged granted
  have step := svcProtmem_granted h.pids unprivileged granted
  set pdr := setAccess (k.cur.mmuState.updr (pageIndex page)) prot
  let f (t : TCB maxTasks) : TCB maxTasks := t.setPdr (pageIndex page) pdr
  have tct : (svcProtmem k pid page prot).2.tct = (k.modify k.curtcb f).tct := by rw [step]
  have curtcb : (svcProtmem k pid page prot).2.curtcb = k.curtcb := by rw [step]; rfl
  have self : (k.modify k.curtcb f).tct k.curtcb = f k.cur := Kernel.setTcb_self ..
  have other {j : Fin maxTasks} (hj : j ≠ k.curtcb) : (k.modify k.curtcb f).tct j = k.tct j :=
    Kernel.setTcb_ne _ _ hj
  have pids (j : Fin maxTasks) : ((svcProtmem k pid page prot).2.tct j).pid = (k.tct j).pid := by
    rw [tct]
    by_cases hj : j = k.curtcb
    · rw [hj, self]
      rfl
    · rw [other hj]
  refine ⟨?_, ?_, ?_, ?_, ?_⟩
  · refine h.pids.congr pids ?_ ?_ <;> rw [step] <;> rfl
  · have memory : (svcProtmem k pid page prot).2.mmcbt = k.mmcbt := by
      rw [step]
      rfl
    exact memory.symm ▸ h.memory
  · rw [Kernel.cur, curtcb, tct, self, step]
    show k.mmu.setPdr _ _ = _
    rw [h.mmu]
    rfl
  · have within := h.within.modify (f := f) (i := k.curtcb) rfl rfl
    have same : (fun i => ((svcProtmem k pid page prot).2.tct i).pid ≠ 0) =
        fun i => (k.tct i).pid ≠ 0 := funext fun i => by rw [pids]
    rw [same, step]
    exact ⟨within.cur, within.links, within.ready, within.susp⟩
  · intro j isSetUp
    by_cases hj : j = k.curtcb
    · subst hj
      have here : (svcProtmem k pid page prot).2.tct k.curtcb =
          (svcProtmem k pid page prot).2.cur := by rw [Kernel.cur, curtcb]
      rw [here] at isSetUp ⊢
      exact (change (setUp.mp isSetUp)).2 (served (setUp.mp isSetUp))
    · rw [tct, other hj] at isSetUp ⊢
      exact h.tasks j isSetUp

theorem svcProtmem_refused {pid page prot : WORD} (refused : protmemCheck k pid page prot ≠ eok) :
    (svcProtmem k pid page prot).2 = k := by
  rw [svcProtmem, if_pos refused]

theorem KernelSound.step (h : KernelSound s.kernel rs) (op : CallOp) (inScope : op.InScope s)
    (harmless : op.Harmless s) (called : op.step s = .ok s') :
    ∃ rs', KernelSound s'.kernel rs' := by
  cases op with
  | task op => exact h.task inScope called
  | protmem pid page prot =>
    cases called
    refine ⟨rs, ?_⟩
    by_cases granted : protmemCheck s.kernel pid page prot = eok
    · apply h.protmem inScope granted
      intro setUp
      exact ((h.granted inScope granted).2 setUp).1.mpr (harmless granted setUp)
    · rw [svcProtmem_refused granted]
      exact h

/-- A call that is not harmless takes a page from the kernel. -/
theorem KernelSound.harmed (h : KernelSound s.kernel rs) (op : CallOp) (inScope : op.InScope s)
    (harms : ¬ op.Harmless s) : ∃ s', op.step s = .ok s' ∧ ¬ KernelKept s'.kernel := by
  cases op with
  | task op => exact absurd trivial harms
  | protmem pid page prot =>
    refine ⟨_, rfl, ?_⟩
    rintro ⟨saved, -⟩
    apply harms
    intro granted setUp
    obtain ⟨isSetUp, change⟩ := h.granted inScope granted
    exact (change setUp).1.mp (saved _ (isSetUp.mpr setUp))

end Steps

theorem boot_kernelSound (entry : ADDRESS) : KernelSound (boot entry) [] := by
  have guarded := boot_guarded entry
  refine ⟨guarded.pids, guarded.memory, guarded.mmu, guarded.within, ?_⟩
  intro i setUp
  have zero : i = 0 := by
    by_contra other
    exact setUp.1 ((boot_pid entry i).trans (if_neg other))
  subst zero
  rw [boot_self]
  have pages : ∀ p : Fin 8, p.val < 3 ∨ 6 ≤ p.val → ServesKernel p (initMmu.kpdr p) := by decide
  have stack : initMmu.updr 6 &&& 0xfff8 = kernelPdr 6 &&& 0xfff8 := by decide
  have io : initMmu.updr 7 &&& 0xfff8 = kernelPdr 7 &&& 0xfff8 := by decide
  refine ⟨pages, stack, io.trans (if_pos ?_).symm⟩
  simp [TCB.hasIo, TCB.operprv, fakeproc]

/-- From boot on, tasks without OPERPRV leave the kernel its pages exactly when their
calls of protmem are about private pages or give write access. -/
theorem kernel_kept_iff (entry : ADDRESS) (ops : List CallOp)
    (inScope : Meets CallOp.step (fun s op => op.InScope s) (bootRun entry) ops) :
    KernelKept (bootRun entry).kernel ∧
      (Steps CallOp.step (fun _ _ s' => KernelKept s'.kernel) (bootRun entry) ops ↔
        Meets CallOp.step (fun s op => op.Harmless s) (bootRun entry) ops) := by
  refine ⟨(boot_kernelSound entry).kept, ?_⟩
  refine steps_iff_meets (fun s => ∃ rs, KernelSound s.kernel rs) ?_ ?_
    ⟨[], boot_kernelSound entry⟩ ops inScope
  · rintro s op s' ⟨rs, sound⟩ inScope harmless stepped
    obtain ⟨rs', sound'⟩ := sound.step op inScope harmless stepped
    exact ⟨sound'.kept, rs', sound'⟩
  · rintro s op ⟨rs, sound⟩ inScope harms
    exact sound.harmed op inScope harms

/-- INIT creates a small task, which gives up the write access to its own page and
takes it back. -/
theorem kernel_kept_run :
    let ops : List CallOp := [.task (.creprc (fun _ => 0x20) usrTask 0 0), .task (.quantum {}),
      .protmem 0 3 pdrAccRo, .protmem 0 3 pdrAccRw]
    KernelKept (bootRun 0).kernel ∧
      (Steps CallOp.step (fun _ _ s' => KernelKept s'.kernel) (bootRun 0) ops ↔
        Meets CallOp.step (fun s op => op.Harmless s) (bootRun 0) ops) :=
  kernel_kept_iff 0 _ (by decide +kernel)

/-- A small task makes its stack page read-only, for the kernel as well. -/
theorem protmem_takes_stack :
    let ops : List CallOp := [.task (.creprc (fun _ => 0x20) usrTask 0 0), .task (.quantum {}),
      .protmem 0 6 pdrAccRo]
    Meets CallOp.step (fun s op => op.InScope s) (bootRun 0) ops ∧
      ∃ s, exec CallOp.step (bootRun 0) ops = .ok s ∧ ¬ KernelKept s.kernel := by
  intro ops
  have result : succeeds (exec CallOp.step (bootRun 0) ops) (fun s =>
      s.kernel.curtcb = 1 ∧ s.kernel.cur.pid ≠ 0 ∧ s.kernel.cur.mmuState.kpar 7 = 0o7600 ∧
        writable (s.kernel.mmu.kpdr 6) = false) = true := by decide +kernel
  obtain ⟨s, ran, facts⟩ := succeeds_iff.mp result
  obtain ⟨-, nonzero, kpar, readonly⟩ := of_decide_eq_true facts
  refine ⟨by decide +kernel, s, ran, ?_⟩
  rintro ⟨-, kept⟩
  have served := kept ⟨nonzero, kpar⟩ 6 (.inr (by decide))
  cases readonly.symm.trans served.2.1

end Muxx
