import Muxx.Protection

/-!
# Page registers

The descriptors of a task are in its TCB, and those of the running task in the
registers too. A yield copies the registers to the TCB of the task that yields
and loads those of the next:

* `svcYield_runsWith`: so every task goes on with the registers it had;
* `others_keep_iff`: muxx_svc_protmem writes the registers whatever task it is
  about, and leaves those of the caller alone only when they are the same.
-/

namespace Muxx

open Run Fallible

/-- The registers that a task runs with, now or when it is next chosen. -/
def Kernel.runsWith (k : Kernel) (task : Fin maxTasks) : MMUSTATE :=
  if task = k.curtcb then k.mmu else (k.tct task).mmuState

section RunsWith
variable {k k' : Kernel} {fp : FRAME}

theorem runsWith_cur (k : Kernel) : k.runsWith k.curtcb = k.mmu := if_pos rfl

/-- With the registers saved, the table has those of all tasks. -/
theorem runsWith_saved (saved : k.mmu = k.cur.mmuState) (task : Fin maxTasks) :
    k.runsWith task = (k.tct task).mmuState := by
  unfold Kernel.runsWith
  split
  case isTrue cur => rw [saved, cur]; rfl
  case isFalse => rfl

/-- A step that leaves the running task and all registers alone. -/
theorem runsWith_congr (curtcb : k'.curtcb = k.curtcb) (mmu : k'.mmu = k.mmu)
    (mmuState : ∀ i, (k'.tct i).mmuState = (k.tct i).mmuState) : k'.runsWith = k.runsWith := by
  funext task
  unfold Kernel.runsWith
  rw [curtcb, mmu, mmuState]

theorem runsWith_queues (only : OnlyQueues k k') : k'.runsWith = k.runsWith := by
  apply runsWith_congr only.curtcb
  · rw [only.only]
  · intro i
    show (k'.tct i).unlinked.mmuState = (k.tct i).unlinked.mmuState
    rw [only.tasks]

/-- A change of the running task's TCB that is not about the registers. -/
theorem runsWith_modify (k : Kernel) (i : Fin maxTasks) {f : TCB maxTasks → TCB maxTasks}
    (same : (f (k.tct i)).mmuState = (k.tct i).mmuState) :
    (k.modify i f).runsWith = k.runsWith := by
  apply runsWith_congr
  · rfl
  · rfl
  · intro j
    by_cases here : j = i
    · subst here
      exact (congrArg TCB.mmuState (k.setTcb_self ..)).trans same
    · exact congrArg TCB.mmuState (k.setTcb_ne _ here)

theorem copyMMUstate_saved (k : Kernel) : (copyMMUstate k).mmu = (copyMMUstate k).cur.mmuState :=
  (congrArg TCB.mmuState (k.setTcb_self k.curtcb { k.cur with mmuState := k.mmu })).symm

theorem copyMMUstate_runsWith (k : Kernel) : (copyMMUstate k).runsWith = k.runsWith := by
  funext task
  rw [runsWith_saved (copyMMUstate_saved k), Kernel.runsWith]
  split
  case isTrue cur =>
    rw [cur]
    exact congrArg TCB.mmuState (k.setTcb_self ..)
  case isFalse other => exact congrArg TCB.mmuState (k.setTcb_ne _ other)

theorem schedule_runsWith (saved : k.mmu = k.cur.mmuState) (called : schedule k = .ok k') :
    k'.runsWith = k.runsWith := by
  obtain ⟨mmuState, mmu⟩ := (schedule_moved called).mmu saved
  funext task
  rw [runsWith_saved mmu, runsWith_saved saved, mmuState]

theorem svcYield_runsWith (called : svcYield k fp = .ok k') : k'.runsWith = k.runsWith := by
  obtain ⟨k₁, added, scheduled⟩ := bind_ok.mp called
  have marked : (k.setpl7.modify k.curtcb ({ · with status := .ready })).runsWith = k.runsWith :=
    runsWith_modify k.setpl7 k.curtcb rfl
  have queued := runsWith_queues (addReady_only added)
  have trapped : (copytrapfp k₁ fp).runsWith = k₁.runsWith := runsWith_modify k₁ k₁.curtcb rfl
  calc k'.runsWith
    _ = (copyMMUstate (copytrapfp k₁ fp)).runsWith :=
        schedule_runsWith (copyMMUstate_saved _) scheduled
    _ = (copytrapfp k₁ fp).runsWith := copyMMUstate_runsWith _
    _ = k₁.runsWith := trapped
    _ = k.runsWith := queued.trans marked

/-- After any number of yields. -/
theorem yields_runsWith (h : Reachable svcYield (fun _ _ => True) k k') :
    k'.runsWith = k.runsWith := by
  refine Reachable.invariant (fun k' => k'.runsWith = k.runsWith) rfl ?_ h
  intro k₁ fp k₂ same _ called
  exact (svcYield_runsWith called).trans same

end RunsWith

/-! ## protmem for another task -/

/-- What a call for `page` of the task `tcb` should leave alone, now and after
any number of yields. -/
structure KeepsOthers (k k' : Kernel) (tcb : Fin maxTasks) (page : Fin 8) : Prop where
  registers : k'.mmu.updr = k.mmu.updr ∧ k'.mmu.kpdr = k.mmu.kpdr
  saved : (k'.tct k.curtcb).mmuState = (k.tct k.curtcb).mmuState
  only : ∃ pdr, k'.tct = Function.update k.tct tcb ((k.tct tcb).setPdr page pdr)
  later : ∀ k'', Reachable svcYield (fun _ _ => True) k' k'' → k''.curtcb ≠ tcb →
    k''.mmu = k.runsWith k''.curtcb

/-- The registers have the descriptor that the task is to get. -/
def InUse (k : Kernel) (tcb : Fin maxTasks) (page : Fin 8) (prot : WORD) : Prop :=
  k.mmu.updr page = setAccess ((k.tct tcb).mmuState.updr page) prot ∧
    k.mmu.kpdr page = setAccess ((k.tct tcb).mmuState.updr page) prot

instance InUse.decidable (k : Kernel) (tcb : Fin maxTasks) (page : Fin 8) (prot : WORD) :
    Decidable (InUse k tcb page prot) :=
  inferInstanceAs (Decidable (_ ∧ _))

section Named
variable {k : Kernel} {pid page prot : WORD} {tcb : Fin maxTasks}

theorem svcProtmem_foreign (named : findtcb k pid = some tcb) (other : tcb ≠ k.curtcb)
    (granted : (svcProtmem k pid page prot).1 = eok) :
    let pdr := setAccess ((k.tct tcb).mmuState.updr (pageIndex page)) prot
    (svcProtmem k pid page prot).2 =
      { k.modify tcb fun t => t.setPdr (pageIndex page) pdr with
        mmu := k.mmu.setPdr (pageIndex page) pdr } := by
  have passed : protmemCheck k pid page prot = eok := by
    by_contra refused
    rw [svcProtmem, if_pos refused] at granted
    exact refused granted
  have nonzero : pid ≠ 0 := by
    rintro rfl
    exact other (Option.some.inj (named.symm.trans (if_pos rfl)))
  simp only [svcProtmem, passed, ne_eq, not_true_eq_false, if_false, if_neg nonzero, named]
  rfl

theorem setPdr_self {m : MMUSTATE} {page : Fin 8} {pdr : WORD} :
    m.setPdr page pdr = m ↔ m.updr page = pdr ∧ m.kpdr page = pdr := by
  constructor
  · intro same
    have updr := congrFun (congrArg MMUSTATE.updr same) page
    have kpdr := congrFun (congrArg MMUSTATE.kpdr same) page
    simp only [MMUSTATE.setPdr, Function.update_self] at updr kpdr
    exact ⟨updr.symm, kpdr.symm⟩
  · rintro ⟨rfl, kpdr⟩
    rw [MMUSTATE.setPdr, ← kpdr, Function.update_eq_self, kpdr, Function.update_eq_self]

/-- The registers of the caller get the descriptor. -/
theorem keepsOthers_inUse (named : findtcb k pid = some tcb) (other : tcb ≠ k.curtcb)
    (granted : (svcProtmem k pid page prot).1 = eok)
    (h : KeepsOthers k (svcProtmem k pid page prot).2 tcb (pageIndex page)) :
    InUse k tcb (pageIndex page) prot := by
  rw [svcProtmem_foreign named other granted] at h
  have updr := congrFun h.registers.1 (pageIndex page)
  have kpdr := congrFun h.registers.2 (pageIndex page)
  simp only [MMUSTATE.setPdr, Function.update_self] at updr kpdr
  exact ⟨updr.symm, kpdr.symm⟩

/-- A call for another task leaves all others alone exactly when the caller runs
with the new descriptor already. -/
theorem others_keep_iff (named : findtcb k pid = some tcb) (other : tcb ≠ k.curtcb)
    (granted : (svcProtmem k pid page prot).1 = eok) :
    KeepsOthers k (svcProtmem k pid page prot).2 tcb (pageIndex page) ↔
      InUse k tcb (pageIndex page) prot := by
  constructor
  · exact keepsOthers_inUse named other granted
  · intro same
    rw [svcProtmem_foreign named other granted, setPdr_self.mpr same]
    refine ⟨⟨rfl, rfl⟩, ?_, ⟨_, rfl⟩, ?_⟩
    · exact congrArg TCB.mmuState (k.setTcb_ne _ other.symm)
    · intro k'' yields notNamed
      have kept := congrFun (yields_runsWith yields) k''.curtcb
      rw [runsWith_cur] at kept
      rw [kept, Kernel.runsWith, Kernel.runsWith]
      exact if_congr Iff.rfl rfl (congrArg TCB.mmuState (k.setTcb_ne _ notNamed))

end Named

/-- INIT has created a small task of pid 0101. -/
def initAndTask : Except Fault TaskRun :=
  exec CallOp.step (bootRun 0) [.task (.creprc (fun _ => 0x20) usrTask 0 0)]

/-- INIT may close page 3 of the task. -/
theorem initAndTask_named : ∃ s, initAndTask = .ok s ∧ findtcb s.kernel 0o101 = some 1 ∧
    (1 : Fin maxTasks) ≠ s.kernel.curtcb ∧ (svcProtmem s.kernel 0o101 3 pdrAccNa).1 = eok := by
  have result : succeeds initAndTask (fun s => findtcb s.kernel 0o101 = some 1 ∧
      (1 : Fin maxTasks) ≠ s.kernel.curtcb ∧
        (svcProtmem s.kernel 0o101 3 pdrAccNa).1 = eok) = true := by decide +kernel
  obtain ⟨s, ran, facts⟩ := succeeds_iff.mp result
  exact ⟨s, ran, of_decide_eq_true facts⟩

theorem others_keep_named : ∃ s, initAndTask = .ok s ∧
    (KeepsOthers s.kernel (svcProtmem s.kernel 0o101 3 pdrAccNa).2 1 3 ↔
      InUse s.kernel 1 3 pdrAccNa) ∧ ¬ InUse s.kernel 1 3 pdrAccNa := by
  have result : succeeds initAndTask (fun s => ¬ InUse s.kernel 1 3 pdrAccNa) = true := by
    decide +kernel
  obtain ⟨s, ran, named, other, granted⟩ := initAndTask_named
  obtain ⟨s', ran', unused⟩ := succeeds_iff.mp result
  obtain rfl : s = s' := by simpa using ran.symm.trans ran'
  exact ⟨s, ran, others_keep_iff named other granted, of_decide_eq_true unused⟩

/-- INIT loses access to its own page 3, and still does after two yields. -/
theorem others_not_kept : ∃ s k', initAndTask = .ok s ∧ findtcb s.kernel 0o101 = some 1 ∧
    (svcProtmem s.kernel 0o101 3 pdrAccNa).1 = eok ∧
    ¬ KeepsOthers s.kernel (svcProtmem s.kernel 0o101 3 pdrAccNa).2 1 3 ∧
    exec svcYield (svcProtmem s.kernel 0o101 3 pdrAccNa).2 [{}, {}] = .ok k' ∧
    k'.curtcb = s.kernel.curtcb ∧ k'.mmu.updr 3 ≠ s.kernel.mmu.updr 3 := by
  obtain ⟨s, ran, named, other, granted⟩ := initAndTask_named
  have result : succeeds (do
      let s ← initAndTask
      let k' ← exec svcYield (svcProtmem s.kernel 0o101 3 pdrAccNa).2 [{}, {}]
      return (s.kernel, k')) (fun (k, k') =>
        ¬ InUse k 1 3 pdrAccNa ∧ k'.curtcb = k.curtcb ∧ k'.mmu.updr 3 ≠ k.mmu.updr 3) = true := by
    decide +kernel
  obtain ⟨⟨k, k'⟩, both, facts⟩ := succeeds_iff.mp result
  rw [ran] at both
  obtain ⟨s', same, rest⟩ := bind_ok.mp both
  obtain rfl := Except.ok.inj same
  obtain ⟨k₁, yielded, ret⟩ := bind_ok.mp rest
  obtain ⟨rfl, rfl⟩ := Prod.mk.inj (Except.ok.inj ret)
  obtain ⟨notInUse, cur, lost⟩ := of_decide_eq_true facts
  refine ⟨s, k₁, ran, named, granted, ?_, yielded, cur, lost⟩
  intro kept
  exact notInUse (keepsOthers_inUse named other granted kept)

end Muxx
