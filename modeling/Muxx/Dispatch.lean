import Muxx.Scheduler

/-!
# What dispatching leaves alone

Facts about yield, suspend and quantum expiry that hold in any state of the
queues, sound or not:

* `Throughout`: relations that all parts of a dispatch keep;
* `Moved`: the tasks keep their pids, privileges, memory and page registers;
* `Within`: only tasks that were running or queued can come to run.
-/

namespace Muxx

open Fallible

/-- The relation holds across every part of a dispatch. -/
structure Throughout (R : Kernel → Kernel → Prop) : Prop where
  refl : ∀ k, R k k
  trans : ∀ {k k₁ k'}, R k k₁ → R k₁ k' → R k k'
  queues : ∀ {k k'}, OnlyQueues k k' → R k k'
  setpl : ∀ k pl, R k (k.setpl pl)
  status : ∀ k i status, R k (k.modify i fun tcb => { tcb with status := status })
  copytrapfp : ∀ k fp, R k (copytrapfp k fp)
  copyMMUstate : ∀ k, R k (copyMMUstate k)
  schedule : ∀ {k k'}, schedule k = .ok k' → R k k'

section Throughout
variable {R : Kernel → Kernel → Prop} {k k' : Kernel} {fp : FRAME}

theorem Throughout.svcYield (h : Throughout R) (called : svcYield k fp = .ok k') : R k k' := by
  obtain ⟨k₁, added, scheduled⟩ := bind_ok.mp called
  have marked := h.trans (h.setpl k 7) (h.status k.setpl7 k.curtcb .ready)
  have queued := h.trans marked (h.queues (addReady_only added))
  have saved := h.trans (h.copytrapfp k₁ fp) (h.copyMMUstate (Muxx.copytrapfp k₁ fp))
  exact h.trans queued (h.trans saved (h.schedule scheduled))

theorem Throughout.checkQuantums (h : Throughout R) (called : checkQuantums k fp = .ok k') :
    R k k' := by
  unfold Muxx.checkQuantums at called
  split at called
  · obtain ⟨k₁, added, scheduled⟩ := bind_ok.mp called
    have saved := h.trans (h.setpl k 7) (h.copytrapfp k.setpl7 fp)
    have marked := h.trans saved (h.status (Muxx.copytrapfp k.setpl7 fp) k.curtcb .ready)
    exact h.trans marked (h.trans (h.queues (addReady_only added)) (h.schedule scheduled))
  · cases called
    exact h.refl k

theorem Throughout.svcSuspend (h : Throughout R) {task : Option (Fin maxTasks)} {rc : Option Int}
    (called : svcSuspend k fp task = .ok (rc, k')) : R k k' := by
  unfold Muxx.svcSuspend at called
  dsimp only at called
  split at called
  · obtain ⟨k₁, removed, rest⟩ := bind_ok.mp called
    obtain ⟨k₂, added, rest⟩ := bind_ok.mp rest
    have without := h.trans (h.setpl k 7) (h.queues (removeReady_only removed))
    have marked := h.trans without (h.status k₁ (suspendTarget k task) .susp)
    have queued := h.trans marked (h.queues (addSusp_only added))
    split at rest
    · obtain ⟨k₃, scheduled, ret⟩ := bind_ok.mp rest
      cases ret
      have saved := h.trans (h.copytrapfp k₂ fp) (h.copyMMUstate (Muxx.copytrapfp k₂ fp))
      exact h.trans queued (h.trans saved (h.schedule scheduled))
    · cases rest
      exact h.trans queued (h.setpl k₂ k.ipl)
  · cases called
    exact h.refl k

end Throughout

/-- The tasks, their privileges and their memory stay. So do their saved page
registers, if those of the running task are the ones in use. -/
structure Moved (k k' : Kernel) : Prop where
  pid : ∀ i, (k'.tct i).pid = (k.tct i).pid
  privileges : ∀ i, (k'.tct i).privileges = (k.tct i).privileges
  topspid : k'.topspid = k.topspid
  topupid : k'.topupid = k.topupid
  mmcbt : k'.mmcbt = k.mmcbt
  mmu : k.mmu = k.cur.mmuState →
    (∀ i, (k'.tct i).mmuState = (k.tct i).mmuState) ∧ k'.mmu = k'.cur.mmuState

section Moves
variable {k k' k₁ k₂ : Kernel} {i : Fin maxTasks} {fp : FRAME}

theorem Moved.refl (k : Kernel) : Moved k k :=
  ⟨fun _ => rfl, fun _ => rfl, rfl, rfl, rfl, fun h => ⟨fun _ => rfl, h⟩⟩

theorem Moved.trans (h : Moved k k₁) (h' : Moved k₁ k₂) : Moved k k₂ where
  pid := fun i => (h'.pid i).trans (h.pid i)
  privileges := fun i => (h'.privileges i).trans (h.privileges i)
  topspid := h'.topspid.trans h.topspid
  topupid := h'.topupid.trans h.topupid
  mmcbt := h'.mmcbt.trans h.mmcbt
  mmu := fun h₀ =>
    have first := h.mmu h₀
    have second := h'.mmu first.2
    ⟨fun i => (second.1 i).trans (first.1 i), second.2⟩

theorem Moved.pids (h : Moved k k') (pids : Pids k) : Pids k' :=
  pids.congr h.pid h.topspid h.topupid

theorem OnlyQueues.moved (h : OnlyQueues k k') : Moved k k' := by
  have mmuState (i : Fin maxTasks) : (k'.tct i).mmuState = (k.tct i).mmuState :=
    show (k'.tct i).unlinked.mmuState = (k.tct i).unlinked.mmuState by rw [h.tasks]
  refine ⟨fun i => ?_, fun i => ?_, by rw [h.only], by rw [h.only], by rw [h.only], fun same => ?_⟩
  · show (k'.tct i).unlinked.pid = (k.tct i).unlinked.pid
    rw [h.tasks]
  · show (k'.tct i).unlinked.privileges = (k.tct i).unlinked.privileges
    rw [h.tasks]
  · refine ⟨mmuState, ?_⟩
    have mmu : k'.mmu = k.mmu := by rw [h.only]
    rw [mmu, same, Kernel.cur, Kernel.cur, mmuState, h.curtcb]

/-- A change to one task's status or registers. -/
theorem moved_modify (k : Kernel) (i : Fin maxTasks) {f : TCB maxTasks → TCB maxTasks}
    (pid : (f (k.tct i)).pid = (k.tct i).pid)
    (privileges : (f (k.tct i)).privileges = (k.tct i).privileges)
    (mmuState : k.mmu = k.cur.mmuState → (f (k.tct i)).mmuState = (k.tct i).mmuState) :
    Moved k (k.modify i f) := by
  have field {β : Type} (g : TCB maxTasks → β) (same : g (f (k.tct i)) = g (k.tct i))
      (j : Fin maxTasks) : g ((k.modify i f).tct j) = g (k.tct j) := by
    by_cases hj : j = i
    · subst hj; exact (congrArg g (k.setTcb_self ..)).trans same
    · exact congrArg g (k.setTcb_ne _ hj)
  refine ⟨field TCB.pid pid, field TCB.privileges privileges, rfl, rfl, rfl, fun same => ?_⟩
  have kept := field TCB.mmuState (mmuState same)
  exact ⟨kept, same.trans (kept k.curtcb).symm⟩

theorem setpl_moved (k : Kernel) (pl : Nat) : Moved k (k.setpl pl) :=
  ⟨fun _ => rfl, fun _ => rfl, rfl, rfl, rfl, fun h => ⟨fun _ => rfl, h⟩⟩

theorem copytrapfp_moved (k : Kernel) (fp : FRAME) : Moved k (copytrapfp k fp) :=
  moved_modify k k.curtcb rfl rfl fun _ => rfl

theorem copyMMUstate_moved (k : Kernel) : Moved k (copyMMUstate k) :=
  moved_modify k k.curtcb rfl rfl fun same => same

theorem schedule_moved (called : schedule k = .ok k') : Moved k k' := by
  obtain ⟨⟨task, tct, readyq⟩, got, ret⟩ := bind_ok.mp called
  have got : qGetTask k.tct k.readyq = .ok (task, tct, readyq) := got
  have field {β : Type} (g : TCB maxTasks → β) (unlinked : ∀ t, g t.unlinked = g t)
      (status : ∀ t, g { t with status := .run } = g t) (j : Fin maxTasks) :
      g (Function.update tct task { tct task with status := .run } j) = g (k.tct j) := by
    have same : g (tct j) = g (k.tct j) := by
      rw [← unlinked, qGetTask_unlinked got, unlinked]
    by_cases hj : j = task
    · subst hj; rw [Function.update_self, status, same]
    · rw [Function.update_of_ne hj, same]
  cases ret
  refine ⟨field TCB.pid (fun _ => rfl) fun _ => rfl,
    field TCB.privileges (fun _ => rfl) fun _ => rfl, rfl, rfl, rfl, fun _ => ⟨?_, ?_⟩⟩
  · exact field TCB.mmuState (fun _ => rfl) fun _ => rfl
  · show (tct task).mmuState = (Function.update tct task _ task).mmuState
    rw [Function.update_self]

theorem moved_throughout : Throughout Moved where
  refl := .refl
  trans := .trans
  queues := OnlyQueues.moved
  setpl := setpl_moved
  status k i _ := moved_modify k i rfl rfl fun _ => rfl
  copytrapfp := copytrapfp_moved
  copyMMUstate := copyMMUstate_moved
  schedule := schedule_moved

theorem svcYield_moved (called : svcYield k fp = .ok k') : Moved k k' :=
  moved_throughout.svcYield called

theorem checkQuantums_moved (called : checkQuantums k fp = .ok k') : Moved k k' :=
  moved_throughout.checkQuantums called

theorem svcSuspend_moved {task : Option (Fin maxTasks)} {rc : Option Int}
    (called : svcSuspend k fp task = .ok (rc, k')) : Moved k k' :=
  moved_throughout.svcSuspend called

end Moves

/-! ## Which tasks can run -/

/-- The running task and all tasks the queues can lead to satisfy `P`. -/
structure Within (P : Fin maxTasks → Prop) (k : Kernel) : Prop where
  cur : P k.curtcb
  links : LinksIn P k.tct
  ready : EndsIn P k.readyq
  susp : EndsIn P k.suspq

section Within
variable {P : Fin maxTasks → Prop} {k k' : Kernel} {i : Fin maxTasks} {fp : FRAME}

theorem Within.modify (h : Within P k) {f : TCB maxTasks → TCB maxTasks}
    (next : (f (k.tct i)).nextInQueue = (k.tct i).nextInQueue)
    (prev : (f (k.tct i)).prevInQueue = (k.tct i).prevInQueue) : Within P (k.modify i f) := by
  refine ⟨h.cur, fun j t link => h.links j t ?_, h.ready, h.susp⟩
  by_cases hj : j = i
  · subst hj
    have new := k.setTcb_self j (f (k.tct j))
    exact link.imp (fun hn => next.symm.trans ((congrArg TCB.nextInQueue new).symm.trans hn))
      (fun hp => prev.symm.trans ((congrArg TCB.prevInQueue new).symm.trans hp))
  · have same := k.setTcb_ne (f (k.tct i)) hj
    exact link.imp (fun hn => (congrArg TCB.nextInQueue same).symm.trans hn)
      (fun hp => (congrArg TCB.prevInQueue same).symm.trans hp)

theorem Within.setpl (h : Within P k) (pl : Nat) : Within P (k.setpl pl) :=
  ⟨h.cur, h.links, h.ready, h.susp⟩

theorem Within.copies (h : Within P k) (fp : FRAME) :
    Within P (copyMMUstate (copytrapfp k fp)) :=
  (h.modify rfl rfl).modify rfl rfl

theorem Within.addReady (h : Within P k) (given : P i) (called : k.addReady i = .ok k') :
    Within P k' := by
  obtain ⟨⟨tct, readyq⟩, added, ret⟩ := bind_ok.mp called
  obtain ⟨links, ready⟩ := qAddTask_within h.links h.ready given added
  cases ret
  exact ⟨h.cur, links, ready, h.susp⟩

theorem Within.addSusp (h : Within P k) (given : P i) (called : k.addSusp i = .ok k') :
    Within P k' := by
  obtain ⟨⟨tct, suspq⟩, added, ret⟩ := bind_ok.mp called
  obtain ⟨links, susp⟩ := qAddTask_within h.links h.susp given added
  cases ret
  exact ⟨h.cur, links, h.ready, susp⟩

theorem Within.removeReady (h : Within P k) (called : k.removeReady i = .ok k') :
    Within P k' := by
  obtain ⟨⟨found, tct, readyq⟩, removed, ret⟩ := bind_ok.mp called
  obtain ⟨links, ready⟩ := qRemoveTask_within h.links h.ready removed
  cases ret
  exact ⟨h.cur, links, ready, h.susp⟩

theorem Within.schedule (h : Within P k) (called : schedule k = .ok k') : Within P k' := by
  obtain ⟨⟨task, tct, readyq⟩, got, ret⟩ := bind_ok.mp called
  obtain ⟨given, links, ready⟩ := qGetTask_within h.links h.ready got
  have before : Within P { k.setpl7 with tct := tct, readyq := readyq, curtcb := task } :=
    ⟨given, links, ready, h.susp⟩
  cases ret
  have after := before.modify (f := fun tcb => { tcb with status := .run }) (i := task) rfl rfl
  exact ⟨given, after.links, ready, h.susp⟩

theorem Within.svcYield (h : Within P k) (called : svcYield k fp = .ok k') : Within P k' := by
  obtain ⟨k₁, added, scheduled⟩ := bind_ok.mp called
  have marked := (h.setpl 7).modify (f := fun tcb => { tcb with status := .ready })
    (i := k.curtcb) rfl rfl
  exact ((marked.addReady h.cur added).copies fp).schedule scheduled

theorem Within.checkQuantums (h : Within P k) (called : checkQuantums k fp = .ok k') :
    Within P k' := by
  unfold Muxx.checkQuantums at called
  split at called
  · obtain ⟨k₁, added, scheduled⟩ := bind_ok.mp called
    have saved : Within P (copytrapfp k.setpl7 fp) := (h.setpl 7).modify rfl rfl
    have marked := saved.modify (f := fun tcb => { tcb with status := .ready })
      (i := k.curtcb) rfl rfl
    exact (marked.addReady h.cur added).schedule scheduled
  · cases called
    exact h

theorem Within.svcSuspend (h : Within P k) {task : Option (Fin maxTasks)}
    (given : P (suspendTarget k task)) {rc : Option Int}
    (called : svcSuspend k fp task = .ok (rc, k')) : Within P k' := by
  unfold Muxx.svcSuspend at called
  dsimp only at called
  split at called
  · obtain ⟨k₁, removed, rest⟩ := bind_ok.mp called
    obtain ⟨k₂, added, rest⟩ := bind_ok.mp rest
    have marked := ((h.setpl 7).removeReady removed).modify
      (f := fun tcb => { tcb with status := .susp }) (i := suspendTarget k task) rfl rfl
    have queued := marked.addSusp given added
    split at rest
    · obtain ⟨k₃, scheduled, ret⟩ := bind_ok.mp rest
      cases ret
      exact (queued.copies fp).schedule scheduled
    · cases rest
      exact queued.setpl k.ipl
  · cases called
    exact h

/-- A free entry is filled: more tasks may be met, none fewer. -/
theorem Within.made {tcb : TCB maxTasks} {P' : Fin maxTasks → Prop} (h : Within P k)
    (made : Made k i tcb k') (more : ∀ j, P j → P' j) : Within P' k' := by
  have filled : Within P (k.modify i fun _ => tcb) := h.modify made.next made.prev
  have tct : k'.tct = (k.modify i fun _ => tcb).tct := by rw [made.only]; rfl
  have curtcb : k'.curtcb = k.curtcb := by rw [made.only]
  have readyq : k'.readyq = k.readyq := by rw [made.only]
  have suspq : k'.suspq = k.suspq := by rw [made.only]
  refine ⟨?_, ?_, ?_, ?_⟩
  · rw [curtcb]; exact more _ h.cur
  · rw [tct]; exact fun j t link => more t (filled.links j t link)
  · rw [readyq]; exact fun t ht => more t (h.ready t ht)
  · rw [suspq]; exact fun t ht => more t (h.susp t ht)

end Within

end Muxx
