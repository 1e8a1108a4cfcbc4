import Muxx.Lib.RoundRobin
import Muxx.Creation

/-!
# The scheduler

The kernel's queues against a round robin of tasks:

* `Queued`: both queues hold lists of tasks, in the statuses of the queue they
  are in, and no task is in both;
* `Represents`: in addition one more task is running;
* `addReady_queued`, `schedule_queued` and the like: the queue operations of
  the services;
* `svcYield_rotates`, `checkQuantums_rotates`, `svcSuspend_parks`,
  `svcSuspend_suspends`: the services are the operations of the round robin.
-/

namespace Muxx

open Chain Fallible RoundRobin

/-- `r` waits in the ready queue and `q` in the suspended queue. -/
structure Queued (k : Kernel) (r q : List (Fin maxTasks)) : Prop where
  ready : Holds k.tct k.readyq r
  susp : Holds k.tct k.suspq q
  waiting : ∀ i ∈ r, (k.tct i).status = .init ∨ (k.tct i).status = .ready
  suspended : ∀ i ∈ q, (k.tct i).status = .susp
  apart : ∀ i ∈ r, i ∉ q

structure Represents (k : Kernel) (s : Sched (Fin maxTasks)) : Prop where
  cur : k.curtcb = s.cur
  running : (k.tct s.cur).status = .run
  queued : Queued k s.ready s.susp

/-- A queue operation of the kernel: tasks change in their links alone. -/
structure OnlyQueues (k k' : Kernel) : Prop where
  only : k' = { k with tct := k'.tct, readyq := k'.readyq, suspq := k'.suspq }
  tasks : ∀ i, (k'.tct i).unlinked = (k.tct i).unlinked

section Frames
variable {k k' : Kernel} {i : Fin maxTasks}

theorem OnlyQueues.status (h : OnlyQueues k k') (i : Fin maxTasks) :
    (k'.tct i).status = (k.tct i).status :=
  show (k'.tct i).unlinked.status = (k.tct i).unlinked.status by rw [h.tasks]

theorem OnlyQueues.curtcb (h : OnlyQueues k k') : k'.curtcb = k.curtcb := by rw [h.only]

theorem addReady_only (called : k.addReady i = .ok k') : OnlyQueues k k' := by
  obtain ⟨⟨tct, readyq⟩, added, ret⟩ := bind_ok.mp called
  cases ret
  exact ⟨rfl, qAddTask_unlinked added⟩

theorem addSusp_only (called : k.addSusp i = .ok k') : OnlyQueues k k' := by
  obtain ⟨⟨tct, suspq⟩, added, ret⟩ := bind_ok.mp called
  cases ret
  exact ⟨rfl, qAddTask_unlinked added⟩

theorem removeReady_only (called : k.removeReady i = .ok k') : OnlyQueues k k' := by
  obtain ⟨⟨found, tct, readyq⟩, removed, ret⟩ := bind_ok.mp called
  cases ret
  exact ⟨rfl, qRemoveTask_unlinked removed⟩

end Frames

section Queues
variable {k k' : Kernel} {r q : List (Fin maxTasks)} {i : Fin maxTasks}

theorem Queued.addReady (h : Queued k r q) (fresh : i ∉ r) (awake : i ∉ q)
    (status : (k.tct i).status = .init ∨ (k.tct i).status = .ready)
    (called : k.addReady i = .ok k') : Queued k' (r ++ [i]) q := by
  have only := addReady_only called
  obtain ⟨⟨tct, readyq⟩, added, ret⟩ := bind_ok.mp called
  obtain ⟨heap', queue', added', holds⟩ := qAddTask_holds h.ready fresh
  rw [added] at added'
  cases added'
  cases ret
  have links (j : Fin maxTasks) (hj : j ∈ q) :=
    qAddTask_links h.ready added (fun hr => h.apart j hr hj) (fun he : j = i => awake (he ▸ hj))
  refine ⟨holds, h.susp.frame (fun j hj => (links j hj).1) (fun j hj => (links j hj).2), ?_, ?_, ?_⟩
  · intro j hj
    rw [only.status]
    rcases List.mem_append.mp hj with hj | hj
    · exact h.waiting j hj
    · rw [List.mem_singleton.mp hj]; exact status
  · intro j hj
    rw [only.status]
    exact h.suspended j hj
  · intro j hj
    rcases List.mem_append.mp hj with hj | hj
    · exact h.apart j hj
    · rw [List.mem_singleton.mp hj]; exact awake

theorem Queued.addSusp (h : Queued k r q) (idle : i ∉ r) (fresh : i ∉ q)
    (status : (k.tct i).status = .susp) (called : k.addSusp i = .ok k') :
    Queued k' r (q ++ [i]) := by
  have only := addSusp_only called
  obtain ⟨⟨tct, suspq⟩, added, ret⟩ := bind_ok.mp called
  obtain ⟨heap', queue', added', holds⟩ := qAddTask_holds h.susp fresh
  rw [added] at added'
  cases added'
  cases ret
  have links (j : Fin maxTasks) (hj : j ∈ r) :=
    qAddTask_links h.susp added (h.apart j hj) (fun he : j = i => idle (he ▸ hj))
  refine ⟨h.ready.frame (fun j hj => (links j hj).1) (fun j hj => (links j hj).2), holds, ?_, ?_, ?_⟩
  · intro j hj
    rw [only.status]
    exact h.waiting j hj
  · intro j hj
    rw [only.status]
    rcases List.mem_append.mp hj with hj | hj
    · exact h.suspended j hj
    · rw [List.mem_singleton.mp hj]; exact status
  · intro j hj hq
    rcases List.mem_append.mp hq with hq | hq
    · exact h.apart j hj hq
    · exact idle (List.mem_singleton.mp hq ▸ hj)

/-- A task that is removed must be the oldest of the line, if it is in it. -/
theorem Queued.removeReady (h : Queued k r q) (oldest : i ∈ r → r.head? = some i)
    (called : k.removeReady i = .ok k') : Queued k' (r.erase i) q := by
  have only := removeReady_only called
  obtain ⟨⟨found, tct, readyq⟩, removed, ret⟩ := bind_ok.mp called
  have links (j : Fin maxTasks) (hj : j ∈ q) :=
    qRemoveTask_links h.ready removed (fun hr => h.apart j hr hj)
  have holds : Holds tct readyq (r.erase i) := by
    by_cases mem : i ∈ r
    · obtain ⟨l, rfl⟩ := List.head?_eq_some_iff.mp (oldest mem)
      obtain ⟨heap', queue', removed', holds⟩ := qRemoveTask_oldest h.ready
      rw [removed] at removed'
      cases removed'
      simpa using holds
    · rw [qRemoveTask_absent h.ready mem] at removed
      cases removed
      rw [List.erase_of_not_mem mem]
      exact h.ready
  cases ret
  refine ⟨holds, h.susp.frame (fun j hj => (links j hj).1) (fun j hj => (links j hj).2), ?_, ?_, ?_⟩
  · intro j hj
    rw [only.status]
    exact h.waiting j (List.mem_of_mem_erase hj)
  · intro j hj
    rw [only.status]
    exact h.suspended j hj
  · exact fun j hj => h.apart j (List.mem_of_mem_erase hj)

/-- A change to one task that keeps its links. -/
theorem Holds.modify {queue : TQUEUE maxTasks} (h : Holds k.tct queue r)
    {f : TCB maxTasks → TCB maxTasks}
    (next : (f (k.tct i)).nextInQueue = (k.tct i).nextInQueue)
    (prev : (f (k.tct i)).prevInQueue = (k.tct i).prevInQueue) :
    Holds (k.modify i f).tct queue r := by
  refine h.frame (fun j _ => ?_) (fun j _ => ?_)
  · by_cases hj : j = i
    · subst hj; exact (congrArg TCB.nextInQueue (k.setTcb_self ..)).trans next
    · exact congrArg TCB.nextInQueue (k.setTcb_ne _ hj)
  · by_cases hj : j = i
    · subst hj; exact (congrArg TCB.prevInQueue (k.setTcb_self ..)).trans prev
    · exact congrArg TCB.prevInQueue (k.setTcb_ne _ hj)

/-- A change to one task that keeps its links, and its status if it is queued. -/
theorem Queued.modify (h : Queued k r q) {f : TCB maxTasks → TCB maxTasks}
    (next : (f (k.tct i)).nextInQueue = (k.tct i).nextInQueue)
    (prev : (f (k.tct i)).prevInQueue = (k.tct i).prevInQueue)
    (status : i ∈ r ∨ i ∈ q → (f (k.tct i)).status = (k.tct i).status) :
    Queued (k.modify i f) r q := by
  have same_status (j : Fin maxTasks) (hj : j ∈ r ∨ j ∈ q) :
      ((k.modify i f).tct j).status = (k.tct j).status := by
    by_cases he : j = i
    · subst he; exact (congrArg TCB.status (k.setTcb_self ..)).trans (status hj)
    · exact congrArg TCB.status (k.setTcb_ne _ he)
  refine ⟨h.ready.modify next prev, h.susp.modify next prev, ?_, ?_, h.apart⟩
  · intro j hj
    rw [same_status j (.inl hj)]
    exact h.waiting j hj
  · intro j hj
    rw [same_status j (.inr hj)]
    exact h.suspended j hj

theorem Queued.setpl7 (h : Queued k r q) : Queued k.setpl7 r q :=
  ⟨h.ready, h.susp, h.waiting, h.suspended, h.apart⟩

theorem Queued.copies (h : Queued k r q) (fp : FRAME) :
    Queued (copyMMUstate (copytrapfp k fp)) r q :=
  (h.modify rfl rfl fun _ => rfl).modify rfl rfl fun _ => rfl

/-- The oldest task of the line becomes the running one. -/
theorem Queued.schedule {t : Fin maxTasks} (h : Queued k (t :: r) q)
    (called : schedule k = .ok k') :
    k'.curtcb = t ∧ (k'.tct t).status = .run ∧ Queued k' r q := by
  obtain ⟨⟨task, tct, readyq⟩, got, ret⟩ := bind_ok.mp called
  obtain ⟨heap', queue', got', holds⟩ := qGetTask_holds h.ready
  have got : qGetTask k.tct k.readyq = .ok (task, tct, readyq) := got
  have links (j : Fin maxTasks) (hj : j ∈ q) :=
    qGetTask_links h.ready got (fun hr => h.apart j hr hj)
  have status (j : Fin maxTasks) : (tct j).status = (k.tct j).status :=
    show (tct j).unlinked.status = (k.tct j).unlinked.status by rw [qGetTask_unlinked got]
  rw [got] at got'
  cases got'
  cases ret
  have nodup := List.nodup_cons.mp h.ready.nodup
  have before : Queued { k.setpl7 with tct := tct, readyq := readyq, curtcb := t } r q := by
    refine ⟨holds, h.susp.frame (fun j hj => (links j hj).1) (fun j hj => (links j hj).2), ?_, ?_, ?_⟩
    · intro j hj
      show (tct j).status = _ ∨ (tct j).status = _
      rw [status]
      exact h.waiting j (List.mem_cons_of_mem _ hj)
    · intro j hj
      show (tct j).status = _
      rw [status]
      exact h.suspended j hj
    · exact fun j hj => h.apart j (List.mem_cons_of_mem _ hj)
  refine ⟨rfl, congrArg TCB.status (Kernel.setTcb_self ..), ?_⟩
  have after := before.modify (f := fun tcb => { tcb with status := .run }) (i := t) rfl rfl
    fun mem => absurd mem (not_or.mpr ⟨nodup.1, h.apart t List.mem_cons_self⟩)
  exact ⟨after.ready, after.susp, after.waiting, after.suspended, after.apart⟩

end Queues

/-! ## The services -/

section Services
variable {k k' : Kernel} {s : Sched (Fin maxTasks)} {fp : FRAME}

theorem Represents.not_queued (h : Represents k s) :
    k.curtcb ∉ s.ready ∧ k.curtcb ∉ s.susp := by
  have := (List.nodup_cons.mp s.nodup).1
  rw [h.cur]
  exact not_or.mp (mt List.mem_append.mpr this)

/-- Dispatching from a line that ends with the task that ran before. -/
theorem schedule_rotates (queued : Queued k (s.ready ++ [s.cur]) s.susp)
    (called : schedule k = .ok k') : Represents k' s.rotate := by
  obtain ⟨c, r, q, nodup⟩ := s
  cases r with
  | nil =>
    obtain ⟨cur, running, queued'⟩ := queued.schedule called
    exact ⟨cur, running, queued'⟩
  | cons t r =>
    obtain ⟨cur, running, queued'⟩ := queued.schedule called
    exact ⟨cur, running, queued'⟩

theorem svcYield_rotates (h : Represents k s) (called : svcYield k fp = .ok k') :
    Represents k' s.rotate := by
  obtain ⟨k₁, added, scheduled⟩ := bind_ok.mp called
  obtain ⟨idle, awake⟩ := h.not_queued
  have marked := h.queued.setpl7.modify (f := fun tcb => { tcb with status := .ready })
    (i := k.curtcb) rfl rfl fun mem => absurd mem (not_or.mpr ⟨idle, awake⟩)
  have status : ((k.setpl7.modify k.curtcb
      fun tcb => { tcb with status := .ready }).tct k.curtcb).status = .ready :=
    congrArg TCB.status (Kernel.setTcb_self ..)
  have queued := marked.addReady idle awake (.inr status) added
  rw [h.cur] at queued
  exact schedule_rotates (queued.copies fp) scheduled

theorem checkQuantums_rotates (h : Represents k s) (called : checkQuantums k fp = .ok k') :
    Represents k' s.rotate := by
  unfold checkQuantums at called
  split at called
  · obtain ⟨k₁, added, scheduled⟩ := bind_ok.mp called
    obtain ⟨idle, awake⟩ := h.not_queued
    have out : ¬ (k.curtcb ∈ s.ready ∨ k.curtcb ∈ s.susp) := not_or.mpr ⟨idle, awake⟩
    have saved : Queued (copytrapfp k.setpl7 fp) s.ready s.susp :=
      h.queued.setpl7.modify rfl rfl fun _ => rfl
    have marked := saved.modify (f := fun tcb => { tcb with status := .ready })
      (i := k.curtcb) rfl rfl fun mem => absurd mem out
    have status : (((copytrapfp k.setpl7 fp).modify k.curtcb
        fun tcb => { tcb with status := .ready }).tct k.curtcb).status = .ready :=
      congrArg TCB.status (Kernel.setTcb_self ..)
    have queued := marked.addReady idle awake (.inr status) added
    rw [h.cur] at queued
    exact schedule_rotates queued scheduled
  · rename_i empty
    cases called
    have none_ready : s.ready = [] := by
      rw [h.queued.ready.count] at empty
      exact List.length_eq_zero_iff.mp (by omega)
    obtain ⟨c, r, q, nodup⟩ := s
    cases none_ready
    exact h

/-- The state before a suspended task joins its queue. -/
theorem Queued.marks {r q : List (Fin maxTasks)} {i : Fin maxTasks} (h : Queued k r q)
    (idle : i ∉ r) (awake : i ∉ q)
    (called : (k.modify i fun tcb => { tcb with status := .susp }).addSusp i = .ok k') :
    Queued k' r (q ++ [i]) ∧ k'.curtcb = k.curtcb := by
  have marked := h.modify (f := fun tcb => { tcb with status := .susp }) (i := i) rfl rfl
    fun mem => absurd mem (not_or.mpr ⟨idle, awake⟩)
  exact ⟨marked.addSusp idle awake (congrArg TCB.status (Kernel.setTcb_self ..)) called,
    (addSusp_only called).curtcb⟩

/-- A task that suspends itself gives way to the oldest of the line. -/
theorem svcSuspend_parks (h : Represents k s) {task : Option (Fin maxTasks)}
    (self : suspendTarget k task = k.curtcb) (allowed : maySuspend k (suspendTarget k task) = true)
    {rc : Option Int} (called : svcSuspend k fp task = .ok (rc, k')) : Represents k' s.park := by
  simp only [svcSuspend, self] at allowed called
  rw [if_pos allowed] at called
  obtain ⟨k₁, removed, rest⟩ := bind_ok.mp called
  obtain ⟨k₂, added, rest⟩ := bind_ok.mp rest
  obtain ⟨idle, awake⟩ := h.not_queued
  have without := h.queued.setpl7.removeReady (fun mem => absurd mem idle) removed
  rw [List.erase_of_not_mem idle] at without
  obtain ⟨queued, cur⟩ := without.marks idle awake added
  have cur₁ : k₁.curtcb = k.curtcb := (removeReady_only removed).curtcb
  rw [if_pos (cur.trans cur₁).symm] at rest
  obtain ⟨k₃, scheduled, ret⟩ := bind_ok.mp rest
  cases ret
  have saved := queued.copies fp
  rw [h.cur] at saved
  obtain ⟨c, r, q, nodup⟩ := s
  cases r with
  | nil =>
    have empty := saved.ready.count
    simp [schedule, qGetTask, empty] at scheduled
  | cons t r =>
    obtain ⟨cur', running, queued'⟩ := saved.schedule scheduled
    exact ⟨cur', running, queued'⟩

/-- Suspending another task that is not suspended yet, and is the oldest of
the line if it is in it. -/
theorem svcSuspend_suspends (h : Represents k s) {task : Option (Fin maxTasks)}
    {i : Fin maxTasks} (target : suspendTarget k task = i) (other : i ≠ s.cur) (awake : i ∉ s.susp)
    (oldest : i ∈ s.ready → s.ready.head? = some i) (allowed : maySuspend k i = true)
    {rc : Option Int} (called : svcSuspend k fp task = .ok (rc, k')) :
    Represents k' (s.suspend i other awake) := by
  simp only [svcSuspend, target] at called
  rw [if_pos allowed] at called
  obtain ⟨k₁, removed, rest⟩ := bind_ok.mp called
  obtain ⟨k₂, added, rest⟩ := bind_ok.mp rest
  have without := h.queued.setpl7.removeReady oldest removed
  have gone : i ∉ s.ready.erase i := h.queued.ready.nodup.not_mem_erase
  obtain ⟨queued, cur⟩ := without.marks gone awake added
  have only₁ := removeReady_only removed
  have cur₂ : k₂.curtcb = s.cur := cur.trans (only₁.curtcb.trans h.cur)
  rw [if_neg (fun he => other (he.trans cur₂))] at rest
  cases rest
  refine ⟨cur₂, ?_, ⟨queued.ready, queued.susp, queued.waiting, queued.suspended, queued.apart⟩⟩
  have kept : (k₂.tct s.cur).status = (k.tct s.cur).status := by
    rw [(addSusp_only added).status]
    exact (congrArg TCB.status (Kernel.setTcb_ne _ _ other.symm)).trans (only₁.status s.cur)
  exact kept.trans h.running

/-- Filling an entry that belongs to no task the scheduler knows. -/
theorem Represents.made (h : Represents k s) {i : Fin maxTasks} {tcb : TCB maxTasks}
    (made : Made k i tcb k') (out : i ∉ s.tasks) : Represents k' s := by
  obtain ⟨notCur, idle, awake⟩ : i ≠ s.cur ∧ i ∉ s.ready ∧ i ∉ s.susp := by
    simpa [Sched.mem_tasks] using out
  have filled : Queued (k.modify i fun _ => tcb) s.ready s.susp :=
    h.queued.modify made.next made.prev fun mem => absurd mem (not_or.mpr ⟨idle, awake⟩)
  have tct : k'.tct = (k.modify i fun _ => tcb).tct := by rw [made.only]; rfl
  have readyq : k'.readyq = k.readyq := by rw [made.only]
  have suspq : k'.suspq = k.suspq := by rw [made.only]
  have curtcb : k'.curtcb = k.curtcb := by rw [made.only]
  refine ⟨curtcb.trans h.cur, ?_, ?_⟩
  · rw [tct]
    exact (congrArg TCB.status (Kernel.setTcb_ne _ _ notCur.symm)).trans h.running
  · refine ⟨?_, ?_, ?_, ?_, filled.apart⟩
    · rw [tct, readyq]; exact filled.ready
    · rw [tct, suspq]; exact filled.susp
    · rw [tct]; exact filled.waiting
    · rw [tct]; exact filled.suspended

/-- A new task joins the line. -/
theorem Represents.enlists (h : Represents k s) {i : Fin maxTasks} (out : i ∉ s.tasks)
    (status : (k.tct i).status = .init) (called : k.addReady i = .ok k') :
    Represents k' (s.enlist i out) := by
  obtain ⟨notCur, idle, awake⟩ : i ≠ s.cur ∧ i ∉ s.ready ∧ i ∉ s.susp := by
    simpa [Sched.mem_tasks] using out
  have only := addReady_only called
  exact ⟨only.curtcb.trans h.cur, (only.status s.cur).trans h.running,
    h.queued.addReady idle awake (.inl status) called⟩

theorem svcSuspend_refused {task : Option (Fin maxTasks)}
    (refused : maySuspend k (suspendTarget k task) = false)
    {rc : Option Int} (called : svcSuspend k fp task = .ok (rc, k')) : k' = k := by
  simp only [svcSuspend, refused] at called
  cases called
  rfl

end Services

end Muxx
