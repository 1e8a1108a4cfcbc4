import Muxx.Turns

/-!
# An empty ready queue

muxx_schedule takes a task from the ready queue without asking whether there
is one, and muxx_qGetTask clears the links of a null task when there is none.

* `TaskOp.LeavesSome`: suspensions that leave a task to run and the queue whole;
* `Stocked`: the running task, the ready queue, and the end of the suspended
  queue, to which the next suspended task is linked;
* `Stocked.step`: steps that leave some task keep this and meet no null task;
* `always_some`: so no run of such steps does.
-/

namespace Muxx

open Fallible RoundRobin Run

/-- A suspension that is permitted leaves a task to run, and it takes a task
out of the ready queue at the front only. -/
def TaskOp.LeavesSome (s : TaskRun) : TaskOp → Prop
  | .suspend _ task =>
    let k := s.kernel
    let i := suspendTarget k task
    maySuspend k i = true → (i = k.curtcb → k.readyq.count ≠ 0) ∧
      (findTask k.tct k.readyq i = some (some i) → k.readyq.head = some i)
  | _ => True

instance TaskOp.LeavesSome.decidable (s : TaskRun) : (op : TaskOp) → Decidable (op.LeavesSome s)
  | .suspend .. => inferInstanceAs (Decidable (_ → (_ → _) ∧ (_ → _)))
  | .creprc .. | .loadprc .. | .yield _ | .quantum _ => inferInstanceAs (Decidable True)

/-- `r` waits in the ready queue. Of the suspended queue only its last task
matters, which is neither running nor ready. -/
structure Stocked (k : Kernel) (r : List (Fin maxTasks)) : Prop where
  running : k.cur.status = .run
  ready : Holds k.tct k.readyq r
  idle : k.curtcb ∉ r
  live : ∀ i, i = k.curtcb ∨ i ∈ r → (k.tct i).pid ≠ 0
  last : k.suspq.count ≠ 0 →
    ∃ t, k.suspq.tail = some t ∧ (k.tct t).pid ≠ 0 ∧ t ≠ k.curtcb ∧ t ∉ r
  pids : Pids k
  memory : ∃ rs, Carved k.mmcbt rs

section Dispatches
variable {k k' : Kernel} {r : List (Fin maxTasks)}

theorem schedule_suspq (called : schedule k = .ok k') : k'.suspq = k.suspq := by
  obtain ⟨⟨task, tct, readyq⟩, -, ret⟩ := bind_ok.mp called
  cases ret
  rfl

theorem addReady_suspq {i : Fin maxTasks} (called : k.addReady i = .ok k') :
    k'.suspq = k.suspq := by
  obtain ⟨⟨tct, readyq⟩, -, ret⟩ := bind_ok.mp called
  cases ret
  rfl

theorem Dispatch.suspq {d : Dispatch} (called : d.step k = .ok k') : k'.suspq = k.suspq := by
  cases d with
  | yield fp =>
    obtain ⟨k₁, added, scheduled⟩ := bind_ok.mp called
    have same := addReady_suspq added
    exact (schedule_suspq scheduled).trans same
  | quantum fp =>
    have called : checkQuantums k fp = .ok k' := called
    unfold checkQuantums at called
    split at called
    · obtain ⟨k₁, added, scheduled⟩ := bind_ok.mp called
      have added : Kernel.addReady _ _ = .ok k₁ := added
      have same := addReady_suspq added
      exact (schedule_suspq scheduled).trans same
    · cases called
      rfl

theorem Dispatch.moved {d : Dispatch} (called : d.step k = .ok k') : Moved k k' := by
  cases d with
  | yield fp => exact svcYield_moved called
  | quantum fp => exact checkQuantums_moved called

/-- What the tables keep when tasks only move about. -/
theorem Stocked.tables (h : Stocked k r) (moved : Moved k k') :
    Pids k' ∧ ∃ rs, Carved k'.mmcbt rs := by
  refine ⟨moved.pids h.pids, ?_⟩
  rw [moved.mmcbt]
  exact h.memory

theorem Stocked.dispatch (h : Stocked k r) (d : Dispatch) :
    ∃ k' r', d.step k = .ok k' ∧ Stocked k' r' := by
  let s : Sched (Fin maxTasks) := ⟨k.curtcb, r, [], by simpa using ⟨h.idle, h.ready.nodup⟩⟩
  have turn : InTurn k s := ⟨rfl, h.running, h.ready⟩
  obtain ⟨k', called, turn', -⟩ := turn.step d
  have moved := Dispatch.moved called
  have member {i : Fin maxTasks} (mem : i = k'.curtcb ∨ i ∈ s.rotate.ready) :
      i = k.curtcb ∨ i ∈ r := by
    rw [turn'.cur] at mem
    have mem := List.mem_cons.mpr mem
    rw [rotate_line, List.mem_append, List.mem_singleton] at mem
    exact mem.symm
  obtain ⟨pids, memory⟩ := h.tables moved
  refine ⟨k', s.rotate.ready, called, ?_, turn'.ready, turn'.idle, ?_, ?_, pids, memory⟩
  · rw [Kernel.cur, turn'.cur]
    exact turn'.running
  · intro i mem
    rw [moved.pid]
    exact h.live i (member mem)
  · rw [Dispatch.suspq called]
    intro some
    obtain ⟨t, tail, live, notCur, out⟩ := h.last some
    have gone : ¬ (t = k.curtcb ∨ t ∈ r) := not_or.mpr ⟨notCur, out⟩
    refine ⟨t, tail, moved.pid t ▸ live, ?_, ?_⟩
    · exact fun he => gone (member (.inl he))
    · exact fun mem => gone (member (.inr mem))

end Dispatches

section Suspensions
variable {k : Kernel} {r : List (Fin maxTasks)} {i : Fin maxTasks} {fp : FRAME}

theorem removeReady_erases (h : Holds k.tct k.readyq r) (front : i ∈ r → r.head? = some i) :
    ∃ k', k.removeReady i = .ok k' ∧ Holds k'.tct k'.readyq (r.erase i) ∧ k'.suspq = k.suspq := by
  by_cases mem : i ∈ r
  · obtain ⟨l, rfl⟩ := List.head?_eq_some_iff.mp (front mem)
    obtain ⟨tct, readyq, removed, holds⟩ := qRemoveTask_oldest h
    refine ⟨{ k with tct := tct, readyq := readyq }, ?_, ?_, rfl⟩
    · rw [Kernel.removeReady, removed]
      rfl
    · rw [List.erase_cons_head]
      exact holds
  · refine ⟨k, ?_, ?_, rfl⟩
    · rw [Kernel.removeReady, qRemoveTask_absent h mem]
      rfl
    · rw [List.erase_of_not_mem mem]
      exact h

/-- A task is linked to the last suspended one, which is none of `r`. -/
theorem addSusp_appends (h : Holds k.tct k.readyq r) (out : i ∉ r)
    (last : k.suspq.count ≠ 0 → ∃ t, k.suspq.tail = some t ∧ t ∉ r) :
    ∃ k', k.addSusp i = .ok k' ∧ Holds k'.tct k'.readyq r ∧ k'.suspq.tail = some i := by
  have apart {j : Fin maxTasks} (hj : j ∈ r) : j ≠ i := fun he => out (he ▸ hj)
  by_cases empty : k.suspq.count = 0
  · refine ⟨_, by rw [Kernel.addSusp, qAddTask_empty empty]; rfl, ?_, rfl⟩
    exact h.frame (fun j hj => by simp [apart hj]) (fun j hj => by simp [apart hj])
  · obtain ⟨t, tail, other⟩ := last empty
    have apart' {j : Fin maxTasks} (hj : j ∈ r) : j ≠ t := fun he => other (he ▸ hj)
    refine ⟨_, by rw [Kernel.addSusp, qAddTask_nonempty empty tail]; rfl, ?_, rfl⟩
    exact h.frame (fun j hj => by simp [apart hj, apart' hj]) (fun j hj => by simp [apart hj])

/-- Up to the decision whether another task has to run. -/
theorem Stocked.parked (h : Stocked k r) (front : i ∈ r → r.head? = some i) :
    ∃ k₁ k₂, k.setpl7.removeReady i = .ok k₁ ∧
      (k₁.modify i fun tcb => { tcb with status := .susp }).addSusp i = .ok k₂ ∧
      Holds k₂.tct k₂.readyq (r.erase i) ∧ k₂.suspq.tail = some i ∧ k₂.curtcb = k.curtcb ∧
      ∀ j, (k₂.tct j).status = if j = i then .susp else (k.tct j).status := by
  obtain ⟨k₁, removed, ready₁, suspq⟩ := removeReady_erases (k := k.setpl7) h.ready front
  have only₁ := removeReady_only removed
  have marked : Holds (k₁.modify i fun tcb => { tcb with status := .susp }).tct k₁.readyq
      (r.erase i) := ready₁.modify rfl rfl
  have last : k₁.suspq.count ≠ 0 → ∃ t, k₁.suspq.tail = some t ∧ t ∉ r.erase i := by
    rw [suspq]
    intro some
    obtain ⟨t, tail, -, -, out⟩ := h.last some
    exact ⟨t, tail, fun mem => out (List.mem_of_mem_erase mem)⟩
  obtain ⟨k₂, added, ready₂, tail⟩ := addSusp_appends marked h.ready.nodup.not_mem_erase last
  refine ⟨k₁, k₂, removed, added, ready₂, tail, ?_, ?_⟩
  · exact (addSusp_only added).curtcb.trans only₁.curtcb
  · intro j
    rw [(addSusp_only added).status, modify_status, only₁.status]
    rfl

/-- A task that suspends itself gives way to the first that waits. -/
theorem Stocked.suspendSelf (h : Stocked k r) {task : Option (Fin maxTasks)}
    (self : suspendTarget k task = k.curtcb) (allowed : maySuspend k (suspendTarget k task) = true)
    (some : r ≠ []) : ∃ rc k' r', svcSuspend k fp task = .ok (rc, k') ∧ Stocked k' r' := by
  obtain ⟨t, r', rfl⟩ := List.exists_cons_of_ne_nil some
  have nodup := List.nodup_cons.mp h.ready.nodup
  obtain ⟨k₁, k₂, removed, added, ready, tail, cur, -⟩ :=
    h.parked (i := k.curtcb) fun mem => absurd mem h.idle
  rw [List.erase_of_not_mem h.idle] at ready
  obtain ⟨k', scheduled, cur', ready', status'⟩ := schedule_takes (ready.copies fp)
  have called : svcSuspend k fp task = .ok (none, k') := by
    simp only [svcSuspend, self] at allowed ⊢
    rw [if_pos allowed]
    refine bind_ok.mpr ⟨k₁, removed, bind_ok.mpr ⟨k₂, added, ?_⟩⟩
    rw [if_pos cur.symm]
    exact bind_ok.mpr ⟨k', scheduled, rfl⟩
  have moved := svcSuspend_moved called
  obtain ⟨pids, memory⟩ := h.tables moved
  refine ⟨none, k', r', called, ?_, ready', ?_, ?_, ?_, pids, memory⟩
  · rw [Kernel.cur, cur', status', if_pos rfl]
  · rw [cur']
    exact nodup.1
  · intro i mem
    rw [moved.pid]
    rw [cur'] at mem
    exact h.live i (.inr (List.mem_cons.mpr mem))
  · intro _
    have out : k.curtcb ≠ t ∧ k.curtcb ∉ r' := not_or.mp (mt List.mem_cons.mpr h.idle)
    refine ⟨k.curtcb, ?_, moved.pid _ ▸ h.live _ (.inl rfl), cur' ▸ out.1, out.2⟩
    rw [schedule_suspq scheduled]
    exact tail

theorem Stocked.suspendOther (h : Stocked k r) {task : Option (Fin maxTasks)}
    (target : suspendTarget k task = i) (other : i ≠ k.curtcb) (allowed : maySuspend k i = true)
    (front : i ∈ r → r.head? = some i) (live : (k.tct i).pid ≠ 0) :
    ∃ rc k' r', svcSuspend k fp task = .ok (rc, k') ∧ Stocked k' r' := by
  obtain ⟨k₁, k₂, removed, added, ready, tail, cur, status⟩ := h.parked front
  have called : svcSuspend k fp task = .ok (some eok, k₂.setpl k.ipl) := by
    simp only [svcSuspend, target]
    rw [if_pos allowed]
    refine bind_ok.mpr ⟨k₁, removed, bind_ok.mpr ⟨k₂, added, ?_⟩⟩
    rw [if_neg (fun he => other (he.trans cur))]
    rfl
  have moved := svcSuspend_moved called
  obtain ⟨pids, memory⟩ := h.tables moved
  refine ⟨_, _, r.erase i, called, ?_, ready, ?_, ?_, ?_, pids, memory⟩
  · show (k₂.tct k₂.curtcb).status = .run
    rw [cur, status, if_neg other.symm]
    exact h.running
  · show k₂.curtcb ∉ r.erase i
    rw [cur]
    exact fun mem => h.idle (List.mem_of_mem_erase mem)
  · intro j mem
    rw [moved.pid]
    exact h.live j (mem.imp (fun he => he.trans cur) List.mem_of_mem_erase)
  · intro _
    refine ⟨i, tail, moved.pid i ▸ live, ?_, h.ready.nodup.not_mem_erase⟩
    exact fun he => other (he.trans cur)

end Suspensions

section Creations
variable {k k' : Kernel} {r : List (Fin maxTasks)} {i : Fin maxTasks}

/-- Filling an entry that is free. -/
theorem Stocked.made (h : Stocked k r) {tcb : TCB maxTasks} (made : Made k i tcb k')
    (memory : ∃ rs, Carved k'.mmcbt rs) :
    (i ∉ r ∧ i ≠ k'.curtcb ∧ (k'.suspq.count ≠ 0 → k'.suspq.tail ≠ some i)) ∧ Stocked k' r := by
  have free (j : Fin maxTasks) (live : (k.tct j).pid ≠ 0) : j ≠ i := fun he =>
    live (he ▸ made.entry.2)
  have notCur : k.curtcb ≠ i := free _ (h.live _ (.inl rfl))
  have filled : Holds (k.modify i fun _ => tcb).tct k.readyq r :=
    h.ready.modify made.next made.prev
  have tct : k'.tct = (k.modify i fun _ => tcb).tct := by rw [made.only]; rfl
  have readyq : k'.readyq = k.readyq := by rw [made.only]
  have suspq : k'.suspq = k.suspq := by rw [made.only]
  have curtcb : k'.curtcb = k.curtcb := by rw [made.only]
  refine ⟨⟨fun mem => free i (h.live i (.inr mem)) rfl, curtcb ▸ notCur.symm, ?_⟩, ?_, ?_,
    curtcb ▸ h.idle, ?_, ?_, made.pids, memory⟩
  · rw [suspq]
    intro some last
    obtain ⟨t, tail, live, -⟩ := h.last some
    exact free t live (Option.some.inj (tail.symm.trans last))
  · rw [Kernel.cur, curtcb, made.other notCur]
    exact h.running
  · rw [tct, readyq]
    exact filled
  · intro j mem
    rw [curtcb] at mem
    rw [made.other (free j (h.live j mem))]
    exact h.live j mem
  · rw [suspq, curtcb]
    intro some
    obtain ⟨t, tail, live, apart⟩ := h.last some
    refine ⟨t, tail, ?_, apart⟩
    rw [made.other (free t live)]
    exact live

/-- A new task joins the ready queue. -/
theorem Stocked.enlist (h : Stocked k r) (live : (k.tct i).pid ≠ 0) (out : i ∉ r)
    (other : i ≠ k.curtcb) (unseen : k.suspq.count ≠ 0 → k.suspq.tail ≠ some i) :
    ∃ k', k.addReady i = .ok k' ∧ Stocked k' (r ++ [i]) := by
  obtain ⟨k', added, ready⟩ := addReady_appends h.ready out
  have only := addReady_only added
  obtain ⟨pids, memory⟩ := h.tables only.moved
  refine ⟨k', added, ?_, ready, ?_, ?_, ?_, pids, memory⟩
  · rw [Kernel.cur, only.status, only.curtcb]
    exact h.running
  · rw [only.curtcb, List.mem_append, List.mem_singleton]
    exact not_or.mpr ⟨h.idle, other.symm⟩
  · intro j mem
    rw [only.moved.pid]
    rw [only.curtcb, List.mem_append, List.mem_singleton, ← or_assoc] at mem
    exact mem.elim (h.live j) fun he => he ▸ live
  · rw [addReady_suspq added, only.curtcb]
    intro some
    obtain ⟨t, tail, live', notCur, out'⟩ := h.last some
    refine ⟨t, tail, only.moved.pid t ▸ live', notCur, ?_⟩
    rw [List.mem_append, List.mem_singleton]
    exact not_or.mpr ⟨out', fun he => unseen some (he ▸ tail)⟩

theorem Stocked.create (h : Stocked k r) {name : Name} {type entry privs : WORD}
    {new : Option (Fin maxTasks)} (called : newTask k name type entry privs = .ok (new, k')) :
    Stocked k' r ∧ ∀ i, new = some i → (k'.tct i).pid ≠ 0 ∧
      ∃ k₁, k'.addReady i = .ok k₁ ∧ Stocked k₁ (r ++ [i]) := by
  obtain ⟨rs, carved⟩ := h.memory
  obtain ⟨i, tcb, made, -, outcome⟩ := newTask_ok h.pids carved called
  have memory : ∃ rs, Carved k'.mmcbt rs := by
    rcases outcome with ⟨-, same, -⟩ | ⟨-, _, -, -, settingUp⟩
    · rw [same]
      exact ⟨rs, carved⟩
    · obtain ⟨more, carved', -⟩ := settingUp.run
      exact ⟨_, carved'⟩
  obtain ⟨⟨out, other, unseen⟩, stocked⟩ := h.made made memory
  refine ⟨stocked, ?_⟩
  rintro j rfl
  have same : i = j := by
    rcases outcome with ⟨none, -⟩ | ⟨some, -⟩
    · cases none
    · exact (Option.some.inj some).symm
  subst same
  have live : (k'.tct i).pid ≠ 0 := by
    rw [made.self]
    intro zero
    have range := made.pid_range
    rw [zero] at range
    exact absurd range.1 (by decide)
  exact ⟨live, stocked.enlist live out other unseen⟩

theorem svcXcopy_ok (k : Kernel) (dst src : Fin maxTasks) (size : Nat) :
    ∃ rc, svcXcopy k (k.tct dst).pid (k.tct src).pid size = .ok rc := by
  obtain ⟨d, dst_found⟩ := findtcb_some k dst
  obtain ⟨t, src_found⟩ := findtcb_some k src
  unfold svcXcopy
  rw [dst_found, src_found]
  dsimp only
  split_ifs <;> exact ⟨_, rfl⟩

end Creations

/-! ## Runs -/

/-- How a step can end: in a state with a task that runs, or in a fault that
is not due to a null task. -/
def Goes (s : TaskRun) (op : TaskOp) : Prop :=
  (∃ s' r', s.step op = .ok s' ∧ Stocked s'.kernel r') ∨
    ∃ e, s.step op = .error e ∧ (e = .outside ∨ e.Stops)

section Steps
variable {s : TaskRun} {r : List (Fin maxTasks)}

theorem Stocked.creprc (h : Stocked s.kernel r) (name : Name) (type entry privs : WORD) :
    Goes s (.creprc name type entry privs) := by
  cases made : newTask s.kernel name type entry privs with
  | error e =>
    refine .inr ⟨e, ?_, newTask_faults made⟩
    simp only [TaskRun.step, svcCreprc, made, error_bind]
  | ok result =>
    obtain ⟨new, k₁⟩ := result
    obtain ⟨failed, enlisted⟩ := h.create made
    apply Or.inl
    cases new with
    | none =>
      refine ⟨s.returned (-1, k₁), r, ?_, failed⟩
      simp only [TaskRun.step, svcCreprc, made, ok_bind, pure_eq_ok]
    | some i =>
      obtain ⟨-, k₂, added, joined⟩ := enlisted i rfl
      refine ⟨s.returned ((k₂.tct i).pid.toNat, k₂), r ++ [i], ?_, joined⟩
      simp only [TaskRun.step, svcCreprc, made, ok_bind, added, pure_eq_ok]

theorem Stocked.loadprc (h : Stocked s.kernel r) (name : Name) (type rshell : WORD) (file : Nat)
    (privs : WORD) : Goes s (.loadprc name type rshell file privs) := by
  cases made : newTask s.kernel name type rshell privs with
  | error e =>
    refine .inr ⟨e, ?_, newTask_faults made⟩
    simp only [TaskRun.step, svcLoadprc, made, error_bind]
  | ok result =>
    obtain ⟨new, k₁⟩ := result
    obtain ⟨failed, enlisted⟩ := h.create made
    cases new with
    | none =>
      refine .inl ⟨s.returned (-1, k₁), r, ?_, failed⟩
      simp only [TaskRun.step, svcLoadprc, made, ok_bind, pure_eq_ok]
    | some i =>
      obtain ⟨-, k₂, added, joined⟩ := enlisted i rfl
      obtain ⟨rc, copied⟩ := svcXcopy_ok k₁ i k₁.curtcb file
      have copied : svcXcopy k₁ (k₁.tct i).pid k₁.cur.pid file = .ok rc := copied
      by_cases accepted : rc ≥ 0
      · refine .inl ⟨s.returned ((k₂.tct i).pid.toNat, k₂), r ++ [i], ?_, joined⟩
        simp only [TaskRun.step, svcLoadprc, made, ok_bind, copied, if_pos accepted, added,
          pure_eq_ok]
      · refine .inr ⟨.panic "Abort creating task - LOADPRC", ?_, .inr trivial⟩
        simp only [TaskRun.step, svcLoadprc, made, ok_bind, copied, if_neg accepted]
        rfl

theorem Stocked.suspend (h : Stocked s.kernel r) {fp : FRAME} {task : Option (Fin maxTasks)}
    (onTask : TaskOp.OnTask s (.suspend fp task)) (leaves : TaskOp.LeavesSome s (.suspend fp task)) :
    Goes s (.suspend fp task) := by
  apply Or.inl
  suffices suspended : ∃ rc k' r', svcSuspend s.kernel fp task = .ok (rc, k') ∧ Stocked k' r' by
    obtain ⟨rc, k', r', called, stocked⟩ := suspended
    refine ⟨{ s with kernel := k' }, r', ?_, stocked⟩
    simp only [TaskRun.step, called, ok_bind, pure_eq_ok]
  cases allowed : maySuspend s.kernel (suspendTarget s.kernel task) with
  | false =>
    refine ⟨some enopriv, s.kernel, r, ?_, h⟩
    simp only [svcSuspend, allowed]
    rfl
  | true =>
    obtain ⟨others, front⟩ := leaves allowed
    have front (mem : suspendTarget s.kernel task ∈ r) :
        r.head? = some (suspendTarget s.kernel task) := by
      rw [← h.ready.forward.head]
      apply front
      rw [findTask_holds h.ready, if_pos mem]
    by_cases self : suspendTarget s.kernel task = s.kernel.curtcb
    · refine h.suspendSelf self allowed fun empty => others self ?_
      rw [h.ready.count, empty]
      rfl
    · exact h.suspendOther rfl self allowed front onTask

theorem Stocked.step (h : Stocked s.kernel r) (op : TaskOp) (onTask : op.OnTask s)
    (leaves : op.LeavesSome s) : Goes s op := by
  have dispatched (d : Dispatch)
      (same : s.step op = (do return { s with kernel := ← d.step s.kernel })) :
      Goes s op := by
    obtain ⟨k', r', called, stocked⟩ := h.dispatch d
    refine .inl ⟨{ s with kernel := k' }, r', ?_, stocked⟩
    rw [same, called]
    rfl
  cases op with
  | creprc name type entry privs => exact h.creprc name type entry privs
  | loadprc name type rshell file privs => exact h.loadprc name type rshell file privs
  | yield fp => exact dispatched (.yield fp) rfl
  | suspend fp task => exact h.suspend onTask leaves
  | quantum fp => exact dispatched (.quantum fp) rfl

end Steps

theorem boot_stocked (entry : ADDRESS) : Stocked (boot entry) [] where
  running := congrArg TCB.status (boot_self entry)
  ready := holds_empty _
  idle := by simp
  live := by
    rintro i (rfl | mem)
    · show ((boot entry).tct 0).pid ≠ 0
      rw [boot_pid, if_pos rfl]
      decide
    · cases mem
  last := fun some => absurd rfl some
  pids := boot_pids entry
  memory := ⟨[], carved_init⟩

/-- In every run from boot whose suspensions leave a task to run, the running
task is one of the table that has a pid, and no step takes a task from an
empty ready queue or writes to a null task. -/
theorem always_some (entry : ADDRESS) (s : TaskRun)
    (h : Reachable TaskRun.step (fun s op => op.OnTask s ∧ op.LeavesSome s) (bootRun entry) s) :
    s.kernel.cur.pid ≠ 0 ∧
      ∀ op, op.OnTask s → op.LeavesSome s → s.step op ≠ .error .nullref := by
  have invariant : ∃ r, Stocked s.kernel r := by
    refine Reachable.invariant (fun s => ∃ r, Stocked s.kernel r) ⟨[], boot_stocked entry⟩ ?_ h
    rintro s op s' ⟨r, stocked⟩ ⟨onTask, leaves⟩ stepped
    rcases stocked.step op onTask leaves with ⟨t, r', called, stocked'⟩ | ⟨e, called, -⟩
    · rw [called] at stepped
      cases stepped
      exact ⟨r', stocked'⟩
    · rw [called] at stepped
      cases stepped
  obtain ⟨r, stocked⟩ := invariant
  refine ⟨stocked.live _ (.inl rfl), ?_⟩
  intro op onTask leaves null
  rcases stocked.step op onTask leaves with ⟨t, r', called, -⟩ | ⟨e, called, cause⟩
  · rw [called] at null
    cases null
  · rw [called] at null
    cases null
    exact cause.elim (fun he => by cases he) id

theorem always_some_run :
    ∃ s, exec TaskRun.step (bootRun 0) [createSmall, createSmall, .suspend {} none, .quantum {},
      .suspend {} (some 0)] = .ok s ∧ s.kernel.cur.pid ≠ 0 := by
  let ops := [createSmall, createSmall, .suspend {} none, .quantum {}, .suspend {} (some 0)]
  have meets : Meets TaskRun.step (fun s op => op.OnTask s ∧ op.LeavesSome s) (bootRun 0) ops := by
    decide +kernel
  have returns : (exec TaskRun.step (bootRun 0) ops).isOk = true := by decide +kernel
  obtain ⟨s, ran⟩ := isOk_iff.mp returns
  exact ⟨s, ran, (always_some 0 s (reachable_exec meets ran)).1⟩

/-- INIT is alone and suspends itself. -/
theorem suspend_runs_dry :
    TaskOp.OnTask (bootRun 0) (.suspend {} none) ∧ (boot 0).readyq.count = 0 ∧
      failure ((bootRun 0).step (.suspend {} none)) = some .nullref := by
  decide +kernel

end Muxx
