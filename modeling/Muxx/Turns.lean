import Muxx.Placement

/-!
# Turns

Who runs after any number of yields and quantum expiries. Here nothing is
assumed of the suspended queue or of the statuses of the waiting tasks:

* `addReady_appends`, `schedule_takes`: a ready queue that holds a list;
* `InTurn`: the running task and the ready queue follow a round robin;
* `InTurn.step`: one dispatch is one rotation;
* `round_robin`: any number of dispatches.
-/

namespace Muxx

open Fallible RoundRobin Run

section Queue
variable {k k' : Kernel} {r : List (Fin maxTasks)} {i t : Fin maxTasks}

theorem addReady_appends (h : Holds k.tct k.readyq r) (fresh : i ∉ r) :
    ∃ k', k.addReady i = .ok k' ∧ Holds k'.tct k'.readyq (r ++ [i]) := by
  obtain ⟨tct, readyq, added, holds⟩ := qAddTask_holds h fresh
  refine ⟨{ k with tct := tct, readyq := readyq }, ?_, holds⟩
  rw [Kernel.addReady, added]
  rfl

/-- The status after a change to one task. -/
theorem modify_status (k : Kernel) (i j : Fin maxTasks) (f : TCB maxTasks → TCB maxTasks) :
    ((k.modify i f).tct j).status = if j = i then (f (k.tct i)).status else (k.tct j).status := by
  by_cases hj : j = i
  · subst hj
    rw [if_pos rfl]
    exact congrArg TCB.status (k.setTcb_self ..)
  · rw [if_neg hj]
    exact congrArg TCB.status (k.setTcb_ne _ hj)

theorem schedule_takes (h : Holds k.tct k.readyq (t :: r)) :
    ∃ k', schedule k = .ok k' ∧ k'.curtcb = t ∧ Holds k'.tct k'.readyq r ∧
      ∀ j, (k'.tct j).status = if j = t then .run else (k.tct j).status := by
  obtain ⟨tct, readyq, got, holds⟩ := qGetTask_holds h
  let taken : Kernel := { k.setpl7 with tct := tct, readyq := readyq, curtcb := t }
  have kept : Holds taken.tct taken.readyq r := holds
  have switched : Holds (muxxSwitch taken).tct taken.readyq r :=
    kept.modify (f := fun tcb => { tcb with status := .run }) (i := t) rfl rfl
  refine ⟨muxxSwitch taken, ?_, rfl, switched, ?_⟩
  · rw [schedule, got]
    rfl
  · intro j
    have same : (tct j).unlinked.status = (k.tct j).unlinked.status := by
      rw [qGetTask_unlinked got]
    have switched := modify_status taken t j fun tcb => { tcb with status := .run }
    rw [show (taken.tct j).status = (k.tct j).status from same] at switched
    exact switched

/-- The registers a task saves are no part of the queues. -/
theorem Holds.copies (h : Holds k.tct k.readyq r) (fp : FRAME) :
    Holds (copyMMUstate (copytrapfp k fp)).tct (copyMMUstate (copytrapfp k fp)).readyq r :=
  (h.modify rfl rfl).modify rfl rfl

theorem copytrapfp_status (k : Kernel) (fp : FRAME) (j : Fin maxTasks) :
    ((copytrapfp k fp).tct j).status = (k.tct j).status := by
  rw [copytrapfp, modify_status]
  split
  · rename_i hj; rw [hj]
  · rfl

theorem copyMMUstate_status (k : Kernel) (j : Fin maxTasks) :
    ((copyMMUstate k).tct j).status = (k.tct j).status := by
  rw [copyMMUstate, modify_status]
  split
  · rename_i hj; rw [hj]
  · rfl

end Queue

/-- An event that hands the processor on. -/
inductive Dispatch
  | yield (fp : FRAME)
  | quantum (fp : FRAME)

def Dispatch.step (k : Kernel) : Dispatch → Except Fault Kernel
  | .yield fp => svcYield k fp
  | .quantum fp => checkQuantums k fp

/-- The kernel runs the first task of a round robin and the others wait in
its ready queue. -/
structure InTurn (k : Kernel) (s : Sched (Fin maxTasks)) : Prop where
  cur : k.curtcb = s.cur
  running : (k.tct s.cur).status = .run
  ready : Holds k.tct k.readyq s.ready

section Turns
variable {k k₁ : Kernel} {s : Sched (Fin maxTasks)}

theorem InTurn.idle (h : InTurn k s) : k.curtcb ∉ s.ready := fun mem =>
  (List.nodup_cons.mp s.nodup).1 (List.mem_append_left _ (h.cur ▸ mem))

theorem rotate_line (s : Sched (Fin maxTasks)) :
    s.rotate.cur :: s.rotate.ready = s.ready ++ [s.cur] := by
  obtain ⟨c, r, q, nodup⟩ := s
  cases r with
  | nil => rfl
  | cons t r => rfl

/-- The statuses after a dispatch: one task runs, the one before it is ready,
and the others are as they were. -/
def handOver (k : Kernel) (s : Sched (Fin maxTasks)) (j : Fin maxTasks) : Status :=
  if j = s.rotate.cur then .run else if j = k.curtcb then .ready else (k.tct j).status

/-- Dispatching from a line that ends with the task that ran before. -/
theorem InTurn.schedule (h : InTurn k s) (ready : Holds k₁.tct k₁.readyq (s.ready ++ [k.curtcb]))
    (status : ∀ j, (k₁.tct j).status = if j = k.curtcb then .ready else (k.tct j).status) :
    ∃ k', schedule k₁ = .ok k' ∧ InTurn k' s.rotate ∧ ∀ j, (k'.tct j).status = handOver k s j := by
  rw [h.cur, ← rotate_line] at ready
  obtain ⟨k', scheduled, cur, ready', after⟩ := schedule_takes ready
  refine ⟨k', scheduled, ⟨cur, ?_, ready'⟩, ?_⟩
  · rw [after, if_pos rfl]
  · intro j
    rw [after, status]
    rfl

theorem InTurn.yield (h : InTurn k s) (fp : FRAME) :
    ∃ k', svcYield k fp = .ok k' ∧ InTurn k' s.rotate ∧
      ∀ j, (k'.tct j).status = handOver k s j := by
  have marked : Holds (k.setpl7.modify k.curtcb fun tcb => { tcb with status := .ready }).tct
      k.readyq s.ready := Holds.modify (k := k.setpl7) h.ready rfl rfl
  obtain ⟨k₁, added, ready⟩ := addReady_appends marked h.idle
  have status (j : Fin maxTasks) : ((copyMMUstate (copytrapfp k₁ fp)).tct j).status =
      if j = k.curtcb then .ready else (k.tct j).status := by
    rw [copyMMUstate_status, copytrapfp_status, (addReady_only added).status, modify_status]
    rfl
  obtain ⟨k', scheduled, turn⟩ := h.schedule (ready.copies fp) status
  exact ⟨k', bind_ok.mpr ⟨k₁, added, scheduled⟩, turn⟩

theorem InTurn.quantum (h : InTurn k s) (fp : FRAME) :
    ∃ k', checkQuantums k fp = .ok k' ∧ InTurn k' s.rotate ∧
      ∀ j, (k'.tct j).status = handOver k s j := by
  unfold checkQuantums
  split
  · let saved := copytrapfp k.setpl7 fp
    have kept : Holds saved.tct k.readyq s.ready := Holds.modify (k := k.setpl7) h.ready rfl rfl
    have marked : Holds (saved.modify k.curtcb fun tcb => { tcb with status := .ready }).tct
        k.readyq s.ready := kept.modify rfl rfl
    obtain ⟨k₁, added, ready⟩ := addReady_appends marked h.idle
    have status (j : Fin maxTasks) :
        (k₁.tct j).status = if j = k.curtcb then .ready else (k.tct j).status := by
      rw [(addReady_only added).status, modify_status, copytrapfp_status]
      rfl
    obtain ⟨k', scheduled, turn⟩ := h.schedule ready status
    exact ⟨k', bind_ok.mpr ⟨k₁, added, scheduled⟩, turn⟩
  · rename_i empty
    have alone : s.ready = [] := by
      rw [h.ready.count] at empty
      exact List.length_eq_zero_iff.mp (by omega)
    have same : s.rotate = s := by
      obtain ⟨c, r, q, nodup⟩ := s
      cases alone
      rfl
    refine ⟨k, rfl, by rw [same]; exact h, ?_⟩
    intro j
    unfold handOver
    rw [same, h.cur]
    split
    · rename_i hj; rw [hj, h.running]
    · rfl

/-- One dispatch is one rotation. -/
theorem InTurn.step (h : InTurn k s) (d : Dispatch) :
    ∃ k', d.step k = .ok k' ∧ InTurn k' s.rotate ∧ ∀ j, (k'.tct j).status = handOver k s j := by
  cases d with
  | yield fp => exact h.yield fp
  | quantum fp => exact h.quantum fp

/-- The tasks that ran are ready unless they run again. `been` are those that
ran before these dispatches. -/
theorem InTurn.exec (h : InTurn k s) (been : Fin maxTasks → Prop)
    (ready : ∀ j, been j → j ≠ s.cur → (k.tct j).status = .ready) (ds : List Dispatch) :
    ∃ k', exec Dispatch.step k ds = .ok k' ∧ InTurn k' (Sched.rotate^[ds.length] s) ∧
      ∀ j, (been j ∨ ∃ n < ds.length, (Sched.rotate^[n] s).cur = j) →
        j ≠ k'.curtcb → (k'.tct j).status = .ready := by
  induction ds generalizing k s been with
  | nil =>
    refine ⟨k, rfl, h, ?_⟩
    rintro j (was | ⟨n, bound, -⟩) other
    · exact ready j was (fun he => other (he.trans h.cur.symm))
    · exact absurd bound (Nat.not_lt_zero n)
  | cons d ds ih =>
    obtain ⟨k₁, stepped, turn, status⟩ := h.step d
    have ready₁ (j : Fin maxTasks) (was : been j ∨ j = s.cur) (other : j ≠ s.rotate.cur) :
        (k₁.tct j).status = .ready := by
      rw [status, handOver, if_neg other]
      split
      · rfl
      · rename_i notCur
        have notCur : j ≠ s.cur := h.cur ▸ notCur
        exact ready j (was.resolve_right notCur) notCur
    obtain ⟨k', ran, turn', after⟩ := ih turn (fun j => been j ∨ j = s.cur) ready₁
    refine ⟨k', bind_ok.mpr ⟨k₁, stepped, ran⟩, turn', ?_⟩
    rintro j (was | ⟨n, bound, rfl⟩)
    · exact after j (.inl (.inl was))
    · cases n with
      | zero => exact after _ (.inl (.inr rfl))
      | succ n => exact after _ (.inr ⟨n, Nat.lt_of_succ_lt_succ bound, rfl⟩)

end Turns

/-- The tasks take turns: after `k` dispatches task `k` runs, counted from the
one that ran at first and round the line, the others wait in cyclic order
after it, and those that have run are ready. -/
theorem round_robin (k : Kernel) (ts : List (Fin maxTasks)) (running : k.cur.status = .run)
    (ready : Holds k.tct k.readyq ts) (idle : k.curtcb ∉ ts) (ds : List Dispatch) :
    ∃ k', exec Dispatch.step k ds = .ok k' ∧
      (k.curtcb :: ts)[ds.length % (ts.length + 1)]? = some k'.curtcb ∧
      Holds k'.tct k'.readyq ((k.curtcb :: ts).rotate ds.length).tail ∧
      k'.cur.status = .run ∧
      ∀ n < ds.length, ∀ t, (k.curtcb :: ts)[n % (ts.length + 1)]? = some t →
        t ≠ k'.curtcb → (k'.tct t).status = .ready := by
  let s : Sched (Fin maxTasks) :=
    ⟨k.curtcb, ts, [], by simpa using ⟨idle, ready.nodup⟩⟩
  have turn : InTurn k s := ⟨rfl, running, ready⟩
  obtain ⟨k', ran, turn', been⟩ := turn.exec (fun _ => False) (fun _ h => h.elim) ds
  have line := Sched.line_iterate s ds.length
  refine ⟨k', ran, ?_, ?_, ?_, ?_⟩
  · rw [turn'.cur]
    exact Sched.cur_iterate s ds.length
  · have waiting : (Sched.rotate^[ds.length] s).ready = ((k.curtcb :: ts).rotate ds.length).tail :=
      congrArg List.tail line
    rw [← waiting]
    exact turn'.ready
  · rw [Kernel.cur, turn'.cur]
    exact turn'.running
  · intro n bound t at_n other
    have cur : (Sched.rotate^[n] s).cur = t :=
      Option.some.inj ((Sched.cur_iterate s n).symm.trans at_n)
    exact been t (.inr ⟨n, bound, cur⟩) other

/-- INIT creates two tasks, its quantum expires and the first of them yields. -/
theorem round_robin_three :
    ∃ s k', exec TaskRun.step (bootRun 0) [createSmall, createSmall] = .ok s ∧
      exec Dispatch.step s.kernel [.quantum {}, .yield {}] = .ok k' ∧ k'.curtcb = 2 := by
  have before : succeeds (exec TaskRun.step (bootRun 0) [createSmall, createSmall]) (fun s =>
      s.kernel.curtcb = 0 ∧ s.kernel.cur.status = .run ∧
      Holds s.kernel.tct s.kernel.readyq [1, 2]) = true := by decide +kernel
  obtain ⟨s, ran, facts⟩ := succeeds_iff.mp before
  obtain ⟨cur, running, ready⟩ := of_decide_eq_true facts
  have idle : s.kernel.curtcb ∉ [1, 2] := by rw [cur]; decide
  obtain ⟨k', dispatched, turn, -⟩ :=
    round_robin s.kernel [1, 2] running ready idle [.quantum {}, .yield {}]
  exact ⟨s, k', ran, dispatched, (Option.some.inj turn).symm⟩

end Muxx
