import Muxx.Protection
import Muxx.Transfer

/-!
# Separation of owners

What a task without OPERPRV can do to a task of another UIC: muxx_svc_suspend,
muxx_svc_protmem, muxx_svc_xcopy, and muxx_svc_gettpi of muxx_task_svc.c.
-/

namespace Muxx

open Fallible

/-- `area` is the caller's copy of a task control block. -/
def svcGettpi (k : Kernel) (pid : WORD) (area : TCB maxTasks) :
    Except Fault (Int × TCB maxTasks) :=
  match findtcb k pid with
  | none => .error .nullref
  | some source =>
    if Core.mayRead k source then .ok (eok, k.tct source) else .ok (enopriv, area)

/-- `task` is a task of another owner, and no other task has its pid. -/
structure Foreign (k : Kernel) (task : Fin maxTasks) : Prop where
  existing : (k.tct task).pid ≠ 0
  own : ∀ i, (k.tct i).pid = (k.tct task).pid → i = task
  owner : (k.tct task).uic ≠ k.cur.uic

section Refusals
variable {k : Kernel} {task : Fin maxTasks}

theorem Foreign.findtcb (h : Foreign k task) : findtcb k (k.tct task).pid = some task := by
  obtain ⟨j, found⟩ := findtcb_some k task
  rw [found]
  unfold Muxx.findtcb at found
  rw [if_neg h.existing] at found
  have same := List.find?_some found
  rw [h.own j (beq_iff_eq.mp same)]

theorem Foreign.unreadable (h : Foreign k task) (oper : k.cur.operprv = false)
    (audit : k.cur.auditprv = false) : ¬ Core.mayRead k task := by
  rintro (owner | priv | priv)
  · exact h.owner owner
  · exact absurd (oper.symm.trans priv) (by decide)
  · exact absurd (audit.symm.trans priv) (by decide)

theorem Foreign.unwritable (h : Foreign k task) (oper : k.cur.operprv = false) :
    ¬ Core.mayWrite k task := by
  rintro (owner | priv)
  · exact h.owner owner
  · exact absurd (oper.symm.trans priv) (by decide)

theorem Foreign.suspend (h : Foreign k task) (oper : k.cur.operprv = false) (fp : FRAME) :
    svcSuspend k fp (some task) = .ok (some enopriv, k) := by
  have refused : maySuspend k task = false := by
    rw [maySuspend, oper, Bool.false_or]
    exact beq_false_of_ne h.owner.symm
  have target : suspendTarget k (some task) = task := rfl
  simp only [svcSuspend, target, refused]
  rfl

theorem Foreign.protmem (h : Foreign k task) (oper : k.cur.operprv = false) (page prot : WORD) :
    ∃ rc < 0, svcProtmem k (k.tct task).pid page prot = (rc, k) := by
  have other : (k.tct task).pid ≠ k.cur.pid := by
    intro same
    have running := h.own k.curtcb same.symm
    exact h.owner (congrArg (fun i => (k.tct i).uic) running).symm
  have refused : protmemCheck k (k.tct task).pid page prot = einvval ∨
      protmemCheck k (k.tct task).pid page prot = enopriv := by
    unfold protmemCheck
    split
    · exact .inl rfl
    · rw [oper, if_pos ⟨⟨other, h.existing⟩, Bool.false_ne_true⟩]
      exact .inr rfl
  have answer {rc : Int} (check : protmemCheck k (k.tct task).pid page prot = rc) (failed : rc ≠ eok) :
      svcProtmem k (k.tct task).pid page prot = (rc, k) := by
    unfold svcProtmem
    rw [check]
    exact if_pos failed
  rcases refused with check | check
  · exact ⟨einvval, by decide, answer check (by decide)⟩
  · exact ⟨enopriv, by decide, answer check (by decide)⟩

theorem Foreign.gettpi (h : Foreign k task) (oper : k.cur.operprv = false)
    (audit : k.cur.auditprv = false) (area : TCB maxTasks) :
    svcGettpi k (k.tct task).pid area = .ok (enopriv, area) := by
  unfold svcGettpi
  rw [h.findtcb]
  exact if_neg (h.unreadable oper audit)

end Refusals

section Copies
variable {bus : ADDRESS → Bool} {m : Core} {task other : Fin maxTasks}
variable {pid addr addr' size : WORD}

theorem Foreign.xcopy_to (h : Foreign m.kernel task) (oper : m.kernel.cur.operprv = false)
    (found : Muxx.findtcb m.kernel pid = some other) (nonempty : size ≠ 0) :
    m.svcXcopy bus (m.kernel.tct task).pid addr pid addr' size = .ok (enopriv, m) := by
  rw [Core.svcXcopy_eq nonempty (fun none => h.existing none.1) h.findtcb found]
  exact if_pos (.inr (h.unwritable oper))

theorem Foreign.xcopy_from (h : Foreign m.kernel task) (oper : m.kernel.cur.operprv = false)
    (audit : m.kernel.cur.auditprv = false) (found : Muxx.findtcb m.kernel pid = some other)
    (nonempty : size ≠ 0) :
    m.svcXcopy bus pid addr (m.kernel.tct task).pid addr' size = .ok (enopriv, m) := by
  rw [Core.svcXcopy_eq nonempty (fun none => h.existing none.2) found h.findtcb]
  exact if_pos (.inl (h.unreadable oper audit))

end Copies

/-- Without OPERPRV a task can neither stop, nor unprotect, nor write a task of
another owner, and without AUDITPRV it cannot read it. The calls answer an error
code, and the tables, the registers and the memory stay as they are. -/
theorem owners_separated (bus : ADDRESS → Bool) (m : Core) (task : Fin maxTasks)
    (foreign : Foreign m.kernel task) (oper : m.kernel.cur.operprv = false) :
    (∀ fp, svcSuspend m.kernel fp (some task) = .ok (some enopriv, m.kernel)) ∧
    (∀ page prot, ∃ rc < 0,
      svcProtmem m.kernel (m.kernel.tct task).pid page prot = (rc, m.kernel)) ∧
    (∀ srcpid src, findtcb m.kernel srcpid = some src → ∀ dstaddr srcaddr size, size ≠ 0 →
      m.svcXcopy bus (m.kernel.tct task).pid dstaddr srcpid srcaddr size = .ok (enopriv, m)) ∧
    (m.kernel.cur.auditprv = false →
      (∀ area, svcGettpi m.kernel (m.kernel.tct task).pid area = .ok (enopriv, area)) ∧
      ∀ dstpid dst, findtcb m.kernel dstpid = some dst → ∀ dstaddr srcaddr size, size ≠ 0 →
        m.svcXcopy bus dstpid dstaddr (m.kernel.tct task).pid srcaddr size =
          .ok (enopriv, m)) := by
  refine ⟨?_, ?_, ?_, ?_⟩
  · exact foreign.suspend oper
  · exact foreign.protmem oper
  · intro srcpid src found dstaddr srcaddr size nonempty
    exact foreign.xcopy_to oper found nonempty
  · intro audit
    constructor
    · exact foreign.gettpi oper audit
    · intro dstpid dst found dstaddr srcaddr size nonempty
      exact foreign.xcopy_from oper audit found nonempty

/-- Two tasks, of UICs 1 and 2. -/
def twoOwners : Core where
  kernel := {
    tct := fun i =>
      if i = 0 then { pid := 1, uic := 1, status := .run }
      else if i = 1 then { pid := 2, uic := 2 }
      else {}
    curtcb := 0
    mmcbt := {} }
  mem := fun _ => 0

theorem owners_separated_two :
    svcSuspend twoOwners.kernel {} (some 1) = .ok (some enopriv, twoOwners.kernel) ∧
      twoOwners.svcXcopy (fun _ => true) 0 0 2 0 1 = .ok (enopriv, twoOwners) := by
  have foreign : Foreign twoOwners.kernel 1 := ⟨by decide, by decide, by decide⟩
  obtain ⟨suspend, -, -, unread⟩ := owners_separated (fun _ => true) twoOwners 1 foreign (by decide)
  have found : findtcb twoOwners.kernel 0 = some 0 := by decide
  exact ⟨suspend {}, (unread (by decide)).2 0 0 found 0 0 1 (by decide)⟩

end Muxx
