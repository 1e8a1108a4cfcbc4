import Muxx.Owners

/-!
# Pids that no task has

muxx_findtcb answers NULL for them: what the services that take a pid make of
that.

* `PidCall`: the services;
* `PidCall.Refused`: a call that answers an error code and does nothing else;
* `refused_iff`: the calls that do so.
-/

namespace Muxx

open Fallible

/-- A pid that names no task, and not the caller as 0 does. -/
def Unknown (k : Kernel) (pid : WORD) : Prop := pid ≠ 0 ∧ ∀ i, (k.tct i).pid ≠ pid

/-- The system calls with pids. `area` is the caller's copy of a task control block. -/
inductive PidCall
  | gettpi (pid : WORD) (area : TCB maxTasks)
  | protmem (pid page prot : WORD)
  | xcopy (dstpid dstaddr srcpid srcaddr size : WORD)

namespace PidCall

/-- A pid of the call, when it is looked for at all, is unknown. -/
def Asks (k : Kernel) : PidCall → Prop
  | gettpi pid _ => Unknown k pid
  | protmem pid _ _ => Unknown k pid
  | xcopy dstpid _ srcpid _ size => size ≠ 0 ∧ (Unknown k dstpid ∨ Unknown k srcpid)

/-- The call answers an error code, and tables, registers and memory stay. -/
def Refused (bus : ADDRESS → Bool) (m : Core) : PidCall → Prop
  | gettpi pid area => ∃ rc < 0, svcGettpi m.kernel pid area = .ok (rc, area)
  | protmem pid page prot => ∃ rc < 0, svcProtmem m.kernel pid page prot = (rc, m.kernel)
  | xcopy dstpid dstaddr srcpid srcaddr size =>
    ∃ rc < 0, m.svcXcopy bus dstpid dstaddr srcpid srcaddr size = .ok (rc, m)

/-- The call looks at the answer of muxx_findtcb before it follows it, or does not
come to follow it. -/
def Checks (k : Kernel) : PidCall → Prop
  | gettpi .. => False
  | protmem .. => True
  | xcopy _ _ srcpid .. => ∃ src, findtcb k srcpid = some src ∧ ¬ Core.mayRead k src

end PidCall

section Unknown
variable {k : Kernel} {pid : WORD}

theorem findtcb_unknown : findtcb k pid = none ↔ Unknown k pid := by
  unfold findtcb Unknown
  by_cases zero : pid = 0
  · rw [if_pos zero]
    exact iff_of_false (Option.some_ne_none _) fun unknown => unknown.1 zero
  · rw [if_neg zero, List.find?_eq_none]
    constructor
    · intro none
      exact ⟨zero, fun i same => none i (List.mem_finRange i) (beq_iff_eq.mpr same)⟩
    · intro unknown i _ same
      exact unknown.2 i (beq_iff_eq.mp same)

theorem gettpi_unknown (unknown : Unknown k pid) (area : TCB maxTasks) :
    svcGettpi k pid area = .error .nullref := by
  rw [svcGettpi, findtcb_unknown.mpr unknown]

theorem protmem_unknown (unknown : Unknown k pid) (page prot : WORD) :
    ∃ rc < 0, svcProtmem k pid page prot = (rc, k) := by
  by_cases checked : protmemCheck k pid page prot = eok
  · refine ⟨enotfound, by decide, ?_⟩
    unfold svcProtmem
    rw [checked]
    simp only [ne_eq, not_true_eq_false, if_false, if_neg unknown.1, findtcb_unknown.mpr unknown]
  · have negative : protmemCheck k pid page prot < 0 := by
      unfold protmemCheck at checked ⊢
      split_ifs at checked ⊢ <;> first | decide | exact absurd rfl checked
    refine ⟨protmemCheck k pid page prot, negative, ?_⟩
    unfold svcProtmem
    exact if_pos checked

end Unknown

section Copies
variable {bus : ADDRESS → Bool} {m : Core} {src : Fin maxTasks}
variable {dstpid dstaddr srcpid srcaddr size : WORD}

theorem Unknown.apart (unknown : Unknown m.kernel dstpid ∨ Unknown m.kernel srcpid) :
    ¬ (dstpid = 0 ∧ srcpid = 0) := by
  rintro ⟨dst, src⟩
  rcases unknown with h | h
  · exact h.1 dst
  · exact h.1 src

theorem xcopy_unknown_src (nonempty : size ≠ 0) (unknown : Unknown m.kernel srcpid) :
    m.svcXcopy bus dstpid dstaddr srcpid srcaddr size = .error .nullref := by
  have missing : findtcb m.kernel.setpl7 srcpid = none := findtcb_unknown.mpr unknown
  unfold Core.svcXcopy
  rw [if_neg nonempty, if_neg (Unknown.apart (.inr unknown))]
  simp only [ok_bind, missing]
  rfl

/-- The permission for the source is looked at first. -/
theorem xcopy_unknown_dst (nonempty : size ≠ 0) (unknown : Unknown m.kernel dstpid)
    (found : findtcb m.kernel srcpid = some src) :
    m.svcXcopy bus dstpid dstaddr srcpid srcaddr size =
      if Core.mayRead m.kernel src then .error .nullref else .ok (enopriv, m) := by
  have missing : findtcb m.kernel.setpl7 dstpid = none := findtcb_unknown.mpr unknown
  have found : findtcb m.kernel.setpl7 srcpid = some src := found
  have read : Core.mayRead m.kernel.setpl7 src ↔ Core.mayRead m.kernel src := Iff.rfl
  unfold Core.svcXcopy
  rw [if_neg nonempty, if_neg (Unknown.apart (.inl unknown))]
  simp only [ok_bind, missing, found, read]
  by_cases read : Core.mayRead m.kernel src
  · rw [if_neg (not_not.mpr read), if_pos read]
    rfl
  · rw [if_pos read, if_neg read]
    rfl

end Copies

/-- A call for a pid that no task has is refused exactly when it does not follow the
null pointer that it finds. -/
theorem refused_iff (bus : ADDRESS → Bool) (m : Core) (c : PidCall) (asks : c.Asks m.kernel) :
    c.Refused bus m ↔ c.Checks m.kernel := by
  cases c with
  | gettpi pid area =>
    refine iff_of_false ?_ not_false
    rintro ⟨rc, -, called⟩
    cases (gettpi_unknown asks area).symm.trans called
  | protmem pid page prot => exact iff_of_true (protmem_unknown asks page prot) trivial
  | xcopy dstpid dstaddr srcpid srcaddr size =>
    obtain ⟨nonempty, unknown⟩ := asks
    cases found : findtcb m.kernel srcpid with
    | none =>
      apply iff_of_false
      · rintro ⟨rc, -, called⟩
        cases (xcopy_unknown_src nonempty (findtcb_unknown.mp found)).symm.trans called
      · rintro ⟨src, found', -⟩
        cases found.symm.trans found'
    | some src =>
      have unknown : Unknown m.kernel dstpid := by
        refine unknown.resolve_right fun unknown => ?_
        cases (findtcb_unknown.mpr unknown).symm.trans found
      have called : m.svcXcopy bus dstpid dstaddr srcpid srcaddr size =
          if Core.mayRead m.kernel src then .error .nullref else .ok (enopriv, m) :=
        xcopy_unknown_dst nonempty unknown found
      by_cases read : Core.mayRead m.kernel src
      · rw [if_pos read] at called
        apply iff_of_false
        · rintro ⟨rc, -, ok⟩
          cases called.symm.trans ok
        · rintro ⟨src', found', unreadable⟩
          cases found.symm.trans found'
          exact unreadable read
      · rw [if_neg read] at called
        exact iff_of_true ⟨enopriv, by decide, called⟩ ⟨src, found, read⟩

theorem unknown_twoOwners : Unknown twoOwners.kernel 7 := ⟨by decide, by decide⟩

theorem refused_protmem : (PidCall.protmem 7 3 0).Refused (fun _ => true) twoOwners :=
  (refused_iff (fun _ => true) twoOwners (.protmem 7 3 0) unknown_twoOwners).mpr trivial

/-- muxx_svc_gettpi follows the null pointer for pid 7. -/
theorem gettpi_follows : svcGettpi twoOwners.kernel 7 {} = .error .nullref ∧
    ¬ (PidCall.gettpi 7 {}).Refused (fun _ => true) twoOwners := by
  have follows : svcGettpi twoOwners.kernel 7 {} = .error .nullref :=
    gettpi_unknown unknown_twoOwners {}
  refine ⟨follows, ?_⟩
  rintro ⟨rc, -, called⟩
  cases follows.symm.trans called

end Muxx
