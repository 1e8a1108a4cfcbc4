import Muxx.Creations

/-!
# The limits of a creation

What creprc and loadprc make of a task table without a free entry, and of the
type word that two functions take apart:

* `full_panics`: there is no error code for a full table;
* `decoded_alike_iff`: when muxx_taskinit and muxx_setup_taskmem see the same
  type in the word.
-/

namespace Muxx

open Fallible Run

/-! ## A full table -/

/-- Every entry has a task. -/
def Full (k : Kernel) : Prop := ∀ i, (k.tct i).pid ≠ 0

instance Full.decidable (k : Kernel) : Decidable (Full k) :=
  inferInstanceAs (Decidable (∀ i, (k.tct i).pid ≠ 0))

/-- The call says that it has failed and leaves everything as it was. -/
def CreateCall.Refused (k : Kernel) (c : CreateCall) : Prop :=
  ∃ rc k', c.call.run (k.withCur c.caller) = .ok (rc, k') ∧ rc < 0 ∧
    SameTables (k.withCur c.caller) k'

section Full
variable {k : Kernel}

/-- The pids run out, or the search for an entry does. -/
theorem taskinit_full (numbered : Numbered k) (full : Full k) (type ppid entry privs : WORD) :
    ∃ msg, taskinit k type ppid entry privs = .error (.panic msg) := by
  cases called : taskinit k type ppid entry privs with
  | ok r =>
    obtain ⟨new, k'⟩ := r
    obtain ⟨i, -, -, free, -⟩ := numbered.taskinit called
    exact absurd free (full i)
  | error e =>
    obtain ⟨msg, rfl⟩ := taskinit_panics called
    exact ⟨msg, rfl⟩

theorem newTask_full (numbered : Numbered k) (full : Full k) (name : Name)
    (type entry privs : WORD) : ∃ msg, newTask k name type entry privs = .error (.panic msg) := by
  obtain ⟨msg, panics⟩ := taskinit_full numbered full type k.cur.pid entry privs
  refine ⟨msg, ?_⟩
  rw [newTask, panics]
  rfl

/-- The callers of muxx_taskinit do not come back either. -/
theorem creation_full (numbered : Numbered k) (full : Full k) (c : Creation) :
    ∃ msg, c.run k = .error (.panic msg) := by
  obtain ⟨msg, panics⟩ := newTask_full numbered full c.name c.type c.entry c.privs
  refine ⟨msg, ?_⟩
  cases c with
  | creprc name type entry privs =>
    show svcCreprc k name type entry privs = _
    rw [svcCreprc, show newTask k name type entry privs = _ from panics]
    rfl
  | loadprc name type rshell file privs =>
    show svcLoadprc k name type rshell file privs = _
    rw [svcLoadprc, show newTask k name type rshell privs = _ from panics]
    rfl

end Full

theorem reachable_numbered {entry : ADDRESS} {k : Kernel}
    (h : Reachable CreateCall.step (fun k c => c.ByTask k) (boot entry) k) : Numbered k :=
  Reachable.invariant Numbered (boot_numbered entry) (fun _ _ _ inv _ => inv.step) h

/-- In every run of creations from boot, a call that finds the table full panics: none
is ever refused. -/
theorem full_panics (entry : ADDRESS) (k : Kernel)
    (h : Reachable CreateCall.step (fun k c => c.ByTask k) (boot entry) k) (full : Full k)
    (c : CreateCall) :
    ¬ c.Refused k ∧ ∃ msg, c.call.run (k.withCur c.caller) = .error (.panic msg) := by
  have numbered := (reachable_numbered h).withCur c.caller
  obtain ⟨msg, panics⟩ := creation_full numbered full c.call
  refine ⟨?_, msg, panics⟩
  rintro ⟨rc, k', called, -⟩
  cases panics.symm.trans called

/-- INIT creates 15 tasks, which fill the table. -/
def fifteen : List CreateCall :=
  List.replicate 15 ⟨0, .creprc (fun _ => 0x20) usrTask 0 0⟩

theorem fifteen_full :
    ∃ k, Reachable CreateCall.step (fun k c => c.ByTask k) (boot 0) k ∧ Full k ∧
      svcCreprc k (fun _ => 0x20) usrTask 0 0 = .error (.panic "TCT full") := by
  have meets : Meets CreateCall.step (fun k c => c.ByTask k) (boot 0) fifteen := by decide +kernel
  have fills : succeeds (exec CreateCall.step (boot 0) fifteen) (fun k => decide (Full k) &&
      failure (svcCreprc k (fun _ => 0x20) usrTask 0 0) == some (.panic "TCT full")) = true := by
    decide +kernel
  obtain ⟨k, ran, facts⟩ := succeeds_iff.mp fills
  obtain ⟨full, panics⟩ := Bool.and_eq_true_iff.mp facts
  exact ⟨k, reachable_exec meets ran, of_decide_eq_true full, failure_some (beq_iff_eq.mp panics)⟩

theorem full_panics_fifteen :
    ∃ k, Full k ∧ ¬ CreateCall.Refused k ⟨0, .creprc (fun _ => 0x20) usrTask 0 0⟩ := by
  obtain ⟨k, reached, full, -⟩ := fifteen_full
  exact ⟨k, full, (full_panics 0 k reached full _).1⟩

/-- The sixteenth creation panics. -/
theorem full_not_refused :
    ∃ k, Reachable CreateCall.step (fun k c => c.ByTask k) (boot 0) k ∧ Full k ∧
      svcCreprc k (fun _ => 0x20) usrTask 0 0 = .error (.panic "TCT full") ∧
      ¬ ∃ rc k', svcCreprc k (fun _ => 0x20) usrTask 0 0 = .ok (rc, k') ∧ rc < 0 := by
  obtain ⟨k, reached, full, panics⟩ := fifteen_full
  refine ⟨k, reached, full, panics, ?_⟩
  rintro ⟨rc, k', called, -⟩
  cases panics.symm.trans called

/-! ## The type word -/

/-- The pid of a task says the same of its type as the bits do that
muxx_setup_taskmem looks at. -/
structure DecodedAlike (type pid : WORD) : Prop where
  sys : pid ≤ maxspid ↔ type &&& 7 = sysTask ∨ type &&& 7 = drvTask
  usr : minupid < pid ↔ type &&& 7 = usrTask

/-- The type word is that of a system or driver task without a size; or it has the bits
of a user task, and the counter of user pids is in its range; or that counter still
gives system pids. -/
def DecodesAlike (k : Kernel) (type : WORD) : Prop :=
  type = sysTask ∨ type = drvTask ∨
    if type &&& 7 = usrTask then k.topupid = 0 ∨ minupid ≤ k.topupid
    else k.topupid ≠ 0 ∧ k.topupid < maxspid

section Types
variable {k k₁ k' : Kernel} {i : Fin maxTasks} {name : Name} {type ppid entry privs pid : WORD}

theorem taskinit_made (called : taskinit k type ppid entry privs = .ok (.ok i, k')) :
    ∃ pid k₁, newPid k type = .ok (pid, k₁) ∧ pid ≠ 0 ∧ (k'.tct i).pid = pid ∧
      (k'.tct i).taskType = type := by
  unfold taskinit at called
  split at called
  · cases called
  obtain ⟨⟨pid, k₁⟩, assigned, rest⟩ := bind_ok.mp called
  dsimp only at rest
  by_cases zero : pid = 0
  · rw [if_pos zero] at rest
    cases rest
  rw [if_neg zero] at rest
  generalize freeTcb k₁ = found at rest
  split at rest
  · cases rest
  cases rest
  refine ⟨pid, k₁, assigned, zero, ?_⟩
  rw [Kernel.setTcb_self]
  exact ⟨rfl, rfl⟩

/-- The types that muxx_setup_taskmem accepts. -/
theorem setupTaskmem_type {task tcb : TCB maxTasks} {t t' : MMCBT}
    (setUp : setupTaskmem task t = .ok (eok, tcb, t')) :
    task.ttype = sysTask ∨ task.ttype = usrTask ∨ task.ttype = drvTask := by
  have valid : checkType task = eok := by
    by_contra refused
    rw [setupTaskmem, if_pos refused] at setUp
    exact refused (congrArg Prod.fst (Except.ok.inj setUp))
  by_contra other
  rw [not_or, not_or] at other
  unfold checkType at valid
  rw [if_neg other.1, if_neg other.2.1, if_neg other.2.2, ite_self] at valid
  exact absurd valid (by decide)

/-- What counts for the pid. -/
theorem newPid_system (system : type = sysTask ∨ type = drvTask)
    (called : newPid k type = .ok (pid, k₁)) : pid ≤ maxspid := by
  rw [newPid, if_pos system] at called
  obtain ⟨p, assigned, ret⟩ := bind_ok.mp called
  cases ret
  exact (assignPid_ok assigned).2

theorem newPid_user (user : ¬ (type = sysTask ∨ type = drvTask))
    (called : newPid k type = .ok (pid, k₁)) :
    pid = (if k.topupid = 0 then minupid else k.topupid) + 1 := by
  rw [newPid, if_neg user] at called
  obtain ⟨p, assigned, ret⟩ := bind_ok.mp called
  cases ret
  exact (assignPid_ok assigned).1

/-- A user pid is in the range of the user pids when the counter is. -/
theorem user_pid (nonzero : pid ≠ 0)
    (val : pid = (if k.topupid = 0 then minupid else k.topupid) + 1) :
    (minupid < pid ↔ k.topupid = 0 ∨ minupid ≤ k.topupid) ∧
      (pid ≤ maxspid ↔ k.topupid ≠ 0 ∧ k.topupid < maxspid) := by
  by_cases zero : k.topupid = 0
  · rw [if_pos zero] at val
    subst val
    simp only [zero, true_or, ne_eq, not_true_eq_false, false_and, iff_true, iff_false]
    decide
  · rw [if_neg zero] at val
    have next : pid.toNat = k.topupid.toNat + 1 := by
      bv_omega
    have positive : k.topupid.toNat ≠ 0 := fun h => zero (BitVec.eq_of_toNat_eq h)
    simp only [zero, false_or, ne_eq, not_false_eq_true, true_and, BitVec.lt_def, BitVec.le_def,
      next]
    have min : minupid.toNat = 64 := rfl
    have max : maxspid.toNat = 63 := rfl
    omega

end Types

/-- When a task is created and gets its memory, its pid is in the range of the type that
its memory is for exactly under the condition above. -/
theorem decoded_alike_iff (k k₁ : Kernel) (i : Fin maxTasks) (name : Name)
    (type ppid entry privs : WORD) (tcb : TCB maxTasks) (t : MMCBT)
    (initialised : taskinit k type ppid entry privs = .ok (.ok i, k₁))
    (setUp : setupTaskmem { k₁.tct i with taskname := name } k₁.mmcbt = .ok (eok, tcb, t)) :
    DecodedAlike type (k₁.tct i).pid ↔ DecodesAlike k type := by
  obtain ⟨pid, k₂, assigned, nonzero, same, word⟩ := taskinit_made initialised
  have accepted := setupTaskmem_type setUp
  have accepted : type &&& 7 = sysTask ∨ type &&& 7 = usrTask ∨ type &&& 7 = drvTask := by
    rw [← word]
    exact accepted
  have apart (low : pid ≤ maxspid) : ¬ minupid < pid := by
    rw [BitVec.lt_def]
    exact Nat.not_lt.mpr (Nat.le_trans (BitVec.le_def.mp low) (by decide))
  rw [same]
  by_cases system : type = sysTask ∨ type = drvTask
  · have low := newPid_system system assigned
    have bits : (type &&& 7 = sysTask ∨ type &&& 7 = drvTask) ∧ type &&& 7 ≠ usrTask := by
      rcases system with rfl | rfl <;> decide
    refine iff_of_true ⟨iff_of_true low bits.1, iff_of_false (apart low) bits.2⟩ ?_
    exact or_assoc.mp (.inl system)
  · obtain ⟨above, below⟩ := user_pid nonzero (newPid_user system assigned)
    have otherwise : DecodesAlike k type ↔ if type &&& 7 = usrTask then minupid < pid
        else pid ≤ maxspid := by
      rw [DecodesAlike, ← or_assoc, or_iff_right system, above, below]
    rw [otherwise]
    by_cases user : type &&& 7 = usrTask
    · rw [if_pos user]
      have bits : ¬ (type &&& 7 = sysTask ∨ type &&& 7 = drvTask) := by
        rw [user]
        decide
      constructor
      · exact fun alike => alike.usr.mpr user
      · intro high
        exact ⟨iff_of_false (fun low => apart low high) bits, iff_of_true high user⟩
    · rw [if_neg user]
      have bits : type &&& 7 = sysTask ∨ type &&& 7 = drvTask :=
        accepted.imp_right fun h => h.resolve_left user
      constructor
      · exact fun alike => alike.sys.mpr bits
      · intro low
        exact ⟨iff_of_true low bits, iff_of_false (apart low) user⟩

/-- The pid that INIT gets for a task of a type, and how its memory is set up. -/
def created (type : WORD) : Except Fault (WORD × Int) := do
  let (new, k) ← taskinit (boot 0) type 1 0 0
  match new with
  | .error _ => throw .outside
  | .ok i =>
    let (rc, _, _) ← setupTaskmem { k.tct i with taskname := fun _ => 0x20 } k.mmcbt
    return ((k.tct i).pid, rc)

theorem created_ok {type pid : WORD} (h : created type = .ok (pid, eok)) :
    ∃ i k₁ tcb t, taskinit (boot 0) type 1 0 0 = .ok (.ok i, k₁) ∧
      setupTaskmem { k₁.tct i with taskname := fun _ => 0x20 } k₁.mmcbt = .ok (eok, tcb, t) ∧
      (k₁.tct i).pid = pid := by
  obtain ⟨⟨new, k₁⟩, initialised, rest⟩ := bind_ok.mp h
  cases new with
  | error rc => cases rest
  | ok i =>
    obtain ⟨⟨rc, tcb, t⟩, setUp, ret⟩ := bind_ok.mp rest
    obtain ⟨same, rfl⟩ := Prod.mk.inj (Except.ok.inj ret)
    exact ⟨i, k₁, tcb, t, initialised, setUp, same⟩

theorem creates {type : WORD} (h : succeeds (created type) (fun r => r.2 == eok) = true) :
    ∃ pid, created type = .ok (pid, eok) := by
  obtain ⟨⟨pid, rc⟩, ran, ok⟩ := succeeds_iff.mp h
  obtain rfl : rc = eok := beq_iff_eq.mp ok
  exact ⟨pid, ran⟩

/-- INIT creates a user task of medium size. -/
theorem decoded_alike_user : ∃ pid, created (usrTask ||| tszMed) = .ok (pid, eok) ∧
    DecodedAlike (usrTask ||| tszMed) pid := by
  obtain ⟨pid, ran⟩ : ∃ pid, created (usrTask ||| tszMed) = .ok (pid, eok) :=
    creates (by decide +kernel)
  obtain ⟨i, k₁, tcb, t, initialised, setUp, same⟩ := created_ok ran
  have alike : DecodesAlike (boot 0) (usrTask ||| tszMed) := by
    refine .inr (.inr ?_)
    rw [if_pos (by decide)]
    exact .inl rfl
  subst same
  exact ⟨_, ran, (decoded_alike_iff (boot 0) k₁ i _ _ 1 0 0 tcb t initialised setUp).mpr alike⟩

/-- A driver task of medium size gets the pid of a user task. -/
theorem decoded_differently : created (drvTask ||| tszMed) = .ok (0o101, eok) ∧
    ¬ DecodedAlike (drvTask ||| tszMed) 0o101 := by
  constructor
  · have ran : succeeds (created (drvTask ||| tszMed)) (fun r => r == (0o101, eok)) = true := by
      decide +kernel
    obtain ⟨r, ran, same⟩ := succeeds_iff.mp ran
    rw [beq_iff_eq.mp same] at ran
    exact ran
  · intro alike
    exact absurd (alike.sys.mpr (by decide)) (by decide)

end Muxx
