import Mathlib.Logic.Relation
import Muxx.Creations
import Muxx.Drivers
import Muxx.Protection

/-!
# Privileges

muxx_taskinit gives a new task the privileges its creator asks for, and no
service compares them with the creator's own:

* `Numbered.fills`: what a creation writes into the task table;
* `Lineage`: tasks and their creators, in runs of creations from boot;
* `Lineage.descends`: where every creator asks for no more than it has, no
  task has more than those it descends from;
* `privileges_given`: both together.
-/

namespace Muxx

open Fallible Run

/-- Every privilege in `p` is in `q`. -/
def Contained (p q : WORD) : Prop := p &&& q = p

instance (p q : WORD) : Decidable (Contained p q) := inferInstanceAs (Decidable (_ = _))

section Contained
variable {p q r : WORD}

theorem Contained.lacks (h : Contained p q) {b : Nat} (lacks : q.getLsbD b = false) :
    p.getLsbD b = false := by
  rw [← h, BitVec.getLsbD_and, lacks, Bool.and_false]

theorem Contained.trans (h : Contained p q) (h' : Contained q r) : Contained p r := by
  have both : p &&& q &&& r = p &&& (q &&& r) := BitVec.and_assoc ..
  rwa [h', show p &&& q = p from h] at both

end Contained

/-- `i` created `j`. -/
def Creates (k : Kernel) (i j : Fin maxTasks) : Prop :=
  (k.tct i).pid ≠ 0 ∧ (k.tct j).pid ≠ 0 ∧ (k.tct j).ppid = (k.tct i).pid

def Descends (k : Kernel) : Fin maxTasks → Fin maxTasks → Prop := Relation.TransGen (Creates k)

/-- The caller asks for no privilege that it lacks. -/
def CreateCall.Modest (k : Kernel) (c : CreateCall) : Prop :=
  Contained c.call.privs (k.tct c.caller).privileges

instance (k : Kernel) (c : CreateCall) : Decidable (c.Modest k) :=
  inferInstanceAs (Decidable (Contained _ _))

/-- The services that are for tasks with OPERPRV refuse the running one. -/
structure Refused (k : Kernel) : Prop where
  protmem : ∀ pid page prot, pid ≠ k.cur.pid ∧ pid ≠ 0 ∨ page ≤ 2 →
    (svcProtmem k pid page prot).1 < 0 ∧ (svcProtmem k pid page prot).2 = k
  drvreg : ∀ vectors name descriptor handler,
    svcDrvreg k vectors name descriptor handler = (enopriv, k, vectors)
  drvstart : ∀ drvExec drvnam, svcDrvstart drvExec k drvnam = (enopriv, k)
  drvstop : ∀ drvExec drvnam, svcDrvstop drvExec k drvnam = (enopriv, k)

theorem protmemCheck_refused {k : Kernel} (lacks : k.cur.operprv = false) {pid page : WORD}
    (prot : WORD) (foreign : pid ≠ k.cur.pid ∧ pid ≠ 0 ∨ page ≤ 2) :
    protmemCheck k pid page prot < 0 := by
  unfold protmemCheck
  rw [lacks]
  split_ifs with invalid other large shared
  · decide
  · decide
  · decide
  · decide
  · rcases foreign with others | low
    · exact absurd ⟨others, not_false⟩ other
    · exact absurd ⟨low, not_false⟩ shared

theorem refused_of_lacks {k : Kernel} (lacks : k.cur.operprv = false) : Refused k where
  protmem := by
    intro pid page prot foreign
    have negative := protmemCheck_refused lacks prot foreign
    have failed : protmemCheck k pid page prot ≠ eok := ne_of_lt negative
    rw [svcProtmem, if_pos failed]
    exact ⟨negative, rfl⟩
  drvreg := svcDrvreg_refused lacks
  drvstart := fun drvExec drvnam => drvStartstop_refused lacks drvExec drvStart drvnam
  drvstop := fun drvExec drvnam => drvStartstop_refused lacks drvExec drvStop drvnam

/-! ## Creations -/

/-- `i` is a new task in `k'`, made by call `c`, and nothing else about the
tasks has changed. -/
structure Fills (k : Kernel) (c : CreateCall) (i : Fin maxTasks) (k' : Kernel) : Prop where
  free : (k.tct i).pid = 0
  pid : (k'.tct i).pid ≠ 0
  unseen : ∀ j, (k.tct j).pid ≠ (k'.tct i).pid
  ppid : (k'.tct i).ppid = (k.tct c.caller).pid
  privileges : (k'.tct i).privileges = c.call.privs
  others : ∀ j, j ≠ i → (k'.tct j).pid = (k.tct j).pid ∧ (k'.tct j).ppid = (k.tct j).ppid ∧
    (k'.tct j).privileges = (k.tct j).privileges

section Fills
variable {k k' : Kernel} {c : CreateCall}

theorem Numbered.fills (h : Numbered k) (stepped : c.step k = .ok k') : ∃ i, Fills k c i k' := by
  obtain ⟨i, tcb, k₁, made, ⟨priv, parent⟩, -, linked⟩ := h.created stepped
  have unlinked (j : Fin maxTasks) : (k'.tct j).unlinked = (k₁.tct j).unlinked := by
    rcases linked with rfl | only
    · rfl
    · exact only.tasks j
  have pid (j : Fin maxTasks) : (k'.tct j).pid = (k₁.tct j).pid :=
    congrArg (fun t => t.pid) (unlinked j)
  have ppid (j : Fin maxTasks) : (k'.tct j).ppid = (k₁.tct j).ppid :=
    congrArg (fun t => t.ppid) (unlinked j)
  have privileges (j : Fin maxTasks) : (k'.tct j).privileges = (k₁.tct j).privileges :=
    congrArg (fun t => t.privileges) (unlinked j)
  refine ⟨i, made.entry.2, ?_, ?_, ?_, ?_, ?_⟩
  · rw [pid, made.self]
    intro zero
    have range := made.pid_range.1
    rw [zero] at range
    exact absurd range (by decide)
  · intro j
    rw [pid, made.self]
    exact made.unseen j
  · rw [ppid, made.self, parent]
  · rw [privileges, made.self, priv]
  · intro j other
    rw [pid, ppid, privileges, made.other other]
    exact ⟨rfl, rfl, rfl⟩

/-- The creator of a task is a task, or it is INIT and has none. -/
structure Lineage (k : Kernel) : Prop where
  numbered : Numbered k
  rooted : ∀ j, (k.tct j).pid ≠ 0 → (k.tct j).ppid = 0 ∨ ∃ i, (k.tct i).pid = (k.tct j).ppid

/-- A new task is made by the caller and has made no task yet. -/
theorem Lineage.creates {i : Fin maxTasks} (h : Lineage k) (byTask : c.ByTask k)
    (fills : Fills k c i k') {a b : Fin maxTasks} (made : Creates k' a b) :
    a = c.caller ∧ b = i ∨ b ≠ i ∧ a ≠ i ∧ Creates k a b := by
  obtain ⟨parent, child, link⟩ := made
  have stays : c.caller ≠ i := fun he => byTask (he ▸ fills.free)
  have notNew {j : Fin maxTasks} {p : WORD} (hp : (k.tct j).pid = p) : (k'.tct i).pid ≠ p :=
    fun he => fills.unseen j (hp.trans he.symm)
  by_cases new : b = i
  · subst new
    rw [fills.ppid] at link
    have old : a ≠ b := by
      rintro rfl
      exact notNew rfl link.symm
    rw [(fills.others a old).1] at link
    exact .inl ⟨h.numbered.pids.unique a c.caller (link ▸ byTask) link.symm, rfl⟩
  · obtain ⟨pid, ppid, -⟩ := fills.others b new
    rw [pid] at child
    rw [ppid] at link
    have old : a ≠ i := by
      rintro rfl
      rcases h.rooted b child with none | ⟨j, known⟩
      · exact parent (link.symm.trans none)
      · exact notNew known link.symm
    rw [(fills.others a old).1] at link parent
    exact .inr ⟨new, old, parent, child, link⟩

theorem Lineage.step (h : Lineage k) (stepped : c.step k = .ok k') : Lineage k' := by
  obtain ⟨i, fills⟩ := h.numbered.fills stepped
  refine ⟨h.numbered.step stepped, ?_⟩
  have kept {p : WORD} (nonzero : p ≠ 0) (known : ∃ l, (k.tct l).pid = p) :
      ∃ l, (k'.tct l).pid = p := by
    obtain ⟨l, rfl⟩ := known
    have old : l ≠ i := fun he => nonzero (he ▸ fills.free)
    exact ⟨l, (fills.others l old).1⟩
  intro j task
  by_cases new : j = i
  · subst new
    rw [fills.ppid]
    by_cases zero : (k.tct c.caller).pid = 0
    · exact .inl zero
    · exact .inr (kept zero ⟨c.caller, rfl⟩)
  · obtain ⟨pid, ppid, -⟩ := fills.others j new
    rw [pid] at task
    rw [ppid]
    by_cases zero : (k.tct j).ppid = 0
    · exact .inl zero
    · exact .inr (kept zero ((h.rooted j task).resolve_left zero))

end Fills

theorem boot_lineage (entry : ADDRESS) : Lineage (boot entry) := by
  refine ⟨boot_numbered entry, ?_⟩
  intro j task
  rw [boot_pid] at task
  have init : j = 0 := by
    by_contra other
    exact task (if_neg other)
  rw [init, boot_self]
  exact .inl rfl

/-- No task has a privilege that its creator lacks. -/
def Inherits (k : Kernel) : Prop :=
  ∀ i j, Creates k i j → Contained (k.tct j).privileges (k.tct i).privileges

section Runs
variable {k k' : Kernel} {c : CreateCall}

theorem Inherits.step (h : Inherits k) (lineage : Lineage k) (byTask : c.ByTask k)
    (modest : c.Modest k) (stepped : c.step k = .ok k') : Inherits k' := by
  obtain ⟨i, fills⟩ := lineage.numbered.fills stepped
  intro a b made
  rcases lineage.creates byTask fills made with ⟨rfl, rfl⟩ | ⟨new, old, made⟩
  · have stays : c.caller ≠ b := fun he => byTask (he ▸ fills.free)
    rw [fills.privileges, (fills.others c.caller stays).2.2]
    exact modest
  · rw [(fills.others a old).2.2, (fills.others b new).2.2]
    exact h a b made

theorem Inherits.descends (h : Inherits k) {i j : Fin maxTasks} (descends : Descends k i j) :
    Contained (k.tct j).privileges (k.tct i).privileges := by
  induction descends with
  | single made => exact h _ _ made
  | tail _ made ih => exact (h _ _ made).trans ih

end Runs

theorem boot_inherits (entry : ADDRESS) : Inherits (boot entry) := by
  rintro i j ⟨parent, child, link⟩
  rw [boot_pid] at parent child
  have init {l : Fin maxTasks} (task : (if l = 0 then (1 : WORD) else 0) ≠ 0) : l = 0 := by
    by_contra other
    exact task (if_neg other)
  rw [init child, boot_self, boot_pid, if_pos (init parent)] at link
  have link : (0 : WORD) = 1 := link
  exact absurd link (by decide)

/-- A created task has the privileges its creator asked for, whatever those of
the creator. Where every creator asks for none that it lacks, no task has a
privilege that one it descends from lacks; so the descendants of a task
without OPERPRV are refused what is for tasks with OPERPRV. -/
theorem privileges_given (entry : ADDRESS) (k : Kernel)
    (h : Reachable CreateCall.step (fun k c => c.ByTask k) (boot entry) k) :
    (∀ c k', c.ByTask k → c.step k = .ok k' → ∃ i, Fills k c i k') ∧
    (Reachable CreateCall.step (fun k c => c.ByTask k ∧ c.Modest k) (boot entry) k →
      ∀ i j, Descends k i j →
        Contained (k.tct j).privileges (k.tct i).privileges ∧
        ((k.tct i).operprv = false → (k.tct j).operprv = false ∧ Refused (k.withCur j)) ∧
        ((k.tct i).ioprv = false → (k.tct j).ioprv = false) ∧
        ((k.tct i).auditprv = false → (k.tct j).auditprv = false)) := by
  constructor
  · have numbered : Numbered k :=
      Reachable.invariant Numbered (boot_numbered entry) (fun _ _ _ inv _ => inv.step) h
    intro c k' _ stepped
    exact numbered.fills stepped
  · intro modest i j descends
    have invariant : Lineage k ∧ Inherits k := by
      refine Reachable.invariant (fun k => Lineage k ∧ Inherits k)
        ⟨boot_lineage entry, boot_inherits entry⟩ ?_ modest
      rintro s c s' ⟨lineage, inherits⟩ ⟨byTask, modest⟩ stepped
      exact ⟨lineage.step stepped, inherits.step lineage byTask modest stepped⟩
    have contained := invariant.2.descends descends
    refine ⟨contained, ?_, ?_, ?_⟩
    · intro lacks
      have lacks' : (k.tct j).operprv = false := contained.lacks lacks
      exact ⟨lacks', refused_of_lacks lacks'⟩
    · intro lacks
      exact contained.lacks lacks
    · intro lacks
      exact contained.lacks lacks

/-- A small user task, created by `caller` with the given privileges. -/
def createBy (caller : Fin maxTasks) (privs : WORD) : CreateCall :=
  ⟨caller, .creprc (fun _ => 0x20) usrTask 0 privs⟩

/-- INIT creates a task with AUDITPRV, which creates one without privileges. -/
theorem privileges_given_run :
    ∃ k, Reachable CreateCall.step (fun k c => c.ByTask k ∧ c.Modest k) (boot 0) k ∧
      Descends k 0 2 ∧ Contained (k.tct 2).privileges (k.tct 0).privileges := by
  let calls := [createBy 0 4, createBy 1 0]
  have byTask : Meets CreateCall.step (fun k c => c.ByTask k) (boot 0) calls := by decide +kernel
  have modest : Meets CreateCall.step (fun k c => c.ByTask k ∧ c.Modest k) (boot 0) calls := by
    decide +kernel
  have result : succeeds (exec CreateCall.step (boot 0) calls) (fun k =>
      ((k.tct 0).pid ≠ 0 ∧ (k.tct 1).pid ≠ 0 ∧ (k.tct 1).ppid = (k.tct 0).pid) ∧
      (k.tct 1).pid ≠ 0 ∧ (k.tct 2).pid ≠ 0 ∧ (k.tct 2).ppid = (k.tct 1).pid) = true := by
    decide +kernel
  obtain ⟨k, ran, facts⟩ := succeeds_iff.mp result
  obtain ⟨first, second⟩ := of_decide_eq_true facts
  have descends : Descends k 0 2 := .tail (.single first) second
  have reached := reachable_exec modest ran
  exact ⟨k, reached, descends,
    ((privileges_given 0 k (reachable_exec byTask ran)).2 reached 0 2 descends).1⟩

/-- A task without privileges creates one with OPERPRV, which then takes a
page away from it. -/
theorem privileges_escalate :
    ∃ k rc k', Reachable CreateCall.step (fun k c => c.ByTask k) (boot 0) k ∧
      (k.tct 1).privileges = 0 ∧ (createBy 1 1).call.run (k.withCur 1) = .ok (rc, k') ∧
      rc = (k'.tct 2).pid.toNat ∧ Creates k' 1 2 ∧
      ¬ Contained (k'.tct 2).privileges (k.tct 1).privileges ∧
      (svcProtmem (k'.withCur 2) (k'.tct 1).pid 3 pdrAccNa).1 = eok := by
  have meets : Meets CreateCall.step (fun k c => c.ByTask k) (boot 0) [createBy 0 0] := by
    decide +kernel
  have before : succeeds (exec CreateCall.step (boot 0) [createBy 0 0]) (fun k =>
      (k.tct 1).privileges = 0 ∧
      succeeds ((createBy 1 1).call.run (k.withCur 1)) (fun r =>
        r.1 = (r.2.tct 2).pid.toNat ∧
        ((r.2.tct 1).pid ≠ 0 ∧ (r.2.tct 2).pid ≠ 0 ∧ (r.2.tct 2).ppid = (r.2.tct 1).pid) ∧
        ¬ Contained (r.2.tct 2).privileges (k.tct 1).privileges ∧
        (svcProtmem (r.2.withCur 2) (r.2.tct 1).pid 3 pdrAccNa).1 = eok) = true) = true := by
    decide +kernel
  obtain ⟨k, ran, facts⟩ := succeeds_iff.mp before
  obtain ⟨none, result⟩ := of_decide_eq_true facts
  obtain ⟨⟨rc, k'⟩, called, facts⟩ := succeeds_iff.mp result
  obtain ⟨returned, creates, more, taken⟩ := of_decide_eq_true facts
  exact ⟨k, rc, k', reachable_exec meets ran, none, called, returned, creates, more, taken⟩

end Muxx
