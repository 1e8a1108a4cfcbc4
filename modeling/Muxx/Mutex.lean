import Mathlib.Data.Fin.VecNotation
import Muxx.Lib.Run
import Muxx.Types

/-!
# Mutexes

muxx_svc_mutex of muxx_systrap_svc.c, what each operation does, and any
interleaving of calls:

* `svcMutex_alloc_free`, `svcMutex_alloc_taken`, `svcMutex_dealloc_own`,
  `svcMutex_dealloc_other`: the outcomes of a call;
* `keptPid`: the byte the table keeps for a task;
* `mutex_exclusive_iff`: a mutex belongs to the task that allocated it, as
  long as pids fit in a byte.
-/

namespace Muxx

open Run

/-- The byte that `mutexes[mutex] = curtcb->pid` stores. -/
def keptPid (pid : WORD) : BYTE := pid.setWidth 8

def Kernel.setMutex (k : Kernel) (mutex : Nat) (b : BYTE) : Kernel :=
  { k with mutexes := Function.update k.mutexes mutex b }

@[simp] theorem Kernel.setMutex_mutexes (k : Kernel) (mutex : Nat) (b : BYTE) :
    (k.setMutex mutex b).mutexes = Function.update k.mutexes mutex b := rfl

/-- A mutex that is locked keeps the priority at 7. -/
def svcMutex (k : Kernel) (mutex op : WORD) : Int × Kernel :=
  if mutex > mutMutexes then (einvval, k)
  else if op = mutRead then ((k.mutexes mutex.toNat).toNat, k)
  else if op = mutAlloc then
    let curpl := k.ipl
    let k := k.setpl7
    if k.mutexes mutex.toNat = 0 then
      (eok, (k.setMutex mutex.toNat (keptPid k.cur.pid)).setpl curpl)
    else (elocked, k)
  else if op = mutDealloc then
    let curpl := k.ipl
    let k := k.setpl7
    if (k.mutexes mutex.toNat).setWidth 16 = k.cur.pid then
      (eok, (k.setMutex mutex.toNat 0).setpl curpl)
    else (elocked, k)
  else (einvval, k)

section Outcomes
variable {k : Kernel} {mutex : WORD}

theorem svcMutex_read (valid : mutex ≤ mutMutexes) :
    svcMutex k mutex mutRead = (((k.mutexes mutex.toNat).toNat : Int), k) := by
  unfold svcMutex
  rw [if_neg (BitVec.not_lt.mpr valid), if_pos rfl]

theorem svcMutex_alloc_free (valid : mutex ≤ mutMutexes) (free : k.mutexes mutex.toNat = 0) :
    svcMutex k mutex mutAlloc = (eok, k.setMutex mutex.toNat (keptPid k.cur.pid)) := by
  unfold svcMutex
  rw [if_neg (BitVec.not_lt.mpr valid), if_neg (by decide), if_pos rfl]
  exact if_pos free

theorem svcMutex_alloc_taken (valid : mutex ≤ mutMutexes) (taken : k.mutexes mutex.toNat ≠ 0) :
    svcMutex k mutex mutAlloc = (elocked, k.setpl7) := by
  unfold svcMutex
  rw [if_neg (BitVec.not_lt.mpr valid), if_neg (by decide), if_pos rfl]
  exact if_neg taken

theorem svcMutex_dealloc_own (valid : mutex ≤ mutMutexes)
    (own : (k.mutexes mutex.toNat).setWidth 16 = k.cur.pid) :
    svcMutex k mutex mutDealloc = (eok, k.setMutex mutex.toNat 0) := by
  unfold svcMutex
  rw [if_neg (BitVec.not_lt.mpr valid), if_neg (by decide), if_neg (by decide), if_pos rfl]
  exact if_pos own

theorem svcMutex_dealloc_other (valid : mutex ≤ mutMutexes)
    (other : (k.mutexes mutex.toNat).setWidth 16 ≠ k.cur.pid) :
    svcMutex k mutex mutDealloc = (elocked, k.setpl7) := by
  unfold svcMutex
  rw [if_neg (BitVec.not_lt.mpr valid), if_neg (by decide), if_neg (by decide), if_pos rfl]
  exact if_neg other

end Outcomes

section Frame
variable (k : Kernel) (mutex op : WORD)

@[simp] theorem svcMutex_tct : (svcMutex k mutex op).2.tct = k.tct := by
  unfold svcMutex
  dsimp only
  split_ifs <;> rfl

@[simp] theorem svcMutex_curtcb : (svcMutex k mutex op).2.curtcb = k.curtcb := by
  unfold svcMutex
  dsimp only
  split_ifs <;> rfl

@[simp] theorem svcMutex_drvcbt : (svcMutex k mutex op).2.drvcbt = k.drvcbt := by
  unfold svcMutex
  dsimp only
  split_ifs <;> rfl

@[simp] theorem svcMutex_iott : (svcMutex k mutex op).2.iott = k.iott := by
  unfold svcMutex
  dsimp only
  split_ifs <;> rfl

/-- A call leaves the other mutexes alone. -/
theorem svcMutex_other {n : Nat} (other : n ≠ mutex.toNat) :
    (svcMutex k mutex op).2.mutexes n = k.mutexes n := by
  unfold svcMutex
  dsimp only
  split_ifs <;> first | rfl | exact Function.update_of_ne other _ _

variable {k mutex} in
/-- A call on a mutex that is neither free nor the caller's changes no mutex. -/
theorem svcMutex_foreign (taken : k.mutexes mutex.toNat ≠ 0)
    (foreign : (k.mutexes mutex.toNat).setWidth 16 ≠ k.cur.pid) :
    (svcMutex k mutex op).2.mutexes = k.mutexes := by
  unfold svcMutex
  dsimp only
  split_ifs with _ _ _ free _ own
  · rfl
  · rfl
  · exact absurd free taken
  · rfl
  · exact absurd own foreign
  · rfl
  · rfl

end Frame

section Bytes
variable {pid : WORD}

theorem keptPid_small (small : pid.toNat < 0o400) : (keptPid pid).setWidth 16 = pid := by
  apply BitVec.eq_of_toNat_eq
  rw [BitVec.toNat_setWidth, keptPid, BitVec.toNat_setWidth]
  omega

/-- A pid that needs more than a byte never compares equal to one. -/
theorem byte_ne_large (b : BYTE) (large : 0o400 ≤ pid.toNat) : b.setWidth 16 ≠ pid := by
  intro same
  have val := congrArg BitVec.toNat same
  rw [BitVec.toNat_setWidth] at val
  have := b.isLt
  omega

theorem keptPid_ne_zero (small : pid.toNat < 0o400) (nonzero : pid ≠ 0) : keptPid pid ≠ 0 := by
  intro zero
  apply nonzero
  rw [← keptPid_small small, zero]
  rfl

theorem svcMutex_dealloc_kept {k : Kernel} {mutex : WORD} (valid : mutex ≤ mutMutexes)
    (small : k.cur.pid.toNat < 0o400) (kept : k.mutexes mutex.toNat = keptPid k.cur.pid) :
    svcMutex k mutex mutDealloc = (eok, k.setMutex mutex.toNat 0) :=
  svcMutex_dealloc_own valid (by rw [kept, keptPid_small small])

theorem svcMutex_dealloc_large {k : Kernel} {mutex : WORD} (valid : mutex ≤ mutMutexes)
    (large : 0o400 ≤ k.cur.pid.toNat) : svcMutex k mutex mutDealloc = (elocked, k.setpl7) :=
  svcMutex_dealloc_other valid (byte_ne_large _ large)

end Bytes

/-! ## Interleavings of calls -/

inductive MutexOp
  | read | alloc | dealloc
  deriving DecidableEq

def MutexOp.code : MutexOp → WORD
  | .read => mutRead
  | .alloc => mutAlloc
  | .dealloc => mutDealloc

/-- A call on one of the mutexes 0 to 15. -/
structure MutexCall where
  task : Fin maxTasks
  mutex : Fin 16
  op : MutexOp

namespace MutexCall

def number (c : MutexCall) : WORD := BitVec.ofNat 16 c.mutex.val

/-- The call, made by its task. -/
def exec (c : MutexCall) (k : Kernel) : Int × Kernel :=
  svcMutex (k.withCur c.task) c.number c.op.code

end MutexCall

/-- The kernel, and who was the last to allocate each mutex and has not
deallocated it since. -/
structure MutexRun where
  kernel : Kernel
  holder : Fin 16 → Option (Fin maxTasks)

/-- What a return code says about the holder. -/
def MutexRun.newHolder (s : MutexRun) (c : MutexCall) (rc : Int) : Option (Fin maxTasks) :=
  if c.op = .alloc ∧ rc = eok then some c.task
  else if c.op = .dealloc ∧ rc = eok ∧ s.holder c.mutex = some c.task then none
  else s.holder c.mutex

def MutexRun.step (s : MutexRun) (c : MutexCall) : Except Fault MutexRun :=
  let (rc, k) := c.exec s.kernel
  .ok ⟨k, Function.update s.holder c.mutex (s.newHolder c rc)⟩

/-- Every mutex with a holder `p` is closed to all tasks: allocations and other
tasks' deallocations answer ELOCKED and leave the table as it is, and `p` can
deallocate it. -/
def Exclusive (s : MutexRun) : Prop :=
  ∀ m p, s.holder m = some p →
    (∀ q, (s.kernel.tct q).pid ≠ 0 →
      (MutexCall.exec ⟨q, m, .alloc⟩ s.kernel).1 = elocked) ∧
    (∀ q, (s.kernel.tct q).pid ≠ 0 → q ≠ p →
      (MutexCall.exec ⟨q, m, .dealloc⟩ s.kernel).1 = elocked ∧
      (MutexCall.exec ⟨q, m, .dealloc⟩ s.kernel).2.mutexes = s.kernel.mutexes) ∧
    (MutexCall.exec ⟨p, m, .dealloc⟩ s.kernel).1 = eok

/-- The tasks have distinct pids, none above the highest that is assigned. -/
structure DistinctPids (k : Kernel) : Prop where
  range : ∀ i, (k.tct i).pid.toNat ≤ maxupid.toNat
  distinct : ∀ i j, (k.tct i).pid ≠ 0 → (k.tct i).pid = (k.tct j).pid → i = j

/-- A free mutex is allocated only by a task whose pid fits in a byte. -/
def MutexCall.Fits (s : MutexRun) (c : MutexCall) : Prop :=
  c.op = .alloc → s.kernel.mutexes c.mutex.val = 0 → (s.kernel.tct c.task).pid.toNat < 0o400

/-- The table has the holder's pid in the entry of each mutex that has one. -/
structure Recorded (k : Kernel) (s : MutexRun) : Prop where
  tct : s.kernel.tct = k.tct
  held : ∀ m p, s.holder m = some p → (k.tct p).pid ≠ 0 ∧ (k.tct p).pid.toNat < 0o400 ∧
    s.kernel.mutexes m.val = keptPid (k.tct p).pid

section Calls
variable {k : Kernel} {s : MutexRun} {m : Fin 16} {p q : Fin maxTasks}

theorem number_val (c : MutexCall) : c.number.toNat = c.mutex.val := by
  rw [MutexCall.number, BitVec.toNat_ofNat]
  omega

theorem number_valid (c : MutexCall) : c.number ≤ mutMutexes := by
  rw [BitVec.le_def, number_val]
  exact Nat.le_of_lt c.mutex.isLt

theorem exec_tct (c : MutexCall) (k : Kernel) : (c.exec k).2.tct = k.tct := svcMutex_tct ..

theorem exec_other (c : MutexCall) (k : Kernel) {n : Nat} (other : n ≠ c.mutex.val) :
    (c.exec k).2.mutexes n = k.mutexes n :=
  svcMutex_other _ _ _ (by rw [number_val]; exact other)

theorem exec_read :
    MutexCall.exec ⟨q, m, .read⟩ k =
      (((k.mutexes m.val).toNat : Int), k.withCur q) := by
  have := svcMutex_read (k := k.withCur q) (number_valid ⟨q, m, .read⟩)
  rw [number_val ⟨q, m, .read⟩] at this
  exact this

theorem exec_alloc_free (free : k.mutexes m.val = 0) :
    MutexCall.exec ⟨q, m, .alloc⟩ k =
      (eok, (k.withCur q).setMutex m.val (keptPid (k.tct q).pid)) := by
  have val := number_val ⟨q, m, .alloc⟩
  have := svcMutex_alloc_free (k := k.withCur q) (number_valid ⟨q, m, .alloc⟩)
    (by rw [val]; exact free)
  rw [val] at this
  exact this

theorem exec_alloc_taken (taken : k.mutexes m.val ≠ 0) :
    MutexCall.exec ⟨q, m, .alloc⟩ k = (elocked, (k.withCur q).setpl7) :=
  svcMutex_alloc_taken (number_valid ⟨q, m, .alloc⟩) (by rw [number_val]; exact taken)

theorem exec_dealloc_own (own : (k.mutexes m.val).setWidth 16 = (k.tct q).pid) :
    MutexCall.exec ⟨q, m, .dealloc⟩ k =
      (eok, (k.withCur q).setMutex m.val 0) := by
  have val := number_val ⟨q, m, .dealloc⟩
  have := svcMutex_dealloc_own (k := k.withCur q) (number_valid ⟨q, m, .dealloc⟩)
    (by rw [val]; exact own)
  rw [val] at this
  exact this

theorem exec_dealloc_other (other : (k.mutexes m.val).setWidth 16 ≠ (k.tct q).pid) :
    MutexCall.exec ⟨q, m, .dealloc⟩ k = (elocked, (k.withCur q).setpl7) :=
  svcMutex_dealloc_other (number_valid ⟨q, m, .dealloc⟩) (by rw [number_val]; exact other)

theorem exec_dealloc_large (large : 0o400 ≤ (k.tct q).pid.toNat) :
    (MutexCall.exec ⟨q, m, .dealloc⟩ k).1 = elocked := by
  rw [exec_dealloc_other (byte_ne_large _ large)]

theorem Recorded.exclusive (h : Recorded k s) (pids : DistinctPids k) : Exclusive s := by
  intro m p holder
  obtain ⟨nonzero, small, byte⟩ := h.held m p holder
  have pid (q : Fin maxTasks) : (s.kernel.tct q).pid = (k.tct q).pid := by rw [h.tct]
  have kept : (s.kernel.mutexes m.val).setWidth 16 = (k.tct p).pid := by
    rw [byte, keptPid_small small]
  refine ⟨fun q _ => ?_, fun q hq other => ?_, ?_⟩
  · rw [exec_alloc_taken (by rw [byte]; exact keptPid_ne_zero small nonzero)]
  · have foreign : (s.kernel.mutexes m.val).setWidth 16 ≠ (s.kernel.tct q).pid := by
      rw [kept, pid]
      exact fun same => other (pids.distinct p q nonzero same).symm
    rw [exec_dealloc_other foreign]
    exact ⟨rfl, rfl⟩
  · rw [exec_dealloc_own (by rw [kept, pid])]

theorem step_ok {c : MutexCall} {s' : MutexRun} (stepped : s.step c = .ok s') :
    s'.kernel = (c.exec s.kernel).2 ∧
      s'.holder = Function.update s.holder c.mutex (s.newHolder c (c.exec s.kernel).1) := by
  cases stepped
  exact ⟨rfl, rfl⟩

/-- An allocation by a task whose pid does not fit can never be undone. -/
theorem unfit_not_exclusive {c : MutexCall} (unfit : ¬ c.Fits s) {s' : MutexRun}
    (stepped : s.step c = .ok s') : ¬ Exclusive s' := by
  obtain ⟨p, m, op⟩ := c
  obtain ⟨alloc, rest⟩ := Classical.not_imp.mp unfit
  obtain ⟨free, large⟩ := Classical.not_imp.mp rest
  cases alloc
  obtain ⟨kernel, holder⟩ := step_ok stepped
  rw [exec_alloc_free free] at holder
  have holds : s'.holder m = some p := by
    rw [holder, Function.update_self, MutexRun.newHolder, if_pos ⟨rfl, rfl⟩]
  have large : 0o400 ≤ (s'.kernel.tct p).pid.toNat := by
    rw [kernel, exec_tct]
    exact Nat.le_of_not_lt large
  intro exclusive
  have can := (exclusive m p holds).2.2
  rw [exec_dealloc_large large] at can
  exact absurd can (by decide)

/-- After a call on mutex `m` its holder, if any, is recorded. -/
theorem Recorded.holder (h : Recorded k s) (pids : DistinctPids k) {op : MutexOp}
    (task : (k.tct q).pid ≠ 0) (fits : MutexCall.Fits s ⟨q, m, op⟩)
    (holder : s.newHolder ⟨q, m, op⟩ (MutexCall.exec ⟨q, m, op⟩ s.kernel).1 = some p) :
    (k.tct p).pid ≠ 0 ∧ (k.tct p).pid.toNat < 0o400 ∧
      (MutexCall.exec ⟨q, m, op⟩ s.kernel).2.mutexes m.val = keptPid (k.tct p).pid := by
  have exclusive := h.exclusive pids
  have pid : (s.kernel.tct q).pid = (k.tct q).pid := by rw [h.tct]
  cases op with
  | read =>
    rw [exec_read] at holder ⊢
    exact h.held m p (by simpa [MutexRun.newHolder] using holder)
  | alloc =>
    by_cases free : s.kernel.mutexes m.val = 0
    · rw [exec_alloc_free free] at holder ⊢
      have same : p = q := by simpa [MutexRun.newHolder, eq_comm] using holder
      subst same
      refine ⟨task, pid ▸ fits rfl free, ?_⟩
      show Function.update s.kernel.mutexes m.val (keptPid (s.kernel.tct p).pid) m.val = _
      rw [Function.update_self, pid]
    · rw [exec_alloc_taken free] at holder ⊢
      exact h.held m p (by simpa [MutexRun.newHolder] using holder)
  | dealloc =>
    by_cases own : (s.kernel.mutexes m.val).setWidth 16 = (s.kernel.tct q).pid
    · -- the call would have freed the mutex of a holder, and it had none else
      exfalso
      rw [exec_dealloc_own own] at holder
      have held : s.holder m = some p ∧ p ≠ q := by
        by_cases mine : s.holder m = some q
        · simp [MutexRun.newHolder, mine] at holder
        · have held : s.holder m = some p := by simpa [MutexRun.newHolder, mine] using holder
          exact ⟨held, fun he => mine (he ▸ held)⟩
      have refused := ((exclusive m p held.1).2.1 q (by rw [pid]; exact task) held.2.symm).1
      rw [exec_dealloc_own own] at refused
      exact absurd refused (by decide : eok ≠ elocked)
    · rw [exec_dealloc_other own] at holder ⊢
      exact h.held m p (by simpa [MutexRun.newHolder] using holder)

/-- A call whose allocation fits keeps the holders' pids in the table. -/
theorem Recorded.step (h : Recorded k s) (pids : DistinctPids k) {c : MutexCall}
    (task : (k.tct c.task).pid ≠ 0) (fits : c.Fits s) {s' : MutexRun}
    (stepped : s.step c = .ok s') : Recorded k s' := by
  obtain ⟨q, m, op⟩ := c
  obtain ⟨kernel, newHolder⟩ := step_ok stepped
  refine ⟨by rw [kernel, exec_tct, h.tct], fun m' p holder => ?_⟩
  rw [newHolder] at holder
  by_cases hm : m' = m
  · subst hm
    rw [Function.update_self] at holder
    rw [kernel]
    exact h.holder pids task fits holder
  · rw [Function.update_of_ne hm] at holder
    have same : s'.kernel.mutexes m'.val = s.kernel.mutexes m'.val := by
      rw [kernel]
      exact exec_other _ _ fun he => hm (Fin.ext he)
    obtain ⟨nonzero, small, byte⟩ := h.held m' p holder
    exact ⟨nonzero, small, same.trans byte⟩

end Calls

/-- Along any interleaving of calls, each mutex belongs to the task that
allocated it exactly when every allocation of a free mutex is by a task whose
pid fits in a byte. -/
theorem mutex_exclusive_iff (k : Kernel) (pids : DistinctPids k) (calls : List MutexCall)
    (tasks : ∀ c ∈ calls, (k.tct c.task).pid ≠ 0) :
    Steps MutexRun.step (fun _ _ s' => Exclusive s') ⟨k, fun _ => none⟩ calls ↔
      Meets MutexRun.step MutexCall.Fits ⟨k, fun _ => none⟩ calls := by
  refine steps_iff_meets (Recorded k) ?_ ?_ ?_ calls
    (meets_of_forall (p := fun c => (k.tct c.task).pid ≠ 0) tasks)
  · intro s c s' recorded task fits stepped
    have recorded' := recorded.step pids task fits stepped
    exact ⟨recorded'.exclusive pids, recorded'⟩
  · intro s c _ _ unfit
    exact ⟨_, rfl, unfit_not_exclusive unfit rfl⟩
  · exact ⟨rfl, nofun⟩

instance (s : MutexRun) (c : MutexCall) : Decidable (c.Fits s) := by
  unfold MutexCall.Fits; infer_instance

/-- Two tasks, one of which has a pid above 0377. -/
def twoTasks (large : WORD) : Kernel where
  tct := ![{ pid := 1 }, { pid := large }, {}, {}, {}, {}, {}, {}, {}, {}, {}, {}, {}, {}, {}, {}]
  curtcb := 0
  mmcbt := {}

theorem mutex_exclusive_pair :
    Steps MutexRun.step (fun _ _ s' => Exclusive s') ⟨twoTasks 0o101, fun _ => none⟩
        [⟨0, 3, .alloc⟩, ⟨1, 3, .alloc⟩, ⟨1, 3, .dealloc⟩, ⟨0, 3, .dealloc⟩] ↔
      Meets MutexRun.step MutexCall.Fits ⟨twoTasks 0o101, fun _ => none⟩
        [⟨0, 3, .alloc⟩, ⟨1, 3, .alloc⟩, ⟨1, 3, .dealloc⟩, ⟨0, 3, .dealloc⟩] :=
  mutex_exclusive_iff _ ⟨by decide, by decide⟩ _ (by decide)

/-- The task with pid 0501 can never deallocate the mutex it has allocated. -/
theorem mutex_not_deallocated :
    DistinctPids (twoTasks 0o501) ∧
      ¬ Steps MutexRun.step (fun _ _ s' => Exclusive s') ⟨twoTasks 0o501, fun _ => none⟩
        [⟨1, 3, .alloc⟩] := by
  refine ⟨⟨by decide, by decide⟩, fun steps => ?_⟩
  exact unfit_not_exclusive (by decide) rfl (steps _ rfl).1

end Muxx
