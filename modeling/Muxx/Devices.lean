import Mathlib.Data.List.FinRange
import Muxx.Lib.Program
import Muxx.Mutex

/-!
# Devices

muxx_find_driver and muxx_svc_alloc of muxx_drvctl.c, and any interleaving of
allocations and deallocations:

* `run_svcAlloc`: what a call that finds its driver does when MUT_DRV is free;
* `alloc_respected_iff`: a device stays with the task that allocated it exactly
  when nobody else deallocates it and the lock on the drivers is let go.
-/

namespace Muxx

open Run Fallible Prog

def findDriver (drvcbt : Fin maxDrv → DRVCB) (devnam : Name) : Option (Fin maxDrv) :=
  (List.finRange maxDrv).find? fun i => !(drvcbt i).free && (drvcbt i).drvname = devnam

theorem findDriver_congr {drvcbt drvcbt' : Fin maxDrv → DRVCB} {devnam : Name}
    (free : ∀ d, (drvcbt' d).free = (drvcbt d).free)
    (drvname : ∀ d, (drvcbt' d).drvname = (drvcbt d).drvname) :
    findDriver drvcbt' devnam = findDriver drvcbt devnam := by
  simp only [findDriver, free, drvname]

def Kernel.modifyDriver (k : Kernel) (driver : Fin maxDrv) (f : DRVCB → DRVCB) : Kernel :=
  { k with drvcbt := Function.update k.drvcbt driver (f (k.drvcbt driver)) }

/-- The statements of muxx_svc_alloc that read or write what tasks share. -/
inductive AllocStep
  | find | lock | alloc (driver : Fin maxDrv) | owner (driver : Fin maxDrv) | update | unlock
  deriving DecidableEq

section Service
variable {π : Type} (pt : AllocStep → π)

def allocDriver (driver : Fin maxDrv) : Prog π Kernel Fault Int := do
  if ← read (pt (.alloc driver)) fun k => (k.drvcbt driver).alloc then
    return enoavail
  else
    write (pt .update) fun k => k.modifyDriver driver ({ · with ownerid := k.curtcb })
    write (pt .update) (·.modifyDriver driver ({ · with alloc := true }))
    return eok

/-- The owner goes even when the answer is ENOPRIV. -/
def deallocDriver (driver : Fin maxDrv) : Prog π Kernel Fault Int := do
  if ← read (pt (.alloc driver)) fun k => (k.drvcbt driver).alloc then
    let refused ← read (pt (.owner driver)) fun k =>
      (k.drvcbt driver).ownerid != some k.curtcb && k.cur.operprv
    write (pt .update) (·.modifyDriver driver ({ · with ownerid := none }))
    write (pt .update) (·.modifyDriver driver ({ · with alloc := false }))
    return if refused then enopriv else eok
  else
    return enotalloc

/-- Every `op` but DRV_ALLOC deallocates. What the unlocking returns is not
looked at. -/
def svcAlloc (devnam : Name) (op : WORD) : Prog π Kernel Fault Int := do
  match ← read (pt .find) fun k => findDriver k.drvcbt devnam with
  | none => return enotfound
  | some driver =>
    let rc ← call (pt .lock) (svcMutex · mutDrv mutAlloc)
    if rc = eok then
      let rc ← (if op = drvAlloc then allocDriver pt driver else deallocDriver pt driver)
      let _ ← call (pt .unlock) (svcMutex · mutDrv mutDealloc)
      return rc
    else
      return rc

end Service

/-! ## What a call does -/

inductive DeviceOp
  | alloc | dealloc
  deriving DecidableEq

namespace DeviceOp

def code : DeviceOp → WORD
  | alloc => drvAlloc
  | dealloc => drvDealloc

/-- The answer to `caller` about a driver in the state `b`. -/
def answer (b : DRVCB) (caller : Fin maxTasks) (operprv : Bool) : DeviceOp → Int
  | alloc => if b.alloc then enoavail else eok
  | dealloc =>
    if b.alloc then if b.ownerid != some caller && operprv then enopriv else eok else enotalloc

/-- What the call makes of it. -/
def entry (b : DRVCB) (caller : Fin maxTasks) : DeviceOp → DRVCB
  | alloc => if b.alloc then b else { b with ownerid := caller, alloc := true }
  | dealloc => if b.alloc then { b with ownerid := none, alloc := false } else b

end DeviceOp

/-- The kernel once the lock has been let go. -/
def afterAlloc (k : Kernel) (driver : Fin maxDrv) (op : DeviceOp) : Kernel :=
  (svcMutex ((k.setMutex 5 (keptPid k.cur.pid)).modifyDriver driver (op.entry · k.curtcb))
    mutDrv mutDealloc).2

section Outcome
variable {π : Type} {pt : AllocStep → π} {k : Kernel} {devnam : Name} {driver : Fin maxDrv}
  {op : DeviceOp}

theorem run_svcAlloc_missing {op : WORD} (missing : findDriver k.drvcbt devnam = none) :
    run (svcAlloc pt devnam op) k = .ok (enotfound, k) := by
  simp [svcAlloc, missing]

theorem run_allocDriver : run (allocDriver pt driver) k =
    .ok (DeviceOp.alloc.answer (k.drvcbt driver) k.curtcb k.cur.operprv,
      k.modifyDriver driver (DeviceOp.alloc.entry · k.curtcb)) := by
  cases alloc : (k.drvcbt driver).alloc <;>
    simp [allocDriver, DeviceOp.answer, DeviceOp.entry, alloc, Kernel.modifyDriver]

theorem run_deallocDriver : run (deallocDriver pt driver) k =
    .ok (DeviceOp.dealloc.answer (k.drvcbt driver) k.curtcb k.cur.operprv,
      k.modifyDriver driver (DeviceOp.dealloc.entry · k.curtcb)) := by
  cases alloc : (k.drvcbt driver).alloc <;>
    simp [deallocDriver, DeviceOp.answer, DeviceOp.entry, alloc, Kernel.modifyDriver]

theorem run_svcAlloc (free : k.mutexes 5 = 0) (found : findDriver k.drvcbt devnam = some driver) :
    run (svcAlloc pt devnam op.code) k =
      .ok (op.answer (k.drvcbt driver) k.curtcb k.cur.operprv, afterAlloc k driver op) := by
  have lock := svcMutex_alloc_free (k := k) (by decide : mutDrv ≤ mutMutexes) free
  simp only [svcAlloc, run_bind, run_read, ok_bind, found, run_call, lock, if_true]
  cases op with
  | alloc =>
    rw [if_pos (show DeviceOp.alloc.code = drvAlloc from rfl), run_allocDriver]
    rfl
  | dealloc =>
    rw [if_neg (by decide), run_deallocDriver]
    rfl

@[simp] theorem afterAlloc_tct : (afterAlloc k driver op).tct = k.tct := svcMutex_tct ..

@[simp] theorem afterAlloc_drvcbt : (afterAlloc k driver op).drvcbt =
    Function.update k.drvcbt driver (op.entry (k.drvcbt driver) k.curtcb) :=
  svcMutex_drvcbt ..

end Outcome

/-- A task with this pid finds its byte when it unlocks, or has left none. -/
def LetsGo (pid : WORD) : Prop := pid.toNat < 0o400 ∨ keptPid pid = 0

theorem afterAlloc_mutexes {k : Kernel} (free : k.mutexes 5 = 0) (driver : Fin maxDrv)
    (op : DeviceOp) : (afterAlloc k driver op).mutexes = k.mutexes ↔ LetsGo k.cur.pid := by
  generalize hk : (k.setMutex 5 (keptPid k.cur.pid)).modifyDriver driver
    (op.entry · k.curtcb) = k'
  have cur : k'.cur = k.cur := by rw [← hk]; rfl
  have mutexes : k'.mutexes = Function.update k.mutexes 5 (keptPid k.cur.pid) := by rw [← hk]; rfl
  rw [afterAlloc, hk]
  by_cases small : k.cur.pid.toNat < 0o400
  · have unlocked := svcMutex_dealloc_kept (k := k') (by decide : mutDrv ≤ mutMutexes)
      (by rw [cur]; exact small) (by rw [mutexes, cur]; exact Function.update_self ..)
    rw [unlocked]
    refine iff_of_true ?_ (.inl small)
    show Function.update k'.mutexes 5 0 = k.mutexes
    rw [mutexes, Function.update_idem, ← free, Function.update_eq_self]
  · have locked := svcMutex_dealloc_large (k := k') (by decide : mutDrv ≤ mutMutexes)
      (by rw [cur]; exact Nat.le_of_not_lt small)
    rw [locked]
    show k'.mutexes = k.mutexes ↔ _
    rw [mutexes, Function.update_eq_iff, free]
    constructor
    · exact fun h => .inr h.1
    · exact fun h => ⟨h.resolve_left small, fun _ _ => rfl⟩

/-! ## Interleavings of calls -/

structure AllocCall where
  task : Fin maxTasks
  device : Name
  op : DeviceOp

/-- The call, made by its task. -/
def AllocCall.exec (c : AllocCall) (k : Kernel) : Except Fault (Int × Kernel) :=
  run (svcAlloc id c.device c.op.code) (k.withCur c.task)

/-- The kernel, who has allocated each driver and not given it up since, and
the answer to the last call. -/
structure AllocRun where
  kernel : Kernel
  holder : Fin maxDrv → Option (Fin maxTasks) := fun _ => none
  rc : Int := eok

/-- What a return code says about the holder. -/
def AllocRun.newHolder (s : AllocRun) (c : AllocCall) (driver : Fin maxDrv) (rc : Int) :
    Option (Fin maxTasks) :=
  match c.op with
  | .alloc => if rc = eok then c.task else s.holder driver
  | .dealloc =>
    if rc = eok ∧ (s.holder driver = some c.task ∨ (s.kernel.tct c.task).operprv) then none
    else s.holder driver

def AllocRun.step (s : AllocRun) (c : AllocCall) : Except Fault AllocRun := do
  let (rc, k) ← c.exec s.kernel
  match findDriver s.kernel.drvcbt c.device with
  | none => return ⟨k, s.holder, rc⟩
  | some driver => return ⟨k, Function.update s.holder driver (s.newHolder c driver rc), rc⟩

/-- The holders own their devices. -/
def Held (s : AllocRun) : Prop :=
  ∀ d t, s.holder d = some t → (s.kernel.drvcbt d).alloc ∧ (s.kernel.drvcbt d).ownerid = some t

/-- The holders own their devices, a stranger's deallocation is refused, and so
is an allocation of what is allocated. -/
structure Respected (s : AllocRun) (c : AllocCall) (s' : AllocRun) : Prop where
  owned : Held s'
  refused : c.op = .dealloc → ∀ d t, findDriver s.kernel.drvcbt c.device = some d →
    s.holder d = some t → c.task ≠ t → ¬ (s.kernel.tct c.task).operprv →
    s'.rc = enopriv ∧ (s'.kernel.drvcbt d).ownerid = (s.kernel.drvcbt d).ownerid ∧
      (s'.kernel.drvcbt d).alloc = (s.kernel.drvcbt d).alloc
  taken : c.op = .alloc → ∀ d, findDriver s.kernel.drvcbt c.device = some d →
    (s.kernel.drvcbt d).alloc →
    s'.rc = enoavail ∧ s'.kernel.drvcbt = s.kernel.drvcbt ∧
      s'.kernel.mutexes = s.kernel.mutexes

/-- A held device is deallocated by its holder only, and a task that tries to
allocate an allocated one lets go of the lock. -/
structure AllocCall.Fair (s : AllocRun) (c : AllocCall) : Prop where
  own : c.op = .dealloc → ∀ d t, findDriver s.kernel.drvcbt c.device = some d →
    s.holder d = some t → c.task = t
  letsGo : c.op = .alloc → ∀ d, findDriver s.kernel.drvcbt c.device = some d →
    (s.kernel.drvcbt d).alloc → LetsGo (s.kernel.tct c.task).pid

def AllocCall.FindsFree (s : AllocRun) (_ : AllocCall) : Prop := s.kernel.mutexes 5 = 0

section Calls
variable {s s' : AllocRun} {c : AllocCall} {d : Fin maxDrv}

/-- The answer to the call if it finds `d`. -/
def AllocRun.answer (s : AllocRun) (c : AllocCall) (d : Fin maxDrv) : Int :=
  c.op.answer (s.kernel.drvcbt d) c.task (s.kernel.tct c.task).operprv

theorem step_missing (missing : findDriver s.kernel.drvcbt c.device = none) :
    s.step c = .ok ⟨s.kernel.withCur c.task, s.holder, enotfound⟩ := by
  have ran : run (svcAlloc id c.device c.op.code) (s.kernel.withCur c.task) = _ :=
    run_svcAlloc_missing missing
  simp [AllocRun.step, AllocCall.exec, ran, missing]

theorem step_found (free : c.FindsFree s) (found : findDriver s.kernel.drvcbt c.device = some d) :
    s.step c = .ok
      ⟨afterAlloc (s.kernel.withCur c.task) d c.op,
        Function.update s.holder d (s.newHolder c d (s.answer c d)), s.answer c d⟩ := by
  have ran : run (svcAlloc id c.device c.op.code) (s.kernel.withCur c.task) = _ :=
    run_svcAlloc free found
  simp [AllocRun.step, AllocCall.exec, ran, found, AllocRun.answer]

/-- What a call does to the holder of the driver it finds. -/
theorem Held.newHolder (held : Held s) (fair : c.Fair s)
    (found : findDriver s.kernel.drvcbt c.device = some d) {t : Fin maxTasks}
    (holder : s.newHolder c d (s.answer c d) = some t) :
    (c.op.entry (s.kernel.drvcbt d) c.task).alloc ∧
      (c.op.entry (s.kernel.drvcbt d) c.task).ownerid = some t := by
  unfold AllocRun.newHolder AllocRun.answer at holder
  cases op : c.op with
  | alloc =>
    cases alloc : (s.kernel.drvcbt d).alloc with
    | true =>
      have before : s.holder d = some t := by simpa [op, DeviceOp.answer, alloc] using holder
      simpa [DeviceOp.entry, alloc] using (held d t before).2
    | false =>
      have same : c.task = t := by simpa [op, DeviceOp.answer, alloc] using holder
      simp [DeviceOp.entry, alloc, same]
  | dealloc =>
    -- a deallocation that leaves a holder was not of a device with one
    exfalso
    cases before : s.holder d with
    | none => simp [op, before] at holder
    | some t' =>
      obtain ⟨alloc, owner⟩ := held d t' before
      simp [op, DeviceOp.answer, alloc, owner, before, fair.own op d t' found before] at holder

theorem Held.step (held : Held s) (free : c.FindsFree s) (fair : c.Fair s)
    (stepped : s.step c = .ok s') : Respected s c s' ∧ Held s' := by
  suffices respected : Respected s c s' from ⟨respected, respected.owned⟩
  cases found : findDriver s.kernel.drvcbt c.device with
  | none =>
    rw [step_missing found] at stepped
    cases stepped
    exact ⟨held, fun _ d t hd => (nomatch found.symm.trans hd),
      fun _ d hd => (nomatch found.symm.trans hd)⟩
  | some d =>
    rw [step_found free found] at stepped
    cases stepped
    refine ⟨fun d' t holder => ?_, fun op d' t hd holder other => ?_, fun op d' hd alloc => ?_⟩
    · dsimp only at holder ⊢
      rw [afterAlloc_drvcbt]
      by_cases same : d' = d
      · subst same
        rw [Function.update_self] at holder ⊢
        exact held.newHolder fair found holder
      · rw [Function.update_of_ne same] at holder ⊢
        exact held d' t holder
    · exact absurd (fair.own op d' t hd holder) other
    · cases found.symm.trans hd
      refine ⟨by simp [AllocRun.answer, DeviceOp.answer, op, alloc], ?_, ?_⟩
      · simp [DeviceOp.entry, op, alloc]
      · exact (afterAlloc_mutexes (k := s.kernel.withCur c.task) free d c.op).mpr
          (fair.letsGo op d hd alloc)

/-- A stranger's deallocation is answered wrongly, or it takes the device from
its holder. -/
theorem Held.stranger (held : Held s) (free : c.FindsFree s) (op : c.op = .dealloc)
    {t : Fin maxTasks} (found : findDriver s.kernel.drvcbt c.device = some d)
    (holder : s.holder d = some t) (other : c.task ≠ t) (stepped : s.step c = .ok s') :
    ¬ Respected s c s' := by
  intro respected
  rw [step_found free found] at stepped
  cases stepped
  obtain ⟨alloc, owner⟩ := held d t holder
  cases priv : (s.kernel.tct c.task).operprv with
  | true =>
    -- the answer is ENOPRIV, so `t` should still have the device
    have same : s.newHolder c d (s.answer c d) = some t := by
      simp [AllocRun.newHolder, AllocRun.answer, DeviceOp.answer, op, alloc, owner, priv,
        Ne.symm other, holder]
    have kept := (respected.owned d t ((Function.update_self ..).trans same)).1
    simp [DeviceOp.entry, op, alloc] at kept
  | false =>
    have refused := (respected.refused op d t found holder other (by simp [priv])).1
    simp [AllocRun.answer, DeviceOp.answer, op, alloc, priv] at refused

/-- An unfair call does not respect the devices. -/
theorem Held.unfair (held : Held s) (free : c.FindsFree s) (unfair : ¬ c.Fair s) :
    ∃ s', s.step c = .ok s' ∧ ¬ Respected s c s' := by
  cases found : findDriver s.kernel.drvcbt c.device with
  | none =>
    exact absurd ⟨fun _ d t hd => (nomatch found.symm.trans hd),
      fun _ d hd => (nomatch found.symm.trans hd)⟩ unfair
  | some d =>
    have stepped := step_found free found
    refine ⟨_, stepped, fun respected => unfair ⟨fun op d' t hd holder => ?_, fun op d' hd alloc => ?_⟩⟩
    · refine Classical.byContradiction fun other => ?_
      exact held.stranger free op hd holder other stepped respected
    · cases found.symm.trans hd
      exact (afterAlloc_mutexes (k := s.kernel.withCur c.task) free d c.op).mp
        (respected.taken op d found alloc).2.2

end Calls

/-- Along any interleaving of calls that find MUT_DRV free, devices are
respected exactly when every call is fair. -/
theorem alloc_respected_iff (k : Kernel) (calls : List AllocCall)
    (free : Meets AllocRun.step (fun s c => c.FindsFree s) { kernel := k } calls) :
    Steps AllocRun.step Respected { kernel := k } calls ↔
      Meets AllocRun.step (fun s c => c.Fair s) { kernel := k } calls := by
  refine steps_iff_meets Held ?_ ?_ ?_ calls free
  · exact fun _ _ _ held free fair stepped => held.step free fair stepped
  · exact fun _ _ held free unfair => held.unfair free unfair
  · exact fun _ _ holder => nomatch holder

instance (pid : WORD) : Decidable (LetsGo pid) := inferInstanceAs (Decidable (_ ∨ _))

instance (s : AllocRun) (c : AllocCall) : Decidable (c.FindsFree s) :=
  inferInstanceAs (Decidable (_ = _))

instance (s : AllocRun) (c : AllocCall) : Decidable (c.Fair s) :=
  decidable_of_iff
    ((c.op = .dealloc → ∀ d t, findDriver s.kernel.drvcbt c.device = some d →
      s.holder d = some t → c.task = t) ∧
    (c.op = .alloc → ∀ d, findDriver s.kernel.drvcbt c.device = some d →
      (s.kernel.drvcbt d).alloc → LetsGo (s.kernel.tct c.task).pid))
    ⟨fun h => ⟨h.1, h.2⟩, fun h => ⟨h.own, h.letsGo⟩⟩

/-- Two tasks without privileges and one driver with a blank name. -/
def oneDevice : Kernel :=
  { twoTasks 0o101 with drvcbt := Function.update drvInit 0 { drvInit 0 with free := false } }

def blank : Name := fun _ => 0x20

theorem alloc_respected_pair :
    Steps AllocRun.step Respected { kernel := oneDevice }
      [⟨0, blank, .alloc⟩, ⟨1, blank, .alloc⟩, ⟨0, blank, .dealloc⟩, ⟨1, blank, .alloc⟩] :=
  (alloc_respected_iff oneDevice _ (by decide +kernel)).mpr (by decide +kernel)

/-- The second task takes the device from the first. -/
theorem alloc_taken_away :
    Meets AllocRun.step (fun s c => c.FindsFree s) { kernel := oneDevice }
        [⟨0, blank, .alloc⟩, ⟨1, blank, .dealloc⟩] ∧
      ¬ Steps AllocRun.step Respected { kernel := oneDevice }
        [⟨0, blank, .alloc⟩, ⟨1, blank, .dealloc⟩] := by
  refine ⟨by decide +kernel, fun steps => ?_⟩
  have respected := ((steps _ rfl).2 _ rfl).1
  exact absurd (respected.refused rfl 0 0 rfl rfl (by decide) (by decide)).1 (by decide)

end Muxx
