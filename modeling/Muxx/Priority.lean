import Muxx.Library

/-!
# The priority level

The services that lock raise the priority of the processor and put it back by
hand:

* `Misses`: the calls of muxx_svc_mutex that leave the processor at priority 7;
* `svcAlloc_ipl`, `openChannel_ipl`, `closeChannel_ipl`: the level at which the
  parts come back;
* `level_restored_iff`: the calls that come back at the level they came with.
-/

namespace Muxx

open Prog Fallible

/-! ## Locks -/

/-- The call asks for a mutex that is taken, or gives back one that is not the
caller's. -/
def Misses (k : Kernel) (mutex op : WORD) : Prop :=
  mutex ≤ mutMutexes ∧
    ((op = mutAlloc ∧ k.mutexes mutex.toNat ≠ 0) ∨
      (op = mutDealloc ∧ (k.mutexes mutex.toNat).setWidth 16 ≠ k.cur.pid))

section Locks
variable {k : Kernel} {mutex op : WORD}

theorem svcMutex_missed (missed : Misses k mutex op) : svcMutex k mutex op = (elocked, k.setpl7) := by
  obtain ⟨valid, ⟨rfl, taken⟩ | ⟨rfl, other⟩⟩ := missed
  · exact svcMutex_alloc_taken valid taken
  · exact svcMutex_dealloc_other valid other

theorem svcMutex_ipl (found : ¬ Misses k mutex op) : (svcMutex k mutex op).2.ipl = k.ipl := by
  unfold svcMutex
  dsimp only
  split_ifs with beyond _ alloc free dealloc own
  · rfl
  · rfl
  · rfl
  · exact absurd ⟨BitVec.not_lt.mp beyond, .inl ⟨alloc, free⟩⟩ found
  · rfl
  · exact absurd ⟨BitVec.not_lt.mp beyond, .inr ⟨dealloc, own⟩⟩ found
  · rfl

end Locks

/-! ## Drivers -/

/-- The level of the processor after a service that has locked the drivers, or
could not. -/
def Kernel.driversIpl (k : Kernel) : Nat :=
  if k.mutexes 5 = 0 ∧ k.cur.pid.toNat < 0o400 then k.ipl else 7

section Drivers
variable {k k' : Kernel} {pt : AllocStep → Place} {devnam : Name} {d e : Fin maxDrv}
variable {io : Fin iotSentries} {rc : Int}

theorem afterAlloc_ipl (op : DeviceOp) :
    (afterAlloc k e op).ipl = if k.cur.pid.toNat < 0o400 then k.ipl else 7 := by
  let held := (k.setMutex 5 (keptPid k.cur.pid)).modifyDriver e (op.entry · k.curtcb)
  show (svcMutex held mutDrv mutDealloc).2.ipl = _
  by_cases small : k.cur.pid.toNat < 0o400
  · have mutexes : held.mutexes = Function.update k.mutexes 5 (keptPid k.cur.pid) := rfl
    have kept : held.mutexes 5 = keptPid k.cur.pid := by
      rw [mutexes, Function.update_self]
    rw [if_pos small, svcMutex_dealloc_kept (k := held) (by decide : mutDrv ≤ mutMutexes) small kept]
    rfl
  · rw [if_neg small, svcMutex_dealloc_large (k := held) (by decide : mutDrv ≤ mutMutexes)
      (Nat.le_of_not_lt small)]
    rfl

/-- All operations but one are the same. -/
theorem svcAlloc_code (pt : AllocStep → Place) (devnam : Name) (op : WORD) :
    ∃ o : DeviceOp, svcAlloc pt devnam op = svcAlloc pt devnam o.code := by
  by_cases alloc : op = drvAlloc
  · exact ⟨.alloc, by rw [alloc]; rfl⟩
  · refine ⟨.dealloc, ?_⟩
    have other : ¬ DeviceOp.dealloc.code = drvAlloc := by decide
    unfold svcAlloc
    simp only [if_neg alloc, if_neg other]

theorem svcAlloc_ipl (pt : AllocStep → Place) (op : WORD)
    (found : findDriver k.drvcbt devnam = some e) :
    ∃ rc k', run (svcAlloc pt devnam op) k = .ok (rc, k') ∧ k'.ipl = k.driversIpl := by
  obtain ⟨o, same⟩ := svcAlloc_code pt devnam op
  rw [same, Kernel.driversIpl]
  by_cases lock : k.mutexes 5 = 0
  · refine ⟨_, _, run_svcAlloc lock found, ?_⟩
    rw [afterAlloc_ipl]
    simp only [lock, true_and]
  · refine ⟨_, _, run_svcAlloc_taken lock found, ?_⟩
    rw [if_neg fun h => lock h.1]
    rfl

theorem claimDriver_ipl (driver : (k.iott io).driver = d) (free : (k.drvcbt d).free = false)
    (ran : run (claimDriver io) k = .ok (rc, k')) :
    k'.ipl = if (k.drvcbt d).alloc then k.ipl else k.driversIpl := by
  cases alloc : (k.drvcbt d).alloc with
  | true =>
    by_cases own : (k.drvcbt d).ownerid = some k.curtcb
    · have ran' : run (claimDriver io) k = .ok (eok, k) := by
        simp [claimDriver, run_readDriver driver, alloc, own]
      cases ran'.symm.trans ran
      rfl
    · have ran' : run (claimDriver io) k =
          .ok (enoavail, k.modifyIote io ({ · with error := enoavail })) := by
        simp [claimDriver, run_readDriver driver, alloc, own]
      cases ran'.symm.trans ran
      rfl
  | false =>
    obtain ⟨e, found⟩ := findDriver_self free
    obtain ⟨rc₁, k₁, called, ipl⟩ :=
      svcAlloc_ipl .openAlloc drvAlloc found
    cases (run_claimDriver_unowned driver alloc called).symm.trans ran
    exact ipl

/-- The entry of an active driver that is neither shared nor anybody's. -/
def DRVCB.Unclaimed (b : DRVCB) : Prop :=
  b.active = true ∧ b.desc.shareable = false ∧ b.alloc = false

theorem openDriver_ipl (driver : (k.iott io).driver = d) (free : (k.drvcbt d).free = false)
    (ran : run (openDriver io) k = .ok (rc, k')) :
    ((k.drvcbt d).Unclaimed → k'.ipl = k.driversIpl) ∧
      (¬ (k.drvcbt d).Unclaimed → k'.ipl = k.ipl) := by
  cases active : (k.drvcbt d).active with
  | false =>
    cases (run_openDriver_offline driver active).symm.trans ran
    have claimed : ¬ (k.drvcbt d).Unclaimed := fun h => Bool.false_ne_true (active.symm.trans h.1)
    exact ⟨fun h => absurd h claimed, fun _ => rfl⟩
  | true =>
    have cleared : ((k.modifyIote io IOTE.clear).iott io).driver = d := by
      rw [Kernel.modifyIote_self]
      exact driver
    obtain ⟨rc₁, k₁, claimed, claims⟩ := run_claimed cleared free
    cases (run_openDriver_claimed driver active claimed claims).symm.trans ran
    have same : (if rc = eok then k₁.modifyIote io ({ · with opened := true }) else k₁).ipl =
        k₁.ipl := by
      split_ifs <;> rfl
    rw [same]
    cases shareable : (k.drvcbt d).desc.shareable with
    | true =>
      have shared : ((k.modifyIote io IOTE.clear).drvcbt d).desc.shareable = true := shareable
      rw [shared] at claimed
      cases claimed
      exact ⟨fun h => absurd (h.2.1.symm.trans shareable) Bool.false_ne_true, fun _ => rfl⟩
    | false =>
      have exclusive : ((k.modifyIote io IOTE.clear).drvcbt d).desc.shareable = false := shareable
      rw [exclusive, if_neg Bool.false_ne_true] at claimed
      have ipl := claimDriver_ipl cleared free claimed
      constructor
      · intro unclaimed
        exact ipl.trans (if_neg (Bool.eq_false_iff.mp unclaimed.2.2))
      · intro owned
        have alloc : (k.drvcbt d).alloc = true := by
          by_contra unowned
          exact owned ⟨active, shareable, Bool.eq_false_iff.mpr unowned⟩
        exact ipl.trans (if_pos alloc)

end Drivers

/-! ## Channels -/

/-- An open for `device` comes to allocate the driver. -/
def Kernel.Allocates (k : Kernel) (device : Name) : Prop :=
  (findFreeIote k.iott).isSome ∧
    ∃ d v, locatePdev k.drvcbt device = some (d, v) ∧ (k.drvcbt d).Unclaimed

section Channels
variable {k k' : Kernel} {device : Name} {io : Fin iotSentries} {rc : Int}
variable {slot : Option (Fin iotSentries)}

theorem openChannel_ipl (ran : run (openChannel device) k = .ok ((rc, slot), k')) :
    (k.Allocates device → k'.ipl = k.driversIpl) ∧
      (¬ k.Allocates device → k'.ipl = k.ipl) := by
  cases free : findFreeIote k.iott with
  | none =>
    have ran' : run (openChannel device) k = .ok ((enosysres, none), k) := by
      simp [openChannel, free]
    cases ran'.symm.trans ran
    refine ⟨fun h => absurd h.1 ?_, fun _ => rfl⟩
    rw [free]
    exact Bool.false_ne_true
  | some io =>
    cases located : locatePdev k.drvcbt device with
    | none =>
      have ran' : run (openChannel device) k = .ok ((enotfound, some io), k) := by
        simp [openChannel, free, locateDev, located]
      cases ran'.symm.trans ran
      refine ⟨?_, fun _ => rfl⟩
      rintro ⟨-, d, v, found, -⟩
      cases located.symm.trans found
    | some found =>
      obtain ⟨d, v⟩ := found
      have driver : ((k.fillIote io d v).iott io).driver = d := by
        rw [Kernel.fillIote, Kernel.modifyIote_self]
      obtain ⟨rc₁, k₁, opened, -⟩ := run_openDriver driver (locatePdev_free located)
      have ipl := openDriver_ipl driver (locatePdev_free located) opened
      have ran' : run (openChannel device) k = .ok ((rc₁, some io), k₁) := by
        unfold Kernel.fillIote at opened
        simp [openChannel, free, locateDev, located, opened]
      cases ran'.symm.trans ran
      constructor
      · rintro ⟨-, d', v', found, unclaimed⟩
        cases located.symm.trans found
        exact ipl.1 unclaimed
      · intro other
        refine ipl.2 fun unclaimed => other ⟨?_, d, v, located, unclaimed⟩
        rw [free]
        rfl

theorem svcOpen_ipl (chan : k.mutexes 6 = 0) (small : k.cur.pid.toNat < 0o400)
    {io : Option (Fin iotSentries)} (ran : run (svcOpen device) k = .ok (io, k')) :
    (k.Allocates device → k'.ipl = k.driversIpl) ∧
      (¬ k.Allocates device → k'.ipl = k.ipl) := by
  have lock : svcMutex k mutChan mutAlloc = (eok, k.lockChan) :=
    svcMutex_alloc_free (by decide) chan
  obtain ⟨rc, slot, k₁, opened, outcome⟩ := run_openChannel k.lockChan device
  have unlock := outcome.spared.unlock small
  have ipl := openChannel_ipl opened
  have same : k'.ipl = k₁.ipl := by
    simp only [svcOpen, run_bind, run_call, lock, ok_bind, if_true, opened, unlock] at ran
    split_ifs at ran <;> cases ran <;> rfl
  rw [same]
  exact ipl

/-- An open or a close that finds MUT_CHAN taken says so. -/
theorem svcOpen_held (device : Name) (held : k.mutexes 6 ≠ 0)
    (own : (k.mutexes 6).setWidth 16 = k.cur.pid) :
    ∃ k', run (svcOpen device) k = .ok (none, k') ∧ k'.ipl = 7 := by
  have lock : svcMutex k mutChan mutAlloc = (elocked, k.setpl7) :=
    svcMutex_alloc_taken (by decide) held
  have unlock : svcMutex k.setpl7 mutChan mutDealloc = (eok, k.setpl7.setMutex 6 0) :=
    svcMutex_dealloc_own (k := k.setpl7) (by decide) own
  refine ⟨(k.setpl7.setMutex 6 0).setErrno elocked, ?_, rfl⟩
  simp only [svcOpen, run_bind, run_call, lock, ok_bind, if_neg (by decide : ¬ elocked = eok),
    run_pure, unlock, if_true, run_write]

theorem svcClose_held (io : Fin iotSentries) (held : k.mutexes 6 ≠ 0)
    (own : (k.mutexes 6).setWidth 16 = k.cur.pid) :
    ∃ k', run (svcClose io) k = .ok (elocked, k') ∧ k'.ipl = 7 := by
  have lock : svcMutex k mutChan mutAlloc = (elocked, k.setpl7) :=
    svcMutex_alloc_taken (by decide) held
  have unlock : svcMutex k.setpl7 mutChan mutDealloc = (eok, k.setpl7.setMutex 6 0) :=
    svcMutex_dealloc_own (k := k.setpl7) (by decide) own
  refine ⟨(k.setpl7.setMutex 6 0).setErrno elocked, ?_, rfl⟩
  simp only [svcClose, run_bind, run_call, lock, ok_bind, if_neg (by decide : ¬ elocked = eok),
    run_pure, unlock, if_true, run_write]

/-- Any other holder of MUT_CHAN makes them panic. -/
theorem svcOpen_foreign (held : k.mutexes 6 ≠ 0) (other : (k.mutexes 6).setWidth 16 ≠ k.cur.pid) :
    run (svcOpen device) k = .error (.panic "muxx_svc_open: dealloc mutex") := by
  have lock : svcMutex k mutChan mutAlloc = (elocked, k.setpl7) :=
    svcMutex_alloc_taken (by decide) held
  have unlock : svcMutex k.setpl7 mutChan mutDealloc = (elocked, k.setpl7.setpl7) :=
    svcMutex_dealloc_other (k := k.setpl7) (by decide) other
  simp only [svcOpen, run_bind, run_call, lock, ok_bind, if_neg (by decide : ¬ elocked = eok),
    run_pure, unlock, run_stop]

theorem svcClose_foreign (held : k.mutexes 6 ≠ 0)
    (other : (k.mutexes 6).setWidth 16 ≠ k.cur.pid) :
    run (svcClose io) k = .error (.panic "muxx_svc_close: dealloc mutex") := by
  have lock : svcMutex k mutChan mutAlloc = (elocked, k.setpl7) :=
    svcMutex_alloc_taken (by decide) held
  have unlock : svcMutex k.setpl7 mutChan mutDealloc = (elocked, k.setpl7.setpl7) :=
    svcMutex_dealloc_other (k := k.setpl7) (by decide) other
  simp only [svcClose, run_bind, run_call, lock, ok_bind, if_neg (by decide : ¬ elocked = eok),
    run_pure, unlock, run_stop]

theorem closeDealloc_ipl (small : k.cur.pid.toNat < 0o400)
    (ran : run (closeDealloc io) k = .ok ((), k')) : k'.ipl = k.ipl := by
  cases driver : (k.iott io).driver with
  | none =>
    simp only [closeDealloc, readDriver, run_bind, run_read, ok_bind, driver, Option.map_none,
      run_stop] at ran
    cases ran
  | some d =>
    simp only [closeDealloc, run_bind, run_readDriver driver, ok_bind] at ran
    obtain ⟨⟨rc, k₁⟩, alloc, rest⟩ := bind_ok.mp ran
    by_cases ok : rc = eok
    · subst ok
      cases rest
      cases found : findDriver k.drvcbt (k.drvcbt d).drvname with
      | none => cases (run_svcAlloc_missing found).symm.trans alloc
      | some e =>
        by_cases lock : k.mutexes 5 = 0
        · obtain ⟨rc₁, k₁, called, ipl⟩ :=
            svcAlloc_ipl .closeAlloc drvDealloc found
          cases called.symm.trans alloc
          exact ipl.trans (if_pos ⟨lock, small⟩)
        · cases (run_svcAlloc_taken lock found).symm.trans alloc
    · rw [if_neg ok] at rest
      cases rest

theorem closeChannel_ipl (small : k.cur.pid.toNat < 0o400)
    (ran : run (closeChannel io) k = .ok (rc, k')) : k'.ipl = k.ipl := by
  simp only [closeChannel, run_bind, run_readIote, ok_bind] at ran
  split at ran
  · simp only [closeOpen, run_bind, run_readIote, ok_bind] at ran
    obtain ⟨⟨u, k₁⟩, dealloc, rest⟩ := bind_ok.mp ran
    have before : k₁.ipl = k.ipl := by
      split at dealloc
      · exact closeDealloc_ipl small dealloc
      · cases dealloc
        rfl
    simp only [run_writeIote, ok_bind, Kernel.modifyIote_twice] at rest
    split at rest
    · cases rest
      exact before
    · simp only [deallocateIobuffer, run_bind, run_write, ok_bind, run_pure] at rest
      cases rest
      exact before
  · cases ran
    rfl

theorem svcClose_ipl (chan : k.mutexes 6 = 0) (ran : run (svcClose io) k = .ok (rc, k')) :
    k'.ipl = k.ipl := by
  obtain ⟨small, k₁, closed, rfl⟩ := run_svcClose_unlocked chan ran
  have same : k₁.ipl = k.lockChan.ipl := closeChannel_ipl small closed
  exact same

end Channels

/-! ## The services -/

/-- The call comes back at the level it came with, or does not come back. -/
def SysCall.Levels (k : Kernel) (c : SysCall) : Prop :=
  ∀ answer k', run c.program k = .ok (answer, k') → k'.ipl = k.ipl

/-- The call finds the mutexes it locks free, and can let go of them, or it panics
over MUT_CHAN. -/
def SysCall.Restores (k : Kernel) : SysCall → Prop
  | .mutex m op => ¬ Misses k m op
  | .alloc devnam _ => findDriver k.drvcbt devnam = none ∨
      (k.mutexes 5 = 0 ∧ k.cur.pid.toNat < 0o400)
  | .openDev device =>
    if k.mutexes 6 = 0 then
      0o400 ≤ k.cur.pid.toNat ∨ ¬ k.Allocates device ∨ k.mutexes 5 = 0
    else (k.mutexes 6).setWidth 16 ≠ k.cur.pid
  | .close _ => k.mutexes 6 = 0 ∨ (k.mutexes 6).setWidth 16 ≠ k.cur.pid

section Levels
variable {k : Kernel}

/-- Whether a call that comes back keeps the level is seen in its only run. -/
theorem levels_of_run {c : SysCall} {answer : Answer} {k' : Kernel}
    (ran : run c.program k = .ok (answer, k')) : c.Levels k ↔ k'.ipl = k.ipl := by
  constructor
  · intro levels
    exact levels answer k' ran
  · intro same answer₁ k₁ ran₁
    cases ran.symm.trans ran₁
    exact same

theorem levels_of_stop {c : SysCall} {e : Fault} (stopped : run c.program k = .error e) :
    c.Levels k := by
  intro answer k' ran
  cases stopped.symm.trans ran

theorem driversIpl_kept : k.driversIpl = k.ipl ↔
    k.ipl = 7 ∨ (k.mutexes 5 = 0 ∧ k.cur.pid.toNat < 0o400) := by
  unfold Kernel.driversIpl
  split_ifs with free
  · exact iff_of_true rfl (.inr free)
  · constructor
    · exact fun same => .inl same.symm
    · exact fun h => (h.resolve_right free).symm

theorem mutex_levels {m op : WORD} :
    (SysCall.mutex m op).Levels k ↔ k.ipl = 7 ∨ (SysCall.mutex m op).Restores k := by
  have ran : run (SysCall.mutex m op).program k =
      .ok (.code (svcMutex k m op).1, (svcMutex k m op).2) := rfl
  rw [levels_of_run ran]
  by_cases missed : Misses k m op
  · rw [svcMutex_missed missed]
    constructor
    · exact fun same => .inl same.symm
    · exact fun high => (high.resolve_right fun found => found missed).symm
  · exact iff_of_true (svcMutex_ipl missed) (.inr missed)

theorem alloc_levels {devnam : Name} {op : WORD} :
    (SysCall.alloc devnam op).Levels k ↔ k.ipl = 7 ∨ (SysCall.alloc devnam op).Restores k := by
  cases found : findDriver k.drvcbt devnam with
  | none =>
    refine iff_of_true ?_ (.inr (.inl found))
    intro answer k' ran
    have ran' : run (SysCall.alloc devnam op).program k = .ok (.code enotfound, k) := by
      simp [SysCall.program, run_svcAlloc_missing found]
    cases ran'.symm.trans ran
    rfl
  | some e =>
    obtain ⟨rc, k', called, ipl⟩ := svcAlloc_ipl .alloc op found
    have ran : run (SysCall.alloc devnam op).program k = .ok (.code rc, k') := by
      simp [SysCall.program, called]
    have missing : ¬ findDriver k.drvcbt devnam = none := by
      rw [found]
      exact Option.some_ne_none e
    rw [levels_of_run ran, ipl, driversIpl_kept]
    simp only [SysCall.Restores, missing, false_or]

theorem open_levels {device : Name} :
    (SysCall.openDev device).Levels k ↔ k.ipl = 7 ∨ (SysCall.openDev device).Restores k := by
  have answers {io k'} (ran : run (svcOpen device) k = .ok (io, k')) :
      run (SysCall.openDev device).program k = .ok (.channel io, k') := by
    simp [SysCall.program, ran]
  have stops {e} (stopped : run (svcOpen device) k = .error e) :
      run (SysCall.openDev device).program k = .error e := by
    simp [SysCall.program, stopped]
  simp only [SysCall.Restores]
  by_cases chan : k.mutexes 6 = 0
  · rw [if_pos chan]
    by_cases large : 0o400 ≤ k.cur.pid.toNat
    · exact iff_of_true (levels_of_stop (stops (run_svcOpen_large chan large device)))
        (.inr (.inl large))
    · have small := Nat.lt_of_not_le large
      obtain ⟨rc, slot, k₁, outcome, ran⟩ := run_svcOpen chan small device
      obtain ⟨allocates, other⟩ := svcOpen_ipl chan small ran
      rw [levels_of_run (answers ran)]
      by_cases unclaimed : k.Allocates device
      · rw [allocates unclaimed, driversIpl_kept]
        simp only [large, unclaimed, small, not_true_eq_false, false_or, and_true]
      · exact iff_of_true (other unclaimed) (.inr (.inr (.inl unclaimed)))
  · rw [if_neg chan]
    by_cases own : (k.mutexes 6).setWidth 16 = k.cur.pid
    · obtain ⟨k', ran, ipl⟩ := svcOpen_held device chan own
      rw [levels_of_run (answers ran), ipl]
      simp only [own, ne_eq, not_true_eq_false, or_false]
      exact eq_comm
    · exact iff_of_true (levels_of_stop (stops (svcOpen_foreign chan own))) (.inr own)

theorem close_levels {io : Fin iotSentries} :
    (SysCall.close io).Levels k ↔ k.ipl = 7 ∨ (SysCall.close io).Restores k := by
  simp only [SysCall.Restores]
  by_cases chan : k.mutexes 6 = 0
  · refine iff_of_true ?_ (.inr (.inl chan))
    intro answer k' ran
    simp only [SysCall.program, run_bind] at ran
    obtain ⟨⟨rc, k₁⟩, closed, ret⟩ := bind_ok.mp ran
    cases ret
    exact svcClose_ipl chan closed
  · by_cases own : (k.mutexes 6).setWidth 16 = k.cur.pid
    · obtain ⟨k', closed, ipl⟩ := svcClose_held io chan own
      have ran : run (SysCall.close io).program k = .ok (.code elocked, k') := by
        simp [SysCall.program, closed]
      rw [levels_of_run ran, ipl]
      simp only [chan, own, ne_eq, not_true_eq_false, or_false]
      exact eq_comm
    · refine iff_of_true ?_ (.inr (.inr own))
      apply levels_of_stop (e := .panic "muxx_svc_close: dealloc mutex")
      simp [SysCall.program, svcClose_foreign chan own]

end Levels

/-- A system call that comes back leaves the processor at the level it came with
exactly when that is 7 or it misses no mutex. -/
theorem level_restored_iff (k : Kernel) (c : SysCall) :
    c.Levels k ↔ k.ipl = 7 ∨ c.Restores k := by
  cases c with
  | alloc devnam op => exact alloc_levels
  | openDev device => exact open_levels
  | close io => exact close_levels
  | mutex m op => exact mutex_levels

/-- INIT asks for MUT_DRV a second time and goes on at priority 7. -/
theorem level_lost :
    ¬ (SysCall.mutex mutDrv mutAlloc).Levels (oneDisk.setMutex 5 (keptPid oneDisk.cur.pid)) := by
  intro levels
  have level : 7 = 0 := levels (.code elocked) _ rfl
  cases level

end Muxx
