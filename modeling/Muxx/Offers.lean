import Muxx.Library

/-!
# What an open needs and leaves

muxx_svc_open and muxx_svc_close of muxx_channels.c from any state:

* `Kernel.Offers`, `LeavesChannel`: what an open that returns a channel has found, and
  what it leaves;
* `svcOpen_leaves`, `Kernel.Offers.opens`: it returns one exactly then;
* `svcClose_returns`: such a channel can be closed again.
-/

namespace Muxx

open Prog Fallible

/-- `device` is a name of the driver `d`, and an open gets a channel on it. -/
structure Kernel.Offers (k : Kernel) (device : Name) (d : Fin maxDrv) : Prop where
  chan : k.mutexes 6 = 0
  pid : k.cur.pid.toNat < 0o400
  entry : findFreeIote k.iott ≠ none
  located : ∃ v, locatePdev k.drvcbt device = some (d, v)
  grants : k.Grants d
  drv : k.mutexes 5 = 0 ∨ (k.drvcbt d).desc.shareable ∨ (k.drvcbt d).alloc

/-- The driver that a close gives back is there and the caller's. -/
def Kernel.Returnable (k : Kernel) (io : Fin iotSentries) : Prop :=
  (k.iott io).dealloc = true → k.mutexes 5 = 0 ∧ ∃ d e, (k.iott io).driver = some d ∧
    findDriver k.drvcbt (k.drvcbt d).drvname = some e ∧ (k.drvcbt e).alloc = true ∧
    (k.drvcbt e).ownerid = some k.curtcb

/-- An open has left its channel in `io`, on the driver `d`. -/
structure LeavesChannel (k k' : Kernel) (io : Fin iotSentries) (d : Fin maxDrv) : Prop where
  tct : k'.tct = k.tct
  curtcb : k'.curtcb = k.curtcb
  chan : k'.mutexes 6 = 0
  opened : (k'.iott io).opened = true
  driver : (k'.iott io).driver = d
  desc : (k'.drvcbt d).desc = (k.drvcbt d).desc
  returnable : k'.Returnable io

section Opening
variable {k k' : Kernel} {device : Name} {slot : Option (Fin iotSentries)}
variable {io : Fin iotSentries} {d : Fin maxDrv} {rc : Int}

/-- An open that does not get MUT_CHAN. -/
theorem run_svcOpen_taken (taken : k.mutexes 6 ≠ 0) (ran : run (svcOpen device) k = .ok (slot, k')) :
    slot = none ∧ k'.tct = k.tct ∧ k'.curtcb = k.curtcb ∧ k'.t_errno k'.curtcb = elocked := by
  have lock : svcMutex k mutChan mutAlloc = (elocked, k.setpl7) :=
    svcMutex_alloc_taken (by decide) taken
  have locked : elocked ≠ eok := by decide
  simp only [svcOpen, run_bind, run_call, lock, ok_bind, if_neg locked, run_pure] at ran
  split_ifs at ran with unlocked
  · cases ran
    exact ⟨rfl, svcMutex_tct .., svcMutex_curtcb .., Function.update_self ..⟩
  · cases ran

/-- What the caller of an open can rely on. -/
theorem run_svcOpen_slot (ran : run (svcOpen device) k = .ok (slot, k')) :
    k'.tct = k.tct ∧ k'.curtcb = k.curtcb ∧ (slot = none → k'.t_errno k'.curtcb < 0) ∧
      ∀ io, slot = some io →
        (k'.iott io).opened = true ∧ ∃ d : Fin maxDrv, (k'.iott io).driver = d := by
  by_cases chan : k.mutexes 6 = 0
  · by_cases large : 0o400 ≤ k.cur.pid.toNat
    · cases (run_svcOpen_large chan large device).symm.trans ran
    obtain ⟨rc, slot₁, k₁, outcome, ran'⟩ := run_svcOpen chan (Nat.lt_of_not_le large) device
    have tct := outcome.spared.tct
    have curtcb := outcome.spared.curtcb
    have errno (k : Kernel) (rc : Int) (failed : rc < 0) :
        (k.setErrno rc).t_errno (k.setErrno rc).curtcb < 0 :=
      (setErrno_errno k rc).trans_lt failed
    cases outcome with
    | full =>
      cases ran'.symm.trans ran
      exact ⟨tct, curtcb, fun _ => errno _ _ (by decide), fun io same => by cases same⟩
    | missing =>
      cases ran'.symm.trans ran
      exact ⟨tct, curtcb, fun _ => errno _ _ (by decide), fun io same => by cases same⟩
    | @found io d v _ _ free located opens =>
      have driver : ((k.lockChan.fillIote io d v).iott io).driver = d := by
        rw [Kernel.fillIote, Kernel.modifyIote_self]
      have filled := opens.driver driver
      by_cases ok : rc = eok
      · rw [if_pos ok] at ran'
        cases ran'.symm.trans ran
        refine ⟨tct, curtcb, fun null => absurd null (Option.some_ne_none io), ?_⟩
        intro j same
        obtain rfl := Option.some_inj.mp same
        exact ⟨opens.isOpen ok, d, filled⟩
      · rw [if_neg ok] at ran'
        cases ran'.symm.trans ran
        exact ⟨tct, curtcb, fun _ => errno _ _ (opens.failed ok), fun io same => by cases same⟩
  · obtain ⟨rfl, tct, curtcb, errno⟩ := run_svcOpen_taken chan ran
    exact ⟨tct, curtcb, fun _ => errno.trans_lt (by decide), fun io same => by cases same⟩

/-- An allocation changes the owner of one driver. -/
theorem afterAlloc_driver (k : Kernel) (e j : Fin maxDrv) :
    (afterAlloc k e .alloc).drvcbt j = { k.drvcbt j with
      alloc := ((afterAlloc k e .alloc).drvcbt j).alloc
      ownerid := ((afterAlloc k e .alloc).drvcbt j).ownerid } := by
  rw [afterAlloc_drvcbt]
  by_cases same : j = e
  · subst same
    rw [Function.update_self, DeviceOp.entry]
    split_ifs <;> rfl
  · rw [Function.update_of_ne same]

theorem Claims.desc (h : Claims k io d rc k') : (k'.drvcbt d).desc = (k.drvcbt d).desc := by
  cases h with
  | had => rfl
  | @allocated e =>
    rw [Kernel.modifyIote_drvcbt, afterAlloc_driver]
  | refused _ _ _ _ _ drvcbt => rw [drvcbt]

theorem Claims.returnable (h : Claims k io d eok k') (driver : (k.iott io).driver = d)
    (cleared : (k.iott io).dealloc = false) (small : k.cur.pid.toNat < 0o400) :
    k'.Returnable io := by
  cases h with
  | had =>
    intro gives
    exact absurd (gives.symm.trans cleared) (by decide)
  | @allocated e _ _ lock found unowned =>
    intro _
    have mutexes := (afterAlloc_mutexes lock e .alloc).mpr (.inl small)
    refine ⟨?_, d, e, ?_, ?_, ?_, ?_⟩
    · exact (congrFun mutexes 5).trans lock
    · simpa using driver
    · rw [Kernel.modifyIote_drvcbt, afterAlloc_driver, ← found]
      refine findDriver_congr ?_ ?_ <;>
        · intro j
          rw [afterAlloc_driver]
    · simp [DeviceOp.entry, unowned]
    · simp [DeviceOp.entry, unowned]
  | refused failed => exact absurd failed (Int.lt_irrefl _)

theorem Opens.leavesChannel (h : Opens k io d rc k') (ok : rc = eok)
    (driver : (k.iott io).driver = d) (small : k.cur.pid.toNat < 0o400) :
    (k'.drvcbt d).desc = (k.drvcbt d).desc ∧ k'.Returnable io := by
  cases h with
  | offline => exact absurd ok (by decide)
  | refused _ failed => exact absurd ok failed.ne
  | @opened k₁ active claims =>
    refine ⟨claims.desc, ?_⟩
    have returnable : k₁.Returnable io := by
      refine claims.returnable ?_ ?_ small
      · rw [Kernel.modifyIote_self]
        exact driver
      · rw [Kernel.modifyIote_self]
        rfl
    intro gives
    rw [Kernel.modifyIote_self] at gives
    obtain ⟨lock, d', e, driver, found⟩ := returnable gives
    exact ⟨lock, d', e, (congrArg IOTE.driver (Kernel.modifyIote_self ..)).trans driver, found⟩

/-- An open that returns a channel has been offered one. -/
theorem svcOpen_leaves (ran : run (svcOpen device) k = .ok (some io, k')) :
    ∃ d, k.Offers device d ∧ LeavesChannel k k' io d := by
  by_cases chan : k.mutexes 6 = 0
  · by_cases large : 0o400 ≤ k.cur.pid.toNat
    · cases (run_svcOpen_large chan large device).symm.trans ran
    have small := Nat.lt_of_not_le large
    obtain ⟨rc, slot, k₁, outcome, ran'⟩ := run_svcOpen chan small device
    have tct := outcome.spared.tct
    have curtcb := outcome.spared.curtcb
    cases outcome with
    | full => cases ran'.symm.trans ran
    | missing => cases ran'.symm.trans ran
    | @found io' d v _ _ free located opens =>
      have driver : ((k.lockChan.fillIote io' d v).iott io').driver = d := by
        rw [Kernel.fillIote, Kernel.modifyIote_self]
      have left := opens.leavesChannel
      have filled := opens.driver driver
      by_cases ok : rc = eok
      · rw [if_pos ok] at ran'
        cases ran'.symm.trans ran
        obtain ⟨desc, returnable⟩ := left ok driver small
        obtain ⟨grants, drv⟩ := (opens.grants (locatePdev_free located)).mp ok
        refine ⟨d, ⟨chan, small, ?_, ⟨v, located⟩, grants, drv⟩, ⟨tct, curtcb,
          Kernel.setMutex_self k₁ 6 0, opens.isOpen ok, filled, desc, ?_⟩⟩
        · intro none
          cases none.symm.trans free
        · intro gives
          obtain ⟨lock, found⟩ := returnable gives
          refine ⟨?_, found⟩
          rw [Kernel.setMutex_mutexes, Function.update_of_ne (by decide)]
          exact lock
      · rw [if_neg ok] at ran'
        cases ran'.symm.trans ran
  · cases (run_svcOpen_taken chan ran).1

theorem Kernel.Offers.opens (h : k.Offers device d) :
    ∃ io k', run (svcOpen device) k = .ok (some io, k') := by
  obtain ⟨rc, slot, k₁, outcome, ran⟩ := run_svcOpen h.chan h.pid device
  obtain ⟨v, located⟩ := h.located
  cases outcome with
  | full full => exact absurd full h.entry
  | missing _ missing => cases missing.symm.trans located
  | @found io d' v' _ _ free located' opens =>
    cases located'.symm.trans located
    have ok : rc = eok := (opens.grants (locatePdev_free located)).mpr ⟨h.grants, h.drv⟩
    rw [if_pos ok] at ran
    exact ⟨io, _, ran⟩

theorem closeDealloc_returns (driver : (k.iott io).driver = d) (returnable : k.Returnable io) :
    ∃ k', run (if (k.iott io).dealloc then closeDealloc io else pure ()) k = .ok ((), k') := by
  by_cases gives : (k.iott io).dealloc = true
  · obtain ⟨drv, d', e, driver', found, alloc, owner⟩ := returnable gives
    obtain rfl : d' = d := Option.some_inj.mp (driver'.symm.trans driver)
    have ran : run (svcAlloc Place.closeAlloc (k.drvcbt d').drvname DeviceOp.dealloc.code) k = _ :=
      run_svcAlloc drv found
    have fine : DeviceOp.dealloc.answer (k.drvcbt e) k.curtcb k.cur.operprv = eok := by
      simp [DeviceOp.answer, alloc, owner]
    rw [fine] at ran
    refine ⟨afterAlloc k e .dealloc, ?_⟩
    rw [if_pos gives]
    simp only [closeDealloc, run_bind, run_readDriver driver, ok_bind]
    exact (congrArg (· >>= _) ran).trans rfl
  · exact ⟨k, by rw [if_neg gives]; rfl⟩

/-- A close of a channel that has what it is to give back returns. -/
theorem svcClose_returns (chan : k.mutexes 6 = 0) (small : k.cur.pid.toNat < 0o400)
    (opened : (k.iott io).opened = true) (driver : (k.iott io).driver = d)
    (returnable : k.Returnable io) : ∃ k', run (svcClose io) k = .ok (eok, k') := by
  have lock : svcMutex k mutChan mutAlloc = (eok, k.lockChan) :=
    svcMutex_alloc_free (by decide) chan
  have driver : (k.lockChan.iott io).driver = d := driver
  have opened : (k.lockChan.iott io).opened = true := opened
  obtain ⟨k₁, gave⟩ := closeDealloc_returns driver returnable
  have closed : ∃ k₂, run (closeChannel io) k.lockChan = .ok (eok, k₂) := by
    simp only [closeChannel, closeOpen, run_bind, run_readIote, ok_bind, opened, if_true, gave,
      run_writeIote, Kernel.modifyIote_twice]
    split_ifs <;> exact ⟨_, rfl⟩
  obtain ⟨k₂, ran⟩ := closed
  have unlock := (run_closeChannel ran).1.unlock small
  refine ⟨(k₂.setMutex 6 0).setErrno eok, ?_⟩
  simp only [svcClose, run_bind, run_call, lock, ok_bind, if_true, ran, unlock]
  rfl

end Opening

end Muxx
