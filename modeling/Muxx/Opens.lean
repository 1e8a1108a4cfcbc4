import Muxx.Channels

/-!
# What an open does

muxx_svc_open by itself, from a state in which MUT_CHAN is free:

* `Claims`, `Opens`, `Outcome`: all that its parts can do, one after the other;
* `run_svcOpen`: what the service returns and leaves;
* `open_leaves_iff`: an open that fails leaves the tables alone exactly when it
  fails before it has filled in an entry.
-/

namespace Muxx

open Prog Fallible

namespace Kernel
variable (k : Kernel) (io : Fin iotSentries) (f g : IOTE → IOTE)

@[simp] theorem modifyIote_self : (k.modifyIote io f).iott io = f (k.iott io) :=
  Function.update_self ..

theorem modifyIote_ne {j : Fin iotSentries} (other : j ≠ io) :
    (k.modifyIote io f).iott j = k.iott j :=
  Function.update_of_ne other ..

@[simp] theorem modifyIote_twice :
    (k.modifyIote io f).modifyIote io g = k.modifyIote io fun e => g (f e) := by
  simp [modifyIote]

@[simp] theorem modifyIote_drvcbt : (k.modifyIote io f).drvcbt = k.drvcbt := rfl

@[simp] theorem modifyIote_curtcb : (k.modifyIote io f).curtcb = k.curtcb := rfl

@[simp] theorem modifyIote_tct : (k.modifyIote io f).tct = k.tct := rfl

@[simp] theorem modifyIote_mutexes : (k.modifyIote io f).mutexes = k.mutexes := rfl

end Kernel

/-- What every open of an active driver clears. -/
def IOTE.clear (e : IOTE) : IOTE :=
  { e with
    opened := false, eof := false, ioerror := false, dealloc := false
    error := eok, position := 0 }

/-! ## The driver -/

/-- How the entry `io` gets the driver `d`, or does not. -/
inductive Claims (k : Kernel) (io : Fin iotSentries) (d : Fin maxDrv) : Int → Kernel → Prop
  | had (shared : (k.drvcbt d).desc.shareable ∨
      ((k.drvcbt d).alloc ∧ (k.drvcbt d).ownerid = some k.curtcb)) : Claims k io d eok k
  | allocated {e : Fin maxDrv} (exclusive : (k.drvcbt d).desc.shareable = false)
      (unowned : (k.drvcbt d).alloc = false) (lock : k.mutexes 5 = 0)
      (found : findDriver k.drvcbt (k.drvcbt d).drvname = some e)
      (unowned' : (k.drvcbt e).alloc = false) :
      Claims k io d eok ((afterAlloc k e .alloc).modifyIote io ({ · with dealloc := true }))
  | refused {rc : Int} {k' : Kernel} (failed : rc < eok)
      (exclusive : (k.drvcbt d).desc.shareable = false)
      (owned : if (k.drvcbt d).alloc then (k.drvcbt d).ownerid ≠ some k.curtcb
        else k.mutexes 5 ≠ 0 ∨
          ∀ e, findDriver k.drvcbt (k.drvcbt d).drvname = some e → (k.drvcbt e).alloc = true)
      (tct : k'.tct = k.tct) (curtcb : k'.curtcb = k.curtcb) (drvcbt : k'.drvcbt = k.drvcbt)
      (mutexes : ∀ n ≠ 5, k'.mutexes n = k.mutexes n)
      (iott : k'.iott = (k.modifyIote io ({ · with error := rc })).iott) : Claims k io d rc k'

/-- How an entry with the driver `d` is opened, or is not. -/
inductive Opens (k : Kernel) (io : Fin iotSentries) (d : Fin maxDrv) : Int → Kernel → Prop
  | offline (inactive : (k.drvcbt d).active = false) : Opens k io d eoffline k
  | refused {rc : Int} {k' : Kernel} (active : (k.drvcbt d).active = true) (failed : rc < eok)
      (claims : Claims (k.modifyIote io IOTE.clear) io d rc k') : Opens k io d rc k'
  | opened {k' : Kernel} (active : (k.drvcbt d).active = true)
      (claims : Claims (k.modifyIote io IOTE.clear) io d eok k') :
      Opens k io d eok (k'.modifyIote io ({ · with opened := true }))

section Driver
variable {k k' : Kernel} {io : Fin iotSentries} {d e : Fin maxDrv} {rc : Int}

theorem bitfield_ne_one (b : Bool) : bitfield b ≠ 1 := by cases b <;> decide

theorem run_readDriver {α : Type} {pt : Place} {f : DRVCB → α} (driver : (k.iott io).driver = d) :
    run (readDriver pt io f) k = .ok (f (k.drvcbt d), k) := by
  simp [readDriver, driver]

@[simp] theorem run_readIote {α : Type} {pt : Place} {f : IOTE → α} :
    run (readIote pt io f) k = .ok (f (k.iott io), k) := rfl

@[simp] theorem run_writeIote {pt : Place} {f : IOTE → IOTE} :
    run (writeIote pt io f) k = .ok ((), k.modifyIote io f) := rfl

theorem run_svcAlloc_taken {pt : AllocStep → Place} {devnam : Name} {op : WORD}
    (taken : k.mutexes 5 ≠ 0) (found : findDriver k.drvcbt devnam = some e) :
    run (svcAlloc pt devnam op) k = .ok (elocked, k.setpl7) := by
  have lock := svcMutex_alloc_taken (by decide : mutDrv ≤ mutMutexes) taken
  simp only [svcAlloc, run_bind, run_read, ok_bind, found, run_call, lock]
  rw [if_neg (by decide)]
  rfl

@[simp] theorem afterAlloc_iott {op : DeviceOp} : (afterAlloc k e op).iott = k.iott :=
  svcMutex_iott ..

@[simp] theorem afterAlloc_curtcb {op : DeviceOp} : (afterAlloc k e op).curtcb = k.curtcb :=
  svcMutex_curtcb ..

theorem afterAlloc_other {op : DeviceOp} {n : Nat} (other : n ≠ 5) :
    (afterAlloc k e op).mutexes n = k.mutexes n :=
  (svcMutex_other _ _ _ other).trans (Function.update_of_ne other ..)

/-- A driver that nobody has is allocated by its name. -/
theorem run_claimDriver_unowned (driver : (k.iott io).driver = d)
    (unowned : (k.drvcbt d).alloc = false)
    (ran : run (svcAlloc Place.openAlloc (k.drvcbt d).drvname drvAlloc) k = .ok (rc, k')) :
    run (claimDriver io) k = .ok (rc, k'.modifyIote io fun e =>
      if rc = eok then { e with dealloc := true } else { e with error := rc }) := by
  by_cases allocated : rc = eok <;>
    simp only [claimDriver, run_bind, run_readDriver driver, ok_bind, unowned, Bool.false_eq_true,
      if_false, ran, allocated, if_true, run_writeIote, run_pure]

/-- A driver that is not free is there to be looked up. -/
theorem findDriver_self {drvcbt : Fin maxDrv → DRVCB} (free : (drvcbt d).free = false) :
    ∃ e, findDriver drvcbt (drvcbt d).drvname = some e := by
  apply Option.isSome_iff_exists.mp
  rw [findDriver, List.find?_isSome]
  exact ⟨d, List.mem_finRange d, by simp [free]⟩

theorem run_claimDriver (driver : (k.iott io).driver = d) (free : (k.drvcbt d).free = false)
    (exclusive : (k.drvcbt d).desc.shareable = false) :
    ∃ rc k', run (claimDriver io) k = .ok (rc, k') ∧ Claims k io d rc k' := by
  cases alloc : (k.drvcbt d).alloc with
  | true =>
    by_cases own : (k.drvcbt d).ownerid = some k.curtcb
    · refine ⟨eok, k, ?_, .had (.inr ⟨alloc, own⟩)⟩
      simp [claimDriver, run_readDriver driver, alloc, own]
    · refine ⟨enoavail, k.modifyIote io ({ · with error := enoavail }), ?_, ?_⟩
      · simp [claimDriver, run_readDriver driver, alloc, own]
      · exact .refused (by decide) exclusive (by rw [alloc]; exact own) rfl rfl rfl
          (fun _ _ => rfl) rfl
  | false =>
    obtain ⟨e, found⟩ := findDriver_self free
    by_cases lock : k.mutexes 5 = 0
    · have ran : run (svcAlloc Place.openAlloc (k.drvcbt d).drvname DeviceOp.alloc.code) k = _ :=
        run_svcAlloc lock found
      cases alloc' : (k.drvcbt e).alloc with
      | true =>
        refine ⟨enoavail, (afterAlloc k e .alloc).modifyIote io ({ · with error := enoavail }),
          ?_, ?_⟩
        · simp only [DeviceOp.answer, alloc', if_true, DeviceOp.code] at ran
          exact run_claimDriver_unowned driver alloc ran
        · refine .refused (by decide) exclusive ?_ afterAlloc_tct afterAlloc_curtcb ?_
            (fun n other => afterAlloc_other other) ?_
          · rw [alloc]
            right
            intro e' found'
            obtain rfl := Option.some_inj.mp (found.symm.trans found')
            exact alloc'
          · simp [DeviceOp.entry, alloc']
          · simp [Kernel.modifyIote]
      | false =>
        refine ⟨eok, _, ?_, .allocated exclusive alloc lock found alloc'⟩
        simp only [DeviceOp.answer, alloc', DeviceOp.code] at ran
        exact run_claimDriver_unowned driver alloc ran
    · refine ⟨elocked, k.setpl7.modifyIote io ({ · with error := elocked }), ?_, ?_⟩
      · exact run_claimDriver_unowned driver alloc (run_svcAlloc_taken lock found)
      · exact .refused (by decide) exclusive (by rw [alloc]; exact .inl lock) rfl rfl rfl
          (fun _ _ => rfl) rfl

theorem run_finishOpen (driver : (k.iott io).driver = d) (rc : Int) :
    run (finishOpen io rc) k = .ok (rc, k.modifyIote io ({ · with opened := true })) := by
  simp [finishOpen, run_readDriver driver, bitfield_ne_one]

theorem Claims.driver (h : Claims k io d rc k') (driver : (k.iott io).driver = d) :
    (k'.iott io).driver = d := by
  cases h with
  | had => exact driver
  | allocated => simpa using driver
  | refused _ _ _ _ _ _ _ iott =>
    rw [iott, Kernel.modifyIote_self]
    exact driver

theorem Claims.other (h : Claims k io d rc k') {j : Fin iotSentries} (other : j ≠ io) :
    k'.iott j = k.iott j := by
  cases h with
  | had => rfl
  | allocated => rw [Kernel.modifyIote_ne _ _ _ other, afterAlloc_iott]
  | refused _ _ _ _ _ _ _ iott => rw [iott, Kernel.modifyIote_ne _ _ _ other]

theorem Claims.opened (h : Claims k io d rc k') : (k'.iott io).opened = (k.iott io).opened := by
  cases h with
  | had => rfl
  | allocated => rw [Kernel.modifyIote_self, afterAlloc_iott]
  | refused _ _ _ _ _ _ _ iott => rw [iott, Kernel.modifyIote_self]

/-- Errors are negative. -/
theorem Claims.failed (h : Claims k io d rc k') (failed : rc ≠ eok) : rc < eok := by
  cases h with
  | had => exact absurd rfl failed
  | allocated => exact absurd rfl failed
  | refused negative => exact negative

/-- The error of the entry is the answer. -/
theorem Claims.error (h : Claims k io d rc k') (clear : (k.iott io).error = eok) :
    (k'.iott io).error = rc := by
  cases h with
  | had => exact clear
  | allocated => simpa using clear
  | refused _ _ _ _ _ _ _ iott => rw [iott, Kernel.modifyIote_self]

theorem run_openDriver_offline (driver : (k.iott io).driver = d)
    (inactive : (k.drvcbt d).active = false) : run (openDriver io) k = .ok (eoffline, k) := by
  simp [openDriver, run_readDriver driver, inactive]

/-- An active driver is claimed for the entry, which is then opened or not. -/
theorem run_openDriver_claimed {k₁ : Kernel} (driver : (k.iott io).driver = d)
    (active : (k.drvcbt d).active = true)
    (ran : run (if (k.drvcbt d).desc.shareable then pure eok else claimDriver io)
      (k.modifyIote io IOTE.clear) = .ok (rc, k₁))
    (claims : Claims (k.modifyIote io IOTE.clear) io d rc k₁) :
    run (openDriver io) k =
      .ok (rc, if rc = eok then k₁.modifyIote io ({ · with opened := true }) else k₁) := by
  have cleared : ((k.modifyIote io IOTE.clear).iott io).driver = d := by
    rw [Kernel.modifyIote_self]
    exact driver
  have error := claims.error (by rw [Kernel.modifyIote_self]; rfl)
  have finish := run_finishOpen (claims.driver cleared) rc
  unfold IOTE.clear at cleared ran
  simp only [openDriver, run_bind, run_readDriver driver, ok_bind, active, if_true,
    run_writeIote, Kernel.modifyIote_twice, run_readDriver cleared, Kernel.modifyIote_drvcbt,
    ran, run_readIote, error]
  by_cases opened : rc = eok
  · rw [if_pos opened, if_pos opened, finish]
  · rw [if_neg opened, if_neg opened]
    rfl

theorem run_claimed (driver : (k.iott io).driver = d) (free : (k.drvcbt d).free = false) :
    ∃ rc k', run (if (k.drvcbt d).desc.shareable then pure eok else claimDriver io) k =
      .ok (rc, k') ∧ Claims k io d rc k' := by
  cases shareable : (k.drvcbt d).desc.shareable with
  | true => exact ⟨eok, _, rfl, .had (.inl shareable)⟩
  | false => exact run_claimDriver driver free shareable

theorem run_openDriver (driver : (k.iott io).driver = d) (free : (k.drvcbt d).free = false) :
    ∃ rc k', run (openDriver io) k = .ok (rc, k') ∧ Opens k io d rc k' := by
  cases active : (k.drvcbt d).active with
  | false => exact ⟨eoffline, k, run_openDriver_offline driver active, .offline active⟩
  | true =>
    have cleared : ((k.modifyIote io IOTE.clear).iott io).driver = d := by
      rw [Kernel.modifyIote_self]
      exact driver
    obtain ⟨rc, k₁, ran, claims⟩ := run_claimed cleared free
    refine ⟨rc, _, run_openDriver_claimed driver active ran claims, ?_⟩
    by_cases opened : rc = eok
    · subst opened
      exact .opened active claims
    · rw [if_neg opened]
      exact .refused active (claims.failed opened) claims

/-- The driver stays in the entry, whatever the answer is. -/
theorem Opens.driver (h : Opens k io d rc k') (driver : (k.iott io).driver = d) :
    (k'.iott io).driver = d := by
  have cleared : ((k.modifyIote io IOTE.clear).iott io).driver = d := by
    rw [Kernel.modifyIote_self]
    exact driver
  cases h with
  | offline => exact driver
  | refused _ _ claims => exact claims.driver cleared
  | opened _ claims =>
    rw [Kernel.modifyIote_self]
    exact claims.driver cleared

theorem Opens.other (h : Opens k io d rc k') {j : Fin iotSentries} (other : j ≠ io) :
    k'.iott j = k.iott j := by
  have cleared := Kernel.modifyIote_ne k io IOTE.clear other
  cases h with
  | offline => rfl
  | refused _ _ claims => exact (claims.other other).trans cleared
  | opened _ claims =>
    rw [Kernel.modifyIote_ne _ _ _ other]
    exact (claims.other other).trans cleared

theorem Opens.failed (h : Opens k io d rc k') (failed : rc ≠ eok) : rc < eok := by
  cases h with
  | offline => decide
  | refused _ negative => exact negative
  | opened => exact absurd rfl failed

theorem Opens.isOpen (h : Opens k io d rc k') (ok : rc = eok) : (k'.iott io).opened = true := by
  cases h with
  | offline => exact absurd ok (by decide)
  | refused _ failed => exact absurd ok failed.ne
  | opened => rw [Kernel.modifyIote_self]

/-- The entry is open when the answer says so. -/
theorem Opens.opened_iff (h : Opens k io d rc k') (closed : (k.iott io).opened = false) :
    (k'.iott io).opened = true ↔ rc = eok := by
  refine ⟨?_, h.isOpen⟩
  cases h with
  | offline =>
    rw [closed]
    exact fun opened => absurd opened Bool.false_ne_true
  | refused _ failed claims =>
    rw [claims.opened, Kernel.modifyIote_self]
    exact fun opened => absurd opened Bool.false_ne_true
  | opened => exact fun _ => rfl

end Driver

/-! ## The channel -/

/-- An entry as muxx_locate_dev fills it in. -/
def Kernel.fillIote (k : Kernel) (io : Fin iotSentries) (d : Fin maxDrv) (v : Located) : Kernel :=
  k.modifyIote io ({ · with driver := d, controller := v.controller, unit := v.unit })

/-- What an open does while it has MUT_CHAN. -/
inductive OpenOutcome (k : Kernel) (device : Name) :
    Int → Option (Fin iotSentries) → Kernel → Prop
  | full (full : findFreeIote k.iott = none) : OpenOutcome k device enosysres none k
  | missing {io : Fin iotSentries} (slot : findFreeIote k.iott = some io)
      (missing : locatePdev k.drvcbt device = none) : OpenOutcome k device enotfound io k
  | found {io : Fin iotSentries} {d : Fin maxDrv} {v : Located} {rc : Int} {k' : Kernel}
      (slot : findFreeIote k.iott = some io) (located : locatePdev k.drvcbt device = some (d, v))
      (opens : Opens (k.fillIote io d v) io d rc k') : OpenOutcome k device rc io k'

section Channel
variable {k k' : Kernel} {device : Name} {io : Fin iotSentries} {d : Fin maxDrv} {rc : Int}
variable {slot : Option (Fin iotSentries)}

theorem run_openChannel (k : Kernel) (device : Name) :
    ∃ rc slot k', run (openChannel device) k = .ok ((rc, slot), k') ∧
      OpenOutcome k device rc slot k' := by
  cases free : findFreeIote k.iott with
  | none =>
    refine ⟨enosysres, none, k, ?_, .full free⟩
    simp [openChannel, free]
  | some io =>
    cases located : locatePdev k.drvcbt device with
    | none =>
      refine ⟨enotfound, io, k, ?_, .missing free located⟩
      simp [openChannel, free, locateDev, located]
    | some found =>
      obtain ⟨d, v⟩ := found
      have driver : ((k.fillIote io d v).iott io).driver = d := by
        rw [Kernel.fillIote, Kernel.modifyIote_self]
      obtain ⟨rc, k', ran, opens⟩ := run_openDriver driver (locatePdev_free located)
      refine ⟨rc, io, k', ?_, .found free located opens⟩
      unfold Kernel.fillIote at ran
      simp [openChannel, free, locateDev, located, ran]

/-- What a service leaves as it was. -/
structure Spared (k k' : Kernel) : Prop where
  tct : k'.tct = k.tct
  curtcb : k'.curtcb = k.curtcb
  mutexes : ∀ n ≠ 5, k'.mutexes n = k.mutexes n

theorem Spared.cur (h : Spared k k') : k'.cur = k.cur := by
  rw [Kernel.cur, h.tct, h.curtcb]
  rfl

theorem Claims.spared (h : Claims k io d rc k') : Spared k k' := by
  cases h with
  | had => exact ⟨rfl, rfl, fun _ _ => rfl⟩
  | allocated => exact ⟨afterAlloc_tct, afterAlloc_curtcb, fun _ => afterAlloc_other⟩
  | refused _ _ _ tct curtcb _ mutexes => exact ⟨tct, curtcb, mutexes⟩

theorem Opens.spared (h : Opens k io d rc k') : Spared k k' := by
  cases h with
  | offline => exact ⟨rfl, rfl, fun _ _ => rfl⟩
  | refused _ _ claims => exact ⟨claims.spared.tct, claims.spared.curtcb, claims.spared.mutexes⟩
  | opened _ claims => exact ⟨claims.spared.tct, claims.spared.curtcb, claims.spared.mutexes⟩

theorem OpenOutcome.spared (h : OpenOutcome k device rc slot k') : Spared k k' := by
  cases h with
  | full => exact ⟨rfl, rfl, fun _ _ => rfl⟩
  | missing => exact ⟨rfl, rfl, fun _ _ => rfl⟩
  | found _ _ opens => exact ⟨opens.spared.tct, opens.spared.curtcb, opens.spared.mutexes⟩

/-- The kernel in which a service that has taken MUT_CHAN goes on. -/
def Kernel.lockChan (k : Kernel) : Kernel := k.setMutex 6 (keptPid k.cur.pid)

@[simp] theorem Kernel.setMutex_self (k : Kernel) (mutex : Nat) (b : BYTE) :
    (k.setMutex mutex b).mutexes mutex = b := by
  rw [Kernel.setMutex_mutexes, Function.update_self]

theorem Spared.unlock (h : Spared k.lockChan k') (small : k.cur.pid.toNat < 0o400) :
    svcMutex k' mutChan mutDealloc = (eok, k'.setMutex 6 0) := by
  have cur : k'.cur = k.cur := h.cur
  apply svcMutex_dealloc_kept (by decide)
  · rw [cur]
    exact small
  · rw [cur]
    exact (h.mutexes 6 (by decide)).trans (Kernel.setMutex_self ..)

theorem Spared.stuck (h : Spared k.lockChan k') (large : 0o400 ≤ k.cur.pid.toNat) :
    svcMutex k' mutChan mutDealloc = (elocked, k'.setpl7) := by
  have cur : k'.cur = k.cur := h.cur
  exact svcMutex_dealloc_large (by decide) (by rw [cur]; exact large)

/-- An open that finds MUT_CHAN free, by a task whose pid fits in a byte. -/
theorem run_svcOpen (chan : k.mutexes 6 = 0) (small : k.cur.pid.toNat < 0o400) (device : Name) :
    ∃ rc slot k', OpenOutcome k.lockChan device rc slot k' ∧ run (svcOpen device) k =
      .ok (if rc = eok then (slot, k'.setMutex 6 0)
        else (none, (k'.setMutex 6 0).setErrno rc)) := by
  have lock : svcMutex k mutChan mutAlloc = (eok, k.lockChan) :=
    svcMutex_alloc_free (by decide) chan
  obtain ⟨rc, slot, k', ran, outcome⟩ := run_openChannel k.lockChan device
  refine ⟨rc, slot, k', outcome, ?_⟩
  have unlock := outcome.spared.unlock small
  simp only [svcOpen, run_bind, run_call, lock, ok_bind, if_true, ran, unlock]
  split_ifs <;> rfl

/-- Other tasks never get past the end of it. -/
theorem run_svcOpen_large (chan : k.mutexes 6 = 0) (large : 0o400 ≤ k.cur.pid.toNat)
    (device : Name) :
    run (svcOpen device) k = .error (.panic "muxx_svc_open: dealloc mutex") := by
  have lock : svcMutex k mutChan mutAlloc = (eok, k.lockChan) :=
    svcMutex_alloc_free (by decide) chan
  obtain ⟨rc, slot, k', ran, outcome⟩ := run_openChannel k.lockChan device
  have stuck := outcome.spared.stuck large
  simp only [svcOpen, run_bind, run_call, lock, ok_bind, if_true, ran, stuck]
  rfl

end Channel

/-! ## Failed opens -/

/-- The free entries and the owners of the drivers are the same. -/
structure KeepsTables (k k' : Kernel) : Prop where
  driver : ∀ io, (k'.iott io).driver = (k.iott io).driver
  alloc : ∀ d, (k'.drvcbt d).alloc = (k.drvcbt d).alloc
  ownerid : ∀ d, (k'.drvcbt d).ownerid = (k.drvcbt d).ownerid

/-- The driver is active, and shareable or the caller's or anybody's. -/
def Kernel.Grants (k : Kernel) (d : Fin maxDrv) : Prop :=
  (k.drvcbt d).active ∧ ((k.drvcbt d).desc.shareable ∨
    if (k.drvcbt d).alloc then (k.drvcbt d).ownerid = some k.curtcb
    else ∀ e, findDriver k.drvcbt (k.drvcbt d).drvname = some e → (k.drvcbt e).alloc = false)

/-- An open fails before it has an entry or a driver, or not at all, or it never
gets to its end. -/
def FailsEarly (k : Kernel) (device : Name) : Prop :=
  0o400 ≤ k.cur.pid.toNat ∨ findFreeIote k.iott = none ∨
    ∀ d v, locatePdev k.drvcbt device = some (d, v) → k.Grants d

section Failed
variable {k k' : Kernel} {device : Name} {io : Fin iotSentries} {d : Fin maxDrv} {v : Located}
variable {rc : Int}

/-- An open fails exactly where the driver is not granted, or would have to be
allocated while MUT_DRV is taken. -/
theorem Opens.grants (h : Opens (k.fillIote io d v) io d rc k')
    (free : (k.drvcbt d).free = false) : rc = eok ↔
      k.Grants d ∧ (k.mutexes 5 = 0 ∨ (k.drvcbt d).desc.shareable ∨ (k.drvcbt d).alloc) := by
  cases h with
  | offline inactive =>
    have inactive : (k.drvcbt d).active = false := inactive
    exact iff_of_false (by decide) fun grants => by simp [Kernel.Grants, inactive] at grants
  | refused active failed claims =>
    apply iff_of_false failed.ne
    cases claims with
    | had => exact absurd failed (Int.lt_irrefl _)
    | allocated => exact absurd failed (Int.lt_irrefl _)
    | refused _ exclusive owned =>
      rintro ⟨⟨-, granted⟩, unlocked⟩
      have exclusive : (k.drvcbt d).desc.shareable = false := exclusive
      have owned : if (k.drvcbt d).alloc then (k.drvcbt d).ownerid ≠ some k.curtcb
          else k.mutexes 5 ≠ 0 ∨ ∀ e, findDriver k.drvcbt (k.drvcbt d).drvname = some e →
            (k.drvcbt e).alloc = true := owned
      have granted := granted.resolve_left (by rw [exclusive]; decide)
      cases alloc : (k.drvcbt d).alloc with
      | true =>
        rw [alloc, if_pos rfl] at granted owned
        exact owned granted
      | false =>
        rw [alloc, if_neg (by decide)] at granted owned
        have unlocked : k.mutexes 5 = 0 := unlocked.resolve_right (by rw [exclusive, alloc]; decide)
        obtain ⟨e, found⟩ := findDriver_self free
        have taken := owned.resolve_left fun taken => taken unlocked
        exact absurd ((taken e found).symm.trans (granted e found)) (by decide)
  | opened active claims =>
    apply iff_of_true rfl
    cases claims with
    | had shared =>
      rcases shared with shareable | ⟨alloc, owner⟩
      · exact ⟨⟨active, .inl shareable⟩, .inr (.inl shareable)⟩
      · have alloc : (k.drvcbt d).alloc = true := alloc
        exact ⟨⟨active, .inr (by rw [alloc, if_pos rfl]; exact owner)⟩, .inr (.inr alloc)⟩
    | @allocated e exclusive unowned lock found unowned' =>
      have unowned : (k.drvcbt d).alloc = false := unowned
      refine ⟨⟨active, .inr ?_⟩, .inl lock⟩
      rw [unowned, if_neg (by decide)]
      intro e' found'
      obtain rfl : e = e' := Option.some_inj.mp (found.symm.trans found')
      exact unowned'
    | refused failed => exact absurd failed (Int.lt_irrefl _)

/-- With both locks free, a failed open leaves the tables alone exactly when it
fails early. -/
theorem open_leaves_iff (chan : k.mutexes 6 = 0) (drv : k.mutexes 5 = 0) :
    (∀ k', run (svcOpen device) k = .ok (none, k') → KeepsTables k k') ↔ FailsEarly k device := by
  by_cases large : 0o400 ≤ k.cur.pid.toNat
  · have panics := run_svcOpen_large chan large device
    refine iff_of_true ?_ (.inl large)
    intro k' ran
    cases panics.symm.trans ran
  obtain ⟨rc, slot, k₁, outcome, ran⟩ := run_svcOpen chan (Nat.lt_of_not_le large) device
  rw [ran]
  cases outcome with
  | full full =>
    refine iff_of_true ?_ (.inr (.inl full))
    intro k' same
    cases same
    exact ⟨fun _ => rfl, fun _ => rfl, fun _ => rfl⟩
  | missing _ missing =>
    refine iff_of_true ?_ (.inr (.inr ?_))
    · intro k' same
      cases same
      exact ⟨fun _ => rfl, fun _ => rfl, fun _ => rfl⟩
    · intro d v found
      cases missing.symm.trans found
  | @found io d v _ _ free located opens =>
    have lock : k.lockChan.mutexes 5 = 0 := drv
    have granted : rc = eok ↔ k.Grants d :=
      (opens.grants (locatePdev_free located)).trans (and_iff_left (.inl lock))
    have filled : ((k.lockChan.fillIote io d v).iott io).driver = d := by
      rw [Kernel.fillIote, Kernel.modifyIote_self]
    have driver := opens.driver filled
    have early : FailsEarly k device ↔ rc = eok := by
      rw [granted]
      constructor
      · rintro (pid | full | grants)
        · exact absurd pid large
        · cases full.symm.trans free
        · exact grants d v located
      · intro grants
        refine .inr (.inr ?_)
        intro d' v' located'
        cases located.symm.trans located'
        exact grants
    rw [early]
    by_cases opened : rc = eok
    · refine iff_of_true ?_ opened
      intro k' same
      rw [if_pos opened] at same
      cases same
    · rw [if_neg opened]
      refine iff_of_false ?_ opened
      intro same
      have kept := (same _ rfl).driver io
      have vacant : (k.iott io).driver = none := findFreeIote_driver free
      rw [vacant] at kept
      cases driver.symm.trans kept

end Failed

/-- `DK` and blanks. -/
def diskName : Name := ![0x44, 0x4B, 0x20, 0x20, 0x20, 0x20, 0x20, 0x20]

/-- Two tasks and a driver that is registered but not started. -/
def oneDisk : Kernel :=
  { twoTasks 0o101 with
    drvcbt := Function.update drvInit 0
      { drvname := diskName, desc := { devname := diskName }, loaded := true, stopped := true } }

theorem open_leaves_unknown :
    ∃ k', run (svcOpen blank) oneDisk = .ok (none, k') ∧ KeepsTables oneDisk k' := by
  have refused : succeeds (run (svcOpen blank) oneDisk) (fun r => r.1.isNone) = true := by
    decide +kernel
  have unknown : (locatePdev oneDisk.drvcbt blank).isNone = true := by decide +kernel
  obtain ⟨⟨io, k'⟩, ran, failed⟩ := succeeds_iff.mp refused
  obtain rfl : io = none := Option.isNone_iff_eq_none.mp failed
  refine ⟨k', ran, (open_leaves_iff rfl rfl).mpr (.inr (.inr fun d v located => ?_)) k' ran⟩
  rw [located] at unknown
  cases unknown

/-- The open fails with EOFFLINE and keeps the entry. -/
theorem open_leaves_driver :
    ∃ k', run (svcOpen diskName) oneDisk = .ok (none, k') ∧ ¬ KeepsTables oneDisk k' := by
  have filled : succeeds (run (svcOpen diskName) oneDisk) (fun r =>
      r.1 = none && (r.2.iott 0).driver = some 0) = true := by decide +kernel
  obtain ⟨⟨io, k'⟩, ran, failed⟩ := succeeds_iff.mp filled
  obtain ⟨null, driver⟩ := Bool.and_eq_true_iff.mp failed
  obtain rfl : io = none := of_decide_eq_true null
  refine ⟨k', ran, ?_⟩
  intro same
  cases (of_decide_eq_true driver).symm.trans (same.driver 0)

end Muxx
