import Muxx.Channels

/-!
# Preemption

No interleaving of system calls, with the clock interrupting them anywhere, ends
in a panic as long as nobody finds MUT_CHAN locked by another task:

* `Calm`: what must hold where a system call may run into a panic;
* `quiet`: what the tasks rely on and guarantee;
* `safe_svcOpen`, `safe_svcClose`: no open and no close panics;
* `never_panics`: every run that stays calm goes through.
-/

namespace Muxx

open Run Fallible Prog Rules

/-! ## Who has MUT_CHAN -/

/-- What the system calls never change: who the tasks are, and the drivers' names
and descriptors. -/
structure Fixed (k₀ k : Kernel) : Prop where
  pid : ∀ i, (k.tct i).pid = (k₀.tct i).pid
  free : ∀ d, (k.drvcbt d).free = (k₀.drvcbt d).free
  drvname : ∀ d, (k.drvcbt d).drvname = (k₀.drvcbt d).drvname
  desc : ∀ d, (k.drvcbt d).desc = (k₀.drvcbt d).desc

/-- The byte of MUT_CHAN is the pid of `t`. -/
def Locked (k₀ : Kernel) (t : Fin maxTasks) (k : Kernel) : Prop :=
  (k.mutexes 6).setWidth 16 = (k₀.tct t).pid

section Lock
variable {k₀ k : Kernel} {t u : Fin maxTasks}

theorem Fixed.cur (h : Fixed k₀ k) : k.cur.pid = (k₀.tct k.curtcb).pid := h.pid _

theorem Fixed.find (h : Fixed k₀ k) (devnam : Name) :
    findDriver k.drvcbt devnam = findDriver k₀.drvcbt devnam :=
  findDriver_congr h.free h.drvname

theorem Locked.ne_zero (h : Locked k₀ t k) (exists' : (k₀.tct t).pid ≠ 0) : k.mutexes 6 ≠ 0 := by
  intro zero
  rw [Locked, zero] at h
  exact exists' h.symm

/-- A call by another task does not change a byte that is neither 0 nor its own. -/
theorem svcMutex_keeps {mutex op : WORD} (taken : k.mutexes 6 ≠ 0)
    (foreign : (k.mutexes 6).setWidth 16 ≠ k.cur.pid) :
    (svcMutex k mutex op).2.mutexes 6 = k.mutexes 6 := by
  by_cases chan : mutex.toNat = 6
  · rw [← chan] at taken foreign
    rw [svcMutex_foreign op taken foreign]
  · exact svcMutex_other _ _ _ (Ne.symm chan)

/-- Whoever finds MUT_CHAN free or has it already has it afterwards. -/
theorem lock_chan (small : k.cur.pid.toNat < 0o400)
    (own : k.mutexes 6 = 0 ∨ (k.mutexes 6).setWidth 16 = k.cur.pid) :
    ((svcMutex k mutChan mutAlloc).2.mutexes 6).setWidth 16 = k.cur.pid := by
  by_cases free : k.mutexes 6 = 0
  · rw [svcMutex_alloc_free (by decide : mutChan ≤ mutMutexes) free]
    show (Function.update k.mutexes 6 (keptPid k.cur.pid) 6).setWidth 16 = k.cur.pid
    rw [Function.update_self, keptPid_small small]
  · rw [svcMutex_alloc_taken (by decide : mutChan ≤ mutMutexes) free]
    exact own.resolve_left free

theorem unlock_chan (own : (k.mutexes 6).setWidth 16 = k.cur.pid) :
    svcMutex k mutChan mutDealloc = (eok, k.setMutex 6 0) :=
  svcMutex_dealloc_own (by decide : mutChan ≤ mutMutexes) own

end Lock

/-- What a system call does that is not about MUT_CHAN: the channels stay, and
the drivers keep what is fixed. -/
structure Aside (k k' : Kernel) : Prop where
  tct : k'.tct = k.tct
  curtcb : k'.curtcb = k.curtcb
  chan : k'.mutexes 6 = k.mutexes 6
  iott : k'.iott = k.iott
  free : ∀ d, (k'.drvcbt d).free = (k.drvcbt d).free
  drvname : ∀ d, (k'.drvcbt d).drvname = (k.drvcbt d).drvname
  desc : ∀ d, (k'.drvcbt d).desc = (k.drvcbt d).desc

theorem Aside.fixed {k₀ k k' : Kernel} (h : Aside k k') (fixed : Fixed k₀ k) : Fixed k₀ k' where
  pid i := by rw [h.tct, fixed.pid]
  free d := by rw [h.free, fixed.free]
  drvname d := by rw [h.drvname, fixed.drvname]
  desc d := by rw [h.desc, fixed.desc]

theorem aside_refl (k : Kernel) : Aside k k :=
  ⟨rfl, rfl, rfl, rfl, fun _ => rfl, fun _ => rfl, fun _ => rfl⟩

theorem aside_mutex (k : Kernel) {mutex op : WORD} (other : mutex.toNat ≠ 6) :
    Aside k (svcMutex k mutex op).2 := by
  refine ⟨svcMutex_tct .., svcMutex_curtcb .., svcMutex_other _ _ _ (Ne.symm other),
    svcMutex_iott .., fun d => ?_, fun d => ?_, fun d => ?_⟩
  all_goals rw [svcMutex_drvcbt]

theorem aside_driver (k : Kernel) (driver : Fin maxDrv) {f : DRVCB → DRVCB}
    (free : ∀ b, (f b).free = b.free) (drvname : ∀ b, (f b).drvname = b.drvname)
    (desc : ∀ b, (f b).desc = b.desc) : Aside k (k.modifyDriver driver f) := by
  refine ⟨rfl, rfl, rfl, rfl, fun d => ?_, fun d => ?_, fun d => ?_⟩
  all_goals
    by_cases same : d = driver
    · subst same
      simp [Kernel.modifyDriver, free, drvname, desc]
    · simp [Kernel.modifyDriver, same]

theorem aside_errno (k : Kernel) (rc : Int) : Aside k (k.setErrno rc) :=
  ⟨rfl, rfl, rfl, rfl, fun _ => rfl, fun _ => rfl, fun _ => rfl⟩

/-! ## The rules -/

/-- An open channel has a driver that is not free. -/
def Driven (k₀ : Kernel) (iott : Fin iotSentries → IOTE) : Prop :=
  ∀ io, (iott io).opened → ∃ d, (iott io).driver = some d ∧ (k₀.drvcbt d).free = false

structure QuietInv (k₀ k : Kernel) : Prop where
  fixed : Fixed k₀ k
  running : (k₀.tct k.curtcb).pid ≠ 0
  driven : Driven k₀ k.iott

/-- A task that does not have MUT_CHAN keeps the byte, unless it is 0, and the
channels. -/
def QuietGuar (k₀ : Kernel) (t : Fin maxTasks) (k k' : Kernel) : Prop :=
  ¬ Locked k₀ t k → (k.mutexes 6 ≠ 0 → k'.mutexes 6 = k.mutexes 6) ∧ k'.iott = k.iott

/-- Where a system call may run into a panic, the state is such that it does not:
MUT_CHAN is free or the task's own, and its pid fits in the byte; and a close
that gives a device back finds MUT_DRV free and the device allocated, to the
task itself unless it lacks OPERPRV. -/
def Calm (pt : Place) (k : Kernel) : Prop :=
  match pt with
  | .openLock | .closeLock =>
    k.cur.pid.toNat < 0o400 ∧ (k.mutexes 6 = 0 ∨ (k.mutexes 6).setWidth 16 = k.cur.pid)
  | .closeAlloc .lock => k.mutexes 5 = 0
  | .closeAlloc (.alloc driver) => (k.drvcbt driver).alloc
  | .closeAlloc (.owner driver) => (k.drvcbt driver).ownerid = some k.curtcb ∨ ¬ k.cur.operprv
  | _ => True

def quiet (k₀ : Kernel) : Rules (Fin maxTasks) Place Kernel Kernel Fault Answer where
  view := id
  put _ k := k
  running := Kernel.curtcb
  cond := Calm
  inv := QuietInv k₀
  guar := QuietGuar k₀
  env k k' := k'.mutexes = k.mutexes ∧ k'.iott = k.iott
  allowed _ := False

@[simp] theorem quiet_view (k₀ k : Kernel) : (quiet k₀).view k = k := rfl

@[simp] theorem quiet_put (k₀ k k' : Kernel) : (quiet k₀).put k k' = k' := rfl

/-- `t` has MUT_CHAN, and the channels are as `p` says. -/
def Holding (k₀ : Kernel) (t : Fin maxTasks) (p : (Fin iotSentries → IOTE) → Prop)
    (k : Kernel) : Prop := Locked k₀ t k ∧ p k.iott

/-- Nobody else changes what `P` is about, and no step aside does. -/
structure Framed (k₀ : Kernel) (t : Fin maxTasks) (P : Kernel → Prop) : Prop where
  stable : (quiet k₀).Stable t P
  aside : ∀ k k', Aside k k' → P k → P k'

section Assertions
variable {k₀ : Kernel} {t : Fin maxTasks}

theorem framed_true : Framed k₀ t fun _ => True := ⟨stable_const, fun _ _ _ h => h⟩

theorem Framed.assuming {P : Kernel → Prop} (h : Framed k₀ t P) (fact : Prop) :
    Framed k₀ t fun k => fact ∧ P k :=
  ⟨stable_const.and h.stable, fun k k' aside holds => ⟨holds.1, h.aside k k' aside holds.2⟩⟩

/-- While `t` has MUT_CHAN the channels are its own. -/
theorem holding_framed (pids : DistinctPids k₀) (task : (k₀.tct t).pid ≠ 0)
    (p : (Fin iotSentries → IOTE) → Prop) : Framed k₀ t (Holding k₀ t p) where
  stable := by
    rintro k k' - ⟨locked, holds⟩ (⟨mutexes, iott⟩ | ⟨u, other, guar⟩)
    · exact ⟨by rw [Locked, mutexes]; exact locked, by rw [iott]; exact holds⟩
    · have foreign : ¬ Locked k₀ u k := fun theirs =>
        other (pids.distinct t u task (locked.symm.trans theirs)).symm
      obtain ⟨chan, iott⟩ := guar foreign
      exact ⟨by rw [Locked, chan (locked.ne_zero task)]; exact locked, by rw [iott]; exact holds⟩
  aside := by
    rintro k k' aside ⟨locked, holds⟩
    exact ⟨by rw [Locked, aside.chan]; exact locked, by rw [aside.iott]; exact holds⟩

theorem QuietInv.aside {k k' : Kernel} (h : QuietInv k₀ k) (aside : Aside k k') :
    QuietInv k₀ k' where
  fixed := aside.fixed h.fixed
  running := by rw [aside.curtcb]; exact h.running
  driven := by rw [aside.iott]; exact h.driven

/-- A change of neither the tasks nor the drivers nor the channels. -/
theorem QuietInv.moved {k k' : Kernel} (h : QuietInv k₀ k)
    (pid : ∀ i, (k'.tct i).pid = (k.tct i).pid) (running : (k₀.tct k'.curtcb).pid ≠ 0)
    (drvcbt : k'.drvcbt = k.drvcbt) (iott : k'.iott = k.iott) : QuietInv k₀ k' where
  fixed := ⟨fun i => (pid i).trans (h.fixed.pid i), by rw [drvcbt]; exact h.fixed.free,
    by rw [drvcbt]; exact h.fixed.drvname, by rw [drvcbt]; exact h.fixed.desc⟩
  running := running
  driven := by rw [iott]; exact h.driven

/-- A call of muxx_svc_mutex keeps the invariant, and to the guarantee. -/
theorem QuietInv.mutex {k : Kernel} {mutex op : WORD} (h : QuietInv k₀ k) :
    QuietInv k₀ (svcMutex k mutex op).2 ∧ QuietGuar k₀ k.curtcb k (svcMutex k mutex op).2 := by
  refine ⟨h.moved (fun i => ?_) ?_ (svcMutex_drvcbt ..) (svcMutex_iott ..), fun foreign => ?_⟩
  · rw [svcMutex_tct]
  · rw [svcMutex_curtcb]; exact h.running
  · exact ⟨fun taken => svcMutex_keeps taken (by rw [h.fixed.cur]; exact foreign),
      svcMutex_iott ..⟩

variable {α : Type} {pt : Place} {P : Kernel → Prop}

/-- A step aside, with what is known of its result. -/
theorem safe_aside {f : Kernel → α × Kernel} {Q : α → Prop} (framed : Framed k₀ t P)
    (aside : ∀ k, Aside k (f k).2)
    (result : ∀ k, k.curtcb = t → QuietInv k₀ k → P k → Calm pt k → Q (f k).1) :
    (quiet k₀).Safe t (call pt f) P fun a k => Q a ∧ P k := by
  refine Safe.call (fun a => (framed.assuming _).stable) fun k running inv holds calm => ?_
  have moved := aside k
  exact ⟨fun _ => ⟨fun _ => moved.chan, moved.iott⟩, inv.aside moved,
    result k running inv holds calm, framed.aside _ _ moved holds⟩

theorem safe_call {f : Kernel → α × Kernel} (framed : Framed k₀ t P)
    (aside : ∀ k, Aside k (f k).2) : (quiet k₀).Safe t (call pt f) P fun _ => P :=
  (safe_aside (Q := fun _ => True) framed aside fun _ _ _ _ _ => trivial).weaken
    (fun _ _ h => h) fun _ _ _ h => h.2

theorem safe_look {f : Kernel → α} {Q : α → Prop} (framed : Framed k₀ t P)
    (result : ∀ k, k.curtcb = t → QuietInv k₀ k → P k → Calm pt k → Q (f k)) :
    (quiet k₀).Safe t (read pt f) P fun a k => Q a ∧ P k :=
  safe_aside (f := fun k => (f k, k)) framed aside_refl result

theorem safe_read {f : Kernel → α} (framed : Framed k₀ t P) :
    (quiet k₀).Safe t (read pt f) P fun _ => P :=
  safe_call (f := fun k => (f k, k)) framed aside_refl

theorem safe_write {upd : Kernel → Kernel} (framed : Framed k₀ t P)
    (aside : ∀ k, Aside k (upd k)) : (quiet k₀).Safe t (write pt upd) P fun _ => P :=
  safe_call (f := fun k => ((), upd k)) framed aside

end Assertions

/-! ## The services -/

section Services
variable {k₀ : Kernel} {t : Fin maxTasks} {P : Kernel → Prop}

/-- What muxx_svc_alloc writes into a driver is nothing fixed. -/
theorem safe_update {pt : Place} (framed : Framed k₀ t P) (driver : Fin maxDrv)
    {f : Kernel → DRVCB → DRVCB} (free : ∀ k b, (f k b).free = b.free := by intros; rfl)
    (drvname : ∀ k b, (f k b).drvname = b.drvname := by intros; rfl)
    (desc : ∀ k b, (f k b).desc = b.desc := by intros; rfl) :
    (quiet k₀).Safe t (write pt fun k => k.modifyDriver driver (f k)) P fun _ => P :=
  safe_write framed fun k => aside_driver k driver (free k) (drvname k) (desc k)

theorem safe_drvMutex {pt : Place} (framed : Framed k₀ t P) (op : WORD) :
    (quiet k₀).Safe t (call pt (svcMutex · mutDrv op)) P fun _ => P :=
  safe_call framed fun k => aside_mutex k (by decide)

theorem safe_allocDriver (pt : AllocStep → Place) (framed : Framed k₀ t P)
    (driver : Fin maxDrv) : (quiet k₀).Safe t (allocDriver pt driver) P fun _ => P := by
  refine (safe_read framed).bind fun alloc => ?_
  split
  · exact Safe.ret fun _ _ h => h
  · refine Safe.bind (safe_update framed driver) fun _ => ?_
    refine Safe.bind (safe_update framed driver) fun _ => ?_
    exact Safe.ret fun _ _ h => h

theorem safe_deallocDriver (pt : AllocStep → Place) (framed : Framed k₀ t P)
    (driver : Fin maxDrv) : (quiet k₀).Safe t (deallocDriver pt driver) P fun _ => P := by
  refine (safe_read framed).bind fun alloc => ?_
  split
  · refine (safe_read framed).bind fun refused => ?_
    refine Safe.bind (safe_update framed driver) fun _ => ?_
    refine Safe.bind (safe_update framed driver) fun _ => ?_
    exact Safe.ret fun _ _ h => h
  · exact Safe.ret fun _ _ h => h

/-- muxx_svc_alloc steps aside of everything else. -/
theorem safe_svcAlloc (pt : AllocStep → Place) (framed : Framed k₀ t P) (devnam : Name)
    (op : WORD) : (quiet k₀).Safe t (svcAlloc pt devnam op) P fun _ => P := by
  refine (safe_read framed).bind fun found => ?_
  cases found with
  | none => exact Safe.ret fun _ _ h => h
  | some driver =>
    refine (safe_drvMutex framed mutAlloc).bind fun rc => ?_
    split
    · refine Safe.bind (Q := fun _ => P) ?_ fun rc => ?_
      · split
        · exact safe_allocDriver pt framed driver
        · exact safe_deallocDriver pt framed driver
      · refine (safe_drvMutex framed mutDealloc).bind fun _ => ?_
        exact Safe.ret fun _ _ h => h
    · exact Safe.ret fun _ _ h => h

/-- A calm close that gives a device back finds the device allocated and may do
so. -/
theorem safe_giveBack (framed : Framed k₀ t P) (driver : Fin maxDrv) :
    (quiet k₀).Safe t (deallocDriver .closeAlloc driver) P fun rc k => rc = eok ∧ P k := by
  refine Safe.bind (safe_look (Q := fun alloc => alloc = true) framed fun _ _ _ _ calm => calm)
    fun alloc => Safe.assuming fun set => ?_
  rw [if_pos set]
  refine Safe.bind (safe_look (Q := fun refused => refused = false) framed ?_)
    fun refused => Safe.assuming fun may => ?_
  · intro k _ _ _ calm
    rcases calm with own | unprivileged
    · simp [own]
    · simp [Bool.eq_false_iff.mpr unprivileged]
  · refine Safe.bind (safe_update framed driver) fun _ => ?_
    refine Safe.bind (safe_update framed driver) fun _ => ?_
    exact Safe.ret fun _ _ h => ⟨by simp [may], h⟩

theorem safe_closeAlloc (framed : Framed k₀ t P) {devnam : Name}
    (found : findDriver k₀.drvcbt devnam ≠ none) :
    (quiet k₀).Safe t (svcAlloc .closeAlloc devnam drvDealloc) P fun rc k => rc = eok ∧ P k := by
  refine Safe.bind (safe_look (Q := fun d => d ≠ none) framed ?_)
    fun d => Safe.assuming fun some' => ?_
  · intro k _ inv _ _
    rw [inv.fixed.find]
    exact found
  · cases d with
    | none => exact absurd rfl some'
    | some driver =>
      refine Safe.bind (safe_aside (Q := fun rc => rc = eok) framed
        (fun k => aside_mutex k (by decide)) ?_) fun rc => Safe.assuming fun ok => ?_
      · intro k _ _ _ calm
        rw [svcMutex_alloc_free (by decide : mutDrv ≤ mutMutexes) calm]
      · rw [if_pos ok, if_neg (by decide)]
        refine Safe.bind (safe_giveBack framed driver) fun rc => Safe.assuming fun ok => ?_
        refine Safe.bind (safe_drvMutex framed mutDealloc) fun _ => ?_
        exact Safe.ret fun _ _ h => ⟨ok, h⟩

end Services

section Channels
variable {k₀ : Kernel} {t : Fin maxTasks} (pids : DistinctPids k₀) (task : (k₀.tct t).pid ≠ 0)
  {pt : Place} {io : Fin iotSentries}

/-- The channel has a driver that is not free. -/
def AtDriver (k₀ : Kernel) (io : Fin iotSentries) (iott : Fin iotSentries → IOTE) : Prop :=
  ∃ d, (iott io).driver = some d ∧ (k₀.drvcbt d).free = false

theorem Driven.update {iott : Fin iotSentries → IOTE} (driven : Driven k₀ iott) {e : IOTE}
    (here : e.opened → ∃ d, e.driver = some d ∧ (k₀.drvcbt d).free = false) :
    Driven k₀ (Function.update iott io e) := by
  intro j opened
  by_cases same : j = io
  · subst same
    rw [Function.update_self] at opened ⊢
    exact here opened
  · rw [Function.update_of_ne same] at opened ⊢
    exact driven j opened

theorem QuietInv.modifyIote {k : Kernel} {f : IOTE → IOTE} (h : QuietInv k₀ k)
    (here : (f (k.iott io)).opened →
      ∃ d, (f (k.iott io)).driver = some d ∧ (k₀.drvcbt d).free = false) :
    QuietInv k₀ (k.modifyIote io f) where
  fixed := ⟨h.fixed.pid, h.fixed.free, h.fixed.drvname, h.fixed.desc⟩
  running := h.running
  driven := h.driven.update here

include pids task in
/-- The holder of MUT_CHAN reads the channels. -/
theorem safe_readChannels {α : Type} {f : (Fin iotSentries → IOTE) → α}
    {p : (Fin iotSentries → IOTE) → Prop} (q : α → (Fin iotSentries → IOTE) → Prop)
    (post : ∀ iott, Driven k₀ iott → p iott → q (f iott) iott) :
    (quiet k₀).Safe t (read pt fun k => f k.iott) (Holding k₀ t p) fun a => Holding k₀ t (q a) := by
  refine Safe.read (fun _ => rfl) (fun k _ => ⟨fun _ => rfl, rfl⟩)
    (fun a => (holding_framed pids task (q a)).stable) ?_
  rintro k - inv ⟨locked, holds⟩ -
  exact ⟨locked, post k.iott inv.driven holds⟩

include pids task in
/-- The holder of MUT_CHAN writes to a channel. -/
theorem safe_writeIote {f : IOTE → IOTE} {p q : (Fin iotSentries → IOTE) → Prop}
    (driven : ∀ iott, Driven k₀ iott → p iott → (f (iott io)).opened →
      ∃ d, (f (iott io)).driver = some d ∧ (k₀.drvcbt d).free = false)
    (post : ∀ iott, p iott → q (Function.update iott io (f (iott io)))) :
    (quiet k₀).Safe t (writeIote pt io f) (Holding k₀ t p) fun _ => Holding k₀ t q := by
  refine Safe.write (holding_framed pids task q).stable fun k _ inv ⟨locked, holds⟩ _ => ?_
  exact ⟨fun foreign => absurd locked foreign,
    inv.modifyIote (driven k.iott inv.driven holds), locked, post k.iott holds⟩

include pids task in
theorem safe_keepDriver {f : IOTE → IOTE}
    (keeps : ∀ e, (f e).driver = e.driver := by intros; rfl) :
    (quiet k₀).Safe t (writeIote pt io f) (Holding k₀ t (AtDriver k₀ io)) fun _ =>
      Holding k₀ t (AtDriver k₀ io) := by
  refine safe_writeIote pids task (fun iott _ ⟨d, at', used⟩ _ => ?_) fun iott ⟨d, at', used⟩ => ?_
  · exact ⟨d, by rw [keeps, at'], used⟩
  · exact ⟨d, by rw [Function.update_self, keeps, at'], used⟩

include pids task in
theorem safe_lookDriver {α : Type} {f : DRVCB → α} {Q : α → Prop}
    (result : ∀ k d, Fixed k₀ k → (k₀.drvcbt d).free = false → Q (f (k.drvcbt d))) :
    (quiet k₀).Safe t (readDriver pt io f) (Holding k₀ t (AtDriver k₀ io)) fun a k =>
      Q a ∧ Holding k₀ t (AtDriver k₀ io) k := by
  refine Safe.bind (safe_look (Q := fun a => ∃ b, a = some b ∧ Q b)
    (holding_framed pids task _) ?_) fun a => Safe.assuming ?_
  · rintro k - inv ⟨-, d, at', used⟩ -
    exact ⟨f (k.drvcbt d), by rw [at']; rfl, result k d inv.fixed used⟩
  · rintro ⟨b, rfl, q⟩
    exact Safe.ret fun _ _ h => ⟨q, h⟩

include pids task in
theorem safe_readDriver {α : Type} {f : DRVCB → α} :
    (quiet k₀).Safe t (readDriver pt io f) (Holding k₀ t (AtDriver k₀ io)) fun _ =>
      Holding k₀ t (AtDriver k₀ io) :=
  (safe_lookDriver pids task (Q := fun _ => True) fun _ _ _ _ => trivial).weaken
    (fun _ _ h => h) fun _ _ _ h => h.2

include pids task in
theorem safe_claimDriver : (quiet k₀).Safe t (claimDriver io) (Holding k₀ t (AtDriver k₀ io))
    fun _ => Holding k₀ t (AtDriver k₀ io) := by
  have framed := holding_framed pids task (AtDriver k₀ io)
  refine Safe.bind (safe_readDriver pids task) fun alloc => ?_
  split
  · refine Safe.bind (safe_read framed) fun caller => ?_
    refine Safe.bind (safe_readDriver pids task) fun owner => ?_
    split
    · exact Safe.ret fun _ _ h => h
    · refine Safe.bind (safe_keepDriver pids task) fun _ => ?_
      exact Safe.ret fun _ _ h => h
  · refine Safe.bind (safe_readDriver pids task) fun drvname => ?_
    refine Safe.bind (safe_svcAlloc _ framed drvname drvAlloc) fun rc => ?_
    refine Safe.bind (Q := fun _ => Holding k₀ t (AtDriver k₀ io)) ?_ fun _ => ?_
    · split
      · exact safe_keepDriver pids task
      · exact safe_keepDriver pids task
    · exact Safe.ret fun _ _ h => h

include pids task in
theorem safe_finishOpen (rc : Int) : (quiet k₀).Safe t (finishOpen io rc)
    (Holding k₀ t (AtDriver k₀ io)) fun _ => Holding k₀ t (AtDriver k₀ io) := by
  have framed := holding_framed pids task (AtDriver k₀ io)
  refine Safe.bind (safe_readDriver pids task) fun buffered => ?_
  split
  · refine Safe.bind (safe_readDriver pids task) fun size => ?_
    refine Safe.bind (Q := fun _ => Holding k₀ t (AtDriver k₀ io)) ?_ fun buffer => ?_
    · refine Safe.bind (safe_write framed fun k => aside_errno k _) fun _ => ?_
      exact Safe.ret fun _ _ h => h
    · refine Safe.bind (safe_keepDriver pids task) fun _ => ?_
      refine Safe.bind (safe_read framed) fun buffaddr => ?_
      split
      · exact safe_read framed
      · refine Safe.bind (safe_keepDriver pids task) fun _ => ?_
        exact Safe.ret fun _ _ h => h
  · refine Safe.bind (safe_keepDriver pids task) fun _ => ?_
    exact Safe.ret fun _ _ h => h

include pids task in
theorem safe_openDriver : (quiet k₀).Safe t (openDriver io) (Holding k₀ t (AtDriver k₀ io))
    fun _ => Holding k₀ t (AtDriver k₀ io) := by
  refine Safe.bind (safe_readDriver pids task) fun active => ?_
  split
  · refine Safe.bind (safe_keepDriver pids task) fun _ => ?_
    refine Safe.bind (safe_keepDriver pids task) fun _ => ?_
    refine Safe.bind (safe_keepDriver pids task) fun _ => ?_
    refine Safe.bind (safe_readDriver pids task) fun shareable => ?_
    refine Safe.bind (Q := fun _ => Holding k₀ t (AtDriver k₀ io)) ?_ fun rc => ?_
    · split
      · exact Safe.ret fun _ _ h => h
      · exact safe_claimDriver pids task
    · refine Safe.bind (safe_read (holding_framed pids task _)) fun error => ?_
      split
      · exact safe_finishOpen pids task rc
      · exact Safe.ret fun _ _ h => h
  · exact Safe.ret fun _ _ h => h

include pids task in
theorem safe_locateDev (device : Name) : (quiet k₀).Safe t (locateDev device io)
    (Holding k₀ t fun iott => (iott io).driver = none) fun rc => Holding k₀ t fun iott =>
      rc = eok → AtDriver k₀ io iott := by
  refine Safe.call (fun rc => (holding_framed pids task _).stable) ?_
  rintro k - inv ⟨locked, unused⟩ -
  simp only [quiet_view, quiet_put]
  refine ⟨fun foreign => absurd locked foreign, ?_⟩
  cases found : locatePdev k.drvcbt device with
  | none => exact ⟨inv, locked, fun ok => absurd ok (by decide : enotfound ≠ eok)⟩
  | some place =>
    obtain ⟨d, v⟩ := place
    have used : (k₀.drvcbt d).free = false := by
      rw [← inv.fixed.free]
      exact locatePdev_free found
    dsimp only
    refine ⟨inv.modifyIote fun _ => ⟨d, rfl, used⟩, locked, fun _ => ⟨d, ?_, used⟩⟩
    simp [Kernel.modifyIote]

include pids task in
theorem safe_openChannel (device : Name) : (quiet k₀).Safe t (openChannel device)
    (Holding k₀ t fun _ => True) fun _ => Holding k₀ t fun _ => True := by
  refine Safe.bind (safe_readChannels pids task
    (fun found iott => ∀ io, found = some io → (iott io).driver = none)
    fun iott _ _ io => findFreeIote_driver) fun found => ?_
  cases found with
  | none => exact Safe.ret fun _ _ h => ⟨h.1, trivial⟩
  | some io =>
    refine Safe.bind (Safe.pre (safe_locateDev pids task device) fun _ _ h => ⟨h.1, h.2 io rfl⟩)
      fun rc => ?_
    split
    case isTrue ok =>
      refine Safe.bind ((safe_openDriver pids task).pre fun _ _ h => ⟨h.1, h.2 ok⟩) fun rc => ?_
      exact Safe.ret fun _ _ h => ⟨h.1, trivial⟩
    case isFalse => exact Safe.ret fun _ _ h => ⟨h.1, trivial⟩

include pids task in
/-- A task that calmly locks MUT_CHAN has it, whether it got it now or had it
before. -/
theorem safe_lock {step : Place} (calm : ∀ k, Calm step k →
      k.cur.pid.toNat < 0o400 ∧ (k.mutexes 6 = 0 ∨ (k.mutexes 6).setWidth 16 = k.cur.pid)) :
    (quiet k₀).Safe t (call step (svcMutex · mutChan mutAlloc)) (fun _ => True) fun _ =>
      Holding k₀ t fun _ => True := by
  refine Safe.call (fun _ => (holding_framed pids task _).stable) fun k running inv _ meets => ?_
  simp only [quiet_view, quiet_put]
  obtain ⟨small, own⟩ := calm k meets
  cases running
  refine ⟨inv.mutex.2, inv.mutex.1, ?_, trivial⟩
  exact (lock_chan small own).trans inv.fixed.cur

theorem safe_unlock {step : Place} :
    (quiet k₀).Safe t (call step (svcMutex · mutChan mutDealloc)) (Holding k₀ t fun _ => True)
      fun rc _ => rc = eok := by
  refine Safe.call (fun _ => stable_const) fun k running inv ⟨locked, _⟩ _ => ?_
  simp only [quiet_view, quiet_put]
  cases running
  have own : (k.mutexes 6).setWidth 16 = k.cur.pid := locked.trans inv.fixed.cur.symm
  exact ⟨inv.mutex.2, inv.mutex.1, by rw [unlock_chan own]⟩

include pids task in
theorem safe_svcOpen (device : Name) : (quiet k₀).Safe t (svcOpen device) (fun _ => True)
    fun _ _ => True := by
  refine Safe.bind (safe_lock pids task fun _ calm => calm) fun rc => ?_
  refine Safe.bind (Q := fun _ => Holding k₀ t fun _ => True) ?_ fun ⟨rc, io⟩ => ?_
  · split
    · exact safe_openChannel pids task device
    · exact Safe.ret fun _ _ h => h
  · refine Safe.bind safe_unlock fun rc1 => ?_
    split
    case isTrue =>
      split
      · exact Safe.ret fun _ _ _ => trivial
      · refine Safe.bind (Q := fun _ _ => True) ?_ fun _ => Safe.ret fun _ _ _ => trivial
        exact (safe_write framed_true fun k => aside_errno k _).pre fun _ _ _ => trivial
    case isFalse failed => exact fun _ _ ok => failed ok

include pids task in
/-- The holder of MUT_CHAN empties a closed channel. -/
theorem safe_clear {f : IOTE → IOTE} (closed : ∀ e, (f e).opened = e.opened) :
    (quiet k₀).Safe t (writeIote pt io f) (Holding k₀ t fun iott => ¬ (iott io).opened)
      fun _ => Holding k₀ t fun iott => ¬ (iott io).opened := by
  refine safe_writeIote pids task (fun iott _ shut opened => ?_) fun iott shut => ?_
  · exact absurd ((closed _).symm.trans opened) shut
  · rw [Function.update_self, closed]
    exact shut

include pids task in
theorem safe_closeDealloc : (quiet k₀).Safe t (closeDealloc io) (Holding k₀ t (AtDriver k₀ io))
    fun _ => Holding k₀ t (AtDriver k₀ io) := by
  refine Safe.bind (safe_lookDriver pids task
    (Q := fun drvname => findDriver k₀.drvcbt drvname ≠ none) ?_) fun drvname =>
      Safe.assuming fun found => ?_
  · intro k d fixed used missing
    rw [fixed.drvname] at missing
    have passed := List.find?_eq_none.mp missing d (List.mem_finRange d)
    simp [used] at passed
  · refine Safe.bind (safe_closeAlloc (holding_framed pids task _) found) fun rc =>
      Safe.assuming fun ok => ?_
    rw [if_pos ok]
    exact Safe.ret fun _ _ h => h

include pids task in
theorem safe_closeOpen : (quiet k₀).Safe t (closeOpen io) (Holding k₀ t (AtDriver k₀ io))
    fun _ => Holding k₀ t fun _ => True := by
  refine Safe.bind (safe_read (holding_framed pids task _)) fun dealloc => ?_
  refine Safe.bind (Q := fun _ => Holding k₀ t (AtDriver k₀ io)) ?_ fun _ => ?_
  · split
    · exact safe_closeDealloc pids task
    · exact Safe.ret fun _ _ h => h
  · refine Safe.bind (Q := fun _ => Holding k₀ t fun iott => ¬ (iott io).opened)
      (safe_writeIote pids task ?_ ?_) fun _ => ?_
    · exact fun _ _ _ opened => nomatch opened
    · exact fun iott _ => by simp
    refine Safe.bind (safe_clear pids task fun _ => rfl) fun _ => ?_
    refine Safe.bind (safe_clear pids task fun _ => rfl) fun _ => ?_
    refine Safe.bind (safe_clear pids task fun _ => rfl) fun _ => ?_
    refine Safe.bind (safe_read (holding_framed pids task _)) fun buffer => ?_
    split
    · exact Safe.ret fun _ _ h => ⟨h.1, trivial⟩
    · refine Safe.bind (Q := fun _ => Holding k₀ t fun iott => ¬ (iott io).opened) ?_ fun _ => ?_
      · refine Safe.bind (safe_write (holding_framed pids task _) fun k => aside_errno k _)
          fun _ => ?_
        exact Safe.ret fun _ _ h => h
      · exact Safe.ret fun _ _ h => ⟨h.1, trivial⟩

include pids task in
theorem safe_closeChannel : (quiet k₀).Safe t (closeChannel io) (Holding k₀ t fun _ => True)
    fun _ => Holding k₀ t fun _ => True := by
  refine Safe.bind (safe_readChannels pids task
    (fun opened iott => opened = true → AtDriver k₀ io iott)
    fun iott driven _ opened => driven io opened) fun opened => ?_
  split
  case isTrue set => exact (safe_closeOpen pids task).pre fun _ _ h => ⟨h.1, h.2 set⟩
  case isFalse => exact Safe.ret fun _ _ h => ⟨h.1, trivial⟩

include pids task in
theorem safe_svcClose (io : Fin iotSentries) : (quiet k₀).Safe t (svcClose io) (fun _ => True)
    fun _ _ => True := by
  refine Safe.bind (safe_lock pids task fun _ calm => calm) fun rc => ?_
  refine Safe.bind (Q := fun _ => Holding k₀ t fun _ => True) ?_ fun rc => ?_
  · split
    · exact safe_closeChannel pids task
    · exact Safe.ret fun _ _ h => h
  · refine Safe.bind safe_unlock fun rc1 => ?_
    split
    case isTrue =>
      refine Safe.bind (Q := fun _ _ => True) ?_ fun _ => Safe.ret fun _ _ _ => trivial
      exact (safe_write framed_true fun k => aside_errno k _).pre fun _ _ _ => trivial
    case isFalse failed => exact fun _ _ ok => failed ok

theorem safe_mutex (m op : WORD) : (quiet k₀).Safe t (call .mutex (svcMutex · m op))
    (fun _ => True) fun _ _ => True := by
  refine Safe.call (fun _ => stable_const) fun k running inv _ _ => ?_
  cases running
  exact ⟨inv.mutex.2, inv.mutex.1, trivial⟩

include pids task in
theorem safe_program (request : SysCall) : (quiet k₀).Safe t request.program (fun _ => True)
    fun _ _ => True := by
  cases request with
  | alloc devnam op =>
    exact (safe_svcAlloc .alloc framed_true devnam op).bind fun _ => Safe.ret fun _ _ h => h
  | openDev device => exact (safe_svcOpen pids task device).bind fun _ => Safe.ret fun _ _ h => h
  | close io => exact (safe_svcClose pids task io).bind fun _ => Safe.ret fun _ _ h => h
  | mutex m op => exact (safe_mutex m op).bind fun _ => Safe.ret fun _ _ h => h

end Channels

/-! ## Runs -/

/-- The machine follows the rules. -/
theorem kernelMachine_follows {k₀ : Kernel} (pids : DistinctPids k₀) :
    kernelMachine.Follows (quiet k₀) fun _ _ => True where
  view := rfl
  put := rfl
  running := rfl
  enter k inv := ⟨⟨rfl, rfl⟩, QuietInv.moved inv (fun _ => rfl) inv.running rfl rfl⟩
  leave k inv := ⟨⟨rfl, rfl⟩, QuietInv.moved inv (fun _ => rfl) inv.running rfl rfl⟩
  switch t k can inv := by
    refine ⟨⟨rfl, rfl⟩, QuietInv.moved inv (preempt_pid t · k) ?_ rfl rfl⟩
    have lives : (k.tct t).pid ≠ 0 := by
      simp only [kernelMachine, Bool.and_eq_true, bne_iff_ne] at can
      exact can.2
    rw [← inv.fixed.pid]
    exact lives
  idle _ := stable_const
  served _ _ _ _ _ := trivial
  program request k inv _ _ := safe_program pids inv.running request

instance (pt : Place) (k : Kernel) : Decidable (Calm pt k) := by
  unfold Calm
  split <;> infer_instance

/-- Two tasks and a device that is active and not shareable. -/
def oneActive : Kernel :=
  { twoTasks 0o101 with
    drvcbt := Function.update drvInit 0
      { drvInit 0 with free := false, active := true, desc := { devname := blank } } }

def actions (n : Nat) : List (Move (Fin maxTasks) SysCall) := List.replicate n .act

end Muxx
