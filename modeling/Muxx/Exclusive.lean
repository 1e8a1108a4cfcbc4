import Muxx.Offers

/-!
# Exclusive devices

muxx_svc_open and muxx_svc_close by any tasks, on devices that are not shareable:

* `svcOpen_acquires`, `svcClose_releases`: what a call does to the drivers;
* `Kernel.HeldBy`: a task has a device, by the driver itself or by the first driver of
  that name;
* `OwnedChannels`: the opener of each open channel has its device;
* `exclusive_channels`: so it is in every run in which a close gives no device back
  that another channel is open on.
-/

namespace Muxx

open Run Prog Fallible

/-! ## The drivers -/

/-- The drivers are as they were, or the caller has got one that nobody had. -/
def Acquires (k k' : Kernel) : Prop :=
  k'.drvcbt = k.drvcbt ∨ ∃ e, findDriver k.drvcbt (k.drvcbt e).drvname = some e ∧
    (k.drvcbt e).alloc = false ∧ k'.drvcbt =
      Function.update k.drvcbt e { k.drvcbt e with ownerid := some k.curtcb, alloc := true }

/-- The driver, or the first one of its name, is allocated to the task. -/
def Kernel.HeldBy (k : Kernel) (d : Fin maxDrv) (task : Option (Fin maxTasks)) : Prop :=
  if (k.drvcbt d).alloc then (k.drvcbt d).ownerid = task
  else ∃ e, findDriver k.drvcbt (k.drvcbt d).drvname = some e ∧ (k.drvcbt e).alloc = true ∧
    (k.drvcbt e).ownerid = task

section Drivers
variable {k k' : Kernel} {io : Fin iotSentries} {d e : Fin maxDrv} {rc : Int} {device : Name}
variable {slot : Option (Fin iotSentries)} {task : Option (Fin maxTasks)}

theorem findDriver_drvname {drvcbt : Fin maxDrv → DRVCB} {devnam : Name}
    (found : findDriver drvcbt devnam = some e) : (drvcbt e).drvname = devnam := by
  have passed := List.find?_some found
  simp only [Bool.and_eq_true, decide_eq_true_eq] at passed
  exact passed.2

/-- A call of muxx_svc_alloc changes who has a driver, and nothing else of it. -/
theorem DeviceOp.entry_fixed (b : DRVCB) (caller : Fin maxTasks) (op : DeviceOp) :
    (op.entry b caller).free = b.free ∧ (op.entry b caller).drvname = b.drvname ∧
      (op.entry b caller).desc = b.desc := by
  cases op <;>
    · unfold DeviceOp.entry
      split_ifs <;> exact ⟨rfl, rfl, rfl⟩

theorem Acquires.driver (h : Acquires k k') (j : Fin maxDrv) : k'.drvcbt j = { k.drvcbt j with
    alloc := (k'.drvcbt j).alloc
    ownerid := (k'.drvcbt j).ownerid } := by
  rcases h with same | ⟨e, -, -, same⟩
  · rw [same]
  · rw [same]
    by_cases here : j = e
    · subst here
      rw [Function.update_self]
    · rw [Function.update_of_ne here]

theorem Claims.acquires (h : Claims k io d rc k') : Acquires k k' := by
  cases h with
  | had => exact .inl rfl
  | @allocated e _ _ _ found unowned =>
    right
    refine ⟨e, ?_, unowned, ?_⟩
    · rw [findDriver_drvname found]
      exact found
    · rw [Kernel.modifyIote_drvcbt, afterAlloc_drvcbt, DeviceOp.entry, if_neg (by simp [unowned])]
  | refused _ _ _ _ _ drvcbt => exact .inl drvcbt

theorem Acquires.find (h : Acquires k k') {devnam : Name} :
    findDriver k'.drvcbt devnam = findDriver k.drvcbt devnam := by
  apply findDriver_congr <;>
    · intro j
      rw [h.driver]

/-- Who gets a channel on an exclusive driver has the driver. -/
theorem Claims.heldBy (h : Claims k io d eok k')
    (exclusive : (k.drvcbt d).desc.shareable = false) :
    k'.HeldBy d (some k.curtcb) := by
  have acquires := h.acquires
  cases h with
  | had shared =>
    obtain ⟨alloc, owner⟩ := shared.resolve_left (by rw [exclusive]; decide)
    rw [Kernel.HeldBy, if_pos alloc]
    exact owner
  | @allocated e _ unowned _ found unowned' =>
    have name := findDriver_drvname found
    have given : ((afterAlloc k e .alloc).modifyIote io ({ · with dealloc := true })).drvcbt =
        Function.update k.drvcbt e
          { k.drvcbt e with ownerid := some k.curtcb, alloc := true } := by
      rw [Kernel.modifyIote_drvcbt, afterAlloc_drvcbt, DeviceOp.entry,
        if_neg (by simp [unowned'])]
    rw [Kernel.HeldBy, given]
    by_cases same : d = e
    · subst same
      rw [Function.update_self, if_pos rfl]
    · rw [Function.update_of_ne same, if_neg (by simp [unowned])]
      refine ⟨e, ?_, by rw [Function.update_self], by rw [Function.update_self]⟩
      have kept := @Acquires.find _ _ acquires (k.drvcbt d).drvname
      rw [given] at kept
      exact kept.trans found
  | refused failed => exact absurd failed (Int.lt_irrefl _)

theorem Opens.acquires (h : Opens k io d rc k') : Acquires k k' := by
  cases h with
  | offline => exact .inl rfl
  | refused _ _ claims => exact claims.acquires
  | opened _ claims => exact claims.acquires

theorem Opens.heldBy (h : Opens k io d rc k') (ok : rc = eok)
    (exclusive : (k.drvcbt d).desc.shareable = false) : k'.HeldBy d (some k.curtcb) := by
  cases h with
  | offline => exact absurd ok (by decide)
  | refused _ failed => exact absurd ok failed.ne
  | opened _ claims => exact claims.heldBy exclusive

/-- What an open does to the drivers. -/
theorem svcOpen_acquires (chan : k.mutexes 6 = 0) (ran : run (svcOpen device) k = .ok (slot, k')) :
    Acquires k k' ∧ ∀ io, slot = some io → ∃ d, (k'.iott io).driver = some d ∧
      ((k.drvcbt d).desc.shareable = false → k'.HeldBy d (some k.curtcb)) := by
  by_cases large : 0o400 ≤ k.cur.pid.toNat
  · cases (run_svcOpen_large chan large device).symm.trans ran
  obtain ⟨rc, slot₁, k₁, outcome, ran'⟩ := run_svcOpen chan (Nat.lt_of_not_le large) device
  cases outcome with
  | full =>
    cases ran'.symm.trans ran
    exact ⟨.inl rfl, nofun⟩
  | missing =>
    cases ran'.symm.trans ran
    exact ⟨.inl rfl, nofun⟩
  | @found io d v _ _ free located opens =>
    have driver : ((k.lockChan.fillIote io d v).iott io).driver = d := by
      rw [Kernel.fillIote, Kernel.modifyIote_self]
    have acquires : Acquires k k₁ := opens.acquires
    by_cases ok : rc = eok
    · rw [if_pos ok] at ran'
      cases ran'.symm.trans ran
      refine ⟨acquires, ?_⟩
      intro j same
      obtain rfl := Option.some_inj.mp same
      exact ⟨d, opens.driver driver, fun exclusive => opens.heldBy ok exclusive⟩
    · rw [if_neg ok] at ran'
      cases ran'.symm.trans ran
      exact ⟨acquires, nofun⟩

theorem closeDealloc_releases (ran : run (closeDealloc io) k = .ok ((), k')) :
    ∃ d e, (k.iott io).driver = some d ∧ findDriver k.drvcbt (k.drvcbt d).drvname = some e ∧
      k'.drvcbt =
        Function.update k.drvcbt e (DeviceOp.dealloc.entry (k.drvcbt e) k.curtcb) := by
  cases driver : (k.iott io).driver with
  | none =>
    simp only [closeDealloc, readDriver, run_bind, run_read, ok_bind, driver, Option.map_none,
      run_stop] at ran
    cases ran
  | some d =>
    simp only [closeDealloc, run_bind, run_readDriver driver, ok_bind] at ran
    obtain ⟨⟨rc, k₁⟩, alloc, rest⟩ := bind_ok.mp ran
    have alloc : run (svcAlloc Place.closeAlloc (k.drvcbt d).drvname DeviceOp.dealloc.code) k =
        .ok (rc, k₁) := alloc
    by_cases ok : rc = eok
    · rw [if_pos ok] at rest
      cases rest
      cases found : findDriver k.drvcbt (k.drvcbt d).drvname with
      | none =>
        cases (run_svcAlloc_missing found).symm.trans alloc
        exact absurd ok (by decide)
      | some e =>
        by_cases lock : k.mutexes 5 = 0
        · cases (run_svcAlloc lock found).symm.trans alloc
          exact ⟨d, e, rfl, found, afterAlloc_drvcbt⟩
        · cases (run_svcAlloc_taken lock found).symm.trans alloc
          exact absurd ok (by decide)
    · rw [if_neg ok] at rest
      cases rest

/-- What a close does to the drivers. -/
theorem svcClose_releases (chan : k.mutexes 6 = 0)
    (ran : run (svcClose io) k = .ok (rc, k')) :
    k'.drvcbt = k.drvcbt ∨ (k.iott io).opened = true ∧ (k.iott io).dealloc = true ∧
      ∃ d e, (k.iott io).driver = some d ∧ findDriver k.drvcbt (k.drvcbt d).drvname = some e ∧
        k'.drvcbt =
          Function.update k.drvcbt e (DeviceOp.dealloc.entry (k.drvcbt e) k.curtcb) := by
  obtain ⟨-, k₁, closed, rfl⟩ := run_svcClose_unlocked chan ran
  simp only [closeChannel, run_bind, run_readIote, ok_bind] at closed
  by_cases opened : (k.iott io).opened = true
  · have opened' : (k.lockChan.iott io).opened = true := opened
    rw [if_pos opened'] at closed
    simp only [closeOpen, run_bind, run_readIote, ok_bind] at closed
    obtain ⟨⟨u, k₂⟩, gave, rest⟩ := bind_ok.mp closed
    have after : k₁.drvcbt = k₂.drvcbt := by
      simp only [run_writeIote, ok_bind, Kernel.modifyIote_twice] at rest
      split at rest
      · cases rest
        rfl
      · simp only [deallocateIobuffer, run_bind, run_write, ok_bind, run_pure] at rest
        cases rest
        rfl
    have drvcbt : ((k₁.setMutex 6 0).setErrno rc).drvcbt = k₂.drvcbt := after
    rw [drvcbt]
    split at gave
    next gives =>
      have gives : (k.iott io).dealloc = true := gives
      obtain ⟨d, e, driver, found, released⟩ := closeDealloc_releases gave
      exact .inr ⟨opened, gives, d, e, driver, found, released⟩
    next =>
      cases gave
      exact .inl rfl
  · have opened' : ¬ (k.lockChan.iott io).opened = true := opened
    rw [if_neg opened'] at closed
    cases closed
    exact .inl rfl

end Drivers

/-! ## Runs -/

/-- The kernel, and who has opened each channel. -/
structure ChannelRun where
  kernel : Kernel
  opener : Fin iotSentries → Option (Fin maxTasks) := fun _ => none

inductive ChannelOp
  | openDev (device : Name)
  | close (io : Fin iotSentries)

/-- A call, made by its task. -/
structure ChannelCall where
  task : Fin maxTasks
  op : ChannelOp

/-- The entry is an open channel on the driver. -/
def Kernel.Channel (k : Kernel) (io : Fin iotSentries) (d : Fin maxDrv) : Prop :=
  (k.iott io).opened = true ∧ (k.iott io).driver = d

namespace ChannelCall

def step (s : ChannelRun) (c : ChannelCall) : Except Fault ChannelRun := do
  let k := s.kernel.withCur c.task
  match c.op with
  | .openDev device =>
    let (slot, k) ← run (svcOpen device) k
    match slot with
    | some io => return { kernel := k, opener := Function.update s.opener io c.task }
    | none => return { s with kernel := k }
  | .close io =>
    let (_, k) ← run (svcClose io) k
    return { s with kernel := k }

/-- Tasks close channels of their own, and give no device back that another channel
is open on. -/
def Leaves (s : ChannelRun) (c : ChannelCall) : Prop :=
  match c.op with
  | .openDev _ => True
  | .close io => ∀ d, s.kernel.Channel io d → s.opener io = some c.task ∧
      ((s.kernel.iott io).dealloc = true → ∀ io' d', io' ≠ io → s.kernel.Channel io' d' →
        (s.kernel.drvcbt d').desc.shareable = false →
          (s.kernel.drvcbt d').drvname ≠ (s.kernel.drvcbt d).drvname)

end ChannelCall

/-- The channels on a device that is not shareable are all of one task, and no other
task can open it: its open returns NULL. (With a pid from 0400 on it panics.) -/
structure OneTask (s : ChannelRun) : Prop where
  opener : ∀ io io' d, s.kernel.Channel io d → s.kernel.Channel io' d →
    (s.kernel.drvcbt d).desc.shareable = false → s.opener io = s.opener io'
  refused : ∀ io d task device v slot k', s.kernel.Channel io d →
    (s.kernel.drvcbt d).desc.shareable = false → s.opener io ≠ some task →
      locatePdev s.kernel.drvcbt device = some (d, v) →
        run (svcOpen device) (s.kernel.withCur task) = .ok (slot, k') → slot = none
  returns : ∀ io d task device v, s.kernel.Channel io d →
    (s.kernel.drvcbt d).desc.shareable = false → s.opener io ≠ some task →
      locatePdev s.kernel.drvcbt device = some (d, v) →
        (s.kernel.tct task).pid.toNat < 0o400 →
          ∃ k', run (svcOpen device) (s.kernel.withCur task) = .ok (none, k')

/-- Between two calls the opener of each channel has its device. -/
structure OwnedChannels (s : ChannelRun) : Prop where
  chan : s.kernel.mutexes 6 = 0
  vacant : ∀ io, (s.kernel.iott io).driver = none → (s.kernel.iott io).opened = false
  held : ∀ io d, s.kernel.Channel io d → (s.kernel.drvcbt d).desc.shareable = false →
    s.kernel.HeldBy d (s.opener io)

section Runs
variable {s s' : ChannelRun} {k k' : Kernel} {d e : Fin maxDrv} {io : Fin iotSentries}
variable {task task' : Option (Fin maxTasks)}

theorem Kernel.HeldBy.unique (h : k.HeldBy d task) (h' : k.HeldBy d task') : task = task' := by
  unfold Kernel.HeldBy at h h'
  split_ifs at h h'
  · exact h.symm.trans h'
  · obtain ⟨e, found, -, owner⟩ := h
    obtain ⟨e', found', -, owner'⟩ := h'
    obtain rfl := Option.some_inj.mp (found.symm.trans found')
    exact owner.symm.trans owner'

/-- An open takes no driver that anybody has. -/
theorem Kernel.HeldBy.acquires (h : k.HeldBy d task) (acquires : Acquires k k') : k'.HeldBy d task := by
  have find := @Acquires.find _ _ acquires (k.drvcbt d).drvname
  rcases acquires with same | ⟨e, first, unowned, same⟩
  · rw [Kernel.HeldBy, same]
    exact h
  rw [Kernel.HeldBy]
  unfold Kernel.HeldBy at h
  have kept (j : Fin maxDrv) (alloc : (k.drvcbt j).alloc = true) : k'.drvcbt j = k.drvcbt j := by
    rw [same, Function.update_of_ne]
    rintro rfl
    exact absurd (alloc.symm.trans unowned) (by decide)
  by_cases alloc : (k.drvcbt d).alloc = true
  · rw [if_pos alloc] at h
    rw [kept d alloc, if_pos alloc]
    exact h
  · rw [if_neg alloc] at h
    obtain ⟨e', found, alloc', owner⟩ := h
    have other : d ≠ e := by
      rintro rfl
      obtain rfl := Option.some_inj.mp (first.symm.trans found)
      exact absurd alloc' alloc
    have here : k'.drvcbt d = k.drvcbt d := by rw [same, Function.update_of_ne other]
    rw [here, if_neg alloc]
    refine ⟨e', find.trans found, ?_, ?_⟩
    · rw [kept e' alloc']
      exact alloc'
    · rw [kept e' alloc']
      exact owner

/-- The release of a driver is no matter of drivers with other names. -/
theorem Kernel.HeldBy.releases (h : k.HeldBy d task) {b : DRVCB}
    (other : (k.drvcbt d).drvname ≠ (k.drvcbt e).drvname) (free : b.free = (k.drvcbt e).free)
    (drvname : b.drvname = (k.drvcbt e).drvname)
    (released : k'.drvcbt = Function.update k.drvcbt e b) : k'.HeldBy d task := by
  have kept (j : Fin maxDrv) (apart : (k.drvcbt j).drvname ≠ (k.drvcbt e).drvname) :
      k'.drvcbt j = k.drvcbt j := by
    rw [released, Function.update_of_ne]
    rintro rfl
    exact apart rfl
  have find (devnam : Name) : findDriver k'.drvcbt devnam = findDriver k.drvcbt devnam := by
    apply findDriver_congr <;>
      · intro j
        rw [released]
        by_cases same : j = e
        · subst same
          rw [Function.update_self]
          assumption
        · rw [Function.update_of_ne same]
  unfold Kernel.HeldBy at h ⊢
  rw [kept d other]
  split_ifs at h ⊢
  · exact h
  · obtain ⟨e', found, alloc, owner⟩ := h
    have apart : (k.drvcbt e').drvname ≠ (k.drvcbt e).drvname := by
      rw [findDriver_drvname found]
      exact other
    exact ⟨e', (find _).trans found, by rw [kept e' apart]; exact alloc,
      by rw [kept e' apart]; exact owner⟩

/-- Another task gets no channel on such a device. -/
theorem OwnedChannels.refused (h : OwnedChannels s) {owner : Fin maxTasks} {device : Name} {v : Located}
    {slot : Option (Fin iotSentries)} (channel : s.kernel.Channel io d)
    (exclusive : (s.kernel.drvcbt d).desc.shareable = false) (other : s.opener io ≠ some owner)
    (located : locatePdev s.kernel.drvcbt device = some (d, v))
    (ran : run (svcOpen device) (s.kernel.withCur owner) = .ok (slot, k')) : slot = none := by
  cases slot with
  | none => rfl
  | some io' =>
    obtain ⟨d', offers, -⟩ := svcOpen_leaves ran
    obtain ⟨v', located'⟩ := offers.located
    have same : d' = d := congrArg Prod.fst (Option.some_inj.mp (located'.symm.trans located))
    subst same
    have held : s.kernel.HeldBy d' (s.opener io) := h.held io d' channel exclusive
    have granted := offers.grants.2.resolve_left (by
      have shareable : ((s.kernel.withCur owner).drvcbt d').desc.shareable = false := exclusive
      rw [shareable]
      decide)
    unfold Kernel.HeldBy at held
    by_cases alloc : (s.kernel.drvcbt d').alloc = true
    · have alloc' : ((s.kernel.withCur owner).drvcbt d').alloc = true := alloc
      rw [if_pos alloc] at held
      rw [if_pos alloc'] at granted
      exact absurd (held.symm.trans granted) other
    · have alloc' : ¬ ((s.kernel.withCur owner).drvcbt d').alloc = true := alloc
      rw [if_neg alloc] at held
      rw [if_neg alloc'] at granted
      obtain ⟨e, found, taken, -⟩ := held
      exact absurd (taken.symm.trans (granted e found)) (by decide)

theorem OwnedChannels.oneTask (h : OwnedChannels s) : OneTask s := by
  constructor
  · intro io io' d channel channel' exclusive
    exact (h.held io d channel exclusive).unique (h.held io' d channel' exclusive)
  · intro io d task device v slot k' channel exclusive other located ran
    exact h.refused channel exclusive other located ran
  · intro io d task device v channel exclusive other located small
    have small : (s.kernel.withCur task).cur.pid.toNat < 0o400 := small
    obtain ⟨rc, slot, k₁, -, ran⟩ := run_svcOpen (k := s.kernel.withCur task) h.chan small device
    generalize answer : (if rc = eok then (slot, k₁.setMutex 6 0)
      else (none, (k₁.setMutex 6 0).setErrno rc)) = r at ran
    obtain ⟨slot', k'⟩ := r
    obtain rfl := h.refused channel exclusive other located ran
    exact ⟨k', ran⟩

theorem OwnedChannels.opens (h : OwnedChannels s) {t : Fin maxTasks} {device : Name}
    {slot : Option (Fin iotSentries)} {opener : Fin iotSentries → Option (Fin maxTasks)}
    (ran : run (svcOpen device) (s.kernel.withCur t) = .ok (slot, k'))
    (new : ∀ io, slot = some io → opener io = some t)
    (old : ∀ io, slot ≠ some io → opener io = s.opener io) :
    OwnedChannels { kernel := k', opener } := by
  have after : AfterOpen (s.kernel.withCur t) k' slot := run_svcOpen_inv h.chan h.vacant ran
  obtain ⟨acquires, taken⟩ := svcOpen_acquires (k := s.kernel.withCur t) h.chan ran
  have desc (d : Fin maxDrv) : (k'.drvcbt d).desc = (s.kernel.drvcbt d).desc := by
    rw [acquires.driver d]
    rfl
  refine ⟨after.chan, ?_, ?_⟩
  · intro io free
    by_cases here : slot = some io
    · exact absurd free (after.opened io here).2.2
    · by_cases before : (s.kernel.iott io).driver = none
      · exact after.closed io here before (h.vacant io before)
      · exact absurd ((congrArg IOTE.driver (after.kept io before)).symm.trans free) before
  · intro io d channel exclusive
    dsimp only at channel exclusive ⊢
    rw [desc] at exclusive
    by_cases here : slot = some io
    · obtain ⟨d', driver, held⟩ := taken io here
      obtain rfl : d' = d := Option.some_inj.mp (driver.symm.trans channel.2)
      rw [new io here]
      exact held exclusive
    · have before : (s.kernel.iott io).driver ≠ none := by
        intro free
        have closed := after.closed io here free (h.vacant io free)
        exact absurd (closed.symm.trans channel.1) (by decide)
      have same : k'.iott io = s.kernel.iott io := after.kept io before
      have channel : s.kernel.Channel io d := by
        unfold Kernel.Channel at channel ⊢
        rw [← same]
        exact channel
      have held : (s.kernel.withCur t).HeldBy d (s.opener io) := h.held io d channel exclusive
      rw [old io here]
      exact held.acquires acquires

/-- A close leaves the other channels, and the drivers of other names. -/
theorem OwnedChannels.closes (h : OwnedChannels s) {t : Fin maxTasks} {rc : Int}
    (leaves : ChannelCall.Leaves s ⟨t, .close io⟩)
    (ran : run (svcClose io) (s.kernel.withCur t) = .ok (rc, k')) :
    OwnedChannels { s with kernel := k' } := by
  obtain ⟨-, -, chan, outcome⟩ := run_svcClose (k := s.kernel.withCur t) h.chan ran
  have iott (j : Fin iotSentries) : k'.iott j = s.kernel.iott j ∨
      j = io ∧ k'.iott j = (s.kernel.iott j).close := by
    by_cases opened : ((s.kernel.withCur t).iott io).opened = true
    · rw [if_pos opened] at outcome
      rw [outcome.2]
      by_cases here : j = io
      · subst here
        exact .inr ⟨rfl, Kernel.modifyIote_self ..⟩
      · exact .inl (Kernel.modifyIote_ne _ _ _ here)
    · rw [if_neg opened] at outcome
      exact .inl (congrFun outcome.2 j)
  have channels (j : Fin iotSentries) (d : Fin maxDrv) (channel : k'.Channel j d) :
      s.kernel.Channel j d := by
    unfold Kernel.Channel at channel ⊢
    rcases iott j with same | ⟨-, closed⟩
    · rw [← same]
      exact channel
    · rw [closed] at channel
      exact absurd channel.1 Bool.false_ne_true
  refine ⟨chan, ?_, ?_⟩
  · intro j free
    dsimp only at free ⊢
    rcases iott j with same | ⟨-, closed⟩
    · rw [same] at free ⊢
      exact h.vacant j free
    · rw [closed]
      rfl
  · intro j d' channel exclusive
    dsimp only at channel exclusive ⊢
    have before := channels j d' channel
    rcases svcClose_releases (k := s.kernel.withCur t) h.chan ran with
      same | ⟨opened, gives, d, e, driver, found, released⟩
    · have same : k'.drvcbt = s.kernel.drvcbt := same
      rw [same] at exclusive
      have held := h.held j d' before exclusive
      unfold Kernel.HeldBy at held ⊢
      rw [same]
      exact held
    · have other : j ≠ io := by
        rintro rfl
        rw [if_pos opened] at outcome
        have closed : k'.iott j = (s.kernel.iott j).close :=
          (congrFun outcome.2 j).trans (Kernel.modifyIote_self ..)
        unfold Kernel.Channel at channel
        rw [closed] at channel
        exact absurd channel.1 Bool.false_ne_true
      have released : k'.drvcbt = Function.update s.kernel.drvcbt e
          (DeviceOp.dealloc.entry (s.kernel.drvcbt e) t) := released
      have found : findDriver s.kernel.drvcbt (s.kernel.drvcbt d).drvname = some e := found
      obtain ⟨free, drvname, desc⟩ := DeviceOp.entry_fixed (s.kernel.drvcbt e) t .dealloc
      have exclusive : (s.kernel.drvcbt d').desc.shareable = false := by
        rw [released] at exclusive
        by_cases same : d' = e
        · subst same
          rw [Function.update_self, desc] at exclusive
          exact exclusive
        · rw [Function.update_of_ne same] at exclusive
          exact exclusive
      have apart : (s.kernel.drvcbt d').drvname ≠ (s.kernel.drvcbt e).drvname := by
        rw [findDriver_drvname found]
        exact (leaves d ⟨opened, driver⟩).2 gives j d' other before exclusive
      exact (h.held j d' before exclusive).releases apart free drvname released

theorem OwnedChannels.step (h : OwnedChannels s) {c : ChannelCall} (leaves : c.Leaves s)
    (stepped : c.step s = .ok s') : OwnedChannels s' := by
  obtain ⟨t, op⟩ := c
  cases op with
  | openDev device =>
    obtain ⟨⟨slot, k'⟩, ran, rest⟩ := bind_ok.mp stepped
    cases slot with
    | none =>
      cases rest
      exact h.opens ran nofun fun _ _ => rfl
    | some io =>
      cases rest
      apply h.opens ran
      · intro j same
        obtain rfl := Option.some_inj.mp same
        exact Function.update_self ..
      · intro j other
        exact Function.update_of_ne (fun same => other (congrArg some same.symm)) ..
  | close io =>
    obtain ⟨⟨rc, k'⟩, ran, rest⟩ := bind_ok.mp stepped
    cases rest
    exact h.closes leaves ran

/-- In every run from a state without channels, the channels on an exclusive device are
of one task, as long as tasks close their own and a close does not give back a device
that another channel is open on. -/
theorem exclusive_channels {k : Kernel} (chan : k.mutexes 6 = 0)
    (closed : ∀ io, (k.iott io).opened = false) {s : ChannelRun}
    (reached : Reachable ChannelCall.step (fun s c => c.Leaves s) { kernel := k } s) :
    OneTask s := by
  have start : OwnedChannels { kernel := k } := by
    refine ⟨chan, fun io _ => closed io, ?_⟩
    intro io d channel
    exact absurd ((closed io).symm.trans channel.1) (by decide)
  have owned : OwnedChannels s :=
    reached.invariant OwnedChannels start fun _ _ _ h leaves stepped => h.step leaves stepped
  exact owned.oneTask

end Runs

instance instDecidableChannel (k : Kernel) (io : Fin iotSentries) (d : Fin maxDrv) :
    Decidable (k.Channel io d) :=
  inferInstanceAs (Decidable (_ ∧ _))

instance instDecidableLeaves : ∀ (s : ChannelRun) (c : ChannelCall), Decidable (c.Leaves s)
  | _, ⟨_, .openDev _⟩ => inferInstanceAs (Decidable True)
  | s, ⟨t, .close io⟩ => inferInstanceAs (Decidable (∀ d, s.kernel.Channel io d →
      s.opener io = some t ∧ ((s.kernel.iott io).dealloc = true → ∀ io' d', io' ≠ io →
        s.kernel.Channel io' d' → (s.kernel.drvcbt d').desc.shareable = false →
          (s.kernel.drvcbt d').drvname ≠ (s.kernel.drvcbt d).drvname)))

/-- The second task is refused, and gets the device when the first one has closed both
channels. -/
theorem exclusive_channels_run : ∃ s, exec ChannelCall.step { kernel := startedDisk }
    [⟨0, .openDev diskName⟩, ⟨1, .openDev diskName⟩, ⟨0, .openDev diskName⟩, ⟨0, .close 2⟩,
      ⟨0, .close 0⟩, ⟨1, .openDev diskName⟩] = .ok s ∧ OneTask s := by
  obtain ⟨s, ran⟩ := isOk_iff.mp (by decide +kernel : (exec ChannelCall.step
    { kernel := startedDisk } [⟨0, .openDev diskName⟩, ⟨1, .openDev diskName⟩,
      ⟨0, .openDev diskName⟩, ⟨0, .close 2⟩, ⟨0, .close 0⟩, ⟨1, .openDev diskName⟩]).isOk = true)
  exact ⟨s, ran, exclusive_channels rfl (by decide +kernel) (reachable_exec (by decide +kernel) ran)⟩

/-- The first task opens the device twice and closes the first channel, and the second
task gets a channel although the first one still has one. -/
theorem device_shared : ∃ s, exec ChannelCall.step { kernel := startedDisk }
    [⟨0, .openDev diskName⟩, ⟨0, .openDev diskName⟩, ⟨0, .close 0⟩, ⟨1, .openDev diskName⟩] =
      .ok s ∧ ¬ OneTask s := by
  have ran : succeeds (exec ChannelCall.step { kernel := startedDisk }
      [⟨0, .openDev diskName⟩, ⟨0, .openDev diskName⟩, ⟨0, .close 0⟩, ⟨1, .openDev diskName⟩])
      (fun s => decide (s.kernel.Channel 0 0 ∧ s.kernel.Channel 1 0 ∧
        (s.kernel.drvcbt 0).desc.shareable = false ∧ s.opener 0 ≠ s.opener 1)) = true := by
    decide +kernel
  obtain ⟨s, ran, facts⟩ := succeeds_iff.mp ran
  obtain ⟨first, second, exclusive, other⟩ := of_decide_eq_true facts
  exact ⟨s, ran, fun one => other (one.opener 0 1 0 first second exclusive)⟩

end Muxx
