import Muxx.Opens

/-!
# The library's channels

open and close of lib_openclose.c, on top of the services, and any interleaving
of such calls:

* `run_svcClose`: what the service returns and leaves;
* `Matched`: the slots of the tasks and the open entries of the system are the
  same channels;
* `slots_matched`: they are after every run.
-/

namespace Muxx

open Run Prog Fallible

/-- Channels per process. -/
abbrev iotTentries : Nat := 5

/-- The kernel, and the channel table in the TUCB of each task. -/
structure Process where
  kernel : Kernel
  iote : Fin maxTasks → Fin iotTentries → Option (Fin iotSentries) := fun _ _ => none

namespace Process
variable (s : Process)

/-- The slot of the running task. -/
def slot (fd : Fin iotTentries) : Option (Fin iotSentries) := s.iote s.kernel.curtcb fd

def setSlot (fd : Fin iotTentries) (io : Option (Fin iotSentries)) : Process :=
  { s with
    iote := Function.update s.iote s.kernel.curtcb
      (Function.update (s.iote s.kernel.curtcb) fd io) }

def setErrno (rc : Int) : Process := { s with kernel := s.kernel.setErrno rc }

/-- `errno` of the running task. -/
def errno : Int := s.kernel.t_errno s.kernel.curtcb

def freeSlot : Option (Fin iotTentries) :=
  (List.finRange iotTentries).find? fun fd => s.slot fd = none

def openFile (filename : Name) : Except Fault (Int × Process) := do
  let s := s.setErrno eok
  match s.freeSlot with
  | none => return (enosysres, s.setErrno enosysres)
  | some fd =>
    let (piote, k) ← run (svcOpen filename) s.kernel
    let s := { s with kernel := k }
    match piote with
    | none => return (s.errno, s)
    | some io => return (fd.val, s.setSlot fd io)

/-- IOT_TENTRIES itself passes the test, but the table has no such entry. -/
def close (fd : Int) : Except Fault (Int × Process) :=
  if fd < 0 ∨ fd > iotTentries then .ok (einvval, s.setErrno einvval)
  else if within : fd.toNat < iotTentries then
    match s.slot ⟨fd.toNat, within⟩ with
    | none => .ok (enotopen, s.setErrno enotopen)
    | some io => do
      let (rc, k) ← run (svcClose io) s.kernel
      let s := { s with kernel := k }
      if rc = eok then return (rc, s.setSlot ⟨fd.toNat, within⟩ none)
      else return (rc, s.setErrno rc)
  else .error .outside

end Process

/-! ## Closing -/

section Closing
variable {k k' : Kernel} {io : Fin iotSentries} {rc : Int}

/-- What muxx_svc_close clears. -/
def IOTE.close (e : IOTE) : IOTE :=
  { e with opened := false, driver := none, controller := 0, unit := 0 }

theorem run_svcAlloc_spared {pt : AllocStep → Place} {devnam : Name} (op : DeviceOp)
    (ran : run (svcAlloc pt devnam op.code) k = .ok (rc, k')) :
    Spared k k' ∧ k'.iott = k.iott := by
  cases found : findDriver k.drvcbt devnam with
  | none =>
    cases (run_svcAlloc_missing found).symm.trans ran
    exact ⟨⟨rfl, rfl, fun _ _ => rfl⟩, rfl⟩
  | some e =>
    by_cases lock : k.mutexes 5 = 0
    · cases (run_svcAlloc lock found).symm.trans ran
      exact ⟨⟨afterAlloc_tct, afterAlloc_curtcb, fun _ => afterAlloc_other⟩, afterAlloc_iott⟩
    · cases (run_svcAlloc_taken lock found).symm.trans ran
      exact ⟨⟨rfl, rfl, fun _ _ => rfl⟩, rfl⟩

theorem run_closeDealloc (ran : run (closeDealloc io) k = .ok ((), k')) :
    Spared k k' ∧ k'.iott = k.iott := by
  cases driver : (k.iott io).driver with
  | none =>
    simp only [closeDealloc, readDriver, run_bind, run_read, ok_bind, driver, Option.map_none,
      run_stop] at ran
    cases ran
  | some d =>
    simp only [closeDealloc, run_bind, run_readDriver driver, ok_bind] at ran
    obtain ⟨⟨rc, k₁⟩, alloc, rest⟩ := bind_ok.mp ran
    obtain ⟨spared, iott⟩ := run_svcAlloc_spared .dealloc alloc
    by_cases ok : rc = eok
    · rw [if_pos ok] at rest
      cases rest
      exact ⟨spared, iott⟩
    · rw [if_neg ok] at rest
      cases rest

theorem run_closeOpen (ran : run (closeOpen io) k = .ok (rc, k')) :
    rc = eok ∧ Spared k k' ∧ k'.iott = (k.modifyIote io IOTE.close).iott := by
  simp only [closeOpen, run_bind, run_readIote, ok_bind] at ran
  obtain ⟨⟨u, k₁⟩, dealloc, rest⟩ := bind_ok.mp ran
  have before : Spared k k₁ ∧ k₁.iott = k.iott := by
    split at dealloc
    · exact run_closeDealloc dealloc
    · cases dealloc
      exact ⟨⟨rfl, rfl, fun _ _ => rfl⟩, rfl⟩
  obtain ⟨spared, iott⟩ := before
  have closed : (k₁.modifyIote io IOTE.close).iott = (k.modifyIote io IOTE.close).iott := by
    simp only [Kernel.modifyIote, iott]
  simp only [run_writeIote, ok_bind, Kernel.modifyIote_twice] at rest
  split at rest
  · cases rest
    exact ⟨rfl, ⟨spared.tct, spared.curtcb, spared.mutexes⟩, closed⟩
  · simp only [deallocateIobuffer, run_bind, run_write, ok_bind, run_pure] at rest
    cases rest
    exact ⟨rfl, ⟨spared.tct, spared.curtcb, spared.mutexes⟩, closed⟩

theorem run_closeChannel (ran : run (closeChannel io) k = .ok (rc, k')) : Spared k k' ∧
    if (k.iott io).opened then rc = eok ∧ k'.iott = (k.modifyIote io IOTE.close).iott
    else rc = enotopen ∧ k'.iott = k.iott := by
  simp only [closeChannel, run_bind, run_readIote, ok_bind] at ran
  cases opened : (k.iott io).opened with
  | true =>
    rw [opened, if_pos rfl] at ran
    obtain ⟨ok, spared, iott⟩ := run_closeOpen ran
    exact ⟨spared, ok, iott⟩
  | false =>
    rw [opened, if_neg (by decide)] at ran
    cases ran
    exact ⟨⟨rfl, rfl, fun _ _ => rfl⟩, rfl, rfl⟩

/-- A close that comes back, of a task that finds MUT_CHAN free, has a pid that fits in
a byte. -/
theorem run_svcClose_unlocked (chan : k.mutexes 6 = 0)
    (ran : run (svcClose io) k = .ok (rc, k')) :
    k.cur.pid.toNat < 0o400 ∧ ∃ k₁, run (closeChannel io) k.lockChan = .ok (rc, k₁) ∧
      k' = (k₁.setMutex 6 0).setErrno rc := by
  have lock : svcMutex k mutChan mutAlloc = (eok, k.lockChan) :=
    svcMutex_alloc_free (by decide) chan
  simp only [svcClose, run_bind, run_call, lock, ok_bind, if_true] at ran
  obtain ⟨⟨rc₁, k₁⟩, closed, rest⟩ := bind_ok.mp ran
  have spared := (run_closeChannel closed).1
  by_cases small : k.cur.pid.toNat < 0o400
  · rw [spared.unlock small, if_pos rfl] at rest
    cases rest
    exact ⟨small, k₁, closed, rfl⟩
  · have locked : elocked ≠ eok := by decide
    rw [spared.stuck (Nat.le_of_not_lt small), if_neg locked] at rest
    cases rest

theorem run_svcClose (chan : k.mutexes 6 = 0) (ran : run (svcClose io) k = .ok (rc, k')) :
    k'.tct = k.tct ∧ k'.curtcb = k.curtcb ∧ k'.mutexes 6 = 0 ∧
      if (k.iott io).opened then rc = eok ∧ k'.iott = (k.modifyIote io IOTE.close).iott
      else rc = enotopen ∧ k'.iott = k.iott := by
  obtain ⟨-, k₁, closed, rfl⟩ := run_svcClose_unlocked chan ran
  obtain ⟨spared, outcome⟩ := run_closeChannel closed
  exact ⟨spared.tct, spared.curtcb, Kernel.setMutex_self k₁ 6 0, outcome⟩

/-- An open that returns `slot` has taken a free entry for it. -/
structure AfterOpen (k k' : Kernel) (slot : Option (Fin iotSentries)) : Prop where
  tct : k'.tct = k.tct
  curtcb : k'.curtcb = k.curtcb
  chan : k'.mutexes 6 = 0
  kept : ∀ j, (k.iott j).driver ≠ none → k'.iott j = k.iott j
  closed : ∀ j, slot ≠ some j → (k.iott j).driver = none → (k.iott j).opened = false →
    (k'.iott j).opened = false
  opened : ∀ io, slot = some io → (k.iott io).driver = none ∧ (k'.iott io).opened = true ∧
    (k'.iott io).driver ≠ none

theorem run_svcOpen_inv {device : Name} {slot : Option (Fin iotSentries)} (chan : k.mutexes 6 = 0)
    (vacant : ∀ j, (k.iott j).driver = none → (k.iott j).opened = false)
    (ran : run (svcOpen device) k = .ok (slot, k')) : AfterOpen k k' slot := by
  by_cases large : 0o400 ≤ k.cur.pid.toNat
  · cases (run_svcOpen_large chan large device).symm.trans ran
  obtain ⟨rc, slot₁, k₁, outcome, ran'⟩ := run_svcOpen chan (Nat.lt_of_not_le large) device
  have spared := outcome.spared
  cases outcome with
  | full =>
    cases ran'.symm.trans ran
    exact ⟨spared.tct, spared.curtcb, Kernel.setMutex_self k.lockChan 6 0, fun _ _ => rfl,
      fun _ _ _ closed => closed, nofun⟩
  | missing =>
    cases ran'.symm.trans ran
    exact ⟨spared.tct, spared.curtcb, Kernel.setMutex_self k.lockChan 6 0, fun _ _ => rfl,
      fun _ _ _ closed => closed, nofun⟩
  | @found io d v _ _ free located opens =>
    have driver : ((k.lockChan.fillIote io d v).iott io).driver = d := by
      rw [Kernel.fillIote, Kernel.modifyIote_self]
    have vacated : (k.iott io).driver = none := findFreeIote_driver free
    have closed : ((k.lockChan.fillIote io d v).iott io).opened = false := by
      rw [Kernel.fillIote, Kernel.modifyIote_self]
      exact vacant io vacated
    have other (j : Fin iotSentries) (other : j ≠ io) : k₁.iott j = k.iott j :=
      (opens.other other).trans (Kernel.modifyIote_ne _ _ _ other)
    have kept (j : Fin iotSentries) (taken : (k.iott j).driver ≠ none) : k₁.iott j = k.iott j := by
      apply other
      rintro rfl
      exact taken vacated
    by_cases ok : rc = eok
    · rw [if_pos ok] at ran'
      cases ran'.symm.trans ran
      refine ⟨spared.tct, spared.curtcb, Kernel.setMutex_self k₁ 6 0, kept, ?_, ?_⟩
      · intro j apart _ before
        have apart : j ≠ io := fun same => apart (congrArg some same.symm)
        exact (congrArg IOTE.opened (other j apart)).trans before
      · intro j same
        obtain rfl := Option.some_inj.mp same
        refine ⟨vacated, (opens.opened_iff closed).mpr ok, ?_⟩
        exact (opens.driver driver).trans_ne (Option.some_ne_none d)
    · rw [if_neg ok] at ran'
      cases ran'.symm.trans ran
      refine ⟨spared.tct, spared.curtcb, Kernel.setMutex_self k₁ 6 0, kept, ?_, nofun⟩
      intro j _ _ before
      by_cases same : j = io
      · subst same
        exact Bool.eq_false_iff.mpr fun opened => ok ((opens.opened_iff closed).mp opened)
      · exact (congrArg IOTE.opened (other j same)).trans before

end Closing

/-! ## Runs -/

inductive LibOp
  | openFile (filename : Name)
  | close (fd : Int)

/-- A call, made by its task. -/
structure LibCall where
  task : Fin maxTasks
  op : LibOp

namespace LibCall

/-- The file descriptor is one of the table. -/
def InRange (_ : Process) (c : LibCall) : Prop :=
  match c.op with
  | .openFile _ => True
  | .close fd => 0 ≤ fd ∧ fd < iotTentries

def step (s : Process) (c : LibCall) : Except Fault Process := do
  let s := { s with kernel := s.kernel.withCur c.task }
  let (_, s) ← (match c.op with
    | .openFile filename => s.openFile filename
    | .close fd => s.close fd)
  return s

end LibCall

/-- The slots of the tasks and the open entries of the system are the same
channels. -/
structure Matched (s : Process) : Prop where
  backed : ∀ t fd io, s.iote t fd = some io →
    (s.kernel.iott io).opened = true ∧ (s.kernel.iott io).driver ≠ none
  single : ∀ t fd t' fd' io, s.iote t fd = some io → s.iote t' fd' = some io → t = t' ∧ fd = fd'
  held : ∀ io, (s.kernel.iott io).opened = true → ∃ t fd, s.iote t fd = some io

/-- Besides, between two calls MUT_CHAN is free and free entries are not open. -/
structure Orderly (s : Process) : Prop where
  chan : s.kernel.mutexes 6 = 0
  vacant : ∀ io, (s.kernel.iott io).driver = none → (s.kernel.iott io).opened = false
  matched : Matched s

section Steps
variable {s s' : Process} {c : LibCall} {k' : Kernel} {fd : Fin iotTentries} {rc : Int}
variable {slot : Option (Fin iotSentries)} {io : Fin iotSentries}

theorem setSlot_iote (s : Process) (fd : Fin iotTentries) (slot : Option (Fin iotSentries))
    (t : Fin maxTasks) (fd' : Fin iotTentries) :
    (s.setSlot fd slot).iote t fd' =
      if t = s.kernel.curtcb ∧ fd' = fd then slot else s.iote t fd' := by
  unfold Process.setSlot
  by_cases task : t = s.kernel.curtcb
  · subst task
    by_cases here : fd' = fd
    · subst here
      simp
    · simp [here]
  · simp [task]

/-- What the calls do besides to the channels does not matter. -/
theorem Orderly.of_same (h : Orderly s) (chan : s'.kernel.mutexes 6 = 0)
    (iott : s'.kernel.iott = s.kernel.iott) (iote : s'.iote = s.iote) : Orderly s' := by
  obtain ⟨_, vacant, backed, single, held⟩ := h
  rw [← iott] at vacant backed held
  rw [← iote] at backed single held
  exact ⟨chan, vacant, backed, single, held⟩

/-- A slot that was empty gets what the open returns. -/
theorem Orderly.opened (h : Orderly s) (after : AfterOpen s.kernel k' slot)
    (empty : s.slot fd = none) : Orderly (({ s with kernel := k' }).setSlot fd slot) := by
  have cur : k'.curtcb = s.kernel.curtcb := after.curtcb
  have iote (t : Fin maxTasks) (fd' : Fin iotTentries) :
      (({ s with kernel := k' }).setSlot fd slot).iote t fd' =
        if t = s.kernel.curtcb ∧ fd' = fd then slot else s.iote t fd' := by
    rw [setSlot_iote, cur]
  -- a slot that was not empty has a channel whose entry is still the same
  have old {t : Fin maxTasks} {fd' : Fin iotTentries} {io : Fin iotSentries}
      (there : s.iote t fd' = some io) : (s.kernel.iott io).driver ≠ none :=
    (h.matched.backed t fd' io there).2
  refine ⟨after.chan, ?_, ?_, ?_, ?_⟩
  · intro io vacant
    have vacant : (k'.iott io).driver = none := vacant
    show (k'.iott io).opened = false
    by_cases taken : (s.kernel.iott io).driver = none
    · refine after.closed io ?_ taken (h.vacant io taken)
      intro new
      exact (after.opened io new).2.2 vacant
    · rw [after.kept io taken] at vacant
      exact absurd vacant taken
  · intro t fd' io there
    rw [iote] at there
    show (k'.iott io).opened = true ∧ (k'.iott io).driver ≠ none
    split_ifs at there with here
    · exact (after.opened io there).2
    · rw [after.kept io (old there)]
      exact h.matched.backed t fd' io there
  · intro t fd₁ t' fd₂ io there there'
    rw [iote] at there there'
    split_ifs at there there' with here here' here'
    · exact ⟨here.1.trans here'.1.symm, here.2.trans here'.2.symm⟩
    · exact absurd (after.opened io there).1 (old there')
    · exact absurd (after.opened io there').1 (old there)
    · exact h.matched.single t fd₁ t' fd₂ io there there'
  · intro io isOpen
    have isOpen : (k'.iott io).opened = true := isOpen
    by_cases new : slot = some io
    · exact ⟨s.kernel.curtcb, fd, by rw [iote, if_pos ⟨rfl, rfl⟩, new]⟩
    · have taken : (s.kernel.iott io).driver ≠ none := by
        intro vacant
        have closed := after.closed io new vacant (h.vacant io vacant)
        exact absurd (closed.symm.trans isOpen) (by decide)
      rw [after.kept io taken] at isOpen
      obtain ⟨t, fd', there⟩ := h.matched.held io isOpen
      refine ⟨t, fd', ?_⟩
      rw [iote, if_neg, there]
      rintro ⟨rfl, rfl⟩
      cases empty.symm.trans there

/-- The slot of a channel that is closed becomes empty. -/
theorem Orderly.closed (h : Orderly s) (there : s.slot fd = some io)
    (curtcb : k'.curtcb = s.kernel.curtcb) (chan : k'.mutexes 6 = 0)
    (iott : k'.iott = (s.kernel.modifyIote io IOTE.close).iott) :
    Orderly (({ s with kernel := k' }).setSlot fd none) := by
  have iote (t : Fin maxTasks) (fd' : Fin iotTentries) :
      (({ s with kernel := k' }).setSlot fd none).iote t fd' =
        if t = s.kernel.curtcb ∧ fd' = fd then none else s.iote t fd' := by
    rw [setSlot_iote, curtcb]
  have self : k'.iott io = (s.kernel.iott io).close := by
    rw [iott, Kernel.modifyIote_self]
  have other {j : Fin iotSentries} (other : j ≠ io) : k'.iott j = s.kernel.iott j := by
    rw [iott, Kernel.modifyIote_ne _ _ _ other]
  refine ⟨chan, ?_, ?_, ?_, ?_⟩
  · intro j vacant
    have vacant : (k'.iott j).driver = none := vacant
    show (k'.iott j).opened = false
    by_cases same : j = io
    · subst same
      rw [self]
      rfl
    · rw [other same] at vacant ⊢
      exact h.vacant j vacant
  · intro t fd' j mine
    rw [iote] at mine
    show (k'.iott j).opened = true ∧ (k'.iott j).driver ≠ none
    split_ifs at mine with here
    have apart : j ≠ io := by
      rintro rfl
      exact here (h.matched.single t fd' _ _ j mine there)
    rw [other apart]
    exact h.matched.backed t fd' j mine
  · intro t fd₁ t' fd₂ j mine mine'
    rw [iote] at mine mine'
    split_ifs at mine mine'
    exact h.matched.single t fd₁ t' fd₂ j mine mine'
  · intro j isOpen
    have isOpen : (k'.iott j).opened = true := isOpen
    have apart : j ≠ io := by
      rintro rfl
      rw [self] at isOpen
      exact Bool.false_ne_true isOpen
    rw [other apart] at isOpen
    obtain ⟨t, fd', mine⟩ := h.matched.held j isOpen
    refine ⟨t, fd', ?_⟩
    rw [iote, if_neg, mine]
    rintro ⟨rfl, rfl⟩
    exact apart (Option.some_inj.mp (mine.symm.trans there))

theorem Orderly.openFile (h : Orderly s) {filename : Name}
    (ran : s.openFile filename = .ok (rc, s')) : Orderly s' := by
  have fresh : Orderly (s.setErrno eok) := h.of_same h.chan rfl rfl
  cases free : (s.setErrno eok).freeSlot with
  | none =>
    simp only [Process.openFile, free] at ran
    cases ran
    exact h.of_same h.chan rfl rfl
  | some fd =>
    simp only [Process.openFile, free] at ran
    obtain ⟨⟨slot, k'⟩, opened, rest⟩ := bind_ok.mp ran
    have after := run_svcOpen_inv fresh.chan fresh.vacant opened
    have empty : (s.setErrno eok).slot fd = none := by simpa using List.find?_some free
    have next := fresh.opened after empty
    cases slot with
    | none =>
      cases rest
      refine next.of_same after.chan rfl ?_
      funext t fd'
      rw [setSlot_iote]
      split_ifs with here
      · obtain ⟨rfl, rfl⟩ := here
        exact (congrArg (s.iote · fd') after.curtcb).trans empty
      · rfl
    | some io =>
      cases rest
      exact next

theorem Orderly.close (h : Orderly s) {fd : Int} (ran : s.close fd = .ok (rc, s')) :
    Orderly s' := by
  unfold Process.close at ran
  split_ifs at ran with outside within
  · cases ran
    exact h.of_same h.chan rfl rfl
  · cases there : s.slot ⟨fd.toNat, within⟩ with
    | none =>
      rw [there] at ran
      cases ran
      exact h.of_same h.chan rfl rfl
    | some io =>
      rw [there] at ran
      obtain ⟨⟨rc₁, k'⟩, closed, rest⟩ := bind_ok.mp ran
      obtain ⟨-, curtcb, chan, outcome⟩ := run_svcClose h.chan closed
      have backed := (h.matched.backed _ _ io there).1
      rw [if_pos backed] at outcome
      obtain ⟨rfl, iott⟩ := outcome
      cases rest
      exact h.closed there curtcb chan iott

theorem Orderly.step (h : Orderly s) (stepped : c.step s = .ok s') : Orderly s' := by
  have called : Orderly { s with kernel := s.kernel.withCur c.task } := h.of_same h.chan rfl rfl
  obtain ⟨⟨rc, s₁⟩, ran, rest⟩ := bind_ok.mp stepped
  cases rest
  cases op : c.op with
  | openFile filename =>
    rw [op] at ran
    exact called.openFile ran
  | close fd =>
    rw [op] at ran
    exact called.close ran

end Steps

/-- A state without channels. -/
theorem orderly_start {k : Kernel} (chan : k.mutexes 6 = 0) (iott : k.iott = iottInit) :
    Orderly { kernel := k } := by
  have closed (io : Fin iotSentries) : (k.iott io).opened = false := by
    rw [iott]
    rfl
  refine ⟨chan, fun io _ => closed io, nofun, nofun, ?_⟩
  intro io opened
  cases (closed io).symm.trans opened

theorem orderly_reachable {k : Kernel} (chan : k.mutexes 6 = 0) (iott : k.iott = iottInit)
    {scope : Process → LibCall → Prop} {s : Process}
    (reached : Reachable LibCall.step scope { kernel := k } s) : Orderly s :=
  reached.invariant Orderly (orderly_start chan iott) fun _ _ _ h _ stepped => h.step stepped

/-- In every run from a state without channels, each slot of a task is an open
entry of its own, and each open entry is in a slot. -/
theorem slots_matched {k : Kernel} (chan : k.mutexes 6 = 0) (iott : k.iott = iottInit)
    {s : Process} (reached : Reachable LibCall.step LibCall.InRange { kernel := k } s) :
    Matched s := by
  exact (orderly_reachable chan iott reached).matched

instance : ∀ (s : Process) (c : LibCall), Decidable (c.InRange s)
  | _, ⟨_, .openFile _⟩ => inferInstanceAs (Decidable True)
  | _, ⟨_, .close _⟩ => inferInstanceAs (Decidable (_ ∧ _))

/-- The driver of `oneDisk`, started. -/
def startedDisk : Kernel := oneDisk.modifyDriver 0 ({ · with active := true, stopped := false })

/-- The second open is refused, the third one is of the first task again. -/
theorem slots_matched_run : ∃ s, exec LibCall.step { kernel := startedDisk }
    [⟨0, .openFile diskName⟩, ⟨1, .openFile diskName⟩, ⟨0, .openFile diskName⟩, ⟨0, .close 0⟩] =
      .ok s ∧ Matched s := by
  obtain ⟨s, ran⟩ := isOk_iff.mp (by decide +kernel : (exec LibCall.step { kernel := startedDisk }
    [⟨0, .openFile diskName⟩, ⟨1, .openFile diskName⟩, ⟨0, .openFile diskName⟩,
      ⟨0, .close 0⟩]).isOk = true)
  exact ⟨s, ran, slots_matched rfl rfl (reachable_exec (by decide +kernel) ran)⟩

end Muxx
