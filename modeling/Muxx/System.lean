import Muxx.Drivers
import Muxx.Exclusive
import Muxx.KernelPages
import Muxx.Placement

/-!
# The whole system

Runs in which the services of all the subsystems mix, each called by the task that
is running:

* `AsideTasks`, `AsideTables`: what a service leaves to the other subsystems;
* `Consistent`: the invariants of the queues, of memory, of the channels and of the
  mutexes together;
* `SystemOp.Proper`: the calls that keep clear of the defects of each subsystem;
* `system_holds`: what each subsystem promises holds in every run of such calls.
-/

namespace Muxx

open Fallible Run Prog

/-! ## Services that leave the tasks alone -/

/-- The tasks, their queues and their memory are the same. -/
def AsideTasks (k k' : Kernel) : Prop :=
  k' = { k with
    ipl := k'.ipl, mutexes := k'.mutexes, drvcbt := k'.drvcbt, iott := k'.iott
    t_errno := k'.t_errno }

/-- So are the mutexes that tasks have for themselves. -/
structure AsideChannels (k k' : Kernel) : Prop where
  tasks : AsideTasks k k'
  mutexes : ∀ n, n ≠ 5 → n ≠ 6 → k'.mutexes n = k.mutexes n

section Tasks
variable {k k' : Kernel}

theorem AsideTasks.trans {k₁ : Kernel} (first : AsideTasks k k₁) (second : AsideTasks k₁ k') :
    AsideTasks k k' := by
  unfold AsideTasks at first second ⊢
  rw [second, first]

theorem asideTasks_mutex (k : Kernel) (mutex op : WORD) : AsideTasks k (svcMutex k mutex op).2 := by
  unfold svcMutex AsideTasks
  dsimp only
  split_ifs <;> rfl

theorem AsideTasks.moved (h : AsideTasks k k') : Moved k k' := by
  rw [h]
  exact ⟨fun _ => rfl, fun _ => rfl, rfl, rfl, rfl, fun same => ⟨fun _ => rfl, same⟩⟩

theorem AsideTasks.within {P : Fin maxTasks → Prop} (h : AsideTasks k k') (within : Within P k) :
    Within P k' := by
  rw [h]
  exact ⟨within.cur, within.links, within.ready, within.susp⟩

theorem AsideTasks.represents {a : RoundRobin.Sched (Fin maxTasks)} (h : AsideTasks k k')
    (follows : Represents k a) : Represents k' a := by
  obtain ⟨cur, running, queued⟩ := follows
  rw [h]
  exact ⟨cur, running, queued.ready, queued.susp, queued.waiting, queued.suspended, queued.apart⟩

theorem AsideTasks.tct (h : AsideTasks k k') : k'.tct = k.tct := by rw [h]


theorem AsideChannels.refl (k : Kernel) : AsideChannels k k := ⟨rfl, fun _ _ _ => rfl⟩

theorem AsideChannels.trans {k₁ : Kernel} (first : AsideChannels k k₁)
    (second : AsideChannels k₁ k') : AsideChannels k k' :=
  ⟨first.tasks.trans second.tasks, fun n drv chan =>
    (second.mutexes n drv chan).trans (first.mutexes n drv chan)⟩

theorem asideChannels_lock (k : Kernel) {mutex : WORD} (op : WORD)
    (own : mutex = mutDrv ∨ mutex = mutChan) : AsideChannels k (svcMutex k mutex op).2 := by
  refine ⟨asideTasks_mutex .., fun n drv chan => svcMutex_other _ _ _ ?_⟩
  rcases own with rfl | rfl
  · exact drv
  · exact chan

theorem asideChannels_driver (k : Kernel) (driver : Fin maxDrv) (f : DRVCB → DRVCB) :
    AsideChannels k (k.modifyDriver driver f) := ⟨rfl, fun _ _ _ => rfl⟩

theorem asideChannels_iote (k : Kernel) (io : Fin iotSentries) (f : IOTE → IOTE) :
    AsideChannels k (k.modifyIote io f) := ⟨rfl, fun _ _ _ => rfl⟩

theorem asideChannels_errno (k : Kernel) (rc : Int) : AsideChannels k (k.setErrno rc) :=
  ⟨rfl, fun _ _ _ => rfl⟩

end Tasks

/-! ## The services one statement after the other -/

section Services
variable {π α : Type} {pt : Place} {io : Fin iotSentries}

theorem moves_read {pt : π} {f : Kernel → α} :
    Moves AsideChannels (read pt f : Prog π Kernel Fault α) := Moves.read .refl

theorem moves_readIote {f : IOTE → α} : Moves AsideChannels (readIote pt io f) := moves_read

theorem moves_writeIote {f : IOTE → IOTE} : Moves AsideChannels (writeIote pt io f) :=
  Moves.write fun k => asideChannels_iote k io f

theorem moves_readDriver {f : DRVCB → α} : Moves AsideChannels (readDriver pt io f) := by
  refine Moves.bind moves_read fun found => ?_
  split <;> trivial

theorem moves_lock {pt : π} {mutex : WORD} (op : WORD) (own : mutex = mutDrv ∨ mutex = mutChan) :
    Moves AsideChannels (call pt (svcMutex · mutex op) : Prog π Kernel Fault Int) :=
  Moves.call fun k => asideChannels_lock k op own

theorem moves_errno {pt : π} {rc : Int} :
    Moves AsideChannels (write pt (·.setErrno rc) : Prog π Kernel Fault Unit) :=
  Moves.write fun k => asideChannels_errno k rc

theorem moves_allocDriver (pt : AllocStep → π) (driver : Fin maxDrv) :
    Moves AsideChannels (allocDriver pt driver) := by
  refine Moves.bind moves_read fun alloc => ?_
  split
  · trivial
  · refine Moves.bind (Moves.write fun k => asideChannels_driver k driver _) fun _ => ?_
    refine Moves.bind (Moves.write fun k => asideChannels_driver k driver _) fun _ => ?_
    trivial

theorem moves_deallocDriver (pt : AllocStep → π) (driver : Fin maxDrv) :
    Moves AsideChannels (deallocDriver pt driver) := by
  refine Moves.bind moves_read fun alloc => ?_
  split
  · refine Moves.bind moves_read fun refused => ?_
    refine Moves.bind (Moves.write fun k => asideChannels_driver k driver _) fun _ => ?_
    refine Moves.bind (Moves.write fun k => asideChannels_driver k driver _) fun _ => ?_
    trivial
  · trivial

theorem moves_svcAlloc (pt : AllocStep → π) (devnam : Name) (op : WORD) :
    Moves AsideChannels (svcAlloc pt devnam op) := by
  refine Moves.bind moves_read fun found => ?_
  cases found with
  | none => trivial
  | some driver =>
    refine Moves.bind (moves_lock mutAlloc (.inl rfl)) fun rc => ?_
    split
    · refine Moves.bind ?_ fun rc => Moves.bind (moves_lock mutDealloc (.inl rfl)) fun _ => trivial
      split
      · exact moves_allocDriver pt driver
      · exact moves_deallocDriver pt driver
    · trivial

theorem moves_claimDriver : Moves AsideChannels (claimDriver io) := by
  refine Moves.bind moves_readDriver fun alloc => ?_
  split
  · refine Moves.bind moves_read fun caller => Moves.bind moves_readDriver fun owner => ?_
    split
    · trivial
    · exact Moves.bind moves_writeIote fun _ => trivial
  · refine Moves.bind moves_readDriver fun drvname => ?_
    refine Moves.bind (moves_svcAlloc _ drvname drvAlloc) fun rc => ?_
    refine Moves.bind ?_ fun _ => trivial
    split <;> exact moves_writeIote

theorem moves_finishOpen (rc : Int) : Moves AsideChannels (finishOpen io rc) := by
  refine Moves.bind moves_readDriver fun buffered => ?_
  split
  · refine Moves.bind moves_readDriver fun size => ?_
    refine Moves.bind (Moves.bind moves_errno fun _ => trivial) fun buffer => ?_
    refine Moves.bind moves_writeIote fun _ => Moves.bind moves_readIote fun missing => ?_
    split
    · exact moves_read
    · exact Moves.bind moves_writeIote fun _ => trivial
  · exact Moves.bind moves_writeIote fun _ => trivial

theorem moves_openDriver : Moves AsideChannels (openDriver io) := by
  refine Moves.bind moves_readDriver fun active => ?_
  split
  · refine Moves.bind moves_writeIote fun _ => Moves.bind moves_writeIote fun _ =>
      Moves.bind moves_writeIote fun _ => Moves.bind moves_readDriver fun shareable => ?_
    refine Moves.bind ?_ fun rc => Moves.bind moves_readIote fun error => ?_
    · split
      · trivial
      · exact moves_claimDriver
    · split
      · exact moves_finishOpen rc
      · trivial
  · trivial

theorem moves_openChannel (device : Name) : Moves AsideChannels (openChannel device) := by
  refine Moves.bind moves_read fun free => ?_
  cases free with
  | none => trivial
  | some io =>
    refine Moves.bind (Moves.call fun k => ?_) fun rc => ?_
    · split
      · exact ⟨rfl, fun _ _ _ => rfl⟩
      · exact .refl k
    · split
      · exact Moves.bind moves_openDriver fun _ => trivial
      · trivial

theorem moves_svcOpen (device : Name) : Moves AsideChannels (svcOpen device) := by
  refine Moves.bind (moves_lock mutAlloc (.inr rfl)) fun rc => ?_
  refine Moves.bind ?_ fun result => Moves.bind (moves_lock mutDealloc (.inr rfl)) fun rc₁ => ?_
  · split
    · exact moves_openChannel device
    · trivial
  · split
    · split
      · trivial
      · exact Moves.bind moves_errno fun _ => trivial
    · trivial

theorem moves_closeOpen : Moves AsideChannels (closeOpen io) := by
  refine Moves.bind moves_readIote fun dealloc => Moves.bind ?_ fun _ =>
    Moves.bind moves_writeIote fun _ => Moves.bind moves_writeIote fun _ =>
      Moves.bind moves_writeIote fun _ => Moves.bind moves_writeIote fun _ =>
        Moves.bind moves_readIote fun buffer => ?_
  · split
    · refine Moves.bind moves_readDriver fun drvname =>
        Moves.bind (moves_svcAlloc _ drvname drvDealloc) fun rc => ?_
      split <;> trivial
    · trivial
  · split
    · trivial
    · exact Moves.bind (Moves.bind moves_errno fun _ => trivial) fun _ => trivial

theorem moves_svcClose : Moves AsideChannels (svcClose io) := by
  refine Moves.bind (moves_lock mutAlloc (.inr rfl)) fun rc => ?_
  refine Moves.bind ?_ fun rc => Moves.bind (moves_lock mutDealloc (.inr rfl)) fun rc₁ => ?_
  · split
    · refine Moves.bind moves_readIote fun opened => ?_
      split
      · exact moves_closeOpen
      · trivial
    · trivial
  · split
    · exact Moves.bind moves_errno fun _ => trivial
    · trivial

end Services

/-! ## Task services leave the tables alone -/

/-- The mutexes, the drivers and the channels are the same. -/
structure AsideTables (k k' : Kernel) : Prop where
  mutexes : k'.mutexes = k.mutexes
  drvcbt : k'.drvcbt = k.drvcbt
  iott : k'.iott = k.iott

theorem asideTables_throughout : Throughout AsideTables where
  refl _ := ⟨rfl, rfl, rfl⟩
  trans first second := ⟨second.mutexes.trans first.mutexes, second.drvcbt.trans first.drvcbt,
    second.iott.trans first.iott⟩
  queues h := by
    rw [h.only]
    exact ⟨rfl, rfl, rfl⟩
  setpl _ _ := ⟨rfl, rfl, rfl⟩
  status _ _ _ := ⟨rfl, rfl, rfl⟩
  copytrapfp _ _ := ⟨rfl, rfl, rfl⟩
  copyMMUstate _ := ⟨rfl, rfl, rfl⟩
  schedule called := by
    obtain ⟨got, -, ret⟩ := bind_ok.mp called
    cases ret
    exact ⟨rfl, rfl, rfl⟩

theorem Made.asideTables {k k' : Kernel} {i : Fin maxTasks} {tcb : TCB maxTasks}
    (made : Made k i tcb k') : AsideTables k k' := by
  rw [made.only]
  exact ⟨rfl, rfl, rfl⟩

theorem asideTables_protmem (k : Kernel) (pid page prot : WORD) :
    AsideTables k (svcProtmem k pid page prot).2 := by
  unfold svcProtmem
  dsimp only
  split
  · exact ⟨rfl, rfl, rfl⟩
  · split <;> exact ⟨rfl, rfl, rfl⟩

/-- A step of the tasks keeps the pids of all tasks. -/
theorem Guarded.stepTables {s s' : TaskRun} {rs : List Request} (h : Guarded s.kernel rs)
    {op : TaskOp} (called : s.step op = .ok s') : AsideTables s.kernel s'.kernel ∧
      ∀ i, (s.kernel.tct i).pid ≠ 0 → (s'.kernel.tct i).pid = (s.kernel.tct i).pid := by
  rcases TaskRun.step_cases called with ⟨-, name, type, entry, privs, new, k₁, made, outcome⟩ |
      ⟨moved, -⟩
  · obtain ⟨i, tcb, made, -, -⟩ := newTask_ok h.pids h.memory made
    have pid (j : Fin maxTasks) (nonzero : (s.kernel.tct j).pid ≠ 0) :
        (k₁.tct j).pid = (s.kernel.tct j).pid := by
      rw [made.other]
      rintro rfl
      exact nonzero made.entry.2
    rcases outcome with rfl | ⟨j, -, added⟩
    · exact ⟨made.asideTables, pid⟩
    · have only := addReady_only added
      exact ⟨asideTables_throughout.trans made.asideTables (asideTables_throughout.queues only),
        fun l nonzero => (only.moved.pid l).trans (pid l nonzero)⟩
  · exact ⟨moved _ asideTables_throughout, fun i _ => (moved _ moved_throughout).pid i⟩

/-! ## Runs -/

/-- The kernel and the interrupt vectors, the pids that creations have returned, who
has opened each channel and who has each mutex. -/
structure SystemRun where
  kernel : Kernel
  vectors : Vectors
  created : List WORD
  opener : Fin iotSentries → Option (Fin maxTasks) := fun _ => none
  holder : Fin 16 → Option (Fin maxTasks) := fun _ => none

inductive SystemOp
  | task (op : TaskOp)
  | protmem (pid page prot : WORD)
  | channel (op : ChannelOp)
  | alloc (device : Name) (op : DeviceOp)
  | mutex (mutex : Fin 16) (op : MutexOp)
  | drvreg (name : Name) (descriptor : DRVDESC) (handler : ADDRESS)
  | drvctl (drvExec : Fin maxDrv → WORD → Int) (op : WORD) (drvnam : Name)

namespace SystemRun

def tasks (s : SystemRun) : TaskRun := ⟨s.kernel, s.created⟩

def channels (s : SystemRun) : ChannelRun := ⟨s.kernel, s.opener⟩

def mutexes (s : SystemRun) : MutexRun := ⟨s.kernel, s.holder⟩

/-- The service is called by the running task. -/
def step (s : SystemRun) : SystemOp → Except Fault SystemRun
  | .task op => do
    let t ← s.tasks.step op
    return { s with kernel := t.kernel, created := t.created }
  | .protmem pid page prot => return { s with kernel := (svcProtmem s.kernel pid page prot).2 }
  | .channel op => do
    let c ← ChannelCall.step s.channels ⟨s.kernel.curtcb, op⟩
    return { s with kernel := c.kernel, opener := c.opener }
  | .alloc device op => do
    let (_, k) ← run (svcAlloc Place.alloc device op.code) s.kernel
    return { s with kernel := k }
  | .mutex m op => do
    let c ← s.mutexes.step ⟨s.kernel.curtcb, m, op⟩
    return { s with kernel := c.kernel, holder := c.holder }
  | .drvreg name descriptor handler =>
    let (_, k, vectors) := svcDrvreg s.kernel s.vectors name descriptor handler
    return { s with kernel := k, vectors }
  | .drvctl drvExec op drvnam =>
    return { s with kernel := (drvStartstop drvExec s.kernel op drvnam).2 }

end SystemRun

/-- The call does not run into one of the defects of the code: the links that
muxx_qRemoveTask leaves, the pages that muxx_svc_protmem opens unchecked, the close and
the DEALLOC that take a device from an open channel, and the mutexes that a task takes
from the device and channel services. -/
def SystemOp.Proper (s : SystemRun) : SystemOp → Prop
  | .task op => op.OnTask s.tasks ∧ op.Orderly s.tasks
  | .protmem pid page prot =>
    let op := CallOp.protmem pid page prot
    op.InScope s.tasks ∧ op.Mapped s.tasks ∧ op.Harmless s.tasks
  | .channel op => ChannelCall.Leaves s.channels ⟨s.kernel.curtcb, op⟩
  | .alloc device op => op = .dealloc → ∀ io d, s.kernel.Channel io d →
      (s.kernel.drvcbt d).desc.shareable = false → (s.kernel.drvcbt d).drvname ≠ device
  | .mutex m op => m ≠ 5 ∧ m ≠ 6 ∧ MutexCall.Fits s.mutexes ⟨s.kernel.curtcb, m, op⟩
  | .drvreg .. | .drvctl .. => True

/-- The registered drivers are the first ones, and channels are on registered drivers. -/
structure RegisteredFirst (k : Kernel) : Prop where
  first : ∀ i j, i ≤ j → (k.drvcbt i).free = true → (k.drvcbt j).free = true
  channel : ∀ io d, k.Channel io d → (k.drvcbt d).free = false

/-- The invariant of the whole system. -/
structure Consistent (s : SystemRun) : Prop where
  tasks : ∃ a, Sound s.tasks a
  guarded : ∃ rs, Guarded s.kernel rs
  served : ∃ rs, KernelSound s.kernel rs
  channels : OwnedChannels s.channels
  drivers : RegisteredFirst s.kernel
  mutexes : Recorded s.kernel s.mutexes
  locks : s.holder 5 = none ∧ s.holder 6 = none

section Steps
variable {s s' : SystemRun} {k' : Kernel}

/-- A step aside of the tasks. -/
theorem Sound.aside {t : TaskRun} {a : RoundRobin.Sched (Fin maxTasks)} (h : Sound t a)
    (aside : AsideTasks t.kernel k') : Sound { t with kernel := k' } a :=
  h.move aside.moved (aside.represents h.follows) (fun _ mem => mem) h.live

/-- Channels are a matter of their entries only. -/
theorem Kernel.Channel.same {k : Kernel} {io : Fin iotSentries} {d : Fin maxDrv}
    (channel : k'.Channel io d) (entry : k'.iott io = k.iott io) : k.Channel io d := by
  unfold Kernel.Channel at channel ⊢
  rw [← entry]
  exact channel

/-- The channels are the same, and who has which driver. -/
theorem OwnedChannels.kept {c : ChannelRun} (h : OwnedChannels c)
    (chan : k'.mutexes 6 = c.kernel.mutexes 6) (iott : k'.iott = c.kernel.iott)
    (same : ∀ d, k'.drvcbt d = { c.kernel.drvcbt d with
      active := (k'.drvcbt d).active, stopped := (k'.drvcbt d).stopped }) :
    OwnedChannels { c with kernel := k' } := by
  have alloc (d : Fin maxDrv) : (k'.drvcbt d).alloc = (c.kernel.drvcbt d).alloc := by rw [same]
  have owner (d : Fin maxDrv) : (k'.drvcbt d).ownerid = (c.kernel.drvcbt d).ownerid := by rw [same]
  have drvname (d : Fin maxDrv) : (k'.drvcbt d).drvname = (c.kernel.drvcbt d).drvname := by rw [same]
  have desc (d : Fin maxDrv) : (k'.drvcbt d).desc = (c.kernel.drvcbt d).desc := by rw [same]
  have find (devnam : Name) : findDriver k'.drvcbt devnam = findDriver c.kernel.drvcbt devnam :=
    findDriver_congr (fun d => by rw [same]) drvname
  refine ⟨chan.trans h.chan, fun io => ?_, fun io d => ?_⟩
  · show (k'.iott io).driver = none → (k'.iott io).opened = false
    rw [iott]
    exact h.vacant io
  · show k'.Channel io d → (k'.drvcbt d).desc.shareable = false → k'.HeldBy d (c.opener io)
    unfold Kernel.Channel Kernel.HeldBy
    simp only [iott, alloc, owner, drvname, desc, find]
    exact h.held io d

/-- The mutexes that have a holder, and the pids of the holders, are the same. -/
theorem Recorded.kept {m : MutexRun} (h : Recorded m.kernel m)
    (mutexes : ∀ n p, m.holder n = some p → k'.mutexes n.val = m.kernel.mutexes n.val)
    (pid : ∀ p, (m.kernel.tct p).pid ≠ 0 → (k'.tct p).pid = (m.kernel.tct p).pid) :
    Recorded k' { m with kernel := k' } := by
  refine ⟨rfl, fun n p holder => ?_⟩
  obtain ⟨nonzero, small, byte⟩ := h.held n p holder
  rw [pid p nonzero]
  exact ⟨nonzero, small, (mutexes n p holder).trans byte⟩

theorem Consistent.running (h : Consistent s) : s.kernel.cur.pid ≠ 0 := by
  obtain ⟨a, sound⟩ := h.tasks
  have cur : s.kernel.curtcb = a.cur := sound.follows.cur
  rw [Kernel.cur, cur]
  exact sound.live a.cur (RoundRobin.Sched.mem_tasks.mpr (.inl rfl))

theorem Consistent.distinct (h : Consistent s) : DistinctPids s.kernel := by
  obtain ⟨rs, guarded⟩ := h.guarded
  have pids := guarded.pids
  refine ⟨fun i => ?_, pids.unique⟩
  have usr : s.kernel.topupid.toNat ≤ 0o777 := by
    rcases pids.usr with none | ⟨-, le⟩
    · rw [none]
      decide
    · exact le
  have max : maxupid.toNat = 0o777 := by decide
  have sys := pids.sys
  rcases pids.assigned i with le | ⟨-, le⟩ <;> omega

/-- A service aside of the tasks. -/
theorem Consistent.aside (h : Consistent s) (aside : AsideTasks s.kernel s'.kernel)
    (created : s'.created = s.created) (channels : OwnedChannels s'.channels)
    (drivers : RegisteredFirst s'.kernel) (mutexes : Recorded s'.kernel s'.mutexes)
    (locks : s'.holder 5 = none ∧ s'.holder 6 = none) : Consistent s' := by
  obtain ⟨a, sound⟩ := h.tasks
  obtain ⟨rs, guarded⟩ := h.guarded
  obtain ⟨rs', served⟩ := h.served
  have sound : Sound { s.tasks with kernel := s'.kernel } a := sound.aside aside
  have same : ({ s.tasks with kernel := s'.kernel } : TaskRun) = s'.tasks := by
    rw [SystemRun.tasks, SystemRun.tasks, created]
  rw [same] at sound
  exact ⟨⟨a, sound⟩, ⟨rs, guarded.move aside.moved (aside.within guarded.within)⟩,
    ⟨rs', served.move aside.moved (aside.within served.within)⟩, channels, drivers, mutexes, locks⟩

theorem RegisteredFirst.kept (h : RegisteredFirst s.kernel)
    (free : ∀ d, (k'.drvcbt d).free = (s.kernel.drvcbt d).free)
    (channel : ∀ io d, k'.Channel io d →
      s.kernel.Channel io d ∨ (s.kernel.drvcbt d).free = false) : RegisteredFirst k' := by
  constructor
  · intro i j le
    rw [free, free]
    exact h.first i j le
  · intro io d open'
    rw [free]
    rcases channel io d open' with before | registered
    · exact h.channel io d before
    · exact registered

/-- A call of muxx_svc_alloc that gives no device back that a channel is open on. -/
theorem OwnedChannels.alloc {c : ChannelRun} (h : OwnedChannels c) {device : Name} {op : DeviceOp}
    (proper : op = .dealloc → ∀ io d, c.kernel.Channel io d →
      (c.kernel.drvcbt d).desc.shareable = false → (c.kernel.drvcbt d).drvname ≠ device)
    {rc : Int} (ran : run (svcAlloc Place.alloc device op.code) c.kernel = .ok (rc, k')) :
    OwnedChannels { c with kernel := k' } := by
  cases found : findDriver c.kernel.drvcbt device with
  | none =>
    cases (run_svcAlloc_missing found).symm.trans ran
    exact h
  | some e =>
    by_cases lock : c.kernel.mutexes 5 = 0
    · cases (run_svcAlloc lock found).symm.trans ran
      obtain ⟨free, drvname, desc⟩ := DeviceOp.entry_fixed (c.kernel.drvcbt e) c.kernel.curtcb op
      have drvcbt : (afterAlloc c.kernel e op).drvcbt =
          Function.update c.kernel.drvcbt e (op.entry (c.kernel.drvcbt e) c.kernel.curtcb) :=
        afterAlloc_drvcbt
      have iott : (afterAlloc c.kernel e op).iott = c.kernel.iott := afterAlloc_iott
      refine ⟨(afterAlloc_other (by decide)).trans h.chan, fun io => ?_, fun io d => ?_⟩
      · show ((afterAlloc c.kernel e op).iott io).driver = none → _
        rw [iott]
        exact h.vacant io
      · intro channel exclusive
        have here : c.kernel.Channel io d :=
          Kernel.Channel.same channel (congrFun iott io)
        have exclusive' : (c.kernel.drvcbt d).desc.shareable = false := by
          have exclusive : ((afterAlloc c.kernel e op).drvcbt d).desc.shareable = false := exclusive
          rw [drvcbt] at exclusive
          by_cases here : d = e
          · subst here
            rw [Function.update_self, desc] at exclusive
            exact exclusive
          · rw [Function.update_of_ne here] at exclusive
            exact exclusive
        have held := h.held io d here exclusive'
        cases op with
        | alloc =>
          apply held.acquires
          cases unowned : (c.kernel.drvcbt e).alloc with
          | true =>
            left
            rw [drvcbt, DeviceOp.entry, if_pos unowned, Function.update_eq_self]
          | false =>
            right
            refine ⟨e, ?_, unowned, ?_⟩
            · rw [findDriver_drvname found]
              exact found
            · rw [drvcbt, DeviceOp.entry, if_neg (by simp [unowned])]
        | dealloc =>
          refine held.releases ?_ free drvname drvcbt
          rw [findDriver_drvname found]
          exact proper rfl io d here exclusive'
    · cases (run_svcAlloc_taken lock found).symm.trans ran
      exact h.kept rfl rfl fun _ => rfl

/-- A call of muxx_svc_protmem changes at most one page register of one task. -/
theorem svcProtmem_outcome (k : Kernel) (pid page prot : WORD) :
    (svcProtmem k pid page prot).2 = k ∨ ∃ i page' pdr mmu, (svcProtmem k pid page prot).2 =
      { k.modify i fun task => task.setPdr page' pdr with mmu } := by
  unfold svcProtmem
  dsimp only
  split
  · exact .inl rfl
  split
  · exact .inl rfl
  · exact .inr ⟨_, _, _, _, rfl⟩

/-- So a field that is not the page registers stays. -/
theorem svcProtmem_field {β : Type} (g : TCB maxTasks → β)
    (same : ∀ task page pdr, g (TCB.setPdr task page pdr) = g task) (k : Kernel)
    (pid page prot : WORD) (j : Fin maxTasks) :
    g ((svcProtmem k pid page prot).2.tct j) = g (k.tct j) := by
  rcases svcProtmem_outcome k pid page prot with outcome | ⟨i, page', pdr, mmu, outcome⟩
  · rw [outcome]
  · rw [outcome]
    by_cases here : j = i
    · subst here
      exact (congrArg g (k.setTcb_self ..)).trans (same ..)
    · exact congrArg g (k.setTcb_ne _ here)

theorem Sound.protmem {t : TaskRun} {a : RoundRobin.Sched (Fin maxTasks)} (h : Sound t a)
    (pid page prot : WORD) :
    Sound { t with kernel := (svcProtmem t.kernel pid page prot).2 } a := by
  have field {β : Type} (g : TCB maxTasks → β)
      (same : ∀ task page pdr, g (TCB.setPdr task page pdr) = g task) :=
    svcProtmem_field g same t.kernel pid page prot
  have same_pid := field TCB.pid fun _ _ _ => rfl
  have same_status := field TCB.status fun _ _ _ => rfl
  have next := field TCB.nextInQueue fun _ _ _ => rfl
  have prev := field TCB.prevInQueue fun _ _ _ => rfl
  have others : let k := (svcProtmem t.kernel pid page prot).2
      k.curtcb = t.kernel.curtcb ∧ k.readyq = t.kernel.readyq ∧ k.suspq = t.kernel.suspq ∧
        k.topspid = t.kernel.topspid ∧ k.topupid = t.kernel.topupid ∧
          k.mmcbt = t.kernel.mmcbt := by
    rcases svcProtmem_outcome t.kernel pid page prot with outcome | ⟨i, page', pdr, mmu, outcome⟩ <;>
      · rw [outcome]
        exact ⟨rfl, rfl, rfl, rfl, rfl, rfl⟩
  obtain ⟨curtcb, readyq, suspq, sys, usr, mmcbt⟩ := others
  obtain ⟨cur, running, queued⟩ := h.follows
  refine ⟨⟨curtcb.trans cur, (same_status _).trans running, ?_⟩, ?_, ?_, ?_, ?_, ?_⟩
  · refine ⟨?_, ?_, fun j mem => by rw [same_status]; exact queued.waiting j mem,
      fun j mem => (same_status j).trans (queued.suspended j mem), queued.apart⟩
    · dsimp only
      rw [readyq]
      exact queued.ready.frame (fun j _ => next j) fun j _ => prev j
    · dsimp only
      rw [suspq]
      exact queued.susp.frame (fun j _ => next j) fun j _ => prev j
  · exact h.pids.congr same_pid sys usr
  · dsimp only
    rw [mmcbt]
    exact h.memory
  · intro j mem
    show _ ≠ _
    rw [same_pid]
    exact h.live j mem
  · intro j nonzero created
    rw [same_pid] at nonzero created
    exact h.known j nonzero created
  · intro p created
    obtain ⟨nonzero, j, here⟩ := h.old p created
    exact ⟨nonzero, j, (same_pid j).trans here⟩

theorem ChannelCall.step_aside {c c' : ChannelRun} {op : ChannelOp}
    (called : ChannelCall.step c ⟨c.kernel.curtcb, op⟩ = .ok c') :
    AsideChannels c.kernel c'.kernel := by
  cases op with
  | openDev device =>
    obtain ⟨⟨slot, k'⟩, ran, ret⟩ := bind_ok.mp called
    have aside := (moves_svcOpen device).run .refl .trans ran
    cases slot <;> cases ret <;> exact aside
  | close io =>
    obtain ⟨⟨rc, k'⟩, ran, ret⟩ := bind_ok.mp called
    have aside := moves_svcClose.run .refl .trans ran
    cases ret
    exact aside

/-- The driver is the same but for two flags. -/
theorem modifyDriver_driver (k : Kernel) (e d : Fin maxDrv) (op : WORD) :
    let drvcb := (k.modifyDriver e fun drvcb =>
      { drvcb with active := op == drvStart, stopped := op != drvStart }).drvcbt d
    drvcb = { k.drvcbt d with active := drvcb.active, stopped := drvcb.stopped } := by
  unfold Kernel.modifyDriver
  dsimp only
  by_cases here : d = e
  · subst here
    rw [Function.update_self]
  · rw [Function.update_of_ne here]

theorem drvStartstop_driver (drvExec : Fin maxDrv → WORD → Int) (k : Kernel) (op : WORD)
    (drvnam : Name) : (drvStartstop drvExec k op drvnam).2 = k ∨ ∃ d,
      (drvStartstop drvExec k op drvnam).2 = k.modifyDriver d fun drvcb =>
        { drvcb with active := op == drvStart, stopped := op != drvStart } := by
  unfold drvStartstop
  split
  · exact .inl rfl
  split
  · exact .inl rfl
  dsimp only
  split
  · exact .inr ⟨_, rfl⟩
  · exact .inl rfl

/-- A close opens no channel. -/
theorem svcClose_channel {k : Kernel} {io j : Fin iotSentries} {d : Fin maxDrv} {rc : Int}
    (chan : k.mutexes 6 = 0) (ran : run (svcClose io) k = .ok (rc, k'))
    (channel : k'.Channel j d) : k.Channel j d := by
  obtain ⟨-, -, -, outcome⟩ := run_svcClose chan ran
  unfold Kernel.Channel at channel ⊢
  by_cases opened : (k.iott io).opened = true
  · rw [if_pos opened] at outcome
    rw [outcome.2] at channel
    by_cases here : j = io
    · subst here
      rw [Kernel.modifyIote_self] at channel
      exact absurd channel.1 Bool.false_ne_true
    · rw [Kernel.modifyIote_ne _ _ _ here] at channel
      exact channel
  · rw [if_neg opened] at outcome
    rw [outcome.2] at channel
    exact channel

/-- The driver of a new channel was registered. -/
theorem svcOpen_channel {k : Kernel} {device : Name} {slot : Option (Fin iotSentries)}
    {io : Fin iotSentries} {d : Fin maxDrv} (chan : k.mutexes 6 = 0)
    (vacant : ∀ j, (k.iott j).driver = none → (k.iott j).opened = false)
    (ran : run (svcOpen device) k = .ok (slot, k')) (channel : k'.Channel io d) :
    k.Channel io d ∨ (k.drvcbt d).free = false := by
  have after := run_svcOpen_inv chan vacant ran
  by_cases here : slot = some io
  · subst here
    obtain ⟨e, offers, leaves⟩ := svcOpen_leaves ran
    obtain rfl : e = d := Option.some_inj.mp (leaves.driver.symm.trans channel.2)
    obtain ⟨v, located⟩ := offers.located
    exact .inr (locatePdev_free located)
  · by_cases before : (k.iott io).driver = none
    · have closed := after.closed io here before (vacant io before)
      exact absurd (closed.symm.trans channel.1) (by decide)
    · left
      exact channel.same (after.kept io before)

theorem ChannelCall.step_drivers {c c' : ChannelRun} {op : ChannelOp} (h : OwnedChannels c)
    (called : ChannelCall.step c ⟨c.kernel.curtcb, op⟩ = .ok c') :
    (∀ d, (c'.kernel.drvcbt d).free = (c.kernel.drvcbt d).free) ∧
      ∀ io d, c'.kernel.Channel io d →
        c.kernel.Channel io d ∨ (c.kernel.drvcbt d).free = false := by
  cases op with
  | openDev device =>
    obtain ⟨⟨slot, k'⟩, ran, ret⟩ := bind_ok.mp called
    have same : c'.kernel = k' := by cases slot <;> cases ret <;> rfl
    rw [same]
    obtain ⟨acquires, -⟩ := svcOpen_acquires (k := c.kernel) h.chan ran
    exact ⟨fun d => by rw [acquires.driver d], fun io d channel =>
      svcOpen_channel (k := c.kernel) h.chan h.vacant ran channel⟩
  | close io =>
    obtain ⟨⟨rc, k'⟩, ran, ret⟩ := bind_ok.mp called
    cases ret
    refine ⟨fun d => ?_, fun io d channel =>
      .inl (svcClose_channel (k := c.kernel) h.chan ran channel)⟩
    dsimp only
    rcases svcClose_releases (k := c.kernel) h.chan ran with
      same | ⟨-, -, d', e, -, -, released⟩
    · rw [same]
    · rw [released]
      by_cases here : d = e
      · subst here
        rw [Function.update_self]
        exact (DeviceOp.entry_fixed _ _ .dealloc).1
      · rw [Function.update_of_ne here]

/-- A call of muxx_svc_alloc neither registers a driver nor opens a channel. -/
theorem svcAlloc_drivers {k : Kernel} {device : Name} {op : DeviceOp} {rc : Int}
    (ran : run (svcAlloc Place.alloc device op.code) k = .ok (rc, k')) :
    k'.iott = k.iott ∧ ∀ d, (k'.drvcbt d).free = (k.drvcbt d).free := by
  cases found : findDriver k.drvcbt device with
  | none =>
    cases (run_svcAlloc_missing found).symm.trans ran
    exact ⟨rfl, fun _ => rfl⟩
  | some e =>
    by_cases lock : k.mutexes 5 = 0
    · cases (run_svcAlloc lock found).symm.trans ran
      refine ⟨afterAlloc_iott, fun d => ?_⟩
      rw [afterAlloc_drvcbt]
      by_cases here : d = e
      · subst here
        rw [Function.update_self]
        exact (DeviceOp.entry_fixed _ _ op).1
      · rw [Function.update_of_ne here]
    · cases (run_svcAlloc_taken lock found).symm.trans ran
      exact ⟨rfl, fun _ => rfl⟩

/-- The first driver of a name is still the first when the next slot is registered. -/
theorem findDriver_registers {drvcbt : Fin maxDrv → DRVCB} {i e : Fin maxDrv} {b : DRVCB}
    {devnam : Name} (first : ∀ i j, i ≤ j → (drvcbt i).free = true → (drvcbt j).free = true)
    (free : (drvcbt i).free = true) (found : findDriver drvcbt devnam = some e) :
    findDriver (Function.update drvcbt i b) devnam = some e := by
  unfold findDriver at found ⊢
  rw [← Fin.find?_eq_find?_finRange, Fin.find?_eq_some_iff] at found ⊢
  obtain ⟨here, before⟩ := found
  have registered : (drvcbt e).free = false := by
    simp only [Bool.and_eq_true, Bool.not_eq_true'] at here
    exact here.1
  have lower : e < i := by
    by_contra not_lower
    exact absurd ((first i e (not_lt.mp not_lower) free).symm.trans registered) (by decide)
  refine ⟨by rw [Function.update_of_ne lower.ne]; exact here, fun j lt => ?_⟩
  rw [Function.update_of_ne (lt.trans lower).ne]
  exact before j lt

theorem svcDrvreg_outcome (k : Kernel) (vectors : Vectors) (name : Name) (descriptor : DRVDESC)
    (handler : ADDRESS) : (svcDrvreg k vectors name descriptor handler).2.1 = k ∨
      ∃ i, (k.drvcbt i).free = true ∧ (∀ j < i, (k.drvcbt j).free = false) ∧
        (svcDrvreg k vectors name descriptor handler).2.1 = k.modifyDriver i fun drvcb =>
          { drvcb with
            drvname := name, desc := descriptor, free := false, loaded := true, stopped := true
            taskid := handler } := by
  unfold svcDrvreg
  split
  · exact .inl rfl
  split
  · exact .inl rfl
  · rename_i i found
    rw [← Fin.find?_eq_find?_finRange, Fin.find?_eq_some_iff] at found
    exact .inr ⟨i, found.1, fun j lt => by simpa using found.2 j lt, rfl⟩

end Steps

section Invariant
variable {s s' : SystemRun} {k' : Kernel}

/-- A step that leaves the tables alone. -/
theorem Consistent.tables (h : Consistent s) (tables : AsideTables s.kernel k')
    (pid : ∀ i, (s.kernel.tct i).pid ≠ 0 → (k'.tct i).pid = (s.kernel.tct i).pid) :
    OwnedChannels ⟨k', s.opener⟩ ∧ RegisteredFirst k' ∧ Recorded k' ⟨k', s.holder⟩ := by
  refine ⟨?_, ?_, ?_⟩
  · refine h.channels.kept (congrFun tables.mutexes 6) tables.iott fun d => ?_
    rw [tables.drvcbt]
    rfl
  · exact h.drivers.kept (fun d => by rw [tables.drvcbt]) fun io _ channel =>
      .inl (channel.same (congrFun tables.iott io))
  · exact Recorded.kept (m := s.mutexes) h.mutexes (fun n _ _ => congrFun tables.mutexes n.val) pid

theorem Consistent.task (h : Consistent s) {op : TaskOp} (onTask : op.OnTask s.tasks)
    (orderly : op.Orderly s.tasks) (called : s.step (.task op) = .ok s') : Consistent s' := by
  obtain ⟨t, stepped, ret⟩ := bind_ok.mp called
  cases ret
  obtain ⟨a, sound⟩ := h.tasks
  obtain ⟨rs, guarded⟩ := h.guarded
  obtain ⟨rs', served⟩ := h.served
  obtain ⟨a', sound', -⟩ := sound.step op onTask orderly stepped
  obtain ⟨tables, pid⟩ := Guarded.stepTables (s := s.tasks) guarded stepped
  obtain ⟨channels, drivers, mutexes⟩ := h.tables tables pid
  exact ⟨⟨a', sound'⟩, guarded.step (s := s.tasks) (.task op) onTask trivial stepped,
    served.step (s := s.tasks) (.task op) onTask trivial stepped, channels, drivers, mutexes,
    h.locks⟩

theorem Consistent.protmem (h : Consistent s) {pid page prot : WORD}
    (proper : SystemOp.Proper s (.protmem pid page prot))
    (called : s.step (.protmem pid page prot) = .ok s') : Consistent s' := by
  cases called
  obtain ⟨inScope, mapped, harmless⟩ := proper
  obtain ⟨a, sound⟩ := h.tasks
  obtain ⟨rs, guarded⟩ := h.guarded
  obtain ⟨rs', served⟩ := h.served
  obtain ⟨channels, drivers, mutexes⟩ := h.tables (asideTables_protmem s.kernel pid page prot)
    fun i _ => svcProtmem_field TCB.pid (fun _ _ _ => rfl) s.kernel pid page prot i
  exact ⟨⟨a, sound.protmem pid page prot⟩,
    guarded.step (s := s.tasks) (.protmem pid page prot) inScope mapped rfl,
    served.step (s := s.tasks) (.protmem pid page prot) inScope harmless rfl, channels, drivers,
    mutexes, h.locks⟩

/-- A service of channels or devices. -/
theorem Consistent.channel (h : Consistent s) (aside : AsideChannels s.kernel s'.kernel)
    (created : s'.created = s.created) (holder : s'.holder = s.holder)
    (channels : OwnedChannels s'.channels)
    (free : ∀ d, (s'.kernel.drvcbt d).free = (s.kernel.drvcbt d).free)
    (channel : ∀ io d, s'.kernel.Channel io d →
      s.kernel.Channel io d ∨ (s.kernel.drvcbt d).free = false) : Consistent s' := by
  refine h.aside aside.tasks created channels (h.drivers.kept free channel) ?_ (holder ▸ h.locks)
  have recorded : Recorded s'.kernel ⟨s'.kernel, s.holder⟩ := by
    refine Recorded.kept (m := s.mutexes) h.mutexes (fun n p holds => ?_) fun p _ => ?_
    · have apart {m : Fin 16} (free : s.holder m = none) : n ≠ m := by
        rintro rfl
        cases free.symm.trans holds
      exact aside.mutexes n.val (fun same => apart h.locks.1 (Fin.ext same))
        fun same => apart h.locks.2 (Fin.ext same)
    · rw [aside.tasks.tct]
      rfl
  rw [← holder] at recorded
  exact recorded

theorem Consistent.mutex (h : Consistent s) {m : Fin 16} {op : MutexOp}
    (proper : SystemOp.Proper s (.mutex m op)) (called : s.step (.mutex m op) = .ok s') :
    Consistent s' := by
  obtain ⟨drv, chan, fits⟩ := proper
  obtain ⟨c, stepped, ret⟩ := bind_ok.mp called
  cases ret
  let call : MutexCall := ⟨s.kernel.curtcb, m, op⟩
  have recorded : Recorded s.kernel c :=
    h.mutexes.step (c := call) h.distinct h.running fits stepped
  obtain ⟨kernel, holder⟩ := step_ok stepped
  have aside : AsideTasks s.kernel c.kernel := kernel ▸ asideTasks_mutex ..
  have iott : c.kernel.iott = s.kernel.iott := kernel ▸ svcMutex_iott ..
  have drvcbt : c.kernel.drvcbt = s.kernel.drvcbt := kernel ▸ svcMutex_drvcbt ..
  have other {n : Fin 16} (apart : m ≠ n) (free : s.holder n = none) : c.holder n = none := by
    rw [holder, Function.update_of_ne apart.symm]
    exact free
  refine h.aside aside rfl ?_ ?_ ?_ ⟨other drv h.locks.1, other chan h.locks.2⟩
  · refine h.channels.kept ?_ iott fun d => ?_
    · rw [kernel]
      exact exec_other call s.kernel fun same => chan (Fin.ext same.symm)
    · rw [drvcbt]
      rfl
  · exact h.drivers.kept (fun d => by rw [drvcbt]) fun io _ channel =>
      .inl (channel.same (congrFun iott io))
  · refine ⟨rfl, fun n p holds => ?_⟩
    rw [aside.tct]
    exact recorded.held n p holds

/-- A driver takes the first free slot, which is no channel's. -/
theorem OwnedChannels.registers {c : ChannelRun} (h : OwnedChannels c)
    (drivers : RegisteredFirst c.kernel) {i : Fin maxDrv}
    (free : (c.kernel.drvcbt i).free = true) {b : DRVCB}
    (drvcbt : k'.drvcbt = Function.update c.kernel.drvcbt i b) (iott : k'.iott = c.kernel.iott)
    (chan : k'.mutexes 6 = c.kernel.mutexes 6) : OwnedChannels { c with kernel := k' } := by
  refine ⟨chan.trans h.chan, fun io => ?_, fun io d channel exclusive => ?_⟩
  · show (k'.iott io).driver = none → (k'.iott io).opened = false
    rw [iott]
    exact h.vacant io
  · have channel' : c.kernel.Channel io d :=
      Kernel.Channel.same channel (congrFun iott io)
    have kept (e : Fin maxDrv) (registered : (c.kernel.drvcbt e).free = false) :
        k'.drvcbt e = c.kernel.drvcbt e := by
      rw [drvcbt, Function.update_of_ne]
      rintro rfl
      exact absurd (registered.symm.trans free) (by decide)
    have registered := drivers.channel io d channel'
    have exclusive : (k'.drvcbt d).desc.shareable = false := exclusive
    rw [kept d registered] at exclusive
    have held := h.held io d channel' exclusive
    show k'.HeldBy d (c.opener io)
    unfold Kernel.HeldBy at held ⊢
    rw [kept d registered]
    split_ifs at held ⊢
    · exact held
    · obtain ⟨e, found, alloc, owner⟩ := held
      have here : (c.kernel.drvcbt e).free = false := by
        have passed := List.find?_some found
        simp only [Bool.and_eq_true, Bool.not_eq_true'] at passed
        exact passed.1
      rw [drvcbt]
      refine ⟨e, findDriver_registers drivers.first free found, ?_, ?_⟩
      · rw [← drvcbt, kept e here]
        exact alloc
      · rw [← drvcbt, kept e here]
        exact owner

theorem RegisteredFirst.registers {k : Kernel} (h : RegisteredFirst k) {i : Fin maxDrv}
    (free : (k.drvcbt i).free = true) (before : ∀ j < i, (k.drvcbt j).free = false) {b : DRVCB}
    (taken : b.free = false) (drvcbt : k'.drvcbt = Function.update k.drvcbt i b)
    (iott : k'.iott = k.iott) : RegisteredFirst k' := by
  have other (j : Fin maxDrv) (apart : j ≠ i) : (k'.drvcbt j).free = (k.drvcbt j).free := by
    rw [drvcbt, Function.update_of_ne apart]
  have here : (k'.drvcbt i).free = false := by
    rw [drvcbt, Function.update_self]
    exact taken
  constructor
  · intro j l le empty
    have apart : j ≠ i := by
      rintro rfl
      exact absurd (here.symm.trans empty) (by decide)
    rw [other j apart] at empty
    -- a free slot is above the one that is taken
    have above : i < j := by
      by_contra below
      exact absurd ((before j (lt_of_le_of_ne (not_lt.mp below) apart)).symm.trans empty) (by decide)
    rw [other l (above.trans_le le).ne']
    exact h.first j l le empty
  · intro io d channel
    have channel' : k.Channel io d := channel.same (congrFun iott io)
    by_cases apart : d = i
    · rw [apart]
      exact here
    · rw [other d apart]
      exact h.channel io d channel'

theorem Consistent.drvreg (h : Consistent s) {name : Name} {descriptor : DRVDESC}
    {handler : ADDRESS} (called : s.step (.drvreg name descriptor handler) = .ok s') :
    Consistent s' := by
  have outcome := svcDrvreg_outcome s.kernel s.vectors name descriptor handler
  unfold SystemRun.step at called
  dsimp only at called
  generalize svcDrvreg s.kernel s.vectors name descriptor handler = answer at outcome called
  obtain ⟨rc, k, vectors⟩ := answer
  cases called
  rcases outcome with rfl | ⟨i, free, before, rfl⟩
  · exact h.aside rfl rfl h.channels h.drivers h.mutexes h.locks
  · exact h.aside rfl rfl (h.channels.registers h.drivers free rfl rfl rfl)
      (h.drivers.registers free before rfl rfl rfl) ⟨rfl, h.mutexes.held⟩ h.locks

theorem Consistent.drvctl (h : Consistent s) {drvExec : Fin maxDrv → WORD → Int} {op : WORD}
    {drvnam : Name} (called : s.step (.drvctl drvExec op drvnam) = .ok s') : Consistent s' := by
  cases called
  have outcome := drvStartstop_driver drvExec s.kernel op drvnam
  generalize (drvStartstop drvExec s.kernel op drvnam).2 = k at outcome
  rcases outcome with rfl | ⟨e, rfl⟩
  · exact h
  have same (d : Fin maxDrv) := modifyDriver_driver s.kernel e d op
  refine h.aside rfl rfl (h.channels.kept rfl rfl same) (h.drivers.kept (fun d => ?_)
    fun _ _ channel => .inl channel) ⟨rfl, h.mutexes.held⟩ h.locks
  rw [same]

theorem Consistent.step (h : Consistent s) (op : SystemOp) (proper : op.Proper s)
    (called : s.step op = .ok s') : Consistent s' := by
  cases op with
  | task op => exact h.task proper.1 proper.2 called
  | protmem pid page prot => exact h.protmem proper called
  | channel op =>
    obtain ⟨c, stepped, ret⟩ := bind_ok.mp called
    cases ret
    obtain ⟨free, channel⟩ := ChannelCall.step_drivers h.channels stepped
    exact h.channel (ChannelCall.step_aside stepped) rfl rfl (h.channels.step proper stepped) free
      channel
  | alloc device op =>
    obtain ⟨⟨rc, k'⟩, ran, ret⟩ := bind_ok.mp called
    cases ret
    obtain ⟨iott, free⟩ := svcAlloc_drivers ran
    exact h.channel ((moves_svcAlloc Place.alloc device op.code).run .refl .trans ran) rfl rfl
      (h.channels.alloc proper ran) free fun io _ channel =>
        .inl (channel.same (congrFun iott io))
  | mutex m op => exact h.mutex proper called
  | drvreg name descriptor handler => exact h.drvreg called
  | drvctl drvExec op drvnam => exact h.drvctl called

end Invariant

/-- The kernel as INIT finds it. -/
def bootSystem (entry : ADDRESS) : SystemRun where
  kernel := boot entry
  vectors := fun _ => 0
  created := [1]

theorem bootSystem_consistent (entry : ADDRESS) : Consistent (bootSystem entry) where
  tasks := ⟨_, boot_sound entry⟩
  guarded := ⟨[], boot_guarded entry⟩
  served := ⟨[], boot_kernelSound entry⟩
  channels := ⟨rfl, fun _ _ => rfl, fun _ _ channel => absurd channel.1 Bool.false_ne_true⟩
  drivers := ⟨fun _ _ _ _ => rfl, fun _ _ channel => absurd channel.1 Bool.false_ne_true⟩
  mutexes := ⟨rfl, nofun⟩
  locks := ⟨rfl, rfl⟩

/-- In every run from boot in which the services of all subsystems mix: every task is in
one place, the memory of each task is its own, the kernel keeps its pages, the
channels on an exclusive device are of one task, and so is each mutex. -/
theorem system_holds (entry : ADDRESS) (s : SystemRun)
    (h : Reachable SystemRun.step (fun s op => op.Proper s) (bootSystem entry) s) :
    Placed s.tasks ∧ Confined s.kernel ∧ s.kernel.mmu = s.kernel.cur.mmuState ∧
      KernelKept s.kernel ∧ OneTask s.channels ∧ Exclusive s.mutexes := by
  have consistent : Consistent s :=
    h.invariant Consistent (bootSystem_consistent entry) fun _ op _ consistent proper stepped =>
      consistent.step op proper stepped
  obtain ⟨a, sound⟩ := consistent.tasks
  obtain ⟨rs, guarded⟩ := consistent.guarded
  obtain ⟨rs', served⟩ := consistent.served
  exact ⟨sound.placed, guarded.writes, guarded.mmu, served.kept, consistent.channels.oneTask,
    consistent.mutexes.exclusive consistent.distinct⟩

instance TCB.SetUp.decidable {n : Nat} (t : TCB n) : Decidable t.SetUp :=
  inferInstanceAs (Decidable (_ ∧ _))

instance CallOp.Harmless.decidable (s : TaskRun) : (op : CallOp) → Decidable (op.Harmless s)
  | .task _ => .isTrue trivial
  | .protmem pid page prot =>
    if passed : protmemCheck s.kernel pid page prot = eok then
      if setUp : s.kernel.cur.SetUp then
        if harmless : page ≤ 5 ∨ prot = pdrAccRw ∧
            (page = 6 ∨ s.kernel.cur.ioprv = true ∨ s.kernel.cur.auditprv = true) then
          .isTrue fun _ _ => harmless
        else .isFalse fun h => harmless (h passed setUp)
      else .isTrue fun _ here => absurd here setUp
    else .isTrue fun here => absurd here passed

instance SystemOp.Proper.decidable (s : SystemRun) : (op : SystemOp) → Decidable (op.Proper s)
  | .task op => inferInstanceAs (Decidable (op.OnTask s.tasks ∧ op.Orderly s.tasks))
  | .protmem pid page prot =>
    inferInstanceAs (Decidable (CallOp.InScope s.tasks (.protmem pid page prot) ∧
      CallOp.Mapped s.tasks (.protmem pid page prot) ∧
        CallOp.Harmless s.tasks (.protmem pid page prot)))
  | .channel op =>
    inferInstanceAs (Decidable (ChannelCall.Leaves s.channels ⟨s.kernel.curtcb, op⟩))
  | .alloc device op =>
    inferInstanceAs (Decidable (op = .dealloc → ∀ io d, s.kernel.Channel io d →
      (s.kernel.drvcbt d).desc.shareable = false → (s.kernel.drvcbt d).drvname ≠ device))
  | .mutex m op =>
    inferInstanceAs (Decidable (m ≠ 5 ∧ m ≠ 6 ∧ MutexCall.Fits s.mutexes ⟨s.kernel.curtcb, m, op⟩))
  | .drvreg .. | .drvctl .. => inferInstanceAs (Decidable True)

/-- INIT registers and starts a disk, opens it, takes a mutex and creates a task. The
task gets neither the disk nor the mutex, and protects a page of its own. -/
def systemCalls : List SystemOp :=
  [.drvreg diskName { devname := diskName } 0, .drvctl (fun _ _ => eok) drvStart diskName,
    .channel (.openDev diskName), .mutex 3 .alloc, .task createSmall, .task (.quantum {}),
    .channel (.openDev diskName), .mutex 3 .alloc, .protmem 0 3 pdrAccRo, .protmem 0 3 pdrAccRw]

theorem system_holds_run : ∃ s, exec SystemRun.step (bootSystem 0) systemCalls = .ok s ∧
    s.kernel.curtcb = 1 ∧ s.opener 0 = some 0 ∧ s.holder 3 = some 0 ∧
      Placed s.tasks ∧ Confined s.kernel ∧ s.kernel.mmu = s.kernel.cur.mmuState ∧
        KernelKept s.kernel ∧ OneTask s.channels ∧ Exclusive s.mutexes := by
  have result : succeeds (exec SystemRun.step (bootSystem 0) systemCalls) (fun s =>
      s.kernel.curtcb = 1 ∧ s.opener 0 = some 0 ∧ s.holder 3 = some 0) = true := by
    decide +kernel
  have proper : Meets SystemRun.step (fun s op => op.Proper s) (bootSystem 0) systemCalls := by
    decide +kernel
  obtain ⟨s, ran, facts⟩ := succeeds_iff.mp result
  obtain ⟨cur, opener, holder⟩ := of_decide_eq_true facts
  exact ⟨s, ran, cur, opener, holder, system_holds 0 s (reachable_exec proper ran)⟩

end Muxx
