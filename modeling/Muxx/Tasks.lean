import Mathlib.Data.Fin.VecNotation
import Muxx.Queue
import Muxx.TaskMemory

/-!
# Tasks

Creation (muxx_taskinit.c, muxx_creprc.c), dispatch (muxx_schedule.c,
muxx_switch.s, muxx_yield.c, the quantum check of muxx_clock_svc.c) and the
yield and suspend services of muxx_systrap_svc.c, over the whole kernel state.
-/

namespace Muxx

open Chain Fallible

namespace Kernel

def modify (k : Kernel) (i : Fin maxTasks) (f : TCB maxTasks → TCB maxTasks) : Kernel :=
  k.setTcb i (f (k.tct i))

def addReady (k : Kernel) (task : Fin maxTasks) : Except Fault Kernel := do
  let (tct, readyq) ← qAddTask k.tct k.readyq task
  return { k with tct := tct, readyq := readyq }

def addSusp (k : Kernel) (task : Fin maxTasks) : Except Fault Kernel := do
  let (tct, suspq) ← qAddTask k.tct k.suspq task
  return { k with tct := tct, suspq := suspq }

def removeReady (k : Kernel) (task : Fin maxTasks) : Except Fault Kernel := do
  let (_, tct, readyq) ← qRemoveTask k.tct k.readyq task
  return { k with tct := tct, readyq := readyq }

end Kernel

/-! ## Creation -/

/-- What muxx_tcbinit does not clear stays: the name, the type and the links. -/
def tcbinit {n : Nat} (tcb : TCB n) : TCB n where
  taskname := tcb.taskname
  taskType := tcb.taskType
  nextInQueue := tcb.nextInQueue
  prevInQueue := tcb.prevInQueue

/-- The pid after the highest one assigned. -/
def assignPid (top min max : WORD) (exhausted : String) : Except Fault WORD :=
  let top := if top = 0 then min else top
  if top + 1 > max then .error (.panic exhausted) else .ok (top + 1)

/-- System pids for the types SYS_TASK and DRV_TASK as such. A type that also
carries a size gets a user pid. -/
def newPid (k : Kernel) (type : WORD) : Except Fault (WORD × Kernel) := do
  if type = sysTask ∨ type = drvTask then
    let pid ← assignPid k.topspid minspid maxspid "REUSESPID"
    return (pid, { k with topspid := pid })
  else
    let pid ← assignPid k.topupid minupid maxupid "REUSEUPID"
    return (pid, { k with topupid := pid })

/-- The search for a free entry, which takes entry 0 for "none". -/
def freeTcb (k : Kernel) : Fin maxTasks :=
  firstFound fun i => (k.tct i).pid == 0

def initTcb (tcb : TCB maxTasks) (pid type ppid entry privs : WORD) : TCB maxTasks :=
  { tcbinit tcb with
    pid := pid
    ppid := ppid
    taskType := type
    privileges := privs
    cpuState := {
      pc := entry
      psw := 0xC000
      sp := topStack - krnStack - 2
      usp := topStack - krnStack - 2
      ksp := topStack - 2 } }

/-- Answers an error code or the index of the new task. -/
def taskinit (k : Kernel) (type ppid entry privs : WORD) :
    Except Fault (Except Int (Fin maxTasks) × Kernel) := do
  if k.curtasks.toNat ≥ maxTasks then return (.error emaxtask, k)
  let (pid, k) ← newPid k type
  if pid = 0 then return (.error enopid, k)
  let found := freeTcb k
  if found = 0 then throw (.panic "TCT full")
  return (.ok found, k.setTcb found (initTcb (k.tct found) pid type ppid entry privs))

/-- The part creprc and loadprc share: a new task with its memory, or `none`
when its memory could not be set up. An error code of muxx_taskinit is used as
an index. -/
def newTask (k : Kernel) (name : Name) (type entry privs : WORD) :
    Except Fault (Option (Fin maxTasks) × Kernel) := do
  let (pididx, k) ← taskinit k type k.cur.pid entry privs
  match pididx with
  | .error _ => throw .outside
  | .ok i =>
    let (rc, tcb, mmcbt) ← setupTaskmem { k.tct i with taskname := name } k.mmcbt
    return (if rc = eok then some i else none, { k.setTcb i tcb with mmcbt := mmcbt })

def svcCreprc (k : Kernel) (name : Name) (type entry privs : WORD) :
    Except Fault (Int × Kernel) := do
  let (new, k) ← newTask k name type entry privs
  match new with
  | none => return (-1, k)
  | some i =>
    let k ← k.addReady i
    return ((k.tct i).pid.toNat, k)

def findtcb (k : Kernel) (pid : WORD) : Option (Fin maxTasks) :=
  if pid = 0 then some k.curtcb
  else (List.finRange maxTasks).find? fun i => (k.tct i).pid == pid

/-- muxx_findtcb finds the tasks there are. -/
theorem findtcb_some (k : Kernel) (i : Fin maxTasks) : ∃ j, findtcb k (k.tct i).pid = some j := by
  unfold findtcb
  split
  · exact ⟨_, rfl⟩
  · apply Option.isSome_iff_exists.mp
    rw [List.find?_isSome]
    exact ⟨i, List.mem_finRange i, beq_self_eq_true _⟩

/-- The return code of muxx_svc_xcopy. The bytes it copies from one task's
memory to another's are no part of this state. -/
def svcXcopy (k : Kernel) (dstpid srcpid : WORD) (size : Nat) : Except Fault Int :=
  if size = 0 then .ok eok
  else
    match findtcb k srcpid with
    | none => .error .nullref
    | some srctcb =>
      if (k.tct srctcb).uic = k.cur.uic ∨ k.cur.operprv ∨ k.cur.auditprv then
        match findtcb k dstpid with
        | none => .error .nullref
        | some dsttcb =>
          if (k.tct dsttcb).uic = k.cur.uic ∨ k.cur.operprv then .ok eok else .ok enopriv
      else .ok enopriv

/-- `rshell` is the address of that function, `file` the length of the name. -/
def svcLoadprc (k : Kernel) (name : Name) (type rshell : WORD) (file : Nat) (privs : WORD) :
    Except Fault (Int × Kernel) := do
  let (new, k) ← newTask k name type rshell privs
  match new with
  | none => return (-1, k)
  | some i =>
    let rc ← svcXcopy k (k.tct i).pid k.cur.pid file
    if rc ≥ 0 then
      let k ← k.addReady i
      return ((k.tct i).pid.toNat, k)
    else throw (.panic "Abort creating task - LOADPRC")

/-! ## Dispatch -/

/-- Save the registers of the trap frame into the running task. -/
def copytrapfp (k : Kernel) (fp : FRAME) : Kernel :=
  k.modify k.curtcb fun tcb =>
    { tcb with cpuState := {
        gpr := fp.gpr, pc := fp.pc, psw := fp.psw, ksp := fp.ksp, usp := fp.usp
        sp := if fp.psw &&& 0xC000 = 0xC000 then fp.usp else fp.ksp } }

def copyMMUstate (k : Kernel) : Kernel :=
  k.modify k.curtcb fun tcb => { tcb with mmuState := k.mmu }

/-- Load the registers of the running task; its saved PSW sets the priority. -/
def muxxSwitch (k : Kernel) : Kernel :=
  { k.modify k.curtcb fun tcb => { tcb with status := .run } with
    mmu := k.cur.mmuState
    ipl := ((k.cur.cpuState.psw >>> 5) &&& (7 : WORD)).toNat }

def schedule (k : Kernel) : Except Fault Kernel := do
  let (task, tct, readyq) ← qGetTask k.tct k.readyq
  return muxxSwitch { k.setpl7 with tct := tct, readyq := readyq, curtcb := task }

def svcYield (k : Kernel) (fp : FRAME) : Except Fault Kernel := do
  let k ← (k.setpl7.modify k.curtcb fun tcb => { tcb with status := .ready }).addReady k.curtcb
  schedule (copyMMUstate (copytrapfp k fp))

def muxxYield (k : Kernel) : Except Fault Kernel :=
  (k.modify k.curtcb fun tcb => { tcb with status := .ready }).addReady k.curtcb

/-- The quantum check saves no MMU state. -/
def checkQuantums (k : Kernel) (fp : FRAME) : Except Fault Kernel := do
  if k.readyq.count > 0 then
    schedule (← muxxYield (copytrapfp k.setpl7 fp))
  else
    return k

/-- The caller, or the task of the argument. -/
def suspendTarget (k : Kernel) (task : Option (Fin maxTasks)) : Fin maxTasks :=
  task.getD k.curtcb

/-- A task without OPERPRV may suspend tasks of its own UIC. -/
def maySuspend (k : Kernel) (theTask : Fin maxTasks) : Bool :=
  k.cur.operprv || k.cur.uic == (k.tct theTask).uic

/-- The return code is `none` when another task runs afterwards. -/
def svcSuspend (k : Kernel) (fp : FRAME) (task : Option (Fin maxTasks)) :
    Except Fault (Option Int × Kernel) := do
  let theTask := suspendTarget k task
  if maySuspend k theTask then
    let curpl := k.ipl
    let k ← k.setpl7.removeReady theTask
    let k ← (k.modify theTask fun tcb => { tcb with status := .susp }).addSusp theTask
    if theTask = k.curtcb then
      return (none, ← schedule (copyMMUstate (copytrapfp k fp)))
    return (some eok, k.setpl curpl)
  else
    return (some enopriv, k)

/-! ## Runs -/

def initMmu : MMUSTATE where
  upar := ![0, 0o200, 0o400, 0, 0, 0, 0o500, 0o7600]
  updr := ![0x7F06, 0x7F06, 0x7F06, 0, 0, 0, 0x400E, 0x7F04]
  kpar := ![0, 0o200, 0o400, 0, 0, 0, 0o500, 0o7600]
  kpdr := ![0x7F06, 0x7F06, 0x7F06, 0, 0, 0, 0x400E, 0x7F06]

/-- The task muxx_fakeproc builds. `entry` is the address of init. -/
def fakeproc (entry : ADDRESS) : TCB maxTasks where
  taskname := ![0x49, 0x4E, 0x49, 0x54, 0x20, 0x20, 0x20, 0x20]
  pid := 1
  uic := 1
  privileges := 7
  cpuState := {
    pc := entry
    psw := 0xC000
    sp := topStack - krnStack - 2
    usp := topStack - krnStack - 2
    ksp := topStack - 2 }
  mmuState := initMmu
  taskTUCB := 8192 * 3 - 64

/-- The kernel once sysstart has switched to INIT. -/
def boot (entry : ADDRESS) : Kernel :=
  muxxSwitch {
    tct := fun i => if i = 0 then fakeproc entry else {}
    curtcb := 0
    topspid := 1
    mmcbt := memInit }

inductive TaskOp
  | creprc (name : Name) (type entry privs : WORD)
  | loadprc (name : Name) (type rshell : WORD) (file : Nat) (privs : WORD)
  | yield (fp : FRAME)
  | suspend (fp : FRAME) (task : Option (Fin maxTasks))
  | quantum (fp : FRAME)

/-- The kernel and the pids that creations have returned so far. -/
structure TaskRun where
  kernel : Kernel
  created : List WORD

/-- INIT is there from the start. -/
def bootRun (entry : ADDRESS) : TaskRun := ⟨boot entry, [1]⟩

/-- A creation succeeds when it returns a pid. -/
def TaskRun.returned (s : TaskRun) : Int × Kernel → TaskRun
  | (rc, k) => ⟨k, if rc > 0 then BitVec.ofInt 16 rc :: s.created else s.created⟩

def TaskRun.step (s : TaskRun) : TaskOp → Except Fault TaskRun
  | .creprc name type entry privs => do
    return s.returned (← svcCreprc s.kernel name type entry privs)
  | .loadprc name type rshell file privs => do
    return s.returned (← svcLoadprc s.kernel name type rshell file privs)
  | .yield fp => do return { s with kernel := ← svcYield s.kernel fp }
  | .suspend fp task => do return { s with kernel := (← svcSuspend s.kernel fp task).2 }
  | .quantum fp => do return { s with kernel := ← checkQuantums s.kernel fp }

/-- The argument of a suspension is a task. -/
def TaskOp.OnTask (s : TaskRun) : TaskOp → Prop
  | .suspend _ task => (s.kernel.tct (suspendTarget s.kernel task)).pid ≠ 0
  | _ => True

instance TaskOp.OnTask.decidable (s : TaskRun) : (op : TaskOp) → Decidable (op.OnTask s)
  | .suspend .. => inferInstanceAs (Decidable (_ ≠ _))
  | .creprc .. | .loadprc .. | .yield _ | .quantum _ => inferInstanceAs (Decidable True)

end Muxx
