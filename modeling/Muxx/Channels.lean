import Muxx.Devices
import Muxx.Lib.Interleaving
import Muxx.Tasks

/-!
# Channels

muxx_locate_pdev of muxx_drvctl.c, muxx_svc_open and muxx_svc_close of
muxx_channels.c, and the machine that runs the system calls of all tasks, with
the clock taking the processor from a task between any two of its actions:

* `locatePdev_root`: what the search for a device finds;
* `svcOpen`, `svcClose`: the two services;
* `kernelMachine`: the tasks' system calls and the clock.
-/

namespace Muxx

open Prog

/-! ## Device names -/

/-- The characters of `wdev`: the eight of the name and a NUL. -/
def wdev (devname : Name) (i : Int) : BYTE :=
  if h : i.toNat < 8 then devname ⟨i.toNat, h⟩ else 0

def strlen (devname : Name) : Nat := (List.ofFn devname).findIdx (· = 0)

/-- Where the loop over trailing blanks ends when it starts at `i`. -/
def trimBlanks (devname : Name) : Nat → Int
  | 0 => if wdev devname 0 = 0x20 then -1 else 0
  | i + 1 => if wdev devname (i + 1) = 0x20 then trimBlanks devname i else i + 1

/-- `memcmp(a, b, l) == 0`; a negative `l` is a size no two names share. -/
def memcmp (a b : Name) (l : Int) : Bool := 0 ≤ l && decide (∀ i : Fin 8, i.val < l → a i = b i)

def isdigit (c : BYTE) : Bool := 0x30 ≤ c && c ≤ 0x39

def isalpha (c : BYTE) : Bool := (0x41 ≤ c && c ≤ 0x5a) || (0x61 ≤ c && c ≤ 0x7a)

/-- The variables of the loop over the drivers. -/
structure Located where
  l : Int
  controller : BYTE := 0
  unit : BYTE := 0

/-- One driver that is not free: whether it is the one, and the variables. -/
def checkDriver (devname root : Name) (v : Located) : Bool × Located :=
  if memcmp devname root v.l then (true, { v with controller := 0, unit := 0 })
  else if isdigit (wdev devname v.l) then
    let v := { v with unit := wdev devname v.l, l := v.l - 1 }
    if memcmp devname root v.l then (true, { v with controller := 0 })
    else if isalpha (wdev devname v.l) then
      let v := { v with controller := wdev devname v.l }
      (memcmp devname root v.l, v)
    else (false, v)
  else (false, v)

def locateLoop (drvcbt : Fin maxDrv → DRVCB) (devname : Name) :
    List (Fin maxDrv) → Located → Option (Fin maxDrv × Located)
  | [], _ => none
  | i :: is, v =>
    if (drvcbt i).free then locateLoop drvcbt devname is v
    else
      match checkDriver devname (drvcbt i).desc.devname v with
      | (true, v) => some (i, v)
      | (false, v) => locateLoop drvcbt devname is v

/-- The driver, the controller and the unit that muxx_locate_pdev finds. -/
def locatePdev (drvcbt : Fin maxDrv → DRVCB) (devname : Name) :
    Option (Fin maxDrv × Located) :=
  locateLoop drvcbt devname (List.finRange maxDrv) { l := trimBlanks devname (strlen devname) }

section Locate
variable {drvcbt : Fin maxDrv → DRVCB} {devname : Name} {d : Fin maxDrv} {v v' : Located}

theorem wdev_strlen (devname : Name) : wdev devname (strlen devname) = 0 := by
  unfold wdev
  split
  case isTrue short =>
    have within : (List.ofFn devname).findIdx (· = 0) < (List.ofFn devname).length := by
      rw [List.length_ofFn]
      exact short
    have stop := List.findIdx_getElem (w := within)
    rw [List.getElem_ofFn] at stop
    exact of_decide_eq_true stop
  case isFalse => rfl

/-- The loop over trailing blanks stops at the NUL where it starts. -/
theorem trimBlanks_strlen (devname : Name) :
    trimBlanks devname (strlen devname) = strlen devname := by
  have nul := wdev_strlen devname
  cases length : strlen devname with
  | zero => rw [length] at nul; simp_all [trimBlanks]
  | succ n => rw [length] at nul; simp_all [trimBlanks]

/-- So the character after the name is never a unit. -/
theorem checkDriver_strlen (root : Name) (h : v.l = strlen devname) :
    checkDriver devname root v =
      if memcmp devname root v.l then (true, { v with controller := 0, unit := 0 })
      else (false, v) := by
  unfold checkDriver
  rw [h, wdev_strlen]
  rfl

theorem locateLoop_root {is : List (Fin maxDrv)} (h : v.l = strlen devname) :
    locateLoop drvcbt devname is v =
      (is.find? fun i => !(drvcbt i).free &&
        memcmp devname (drvcbt i).desc.devname (strlen devname)).map
      (·, { v with controller := 0, unit := 0 }) := by
  induction is with
  | nil => rfl
  | cons i is ih =>
    rw [locateLoop, checkDriver_strlen _ h, List.find?_cons]
    cases free : (drvcbt i).free <;>
      cases same : memcmp devname (drvcbt i).desc.devname (strlen devname) <;>
      simp [h, same, ih]

/-- The search finds the first driver that begins with the whole name, without
controller or unit. -/
theorem locatePdev_root : locatePdev drvcbt devname =
    ((List.finRange maxDrv).find? fun i => !(drvcbt i).free &&
      memcmp devname (drvcbt i).desc.devname (strlen devname)).map
    (·, { l := strlen devname }) := by
  rw [locatePdev, trimBlanks_strlen, locateLoop_root rfl]

theorem locatePdev_free (found : locatePdev drvcbt devname = some (d, v)) :
    (drvcbt d).free = false := by
  rw [locatePdev_root] at found
  obtain ⟨i, first, same⟩ := Option.map_eq_some_iff.mp found
  cases same
  have passed := List.find?_some first
  simp only [Bool.and_eq_true, Bool.not_eq_true'] at passed
  exact passed.1

end Locate

/-! ## The services -/

/-- The statements of the system calls that read or write what tasks share. -/
inductive Place
  | alloc (step : AllocStep)
  | openLock | opening | openAlloc (step : AllocStep) | openUnlock
  | closeLock | closeTest (io : Fin iotSentries) | closing | closeAlloc (step : AllocStep) | closeUnlock
  | mutex
  deriving DecidableEq

abbrev Service := Prog Place Kernel Fault

def findFreeIote (iott : Fin iotSentries → IOTE) : Option (Fin iotSentries) :=
  (List.finRange iotSentries).find? fun i => (iott i).driver = none

/-- The free entry an open takes is not an open channel. -/
theorem findFreeIote_driver {iott : Fin iotSentries → IOTE} {io : Fin iotSentries}
    (found : findFreeIote iott = some io) : (iott io).driver = none := by
  simpa using List.find?_some found

namespace Kernel

def modifyIote (k : Kernel) (io : Fin iotSentries) (f : IOTE → IOTE) : Kernel :=
  { k with iott := Function.update k.iott io (f (k.iott io)) }

/-- `errno` is a word of the running task. -/
def setErrno (k : Kernel) (rc : Int) : Kernel :=
  { k with t_errno := Function.update k.t_errno k.curtcb rc }

end Kernel

theorem setErrno_errno (k : Kernel) (rc : Int) : (k.setErrno rc).t_errno k.curtcb = rc :=
  Function.update_self ..

section
variable {α : Type} (pt : Place) (io : Fin iotSentries)

def readIote (f : IOTE → α) : Service α := read pt fun k => f (k.iott io)

def writeIote (f : IOTE → IOTE) : Service Unit := write pt (·.modifyIote io f)

/-- A field of `io->driver`. -/
def readDriver (f : DRVCB → α) : Service α := do
  match ← read pt fun k => (k.iott io).driver.map fun d => f (k.drvcbt d) with
  | some a => return a
  | none => stop .nullref

def allocateIobuffer (_size : WORD) : Service (Option ADDRESS) := do
  write pt (·.setErrno enoimpl)
  return none

def deallocateIobuffer (_pbuf : Option ADDRESS) : Service Int := do
  write pt (·.setErrno enoimpl)
  return enoimpl

end

/-- muxx_locate_dev: fills in `io` when there is such a device. -/
def locateDev (device : Name) (io : Fin iotSentries) : Service Int :=
  call .opening fun k =>
    match locatePdev k.drvcbt device with
    | some (d, v) =>
      (eok, k.modifyIote io ({ · with driver := d, controller := v.controller, unit := v.unit }))
    | none => (enotfound, k)

/-- Get the device for the caller if it is nobody's, or see that it is his. -/
def claimDriver (io : Fin iotSentries) : Service Int := do
  if ← readDriver .opening io (·.alloc) then
    let caller ← read .opening (·.curtcb)
    if (← readDriver .opening io (·.ownerid)) = some caller then
      return eok
    else
      writeIote .opening io ({ · with error := enoavail })
      return enoavail
  else
    let drvname ← readDriver .opening io (·.drvname)
    let rc ← svcAlloc .openAlloc drvname drvAlloc
    (if rc = eok then writeIote .opening io ({ · with dealloc := true })
      else writeIote .opening io ({ · with error := rc }))
    return rc

/-- The last part of an open that has found no error: `buffered` is a one-bit
`int` and never equals 1. -/
def finishOpen (io : Fin iotSentries) (rc : Int) : Service Int := do
  if (← readDriver .opening io (bitfield ·.desc.buffered)) = 1 then
    let buffer ← allocateIobuffer .opening (← readDriver .opening io (·.desc.defbufsiz))
    writeIote .opening io ({ · with buffaddr := buffer })
    if (← readIote .opening io (·.buffaddr)) = none then
      read .opening fun k => k.t_errno k.curtcb
    else
      writeIote .opening io ({ · with opened := true })
      return rc
  else
    writeIote .opening io ({ · with opened := true })
    return rc

def openDriver (io : Fin iotSentries) : Service Int := do
  if ← readDriver .opening io (·.active) then
    writeIote .opening io
      ({ · with opened := false, eof := false, ioerror := false, dealloc := false })
    writeIote .opening io ({ · with error := eok })
    writeIote .opening io ({ · with position := 0 })
    let shareable ← readDriver .opening io (·.desc.shareable)
    let rc ← (if shareable then pure eok else claimDriver io)
    if (← readIote .opening io (·.error)) = eok then finishOpen io rc else return rc
  else
    return eoffline

/-- What muxx_svc_open does while it has MUT_CHAN. -/
def openChannel (device : Name) : Service (Int × Option (Fin iotSentries)) := do
  match ← read .opening fun k => findFreeIote k.iott with
  | none => return (enosysres, none)
  | some io =>
    let rc ← locateDev device io
    if rc = eok then
      return (← openDriver io, some io)
    else
      return (rc, some io)

/-- An open that does not get MUT_CHAN tries to let go of it all the same. -/
def svcOpen (device : Name) : Service (Option (Fin iotSentries)) := do
  let rc ← call .openLock (svcMutex · mutChan mutAlloc)
  let (rc, io) ← (if rc = eok then openChannel device else pure (rc, none))
  let rc1 ← call .openUnlock (svcMutex · mutChan mutDealloc)
  if rc1 = eok then
    if rc = eok then
      return io
    else
      write .opening (·.setErrno rc)
      return none
  else
    stop (.panic "muxx_svc_open: dealloc mutex")

/-- What muxx_svc_close does to a channel that gives the device back. -/
def closeDealloc (io : Fin iotSentries) : Service Unit := do
  let drvname ← readDriver .closing io (·.drvname)
  let rc ← svcAlloc .closeAlloc drvname drvDealloc
  if rc = eok then return () else stop (.panic "muxx_svc_close")

def closeOpen (io : Fin iotSentries) : Service Int := do
  let dealloc ← readIote .closing io (·.dealloc)
  (if dealloc then closeDealloc io else pure ())
  writeIote .closing io ({ · with opened := false })
  writeIote .closing io ({ · with driver := none })
  writeIote .closing io ({ · with controller := 0 })
  writeIote .closing io ({ · with unit := 0 })
  let buffer ← readIote .closing io (·.buffaddr)
  if buffer = none then
    return eok
  else
    let _ ← deallocateIobuffer .closing buffer
    return eok

/-- What muxx_svc_close does while it has MUT_CHAN. -/
def closeChannel (io : Fin iotSentries) : Service Int := do
  if ← readIote (.closeTest io) io (·.opened) then closeOpen io else return enotopen

def svcClose (io : Fin iotSentries) : Service Int := do
  let rc ← call .closeLock (svcMutex · mutChan mutAlloc)
  let rc ← (if rc = eok then closeChannel io else pure rc)
  let rc1 ← call .closeUnlock (svcMutex · mutChan mutDealloc)
  if rc1 = eok then
    write .closing (·.setErrno rc)
    return rc
  else
    stop (.panic "muxx_svc_close: dealloc mutex")

/-! ## The machine -/

inductive SysCall
  | alloc (devnam : Name) (op : WORD)
  | openDev (device : Name)
  | close (io : Fin iotSentries)
  | mutex (mutex op : WORD)

inductive Answer
  | code (rc : Int)
  | channel (io : Option (Fin iotSentries))

def SysCall.program : SysCall → Service Answer
  | alloc devnam op => return .code (← svcAlloc .alloc devnam op)
  | openDev device => return .channel (← svcOpen device)
  | close io => return .code (← svcClose io)
  | mutex m op => return .code (← call .mutex (svcMutex · m op))

/-- The clock gives the processor to `task`. Of the registers it saves, the
priority is what the system calls depend on. -/
def preempt (task : Fin maxTasks) (k : Kernel) : Kernel :=
  muxxSwitch ((copytrapfp k { psw := BitVec.ofNat 16 k.ipl <<< 5 }).withCur task)

/-- A trap starts at priority 0 and goes back to a task at priority 0. The clock
interrupts below its own priority, and any task that exists may be the next. -/
def kernelMachine : Machine (Fin maxTasks) Place Kernel Kernel Fault SysCall Answer where
  view := id
  put _ k := k
  running := Kernel.curtcb
  program := SysCall.program
  enter := (·.setpl 0)
  leave := (·.setpl 0)
  canSwitch task k := k.ipl < clkPl && (k.tct task).pid != 0
  switch := preempt

/-- No system call is in progress. -/
def Kernel.idle (k : Kernel) : Config (Fin maxTasks) Place Kernel Kernel Fault Answer :=
  ⟨k, fun _ => none⟩

theorem modify_pid (k : Kernel) (i j : Fin maxTasks) (f : TCB maxTasks → TCB maxTasks)
    (same : ∀ tcb, (f tcb).pid = tcb.pid) : ((k.modify j f).tct i).pid = (k.tct i).pid := by
  unfold Kernel.modify
  by_cases here : i = j
  · subst here
    rw [Kernel.setTcb_self, same]
  · rw [Kernel.setTcb_ne _ _ here]

theorem preempt_pid (task i : Fin maxTasks) (k : Kernel) :
    ((preempt task k).tct i).pid = (k.tct i).pid := by
  have saved : ((copytrapfp k { psw := BitVec.ofNat 16 k.ipl <<< 5 }).tct i).pid =
      (k.tct i).pid := modify_pid _ _ _ _ fun _ => rfl
  exact (modify_pid ((copytrapfp k _).withCur task) i task ({ · with status := .run })
    fun _ => rfl).trans saved

end Muxx
