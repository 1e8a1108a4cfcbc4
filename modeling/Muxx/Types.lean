import Mathlib.Data.Fintype.Pi
import Mathlib.Data.BitVec

/-! The kernel's tables and constants. Names are those of muxx.h, muxxdef.h,
errors.h, queues.h, CONFIG.s and SCB.s, without the `muxx_` prefix.

A pointer into a table is an index into it and NULL is `none`. Machine words
keep their 16 bits; `int` return codes are integers. -/
namespace Muxx

abbrev BYTE := BitVec 8
abbrev WORD := BitVec 16
abbrev LONGWORD := BitVec 32
abbrev ADDRESS := WORD

/-! ## CONFIG.s -/

abbrev maxTasks : Nat := 16
abbrev maxDrv : Nat := 8
abbrev memNmcbs : Nat := 128
abbrev iotSentries : Nat := 16
abbrev drvBufsiz : WORD := 2048
abbrev krnStack : WORD := 1024
abbrev topStack : WORD := 0o160000
abbrev taskBase : WORD := 0o060000
abbrev clkFreq : WORD := 60
/-- Interrupt priority of the line clock. -/
abbrev clkPl : Nat := 6

/-! The tables have a first entry. -/
instance maxTasks.neZero : NeZero maxTasks := ⟨by decide⟩
instance maxDrv.neZero : NeZero maxDrv := ⟨by decide⟩
instance memNmcbs.neZero : NeZero memNmcbs := ⟨by decide⟩

/-! ## errors.h -/

abbrev eok : Int := 0
abbrev enomem : Int := -1
abbrev emaxtask : Int := -2
abbrev enopid : Int := -3
abbrev etctfull : Int := -4
abbrev einvval : Int := -6
abbrev enopriv : Int := -7
abbrev elocked : Int := -8
abbrev enoavail : Int := -9
abbrev enotalloc : Int := -10
abbrev enotfound : Int := -11
abbrev eoffline : Int := -13
abbrev enotopen : Int := -14
abbrev enosysres : Int := -15
abbrev enoimpl : Int := -999

/-! ## muxxdef.h -/

abbrev sysTask : WORD := 0
abbrev usrTask : WORD := 1
abbrev drvTask : WORD := 2

abbrev tszMed : WORD := 0o10
abbrev tszBig : WORD := 0o20
abbrev tszSmalls : WORD := 0

/-- TSK_INIT to TSK_DISPOSE. -/
inductive Status
  | init | ready | blocked | run | susp | dispose
  deriving DecidableEq, Repr

abbrev mutMutexes : WORD := 16
abbrev mutDrv : WORD := 5
abbrev mutChan : WORD := 6

abbrev mutRead : WORD := 0
abbrev mutAlloc : WORD := 1
abbrev mutDealloc : WORD := 2

abbrev drvAlloc : WORD := 0
abbrev drvDealloc : WORD := 1

abbrev pdrAccRw : WORD := 0x0006
abbrev pdrAccRo : WORD := 0x0002
abbrev pdrAccNa : WORD := 0x0000
abbrev pdrDirUp : WORD := 0x0000
abbrev pdrDirDn : WORD := 0x0008
abbrev pdrSiz0k : WORD := 0x0000
abbrev pdrSiz1k : WORD := 0x1000
abbrev pdrSiz4k : WORD := 0x4000
abbrev pdrSiz8k : WORD := 0x7F00

abbrev mmcbFlgShr : WORD := 0x0001
abbrev mmcbFlgFix : WORD := 0x0002
abbrev mmcbFlgPrv : WORD := 0x0004
abbrev mmcbFlgIo : WORD := 0x0008
abbrev mmcbFlgStk : WORD := 0x0010
abbrev mmcbFlgBuf : WORD := 0x0020

/-! ## Tasks -/

structure CPUSTATE where
  gpr : Fin 6 → WORD := fun _ => 0
  sp : WORD := 0
  pc : WORD := 0
  psw : WORD := 0
  usp : WORD := 0
  ksp : WORD := 0
  deriving DecidableEq

/-- The page address and descriptor registers of user and kernel mode. -/
structure MMUSTATE where
  upar : Fin 8 → WORD := fun _ => 0
  updr : Fin 8 → WORD := fun _ => 0
  kpar : Fin 8 → WORD := fun _ => 0
  kpdr : Fin 8 → WORD := fun _ => 0
  deriving DecidableEq

/-- The registers a trap or an interrupt pushed, with the address of its PC
word and the user stack pointer at the time. -/
structure FRAME where
  gpr : Fin 6 → WORD := fun _ => 0
  pc : WORD := 0
  psw : WORD := 0
  ksp : WORD := 0
  usp : WORD := 0

/-- A task control block in a table of `n`. -/
structure TCB (n : Nat) where
  taskname : Fin 8 → BYTE := fun _ => 0
  pid : WORD := 0
  ppid : WORD := 0
  uic : LONGWORD := 0
  status : Status := .init
  flags : WORD := 0
  privileges : WORD := 0
  taskType : WORD := 0
  taskTUCB : ADDRESS := 0
  firstChild : Option (Fin n) := none
  lastChild : Option (Fin n) := none
  nextSibling : Option (Fin n) := none
  nextInQueue : Option (Fin n) := none
  prevInQueue : Option (Fin n) := none
  cpuState : CPUSTATE := {}
  mmuState : MMUSTATE := {}
  clockTicks : LONGWORD := 0
  created_timestamp : LONGWORD := 0
  deriving DecidableEq

section
variable {n : Nat} (t : TCB n)

def TCB.operprv : Bool := t.privileges.getLsbD 0
def TCB.ioprv : Bool := t.privileges.getLsbD 1
def TCB.auditprv : Bool := t.privileges.getLsbD 2

end

structure TQUEUE (n : Nat) where
  head : Option (Fin n) := none
  tail : Option (Fin n) := none
  count : Nat := 0
  deriving DecidableEq

/-! ## Memory -/

abbrev PMMCB := Option (Fin memNmcbs)

/-- One chunk of physical memory, counted in blocks of 64 bytes. -/
structure MMCB where
  blockAddr : WORD := 0
  blockSize : WORD := 0
  ownerPID : WORD := 0
  ownerPAR : WORD := 0
  nextBlock : PMMCB := none
  prevBlock : PMMCB := none
  mmcbFlags : WORD := 0
  deriving DecidableEq

structure MMCBT where
  numEntries : WORD := 0
  mmcbt : Fin memNmcbs → MMCB := fun _ => {}
  deriving DecidableEq

/-! ## Devices and channels -/

/-- Eight characters of a device or driver name. -/
abbrev Name := Fin 8 → BYTE

structure DRVISR where
  handler : ADDRESS
  vector : ADDRESS
  ilevel : WORD
  deriving DecidableEq

/-- A driver descriptor without its callbacks. The attribute bits are one-bit
`int` fields, and the table of interrupt routines has `numisr` entries. -/
structure DRVDESC where
  shareable : Bool := false
  buffered : Bool := false
  devname : Name := fun _ => 0
  defbufsiz : WORD := 0
  isrtable : List DRVISR := []
  deriving DecidableEq

structure DRVCB where
  drvname : Name := fun _ => 0
  desc : DRVDESC := {}
  free : Bool := false
  loaded : Bool := false
  active : Bool := false
  stopped : Bool := false
  alloc : Bool := false
  taskid : ADDRESS := 0
  ownerid : Option (Fin maxTasks) := none
  deriving DecidableEq

/-- An I/O table entry; the flags are those of its status word. -/
structure IOTE where
  driver : Option (Fin maxDrv) := none
  opened : Bool := false
  eof : Bool := false
  ioerror : Bool := false
  dealloc : Bool := false
  position : LONGWORD := 0
  controller : BYTE := 0
  unit : BYTE := 0
  error : Int := 0
  buffaddr : Option ADDRESS := none
  deriving DecidableEq

/-- The tables muxx_drvinit and muxx_iottinit leave. -/
def drvInit : Fin maxDrv → DRVCB := fun _ => { drvname := fun _ => 0x20, free := true }

def iottInit : Fin iotSentries → IOTE := fun _ => {}

/-- What C reads from a one-bit `int` bit-field: 0 or -1. -/
def bitfield (b : Bool) : Int := if b then -1 else 0

/-! ## The kernel -/

/-- How a kernel path can fail to come back. -/
inductive Fault
  /-- `panic()` halts the machine with a message. -/
  | panic (msg : String)
  /-- A loop that never ends. -/
  | hang
  /-- A field of a null pointer is read or written. -/
  | nullref
  /-- An index outside its table is used. -/
  | outside
  deriving DecidableEq, Repr

/-- The faults in which the kernel does nothing wrong: it gives up, or it never
comes back. -/
def Fault.Stops : Fault → Prop
  | .panic _ | .hang => True
  | .nullref | .outside => False

/-- The system control block and the tables it points to. `mutexes` is the
memory from `muxx_mutexes` on, of which the first 16 bytes are the table, and
`t_errno` is the word of that name in each task's TUCB. -/
structure Kernel where
  tct : Fin maxTasks → TCB maxTasks
  curtcb : Fin maxTasks
  curtasks : WORD := 0
  readyq : TQUEUE maxTasks := {}
  suspq : TQUEUE maxTasks := {}
  topspid : WORD := 0
  topupid : WORD := 0
  mmcbt : MMCBT
  mmu : MMUSTATE := {}
  ipl : Nat := 0
  mutexes : Nat → BYTE := fun _ => 0
  drvcbt : Fin maxDrv → DRVCB := drvInit
  iott : Fin iotSentries → IOTE := iottInit
  t_errno : Fin maxTasks → Int := fun _ => 0

abbrev minspid : WORD := 0o1
abbrev maxspid : WORD := 0o77
abbrev minupid : WORD := 0o100
abbrev maxupid : WORD := 0o777

namespace Kernel

/-- The running task. -/
def cur (k : Kernel) : TCB maxTasks := k.tct k.curtcb

def setTcb (k : Kernel) (i : Fin maxTasks) (t : TCB maxTasks) : Kernel :=
  { k with tct := Function.update k.tct i t }

@[simp] theorem setTcb_self (k : Kernel) (i : Fin maxTasks) (t : TCB maxTasks) :
    (k.setTcb i t).tct i = t :=
  Function.update_self ..

theorem setTcb_ne (k : Kernel) {i j : Fin maxTasks} (t : TCB maxTasks) (h : j ≠ i) :
    (k.setTcb i t).tct j = k.tct j :=
  Function.update_of_ne h ..

/-- The kernel with another task running. -/
def withCur (k : Kernel) (task : Fin maxTasks) : Kernel := { k with curtcb := task }

section
variable (k : Kernel) (task : Fin maxTasks)

@[simp] theorem withCur_cur : (k.withCur task).cur = k.tct task := rfl

@[simp] theorem withCur_curtcb : (k.withCur task).curtcb = task := rfl

@[simp] theorem withCur_tct : (k.withCur task).tct = k.tct := rfl

@[simp] theorem withCur_mutexes : (k.withCur task).mutexes = k.mutexes := rfl

@[simp] theorem withCur_drvcbt : (k.withCur task).drvcbt = k.drvcbt := rfl

@[simp] theorem withCur_iott : (k.withCur task).iott = k.iott := rfl

end

def setpl7 (k : Kernel) : Kernel := { k with ipl := 7 }

def setpl (k : Kernel) (pl : Nat) : Kernel := { k with ipl := pl }

end Kernel

end Muxx
