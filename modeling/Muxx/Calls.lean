import Muxx.Lib.Convention
import Muxx.Types

/-!
# System calls

What lies between a macro of MUXXMAC.s and the service it calls: the macros, the
routines of muxx_systrap.s, muxx_systrap_handler with its table, and the
parameters in the declarations of the services.

The stack page of a task and the pages below are mapped alike in user and kernel
mode, so that both see one memory.
-/

namespace Muxx

open Pdp11

/-! ## Macros -/

/-- What a parameter of a macro or of a service is for. -/
inductive Parm
  | name | type | entry | privs | file | pid | area | task | descriptor | handler | rc
  | mutex | op | devnam | flags | io | size | buffer | srcpid | srcaddr | dstpid | dstaddr
  | page | prot | char
  deriving DecidableEq

/-- Moves to x(sp) and the words above it. -/
def moves (x : WORD) : List Operand → List Instr
  | [] => []
  | o :: os => .mov o (.index x .sp) :: moves (x + 2) os

/-- Make room on the stack, store the number of parameters and the parameters,
and trap with the list in r0. -/
def parmlist (args : List Operand) (number : WORD) : List Line :=
  let bytes := BitVec.ofNat 16 (2 * args.length + 2)
  let list : List Instr :=
    [.sub (.imm bytes) (.reg .sp), .mov (.imm (BitVec.ofNat 16 args.length)) (.deferred .sp)] ++
      moves 2 args ++ [.mov (.reg .sp) (.reg .r0)]
  list.map .instr ++ [.trap number, .instr (.add (.imm bytes) (.reg .sp))]

namespace Srv

abbrev creprc : WORD := 1
abbrev loadprc : WORD := 4
abbrev suspend : WORD := 8
abbrev openDev : WORD := 10
abbrev close : WORD := 11
abbrev read : WORD := 13
abbrev write : WORD := 14
abbrev mutex : WORD := 25
abbrev gettpi : WORD := 27
abbrev exit : WORD := 28
abbrev alloc : WORD := 30
abbrev last : WORD := 30

end Srv

namespace Krn

abbrev drvreg : WORD := Srv.last + 1
abbrev drvstart : WORD := Srv.last + 3
abbrev drvstop : WORD := Srv.last + 4
abbrev putcon : WORD := Srv.last + 6
abbrev xcopy : WORD := Srv.last + 8
abbrev protmem : WORD := Srv.last + 9

end Krn

namespace Macro

def conputc (char : Operand) : List Line := [
  .instr (.sub (.imm 4) (.reg .sp)),
  .instr (.mov (.imm 1) (.deferred .sp)),
  .instr (.movb char (.index 2 .sp)),
  .instr (.mov (.reg .sp) (.reg .r0)),
  .trap Krn.putcon,
  .instr (.add (.imm 4) (.reg .sp))]

def creprc (name type entry privs : Operand) : List Line :=
  parmlist [privs, entry, type, name] Srv.creprc

def loadprc (name type file privs : Operand) : List Line :=
  parmlist [privs, file, type, name] Srv.loadprc

def gettpi (pid tcb : Operand) : List Line := parmlist [tcb, pid] Srv.gettpi

/-- A null pointer stands for the current task. -/
def suspend (curtcb : ADDRESS) (tcb : Operand) : List Line := [
  .instr (.sub (.imm 4) (.reg .sp)),
  .instr (.mov (.imm 1) (.deferred .sp)),
  .instr (.tst tcb),
  .bne 10,
  .instr (.mov (.abs curtcb) (.index 2 .sp)),
  .br 20,
  .label 10,
  .instr (.mov tcb (.index 2 .sp)),
  .label 20,
  .instr (.mov (.reg .sp) (.reg .r0)),
  .trap Srv.suspend,
  .instr (.add (.imm 4) (.reg .sp))]

def drvreg (name desc handler : Operand) : List Line := parmlist [handler, desc, name] Krn.drvreg

def exit (rcode : Operand) : List Line := parmlist [rcode] Srv.exit

/-- With the number of EXIT. -/
def abort (rcode : Operand) : List Line := parmlist [rcode] Srv.exit

def mutex (mutex op : Operand) : List Line := parmlist [op, mutex] Srv.mutex

def alloc (devnam op : Operand) : List Line := parmlist [op, devnam] Srv.alloc

def openDev (devnam flags : Operand) : List Line := parmlist [flags, devnam] Srv.openDev

def close (fd : Operand) : List Line := parmlist [fd] Srv.close

def drvstart (drvname : Operand) : List Line := parmlist [drvname] Krn.drvstart

def drvstop (drvcb : Operand) : List Line := parmlist [drvcb] Krn.drvstop

def write (iote size buffer : Operand) : List Line := parmlist [buffer, size, iote] Srv.write

def read (iote size buffer : Operand) : List Line := parmlist [buffer, size, iote] Srv.read

def xcopy (srcpid srcaddr dstpid dstaddr size : Operand) : List Line :=
  parmlist [size, dstaddr, dstpid, srcaddr, srcpid] Krn.xcopy

def protmem (pid page prot : Operand) : List Line := parmlist [prot, page, pid] Krn.protmem

end Macro

/-! ## Routines -/

/-- The macro of MACLIB.s. -/
def traphandle (handler : ADDRESS) (saveall : Bool) : List Line :=
  (if saveall then [.instr (.mov (.reg .r0) (.dec .sp)), .instr (.mov (.reg .r1) (.dec .sp))]
    else [.instr (.clr (.dec .sp)), .instr (.clr (.dec .sp))]) ++ [
  .instr (.mov (.reg .r2) (.dec .sp)),
  .instr (.mov (.reg .r3) (.dec .sp)),
  .instr (.mov (.reg .r4) (.dec .sp)),
  .instr (.mov (.reg .r5) (.dec .sp)),
  .instr (.mov (.reg .sp) (.dec .sp)),
  .jsr (.abs handler),
  .instr (.add (.imm 2) (.reg .sp)),
  .instr (.mov (.inc .sp) (.reg .r5)),
  .instr (.mov (.inc .sp) (.reg .r4)),
  .instr (.mov (.inc .sp) (.reg .r3)),
  .instr (.mov (.inc .sp) (.reg .r2))] ++
  (if saveall then [.instr (.mov (.inc .sp) (.reg .r1)), .instr (.mov (.inc .sp) (.reg .r0))]
    else [.instr (.add (.imm 4) (.reg .sp))])

/-- The services of the table. -/
inductive SVC
  | muxxhlt | creprc | unimpl | loadprc | suspend | openDev | close | read | write | mutex | yield
  | gettpi | exit | abort | alloc | drvreg | drvstart | drvstop | conputc | xcopy | protmem
  deriving DecidableEq

/-- The addresses that the linker gives, those that the calls return to, and the
size of the frame of muxx_systrap_handler. `pc` is behind the trap instruction. -/
structure Linked where
  curtcb : ADDRESS
  kmodet : ADDRESS
  panic : ADDRESS
  trapHandle : ADDRESS
  systrapHandler : ADDRESS
  link : SVC → ADDRESS
  distinct : Function.Injective link
  pc : ADDRESS
  afterTrapHandle : ADDRESS
  afterSystrapHandler : ADDRESS
  afterSyscallRt : ADDRESS
  afterService : ADDRESS
  frame : WORD

namespace Linked
variable (sys : Linked)

/-- The last line is `rtt`. -/
def muxxTrap : List Line := traphandle sys.trapHandle false ++ [.rti]

/-- `noparms` is label 0. -/
def muxxTrapHandle : List Line := [
  .instr (.mov (.index 2 .sp) (.dec .sp)),
  .instr (.mov (.reg .r0) (.dec .sp)),
  .instr (.mov (.abs sys.curtcb) (.reg .r0)),
  .instr (.mov .psw (.reg .r1)),
  .instr (.mov (.reg .r1) (.reg .r2)),
  .instr (.bic (.imm 0xCFFF) (.reg .r1)),
  .bne 5,
  .instr (.mov (.imm sys.kmodet) (.dec .sp)),
  .jsr (.abs sys.panic),
  .label 3,
  .halt,
  .br 3,
  .label 5,
  .instr (.mov (.inc .sp) (.reg .r0)),
  .instr (.mov (.reg .r5) (.dec .sp)),
  .instr (.mov (.reg .sp) (.reg .r5)),
  .instr (.tst (.reg .r0)),
  .beq 0,
  .instr (.mov (.inc .r0) (.reg .r1)),
  .beq 0,
  .label 10,
  .instr (.mov (.inc .r0) (.dec .sp)),
  .sob .r1 10,
  .label 0,
  .instr (.mov (.index 2 .r5) (.reg .r1)),
  .instr (.mov (.reg .r1) (.dec .sp)),
  .instr (.mov (.index 14 .r1) (.reg .r1)),
  .instr (.mov (.index (-2) .r1) (.reg .r1)),
  .instr (.bic (.imm 0xFF00) (.reg .r1)),
  .instr (.mov (.reg .r1) (.dec .sp)),
  .jsr (.abs sys.systrapHandler),
  .instr (.mov (.reg .r5) (.reg .sp)),
  .instr (.mov (.inc .sp) (.reg .r5)),
  .instr (.add (.imm 2) (.reg .sp)),
  .rts]

end Linked

def syscallRt : List Line := [
  .instr (.mov (.reg .sp) (.reg .r0)),
  .instr (.mov (.index 2 .r0) (.reg .r1)),
  .instr (.mov (.index 18 .r0) (.dec .sp)),
  .instr (.mov (.index 16 .r0) (.dec .sp)),
  .instr (.mov (.index 14 .r0) (.dec .sp)),
  .instr (.mov (.index 12 .r0) (.dec .sp)),
  .instr (.mov (.index 10 .r0) (.dec .sp)),
  .instr (.mov (.index 8 .r0) (.dec .sp)),
  .instr (.mov (.index 4 .r0) (.dec .sp)),
  .jsr (.deferred .r1),
  .instr (.add (.imm 14) (.reg .sp)),
  .rts]

/-! ## The table -/

structure SVC_S where
  svc : SVC
  nparams : WORD

def trapTable : List SVC_S := [
  ⟨.muxxhlt, 0⟩, ⟨.creprc, 4⟩, ⟨.unimpl, 0⟩, ⟨.unimpl, 0⟩, ⟨.loadprc, 4⟩, ⟨.unimpl, 0⟩,
  ⟨.unimpl, 0⟩, ⟨.unimpl, 0⟩, ⟨.suspend, 1⟩, ⟨.unimpl, 0⟩, ⟨.openDev, 2⟩, ⟨.close, 1⟩,
  ⟨.unimpl, 0⟩, ⟨.read, 3⟩, ⟨.write, 3⟩, ⟨.unimpl, 0⟩, ⟨.unimpl, 0⟩, ⟨.unimpl, 0⟩,
  ⟨.unimpl, 0⟩, ⟨.unimpl, 0⟩, ⟨.unimpl, 0⟩, ⟨.unimpl, 0⟩, ⟨.unimpl, 0⟩, ⟨.unimpl, 0⟩,
  ⟨.unimpl, 0⟩, ⟨.mutex, 2⟩, ⟨.yield, 0⟩, ⟨.gettpi, 2⟩, ⟨.exit, 1⟩, ⟨.abort, 1⟩, ⟨.alloc, 2⟩,
  ⟨.drvreg, 2⟩, ⟨.unimpl, 0⟩, ⟨.drvstart, 2⟩, ⟨.drvstop, 2⟩, ⟨.unimpl, 0⟩, ⟨.conputc, 1⟩,
  ⟨.unimpl, 0⟩, ⟨.xcopy, 5⟩, ⟨.protmem, 3⟩]

/-- `sizeof(trap_table)/sizeof(void *())`: the bytes of the table, since the
size of a function type is 1. -/
def trapTableEntries : WORD := BitVec.ofNat 16 (4 * trapTable.length)

/-- To the entry of _syscall_rt. It is `none` where no service is called, and
where the number is beyond the table. -/
def Linked.muxxSystrapHandler (sys : Linked) (c : Cpu Ram) : Option (Cpu Ram) := do
  let numtrap ← c.arg 0
  let fp ← c.arg 1
  let p1 ← c.arg 2
  let p2 ← c.arg 3
  let p3 ← c.arg 4
  let p4 ← c.arg 5
  let p5 ← c.arg 6
  let p6 ← c.arg 7
  if numtrap.slt 0 || trapTableEntries.slt numtrap then none
  let syssvc ← trapTable[numtrap.toNat]?
  c.call sys.frame [sys.link syssvc.svc, fp, syssvc.nparams, p1, p2, p3, p4, p5, p6]
    sys.afterSyscallRt

/-- The parameters in the declarations of the services, after `fp`. -/
def SVC.parms : SVC → List Parm
  | .creprc => [.name, .type, .entry, .privs]
  | .loadprc => [.name, .type, .file, .privs]
  | .suspend => [.task]
  | .openDev => [.devnam, .flags]
  | .close => [.io]
  | .read | .write => [.io, .size, .buffer]
  | .mutex => [.mutex, .op]
  | .gettpi => [.pid, .area]
  | .exit | .abort => [.rc]
  | .alloc => [.devnam, .op]
  | .drvreg => [.name, .descriptor, .handler]
  | .drvstart | .drvstop => [.devnam]
  | .conputc => [.char]
  | .xcopy => [.dstpid, .dstaddr, .srcpid, .srcaddr, .size]
  | .protmem => [.pid, .page, .prot]
  | .muxxhlt | .unimpl | .yield => []

/-! ## Calls -/

/-- The calls whose number has an implementation in the table. -/
inductive Call
  | creprc | loadprc | gettpi | suspend | drvreg | mutex | alloc | openDev | close | drvstart
  | drvstop | read | write | xcopy | protmem | conputc | exit | abort
  deriving DecidableEq

namespace Call

/-- The service that has the name of the call. -/
def service : Call → SVC
  | .creprc => .creprc
  | .loadprc => .loadprc
  | .gettpi => .gettpi
  | .suspend => .suspend
  | .drvreg => .drvreg
  | .mutex => .mutex
  | .alloc => .alloc
  | .openDev => .openDev
  | .close => .close
  | .drvstart => .drvstart
  | .drvstop => .drvstop
  | .read => .read
  | .write => .write
  | .xcopy => .xcopy
  | .protmem => .protmem
  | .conputc => .conputc
  | .exit => .exit
  | .abort => .abort

/-- The macro, with an operand for each parameter. -/
def code (sys : Linked) (args : Parm → Operand) : Call → List Line
  | .creprc => Macro.creprc (args .name) (args .type) (args .entry) (args .privs)
  | .loadprc => Macro.loadprc (args .name) (args .type) (args .file) (args .privs)
  | .gettpi => Macro.gettpi (args .pid) (args .area)
  | .suspend => Macro.suspend sys.curtcb (args .task)
  | .drvreg => Macro.drvreg (args .name) (args .descriptor) (args .handler)
  | .mutex => Macro.mutex (args .mutex) (args .op)
  | .alloc => Macro.alloc (args .devnam) (args .op)
  | .openDev => Macro.openDev (args .devnam) (args .flags)
  | .close => Macro.close (args .io)
  | .drvstart => Macro.drvstart (args .devnam)
  | .drvstop => Macro.drvstop (args .devnam)
  | .read => Macro.read (args .io) (args .size) (args .buffer)
  | .write => Macro.write (args .io) (args .size) (args .buffer)
  | .xcopy =>
    Macro.xcopy (args .srcpid) (args .srcaddr) (args .dstpid) (args .dstaddr) (args .size)
  | .protmem => Macro.protmem (args .pid) (args .page) (args .prot)
  | .conputc => Macro.conputc (args .char)
  | .exit => Macro.exit (args .rc)
  | .abort => Macro.abort (args .rc)

/-- The parameters in the order of the list in memory. -/
def list : Call → List Parm
  | .creprc => [.privs, .entry, .type, .name]
  | .loadprc => [.privs, .file, .type, .name]
  | .gettpi => [.area, .pid]
  | .suspend => [.task]
  | .drvreg => [.handler, .descriptor, .name]
  | .mutex => [.op, .mutex]
  | .alloc => [.op, .devnam]
  | .openDev => [.flags, .devnam]
  | .close => [.io]
  | .drvstart | .drvstop => [.devnam]
  | .read | .write => [.buffer, .size, .io]
  | .xcopy => [.size, .dstaddr, .dstpid, .srcaddr, .srcpid]
  | .protmem => [.prot, .page, .pid]
  | .conputc => [.char]
  | .exit | .abort => [.rc]

def number : Call → WORD
  | .creprc => Srv.creprc
  | .loadprc => Srv.loadprc
  | .gettpi => Srv.gettpi
  | .suspend => Srv.suspend
  | .drvreg => Krn.drvreg
  | .mutex => Srv.mutex
  | .alloc => Srv.alloc
  | .openDev => Srv.openDev
  | .close => Srv.close
  | .drvstart => Krn.drvstart
  | .drvstop => Krn.drvstop
  | .read => Srv.read
  | .write => Srv.write
  | .xcopy => Krn.xcopy
  | .protmem => Krn.protmem
  | .conputc => Krn.putcon
  | .exit | .abort => Srv.exit

end Call

/-- From the macro to the entry of the service: the trap, whose vector holds a
status word of zero, the wrapper, the handlers, and the call of the service. -/
def Serves (sys : Linked) (call : Call) (args : Parm → Operand) (c c' : Cpu Ram) : Prop :=
  ∃ c₁ c₂ c₃ c₄ c₅ c₆ c₇ c₈,
    Runs (call.code sys args) (.trap call.number) c c₁ ∧
    c₁.trap 0 sys.pc = some c₂ ∧
    Runs sys.muxxTrap (.jsr (.abs sys.trapHandle)) c₂ c₃ ∧
    c₃.push sys.afterTrapHandle = some c₄ ∧
    Runs sys.muxxTrapHandle (.jsr (.abs sys.systrapHandler)) c₄ c₅ ∧
    c₅.push sys.afterSystrapHandler = some c₆ ∧
    sys.muxxSystrapHandler c₆ = some c₇ ∧
    Runs syscallRt (.jsr (.deferred .r1)) c₇ c₈ ∧
    c₈.push sys.afterService = some c'

/-- What a parameter of a service should be: a character counts as a byte, and no
task stands for the current one. -/
def Receives (current : WORD) (values : Parm → WORD) (p : Parm) (w : WORD) : Prop :=
  match p with
  | .char => w.setWidth 8 = (values .char).setWidth 8
  | .task => w = if values .task = 0 then current else values .task
  | p => w = values p

/-- At the entry of a service: it is the one of the call, and each parameter has
the value that the macro was given for it. -/
structure Delivered (sys : Linked) (call : Call) (current : WORD) (values : Parm → WORD)
    (c' : Cpu Ram) : Prop where
  service : c'.r1 = sys.link call.service
  parms : ∀ i p, call.service.parms[i]? = some p →
    ∃ w, c'.arg (i + 1) = some w ∧ Receives current values p w

end Muxx
