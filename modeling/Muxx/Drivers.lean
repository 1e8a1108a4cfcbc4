import Muxx.Devices

/-!
# Drivers

muxx_svc_drvreg of muxx_systrap_svc.c and muxx_drv_startstop of muxx_drvctl.c.
Both are for tasks with OPERPRV.
-/

namespace Muxx

abbrev drvStart : WORD := 0
abbrev drvStop : WORD := 1

/-- Interrupt vectors and the PSWs that follow them. -/
abbrev Vectors := ADDRESS → WORD

/-- The PSW under which the routine runs. -/
def DRVISR.psw (isr : DRVISR) : WORD := isr.ilevel <<< 5

/-- Install interrupt service routines. -/
def installIsrs (vectors : Vectors) (isrtable : List DRVISR) : Vectors :=
  isrtable.foldl (fun vectors isr =>
    let vectors := Function.update vectors isr.vector isr.handler
    Function.update vectors (isr.vector + 2) isr.psw) vectors

/-- The first free slot takes the driver, which is loaded and stopped. -/
def svcDrvreg (k : Kernel) (vectors : Vectors) (name : Name) (descriptor : DRVDESC)
    (handler : ADDRESS) : Int × Kernel × Vectors :=
  if ¬ k.cur.operprv then (enopriv, k, vectors)
  else
    match (List.finRange maxDrv).find? fun i => (k.drvcbt i).free with
    | none => (etctfull, k, vectors)
    | some i =>
      let k := k.modifyDriver i fun drvcb =>
        { drvcb with
          drvname := name, desc := descriptor, free := false, loaded := true, stopped := true
          taskid := handler }
      (eok, k, installIsrs vectors descriptor.isrtable)

/-- `drvExec` is what the callback of a driver answers to the operation. -/
def drvStartstop (drvExec : Fin maxDrv → WORD → Int) (k : Kernel) (op : WORD) (drvnam : Name) :
    Int × Kernel :=
  if ¬ k.cur.operprv then (enopriv, k)
  else
    match findDriver k.drvcbt drvnam with
    | none => (enotfound, k)
    | some driver =>
      let rc := drvExec driver op
      if rc = eok then
        (rc, k.modifyDriver driver fun drvcb =>
          { drvcb with active := op == drvStart, stopped := op != drvStart })
      else (rc, k)

def svcDrvstart (drvExec : Fin maxDrv → WORD → Int) (k : Kernel) (drvnam : Name) : Int × Kernel :=
  drvStartstop drvExec k drvStart drvnam

def svcDrvstop (drvExec : Fin maxDrv → WORD → Int) (k : Kernel) (drvnam : Name) : Int × Kernel :=
  drvStartstop drvExec k drvStop drvnam

section Refused
variable {k : Kernel}

theorem svcDrvreg_refused (refused : k.cur.operprv = false) (vectors : Vectors) (name : Name)
    (descriptor : DRVDESC) (handler : ADDRESS) :
    svcDrvreg k vectors name descriptor handler = (enopriv, k, vectors) := by
  rw [svcDrvreg, if_pos (by rw [refused]; exact Bool.false_ne_true)]

theorem drvStartstop_refused (refused : k.cur.operprv = false)
    (drvExec : Fin maxDrv → WORD → Int) (op : WORD) (drvnam : Name) :
    drvStartstop drvExec k op drvnam = (enopriv, k) := by
  rw [drvStartstop, if_pos (by rw [refused]; exact Bool.false_ne_true)]

end Refused

end Muxx
