import Muxx.Opens

/-!
# Reading and writing

muxx_svc_write and muxx_svc_read of muxx_readwrite_svc.c:

* `Port`: what the services reach through their pointers, and the services over
  any such port;
* `sessionPort`: the port of an entry of the table, with drivers that answer as
  they like;
* `Transferred`: one byte for each call, up to the first error;
* `transfer_partial`: what the services have done when they return.
-/

namespace Muxx

abbrev drvRead : WORD := 4
abbrev drvWrite : WORD := 5

abbrev eeof : Int := -16

/-- An IO packet with room for one byte. -/
structure IOPKT where
  function : WORD
  error : Int := eok
  param : Fin 4 → WORD := fun _ => 0
  size : WORD
  ioarea : BYTE

/-- A channel, its driver and the caller's memory, in states of type `σ` and
with driver control blocks of type `π`. Nothing is there where the machine
would trap. -/
structure Port (σ π : Type) where
  driver : σ → Option π
  opened : σ → Option Bool
  buffered : π → σ → Option Bool
  controller : σ → Option BYTE
  unit : σ → Option BYTE
  /-- muxx_drv_exec. -/
  drvExec : π → IOPKT → σ → Option (Int × IOPKT × σ)
  load : ADDRESS → σ → Option BYTE
  store : ADDRESS → BYTE → σ → Option σ
  setErrno : Int → σ → Option σ
  setIoerror : Bool → σ → Option σ
  setEof : Bool → σ → Option σ

namespace Port
variable {σ π : Type} (port : Port σ π)

/-- The packet for one byte; what is in its area is what is on the stack. -/
def packet (function : WORD) (junk : BYTE) (s : σ) : Option IOPKT := do
  let controller ← port.controller s
  let unit ← port.unit s
  return {
    function, size := 1, ioarea := junk
    param := ![controller.setWidth 16, unit.setWidth 16, 0, 0] }

/-- The loop of muxx_svc_write, with its counter at `i` and `n` rounds to go. -/
def writeLoop (pdrv : π) (buffer : ADDRESS) :
    Nat → Nat → IOPKT → Int → Int → σ → Option (Int × Int × σ)
  | 0, _, _, rc, numchars, s => some (rc, numchars, s)
  | n + 1, i, iopkt, rc, numchars, s =>
    if rc ≥ 0 then do
      let b ← port.load (buffer + BitVec.ofNat 16 i) s
      let (rc, iopkt, s) ← port.drvExec pdrv { iopkt with ioarea := b } s
      writeLoop pdrv buffer n (i + 1) iopkt rc (if rc > 0 then numchars + rc else numchars) s
    else some (rc, numchars, s)

/-- The loop of muxx_svc_read. -/
def readLoop (pdrv : π) (buffer : ADDRESS) :
    Nat → Nat → IOPKT → Int → Int → σ → Option (Int × Int × σ)
  | 0, _, _, rc, numchars, s => some (rc, numchars, s)
  | n + 1, i, iopkt, rc, numchars, s =>
    if rc ≥ 0 then do
      let (rc, iopkt, s) ← port.drvExec pdrv iopkt s
      if rc > 0 then
        let s ← port.store (buffer + BitVec.ofNat 16 i) iopkt.ioarea s
        readLoop pdrv buffer n (i + 1) iopkt rc (numchars + rc) s
      else readLoop pdrv buffer n (i + 1) iopkt rc numchars s
    else some (rc, numchars, s)

def writeChannel (size : WORD) (buffer : ADDRESS) (junk : BYTE) (s : σ) :
    Option (Int × Int × σ) := do
  let pdrv ← port.driver s
  let opened ← port.opened s
  if ¬ opened then
    return (enotopen, 0, s)
  else
    let buffered ← port.buffered pdrv s
    if buffered then
      return (enoimpl, 0, s)
    else
      let iopkt ← port.packet drvWrite junk s
      port.writeLoop pdrv buffer size.toInt.toNat 0 iopkt eok 0 s

def readChannel (size : WORD) (buffer : ADDRESS) (junk : BYTE) (s : σ) :
    Option (Int × Int × σ) := do
  let pdrv ← port.driver s
  let opened ← port.opened s
  if ¬ opened then
    return (enotopen, 0, s)
  else
    let buffered ← port.buffered pdrv s
    if buffered then
      return (enoimpl, 0, s)
    else
      let iopkt ← port.packet drvRead junk s
      port.readLoop pdrv buffer size.toInt.toNat 0 iopkt 0 0 s

def svcWrite (size : WORD) (buffer : ADDRESS) (junk : BYTE) (s : σ) : Option (Int × σ) := do
  let (rc, numchars, s) ← port.writeChannel size buffer junk s
  if rc < 0 then
    let s ← port.setErrno rc s
    let s ← port.setIoerror true s
    return (numchars, s)
  else
    let s ← port.setErrno eok s
    let s ← port.setIoerror false s
    return (numchars, s)

def svcRead (size : WORD) (buffer : ADDRESS) (junk : BYTE) (s : σ) : Option (Int × σ) := do
  let (rc, numchars, s) ← port.readChannel size buffer junk s
  if rc < 0 then
    if rc = eeof then
      let s ← port.setEof true s
      let s ← port.setIoerror false s
      let s ← port.setErrno rc s
      return (numchars, s)
    else
      let s ← port.setIoerror true s
      let s ← port.setErrno rc s
      return (numchars, s)
  else
    let s ← port.setErrno eok s
    let s ← port.setIoerror false s
    let s ← port.setEof false s
    return (numchars, s)

end Port

/-! ## Entries of the table -/

/-- What a driver returns, and what it puts into the packet. -/
structure Reply where
  rc : Int
  error : Int
  ioarea : BYTE

structure DrvCall where
  iopkt : IOPKT
  reply : Reply

/-- The kernel, the memory of the running task, the devices, and the calls of
drivers so far. -/
structure Session (δ : Type) where
  kernel : Kernel
  memory : ADDRESS → BYTE
  device : δ
  calls : List DrvCall := []

/-- The callbacks of each driver; the function is in the packet. -/
abbrev Drivers (δ : Type) := Fin maxDrv → IOPKT → δ → Reply × δ

variable {δ : Type}

namespace Session

def reply (drivers : Drivers δ) (d : Fin maxDrv) (iopkt : IOPKT) (s : Session δ) : Reply :=
  (drivers d iopkt s.device).1

/-- After a call of the driver. -/
def called (drivers : Drivers δ) (d : Fin maxDrv) (iopkt : IOPKT) (s : Session δ) : Session δ :=
  { s with
    device := (drivers d iopkt s.device).2
    calls := s.calls ++ [⟨iopkt, s.reply drivers d iopkt⟩] }

def drvExec (drivers : Drivers δ) (d : Fin maxDrv) (iopkt : IOPKT) (s : Session δ) :
    Int × IOPKT × Session δ :=
  let reply := s.reply drivers d iopkt
  (reply.rc, { iopkt with error := reply.error, ioarea := reply.ioarea }, s.called drivers d iopkt)

def modifyIote (s : Session δ) (io : Fin iotSentries) (f : IOTE → IOTE) : Session δ :=
  { s with kernel := s.kernel.modifyIote io f }

end Session

/-- The port of an entry. A null pointer to a driver is good for nothing. -/
def sessionPort (drivers : Drivers δ) (io : Fin iotSentries) :
    Port (Session δ) (Option (Fin maxDrv)) where
  driver s := some (s.kernel.iott io).driver
  opened s := some (s.kernel.iott io).opened
  buffered pdrv s := pdrv.map fun d => (s.kernel.drvcbt d).desc.buffered
  controller s := some (s.kernel.iott io).controller
  unit s := some (s.kernel.iott io).unit
  drvExec pdrv iopkt s := pdrv.map fun d => s.drvExec drivers d iopkt
  load a s := some (s.memory a)
  store a b s := some { s with memory := Function.update s.memory a b }
  setErrno rc s := some { s with kernel := s.kernel.setErrno rc }
  setIoerror b s := some (s.modifyIote io ({ · with ioerror := b }))
  setEof b s := some (s.modifyIote io ({ · with eof := b }))

/-! ## What is transferred -/

/-- Of `size` bytes, one for each call until the first error: the calls, how many
were taken, and the error. -/
inductive Transferred : Nat → List DrvCall → Nat → Option Int → Prop
  | all : Transferred 0 [] 0 none
  | error {n : Nat} {c : DrvCall} (failed : c.reply.rc < 0) :
      Transferred (n + 1) [c] 0 (some c.reply.rc)
  | byte {n ret : Nat} {c : DrvCall} {log : List DrvCall} {stop : Option Int}
      (taken : c.reply.rc = 1) (rest : Transferred n log ret stop) :
      Transferred (n + 1) (c :: log) (ret + 1) stop

/-- The driver takes or gives one byte, or it fails. -/
def Bytewise (drivers : Drivers δ) (d : Fin maxDrv) (function : WORD) : Prop :=
  ∀ iopkt device, iopkt.function = function →
    (drivers d iopkt device).1.rc = 1 ∨ (drivers d iopkt device).1.rc < 0

/-- The requests to the driver for a channel. -/
def Requests (function : WORD) (e : IOTE) (iopkt : IOPKT) : Prop :=
  iopkt.function = function ∧ iopkt.size = 1 ∧ iopkt.param 0 = e.controller.setWidth 16 ∧
    iopkt.param 1 = e.unit.setWidth 16

/-- The last return code of a loop that ended so. -/
def Ended (stop : Option Int) (rc : Int) : Prop :=
  match stop with
  | none => 0 ≤ rc
  | some error => rc = error ∧ error < 0

section Loops
variable {drivers : Drivers δ} {io : Fin iotSentries} {d : Fin maxDrv} {e : IOTE}
variable {buffer : ADDRESS} {σ π : Type} {port : Port σ π} {pdrv : π}

theorem writeLoop_stopped {rc : Int} (stopped : rc < 0) (n i : Nat) (iopkt : IOPKT)
    (numchars : Int) (s : σ) :
    port.writeLoop pdrv buffer n i iopkt rc numchars s = some (rc, numchars, s) := by
  cases n with
  | zero => rfl
  | succ n => rw [Port.writeLoop, if_neg (Int.not_le.mpr stopped)]

theorem readLoop_stopped {rc : Int} (stopped : rc < 0) (n i : Nat) (iopkt : IOPKT)
    (numchars : Int) (s : σ) :
    port.readLoop pdrv buffer n i iopkt rc numchars s = some (rc, numchars, s) := by
  cases n with
  | zero => rfl
  | succ n => rw [Port.readLoop, if_neg (Int.not_le.mpr stopped)]

theorem writeLoop_transfers (io : Fin iotSentries) (bytewise : Bytewise drivers d drvWrite)
    (buffer : ADDRESS) (n i : Nat) (iopkt : IOPKT) (rc numchars : Int) (s : Session δ)
    (requests : Requests drvWrite e iopkt) (going : rc ≥ 0) :
    ∃ (log : List DrvCall) (ret : Nat) (stop : Option Int) (rc' : Int) (device : δ),
      (sessionPort drivers io).writeLoop (some d) buffer n i iopkt rc numchars s =
        some (rc', numchars + ret, { s with device, calls := s.calls ++ log }) ∧
      Transferred n log ret stop ∧ Ended stop rc' ∧
      ∀ j (within : j < log.length), Requests drvWrite e log[j].iopkt ∧
        log[j].iopkt.ioarea = s.memory (buffer + BitVec.ofNat 16 (i + j)) := by
  induction n generalizing i iopkt rc numchars s with
  | zero =>
    refine ⟨[], 0, none, rc, s.device, ?_, .all, going, nofun⟩
    simp [Port.writeLoop]
  | succ n ih =>
    let sent : IOPKT := { iopkt with ioarea := s.memory (buffer + BitVec.ofNat 16 i) }
    let reply := s.reply drivers d sent
    let next : IOPKT := { sent with error := reply.error, ioarea := reply.ioarea }
    have first : (sessionPort drivers io).writeLoop (some d) buffer (n + 1) i iopkt rc numchars s =
        (sessionPort drivers io).writeLoop (some d) buffer n (i + 1) next reply.rc
          (if reply.rc > 0 then numchars + reply.rc else numchars) (s.called drivers d sent) := by
      rw [Port.writeLoop, if_pos going]
      rfl
    rw [first]
    rcases bytewise sent s.device requests.1 with taken | failed
    · have taken : reply.rc = 1 := taken
      obtain ⟨log, ret, stop, rc', device, ran, transferred, ended, sends⟩ :=
        ih (i + 1) next reply.rc (numchars + reply.rc) (s.called drivers d sent) requests (by omega)
      refine ⟨⟨sent, reply⟩ :: log, ret + 1, stop, rc', device, ?_, .byte taken transferred, ended,
        ?_⟩
      · have count : numchars + reply.rc + ret = numchars + (ret + 1 : Nat) := by
          rw [taken]
          omega
        rw [if_pos (by omega), ran, count]
        simp [Session.called, reply]
      · intro j within
        match j with
        | 0 => exact ⟨requests, rfl⟩
        | j + 1 =>
          have index : i + (j + 1) = i + 1 + j := by omega
          rw [index]
          exact sends j (Nat.lt_of_succ_lt_succ within)
    · have failed : reply.rc < 0 := failed
      refine ⟨[⟨sent, reply⟩], 0, some reply.rc, reply.rc, (s.called drivers d sent).device, ?_,
        .error failed, ⟨rfl, failed⟩, ?_⟩
      · rw [writeLoop_stopped failed, if_neg (by omega)]
        simp only [Nat.cast_zero, Int.add_zero]
        rfl
      · intro j within
        obtain rfl : j = 0 := Nat.lt_one_iff.mp within
        exact ⟨requests, rfl⟩

/-- The bytes that came are stored one after the other. -/
structure FillsBuffer (buffer : ADDRESS) (i ret : Nat) (log : List DrvCall)
    (memory memory' : ADDRESS → BYTE) : Prop where
  byte : ∀ j (within : j < log.length), j < ret →
    memory' (buffer + BitVec.ofNat 16 (i + j)) = log[j].reply.ioarea
  other : ∀ a, (∀ j < ret, a ≠ buffer + BitVec.ofNat 16 (i + j)) → memory' a = memory a

theorem Transferred.length {n ret : Nat} {log : List DrvCall} {stop : Option Int}
    (h : Transferred n log ret stop) : ret ≤ log.length ∧ log.length ≤ n := by
  induction h with
  | all => exact ⟨Nat.le_refl _, Nat.le_refl _⟩
  | error => exact ⟨Nat.zero_le _, Nat.succ_le_succ (Nat.zero_le _)⟩
  | byte _ _ ih => exact ⟨Nat.succ_le_succ ih.1, Nat.succ_le_succ ih.2⟩

/-- A round of the loop in which the driver gives something. -/
theorem readLoop_taken {iopkt : IOPKT} {rc : Int} {s : Session δ} (going : rc ≥ 0)
    (taken : (s.reply drivers d iopkt).rc > 0) (n i : Nat) (numchars : Int) :
    (sessionPort drivers io).readLoop (some d) buffer (n + 1) i iopkt rc numchars s =
      (sessionPort drivers io).readLoop (some d) buffer n (i + 1)
        { iopkt with
          error := (s.reply drivers d iopkt).error
          ioarea := (s.reply drivers d iopkt).ioarea }
        (s.reply drivers d iopkt).rc (numchars + (s.reply drivers d iopkt).rc)
        { s.called drivers d iopkt with
          memory := Function.update s.memory (buffer + BitVec.ofNat 16 i)
            (s.reply drivers d iopkt).ioarea } := by
  rw [Port.readLoop, if_pos going]
  simp only [sessionPort, Session.drvExec, Option.map_some, Option.bind_eq_bind,
    Option.bind_some]
  rw [if_pos taken]
  rfl

/-- A round in which it gives nothing. -/
theorem readLoop_untaken {iopkt : IOPKT} {rc : Int} {s : Session δ} (going : rc ≥ 0)
    (untaken : ¬ (s.reply drivers d iopkt).rc > 0) (n i : Nat) (numchars : Int) :
    (sessionPort drivers io).readLoop (some d) buffer (n + 1) i iopkt rc numchars s =
      (sessionPort drivers io).readLoop (some d) buffer n (i + 1)
        { iopkt with
          error := (s.reply drivers d iopkt).error
          ioarea := (s.reply drivers d iopkt).ioarea }
        (s.reply drivers d iopkt).rc numchars (s.called drivers d iopkt) := by
  rw [Port.readLoop, if_pos going]
  simp only [sessionPort, Session.drvExec, Option.map_some, Option.bind_eq_bind,
    Option.bind_some]
  rw [if_neg untaken]

theorem readLoop_transfers (io : Fin iotSentries) (bytewise : Bytewise drivers d drvRead)
    (buffer : ADDRESS) (n i : Nat) (iopkt : IOPKT) (rc numchars : Int) (s : Session δ)
    (few : i + n ≤ 65536) (requests : Requests drvRead e iopkt) (going : rc ≥ 0) :
    ∃ (log : List DrvCall) (ret : Nat) (stop : Option Int) (rc' : Int) (device : δ)
      (memory : ADDRESS → BYTE),
      (sessionPort drivers io).readLoop (some d) buffer n i iopkt rc numchars s =
        some (rc', numchars + ret, { s with memory, device, calls := s.calls ++ log }) ∧
      Transferred n log ret stop ∧ Ended stop rc' ∧
      (∀ j (within : j < log.length), Requests drvRead e log[j].iopkt) ∧
      FillsBuffer buffer i ret log s.memory memory := by
  induction n generalizing i iopkt rc numchars s with
  | zero =>
    refine ⟨[], 0, none, rc, s.device, s.memory, ?_, .all, going, nofun, nofun, fun _ _ => rfl⟩
    simp [Port.readLoop]
  | succ n ih =>
    let reply := s.reply drivers d iopkt
    let next : IOPKT := { iopkt with error := reply.error, ioarea := reply.ioarea }
    rcases bytewise iopkt s.device requests.1 with taken | failed
    · have taken : reply.rc = 1 := taken
      let s₁ : Session δ := { s.called drivers d iopkt with
        memory := Function.update s.memory (buffer + BitVec.ofNat 16 i) reply.ioarea }
      have first : (sessionPort drivers io).readLoop (some d) buffer (n + 1) i iopkt rc numchars s =
          (sessionPort drivers io).readLoop (some d) buffer n (i + 1) next reply.rc
            (numchars + reply.rc) s₁ :=
        readLoop_taken going (taken ▸ Int.one_pos) n i numchars
      obtain ⟨log, ret, stop, rc', device, memory, ran, transferred, ended, asks, filled⟩ :=
        ih (i + 1) next reply.rc (numchars + reply.rc) s₁ (by omega) requests (by omega)
      refine ⟨⟨iopkt, reply⟩ :: log, ret + 1, stop, rc', device, memory, ?_,
        .byte taken transferred, ended, ?_, ?_, ?_⟩
      · have count : numchars + reply.rc + ret = numchars + (ret + 1 : Nat) := by
          rw [taken]
          omega
        rw [first, ran, count]
        simp [s₁, Session.called, reply]
      · intro j within
        match j with
        | 0 => exact requests
        | j + 1 => exact asks j (Nat.lt_of_succ_lt_succ within)
      · intro j within before
        match j with
        | 0 =>
          have bounds := transferred.length
          rw [filled.other _ fun k _ => by bv_omega]
          exact Function.update_self ..
        | j + 1 =>
          have index : i + (j + 1) = i + 1 + j := by omega
          rw [index]
          exact filled.byte j (Nat.lt_of_succ_lt_succ within) (Nat.lt_of_succ_lt_succ before)
      · intro a apart
        have here : a ≠ buffer + BitVec.ofNat 16 i := apart 0 (Nat.zero_lt_succ _)
        have later (j : Nat) (before : j < ret) : a ≠ buffer + BitVec.ofNat 16 (i + 1 + j) := by
          have index : i + 1 + j = i + (j + 1) := by omega
          rw [index]
          exact apart (j + 1) (Nat.succ_lt_succ before)
        rw [filled.other a later]
        exact Function.update_of_ne here ..
    · have failed : reply.rc < 0 := failed
      have first : (sessionPort drivers io).readLoop (some d) buffer (n + 1) i iopkt rc numchars s =
          some (reply.rc, numchars, s.called drivers d iopkt) := by
        rw [readLoop_untaken going (Int.not_lt.mpr failed.le)]
        exact readLoop_stopped failed ..
      refine ⟨[⟨iopkt, reply⟩], 0, some reply.rc, reply.rc, (s.called drivers d iopkt).device,
        s.memory, ?_, .error failed, ⟨rfl, failed⟩, ?_, ?_, fun _ _ => rfl⟩
      · rw [first]
        simp only [Nat.cast_zero, Int.add_zero]
        rfl
      · intro j within
        obtain rfl : j = 0 := Nat.lt_one_iff.mp within
        exact requests
      · intro j _ before
        exact absurd before (Nat.not_lt_zero j)

end Loops

/-! ## What the services do -/

/-- `errno` of the running task. -/
def Session.errno (s : Session δ) : Int := s.kernel.t_errno s.kernel.curtcb

/-- The bytes of the buffer went to the driver in order, up to the first error. -/
def Wrote (io : Fin iotSentries) (size : Nat) (buffer : ADDRESS) (s s' : Session δ) (ret : Int) :
    Prop :=
  ∃ (log : List DrvCall) (count : Nat) (stop : Option Int),
    ret = count ∧ s'.calls = s.calls ++ log ∧ Transferred size log count stop ∧
    (∀ j (within : j < log.length), Requests drvWrite (s.kernel.iott io) log[j].iopkt ∧
      log[j].iopkt.ioarea = s.memory (buffer + BitVec.ofNat 16 j)) ∧
    s'.memory = s.memory ∧ s'.errno = stop.getD eok ∧ (s'.kernel.iott io).ioerror = stop.isSome

/-- The bytes that came before the first error are in the buffer, and nothing
else has changed in memory. -/
def HasRead (io : Fin iotSentries) (size : Nat) (buffer : ADDRESS) (s s' : Session δ) (ret : Int) :
    Prop :=
  ∃ (log : List DrvCall) (count : Nat) (stop : Option Int),
    ret = count ∧ s'.calls = s.calls ++ log ∧ Transferred size log count stop ∧
    (∀ j (within : j < log.length), Requests drvRead (s.kernel.iott io) log[j].iopkt) ∧
    FillsBuffer buffer 0 count log s.memory s'.memory ∧ s'.errno = stop.getD eok ∧
    (s'.kernel.iott io).ioerror = (stop.isSome && stop != some eeof) ∧
    (stop = some eeof → (s'.kernel.iott io).eof = true)

section Channel
variable {σ π : Type} {port : Port σ π} {pdrv : π} {iopkt : IOPKT} {s : σ} {size : WORD}
variable {buffer : ADDRESS} {junk : BYTE}

theorem writeChannel_open (driver : port.driver s = some pdrv) (opened : port.opened s = some true)
    (unbuffered : port.buffered pdrv s = some false)
    (packet : port.packet drvWrite junk s = some iopkt) :
    port.writeChannel size buffer junk s =
      port.writeLoop pdrv buffer size.toInt.toNat 0 iopkt eok 0 s := by
  simp only [Port.writeChannel, driver, opened, unbuffered, packet, Option.bind_eq_bind,
    Option.bind_some, not_true_eq_false, Bool.false_eq_true, if_false]

theorem readChannel_open (driver : port.driver s = some pdrv) (opened : port.opened s = some true)
    (unbuffered : port.buffered pdrv s = some false)
    (packet : port.packet drvRead junk s = some iopkt) :
    port.readChannel size buffer junk s =
      port.readLoop pdrv buffer size.toInt.toNat 0 iopkt 0 0 s := by
  simp only [Port.readChannel, driver, opened, unbuffered, packet, Option.bind_eq_bind,
    Option.bind_some, not_true_eq_false, Bool.false_eq_true, if_false]

theorem writeChannel_closed (pdrv) (driver : port.driver s = some pdrv)
    (closed : port.opened s = some false) :
    port.writeChannel size buffer junk s = some (enotopen, 0, s) := by
  simp [Port.writeChannel, driver, closed]

theorem readChannel_closed (pdrv) (driver : port.driver s = some pdrv)
    (closed : port.opened s = some false) :
    port.readChannel size buffer junk s = some (enotopen, 0, s) := by
  simp [Port.readChannel, driver, closed]

end Channel

section Services
variable {drivers : Drivers δ} {io : Fin iotSentries} {d : Fin maxDrv} {s : Session δ}

/-- The request of a channel. -/
theorem session_packet (drivers : Drivers δ) (io : Fin iotSentries) (s : Session δ) (function : WORD)
    (junk : BYTE) : ∃ iopkt,
    (sessionPort drivers io).packet function junk s = some iopkt ∧
      Requests function (s.kernel.iott io) iopkt :=
  ⟨_, rfl, rfl, rfl, rfl, rfl⟩

theorem svcWrite_wrote (opened : (s.kernel.iott io).opened = true)
    (driver : (s.kernel.iott io).driver = d) (unbuffered : (s.kernel.drvcbt d).desc.buffered = false)
    (bytewise : Bytewise drivers d drvWrite) (size : WORD) (buffer : ADDRESS) (junk : BYTE) :
    ∃ ret s', (sessionPort drivers io).svcWrite size buffer junk s = some (ret, s') ∧
      Wrote io size.toInt.toNat buffer s s' ret := by
  obtain ⟨iopkt, packet, requests⟩ := session_packet drivers io s drvWrite junk
  obtain ⟨log, count, stop, rc, device, ran, transferred, ended, sends⟩ :=
    writeLoop_transfers io bytewise buffer size.toInt.toNat 0 iopkt eok 0 s requests (by decide)
  rw [Int.zero_add, ← writeChannel_open (congrArg some driver) (congrArg some opened)
    (congrArg some unbuffered) packet] at ran
  simp only [Nat.zero_add] at sends
  cases stop with
  | none =>
    have fine : ¬ rc < 0 := Int.not_lt.mpr ended
    let s' : Session δ := { s with
      kernel := (s.kernel.setErrno eok).modifyIote io ({ · with ioerror := false })
      device, calls := s.calls ++ log }
    refine ⟨count, s', ?_, log, count, none, rfl, rfl, transferred, sends, rfl, ?_, ?_⟩
    · rw [Port.svcWrite, ran]
      exact if_neg fine
    · exact setErrno_errno s.kernel eok
    · simp [s']
  | some error =>
    obtain ⟨rfl, failed⟩ := ended
    let s' : Session δ := { s with
      kernel := (s.kernel.setErrno rc).modifyIote io ({ · with ioerror := true })
      device, calls := s.calls ++ log }
    refine ⟨count, s', ?_, log, count, some rc, rfl, rfl, transferred, sends, rfl, ?_, ?_⟩
    · rw [Port.svcWrite, ran]
      exact if_pos failed
    · exact setErrno_errno s.kernel rc
    · simp [s']

theorem svcRead_hasRead (opened : (s.kernel.iott io).opened = true)
    (driver : (s.kernel.iott io).driver = d) (unbuffered : (s.kernel.drvcbt d).desc.buffered = false)
    (bytewise : Bytewise drivers d drvRead) (size : WORD) (buffer : ADDRESS) (junk : BYTE) :
    ∃ ret s', (sessionPort drivers io).svcRead size buffer junk s = some (ret, s') ∧
      HasRead io size.toInt.toNat buffer s s' ret := by
  have few : 0 + size.toInt.toNat ≤ 65536 := by
    have bound := BitVec.toInt_lt (x := size)
    omega
  obtain ⟨iopkt, packet, requests⟩ := session_packet drivers io s drvRead junk
  obtain ⟨log, count, stop, rc, device, memory, ran, transferred, ended, asks, filled⟩ :=
    readLoop_transfers io bytewise buffer size.toInt.toNat 0 iopkt 0 0 s few requests (by decide)
  rw [Int.zero_add, ← readChannel_open (congrArg some driver) (congrArg some opened)
    (congrArg some unbuffered) packet] at ran
  cases stop with
  | none =>
    have fine : ¬ rc < 0 := Int.not_lt.mpr ended
    let s' : Session δ := { s with
      kernel := ((s.kernel.setErrno eok).modifyIote io ({ · with ioerror := false })).modifyIote io
        ({ · with eof := false })
      memory, device, calls := s.calls ++ log }
    refine ⟨count, s', ?_, log, count, none, rfl, rfl, transferred, asks, filled, ?_, ?_, nofun⟩
    · rw [Port.svcRead, ran]
      exact if_neg fine
    · exact setErrno_errno s.kernel eok
    · simp [s', Kernel.modifyIote]
  | some error =>
    obtain ⟨rfl, failed⟩ := ended
    by_cases end_of_file : rc = eeof
    · let s' : Session δ := { s with
        kernel := ((s.kernel.modifyIote io ({ · with eof := true })).modifyIote io
          ({ · with ioerror := false })).setErrno rc
        memory, device, calls := s.calls ++ log }
      refine ⟨count, s', ?_, log, count, some rc, rfl, rfl, transferred, asks, filled, ?_, ?_, ?_⟩
      · rw [Port.svcRead, ran]
        exact (if_pos failed).trans (if_pos end_of_file)
      · exact setErrno_errno s.kernel rc
      · simp [s', Kernel.modifyIote, Kernel.setErrno, end_of_file]
      · intro _
        simp [s', Kernel.modifyIote, Kernel.setErrno]
    · let s' : Session δ := { s with
        kernel := (s.kernel.modifyIote io ({ · with ioerror := true })).setErrno rc
        memory, device, calls := s.calls ++ log }
      refine ⟨count, s', ?_, log, count, some rc, rfl, rfl, transferred, asks, filled, ?_, ?_, ?_⟩
      · rw [Port.svcRead, ran]
        exact (if_pos failed).trans (if_neg end_of_file)
      · exact setErrno_errno s.kernel rc
      · simp [s', Kernel.modifyIote, Kernel.setErrno, end_of_file]
      · intro same
        exact absurd (Option.some_inj.mp same) end_of_file

theorem svcWrite_closed (closed : (s.kernel.iott io).opened = false) (size : WORD)
    (buffer : ADDRESS) (junk : BYTE) :
    ∃ s', (sessionPort drivers io).svcWrite size buffer junk s = some (0, s') ∧
      s'.errno = enotopen ∧ s'.calls = s.calls := by
  let s' : Session δ := { s with
    kernel := (s.kernel.setErrno enotopen).modifyIote io ({ · with ioerror := true }) }
  refine ⟨s', ?_, setErrno_errno s.kernel enotopen, rfl⟩
  rw [Port.svcWrite, writeChannel_closed (s.kernel.iott io).driver rfl
    (congrArg some closed)]
  rfl

theorem svcRead_closed (closed : (s.kernel.iott io).opened = false) (size : WORD)
    (buffer : ADDRESS) (junk : BYTE) :
    ∃ s', (sessionPort drivers io).svcRead size buffer junk s = some (0, s') ∧
      s'.errno = enotopen ∧ s'.calls = s.calls := by
  let s' : Session δ := { s with
    kernel := (s.kernel.modifyIote io ({ · with ioerror := true })).setErrno enotopen }
  refine ⟨s', ?_, setErrno_errno s.kernel enotopen, rfl⟩
  rw [Port.svcRead, readChannel_closed (s.kernel.iott io).driver rfl
    (congrArg some closed)]
  rfl

/-- On an open channel without a buffer, both services transfer byte after byte
up to the first error and say in errno and the flags why they ended. On a
channel that is not open they call no driver. -/
theorem transfer_partial (drivers : Drivers δ) (io : Fin iotSentries) (size : WORD)
    (buffer : ADDRESS) (junk : BYTE) (s : Session δ) :
    (∀ d, (s.kernel.iott io).opened = true → (s.kernel.iott io).driver = some d →
      (s.kernel.drvcbt d).desc.buffered = false →
        (Bytewise drivers d drvWrite →
          ∃ ret s', (sessionPort drivers io).svcWrite size buffer junk s = some (ret, s') ∧
            Wrote io size.toInt.toNat buffer s s' ret) ∧
        (Bytewise drivers d drvRead →
          ∃ ret s', (sessionPort drivers io).svcRead size buffer junk s = some (ret, s') ∧
            HasRead io size.toInt.toNat buffer s s' ret)) ∧
    ((s.kernel.iott io).opened = false →
      (∃ s', (sessionPort drivers io).svcWrite size buffer junk s = some (0, s') ∧
        s'.errno = enotopen ∧ s'.calls = s.calls) ∧
      ∃ s', (sessionPort drivers io).svcRead size buffer junk s = some (0, s') ∧
        s'.errno = enotopen ∧ s'.calls = s.calls) := by
  constructor
  · intro d opened driver unbuffered
    constructor
    · intro bytewise
      exact svcWrite_wrote opened driver unbuffered bytewise size buffer junk
    · intro bytewise
      exact svcRead_hasRead opened driver unbuffered bytewise size buffer junk
  · intro closed
    exact ⟨svcWrite_closed closed size buffer junk, svcRead_closed closed size buffer junk⟩

end Services

/-- A tape that is read from its start and written at its end. -/
def tape : Drivers (List BYTE) := fun _ iopkt device =>
  if iopkt.function = drvWrite then (⟨1, eok, iopkt.ioarea⟩, device ++ [iopkt.ioarea])
  else
    match device with
    | [] => (⟨eeof, eeof, iopkt.ioarea⟩, [])
    | b :: rest => (⟨1, eok, b⟩, rest)

theorem tape_bytewise : Bytewise tape 0 drvRead := by
  intro iopkt device function
  cases device with
  | nil =>
    right
    simp [tape, function]
  | cons b rest =>
    left
    simp [tape, function]

/-- The first channel is open on a tape with two bytes. -/
def onTape : Session (List BYTE) where
  kernel := oneDisk.modifyIote 0 ({ · with driver := some 0, opened := true })
  memory := fun _ => 0
  device := [0x48, 0x49]

theorem transfer_partial_tape :
    ∃ ret s', (sessionPort tape 0).svcRead 5 0o60000 0 onTape = some (ret, s') ∧
      HasRead 0 (5 : WORD).toInt.toNat 0o60000 onTape s' ret :=
  (( transfer_partial tape 0 5 0o60000 0 onTape).1 0 rfl rfl rfl).2 tape_bytewise

end Muxx
