import Muxx.Lib.Convention
import Muxx.Mutex
import Muxx.ReadWrite

/-!
# Any word as a channel

muxx_svc_read, muxx_svc_write and muxx_svc_close take the channel from the task
and follow it, whatever it is. Here they work on memory, with channels, drivers
and callbacks behind the words they point to:

* `handlePort`: reading and writing through any word;
* `svcCloseAt`: closing any word;
* `Rejected`, `Symbols.CloseAnswer`: what is left by a refusal;
* `handle_refused`: nothing happens when the flag behind the word is clear.
-/

namespace Muxx

open Pdp11

/-- The memory as the kernel addresses it. At odd addresses and where nothing is
mapped the machine traps. -/
structure Space where
  word : ADDRESS → WORD
  mapped : ADDRESS → Bool

namespace Space

/-- There is a word at `a`. -/
def At (m : Space) (a : ADDRESS) : Prop := a.toNat % 2 = 0 ∧ m.mapped a = true

instance At.decidable (m : Space) (a : ADDRESS) : Decidable (m.At a) :=
  inferInstanceAs (Decidable (a.toNat % 2 = 0 ∧ m.mapped a = true))

def put (m : Space) (a : ADDRESS) (w : WORD) : Space :=
  { m with word := Function.update m.word a w }

@[simp] theorem put_self (m : Space) (a : ADDRESS) (w : WORD) : (m.put a w).word a = w :=
  Function.update_self ..

theorem put_ne (m : Space) {a x : ADDRESS} (w : WORD) (h : x ≠ a) :
    (m.put a w).word x = m.word x :=
  Function.update_of_ne h ..

@[simp] theorem put_mapped (m : Space) (a : ADDRESS) (w : WORD) :
    (m.put a w).mapped = m.mapped := rfl

@[simp] theorem put_at (m : Space) (a x : ADDRESS) (w : WORD) : (m.put a w).At x = m.At x := rfl

end Space

instance space : Bus Space where
  read m a := if m.At a then some (m.word a) else none
  write m a w := if m.At a then some (m.put a w) else none

/-- The bit-fields `open`, `eof`, `ioerror` and `dealloc` of a channel. -/
abbrev openBit : Nat := 0
abbrev eofBit : Nat := 1
abbrev ioerrorBit : Nat := 2
abbrev deallocBit : Nat := 3

/-- `free` and `alloc` of a driver control block. -/
abbrev freeBit : Nat := 0
abbrev allocBit : Nat := 4

/-- `buffered` of a driver descriptor. -/
abbrev bufferedBit : Nat := 3

def setBit (w : WORD) (i : Nat) (b : Bool) : WORD :=
  if b then w ||| BitVec.twoPow 16 i else w &&& ~~~ BitVec.twoPow 16 i

/-- A word that keeps an `int`. -/
def intWord (n : Int) : WORD := BitVec.ofInt 16 n

/-- The machine in a system call, with the callbacks it has jumped to. -/
structure KernelMode (δ : Type) where
  space : Space
  ipl : Nat := 0
  device : δ
  jumps : List ADDRESS := []

/-- What the code at an address does when it is called with a packet. -/
abbrev Code (δ : Type) := ADDRESS → IOPKT → Space × δ → Option (Int × IOPKT × Space × δ)

variable {δ : Type}

namespace KernelMode
variable (s : KernelMode δ)

def get (a : ADDRESS) : Option WORD := Bus.read s.space a

def put (a : ADDRESS) (w : WORD) : Option (KernelMode δ) :=
  (Bus.write s.space a w).map ({ s with space := · })

def getb (a : ADDRESS) : Option BYTE := Bus.readb s.space a

def putb (a : ADDRESS) (b : BYTE) : Option (KernelMode δ) :=
  (Bus.writeb s.space a b).map ({ s with space := · })

def getBit (a : ADDRESS) (i : Nat) : Option Bool := (s.get a).map (·.getLsbD i)

def putBit (a : ADDRESS) (i : Nat) (b : Bool) : Option (KernelMode δ) := do
  let w ← s.get a
  s.put a (setBit w i b)

def setpl (pl : Nat) : KernelMode δ := { s with ipl := pl }

def setpl7 : KernelMode δ := s.setpl 7

/-- muxx_drv_exec. -/
def drvExec (code : Code δ) (pdrv : ADDRESS) (iopkt : IOPKT) :
    Option (Int × IOPKT × KernelMode δ) := do
  let desc ← s.get (pdrv + 8)
  let callback ← s.get (desc + iopkt.function + iopkt.function)
  let (rc, iopkt, space, device) ← code callback iopkt (s.space, s.device)
  return (rc, iopkt, { s with space, device, jumps := s.jumps ++ [callback] })

end KernelMode

/-- The addresses of the variables of the kernel. -/
structure Symbols where
  curtcb : ADDRESS
  drvcbtaddr : ADDRESS
  iott : ADDRESS
  mutexes : ADDRESS

namespace Symbols
variable (sys : Symbols) (s : KernelMode δ)

/-- A field of the running task. -/
def getCur (field : ADDRESS) : Option WORD := do
  let curtcb ← s.get sys.curtcb
  s.get (curtcb + field)

def setErrno (rc : Int) : Option (KernelMode δ) := do
  let tucb ← sys.getCur s 24
  s.put (tucb + 8) (intWord rc)

/-- muxx_svc_mutex with its table in memory. -/
def svcMutexAt (mutex op : WORD) : Option (Int × KernelMode δ) :=
  if mutex > mutMutexes then some (einvval, s)
  else if op = mutRead then do
    let b ← s.getb (sys.mutexes + mutex)
    return (b.toNat, s)
  else if op = mutAlloc then do
    let curpl := s.ipl
    let s := s.setpl7
    let b ← s.getb (sys.mutexes + mutex)
    if b = 0 then
      let pid ← sys.getCur s 8
      let s ← s.putb (sys.mutexes + mutex) (keptPid pid)
      return (eok, s.setpl curpl)
    else return (elocked, s)
  else if op = mutDealloc then do
    let curpl := s.ipl
    let s := s.setpl7
    let b ← s.getb (sys.mutexes + mutex)
    let pid ← sys.getCur s 8
    if b.setWidth 16 = pid then
      let s ← s.putb (sys.mutexes + mutex) 0
      return (eok, s.setpl curpl)
    else return (elocked, s)
  else some (einvval, s)

/-- `memcmp(a, b, n) == 0`. -/
def memcmpAt (a b : ADDRESS) : Nat → Option Bool
  | 0 => some true
  | n + 1 => do
    let x ← s.getb a
    let y ← s.getb b
    if x = y then memcmpAt (a + 1) (b + 1) n else return false

def findDriverLoop (drivers devnam : ADDRESS) : List Nat → Option (Option ADDRESS)
  | [] => some none
  | i :: is => do
    let driver := drivers + 10 + BitVec.ofNat 16 (18 * i)
    let free ← s.getBit (driver + 10) freeBit
    if free then findDriverLoop drivers devnam is
    else
      let same ← memcmpAt s devnam driver 8
      if same then return some driver else findDriverLoop drivers devnam is

/-- muxx_find_driver. -/
def findDriverAt (devnam : ADDRESS) : Option (Option ADDRESS) := do
  let drivers ← s.get sys.drvcbtaddr
  findDriverLoop s drivers devnam (List.range maxDrv)

/-- What muxx_svc_alloc does while it has the mutex. -/
def allocLocked (driver : ADDRESS) (op : WORD) : Option (Int × KernelMode δ) := do
  let alloc ← s.getBit (driver + 10) allocBit
  if op = drvAlloc then
    if ¬ alloc then
      let curtcb ← s.get sys.curtcb
      let s ← s.put (driver + 14) curtcb
      let s ← s.putBit (driver + 10) allocBit true
      return (eok, s)
    else return (enoavail, s)
  else if alloc then
    let ownerid ← s.get (driver + 14)
    let curtcb ← s.get sys.curtcb
    let operprv ← if ownerid ≠ curtcb then s.getBit (curtcb + 20) 0 else some false
    let s ← s.put (driver + 14) 0
    let s ← s.putBit (driver + 10) allocBit false
    return (if operprv then enopriv else eok, s)
  else return (enotalloc, s)

/-- muxx_svc_alloc. -/
def svcAllocAt (devnam : ADDRESS) (op : WORD) : Option (Int × KernelMode δ) := do
  match ← sys.findDriverAt s devnam with
  | none => return (enotfound, s)
  | some driver =>
    let (rc, s) ← sys.svcMutexAt s mutDrv mutAlloc
    if rc = eok then
      let (rc, s) ← sys.allocLocked s driver op
      let (_, s) ← sys.svcMutexAt s mutDrv mutDealloc
      return (rc, s)
    else return (rc, s)

/-- The entry is given back; a buffer is not, and that is no error. -/
def releaseAt (io : ADDRESS) : Option (KernelMode δ) := do
  let s ← s.putBit (io + 2) openBit false
  let s ← s.put io 0
  let s ← s.putb (io + 8) 0
  let s ← s.putb (io + 9) 0
  let buffaddr ← s.get (io + 14)
  if buffaddr ≠ 0 then sys.setErrno s enoimpl else return s

/-- What muxx_svc_close does while it has the mutex, or the message of a panic. -/
def closeLocked (io : ADDRESS) : Option (Except String Int × KernelMode δ) := do
  let opened ← s.getBit (io + 2) openBit
  if opened then
    let dealloc ← s.getBit (io + 2) deallocBit
    if dealloc then
      let driver ← s.get io
      let (rc, s) ← sys.svcAllocAt s driver drvDealloc
      if rc ≠ eok then return (.error "muxx_svc_close", s)
      else return (.ok eok, ← sys.releaseAt s io)
    else return (.ok eok, ← sys.releaseAt s io)
  else return (.ok enotopen, s)

/-- The end of muxx_svc_close. -/
def closeUnlock (rc : Int) : Option (Except String Int × KernelMode δ) := do
  let (rc1, s) ← sys.svcMutexAt s mutChan mutDealloc
  if rc1 ≠ eok then return (.error "muxx_svc_close: dealloc mutex", s)
  else return (.ok rc, ← sys.setErrno s rc)

/-- muxx_svc_close. -/
def svcCloseAt (io : ADDRESS) : Option (Except String Int × KernelMode δ) := do
  let (rc, s) ← sys.svcMutexAt s mutChan mutAlloc
  if rc = eok then
    match ← sys.closeLocked s io with
    | (.error message, s) => return (.error message, s)
    | (.ok rc, s) => sys.closeUnlock s rc
  else sys.closeUnlock s rc

end Symbols

/-- The port of any word. -/
def handlePort (sys : Symbols) (code : Code δ) (channel : ADDRESS) : Port (KernelMode δ) ADDRESS where
  driver s := s.get channel
  opened s := s.getBit (channel + 2) openBit
  buffered pdrv s := do
    let desc ← s.get (pdrv + 8)
    s.getBit (desc + 20) bufferedBit
  controller s := s.getb (channel + 8)
  unit s := s.getb (channel + 9)
  drvExec pdrv iopkt s := s.drvExec code pdrv iopkt
  load a s := s.getb a
  store a b s := s.putb a b
  setErrno rc s := sys.setErrno s rc
  setIoerror b s := s.putBit (channel + 2) ioerrorBit b
  setEof b s := s.putBit (channel + 2) eofBit b

/-! ## Reading and writing memory -/

section Memory
variable {s s' s₁ : KernelMode δ} {a x : ADDRESS} {w : WORD} {b : BYTE} {i : Nat}

theorem get_at (h : s.space.At a) : s.get a = some (s.space.word a) := if_pos h

theorem get_trap (h : ¬ s.space.At a) : s.get a = none := if_neg h

theorem get_some (h : s.get a = some w) : s.space.At a ∧ s.space.word a = w := by
  by_cases there : s.space.At a
  · rw [get_at there] at h
    exact ⟨there, Option.some_inj.mp h⟩
  · rw [get_trap there] at h
    cases h

/-- Another content of the memory. -/
def KernelMode.onto (s : KernelMode δ) (m : Space) : KernelMode δ := { s with space := m }

@[simp] theorem onto_space (s : KernelMode δ) (m : Space) : (s.onto m).space = m := rfl

theorem put_there (h : s.space.At a) : s.put a w = some (s.onto (s.space.put a w)) := by
  unfold KernelMode.put
  rw [show Bus.write s.space a w = some (s.space.put a w) from if_pos h]
  rfl

theorem put_trap (h : ¬ s.space.At a) : s.put a w = none := by
  unfold KernelMode.put
  rw [show Bus.write s.space a w = none from if_neg h]
  rfl

theorem getBit_at (h : s.space.At a) : s.getBit a i = some ((s.space.word a).getLsbD i) := by
  rw [KernelMode.getBit, get_at h]
  rfl

theorem getBit_some {on : Bool} (h : s.getBit a i = some on) :
    s.space.At a ∧ (s.space.word a).getLsbD i = on := by
  obtain ⟨w, read, bit⟩ := Option.map_eq_some_iff.mp h
  obtain ⟨there, rfl⟩ := get_some read
  exact ⟨there, bit⟩

theorem putBit_at (h : s.space.At a) (on : Bool) :
    s.putBit a i on = some (s.onto (s.space.put a (setBit (s.space.word a) i on))) := by
  rw [KernelMode.putBit, get_at h]
  exact put_there h

/-! Bytes. -/

/-- The word that has the byte at `a`. -/
def evenAt (a : ADDRESS) : ADDRESS := a &&& 0xFFFE

def byteOf (a : ADDRESS) (w : WORD) : BYTE :=
  if a.getLsbD 0 then w.extractLsb' 8 8 else w.setWidth 8

def withByte (a : ADDRESS) (w : WORD) (b : BYTE) : WORD :=
  if a.getLsbD 0 then b ++ w.setWidth 8 else w.extractLsb' 8 8 ++ b

theorem word_halves (w : WORD) : w.extractLsb' 8 8 ++ w.setWidth 8 = w := by
  apply BitVec.eq_of_getLsbD_eq
  intro i within
  rw [BitVec.getLsbD_append]
  by_cases low : i < 8
  · simp [low]
  · have index : 8 + (i - 8) = i := by omega
    have high : i - 8 < 8 := by omega
    simp [low, index, high]

theorem byteOf_withByte (a : ADDRESS) (w : WORD) (b : BYTE) : byteOf a (withByte a w b) = b := by
  unfold byteOf withByte
  by_cases odd : a.getLsbD 0
  · rw [if_pos odd, if_pos odd]
    exact BitVec.extractLsb'_append_eq_left
  · rw [if_neg odd, if_neg odd]
    exact BitVec.setWidth_append_eq_right

theorem withByte_byteOf (a : ADDRESS) (w : WORD) : withByte a w (byteOf a w) = w := by
  unfold byteOf withByte
  by_cases odd : a.getLsbD 0
  · rw [if_pos odd, if_pos odd]
    exact word_halves w
  · rw [if_neg odd, if_neg odd]
    exact word_halves w

theorem withByte_withByte (a : ADDRESS) (w : WORD) (b c : BYTE) :
    withByte a (withByte a w b) c = withByte a w c := by
  unfold withByte
  by_cases odd : a.getLsbD 0
  · simp only [if_pos odd, BitVec.setWidth_append_eq_right]
  · simp only [if_neg odd, BitVec.extractLsb'_append_eq_left]

namespace Space

def byte (m : Space) (a : ADDRESS) : BYTE := byteOf a (m.word (evenAt a))

def putByte (m : Space) (a : ADDRESS) (b : BYTE) : Space :=
  m.put (evenAt a) (withByte a (m.word (evenAt a)) b)

@[simp] theorem putByte_at (m : Space) (a x : ADDRESS) (b : BYTE) :
    (m.putByte a b).At x = m.At x := rfl

theorem putByte_ne (m : Space) {a x : ADDRESS} (b : BYTE) (h : x ≠ evenAt a) :
    (m.putByte a b).word x = m.word x :=
  put_ne m _ h

theorem putByte_self (m : Space) (a : ADDRESS) (b : BYTE) : (m.putByte a b).byte a = b := by
  rw [byte, putByte, put_self]
  exact byteOf_withByte ..

theorem put_put (m : Space) (a : ADDRESS) (w v : WORD) : (m.put a w).put a v = m.put a v := by
  unfold put
  rw [Function.update_idem]

theorem put_word (m : Space) (a : ADDRESS) : m.put a (m.word a) = m := by
  unfold put
  rw [Function.update_eq_self]

theorem putByte_byte (m : Space) (a : ADDRESS) : m.putByte a (m.byte a) = m := by
  rw [putByte, byte, withByte_byteOf]
  exact m.put_word _

/-- A byte can be put back. -/
theorem putByte_back (m : Space) (a : ADDRESS) (b : BYTE) :
    (m.putByte a b).putByte a (m.byte a) = m := by
  rw [putByte, putByte, put_self, put_put, withByte_withByte]
  exact m.putByte_byte a

end Space

theorem getb_at (h : s.space.At (evenAt a)) : s.getb a = some (s.space.byte a) := by
  show (s.get (evenAt a)).map _ = _
  rw [get_at h]
  rfl

theorem getb_some (h : s.getb a = some b) : s.space.At (evenAt a) ∧ s.space.byte a = b := by
  obtain ⟨w, read, byte⟩ := Option.map_eq_some_iff.mp h
  obtain ⟨there, rfl⟩ := get_some read
  exact ⟨there, byte⟩

theorem putb_at (h : s.space.At (evenAt a)) :
    s.putb a b = some (s.onto (s.space.putByte a b)) := by
  have read : Bus.read s.space (evenAt a) = some (s.space.word (evenAt a)) := if_pos h
  have write (w : WORD) : Bus.write s.space (evenAt a) w = some (s.space.put (evenAt a) w) :=
    if_pos h
  show ((Bus.read s.space (evenAt a)).bind fun w => Bus.write s.space (evenAt a) _).map _ = _
  rw [read, Option.bind_some, write]
  rfl

end Memory

/-! ## errno -/

namespace Symbols
variable (sys : Symbols)

/-- Where the running task keeps `errno`. -/
def errnoAt (m : Space) : ADDRESS := m.word (m.word sys.curtcb + 24) + 8

/-- The kernel finds `errno`. -/
structure FindsErrno (m : Space) : Prop where
  curtcb : m.At sys.curtcb
  taskTUCB : m.At (m.word sys.curtcb + 24)
  errno : m.At (sys.errnoAt m)

variable {sys} {s : KernelMode δ}

theorem getCur_at {field : ADDRESS} (curtcb : s.space.At sys.curtcb)
    (there : s.space.At (s.space.word sys.curtcb + field)) :
    sys.getCur s field = some (s.space.word (s.space.word sys.curtcb + field)) := by
  rw [getCur, get_at curtcb]
  exact get_at there

theorem getCur_some {field : ADDRESS} {w : WORD} (h : sys.getCur s field = some w) :
    s.space.At sys.curtcb ∧ s.space.At (s.space.word sys.curtcb + field) ∧
      s.space.word (s.space.word sys.curtcb + field) = w := by
  obtain ⟨curtcb, found, read⟩ := Option.bind_eq_some_iff.mp h
  obtain ⟨there, rfl⟩ := get_some found
  exact ⟨there, get_some read⟩

theorem setErrno_found (h : sys.FindsErrno s.space) (rc : Int) :
    sys.setErrno s rc = some (s.onto (s.space.put (sys.errnoAt s.space) (intWord rc))) := by
  rw [setErrno, getCur_at h.curtcb h.taskTUCB]
  exact put_there h.errno

theorem setErrno_lost (h : ¬ sys.FindsErrno s.space) (rc : Int) : sys.setErrno s rc = none := by
  cases found : sys.getCur s 24 with
  | none =>
    rw [setErrno, found]
    rfl
  | some tucb =>
    obtain ⟨curtcb, there, rfl⟩ := getCur_some found
    rw [setErrno, found]
    apply put_trap
    intro errno
    exact h ⟨curtcb, there, errno⟩

end Symbols

/-! ## A channel that is not open -/

/-- The open flag that is found through a channel. -/
def Space.openAt (m : Space) (channel : ADDRESS) : Bool :=
  (m.word (channel + 2)).getLsbD openBit

/-- `ioerror` is set in the word behind a channel. -/
def Space.setIoerror (m : Space) (channel : ADDRESS) : Space :=
  m.put (channel + 2) (setBit (m.word (channel + 2)) ioerrorBit true)

/-- Reading or writing has been refused: `errno`, at `e`, says so, and so does the
flag of the channel. -/
structure Rejected (channel e : ADDRESS) (s s' : KernelMode δ) : Prop where
  same : s' = s.onto s'.space
  mapped : s'.space.mapped = s.space.mapped
  other : ∀ a, a ≠ e → a ≠ channel + 2 → s'.space.word a = s.space.word a
  errno : e ≠ channel + 2 → s'.space.word e = intWord enotopen
  ioerror : e ≠ channel + 2 →
    s'.space.word (channel + 2) = setBit (s.space.word (channel + 2)) ioerrorBit true

section Closed
variable {sys : Symbols} {code : Code δ} {channel buffer : ADDRESS} {size : WORD} {junk : BYTE}
variable {s s' : KernelMode δ}

theorem writeChannel_at (there : s.space.At channel) (status : s.space.At (channel + 2))
    (closed : s.space.openAt channel = false) :
    (handlePort sys code channel).writeChannel size buffer junk s = some (enotopen, 0, s) :=
  writeChannel_closed (s.space.word channel) (get_at there)
    ((getBit_at status).trans (congrArg some closed))

theorem readChannel_at (there : s.space.At channel) (status : s.space.At (channel + 2))
    (closed : s.space.openAt channel = false) :
    (handlePort sys code channel).readChannel size buffer junk s = some (enotopen, 0, s) :=
  readChannel_closed (s.space.word channel) (get_at there)
    ((getBit_at status).trans (congrArg some closed))

/-- Both services look at the driver and at the flag first. -/
theorem lost_channel {α : Type} (lost : ¬ (s.space.At channel ∧ s.space.At (channel + 2)))
    (f : ADDRESS → Bool → Option α) :
    ((s.get channel).bind fun pdrv => (s.getBit (channel + 2) openBit).bind (f pdrv)) = none := by
  by_cases there : s.space.At channel
  · have status : ¬ s.space.At (channel + 2) := fun status => lost ⟨there, status⟩
    rw [get_at there, Option.bind_some, KernelMode.getBit, get_trap status]
    rfl
  · rw [get_trap there, Option.bind_none]

theorem writeChannel_trap (lost : ¬ (s.space.At channel ∧ s.space.At (channel + 2))) :
    (handlePort sys code channel).writeChannel size buffer junk s = none :=
  lost_channel lost _

theorem readChannel_trap (lost : ¬ (s.space.At channel ∧ s.space.At (channel + 2))) :
    (handlePort sys code channel).readChannel size buffer junk s = none :=
  lost_channel lost _

/-- A service that is refused, if the kernel finds what it uses. -/
def RefusesAt (channel e : ADDRESS) (found : Prop) (s : KernelMode δ)
    (answer : Option (Int × KernelMode δ)) : Prop :=
  (found → ∃ s', answer = some (0, s') ∧ Rejected channel e s s') ∧ (¬ found → answer = none)

/-- errno is written first. -/
theorem svcWrite_refused (closed : s.space.openAt channel = false) :
    RefusesAt channel (sys.errnoAt s.space)
      (s.space.At channel ∧ s.space.At (channel + 2) ∧ sys.FindsErrno s.space) s
      ((handlePort sys code channel).svcWrite size buffer junk s) := by
  constructor
  · rintro ⟨there, status, found⟩
    let e := sys.errnoAt s.space
    let m := s.space.put e (intWord enotopen)
    refine ⟨s.onto (m.setIoerror channel), ?_, ?_⟩
    · rw [Port.svcWrite, writeChannel_at there status closed]
      show ((sys.setErrno s enotopen).bind fun s₁ =>
        (s₁.putBit (channel + 2) ioerrorBit true).bind fun s₂ => some (0, s₂)) = _
      rw [Symbols.setErrno_found found, Option.bind_some]
      have flagged := putBit_at (s := s.onto m) (i := ioerrorBit) status true
      exact congrArg (Option.bind · _) flagged
    · constructor
      · rfl
      · rfl
      · intro a errno flag
        exact (Space.put_ne _ _ flag).trans (Space.put_ne _ _ errno)
      · intro apart
        exact (Space.put_ne _ _ apart).trans (Space.put_self ..)
      · intro apart
        have before : m.word (channel + 2) = s.space.word (channel + 2) :=
          Space.put_ne _ _ apart.symm
        rw [← before]
        exact Space.put_self ..
  · intro lost
    by_cases reached : s.space.At channel ∧ s.space.At (channel + 2)
    · rw [Port.svcWrite, writeChannel_at reached.1 reached.2 closed]
      show ((sys.setErrno s enotopen).bind _) = none
      rw [Symbols.setErrno_lost fun found => lost ⟨reached.1, reached.2, found⟩]
      rfl
    · rw [Port.svcWrite, writeChannel_trap reached]
      rfl

/-- The flag is written first, and errno is looked for afterwards. -/
theorem svcRead_refused (closed : s.space.openAt channel = false) :
    RefusesAt channel (sys.errnoAt (s.space.setIoerror channel))
      (s.space.At channel ∧ s.space.At (channel + 2) ∧
        sys.FindsErrno (s.space.setIoerror channel)) s
      ((handlePort sys code channel).svcRead size buffer junk s) := by
  constructor
  · rintro ⟨there, status, found⟩
    let m := s.space.setIoerror channel
    refine ⟨s.onto (m.put (sys.errnoAt m) (intWord enotopen)), ?_, ?_⟩
    · rw [Port.svcRead, readChannel_at there status closed]
      show ((s.putBit (channel + 2) ioerrorBit true).bind fun s₁ =>
        (sys.setErrno s₁ enotopen).bind fun s₂ => some (0, s₂)) = _
      rw [putBit_at status, Option.bind_some]
      have errno := Symbols.setErrno_found (s := s.onto m) found enotopen
      exact (congrArg (Option.bind · _) errno).trans rfl
    · constructor
      · rfl
      · rfl
      · intro a errno flag
        exact (Space.put_ne _ _ errno).trans (Space.put_ne _ _ flag)
      · intro _
        exact Space.put_self ..
      · intro apart
        exact (Space.put_ne _ _ apart.symm).trans (Space.put_self ..)
  · intro lost
    by_cases reached : s.space.At channel ∧ s.space.At (channel + 2)
    · rw [Port.svcRead, readChannel_at reached.1 reached.2 closed]
      show ((s.putBit (channel + 2) ioerrorBit true).bind fun s₁ =>
        (sys.setErrno s₁ enotopen).bind _) = none
      rw [putBit_at reached.2, Option.bind_some]
      have unknown : ¬ sys.FindsErrno (s.space.setIoerror channel) :=
        fun found => lost ⟨reached.1, reached.2, found⟩
      have errno := Symbols.setErrno_lost (s := s.onto (s.space.setIoerror channel)) unknown
        enotopen
      exact congrArg (Option.bind · _) errno
    · rw [Port.svcRead, readChannel_trap reached]
      rfl

end Closed

/-! ## Closing -/

namespace Symbols
variable (sys : Symbols)

/-- The pid of the running task. -/
def pidAt (m : Space) : WORD := m.word (m.word sys.curtcb + 8)

/-- The byte of MUT_CHAN. -/
def chan : ADDRESS := sys.mutexes + mutChan

/-- The running task has MUT_CHAN. -/
def locked (m : Space) : Space := m.putByte sys.chan (keptPid (sys.pidAt m))

/-- The running task can take MUT_CHAN and give it back. -/
structure Grants (m : Space) : Prop where
  chan : m.At (evenAt sys.chan)
  free : m.byte sys.chan = 0
  curtcb : m.At sys.curtcb
  pid : m.At (m.word sys.curtcb + 8)
  small : (sys.pidAt m).toNat < 0o400
  apart : evenAt sys.chan ≠ sys.curtcb ∧ evenAt sys.chan ≠ m.word sys.curtcb + 8

/-- What the byte of MUT_CHAN is once the task has tried to take it. -/
def tried (m : Space) : BYTE :=
  if m.byte sys.chan = 0 then keptPid (sys.pidAt m) else m.byte sys.chan

/-- The kernel takes the task for the one that has MUT_CHAN. -/
def Holds (m : Space) : Prop := (m.byte sys.chan).setWidth 16 = sys.pidAt m

variable {sys} {s s' : KernelMode δ} {mutex : WORD} {rc : Int}

theorem svcMutexAt_alloc (valid : mutex ≤ mutMutexes)
    (ran : sys.svcMutexAt s mutex mutAlloc = some (rc, s')) :
    (s.space.byte (sys.mutexes + mutex) = 0 ∧ rc = eok ∧
      s' = s.onto (s.space.putByte (sys.mutexes + mutex) (keptPid (sys.pidAt s.space)))) ∨
    (s.space.byte (sys.mutexes + mutex) ≠ 0 ∧ rc = elocked ∧ s' = s.setpl7) := by
  rw [svcMutexAt, if_neg (BitVec.not_lt.mpr valid), if_neg (by decide), if_pos rfl] at ran
  obtain ⟨b, read, ran⟩ := Option.bind_eq_some_iff.mp ran
  obtain ⟨there, rfl⟩ : s.space.At (evenAt (sys.mutexes + mutex)) ∧
    s.space.byte (sys.mutexes + mutex) = b := getb_some read
  by_cases free : s.space.byte (sys.mutexes + mutex) = 0
  · rw [if_pos free] at ran
    obtain ⟨pid, found, ran⟩ := Option.bind_eq_some_iff.mp ran
    obtain rfl : sys.pidAt s.space = pid := (getCur_some found).2.2
    have put := putb_at (s := s.setpl7) (b := keptPid (sys.pidAt s.space)) there
    rw [put] at ran
    obtain ⟨rfl, rfl⟩ := Prod.mk.inj (Option.some_inj.mp ran)
    exact .inl ⟨free, rfl, rfl⟩
  · rw [if_neg free] at ran
    obtain ⟨rfl, rfl⟩ := Prod.mk.inj (Option.some_inj.mp ran)
    exact .inr ⟨free, rfl, rfl⟩

theorem svcMutexAt_dealloc (valid : mutex ≤ mutMutexes)
    (ran : sys.svcMutexAt s mutex mutDealloc = some (rc, s')) :
    ((s.space.byte (sys.mutexes + mutex)).setWidth 16 = sys.pidAt s.space ∧ rc = eok ∧
      s' = s.onto (s.space.putByte (sys.mutexes + mutex) 0)) ∨
    ((s.space.byte (sys.mutexes + mutex)).setWidth 16 ≠ sys.pidAt s.space ∧ rc = elocked ∧
      s' = s.setpl7) := by
  rw [svcMutexAt, if_neg (BitVec.not_lt.mpr valid), if_neg (by decide), if_neg (by decide),
    if_pos rfl] at ran
  obtain ⟨b, read, ran⟩ := Option.bind_eq_some_iff.mp ran
  obtain ⟨there, rfl⟩ : s.space.At (evenAt (sys.mutexes + mutex)) ∧
    s.space.byte (sys.mutexes + mutex) = b := getb_some read
  obtain ⟨pid, found, ran⟩ := Option.bind_eq_some_iff.mp ran
  obtain rfl : sys.pidAt s.space = pid := (getCur_some found).2.2
  by_cases own : (s.space.byte (sys.mutexes + mutex)).setWidth 16 = sys.pidAt s.space
  · rw [if_pos own] at ran
    have put := putb_at (s := s.setpl7) (b := 0) there
    rw [put] at ran
    obtain ⟨rfl, rfl⟩ := Prod.mk.inj (Option.some_inj.mp ran)
    exact .inl ⟨own, rfl, rfl⟩
  · rw [if_neg own] at ran
    obtain ⟨rfl, rfl⟩ := Prod.mk.inj (Option.some_inj.mp ran)
    exact .inr ⟨own, rfl, rfl⟩

/-- What a close comes to when the channel is not open, by the state of MUT_CHAN. A
task that has taken it itself loses it. The kernel panics where MUT_CHAN is not the
task's after all. -/
inductive CloseAnswer (sys : Symbols) (s : KernelMode δ) :
    Except String Int → KernelMode δ → Prop
  | notOpen (free : s.space.byte sys.chan = 0) (held : sys.Holds (sys.locked s.space))
      (found : sys.FindsErrno s.space) :
    CloseAnswer sys s (.ok enotopen)
      (s.onto (s.space.put (sys.errnoAt s.space) (intWord enotopen)))
  | locked {m : Space} (own : s.space.byte sys.chan ≠ 0) (held : sys.Holds s.space)
      (released : m = s.space.putByte sys.chan 0) (found : sys.FindsErrno m) :
    CloseAnswer sys s (.ok elocked) (s.setpl7.onto (m.put (sys.errnoAt m) (intWord elocked)))
  | panic {m : Space} (kept : m = s.space.putByte sys.chan (sys.tried s.space))
      (foreign : ¬ sys.Holds m) :
    CloseAnswer sys s (.error "muxx_svc_close: dealloc mutex") (s.setpl7.onto m)

theorem setErrno_some (h : sys.setErrno s rc = some s') :
    sys.FindsErrno s.space ∧ s' = s.onto (s.space.put (sys.errnoAt s.space) (intWord rc)) := by
  by_cases found : sys.FindsErrno s.space
  · rw [setErrno_found found] at h
    exact ⟨found, (Option.some_inj.mp h).symm⟩
  · rw [setErrno_lost found] at h
    cases h

theorem lock_chan (ran : sys.svcMutexAt s mutChan mutAlloc = some (rc, s')) :
    (s.space.byte sys.chan = 0 ∧ rc = eok ∧ s' = s.onto (sys.locked s.space)) ∨
    (s.space.byte sys.chan ≠ 0 ∧ rc = elocked ∧ s' = s.setpl7) :=
  svcMutexAt_alloc (by decide) ran

/-- MUT_CHAN is given back as it was. -/
theorem locked_released (free : s.space.byte sys.chan = 0) :
    (s.onto (sys.locked s.space)).onto ((sys.locked s.space).putByte sys.chan 0) = s := by
  have back := s.space.putByte_back sys.chan (keptPid (sys.pidAt s.space))
  rw [free] at back
  exact congrArg s.onto back

/-- How a close ends. -/
theorem closeUnlock_some {answer : Except String Int}
    (ran : sys.closeUnlock s rc = some (answer, s')) :
    (sys.Holds s.space ∧ answer = .ok rc ∧
      sys.setErrno (s.onto (s.space.putByte sys.chan 0)) rc = some s') ∨
    (¬ sys.Holds s.space ∧ answer = .error "muxx_svc_close: dealloc mutex" ∧ s' = s.setpl7) := by
  obtain ⟨⟨rc1, s₁⟩, unlocked, ran⟩ := Option.bind_eq_some_iff.mp ran
  rcases svcMutexAt_dealloc (by decide) unlocked with ⟨held, rfl, rfl⟩ | ⟨foreign, rfl, rfl⟩
  · obtain ⟨s₂, errno, ran⟩ := Option.bind_eq_some_iff.mp ran
    obtain ⟨rfl, rfl⟩ := Prod.mk.inj (Option.some_inj.mp ran)
    exact .inl ⟨held, rfl, errno⟩
  · obtain ⟨rfl, rfl⟩ := Prod.mk.inj (Option.some_inj.mp ran)
    exact .inr ⟨foreign, rfl, rfl⟩

/-- The flag is looked at when the task has MUT_CHAN. -/
theorem closeLocked_closed {channel : ADDRESS} {answer : Except String Int}
    (closed : s.space.openAt channel = false)
    (ran : sys.closeLocked s channel = some (answer, s')) : answer = .ok enotopen ∧ s' = s := by
  obtain ⟨opened, flag, ran⟩ := Option.bind_eq_some_iff.mp ran
  obtain rfl : false = opened := closed.symm.trans (getBit_some flag).2
  rw [if_neg Bool.false_ne_true] at ran
  obtain ⟨rfl, rfl⟩ := Prod.mk.inj (Option.some_inj.mp ran)
  exact ⟨rfl, rfl⟩

theorem svcCloseAt_answer {channel : ADDRESS} {answer : Except String Int}
    (closed : (sys.locked s.space).openAt channel = false)
    (ran : sys.svcCloseAt s channel = some (answer, s')) : CloseAnswer sys s answer s' := by
  obtain ⟨⟨rc, s₁⟩, lock, ran⟩ := Option.bind_eq_some_iff.mp ran
  rcases lock_chan lock with ⟨free, rfl, rfl⟩ | ⟨own, rfl, rfl⟩
  · obtain ⟨⟨inner, s₂⟩, close, ran⟩ := Option.bind_eq_some_iff.mp ran
    obtain ⟨rfl, rfl⟩ := closeLocked_closed (s := s.onto (sys.locked s.space)) closed close
    rcases closeUnlock_some ran with ⟨held, rfl, errno⟩ | ⟨foreign, rfl, rfl⟩
    · rw [onto_space, locked_released free] at errno
      obtain ⟨found, rfl⟩ := setErrno_some errno
      exact .notOpen free held found
    · have kept : sys.locked s.space = s.space.putByte sys.chan (sys.tried s.space) := by
        rw [tried, if_pos free, locked]
      exact .panic kept foreign
  · rcases closeUnlock_some ran with ⟨held, rfl, errno⟩ | ⟨foreign, rfl, rfl⟩
    · obtain ⟨found, rfl⟩ := setErrno_some errno
      exact .locked own held rfl found
    · have kept : s.space = s.space.putByte sys.chan (sys.tried s.space) := by
        rw [tried, if_neg own, Space.putByte_byte]
      exact .panic kept foreign

theorem lock_free (grants : sys.Grants s.space) :
    sys.svcMutexAt s mutChan mutAlloc = some (eok, s.onto (sys.locked s.space)) := by
  have pid := getCur_at (s := s.setpl7) grants.curtcb grants.pid
  have put := putb_at (s := s.setpl7) (b := keptPid (sys.pidAt s.space)) grants.chan
  have read := getb_at (s := s.setpl7) grants.chan
  rw [svcMutexAt, if_neg (by decide), if_neg (by decide), if_pos rfl]
  show (s.setpl7.getb sys.chan).bind (fun b => _) = _
  rw [read, Option.bind_some]
  exact (if_pos grants.free).trans ((congrArg (Option.bind · _) pid).trans
    (congrArg (Option.bind · _) put))

/-- The kernel finds the same pid when the task has MUT_CHAN. -/
theorem pidAt_locked (grants : sys.Grants s.space) :
    sys.pidAt (sys.locked s.space) = sys.pidAt s.space := by
  have curtcb : (sys.locked s.space).word sys.curtcb = s.space.word sys.curtcb :=
    Space.putByte_ne _ _ grants.apart.1.symm
  rw [pidAt, curtcb]
  exact Space.putByte_ne _ _ grants.apart.2.symm

theorem unlock_own (grants : sys.Grants s.space) :
    sys.svcMutexAt (s.onto (sys.locked s.space)) mutChan mutDealloc = some (eok, s) := by
  let held := s.onto (sys.locked s.space)
  have curtcb : (sys.locked s.space).word sys.curtcb = s.space.word sys.curtcb :=
    Space.putByte_ne _ _ grants.apart.1.symm
  have there : (sys.locked s.space).At ((sys.locked s.space).word sys.curtcb + 8) := by
    rw [curtcb]
    exact grants.pid
  have pid : sys.getCur held.setpl7 8 = some (sys.pidAt (sys.locked s.space)) :=
    getCur_at grants.curtcb there
  have put := putb_at (s := held.setpl7) (b := 0) grants.chan
  have read := getb_at (s := held.setpl7) grants.chan
  have own : ((sys.locked s.space).byte sys.chan).setWidth 16 = sys.pidAt (sys.locked s.space) := by
    rw [pidAt_locked grants, locked, Space.putByte_self]
    exact keptPid_small grants.small
  rw [svcMutexAt, if_neg (by decide), if_neg (by decide), if_neg (by decide), if_pos rfl]
  show (held.setpl7.getb sys.chan).bind (fun b => (sys.getCur held.setpl7 8).bind _) = _
  rw [read, Option.bind_some, pid, Option.bind_some]
  refine (if_pos own).trans ((congrArg (Option.bind · _) put).trans ?_)
  have released : held.onto ((sys.locked s.space).putByte sys.chan 0) = s :=
    locked_released grants.free
  exact congrArg (fun s => some (eok, s)) released

/-- A task that can take MUT_CHAN gets the error. -/
theorem svcCloseAt_notOpen {channel : ADDRESS} (grants : sys.Grants s.space)
    (found : sys.FindsErrno s.space) (status : s.space.At (channel + 2))
    (closed : (sys.locked s.space).openAt channel = false) :
    sys.svcCloseAt s channel =
      some (.ok enotopen, s.onto (s.space.put (sys.errnoAt s.space) (intWord enotopen))) := by
  have flag : (s.onto (sys.locked s.space)).getBit (channel + 2) openBit = some false :=
    (getBit_at (s := s.onto (sys.locked s.space)) status).trans (congrArg some closed)
  have close : sys.closeLocked (s.onto (sys.locked s.space)) channel =
      some (.ok enotopen, s.onto (sys.locked s.space)) := by
    rw [closeLocked, flag]
    rfl
  have ends : sys.closeUnlock (s.onto (sys.locked s.space)) enotopen =
      some (.ok enotopen, s.onto (s.space.put (sys.errnoAt s.space) (intWord enotopen))) := by
    rw [closeUnlock, unlock_own grants]
    show (sys.setErrno s enotopen).bind _ = _
    rw [setErrno_found found]
    rfl
  rw [svcCloseAt, lock_free grants]
  show (sys.closeLocked (s.onto (sys.locked s.space)) channel).bind _ = _
  rw [close]
  exact ends

end Symbols

/-! ## What the services refuse -/

/-- The channel is an entry of the IOTT. -/
def Symbols.Entry (sys : Symbols) (m : Space) (channel : ADDRESS) : Prop :=
  ∃ i : Fin iotSentries, channel = m.word sys.iott + 10 + BitVec.ofNat 16 (16 * i)

instance Symbols.Entry.decidable (sys : Symbols) (m : Space) (channel : ADDRESS) :
    Decidable (sys.Entry m channel) :=
  inferInstanceAs (Decidable (∃ i : Fin iotSentries,
    channel = m.word sys.iott + 10 + BitVec.ofNat 16 (16 * i)))

def symbols : Symbols where
  curtcb := 0o1000
  drvcbtaddr := 0o1002
  iott := 0o1004
  mutexes := 0o1010

/-- The task whose TCB is at 02000 runs. The first entry of the IOTT is the open
channel of another task, whose TCB is at 02400; the second one is not open. From 060000
on the task has made up a channel, a driver and a descriptor. -/
def madeUp : List (ADDRESS × WORD) := [
  (0o1000, 0o2000), (0o2010, 0o100), (0o2030, 0o40000),
  (0o1002, 0o3000), (0o3012, 0x4B44), (0o3024, 0x16), (0o3030, 0o2400),
  (0o1004, 0o4000), (0o4012, 0o3012), (0o4014, 0x9),
  (0o60000, 0o60100), (0o60002, 0x1), (0o60110, 0o60200), (0o60212, 0o60300)]

def forging : KernelMode Unit where
  space := ⟨fun a => (madeUp.lookup a).getD 0, fun _ => true⟩
  device := ()

/-- Every callback takes one byte. -/
def takesByte : Code Unit := fun _ iopkt after => some (1, iopkt, after)

end Muxx
