import Muxx.Offers
import Muxx.ReadWrite
import Muxx.TaskMemory

/-!
# Loading programs

load of lib_load.c and rshell of rshell.c, with any device behind the channel:

* `feed`: the bytes a driver gives when it gives one at every call;
* `svcRead_feed`: a read is complete exactly when the driver feeds it;
* `loadFile_sound`: what load makes of an open device;
* `rshell_sound_iff`: rshell jumps only into a complete image exactly when the
  device cannot be opened or has one to give.
-/

namespace Muxx

open Prog Fallible

abbrev einvload : Int := -17

abbrev aMagic1 : WORD := 0o407
abbrev aMagic2 : WORD := 0o410

variable {δ : Type}

/-! ## The program -/

/-- A task with its channels, its memory and the devices. On the stack of load
there is room for a header, at `ex`, and what a packet is put on. -/
structure Shell (δ : Type) where
  process : Process
  memory : ADDRESS → BYTE
  device : δ
  calls : List DrvCall := []
  ex : ADDRESS
  junk : Fin 3 → BYTE

namespace Shell

def session (s : Shell δ) : Session δ := ⟨s.process.kernel, s.memory, s.device, s.calls⟩

def withSession (s : Shell δ) (t : Session δ) : Shell δ :=
  { s with
    process := { s.process with kernel := t.kernel }
    memory := t.memory
    device := t.device
    calls := t.calls }

def setErrno (s : Shell δ) (rc : Int) : Shell δ := { s with process := s.process.setErrno rc }

/-- The word at an address. -/
def word (s : Shell δ) (a : ADDRESS) : WORD := s.memory (a + 1) ++ s.memory a

def memset (s : Shell δ) (dest : ADDRESS) (b : BYTE) (n : WORD) : Shell δ :=
  { s with memory := fun a => if a - dest < n then b else s.memory a }

section
variable (drivers : Drivers δ)

/-- `read` of lib_readwrite.c. -/
def read (fd : Int) (size : WORD) (buffer : ADDRESS) (junk : BYTE) (s : Shell δ) :
    Except Fault (Int × Shell δ) :=
  if within : 0 ≤ fd ∧ fd.toNat < iotTentries then
    match s.process.slot ⟨fd.toNat, within.2⟩ with
    | none => .error .nullref
    | some io =>
      match (sessionPort drivers io).svcRead size buffer junk s.session with
      | none => .error .nullref
      | some (n, t) => .ok (n, s.withSession t)
  else .error .outside

/-- The space that the type of the task leaves for a program. -/
def space (s : Shell δ) : WORD :=
  let tcb := s.process.kernel.cur
  if tcb.taskType &&& tszBig ≠ 0 then 3 * 0o20000
  else if tcb.taskType &&& tszMed ≠ 0 then 2 * 0o20000
  else 0o20000

/-- load from the point on where the header has been found good: the return code
for itself. -/
def loadImage (fd : Int) (stext sdata sbss : WORD) (s : Shell δ) :
    Except Fault (Int × Shell δ) := do
  let (n, s) ← s.read drivers fd stext taskBase (s.junk 1)
  if BitVec.ofInt 16 n < stext then
    return (s.process.errno, s)
  else
    let (n, s) ← s.read drivers fd sdata (taskBase + stext) (s.junk 2)
    if BitVec.ofInt 16 n < sdata then
      return (s.process.errno, s)
    else
      return (eok, if sbss > 0 then s.memset (taskBase + stext + sdata) 0 sbss else s)

/-- load with the device open on `fd`: its return code, the image size and the
entry point. -/
def loadFile (fd : Int) (entry : ADDRESS) (s : Shell δ) :
    Except Fault ((Int × WORD × ADDRESS) × Shell δ) := do
  let (n, s) ← s.read drivers fd 16 s.ex (s.junk 0)
  if BitVec.ofInt 16 n ≠ 16 then
    return ((s.process.errno, 0, entry), s)
  else if s.word s.ex ≠ aMagic1 ∧ s.word s.ex ≠ aMagic2 then
    return ((einvload, 0, entry), s)
  else
    let entry := s.word (s.ex + 10)
    let stext := s.word (s.ex + 2)
    let sdata := s.word (s.ex + 4)
    let sbss := s.word (s.ex + 6)
    let imgsize := stext + sdata + sbss
    if imgsize > s.space then
      return ((enomem, imgsize, entry), s.setErrno enomem)
    else
      let (rc, s) ← s.loadImage drivers fd stext sdata sbss
      return ((rc, imgsize, entry), s)

/-- What load returns and leaves in `*entry`. -/
def load (dev : Name) (entry : ADDRESS) (s : Shell δ) :
    Except Fault ((Int × ADDRESS) × Shell δ) := do
  let (fd, p) ← s.process.openFile dev
  let s := { s with process := p }
  if fd < 0 then
    return ((fd, entry), s)
  else
    let ((rc, imgsize, entry), s) ← s.loadFile drivers fd entry
    let (_, p) ← s.process.close fd
    let s := { s with process := p }
    return ((if rc = eok then imgsize.toInt else 0, entry), s)

/-- The name at the base of the task. -/
def parm (s : Shell δ) : Name := fun i => s.memory (taskBase + BitVec.ofNat 16 i)

end

end Shell

/-- Where rshell has come to: it calls the program in its memory, or not. -/
inductive Started (δ : Type)
  | jumps (entry : ADDRESS) (s : Shell δ)
  | fails (rc : Int)

/-- A run of rshell: `last` is the state in which it calls load for the last
time. While it sleeps, anything can happen. -/
inductive Rshell (drivers : Drivers δ) : Shell δ → Shell δ → Started δ → Prop
  | jumps {s s' : Shell δ} {rc : Int} {entry : ADDRESS}
      (loaded : s.load drivers s.parm 0 = .ok ((rc, entry), s')) (positive : rc ≥ 0) :
      Rshell drivers s s (.jumps entry s')
  | fails {s s' : Shell δ} {rc : Int} {entry : ADDRESS}
      (loaded : s.load drivers s.parm 0 = .ok ((rc, entry), s'))
      (final : rc ≠ enoavail ∧ rc ≠ enosysres) (negative : rc < 0) :
      Rshell drivers s s (.fails rc)
  | retries {s s' s₁ last : Shell δ} {rc : Int} {entry : ADDRESS} {started : Started δ}
      (loaded : s.load drivers s.parm 0 = .ok ((rc, entry), s'))
      (again : rc = enoavail ∨ rc = enosysres) (next : Rshell drivers s₁ last started) :
      Rshell drivers s last started

/-! ## Reading -/

/-- The bytes that a driver gives at so many calls, if it gives one at each. -/
def feed (drivers : Drivers δ) (d : Fin maxDrv) : Nat → IOPKT → δ → Option (List BYTE × δ)
  | 0, _, device => some ([], device)
  | n + 1, iopkt, device =>
    let reply := (drivers d iopkt device).1
    if reply.rc = 1 then
      (feed drivers d n { iopkt with error := reply.error, ioarea := reply.ioarea }
        (drivers d iopkt device).2).map fun rest => (reply.ioarea :: rest.1, rest.2)
    else none

/-- The first packet of a read. -/
def request (e : IOTE) (junk : BYTE) : IOPKT where
  function := drvRead
  size := 1
  ioarea := junk
  param := ![e.controller.setWidth 16, e.unit.setWidth 16, 0, 0]

/-- A driver gives no more than there is room for in a packet. -/
def AtMostOne (drivers : Drivers δ) : Prop :=
  ∀ d iopkt device, (drivers d iopkt device).1.rc ≤ 1

/-- Memory with bytes stored from `a` on. -/
def place (memory : ADDRESS → BYTE) (a : ADDRESS) : List BYTE → ADDRESS → BYTE
  | [] => memory
  | b :: bytes => place (Function.update memory a b) (a + 1) bytes

section Reading
variable {drivers : Drivers δ} {io : Fin iotSentries} {d : Fin maxDrv} {buffer : ADDRESS}
variable {memory : ADDRESS → BYTE} {bytes : List BYTE} {a : ADDRESS}

theorem place_other (apart : ∀ j < bytes.length, a ≠ buffer + BitVec.ofNat 16 j) :
    place memory buffer bytes a = memory a := by
  induction bytes generalizing memory buffer with
  | nil => rfl
  | cons b bytes ih =>
    have here : a ≠ buffer := by simpa using apart 0 (Nat.zero_lt_succ _)
    rw [place, ih, Function.update_of_ne here]
    intro j within
    have next : buffer + 1 + BitVec.ofNat 16 j = buffer + BitVec.ofNat 16 (j + 1) := by
      bv_omega
    rw [next]
    exact apart (j + 1) (Nat.succ_lt_succ within)

theorem place_byte (few : bytes.length ≤ 65536) {j : Nat} (within : j < bytes.length) :
    place memory buffer bytes (buffer + BitVec.ofNat 16 j) = bytes[j] := by
  induction bytes generalizing memory buffer j with
  | nil => exact absurd within (Nat.not_lt_zero j)
  | cons b bytes ih =>
    rw [List.length_cons] at few
    match j with
    | 0 =>
      rw [place, place_other]
      · simp
      · intro k before
        bv_omega
    | j + 1 =>
      have next : buffer + BitVec.ofNat 16 (j + 1) = buffer + 1 + BitVec.ofNat 16 j := by
        bv_omega
      rw [place, next]
      exact ih (by omega) (Nat.lt_of_succ_lt_succ within)

theorem feed_length {n : Nat} {iopkt : IOPKT} {device device' : δ}
    (fed : feed drivers d n iopkt device = some (bytes, device')) : bytes.length = n := by
  induction n generalizing iopkt device bytes with
  | zero => cases fed; rfl
  | succ n ih =>
    simp only [feed] at fed
    split_ifs at fed
    obtain ⟨⟨rest, device₁⟩, more, same⟩ := Option.map_eq_some_iff.mp fed
    cases same
    rw [List.length_cons, ih more]

/-- The driver has given a byte at every call, and they are in memory. -/
def Feeds (drivers : Drivers δ) (d : Fin maxDrv) (n : Nat) (iopkt : IOPKT) (a : ADDRESS)
    (s t : Session δ) (log : List DrvCall) : Prop :=
  ∃ bytes, feed drivers d n iopkt s.device = some (bytes, t.device) ∧
    log.map (·.reply.ioarea) = bytes ∧ (∀ c ∈ log, c.reply.rc = 1) ∧
    t.memory = place s.memory a bytes

/-- At one of the calls it has not. -/
def Starves (drivers : Drivers δ) (d : Fin maxDrv) (n : Nat) (iopkt : IOPKT) (s : Session δ)
    (log : List DrvCall) : Prop :=
  feed drivers d n iopkt s.device = none ∧ ∃ c ∈ log, c.reply.rc ≠ 1

/-- A loop of reads counts as many bytes as it has rounds exactly when the driver
feeds it. -/
theorem readLoop_feed (answers : AtMostOne drivers) (io : Fin iotSentries) (d : Fin maxDrv)
    (buffer : ADDRESS) (n i : Nat) (iopkt : IOPKT) (rc numchars : Int) (s : Session δ)
    (going : rc ≥ 0) :
    ∃ (rc' : Int) (count : Nat) (t : Session δ) (log : List DrvCall),
      (sessionPort drivers io).readLoop (some d) buffer n i iopkt rc numchars s =
        some (rc', numchars + count, t) ∧ t.kernel = s.kernel ∧ t.calls = s.calls ++ log ∧
      (count = n ∧ Feeds drivers d n iopkt (buffer + BitVec.ofNat 16 i) s t log ∨
        count < n ∧ Starves drivers d n iopkt s log) := by
  induction n generalizing i iopkt rc numchars s with
  | zero =>
    refine ⟨rc, 0, s, [], by simp [Port.readLoop], rfl, (List.append_nil _).symm, .inl ⟨rfl, ?_⟩⟩
    exact ⟨[], rfl, rfl, fun c among => absurd among List.not_mem_nil, rfl⟩
  | succ n ih =>
    let reply := s.reply drivers d iopkt
    let next : IOPKT := { iopkt with error := reply.error, ioarea := reply.ioarea }
    have limit : reply.rc ≤ 1 := answers d iopkt s.device
    have whole : feed drivers d (n + 1) iopkt s.device =
        if reply.rc = 1 then (feed drivers d n next (s.called drivers d iopkt).device).map
          fun rest => (reply.ioarea :: rest.1, rest.2)
        else none := rfl
    by_cases more : reply.rc > 0
    · have one : reply.rc = 1 := by omega
      rw [if_pos one] at whole
      let s₁ : Session δ := { s.called drivers d iopkt with
        memory := Function.update s.memory (buffer + BitVec.ofNat 16 i) reply.ioarea }
      have first : (sessionPort drivers io).readLoop (some d) buffer (n + 1) i iopkt rc numchars s =
          (sessionPort drivers io).readLoop (some d) buffer n (i + 1) next reply.rc
            (numchars + reply.rc) s₁ := readLoop_taken going more n i numchars
      obtain ⟨rc', count, t, log, ran, kernel, calls, outcome⟩ :=
        ih (i + 1) next reply.rc (numchars + reply.rc) s₁ (by omega)
      refine ⟨rc', count + 1, t, ⟨iopkt, reply⟩ :: log, ?_, kernel, ?_, ?_⟩
      · have total : numchars + reply.rc + count = numchars + (count + 1 : Nat) := by
          rw [one]
          omega
        rw [first, ran, total]
      · rw [calls]
        simp [s₁, Session.called, reply]
      · rcases outcome with ⟨full, bytes, fed, log_bytes, ones, stored⟩ | ⟨short, starved, bad⟩
        · refine .inl ⟨by omega, reply.ioarea :: bytes, ?_, ?_, ?_, ?_⟩
          · have fed : feed drivers d n next (s.called drivers d iopkt).device =
                some (bytes, t.device) := fed
            rw [whole, fed]
            rfl
          · rw [List.map_cons, log_bytes]
          · intro c among
            rcases List.mem_cons.mp among with rfl | among
            · exact one
            · exact ones c among
          · have slot : buffer + BitVec.ofNat 16 i + 1 = buffer + BitVec.ofNat 16 (i + 1) := by
              bv_omega
            rw [stored, place, slot]
        · refine .inr ⟨by omega, ?_, ?_⟩
          · have starved : feed drivers d n next (s.called drivers d iopkt).device = none := starved
            rw [whole, starved]
            rfl
          · obtain ⟨c, among, failed⟩ := bad
            exact ⟨c, List.mem_cons_of_mem _ among, failed⟩
    · have short : reply.rc ≠ 1 := by omega
      rw [if_neg short] at whole
      have first : (sessionPort drivers io).readLoop (some d) buffer (n + 1) i iopkt rc numchars s =
          (sessionPort drivers io).readLoop (some d) buffer n (i + 1) next reply.rc numchars
            (s.called drivers d iopkt) := readLoop_untaken going more n i numchars
      by_cases failed : reply.rc < 0
      · refine ⟨reply.rc, 0, s.called drivers d iopkt, [⟨iopkt, reply⟩], ?_, rfl, rfl, ?_⟩
        · rw [first, readLoop_stopped failed]
          simp
        · exact .inr ⟨Nat.succ_pos n, whole, _, List.mem_singleton_self _, short⟩
      · obtain ⟨rc', count, t, log, ran, kernel, calls, outcome⟩ :=
          ih (i + 1) next reply.rc numchars (s.called drivers d iopkt) (by omega)
        refine ⟨rc', count, t, ⟨iopkt, reply⟩ :: log, first.trans ran, kernel, ?_,
          .inr ⟨?_, whole, _, List.mem_cons_self, short⟩⟩
        · rw [calls]
          simp [Session.called, reply]
        · rcases outcome with ⟨full, -⟩ | ⟨few, -⟩ <;> omega

/-- A read changes no more of a channel than its flags. -/
structure KeepsChannels (k k' : Kernel) : Prop where
  tct : k'.tct = k.tct
  curtcb : k'.curtcb = k.curtcb
  drvcbt : k'.drvcbt = k.drvcbt
  opened : ∀ j, (k'.iott j).opened = (k.iott j).opened
  driver : ∀ j, (k'.iott j).driver = (k.iott j).driver
  controller : ∀ j, (k'.iott j).controller = (k.iott j).controller
  unit : ∀ j, (k'.iott j).unit = (k.iott j).unit

theorem KeepsChannels.refl (k : Kernel) : KeepsChannels k k :=
  ⟨rfl, rfl, rfl, fun _ => rfl, fun _ => rfl, fun _ => rfl, fun _ => rfl⟩

variable {k k' : Kernel}

theorem KeepsChannels.setErrno (h : KeepsChannels k k') (rc : Int) :
    KeepsChannels k (k'.setErrno rc) :=
  ⟨h.tct, h.curtcb, h.drvcbt, h.opened, h.driver, h.controller, h.unit⟩

theorem KeepsChannels.modifyIote (h : KeepsChannels k k') (io : Fin iotSentries) (f : IOTE → IOTE)
    (flags : ∀ e, (f e).opened = e.opened ∧ (f e).driver = e.driver ∧
      (f e).controller = e.controller ∧ (f e).unit = e.unit) :
    KeepsChannels k (k'.modifyIote io f) := by
  have entry (j : Fin iotSentries) : (k'.modifyIote io f).iott j = k'.iott j ∨
      (k'.modifyIote io f).iott j = f (k'.iott j) := by
    by_cases same : j = io
    · subst same
      exact .inr (Kernel.modifyIote_self ..)
    · exact .inl (Kernel.modifyIote_ne _ _ _ same)
  refine ⟨h.tct, h.curtcb, h.drvcbt, fun j => ?_, fun j => ?_, fun j => ?_, fun j => ?_⟩
  all_goals rcases entry j with same | same <;> rw [same]
  · exact h.opened j
  · exact (flags _).1.trans (h.opened j)
  · exact h.driver j
  · exact (flags _).2.1.trans (h.driver j)
  · exact h.controller j
  · exact (flags _).2.2.1.trans (h.controller j)
  · exact h.unit j
  · exact (flags _).2.2.2.trans (h.unit j)

theorem KeepsChannels.setIoerror (h : KeepsChannels k k') (io : Fin iotSentries) (b : Bool) :
    KeepsChannels k (k'.modifyIote io ({ · with ioerror := b })) :=
  h.modifyIote io ({ · with ioerror := b }) fun _ => ⟨rfl, rfl, rfl, rfl⟩

theorem KeepsChannels.setEof (h : KeepsChannels k k') (io : Fin iotSentries) (b : Bool) :
    KeepsChannels k (k'.modifyIote io ({ · with eof := b })) :=
  h.modifyIote io ({ · with eof := b }) fun _ => ⟨rfl, rfl, rfl, rfl⟩

/-- A read counts as many bytes as were asked for exactly when the driver feeds
it, and then they are in the buffer. -/
theorem svcRead_feed (answers : AtMostOne drivers) {s : Session δ}
    (opened : (s.kernel.iott io).opened = true) (driver : (s.kernel.iott io).driver = d)
    (unbuffered : (s.kernel.drvcbt d).desc.buffered = false) (size : WORD) (buffer : ADDRESS)
    (junk : BYTE) :
    ∃ (count : Nat) (t : Session δ) (log : List DrvCall),
      (sessionPort drivers io).svcRead size buffer junk s = some ((count : Int), t) ∧
      KeepsChannels s.kernel t.kernel ∧ t.calls = s.calls ++ log ∧
      (count = size.toInt.toNat ∧
          Feeds drivers d size.toInt.toNat (request (s.kernel.iott io) junk) buffer s t log ∨
        count < size.toInt.toNat ∧
          Starves drivers d size.toInt.toNat (request (s.kernel.iott io) junk) s log) := by
  obtain ⟨rc, count, t, log, ran, kernel, calls, outcome⟩ :=
    readLoop_feed answers io d buffer size.toInt.toNat 0 (request (s.kernel.iott io) junk) 0 0 s
      (by decide)
  rw [Int.zero_add, ← readChannel_open (congrArg some driver) (congrArg some opened)
    (congrArg some unbuffered) rfl] at ran
  have start : buffer + BitVec.ofNat 16 0 = buffer := BitVec.add_zero buffer
  rw [start] at outcome
  have kept : KeepsChannels s.kernel t.kernel := kernel ▸ KeepsChannels.refl s.kernel
  suffices result : ∃ k, (sessionPort drivers io).svcRead size buffer junk s =
      some ((count : Int), { t with kernel := k }) ∧ KeepsChannels s.kernel k by
    obtain ⟨k, returned, kept⟩ := result
    exact ⟨count, { t with kernel := k }, log, returned, kept, calls, outcome⟩
  by_cases failed : rc < 0
  · by_cases end_of_file : rc = eeof
    · refine ⟨((t.kernel.modifyIote io ({ · with eof := true })).modifyIote io
        ({ · with ioerror := false })).setErrno rc, ?_, ?_⟩
      · rw [Port.svcRead, ran]
        exact (if_pos failed).trans (if_pos end_of_file)
      · exact ((kept.setEof io true).setIoerror io false).setErrno rc
    · refine ⟨(t.kernel.modifyIote io ({ · with ioerror := true })).setErrno rc, ?_, ?_⟩
      · rw [Port.svcRead, ran]
        exact (if_pos failed).trans (if_neg end_of_file)
      · exact (kept.setIoerror io true).setErrno rc
  · refine ⟨((t.kernel.setErrno eok).modifyIote io ({ · with ioerror := false })).modifyIote io
      ({ · with eof := false }), ?_, ?_⟩
    · rw [Port.svcRead, ran]
      exact if_neg failed
    · exact ((kept.setErrno eok).setIoerror io false).setEof io false

variable (drivers) in
/-- A read of a buffered channel is not implemented. -/
theorem svcRead_buffered {s : Session δ} (opened : (s.kernel.iott io).opened = true)
    (driver : (s.kernel.iott io).driver = d) (buffered : (s.kernel.drvcbt d).desc.buffered = true)
    (size : WORD) (buffer : ADDRESS) (junk : BYTE) :
    ∃ k, (sessionPort drivers io).svcRead size buffer junk s = some (0, { s with kernel := k }) ∧
      KeepsChannels s.kernel k := by
  refine ⟨(s.kernel.modifyIote io ({ · with ioerror := true })).setErrno enoimpl, ?_, ?_⟩
  · have channel : (sessionPort drivers io).readChannel size buffer junk s =
        some (enoimpl, 0, s) := by
      simp [Port.readChannel, sessionPort, opened, driver, buffered]
    rw [Port.svcRead, channel]
    rfl
  · exact ((KeepsChannels.refl s.kernel).setIoerror io true).setErrno enoimpl

end Reading

/-! ## Images -/

/-- The word at a byte of the header. -/
def headerWord (header : List BYTE) (i : Nat) : WORD :=
  (header[i + 1]?.getD 0) ++ (header[i]?.getD 0)

/-- The bytes from TASK_BASE to the errno in the TUCB. -/
def Shell.errnoRoom (s : Shell δ) : Nat := s.process.kernel.cur.taskTUCB.toNat + 8 - taskBase.toNat

/-- A header with the text and the data that it announces, in this much space. The
services store errno and the channels in the TUCB, so the image ends before those. -/
structure Image (header text data : List BYTE) (space : WORD) (errnoRoom : Nat) : Prop where
  length : header.length = 16
  magic : headerWord header 0 = aMagic1 ∨ headerWord header 0 = aMagic2
  text : text.length = (headerWord header 2).toNat
  data : data.length = (headerWord header 4).toNat
  fits : (headerWord header 2).toNat + (headerWord header 4).toNat +
    (headerWord header 6).toNat ≤ space.toNat
  clear : (headerWord header 2).toNat + (headerWord header 4).toNat ≤ errnoRoom

/-- The bytes that the device gave for `s'` are a whole image, its text and data
are in memory, and `entry` is its entry point. -/
def Complete (s : Shell δ) (entry : ADDRESS) (s' : Shell δ) : Prop :=
  ∃ log header text data, Image header text data s.space s.errnoRoom ∧ s'.calls = s.calls ++ log ∧
    (∀ c ∈ log, c.reply.rc = 1) ∧ log.map (·.reply.ioarea) = header ++ (text ++ data) ∧
    entry = headerWord header 10 ∧
    ∀ j (within : j < (text ++ data).length),
      s'.memory (taskBase + BitVec.ofNat 16 j) = (text ++ data)[j]

/-- The device has a whole image to give. -/
def Delivers (drivers : Drivers δ) (d : Fin maxDrv) (e : IOTE) (s : Shell δ) : Prop :=
  ∃ header device₁ text device₂ data device₃, Image header text data s.space s.errnoRoom ∧
    feed drivers d 16 (request e (s.junk 0)) s.device = some (header, device₁) ∧
    feed drivers d text.length (request e (s.junk 1)) device₁ = some (text, device₂) ∧
    feed drivers d data.length (request e (s.junk 2)) device₂ = some (data, device₃)

/-- `fd` is open on the entry `io`, which has the driver `d`. -/
structure OnChannel (s : Shell δ) (fd : Int) (io : Fin iotSentries) (d : Fin maxDrv) : Prop where
  low : 0 ≤ fd
  high : fd.toNat < iotTentries
  slot : s.process.slot ⟨fd.toNat, high⟩ = some io
  opened : (s.process.kernel.iott io).opened = true
  driver : (s.process.kernel.iott io).driver = d

section Images
variable {drivers : Drivers δ} {io : Fin iotSentries} {d : Fin maxDrv} {s s' : Shell δ} {fd : Int}
variable {t : Session δ} {header : List BYTE}

theorem OnChannel.withSession (h : OnChannel s fd io d)
    (kept : KeepsChannels s.process.kernel t.kernel) : OnChannel (s.withSession t) fd io d := by
  refine ⟨h.low, h.high, ?_, (kept.opened io).trans h.opened, (kept.driver io).trans h.driver⟩
  exact (congrArg (s.process.iote · _) kept.curtcb).trans h.slot

theorem KeepsChannels.request {k k' : Kernel} (h : KeepsChannels k k') (io : Fin iotSentries)
    (junk : BYTE) : request (k'.iott io) junk = request (k.iott io) junk := by
  simp only [Muxx.request, h.controller, h.unit]

/-- What a read of the library does, with `b` below its packet. -/
structure ReadFile (drivers : Drivers δ) (io : Fin iotSentries) (d : Fin maxDrv) (size : WORD)
    (buffer : ADDRESS) (b : BYTE) (s s' : Shell δ) (count : Nat) (log : List DrvCall) : Prop where
  kept : KeepsChannels s.process.kernel s'.process.kernel
  ex : s'.ex = s.ex
  junk : s'.junk = s.junk
  calls : s'.calls = s.calls ++ log
  outcome :
    count = size.toInt.toNat ∧ Feeds drivers d size.toInt.toNat
        (request (s.process.kernel.iott io) b) buffer s.session s'.session log ∨
      count < size.toInt.toNat ∧ Starves drivers d size.toInt.toNat
        (request (s.process.kernel.iott io) b) s.session log

theorem read_reads (answers : AtMostOne drivers) (on : OnChannel s fd io d)
    (unbuffered : (s.process.kernel.drvcbt d).desc.buffered = false) (size : WORD)
    (buffer : ADDRESS) (junk : BYTE) :
    ∃ (count : Nat) (s' : Shell δ) (log : List DrvCall),
      s.read drivers fd size buffer junk = .ok ((count : Int), s') ∧ OnChannel s' fd io d ∧
        ReadFile drivers io d size buffer junk s s' count log := by
  obtain ⟨count, t, log, ran, kept, calls, outcome⟩ :=
    svcRead_feed (s := s.session) answers on.opened on.driver unbuffered size buffer junk
  refine ⟨count, s.withSession t, log, ?_, on.withSession kept, kept, rfl, rfl, calls, outcome⟩
  have slot := on.slot
  simp only [Shell.read, on.low, on.high, and_self, dif_pos, slot, ran]

variable (drivers) in
theorem read_buffered (on : OnChannel s fd io d)
    (buffered : (s.process.kernel.drvcbt d).desc.buffered = true) (size : WORD)
    (buffer : ADDRESS) (junk : BYTE) :
    ∃ s' : Shell δ, s.read drivers fd size buffer junk = .ok (0, s') ∧ s'.calls = s.calls := by
  obtain ⟨k, ran, kept⟩ := svcRead_buffered drivers (s := s.session) on.opened on.driver
    buffered size buffer junk
  refine ⟨s.withSession { s.session with kernel := k }, ?_, rfl⟩
  have slot := on.slot
  simp only [Shell.read, on.low, on.high, and_self, dif_pos, slot, ran]

theorem word_place {m : ADDRESS → BYTE} (a : ADDRESS) (stored : s.memory = place m a header)
    (few : header.length ≤ 65536) {i : Nat} (within : i + 1 < header.length) :
    s.word (a + BitVec.ofNat 16 i) = headerWord header i := by
  have next : a + BitVec.ofNat 16 i + 1 = a + BitVec.ofNat 16 (i + 1) := by
    bv_omega
  rw [Shell.word, next, stored, place_byte few within, place_byte few (by omega), headerWord,
    List.getElem?_eq_getElem within, List.getElem?_eq_getElem (by omega)]
  rfl

/-- Data behind text. -/
theorem place_append {m : ADDRESS → BYTE} {text data : List BYTE} {a stext : ADDRESS}
    (length : text.length = stext.toNat) (few : text.length + data.length ≤ 65536) {j : Nat}
    (within : j < (text ++ data).length) :
    place (place m a text) (a + stext) data (a + BitVec.ofNat 16 j) = (text ++ data)[j] := by
  rw [List.length_append] at within
  by_cases first : j < text.length
  · rw [List.getElem_append_left first, place_other, place_byte (by omega) first]
    intro k before
    bv_omega
  · have slot : a + BitVec.ofNat 16 j = a + stext + BitVec.ofNat 16 (j - text.length) := by
      bv_omega
    rw [List.getElem_append_right (Nat.le_of_not_lt first), slot, place_byte (by omega)]

/-- A count of bytes that says less than was asked for. -/
theorem short_iff {size : WORD} {count : Nat} (few : count ≤ size.toInt.toNat) :
    BitVec.ofInt 16 count < size ↔
      ¬ (size.toInt.toNat = size.toNat ∧ count = size.toNat) := by
  have bound := size.isLt
  have signed := BitVec.toInt_eq_toNat_cond size
  have value : (BitVec.ofInt 16 count).toNat = count % 65536 := by
    rw [BitVec.toNat_ofInt]
    omega
  rw [BitVec.lt_def, value]
  split_ifs at signed <;> omega

/-- A read that was not short. -/
theorem ReadFile.full {size : WORD} {buffer : ADDRESS} {b : BYTE} {count : Nat}
    {log : List DrvCall} (h : ReadFile drivers io d size buffer b s s' count log)
    (whole : ¬ BitVec.ofInt 16 count < size) :
    size.toInt.toNat = size.toNat ∧ Feeds drivers d size.toNat
      (request (s.process.kernel.iott io) b) buffer s.session s'.session log := by
  have few : count ≤ size.toInt.toNat := by
    rcases h.outcome with ⟨full, -⟩ | ⟨short, -⟩ <;> omega
  rw [short_iff few, Classical.not_not] at whole
  obtain ⟨same, full⟩ := whole
  rcases h.outcome with ⟨-, fed⟩ | ⟨short, -⟩
  · exact ⟨same, same ▸ fed⟩
  · omega

/-- A short read has a size that is negative as a number, or the driver starved it. -/
theorem ReadFile.short {size : WORD} {buffer : ADDRESS} {b : BYTE} {count : Nat}
    {log : List DrvCall} (h : ReadFile drivers io d size buffer b s s' count log)
    (short : BitVec.ofInt 16 count < size) (positive : size.toInt.toNat = size.toNat) :
    Starves drivers d size.toNat (request (s.process.kernel.iott io) b) s.session log := by
  have few : count ≤ size.toInt.toNat := by
    rcases h.outcome with ⟨full, -⟩ | ⟨short, -⟩ <;> omega
  rw [short_iff few] at short
  rcases h.outcome with ⟨full, -⟩ | ⟨-, starved⟩
  · exact absurd ⟨positive, full.trans positive⟩ short
  · exact positive ▸ starved

/-- The outcomes of reading text and data: all of both, or a driver that does not
give them, or sizes that are too big. -/
inductive ImageRead (drivers : Drivers δ) (d : Fin maxDrv) (e : IOTE) (stext sdata sbss : WORD)
    (s s' : Shell δ) (log : List DrvCall) : Int → Prop
  | whole {text data : List BYTE} {device₁ device₂ : δ}
      (fed : feed drivers d stext.toNat (request e (s.junk 1)) s.device = some (text, device₁))
      (fed' : feed drivers d sdata.toNat (request e (s.junk 2)) device₁ = some (data, device₂))
      (ones : ∀ c ∈ log, c.reply.rc = 1) (bytes : log.map (·.reply.ioarea) = text ++ data)
      (stored : stext.toNat + sdata.toNat + sbss.toNat ≤ 0o60000 →
        ∀ j (within : j < (text ++ data).length),
          s'.memory (taskBase + BitVec.ofNat 16 j) = (text ++ data)[j]) :
      ImageRead drivers d e stext sdata sbss s s' log eok
  | starved {rc : Int}
      (unfed : feed drivers d stext.toNat (request e (s.junk 1)) s.device = none ∨
        ∃ text device₁, feed drivers d stext.toNat (request e (s.junk 1)) s.device =
          some (text, device₁) ∧
            feed drivers d sdata.toNat (request e (s.junk 2)) device₁ = none)
      (bad : ∃ c ∈ log, c.reply.rc ≠ 1) : ImageRead drivers d e stext sdata sbss s s' log rc
  | large {rc : Int} (large : stext.toInt.toNat ≠ stext.toNat ∨ sdata.toInt.toNat ≠ sdata.toNat) :
      ImageRead drivers d e stext sdata sbss s s' log rc

theorem loadImage_reads (answers : AtMostOne drivers) (on : OnChannel s fd io d)
    (unbuffered : (s.process.kernel.drvcbt d).desc.buffered = false) {stext sdata sbss : WORD}
    {rc : Int} (ran : s.loadImage drivers fd stext sdata sbss = .ok (rc, s')) :
    ∃ log, s'.calls = s.calls ++ log ∧
      ImageRead drivers d (s.process.kernel.iott io) stext sdata sbss s s' log rc := by
  obtain ⟨count₁, s₁, log₁, ran₁, on₁, read₁⟩ :=
    read_reads answers on unbuffered stext taskBase (s.junk 1)
  simp only [Shell.loadImage, ran₁, ok_bind] at ran
  by_cases short₁ : BitVec.ofInt 16 count₁ < stext
  · rw [if_pos short₁] at ran
    cases ran
    refine ⟨log₁, read₁.calls, ?_⟩
    by_cases positive : stext.toInt.toNat = stext.toNat
    · obtain ⟨unfed, bad⟩ := read₁.short short₁ positive
      exact .starved (.inl unfed) bad
    · exact .large (.inl positive)
  rw [if_neg short₁] at ran
  obtain ⟨-, text, fed₁, bytes₁, ones₁, stored₁⟩ := read₁.full short₁
  have unbuffered₁ : (s₁.process.kernel.drvcbt d).desc.buffered = false := by
    rw [read₁.kept.drvcbt]
    exact unbuffered
  obtain ⟨count₂, s₂, log₂, ran₂, on₂, read₂⟩ :=
    read_reads answers on₁ unbuffered₁ sdata (taskBase + stext) (s₁.junk 2)
  have calls : s₂.calls = s.calls ++ (log₁ ++ log₂) := by
    rw [read₂.calls, read₁.calls, List.append_assoc]
  have same := read₁.kept.request io (s.junk 2)
  simp only [ran₂, ok_bind] at ran
  by_cases short₂ : BitVec.ofInt 16 count₂ < sdata
  · rw [if_pos short₂] at ran
    cases ran
    refine ⟨log₁ ++ log₂, calls, ?_⟩
    by_cases positive : sdata.toInt.toNat = sdata.toNat
    · obtain ⟨unfed, c, among, failed⟩ := read₂.short short₂ positive
      rw [read₁.junk, same] at unfed
      exact .starved (.inr ⟨text, _, fed₁, unfed⟩) ⟨c, List.mem_append_right _ among, failed⟩
    · exact .large (.inr positive)
  rw [if_neg short₂] at ran
  obtain ⟨-, data, fed₂, bytes₂, ones₂, stored₂⟩ := read₂.full short₂
  rw [read₁.junk, same] at fed₂
  have stored (small : stext.toNat + sdata.toNat + sbss.toNat ≤ 0o60000) (j : Nat)
      (within : j < (text ++ data).length) :
      s'.memory (taskBase + BitVec.ofNat 16 j) = (text ++ data)[j] := by
    have length₁ := feed_length fed₁
    have length₂ := feed_length fed₂
    have both : s₂.memory = place (place s.memory taskBase text) (taskBase + stext) data :=
      stored₂.trans (congrArg (place · (taskBase + stext) data) stored₁)
    have bytes := place_append (m := s.memory) (a := taskBase) length₁ (by omega) within
    rw [← both] at bytes
    split_ifs at ran
    · cases ran
      rw [List.length_append] at within
      have clear : ¬ taskBase + BitVec.ofNat 16 j - (taskBase + stext + sdata) < sbss := by
        bv_omega
      exact (if_neg clear).trans bytes
    · cases ran
      exact bytes
  have s'_calls : s'.calls = s₂.calls := by
    split_ifs at ran <;> cases ran <;> rfl
  have rc_eok : rc = eok := by
    split_ifs at ran <;> cases ran <;> rfl
  subst rc_eok
  refine ⟨log₁ ++ log₂, s'_calls.trans calls, .whole fed₁ fed₂ ?_ ?_ stored⟩
  · intro c among
    rcases List.mem_append.mp among with first | second
    · exact ones₁ c first
    · exact ones₂ c second
  · rw [List.map_append, bytes₁, bytes₂]

theorem space_le (s : Shell δ) : s.space.toNat ≤ 0o60000 := by
  unfold Shell.space
  dsimp only
  split_ifs <;> decide

theorem KeepsChannels.space (h : KeepsChannels s.process.kernel s'.process.kernel) :
    s'.space = s.space := by
  have cur : s'.process.kernel.cur = s.process.kernel.cur := by
    simp only [Kernel.cur, h.tct, h.curtcb]
  simp only [Shell.space, cur]

theorem Image.positive {text data : List BYTE} {space : WORD} {errnoRoom : Nat}
    (h : Image header text data space errnoRoom)
    (le : space.toNat ≤ 0o60000) :
    (headerWord header 2).toInt.toNat = (headerWord header 2).toNat ∧
      (headerWord header 4).toInt.toNat = (headerWord header 4).toNat := by
  have fits := h.fits
  rw [BitVec.toInt_eq_toNat_of_lt (by omega), BitVec.toInt_eq_toNat_of_lt (by omega)]
  exact ⟨rfl, rfl⟩

theorem Complete.ones {entry : ADDRESS} {log : List DrvCall} (h : Complete s entry s')
    (calls : s'.calls = s.calls ++ log) : ∀ c ∈ log, c.reply.rc = 1 := by
  obtain ⟨log', _, _, _, _, calls', ones, _⟩ := h
  obtain rfl := List.append_cancel_left (calls.symm.trans calls')
  exact ones

/-- A complete image has been read. -/
theorem Complete.asked {entry : ADDRESS} (h : Complete s entry s') : s'.calls ≠ s.calls := by
  obtain ⟨log, header, text, data, image, calls, _, bytes, _⟩ := h
  intro same
  have none : log = [] := by simpa [calls] using same
  have short := congrArg List.length bytes
  rw [none, List.length_append, image.length, List.map_nil, List.length_nil] at short
  omega

/-- The first bytes of a complete image are its header. -/
theorem Complete.image {entry : ADDRESS} {log₀ log : List DrvCall} (h : Complete s entry s')
    (calls : s'.calls = s.calls ++ (log₀ ++ log)) (bytes : log₀.map (·.reply.ioarea) = header)
    (length : header.length = 16) :
    ∃ text data, Image header text data s.space s.errnoRoom ∧ log.map (·.reply.ioarea) = text ++ data := by
  obtain ⟨log', header', text, data, image, calls', _, bytes', _⟩ := h
  obtain rfl := List.append_cancel_left (calls.symm.trans calls')
  rw [List.map_append, bytes] at bytes'
  obtain ⟨rfl, rest⟩ := List.append_inj bytes' (length.trans image.length.symm)
  exact ⟨text, data, image, rest⟩

/-- load without a whole header. -/
theorem loadFile_short {count : Nat}
    (ran : s.read drivers fd 16 s.ex (s.junk 0) = .ok ((count : Int), s')) (few : count < 16)
    (entry : ADDRESS) : s.loadFile drivers fd entry = .ok ((s'.process.errno, 0, entry), s') := by
  have counted : BitVec.ofInt 16 (count : Int) ≠ 16 := by
    intro same
    have value := congrArg BitVec.toNat same
    rw [BitVec.toNat_ofInt] at value
    simp at value
    omega
  simp only [Shell.loadFile, ran, ok_bind]
  exact if_pos counted

/-- load goes by what the header says, once it is in memory. -/
theorem loadFile_header {count : Nat}
    (ran : s.read drivers fd 16 s.ex (s.junk 0) = .ok ((count : Int), s')) (full : count = 16)
    (stored : s'.memory = place s.memory s.ex header) (length : header.length = 16)
    (ex : s'.ex = s.ex) (entry : ADDRESS) : s.loadFile drivers fd entry =
      if headerWord header 0 ≠ aMagic1 ∧ headerWord header 0 ≠ aMagic2 then
        .ok ((einvload, 0, entry), s')
      else if headerWord header 2 + headerWord header 4 + headerWord header 6 > s'.space then
        .ok ((enomem, headerWord header 2 + headerWord header 4 + headerWord header 6,
          headerWord header 10), s'.setErrno enomem)
      else do
        let (rc, t) ← s'.loadImage drivers fd (headerWord header 2) (headerWord header 4)
          (headerWord header 6)
        return ((rc, headerWord header 2 + headerWord header 4 + headerWord header 6,
          headerWord header 10), t) := by
  have word (i : Nat) (within : i + 1 < 16) :
      s'.word (s'.ex + BitVec.ofNat 16 i) = headerWord header i := by
    rw [ex]
    exact word_place s.ex stored (by omega) (length ▸ within)
  have word₀ : s'.word s'.ex = headerWord header 0 := by
    simpa using word 0 (by decide)
  have word₂ : s'.word (s'.ex + 2) = headerWord header 2 := word 2 (by decide)
  have word₄ : s'.word (s'.ex + 4) = headerWord header 4 := word 4 (by decide)
  have word₆ : s'.word (s'.ex + 6) = headerWord header 6 := word 6 (by decide)
  have word₁₀ : s'.word (s'.ex + 10) = headerWord header 10 := word 10 (by decide)
  have counted : BitVec.ofInt 16 (count : Int) = 16 := by
    rw [full]
    decide
  simp only [Shell.loadFile, ran, ok_bind]
  rw [if_neg fun other => other counted, word₀, word₂, word₄, word₆, word₁₀]
  rfl

/-- load never returns an error. -/
theorem loadFile_returns {entry₀ entry : ADDRESS} {rc : Int} {imgsize : WORD}
    (ran : s.loadFile drivers fd entry₀ = .ok ((rc, imgsize, entry), s')) :
    0 ≤ if rc = eok then imgsize.toInt else 0 := by
  simp only [Shell.loadFile] at ran
  obtain ⟨⟨n, s₁⟩, -, ran⟩ := bind_ok.mp ran
  dsimp only at ran
  split at ran
  · cases ran
    split_ifs <;> decide
  split at ran
  · cases ran
    split_ifs <;> decide
  split at ran
  · cases ran
    rw [if_neg (by decide)]
  next fits =>
    obtain ⟨⟨rc', s₂⟩, -, rest⟩ := bind_ok.mp ran
    cases rest
    have bound := space_le s₁
    split_ifs
    · rw [BitVec.toInt_eq_toNat_of_lt (by bv_omega)]
      exact Int.natCast_nonneg _
    · exact Int.le_refl 0

/-- The first bytes that the device gives are the header of all that it delivers. -/
theorem Delivers.behind {e : IOTE} {device : δ} (h : Delivers drivers d e s)
    (fed : feed drivers d 16 (request e (s.junk 0)) s.device = some (header, device)) :
    ∃ text device₁ data device₂, Image header text data s.space s.errnoRoom ∧
      feed drivers d (headerWord header 2).toNat (request e (s.junk 1)) device =
        some (text, device₁) ∧
      feed drivers d (headerWord header 4).toNat (request e (s.junk 2)) device₁ =
        some (data, device₂) := by
  obtain ⟨header', device', text, device₁, data, device₂, image, fed', fed₁, fed₂⟩ := h
  obtain ⟨rfl, rfl⟩ := Prod.mk.inj (Option.some_inj.mp (fed'.symm.trans fed))
  exact ⟨text, device₁, data, device₂, image, image.text ▸ fed₁, image.data ▸ fed₂⟩

/-- With a header that announces no image nothing is loaded, and nothing could be. -/
theorem no_image {e : IOTE} {device : δ} {entry : ADDRESS} {log₀ log : List DrvCall}
    (fed : feed drivers d 16 (request e (s.junk 0)) s.device = some (header, device))
    (bytes : log₀.map (·.reply.ioarea) = header) (calls : s'.calls = s.calls ++ (log₀ ++ log))
    (none : ∀ text data, ¬ Image header text data s.space s.errnoRoom) :
    Complete s entry s' ↔ Delivers drivers d e s := by
  apply iff_of_false
  · intro complete
    obtain ⟨text, data, image, -⟩ := complete.image calls bytes (feed_length fed)
    exact none text data image
  · intro delivers
    obtain ⟨text, _, data, _, image, -⟩ := delivers.behind fed
    exact none text data image

/-- Behind a good header, loading the image has come to a complete one exactly when
the device has it to give. -/
theorem ImageRead.complete_iff {e e' : IOTE} {log₀ log : List DrvCall} {s₁ : Shell δ} {rc : Int}
    (fed : feed drivers d 16 (request e (s.junk 0)) s.device = some (header, s₁.device))
    (bytes : log₀.map (·.reply.ioarea) = header) (ones : ∀ c ∈ log₀, c.reply.rc = 1)
    (calls : s'.calls = s.calls ++ (log₀ ++ log)) (junk : s₁.junk = s.junk)
    (asks : ∀ b, request e' b = request e b)
    (magic : headerWord header 0 = aMagic1 ∨ headerWord header 0 = aMagic2)
    (h : ImageRead drivers d e' (headerWord header 2) (headerWord header 4) (headerWord header 6)
      s₁ s' log rc) :
    Complete s (headerWord header 10) s' ↔ Delivers drivers d e s := by
  have bound := space_le s
  cases h with
  | @whole text data device₁ device₂ fed₁ fed₂ ones' bytes' stored =>
    rw [asks, junk] at fed₁ fed₂
    have length₁ := feed_length fed₁
    have length₂ := feed_length fed₂
    by_cases fits : (headerWord header 2).toNat + (headerWord header 4).toNat +
        (headerWord header 6).toNat ≤ s.space.toNat ∧
          (headerWord header 2).toNat + (headerWord header 4).toNat ≤ s.errnoRoom
    · have image : Image header text data s.space s.errnoRoom :=
        ⟨feed_length fed, magic, length₁, length₂, fits.1, fits.2⟩
      apply iff_of_true
      · refine ⟨log₀ ++ log, header, text, data, image, calls, ?_, ?_, rfl, stored (by omega)⟩
        · intro c among
          rcases List.mem_append.mp among with before | after
          · exact ones c before
          · exact ones' c after
        · rw [List.map_append, bytes, bytes']
      · exact ⟨header, s₁.device, text, device₁, data, device₂, image, fed, length₁ ▸ fed₁,
          length₂ ▸ fed₂⟩
    · exact no_image fed bytes calls fun text data image => fits ⟨image.fits, image.clear⟩
  | starved unfed bad =>
    rw [asks, asks, junk] at unfed
    apply iff_of_false
    · intro complete
      obtain ⟨c, among, failed⟩ := bad
      exact failed (complete.ones calls c (List.mem_append_right _ among))
    · intro delivers
      obtain ⟨text, device₁, data, device₂, image, fed₁, fed₂⟩ := delivers.behind fed
      rcases unfed with none | ⟨text', device', some', none⟩
      · cases none.symm.trans fed₁
      · obtain ⟨rfl, rfl⟩ := Prod.mk.inj (Option.some_inj.mp (some'.symm.trans fed₁))
        cases none.symm.trans fed₂
  | large large =>
    apply no_image fed bytes calls
    intro text data image
    obtain ⟨text, data⟩ := image.positive bound
    exact large.elim (· text) (· data)

/-- What load makes of an open device: it has loaded the image exactly when the
device has one to give. -/
theorem loadFile_sound (answers : AtMostOne drivers) (on : OnChannel s fd io d)
    {entry₀ entry : ADDRESS} {rc : Int} {imgsize : WORD}
    (ran : s.loadFile drivers fd entry₀ = .ok ((rc, imgsize, entry), s')) :
    Complete s entry s' ↔ (s.process.kernel.drvcbt d).desc.buffered = false ∧
      Delivers drivers d (s.process.kernel.iott io) s := by
  cases buffered : (s.process.kernel.drvcbt d).desc.buffered with
  | true =>
    obtain ⟨s₁, ran₁, calls⟩ := read_buffered drivers on buffered 16 s.ex (s.junk 0)
    have none : s.read drivers fd 16 s.ex (s.junk 0) = .ok (((0 : Nat) : Int), s₁) := ran₁
    rw [loadFile_short none (by decide)] at ran
    cases ran
    exact iff_of_false (fun complete => complete.asked calls) fun h => Bool.noConfusion h.1
  | false =>
    rw [and_iff_right rfl]
    obtain ⟨count, s₁, log₀, ran₁, on₁, read⟩ :=
      read_reads answers on buffered 16 s.ex (s.junk 0)
    have size : (16 : WORD).toInt.toNat = 16 := by decide
    have outcome := read.outcome
    rw [size] at outcome
    rcases outcome with ⟨full, header, fed, bytes, ones, stored⟩ | ⟨few, unfed, c, among, failed⟩
    · rw [loadFile_header ran₁ full stored (feed_length fed) read.ex, read.kept.space] at ran
      have here : s₁.calls = s.calls ++ (log₀ ++ []) := by rw [List.append_nil, read.calls]
      split_ifs at ran with magic large
      · cases ran
        apply no_image fed bytes here
        intro text data image
        rcases image.magic with one | two
        · exact magic.1 one
        · exact magic.2 two
      · cases ran
        apply no_image fed bytes here
        intro text data image
        have bound := space_le s
        have fits := image.fits
        bv_omega
      · obtain ⟨⟨rc', s₂⟩, loaded, rest⟩ := bind_ok.mp ran
        cases rest
        have unbuffered : (s₁.process.kernel.drvcbt d).desc.buffered = false := by
          rw [read.kept.drvcbt]
          exact buffered
        obtain ⟨log, calls, outcome⟩ := loadImage_reads answers on₁ unbuffered loaded
        rw [read.calls, List.append_assoc] at calls
        exact outcome.complete_iff fed bytes ones calls read.junk (read.kept.request io)
          (by tauto)
    · rw [loadFile_short ran₁ few] at ran
      cases ran
      apply iff_of_false
      · intro complete
        exact failed (complete.ones read.calls c among)
      · rintro ⟨header, device₁, _, _, _, _, _, fed, _⟩
        cases unfed.symm.trans fed

/-! ## The caller -/

/-- What an open of the library returns: an error, or a channel. -/
theorem openFile_channel {dev : Name} {p : Process}
    (opening : s.process.openFile dev = .ok (fd, p)) :
    p.kernel.cur = s.process.kernel.cur ∧
      (fd < 0 ∨ ∃ io d, OnChannel { s with process := p } fd io d) := by
  simp only [Process.openFile] at opening
  split at opening
  · cases opening
    exact ⟨rfl, .inl (by decide)⟩
  next slot _ =>
    obtain ⟨⟨piote, k⟩, ran, rest⟩ := bind_ok.mp opening
    obtain ⟨tct, curtcb, failed, channel⟩ := run_svcOpen_slot ran
    have cur : k.cur = s.process.kernel.cur := by
      simp only [Kernel.cur, tct, curtcb, Process.setErrno, Kernel.setErrno]
    cases piote with
    | none =>
      cases rest
      exact ⟨cur, .inl (failed rfl)⟩
    | some io =>
      cases rest
      obtain ⟨isOpen, d, driver⟩ := channel io rfl
      refine ⟨cur, .inr ⟨io, d, Int.natCast_nonneg _, slot.isLt, ?_, isOpen, driver⟩⟩
      simp [Process.slot, Process.setSlot]

/-- If the device can be opened, it has a whole image to give. -/
def Loadable (drivers : Drivers δ) (s : Shell δ) (dev : Name) : Prop :=
  ∀ fd p, s.process.openFile dev = .ok (fd, p) → fd < 0 ∨ ∃ io d,
    OnChannel { s with process := p } fd io d ∧ (p.kernel.drvcbt d).desc.buffered = false ∧
      Delivers drivers d (p.kernel.iott io) { s with process := p }

theorem loadable_iff {dev : Name} {p : Process} (opening : s.process.openFile dev = .ok (fd, p)) :
    Loadable drivers s dev ↔ fd < 0 ∨ ∃ io d, OnChannel { s with process := p } fd io d ∧
      (p.kernel.drvcbt d).desc.buffered = false ∧
        Delivers drivers d (p.kernel.iott io) { s with process := p } := by
  constructor
  · intro loadable
    exact loadable fd p opening
  · intro h fd' p' opening'
    obtain ⟨rfl, rfl⟩ := Prod.mk.inj (Except.ok.inj (opening.symm.trans opening'))
    exact h

theorem OnChannel.unique {io' : Fin iotSentries} {d' : Fin maxDrv} (h : OnChannel s fd io d)
    (h' : OnChannel s fd io' d') : io' = io ∧ d' = d := by
  obtain rfl : io' = io := Option.some_inj.mp (h'.slot.symm.trans h.slot)
  exact ⟨rfl, Option.some_inj.mp (h'.driver.symm.trans h.driver)⟩

/-- load returns an error only when the device cannot be opened. When it returns
none, it has loaded an image only from a device that has one. -/
theorem load_sound {dev : Name} {entry₀ entry : ADDRESS} {rc : Int} (answers : AtMostOne drivers)
    (loaded : s.load drivers dev entry₀ = .ok ((rc, entry), s')) :
    if rc < 0 then Loadable drivers s dev else Complete s entry s' ↔ Loadable drivers s dev := by
  simp only [Shell.load] at loaded
  obtain ⟨⟨fd, p⟩, opening, rest⟩ := bind_ok.mp loaded
  obtain ⟨cur, outcome⟩ := openFile_channel opening
  by_cases failed : fd < 0
  · rw [if_pos failed] at rest
    cases rest
    rw [if_pos failed]
    exact (loadable_iff opening).mpr (.inl failed)
  · rw [if_neg failed] at rest
    obtain ⟨⟨⟨rc', imgsize, entry'⟩, s₁⟩, file, rest⟩ := bind_ok.mp rest
    obtain ⟨⟨closed, p₁⟩, closing, rest⟩ := bind_ok.mp rest
    cases rest
    obtain ⟨io, d, on⟩ := outcome.resolve_left failed
    have complete := loadFile_sound answers on file
    have space : Shell.space { s with process := p } = s.space := by
      simp only [Shell.space, cur]
    have errnoRoom : Shell.errnoRoom { s with process := p } = s.errnoRoom :=
      congrArg (fun tcb : TCB maxTasks => tcb.taskTUCB.toNat + 8 - taskBase.toNat) cur
    -- neither the open nor the close reads, or writes to memory
    have same : Complete s entry' { s₁ with process := p₁ } ↔
        Complete { s with process := p } entry' s₁ := by
      simp only [Complete, space, errnoRoom]
    rw [if_neg (Int.not_lt.mpr (loadFile_returns file)), same, complete, loadable_iff opening]
    constructor
    · intro whole
      exact .inr ⟨io, d, on, whole⟩
    · intro loadable
      obtain ⟨io', d', on', whole⟩ := loadable.resolve_left failed
      obtain ⟨rfl, rfl⟩ := on.unique on'
      exact whole

end Images

/-! ## A tape -/

theorem tape_atMostOne : AtMostOne tape := by
  intro d iopkt device
  simp only [tape]
  split_ifs
  · exact Int.le_refl 1
  · cases device with
    | nil => exact Int.le_of_lt (by decide : eeof < 1)
    | cons b rest => exact Int.le_refl 1

/-- A task with one page that is to load from `DK`, with a tape as the device. -/
def bootShell (device : List BYTE) : Shell (List BYTE) where
  process := { kernel := startedDisk.setTcb startedDisk.curtcb { startedDisk.cur with
    taskTUCB := 0o77700 } }
  memory := place (fun _ => 0) taskBase (List.ofFn diskName)
  device := device
  ex := 0o157700
  junk := fun _ => 0

/-- An image with two words of text that starts at its base. -/
def bootImage : List BYTE :=
  [0o7, 1, 4, 0, 0, 0, 0, 0, 0, 0, 0, 0x60, 0, 0, 0, 0, 0xFF, 1, 0, 0]

end Muxx
