import Muxx.Library
import Muxx.ReadWrite

/-!
# File descriptors

read and write of lib_readwrite.c, and close, on any `int`:

* `Process.passChannel`: the channel that read and write pass to the kernel;
* `Denotes`: the descriptors of open channels;
* `unopened_refused_iff`: the calls that refuse all others.
-/

namespace Muxx

open Run Prog Fallible

variable {δ : Type}

namespace Process

/-- The word of the table that `fd` is taken for. Outside of it is the task's own memory,
and no channel at all is the address 0. -/
def passChannel (s : Process) (fd : Int) : Except Fault (Fin iotSentries) :=
  if within : fd.toNat < iotTentries ∧ 0 ≤ fd then
    match s.slot ⟨fd.toNat, within.1⟩ with
    | some io => .ok io
    | none => .error .nullref
  else .error .outside

/-- `u` has what the kernel does not: memory, devices and drivers' calls. -/
def transfer (s : Process) (u : Session δ) (fd : Int)
    (service : Fin iotSentries → Session δ → Option (Int × Session δ)) :
    Except Fault (Int × Session δ) := do
  let io ← s.passChannel fd
  match service io { u with kernel := s.kernel } with
  | some answer => .ok answer
  | none => .error .nullref

def write (drivers : Drivers δ) (s : Process) (u : Session δ) (fd : Int) (size : WORD)
    (buffer : ADDRESS) (junk : BYTE) : Except Fault (Int × Session δ) :=
  s.transfer u fd fun io => (sessionPort drivers io).svcWrite size buffer junk

def read (drivers : Drivers δ) (s : Process) (u : Session δ) (fd : Int) (size : WORD)
    (buffer : ADDRESS) (junk : BYTE) : Except Fault (Int × Session δ) :=
  s.transfer u fd fun io => (sessionPort drivers io).svcRead size buffer junk

/-- `fd` is a channel of the running task that is open. -/
def Denotes (s : Process) (fd : Int) : Prop :=
  ∃ (within : fd.toNat < iotTentries) (io : Fin iotSentries), 0 ≤ fd ∧
    s.slot ⟨fd.toNat, within⟩ = some io ∧ (s.kernel.iott io).opened = true

end Process

/-- The calls that take a descriptor. -/
inductive FileOp
  | close
  | read (size : WORD) (buffer : ADDRESS)
  | write (size : WORD) (buffer : ADDRESS)
  deriving DecidableEq

/-- The answer is an error, or nothing with an error in errno, and errno is all that
has changed. -/
def OnlyErrno (s : Process) (u : Session δ) (answer : Except Fault (Int × Session δ)) : Prop :=
  ∃ ret rc, answer = .ok (ret, { u with kernel := s.kernel.setErrno rc }) ∧
    (ret < 0 ∨ ret = 0 ∧ rc < 0)

/-- The call does nothing but say that there is no such channel. -/
def FileOp.Refused (drivers : Drivers δ) (s : Process) (u : Session δ) (junk : BYTE) (fd : Int) :
    FileOp → Prop
  | .close => ∃ rc < 0, s.close fd = .ok (rc, s.setErrno rc)
  | .read size buffer => OnlyErrno s u (s.read drivers u fd size buffer junk)
  | .write size buffer => OnlyErrno s u (s.write drivers u fd size buffer junk)

section Descriptors
variable {s : Process} {u : Session δ} {fd : Int}

/-- An orderly process has a channel in every slot that is not empty. -/
theorem Orderly.empty (h : Orderly s) (unopened : ¬ s.Denotes fd)
    (within : fd.toNat < iotTentries) (nonneg : 0 ≤ fd) : s.slot ⟨fd.toNat, within⟩ = none := by
  cases there : s.slot ⟨fd.toNat, within⟩ with
  | none => rfl
  | some io => exact absurd ⟨within, io, nonneg, there, (h.matched.backed _ _ io there).1⟩ unopened

/-- Whatever is passed to the kernel for such a descriptor is no channel. -/
theorem Orderly.passes (h : Orderly s) (unopened : ¬ s.Denotes fd) :
    ∃ e, s.passChannel fd = .error e := by
  unfold Process.passChannel
  split_ifs with within
  · rw [h.empty unopened within.1 within.2]
    exact ⟨.nullref, rfl⟩
  · exact ⟨.outside, rfl⟩

theorem Orderly.transfers (h : Orderly s) (unopened : ¬ s.Denotes fd)
    (service : Fin iotSentries → Session δ → Option (Int × Session δ)) :
    ¬ OnlyErrno s u (s.transfer u fd service) := by
  obtain ⟨e, passes⟩ := h.passes unopened
  rintro ⟨ret, rc, answer, -⟩
  rw [Process.transfer, passes] at answer
  cases answer

theorem Orderly.closes (h : Orderly s) (unopened : ¬ s.Denotes fd) :
    (∃ rc < 0, s.close fd = .ok (rc, s.setErrno rc)) ↔ fd ≠ iotTentries := by
  by_cases outside : fd < 0 ∨ fd > iotTentries
  · refine iff_of_true ⟨einvval, by decide, if_pos outside⟩ ?_
    omega
  · by_cases within : fd.toNat < iotTentries
    · refine iff_of_true ⟨enotopen, by decide, ?_⟩ (by omega)
      unfold Process.close
      rw [if_neg outside, dif_pos within, h.empty unopened within (by omega)]
    · refine iff_of_false ?_ (by omega)
      rintro ⟨rc, -, called⟩
      unfold Process.close at called
      rw [if_neg outside, dif_neg within] at called
      cases called

end Descriptors

/-- After every run of opens and closes, of all descriptors that are no open channels of
a task, exactly those but IOT_TENTRIES are refused by its close, and none by its read and
write. -/
theorem unopened_refused_iff (drivers : Drivers δ) (k : Kernel) (chan : k.mutexes 6 = 0)
    (iott : k.iott = iottInit) (s : Process)
    (reached : Reachable LibCall.step (fun _ _ => True) { kernel := k } s) (task : Fin maxTasks)
    (u : Session δ) (junk : BYTE) (fd : Int)
    (unopened : ¬ Process.Denotes { s with kernel := s.kernel.withCur task } fd) (op : FileOp) :
    op.Refused drivers { s with kernel := s.kernel.withCur task } u junk fd ↔
      op = .close ∧ fd ≠ iotTentries := by
  have before := orderly_reachable chan iott reached
  have orderly : Orderly { s with kernel := s.kernel.withCur task } :=
    before.of_same before.chan rfl rfl
  cases op with
  | close =>
    rw [FileOp.Refused, orderly.closes unopened]
    exact (and_iff_right rfl).symm
  | read size buffer => exact iff_of_false (orderly.transfers unopened _) fun h => nomatch h.1
  | write size buffer => exact iff_of_false (orderly.transfers unopened _) fun h => nomatch h.1

/-- A task closes a descriptor that it has closed before. -/
theorem unopened_refused_twice : ∃ s, exec LibCall.step { kernel := startedDisk }
    [⟨0, .openFile diskName⟩, ⟨0, .close 0⟩] = .ok s ∧
      FileOp.close.Refused tape { s with kernel := s.kernel.withCur 0 } onTape 0 0 := by
  have ran : succeeds (exec LibCall.step { kernel := startedDisk }
      [⟨0, .openFile diskName⟩, ⟨0, .close 0⟩]) (fun s => s.iote 0 0 == none) = true := by
    decide +kernel
  obtain ⟨s, ran, empty⟩ := succeeds_iff.mp ran
  have reached : Reachable LibCall.step (fun _ _ => True) { kernel := startedDisk } s :=
    reachable_exec (by decide) ran
  have unopened : ¬ Process.Denotes { s with kernel := s.kernel.withCur 0 } 0 := by
    rintro ⟨within, io, -, there, -⟩
    have empty : s.iote 0 0 = none := beq_iff_eq.mp empty
    cases empty.symm.trans there
  exact ⟨s, ran, (unopened_refused_iff tape startedDisk rfl rfl s reached 0 onTape 0 0 unopened
    .close).mpr ⟨rfl, by decide⟩⟩

/-- Before any open, read passes the kernel a null channel for 0 and close looks behind
the table for 5. -/
theorem unopened_followed :
    ({ kernel := startedDisk } : Process).read tape onTape 0 1 0o60000 0 = .error .nullref ∧
      ({ kernel := startedDisk } : Process).close 5 = .error .outside ∧
      ¬ Process.Denotes { kernel := startedDisk } 0 ∧
      ¬ Process.Denotes { kernel := startedDisk } 5 := by
  refine ⟨rfl, rfl, ?_, ?_⟩
  · rintro ⟨within, io, -, there, -⟩
    cases there
  · rintro ⟨within, io, -⟩
    exact absurd within (by decide)

end Muxx
