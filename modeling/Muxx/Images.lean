import Muxx.Loading
import Muxx.Mapping

/-!
# What load writes

load of lib_load.c, for a device that gives one byte after the other:

* `svcRead_streams`: a read stores the bytes that are left, up to its size;
* `makes`, `load_makes`: what load makes of the bytes;
* `fits_iff`: when that ends below the TUCB, and has the size it is said to have;
* `loads_image_iff`: when load writes nothing else and returns no other size.
-/

namespace Muxx

open Prog Fallible

variable {δ : Type}

/-- `bytes d` is what a driver has left to give: a byte for each read, and when
there are none left an error. -/
def Streams (drivers : Drivers δ) (bytes : Fin maxDrv → δ → List BYTE) : Prop :=
  ∀ d iopkt device, iopkt.function = drvRead →
    match bytes d device with
    | [] => (drivers d iopkt device).1.rc < 0
    | b :: rest => (drivers d iopkt device).1.rc = 1 ∧ (drivers d iopkt device).1.ioarea = b ∧
        bytes d (drivers d iopkt device).2 = rest

/-! ## Reading -/

/-- A read changes nothing in the kernel but errno and two flags of the channel. -/
structure OnlyFlags (k k' : Kernel) : Prop where
  tct : k'.tct = k.tct
  curtcb : k'.curtcb = k.curtcb
  drvcbt : k'.drvcbt = k.drvcbt
  mutexes : k'.mutexes = k.mutexes
  iott : ∀ j, ∃ eof ioerror, k'.iott j = { k.iott j with eof, ioerror }

namespace OnlyFlags
variable {k k' k'' : Kernel}

theorem refl (k : Kernel) : OnlyFlags k k :=
  ⟨rfl, rfl, rfl, rfl, fun j => ⟨(k.iott j).eof, (k.iott j).ioerror, rfl⟩⟩

theorem trans (h : OnlyFlags k k') (h' : OnlyFlags k' k'') : OnlyFlags k k'' := by
  refine ⟨h'.tct.trans h.tct, h'.curtcb.trans h.curtcb, h'.drvcbt.trans h.drvcbt,
    h'.mutexes.trans h.mutexes, ?_⟩
  intro j
  obtain ⟨eof, ioerror, same⟩ := h.iott j
  obtain ⟨eof', ioerror', same'⟩ := h'.iott j
  exact ⟨eof', ioerror', by rw [same', same]⟩

theorem setErrno (h : OnlyFlags k k') (rc : Int) : OnlyFlags k (k'.setErrno rc) :=
  ⟨h.tct, h.curtcb, h.drvcbt, h.mutexes, h.iott⟩

theorem modifyIote (h : OnlyFlags k k') (io : Fin iotSentries) (f : IOTE → IOTE)
    (flags : ∀ e, ∃ eof ioerror, f e = { e with eof, ioerror }) :
    OnlyFlags k (k'.modifyIote io f) := by
  refine ⟨h.tct, h.curtcb, h.drvcbt, h.mutexes, ?_⟩
  intro j
  by_cases here : j = io
  · subst here
    obtain ⟨eof, ioerror, same⟩ := h.iott j
    obtain ⟨eof', ioerror', changed⟩ := flags (k'.iott j)
    exact ⟨eof', ioerror', by rw [Kernel.modifyIote_self, changed, same]⟩
  · rw [Kernel.modifyIote_ne _ _ _ here]
    exact h.iott j

theorem setIoerror (h : OnlyFlags k k') (io : Fin iotSentries) (b : Bool) :
    OnlyFlags k (k'.modifyIote io ({ · with ioerror := b })) :=
  h.modifyIote io _ fun e => ⟨e.eof, b, rfl⟩

theorem setEof (h : OnlyFlags k k') (io : Fin iotSentries) (b : Bool) :
    OnlyFlags k (k'.modifyIote io ({ · with eof := b })) :=
  h.modifyIote io _ fun e => ⟨b, e.ioerror, rfl⟩

theorem keepsChannels (h : OnlyFlags k k') : KeepsChannels k k' := by
  refine ⟨h.tct, h.curtcb, h.drvcbt, ?_, ?_, ?_, ?_⟩
  all_goals
    intro j
    obtain ⟨eof, ioerror, same⟩ := h.iott j
    rw [same]

theorem cur (h : OnlyFlags k k') : k'.cur = k.cur := by
  rw [Kernel.cur, h.tct, h.curtcb]
  rfl

end OnlyFlags

/-- A read of `n` bytes has stored those of them that were left. -/
structure HasStored (bytes : δ → List BYTE) (n : Nat) (buffer : ADDRESS) (s t : Session δ) :
    Prop where
  kept : OnlyFlags s.kernel t.kernel
  memory : t.memory = place s.memory buffer ((bytes s.device).take n)
  full : n ≤ (bytes s.device).length →
    bytes t.device = (bytes s.device).drop n ∧ t.errno = eok
  short : (bytes s.device).length < n → t.errno < 0

section Reading
variable {drivers : Drivers δ} {bytes : Fin maxDrv → δ → List BYTE} {io : Fin iotSentries}
variable {d : Fin maxDrv}

theorem readLoop_streams (streams : Streams drivers bytes) (io : Fin iotSentries) (d : Fin maxDrv)
    (buffer : ADDRESS) (n i : Nat) (iopkt : IOPKT) (rc numchars : Int) (s : Session δ)
    (reading : iopkt.function = drvRead) (going : rc ≥ 0) :
    ∃ (rc' : Int) (device : δ) (log : List DrvCall),
      (sessionPort drivers io).readLoop (some d) buffer n i iopkt rc numchars s =
        some (rc', numchars + ((bytes d s.device).take n).length, { s with
          memory := place s.memory (buffer + BitVec.ofNat 16 i) ((bytes d s.device).take n)
          device
          calls := s.calls ++ log }) ∧
      (n ≤ (bytes d s.device).length → 0 ≤ rc' ∧ bytes d device = (bytes d s.device).drop n) ∧
      ((bytes d s.device).length < n → rc' < 0) := by
  induction n generalizing i iopkt rc numchars s with
  | zero =>
    refine ⟨rc, s.device, [], ?_, fun _ => ⟨going, rfl⟩,
      fun none => absurd none (Nat.not_lt_zero _)⟩
    simp [Port.readLoop, place]
  | succ n ih =>
    let reply := s.reply drivers d iopkt
    let next : IOPKT := { iopkt with error := reply.error, ioarea := reply.ioarea }
    have answer := streams d iopkt s.device reading
    cases left : bytes d s.device with
    | nil =>
      rw [left] at answer
      have failed : reply.rc < 0 := answer
      refine ⟨reply.rc, (s.called drivers d iopkt).device, [⟨iopkt, reply⟩], ?_,
        fun enough => absurd enough (Nat.not_succ_le_zero n), fun _ => failed⟩
      rw [readLoop_untaken going (Int.not_lt.mpr failed.le)]
      refine (readLoop_stopped failed ..).trans ?_
      simp [Session.called, reply, place]
    | cons b rest =>
      rw [left] at answer
      obtain ⟨taken, given, later⟩ := answer
      have taken : reply.rc = 1 := taken
      have given : reply.ioarea = b := given
      let s₁ : Session δ := { s.called drivers d iopkt with
        memory := Function.update s.memory (buffer + BitVec.ofNat 16 i) b }
      have left₁ : bytes d s₁.device = rest := later
      have first : (sessionPort drivers io).readLoop (some d) buffer (n + 1) i iopkt rc numchars s =
          (sessionPort drivers io).readLoop (some d) buffer n (i + 1) next reply.rc
            (numchars + reply.rc) s₁ := by
        simp only [s₁, ← given]
        exact readLoop_taken going (taken ▸ Int.one_pos) n i numchars
      obtain ⟨rc', device, log, ran, full, short⟩ :=
        ih (i + 1) next reply.rc (numchars + reply.rc) s₁ reading (by omega)
      rw [left₁] at ran full short
      refine ⟨rc', device, ⟨iopkt, reply⟩ :: log, ?_, ?_, ?_⟩
      · have slot : buffer + BitVec.ofNat 16 i + 1 = buffer + BitVec.ofNat 16 (i + 1) := by
          bv_omega
        have count : numchars + reply.rc + (rest.take n).length =
            numchars + ((b :: rest).take (n + 1)).length := by
          rw [taken, List.take_succ_cons, List.length_cons]
          omega
        rw [first, ran, count, List.take_succ_cons, place, slot]
        simp [s₁, Session.called, reply]
      · intro enough
        exact full (Nat.le_of_succ_le_succ enough)
      · intro few
        exact short (Nat.lt_of_succ_lt_succ few)

theorem svcRead_streams (streams : Streams drivers bytes) {s : Session δ}
    (opened : (s.kernel.iott io).opened = true) (driver : (s.kernel.iott io).driver = d)
    (unbuffered : (s.kernel.drvcbt d).desc.buffered = false) (size : WORD) (buffer : ADDRESS)
    (junk : BYTE) :
    ∃ t, (sessionPort drivers io).svcRead size buffer junk s =
        some ((((bytes d s.device).take size.toInt.toNat).length : Int), t) ∧
      HasStored (bytes d) size.toInt.toNat buffer s t := by
  obtain ⟨rc, device, log, ran, full, short⟩ :=
    readLoop_streams streams io d buffer size.toInt.toNat 0 (request (s.kernel.iott io) junk) 0 0 s
      rfl (by decide)
  rw [Int.zero_add, ← readChannel_open (congrArg some driver) (congrArg some opened)
    (congrArg some unbuffered) rfl] at ran
  have start : buffer + BitVec.ofNat 16 0 = buffer := BitVec.add_zero buffer
  rw [start] at ran
  let kept := OnlyFlags.refl s.kernel
  suffices result : ∃ k, (sessionPort drivers io).svcRead size buffer junk s =
      some ((((bytes d s.device).take size.toInt.toNat).length : Int), { s with
        kernel := k
        memory := place s.memory buffer ((bytes d s.device).take size.toInt.toNat)
        device
        calls := s.calls ++ log }) ∧ OnlyFlags s.kernel k ∧
      k.t_errno k.curtcb = if rc < 0 then rc else eok by
    obtain ⟨k, returned, flags, errno⟩ := result
    refine ⟨_, returned, flags, rfl, ?_, ?_⟩
    · intro enough
      obtain ⟨fine, later⟩ := full enough
      exact ⟨later, errno.trans (if_neg (Int.not_lt.mpr fine))⟩
    · intro few
      have failed := short few
      exact (errno.trans (if_pos failed)).trans_lt failed
  by_cases failed : rc < 0
  · by_cases end_of_file : rc = eeof
    · refine ⟨((s.kernel.modifyIote io ({ · with eof := true })).modifyIote io
        ({ · with ioerror := false })).setErrno rc, ?_, ?_, ?_⟩
      · rw [Port.svcRead, ran]
        exact (if_pos failed).trans (if_pos end_of_file)
      · exact ((kept.setEof io true).setIoerror io false).setErrno rc
      · rw [if_pos failed]
        exact setErrno_errno ..
    · refine ⟨(s.kernel.modifyIote io ({ · with ioerror := true })).setErrno rc, ?_, ?_, ?_⟩
      · rw [Port.svcRead, ran]
        exact (if_pos failed).trans (if_neg end_of_file)
      · exact (kept.setIoerror io true).setErrno rc
      · rw [if_pos failed]
        exact setErrno_errno ..
  · refine ⟨((s.kernel.setErrno eok).modifyIote io ({ · with ioerror := false })).modifyIote io
      ({ · with eof := false }), ?_, ?_, ?_⟩
    · rw [Port.svcRead, ran]
      exact if_neg failed
    · exact ((kept.setErrno eok).setIoerror io false).setEof io false
    · rw [if_neg failed]
      exact setErrno_errno s.kernel eok

/-- A read of the library returns how many bytes it has stored. -/
theorem read_streams (streams : Streams drivers bytes) {s : Shell δ} {fd : Int}
    (on : OnChannel s fd io d)
    (unbuffered : (s.process.kernel.drvcbt d).desc.buffered = false) (size : WORD)
    (buffer : ADDRESS) (junk : BYTE) :
    ∃ t, s.read drivers fd size buffer junk =
        .ok ((((bytes d s.device).take size.toInt.toNat).length : Int), s.withSession t) ∧
      HasStored (bytes d) size.toInt.toNat buffer s.session t := by
  obtain ⟨t, ran, stored⟩ :=
    svcRead_streams (s := s.session) streams on.opened on.driver unbuffered size buffer junk
  refine ⟨t, ?_, stored⟩
  have slot := on.slot
  have ran : (sessionPort drivers io).svcRead size buffer junk s.session =
      some ((((bytes d s.device).take size.toInt.toNat).length : Int), t) := ran
  simp only [Shell.read, on.low, on.high, and_self, dif_pos, slot, ran]

end Reading

/-! ## Memory -/

section Placing
variable {m m' : ADDRESS → BYTE} {a : ADDRESS} {bytes : List BYTE}

theorem place_place (xs ys : List BYTE) :
    place (place m a xs) (a + BitVec.ofNat 16 xs.length) ys = place m a (xs ++ ys) := by
  induction xs generalizing m a with
  | nil =>
    rw [List.length_nil, List.nil_append, place]
    exact congrArg (place m · ys) (BitVec.add_zero a)
  | cons x xs ih =>
    have next : a + BitVec.ofNat 16 (xs.length + 1) = a + 1 + BitVec.ofNat 16 xs.length := by
      bv_omega
    rw [List.length_cons, next, List.cons_append, place, place]
    exact ih

/-- What is in a place that has been stored to does not depend on what was there. -/
theorem place_forgets {j : Nat} (within : j < bytes.length) :
    place m a bytes (a + BitVec.ofNat 16 j) = place m' a bytes (a + BitVec.ofNat 16 j) := by
  suffices same : ∀ x, (∃ j < bytes.length, x = a + BitVec.ofNat 16 j) ∨ m x = m' x →
      place m a bytes x = place m' a bytes x from same _ (.inl ⟨j, within, rfl⟩)
  clear within
  induction bytes generalizing m m' a with
  | nil =>
    rintro x (⟨j, within, -⟩ | same)
    · exact absurd within (Nat.not_lt_zero j)
    · exact same
  | cons b bytes ih =>
    intro x reached
    rw [place, place]
    apply ih
    by_cases here : x = a
    · right
      rw [here, Function.update_self, Function.update_self]
    · rcases reached with ⟨j, within, rfl⟩ | same
      · cases j with
        | zero => exact absurd (BitVec.add_zero a) here
        | succ j =>
          left
          refine ⟨j, Nat.lt_of_succ_lt_succ within, ?_⟩
          bv_omega
      · right
        rw [Function.update_of_ne here, Function.update_of_ne here, same]

theorem memset_place (s : Shell δ) (dest : ADDRESS) (b : BYTE) (n : WORD) :
    (s.memset dest b n).memory = place s.memory dest (List.replicate n.toNat b) := by
  have bound := n.isLt
  have length : (List.replicate n.toNat b).length = n.toNat := List.length_replicate
  funext a
  rw [Shell.memset]
  dsimp only
  by_cases within : a - dest < n
  · have slot : a = dest + BitVec.ofNat 16 (a - dest).toNat := by bv_omega
    have before : (a - dest).toNat < (List.replicate n.toNat b).length := by
      rw [length]
      bv_omega
    have byte : place s.memory dest (List.replicate n.toNat b)
        (dest + BitVec.ofNat 16 (a - dest).toNat) = _ := place_byte (by omega) before
    rw [← slot, List.getElem_replicate] at byte
    rw [if_pos within, byte]
  · rw [if_neg within, place_other]
    intro j before
    rw [length] at before
    bv_omega

end Placing

/-- A read behind another stores what one read of both sizes would. -/
theorem HasStored.behind {bytes : δ → List BYTE} {n m : Nat} {s t u : Session δ} {a : ADDRESS}
    (h : HasStored bytes n a s t)
    (enough : n ≤ (bytes s.device).length) (h' : HasStored bytes m (a + BitVec.ofNat 16 n) t u) :
    HasStored bytes (n + m) a s u := by
  obtain ⟨left, -⟩ := h.full enough
  have length : ((bytes s.device).take n).length = n := List.length_take_of_le enough
  have later : ((bytes s.device).drop n).length = (bytes s.device).length - n := List.length_drop
  refine ⟨h.kept.trans h'.kept, ?_, ?_, ?_⟩
  · have behind := place_place (m := s.memory) (a := a) ((bytes s.device).take n)
      (((bytes s.device).drop n).take m)
    rw [length] at behind
    rw [h'.memory, h.memory, left, behind, ← List.take_add]
  · intro enough'
    obtain ⟨left', errno⟩ := h'.full (by rw [left]; omega)
    exact ⟨by rw [left', left, List.drop_drop], errno⟩
  · intro few
    exact h'.short (by rw [left]; omega)

/-! ## What load makes of the bytes -/

/-- The header is good, and what it announces fits as far as the sum of the sizes
can tell. -/
def Accepted (space : WORD) (stream : List BYTE) : Prop :=
  16 ≤ stream.length ∧
    (headerWord stream 0 = aMagic1 ∨ headerWord stream 0 = aMagic2) ∧
    headerWord stream 2 + headerWord stream 4 + headerWord stream 6 ≤ space

instance instDecidableAccepted (space : WORD) (stream : List BYTE) :
    Decidable (Accepted space stream) :=
  inferInstanceAs (Decidable (_ ∧ _ ∧ _))

/-- What the loading of an image comes to, with so many bytes left behind the header:
whether it finds no error, and all that it stores from TASK_BASE on. -/
def imageOf (stext sdata sbss : WORD) (rest : List BYTE) : Bool × List BYTE :=
  if 0o100000 ≤ stext.toNat then (true, [])
  else if rest.length < stext.toNat then (false, rest)
  else if 0o100000 ≤ sdata.toNat then (true, rest.take stext.toNat)
  else if rest.length < stext.toNat + sdata.toNat then (false, rest)
  else (true, rest.take (stext.toNat + sdata.toNat) ++ List.replicate sbss.toNat 0)

/-- What load makes of all the bytes: the size it returns, and what it stores. -/
def makes (space : WORD) (stream : List BYTE) : WORD × List BYTE :=
  let stext := headerWord stream 2
  let sdata := headerWord stream 4
  let sbss := headerWord stream 6
  if Accepted space stream then
    let (fine, stored) := imageOf stext sdata sbss (stream.drop 16)
    (if fine then stext + sdata + sbss else 0, stored)
  else (0, [])

section Loading
variable {drivers : Drivers δ} {bytes : Fin maxDrv → δ → List BYTE} {io : Fin iotSentries}
variable {d : Fin maxDrv} {s : Shell δ} {fd : Int}

/-- The size of a read as the number that the service takes it for. -/
theorem size_cases (size : WORD) : 0o100000 ≤ size.toNat ∧ size.toInt.toNat = 0 ∨
    size.toNat < 0o100000 ∧ size.toInt.toNat = size.toNat := by
  have signed := BitVec.toInt_eq_toNat_cond size
  split_ifs at signed <;> omega

/-- A read is short when its size is too big for an `int`, or the bytes have run out. -/
theorem short_streams (size : WORD) (rest : List BYTE) :
    BitVec.ofInt 16 ((rest.take size.toInt.toNat).length : Int) < size ↔
      0o100000 ≤ size.toNat ∨ rest.length < size.toNat := by
  rw [short_iff (List.length_take_le _ _), List.length_take]
  rcases size_cases size with ⟨large, none⟩ | ⟨small, same⟩ <;> omega

theorem loadImage_streams (streams : Streams drivers bytes) (on : OnChannel s fd io d)
    (unbuffered : (s.process.kernel.drvcbt d).desc.buffered = false) (stext sdata sbss : WORD) :
    ∃ rc t, s.loadImage drivers fd stext sdata sbss = .ok (rc, s.withSession t) ∧
      OnlyFlags s.process.kernel t.kernel ∧
      (rc = eok ↔ (imageOf stext sdata sbss (bytes d s.device)).1 = true) ∧
      t.memory = place s.memory taskBase (imageOf stext sdata sbss (bytes d s.device)).2 := by
  obtain ⟨t₁, ran₁, stored₁⟩ := read_streams streams on unbuffered stext taskBase (s.junk 1)
  have kept₁ : OnlyFlags s.process.kernel t₁.kernel := stored₁.kept
  have memory₁ : t₁.memory = place s.memory taskBase ((bytes d s.device).take stext.toInt.toNat) :=
    stored₁.memory
  have short₁ := short_streams stext (bytes d s.device)
  simp only [Shell.loadImage, ran₁, ok_bind]
  rcases size_cases stext with ⟨large, none⟩ | ⟨small, same⟩
  · rw [if_pos (short₁.mpr (.inl large))]
    obtain ⟨-, errno⟩ := stored₁.full (none ▸ Nat.zero_le _)
    refine ⟨_, t₁, rfl, kept₁, ?_, ?_⟩
    · rw [imageOf, if_pos large]
      exact iff_of_true errno rfl
    · rw [imageOf, if_pos large, memory₁, none]
      rfl
  have notLarge : ¬ 0o100000 ≤ stext.toNat := Nat.not_le_of_lt small
  by_cases few : (bytes d s.device).length < stext.toNat
  · rw [if_pos (short₁.mpr (.inr few))]
    have errno := stored₁.short (same ▸ few)
    refine ⟨_, t₁, rfl, kept₁, ?_, ?_⟩
    · rw [imageOf, if_neg notLarge, if_pos few]
      exact iff_of_false errno.ne Bool.false_ne_true
    · rw [imageOf, if_neg notLarge, if_pos few, memory₁, same,
        List.take_of_length_le (Nat.le_of_lt few)]
  rw [if_neg (short₁.not.mpr (not_or.mpr ⟨notLarge, few⟩))]
  have enough : stext.toNat ≤ (bytes d s.device).length := Nat.le_of_not_lt few
  obtain ⟨later, -⟩ := stored₁.full (same ▸ enough)
  have left₁ : bytes d t₁.device = (bytes d s.device).drop stext.toNat := same ▸ later
  -- the data goes behind the text
  have on₁ : OnChannel (s.withSession t₁) fd io d := on.withSession kept₁.keepsChannels
  have unbuffered₁ : (t₁.kernel.drvcbt d).desc.buffered = false := by
    rw [kept₁.drvcbt]
    exact unbuffered
  obtain ⟨t₂, ran₂, stored₂⟩ :=
    read_streams streams on₁ unbuffered₁ sdata (taskBase + stext) ((s.withSession t₁).junk 2)
  have ran₂ : (s.withSession t₁).read drivers fd sdata (taskBase + stext)
      ((s.withSession t₁).junk 2) = .ok (((((bytes d s.device).drop stext.toNat).take
        sdata.toInt.toNat).length : Int), s.withSession t₂) := left₁ ▸ ran₂
  have behind : taskBase + stext = taskBase + BitVec.ofNat 16 stext.toNat := by
    rw [BitVec.ofNat_toNat, BitVec.setWidth_eq]
  have both : HasStored (bytes d) (stext.toNat + sdata.toInt.toNat) taskBase s.session t₂ :=
    (same ▸ stored₁).behind enough (behind ▸ stored₂)
  have kept₂ : OnlyFlags s.process.kernel t₂.kernel := both.kept
  have memory₂ : t₂.memory = place s.memory taskBase
      ((bytes d s.device).take (stext.toNat + sdata.toInt.toNat)) := both.memory
  have short₂ := short_streams sdata ((bytes d s.device).drop stext.toNat)
  have remaining : ((bytes d s.device).drop stext.toNat).length =
      (bytes d s.device).length - stext.toNat := List.length_drop
  simp only [ran₂, ok_bind]
  rcases size_cases sdata with ⟨large, none⟩ | ⟨small, same⟩
  · rw [if_pos (short₂.mpr (.inl large))]
    obtain ⟨-, errno⟩ := both.full (none ▸ enough)
    refine ⟨_, t₂, rfl, kept₂, ?_, ?_⟩
    · rw [imageOf, if_neg notLarge, if_neg few, if_pos large]
      exact iff_of_true errno rfl
    · rw [imageOf, if_neg notLarge, if_neg few, if_pos large, memory₂, none, Nat.add_zero]
  have notLarge' : ¬ 0o100000 ≤ sdata.toNat := Nat.not_le_of_lt small
  rw [same] at both memory₂
  by_cases few' : (bytes d s.device).length < stext.toNat + sdata.toNat
  · rw [if_pos (short₂.mpr (.inr (by omega)))]
    have errno := both.short few'
    refine ⟨_, t₂, rfl, kept₂, ?_, ?_⟩
    · rw [imageOf, if_neg notLarge, if_neg few, if_neg notLarge', if_pos few']
      exact iff_of_false errno.ne Bool.false_ne_true
    · rw [imageOf, if_neg notLarge, if_neg few, if_neg notLarge', if_pos few', memory₂,
        List.take_of_length_le (Nat.le_of_lt few')]
  rw [if_neg (short₂.not.mpr (not_or.mpr ⟨notLarge', by omega⟩))]
  have made : imageOf stext sdata sbss (bytes d s.device) = (true,
      (bytes d s.device).take (stext.toNat + sdata.toNat) ++ List.replicate sbss.toNat 0) := by
    rw [imageOf, if_neg notLarge, if_neg few, if_neg notLarge', if_neg few']
  have total : taskBase + stext + sdata = taskBase +
      BitVec.ofNat 16 ((bytes d s.device).take (stext.toNat + sdata.toNat)).length := by
    rw [List.length_take, Nat.min_eq_left (Nat.le_of_not_lt few')]
    bv_omega
  rw [made]
  by_cases bss : sbss > 0
  · rw [if_pos bss]
    refine ⟨eok, { t₂ with memory := ((s.withSession t₂).memset
      (taskBase + stext + sdata) 0 sbss).memory }, rfl, kept₂, iff_of_true rfl rfl, ?_⟩
    dsimp only
    rw [memset_place, total]
    exact (congrArg (place · _ _) memory₂).trans (place_place ..)
  · rw [if_neg bss]
    have none : sbss.toNat = 0 := by bv_omega
    refine ⟨eok, t₂, rfl, kept₂, iff_of_true rfl rfl, ?_⟩
    rw [none, List.replicate_zero, List.append_nil, memory₂]

theorem headerWord_take {stream : List BYTE} {i : Nat} (within : i + 1 < 16) :
    headerWord (stream.take 16) i = headerWord stream i := by
  rw [headerWord, headerWord, List.getElem?_take_of_lt within,
    List.getElem?_take_of_lt (Nat.lt_of_succ_lt within)]

/-- What load does with the channel open: it returns the size that it makes of the
bytes, and stores the header and what it makes of them. -/
theorem loadFile_streams (streams : Streams drivers bytes) (on : OnChannel s fd io d)
    (unbuffered : (s.process.kernel.drvcbt d).desc.buffered = false) (entry : ADDRESS) :
    ∃ (rc : Int) (imgsize : WORD) (entry' : ADDRESS) (t : Session δ),
      s.loadFile drivers fd entry = .ok ((rc, imgsize, entry'), s.withSession t) ∧
      OnlyFlags s.process.kernel t.kernel ∧
      (if rc = eok then imgsize else 0) = (makes s.space (bytes d s.device)).1 ∧
      t.memory = place (place s.memory s.ex ((bytes d s.device).take 16)) taskBase
        (makes s.space (bytes d s.device)).2 := by
  obtain ⟨t₁, ran₁, stored₁⟩ := read_streams streams on unbuffered 16 s.ex (s.junk 0)
  have size : (16 : WORD).toInt.toNat = 16 := by decide
  rw [size] at ran₁ stored₁
  have kept₁ : OnlyFlags s.process.kernel t₁.kernel := stored₁.kept
  have memory₁ : t₁.memory = place s.memory s.ex ((bytes d s.device).take 16) := stored₁.memory
  have length : ((bytes d s.device).take 16).length = min 16 (bytes d s.device).length :=
    List.length_take
  by_cases few : (bytes d s.device).length < 16
  · have refused : ¬ Accepted s.space (bytes d s.device) := fun accepted =>
      absurd accepted.1 (Nat.not_le_of_lt few)
    rw [loadFile_short ran₁ (by omega)]
    refine ⟨_, 0, entry, t₁, rfl, kept₁, ?_, ?_⟩
    · rw [makes, if_neg refused, ite_self]
    · rw [makes, if_neg refused, memory₁]
      rfl
  have enough : 16 ≤ (bytes d s.device).length := Nat.le_of_not_lt few
  have whole : ((bytes d s.device).take 16).length = 16 := length.trans (Nat.min_eq_left enough)
  have space : (s.withSession t₁).space = s.space := kept₁.keepsChannels.space
  rw [loadFile_header ran₁ whole memory₁ whole rfl, space, headerWord_take (by decide),
    headerWord_take (by decide), headerWord_take (by decide), headerWord_take (by decide),
    headerWord_take (by decide)]
  by_cases magic : headerWord (bytes d s.device) 0 ≠ aMagic1 ∧
      headerWord (bytes d s.device) 0 ≠ aMagic2
  · have refused : ¬ Accepted s.space (bytes d s.device) := fun accepted =>
      accepted.2.1.elim magic.1 magic.2
    rw [if_pos magic]
    refine ⟨_, 0, entry, t₁, rfl, kept₁, ?_, ?_⟩
    · rw [makes, if_neg refused, ite_self]
    · rw [makes, if_neg refused, memory₁]
      rfl
  rw [if_neg magic]
  by_cases large : headerWord (bytes d s.device) 2 + headerWord (bytes d s.device) 4 +
      headerWord (bytes d s.device) 6 > s.space
  · have refused : ¬ Accepted s.space (bytes d s.device) := fun accepted =>
      absurd accepted.2.2 (BitVec.not_le.mpr large)
    rw [if_pos large]
    refine ⟨_, _, _, { t₁ with kernel := t₁.kernel.setErrno enomem }, rfl, kept₁.setErrno _, ?_, ?_⟩
    · rw [makes, if_neg refused, if_neg (by decide)]
    · rw [makes, if_neg refused]
      exact memory₁
  rw [if_neg large]
  have accepted : Accepted s.space (bytes d s.device) :=
    ⟨enough, by tauto, BitVec.not_lt.mp large⟩
  obtain ⟨later, -⟩ := stored₁.full enough
  have left₁ : bytes d t₁.device = (bytes d s.device).drop 16 := later
  have on₁ : OnChannel (s.withSession t₁) fd io d := on.withSession kept₁.keepsChannels
  have unbuffered₁ : (t₁.kernel.drvcbt d).desc.buffered = false := by
    rw [kept₁.drvcbt]
    exact unbuffered
  obtain ⟨rc, t₂, ran₂, kept₂, fine, memory₂⟩ := loadImage_streams streams on₁ unbuffered₁
    (headerWord (bytes d s.device) 2) (headerWord (bytes d s.device) 4)
    (headerWord (bytes d s.device) 6)
  have device : bytes d (s.withSession t₁).device = (bytes d s.device).drop 16 := left₁
  rw [device] at fine memory₂
  rw [ran₂]
  refine ⟨rc, _, _, t₂, rfl, kept₁.trans kept₂, ?_, ?_⟩
  · rw [makes, if_pos accepted]
    dsimp only
    exact if_congr fine rfl rfl
  · rw [makes, if_pos accepted, memory₂]
    exact congrArg (place · _ _) memory₁

end Loading

/-! ## The whole of load -/

section Files
variable {drivers : Drivers δ} {bytes : Fin maxDrv → δ → List BYTE} {io : Fin iotSentries}
variable {d : Fin maxDrv} {s s' : Shell δ} {fd : Int} {dev : Name}

/-- load gets a channel on the driver `d`, one without a buffer. -/
structure Shell.Channels (s : Shell δ) (dev : Name) (d : Fin maxDrv) : Prop where
  slot : s.process.freeSlot ≠ none
  offers : s.process.kernel.Offers dev d
  unbuffered : (s.process.kernel.drvcbt d).desc.buffered = false

theorem openFile_leaves {p : Process} (opening : s.process.openFile dev = .ok (fd, p))
    (positive : ¬ fd < 0) : ∃ io d, s.process.freeSlot ≠ none ∧ s.process.kernel.Offers dev d ∧
      LeavesChannel s.process.kernel p.kernel io d ∧ OnChannel { s with process := p } fd io d := by
  simp only [Process.openFile] at opening
  split at opening
  · cases opening
    exact absurd (by decide) positive
  next slot free =>
    obtain ⟨⟨piote, k⟩, ran, rest⟩ := bind_ok.mp opening
    cases piote with
    | none =>
      cases rest
      obtain ⟨-, -, failed, -⟩ := run_svcOpen_slot ran
      exact absurd (failed rfl) positive
    | some io =>
      cases rest
      obtain ⟨d, offers, left⟩ := svcOpen_leaves ran
      have free : s.process.freeSlot = some slot := free
      refine ⟨io, d, by rw [free]; exact Option.some_ne_none slot,
        ⟨offers.chan, offers.pid, offers.entry, offers.located, offers.grants, offers.drv⟩,
        ⟨left.tct, left.curtcb, left.chan, left.opened, left.driver, left.desc, left.returnable⟩,
        Int.natCast_nonneg _, slot.isLt, ?_, left.opened, left.driver⟩
      simp [Process.slot, Process.setSlot]

theorem openFile_opens (slot : s.process.freeSlot ≠ none)
    (offers : s.process.kernel.Offers dev d) :
    ∃ fd p, s.process.openFile dev = .ok (fd, p) ∧ ¬ fd < 0 := by
  obtain ⟨fd, free⟩ := Option.ne_none_iff_exists'.mp slot
  have offers : (s.process.kernel.setErrno eok).Offers dev d :=
    ⟨offers.chan, offers.pid, offers.entry, offers.located, offers.grants, offers.drv⟩
  obtain ⟨io, k, ran⟩ := offers.opens
  have free : (s.process.setErrno eok).freeSlot = some fd := free
  have ran : run (svcOpen dev) (s.process.setErrno eok).kernel = .ok (some io, k) := ran
  refine ⟨fd.val, ({ s.process.setErrno eok with kernel := k }).setSlot fd io, ?_,
    Int.not_lt.mpr (Int.natCast_nonneg _)⟩
  simp only [Process.openFile, free, ran, ok_bind]
  rfl

theorem close_returns (on : OnChannel s fd io d) (chan : s.process.kernel.mutexes 6 = 0)
    (small : s.process.kernel.cur.pid.toNat < 0o400)
    (returnable : s.process.kernel.Returnable io) : ∃ p, s.process.close fd = .ok (eok, p) := by
  obtain ⟨k, ran⟩ := svcClose_returns chan small on.opened on.driver returnable
  have inRange : ¬ (fd < 0 ∨ fd > iotTentries) := by
    have low := on.low
    have high := on.high
    omega
  have slot := on.slot
  refine ⟨({ s.process with kernel := k }).setSlot ⟨fd.toNat, on.high⟩ none, ?_⟩
  simp only [Process.close, if_neg inRange, dif_pos on.high, slot, ran, ok_bind, if_true]
  rfl

theorem OnlyFlags.returnable {k k' : Kernel} (h : OnlyFlags k k') (returnable : k.Returnable io) :
    k'.Returnable io := by
  obtain ⟨eof, ioerror, same⟩ := h.iott io
  intro gives
  rw [same] at gives
  obtain ⟨lock, d, e, driver, found⟩ := returnable gives
  rw [← h.drvcbt, ← h.curtcb] at found
  exact ⟨(congrFun h.mutexes 5).trans lock, d, e, (congrArg IOTE.driver same).trans driver, found⟩

/-- What load returns and leaves in memory, when it gets a channel. -/
theorem load_makes (streams : Streams drivers bytes) (channel : s.Channels dev d)
    (entry : ADDRESS) : ∃ entry' s', s.load drivers dev entry =
      .ok (((makes s.space (bytes d s.device)).1.toInt, entry'), s') ∧
      s'.memory = place (place s.memory s.ex ((bytes d s.device).take 16)) taskBase
        (makes s.space (bytes d s.device)).2 := by
  obtain ⟨fd, p, opening, positive⟩ := openFile_opens channel.slot channel.offers
  obtain ⟨io, d', -, offers, left, on⟩ := openFile_leaves opening positive
  obtain rfl : d' = d := by
    obtain ⟨v, located⟩ := channel.offers.located
    obtain ⟨v', located'⟩ := offers.located
    exact congrArg Prod.fst (Option.some_inj.mp (located'.symm.trans located))
  have unbuffered : (p.kernel.drvcbt d').desc.buffered = false := by
    rw [left.desc]
    exact channel.unbuffered
  obtain ⟨rc, imgsize, entry', t, ran, kept, size, memory⟩ :=
    loadFile_streams streams on unbuffered entry
  have cur : p.kernel.cur = s.process.kernel.cur := by
    rw [Kernel.cur, left.tct, left.curtcb]
    rfl
  have space : Shell.space { s with process := p } = s.space := by
    simp only [Shell.space, cur]
  rw [space] at size memory
  have on' : OnChannel (Shell.withSession { s with process := p } t) fd io d' :=
    on.withSession kept.keepsChannels
  have small : t.kernel.cur.pid.toNat < 0o400 := by
    rw [kept.cur, cur]
    exact channel.offers.pid
  obtain ⟨p', closing⟩ := close_returns on' ((congrFun kept.mutexes 6).trans left.chan) small
    (kept.returnable left.returnable)
  refine ⟨entry', { Shell.withSession { s with process := p } t with process := p' }, ?_, memory⟩
  simp only [Shell.load, opening, ok_bind, if_neg positive, ran, closing, pure_eq_ok, ← size]
  split_ifs <;> rfl

/-- Without such a channel it stores nothing, and returns no size. -/
theorem load_refused (refused : ∀ d, ¬ s.Channels dev d) {entry entry' : ADDRESS} {rc : Int}
    (loaded : s.load drivers dev entry = .ok ((rc, entry'), s')) :
    rc ≤ 0 ∧ s'.memory = s.memory := by
  simp only [Shell.load] at loaded
  obtain ⟨⟨fd, p⟩, opening, rest⟩ := bind_ok.mp loaded
  by_cases failed : fd < 0
  · rw [if_pos failed] at rest
    cases rest
    exact ⟨failed.le, rfl⟩
  rw [if_neg failed] at rest
  obtain ⟨io, d, slot, offers, left, on⟩ := openFile_leaves opening failed
  have buffered : (p.kernel.drvcbt d).desc.buffered = true := by
    rw [left.desc]
    by_contra unbuffered
    exact refused d ⟨slot, offers, Bool.eq_false_iff.mpr unbuffered⟩
  obtain ⟨k, ran, -⟩ := svcRead_buffered drivers (s := Shell.session { s with process := p })
    on.opened on.driver buffered 16 s.ex (s.junk 0)
  obtain ⟨⟨⟨rc', imgsize, entry₁⟩, s₁⟩, file, rest⟩ := bind_ok.mp rest
  have inSlot := on.slot
  simp only [Shell.loadFile, Shell.read, on.low, on.high, and_self, dif_pos, inSlot, ran,
    ok_bind] at file
  rw [if_pos (by decide)] at file
  cases file
  obtain ⟨⟨closed, p₁⟩, closing, rest⟩ := bind_ok.mp rest
  cases rest
  refine ⟨?_, rfl⟩
  split_ifs
  · exact (by decide : (0 : WORD).toInt ≤ 0)
  · exact Int.le_refl 0

end Files

/-! ## What it should write -/

/-- The image that the bytes announce and have is in memory, and `n` is its size. -/
structure HoldsImage (stream : List BYTE) (n : Int) (memory : ADDRESS → BYTE) : Prop where
  size : n = (headerWord stream 2).toNat + (headerWord stream 4).toNat +
    (headerWord stream 6).toNat
  image : ∀ j < (headerWord stream 2).toNat + (headerWord stream 4).toNat,
    stream[16 + j]? = some (memory (taskBase + BitVec.ofNat 16 j))
  bss : ∀ j < (headerWord stream 6).toNat, memory (taskBase + BitVec.ofNat 16
    ((headerWord stream 2).toNat + (headerWord stream 4).toNat + j)) = 0

/-- What load stores from TASK_BASE on ends within `room`, and it finds no size that
is too big for an `int`, or announces nothing: a read of such a size is no error. -/
def Fits (space : WORD) (room : Nat) (stream : List BYTE) : Prop :=
  let stext := headerWord stream 2
  let sdata := headerWord stream 4
  let sbss := headerWord stream 6
  Accepted space stream →
    if 0o100000 ≤ stext.toNat then stext + sdata + sbss = 0
    else if stream.length < 16 + stext.toNat then stream.length ≤ 16 + room
    else if 0o100000 ≤ sdata.toNat then stext.toNat ≤ room ∧ stext + sdata + sbss = 0
    else if stream.length < 16 + stext.toNat + sdata.toNat then stream.length ≤ 16 + room
    else stext.toNat + sdata.toNat + sbss.toNat ≤ room

section Sizes
variable {space : WORD} {room : Nat} {stream : List BYTE}

theorem makes_accepted (accepted : Accepted space stream) : makes space stream =
    (if (imageOf (headerWord stream 2) (headerWord stream 4) (headerWord stream 6)
      (stream.drop 16)).1 then headerWord stream 2 + headerWord stream 4 + headerWord stream 6
      else 0, (imageOf (headerWord stream 2) (headerWord stream 4) (headerWord stream 6)
      (stream.drop 16)).2) := by
  rw [makes, if_pos accepted]

theorem makes_refused (refused : ¬ Accepted space stream) : makes space stream = (0, []) := by
  rw [makes, if_neg refused]

/-- The condition says that what is stored stays within the room, and that a size
which is returned is the sum. -/
theorem fits_iff (small : space.toNat ≤ 0o60000) (near : room ≤ 0o60000) :
    Fits space room stream ↔ (makes space stream).2.length ≤ room ∧
      (0 < (makes space stream).1.toNat → (makes space stream).1.toNat =
        (headerWord stream 2).toNat + (headerWord stream 4).toNat +
          (headerWord stream 6).toNat) := by
  by_cases accepted : Accepted space stream
  · have enough := accepted.1
    have bound := accepted.2.2
    rw [makes_accepted accepted]
    simp only [Fits, accepted, forall_const, imageOf]
    generalize headerWord stream 2 = stext at *
    generalize headerWord stream 4 = sdata at *
    generalize headerWord stream 6 = sbss at *
    have length : (stream.drop 16).length = stream.length - 16 := List.length_drop
    have sum : (stext + sdata + sbss).toNat ≤ 0o60000 := by bv_omega
    have sum' : (stext + sdata + sbss).toNat =
        (stext.toNat + sdata.toNat + sbss.toNat) % 65536 := by bv_omega
    have zero : stext + sdata + sbss = 0 ↔ (stext + sdata + sbss).toNat = 0 := by bv_omega
    have none : (0 : WORD).toNat = 0 := rfl
    rw [zero]
    by_cases text : 0o100000 ≤ stext.toNat
    · simp only [if_pos text, if_true, List.length_nil]
      omega
    by_cases few : stream.length < 16 + stext.toNat
    · have few' : (stream.drop 16).length < stext.toNat := by omega
      simp only [if_neg text, if_pos few, if_pos few', Bool.false_eq_true, if_false]
      omega
    have few' : ¬ (stream.drop 16).length < stext.toNat := by omega
    by_cases data : 0o100000 ≤ sdata.toNat
    · simp only [if_neg text, if_neg few, if_neg few', if_pos data, if_true, List.length_take]
      omega
    by_cases fewer : stream.length < 16 + stext.toNat + sdata.toNat
    · have fewer' : (stream.drop 16).length < stext.toNat + sdata.toNat := by omega
      simp only [if_neg text, if_neg few, if_neg few', if_neg data, if_pos fewer, if_pos fewer',
        Bool.false_eq_true, if_false]
      omega
    have fewer' : ¬ (stream.drop 16).length < stext.toNat + sdata.toNat := by omega
    simp only [if_neg text, if_neg few, if_neg few', if_neg data, if_neg fewer, if_neg fewer',
      if_true, List.length_append, List.length_take, List.length_replicate]
    omega
  · rw [makes_refused accepted]
    simp [Fits, accepted]

/-- A size that is the sum is returned for an image that is stored as a whole. -/
theorem makes_whole (small : space.toNat ≤ 0o60000) (positive : 0 < (makes space stream).1.toNat)
    (sum : (makes space stream).1.toNat = (headerWord stream 2).toNat +
      (headerWord stream 4).toNat + (headerWord stream 6).toNat) :
    16 + (headerWord stream 2).toNat + (headerWord stream 4).toNat ≤ stream.length ∧
      (headerWord stream 2).toNat + (headerWord stream 4).toNat +
        (headerWord stream 6).toNat ≤ 0o60000 ∧
      (makes space stream).2 = (stream.drop 16).take ((headerWord stream 2).toNat +
        (headerWord stream 4).toNat) ++ List.replicate (headerWord stream 6).toNat 0 := by
  by_cases accepted : Accepted space stream
  · have enough := accepted.1
    have bound := accepted.2.2
    rw [makes_accepted accepted] at positive sum ⊢
    dsimp only at positive sum ⊢
    generalize headerWord stream 2 = stext at *
    generalize headerWord stream 4 = sdata at *
    generalize headerWord stream 6 = sbss at *
    have length : (stream.drop 16).length = stream.length - 16 := List.length_drop
    have total : (stext + sdata + sbss).toNat ≤ 0o60000 := by bv_omega
    by_cases fine : (imageOf stext sdata sbss (stream.drop 16)).1
    · rw [if_pos fine] at sum
      have text : ¬ 0o100000 ≤ stext.toNat := by omega
      have data : ¬ 0o100000 ≤ sdata.toNat := by omega
      rw [imageOf, if_neg text, if_neg data] at fine ⊢
      split_ifs at fine ⊢ with few fewer
      exact ⟨by omega, by omega, rfl⟩
    · rw [if_neg fine] at positive
      exact absurd positive (Nat.lt_irrefl 0)
  · rw [makes_refused accepted] at positive
    exact absurd positive (Nat.lt_irrefl 0)

/-- The size that is returned fits in an `int`. -/
theorem makes_size (small : space.toNat ≤ 0o60000) :
    (makes space stream).1.toInt = (makes space stream).1.toNat := by
  apply BitVec.toInt_eq_toNat_of_lt
  by_cases accepted : Accepted space stream
  · have bound := accepted.2.2
    rw [makes_accepted accepted]
    dsimp only
    split_ifs
    · bv_omega
    · decide
  · rw [makes_refused accepted]
    decide

end Sizes

/-! ## Runs -/

/-- The memory of the running task is as muxx_setup_taskmem has left it. -/
def Shell.SetUp (s : Shell δ) : Prop :=
  ∃ (task tcb : TCB maxTasks) (t t' : MMCBT), setupTaskmem task t = .ok (eok, tcb, t') ∧
    s.process.kernel.cur.taskType = tcb.taskType ∧ s.process.kernel.cur.taskTUCB = tcb.taskTUCB

/-- User mode can store errno in the TUCB. A driver task of medium size cannot: its IO
buffer is mapped there. -/
def TCB.HasTUCB {n : Nat} (tcb : TCB n) : Prop :=
  writable (tcb.mmuState.updr (pageOf (tcb.taskTUCB + 8))) ∧
    InPage (tcb.mmuState.updr (pageOf (tcb.taskTUCB + 8))) (blockOf (tcb.taskTUCB + 8))

/-- load runs, which stores errno first of all, and returns. -/
def Shell.Loads (drivers : Drivers δ) (s : Shell δ) (dev : Name) (entry : ADDRESS)
    (r : (Int × ADDRESS) × Shell δ) : Prop :=
  s.process.kernel.cur.HasTUCB ∧ s.load drivers dev entry = .ok r

/-- The code pages of the running task, below its TUCB. -/
def Shell.Private (s : Shell δ) (a : ADDRESS) : Prop :=
  taskBase ≤ a ∧ a < s.process.kernel.cur.taskTUCB

/-- The page of the stack. -/
def InStack (a : ADDRESS) : Prop := 0o140000 ≤ a.toNat ∧ a.toNat < 0o160000

/-- Whatever is in memory, load writes to private pages only, and it has loaded all
of the image whose size it returns. -/
def Shell.LoadsImage (drivers : Drivers δ) (bytes : Fin maxDrv → δ → List BYTE) (s : Shell δ)
    (dev : Name) (entry : ADDRESS) : Prop :=
  ∀ memory rc entry' s', Shell.Loads drivers { s with memory } dev entry ((rc, entry'), s') →
    (∀ a, s'.memory a ≠ memory a → s.Private a ∨ InStack a) ∧
    (0 < rc → ∃ d v, locatePdev s.process.kernel.drvcbt dev = some (d, v) ∧
      HoldsImage (bytes d s.device) rc s'.memory)

/-- The room from TASK_BASE to the TUCB. -/
def Shell.room (s : Shell δ) : Nat := s.process.kernel.cur.taskTUCB.toNat - taskBase.toNat

section Runs
variable {drivers : Drivers δ} {bytes : Fin maxDrv → δ → List BYTE} {d : Fin maxDrv}
variable {s s' : Shell δ} {dev : Name}

/-- The TUCB is at the end of a code page. -/
theorem setupTaskmem_tucb {n : Nat} {task tcb : TCB n} {t t' : MMCBT}
    (called : setupTaskmem task t = .ok (eok, tcb, t')) :
    taskBase.toNat ≤ tcb.taskTUCB.toNat ∧ tcb.taskTUCB.toNat < 0o140000 := by
  obtain ⟨-, task₁, task₂, t₂, task₃, t₃, task₄, t₄, task₅, task₆, t₆, task₇, -, -, -, -, tucb, stack,
    io, buffer⟩ := setupTaskmem_stages called
  have same : tcb.taskTUCB = task₅.taskTUCB := by
    have buffered : tcb.taskTUCB = task₇.taskTUCB := by
      unfold bufferPage at buffer
      split at buffer
      · obtain ⟨-, -, -, -, same, -⟩ := mapPage_ok buffer
        exact same
      · cases buffer
        rfl
    obtain ⟨-, -, -, -, stacked, -⟩ := mapPage_ok stack
    cases io
    exact buffered.trans stacked
  rw [same]
  cases tucb
  dsimp only
  split_ifs <;> decide

theorem space_small (s : Shell δ) : s.space.toNat ≤ 0o60000 := by
  have bound := space_le s
  bv_omega

/-- A change by load is in the header, which is on the stack, or in what it stores. -/
theorem place_changes {m : ADDRESS → BYTE} {ex a : ADDRESS} {header stored : List BYTE}
    (stack : ∀ j < 16, InStack (ex + BitVec.ofNat 16 j)) (length : header.length ≤ 16)
    (changed : place (place m ex header) taskBase stored a ≠ m a) :
    InStack a ∨ ∃ j < stored.length, a = taskBase + BitVec.ofNat 16 j := by
  by_contra neither
  obtain ⟨off, unstored⟩ := not_or.mp neither
  apply changed
  rw [place_other fun j within here => unstored ⟨j, within, here⟩, place_other]
  intro j within here
  exact off (here ▸ stack j (Nat.lt_of_lt_of_le within length))

/-- What has been stored for a whole image is the image. -/
theorem holdsImage_place {m : ADDRESS → BYTE} {stream : List BYTE} {n : Int}
    (size : n = (headerWord stream 2).toNat + (headerWord stream 4).toNat +
      (headerWord stream 6).toNat)
    (enough : 16 + (headerWord stream 2).toNat + (headerWord stream 4).toNat ≤ stream.length)
    (small : (headerWord stream 2).toNat + (headerWord stream 4).toNat +
      (headerWord stream 6).toNat ≤ 0o60000) :
    HoldsImage stream n (place m taskBase ((stream.drop 16).take ((headerWord stream 2).toNat +
      (headerWord stream 4).toNat) ++ List.replicate (headerWord stream 6).toNat 0)) := by
  generalize same : (stream.drop 16).take ((headerWord stream 2).toNat +
    (headerWord stream 4).toNat) ++ List.replicate (headerWord stream 6).toNat 0 = stored
  have text : ((stream.drop 16).take ((headerWord stream 2).toNat +
      (headerWord stream 4).toNat)).length =
        (headerWord stream 2).toNat + (headerWord stream 4).toNat := by
    rw [List.length_take, List.length_drop]
    omega
  have length : stored.length = (headerWord stream 2).toNat + (headerWord stream 4).toNat +
      (headerWord stream 6).toNat := by
    rw [← same, List.length_append, text, List.length_replicate]
  refine ⟨size, ?_, ?_⟩
  · intro j within
    have before : j < stored.length := by omega
    rw [place_byte (by omega) before, ← List.getElem?_eq_getElem before, ← same,
      List.getElem?_append_left (by omega), List.getElem?_take_of_lt within, List.getElem?_drop]
  · intro j within
    have before : (headerWord stream 2).toNat + (headerWord stream 4).toNat + j <
        stored.length := by omega
    rw [place_byte (by omega) before]
    subst same
    rw [List.getElem_append_right (by omega), List.getElem_replicate]

theorem Shell.SetUp.tucb (setUp : s.SetUp) :
    taskBase.toNat ≤ s.process.kernel.cur.taskTUCB.toNat ∧
      s.process.kernel.cur.taskTUCB.toNat < 0o140000 := by
  obtain ⟨task, tcb, t, t', called, -, same⟩ := setUp
  rw [same]
  exact setupTaskmem_tucb called

theorem Shell.SetUp.room_le (setUp : s.SetUp) : s.room ≤ 0o60000 := by
  have bounds := setUp.tucb
  have base : taskBase.toNat = 0o60000 := by decide
  unfold Shell.room
  omega

theorem Shell.SetUp.inside (setUp : s.SetUp) {j : Nat} (within : j < s.room) :
    s.Private (taskBase + BitVec.ofNat 16 j) := by
  have bounds := setUp.tucb
  unfold Shell.room at within
  constructor <;> bv_omega

theorem Shell.SetUp.outside (setUp : s.SetUp) :
    ¬ (s.Private (taskBase + BitVec.ofNat 16 s.room) ∨
      InStack (taskBase + BitVec.ofNat 16 s.room)) := by
  have bounds := setUp.tucb
  have place : taskBase + BitVec.ofNat 16 s.room = s.process.kernel.cur.taskTUCB := by
    unfold Shell.room
    bv_omega
  rw [place]
  rintro (inside | stacked)
  · exact absurd inside.2 (BitVec.lt_irrefl _)
  · exact absurd stacked.1 (by omega)

/-- What is stored for an image stays below the TUCB exactly when there is room for it:
the byte at the TUCB would be the same afterwards, whatever it was before. -/
theorem stored_below_iff (setUp : s.SetUp) {header stored : List BYTE}
    (stack : ∀ j < 16, InStack (s.ex + BitVec.ofNat 16 j)) (length : header.length ≤ 16) :
    (∀ (memory : ADDRESS → BYTE) a,
      place (place memory s.ex header) taskBase stored a ≠ memory a → s.Private a ∨ InStack a) ↔
        stored.length ≤ s.room := by
  constructor
  · intro sound
    by_contra beyond
    have kept (memory : ADDRESS → BYTE) : place (place memory s.ex header) taskBase stored
        (taskBase + BitVec.ofNat 16 s.room) = memory (taskBase + BitVec.ofNat 16 s.room) := by
      by_contra changed
      exact setUp.outside (sound memory _ changed)
    have zero := kept fun _ => 0
    have one := kept fun _ => 1
    rw [place_forgets (Nat.lt_of_not_le beyond), one] at zero
    exact absurd zero (by decide)
  · intro enough memory a changed
    rcases place_changes stack length changed with stacked | ⟨j, within, rfl⟩
    · exact .inr stacked
    · exact .inl (setUp.inside (Nat.lt_of_lt_of_le within enough))

/-- With a channel, the question is what load makes of the bytes. -/
theorem loads_channel_iff (streams : Streams drivers bytes) (setUp : s.SetUp)
    (stack : ∀ j < 16, InStack (s.ex + BitVec.ofNat 16 j)) (channel : s.Channels dev d)
    (present : s.process.kernel.cur.HasTUCB) (entry : ADDRESS) :
    s.LoadsImage drivers bytes dev entry ↔ Fits s.space s.room (bytes d s.device) := by
  have small := space_small s
  have size : (makes s.space (bytes d s.device)).1.toInt =
      (makes s.space (bytes d s.device)).1.toNat := makes_size small
  have runs (memory : ADDRESS → BYTE) : ∃ entry' s', Shell.load drivers dev entry
      { s with memory } = .ok (((makes s.space (bytes d s.device)).1.toInt, entry'), s') ∧
        s'.memory = place (place memory s.ex ((bytes d s.device).take 16)) taskBase
          (makes s.space (bytes d s.device)).2 := by
    have channel' : Shell.Channels { s with memory } dev d :=
      ⟨channel.slot, channel.offers, channel.unbuffered⟩
    exact load_makes streams channel' entry
  obtain ⟨v, located⟩ := channel.offers.located
  rw [fits_iff small setUp.room_le, 
    ← stored_below_iff setUp stack (List.length_take_le 16 (bytes d s.device))]
  constructor
  · intro sound
    constructor
    · intro memory a changed
      obtain ⟨entry', s', ran, stored⟩ := runs memory
      exact (sound memory _ _ _ ⟨present, ran⟩).1 a (stored ▸ changed)
    · intro positive
      obtain ⟨entry', s', ran, -⟩ := runs s.memory
      have returned : 0 < (makes s.space (bytes d s.device)).1.toInt := by omega
      obtain ⟨d', v', located', holds⟩ := (sound s.memory _ _ _ ⟨present, ran⟩).2 returned
      have same : d' = d := congrArg Prod.fst (Option.some_inj.mp (located'.symm.trans located))
      subst same
      have sum : (makes s.space (bytes d' s.device)).1.toInt = _ := holds.size
      omega
  · rintro ⟨inside, sum⟩ memory rc entry' s' ⟨-, loaded⟩
    obtain ⟨entry₁, s₁, ran, stored⟩ := runs memory
    cases ran.symm.trans loaded
    refine ⟨fun a changed => inside memory a (stored ▸ changed), ?_⟩
    intro positive
    have positive : 0 < (makes s.space (bytes d s.device)).1.toInt := positive
    have exact_sum := sum (by omega)
    obtain ⟨enough, total, same⟩ := makes_whole small (by omega) exact_sum
    refine ⟨d, v, located, ?_⟩
    have holds := holdsImage_place (m := place memory s.ex ((bytes d s.device).take 16))
      (n := (makes s.space (bytes d s.device)).1.toInt) (by omega) enough total
    rw [← same] at holds
    exact stored ▸ holds

/-- In every run load writes to private pages only, and returns no size but that of an
image it has loaded, exactly when what it gets from the device fits. -/
theorem loads_image_iff (streams : Streams drivers bytes) (s : Shell δ) (setUp : s.SetUp)
    (stack : ∀ j < 16, InStack (s.ex + BitVec.ofNat 16 j)) (dev : Name) (entry : ADDRESS) :
    s.LoadsImage drivers bytes dev entry ↔ (s.process.kernel.cur.HasTUCB →
      ∀ d, s.Channels dev d → Fits s.space s.room (bytes d s.device)) := by
  constructor
  · intro sound present d channel
    exact (loads_channel_iff streams setUp stack channel present entry).mp sound
  · rintro fits memory rc entry' s' ⟨present, loaded⟩
    by_cases channels : ∃ d, s.Channels dev d
    · obtain ⟨d, channel⟩ := channels
      exact (loads_channel_iff streams setUp stack channel present entry).mpr
        (fits present d channel) memory rc entry' s' ⟨present, loaded⟩
    · have refused (d : Fin maxDrv) : ¬ Shell.Channels { s with memory } dev d := fun channel =>
        channels ⟨d, channel.slot, channel.offers, channel.unbuffered⟩
      obtain ⟨negative, kept⟩ := load_refused refused loaded
      exact ⟨fun a changed => absurd (congrFun kept a) changed,
        fun positive => absurd positive (Int.not_lt.mpr negative)⟩

end Runs

/-! ## A tape -/

theorem tape_streams : Streams tape fun _ => id := by
  intro d iopkt device reading
  cases device with
  | nil => simp [tape, reading]
  | cons b rest => simp [tape, reading]

/-- A small task with its memory, and a tape as the device. -/
def taskShell (device : List BYTE) : Shell (List BYTE) :=
  { bootShell device with
    process := { kernel := startedDisk.setTcb startedDisk.curtcb { startedDisk.cur with
      taskType := usrTask
      taskTUCB := 0o77700
      mmuState := { startedDisk.cur.mmuState with updr := fun _ => pdrAccRw ||| pdrSiz8k } } } }

theorem taskShell_setUp (device : List BYTE) : (taskShell device).SetUp := by
  have returns : succeeds (setupTaskmem (smallTask : FreshTask 16).task memInit) (fun r =>
      decide (r.1 = eok) && decide (usrTask = r.2.1.taskType) &&
        decide ((0o77700 : ADDRESS) = r.2.1.taskTUCB)) = true := by
    decide +kernel
  obtain ⟨⟨rc, tcb, t⟩, called, facts⟩ := succeeds_iff.mp returns
  simp only [Bool.and_eq_true, decide_eq_true_eq] at facts
  obtain ⟨⟨rfl, type⟩, tucb⟩ := facts
  exact ⟨_, tcb, memInit, t, called, type, tucb⟩

theorem taskShell_stack (device : List BYTE) :
    ∀ j < 16, InStack ((taskShell device).ex + BitVec.ofNat 16 j) := by
  have ex : (taskShell device).ex = 0o157700 := rfl
  intro j within
  rw [ex]
  constructor <;> bv_omega

theorem loads_image_tape : (taskShell bootImage).LoadsImage tape (fun _ => id) diskName 0 := by
  have fits : Fits (taskShell bootImage).space (taskShell bootImage).room bootImage := by
    unfold Fits
    decide +kernel
  exact (loads_image_iff tape_streams _ (taskShell_setUp bootImage) (taskShell_stack bootImage)
    diskName 0).mpr fun _ _ _ => fits

/-- A header that announces 65537 bytes, which a word takes for one. -/
def hugeImage : List BYTE := [0o7, 1, 0, 0x80, 0, 0x80, 1, 0, 0, 0, 0, 0x60, 0, 0, 0, 0]

/-- load returns 1 and has stored nothing. -/
theorem huge_not_loaded : (taskShell hugeImage).SetUp ∧
    ¬ (taskShell hugeImage).LoadsImage tape (fun _ => id) diskName 0 := by
  refine ⟨taskShell_setUp hugeImage, ?_⟩
  intro sound
  have loads : succeeds ((taskShell hugeImage).load tape diskName 0)
      (fun r => decide (r.1.1 = 1)) = true := by decide +kernel
  obtain ⟨⟨⟨rc, entry⟩, s'⟩, loaded, one⟩ := succeeds_iff.mp loads
  obtain rfl : rc = 1 := of_decide_eq_true one
  have present : (taskShell hugeImage).process.kernel.cur.HasTUCB := by
    constructor <;> decide +kernel
  obtain ⟨d, v, -, holds⟩ := (sound _ _ _ _ ⟨present, loaded⟩).2 (by decide)
  have size : (1 : Int) = (headerWord hugeImage 2).toNat + (headerWord hugeImage 4).toNat +
      (headerWord hugeImage 6).toNat := holds.size
  exact absurd size (by decide +kernel)

end Muxx
