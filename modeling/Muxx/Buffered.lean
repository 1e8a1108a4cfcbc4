import Muxx.Exclusive

/-!
# Buffered channels

muxx_svc_open and muxx_svc_close by any tasks, on devices whose channels are to be
buffered:

* `svcOpen_buffaddr`, `svcClose_buffaddr`: no call gives an entry a buffer;
* `backed_iff`: so the channels of a run all have the buffers they need exactly when
  no open of the run gets a channel on such a device.
-/

namespace Muxx

open Run Prog Fallible

/-- Every channel on a buffered driver has a buffer. -/
def Backed (k : Kernel) : Prop :=
  ∀ io d, k.Channel io d → (k.drvcbt d).desc.buffered = true → (k.iott io).buffaddr ≠ none

namespace ChannelCall

/-- A call leaves channels with buffers behind, and an open that would need one fails:
there are none to be had. -/
structure Backs (s : ChannelRun) (c : ChannelCall) (s' : ChannelRun) : Prop where
  backed : Backed s'.kernel
  fails : ∀ device d v io k', c.op = .openDev device →
    locatePdev s.kernel.drvcbt device = some (d, v) → (s.kernel.drvcbt d).desc.buffered = true →
      run (svcOpen device) (s.kernel.withCur c.task) ≠ .ok (some io, k')

/-- Not an open that gets a channel on a buffered driver. -/
def Unbuffered (s : ChannelRun) (c : ChannelCall) : Prop :=
  ∀ device d, c.op = .openDev device → (s.kernel.withCur c.task).Offers device d →
    (s.kernel.drvcbt d).desc.buffered = false

end ChannelCall

section Calls
variable {k k' : Kernel} {io : Fin iotSentries} {d : Fin maxDrv} {rc : Int} {device : Name}
variable {slot : Option (Fin iotSentries)}

theorem Claims.buffaddr (h : Claims k io d rc k') (j : Fin iotSentries) :
    (k'.iott j).buffaddr = (k.iott j).buffaddr := by
  by_cases same : j = io
  · subst same
    cases h with
    | had => rfl
    | allocated => rw [Kernel.modifyIote_self, afterAlloc_iott]
    | refused _ _ _ _ _ _ _ iott => rw [iott, Kernel.modifyIote_self]
  · rw [h.other same]

theorem Opens.buffaddr (h : Opens k io d rc k') (j : Fin iotSentries) :
    (k'.iott j).buffaddr = (k.iott j).buffaddr := by
  by_cases same : j = io
  · subst same
    have cleared : ((k.modifyIote j IOTE.clear).iott j).buffaddr = (k.iott j).buffaddr := by
      rw [Kernel.modifyIote_self]
      rfl
    cases h with
    | offline => rfl
    | refused _ _ claims => exact (claims.buffaddr j).trans cleared
    | opened _ claims =>
      rw [Kernel.modifyIote_self]
      exact (claims.buffaddr j).trans cleared
  · rw [h.other same]

theorem OpenOutcome.buffaddr (h : OpenOutcome k device rc slot k') (j : Fin iotSentries) :
    (k'.iott j).buffaddr = (k.iott j).buffaddr := by
  cases h with
  | full => rfl
  | missing => rfl
  | @found io d v _ _ _ _ opens =>
    rw [opens.buffaddr, Kernel.fillIote]
    by_cases same : j = io
    · subst same
      rw [Kernel.modifyIote_self]
    · rw [Kernel.modifyIote_ne _ _ _ same]

theorem svcOpen_buffaddr (chan : k.mutexes 6 = 0) (ran : run (svcOpen device) k = .ok (slot, k'))
    (j : Fin iotSentries) : (k'.iott j).buffaddr = (k.iott j).buffaddr := by
  by_cases large : 0o400 ≤ k.cur.pid.toNat
  · cases (run_svcOpen_large chan large device).symm.trans ran
  obtain ⟨rc, slot₁, k₁, outcome, ran'⟩ := run_svcOpen chan (Nat.lt_of_not_le large) device
  have kept : (k₁.iott j).buffaddr = (k.iott j).buffaddr := outcome.buffaddr j
  by_cases ok : rc = eok
  · rw [if_pos ok] at ran'
    cases ran'.symm.trans ran
    exact kept
  · rw [if_neg ok] at ran'
    cases ran'.symm.trans ran
    exact kept

theorem svcClose_buffaddr (chan : k.mutexes 6 = 0) (ran : run (svcClose io) k = .ok (rc, k'))
    (j : Fin iotSentries) : (k'.iott j).buffaddr = (k.iott j).buffaddr := by
  obtain ⟨-, -, -, outcome⟩ := run_svcClose chan ran
  split_ifs at outcome
  · rw [outcome.2]
    by_cases same : j = io
    · subst same
      rw [Kernel.modifyIote_self]
      rfl
    · rw [Kernel.modifyIote_ne _ _ _ same]
  · rw [outcome.2]

end Calls

/-! ## Runs -/

/-- Between two calls: no entry has a buffer, and no channel is on a driver that would
need one. -/
structure Bufferless (k : Kernel) : Prop where
  chan : k.mutexes 6 = 0
  vacant : ∀ io, (k.iott io).driver = none → (k.iott io).opened = false
  empty : ∀ io, (k.iott io).buffaddr = none
  unbuffered : ∀ io d, k.Channel io d → (k.drvcbt d).desc.buffered = false

section Runs
variable {k k' : Kernel} {t : Fin maxTasks} {s s' : ChannelRun} {c : ChannelCall}
variable {device : Name} {io : Fin iotSentries} {slot : Option (Fin iotSentries)} {rc : Int}

theorem Bufferless.backed (h : Bufferless k) : Backed k := by
  intro io d channel buffered
  exact absurd ((h.unbuffered io d channel).symm.trans buffered) Bool.false_ne_true

/-- Who gets a channel has been offered one on the driver of that device. -/
theorem svcOpen_offers {d : Fin maxDrv} {v : Located}
    (located : locatePdev k.drvcbt device = some (d, v))
    (ran : run (svcOpen device) k = .ok (some io, k')) : k.Offers device d := by
  obtain ⟨d', offers, -⟩ := svcOpen_leaves ran
  obtain ⟨v', located'⟩ := offers.located
  obtain rfl : d' = d := congrArg Prod.fst (Option.some_inj.mp (located'.symm.trans located))
  exact offers

theorem Bufferless.opens (h : Bufferless k)
    (plain : ∀ d, (k.withCur t).Offers device d → (k.drvcbt d).desc.buffered = false)
    (ran : run (svcOpen device) (k.withCur t) = .ok (slot, k')) : Bufferless k' := by
  have after : AfterOpen (k.withCur t) k' slot := run_svcOpen_inv h.chan h.vacant ran
  obtain ⟨acquires, -⟩ := svcOpen_acquires (k := k.withCur t) h.chan ran
  have desc (d : Fin maxDrv) : (k'.drvcbt d).desc = (k.drvcbt d).desc := by
    rw [acquires.driver d]
    rfl
  refine ⟨after.chan, ?_, ?_, ?_⟩
  · intro io free
    by_cases here : slot = some io
    · exact absurd free (after.opened io here).2.2
    · by_cases before : (k.iott io).driver = none
      · exact after.closed io here before (h.vacant io before)
      · exact absurd ((congrArg IOTE.driver (after.kept io before)).symm.trans free) before
  · intro io
    exact (svcOpen_buffaddr (k := k.withCur t) h.chan ran io).trans (h.empty io)
  · intro io d channel
    rw [desc]
    by_cases here : slot = some io
    · subst here
      obtain ⟨d', offers, left⟩ := svcOpen_leaves ran
      obtain rfl : d' = d := Option.some_inj.mp (left.driver.symm.trans channel.2)
      exact plain d' offers
    · have before : (k.iott io).driver ≠ none := by
        intro free
        have closed := after.closed io here free (h.vacant io free)
        exact absurd (closed.symm.trans channel.1) (by decide)
      have same : k'.iott io = k.iott io := after.kept io before
      apply h.unbuffered io d
      unfold Kernel.Channel at channel ⊢
      rw [← same]
      exact channel

theorem Bufferless.closes (h : Bufferless k)
    (ran : run (svcClose io) (k.withCur t) = .ok (rc, k')) : Bufferless k' := by
  obtain ⟨-, -, chan, outcome⟩ := run_svcClose (k := k.withCur t) h.chan ran
  have iott (j : Fin iotSentries) : k'.iott j = k.iott j ∨ k'.iott j = (k.iott j).close := by
    split_ifs at outcome
    · rw [outcome.2]
      by_cases here : j = io
      · subst here
        exact .inr (Kernel.modifyIote_self ..)
      · exact .inl (Kernel.modifyIote_ne _ _ _ here)
    · exact .inl (congrFun outcome.2 j)
  have desc (d : Fin maxDrv) : (k'.drvcbt d).desc = (k.drvcbt d).desc := by
    rcases svcClose_releases (k := k.withCur t) h.chan ran with same | ⟨-, -, _, e, -, -, same⟩
    · rw [same]
      rfl
    · rw [same]
      by_cases here : d = e
      · subst here
        rw [Function.update_self]
        exact (DeviceOp.entry_fixed ..).2.2
      · rw [Function.update_of_ne here]
        rfl
  refine ⟨chan, ?_, ?_, ?_⟩
  · intro j free
    rcases iott j with same | closed
    · rw [same] at free ⊢
      exact h.vacant j free
    · rw [closed]
      rfl
  · intro j
    exact (svcClose_buffaddr (k := k.withCur t) h.chan ran j).trans (h.empty j)
  · intro j d channel
    rw [desc]
    apply h.unbuffered j d
    unfold Kernel.Channel at channel ⊢
    rcases iott j with same | closed
    · rw [← same]
      exact channel
    · rw [closed] at channel
      exact absurd channel.1 Bool.false_ne_true

theorem Bufferless.step (h : Bufferless s.kernel) (plain : c.Unbuffered s)
    (stepped : c.step s = .ok s') : c.Backs s s' ∧ Bufferless s'.kernel := by
  have after : Bufferless s'.kernel := by
    obtain ⟨t, op⟩ := c
    cases op with
    | openDev device =>
      obtain ⟨⟨slot, k'⟩, ran, rest⟩ := bind_ok.mp stepped
      have after := h.opens (fun d => plain device d rfl) ran
      cases slot <;>
        · cases rest
          exact after
    | close io =>
      obtain ⟨⟨rc, k'⟩, ran, rest⟩ := bind_ok.mp stepped
      cases rest
      exact h.closes ran
  refine ⟨⟨after.backed, ?_⟩, after⟩
  intro device d v io k' opens located buffered ran
  have unbuffered := plain device d opens (svcOpen_offers located ran)
  exact absurd (unbuffered.symm.trans buffered) Bool.false_ne_true

/-- An open of a buffered device gets its channel all the same. -/
theorem Bufferless.breaks (h : Bufferless s.kernel) (buffered : ¬ c.Unbuffered s) :
    ∃ s', c.step s = .ok s' ∧ ¬ Backed s'.kernel := by
  obtain ⟨t, op⟩ := c
  simp only [ChannelCall.Unbuffered, not_forall, Bool.not_eq_false] at buffered
  obtain ⟨device, d, rfl, offers, buffered⟩ := buffered
  obtain ⟨io, k', ran⟩ := offers.opens
  obtain ⟨d', offers', left⟩ := svcOpen_leaves ran
  obtain rfl : d' = d := by
    obtain ⟨v, located⟩ := offers.located
    obtain ⟨v', located'⟩ := offers'.located
    exact congrArg Prod.fst (Option.some_inj.mp (located'.symm.trans located))
  refine ⟨{ kernel := k', opener := Function.update s.opener io t }, bind_ok.mpr ⟨_, ran, rfl⟩, ?_⟩
  intro backed
  have buffered : (k'.drvcbt d').desc.buffered = true := by
    rw [left.desc]
    exact buffered
  apply backed io d' ⟨left.opened, left.driver⟩ buffered
  exact (svcOpen_buffaddr (k := s.kernel.withCur t) h.chan ran io).trans (h.empty io)

/-- From the tables of muxx_iottinit on, the calls of a run all leave the channels with
the buffers they need exactly when none of them opens a buffered device. -/
theorem backed_iff {k : Kernel} (chan : k.mutexes 6 = 0) (iott : k.iott = iottInit)
    (calls : List ChannelCall) :
    Steps ChannelCall.step (fun s c s' => c.Backs s s') { kernel := k } calls ↔
      Meets ChannelCall.step (fun s c => c.Unbuffered s) { kernel := k } calls := by
  have start : Bufferless k := by
    refine ⟨chan, ?_, ?_, ?_⟩
    · intro io _
      rw [iott]
      rfl
    · intro io
      rw [iott]
      rfl
    · intro io d channel
      have closed : (k.iott io).opened = false := by
        rw [iott]
        rfl
      exact absurd (closed.symm.trans channel.1) Bool.false_ne_true
  have within : Meets ChannelCall.step (fun _ _ => True) { kernel := k } calls :=
    meets_of_forall fun _ _ => trivial
  apply steps_iff_meets (fun s => Bufferless s.kernel) _ _ start calls within
  · exact fun s c s' h _ plain stepped => h.step plain stepped
  · intro s c h _ buffered
    obtain ⟨s', stepped, unbacked⟩ := h.breaks buffered
    exact ⟨s', stepped, fun backs => unbacked backs.backed⟩

end Runs

/-- A started disk whose channels are to be buffered. -/
def bufferedDisk : Kernel :=
  startedDisk.modifyDriver 0 fun b => { b with desc := { b.desc with buffered := true } }

theorem backed_disk : Steps ChannelCall.step (fun s c s' => c.Backs s s') { kernel := startedDisk }
    [⟨0, .openDev diskName⟩, ⟨1, .openDev diskName⟩, ⟨0, .close 0⟩] := by
  have all : Meets ChannelCall.step (fun s _ => ∀ d, (s.kernel.drvcbt d).desc.buffered = false)
      { kernel := startedDisk } [⟨0, .openDev diskName⟩, ⟨1, .openDev diskName⟩, ⟨0, .close 0⟩] := by
    decide +kernel
  refine (backed_iff rfl rfl _).mpr ?_
  exact Meets.of_invariant (fun _ => True) (fun _ _ _ _ _ _ => trivial)
    (fun _ _ _ unbuffered _ d _ _ => unbuffered d) trivial all

/-- The first open of a run gets a channel on the disk, and no buffer. -/
theorem channel_unbacked : bufferedDisk.iott = iottInit ∧
    ∃ s, exec ChannelCall.step { kernel := bufferedDisk } [⟨0, .openDev diskName⟩] = .ok s ∧
      ¬ Backed s.kernel := by
  have ran : succeeds (exec ChannelCall.step { kernel := bufferedDisk } [⟨0, .openDev diskName⟩])
      (fun s => decide (s.kernel.Channel 0 0 ∧ (s.kernel.drvcbt 0).desc.buffered = true ∧
        (s.kernel.iott 0).buffaddr = none)) = true := by
    decide +kernel
  obtain ⟨s, ran, facts⟩ := succeeds_iff.mp ran
  obtain ⟨channel, buffered, missing⟩ := of_decide_eq_true facts
  exact ⟨rfl, s, ran, fun backed => backed 0 0 channel buffered missing⟩

end Muxx
