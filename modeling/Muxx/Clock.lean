import Mathlib.Algebra.BigOperators.Fin
import Muxx.Mapping
import Muxx.Protection

/-!
# The clock

muxx_clock_handler of muxx_clock_svc.c, between the services of the tasks:

* `Clock`: the kernel and the counters of the clock;
* `Accounted`: every tick is on the account of one task;
* `never_reused`: no entry of the task table is used again;
* `Counted`: the countdown and the quantum checks against the number of ticks;
* `clock_accounts`: runs from boot.
-/

namespace Muxx

open Fallible Run

/-- CLK_QUANTUM of CONFIG.s, which the clkquantum of the SCB keeps. -/
abbrev clkQuantum : WORD := 6

/-- The counters of the SCB. `checks` is how often the quantum check has been
called, and `ran` the entries of the task table that have been current. -/
structure Clock where
  kernel : Kernel
  utimeticks : LONGWORD := 0
  clkcountdown : WORD := clkQuantum
  checks : Nat := 0
  ran : List (Fin maxTasks) := [0]

/-- The clock is enabled when INIT is the current task. -/
def bootClock (entry : ADDRESS) : Clock where
  kernel := boot entry

def Clock.left (s : Clock) (k : Kernel) : Clock :=
  { s with kernel := k, ran := k.curtcb :: s.ran }

/-- There is a current task from the first tick on. The check of the timers, which
comes last if the handler comes so far, does nothing. -/
def clockHandler (s : Clock) (fp : FRAME) : Except Fault Clock := do
  let kernel := s.kernel.modify s.kernel.curtcb fun tcb =>
    { tcb with clockTicks := tcb.clockTicks + 1 }
  let s := { s with
    utimeticks := s.utimeticks + 1, kernel := kernel, clkcountdown := s.clkcountdown - 1 }
  if s.clkcountdown ≤ 0 then
    let s := { s with clkcountdown := clkQuantum, checks := s.checks + 1 }
    return s.left (← checkQuantums s.kernel fp)
  else
    return s

/-- Only the clock checks the quantum. -/
def TaskOp.isService : TaskOp → Bool
  | .quantum _ => false
  | _ => true

inductive ClockOp
  | tick (fp : FRAME)
  | service (op : TaskOp) (own : op.isService = true)

def ClockOp.isTick : ClockOp → Bool
  | .tick _ => true
  | .service .. => false

def Clock.step (s : Clock) : ClockOp → Except Fault Clock
  | .tick fp => clockHandler s fp
  | .service op _ => do
    let run ← (⟨s.kernel, []⟩ : TaskRun).step op
    return s.left run.kernel

/-- No creation takes an entry of a task that has run. -/
def ClockOp.TakesUnused (s : Clock) : ClockOp → Prop
  | .tick _ => True
  | .service op _ => op.creates = true → freeTcb s.kernel ≠ 0 → freeTcb s.kernel ∉ s.ran

instance ClockOp.TakesUnused.decidable (s : Clock) : (op : ClockOp) → Decidable (op.TakesUnused s)
  | .tick _ => inferInstanceAs (Decidable True)
  | .service .. => inferInstanceAs (Decidable (_ → _ → _ ∉ _))

/-! ## The accounts of the tasks -/

def TicksKept (k k' : Kernel) : Prop := ∀ i, (k'.tct i).clockTicks = (k.tct i).clockTicks

section Kept
variable {k k' : Kernel} {i : Fin maxTasks}

theorem ticksKept_modify (k : Kernel) (i : Fin maxTasks) {f : TCB maxTasks → TCB maxTasks}
    (same : (f (k.tct i)).clockTicks = (k.tct i).clockTicks) : TicksKept k (k.modify i f) := by
  intro j
  by_cases hj : j = i
  · subst hj
    exact (congrArg TCB.clockTicks (k.setTcb_self ..)).trans same
  · exact congrArg TCB.clockTicks (k.setTcb_ne _ hj)

theorem OnlyQueues.ticksKept (h : OnlyQueues k k') : TicksKept k k' := by
  intro i
  show (k'.tct i).unlinked.clockTicks = (k.tct i).unlinked.clockTicks
  rw [h.tasks]

theorem schedule_ticksKept (called : schedule k = .ok k') : TicksKept k k' := by
  obtain ⟨⟨task, tct, readyq⟩, got, ret⟩ := bind_ok.mp called
  have got : qGetTask k.tct k.readyq = .ok (task, tct, readyq) := got
  cases ret
  let taken : Kernel := { k.setpl7 with tct := tct, readyq := readyq, curtcb := task }
  have switched := ticksKept_modify taken task (f := fun tcb => { tcb with status := .run }) rfl
  intro i
  have unlinked : (tct i).unlinked.clockTicks = (k.tct i).unlinked.clockTicks := by
    rw [qGetTask_unlinked got]
  exact (switched i).trans unlinked

theorem ticksKept_throughout : Throughout TicksKept where
  refl _ _ := rfl
  trans h h' i := (h' i).trans (h i)
  queues := OnlyQueues.ticksKept
  setpl _ _ _ := rfl
  status k i _ := ticksKept_modify k i rfl
  copytrapfp k _ := ticksKept_modify k k.curtcb rfl
  copyMMUstate k := ticksKept_modify k k.curtcb rfl
  schedule := schedule_ticksKept

/-! ### A creation -/

theorem newPid_tct {type pid : WORD} (called : newPid k type = .ok (pid, k')) :
    k'.tct = k.tct := by
  unfold newPid at called
  split at called
  · obtain ⟨p, -, ret⟩ := bind_ok.mp called
    cases ret
    rfl
  · obtain ⟨p, -, ret⟩ := bind_ok.mp called
    cases ret
    rfl

/-- The account of a new task starts at 0. -/
theorem taskinit_ticks {type ppid entry privs : WORD} {i : Fin maxTasks}
    (called : taskinit k type ppid entry privs = .ok (.ok i, k')) :
    i = freeTcb k ∧ i ≠ 0 ∧ (k'.tct i).clockTicks = 0 ∧
      ∀ j, j ≠ i → k'.tct j = k.tct j := by
  unfold taskinit at called
  split at called
  · cases called
  obtain ⟨⟨pid, k₁⟩, assigned, rest⟩ := bind_ok.mp called
  have tct := newPid_tct assigned
  have search : freeTcb k₁ = freeTcb k := by
    unfold freeTcb
    rw [tct]
  dsimp only at rest
  split at rest
  · cases rest
  rw [search] at rest
  split at rest
  · cases rest
  rename_i found
  obtain ⟨task, rfl⟩ := Prod.mk.inj (Except.ok.inj rest)
  obtain rfl := Except.ok.inj task
  refine ⟨rfl, found, congrArg TCB.clockTicks (Kernel.setTcb_self ..), ?_⟩
  intro j other
  rw [Kernel.setTcb_ne _ _ other, tct]

theorem newTask_ticks {name : Name} {type entry privs : WORD} {new : Option (Fin maxTasks)}
    (called : newTask k name type entry privs = .ok (new, k')) :
    freeTcb k ≠ 0 ∧ (k'.tct (freeTcb k)).clockTicks = 0 ∧
      ∀ i, i ≠ freeTcb k → (k'.tct i).clockTicks = (k.tct i).clockTicks := by
  obtain ⟨⟨pididx, k₁⟩, initialised, rest⟩ := bind_ok.mp called
  cases pididx with
  | error _ => cases rest
  | ok i =>
    obtain ⟨⟨rc, tcb, mmcbt⟩, setUp, ret⟩ := bind_ok.mp rest
    obtain ⟨first, found, zero, others⟩ := taskinit_ticks initialised
    obtain ⟨-, rfl⟩ := Prod.mk.inj (Except.ok.inj ret)
    rw [← first]
    refine ⟨found, ?_, ?_⟩
    · refine (congrArg TCB.clockTicks (Kernel.setTcb_self ..)).trans ?_
      exact (setupTaskmem_sparesTask setUp).clockTicks.trans zero
    · intro j other
      exact congrArg TCB.clockTicks ((Kernel.setTcb_ne _ _ other).trans (others j other))

end Kept

/-- The uptime is the sum of the accounts, and tasks that never ran have none. -/
structure Accounted (s : Clock) : Prop where
  total : s.utimeticks = ∑ i, (s.kernel.tct i).clockTicks
  unused : ∀ i, i ∉ s.ran → (s.kernel.tct i).clockTicks = 0
  current : s.kernel.curtcb ∈ s.ran

section Accounts
variable {s s' : Clock} {k : Kernel}

/-- Nothing has been charged. -/
theorem Accounted.left (h : Accounted s) (kept : TicksKept s.kernel k) : Accounted (s.left k) := by
  refine ⟨?_, ?_, List.mem_cons_self⟩
  · refine h.total.trans (Finset.sum_congr rfl ?_)
    intro i _
    exact (kept i).symm
  · intro i unused
    exact (kept i).trans (h.unused i fun mem => unused (List.mem_cons_of_mem _ mem))

/-- The tick is charged to the current task. -/
theorem Accounted.charge (h : Accounted s) (countdown : WORD) (checks : Nat) :
    Accounted { s with
      utimeticks := s.utimeticks + 1, clkcountdown := countdown, checks := checks
      kernel := s.kernel.modify s.kernel.curtcb fun tcb =>
        { tcb with clockTicks := tcb.clockTicks + 1 } } := by
  have account (i : Fin maxTasks) : ((s.kernel.modify s.kernel.curtcb fun tcb =>
      { tcb with clockTicks := tcb.clockTicks + 1 }).tct i).clockTicks =
        (s.kernel.tct i).clockTicks + if i = s.kernel.curtcb then 1 else 0 := by
    by_cases hi : i = s.kernel.curtcb
    · subst hi
      rw [if_pos rfl]
      exact congrArg TCB.clockTicks (Kernel.setTcb_self ..)
    · rw [if_neg hi, add_zero]
      exact congrArg TCB.clockTicks (Kernel.setTcb_ne _ _ hi)
  refine ⟨?_, ?_, h.current⟩
  · simp only [account, Finset.sum_add_distrib, Finset.sum_ite_eq', Finset.mem_univ, if_true]
    rw [h.total]
  · intro i unused
    have other : i ≠ s.kernel.curtcb := by
      rintro rfl
      exact unused h.current
    refine (account i).trans ?_
    rw [if_neg other, h.unused i unused]
    rfl

theorem Accounted.step (h : Accounted s) {op : ClockOp} (unused : op.TakesUnused s)
    (called : s.step op = .ok s') : Accounted s' := by
  cases op with
  | tick fp =>
    change clockHandler s fp = .ok s' at called
    unfold clockHandler at called
    dsimp only at called
    split at called
    · obtain ⟨k, checked, ret⟩ := bind_ok.mp called
      cases ret
      exact (h.charge _ _).left (ticksKept_throughout.checkQuantums checked)
    · cases called
      exact h.charge _ _
  | service op own =>
    obtain ⟨run, stepped, ret⟩ := bind_ok.mp called
    cases ret
    rcases TaskRun.step_cases stepped with
      ⟨creates, name, type, entry, privs, new, k₁, made, outcome⟩ | ⟨kept, -⟩
    · obtain ⟨found, zero, others⟩ := newTask_ticks made
      have idle := h.unused _ (unused creates found)
      have created : TicksKept s.kernel k₁ := by
        intro i
        by_cases hi : i = freeTcb s.kernel
        · rw [hi]
          exact zero.trans idle.symm
        · exact others i hi
      apply h.left
      rcases outcome with same | ⟨i, -, added⟩
      · exact same ▸ created
      · exact ticksKept_throughout.trans created (addReady_only added).ticksKept
    · exact h.left (kept _ ticksKept_throughout)

end Accounts

theorem boot_accounted (entry : ADDRESS) : Accounted (bootClock entry) := by
  have idle (i : Fin maxTasks) : ((boot entry).tct i).clockTicks = 0 := by
    by_cases h : i = 0
    · rw [h, boot_self]
      rfl
    · rw [boot_other entry h]
  refine ⟨?_, fun i _ => idle i, List.mem_cons_self⟩
  exact (Finset.sum_eq_zero fun i _ => idle i).symm

/-! ### Entries are not used again -/

/-- The argument of a suspension is a task. -/
def ClockOp.OnTask (s : Clock) : ClockOp → Prop
  | .tick _ => True
  | .service op _ => op.OnTask ⟨s.kernel, []⟩

/-- Who has run is a task. -/
structure Employed (s : Clock) : Prop where
  guarded : ∃ rs, Guarded s.kernel rs
  ran : ∀ i ∈ s.ran, (s.kernel.tct i).pid ≠ 0

section Employed
variable {s s' : Clock} {k k' : Kernel} {rs : List Request}

/-- Tasks stay tasks. -/
theorem Guarded.live {t t' : TaskRun} (h : Guarded t.kernel rs) {op : TaskOp}
    (called : t.step op = .ok t') {i : Fin maxTasks} (live : (t.kernel.tct i).pid ≠ 0) :
    (t'.kernel.tct i).pid ≠ 0 := by
  rcases TaskRun.step_cases called with
    ⟨-, name, type, entry, privs, new, k₁, created, outcome⟩ | ⟨kept, -⟩
  · obtain ⟨j, tcb, made, -⟩ := newTask_ok h.pids h.memory created
    have other : i ≠ j := by
      rintro rfl
      exact live made.entry.2
    rw [← made.other other] at live
    rcases outcome with rfl | ⟨l, -, added⟩
    · exact live
    · rw [(addReady_only added).moved.pid]
      exact live
  · rw [(kept _ moved_throughout).pid]
    exact live

theorem Employed.left (h : Employed s) (guarded : Guarded k rs)
    (live : ∀ i, (s.kernel.tct i).pid ≠ 0 → (k.tct i).pid ≠ 0) : Employed (s.left k) := by
  refine ⟨⟨rs, guarded⟩, ?_⟩
  intro i mem
  rcases List.mem_cons.mp mem with rfl | mem
  · exact guarded.within.cur
  · exact live i (h.ran i mem)

theorem Employed.step (h : Employed s) {op : ClockOp} (onTask : op.OnTask s)
    (called : s.step op = .ok s') : Employed s' := by
  obtain ⟨⟨rs, guarded⟩, ran⟩ := h
  cases op with
  | tick fp =>
    have charge : Moved s.kernel (s.kernel.modify s.kernel.curtcb fun tcb =>
        { tcb with clockTicks := tcb.clockTicks + 1 }) := moved_modify _ _ rfl rfl fun _ => rfl
    have charged := guarded.move charge (guarded.within.modify rfl rfl)
    change clockHandler s fp = .ok s' at called
    unfold clockHandler at called
    dsimp only at called
    split at called
    · obtain ⟨k, checked, ret⟩ := bind_ok.mp called
      cases ret
      have moved := checkQuantums_moved checked
      refine @Employed.left _ _ rs ⟨⟨rs, charged⟩, ?_⟩
        (charged.move moved (charged.within.checkQuantums checked)) ?_
      · intro i mem
        exact (charge.pid i).symm ▸ ran i mem
      · intro i live
        exact (moved.pid i).symm ▸ live
    · cases called
      exact ⟨⟨rs, charged⟩, fun i mem => (charge.pid i).symm ▸ ran i mem⟩
  | service op own =>
    obtain ⟨t, stepped, ret⟩ := bind_ok.mp called
    cases ret
    obtain ⟨rs', guarded'⟩ := guarded.step (.task op) onTask trivial stepped
    exact Employed.left ⟨⟨rs, guarded⟩, ran⟩ guarded' fun i live => guarded.live stepped live

end Employed

/-- As long as only tasks are suspended, a creation finds an entry that was never used. -/
theorem never_reused (entry : ADDRESS) (ops : List ClockOp)
    (onTask : Meets Clock.step (fun s op => op.OnTask s) (bootClock entry) ops) :
    Meets Clock.step (fun s op => op.TakesUnused s) (bootClock entry) ops := by
  refine Meets.of_invariant Employed ?_ ?_ ?_ onTask
  · intro s op s' employed onTask stepped
    exact employed.step onTask stepped
  · intro s op employed onTask
    cases op with
    | tick fp => trivial
    | service op own =>
      intro _ found used
      exact employed.ran _ used (freeTcb_free found)
  · refine ⟨⟨[], boot_guarded entry⟩, ?_⟩
    intro i mem
    obtain rfl := List.mem_singleton.mp mem
    exact (boot_guarded entry).within.cur

/-! ## The countdown -/

/-- `n` ticks are whole quanta and a part of the current one. -/
structure Counted (n : Nat) (s : Clock) : Prop where
  low : 1 ≤ s.clkcountdown.toNat
  high : s.clkcountdown.toNat ≤ clkQuantum.toNat
  ticks : n + s.clkcountdown.toNat = clkQuantum.toNat * (s.checks + 1)

section Countdown
variable {s s' : Clock} {n : Nat}

theorem Counted.checks (h : Counted n s) : s.checks = n / clkQuantum.toNat := by
  obtain ⟨low, high, ticks⟩ := h
  have quantum : clkQuantum.toNat = 6 := rfl
  rw [quantum] at high ticks ⊢
  omega

theorem Counted.step (h : Counted n s) {op : ClockOp} (called : s.step op = .ok s') :
    Counted (n + if op.isTick then 1 else 0) s' := by
  obtain ⟨low, high, ticks⟩ := h
  cases op with
  | tick fp =>
    change clockHandler s fp = .ok s' at called
    unfold clockHandler at called
    dsimp only at called
    have quantum : clkQuantum.toNat = 6 := rfl
    have down : (s.clkcountdown - 1).toNat = s.clkcountdown.toNat - 1 :=
      BitVec.toNat_sub_of_le (BitVec.le_def.mpr low)
    have expired : s.clkcountdown - 1 ≤ 0 ↔ s.clkcountdown.toNat = 1 := by
      rw [BitVec.le_def, down]
      simp
      omega
    split at called
    next last =>
      have one := expired.mp last
      obtain ⟨k, -, ret⟩ := bind_ok.mp called
      cases ret
      refine ⟨(by decide : 1 ≤ clkQuantum.toNat), Nat.le_refl _, ?_⟩
      simp only [ClockOp.isTick, if_true, Clock.left, quantum] at ticks ⊢
      omega
    next more =>
      have above := mt expired.mpr more
      cases called
      refine ⟨?_, ?_, ?_⟩
      · rw [down]
        omega
      · rw [down]
        omega
      · simp only [ClockOp.isTick, if_true, down]
        omega
  | service op own =>
    obtain ⟨run, -, ret⟩ := bind_ok.mp called
    cases ret
    exact ⟨low, high, ticks⟩

end Countdown

/-- Whatever the order of ticks and services, and whichever tasks they dispatch:
the uptime is the sum of the accounts, modulo 2^32, the countdown stays within
the quantum, and the quantum is checked once in each. -/
theorem clock_accounts (entry : ADDRESS) (ops : List ClockOp) (s : Clock)
    (unused : Meets Clock.step (fun s op => op.TakesUnused s) (bootClock entry) ops)
    (ran : exec Clock.step (bootClock entry) ops = .ok s) :
    s.utimeticks = ∑ i, (s.kernel.tct i).clockTicks ∧
      (1 ≤ s.clkcountdown ∧ s.clkcountdown ≤ clkQuantum) ∧
      s.checks = ops.countP ClockOp.isTick / clkQuantum.toNat := by
  let Inv (done : List ClockOp) (s : Clock) : Prop :=
    Accounted s ∧ Counted (done.countP ClockOp.isTick) s
  have start : Inv [] (bootClock entry) :=
    ⟨boot_accounted entry, (by decide : 1 ≤ clkQuantum.toNat), Nat.le_refl _, rfl⟩
  obtain ⟨accounted, counted⟩ : Inv ([] ++ ops) s := by
    refine exec_history Inv ?_ start unused ran
    rintro done s op s' ⟨accounted, counted⟩ unused stepped
    refine ⟨accounted.step unused stepped, ?_⟩
    rw [List.countP_append, List.countP_singleton]
    exact counted.step stepped
  exact ⟨accounted.total, ⟨counted.low, counted.high⟩, counted.checks⟩

/-- INIT creates a task, which the sixth tick dispatches. -/
theorem clock_accounts_run :
    let ops : List ClockOp := .service (.creprc (fun _ => 0x20) usrTask 0 0) rfl ::
      (List.replicate 7 (.tick {}) ++ [.service (.yield {}) rfl, .tick {}])
    ∃ s, exec Clock.step (bootClock 0) ops = .ok s ∧ s.kernel.curtcb = 0 ∧
      s.utimeticks = ∑ i, (s.kernel.tct i).clockTicks ∧
      (1 ≤ s.clkcountdown ∧ s.clkcountdown ≤ clkQuantum) ∧
      s.checks = ops.countP ClockOp.isTick / clkQuantum.toNat := by
  intro ops
  have result : succeeds (exec Clock.step (bootClock 0) ops)
      (fun s => s.kernel.curtcb = 0) = true := by decide +kernel
  obtain ⟨s, ran, current⟩ := succeeds_iff.mp result
  exact ⟨s, ran, of_decide_eq_true current, clock_accounts 0 ops s (by decide +kernel) ran⟩

end Muxx
