import Muxx.Placement

/-!
# Fairness

What the tasks may expect of any run of creation, yield, suspend and quantum
expiry whose suspensions are in order:

* `turnsGiven`: how often the running task gives up its turn;
* `no_starvation`: a task at place `p` of the ready queue runs within `p + 1`
  turns, or it was suspended before;
* `no_wakeup`: nothing takes a task out of the suspended queue.
-/

namespace Muxx

open Chain Fallible RoundRobin Run

/-- How many steps of a run give up the turn. -/
def turnsGiven : TaskRun → List TaskOp → Nat
  | _, [] => 0
  | s, op :: ops => (op.dispatches s).toNat +
    match s.step op with
    | .ok s' => turnsGiven s' ops
    | .error _ => 0

/-- The task runs at some point of the run. -/
def ComesToRun (s : TaskRun) (ops : List TaskOp) (i : Fin maxTasks) : Prop :=
  ∃ done rest t, ops = done ++ rest ∧ exec TaskRun.step s done = .ok t ∧ t.kernel.curtcb = i

/-- What is asked of the steps. -/
abbrev InOrder (s : TaskRun) (op : TaskOp) : Prop := op.OnTask s ∧ op.Orderly s

section Waiting
variable {s s' : TaskRun} {a : Sched (Fin maxTasks)} {ops : List TaskOp} {op : TaskOp}
  {i : Fin maxTasks}

theorem ComesToRun.first (here : s.kernel.curtcb = i) : ComesToRun s ops i :=
  ⟨[], ops, s, rfl, rfl, here⟩

theorem ComesToRun.later (stepped : s.step op = .ok s') (later : ComesToRun s' ops i) :
    ComesToRun s (op :: ops) i := by
  obtain ⟨done, rest, t, split, ran, here⟩ := later
  exact ⟨op :: done, rest, t, congrArg (op :: ·) split, bind_ok.mpr ⟨s', stepped, ran⟩, here⟩

theorem Sound.asleep (sound : Sound s a) (mem : i ∈ a.susp) (meets : Meets TaskRun.step InOrder s ops)
    (ran : exec TaskRun.step s ops = .ok s') : ∃ a', Sound s' a' ∧ i ∈ a'.susp := by
  induction ops generalizing s a with
  | nil =>
    cases ran
    exact ⟨a, sound, mem⟩
  | cons op ops ih =>
    obtain ⟨t, stepped, rest⟩ := bind_ok.mp ran
    obtain ⟨b, sound', turned⟩ := sound.turn op meets.1.1 meets.1.2 stepped
    exact ih sound' (turned.susp mem) (meets.2 t stepped) rest

theorem Sound.suspended (sound : Sound s a) (created : (s.kernel.tct i).pid ∈ s.created)
    (susp : (s.kernel.tct i).status = .susp) : i ∈ a.susp := by
  have live := (sound.old _ created).1
  rcases Sched.mem_tasks.mp (sound.known i live created) with rfl | ready | asleep
  · rw [sound.follows.running] at susp
    cases susp
  · rcases sound.follows.queued.waiting i ready with init | ready
    · rw [init] at susp; cases susp
    · rw [ready] at susp; cases susp
  · exact asleep

/-- By induction on the run: with every turn the task comes one place nearer. -/
theorem Sound.waits (sound : Sound s a) (mem : i ∈ a.ready) (long : a.ready.idxOf i < turnsGiven s ops)
    (meets : Meets TaskRun.step InOrder s ops) (ran : exec TaskRun.step s ops = .ok s') :
    ComesToRun s ops i ∨ (s'.kernel.tct i).status = .susp := by
  induction ops generalizing s a with
  | nil => exact absurd long (Nat.not_lt_zero _)
  | cons op ops ih =>
    obtain ⟨t, stepped, rest⟩ := bind_ok.mp ran
    obtain ⟨b, sound', turned⟩ := sound.turn op meets.1.1 meets.1.2 stepped
    have meets' := meets.2 t stepped
    rcases turned.waits mem with susp | cur | ⟨mem', nearer⟩
    · obtain ⟨c, last, asleep⟩ := sound'.asleep susp meets' rest
      exact .inr (last.follows.queued.suspended i asleep)
    · exact .inl (.later stepped (.first (sound'.follows.cur.trans cur.symm)))
    · have count : turnsGiven s (op :: ops) = (op.dispatches s).toNat + turnsGiven t ops := by
        rw [turnsGiven, stepped]
      have long' : b.ready.idxOf i < turnsGiven t ops := by omega
      exact (ih sound' mem' long' meets' rest).imp_left (.later stepped)

end Waiting

theorem reachable_sound {entry : ADDRESS} {s : TaskRun}
    (h : Reachable TaskRun.step InOrder (bootRun entry) s) : ∃ a, Sound s a := by
  refine Reachable.invariant (fun s => ∃ a, Sound s a) ⟨_, boot_sound entry⟩ ?_ h
  rintro s op s' ⟨a, sound⟩ ⟨onTask, orderly⟩ stepped
  obtain ⟨a', sound', -⟩ := sound.step op onTask orderly stepped
  exact ⟨a', sound'⟩

/-- Whatever is created and suspended in between, a task that waits at place
`p` of the ready queue runs before `p + 1` turns are over, or it is suspended
when they are. -/
theorem no_starvation (entry : ADDRESS) {s s' : TaskRun} {ops : List TaskOp}
    (h : Reachable TaskRun.step InOrder (bootRun entry) s)
    {r : List (Fin maxTasks)} (queue : Holds s.kernel.tct s.kernel.readyq r)
    {p : Nat} {i : Fin maxTasks} (place : r[p]? = some i) (long : p < turnsGiven s ops)
    (meets : Meets TaskRun.step InOrder s ops) (ran : exec TaskRun.step s ops = .ok s') :
    ComesToRun s ops i ∨ (s'.kernel.tct i).status = .susp := by
  obtain ⟨a, sound⟩ := reachable_sound h
  have same : a.ready = r := sound.follows.queued.ready.forward.det queue.forward
  subst same
  obtain ⟨bound, here⟩ := List.getElem?_eq_some_iff.mp place
  have at_p : a.ready.idxOf i = p := here ▸ queue.nodup.idxOf_getElem p bound
  exact sound.waits (here ▸ List.getElem_mem bound) (at_p ▸ long) meets ran

/-- INIT creates two tasks; the second runs after two turns, although a third
is created meanwhile and the first suspends itself. -/
theorem no_starvation_second :
    ∃ s s' : TaskRun, ∃ ops, Reachable TaskRun.step InOrder (bootRun 0) s ∧ s.kernel.curtcb = 0 ∧
      exec TaskRun.step s ops = .ok s' ∧ (ComesToRun s ops 2 ∨ (s'.kernel.tct 2).status = .susp) := by
  let before := [createSmall, createSmall]
  let after := [createSmall, .quantum {}, .suspend {} none]
  have meets : Meets TaskRun.step InOrder (bootRun 0) before := by decide +kernel
  have result : succeeds (exec TaskRun.step (bootRun 0) before) (fun s => s.kernel.curtcb = 0 ∧
      Holds s.kernel.tct s.kernel.readyq [1, 2] ∧ 1 < turnsGiven s after ∧
      Meets TaskRun.step InOrder s after ∧ (exec TaskRun.step s after).isOk) = true := by
    decide +kernel
  obtain ⟨s, ran, facts⟩ := succeeds_iff.mp result
  obtain ⟨cur, queue, long, later, returns⟩ := of_decide_eq_true facts
  obtain ⟨s', ran'⟩ := isOk_iff.mp returns
  have reached := reachable_exec meets ran
  exact ⟨s, s', after, reached, cur, ran', no_starvation 0 reached queue rfl long later ran'⟩

/-- A suspended task stays suspended for ever: no service puts it back into the
ready queue. -/
theorem no_wakeup (entry : ADDRESS) {s s' : TaskRun} {ops : List TaskOp}
    (h : Reachable TaskRun.step InOrder (bootRun entry) s)
    {i : Fin maxTasks} (created : (s.kernel.tct i).pid ∈ s.created)
    (susp : (s.kernel.tct i).status = .susp)
    (meets : Meets TaskRun.step InOrder s ops) (ran : exec TaskRun.step s ops = .ok s') :
    (s'.kernel.tct i).status = .susp ∧ ¬ ComesToRun s ops i := by
  obtain ⟨a, sound⟩ := reachable_sound h
  have mem : i ∈ a.susp := sound.suspended created susp
  constructor
  · obtain ⟨b, last, asleep⟩ := sound.asleep mem meets ran
    exact last.follows.queued.suspended i asleep
  · rintro ⟨done, rest, t, rfl, reached, here⟩
    obtain ⟨b, then', asleep⟩ := sound.asleep mem meets.left reached
    have running := then'.follows.running
    rw [← then'.follows.cur, here, then'.follows.queued.suspended i asleep] at running
    cases running

/-- INIT creates two tasks and suspends the first: it never runs. -/
theorem no_wakeup_first :
    ∃ s s' : TaskRun, ∃ ops, Reachable TaskRun.step InOrder (bootRun 0) s ∧
      exec TaskRun.step s ops = .ok s' ∧ ops.length = 3 ∧
      (s'.kernel.tct 1).status = .susp ∧ ¬ ComesToRun s ops 1 := by
  let before := [createSmall, createSmall, .suspend {} (some 1)]
  let after := [.quantum {}, createSmall, .yield {}]
  have meets : Meets TaskRun.step InOrder (bootRun 0) before := by decide +kernel
  have result : succeeds (exec TaskRun.step (bootRun 0) before) (fun s =>
      (s.kernel.tct 1).pid ∈ s.created ∧ (s.kernel.tct 1).status = .susp ∧
      Meets TaskRun.step InOrder s after ∧ (exec TaskRun.step s after).isOk) = true := by
    decide +kernel
  obtain ⟨s, ran, facts⟩ := succeeds_iff.mp result
  obtain ⟨created, susp, later, returns⟩ := of_decide_eq_true facts
  obtain ⟨s', ran'⟩ := isOk_iff.mp returns
  have reached := reachable_exec meets ran
  exact ⟨s, s', after, reached, ran', rfl, no_wakeup 0 reached created susp later ran'⟩

end Muxx
