import Muxx.Lib.Run
import Muxx.Lib.Waiting
import Muxx.Dispatch

/-! Where the tasks are, in runs of creation, yield, suspend and quantum
expiry from boot. -/
namespace Muxx

open Chain Fallible RoundRobin Run

/-- Task `i` runs, waits in the ready queue or is suspended, each with the
status that goes with it, and only one of these. -/
def InOnePlace (k : Kernel) (r q : List (Fin maxTasks)) (i : Fin maxTasks) : Prop :=
  (k.curtcb = i ∧ (k.tct i).status = .run ∧ i ∉ r ∧ i ∉ q) ∨
  (k.curtcb ≠ i ∧ r.count i = 1 ∧ ((k.tct i).status = .init ∨ (k.tct i).status = .ready) ∧ i ∉ q) ∨
  (k.curtcb ≠ i ∧ i ∉ r ∧ q.count i = 1 ∧ (k.tct i).status = .susp)

/-- The queues hold lists of tasks, and every task that was created is in
exactly one place. -/
def Placed (s : TaskRun) : Prop :=
  ∃ r q, Holds s.kernel.tct s.kernel.readyq r ∧ Holds s.kernel.tct s.kernel.suspq q ∧
    ∀ i, (s.kernel.tct i).pid ≠ 0 → (s.kernel.tct i).pid ∈ s.created → InOnePlace s.kernel r q i

/-- A suspension that is permitted hits a task that is not suspended, and if
the task waits in the ready queue it is the first there. -/
def TaskOp.Orderly (s : TaskRun) : TaskOp → Prop
  | .suspend _ task =>
    let k := s.kernel
    let i := suspendTarget k task
    maySuspend k i = true → (k.tct i).status ≠ .susp ∧
      (findTask k.tct k.readyq i = some (some i) → k.readyq.head = some i)
  | _ => True

/-- The running task gives up its turn. -/
def TaskOp.dispatches (s : TaskRun) : TaskOp → Bool
  | .yield _ | .quantum _ => true
  | .suspend _ task =>
    let i := suspendTarget s.kernel task
    maySuspend s.kernel i && i == s.kernel.curtcb
  | _ => false

/-- The invariant: the kernel follows the round robin `a`, whose tasks have
pids and include all that were created. -/
structure Sound (s : TaskRun) (a : Sched (Fin maxTasks)) : Prop where
  follows : Represents s.kernel a
  pids : Pids s.kernel
  memory : ∃ rs, Carved s.kernel.mmcbt rs
  live : ∀ i ∈ a.tasks, (s.kernel.tct i).pid ≠ 0
  known : ∀ i, (s.kernel.tct i).pid ≠ 0 → (s.kernel.tct i).pid ∈ s.created → i ∈ a.tasks
  old : ∀ p ∈ s.created, p ≠ 0 ∧ ∃ i, (s.kernel.tct i).pid = p

section Steps
variable {s s' : TaskRun} {a a' : Sched (Fin maxTasks)} {k' : Kernel}

theorem Represents.placed (h : Represents s.kernel a) {i : Fin maxTasks} (mem : i ∈ a.tasks) :
    InOnePlace s.kernel a.ready a.susp i := by
  have nodup := List.nodup_cons.mp a.nodup
  have notCur {j : Fin maxTasks} (hj : j ∈ a.ready ∨ j ∈ a.susp) : s.kernel.curtcb ≠ j := by
    rw [h.cur]
    rintro rfl
    exact nodup.1 (List.mem_append.mpr hj)
  rcases Sched.mem_tasks.mp mem with rfl | ready | susp
  · exact .inl ⟨h.cur, h.running, fun hr => notCur (.inl hr) h.cur, fun hq => notCur (.inr hq) h.cur⟩
  · exact .inr (.inl ⟨notCur (.inl ready), List.count_eq_one_of_mem h.queued.ready.nodup ready,
      h.queued.waiting i ready, h.queued.apart i ready⟩)
  · exact .inr (.inr ⟨notCur (.inr susp), fun hr => h.queued.apart i hr susp,
      List.count_eq_one_of_mem h.queued.susp.nodup susp, h.queued.suspended i susp⟩)

theorem Sound.placed (h : Sound s a) : Placed s :=
  ⟨a.ready, a.susp, h.follows.queued.ready, h.follows.queued.susp, fun i nonzero created =>
    h.follows.placed (h.known i nonzero created)⟩

/-- A step that only moves tasks about. -/
theorem Sound.move (h : Sound s a) (moved : Moved s.kernel k') (follows : Represents k' a')
    (tasks : ∀ i, i ∈ a.tasks → i ∈ a'.tasks)
    (live : ∀ i, i ∈ a'.tasks → (s.kernel.tct i).pid ≠ 0) :
    Sound { s with kernel := k' } a' where
  follows := follows
  pids := moved.pids h.pids
  memory := by
    show ∃ rs, Carved k'.mmcbt rs
    rw [moved.mmcbt]
    exact h.memory
  live := fun i hi => by
    rw [moved.pid]
    exact live i hi
  known := fun i nonzero created => by
    rw [moved.pid] at nonzero created
    exact tasks i (h.known i nonzero created)
  old := fun p hp => by
    obtain ⟨nonzero, i, hi⟩ := h.old p hp
    exact ⟨nonzero, i, (moved.pid i).trans hi⟩

/-- A creation that failed leaves a task nobody knows. -/
theorem Sound.made (h : Sound s a) {i : Fin maxTasks} {tcb : TCB maxTasks}
    (made : Made s.kernel i tcb k') (memory : ∃ rs, Carved k'.mmcbt rs) :
    i ∉ a.tasks ∧ Sound { s with kernel := k' } a := by
  have out : i ∉ a.tasks := fun mem => h.live i mem made.entry.2
  refine ⟨out, h.follows.made made out, made.pids, memory, ?_, ?_, ?_⟩
  · intro j hj
    rw [made.other (fun he => out (he ▸ hj))]
    exact h.live j hj
  · intro j nonzero created
    by_cases hj : j = i
    · subst hj
      rw [made.self] at created
      obtain ⟨-, l, hl⟩ := h.old _ created
      exact absurd hl (made.unseen l)
    · rw [made.other hj] at nonzero created
      exact h.known j nonzero created
  · intro p hp
    obtain ⟨nonzero, j, rfl⟩ := h.old p hp
    have hj : j ≠ i := fun he => nonzero (he ▸ made.entry.2)
    exact ⟨nonzero, j, congrArg TCB.pid (made.other hj)⟩

/-- The new task of a creation that succeeded joins the line. -/
theorem Sound.enlist (h : Sound s a) {i : Fin maxTasks} (out : i ∉ a.tasks)
    (status : (s.kernel.tct i).status = .init) (live : (s.kernel.tct i).pid ≠ 0)
    (called : s.kernel.addReady i = .ok k') :
    Sound ⟨k', (s.kernel.tct i).pid :: s.created⟩ (a.enlist i out) := by
  have moved := (addReady_only called).moved
  have member {j : Fin maxTasks} : j ∈ (a.enlist i out).tasks ↔ j = i ∨ j ∈ a.tasks :=
    Sched.mem_enlist out
  have joined := h.move moved (h.follows.enlists out status called)
    (fun j hj => member.mpr (.inr hj))
    (fun j hj => (member.mp hj).elim (fun he => he ▸ live) (h.live j))
  refine ⟨joined.follows, joined.pids, joined.memory, joined.live, ?_, ?_⟩
  · intro j nonzero created
    rcases List.mem_cons.mp created with same | created
    · refine member.mpr (.inl (h.pids.unique j i ?_ ?_))
      · rw [← moved.pid]; exact nonzero
      · rw [← moved.pid]; exact same
    · exact joined.known j nonzero created
  · intro p hp
    rcases List.mem_cons.mp hp with rfl | hp
    · exact ⟨live, i, moved.pid i⟩
    · exact joined.old p hp

theorem pid_returned {pid : WORD} (nonzero : pid ≠ 0) :
    s.returned ((pid.toNat : Int), k') = ⟨k', pid :: s.created⟩ := by
  have pos : (pid.toNat : Int) > 0 := by
    have : pid.toNat ≠ 0 := fun hz => nonzero (BitVec.eq_of_toNat_eq hz)
    omega
  rw [TaskRun.returned, if_pos pos, BitVec.ofInt_natCast, BitVec.ofNat_toNat, BitVec.setWidth_eq]

/-- What creprc and loadprc do once there is a new task. -/
theorem Sound.create (h : Sound s a) {name : Name} {type entry privs : WORD}
    {new : Option (Fin maxTasks)} {k₁ : Kernel}
    (called : newTask s.kernel name type entry privs = .ok (new, k₁)) :
    Sound { s with kernel := k₁ } a ∧
      ∀ i k', new = some i → k₁.addReady i = .ok k' →
        ∃ a', Sound (s.returned (((k'.tct i).pid.toNat : Int), k')) a' ∧
          Sched.Op false a a' := by
  obtain ⟨rs, carved⟩ := h.memory
  obtain ⟨i, tcb, made, -, outcome⟩ := newTask_ok h.pids carved called
  have memory : ∃ rs, Carved k₁.mmcbt rs := by
    rcases outcome with ⟨-, same, -⟩ | ⟨-, task₀, -, -, settingUp⟩
    · exact ⟨rs, same ▸ carved⟩
    · obtain ⟨new, carved', -⟩ := settingUp.run
      exact ⟨_, carved'⟩
  obtain ⟨out, sound⟩ := h.made made memory
  refine ⟨sound, ?_⟩
  rintro j k' rfl added
  have same : j = i := by
    rcases outcome with ⟨none, -⟩ | ⟨some, -⟩
    · cases none
    · exact Option.some.inj some
  subst same
  have live : (k₁.tct j).pid ≠ 0 := by
    rw [made.self]
    intro hz
    have := made.pid_range.1
    rw [hz] at this
    exact absurd this (by decide)
  have kept := (addReady_only added).moved.pid j
  refine ⟨a.enlist j out, ?_, .enlist a j out⟩
  have joined := sound.enlist out (by rw [made.self]; exact made.status) live added
  have returned : s.returned (((k'.tct j).pid.toNat : Int), k') =
      ⟨k', (k'.tct j).pid :: s.created⟩ := pid_returned (by rw [kept]; exact live)
  rw [kept] at returned ⊢
  exact returned ▸ joined

/-- A suspension that is in order is an operation of the round robin. -/
theorem Sound.suspend (h : Sound s a) {fp : FRAME} {task : Option (Fin maxTasks)}
    (onTask : TaskOp.OnTask s (.suspend fp task)) (orderly : TaskOp.Orderly s (.suspend fp task))
    {rc : Option Int} (called : svcSuspend s.kernel fp task = .ok (rc, k')) :
    ∃ a', Sound { s with kernel := k' } a' ∧
      Sched.Op (TaskOp.dispatches s (.suspend fp task)) a a' := by
  have moved := svcSuspend_moved called
  cases allowed : maySuspend s.kernel (suspendTarget s.kernel task) with
  | false =>
    cases svcSuspend_refused allowed called
    refine ⟨a, h, ?_⟩
    rw [TaskOp.dispatches, allowed]
    exact .none a
  | true =>
    rw [TaskOp.dispatches, allowed, Bool.true_and]
    by_cases self : suspendTarget s.kernel task = s.kernel.curtcb
    · refine ⟨a.park, h.move moved (svcSuspend_parks h.follows self allowed called)
        (fun i => Sched.mem_park.mpr) (fun i hi => h.live i (Sched.mem_park.mp hi)), ?_⟩
      rw [beq_iff_eq.mpr self]
      exact .park a
    · obtain ⟨notSusp, oldest⟩ := orderly allowed
      generalize target : suspendTarget s.kernel task = i at *
      have onTask : (s.kernel.tct i).pid ≠ 0 := target ▸ onTask
      have other : i ≠ a.cur := fun he => self (he.trans h.follows.cur.symm)
      have awake : i ∉ a.susp := fun hq => notSusp (h.follows.queued.suspended i hq)
      have oldest' (mem : i ∈ a.ready) : a.ready.head? = some i := by
        rw [← h.follows.queued.ready.forward.head]
        apply oldest
        rw [findTask_holds h.follows.queued.ready, if_pos mem]
      refine ⟨a.suspend i other awake, h.move moved
        (svcSuspend_suspends h.follows target other awake oldest' allowed called)
        (fun j hj => (Sched.mem_suspend other awake).mpr (.inr hj))
        (fun j hj => ?_), ?_⟩
      · exact ((Sched.mem_suspend other awake).mp hj).elim (fun he => he ▸ onTask) (h.live j)
      · rw [beq_eq_false_iff_ne.mpr self]
        exact .suspend a i other awake

/-- One step is an operation of the round robin. -/
theorem Sound.turn (h : Sound s a) (op : TaskOp) (onTask : op.OnTask s) (orderly : op.Orderly s)
    (called : s.step op = .ok s') :
    ∃ a', Sound s' a' ∧ Sched.Op (op.dispatches s) a a' := by
  cases op with
  | creprc name type entry privs =>
    obtain ⟨⟨rc, k'⟩, created, ret⟩ := bind_ok.mp called
    obtain ⟨⟨new, k₁⟩, made, rest⟩ := bind_ok.mp created
    obtain ⟨failed, enlisted⟩ := h.create made
    cases ret
    cases new with
    | none => cases rest; exact ⟨a, failed, .none a⟩
    | some i =>
      obtain ⟨k₂, added, ret⟩ := bind_ok.mp rest
      cases ret
      exact enlisted i k' rfl added
  | loadprc name type rshell file privs =>
    obtain ⟨⟨rc, k'⟩, created, ret⟩ := bind_ok.mp called
    obtain ⟨⟨new, k₁⟩, made, rest⟩ := bind_ok.mp created
    obtain ⟨failed, enlisted⟩ := h.create made
    cases ret
    cases new with
    | none => cases rest; exact ⟨a, failed, .none a⟩
    | some i =>
      obtain ⟨copied, -, rest⟩ := bind_ok.mp rest
      split at rest
      · obtain ⟨k₂, added, ret⟩ := bind_ok.mp rest
        cases ret
        exact enlisted i k' rfl added
      · cases rest
  | yield fp =>
    obtain ⟨k', yielded, ret⟩ := bind_ok.mp called
    cases ret
    exact ⟨a.rotate, h.move (svcYield_moved yielded) (svcYield_rotates h.follows yielded)
      (fun i => Sched.mem_rotate.mpr) (fun i hi => h.live i (Sched.mem_rotate.mp hi)),
      .rotate a⟩
  | suspend fp task =>
    obtain ⟨⟨rc, k'⟩, suspended, ret⟩ := bind_ok.mp called
    cases ret
    exact h.suspend onTask orderly suspended
  | quantum fp =>
    obtain ⟨k', expired, ret⟩ := bind_ok.mp called
    cases ret
    exact ⟨a.rotate, h.move (checkQuantums_moved expired) (checkQuantums_rotates h.follows expired)
      (fun i => Sched.mem_rotate.mpr) (fun i hi => h.live i (Sched.mem_rotate.mp hi)),
      .rotate a⟩

/-- One step keeps the invariant, and the task that runs afterwards ran before
or was waiting to run. -/
theorem Sound.step (h : Sound s a) (op : TaskOp) (onTask : op.OnTask s) (orderly : op.Orderly s)
    (called : s.step op = .ok s') :
    ∃ a', Sound s' a' ∧ (a'.cur = a.cur ∨ a'.cur ∈ a.ready) := by
  obtain ⟨a', sound, turned⟩ := h.turn op onTask orderly called
  exact ⟨a', sound, turned.cur⟩

end Steps

theorem boot_sound (entry : ADDRESS) :
    Sound (bootRun entry) { cur := 0, ready := [], susp := [], nodup := by simp } where
  follows := ⟨rfl, congrArg TCB.status (Kernel.setTcb_self ..),
    holds_empty _, holds_empty _, by simp, by simp, by simp⟩
  pids := boot_pids entry
  memory := ⟨[], carved_init⟩
  live := by
    intro i hi
    have zero : i = 0 := by simpa [Sched.tasks] using hi
    show ((boot entry).tct i).pid ≠ 0
    rw [boot_pid, if_pos zero]
    decide
  known := by
    intro i nonzero _
    have nonzero : ((boot entry).tct i).pid ≠ 0 := nonzero
    rw [boot_pid] at nonzero
    have zero : i = 0 := by
      by_contra h
      exact nonzero (if_neg h)
    simp [Sched.tasks, zero]
  old := by
    intro p hp
    rw [List.mem_singleton.mp hp]
    exact ⟨by decide, 0, boot_pid entry 0⟩

/-- In every run from boot whose suspensions are in order, every task that was
created is in exactly one place, and no step dispatches a suspended task. -/
theorem tasks_placed (entry : ADDRESS) (s : TaskRun)
    (h : Reachable TaskRun.step (fun s op => op.OnTask s ∧ op.Orderly s) (bootRun entry) s) :
    Placed s ∧ ∀ op s', op.OnTask s → op.Orderly s → s.step op = .ok s' →
      (s.kernel.tct s'.kernel.curtcb).status ≠ .susp := by
  have invariant : ∃ a, Sound s a := by
    refine Reachable.invariant (fun s => ∃ a, Sound s a) ⟨_, boot_sound entry⟩ ?_ h
    rintro s op s' ⟨a, sound⟩ ⟨onTask, orderly⟩ stepped
    obtain ⟨a', sound', -⟩ := sound.step op onTask orderly stepped
    exact ⟨a', sound'⟩
  obtain ⟨a, sound⟩ := invariant
  refine ⟨sound.placed, fun op s' onTask orderly stepped => ?_⟩
  obtain ⟨a', sound', cur⟩ := sound.step op onTask orderly stepped
  rw [sound'.follows.cur]
  rcases cur with same | waiting
  · rw [same, sound.follows.running]
    decide
  · rcases sound.follows.queued.waiting _ waiting with init | ready
    · rw [init]; decide
    · rw [ready]; decide

instance TaskOp.Orderly.decidable (s : TaskRun) : (op : TaskOp) → Decidable (op.Orderly s)
  | .suspend .. => inferInstanceAs (Decidable (_ → _ ∧ (_ → _)))
  | .creprc .. | .loadprc .. | .yield _ | .quantum _ => inferInstanceAs (Decidable True)

/-- Create a small user task without privileges. -/
def createSmall : TaskOp := .creprc (fun _ => 0x20) usrTask 0 0

theorem tasks_placed_run :
    ∃ s, exec TaskRun.step (bootRun 0) [createSmall, createSmall, .suspend {} (some 1), .quantum {},
      .suspend {} none] = .ok s ∧ Placed s := by
  let ops := [createSmall, createSmall, .suspend {} (some 1), .quantum {}, .suspend {} none]
  have meets : Meets TaskRun.step (fun s op => op.OnTask s ∧ op.Orderly s) (bootRun 0) ops := by
    decide +kernel
  have returns : (exec TaskRun.step (bootRun 0) ops).isOk = true := by decide +kernel
  obtain ⟨s, ran⟩ := isOk_iff.mp returns
  exact ⟨s, ran, (tasks_placed 0 s (reachable_exec meets ran)).1⟩

/-- INIT creates three tasks and suspends the second one: it is then in both
queues, and the third is in none. -/
theorem suspend_displaces :
    ∃ s, Reachable TaskRun.step (fun s op => op.OnTask s) (bootRun 0) s ∧
      (s.kernel.tct 3).pid ∈ s.created ∧ s.kernel.curtcb = 0 ∧
      Chain.Path (nextOf s.kernel.tct) s.kernel.readyq.head [1, 2] ∧
      Chain.Path (nextOf s.kernel.tct) s.kernel.suspq.head [2] ∧ ¬ Placed s := by
  let ops := [createSmall, createSmall, createSmall, .suspend {} (some 2)]
  have meets : Meets TaskRun.step (fun s op => op.OnTask s) (bootRun 0) ops := by decide +kernel
  have result : succeeds (exec TaskRun.step (bootRun 0) ops) (fun s =>
      (s.kernel.tct 3).pid ∈ s.created ∧ s.kernel.curtcb = 0 ∧
      Chain.Path (nextOf s.kernel.tct) s.kernel.readyq.head [1, 2] ∧
      Chain.Path (nextOf s.kernel.tct) s.kernel.suspq.head [2] ∧ (s.kernel.tct 3).pid ≠ 0) = true := by
    decide +kernel
  obtain ⟨s, ran, facts⟩ := succeeds_iff.mp result
  obtain ⟨created, cur, ready, susp, nonzero⟩ := of_decide_eq_true facts
  refine ⟨s, reachable_exec meets ran, created, cur, ready, susp, ?_⟩
  rintro ⟨r, q, holds_r, holds_q, placed⟩
  have hr := holds_r.forward.det ready
  have hq := holds_q.forward.det susp
  rcases placed 3 nonzero created with ⟨here, -⟩ | ⟨-, once, -⟩ | ⟨-, -, once, -⟩
  · rw [cur] at here
    exact absurd here (by decide)
  · rw [hr] at once
    exact absurd once (by decide)
  · rw [hq] at once
    exact absurd once (by decide)

end Muxx
