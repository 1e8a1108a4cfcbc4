import Muxx.Lib.Run
import Muxx.Dispatch

/-!
# Runs of creations

creprc and loadprc calls from boot, by any tasks in any order:

* `Creation`: the two calls;
* `Creation.outcome`: what one that comes back has done;
* `Numbered`, `pids_distinct`: pids in such runs;
* `svcCreprc_undone_iff`: when a creation that fails leaves the tables alone.
-/

namespace Muxx

open Fallible Run

inductive Creation
  | creprc (name : Name) (type entry privs : WORD)
  | loadprc (name : Name) (type rshell : WORD) (file : Nat) (privs : WORD)

namespace Creation

def name : Creation → Name
  | creprc name .. | loadprc name .. => name

def type : Creation → WORD
  | creprc _ type .. | loadprc _ type .. => type

def entry : Creation → WORD
  | creprc _ _ entry _ => entry
  | loadprc _ _ rshell .. => rshell

def privs : Creation → WORD
  | creprc _ _ _ privs | loadprc _ _ _ _ privs => privs

def run (k : Kernel) : Creation → Except Fault (Int × Kernel)
  | creprc name type entry privs => svcCreprc k name type entry privs
  | loadprc name type rshell file privs => svcLoadprc k name type rshell file privs

/-- A creation makes a task and, if that has its memory, adds it to the ready
queue and returns its pid. -/
theorem outcome {k k' : Kernel} {rc : Int} {c : Creation} (called : c.run k = .ok (rc, k')) :
    ∃ new k₁, newTask k c.name c.type c.entry c.privs = .ok (new, k₁) ∧
      (new = none ∧ rc = -1 ∧ k' = k₁ ∨
        ∃ i, new = some i ∧ k₁.addReady i = .ok k' ∧ rc = (k'.tct i).pid.toNat) := by
  cases c with
  | creprc name type entry privs =>
    obtain ⟨⟨new, k₁⟩, made, rest⟩ := bind_ok.mp called
    refine ⟨new, k₁, made, ?_⟩
    cases new with
    | none => cases rest; exact .inl ⟨rfl, rfl, rfl⟩
    | some i =>
      obtain ⟨k₂, added, ret⟩ := bind_ok.mp rest
      cases ret
      exact .inr ⟨i, rfl, added, rfl⟩
  | loadprc name type rshell file privs =>
    obtain ⟨⟨new, k₁⟩, made, rest⟩ := bind_ok.mp called
    refine ⟨new, k₁, made, ?_⟩
    cases new with
    | none => cases rest; exact .inl ⟨rfl, rfl, rfl⟩
    | some i =>
      obtain ⟨copied, -, rest⟩ := bind_ok.mp rest
      split at rest
      · obtain ⟨k₂, added, ret⟩ := bind_ok.mp rest
        cases ret
        exact .inr ⟨i, rfl, added, rfl⟩
      · cases rest

end Creation

/-- A creation by one of the tasks. -/
structure CreateCall where
  caller : Fin maxTasks
  call : Creation

def CreateCall.step (k : Kernel) (c : CreateCall) : Except Fault Kernel := do
  return (← c.call.run (k.withCur c.caller)).2

/-- The caller is a task. -/
def CreateCall.ByTask (k : Kernel) (c : CreateCall) : Prop := (k.tct c.caller).pid ≠ 0

instance (k : Kernel) (c : CreateCall) : Decidable (c.ByTask k) :=
  inferInstanceAs (Decidable (_ ≠ _))

/-! ## Pids -/

/-- No entry is in use that is not counted by the pid counters. -/
structure Numbered (k : Kernel) : Prop where
  pids : Pids k
  curtasks : k.curtasks = 0
  memory : ∃ rs, Carved k.mmcbt rs

section Numbered
variable {k k' : Kernel} {c : CreateCall}

theorem Numbered.withCur (h : Numbered k) (task : Fin maxTasks) : Numbered (k.withCur task) :=
  ⟨h.pids.congr (fun _ => rfl) rfl rfl, h.curtasks, h.memory⟩

/-- One creation: a free entry is filled, and then at most its links and those
of the tasks of the ready queue change. -/
theorem Numbered.created (h : Numbered k) (stepped : c.step k = .ok k') :
    ∃ i tcb k₁, Made (k.withCur c.caller) i tcb k₁ ∧
      (tcb.privileges = c.call.privs ∧ tcb.ppid = (k.tct c.caller).pid) ∧
      Numbered k₁ ∧ (k' = k₁ ∨ OnlyQueues k₁ k') := by
  obtain ⟨⟨rc, k₂⟩, called, ret⟩ := bind_ok.mp stepped
  cases ret
  obtain ⟨new, k₁, created, finish⟩ := Creation.outcome called
  have here := h.withCur c.caller
  obtain ⟨rs, carved⟩ := here.memory
  obtain ⟨i, tcb, made, priv, outcome⟩ := newTask_ok here.pids carved created
  have curtasks : k₁.curtasks = 0 := by
    rw [made.only]
    exact h.curtasks
  have memory : ∃ rs, Carved k₁.mmcbt rs := by
    rcases outcome with ⟨-, same, -⟩ | ⟨-, _, -, -, settingUp⟩
    · rw [same]
      exact ⟨rs, carved⟩
    · obtain ⟨more, carved', -⟩ := settingUp.run
      exact ⟨_, carved'⟩
  refine ⟨i, tcb, k₁, made, priv, ⟨made.pids, curtasks, memory⟩, ?_⟩
  rcases finish with ⟨-, -, same⟩ | ⟨j, -, added, -⟩
  · exact .inl same
  · exact .inr (addReady_only added)

theorem Numbered.step (h : Numbered k) (stepped : c.step k = .ok k') : Numbered k' := by
  obtain ⟨i, tcb, k₁, -, -, numbered, rfl | only⟩ := h.created stepped
  · exact numbered
  · have moved := only.moved
    refine ⟨moved.pids numbered.pids, ?_, ?_⟩
    · rw [only.only]
      exact numbered.curtasks
    · rw [moved.mmcbt]
      exact numbered.memory

theorem boot_numbered (entry : ADDRESS) : Numbered (boot entry) :=
  ⟨boot_pids entry, rfl, [], carved_init⟩

theorem Numbered.range (h : Numbered k) (i : Fin maxTasks) (task : (k.tct i).pid ≠ 0) :
    1 ≤ (k.tct i).pid.toNat ∧ (k.tct i).pid.toNat ≤ 0o77 ∨
      0o101 ≤ (k.tct i).pid.toNat ∧ (k.tct i).pid.toNat ≤ 0o777 := by
  have positive : 1 ≤ (k.tct i).pid.toNat := by
    by_contra none
    exact task (BitVec.eq_of_toNat_eq (by simpa using none))
  have sys := h.pids.sys
  rcases h.pids.assigned i with low | ⟨above, high⟩
  · exact .inl ⟨positive, by omega⟩
  · rcases h.pids.usr with zero | ⟨-, bound⟩
    · rw [zero] at high
      exact absurd high (by simp; omega)
    · exact .inr ⟨above, by omega⟩

/-- muxx_taskinit gives an entry of its own to each new task. -/
theorem Numbered.taskinit (h : Numbered k) {type ppid entry privs : WORD}
    {new : Except Int (Fin maxTasks)} (called : taskinit k type ppid entry privs = .ok (new, k')) :
    ∃ i, new = .ok i ∧ i ≠ 0 ∧ (k.tct i).pid = 0 ∧ ∀ j, j ≠ i → k'.tct j = k.tct j := by
  cases new with
  | ok i =>
    obtain ⟨made, -⟩ := taskinit_ok h.pids called
    exact ⟨i, rfl, made.entry.1, made.entry.2, fun j hj => made.other hj⟩
  | error code =>
    unfold Muxx.taskinit at called
    rw [if_neg (by rw [h.curtasks]; decide)] at called
    obtain ⟨⟨pid, k₁⟩, assigned, rest⟩ := bind_ok.mp called
    obtain ⟨⟨positive, -⟩, -⟩ := newPid_ok h.pids assigned
    have task : pid ≠ 0 := by
      rintro rfl
      exact absurd positive (by decide)
    dsimp only at rest
    rw [if_neg task] at rest
    split at rest
    · cases rest
    · cases rest

/-- Where there are no two tasks with one pid, muxx_findtcb finds the task. -/
theorem Pids.findtcb (h : Pids k) {p : WORD} (nonzero : p ≠ 0) (i : Fin maxTasks) :
    findtcb k p = some i ↔ (k.tct i).pid = p := by
  unfold Muxx.findtcb
  rw [if_neg nonzero]
  constructor
  · intro found
    simpa using List.find?_some found
  · rintro rfl
    obtain ⟨j, found⟩ : ∃ j, (List.finRange maxTasks).find?
        (fun l => (k.tct l).pid == (k.tct i).pid) = some j := by
      apply Option.isSome_iff_exists.mp
      rw [List.find?_isSome]
      exact ⟨i, List.mem_finRange i, beq_self_eq_true _⟩
    have same : (k.tct j).pid = (k.tct i).pid := by simpa using List.find?_some found
    rw [found, h.unique i j nonzero same.symm]

end Numbered

/-- In every run of creations from boot the tasks have pids of their own in
the ranges of the counters, every new task gets a free entry other than 0, and
muxx_findtcb finds exactly the task with the pid it is given. -/
theorem pids_distinct (entry : ADDRESS) (k : Kernel)
    (h : Reachable CreateCall.step (fun k c => c.ByTask k) (boot entry) k) :
    (∀ i j, (k.tct i).pid ≠ 0 → (k.tct i).pid = (k.tct j).pid → i = j) ∧
    (∀ i, (k.tct i).pid ≠ 0 →
      1 ≤ (k.tct i).pid.toNat ∧ (k.tct i).pid.toNat ≤ 0o77 ∨
        0o101 ≤ (k.tct i).pid.toNat ∧ (k.tct i).pid.toNat ≤ 0o777) ∧
    (∀ type ppid entry privs new k', taskinit k type ppid entry privs = .ok (new, k') →
      ∃ i, new = .ok i ∧ i ≠ 0 ∧ (k.tct i).pid = 0 ∧ ∀ j, j ≠ i → k'.tct j = k.tct j) ∧
    ∀ p, p ≠ 0 → ∀ i, findtcb k p = some i ↔ (k.tct i).pid = p := by
  have numbered : Numbered k :=
    Reachable.invariant Numbered (boot_numbered entry) (fun _ _ _ inv _ => inv.step) h
  refine ⟨numbered.pids.unique, numbered.range, ?_, ?_⟩
  · intro type ppid entry privs new k' called
    exact numbered.taskinit called
  · intro p nonzero i
    exact numbered.pids.findtcb nonzero i

/-- INIT creates a user task and a driver task, and the first of them fails to
create one of a type that there is not. -/
theorem pids_distinct_run :
    ∃ k, exec CreateCall.step (boot 0) [⟨0, .creprc (fun _ => 0x20) usrTask 0 0⟩,
      ⟨0, .loadprc (fun _ => 0x20) drvTask 0 4 0⟩, ⟨1, .creprc (fun _ => 0x20) 3 0 0⟩] = .ok k ∧
      ∀ i j, (k.tct i).pid ≠ 0 → (k.tct i).pid = (k.tct j).pid → i = j := by
  let name : Name := fun _ => 0x20
  let calls : List CreateCall :=
    [⟨0, .creprc name usrTask 0 0⟩, ⟨0, .loadprc name drvTask 0 4 0⟩, ⟨1, .creprc name 3 0 0⟩]
  have meets : Meets CreateCall.step (fun k c => c.ByTask k) (boot 0) calls := by decide +kernel
  have returns : (exec CreateCall.step (boot 0) calls).isOk = true := by decide +kernel
  obtain ⟨k, ran⟩ := isOk_iff.mp returns
  exact ⟨k, ran, (pids_distinct 0 k (reachable_exec meets ran)).1⟩

/-! ## Failed creations -/

/-- The task table, the pid counters, the memory table and the queues. -/
structure SameTables (k k' : Kernel) : Prop where
  tct : k'.tct = k.tct
  topspid : k'.topspid = k.topspid
  topupid : k'.topupid = k.topupid
  mmcbt : k'.mmcbt = k.mmcbt
  readyq : k'.readyq = k.readyq
  suspq : k'.suspq = k.suspq

/-- There is an entry for one more task and a pid of either kind. -/
structure HasRoom (k : Kernel) : Prop where
  entry : ∃ i, i ≠ 0 ∧ (k.tct i).pid = 0
  curtasks : k.curtasks.toNat < maxTasks
  sys : k.topspid < maxspid
  usr : k.topupid < maxupid

/-- The type is one that muxx_setup_taskmem accepts, and no memory request of a
task of that type is answered NULL. -/
def Provided (k : Kernel) (type : WORD) : Prop :=
  checkType ({ taskType := type } : TCB maxTasks) = eok ∧
    ∀ pid k₁, newPid k type = .ok (pid, k₁) → ∀ t, serveAsks k.mmcbt pid (asks type) ≠ .ok (false, t)

section Failure
variable {k : Kernel} {type : WORD}

theorem checkType_congr {task task' : TCB maxTasks} (same : task.taskType = task'.taskType) :
    checkType task = checkType task' := by
  have ssize : task.ssize = task'.ssize := by rw [TCB.ssize, TCB.ssize, same]
  have ttype : task.ttype = task'.ttype := by rw [TCB.ttype, TCB.ttype, same]
  have tsize : task.tsize = task'.tsize := by rw [TCB.tsize, TCB.tsize, same]
  rw [checkType, checkType, ssize, ttype, tsize]

theorem assignPid_room {top max : WORD} (min : WORD) (exhausted : String) (room : top < max)
    (small : min < max) (bound : max.toNat < 2 ^ 16 - 1) :
    ∃ pid, assignPid top min max exhausted = .ok pid ∧ pid ≠ top ∧ pid ≠ 0 := by
  have start : (if top = 0 then min else top).toNat < max.toNat := by
    split
    · exact BitVec.lt_def.mp small
    · exact BitVec.lt_def.mp room
  have next : ((if top = 0 then min else top) + 1).toNat =
      (if top = 0 then min else top).toNat + 1 := by
    rw [BitVec.toNat_add]
    exact Nat.mod_eq_of_lt (show _ + 1 < 2 ^ 16 by omega)
  refine ⟨(if top = 0 then min else top) + 1, ?_, ?_, ?_⟩
  · rw [assignPid, if_neg]
    rw [gt_iff_lt, BitVec.lt_def, next]
    omega
  · intro same
    have same := congrArg BitVec.toNat same
    rw [next] at same
    split at same
    · rename_i zero
      rw [zero] at same
      exact absurd same (Nat.succ_ne_zero _)
    · omega
  · intro zero
    have zero := congrArg BitVec.toNat zero
    rw [next] at zero
    exact absurd zero (Nat.succ_ne_zero _)

/-- With room for it a new task gets a pid, which the counters show. -/
theorem HasRoom.numbers (h : HasRoom k) (type : WORD) :
    ∃ pid k₁, newPid k type = .ok (pid, k₁) ∧ pid ≠ 0 ∧
      (k₁.topspid ≠ k.topspid ∨ k₁.topupid ≠ k.topupid) ∧
      k₁ = { k with topspid := k₁.topspid, topupid := k₁.topupid } := by
  unfold newPid
  split
  · obtain ⟨pid, assigned, new, nonzero⟩ :=
      assignPid_room minspid "REUSESPID" h.sys (by decide) (by decide)
    refine ⟨pid, { k with topspid := pid }, ?_, nonzero, .inl new, rfl⟩
    rw [assigned]
    rfl
  · obtain ⟨pid, assigned, new, nonzero⟩ :=
      assignPid_room minupid "REUSEUPID" h.usr (by decide) (by decide)
    refine ⟨pid, { k with topupid := pid }, ?_, nonzero, .inr new, rfl⟩
    rw [assigned]
    rfl

/-- The new task before its memory is set up. -/
theorem HasRoom.initialises (h : HasRoom k) (type ppid entry privs : WORD) :
    ∃ pid k₁ i, newPid k type = .ok (pid, k₁) ∧
      (k₁.topspid ≠ k.topspid ∨ k₁.topupid ≠ k.topupid) ∧ k₁.mmcbt = k.mmcbt ∧
      taskinit k type ppid entry privs =
        .ok (.ok i, k₁.setTcb i (initTcb (k₁.tct i) pid type ppid entry privs)) := by
  obtain ⟨pid, k₁, assigned, nonzero, counted, only⟩ := h.numbers type
  obtain ⟨i, notInit, free⟩ := h.entry
  have tct : k₁.tct = k.tct := by rw [only]
  have found : freeTcb k₁ ≠ 0 := by
    apply Chain.firstFound_ne_zero notInit
    rw [tct, free]
    rfl
  refine ⟨pid, k₁, freeTcb k₁, assigned, counted, by rw [only], ?_⟩
  rw [taskinit, if_neg (Nat.not_le.mpr h.curtasks), assigned]
  simp only [ok_bind, if_neg nonzero, if_neg found, pure_eq_ok]

/-- Otherwise the setup answers with an error code. -/
theorem setupTaskmem_refuses (task : TCB maxTasks) (unprovided : ¬ Provided k task.taskType)
    {k₁ : Kernel} (assigned : newPid k task.taskType = .ok (task.pid, k₁)) :
    ∃ rc task' t', setupTaskmem task k.mmcbt = .ok (rc, task', t') ∧ rc ≠ eok := by
  by_cases valid : checkType task = eok
  · obtain ⟨failed, served⟩ := setupTaskmem_asks valid k.mmcbt
    have refused : ∃ t, serveAsks k.mmcbt task.pid (asks task.taskType) = .ok (false, t) := by
      by_contra all
      apply unprovided
      refine ⟨(checkType_congr rfl).trans valid, ?_⟩
      intro pid k₂ assigned' t answer
      rw [assigned] at assigned'
      cases assigned'
      exact all ⟨t, answer⟩
    obtain ⟨t, refused⟩ := refused
    cases called : setupTaskmem task k.mmcbt with
    | error e =>
      rw [failed e called] at refused
      cases refused
    | ok result =>
      obtain ⟨rc, task', t'⟩ := result
      refine ⟨rc, task', t', rfl, ?_⟩
      intro ok
      rw [served rc task' t' called, decide_eq_true ok] at refused
      cases refused
  · refine ⟨checkType task, task, k.mmcbt, ?_, valid⟩
    rw [setupTaskmem, if_pos valid]

/-- Provided for, it does not. -/
theorem Provided.accepts (task : TCB maxTasks) (h : Provided k task.taskType)
    {k₁ : Kernel} (assigned : newPid k task.taskType = .ok (task.pid, k₁)) {rc : Int}
    {task' : TCB maxTasks} {t' : MMCBT} (called : setupTaskmem task k.mmcbt = .ok (rc, task', t')) :
    rc = eok := by
  obtain ⟨valid, served⟩ := h
  have valid : checkType task = eok := (checkType_congr rfl).trans valid
  have answer := (setupTaskmem_asks valid k.mmcbt).2 rc task' t' called
  by_contra refused
  rw [decide_eq_false refused] at answer
  exact served _ _ assigned _ answer

end Failure

/-- With an entry and a pid for the new task, a creation that fails leaves the
tables as they were exactly when it cannot fail: nothing is taken back. -/
theorem svcCreprc_undone_iff (k : Kernel) (name : Name) (type entry privs : WORD)
    (room : HasRoom k) :
    (∀ rc k', svcCreprc k name type entry privs = .ok (rc, k') → rc < 0 → SameTables k k') ↔
      Provided k type := by
  obtain ⟨pid, k₁, i, assigned, counted, same, initialised⟩ :=
    room.initialises type k.cur.pid entry privs
  let task : TCB maxTasks := { initTcb (k₁.tct i) pid type k.cur.pid entry privs with
    taskname := name }
  have new : { (k₁.setTcb i (initTcb (k₁.tct i) pid type k.cur.pid entry privs)).tct i with
      taskname := name } = task := by
    rw [Kernel.setTcb_self]
  have mmcbt : (k₁.setTcb i (initTcb (k₁.tct i) pid type k.cur.pid entry privs)).mmcbt =
      k.mmcbt := same
  constructor
  · intro undone
    by_contra unprovided
    obtain ⟨rc, task', t', called, refused⟩ :=
      setupTaskmem_refuses task unprovided assigned
    have made : ∃ k', svcCreprc k name type entry privs = .ok (-1, k') ∧
        k'.topspid = k₁.topspid ∧ k'.topupid = k₁.topupid := by
      refine ⟨{ (k₁.setTcb i (initTcb (k₁.tct i) pid type k.cur.pid entry privs)).setTcb i task'
        with mmcbt := t' }, ?_, rfl, rfl⟩
      rw [svcCreprc, newTask, initialised]
      simp only [ok_bind, new, mmcbt, called, if_neg refused, pure_eq_ok]
    obtain ⟨k', called, sys, usr⟩ := made
    have tables := undone (-1) k' called (by decide)
    rcases counted with moved | moved
    · exact moved (sys.symm.trans tables.topspid)
    · exact moved (usr.symm.trans tables.topupid)
  · intro provided rc k' called negative
    rw [svcCreprc, newTask, initialised] at called
    simp only [ok_bind, new, mmcbt] at called
    obtain ⟨⟨some, k₂⟩, made, rest⟩ := bind_ok.mp called
    obtain ⟨⟨code, task', t'⟩, set, ret⟩ := bind_ok.mp made
    have accepted : code = eok := Provided.accepts task provided assigned set
    cases ret
    rw [if_pos accepted] at rest
    obtain ⟨k₃, added, ret⟩ := bind_ok.mp rest
    cases ret
    omega

theorem boot_hasRoom : HasRoom (boot 0) where
  entry := ⟨1, by decide, by decide +kernel⟩
  curtasks := by decide
  sys := by decide
  usr := by decide

theorem svcCreprc_undone_boot : Provided (boot 0) usrTask ∧
    ∀ rc k', svcCreprc (boot 0) (fun _ => 0x20) usrTask 0 0 = .ok (rc, k') → rc < 0 →
      SameTables (boot 0) k' := by
  have provided : Provided (boot 0) usrTask := by
    refine ⟨by decide, ?_⟩
    intro pid k₁ assigned t answer
    have given : succeeds (newPid (boot 0) usrTask) (fun r => r.1 = 0o101) = true := by
      decide +kernel
    rw [assigned] at given
    have served : succeeds (serveAsks memInit 0o101 (asks usrTask)) (fun r => r.1) = true := by
      decide +kernel
    have given : pid = 0o101 := of_decide_eq_true given
    have answer : serveAsks memInit pid (asks usrTask) = .ok (false, t) := answer
    rw [given] at answer
    rw [answer] at served
    cases served
  exact ⟨provided, (svcCreprc_undone_iff (boot 0) _ usrTask 0 0 boot_hasRoom).mpr provided⟩

/-- INIT fails to create a task of type 3, which keeps its entry and its pid. -/
theorem svcCreprc_leaves_task :
    HasRoom (boot 0) ∧ ∃ rc k', svcCreprc (boot 0) (fun _ => 0x20) 3 0 0 = .ok (rc, k') ∧ rc < 0 ∧
      (k'.tct 1).pid ≠ ((boot 0).tct 1).pid ∧ k'.topupid ≠ (boot 0).topupid ∧
      ¬ SameTables (boot 0) k' := by
  refine ⟨boot_hasRoom, ?_⟩
  have result : succeeds (svcCreprc (boot 0) (fun _ => 0x20) 3 0 0) (fun r => r.1 < 0 ∧
      (r.2.tct 1).pid ≠ ((boot 0).tct 1).pid ∧ r.2.topupid ≠ (boot 0).topupid) = true := by
    decide +kernel
  obtain ⟨⟨rc, k'⟩, called, facts⟩ := succeeds_iff.mp result
  obtain ⟨negative, entry, counter⟩ := of_decide_eq_true facts
  exact ⟨rc, k', called, negative, entry, counter, fun same => counter same.topupid⟩

end Muxx
