import Muxx.Tasks

/-!
# What a creation does

* `Pids`: the pid counters, and that no two tasks have one pid;
* `newPid_ok`: a pid that is handed out is in range and was never used;
* `Made`, `newTask_ok`: a creation fills one free entry of the task table with
  a task that has such a pid and, if it succeeds, memory of its own;
* `boot_pids`: there is only INIT at boot.
-/

namespace Muxx

open Chain Fallible

/-- `pid` is zero or has been handed out. -/
def Assigned (k : Kernel) (pid : WORD) : Prop :=
  pid.toNat ≤ k.topspid.toNat ∨ 0o100 < pid.toNat ∧ pid.toNat ≤ k.topupid.toNat

structure Pids (k : Kernel) : Prop where
  sys : k.topspid.toNat ≤ 0o77
  usr : k.topupid = 0 ∨ 0o100 ≤ k.topupid.toNat ∧ k.topupid.toNat ≤ 0o777
  assigned : ∀ i, Assigned k (k.tct i).pid
  unique : ∀ i j, (k.tct i).pid ≠ 0 → (k.tct i).pid = (k.tct j).pid → i = j

/-- Only the pids and the counters matter. -/
theorem Pids.congr {k k' : Kernel} (h : Pids k) (pid : ∀ i, (k'.tct i).pid = (k.tct i).pid)
    (sys : k'.topspid = k.topspid) (usr : k'.topupid = k.topupid) : Pids k' where
  sys := sys ▸ h.sys
  usr := usr ▸ h.usr
  assigned := fun i => by
    unfold Assigned
    rw [pid i, sys, usr]
    exact h.assigned i
  unique := fun i j => by
    rw [pid i, pid j]
    exact h.unique i j

section NewPid
variable {k k' : Kernel} {top min max pid type : WORD} {exhausted : String}

theorem assignPid_ok (called : assignPid top min max exhausted = .ok pid) :
    pid = (if top = 0 then min else top) + 1 ∧ pid ≤ max := by
  by_cases large : (if top = 0 then min else top) + 1 > max
  · rw [assignPid, if_pos large] at called; cases called
  · rw [assignPid, if_neg large] at called
    cases called
    exact ⟨rfl, BitVec.not_lt.mp large⟩

/-- The counter is one higher, and so is the pid. -/
theorem assignPid_val (called : assignPid top min max exhausted = .ok pid)
    (min_small : min.toNat ≤ 0o100) (top_small : top.toNat ≤ 0o777) :
    pid.toNat = (if top = 0 then min.toNat else top.toNat) + 1 ∧ pid.toNat ≤ max.toNat := by
  obtain ⟨rfl, le⟩ := assignPid_ok called
  refine ⟨?_, BitVec.le_def.mp le⟩
  rw [BitVec.toNat_add]
  split
  · exact Nat.mod_eq_of_lt (by simp; omega)
  · exact Nat.mod_eq_of_lt (by simp; omega)

theorem newPid_ok (h : Pids k) (called : newPid k type = .ok (pid, k')) :
    (1 ≤ pid.toNat ∧ pid.toNat ≤ 0o777) ∧ ¬ Assigned k pid ∧ Assigned k' pid ∧
      (∀ p, Assigned k p → Assigned k' p) ∧
      (k'.topspid.toNat ≤ 0o77 ∧
        (k'.topupid = 0 ∨ 0o100 ≤ k'.topupid.toNat ∧ k'.topupid.toNat ≤ 0o777)) ∧
      k' = { k with topspid := k'.topspid, topupid := k'.topupid } := by
  have sys := h.sys
  have usr := h.usr
  have usr_small : k.topupid.toNat ≤ 0o777 := by
    rcases usr with hz | hb
    · rw [hz]; decide
    · exact hb.2
  unfold newPid at called
  split at called
  · obtain ⟨p, assigned, ret⟩ := bind_ok.mp called
    obtain ⟨val, le⟩ := assignPid_val assigned (by decide) (by omega)
    cases ret
    have le : pid.toNat ≤ 0o77 := le
    have val : pid.toNat = (if k.topspid = 0 then 1 else k.topspid.toNat) + 1 := val
    have above : k.topspid.toNat < pid.toNat := by
      split at val
      · rename_i hz; rw [hz]; simp; omega
      · omega
    unfold Assigned
    exact ⟨⟨by omega, by omega⟩, by omega, .inl (Nat.le_refl _), fun q hq => by simp only; omega,
      ⟨le, usr⟩, rfl⟩
  · obtain ⟨p, assigned, ret⟩ := bind_ok.mp called
    obtain ⟨val, le⟩ := assignPid_val assigned (by decide) (by omega)
    cases ret
    have le : pid.toNat ≤ 0o777 := le
    have val : pid.toNat = (if k.topupid = 0 then 0o100 else k.topupid.toNat) + 1 := val
    have above : k.topupid.toNat < pid.toNat ∧ 0o100 < pid.toNat := by
      split at val
      · rename_i hz; rw [hz]; simp; omega
      · rename_i hz
        have := usr.resolve_left hz
        omega
    unfold Assigned
    exact ⟨⟨by omega, by omega⟩, by omega, .inr ⟨above.2, Nat.le_refl _⟩,
      fun q hq => by simp only; omega, ⟨sys, .inr ⟨Nat.le_of_lt above.2, le⟩⟩, rfl⟩

end NewPid

/-- `k'` is `k` with the new task `tcb` in entry `i` and some of its memory
handed out. -/
structure Made (k : Kernel) (i : Fin maxTasks) (tcb : TCB maxTasks) (k' : Kernel) : Prop where
  entry : i ≠ 0 ∧ (k.tct i).pid = 0
  only : k' = { k with
    tct := Function.update k.tct i tcb
    topspid := k'.topspid, topupid := k'.topupid, mmcbt := k'.mmcbt }
  next : tcb.nextInQueue = (k.tct i).nextInQueue
  prev : tcb.prevInQueue = (k.tct i).prevInQueue
  status : tcb.status = .init
  pid_range : 1 ≤ tcb.pid.toNat ∧ tcb.pid.toNat ≤ 0o777
  unseen : ∀ j, (k.tct j).pid ≠ tcb.pid
  pids : Pids k'

theorem Made.self {k k' : Kernel} {i : Fin maxTasks} {tcb : TCB maxTasks} (h : Made k i tcb k') :
    k'.tct i = tcb := by
  have tct : k'.tct = Function.update k.tct i tcb := by rw [h.only]
  rw [tct, Function.update_self]

theorem Made.other {k k' : Kernel} {i j : Fin maxTasks} {tcb : TCB maxTasks}
    (h : Made k i tcb k') (hj : j ≠ i) : k'.tct j = k.tct j := by
  have tct : k'.tct = Function.update k.tct i tcb := by rw [h.only]
  rw [tct, Function.update_of_ne hj]

/-- Further changes to the new task that keep its pid, status and links. -/
theorem Made.setTcb {k k' : Kernel} {i : Fin maxTasks} {tcb tcb' : TCB maxTasks}
    (h : Made k i tcb k') (pid : tcb'.pid = tcb.pid) (status : tcb'.status = tcb.status)
    (next : tcb'.nextInQueue = tcb.nextInQueue) (prev : tcb'.prevInQueue = tcb.prevInQueue)
    (mmcbt : MMCBT) : Made k i tcb' { k'.setTcb i tcb' with mmcbt := mmcbt } := by
  have tct : k'.tct = Function.update k.tct i tcb := by rw [h.only]
  refine ⟨h.entry, ?_, next.trans h.next, prev.trans h.prev, status.trans h.status,
    pid ▸ h.pid_range, pid ▸ h.unseen, h.pids.congr (fun j => ?_) rfl rfl⟩
  · rw [Kernel.setTcb, tct, Function.update_idem, h.only]
  · by_cases hj : j = i
    · subst hj
      rw [tct, Function.update_self]
      exact (congrArg TCB.pid (k'.setTcb_self j tcb')).trans pid
    · exact congrArg TCB.pid (k'.setTcb_ne tcb' hj)

section NewTask
variable {k k' : Kernel} {rs : List Request} {name : Name} {type entry privs ppid : WORD}

theorem freeTcb_free (h : freeTcb k ≠ 0) : (k.tct (freeTcb k)).pid = 0 :=
  beq_iff_eq.mp (firstFound_free h)

/-- Filling a free entry with a task whose pid is new. -/
theorem Pids.fill (h : Pids k) {i : Fin maxTasks} {tcb : TCB maxTasks}
    (only : k' = { k with
      tct := Function.update k.tct i tcb
      topspid := k'.topspid, topupid := k'.topupid, mmcbt := k'.mmcbt })
    (fresh : ¬ Assigned k tcb.pid) (given : Assigned k' tcb.pid)
    (kept : ∀ p, Assigned k p → Assigned k' p) (sys : k'.topspid.toNat ≤ 0o77)
    (usr : k'.topupid = 0 ∨ 0o100 ≤ k'.topupid.toNat ∧ k'.topupid.toNat ≤ 0o777) : Pids k' := by
  have tct : k'.tct = Function.update k.tct i tcb := by rw [only]
  have unseen (j : Fin maxTasks) : (k.tct j).pid ≠ tcb.pid := fun he => fresh (he ▸ h.assigned j)
  refine ⟨sys, usr, fun j => ?_, fun j l nonzero same => ?_⟩
  · rw [tct]
    by_cases hj : j = i
    · subst hj; rw [Function.update_self]; exact given
    · rw [Function.update_of_ne hj]; exact kept _ (h.assigned j)
  · rw [tct] at nonzero same
    by_cases hj : j = i <;> by_cases hl : l = i
    · rw [hj, hl]
    · subst hj
      rw [Function.update_self, Function.update_of_ne hl] at same
      exact absurd same.symm (unseen l)
    · subst hl
      rw [Function.update_self, Function.update_of_ne hj] at same
      exact absurd same (unseen j)
    · rw [Function.update_of_ne hj] at nonzero
      rw [Function.update_of_ne hj, Function.update_of_ne hl] at same
      exact h.unique j l nonzero same

theorem taskinit_ok (h : Pids k) {i : Fin maxTasks}
    (called : taskinit k type ppid entry privs = .ok (.ok i, k')) :
    Made k i (k'.tct i) k' ∧ k'.mmcbt = k.mmcbt ∧ (k'.tct i).mmuState = {} ∧
      (k'.tct i).privileges = privs ∧ (k'.tct i).ppid = ppid := by
  unfold taskinit at called
  split at called
  · cases called
  obtain ⟨⟨pid, k₁⟩, assigned, rest⟩ := bind_ok.mp called
  obtain ⟨range, fresh, given, kept, ⟨sys, usr⟩, only⟩ := newPid_ok h assigned
  have search := freeTcb_free (k := k₁)
  dsimp only at rest
  split at rest
  · cases rest
  generalize freeTcb k₁ = found at rest search
  split at rest
  · cases rest
  rename_i nonzero
  have tct : k₁.tct = k.tct := by rw [only]
  cases rest
  have new : (k₁.setTcb i (initTcb (k₁.tct i) pid type ppid entry privs)).tct i =
      initTcb (k.tct i) pid type ppid entry privs := by
    rw [Kernel.setTcb_self, tct]
  have only' : k₁.setTcb i (initTcb (k₁.tct i) pid type ppid entry privs) = { k with
      tct := Function.update k.tct i (initTcb (k.tct i) pid type ppid entry privs)
      topspid := k₁.topspid, topupid := k₁.topupid, mmcbt := k₁.mmcbt } := by
    rw [Kernel.setTcb, tct, only]
  rw [new]
  refine ⟨⟨⟨nonzero, tct ▸ search nonzero⟩, only', rfl, rfl, rfl, range, ?_, ?_⟩, ?_, rfl, rfl, rfl⟩
  · intro j he
    have he : (k.tct j).pid = pid := he
    exact fresh (he ▸ h.assigned j)
  · exact h.fill only' fresh given kept sys usr
  · rw [Kernel.setTcb, only]

theorem newPid_panics {e : Fault} (failed : newPid k type = .error e) : ∃ msg, e = .panic msg := by
  have assign {top min max : WORD} {exhausted : String}
      (failed : assignPid top min max exhausted = .error e) : e = .panic exhausted := by
    by_cases large : (if top = 0 then min else top) + 1 > max
    · rw [assignPid, if_pos large] at failed; cases failed; rfl
    · rw [assignPid, if_neg large] at failed; cases failed
  unfold newPid at failed
  split at failed
  · rcases bind_error.mp failed with failed | ⟨p, -, ret⟩
    · exact ⟨_, assign failed⟩
    · cases ret
  · rcases bind_error.mp failed with failed | ⟨p, -, ret⟩
    · exact ⟨_, assign failed⟩
    · cases ret

theorem taskinit_panics {e : Fault} (failed : taskinit k type ppid entry privs = .error e) :
    ∃ msg, e = .panic msg := by
  unfold taskinit at failed
  split at failed
  · cases failed
  rcases bind_error.mp failed with failed | ⟨⟨pid, k₁⟩, -, rest⟩
  · exact newPid_panics failed
  · dsimp only at rest
    split at rest
    · cases rest
    · split at rest
      · cases rest; exact ⟨_, rfl⟩
      · cases rest

theorem taskinit_stops {e : Fault} (failed : taskinit k type ppid entry privs = .error e) :
    e.Stops := by
  obtain ⟨msg, rfl⟩ := taskinit_panics failed
  trivial

/-- A creation touches no null pointer. -/
theorem newTask_faults {e : Fault} (failed : newTask k name type entry privs = .error e) :
    e = .outside ∨ e.Stops := by
  rcases bind_error.mp failed with failed | ⟨⟨pididx, k₁⟩, -, rest⟩
  · exact .inr (taskinit_stops failed)
  · cases pididx with
    | error code => cases rest; exact .inl rfl
    | ok i =>
      rcases bind_error.mp rest with failed | ⟨⟨rc, tcb, mmcbt⟩, -, ret⟩
      · exact .inr (setupTaskmem_stops failed)
      · cases ret

/-- A creation that comes back has filled an entry. The task either has memory
of its own, or no memory at all and the creation failed. -/
theorem newTask_ok (h : Pids k) (memory : Carved k.mmcbt rs) {new : Option (Fin maxTasks)}
    (called : newTask k name type entry privs = .ok (new, k')) :
    ∃ i tcb, Made k i tcb k' ∧ (tcb.privileges = privs ∧ tcb.ppid = k.cur.pid) ∧
      (new = none ∧ k'.mmcbt = k.mmcbt ∧ tcb.mmuState = {} ∨
        new = some i ∧ ∃ task₀, task₀.pid = tcb.pid ∧ task₀.privileges = privs ∧
          SettingUp task₀ rs tcb k'.mmcbt) := by
  obtain ⟨⟨pididx, k₁⟩, initialised, rest⟩ := bind_ok.mp called
  cases pididx with
  | error _ => cases rest
  | ok i =>
    obtain ⟨⟨rc, tcb, mmcbt⟩, setUp, ret⟩ := bind_ok.mp rest
    obtain ⟨made, same_mmcbt, unmapped, priv, parent⟩ := taskinit_ok h initialised
    cases ret
    let fresh : FreshTask maxTasks :=
      ⟨{ k₁.tct i with taskname := name }, made.pid_range, unmapped⟩
    rw [same_mmcbt] at setUp
    refine ⟨i, tcb, ?_⟩
    rcases setupTaskmem_ok fresh memory setUp with ⟨rfl, rfl, rfl⟩ | ⟨rfl, settingUp⟩
    · refine ⟨made.setTcb ?_ ?_ ?_ ?_ _, ⟨priv, parent⟩, .inl ⟨rfl, rfl, unmapped⟩⟩ <;> rfl
    · have same := settingUp.same
      have pid : tcb.pid = (k₁.tct i).pid := by rw [same]
      refine ⟨made.setTcb pid ?_ ?_ ?_ _, ⟨?_, ?_⟩,
        .inr ⟨rfl, fresh.task, pid.symm, priv, settingUp⟩⟩
      · rw [same]
      · rw [same]
      · rw [same]
      · rw [same]; exact priv
      · rw [same]; exact parent

end NewTask

theorem boot_self (entry : ADDRESS) :
    (boot entry).tct 0 = { fakeproc entry with status := .run } := by
  simp only [boot, muxxSwitch, Kernel.modify, Kernel.setTcb_self, if_true]

theorem boot_other (entry : ADDRESS) {i : Fin maxTasks} (h : i ≠ 0) : (boot entry).tct i = {} := by
  simp only [boot, muxxSwitch, Kernel.modify, Kernel.setTcb_ne _ _ h, if_neg h]

theorem boot_pid (entry : ADDRESS) (i : Fin maxTasks) :
    ((boot entry).tct i).pid = if i = 0 then 1 else 0 := by
  by_cases h : i = 0
  · rw [if_pos h, h, boot_self]; rfl
  · rw [if_neg h, boot_other entry h]

theorem boot_pids (entry : ADDRESS) : Pids (boot entry) := by
  refine ⟨(by decide : (1 : WORD).toNat ≤ 0o77), .inl rfl, fun i => .inl ?_, fun i j => ?_⟩
  · show (((boot entry).tct i).pid).toNat ≤ 1
    rw [boot_pid]
    split <;> decide
  · rw [boot_pid, boot_pid]
    split <;> split <;> simp_all

end Muxx
