import Muxx.Lib.Run
import Muxx.Dispatch

/-!
# Memory protection

muxx_svc_protmem of muxx_protmem_svc.c, and runs of creation, dispatch and
protmem calls:

* `OwnedIn`: the physical memory a task was given;
* `TaskConfined`: what the page registers of an unprivileged task allow;
* `Guarded`: the invariant of the runs;
* `writes_owned`: what an unprivileged task can write is its own.
-/

namespace Muxx

open Chain Fallible Run

/-- The checks of muxx_svc_protmem. -/
def protmemCheck (k : Kernel) (pid page prot : WORD) : Int :=
  if prot ≠ pdrAccRw ∧ prot ≠ pdrAccRo ∧ prot ≠ pdrAccNa then einvval
  else if (pid ≠ k.cur.pid ∧ pid ≠ 0) ∧ ¬ k.cur.operprv then enopriv
  else if page > 7 then einvval
  else if page ≤ 2 ∧ ¬ k.cur.operprv then enopriv
  else eok

/-- A descriptor with a new access field. -/
def setAccess (pdr prot : WORD) : WORD := (pdr &&& 0xfff8) ||| prot

def MMUSTATE.setPdr (m : MMUSTATE) (page : Fin 8) (pdr : WORD) : MMUSTATE :=
  { m with updr := Function.update m.updr page pdr, kpdr := Function.update m.kpdr page pdr }

def TCB.setPdr {n : Nat} (t : TCB n) (page : Fin 8) (pdr : WORD) : TCB n :=
  { t with mmuState := t.mmuState.setPdr page pdr }

/-- The page number as an index, once it has passed the check. -/
def pageIndex (page : WORD) : Fin 8 := Fin.ofNat 8 page.toNat

/-- The new descriptor goes to the task and to the registers in use, for user
and kernel mode alike. -/
def svcProtmem (k : Kernel) (pid page prot : WORD) : Int × Kernel :=
  let rc := protmemCheck k pid page prot
  if rc ≠ eok then (rc, k)
  else
    match if pid = 0 then some k.curtcb else findtcb k pid with
    | none => (enotfound, k)
    | some tcb =>
      let pdr := setAccess ((k.tct tcb).mmuState.updr (pageIndex page)) prot
      let k := k.modify tcb fun t => t.setPdr (pageIndex page) pdr
      (eok, { k with mmu := k.mmu.setPdr (pageIndex page) pdr })

def TaskOp.creates : TaskOp → Bool
  | .creprc .. | .loadprc .. => true
  | _ => false

inductive CallOp
  | task (op : TaskOp)
  | protmem (pid page prot : WORD)

def CallOp.step (s : TaskRun) : CallOp → Except Fault TaskRun
  | .task op => s.step op
  | .protmem pid page prot => .ok { s with kernel := (svcProtmem s.kernel pid page prot).2 }

/-- Calls of protmem come from tasks without OPERPRV, and suspensions are of
tasks. -/
def CallOp.InScope (s : TaskRun) : CallOp → Prop
  | .task op => op.OnTask s
  | .protmem .. => s.kernel.cur.operprv = false

/-- A call of protmem that passes the checks and asks for write access is made
by a task with IOPRV, or for a page other than 7 that the caller has mapped. -/
def CallOp.Mapped (s : TaskRun) : CallOp → Prop
  | .task _ => True
  | .protmem pid page prot =>
    let k := s.kernel
    protmemCheck k pid page prot = eok → prot = pdrAccRw →
      k.cur.ioprv = true ∨ page ≠ 7 ∧ k.cur.mmuState.upar (pageIndex page) ≠ 0

/-- What a task without OPERPRV and IOPRV can write belongs to it. -/
def Confined (k : Kernel) : Prop :=
  ∀ i, (k.tct i).pid ≠ 0 → (k.tct i).operprv = false → (k.tct i).ioprv = false →
    ∀ page a, Writes ((k.tct i).mmuState.upar page) ((k.tct i).mmuState.updr page) a →
      Owned k.mmcbt (k.tct i).pid a

/-! ## Ownership -/

/-- Block `a` was handed out to `pid` by one of the requests. -/
def OwnedIn (rs : List Request) (pid : WORD) (a : Nat) : Prop :=
  ∃ xs r ys, rs = xs ++ r :: ys ∧ r.pid = pid ∧
    0o700 + total xs ≤ a ∧ a < 0o700 + total xs + r.numBlocks.toNat

section Ownership
variable {t : MMCBT} {rs new : List Request} {pid : WORD} {a : Nat}

theorem OwnedIn.owned (h : OwnedIn rs pid a) (carved : Carved t rs) : Owned t pid a := by
  obtain ⟨xs, r, ys, rfl, rfl, low, high⟩ := h
  exact carved.owned low high

theorem OwnedIn.append (h : OwnedIn rs pid a) (new : List Request) :
    OwnedIn (rs ++ new) pid a := by
  obtain ⟨xs, r, ys, rfl, owner, range⟩ := h
  exact ⟨xs, r, ys ++ new, by simp, owner, range⟩

/-- Requests of one task own the run of memory they get. -/
theorem ownedIn_run (own : ∀ r ∈ new, r.pid = pid) (low : 0o700 + total rs ≤ a)
    (high : a < 0o700 + total (rs ++ new)) : OwnedIn (rs ++ new) pid a := by
  induction new generalizing rs with
  | nil => rw [List.append_nil] at high; omega
  | cons r new ih =>
    by_cases first : a < 0o700 + total rs + r.numBlocks.toNat
    · exact ⟨rs, r, new, rfl, own r List.mem_cons_self, low, first⟩
    · rw [show rs ++ r :: new = (rs ++ [r]) ++ new by simp] at high ⊢
      refine ih (fun q hq => own q (List.mem_cons_of_mem _ hq)) ?_ high
      simp only [total_append, total_cons, total_nil]
      omega

end Ownership

/-! ## The invariant -/

/-- The shared pages and the I/O page cannot be written; a private page either
is not mapped and cannot be written, or spans memory of the task. -/
structure TaskConfined (rs : List Request) (t : TCB maxTasks) : Prop where
  shared : ∀ page : Fin 8, page.val < 3 ∨ page.val = 7 → writable (t.mmuState.updr page) = false
  own : ∀ page : Fin 8, 3 ≤ page.val → page.val ≤ 6 →
    t.mmuState.upar page = 0 ∧ writable (t.mmuState.updr page) = false ∨
    ∀ a, Spans (t.mmuState.upar page) (t.mmuState.updr page) a → OwnedIn rs t.pid a

structure Guarded (k : Kernel) (rs : List Request) : Prop where
  pids : Pids k
  memory : Carved k.mmcbt rs
  mmu : k.mmu = k.cur.mmuState
  within : Within (fun i => (k.tct i).pid ≠ 0) k
  confined : ∀ i, (k.tct i).pid ≠ 0 → (k.tct i).operprv = false → (k.tct i).ioprv = false →
    TaskConfined rs (k.tct i)

section Tasks
variable {k k' : Kernel} {rs new : List Request} {t : TCB maxTasks}

theorem TaskConfined.append (h : TaskConfined rs t) (new : List Request) :
    TaskConfined (rs ++ new) t :=
  ⟨h.shared, fun page low high => (h.own page low high).imp_right fun spans a ha =>
    (spans a ha).append new⟩

/-- The registers of a task that has just been set up. -/
theorem SettingUp.confined {task₀ : TCB maxTasks} (h : SettingUp task₀ rs t k.mmcbt) :
    ∃ new, Carved k.mmcbt (rs ++ new) ∧
      (t.operprv = false → t.ioprv = false → TaskConfined (rs ++ new) t) := by
  obtain ⟨new, carved, own, lies⟩ := h.run
  refine ⟨new, carved, fun oper io => ?_⟩
  have pid : t.pid = task₀.pid := by rw [h.same]
  have oper₀ : task₀.operprv = false := by rw [h.same] at oper; exact oper
  have io₀ : task₀.ioprv = false := by rw [h.same] at io; exact io
  refine ⟨h.shared (by simp [oper₀]) (by simp [io₀]), fun page low high => ?_⟩
  rcases (lies page low high).1 with ⟨par, pdr⟩ | spans
  · exact .inl ⟨par, by rw [pdr]; decide⟩
  · refine .inr fun a ha => ?_
    rw [pid]
    exact ownedIn_run own (spans a ha).1 (spans a ha).2

/-- A task without memory. -/
theorem unmapped_confined (unmapped : t.mmuState = {}) : TaskConfined rs t := by
  refine ⟨fun page _ => ?_, fun page _ _ => .inl ?_⟩
  · rw [unmapped]
    exact (by decide : writable 0 = false)
  · rw [unmapped]
    exact ⟨rfl, (by decide : writable 0 = false)⟩

theorem Guarded.writes (h : Guarded k rs) : Confined k := by
  intro i nonzero oper io page a writes
  obtain ⟨shared, own⟩ := h.confined i nonzero oper io
  rcases (by omega : (page.val < 3 ∨ page.val = 7) ∨ (3 ≤ page.val ∧ page.val ≤ 6)) with
    fixed | ⟨low, high⟩
  · exact absurd writes.1 (by rw [shared page fixed]; decide)
  · rcases own page low high with ⟨-, closed⟩ | spans
    · exact absurd writes.1 (by rw [closed]; decide)
    · exact (spans a writes.2).owned h.memory

/-- A step that only moves tasks about. -/
theorem Guarded.move (h : Guarded k rs) (moved : Moved k k')
    (within : Within (fun i => (k.tct i).pid ≠ 0) k') : Guarded k' rs := by
  obtain ⟨mmuState, mmu⟩ := moved.mmu h.mmu
  refine ⟨moved.pids h.pids, moved.mmcbt ▸ h.memory, mmu, ?_, fun i nonzero oper io => ?_⟩
  · have same : (fun i => (k'.tct i).pid ≠ 0) = fun i => (k.tct i).pid ≠ 0 :=
      funext fun i => by rw [moved.pid]
    rw [same]
    exact within
  · unfold TCB.operprv at oper
    unfold TCB.ioprv at io
    rw [moved.privileges] at oper io
    rw [moved.pid] at nonzero
    obtain ⟨shared, own⟩ := h.confined i nonzero oper io
    refine ⟨?_, ?_⟩
    · rw [mmuState]; exact shared
    · rw [mmuState, moved.pid]; exact own

/-- The new task is confined to what its setup asked for. -/
theorem Guarded.made (h : Guarded k rs) {i : Fin maxTasks} (made : Made k i t k')
    (memory : Carved k'.mmcbt (rs ++ new))
    (confined : t.operprv = false → t.ioprv = false → TaskConfined (rs ++ new) t) :
    Guarded k' (rs ++ new) := by
  have new_pid : (k'.tct i).pid ≠ 0 := by
    rw [made.self]
    intro hz
    have := made.pid_range.1
    rw [hz] at this
    exact absurd this (by decide)
  have notCur : k.curtcb ≠ i := fun he => h.within.cur (he ▸ made.entry.2)
  refine ⟨made.pids, memory, ?_, h.within.made made fun j hj => ?_, fun j nonzero oper io => ?_⟩
  · have mmu : k'.mmu = k.mmu := by rw [made.only]
    have curtcb : k'.curtcb = k.curtcb := by rw [made.only]
    rw [mmu, h.mmu, Kernel.cur, Kernel.cur, curtcb, made.other notCur]
  · by_cases he : j = i
    · rw [he]; exact new_pid
    · rw [made.other he]; exact hj
  · by_cases he : j = i
    · subst he
      rw [made.self] at oper io ⊢
      exact confined oper io
    · rw [made.other he] at nonzero oper io ⊢
      exact (h.confined j nonzero oper io).append new

end Tasks

section Protmem
variable {k : Kernel} {rs : List Request} {pid page prot : WORD}

theorem setAccess_closed (pdr : WORD) (readonly : prot = pdrAccRo ∨ prot = pdrAccNa) :
    writable (setAccess pdr prot) = false := by
  have field : acf (setAccess pdr prot) = prot &&& 7 := by
    unfold acf setAccess
    rw [BitVec.and_or_distrib_right, BitVec.and_assoc]
    simp
  unfold writable
  rw [field]
  rcases readonly with rfl | rfl <;> decide

theorem setAccess_spans (par pdr : WORD) {a : Nat} (known : prot &&& 0xfff8 = 0) :
    Spans par (setAccess pdr prot) a ↔ Spans par pdr a := by
  apply spans_access
  unfold setAccess
  rw [BitVec.and_or_distrib_right, BitVec.and_assoc, known]
  simp

/-- The pid of a task leads to it. -/
theorem findtcb_pid (h : Pids k) (task : Fin maxTasks) (nonzero : (k.tct task).pid ≠ 0) :
    findtcb k (k.tct task).pid = some task := by
  obtain ⟨j, found⟩ := findtcb_some k task
  rw [found]
  rw [findtcb, if_neg nonzero] at found
  have passed := List.find?_some found
  have same : (k.tct j).pid = (k.tct task).pid := beq_iff_eq.mp passed
  rw [h.unique j task (same ▸ nonzero) same]

theorem findtcb_cur (h : Pids k) (nonzero : k.cur.pid ≠ 0) :
    findtcb k k.cur.pid = some k.curtcb :=
  findtcb_pid h k.curtcb nonzero

/-- A granted call of a task without OPERPRV is about a private page or page 7
of the task itself. -/
theorem protmemCheck_granted (h : Pids k) (unprivileged : k.cur.operprv = false)
    (granted : protmemCheck k pid page prot = eok) :
    (prot = pdrAccRw ∨ prot = pdrAccRo ∨ prot = pdrAccNa) ∧
      (pageIndex page).val = page.toNat ∧ 3 ≤ page.toNat ∧ page.toNat ≤ 7 ∧
      (if pid = 0 then some k.curtcb else findtcb k pid) = some k.curtcb := by
  unfold protmemCheck at granted
  split_ifs at granted with bad foreign large low
  · exact absurd granted (by decide)
  · exact absurd granted (by decide)
  · exact absurd granted (by decide)
  · exact absurd granted (by decide)
  · have large : page.toNat ≤ 7 := by
      simpa [BitVec.lt_def] using large
    have low : 3 ≤ page.toNat := by
      rw [unprivileged] at low
      simp only [Bool.false_eq_true, not_false_eq_true, and_true, BitVec.le_def, not_le] at low
      exact low
    refine ⟨?_, Nat.mod_eq_of_lt (by omega), low, large, ?_⟩
    · by_contra none
      exact bad (by simpa [not_or] using none)
    · by_cases zero : pid = 0
      · rw [if_pos zero]
      · rw [if_neg zero]
        have own : pid = k.cur.pid := by
          by_contra other
          exact foreign ⟨⟨other, zero⟩, by simp [unprivileged]⟩
        rw [own]
        exact findtcb_cur h (own ▸ zero)

/-- What a granted call of a task without OPERPRV does. -/
theorem svcProtmem_granted (h : Pids k) (unprivileged : k.cur.operprv = false)
    (granted : protmemCheck k pid page prot = eok) :
    let pdr := setAccess (k.cur.mmuState.updr (pageIndex page)) prot
    (svcProtmem k pid page prot).2 =
      { k.modify k.curtcb fun t => t.setPdr (pageIndex page) pdr with
        mmu := k.mmu.setPdr (pageIndex page) pdr } := by
  obtain ⟨-, -, -, -, target⟩ := protmemCheck_granted h unprivileged granted
  unfold svcProtmem
  simp only [granted, target, ne_eq, not_true_eq_false, if_false]
  rfl

/-- Changing the access to one of its pages keeps a task confined, unless the
page is opened without being mapped. -/
theorem TaskConfined.change {t : TCB maxTasks} (h : TaskConfined rs t) {page : Fin 8}
    (private_page : 3 ≤ page.val) (known : prot = pdrAccRw ∨ prot = pdrAccRo ∨ prot = pdrAccNa)
    (mapped : prot = pdrAccRw → page.val ≠ 7 ∧ t.mmuState.upar page ≠ 0) :
    TaskConfined rs (t.setPdr page (setAccess (t.mmuState.updr page) prot)) := by
  have mask : prot &&& 0xfff8 = 0 := by
    rcases known with rfl | rfl | rfl <;> decide
  have closed (notRw : prot ≠ pdrAccRw) :=
    setAccess_closed (t.mmuState.updr page) (known.resolve_left notRw)
  refine ⟨fun p hp => ?_, fun p low high => ?_⟩
  · by_cases he : p = page
    · subst he
      simp only [TCB.setPdr, MMUSTATE.setPdr, Function.update_self]
      exact closed fun rw => (mapped rw).1 (by omega)
    · simp only [TCB.setPdr, MMUSTATE.setPdr, Function.update_of_ne he]
      exact h.shared p hp
  · by_cases he : p = page
    · subst he
      simp only [TCB.setPdr, MMUSTATE.setPdr, Function.update_self, setAccess_spans _ _ mask]
      rcases h.own p low high with ⟨unmapped, -⟩ | spans
      · exact .inl ⟨unmapped, closed fun rw => (mapped rw).2 unmapped⟩
      · exact .inr spans
    · simp only [TCB.setPdr, MMUSTATE.setPdr, Function.update_of_ne he]
      exact h.own p low high

theorem Guarded.protmem (h : Guarded k rs) (unprivileged : k.cur.operprv = false)
    (mapped : protmemCheck k pid page prot = eok → prot = pdrAccRw →
      k.cur.ioprv = true ∨ page ≠ 7 ∧ k.cur.mmuState.upar (pageIndex page) ≠ 0) :
    Guarded (svcProtmem k pid page prot).2 rs := by
  by_cases granted : protmemCheck k pid page prot = eok
  · obtain ⟨known, index, low, high, -⟩ := protmemCheck_granted h.pids unprivileged granted
    rw [svcProtmem_granted h.pids unprivileged granted]
    let f (t : TCB maxTasks) : TCB maxTasks :=
      t.setPdr (pageIndex page) (setAccess (k.cur.mmuState.updr (pageIndex page)) prot)
    have self : (k.modify k.curtcb f).tct k.curtcb = f k.cur := Kernel.setTcb_self ..
    have other {j : Fin maxTasks} (hj : j ≠ k.curtcb) : (k.modify k.curtcb f).tct j = k.tct j :=
      Kernel.setTcb_ne _ _ hj
    have pid (j : Fin maxTasks) : ((k.modify k.curtcb f).tct j).pid = (k.tct j).pid := by
      by_cases hj : j = k.curtcb
      · rw [hj, self]; rfl
      · rw [other hj]
    have within := h.within.modify (f := f) (i := k.curtcb) rfl rfl
    refine ⟨h.pids.congr pid rfl rfl, h.memory, ?_, ?_, fun j nonzero oper io => ?_⟩
    · show _ = ((k.modify k.curtcb f).tct k.curtcb).mmuState
      rw [self, h.mmu]
      rfl
    · have same : (fun i => ((k.modify k.curtcb f).tct i).pid ≠ 0) = fun i => (k.tct i).pid ≠ 0 :=
        funext fun i => by rw [pid]
      show Within (fun i => ((k.modify k.curtcb f).tct i).pid ≠ 0) _
      rw [same]
      exact ⟨within.cur, within.links, within.ready, within.susp⟩
    · by_cases hj : j = k.curtcb
      · subst hj
        show TaskConfined rs ((k.modify k.curtcb f).tct k.curtcb)
        have nonzero : ((k.modify k.curtcb f).tct k.curtcb).pid ≠ 0 := nonzero
        have io : ((k.modify k.curtcb f).tct k.curtcb).ioprv = false := io
        rw [self] at nonzero io ⊢
        refine (h.confined k.curtcb nonzero unprivileged io).change (index ▸ low) known fun rw => ?_
        rcases mapped granted rw with io' | ⟨not7, par⟩
        · exact absurd (io'.symm.trans io) (by decide)
        · refine ⟨fun h7 => not7 ?_, par⟩
          exact BitVec.eq_of_toNat_eq (index.symm.trans h7)
      · have same : (k.modify k.curtcb f).tct j = k.tct j := other hj
        show TaskConfined rs ((k.modify k.curtcb f).tct j)
        have nonzero : ((k.modify k.curtcb f).tct j).pid ≠ 0 := nonzero
        have oper : ((k.modify k.curtcb f).tct j).operprv = false := oper
        have io : ((k.modify k.curtcb f).tct j).ioprv = false := io
        rw [same] at nonzero oper io ⊢
        exact h.confined j nonzero oper io
  · have : (svcProtmem k pid page prot).2 = k := by
      unfold svcProtmem
      rw [if_pos granted]
    rw [this]
    exact h

end Protmem

section Steps
variable {k k' : Kernel} {s s' : TaskRun} {rs : List Request}

theorem Guarded.newTask (h : Guarded k rs) {name : Name} {type entry privs : WORD}
    {new : Option (Fin maxTasks)} (called : newTask k name type entry privs = .ok (new, k')) :
    ∃ rs', Guarded k' rs' ∧ ∀ i, new = some i → (k'.tct i).pid ≠ 0 := by
  obtain ⟨i, tcb, made, -, outcome⟩ := newTask_ok h.pids h.memory called
  have live : (k'.tct i).pid ≠ 0 := by
    rw [made.self]
    intro hz
    have := made.pid_range.1
    rw [hz] at this
    exact absurd this (by decide)
  rcases outcome with ⟨rfl, same, unmapped⟩ | ⟨rfl, task₀, -, -, settingUp⟩
  · have memory : Carved k'.mmcbt (rs ++ []) := by
      rw [same, List.append_nil]
      exact h.memory
    exact ⟨rs ++ [], h.made made memory fun _ _ => unmapped_confined unmapped, by simp⟩
  · obtain ⟨new, carved, confined⟩ := settingUp.confined
    refine ⟨rs ++ new, h.made made carved confined, ?_⟩
    rintro j ⟨⟩
    exact live

theorem Guarded.addReady (h : Guarded k rs) {i : Fin maxTasks} (live : (k.tct i).pid ≠ 0)
    (called : k.addReady i = .ok k') : Guarded k' rs :=
  h.move (addReady_only called).moved (h.within.addReady live called)

/-- A step of the tasks makes a task, which may become ready, or moves them about. -/
theorem TaskRun.step_cases {op : TaskOp} (called : s.step op = .ok s') :
    (op.creates = true ∧ ∃ name type entry privs new k₁,
      newTask s.kernel name type entry privs = .ok (new, k₁) ∧
        (s'.kernel = k₁ ∨ ∃ i, new = some i ∧ k₁.addReady i = .ok s'.kernel)) ∨
    (∀ R, Throughout R → R s.kernel s'.kernel) ∧ ∀ P, Within P s.kernel →
      (∀ fp task, op = .suspend fp task → P (suspendTarget s.kernel task)) → Within P s'.kernel := by
  cases op with
  | creprc name type entry privs =>
    left
    obtain ⟨⟨rc, k'⟩, created, ret⟩ := bind_ok.mp called
    obtain ⟨⟨new, k₁⟩, made, rest⟩ := bind_ok.mp created
    cases ret
    refine ⟨rfl, name, type, entry, privs, new, k₁, made, ?_⟩
    cases new with
    | none =>
      cases rest
      exact .inl rfl
    | some i =>
      obtain ⟨k₂, added, ret⟩ := bind_ok.mp rest
      cases ret
      exact .inr ⟨i, rfl, added⟩
  | loadprc name type rshell file privs =>
    left
    obtain ⟨⟨rc, k'⟩, created, ret⟩ := bind_ok.mp called
    obtain ⟨⟨new, k₁⟩, made, rest⟩ := bind_ok.mp created
    cases ret
    refine ⟨rfl, name, type, rshell, privs, new, k₁, made, ?_⟩
    cases new with
    | none =>
      cases rest
      exact .inl rfl
    | some i =>
      obtain ⟨copied, -, rest⟩ := bind_ok.mp rest
      split at rest
      · obtain ⟨k₂, added, ret⟩ := bind_ok.mp rest
        cases ret
        exact .inr ⟨i, rfl, added⟩
      · cases rest
  | yield fp =>
    right
    obtain ⟨k', yielded, ret⟩ := bind_ok.mp called
    cases ret
    exact ⟨fun R h => h.svcYield yielded, fun P within _ => within.svcYield yielded⟩
  | suspend fp task =>
    right
    obtain ⟨⟨rc, k'⟩, suspended, ret⟩ := bind_ok.mp called
    cases ret
    exact ⟨fun R h => h.svcSuspend suspended, fun P within given =>
      within.svcSuspend (given fp task rfl) suspended⟩
  | quantum fp =>
    right
    obtain ⟨k', expired, ret⟩ := bind_ok.mp called
    cases ret
    exact ⟨fun R h => h.checkQuantums expired, fun P within _ => within.checkQuantums expired⟩

theorem Guarded.step (h : Guarded s.kernel rs) (op : CallOp) (inScope : op.InScope s)
    (mapped : op.Mapped s) (called : op.step s = .ok s') : ∃ rs', Guarded s'.kernel rs' := by
  cases op with
  | protmem pid page prot =>
    cases called
    exact ⟨rs, h.protmem inScope mapped⟩
  | task op =>
    rcases TaskRun.step_cases called with ⟨-, name, type, entry, privs, new, k₁, made, outcome⟩ |
        ⟨moved, within⟩
    · obtain ⟨rs', guarded, live⟩ := h.newTask made
      rcases outcome with rfl | ⟨i, some, added⟩
      · exact ⟨rs', guarded⟩
      · exact ⟨rs', guarded.addReady (live i some) added⟩
    · refine ⟨rs, h.move (moved _ moved_throughout) (within _ h.within ?_)⟩
      rintro fp task rfl
      exact inScope

end Steps

theorem boot_guarded (entry : ADDRESS) : Guarded (boot entry) [] where
  pids := boot_pids entry
  memory := carved_init
  mmu := by
    show initMmu = ((boot entry).tct 0).mmuState
    rw [boot_self]
    rfl
  within := by
    have unlinked (i : Fin maxTasks) :
        nextOf (boot entry).tct i = none ∧ prevOf (boot entry).tct i = none := by
      unfold nextOf prevOf
      by_cases h : i = 0
      · rw [h, boot_self]
        exact ⟨rfl, rfl⟩
      · rw [boot_other entry h]
        exact ⟨rfl, rfl⟩
    refine ⟨?_, fun i t link => ?_, fun t ht => ht.elim nofun nofun, fun t ht => ht.elim nofun nofun⟩
    · show ((boot entry).tct 0).pid ≠ 0
      rw [boot_pid]
      decide
    · rw [(unlinked i).1, (unlinked i).2] at link
      exact link.elim nofun nofun
  confined := by
    intro i nonzero oper
    have zero : i = 0 := by
      by_contra h
      exact nonzero ((boot_pid entry i).trans (if_neg h))
    subst zero
    rw [boot_self] at oper
    exact absurd oper (by decide : ¬ (7 : WORD).getLsbD 0 = false)

/-- In every run from boot in which unprivileged callers of protmem open only
pages they have mapped, a task without OPERPRV and IOPRV can write no memory
but its own, through its saved registers and so through those in use. -/
theorem writes_owned (entry : ADDRESS) (s : TaskRun)
    (h : Reachable CallOp.step (fun s op => op.InScope s ∧ op.Mapped s) (bootRun entry) s) :
    Confined s.kernel ∧ s.kernel.mmu = s.kernel.cur.mmuState := by
  have invariant : ∃ rs, Guarded s.kernel rs := by
    refine Reachable.invariant (fun s => ∃ rs, Guarded s.kernel rs) ⟨[], boot_guarded entry⟩ ?_ h
    rintro s op s' ⟨rs, guarded⟩ ⟨inScope, mapped⟩ stepped
    exact guarded.step op inScope mapped stepped
  obtain ⟨rs, guarded⟩ := invariant
  exact ⟨guarded.writes, guarded.mmu⟩

instance (s : TaskRun) (op : CallOp) : Decidable (op.InScope s) := by
  cases op <;> unfold CallOp.InScope <;> infer_instance

instance (s : TaskRun) (op : CallOp) : Decidable (op.Mapped s) := by
  cases op <;> unfold CallOp.Mapped <;> infer_instance

/-- INIT creates a small task, which closes its only page and opens it again. -/
theorem writes_owned_run :
    ∃ s, exec CallOp.step (bootRun 0) [.task (.creprc (fun _ => 0x20) usrTask 0 0),
      .task (.quantum {}), .protmem 0 3 pdrAccNa, .protmem 0 3 pdrAccRw] = .ok s ∧
        Confined s.kernel := by
  let ops : List CallOp := [.task (.creprc (fun _ => 0x20) usrTask 0 0), .task (.quantum {}),
    .protmem 0 3 pdrAccNa, .protmem 0 3 pdrAccRw]
  have meets : Meets CallOp.step (fun s op => op.InScope s ∧ op.Mapped s) (bootRun 0) ops := by
    decide +kernel
  have returns : (exec CallOp.step (bootRun 0) ops).isOk = true := by decide +kernel
  obtain ⟨s, ran⟩ := isOk_iff.mp returns
  exact ⟨s, ran, (writes_owned 0 s (reachable_exec meets ran)).1⟩

/-- A small task opens page 4, which it has not mapped, and can write the
first block of the kernel. -/
theorem protmem_opens_kernel :
    ∃ s, Reachable CallOp.step (fun s op => op.InScope s) (bootRun 0) s ∧ ¬ Confined s.kernel := by
  let ops : List CallOp := [.task (.creprc (fun _ => 0x20) usrTask 0 0), .task (.quantum {}),
    .protmem 0 4 pdrAccRw]
  have meets : Meets CallOp.step (fun s op => op.InScope s) (bootRun 0) ops := by decide +kernel
  have result : succeeds (exec CallOp.step (bootRun 0) ops) (fun s =>
      (s.kernel.tct 1).pid ≠ 0 ∧ (s.kernel.tct 1).operprv = false ∧
      (s.kernel.tct 1).ioprv = false ∧ (s.kernel.tct 1).mmuState.upar 4 = 0 ∧
      (s.kernel.tct 1).mmuState.updr 4 = 6 ∧
      ¬ Owned s.kernel.mmcbt (s.kernel.tct 1).pid 0) = true := by decide +kernel
  obtain ⟨s, ran, facts⟩ := succeeds_iff.mp result
  obtain ⟨nonzero, oper, io, par, pdr, foreign⟩ := of_decide_eq_true facts
  refine ⟨s, reachable_exec meets ran, fun confined => foreign ?_⟩
  apply confined 1 nonzero oper io 4 0
  rw [par, pdr]
  exact ⟨by decide, 0, by decide, rfl⟩

end Muxx
