import Muxx.Mapping
import Muxx.Overwrites

/-!
# The name a loading task is given

muxx_svc_loadprc copies the name of the device into the new task, as many bytes
as strlen counts:

* `strlen_ok`: what strlen counts;
* `newTask_freeFits`: free memory stays within memory, so that the new task's does too;
* `svcLoadprc_moves`: the copy that a creation makes;
* `NewTask.plain_iff`: for a plain name the byte behind it decides;
* `name_arrives_iff`: when the task finds the name there as a string.
-/

namespace Muxx

open Copy Run Fallible

namespace Core

/-- The loop of strlen. Without a NUL it goes round the address space for ever. -/
def strlenFrom (bus : ADDRESS → Bool) (m : Core) (s : ADDRESS) : Nat → Except Fault Nat
  | 0 => .error .hang
  | fuel + 1 => do
    let b ← loadByte bus m.mem s
    if b = 0 then
      return 0
    else
      return (← m.strlenFrom bus (s + 1) fuel) + 1

def strlen (bus : ADDRESS → Bool) (m : Core) (s : ADDRESS) : Except Fault Nat :=
  m.strlenFrom bus s 65536

/-- `rshell` is the address of that function, `file` the address of the name. -/
def svcLoadprc (bus : ADDRESS → Bool) (m : Core) (name : Name) (type rshell : WORD)
    (file : ADDRESS) (privs : WORD) : Except Fault (Int × Core) := do
  let (new, k) ← newTask m.kernel name type rshell privs
  let m : Core := ⟨k, m.mem⟩
  match new with
  | none => return (-1, m)
  | some i =>
    let n ← m.strlen bus file
    let (rc, m) ← svcXcopy bus m (k.tct i).pid taskBase k.cur.pid file (BitVec.ofNat 16 n)
    if rc ≥ 0 then
      let k ← m.kernel.addReady i
      return ((k.tct i).pid.toNat, ⟨k, m.mem⟩)
    else throw (.panic "Abort creating task - LOADPRC")

end Core

/-- The bytes of the string with its NUL. -/
def cString (s : List BYTE) : List BYTE := s ++ [0]

/-- Kernel mode finds the string at `file`. -/
structure FileName (bus : ADDRESS → Bool) (mem : Nat → BYTE) (file : ADDRESS) (s : List BYTE) :
    Prop where
  plain : 0 ∉ s
  bytes : ∀ i (h : i < (cString s).length), loadByte bus mem (onward file i) = .ok (cString s)[i]

/-- The task can read the address. -/
def Kernel.TaskLoads (k : Kernel) (task : Fin maxTasks) (addr : ADDRESS) : Prop :=
  readable ((k.tct task).mmuState.updr (pageOf addr)) = true ∧
    InPage ((k.tct task).mmuState.updr (pageOf addr)) (blockOf addr)

/-- The task finds the string at TASK_BASE. -/
def HasString (m : Core) (task : Fin maxTasks) (s : List BYTE) : Prop :=
  ∀ i (h : i < (cString s).length), m.kernel.TaskLoads task (onward taskBase i) ∧
    m.mem (m.taskByte task (taskBase.toNat + i)) = (cString s)[i]

section Strlen
variable {bus : ADDRESS → Bool} {m : Core} {file : ADDRESS} {s : List BYTE} {fuel : Nat}

theorem onward_toNat (addr : ADDRESS) (i : Nat) : (onward addr i).toNat = (addr.toNat + i) % 65536 := by
  unfold onward
  rw [BitVec.toNat_add, BitVec.toNat_ofNat]
  omega

/-- The name ends before it comes back to its first character. -/
theorem FileName.short (h : FileName bus m.mem file s) : s.length < 65536 := by
  by_contra long
  have round : onward file s.length = onward file (s.length - 65536) := by
    apply BitVec.eq_of_toNat_eq
    rw [onward_toNat, onward_toNat]
    omega
  have length : (cString s).length = s.length + 1 := by simp [cString]
  have nul := h.bytes s.length (by omega)
  have same := h.bytes (s.length - 65536) (by omega)
  rw [round, same] at nul
  apply h.plain
  have within : s.length - 65536 < s.length := by omega
  have last (bound : s.length < (cString s).length) : (cString s)[s.length] = 0 := by
    simp [cString]
  have char (bound : s.length - 65536 < (cString s).length) :
      (cString s)[s.length - 65536] = s[s.length - 65536] :=
    List.getElem_append_left within
  rw [last, char] at nul
  exact Except.ok.inj nul ▸ List.getElem_mem within

theorem FileName.tail {c : BYTE} (h : FileName bus m.mem file (c :: s)) :
    FileName bus m.mem (file + 1) s := by
  refine ⟨fun zero => h.plain (List.mem_cons_of_mem c zero), ?_⟩
  intro i bound
  have next := h.bytes (i + 1) (Nat.succ_lt_succ bound)
  rw [onward_succ] at next
  exact next

theorem strlenFrom_ok (h : FileName bus m.mem file s) (enough : s.length < fuel) :
    m.strlenFrom bus file fuel = .ok s.length := by
  induction s generalizing file fuel with
  | nil =>
    obtain ⟨fuel, rfl⟩ := Nat.exists_eq_succ_of_ne_zero (Nat.ne_of_gt enough)
    have loaded := h.bytes 0 (by decide)
    rw [onward_zero] at loaded
    exact bind_ok.mpr ⟨0, loaded, rfl⟩
  | cons c s ih =>
    obtain ⟨fuel, rfl⟩ := Nat.exists_eq_succ_of_ne_zero (Nat.ne_of_gt (Nat.zero_lt_of_lt enough))
    have loaded := h.bytes 0 (Nat.succ_pos _)
    rw [onward_zero] at loaded
    have rest := ih h.tail (Nat.lt_of_succ_lt_succ enough)
    have plain : c ≠ 0 := fun zero => h.plain (zero ▸ List.mem_cons_self)
    refine bind_ok.mpr ⟨c, loaded, ?_⟩
    rw [if_neg plain, rest]
    rfl

theorem strlen_ok (h : FileName bus m.mem file s) : m.strlen bus file = .ok s.length :=
  strlenFrom_ok h h.short

end Strlen

/-! ## The new task -/

section Created
variable {k k' : Kernel} {name : Name} {type rshell privs : WORD} {task : Fin maxTasks}

/-- Free memory ends where memory ends. -/
def FreeFits (t : MMCBT) : Prop :=
  ∀ b, (t.mmcbt b).ownerPID = 0 → (t.mmcbt b).blockAddr.toNat + (t.mmcbt b).blockSize.toNat ≤ 4096

instance FreeFits.decidable (t : MMCBT) : Decidable (FreeFits t) :=
  inferInstanceAs (Decidable (∀ _, _ → _))

/-- Blocks are cut from free memory. -/
theorem FreeFits.cut {t t' : MMCBT} {cur new : Fin memNmcbs} {owner numBlocks flags page : WORD}
    (h : FreeFits t) (cut : Cut t cur new owner numBlocks flags page t') (named : owner ≠ 0) :
    FreeFits t' := by
  have fits := h cur cut.unowned
  have enough := cut.enough
  rw [BitVec.le_def] at enough
  intro b unowned
  by_cases handed : b = new
  · rw [handed] at unowned
    have own : (t'.mmcbt new).ownerPID = owner := congrArg MMCB.ownerPID cut.block
    exact absurd (own.symm.trans unowned) named
  by_cases rest : b = cur
  · have addr : (t'.mmcbt b).blockAddr = (t.mmcbt cur).blockAddr + numBlocks :=
      rest ▸ congrArg MMCB.blockAddr cut.rest
    have size : (t'.mmcbt b).blockSize = (t.mmcbt cur).blockSize - numBlocks :=
      rest ▸ congrArg MMCB.blockSize cut.rest
    rw [addr, size, BitVec.toNat_add, BitVec.toNat_sub_of_le cut.enough]
    omega
  · obtain ⟨addr, size, own, -, -⟩ := core_fields (cut.other b handed rest)
    rw [own] at unowned
    rw [addr, size]
    exact h b unowned

/-- A part that keeps a property of the blocks for a task with a pid. -/
def Setup.KeepsBlocks {n : Nat} (P : MMCBT → Prop) (f : Setup n) : Prop :=
  ∀ ⦃tcb t rc tcb' t'⦄, tcb.pid ≠ 0 → P t → f tcb t = .ok (rc, tcb', t') → tcb'.pid ≠ 0 ∧ P t'

section Blocks
variable {n : Nat} {P : MMCBT → Prop} {f g : Setup n}

theorem Setup.KeepsBlocks.andThen (hf : f.KeepsBlocks P) (hg : g.KeepsBlocks P) :
    (f.andThen g).KeepsBlocks P := by
  intro tcb t rc tcb' t' named h called
  obtain ⟨⟨rc₁, tcb₁, t₁⟩, first, rest⟩ := bind_ok.mp called
  obtain ⟨named₁, h₁⟩ := hf named h first
  dsimp only at rest
  split at rest
  · cases rest
    exact ⟨named₁, h₁⟩
  · exact hg named₁ h₁ rest

theorem Setup.KeepsBlocks.when {c : TCB n → Prop} [DecidablePred c] (hf : f.KeepsBlocks P) :
    Setup.KeepsBlocks P fun tcb t => if c tcb then f tcb t else .ok (eok, tcb, t) := by
  intro tcb t rc tcb' t' named h called
  dsimp only at called
  split at called
  · exact hf named h called
  · cases called
    exact ⟨named, h⟩

theorem mapPage_keepsFree {page : Fin 8} {numBlocks flags ownerPAR pdr : WORD} {base : WORD → WORD} :
    (mapPage page numBlocks flags ownerPAR base pdr : Setup n).KeepsBlocks FreeFits := by
  intro tcb t rc tcb' t' named h called
  obtain ⟨⟨mcb, t₁⟩, got, rest⟩ := bind_ok.mp called
  cases mcb with
  | none =>
    cases rest
    exact ⟨named, memGetblock_null got ▸ h⟩
  | some b =>
    cases rest
    obtain ⟨cur, cut⟩ := memGetblock_cut got
    exact ⟨named, h.cut cut named⟩

theorem setupTaskmem_keepsFree : (setupTaskmem : Setup n).KeepsBlocks FreeFits := by
  have kernel : (kernelPages : Setup n).KeepsBlocks FreeFits := by
    intro tcb t rc tcb' t' named h called
    cases called
    exact ⟨named, h⟩
  have tucb : (placeTUCB : Setup n).KeepsBlocks FreeFits := by
    intro tcb t rc tcb' t' named h called
    cases called
    exact ⟨named, h⟩
  have io : (ioPage : Setup n).KeepsBlocks FreeFits := by
    intro tcb t rc tcb' t' named h called
    cases called
    exact ⟨named, h⟩
  have medium : (mediumPage : Setup n).KeepsBlocks FreeFits := mapPage_keepsFree.when
  have big : (bigPage : Setup n).KeepsBlocks FreeFits := mapPage_keepsFree.when
  have buffer : (bufferPage : Setup n).KeepsBlocks FreeFits := mapPage_keepsFree.when
  intro tcb t rc tcb' t' named h called
  unfold setupTaskmem at called
  split at called
  · cases called
    exact ⟨named, h⟩
  · exact (kernel.andThen <| mapPage_keepsFree.andThen <| medium.andThen <| big.andThen <|
      tucb.andThen <| mapPage_keepsFree.andThen <| io.andThen buffer) named h called

end Blocks

/-- The first page of a task is one of 8 KB that it can write, and lies in memory. -/
theorem setupTaskmem_page3 {n : Nat} {tcb tcb' : TCB n} {t t' : MMCBT} (free : FreeFits t)
    (called : setupTaskmem tcb t = .ok (eok, tcb', t')) :
    tcb'.mmuState.updr 3 = pdrAccRw ||| pdrSiz8k ∧ (tcb'.mmuState.upar 3).toNat + 127 < 4096 := by
  obtain ⟨-, tcb₁, tcb₂, t₂, tcb₃, t₃, tcb₄, t₄, tcb₅, tcb₆, t₆, tcb₇, -, first, medium, big, tucb,
    stack, io, buffer⟩ := setupTaskmem_stages called
  obtain ⟨cur, b, cut, -, -, mapped⟩ := mapPage_ok first
  have kept : tcb'.mmuState.page 3 = tcb₂.mmuState.page 3 := calc
    _ = tcb₇.mmuState.page 3 := bufferPage_spares (by decide) buffer
    _ = tcb₆.mmuState.page 3 := ioPage_spares (by decide) io
    _ = tcb₅.mmuState.page 3 := mapPage_spares (by decide) stack
    _ = tcb₄.mmuState.page 3 := placeTUCB_spares tucb
    _ = tcb₃.mmuState.page 3 := bigPage_spares (by decide) big
    _ = tcb₂.mmuState.page 3 := mediumPage_spares (by decide) medium
  have page := kept.trans mapped
  have addr : (t₂.mmcbt b).blockAddr = (t.mmcbt cur).blockAddr := by
    rw [← MMCB.core_blockAddr, cut.block]
  have upar : tcb'.mmuState.upar 3 = (t₂.mmcbt b).blockAddr := congrArg (fun page => page.1.1) page
  have fits := free cur cut.unowned
  have enough := cut.enough
  rw [BitVec.le_def] at enough
  have size : (0o200 : WORD).toNat = 128 := rfl
  refine ⟨congrArg (fun page => page.1.2) page, ?_⟩
  rw [upar, addr]
  omega

/-- What the copy relies on. -/
structure NewTask (k k' : Kernel) (task : Fin maxTasks) : Prop where
  made : Made k task (k'.tct task) k'
  page3 : (k'.tct task).mmuState.updr 3 = pdrAccRw ||| pdrSiz8k
  fits : ((k'.tct task).mmuState.upar 3).toNat + 127 < 4096

theorem newTask_new (h : Pids k) (free : FreeFits k.mmcbt)
    (called : newTask k name type rshell privs = .ok (some task, k')) : NewTask k k' task := by
  obtain ⟨⟨pididx, k₁⟩, initialised, rest⟩ := bind_ok.mp called
  cases pididx with
  | error _ => cases rest
  | ok i =>
    obtain ⟨⟨rc, tcb, mmcbt⟩, setUp, ret⟩ := bind_ok.mp rest
    obtain ⟨made, memory, -⟩ := taskinit_ok h initialised
    rw [← memory] at free
    have spared : SameTask _ tcb := setupTaskmem_sparesTask setUp
    obtain ⟨answer, rfl⟩ := Prod.mk.inj (Except.ok.inj ret)
    by_cases ok : rc = eok
    · rw [if_pos ok] at answer
      cases answer
      rw [ok] at setUp
      have self : (k₁.setTcb task tcb).tct task = tcb := Kernel.setTcb_self ..
      have page := setupTaskmem_page3 free setUp
      rw [← self] at page
      refine ⟨?_, page.1, page.2⟩
      · show Made k task ((k₁.setTcb task tcb).tct task) _
        rw [self]
        apply made.setTcb
        · rw [spared]
        · rw [spared]
        · rw [spared]
        · rw [spared]
    · rw [if_neg ok] at answer
      cases answer

/-- A new task, or one that cannot be set up, leaves free memory within memory. -/
theorem newTask_freeFits {new : Option (Fin maxTasks)} (h : Pids k) (free : FreeFits k.mmcbt)
    (called : newTask k name type rshell privs = .ok (new, k')) : FreeFits k'.mmcbt := by
  obtain ⟨⟨pididx, k₁⟩, initialised, rest⟩ := bind_ok.mp called
  cases pididx with
  | error _ => cases rest
  | ok i =>
    obtain ⟨⟨rc, tcb, mmcbt⟩, setUp, ret⟩ := bind_ok.mp rest
    obtain ⟨made, memory, -⟩ := taskinit_ok h initialised
    cases ret
    have named : (k₁.tct i).pid ≠ 0 := by
      intro none
      have range := made.pid_range.1
      rw [none] at range
      exact absurd range (by decide)
    have named : ({ k₁.tct i with taskname := name } : TCB maxTasks).pid ≠ 0 := named
    exact (setupTaskmem_keepsFree named (memory ▸ free) setUp).2

theorem NewTask.found (h : NewTask k k' task) : findtcb k' (k'.tct task).pid = some task := by
  apply findtcb_pid h.made.pids
  intro zero
  have range := h.made.pid_range.1
  rw [zero] at range
  exact absurd range (by decide)

/-- The caller is none of the new task's. -/
theorem NewTask.caller (h : NewTask k k' task) (running : k.cur.pid ≠ 0) :
    k'.curtcb = k.curtcb ∧ k'.cur = k.cur := by
  have curtcb : k'.curtcb = k.curtcb := by rw [h.made.only]
  refine ⟨curtcb, ?_⟩
  unfold Kernel.cur
  rw [curtcb]
  apply h.made.other
  rintro rfl
  exact running h.made.entry.2

end Created

/-! ## The copy of the name -/

section Moves
variable {bus : ADDRESS → Bool} {m m' : Core} {name : Name} {type rshell privs : WORD}
variable {file : ADDRESS} {s : List BYTE} {rc : Int}

/-- A creation that returns a pid has made the copy between the caller and the new task. -/
theorem svcLoadprc_moves (pids : Pids m.kernel) (free : FreeFits m.kernel.mmcbt)
    (running : m.kernel.cur.pid ≠ 0)
    (given : FileName bus m.mem file s)
    (called : Core.svcLoadprc bus m name type rshell file privs = .ok (rc, m')) (created : 0 < rc) :
    ∃ task k, newTask m.kernel name type rshell privs = .ok (some task, k) ∧
      NewTask m.kernel k task ∧ (m'.kernel.tct task).pid.toNat = rc ∧
      (m'.kernel.tct task).mmuState = (k.tct task).mmuState ∧
      (s.length = 0 ∧ m'.mem = m.mem ∨ transfer bus m.mem (k.tct k.curtcb).mmuState.upar
        (k.tct task).mmuState.upar file taskBase (BitVec.ofNat 16 s.length) = .ok m'.mem) := by
  obtain ⟨⟨new, k⟩, made, setUp⟩ := bind_ok.mp called
  cases new with
  | none =>
    obtain ⟨rfl, -⟩ := Prod.mk.inj (Except.ok.inj setUp)
    exact absurd created (by decide)
  | some task =>
    obtain ⟨n, counted, measured⟩ := bind_ok.mp setUp
    obtain ⟨⟨rc', m₁⟩, copied, rest⟩ := bind_ok.mp measured
    have fresh := newTask_new pids free made
    obtain ⟨curtcb, cur⟩ := fresh.caller running
    obtain rfl : s.length = n := Except.ok.inj ((strlen_ok (m := ⟨k, m.mem⟩) given).symm.trans counted)
    have caller : findtcb k k.cur.pid = some k.curtcb :=
      findtcb_cur fresh.made.pids (by rw [cur]; exact running)
    have apart : ¬ ((k.tct task).pid = 0 ∧ k.cur.pid = 0) := fun none => running (cur ▸ none.2)
    dsimp only at rest
    split at rest
    case isFalse => cases rest
    case isTrue accepted =>
      obtain ⟨k₂, added, ret⟩ := bind_ok.mp rest
      obtain ⟨rfl, rfl⟩ := Prod.mk.inj (Except.ok.inj ret)
      have outcome : m₁.kernel = k ∧ (s.length = 0 ∧ m₁.mem = m.mem ∨
          transfer bus m.mem (k.tct k.curtcb).mmuState.upar (k.tct task).mmuState.upar file taskBase
            (BitVec.ofNat 16 s.length) = .ok m₁.mem) := by
        by_cases nonempty : BitVec.ofNat 16 s.length = 0
        · have none := congrArg BitVec.toNat nonempty
          rw [BitVec.toNat_ofNat] at none
          have none : s.length % 65536 = 0 := none
          rw [nonempty] at copied
          cases copied
          have short := given.short
          exact ⟨rfl, .inl ⟨by omega, rfl⟩⟩
        · rw [Core.svcXcopy_eq (m := ⟨k, m.mem⟩) nonempty apart fresh.found caller] at copied
          split at copied
          case isTrue =>
            cases copied
            exact absurd accepted (by decide)
          case isFalse =>
            obtain ⟨mem, transferred, ret⟩ := bind_ok.mp copied
            cases ret
            exact ⟨rfl, .inr transferred⟩
      have only := addReady_only added
      have tasks : (k₂.tct task).unlinked = (k.tct task).unlinked := by
        rw [only.tasks task, outcome.1]
      have mmuState : (k₂.tct task).mmuState = (k.tct task).mmuState :=
        show (k₂.tct task).unlinked.mmuState = (k.tct task).unlinked.mmuState by rw [tasks]
      exact ⟨task, k, made, fresh, rfl, mmuState, outcome.2⟩

end Moves

/-! ## When the name arrives -/

section Arrival
variable (m : Core) (task : Fin maxTasks) (file : ADDRESS) (s : List BYTE)

/-- Where character `i` goes. -/
def nameCell (i : Nat) : Nat := destCell (m.par5 task taskBase) taskBase i

/-- Where the NUL of the name is to be. -/
def endCell : Nat := m.taskByte task (taskBase.toNat + s.length)

/-- The byte of memory, before the name is copied, that the new task finds as character `i`. -/
def nameByte (i : Nat) : BYTE :=
  -- what a name writes over registers of the windows does not last
  if WindowByte (nameCell m task i) then m.mem (nameCell m task i)
  else opened m.mem (m.par4 m.kernel.curtcb file) (m.par5 task taskBase)
    (origin (m.par4 m.kernel.curtcb file) (m.par5 task taskBase) file taskBase i)

/-- What is in memory once the new task has been given its own, before the name is copied: each
character where the copy takes it from, and the NUL where the name is to end. -/
structure NameArrives : Prop where
  characters : ∀ i (h : i < s.length), nameByte m task file i = s[i]
  readable : m.kernel.TaskLoads task (onward taskBase s.length)
  unwritten : ∀ i < s.length, endCell m task s ≠ nameCell m task i
  nul : m.mem (endCell m task s) = 0

end Arrival

section Cells
variable {bus : ADDRESS → Bool} {k₀ : Kernel} {m m' : Core} {task : Fin maxTasks} {file : ADDRESS}
variable {s : List BYTE} {c : Copying} {n i : Nat}

theorem taskBase_within (bound : i < 8192) :
    m.taskByte task (taskBase.toNat + i) = nameCell m task i := by
  have base : (taskBase : ADDRESS).toNat = 24576 := rfl
  unfold Core.taskByte nameCell destCell Core.par5
  have here : pageOf (BitVec.ofNat 16 ((taskBase : ADDRESS).toNat + i)) = pageOf taskBase := by
    apply pageOf_congr
    rw [BitVec.toNat_ofNat]
    omega
  rw [here]
  apply physical_congr
  rw [small_toNat, BitVec.toNat_ofNat]
  omega

/-- The first page of the new task can be read. -/
theorem NewTask.loads (h : NewTask k₀ m.kernel task) (bound : i < 8192) :
    m.kernel.TaskLoads task (onward taskBase i) := by
  have base : (taskBase : ADDRESS).toNat = 24576 := rfl
  have page : pageOf (onward taskBase i) = 3 := by
    have same : pageOf (onward taskBase i) = pageOf taskBase := by
      apply pageOf_congr
      rw [onward_toNat]
      omega
    exact same.trans rfl
  unfold Kernel.TaskLoads
  rw [page, h.page3]
  exact ⟨by decide, inPage_whole _⟩

/-- It lies in memory. -/
theorem NewTask.place (h : NewTask k₀ m.kernel task) (bound : i < 8192) :
    nameCell m task i = (m.par5 task taskBase).toNat * 64 + i ∧
      (m.par5 task taskBase).toNat + 127 < 4096 := by
  have fits : (m.par5 task taskBase).toNat + 127 < 4096 := h.fits
  have base : (taskBase : WORD).toNat % 8192 = 0 := rfl
  refine ⟨?_, fits⟩
  unfold nameCell
  rw [destCell_mod (by omega)]
  omega

/-- The name comes to the first of the page address registers. -/
def Overruns (m : Core) (task : Fin maxTasks) (n : Nat) : Prop :=
  ∃ i < n, nameCell m task i = kisarByte 0

/-- Otherwise it stays below. -/
theorem NewTask.below (h : NewTask k₀ m.kernel task) (fits : n ≤ 8192) (stays : ¬ Overruns m task n)
    (bound : i < n) : nameCell m task i < kisarByte 0 := by
  have zero : kisarByte 0 = 0o772340 := rfl
  obtain ⟨here, page⟩ := h.place (i := i) (by omega)
  rw [here, zero]
  by_contra high
  obtain ⟨there, -⟩ := h.place (i := 0o772340 - (m.par5 task taskBase).toNat * 64) (by omega)
  exact stays ⟨0o772340 - (m.par5 task taskBase).toNat * 64, by omega, by rw [there, zero]; omega⟩

/-- As long as it does, its characters are those of their origins. -/
theorem name_cells (fits : n ≤ 8192) (below : ∀ i < n, nameCell m task i ≤ kisarByte 0)
    (copied : copyBytes bus n (.start file taskBase
      (opened m.mem (m.par4 m.kernel.curtcb file) (m.par5 task taskBase))) = .ok c) :
    (∀ i < n, c.mem (nameCell m task i) =
      opened m.mem (m.par4 m.kernel.curtcb file) (m.par5 task taskBase)
        (origin (m.par4 m.kernel.curtcb file) (m.par5 task taskBase) file taskBase i)) ∧
    ∀ a, (∀ i < n, a ≠ nameCell m task i) →
      c.mem a = opened m.mem (m.par4 m.kernel.curtcb file) (m.par5 task taskBase) a := by
  have base : (taskBase : WORD).toNat % 8192 = 0 := rfl
  have laid := opened_laid m.mem (m.par4 m.kernel.curtcb file) (m.par5 task taskBase)
  obtain ⟨-, cells⟩ := cells_copied laid.par4 laid.par5 (by omega) (fun i bound register => by
    have low := below i bound
    have zero : kisarByte 0 = 0o772340 := rfl
    unfold KisarByte at register
    unfold nameCell at low
    omega) copied
  rw [cells]
  exact ⟨fun i bound => copied_origin (by omega) bound, fun a out => copy_kept out⟩

/-- The first register keeps the kernel where it is. -/
theorem first_zero {mem mem' : Nat → BYTE} (first : (kernelMode mem).kpar 0 = 0)
    (same : SamePages mem mem') : mem' (kisarByte 0) = 0 := by
  have word : wordIn mem' (kisarByte 0) = 0 := (same 0 (by decide)).1.trans first
  have low : (wordIn mem' (kisarByte 0)).setWidth 8 = mem' (kisarByte 0) := BitVec.setWidth_append_eq_right
  rw [← low, word]
  rfl

theorem opened_first {mem : Nat → BYTE} {par4 par5 : WORD} (first : (kernelMode mem).kpar 0 = 0) :
    (kernelMode (opened mem par4 par5)).kpar 0 = 0 :=
  (wordIn_congr (opened_other (by decide)) (opened_other (by decide))).trans first

/-- A name that comes to that register finds no character for it. -/
theorem NewTask.unreached (h : NewTask k₀ m.kernel task) (first : (kernelMode m.mem).kpar 0 = 0)
    (plain : 0 ∉ s) (fits : s.length ≤ 8192) (arrives : NameArrives m task file s)
    (copied : copyBytes bus s.length (.start file taskBase
      (opened m.mem (m.par4 m.kernel.curtcb file) (m.par5 task taskBase))) = .ok c) :
    ¬ Overruns m task s.length := by
  rintro ⟨i, bound, register⟩
  have zero : kisarByte 0 = 0o772340 := rfl
  obtain ⟨here, page⟩ := h.place (i := i) (by omega)
  obtain ⟨c₁, c₂, ran, last⟩ := copyBytes_prefix copied bound
  have more : copyBytes bus (i + 1) (.start file taskBase
      (opened m.mem (m.par4 m.kernel.curtcb file) (m.par5 task taskBase))) = .ok c₂ := by
    rw [copyBytes_snoc]
    exact bind_ok.mpr ⟨c₁, ran, last⟩
  obtain ⟨cells, -⟩ := name_cells (n := i + 1) (by omega) (fun j earlier => by
    rw [← register, here, (h.place (i := j) (by omega)).1]
    omega) more
  obtain ⟨-, -, same⟩ := copyBytes_windows more
  have none := first_zero (opened_first first) same
  have char := arrives.characters i bound
  unfold nameByte at char
  rw [if_neg (by rw [register]; decide), ← cells i (Nat.lt_succ_self i), register, none] at char
  exact plain (char ▸ List.getElem_mem bound)

/-- The byte where the name is to end is not one that a moved pointer changes. -/
theorem NewTask.end_apart (h : NewTask k₀ m.kernel task) (fits : s.length ≤ 8192)
    (stays : ¬ Overruns m task s.length) (t : Nat) (two : i < 2) :
    endCell m task s ≠ kisarByte 4 + 256 * t + i := by
  have zero : kisarByte 0 = 0o772340 := rfl
  have four : kisarByte 4 = 0o772350 := rfl
  have base : (taskBase : ADDRESS).toNat = 24576 := rfl
  unfold endCell
  by_cases whole : s.length = 8192
  · have start : (BitVec.ofNat 16 ((taskBase : ADDRESS).toNat + s.length)).toNat = 32768 := by
      rw [whole, base]
      rfl
    unfold Core.taskByte
    rw [physical_mod, start]
    omega
  · obtain ⟨here, page⟩ := h.place (i := s.length) (by omega)
    rw [taskBase_within (by omega), here]
    by_cases none : s.length = 0
    · omega
    · have low := h.below fits stays (i := s.length - 1) (by omega)
      rw [(h.place (by omega)).1] at low
      omega

/-- What the copy of a name leaves in memory. -/
theorem NewTask.copied (h : NewTask k₀ m.kernel task) (pages : KernelPages m.mem)
    (first : (kernelMode m.mem).kpar 0 = 0) (short : s.length < 65536)
    (moved : s.length = 0 ∧ m'.mem = m.mem ∨ transfer bus m.mem
      (m.kernel.tct m.kernel.curtcb).mmuState.upar (m.kernel.tct task).mmuState.upar file taskBase
        (BitVec.ofNat 16 s.length) = .ok m'.mem) :
    s.length ≤ 8192 ∧
    (Overruns m task s.length → m'.mem (kisarByte 0) = 0 ∧
      (0 ∉ s → ¬ NameArrives m task file s)) ∧
    (¬ Overruns m task s.length → (∀ i < s.length, m'.mem (nameCell m task i) = nameByte m task file i) ∧
      ((∀ i < s.length, endCell m task s ≠ nameCell m task i) →
        m'.mem (endCell m task s) = m.mem (endCell m task s))) := by
  rcases moved with ⟨none, same⟩ | transferred
  · rw [none, same]
    refine ⟨by decide, ?_, fun _ => ⟨fun i bound => absurd bound (Nat.not_lt_zero i), fun _ => rfl⟩⟩
    rintro ⟨i, bound, -⟩
    exact absurd bound (Nat.not_lt_zero i)
  have base : (taskBase : WORD).toNat % 8192 = 0 := rfl
  have zero : kisarByte 0 = 0o772340 := rfl
  have four : kisarByte 4 = 0o772350 := rfl
  have size : (BitVec.ofNat 16 s.length).toNat = s.length := by
    rw [BitVec.toNat_ofNat]
    omega
  obtain ⟨c, copied, opens, -, closes⟩ := transfer_done pages transferred
  have page : InOnePage taskBase (BitVec.ofNat 16 s.length) := by
    by_contra crosses
    exact copyBytes_crossing opens (Nat.not_le.mp crosses) copied
  have fits : s.length ≤ 8192 := by
    unfold InOnePage at page
    omega
  rw [size] at copied
  rw [onePage_turns.mp page] at closes
  -- a byte below the pointers that the copy has changed
  have kept {p : Nat} (out : ¬ WindowByte p) (low : p ≤ kisarByte 0) : m'.mem p = c.mem p := by
    rw [closes]
    exact Core.closed_clear out fun i _ => by omega
  refine ⟨fits, fun reaches => ?_, fun stays => ?_⟩
  · obtain ⟨-, -, same⟩ := copyBytes_windows copied
    refine ⟨(kept (by decide) (Nat.le_refl _)).trans (first_zero (opened_first first) same), ?_⟩
    exact fun plain arrives => h.unreached first plain fits arrives copied reaches
  have low {i : Nat} (bound : i < s.length) := h.below fits stays bound
  obtain ⟨chars, others⟩ := name_cells fits (fun i bound => Nat.le_of_lt (low bound)) copied
  constructor
  · intro i bound
    unfold nameByte
    have low := low bound
    split
    case isTrue window =>
      by_contra changed
      rw [closes] at changed
      rcases Core.closed_changes changed with ⟨out, -⟩ | ⟨-, j, two, ⟨here, -⟩ | here⟩
      · exact out window
      · omega
      · omega
    case isFalse out => exact (kept out (Nat.le_of_lt low)).trans (chars i bound)
  · intro unwritten
    by_contra changed
    rw [closes] at changed
    rcases Core.closed_changes changed with ⟨out, moved⟩ | ⟨-, j, two, ⟨here, -⟩ | here⟩
    · exact moved ((others _ unwritten).trans (opened_other out))
    · exact h.end_apart fits stays 0 two here
    · exact h.end_apart fits stays _ two here

end Cells

/-- For a name in one page, which kernel mode and the caller see alike and which is clear of the new
task's memory and of the windows, it is the byte behind it that decides. -/
theorem NewTask.plain_iff {bus : ADDRESS → Bool} {k₀ : Kernel} {m : Core} {task : Fin maxTasks}
    {file : ADDRESS} {s : List BYTE} (h : NewTask k₀ m.kernel task) (given : FileName bus m.mem file s)
    (page : file.toNat % 8192 + s.length ≤ 8192) (short : s.length < 8192)
    (alike : (kernelMode m.mem).kpar (pageOf file) = m.par4 m.kernel.curtcb file)
    (apart : ∀ i < s.length, ∀ j < s.length,
      destCell (m.par4 m.kernel.curtcb file) file i ≠ nameCell m task j)
    (clear : ∀ i < s.length, ¬ WindowByte (destCell (m.par4 m.kernel.curtcb file) file i) ∧
      ¬ WindowByte (nameCell m task i)) :
    NameArrives m task file s ↔ m.mem (endCell m task s) = 0 := by
  refine ⟨fun arrives => arrives.nul, fun nul => ⟨fun i bound => ?_, h.loads short, fun i bound => ?_, nul⟩⟩
  · have base : (taskBase : WORD).toNat % 8192 = 0 := rfl
    have within : i < 8192 - file.toNat % 8192 := by omega
    have source (par5 : WORD) : sourceCell (m.par4 m.kernel.curtcb file) par5 file i =
        destCell (m.par4 m.kernel.curtcb file) file i := by
      rw [sourceCell, if_pos (by omega), destCell]
    have home : origin (m.par4 m.kernel.curtcb file) (m.par5 task taskBase) file taskBase i =
        destCell (m.par4 m.kernel.curtcb file) file i := by
      unfold origin
      dsimp only
      generalize distance_eq : (physical (m.par5 task taskBase) taskBase + 262144 -
        physical (m.par4 m.kernel.curtcb file) file) % 262144 = distance
      have near : i % distance = i := unwritten_near distance_eq within (by omega) fun j earlier => by
        rw [source]
        exact apart i bound j (by omega)
      rw [Nat.mod_eq_of_lt (a := i) (by omega), if_pos within, near, source]
    obtain ⟨out, out'⟩ := clear i bound
    have loaded := given.bytes i (by simp [cString]; omega)
    obtain ⟨-, -, byte⟩ := loadAt_ok.mp loaded
    have char (bound' : i < (cString s).length) : (cString s)[i] = s[i] := List.getElem_append_left bound
    have top := file.isLt
    have number := onward_toNat file i
    have here : pageOf (onward file i) = pageOf file := pageOf_congr (by omega)
    have cell : (kernelMode m.mem).cell (onward file i) =
        destCell (m.par4 m.kernel.curtcb file) file i := by
      unfold MMUSTATE.cell destCell
      rw [here, alike]
      apply physical_congr
      rw [small_toNat]
      omega
    unfold nameByte
    rw [if_neg out', home, opened_other out, ← cell, ← byte, char]
  · unfold endCell
    rw [taskBase_within short, (h.place short).1, (h.place (by omega)).1]
    omega

/-- The new task finds the name as a string if and only if it arrives. -/
theorem name_arrives_iff {bus : ADDRESS → Bool} {m m' : Core} {name : Name}
    {type rshell privs : WORD} {file : ADDRESS} {s : List BYTE} {rc : Int} (pids : Pids m.kernel)
    (free : FreeFits m.kernel.mmcbt) (running : m.kernel.cur.pid ≠ 0) (pages : KernelPages m.mem)
    (first : (kernelMode m.mem).kpar 0 = 0) (given : FileName bus m.mem file s)
    (called : Core.svcLoadprc bus m name type rshell file privs = .ok (rc, m')) (created : 0 < rc) :
    ∃ task k, newTask m.kernel name type rshell privs = .ok (some task, k) ∧
      (m'.kernel.tct task).pid.toNat = rc ∧
        (HasString m' task s ↔ NameArrives ⟨k, m.mem⟩ task file s) := by
  obtain ⟨task, k, made, fresh, pid, mmuState, moved⟩ :=
    svcLoadprc_moves pids free running given called created
  refine ⟨task, k, made, pid, ?_⟩
  obtain ⟨le, reached, stays⟩ := fresh.copied (m := ⟨k, m.mem⟩) pages first given.short moved
  have loads (addr : ADDRESS) : m'.kernel.TaskLoads task addr ↔ k.TaskLoads task addr := by
    unfold Kernel.TaskLoads
    rw [mmuState]
  have cell (a : Nat) : m'.taskByte task a = Core.taskByte ⟨k, m.mem⟩ task a := by
    unfold Core.taskByte
    rw [mmuState]
  have length : (cString s).length = s.length + 1 := by simp [cString]
  have nul (bound : s.length < (cString s).length) : (cString s)[s.length] = 0 := by
    simp [cString]
  have char (i : Nat) (h : i < s.length) (bound : i < (cString s).length) :
      (cString s)[i] = s[i] := List.getElem_append_left h
  constructor
  · intro found
    have ends := found s.length (by omega)
    rw [loads, cell, nul] at ends
    have characters (i : Nat) (h : i < s.length) : m'.mem (nameCell ⟨k, m.mem⟩ task i) = s[i] := by
      have byte := (found i (by omega)).2
      rwa [cell, char i h, taskBase_within (by omega)] at byte
    have below : ¬ Overruns ⟨k, m.mem⟩ task s.length := by
      intro reaches
      have zero := (reached reaches).1
      obtain ⟨i, bound, here⟩ := reaches
      rw [← here, characters i bound] at zero
      exact given.plain (zero ▸ List.getElem_mem bound)
    have unwritten : ∀ i < s.length, endCell ⟨k, m.mem⟩ task s ≠ nameCell ⟨k, m.mem⟩ task i := by
      intro i h same
      have byte := characters i h
      rw [← same] at byte
      exact given.plain (byte.symm.trans ends.2 ▸ List.getElem_mem h)
    obtain ⟨copied, last⟩ := stays below
    exact ⟨fun i h => (copied i h).symm.trans (characters i h), ends.1, unwritten,
      (last unwritten).symm.trans ends.2⟩
  · intro h i bound
    have below : ¬ Overruns ⟨k, m.mem⟩ task s.length := fun reaches => (reached reaches).2 given.plain h
    obtain ⟨copied, last⟩ := stays below
    rw [loads, cell]
    obtain before | rfl : i < s.length ∨ i = s.length := by omega
    · rw [char i before, taskBase_within (by omega)]
      exact ⟨fresh.loads (m := ⟨k, m.mem⟩) (by omega), (copied i before).trans (h.characters i before)⟩
    · rw [nul]
      exact ⟨h.readable, (last h.unwritten).trans h.nul⟩

/-- INIT at boot, with the name `PT` at 01000. All other memory is full of `fill`. -/
def namedBoot (fill : BYTE) : Core where
  kernel := boot 0
  mem := withRegisters (boot 0).mmu fun a =>
    if a = 512 then 0x50 else if a = 513 then 0x54 else if a = 514 then 0 else fill

def ptName : List BYTE := [0x50, 0x54]

/-- INIT loads a small task from the device of that name. -/
def loadPt (fill : BYTE) : Except Fault (Int × Core) :=
  Core.svcLoadprc (fun _ => false) (namedBoot fill) (fun _ => 0x20) usrTask 0 0o1000 0

section Named
variable {fill : BYTE}

theorem namedBoot_name (fills : fill = 0 ∨ fill = 0x30) :
    FileName (fun _ => false) (namedBoot fill).mem 0o1000 ptName := by
  refine ⟨by decide, fun i bound => ?_⟩
  have bytes : ∀ i : Fin 3,
      loadByte (fun _ => false) (namedBoot fill).mem (onward 0o1000 i) = .ok (cString ptName)[i] := by
    rcases fills with rfl | rfl <;> decide +kernel
  exact bytes ⟨i, bound⟩

theorem loadPt_creates (fills : fill = 0 ∨ fill = 0x30) :
    ∃ m', loadPt fill = .ok (0o101, m') ∧ (m'.kernel.tct 1).pid = 0o101 ∧
      (∀ i : Fin 3, m'.kernel.TaskLoads 1 (onward taskBase i) ∧
        m'.mem (m'.taskByte 1 (taskBase.toNat + i)) = if i = 2 then fill else (cString ptName)[i]) := by
  have loaded : succeeds (loadPt fill) (fun r => r.1 = 0o101 ∧ (r.2.kernel.tct 1).pid = 0o101 ∧
      ∀ i : Fin 3, (readable ((r.2.kernel.tct 1).mmuState.updr (pageOf (onward taskBase i))) = true ∧
        InPage ((r.2.kernel.tct 1).mmuState.updr (pageOf (onward taskBase i)))
          (blockOf (onward taskBase i))) ∧
        r.2.mem (r.2.taskByte 1 (taskBase.toNat + i)) =
          if i = 2 then fill else (cString ptName)[i]) = true := by
    rcases fills with rfl | rfl <;> decide +kernel
  obtain ⟨⟨rc, m'⟩, called, facts⟩ := succeeds_iff.mp loaded
  obtain ⟨rfl, pid, bytes⟩ := of_decide_eq_true facts
  exact ⟨m', called, pid, bytes⟩

end Named

/-- Memory that is zero ends the name. -/
theorem name_arrives_boot : ∃ k m', newTask (boot 0) (fun _ => 0x20) usrTask 0 0 = .ok (some 1, k) ∧
    loadPt 0 = .ok (0o101, m') ∧ HasString m' 1 ptName ∧
      NameArrives ⟨k, (namedBoot 0).mem⟩ 1 0o1000 ptName := by
  obtain ⟨m', called, -, bytes⟩ := loadPt_creates (.inl rfl)
  have free : FreeFits (boot 0).mmcbt := by decide +kernel
  have running : (boot 0).cur.pid ≠ 0 := by decide +kernel
  have mapped : KernelMapped (namedBoot 0).mem ∧ (kernelMode (namedBoot 0).mem).kpar 0 = 0 := by
    decide +kernel
  obtain ⟨task, k, made, -, same⟩ := name_arrives_iff (boot_pids 0) free running
    mapped.1.toKernelPages mapped.2 (namedBoot_name (.inl rfl)) called (by decide)
  obtain rfl : task = 1 := by
    have first : succeeds (newTask (boot 0) (fun _ => 0x20) usrTask 0 0) (fun r => r.1 = some 1) = true := by
      decide +kernel
    obtain ⟨r, created, one⟩ := succeeds_iff.mp first
    obtain rfl := Except.ok.inj (created.symm.trans made)
    exact Option.some.inj (of_decide_eq_true one)
  have found : HasString m' 1 ptName := by
    intro i bound
    have zero : ∀ i : Fin 3, (if i = 2 then (0 : BYTE) else (cString ptName)[i]) = (cString ptName)[i] := by
      decide
    obtain ⟨loads, byte⟩ := bytes ⟨i, bound⟩
    exact ⟨loads, byte.trans (zero _)⟩
  exact ⟨k, m', made, called, found, same.mp found⟩

/-- In the new task the name goes on with what its memory contained. -/
theorem name_not_ended : ∃ m', FileName (fun _ => false) (namedBoot 0x30).mem 0o1000 ptName ∧
    loadPt 0x30 = .ok (0o101, m') ∧ (m'.kernel.tct 1).pid = 0o101 ∧ ¬ HasString m' 1 ptName := by
  obtain ⟨m', called, pid, bytes⟩ := loadPt_creates (.inr rfl)
  refine ⟨m', namedBoot_name (.inr rfl), called, pid, fun found => ?_⟩
  have nul := (found 2 (by decide)).2
  have junk := (bytes 2).2
  rw [if_pos rfl] at junk
  exact absurd (junk.symm.trans nul) (by decide)

end Muxx
