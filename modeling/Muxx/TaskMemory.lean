import Muxx.Lib.Fallible
import Muxx.Memory
import Muxx.Mmu

/-!
# The memory of a task

muxx_setup_taskmem of muxx_memsvc.c as a sequence of parts, each of which may
give up with an error code:

* `SettingUp`: what holds while the memory of one task is being set up: its
  pages lie in the memory that was handed out for it;
* `Keeps`, `Keeps.andThen`: a part keeps that;
* `setupTaskmem_ok`: the whole call.
-/

namespace Muxx

open Fallible

variable {n : Nat}

/-- One part of the setup: it answers EOK or the code the setup returns. -/
abbrev Setup (n : Nat) := TCB n → MMCBT → Except Fault (Int × TCB n × MMCBT)

def Setup.andThen (f g : Setup n) : Setup n := fun task t => do
  let (rc, task, t) ← f task t
  if rc ≠ eok then return (rc, task, t)
  g task t

def MMUSTATE.setUser (m : MMUSTATE) (page : Fin 8) (par pdr : WORD) : MMUSTATE :=
  { m with upar := Function.update m.upar page par, updr := Function.update m.updr page pdr }

def MMUSTATE.setKernel (m : MMUSTATE) (page : Fin 8) (par pdr : WORD) : MMUSTATE :=
  { m with kpar := Function.update m.kpar page par, kpdr := Function.update m.kpdr page pdr }

def TCB.ttype (task : TCB n) : WORD := task.taskType &&& 0o7
def TCB.tsize (task : TCB n) : WORD := task.taskType &&& 0o70
def TCB.ssize (task : TCB n) : WORD := task.taskType &&& 0o700

/-- The size of a TUCB in whole blocks. -/
def tucbSize : WORD := 64

/-- Check combinations of task type, task size and stack size. -/
def checkType (task : TCB n) : Int :=
  if task.ssize ≠ tszSmalls then einvval
  else if task.ttype = sysTask then eok
  else if task.ttype = usrTask then eok
  else if task.ttype = drvTask then (if task.tsize = tszBig then einvval else eok)
  else einvval

theorem checkType_codes (task : TCB n) : checkType task = eok ∨ checkType task = einvval := by
  unfold checkType
  split_ifs <;> simp

/-- Kernel common pages (0-2). -/
def kernelPages : Setup n := fun task t =>
  let wpdr := (if task.operprv then pdrAccRw else pdrAccRo) ||| pdrSiz8k
  let m := task.mmuState
  let m := (m.setUser 0 0 wpdr).setKernel 0 0 (pdrAccRw ||| pdrSiz8k)
  let m := (m.setUser 1 0o200 wpdr).setKernel 1 0o200 (pdrAccRw ||| pdrSiz8k)
  let m := (m.setUser 2 0o400 wpdr).setKernel 2 0o400 (pdrAccRw ||| pdrSiz8k)
  .ok (eok, { task with mmuState := m }, t)

/-- Get a chunk of memory and map it for both modes. `base` makes the page
address out of the address of the chunk. -/
def mapPage (page : Fin 8) (numBlocks flags ownerPAR : WORD) (base : WORD → WORD) (pdr : WORD) :
    Setup n := fun task t => do
  let (mcb, t) ← memGetblock t task.pid numBlocks flags ownerPAR
  match mcb with
  | some mcb =>
    let par := base (t.mmcbt mcb).blockAddr
    let m := (task.mmuState.setUser page par pdr).setKernel page par pdr
    return (eok, { task with mmuState := m }, t)
  | none => return (enomem, task, t)

/-- Pages of 8 KB for the program: page 3 always, page 4 for medium and big
tasks, page 5 for big ones. -/
def codePage (page : Fin 8) (ownerPAR : WORD) : Setup n :=
  mapPage page 0o200 0 ownerPAR id (pdrAccRw ||| pdrSiz8k)

def mediumPage : Setup n := fun task t =>
  if task.tsize = tszMed ∨ task.tsize = tszBig then codePage 4 4 task t else .ok (eok, task, t)

def bigPage : Setup n := fun task t =>
  if task.tsize = tszBig then codePage 5 5 task t else .ok (eok, task, t)

/-- The TUCB is at the end of the allocated space. -/
def placeTUCB : Setup n := fun task t =>
  let endalloc : WORD :=
    if task.tsize = tszBig then 8192 * 6 else if task.tsize = tszMed then 8192 * 5 else 8192 * 4
  .ok (eok, { task with taskTUCB := endalloc - tucbSize }, t)

/-- Since the stack grows downward, the page starts one stack size lower. -/
def stackPage : Setup n :=
  mapPage 6 0o100 mmcbFlgStk 6 (fun addr => addr - 0o100) (pdrAccRw ||| pdrSiz4k ||| pdrDirDn)

def ioPage : Setup n := fun task t =>
  let m := task.mmuState.setKernel 7 0o7600 (pdrAccRw ||| pdrSiz8k)
  let m :=
    if task.ioprv || task.operprv then m.setUser 7 0o7600 (pdrAccRw ||| pdrSiz8k)
    else if task.auditprv then m.setUser 7 0o7600 (pdrAccRo ||| pdrSiz8k)
    else m.setUser 7 0 (pdrAccNa ||| pdrSiz0k)
  .ok (eok, { task with mmuState := m }, t)

/-- Driver tasks get a buffer. It replaces the page a medium one has there. -/
def bufferPage : Setup n := fun task t =>
  if task.ttype = drvTask then
    mapPage 4 (drvBufsiz / 64) mmcbFlgBuf 5 id (pdrAccRw ||| pdrSiz1k) task t
  else .ok (eok, task, t)

def setupTaskmem : Setup n := fun task t =>
  if checkType task ≠ eok then .ok (checkType task, task, t)
  else
    (kernelPages.andThen <| (codePage 3 3).andThen <| mediumPage.andThen <| bigPage.andThen <|
      placeTUCB.andThen <| stackPage.andThen <| ioPage.andThen bufferPage) task t

/-! ## How the setup can fail to come back -/

def Setup.Stops (f : Setup n) : Prop :=
  ∀ ⦃task t e⦄, f task t = .error e → e.Stops

section Stops
variable {f g : Setup n}

theorem Setup.Stops.andThen (hf : f.Stops) (hg : g.Stops) : (f.andThen g).Stops := by
  intro task t e failed
  rcases bind_error.mp failed with first | ⟨⟨rc, task', t'⟩, -, rest⟩
  · exact hf first
  · dsimp only at rest
    split at rest
    · cases rest
    · exact hg rest

/-- A part that only some tasks go through. -/
theorem Setup.Stops.when {c : TCB n → Prop} [DecidablePred c] (hf : f.Stops) :
    Setup.Stops fun task t => if c task then f task t else .ok (eok, task, t) := by
  intro task t e failed
  dsimp only at failed
  split at failed
  · exact hf failed
  · cases failed

theorem mapPage_stops {page : Fin 8} {numBlocks flags ownerPAR pdr : WORD} {base : WORD → WORD} :
    (mapPage page numBlocks flags ownerPAR base pdr : Setup n).Stops := by
  intro task t e failed
  rcases bind_error.mp failed with first | ⟨⟨mcb, t'⟩, -, rest⟩
  · exact memGetblock_stops first
  · cases mcb with
    | some mcb => cases rest
    | none => cases rest

theorem setupTaskmem_stops : (setupTaskmem : Setup n).Stops := by
  have kernel : (kernelPages : Setup n).Stops := by intro task t e failed; cases failed
  have medium : (mediumPage : Setup n).Stops := mapPage_stops.when
  have big : (bigPage : Setup n).Stops := mapPage_stops.when
  have tucb : (placeTUCB : Setup n).Stops := by intro task t e failed; cases failed
  have io : (ioPage : Setup n).Stops := by intro task t e failed; cases failed
  have buffer : (bufferPage : Setup n).Stops := mapPage_stops.when
  intro task t e failed
  unfold setupTaskmem at failed
  split at failed
  · cases failed
  · exact (kernel.andThen <| mapPage_stops.andThen <| medium.andThen <| big.andThen <|
      tucb.andThen <| mapPage_stops.andThen <| io.andThen buffer) failed

end Stops

/-! ## What a setup asks for -/

/-- The arguments of a call of muxx_mem_getblock. -/
structure Ask where
  numBlocks : WORD
  flags : WORD
  page : WORD

/-- The memory requests of a task of the given type, in order. -/
def asks (type : WORD) : List Ask :=
  let medium := type &&& 0o70 = tszMed ∨ type &&& 0o70 = tszBig
  let big := type &&& 0o70 = tszBig
  let driver := type &&& 0o7 = drvTask
  [⟨0o200, 0, 3⟩] ++ (if medium then [⟨0o200, 0, 4⟩] else []) ++
    (if big then [⟨0o200, 0, 5⟩] else []) ++ [⟨0o100, mmcbFlgStk, 6⟩] ++
    (if driver then [⟨drvBufsiz / 64, mmcbFlgBuf, 5⟩] else [])

/-- Serve the requests of `pid` until one is answered NULL. -/
def serveAsks (t : MMCBT) (pid : WORD) : List Ask → Except Fault (Bool × MMCBT)
  | [] => .ok (true, t)
  | a :: more => do
    let (mcb, t) ← memGetblock t pid a.numBlocks a.flags a.page
    match mcb with
    | some _ => serveAsks t pid more
    | none => return (false, t)

/-- The part comes down to its requests, and keeps the pid and the type. -/
def Setup.Asks (f : Setup n) (more : WORD → List Ask) : Prop :=
  ∀ task t, (∀ e, f task t = .error e → serveAsks t task.pid (more task.taskType) = .error e) ∧
    ∀ rc task' t', f task t = .ok (rc, task', t') →
      serveAsks t task.pid (more task.taskType) = .ok (decide (rc = eok), t') ∧
      task'.pid = task.pid ∧ task'.taskType = task.taskType

section Asks
variable {f g : Setup n} {more after : WORD → List Ask}

theorem serveAsks_append (t : MMCBT) (pid : WORD) (xs ys : List Ask) :
    serveAsks t pid (xs ++ ys) = (do
      let (served, t) ← serveAsks t pid xs
      if served then serveAsks t pid ys else return (false, t)) := by
  induction xs generalizing t with
  | nil => rfl
  | cons a xs ih =>
    simp only [List.cons_append, serveAsks]
    cases memGetblock t pid a.numBlocks a.flags a.page with
    | error e => rfl
    | ok result =>
      obtain ⟨mcb, t'⟩ := result
      cases mcb with
      | none => rfl
      | some b => exact ih t'

theorem Setup.Asks.andThen (hf : f.Asks more) (hg : g.Asks after) :
    (f.andThen g).Asks fun type => more type ++ after type := by
  intro task t
  obtain ⟨failed, served⟩ := hf task t
  unfold Setup.andThen
  cases first : f task t with
  | error e =>
    constructor
    · intro e' he
      cases he
      rw [serveAsks_append, failed e first]
      rfl
    · intro rc task' t' he
      cases he
  | ok result =>
    obtain ⟨rc₁, task₁, t₁⟩ := result
    obtain ⟨answer, pid, type⟩ := served rc₁ task₁ t₁ first
    obtain ⟨failed', served'⟩ := hg task₁ t₁
    rw [pid, type] at failed' served'
    rw [serveAsks_append, answer]
    simp only [ok_bind, decide_eq_true_eq]
    by_cases ok : rc₁ = eok
    · simp only [ok, ne_eq, not_true, if_false, if_true]
      exact ⟨failed', served'⟩
    · simp only [ok, ne_eq, not_false_iff, if_true, if_false]
      constructor
      · intro e he
        cases he
      · intro rc task' t' he
        cases he
        exact ⟨by rw [decide_eq_false ok]; rfl, pid, type⟩

/-- A part that asks for nothing. -/
theorem Setup.asks_nothing (quiet : ∀ task t, ∃ task', f task t = .ok (eok, task', t) ∧
    task'.pid = task.pid ∧ task'.taskType = task.taskType) : f.Asks fun _ => [] := by
  intro task t
  obtain ⟨task', called, pid, type⟩ := quiet task t
  rw [called]
  constructor
  · intro e he
    cases he
  · intro rc task₁ t₁ he
    cases he
    exact ⟨rfl, pid, type⟩

theorem mapPage_asks {page : Fin 8} {numBlocks flags ownerPAR pdr : WORD} {base : WORD → WORD} :
    (mapPage page numBlocks flags ownerPAR base pdr : Setup n).Asks
      fun _ => [⟨numBlocks, flags, ownerPAR⟩] := by
  intro task t
  unfold mapPage
  simp only [serveAsks]
  cases memGetblock t task.pid numBlocks flags ownerPAR with
  | error e =>
    constructor
    · intro e' he
      cases he
      rfl
    · intro rc task' t' he
      cases he
  | ok result =>
    obtain ⟨mcb, t'⟩ := result
    constructor
    · intro e he
      cases mcb <;> cases he
    · intro rc task' t' he
      cases mcb <;> cases he <;> exact ⟨rfl, rfl, rfl⟩

/-- A part that only tasks of some types go through. -/
theorem Setup.Asks.when {c : WORD → Prop} [DecidablePred c] (hf : f.Asks more) :
    Setup.Asks (fun task t => if c task.taskType then f task t else .ok (eok, task, t))
      fun type => if c type then more type else [] := by
  intro task t
  by_cases goes : c task.taskType
  · simp only [if_pos goes]
    exact hf task t
  · simp only [if_neg goes]
    constructor
    · intro e he
      cases he
    · intro rc task' t' he
      cases he
      exact ⟨rfl, rfl, rfl⟩

/-- Setting up the memory of a task of a type that passes the check comes down
to the requests of that type. -/
theorem setupTaskmem_asks {task : TCB n} (valid : checkType task = eok) (t : MMCBT) :
    (∀ e, setupTaskmem task t = .error e → serveAsks t task.pid (asks task.taskType) = .error e) ∧
      ∀ rc task' t', setupTaskmem task t = .ok (rc, task', t') →
        serveAsks t task.pid (asks task.taskType) = .ok (decide (rc = eok), t') := by
  have kernel : (kernelPages : Setup n).Asks fun _ => [] :=
    Setup.asks_nothing fun task t => ⟨_, rfl, rfl, rfl⟩
  have first : (codePage 3 3 : Setup n).Asks fun _ => [⟨0o200, 0, 3⟩] := mapPage_asks
  have medium : (mediumPage : Setup n).Asks fun type =>
      if type &&& 0o70 = tszMed ∨ type &&& 0o70 = tszBig then [⟨0o200, 0, 4⟩] else [] :=
    Setup.Asks.when (c := fun type => type &&& 0o70 = tszMed ∨ type &&& 0o70 = tszBig) mapPage_asks
  have big : (bigPage : Setup n).Asks fun type =>
      if type &&& 0o70 = tszBig then [⟨0o200, 0, 5⟩] else [] :=
    Setup.Asks.when (c := fun type => type &&& 0o70 = tszBig) mapPage_asks
  have tucb : (placeTUCB : Setup n).Asks fun _ => [] :=
    Setup.asks_nothing fun task t => ⟨_, rfl, rfl, rfl⟩
  have stack : (stackPage : Setup n).Asks fun _ => [⟨0o100, mmcbFlgStk, 6⟩] := mapPage_asks
  have io : (ioPage : Setup n).Asks fun _ => [] :=
    Setup.asks_nothing fun task t => ⟨_, rfl, rfl, rfl⟩
  have buffer : (bufferPage : Setup n).Asks fun type =>
      if type &&& 0o7 = drvTask then [⟨drvBufsiz / 64, mmcbFlgBuf, 5⟩] else [] :=
    Setup.Asks.when (c := fun type => type &&& 0o7 = drvTask) mapPage_asks
  have all := (kernel.andThen <| first.andThen <| medium.andThen <| big.andThen <|
    tucb.andThen <| stack.andThen <| io.andThen buffer) task t
  unfold setupTaskmem
  rw [if_neg (not_not.mpr valid)]
  simp only [asks, List.append_assoc, List.nil_append] at all ⊢
  exact ⟨all.1, fun rc task' t' called => (all.2 rc task' t' called).1⟩

end Asks

/-! ## What the parts keep -/

/-- The page is not mapped or spans nothing outside of `lo` to `hi`. -/
def Lies (par pdr : WORD) (lo hi : Nat) : Prop :=
  par = 0 ∧ pdr = 0 ∨ ∀ a, Spans par pdr a → lo ≤ a ∧ a < hi

/-- The private pages of a task, 3 to 6, lie in its own memory. -/
def PagesLie (m : MMUSTATE) (lo hi : Nat) : Prop :=
  ∀ page : Fin 8, 3 ≤ page.val → page.val ≤ 6 →
    Lies (m.upar page) (m.updr page) lo hi ∧ Lies (m.kpar page) (m.kpdr page) lo hi

/-- `task` is `task₀` in the course of its setup, which began when `rs` had
been served. -/
structure SettingUp (task₀ : TCB n) (rs : List Request) (task : TCB n) (t : MMCBT) : Prop where
  same : task = { task₀ with mmuState := task.mmuState, taskTUCB := task.taskTUCB }
  run : ∃ new, Carved t (rs ++ new) ∧ (∀ r ∈ new, r.pid = task₀.pid) ∧
    PagesLie task.mmuState (0o700 + total rs) (0o700 + total (rs ++ new))
  shared : ¬ task₀.operprv → ¬ task₀.ioprv → ∀ page : Fin 8, page.val < 3 ∨ page.val = 7 →
    writable (task.mmuState.updr page) = false

/-- A part that succeeds and keeps the setup going. -/
def Keeps (task₀ : TCB n) (rs : List Request) (f : Setup n) : Prop :=
  ∀ ⦃task t rc task' t'⦄, SettingUp task₀ rs task t → f task t = .ok (rc, task', t') →
    rc = eok ∧ SettingUp task₀ rs task' t'

section Parts
variable {task₀ : TCB n} {rs : List Request} {f g : Setup n}

theorem Keeps.andThen (hf : Keeps task₀ rs f) (hg : Keeps task₀ rs g) :
    Keeps task₀ rs (f.andThen g) := by
  intro task t rc task' t' h called
  obtain ⟨⟨rc₁, task₁, t₁⟩, first, rest⟩ := bind_ok.mp called
  obtain ⟨rfl, h₁⟩ := hf h first
  exact hg h₁ rest

theorem Lies.mono {par pdr : WORD} {lo hi hi' : Nat} (h : Lies par pdr lo hi) (le : hi ≤ hi') :
    Lies par pdr lo hi' :=
  h.imp_right fun spans a ha => ⟨(spans a ha).1, Nat.lt_of_lt_of_le (spans a ha).2 le⟩

theorem PagesLie.mono {m : MMUSTATE} {lo hi hi' : Nat} (h : PagesLie m lo hi) (le : hi ≤ hi') :
    PagesLie m lo hi' := fun page low high =>
  ⟨(h page low high).1.mono le, (h page low high).2.mono le⟩

/-- Mapping one page leaves the others where they lie. -/
theorem PagesLie.setBoth {m : MMUSTATE} {lo hi : Nat} (h : PagesLie m lo hi) {page : Fin 8}
    {par pdr : WORD} (spans : ∀ a, Spans par pdr a → lo ≤ a ∧ a < hi) :
    PagesLie ((m.setUser page par pdr).setKernel page par pdr) lo hi := by
  intro p low high
  by_cases hp : p = page
  · subst hp
    simp only [MMUSTATE.setUser, MMUSTATE.setKernel, Function.update_self]
    exact ⟨.inr spans, .inr spans⟩
  · simp only [MMUSTATE.setUser, MMUSTATE.setKernel, Function.update_of_ne hp]
    exact h p low high

theorem mapPage_keeps (pid_range : 1 ≤ task₀.pid.toNat ∧ task₀.pid.toNat ≤ 0o777)
    {page : Fin 8} (private_page : 3 ≤ page.val ∧ page.val ≤ 6)
    {numBlocks flags ownerPAR pdr : WORD} {base : WORD → WORD}
    (size_range : 1 ≤ numBlocks.toNat ∧ numBlocks.toNat ≤ 128)
    (spans : ∀ addr : WORD, 0o700 ≤ addr.toNat → addr.toNat + numBlocks.toNat ≤ 4096 →
      ∀ a, Spans (base addr) pdr a → addr.toNat ≤ a ∧ a < addr.toNat + numBlocks.toNat) :
    Keeps task₀ rs (mapPage page numBlocks flags ownerPAR base pdr) := by
  intro task t rc task' t' h called
  obtain ⟨⟨mcb, t₁⟩, got, rest⟩ := bind_ok.mp called
  obtain ⟨new, carved, own, lies⟩ := h.run
  have pid : task.pid = task₀.pid := by rw [h.same]
  rw [pid] at got
  obtain ⟨rfl, carved'⟩ :=
    memGetblock_ok carved ⟨task₀.pid, numBlocks, flags, ownerPAR, pid_range, size_range⟩ got
  cases rest
  have room := carved'.room
  have addr := carved'.granted_addr
  rw [List.append_assoc] at carved'
  simp only [total_append, total_cons, total_nil] at room addr lies
  refine ⟨rfl, ?_, ⟨_, carved', ?_, ?_⟩, ?_⟩
  · rw [h.same]
  · intro r hr
    rcases List.mem_append.mp hr with hr | hr
    · exact own r hr
    · rw [List.mem_singleton.mp hr]
  · have addr_val : (t'.mmcbt (slot (rs ++ new).length)).blockAddr.toNat =
        0o700 + (total rs + total new) := by
      rw [addr, BitVec.toNat_ofNat, Nat.mod_eq_of_lt (by omega)]
    simp only [total_append, total_cons, total_nil]
    refine (lies.mono (by omega)).setBoth fun a ha => ?_
    have := spans _ (by omega) (by omega) a ha
    omega
  · intro oper io p hp
    have other : p ≠ page := by rintro rfl; omega
    simp only [MMUSTATE.setUser, MMUSTATE.setKernel, Function.update_of_ne other]
    exact h.shared oper io p hp

/-- A page of 8 KB spans exactly its chunk. -/
theorem codePage_spans (addr : WORD) (fits : addr.toNat + 128 ≤ 4096) (a : Nat)
    (h : Spans addr (pdrAccRw ||| pdrSiz8k) a) : addr.toNat ≤ a ∧ a < addr.toNat + 128 := by
  have len : plf (pdrAccRw ||| pdrSiz8k) = 127 := by decide
  have := h.upward (by decide) (by omega)
  omega

/-- So does the upper half of a page that starts 4 KB lower. -/
theorem stackPage_spans (addr : WORD) (low : 0o700 ≤ addr.toNat) (fits : addr.toNat + 64 ≤ 4096)
    (a : Nat) (h : Spans (addr - 0o100) (pdrAccRw ||| pdrSiz4k ||| pdrDirDn) a) :
    addr.toNat ≤ a ∧ a < addr.toNat + 64 := by
  have len : plf (pdrAccRw ||| pdrSiz4k ||| pdrDirDn) = 64 := by decide
  have base : (addr - 0o100).toNat = addr.toNat - 64 := by
    rw [BitVec.toNat_sub_of_le (by rw [BitVec.le_def]; simp; omega)]
    rfl
  have := h.downward (by decide) (by omega)
  omega

/-- The buffer's page spans 17 of its 32 blocks. -/
theorem bufferPage_spans (addr : WORD) (fits : addr.toNat + 32 ≤ 4096) (a : Nat)
    (h : Spans addr (pdrAccRw ||| pdrSiz1k) a) : addr.toNat ≤ a ∧ a < addr.toNat + 32 := by
  have len : plf (pdrAccRw ||| pdrSiz1k) = 16 := by decide
  have := h.upward (by decide) (by omega)
  omega

theorem codePage_keeps (pid_range : 1 ≤ task₀.pid.toNat ∧ task₀.pid.toNat ≤ 0o777)
    {page : Fin 8} (private_page : 3 ≤ page.val ∧ page.val ≤ 6) {ownerPAR : WORD} :
    Keeps task₀ rs (codePage page ownerPAR) := by
  apply mapPage_keeps pid_range private_page (by decide)
  intro addr _ fits a ha
  exact codePage_spans addr fits a ha

theorem mediumPage_keeps (pid_range : 1 ≤ task₀.pid.toNat ∧ task₀.pid.toNat ≤ 0o777) :
    Keeps task₀ rs mediumPage := by
  intro task t rc task' t' h called
  unfold mediumPage at called
  split at called
  · exact codePage_keeps pid_range (by decide) h called
  · cases called; exact ⟨rfl, h⟩

theorem bigPage_keeps (pid_range : 1 ≤ task₀.pid.toNat ∧ task₀.pid.toNat ≤ 0o777) :
    Keeps task₀ rs bigPage := by
  intro task t rc task' t' h called
  unfold bigPage at called
  split at called
  · exact codePage_keeps pid_range (by decide) h called
  · cases called; exact ⟨rfl, h⟩

theorem placeTUCB_keeps : Keeps task₀ rs placeTUCB := by
  intro task t rc task' t' h called
  cases called
  exact ⟨rfl, by rw [h.same], h.run, h.shared⟩

theorem stackPage_keeps (pid_range : 1 ≤ task₀.pid.toNat ∧ task₀.pid.toNat ≤ 0o777) :
    Keeps task₀ rs stackPage := by
  apply mapPage_keeps pid_range (by decide) (by decide)
  intro addr low fits a ha
  exact stackPage_spans addr low fits a ha

theorem ioPage_keeps : Keeps task₀ rs ioPage := by
  intro task t rc task' t' h called
  have oper : task.operprv = task₀.operprv := by rw [h.same]; rfl
  have io : task.ioprv = task₀.ioprv := by rw [h.same]; rfl
  cases called
  obtain ⟨new, carved, own, lies⟩ := h.run
  refine ⟨rfl, by rw [h.same], ⟨new, carved, own, ?_⟩, ?_⟩
  · intro p low high
    have other : p ≠ 7 := by rintro rfl; exact absurd high (by decide)
    have := lies p low high
    dsimp only
    split <;> [skip; split] <;>
      simpa only [MMUSTATE.setUser, MMUSTATE.setKernel, Function.update_of_ne other] using this
  · intro noOper noIo p hp
    rw [Bool.not_eq_true] at noOper noIo
    by_cases hp7 : p = 7
    · subst hp7
      simp only [oper, io, noOper, noIo, Bool.or_self, Bool.false_eq_true, if_false]
      split <;> simp only [MMUSTATE.setUser, Function.update_self] <;> decide
    · have kept := h.shared (by simpa using noOper) (by simpa using noIo) p hp
      dsimp only
      split <;> [skip; split] <;>
        simpa only [MMUSTATE.setUser, MMUSTATE.setKernel, Function.update_of_ne hp7] using kept

theorem bufferPage_keeps (pid_range : 1 ≤ task₀.pid.toNat ∧ task₀.pid.toNat ≤ 0o777) :
    Keeps task₀ rs bufferPage := by
  intro task t rc task' t' h called
  unfold bufferPage at called
  split at called
  · refine mapPage_keeps pid_range (by decide) (by decide) ?_ h called
    intro addr _ fits a ha
    rw [show (drvBufsiz / 64).toNat = 32 by decide] at fits ⊢
    exact bufferPage_spans addr fits a ha
  · cases called; exact ⟨rfl, h⟩

end Parts

/-- A task as muxx_taskinit leaves it: an assignable pid and no page mapped. -/
structure FreshTask (n : Nat) where
  task : TCB n
  pid_range : 1 ≤ task.pid.toNat ∧ task.pid.toNat ≤ 0o777
  unmapped : task.mmuState = {}

section Setup
variable (fresh : FreshTask n) {rs : List Request} {t t' : MMCBT} {rc : Int} {task' : TCB n}

theorem kernelPages_starts (h : Carved t rs)
    (called : kernelPages fresh.task t = .ok (rc, task', t')) :
    rc = eok ∧ SettingUp fresh.task rs task' t' := by
  cases called
  refine ⟨rfl, rfl, ⟨[], by simpa using h, by simp, ?_⟩, ?_⟩
  · intro p low high
    have h0 : p ≠ 0 := by rintro rfl; exact absurd low (by decide)
    have h1 : p ≠ 1 := by rintro rfl; exact absurd low (by decide)
    have h2 : p ≠ 2 := by rintro rfl; exact absurd low (by decide)
    simp only [MMUSTATE.setUser, MMUSTATE.setKernel, Function.update_of_ne h0,
      Function.update_of_ne h1, Function.update_of_ne h2, fresh.unmapped]
    exact ⟨.inl ⟨rfl, rfl⟩, .inl ⟨rfl, rfl⟩⟩
  · intro oper _ p hp
    have pages : p = 0 ∨ p = 1 ∨ p = 2 ∨ p = 7 := by omega
    simp only [oper, Bool.false_eq_true, if_false, MMUSTATE.setUser, MMUSTATE.setKernel,
      fresh.unmapped]
    rcases pages with rfl | rfl | rfl | rfl <;> decide

/-- A setup that comes back has either rejected the type of the task or mapped
its pages to memory it asked for under its own pid. -/
theorem setupTaskmem_ok (h : Carved t rs)
    (called : setupTaskmem fresh.task t = .ok (rc, task', t')) :
    rc = einvval ∧ task' = fresh.task ∧ t' = t ∨ rc = eok ∧ SettingUp fresh.task rs task' t' := by
  have range := fresh.pid_range
  unfold setupTaskmem at called
  split at called
  · rename_i invalid
    cases called
    exact .inl ⟨(checkType_codes _).resolve_left invalid, rfl, rfl⟩
  · refine .inr ?_
    obtain ⟨⟨rc₁, task₁, t₁⟩, first, rest⟩ := bind_ok.mp called
    obtain ⟨rfl, starts⟩ := kernelPages_starts fresh h first
    have page3 : Keeps fresh.task rs (codePage 3 3) := codePage_keeps range (by decide)
    exact (page3.andThen <| (mediumPage_keeps range).andThen <| (bigPage_keeps range).andThen <|
      placeTUCB_keeps.andThen <| (stackPage_keeps range).andThen <|
      ioPage_keeps.andThen (bufferPage_keeps range)) starts rest

end Setup

/-! ## Any number of tasks -/

/-- A program of the task reaches physical block `a` through pages 3 to 6, in
user or in kernel mode. -/
def Accessible (m : MMUSTATE) (a : Nat) : Prop :=
  ∃ page : Fin 8, 3 ≤ page.val ∧ page.val ≤ 6 ∧
    (Reads (m.upar page) (m.updr page) a ∨ Reads (m.kpar page) (m.kpdr page) a)

/-- Set up the tasks one after another; each call contributes its return code
and the task it leaves. -/
def setups : List (FreshTask n) → MMCBT → Except Fault (List (Int × TCB n) × MMCBT)
  | [], t => .ok ([], t)
  | fresh :: tasks, t => do
    let (rc, task, t) ← setupTaskmem fresh.task t
    let (results, t) ← setups tasks t
    return ((rc, task) :: results, t)

theorem Lies.reads {par pdr : WORD} {lo hi a : Nat} (h : Lies par pdr lo hi)
    (reads : Reads par pdr a) : lo ≤ a ∧ a < hi := by
  rcases h with ⟨-, rfl⟩ | spans
  · exact absurd reads.1 (by decide)
  · exact spans a reads.2

theorem PagesLie.accessible {m : MMUSTATE} {lo hi a : Nat} (h : PagesLie m lo hi)
    (access : Accessible m a) : lo ≤ a ∧ a < hi := by
  obtain ⟨page, low, high, reads | reads⟩ := access
  · exact (h page low high).1.reads reads
  · exact (h page low high).2.reads reads

/-- No physical block is accessible to both tasks. -/
def Apart (x y : Int × TCB n) : Prop :=
  x.1 = eok → y.1 = eok → ∀ a, ¬ (Accessible x.2.mmuState a ∧ Accessible y.2.mmuState a)

/-- Tasks that are set up one after another get memory above all that was
handed out before, and apart from each other. -/
theorem setups_apart {tasks : List (FreshTask n)} {rs : List Request} {t t' : MMCBT}
    {results : List (Int × TCB n)} (h : Carved t rs) (called : setups tasks t = .ok (results, t')) :
    results.Pairwise Apart ∧ ∀ x ∈ results, x.1 = eok → ∀ a, Accessible x.2.mmuState a →
      0o700 + total rs ≤ a := by
  induction tasks generalizing t rs results with
  | nil => cases called; exact ⟨.nil, by simp⟩
  | cons fresh tasks ih =>
    obtain ⟨⟨rc, task, t₁⟩, first, rest⟩ := bind_ok.mp called
    obtain ⟨⟨later, t₂⟩, others, ret⟩ := bind_ok.mp rest
    cases ret
    rcases setupTaskmem_ok fresh h first with ⟨failed, -, rfl⟩ | ⟨-, setUp⟩
    · obtain ⟨apart, above⟩ := ih h others
      have notOk : ¬ rc = eok := by rw [failed]; decide
      refine ⟨List.pairwise_cons.mpr ⟨fun y _ ok => absurd ok notOk, apart⟩, ?_⟩
      intro x hx ok
      rcases List.mem_cons.mp hx with rfl | hx
      · exact absurd ok notOk
      · exact above x hx ok
    · obtain ⟨new, carved, -, lies⟩ := setUp.run
      obtain ⟨apart, above⟩ := ih carved others
      refine ⟨List.pairwise_cons.mpr ⟨?_, apart⟩, ?_⟩
      · rintro y hy - ok a ⟨mine, yours⟩
        have := (lies.accessible mine).2
        have := above y hy ok a yours
        omega
      · intro x hx ok a access
        rcases List.mem_cons.mp hx with rfl | hx
        · exact (lies.accessible access).1
        · have := above x hx ok a access
          rw [total_append] at this
          omega

/-- However many tasks are set up, no block of physical memory is accessible
to two of them through their private pages, and none of the kernel's is. -/
theorem taskmem_disjoint (tasks : List (FreshTask n)) (results : List (Int × TCB n)) (t : MMCBT)
    (called : setups tasks memInit = .ok (results, t)) :
    results.Pairwise Apart ∧
      ∀ x ∈ results, x.1 = eok → ∀ a, Accessible x.2.mmuState a → ¬ a ≤ 0o677 := by
  obtain ⟨apart, above⟩ := setups_apart carved_init called
  refine ⟨apart, fun x hx ok a access => ?_⟩
  have := above x hx ok a access
  rw [total_nil] at this
  omega

/-- A small user task. -/
def smallTask : FreshTask n where
  task := { pid := 0o101, taskType := usrTask }
  pid_range := by simp
  unmapped := rfl

/-- A driver task of medium size, whose buffer replaces its second page. -/
def driverTask : FreshTask n where
  task := { pid := 0o2, taskType := drvTask ||| tszMed }
  pid_range := by simp
  unmapped := rfl

theorem taskmem_disjoint_pair :
    ∃ results t, setups [(smallTask : FreshTask 16), driverTask] memInit = .ok (results, t) ∧
      results.Pairwise Apart ∧
      ∀ x ∈ results, x.1 = eok → ∀ a, Accessible x.2.mmuState a → ¬ a ≤ 0o677 := by
  have returns : (setups [(smallTask : FreshTask 16), driverTask] memInit).isOk = true := by
    decide +kernel
  obtain ⟨⟨results, t⟩, called⟩ := isOk_iff.mp returns
  exact ⟨results, t, called, taskmem_disjoint _ results t called⟩

end Muxx
