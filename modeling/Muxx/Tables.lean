import Muxx.Handle
import Muxx.Lib.Bytes
import Muxx.Opens

/-!
# The tables in memory

`Muxx.Handle` follows words through memory, and `Muxx.Channels` has the tables
that the kernel sets up. For the entries of these tables both are the same
functions:

* `Cell`, `Layout.Carries`: memory with the tables of a kernel in it;
* `carries_made`: every kernel has such memory;
* `Carries.put`: a store is an update of the tables;
* `Carries.entry_iff`: the channels that are entries;
* `svcMutexAt_carries`, `svcAllocAt_carries`, `svcCloseAt_carries`: a service does
  to memory what it does to the tables.
-/

namespace Muxx

open Pdp11 Prog Fallible

/-! ## Halves of words -/

section Halves
variable {δ : Type} {s : KernelMode δ} {a : ADDRESS} {hi lo : BYTE}

theorem evenAt_pair (even : a.toNat % 2 = 0) : evenAt a = a ∧ evenAt (a + 1) = a := by
  have odd : (a + 1).toNat % 2 = 1 := by
    bv_omega
  have back : a + 1 + -1 = a := by
    bv_omega
  exact ⟨even_mask even, (mask_odd odd).1.trans back⟩

theorem odd_pair (even : a.toNat % 2 = 0) : a.getLsbD 0 = false ∧ (a + 1).getLsbD 0 = true :=
  ⟨even_bit even, (mask_odd (by bv_omega)).2⟩

/-- The low byte of a word is at its address, and the high byte behind it. -/
theorem getb_pair (there : s.space.At a) (pair : s.space.word a = hi ++ lo) :
    s.getb a = some lo ∧ s.getb (a + 1) = some hi := by
  obtain ⟨here, next⟩ := evenAt_pair there.1
  obtain ⟨low, high⟩ := odd_pair there.1
  rw [getb_at (here.symm ▸ there), getb_at (next.symm ▸ there), Space.byte, Space.byte, here, next,
    pair, byteOf, byteOf, if_neg (Bool.eq_false_iff.mp low), if_pos high]
  exact ⟨congrArg some BitVec.setWidth_append_eq_right,
    congrArg some BitVec.extractLsb'_append_eq_left⟩

theorem putb_pair (there : s.space.At a) (pair : s.space.word a = hi ++ lo) (b : BYTE) :
    s.putb a b = s.put a (hi ++ b) ∧ s.putb (a + 1) b = s.put a (b ++ lo) := by
  obtain ⟨here, next⟩ := evenAt_pair there.1
  obtain ⟨low, high⟩ := odd_pair there.1
  rw [putb_at (here.symm ▸ there), putb_at (next.symm ▸ there), put_there there, put_there there,
    Space.putByte, Space.putByte, here, next, pair, withByte, withByte,
    if_neg (Bool.eq_false_iff.mp low), if_pos high, BitVec.extractLsb'_append_eq_left,
    BitVec.setWidth_append_eq_right]
  exact ⟨rfl, rfl⟩

theorem setBit_getLsbD (w : WORD) (b : Bool) {i j : Nat} (within : i < 16) :
    (setBit w i b).getLsbD j = if j = i then b else w.getLsbD j := by
  unfold setBit
  cases b with
  | true =>
    rw [if_pos rfl, BitVec.getLsbD_or, BitVec.getLsbD_twoPow]
    by_cases same : j = i
    · simp [same, within]
    · simp [same, Ne.symm same]
  | false =>
    rw [if_neg Bool.false_ne_true, BitVec.getLsbD_and, BitVec.getLsbD_not, BitVec.getLsbD_twoPow]
    by_cases same : j = i
    · simp [same, within]
    · simp only [same, Ne.symm same, decide_false, if_false]
      by_cases inside : j < 16
      · simp [inside]
      · simp [inside, BitVec.getLsbD_of_ge w j (by omega)]

end Halves

/-! ## Where the tables are -/

/-- The words that the services use. Those of a task are the running one's. -/
inductive Cell
  | curtcb | drvcbtaddr | iott
  | mutexes (i : Fin 9)
  | pid | privileges | taskTUCB | t_errno
  | drvname (d : Fin maxDrv) (i : Fin 4) | drvStatus (d : Fin maxDrv) | ownerid (d : Fin maxDrv)
  | driver (io : Fin iotSentries) | status (io : Fin iotSentries) | unit (io : Fin iotSentries)
  | buffaddr (io : Fin iotSentries)
  deriving DecidableEq

/-- Where a kernel has its variables, tasks and tables. -/
structure Layout where
  sys : Symbols
  tcb : Fin maxTasks → ADDRESS
  drivers : ADDRESS
  iott : ADDRESS

namespace Layout
variable (L : Layout) (k : Kernel)

def drvcb (d : Fin maxDrv) : ADDRESS := L.drivers + 10 + BitVec.ofNat 16 (18 * d)

def iote (io : Fin iotSentries) : ADDRESS := L.iott + 10 + BitVec.ofNat 16 (16 * io)

/-- A pointer to a task. -/
def task : Option (Fin maxTasks) → ADDRESS
  | none => 0
  | some t => L.tcb t

def addr : Cell → ADDRESS
  | .curtcb => L.sys.curtcb
  | .drvcbtaddr => L.sys.drvcbtaddr
  | .iott => L.sys.iott
  | .mutexes i => L.sys.mutexes + BitVec.ofNat 16 (2 * i)
  | .pid => L.tcb k.curtcb + 8
  | .privileges => L.tcb k.curtcb + 20
  | .taskTUCB => L.tcb k.curtcb + 24
  | .t_errno => k.cur.taskTUCB + 8
  | .drvname d i => L.drvcb d + BitVec.ofNat 16 (2 * i)
  | .drvStatus d => L.drvcb d + 10
  | .ownerid d => L.drvcb d + 14
  | .driver io => L.iote io
  | .status io => L.iote io + 2
  | .unit io => L.iote io + 8
  | .buffaddr io => L.iote io + 14

/-- What the tables say of a word. -/
def Content (w : WORD) : Cell → Prop
  | .curtcb => w = L.tcb k.curtcb
  | .drvcbtaddr => w = L.drivers
  | .iott => w = L.iott
  | .mutexes i => w = k.mutexes (2 * i + 1) ++ k.mutexes (2 * i)
  | .pid => w = k.cur.pid
  | .privileges => w.getLsbD 0 = k.cur.operprv
  | .taskTUCB => w = k.cur.taskTUCB
  | .t_errno => w = intWord (k.t_errno k.curtcb)
  | .drvname d i =>
    w = (k.drvcbt d).drvname ⟨2 * i + 1, by omega⟩ ++ (k.drvcbt d).drvname ⟨2 * i, by omega⟩
  | .drvStatus d => w.getLsbD freeBit = (k.drvcbt d).free ∧ w.getLsbD allocBit = (k.drvcbt d).alloc
  | .ownerid d => w = L.task (k.drvcbt d).ownerid
  | .driver io => w = (k.iott io).driver.elim 0 L.drvcb
  | .status io =>
    w.getLsbD openBit = (k.iott io).opened ∧ w.getLsbD deallocBit = (k.iott io).dealloc
  | .unit io => w = (k.iott io).unit ++ (k.iott io).controller
  | .buffaddr io => w = 0 ↔ (k.iott io).buffaddr = none

variable {δ : Type}

/-- The tables of `k` are in memory, each word at a place of its own. -/
structure Carries (s : KernelMode δ) : Prop where
  ipl : s.ipl = k.ipl
  tasks : Function.Injective L.task
  apart : Function.Injective (L.addr k)
  there : ∀ c, s.space.At (L.addr k c)
  content : ∀ c, L.Content k (s.space.word (L.addr k c)) c

variable {L} {k} {s : KernelMode δ} {k' : Kernel} {c : Cell} {w : WORD}

/-- The tables after a store have the same tasks. -/
structure SameTasks (k k' : Kernel) : Prop where
  tct : k'.tct = k.tct
  curtcb : k'.curtcb = k.curtcb
  ipl : k'.ipl = k.ipl

theorem SameTasks.addr (same : SameTasks k k') : L.addr k' = L.addr k := by
  funext c
  cases c <;> simp only [Layout.addr, Kernel.cur, same.tct, same.curtcb]

/-- A store to the word of a cell, where the tables change in nothing else. -/
theorem Carries.put (h : L.Carries k s) (same : SameTasks k k') (c : Cell)
    (new : L.Content k' w c) (others : ∀ c' v, c' ≠ c → L.Content k v c' → L.Content k' v c') :
    ∃ s', s.put (L.addr k c) w = some s' ∧ L.Carries k' s' := by
  refine ⟨_, put_there (h.there c), ?_⟩
  constructor
  · exact h.ipl.trans same.ipl.symm
  · exact h.tasks
  · rw [same.addr]
    exact h.apart
  · rw [same.addr]
    exact h.there
  · intro c'
    rw [same.addr, onto_space]
    by_cases it : c' = c
    · rw [it, Space.put_self]
      exact new
    · rw [Space.put_ne _ _ fun eq => it (h.apart eq)]
      exact others c' _ it (h.content c')

theorem Carries.get (h : L.Carries k s) (c : Cell) :
    s.get (L.addr k c) = some (s.space.word (L.addr k c)) :=
  get_at (h.there c)

theorem Carries.setpl (h : L.Carries k s) (pl : Nat) : L.Carries (k.setpl pl) (s.setpl pl) :=
  ⟨rfl, h.tasks, h.apart, h.there, h.content⟩

/-! ## Mutexes -/

section Mutex
variable {mutex : WORD}

theorem Carries.getCurtcb (h : L.Carries k s) : s.get L.sys.curtcb = some (L.tcb k.curtcb) :=
  (h.get .curtcb).trans (congrArg some (h.content .curtcb))

theorem Carries.getPid (h : L.Carries k s) : L.sys.getCur s 8 = some k.cur.pid := by
  rw [Symbols.getCur, h.getCurtcb]
  exact (h.get .pid).trans (congrArg some (h.content .pid))

/-- A mutex is one of the two in its word. -/
theorem mutex_cell (L : Layout) (k : Kernel) (valid : mutex ≤ mutMutexes) : ∃ i : Fin 9,
    mutex.toNat = 2 * i ∧ L.sys.mutexes + mutex = L.addr k (.mutexes i) ∨
      mutex.toNat = 2 * i + 1 ∧ L.sys.mutexes + mutex = L.addr k (.mutexes i) + 1 := by
  have few : mutex.toNat ≤ 16 := valid
  refine ⟨⟨mutex.toNat / 2, by omega⟩, ?_⟩
  simp only [addr]
  obtain even | odd := Nat.mod_two_eq_zero_or_one mutex.toNat
  · left
    constructor
    · omega
    · bv_omega
  · right
    constructor
    · omega
    · bv_omega

theorem Carries.getMutex (h : L.Carries k s) (valid : mutex ≤ mutMutexes) :
    s.getb (L.sys.mutexes + mutex) = some (k.mutexes mutex.toNat) := by
  obtain ⟨i, ⟨index, place⟩ | ⟨index, place⟩⟩ := mutex_cell L k valid
  · rw [place, index]
    exact (getb_pair (h.there _) (h.content (.mutexes i))).1
  · rw [place, index]
    exact (getb_pair (h.there _) (h.content (.mutexes i))).2

theorem Carries.putMutex (h : L.Carries k s) (valid : mutex ≤ mutMutexes) (b : BYTE) :
    ∃ s', s.putb (L.sys.mutexes + mutex) b = some s' ∧
      L.Carries (k.setMutex mutex.toNat b) s' := by
  obtain ⟨i, which⟩ := mutex_cell L k valid
  have others (c : Cell) (v : WORD) (other : c ≠ .mutexes i) (before : L.Content k v c) :
      L.Content (k.setMutex mutex.toNat b) v c := by
    cases c with
    | mutexes j =>
      have apart : (j : Nat) ≠ i := fun eq => other (congrArg Cell.mutexes (Fin.ext eq))
      show v = Function.update k.mutexes _ _ _ ++ Function.update k.mutexes _ _ _
      rw [Function.update_of_ne (by omega), Function.update_of_ne (by omega)]
      exact before
    | _ => exact before
  have same : SameTasks k (k.setMutex mutex.toNat b) := ⟨rfl, rfl, rfl⟩
  have stored := putb_pair (h.there _) (h.content (.mutexes i)) b
  obtain ⟨index, place⟩ | ⟨index, place⟩ := which
  · rw [place, stored.1]
    refine h.put same (.mutexes i) ?_ others
    rw [Content, Kernel.setMutex_mutexes, index, Function.update_self,
      Function.update_of_ne (by omega)]
  · rw [place, stored.2]
    refine h.put same (.mutexes i) ?_ others
    rw [Content, Kernel.setMutex_mutexes, index, Function.update_self,
      Function.update_of_ne (by omega)]

/-- muxx_svc_mutex is the same on memory and on the table. -/
theorem svcMutexAt_carries (h : L.Carries k s) (mutex op : WORD) :
    ∃ s', L.sys.svcMutexAt s mutex op = some ((svcMutex k mutex op).1, s') ∧
      L.Carries (svcMutex k mutex op).2 s' := by
  by_cases invalid : mutex > mutMutexes
  · exact ⟨s, by rw [Symbols.svcMutexAt, svcMutex, if_pos invalid, if_pos invalid],
      by rwa [svcMutex, if_pos invalid]⟩
  have valid : mutex ≤ mutMutexes := BitVec.not_lt.mp invalid
  have raised : L.Carries k.setpl7 s.setpl7 := h.setpl 7
  have byte : s.setpl7.getb (L.sys.mutexes + mutex) = some (k.mutexes mutex.toNat) :=
    raised.getMutex valid
  have pid : L.sys.getCur s.setpl7 8 = some k.cur.pid := raised.getPid
  rw [Symbols.svcMutexAt, svcMutex, if_neg invalid, if_neg invalid]
  by_cases isRead : op = mutRead
  · rw [if_pos isRead, if_pos isRead, h.getMutex valid]
    exact ⟨s, rfl, h⟩
  rw [if_neg isRead, if_neg isRead]
  by_cases isAlloc : op = mutAlloc
  · rw [if_pos isAlloc, if_pos isAlloc]
    simp only [byte, pid, Option.bind_eq_bind, Option.bind_some]
    by_cases free : k.mutexes mutex.toNat = 0
    · obtain ⟨s', stored, after⟩ := raised.putMutex valid (keptPid k.cur.pid)
      rw [stored, if_pos free, if_pos (show k.setpl7.mutexes mutex.toNat = 0 from free), h.ipl]
      exact ⟨s'.setpl k.ipl, rfl, after.setpl k.ipl⟩
    · rw [if_neg free, if_neg (show k.setpl7.mutexes mutex.toNat ≠ 0 from free)]
      exact ⟨s.setpl7, rfl, raised⟩
  rw [if_neg isAlloc, if_neg isAlloc]
  by_cases isDealloc : op = mutDealloc
  · rw [if_pos isDealloc, if_pos isDealloc]
    simp only [byte, pid, Option.bind_eq_bind, Option.bind_some]
    by_cases own : (k.mutexes mutex.toNat).setWidth 16 = k.cur.pid
    · obtain ⟨s', stored, after⟩ := raised.putMutex valid 0
      have own' : (k.setpl7.mutexes mutex.toNat).setWidth 16 = k.setpl7.cur.pid := own
      rw [stored, if_pos own, if_pos own', h.ipl]
      exact ⟨s'.setpl k.ipl, rfl, after.setpl k.ipl⟩
    · have own' : (k.setpl7.mutexes mutex.toNat).setWidth 16 ≠ k.setpl7.cur.pid := own
      rw [if_neg own, if_neg own']
      exact ⟨s.setpl7, rfl, raised⟩
  · rw [if_neg isDealloc, if_neg isDealloc]
    exact ⟨s, rfl, h⟩

end Mutex

/-! ## Names -/

section Names
variable {a b devnam : ADDRESS} {name : Name}

/-- The eight characters at an address. -/
def NameAt (s : KernelMode δ) (a : ADDRESS) (name : Name) : Prop :=
  ∀ j : Fin 8, s.getb (a + BitVec.ofNat 16 j) = some (name j)

theorem Carries.drvname (h : L.Carries k s) (d : Fin maxDrv) :
    NameAt s (L.drvcb d) (k.drvcbt d).drvname := by
  intro j
  have few := j.isLt
  have pair := getb_pair (h.there (.drvname d ⟨j / 2, by omega⟩)) (h.content (.drvname d _))
  obtain even | odd := Nat.mod_two_eq_zero_or_one j
  · have index : 2 * (j.val / 2) = j := by
      omega
    simp only [addr, index] at pair
    exact pair.1
  · have index : 2 * (j.val / 2) + 1 = j := by
      omega
    have next : L.drvcb d + BitVec.ofNat 16 (2 * (j.val / 2)) + 1 =
        L.drvcb d + BitVec.ofNat 16 j := by
      bv_omega
    simp only [addr, index, next] at pair
    exact pair.2

theorem memcmpAt_equal {n : Nat} {x y : Fin n → BYTE}
    (left : ∀ j : Fin n, s.getb (a + BitVec.ofNat 16 j) = some (x j))
    (right : ∀ j : Fin n, s.getb (b + BitVec.ofNat 16 j) = some (y j)) :
    Symbols.memcmpAt s a b n = some (decide (x = y)) := by
  induction n generalizing a b with
  | zero =>
    have same : x = y := funext fun j => j.elim0
    rw [decide_eq_true same]
    rfl
  | succ n ih =>
    have first : s.getb a = some (x 0) := by
      have here := left 0
      rwa [Fin.val_zero, BitVec.add_zero] at here
    have second : s.getb b = some (y 0) := by
      have here := right 0
      rwa [Fin.val_zero, BitVec.add_zero] at here
    have next (a : ADDRESS) (j : Nat) :
        a + 1 + BitVec.ofNat 16 j = a + BitVec.ofNat 16 (j + 1) := by
      bv_omega
    have rest := ih (x := fun j => x j.succ) (y := fun j => y j.succ) (a := a + 1) (b := b + 1)
      (fun j => by rw [next]; exact left j.succ) (fun j => by rw [next]; exact right j.succ)
    simp only [Symbols.memcmpAt, first, second, Option.bind_eq_bind, Option.bind_some, rest]
    by_cases same : x 0 = y 0
    · rw [if_pos same]
      congr 1
      rw [decide_eq_decide, funext_iff, funext_iff, Fin.forall_fin_succ, and_iff_right same]
    · rw [if_neg same, decide_eq_false fun eq => same (congrFun eq 0)]
      rfl

theorem Carries.getFree (h : L.Carries k s) (d : Fin maxDrv) :
    s.getBit (L.drvcb d + 10) freeBit = some (k.drvcbt d).free :=
  (getBit_at (h.there (.drvStatus d))).trans (congrArg some (h.content (.drvStatus d)).1)

theorem findDriverLoop_carries (h : L.Carries k s) (named : NameAt s devnam name)
    (ds : List (Fin maxDrv)) :
    Symbols.findDriverLoop s L.drivers devnam (ds.map Fin.val) =
      some ((ds.find? fun d => !(k.drvcbt d).free && (k.drvcbt d).drvname = name).map L.drvcb) := by
  induction ds with
  | nil => rfl
  | cons d ds ih =>
    have free := h.getFree d
    have same := memcmpAt_equal named (h.drvname d)
    rw [List.map_cons, Symbols.findDriverLoop, List.find?_cons]
    show (s.getBit (L.drvcb d + 10) freeBit).bind _ = _
    rw [free, Option.bind_some]
    cases isFree : (k.drvcbt d).free with
    | true => exact ih
    | false =>
      show (Symbols.memcmpAt s devnam (L.drvcb d) 8).bind _ = _
      rw [same, Option.bind_some]
      by_cases it : (k.drvcbt d).drvname = name
      · simp only [it, decide_true, if_true, Bool.not_false, Bool.and_self]
        rfl
      · simp only [it, Ne.symm it, decide_false, Bool.and_false]
        exact ih

end Names

/-! ## Devices -/

section Devices
variable {devnam : ADDRESS} {name : Name} {π : Type} (pt : AllocStep → π)

theorem Carries.findDriver (h : L.Carries k s) (named : NameAt s devnam name) :
    L.sys.findDriverAt s devnam = some ((findDriver k.drvcbt name).map L.drvcb) := by
  have drivers : s.get L.sys.drvcbtaddr = some L.drivers :=
    (h.get .drvcbtaddr).trans (congrArg some (h.content .drvcbtaddr))
  rw [Symbols.findDriverAt, drivers]
  show Symbols.findDriverLoop s L.drivers devnam (List.range maxDrv) = _
  rw [← List.map_coe_finRange_eq_range]
  exact findDriverLoop_carries h named _

theorem Carries.putBit (h : L.Carries k s) (c : Cell) (i : Nat) (b : Bool) :
    s.putBit (L.addr k c) i b = s.put (L.addr k c) (setBit (s.space.word (L.addr k c)) i b) := by
  rw [KernelMode.putBit, h.get c]
  rfl

theorem modifyDriver_self (k : Kernel) (d : Fin maxDrv) (f : DRVCB → DRVCB) :
    (k.modifyDriver d f).drvcbt d = f (k.drvcbt d) :=
  Function.update_self ..

theorem modifyDriver_ne (k : Kernel) {d e : Fin maxDrv} (f : DRVCB → DRVCB) (h : e ≠ d) :
    (k.modifyDriver d f).drvcbt e = k.drvcbt e :=
  Function.update_of_ne h ..

/-- A store in a driver control block that changes one of its words. -/
theorem Carries.putDriver (h : L.Carries k s) (d : Fin maxDrv) (f : DRVCB → DRVCB) (c : Cell)
    (new : L.Content (k.modifyDriver d f) w c)
    (drvname : (f (k.drvcbt d)).drvname = (k.drvcbt d).drvname)
    (status : c ≠ .drvStatus d → (f (k.drvcbt d)).free = (k.drvcbt d).free ∧
      (f (k.drvcbt d)).alloc = (k.drvcbt d).alloc)
    (ownerid : c ≠ .ownerid d → (f (k.drvcbt d)).ownerid = (k.drvcbt d).ownerid) :
    ∃ s', s.put (L.addr k c) w = some s' ∧ L.Carries (k.modifyDriver d f) s' := by
  have same : SameTasks k (k.modifyDriver d f) := ⟨rfl, rfl, rfl⟩
  refine h.put same c new fun c' v other before => ?_
  cases c' with
  | drvname e i | drvStatus e | ownerid e =>
    by_cases it : e = d
    · subst it
      simp only [Content, modifyDriver_self, drvname, status, ownerid, other.symm, ne_eq,
        not_false_eq_true] at before ⊢
      exact before
    · rw [Content, modifyDriver_ne _ _ it]
      exact before
  | _ => exact before

theorem Carries.putOwner (h : L.Carries k s) (d : Fin maxDrv) (owner : Option (Fin maxTasks)) :
    ∃ s', s.put (L.drvcb d + 14) (L.task owner) = some s' ∧
      L.Carries (k.modifyDriver d ({ · with ownerid := owner })) s' := by
  refine h.putDriver d _ (.ownerid d) ?_ rfl (fun _ => ⟨rfl, rfl⟩) fun other => absurd rfl other
  rw [Content, modifyDriver_self]

theorem Carries.putAlloc (h : L.Carries k s) (d : Fin maxDrv) (b : Bool) :
    ∃ s', s.putBit (L.drvcb d + 10) allocBit b = some s' ∧
      L.Carries (k.modifyDriver d ({ · with alloc := b })) s' := by
  have stored := h.putBit (.drvStatus d) allocBit b
  simp only [addr] at stored
  rw [stored]
  refine h.putDriver d _ (.drvStatus d) ?_ rfl (fun other => absurd rfl other) fun _ => rfl
  rw [Content, modifyDriver_self, setBit_getLsbD _ _ (by decide), setBit_getLsbD _ _ (by decide)]
  exact ⟨(h.content (.drvStatus d)).1, rfl⟩

theorem Carries.getAlloc (h : L.Carries k s) (d : Fin maxDrv) :
    s.getBit (L.drvcb d + 10) allocBit = some (k.drvcbt d).alloc :=
  (getBit_at (h.there (.drvStatus d))).trans (congrArg some (h.content (.drvStatus d)).2)

theorem Carries.getOwner (h : L.Carries k s) (d : Fin maxDrv) :
    s.get (L.drvcb d + 14) = some (L.task (k.drvcbt d).ownerid) :=
  (h.get (.ownerid d)).trans (congrArg some (h.content (.ownerid d)))

theorem Carries.getOperprv (h : L.Carries k s) :
    s.getBit (L.tcb k.curtcb + 20) 0 = some k.cur.operprv :=
  (getBit_at (h.there .privileges)).trans (congrArg some (h.content .privileges))

/-- What is done with the mutex. -/
theorem allocLocked_carries (h : L.Carries k s) (d : Fin maxDrv) (op : WORD) :
    ∃ rc k' s', run (if op = drvAlloc then allocDriver pt d else deallocDriver pt d) k =
        .ok (rc, k') ∧
      L.sys.allocLocked s (L.drvcb d) op = some (rc, s') ∧ L.Carries k' s' := by
  have alloc := h.getAlloc d
  by_cases isAlloc : op = drvAlloc
  · rw [if_pos isAlloc, Symbols.allocLocked]
    simp only [alloc, Option.bind_eq_bind, Option.bind_some, if_pos isAlloc, h.getCurtcb]
    cases taken : (k.drvcbt d).alloc with
    | true => exact ⟨enoavail, k, s, by simp [allocDriver, taken], rfl, h⟩
    | false =>
      obtain ⟨s₁, owner, h₁⟩ := h.putOwner d (some k.curtcb)
      obtain ⟨s₂, flag, h₂⟩ := h₁.putAlloc d true
      refine ⟨eok, _, s₂, by simp [allocDriver, taken], ?_, h₂⟩
      rw [if_pos Bool.false_ne_true]
      show (s.put (L.drvcb d + 14) (L.task (some k.curtcb))).bind _ = _
      rw [owner, Option.bind_some, flag]
      rfl
  · rw [if_neg isAlloc, Symbols.allocLocked]
    simp only [alloc, Option.bind_eq_bind, Option.bind_some, if_neg isAlloc]
    cases taken : (k.drvcbt d).alloc with
    | true =>
      obtain ⟨s₁, owner, h₁⟩ := h.putOwner d none
      obtain ⟨s₂, flag, h₂⟩ := h₁.putAlloc d false
      have stored (rc : Int) : (s.put (L.drvcb d + 14) (L.task none)).bind (fun s =>
          (s.putBit (L.drvcb d + 10) allocBit false).bind fun s => some (rc, s)) =
            some (rc, s₂) := by
        rw [owner, Option.bind_some, flag]
        rfl
      rw [if_pos rfl, h.getOwner d, Option.bind_some, h.getCurtcb, Option.bind_some]
      by_cases own : (k.drvcbt d).ownerid = some k.curtcb
      · have same : L.task (k.drvcbt d).ownerid = L.tcb k.curtcb := congrArg L.task own
        rw [if_neg (not_not.mpr same)]
        exact ⟨eok, _, s₂, by simp [deallocDriver, taken, own], stored eok, h₂⟩
      · have apart : L.task (k.drvcbt d).ownerid ≠ L.tcb k.curtcb := fun eq =>
          own (h.tasks (show _ = L.task (some k.curtcb) from eq))
        rw [if_pos apart, h.getOperprv]
        exact ⟨if k.cur.operprv then enopriv else eok, _, s₂,
          by simp [deallocDriver, taken, own], stored _, h₂⟩
    | false => exact ⟨enotalloc, k, s, by simp [deallocDriver, taken], rfl, h⟩

/-- muxx_svc_alloc is the same on memory and on the tables. -/
theorem svcAllocAt_carries (h : L.Carries k s) (named : NameAt s devnam name) (op : WORD) :
    ∃ rc k' s', run (svcAlloc pt name op) k = .ok (rc, k') ∧
      L.sys.svcAllocAt s devnam op = some (rc, s') ∧ L.Carries k' s' := by
  have found := h.findDriver named
  rw [Symbols.svcAllocAt]
  simp only [found, Option.bind_eq_bind, Option.bind_some]
  cases missing : findDriver k.drvcbt name with
  | none => exact ⟨enotfound, k, s, run_svcAlloc_missing missing, rfl, h⟩
  | some d =>
    obtain ⟨s₁, lock, h₁⟩ := svcMutexAt_carries h mutDrv mutAlloc
    simp only [Option.map_some, lock, Option.bind_some, svcAlloc, run_bind, run_read, ok_bind,
      missing, run_call]
    by_cases got : (svcMutex k mutDrv mutAlloc).1 = eok
    · obtain ⟨rc, k₂, s₂, table, memory, h₂⟩ := allocLocked_carries pt h₁ d op
      obtain ⟨s₃, unlock, h₃⟩ := svcMutexAt_carries h₂ mutDrv mutDealloc
      refine ⟨rc, _, s₃, ?_, ?_, h₃⟩
      · simp only [if_pos got, run_bind, table, ok_bind, run_call]
        rfl
      · simp only [if_pos got, memory, Option.bind_some, unlock]
        rfl
    · exact ⟨_, _, s₁, by simp only [if_neg got]; rfl, by simp only [if_neg got]; rfl, h₁⟩

end Devices

/-! ## Channels -/

section Channels
variable {io : Fin iotSentries}

/-- A store in an entry that changes one of its words. -/
theorem Carries.putIote (h : L.Carries k s) (io : Fin iotSentries) (f : IOTE → IOTE) (c : Cell)
    (new : L.Content (k.modifyIote io f) w c)
    (driver : c ≠ .driver io → (f (k.iott io)).driver = (k.iott io).driver)
    (status : c ≠ .status io → (f (k.iott io)).opened = (k.iott io).opened ∧
      (f (k.iott io)).dealloc = (k.iott io).dealloc)
    (unit : c ≠ .unit io → (f (k.iott io)).unit = (k.iott io).unit ∧
      (f (k.iott io)).controller = (k.iott io).controller)
    (buffaddr : (f (k.iott io)).buffaddr = (k.iott io).buffaddr) :
    ∃ s', s.put (L.addr k c) w = some s' ∧ L.Carries (k.modifyIote io f) s' := by
  have same : SameTasks k (k.modifyIote io f) := ⟨rfl, rfl, rfl⟩
  refine h.put same c new fun c' v other before => ?_
  cases c' with
  | driver e | status e | unit e | buffaddr e =>
    by_cases it : e = io
    · subst it
      simp only [Content, Kernel.modifyIote_self, driver, status, unit, buffaddr, other.symm, ne_eq,
        not_false_eq_true] at before ⊢
      exact before
    · rw [Content, Kernel.modifyIote_ne _ _ _ it]
      exact before
  | _ => exact before

theorem Carries.putOpened (h : L.Carries k s) (io : Fin iotSentries) (b : Bool) :
    ∃ s', s.putBit (L.iote io + 2) openBit b = some s' ∧
      L.Carries (k.modifyIote io ({ · with opened := b })) s' := by
  have stored := h.putBit (.status io) openBit b
  simp only [addr] at stored
  rw [stored]
  refine h.putIote io _ (.status io) ?_ (fun _ => rfl) (fun other => absurd rfl other)
    (fun _ => ⟨rfl, rfl⟩) rfl
  rw [Content, Kernel.modifyIote_self, setBit_getLsbD _ _ (by decide), setBit_getLsbD _ _ (by decide)]
  exact ⟨rfl, (h.content (.status io)).2⟩

theorem Carries.putNoDriver (h : L.Carries k s) (io : Fin iotSentries) :
    ∃ s', s.put (L.iote io) 0 = some s' ∧
      L.Carries (k.modifyIote io ({ · with driver := none })) s' := by
  refine h.putIote io _ (.driver io) ?_ (fun other => absurd rfl other) (fun _ => ⟨rfl, rfl⟩)
    (fun _ => ⟨rfl, rfl⟩) rfl
  rw [Content, Kernel.modifyIote_self]
  rfl

theorem Carries.putController (h : L.Carries k s) (io : Fin iotSentries) (b : BYTE) :
    ∃ s', s.putb (L.iote io + 8) b = some s' ∧
      L.Carries (k.modifyIote io ({ · with controller := b })) s' := by
  have stored := (putb_pair (h.there (.unit io)) (h.content (.unit io)) b).1
  simp only [addr] at stored
  rw [stored]
  refine h.putIote io _ (.unit io) ?_ (fun _ => rfl) (fun _ => ⟨rfl, rfl⟩)
    (fun other => absurd rfl other) rfl
  rw [Content, Kernel.modifyIote_self]

theorem Carries.putUnit (h : L.Carries k s) (io : Fin iotSentries) (b : BYTE) :
    ∃ s', s.putb (L.iote io + 9) b = some s' ∧
      L.Carries (k.modifyIote io ({ · with unit := b })) s' := by
  have next : L.iote io + 8 + 1 = L.iote io + 9 := by
    bv_omega
  have stored := (putb_pair (h.there (.unit io)) (h.content (.unit io)) b).2
  simp only [addr, next] at stored
  rw [stored]
  refine h.putIote io _ (.unit io) ?_ (fun _ => rfl) (fun _ => ⟨rfl, rfl⟩)
    (fun other => absurd rfl other) rfl
  rw [Content, Kernel.modifyIote_self]

theorem Carries.setErrno (h : L.Carries k s) (rc : Int) :
    ∃ s', L.sys.setErrno s rc = some s' ∧ L.Carries (k.setErrno rc) s' := by
  have tucb : L.sys.getCur s 24 = some k.cur.taskTUCB := by
    rw [Symbols.getCur, h.getCurtcb]
    exact (h.get .taskTUCB).trans (congrArg some (h.content .taskTUCB))
  rw [Symbols.setErrno, tucb]
  have same : SameTasks k (k.setErrno rc) := ⟨rfl, rfl, rfl⟩
  show ∃ s', s.put (L.addr k .t_errno) (intWord rc) = some s' ∧ _
  refine h.put same .t_errno ?_ fun c v other before => ?_
  · show intWord rc = intWord ((k.setErrno rc).t_errno k.curtcb)
    rw [setErrno_errno]
  · cases c with
    | t_errno => exact absurd rfl other
    | _ => exact before

theorem Carries.getEntry (h : L.Carries k s) (io : Fin iotSentries) :
    s.getBit (L.iote io + 2) openBit = some (k.iott io).opened ∧
      s.getBit (L.iote io + 2) deallocBit = some (k.iott io).dealloc := by
  obtain ⟨opened, dealloc⟩ := h.content (.status io)
  exact ⟨(getBit_at (h.there (.status io))).trans (congrArg some opened),
    (getBit_at (h.there (.status io))).trans (congrArg some dealloc)⟩

/-- The entries that a channel can be are those of the table. -/
theorem Carries.entry_iff (h : L.Carries k s) {channel : ADDRESS} :
    L.sys.Entry s.space channel ↔ ∃ io, channel = L.iote io := by
  have base : s.space.word L.sys.iott = L.iott := h.content .iott
  rw [Symbols.Entry, base]
  rfl

/-- The end of a close that finds the channel open. -/
def release (io : Fin iotSentries) : Service Int := do
  writeIote .closing io ({ · with opened := false })
  writeIote .closing io ({ · with driver := none })
  writeIote .closing io ({ · with controller := 0 })
  writeIote .closing io ({ · with unit := 0 })
  let buffer ← readIote .closing io (·.buffaddr)
  if buffer = none then
    return eok
  else
    let _ ← deallocateIobuffer .closing buffer
    return eok

theorem releaseAt_carries (h : L.Carries k s) (io : Fin iotSentries) :
    ∃ k' s', run (release io) k = .ok (eok, k') ∧ L.sys.releaseAt s (L.iote io) = some s' ∧
      L.Carries k' s' := by
  obtain ⟨s₁, opened, h₁⟩ := h.putOpened io false
  obtain ⟨s₂, driver, h₂⟩ := h₁.putNoDriver io
  obtain ⟨s₃, controller, h₃⟩ := h₂.putController io 0
  obtain ⟨s₄, unit, h₄⟩ := h₃.putUnit io 0
  have buffer : s₄.get (L.iote io + 14) = some (s₄.space.word (L.iote io + 14)) :=
    h₄.get (.buffaddr io)
  have none_iff := h₄.content (.buffaddr io)
  obtain ⟨k₄, at_k₄⟩ : ∃ k₄, k₄ = (((k.modifyIote io ({ · with opened := false })).modifyIote io
    ({ · with driver := none })).modifyIote io ({ · with controller := 0 })).modifyIote io
      ({ · with unit := 0 }) := ⟨_, rfl⟩
  rw [← at_k₄] at h₄ none_iff
  rw [Symbols.releaseAt]
  simp only [opened, driver, controller, unit, buffer, Option.bind_eq_bind, Option.bind_some]
  simp only [release, run_bind, run_writeIote, run_readIote, ok_bind, ← at_k₄]
  by_cases free : (k₄.iott io).buffaddr = none
  · have null : s₄.space.word (L.iote io + 14) = 0 := none_iff.mpr free
    rw [if_pos free, if_neg (not_not.mpr null)]
    exact ⟨k₄, s₄, rfl, rfl, h₄⟩
  · have given : s₄.space.word (L.iote io + 14) ≠ 0 := fun null => free (none_iff.mp null)
    obtain ⟨s₅, errno, h₅⟩ := h₄.setErrno enoimpl
    rw [if_neg free, if_pos given]
    exact ⟨_, s₅, rfl, errno, h₅⟩

/-- Both come to one end. A null driver stops the tables' model only: in memory it is
the word at 0 that is looked at. -/
def SameEnd (L : Layout) (table : Except Fault (Int × Kernel))
    (memory : Option (Except String Int × KernelMode δ)) : Prop :=
  match table with
  | .ok (rc, k') => ∃ s', memory = some (.ok rc, s') ∧ L.Carries k' s'
  | .error (.panic message) => ∃ s', memory = some (.error message, s')
  | .error _ => True

theorem closeLocked_carries (h : L.Carries k s) (io : Fin iotSentries) :
    L.SameEnd (run (closeChannel io) k) (L.sys.closeLocked s (L.iote io)) := by
  obtain ⟨isOpened, isDealloc⟩ := h.getEntry io
  rw [Symbols.closeLocked]
  simp only [isOpened, Option.bind_eq_bind, Option.bind_some]
  simp only [closeChannel, run_bind, run_readIote, ok_bind]
  cases opened : (k.iott io).opened with
  | false => exact ⟨s, rfl, h⟩
  | true =>
    have body : closeOpen io = (do
        let dealloc ← readIote .closing io (·.dealloc)
        (if dealloc then closeDealloc io else pure ())
        release io) := rfl
    simp only [if_true, isDealloc, Option.bind_some, body, run_bind, run_readIote, ok_bind]
    cases dealloc : (k.iott io).dealloc with
    | false =>
      obtain ⟨k', s', table, memory, after⟩ := releaseAt_carries h io
      simp only [Bool.false_eq_true, if_false, run_pure, ok_bind, table, memory, Option.bind_some]
      exact ⟨s', rfl, after⟩
    | true =>
      have pointer : s.get (L.iote io) = some ((k.iott io).driver.elim 0 L.drvcb) :=
        (h.get (.driver io)).trans (congrArg some (h.content (.driver io)))
      simp only [if_true, pointer, Option.bind_some, closeDealloc, run_bind]
      cases driver : (k.iott io).driver with
      | none =>
        simp only [readDriver, run_bind, run_read, ok_bind, driver, Option.map_none, run_stop,
          error_bind]
        trivial
      | some d =>
        obtain ⟨rc, k₁, s₁, table, memory, h₁⟩ :=
          svcAllocAt_carries Place.closeAlloc h (h.drvname d) drvDealloc
        simp only [run_readDriver driver, ok_bind, table, Option.elim_some, memory,
          Option.bind_some]
        by_cases done : rc = eok
        · obtain ⟨k', s', table, memory, after⟩ := releaseAt_carries h₁ io
          simp only [if_pos done, run_pure, ok_bind, table, if_neg (not_not.mpr done), memory,
            Option.bind_some]
          exact ⟨s', rfl, after⟩
        · simp only [if_neg done, run_stop, error_bind, if_pos done]
          exact ⟨s₁, rfl⟩

theorem closeUnlock_carries (h : L.Carries k s) (rc : Int) :
    L.SameEnd (run (do
      let rc1 ← call .closeUnlock (svcMutex · mutChan mutDealloc)
      if rc1 = eok then
        write .closing (·.setErrno rc)
        return rc
      else
        stop (.panic "muxx_svc_close: dealloc mutex") : Service Int) k)
      (L.sys.closeUnlock s rc) := by
  obtain ⟨s₁, unlock, h₁⟩ := svcMutexAt_carries h mutChan mutDealloc
  rw [Symbols.closeUnlock]
  simp only [run_bind, run_call, ok_bind, unlock, Option.bind_eq_bind, Option.bind_some]
  by_cases done : (svcMutex k mutChan mutDealloc).1 = eok
  · obtain ⟨s₂, errno, h₂⟩ := h₁.setErrno rc
    rw [if_pos done, if_neg (not_not.mpr done), errno]
    exact ⟨s₂, rfl, h₂⟩
  · rw [if_neg done, if_pos done]
    exact ⟨s₁, rfl⟩

/-- muxx_svc_close is the same on memory and on the tables, for every entry of the IOTT. -/
theorem svcCloseAt_carries (h : L.Carries k s) (io : Fin iotSentries) :
    L.SameEnd (run (svcClose io) k) (L.sys.svcCloseAt s (L.iote io)) := by
  obtain ⟨s₁, lock, h₁⟩ := svcMutexAt_carries h mutChan mutAlloc
  rw [Symbols.svcCloseAt]
  simp only [svcClose, run_bind, run_call, ok_bind, lock, Option.bind_eq_bind, Option.bind_some]
  by_cases got : (svcMutex k mutChan mutAlloc).1 = eok
  · have closed := closeLocked_carries h₁ io
    simp only [if_pos got]
    cases table : run (closeChannel io) (svcMutex k mutChan mutAlloc).2 with
    | error fault =>
      rw [table] at closed
      cases fault with
      | panic message =>
        obtain ⟨s₂, memory⟩ := closed
        rw [memory]
        exact ⟨s₂, rfl⟩
      | _ => trivial
    | ok after =>
      obtain ⟨rc, k₂⟩ := after
      rw [table] at closed
      obtain ⟨s₂, memory, h₂⟩ := closed
      rw [memory]
      have ends := closeUnlock_carries h₂ rc
      simp only [run_bind, run_call, ok_bind] at ends
      exact ends
  · have ends := closeUnlock_carries h₁ (svcMutex k mutChan mutAlloc).1
    simp only [run_bind, run_call, ok_bind] at ends
    simp only [if_neg got, run_pure, ok_bind]
    exact ends

end Channels

/-! ## Such memory -/

/-- A word that the tables can be read from. -/
def word (L : Layout) (k : Kernel) : Cell → WORD
  | .curtcb => L.tcb k.curtcb
  | .drvcbtaddr => L.drivers
  | .iott => L.iott
  | .mutexes i => k.mutexes (2 * i + 1) ++ k.mutexes (2 * i)
  | .pid => k.cur.pid
  | .privileges => k.cur.privileges
  | .taskTUCB => k.cur.taskTUCB
  | .t_errno => intWord (k.t_errno k.curtcb)
  | .drvname d i =>
    (k.drvcbt d).drvname ⟨2 * i + 1, by omega⟩ ++ (k.drvcbt d).drvname ⟨2 * i, by omega⟩
  | .drvStatus d => setBit (setBit 0 freeBit (k.drvcbt d).free) allocBit (k.drvcbt d).alloc
  | .ownerid d => L.task (k.drvcbt d).ownerid
  | .driver io => (k.iott io).driver.elim 0 L.drvcb
  | .status io => setBit (setBit 0 openBit (k.iott io).opened) deallocBit (k.iott io).dealloc
  | .unit io => (k.iott io).unit ++ (k.iott io).controller
  | .buffaddr io => if (k.iott io).buffaddr = none then 0 else 1

theorem word_content (L : Layout) (k : Kernel) (c : Cell) : L.Content k (L.word k c) c := by
  cases c with
  | drvStatus d | status io =>
    simp only [Content, word]
    constructor
    · rw [setBit_getLsbD _ _ (by decide), if_neg (by decide), setBit_getLsbD _ _ (by decide),
        if_pos rfl]
    · rw [setBit_getLsbD _ _ (by decide), if_pos rfl]
  | buffaddr io =>
    simp only [Content, word]
    by_cases free : (k.iott io).buffaddr = none
    · simp only [free, if_true]
    · simp only [free, if_false, iff_false]
      decide
  | _ => rfl

/-- Every kernel is carried by some memory, wherever the words have places of their own. -/
theorem carries_made (L : Layout) (k : Kernel) (tasks : Function.Injective L.task)
    (apart : Function.Injective (L.addr k)) (even : ∀ c, (L.addr k c).toNat % 2 = 0) :
    ∃ s : KernelMode Unit, L.Carries k s := by
  obtain ⟨m, at_cell⟩ : ∃ m : ADDRESS → WORD, ∀ c, m (L.addr k c) = L.word k c :=
    ⟨Function.extend (L.addr k) (L.word k) fun _ => 0, fun c => apart.extend_apply ..⟩
  let s : KernelMode Unit := { space := ⟨m, fun _ => true⟩, ipl := k.ipl, device := () }
  refine ⟨s, rfl, tasks, apart, fun c => ⟨even c, rfl⟩, fun c => ?_⟩
  show L.Content k (m (L.addr k c)) c
  rw [at_cell]
  exact L.word_content k c

end Layout

end Muxx
