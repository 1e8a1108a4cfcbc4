import Muxx.Drivers

/-!
# The registration of drivers

muxx_svc_drvreg with the loops it has, on a memory in which descriptors and
vectors are: the search for a slot and the loop over the interrupt routines
share one variable.

* `svcDrvreg_fit`: for a descriptor that fits it does what `svcDrvreg` says;
* `Registers`: calls in any order from muxx_drvinit, with other things between;
* `drvreg_registers`: the slots are the calls with OPERPRV, in order.
-/

namespace Muxx

/-- Words of memory: vectors, descriptors and the rest. -/
abbrev Words := ADDRESS → WORD

namespace Words
variable (m : Words)

/-- An entry of the isrtable of a descriptor. Its first four are in it. -/
def isr (descriptor : ADDRESS) (i : Nat) : DRVISR :=
  let isr := descriptor + 34 + 6 * BitVec.ofNat 16 i
  { handler := m isr, vector := m (isr + 2), ilevel := m (isr + 4) }

def numisr (descriptor : ADDRESS) : Nat := (m (descriptor + 32)).toNat

/-- The descriptor at an address, with as many routines as it says. -/
def desc (descriptor : ADDRESS) : DRVDESC where
  shareable := (m (descriptor + 20)).getLsbD 0
  buffered := (m (descriptor + 20)).getLsbD 3
  devname := fun i =>
    let word := m (descriptor + 22 + BitVec.ofNat 16 (i / 2 * 2))
    (if i % 2 = 0 then word else word >>> 8).setWidth 8
  defbufsiz := m (descriptor + 30)
  isrtable := (List.range (m.numisr descriptor)).map (m.isr descriptor)

/-- Write a vector. -/
def install (isr : DRVISR) : Words :=
  Function.update (Function.update m isr.vector isr.handler) (isr.vector + 2) isr.psw

end Words

/-- `DRVCBT--`. -/
def drvcbtEyecat : Name := ![0x44, 0x52, 0x56, 0x43, 0x42, 0x54, 0x2D, 0x2D]

/-- The kernel, the eyecatcher of the driver table and the memory. -/
structure Registry where
  kernel : Kernel
  eyecat : Name
  memory : Words

/-- It does not set `alloc` and `ownerid`. -/
def drvinit (s : Registry) : Registry :=
  { s with
    eyecat := drvcbtEyecat
    kernel := { s.kernel with
      drvcbt := fun i =>
        { s.kernel.drvcbt i with
          drvname := fun _ => 0x20, desc := {}, free := true, loaded := false, active := false
          stopped := false, taskid := 0 } } }

/-- The loop over the isrtable from count `i` on: where it leaves its variable. No
count is as large as 2^16. -/
def installLoop (descriptor : ADDRESS) : Nat → Nat → Words → Nat × Words
  | 0, i, m => (i, m)
  | left + 1, i, m =>
    if i < m.numisr descriptor then
      installLoop descriptor left (i + 1) (m.install (m.isr descriptor i))
    else (i, m)

/-- What a call of muxx_svc_drvreg is given. -/
structure DrvregCall where
  name : Name
  descriptor : ADDRESS
  handler : ADDRESS

namespace DrvregCall
variable (c : DrvregCall)

/-- The entry of the driver. -/
def entry (desc : DRVDESC) (drvcb : DRVCB) : DRVCB :=
  { drvcb with
    drvname := c.name, desc, free := false, loaded := true, stopped := true, taskid := c.handler }

/-- The search for a free slot from `i` on, in at most so many rounds. The inner loop
starts `i` anew, and its `i` is counted on. -/
def searchLoop : Nat → Nat → Bool → Int → Registry → Int × Registry
  | 0, _, _, rc, s => (rc, s)
  | left + 1, i, done, rc, s =>
    if within : i < maxDrv ∧ done = false then
      if (s.kernel.drvcbt ⟨i, within.1⟩).free then
        let kernel := s.kernel.modifyDriver ⟨i, within.1⟩ (c.entry (s.memory.desc c.descriptor))
        let (i, memory) := installLoop c.descriptor 65536 0 s.memory
        searchLoop left (i + 1) true eok { s with kernel, memory }
      else searchLoop left (i + 1) done rc s
    else (rc, s)

def svcDrvreg (s : Registry) : Except Fault (Int × Registry) :=
  if s.eyecat ≠ drvcbtEyecat then .error (.panic "Invalid DRVCBT eyecatcher")
  else if ¬ s.kernel.cur.operprv then .ok (enopriv, s)
  else .ok (c.searchLoop (maxDrv + 1) 0 false etctfull s)

/-- The descriptor is above the vectors, and its at most four routines have vectors
of their own. -/
structure Fit (m : Words) : Prop where
  above : 0o1000 ≤ c.descriptor.toNat
  within : c.descriptor.toNat + 58 ≤ 65536
  few : m.numisr c.descriptor ≤ 4
  vector : ∀ i < m.numisr c.descriptor,
    (m.isr c.descriptor i).vector.toNat < 0o1000 ∧ 4 ∣ (m.isr c.descriptor i).vector.toNat
  apart : ∀ i < m.numisr c.descriptor, ∀ j < m.numisr c.descriptor,
    (m.isr c.descriptor i).vector = (m.isr c.descriptor j).vector → i = j

end DrvregCall

/-! ## The inner loop -/

section Install
variable {m m' : Words} {c : DrvregCall} {descriptor : ADDRESS}

/-- Two memories have the same descriptor at an address. -/
def SameDesc (descriptor : ADDRESS) (m m' : Words) : Prop :=
  ∀ i < 58, m' (descriptor + BitVec.ofNat 16 i) = m (descriptor + BitVec.ofNat 16 i)

theorem SameDesc.numisr (h : SameDesc descriptor m m') :
    m'.numisr descriptor = m.numisr descriptor :=
  congrArg BitVec.toNat (h 32 (by decide))

theorem SameDesc.isr (h : SameDesc descriptor m m') {i : Nat} (few : i < 4) :
    m'.isr descriptor i = m.isr descriptor i := by
  have word (j : Nat) (within : 34 + 6 * i + j < 58) :
      m' (descriptor + 34 + 6 * BitVec.ofNat 16 i + BitVec.ofNat 16 j) =
        m (descriptor + 34 + 6 * BitVec.ofNat 16 i + BitVec.ofNat 16 j) := by
    have slot : descriptor + 34 + 6 * BitVec.ofNat 16 i + BitVec.ofNat 16 j =
        descriptor + BitVec.ofNat 16 (34 + 6 * i + j) := by
      bv_omega
    rw [slot]
    exact h _ within
  have handler := word 0 (by omega)
  have vector := word 2 (by omega)
  have ilevel := word 4 (by omega)
  simp only [BitVec.add_zero] at handler
  simp only [Words.isr, DRVISR.mk.injEq]
  exact ⟨handler, vector, ilevel⟩

/-- A vector is below every descriptor that fits. -/
theorem DrvregCall.Fit.install (h : c.Fit m) {isr : DRVISR} (low : isr.vector.toNat < 0o1000)
    (aligned : 4 ∣ isr.vector.toNat) (m' : Words) : SameDesc c.descriptor m' (m'.install isr) := by
  have above := h.above
  have within := h.within
  intro i few
  have psw : c.descriptor + BitVec.ofNat 16 i ≠ isr.vector + 2 := by bv_omega
  have handler : c.descriptor + BitVec.ofNat 16 i ≠ isr.vector := by bv_omega
  rw [Words.install, Function.update_of_ne psw, Function.update_of_ne handler]

theorem SameDesc.trans {m'' : Words} (h : SameDesc descriptor m m')
    (h' : SameDesc descriptor m' m'') : SameDesc descriptor m m'' := fun i few =>
  (h' i few).trans (h i few)

/-- The loop installs what is left of the isrtable and leaves its variable at the
end of it. -/
theorem DrvregCall.Fit.installLoop (h : c.Fit m) (same : SameDesc c.descriptor m m') {left i : Nat}
    (enough : m.numisr c.descriptor ≤ i + left) (begun : i ≤ m.numisr c.descriptor) :
    installLoop c.descriptor left i m' = (m.numisr c.descriptor,
      installIsrs m' ((List.range' i (m.numisr c.descriptor - i)).map (m.isr c.descriptor))) := by
  induction left generalizing i m' with
  | zero =>
    obtain rfl : i = m.numisr c.descriptor := Nat.le_antisymm begun enough
    simp [Muxx.installLoop, installIsrs]
  | succ left ih =>
    rw [Muxx.installLoop, same.numisr]
    by_cases more : i < m.numisr c.descriptor
    · have few := h.few
      obtain ⟨low, aligned⟩ := h.vector i more
      have entry := same.isr (i := i) (by omega)
      have kept := same.trans (h.install low aligned m')
      obtain ⟨rest, length⟩ : ∃ rest, m.numisr c.descriptor - i = rest + 1 :=
        ⟨m.numisr c.descriptor - (i + 1), by omega⟩
      rw [if_pos more, entry, ih kept (by omega) more, length, List.range'_succ]
      have rest_eq : m.numisr c.descriptor - (i + 1) = rest := by omega
      rw [rest_eq]
      rfl
    · rw [if_neg more]
      obtain rfl : i = m.numisr c.descriptor := by omega
      simp [installIsrs]

/-- The words of two vectors are four different ones. -/
def DRVISR.Apart (x y : DRVISR) : Prop :=
  x.vector ≠ y.vector ∧ x.vector + 2 ≠ y.vector ∧ x.vector ≠ y.vector + 2

theorem installIsrs_other {isrtable : List DRVISR} {a : ADDRESS}
    (other : ∀ isr ∈ isrtable, a ≠ isr.vector ∧ a ≠ isr.vector + 2) :
    installIsrs m isrtable a = m a := by
  induction isrtable generalizing m with
  | nil => rfl
  | cons isr rest ih =>
    obtain ⟨handler, psw⟩ := other isr List.mem_cons_self
    have first : m.install isr a = m a := by
      rw [Words.install, Function.update_of_ne psw, Function.update_of_ne handler]
    exact (ih fun isr' among => other isr' (List.mem_cons_of_mem _ among)).trans first

theorem installIsrs_installed {isrtable : List DRVISR} (apart : isrtable.Pairwise DRVISR.Apart)
    {isr : DRVISR} (among : isr ∈ isrtable) :
    installIsrs m isrtable isr.vector = isr.handler ∧
      installIsrs m isrtable (isr.vector + 2) = isr.psw := by
  induction isrtable generalizing m with
  | nil => cases among
  | cons first rest ih =>
    obtain ⟨clear, apart⟩ := List.pairwise_cons.mp apart
    rcases List.mem_cons.mp among with rfl | among
    · have handler := installIsrs_other (m := m.install isr) (a := isr.vector) fun isr' among =>
        ⟨(clear isr' among).1, (clear isr' among).2.2⟩
      have psw := installIsrs_other (m := m.install isr) (a := isr.vector + 2) fun isr' among =>
        ⟨(clear isr' among).2.1, fun same => (clear isr' among).1 (add_right_cancel same)⟩
      have below : isr.vector ≠ isr.vector + 2 := by bv_omega
      refine ⟨handler.trans ?_, psw.trans ?_⟩
      · rw [Words.install, Function.update_of_ne below, Function.update_self]
      · rw [Words.install, Function.update_self]
    · exact ih apart among

/-- What a call writes when it installs the routines of its descriptor. -/
structure DrvregCall.Installed (c : DrvregCall) (m m' : Words) : Prop where
  handler : ∀ i < m.numisr c.descriptor,
    m' (m.isr c.descriptor i).vector = (m.isr c.descriptor i).handler
  psw : ∀ i < m.numisr c.descriptor,
    m' ((m.isr c.descriptor i).vector + 2) = (m.isr c.descriptor i).ilevel <<< 5
  other : ∀ a, (∀ i < m.numisr c.descriptor,
    a ≠ (m.isr c.descriptor i).vector ∧ a ≠ (m.isr c.descriptor i).vector + 2) → m' a = m a

theorem DrvregCall.Fit.installed (h : c.Fit m) :
    c.Installed m (installIsrs m (m.desc c.descriptor).isrtable) := by
  have apart : (m.desc c.descriptor).isrtable.Pairwise DRVISR.Apart := by
    rw [Words.desc, List.pairwise_map]
    refine List.Pairwise.imp_of_mem ?_ (List.pairwise_lt_range)
    intro i j ith jth before
    obtain ⟨lowᵢ, alignedᵢ⟩ := h.vector i (List.mem_range.mp ith)
    obtain ⟨lowⱼ, alignedⱼ⟩ := h.vector j (List.mem_range.mp jth)
    refine ⟨?_, by bv_omega, by bv_omega⟩
    intro same
    exact before.ne (h.apart i (List.mem_range.mp ith) j (List.mem_range.mp jth) same)
  have among (i : Nat) (within : i < m.numisr c.descriptor) :
      m.isr c.descriptor i ∈ (m.desc c.descriptor).isrtable :=
    List.mem_map_of_mem (List.mem_range.mpr within)
  constructor
  · intro i within
    exact (installIsrs_installed apart (among i within)).1
  · intro i within
    exact (installIsrs_installed apart (among i within)).2
  · intro a clear
    apply installIsrs_other
    intro isr among
    obtain ⟨i, within, rfl⟩ := List.mem_map.mp among
    exact clear i (List.mem_range.mp within)

end Install

/-! ## The search -/

section Search
variable {c : DrvregCall} {s s' : Registry} {rc : Int}

/-- The state after a registration in slot `i`. -/
def DrvregCall.fill (c : DrvregCall) (s : Registry) (i : Fin maxDrv) : Registry :=
  { s with
    kernel := s.kernel.modifyDriver i (c.entry (s.memory.desc c.descriptor))
    memory := installIsrs s.memory (s.memory.desc c.descriptor).isrtable }

/-- Once a slot is found, the loop ends, whatever the inner one has made of `i`. -/
theorem searchLoop_done (left i : Nat) (rc : Int) (s : Registry) :
    c.searchLoop left i true rc s = (rc, s) := by
  cases left with
  | zero => rfl
  | succ left => simp [DrvregCall.searchLoop]

theorem searchLoop_none {left i : Nat} (enough : maxDrv < i + left)
    (taken : ∀ j : Fin maxDrv, i ≤ j → (s.kernel.drvcbt j).free = false) :
    c.searchLoop left i false rc s = (rc, s) := by
  induction left generalizing i with
  | zero => rfl
  | succ left ih =>
    rw [DrvregCall.searchLoop]
    by_cases within : i < maxDrv ∧ false = false
    · rw [dif_pos within, taken ⟨i, within.1⟩ (Nat.le_refl i), if_neg Bool.false_ne_true]
      exact ih (by omega) fun j after => taken j (by omega)
    · rw [dif_neg within]

theorem searchLoop_some (fit : c.Fit s.memory) {left i : Nat} {j : Fin maxDrv}
    (begun : i ≤ j) (enough : j < i + left) (free : (s.kernel.drvcbt j).free = true)
    (lowest : ∀ l : Fin maxDrv, i ≤ l → l < j → (s.kernel.drvcbt l).free = false) :
    c.searchLoop left i false rc s = (eok, c.fill s j) := by
  induction left generalizing i with
  | zero => omega
  | succ left ih =>
    rw [DrvregCall.searchLoop, dif_pos ⟨by omega, rfl⟩]
    by_cases here : i = j
    · have slot (within : i < maxDrv) : (⟨i, within⟩ : Fin maxDrv) = j := Fin.ext here
      have few := fit.few
      have installed : installLoop c.descriptor 65536 0 s.memory = _ :=
        fit.installLoop (fun _ _ => rfl) (by omega) (Nat.zero_le _)
      rw [Nat.sub_zero, ← List.range_eq_range'] at installed
      simp only [slot, free, if_true, installed]
      exact searchLoop_done ..
    · rw [lowest ⟨i, by omega⟩ (Nat.le_refl i) (by rw [Fin.lt_def]; dsimp only; omega),
        if_neg Bool.false_ne_true]
      exact ih (by omega) (by omega) fun l after before => lowest l (by omega) before

/-- The search takes the first free slot. -/
theorem svcDrvreg_fit (eyecat : s.eyecat = drvcbtEyecat) (fit : c.Fit s.memory) :
    c.svcDrvreg s = .ok (
      let (rc, kernel, memory) := svcDrvreg s.kernel s.memory c.name
        (s.memory.desc c.descriptor) c.handler
      (rc, { s with kernel, memory })) := by
  rw [DrvregCall.svcDrvreg, if_neg (not_not.mpr eyecat), svcDrvreg]
  cases privileged : s.kernel.cur.operprv with
  | false => rfl
  | true =>
    rw [if_neg (not_not.mpr rfl), if_neg (not_not.mpr rfl), ← Fin.find?_eq_find?_finRange]
    cases found : Fin.find? fun i => (s.kernel.drvcbt i).free with
    | none =>
      have taken := Fin.find?_eq_none_iff.mp found
      rw [searchLoop_none (by decide) fun j _ => taken j]
    | some j =>
      obtain ⟨free, lowest⟩ := Fin.find?_eq_some_iff.mp found
      rw [searchLoop_some fit (Nat.zero_le _) (by omega) free fun l _ before => lowest l before]
      rfl

end Search

/-! ## Runs -/

/-- A state that calls of muxx_svc_drvreg reach from `s₀`, with those of them by a
task with OPERPRV, in order. Between them anything can happen that frees no slot
and changes no name. -/
inductive Registers (s₀ : Registry) : List DrvregCall → Registry → Prop
  | start : Registers s₀ [] s₀
  | refused {log : List DrvregCall} {s s' : Registry} {c : DrvregCall} {rc : Int}
      (before : Registers s₀ log s) (fit : c.Fit s.memory) (lacks : s.kernel.cur.operprv = false)
      (called : c.svcDrvreg s = .ok (rc, s')) : Registers s₀ log s'
  | passed {log : List DrvregCall} {s s' : Registry} {c : DrvregCall} {rc : Int}
      (before : Registers s₀ log s) (fit : c.Fit s.memory) (has : s.kernel.cur.operprv = true)
      (called : c.svcDrvreg s = .ok (rc, s')) : Registers s₀ (log ++ [c]) s'
  | other {log : List DrvregCall} {s s' : Registry} (before : Registers s₀ log s)
      (eyecat : s'.eyecat = s.eyecat) (free : ∀ i, (s'.kernel.drvcbt i).free = (s.kernel.drvcbt i).free)
      (drvname : ∀ i, (s'.kernel.drvcbt i).drvname = (s.kernel.drvcbt i).drvname) :
      Registers s₀ log s'

/-- What a call does after those of `log` have gone through. -/
inductive DrvregCall.Outcome (c : DrvregCall) (log : List DrvregCall) (s : Registry) :
    Int → Registry → Prop
  | refused (lacks : s.kernel.cur.operprv = false) : c.Outcome log s enopriv s
  | full (has : s.kernel.cur.operprv = true) (full : maxDrv ≤ log.length) :
      c.Outcome log s etctfull s
  | fills {i : Fin maxDrv} {memory : Words} (has : s.kernel.cur.operprv = true)
      (next : i = log.length) (free : (s.kernel.drvcbt i).free = true)
      (lowest : ∀ j < i, (s.kernel.drvcbt j).free = false)
      (installed : c.Installed s.memory memory) :
      c.Outcome log s eok { s with
        kernel := s.kernel.modifyDriver i (c.entry (s.memory.desc c.descriptor)), memory }

/-- The slots of the driver table are the calls that have gone through. -/
structure Table (log : List DrvregCall) (s : Registry) : Prop where
  eyecat : s.eyecat = drvcbtEyecat
  free : ∀ i, (s.kernel.drvcbt i).free = decide (log.length ≤ i)
  named : ∀ i c, log[i.val]? = some c → (s.kernel.drvcbt i).drvname = c.name

section Runs
variable {r s s' : Registry} {log : List DrvregCall} {c : DrvregCall} {rc : Int}

theorem drvinit_table : Table [] (drvinit r) := by
  constructor
  · rfl
  · intro i
    exact (decide_eq_true (Nat.zero_le _)).symm
  · intro i c some
    cases some

/-- What a call does while the table is the calls that have gone through. -/
theorem Table.outcome (h : Table log s) (fit : c.Fit s.memory) :
    ∃ rc s', c.svcDrvreg s = .ok (rc, s') ∧ c.Outcome log s rc s' := by
  rw [DrvregCall.svcDrvreg, if_neg (not_not.mpr h.eyecat)]
  cases privileged : s.kernel.cur.operprv with
  | false => exact ⟨_, _, rfl, .refused privileged⟩
  | true =>
    rw [if_neg (not_not.mpr rfl)]
    by_cases room : log.length < maxDrv
    · let i : Fin maxDrv := ⟨log.length, room⟩
      have free : (s.kernel.drvcbt i).free = true := by
        rw [h.free]
        exact decide_eq_true (Nat.le_refl _)
      have lowest (j : Fin maxDrv) (before : j < i) : (s.kernel.drvcbt j).free = false := by
        rw [h.free]
        exact decide_eq_false (Nat.not_le.mpr before)
      rw [searchLoop_some fit (Nat.zero_le _) (by omega) free fun j _ before => lowest j before]
      exact ⟨_, _, rfl, .fills privileged rfl free lowest fit.installed⟩
    · have full : maxDrv ≤ log.length := Nat.le_of_not_lt room
      rw [searchLoop_none (by decide) fun j _ => by
        rw [h.free]
        exact decide_eq_false (by omega)]
      exact ⟨_, _, rfl, .full privileged full⟩

/-- The next call with OPERPRV is the next slot. -/
theorem Table.passed (h : Table log s) (fit : c.Fit s.memory)
    (has : s.kernel.cur.operprv = true) (called : c.svcDrvreg s = .ok (rc, s')) :
    Table (log ++ [c]) s' := by
  obtain ⟨rc₁, s₁, called₁, outcome⟩ := h.outcome fit
  obtain ⟨rfl, rfl⟩ := Prod.mk.inj (Except.ok.inj (called₁.symm.trans called))
  cases outcome with
  | refused lacks => cases lacks.symm.trans has
  | full _ full =>
    constructor
    · exact h.eyecat
    · intro i
      rw [h.free, decide_eq_false (by omega), decide_eq_false (by simp; omega)]
    · intro i d at_i
      rw [List.getElem?_append_left (by omega)] at at_i
      exact h.named i d at_i
  | @fills i memory _ next free lowest installed =>
    constructor
    · exact h.eyecat
    · intro j
      by_cases same : j = i
      · subst same
        simp [Kernel.modifyDriver, DrvregCall.entry, next]
      · have value : j.val ≠ log.length := fun e => same (Fin.ext (e.trans next.symm))
        simp only [Kernel.modifyDriver, Function.update_of_ne same, h.free, List.length_append,
          List.length_singleton, decide_eq_decide]
        omega
    · intro j d at_j
      by_cases same : j = i
      · subst same
        rw [next, List.getElem?_concat_length] at at_j
        cases at_j
        simp [Kernel.modifyDriver, DrvregCall.entry]
      · have value : j.val ≠ log.length := fun e => same (Fin.ext (e.trans next.symm))
        have before : j.val < log.length := by
          have := (List.getElem?_eq_some_iff.mp at_j).1
          simp at this
          omega
        rw [List.getElem?_append_left before] at at_j
        simp only [Kernel.modifyDriver, Function.update_of_ne same]
        exact h.named j d at_j

theorem Registers.table (h : Registers (drvinit r) log s) : Table log s := by
  induction h with
  | start => exact drvinit_table
  | @refused log s s' c rc _ fit lacks called ih =>
    obtain ⟨rc₁, s₁, called₁, outcome⟩ := ih.outcome fit
    obtain ⟨rfl, rfl⟩ := Prod.mk.inj (Except.ok.inj (called₁.symm.trans called))
    cases outcome with
    | refused _ => exact ih
    | full has _ => cases lacks.symm.trans has
    | fills has _ _ _ _ => cases lacks.symm.trans has
  | passed _ fit has called ih => exact ih.passed fit has called
  | other _ eyecat free drvname ih =>
    constructor
    · exact eyecat.trans ih.eyecat
    · intro i
      rw [free, ih.free]
    · intro i c at_i
      rw [drvname, ih.named i c at_i]

/-- A slot is found under the name of its call. -/
theorem Table.found (h : Table log s) (name : Name) (j : Fin maxDrv) :
    (!(s.kernel.drvcbt j).free && decide ((s.kernel.drvcbt j).drvname = name)) = true ↔
      ∃ c, log[j.val]? = some c ∧ c.name = name := by
  rw [h.free, Bool.and_eq_true, decide_eq_true_eq, Bool.not_eq_true', decide_eq_false_iff_not]
  constructor
  · rintro ⟨taken, named⟩
    have at_j := List.getElem?_eq_getElem (Nat.lt_of_not_le taken)
    exact ⟨_, at_j, (h.named j _ at_j).symm.trans named⟩
  · rintro ⟨c, at_j, rfl⟩
    have before := (List.getElem?_eq_some_iff.mp at_j).1
    exact ⟨by omega, h.named j c at_j⟩

/-- The driver of a name is that of the first call with it. -/
theorem Table.findDriver_some (h : Table log s) (name : Name) (i : Fin maxDrv) :
    findDriver s.kernel.drvcbt name = some i ↔ (∃ c, log[i.val]? = some c ∧ c.name = name) ∧
      ∀ j < i.val, ∀ c, log[j]? = some c → c.name ≠ name := by
  rw [findDriver, ← Fin.find?_eq_find?_finRange, Fin.find?_eq_some_iff, h.found]
  refine and_congr_right fun _ => ?_
  constructor
  · intro earlier j before c at_j named
    have miss := earlier ⟨j, by omega⟩ before
    rw [← Bool.not_eq_true, h.found] at miss
    exact miss ⟨c, at_j, named⟩
  · intro earlier j before
    rw [← Bool.not_eq_true, h.found]
    rintro ⟨c, at_j, named⟩
    exact earlier j before c at_j named

theorem Table.findDriver_none (h : Table log s) (name : Name) :
    findDriver s.kernel.drvcbt name = none ↔
      ∀ (i : Fin maxDrv) (c : DrvregCall), log[i.val]? = some c → c.name ≠ name := by
  rw [findDriver, ← Fin.find?_eq_find?_finRange, Fin.find?_eq_none_iff]
  refine forall_congr' fun i => ?_
  rw [← Bool.not_eq_true, h.found]
  constructor
  · intro miss c at_i named
    exact miss ⟨c, at_i, named⟩
  · rintro other ⟨c, at_i, named⟩
    exact other c at_i named

/-- From muxx_drvinit on, the slots are filled in the order of the calls with
OPERPRV, whatever is called, and names are found in that order. -/
theorem drvreg_registers (h : Registers (drvinit r) log s) :
    (∀ c : DrvregCall, c.Fit s.memory →
      ∃ rc s', c.svcDrvreg s = .ok (rc, s') ∧ c.Outcome log s rc s') ∧
    (∀ name i, findDriver s.kernel.drvcbt name = some i ↔
      (∃ c, log[i.val]? = some c ∧ c.name = name) ∧
        ∀ j < i.val, ∀ c, log[j]? = some c → c.name ≠ name) ∧
    ∀ name, findDriver s.kernel.drvcbt name = none ↔
      ∀ (i : Fin maxDrv) (c : DrvregCall), log[i.val]? = some c → c.name ≠ name := by
  have table := h.table
  exact ⟨fun c fit => table.outcome fit, table.findDriver_some, table.findDriver_none⟩

end Runs

/-- A task with OPERPRV, and a descriptor at 02000 with one interrupt routine. -/
def oneDesc : Registry where
  kernel := (twoTasks 0o101).setTcb 0 { pid := 1, privileges := 1 }
  eyecat := fun _ => 0
  memory := fun a =>
    if a = 0o2040 then 1 else if a = 0o2042 then 0o40000 else if a = 0o2044 then 0o220
    else if a = 0o2046 then 5 else 0

def oneCall : DrvregCall where
  name := fun _ => 0x44
  descriptor := 0o2000
  handler := 0o1000

theorem oneCall_fit : oneCall.Fit oneDesc.memory where
  above := by decide
  within := by decide
  few := by decide
  vector := by decide
  apart := by decide

theorem drvreg_registers_one :
    ∃ s, Registers (drvinit oneDesc) [oneCall] s ∧
      findDriver s.kernel.drvcbt oneCall.name = some 0 := by
  obtain ⟨rc, s, called, -⟩ := (drvinit_table (r := oneDesc)).outcome oneCall_fit
  have h : Registers (drvinit oneDesc) [oneCall] s := .passed .start oneCall_fit rfl called
  exact ⟨s, h, ((drvreg_registers h).2.1 _ 0).mpr
    ⟨⟨oneCall, rfl, rfl⟩, fun j before => absurd before (Nat.not_lt_zero j)⟩⟩

end Muxx
