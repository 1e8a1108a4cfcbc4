import Muxx.Mutex
import Muxx.Traps

/-!
# What a trap can make the kernel do

The three numbers that a task controls in a system call: the number of the trap,
the count of the parameter list and the mutex.

* `Linked.muxxSystrapHandlerAt`: muxx_systrap_handler with its table in memory;
* `Pushing`, `pushes_parms`: how often the handler pushes a parameter;
* `MutexConfined`: a call of the mutex service that keeps to the table;
* `trap_confined_iff`: the traps that keep to all limits.
-/

namespace Muxx

open Pdp11

/-! ## The mutex service -/

/-- The service refuses numbers the table does not have, and neither depends on the
bytes behind the table nor changes them. -/
def MutexConfined (k : Kernel) (mutex op : WORD) : Prop :=
  (16 ≤ mutex.toNat → svcMutex k mutex op = (einvval, k)) ∧
    ∀ bytes : Nat → BYTE, (∀ n < 16, bytes n = k.mutexes n) →
      let r := svcMutex k mutex op
      let r' := svcMutex { k with mutexes := bytes } mutex op
      r'.1 = r.1 ∧ (∀ n < 16, r'.2.mutexes n = r.2.mutexes n) ∧
        ∀ n, 16 ≤ n → r'.2.mutexes n = bytes n

section Mutexes
variable {k : Kernel} {mutex op : WORD}

theorem svcMutex_unknown (unknown : ¬ op ≤ mutDealloc) : svcMutex k mutex op = (einvval, k) := by
  have other (n : WORD) (known : n ≤ mutDealloc) : op ≠ n := by
    rintro rfl
    exact unknown known
  unfold svcMutex
  rw [if_neg (other mutRead (by decide)), if_neg (other mutAlloc (by decide)),
    if_neg (other mutDealloc (by decide)), ite_self]

theorem svcMutex_beyond (beyond : mutMutexes < mutex) : svcMutex k mutex op = (einvval, k) := by
  rw [svcMutex, if_pos beyond]

theorem known_ops (known : op ≤ mutDealloc) : op = mutRead ∨ op = mutAlloc ∨ op = mutDealloc := by
  have bound : op.toNat ≤ 2 := BitVec.le_def.mp known
  rcases (by omega : op.toNat = 0 ∨ op.toNat = 1 ∨ op.toNat = 2) with h | h | h
  · exact .inl (BitVec.eq_of_toNat_eq h)
  · exact .inr (.inl (BitVec.eq_of_toNat_eq h))
  · exact .inr (.inr (BitVec.eq_of_toNat_eq h))

/-- The byte behind the table is used like a mutex. -/
theorem mutex_sixteen (known : op ≤ mutDealloc) : (svcMutex k mutMutexes op).1 ≠ einvval := by
  have valid : mutMutexes ≤ mutMutexes := BitVec.le_refl _
  rcases known_ops known with rfl | rfl | rfl
  · rw [svcMutex_read valid]
    show ((_ : Nat) : Int) ≠ -6
    omega
  · by_cases free : k.mutexes mutMutexes.toNat = 0
    · rw [svcMutex_alloc_free valid free]
      exact (by decide : eok ≠ einvval)
    · rw [svcMutex_alloc_taken valid free]
      exact (by decide : elocked ≠ einvval)
  · by_cases own : (k.mutexes mutMutexes.toNat).setWidth 16 = k.cur.pid
    · rw [svcMutex_dealloc_own valid own]
      exact (by decide : eok ≠ einvval)
    · rw [svcMutex_dealloc_other valid own]
      exact (by decide : elocked ≠ einvval)

/-- A call that is refused, whatever the bytes are. -/
theorem MutexConfined.refused
    (refused : ∀ k : Kernel, svcMutex k mutex op = (einvval, k)) : MutexConfined k mutex op := by
  refine ⟨fun _ => refused k, ?_⟩
  intro bytes same
  rw [refused, refused]
  exact ⟨rfl, same, fun _ _ => rfl⟩

/-- A call on a mutex of the table uses its byte alone. -/
theorem MutexConfined.valid (low : mutex.toNat < 16) (known : op ≤ mutDealloc) :
    MutexConfined k mutex op := by
  refine ⟨fun beyond => absurd low (Nat.not_lt.mpr beyond), ?_⟩
  intro bytes same
  have valid : mutex ≤ mutMutexes := BitVec.le_def.mpr low.le
  have byte := same _ low
  have wide := congrArg (BitVec.setWidth 16) byte
  have updated (b : BYTE) : (∀ n < 16, Function.update bytes mutex.toNat b n =
      Function.update k.mutexes mutex.toNat b n) ∧
        ∀ n, 16 ≤ n → Function.update bytes mutex.toNat b n = bytes n := by
    constructor
    · intro n within
      by_cases here : n = mutex.toNat
      · rw [here, Function.update_self, Function.update_self]
      · rw [Function.update_of_ne here, Function.update_of_ne here, same n within]
    · intro n beyond
      exact Function.update_of_ne (by omega) ..
  rcases known_ops known with rfl | rfl | rfl
  · rw [svcMutex_read valid, svcMutex_read valid]
    exact ⟨congrArg (fun b : BYTE => (b.toNat : Int)) byte, same, fun _ _ => rfl⟩
  · by_cases free : k.mutexes mutex.toNat = 0
    · rw [svcMutex_alloc_free valid free, svcMutex_alloc_free valid (byte.trans free)]
      exact ⟨rfl, updated _⟩
    · rw [svcMutex_alloc_taken valid free, svcMutex_alloc_taken valid (byte.trans_ne free)]
      exact ⟨rfl, same, fun _ _ => rfl⟩
  · by_cases own : (k.mutexes mutex.toNat).setWidth 16 = k.cur.pid
    · rw [svcMutex_dealloc_own valid own, svcMutex_dealloc_own valid (wide.trans own)]
      exact ⟨rfl, updated _⟩
    · rw [svcMutex_dealloc_other valid own, svcMutex_dealloc_other valid (wide.trans_ne own)]
      exact ⟨rfl, same, fun _ _ => rfl⟩

theorem mutexConfined_iff : MutexConfined k mutex op ↔ ¬ (mutex = mutMutexes ∧ op ≤ mutDealloc) := by
  constructor
  · rintro ⟨refused, -⟩ ⟨rfl, known⟩
    exact mutex_sixteen (k := k) known (by rw [refused (by decide)])
  · intro fine
    by_cases known : op ≤ mutDealloc
    · rcases (by omega : mutex.toNat < 16 ∨ mutex.toNat = 16 ∨ 16 < mutex.toNat) with low | last | high
      · exact .valid low known
      · exact absurd ⟨BitVec.eq_of_toNat_eq last, known⟩ fine
      · exact .refused fun k => svcMutex_beyond (BitVec.lt_def.mpr high)
    · exact .refused fun k => svcMutex_unknown known

end Mutexes

/-! ## The pushes -/

/-- The line of the handler that pushes a parameter. -/
abbrev pushLine : Nat := 21

/-- Where the handler is after `n` pushes, when it comes to the test for a list in
the state `c₁`. -/
inductive Pushing (sys : Linked) (c₁ : Cpu Ram) : Nat → Nat × Cpu Ram → Prop
  | before {pc : Nat} {c : Cpu Ram} (low : pc ≤ 16)
      (reaches : Reaches sys.muxxTrapHandle (pc, c) (16, c₁)) : Pushing sys c₁ 0 (pc, c)
  | tested : Pushing sys c₁ 0 (17, { c₁ with flags := Flags.move {} c₁.r0 })
  | given (list : c₁.r0 ≠ 0) : Pushing sys c₁ 0 (18, { c₁ with flags := Flags.move {} c₁.r0 })
  | counted {c : Cpu Ram} (count : c.r1 = parmCount c₁) (zero : c.flags.z = (c.r1 == 0)) :
    Pushing sys c₁ 0 (19, c)
  | turn {n pc : Nat} {c : Cpu Ram} (at_turn : pc = 20 ∨ pc = 21) (more : c.r1 ≠ 0)
      (left : n + c.r1.toNat = (parmCount c₁).toNat) : Pushing sys c₁ n (pc, c)
  | pushed {n : Nat} {c : Cpu Ram} (more : c.r1 ≠ 0)
      (left : n + c.r1.toNat = (parmCount c₁).toNat + 1) : Pushing sys c₁ n (22, c)
  | past {pc : Nat} {c : Cpu Ram} (high : 23 ≤ pc) : Pushing sys c₁ (parmCount c₁).toNat (pc, c)

section Pushes
variable {sys : Linked} {c c₁ : Cpu Ram} {n pc : Nat} {s t u : Nat × Cpu Ram}

/-- The text has no way back to the test, and none into the loop from below. -/
theorem handler_forward (sys : Linked) {pc pc' : Nat}
    (goes : pc' ∈ successors sys.muxxTrapHandle pc) :
    (17 ≤ pc → 17 ≤ pc') ∧ (23 ≤ pc → 23 ≤ pc') := by
  have all : ((List.range 35).all fun pc => (successors sys.muxxTrapHandle pc).all fun pc' =>
      (decide (pc < 17) || decide (17 ≤ pc')) && (decide (pc < 23) || decide (23 ≤ pc'))) = true :=
    rfl
  have within : pc < 35 := by
    by_contra beyond
    have none : sys.muxxTrapHandle[pc]? = none := List.getElem?_eq_none (Nat.le_of_not_lt beyond)
    unfold successors at goes
    rw [none] at goes
    cases goes
  have here := List.all_eq_true.mp (List.all_eq_true.mp all pc (List.mem_range.mpr within)) pc' goes
  simp only [Bool.and_eq_true, Bool.or_eq_true, decide_eq_true_eq] at here
  omega

theorem set_sp_r1 (c : Cpu Ram) (w : WORD) : (c.set .sp w).r1 = c.r1 := by
  unfold Cpu.set
  dsimp only
  split <;> rfl

/-- A push keeps the countdown. -/
theorem push_r1 {c' : Cpu Ram} (ran : (Instr.mov (.inc .r0) (.dec .sp)).exec c = some c') :
    c'.r1 = c.r1 := by
  simp only [Instr.exec, Operand.place, Place.read, Place.write, Option.bind_eq_bind,
    Option.bind_eq_some_iff, Option.map_eq_some_iff] at ran
  obtain ⟨w, -, m, -, rfl⟩ := ran
  exact set_sp_r1 ..

/-- What the handler reads into the countdown. -/
theorem count_r1 {c' : Cpu Ram} (ran : (Instr.mov (.inc .r0) (.reg .r1)).exec c = some c') :
    c'.r1 = c.bus c.r0 ∧ c'.flags.z = (c'.r1 == 0) := by
  simp only [Instr.exec, Operand.place, Place.read, Place.write, Option.bind_eq_bind,
    Option.bind_eq_some_iff, Option.some_inj] at ran
  obtain ⟨w, read, rfl⟩ := ran
  change (if c.r0.toNat % 2 = 1 then none else some (c.bus c.r0)) = some w at read
  split at read
  · cases read
  · cases read
    exact ⟨rfl, rfl⟩

theorem Pushing.step (h : Pushing sys c₁ n t) (stepped : step sys.muxxTrapHandle t = some u) :
    Pushing sys c₁ (n + if t.1 = pushLine then 1 else 0) u := by
  obtain ⟨pc', c'⟩ := u
  cases h with
  | @before pc c low reaches =>
    have forward {s t : Nat × Cpu Ram} (reaches : Reaches sys.muxxTrapHandle s t) :
        17 ≤ s.1 → 17 ≤ t.1 := fun high =>
      reaches.stays (P := fun pc => 17 ≤ pc)
        (fun _ high _ goes => (handler_forward sys goes).1 high) high
    rw [if_neg (by simp only [pushLine]; omega)]
    rcases Relation.ReflTransGen.cases_head reaches with here | ⟨u, first, later⟩
    · cases here
      have test : Pdp11.step sys.muxxTrapHandle (16, c₁) =
        some (17, { c₁ with flags := Flags.move {} c₁.r0 }) := rfl
      cases test.symm.trans stepped
      exact .tested
    · obtain rfl := Option.some_inj.mp (first.symm.trans stepped)
      refine .before ?_ later
      by_contra high
      exact absurd (forward later (by omega)) (by omega)
  | tested =>
    by_cases none : c₁.r0 = 0
    · have zero : (Flags.move {} c₁.r0).z = true := beq_iff_eq.mpr none
      have count : parmCount c₁ = 0 := if_pos none
      have skips : Pdp11.step sys.muxxTrapHandle (17, { c₁ with flags := Flags.move {} c₁.r0 }) =
          some (23, { c₁ with flags := Flags.move {} c₁.r0 }) := by
        simp [Pdp11.step, Linked.muxxTrapHandle, zero, target]
        rfl
      have last : Pushing sys c₁ _ (23, { c₁ with flags := Flags.move {} c₁.r0 }) := .past le_rfl
      rw [count] at last
      cases skips.symm.trans stepped
      exact last
    · have given : (Flags.move {} c₁.r0).z = false := beq_false_of_ne none
      have next : Pdp11.step sys.muxxTrapHandle (17, { c₁ with flags := Flags.move {} c₁.r0 }) =
          some (18, { c₁ with flags := Flags.move {} c₁.r0 }) := by
        simp [Pdp11.step, Linked.muxxTrapHandle, given]
      cases next.symm.trans stepped
      exact .given none
  | given list =>
    obtain ⟨c₂, ran, same⟩ := Option.map_eq_some_iff.mp
      (show ((Instr.mov (.inc .r0) (.reg .r1)).exec { c₁ with flags := Flags.move {} c₁.r0 }).map
        (fun c => (18 + 1, c)) = some (pc', c') from stepped)
    cases same
    obtain ⟨count, zero⟩ := count_r1 ran
    exact .counted (count.trans (if_neg list).symm) zero
  | @counted c count zero =>
    by_cases none : c.r1 = 0
    · have flag : c.flags.z = true := zero.trans (beq_iff_eq.mpr none)
      have skips : Pdp11.step sys.muxxTrapHandle (19, c) = some (23, c) := by
        simp [Pdp11.step, Linked.muxxTrapHandle, flag, target]
        rfl
      have last : Pushing sys c₁ _ (23, c) := .past le_rfl
      rw [← count, none] at last
      cases skips.symm.trans stepped
      exact last
    · have flag : c.flags.z = false := zero.trans (beq_false_of_ne none)
      have next : Pdp11.step sys.muxxTrapHandle (19, c) = some (20, c) := by
        simp [Pdp11.step, Linked.muxxTrapHandle, flag]
      cases next.symm.trans stepped
      exact .turn (.inl rfl) none ((Nat.zero_add _).trans (congrArg BitVec.toNat count))
  | @turn n pc c at_turn more left =>
    rcases at_turn with rfl | rfl
    · cases (show some (21, c) = some (pc', c') from stepped)
      exact .turn (.inr rfl) more left
    · obtain ⟨c₂, ran, same⟩ := Option.map_eq_some_iff.mp
        (show ((Instr.mov (.inc .r0) (.dec .sp)).exec c).map (fun c => (21 + 1, c)) =
          some (pc', c') from stepped)
      cases same
      have kept := push_r1 ran
      rw [if_pos rfl]
      exact .pushed (kept ▸ more) (by rw [kept]; omega)
  | @pushed n c more left =>
    have counted : Pdp11.step sys.muxxTrapHandle (22, c) =
        if c.r1 - 1 = 0 then some (23, { c with r1 := c.r1 - 1 })
        else some (20, { c with r1 := c.r1 - 1 }) := rfl
    have positive : 1 ≤ c.r1.toNat := by
      by_contra zero
      exact more (BitVec.eq_of_toNat_eq (by omega : c.r1.toNat = 0))
    have down : (c.r1 - 1).toNat = c.r1.toNat - 1 :=
      BitVec.toNat_sub_of_le (BitVec.le_def.mpr positive)
    rw [counted] at stepped
    split at stepped
    next done =>
      have last : Pushing sys c₁ _ (23, { c with r1 := c.r1 - 1 }) := .past le_rfl
      have zero : (c.r1 - 1).toNat = 0 := congrArg BitVec.toNat done
      have all : n + 0 = (parmCount c₁).toNat := by omega
      cases stepped
      exact all ▸ last
    next more' =>
      cases stepped
      exact .turn (.inl rfl) more' (by
        show n + 0 + (c.r1 - 1).toNat = _
        rw [down]
        omega)
  | @past pc c high =>
    rw [if_neg (by simp only [pushLine]; omega)]
    exact .past ((handler_forward sys (step_successors stepped)).2 high)

/-- The pushes of any run of the handler that comes to the test for a list. -/
theorem pushes_parms (low : s.1 ≤ 16) (reaches : Reaches sys.muxxTrapHandle s (16, c₁))
    (passes : Passes sys.muxxTrapHandle pushLine s n t) : Pushing sys c₁ n t :=
  passes.invariant (Pushing sys c₁) (.before low reaches) fun _ _ _ before stepped =>
    before.step stepped

theorem Pushing.le (h : Pushing sys c₁ n t) : n ≤ (parmCount c₁).toNat := by
  cases h with
  | before | tested | given | counted => exact Nat.zero_le _
  | turn _ _ left => omega
  | pushed more left =>
    have positive : 0 < (BitVec.toNat _) := Nat.pos_of_ne_zero fun zero =>
      more (BitVec.eq_of_toNat_eq zero)
    omega
  | past => exact le_rfl

theorem Pushing.all (h : Pushing sys c₁ n (23, c)) : n = (parmCount c₁).toNat := by
  cases h with
  | before low => omega
  | turn at_turn => omega
  | past => rfl

end Pushes

/-! ## The table in memory -/

namespace Linked
variable (sys : Linked) (trap_table : ADDRESS)

/-- What the function returns, or its state at the entry of _syscall_rt. The table
is read at the number times the size of an entry, wherever that is. -/
def muxxSystrapHandlerAt (c : Cpu Ram) : Option (Int ⊕ Cpu Ram) := do
  let numtrap ← c.arg 0
  let fp ← c.arg 1
  let p1 ← c.arg 2
  let p2 ← c.arg 3
  let p3 ← c.arg 4
  let p4 ← c.arg 5
  let p5 ← c.arg 6
  let p6 ← c.arg 7
  if numtrap.slt 0 || trapTableEntries.slt numtrap then return .inl einvval
  let syssvc := trap_table + 4 * numtrap
  let svcimpl ← Bus.read c.bus syssvc
  let nparams ← Bus.read c.bus (syssvc + 2)
  let c ← c.call sys.frame [svcimpl, fp, nparams, p1, p2, p3, p4, p5, p6] sys.afterSyscallRt
  return .inr c

/-- From a trap to the entry of the handler. -/
def Handles (c c' : Cpu Ram) : Prop :=
  ∃ c₁ c₂, c.trap 0 sys.pc = some c₁ ∧ Runs sys.muxxTrap (.jsr (.abs sys.trapHandle)) c₁ c₂ ∧
    c₂.push sys.afterTrapHandle = some c'

/-- From a trap to the entry of muxx_systrap_handler. -/
def Enters (c c' : Cpu Ram) : Prop :=
  ∃ c₁ c₂, sys.Handles c c₁ ∧
    Runs sys.muxxTrapHandle (.jsr (.abs sys.systrapHandler)) c₁ c₂ ∧
    c₂.push sys.afterSystrapHandler = some c'

/-- From there to the entry of a service. -/
def Calls (c c' : Cpu Ram) : Prop :=
  ∃ c₁ c₂, sys.muxxSystrapHandlerAt trap_table c = some (.inr c₁) ∧
    Runs syscallRt (.jsr (.deferred .r1)) c₁ c₂ ∧ c₂.push sys.afterService = some c'

end Linked

/-- The state in which the handler finds the list of a trap. -/
def Linked.found (sys : Linked) (c : Cpu Ram) : Cpu Ram :=
  { c with ksp := c.ksp + 65512#16, bus := sys.framed c }

/-- A parameter of muxx_systrap_handler. -/
def parm (c : Cpu Ram) (i : Nat) : WORD := parmsPushed c (parmTop c + BitVec.ofNat 16 (2 * i))

section Table
variable {sys : Linked} {c : Cpu Ram} {trap_table : ADDRESS}

/-- For a number that passes the check the word at its place is called. -/
theorem handlerAt_calls (kernel : userMode c.psw = false) (even : c.ksp.toNat % 2 = 0)
    (frameEven : sys.frame.toNat % 2 = 0) (room : sys.frame.toNat + 20 ≤ c.ksp.toNat)
    (tableEven : trap_table.toNat % 2 = 0) (small : (c.bus (c.ksp + 2#16)).toNat ≤ 160) :
    ∃ c', sys.muxxSystrapHandlerAt trap_table c = some (.inr c') ∧ userMode c'.psw = false ∧
      c'.ksp.toNat % 2 = 0 ∧
      c'.bus (c'.ksp + 2#16) = c.bus (trap_table + 4 * c.bus (c.ksp + 2#16)) ∧
      ∀ j < 6, c'.bus (c'.ksp + 8#16 + BitVec.ofNat 16 (2 * j)) =
        c.bus (c.ksp + 6#16 + BitVec.ofNat 16 (2 * j)) := by
  have byte : (c.bus (c.ksp + 2#16)).toNat < 256 := by omega
  obtain ⟨positive, within⟩ := number_checked byte
  rw [decide_eq_false (by omega)] at within
  obtain ⟨w, arg, number, passes⟩ := systrap_passes sys kernel even frameEven room
  rw [← number] at positive within ⊢
  obtain ⟨c', called, rest⟩ :=
    passes (c.bus (trap_table + 4 * w 0)) (c.bus (trap_table + 4 * w 0 + 2))
  have svc := read_ram (a := trap_table + 4 * w 0) (by bv_omega) c.bus
  have nparams := read_ram (a := trap_table + 4 * w 0 + 2) (by bv_omega) c.bus
  refine ⟨c', ?_, rest⟩
  simp -implicitDefEqProofs only [Linked.muxxSystrapHandlerAt, arg, Option.bind_eq_bind,
    Option.bind_some, positive, within, Bool.or_false, svc, nparams, called]
  rfl

theorem handlerAt_refuses (kernel : userMode c.psw = false) (even : c.ksp.toNat % 2 = 0)
    (byte : (c.bus (c.ksp + 2#16)).toNat < 256) (large : 160 < (c.bus (c.ksp + 2#16)).toNat) :
    sys.muxxSystrapHandlerAt trap_table c = some (.inl einvval) := by
  obtain ⟨positive, within⟩ := number_checked byte
  rw [decide_eq_true large] at within
  have arg (i : Nat) : c.arg i = some (c.bus (c.ksp + 2#16 + BitVec.ofNat 16 (2 * i))) :=
    arg_ram kernel even i
  have number : c.bus (c.ksp + 2#16 + BitVec.ofNat 16 (2 * 0)) = c.bus (c.ksp + 2#16) :=
    congrArg c.bus (BitVec.add_zero _)
  simp -implicitDefEqProofs only [Linked.muxxSystrapHandlerAt, arg, Option.bind_eq_bind,
    Option.bind_some, number, positive, within, Bool.or_true]
  rfl

end Table

/-! ## Traps -/

/-- A task traps. Its stack in the kernel is empty, and the table and what the
function reads behind it are below that stack. -/
structure AtCallTrap (sys : Linked) (trap_table : ADDRESS) (c : Cpu Ram) : Prop where
  user : userMode c.psw = true
  kspEven : c.ksp.toNat % 2 = 0
  pcEven : sys.pc.toNat % 2 = 0
  curEven : sys.curtcb.toNat % 2 = 0
  frameEven : sys.frame.toNat % 2 = 0
  tableEven : trap_table.toNat % 2 = 0
  listEven : c.r0.toNat % 2 = 0
  room : trap_table.toNat + sys.frame.toNat + 720 ≤ c.ksp.toNat
  table : ∀ i e, trapTable[i]? = some e → c.bus (trap_table + BitVec.ofNat 16 (4 * i)) = sys.link e.svc

/-- The implementation that the table has for the number is called, or EINVVAL is
returned where it has none. A call of the mutex service keeps to its own table. -/
def KeepsToTable (sys : Linked) (trap_table : ADDRESS) (k : Kernel) (c : Cpu Ram) : Prop :=
  ∃ c₁ num, sys.Enters c c₁ ∧ c₁.arg 0 = some num ∧
    match trapTable[num.toNat]? with
    | some e => ∃ c', sys.Calls trap_table c₁ c' ∧ c'.r1 = sys.link e.svc ∧
      (e.svc = .mutex →
        ∃ mutex op, c'.arg 1 = some mutex ∧ c'.arg 2 = some op ∧ MutexConfined k mutex op)
    | none => sys.muxxSystrapHandlerAt trap_table c₁ = some (.inl einvval)

/-- Besides, no more than six parameters are pushed. -/
structure TrapConfined (sys : Linked) (trap_table : ADDRESS) (k : Kernel) (c : Cpu Ram) : Prop where
  pushes : ∀ c₁, sys.Handles c c₁ → ∀ n t, Passes sys.muxxTrapHandle pushLine (0, c₁) n t → n ≤ 6
  calls : KeepsToTable sys trap_table k c

section Traps
variable {sys : Linked} {trap_table : ADDRESS} {k : Kernel} {c c₁ c₂ : Cpu Ram}

/-- Only r0, the stack pointer and the memory matter for what is pushed. -/
theorem parms_congr (r0 : c₁.r0 = c₂.r0) (ksp : c₁.ksp = c₂.ksp) (bus : c₁.bus = c₂.bus) :
    parmCount c₁ = parmCount c₂ ∧ parmsPushed c₁ = parmsPushed c₂ ∧ parmTop c₁ = parmTop c₂ ∧
      sys.trapNumber c₁ = sys.trapNumber c₂ := by
  have count : parmCount c₁ = parmCount c₂ := by
    rw [parmCount, parmCount, r0, bus]
  have pushed : parmsPushed c₁ = parmsPushed c₂ := by
    rw [parmsPushed, parmsPushed, count, r0, bus, ksp]
  have top : parmTop c₁ = parmTop c₂ := by
    rw [parmTop, parmTop, count, ksp]
  refine ⟨count, pushed, top, ?_⟩
  rw [Linked.trapNumber, Linked.trapNumber, pushed, top, ksp]

theorem Linked.Handles.unique (h : sys.Handles c c₁) (h' : sys.Handles c c₂) : c₁ = c₂ := by
  obtain ⟨d₁, d₂, trap, wrapper, push⟩ := h
  obtain ⟨e₁, e₂, trap', wrapper', push'⟩ := h'
  obtain rfl := Option.some_inj.mp (trap.symm.trans trap')
  obtain rfl := wrapper.unique leaves_jsr wrapper'
  exact Option.some_inj.mp (push.symm.trans push')

theorem Linked.Enters.unique (h : sys.Enters c c₁) (h' : sys.Enters c c₂) : c₁ = c₂ := by
  obtain ⟨d₁, d₂, handles, handler, push⟩ := h
  obtain ⟨e₁, e₂, handles', handler', push'⟩ := h'
  obtain rfl := handles.unique handles'
  obtain rfl := handler.unique leaves_jsr handler'
  exact Option.some_inj.mp (push.symm.trans push')

theorem Linked.Calls.unique (h : sys.Calls trap_table c c₁) (h' : sys.Calls trap_table c c₂) :
    c₁ = c₂ := by
  obtain ⟨d₁, d₂, function, rt, push⟩ := h
  obtain ⟨e₁, e₂, function', rt', push'⟩ := h'
  obtain rfl := Sum.inr.inj (Option.some_inj.mp (function.symm.trans function'))
  obtain rfl := rt.unique leaves_jsr rt'
  exact Option.some_inj.mp (push.symm.trans push')

/-- A trap comes to the test for a list. -/
theorem AtCallTrap.handled (h : AtCallTrap sys trap_table c) :
    ∃ c₁ c₂, sys.Handles c c₁ ∧ Reaches sys.muxxTrapHandle (0, c₁) (16, c₂) ∧
      Handling sys c c₂ c.ksp ∧ parmCount c₂ = parmCount (sys.found c) ∧
      parmsPushed c₂ = parmsPushed (sys.found c) ∧ parmTop c₂ = parmTop (sys.found c) ∧
      sys.trapNumber c₂ = sys.trapNumber (sys.found c) := by
  have room := h.room
  obtain ⟨c₂, ⟨d₁, d₂, c₁, trap, wrapper, push, reaches⟩, handling, framed⟩ :=
    trapped_handling sys h.user rfl h.kspEven (by omega) h.curEven
  have bus : c₂.bus = (sys.found c).bus := by
    rw [framed, Linked.found]
  have ksp : c₂.ksp = (sys.found c).ksp := by
    rw [handling.ksp, Linked.found]
  have r0 : c₂.r0 = (sys.found c).r0 := by
    rw [handling.r0, Linked.found]
  exact ⟨c₁, c₂, ⟨d₁, d₂, trap, wrapper, push⟩, reaches, handling, parms_congr r0 ksp bus⟩

theorem AtCallTrap.pushes_iff (h : AtCallTrap sys trap_table c) :
    (∀ c₁, sys.Handles c c₁ → ∀ n t, Passes sys.muxxTrapHandle pushLine (0, c₁) n t → n ≤ 6) ↔
      (parmCount (sys.found c)).toNat ≤ 6 := by
  obtain ⟨c₁, c₂, handles, reaches, handling, count, -⟩ := h.handled
  rw [← count]
  constructor
  · intro few
    have even := h.kspEven
    obtain ⟨r0, r1, f, skips⟩ := handler_pushes sys handling.kernel
      (by rw [handling.ksp]; bv_omega) (handling.r0 ▸ h.listEven)
    obtain ⟨n, passes⟩ := (reaches.trans skips).passes pushLine
    rw [← (pushes_parms (Nat.zero_le _) reaches passes).all]
    exact few c₁ handles n _ passes
  · intro few c' handles' n t passes
    obtain rfl := handles.unique handles'
    exact (pushes_parms (Nat.zero_le _) reaches passes).le.trans few

/-- With few parameters the trap comes to the function, with the table untouched. -/
theorem AtCallTrap.entered (h : AtCallTrap sys trap_table c)
    (few : (parmCount (sys.found c)).toNat ≤ 6) :
    ∃ c₁, sys.Enters c c₁ ∧ userMode c₁.psw = false ∧ c₁.ksp.toNat % 2 = 0 ∧
      sys.frame.toNat + 660 ≤ c₁.ksp.toNat ∧
      c₁.bus (c₁.ksp + 2#16) = sys.trapNumber (sys.found c) ∧
      (∀ j < 6, c₁.bus (c₁.ksp + 6#16 + BitVec.ofNat 16 (2 * j)) = parm (sys.found c) j) ∧
      ∀ a : ADDRESS, a.toNat < trap_table.toNat + 660 → c₁.bus a = c.bus a := by
  have room := h.room
  have even := h.kspEven
  obtain ⟨c₁, c₂, handles, reaches, handling, count, pushed, top, number⟩ := h.handled
  rw [← count] at few
  obtain ⟨c₃, c₄, reaches', push, kernel, ksp, at_number, same⟩ :=
    handler_entered handling even h.pcEven (handling.r0 ▸ h.listEven) (by omega)
  have at_top : parmTop c₂ = c.ksp + 65512#16 - BitVec.ofNat 16 (2 * (parmCount c₂).toNat) := by
    rw [parmTop, handling.ksp]
  refine ⟨c₄, ⟨c₁, c₃, handles, ⟨30, reaches.trans reaches', rfl⟩, push⟩, kernel, ?_, ?_,
    at_number.trans number, ?_, ?_⟩
  · rw [ksp, at_top]
    bv_omega
  · rw [ksp, at_top]
    bv_omega
  · intro j small
    have slot : c₄.ksp + 6#16 + BitVec.ofNat 16 (2 * j) = parmTop c₂ + BitVec.ofNat 16 (2 * j) := by
      rw [ksp]
      bv_omega
    have above : (parmTop c₂).toNat ≤ (parmTop c₂ + BitVec.ofNat 16 (2 * j)).toNat := by
      rw [at_top]
      bv_omega
    rw [slot, same _ (.inl above), parm, ← pushed, ← top]
  · intro a low
    have below : a.toNat + 6 < (parmTop c₂).toNat := by
      rw [at_top]
      bv_omega
    have clear : parmsPushed c₂ a = c₂.bus a := by
      apply pushWords_other
      · rw [handling.ksp]
        bv_omega
      · rw [handling.ksp]
        bv_omega
    rw [same _ (.inr below), clear, handling.kept a (by omega)]

/-- Unless the instruction is on the kernel's stack, the number is the one it has. -/
theorem AtCallTrap.number_text (h : AtCallTrap sys trap_table c)
    (few : (parmCount (sys.found c)).toNat ≤ 6)
    (text : (sys.pc + 65534#16).toNat + 38 < c.ksp.toNat ∨
      c.ksp.toNat ≤ (sys.pc + 65534#16).toNat) :
    sys.trapNumber (sys.found c) = 255#16 &&& c.bus (sys.pc + 65534#16) := by
  have room := h.room
  obtain ⟨c₁, c₂, -, -, handling, count, -, -, number⟩ := h.handled
  rw [← count] at few
  have top : parmTop c₂ = c.ksp + 65512#16 - BitVec.ofNat 16 (2 * (parmCount c₂).toNat) := by
    rw [parmTop, handling.ksp]
  have apart : sys.pc + 65534#16 ≠ parmTop c₂ + 65534#16 := by
    rw [top]
    bv_omega
  have clear : parmsPushed c₂ (sys.pc + 65534#16) = c₂.bus (sys.pc + 65534#16) := by
    apply pushWords_other
    · rw [handling.ksp]
      bv_omega
    · rw [handling.ksp]
      bv_omega
  rw [← number, Linked.trapNumber, Function.update_of_ne apart, clear,
    handling.kept _ (by omega)]

theorem trapNumber_byte (sys : Linked) (c : Cpu Ram) : (sys.trapNumber c).toNat < 256 := by
  rw [Linked.trapNumber, BitVec.toNat_and]
  exact Nat.lt_of_le_of_lt Nat.and_le_left (by decide)

/-- A number that passes the check is used, whether or not the table has it. -/
theorem AtCallTrap.served (h : AtCallTrap sys trap_table c) (few : (parmCount (sys.found c)).toNat ≤ 6)
    {num : WORD} (number : sys.trapNumber (sys.found c) = num) (small : num.toNat ≤ 160) :
    ∃ c₁ c', sys.Enters c c₁ ∧ c₁.arg 0 = some num ∧ sys.Calls trap_table c₁ c' ∧
      c'.r1 = c.bus (trap_table + BitVec.ofNat 16 (4 * num.toNat)) ∧
      ∀ j < 6, c'.arg (j + 1) = some (parm (sys.found c) j) := by
  have room := h.room
  obtain ⟨c₁, enters, kernel, even, frame, at_number, parms, same⟩ := h.entered few
  rw [number] at at_number
  obtain ⟨c₂, called, kernel', even', svc, params⟩ := handlerAt_calls kernel even h.frameEven
    (by omega) h.tableEven (at_number ▸ small)
  obtain ⟨c₃, c', rt, push, r1, -, args⟩ := syscallRt_passes kernel' even' sys.afterService
  have slot : trap_table + 4 * num = trap_table + BitVec.ofNat 16 (4 * num.toNat) := by
    bv_omega
  have within : (trap_table + BitVec.ofNat 16 (4 * num.toNat)).toNat < trap_table.toNat + 660 := by
    bv_omega
  refine ⟨c₁, c', enters, ?_, ⟨c₂, c₃, called, rt, push⟩, ?_, ?_⟩
  · rw [arg_ram kernel even, ← at_number]
    exact congrArg (fun a => some (c₁.bus a)) (BitVec.add_zero _)
  · rw [r1, svc, at_number, slot, same _ within]
  · intro j small
    rw [args j small, params j small, parms j small]

/-- The implementations are called for their numbers. -/
theorem AtCallTrap.implemented (h : AtCallTrap sys trap_table c) {i : Nat} {e : SVC_S}
    (entry : trapTable[i]? = some e) :
    (e.svc = .mutex ↔ i = 25) ∧
      c.bus (trap_table + BitVec.ofNat 16 (4 * i)) = sys.link e.svc := by
  have mutexes : ∀ i : Fin 40, (trapTable[i.val]?.map SVC_S.svc = some .mutex ↔ i.val = 25) := by
    decide
  obtain ⟨within, -⟩ := List.getElem?_eq_some_iff.mp entry
  have here := mutexes ⟨i, within⟩
  rw [entry] at here
  exact ⟨by simpa using here, h.table i e entry⟩

theorem AtCallTrap.calls_iff (h : AtCallTrap sys trap_table c)
    (few : (parmCount (sys.found c)).toNat ≤ 6) {num : WORD}
    (number : sys.trapNumber (sys.found c) = num) :
    KeepsToTable sys trap_table k c ↔ (num.toNat < 40 ∨ 160 < num.toNat) ∧ (num.toNat = 25 →
      ¬ (parm (sys.found c) 0 = mutMutexes ∧ parm (sys.found c) 1 ≤ mutDealloc)) := by
  by_cases large : 160 < num.toNat
  · obtain ⟨c₁, enters, kernel, even, -, at_number, -⟩ := h.entered few
    rw [number] at at_number
    have byte : num.toNat < 256 := number ▸ trapNumber_byte sys (sys.found c)
    have none : trapTable[num.toNat]? = none := List.getElem?_eq_none (by
      show 40 ≤ _
      omega)
    refine iff_of_true ⟨c₁, num, enters, ?_, ?_⟩ ⟨.inr large, fun last => by omega⟩
    · rw [arg_ram kernel even, ← at_number]
      exact congrArg (fun a => some (c₁.bus a)) (BitVec.add_zero _)
    · rw [none]
      exact handlerAt_refuses kernel even (at_number ▸ byte) (at_number ▸ large)
  obtain ⟨c₁, c', enters, arg, calls, r1, parms⟩ := h.served few number (by omega)
  have first := parms 0 (by decide)
  have second := parms 1 (by decide)
  cases entry : trapTable[num.toNat]? with
  | none =>
    have beyond : 40 ≤ num.toNat := List.getElem?_eq_none_iff.mp entry
    refine iff_of_false ?_ fun bounds => by omega
    rintro ⟨c₂, num', enters', arg', outcome⟩
    obtain rfl := enters.unique enters'
    obtain rfl := Option.some_inj.mp (arg.symm.trans arg')
    rw [entry] at outcome
    obtain ⟨c₃, -, called, -⟩ := calls
    cases called.symm.trans outcome
  | some e =>
    have within : num.toNat < 40 := (List.getElem?_eq_some_iff.mp entry).1
    obtain ⟨isMutex, linked⟩ := h.implemented entry
    constructor
    · rintro ⟨c₂, num', enters', arg', outcome⟩
      obtain rfl := enters.unique enters'
      obtain rfl := Option.some_inj.mp (arg.symm.trans arg')
      rw [entry] at outcome
      obtain ⟨c'', calls', -, confined⟩ := outcome
      obtain rfl := calls.unique calls'
      refine ⟨.inl within, ?_⟩
      intro mutex
      obtain ⟨m, op, at_m, at_op, confined⟩ := confined (isMutex.mpr mutex)
      obtain rfl := Option.some_inj.mp (first.symm.trans at_m)
      obtain rfl := Option.some_inj.mp (second.symm.trans at_op)
      exact mutexConfined_iff.mp confined
    · rintro ⟨-, fine⟩
      refine ⟨c₁, num, enters, arg, ?_⟩
      rw [entry]
      refine ⟨c', calls, r1.trans linked, ?_⟩
      intro mutex
      exact ⟨_, _, first, second, mutexConfined_iff.mpr (fine (isMutex.mp mutex))⟩

/-- A trap keeps to all limits exactly when it comes with at most six parameters,
has a number that the table has or one above 160, and does not use mutex 16. -/
theorem trap_confined_iff (h : AtCallTrap sys trap_table c) :
    TrapConfined sys trap_table k c ↔ (parmCount (sys.found c)).toNat ≤ 6 ∧
      ((sys.trapNumber (sys.found c)).toNat < 40 ∨ 160 < (sys.trapNumber (sys.found c)).toNat) ∧
      ((sys.trapNumber (sys.found c)).toNat = 25 →
        ¬ (parm (sys.found c) 0 = mutMutexes ∧ parm (sys.found c) 1 ≤ mutDealloc)) := by
  constructor
  · rintro ⟨pushes, calls⟩
    have few := h.pushes_iff.mp pushes
    exact ⟨few, (h.calls_iff few rfl).mp calls⟩
  · rintro ⟨few, fine⟩
    exact ⟨h.pushes_iff.mpr few, (h.calls_iff few rfl).mpr fine⟩

end Traps

/-- The program of `caller`, with the table at 2000. -/
def trapping (number : WORD) : Cpu Ram :=
  { caller number with
    bus := fun a =>
      if a = 0o40000 then 0x8900#16 + number
      else
        match trapTable[(a - 0o2000).toNat / 4]? with
        | some e => tableLink e.svc
        | none => 0 }

theorem trapping_atCallTrap (number : WORD) : AtCallTrap sampleLink 0o2000 (trapping number) := by
  have ksp : (trapping number).ksp = 0o150000 := rfl
  refine ⟨(by decide : userMode 0o170000 = true), by rw [ksp]; decide, by decide, by decide, by decide,
    by decide, (by decide : (0 : WORD).toNat % 2 = 0), by rw [ksp]; decide, ?_⟩
  intro i e entry
  have within : i < 40 := (List.getElem?_eq_some_iff.mp entry).1
  have apart : (0o2000 : ADDRESS) + BitVec.ofNat 16 (4 * i) ≠ 0o40000 := by
    bv_omega
  have index : ((0o2000 : ADDRESS) + BitVec.ofNat 16 (4 * i) - 0o2000).toNat / 4 = i := by
    bv_omega
  show (if _ then _ else _) = _
  rw [if_neg apart, index, entry]
  rfl

theorem trapping_number (number : WORD) (byte : number.toNat < 256) :
    sampleLink.trapNumber (sampleLink.found (trapping number)) = number := by
  have none : parmCount (sampleLink.found (trapping number)) = 0 := if_pos rfl
  have ksp : (trapping number).ksp = 0o150000 := rfl
  rw [(trapping_atCallTrap number).number_text (by rw [none]; decide) (.inl (by rw [ksp]; decide))]
  show 255#16 &&& (0x8900#16 + number) = number
  apply BitVec.eq_of_toNat_eq
  rw [BitVec.toNat_and, BitVec.toNat_add, show (255#16).toNat = 2 ^ 8 - 1 from rfl, Nat.and_comm,
    Nat.and_two_pow_sub_one_eq_mod]
  simp
  omega

/-- A task yields. -/
theorem trap_confined_yield :
    TrapConfined sampleLink 0o2000 (twoTasks 0o101) (trapping 26) := by
  have none : parmCount (sampleLink.found (trapping 26)) = 0 := if_pos rfl
  refine (trap_confined_iff (trapping_atCallTrap 26)).mpr ?_
  rw [none, trapping_number 26 (by decide)]
  exact ⟨by decide, .inl (by decide), fun mutex => absurd mutex (by decide)⟩

/-- The trap number 100 has no implementation, and the word 400 bytes behind the
start of the table is called. -/
theorem trap_beyond_table :
    AtCallTrap sampleLink 0o2000 (trapping 100) ∧ (trapping 100).bus 0o40000 = 0x8900#16 + 100 ∧
      ¬ TrapConfined sampleLink 0o2000 (twoTasks 0o101) (trapping 100) := by
  have atTrap := trapping_atCallTrap 100
  have none : parmCount (sampleLink.found (trapping 100)) = 0 := if_pos rfl
  refine ⟨atTrap, rfl, ?_⟩
  rintro ⟨-, calls⟩
  have within :=
    ((atTrap.calls_iff (by rw [none]; decide) (trapping_number 100 (by decide))).mp calls).1
  exact absurd within (by decide)

end Muxx
