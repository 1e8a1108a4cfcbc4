import Muxx.Calls

/-!
# The way of a system call

* `call_lists`: a macro leaves the parameter list behind;
* `handle_pushes`, `syscallRt_passes`: the handlers turn it over, to the stack of
  the service;
* `call_delivered_iff`: which calls reach their service with their values.
-/

namespace Muxx

open Pdp11

/-! ## Parameter lists -/

/-- Not in the six words below `sp`, where the macros keep their lists. -/
def Beyond (sp a : ADDRESS) : Prop := a.toNat + 12 < sp.toNat ∨ sp.toNat ≤ a.toNat

/-- Whatever a macro has changed so far, the operand stands for `v`. -/
def Given (c : Cpu Ram) (o : Operand) (v : WORD) : Prop :=
  ∀ (sp : ADDRESS) (f : Flags) (m : Ram), (∀ a, Beyond c.usp a → m a = c.bus a) →
    ∃ p, ∀ byte, o.place byte { c with usp := sp, flags := f, bus := m } =
        (p, { c with usp := sp, flags := f, bus := m }) ∧
      p.read { c with usp := sp, flags := f, bus := m } = some v ∧
      p.readb { c with usp := sp, flags := f, bus := m } = some (v.setWidth 8)

theorem given_imm (c : Cpu Ram) (v : WORD) : Given c (.imm v) v :=
  fun _ _ _ _ => ⟨.const v, fun _ => ⟨rfl, rfl, rfl⟩⟩

/-- At a macro in a user task. -/
structure InUser (c : Cpu Ram) : Prop where
  user : userMode c.psw = true
  even : c.usp.toNat % 2 = 0
  low : 12 < c.usp.toNat

/-- The list of `ws` is below the user's stack pointer, and r0 points there. -/
structure Listed (c c₁ : Cpu Ram) (ws : List WORD) : Prop where
  user : userMode c₁.psw = true
  r0 : c₁.r0 = c.usp - BitVec.ofNat 16 (2 * ws.length + 2)
  ksp : c₁.ksp = c.ksp
  count : c₁.bus c₁.r0 = BitVec.ofNat 16 ws.length
  word : ∀ i (within : i < ws.length), c₁.bus (c₁.r0 + 2 + BitVec.ofNat 16 (2 * i)) = ws[i]
  other : ∀ a, Beyond c.usp a → c₁.bus a = c.bus a

section Lists
variable {c c₁ : Cpu Ram} {sp : ADDRESS} {f : Flags} {m : Ram} {o : Operand} {v x : WORD}
variable {os : List Operand} {ws : List WORD} {n : WORD}

theorem place_index (byte : Bool) (c : Cpu Ram) (x : WORD) (r : Reg) :
    (Operand.index x r).place byte c = (.mem (c.get r + x), c) := rfl

theorem move_given (given : Given c o v) (user : userMode c.psw = true)
    (even : (sp + x).toNat % 2 = 0) (kept : ∀ a, Beyond c.usp a → m a = c.bus a) :
    (Instr.mov o (.index x .sp)).exec { c with usp := sp, flags := f, bus := m } =
      some { c with usp := sp, flags := f.move v, bus := Function.update m (sp + x) v } := by
  obtain ⟨p, given⟩ := given sp f m kept
  obtain ⟨place, read, -⟩ := given false
  simp only [Instr.exec, place, place_index, read]
  simp [user, write_ram even]

/-- From the word `k` of a list of `n` words at `sp` on. -/
theorem moves_given {k n : Nat} (given : List.Forall₂ (Given c) os ws) (h : InUser c)
    (few : n ≤ 5) (count : k + os.length = n) (at_list : sp = c.usp - BitVec.ofNat 16 (2 * n + 2))
    (kept : ∀ a, Beyond c.usp a → m a = c.bus a) :
    ∃ f' m', execAll (moves (BitVec.ofNat 16 (2 * (k + 1))) os)
        { c with usp := sp, flags := f, bus := m } =
          some { c with usp := sp, flags := f', bus := m' } ∧
      (∀ i (within : i < ws.length), m' (sp + BitVec.ofNat 16 (2 * (k + 1 + i))) = ws[i]) ∧
      ∀ a, (∀ j, k < j → j ≤ n → a ≠ sp + BitVec.ofNat 16 (2 * j)) → m' a = m a := by
  have even := h.even
  have low := h.low
  induction given generalizing k f m with
  | nil => exact ⟨f, m, rfl, fun i within => absurd within (Nat.not_lt_zero i), fun _ _ => rfl⟩
  | @cons o v os ws head _ ih =>
    rw [List.length_cons] at count
    have slotEven : (sp + BitVec.ofNat 16 (2 * (k + 1))).toNat % 2 = 0 := by
      bv_omega
    have first := move_given (f := f) head h.user slotEven kept
    have next : BitVec.ofNat 16 (2 * (k + 1)) + 2 = BitVec.ofNat 16 (2 * (k + 1 + 1)) := by
      rw [Nat.mul_add 2 (k + 1), BitVec.ofNat_add]
      rfl
    have kept' (a : ADDRESS) (apart : Beyond c.usp a) :
        Function.update m (sp + BitVec.ofNat 16 (2 * (k + 1))) v a = c.bus a := by
      have other : a ≠ sp + BitVec.ofNat 16 (2 * (k + 1)) := by
        unfold Beyond at apart
        bv_omega
      rw [Function.update_of_ne other, kept a apart]
    obtain ⟨f', m', ran, stored, rest⟩ := ih (k := k + 1) (f := f.move v) (by omega) kept'
    refine ⟨f', m', ?_, ?_, ?_⟩
    · rw [moves, next]
      exact execAll_cons first ran
    · intro i within
      match i with
      | 0 =>
        rw [rest, Nat.add_zero, Function.update_self]
        · rfl
        · intro j before last
          bv_omega
      | i + 1 =>
        have index : k + 1 + (i + 1) = k + 1 + 1 + i := by omega
        rw [index]
        exact stored i (Nat.lt_of_succ_lt_succ within)
    · intro a apart
      rw [rest a fun j before last => apart j (by omega) last,
        Function.update_of_ne (apart (k + 1) (by omega) (by omega))]

theorem Runs.block {code : List Line} {is : List Instr} {last : Line} {rest : List Line}
    (text : code = is.map .instr ++ last :: rest) (ran : execAll is c = some c₁) :
    Runs code last c c₁ := by
  subst text
  refine ⟨is.length, ?_, by simp⟩
  have there : is.map .instr <+: (is.map Line.instr ++ last :: rest).drop 0 := ⟨_, rfl⟩
  simpa using Reaches.block there ran

theorem parmlist_lists (given : List.Forall₂ (Given c) os ws) (h : InUser c)
    (few : ws.length ≤ 5) :
    ∃ c₁, Runs (parmlist os n) (.trap n) c c₁ ∧ Listed c c₁ ws := by
  have length := given.length_eq
  have user := h.user
  have low := h.low
  have even := h.even
  obtain ⟨sp, at_list⟩ : ∃ sp, sp = c.usp - BitVec.ofNat 16 (2 * ws.length + 2) := ⟨_, rfl⟩
  have spEven : sp.toNat % 2 = 0 := by
    bv_omega
  let f := (Flags.difference c.usp (BitVec.ofNat 16 (2 * ws.length + 2))).move
    (BitVec.ofNat 16 ws.length)
  let m := Function.update c.bus sp (BitVec.ofNat 16 ws.length)
  have head : execAll [.sub (.imm (BitVec.ofNat 16 (2 * ws.length + 2))) (.reg .sp),
      .mov (.imm (BitVec.ofNat 16 ws.length)) (.deferred .sp)] c =
        some { c with usp := sp, flags := f, bus := m } := by
    simp [user, ← at_list, write_ram spEven, f, m]
  have kept (a : ADDRESS) (apart : Beyond c.usp a) : m a = c.bus a := by
    have other : a ≠ sp := by
      unfold Beyond at apart
      bv_omega
    exact Function.update_of_ne other ..
  obtain ⟨f', m', stores, stored, rest⟩ :=
    moves_given (k := 0) (f := f) given h few (by omega) at_list kept
  have last : execAll [.mov (.reg .sp) (.reg .r0)] { c with usp := sp, flags := f', bus := m' } =
      some { c with r0 := sp, usp := sp, flags := f'.move sp, bus := m' } := by
    simp [user]
  let is : List Instr := [.sub (.imm (BitVec.ofNat 16 (2 * ws.length + 2))) (.reg .sp),
    .mov (.imm (BitVec.ofNat 16 ws.length)) (.deferred .sp)] ++
      moves (BitVec.ofNat 16 (2 * (0 + 1))) os ++ [.mov (.reg .sp) (.reg .r0)]
  have ran : execAll is c = some { c with r0 := sp, usp := sp, flags := f'.move sp, bus := m' } :=
    execAll_append (execAll_append head stores) last
  have text : parmlist os n = is.map .instr ++
      .trap n :: [.instr (.add (.imm (BitVec.ofNat 16 (2 * ws.length + 2))) (.reg .sp))] := by
    simp only [parmlist, length]
    rfl
  refine ⟨_, Runs.block text ran, user, at_list, rfl, ?_, ?_, ?_⟩
  · show m' sp = _
    rw [rest]
    · exact Function.update_self ..
    · intro j before last
      bv_omega
  · intro i within
    show m' (sp + 2 + BitVec.ofNat 16 (2 * i)) = _
    rw [← stored i within]
    congr 1
    bv_omega
  · intro a apart
    show m' a = _
    rw [rest, kept a apart]
    intro j before last
    unfold Beyond at apart
    bv_omega

/-- A list of one word. -/
theorem Listed.one (h : InUser c) (at_list : sp = c.usp - 4#16) (f : Flags) (w : WORD) :
    Listed c { c with
      r0 := sp, usp := sp, flags := f
      bus := Function.update (Function.update c.bus sp 1#16) (sp + 2#16) w } [w] := by
  have low := h.low
  have slot : sp + 2#16 ≠ sp := by
    bv_omega
  refine ⟨h.user, at_list, rfl, ?_, ?_, ?_⟩
  · exact (Function.update_of_ne slot.symm ..).trans (Function.update_self ..)
  · intro i within
    obtain rfl : i = 0 := Nat.lt_one_iff.mp within
    show Function.update (Function.update c.bus sp 1#16) (sp + 2#16) w (sp + 2#16 + 0#16) = w
    rw [BitVec.add_zero, Function.update_self]
  · intro a other
    unfold Beyond at other
    have second : a ≠ sp + 2#16 := by
      bv_omega
    have first : a ≠ sp := by
      bv_omega
    exact (Function.update_of_ne second ..).trans (Function.update_of_ne first ..)

theorem list_head (h : InUser c) (at_list : sp = c.usp - 4#16) :
    execAll [.sub (.imm 4) (.reg .sp), .mov (.imm 1) (.deferred .sp)] c =
        some { c with
          usp := sp, flags := (Flags.difference c.usp 4).move 1
          bus := Function.update c.bus sp 1#16 } ∧
      ∀ a, Beyond c.usp a → Function.update c.bus sp 1#16 a = c.bus a := by
  have user := h.user
  have low := h.low
  have even := h.even
  have spEven : sp.toNat % 2 = 0 := by
    bv_omega
  constructor
  · simp [user, ← at_list, write_ram spEven]
  · intro a other
    have first : a ≠ sp := by
      unfold Beyond at other
      bv_omega
    exact Function.update_of_ne first ..

/-- The low byte of the word is the character. -/
theorem conputc_lists (given : Given c o v) (h : InUser c) :
    ∃ c₁ w, Runs (Macro.conputc o) (.trap Krn.putcon) c c₁ ∧ Listed c c₁ [w] ∧
      w.setWidth 8 = v.setWidth 8 := by
  have user := h.user
  have low := h.low
  have even := h.even
  obtain ⟨sp, at_list⟩ : ∃ sp, sp = c.usp - 4#16 := ⟨_, rfl⟩
  have slotEven : (sp + 2#16).toNat % 2 = 0 := by
    bv_omega
  obtain ⟨head, kept⟩ := list_head h at_list
  obtain ⟨p, given⟩ := given sp ((Flags.difference c.usp 4).move 1) _ kept
  obtain ⟨place, -, readb⟩ := given true
  obtain ⟨w, written, char⟩ := writeb_ram slotEven (Function.update c.bus sp 1#16) (v.setWidth 8)
  have byte : (Instr.movb o (.index 2 .sp)).exec { c with
      usp := sp, flags := (Flags.difference c.usp 4).move 1
      bus := Function.update c.bus sp 1#16 } =
        some { c with
          usp := sp, flags := (Flags.difference c.usp 4).move ((v.setWidth 8).signExtend 16)
          bus := Function.update (Function.update c.bus sp 1#16) (sp + 2#16) w } := by
    simp only [Instr.exec, place, place_index, readb]
    simp [Place.writeb, user, written]
  have last : execAll [.mov (.reg .sp) (.reg .r0)] { c with
      usp := sp, flags := (Flags.difference c.usp 4).move ((v.setWidth 8).signExtend 16)
      bus := Function.update (Function.update c.bus sp 1#16) (sp + 2#16) w } =
        some { c with
          r0 := sp, usp := sp, flags := (Flags.difference c.usp 4).move sp
          bus := Function.update (Function.update c.bus sp 1#16) (sp + 2#16) w } := by
    simp [user]
  let is : List Instr := [.sub (.imm 4) (.reg .sp), .mov (.imm 1) (.deferred .sp),
    .movb o (.index 2 .sp), .mov (.reg .sp) (.reg .r0)]
  have ran : execAll is c = some _ := execAll_append head (execAll_cons byte last)
  exact ⟨_, w, Runs.block (by rfl) ran, .one h at_list _ w, char⟩

/-- The word is the current task where a null pointer is given. -/
theorem suspend_lists {curtcb : ADDRESS} (given : Given c o v) (h : InUser c)
    (even : curtcb.toNat % 2 = 0) (apart : Beyond c.usp curtcb) :
    ∃ c₁, Runs (Macro.suspend curtcb o) (.trap Srv.suspend) c c₁ ∧
      Listed c c₁ [if v = 0 then c.bus curtcb else v] := by
  have user := h.user
  have low := h.low
  have spEven := h.even
  obtain ⟨sp, at_list⟩ : ∃ sp, sp = c.usp - 4#16 := ⟨_, rfl⟩
  have slotEven : (sp + 2#16).toNat % 2 = 0 := by
    bv_omega
  obtain ⟨head, kept⟩ := list_head h at_list
  have entry : Reaches (Macro.suspend curtcb o) (0, c) (2, _) :=
    .block (by exact ⟨_, rfl⟩) head
  obtain ⟨p, given'⟩ := given sp ((Flags.difference c.usp 4).move 1) _ kept
  obtain ⟨place, read, -⟩ := given' false
  have test : (Instr.tst o).exec { c with
      usp := sp, flags := (Flags.difference c.usp 4).move 1
      bus := Function.update c.bus sp 1#16 } =
        some { c with
          usp := sp, flags := Flags.move {} v, bus := Function.update c.bus sp 1#16 } := by
    simp only [Instr.exec, place, read]
    rfl
  have tested := entry.trans (.one (step_instr rfl test))
  have finish (f : Flags) (w : WORD)
      (there : Reaches (Macro.suspend curtcb o) (3, { c with
        usp := sp, flags := Flags.move {} v, bus := Function.update c.bus sp 1#16 }) (8, { c with
          usp := sp, flags := f
          bus := Function.update (Function.update c.bus sp 1#16) (sp + 2#16) w })) :
      ∃ c₁, Runs (Macro.suspend curtcb o) (.trap Srv.suspend) c c₁ ∧ Listed c c₁ [w] := by
    have last : (Instr.mov (.reg .sp) (.reg .r0)).exec { c with
        usp := sp, flags := f
        bus := Function.update (Function.update c.bus sp 1#16) (sp + 2#16) w } =
          some { c with
            r0 := sp, usp := sp, flags := f.move sp
            bus := Function.update (Function.update c.bus sp 1#16) (sp + 2#16) w } := by
      simp [user]
    exact ⟨_, ⟨10, tested.trans (there.trans ((Reaches.one rfl).trans
      (.one (step_instr rfl last)))), rfl⟩, .one h at_list _ w⟩
  by_cases null : v = 0
  · rw [if_pos null]
    subst null
    have current : (Instr.mov (.abs curtcb) (.index 2 .sp)).exec { c with
        usp := sp, flags := Flags.move {} 0, bus := Function.update c.bus sp 1#16 } =
          some { c with
            usp := sp, flags := (Flags.move {} 0).move (c.bus curtcb)
            bus := Function.update (Function.update c.bus sp 1#16) (sp + 2#16) (c.bus curtcb) } := by
      simp [user, read_ram even, write_ram slotEven, kept curtcb apart]
    exact finish _ _ ((Reaches.one rfl).trans ((Reaches.one (step_instr rfl current)).trans
      (.one rfl)))
  · rw [if_neg null]
    have value : (Instr.mov o (.index 2 .sp)).exec { c with
        usp := sp, flags := Flags.move {} v, bus := Function.update c.bus sp 1#16 } =
          some { c with
            usp := sp, flags := (Flags.move {} v).move v
            bus := Function.update (Function.update c.bus sp 1#16) (sp + 2#16) v } :=
      move_given given user slotEven kept
    have zero : (Flags.move {} v).z = false := beq_false_of_ne null
    have branch : step (Macro.suspend curtcb o) (3, { c with
        usp := sp, flags := Flags.move {} v, bus := Function.update c.bus sp 1#16 }) =
          some (6, { c with
            usp := sp, flags := Flags.move {} v, bus := Function.update c.bus sp 1#16 }) := by
      simp [step, Macro.suspend, zero, target]
      rfl
    exact finish _ _ ((Reaches.one branch).trans ((Reaches.one rfl).trans
      (.one (step_instr rfl value))))

end Lists

/-- The calls whose macros have nothing but moves. -/
theorem code_parmlist {sys : Linked} {args : Parm → Operand} :
    ∀ call : Call, call ≠ .suspend → call ≠ .conputc →
      call.code sys args = parmlist (call.list.map args) call.number := by
  intro call suspend conputc
  cases call <;> first | exact absurd rfl suspend | exact absurd rfl conputc | rfl

theorem list_few (call : Call) : 0 < call.list.length ∧ call.list.length ≤ 5 := by
  cases call <;> decide

theorem list_ordinary (call : Call) : call ≠ .suspend → call ≠ .conputc →
    .task ∉ call.list ∧ .char ∉ call.list := by
  cases call <;> decide

/-- Every macro leaves a list that holds what its service should get. -/
theorem call_lists {sys : Linked} (call : Call) {args : Parm → Operand} {values : Parm → WORD}
    {c : Cpu Ram} (given : ∀ p, Given c (args p) (values p)) (h : InUser c)
    (even : sys.curtcb.toNat % 2 = 0) (apart : Beyond c.usp sys.curtcb) :
    ∃ c₁ ws, Runs (call.code sys args) (.trap call.number) c c₁ ∧ Listed c c₁ ws ∧
      List.Forall₂ (Receives (c.bus sys.curtcb) values) call.list ws := by
  by_cases suspend : call = .suspend
  · subst suspend
    obtain ⟨c₁, ran, listed⟩ := suspend_lists (given .task) h even apart
    exact ⟨c₁, _, ran, listed, .cons rfl .nil⟩
  by_cases conputc : call = .conputc
  · subst conputc
    obtain ⟨c₁, w, ran, listed, char⟩ := conputc_lists (given .char) h
    exact ⟨c₁, _, ran, listed, .cons char .nil⟩
  have operands : List.Forall₂ (Given c) (call.list.map args) (call.list.map values) := by
    rw [List.forall₂_map_left_iff, List.forall₂_map_right_iff]
    exact List.forall₂_same.mpr fun p _ => given p
  obtain ⟨c₁, ran, listed⟩ := parmlist_lists (n := call.number) operands h
    (by rw [List.length_map]; exact (list_few call).2)
  rw [← code_parmlist call suspend conputc] at ran
  refine ⟨c₁, _, ran, listed, ?_⟩
  obtain ⟨task, char⟩ := list_ordinary call suspend conputc
  rw [List.forall₂_map_right_iff]
  refine List.forall₂_same.mpr fun p mem => ?_
  cases p <;> first | exact absurd mem task | exact absurd mem char | rfl

/-! ## Handlers -/

theorem status_user {psw : WORD} (user : userMode psw = true) (f : Flags) :
    status psw f &&& 0xC000 = 0xC000 := by
  obtain ⟨high, next⟩ := Bool.and_eq_true_iff.mp user
  have flags := toWord_high f
  have mask : ∀ i : Fin 16, (0xC000 : WORD).getLsbD i = decide (14 ≤ i.val) := by decide
  have kept : (0xFFF0 : WORD).getLsbD 15 = true ∧ (0xFFF0 : WORD).getLsbD 14 = true := by decide
  apply BitVec.eq_of_getLsbD_eq
  intro i within
  rw [BitVec.getLsbD_and, mask ⟨i, within⟩]
  by_cases low : 14 ≤ i
  · have cases' : i = 14 ∨ i = 15 := by omega
    rcases cases' with rfl | rfl
    · rw [status, BitVec.getLsbD_or, BitVec.getLsbD_and, next, kept.2]
      rfl
    · rw [status, BitVec.getLsbD_or, BitVec.getLsbD_and, high, kept.1]
      rfl
  · rw [decide_eq_false low, Bool.and_false]

theorem trap_user {c : Cpu Ram} (user : userMode c.psw = true) (even : c.ksp.toNat % 2 = 0)
    (pc : WORD) :
    c.trap 0 pc = some { c with
      psw := 0x3000#16, flags := {}, ksp := c.ksp + 65532#16
      bus := Function.update
        (Function.update c.bus (c.ksp + 65534#16) (status c.psw c.flags)) (c.ksp + 65532#16) pc } := by
  have first : (c.ksp + 65534#16).toNat % 2 = 0 := by
    bv_omega
  have second : (c.ksp + 65532#16).toNat % 2 = 0 := by
    bv_omega
  have psw : (0 : WORD) &&& 0xCFFF ||| (status c.psw c.flags &&& 0xC000) >>> 2 = 0x3000#16 := by
    rw [status_user user]
    decide
  have flags : Flags.ofWord 0x3000#16 = {} := by decide
  have kernel : userMode 0x3000#16 = false := by decide
  simp only [Cpu.trap, psw, Cpu.setStatus, flags]
  simp -implicitDefEqProofs [kernel, write_ram first, write_ram second, BitVec.add_assoc]

/-- The memory outside the `n` bytes below `k` is the same. -/
def Kept (k : ADDRESS) (n : Nat) (m m' : Ram) : Prop :=
  ∀ a : ADDRESS, a.toNat + n < k.toNat ∨ k.toNat ≤ a.toNat → m' a = m a

/-- What the wrapper and the first lines of the handler make of a trap: the frame
lies on the kernel stack below `k`, and r5 points to the saved r5. -/
structure Handling (sys : Linked) (c c' : Cpu Ram) (k : ADDRESS) : Prop where
  kernel : userMode c'.psw = false
  r0 : c'.r0 = c.r0
  r5 : c'.r5 = k + 65512#16
  ksp : c'.ksp = k + 65512#16
  fp : c'.bus (k + 65514#16) = k + 65518#16
  pc : c'.bus (k + 65532#16) = sys.pc
  kept : Kept k 24 c.bus c'.bus

/-- From a trap in a user program to the test for a parameter list. -/
def Trapped (sys : Linked) (c c' : Cpu Ram) : Prop :=
  ∃ c₂ c₃ c₄, c.trap 0 sys.pc = some c₂ ∧
    Runs sys.muxxTrap (.jsr (.abs sys.trapHandle)) c₂ c₃ ∧
    c₃.push sys.afterTrapHandle = some c₄ ∧ Reaches sys.muxxTrapHandle (0, c₄) (16, c')

section Handlers
variable {sys : Linked} {c c' c₁ : Cpu Ram} {k x w : ADDRESS} {n : Nat} {m m' : Ram}

theorem Kept.update (h : Kept k n m m') (room : n ≤ k.toNat) (low : 65536 ≤ x.toNat + n)
    (w : WORD) : Kept k n m (Function.update m' (k + x) w) := by
  intro a outside
  have apart : a ≠ k + x := by
    bv_omega
  rw [Function.update_of_ne apart, h a outside]

/-- What the wrapper pushes. -/
def wrapped (c : Cpu Ram) (k : ADDRESS) : Ram :=
  let m := Function.update (Function.update c.bus (k + 65530#16) 0#16) (k + 65528#16) 0#16
  let m := Function.update (Function.update m (k + 65526#16) c.r2) (k + 65524#16) c.r3
  let m := Function.update (Function.update m (k + 65522#16) c.r4) (k + 65520#16) c.r5
  Function.update m (k + 65518#16) (k + 65518#16)

variable (sys) in
theorem wrapper_runs (kernel : userMode c.psw = false) (even : k.toNat % 2 = 0)
    (ksp : c.ksp = k + 65532#16) :
    ∃ f, Runs sys.muxxTrap (.jsr (.abs sys.trapHandle)) c
      { c with ksp := k + 65518#16, flags := f, bus := wrapped c k } := by
  have slot (x : WORD) (shift : x.toNat % 2 = 0) : (k + x).toNat % 2 = 0 := by
    bv_omega
  have write (x : WORD) (shift : x.toNat % 2 = 0) (m : Ram) := write_ram (slot x shift) m
  have ran : execAll (instrsAt sys.muxxTrap 0 7) c = some { c with
      ksp := k + 65518#16, flags := Flags.move { z := true } (k + 65518#16)
      bus := wrapped c k } := by
    simp -implicitDefEqProofs [instrsAt, Linked.muxxTrap, traphandle, wrapped, kernel, ksp, write,
      BitVec.add_assoc]
  exact ⟨_, 7, .straight rfl rfl ran, rfl⟩

/-- The stack of the handler when r0 is in its place again. -/
def handled (m : Ram) (k r0 r5 : WORD) : Ram :=
  Function.update (Function.update (Function.update m (k + 65514#16) (k + 65518#16))
    (k + 65512#16) r0) (k + 65512#16) r5

variable (sys) in
/-- The memory once the frame of a trap is on the kernel stack. -/
def Linked.framed (c : Cpu Ram) : Ram :=
  let m := Function.update (Function.update c.bus (c.ksp + 65534#16) (status c.psw c.flags))
    (c.ksp + 65532#16) sys.pc
  handled (Function.update (wrapped { c with bus := m } c.ksp) (c.ksp + 65516#16)
    sys.afterTrapHandle) c.ksp c.r0 c.r5

/-- The previous mode, user mode, is all that is left of the status word. -/
theorem previous_mode (f : Flags) : 12288#16 &&& status 12288#16 f = 12288#16 := by
  obtain ⟨n, z, v, c⟩ := f
  cases n <;> cases z <;> cases v <;> cases c <;> decide

theorem handler_enters (kernel : userMode c.psw = false) (previous : c.psw = 0x3000#16)
    (even : k.toNat % 2 = 0) (cur : sys.curtcb.toNat % 2 = 0) (ksp : c.ksp = k + 65516#16)
    (fp : c.bus (k + 65518#16) = k + 65518#16) :
    ∃ r1 r2 f, Reaches sys.muxxTrapHandle (0, c) (16, { c with
      r1 := r1, r2 := r2, r5 := k + 65512#16, ksp := k + 65512#16, flags := f
      bus := handled c.bus k c.r0 c.r5 }) := by
  have slot (x : WORD) (shift : x.toNat % 2 = 0) : (k + x).toNat % 2 = 0 := by
    bv_omega
  have write (x : WORD) (shift : x.toNat % 2 = 0) (m : Ram) := write_ram (slot x shift) m
  have read (x : WORD) (shift : x.toNat % 2 = 0) (m : Ram) := read_ram (slot x shift) m
  have low : userMode 12288#16 = false := by decide
  let m := Function.update (Function.update c.bus (k + 65514#16) (k + 65518#16)) (k + 65512#16) c.r0
  have ran : ∃ r0 r2, execAll (instrsAt sys.muxxTrapHandle 0 6) c = some { c with
      r0 := r0, r1 := 12288#16, r2 := r2, ksp := k + 65512#16, flags := c.flags.move 12288#16
      bus := m } := by
    simp -implicitDefEqProofs [instrsAt, Linked.muxxTrapHandle, previous, low, ksp, write, read,
      read_ram cur, fp, BitVec.add_assoc, previous_mode, m]
  obtain ⟨r0, r2, ran⟩ := ran
  have back : execAll (instrsAt sys.muxxTrapHandle 13 3) { c with
      r0 := r0, r1 := 12288#16, r2 := r2, ksp := k + 65512#16, flags := c.flags.move 12288#16
      bus := m } = some { c with
        r1 := 12288#16, r2 := r2, r5 := k + 65512#16, ksp := k + 65512#16
        flags := c.flags.move (k + 65512#16), bus := handled c.bus k c.r0 c.r5 } := by
    simp -implicitDefEqProofs [instrsAt, Linked.muxxTrapHandle, kernel, write, read, handled,
      BitVec.add_assoc, m]
  have branch : step sys.muxxTrapHandle (6, { c with
      r0 := r0, r1 := 12288#16, r2 := r2, ksp := k + 65512#16, flags := c.flags.move 12288#16
      bus := m }) = some (12, { c with
        r0 := r0, r1 := 12288#16, r2 := r2, ksp := k + 65512#16, flags := c.flags.move 12288#16
        bus := m }) := by
    simp [step, Linked.muxxTrapHandle, Flags.move, target]
    rfl
  have first : Reaches sys.muxxTrapHandle (0, c) (6, _) := .straight rfl rfl ran
  have last : Reaches sys.muxxTrapHandle (13, _) (16, _) := .straight rfl rfl back
  exact ⟨_, _, _, first.trans ((Reaches.one branch).trans ((Reaches.one rfl).trans last))⟩

variable (sys) in
/-- A trap in a user program gets as far as the test for a parameter list. -/
theorem trapped_handling (user : userMode c.psw = true) (ksp : c.ksp = k) (even : k.toNat % 2 = 0)
    (room : 24 ≤ k.toNat) (cur : sys.curtcb.toNat % 2 = 0) :
    ∃ c', Trapped sys c c' ∧ Handling sys c c' k ∧ c'.bus = sys.framed c := by
  subst ksp
  have kernel : userMode 12288#16 = false := by decide
  have apart (x y : WORD) (other : x ≠ y) : c.ksp + x ≠ c.ksp + y := by
    bv_omega
  have slot : (c.ksp + 65518#16).toNat % 2 = 0 := by
    bv_omega
  have top : c.ksp + 65518#16 + -2 = c.ksp + 65516#16 := by
    bv_omega
  have trap := trap_user user even sys.pc
  obtain ⟨m₂, at_m₂⟩ : ∃ m₂, m₂ = Function.update (Function.update c.bus (c.ksp + 65534#16)
    (status c.psw c.flags)) (c.ksp + 65532#16) sys.pc := ⟨_, rfl⟩
  rw [← at_m₂] at trap
  obtain ⟨f₃, wrapper⟩ := wrapper_runs sys (c := { c with
    psw := 0x3000#16, flags := {}, ksp := c.ksp + 65532#16, bus := m₂ }) kernel even rfl
  obtain ⟨m₃, at_m₃⟩ : ∃ m₃, m₃ = wrapped { c with
    psw := 0x3000#16, flags := {}, ksp := c.ksp + 65532#16, bus := m₂ } c.ksp := ⟨_, rfl⟩
  rw [← at_m₃] at wrapper
  have push := push_kernel (c := { c with
    psw := 0x3000#16, ksp := c.ksp + 65518#16, flags := f₃, bus := m₃ }) kernel slot
      sys.afterTrapHandle
  rw [top] at push
  obtain ⟨m₄, at_m₄⟩ : ∃ m₄, m₄ = Function.update m₃ (c.ksp + 65516#16) sys.afterTrapHandle :=
    ⟨_, rfl⟩
  rw [← at_m₄] at push
  have fp : m₄ (c.ksp + 65518#16) = c.ksp + 65518#16 := by
    rw [at_m₄, Function.update_of_ne (apart _ _ (by decide)), at_m₃, wrapped, Function.update_self]
  obtain ⟨r1, r2, f, handler⟩ := handler_enters (c := { c with
    psw := 0x3000#16, ksp := c.ksp + 65516#16, flags := f₃, bus := m₄ }) kernel rfl even cur rfl fp
  obtain ⟨m₅, at_m₅⟩ : ∃ m₅, m₅ = handled m₄ c.ksp c.r0 c.r5 := ⟨_, rfl⟩
  simp only [← at_m₅] at handler
  refine ⟨_, ⟨_, _, _, trap, wrapper, push, handler⟩, ⟨kernel, rfl, rfl, rfl, ?_, ?_, ?_⟩, ?_⟩
  · show m₅ (c.ksp + 65514#16) = _
    rw [at_m₅, handled, Function.update_of_ne (apart _ _ (by decide)),
      Function.update_of_ne (apart _ _ (by decide)), Function.update_self]
  · show m₅ (c.ksp + 65532#16) = _
    simp only [at_m₅, handled, at_m₄, at_m₃, wrapped]
    repeat rw [Function.update_of_ne (apart _ _ (by decide))]
    rw [at_m₂, Function.update_self]
  · show Kept c.ksp 24 c.bus m₅
    have kept₂ : Kept c.ksp 24 c.bus m₂ := by
      rw [at_m₂]
      exact .update (.update (fun _ _ => rfl) room (by decide) _) room (by decide) _
    have kept₃ : Kept c.ksp 24 c.bus m₃ := by
      rw [at_m₃, wrapped]
      iterate 7 refine .update ?_ room (by decide) _
      exact kept₂
    have kept₄ : Kept c.ksp 24 c.bus m₄ := by
      rw [at_m₄]
      exact .update kept₃ room (by decide) _
    rw [at_m₅, handled]
    exact .update (.update (.update kept₄ room (by decide) _) room (by decide) _) room (by decide) _
  · show m₅ = _
    simp only [at_m₅, at_m₄, at_m₃, at_m₂, Linked.framed, wrapped]

/-- Words from `list` on that pushes at `sp` do not overwrite. -/
structure Clear (m : Ram) (list sp : ADDRESS) (ws : List WORD) : Prop where
  room : 2 * ws.length ≤ sp.toNat
  word : ∀ i (within : i < ws.length), m (list + BitVec.ofNat 16 (2 * i)) = ws[i]
  apart : ∀ i, i < ws.length → (list + BitVec.ofNat 16 (2 * i)).toNat + 2 * ws.length < sp.toNat ∨
    sp.toNat ≤ (list + BitVec.ofNat 16 (2 * i)).toNat

/-- The memory after `j` words from `list` on have been pushed at `sp`, each read
when its turn comes. -/
def pushWords (m : Ram) (list sp : ADDRESS) : Nat → Ram
  | 0 => m
  | j + 1 =>
    let m := pushWords m list sp j
    Function.update m (sp - BitVec.ofNat 16 (2 * (j + 1))) (m (list + BitVec.ofNat 16 (2 * j)))

theorem pushWords_other {list sp a : ADDRESS} {j : Nat} (room : 2 * j ≤ sp.toNat)
    (outside : a.toNat + 2 * j < sp.toNat ∨ sp.toNat ≤ a.toNat) : pushWords m list sp j a = m a := by
  induction j with
  | zero => rfl
  | succ j ih =>
    have apart : a ≠ sp - BitVec.ofNat 16 (2 * (j + 1)) := by
      bv_omega
    rw [pushWords, Function.update_of_ne apart, ih (by omega) (by omega)]

theorem pushWords_stacked {list sp : ADDRESS} {ws : List WORD} (clear : Clear m list sp ws) :
    Stacked m (pushWords m list sp ws.length) sp ws := by
  suffices first : ∀ j ≤ ws.length, Stacked m (pushWords m list sp j) sp (ws.take j) by
    have all := first ws.length le_rfl
    rwa [List.take_length] at all
  intro j within
  induction j with
  | zero => exact Stacked.nil m sp
  | succ j ih =>
    have now := ih (Nat.le_of_succ_le within)
    have taken : (ws.take j).length = j := List.length_take_of_le (Nat.le_of_succ_le within)
    have value : pushWords m list sp j (list + BitVec.ofNat 16 (2 * j)) = ws[j] := by
      rw [now.other _ (by rw [taken]; have := clear.apart j within; omega), clear.word j within]
    have room := clear.room
    have next := now.push (by rw [taken]; omega) ws[j]
    rw [taken, ← List.take_succ_eq_append_getElem within] at next
    rw [pushWords, value]
    exact next

/-- After `j` of the words, with `left` to go. -/
def pushing (c : Cpu Ram) (list sp : ADDRESS) (j left : Nat) (f : Flags) (m : Ram) : Cpu Ram :=
  { c with
    r0 := list + BitVec.ofNat 16 (2 * j)
    r1 := BitVec.ofNat 16 left
    ksp := sp - BitVec.ofNat 16 (2 * j)
    flags := f
    bus := m }

theorem pushing_turn {list sp : ADDRESS} (kernel : userMode c.psw = false)
    (listEven : list.toNat % 2 = 0) (spEven : sp.toNat % 2 = 0) (j left : Nat) (f : Flags)
    (m : Ram) :
    execAll [.mov (.inc .r0) (.dec .sp)] (pushing c list sp j left f m) =
      some (pushing c list sp (j + 1) left (f.move (m (list + BitVec.ofNat 16 (2 * j))))
        (Function.update m (sp - BitVec.ofNat 16 (2 * (j + 1)))
          (m (list + BitVec.ofNat 16 (2 * j))))) := by
  have readEven : (list + BitVec.ofNat 16 (2 * j)).toNat % 2 = 0 := by
    bv_omega
  have writeEven : (sp - BitVec.ofNat 16 (2 * (j + 1))).toNat % 2 = 0 := by
    bv_omega
  have next : list + BitVec.ofNat 16 (2 * j) + 2#16 = list + BitVec.ofNat 16 (2 * (j + 1)) := by
    bv_omega
  have below : sp - BitVec.ofNat 16 (2 * j) + 65534#16 = sp - BitVec.ofNat 16 (2 * (j + 1)) := by
    bv_omega
  simp -implicitDefEqProofs [pushing, kernel, read_ram readEven, write_ram writeEven, next, below]

variable (sys) in
/-- The countdown pushes as many words as its register says. -/
theorem handler_loop {list sp : ADDRESS} (kernel : userMode c.psw = false)
    (listEven : list.toNat % 2 = 0) (spEven : sp.toNat % 2 = 0) (f : Flags) (n : Nat)
    (few : n + 1 < 65536) :
    ∃ f', Reaches sys.muxxTrapHandle (20, pushing c list sp 0 (n + 1) f c.bus)
      (23, pushing c list sp (n + 1) 0 f' (pushWords c.bus list sp (n + 1))) := by
  let turns (left : Nat) (c' : Cpu Ram) : Prop := ∃ j f, j + left = n + 1 ∧
    c' = pushing c list sp j left f (pushWords c.bus list sp j)
  have turn (left : Nat) (c' : Cpu Ram) (_ : left + 1 < 65536) (before : turns (left + 1) c') :
      ∃ c'', execAll [.mov (.inc .r0) (.dec .sp)] c' = some c'' ∧
        c''.get .r1 = BitVec.ofNat 16 (left + 1) ∧
        turns left (c''.set .r1 (BitVec.ofNat 16 left)) := by
    obtain ⟨j, f, count, rfl⟩ := before
    exact ⟨_, pushing_turn kernel listEven spEven j (left + 1) f _, rfl, j + 1, _, by omega, rfl⟩
  have labelled : target sys.muxxTrapHandle 10 = some 20 := rfl
  have there : .label 10 :: [Instr.mov (.inc .r0) (.dec .sp)].map .instr ++ [.sob .r1 10] <+:
      sys.muxxTrapHandle.drop 20 := ⟨_, rfl⟩
  obtain ⟨c', ⟨j, f', count, rfl⟩, reaches⟩ :=
    Reaches.sob labelled there turns turn few ⟨0, f, by omega, rfl⟩
  obtain rfl : j = n + 1 := by omega
  exact ⟨f', reaches⟩

variable (sys) in
/-- A list with something in it is what the countdown starts on. -/
theorem handler_counts (even : c.r0.toNat % 2 = 0) (list : c.r0 ≠ 0) {n : Nat}
    (few : n + 1 < 65536) (count : c.bus c.r0 = BitVec.ofNat 16 (n + 1)) :
    ∃ f, Reaches sys.muxxTrapHandle (16, c)
      (20, pushing c (c.r0 + 2) c.ksp 0 (n + 1) f c.bus) := by
  have nonzero : BitVec.ofNat 16 (n + 1) ≠ 0 := by
    intro zero
    have zero := congrArg BitVec.toNat zero
    rw [BitVec.toNat_ofNat, Nat.mod_eq_of_lt few] at zero
    exact absurd zero (Nat.succ_ne_zero n)
  have test : (Instr.tst (.reg .r0)).exec c = some { c with flags := Flags.move {} c.r0 } := rfl
  have given : (Flags.move {} c.r0).z = false := beq_false_of_ne list
  have first : step sys.muxxTrapHandle (17, { c with flags := Flags.move {} c.r0 }) =
      some (18, { c with flags := Flags.move {} c.r0 }) := by
    simp [step, Linked.muxxTrapHandle, given]
  let c₁ := pushing c (c.r0 + 2) c.ksp 0 (n + 1)
    ((Flags.move {} c.r0).move (BitVec.ofNat 16 (n + 1))) c.bus
  have counted : (Instr.mov (.inc .r0) (.reg .r1)).exec { c with flags := Flags.move {} c.r0 } =
      some c₁ := by
    simp -implicitDefEqProofs [read_ram even, count, c₁, pushing]
  have filled : c₁.flags.z = false := beq_false_of_ne nonzero
  have second : step sys.muxxTrapHandle (19, c₁) = some (20, c₁) := by
    simp [step, Linked.muxxTrapHandle, filled]
  exact ⟨_, (Reaches.one (step_instr rfl test)).trans ((Reaches.one first).trans
    ((Reaches.one (step_instr rfl counted)).trans (.one second)))⟩

/-- From the frame to the number of the trap, which is in the instruction. -/
theorem handler_calls (kernel : userMode c.psw = false) (r5 : c.r5 = k + 65512#16)
    (even : k.toNat % 2 = 0) (spEven : c.ksp.toNat % 2 = 0) (pcEven : sys.pc.toNat % 2 = 0)
    (fp : c.bus (k + 65514#16) = k + 65518#16) (pc : c.bus (k + 65532#16) = sys.pc)
    (clear : k + 65532#16 ≠ c.ksp + 65534#16) {num : WORD}
    (number : num = 255#16 &&&
      Function.update c.bus (c.ksp + 65534#16) (k + 65518#16) (sys.pc + 65534#16)) :
    ∃ f, Reaches sys.muxxTrapHandle (23, c) (30, { c with
        r1 := num, ksp := c.ksp + 65532#16, flags := f
        bus := Function.update (Function.update c.bus (c.ksp + 65534#16) (k + 65518#16))
          (c.ksp + 65532#16) num }) := by
  have slot (a x : WORD) (base : a.toNat % 2 = 0) (shift : x.toNat % 2 = 0) :
      (a + x).toNat % 2 = 0 := by
    bv_omega
  have read (x : WORD) (shift : x.toNat % 2 = 0) (m : Ram) := read_ram (slot k x even shift) m
  have write (x : WORD) (shift : x.toNat % 2 = 0) (m : Ram) := write_ram (slot c.ksp x spEven shift) m
  have trap (m : Ram) := read_ram (slot sys.pc 65534#16 pcEven (by decide)) m
  have ran : execAll (instrsAt sys.muxxTrapHandle 24 6) c = some { c with
      r1 := num, ksp := c.ksp + 65532#16, flags := c.flags.move num
      bus := Function.update (Function.update c.bus (c.ksp + 65534#16) (k + 65518#16))
        (c.ksp + 65532#16) num } := by
    simp -implicitDefEqProofs [instrsAt, Linked.muxxTrapHandle, kernel, r5, read, write, trap, fp,
      pc, Function.update_of_ne clear, BitVec.add_assoc, number]
  have straight : Reaches sys.muxxTrapHandle (24, c) (30, _) := .straight rfl rfl ran
  exact ⟨_, (Reaches.one rfl).trans straight⟩

/-- The count of the parameter list, if there is one. -/
def parmCount (c : Cpu Ram) : WORD := if c.r0 = 0 then 0 else c.bus c.r0

/-- The memory and the stack pointer once the parameters have been pushed. -/
def parmsPushed (c : Cpu Ram) : Ram := pushWords c.bus (c.r0 + 2) c.ksp (parmCount c).toNat

def parmTop (c : Cpu Ram) : ADDRESS := c.ksp - BitVec.ofNat 16 (2 * (parmCount c).toNat)

theorem parms_none (count : parmCount c = 0) : parmTop c = c.ksp ∧ parmsPushed c = c.bus := by
  unfold parmTop parmsPushed
  rw [count]
  exact ⟨BitVec.sub_zero _, rfl⟩

variable (sys) in
/-- The low byte of the instruction, when the frame pointer has been pushed too. -/
def Linked.trapNumber (c : Cpu Ram) : WORD :=
  255#16 &&& Function.update (parmsPushed c) (parmTop c + 65534#16) (c.ksp + 6#16) (sys.pc + 65534#16)

variable (sys) in
/-- The parameters, if there are any, are pushed. -/
theorem handler_pushes (kernel : userMode c.psw = false) (even : c.ksp.toNat % 2 = 0)
    (listEven : c.r0.toNat % 2 = 0) :
    ∃ r0 r1 f, Reaches sys.muxxTrapHandle (16, c) (23, { c with
      r0 := r0, r1 := r1, ksp := parmTop c, flags := f, bus := parmsPushed c }) := by
  have test : (Instr.tst (.reg .r0)).exec c = some { c with flags := Flags.move {} c.r0 } := rfl
  have tested : Reaches sys.muxxTrapHandle (16, c) (17, { c with flags := Flags.move {} c.r0 }) :=
    .one (step_instr rfl test)
  by_cases none : c.r0 = 0
  · have count : parmCount c = 0 := if_pos none
    have zero : (Flags.move {} c.r0).z = true := beq_iff_eq.mpr none
    have skips : step sys.muxxTrapHandle (17, { c with flags := Flags.move {} c.r0 }) =
        some (23, { c with flags := Flags.move {} c.r0 }) := by
      simp [step, Linked.muxxTrapHandle, zero, target]
      rfl
    obtain ⟨top, pushed⟩ := parms_none count
    refine ⟨c.r0, c.r1, Flags.move {} c.r0, ?_⟩
    rw [top, pushed]
    exact tested.trans (.one skips)
  have count : parmCount c = c.bus c.r0 := if_neg none
  by_cases empty : c.bus c.r0 = 0
  · have given : (Flags.move {} c.r0).z = false := beq_false_of_ne none
    have first : step sys.muxxTrapHandle (17, { c with flags := Flags.move {} c.r0 }) =
        some (18, { c with flags := Flags.move {} c.r0 }) := by
      simp [step, Linked.muxxTrapHandle, given]
    have counted : (Instr.mov (.inc .r0) (.reg .r1)).exec { c with flags := Flags.move {} c.r0 } =
        some { c with r0 := c.r0 + 2#16, r1 := 0, flags := (Flags.move {} c.r0).move 0 } := by
      simp -implicitDefEqProofs [read_ram listEven, empty]
    have skips : step sys.muxxTrapHandle (19, { c with
        r0 := c.r0 + 2#16, r1 := 0, flags := (Flags.move {} c.r0).move 0 }) =
          some (23, { c with r0 := c.r0 + 2#16, r1 := 0, flags := (Flags.move {} c.r0).move 0 }) := by
      simp [step, Linked.muxxTrapHandle, target, Flags.move]
      rfl
    obtain ⟨top, pushed⟩ := parms_none (count.trans empty)
    refine ⟨c.r0 + 2#16, 0, (Flags.move {} c.r0).move 0, ?_⟩
    rw [top, pushed]
    exact tested.trans ((Reaches.one first).trans
      ((Reaches.one (step_instr rfl counted)).trans (.one skips)))
  · obtain ⟨n, length⟩ : ∃ n, (c.bus c.r0).toNat = n + 1 := by
      refine ⟨(c.bus c.r0).toNat - 1, (Nat.succ_pred_eq_of_pos (Nat.pos_of_ne_zero ?_)).symm⟩
      intro zero
      exact empty (BitVec.eq_of_toNat_eq zero)
    have few : n + 1 < 65536 := length ▸ (c.bus c.r0).isLt
    have word : c.bus c.r0 = BitVec.ofNat 16 (n + 1) := by
      rw [← length, BitVec.ofNat_toNat, BitVec.setWidth_eq]
    have nextEven : (c.r0 + 2).toNat % 2 = 0 := by
      bv_omega
    obtain ⟨f₁, counted⟩ := handler_counts sys listEven none few word
    obtain ⟨f₂, loop⟩ := handler_loop sys kernel nextEven even f₁ n few
    have top : parmTop c = c.ksp - BitVec.ofNat 16 (2 * (n + 1)) := by
      rw [parmTop, count, length]
    have pushed : parmsPushed c = pushWords c.bus (c.r0 + 2) c.ksp (n + 1) := by
      rw [parmsPushed, count, length]
    rw [top, pushed]
    exact ⟨_, _, f₂, counted.trans loop⟩

/-- At the entry of muxx_systrap_handler, with the number and the frame pointer
below the parameters. -/
theorem handler_entered (h : Handling sys c₁ c k) (even : k.toNat % 2 = 0)
    (pcEven : sys.pc.toNat % 2 = 0) (listEven : c.r0.toNat % 2 = 0)
    (room : 30 + 2 * (parmCount c).toNat ≤ k.toNat) :
    ∃ c₂ c', Reaches sys.muxxTrapHandle (16, c) (30, c₂) ∧
      c₂.push sys.afterSystrapHandler = some c' ∧ userMode c'.psw = false ∧
      c'.ksp = parmTop c + 65530#16 ∧ c'.bus (c'.ksp + 2#16) = sys.trapNumber c ∧
      ∀ a : ADDRESS, (parmTop c).toNat ≤ a.toNat ∨ a.toNat + 6 < (parmTop c).toNat →
        c'.bus a = parmsPushed c a := by
  have spEven : c.ksp.toNat % 2 = 0 := by
    rw [h.ksp]
    bv_omega
  obtain ⟨r0, r1, f, pushes⟩ := handler_pushes sys h.kernel spEven listEven
  obtain ⟨sp, at_sp⟩ : ∃ sp, sp = parmTop c := ⟨_, rfl⟩
  have top : sp = k + 65512#16 - BitVec.ofNat 16 (2 * (parmCount c).toNat) := by
    rw [at_sp, parmTop, h.ksp]
  have topEven : sp.toNat % 2 = 0 := by
    bv_omega
  have frame (x : WORD) (above : 65512 ≤ x.toNat) : parmsPushed c (k + x) = c.bus (k + x) := by
    apply pushWords_other
    · rw [h.ksp]
      bv_omega
    · rw [h.ksp]
      bv_omega
  have fp : c.ksp + 6#16 = k + 65518#16 := by
    rw [h.ksp]
    bv_omega
  have clear : k + 65532#16 ≠ parmTop c + 65534#16 := by
    rw [← at_sp]
    bv_omega
  have number : sys.trapNumber c = 255#16 &&&
      Function.update (parmsPushed c) (parmTop c + 65534#16) (k + 65518#16) (sys.pc + 65534#16) := by
    rw [Linked.trapNumber, fp]
  obtain ⟨f', calls⟩ := @handler_calls sys { c with
      r0 := r0, r1 := r1, ksp := parmTop c, flags := f, bus := parmsPushed c }
    k h.kernel h.r5 even (at_sp ▸ topEven) pcEven
    ((frame _ (by decide)).trans h.fp) ((frame _ (by decide)).trans h.pc) clear _ number
  obtain ⟨num, at_num⟩ : ∃ num, num = sys.trapNumber c := ⟨_, rfl⟩
  obtain ⟨m, at_m⟩ : ∃ m, m = parmsPushed c := ⟨_, rfl⟩
  rw [← at_sp, ← at_num, ← at_m] at calls
  rw [← at_sp, ← at_m] at pushes
  obtain ⟨m₂, at_m₂⟩ : ∃ m₂, m₂ = Function.update (Function.update m (sp + 65534#16)
    (k + 65518#16)) (sp + 65532#16) num := ⟨_, rfl⟩
  have calls : Reaches sys.muxxTrapHandle (23, { c with
    r0 := r0, r1 := r1, ksp := sp, flags := f, bus := m }) (30, { c with
      r0 := r0, r1 := num, ksp := sp + 65532#16, flags := f', bus := m₂ }) := at_m₂ ▸ calls
  have push := push_kernel (c := { c with
    r0 := r0, r1 := num, ksp := sp + 65532#16, flags := f', bus := m₂ }) h.kernel (by bv_omega)
      sys.afterSystrapHandler
  have below : sp + 65532#16 + -2 = sp + 65530#16 := by
    bv_omega
  rw [below] at push
  obtain ⟨m₃, at_m₃⟩ : ∃ m₃, m₃ = Function.update m₂ (sp + 65530#16) sys.afterSystrapHandler :=
    ⟨_, rfl⟩
  rw [← at_m₃] at push
  refine ⟨_, _, pushes.trans calls, push, h.kernel, at_sp ▸ rfl, ?_, ?_⟩
  · have slot : sp + 65530#16 + 2#16 = sp + 65532#16 := by
      bv_omega
    have apart : sp + 65532#16 ≠ sp + 65530#16 := by
      bv_omega
    show m₃ (sp + 65530#16 + 2#16) = _
    rw [at_m₃, slot, Function.update_of_ne apart, at_m₂, Function.update_self, at_num]
  · intro a outside
    rw [← at_sp] at outside
    have apart (x : WORD) (low : 65530 ≤ x.toNat) : a ≠ sp + x := by
      bv_omega
    show m₃ a = _
    rw [at_m₃, Function.update_of_ne (apart _ (by decide)), at_m₂,
      Function.update_of_ne (apart _ (by decide)), Function.update_of_ne (apart _ (by decide)), at_m]

theorem small_slt {x y : WORD} (hx : x.toNat < 2 ^ 15) (hy : y.toNat < 2 ^ 15) :
    x.slt y = decide (x.toNat < y.toNat) := by
  rw [BitVec.slt_eq_decide, BitVec.toInt_eq_toNat_of_lt (by omega),
    BitVec.toInt_eq_toNat_of_lt (by omega)]
  simp only [Int.ofNat_lt]

variable (sys) in
/-- The parameters of the function are handed on with an address of a service. -/
theorem systrap_passes (kernel : userMode c.psw = false) (even : c.ksp.toNat % 2 = 0)
    (frameEven : sys.frame.toNat % 2 = 0) (room : sys.frame.toNat + 20 ≤ c.ksp.toNat) :
    ∃ w : Nat → WORD, (∀ i, c.arg i = some (w i)) ∧ w 0 = c.bus (c.ksp + 2#16) ∧
      ∀ svcimpl nparams, ∃ c', c.call sys.frame [svcimpl, w 1, nparams, w 2, w 3, w 4, w 5, w 6, w 7]
          sys.afterSyscallRt = some c' ∧ userMode c'.psw = false ∧ c'.ksp.toNat % 2 = 0 ∧
        c'.bus (c'.ksp + 2#16) = svcimpl ∧
        ∀ j < 6, c'.bus (c'.ksp + 8#16 + BitVec.ofNat 16 (2 * j)) =
          c.bus (c.ksp + 6#16 + BitVec.ofNat 16 (2 * j)) := by
  obtain ⟨w, at_w⟩ : ∃ w : Nat → WORD, ∀ i, c.bus (c.ksp + 2#16 + BitVec.ofNat 16 (2 * i)) = w i :=
    ⟨_, fun _ => rfl⟩
  refine ⟨w, ?_, ?_, ?_⟩
  · intro i
    rw [arg_ram kernel even, at_w]
  · rw [← at_w 0]
    exact congrArg c.bus (BitVec.add_zero _)
  intro svcimpl nparams
  obtain ⟨c', called, kernel', ksp', args⟩ := call_args sys.frame sys.afterSyscallRt
    [svcimpl, w 1, nparams, w 2, w 3, w 4, w 5, w 6, w 7] kernel (by bv_omega) (by simpa using room)
  have param (j : Nat) : c.bus (c.ksp + 6#16 + BitVec.ofNat 16 (2 * j)) = w (j + 2) := by
    have slot : c.ksp + 6#16 + BitVec.ofNat 16 (2 * j) =
        c.ksp + 2#16 + BitVec.ofNat 16 (2 * (j + 2)) := by
      bv_omega
    rw [slot, at_w]
  have at_param (j : Nat) : c'.ksp + 2 + BitVec.ofNat 16 (2 * (j + 3)) =
      c'.ksp + 8#16 + BitVec.ofNat 16 (2 * j) := by
    bv_omega
  refine ⟨c', called, kernel', ?_, ?_, ?_⟩
  · rw [ksp']
    simp only [List.length_cons, List.length_nil]
    bv_omega
  · have svc := args 0 (Nat.zero_lt_succ _)
    have slot : c'.ksp + 2 + BitVec.ofNat 16 (2 * 0) = c'.ksp + 2#16 := BitVec.add_zero _
    rw [slot] at svc
    exact svc
  · intro j few
    have word := args (j + 3) (by simp only [List.length_cons, List.length_nil]; omega)
    rw [at_param] at word
    rw [word, param]
    obtain rfl | rfl | rfl | rfl | rfl | rfl : j = 0 ∨ j = 1 ∨ j = 2 ∨ j = 3 ∨ j = 4 ∨ j = 5 := by
      omega
    all_goals rfl

/-- The bounds that the function checks. -/
theorem number_checked {num : WORD} (byte : num.toNat < 256) :
    num.slt 0 = false ∧ trapTableEntries.slt num = decide (160 < num.toNat) := by
  have entries : trapTableEntries.toNat = 160 := by decide
  rw [small_slt (by omega) (by decide), small_slt (by decide) (by omega), entries]
  exact ⟨decide_eq_false (Nat.not_lt_zero _), rfl⟩

variable (sys) in
/-- The function calls what the table has for the number. -/
theorem systrapHandler_calls (kernel : userMode c.psw = false) (even : c.ksp.toNat % 2 = 0)
    (frameEven : sys.frame.toNat % 2 = 0) (room : sys.frame.toNat + 20 ≤ c.ksp.toNat) {e : SVC_S}
    (entry : trapTable[(c.bus (c.ksp + 2#16)).toNat]? = some e) :
    ∃ c', sys.muxxSystrapHandler c = some c' ∧ userMode c'.psw = false ∧ c'.ksp.toNat % 2 = 0 ∧
      c'.bus (c'.ksp + 2#16) = sys.link e.svc ∧
      ∀ j < 6, c'.bus (c'.ksp + 8#16 + BitVec.ofNat 16 (2 * j)) =
        c.bus (c.ksp + 6#16 + BitVec.ofNat 16 (2 * j)) := by
  have small : (c.bus (c.ksp + 2#16)).toNat < 40 := (List.getElem?_eq_some_iff.mp entry).1
  have byte : (c.bus (c.ksp + 2#16)).toNat < 256 := by omega
  obtain ⟨positive, within⟩ := number_checked byte
  rw [decide_eq_false (by omega)] at within
  obtain ⟨w, arg, number, passes⟩ := systrap_passes sys kernel even frameEven room
  obtain ⟨c', called, rest⟩ := passes (sys.link e.svc) e.nparams
  rw [← number] at positive within entry
  refine ⟨c', ?_, rest⟩
  simp -implicitDefEqProofs only [Linked.muxxSystrapHandler, arg, Option.bind_eq_bind,
    Option.bind_some, positive, within, entry, Bool.or_false]
  exact called

/-- The assembly routine hands the parameters on. -/
theorem syscallRt_passes (kernel : userMode c.psw = false) (even : c.ksp.toNat % 2 = 0)
    (ret : ADDRESS) :
    ∃ c₁ c', Runs syscallRt (.jsr (.deferred .r1)) c c₁ ∧ c₁.push ret = some c' ∧
      c'.r1 = c.bus (c.ksp + 2#16) ∧ c'.arg 0 = some (c.bus (c.ksp + 4#16)) ∧
      ∀ j < 6, c'.arg (j + 1) = some (c.bus (c.ksp + 8#16 + BitVec.ofNat 16 (2 * j))) := by
  have slot (x : WORD) (shift : x.toNat % 2 = 0) : (c.ksp + x).toNat % 2 = 0 := by
    bv_omega
  have read (x : WORD) (shift : x.toNat % 2 = 0) (m : Ram) := read_ram (slot x shift) m
  have write (x : WORD) (shift : x.toNat % 2 = 0) (m : Ram) := write_ram (slot x shift) m
  obtain ⟨m, at_m⟩ : ∃ m, m = Function.update (Function.update (Function.update (Function.update
    (Function.update (Function.update (Function.update c.bus
      (c.ksp + 65534#16) (c.bus (c.ksp + 18#16))) (c.ksp + 65532#16) (c.bus (c.ksp + 16#16)))
      (c.ksp + 65530#16) (c.bus (c.ksp + 14#16))) (c.ksp + 65528#16) (c.bus (c.ksp + 12#16)))
      (c.ksp + 65526#16) (c.bus (c.ksp + 10#16))) (c.ksp + 65524#16) (c.bus (c.ksp + 8#16)))
      (c.ksp + 65522#16) (c.bus (c.ksp + 4#16)) := ⟨_, rfl⟩
  have ran : execAll (instrsAt syscallRt 0 9) c = some { c with
      r0 := c.ksp, r1 := c.bus (c.ksp + 2#16), ksp := c.ksp + 65522#16
      flags := c.flags.move (c.bus (c.ksp + 4#16)), bus := m } := by
    simp -implicitDefEqProofs [instrsAt, syscallRt, kernel, read, write, at_m, BitVec.add_assoc]
  have top : c.ksp + 65522#16 + -2 = c.ksp + 65520#16 := by
    bv_omega
  have push := push_kernel (c := { c with
    r0 := c.ksp, r1 := c.bus (c.ksp + 2#16), ksp := c.ksp + 65522#16
    flags := c.flags.move (c.bus (c.ksp + 4#16)), bus := m }) kernel (slot _ (by decide)) ret
  rw [top] at push
  let c' : Cpu Ram := { c with
    r0 := c.ksp, r1 := c.bus (c.ksp + 2#16), ksp := c.ksp + 65520#16
    flags := c.flags.move (c.bus (c.ksp + 4#16))
    bus := Function.update m (c.ksp + 65520#16) ret }
  have kernel' : userMode c'.psw = false := kernel
  have arg (i : Nat) := arg_ram kernel' (slot _ (by decide)) i
  refine ⟨_, c', ⟨9, .straight rfl rfl ran, rfl⟩, push, rfl, ?_, ?_⟩
  · rw [arg]
    simp [c', at_m, BitVec.add_assoc]
  · intro j few
    rw [arg]
    obtain rfl | rfl | rfl | rfl | rfl | rfl : j = 0 ∨ j = 1 ∨ j = 2 ∨ j = 3 ∨ j = 4 ∨ j = 5 := by
      omega
    all_goals simp [c', at_m, BitVec.add_assoc]

/-- From the test for a parameter list to the entry of a service. -/
def Dispatched (sys : Linked) (c c' : Cpu Ram) : Prop :=
  ∃ c₁ c₂ c₃ c₄, Reaches sys.muxxTrapHandle (16, c) (30, c₁) ∧
    c₁.push sys.afterSystrapHandler = some c₂ ∧ sys.muxxSystrapHandler c₂ = some c₃ ∧
    Runs syscallRt (.jsr (.deferred .r1)) c₃ c₄ ∧ c₄.push sys.afterService = some c'

/-- A list that is clear of the stack is handed to the service of the number, in
the other order. -/
theorem list_dispatched {ws : List WORD} {e : SVC_S} (h : Handling sys c₁ c k)
    (even : k.toNat % 2 = 0) (room : sys.frame.toNat + 50 + 2 * ws.length ≤ k.toNat)
    (frameEven : sys.frame.toNat % 2 = 0) (pcEven : sys.pc.toNat % 2 = 0)
    (list : c.r0 ≠ 0) (listEven : c.r0.toNat % 2 = 0)
    (count : c.bus c.r0 = BitVec.ofNat 16 ws.length)
    (clear : Clear c.bus (c.r0 + 2) (k + 65512#16) ws)
    (pcClear : (sys.pc + 65534#16).toNat + (26 + 2 * ws.length) < k.toNat ∨
      k.toNat ≤ (sys.pc + 65534#16).toNat)
    (entry : trapTable[(255#16 &&& c.bus (sys.pc + 65534#16)).toNat]? = some e) :
    ∃ c', Dispatched sys c c' ∧ c'.r1 = sys.link e.svc ∧
      ∀ j (within : j < ws.length), j < 6 → c'.arg (j + 1) = .some (ws[ws.length - 1 - j]) := by
  have few : ws.length < 65536 := by
    have bound := k.isLt
    omega
  have length : (parmCount c).toNat = ws.length := by
    rw [parmCount, if_neg list, count, BitVec.toNat_ofNat, Nat.mod_eq_of_lt few]
  have stacked : Stacked c.bus (parmsPushed c) (k + 65512#16) ws := by
    rw [parmsPushed, h.ksp, length]
    exact pushWords_stacked clear
  have top : parmTop c = k + 65512#16 - BitVec.ofNat 16 (2 * ws.length) := by
    rw [parmTop, h.ksp, length]
  have number : sys.trapNumber c = 255#16 &&& c.bus (sys.pc + 65534#16) := by
    have apart : sys.pc + 65534#16 ≠ parmTop c + 65534#16 := by
      rw [top]
      bv_omega
    rw [Linked.trapNumber, Function.update_of_ne apart, stacked.other _ (by bv_omega)]
  obtain ⟨c₁, c₂, reaches, push, kernel, ksp, at_number, same⟩ :=
    handler_entered h even pcEven listEven (by omega)
  obtain ⟨c₃, handled, kernel₃, even₃, svc, params⟩ := systrapHandler_calls sys kernel
    (by rw [ksp, top]; bv_omega) frameEven (by rw [ksp, top]; bv_omega) (e := e)
    (by rw [at_number, number]; exact entry)
  obtain ⟨c₄, c', passed, entered, r1, -, args⟩ :=
    syscallRt_passes kernel₃ even₃ sys.afterService
  refine ⟨c', ⟨c₁, c₂, c₃, c₄, reaches, push, handled, passed, entered⟩, r1.trans svc, ?_⟩
  intro j within six
  rw [args j six, params j six]
  have slot : c₂.ksp + 6#16 + BitVec.ofNat 16 (2 * j) =
      k + 65512#16 - BitVec.ofNat 16 (2 * (ws.length - 1 - j + 1)) := by
    rw [ksp, top]
    bv_omega
  rw [slot, same _ (by rw [top]; bv_omega), stacked.word _ (by omega)]

end Handlers

/-! ## Calls -/

/-- A task is about to call: its list and its text are clear of the kernel stack,
and the trap instruction has the number of the call. -/
structure AtCall (sys : Linked) (c : Cpu Ram) (number : WORD) : Prop where
  user : InUser c
  kspEven : c.ksp.toNat % 2 = 0
  frameEven : sys.frame.toNat % 2 = 0
  pcEven : sys.pc.toNat % 2 = 0
  curEven : sys.curtcb.toNat % 2 = 0
  room : sys.frame.toNat + 60 ≤ c.ksp.toNat
  apart : c.usp.toNat + 40 ≤ c.ksp.toNat ∨ c.ksp.toNat + 12 ≤ c.usp.toNat
  cur : Beyond c.usp sys.curtcb
  text : Beyond c.usp (sys.pc + 65534#16)
  textStack : (sys.pc + 65534#16).toNat + 40 < c.ksp.toNat ∨
    c.ksp.toNat ≤ (sys.pc + 65534#16).toNat
  trap : c.bus (sys.pc + 65534#16) = 0x8900#16 + number

section Calls
variable {sys : Linked} {call : Call} {args : Parm → Operand} {values : Parm → WORD}
variable {c c' c'' : Cpu Ram}

/-- The table has the services at their numbers. -/
theorem call_entry (call : Call) : ∃ e,
    trapTable[(255#16 &&& (0x8900#16 + call.number)).toNat]? = some e ∧
      e.svc = if call = .abort then .exit else call.service := by
  cases call <;> exact ⟨_, rfl, rfl⟩

theorem leaves_jsr {code : List Line} {d : Operand} (pc : Nat) (c : Cpu Ram)
    (there : code[pc]? = some (.jsr d)) : step code (pc, c) = none := by
  simp only [step, there]

theorem leaves_trap {code : List Line} {n : WORD} (pc : Nat) (c : Cpu Ram)
    (there : code[pc]? = some (.trap n)) : step code (pc, c) = none := by
  simp only [step, there]

/-- There is one way from a macro to a service. -/
theorem Serves.unique (h : Serves sys call args c c') (h' : Serves sys call args c c'') :
    c' = c'' := by
  obtain ⟨c₁, c₂, c₃, c₄, c₅, c₆, c₇, c₈, macros, trap, wrapper, push, handler, push', calls, rt,
    last⟩ := h
  obtain ⟨d₁, d₂, d₃, d₄, d₅, d₆, d₇, d₈, macros', trap', wrapper', pushed, handler', pushed',
    calls', rt', last'⟩ := h'
  obtain rfl := macros.unique leaves_trap macros'
  obtain rfl := Option.some_inj.mp (trap.symm.trans trap')
  obtain rfl := wrapper.unique leaves_jsr wrapper'
  obtain rfl := Option.some_inj.mp (push.symm.trans pushed)
  obtain rfl := handler.unique leaves_jsr handler'
  obtain rfl := Option.some_inj.mp (push'.symm.trans pushed')
  obtain rfl := Option.some_inj.mp (calls.symm.trans calls')
  obtain rfl := rt.unique leaves_jsr rt'
  exact Option.some_inj.mp (last.symm.trans last')

/-- Every call reaches a service, with the words of its list in the other order. -/
theorem call_served (given : ∀ p, Given c (args p) (values p)) (h : AtCall sys c call.number) :
    ∃ c', Serves sys call args c c' ∧
      c'.r1 = sys.link (if call = .abort then .exit else call.service) ∧
      ∀ i p, call.list.reverse[i]? = some p →
        ∃ w, c'.arg (i + 1) = some w ∧ Receives (c.bus sys.curtcb) values p w := by
  obtain ⟨c₁, ws, ran, listed, carried⟩ := call_lists call given h.user h.curEven h.cur
  have length := carried.length_eq
  obtain ⟨filled, few⟩ := list_few call
  rw [length] at filled few
  have low := h.user.low
  have even := h.user.even
  have kspEven := h.kspEven
  have room := h.room
  have apart := h.apart
  have textStack := h.textStack
  have r0 := listed.r0
  obtain ⟨c₂, ⟨d₁, d₂, d₃, trap, wrapper, push, handler⟩, handling, -⟩ :=
    trapped_handling sys listed.user listed.ksp kspEven (by omega) h.curEven
  have same (a : ADDRESS) (outside : a.toNat + 24 < c.ksp.toNat ∨ c.ksp.toNat ≤ a.toNat) :
      c₂.bus a = c₁.bus a := handling.kept a outside
  have list : c₂.r0 = c.usp - BitVec.ofNat 16 (2 * ws.length + 2) := handling.r0.trans r0
  have count : c₂.bus c₂.r0 = BitVec.ofNat 16 ws.length := by
    rw [same _ (by rw [list]; bv_omega), handling.r0, listed.count]
  have clear : Clear c₂.bus (c₂.r0 + 2) (c.ksp + 65512#16) ws := by
    constructor
    · bv_omega
    · intro i within
      rw [same _ (by rw [list]; bv_omega), handling.r0, listed.word i within]
    · intro i within
      rw [list]
      bv_omega
  obtain ⟨e, entry, svc⟩ := call_entry call
  rw [← h.trap, ← listed.other _ h.text, ← same _ (by omega)] at entry
  obtain ⟨c', ⟨d₄, d₅, d₆, d₇, counted, push', called, rt, last⟩, r1, passed⟩ :=
    list_dispatched handling kspEven (by omega) h.frameEven h.pcEven (by rw [list]; bv_omega)
      (by rw [list]; bv_omega) count clear (by omega) entry
  refine ⟨c', ⟨c₁, d₁, d₂, d₃, d₄, d₅, d₆, d₇, ran, trap, wrapper, push,
    ⟨30, handler.trans counted, rfl⟩, push', called, rt, last⟩, svc ▸ r1, ?_⟩
  intro i p sent
  obtain ⟨within, at_i⟩ := List.getElem?_eq_some_iff.mp sent
  rw [List.length_reverse, length] at within
  refine ⟨_, passed i within (by omega), ?_⟩
  rw [List.getElem_reverse] at at_i
  have received := carried.get (i := ws.length - 1 - i) (by omega) (by omega)
  simp only [List.get_eq_getElem] at received
  have index : call.list.length - 1 - i = ws.length - 1 - i := by rw [length]
  simp only [index] at at_i
  exact at_i ▸ received

/-- When the words of the list are what the service wants: not for ABORT, nor for
XCOPY between different tasks or addresses. -/
theorem delivered_iff
    (service : c'.r1 = sys.link (if call = .abort then .exit else call.service))
    (parms : ∀ i p, call.list.reverse[i]? = some p →
      ∃ w, c'.arg (i + 1) = some w ∧ Receives (c.bus sys.curtcb) values p w) :
    Delivered sys call (c.bus sys.curtcb) values c' ↔ call ≠ .abort ∧
      (call = .xcopy → values .srcpid = values .dstpid ∧ values .srcaddr = values .dstaddr) := by
  constructor
  · intro delivered
    constructor
    · rintro rfl
      have same := sys.distinct (service.symm.trans delivered.service)
      exact absurd same (by decide)
    · rintro rfl
      have agree (i : Nat) (p q : Parm) (sent : Call.xcopy.list.reverse[i]? = some p)
          (wanted : Call.xcopy.service.parms[i]? = some q)
          (plain : (p = .srcpid ∧ q = .dstpid) ∨ (p = .srcaddr ∧ q = .dstaddr)) :
          values p = values q := by
        obtain ⟨w, at_w, sent⟩ := parms i p sent
        obtain ⟨w', at_w', wanted⟩ := delivered.parms i q wanted
        obtain rfl := Option.some_inj.mp (at_w.symm.trans at_w')
        rcases plain with ⟨rfl, rfl⟩ | ⟨rfl, rfl⟩ <;> exact sent.symm.trans wanted
      exact ⟨agree 0 _ _ rfl rfl (.inl ⟨rfl, rfl⟩), agree 1 _ _ rfl rfl (.inr ⟨rfl, rfl⟩)⟩
  · rintro ⟨other, swapped⟩
    rw [if_neg other] at service
    refine ⟨service, ?_⟩
    by_cases xcopy : call = .xcopy
    · subst xcopy
      obtain ⟨pids, addrs⟩ := swapped rfl
      have same (i : Nat) (q p : Parm) (sent : Call.xcopy.list.reverse[i]? = some q)
          (same : ∀ w, Receives (c.bus sys.curtcb) values q w →
            Receives (c.bus sys.curtcb) values p w) :
          ∃ w, c'.arg (i + 1) = some w ∧ Receives (c.bus sys.curtcb) values p w := by
        obtain ⟨w, at_w, received⟩ := parms i q sent
        exact ⟨w, at_w, same w received⟩
      intro i p wanted
      match i with
      | 0 =>
        obtain rfl := Option.some_inj.mp wanted
        exact same 0 .srcpid _ rfl fun w received => received.trans pids
      | 1 =>
        obtain rfl := Option.some_inj.mp wanted
        exact same 1 .srcaddr _ rfl fun w received => received.trans addrs
      | 2 =>
        obtain rfl := Option.some_inj.mp wanted
        exact same 2 .dstpid _ rfl fun w received => received.trans pids.symm
      | 3 =>
        obtain rfl := Option.some_inj.mp wanted
        exact same 3 .dstaddr _ rfl fun w received => received.trans addrs.symm
      | 4 =>
        obtain rfl := Option.some_inj.mp wanted
        exact same 4 .size _ rfl fun w received => received
      | i + 5 => cases wanted
    · have same : call.service.parms = call.list.reverse := by
        cases call <;> first | rfl | exact absurd rfl xcopy
      rw [same]
      exact parms

/-- A call reaches the service of its name with all its values, unless it is
ABORT, or XCOPY between different tasks or addresses. -/
theorem call_delivered_iff (given : ∀ p, Given c (args p) (values p))
    (h : AtCall sys c call.number) :
    (∃ c', Serves sys call args c c') ∧ ∀ c', Serves sys call args c c' →
      (Delivered sys call (c.bus sys.curtcb) values c' ↔ call ≠ .abort ∧
        (call = .xcopy → values .srcpid = values .dstpid ∧ values .srcaddr = values .dstaddr)) := by
  obtain ⟨c', serves, service, parms⟩ := call_served given h
  constructor
  · exact ⟨c', serves⟩
  · intro c'' serves'
    obtain rfl := serves.unique serves'
    exact delivered_iff service parms

end Calls

/-- The services are where the table first has them. -/
def tableLink (svc : SVC) : ADDRESS :=
  BitVec.ofNat 16 (trapTable.findIdx fun e => decide (e.svc = svc))

theorem tableLink_injective : Function.Injective tableLink := by
  have inverse : Function.LeftInverse
      (fun a : ADDRESS => (trapTable[a.toNat]?.map SVC_S.svc).getD .unimpl) tableLink := by
    intro svc
    cases svc <;> rfl
  exact inverse.injective

/-- A kernel, with a program in a task that calls at 40000. -/
def sampleLink : Linked where
  curtcb := 0o1000
  kmodet := 0o4000
  panic := 0o4100
  trapHandle := 0o4200
  systrapHandler := 0o4300
  link := tableLink
  distinct := tableLink_injective
  pc := 0o40002
  afterTrapHandle := 0o4400
  afterSystrapHandler := 0o4500
  afterSyscallRt := 0o4600
  afterService := 0o4700
  frame := 0o20

def caller (number : WORD) : Cpu Ram where
  r0 := 0
  r1 := 0
  r2 := 0
  r3 := 0
  r4 := 0
  r5 := 0
  usp := 0o140000
  ksp := 0o150000
  psw := 0o170000
  flags := {}
  bus := fun a => if a = 0o40000 then 0x8900#16 + number else 0o2000

theorem caller_atCall (call : Call) : AtCall sampleLink (caller call.number) call.number := by
  have usp : (caller call.number).usp = 0o140000 := rfl
  have ksp : (caller call.number).ksp = 0o150000 := rfl
  constructor
  case user =>
    have user : userMode 0o170000 = true := by decide
    exact ⟨user, by rw [usp]; decide, by rw [usp]; decide⟩
  case trap => rfl
  all_goals try simp only [Beyond, usp, ksp]
  all_goals decide

/-- A copy of 16 bytes from task 2 to task 3. -/
def copyValues : Parm → WORD
  | .srcpid => 2
  | .srcaddr => 0o60000
  | .dstpid => 3
  | .dstaddr => 0o62000
  | .size => 16
  | _ => 0

theorem caller_given (values : Parm → WORD) (call : Call) (p : Parm) :
    Given (caller call.number) (.imm (values p)) (values p) :=
  given_imm _ _

theorem open_delivered :
    (∃ c', Serves sampleLink .openDev (fun p => .imm (copyValues p)) (caller Srv.openDev) c') ∧
      ∀ c', Serves sampleLink .openDev (fun p => .imm (copyValues p)) (caller Srv.openDev) c' →
        Delivered sampleLink .openDev 0o2000 copyValues c' := by
  obtain ⟨reached, delivered⟩ :=
    call_delivered_iff (caller_given copyValues .openDev) (caller_atCall .openDev)
  exact ⟨reached, fun c' serves =>
    (delivered c' serves).mpr ⟨by decide, fun same => by cases same⟩⟩

/-- The service copies from task 3 to task 2. -/
theorem xcopy_turned : ∃ c',
    Serves sampleLink .xcopy (fun p => .imm (copyValues p)) (caller Krn.xcopy) c' ∧
      ¬ Delivered sampleLink .xcopy 0o2000 copyValues c' := by
  obtain ⟨c', serves, service, parms⟩ :=
    call_served (caller_given copyValues .xcopy) (caller_atCall .xcopy)
  refine ⟨c', serves, ?_⟩
  intro delivered
  have plain := (delivered_iff service parms).mp delivered
  exact absurd (plain.2 rfl).1 (by decide)

end Muxx
