import Mathlib.Tactic.Ring
import Muxx.Context
import Muxx.Lib.Bytes

/-!
# Frames

procentry and procexit of MACLIB.s around any body.

* `procentry_enters`: the frame that procentry builds below the return address;
* `procexit_leaves`: procexit restores what it saved, from any memory that still
  holds the frame.
-/

namespace Muxx

open Pdp11

/-- Bytes below the return address: the old frame pointer, the local variables,
the registers and the frame pointer again. -/
def frameSize (saver2 saver3 saver4 : Bool) (locals : WORD) : Nat :=
  2 * locals.toNat + 2 * (saver2.toNat + saver3.toNat + saver4.toNat) + 4

/-- The words of the frame that procexit reads, for a call in state `c`. -/
structure FrameHeld (saver2 saver3 saver4 : Bool) (locals : WORD) (c : Cpu Bytes) (m : Bytes) :
    Prop where
  self : word m (c.get .sp - BitVec.ofNat 16 (frameSize saver2 saver3 saver4 locals)) =
    c.get .sp + -2
  r5 : word m (c.get .sp + -2) = c.r5
  r4 : saver4 = true → word m (c.get .sp + -2 + (-2 * locals - 6)) = c.r4
  r3 : saver3 = true → word m (c.get .sp + -2 + (-2 * locals - 4)) = c.r3
  r2 : saver2 = true → word m (c.get .sp + -2 + (-2 * locals - 2)) = c.r2

/-- After procentry. -/
structure FrameBuilt (saver2 saver3 saver4 : Bool) (locals : WORD) (c c' : Cpu Bytes) : Prop where
  keeps : SameRegs [.r5] c c'
  r5 : c'.r5 = c.get .sp + -2
  sp : c'.get .sp = c.get .sp - BitVec.ofNat 16 (frameSize saver2 saver3 saver4 locals)
  frame : FrameHeld saver2 saver3 saver4 locals c c'.bus
  other : ∀ a, ¬ Span (c.get .sp - BitVec.ofNat 16 (frameSize saver2 saver3 saver4 locals))
    (frameSize saver2 saver3 saver4 locals) a → c'.bus a = c.bus a

section Frames
variable {saver2 saver3 saver4 : Bool} {locals : WORD} {c c' : Cpu Bytes}

/-- The registers that are pushed last. -/
def savedRegs (saver2 saver3 saver4 : Bool) : List Reg :=
  (if saver2 then [.r2] else []) ++ (if saver3 then [.r3] else []) ++
    (if saver4 then [.r4] else []) ++ [.r5]

def entryInstrs (saver2 saver3 saver4 : Bool) (locals : WORD) : List Instr :=
  [.mov (.reg .r5) (.dec .sp), .mov (.reg .sp) (.reg .r5)] ++
    (if locals = 0 then [] else [.sub (.imm (2 * locals)) (.reg .sp)]) ++
    (savedRegs saver2 saver3 saver4).map fun r => .mov (.reg r) (.dec .sp)

theorem savedRegs_length (saver2 saver3 saver4 : Bool) : (savedRegs saver2 saver3 saver4).length =
    saver2.toNat + saver3.toNat + saver4.toNat + 1 := by
  cases saver2 <;> cases saver3 <;> cases saver4 <;> rfl

theorem saved_few (saver2 saver3 saver4 : Bool) :
    saver2.toNat + saver3.toNat + saver4.toNat ≤ 3 := by
  cases saver2 <;> cases saver3 <;> cases saver4 <;> decide

/-- `mov sp,r5` and the room for local variables. -/
theorem link_exec (locals : WORD) (c : Cpu Bytes) :
    ∃ c', execAll ([.mov (.reg .sp) (.reg .r5)] ++
        if locals = 0 then [] else [.sub (.imm (2 * locals)) (.reg .sp)]) c = some c' ∧
      SameRegs [.r5] c c' ∧ c'.r5 = c.get .sp ∧ c'.get .sp = c.get .sp - 2 * locals ∧
      c'.bus = c.bus := by
  by_cases none : locals = 0
  · subst none
    refine ⟨_, rfl, ⟨?_, rfl⟩, rfl, (BitVec.sub_zero _).symm, rfl⟩
    intro r notSp free
    cases r <;> first | rfl | simp_all
  · rw [if_neg none]
    refine ⟨{ (c.set .r5 (c.get .sp)).set .sp (c.get .sp - 2 * locals) with
        flags := .difference (c.get .sp) (2 * locals) }, ?_, ⟨?_, ?_⟩, ?_, ?_, ?_⟩
    · cases mode : userMode c.psw <;> simp [mode]
    · intro r notSp free
      cases mode : userMode c.psw <;> cases r <;> simp_all
    all_goals cases mode : userMode c.psw <;> simp [mode]

section Addresses
variable {sp : WORD} {n : Nat}

theorem frame_slot (sp locals x : WORD) : sp + -2 + (-2 * locals - x) = sp + -2 - 2 * locals - x := by
  ring

theorem frame_bottom (_ : n ≤ 3) (_ : 2 * locals.toNat + 10 ≤ sp.toNat) :
    sp - BitVec.ofNat 16 (2 * locals.toNat + 2 * n + 4) =
      sp + -2 - 2 * locals - BitVec.ofNat 16 (2 * (n + 1)) := by
  bv_omega

theorem frame_room (few : n ≤ 3) (room : 2 * locals.toNat + 10 ≤ sp.toNat) :
    2 * (n + 1) ≤ (sp + -2 - 2 * locals).toNat := by
  bv_omega

theorem frame_even (locals : WORD) (even : sp.toNat % 2 = 0) : (sp + -2 - 2 * locals).toNat % 2 = 0 := by
  bv_omega

theorem toNat_bottom (few : n ≤ 3) (room : 2 * locals.toNat + 10 ≤ sp.toNat) :
    (sp - BitVec.ofNat 16 (2 * locals.toNat + 2 * n + 4)).toNat =
      sp.toNat - (2 * locals.toNat + 2 * n + 4) := by
  have below : (BitVec.ofNat 16 (2 * locals.toNat + 2 * n + 4)).toNat =
      2 * locals.toNat + 2 * n + 4 := by
    rw [BitVec.toNat_ofNat, Nat.mod_eq_of_lt (by omega)]
  rw [BitVec.toNat_sub_of_le, below]
  rw [BitVec.le_def, below]
  omega

theorem toNat_locals (room : 2 * locals.toNat + 10 ≤ sp.toNat) :
    (sp + -2 - 2 * locals).toNat = sp.toNat - (2 * locals.toNat + 2) := by
  bv_omega

theorem frame_other (few : n ≤ 3) (room : 2 * locals.toNat + 10 ≤ sp.toNat) {a : WORD}
    (outside : ¬ Span (sp - BitVec.ofNat 16 (2 * locals.toNat + 2 * n + 4))
      (2 * locals.toNat + 2 * n + 4) a) :
    a ≠ sp + -2 ∧ a ≠ sp + -2 + 1 ∧ ¬ Span (sp + -2 - 2 * locals - BitVec.ofNat 16 (2 * (n + 1)))
      (2 * (n + 1)) a := by
  have bottom := toNat_bottom few room
  rw [Span, bottom] at outside
  refine ⟨?_, ?_, ?_⟩
  · bv_omega
  · bv_omega
  · rw [Span, ← frame_bottom few room, bottom]
    omega

theorem frame_above (locals : WORD) (few : n ≤ 3) (room : 2 * locals.toNat + 10 ≤ sp.toNat) :
    ¬ Span (sp + -2 - 2 * locals - BitVec.ofNat 16 (2 * (n + 1))) (2 * (n + 1)) (sp + -2) ∧
      ¬ Span (sp + -2 - 2 * locals - BitVec.ofNat 16 (2 * (n + 1))) (2 * (n + 1)) (sp + -2 + 1) := by
  have bottom := toNat_bottom few room
  rw [frame_bottom few room] at bottom
  rw [Span, Span, bottom]
  constructor <;> bv_omega

end Addresses

/-- The words that the pushes leave, when registers are saved in the order
r2, r3, r4. -/
theorem frame_built (ordered : (saver4 = true → saver3 = true) ∧ (saver3 = true → saver2 = true))
    (even : (c.get .sp).toNat % 2 = 0) (room : 2 * locals.toNat + 10 ≤ (c.get .sp).toNat)
    (regs : SameRegs [.r5] c c') (r5 : c'.r5 = c.get .sp + -2) :
    FrameHeld saver2 saver3 saver4 locals c (pushes (setWord c.bus (c.get .sp + -2) c.r5)
      (c.get .sp + -2 - 2 * locals) ((savedRegs saver2 saver3 saver4).map c'.get)) := by
  have plain (r : Reg) (other : r ≠ .sp) (other' : r ≠ .r5) : c'.get r = c.get r :=
    regs.reg r other (by simpa using other')
  have length := savedRegs_length saver2 saver3 saver4
  have fits := frame_room (saved_few saver2 saver3 saver4) room
  have found := word_pushes (setWord c.bus (c.get .sp + -2) c.r5)
    ((savedRegs saver2 saver3 saver4).map c'.get) (frame_even locals even)
    (by rwa [List.length_map, length])
  have slot (i : Nat) (within : i < (savedRegs saver2 saver3 saver4).length) :
      word (pushes (setWord c.bus (c.get .sp + -2) c.r5) (c.get .sp + -2 - 2 * locals)
        ((savedRegs saver2 saver3 saver4).map c'.get))
          (c.get .sp + -2 - 2 * locals - BitVec.ofNat 16 (2 * (i + 1))) =
          c'.get (savedRegs saver2 saver3 saver4)[i] := by
    rw [found i (by rwa [List.length_map]), List.getElem_map]
  constructor
  · rw [frameSize, frame_bottom (saved_few ..) room, slot _ (by rw [length]; exact Nat.lt_succ_self _)]
    cases saver2 <;> cases saver3 <;> cases saver4 <;> exact r5
  · obtain ⟨low, high⟩ := frame_above locals (saved_few saver2 saver3 saver4) room
    have kept {a : WORD} (above : ¬ Span (c.get .sp + -2 - 2 * locals -
        BitVec.ofNat 16 (2 * (saver2.toNat + saver3.toNat + saver4.toNat + 1)))
        (2 * (saver2.toNat + saver3.toNat + saver4.toNat + 1)) a) :
        pushes (setWord c.bus (c.get .sp + -2) c.r5) (c.get .sp + -2 - 2 * locals)
          ((savedRegs saver2 saver3 saver4).map c'.get) a =
            setWord c.bus (c.get .sp + -2) c.r5 a := by
      apply pushes_other
      · rwa [List.length_map, length]
      · rwa [List.length_map, length]
    rw [word_congr (kept low) (kept high), word_setWord]
  · intro saved
    have saved3 := ordered.1 saved
    have saved2 := ordered.2 saved3
    subst saved saved3 saved2
    rw [frame_slot]
    exact (slot 2 (by decide)).trans (plain .r4 (by decide) (by decide))
  · intro saved
    have saved2 := ordered.2 saved
    subst saved saved2
    rw [frame_slot]
    cases saver4 <;> exact (slot 1 (by decide)).trans (plain .r3 (by decide) (by decide))
  · intro saved
    subst saved
    rw [frame_slot]
    cases saver3 <;> cases saver4 <;>
      exact (slot 0 (by decide)).trans (plain .r2 (by decide) (by decide))

theorem procentry_enters (saver2 saver3 saver4 : Bool) (locals : WORD)
    (ordered : (saver4 = true → saver3 = true) ∧ (saver3 = true → saver2 = true))
    (even : (c.get .sp).toNat % 2 = 0) (room : 2 * locals.toNat + 10 ≤ (c.get .sp).toNat) :
    ∃ c', execAll (entryInstrs saver2 saver3 saver4 locals) c = some c' ∧
      FrameBuilt saver2 saver3 saver4 locals c c' := by
  obtain ⟨c₁, pushed, same₁, sp₁, bus₁⟩ := push_reg (r := .r5) (by decide) even
  obtain ⟨c₂, linked, same₂, fp, sp₂, bus₂⟩ := link_exec locals c₁
  have length := savedRegs_length saver2 saver3 saver4
  have few := saved_few saver2 saver3 saver4
  have noSp : .sp ∉ savedRegs saver2 saver3 saver4 := by
    cases saver2 <;> cases saver3 <;> cases saver4 <;> decide
  obtain ⟨c₃, saved, same₃, sp₃, bus₃⟩ := push_regs (c := c₂) noSp
    (by rw [sp₂, sp₁]; exact frame_even locals even) (by rw [sp₂, sp₁, length]; exact frame_room few room)
  have regs₂ : SameRegs [.r5] c c₂ :=
    ⟨fun r notSp free => (same₂.reg r notSp free).trans (same₁.reg r notSp List.not_mem_nil),
      same₂.psw.trans same₁.psw⟩
  have built := frame_built ordered even room regs₂ (fp.trans sp₁)
  have bus : c₃.bus = pushes (setWord c.bus (c.get .sp + -2) c.r5)
      (c.get .sp + -2 - 2 * locals) ((savedRegs saver2 saver3 saver4).map c₂.get) := by
    rw [bus₃, bus₂, bus₁, sp₂, sp₁]
    rfl
  refine ⟨c₃, execAll_cons pushed (execAll_append linked saved), ⟨?_, ?_⟩, ?_, ?_, ?_, ?_⟩
  · intro r notSp free
    exact (same₃.reg r notSp List.not_mem_nil).trans (regs₂.reg r notSp free)
  · exact same₃.psw.trans regs₂.psw
  · exact (same₃.reg .r5 (by decide) List.not_mem_nil).trans (fp.trans sp₁)
  · rw [sp₃, sp₂, sp₁, length, frameSize, frame_bottom few room]
  · rw [bus]
    exact built
  · intro a outside
    obtain ⟨low, high, below⟩ := frame_other few room outside
    have pushed : 2 * ((savedRegs saver2 saver3 saver4).map c₂.get).length ≤
        (c.get .sp + -2 - 2 * locals).toNat := by
      rw [List.length_map, length]
      exact frame_room few room
    rw [bus, pushes_other _ _ pushed, setWord_of_ne low high]
    rwa [List.length_map, length]

def exitInstrs (getr2 getr3 getr4 : Bool) (locals : WORD) : List Instr :=
  .mov (.inc .sp) (.reg .r5) ::
    ((if getr4 then [.mov (.index (-2 * locals - 6) .r5) (.reg .r4)] else []) ++
      ((if getr3 then [.mov (.index (-2 * locals - 4) .r5) (.reg .r3)] else []) ++
        ((if getr2 then [.mov (.index (-2 * locals - 2) .r5) (.reg .r2)] else []) ++
          [.mov (.reg .r5) (.reg .sp), .mov (.inc .sp) (.reg .r5)])))

theorem procexit_instrs : procexit saver2 saver3 saver4 locals =
    (exitInstrs saver2 saver3 saver4 locals).map .instr ++ [.rts] := by
  cases saver2 <;> cases saver3 <;> cases saver4 <;> rfl

/-- After procexit, for a call in state `c` whose body ended in state `c'`. -/
structure FrameRestored (saver2 saver3 saver4 : Bool) (c c' c'' : Cpu Bytes) : Prop where
  r0 : c''.r0 = c'.r0
  r1 : c''.r1 = c'.r1
  r2 : c''.r2 = if saver2 then c.r2 else c'.r2
  r3 : c''.r3 = if saver3 then c.r3 else c'.r3
  r4 : c''.r4 = if saver4 then c.r4 else c'.r4
  r5 : c''.r5 = c.r5
  sp : c''.get .sp = c.get .sp
  psw : c''.psw = c'.psw
  bus : c''.bus = c'.bus

/-- A register is restored, or left alone. -/
theorem load_saved (saved : Bool) {r : Reg} {x : WORD} (other : r ≠ .sp)
    (even : (c.r5 + x).toNat % 2 = 0) :
    ∃ c', execAll (if saved then [.mov (.index x .r5) (.reg r)] else []) c = some c' ∧
      SameRegs [r] c c' ∧ c'.get r = (if saved then word c.bus (c.r5 + x) else c.get r) ∧
      c'.get .sp = c.get .sp ∧ c'.bus = c.bus := by
  cases saved with
  | false => exact ⟨c, rfl, ⟨fun _ _ _ => rfl, rfl⟩, rfl, rfl, rfl⟩
  | true =>
    obtain ⟨c', ran, loaded⟩ := load_reg (c := c) (b := .r5) other even
    exact ⟨c', execAll_cons ran rfl, loaded⟩

/-- `mov r5,sp`. -/
theorem unlink_exec (c : Cpu Bytes) :
    ∃ c', (Instr.mov (.reg .r5) (.reg .sp)).exec c = some c' ∧ SameRegs [] c c' ∧
      c'.get .sp = c.r5 ∧ c'.bus = c.bus := by
  refine ⟨{ c with flags := c.flags.move c.r5, bus := c.bus }.set .sp c.r5, rfl, ⟨?_, set_psw ..⟩,
    get_set .., set_bus ..⟩
  intro r notSp _
  rw [get_set_of_ne _ _ notSp, get_with]

theorem procexit_leaves (even : (c.get .sp).toNat % 2 = 0)
    (room : 2 * locals.toNat + 10 ≤ (c.get .sp).toNat)
    (sp : c'.get .sp = c.get .sp - BitVec.ofNat 16 (frameSize saver2 saver3 saver4 locals))
    (frame : FrameHeld saver2 saver3 saver4 locals c c'.bus) :
    ∃ c'', execAll (exitInstrs saver2 saver3 saver4 locals) c' = some c'' ∧
      FrameRestored saver2 saver3 saver4 c c' c'' := by
  have bottom : (c'.get .sp).toNat % 2 = 0 := by
    rw [sp, frameSize, toNat_bottom (saved_few ..) room]
    omega
  have slot (x : WORD) (evenX : x.toNat % 2 = 0) :
      (c.get .sp + -2 + (-2 * locals - x)).toNat % 2 = 0 := by
    rw [frame_slot]
    have := frame_even locals even
    bv_omega
  obtain ⟨c₁, popped, same₁, fp₁, sp₁, bus₁⟩ := pop_reg (r := .r5) (by decide) bottom
  have fp₁ : c₁.r5 = c.get .sp + -2 := by
    refine fp₁.trans ?_
    rw [sp, frame.self]
  obtain ⟨c₂, ran₂, same₂, r4, sp₂, bus₂⟩ := load_saved (c := c₁) saver4 (r := .r4)
    (x := -2 * locals - 6) (by decide) (by rw [fp₁]; exact slot 6 rfl)
  have fp₂ : c₂.r5 = c.get .sp + -2 := (same₂.reg .r5 (by decide) (by decide)).trans fp₁
  obtain ⟨c₃, ran₃, same₃, r3, sp₃, bus₃⟩ := load_saved (c := c₂) saver3 (r := .r3)
    (x := -2 * locals - 4) (by decide) (by rw [fp₂]; exact slot 4 rfl)
  have fp₃ : c₃.r5 = c.get .sp + -2 := (same₃.reg .r5 (by decide) (by decide)).trans fp₂
  obtain ⟨c₄, ran₄, same₄, r2, sp₄, bus₄⟩ := load_saved (c := c₃) saver2 (r := .r2)
    (x := -2 * locals - 2) (by decide) (by rw [fp₃]; exact slot 2 rfl)
  have fp₄ : c₄.r5 = c.get .sp + -2 := (same₄.reg .r5 (by decide) (by decide)).trans fp₃
  obtain ⟨c₅, ran₅, same₅, sp₅, bus₅⟩ := unlink_exec c₄
  rw [fp₄] at sp₅
  obtain ⟨c₆, ran₆, same₆, r5, sp₆, bus₆⟩ := pop_reg (c := c₅) (r := .r5) (by decide)
    (by rw [sp₅]; bv_omega)
  have busOf : c₅.bus = c'.bus := by
    rw [bus₅, bus₄, bus₃, bus₂, bus₁]
  have later {r : Reg} (notSp : r ≠ .sp) (free : r ∉ ([] ++ [.r5] : List Reg)) :
      c₆.get r = c₄.get r := (same₅.trans same₆).reg r notSp free
  refine ⟨c₆, execAll_cons popped (execAll_append ran₂ (execAll_append ran₃ (execAll_append ran₄
    (execAll_cons ran₅ (execAll_cons ran₆ rfl))))), ?_⟩
  constructor
  · exact (later (by decide) (by decide)).trans
      ((((same₁.trans same₂).trans same₃).trans same₄).reg .r0 (by decide) (by decide))
  · exact (later (by decide) (by decide)).trans
      ((((same₁.trans same₂).trans same₃).trans same₄).reg .r1 (by decide) (by decide))
  · refine (later (by decide) (by decide)).trans (r2.trans ?_)
    cases saver2 with
    | false => exact ((same₁.trans same₂).trans same₃).reg .r2 (by decide) (by decide)
    | true => rw [if_pos rfl, if_pos rfl, fp₃, bus₃, bus₂, bus₁, frame.r2 rfl]
  · refine (later (by decide) (by decide)).trans ((same₄.reg .r3 (by decide) (by decide)).trans
      (r3.trans ?_))
    cases saver3 with
    | false => exact (same₁.trans same₂).reg .r3 (by decide) (by decide)
    | true => rw [if_pos rfl, if_pos rfl, fp₂, bus₂, bus₁, frame.r3 rfl]
  · refine (later (by decide) (by decide)).trans
      (((same₃.trans same₄).reg .r4 (by decide) (by decide)).trans (r4.trans ?_))
    cases saver4 with
    | false => exact same₁.reg .r4 (by decide) (by decide)
    | true => rw [if_pos rfl, if_pos rfl, fp₁, bus₁, frame.r4 rfl]
  · refine r5.trans ?_
    rw [busOf, sp₅, frame.r5]
  · rw [sp₆, sp₅]
    bv_omega
  · exact (((((same₁.trans same₂).trans same₃).trans same₄).trans same₅).trans same₆).psw
  · rw [bus₆, busOf]

/-! ## Bodies -/

/-- The frame pointer, the stack pointer and the mode are as they were. -/
structure InFrame (c c' : Cpu Bytes) : Prop where
  r5 : c'.r5 = c.r5
  sp : c'.get .sp = c.get .sp
  psw : c'.psw = c.psw

theorem InFrame.refl (c : Cpu Bytes) : InFrame c c :=
  ⟨rfl, rfl, rfl⟩

theorem InFrame.trans {c'' : Cpu Bytes} (first : InFrame c c') (second : InFrame c' c'') :
    InFrame c c'' :=
  ⟨second.r5.trans first.r5, second.sp.trans first.sp, second.psw.trans first.psw⟩

theorem InFrame.set (h : InFrame c c') {r : Reg} (free : r ≠ .sp ∧ r ≠ .r5) (w : WORD) :
    InFrame c (c'.set r w) := by
  refine ⟨?_, ?_, ?_⟩
  · exact (get_set_of_ne c' w free.2.symm).trans h.r5
  · exact (get_set_of_ne c' w free.1.symm).trans h.sp
  · exact (set_psw ..).trans h.psw

@[simp] theorem inFrame_registers (c : Cpu Bytes) (r0 r1 r2 r3 r4 : WORD) (f : Flags) (m : Bytes) :
    InFrame c { c with r0 := r0, r1 := r1, r2 := r2, r3 := r3, r4 := r4, flags := f, bus := m } :=
  ⟨rfl, rfl, rfl⟩

/-- A body that writes to no byte of the frame but the local variables. -/
theorem FrameHeld.kept {m m' : Bytes} (h : FrameHeld saver2 saver3 saver4 locals c m)
    (ordered : (saver4 = true → saver3 = true) ∧ (saver3 = true → saver2 = true))
    (room : 2 * locals.toNat + 10 ≤ (c.get .sp).toNat)
    (kept : ∀ a, Span (c.get .sp - BitVec.ofNat 16 (frameSize saver2 saver3 saver4 locals))
      (frameSize saver2 saver3 saver4 locals) a →
        ¬ Span (c.get .sp + -2 - 2 * locals) (2 * locals.toNat) a → m' a = m a) :
    FrameHeld saver2 saver3 saver4 locals c m' := by
  have few := saved_few saver2 saver3 saver4
  have bottom := toNat_bottom few room
  have base := toNat_locals room
  simp only [Span, frameSize, bottom, base] at kept
  have same {a : WORD} {k : Nat} (there : a.toNat = (c.get .sp).toNat - k)
      (within : k ≤ 2 * locals.toNat + 2 * (saver2.toNat + saver3.toNat + saver4.toNat) + 4)
      (apart : k = 2 ∨ 2 * locals.toNat + 4 ≤ k) : word m' a = word m a := by
    have next : (a + 1).toNat = a.toNat + 1 := by
      have below := (c.get .sp).isLt
      show (a.toNat + 1) % 65536 = _
      omega
    apply word_congr
    · apply kept <;> omega
    · apply kept <;> omega
  have saved {x : WORD} (small : x.toNat ≤ 6) :
      (c.get .sp + -2 + (-2 * locals - x)).toNat = (c.get .sp).toNat - (2 * locals.toNat + 2 + x.toNat) := by
    rw [frame_slot, BitVec.toNat_sub_of_le, base]
    · omega
    · rw [BitVec.le_def, base]
      omega
  constructor
  · rw [← h.self]
    exact same (k := frameSize saver2 saver3 saver4 locals) bottom le_rfl (.inr (by rw [frameSize]; omega))
  · rw [← h.r5]
    refine same (k := 2) ?_ (by omega) (.inl rfl)
    bv_omega
  · intro saved4
    rw [← h.r4 saved4]
    have saved3 := ordered.1 saved4
    have saved2 := ordered.2 saved3
    subst saved4 saved3 saved2
    exact same (saved (by decide)) (by simp) (.inr (by simp))
  · intro saved3
    rw [← h.r3 saved3]
    have saved2 := ordered.2 saved3
    subst saved3 saved2
    exact same (saved (by decide)) (by simp; omega) (.inr (by simp))
  · intro saved2
    rw [← h.r2 saved2]
    subst saved2
    exact same (saved (by decide)) (by simp) (.inr (by simp))

/-- A body that ends with its frame intact is followed by procexit and `rts`. -/
theorem procexit_reaches (code : List Line) (pc : Nat) {c₁ c₂ : Cpu Bytes}
    (there : procexit saver2 saver3 saver4 locals <+: code.drop pc)
    (even : (c.get .sp).toNat % 2 = 0) (room : 2 * locals.toNat + 10 ≤ (c.get .sp).toNat)
    (built : FrameBuilt saver2 saver3 saver4 locals c c₁) (body : InFrame c₁ c₂)
    (frame : FrameHeld saver2 saver3 saver4 locals c c₂.bus) :
    ∃ c' pc', Reaches code (pc, c₂) (pc', c') ∧ code[pc']? = some .rts ∧
      FrameRestored saver2 saver3 saver4 c c₂ c' := by
  rw [procexit_instrs] at there
  obtain ⟨c', ran, restored⟩ := procexit_leaves even room (body.sp.trans built.sp) frame
  have text := (List.prefix_append _ [Line.rts]).trans there
  refine ⟨c', _, Reaches.block text ran, ?_, restored⟩
  obtain ⟨after, split⟩ := there
  rw [← List.getElem?_drop, ← split, List.append_assoc]
  rw [List.getElem?_append_right (by rw [List.length_map]), List.length_map, Nat.sub_self]
  rfl

/-- The arguments of a C call, and room for the frames of the routine. -/
structure Called (c : Cpu Bytes) (args : List WORD) (depth : Nat) : Prop where
  even : (c.get .sp).toNat % 2 = 0
  room : depth ≤ (c.get .sp).toNat
  top : (c.get .sp).toNat + 2 + 2 * args.length ≤ 65536
  arg : ∀ i (within : i < args.length),
    word c.bus (c.get .sp + 2 + BitVec.ofNat 16 (2 * i)) = args[i]

/-- A routine finds its arguments above its frame. -/
theorem FrameBuilt.read {args : List WORD} {depth : Nat}
    (h : FrameBuilt saver2 saver3 saver4 locals c c') (called : Called c args depth)
    (room : 2 * locals.toNat + 10 ≤ (c.get .sp).toNat) (i : Nat) (within : i < args.length) :
    Bus.read c'.bus (c'.r5 + (4 + BitVec.ofNat 16 (2 * i))) = some args[i] := by
  have above : c'.r5 + (4 + BitVec.ofNat 16 (2 * i)) = c.get .sp + 2 + BitVec.ofNat 16 (2 * i) := by
    rw [h.r5]
    ring
  have even := called.even
  have top := called.top
  have few := saved_few saver2 saver3 saver4
  have kept {a : WORD} (high : (c.get .sp).toNat ≤ a.toNat) : c'.bus a = c.bus a := by
    apply h.other
    rw [Span, frameSize, toNat_bottom (saved_few ..) room]
    omega
  rw [above, read_bytes, ← called.arg i within]
  · congr 1
    apply word_congr
    · apply kept
      bv_omega
    · apply kept
      bv_omega
  · bv_omega

theorem leaves_rts {code : List Line} (pc : Nat) (c : Cpu Bytes) (there : code[pc]? = some .rts) :
    step code (pc, c) = none := by
  simp only [step, there]

end Frames

/-- A call on an otherwise empty stack. -/
def calling (args : List WORD) : Cpu Bytes where
  r0 := 0
  r1 := 0
  r2 := 0
  r3 := 0
  r4 := 0
  r5 := 0
  ksp := 0x1000
  usp := 0
  psw := 0
  flags := {}
  bus a :=
    let w := args.getD ((a.toNat - 0x1002) / 2) 0
    if a.toNat % 2 = 0 then w.setWidth 8 else w.extractLsb' 8 8

end Muxx
