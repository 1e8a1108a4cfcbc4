import Mathlib.Data.BitVec
import Mathlib.Logic.Relation

/-!
# The PDP-11

The instructions that system code is written with, over any bus:

* `Cpu`, `Operand`, `Instr.exec`: registers, addressing modes, instructions;
* `Line`, `step`, `Reaches`: the text of a routine, and how control runs in it;
* `successors`, `Passes`: where control can go, and how often it passes a line;
* `Reaches.block`: instructions in a row;
* `Reaches.sob`: a loop that counts a register down.

An access that the bus refuses (an odd address, a missing device) traps, and
so do instructions that write to a constant: the result is `none`.
-/

namespace Muxx.Pdp11

abbrev Word := BitVec 16
abbrev Byte := BitVec 8

inductive Reg
  | r0 | r1 | r2 | r3 | r4 | r5 | sp
  deriving DecidableEq

/-- Addressing modes in the order of the assembler's `r`, `(r)`, `(r)+`, `-(r)`,
`x(r)`, `$n` and `a`. The processor status word has an address too. -/
inductive Operand
  | reg (r : Reg)
  | deferred (r : Reg)
  | inc (r : Reg)
  | dec (r : Reg)
  | index (x : Word) (r : Reg)
  | imm (n : Word)
  | abs (a : Word)
  | psw
  deriving DecidableEq

inductive Instr
  | mov (s d : Operand)
  | movb (s d : Operand)
  | clr (d : Operand)
  | tst (d : Operand)
  | cmp (s d : Operand)
  | add (s d : Operand)
  | sub (s d : Operand)
  | bic (s d : Operand)
  | bis (s d : Operand)
  | bit (s d : Operand)
  | inc (d : Operand)
  | neg (d : Operand)
  | asl (d : Operand)
  | ash (s : Operand) (r : Reg)
  | div (s : Operand) (r : Reg)
  | clc
  | sec
  /-- `mfpd sp` and `mtpd sp`. -/
  | mfpdSp
  | mtpdSp
  deriving DecidableEq

/-- Memory and devices as the processor addresses them. -/
class Bus (σ : Type) where
  read : σ → Word → Option Word
  write : σ → Word → Word → Option σ

section Bytes
variable {σ : Type} [Bus σ]

/-- A byte is half of the word at the even address. -/
def Bus.readb (bus : σ) (a : Word) : Option Byte :=
  (Bus.read bus (a &&& 0xFFFE)).map fun w =>
    if a.getLsbD 0 then w.extractLsb' 8 8 else w.setWidth 8

def Bus.writeb (bus : σ) (a : Word) (b : Byte) : Option σ := do
  let w ← Bus.read bus (a &&& 0xFFFE)
  Bus.write bus (a &&& 0xFFFE) (if a.getLsbD 0 then b ++ w.setWidth 8 else w.extractLsb' 8 8 ++ b)

end Bytes

/-- Condition codes. -/
structure Flags where
  n : Bool := false
  z : Bool := false
  v : Bool := false
  c : Bool := false
  deriving DecidableEq

namespace Flags

def toWord (f : Flags) : Word :=
  (if f.n then 8 else 0) ||| (if f.z then 4 else 0) ||| (if f.v then 2 else 0) |||
    (if f.c then 1 else 0)

def ofWord (w : Word) : Flags :=
  ⟨w.getLsbD 3, w.getLsbD 2, w.getLsbD 1, w.getLsbD 0⟩

/-- After a move or a logical operation. -/
def move (f : Flags) (w : Word) : Flags := ⟨w.msb, w == 0, false, f.c⟩

/-- After `s + d`. -/
def sum (s d : Word) : Flags :=
  let w := s + d
  ⟨w.msb, w == 0, s.msb == d.msb && w.msb != s.msb, w < s⟩

/-- After `a - b`. -/
def difference (a b : Word) : Flags :=
  let w := a - b
  ⟨w.msb, w == 0, a.msb != b.msb && w.msb == b.msb, a < b⟩

/-- After a shift by `n` places to the left, or `-n` to the right. -/
def shift (f : Flags) (w : Word) (n : Int) : Flags :=
  match n with
  | .ofNat 0 => { f.move w with c := false }
  | .ofNat (k + 1) =>
    { f.move (w <<< (k + 1)) with
      v := (List.range (k + 2)).any fun i => (w <<< i).msb != w.msb
      c := (w <<< k).msb }
  | .negSucc k => { f.move (w.sshiftRight (k + 1)) with c := (w.sshiftRight k).getLsbD 0 }

@[simp] theorem move_move (f : Flags) (w w' : Word) : (f.move w).move w' = f.move w' := by
  simp only [move]

theorem difference_z (a b : Word) : (difference a b).z = decide (a = b) := by
  show (a - b == 0) = _
  rw [Bool.eq_iff_iff, beq_iff_eq, decide_eq_true_iff]
  constructor
  · intro zero
    bv_omega
  · rintro rfl
    exact BitVec.sub_self a

end Flags

/-- The low four bits of `psw` are kept in `flags`. There is no supervisor
mode. -/
structure Cpu (σ : Type) where
  r0 : Word
  r1 : Word
  r2 : Word
  r3 : Word
  r4 : Word
  r5 : Word
  ksp : Word
  usp : Word
  psw : Word
  flags : Flags
  bus : σ

/-- User mode, from the bits of the status word. -/
def userMode (psw : Word) : Bool := psw.getLsbD 15 && psw.getLsbD 14

def previousUser (psw : Word) : Bool := psw.getLsbD 13 && psw.getLsbD 12

/-- The status word with its condition codes. -/
def status (psw : Word) (f : Flags) : Word := psw &&& 0xFFF0 ||| f.toWord

section Status
variable (psw w : Word) (f : Flags)

theorem toWord_high (f : Flags) : f.toWord.getLsbD 15 = false ∧ f.toWord.getLsbD 14 = false := by
  obtain ⟨n, z, v, c⟩ := f
  cases n <;> cases z <;> cases v <;> cases c <;> decide

@[simp] theorem userMode_status : userMode (status psw f) = userMode psw := by
  have mask : (0xFFF0 : Word).getLsbD 15 = true ∧ (0xFFF0 : Word).getLsbD 14 = true := by decide
  rw [userMode, status, BitVec.getLsbD_or, BitVec.getLsbD_or, BitVec.getLsbD_and,
    BitVec.getLsbD_and, (toWord_high f).1, (toWord_high f).2, mask.1, mask.2]
  simp only [Bool.and_true, Bool.or_false]
  rfl

@[simp] theorem userMode_bis_previous : userMode (0x3000#16 ||| w) = userMode w := by
  simp [userMode]

@[simp] theorem previousUser_bis_previous : previousUser (0x3000#16 ||| w) = true := by
  simp [previousUser]

end Status

section Cpu
variable {σ : Type}

namespace Cpu

def get (c : Cpu σ) : Reg → Word
  | .r0 => c.r0
  | .r1 => c.r1
  | .r2 => c.r2
  | .r3 => c.r3
  | .r4 => c.r4
  | .r5 => c.r5
  | .sp => if userMode c.psw then c.usp else c.ksp

def set (c : Cpu σ) (r : Reg) (w : Word) : Cpu σ :=
  match r with
  | .r0 => { c with r0 := w }
  | .r1 => { c with r1 := w }
  | .r2 => { c with r2 := w }
  | .r3 => { c with r3 := w }
  | .r4 => { c with r4 := w }
  | .r5 => { c with r5 := w }
  | .sp => if userMode c.psw then { c with usp := w } else { c with ksp := w }

def setStatus (c : Cpu σ) (w : Word) : Cpu σ := { c with psw := w, flags := .ofWord w }

end Cpu

/-- What an operand stands for once its address is known. -/
inductive Place
  | reg (r : Reg)
  | mem (a : Word)
  | const (n : Word)
  | psw

/-- How far `(r)+` and `-(r)` move the register. The stack pointer stays even. -/
def stride (byte : Bool) (r : Reg) : Word :=
  if byte && r != .sp then 1 else 2

def Operand.place (byte : Bool) (c : Cpu σ) : Operand → Place × Cpu σ
  | .reg r => (.reg r, c)
  | .deferred r => (.mem (c.get r), c)
  | .inc r => (.mem (c.get r), c.set r (c.get r + stride byte r))
  | .dec r =>
    let a := c.get r + -stride byte r
    (.mem a, c.set r a)
  | .index x r => (.mem (c.get r + x), c)
  | .imm n => (.const n, c)
  | .abs a => (.mem a, c)
  | .psw => (.psw, c)

/-- The register that holds the low word of a pair. -/
def Reg.low : Reg → Option Reg
  | .r0 => some .r1
  | .r2 => some .r3
  | .r4 => some .r5
  | _ => none

/-- A shift count is the low six bits, with their sign. -/
def count (w : Word) : Int := (w.setWidth 6).toInt

def shifted (w : Word) : Int → Word
  | .ofNat k => w <<< k
  | .negSucc k => w.sshiftRight (k + 1)

/-- The quotient of a division fits a word. -/
def Fits (dividend divisor : Int) : Prop :=
  divisor ≠ 0 ∧ -32768 ≤ dividend.tdiv divisor ∧ dividend.tdiv divisor ≤ 32767

instance (dividend divisor : Int) : Decidable (Fits dividend divisor) :=
  inferInstanceAs (Decidable (_ ∧ _ ∧ _))

/-- The quotient goes to `high`, the remainder to `low`. When the quotient does
not fit a word, the registers stay as they are. -/
def Cpu.divide (c : Cpu σ) (divisor : Word) (high low : Reg) : Cpu σ :=
  let dividend := (c.get high ++ c.get low).toInt
  if Fits dividend divisor.toInt then
    let q := BitVec.ofInt 16 (dividend.tdiv divisor.toInt)
    let c := (c.set high q).set low (.ofInt 16 (dividend.tmod divisor.toInt))
    { c with flags := Flags.move {} q }
  else
    { c with flags := { c.flags with v := true, c := divisor == 0 } }

variable [Bus σ]

def Place.read (c : Cpu σ) : Place → Option Word
  | .reg r => some (c.get r)
  | .mem a => Bus.read c.bus a
  | .const n => some n
  | .psw => some (status c.psw c.flags)

def Place.write (c : Cpu σ) (w : Word) : Place → Option (Cpu σ)
  | .reg r => some (c.set r w)
  | .mem a => (Bus.write c.bus a w).map fun bus => { c with bus := bus }
  | .const _ => none
  | .psw => some (c.setStatus w)

def Place.readb (c : Cpu σ) : Place → Option Byte
  | .reg r => some ((c.get r).setWidth 8)
  | .mem a => Bus.readb c.bus a
  | .const n => some (n.setWidth 8)
  | .psw => some ((status c.psw c.flags).setWidth 8)

/-- A byte that is moved to a register is extended with its sign. The status
word is not written in bytes. -/
def Place.writeb (c : Cpu σ) (b : Byte) : Place → Option (Cpu σ)
  | .reg r => some (c.set r (b.signExtend 16))
  | .mem a => (Bus.writeb c.bus a b).map fun bus => { c with bus := bus }
  | .const _ | .psw => none

def Cpu.push (c : Cpu σ) (w : Word) : Option (Cpu σ) :=
  (Bus.write c.bus (c.get .sp + -2) w).map fun bus =>
    { c.set .sp (c.get .sp + -2) with bus := bus }

def Cpu.pop (c : Cpu σ) : Option (Word × Cpu σ) :=
  (Bus.read c.bus (c.get .sp)).map fun w => (w, c.set .sp (c.get .sp + 2))

/-- An operation that puts `f s d` in the place of `d`. -/
def Instr.combine (c : Cpu σ) (s d : Operand) (f : Word → Word → Word)
    (codes : Flags → Word → Word → Flags) : Option (Cpu σ) := do
  let (s, c) := s.place false c
  let src ← s.read c
  let (d, c) := d.place false c
  let dst ← d.read c
  d.write { c with flags := codes c.flags src dst } (f src dst)

/-- A register is read as the source of a move once the address of the
destination is known: `mov sp,-(sp)` pushes the decremented stack pointer. -/
def Instr.exec (c : Cpu σ) : Instr → Option (Cpu σ)
  | .mov s d => do
    let (s, c) := s.place false c
    let (d, c) := d.place false c
    let w ← s.read c
    d.write { c with flags := c.flags.move w } w
  | .movb s d => do
    let (s, c) := s.place true c
    let (d, c) := d.place true c
    let b ← s.readb c
    d.writeb { c with flags := c.flags.move (b.signExtend 16) } b
  | .clr d =>
    let (d, c) := d.place false c
    d.write { c with flags := { z := true } } 0
  | .tst d => do
    let (d, c) := d.place false c
    let w ← d.read c
    return { c with flags := Flags.move {} w }
  | .cmp s d => do
    let (s, c) := s.place false c
    let src ← s.read c
    let (d, c) := d.place false c
    let dst ← d.read c
    return { c with flags := .difference src dst }
  | .add s d => combine c s d (fun src dst => src + dst) fun _ src dst => .sum src dst
  | .sub s d => combine c s d (fun src dst => dst - src) fun _ src dst => .difference dst src
  | .bic s d =>
    combine c s d (fun src dst => ~~~src &&& dst) fun f src dst => f.move (~~~src &&& dst)
  | .bis s d =>
    combine c s d (fun src dst => src ||| dst) fun f src dst => f.move (src ||| dst)
  | .bit s d => do
    let (s, c) := s.place false c
    let src ← s.read c
    let (d, c) := d.place false c
    let dst ← d.read c
    return { c with flags := c.flags.move (src &&& dst) }
  | .inc d => do
    let (d, c) := d.place false c
    let w ← d.read c
    d.write { c with flags := { c.flags.move (w + 1) with v := w == 0x7FFF } } (w + 1)
  | .neg d => do
    let (d, c) := d.place false c
    let w ← d.read c
    d.write { c with flags := ⟨(-w).msb, w == 0, w == 0x8000, w != 0⟩ } (-w)
  | .asl d => do
    let (d, c) := d.place false c
    let w ← d.read c
    d.write { c with flags := c.flags.shift w 1 } (w <<< 1)
  | .ash s r => do
    let (s, c) := s.place false c
    let n ← s.read c
    return { c.set r (shifted (c.get r) (count n)) with
      flags := c.flags.shift (c.get r) (count n) }
  | .div s r => do
    let low ← r.low
    let (s, c) := s.place false c
    let w ← s.read c
    return c.divide w r low
  | .clc => some { c with flags := { c.flags with c := false } }
  | .sec => some { c with flags := { c.flags with c := true } }
  | .mfpdSp =>
    let w := if previousUser c.psw then c.usp else c.ksp
    Cpu.push { c with flags := c.flags.move w } w
  | .mtpdSp => do
    let (w, c) ← c.pop
    let c := { c with flags := c.flags.move w }
    return if previousUser c.psw then { c with usp := w } else { c with ksp := w }

/-- A trap to a routine whose vector holds the status word `psw`: the old status
word and `pc` are pushed in the new mode, which remembers the old one. -/
def Cpu.trap (c : Cpu σ) (psw pc : Word) : Option (Cpu σ) := do
  let old := status c.psw c.flags
  let c := c.setStatus (psw &&& 0xCFFF ||| (old &&& 0xC000) >>> 2)
  (← c.push old).push pc

end Cpu

/-- Return from a trap in kernel mode: the address, and the old status word. -/
def Cpu.rti {σ : Type} [Bus σ] (c : Cpu σ) : Option (Word × Cpu σ) := do
  let (pc, c) ← c.pop
  let (psw, c) ← c.pop
  return (pc, c.setStatus psw)

/-! ## Routines -/

/-- A line of a routine: a local label `n$:`, an instruction, or a transfer of
control. `jsrAt x r` is `jsr pc,@x(r)`. Control leaves the routine at the last
six. -/
inductive Line
  | label (n : Nat)
  | instr (i : Instr)
  | br (n : Nat)
  | beq (n : Nat)
  | bne (n : Nat)
  | bhi (n : Nat)
  | bmi (n : Nat)
  | bpl (n : Nat)
  | sob (r : Reg) (n : Nat)
  | jsr (d : Operand)
  | jsrAt (x : Word) (r : Reg)
  | rts
  | rti
  | halt
  | trap (n : Word)
  deriving DecidableEq

def target (code : List Line) (n : Nat) : Option Nat := code.idxOf? (.label n)

section Control
variable {σ : Type} [Bus σ]

def step (code : List Line) : Nat × Cpu σ → Option (Nat × Cpu σ)
  | (pc, c) =>
    match code[pc]? with
    | some (.label _) => some (pc + 1, c)
    | some (.instr i) => (i.exec c).map fun c => (pc + 1, c)
    | some (.br n) => (target code n).map fun pc => (pc, c)
    | some (.beq n) =>
      if c.flags.z then (target code n).map fun pc => (pc, c) else some (pc + 1, c)
    | some (.bne n) =>
      if c.flags.z then some (pc + 1, c) else (target code n).map fun pc => (pc, c)
    | some (.bhi n) =>
      if c.flags.c || c.flags.z then some (pc + 1, c)
      else (target code n).map fun pc => (pc, c)
    | some (.bmi n) =>
      if c.flags.n then (target code n).map fun pc => (pc, c) else some (pc + 1, c)
    | some (.bpl n) =>
      if c.flags.n then some (pc + 1, c) else (target code n).map fun pc => (pc, c)
    | some (.sob r n) =>
      let left := c.get r - 1
      let c := c.set r left
      if left = 0 then some (pc + 1, c) else (target code n).map fun pc => (pc, c)
    | some (.jsr _) | some (.jsrAt _ _) | some .rts | some .rti | some .halt | some (.trap _)
    | none => none

/-- Control gets from one line to another. -/
def Reaches (code : List Line) : Nat × Cpu σ → Nat × Cpu σ → Prop :=
  Relation.ReflTransGen fun s t => step code s = some t

/-- A routine runs from its first line to one where control leaves it. -/
def Runs (code : List Line) (last : Line) (c c' : Cpu σ) : Prop :=
  ∃ pc, Reaches code (0, c) (pc, c') ∧ code[pc]? = some last

/-- The lines that control can go to from a line. -/
def successors (code : List Line) (pc : Nat) : List Nat :=
  match code[pc]? with
  | some (.label _) | some (.instr _) => [pc + 1]
  | some (.br n) => (target code n).toList
  | some (.beq n) | some (.bne n) | some (.bhi n) | some (.bmi n) | some (.bpl n)
  | some (.sob _ n) => (pc + 1) :: (target code n).toList
  | some (.jsr _) | some (.jsrAt _ _) | some .rts | some .rti | some .halt | some (.trap _)
  | none => []

/-- Control gets from one line to another and executes line `l` that often on
the way. -/
inductive Passes (code : List Line) (l : Nat) (s : Nat × Cpu σ) : Nat → Nat × Cpu σ → Prop
  | refl : Passes code l s 0 s
  | step {n : Nat} {t u : Nat × Cpu σ} (before : Passes code l s n t)
      (stepped : step code t = some u) : Passes code l s (n + if t.1 = l then 1 else 0) u

/-- Instructions one after the other. -/
def execAll : List Instr → Cpu σ → Option (Cpu σ)
  | [], c => some c
  | i :: is, c => (i.exec c).bind (execAll is)

/-- The instructions among `n` lines. -/
def instrsAt (code : List Line) (pc n : Nat) : List Instr :=
  ((code.drop pc).take n).filterMap fun
    | .instr i => some i
    | _ => none

-- These execute instructions symbolically, given what the bus answers.
attribute [simp] execAll Instr.exec Instr.combine Operand.place Place.read Place.write Cpu.get
  Cpu.set Cpu.setStatus Cpu.push Cpu.pop Reg.low stride

section Rules
variable {code : List Line} {pc : Nat} {c c' : Cpu σ} {is : List Instr}

theorem execAll_cons {i : Instr} {c₁ : Cpu σ} (first : i.exec c = some c₁)
    (rest : execAll is c₁ = some c') : execAll (i :: is) c = some c' := by
  simp only [execAll, first, Option.bind_some, rest]

theorem execAll_append {js : List Instr} {c₁ : Cpu σ} (first : execAll is c = some c₁)
    (rest : execAll js c₁ = some c') : execAll (is ++ js) c = some c' := by
  induction is generalizing c with
  | nil =>
    cases first
    exact rest
  | cons i is ih =>
    obtain ⟨c₂, ran, first⟩ := Option.bind_eq_some_iff.mp first
    exact execAll_cons ran (ih first)

theorem Reaches.refl (code : List Line) (s : Nat × Cpu σ) : Reaches code s s :=
  Relation.ReflTransGen.refl

theorem Reaches.trans {s t u : Nat × Cpu σ} (first : Reaches code s t) (rest : Reaches code t u) :
    Reaches code s u :=
  Relation.ReflTransGen.trans first rest

theorem Reaches.one {s t : Nat × Cpu σ} (stepped : step code s = some t) : Reaches code s t :=
  Relation.ReflTransGen.single stepped

/-- Control goes one way. -/
theorem Reaches.total {s t u : Nat × Cpu σ} (first : Reaches code s t) (second : Reaches code s u) :
    Reaches code t u ∨ Reaches code u t := by
  have functional : Relator.RightUnique fun s t : Nat × Cpu σ => step code s = some t := by
    intro s t u first second
    exact Option.some_inj.mp (first.symm.trans second)
  exact Relation.ReflTransGen.total_of_right_unique functional first second

/-- There is one way through a routine. -/
theorem Runs.unique {last : Line} {c₁ c₂ : Cpu σ} (leaves : ∀ pc (c : Cpu σ), code[pc]? = some last →
    step code (pc, c) = none) (h₁ : Runs code last c c₁) (h₂ : Runs code last c c₂) : c₁ = c₂ := by
  obtain ⟨pc₁, reaches₁, at₁⟩ := h₁
  obtain ⟨pc₂, reaches₂, at₂⟩ := h₂
  have stays {s t : Nat × Cpu σ} (stuck : step code s = none) (reaches : Reaches code s t) :
      s = t := by
    rcases Relation.ReflTransGen.cases_head reaches with same | ⟨u, stepped, -⟩
    · exact same
    · exact absurd (stuck.symm.trans stepped) (Option.some_ne_none u).symm
  rcases reaches₁.total reaches₂ with on | on
  · exact congrArg Prod.snd (stays (leaves _ _ at₁) on)
  · exact (congrArg Prod.snd (stays (leaves _ _ at₂) on)).symm

theorem step_successors {pc' : Nat} (stepped : step code (pc, c) = some (pc', c')) :
    pc' ∈ successors code pc := by
  unfold step at stepped
  unfold successors
  cases line : code[pc]? with
  | none => simp [line] at stepped
  | some line' =>
    simp only [line] at stepped ⊢
    cases line' with
    | label n => simp_all
    | instr i =>
      obtain ⟨c₁, -, same⟩ := Option.map_eq_some_iff.mp stepped
      cases same
      exact List.mem_singleton_self _
    | br n =>
      obtain ⟨there, labelled, same⟩ := Option.map_eq_some_iff.mp stepped
      cases same
      exact Option.mem_toList.mpr labelled
    | beq n | bne n | bhi n | bmi n | bpl n =>
      dsimp only at stepped ⊢
      split at stepped
      all_goals first
        | cases stepped
          exact List.mem_cons_self
        | obtain ⟨there, labelled, same⟩ := Option.map_eq_some_iff.mp stepped
          cases same
          exact List.mem_cons_of_mem _ (Option.mem_toList.mpr labelled)
    | sob r n =>
      dsimp only at stepped ⊢
      split at stepped
      · cases stepped
        exact List.mem_cons_self
      · obtain ⟨there, labelled, same⟩ := Option.map_eq_some_iff.mp stepped
        cases same
        exact List.mem_cons_of_mem _ (Option.mem_toList.mpr labelled)
    | jsr d | jsrAt x r | trap n => cases stepped
    | rts | rti | halt => cases stepped

/-- Lines that control does not leave. -/
theorem Reaches.stays {P : Nat → Prop} (closed : ∀ pc, P pc → ∀ pc' ∈ successors code pc, P pc')
    {s t : Nat × Cpu σ} (start : P s.1) (reaches : Reaches code s t) : P t.1 := by
  induction reaches with
  | refl => exact start
  | tail _ stepped ih => exact closed _ ih _ (step_successors stepped)

theorem Reaches.passes (l : Nat) {s t : Nat × Cpu σ} (reaches : Reaches code s t) :
    ∃ n, Passes code l s n t := by
  induction reaches with
  | refl => exact ⟨0, .refl⟩
  | tail _ stepped ih =>
    obtain ⟨n, before⟩ := ih
    exact ⟨_, before.step stepped⟩

/-- The invariant rule for the number of times. -/
theorem Passes.invariant {l n : Nat} {s t : Nat × Cpu σ} (Inv : Nat → Nat × Cpu σ → Prop)
    (start : Inv 0 s) (kept : ∀ n t u, Inv n t → Pdp11.step code t = some u →
      Inv (n + if t.1 = l then 1 else 0) u) (passes : Passes code l s n t) : Inv n t := by
  induction passes with
  | refl => exact start
  | step _ stepped ih => exact kept _ _ _ ih stepped

theorem step_instr {i : Instr} (there : code[pc]? = some (.instr i)) (ran : i.exec c = some c') :
    step code (pc, c) = some (pc + 1, c') := by
  simp only [step, there, ran, Option.map_some]

/-- Instructions in a row are executed one after the other. -/
theorem Reaches.block (there : is.map .instr <+: code.drop pc) (ran : execAll is c = some c') :
    Reaches code (pc, c) (pc + is.length, c') := by
  induction is generalizing pc c with
  | nil =>
    cases ran
    exact .refl code _
  | cons i is ih =>
    obtain ⟨c₁, first, rest⟩ := Option.bind_eq_some_iff.mp ran
    obtain ⟨after, text⟩ := there
    have here : code[pc]? = some (.instr i) := by
      rw [← List.head?_drop, ← text]
      rfl
    have later : is.map .instr <+: code.drop (pc + 1) := by
      refine ⟨after, ?_⟩
      rw [← List.tail_drop, ← text]
      rfl
    have stepped : Reaches code (pc, c) (pc + 1, c₁) := .one (step_instr here first)
    have length : pc + 1 + is.length = pc + (i :: is).length := by
      rw [List.length_cons]
      omega
    exact stepped.trans (length ▸ ih later rest)

/-- A part of the text that has instructions only. -/
theorem Reaches.straight {n : Nat}
    (text : (instrsAt code pc n).map .instr = (code.drop pc).take n)
    (length : (instrsAt code pc n).length = n) (ran : execAll (instrsAt code pc n) c = some c') :
    Reaches code (pc, c) (pc + n, c') := by
  have there : (instrsAt code pc n).map .instr <+: code.drop pc := text ▸ List.take_prefix n _
  have reaches := Reaches.block there ran
  rw [length] at reaches
  exact reaches

/-- A loop from a label to the `sob` that counts `r` down. `I n` holds when `n`
turns are left; the body keeps `r`, or another value that makes `I` hold. -/
theorem Reaches.sob {r : Reg} {l : Nat} (labelled : target code l = some pc)
    (there : .label l :: is.map .instr ++ [.sob r l] <+: code.drop pc) (I : Nat → Cpu σ → Prop)
    (turn : ∀ n c, n + 1 < 65536 → I (n + 1) c → ∃ c', execAll is c = some c' ∧
      c'.get r = BitVec.ofNat 16 (n + 1) ∧ I n (c'.set r (BitVec.ofNat 16 n)))
    {n : Nat} (few : n + 1 < 65536) (start : I (n + 1) c) :
    ∃ c', I 0 c' ∧ Reaches code (pc, c) (pc + is.length + 2, c') := by
  obtain ⟨after, text⟩ := there
  have label : code[pc]? = some (.label l) := by
    rw [← List.head?_drop, ← text]
    rfl
  have body : is.map .instr <+: code.drop (pc + 1) := by
    refine ⟨.sob r l :: after, ?_⟩
    rw [← List.tail_drop, ← text]
    simp
  have bottom : code[pc + 1 + is.length]? = some (.sob r l) := by
    have split : code.drop (pc + 1 + is.length) = .sob r l :: after := by
      rw [← List.drop_drop, ← List.tail_drop, ← text]
      simp
    rw [← List.head?_drop, split]
    rfl
  induction n generalizing c with
  | zero =>
    obtain ⟨c₁, ran, count, last⟩ := turn 0 c few start
    have entered : Reaches code (pc, c) (pc + 1, c) := .one (by simp only [step, label])
    have counted : step code (pc + 1 + is.length, c₁) =
        some (pc + is.length + 2, c₁.set r (BitVec.ofNat 16 0)) := by
      have left : c₁.get r - 1 = BitVec.ofNat 16 0 := by rw [count]; rfl
      simp only [step, bottom, left, if_true, show BitVec.ofNat 16 0 = (0 : Word) from rfl]
      congr 2
      omega
    exact ⟨_, last, entered.trans ((Reaches.block body ran).trans (.one counted))⟩
  | succ n ih =>
    obtain ⟨c₁, ran, count, rest⟩ := turn (n + 1) c few start
    obtain ⟨c', done, reaches⟩ := ih (by omega) rest
    have entered : Reaches code (pc, c) (pc + 1, c) := .one (by simp only [step, label])
    have counted : step code (pc + 1 + is.length, c₁) =
        some (pc, c₁.set r (BitVec.ofNat 16 (n + 1))) := by
      have left : c₁.get r - 1 = BitVec.ofNat 16 (n + 1) := by
        rw [count, BitVec.ofNat_add (n + 1) 1]
        exact BitVec.add_sub_cancel _ _
      have more : BitVec.ofNat 16 (n + 1) ≠ 0 := by
        intro zero
        have zero := congrArg BitVec.toNat zero
        rw [BitVec.toNat_ofNat] at zero
        simp at zero
        omega
      simp only [step, bottom, left, if_neg more, labelled, Option.map_some]
    exact ⟨c', done, entered.trans
      ((Reaches.block body ran).trans ((Reaches.one counted).trans reaches))⟩

end Rules

end Control

end Muxx.Pdp11
