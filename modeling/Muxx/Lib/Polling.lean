import Muxx.Lib.Bytes

/-!
# Polling

The processor with devices, whose registers change between any two lines of a
routine:

* `Devices`, `Live`: registers over time, and runs with the lines they pass;
* `exec_agree`, `Live.block`: instructions that touch no device do what they do
  in plain memory;
* `Live.poll`: a loop that waits for a bit of a register ends when the device
  answers.
-/

namespace Muxx.Pdp11

/-- The addresses of device registers, and what they hold at any time. -/
structure Devices where
  has : Word → Bool
  regs : Nat → Bytes

/-- Memory as the processor sees it at time `t`. -/
def Devices.seen (D : Devices) (t : Nat) (c : Cpu Bytes) : Cpu Bytes :=
  { c with bus := fun a => if D.has a then D.regs t a else c.bus a }

/-- The memories differ in device registers at most. -/
def Agree (D : Devices) (m m' : Bytes) : Prop := ∀ a, D.has a = false → m' a = m a

/-- A run from one line to another that passes the lines of the list, in a state
of time, line and processor. -/
inductive Live (D : Devices) (code : List Line) :
    List Nat → Nat × Nat × Cpu Bytes → Nat × Nat × Cpu Bytes → Prop
  | done (s : Nat × Nat × Cpu Bytes) : Live D code [] s s
  | step {t pc pc' : Nat} {c c' : Cpu Bytes} {pcs : List Nat} {s : Nat × Nat × Cpu Bytes}
      (stepped : Pdp11.step code (pc, D.seen t c) = some (pc', c'))
      (rest : Live D code pcs (t + 1, pc', c') s) : Live D code (pc :: pcs) (t, pc, c) s

/-- No device is at the address or next to it. -/
def Place.Apart (D : Devices) : Place → Prop
  | .mem a => D.has a = false ∧ D.has (a + 1) = false
  | _ => True

/-- Bytes or words, and the operands in the order in which their addresses are found. -/
def Instr.operands : Instr → Bool × List Operand
  | .movb s d => (true, [s, d])
  | .mov s d | .cmp s d | .add s d | .sub s d | .bic s d | .bis s d | .bit s d => (false, [s, d])
  | .clr d | .tst d | .inc d | .neg d | .asl d | .ash d _ | .div d _ => (false, [d])
  | .mfpdSp => (false, [.dec .sp])
  | .mtpdSp => (false, [.inc .sp])
  | .clc | .sec => (false, [])

/-- No operand is a device register. -/
def ApartAll (D : Devices) (byte : Bool) : Cpu Bytes → List Operand → Prop
  | _, [] => True
  | c, o :: os => (o.place byte c).1.Apart D ∧ ApartAll D byte (o.place byte c).2 os

def Instr.Apart (D : Devices) (c : Cpu Bytes) (i : Instr) : Prop :=
  ApartAll D i.operands.1 c i.operands.2

section Agree
variable {D : Devices} {m m' : Bytes} {c c' : Cpu Bytes}

theorem Agree.refl (D : Devices) (m : Bytes) : Agree D m m := fun _ _ => rfl

theorem Agree.trans {m'' : Bytes} (first : Agree D m m') (second : Agree D m' m'') :
    Agree D m m'' := fun a plain => (second a plain).trans (first a plain)

theorem agree_seen (D : Devices) (t : Nat) (c : Cpu Bytes) : Agree D c.bus (D.seen t c).bus := by
  intro a plain
  show (if D.has a then _ else c.bus a) = c.bus a
  rw [plain]
  rfl

theorem set_onto (c : Cpu Bytes) (m : Bytes) (r : Reg) (w : Word) :
    ({ c with bus := m } : Cpu Bytes).set r w = { c.set r w with bus := m } := by
  cases r with
  | sp => simp only [Cpu.set]; split <;> rfl
  | _ => rfl

theorem place_onto (c : Cpu Bytes) (m : Bytes) (byte : Bool) (o : Operand) :
    o.place byte { c with bus := m } =
      ((o.place byte c).1, { (o.place byte c).2 with bus := m }) := by
  cases o with
  | inc r | dec r =>
    have same : ({ c with bus := m } : Cpu Bytes).get r = c.get r := by cases r <;> rfl
    simp only [Operand.place, set_onto, same]
  | deferred r | index x r =>
    have same : ({ c with bus := m } : Cpu Bytes).get r = c.get r := by cases r <;> rfl
    simp only [Operand.place, same]
  | reg | imm | abs | psw => rfl

theorem place_bus (c : Cpu Bytes) (byte : Bool) (o : Operand) : (o.place byte c).2.bus = c.bus := by
  cases o with
  | inc r | dec r => exact set_bus ..
  | _ => rfl

theorem read_onto {p : Place} (apart : p.Apart D) (agree : Agree D c.bus m) :
    p.read { c with bus := m } = p.read c := by
  cases p with
  | reg r => cases r <;> rfl
  | mem a => exact read_congr (agree a apart.1) (agree _ apart.2)
  | const | psw => rfl

theorem readb_onto {p : Place} (apart : p.Apart D) (agree : Agree D c.bus m) :
    p.readb { c with bus := m } = p.readb c := by
  cases p with
  | reg r => cases r <;> rfl
  | mem a =>
    show Bus.readb m a = Bus.readb c.bus a
    rw [readb_bytes, readb_bytes, agree a apart.1]
  | const | psw => rfl

theorem store_agree {a w : Word} {n : Bytes} (agree : Agree D c.bus m)
    (stored : Bus.write c.bus a w = some n) : ∃ m', Bus.write m a w = some m' ∧ Agree D n m' := by
  have even : ¬ a.toNat % 2 = 1 := fun odd => by
    rw [show Bus.write c.bus a w = none from if_pos odd] at stored
    cases stored
  have same : n = setWord c.bus a w := Option.some.inj (stored.symm.trans (if_neg even))
  refine ⟨setWord m a w, if_neg even, ?_⟩
  intro b plain
  rw [same, setWord_apply, setWord_apply, agree b plain]

theorem write_onto {p : Place} {w : Word} (agree : Agree D c.bus m)
    (written : p.write c w = some c') :
    ∃ m', p.write { c with bus := m } w = some { c' with bus := m' } ∧ Agree D c'.bus m' := by
  cases p with
  | reg r =>
    cases written
    refine ⟨m, congrArg some (set_onto c m r w), ?_⟩
    rw [set_bus]
    exact agree
  | mem a =>
    obtain ⟨n, stored, rfl⟩ := Option.map_eq_some_iff.mp written
    obtain ⟨m', stored', agree'⟩ := store_agree agree stored
    exact ⟨m', congrArg (Option.map _) stored', agree'⟩
  | const => cases written
  | psw =>
    cases written
    exact ⟨m, rfl, agree⟩

theorem writeb_onto {p : Place} {b : Byte} (agree : Agree D c.bus m)
    (written : p.writeb c b = some c') :
    ∃ m', p.writeb { c with bus := m } b = some { c' with bus := m' } ∧ Agree D c'.bus m' := by
  cases p with
  | reg r =>
    cases written
    refine ⟨m, congrArg some (set_onto c m r _), ?_⟩
    rw [set_bus]
    exact agree
  | mem a =>
    obtain ⟨n, stored, rfl⟩ := Option.map_eq_some_iff.mp written
    rw [writeb_bytes] at stored
    cases stored
    refine ⟨Function.update m a b, congrArg (Option.map _) (writeb_bytes m a b), ?_⟩
    intro x plain
    show Function.update m a b x = Function.update c.bus a b x
    rw [Function.update_apply, Function.update_apply, agree x plain]
  | const | psw => cases written

/-- The place of an operand is the same in both memories. -/
theorem place_split (byte : Bool) (c : Cpu Bytes) (o : Operand) : ∃ p c₁, o.place byte c = (p, c₁) ∧
    (∀ m : Bytes, o.place byte { c with bus := m } = (p, { c₁ with bus := m })) ∧ c₁.bus = c.bus :=
  ⟨_, _, rfl, fun m => place_onto c m byte o, place_bus c byte o⟩

theorem combine_agree {s d : Operand} {f : Word → Word → Word} {codes : Flags → Word → Word → Flags}
    (apart : ApartAll D false c [s, d]) (agree : Agree D c.bus m)
    (ran : Instr.combine c s d f codes = some c') :
    ∃ m', Instr.combine { c with bus := m } s d f codes = some { c' with bus := m' } ∧
      Agree D c'.bus m' := by
  obtain ⟨p, c₁, here, there, bus₁⟩ := place_split false c s
  obtain ⟨q, c₂, here', there', bus₂⟩ := place_split false c₁ d
  simp only [ApartAll, here, here', and_true] at apart
  have agree₁ : Agree D c₁.bus m := bus₁ ▸ agree
  have agree₂ : Agree D c₂.bus m := bus₂ ▸ agree₁
  simp only [Instr.combine, here, here'] at ran
  obtain ⟨src, read, ran⟩ := Option.bind_eq_some_iff.mp ran
  obtain ⟨dst, read', written⟩ := Option.bind_eq_some_iff.mp ran
  obtain ⟨m', stored, agree'⟩ := write_onto (D := D) (m := m) (by exact agree₂) written
  refine ⟨m', ?_, agree'⟩
  simp only [Instr.combine, there, there', read_onto apart.1 agree₁, read, bind, Option.bind_some,
    read_onto apart.2 agree₂, read']
  exact stored

theorem divide_onto (c : Cpu Bytes) (m : Bytes) (w : Word) (high low : Reg) :
    ({ c with bus := m } : Cpu Bytes).divide w high low =
      { c.divide w high low with bus := m } ∧ (c.divide w high low).bus = c.bus := by
  have same (r : Reg) : ({ c with bus := m } : Cpu Bytes).get r = c.get r := get_with ..
  by_cases fits : Fits (c.get high ++ c.get low).toInt w.toInt
  · simp only [Cpu.divide, same, if_pos fits]
    rw [set_onto c m high, set_onto (c.set high _) m low]
    exact ⟨rfl, (set_bus ..).trans (set_bus ..)⟩
  · simp only [Cpu.divide, same, if_neg fits, and_self]

theorem push_agree {w : Word} (agree : Agree D c.bus m) (pushed : c.push w = some c') :
    ∃ m', ({ c with bus := m } : Cpu Bytes).push w = some { c' with bus := m' } ∧
      Agree D c'.bus m' := by
  have same : ({ c with bus := m } : Cpu Bytes).get .sp = c.get .sp := get_with ..
  obtain ⟨n, stored, rfl⟩ := Option.map_eq_some_iff.mp pushed
  obtain ⟨m', stored', agree'⟩ := store_agree agree stored
  refine ⟨m', ?_, agree'⟩
  rw [Cpu.push, same, stored', Option.map_some, set_onto]

theorem pop_agree {w : Word} (apart : (Place.mem (c.get .sp)).Apart D) (agree : Agree D c.bus m)
    (popped : c.pop = some (w, c')) :
    ({ c with bus := m } : Cpu Bytes).pop = some (w, { c' with bus := m }) ∧ Agree D c'.bus m := by
  have same : ({ c with bus := m } : Cpu Bytes).get .sp = c.get .sp := get_with ..
  have read := read_onto apart agree
  obtain ⟨v, found, eq⟩ := Option.map_eq_some_iff.mp popped
  cases eq
  refine ⟨?_, (set_bus c .sp _).symm ▸ agree⟩
  rw [Cpu.pop, same, show Bus.read m (c.get .sp) = some w from read.trans found, Option.map_some,
    set_onto]

variable (D c) in
/-- What an instruction does is the same in memories that agree. -/
def ExecAgrees (i : Instr) : Prop :=
  ∀ (m : Bytes) (c' : Cpu Bytes), i.Apart D c → Agree D c.bus m → i.exec c = some c' →
    ∃ m', i.exec { c with bus := m } = some { c' with bus := m' } ∧ Agree D c'.bus m'

theorem mov_agrees (s d : Operand) : ExecAgrees D c (.mov s d) := by
  intro m c' apart agree ran
  obtain ⟨p, c₁, here, there, bus₁⟩ := place_split false c s
  obtain ⟨q, c₂, here', there', bus₂⟩ := place_split false c₁ d
  simp only [Instr.Apart, Instr.operands, ApartAll, here, here', and_true] at apart
  have agree₂ : Agree D c₂.bus m := bus₂ ▸ bus₁ ▸ agree
  simp only [Instr.exec, here, here'] at ran
  obtain ⟨w, read, written⟩ := Option.bind_eq_some_iff.mp ran
  obtain ⟨m', stored, agree'⟩ := write_onto (D := D) (m := m) (by exact agree₂) written
  refine ⟨m', ?_, agree'⟩
  simp only [Instr.exec, there, there', read_onto apart.1 agree₂, read, bind, Option.bind_some]
  exact stored

theorem movb_agrees (s d : Operand) : ExecAgrees D c (.movb s d) := by
  intro m c' apart agree ran
  obtain ⟨p, c₁, here, there, bus₁⟩ := place_split true c s
  obtain ⟨q, c₂, here', there', bus₂⟩ := place_split true c₁ d
  simp only [Instr.Apart, Instr.operands, ApartAll, here, here', and_true] at apart
  have agree₂ : Agree D c₂.bus m := bus₂ ▸ bus₁ ▸ agree
  simp only [Instr.exec, here, here'] at ran
  obtain ⟨b, read, written⟩ := Option.bind_eq_some_iff.mp ran
  obtain ⟨m', stored, agree'⟩ := writeb_onto (D := D) (m := m) (by exact agree₂) written
  refine ⟨m', ?_, agree'⟩
  simp only [Instr.exec, there, there', readb_onto apart.1 agree₂, read, bind, Option.bind_some]
  exact stored

/-- Instructions that read two operands for the condition codes. -/
theorem compare_agrees (s d : Operand) :
    ExecAgrees D c (.cmp s d) ∧ ExecAgrees D c (.bit s d) := by
  constructor
  all_goals
    intro m c' apart agree ran
    obtain ⟨p, c₁, here, there, bus₁⟩ := place_split false c s
    obtain ⟨q, c₂, here', there', bus₂⟩ := place_split false c₁ d
    simp only [Instr.Apart, Instr.operands, ApartAll, here, here', and_true] at apart
    have agree₁ : Agree D c₁.bus m := bus₁ ▸ agree
    have agree₂ : Agree D c₂.bus m := bus₂ ▸ agree₁
    simp only [Instr.exec, here, here'] at ran
    obtain ⟨src, read, ran⟩ := Option.bind_eq_some_iff.mp ran
    obtain ⟨dst, read', done⟩ := Option.bind_eq_some_iff.mp ran
    cases done
    refine ⟨m, ?_, agree₂⟩
    simp only [Instr.exec, there, there', read_onto apart.1 agree₁, read, bind, Option.bind_some,
      read_onto apart.2 agree₂, read']
    rfl

theorem clr_agrees (d : Operand) : ExecAgrees D c (.clr d) := by
  intro m c' _ agree ran
  obtain ⟨p, c₁, here, there, bus₁⟩ := place_split false c d
  simp only [Instr.exec, here] at ran
  obtain ⟨m', stored, agree'⟩ := write_onto (D := D) (m := m) (by exact bus₁ ▸ agree) ran
  refine ⟨m', ?_, agree'⟩
  simp only [Instr.exec, there]
  exact stored

theorem tst_agrees (d : Operand) : ExecAgrees D c (.tst d) := by
  intro m c' apart agree ran
  obtain ⟨p, c₁, here, there, bus₁⟩ := place_split false c d
  simp only [Instr.Apart, Instr.operands, ApartAll, here, and_true] at apart
  have agree₁ : Agree D c₁.bus m := bus₁ ▸ agree
  simp only [Instr.exec, here] at ran
  obtain ⟨w, read, done⟩ := Option.bind_eq_some_iff.mp ran
  cases done
  refine ⟨m, ?_, agree₁⟩
  simp only [Instr.exec, there, read_onto apart agree₁, read, bind, Option.bind_some]
  rfl

/-- Instructions that write a word where they have read it. -/
theorem modify_agrees (d : Operand) :
    ExecAgrees D c (.inc d) ∧ ExecAgrees D c (.neg d) ∧ ExecAgrees D c (.asl d) := by
  refine ⟨?_, ?_, ?_⟩
  all_goals
    intro m c' apart agree ran
    obtain ⟨p, c₁, here, there, bus₁⟩ := place_split false c d
    simp only [Instr.Apart, Instr.operands, ApartAll, here, and_true] at apart
    have agree₁ : Agree D c₁.bus m := bus₁ ▸ agree
    simp only [Instr.exec, here] at ran
    obtain ⟨w, read, written⟩ := Option.bind_eq_some_iff.mp ran
    obtain ⟨m', stored, agree'⟩ := write_onto (D := D) (m := m) (by exact agree₁) written
    refine ⟨m', ?_, agree'⟩
    simp only [Instr.exec, there, read_onto apart agree₁, read, bind, Option.bind_some]
    exact stored

theorem ash_agrees (d : Operand) (r : Reg) : ExecAgrees D c (.ash d r) := by
  intro m c' apart agree ran
  obtain ⟨p, c₁, here, there, bus₁⟩ := place_split false c d
  simp only [Instr.Apart, Instr.operands, ApartAll, here, and_true] at apart
  have agree₁ : Agree D c₁.bus m := bus₁ ▸ agree
  simp only [Instr.exec, here] at ran
  obtain ⟨w, read, done⟩ := Option.bind_eq_some_iff.mp ran
  cases done
  have same : ({ c₁ with bus := m } : Cpu Bytes).get r = c₁.get r := get_with ..
  refine ⟨m, ?_, (set_bus c₁ r _).symm ▸ agree₁⟩
  simp only [Instr.exec, there, read_onto apart agree₁, read, bind, Option.bind_some, same,
    set_onto]
  rfl

theorem div_agrees (d : Operand) (r : Reg) : ExecAgrees D c (.div d r) := by
  intro m c' apart agree ran
  obtain ⟨l, low, ran⟩ := Option.bind_eq_some_iff.mp ran
  obtain ⟨p, c₁, here, there, bus₁⟩ := place_split false c d
  simp only [Instr.Apart, Instr.operands, ApartAll, here, and_true] at apart
  have agree₁ : Agree D c₁.bus m := bus₁ ▸ agree
  simp only [here] at ran
  obtain ⟨w, read, done⟩ := Option.bind_eq_some_iff.mp ran
  cases done
  obtain ⟨onto, kept⟩ := divide_onto c₁ m w r l
  refine ⟨m, ?_, kept ▸ agree₁⟩
  simp only [Instr.exec, low, there, read_onto apart agree₁, read, bind, Option.bind_some, onto]
  rfl

theorem mtpdSp_agrees : ExecAgrees D c .mtpdSp := by
  intro m c' apart agree ran
  obtain ⟨⟨w, c₁⟩, popped, ran⟩ := Option.bind_eq_some_iff.mp ran
  obtain ⟨popped', agree'⟩ := pop_agree apart.1 agree popped
  cases ran
  refine ⟨m, ?_, ?_⟩
  · simp only [Instr.exec, popped', bind, Option.bind_some, pure]
    split <;> rfl
  · split <;> exact agree'

theorem exec_agree {i : Instr} (apart : i.Apart D c) (agree : Agree D c.bus m)
    (ran : i.exec c = some c') :
    ∃ m', i.exec { c with bus := m } = some { c' with bus := m' } ∧ Agree D c'.bus m' := by
  cases i with
  | add s d | sub s d | bic s d | bis s d =>
    rw [Instr.exec] at ran ⊢
    exact combine_agree apart agree ran
  | mov s d => exact mov_agrees s d m c' apart agree ran
  | movb s d => exact movb_agrees s d m c' apart agree ran
  | cmp s d => exact (compare_agrees s d).1 m c' apart agree ran
  | bit s d => exact (compare_agrees s d).2 m c' apart agree ran
  | clr d => exact clr_agrees d m c' apart agree ran
  | tst d => exact tst_agrees d m c' apart agree ran
  | inc d => exact (modify_agrees d).1 m c' apart agree ran
  | neg d => exact (modify_agrees d).2.1 m c' apart agree ran
  | asl d => exact (modify_agrees d).2.2 m c' apart agree ran
  | ash d r => exact ash_agrees d r m c' apart agree ran
  | div d r => exact div_agrees d r m c' apart agree ran
  | clc | sec =>
    cases ran
    exact ⟨m, rfl, agree⟩
  | mfpdSp =>
    obtain ⟨m', pushed, agree'⟩ := push_agree (D := D) (m := m) (by exact agree) ran
    exact ⟨m', pushed, agree'⟩
  | mtpdSp => exact mtpdSp_agrees m c' apart agree ran

/-- A line that is no instruction does not look at memory. -/
theorem step_agree {code : List Line} {pc pc' : Nat}
    (apart : ∀ i, code[pc]? = some (.instr i) → i.Apart D c) (agree : Agree D c.bus m)
    (stepped : step code (pc, c) = some (pc', c')) :
    ∃ m', step code (pc, { c with bus := m }) = some (pc', { c' with bus := m' }) ∧
      Agree D c'.bus m' := by
  have jump {c : Cpu Bytes} (agree : Agree D c.bus m) {n : Nat}
      (jumped : (target code n).map (fun pc => (pc, c)) = some (pc', c')) :
      ∃ m', (target code n).map (fun pc => (pc, { c with bus := m })) =
        some (pc', { c' with bus := m' }) ∧ Agree D c'.bus m' := by
    obtain ⟨t, found, eq⟩ := Option.map_eq_some_iff.mp jumped
    cases eq
    exact ⟨m, by rw [found]; rfl, agree⟩
  have stay {c : Cpu Bytes} (agree : Agree D c.bus m) (stayed : some (pc + 1, c) = some (pc', c')) :
      ∃ m', some (pc + 1, { c with bus := m }) = some (pc', { c' with bus := m' }) ∧
        Agree D c'.bus m' := by
    cases stayed
    exact ⟨m, rfl, agree⟩
  simp only [step] at stepped ⊢
  split at stepped
  · exact stay agree stepped
  · rename_i i there
    obtain ⟨d, ran, eq⟩ := Option.map_eq_some_iff.mp stepped
    cases eq
    obtain ⟨m', ran', agree'⟩ := exec_agree (apart i there) agree ran
    exact ⟨m', congrArg (Option.map _) ran', agree'⟩
  · exact jump agree stepped
  iterate 5
    · split at stepped
      · rename_i taken
        rw [if_pos taken]
        first | exact jump agree stepped | exact stay agree stepped
      · rename_i taken
        rw [if_neg taken]
        first | exact jump agree stepped | exact stay agree stepped
  · rename_i r n _
    have same : ({ c with bus := m } : Cpu Bytes).get r = c.get r := get_with ..
    simp only [same, set_onto]
    have agree' : Agree D (c.set r (c.get r - 1)).bus m := (set_bus c r _).symm ▸ agree
    split at stepped
    · rename_i taken
      rw [if_pos taken]
      exact stay agree' stepped
    · rename_i taken
      rw [if_neg taken]
      exact jump agree' stepped
  all_goals cases stepped

end Agree

/-! ## Runs -/

/-- A run in plain memory that touches no device. -/
inductive Plain (D : Devices) (code : List Line) :
    List Nat → Nat × Cpu Bytes → Nat × Cpu Bytes → Prop
  | done (s : Nat × Cpu Bytes) : Plain D code [] s s
  | step {pc pc' : Nat} {c c' : Cpu Bytes} {pcs : List Nat} {s : Nat × Cpu Bytes}
      (apart : ∀ i, code[pc]? = some (.instr i) → i.Apart D c)
      (stepped : Pdp11.step code (pc, c) = some (pc', c'))
      (rest : Plain D code pcs (pc', c') s) : Plain D code (pc :: pcs) (pc, c) s

/-- Instructions one after the other that touch no device. -/
def ApartBlock (D : Devices) : List Instr → Cpu Bytes → Prop
  | [], _ => True
  | i :: is, c => i.Apart D c ∧ ∀ c', i.exec c = some c' → ApartBlock D is c'

/-- The device answers: sooner or later the register shows a bit of the mask, for
as long as a turn of a polling loop takes. -/
def Answers (D : Devices) (reg mask : Word) : Prop :=
  ∀ t, ∃ t' ≥ t, ∀ i < 3, mask &&& word (D.regs (t' + i)) reg ≠ 0

section Runs
variable {D : Devices} {code : List Line} {pcs pcs' : List Nat}

theorem Live.trans {s t u : Nat × Nat × Cpu Bytes} (first : Live D code pcs s t)
    (rest : Live D code pcs' t u) : Live D code (pcs ++ pcs') s u := by
  induction first with
  | done => exact rest
  | step stepped _ ih => exact .step stepped (ih rest)

theorem Live.time {s t : Nat × Nat × Cpu Bytes} (live : Live D code pcs s t) :
    t.1 = s.1 + pcs.length := by
  induction live with
  | done => rfl
  | step _ _ ih =>
    rw [ih, List.length_cons]
    show _ + 1 + _ = _
    omega

theorem Plain.trans {s t u : Nat × Cpu Bytes} (first : Plain D code pcs s t)
    (rest : Plain D code pcs' t u) : Plain D code (pcs ++ pcs') s u := by
  induction first with
  | done => exact rest
  | step apart stepped _ ih => exact .step apart stepped (ih rest)

/-- A line that is no instruction, or one that touches no memory. -/
theorem Plain.one {pc pc' : Nat} {c c' : Cpu Bytes}
    (apart : ∀ i, code[pc]? = some (.instr i) → i.Apart D c)
    (stepped : Pdp11.step code (pc, c) = some (pc', c')) : Plain D code [pc] (pc, c) (pc', c') :=
  .step apart stepped (.done _)

/-- A line that is no instruction. -/
theorem Plain.jump {l : Line} {pc pc' : Nat} {c c' : Cpu Bytes} (there : code[pc]? = some l)
    (other : ∀ i, l ≠ .instr i) (stepped : Pdp11.step code (pc, c) = some (pc', c')) :
    Plain D code [pc] (pc, c) (pc', c') := by
  refine Plain.one (fun i there' => ?_) stepped
  cases there.symm.trans there'
  exact absurd rfl (other i)

theorem Plain.label {l pc : Nat} {c : Cpu Bytes} (there : code[pc]? = some (.label l)) :
    Plain D code [pc] (pc, c) (pc + 1, c) :=
  Plain.jump there (fun _ same => by cases same) (by simp only [Pdp11.step, there])

theorem ApartBlock.append {is js : List Instr} {c : Cpu Bytes} (first : ApartBlock D is c)
    (rest : ∀ c', execAll is c = some c' → ApartBlock D js c') : ApartBlock D (is ++ js) c := by
  induction is generalizing c with
  | nil => exact rest c rfl
  | cons i is ih => exact ⟨first.1, fun c₁ ran => ih (first.2 c₁ ran) fun c' later =>
      rest c' (execAll_cons ran later)⟩

theorem Plain.block {is : List Instr} {pc : Nat} {c c' : Cpu Bytes}
    (there : is.map .instr <+: code.drop pc) (ran : execAll is c = some c')
    (apart : ApartBlock D is c) :
    Plain D code (List.range' pc is.length) (pc, c) (pc + is.length, c') := by
  induction is generalizing pc c with
  | nil =>
    cases ran
    exact .done _
  | cons i is ih =>
    obtain ⟨c₁, first, rest⟩ := Option.bind_eq_some_iff.mp ran
    obtain ⟨after, text⟩ := there
    have here : code[pc]? = some (.instr i) := by
      rw [← List.head?_drop, ← text]
      rfl
    have later : is.map .instr <+: code.drop (pc + 1) := by
      refine ⟨after, ?_⟩
      rw [← List.tail_drop, ← text]
      rfl
    have length : pc + 1 + is.length = pc + (i :: is).length := by
      rw [List.length_cons]
      omega
    refine .step ?_ (step_instr here first) (length ▸ ih later rest (apart.2 c₁ first))
    intro j there
    cases here.symm.trans there
    exact apart.1

/-- Devices do not disturb it. -/
theorem Plain.live {s s' : Nat × Cpu Bytes} (clear : Plain D code pcs s s') {m : Bytes}
    (agree : Agree D s.2.bus m) (t : Nat) :
    ∃ m', Live D code pcs (t, s.1, { s.2 with bus := m })
      (t + pcs.length, s'.1, { s'.2 with bus := m' }) ∧ Agree D s'.2.bus m' := by
  induction clear generalizing m t with
  | done s => exact ⟨m, .done _, agree⟩
  | @step pc pc' c c' pcs s apart stepped _ ih =>
    have seen := agree.trans (agree_seen D t { c with bus := m })
    obtain ⟨m₁, stepped', agree₁⟩ := step_agree apart seen stepped
    obtain ⟨m', rest, agree'⟩ := ih agree₁ (t + 1)
    refine ⟨m', ?_, agree'⟩
    rw [List.length_cons, Nat.add_comm _ 1, ← Nat.add_assoc]
    exact .step stepped' rest

/-- A device register is tested. -/
theorem bit_seen {pc : Nat} {reg mask : Word}
    (there : code[pc]? = some (.instr (.bit (.imm mask) (.abs reg)))) (even : reg.toNat % 2 = 0)
    (device : D.has reg = true ∧ D.has (reg + 1) = true) (t : Nat) (c : Cpu Bytes) :
    step code (pc, D.seen t c) = some (pc + 1,
      { D.seen t c with flags := c.flags.move (mask &&& word (D.regs t) reg) }) := by
  have shown : Bus.read (D.seen t c).bus reg = some (word (D.regs t) reg) := by
    rw [read_bytes even]
    refine congrArg some (word_congr ?_ ?_)
    · exact if_pos device.1
    · exact if_pos device.2
  apply step_instr there
  simp only [Instr.exec, Operand.place, Place.read, shown, bind, Option.bind_some, pure]
  rfl

/-- One turn of a polling loop. -/
theorem poll_turn {l pc : Nat} {reg mask : Word}
    (there : [.label l, .instr (.bit (.imm mask) (.abs reg)), .beq l] <+: code.drop pc)
    (labelled : target code l = some pc) (even : reg.toNat % 2 = 0)
    (device : D.has reg = true ∧ D.has (reg + 1) = true) (t : Nat) (c : Cpu Bytes) :
    ∃ m, Agree D c.bus m ∧ Live D code [pc, pc + 1, pc + 2] (t, pc, c)
      (t + 3, if mask &&& word (D.regs (t + 1)) reg = 0 then pc else pc + 3,
        { c with flags := c.flags.move (mask &&& word (D.regs (t + 1)) reg), bus := m }) := by
  obtain ⟨after, text⟩ := there
  have line (k : Nat) : code[pc + k]? = (code.drop pc)[k]? := List.getElem?_drop.symm
  have label : code[pc]? = some (.label l) := by rw [← Nat.add_zero pc, line, ← text]; rfl
  have bit : code[pc + 1]? = some (.instr (.bit (.imm mask) (.abs reg))) := by
    rw [line, ← text]; rfl
  have beq : code[pc + 2]? = some (.beq l) := by rw [line, ← text]; rfl
  let w := word (D.regs (t + 1)) reg
  let c₂ : Cpu Bytes := { D.seen (t + 1) (D.seen t c) with flags := c.flags.move (mask &&& w) }
  have tested : step code (pc + 1, D.seen (t + 1) (D.seen t c)) = some (pc + 1 + 1, c₂) :=
    bit_seen bit even device (t + 1) (D.seen t c)
  refine ⟨(D.seen (t + 2) c₂).bus, ?_, ?_⟩
  · exact (agree_seen D t c).trans ((agree_seen D _ _).trans (agree_seen D (t + 2) c₂))
  · have passes : step code (pc, D.seen t c) = some (pc + 1, D.seen t c) := by
      simp only [step, label]
    refine .step passes (.step tested (.step ?_ (.done _)))
    · have zero : (D.seen (t + 2) c₂).flags.z = (mask &&& w == 0) := rfl
      simp only [step, beq, zero, labelled]
      by_cases none : mask &&& w = 0
      · rw [if_pos none, if_pos (beq_iff_eq.mpr none)]
        rfl
      · rw [if_neg none, if_neg (by simpa using none)]
        rfl

/-- A polling loop ends when the device answers. -/
theorem Live.poll {l pc : Nat} {reg mask : Word}
    (there : [.label l, .instr (.bit (.imm mask) (.abs reg)), .beq l] <+: code.drop pc)
    (labelled : target code l = some pc) (even : reg.toNat % 2 = 0)
    (device : D.has reg = true ∧ D.has (reg + 1) = true) (answers : Answers D reg mask)
    (t : Nat) (c : Cpu Bytes) :
    ∃ pcs t' w m, Live D code pcs (t, pc, c)
        (t', pc + 3, { c with flags := c.flags.move (mask &&& w), bus := m }) ∧
      mask &&& w ≠ 0 ∧ (∃ u ≥ t, u < t' ∧ w = word (D.regs u) reg) ∧
      (∀ p ∈ pcs, pc ≤ p ∧ p < pc + 3) ∧ Agree D c.bus m := by
  have turns : ∃ n, mask &&& word (D.regs (t + 3 * n + 1)) reg ≠ 0 := by
    obtain ⟨t', later, shown⟩ := answers t
    have within : t + 3 * ((t' - t + 1) / 3) + 1 - t' < 3 := by omega
    refine ⟨(t' - t + 1) / 3, ?_⟩
    have place : t' + (t + 3 * ((t' - t + 1) / 3) + 1 - t') = t + 3 * ((t' - t + 1) / 3) + 1 := by omega
    exact place ▸ shown _ within
  obtain ⟨n, shown⟩ := turns
  induction n generalizing t c with
  | zero =>
    obtain ⟨m, agree, turn⟩ := poll_turn there labelled even device t c
    have shown : mask &&& word (D.regs (t + 1)) reg ≠ 0 := shown
    rw [if_neg shown] at turn
    refine ⟨_, _, _, m, turn, shown, ⟨t + 1, by omega, by omega, rfl⟩, ?_, agree⟩
    intro p mem
    simp at mem
    omega
  | succ n ih =>
    obtain ⟨m, agree, turn⟩ := poll_turn there labelled even device t c
    by_cases zero : mask &&& word (D.regs (t + 1)) reg = 0
    · rw [if_pos zero] at turn
      have later : t + 3 * (n + 1) + 1 = t + 3 + 3 * n + 1 := by omega
      obtain ⟨pcs, t', w, m', rest, shown', ⟨u, late, early, found⟩, lines, agree'⟩ := ih (t + 3)
        { c with flags := c.flags.move (mask &&& word (D.regs (t + 1)) reg), bus := m }
        (later ▸ shown)
      rw [Flags.move_move] at rest
      refine ⟨_, t', w, m', turn.trans rest, shown', ⟨u, by omega, early, found⟩, ?_,
        agree.trans agree'⟩
      intro p mem
      rcases List.mem_append.mp mem with mem | mem
      · simp at mem
        omega
      · exact lines p mem
    · rw [if_neg zero] at turn
      refine ⟨_, _, _, m, turn, zero, ⟨t + 1, by omega, by omega, rfl⟩, ?_, agree⟩
      intro p mem
      simp at mem
      omega

end Runs

/-- A run that passes a line once. `P` says what happens there. -/
structure Once (D : Devices) (code : List Line) (l : Nat) (P : Nat → Cpu Bytes → Cpu Bytes → Prop)
    (pcs : List Nat) (s s' : Nat × Nat × Cpu Bytes) : Prop where
  once : pcs.count l = 1
  there : ∃ before after u d d', pcs = before ++ l :: after ∧ Live D code before s (u, l, d) ∧
    Live D code (l :: after) (u, l, d) s' ∧
    Pdp11.step code (l, D.seen u d) = some (l + 1, d') ∧ P u d d'

theorem Live.once {D : Devices} {code : List Line} {l u : Nat} {before after : List Nat}
    {P : Nat → Cpu Bytes → Cpu Bytes → Prop} {s s' : Nat × Nat × Cpu Bytes} {d d' : Cpu Bytes}
    (first : Live D code before s (u, l, d))
    (stepped : Pdp11.step code (l, D.seen u d) = some (l + 1, d'))
    (rest : Live D code after (u + 1, l + 1, d') s') (fresh : l ∉ before ∧ l ∉ after)
    (moved : P u d d') : Live D code (before ++ l :: after) s s' ∧
      Once D code l P (before ++ l :: after) s s' := by
  have onward : Live D code (l :: after) (u, l, d) s' := .step stepped rest
  refine ⟨first.trans onward, ?_, before, after, u, d, d', rfl, first, onward, stepped, moved⟩
  rw [List.count_append, List.count_eq_zero_of_not_mem fresh.1, List.count_cons_self,
    List.count_eq_zero_of_not_mem fresh.2]

end Muxx.Pdp11
