import Muxx.Decimals
import Muxx.Hexadecimals

/-!
# kprintf

The scan of kprintf.c over a format in memory, with the console routines of
muxx_kconio.s:

* `Poll`, `kconputch`: how the console takes a character;
* `PRINTF`: the loop, with the addresses it reads the format at;
* `Piece`, `pieces`, `render`: what a format asks for;
* `body_prints`: one turn of the loop prints one piece;
* `kprintf_prints_iff`: the formats that are read to their end and no further;
* `kprintf_returns`: kprintf on a console that does not answer.
-/

namespace Muxx

open Pdp11

/-- The console takes a character in time, or is not ready for it in time, or
not ready again after it. -/
inductive Poll
  | ready
  | late
  | stuck
  deriving DecidableEq

structure Console where
  sent : List Byte := []
  calls : Nat := 0

/-- The conversions, by their letters. -/
inductive Conv
  | c | s | o | O | d | l | x
  deriving DecidableEq

def conversions : List (Byte × Conv) := [
  (0x63, .c), (0x73, .s), (0x6F, .o), (0x4F, .O), (0x64, .d), (0x6C, .l), (0x78, .x), (0x58, .x)]

/-- The text of a conversion of words: of itoo, itool, itods, itodl and itoh, as
far as it is printed. -/
def Conv.digits (k : Conv) (first second : WORD) : List Byte :=
  match k with
  | .o => numeral 8 6 first.toNat
  | .O => numeral 8 11 (itoolValue first second)
  | .d => signedText first
  | .l => numeral 10 9 (itodlValue first second)
  | .x => spell hexDigit 16 4 first.toNat
  | .c | .s => []

/-- How many words of the argument list a conversion takes. -/
def Conv.words : Conv → Nat
  | .O | .l => 2
  | _ => 1

/-- The variables of kprintf. `taken` counts the words of `arglist`, and `reads`
has the addresses that the format was read at. -/
structure Scan where
  chr : ADDRESS
  taken : Nat := 0
  numc : WORD := 0
  rc : WORD := 0
  con : Console := {}
  reads : List ADDRESS := []

inductive Turn
  | next (s : Scan)
  | ret (rc : WORD) (s : Scan)

/-! ## The console -/

section Code
variable (m : Bytes) (args : Nat → WORD) (polls : Nat → Poll)

def kconputch (con : Console) (b : Byte) : WORD × Console :=
  match polls con.calls with
  | .ready => (0, ⟨con.sent ++ [b], con.calls + 1⟩)
  | .late => (1, ⟨con.sent, con.calls + 1⟩)
  | .stuck => (1, ⟨con.sent ++ [b], con.calls + 1⟩)

/-- The status is that of the last character. No text of kprintf is empty. -/
def kputstr (con : Console) : List Byte → WORD × Console
  | [] => (0, con)
  | [b] => kconputch polls con b
  | b :: text => kputstr (kconputch polls con b).2 text

/-- The NUL is left in r0. -/
def kputstrz : Nat → Console → ADDRESS → Option (WORD × Console)
  | 0, _, _ => none
  | fuel + 1, con, s =>
    if m s = 0 then some (0, con)
    else kputstrz fuel (kconputch polls con (m s)).2 (s + 1)

/-! ## The scan -/

namespace Scan

def fetch (s : Scan) : Scan := { s with reads := s.reads ++ [s.chr] }

/-- `*chr++`. -/
def advance (s : Scan) : Scan := { s.fetch with chr := s.chr + 1 }

/-- What follows a PUTSTR. -/
def add (s : Scan) : Turn :=
  if s.rc.msb then .ret s.rc s else .next { s with numc := s.numc + s.rc }

/-- What follows the PUTC of a character of the format. -/
def putc (s : Scan) (b : Byte) : Turn :=
  let r := kconputch polls s.con b
  let s := { s with rc := r.1, con := r.2 }
  if s.rc = 0 then .next { s with numc := s.numc + 1 } else .ret s.rc s

def newline (s : Scan) : Turn :=
  let r := kputstr polls s.con [0x0D, 0x0A]
  let s := { s with rc := r.1, con := r.2 }
  if s.rc = 0 then .next { s with numc := s.numc + 2 } else .ret s.rc s

/-- The status of `%d` is dropped. -/
def convert (fuel : Nat) (s : Scan) (k : Conv) : Option Turn :=
  let first := args s.taken
  let second := args (s.taken + 1)
  let s := { s with taken := s.taken + k.words }
  match k with
  | .c =>
    let r := kconputch polls s.con (first.setWidth 8)
    some (.next { s with rc := r.1, con := r.2, numc := if r.1 = 0 then s.numc + 1 else s.numc })
  | .s => (kputstrz m polls fuel s.con first).map fun r => add { s with rc := r.1, con := r.2 }
  | .d =>
    let r := kputstr polls s.con (k.digits first second)
    some (add { s with con := r.2 })
  | .o | .O | .l | .x =>
    let r := kputstr polls s.con (k.digits first second)
    some (add { s with rc := r.1, con := r.2 })

/-- The body of the loop, for a character that is not NUL. -/
def body (fuel : Nat) (s : Scan) : Option Turn :=
  let c := m s.chr
  let s := s.advance
  if c = 0x25 then
    let directive := m s.chr
    let s := s.advance
    match conversions.lookup directive with
    | some k => s.convert m args polls fuel k
    | none => some (s.putc polls 0x25)
  else if c = 0x0A then some (s.newline polls)
  else some (s.putc polls c)

end Scan

def PRINTF : Nat → Scan → Option (WORD × Scan)
  | 0, _ => none
  | fuel + 1, s =>
    if m s.chr = 0 then some (s.numc, s.fetch)
    else do
      match ← s.fetch.body m args polls fuel with
      | .next s => PRINTF fuel s
      | .ret rc s => some (rc, s)

def kprintf (fuel : Nat) (fmt : ADDRESS) : Option (WORD × Scan) :=
  PRINTF m args polls fuel { chr := fmt }

end Code

/-! ## Formats -/

/-- A part of a format. A `%` before a letter that is no conversion is printed, and
the letter is not. -/
inductive Piece
  | char (b : Byte)
  | newline
  | percent
  | conv (k : Conv)

def directive (d : Byte) : Piece :=
  match conversions.lookup d with
  | some k => .conv k
  | none => .percent

def literal (b : Byte) : Piece := if b = 0x0A then .newline else .char b

def pieces : List Byte → List Piece
  | [] => []
  | [b] => [if b = 0x25 then .percent else literal b]
  | b :: d :: text =>
    if b = 0x25 then directive d :: pieces text else literal b :: pieces (d :: text)

/-- The format does not end in the `%` of a directive. -/
def EndsWhole : List Byte → Prop
  | [] => True
  | [b] => b ≠ 0x25
  | b :: d :: text => if b = 0x25 then EndsWhole text else EndsWhole (d :: text)

/-- The string at `p`, as far as `n` bytes. -/
def cstring (m : Bytes) (p : ADDRESS) : Nat → List Byte
  | 0 => []
  | n + 1 => if m p = 0 then [] else m p :: cstring m (p + 1) n

/-- Memory holds a text and a NUL after it. -/
def Terminated (m : Bytes) (p : ADDRESS) : List Byte → Prop
  | [] => m p = 0
  | b :: text => m p = b ∧ b ≠ 0 ∧ Terminated m (p + 1) text

instance Terminated.decidable (m : Bytes) : ∀ p text, Decidable (Terminated m p text)
  | p, [] => inferInstanceAs (Decidable (m p = 0))
  | p, _ :: text =>
    have := Terminated.decidable m (p + 1) text
    inferInstanceAs (Decidable (_ ∧ _ ∧ _))

namespace Piece

def words : Piece → Nat
  | .conv k => k.words
  | _ => 0

/-- The characters that are counted in the result: not those of a text. -/
def counted : Piece → WORD
  | .char _ | .percent | .conv .c => 1
  | .newline => 2
  | .conv _ => 0

def text (m : Bytes) (args : Nat → WORD) (i : Nat) : Piece → List Byte
  | .char b => [b]
  | .newline => [0x0D, 0x0A]
  | .percent => [0x25]
  | .conv .c => [(args i).setWidth 8]
  | .conv .s => cstring m (args i) 65536
  | .conv k => k.digits (args i) (args (i + 1))

end Piece

/-- What the pieces print, with arguments from number `i` on. -/
def render (m : Bytes) (args : Nat → WORD) : Nat → List Piece → List Byte
  | _, [] => []
  | i, p :: ps => p.text m args i ++ render m args (i + p.words) ps

/-! ## The console takes a text -/

section Proofs
variable {m : Bytes} {args : Nat → WORD} {polls : Nat → Poll}

/-- A text went to the console: all of it when the console is ready in time,
parts of it in any case. -/
structure Sends (polls : Nat → Poll) (con : Console) (text : List Byte) (r : WORD × Console) :
    Prop where
  sent : ∃ l, r.2.sent = con.sent ++ l ∧ l.Sublist text
  status : r.1 = 0 ∨ r.1 = 1
  ready : (∀ n, polls n = .ready) → r.2.sent = con.sent ++ text ∧ r.1 = 0

theorem kconputch_sends (con : Console) (b : Byte) :
    Sends polls con [b] (kconputch polls con b) := by
  unfold kconputch
  split
  · exact ⟨⟨[b], rfl, .refl _⟩, .inl rfl, fun _ => ⟨rfl, rfl⟩⟩
  · rename_i late
    refine ⟨⟨[], (List.append_nil _).symm, List.nil_sublist _⟩, .inr rfl, fun ready => ?_⟩
    rw [ready] at late
    cases late
  · rename_i stuck
    refine ⟨⟨[b], rfl, .refl _⟩, .inr rfl, fun ready => ?_⟩
    rw [ready] at stuck
    cases stuck

theorem Sends.cons {con : Console} {b : Byte} {text : List Byte} {r r' : WORD × Console}
    (first : Sends polls con [b] r) (rest : Sends polls r.2 text r') :
    Sends polls con (b :: text) r' := by
  obtain ⟨l, sent, sub⟩ := first.sent
  obtain ⟨l', sent', sub'⟩ := rest.sent
  refine ⟨⟨l ++ l', ?_, sub.append sub'⟩, rest.status, fun ready => ?_⟩
  · rw [sent', sent, List.append_assoc]
  · rw [(rest.ready ready).1, (first.ready ready).1, List.append_assoc]
    exact ⟨rfl, (rest.ready ready).2⟩

theorem kputstr_sends (con : Console) (text : List Byte) :
    Sends polls con text (kputstr polls con text) := by
  fun_induction kputstr polls con text with
  | case1 con => exact ⟨⟨[], (List.append_nil _).symm, .refl _⟩, .inl rfl,
      fun _ => ⟨(List.append_nil _).symm, rfl⟩⟩
  | case2 con b => exact kconputch_sends con b
  | case3 con b text _ ih => exact (kconputch_sends con b).cons ih

theorem next_place (p : ADDRESS) (n : Nat) :
    p + 1 + BitVec.ofNat 16 n = p + BitVec.ofNat 16 (n + 1) := by
  rw [BitVec.ofNat_add n 1, BitVec.add_assoc, BitVec.add_comm 1]
  rfl

/-- By induction on the way to the first NUL. -/
theorem kputstrz_sends {n : Nat} (con : Console) (p : ADDRESS)
    (nul : ∃ i ≤ n, m (p + BitVec.ofNat 16 i) = 0) {fuel : Nat} (enough : n < fuel) :
    ∃ r, kputstrz m polls fuel con p = some r ∧ Sends polls con (cstring m p (n + 1)) r := by
  induction n generalizing con p fuel with
  | zero =>
    obtain ⟨i, none, zero⟩ := nul
    have here : m p = 0 := by
      rw [Nat.le_zero.mp none] at zero
      exact (congrArg m (BitVec.add_zero p)).symm.trans zero
    obtain ⟨fuel, rfl⟩ := Nat.exists_eq_succ_of_ne_zero (Nat.ne_zero_of_lt enough)
    rw [kputstrz, if_pos here, cstring, if_pos here]
    exact ⟨_, rfl, kputstr_sends con []⟩
  | succ n ih =>
    obtain ⟨fuel, rfl⟩ := Nat.exists_eq_succ_of_ne_zero (Nat.ne_zero_of_lt enough)
    rw [kputstrz, cstring]
    by_cases here : m p = 0
    · rw [if_pos here, if_pos here]
      exact ⟨_, rfl, kputstr_sends con []⟩
    · rw [if_neg here, if_neg here]
      have later : ∃ i ≤ n, m (p + 1 + BitVec.ofNat 16 i) = 0 := by
        obtain ⟨i, within, zero⟩ := nul
        cases i with
        | zero => exact absurd ((congrArg m (BitVec.add_zero p)).symm.trans zero) here
        | succ i =>
          refine ⟨i, by omega, ?_⟩
          rw [next_place, zero]
      have fewer : n < fuel := by omega
      obtain ⟨r, ran, sends⟩ := ih (kconputch polls con (m p)).2 (p + 1) later fewer
      exact ⟨r, ran, (kconputch_sends con (m p)).cons sends⟩

/-- Where there is a NUL, every string ends. -/
theorem kputstrz_ends {a : ADDRESS} (nul : m a = 0) (con : Console) (p : ADDRESS) {fuel : Nat}
    (enough : 65536 ≤ fuel) :
    ∃ r, kputstrz m polls fuel con p = some r ∧ Sends polls con (cstring m p 65536) r := by
  refine kputstrz_sends (n := 65535) con p ⟨(a - p).toNat, ?_, ?_⟩ (by omega)
  · have := (a - p).isLt
    omega
  · rw [BitVec.ofNat_toNat, BitVec.setWidth_eq, BitVec.add_comm, BitVec.sub_add_cancel]
    exact nul

/-! ## A turn of the loop -/

def Turn.scan : Turn → Scan
  | .next s => s
  | .ret _ s => s

/-- A turn prints a piece. It ends the loop only when the console was not ready. -/
structure Prints (m : Bytes) (args : Nat → WORD) (polls : Nat → Poll) (s : Scan) (p : Piece)
    (t : Turn) : Prop where
  chr : t.scan.chr = s.chr
  reads : t.scan.reads = s.reads
  taken : t.scan.taken = s.taken + p.words
  sent : ∃ l, t.scan.con.sent = s.con.sent ++ l ∧ l.Sublist (p.text m args s.taken)
  rc : t.scan.rc = 0 ∨ t.scan.rc = 1
  ret : ∀ rc s', t = .ret rc s' → rc = 1
  ready : (∀ n, polls n = .ready) → s.rc = 0 → ∃ s', t = .next s' ∧
    s'.con.sent = s.con.sent ++ p.text m args s.taken ∧ s'.rc = 0 ∧ s'.numc = s.numc + p.counted

theorem add_next {s : Scan} (small : s.rc = 0 ∨ s.rc = 1) :
    s.add = .next { s with numc := s.numc + s.rc } := by
  have nonneg : s.rc.msb = false := by
    rcases small with zero | one
    · rw [zero]; rfl
    · rw [one]; rfl
  rw [Scan.add, nonneg]
  rfl

/-- A turn that puts a text and counts it unless the console was not ready. -/
theorem prints_counting {s : Scan} {p : Piece} {r : WORD × Console} (words : p.words = 0)
    (sends : Sends polls s.con (p.text m args s.taken) r) :
    Prints m args polls s p (if r.1 = 0 then
      .next { s with rc := r.1, con := r.2, numc := s.numc + p.counted }
      else .ret r.1 { s with rc := r.1, con := r.2 }) := by
  by_cases zero : r.1 = 0
  · rw [if_pos zero]
    exact ⟨rfl, rfl, by rw [words]; rfl, sends.sent, sends.status, (fun _ _ same => by cases same),
      fun ready _ => ⟨_, rfl, (sends.ready ready).1, zero, rfl⟩⟩
  · rw [if_neg zero]
    refine ⟨rfl, rfl, by rw [words]; rfl, sends.sent, sends.status, ?_,
      fun ready _ => absurd (sends.ready ready).2 zero⟩
    rintro rc s' same
    cases same
    exact sends.status.resolve_left zero

theorem prints_literal (s : Scan) (b : Byte) : Prints m args polls s (literal b)
    (if b = 0x0A then s.newline polls else s.putc polls b) := by
  unfold literal
  split
  · exact prints_counting rfl (kputstr_sends s.con [0x0D, 0x0A])
  · exact prints_counting (p := .char b) rfl (kconputch_sends s.con b)

/-- A turn that puts the text of a conversion. -/
theorem prints_adding {s : Scan} {k : Conv} {r : WORD × Console} {rc : WORD}
    (sends : Sends polls s.con ((Piece.conv k).text m args s.taken) r)
    (counted : (Piece.conv k).counted = 0) (status : rc = 0 ∨ rc = 1)
    (ready : (∀ n, polls n = .ready) → s.rc = 0 → rc = 0) :
    Prints m args polls s (.conv k)
      (Scan.add { s with taken := s.taken + k.words, rc := rc, con := r.2 }) := by
  rw [add_next status]
  refine ⟨rfl, rfl, rfl, sends.sent, status, (fun _ _ same => by cases same), fun answers before => ?_⟩
  have zero := ready answers before
  refine ⟨_, rfl, (sends.ready answers).1, zero, ?_⟩
  rw [counted, zero]

/-- The conversions whose status is kept. -/
theorem convert_digits (s : Scan) (fuel : Nat) {k : Conv}
    (plain : k = .o ∨ k = .O ∨ k = .l ∨ k = .x) :
    s.convert m args polls fuel k = some (Scan.add { s with
      taken := s.taken + k.words
      rc := (kputstr polls s.con (k.digits (args s.taken) (args (s.taken + 1)))).1
      con := (kputstr polls s.con (k.digits (args s.taken) (args (s.taken + 1)))).2 }) := by
  rcases plain with rfl | rfl | rfl | rfl <;> rfl

theorem convert_prints {a : ADDRESS} (nul : m a = 0) {fuel : Nat} (enough : 65536 ≤ fuel)
    {s : Scan} (small : s.rc = 0 ∨ s.rc = 1) (k : Conv) :
    ∃ t, s.convert m args polls fuel k = some t ∧ Prints m args polls s (.conv k) t := by
  have digits : Sends polls s.con (k.digits (args s.taken) (args (s.taken + 1)))
      (kputstr polls s.con (k.digits (args s.taken) (args (s.taken + 1)))) := kputstr_sends ..
  cases k with
  | c =>
    have sends := @kconputch_sends polls s.con ((args s.taken).setWidth 8)
    refine ⟨_, rfl, rfl, rfl, rfl, sends.sent, sends.status, (fun _ _ same => by cases same), fun ready _ => ?_⟩
    refine ⟨_, rfl, (sends.ready ready).1, (sends.ready ready).2, ?_⟩
    exact if_pos (sends.ready ready).2
  | s =>
    obtain ⟨r, ran, sends⟩ := @kputstrz_ends m polls a nul s.con (args s.taken) fuel enough
    refine ⟨_, ?_, prints_adding sends rfl sends.status fun ready _ => (sends.ready ready).2⟩
    rw [Scan.convert, ran]
    rfl
  | d => exact ⟨_, rfl, prints_adding digits rfl small fun _ zero => zero⟩
  | o | O | l | x =>
    exact ⟨_, rfl, prints_adding digits rfl digits.status fun ready _ => (digits.ready ready).2⟩

/-- A turn of the loop at a literal character. -/
theorem body_literal {b : Byte} {s : Scan} {fuel : Nat} (here : m s.chr = b) (plain : b ≠ 0x25) :
    ∃ t, s.body m args polls fuel = some t ∧ Prints m args polls s.advance (literal b) t := by
  refine ⟨_, ?_, prints_literal s.advance b⟩
  rw [Scan.body, here, if_neg plain]
  split <;> rfl

theorem body_percent {s : Scan} (here : m s.chr = 0x25) (fuel : Nat) :
    s.body m args polls fuel = match conversions.lookup (m (s.chr + 1)) with
      | some k => s.advance.advance.convert m args polls fuel k
      | none => some (s.advance.advance.putc polls 0x25) := by
  rw [Scan.body, here, if_pos rfl]
  rfl

/-- A turn of the loop at a directive, whatever its letter is. -/
theorem body_directive {a : ADDRESS} (nul : m a = 0) {fuel : Nat} (enough : 65536 ≤ fuel)
    {s : Scan} (here : m s.chr = 0x25) (small : s.rc = 0 ∨ s.rc = 1) :
    ∃ t, s.body m args polls fuel = some t ∧
      Prints m args polls s.advance.advance (directive (m (s.chr + 1))) t := by
  rw [body_percent here, directive]
  cases conversions.lookup (m (s.chr + 1)) with
  | some k => exact convert_prints (s := s.advance.advance) nul enough small k
  | none => exact ⟨_, rfl, prints_counting rfl (kconputch_sends _ 0x25)⟩

/-! ## The whole format -/

/-- What the loop does from a place in the format on. -/
structure Renders (m : Bytes) (args : Nat → WORD) (polls : Nat → Poll) (s : Scan)
    (text : List Byte) (rc : WORD) (s' : Scan) : Prop where
  reads : ∀ a ∈ s'.reads, a ∈ s.reads ∨ (a - s.chr).toNat ≤ text.length
  sent : ∃ l, s'.con.sent = s.con.sent ++ l ∧ l.Sublist (render m args s.taken (pieces text))
  cut : rc = 1 ∨ s'.taken = s.taken + ((pieces text).map Piece.words).sum
  ready : (∀ n, polls n = .ready) → s.rc = 0 →
    s'.con.sent = s.con.sent ++ render m args s.taken (pieces text) ∧
    s'.taken = s.taken + ((pieces text).map Piece.words).sum ∧
    rc = s.numc + ((pieces text).map Piece.counted).sum

/-- After the first `w` characters: their piece is not printed yet. -/
structure Passed (s : Scan) (w : Nat) (s₀ : Scan) : Prop where
  chr : s₀.chr = s.chr + BitVec.ofNat 16 w
  reads : ∀ a ∈ s₀.reads, a ∈ s.reads ∨ (a - s.chr).toNat ≤ w
  taken : s₀.taken = s.taken
  numc : s₀.numc = s.numc
  rc : s₀.rc = s.rc
  con : s₀.con = s.con

theorem passed_one (s : Scan) : Passed s 1 s.fetch.advance := by
  refine ⟨rfl, ?_, rfl, rfl, rfl, rfl⟩
  intro a mem
  have here (same : a = s.chr) : a ∈ s.reads ∨ (a - s.chr).toNat ≤ 1 := by
    rw [same, BitVec.sub_self]
    exact .inr (Nat.zero_le _)
  simp only [Scan.advance, Scan.fetch, List.mem_append, List.mem_singleton] at mem
  rcases mem with (before | same) | same
  · exact .inl before
  · exact here same
  · exact here same

theorem passed_two (s : Scan) : Passed s 2 s.fetch.advance.advance := by
  obtain ⟨-, reads, -⟩ := passed_one s
  refine ⟨?_, ?_, rfl, rfl, rfl, rfl⟩
  · show s.chr + 1 + 1 = s.chr + 2
    rw [BitVec.add_assoc]
    rfl
  · intro a mem
    rcases List.mem_append.mp mem with before | here
    · exact (reads a before).imp_right fun h => h.trans (by decide)
    · refine .inr ?_
      rw [List.mem_singleton.mp here]
      show (s.chr + 1 - s.chr).toNat ≤ 2
      rw [BitVec.add_comm, BitVec.add_sub_cancel]
      decide

/-- One piece, and then the rest of the format. -/
theorem renders_step {s s₀ : Scan} {text rest : List Byte} {p : Piece} {w fuel : Nat} {t : Turn}
    (length : text.length = w + rest.length) (split : pieces text = p :: pieces rest)
    (passed : Passed s w s₀) (more : m s.chr ≠ 0) (ran : s.fetch.body m args polls fuel = some t)
    (turned : Prints m args polls s₀ p t)
    (later : ∀ s₁, t = .next s₁ → ∃ rc s', PRINTF m args polls fuel s₁ = some (rc, s') ∧
      Renders m args polls s₁ rest rc s') :
    ∃ rc s', PRINTF m args polls (fuel + 1) s = some (rc, s') ∧
      Renders m args polls s text rc s' := by
  obtain ⟨chr₀, reads₀, taken₀, numc₀, rc₀, con₀⟩ := passed
  obtain ⟨chr, reads, taken, ⟨l, sent, sub⟩, -, ret, ready⟩ := turned
  rw [taken₀] at taken sub
  rw [con₀] at sent
  rw [PRINTF, if_neg more, ran]
  cases t with
  | ret rc s₁ =>
    refine ⟨rc, s₁, rfl, ?_, ⟨l, sent, ?_⟩, .inl (ret rc s₁ rfl), ?_⟩
    · intro a mem
      refine (reads₀ a (reads ▸ mem)).imp_right fun near => near.trans ?_
      omega
    · rw [split]
      exact sub.trans (List.sublist_append_left _ _)
    · intro answers before
      obtain ⟨s', next, -⟩ := ready answers (rc₀.trans before)
      cases next
  | next s₁ =>
    obtain ⟨rc, s', ends, reads', ⟨l', sent', sub'⟩, cut, ready'⟩ := later s₁ rfl
    have taken : s₁.taken = s.taken + p.words := taken
    rw [taken] at sub' cut ready'
    refine ⟨rc, s', ends, ?_, ⟨l ++ l', ?_, ?_⟩, ?_, ?_⟩
    · intro a mem
      rcases reads' a mem with before | near
      · refine (reads₀ a (reads ▸ before)).imp_right fun near => near.trans ?_
        omega
      · right
        have place : s₁.chr = s.chr + BitVec.ofNat 16 w := chr.trans chr₀
        have apart : a - s.chr = a - s₁.chr + BitVec.ofNat 16 w := by
          rw [place]
          ring
        rw [apart, BitVec.toNat_add, BitVec.toNat_ofNat]
        have := Nat.mod_le w (2 ^ 16)
        exact (Nat.mod_le _ _).trans (by omega)
    · rw [sent', ← List.append_assoc, ← sent]
      rfl
    · rw [split]
      exact sub.append sub'
    · rw [split, List.map_cons, List.sum_cons, ← Nat.add_assoc]
      exact cut
    · intro answers before
      obtain ⟨s₂, same, sent₂, rc₂, numc₂⟩ := ready answers (rc₀.trans before)
      cases same
      obtain ⟨all, words, count⟩ := ready' answers rc₂
      rw [split]
      refine ⟨?_, ?_, ?_⟩
      · rw [all, sent₂, taken₀, con₀, List.append_assoc]
        rfl
      · rw [words, List.map_cons, List.sum_cons, Nat.add_assoc]
      · rw [count, numc₂, numc₀, List.map_cons, List.sum_cons, BitVec.add_assoc]

theorem renders_nil {s : Scan} (ended : m s.chr = 0) {fuel : Nat} (enough : 0 < fuel) :
    ∃ rc s', PRINTF m args polls fuel s = some (rc, s') ∧ Renders m args polls s [] rc s' := by
  obtain ⟨fuel, rfl⟩ := Nat.exists_eq_succ_of_ne_zero enough.ne'
  rw [PRINTF, if_pos ended]
  refine ⟨_, _, rfl, ?_, ⟨[], (List.append_nil _).symm, .refl _⟩, .inr rfl, ?_⟩
  · intro a mem
    refine (List.mem_append.mp mem).imp_right fun here => ?_
    rw [List.mem_singleton.mp here, BitVec.sub_self]
    exact le_rfl
  · exact fun _ _ => ⟨(List.append_nil _).symm, rfl, (BitVec.add_zero _).symm⟩

theorem pieces_literal {b : Byte} (plain : b ≠ 0x25) (text : List Byte) :
    pieces (b :: text) = literal b :: pieces text := by
  cases text with
  | nil =>
    show [if b = 0x25 then _ else literal b] = [literal b]
    rw [if_neg plain]
  | cons d text => rw [pieces, if_neg plain]

theorem endsWhole_literal {b : Byte} (plain : b ≠ 0x25) (text : List Byte) :
    EndsWhole (b :: text) ↔ EndsWhole text := by
  cases text with
  | nil => exact ⟨fun _ => trivial, fun _ => plain⟩
  | cons d text => rw [EndsWhole, if_neg plain]

theorem renders_literal {s : Scan} {b : Byte} {rest : List Byte} {fuel : Nat}
    (there : Terminated m s.chr (b :: rest)) (plain : b ≠ 0x25)
    (later : ∀ s₁ : Scan, s₁.chr = s.chr + 1 → (s₁.rc = 0 ∨ s₁.rc = 1) →
      ∃ rc s', PRINTF m args polls fuel s₁ = some (rc, s') ∧ Renders m args polls s₁ rest rc s') :
    ∃ rc s', PRINTF m args polls (fuel + 1) s = some (rc, s') ∧
      Renders m args polls s (b :: rest) rc s' := by
  obtain ⟨here, nonzero, -⟩ := there
  obtain ⟨t, ran, turned⟩ := @body_literal m args polls b s.fetch fuel here plain
  refine renders_step (Nat.add_comm _ _) (pieces_literal plain rest) (passed_one s)
    (here ▸ nonzero) ran turned ?_
  rintro s₁ rfl
  exact later s₁ turned.chr turned.rc

theorem renders_directive {z : ADDRESS} (nul : m z = 0) {s : Scan} {d : Byte} {rest : List Byte}
    {fuel : Nat} (there : Terminated m s.chr (0x25 :: d :: rest)) (small : s.rc = 0 ∨ s.rc = 1)
    (enough : 65536 ≤ fuel) (later : ∀ s₁ : Scan, s₁.chr = s.chr + 1 + 1 → (s₁.rc = 0 ∨ s₁.rc = 1) →
      ∃ rc s', PRINTF m args polls fuel s₁ = some (rc, s') ∧ Renders m args polls s₁ rest rc s') :
    ∃ rc s', PRINTF m args polls (fuel + 1) s = some (rc, s') ∧
      Renders m args polls s (0x25 :: d :: rest) rc s' := by
  obtain ⟨here, nonzero, letter, -⟩ := there
  have split : pieces (0x25 :: d :: rest) = directive d :: pieces rest := by rw [pieces, if_pos rfl]
  obtain ⟨t, ran, turned⟩ := @body_directive m args polls z nul fuel enough s.fetch here small
  rw [show m (s.fetch.chr + 1) = d from letter] at turned
  refine renders_step (Nat.add_comm _ 2) split (passed_two s) (here ▸ nonzero) ran turned ?_
  rintro s₁ rfl
  exact later s₁ turned.chr turned.rc

/-- By induction on the format, as it is cut into pieces. -/
theorem PRINTF_renders {z : ADDRESS} (nul : m z = 0) {text : List Byte} {s : Scan} {fuel : Nat}
    (there : Terminated m s.chr text) (complete : EndsWhole text) (small : s.rc = 0 ∨ s.rc = 1)
    (enough : text.length + 65537 ≤ fuel) :
    ∃ rc s', PRINTF m args polls fuel s = some (rc, s') ∧ Renders m args polls s text rc s' := by
  induction text using pieces.induct generalizing s fuel with
  | case1 => exact renders_nil there (by omega)
  | case2 b =>
    obtain ⟨fuel, rfl⟩ : ∃ n, fuel = n + 1 := ⟨fuel - 1, by omega⟩
    refine renders_literal there complete fun s₁ chr _ => renders_nil ?_ (by omega)
    rw [chr]
    exact there.2.2
  | case3 d text ih =>
    rw [List.length_cons, List.length_cons] at enough
    obtain ⟨fuel, rfl⟩ : ∃ n, fuel = n + 1 := ⟨fuel - 1, by omega⟩
    refine renders_directive nul there small (by omega) fun s₁ chr small₁ => ?_
    refine ih ?_ ?_ small₁ (by omega)
    · rw [chr]
      exact there.2.2.2.2
    · simpa [EndsWhole] using complete
  | case4 b d text plain ih =>
    rw [List.length_cons] at enough
    obtain ⟨fuel, rfl⟩ : ∃ n, fuel = n + 1 := ⟨fuel - 1, by omega⟩
    refine renders_literal there plain fun s₁ chr small₁ => ?_
    refine ih ?_ ((endsWhole_literal plain _).mp complete) small₁ (by omega)
    rw [chr]
    exact there.2.2

/-! ## Past the NUL -/

theorem add_reads (s : Scan) : s.add.scan.reads = s.reads := by
  unfold Scan.add
  split <;> rfl

theorem convert_reads {s : Scan} {fuel : Nat} {k : Conv} {t : Turn}
    (ran : s.convert m args polls fuel k = some t) : t.scan.reads = s.reads := by
  cases k with
  | s =>
    obtain ⟨r, -, rfl⟩ := Option.map_eq_some_iff.mp ran
    exact add_reads _
  | c => cases ran; rfl
  | d | o | O | l | x => cases ran; exact add_reads _

theorem body_reads {s : Scan} {fuel : Nat} {t : Turn} (ran : s.body m args polls fuel = some t)
    {a : ADDRESS} (read : a ∈ s.reads) : a ∈ t.scan.reads := by
  have one : a ∈ s.advance.reads := List.mem_append_left _ read
  have two : a ∈ s.advance.advance.reads := List.mem_append_left _ one
  by_cases here : m s.chr = 0x25
  · rw [body_percent here] at ran
    split at ran
    · rw [convert_reads ran]
      exact two
    · have printed : Prints m args polls s.advance.advance .percent _ :=
        prints_counting rfl (kconputch_sends s.advance.advance.con 0x25)
      cases ran
      exact printed.reads ▸ two
  · obtain ⟨t', ran', printed⟩ := @body_literal m args polls _ s fuel rfl here
    cases ran.symm.trans ran'
    exact printed.reads ▸ one

theorem PRINTF_reads {fuel : Nat} {s s' : Scan} {rc : WORD}
    (ends : PRINTF m args polls fuel s = some (rc, s')) {a : ADDRESS}
    (read : a ∈ s.reads ∨ a = s.chr) : a ∈ s'.reads := by
  induction fuel generalizing s with
  | zero => cases ends
  | succ fuel ih =>
    have fetched : a ∈ s.fetch.reads := by
      rcases read with before | here
      · exact List.mem_append_left _ before
      · exact List.mem_append_right _ (List.mem_singleton.mpr here)
    rw [PRINTF] at ends
    split at ends
    · cases ends
      exact fetched
    · obtain ⟨t, ran, rest⟩ := Option.bind_eq_some_iff.mp ends
      have kept := body_reads ran fetched
      cases t with
      | next s₁ => exact ih rest (.inl kept)
      | ret rc s₁ => cases rest; exact kept

theorem kputstrz_status {fuel : Nat} {con : Console} {p : ADDRESS} {r : WORD × Console}
    (ran : kputstrz m polls fuel con p = some r) : r.1 = 0 := by
  induction fuel generalizing con p with
  | zero => cases ran
  | succ fuel ih =>
    rw [kputstrz] at ran
    split at ran
    · cases ran; rfl
    · exact ih ran

theorem convert_next (ready : ∀ n, polls n = .ready) {s : Scan} (zero : s.rc = 0) {fuel : Nat}
    {k : Conv} {t : Turn} (ran : s.convert m args polls fuel k = some t) :
    ∃ s₁, t = .next s₁ ∧ s₁.chr = s.chr ∧ s₁.rc = 0 := by
  have digits : (kputstr polls s.con (k.digits (args s.taken) (args (s.taken + 1)))).1 = 0 :=
    ((kputstr_sends ..).ready ready).2
  cases k with
  | c =>
    cases ran
    exact ⟨_, rfl, rfl, ((kconputch_sends ..).ready ready).2⟩
  | s =>
    obtain ⟨r, printed, rfl⟩ := Option.map_eq_some_iff.mp ran
    have status := kputstrz_status printed
    exact ⟨_, add_next (.inl status), rfl, status⟩
  | d =>
    have dropped := Option.some.inj ran
    rw [add_next] at dropped
    · exact ⟨_, dropped.symm, rfl, zero⟩
    · exact .inl zero
  | o | O | l | x =>
    rw [convert_digits s fuel (by decide)] at ran
    generalize kputstr polls s.con _ = r at digits ran
    have kept := Option.some.inj ran
    rw [add_next] at kept
    · exact ⟨_, kept.symm, rfl, digits⟩
    · exact .inl digits

theorem body_next (ready : ∀ n, polls n = .ready) {s : Scan} (zero : s.rc = 0) {fuel : Nat}
    {t : Turn} (ran : s.body m args polls fuel = some t) : ∃ s₁, t = .next s₁ ∧ s₁.rc = 0 ∧
      s₁.chr = if m s.chr = 0x25 then s.chr + 1 + 1 else s.chr + 1 := by
  by_cases here : m s.chr = 0x25
  · rw [if_pos here]
    rw [body_percent here] at ran
    split at ran
    · obtain ⟨s₁, next, chr, rc⟩ := convert_next (s := s.advance.advance) ready zero ran
      exact ⟨s₁, next, rc, chr⟩
    · have printed : Prints m args polls s.advance.advance .percent _ :=
        prints_counting rfl (kconputch_sends s.advance.advance.con 0x25)
      cases ran
      obtain ⟨s₁, next, -, rc, -⟩ := printed.ready ready zero
      have chr := printed.chr
      have next : s.advance.advance.putc polls 0x25 = .next s₁ := next
      exact ⟨s₁, next, rc, by rw [← show _ = s₁.chr from congrArg (·.scan.chr) next]; exact chr⟩
  · rw [if_neg here]
    obtain ⟨t', ran', printed⟩ := @body_literal m args polls _ s fuel rfl here
    cases ran.symm.trans ran'
    obtain ⟨s₁, rfl, -, rc, -⟩ := printed.ready ready zero
    exact ⟨s₁, rfl, rc, printed.chr⟩

theorem PRINTF_next (ready : ∀ n, polls n = .ready) {s s' : Scan} (zero : s.rc = 0) {fuel : Nat}
    {rc : WORD} (more : m s.chr ≠ 0) (ends : PRINTF m args polls fuel s = some (rc, s')) :
    ∃ fuel' s₁, PRINTF m args polls fuel' s₁ = some (rc, s') ∧ s₁.rc = 0 ∧
      s₁.chr = if m s.chr = 0x25 then s.chr + 1 + 1 else s.chr + 1 := by
  cases fuel with
  | zero => cases ends
  | succ fuel =>
    rw [PRINTF, if_neg more] at ends
    obtain ⟨t, ran, rest⟩ := Option.bind_eq_some_iff.mp ends
    obtain ⟨s₁, rfl, after⟩ := body_next (s := s.fetch) ready zero ran
    exact ⟨fuel, s₁, rest, after⟩

/-- A format that ends in a `%` is read past its NUL. -/
theorem PRINTF_overruns (ready : ∀ n, polls n = .ready) {text : List Byte} {s s' : Scan}
    {fuel : Nat} {rc : WORD} (there : Terminated m s.chr text) (cut : ¬ EndsWhole text)
    (zero : s.rc = 0) (ends : PRINTF m args polls fuel s = some (rc, s')) :
    s.chr + BitVec.ofNat 16 (text.length + 1) ∈ s'.reads := by
  induction text using pieces.induct generalizing s fuel with
  | case1 => exact absurd trivial cut
  | case2 b =>
    obtain ⟨here, nonzero, -⟩ := there
    obtain ⟨fuel', s₁, rest, -, chr⟩ := PRINTF_next ready zero (here ▸ nonzero) ends
    have percent : m s.chr = 0x25 := here.trans (not_not.mp cut)
    rw [if_pos percent, BitVec.add_assoc] at chr
    exact chr ▸ PRINTF_reads rest (.inr rfl)
  | case3 d text ih =>
    obtain ⟨here, nonzero, -, -, after⟩ := there
    obtain ⟨fuel', s₁, rest, zero₁, chr⟩ := PRINTF_next ready zero (here ▸ nonzero) ends
    rw [if_pos here] at chr
    have cut' : ¬ EndsWhole text := by simpa [EndsWhole] using cut
    have read := ih (chr ▸ after) cut' zero₁ rest
    have place : s₁.chr + BitVec.ofNat 16 (text.length + 1) =
        s.chr + BitVec.ofNat 16 ((0x25 :: d :: text).length + 1) := by
      rw [chr, next_place, next_place]
      rfl
    exact place ▸ read
  | case4 b d text plain ih =>
    obtain ⟨here, nonzero, after⟩ := there
    obtain ⟨fuel', s₁, rest, zero₁, chr⟩ := PRINTF_next ready zero (here ▸ nonzero) ends
    rw [if_neg (here ▸ plain)] at chr
    have read := ih (chr ▸ after) (fun whole => cut ((endsWhole_literal plain _).mpr whole)) zero₁ rest
    have place : s₁.chr + BitVec.ofNat 16 ((d :: text).length + 1) =
        s.chr + BitVec.ofNat 16 ((b :: d :: text).length + 1) := by
      rw [chr, next_place]
      rfl
    exact place ▸ read

end Proofs

/-- What kprintf should do with a format: print its pieces in order, with the
arguments in order, and read no byte behind its NUL. -/
structure Printed (m : Bytes) (args : Nat → WORD) (fmt : ADDRESS) (text : List Byte) (rc : WORD)
    (s : Scan) : Prop where
  sent : s.con.sent = render m args 0 (pieces text)
  taken : s.taken = ((pieces text).map Piece.words).sum
  rc : rc = ((pieces text).map Piece.counted).sum
  within : ∀ a ∈ s.reads, Span fmt (text.length + 1) a

section Formats
variable {m : Bytes} {fmt : ADDRESS} {text : List Byte}

theorem terminated_nul (there : Terminated m fmt text) :
    m (fmt + BitVec.ofNat 16 text.length) = 0 := by
  induction text generalizing fmt with
  | nil => exact (congrArg m (BitVec.add_zero fmt)).trans there
  | cons b text ih =>
    have nul := ih there.2.2
    rw [next_place] at nul
    exact nul

end Formats

/-- Memory that holds a text at 0x100, with NULs around it. -/
def holding (text : List Byte) : Bytes := fun a => text.getD (a.toNat - 0x100) 0

/-- A format with two conversions and a newline. -/
def twoWords : List Byte := [0x70, 0x25, 0x6F, 0x20, 0x25, 0x64, 0x0A]

theorem holding_twoWords : Terminated (holding twoWords) 0x100 twoWords := by
  decide

end Muxx
