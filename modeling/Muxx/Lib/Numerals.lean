import Mathlib.Tactic.Ring
import Muxx.Lib.Glyphs

/-!
# Numerals

Numbers of a base up to ten as text of a fixed width, with leading zeros.

* `value_numeral`: reading a numeral back;
* `numeral_inj`: numbers with the same numeral;
* `putDigits`: a numeral written into memory from its last digit on;
* `textAt_putDigits`: what is found there.
-/

namespace Muxx.Pdp11

/-- The glyph of a digit. -/
def figure (d : Nat) : Byte := BitVec.ofNat 8 (0x30 + d)

/-- The last digit of `v`. -/
def digit (base v : Nat) : Byte := BitVec.ofNat 8 (0x30 + v % base)

def numeral (base n v : Nat) : List Byte := spell figure base n v

/-- The number that a text of digits stands for. -/
def value (base : Nat) (text : List Byte) : Nat := valueOf (fun b => b.toNat - 0x30) base text

section Numerals
variable {base : Nat}

@[simp] theorem numeral_length (base n v : Nat) : (numeral base n v).length = n := spell_length ..

theorem numeral_snoc (n v : Nat) :
    numeral base (n + 1) v = numeral base n (v / base) ++ [digit base v] := rfl

theorem toNat_digit (positive : 0 < base) (small : base ≤ 10) (v : Nat) :
    (digit base v).toNat = 0x30 + v % base := by
  have below := Nat.mod_lt v positive
  rw [digit, BitVec.toNat_ofNat, Nat.mod_eq_of_lt (by omega)]

theorem figure_reads (small : base ≤ 10) (d : Nat) (below : d < base) : (figure d).toNat - 0x30 = d := by
  rw [figure, BitVec.toNat_ofNat]
  omega

theorem value_numeral (positive : 0 < base) (small : base ≤ 10) (n v : Nat) :
    value base (numeral base n v) = v % base ^ n := valueOf_spell (figure_reads small) positive n v

theorem numeral_mod (n v : Nat) : numeral base n (v % base ^ n) = numeral base n v := spell_mod ..

theorem numeral_inj (positive : 0 < base) (small : base ≤ 10) {n v w : Nat} :
    numeral base n v = numeral base n w ↔ v % base ^ n = w % base ^ n := by
  constructor
  · intro same
    rw [← value_numeral positive small, same, value_numeral positive small]
  · intro same
    rw [← numeral_mod, same, numeral_mod]

/-- The first digit. -/
theorem numeral_succ (n v : Nat) :
    numeral base (n + 1) v = digit base (v / base ^ n) :: numeral base n v := spell_succ ..

theorem numeral_append (k n v : Nat) :
    numeral base (k + n) v = numeral base k (v / base ^ n) ++ numeral base n v := spell_append ..

end Numerals

/-! ## In memory -/

/-- The text of `n` bytes at `a`. -/
def textAt (m : Bytes) (a : Word) (n : Nat) : List Byte :=
  (List.range n).map fun i => m (a + BitVec.ofNat 16 i)

/-- Digits written one after the other below `p`, the last one first. -/
def putDigits (base : Nat) : Nat → Nat → Bytes → Word → Bytes
  | 0, _, m, _ => m
  | n + 1, v, m, p =>
    putDigits base n (v / base) (Function.update m (p + -1) (digit base v)) (p + -1)

section Memory
variable {base n : Nat} {m : Bytes} {a x : Word}

/-- Below the end of a span. -/
theorem span_end (a : Word) (n : Nat) : a + BitVec.ofNat 16 (n + 1) + -1 = a + BitVec.ofNat 16 n := by
  have next : BitVec.ofNat 16 (n + 1) = BitVec.ofNat 16 n + 1 := BitVec.ofNat_add n 1
  rw [next]
  ring

theorem textAt_add (m : Bytes) (a : Word) (k n : Nat) :
    textAt m a (k + n) = textAt m a k ++ textAt m (a + BitVec.ofNat 16 k) n := by
  have next (i : Nat) : a + BitVec.ofNat 16 (k + i) = a + BitVec.ofNat 16 k + BitVec.ofNat 16 i := by
    rw [BitVec.ofNat_add, BitVec.add_assoc]
  simp only [textAt, List.range_add, List.map_append, List.map_map, Function.comp_def, next]

theorem textAt_succ (m : Bytes) (a : Word) (n : Nat) :
    textAt m a (n + 1) = m a :: textAt m (a + 1) n := by
  have first : textAt m a 1 = [m a] := congrArg (fun a => [m a]) (BitVec.add_zero a)
  rw [Nat.add_comm, textAt_add, first]
  rfl

theorem textAt_congr {m m' : Bytes} (same : ∀ i < n, m (a + BitVec.ofNat 16 i) = m' (a + BitVec.ofNat 16 i)) :
    textAt m a n = textAt m' a n :=
  List.map_congr_left fun i mem => same i (List.mem_range.mp mem)

theorem putDigits_other (room : a.toNat + n ≤ 65536) (v : Nat) (outside : ¬ Span a n x) :
    putDigits base n v m (a + BitVec.ofNat 16 n) x = m x := by
  induction n generalizing v m with
  | zero => rfl
  | succ n ih =>
    unfold Span at outside ih
    have apart : x ≠ a + BitVec.ofNat 16 n := by
      bv_omega
    rw [putDigits, span_end, ih (by omega) _ (by omega), Function.update_of_ne apart]

/-- Writing a byte elsewhere can wait. -/
theorem putDigits_update (room : a.toNat + n ≤ 65536) (v : Nat) (outside : ¬ Span a n x) (b : Byte) :
    putDigits base n v (Function.update m x b) (a + BitVec.ofNat 16 n) =
      Function.update (putDigits base n v m (a + BitVec.ofNat 16 n)) x b := by
  induction n generalizing v m with
  | zero => rfl
  | succ n ih =>
    unfold Span at outside ih
    have apart : a + BitVec.ofNat 16 n ≠ x := by
      bv_omega
    rw [putDigits, putDigits, span_end, Function.update_comm apart.symm, ih (by omega) _ (by omega)]

theorem putDigits_setWord (room : a.toNat + n ≤ 65536) (v : Nat) (low : ¬ Span a n x)
    (high : ¬ Span a n (x + 1)) (w : Word) :
    putDigits base n v (setWord m x w) (a + BitVec.ofNat 16 n) =
      setWord (putDigits base n v m (a + BitVec.ofNat 16 n)) x w := by
  rw [setWord, putDigits_update room v high, putDigits_update room v low]
  rfl

theorem textAt_putDigits (base : Nat) (m : Bytes) (room : a.toNat + n ≤ 65536) (v : Nat) :
    textAt (putDigits base n v m (a + BitVec.ofNat 16 n)) a n = numeral base n v := by
  induction n generalizing v m with
  | zero => rfl
  | succ n ih =>
    have front := ih (Function.update m (a + BitVec.ofNat 16 n) (digit base v)) (by omega) (v / base)
    have past : ¬ Span a n (a + BitVec.ofNat 16 n) := by
      unfold Span
      bv_omega
    rw [textAt] at front
    rw [textAt, List.range_succ, List.map_append, putDigits, span_end, front, List.map_singleton,
      putDigits_other (by omega) _ past, Function.update_self, numeral_snoc]

theorem putDigits_add (k n v : Nat) (m : Bytes) (p : Word) : putDigits base (n + k) v m p =
    putDigits base k (v / base ^ n) (putDigits base n v m p) (p - BitVec.ofNat 16 n) := by
  induction n generalizing v m p with
  | zero =>
    rw [pow_zero, Nat.div_one, Nat.zero_add, putDigits]
    congr 1
    exact (BitVec.sub_zero p).symm
  | succ n ih =>
    have start : p - BitVec.ofNat 16 (n + 1) = p + -1 - BitVec.ofNat 16 n := by
      have next : BitVec.ofNat 16 (n + 1) = BitVec.ofNat 16 n + 1 := BitVec.ofNat_add n 1
      rw [next]
      ring
    rw [Nat.add_right_comm, putDigits, ih, putDigits, start, Nat.div_div_eq_div_mul, ← pow_succ']

theorem putDigits_mod (n v : Nat) (m : Bytes) (p : Word) :
    putDigits base n (v % base ^ n) m p = putDigits base n v m p := by
  induction n generalizing v m p with
  | zero => rfl
  | succ n ih =>
    have last : v % base ^ (n + 1) % base = v % base :=
      Nat.mod_mod_of_dvd v (Dvd.intro_left _ rfl)
    have front : v % base ^ (n + 1) / base = v / base % base ^ n := by
      rw [pow_succ', Nat.mod_mul_right_div_self]
    rw [putDigits, putDigits, front, ih, digit, digit, last]

end Memory

end Muxx.Pdp11
