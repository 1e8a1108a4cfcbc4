import Mathlib.Data.Nat.Digits.Lemmas
import Muxx.Lib.Bytes

/-!
# Glyphs

Numbers as text in any base, each digit drawn with a glyph.

* `spell`: the last digits, with leading zeros;
* `valueOf`, `valueOf_spell`: reading a text back.
-/

namespace Muxx.Pdp11

variable {glyph : Nat → Byte} {base : Nat}

/-- The last `n` digits of a number. -/
def spell (glyph : Nat → Byte) (base : Nat) : Nat → Nat → List Byte
  | 0, _ => []
  | n + 1, v => spell glyph base n (v / base) ++ [glyph (v % base)]

/-- The number that a text stands for, when `digit` reads a glyph. -/
def valueOf (digit : Byte → Nat) (base : Nat) (text : List Byte) : Nat :=
  Nat.ofDigits base (text.reverse.map digit)

@[simp] theorem spell_length (glyph : Nat → Byte) (base n v : Nat) :
    (spell glyph base n v).length = n := by
  induction n generalizing v with
  | zero => rfl
  | succ n ih => rw [spell, List.length_append, ih, List.length_singleton]

/-- The first digit. -/
theorem spell_succ (n v : Nat) :
    spell glyph base (n + 1) v = glyph (v / base ^ n % base) :: spell glyph base n v := by
  induction n generalizing v with
  | zero => rw [pow_zero, Nat.div_one]; rfl
  | succ n ih =>
    rw [spell, ih, Nat.div_div_eq_div_mul, ← pow_succ', spell, List.cons_append]

theorem spell_append (k n v : Nat) :
    spell glyph base (k + n) v = spell glyph base k (v / base ^ n) ++ spell glyph base n v := by
  induction n generalizing v with
  | zero => rw [pow_zero, Nat.div_one, spell, List.append_nil]; rfl
  | succ n ih =>
    rw [← Nat.add_assoc, spell, ih, spell, Nat.div_div_eq_div_mul, ← pow_succ', List.append_assoc]

theorem spell_mod (n v : Nat) : spell glyph base n (v % base ^ n) = spell glyph base n v := by
  induction n generalizing v with
  | zero => rfl
  | succ n ih =>
    have last : v % base ^ (n + 1) % base = v % base :=
      Nat.mod_mod_of_dvd v (Dvd.intro_left _ rfl)
    have front : v % base ^ (n + 1) / base = v / base % base ^ n := by
      rw [pow_succ', Nat.mod_mul_right_div_self]
    rw [spell, spell, last, front, ih]

section Reading
variable {digit : Byte → Nat} (reads : ∀ d < base, digit (glyph d) = d)
include reads

theorem valueOf_spell (positive : 0 < base) (n v : Nat) :
    valueOf digit base (spell glyph base n v) = v % base ^ n := by
  induction n generalizing v with
  | zero => rw [pow_zero, Nat.mod_one]; rfl
  | succ n ih =>
    have last : valueOf digit base (spell glyph base (n + 1) v) =
        v % base + base * valueOf digit base (spell glyph base n (v / base)) := by
      rw [valueOf, spell, List.reverse_append, List.reverse_singleton, List.singleton_append,
        List.map_cons, Nat.ofDigits_cons, reads _ (Nat.mod_lt v positive)]
      rfl
    rw [last, ih, pow_succ', Nat.mod_mul]

end Reading

end Muxx.Pdp11
