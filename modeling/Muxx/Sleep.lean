import Mathlib.Order.Monotone.Basic
import Muxx.Types

/-!
# sleep

The provisional sleep of sleep.c, which yields until the tick counter has gone far
enough:

* `sleepLoop_iff`: the test at which its loop ends;
* `sleepsFor_iff`: for which readings of the counter that is the right one;
* `sleep_exact_iff`: for which times it is the right one with all counters.
-/

namespace Muxx

/-- The while loop, from test `i` on: the test at which it ends. -/
def sleepLoop (utimeticks : Nat → LONGWORD) (ticks sticks : LONGWORD) : Nat → Nat → Option Nat
  | 0, _ => none
  | fuel + 1, i =>
    if utimeticks i - ticks < sticks then sleepLoop utimeticks ticks sticks fuel (i + 1)
    else some i

/-- sleep reads the counter before its loop (that is number 0), and then at each test.
The product of two `int` is an `int`, and is widened after that. -/
def sleep (utimeticks : Nat → LONGWORD) (seconds : WORD) (fuel : Nat) : Option Nat :=
  if seconds = 0 then some 0
  else
    let sticks : LONGWORD := (seconds * clkFreq).signExtend 32
    let ticks := utimeticks 0
    sleepLoop utimeticks ticks sticks fuel 1

/-- The ticks since the entry. When fewer than 2^32 go by in all, the readings do not
decrease exactly when these do not. -/
def elapsed (utimeticks : Nat → LONGWORD) (i : Nat) : Nat := (utimeticks i - utimeticks 0).toNat

/-- sleep returns at the first reading at which so many seconds have gone by since the
entry, and at none when there is no such reading. -/
def SleepsFor (utimeticks : Nat → LONGWORD) (seconds : WORD) : Prop :=
  ∀ i, (∃ fuel, sleep utimeticks seconds fuel = some i) ↔
    60 * seconds.toNat ≤ elapsed utimeticks i ∧ ∀ j < i, elapsed utimeticks j < 60 * seconds.toNat

/-- The first test at which so many ticks have gone by. -/
def FirstTest (utimeticks : Nat → LONGWORD) (ticks n : Nat) : Prop :=
  1 ≤ n ∧ ticks ≤ elapsed utimeticks n ∧ ∀ j, 1 ≤ j → j < n → elapsed utimeticks j < ticks

section Sleep
variable {utimeticks : Nat → LONGWORD} {ticks sticks : LONGWORD} {seconds : WORD} {i n bound : Nat}

theorem sleepLoop_iff : (∃ fuel, sleepLoop utimeticks ticks sticks fuel i = some n) ↔
    i ≤ n ∧ sticks ≤ utimeticks n - ticks ∧
      ∀ j, i ≤ j → j < n → utimeticks j - ticks < sticks := by
  constructor
  · rintro ⟨fuel, ends⟩
    induction fuel generalizing i with
    | zero => cases ends
    | succ fuel ih =>
      rw [sleepLoop] at ends
      split_ifs at ends with early
      · obtain ⟨later, up, before⟩ := ih ends
        refine ⟨Nat.le_of_succ_le later, up, ?_⟩
        intro j from_i to_n
        rcases Nat.eq_or_lt_of_le from_i with rfl | next
        · exact early
        · exact before j next to_n
      · cases ends
        exact ⟨Nat.le_refl _, BitVec.not_lt.mp early, fun j from_i to_n => by omega⟩
  · rintro ⟨later, up, before⟩
    obtain ⟨more, rfl⟩ := Nat.exists_eq_add_of_le later
    refine ⟨more + 1, ?_⟩
    clear later
    induction more generalizing i with
    | zero => exact if_neg (BitVec.not_lt.mpr up)
    | succ more ih =>
      have next : i + (more + 1) = i + 1 + more := by omega
      rw [next] at up before ⊢
      rw [sleepLoop, if_pos (before i (Nat.le_refl _) (by omega))]
      exact ih up fun j from_i to_n => before j (by omega) to_n

/-- sleep ends when the ticks have gone by that its product comes to. -/
theorem sleep_iff (positive : seconds ≠ 0) : (∃ fuel, sleep utimeticks seconds fuel = some n) ↔
    FirstTest utimeticks ((seconds * clkFreq).signExtend 32).toNat n := by
  simp only [sleep, if_neg positive, sleepLoop_iff, BitVec.le_def, BitVec.lt_def, FirstTest,
    elapsed]

theorem elapsed_zero (utimeticks : Nat → LONGWORD) : elapsed utimeticks 0 = 0 := by
  rw [elapsed, BitVec.sub_self]
  rfl

/-- No ticks have gone by at the entry. -/
theorem firstTest_iff (some_ticks : 0 < bound) : FirstTest utimeticks bound n ↔
    bound ≤ elapsed utimeticks n ∧ ∀ j < n, elapsed utimeticks j < bound := by
  have entry := elapsed_zero utimeticks
  constructor
  · rintro ⟨-, up, before⟩
    refine ⟨up, ?_⟩
    intro j earlier
    rcases Nat.eq_zero_or_pos j with rfl | test
    · omega
    · exact before j test earlier
  · rintro ⟨up, before⟩
    refine ⟨?_, up, fun j _ earlier => before j earlier⟩
    by_contra first
    obtain rfl : n = 0 := by omega
    omega

theorem firstTest_exists (test : 1 ≤ i) (up : bound ≤ elapsed utimeticks i) :
    ∃ n ≤ i, FirstTest utimeticks bound n := by
  have reached : ∃ n, 1 ≤ n ∧ bound ≤ elapsed utimeticks n := ⟨i, test, up⟩
  obtain ⟨test', up'⟩ := Nat.find_spec reached
  refine ⟨Nat.find reached, Nat.find_min' reached ⟨test, up⟩, test', up', ?_⟩
  intro j test'' earlier
  exact Nat.lt_of_not_le fun up'' => Nat.find_min reached earlier ⟨test'', up''⟩

/-- Readings on which sleep is right: none of them lies between the ticks that it waits
for and those of that many seconds. -/
theorem sleepsFor_iff (positive : seconds ≠ 0) (counts : Monotone (elapsed utimeticks)) :
    SleepsFor utimeticks seconds ↔ ∀ i, 1 ≤ i →
      (((seconds * clkFreq).signExtend 32).toNat ≤ elapsed utimeticks i ↔
        60 * seconds.toNat ≤ elapsed utimeticks i) := by
  have some_ticks : 0 < 60 * seconds.toNat := by
    have nonzero : seconds.toNat ≠ 0 := fun zero => positive (BitVec.eq_of_toNat_eq zero)
    omega
  simp only [SleepsFor, sleep_iff positive, ← firstTest_iff some_ticks]
  constructor
  · intro right i test
    constructor
    · intro up
      obtain ⟨n, early, first⟩ := firstTest_exists test up
      exact ((right n).mp first).2.1.trans (counts early)
    · intro up
      obtain ⟨n, early, first⟩ := firstTest_exists test up
      exact ((right n).mpr first).2.1.trans (counts early)
  · intro same n
    constructor
    · rintro ⟨test, up, before⟩
      refine ⟨test, (same n test).mp up, ?_⟩
      intro j test' earlier
      have early := before j test' earlier
      have both := same j test'
      omega
    · rintro ⟨test, up, before⟩
      refine ⟨test, (same n test).mpr up, ?_⟩
      intro j test' earlier
      have early := before j test' earlier
      have both := same j test'
      omega

/-- The ticks that sleep waits for are those of `seconds` as long as an `int` holds
them. -/
theorem sticks_iff (nonneg : 0 ≤ seconds.toInt) :
    ((seconds * clkFreq).signExtend 32).toNat = 60 * seconds.toNat ↔ seconds.toNat ≤ 546 := by
  have small : seconds.toNat < 2 ^ 15 := by
    have signed := BitVec.toInt_eq_toNat_cond seconds
    split_ifs at signed <;> omega
  have product : (seconds * clkFreq).toNat = seconds.toNat * 60 % 65536 := BitVec.toNat_mul ..
  have signed := BitVec.toInt_eq_toNat_cond (seconds * clkFreq)
  have widened : ((seconds * clkFreq).signExtend 32).toInt = (seconds * clkFreq).toInt :=
    BitVec.toInt_signExtend_of_le (by decide)
  have signed' := BitVec.toInt_eq_toNat_cond ((seconds * clkFreq).signExtend 32)
  have bound := ((seconds * clkFreq).signExtend 32).isLt
  rw [product] at signed
  rw [widened] at signed'
  by_cases fits : seconds.toNat ≤ 546
  · rw [Nat.mod_eq_of_lt (by omega)] at signed
    split_ifs at signed signed' <;> omega
  · split_ifs at signed signed' <;> omega

/-- A counter that starts at 0 and then stays. -/
def jump (ticks : Nat) (i : Nat) : LONGWORD := if i = 0 then 0 else BitVec.ofNat 32 ticks

theorem elapsed_jump {ticks : Nat} (few : ticks < 2 ^ 32) (i : Nat) :
    elapsed (jump ticks) i = if i = 0 then 0 else ticks := by
  have entry : jump ticks 0 = 0#32 := rfl
  rw [elapsed, entry, BitVec.sub_zero, jump]
  split_ifs
  · rfl
  · exact Nat.mod_eq_of_lt few

/-- sleep is right with every counter exactly up to 546 seconds: 547 · 60 is no `int`. -/
theorem sleep_exact_iff (nonneg : 0 ≤ seconds.toInt) :
    (∀ utimeticks, Monotone (elapsed utimeticks) → SleepsFor utimeticks seconds) ↔
      seconds.toNat ≤ 546 := by
  rw [← sticks_iff nonneg]
  by_cases positive : seconds = 0
  · subst positive
    refine iff_of_true ?_ (by decide)
    intro utimeticks _ i
    have entry := elapsed_zero utimeticks
    constructor
    · rintro ⟨fuel, ends⟩
      obtain rfl : 0 = i := Option.some_inj.mp ends
      exact ⟨Nat.zero_le _, fun j before => absurd before (Nat.not_lt_zero j)⟩
    · rintro ⟨-, before⟩
      obtain rfl : i = 0 := by
        by_contra later
        exact absurd (before 0 (Nat.pos_of_ne_zero later)) (Nat.not_lt_zero _)
      exact ⟨0, rfl⟩
  · constructor
    · intro right
      have bound := seconds.isLt
      let low := min ((seconds * clkFreq).signExtend 32).toNat (60 * seconds.toNat)
      have few : low < 2 ^ 32 := by omega
      have counts : Monotone (elapsed (jump low)) := by
        intro i j later
        rw [elapsed_jump few, elapsed_jump few]
        split_ifs <;> omega
      have both := (sleepsFor_iff positive counts).mp (right _ counts) 1 (Nat.le_refl 1)
      rw [elapsed_jump few, if_neg (by decide)] at both
      omega
    · intro same utimeticks counts
      rw [sleepsFor_iff positive counts, same]
      exact fun _ _ => Iff.rfl

end Sleep

theorem sleep_exact_minute :
    (∀ utimeticks, Monotone (elapsed utimeticks) → SleepsFor utimeticks 60) ↔ 60 ≤ 546 :=
  sleep_exact_iff (by decide)

/-- sleep(16384) returns at its first test, although no time has gone by. -/
theorem sleep_overflows : Monotone (elapsed fun _ => 0) ∧
    sleep (fun _ => 0) 16384 1 = some 1 ∧ ¬ SleepsFor (fun _ => 0) 16384 := by
  refine ⟨fun _ _ _ => Nat.le_refl _, by decide, ?_⟩
  intro right
  exact absurd ((right 1).mp ⟨1, by decide⟩).1 (by decide)

end Muxx
