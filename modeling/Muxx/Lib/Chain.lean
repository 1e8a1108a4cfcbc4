import Mathlib.Data.Fintype.Card
import Mathlib.Data.List.Nodup

/-!
# Chains of links

Generic facts about cells joined by nullable links:

* `walk`: the loop that follows links until a test holds or the links end,
  with a bound on the cells it may visit;
* `Path`, `Back`: the forward and the backward links of a doubly linked list
  spell a given list of cells;
* `Path.det`, `Path.nodup`: such a list is unique and visits no cell twice;
* `walk_path`: on a path the loop returns the first cell passing the test;
* `walk_none_forever`: over finitely many cells, a loop that has not ended
  after visiting as many cells as there are never ends.
-/

namespace Muxx.Chain

variable {α : Type}

/-- Follow `next` from `p` to the first cell that satisfies `stop`, or to the
end of the links. `none` when `fuel` cells were visited without an answer. -/
def walk (stop : α → Bool) (next : α → Option α) : Nat → Option α → Option (Option α)
  | _, none => some none
  | 0, some _ => none
  | fuel + 1, some a => if stop a then some (some a) else walk stop next fuel (next a)

/-- Following `next` from `p` visits exactly the cells of `l` and then ends. -/
def Path (next : α → Option α) : Option α → List α → Prop
  | p, [] => p = none
  | p, a :: l => p = some a ∧ Path next (next a) l

/-- `prev` leads from each cell of `l` to the one before it, and from the
first cell to `q`. -/
def Back (prev : α → Option α) : Option α → List α → Prop
  | _, [] => True
  | q, a :: l => prev a = q ∧ Back prev (some a) l

instance Path.decidable [DecidableEq α] (next : α → Option α) : ∀ p l, Decidable (Path next p l)
  | p, [] => inferInstanceAs (Decidable (p = none))
  | p, a :: l =>
    have := Path.decidable next (next a) l
    inferInstanceAs (Decidable (p = some a ∧ Path next (next a) l))

instance Back.decidable [DecidableEq α] (prev : α → Option α) : ∀ q l, Decidable (Back prev q l)
  | _, [] => inferInstanceAs (Decidable True)
  | q, a :: l =>
    have := Back.decidable prev (some a) l
    inferInstanceAs (Decidable (prev a = q ∧ Back prev (some a) l))

section Path
variable {next next' : α → Option α} {p : Option α} {l : List α}

theorem Path.head (h : Path next p l) : p = l.head? := by
  cases l with
  | nil => exact h
  | cons a l => exact h.1

theorem Path.det (h : Path next p l) {l' : List α} (h' : Path next p l') : l = l' := by
  induction l generalizing p l' with
  | nil =>
    cases l' with
    | nil => rfl
    | cons b l' => rw [h] at h'; cases h'.1
  | cons a l ih =>
    obtain ⟨rfl, ht⟩ := h
    cases l' with
    | nil => cases h'
    | cons b l' =>
      obtain ⟨hb, ht'⟩ := h'
      cases hb
      rw [ih ht ht']

theorem Path.suffix {xs ys : List α} {a : α} (h : Path next p (xs ++ a :: ys)) :
    Path next (some a) (a :: ys) := by
  induction xs generalizing p with
  | nil => exact ⟨rfl, h.2⟩
  | cons x xs ih => exact ih h.2

/-- A cell met twice would start two different tails of one path. -/
theorem Path.nodup (h : Path next p l) : l.Nodup := by
  induction l generalizing p with
  | nil => exact List.nodup_nil
  | cons a l ih =>
    refine List.nodup_cons.mpr ⟨?_, ih h.2⟩
    intro ha
    obtain ⟨xs, ys, rfl⟩ := List.append_of_mem ha
    have longer : Path next (some a) (a :: (xs ++ a :: ys)) := ⟨rfl, h.2⟩
    have h : Path next p ((a :: xs) ++ a :: ys) := h
    have shorter : Path next (some a) (a :: ys) := h.suffix
    have := congrArg List.length (longer.det shorter)
    simp at this
    omega

/-- A cell that is its own successor is on no path. -/
theorem Path.not_self (h : Path next p l) {a : α} (ha : a ∈ l) : next a ≠ some a := by
  intro self
  obtain ⟨xs, ys, rfl⟩ := List.append_of_mem ha
  have tail : Path next (some a) ys := self ▸ (Path.suffix h).2
  exact absurd (congrArg List.length (tail.det (Path.suffix h))) (by simp)

theorem Path.congr (h : Path next p l) (same : ∀ a ∈ l, next' a = next a) : Path next' p l := by
  induction l generalizing p with
  | nil => exact h
  | cons a l ih =>
    refine ⟨h.1, ?_⟩
    rw [same a List.mem_cons_self]
    exact ih h.2 fun b hb => same b (List.mem_cons_of_mem _ hb)

/-- Ending the links at `a` keeps the path up to `a`. -/
theorem Path.cut {xs ys : List α} {a : α} (h : Path next p (xs ++ a :: ys))
    (ends : next' a = none) (same : ∀ b ∈ xs, next' b = next b) :
    Path next' p (xs ++ [a]) := by
  induction xs generalizing p with
  | nil => exact ⟨h.1, ends⟩
  | cons x xs ih =>
    refine ⟨h.1, ?_⟩
    rw [same x List.mem_cons_self]
    exact ih h.2 fun b hb => same b (List.mem_cons_of_mem _ hb)

/-- Hanging a cell on the last one extends the path by it. -/
theorem Path.snoc {a b : α} (h : Path next p l) (last : l.getLast? = some b)
    (link : next' b = some a) (ends : next' a = none)
    (same : ∀ c ∈ l, c ≠ b → next' c = next c) : Path next' p (l ++ [a]) := by
  obtain ⟨xs, rfl⟩ : ∃ xs, l = xs ++ [b] := List.getLast?_eq_some_iff.mp last
  have nodup := List.nodup_append.mp h.nodup
  induction xs generalizing p with
  | nil => exact ⟨h.1, by rw [link]; exact ⟨rfl, ends⟩⟩
  | cons x xs ih =>
    have hxb : x ≠ b := nodup.2.2 x List.mem_cons_self b (by simp)
    refine ⟨h.1, ?_⟩
    rw [same x (by simp) hxb]
    refine ih h.2 (by simp) (fun c hc => same c (List.mem_cons_of_mem _ hc)) ?_
    exact List.nodup_append.mp (Path.nodup (l := xs ++ [b]) h.2)

theorem Path.length_le [Fintype α] (h : Path next p l) : l.length ≤ Fintype.card α :=
  h.nodup.length_le_card

end Path

section Back
variable {prev prev' : α → Option α} {q : Option α} {l : List α}

theorem Back.congr (h : Back prev q l) (same : ∀ a ∈ l, prev' a = prev a) : Back prev' q l := by
  induction l generalizing q with
  | nil => trivial
  | cons a l ih =>
    exact ⟨(same a List.mem_cons_self).trans h.1,
      ih h.2 fun b hb => same b (List.mem_cons_of_mem _ hb)⟩

theorem Back.snoc {a : α} (h : Back prev q l) (link : prev a = l.getLast?.or q) :
    Back prev q (l ++ [a]) := by
  induction l generalizing q with
  | nil => exact ⟨by simpa using link, trivial⟩
  | cons b l ih =>
    refine ⟨h.1, ih h.2 ?_⟩
    rw [link, List.getLast?_cons]
    cases l.getLast? <;> rfl

theorem Back.pred {xs ys : List α} {a b : α} (h : Back prev q (xs ++ a :: b :: ys)) :
    prev b = some a := by
  induction xs generalizing q with
  | nil => exact h.2.1
  | cons x xs ih => exact ih h.2

end Back

section Walk
variable {stop : α → Bool} {next : α → Option α} {p : Option α} {l : List α} {fuel : Nat}

@[simp] theorem walk_null : walk stop next fuel none = some none := by
  cases fuel <;> rfl

theorem walk_stop {a : α} (h : stop a = true) :
    walk stop next (fuel + 1) (some a) = some (some a) := by
  simp [walk, h]

theorem walk_step {a : α} (h : stop a = false) :
    walk stop next (fuel + 1) (some a) = walk stop next fuel (next a) := by
  simp [walk, h]

theorem walk_path (h : Path next p l) (enough : l.length ≤ fuel) :
    walk stop next fuel p = some (l.find? stop) := by
  induction l generalizing p fuel with
  | nil => rw [h, walk_null]; rfl
  | cons a l ih =>
    obtain ⟨rfl, ht⟩ := h
    obtain ⟨fuel, rfl⟩ : ∃ n, fuel = n + 1 := ⟨fuel - 1, by simp at enough; omega⟩
    cases ha : stop a with
    | true => rw [walk_stop ha, List.find?_cons_of_pos ha]
    | false =>
      rw [walk_step ha, List.find?_cons_of_neg (by simp [ha])]
      exact ih ht (by simpa using enough)

/-- A cell that links to itself and fails the test keeps the loop there. -/
theorem walk_self {a : α} (loop : next a = some a) (h : stop a = false) (fuel : Nat) :
    walk stop next fuel (some a) = none := by
  induction fuel with
  | zero => rfl
  | succ fuel ih => rw [walk_step h, loop, ih]

theorem walk_some_iff {r : Option α} :
    walk stop next fuel p = some r ↔
      ∃ l, Path (fun a => if stop a then none else next a) p l ∧
        l.length ≤ fuel ∧ l.find? stop = r := by
  constructor
  · intro h
    induction fuel generalizing p with
    | zero =>
      cases p with
      | none => exact ⟨[], rfl, Nat.le_refl _, by simpa using h⟩
      | some a => cases h
    | succ fuel ih =>
      cases p with
      | none => exact ⟨[], rfl, Nat.zero_le _, by simpa using h⟩
      | some a =>
        cases ha : stop a with
        | true =>
          rw [walk_stop ha] at h
          exact ⟨[a], ⟨rfl, by simp [Path, ha]⟩, by simp, by simpa [ha] using h⟩
        | false =>
          rw [walk_step ha] at h
          obtain ⟨l, path, bound, found⟩ := ih h
          exact ⟨a :: l, ⟨rfl, by simpa [ha] using path⟩, by simpa using bound,
            by simpa [ha] using found⟩
  · rintro ⟨l, path, bound, rfl⟩
    induction l generalizing p fuel with
    | nil => rw [path, walk_null]; rfl
    | cons a l ih =>
      obtain ⟨rfl, rest⟩ := path
      obtain ⟨fuel, rfl⟩ : ∃ n, fuel = n + 1 := ⟨fuel - 1, by simp at bound; omega⟩
      cases ha : stop a with
      | true => rw [walk_stop ha, List.find?_cons_of_pos ha]
      | false =>
        rw [walk_step ha, List.find?_cons_of_neg (by simp [ha])]
        exact ih (by simpa [ha] using rest) (by simpa using bound)

/-- With as much fuel as there are cells, running out of it means that the
loop never ends: an ended loop visits no cell twice. -/
theorem walk_none_forever [Fintype α] (enough : Fintype.card α ≤ fuel)
    (h : walk stop next fuel p = none) (more : Nat) : walk stop next more p = none := by
  cases hr : walk stop next more p with
  | none => rfl
  | some r =>
    obtain ⟨l, path, _, found⟩ := walk_some_iff.mp hr
    have bound : l.length ≤ fuel := Nat.le_trans path.length_le enough
    rw [walk_some_iff.mpr ⟨l, path, bound, found⟩] at h
    cases h

end Walk

/-! ## Loops that look for a free table entry

The C idiom `for (i = 0; i < n && !found; i++) if (free[i]) found = i;`, in
which index 0 also stands for "not found". -/

/-- The first entry that passes, leaving out entry 0; 0 when there is none. -/
def firstFound {n : Nat} (free : Fin (n + 1) → Bool) : Fin (n + 1) :=
  (List.finRange (n + 1)).foldl (fun found i => if found = 0 ∧ free i then i else found) 0

section FirstFound
variable {n : Nat} {free : Fin (n + 1) → Bool}

private theorem foldl_kept {f : Fin (n + 1)} (hf : f ≠ 0) (l : List (Fin (n + 1))) :
    l.foldl (fun found i => if found = 0 ∧ free i then i else found) f = f := by
  induction l with
  | nil => rfl
  | cons a l ih => rw [List.foldl_cons, if_neg (fun h => hf h.1), ih]

private theorem foldl_missed {l : List (Fin (n + 1))} (h : ∀ i ∈ l, i = 0 ∨ free i = false) :
    l.foldl (fun found i => if found = 0 ∧ free i then i else found) 0 = 0 := by
  induction l with
  | nil => rfl
  | cons a l ih =>
    have step : (if (0 : Fin (n + 1)) = 0 ∧ free a then a else 0) = 0 := by
      rcases h a List.mem_cons_self with rfl | ha
      · simp
      · simp [ha]
    rw [List.foldl_cons, step]
    exact ih fun i hi => h i (List.mem_cons_of_mem _ hi)

theorem firstFound_free (h : firstFound free ≠ 0) : free (firstFound free) = true := by
  have inv : ∀ (l : List (Fin (n + 1))) (f : Fin (n + 1)), (f ≠ 0 → free f = true) →
      let r := l.foldl (fun found i => if found = 0 ∧ free i then i else found) f
      r ≠ 0 → free r = true := by
    intro l
    induction l with
    | nil => intro f hf; exact hf
    | cons a l ih =>
      intro f hf
      rw [List.foldl_cons]
      apply ih
      split
      · rename_i hit; exact fun _ => hit.2
      · exact hf
  exact inv _ 0 (fun hne => absurd rfl hne) h

theorem firstFound_eq_zero (h : ∀ i, i ≠ 0 → free i = false) : firstFound free = 0 :=
  foldl_missed fun i _ => Decidable.or_iff_not_imp_left.mpr (h i)

theorem firstFound_eq {k : Fin (n + 1)} (hk : k ≠ 0) (hit : free k = true)
    (first : ∀ i, i < k → i ≠ 0 → free i = false) : firstFound free = k := by
  obtain ⟨xs, ys, split⟩ := List.append_of_mem (List.mem_finRange k)
  have sorted := List.pairwise_lt_finRange (n + 1)
  rw [split] at sorted
  have before : ∀ i ∈ xs, i < k := fun i hi =>
    (List.pairwise_append.mp sorted).2.2 i hi k List.mem_cons_self
  have missed : ∀ i ∈ xs, i = 0 ∨ free i = false := fun i hi =>
    Decidable.or_iff_not_imp_left.mpr (first i (before i hi))
  rw [firstFound, split, List.foldl_append, foldl_missed missed, List.foldl_cons,
    if_pos ⟨rfl, hit⟩, foldl_kept hk]

theorem firstFound_ne_zero {i : Fin (n + 1)} (hi : i ≠ 0) (hit : free i = true) :
    firstFound free ≠ 0 := by
  induction i using WellFoundedLT.induction with
  | ind i ih =>
    by_cases earlier : ∃ j, j < i ∧ j ≠ 0 ∧ free j = true
    · obtain ⟨j, before, hj, hit⟩ := earlier
      exact ih j before hj hit
    · rw [firstFound_eq hi hit]
      · exact hi
      · intro j before hj
        by_contra pass
        exact earlier ⟨j, before, hj, Bool.eq_true_of_not_eq_false pass⟩

end FirstFound

end Muxx.Chain
