import Mathlib.Data.List.Basic
import Muxx.Lib.RoundRobin

/-!
# Waiting in a round robin

* `Sched.Op`: one operation, and whether it gives up the turn;
* `Op.cur`: who runs afterwards;
* `Op.susp`: who is suspended stays so;
* `Op.waits`: who waits comes nearer with every turn that is given up.
-/

namespace Muxx.RoundRobin

variable {α : Type} [DecidableEq α]

theorem idxOf_erase_le {t u : α} (other : t ≠ u) (l : List α) :
    (l.erase u).idxOf t ≤ l.idxOf t := by
  induction l with
  | nil => exact le_rfl
  | cons x l ih =>
    by_cases head : x = t
    · subst head
      rw [List.erase_cons_tail (by simpa using other), List.idxOf_cons_self, List.idxOf_cons_self]
    · rw [List.idxOf_cons_ne l head]
      by_cases gone : x = u
      · subst gone
        rw [List.erase_cons_head]
        exact Nat.le_succ _
      · rw [List.erase_cons_tail (by simpa using gone), List.idxOf_cons_ne _ head]
        exact Nat.succ_le_succ ih

namespace Sched

/-- An operation, or none. It is marked where the running task gives up its turn. -/
inductive Op : Bool → Sched α → Sched α → Prop
  | none (s : Sched α) : Op false s s
  | rotate (s : Sched α) : Op true s s.rotate
  | park (s : Sched α) : Op true s s.park
  | enlist (s : Sched α) (t : α) (new : t ∉ s.tasks) : Op false s (s.enlist t new)
  | suspend (s : Sched α) (t : α) (other : t ≠ s.cur) (awake : t ∉ s.susp) :
    Op false s (s.suspend t other awake)

/-- The next turn is that of `t`, or `t` is one place nearer to it. -/
def Nearer (s s' : Sched α) (t : α) : Prop :=
  t = s'.cur ∨ (t ∈ s'.ready ∧ s'.ready.idxOf t + 1 ≤ s.ready.idxOf t)

variable {s s' : Sched α} {t : α} {turn : Bool}

theorem Op.cur (h : Op turn s s') : s'.cur = s.cur ∨ s'.cur ∈ s.ready := by
  cases h with
  | none | enlist | suspend => exact .inl rfl
  | rotate => exact rotate_cur s
  | park => exact park_cur s

theorem Op.susp (h : Op turn s s') (mem : t ∈ s.susp) : t ∈ s'.susp := by
  cases h with
  | none | enlist => exact mem
  | rotate =>
    obtain ⟨c, _ | ⟨u, r⟩, q, nodup⟩ := s
    · exact mem
    · exact mem
  | park =>
    obtain ⟨c, _ | ⟨u, r⟩, q, nodup⟩ := s
    · exact mem
    · exact List.mem_append_left _ mem
  | suspend => exact List.mem_append_left _ mem

theorem rotate_nearer (mem : t ∈ s.ready) : Nearer s s.rotate t := by
  obtain ⟨c, _ | ⟨u, r⟩, q, nodup⟩ := s
  · exact absurd mem List.not_mem_nil
  · by_cases head : u = t
    · exact .inl head.symm
    · have later : t ∈ r := (List.mem_cons.mp mem).resolve_left (Ne.symm head)
      refine .inr ⟨List.mem_append_left _ later, ?_⟩
      show (r ++ [c]).idxOf t + 1 ≤ (u :: r).idxOf t
      rw [List.idxOf_append_of_mem later, List.idxOf_cons_ne r head]

theorem park_nearer (mem : t ∈ s.ready) : Nearer s s.park t := by
  obtain ⟨c, _ | ⟨u, r⟩, q, nodup⟩ := s
  · exact absurd mem List.not_mem_nil
  · by_cases head : u = t
    · exact .inl head.symm
    · have later : t ∈ r := (List.mem_cons.mp mem).resolve_left (Ne.symm head)
      refine .inr ⟨later, ?_⟩
      show r.idxOf t + 1 ≤ (u :: r).idxOf t
      rw [List.idxOf_cons_ne r head]

/-- Newcomers get in line behind `t`, and a task before `t` may only leave it. -/
theorem Op.waits (h : Op turn s s') (mem : t ∈ s.ready) :
    t ∈ s'.susp ∨ t = s'.cur ∨
      (t ∈ s'.ready ∧ s'.ready.idxOf t + turn.toNat ≤ s.ready.idxOf t) := by
  cases h with
  | none => exact .inr (.inr ⟨mem, le_rfl⟩)
  | rotate => exact .inr (rotate_nearer mem)
  | park => exact .inr (park_nearer mem)
  | enlist _ u new =>
    refine .inr (.inr ⟨List.mem_append_left _ mem, ?_⟩)
    show (s.ready ++ [u]).idxOf t + 0 ≤ _
    rw [List.idxOf_append_of_mem mem]
    exact le_rfl
  | suspend _ u other awake =>
    by_cases same : t = u
    · exact .inl (List.mem_append_right _ (List.mem_singleton.mpr same))
    · refine .inr (.inr ⟨(List.mem_erase_of_ne same).mpr mem, ?_⟩)
      exact idxOf_erase_le same s.ready

end Sched

end Muxx.RoundRobin
