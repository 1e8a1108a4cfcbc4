import Mathlib.Data.List.Perm.Basic
import Mathlib.Data.List.Rotate

/-!
# Round robin

One running task, a line of tasks that wait to run, oldest first, and a list
of suspended tasks, with no task in two places. The operations keep this by
construction, and `mem_rotate`, `mem_park`, `mem_suspend` and `mem_enlist` say
which tasks there are afterwards. `line_iterate` says who runs after any number
of rotations.
-/

namespace Muxx.RoundRobin

variable {α : Type}

structure Sched (α : Type) where
  cur : α
  ready : List α
  susp : List α
  nodup : (cur :: (ready ++ susp)).Nodup

theorem rotate_perm (c t : α) (r q : List α) :
    (t :: ((r ++ [c]) ++ q)).Perm (c :: ((t :: r) ++ q)) := by
  have : t :: ((r ++ [c]) ++ q) = (t :: r) ++ c :: q := by simp
  rw [this]
  exact List.perm_middle

theorem park_perm (c t : α) (r q : List α) :
    (t :: (r ++ (q ++ [c]))).Perm (c :: ((t :: r) ++ q)) := by
  have : t :: (r ++ (q ++ [c])) = ((t :: r) ++ q) ++ [c] := by simp
  rw [this]
  exact List.perm_append_singleton c _

namespace Sched

def tasks (s : Sched α) : List α := s.cur :: (s.ready ++ s.susp)

/-- The running task goes to the end of the line and the first of the line
runs. -/
def rotate : Sched α → Sched α
  | ⟨c, [], q, nodup⟩ => ⟨c, [], q, nodup⟩
  | ⟨c, t :: r, q, nodup⟩ => ⟨t, r ++ [c], q, (rotate_perm c t r q).nodup_iff.mpr nodup⟩

/-- The running task is suspended and the first of the line runs. -/
def park : Sched α → Sched α
  | ⟨c, [], q, nodup⟩ => ⟨c, [], q, nodup⟩
  | ⟨c, t :: r, q, nodup⟩ => ⟨t, r, q ++ [c], (park_perm c t r q).nodup_iff.mpr nodup⟩

/-- A new task joins the line. -/
def enlist (s : Sched α) (t : α) (new : t ∉ s.tasks) : Sched α where
  cur := s.cur
  ready := s.ready ++ [t]
  susp := s.susp
  nodup := by
    have perm : (s.cur :: ((s.ready ++ [t]) ++ s.susp)).Perm (t :: s.tasks) := by
      have : s.cur :: ((s.ready ++ [t]) ++ s.susp) = (s.cur :: s.ready) ++ t :: s.susp := by simp
      rw [this]
      exact List.perm_middle
    exact perm.nodup_iff.mpr (List.nodup_cons.mpr ⟨new, s.nodup⟩)

/-- A task that is not running leaves the line, if it is there, and is
suspended. -/
def suspend [DecidableEq α] (s : Sched α) (t : α) (other : t ≠ s.cur) (awake : t ∉ s.susp) :
    Sched α where
  cur := s.cur
  ready := s.ready.erase t
  susp := s.susp ++ [t]
  nodup := by
    have rest : (s.cur :: (s.ready.erase t ++ s.susp)).Nodup :=
      s.nodup.sublist ((List.Sublist.append_right List.erase_sublist _).cons_cons _)
    have gone : t ∉ s.cur :: (s.ready.erase t ++ s.susp) := by
      have ready : s.ready.Nodup := (List.nodup_append.mp (List.nodup_cons.mp s.nodup).2).1
      simp [other, awake, ready.mem_erase_iff]
    have : s.cur :: (s.ready.erase t ++ (s.susp ++ [t])) =
        (s.cur :: (s.ready.erase t ++ s.susp)) ++ [t] := by simp
    rw [this]
    exact (List.perm_append_singleton t _).nodup_iff.mpr (List.nodup_cons.mpr ⟨gone, rest⟩)

section Mem
variable {s : Sched α} {t u : α}

theorem mem_tasks : u ∈ s.tasks ↔ u = s.cur ∨ u ∈ s.ready ∨ u ∈ s.susp := by
  simp [tasks]

theorem mem_rotate : u ∈ s.rotate.tasks ↔ u ∈ s.tasks := by
  obtain ⟨c, r, q, nodup⟩ := s
  cases r with
  | nil => rfl
  | cons t r => exact (rotate_perm c t r q).mem_iff

theorem mem_park : u ∈ s.park.tasks ↔ u ∈ s.tasks := by
  obtain ⟨c, r, q, nodup⟩ := s
  cases r with
  | nil => rfl
  | cons t r => exact (park_perm c t r q).mem_iff

theorem rotate_cur (s : Sched α) : s.rotate.cur = s.cur ∨ s.rotate.cur ∈ s.ready := by
  obtain ⟨c, r, q, nodup⟩ := s
  cases r with
  | nil => exact .inl rfl
  | cons t r => exact .inr List.mem_cons_self

theorem park_cur (s : Sched α) : s.park.cur = s.cur ∨ s.park.cur ∈ s.ready := by
  obtain ⟨c, r, q, nodup⟩ := s
  cases r with
  | nil => exact .inl rfl
  | cons t r => exact .inr List.mem_cons_self

theorem mem_enlist (new : t ∉ s.tasks) : u ∈ (s.enlist t new).tasks ↔ u = t ∨ u ∈ s.tasks := by
  simp only [mem_tasks, enlist, List.mem_append, List.mem_singleton]
  tauto

theorem mem_suspend [DecidableEq α] (other : t ≠ s.cur) (awake : t ∉ s.susp) :
    u ∈ (s.suspend t other awake).tasks ↔ u = t ∨ u ∈ s.tasks := by
  simp only [mem_tasks, suspend, List.mem_append, List.mem_singleton]
  by_cases h : u = t
  · simp [h]
  · simp [h, List.mem_erase_of_ne h]

end Mem

/-! ## Turns -/

/-- The tasks in the order in which they run. -/
def line (s : Sched α) : List α := s.cur :: s.ready

theorem line_rotate (s : Sched α) : s.rotate.line = s.line.rotate 1 := by
  obtain ⟨c, r, q, nodup⟩ := s
  cases r with
  | nil => exact (List.rotate_singleton c 1).symm
  | cons t r =>
    show t :: (r ++ [c]) = (c :: t :: r).rotate 1
    rw [List.rotate_cons_succ, List.rotate_zero]
    rfl

theorem line_iterate (s : Sched α) (n : ℕ) : (rotate^[n] s).line = s.line.rotate n := by
  induction n generalizing s with
  | zero => exact (List.rotate_zero _).symm
  | succ n ih =>
    rw [Function.iterate_succ_apply, ih, line_rotate, List.rotate_rotate, Nat.add_comm]

/-- The turn of a task comes again after as many rotations as there are tasks
in the line. -/
theorem cur_iterate (s : Sched α) (n : ℕ) :
    s.line[n % s.line.length]? = some (rotate^[n] s).cur := by
  have positive : 0 < s.line.length := Nat.succ_pos _
  have bound : n % s.line.length < s.line.length := Nat.mod_lt _ positive
  have head : (s.line.rotate n).head? = some (rotate^[n] s).cur := by
    rw [← line_iterate]; rfl
  rw [← List.rotate_mod, List.head?_rotate bound] at head
  exact head

end Sched

end Muxx.RoundRobin
