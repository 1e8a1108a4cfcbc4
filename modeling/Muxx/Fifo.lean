import Muxx.Queue

/-! A task queue against a FIFO list of tasks, over runs of add, get and
remove calls on a queue that starts empty. -/
namespace Muxx

open Chain

variable {n : Nat}

/-- A task queue with the control blocks its links run through. -/
structure QState (n : Nat) where
  heap : Heap n
  queue : TQUEUE n
  deriving DecidableEq

inductive QOp (n : Nat)
  | add (task : Fin n)
  | get
  | remove (task : Fin n)

namespace QOp

/-- One call: the task pointer it returns and the state it leaves. -/
def exec : QOp n → QState n → Except Fault (Option (Fin n) × QState n)
  | .add task, s => do
    let (heap, queue) ← qAddTask s.heap s.queue task
    return (none, ⟨heap, queue⟩)
  | .get, s => do
    let (task, heap, queue) ← qGetTask s.heap s.queue
    return (some task, ⟨heap, queue⟩)
  | .remove task, s => do
    let (found, heap, queue) ← qRemoveTask s.heap s.queue task
    return (found, ⟨heap, queue⟩)

/-- The same call on a list of tasks, oldest first. -/
def fifo : QOp n → List (Fin n) → Option (Fin n) × List (Fin n)
  | .add task, l => (none, l ++ [task])
  | .get, l => (l.head?, l.tail)
  | .remove task, l => if task ∈ l then (some task, l.erase task) else (none, l)

/-- A task is added only when it is not queued, and a get finds a task. -/
def Allowed : QOp n → List (Fin n) → Prop
  | .add task, l => task ∉ l
  | .get, l => l ≠ []
  | .remove _, _ => True

/-- A removal of a task that is not queued. -/
def Idle : QOp n → List (Fin n) → Prop
  | .remove task, l => task ∉ l
  | _, _ => False

/-- A removal of a queued task takes the oldest one. -/
def TakesOldest : QOp n → List (Fin n) → Prop
  | .remove task, l => task ∈ l → l.head? = some task
  | _, _ => True

instance (op : QOp n) (l : List (Fin n)) : Decidable (op.Allowed l) := by
  cases op <;> unfold Allowed <;> infer_instance

instance (op : QOp n) (l : List (Fin n)) : Decidable (op.Idle l) := by
  cases op <;> unfold Idle <;> infer_instance

instance (op : QOp n) (l : List (Fin n)) : Decidable (op.TakesOldest l) := by
  cases op <;> unfold TakesOldest <;> infer_instance

end QOp

/-- `P` holds of every call of a sequence and the list it is made on. -/
def Along (P : QOp n → List (Fin n) → Prop) : List (QOp n) → List (Fin n) → Prop
  | [], _ => True
  | op :: ops, l => P op l ∧ Along P ops (op.fifo l).2

/-- The queue refines the list along the calls: before each of them and at
the end the queue holds the list, each returns what the list operation
returns, and removing a task that is not queued changes nothing. -/
def Tracks : List (QOp n) → QState n → List (Fin n) → Prop
  | [], s, l => Holds s.heap s.queue l
  | op :: ops, s, l =>
    Holds s.heap s.queue l ∧
      match op.exec s with
      | .ok (r, s') => r = (op.fifo l).1 ∧ (op.Idle l → s' = s) ∧ Tracks ops s' (op.fifo l).2
      | .error _ => False

instance Along.decidable (P : QOp n → List (Fin n) → Prop) [∀ op l, Decidable (P op l)] :
    ∀ ops l, Decidable (Along P ops l)
  | [], _ => inferInstanceAs (Decidable True)
  | op :: ops, l =>
    have := Along.decidable P ops (op.fifo l).2
    inferInstanceAs (Decidable (P op l ∧ Along P ops (op.fifo l).2))

instance Tracks.decidable : ∀ (ops : List (QOp n)) s l, Decidable (Tracks ops s l)
  | [], s, l => inferInstanceAs (Decidable (Holds s.heap s.queue l))
  | op :: ops, s, l =>
    match e : op.exec s with
    | .ok (r, s') =>
      have := Tracks.decidable ops s' (op.fifo l).2
      decidable_of_iff (Holds s.heap s.queue l ∧ r = (op.fifo l).1 ∧ (op.Idle l → s' = s) ∧
        Tracks ops s' (op.fifo l).2) (by simp only [Tracks, e])
    | .error _ => .isFalse (by simp [Tracks, e])

theorem Tracks.holds {ops : List (QOp n)} {s : QState n} {l : List (Fin n)}
    (h : Tracks ops s l) : Holds s.heap s.queue l := by
  cases ops with
  | nil => exact h
  | cons op ops => exact h.1

/-- A call that takes the oldest task, if it removes one, is a list operation. -/
theorem exec_fifo {s : QState n} {l : List (Fin n)} (h : Holds s.heap s.queue l) (op : QOp n)
    (allowed : op.Allowed l) (oldest : op.TakesOldest l) :
    ∃ s', op.exec s = .ok ((op.fifo l).1, s') ∧ (op.Idle l → s' = s) ∧
      Holds s'.heap s'.queue (op.fifo l).2 := by
  cases op with
  | add task =>
    obtain ⟨heap, queue, called, holds⟩ := qAddTask_holds h allowed
    exact ⟨⟨heap, queue⟩, by simp [QOp.exec, QOp.fifo, called], False.elim, holds⟩
  | get =>
    cases l with
    | nil => exact absurd rfl allowed
    | cons task l =>
      obtain ⟨heap, queue, called, holds⟩ := qGetTask_holds h
      exact ⟨⟨heap, queue⟩, by simp [QOp.exec, QOp.fifo, called], False.elim, holds⟩
  | remove task =>
    by_cases mem : task ∈ l
    · obtain ⟨l, rfl⟩ := List.head?_eq_some_iff.mp (oldest mem)
      obtain ⟨heap, queue, called, holds⟩ := qRemoveTask_oldest h
      exact ⟨⟨heap, queue⟩, by simp [QOp.exec, QOp.fifo, called],
        fun idle => absurd mem idle, by simpa [QOp.fifo] using holds⟩
    · exact ⟨s, by simp [QOp.exec, QOp.fifo, mem, qRemoveTask_absent h mem],
        fun _ => rfl, by simpa [QOp.fifo, mem] using h⟩

/-- Removing a queued task other than the oldest leaves a queue that holds no
list without it. -/
theorem exec_not_oldest {s s' : QState n} {l : List (Fin n)} (h : Holds s.heap s.queue l)
    {op : QOp n} (younger : ¬ op.TakesOldest l) {r : Option (Fin n)}
    (called : op.exec s = .ok (r, s')) : ¬ Holds s'.heap s'.queue (op.fifo l).2 := by
  cases op with
  | add | get => exact absurd trivial younger
  | remove task =>
    obtain ⟨mem, hne⟩ := Classical.not_imp.mp younger
    obtain ⟨xs, ys, rfl⟩ := List.append_of_mem mem
    rcases List.eq_nil_or_concat xs with rfl | ⟨xs, before, rfl⟩
    · exact absurd rfl hne
    · have h' : Holds s.heap s.queue (xs ++ before :: task :: ys) := by simpa using h
      obtain ⟨heap, queue, removed, path⟩ := qRemoveTask_broken h'
      have eq : s' = ⟨heap, queue⟩ := by
        simp only [QOp.exec, removed] at called
        cases called
        rfl
      subst eq
      intro holds
      have same := path.det holds.forward
      have gone : task ∉ (QOp.fifo (.remove task) (xs.concat before ++ task :: ys)).2 := by
        simp only [QOp.fifo, if_pos mem]
        exact h.nodup.not_mem_erase
      exact gone (same ▸ by simp)

/-- Along any sequence of calls on a queue that starts empty, the queue is a
FIFO list exactly when every removal of a queued task takes the oldest one. -/
theorem queue_refines_fifo_iff (heap : Heap n) (ops : List (QOp n))
    (allowed : Along QOp.Allowed ops []) :
    Tracks ops ⟨heap, {}⟩ [] ↔ Along QOp.TakesOldest ops [] := by
  suffices run : ∀ (ops : List (QOp n)) (s : QState n) (l : List (Fin n)),
      Holds s.heap s.queue l → Along QOp.Allowed ops l →
      (Tracks ops s l ↔ Along QOp.TakesOldest ops l) from
    run ops ⟨heap, {}⟩ [] (holds_empty heap) allowed
  intro ops
  induction ops with
  | nil => exact fun s l h _ => ⟨fun _ => trivial, fun _ => h⟩
  | cons op ops ih =>
    intro s l h allowed
    constructor
    · rintro ⟨_, step⟩
      cases called : op.exec s with
      | error _ => simp [called] at step
      | ok out =>
        obtain ⟨r, s'⟩ := out
        simp only [called] at step
        refine ⟨?_, (ih s' _ step.2.2.holds allowed.2).mp step.2.2⟩
        by_contra younger
        exact exec_not_oldest h younger called step.2.2.holds
    · rintro ⟨oldest, rest⟩
      obtain ⟨s', called, idle, holds⟩ := exec_fifo h op allowed.1 oldest
      refine ⟨h, ?_⟩
      simp only [called]
      exact ⟨trivial, idle, (ih s' _ holds allowed.2).mpr rest⟩

theorem queue_refines_fifo_run :
    Along QOp.Allowed [.add (0 : Fin 3), .add 1, .remove 2, .remove 0, .get] [] ∧
    (Tracks [.add (0 : Fin 3), .add 1, .remove 2, .remove 0, .get] ⟨fun _ => {}, {}⟩ [] ↔
      Along QOp.TakesOldest [.add (0 : Fin 3), .add 1, .remove 2, .remove 0, .get] []) :=
  ⟨by decide, queue_refines_fifo_iff _ _ (by decide)⟩

/-- Two tasks are queued and the younger one is removed. -/
theorem queue_loses_fifo :
    Along QOp.Allowed [.add (0 : Fin 2), .add 1, .remove 1] [] ∧
    ¬ Tracks [.add (0 : Fin 2), .add 1, .remove 1] ⟨fun _ => {}, {}⟩ [] := by
  decide

end Muxx
