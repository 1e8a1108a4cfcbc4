import Muxx.Lib.Chain
import Muxx.Types

/-!
# Task queues

muxx_taskqueues.c over a task control table of `n` entries, and what each
operation does to a queue that holds a list of tasks:

* `findTask_hang`: the steps that the search is given decide whether it ends;
* `Holds`: head, tail, count and the links of the tasks agree with a list;
* `qAddTask_holds`, `qGetTask_holds`, `qRemoveTask_absent`,
  `qRemoveTask_oldest`: the operations that keep such an agreement;
* `qRemoveTask_broken`: removing any other task of the queue destroys it;
* `Holds.frame`, `unlinked`: what the operations leave alone.
-/

namespace Muxx

open Chain

variable {n : Nat}

abbrev Heap (n : Nat) := Fin n → TCB n

def nextOf (heap : Heap n) : Fin n → Option (Fin n) := fun i => (heap i).nextInQueue

def prevOf (heap : Heap n) : Fin n → Option (Fin n) := fun i => (heap i).prevInQueue

def setNext (heap : Heap n) (i : Fin n) (p : Option (Fin n)) : Heap n :=
  Function.update heap i { heap i with nextInQueue := p }

def setPrev (heap : Heap n) (i : Fin n) (p : Option (Fin n)) : Heap n :=
  Function.update heap i { heap i with prevInQueue := p }

/-- A task control block without its queue links. -/
def TCB.unlinked (t : TCB n) : TCB n := { t with nextInQueue := none, prevInQueue := none }

section Links
variable (heap : Heap n) (i j : Fin n) (p : Option (Fin n))

@[simp] theorem setNext_next :
    nextOf (setNext heap i p) j = if j = i then p else nextOf heap j := by
  unfold nextOf setNext
  by_cases h : j = i
  · subst h; simp
  · simp [h]

@[simp] theorem setNext_prev : prevOf (setNext heap i p) j = prevOf heap j := by
  unfold prevOf setNext
  by_cases h : j = i
  · subst h; simp
  · simp [h]

@[simp] theorem setPrev_next : nextOf (setPrev heap i p) j = nextOf heap j := by
  unfold nextOf setPrev
  by_cases h : j = i
  · subst h; simp
  · simp [h]

@[simp] theorem setPrev_prev :
    prevOf (setPrev heap i p) j = if j = i then p else prevOf heap j := by
  unfold prevOf setPrev
  by_cases h : j = i
  · subst h; simp
  · simp [h]

@[simp] theorem setNext_unlinked : (setNext heap i p j).unlinked = (heap j).unlinked := by
  unfold setNext
  by_cases h : j = i
  · subst h; simp [TCB.unlinked]
  · simp [h]

@[simp] theorem setPrev_unlinked : (setPrev heap i p j).unlinked = (heap j).unlinked := by
  unfold setPrev
  by_cases h : j = i
  · subst h; simp [TCB.unlinked]
  · simp [h]

end Links

/-! ## The operations -/

def qAddTask (heap : Heap n) (queue : TQUEUE n) (task : Fin n) :
    Except Fault (Heap n × TQUEUE n) :=
  if queue.count ≠ 0 then
    match queue.tail with
    | none => .error .nullref
    | some last =>
      let heap := setNext heap last (some task)
      let heap := setPrev heap task (some last)
      let heap := setNext heap task none
      .ok (heap, { queue with count := queue.count + 1, tail := some task })
  else
    let heap := setNext (setPrev heap task none) task none
    .ok (heap, { head := some task, tail := some task, count := 1 })

/-- On an empty queue the C code clears the links of a null task. -/
def qGetTask (heap : Heap n) (queue : TQUEUE n) : Except Fault (Fin n × Heap n × TQUEUE n) :=
  if queue.count > 0 then
    match queue.head with
    | none => .error .nullref
    | some theTask =>
      let queue := { queue with head := nextOf heap theTask, count := queue.count - 1 }
      if queue.count = 0 then
        .ok (theTask, setNext (setPrev heap theTask none) theTask none,
          { queue with head := none, tail := none })
      else
        match queue.head with
        | none => .error .nullref
        | some first =>
          let heap := setPrev heap first none
          .ok (theTask, setNext (setPrev heap theTask none) theTask none, queue)
  else
    .error .nullref

/-- The pointer writes of muxx_qRemoveTask once the task is found. The first
one stores into the task's own `prevInQueue`, not into its predecessor. -/
def unlinkTask (heap : Heap n) (queue : TQUEUE n) (theTask : Fin n) : Heap n × TQUEUE n :=
  let (heap, queue) :=
    match prevOf heap theTask with
    | some _ => (setPrev heap theTask (nextOf heap theTask), queue)
    | none => (heap, { queue with head := nextOf heap theTask })
  let (heap, queue) :=
    match nextOf heap theTask with
    | some after => (setPrev heap after (prevOf heap theTask), queue)
    | none => (heap, { queue with tail := prevOf heap theTask })
  (setPrev (setNext heap theTask none) theTask none, { queue with count := queue.count - 1 })

/-- The search of muxx_qRemoveTask: from the head along `nextInQueue`. -/
def findTask (heap : Heap n) (queue : TQUEUE n) (task : Fin n) : Option (Option (Fin n)) :=
  walk (fun i => i == task) (nextOf heap) n queue.head

def qRemoveTask (heap : Heap n) (queue : TQUEUE n) (task : Fin n) :
    Except Fault (Option (Fin n) × Heap n × TQUEUE n) :=
  if queue.count = 0 then .ok (none, heap, queue)
  else
    match findTask heap queue task with
    | none => .error .hang
    | some none => .ok (none, heap, queue)
    | some (some theTask) =>
      let (heap, queue) := unlinkTask heap queue theTask
      .ok (some theTask, heap, queue)

/-- A search that has not ended after visiting `n` tasks never ends. -/
theorem findTask_hang {heap : Heap n} {queue : TQUEUE n} {task : Fin n}
    (h : findTask heap queue task = none) (fuel : Nat) :
    walk (fun i => i == task) (nextOf heap) fuel queue.head = none :=
  walk_none_forever (by simp) h fuel

/-! ## A queue that holds a list of tasks -/

/-- The queue holds the tasks of `l`, oldest first. -/
structure Holds (heap : Heap n) (queue : TQUEUE n) (l : List (Fin n)) : Prop where
  count : queue.count = l.length
  forward : Chain.Path (nextOf heap) queue.head l
  last : queue.tail = l.getLast?
  backward : Back (prevOf heap) none l

instance (heap : Heap n) (queue : TQUEUE n) (l : List (Fin n)) :
    Decidable (Holds heap queue l) :=
  decidable_of_iff (queue.count = l.length ∧ Chain.Path (nextOf heap) queue.head l ∧
      queue.tail = l.getLast? ∧ Back (prevOf heap) none l)
    ⟨fun ⟨a, b, c, d⟩ => ⟨a, b, c, d⟩, fun ⟨a, b, c, d⟩ => ⟨a, b, c, d⟩⟩

section Operations
variable {heap : Heap n} {queue : TQUEUE n} {l : List (Fin n)} {task : Fin n}

theorem holds_empty (heap : Heap n) : Holds heap {} [] :=
  ⟨rfl, rfl, rfl, trivial⟩

theorem Holds.nodup (h : Holds heap queue l) : l.Nodup := h.forward.nodup

theorem Holds.unique (h : Holds heap queue l) {l' : List (Fin n)} (h' : Holds heap queue l') :
    l = l' := h.forward.det h'.forward

/-- Only the links of its own tasks matter to a queue. -/
theorem Holds.frame (h : Holds heap queue l) {heap' : Heap n}
    (next : ∀ i ∈ l, nextOf heap' i = nextOf heap i)
    (prev : ∀ i ∈ l, prevOf heap' i = prevOf heap i) : Holds heap' queue l :=
  ⟨h.count, h.forward.congr next, h.last, h.backward.congr prev⟩

/-- `prevInQueue` is the inverse of `nextInQueue` on the queue. -/
theorem Holds.inverse (h : Holds heap queue l) {a b : Fin n} (ha : a ∈ l)
    (hab : nextOf heap a = some b) : prevOf heap b = some a := by
  obtain ⟨xs, ys, rfl⟩ := List.append_of_mem ha
  have tail := (Chain.Path.suffix h.forward).2
  rw [hab] at tail
  cases ys with
  | nil => cases tail
  | cons c ys =>
    obtain ⟨hc, _⟩ := tail
    cases hc
    exact Back.pred h.backward

theorem findTask_holds (h : Holds heap queue l) :
    findTask heap queue task = some (if task ∈ l then some task else none) := by
  have bound : l.length ≤ n := by simpa using h.forward.length_le
  rw [findTask, walk_path h.forward bound]
  congr 1
  split
  · rename_i mem
    obtain ⟨xs, ys, rfl⟩ := List.append_of_mem mem
    have fresh : task ∉ xs := fun hx =>
      (List.nodup_append.mp h.nodup).2.2 task hx task List.mem_cons_self rfl
    rw [List.find?_append, List.find?_cons_of_pos (by simp)]
    have missed : xs.find? (fun i => i == task) = none := by
      refine List.find?_eq_none.mpr fun x hx => ?_
      simpa using fun he : x = task => fresh (he ▸ hx)
    rw [missed]
    rfl
  · rename_i absent
    refine List.find?_eq_none.mpr fun x hx => ?_
    simpa using fun he : x = task => absent (he ▸ hx)

theorem qAddTask_empty (h : queue.count = 0) :
    qAddTask heap queue task =
      .ok (setNext (setPrev heap task none) task none,
        { head := some task, tail := some task, count := 1 }) := by
  simp [qAddTask, h]

theorem qAddTask_nonempty {last : Fin n} (h : queue.count ≠ 0) (hl : queue.tail = some last) :
    qAddTask heap queue task =
      .ok (setNext (setPrev (setNext heap last (some task)) task (some last)) task none,
        { queue with count := queue.count + 1, tail := some task }) := by
  simp [qAddTask, h, hl]

theorem qAddTask_holds (h : Holds heap queue l) (fresh : task ∉ l) :
    ∃ heap' queue', qAddTask heap queue task = .ok (heap', queue') ∧
      Holds heap' queue' (l ++ [task]) := by
  cases hl : l.getLast? with
  | none =>
    have nil : l = [] := List.getLast?_eq_none_iff.mp hl
    subst nil
    refine ⟨_, _, qAddTask_empty h.count, rfl, ?_, rfl, ?_⟩
    · simp [Chain.Path]
    · simp [Back]
  | some last =>
    have some_last : queue.tail = some last := h.last.trans hl
    have nonempty : queue.count ≠ 0 := by
      rw [h.count]; intro hz; rw [List.length_eq_zero_iff.mp hz] at hl; cases hl
    have last_ne : last ≠ task := fun he => fresh (he ▸ List.mem_of_getLast? hl)
    refine ⟨_, _, qAddTask_nonempty nonempty some_last, ?_, ?_, ?_, ?_⟩
    · simp [h.count]
    · apply Chain.Path.snoc h.forward hl
      · simp [last_ne]
      · simp
      · intro c hc hne
        have : c ≠ task := fun he => fresh (he ▸ hc)
        simp [hne, this]
    · simp
    · refine Back.snoc (h.backward.congr ?_) ?_
      · intro c hc
        have : c ≠ task := fun he => fresh (he ▸ hc)
        simp [this]
      · simp [hl]

theorem qGetTask_single (hc : queue.count = 1) (hh : queue.head = some task) :
    qGetTask heap queue =
      .ok (task, setNext (setPrev heap task none) task none, {}) := by
  simp [qGetTask, hc, hh]

theorem qGetTask_many {first : Fin n} (hc : 1 < queue.count) (hh : queue.head = some task)
    (hn : nextOf heap task = some first) :
    qGetTask heap queue =
      .ok (task, setNext (setPrev (setPrev heap first none) task none) task none,
        { queue with head := some first, count := queue.count - 1 }) := by
  have more : queue.count - 1 ≠ 0 := by omega
  have pos : 0 < queue.count := by omega
  simp [qGetTask, hh, hn, more, pos]

theorem qGetTask_holds (h : Holds heap queue (task :: l)) :
    ∃ heap' queue', qGetTask heap queue = .ok (task, heap', queue') ∧
      Holds heap' queue' l := by
  obtain ⟨head, forward⟩ := h.forward
  have nodup := List.nodup_cons.mp h.nodup
  have apart : ∀ c ∈ l, c ≠ task := fun c hc he => nodup.1 (he ▸ hc)
  cases l with
  | nil =>
    exact ⟨_, _, qGetTask_single h.count head, rfl, rfl, rfl, trivial⟩
  | cons first l =>
    have first_next : nextOf heap task = some first := forward.1
    have many : 1 < queue.count := by simp [h.count]
    refine ⟨_, _, qGetTask_many many head first_next, ?_, ?_, ?_, ?_⟩
    · simp [h.count]
    · rw [← first_next]
      exact forward.congr fun c hc => by simp [apart c hc]
    · simpa [List.getLast?_cons_cons] using h.last
    · refine ⟨by simp [apart first List.mem_cons_self], h.backward.2.2.congr ?_⟩
      intro c hc
      have : c ≠ first := fun he => (List.nodup_cons.mp nodup.2).1 (he ▸ hc)
      simp [apart c (List.mem_cons_of_mem _ hc), this]

theorem qRemoveTask_absent (h : Holds heap queue l) (absent : task ∉ l) :
    qRemoveTask heap queue task = .ok (none, heap, queue) := by
  unfold qRemoveTask
  rw [findTask_holds h, if_neg absent]
  split <;> rfl

theorem qRemoveTask_found (h : Holds heap queue l) (mem : task ∈ l) :
    qRemoveTask heap queue task =
      .ok (some task, unlinkTask heap queue task) := by
  have nonempty : queue.count ≠ 0 := by
    rw [h.count]; intro hz; rw [List.length_eq_zero_iff.mp hz] at mem; cases mem
  unfold qRemoveTask
  rw [if_neg nonempty, findTask_holds h, if_pos mem]

theorem qRemoveTask_oldest (h : Holds heap queue (task :: l)) :
    ∃ heap' queue', qRemoveTask heap queue task = .ok (some task, heap', queue') ∧
      Holds heap' queue' l := by
  refine ⟨(unlinkTask heap queue task).1, (unlinkTask heap queue task).2,
    qRemoveTask_found h List.mem_cons_self, ?_⟩
  have first_prev : prevOf heap task = none := h.backward.1
  have nodup := List.nodup_cons.mp h.nodup
  have apart : ∀ c ∈ l, c ≠ task := fun c hc he => nodup.1 (he ▸ hc)
  cases l with
  | nil =>
    have next : nextOf heap task = none := h.forward.2
    simp only [unlinkTask, first_prev, next]
    exact ⟨by simp [h.count], rfl, rfl, trivial⟩
  | cons first l =>
    obtain ⟨next, rest⟩ := h.forward.2
    simp only [unlinkTask, first_prev, next]
    refine ⟨by simp [h.count], ⟨rfl, ?_⟩, ?_, ⟨?_, ?_⟩⟩
    · simp only [setPrev_next, setNext_next, apart first List.mem_cons_self, if_false]
      exact rest.congr fun c hc => by simp [apart c (List.mem_cons_of_mem _ hc)]
    · simpa [List.getLast?_cons_cons] using h.last
    · simp [apart first List.mem_cons_self]
    · refine h.backward.2.2.congr fun c hc => ?_
      have : c ≠ first := fun he => (List.nodup_cons.mp nodup.2).1 (he ▸ hc)
      simp [apart c (List.mem_cons_of_mem _ hc), this]

/-- The predecessor of a task that is not the oldest keeps its link to it, so
the queue still leads to the task it has given up. -/
theorem qRemoveTask_broken {xs ys : List (Fin n)} {before : Fin n}
    (h : Holds heap queue (xs ++ before :: task :: ys)) :
    ∃ heap' queue', qRemoveTask heap queue task = .ok (some task, heap', queue') ∧
      Chain.Path (nextOf heap') queue'.head (xs ++ [before, task]) := by
  refine ⟨(unlinkTask heap queue task).1, (unlinkTask heap queue task).2,
    qRemoveTask_found h (by simp), ?_⟩
  have pred : prevOf heap task = some before := Back.pred h.backward
  have fresh : ∀ c ∈ xs ++ [before], c ≠ task := by
    have nodup : ((xs ++ [before]) ++ task :: ys).Nodup := by simpa using h.nodup
    exact fun c hc => (List.nodup_append.mp nodup).2.2 c hc task List.mem_cons_self
  have path : Chain.Path (nextOf heap) queue.head ((xs ++ [before]) ++ task :: ys) := by
    simpa using h.forward
  rw [show xs ++ [before, task] = (xs ++ [before]) ++ [task] by simp]
  cases hn : nextOf heap task with
  | none =>
    simp only [unlinkTask, pred, setPrev_next, hn]
    exact path.cut (by simp) fun c hc => by simp [fresh c hc]
  | some after =>
    simp only [unlinkTask, pred, setPrev_next, hn]
    exact path.cut (by simp) fun c hc => by simp [fresh c hc]

end Operations

/-! ## What the operations leave alone -/

section Frame
variable {heap heap' : Heap n} {queue queue' : TQUEUE n} {task : Fin n}

theorem qAddTask_unlinked (h : qAddTask heap queue task = .ok (heap', queue')) (j : Fin n) :
    (heap' j).unlinked = (heap j).unlinked := by
  unfold qAddTask at h
  split at h
  · cases hl : queue.tail with
    | none => simp [hl] at h
    | some last =>
      simp only [hl, Except.ok.injEq, Prod.mk.injEq] at h
      rw [← h.1]; simp
  · simp only [Except.ok.injEq, Prod.mk.injEq] at h
    rw [← h.1]; simp

theorem qGetTask_unlinked (h : qGetTask heap queue = .ok (task, heap', queue')) (j : Fin n) :
    (heap' j).unlinked = (heap j).unlinked := by
  unfold qGetTask at h
  split at h
  · cases hh : queue.head with
    | none => simp [hh] at h
    | some first =>
      simp only [hh] at h
      split at h
      · simp only [Except.ok.injEq, Prod.mk.injEq] at h
        rw [← h.2.1]; simp
      · cases hn : nextOf heap first with
        | none => simp [hn] at h
        | some second =>
          simp only [hn, Except.ok.injEq, Prod.mk.injEq] at h
          rw [← h.2.1]; simp
  · cases h

theorem unlinkTask_unlinked (j : Fin n) :
    ((unlinkTask heap queue task).1 j).unlinked = (heap j).unlinked := by
  cases hp : prevOf heap task <;> cases hn : nextOf heap task <;> simp [unlinkTask, hp, hn]

theorem qRemoveTask_unlinked {r : Option (Fin n)}
    (h : qRemoveTask heap queue task = .ok (r, heap', queue')) (j : Fin n) :
    (heap' j).unlinked = (heap j).unlinked := by
  unfold qRemoveTask at h
  split at h
  · cases h; rfl
  · split at h
    · cases h
    · cases h; rfl
    · cases h; exact unlinkTask_unlinked j

variable {l : List (Fin n)} {j : Fin n}

/-- An operation writes no links but those of the queue's own tasks and of
the task it is given. -/
theorem qAddTask_links (holds : Holds heap queue l)
    (h : qAddTask heap queue task = .ok (heap', queue')) (out : j ∉ l) (other : j ≠ task) :
    nextOf heap' j = nextOf heap j ∧ prevOf heap' j = prevOf heap j := by
  unfold qAddTask at h
  split at h
  · cases hl : queue.tail with
    | none => simp [hl] at h
    | some last =>
      have mem : last ∈ l := List.mem_of_getLast? (holds.last.symm.trans hl)
      have apart : j ≠ last := fun he => out (he ▸ mem)
      simp only [hl, Except.ok.injEq, Prod.mk.injEq] at h
      rw [← h.1]
      simp [other, apart]
  · simp only [Except.ok.injEq, Prod.mk.injEq] at h
    rw [← h.1]
    simp [other]

theorem qGetTask_links (holds : Holds heap queue l)
    (h : qGetTask heap queue = .ok (task, heap', queue')) (out : j ∉ l) :
    nextOf heap' j = nextOf heap j ∧ prevOf heap' j = prevOf heap j := by
  cases l with
  | nil => simp [qGetTask, show queue.count = 0 from holds.count] at h
  | cons first l =>
    have head : queue.head = some first := holds.forward.1
    have apart : j ≠ first := fun he => out (by simp [he])
    cases l with
    | nil =>
      rw [qGetTask_single holds.count head] at h
      cases h
      simp [apart]
    | cons second l =>
      have apart' : j ≠ second := fun he => out (by simp [he])
      rw [qGetTask_many (by simp [holds.count]) head holds.forward.2.1] at h
      cases h
      simp [apart, apart']

theorem unlinkTask_links {xs ys : List (Fin n)} (holds : Holds heap queue (xs ++ task :: ys))
    (out : j ∉ xs ++ task :: ys) :
    nextOf (unlinkTask heap queue task).1 j = nextOf heap j ∧
      prevOf (unlinkTask heap queue task).1 j = prevOf heap j := by
  have apart : j ≠ task := fun he => out (by simp [he])
  have after : ∀ t, nextOf heap task = some t → j ≠ t := by
    rintro t next rfl
    have rest := (Chain.Path.suffix holds.forward).2
    rw [next] at rest
    cases ys with
    | nil => cases rest
    | cons y ys =>
      cases rest.1
      exact out (by simp)
  cases hp : prevOf heap task <;> cases hn : nextOf heap task <;>
    simp [unlinkTask, hp, hn, apart, after]

theorem qRemoveTask_links {r : Option (Fin n)} (holds : Holds heap queue l)
    (h : qRemoveTask heap queue task = .ok (r, heap', queue')) (out : j ∉ l) :
    nextOf heap' j = nextOf heap j ∧ prevOf heap' j = prevOf heap j := by
  by_cases mem : task ∈ l
  · rw [qRemoveTask_found holds mem] at h
    cases h
    obtain ⟨xs, ys, rfl⟩ := List.append_of_mem mem
    exact unlinkTask_links holds out
  · rw [qRemoveTask_absent holds mem] at h
    cases h
    exact ⟨rfl, rfl⟩

end Frame

/-! ## Which tasks can be met

Whatever state the queues are in, the operations only pass on tasks that they
were given. -/

def LinksIn (P : Fin n → Prop) (heap : Heap n) : Prop :=
  ∀ i t, nextOf heap i = some t ∨ prevOf heap i = some t → P t

def EndsIn (P : Fin n → Prop) (queue : TQUEUE n) : Prop :=
  ∀ t, queue.head = some t ∨ queue.tail = some t → P t

section Within
variable {P : Fin n → Prop} {heap heap' : Heap n} {queue queue' : TQUEUE n} {task i : Fin n}
variable {p : Option (Fin n)}

theorem linksIn_setNext (h : LinksIn P heap) (hp : ∀ t, p = some t → P t) :
    LinksIn P (setNext heap i p) := by
  intro j t link
  rw [setNext_next, setNext_prev] at link
  split at link
  · exact link.elim (hp t) fun hb => h j t (.inr hb)
  · exact h j t link

theorem linksIn_setPrev (h : LinksIn P heap) (hp : ∀ t, p = some t → P t) :
    LinksIn P (setPrev heap i p) := by
  intro j t link
  rw [setPrev_next, setPrev_prev] at link
  split at link
  · exact link.elim (fun hn => h j t (.inl hn)) (hp t)
  · exact h j t link

theorem linksIn_clear (h : LinksIn P heap) (i j : Fin n) :
    LinksIn P (setNext (setPrev heap i none) j none) :=
  linksIn_setNext (linksIn_setPrev h (by simp)) (by simp)

theorem qAddTask_within (links : LinksIn P heap) (ends : EndsIn P queue) (given : P task)
    (h : qAddTask heap queue task = .ok (heap', queue')) : LinksIn P heap' ∧ EndsIn P queue' := by
  have new : ∀ t, some task = some t → P t := fun t ht => Option.some.inj ht ▸ given
  unfold qAddTask at h
  split at h
  · cases hl : queue.tail with
    | none => simp [hl] at h
    | some last =>
      have before : ∀ t, some last = some t → P t := fun t ht => ends t (.inr (hl.trans ht))
      simp only [hl, Except.ok.injEq, Prod.mk.injEq] at h
      obtain ⟨rfl, rfl⟩ := h
      exact ⟨linksIn_setNext (linksIn_setPrev (linksIn_setNext links new) before) (by simp),
        fun t ht => ht.elim (fun hh => ends t (.inl hh)) (new t)⟩
  · simp only [Except.ok.injEq, Prod.mk.injEq] at h
    obtain ⟨rfl, rfl⟩ := h
    exact ⟨linksIn_clear links _ _, fun t ht => ht.elim (new t) (new t)⟩

theorem qGetTask_within (links : LinksIn P heap) (ends : EndsIn P queue)
    (h : qGetTask heap queue = .ok (task, heap', queue')) :
    P task ∧ LinksIn P heap' ∧ EndsIn P queue' := by
  unfold qGetTask at h
  split at h
  · cases hh : queue.head with
    | none => simp [hh] at h
    | some first =>
      have given : P first := ends first (.inl hh)
      simp only [hh] at h
      split at h
      · simp only [Except.ok.injEq, Prod.mk.injEq] at h
        obtain ⟨rfl, rfl, rfl⟩ := h
        exact ⟨given, linksIn_clear links _ _, by simp [EndsIn]⟩
      · cases hn : nextOf heap first with
        | none => simp [hn] at h
        | some second =>
          simp only [hn, Except.ok.injEq, Prod.mk.injEq] at h
          obtain ⟨rfl, rfl, rfl⟩ := h
          refine ⟨given, linksIn_clear (linksIn_setPrev links (by simp)) _ _,
            fun t ht => ht.elim (fun hs => ?_) ?_⟩
          · exact links first t (.inl (hn.trans hs))
          · exact fun hl => ends t (.inr hl)
  · cases h

theorem unlinkTask_within (links : LinksIn P heap) (ends : EndsIn P queue) :
    LinksIn P (unlinkTask heap queue task).1 ∧ EndsIn P (unlinkTask heap queue task).2 := by
  have next : ∀ t, nextOf heap task = some t → P t := fun t ht => links task t (.inl ht)
  have head : ∀ t, queue.head = some t → P t := fun t ht => ends t (.inl ht)
  have tail : ∀ t, queue.tail = some t → P t := fun t ht => ends t (.inr ht)
  have done {heap : Heap n} (h : LinksIn P heap) :
      LinksIn P (setPrev (setNext heap task none) task none) :=
    linksIn_setPrev (linksIn_setNext h (by simp)) (by simp)
  cases hp : prevOf heap task with
  | none =>
    cases hn : nextOf heap task with
    | none =>
      simp only [unlinkTask, hp, hn]
      exact ⟨done links, by simp [EndsIn]⟩
    | some after =>
      simp only [unlinkTask, hp, hn]
      exact ⟨done (linksIn_setPrev links (by simp)), fun t ht =>
        ht.elim (fun h => next t (hn.trans h)) (tail t)⟩
  | some before =>
    cases hn : nextOf heap task with
    | none =>
      simp only [unlinkTask, hp, hn, setPrev_next, setPrev_prev, if_true]
      exact ⟨done (linksIn_setPrev links (by simp)), fun t ht => ht.elim (head t) (by simp)⟩
    | some after =>
      have given : ∀ t, some after = some t → P t := fun t ht => next t (hn.trans ht)
      simp only [unlinkTask, hp, hn, setPrev_next, setPrev_prev, if_true]
      exact ⟨done (linksIn_setPrev (linksIn_setPrev links given) given), ends⟩

theorem qRemoveTask_within {r : Option (Fin n)} (links : LinksIn P heap) (ends : EndsIn P queue)
    (h : qRemoveTask heap queue task = .ok (r, heap', queue')) :
    LinksIn P heap' ∧ EndsIn P queue' := by
  unfold qRemoveTask at h
  split at h
  · cases h; exact ⟨links, ends⟩
  · split at h
    · cases h
    · cases h; exact ⟨links, ends⟩
    · cases h; exact unlinkTask_within links ends

end Within

end Muxx
