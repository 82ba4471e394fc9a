import Mathlib.Algebra.BigOperators.Group.List.Basic
import Mathlib.Algebra.Ring.Nat

/-!
# Kernel: bounded pipes whose writers take turns

A pipe is a buffer of bounded capacity and a queue of writers.  The writer at
the head holds the pipe: it writes what fits, waits while the buffer is full,
and leaves once all its data is in.  The others wait for their turn.

A writer *fits* when the data due up to and including its own turn goes into
the free space: then it finishes without any read.  When the data due exceeds
the free space, the queue can be run up to a point where the holder waits.

**Results.**
* `Fits.write`, `Fits.release`, `Fits.read`, `Fits.enqueue`: a writer that fits
  keeps fitting until it leaves.
* `Fits.not_holderBlocked`: while a writer fits, the holder does not wait.
* `drains_to_blocked`: when a writer's data exceeds the free space, the holder
  can come to wait before that writer has left.
-/

namespace Rttx
namespace Kernel

universe u v

/-- A bounded buffer and the writers in the order of their turns. -/
structure BoundedPipe (τ : Type u) (α : Type v) where
  capacity : Nat
  buffer : List α
  bounded : buffer.length ≤ capacity
  writers : List (τ × List α)

namespace BoundedPipe

section Operations

variable {τ : Type u} {α : Type v}

def empty (capacity : Nat) : BoundedPipe τ α :=
  ⟨capacity, [], Nat.zero_le _, []⟩

/-- A task asks for the pipe. -/
def enqueue (p : BoundedPipe τ α) (t : τ) (data : List α) : BoundedPipe τ α :=
  { p with writers := p.writers ++ [(t, data)] }

theorem bounded_append {buffer data : List α} {capacity n : Nat}
    (h : buffer.length + n ≤ capacity) :
    (buffer ++ data.take n).length ≤ capacity := by
  simp only [List.length_append, List.length_take]
  omega

theorem bounded_drop {buffer : List α} {capacity : Nat}
    (h : buffer.length ≤ capacity)
    (n : Nat) :
    (buffer.drop n).length ≤ capacity := by
  rw [List.length_drop]
  omega

/-- The holder writes `n` items, which must fit. -/
def write (p : BoundedPipe τ α) (n : Nat) : Option (BoundedPipe τ α) :=
  match p.writers with
  | [] => none
  | (t, data) :: waiting =>
      if h : 0 < n ∧ n ≤ data.length ∧ p.buffer.length + n ≤ p.capacity then
        some
          { p with
            buffer := p.buffer ++ data.take n
            bounded := bounded_append h.2.2
            writers := (t, data.drop n) :: waiting }
      else
        none

/-- The holder leaves when all its data is written. -/
def release (p : BoundedPipe τ α) : Option (τ × BoundedPipe τ α) :=
  match p.writers with
  | (t, []) :: waiting => some (t, { p with writers := waiting })
  | _ => none

/-- A reader takes `n` items. -/
def read (p : BoundedPipe τ α) (n : Nat) : Option (List α × BoundedPipe τ α) :=
  if 0 < n ∧ n ≤ p.buffer.length then
    some
      (p.buffer.take n,
        { p with
          buffer := p.buffer.drop n
          bounded := bounded_drop p.bounded n })
  else
    none

def full (p : BoundedPipe τ α) : Bool :=
  p.buffer.length = p.capacity

/-- The holder has data left and the buffer is full. -/
def holderBlocked (p : BoundedPipe τ α) : Bool :=
  match p.writers with
  | (_, _ :: _) :: _ => p.full
  | _ => false

/-- The tasks that hold the pipe or wait for it. -/
def tasks (p : BoundedPipe τ α) : List τ :=
  p.writers.map Prod.fst

/-- The data of all writers. -/
def due (p : BoundedPipe τ α) : Nat :=
  (p.writers.map (fun w => w.2.length)).sum

variable [DecidableEq τ]

/-- The data due up to and including the first turn of `t`. -/
def dueThrough (t : τ) : List (τ × List α) → Nat
  | [] => 0
  | (u, data) :: waiting =>
      if u = t then data.length else data.length + dueThrough t waiting

/-- The task has a turn, and what is due up to it goes into the free space. -/
structure Fits (p : BoundedPipe τ α) (t : τ) : Prop where
  turn : t ∈ p.tasks
  room : dueThrough t p.writers + p.buffer.length ≤ p.capacity

end Operations

section Steps

variable {τ : Type u} {α : Type v}

/-- A write moves the front of the holder's data to the buffer. -/
theorem write_eq_some {p p' : BoundedPipe τ α} {n : Nat}
    (h : p.write n = some p') :
    ∃ t data waiting,
      p.writers = (t, data) :: waiting ∧
      n ≤ data.length ∧
      p'.writers = (t, data.drop n) :: waiting ∧
      p'.buffer = p.buffer ++ data.take n ∧
      p'.capacity = p.capacity := by
  cases hw : p.writers with
  | nil => simp [write, hw] at h
  | cons head waiting =>
      obtain ⟨t, data⟩ := head
      simp only [write, hw, Option.dite_none_right_eq_some, Option.some.injEq] at h
      obtain ⟨hn, rfl⟩ := h
      exact ⟨t, data, waiting, rfl, hn.2.1, rfl, rfl, rfl⟩

theorem release_eq_some {p p' : BoundedPipe τ α} {t : τ}
    (h : p.release = some (t, p')) :
    p.writers = (t, []) :: p'.writers ∧
      p'.buffer = p.buffer ∧
      p'.capacity = p.capacity := by
  cases hw : p.writers with
  | nil => simp [release, hw] at h
  | cons head waiting =>
      obtain ⟨u, data⟩ := head
      cases data with
      | nil =>
          simp only [release, hw, Option.some.injEq, Prod.mk.injEq] at h
          obtain ⟨rfl, rfl⟩ := h
          exact ⟨rfl, rfl, rfl⟩
      | cons a rest => simp [release, hw] at h

theorem read_eq_some {p p' : BoundedPipe τ α} {n : Nat} {taken : List α}
    (h : p.read n = some (taken, p')) :
    p'.writers = p.writers ∧
      p'.buffer = p.buffer.drop n ∧
      p'.capacity = p.capacity := by
  simp only [read, Option.ite_none_right_eq_some, Option.some.injEq, Prod.mk.injEq] at h
  obtain ⟨_, _, rfl⟩ := h
  exact ⟨rfl, rfl, rfl⟩

@[simp] theorem tasks_enqueue (p : BoundedPipe τ α) (t : τ) (data : List α) :
    (p.enqueue t data).tasks = p.tasks ++ [t] := by
  simp [tasks, enqueue]

theorem tasks_write {p p' : BoundedPipe τ α} {n : Nat}
    (h : p.write n = some p') :
    p'.tasks = p.tasks := by
  obtain ⟨t, data, waiting, hw, _, hw', _⟩ := write_eq_some h
  simp [tasks, hw, hw']

theorem tasks_release {p p' : BoundedPipe τ α} {t : τ}
    (h : p.release = some (t, p')) :
    p.tasks = t :: p'.tasks := by
  simp [tasks, (release_eq_some h).1]

theorem tasks_read {p p' : BoundedPipe τ α} {n : Nat} {taken : List α}
    (h : p.read n = some (taken, p')) :
    p'.tasks = p.tasks := by
  simp [tasks, (read_eq_some h).1]

end Steps

section Fitting

variable {τ : Type u} {α : Type v}
variable [DecidableEq τ]

/-- A later writer does not delay an earlier one. -/
theorem dueThrough_append_of_mem {t : τ} {ws : List (τ × List α)}
    (h : t ∈ ws.map Prod.fst)
    (more : List (τ × List α)) :
    dueThrough t (ws ++ more) = dueThrough t ws := by
  induction ws with
  | nil => simp at h
  | cons w rest ih =>
      obtain ⟨u, data⟩ := w
      simp only [List.cons_append, dueThrough]
      by_cases hu : u = t
      · simp [hu]
      · have hrest : t ∈ rest.map Prod.fst := by
          simpa [Ne.symm hu] using h
        simp [hu, ih hrest]

/-- A new writer waits for all that is due before it. -/
theorem dueThrough_append_of_not_mem {t : τ} {ws : List (τ × List α)}
    (h : t ∉ ws.map Prod.fst)
    (data : List α) :
    dueThrough t (ws ++ [(t, data)]) =
      (ws.map (fun w => w.2.length)).sum + data.length := by
  induction ws with
  | nil => simp [dueThrough]
  | cons w rest ih =>
      obtain ⟨u, d⟩ := w
      simp only [List.map_cons, List.mem_cons, not_or] at h
      simp only [List.cons_append, dueThrough, if_neg (Ne.symm h.1), ih h.2, List.map_cons,
        List.sum_cons]
      omega

theorem fits_enqueue {p : BoundedPipe τ α} {t : τ} {data : List α}
    (hnew : t ∉ p.tasks)
    (hroom : p.due + data.length + p.buffer.length ≤ p.capacity) :
    (p.enqueue t data).Fits t := by
  refine ⟨by simp, ?_⟩
  simp only [enqueue]
  rw [dueThrough_append_of_not_mem hnew data]
  exact hroom

theorem Fits.enqueue {p : BoundedPipe τ α} {t : τ}
    (h : p.Fits t)
    (u : τ)
    (data : List α) :
    (p.enqueue u data).Fits t := by
  refine ⟨by simp [h.turn], ?_⟩
  simp only [BoundedPipe.enqueue]
  rw [dueThrough_append_of_mem h.turn]
  exact h.room

/-- What the holder writes moves from the data due to the buffer. -/
theorem Fits.write {p p' : BoundedPipe τ α} {t : τ} {n : Nat}
    (h : p.Fits t)
    (hw : p.write n = some p') :
    p'.Fits t := by
  have hturn : t ∈ p'.tasks := by
    rw [tasks_write hw]
    exact h.turn
  obtain ⟨u, data, waiting, hwriters, hn, hwriters', hbuffer, hcapacity⟩ := write_eq_some hw
  refine ⟨hturn, ?_⟩
  have hroom := h.room
  rw [hwriters] at hroom
  rw [hwriters', hbuffer, hcapacity]
  simp only [dueThrough, List.length_append, List.length_take, List.length_drop] at hroom ⊢
  by_cases hu : u = t
  · rw [if_pos hu] at hroom ⊢
    omega
  · rw [if_neg hu] at hroom ⊢
    omega

theorem Fits.release {p p' : BoundedPipe τ α} {t u : τ}
    (h : p.Fits t)
    (hr : p.release = some (u, p'))
    (hne : u ≠ t) :
    p'.Fits t := by
  obtain ⟨hwriters, hbuffer, hcapacity⟩ := release_eq_some hr
  constructor
  · have hturn := h.turn
    rw [tasks_release hr] at hturn
    simpa [Ne.symm hne] using hturn
  · have hroom := h.room
    rw [hwriters] at hroom
    simp only [dueThrough, if_neg hne, List.length_nil, Nat.zero_add] at hroom
    rw [hcapacity, hbuffer]
    exact hroom

theorem Fits.read {p p' : BoundedPipe τ α} {t : τ} {n : Nat} {taken : List α}
    (h : p.Fits t)
    (hr : p.read n = some (taken, p')) :
    p'.Fits t := by
  obtain ⟨hwriters, hbuffer, hcapacity⟩ := read_eq_some hr
  constructor
  · rw [tasks_read hr]
    exact h.turn
  · have hroom := h.room
    rw [hwriters, hbuffer, hcapacity, List.length_drop]
    omega

/-- While a writer fits, the holder does not wait for a reader. -/
theorem Fits.not_holderBlocked {p : BoundedPipe τ α} {t : τ}
    (h : p.Fits t) :
    p.holderBlocked = false := by
  have hroom := h.room
  simp only [holderBlocked, full]
  split
  · rename_i hwriters
    simp only [hwriters, dueThrough, List.length_cons] at hroom
    simp only [decide_eq_false_iff_not]
    split at hroom <;> omega
  · rfl

end Fitting

section Draining

variable {τ : Type u} {α : Type v}

/-- Runs of writes and of turns ending, of tasks that may leave only. -/
inductive Drains (mayLeave : τ → Prop) : BoundedPipe τ α → BoundedPipe τ α → Prop
  | refl (p : BoundedPipe τ α) :
      Drains mayLeave p p
  | write {p p' p'' : BoundedPipe τ α} (n : Nat) :
      p.write n = some p' →
      Drains mayLeave p' p'' →
      Drains mayLeave p p''
  | release {p p' p'' : BoundedPipe τ α} (u : τ) :
      mayLeave u →
      p.release = some (u, p') →
      Drains mayLeave p' p'' →
      Drains mayLeave p p''

variable {mayLeave : τ → Prop}

theorem Drains.trans {p p' p'' : BoundedPipe τ α}
    (h : Drains mayLeave p p')
    (h' : Drains mayLeave p' p'') :
    Drains mayLeave p p'' := by
  induction h with
  | refl p => exact h'
  | write n hw _ ih => exact Drains.write n hw (ih h')
  | release u hu hr _ ih => exact Drains.release u hu hr (ih h')

variable (mayLeave)

/-- The holder writes `n` items, if there is anything to write. -/
theorem drains_write {u : τ} {p : BoundedPipe τ α} {data : List α}
    {waiting : List (τ × List α)} {n : Nat}
    (hwriters : p.writers = (u, data) :: waiting)
    (hlen : n ≤ data.length)
    (hroom : p.buffer.length + n ≤ p.capacity) :
    ∃ p',
      Drains mayLeave p p' ∧
      p'.writers = (u, data.drop n) :: waiting ∧
      p'.buffer.length = p.buffer.length + n ∧
      p'.capacity = p.capacity := by
  rcases Nat.eq_zero_or_pos n with rfl | hpos
  · exact ⟨p, Drains.refl p, hwriters, rfl, rfl⟩
  · have hwrite : p.write n =
        some
          { p with
            buffer := p.buffer ++ data.take n
            bounded := bounded_append hroom
            writers := (u, data.drop n) :: waiting } := by
      simp only [write, hwriters]
      exact dif_pos ⟨hpos, hlen, hroom⟩
    refine ⟨_, Drains.write n hwrite (Drains.refl _), rfl, ?_, rfl⟩
    simp only [List.length_append, List.length_take]
    omega

/-- A holder with more data than free space fills the buffer and waits. -/
theorem drains_holder_blocked {u : τ} {p : BoundedPipe τ α} {data : List α}
    {waiting : List (τ × List α)}
    (hwriters : p.writers = (u, data) :: waiting)
    (hexceeds : p.capacity < p.buffer.length + data.length) :
    ∃ p', Drains mayLeave p p' ∧ p'.holderBlocked = true := by
  have hbounded := p.bounded
  obtain ⟨p', hdrains, hwriters', hbuffer, hcapacity⟩ :=
    drains_write (n := p.capacity - p.buffer.length) mayLeave hwriters (by omega) (by omega)
  refine ⟨p', hdrains, ?_⟩
  have hleft : data.drop (p.capacity - p.buffer.length) ≠ [] := by
    simp only [ne_eq, List.drop_eq_nil_iff]
    omega
  obtain ⟨a, rest, hrest⟩ := List.exists_cons_of_ne_nil hleft
  simp only [holderBlocked, full, hwriters', hrest, hbuffer, hcapacity, decide_eq_true_eq]
  omega

/-- The writers in front of a queue finish, or one of them comes to wait. -/
theorem drains_front {front back : List (τ × List α)} {p : BoundedPipe τ α}
    (hwriters : p.writers = front ++ back)
    (hfront : ∀ w ∈ front, mayLeave w.1) :
    (∃ p', Drains mayLeave p p' ∧ p'.holderBlocked = true) ∨
      ∃ p',
        Drains mayLeave p p' ∧
        p'.writers = back ∧
        p'.buffer.length = p.buffer.length + (front.map (fun w => w.2.length)).sum ∧
        p'.capacity = p.capacity := by
  induction front generalizing p with
  | nil => exact Or.inr ⟨p, Drains.refl p, hwriters, rfl, rfl⟩
  | cons head rest ih =>
      obtain ⟨u, data⟩ := head
      rcases Nat.lt_or_ge p.capacity (p.buffer.length + data.length) with hexceeds | hroom
      · exact Or.inl (drains_holder_blocked mayLeave hwriters hexceeds)
      · obtain ⟨p₁, hwrite, hwriters₁, hbuffer₁, hcapacity₁⟩ :=
          drains_write mayLeave hwriters (Nat.le_refl _) hroom
        rw [List.drop_length] at hwriters₁
        have hleave : Drains mayLeave p₁ { p₁ with writers := rest ++ back } := by
          refine Drains.release u (hfront (u, data) (by simp)) ?_ (Drains.refl _)
          simp [release, hwriters₁]
        have hstart := hwrite.trans hleave
        rcases ih (p := { p₁ with writers := rest ++ back }) rfl
          (fun w hw => hfront w (by simp [hw])) with hblocked | hdone
        · obtain ⟨p', hdrains, hblocked⟩ := hblocked
          exact Or.inl ⟨p', hstart.trans hdrains, hblocked⟩
        · obtain ⟨p', hdrains, hwriters', hbuffer', hcapacity'⟩ := hdone
          refine Or.inr ⟨p', hstart.trans hdrains, hwriters', ?_, hcapacity'.trans hcapacity₁⟩
          simp only at hbuffer'
          simp only [List.map_cons, List.sum_cons]
          omega

variable [DecidableEq τ]

/-- A task's first turn, and what is due before it. -/
theorem first_turn {t : τ} {ws : List (τ × List α)}
    (h : t ∈ ws.map Prod.fst) :
    ∃ front data back,
      ws = front ++ (t, data) :: back ∧
      (∀ w ∈ front, w.1 ≠ t) ∧
      dueThrough t ws = (front.map (fun w => w.2.length)).sum + data.length := by
  induction ws with
  | nil => simp at h
  | cons head rest ih =>
      obtain ⟨u, data⟩ := head
      by_cases hu : u = t
      · subst hu
        exact ⟨[], data, rest, rfl, by simp, by simp [dueThrough]⟩
      · have hrest : t ∈ rest.map Prod.fst := by
          simpa [Ne.symm hu] using h
        obtain ⟨front, data', back, hsplit, hfront, hdue⟩ := ih hrest
        refine ⟨(u, data) :: front, data', back, by rw [hsplit, List.cons_append], ?_, ?_⟩
        · simpa [hu] using hfront
        · simp only [dueThrough, if_neg hu, hdue, List.map_cons, List.sum_cons]
          omega

/-- A queue whose data exceeds the free space runs up to a holder that waits,
before the writer it exceeds has left. -/
theorem drains_to_blocked {t : τ} {p : BoundedPipe τ α}
    (hturn : t ∈ p.tasks)
    (hexceeds : p.capacity < dueThrough t p.writers + p.buffer.length) :
    ∃ p', Drains (fun u => u ≠ t) p p' ∧ p'.holderBlocked = true := by
  obtain ⟨front, data, back, hsplit, hfront, hdue⟩ := first_turn hturn
  rcases drains_front (fun u => u ≠ t) hsplit hfront with hblocked | hdone
  · exact hblocked
  · obtain ⟨p₁, hdrains, hwriters, hbuffer, hcapacity⟩ := hdone
    obtain ⟨p', hdrains', hblocked⟩ := drains_holder_blocked (fun u => u ≠ t) hwriters (by omega)
    exact ⟨p', hdrains.trans hdrains', hblocked⟩

end Draining

end BoundedPipe

end Kernel
end Rttx
