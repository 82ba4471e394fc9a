import Mathlib.Algebra.Ring.Nat
import Mathlib.Data.List.Basic

/-!
# Kernel: bounded mailboxes

A mailbox is a bounded queue with one receiver.  A sender that does not wait is
told whether its message went in, the queue was full, or the receiver is gone.

**Results.**
* `trySend_cases`: the three outcomes, each with its condition and its effect.
* `receive_eq_some`: a receiver takes the oldest message.
-/

namespace Rttx
namespace Kernel

universe u

/-- The outcome of sending without waiting. -/
inductive SendResult
  | sent
  | full
  | closed
deriving DecidableEq, Repr

/-- A bounded queue of messages, and whether its receiver is still there. -/
structure Mailbox (α : Type u) where
  capacity : Nat
  items : List α
  bounded : items.length ≤ capacity
  listening : Bool
deriving DecidableEq

namespace Mailbox

section Operations

variable {α : Type u}

def empty (capacity : Nat) : Mailbox α :=
  ⟨capacity, [], Nat.zero_le _, true⟩

theorem bounded_snoc {items : List α} {capacity : Nat}
    (h : items.length < capacity)
    (a : α) :
    (items ++ [a]).length ≤ capacity := by
  rw [List.length_append, List.length_singleton]
  omega

theorem bounded_tail {a : α} {rest : List α} {capacity : Nat}
    (h : (a :: rest).length ≤ capacity) :
    rest.length ≤ capacity := by
  rw [List.length_cons] at h
  omega

/-- Send without waiting. -/
def trySend (m : Mailbox α) (a : α) : SendResult × Mailbox α :=
  if !m.listening then
    (.closed, m)
  else if h : m.items.length < m.capacity then
    (.sent, { m with items := m.items ++ [a], bounded := bounded_snoc h a })
  else
    (.full, m)

/-- Take the oldest message. -/
def receive (m : Mailbox α) : Option (α × Mailbox α) :=
  match h : m.items with
  | [] => none
  | a :: rest =>
      some (a, { m with items := rest, bounded := bounded_tail (h ▸ m.bounded) })

/-- The receiver leaves. -/
def close (m : Mailbox α) : Mailbox α :=
  { m with listening := false }

/-- A message sent now goes in. -/
def accepts (m : Mailbox α) : Bool :=
  m.listening && m.items.length < m.capacity

/-- A message sent now is lost although the receiver is there. -/
def overflows (m : Mailbox α) : Bool :=
  m.listening && m.capacity ≤ m.items.length

end Operations

section Laws

variable {α : Type u}

/-- The outcomes of sending. -/
theorem trySend_cases (m : Mailbox α) (a : α) :
    (m.accepts = true ∧ (m.trySend a).1 = .sent ∧
        (m.trySend a).2.items = m.items ++ [a] ∧
        (m.trySend a).2.capacity = m.capacity ∧
        (m.trySend a).2.listening = true) ∨
      (m.overflows = true ∧ m.trySend a = (.full, m)) ∨
      (m.listening = false ∧ m.trySend a = (.closed, m)) := by
  cases hlistening : m.listening with
  | false => exact Or.inr (Or.inr ⟨rfl, by simp [trySend, hlistening]⟩)
  | true =>
      by_cases hroom : m.items.length < m.capacity
      · refine Or.inl ⟨by simp [accepts, hlistening, hroom], ?_⟩
        simp [trySend, hlistening, hroom]
      · refine Or.inr (Or.inl ⟨?_, by simp [trySend, hlistening, hroom]⟩)
        simp only [overflows, hlistening, Bool.true_and, decide_eq_true_eq]
        omega

theorem trySend_of_accepts {m : Mailbox α}
    (h : m.accepts = true)
    (a : α) :
    (m.trySend a).1 = .sent ∧ (m.trySend a).2.items = m.items ++ [a] := by
  simp only [accepts, Bool.and_eq_true, decide_eq_true_eq] at h
  simp [trySend, h.1, h.2]

theorem trySend_of_overflows {m : Mailbox α}
    (h : m.overflows = true)
    (a : α) :
    m.trySend a = (.full, m) := by
  simp only [overflows, Bool.and_eq_true, decide_eq_true_eq] at h
  simp only [trySend, h.1, Bool.not_true, Bool.false_eq_true, if_false]
  rw [dif_neg (by omega)]

@[simp] theorem capacity_trySend (m : Mailbox α) (a : α) :
    (m.trySend a).2.capacity = m.capacity := by
  unfold trySend
  split
  · rfl
  · split <;> rfl

@[simp] theorem listening_trySend (m : Mailbox α) (a : α) :
    (m.trySend a).2.listening = m.listening := by
  unfold trySend
  split
  · rfl
  · split <;> rfl

/-- Sending keeps what is in the queue. -/
theorem mem_trySend {m : Mailbox α} {old : α}
    (h : old ∈ m.items)
    (a : α) :
    old ∈ (m.trySend a).2.items := by
  unfold trySend
  split
  · exact h
  · split
    · exact List.mem_append_left _ h
    · exact h

/-- A receiver takes the oldest message. -/
theorem receive_eq_some {m m' : Mailbox α} {a : α}
    (h : m.receive = some (a, m')) :
    m.items = a :: m'.items ∧ m'.capacity = m.capacity ∧ m'.listening = m.listening := by
  unfold receive at h
  split at h
  · cases h
  · rename_i b rest hitems
    simp only [Option.some.injEq, Prod.mk.injEq] at h
    obtain ⟨rfl, rfl⟩ := h
    exact ⟨hitems, rfl, rfl⟩

end Laws

end Mailbox

end Kernel
end Rttx
