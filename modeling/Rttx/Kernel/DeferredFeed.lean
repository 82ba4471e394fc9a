import Mathlib.Data.List.Basic

/-!
# Kernel: a feeder that may hold what arrives

Parts of a stream arrive one after the other.  Some may be held for a while; the others
are fed when they arrive.

What was fed and what is held follow the stream in order if what was fed is a first run
of the arrivals, and what is held is the rest, of which each part may be held.

**Results.**
* `InOrder.append_eq`: nothing is lost, repeated or reordered.
* `InOrder.hold`, `InOrder.flush`, `InOrder.feed`: what a feeder may do in order.
* `InOrder.held_eq_nil`: after a part that is not to be held nothing is held.
-/

namespace Rttx
namespace Kernel

universe u

section Arrivals

variable {α : Type u}

/-- A part of a stream, as it arrives. -/
inductive Arrival (α : Type u)
  | holdable (data : List α)
  | direct (data : List α)
deriving DecidableEq

def Arrival.data : Arrival α → List α
  | holdable data => data
  | direct data => data

/-- The stream that arrived. -/
def arrived (arrivals : List (Arrival α)) : List α :=
  (arrivals.map Arrival.data).flatten

@[simp] theorem arrived_nil : arrived ([] : List (Arrival α)) = [] := rfl

@[simp] theorem arrived_append (first second : List (Arrival α)) :
    arrived (first ++ second) = arrived first ++ arrived second := by
  simp [arrived]

@[simp] theorem arrived_singleton (a : Arrival α) : arrived [a] = a.data := by
  simp [arrived]

@[simp] theorem arrived_holdable (parts : List (List α)) :
    arrived (parts.map Arrival.holdable) = parts.flatten := by
  induction parts with
  | nil => rfl
  | cons part rest ih =>
      rw [List.map_cons, List.flatten_cons, ← ih]
      rfl

/-- What was fed is a first run of the arrivals, and what is held the rest. -/
def InOrder (arrivals : List (Arrival α)) (fed held : List α) : Prop :=
  ∃ (shown : List (Arrival α)) (pending : List (List α)),
    arrivals = shown ++ pending.map Arrival.holdable ∧
      fed = arrived shown ∧ held = pending.flatten

theorem inOrder_nil : InOrder ([] : List (Arrival α)) [] [] :=
  ⟨[], [], rfl, rfl, rfl⟩

variable {arrivals : List (Arrival α)}
variable {fed held : List α}

namespace InOrder

/-- **Nothing is lost, repeated or reordered.** -/
theorem append_eq
    (h : InOrder arrivals fed held) :
    fed ++ held = arrived arrivals := by
  obtain ⟨shown, pending, rfl, rfl, rfl⟩ := h
  rw [arrived_append, arrived_holdable]

theorem hold
    (h : InOrder arrivals fed held)
    (data : List α) :
    InOrder (arrivals ++ [.holdable data]) fed (held ++ data) := by
  obtain ⟨shown, pending, rfl, rfl, rfl⟩ := h
  refine ⟨shown, pending ++ [data], ?_, rfl, ?_⟩
  · rw [List.map_append, List.append_assoc]
    rfl
  · simp

theorem flush
    (h : InOrder arrivals fed held) :
    InOrder arrivals (fed ++ held) [] := by
  refine ⟨arrivals, [], ?_, h.append_eq, rfl⟩
  simp

theorem feed
    (h : InOrder arrivals fed [])
    (a : Arrival α) :
    InOrder (arrivals ++ [a]) (fed ++ a.data) [] := by
  have hfed := h.append_eq
  rw [List.append_nil] at hfed
  refine ⟨arrivals ++ [a], [], ?_, ?_, rfl⟩
  · simp
  · rw [arrived_append, arrived_singleton, hfed]

/-- **After a part that is not to be held nothing is held.** -/
theorem held_eq_nil {data : List α}
    (h : InOrder (arrivals ++ [.direct data]) fed held) :
    held = [] := by
  obtain ⟨shown, pending, hall, _, rfl⟩ := h
  rcases List.eq_nil_or_concat pending with rfl | ⟨pending, last, rfl⟩
  · rfl
  · rw [List.concat_eq_append, List.map_append, List.map_singleton, ← List.append_assoc] at hall
    have hlast := (List.append_inj' hall rfl).2
    cases hlast

end InOrder

end Arrivals

end Kernel
end Rttx
