import Mathlib.Data.List.Basic

/-!
# Kernel: loops

A loop is a partial function on its states: the state after a turn, or none where the
loop is left.

**Results.**
* `Ends.unique`: a loop ends in one state at most.
* `ends_of_measure`: with an invariant and a measure that every turn decreases, a loop
  ends, and keeps the invariant.
* `not_ends_of_invariant`: a loop does not end where an invariant rules out leaving it.
-/

namespace Rttx
namespace Kernel

universe u

section Loops

variable {σ : Type u}

/-- The loop that is started in the first state is left in the second. -/
inductive Ends (turn : σ → Option σ) : σ → σ → Prop
  | done {s : σ} :
      turn s = none →
      Ends turn s s
  | next {s s' last : σ} :
      turn s = some s' →
      Ends turn s' last →
      Ends turn s last

variable {turn : σ → Option σ}

/-- **A loop ends in one state at most.** -/
theorem Ends.unique {s last other : σ}
    (h : Ends turn s last)
    (hother : Ends turn s other) :
    other = last := by
  induction h with
  | done hdone =>
      cases hother with
      | done _ => rfl
      | next hturn _ =>
          rw [hdone] at hturn
          cases hturn
  | next hturn _ ih =>
      cases hother with
      | done hdone =>
          rw [hdone] at hturn
          cases hturn
      | next hturn' hrest =>
          rw [hturn] at hturn'
          cases hturn'
          exact ih hrest

/-- **A loop ends** if every turn keeps an invariant and decreases a measure. -/
theorem ends_of_measure {I : σ → Prop} (measure : σ → Nat)
    (hstep : ∀ s s', I s → turn s = some s' → I s' ∧ measure s' < measure s)
    {s : σ}
    (h : I s) :
    ∃ last, Ends turn s last ∧ I last ∧ turn last = none := by
  induction hn : measure s using Nat.strongRecOn generalizing s with
  | _ n ih =>
      cases hturn : turn s with
      | none => exact ⟨s, Ends.done hturn, h, hturn⟩
      | some s' =>
          obtain ⟨hinv, hless⟩ := hstep s s' h hturn
          obtain ⟨last, hends, hlast⟩ := ih (measure s') (by omega) hinv rfl
          exact ⟨last, Ends.next hturn hends, hlast⟩

/-- A loop does not end where an invariant rules out leaving it. -/
theorem not_ends_of_invariant {I : σ → Prop}
    (hstep : ∀ s, I s → ∃ s', turn s = some s' ∧ I s')
    {s last : σ}
    (h : I s) :
    ¬ Ends turn s last := by
  intro hends
  induction hends with
  | done hdone =>
      obtain ⟨s', hturn, _⟩ := hstep _ h
      rw [hdone] at hturn
      cases hturn
  | next hturn _ ih =>
      obtain ⟨s', hturn', hinv⟩ := hstep _ h
      rw [hturn] at hturn'
      cases hturn'
      exact ih hinv

end Loops

end Kernel
end Rttx
