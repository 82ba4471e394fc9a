import Mathlib.Data.List.Basic
import Mathlib.Logic.Function.Basic

/-!
# Kernel: writes that must not be overtaken

Several tasks hold queues of writes and carry them out one by one, in any
interleaving.  A relation says which write may precede which: two writes to different
places always may, two to the same place only in the order of what they say.

The order on the disk is safe as long as no task carries out a write that another
task holds an older one of.

**Results.**
* `Ordered.push`: a task queues writes that everything older of its own may precede.
* `Ordered.carry`: carrying out writes keeps the order if the other tasks' writes may
  follow them.
-/

namespace Rttx
namespace Kernel

universe u v

variable {α : Type u} {τ : Type v}

/-- What is written is in order, and so is each queue after it. -/
structure Ordered (R : α → α → Prop) (written : List α) (held : τ → List α) : Prop where
  done : written.Pairwise R
  queued : ∀ t, (held t).Pairwise R
  follows : ∀ t, ∀ x ∈ written, ∀ y ∈ held t, R x y

namespace Ordered

variable {R : α → α → Prop} {written : List α} {held held' : τ → List α}

theorem nil (R : α → α → Prop) : Ordered R [] (fun _ : τ => []) :=
  ⟨List.Pairwise.nil, fun _ => List.Pairwise.nil, fun _ _ _ _ hy => nomatch hy⟩

/-- **Queueing.** -/
theorem push (h : Ordered R written held)
    (new : τ → List α)
    (hwritten : ∀ t, ∀ x ∈ written, ∀ y ∈ new t, R x y)
    (hheld : ∀ t, ∀ x ∈ held t, ∀ y ∈ new t, R x y)
    (hnew : ∀ t, (new t).Pairwise R) :
    Ordered R written (fun t => held t ++ new t) := by
  refine ⟨h.done, ?_, ?_⟩
  · intro t
    exact List.pairwise_append.mpr ⟨h.queued t, hnew t, hheld t⟩
  · intro t x hx y hy
    rcases List.mem_append.mp hy with hy | hy
    · exact h.follows t x hx y hy
    · exact hwritten t x hx y hy

/-- **Carrying out.** -/
theorem carry {t : τ} {more : List α}
    (h : Ordered R written held)
    (hqueue : held t = more ++ held' t)
    (hothers : ∀ u, u ≠ t → held' u = held u)
    (hfree : ∀ u, u ≠ t → ∀ x ∈ more, ∀ y ∈ held u, R x y) :
    Ordered R (written ++ more) held' := by
  have hpair := h.queued t
  rw [hqueue, List.pairwise_append] at hpair
  obtain ⟨hmore, hrest, hcross⟩ := hpair
  refine ⟨?_, ?_, ?_⟩
  · refine List.pairwise_append.mpr ⟨h.done, hmore, ?_⟩
    intro x hx y hy
    exact h.follows t x hx y (hqueue ▸ List.mem_append_left _ hy)
  · intro u
    by_cases hu : u = t
    · subst hu
      exact hrest
    · rw [hothers u hu]
      exact h.queued u
  · intro u x hx y hy
    by_cases hu : u = t
    · subst hu
      rcases List.mem_append.mp hx with hx | hx
      · exact h.follows u x hx y (hqueue ▸ List.mem_append_right _ hy)
      · exact hcross x hx y hy
    · rw [hothers u hu] at hy
      rcases List.mem_append.mp hx with hx | hx
      · exact h.follows u x hx y hy
      · exact hfree u hu x hx y hy

/-- Losing writes keeps the order. -/
theorem lose {t : τ} {more : List α}
    (h : Ordered R written held)
    (hqueue : held t = more ++ held' t)
    (hothers : ∀ u, u ≠ t → held' u = held u) :
    Ordered R written held' := by
  refine ⟨h.done, ?_, ?_⟩
  · intro u
    by_cases hu : u = t
    · subst hu
      have hpair := h.queued u
      rw [hqueue] at hpair
      exact (List.pairwise_append.mp hpair).2.1
    · rw [hothers u hu]
      exact h.queued u
  · intro u x hx y hy
    by_cases hu : u = t
    · subst hu
      exact h.follows u x hx y (hqueue ▸ List.mem_append_right _ hy)
    · rw [hothers u hu] at hy
      exact h.follows u x hx y hy

end Ordered

end Kernel
end Rttx
