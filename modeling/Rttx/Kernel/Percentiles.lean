import Mathlib.Data.List.Basic
import Mathlib.Order.Lattice

/-!
# Kernel: percentiles

The `p`-th percentile of some values, by the nearest rank: one of the values such that at
least `p` percent of them are not above it, and fewer than `p` percent below it.

**Results.**
* `isPercentile_getElem`: in sorted order it stands at the rank `⌈n * p / 100⌉`.
* `IsPercentile.unique`: there is only one.
-/

namespace Rttx
namespace Kernel

universe u

section Percentiles

variable {α : Type u} [LinearOrder α]

/-- What the `p`-th percentile of values is. -/
structure IsPercentile (values : List α) (p : Nat) (v : α) : Prop where
  mem : v ∈ values
  le_upto : values.length * p ≤ 100 * values.countP (· ≤ v)
  below_lt : 100 * values.countP (· < v) < values.length * p

/-- The order of the values does not matter. -/
theorem IsPercentile.perm {values values' : List α} {p : Nat} {v : α}
    (h : IsPercentile values p v)
    (hperm : values.Perm values') :
    IsPercentile values' p v := by
  refine ⟨hperm.mem_iff.mp h.mem, ?_, ?_⟩
  · rw [← hperm.length_eq, ← hperm.countP_eq]
    exact h.le_upto
  · rw [← hperm.length_eq, ← hperm.countP_eq]
    exact h.below_lt

/-- **There is only one.** -/
theorem IsPercentile.unique {values : List α} {p : Nat} {v w : α}
    (hv : IsPercentile values p v)
    (hw : IsPercentile values p w) :
    v = w := by
  have hbetween : ∀ v w : α, v < w → values.countP (· ≤ v) ≤ values.countP (· < w) :=
    fun v w hlt => List.countP_mono_left fun x _ hx =>
      decide_eq_true (lt_of_le_of_lt (of_decide_eq_true hx) hlt)
  have hnot : ∀ v w : α, IsPercentile values p v → IsPercentile values p w → ¬ v < w := by
    intro v w hv hw hlt
    have hle := hbetween v w hlt
    have hupto := hv.le_upto
    have hbelow := hw.below_lt
    omega
  exact le_antisymm (not_lt.mp (hnot w v hw hv)) (not_lt.mp (hnot v w hv hw))

/-- What stands up to an index is not above it. -/
theorem lt_countP_le {sorted : List α} {i : Nat}
    (hsorted : sorted.Pairwise (· ≤ ·))
    (hi : i < sorted.length) :
    i < sorted.countP (· ≤ sorted[i]) := by
  have hlead : (sorted.take (i + 1)).countP (· ≤ sorted[i]) = (sorted.take (i + 1)).length := by
    rw [List.countP_eq_length]
    intro x hx
    obtain ⟨j, hj, rfl⟩ := List.mem_take_iff_getElem.mp hx
    obtain hlt | heq := Nat.lt_or_eq_of_le (Nat.le_of_lt_succ (Nat.lt_of_lt_of_le hj
      (Nat.min_le_left _ _)))
    · exact decide_eq_true (List.pairwise_iff_getElem.mp hsorted j i _ hi hlt)
    · subst heq
      exact decide_eq_true (le_refl _)
  have hle := (List.take_sublist (i + 1) sorted).countP_le (p := (· ≤ sorted[i]))
  rw [hlead, List.length_take] at hle
  omega

/-- What is below an element stands before it. -/
theorem countP_lt_le {sorted : List α} {i : Nat}
    (hsorted : sorted.Pairwise (· ≤ ·))
    (hi : i < sorted.length) :
    sorted.countP (· < sorted[i]) ≤ i := by
  have hsuffix : (sorted.drop i).countP (· < sorted[i]) = 0 := by
    rw [List.countP_eq_zero]
    intro x hx hlt
    obtain ⟨j, hj, rfl⟩ := List.mem_drop_iff_getElem.mp hx
    have hbelow := of_decide_eq_true hlt
    obtain hzero | hpos := Nat.eq_zero_or_pos j
    · subst hzero
      exact lt_irrefl _ hbelow
    · exact absurd (List.pairwise_iff_getElem.mp hsorted i (i + j) hi _ (by omega))
        (not_le.mpr hbelow)
  have hsplit := @List.countP_append _ (· < sorted[i]) (sorted.take i) (sorted.drop i)
  rw [List.take_append_drop, hsuffix, Nat.add_zero] at hsplit
  rw [hsplit]
  exact Nat.le_trans List.countP_le_length (List.length_take_le _ _)

/-- **The nearest rank.** -/
theorem isPercentile_getElem {sorted : List α} {p : Nat}
    (hsorted : sorted.Pairwise (· ≤ ·))
    (hp : 0 < p)
    (hle : p ≤ 100)
    (hne : sorted ≠ []) :
    ∃ h : (sorted.length * p + 99) / 100 - 1 < sorted.length,
      IsPercentile sorted p sorted[(sorted.length * p + 99) / 100 - 1] := by
  have hlength : 0 < sorted.length := List.length_pos_iff.mpr hne
  have hmul : sorted.length * p ≤ sorted.length * 100 := Nat.mul_le_mul_left _ hle
  have hpos : 0 < sorted.length * p := Nat.mul_pos hlength hp
  have hi : (sorted.length * p + 99) / 100 - 1 < sorted.length := by omega
  have hupto := lt_countP_le hsorted hi
  have hbelow := countP_lt_le hsorted hi
  refine ⟨hi, List.getElem_mem hi, ?_, ?_⟩
  · omega
  · omega

end Percentiles

end Kernel
end Rttx
