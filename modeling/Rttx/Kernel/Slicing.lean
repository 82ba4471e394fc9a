import Mathlib.Algebra.Order.Field.Basic
import Mathlib.Order.Interval.Set.Defs
import Mathlib.Tactic.Linarith

/-!
# Kernel: a box cut by a tree

A box in the plane is cut in two across one of the axes, and the parts are cut
again, as a binary tree says.  The leaves of the tree are the regions.

For a side of the box, a cut across the axis of the side leaves one part at the
side and one away from it; a cut across the other axis leaves both at the side.

**Results.**
* `Box.edge_lowPart`, `Box.edge_highPart`: the parts that keep a side.
* `Box.edge_lowPart_high`, `Box.edge_highPart_low`: the parts meet on one line.
* `edge_ne_of_lowPart`, `edge_ne_of_highPart`: a region in the part away from a
  side does not reach it.
-/

namespace Rttx
namespace Kernel

universe u v

inductive Axis
  | horizontal
  | vertical
deriving DecidableEq, Repr

/-- A side of a box: the low or the high end of an axis. -/
structure BoxSide where
  axis : Axis
  high : Bool
deriving DecidableEq, Repr

def BoxSide.opposite (side : BoxSide) : BoxSide :=
  { side with high := !side.high }

/-- A box that is not degenerate. -/
structure Box (K : Type u) [LT K] where
  low : Axis → K
  high : Axis → K
  lt : ∀ axis, low axis < high axis

/-- The coordinate of a side. -/
def Box.edge {K : Type u} [LT K] (b : Box K) (side : BoxSide) : K :=
  if side.high then b.high side.axis else b.low side.axis

/-- One box lies in another. -/
structure Box.Within {K : Type u} [LT K] [LE K] (r b : Box K) : Prop where
  low : ∀ axis, b.low axis ≤ r.low axis
  high : ∀ axis, r.high axis ≤ b.high axis

section Nesting

variable {K : Type u} [LinearOrder K] {r s b : Box K}

theorem Box.Within.refl (b : Box K) : b.Within b :=
  ⟨fun _ => le_rfl, fun _ => le_rfl⟩

theorem Box.Within.trans
    (hrs : r.Within s)
    (hsb : s.Within b) :
    r.Within b :=
  ⟨fun a => (hsb.low a).trans (hrs.low a), fun a => (hrs.high a).trans (hsb.high a)⟩

end Nesting

section Cuts

variable {K : Type u} [Field K] [LinearOrder K] [IsStrictOrderedRing K]

/-- Where a cut at this ratio is. -/
def Box.line (b : Box K) (axis : Axis) (ratio : Set.Ioo (0 : K) 1) : K :=
  b.low axis + ratio.1 * (b.high axis - b.low axis)

theorem Box.low_lt_line (b : Box K) (axis : Axis) (ratio : Set.Ioo (0 : K) 1) :
    b.low axis < b.line axis ratio := by
  have hwidth := sub_pos.mpr (b.lt axis)
  have hstep := mul_pos ratio.2.1 hwidth
  unfold Box.line
  linarith

theorem Box.line_lt_high (b : Box K) (axis : Axis) (ratio : Set.Ioo (0 : K) 1) :
    b.line axis ratio < b.high axis := by
  have hwidth := sub_pos.mpr (b.lt axis)
  have hstep := mul_lt_of_lt_one_left hwidth ratio.2.2
  unfold Box.line
  linarith

/-- The part of a cut at the low end of the axis. -/
def Box.lowPart (b : Box K) (axis : Axis) (ratio : Set.Ioo (0 : K) 1) : Box K where
  low := b.low
  high := Function.update b.high axis (b.line axis ratio)
  lt := by
    intro a
    by_cases h : a = axis
    · subst h
      rw [Function.update_self]
      exact b.low_lt_line a ratio
    · rw [Function.update_of_ne h]
      exact b.lt a

/-- The part of a cut at the high end of the axis. -/
def Box.highPart (b : Box K) (axis : Axis) (ratio : Set.Ioo (0 : K) 1) : Box K where
  low := Function.update b.low axis (b.line axis ratio)
  high := b.high
  lt := by
    intro a
    by_cases h : a = axis
    · subst h
      rw [Function.update_self]
      exact b.line_lt_high a ratio
    · rw [Function.update_of_ne h]
      exact b.lt a

variable {b : Box K} {axis : Axis} {side : BoxSide}
variable (ratio : Set.Ioo (0 : K) 1)

theorem Box.edge_lowPart
    (h : axis = side.axis → side.high = false) :
    (b.lowPart axis ratio).edge side = b.edge side := by
  unfold Box.edge Box.lowPart
  by_cases hhigh : side.high = true
  · have hne : side.axis ≠ axis := by
      intro heq
      rw [h heq.symm] at hhigh
      cases hhigh
    rw [if_pos hhigh, if_pos hhigh]
    exact Function.update_of_ne hne _ _
  · rw [if_neg hhigh, if_neg hhigh]

theorem Box.edge_highPart
    (h : axis = side.axis → side.high = true) :
    (b.highPart axis ratio).edge side = b.edge side := by
  unfold Box.edge Box.highPart
  by_cases hhigh : side.high = true
  · rw [if_pos hhigh, if_pos hhigh]
  · have hne : side.axis ≠ axis := fun heq => hhigh (h heq.symm)
    rw [if_neg hhigh, if_neg hhigh]
    exact Function.update_of_ne hne _ _

/-- The low part ends where the high part begins. -/
theorem Box.edge_lowPart_high (b : Box K)
    (haxis : axis = side.axis)
    (hhigh : side.high = true) :
    (b.lowPart axis ratio).edge side = (b.highPart axis ratio).edge side.opposite := by
  subst haxis
  simp only [Box.edge, Box.lowPart, Box.highPart, BoxSide.opposite, Function.update_self, hhigh,
    Bool.not_true, if_true, Bool.false_eq_true, if_false]

/-- The high part begins where the low part ends. -/
theorem Box.edge_highPart_low (b : Box K)
    (haxis : axis = side.axis)
    (hhigh : side.high = false) :
    (b.highPart axis ratio).edge side = (b.lowPart axis ratio).edge side.opposite := by
  subst haxis
  simp only [Box.edge, Box.lowPart, Box.highPart, BoxSide.opposite, Function.update_self, hhigh,
    Bool.not_false, if_true, Bool.false_eq_true, if_false]

theorem Box.lowPart_within (b : Box K) (axis : Axis) : (b.lowPart axis ratio).Within b := by
  refine ⟨fun _ => le_rfl, fun a => ?_⟩
  by_cases h : a = axis
  · subst h
    simp only [Box.lowPart, Function.update_self]
    exact (b.line_lt_high a ratio).le
  · simp only [Box.lowPart, Function.update_of_ne h, le_refl]

theorem Box.highPart_within (b : Box K) (axis : Axis) : (b.highPart axis ratio).Within b := by
  refine ⟨fun a => ?_, fun _ => le_rfl⟩
  by_cases h : a = axis
  · subst h
    simp only [Box.highPart, Function.update_self]
    exact (b.low_lt_line a ratio).le
  · simp only [Box.highPart, Function.update_of_ne h, le_refl]

variable {ratio}

/-- What lies in the low part does not reach the high side. -/
theorem edge_ne_of_lowPart {r : Box K}
    (h : r.Within (b.lowPart axis ratio))
    (haxis : axis = side.axis)
    (hhigh : side.high = true) :
    r.edge side ≠ b.edge side := by
  have hend := h.high axis
  simp only [Box.lowPart, Function.update_self] at hend
  simp only [Box.edge, hhigh, if_true, ← haxis]
  exact (hend.trans_lt (b.line_lt_high axis ratio)).ne

/-- What lies in the high part does not reach the low side. -/
theorem edge_ne_of_highPart {r : Box K}
    (h : r.Within (b.highPart axis ratio))
    (haxis : axis = side.axis)
    (hhigh : side.high = false) :
    r.edge side ≠ b.edge side := by
  have hstart := h.low axis
  simp only [Box.highPart, Function.update_self] at hstart
  simp only [Box.edge, hhigh, Bool.false_eq_true, if_false, ← haxis]
  exact ((b.low_lt_line axis ratio).trans_le hstart).ne'

/-- A side that is reached from the low part is a side of the low part. -/
theorem edge_lowPart_of_reached {r : Box K}
    (h : r.Within (b.lowPart axis ratio))
    (hedge : r.edge side = b.edge side) :
    (b.lowPart axis ratio).edge side = b.edge side := by
  refine Box.edge_lowPart ratio fun haxis => ?_
  rw [← Bool.not_eq_true]
  exact fun hhigh => edge_ne_of_lowPart h haxis hhigh hedge

/-- A side that is reached from the high part is a side of the high part. -/
theorem edge_highPart_of_reached {r : Box K}
    (h : r.Within (b.highPart axis ratio))
    (hedge : r.edge side = b.edge side) :
    (b.highPart axis ratio).edge side = b.edge side := by
  refine Box.edge_highPart ratio fun haxis => ?_
  rw [← Bool.not_eq_false]
  exact fun hhigh => edge_ne_of_highPart h haxis hhigh hedge

end Cuts

section Regions

variable {K : Type u} [Field K] [LinearOrder K] [IsStrictOrderedRing K] {α : Type v}

/-- How a box is cut. -/
inductive CutTree (K : Type u) [Field K] [LinearOrder K] (α : Type v)
  | leaf (a : α)
  | cut (axis : Axis) (ratio : Set.Ioo (0 : K) 1) (first second : CutTree K α)

namespace CutTree

def leaves : CutTree K α → List α
  | leaf a => [a]
  | cut _ _ first second => first.leaves ++ second.leaves

/-- The leaves with their boxes. -/
def regions : CutTree K α → Box K → List (α × Box K)
  | leaf a, b => [(a, b)]
  | cut axis ratio first second, b =>
      first.regions (b.lowPart axis ratio) ++ second.regions (b.highPart axis ratio)

/-- Each leaf has one region. -/
@[simp] theorem map_fst_regions (t : CutTree K α) (b : Box K) :
    (t.regions b).map Prod.fst = t.leaves := by
  induction t generalizing b with
  | leaf a => rfl
  | cut axis ratio first second ih₁ ih₂ => simp [regions, leaves, ih₁, ih₂]

theorem within_of_mem_regions {t : CutTree K α} {b r : Box K} {a : α}
    (h : (a, r) ∈ t.regions b) :
    r.Within b := by
  induction t generalizing b with
  | leaf a' =>
      simp only [regions, List.mem_singleton, Prod.mk.injEq] at h
      exact h.2 ▸ Box.Within.refl r
  | cut axis ratio first second ih₁ ih₂ =>
      rw [regions, List.mem_append] at h
      rcases h with h | h
      · exact (ih₁ h).trans (b.lowPart_within ratio axis)
      · exact (ih₂ h).trans (b.highPart_within ratio axis)

end CutTree

end Regions

end Kernel
end Rttx
