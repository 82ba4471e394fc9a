import Rttx.Kernel.Slicing
import Rttx.Client.LayoutEdits

/-!
# Focus in a direction

The window is cut along the splits of the layout, a horizontal split side by
side and a vertical one on top of each other, the first part to the left or on
top.  What a move of the focus finds is compared with the rectangles.

The search takes no account of the ratios, so the rectangles are those of any
ratios, one for each split.

**Results.**
* `edgeTerminal_region`: the terminal at an edge reaches the edge.
* `findAdjacent_geometric`: a move finds nothing at the edge of the window, and
  otherwise a terminal on the other side of the edge.
-/

namespace Rttx
namespace Client

open Kernel

universe u

namespace LayoutNode

section Rectangles

variable {K : Type u} [Field K] [LinearOrder K] [IsStrictOrderedRing K]

def axisOf : SplitOrientation → Axis
  | .horizontal => .horizontal
  | .vertical => .vertical

/-- The side of a rectangle that a move crosses. -/
def Direction.side : Direction → BoxSide
  | .left => ⟨.horizontal, false⟩
  | .right => ⟨.horizontal, true⟩
  | .up => ⟨.vertical, false⟩
  | .down => ⟨.vertical, true⟩

/-- The window is the unit square. -/
def windowBox : Box K where
  low _ := 0
  high _ := 1
  lt _ := zero_lt_one

/-- How the splits cut a box; the ratio of a split is found by its path. -/
def cutTree : LayoutNode → (List Bool → Set.Ioo (0 : K) 1) → CutTree K String
  | terminal uuid _ _ _, _ => .leaf uuid
  | split orientation _ first second, ratios =>
      .cut (axisOf orientation) (ratios []) (first.cutTree (fun path => ratios (false :: path)))
        (second.cutTree (fun path => ratios (true :: path)))

/-- The terminals with their rectangles. -/
def regions (node : LayoutNode) (ratios : List Bool → Set.Ioo (0 : K) 1) (b : Box K) :
    List (String × Box K) :=
  (node.cutTree ratios).regions b

omit [IsStrictOrderedRing K] in
theorem leaves_cutTree (node : LayoutNode) (ratios : List Bool → Set.Ioo (0 : K) 1) :
    (node.cutTree ratios).leaves = node.terminalUuids := by
  induction node generalizing ratios with
  | terminal uuid profile cwd customTitle => rfl
  | split orientation ratio first second ih₁ ih₂ =>
      simp [cutTree, CutTree.leaves, terminalUuids, ih₁, ih₂]

theorem map_fst_regions (node : LayoutNode) (ratios : List Bool → Set.Ioo (0 : K) 1)
    (b : Box K) :
    (node.regions ratios b).map Prod.fst = node.terminalUuids := by
  rw [regions, CutTree.map_fst_regions, leaves_cutTree]

end Rectangles

section Moves

/-- A move crosses the splits along its axis. -/
theorem matchesAxis_iff {orientation : SplitOrientation} {direction : Direction} :
    matchesAxis orientation direction = true ↔ axisOf orientation = direction.side.axis := by
  cases orientation <;> cases direction <;> decide

/-- A move towards the first part crosses low sides. -/
theorem towardFirst_iff (direction : Direction) :
    (direction == .left || direction == .up) = !direction.side.high := by
  cases direction <;> rfl

/-- Along the axis of a move towards the first part the second is picked. -/
theorem pickFirst_iff (orientation : SplitOrientation) (direction : Direction) :
    (!(orientation == .horizontal && direction == .left ||
        orientation == .vertical && direction == .up)) =
      !(matchesAxis orientation direction && !direction.side.high) := by
  cases orientation <;> cases direction <;> rfl

end Moves

section Search

variable {K : Type u} [Field K] [LinearOrder K] [IsStrictOrderedRing K]

/-- **The terminal at an edge reaches the edge** that the move enters by. -/
theorem edgeTerminal_region (direction : Direction) (node : LayoutNode)
    (ratios : List Bool → Set.Ioo (0 : K) 1) (b : Box K) :
    ∃ r, (node.edgeTerminal direction, r) ∈ node.regions ratios b ∧
      r.edge direction.side.opposite = b.edge direction.side.opposite := by
  induction node generalizing ratios b with
  | terminal uuid profile cwd customTitle => exact ⟨b, List.mem_singleton.mpr rfl, rfl⟩
  | split orientation ratio first second ih₁ ih₂ =>
      simp only [edgeTerminal, pickFirst_iff]
      cases hpick : matchesAxis orientation direction && !direction.side.high with
      | false =>
          obtain ⟨r, hr, hedge⟩ := ih₁ (fun path => ratios (false :: path))
            (b.lowPart (axisOf orientation) (ratios []))
          refine ⟨r, List.mem_append_left _ hr, hedge.trans (Box.edge_lowPart _ ?_)⟩
          intro haxis
          have hmatch : matchesAxis orientation direction = true := matchesAxis_iff.mpr haxis
          simpa [hmatch, BoxSide.opposite] using hpick
      | true =>
          simp only [Bool.and_eq_true] at hpick
          obtain ⟨r, hr, hedge⟩ := ih₂ (fun path => ratios (true :: path))
            (b.highPart (axisOf orientation) (ratios []))
          exact ⟨r, List.mem_append_right _ hr, hedge.trans (Box.edge_highPart _ fun _ => hpick.2)⟩

/-- What a search in a part of the layout says of the rectangles in its box. -/
structure Finds (direction : Direction) (target : String) (regions : List (String × Box K))
    (b : Box K) (result : Option String × Bool) : Prop where
  /-- The flag tells whether the target is here. -/
  inside : result.2 = true ↔ ∃ r, (target, r) ∈ regions
  /-- Nothing is found iff the target reaches the side of the box. -/
  none_iff : result.1 = none ↔
    ∀ r, (target, r) ∈ regions → r.edge direction.side = b.edge direction.side
  /-- What is found lies on the other side of the edge of the target. -/
  found : ∀ uuid, result.1 = some uuid → ∃ r neighbour,
    (target, r) ∈ regions ∧ (uuid, neighbour) ∈ regions ∧
      neighbour.edge direction.side.opposite = r.edge direction.side

section Parts

variable {direction : Direction} {target : String} {b : Box K}

omit [Field K] [IsStrictOrderedRing K] in
/-- Something was found in one part: it stands for the whole. -/
theorem Finds.of_part {uuid : String} {part regions : List (String × Box K)} {p : Box K}
    {flag : Bool}
    (hpart : Finds direction target part p (some uuid, flag))
    (hsub : ∀ x ∈ part, x ∈ regions)
    (hreach : ∀ r, (target, r) ∈ part → r.edge direction.side = b.edge direction.side →
      p.edge direction.side = b.edge direction.side) :
    Finds direction target regions b (some uuid, true) := by
  obtain ⟨r, neighbour, hr, hneighbour, hedge⟩ := hpart.found uuid rfl
  refine ⟨⟨fun _ => ⟨r, hsub _ hr⟩, fun _ => rfl⟩,
    ⟨fun h => (Option.some_ne_none _ h).elim, fun h => ?_⟩, ?_⟩
  · refine hpart.none_iff.mpr fun r hr => ?_
    have hside := h r (hsub _ hr)
    exact hside.trans (hreach r hr hside).symm
  · intro uuid' huuid
    obtain rfl := Option.some.inj huuid
    exact ⟨r, neighbour, hsub _ hr, hsub _ hneighbour, hedge⟩

variable {axis : Axis} {ratio : Set.Ioo (0 : K) 1} {part₁ part₂ : List (String × Box K)}
variable {inFirst inSecond : Bool}

/-- Nothing was found, and the sides of the parts are sides of the whole or the
target is in neither. -/
theorem Finds.of_none
    (hfirst : Finds direction target part₁ (b.lowPart axis ratio) (none, inFirst))
    (hsecond : Finds direction target part₂ (b.highPart axis ratio) (none, inSecond))
    (hlow : inFirst = true → axis = direction.side.axis → direction.side.high = false)
    (hhigh : inSecond = true → axis = direction.side.axis → direction.side.high = true) :
    Finds direction target (part₁ ++ part₂) b (none, inFirst || inSecond) := by
  refine ⟨?_, ⟨fun _ r hr => ?_, fun _ => rfl⟩, fun uuid h => (Option.some_ne_none _ h.symm).elim⟩
  · simp only [Bool.or_eq_true, List.mem_append, exists_or]
    exact or_congr hfirst.inside hsecond.inside
  · rcases List.mem_append.mp hr with hr | hr
    · rw [hfirst.none_iff.mp rfl r hr]
      exact Box.edge_lowPart ratio (hlow (hfirst.inside.mpr ⟨r, hr⟩))
    · rw [hsecond.none_iff.mp rfl r hr]
      exact Box.edge_highPart ratio (hhigh (hsecond.inside.mpr ⟨r, hr⟩))

/-- The target reaches the line between the parts from below. -/
theorem Finds.across_high {uuid : String}
    (hfirst : Finds direction target part₁ (b.lowPart axis ratio) (none, true))
    (hwithin : ∀ x ∈ part₁, x.2.Within (b.lowPart axis ratio))
    (haxis : axis = direction.side.axis)
    (hhigh : direction.side.high = true)
    (hedge : ∃ r, (uuid, r) ∈ part₂ ∧ r.edge direction.side.opposite =
      (b.highPart axis ratio).edge direction.side.opposite) :
    Finds direction target (part₁ ++ part₂) b (some uuid, true) := by
  obtain ⟨r, hr⟩ := hfirst.inside.mp rfl
  obtain ⟨neighbour, hneighbour, hmeet⟩ := hedge
  refine ⟨⟨fun _ => ⟨r, List.mem_append_left _ hr⟩, fun _ => rfl⟩,
    ⟨fun h => (Option.some_ne_none _ h).elim, fun h => ?_⟩, ?_⟩
  · exact absurd (h r (List.mem_append_left _ hr)) (edge_ne_of_lowPart (hwithin _ hr) haxis hhigh)
  · intro uuid' huuid
    obtain rfl := Option.some.inj huuid
    refine ⟨r, neighbour, List.mem_append_left _ hr, List.mem_append_right _ hneighbour, ?_⟩
    rw [hmeet, hfirst.none_iff.mp rfl r hr, Box.edge_lowPart_high ratio b haxis hhigh]

/-- The target reaches the line between the parts from above. -/
theorem Finds.across_low {uuid : String}
    (hsecond : Finds direction target part₂ (b.highPart axis ratio) (none, true))
    (hwithin : ∀ x ∈ part₂, x.2.Within (b.highPart axis ratio))
    (haxis : axis = direction.side.axis)
    (hhigh : direction.side.high = false)
    (hedge : ∃ r, (uuid, r) ∈ part₁ ∧ r.edge direction.side.opposite =
      (b.lowPart axis ratio).edge direction.side.opposite) :
    Finds direction target (part₁ ++ part₂) b (some uuid, true) := by
  obtain ⟨r, hr⟩ := hsecond.inside.mp rfl
  obtain ⟨neighbour, hneighbour, hmeet⟩ := hedge
  refine ⟨⟨fun _ => ⟨r, List.mem_append_right _ hr⟩, fun _ => rfl⟩,
    ⟨fun h => (Option.some_ne_none _ h).elim, fun h => ?_⟩, ?_⟩
  · exact absurd (h r (List.mem_append_right _ hr))
      (edge_ne_of_highPart (hwithin _ hr) haxis hhigh)
  · intro uuid' huuid
    obtain rfl := Option.some.inj huuid
    refine ⟨r, neighbour, List.mem_append_right _ hr, List.mem_append_left _ hneighbour, ?_⟩
    rw [hmeet, hsecond.none_iff.mp rfl r hr, Box.edge_highPart_low ratio b haxis hhigh]

/-- **Neither part has the neighbour**: it is across the line, or nowhere. -/
theorem Finds.of_split {orientation : SplitOrientation} {uuid₁ uuid₂ : String}
    (haxis : axis = axisOf orientation)
    (hfirst : Finds direction target part₁ (b.lowPart axis ratio) (none, inFirst))
    (hsecond : Finds direction target part₂ (b.highPart axis ratio) (none, inSecond))
    (hwithin₁ : ∀ x ∈ part₁, x.2.Within (b.lowPart axis ratio))
    (hwithin₂ : ∀ x ∈ part₂, x.2.Within (b.highPart axis ratio))
    (hedge₁ : ∃ r, (uuid₁, r) ∈ part₁ ∧ r.edge direction.side.opposite =
      (b.lowPart axis ratio).edge direction.side.opposite)
    (hedge₂ : ∃ r, (uuid₂, r) ∈ part₂ ∧ r.edge direction.side.opposite =
      (b.highPart axis ratio).edge direction.side.opposite) :
    Finds direction target (part₁ ++ part₂) b
      (if !inFirst && !inSecond then (none, false)
      else if !matchesAxis orientation direction then (none, true)
      else if (direction == .left || direction == .up) && inSecond then (some uuid₁, true)
      else if !(direction == .left || direction == .up) && inFirst then (some uuid₂, true)
      else (none, true)) := by
  subst haxis
  have hnone := hfirst.of_none hsecond
  rw [towardFirst_iff]
  cases hin : inFirst || inSecond with
  | false =>
      obtain ⟨rfl, rfl⟩ := Bool.or_eq_false_iff.mp hin
      exact hnone (fun h => absurd h Bool.false_ne_true) (fun h => absurd h Bool.false_ne_true)
  | true =>
      rw [hin] at hnone
      rw [← Bool.not_or, hin]
      simp only [Bool.not_true, Bool.false_eq_true, if_false]
      cases hmatch : matchesAxis orientation direction with
      | false =>
          -- the split is across the other axis, so both parts keep the side
          have hother : axisOf orientation ≠ direction.side.axis := fun haxis =>
            absurd (matchesAxis_iff.mpr haxis) (by rw [hmatch]; exact Bool.false_ne_true)
          exact hnone (fun _ haxis => absurd haxis hother) (fun _ haxis => absurd haxis hother)
      | true =>
          have haxis := matchesAxis_iff.mp hmatch
          cases hhigh : direction.side.high with
          | false =>
              cases hsome : inSecond with
              | false =>
                  rw [hsome] at hnone
                  exact hnone (fun _ _ => hhigh) (fun h => absurd h Bool.false_ne_true)
              | true =>
                  rw [hsome] at hsecond
                  exact hsecond.across_low hwithin₂ haxis hhigh hedge₁
          | true =>
              cases hsome : inFirst with
              | false =>
                  rw [hsome] at hnone
                  exact hnone (fun h => absurd h Bool.false_ne_true) (fun _ _ => hhigh)
              | true =>
                  rw [hsome] at hfirst
                  exact hfirst.across_high hwithin₁ haxis hhigh hedge₂

end Parts

/-- **The search through a layout**: an induction over the tree, with the box of
each part. -/
theorem findAdjacentInner_finds (direction : Direction) (target : String) (node : LayoutNode)
    (ratios : List Bool → Set.Ioo (0 : K) 1) (b : Box K) :
    Finds direction target (node.regions ratios b) b
      (node.findAdjacentInner target direction) := by
  induction node generalizing ratios b with
  | terminal uuid profile cwd customTitle =>
      refine ⟨?_, ⟨fun _ r hr => ?_, fun _ => rfl⟩,
        fun uuid' h => (Option.some_ne_none _ h.symm).elim⟩
      · simp only [findAdjacentInner, regions, cutTree, CutTree.regions, List.mem_singleton,
          Prod.mk.injEq, exists_and_left, exists_eq, and_true, beq_iff_eq]
        exact eq_comm
      · simp only [regions, cutTree, CutTree.regions, List.mem_singleton, Prod.mk.injEq] at hr
        rw [hr.2]
  | split orientation ratio first second ih₁ ih₂ =>
      have hfirst := ih₁ (fun path => ratios (false :: path))
        (b.lowPart (axisOf orientation) (ratios []))
      have hsecond := ih₂ (fun path => ratios (true :: path))
        (b.highPart (axisOf orientation) (ratios []))
      rw [findAdjacentInner]
      cases hfound₁ : first.findAdjacentInner target direction with
      | mk found₁ inFirst =>
        rw [hfound₁] at hfirst
        cases found₁ with
        | some uuid =>
            refine hfirst.of_part (fun x hx => List.mem_append_left _ hx) fun r hr hedge => ?_
            exact edge_lowPart_of_reached (CutTree.within_of_mem_regions hr) hedge
        | none =>
          cases hfound₂ : second.findAdjacentInner target direction with
          | mk found₂ inSecond =>
            rw [hfound₂] at hsecond
            cases found₂ with
            | some uuid =>
                refine hsecond.of_part (fun x hx => List.mem_append_right _ hx) fun r hr hedge => ?_
                exact edge_highPart_of_reached (CutTree.within_of_mem_regions hr) hedge
            | none =>
                exact Finds.of_split rfl hfirst hsecond
                  (fun x hx => CutTree.within_of_mem_regions hx)
                  (fun x hx => CutTree.within_of_mem_regions hx)
                  (edgeTerminal_region direction first _ _)
                  (edgeTerminal_region direction second _ _)

/-- **Focus follows the rectangles.**  A move finds nothing iff the terminal
reaches the edge of the window, and otherwise a terminal whose opposite side is
on the line of the side that was crossed. -/
theorem findAdjacent_geometric (node : LayoutNode) (ratios : List Bool → Set.Ioo (0 : K) 1)
    (target : String) (direction : Direction) :
    (node.regions ratios windowBox).map Prod.fst = node.terminalUuids ∧
      (node.findAdjacent target direction = none ↔
        ∀ r, (target, r) ∈ node.regions ratios windowBox →
          r.edge direction.side = windowBox.edge direction.side) ∧
      (∀ found, node.findAdjacent target direction = some found → ∃ r neighbour,
        (target, r) ∈ node.regions ratios windowBox ∧
          (found, neighbour) ∈ node.regions ratios windowBox ∧
          neighbour.edge direction.side.opposite = r.edge direction.side) ∧
      ∀ r, (target, r) ∈ node.regions ratios windowBox → node.terminalUuids.Nodup →
        (node.findAdjacent target direction = none ↔
          r.edge direction.side = windowBox.edge direction.side) ∧
        ∀ found, node.findAdjacent target direction = some found → ∃ neighbour,
          (found, neighbour) ∈ node.regions ratios windowBox ∧
            neighbour.edge direction.side.opposite = r.edge direction.side := by
  have hfinds := findAdjacentInner_finds direction target node ratios windowBox
  refine ⟨map_fst_regions node ratios windowBox, hfinds.none_iff, hfinds.found, ?_⟩
  intro r hr hnodup
  have honly : ∀ other, (target, other) ∈ node.regions ratios windowBox → other = r := by
    intro other hother
    rw [← map_fst_regions node ratios windowBox] at hnodup
    exact (Prod.mk.inj (List.inj_on_of_nodup_map hnodup hother hr rfl)).2
  constructor
  · rw [findAdjacent, hfinds.none_iff]
    exact ⟨fun h => h r hr, fun h other hother => honly other hother ▸ h⟩
  · intro found hfound
    obtain ⟨other, neighbour, hother, hneighbour, hedge⟩ := hfinds.found found hfound
    exact ⟨neighbour, hneighbour, honly other hother ▸ hedge⟩

end Search

/-- Two terminals side by side, the split at a third of the window. -/
def besideNode : LayoutNode :=
  split .horizontal ⟨0x3FE0000000000000#64⟩ (terminal "left" none none none)
    (terminal "right" none none none)

def thirdRatio : Set.Ioo (0 : ℚ) 1 :=
  ⟨1 / 3, by norm_num⟩

theorem findAdjacent_geometric_beside :
    ∃ r neighbour, ("left", r) ∈ besideNode.regions (fun _ => thirdRatio) windowBox ∧
      ("right", neighbour) ∈ besideNode.regions (fun _ => thirdRatio) windowBox ∧
      neighbour.edge ⟨.horizontal, false⟩ = r.edge ⟨.horizontal, true⟩ := by
  obtain ⟨_, _, hfound, _⟩ :=
    findAdjacent_geometric besideNode (fun _ => thirdRatio) "left" .right
  exact hfound "right" rfl

end LayoutNode

end Client
end Rttx
