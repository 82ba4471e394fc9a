import Mathlib.Logic.Equiv.Basic
import Rttx.Client.LayoutSplit

/-!
# Edits of a layout

Splitting a leaf without a limit on the depth, removing a terminal, exchanging two
terminals, rotating the splits, and moving to a neighbour.  A removal visits both
children of a split and collapses a split that lost one of them into the other.

**Results.**
* `splitTerminalWithNewUuid_eq`: the limited split is the unlimited one at a leaf
  that is not too deep.
* `removeTerminal_uuids`: a removal takes away the leaves of the id.
* `swapTerminals_uuids`, `rotated_uuids`: an exchange permutes the leaves, a
  rotation keeps them.
* `findAdjacent_mem`, `cycleTerminal_mem`: a move ends at a leaf.
-/

namespace Rttx
namespace Client

open Kernel

namespace LayoutNode

section Definitions

/-- Split the first leaf of `targetUuid`, at any depth. -/
def splitTerminal (targetUuid newUuid : String) (orientation : SplitOrientation) :
    LayoutNode → Option LayoutNode
  | terminal uuid profile cwd customTitle =>
      if uuid = targetUuid then
        some ((terminal uuid profile cwd customTitle).splitNode newUuid orientation)
      else
        none
  | split o ratio first second =>
      match first.splitTerminal targetUuid newUuid orientation with
      | some newFirst => some (split o ratio newFirst second)
      | none =>
          (second.splitTerminal targetUuid newUuid orientation).map
            (fun newSecond => split o ratio first newSecond)

/-- Remove the leaves of `targetUuid`; none when nothing is left. -/
def removeTerminal (targetUuid : String) : LayoutNode → Option LayoutNode
  | terminal uuid profile cwd customTitle =>
      if uuid = targetUuid then none else some (terminal uuid profile cwd customTitle)
  | split orientation ratio first second =>
      match first.removeTerminal targetUuid, second.removeTerminal targetUuid with
      | none, none => none
      | none, some second => some second
      | some first, none => some first
      | some first, some second => some (split orientation ratio first second)

def collectReplacements (a b : String) :
    LayoutNode → Option LayoutNode × Option LayoutNode → Option LayoutNode × Option LayoutNode
  | terminal uuid profile cwd customTitle, (repA, repB) =>
      if uuid = a then
        (some (terminal uuid profile cwd customTitle), repB)
      else if uuid = b then
        (repA, some (terminal uuid profile cwd customTitle))
      else
        (repA, repB)
  | split _ _ first second, reps =>
      second.collectReplacements a b (first.collectReplacements a b reps)

def applyReplacements (a b : String) (valA valB : LayoutNode) : LayoutNode → LayoutNode
  | terminal uuid profile cwd customTitle =>
      if uuid = a then valA
      else if uuid = b then valB
      else terminal uuid profile cwd customTitle
  | split orientation ratio first second =>
      split orientation ratio (applyReplacements a b valA valB first)
        (applyReplacements a b valA valB second)

/-- Exchange the terminals `a` and `b`, if both are in the layout. -/
def swapTerminals (a b : String) (node : LayoutNode) : LayoutNode :=
  if a = b then
    node
  else if !node.containsTerminal a || !node.containsTerminal b then
    node
  else
    match node.collectReplacements a b (none, none) with
    | (some nodeA, some nodeB) => applyReplacements a b nodeB nodeA node
    | _ => node

end Definitions

section Navigation

inductive Direction
  | left
  | right
  | up
  | down
deriving DecidableEq, Repr

def toggled : SplitOrientation → SplitOrientation
  | .horizontal => .vertical
  | .vertical => .horizontal

/-- Toggle the orientation of every split. -/
def rotated : LayoutNode → LayoutNode
  | terminal uuid profile cwd customTitle => terminal uuid profile cwd customTitle
  | split orientation ratio first second =>
      split (toggled orientation) ratio first.rotated second.rotated

/-- Whether a move in this direction crosses splits of this orientation. -/
def matchesAxis : SplitOrientation → Direction → Bool
  | .horizontal, .left | .horizontal, .right => true
  | .vertical, .up | .vertical, .down => true
  | _, _ => false

/-- The terminal at the edge that a move in this direction enters. -/
def edgeTerminal (direction : Direction) : LayoutNode → String
  | terminal uuid _ _ _ => uuid
  | split orientation _ first second =>
      let pickFirst :=
        !(orientation == .horizontal && direction == .left ||
          orientation == .vertical && direction == .up)
      if pickFirst then first.edgeTerminal direction else second.edgeTerminal direction

/-- The neighbour, and whether the target is in this part of the layout. -/
def findAdjacentInner (targetUuid : String) (direction : Direction) :
    LayoutNode → Option String × Bool
  | terminal uuid _ _ _ => (none, uuid == targetUuid)
  | split orientation _ first second =>
      match first.findAdjacentInner targetUuid direction with
      | (some found, _) => (some found, true)
      | (none, inFirst) =>
          match second.findAdjacentInner targetUuid direction with
          | (some found, _) => (some found, true)
          | (none, inSecond) =>
              if !inFirst && !inSecond then
                (none, false)
              else if !matchesAxis orientation direction then
                (none, true)
              else
                let towardFirst := direction == .left || direction == .up
                if towardFirst && inSecond then
                  (some (first.edgeTerminal direction), true)
                else if !towardFirst && inFirst then
                  (some (second.edgeTerminal direction), true)
                else
                  (none, true)

def findAdjacent (node : LayoutNode) (targetUuid : String) (direction : Direction) :
    Option String :=
  (node.findAdjacentInner targetUuid direction).1

/-- The terminal after (or before) the target in layout order. -/
def cycleTerminal (node : LayoutNode) (targetUuid : String) (forward : Bool) : Option String :=
  let uuids := node.terminalUuids
  if uuids.length < 2 then
    none
  else
    (uuids.findIdx? (fun uuid => uuid == targetUuid)).bind fun index =>
      let step := if forward then 1 else uuids.length - 1
      uuids[(index + step) % uuids.length]?

end Navigation

section Splits

variable {targetUuid : String} {node : LayoutNode}

theorem depthOfTerminal_isSome :
    (node.depthOfTerminal targetUuid).isSome = true ↔ targetUuid ∈ node.terminalUuids := by
  induction node with
  | terminal uuid profile cwd customTitle =>
      by_cases h : uuid = targetUuid
      · simp [depthOfTerminal, terminalUuids, h]
      · simp [depthOfTerminal, terminalUuids, h, Ne.symm h]
  | split o ratio first second ih₁ ih₂ =>
      simp [depthOfTerminal, terminalUuids, ih₁, ih₂]

theorem depthOfTerminal_of_not_mem
    (h : targetUuid ∉ node.terminalUuids) :
    node.depthOfTerminal targetUuid = none := by
  rw [← Option.not_isSome_iff_eq_none, depthOfTerminal_isSome]
  exact h

theorem splitTerminal_isSome {newUuid : String} {orientation : SplitOrientation} :
    (node.splitTerminal targetUuid newUuid orientation).isSome = true ↔
      targetUuid ∈ node.terminalUuids := by
  induction node with
  | terminal uuid profile cwd customTitle =>
      by_cases h : uuid = targetUuid
      · simp [splitTerminal, terminalUuids, h]
      · simp [splitTerminal, terminalUuids, h, Ne.symm h]
  | split o ratio first second ih₁ ih₂ =>
      simp only [terminalUuids, List.mem_append, ← ih₁, ← ih₂, splitTerminal]
      cases first.splitTerminal targetUuid newUuid orientation with
      | some newFirst => simp
      | none => simp

theorem splitTerminal_of_not_mem
    (h : targetUuid ∉ node.terminalUuids)
    (newUuid : String)
    (orientation : SplitOrientation) :
    node.splitTerminal targetUuid newUuid orientation = none := by
  rw [← Option.not_isSome_iff_eq_none, splitTerminal_isSome]
  exact h

/-- A split adds a leaf. -/
theorem splitTerminal_uuids {newUuid : String} {orientation : SplitOrientation}
    {node' : LayoutNode}
    (h : node.splitTerminal targetUuid newUuid orientation = some node') :
    node'.terminalUuids.Perm (newUuid :: node.terminalUuids) := by
  induction node generalizing node' with
  | terminal uuid profile cwd customTitle =>
      simp only [splitTerminal, Option.ite_none_right_eq_some, Option.some.injEq] at h
      rw [← h.2]
      exact List.Perm.swap newUuid uuid []
  | split o ratio first second ih₁ ih₂ =>
      simp only [splitTerminal] at h
      split at h
      · rename_i newFirst hfirst
        rw [← Option.some.inj h]
        exact (ih₁ hfirst).append_right second.terminalUuids
      · obtain ⟨newSecond, hsecond, rfl⟩ := Option.map_eq_some_iff.mp h
        exact ((ih₂ hsecond).append_left first.terminalUuids).trans List.perm_middle

/-- **The limit refuses the splits of deep leaves and changes no other.** -/
theorem splitTerminalWithNewUuid_eq (targetUuid newUuid : String)
    (orientation : SplitOrientation) (node : LayoutNode) :
    node.splitTerminalWithNewUuid targetUuid newUuid orientation =
      if (node.depthOfTerminal targetUuid).all (fun depth => maxSplitDepth ≤ depth) then
        none
      else
        (node.splitTerminal targetUuid newUuid orientation).map (fun node => (node, newUuid)) := by
  induction node with
  | terminal uuid profile cwd customTitle =>
      by_cases h : uuid = targetUuid
      · simp [splitTerminalWithNewUuid, splitTerminal, h]
      · simp [splitTerminalWithNewUuid, depthOfTerminal, h]
  | split o ratio first second ih₁ ih₂ =>
      rw [splitTerminalWithNewUuid, ih₁, ih₂]
      cases hfirst : first.depthOfTerminal targetUuid with
      | some depth =>
          have hin : targetUuid ∈ first.terminalUuids :=
            depthOfTerminal_isSome.mp (by simp [hfirst])
          obtain ⟨newFirst, hnew⟩ := Option.isSome_iff_exists.mp
            (splitTerminal_isSome.mpr hin :
              (first.splitTerminal targetUuid newUuid orientation).isSome = true)
          by_cases hdeep : maxSplitDepth ≤ depth + 1
          · simp [depthOfTerminal, hfirst, hdeep]
          · -- the child is shallower, so its own check passes
            have hchild : ¬ maxSplitDepth ≤ depth := by omega
            simp [depthOfTerminal, hfirst, hdeep, hchild, splitTerminal, hnew]
      | none =>
          have hout : targetUuid ∉ first.terminalUuids := by
            rw [← depthOfTerminal_isSome, hfirst]
            simp
          cases hsecond : second.depthOfTerminal targetUuid with
          | none => simp [depthOfTerminal, hfirst, hsecond]
          | some depth =>
              by_cases hdeep : maxSplitDepth ≤ depth + 1
              · simp [depthOfTerminal, hfirst, hsecond, hdeep]
              · have hchild : ¬ maxSplitDepth ≤ depth := by omega
                simp [depthOfTerminal, hfirst, hsecond, hdeep, hchild, splitTerminal,
                  splitTerminal_of_not_mem hout, Function.comp_def]

/-- The limited split adds a leaf. -/
theorem splitTerminalWithNewUuid_uuids {newUuid uuid : String} {orientation : SplitOrientation}
    {node' : LayoutNode}
    (h : node.splitTerminalWithNewUuid targetUuid newUuid orientation = some (node', uuid)) :
    node'.terminalUuids.Perm (newUuid :: node.terminalUuids) := by
  rw [splitTerminalWithNewUuid_eq] at h
  split at h
  · cases h
  · obtain ⟨result, hresult, heq⟩ := Option.map_eq_some_iff.mp h
    rw [← (Prod.mk.inj heq).1]
    exact splitTerminal_uuids hresult

theorem replaceTerminalUuid_false {newUuid : String} {node' : LayoutNode}
    (h : node.replaceTerminalUuid targetUuid newUuid = (false, node')) :
    node' = node := by
  induction node generalizing node' with
  | terminal uuid profile cwd customTitle =>
      simp only [replaceTerminalUuid] at h
      split at h
      · cases h
      · exact (Prod.mk.inj h).2.symm
  | split o ratio first second ih₁ ih₂ =>
      simp only [replaceTerminalUuid] at h
      split at h
      · cases h
      · rename_i newFirst hfirst
        obtain ⟨hfound, rfl⟩ := Prod.mk.inj h
        have hsecond : (second.replaceTerminalUuid targetUuid newUuid).2 = second :=
          ih₂ (Prod.ext hfound rfl)
        rw [ih₁ hfirst, hsecond]

/-- A new id takes the place of the first leaf of the old one. -/
theorem replaceTerminalUuid_uuids {newUuid : String} {node' : LayoutNode}
    (h : node.replaceTerminalUuid targetUuid newUuid = (true, node')) :
    ∃ before after,
      node.terminalUuids = before ++ targetUuid :: after ∧
        node'.terminalUuids = before ++ newUuid :: after := by
  induction node generalizing node' with
  | terminal uuid profile cwd customTitle =>
      simp only [replaceTerminalUuid] at h
      split at h
      · rename_i heq
        rw [← (Prod.mk.inj h).2]
        exact ⟨[], [], by simp [terminalUuids, heq], by simp [terminalUuids]⟩
      · cases h
  | split o ratio first second ih₁ ih₂ =>
      simp only [replaceTerminalUuid] at h
      split at h
      · rename_i newFirst hfirst
        obtain ⟨before, after, hold, hnew⟩ := ih₁ hfirst
        rw [← (Prod.mk.inj h).2]
        exact ⟨before, after ++ second.terminalUuids, by simp [terminalUuids, hold],
          by simp [terminalUuids, hnew]⟩
      · rename_i newFirst hfirst
        have hsame : newFirst = first := replaceTerminalUuid_false hfirst
        obtain ⟨hfound, rfl⟩ := Prod.mk.inj h
        obtain ⟨before, after, hold, hnew⟩ := ih₂ (Prod.ext hfound rfl)
        exact ⟨first.terminalUuids ++ before, after, by simp [terminalUuids, hold],
          by simp [terminalUuids, hnew, hsame]⟩

end Splits

section Removal

variable {targetUuid : String} {node : LayoutNode}

theorem removeTerminal_of_not_mem
    (h : targetUuid ∉ node.terminalUuids) :
    node.removeTerminal targetUuid = some node := by
  induction node with
  | terminal uuid profile cwd customTitle =>
      have hne : uuid ≠ targetUuid := by
        rintro rfl
        exact h (by simp [terminalUuids])
      simp [removeTerminal, hne]
  | split orientation ratio first second ih₁ ih₂ =>
      simp only [terminalUuids, List.mem_append, not_or] at h
      simp [removeTerminal, ih₁ h.1, ih₂ h.2]

/-- **A removal takes away the leaves of the id and keeps the others in order.** -/
theorem removeTerminal_uuids (targetUuid : String) (node : LayoutNode) :
    (node.removeTerminal targetUuid).elim [] terminalUuids =
      node.terminalUuids.filter (fun uuid => uuid ≠ targetUuid) := by
  induction node with
  | terminal uuid profile cwd customTitle =>
      by_cases h : uuid = targetUuid
      · simp [removeTerminal, terminalUuids, h]
      · simp [removeTerminal, terminalUuids, h]
  | split orientation ratio first second ih₁ ih₂ =>
      rw [terminalUuids, List.filter_append, ← ih₁, ← ih₂, removeTerminal]
      cases first.removeTerminal targetUuid <;> cases second.removeTerminal targetUuid <;>
        simp [terminalUuids]

theorem removeTerminal_some_uuids {rest : LayoutNode}
    (h : node.removeTerminal targetUuid = some rest) :
    rest.terminalUuids = node.terminalUuids.filter (fun uuid => uuid ≠ targetUuid) := by
  rw [← removeTerminal_uuids, h, Option.elim_some]

@[simp] theorem setTerminalCwd_uuids (targetUuid : String) (newCwd : Option String)
    (node : LayoutNode) :
    (node.setTerminalCwd targetUuid newCwd).2.terminalUuids = node.terminalUuids :=
  terminalUuids_of_shape (setTerminalCwd_shape targetUuid newCwd node)

end Removal

section Rearrangement

variable {node : LayoutNode}

/-- What is collected are leaves of the two ids. -/
theorem collectReplacements_uuids {a b : String} {reps : Option LayoutNode × Option LayoutNode}
    (hA : ∀ found, reps.1 = some found → found.terminalUuids = [a])
    (hB : ∀ found, reps.2 = some found → found.terminalUuids = [b]) :
    (∀ found, (node.collectReplacements a b reps).1 = some found →
        found.terminalUuids = [a]) ∧
      ∀ found, (node.collectReplacements a b reps).2 = some found →
        found.terminalUuids = [b] := by
  induction node generalizing reps with
  | terminal uuid profile cwd customTitle =>
      obtain ⟨repA, repB⟩ := reps
      by_cases ha : uuid = a
      · refine ⟨?_, by simpa [collectReplacements, ha] using hB⟩
        rintro found h
        simp only [collectReplacements, ha, if_true, Option.some.injEq] at h
        simp [← h, terminalUuids]
      · by_cases hb : uuid = b
        · subst hb
          refine ⟨by simpa [collectReplacements, ha] using hA, ?_⟩
          rintro found h
          simp only [collectReplacements, ha, if_false, if_true, Option.some.injEq] at h
          simp [← h, terminalUuids]
        · simpa [collectReplacements, ha, hb] using ⟨hA, hB⟩
  | split orientation ratio first second ih₁ ih₂ =>
      obtain ⟨hA', hB'⟩ := ih₁ hA hB
      exact ih₂ hA' hB'

theorem applyReplacements_uuids {a b : String} {nodeA nodeB : LayoutNode}
    (hA : nodeA.terminalUuids = [a])
    (hB : nodeB.terminalUuids = [b]) :
    (applyReplacements a b nodeB nodeA node).terminalUuids =
      node.terminalUuids.map (Equiv.swap a b) := by
  induction node with
  | terminal uuid profile cwd customTitle =>
      by_cases ha : uuid = a
      · simp [applyReplacements, terminalUuids, ha, hB]
      · by_cases hb : uuid = b
        · subst hb
          simp [applyReplacements, terminalUuids, ha, hA]
        · simp [applyReplacements, terminalUuids, ha, hb, Equiv.swap_apply_of_ne_of_ne]
  | split orientation ratio first second ih₁ ih₂ =>
      simp [applyReplacements, terminalUuids, ih₁, ih₂]

/-- An exchange renames the leaves, if both are in the layout. -/
theorem swapTerminals_cases (a b : String) (node : LayoutNode) :
    node.swapTerminals a b = node ∨
      a ∈ node.terminalUuids ∧ b ∈ node.terminalUuids ∧
        (node.swapTerminals a b).terminalUuids = node.terminalUuids.map (Equiv.swap a b) := by
  unfold swapTerminals
  split
  · exact Or.inl rfl
  · split
    · exact Or.inl rfl
    · rename_i hboth
      simp only [Bool.or_eq_true, Bool.not_eq_true', not_or, Bool.not_eq_false,
        containsTerminal_iff] at hboth
      obtain ⟨hA, hB⟩ := @collectReplacements_uuids node a b (none, none)
        (by simp) (by simp)
      split
      · rename_i nodeA nodeB hres
        rw [hres] at hA hB
        exact Or.inr ⟨hboth.1, hboth.2, applyReplacements_uuids (hA nodeA rfl) (hB nodeB rfl)⟩
      · exact Or.inl rfl

/-- An exchange keeps the set of leaves. -/
theorem mem_swapTerminals {a b uuid : String} :
    uuid ∈ (node.swapTerminals a b).terminalUuids ↔ uuid ∈ node.terminalUuids := by
  rcases node.swapTerminals_cases a b with hsame | ⟨ha, hb, huuids⟩
  · rw [hsame]
  · rw [huuids, List.mem_map]
    have hswap : ∀ t ∈ node.terminalUuids, Equiv.swap a b t ∈ node.terminalUuids := by
      intro t ht
      by_cases hta : t = a
      · simpa [hta] using hb
      · by_cases htb : t = b
        · simpa [htb] using ha
        · rwa [Equiv.swap_apply_of_ne_of_ne hta htb]
    constructor
    · rintro ⟨old, hold, rfl⟩
      exact hswap old hold
    · intro huuid
      exact ⟨Equiv.swap a b uuid, hswap uuid huuid, Equiv.swap_apply_self a b uuid⟩

/-- **An exchange permutes the leaves.** -/
theorem swapTerminals_uuids
    (hnodup : node.terminalUuids.Nodup)
    (a b : String) :
    (node.swapTerminals a b).terminalUuids.Perm node.terminalUuids := by
  have hswapped : (node.swapTerminals a b).terminalUuids.Nodup := by
    rcases node.swapTerminals_cases a b with hsame | ⟨_, _, huuids⟩
    · rwa [hsame]
    · rw [huuids]
      exact hnodup.map (Equiv.swap a b).injective
  rw [List.perm_ext_iff_of_nodup hswapped hnodup]
  exact fun uuid => mem_swapTerminals

@[simp] theorem rotated_uuids (node : LayoutNode) :
    node.rotated.terminalUuids = node.terminalUuids := by
  induction node with
  | terminal uuid profile cwd customTitle => rfl
  | split orientation ratio first second ih₁ ih₂ => simp [rotated, terminalUuids, ih₁, ih₂]

theorem edgeTerminal_mem (direction : Direction) (node : LayoutNode) :
    node.edgeTerminal direction ∈ node.terminalUuids := by
  induction node with
  | terminal uuid profile cwd customTitle => simp [edgeTerminal, terminalUuids]
  | split orientation ratio first second ih₁ ih₂ =>
      simp only [edgeTerminal, terminalUuids, List.mem_append]
      split
      · exact Or.inl ih₁
      · exact Or.inr ih₂

/-- A neighbour is a leaf of the layout. -/
theorem findAdjacent_mem {targetUuid found : String} {direction : Direction}
    (h : node.findAdjacent targetUuid direction = some found) :
    found ∈ node.terminalUuids := by
  unfold findAdjacent at h
  induction node generalizing found with
  | terminal uuid profile cwd customTitle => simp [findAdjacentInner] at h
  | split orientation ratio first second ih₁ ih₂ =>
      rw [terminalUuids, List.mem_append]
      simp only [findAdjacentInner] at h
      split at h
      · rename_i heq
        exact Or.inl (ih₁ (by simpa [heq] using h))
      · split at h
        · rename_i heq
          exact Or.inr (ih₂ (by simpa [heq] using h))
        · -- neither part has the neighbour: it is across this split, or nowhere
          split at h
          · simp at h
          · split at h
            · simp at h
            · split at h
              · rw [Option.some.injEq] at h
                exact Or.inl (h ▸ edgeTerminal_mem direction first)
              · split at h
                · rw [Option.some.injEq] at h
                  exact Or.inr (h ▸ edgeTerminal_mem direction second)
                · simp at h

theorem cycleTerminal_mem {targetUuid found : String} {forward : Bool}
    (h : node.cycleTerminal targetUuid forward = some found) :
    found ∈ node.terminalUuids := by
  simp only [cycleTerminal, Option.ite_none_left_eq_some, Option.bind_eq_some_iff] at h
  obtain ⟨_, index, _, h⟩ := h
  exact List.mem_of_getElem? h

end Rearrangement

end LayoutNode

end Client
end Rttx
