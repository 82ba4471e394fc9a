import Mathlib.Data.List.Nodup
import Rttx.Client.LayoutEdits

/-!
# Laws of the edits of a layout

The leaves of a layout with all they carry, and the laws that the edits keep over
them when no two leaves have the same id.

**Results.**
* `splitTerminal_order`, `depthOfTerminal_splitTerminal`: where a split puts the
  new leaf, and how deep.
* `removeTerminal_splitTerminal`: removing the new leaf undoes the split.
* `swapTerminals_eq`: an exchange is an exchange of the two leaves.
* `layoutEdits_lawful`: the laws together.
-/

namespace Rttx
namespace Client

namespace LayoutNode

section Leaves

/-- What a leaf carries. -/
structure Leaf where
  uuid : String
  profile : Option String
  cwd : Option String
  customTitle : Option String
deriving DecidableEq

def Leaf.node (leaf : Leaf) : LayoutNode :=
  .terminal leaf.uuid leaf.profile leaf.cwd leaf.customTitle

/-- The leaves from left to right. -/
def leaves : LayoutNode → List Leaf
  | terminal uuid profile cwd customTitle => [⟨uuid, profile, cwd, customTitle⟩]
  | split _ _ first second => first.leaves ++ second.leaves

/-- The same splits over other leaves. -/
def mapLeaves (f : Leaf → Leaf) : LayoutNode → LayoutNode
  | terminal uuid profile cwd customTitle => (f ⟨uuid, profile, cwd, customTitle⟩).node
  | split orientation ratio first second =>
      split orientation ratio (first.mapLeaves f) (second.mapLeaves f)

@[simp] theorem leaves_node (leaf : Leaf) : leaf.node.leaves = [leaf] := rfl

@[simp] theorem map_uuid_leaves (node : LayoutNode) :
    node.leaves.map Leaf.uuid = node.terminalUuids := by
  induction node with
  | terminal uuid profile cwd customTitle => rfl
  | split orientation ratio first second ih₁ ih₂ => simp [leaves, terminalUuids, ih₁, ih₂]

@[simp] theorem leaves_mapLeaves (f : Leaf → Leaf) (node : LayoutNode) :
    (node.mapLeaves f).leaves = node.leaves.map f := by
  induction node with
  | terminal uuid profile cwd customTitle => rfl
  | split orientation ratio first second ih₁ ih₂ => simp [leaves, mapLeaves, ih₁, ih₂]

theorem mapLeaves_mapLeaves (f g : Leaf → Leaf) (node : LayoutNode) :
    (node.mapLeaves f).mapLeaves g = node.mapLeaves (g ∘ f) := by
  induction node with
  | terminal uuid profile cwd customTitle => rfl
  | split orientation ratio first second ih₁ ih₂ => simp [mapLeaves, ih₁, ih₂]

theorem mapLeaves_id {f : Leaf → Leaf} (node : LayoutNode)
    (h : ∀ leaf, f leaf = leaf) :
    node.mapLeaves f = node := by
  induction node with
  | terminal uuid profile cwd customTitle => rw [mapLeaves, h]; rfl
  | split orientation ratio first second ih₁ ih₂ => simp [mapLeaves, ih₁, ih₂]

/-- In a layout without equal ids a leaf is known by its id. -/
theorem leaf_unique {node : LayoutNode} {leaf leaf' : Leaf}
    (hnodup : node.terminalUuids.Nodup)
    (hleaf : leaf ∈ node.leaves)
    (hleaf' : leaf' ∈ node.leaves)
    (huuid : leaf.uuid = leaf'.uuid) :
    leaf = leaf' := by
  rw [← map_uuid_leaves] at hnodup
  exact List.inj_on_of_nodup_map hnodup hleaf hleaf' huuid

theorem exists_leaf {node : LayoutNode} {uuid : String}
    (h : uuid ∈ node.terminalUuids) :
    ∃ leaf ∈ node.leaves, leaf.uuid = uuid := by
  rw [← map_uuid_leaves] at h
  exact List.mem_map.mp h

theorem mem_terminalUuids_of_leaf {node : LayoutNode} {leaf : Leaf}
    (h : leaf ∈ node.leaves) :
    leaf.uuid ∈ node.terminalUuids := by
  rw [← map_uuid_leaves]
  exact List.mem_map_of_mem h

end Leaves

section Splitting

variable {node node' : LayoutNode} {targetUuid newUuid : String} {orientation : SplitOrientation}

/-- **The new leaf comes next to the target**, and no other leaf changes. -/
theorem splitTerminal_order
    (h : node.splitTerminal targetUuid newUuid orientation = some node') :
    ∃ before target after, target.uuid = targetUuid ∧
      node.leaves = before ++ target :: after ∧
      node'.leaves = before ++ target :: ⟨newUuid, none, none, none⟩ :: after := by
  induction node generalizing node' with
  | terminal uuid profile cwd customTitle =>
      simp only [splitTerminal, Option.ite_none_right_eq_some, Option.some.injEq] at h
      obtain ⟨huuid, rfl⟩ := h
      exact ⟨[], ⟨uuid, profile, cwd, customTitle⟩, [], huuid, rfl, rfl⟩
  | split o ratio first second ih₁ ih₂ =>
      simp only [splitTerminal] at h
      split at h
      · rename_i newFirst hfirst
        obtain ⟨before, target, after, huuid, hold, hnew⟩ := ih₁ hfirst
        obtain rfl := Option.some.inj h
        exact ⟨before, target, after ++ second.leaves, huuid, by simp [leaves, hold],
          by simp [leaves, hnew]⟩
      · obtain ⟨newSecond, hsecond, rfl⟩ := Option.map_eq_some_iff.mp h
        obtain ⟨before, target, after, huuid, hold, hnew⟩ := ih₂ hsecond
        exact ⟨first.leaves ++ before, target, after, huuid, by simp [leaves, hold],
          by simp [leaves, hnew]⟩

/-- **Depths after a split**: the target and the new leaf are one deeper than the
target was. -/
theorem depthOfTerminal_splitTerminal
    (h : node.splitTerminal targetUuid newUuid orientation = some node')
    (hfresh : newUuid ∉ node.terminalUuids)
    (uuid : String) :
    node'.depthOfTerminal uuid =
      if uuid = targetUuid ∨ uuid = newUuid then
        (node.depthOfTerminal targetUuid).map (· + 1)
      else
        node.depthOfTerminal uuid := by
  induction node generalizing node' with
  | terminal u profile cwd customTitle =>
      simp only [splitTerminal, Option.ite_none_right_eq_some, Option.some.injEq] at h
      obtain ⟨rfl, rfl⟩ := h
      have hne : newUuid ≠ u := fun h => hfresh (List.mem_singleton.mpr h)
      by_cases hold : uuid = u
      · simp [splitNode, depthOfTerminal, hold]
      · by_cases hnew : uuid = newUuid
        · simp [splitNode, depthOfTerminal, hnew, hne.symm]
        · simp [splitNode, depthOfTerminal, hold, hnew, Ne.symm hold, Ne.symm hnew]
  | split o ratio first second ih₁ ih₂ =>
      simp only [terminalUuids, List.mem_append, not_or] at hfresh
      simp only [splitTerminal] at h
      split at h
      · rename_i newFirst hfirst
        obtain rfl := Option.some.inj h
        have hin : targetUuid ∈ first.terminalUuids :=
          splitTerminal_isSome.mp (by rw [hfirst]; rfl)
        obtain ⟨depth, hdepth⟩ := Option.isSome_iff_exists.mp (depthOfTerminal_isSome.mpr hin)
        simp only [depthOfTerminal, ih₁ hfirst hfresh.1, hdepth]
        split <;> simp
      · rename_i hnone
        obtain ⟨newSecond, hsecond, rfl⟩ := Option.map_eq_some_iff.mp h
        have hout : targetUuid ∉ first.terminalUuids := by
          rw [← @splitTerminal_isSome _ _ newUuid orientation, hnone]
          exact Bool.false_ne_true
        simp only [depthOfTerminal, ih₂ hsecond hfresh.2, depthOfTerminal_of_not_mem hout,
          Option.none_or]
        split
        · rename_i huuid
          have hfirst : first.depthOfTerminal uuid = none := by
            rcases huuid with rfl | rfl
            · exact depthOfTerminal_of_not_mem hout
            · exact depthOfTerminal_of_not_mem hfresh.1
          rw [hfirst, Option.none_or]
        · rfl

/-- **Removing the new leaf undoes the split.** -/
theorem removeTerminal_splitTerminal
    (h : node.splitTerminal targetUuid newUuid orientation = some node')
    (hfresh : newUuid ∉ node.terminalUuids) :
    node'.removeTerminal newUuid = some node := by
  induction node generalizing node' with
  | terminal u profile cwd customTitle =>
      simp only [splitTerminal, Option.ite_none_right_eq_some, Option.some.injEq] at h
      obtain ⟨-, rfl⟩ := h
      have hkeep := removeTerminal_of_not_mem hfresh
      simp only [splitNode, removeTerminal, if_true] at hkeep ⊢
      rw [hkeep]
  | split o ratio first second ih₁ ih₂ =>
      simp only [terminalUuids, List.mem_append, not_or] at hfresh
      simp only [splitTerminal] at h
      split at h
      · rename_i newFirst hfirst
        obtain rfl := Option.some.inj h
        rw [removeTerminal, ih₁ hfirst hfresh.1, removeTerminal_of_not_mem hfresh.2]
      · obtain ⟨newSecond, hsecond, rfl⟩ := Option.map_eq_some_iff.mp h
        rw [removeTerminal, ih₂ hsecond hfresh.2, removeTerminal_of_not_mem hfresh.1]

end Splitting

section Removing

/-- A removal keeps the other leaves with all they carry. -/
theorem removeTerminal_leaves (targetUuid : String) (node : LayoutNode) :
    (node.removeTerminal targetUuid).elim [] leaves =
      node.leaves.filter (fun leaf => leaf.uuid ≠ targetUuid) := by
  induction node with
  | terminal uuid profile cwd customTitle =>
      by_cases h : uuid = targetUuid
      · simp [removeTerminal, leaves, h]
      · simp [removeTerminal, leaves, h]
  | split orientation ratio first second ih₁ ih₂ =>
      rw [leaves, List.filter_append, ← ih₁, ← ih₂, removeTerminal]
      cases first.removeTerminal targetUuid <;> cases second.removeTerminal targetUuid <;>
        simp [leaves]

end Removing

section Exchanging

variable {a b : String} {leafA leafB : Leaf}

/-- What is collected is the last leaf of each id. -/
theorem collectReplacements_eq
    (hne : a ≠ b)
    (node : LayoutNode)
    (reps : Option LayoutNode × Option LayoutNode) :
    node.collectReplacements a b reps =
      (((node.leaves.filter (fun leaf => leaf.uuid = a)).getLast?.map Leaf.node).or reps.1,
        ((node.leaves.filter (fun leaf => leaf.uuid = b)).getLast?.map Leaf.node).or reps.2) := by
  induction node generalizing reps with
  | terminal uuid profile cwd customTitle =>
      obtain ⟨repA, repB⟩ := reps
      by_cases ha : uuid = a
      · subst ha
        simp [collectReplacements, leaves, hne, Leaf.node]
      · by_cases hb : uuid = b
        · subst hb
          simp [collectReplacements, leaves, ha, Leaf.node]
        · simp [collectReplacements, leaves, ha, hb]
  | split orientation ratio first second ih₁ ih₂ =>
      rw [collectReplacements, ih₁, ih₂]
      simp [leaves, List.getLast?_append, Option.map_or, Option.or_assoc]

/-- In a layout without equal ids there is one leaf to collect. -/
theorem filter_uuid {node : LayoutNode} {leaf : Leaf}
    (hnodup : node.terminalUuids.Nodup)
    (hleaf : leaf ∈ node.leaves) :
    node.leaves.filter (fun other => other.uuid = leaf.uuid) = [leaf] := by
  have hleaves : node.leaves.Nodup := by
    rw [← map_uuid_leaves] at hnodup
    exact hnodup.of_map
  have hsame : ∀ other ∈ node.leaves,
      (decide (other.uuid = leaf.uuid)) = decide (other = leaf) := by
    intro other hother
    rw [decide_eq_decide]
    exact ⟨leaf_unique hnodup hother hleaf, fun h => h ▸ rfl⟩
  rw [List.filter_congr hsame]
  rw [List.filter_eq, List.count_eq_one_of_mem hleaves hleaf]
  rfl

/-- Replacing two leaves is an exchange of them. -/
theorem applyReplacements_eq {node : LayoutNode}
    (hA : ∀ leaf ∈ node.leaves, leaf.uuid = a ↔ leaf = leafA)
    (hB : ∀ leaf ∈ node.leaves, leaf.uuid = b ↔ leaf = leafB) :
    applyReplacements a b leafB.node leafA.node node =
      node.mapLeaves (Equiv.swap leafA leafB) := by
  induction node with
  | terminal uuid profile cwd customTitle =>
      have hAleaf := hA _ (List.mem_singleton.mpr rfl)
      have hBleaf := hB _ (List.mem_singleton.mpr rfl)
      simp only [applyReplacements, mapLeaves]
      by_cases ha : uuid = a
      · rw [if_pos ha, hAleaf.mp ha, Equiv.swap_apply_left]
      · rw [if_neg ha]
        by_cases hb : uuid = b
        · rw [if_pos hb, hBleaf.mp hb, Equiv.swap_apply_right]
        · rw [if_neg hb, Equiv.swap_apply_of_ne_of_ne (fun h => ha (hAleaf.mpr h))
            (fun h => hb (hBleaf.mpr h))]
          rfl
  | split orientation ratio first second ih₁ ih₂ =>
      simp only [leaves, List.mem_append] at hA hB
      rw [applyReplacements, mapLeaves,
        ih₁ (fun leaf h => hA leaf (Or.inl h)) (fun leaf h => hB leaf (Or.inl h)),
        ih₂ (fun leaf h => hA leaf (Or.inr h)) (fun leaf h => hB leaf (Or.inr h))]

/-- **An exchange of two leaves**: they change places with all they carry, and
nothing else changes. -/
theorem swapTerminals_eq {node : LayoutNode}
    (hnodup : node.terminalUuids.Nodup)
    (hA : leafA ∈ node.leaves)
    (hB : leafB ∈ node.leaves) :
    node.swapTerminals leafA.uuid leafB.uuid = node.mapLeaves (Equiv.swap leafA leafB) := by
  have hknown : ∀ {leaf : Leaf}, leaf ∈ node.leaves → ∀ other ∈ node.leaves,
      other.uuid = leaf.uuid ↔ other = leaf := fun hleaf other hother =>
    ⟨leaf_unique hnodup hother hleaf, fun h => h ▸ rfl⟩
  unfold swapTerminals
  by_cases hsame : leafA.uuid = leafB.uuid
  · obtain rfl := leaf_unique hnodup hA hB hsame
    rw [if_pos hsame, Equiv.swap_self]
    exact (mapLeaves_id node fun _ => rfl).symm
  · have hinA : node.containsTerminal leafA.uuid = true :=
      containsTerminal_iff.mpr (mem_terminalUuids_of_leaf hA)
    have hinB : node.containsTerminal leafB.uuid = true :=
      containsTerminal_iff.mpr (mem_terminalUuids_of_leaf hB)
    have hcollect : node.collectReplacements leafA.uuid leafB.uuid (none, none) =
        (some leafA.node, some leafB.node) := by
      rw [collectReplacements_eq hsame, filter_uuid hnodup hA, filter_uuid hnodup hB]
      rfl
    simp only [hsame, if_false, hinA, hinB, Bool.not_true, Bool.or_self, Bool.false_eq_true,
      hcollect]
    exact applyReplacements_eq (hknown hA) (hknown hB)

theorem swapTerminals_of_not_mem {node : LayoutNode}
    (h : a ∉ node.terminalUuids ∨ b ∉ node.terminalUuids) :
    node.swapTerminals a b = node := by
  rcases node.swapTerminals_cases a b with hsame | ⟨ha, hb, -⟩
  · exact hsame
  · rcases h with h | h
    · exact absurd ha h
    · exact absurd hb h

/-- **An exchange is an involution.** -/
theorem swapTerminals_swapTerminals {node : LayoutNode}
    (hnodup : node.terminalUuids.Nodup)
    (a b : String) :
    (node.swapTerminals a b).swapTerminals a b = node := by
  by_cases h : a ∉ node.terminalUuids ∨ b ∉ node.terminalUuids
  · rw [swapTerminals_of_not_mem h, swapTerminals_of_not_mem h]
  · simp only [not_or, not_not] at h
    obtain ⟨leafA, hA, rfl⟩ := exists_leaf h.1
    obtain ⟨leafB, hB, rfl⟩ := exists_leaf h.2
    have hswapped := (swapTerminals_uuids hnodup leafA.uuid leafB.uuid).nodup_iff.mpr hnodup
    have hmoved : ∀ leaf ∈ node.leaves, Equiv.swap leafA leafB leaf ∈
        (node.swapTerminals leafA.uuid leafB.uuid).leaves := by
      intro leaf hleaf
      rw [swapTerminals_eq hnodup hA hB, leaves_mapLeaves]
      exact List.mem_map_of_mem hleaf
    have hA' := hmoved leafB hB
    have hB' := hmoved leafA hA
    rw [Equiv.swap_apply_right] at hA'
    rw [Equiv.swap_apply_left] at hB'
    rw [swapTerminals_eq hswapped hA' hB', swapTerminals_eq hnodup hA hB, mapLeaves_mapLeaves]
    exact mapLeaves_id node fun leaf => Equiv.swap_apply_self leafA leafB leaf

end Exchanging

section Laws

/-- A split of a leaf with a fresh id: refused at the greatest depth, and
otherwise one leaf more, next to the target, and no leaf too deep. -/
structure SplitLawful (node : LayoutNode) (targetUuid newUuid : String)
    (orientation : SplitOrientation) : Prop where
  refused_iff : node.splitTerminalWithNewUuid targetUuid newUuid orientation = none ↔
    (node.depthOfTerminal targetUuid).all (fun depth => maxSplitDepth ≤ depth) = true
  result : ∀ node' uuid,
    node.splitTerminalWithNewUuid targetUuid newUuid orientation = some (node', uuid) →
      uuid = newUuid ∧ node'.terminalUuids.Nodup ∧
      (∃ before target after, target.uuid = targetUuid ∧
        node.leaves = before ++ target :: after ∧
        node'.leaves = before ++ target :: ⟨newUuid, none, none, none⟩ :: after) ∧
      (∀ u depth, node'.depthOfTerminal u = some depth →
        depth ≤ maxSplitDepth ∨ node.depthOfTerminal u = some depth) ∧
      node'.removeTerminal newUuid = some node

/-- An exchange of two leaves. -/
structure SwapLawful (node : LayoutNode) (a b : String) : Prop where
  exchanges : ∀ leafA ∈ node.leaves, ∀ leafB ∈ node.leaves, leafA.uuid = a → leafB.uuid = b →
    node.swapTerminals a b = node.mapLeaves (Equiv.swap leafA leafB)
  involution : (node.swapTerminals a b).swapTerminals a b = node

/-- An edit that names an id that is not there. -/
structure AbsentLawful (node : LayoutNode) (uuid : String) : Prop where
  split : ∀ newUuid orientation, node.splitTerminalWithNewUuid uuid newUuid orientation = none
  remove : node.removeTerminal uuid = some node
  swap : ∀ other, node.swapTerminals uuid other = node ∧ node.swapTerminals other uuid = node
  replace : ∀ newUuid, node.replaceTerminalUuid uuid newUuid = (false, node)

theorem splitLawful {node : LayoutNode} {targetUuid newUuid : String}
    (hnodup : node.terminalUuids.Nodup)
    (htarget : targetUuid ∈ node.terminalUuids)
    (hfresh : newUuid ∉ node.terminalUuids)
    (orientation : SplitOrientation) :
    SplitLawful node targetUuid newUuid orientation := by
  obtain ⟨result, hresult⟩ := Option.isSome_iff_exists.mp
    (splitTerminal_isSome.mpr htarget :
      (node.splitTerminal targetUuid newUuid orientation).isSome = true)
  have hsplit := splitTerminalWithNewUuid_eq targetUuid newUuid orientation node
  rw [hresult] at hsplit
  constructor
  · rw [hsplit]
    split
    · rename_i hdeep
      exact ⟨fun _ => hdeep, fun _ => rfl⟩
    · rename_i hshallow
      exact ⟨fun h => (Option.some_ne_none _ h).elim, fun h => absurd h hshallow⟩
  · intro node' uuid h
    rw [hsplit, Option.ite_none_left_eq_some] at h
    obtain ⟨hshallow, heq⟩ := h
    obtain ⟨rfl, rfl⟩ := Prod.mk.inj (Option.some.inj heq)
    refine ⟨rfl, ?_, splitTerminal_order hresult, ?_, removeTerminal_splitTerminal hresult hfresh⟩
    · rw [(splitTerminal_uuids hresult).nodup_iff]
      exact List.nodup_cons.mpr ⟨hfresh, hnodup⟩
    · -- only the target and the new leaf are deeper, and the target was above the limit
      intro u depth hdepth
      rw [depthOfTerminal_splitTerminal hresult hfresh] at hdepth
      split at hdepth
      · obtain ⟨old, hold, rfl⟩ := Option.map_eq_some_iff.mp hdepth
        simp only [hold, Option.all_some, decide_eq_true_eq] at hshallow
        left
        omega
      · exact Or.inr hdepth

theorem absentLawful {node : LayoutNode} {uuid : String}
    (habsent : uuid ∉ node.terminalUuids) :
    AbsentLawful node uuid := by
  refine ⟨?_, removeTerminal_of_not_mem habsent, ?_, ?_⟩
  · intro newUuid orientation
    rw [splitTerminalWithNewUuid_eq, depthOfTerminal_of_not_mem habsent]
    rfl
  · exact fun other =>
      ⟨swapTerminals_of_not_mem (Or.inl habsent), swapTerminals_of_not_mem (Or.inr habsent)⟩
  · intro newUuid
    cases hreplace : node.replaceTerminalUuid uuid newUuid with
    | mk found node' =>
      cases found with
      | true =>
          obtain ⟨before, after, huuids, -⟩ := replaceTerminalUuid_uuids hreplace
          rw [huuids] at habsent
          exact absurd (List.mem_append_right _ List.mem_cons_self) habsent
      | false => rw [replaceTerminalUuid_false hreplace]

/-- **The laws of the edits.**  In a layout without equal ids a split of a leaf
with a fresh id adds it next to the target and no deeper than the limit, a removal
takes away its leaf alone and undoes a split, an exchange exchanges two leaves and
undoes itself, and an absent id changes nothing. -/
theorem layoutEdits_lawful {node : LayoutNode}
    (hnodup : node.terminalUuids.Nodup) :
    (∀ targetUuid newUuid orientation, targetUuid ∈ node.terminalUuids →
        newUuid ∉ node.terminalUuids → SplitLawful node targetUuid newUuid orientation) ∧
      (∀ targetUuid, (node.removeTerminal targetUuid).elim [] leaves =
        node.leaves.filter (fun leaf => leaf.uuid ≠ targetUuid)) ∧
      (∀ a b, SwapLawful node a b) ∧
      ∀ uuid, uuid ∉ node.terminalUuids → AbsentLawful node uuid := by
  refine ⟨?_, fun targetUuid => removeTerminal_leaves targetUuid node, ?_, ?_⟩
  · intro targetUuid newUuid orientation htarget hfresh
    exact splitLawful hnodup htarget hfresh orientation
  · intro a b
    refine ⟨?_, swapTerminals_swapTerminals hnodup a b⟩
    rintro leafA hA leafB hB rfl rfl
    exact swapTerminals_eq hnodup hA hB
  · intro uuid habsent
    exact absentLawful habsent

theorem layoutEdits_lawful_three :
    let node : LayoutNode :=
      .split .horizontal ⟨0x3FE0000000000000#64⟩ (.terminal "a" none none none)
        (.split .vertical ⟨0x3FE0000000000000#64⟩ (.terminal "b" none none none)
          (.terminal "c" none none none))
    node.terminalUuids = ["a", "b", "c"] ∧ SplitLawful node "b" "d" .horizontal :=
  ⟨rfl, (layoutEdits_lawful (by decide)).1 "b" "d" .horizontal (by decide) (by decide)⟩

end Laws

end LayoutNode

end Client
end Rttx
