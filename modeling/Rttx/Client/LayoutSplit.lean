import Rttx.Client.EndpointMessages
import Rttx.Kernel.ProvisionalIds

/-!
# Splits and new ids in a layout

The client splits a leaf of its layout under an id of its own and later replaces
that id by the one that the daemon assigned.  Both look for the first leaf of
the id.  The daemon splits a leaf of its tree in the same way.

Shapes are the common ground: on distinct ids the layout's functions and the
daemon's are the split and the renaming of all leaves of an id.

**Results.**
* `splitTerminalWithNewUuid_shape`, `replaceTerminalUuid_shape`: what the
  client's functions do to the shape.
* `split_renderShape`: what a split does to the shape of the daemon's tree.
* `layoutFromPaneTree_renderShape`: that shape is the one a client adopts.
-/

namespace Rttx
namespace Client

open Kernel Server

namespace LayoutShape

section Shapes

def ids : LayoutShape → List String
  | terminal uuid => [uuid]
  | split _ first second => first.ids ++ second.ids

/-- Split the leaves of `target`, adding a leaf as the second child. -/
def splitAt (target added : String) (o : SplitOrientation) : LayoutShape → LayoutShape
  | terminal uuid =>
      if uuid = target then split o (terminal target) (terminal added) else terminal uuid
  | split orientation first second =>
      split orientation (first.splitAt target added o) (second.splitAt target added o)

/-- Give the leaves of `old` a new id. -/
def rename (old new : String) : LayoutShape → LayoutShape
  | terminal uuid => terminal (if uuid = old then new else uuid)
  | split orientation first second =>
      split orientation (first.rename old new) (second.rename old new)

theorem splitAt_of_not_mem {target : String} {s : LayoutShape}
    (h : target ∉ s.ids)
    (added : String)
    (o : SplitOrientation) :
    s.splitAt target added o = s := by
  induction s with
  | terminal uuid =>
      have hne : uuid ≠ target := by
        rintro rfl
        exact h (by simp [ids])
      simp [splitAt, hne]
  | split orientation first second ih₁ ih₂ =>
      simp only [ids, List.mem_append, not_or] at h
      simp [splitAt, ih₁ h.1, ih₂ h.2]

theorem rename_of_not_mem {old : String} {s : LayoutShape}
    (h : old ∉ s.ids)
    (new : String) :
    s.rename old new = s := by
  induction s with
  | terminal uuid =>
      have hne : uuid ≠ old := by
        rintro rfl
        exact h (by simp [ids])
      simp [rename, hne]
  | split orientation first second ih₁ ih₂ =>
      simp only [ids, List.mem_append, not_or] at h
      simp [rename, ih₁ h.1, ih₂ h.2]

theorem ids_splitAt {target added : String} {o : SplitOrientation} {s : LayoutShape}
    (hnodup : s.ids.Nodup)
    (htarget : target ∈ s.ids) :
    (s.splitAt target added o).ids.Perm (added :: s.ids) := by
  induction s with
  | terminal uuid =>
      have heq : target = uuid := by simpa [ids] using htarget
      subst heq
      simpa [splitAt, ids] using List.Perm.swap added target []
  | split orientation first second ih₁ ih₂ =>
      obtain ⟨hfirst, hsecond, hapart⟩ := List.nodup_append.mp hnodup
      simp only [splitAt, ids]
      by_cases hin : target ∈ first.ids
      · have hout : target ∉ second.ids := fun h => hapart target hin target h rfl
        rw [splitAt_of_not_mem hout]
        exact (ih₁ hfirst hin).append_right second.ids
      · have hin' : target ∈ second.ids := (List.mem_append.mp htarget).resolve_left hin
        rw [splitAt_of_not_mem hin]
        exact ((ih₂ hsecond hin').append_left first.ids).trans List.perm_middle

theorem ids_rename (old new : String) (s : LayoutShape) :
    (s.rename old new).ids = s.ids.map (fun uuid => if uuid = old then new else uuid) := by
  induction s with
  | terminal uuid => rfl
  | split orientation first second ih₁ ih₂ => simp [rename, ids, ih₁, ih₂]

theorem rename_splitAt {old new target added : String}
    (o : SplitOrientation)
    (s : LayoutShape)
    (htarget : old ≠ target)
    (hadded : old ≠ added)
    (hnew : new ≠ target) :
    (s.splitAt target added o).rename old new = (s.rename old new).splitAt target added o := by
  induction s with
  | terminal uuid =>
      by_cases ht : uuid = target
      · have hold : uuid ≠ old := fun h => htarget (h ▸ ht)
        simp [splitAt, rename, ht, Ne.symm htarget, Ne.symm hadded]
      · by_cases hold : uuid = old
        · simp [splitAt, rename, hold, htarget, hnew]
        · simp [splitAt, rename, ht, hold]
  | split orientation first second ih₁ ih₂ => simp [splitAt, rename, ih₁, ih₂]

theorem rename_added {target added : String}
    (new : String)
    (o : SplitOrientation)
    {s : LayoutShape}
    (hne : target ≠ added)
    (hadded : added ∉ s.ids) :
    (s.splitAt target added o).rename added new = s.splitAt target new o := by
  induction s with
  | terminal uuid =>
      have huuid : uuid ≠ added := by
        rintro rfl
        exact hadded (by simp [ids])
      by_cases ht : uuid = target
      · simp [splitAt, rename, ht, hne]
      · simp [splitAt, rename, ht, huuid]
  | split orientation first second ih₁ ih₂ =>
      simp only [ids, List.mem_append, not_or] at hadded
      simp [splitAt, rename, ih₁ hadded.1, ih₂ hadded.2]

/-- Shapes as values with named parts. -/
def edits : NamedEdits String SplitOrientation LayoutShape where
  ids := ids
  edit := splitAt
  rename := rename
  ids_edit := ids_splitAt
  ids_rename := ids_rename
  rename_edit := rename_splitAt
  rename_added := rename_added

end Shapes

end LayoutShape

/-- Depth at which a leaf is not split any further. -/
def maxSplitDepth : Nat := 5

namespace LayoutNode

section Operations

/-- Split this node, adding a new terminal as the second child. -/
def splitNode (node : LayoutNode) (newUuid : String) (orientation : SplitOrientation) :
    LayoutNode :=
  .split orientation ⟨0x3FE0000000000000#64⟩ node (.terminal newUuid none none none)

/-- The length of the path from the root to the leaf of this id. -/
def depthOfTerminal (targetUuid : String) : LayoutNode → Option Nat
  | terminal uuid _ _ _ => if uuid = targetUuid then some 1 else none
  | split _ _ first second =>
      ((first.depthOfTerminal targetUuid).or (second.depthOfTerminal targetUuid)).map (· + 1)

/-- Split the leaf of `targetUuid`, unless it is too deep. -/
def splitTerminalWithNewUuid (targetUuid newUuid : String) (orientation : SplitOrientation)
    (node : LayoutNode) : Option (LayoutNode × String) :=
  if (node.depthOfTerminal targetUuid).all (fun depth => maxSplitDepth ≤ depth) then
    none
  else
    match node with
    | terminal uuid profile cwd customTitle =>
        if uuid = targetUuid then
          some ((terminal uuid profile cwd customTitle).splitNode newUuid orientation, newUuid)
        else
          none
    | split o ratio first second =>
        match first.splitTerminalWithNewUuid targetUuid newUuid orientation with
        | some (newFirst, uuid) => some (split o ratio newFirst second, uuid)
        | none =>
            (second.splitTerminalWithNewUuid targetUuid newUuid orientation).map
              (fun (newSecond, uuid) => (split o ratio first newSecond, uuid))

/-- Give the first leaf of `oldUuid` a new id, and whether there is one. -/
def replaceTerminalUuid (oldUuid newUuid : String) : LayoutNode → Bool × LayoutNode
  | terminal uuid profile cwd customTitle =>
      if uuid = oldUuid then
        (true, terminal newUuid profile cwd customTitle)
      else
        (false, terminal uuid profile cwd customTitle)
  | split orientation ratio first second =>
      match first.replaceTerminalUuid oldUuid newUuid with
      | (true, first) => (true, split orientation ratio first second)
      | (false, first) =>
          let (found, second) := second.replaceTerminalUuid oldUuid newUuid
          (found, split orientation ratio first second)

def terminalCount : LayoutNode → Nat
  | terminal _ _ _ _ => 1
  | split _ _ first second => first.terminalCount + second.terminalCount

def terminalCwd (targetUuid : String) : LayoutNode → Option String
  | terminal uuid _ cwd _ => if uuid = targetUuid then cwd else none
  | split _ _ first second => (first.terminalCwd targetUuid).or (second.terminalCwd targetUuid)

end Operations

section Effects

@[simp] theorem ids_shape (node : LayoutNode) : node.shape.ids = node.terminalUuids := by
  induction node with
  | terminal uuid profile cwd customTitle => rfl
  | split orientation ratio first second ih₁ ih₂ =>
      simp [shape, LayoutShape.ids, terminalUuids, ih₁, ih₂]

/-- A leaf with a depth is in the layout. -/
theorem mem_terminalUuids_of_depth {targetUuid : String} {node : LayoutNode} {depth : Nat}
    (h : node.depthOfTerminal targetUuid = some depth) :
    targetUuid ∈ node.terminalUuids := by
  induction node generalizing depth with
  | terminal uuid profile cwd customTitle =>
      simp only [depthOfTerminal, Option.ite_none_right_eq_some] at h
      simp [terminalUuids, h.1]
  | split orientation ratio first second ih₁ ih₂ =>
      obtain ⟨inner, hinner, _⟩ := Option.map_eq_some_iff.mp h
      simp only [terminalUuids, List.mem_append]
      rcases Option.or_eq_some_iff.mp hinner with hfirst | ⟨_, hsecond⟩
      · exact Or.inl (ih₁ hfirst)
      · exact Or.inr (ih₂ hsecond)

/-- **A split of a layout splits its shape.** -/
theorem splitTerminalWithNewUuid_shape {targetUuid newUuid uuid : String}
    {orientation : SplitOrientation} {node node' : LayoutNode}
    (hnodup : node.terminalUuids.Nodup)
    (h : node.splitTerminalWithNewUuid targetUuid newUuid orientation = some (node', uuid)) :
    uuid = newUuid ∧ targetUuid ∈ node.terminalUuids ∧
      node'.shape = node.shape.splitAt targetUuid newUuid orientation := by
  induction node generalizing node' with
  | terminal u profile cwd customTitle =>
      simp only [splitTerminalWithNewUuid, Option.ite_none_left_eq_some,
        Option.ite_none_right_eq_some, Option.some.injEq, Prod.mk.injEq] at h
      obtain ⟨_, rfl, rfl, rfl⟩ := h
      simp [terminalUuids, splitNode, shape, LayoutShape.splitAt]
  | split o ratio first second ih₁ ih₂ =>
      obtain ⟨hfirst, hsecond, hapart⟩ := List.nodup_append.mp hnodup
      rw [splitTerminalWithNewUuid, Option.ite_none_left_eq_some] at h
      obtain ⟨_, h⟩ := h
      cases hres : first.splitTerminalWithNewUuid targetUuid newUuid orientation with
      | some found =>
          rw [hres] at h
          obtain ⟨newFirst, u⟩ := found
          simp only [Option.some.injEq, Prod.mk.injEq] at h
          obtain ⟨rfl, rfl⟩ := h
          obtain ⟨huuid, hmem, hshape⟩ := ih₁ hfirst hres
          have hout : targetUuid ∉ second.shape.ids := by
            rw [ids_shape]
            exact fun hin => hapart targetUuid hmem targetUuid hin rfl
          refine ⟨huuid, List.mem_append_left _ hmem, ?_⟩
          simp [shape, LayoutShape.splitAt, hshape, LayoutShape.splitAt_of_not_mem hout]
      | none =>
          rw [hres] at h
          obtain ⟨⟨newSecond, u⟩, hres₂, heq⟩ := Option.map_eq_some_iff.mp h
          simp only [Prod.mk.injEq] at heq
          obtain ⟨rfl, rfl⟩ := heq
          obtain ⟨huuid, hmem, hshape⟩ := ih₂ hsecond hres₂
          have hout : targetUuid ∉ first.shape.ids := by
            rw [ids_shape]
            exact fun hin => hapart targetUuid hin targetUuid hmem rfl
          refine ⟨huuid, List.mem_append_right _ hmem, ?_⟩
          simp [shape, LayoutShape.splitAt, hshape, LayoutShape.splitAt_of_not_mem hout]

/-- **A new id in a layout renames its shape.** -/
theorem replaceTerminalUuid_shape {node : LayoutNode}
    (hnodup : node.terminalUuids.Nodup)
    (oldUuid newUuid : String) :
    (node.replaceTerminalUuid oldUuid newUuid).1 = node.containsTerminal oldUuid ∧
      (node.replaceTerminalUuid oldUuid newUuid).2.shape = node.shape.rename oldUuid newUuid := by
  induction node with
  | terminal u profile cwd customTitle =>
      by_cases h : u = oldUuid
      · simp [replaceTerminalUuid, containsTerminal, shape, LayoutShape.rename, h]
      · simp [replaceTerminalUuid, containsTerminal, shape, LayoutShape.rename, h]
  | split o ratio first second ih₁ ih₂ =>
      obtain ⟨hfirst, hsecond, hapart⟩ := List.nodup_append.mp hnodup
      obtain ⟨hfound₁, hshape₁⟩ := ih₁ hfirst
      obtain ⟨hfound₂, hshape₂⟩ := ih₂ hsecond
      cases hres : first.replaceTerminalUuid oldUuid newUuid with
      | mk found newFirst =>
          rw [hres] at hfound₁ hshape₁
          simp only at hfound₁ hshape₁
          cases found with
          | true =>
              have hin : oldUuid ∈ first.terminalUuids := containsTerminal_iff.mp hfound₁.symm
              have hout : oldUuid ∉ second.shape.ids := by
                rw [ids_shape]
                exact fun h => hapart oldUuid hin oldUuid h rfl
              simp [replaceTerminalUuid, hres, containsTerminal, ← hfound₁, shape,
                LayoutShape.rename, hshape₁, LayoutShape.rename_of_not_mem hout]
          | false =>
              simp [replaceTerminalUuid, hres, containsTerminal, ← hfound₁, hfound₂, shape,
                LayoutShape.rename, hshape₁, hshape₂]

end Effects

end LayoutNode

section DaemonTree

/-- The shape that a client draws for a tree of the daemon. -/
def renderShape : PaneTree → LayoutShape
  | .leaf pane => .terminal (uuidToString pane.uuid)
  | .split axis _ first second =>
      .split (orientationFromAxis (splitAxisToProto axis)) (renderShape first) (renderShape second)

theorem ids_renderShape (t : PaneTree) :
    (renderShape t).ids = t.leaves.map (fun pane => uuidToString pane.uuid) := by
  induction t with
  | leaf pane => rfl
  | split axis ratio first second ih₁ ih₂ =>
      simp [renderShape, LayoutShape.ids, PaneTree.leaves, ih₁, ih₂]

theorem paneText_injective {pane pane' : PaneId}
    (h : uuidToString pane.uuid = uuidToString pane'.uuid) :
    pane = pane' := by
  cases pane
  cases pane'
  rw [PaneId.fromUuid.injEq]
  exact uuidToString_injective h

theorem mem_ids_renderShape {pane : PaneId} {t : PaneTree} :
    uuidToString pane.uuid ∈ (renderShape t).ids ↔ pane ∈ t.leaves := by
  rw [ids_renderShape, List.mem_map]
  constructor
  · rintro ⟨found, hfound, heq⟩
    exact paneText_injective heq ▸ hfound
  · intro h
    exact ⟨pane, h, rfl⟩

theorem nodup_ids_renderShape {t : PaneTree}
    (h : t.leaves.Nodup) :
    (renderShape t).ids.Nodup := by
  rw [ids_renderShape]
  exact h.map_on (fun _ _ _ _ heq => paneText_injective heq)

/-- It is the shape of the layout that a client adopts when it attaches. -/
theorem layoutFromPaneTree_renderShape (t : PaneTree) :
    (layoutFromPaneTree (paneTreeToProto t)).map LayoutNode.shape = some (renderShape t) := by
  induction t with
  | leaf pane =>
      simp [paneTreeToProto, layoutFromPaneTree, paneIdOfBytes, bytesToUuid_uuidToBytes,
        renderShape, LayoutNode.shape]
  | split axis ratio first second ih₁ ih₂ =>
      obtain ⟨a, ha, hshape₁⟩ := Option.map_eq_some_iff.mp ih₁
      obtain ⟨b, hb, hshape₂⟩ := Option.map_eq_some_iff.mp ih₂
      simp [paneTreeToProto, layoutFromPaneTree, ha, hb, renderShape, LayoutNode.shape, hshape₁,
        hshape₂]

/-- Splitting a leaf of the daemon's tree splits its shape. -/
theorem splitLeaf_renderShape {target newPane : PaneId} {axis : SplitAxis} {ratio : F32}
    {t : PaneTree}
    (hnodup : t.leaves.Nodup) :
    renderShape (t.splitLeaf target newPane axis ratio).1 =
      (renderShape t).splitAt (uuidToString target.uuid) (uuidToString newPane.uuid)
        (orientationFromAxis (splitAxisToProto axis)) := by
  induction t with
  | leaf pane =>
      by_cases h : pane = target
      · simp [PaneTree.splitLeaf, renderShape, LayoutShape.splitAt, h]
      · have hne : uuidToString pane.uuid ≠ uuidToString target.uuid :=
          fun heq => h (paneText_injective heq)
        simp [PaneTree.splitLeaf, renderShape, LayoutShape.splitAt, h, hne]
  | split a r first second ih₁ ih₂ =>
      obtain ⟨hfirst, hsecond, hapart⟩ := List.nodup_append.mp hnodup
      by_cases hin : target ∈ first.leaves
      · have hout : uuidToString target.uuid ∉ (renderShape second).ids := by
          rw [mem_ids_renderShape]
          exact fun h => hapart target hin target h rfl
        have hfound := (PaneTree.splitLeaf_perm hin newPane axis ratio).1
        have hshape := ih₁ hfirst
        generalize hres : first.splitLeaf target newPane axis ratio = res at hfound hshape
        obtain ⟨first', found⟩ := res
        simp only at hfound hshape
        subst hfound
        simp [PaneTree.splitLeaf, hres, renderShape, LayoutShape.splitAt, hshape,
          LayoutShape.splitAt_of_not_mem hout]
      · have hout : uuidToString target.uuid ∉ (renderShape first).ids := by
          rwa [mem_ids_renderShape]
        have hshape := ih₂ hsecond
        simp [PaneTree.splitLeaf, PaneTree.splitLeaf_of_not_mem hin, renderShape,
          LayoutShape.splitAt, hshape, LayoutShape.splitAt_of_not_mem hout]

/-- A ratio is no part of the shape. -/
theorem setRatio_renderShape {ratio : F32} {path : List Side} {t t' : PaneTree}
    (h : t.nodeAtMut (PaneTree.setRatio ratio) path = some t') :
    renderShape t' = renderShape t := by
  induction t generalizing path t' with
  | leaf pane =>
      cases path with
      | nil => simp [PaneTree.nodeAtMut, PaneTree.setRatio] at h
      | cons side rest => simp [PaneTree.nodeAtMut] at h
  | split a r first second ih₁ ih₂ =>
      cases path with
      | nil =>
          simp only [PaneTree.nodeAtMut, PaneTree.setRatio, Option.some.injEq] at h
          simp [← h, renderShape]
      | cons side rest =>
          cases side with
          | first =>
              obtain ⟨first', hfirst, rfl⟩ := Option.map_eq_some_iff.mp h
              simp [renderShape, ih₁ hfirst]
          | second =>
              obtain ⟨second', hsecond, rfl⟩ := Option.map_eq_some_iff.mp h
              simp [renderShape, ih₂ hsecond]

/-- A split that goes through splits the shape of the tree. -/
theorem split_renderShape {t t' : WorkspaceTree} {root : PaneTree} {target newPane : PaneId}
    {axis : SplitAxis} {ratio : F32}
    (hroot : t.root = some root)
    (hnodup : root.leaves.Nodup)
    (h : t.split target newPane axis ratio = (t', true)) :
    t'.root.map renderShape =
      some ((renderShape root).splitAt (uuidToString target.uuid) (uuidToString newPane.uuid)
        (orientationFromAxis (splitAxisToProto axis))) := by
  simp only [WorkspaceTree.split, hroot] at h
  split at h
  · simp at h
  · simp only [Prod.mk.injEq] at h
    rw [← h.1, Option.map_some, splitLeaf_renderShape hnodup]

theorem resizeSplit_renderShape {t t' : WorkspaceTree} {path : List Side} {ratio : F32}
    (h : t.resizeSplit path ratio = (t', true)) :
    t'.root.map renderShape = t.root.map renderShape := by
  simp only [WorkspaceTree.resizeSplit] at h
  split at h
  · simp at h
  · split at h
    · simp at h
    · rename_i root hroot
      split at h
      · simp at h
      · rename_i root' hset
        simp only [Prod.mk.injEq, and_true] at h
        rw [← h, hroot, Option.map_some, Option.map_some, setRatio_renderShape hset]

theorem setDefaultActive_root {t t' : WorkspaceTree} {pane : PaneId}
    (h : t.setDefaultActive pane = (t', true)) :
    t'.root = t.root := by
  simp only [WorkspaceTree.setDefaultActive] at h
  split at h
  · simp at h
  · simp only [Prod.mk.injEq, and_true] at h
    rw [← h]

end DaemonTree

end Client
end Rttx
