import Rttx.Client.LayoutEdits

/-!
# The client's layout and the daemon's tree

The daemon keeps a tree of panes and the client draws a layout built from its
wire form.  Both address a split by the sides to take from the root, and both
split and close leaves with functions of their own.

The client splits evenly and refuses to split a leaf at the maximum depth; the
daemon takes any legal ratio and has no such limit.

**Results.**
* `tree_agreement`: on a valid tree the layout mirrors the tree, the paths and the
  closes agree, and a split agrees if and only if the leaf is above the maximum
  depth and the ratio is even for the client.
* `deep_split_differs`: a leaf at the maximum depth, which only the daemon splits.
-/

namespace Rttx

namespace Server

section SidePaths

/-- A step of a path on the wire. -/
inductive PaneTreeSide
  | unspecified
  | first
  | second
deriving DecidableEq, Repr

def PaneTreeSide.tryFrom (v : Int) : Option PaneTreeSide :=
  if v = 0 then some .unspecified
  else if v = 1 then some .first
  else if v = 2 then some .second
  else none

/-- The server side of a wire side; the unspecified value addresses no branch. -/
def protoSideToSide : PaneTreeSide → Option Side
  | .first => some .first
  | .second => some .second
  | .unspecified => none

/-- Decode a path for the daemon: one bad step makes it unaddressable. -/
def decodeSidePath (raw : List Int) : Option (List Side) :=
  raw.mapM (fun v => (PaneTreeSide.tryFrom v).bind protoSideToSide)

/-- Decode a path for an event: bad steps are dropped. -/
def decodeWirePath (raw : List Int) : List PaneTreeSide :=
  (raw.filterMap PaneTreeSide.tryFrom).filter (fun side => side ≠ .unspecified)

/-- A path that the daemon accepts is echoed step by step. -/
theorem decodeWirePath_of_decodeSidePath {raw : List Int} {path : List Side}
    (h : decodeSidePath raw = some path) :
    (decodeWirePath raw).map protoSideToSide = path.map some := by
  induction raw generalizing path with
  | nil =>
      have hpath : path = [] := by simpa [decodeSidePath] using h.symm
      simp [decodeWirePath, hpath]
  | cons v rest ih =>
      simp only [decodeSidePath, List.mapM_cons, Option.pure_def, Option.bind_eq_bind,
        Option.bind_eq_some_iff, Option.some.injEq] at h
      obtain ⟨side, ⟨wire, hwire, hside⟩, sides, hrest, rfl⟩ := h
      have htail := ih hrest
      cases wire with
      | unspecified => cases hside
      | first | second =>
          simpa [decodeWirePath, List.filterMap_cons, hwire, hside] using htail

/-- The node that a path leads to. -/
def PaneTree.nodeAt : List Side → PaneTree → Option PaneTree
  | [], node => some node
  | _ :: _, .leaf _ => none
  | .first :: rest, .split _ _ first _ => first.nodeAt rest
  | .second :: rest, .split _ _ _ second => second.nodeAt rest

/-- Writing through a path succeeds if the node there takes the write. -/
theorem PaneTree.nodeAtMut_isSome {f : PaneTree → Option PaneTree} {path : List Side}
    {t : PaneTree} :
    (t.nodeAtMut f path).isSome = ((t.nodeAt path).bind f).isSome := by
  induction t generalizing path with
  | leaf pane => cases path <;> rfl
  | split axis ratio first second ih₁ ih₂ =>
      match path with
      | [] => rfl
      | .first :: rest => simp [nodeAtMut, nodeAt, ih₁]
      | .second :: rest => simp [nodeAtMut, nodeAt, ih₂]

end SidePaths

end Server

namespace Client

open Kernel Server

section Translation

/-- The node of a layout that a path leads to. -/
def LayoutNode.nodeAt : List Side → LayoutNode → Option LayoutNode
  | [], node => some node
  | _ :: _, .terminal _ _ _ _ => none
  | .first :: rest, .split _ _ first _ => first.nodeAt rest
  | .second :: rest, .split _ _ _ second => second.nodeAt rest

/-- The layout that a client builds from the daemon's tree. -/
def clientLayout (t : WorkspaceTree) : Option LayoutNode :=
  (workspaceTreeToProto t).bind layoutFromPaneTree

/-- Side by side in the tree is side by side on the screen. -/
def orientationOf : SplitAxis → SplitOrientation
  | .horizontal => .horizontal
  | .vertical => .vertical

/-- A ratio of the daemon within the client's bounds. -/
def boundedRatio (ratio : F32) : F64 :=
  ratio.toF64.clamp minRatio maxRatio

/-- The ratio of the client's own splits. -/
def evenRatio : F64 := ⟨0x3FE0000000000000#64⟩

/-- A layout with the shape, the orientations and the leaf ids of a tree, and with
its ratios in the client's bounds. -/
inductive Mirrors : PaneTree → LayoutNode → Prop
  | leaf (pane : PaneId) :
      Mirrors (.leaf pane) (.terminal (uuidToString pane.uuid) none none none)
  | split {first second : PaneTree} {a b : LayoutNode} (axis : SplitAxis) (ratio : F32)
      (hfirst : Mirrors first a) (hsecond : Mirrors second b) :
      Mirrors (.split axis ratio first second)
        (.split (orientationOf axis) (boundedRatio ratio) a b)

/-- The layout of a tree, without the wire. -/
def layoutOf : PaneTree → LayoutNode
  | .leaf pane => .terminal (uuidToString pane.uuid) none none none
  | .split axis ratio first second =>
      .split (orientationOf axis) (boundedRatio ratio) (layoutOf first) (layoutOf second)

theorem layoutFromPaneTree_eq (t : PaneTree) :
    layoutFromPaneTree (paneTreeToProto t) = some (layoutOf t) := by
  induction t with
  | leaf pane =>
      simp [paneTreeToProto, layoutFromPaneTree, paneIdOfBytes, bytesToUuid_uuidToBytes, layoutOf]
  | split axis ratio first second ih₁ ih₂ =>
      cases axis <;>
        simp [paneTreeToProto, splitAxisToProto, layoutFromPaneTree, ih₁, ih₂, layoutOf,
          orientationFromAxis, orientationOf, boundedRatio]

theorem clientLayout_eq (t : WorkspaceTree) :
    clientLayout t = t.root.map layoutOf := by
  unfold clientLayout workspaceTreeToProto
  cases t.root with
  | none => rfl
  | some root => simp [layoutFromPaneTree_eq]

theorem mirrors_iff {t : PaneTree} {layout : LayoutNode} :
    Mirrors t layout ↔ layout = layoutOf t := by
  constructor
  · intro h
    induction h with
    | leaf pane => rfl
    | split axis ratio hfirst hsecond ih₁ ih₂ => simp [layoutOf, ih₁, ih₂]
  · rintro rfl
    induction t with
    | leaf pane => exact Mirrors.leaf pane
    | split axis ratio first second ih₁ ih₂ => exact Mirrors.split axis ratio ih₁ ih₂

theorem terminalUuids_layoutOf (t : PaneTree) :
    (layoutOf t).terminalUuids = t.leaves.map (fun pane => uuidToString pane.uuid) := by
  induction t with
  | leaf pane => rfl
  | split axis ratio first second ih₁ ih₂ =>
      simp [layoutOf, LayoutNode.terminalUuids, PaneTree.leaves, ih₁, ih₂]

theorem mem_terminalUuids_layoutOf {pane : PaneId} {t : PaneTree} :
    uuidToString pane.uuid ∈ (layoutOf t).terminalUuids ↔ pane ∈ t.leaves := by
  rw [terminalUuids_layoutOf, List.mem_map]
  constructor
  · rintro ⟨found, hfound, heq⟩
    exact paneText_injective heq ▸ hfound
  · intro h
    exact ⟨pane, h, rfl⟩

/-- A path leads to corresponding nodes. -/
theorem nodeAt_layoutOf (path : List Side) (t : PaneTree) :
    (layoutOf t).nodeAt path = (t.nodeAt path).map layoutOf := by
  induction t generalizing path with
  | leaf pane => cases path <;> rfl
  | split axis ratio first second ih₁ ih₂ =>
      match path with
      | [] => rfl
      | .first :: rest => exact ih₁ rest
      | .second :: rest => exact ih₂ rest

end Translation

section Splits

/-- The client's split is the daemon's even one. -/
theorem splitTerminal_layoutOf {target : PaneId} {ratio : F32} {t : PaneTree}
    (newPane : PaneId)
    (axis : SplitAxis)
    (heven : boundedRatio ratio = evenRatio)
    (htarget : target ∈ t.leaves) :
    (layoutOf t).splitTerminal (uuidToString target.uuid) (uuidToString newPane.uuid)
        (orientationOf axis) =
      some (layoutOf (t.splitLeaf target newPane axis ratio).1) := by
  induction t with
  | leaf pane =>
      have hpane : target = pane := by simpa [PaneTree.leaves] using htarget
      subst hpane
      simp [layoutOf, LayoutNode.splitTerminal, LayoutNode.splitNode, PaneTree.splitLeaf, heven,
        evenRatio]
  | split a r first second ih₁ ih₂ =>
      by_cases hin : target ∈ first.leaves
      · have hfound := (PaneTree.splitLeaf_perm hin newPane axis ratio).1
        have hfirst := ih₁ hin
        generalize hres : first.splitLeaf target newPane axis ratio = res at hfound hfirst
        obtain ⟨first', found⟩ := res
        simp only at hfound hfirst
        subst hfound
        simp [layoutOf, LayoutNode.splitTerminal, hfirst, PaneTree.splitLeaf, hres]
      · have hsecond := ih₂ ((List.mem_append.mp htarget).resolve_left hin)
        have hnone := LayoutNode.splitTerminal_of_not_mem
          (mem_terminalUuids_layoutOf.not.mpr hin) (uuidToString newPane.uuid) (orientationOf axis)
        simp [layoutOf, LayoutNode.splitTerminal, hnone, hsecond, PaneTree.splitLeaf,
          PaneTree.splitLeaf_of_not_mem hin]

/-- The ratio of a split shows in the layout. -/
theorem layoutOf_splitLeaf_inj {target newPane : PaneId} {axis : SplitAxis} {ratio ratio' : F32}
    {t : PaneTree}
    (htarget : target ∈ t.leaves)
    (h : layoutOf (t.splitLeaf target newPane axis ratio).1 =
      layoutOf (t.splitLeaf target newPane axis ratio').1) :
    boundedRatio ratio = boundedRatio ratio' := by
  induction t with
  | leaf pane =>
      have hpane : target = pane := by simpa [PaneTree.leaves] using htarget
      subst hpane
      simpa [PaneTree.splitLeaf, layoutOf] using h
  | split a r first second ih₁ ih₂ =>
      by_cases hin : target ∈ first.leaves
      · refine ih₁ hin ?_
        have hfound := (PaneTree.splitLeaf_perm hin newPane axis ratio).1
        have hfound' := (PaneTree.splitLeaf_perm hin newPane axis ratio').1
        simp only [PaneTree.splitLeaf] at h
        split at h <;> split at h <;> simp_all [layoutOf]
      · refine ih₂ ((List.mem_append.mp htarget).resolve_left hin) ?_
        simpa [PaneTree.splitLeaf, PaneTree.splitLeaf_of_not_mem hin, layoutOf] using h

/-- The shape of a split does not depend on the ratio. -/
theorem splitLeaf_shape (target newPane : PaneId) (axis : SplitAxis) (ratio ratio' : F32)
    (t : PaneTree) :
    (t.splitLeaf target newPane axis ratio).2 = (t.splitLeaf target newPane axis ratio').2 ∧
      (layoutOf (t.splitLeaf target newPane axis ratio).1).shape =
        (layoutOf (t.splitLeaf target newPane axis ratio').1).shape := by
  induction t with
  | leaf pane =>
      by_cases h : pane = target
      · simp [PaneTree.splitLeaf, layoutOf, LayoutNode.shape, h]
      · simp [PaneTree.splitLeaf, h]
  | split a r first second ih₁ ih₂ =>
      obtain ⟨hfound₁, hshape₁⟩ := ih₁
      obtain ⟨hfound₂, hshape₂⟩ := ih₂
      simp only [PaneTree.splitLeaf]
      generalize first.splitLeaf target newPane axis ratio = res at hfound₁ hshape₁
      generalize first.splitLeaf target newPane axis ratio' = res' at hfound₁ hshape₁
      obtain ⟨newFirst, found⟩ := res
      obtain ⟨newFirst', found'⟩ := res'
      simp only at hfound₁ hshape₁
      subst hfound₁
      cases found with
      | true => simp [layoutOf, LayoutNode.shape, hshape₁]
      | false => simp [layoutOf, LayoutNode.shape, hshape₁, hfound₂, hshape₂]

end Splits

section Closes

/-- Removing a pane takes its terminal out of the layout. -/
theorem removeTerminal_layoutOf {t : PaneTree}
    (hnodup : t.leaves.Nodup)
    (pane : PaneId) :
    (layoutOf t).removeTerminal (uuidToString pane.uuid) =
      match removeFrom pane t with
      | .notFound unchanged => some (layoutOf unchanged)
      | .removed rest => rest.map layoutOf := by
  induction t with
  | leaf p =>
      by_cases h : p = pane
      · simp [layoutOf, LayoutNode.removeTerminal, removeFrom, h]
      · have hne : uuidToString p.uuid ≠ uuidToString pane.uuid :=
          fun heq => h (paneText_injective heq)
        simp [layoutOf, LayoutNode.removeTerminal, removeFrom, h, hne]
  | split axis ratio first second ih₁ ih₂ =>
      obtain ⟨hfirst, hsecond, hapart⟩ := List.nodup_append.mp hnodup
      have hspec := removeFrom_spec pane first
      rw [layoutOf, LayoutNode.removeTerminal, ih₁ hfirst, removeFrom]
      by_cases hin : pane ∈ first.leaves
      · -- the client also looks into the second child, where there is nothing to remove
        have hout : uuidToString pane.uuid ∉ (layoutOf second).terminalUuids :=
          mem_terminalUuids_layoutOf.not.mpr (fun h => hapart pane hin pane h rfl)
        rw [LayoutNode.removeTerminal_of_not_mem hout]
        generalize removeFrom pane first = res at hspec
        cases res with
        | notFound unchanged => exact absurd hin hspec.2
        | removed rest => cases rest <;> rfl
      · generalize removeFrom pane first = res at hspec
        cases res with
        | notFound unchanged =>
            have hsame : unchanged = first := hspec.1
            rw [ih₂ hsecond, hsame]
            generalize removeFrom pane second = res
            cases res with
            | notFound _ => rfl
            | removed rest => cases rest <;> rfl
        | removed rest =>
            cases rest with
            | none =>
                have hleaves : first.leaves = [pane] := hspec
                exact absurd (by simp [hleaves]) hin
            | some newFirst => exact absurd (hspec.1.mem_iff.mpr (by simp)) hin

end Closes

section Agreement

/-- The layout mirrors the tree, leaf by leaf. -/
structure Mirrored (t : WorkspaceTree) : Prop where
  layout : Option.Rel Mirrors t.root (clientLayout t)
  leaves : (clientLayout t).elim [] LayoutNode.terminalUuids =
    t.panes.map (fun pane => uuidToString pane.uuid)
  bounds : ∀ layout, clientLayout t = some layout →
    layout.AllRatios (fun r => r.lt minRatio = false ∧ maxRatio.lt r = false)

/-- A path that the daemon accepts is echoed unchanged, leads to corresponding nodes,
and addresses a split of the tree just when it addresses one of the layout. -/
structure PathsAgree (t : WorkspaceTree) (raw : List Int) (path : List Side) : Prop where
  echoed : (decodeWirePath raw).map protoSideToSide = path.map some
  nodes : Option.Rel Mirrors (t.root.bind (·.nodeAt path)) ((clientLayout t).bind (·.nodeAt path))
  resizes : ∀ ratio, ratioIsValid ratio = true →
    ((t.resizeSplit path ratio).2 = true ↔
      ∃ orientation r first second,
        (clientLayout t).bind (·.nodeAt path) = some (.split orientation r first second))

/-- Closing a pane commutes with the translation. -/
def CloseAgrees (t : WorkspaceTree) (pane : PaneId) : Prop :=
  (clientLayout t).bind (·.removeTerminal (uuidToString pane.uuid)) =
    clientLayout (t.close pane).1

/-- Splitting a leaf commutes with the translation. -/
def SplitAgrees (t : WorkspaceTree) (target newPane : PaneId) (axis : SplitAxis) (ratio : F32) :
    Prop :=
  (clientLayout t).bind
      (·.splitTerminalWithNewUuid (uuidToString target.uuid) (uuidToString newPane.uuid)
        (orientationOf axis)) =
    (clientLayout (t.split target newPane axis ratio).1).map
      (fun layout => (layout, uuidToString newPane.uuid))

/-- The client's split and the daemon's are of one shape, ids included. -/
def SplitShapesAgree (t : WorkspaceTree) (target newPane : PaneId) (axis : SplitAxis)
    (ratio : F32) : Prop :=
  ∃ layout,
    (clientLayout t).bind
        (·.splitTerminalWithNewUuid (uuidToString target.uuid) (uuidToString newPane.uuid)
          (orientationOf axis)) = some (layout, uuidToString newPane.uuid) ∧
      some layout.shape =
        (clientLayout (t.split target newPane axis ratio).1).map LayoutNode.shape

/-- The client splits this leaf of its layout of the tree. -/
def Splittable (t : WorkspaceTree) (target : PaneId) : Prop :=
  ∃ depth, (clientLayout t).bind (·.depthOfTerminal (uuidToString target.uuid)) = some depth ∧
    depth < maxSplitDepth

variable {t : WorkspaceTree}

theorem mirrored (t : WorkspaceTree) : Mirrored t := by
  cases hroot : t.root with
  | none =>
      have hlayout : clientLayout t = none := by rw [clientLayout_eq, hroot, Option.map_none]
      refine ⟨?_, ?_, ?_⟩
      · rw [hroot, hlayout]
        exact Option.Rel.none
      · simp [hlayout, WorkspaceTree.panes_of_empty hroot]
      · simp [hlayout]
  | some root =>
      have hlayout : clientLayout t = some (layoutOf root) := by
        rw [clientLayout_eq, hroot, Option.map_some]
      refine ⟨?_, ?_, ?_⟩
      · rw [hroot, hlayout]
        exact Option.Rel.some (mirrors_iff.mpr rfl)
      · simp [hlayout, WorkspaceTree.panes_of_root hroot, terminalUuids_layoutOf]
      · intro layout h
        rw [hlayout, Option.some.injEq] at h
        subst h
        exact layoutFromPaneTree_ratios (layoutFromPaneTree_eq root)

/-- The daemon resizes the splits that the layout has. -/
theorem resizeSplit_iff {path : List Side} {ratio : F32}
    (hratio : ratioIsValid ratio = true) :
    (t.resizeSplit path ratio).2 = true ↔
      ∃ orientation r first second,
        (clientLayout t).bind (·.nodeAt path) = some (.split orientation r first second) := by
  cases hroot : t.root with
  | none => simp [WorkspaceTree.resizeSplit, hratio, hroot, clientLayout_eq]
  | some root =>
      have hres : (t.resizeSplit path ratio).2 =
          (root.nodeAtMut (PaneTree.setRatio ratio) path).isSome := by
        cases hset : root.nodeAtMut (PaneTree.setRatio ratio) path with
        | none => simp [WorkspaceTree.resizeSplit, hratio, hroot, hset]
        | some root' => simp [WorkspaceTree.resizeSplit, hratio, hroot, hset]
      rw [hres, PaneTree.nodeAtMut_isSome, clientLayout_eq, hroot, Option.map_some,
        Option.bind_some, nodeAt_layoutOf]
      cases root.nodeAt path with
      | none => simp
      | some node =>
          cases node with
          | leaf pane => simp [PaneTree.setRatio, layoutOf]
          | split axis r first second => simp [PaneTree.setRatio, layoutOf]

theorem pathsAgree {raw : List Int} {path : List Side}
    (h : decodeSidePath raw = some path) :
    PathsAgree t raw path := by
  refine ⟨decodeWirePath_of_decodeSidePath h, ?_, fun ratio hratio => resizeSplit_iff hratio⟩
  rw [clientLayout_eq]
  cases t.root with
  | none => exact Option.Rel.none
  | some root =>
      simp only [Option.map_some, Option.bind_some, nodeAt_layoutOf]
      cases root.nodeAt path with
      | none => exact Option.Rel.none
      | some node => exact Option.Rel.some (mirrors_iff.mpr rfl)

theorem closeAgrees
    (hwf : t.WellFormed)
    (pane : PaneId) :
    CloseAgrees t pane := by
  unfold CloseAgrees
  rw [clientLayout_eq, clientLayout_eq]
  cases hroot : t.root with
  | none => simp [WorkspaceTree.close, hroot]
  | some root =>
      have hnodup : root.leaves.Nodup := WorkspaceTree.panes_of_root hroot ▸ hwf.nodup
      rw [Option.map_some, Option.bind_some, removeTerminal_layoutOf hnodup]
      cases hres : removeFrom pane root with
      | notFound unchanged => simp [WorkspaceTree.close, hroot, hres]
      | removed rest =>
          cases rest with
          | none => simp [WorkspaceTree.close, hroot, hres]
          | some newRoot => simp [WorkspaceTree.close, hroot, hres]

/-- What both sides of a split compute. -/
theorem split_layouts {target newPane : PaneId} {ratio : F32}
    (hcan : t.CanSplit target newPane ratio)
    (axis : SplitAxis) :
    ∃ root, t.root = some root ∧ target ∈ root.leaves ∧
      clientLayout (t.split target newPane axis ratio).1 =
        some (layoutOf (root.splitLeaf target newPane axis ratio).1) := by
  obtain ⟨hratio, hnew, htarget⟩ := hcan
  cases hroot : t.root with
  | none => simp [WorkspaceTree.panes_of_empty hroot] at htarget
  | some root =>
      refine ⟨root, rfl, WorkspaceTree.panes_of_root hroot ▸ htarget, ?_⟩
      simp [clientLayout_eq, WorkspaceTree.split, WorkspaceTree.contains, hratio, hnew, htarget,
        hroot]

theorem splittable_iff {target : PaneId} {root : PaneTree}
    (hroot : t.root = some root)
    (htarget : target ∈ root.leaves) :
    Splittable t target ↔
      ((layoutOf root).depthOfTerminal (uuidToString target.uuid)).all
        (fun depth => maxSplitDepth ≤ depth) = false := by
  obtain ⟨depth, hdepth⟩ := Option.isSome_iff_exists.mp
    (LayoutNode.depthOfTerminal_isSome.mpr (mem_terminalUuids_layoutOf.mpr htarget))
  simp [Splittable, clientLayout_eq, hroot, hdepth]

/-- **A split agrees if and only if it is shallow and even.** -/
theorem splitAgrees_iff {target newPane : PaneId} {ratio : F32}
    (hcan : t.CanSplit target newPane ratio)
    (axis : SplitAxis) :
    SplitAgrees t target newPane axis ratio ↔
      Splittable t target ∧ boundedRatio ratio = evenRatio := by
  obtain ⟨root, hroot, htarget, hsplit⟩ := split_layouts hcan axis
  have heven : boundedRatio F32.half = evenRatio := by decide
  rw [splittable_iff hroot htarget, SplitAgrees, hsplit, clientLayout_eq, hroot, Option.map_some,
    Option.bind_some, LayoutNode.splitTerminalWithNewUuid_eq,
    splitTerminal_layoutOf newPane axis heven htarget]
  cases ((layoutOf root).depthOfTerminal (uuidToString target.uuid)).all
      (fun depth => maxSplitDepth ≤ depth) with
  | true => simp
  | false =>
      simp only [Bool.false_eq_true, if_false, Option.map_some, Option.some.injEq, Prod.mk.injEq,
        and_true, true_and]
      constructor
      · intro h
        exact (layoutOf_splitLeaf_inj htarget h).symm.trans heven
      · intro h
        have hclient := splitTerminal_layoutOf newPane axis h htarget
        rw [splitTerminal_layoutOf newPane axis heven htarget] at hclient
        exact Option.some.inj hclient

/-- Above the limit both splits have one shape, whatever the ratio. -/
theorem split_shapes {target newPane : PaneId} {ratio : F32}
    (hcan : t.CanSplit target newPane ratio)
    (axis : SplitAxis)
    (hdepth : Splittable t target) :
    SplitShapesAgree t target newPane axis ratio := by
  obtain ⟨root, hroot, htarget, hsplit⟩ := split_layouts hcan axis
  have heven : boundedRatio F32.half = evenRatio := by decide
  have hshape := (splitLeaf_shape target newPane axis F32.half ratio root).2
  rw [splittable_iff hroot htarget] at hdepth
  refine ⟨layoutOf (root.splitLeaf target newPane axis F32.half).1, ?_, ?_⟩
  · simp [clientLayout_eq, hroot, LayoutNode.splitTerminalWithNewUuid_eq, hdepth,
      splitTerminal_layoutOf newPane axis heven htarget]
  · rw [hsplit, Option.map_some, hshape]

/-- **The layout and the tree agree on everything but deep and uneven splits.** -/
theorem tree_agreement (t : WorkspaceTree)
    (hvalid : t.validate = .ok ()) :
    Mirrored t ∧
      (∀ raw path, decodeSidePath raw = some path → PathsAgree t raw path) ∧
      (∀ pane ∈ t.panes, CloseAgrees t pane) ∧
      ∀ target newPane axis ratio, t.CanSplit target newPane ratio →
        (SplitAgrees t target newPane axis ratio ↔
          Splittable t target ∧ boundedRatio ratio = evenRatio) ∧
        (Splittable t target → SplitShapesAgree t target newPane axis ratio) := by
  have hwf := (WorkspaceTree.validate_eq_ok_iff t).mp hvalid
  refine ⟨mirrored t, fun raw path h => pathsAgree h, fun pane _ => closeAgrees hwf pane, ?_⟩
  intro target newPane axis ratio hcan
  exact ⟨splitAgrees_iff hcan axis, split_shapes hcan axis⟩

end Agreement

section Samples

/-- Panes by number. -/
def panedBy (n : Nat) : PaneId := ⟨BitVec.ofNat 128 n⟩

/-- Five panes, each split off the one before. -/
def fiveDeep : WorkspaceTree :=
  let even := fun a b => PaneTree.split .horizontal F32.half a b
  let leaf := fun n => PaneTree.leaf (panedBy n)
  ⟨some (even (leaf 1) (even (leaf 2) (even (leaf 3) (even (leaf 4) (leaf 5))))), some (panedBy 1)⟩

theorem fiveDeep_valid : fiveDeep.validate = .ok () := by decide

theorem fiveDeep_canSplit (n : Nat) (ratio : F32)
    (hratio : ratioIsValid ratio = true)
    (hn : panedBy n ∈ fiveDeep.panes) :
    fiveDeep.CanSplit (panedBy n) (panedBy 6) ratio :=
  ⟨hratio, by decide, hn⟩

/-- The daemon splits a leaf at the maximum depth, and the client refuses; at a leaf
that both split, the daemon's uneven ratio is not the client's. -/
theorem deep_split_differs :
    fiveDeep.validate = .ok () ∧
      (fiveDeep.CanSplit (panedBy 5) (panedBy 6) F32.half ∧
        ¬ SplitAgrees fiveDeep (panedBy 5) (panedBy 6) .vertical F32.half) ∧
      (fiveDeep.CanSplit (panedBy 1) (panedBy 6) ⟨0x3E800000#32⟩ ∧
        ¬ SplitAgrees fiveDeep (panedBy 1) (panedBy 6) .vertical ⟨0x3E800000#32⟩) := by
  have hdeep := fiveDeep_canSplit 5 F32.half (by decide) (by decide)
  have huneven := fiveDeep_canSplit 1 ⟨0x3E800000#32⟩ (by decide) (by decide)
  refine ⟨fiveDeep_valid, ⟨hdeep, ?_⟩, huneven, ?_⟩
  · rw [splitAgrees_iff hdeep]
    rintro ⟨⟨depth, hdepth, hlt⟩, _⟩
    have hfive : (clientLayout fiveDeep).bind
        (·.depthOfTerminal (uuidToString (panedBy 5).uuid)) = some 5 := by decide +kernel
    rw [hfive, Option.some.injEq] at hdepth
    simp [← hdepth, maxSplitDepth] at hlt
  · rw [splitAgrees_iff huneven]
    rintro ⟨_, heven⟩
    exact absurd heven (by decide)

/-- The agreement at this tree, where the second pane is closed and the third is
split evenly. -/
theorem tree_agreement_fiveDeep :
    CloseAgrees fiveDeep (panedBy 2) ∧
      SplitAgrees fiveDeep (panedBy 3) (panedBy 6) .vertical F32.half ∧
      PathsAgree fiveDeep [2, 1] [.second, .first] := by
  obtain ⟨_, hpaths, hcloses, hsplits⟩ := tree_agreement fiveDeep fiveDeep_valid
  have hthree := fiveDeep_canSplit 3 F32.half (by decide) (by decide)
  refine ⟨hcloses _ (by decide), ?_, hpaths _ _ (by decide)⟩
  exact (hsplits _ _ .vertical _ hthree).1.mpr ⟨⟨4, by decide +kernel, by decide⟩, by decide⟩

end Samples

end Client
end Rttx
