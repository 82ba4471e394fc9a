import Rttx.Server.Snapshot

/-!
# The client's render layout

A client draws a workspace from a binary tree whose leaves name terminals.  On
attach the tree is built from the pane tree on the wire, every leaf under the
textual form of its pane id.  A malformed part of the wire tree collapses to
whatever valid structure remains.

**Results.**
* `containsTerminal_iff`: the recursive search finds exactly the leaves.
* `setTerminalCwd_shape`: recording a directory keeps the shape and the ids.
* `layoutFromPaneTree_ratios`: the ratios of a built layout respect the bounds.
-/

namespace Rttx
namespace Client

open Kernel Server

inductive SplitOrientation
  | horizontal
  | vertical
deriving DecidableEq, Repr

/-- The recursive split and terminal structure of a workspace. -/
inductive LayoutNode
  | terminal (uuid : String) (profile cwd customTitle : Option String)
  | split (orientation : SplitOrientation) (ratio : F64) (first second : LayoutNode)
deriving DecidableEq

/-- A layout's orientations and leaf ids. -/
inductive LayoutShape
  | terminal (uuid : String)
  | split (orientation : SplitOrientation) (first second : LayoutShape)
deriving DecidableEq, Repr

namespace LayoutNode

section Queries

def terminalUuids : LayoutNode → List String
  | terminal uuid _ _ _ => [uuid]
  | split _ _ first second => first.terminalUuids ++ second.terminalUuids

def containsTerminal (uuid : String) : LayoutNode → Bool
  | terminal u _ _ _ => u == uuid
  | split _ _ first second => first.containsTerminal uuid || second.containsTerminal uuid

def terminalCustomTitle (targetUuid : String) : LayoutNode → Option String
  | terminal uuid _ _ customTitle => if uuid = targetUuid then customTitle else none
  | split _ _ first second =>
      (first.terminalCustomTitle targetUuid).or (second.terminalCustomTitle targetUuid)

/-- The leaves with their custom titles. -/
def terminalTitles : LayoutNode → List (String × Option String)
  | terminal uuid _ _ customTitle => [(uuid, customTitle)]
  | split _ _ first second => first.terminalTitles ++ second.terminalTitles

/-- Record a directory at the first leaf of this id, and whether there is one. -/
def setTerminalCwd (targetUuid : String) (newCwd : Option String) :
    LayoutNode → Bool × LayoutNode
  | terminal uuid profile cwd customTitle =>
      if uuid = targetUuid then
        (true, terminal uuid profile newCwd customTitle)
      else
        (false, terminal uuid profile cwd customTitle)
  | split orientation ratio first second =>
      match first.setTerminalCwd targetUuid newCwd with
      | (true, first) => (true, split orientation ratio first second)
      | (false, first) =>
          let (found, second) := second.setTerminalCwd targetUuid newCwd
          (found, split orientation ratio first second)

def shape : LayoutNode → LayoutShape
  | terminal uuid _ _ _ => .terminal uuid
  | split orientation _ first second => .split orientation first.shape second.shape

/-- Every split's ratio satisfies `p`. -/
def AllRatios (p : F64 → Prop) : LayoutNode → Prop
  | terminal _ _ _ _ => True
  | split _ ratio first second => p ratio ∧ first.AllRatios p ∧ second.AllRatios p

theorem containsTerminal_iff {uuid : String} {node : LayoutNode} :
    node.containsTerminal uuid = true ↔ uuid ∈ node.terminalUuids := by
  induction node with
  | terminal u profile cwd customTitle =>
      simp only [containsTerminal, terminalUuids, beq_iff_eq, List.mem_singleton]
      exact eq_comm
  | split orientation ratio first second ih₁ ih₂ =>
      simp [containsTerminal, terminalUuids, ih₁, ih₂]

/-- Recording a directory keeps the shape and the leaf ids. -/
@[simp] theorem setTerminalCwd_shape (targetUuid : String) (newCwd : Option String)
    (node : LayoutNode) :
    (node.setTerminalCwd targetUuid newCwd).2.shape = node.shape := by
  induction node with
  | terminal uuid profile cwd customTitle =>
      simp only [setTerminalCwd]
      split <;> rfl
  | split orientation ratio first second ih₁ ih₂ =>
      simp only [setTerminalCwd]
      split
      · rename_i heq
        simp only [shape, ← ih₁, heq]
      · rename_i heq
        simp only [shape, ← ih₁, heq, ih₂]

/-- The leaf ids are read off the shape. -/
theorem terminalUuids_of_shape {a b : LayoutNode}
    (h : a.shape = b.shape) :
    a.terminalUuids = b.terminalUuids := by
  induction a generalizing b with
  | terminal uuid profile cwd customTitle =>
      cases b with
      | terminal uuid' profile' cwd' customTitle' =>
          simp only [shape, LayoutShape.terminal.injEq] at h
          simp [terminalUuids, h]
      | split orientation ratio first second => cases h
  | split orientation ratio first second ih₁ ih₂ =>
      cases b with
      | terminal uuid profile cwd customTitle => cases h
      | split orientation' ratio' first' second' =>
          simp only [shape, LayoutShape.split.injEq] at h
          simp [terminalUuids, ih₁ h.2.1, ih₂ h.2.2]

end Queries

end LayoutNode

section FromWire

def hexDigit (n : Nat) : Char :=
  if n < 10 then Char.ofNat (0x30 + n) else Char.ofNat (0x61 + n - 10)

/-- The canonical textual form of an id: 32 hexadecimal digits in five groups. -/
def uuidToString (id : Uuid) : String :=
  let digits := (List.range 32).map (fun i => hexDigit (id.toNat / 16 ^ (31 - i) % 16))
  let group (start length : Nat) := (digits.drop start).take length
  String.ofList
    (group 0 8 ++ '-' :: group 8 4 ++ '-' :: group 12 4 ++ '-' :: group 16 4 ++
      '-' :: group 20 12)

/-- The textual id of sixteen bytes. -/
def paneIdOfBytes (bytes : Bytes) : Option String :=
  (bytesToUuid bytes).map uuidToString

/-- Bounds of a stored split ratio: 0.05 and 0.95. -/
def minRatio : F64 := ⟨0x3FA999999999999A#64⟩
def maxRatio : F64 := ⟨0x3FEE666666666666#64⟩

/-- An unspecified axis is side by side. -/
def orientationFromAxis : PaneSplitAxis → SplitOrientation
  | .vertical => .vertical
  | _ => .horizontal

/-- Build the render layout from a pane tree on the wire. -/
def layoutFromPaneTree : PaneTreeNode → Option LayoutNode
  | .missing => none
  | .leaf paneId => (paneIdOfBytes paneId).map (fun uuid => .terminal uuid none none none)
  | .split axis ratio first second =>
      match layoutFromPaneTree first, layoutFromPaneTree second with
      | some first, some second =>
          some (.split (orientationFromAxis axis) (ratio.toF64.clamp minRatio maxRatio)
            first second)
      | some only, none => some only
      | none, some only => some only
      | none, none => none

/-- The layout a snapshot describes; none for a workspace without panes. -/
def renderLayoutFromSnapshot (snapshot : WorkspaceSnapshot) : Option LayoutNode :=
  snapshot.tree.bind layoutFromPaneTree

/-- No ratio of a built layout is outside the bounds. -/
theorem layoutFromPaneTree_ratios {node : PaneTreeNode} {layout : LayoutNode}
    (h : layoutFromPaneTree node = some layout) :
    layout.AllRatios (fun r => r.lt minRatio = false ∧ maxRatio.lt r = false) := by
  induction node generalizing layout with
  | missing => cases h
  | leaf paneId =>
      obtain ⟨uuid, _, rfl⟩ := Option.map_eq_some_iff.mp h
      trivial
  | split axis ratio first second ih₁ ih₂ =>
      simp only [layoutFromPaneTree] at h
      cases hfirst : layoutFromPaneTree first with
      | none =>
          cases hsecond : layoutFromPaneTree second with
          | none => simp [hfirst, hsecond] at h
          | some b =>
              simp only [hfirst, hsecond, Option.some.injEq] at h
              exact h ▸ ih₂ hsecond
      | some a =>
          cases hsecond : layoutFromPaneTree second with
          | none =>
              simp only [hfirst, hsecond, Option.some.injEq] at h
              exact h ▸ ih₁ hfirst
          | some b =>
              simp only [hfirst, hsecond, Option.some.injEq] at h
              subst h
              exact ⟨F64.clamp_within (by decide) _, ih₁ hfirst, ih₂ hsecond⟩

end FromWire

end Client
end Rttx
