import Mathlib.Data.List.Perm.Basic
import Mathlib.Data.List.Nodup
import Rttx.Kernel.MachineNumbers

/-!
# The authoritative pane tree

A workspace's structure is a binary tree whose leaves are panes and whose
internal nodes are splits carrying a ratio.  The workspace tree adds the
default-active pane.  Operations that fail leave the tree as it is and say so
in their second component.

**Results.**
* `PaneTree.splitLeaf_perm`, `PaneTree.removeFrom_spec`: splitting adds one leaf, removing
  takes one away, as permutations of the leaf list.
* `WorkspaceTree.validate_eq_ok_iff`: validation accepts exactly the
  well-formed trees.
* `WorkspaceTree.WellFormed.insertRoot`, `.split`, `.close`, `.resizeSplit`,
  `.setDefaultActive`: every operation keeps well-formedness.
-/

namespace Rttx
namespace Server

open Kernel

/-- A 128-bit universally unique identifier. -/
abbrev Uuid := BitVec 128

instance Uuid.lawfulBEq : LawfulBEq Uuid := instLawfulBEq

/-- Server-assigned, immutable pane identifier. -/
structure PaneId where
  fromUuid ::
  uuid : Uuid
deriving DecidableEq, Repr

/-- Orientation of a split node. -/
inductive SplitAxis
  | horizontal
  | vertical
deriving DecidableEq, Repr

/-- One step when addressing a node by its path from the root. -/
inductive Side
  | first
  | second
deriving DecidableEq, Repr

/-- The pane arrangement: a leaf names one pane, a split joins two subtrees. -/
inductive PaneTree
  | leaf (pane : PaneId)
  | split (axis : SplitAxis) (ratio : F32) (first second : PaneTree)
deriving DecidableEq, Repr

/-- A legal split ratio: finite and strictly inside `(0, 1)`. -/
def ratioIsValid (ratio : F32) : Bool :=
  ratio.isFinite && F32.zero.lt ratio && ratio.lt F32.one

namespace PaneTree

/-- Push every pane id in left-to-right order. -/
def collect : PaneTree → List PaneId → List PaneId
  | leaf pane, out => out ++ [pane]
  | split _ _ first second, out => second.collect (first.collect out)

/-- The first (leftmost/topmost) pane in the subtree. -/
def firstLeaf : PaneTree → PaneId
  | leaf pane => pane
  | split _ _ first _ => first.firstLeaf

/-- Replace the leaf holding `target` with a split of `target` and `newPane`. -/
def splitLeaf (target newPane : PaneId) (axis : SplitAxis) (ratio : F32) :
    PaneTree → PaneTree × Bool
  | leaf pane =>
      if pane = target then
        (split axis ratio (leaf target) (leaf newPane), true)
      else
        (leaf pane, false)
  | split a r first second =>
      match splitLeaf target newPane axis ratio first with
      | (first', true) => (split a r first' second, true)
      | (first', false) =>
          match splitLeaf target newPane axis ratio second with
          | (second', found) => (split a r first' second', found)

/-- Write through the node addressed by `path`; `none` when the path leaves the
tree or `f` rejects the node. -/
def nodeAtMut (f : PaneTree → Option PaneTree) : List Side → PaneTree → Option PaneTree
  | [], node => f node
  | _ :: _, leaf _ => none
  | Side.first :: rest, split a r first second =>
      (nodeAtMut f rest first).map (fun first' => split a r first' second)
  | Side.second :: rest, split a r first second =>
      (nodeAtMut f rest second).map (fun second' => split a r first second')

/-- Set the ratio of a split node; a leaf has none. -/
def setRatio (ratio : F32) : PaneTree → Option PaneTree
  | leaf _ => none
  | split a _ first second => some (split a ratio first second)

end PaneTree

/-- Outcome of removing a pane from a subtree by recursive descent. -/
inductive Removal
  | notFound (unchanged : PaneTree)
  | removed (rest : Option PaneTree)
deriving DecidableEq

/-- Remove the leaf of `target`, collapsing its parent split. -/
def removeFrom (target : PaneId) : PaneTree → Removal
  | .leaf pane =>
      if pane = target then
        .removed none
      else
        .notFound (.leaf pane)
  | .split axis ratio first second =>
      match removeFrom target first with
      | .removed none => .removed (some second)
      | .removed (some newFirst) => .removed (some (.split axis ratio newFirst second))
      | .notFound origFirst =>
          match removeFrom target second with
          | .removed none => .removed (some origFirst)
          | .removed (some newSecond) =>
              .removed (some (.split axis ratio origFirst newSecond))
          | .notFound origSecond => .notFound (.split axis ratio origFirst origSecond)

/-- Result of closing a pane in a workspace tree. -/
inductive CloseOutcome
  | removed (defaultActive : PaneId)
  | emptied
  | notFound
deriving DecidableEq, Repr

/-- A broken tree invariant, reported by `WorkspaceTree.validate`. -/
inductive TreeInvariant
  | duplicatePane (pane : PaneId)
  | invalidRatio
  | defaultActiveMismatch
deriving DecidableEq, Repr

/-- A pane tree plus the default-active pane. -/
structure WorkspaceTree where
  root : Option PaneTree
  defaultActive : Option PaneId
deriving DecidableEq, Repr

/-- Check the ratios and the panes of a subtree, collecting the panes seen. -/
def validateNode : PaneTree → List PaneId → Except TreeInvariant (List PaneId)
  | .leaf pane, seen =>
      if pane ∈ seen then
        .error (.duplicatePane pane)
      else
        .ok (seen ++ [pane])
  | .split _ ratio first second, seen =>
      if !ratioIsValid ratio then
        .error .invalidRatio
      else
        match validateNode first seen with
        | .error e => .error e
        | .ok seen' => validateNode second seen'

namespace WorkspaceTree

def new : WorkspaceTree :=
  ⟨none, none⟩

def panes (t : WorkspaceTree) : List PaneId :=
  match t.root with
  | none => []
  | some root => root.collect []

def contains (t : WorkspaceTree) (pane : PaneId) : Bool :=
  t.panes.contains pane

/-- Seed an empty tree with its first pane. -/
def insertRoot (t : WorkspaceTree) (pane : PaneId) : WorkspaceTree × Bool :=
  if t.root.isSome then
    (t, false)
  else
    (⟨some (.leaf pane), some pane⟩, true)

/-- Split the leaf holding `target`, adding `newPane` as the second child. -/
def split (t : WorkspaceTree) (target newPane : PaneId) (axis : SplitAxis) (ratio : F32) :
    WorkspaceTree × Bool :=
  if !ratioIsValid ratio || t.contains newPane || !t.contains target then
    (t, false)
  else
    match t.root with
    | none => (t, false)
    | some root =>
        match root.splitLeaf target newPane axis ratio with
        | (root', found) => ({ t with root := some root' }, found)

/-- Remove `pane`, collapsing its parent split into the sibling subtree. -/
def close (t : WorkspaceTree) (pane : PaneId) : WorkspaceTree × CloseOutcome :=
  match t.root with
  | none => (t, .notFound)
  | some root =>
      match removeFrom pane root with
      | .notFound unchanged => ({ t with root := some unchanged }, .notFound)
      | .removed none => (⟨none, none⟩, .emptied)
      | .removed (some newRoot) =>
          let defaultActive :=
            if t.defaultActive = some pane then
              newRoot.firstLeaf
            else
              t.defaultActive.getD newRoot.firstLeaf
          (⟨some newRoot, some defaultActive⟩, .removed defaultActive)

/-- Set the ratio of the split node addressed by `path`. -/
def resizeSplit (t : WorkspaceTree) (path : List Side) (ratio : F32) : WorkspaceTree × Bool :=
  if !ratioIsValid ratio then
    (t, false)
  else
    match t.root with
    | none => (t, false)
    | some root =>
        match root.nodeAtMut (PaneTree.setRatio ratio) path with
        | none => (t, false)
        | some root' => ({ t with root := some root' }, true)

/-- Make `pane` the default-active pane. -/
def setDefaultActive (t : WorkspaceTree) (pane : PaneId) : WorkspaceTree × Bool :=
  if !t.contains pane then
    (t, false)
  else
    ({ t with defaultActive := some pane }, true)

/-- Check every structural invariant, reporting the first one violated. -/
def validate (t : WorkspaceTree) : Except TreeInvariant Unit :=
  match t.root with
  | none =>
      if t.defaultActive.isNone then
        .ok ()
      else
        .error .defaultActiveMismatch
  | some root =>
      match validateNode root [] with
      | .error e => .error e
      | .ok seen =>
          match t.defaultActive with
          | none => .error .defaultActiveMismatch
          | some active =>
              if active ∈ seen then
                .ok ()
              else
                .error .defaultActiveMismatch

end WorkspaceTree

section Leaves

namespace PaneTree

/-- The leaves in left-to-right order, without the accumulator. -/
def leaves : PaneTree → List PaneId
  | leaf pane => [pane]
  | split _ _ first second => first.leaves ++ second.leaves

theorem collect_eq (t : PaneTree) (out : List PaneId) :
    t.collect out = out ++ t.leaves := by
  induction t generalizing out with
  | leaf pane => rfl
  | split axis ratio first second ihF ihS =>
      simp [collect, leaves, ihF, ihS]

theorem firstLeaf_mem (t : PaneTree) : t.firstLeaf ∈ t.leaves := by
  induction t with
  | leaf pane => simp [firstLeaf, leaves]
  | split axis ratio first second ihF ihS => simp [firstLeaf, leaves, ihF]

/-- Every split of the tree carries a legal ratio. -/
def RatiosValid : PaneTree → Prop
  | leaf _ => True
  | split _ ratio first second =>
      ratioIsValid ratio = true ∧ first.RatiosValid ∧ second.RatiosValid

/-- Splitting looks for the leaf of `target`; without one the tree is unchanged. -/
theorem splitLeaf_of_not_mem {target newPane : PaneId} {axis : SplitAxis} {ratio : F32}
    {t : PaneTree}
    (h : target ∉ t.leaves) :
    t.splitLeaf target newPane axis ratio = (t, false) := by
  induction t with
  | leaf pane =>
      have hne : pane ≠ target := by
        intro heq
        exact h (by simp [leaves, heq])
      simp [splitLeaf, hne]
  | split a r first second ihF ihS =>
      simp only [leaves, List.mem_append, not_or] at h
      simp [splitLeaf, ihF h.1, ihS h.2]

/-- Splitting the leaf of a present target succeeds and adds exactly one leaf. -/
theorem splitLeaf_perm {target : PaneId} {t : PaneTree}
    (h : target ∈ t.leaves)
    (newPane : PaneId)
    (axis : SplitAxis)
    (ratio : F32) :
    (t.splitLeaf target newPane axis ratio).2 = true ∧
      ((t.splitLeaf target newPane axis ratio).1.leaves).Perm (newPane :: t.leaves) := by
  induction t with
  | leaf pane =>
      have heq : pane = target := by simpa [leaves, eq_comm] using h
      subst heq
      simpa [splitLeaf, leaves] using List.Perm.swap newPane pane []
  | split a r first second ihF ihS =>
      by_cases hF : target ∈ first.leaves
      · obtain ⟨hfound, hperm⟩ := ihF hF
        generalize hres : first.splitLeaf target newPane axis ratio = res at hfound hperm
        obtain ⟨first', found⟩ := res
        simp only at hfound hperm
        subst hfound
        simpa [splitLeaf, hres, leaves] using hperm.append_right second.leaves
      · have hS : target ∈ second.leaves := by
          simpa [leaves, hF] using h
        obtain ⟨hfound, hperm⟩ := ihS hS
        generalize hres : second.splitLeaf target newPane axis ratio = res at hfound hperm
        obtain ⟨second', found⟩ := res
        simp only at hfound hperm
        subst hfound
        have hmove : (first.leaves ++ newPane :: second.leaves).Perm
            (newPane :: (first.leaves ++ second.leaves)) := List.perm_middle
        simpa [splitLeaf, splitLeaf_of_not_mem hF, hres, leaves] using
          (hperm.append_left first.leaves).trans hmove

theorem RatiosValid.splitLeaf {ratio : F32} {t : PaneTree}
    (h : t.RatiosValid)
    (hratio : ratioIsValid ratio = true)
    (target newPane : PaneId)
    (axis : SplitAxis) :
    (t.splitLeaf target newPane axis ratio).1.RatiosValid := by
  induction t with
  | leaf pane =>
      by_cases heq : pane = target
      · simp [PaneTree.splitLeaf, heq, RatiosValid, hratio]
      · simp [PaneTree.splitLeaf, heq, RatiosValid]
  | split a r first second ihF ihS =>
      obtain ⟨hr, hF, hS⟩ := h
      have hF' := ihF hF
      have hS' := ihS hS
      simp only [PaneTree.splitLeaf]
      generalize first.splitLeaf target newPane axis ratio = resF at hF'
      obtain ⟨first', foundF⟩ := resF
      cases foundF with
      | true => exact ⟨hr, hF', hS⟩
      | false => exact ⟨hr, hF', hS'⟩

/-- Writing a ratio keeps the leaves. -/
theorem nodeAtMut_setRatio_leaves {ratio : F32} {path : List Side} {t t' : PaneTree}
    (h : t.nodeAtMut (setRatio ratio) path = some t') :
    t'.leaves = t.leaves := by
  induction t generalizing path t' with
  | leaf pane =>
      cases path with
      | nil => simp [nodeAtMut, setRatio] at h
      | cons side rest => simp [nodeAtMut] at h
  | split a r first second ihF ihS =>
      cases path with
      | nil =>
          simp only [nodeAtMut, setRatio, Option.some.injEq] at h
          simp [← h, leaves]
      | cons side rest =>
          cases side with
          | first =>
              obtain ⟨first', hf, rfl⟩ := Option.map_eq_some_iff.mp h
              simp [leaves, ihF hf]
          | second =>
              obtain ⟨second', hs, rfl⟩ := Option.map_eq_some_iff.mp h
              simp [leaves, ihS hs]

theorem RatiosValid.nodeAtMut {ratio : F32} {path : List Side} {t t' : PaneTree}
    (hratio : ratioIsValid ratio = true)
    (h : t.RatiosValid)
    (hset : t.nodeAtMut (setRatio ratio) path = some t') :
    t'.RatiosValid := by
  induction t generalizing path t' with
  | leaf pane =>
      cases path with
      | nil => simp [PaneTree.nodeAtMut, setRatio] at hset
      | cons side rest => simp [PaneTree.nodeAtMut] at hset
  | split a r first second ihF ihS =>
      obtain ⟨hr, hF, hS⟩ := h
      cases path with
      | nil =>
          simp only [PaneTree.nodeAtMut, setRatio, Option.some.injEq] at hset
          subst hset
          exact ⟨hratio, hF, hS⟩
      | cons side rest =>
          cases side with
          | first =>
              obtain ⟨first', hf, rfl⟩ := Option.map_eq_some_iff.mp hset
              exact ⟨hr, ihF hF hf, hS⟩
          | second =>
              obtain ⟨second', hs, rfl⟩ := Option.map_eq_some_iff.mp hset
              exact ⟨hr, hF, ihS hS hs⟩

end PaneTree

/-- What removing `target` from `t` means for the leaves and the ratios. -/
def Removal.Spec (target : PaneId) (t : PaneTree) : Removal → Prop
  | .notFound unchanged => unchanged = t ∧ target ∉ t.leaves
  | .removed none => t.leaves = [target]
  | .removed (some rest) =>
      t.leaves.Perm (target :: rest.leaves) ∧ (t.RatiosValid → rest.RatiosValid)

/-- **Removal takes away one leaf of the target, or leaves the tree as it is.** -/
theorem removeFrom_spec (target : PaneId) (t : PaneTree) :
    (removeFrom target t).Spec target t := by
  induction t with
  | leaf pane =>
      by_cases heq : pane = target
      · simp [removeFrom, heq, Removal.Spec, PaneTree.leaves]
      · have hne : ¬ target = pane := fun h => heq h.symm
        simp [removeFrom, heq, hne, Removal.Spec, PaneTree.leaves]
  | split axis ratio first second ihF ihS =>
      simp only [removeFrom]
      generalize removeFrom target first = resF at ihF
      match resF, ihF with
      | .removed none, hF =>
          have hleaves : first.leaves = [target] := hF
          refine ⟨?_, fun h => h.2.2⟩
          simp [PaneTree.leaves, hleaves]
      | .removed (some first'), ⟨hperm, hvalid⟩ =>
          refine ⟨?_, fun h => ⟨h.1, hvalid h.2.1, h.2.2⟩⟩
          simpa [PaneTree.leaves] using hperm.append_right second.leaves
      | .notFound origFirst, ⟨hsame, hnotF⟩ =>
          subst hsame
          generalize removeFrom target second = resS at ihS
          match resS, ihS with
          | .removed none, hS =>
              have hleaves : second.leaves = [target] := hS
              refine ⟨?_, fun h => h.2.1⟩
              simp [PaneTree.leaves, hleaves]
          | .removed (some second'), ⟨hperm, hvalid⟩ =>
              refine ⟨?_, fun h => ⟨h.1, h.2.1, hvalid h.2.2⟩⟩
              have hmove : (origFirst.leaves ++ target :: second'.leaves).Perm
                  (target :: (origFirst.leaves ++ second'.leaves)) := List.perm_middle
              exact (hperm.append_left origFirst.leaves).trans hmove
          | .notFound origSecond, ⟨hsameS, hnotS⟩ =>
              subst hsameS
              exact ⟨rfl, by simp [PaneTree.leaves, hnotF, hnotS]⟩

/-- Node validation succeeds exactly on legal ratios and panes not seen before. -/
theorem validateNode_eq_ok_iff (t : PaneTree) (seen out : List PaneId) :
    validateNode t seen = .ok out ↔
      t.RatiosValid ∧ t.leaves.Nodup ∧ (∀ p ∈ t.leaves, p ∉ seen) ∧
        out = seen ++ t.leaves := by
  induction t generalizing seen out with
  | leaf pane =>
      by_cases hmem : pane ∈ seen
      · simp [validateNode, PaneTree.leaves, hmem]
      · simp [validateNode, PaneTree.leaves, hmem, PaneTree.RatiosValid, eq_comm]
  | split axis ratio first second ihF ihS =>
      by_cases hr : ratioIsValid ratio = true
      · cases hfirst : validateNode first seen with
        | error e =>
            have hnot : ∀ out', ¬ validateNode first seen = .ok out' := by
              intro out' hout
              simp [hfirst] at hout
            simp only [validateNode, hr, hfirst]
            constructor
            · intro h
              simp at h
            · rintro ⟨⟨_, hF, _⟩, hnodup, hseen, _⟩
              rw [PaneTree.leaves, List.nodup_append] at hnodup
              refine absurd ((ihF seen _).mpr ⟨hF, hnodup.1, ?_, rfl⟩) (hnot _)
              intro p hp
              exact hseen p (by simp [PaneTree.leaves, hp])
        | ok seen' =>
            obtain ⟨hF, hnodupF, hseenF, hout⟩ := (ihF seen seen').mp hfirst
            subst hout
            simp only [validateNode, hr, hfirst]
            simp only [Bool.not_true, Bool.false_eq_true, if_false]
            rw [ihS]
            simp only [PaneTree.RatiosValid, PaneTree.leaves, List.nodup_append, hr, hF,
              hnodupF, List.mem_append, not_or, List.append_assoc, true_and]
            constructor
            · rintro ⟨hS, hnodupS, hseenS, rfl⟩
              refine ⟨hS, ⟨hnodupS, ?_⟩, ?_, rfl⟩
              · rintro p hp q hq rfl
                exact (hseenS p hq).2 hp
              · rintro p (hp | hp)
                · exact hseenF p hp
                · exact (hseenS p hp).1
            · rintro ⟨hS, ⟨hnodupS, hdisj⟩, hseenB, rfl⟩
              refine ⟨hS, hnodupS, ?_, rfl⟩
              intro p hp
              exact ⟨hseenB p (Or.inr hp), fun hpF => hdisj p hpF p hp rfl⟩
      · simp [validateNode, hr, PaneTree.RatiosValid]

end Leaves

section WellFormedness

namespace WorkspaceTree

theorem panes_of_root {t : WorkspaceTree} {root : PaneTree}
    (h : t.root = some root) :
    t.panes = root.leaves := by
  simp [panes, h, PaneTree.collect_eq]

theorem panes_of_empty {t : WorkspaceTree}
    (h : t.root = none) :
    t.panes = [] := by
  simp [panes, h]

@[simp] theorem contains_iff {t : WorkspaceTree} {pane : PaneId} :
    t.contains pane = true ↔ pane ∈ t.panes := by
  simp [contains]

/-- Distinct panes, legal ratios, and a default-active pane exactly when there
are panes. -/
structure WellFormed (t : WorkspaceTree) : Prop where
  nodup : t.panes.Nodup
  ratios : ∀ root, t.root = some root → root.RatiosValid
  active_mem : ∀ pane, t.defaultActive = some pane → pane ∈ t.panes
  active_some : t.root.isSome = true → t.defaultActive.isSome = true

theorem WellFormed.new : WellFormed new :=
  ⟨by simp [panes_of_empty, WorkspaceTree.new], by simp [WorkspaceTree.new],
    by simp [WorkspaceTree.new], by simp [WorkspaceTree.new]⟩

/-- **Validation accepts exactly the well-formed trees.** -/
theorem validate_eq_ok_iff (t : WorkspaceTree) :
    t.validate = .ok () ↔ t.WellFormed := by
  cases hroot : t.root with
  | none =>
      have hpanes := panes_of_empty hroot
      constructor
      · intro h
        have hnone : t.defaultActive = none := by
          simpa [validate, hroot] using h
        exact ⟨by simp [hpanes], by simp [hroot], by simp [hnone], by simp [hroot]⟩
      · intro h
        have hnone : t.defaultActive = none := by
          cases hact : t.defaultActive with
          | none => rfl
          | some pane =>
              have hmem := h.active_mem pane hact
              simp [hpanes] at hmem
        simp [validate, hroot, hnone]
  | some root =>
      have hpanes := panes_of_root hroot
      constructor
      · intro h
        cases hnode : validateNode root [] with
        | error e => simp [validate, hroot, hnode] at h
        | ok seen =>
            obtain ⟨hratios, hnodup, _, hseen⟩ := (validateNode_eq_ok_iff root [] seen).mp hnode
            rw [List.nil_append] at hseen
            subst hseen
            cases hact : t.defaultActive with
            | none => simp [validate, hroot, hnode, hact] at h
            | some pane =>
                have hmem : pane ∈ root.leaves := by
                  simpa [validate, hroot, hnode, hact] using h
                refine ⟨by rwa [hpanes], ?_, ?_, by simp [hact]⟩
                · rintro r hr
                  rw [hroot, Option.some.injEq] at hr
                  rwa [← hr]
                · rintro p hp
                  rw [hact, Option.some.injEq] at hp
                  rwa [← hp, hpanes]
      · intro h
        have hnode : validateNode root [] = .ok root.leaves := by
          rw [validateNode_eq_ok_iff]
          exact ⟨h.ratios root hroot, hpanes ▸ h.nodup, by simp, by simp⟩
        obtain ⟨pane, hact⟩ := Option.isSome_iff_exists.mp (h.active_some (by simp [hroot]))
        have hmem : pane ∈ root.leaves := hpanes ▸ h.active_mem pane hact
        simp [validate, hroot, hnode, hact, hmem]

/-- Seeding an empty tree makes its pane the only one. -/
theorem insertRoot_of_empty {t : WorkspaceTree} (pane : PaneId)
    (h : t.root = none) :
    t.insertRoot pane = (⟨some (.leaf pane), some pane⟩, true) := by
  simp [insertRoot, h]

theorem insertRoot_of_root {t : WorkspaceTree} (pane : PaneId)
    (h : t.root.isSome = true) :
    t.insertRoot pane = (t, false) := by
  simp [insertRoot, h]

theorem WellFormed.insertRoot {t : WorkspaceTree}
    (h : t.WellFormed)
    (pane : PaneId) :
    (t.insertRoot pane).1.WellFormed := by
  cases hroot : t.root with
  | some root => simpa [WorkspaceTree.insertRoot, hroot] using h
  | none =>
      rw [insertRoot_of_empty pane hroot]
      refine ⟨?_, ?_, ?_, ?_⟩ <;> simp [panes, PaneTree.collect, PaneTree.RatiosValid]

/-- The condition under which a split goes through. -/
def CanSplit (t : WorkspaceTree) (target newPane : PaneId) (ratio : F32) : Prop :=
  ratioIsValid ratio = true ∧ newPane ∉ t.panes ∧ target ∈ t.panes

theorem split_of_not_canSplit {t : WorkspaceTree} {target newPane : PaneId}
    {axis : SplitAxis} {ratio : F32}
    (h : ¬ t.CanSplit target newPane ratio) :
    t.split target newPane axis ratio = (t, false) := by
  have hguard : (!ratioIsValid ratio || t.contains newPane || !t.contains target) = true := by
    by_contra hno
    simp only [Bool.or_eq_true, Bool.not_eq_true', not_or, Bool.not_eq_false,
      contains_iff] at hno
    exact h ⟨hno.1.1, hno.1.2, hno.2⟩
  simp [split, hguard]

/-- **A split that goes through adds the new pane and keeps the default.** -/
theorem split_of_canSplit {t : WorkspaceTree} {target newPane : PaneId} {ratio : F32}
    (h : t.CanSplit target newPane ratio)
    (axis : SplitAxis) :
    ∃ t', t.split target newPane axis ratio = (t', true) ∧
      t'.panes.Perm (newPane :: t.panes) ∧
      t'.defaultActive = t.defaultActive ∧
      (t.WellFormed → t'.WellFormed) := by
  obtain ⟨hratio, hnew, htarget⟩ := h
  cases hroot : t.root with
  | none => simp [panes_of_empty hroot] at htarget
  | some root =>
      have hpanes := panes_of_root hroot
      have htargetLeaf : target ∈ root.leaves := hpanes ▸ htarget
      obtain ⟨hfound, hperm⟩ :=
        PaneTree.splitLeaf_perm htargetLeaf newPane axis ratio
      have hvalid := fun hroot : root.RatiosValid =>
        hroot.splitLeaf hratio target newPane axis
      generalize hres : root.splitLeaf target newPane axis ratio = res at hfound hperm hvalid
      obtain ⟨root', found⟩ := res
      simp only at hfound hperm hvalid
      subst hfound
      have hpanes' : ({ t with root := some root' } : WorkspaceTree).panes = root'.leaves :=
        panes_of_root rfl
      refine ⟨{ t with root := some root' }, ?_, ?_, rfl, ?_⟩
      · simp [split, contains, hratio, hnew, htarget, hroot, hres]
      · rw [hpanes', hpanes]
        exact hperm
      · intro hwf
        refine ⟨?_, ?_, ?_, fun _ => hwf.active_some (by simp [hroot])⟩
        · rw [hpanes', hperm.nodup_iff, List.nodup_cons, ← hpanes]
          exact ⟨hnew, hwf.nodup⟩
        · rintro r hr
          rw [← Option.some.inj hr]
          exact hvalid (hwf.ratios root hroot)
        · intro pane hact
          rw [hpanes', hperm.mem_iff, ← hpanes]
          exact List.mem_cons_of_mem _ (hwf.active_mem pane hact)

theorem WellFormed.split {t : WorkspaceTree}
    (h : t.WellFormed)
    (target newPane : PaneId)
    (axis : SplitAxis)
    (ratio : F32) :
    (t.split target newPane axis ratio).1.WellFormed := by
  by_cases hcan : t.CanSplit target newPane ratio
  · obtain ⟨t', hres, _, _, hwf⟩ := split_of_canSplit hcan axis
    rw [hres]
    exact hwf h
  · rw [split_of_not_canSplit hcan]
    exact h

/-- What is left after a removal is well formed with any of its leaves in focus. -/
theorem WellFormed.removed {t : WorkspaceTree} {root rest : PaneTree} {pane active : PaneId}
    (h : t.WellFormed)
    (hroot : t.root = some root)
    (hperm : root.leaves.Perm (pane :: rest.leaves))
    (hratios : root.RatiosValid → rest.RatiosValid)
    (hactive : active ∈ rest.leaves) :
    WellFormed ⟨some rest, some active⟩ := by
  have hpanes : (⟨some rest, some active⟩ : WorkspaceTree).panes = rest.leaves :=
    panes_of_root rfl
  have hnodup : (pane :: rest.leaves).Nodup :=
    hperm.nodup_iff.mp (panes_of_root hroot ▸ h.nodup)
  refine ⟨?_, ?_, ?_, by simp⟩
  · rw [hpanes]
    exact (List.nodup_cons.mp hnodup).2
  · rintro r hr
    rw [← Option.some.inj hr]
    exact hratios (h.ratios root hroot)
  · rintro p hp
    rw [hpanes, ← Option.some.inj hp]
    exact hactive

/-- **Closing a present pane of a well-formed tree** removes that pane, keeps
well-formedness, and reports the default-active pane. -/
theorem close_of_mem {t : WorkspaceTree} {pane : PaneId}
    (h : t.WellFormed)
    (hmem : pane ∈ t.panes) :
    t.panes.Perm (pane :: (t.close pane).1.panes) ∧
      (t.close pane).1.WellFormed ∧
      (∀ next, (t.close pane).2 = .removed next →
        (t.close pane).1.defaultActive = some next) ∧
      ((t.close pane).2 = .emptied → (t.close pane).1.defaultActive = none) ∧
      (t.close pane).2 ≠ .notFound ∧
      (t.defaultActive ≠ some pane →
        (t.close pane).1.defaultActive = t.defaultActive) := by
  cases hroot : t.root with
  | none => simp [panes_of_empty hroot] at hmem
  | some root =>
      have hpanes := panes_of_root hroot
      obtain ⟨active, hactive⟩ :=
        Option.isSome_iff_exists.mp (h.active_some (by simp [hroot]))
      have hspec := removeFrom_spec pane root
      generalize hres : removeFrom pane root = res at hspec
      match res, hspec with
      | .notFound unchanged, ⟨_, hnot⟩ => exact absurd (hpanes ▸ hmem) hnot
      | .removed none, hsingle =>
          have hleaves : root.leaves = [pane] := hsingle
          have hclose : t.close pane = (⟨none, none⟩, .emptied) := by
            simp [close, hroot, hres]
          have hactivePane : active = pane := by
            have hin := h.active_mem active hactive
            simpa [hpanes, hleaves] using hin
          rw [hclose, hpanes, hleaves]
          exact ⟨by simp [panes], WellFormed.new, by simp, by simp, by simp,
            by simp [hactive, hactivePane]⟩
      | .removed (some newRoot), ⟨hperm, hratios⟩ =>
          have hleft : ∀ p, (⟨some newRoot, some p⟩ : WorkspaceTree).panes = newRoot.leaves :=
            fun p => panes_of_root rfl
          by_cases hact : t.defaultActive = some pane
          · have hclose : t.close pane =
                (⟨some newRoot, some newRoot.firstLeaf⟩, .removed newRoot.firstLeaf) := by
              simp [close, hroot, hres, hact]
            rw [hclose]
            refine ⟨?_, ?_, by simp, by simp, by simp, by simp [hact]⟩
            · rw [hleft, hpanes]
              exact hperm
            · exact h.removed hroot hperm hratios newRoot.firstLeaf_mem
          · have hne : ¬ active = pane := by
              intro heq
              exact hact (by rw [hactive, heq])
            have hclose : t.close pane =
                (⟨some newRoot, some active⟩, .removed active) := by
              simp [close, hroot, hres, hactive, hne]
            rw [hclose]
            refine ⟨?_, ?_, by simp, by simp, by simp, by simp [hactive]⟩
            · rw [hleft, hpanes]
              exact hperm
            · refine h.removed hroot hperm hratios ?_
              -- the focus was a leaf of the old tree, and not the one removed
              have hin : active ∈ root.leaves := hpanes ▸ h.active_mem active hactive
              exact (List.mem_cons.mp (hperm.mem_iff.mp hin)).resolve_left hne

/-- Closing an absent pane leaves the tree as it is. -/
theorem close_of_not_mem {t : WorkspaceTree} {pane : PaneId}
    (h : pane ∉ t.panes) :
    t.close pane = (t, .notFound) := by
  cases hroot : t.root with
  | none => simp [close, hroot]
  | some root =>
      have hspec := removeFrom_spec pane root
      have hnot : pane ∉ root.leaves := panes_of_root hroot ▸ h
      generalize hres : removeFrom pane root = res at hspec
      match res, hspec with
      | .notFound unchanged, ⟨hsame, _⟩ =>
          have hback : ({ t with root := some root } : WorkspaceTree) = t := by
            rw [← hroot]
          simp [close, hroot, hres, hsame, hback]
      | .removed none, hsingle =>
          have hleaves : root.leaves = [pane] := hsingle
          exact absurd (by simp [hleaves]) hnot
      | .removed (some rest), ⟨hperm, _⟩ =>
          exact absurd (hperm.mem_iff.mpr (by simp)) hnot

theorem WellFormed.close {t : WorkspaceTree}
    (h : t.WellFormed)
    (pane : PaneId) :
    (t.close pane).1.WellFormed := by
  by_cases hmem : pane ∈ t.panes
  · exact (close_of_mem h hmem).2.1
  · rw [close_of_not_mem hmem]
    exact h

/-- Setting a ratio keeps the panes and the default, and on failure the tree. -/
theorem resizeSplit_spec (t : WorkspaceTree) (path : List Side) (ratio : F32) :
    (t.resizeSplit path ratio).1.panes = t.panes ∧
      (t.resizeSplit path ratio).1.defaultActive = t.defaultActive ∧
      ((t.resizeSplit path ratio).2 = false → (t.resizeSplit path ratio).1 = t) ∧
      (t.WellFormed → (t.resizeSplit path ratio).1.WellFormed) := by
  by_cases hratio : ratioIsValid ratio = true
  · cases hroot : t.root with
    | none => simp [resizeSplit, hratio, hroot]
    | some root =>
        cases hset : root.nodeAtMut (PaneTree.setRatio ratio) path with
        | none => simp [resizeSplit, hratio, hroot, hset]
        | some root' =>
            have hres : t.resizeSplit path ratio = ({ t with root := some root' }, true) := by
              simp [resizeSplit, hratio, hroot, hset]
            have hpanes : ({ t with root := some root' } : WorkspaceTree).panes = t.panes := by
              rw [panes_of_root rfl, panes_of_root hroot,
                PaneTree.nodeAtMut_setRatio_leaves hset]
            rw [hres]
            refine ⟨hpanes, rfl, by simp, ?_⟩
            intro h
            refine ⟨by rw [hpanes]; exact h.nodup, ?_, ?_,
              fun _ => h.active_some (by simp [hroot])⟩
            · rintro r hr
              rw [← Option.some.inj hr]
              exact (h.ratios root hroot).nodeAtMut hratio hset
            · rintro p hp
              rw [hpanes]
              exact h.active_mem p hp
  · simp [resizeSplit, hratio]

theorem setDefaultActive_of_mem {t : WorkspaceTree} {pane : PaneId}
    (h : pane ∈ t.panes) :
    t.setDefaultActive pane = ({ t with defaultActive := some pane }, true) := by
  simp [setDefaultActive, contains, h]

theorem setDefaultActive_of_not_mem {t : WorkspaceTree} {pane : PaneId}
    (h : pane ∉ t.panes) :
    t.setDefaultActive pane = (t, false) := by
  simp [setDefaultActive, contains, h]

theorem WellFormed.setDefaultActive {t : WorkspaceTree}
    (h : t.WellFormed)
    {pane : PaneId}
    (hmem : pane ∈ t.panes) :
    ({ t with defaultActive := some pane } : WorkspaceTree).WellFormed := by
  refine ⟨h.nodup, h.ratios, ?_, fun _ => rfl⟩
  rintro p hp
  rw [← Option.some.inj hp]
  exact hmem

end WorkspaceTree

end WellFormedness

end Server
end Rttx
