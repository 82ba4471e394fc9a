import Rttx.Kernel.TransitionSystem
import Rttx.Server.PaneTree

/-!
# Edits of the pane tree

A split or a close rewrites the tree at one place and leaves the rest of it as it
is.  A frame is a split with a hole for one of its children; the frames on the way
from the root to a subtree are its context, and an edit replaces what fills a
context.

**Results.**
* `splitLeaf_plug`, `removeFrom_plug`: the recursive edits commute with a context
  that does not show their target to the left of the hole.
* `exists_context`: the first leaf of a pane fills a context.
* `treeEdits`: what a split and a close do to every tree that operations build from
  the empty one.
-/

namespace Rttx
namespace Server

open Kernel

section Contexts

theorem PaneTree.firstLeaf_head (t : PaneTree) : t.leaves.head? = some t.firstLeaf := by
  induction t with
  | leaf pane => rfl
  | split axis ratio first second ihF ihS =>
      rw [PaneTree.leaves, List.head?_append, ihF]
      rfl

theorem filter_ne_of_nodup {left right : List PaneId} {pane : PaneId}
    (h : (left ++ pane :: right).Nodup) :
    (left ++ pane :: right).filter (fun p => p ≠ pane) = left ++ right := by
  have hleft : pane ∉ left := fun hmem =>
    (List.nodup_append.mp h).2.2 pane hmem pane (by simp) rfl
  have hright : pane ∉ right := (List.nodup_cons.mp (List.nodup_append.mp h).2.1).1
  have hkept : ∀ xs : List PaneId, pane ∉ xs → xs.filter (fun p => p ≠ pane) = xs := by
    intro xs hnot
    refine List.filter_eq_self.mpr ?_
    intro p hp
    simp only [ne_eq, decide_not, Bool.not_eq_eq_eq_not, Bool.not_true, decide_eq_false_iff_not]
    rintro rfl
    exact hnot hp
  rw [List.filter_append, List.filter_cons_of_neg (by simp), hkept left hleft,
    hkept right hright]

/-- A split with a hole on one side. -/
structure Frame where
  side : Side
  axis : SplitAxis
  ratio : F32
  sibling : PaneTree
deriving DecidableEq

namespace Frame

/-- Put a subtree into the hole. -/
def fill (f : Frame) (t : PaneTree) : PaneTree :=
  match f.side with
  | .first => .split f.axis f.ratio t f.sibling
  | .second => .split f.axis f.ratio f.sibling t

/-- The leaves to the left of the hole. -/
def before (f : Frame) : List PaneId :=
  match f.side with
  | .first => []
  | .second => f.sibling.leaves

/-- The leaves to the right of the hole. -/
def after (f : Frame) : List PaneId :=
  match f.side with
  | .first => f.sibling.leaves
  | .second => []

theorem leaves_fill (f : Frame) (t : PaneTree) :
    (f.fill t).leaves = f.before ++ t.leaves ++ f.after := by
  obtain ⟨side, axis, ratio, sibling⟩ := f
  cases side <;> simp [fill, before, after, PaneTree.leaves]

theorem leaves_sibling (f : Frame) : f.sibling.leaves = f.before ++ f.after := by
  obtain ⟨side, axis, ratio, sibling⟩ := f
  cases side <;> simp [before, after]

end Frame

/-- The frames from the root down to a subtree. -/
abbrev TreeContext := List Frame

namespace TreeContext

/-- Put a subtree into the hole of the innermost frame. -/
def plug : TreeContext → PaneTree → PaneTree
  | [], t => t
  | f :: c, t => f.fill (plug c t)

/-- The leaves to the left of the hole. -/
def before : TreeContext → List PaneId
  | [] => []
  | f :: c => f.before ++ before c

/-- The leaves to the right of the hole. -/
def after : TreeContext → List PaneId
  | [] => []
  | f :: c => after c ++ f.after

theorem leaves_plug (c : TreeContext) (t : PaneTree) :
    (plug c t).leaves = before c ++ t.leaves ++ after c := by
  induction c with
  | nil => simp [plug, before, after]
  | cons f c ih => simp [plug, before, after, Frame.leaves_fill, ih]

theorem plug_append (c c' : TreeContext) (t : PaneTree) :
    plug (c ++ c') t = plug c (plug c' t) := by
  induction c with
  | nil => rfl
  | cons f c ih => rw [List.cons_append, plug, plug, ih]

theorem before_append (c c' : TreeContext) : before (c ++ c') = before c ++ before c' := by
  induction c with
  | nil => rfl
  | cons f c ih => rw [List.cons_append, before, before, ih, List.append_assoc]

end TreeContext

open TreeContext

/-- The first leaf of a pane fills a context. -/
theorem exists_context {pane : PaneId} {t : PaneTree}
    (h : pane ∈ t.leaves) :
    ∃ c : TreeContext, t = plug c (.leaf pane) ∧ pane ∉ before c := by
  induction t with
  | leaf p =>
      have heq : pane = p := by simpa [PaneTree.leaves] using h
      exact ⟨[], by rw [heq, plug], by simp [before]⟩
  | split axis ratio first second ihF ihS =>
      by_cases hin : pane ∈ first.leaves
      · obtain ⟨c, hfirst, hbefore⟩ := ihF hin
        refine ⟨⟨.first, axis, ratio, second⟩ :: c, ?_, ?_⟩
        · rw [plug, ← hfirst, Frame.fill]
        · simpa [before, Frame.before] using hbefore
      · have hsecond : pane ∈ second.leaves := by simpa [PaneTree.leaves, hin] using h
        obtain ⟨c, hc, hbefore⟩ := ihS hsecond
        refine ⟨⟨.second, axis, ratio, first⟩ :: c, ?_, ?_⟩
        · rw [plug, ← hc, Frame.fill]
        · simpa [before, Frame.before, hin] using hbefore

/-- A split inside a context is the split of what fills it. -/
theorem splitLeaf_plug {target newPane : PaneId} {axis : SplitAxis} {ratio : F32}
    {c : TreeContext} {t t' : PaneTree}
    (hbefore : target ∉ before c)
    (h : t.splitLeaf target newPane axis ratio = (t', true)) :
    (plug c t).splitLeaf target newPane axis ratio = (plug c t', true) := by
  induction c with
  | nil => exact h
  | cons f c ih =>
      obtain ⟨side, a, r, sibling⟩ := f
      simp only [before, List.mem_append, not_or] at hbefore
      have hinner := ih hbefore.2
      cases side with
      | first => simp [plug, Frame.fill, PaneTree.splitLeaf, hinner]
      | second =>
          have hsibling : target ∉ sibling.leaves := hbefore.1
          simp [plug, Frame.fill, PaneTree.splitLeaf, hinner,
            PaneTree.splitLeaf_of_not_mem hsibling]

theorem removeFrom_of_not_mem {target : PaneId} {t : PaneTree}
    (h : target ∉ t.leaves) :
    removeFrom target t = .notFound t := by
  have hspec := removeFrom_spec target t
  cases hres : removeFrom target t with
  | notFound unchanged =>
      rw [hres] at hspec
      rw [hspec.1]
  | removed rest =>
      rw [hres] at hspec
      cases rest with
      | none =>
          have hleaves : t.leaves = [target] := hspec
          exact absurd (by simp [hleaves]) h
      | some rest => exact absurd (hspec.1.mem_iff.mpr (by simp)) h

/-- A removal inside a context is the removal from what fills it. -/
theorem removeFrom_plug {target : PaneId} {c : TreeContext} {t rest : PaneTree}
    (hbefore : target ∉ before c)
    (h : removeFrom target t = .removed (some rest)) :
    removeFrom target (plug c t) = .removed (some (plug c rest)) := by
  induction c with
  | nil => exact h
  | cons f c ih =>
      obtain ⟨side, a, r, sibling⟩ := f
      simp only [before, List.mem_append, not_or] at hbefore
      have hinner := ih hbefore.2
      cases side with
      | first => simp [plug, Frame.fill, removeFrom, hinner]
      | second =>
          have hsibling : target ∉ sibling.leaves := hbefore.1
          simp [plug, Frame.fill, removeFrom, hinner, removeFrom_of_not_mem hsibling]

/-- Removing one of the two children of a split leaves the other. -/
theorem removeFrom_fill {target : PaneId} {f : Frame}
    (hbefore : target ∉ f.before) :
    removeFrom target (f.fill (.leaf target)) = .removed (some f.sibling) := by
  obtain ⟨side, a, r, sibling⟩ := f
  cases side with
  | first => simp [Frame.fill, removeFrom]
  | second =>
      have hsibling : target ∉ sibling.leaves := hbefore
      simp [Frame.fill, removeFrom, removeFrom_of_not_mem hsibling]

end Contexts

section Operations

/-- The operations on a workspace tree. -/
inductive TreeOp
  | insertRoot (pane : PaneId)
  | split (target newPane : PaneId) (axis : SplitAxis) (ratio : F32)
  | close (pane : PaneId)
  | resizeSplit (path : List Side) (ratio : F32)
  | setDefaultActive (pane : PaneId)
deriving DecidableEq

/-- The tree after an operation, and whether the operation was carried out. -/
def WorkspaceTree.perform (t : WorkspaceTree) : TreeOp → WorkspaceTree × Bool
  | .insertRoot pane => t.insertRoot pane
  | .split target newPane axis ratio => t.split target newPane axis ratio
  | .close pane => ((t.close pane).1, (t.close pane).2 ≠ .notFound)
  | .resizeSplit path ratio => t.resizeSplit path ratio
  | .setDefaultActive pane => t.setDefaultActive pane

/-- The trees that operations build from the empty one. -/
def treeSystem : System WorkspaceTree TreeOp where
  init t := t = .new
  next t op := some (t.perform op).1

namespace WorkspaceTree

theorem WellFormed.perform {t : WorkspaceTree}
    (h : t.WellFormed)
    (op : TreeOp) :
    (t.perform op).1.WellFormed := by
  cases op with
  | insertRoot pane => exact h.insertRoot pane
  | split target newPane axis ratio => exact h.split target newPane axis ratio
  | close pane => exact h.close pane
  | resizeSplit path ratio => exact (resizeSplit_spec t path ratio).2.2.2 h
  | setDefaultActive pane =>
      simp only [WorkspaceTree.perform]
      by_cases hmem : pane ∈ t.panes
      · rw [setDefaultActive_of_mem hmem]
        exact h.setDefaultActive hmem
      · rw [setDefaultActive_of_not_mem hmem]
        exact h

/-- Every tree that operations build is well formed. -/
theorem wellFormed_of_reachable {t : WorkspaceTree}
    (h : treeSystem.Reachable t) :
    t.WellFormed := by
  refine h.invariant ?_ ?_
  · intro t hinit
    rw [show t = .new from hinit]
    exact WellFormed.new
  · intro t op t' hwf hnext
    rw [← Option.some.inj hnext]
    exact hwf.perform op

/-- A close misses exactly the panes that are not there. -/
theorem close_notFound_iff (t : WorkspaceTree) (pane : PaneId) :
    (t.close pane).2 = .notFound ↔ pane ∉ t.panes := by
  constructor
  · intro h
    cases hroot : t.root with
    | none => simp [panes_of_empty hroot]
    | some root =>
        rw [panes_of_root hroot]
        have hspec := removeFrom_spec pane root
        cases hres : removeFrom pane root with
        | notFound unchanged =>
            rw [hres] at hspec
            exact hspec.2
        | removed rest => cases rest <;> simp [close, hroot, hres] at h
  · intro h
    rw [close_of_not_mem h]

/-- An operation that is not carried out leaves the tree as it is. -/
theorem perform_refused {t : WorkspaceTree} {op : TreeOp}
    (h : (t.perform op).2 = false) :
    (t.perform op).1 = t := by
  cases op with
  | insertRoot pane =>
      cases hroot : t.root with
      | none => simp [perform, insertRoot_of_empty pane hroot] at h
      | some root => rw [perform, insertRoot_of_root pane (by simp [hroot])]
  | split target newPane axis ratio =>
      by_cases hcan : t.CanSplit target newPane ratio
      · obtain ⟨t', hres, _⟩ := split_of_canSplit hcan axis
        simp [perform, hres] at h
      · rw [perform, split_of_not_canSplit hcan]
  | close pane =>
      have hmissed : (t.close pane).2 = .notFound := by simpa [perform] using h
      rw [perform, close_of_not_mem ((close_notFound_iff t pane).mp hmissed)]
  | resizeSplit path ratio => exact (resizeSplit_spec t path ratio).2.2.1 h
  | setDefaultActive pane =>
      by_cases hmem : pane ∈ t.panes
      · simp [perform, setDefaultActive_of_mem hmem] at h
      · rw [perform, setDefaultActive_of_not_mem hmem]

end WorkspaceTree

end Operations

section Edits

open TreeContext

/-- What a split of the leaf of `target` does to a tree. -/
structure SplitsInPlace (t : WorkspaceTree) (target newPane : PaneId) (axis : SplitAxis)
    (ratio : F32) : Prop where
  accepted : (t.split target newPane axis ratio).2 = true ↔
    ratioIsValid ratio = true ∧ target ∈ t.panes ∧ newPane ∉ t.panes
  inserted : (t.split target newPane axis ratio).2 = true →
    ∃ left right, t.panes = left ++ target :: right ∧
      (t.split target newPane axis ratio).1.panes = left ++ target :: newPane :: right
  elsewhere : (t.split target newPane axis ratio).2 = true →
    ∃ c : TreeContext, t.root = some (plug c (.leaf target)) ∧
      (t.split target newPane axis ratio).1.root =
        some (plug c (.split axis ratio (.leaf target) (.leaf newPane)))
  focus : (t.split target newPane axis ratio).1.defaultActive = t.defaultActive
  undone : (t.split target newPane axis ratio).2 = true →
    ((t.split target newPane axis ratio).1.close newPane).1 = t

/-- What closing a pane of a tree does to it: the split above the leaf goes, with the
leaf, and its other child takes its place. -/
structure ClosesInPlace (t : WorkspaceTree) (pane : PaneId) : Prop where
  found : (t.close pane).2 ≠ .notFound
  removed : (t.close pane).1.panes = t.panes.filter (fun p => p ≠ pane)
  elsewhere : (t.root = some (.leaf pane) ∧ (t.close pane).1.root = none) ∨
    ∃ (c : TreeContext) (f : Frame), t.root = some (plug c (f.fill (.leaf pane))) ∧
      (t.close pane).1.root = some (plug c f.sibling)
  focus : (t.close pane).1.defaultActive =
    if t.defaultActive = some pane then (t.close pane).1.panes.head? else t.defaultActive

namespace WorkspaceTree

/-- The tree after a split that goes through. -/
theorem split_plug {t : WorkspaceTree} {target newPane : PaneId} {ratio : F32} {c : TreeContext}
    (h : t.CanSplit target newPane ratio)
    (hroot : t.root = some (plug c (.leaf target)))
    (hbefore : target ∉ before c)
    (axis : SplitAxis) :
    t.split target newPane axis ratio =
      ({ t with root := some (plug c (.split axis ratio (.leaf target) (.leaf newPane))) },
        true) := by
  obtain ⟨hratio, hnew, htarget⟩ := h
  have hleaf : PaneTree.splitLeaf target newPane axis ratio (.leaf target) =
      (.split axis ratio (.leaf target) (.leaf newPane), true) := by
    simp [PaneTree.splitLeaf]
  simp [split, contains, hratio, hnew, htarget, hroot, splitLeaf_plug hbefore hleaf]

/-- The tree after its only pane is closed. -/
theorem close_leaf {t : WorkspaceTree} {pane : PaneId}
    (hroot : t.root = some (.leaf pane)) :
    t.close pane = (⟨none, none⟩, .emptied) := by
  simp [close, hroot, removeFrom]

/-- The tree after a pane next to others is closed. -/
theorem close_plug {t : WorkspaceTree} {pane : PaneId} {c : TreeContext} {f : Frame}
    (hroot : t.root = some (plug c (f.fill (.leaf pane))))
    (hbefore : pane ∉ before c)
    (hframe : pane ∉ f.before) :
    (t.close pane).1 =
      ⟨some (plug c f.sibling),
        some (if t.defaultActive = some pane then (plug c f.sibling).firstLeaf
          else t.defaultActive.getD (plug c f.sibling).firstLeaf)⟩ ∧
      (t.close pane).2 ≠ .notFound := by
  have hremoved := removeFrom_plug hbefore (removeFrom_fill hframe)
  simp [close, hroot, hremoved]

theorem WellFormed.splitsInPlace {t : WorkspaceTree}
    (h : t.WellFormed)
    (target newPane : PaneId)
    (axis : SplitAxis)
    (ratio : F32) :
    SplitsInPlace t target newPane axis ratio := by
  by_cases hcan : t.CanSplit target newPane ratio
  · obtain ⟨root, hroot⟩ : ∃ root, t.root = some root := by
      cases hroot : t.root with
      | none => exact absurd hcan.2.2 (by simp [panes_of_empty hroot])
      | some root => exact ⟨root, rfl⟩
    have htarget : target ∈ root.leaves := panes_of_root hroot ▸ hcan.2.2
    obtain ⟨c, rfl, hbefore⟩ := exists_context htarget
    have hsplit := split_plug hcan hroot hbefore axis
    have hpanes : t.panes = before c ++ target :: after c := by
      rw [panes_of_root hroot, leaves_plug]
      simp [PaneTree.leaves]
    have hpanes' : (t.split target newPane axis ratio).1.panes =
        before c ++ target :: newPane :: after c := by
      rw [hsplit, panes_of_root rfl, leaves_plug]
      simp [PaneTree.leaves]
    refine ⟨?_, fun _ => ⟨_, _, hpanes, hpanes'⟩, fun _ => ⟨c, hroot, by rw [hsplit]⟩,
      by rw [hsplit], fun _ => ?_⟩
    · rw [hsplit]
      exact ⟨fun _ => ⟨hcan.1, hcan.2.2, hcan.2.1⟩, fun _ => rfl⟩
    · -- the new leaf is the second child of a frame that holds the target
      have hnew : newPane ∉ before c ∧ newPane ≠ target := by
        have hnot := hcan.2.1
        rw [hpanes] at hnot
        simp only [List.mem_append, List.mem_cons, not_or] at hnot
        exact ⟨hnot.1, hnot.2.1⟩
      have hactive : t.defaultActive ≠ some newPane := fun heq =>
        hcan.2.1 (h.active_mem newPane heq)
      obtain ⟨active, hsome⟩ :=
        Option.isSome_iff_exists.mp (h.active_some (by rw [hroot]; rfl))
      have hroot' : (t.split target newPane axis ratio).1.root =
          some (plug c (Frame.fill ⟨.second, axis, ratio, .leaf target⟩ (.leaf newPane))) := by
        rw [hsplit]
        rfl
      have hframe : newPane ∉ Frame.before ⟨.second, axis, ratio, .leaf target⟩ := by
        simpa [Frame.before, PaneTree.leaves] using hnew.2
      have hclose := (close_plug hroot' hnew.1 hframe).1
      rw [hclose, hsplit]
      simp only [hactive, if_false]
      rw [hsome, Option.getD_some, ← hsome, ← hroot]
  · have hsplit : t.split target newPane axis ratio = (t, false) := split_of_not_canSplit hcan
    refine ⟨?_, ?_, ?_, by rw [hsplit], ?_⟩
    · rw [hsplit]
      refine ⟨by simp, fun hall => absurd ⟨hall.1, hall.2.2, hall.2.1⟩ hcan⟩
    · simp [hsplit]
    · simp [hsplit]
    · simp [hsplit]

theorem WellFormed.closesInPlace {t : WorkspaceTree} {pane : PaneId}
    (h : t.WellFormed)
    (hmem : pane ∈ t.panes) :
    ClosesInPlace t pane := by
  obtain ⟨root, hroot⟩ : ∃ root, t.root = some root := by
    cases hroot : t.root with
    | none => exact absurd hmem (by simp [panes_of_empty hroot])
    | some root => exact ⟨root, rfl⟩
  obtain ⟨active, hsome⟩ := Option.isSome_iff_exists.mp (h.active_some (by rw [hroot]; rfl))
  obtain ⟨c, rfl, hbefore⟩ := exists_context (panes_of_root hroot ▸ hmem)
  rcases List.eq_nil_or_concat c with rfl | ⟨c, f, rfl⟩
  · have hclose := close_leaf hroot
    have hpanes : t.panes = [pane] := panes_of_root hroot
    have hactive : t.defaultActive = some pane := by
      have hin := h.active_mem active hsome
      rw [hpanes, List.mem_singleton] at hin
      rw [hsome, hin]
    refine ⟨by rw [hclose]; simp, ?_, Or.inl ⟨hroot, by rw [hclose]⟩, ?_⟩
    · rw [hclose, hpanes]
      simp [panes]
    · rw [hclose, if_pos hactive]
      rfl
  · rw [List.concat_eq_append, plug_append, plug, plug] at hroot
    rw [List.concat_eq_append, before_append, before, before, List.append_nil, List.mem_append,
      not_or] at hbefore
    obtain ⟨hclose, hfound⟩ := close_plug hroot hbefore.1 hbefore.2
    have hpanes : t.panes = (before c ++ f.before) ++ pane :: (f.after ++ after c) := by
      rw [panes_of_root hroot, leaves_plug, Frame.leaves_fill]
      simp [PaneTree.leaves]
    have hpanes' : (t.close pane).1.panes = (before c ++ f.before) ++ (f.after ++ after c) := by
      rw [hclose, panes_of_root rfl, leaves_plug, Frame.leaves_sibling]
      simp
    refine ⟨hfound, ?_, Or.inr ⟨c, f, hroot, by rw [hclose]⟩, ?_⟩
    · rw [hpanes', hpanes, filter_ne_of_nodup (hpanes ▸ h.nodup)]
    · have hhead : (t.close pane).1.panes.head? = some (plug c f.sibling).firstLeaf := by
        rw [hclose, panes_of_root rfl, PaneTree.firstLeaf_head]
      rw [hhead, hclose, hsome, Option.getD_some]
      split <;> rfl

/-- **What a split and a close do to every tree that operations build**: a split that
is accepted adds one leaf next to its target, a close takes one leaf away, and the
context of the edit, with its order, axes and ratios, stays as it is. -/
theorem treeEdits {t : WorkspaceTree}
    (h : treeSystem.Reachable t) :
    (∀ target newPane axis ratio, SplitsInPlace t target newPane axis ratio) ∧
      (∀ pane ∈ t.panes, ClosesInPlace t pane) ∧
      ∀ op, (t.perform op).2 = false → (t.perform op).1 = t := by
  have hwf := wellFormed_of_reachable h
  exact ⟨hwf.splitsInPlace, fun _ => hwf.closesInPlace, fun _ => perform_refused⟩

/-- The edits of a tree with two panes. -/
theorem treeEdits_twoPanes :
    ∃ t, treeSystem.Reachable t ∧ t.panes = [⟨1⟩, ⟨2⟩] ∧
      SplitsInPlace t ⟨1⟩ ⟨3⟩ .vertical F32.half ∧ ClosesInPlace t ⟨2⟩ := by
  obtain ⟨t, hreach, hpanes⟩ := System.exists_reachable (S := treeSystem)
    (p := fun t => t.panes = [⟨1⟩, ⟨2⟩])
    [.insertRoot ⟨1⟩, .split ⟨1⟩ ⟨2⟩ .horizontal F32.half] rfl (by decide +kernel)
  obtain ⟨hsplits, hcloses, _⟩ := treeEdits hreach
  exact ⟨t, hreach, hpanes, hsplits _ _ _ _, hcloses _ (by simp [hpanes])⟩

end WorkspaceTree

end Edits

end Server
end Rttx
