import Rttx.Server.SampleTerminal
import Rttx.Server.WorkspaceOp

/-!
# Panes, tree and focus stay in step

A workspace holds its panes twice, as a map and as the leaves of its tree, and
its focus twice, as the active pane and as the tree's default.  Coherence says
that both pairs agree and that the tree is well formed.  It is inductive
without any further strengthening: that the tree has a default-active pane
whenever it has a root is part of well-formedness, and closing the focused
pane needs it.

**Results.**
* `Coherent.apply`: every operation keeps coherence.
* `pane_structure_coherent`: coherence of every reachable workspace, and that
  refused structural operations change nothing.
-/

namespace Rttx
namespace Server

open Kernel

universe u v

namespace Workspace

section Coherence

variable {P : Type u} {G : Type v}

/-- The pane map, the tree and the two focus fields agree. -/
structure Coherent (w : Workspace P G) : Prop where
  tree : w.tree.WellFormed
  keys : ∀ id, id ∈ w.panes ↔ PaneId.fromUuid id ∈ w.tree.panes
  focus : w.activePaneId = w.tree.defaultActive.map PaneId.uuid

/-- Coherence depends on the structure only. -/
theorem Coherent.of_sameStructure {w w' : Workspace P G}
    (h : w.Coherent)
    (hsame : w.SameStructure w') :
    w'.Coherent := by
  refine ⟨by rw [hsame.tree]; exact h.tree, ?_, ?_⟩
  · intro id
    rw [hsame.keys id, hsame.tree]
    exact h.keys id
  · rw [hsame.focus, hsame.tree]
    exact h.focus

theorem Coherent.bumpRevision {w : Workspace P G}
    (h : w.Coherent) :
    w.bumpRevision.Coherent :=
  ⟨h.tree, h.keys, h.focus⟩

/-- A map with one more key against a tree with one more leaf. -/
theorem keys_insert_of_perm {w : Workspace P G} {tree : WorkspaceTree} {id : Uuid}
    (h : w.Coherent)
    (pane : Pane P G)
    (hperm : tree.panes.Perm (.fromUuid id :: w.tree.panes)) :
    ∀ k, k ∈ w.panes.insert id pane ↔ PaneId.fromUuid k ∈ tree.panes := by
  intro k
  rw [AList.mem_insert, hperm.mem_iff, List.mem_cons, h.keys k, PaneId.fromUuid.injEq]

theorem Coherent.focus_none {w : Workspace P G}
    (h : w.Coherent)
    (hroot : w.tree.root = none) :
    w.activePaneId = none := by
  have hpanes := WorkspaceTree.panes_of_empty hroot
  cases hact : w.tree.defaultActive with
  | none => simpa [hact] using h.focus
  | some pane =>
      have hmem := h.tree.active_mem pane hact
      simp [hpanes] at hmem

/-- The focused pane of a workspace with panes. -/
theorem Coherent.focus_some {w : Workspace P G}
    (h : w.Coherent)
    (hroot : w.tree.root.isSome = true) :
    ∃ active, w.activePaneId = some active ∧
      w.tree.defaultActive = some (.fromUuid active) ∧
      PaneId.fromUuid active ∈ w.tree.panes := by
  obtain ⟨pane, hact⟩ := Option.isSome_iff_exists.mp (h.tree.active_some hroot)
  refine ⟨pane.uuid, ?_, hact, h.tree.active_mem pane hact⟩
  simpa [hact] using h.focus

/-- Placing a pane that the tree already holds leaves the tree as it is. -/
theorem placePane_of_mem {tree : WorkspaceTree} {newPane : PaneId}
    (active : Option PaneId)
    (hmem : newPane ∈ tree.panes) :
    placePane tree active newPane = tree := by
  have hroot : tree.root.isSome = true := by
    cases hroot : tree.root with
    | some root => rfl
    | none => simp [WorkspaceTree.panes_of_empty hroot] at hmem
  have hrefused : ∀ target,
      tree.split target newPane defaultSplitAxis defaultSplitRatio = (tree, false) :=
    fun target => WorkspaceTree.split_of_not_canSplit (fun hcan => hcan.2.1 hmem)
  simp only [placePane, WorkspaceTree.insertRoot_of_root _ hroot, hrefused]
  split <;> rfl

/-- Adding a pane to an empty workspace. -/
theorem Coherent.addPane_of_empty {w : Workspace P G}
    (h : w.Coherent)
    (hroot : w.tree.root = none)
    (pane : Pane P G) :
    (w.addPane pane).Coherent := by
  have hfocus := h.focus_none hroot
  have hpanes := WorkspaceTree.panes_of_empty hroot
  have htree : placePane w.tree (w.activePaneId.map PaneId.fromUuid) (.fromUuid pane.id) =
      ⟨some (.leaf (.fromUuid pane.id)), some (.fromUuid pane.id)⟩ := by
    simp [placePane, WorkspaceTree.insertRoot_of_empty _ hroot]
  have hwf := h.tree.insertRoot (.fromUuid pane.id)
  rw [WorkspaceTree.insertRoot_of_empty _ hroot] at hwf
  have hperm : (⟨some (.leaf (.fromUuid pane.id)), some (.fromUuid pane.id)⟩ :
      WorkspaceTree).panes.Perm (.fromUuid pane.id :: w.tree.panes) := by
    rw [hpanes]
    exact List.Perm.refl _
  have hkeys := keys_insert_of_perm h pane hperm
  unfold addPane
  simp only [insertPaneIntoTree, hfocus, Option.isNone_none, if_true]
  rw [hfocus] at htree
  rw [htree]
  exact ⟨hwf, hkeys, rfl⟩

/-- Adding a pane to a workspace with panes splits the focused one, unless the
new id is in the tree already. -/
theorem Coherent.addPane_of_root {w : Workspace P G}
    (h : w.Coherent)
    (hroot : w.tree.root.isSome = true)
    (pane : Pane P G) :
    (w.addPane pane).Coherent := by
  obtain ⟨active, hactive, hdefault, hmem⟩ := h.focus_some hroot
  have hplace : placePane w.tree (w.activePaneId.map PaneId.fromUuid) (.fromUuid pane.id) =
      (w.tree.split (.fromUuid active) (.fromUuid pane.id)
        defaultSplitAxis defaultSplitRatio).1 := by
    simp [placePane, WorkspaceTree.insertRoot_of_root _ hroot, hactive, Option.filter,
      WorkspaceTree.contains_iff.mpr hmem]
  unfold addPane
  simp only [insertPaneIntoTree, hactive, Option.isNone_some, Bool.false_eq_true, if_false]
  by_cases hnew : PaneId.fromUuid pane.id ∈ w.tree.panes
  · rw [placePane_of_mem _ hnew]
    refine ⟨h.tree, ?_, hactive.symm.trans h.focus⟩
    intro k
    simp only [bumpRevision_panes, bumpRevision_tree, AList.mem_insert, h.keys k]
    constructor
    · rintro (heq | hin)
      · exact heq ▸ hnew
      · exact hin
    · exact Or.inr
  · have hcan : w.tree.CanSplit (.fromUuid active) (.fromUuid pane.id) defaultSplitRatio :=
      ⟨by decide, hnew, hmem⟩
    obtain ⟨tree, hsplit, hperm, hkeep, hwf⟩ :=
      WorkspaceTree.split_of_canSplit hcan defaultSplitAxis
    rw [hactive] at hplace
    rw [hplace, hsplit]
    refine ⟨hwf h.tree, keys_insert_of_perm h pane hperm, ?_⟩
    exact hactive.symm.trans (h.focus.trans (congrArg (Option.map PaneId.uuid) hkeep.symm))

theorem Coherent.addPane {w : Workspace P G}
    (h : w.Coherent)
    (pane : Pane P G) :
    (w.addPane pane).Coherent := by
  cases hroot : w.tree.root with
  | none => exact h.addPane_of_empty hroot pane
  | some root => exact h.addPane_of_root (by simp [hroot]) pane

/-- What a split request does: it goes through and adds one pane, or it is
refused and changes nothing. -/
theorem splitPane_cases (w : Workspace P G) (target : Uuid) (pane : Pane P G)
    (axis : SplitAxis) (ratio : F32) :
    (w.splitPane target pane axis ratio = (none, w)) ∨
      ∃ tree, w.tree.CanSplit (.fromUuid target) (.fromUuid pane.id) ratio ∧
        w.tree.split (.fromUuid target) (.fromUuid pane.id) axis ratio = (tree, true) ∧
        (w.splitPane target pane axis ratio).1.isSome = true ∧
        (w.splitPane target pane axis ratio).2 =
          ({ w with
              tree := tree
              activePaneId := w.activePaneId.or (some pane.id)
              panes := w.panes.insert pane.id pane } : Workspace P G).bumpRevision := by
  by_cases hcan : w.tree.CanSplit (.fromUuid target) (.fromUuid pane.id) ratio
  · right
    obtain ⟨tree, hsplit, _, _, _⟩ := WorkspaceTree.split_of_canSplit hcan axis
    refine ⟨tree, hcan, hsplit, ?_, ?_⟩
    · simp [splitPane, hsplit]
    · cases hact : w.activePaneId with
      | none => simp [splitPane, hsplit, hact]
      | some active => simp [splitPane, hsplit, hact]
  · left
    simp [splitPane, WorkspaceTree.split_of_not_canSplit hcan]

theorem Coherent.splitPane {w : Workspace P G}
    (h : w.Coherent)
    (target : Uuid)
    (pane : Pane P G)
    (axis : SplitAxis)
    (ratio : F32) :
    (w.splitPane target pane axis ratio).2.Coherent := by
  rcases splitPane_cases w target pane axis ratio with hnone | ⟨tree, hcan, hsplit, _, hres⟩
  · rw [hnone]
    exact h
  · obtain ⟨tree', hsplit', hperm, hkeep, hwf⟩ := WorkspaceTree.split_of_canSplit hcan axis
    have hsame : tree' = tree := by
      rw [hsplit] at hsplit'
      exact (Prod.mk.inj hsplit').1.symm
    subst hsame
    have hroot : w.tree.root.isSome = true := by
      cases hroot : w.tree.root with
      | some root => rfl
      | none =>
          have htarget := hcan.2.2
          simp [WorkspaceTree.panes_of_empty hroot] at htarget
    obtain ⟨active, hactive, _, _⟩ := h.focus_some hroot
    rw [hres]
    refine ⟨hwf h.tree, keys_insert_of_perm h pane hperm, ?_⟩
    simp only [bumpRevision_activePaneId, bumpRevision_tree, hkeep, hactive, Option.some_or]
    exact hactive.symm.trans h.focus

/-- What closing a pane does: the pane is known and goes, or nothing changes. -/
theorem removePane_cases (w : Workspace P G) (paneId : Uuid) :
    (paneId ∉ w.panes ∧ w.removePane paneId = (none, w)) ∨
      ∃ pane, w.panes.lookup paneId = some pane ∧
        (w.removePane paneId).1 = some pane ∧
        (w.removePane paneId).2 =
          ({ w with
              panes := w.panes.erase paneId
              tree := (w.tree.close (.fromUuid paneId)).1
              activePaneId :=
                if w.activePaneId = some paneId then
                  (w.tree.close (.fromUuid paneId)).2.focus
                else w.activePaneId } : Workspace P G).bumpRevision := by
  cases hpane : w.panes.lookup paneId with
  | none =>
      left
      exact ⟨AList.lookup_eq_none.mp hpane, by simp [removePane, hpane]⟩
  | some pane =>
      right
      refine ⟨pane, rfl, by simp [removePane, hpane], ?_⟩
      by_cases hact : w.activePaneId = some paneId
      · simp [removePane, hpane, hact]
      · simp [removePane, hpane, hact]

theorem Coherent.removePane {w : Workspace P G}
    (h : w.Coherent)
    (paneId : Uuid) :
    (w.removePane paneId).2.Coherent := by
  rcases removePane_cases w paneId with ⟨_, hnone⟩ | ⟨pane, hpane, _, hres⟩
  · rw [hnone]
    exact h
  · have hkey : paneId ∈ w.panes := by
      rw [← AList.lookup_isSome, hpane]
      rfl
    have hleaf : PaneId.fromUuid paneId ∈ w.tree.panes := (h.keys paneId).mp hkey
    obtain ⟨hperm, hwf, hnext, hempty, hfound, hkeep⟩ :=
      WorkspaceTree.close_of_mem h.tree hleaf
    have hnodup := hperm.nodup_iff.mp h.tree.nodup
    rw [List.nodup_cons] at hnodup
    rw [hres]
    refine ⟨hwf, ?_, ?_⟩
    · intro k
      simp only [bumpRevision_panes, bumpRevision_tree, AList.mem_erase, h.keys k,
        hperm.mem_iff, List.mem_cons, PaneId.fromUuid.injEq]
      constructor
      · rintro ⟨hne, heq | hin⟩
        · exact absurd heq hne
        · exact hin
      · intro hin
        refine ⟨?_, Or.inr hin⟩
        rintro rfl
        exact hnodup.1 hin
    · simp only [bumpRevision_activePaneId, bumpRevision_tree]
      by_cases hact : w.activePaneId = some paneId
      · rw [if_pos hact]
        cases hout : (w.tree.close (.fromUuid paneId)).2 with
        | removed next => simp [hnext next hout, CloseOutcome.focus]
        | emptied => simp [hempty hout, CloseOutcome.focus]
        | notFound => exact absurd hout hfound
      · rw [if_neg hact]
        have hdefault : w.tree.defaultActive ≠ some (.fromUuid paneId) := by
          intro heq
          exact hact (by simpa [heq] using h.focus)
        rw [hkeep hdefault]
        exact h.focus

/-- A ratio request that goes through changes the tree only. -/
theorem resizeSplit_cases (w : Workspace P G) (path : List Side) (ratio : F32) :
    (w.resizeSplit path ratio = (none, w)) ∨
      ((w.resizeSplit path ratio).1.isSome = true ∧
        (w.resizeSplit path ratio).2 =
          ({ w with tree := (w.tree.resizeSplit path ratio).1 } : Workspace P G).bumpRevision) := by
  generalize hres : w.tree.resizeSplit path ratio = res
  obtain ⟨tree, ok⟩ := res
  cases ok with
  | true => exact Or.inr ⟨by simp [resizeSplit, hres], by simp [resizeSplit, hres]⟩
  | false => exact Or.inl (by simp [resizeSplit, hres])

theorem Coherent.resizeSplit {w : Workspace P G}
    (h : w.Coherent)
    (path : List Side)
    (ratio : F32) :
    (w.resizeSplit path ratio).2.Coherent := by
  rcases resizeSplit_cases w path ratio with hnone | ⟨_, hres⟩
  · rw [hnone]
    exact h
  · obtain ⟨hpanes, hdefault, _, hwf⟩ := w.tree.resizeSplit_spec path ratio
    rw [hres]
    refine ⟨hwf h.tree, ?_, ?_⟩
    · intro k
      simp only [bumpRevision_panes, bumpRevision_tree, hpanes]
      exact h.keys k
    · simp only [bumpRevision_activePaneId, bumpRevision_tree, hdefault]
      exact h.focus

theorem setDefaultActivePane_cases (w : Workspace P G) (paneId : Uuid) :
    (w.setDefaultActivePane paneId = (none, w)) ∨
      (PaneId.fromUuid paneId ∈ w.tree.panes ∧
        (w.setDefaultActivePane paneId).1.isSome = true ∧
        (w.setDefaultActivePane paneId).2 =
          ({ w with
              tree := { w.tree with defaultActive := some (.fromUuid paneId) }
              activePaneId := some paneId } : Workspace P G).bumpRevision) := by
  by_cases hmem : PaneId.fromUuid paneId ∈ w.tree.panes
  · right
    have hset := WorkspaceTree.setDefaultActive_of_mem hmem
    exact ⟨hmem, by simp [setDefaultActivePane, hset], by simp [setDefaultActivePane, hset]⟩
  · left
    simp [setDefaultActivePane, WorkspaceTree.setDefaultActive_of_not_mem hmem]

theorem Coherent.setDefaultActivePane {w : Workspace P G}
    (h : w.Coherent)
    (paneId : Uuid) :
    (w.setDefaultActivePane paneId).2.Coherent := by
  rcases setDefaultActivePane_cases w paneId with hnone | ⟨hmem, _, hres⟩
  · rw [hnone]
    exact h
  · rw [hres]
    exact ⟨h.tree.setDefaultActive hmem, h.keys, rfl⟩

end Coherence

section Frames

variable {P : Type u} {G : Type v}

theorem ChangesClients.sameStructure {w w' : Workspace P G}
    (h : w.ChangesClients w') :
    w.SameStructure w' := by
  obtain ⟨_, _, _, rfl⟩ := h
  exact ⟨rfl, rfl, fun _ => Iff.rfl⟩

theorem ChangesName.sameStructure {w w' : Workspace P G}
    (h : w.ChangesName w') :
    w.SameStructure w' := by
  obtain ⟨_, _, _, rfl⟩ := h
  exact ⟨rfl, rfl, fun _ => Iff.rfl⟩

end Frames

section Runs

variable {P : Type u} {G : Type v}
variable [VteParser P] [Vt100Parser G]

omit [VteParser P] [Vt100Parser G] in
theorem Coherent.of_isFresh {w : Workspace P G}
    (h : w.IsFresh) :
    w.Coherent := by
  obtain ⟨id, name, now, policy, rfl⟩ := h
  refine ⟨WorkspaceTree.WellFormed.new, ?_, rfl⟩
  intro k
  simp [new, WorkspaceTree.new, WorkspaceTree.panes, AList.notMem_empty]

/-- **Step lemma.** Every operation keeps coherence. -/
theorem Coherent.apply {w : Workspace P G}
    (h : w.Coherent)
    (op : WorkspaceOp P G) :
    (w.apply op).Coherent := by
  cases op with
  | addPane pane => exact h.addPane pane
  | splitPane target pane axis ratio => exact h.splitPane target pane axis ratio
  | removePane paneId => exact h.removePane paneId
  | resizeSplit path ratio => exact h.resizeSplit path ratio
  | setDefaultActivePane paneId => exact h.setDefaultActivePane paneId
  | attachClient clientId mode now =>
      exact h.of_sameStructure (attachClient_effect w clientId mode now).sameStructure
  | detachClient clientId reason =>
      exact h.of_sameStructure (detachClient_effect w clientId reason).sameStructure
  | setAutoName name => exact h.of_sameStructure (setAutoName_effect w name).sameStructure
  | refreshAutoName proc => exact h.of_sameStructure (refreshAutoName_frame w proc)
  | rename name => exact h.of_sameStructure (rename_effect w name).sameStructure
  | resizePane paneId cols rows => exact h.of_sameStructure (updatePane_frame w paneId _ _)
  | setPaneTitle paneId title => exact h.of_sameStructure (updatePane_frame w paneId _ _)
  | setPaneNoPersist paneId noPersist =>
      exact h.of_sameStructure (updatePane_frame w paneId _ _)
  | setPaneExitStatus paneId status =>
      exact h.of_sameStructure (updatePane_frame w paneId _ _)
  | takeOutput paneId raw => exact h.of_sameStructure (takeOutput_frame w paneId raw)
  | returnOutput paneId screen proc =>
      exact h.of_sameStructure (returnOutput_frame w paneId screen proc)
  | markPersisted => exact ⟨h.tree, h.keys, h.focus⟩

/-- **Run lemma.** Every reachable workspace is coherent. -/
theorem Reachable.coherent {w : Workspace P G}
    (h : w.Reachable) :
    w.Coherent :=
  h.invariant (fun _ hfresh => Coherent.of_isFresh hfresh) (fun _ op hI => hI.apply op)

omit [VteParser P] [Vt100Parser G] in
/-- There is a focused pane exactly when there are panes. -/
theorem Coherent.focus_isSome_iff {w : Workspace P G}
    (h : w.Coherent) :
    w.activePaneId.isSome = true ↔ w.panes ≠ ∅ := by
  cases hroot : w.tree.root with
  | none =>
      have hpanes := WorkspaceTree.panes_of_empty hroot
      have hkeys : w.panes.keys = [] := by
        refine List.eq_nil_iff_forall_not_mem.mpr ?_
        intro k hk
        have hleaf := (h.keys k).mp hk
        simp [hpanes] at hleaf
      have hempty : w.panes = ∅ :=
        AList.ext (by simpa [AList.keys, List.keys] using hkeys)
      simp [h.focus_none hroot, hempty]
  | some root =>
      obtain ⟨active, hactive, _, hmem⟩ := h.focus_some (by simp [hroot])
      have hkey : active ∈ w.panes := (h.keys active).mpr hmem
      constructor
      · rintro _ hempty
        rw [hempty] at hkey
        exact AList.notMem_empty active hkey
      · intro _
        simp [hactive]

/-- **Panes, tree and focus of every reachable workspace are in step**, and a
refused split, ratio change, focus change or removal changes nothing. -/
theorem pane_structure_coherent {w : Workspace P G}
    (h : w.Reachable) :
    (∀ id, id ∈ w.panes ↔ PaneId.fromUuid id ∈ w.tree.panes) ∧
      w.tree.validate = .ok () ∧
      w.activePaneId = w.tree.defaultActive.map PaneId.uuid ∧
      (w.activePaneId.isSome = true ↔ w.panes ≠ ∅) ∧
      (∀ id, w.activePaneId = some id → id ∈ w.panes) ∧
      (∀ target pane axis ratio, (w.splitPane target pane axis ratio).1 = none →
        (w.splitPane target pane axis ratio).2 = w) ∧
      (∀ path ratio, (w.resizeSplit path ratio).1 = none →
        (w.resizeSplit path ratio).2 = w) ∧
      (∀ paneId, (w.setDefaultActivePane paneId).1 = none →
        (w.setDefaultActivePane paneId).2 = w) ∧
      (∀ paneId, (w.removePane paneId).1 = none → (w.removePane paneId).2 = w) := by
  have hw := h.coherent
  refine ⟨hw.keys, (WorkspaceTree.validate_eq_ok_iff w.tree).mpr hw.tree, hw.focus,
    hw.focus_isSome_iff, ?_, ?_, ?_, ?_, ?_⟩
  · intro id hid
    obtain ⟨pane, hact, huuid⟩ := Option.map_eq_some_iff.mp (hw.focus.symm.trans hid)
    have hmem := hw.tree.active_mem pane hact
    subst huuid
    exact (hw.keys pane.uuid).mpr hmem
  · intro target pane axis ratio hnone
    rcases splitPane_cases w target pane axis ratio with hres | ⟨_, _, _, hsome, _⟩
    · rw [hres]
    · simp [hnone] at hsome
  · intro path ratio hnone
    rcases resizeSplit_cases w path ratio with hres | ⟨hsome, _⟩
    · rw [hres]
    · simp [hnone] at hsome
  · intro paneId hnone
    rcases setDefaultActivePane_cases w paneId with hres | ⟨_, hsome, _⟩
    · rw [hres]
    · simp [hnone] at hsome
  · intro paneId hnone
    rcases removePane_cases w paneId with ⟨_, hres⟩ | ⟨pane, _, hsome, _⟩
    · rw [hres]
    · simp [hnone] at hsome

/-- The theorem at a workspace whose first pane was split. -/
theorem pane_structure_coherent_split :
    ∃ w : Workspace SampleParser SampleGrid,
      w.Reachable ∧ w.tree.panes = [⟨1⟩, ⟨2⟩] ∧ w.tree.validate = .ok () ∧
        (w.removePane 3).1 = none ∧ (w.removePane 3).2 = w := by
  have hfresh : (Workspace.new 7 "work" 0 : Workspace SampleParser SampleGrid).IsFresh :=
    ⟨7, "work", 0, .persistent, rfl⟩
  have hreach := (hfresh.reachable.apply (.addPane (Pane.new 1 80 24))).apply
    (.splitPane 1 (Pane.new 2 80 24) .vertical F32.half)
  have hmain := pane_structure_coherent hreach
  have hnone : ((((Workspace.new 7 "work" 0 : Workspace SampleParser SampleGrid).apply
      (.addPane (Pane.new 1 80 24))).apply
      (.splitPane 1 (Pane.new 2 80 24) .vertical F32.half)).removePane 3).1 = none := by
    decide
  exact ⟨_, hreach, by decide, hmain.2.1, hnone, hmain.2.2.2.2.2.2.2.2 3 hnone⟩

end Runs

end Workspace

end Server
end Rttx
