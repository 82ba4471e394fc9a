import Rttx.Client.SessionEffects

/-!
# Well-formed workspaces

The layout of a workspace, its active and its zoomed terminal, and the recoveries of
its panes are separate fields, and they should speak of the same panes: the leaves
have distinct ids, and the other three name leaves.

Not every operation sees to that.  A pane that is closed without the daemon leaves
its recovery behind.  The tree of a snapshot replaces the layout and clears neither
the zoom nor the recoveries, and a pane that the daemon closes may be the zoomed
one.  The zoom takes the focused pane, which need not be one of the visible
workspace.

**Results.**
* `workspaces_wellFormed`: the workspaces are well formed in every run whose
  operations meet `KeepsWellFormed`.
* `closed_pane_recovered`: a split and a close, and a recovery of a pane that is
  gone.
-/

namespace Rttx
namespace Client

open Kernel Server

namespace Session

/-- The fields of a workspace speak of the same panes. -/
structure WellFormed (w : Session) : Prop where
  nodup : w.layout.terminalUuids.Nodup
  active_mem : ∀ t, w.activeTerminalUuid = some t → t ∈ w.layout.terminalUuids
  zoomed_mem : ∀ t, w.zoomedTerminalUuid = some t → t ∈ w.layout.terminalUuids
  recovery_mem : ∀ t ∈ w.terminalRecovery, t ∈ w.layout.terminalUuids

section WellFormed

variable {w : Session}

theorem wellFormed_new (ids : NewIds) (name : String) (initialCwd : Option String)
    (runtime : WorkspaceRuntime) :
    (newWithInitialCwd ids name initialCwd runtime).WellFormed := by
  constructor
  · simp [newWithInitialCwd, LayoutNode.terminalUuids]
  · rintro t ht
    simp only [newWithInitialCwd, Option.some.injEq] at ht
    simp [newWithInitialCwd, LayoutNode.terminalUuids, ht]
  · rintro t ht
    cases ht
  · rintro t ht
    simp only [newWithInitialCwd, AList.mem_insert, AList.notMem_empty, or_false] at ht
    simp [newWithInitialCwd, LayoutNode.terminalUuids, ht]

/-- A normal active terminal leaves three fields to look at. -/
theorem wellFormed_normalizeActive
    (hnodup : w.layout.terminalUuids.Nodup)
    (hzoomed : ∀ t, w.zoomedTerminalUuid = some t → t ∈ w.layout.terminalUuids)
    (hrecovery : ∀ t ∈ w.terminalRecovery, t ∈ w.layout.terminalUuids) :
    w.normalizeActive.WellFormed := by
  constructor
  · simpa using hnodup
  · simpa using fun t => w.normalizeActive_active (t := t)
  · simpa using hzoomed
  · simpa using hrecovery

/-- A change that the four fields do not see. -/
theorem WellFormed.of_fields {w' : Session}
    (h : w.WellFormed)
    (hlayout : w'.layout = w.layout)
    (hactive : w'.activeTerminalUuid = w.activeTerminalUuid)
    (hzoomed : w'.zoomedTerminalUuid = w.zoomedTerminalUuid)
    (hrecovery : w'.terminalRecovery = w.terminalRecovery) :
    w'.WellFormed := by
  obtain ⟨hn, ha, hz, hr⟩ := h
  rw [← hlayout] at hn ha hz hr
  exact ⟨hn, hactive.symm ▸ ha, hzoomed.symm ▸ hz, hrecovery.symm ▸ hr⟩

theorem WellFormed.setRecovery
    (h : w.WellFormed)
    {t : String}
    (ht : t ∈ w.layout.terminalUuids)
    (recovery : PaneRecovery) :
    (w.setRecovery t recovery).WellFormed := by
  refine ⟨h.nodup, h.active_mem, h.zoomed_mem, ?_⟩
  intro other hother
  rcases (AList.mem_insert _).mp hother with rfl | hother
  · exact ht
  · exact h.recovery_mem other hother

theorem WellFormed.toggleZoom
    (h : w.WellFormed)
    {target : Option String}
    (htarget : ∀ t, target = some t → w.zoomedTerminalUuid = none →
      2 ≤ w.layout.terminalCount → t ∈ w.layout.terminalUuids) :
    (w.toggleZoom target).WellFormed := by
  rcases w.toggleZoom_cases target with heq | heq | ⟨t, ht, hunzoomed, hseveral, heq⟩
  · rwa [heq]
  · rw [heq]
    exact ⟨h.nodup, h.active_mem, nofun, h.recovery_mem⟩
  · rw [heq]
    refine ⟨h.nodup, h.active_mem, ?_, h.recovery_mem⟩
    rintro other hother
    cases hother
    exact htarget t ht hunzoomed hseveral

theorem WellFormed.splitPane
    (h : w.WellFormed)
    {newUuid : String}
    (hnew : newUuid ∉ w.layout.terminalUuids)
    (terminalUuid : String)
    (orientation : SplitOrientation)
    (view : SplitView) :
    (w.splitPane terminalUuid newUuid orientation view).WellFormed := by
  rcases w.splitPane_cases terminalUuid newUuid orientation view with heq | ⟨layout, hperm, heq⟩
  · rwa [heq]
  · have hmem : ∀ t ∈ w.layout.terminalUuids, t ∈ layout.terminalUuids := by
      intro t ht
      exact hperm.mem_iff.mpr (List.mem_cons_of_mem _ ht)
    rw [heq]
    refine WellFormed.setRecovery (wellFormed_normalizeActive ?_ ?_ ?_) ?_ _
    · exact hperm.nodup_iff.mpr (List.nodup_cons.mpr ⟨hnew, h.nodup⟩)
    · exact fun t ht => hmem t (h.zoomed_mem t ht)
    · exact fun t ht => hmem t (h.recovery_mem t ht)
    · rw [normalizeActive_layout]
      exact hperm.mem_iff.mpr List.mem_cons_self

/-- A pane that is removed without the daemon must not have a recovery. -/
theorem WellFormed.removeLocally
    (h : w.WellFormed)
    {terminalUuid : String}
    (hrecovery : terminalUuid ∉ w.terminalRecovery)
    (hzoomed : w.zoomedTerminalUuid ≠ some terminalUuid) :
    (w.removeLocally terminalUuid).WellFormed := by
  unfold Session.removeLocally
  split
  · exact h
  · rename_i layout hlayout
    have huuids := LayoutNode.removeTerminal_some_uuids hlayout
    have hkept : ∀ t ∈ w.layout.terminalUuids, t ≠ terminalUuid →
        t ∈ layout.terminalUuids := by
      intro t ht hne
      rw [huuids]
      exact List.mem_filter.mpr ⟨ht, by simpa using hne⟩
    refine wellFormed_normalizeActive ?_ ?_ ?_
    · rw [huuids]
      exact h.nodup.filter _
    · intro t ht
      exact hkept t (h.zoomed_mem t ht) (fun heq => hzoomed (heq ▸ ht))
    · intro t ht
      exact hkept t (h.recovery_mem t ht) (fun heq => hrecovery (heq ▸ ht))

theorem WellFormed.removeClosed
    (h : w.WellFormed)
    {terminalUuid : String}
    (hzoomed : w.zoomedTerminalUuid = some terminalUuid →
      w.layout.removeTerminal terminalUuid = none) :
    (w.removeClosed terminalUuid).WellFormed := by
  unfold Session.removeClosed
  split
  · exact h
  · rename_i layout hlayout
    have huuids := LayoutNode.removeTerminal_some_uuids hlayout
    refine wellFormed_normalizeActive ?_ ?_ ?_
    · change layout.terminalUuids.Nodup
      rw [huuids]
      exact h.nodup.filter _
    · intro t ht
      change t ∈ layout.terminalUuids
      rw [huuids]
      refine List.mem_filter.mpr ⟨h.zoomed_mem t ht, ?_⟩
      rw [decide_eq_true_iff]
      rintro rfl
      rw [hzoomed ht] at hlayout
      cases hlayout
    · intro t ht
      change t ∈ layout.terminalUuids
      rw [← AList.lookup_isSome, pruneRecovery, HashMap.lookup_retain] at ht
      split at ht
      · rename_i hin
        simpa using hin
      · cases ht

/-- The new id of a leaf must not be that of another. -/
theorem WellFormed.rekey
    (h : w.WellFormed)
    {oldUuid newUuid : String}
    (hnew : newUuid ∉ w.layout.terminalUuids) :
    (w.rekey oldUuid newUuid).WellFormed := by
  rcases w.rekey_cases oldUuid newUuid with heq | ⟨layout, before, after, hold, hlayout, heq⟩
  · rwa [heq]
  · have hkept : ∀ t ∈ w.layout.terminalUuids, t ≠ oldUuid → t ∈ layout.terminalUuids := by
      intro t ht hne
      rw [hold, List.mem_append, List.mem_cons] at ht
      rw [hlayout, List.mem_append, List.mem_cons]
      exact ht.imp_right (fun ht => Or.inr (ht.resolve_left hne))
    have hmem : newUuid ∈ layout.terminalUuids := by simp [hlayout]
    have hfollow : ∀ (field : Option String),
        (∀ t, field = some t → t ∈ w.layout.terminalUuids) →
        ∀ t, (if field = some oldUuid then some newUuid else field) = some t →
          t ∈ layout.terminalUuids := by
      intro field hfield t ht
      split at ht
      · cases ht
        exact hmem
      · rename_i hne
        exact hkept t (hfield t ht) (fun hto => hne (hto ▸ ht))
    rw [heq]
    refine ⟨?_, hfollow _ h.active_mem, hfollow _ h.zoomed_mem, ?_⟩
    · have hdistinct := h.nodup
      rw [hold, List.nodup_middle] at hdistinct
      rw [hold, List.mem_append, List.mem_cons] at hnew
      change layout.terminalUuids.Nodup
      rw [hlayout, List.nodup_middle, List.nodup_cons, List.mem_append]
      exact ⟨fun hin => hnew (hin.imp_right Or.inr), (List.nodup_cons.mp hdistinct).2⟩
    · intro t ht
      change t ∈ layout.terminalUuids
      simp only at ht
      split at ht
      · rename_i hnone
        refine hkept t (h.recovery_mem t ht) ?_
        rintro rfl
        rw [← AList.lookup_isSome, hnone] at ht
        cases ht
      · rcases (AList.mem_insert _).mp ht with rfl | ht
        · exact hmem
        · obtain ⟨hne, ht⟩ := AList.mem_erase.mp ht
          exact hkept t (h.recovery_mem t ht) hne

theorem WellFormed.adoptPane
    (h : w.WellFormed)
    {layoutTerminalUuid runtimePaneId : String}
    (hnew : runtimePaneId = layoutTerminalUuid ∨ runtimePaneId ∉ w.layout.terminalUuids)
    (runtimeId : String) :
    (w.adoptPane layoutTerminalUuid runtimeId runtimePaneId).WellFormed := by
  have hplaced : Session.WellFormed
      { w with runtime := { w.runtime with runtimeId := some runtimeId } } :=
    h.of_fields rfl rfl rfl rfl
  rcases w.adoptPane_cases layoutTerminalUuid runtimeId runtimePaneId with heq | heq | ⟨hne, heq⟩
  · rwa [heq]
  · rwa [heq]
  · rw [heq]
    exact hplaced.rekey (hnew.resolve_left (fun hsame => hne hsame.symm))

/-- The tree of a snapshot must have the zoomed pane and the panes with a recovery. -/
theorem WellFormed.adoptSnapshot
    (h : w.WellFormed)
    {snapshot : WorkspaceSnapshot}
    (hsnapshot : ∀ rendered, renderLayoutFromSnapshot snapshot = some rendered →
      rendered.terminalUuids.Nodup ∧
        (∀ t, w.zoomedTerminalUuid = some t → t ∈ rendered.terminalUuids) ∧
        ∀ t ∈ w.terminalRecovery, t ∈ rendered.terminalUuids)
    (runtimeId : String) :
    (w.adoptSnapshot runtimeId snapshot).WellFormed := by
  obtain ⟨name, userRenamed, active, layout, heq, hcases⟩ :=
    w.adoptSnapshot_cases runtimeId snapshot
  rw [heq]
  rcases hcases with ⟨_, rfl, rfl⟩ | ⟨rendered, hrender, huuids, hactive⟩
  · exact ⟨h.nodup, h.active_mem, h.zoomed_mem, h.recovery_mem⟩
  · obtain ⟨hnodup, hzoomed, hrecovery⟩ := hsnapshot rendered hrender
    constructor
    · exact huuids.symm ▸ hnodup
    · exact fun t ht => huuids.symm ▸ hactive t ht
    · exact fun t ht => huuids.symm ▸ hzoomed t ht
    · exact fun t ht => huuids.symm ▸ hrecovery t ht

theorem wellFormed_ofRecovered {endpoint : RuntimeEndpoint} {info : WorkspaceInfo}
    {mint : Nat → String} {state : WorkspaceState}
    (hpanes : (SessionWindow.inventoryPaneTexts mint info.panes).Nodup)
    (h : recoveredManagedWorkspace endpoint info mint = some state) :
    (ofRecovered state).WellFormed := by
  obtain ⟨id, hid, rfl⟩ := Option.map_eq_some_iff.mp h
  constructor
  · simpa only [ofRecovered, SessionWindow.layoutFromInventoryPanes_uuids] using hpanes
  · exact fun t ht => List.mem_of_head? ht
  · exact nofun
  · have hfold : ∀ (uuids : List String) (recovery : HashMap String PaneRecovery) (t : String),
        t ∈ uuids.foldl (fun recovery uuid => recovery.insert uuid .emptyShell) recovery →
          t ∈ uuids ∨ t ∈ recovery := by
      intro uuids
      induction uuids with
      | nil => exact fun recovery t ht => Or.inr ht
      | cons uuid rest ih =>
          intro recovery t ht
          rcases ih (recovery.insert uuid .emptyShell) t ht with hrest | ht
          · exact Or.inl (List.mem_cons_of_mem _ hrest)
          · rcases (AList.mem_insert _).mp ht with rfl | ht
            · exact Or.inl List.mem_cons_self
            · exact Or.inr ht
    intro t ht
    exact (hfold _ _ t ht).resolve_right (AList.notMem_empty t)

end WellFormed

end Session

/-- A record whose layout, zoom and recoveries speak of the same panes; the active
pane is normalised on loading. -/
structure WorkspaceRecord.WellFormed (r : WorkspaceRecord) : Prop where
  nodup : r.layout.terminalUuids.Nodup
  zoomed_mem : ∀ t, r.zoomedPaneId = some t → t ∈ r.layout.terminalUuids
  recovery_mem : ∀ t ∈ r.paneRecovery, t ∈ r.layout.terminalUuids

theorem WorkspaceRecord.WellFormed.toSession {r : WorkspaceRecord}
    (h : r.WellFormed) :
    r.toSession.WellFormed :=
  Session.wellFormed_normalizeActive h.nodup h.zoomed_mem h.recovery_mem

namespace SessionWindow

section Conditions

variable (s : SessionWindow)

/-- When the visible workspace becomes zoomed, the target is one of its panes. -/
def ZoomFits (visibleWorkspace target : Option String) : Prop :=
  ∀ id w t, visibleWorkspace = some id → s.findWorkspace id = some w → target = some t →
    w.zoomedTerminalUuid = none → 2 ≤ w.layout.terminalCount → t ∈ w.layout.terminalUuids

/-- The zoom of the visible workspace is toggled because another one is zoomed. -/
def UnzoomFits (terminalUuid : String) (visibleWorkspace focusedTerminal : Option String) : Prop :=
  (s.workspaceOf terminalUuid).any (fun w => w.zoomedTerminalUuid.isSome) = true →
    s.ZoomFits visibleWorkspace focusedTerminal

/-- **The operations that keep workspaces well formed.** -/
def KeepsWellFormed : WindowOp → Prop
  | .togglePaneZoomFor visibleWorkspace target => s.ZoomFits visibleWorkspace target
  | .splitTerminal terminalUuid newId _ view =>
      s.UnzoomFits terminalUuid view.visibleWorkspace view.focusedTerminal ∧
        ∀ w, s.workspaceOf terminalUuid = some w → uuidToString newId ∉ w.layout.terminalUuids
  | .closeTerminal terminalUuid visibleWorkspace focusedTerminal =>
      s.UnzoomFits terminalUuid visibleWorkspace focusedTerminal ∧
        -- a pane that is closed without the daemon
        ∀ w, s.workspaceOf terminalUuid = some w → w.managedCloseTarget terminalUuid = none →
          2 ≤ w.layout.terminalCount →
          terminalUuid ∉ w.terminalRecovery ∧
            (w.zoomedTerminalUuid = some terminalUuid →
              ∃ id, visibleWorkspace = some id ∧ s.findWorkspace id = some w)
  | .moveFocusedPane current _ =>
      ∀ w, s.workspaceOf current = some w → w.zoomedTerminalUuid.isSome = true →
        s.findWorkspace w.uuid = some w
  | .workspaceOpened workspaceId _ snapshot =>
      ∀ w rendered, s.findWorkspace workspaceId = some w →
        renderLayoutFromSnapshot snapshot = some rendered →
        rendered.terminalUuids.Nodup ∧
          (∀ t, w.zoomedTerminalUuid = some t → t ∈ rendered.terminalUuids) ∧
          ∀ t ∈ w.terminalRecovery, t ∈ rendered.terminalUuids
  | .paneCreated workspaceId layoutTerminalUuid _ runtimePaneId =>
      ∀ w, s.findWorkspace workspaceId = some w → layoutTerminalUuid ∈ w.layout.terminalUuids →
        uuidToString runtimePaneId = layoutTerminalUuid ∨
          uuidToString runtimePaneId ∉ w.layout.terminalUuids
  | .paneClosed workspaceId layoutTerminalUuid =>
      ∀ w, s.findWorkspace workspaceId = some w →
        w.zoomedTerminalUuid = some layoutTerminalUuid →
        w.layout.removeTerminal layoutTerminalUuid = none
  | .inventoryLoaded endpoint workspaces mint =>
      -- the panes of the runtimes that it brings
      ∀ i info id, workspaces[i]? = some info → bytesToUuid info.id = some id →
        uuidToString id ∉ s.dismissedRuntimeIds →
        uuidToString id ∉ s.toDismissingWindow.knownRuntimeIds endpoint →
        (∀ j < i, ∀ other, workspaces[j]? = some other → bytesToUuid other.id ≠ some id) →
        (inventoryPaneTexts (fun j => uuidToString (mint i j)) info.panes).Nodup
  | _ => True

end Conditions

section Steps

variable {s : SessionWindow}

/-- A change of one workspace. -/
theorem All.updateWorkspace {P : Session → Prop} {workspaceId : String} {f : Session → Session}
    (h : s.All P)
    (hf : ∀ w, s.findWorkspace workspaceId = some w → P w → P (f w)) :
    (s.updateWorkspace workspaceId f).All P :=
  forall_updateFirst h hf

theorem All.updateWorkspaceOf {P : Session → Prop} {terminalUuid : String}
    {f : Session → Session}
    (h : s.All P)
    (hf : ∀ w, s.workspaceOf terminalUuid = some w → P w → P (f w)) :
    (s.updateWorkspaceOf terminalUuid f).All P :=
  forall_updateFirst h hf

theorem All.push {P : Session → Prop} {w : Session}
    (h : s.All P)
    (hw : P w) :
    (s.push w).All P := by
  intro other hother
  rcases List.mem_append.mp hother with hother | hother
  · exact h other hother
  · rw [List.mem_singleton] at hother
    exact hother ▸ hw

theorem mem_of_workspaceOf {terminalUuid : String} {w : Session}
    (h : s.workspaceOf terminalUuid = some w) :
    terminalUuid ∈ w.layout.terminalUuids := by
  have hfound : w.layout.containsTerminal terminalUuid = true :=
    List.find?_some (p := fun w : Session => w.layout.containsTerminal terminalUuid) h
  exact LayoutNode.containsTerminal_iff.mp hfound

theorem wellFormed_togglePaneZoomFor {visibleWorkspace target : Option String}
    (h : s.All Session.WellFormed)
    (hzoom : s.ZoomFits visibleWorkspace target) :
    (s.togglePaneZoomFor visibleWorkspace target).All Session.WellFormed := by
  unfold togglePaneZoomFor
  split
  · exact h
  · rename_i id
    refine h.updateWorkspace fun w hw hwell => hwell.toggleZoom ?_
    exact fun t ht hunzoomed hseveral => hzoom id w t rfl hw ht hunzoomed hseveral

theorem wellFormed_unzoomed {terminalUuid : String}
    {visibleWorkspace focusedTerminal : Option String}
    (h : s.All Session.WellFormed)
    (hzoom : s.UnzoomFits terminalUuid visibleWorkspace focusedTerminal) :
    (s.unzoomed terminalUuid visibleWorkspace focusedTerminal).All Session.WellFormed := by
  unfold unzoomed
  split
  · rename_i hzoomed
    exact wellFormed_togglePaneZoomFor h (hzoom hzoomed)
  · exact h

theorem wellFormed_splitTerminal {terminalUuid : String} {newId : Uuid}
    {orientation : SplitOrientation} {view : SplitView}
    (h : s.All Session.WellFormed)
    (hok : s.KeepsWellFormed (.splitTerminal terminalUuid newId orientation view)) :
    (s.splitTerminal terminalUuid newId orientation view).All Session.WellFormed := by
  obtain ⟨hzoom, hnew⟩ := hok
  refine (wellFormed_unzoomed h hzoom).updateWorkspaceOf fun w' hw' hwell =>
    hwell.splitPane ?_ terminalUuid orientation view
  obtain ⟨w, hw, hcases⟩ := workspaceOf_unzoomed hw'
  have hlayout : w'.layout = w.layout := by
    rcases hcases with ⟨rfl, _⟩ | ⟨rfl, _⟩
    · rfl
    · exact w.toggleZoom_layout view.focusedTerminal
  rw [hlayout]
  exact hnew w hw

theorem wellFormed_closeTerminal {terminalUuid : String}
    {visibleWorkspace focusedTerminal : Option String}
    (h : s.All Session.WellFormed)
    (hok : s.KeepsWellFormed (.closeTerminal terminalUuid visibleWorkspace focusedTerminal)) :
    (s.closeTerminal terminalUuid visibleWorkspace focusedTerminal).All Session.WellFormed := by
  obtain ⟨hzoom, hlocal⟩ := hok
  have hwell := wellFormed_unzoomed h hzoom
  simp only [closeTerminal]
  split
  · exact hwell
  · rename_i w' hw'
    split
    · exact hwell
    · rename_i hmanaged
      split
      · exact fun other hother => hwell other ((closeSession_sublist _ w'.uuid).subset hother)
      · rename_i hseveral
        obtain ⟨w, hw, hcases⟩ := workspaceOf_unzoomed hw'
        have hfields : w'.layout = w.layout ∧ w'.terminalRecovery = w.terminalRecovery ∧
            w'.managedCloseTarget terminalUuid = w.managedCloseTarget terminalUuid := by
          rcases hcases with ⟨rfl, _⟩ | ⟨rfl, _⟩
          · exact ⟨rfl, rfl, rfl⟩
          · rcases w.toggleZoom_cases focusedTerminal with heq | heq | ⟨t, _, _, _, heq⟩ <;>
              rw [heq] <;> exact ⟨rfl, rfl, rfl⟩
        obtain ⟨hlayout, hrecovery, htarget⟩ := hfields
        rw [htarget, Option.not_isSome_iff_eq_none] at hmanaged
        rw [hlayout] at hseveral
        obtain ⟨hunrecovered, hzoomed⟩ := hlocal w hw hmanaged (by omega)
        refine hwell.updateWorkspaceOf fun found hfound hgood => hgood.removeLocally ?_ ?_
        · rw [hw'] at hfound
          rw [← Option.some.inj hfound, hrecovery]
          exact hunrecovered
        · rw [hw'] at hfound
          rw [← Option.some.inj hfound]
          intro hto
          rcases hcases with ⟨rfl, hkept⟩ | ⟨rfl, hwas⟩
          · -- the workspace kept its zoom, so it is not the visible one
            obtain ⟨id, hid, hvisible⟩ := hzoomed hto
            exact hkept (by rw [hw]; simp [hto]) id hid hvisible
          · rw [hw, Option.any_some] at hwas
            simp [Session.toggleZoom, hwas] at hto

theorem wellFormed_moveFocusedPane {current : String} {move : PaneMove}
    (h : s.All Session.WellFormed)
    (hok : s.KeepsWellFormed (.moveFocusedPane current move)) :
    (s.moveFocusedPane current move).All Session.WellFormed := by
  unfold moveFocusedPane
  split
  · exact h
  · rename_i w hw
    split
    · exact h
    · rename_i target htarget
      split
      · rename_i hzoomed
        refine h.updateWorkspace fun found hfound hgood => ?_
        have hmem : target ∈ found.layout.terminalUuids := by
          rw [← Option.some.inj ((hok w hw hzoomed).symm.trans hfound)]
          cases move with
          | navigate direction => exact LayoutNode.findAdjacent_mem htarget
          | cycle forward => exact LayoutNode.cycleTerminal_mem htarget
        refine ⟨hgood.nodup, ?_, ?_, hgood.recovery_mem⟩ <;>
        · rintro t ht
          cases ht
          exact hmem
      · exact h

theorem wellFormed_focusEntered
    (h : s.All Session.WellFormed)
    (terminalUuid : String) :
    (s.focusEntered terminalUuid).All Session.WellFormed := by
  refine h.updateWorkspaceOf fun w hw hgood =>
    ⟨hgood.nodup, ?_, hgood.zoomed_mem, hgood.recovery_mem⟩
  rintro t ht
  have hleaf := mem_of_workspaceOf hw
  cases ht
  exact hleaf

/-- An arrangement that permutes the leaves. -/
theorem wellFormed_arranged {w : Session} {layout : LayoutNode}
    (h : w.WellFormed)
    (hperm : layout.terminalUuids.Perm w.layout.terminalUuids) :
    Session.WellFormed { w with layout := layout } :=
  ⟨hperm.nodup_iff.mpr h.nodup, fun t ht => hperm.mem_iff.mpr (h.active_mem t ht),
    fun t ht => hperm.mem_iff.mpr (h.zoomed_mem t ht),
    fun t ht => hperm.mem_iff.mpr (h.recovery_mem t ht)⟩

theorem wellFormed_inventoryLoaded {endpoint : RuntimeEndpoint}
    {workspaces : List WorkspaceInfo} {mint : Nat → Nat → Uuid}
    (h : s.All Session.WellFormed)
    (hok : s.KeepsWellFormed (.inventoryLoaded endpoint workspaces mint)) :
    (s.inventoryLoaded endpoint workspaces mint).All Session.WellFormed := by
  rw [All, inventoryLoaded_workspaces]
  intro w hw
  rcases List.mem_append.mp hw with hw | hw
  · exact h w hw
  · obtain ⟨state, hstate, rfl⟩ := List.mem_map.mp hw
    obtain ⟨i, info, id, hinfo, hid, hdismissed, hknown, hfirst, hrecovered⟩ :=
      mem_recoverFrom hstate
    refine Session.wellFormed_ofRecovered (hok i info id hinfo hid ?_ hknown hfirst) hrecovered
    intro hin
    refine hdismissed (Finset.mem_filter.mpr ⟨hin, List.mem_filterMap.mpr ⟨info, ?_, ?_⟩⟩)
    · exact List.mem_of_getElem? hinfo
    · rw [hid, Option.map_some]

theorem wellFormed_dispatch
    (h : s.All Session.WellFormed)
    (endpoint : RuntimeEndpoint)
    (payload : Option PushPayload)
    (viewed : String → Bool) :
    (s.dispatchManagedRuntimeMessage endpoint payload viewed).All Session.WellFormed := by
  unfold dispatchManagedRuntimeMessage
  split
  · cases s.runtimeOwner endpoint _ <;> exact h
  · rename_i runtimeId name userRenamed
    cases s.runtimeOwner endpoint runtimeId with
    | none => exact h
    | some workspaceId =>
        simp only [Option.elim_some, applyDaemonWorkspaceName]
        split
        · exact h
        · refine h.updateWorkspace fun w _ hgood => ?_
          split
          · exact hgood
          · exact hgood.of_fields rfl rfl rfl rfl
  · cases s.runtimeOwner endpoint _ <;> exact h
  · unfold applyCwdChanged
    split
    · exact h
    · split
      · refine h.updateWorkspace fun w _ hgood => wellFormed_arranged hgood ?_
        rw [LayoutNode.setTerminalCwd_uuids]
      · exact h
  · exact h

theorem wellFormed_paneCreated {workspaceId layoutTerminalUuid runtimeId : String}
    {runtimePaneId : Uuid}
    (h : s.All Session.WellFormed)
    (hok : s.KeepsWellFormed
      (.paneCreated workspaceId layoutTerminalUuid runtimeId runtimePaneId)) :
    (s.paneCreated workspaceId layoutTerminalUuid runtimeId runtimePaneId).All
      Session.WellFormed := by
  unfold paneCreated
  split
  · rename_i hany
    refine h.updateWorkspace fun w hw hgood => hgood.adoptPane ?_ runtimeId
    rw [hw, Option.any_some, LayoutNode.containsTerminal_iff] at hany
    exact hok w hw hany
  · exact h

theorem wellFormed_paneClosed {workspaceId layoutTerminalUuid : String}
    (h : s.All Session.WellFormed)
    (hok : s.KeepsWellFormed (.paneClosed workspaceId layoutTerminalUuid)) :
    (s.paneClosed workspaceId layoutTerminalUuid).All Session.WellFormed := by
  unfold paneClosed
  split
  · exact h.updateWorkspace fun w hw hgood => hgood.removeClosed (hok w hw)
  · exact h

theorem wellFormed_workspaceOpened {workspaceId runtimeId : String}
    {snapshot : WorkspaceSnapshot}
    (h : s.All Session.WellFormed)
    (hok : s.KeepsWellFormed (.workspaceOpened workspaceId runtimeId snapshot)) :
    (s.workspaceOpened workspaceId runtimeId snapshot).All Session.WellFormed := by
  unfold workspaceOpened
  split
  · exact h
  · exact h.updateWorkspace fun w hw hgood =>
      hgood.adoptSnapshot (fun rendered hrender => hok w rendered hw hrender) runtimeId

/-- **One operation that meets its condition keeps the workspaces well formed.** -/
theorem wellFormed_next {op : WindowOp}
    (h : s.All Session.WellFormed)
    (hok : s.KeepsWellFormed op) :
    (s.next op).All Session.WellFormed := by
  cases op with
  | addDirectSession ids initialCwd => exact h.push (Session.wellFormed_new _ _ _ _)
  | addManagedSession ids name remoteHost initialCwd =>
      exact h.push (Session.wellFormed_new _ _ _ _)
  | attachToExistingRuntime ids host runtimeId name =>
      exact h.push (Session.wellFormed_new _ _ _ _)
  | closeSession workspaceId =>
      exact fun w hw => h w ((s.closeSession_sublist workspaceId).subset hw)
  | closeAllSessions ids initialCwd =>
      have hclosed : ((s.workspaces.map (fun w => w.uuid)).foldl closeOne s).All
          Session.WellFormed := fun w hw => h w ((s.foldl_closeOne_sublist _).subset hw)
      exact hclosed.push (Session.wellFormed_new _ _ _ _)
  | detachRuntime workspaceId =>
      exact fun w hw => h w ((s.detachRuntime_sublist workspaceId).subset hw)
  | closeTerminal terminalUuid visibleWorkspace focusedTerminal =>
      exact wellFormed_closeTerminal h hok
  | splitTerminal terminalUuid newId orientation view => exact wellFormed_splitTerminal h hok
  | togglePaneZoomFor visibleWorkspace target => exact wellFormed_togglePaneZoomFor h hok
  | moveFocusedPane current move => exact wellFormed_moveFocusedPane h hok
  | focusEntered terminalUuid => exact wellFormed_focusEntered h terminalUuid
  | swapTerminals a b =>
      exact forall_updateFirst h fun w _ hgood =>
        wellFormed_arranged hgood (LayoutNode.swapTerminals_uuids hgood.nodup a b)
  | rotateLayout visibleWorkspace =>
      cases visibleWorkspace with
      | none => exact h
      | some workspaceId =>
          exact h.updateWorkspace fun w _ hgood =>
            wellFormed_arranged hgood (by rw [LayoutNode.rotated_uuids])
  | setTerminalRecovery terminalUuid recovery =>
      exact h.updateWorkspaceOf fun w hw hgood =>
        hgood.setRecovery (mem_of_workspaceOf hw) recovery
  | reorderSession sourceUuid targetUuid =>
      exact fun w hw => h w ((s.reorderSession_perm sourceUuid targetUuid).mem_iff.mp hw)
  | renameRuntime workspaceId name =>
      exact h.updateWorkspace fun w _ hgood => hgood.of_fields rfl rfl rfl rfl
  | updateWorkspaceEndpoint workspaceId host =>
      simp only [SessionWindow.next, updateWorkspaceEndpoint]
      split
      · exact h
      · exact h.updateWorkspace fun w _ hgood => hgood.of_fields rfl rfl rfl rfl
  | workspaceConnectionChanged workspaceId status => exact h
  | workspaceOpened workspaceId runtimeId snapshot => exact wellFormed_workspaceOpened h hok
  | paneCreated workspaceId layoutTerminalUuid runtimeId runtimePaneId =>
      exact wellFormed_paneCreated h hok
  | paneClosed workspaceId layoutTerminalUuid => exact wellFormed_paneClosed h hok
  | workspaceDetached workspaceId => exact h
  | workspaceTerminated workspaceId =>
      exact h.updateWorkspace fun w _ hgood => hgood.of_fields rfl rfl rfl rfl
  | inventoryLoaded endpoint workspaces mint => exact wellFormed_inventoryLoaded h hok
  | workspaceMessage endpoint payload viewed => exact wellFormed_dispatch h endpoint payload viewed
  | workspaceResynced workspaceId snapshot => exact h

theorem wellFormed_loadState {records : List WorkspaceRecord}
    (h : ∀ r ∈ records, r.WellFormed)
    (dismissed : Finset String)
    (ids : NewIds) :
    (loadState records dismissed ids).All Session.WellFormed := by
  unfold loadState
  split
  · intro w hw
    rw [List.mem_singleton.mp hw]
    exact Session.wellFormed_new _ _ _ _
  · intro w hw
    obtain ⟨r, hr, rfl⟩ := List.mem_map.mp hw
    exact (h r hr).toSession

end Steps

end SessionWindow

/-- Windows that start from well-formed documents. -/
def wellFormedWindows : System SessionWindow WindowOp :=
  sessionWindows (fun records => ∀ r ∈ records, r.WellFormed)

/-- **The workspaces of a window are well formed in every run whose operations meet
their conditions.** -/
theorem workspaces_wellFormed {s : SessionWindow}
    (h : wellFormedWindows.ReachableUnder SessionWindow.KeepsWellFormed s) :
    ∀ w ∈ s.workspaces, w.WellFormed := by
  refine h.invariant (I := fun s => s.All Session.WellFormed) ?_ ?_
  · rintro s ⟨records, dismissed, ids, hrecords, rfl⟩
    exact SessionWindow.wellFormed_loadState hrecords dismissed ids
  · intro s op s' hs hok hnext
    cases hnext
    exact SessionWindow.wellFormed_next hs hok

section Samples

/-- A window without saved documents. -/
def freshWindow : SessionWindow :=
  .loadState [] ∅ ⟨1, 2⟩

def sampleView : SplitView :=
  ⟨none, none, none, false, 80, 24⟩

/-- The pane of the workspace, split. -/
def splitWindow : SessionWindow :=
  freshWindow.next (.splitTerminal (uuidToString 2) 3 .horizontal sampleView)

theorem splitWindow_reachable :
    wellFormedWindows.ReachableUnder SessionWindow.KeepsWellFormed splitWindow := by
  have hinit : wellFormedWindows.ReachableUnder SessionWindow.KeepsWellFormed freshWindow :=
    .init ⟨[], ∅, ⟨1, 2⟩, by simp, rfl⟩
  have hnew : ∀ w ∈ freshWindow.workspaces, uuidToString 3 ∉ w.layout.terminalUuids := by
    decide +kernel
  have hok : freshWindow.KeepsWellFormed
      (.splitTerminal (uuidToString 2) 3 .horizontal sampleView) := by
    constructor
    · rintro - id w t hvisible
      cases hvisible
    · exact fun w hw => hnew w (List.mem_of_find?_eq_some hw)
  exact hinit.step hok rfl

/-- The new pane, zoomed. -/
def zoomedWindow : SessionWindow :=
  splitWindow.next (.togglePaneZoomFor (some (uuidToString 1)) (some (uuidToString 3)))

/-- A split and a zoom keep the workspace well formed. -/
theorem workspaces_wellFormed_zoomed :
    zoomedWindow.workspaces.any (fun w => w.zoomedTerminalUuid == some (uuidToString 3)) = true ∧
      ∀ w ∈ zoomedWindow.workspaces, w.WellFormed := by
  refine ⟨by decide +kernel, workspaces_wellFormed (splitWindow_reachable.step ?_ rfl)⟩
  have hleaf : ∀ w ∈ splitWindow.workspaces, uuidToString 3 ∈ w.layout.terminalUuids := by
    decide +kernel
  intro id w t _ hw ht _ _
  cases ht
  exact hleaf w (List.mem_of_find?_eq_some hw)

/-- **A pane that the user closes leaves its recovery behind.** -/
theorem closed_pane_recovered :
    ¬ ∀ s : SessionWindow, wellFormedWindows.Reachable s → ∀ w ∈ s.workspaces, w.WellFormed := by
  intro hall
  have hreach : wellFormedWindows.Reachable
      (splitWindow.next (.closeTerminal (uuidToString 3) none none)) :=
    splitWindow_reachable.reachable.next rfl
  have hstale : ∃ w ∈ (splitWindow.next (.closeTerminal (uuidToString 3) none none)).workspaces,
      (w.terminalRecovery.lookup (uuidToString 3)).isSome = true ∧
        uuidToString 3 ∉ w.layout.terminalUuids := by
    decide +kernel
  obtain ⟨w, hw, hrecovery, hgone⟩ := hstale
  exact hgone ((hall _ hreach w hw).recovery_mem _ (AList.lookup_isSome.mp hrecovery))

end Samples

end Client
end Rttx
