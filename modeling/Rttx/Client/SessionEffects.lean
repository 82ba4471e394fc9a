import Rttx.Client.SessionWindow

/-!
# What the operations do to the workspaces

For each change of a workspace, what becomes of its id, its runtime and its
leaves; and for the operations that take workspaces out or move them, what becomes
of the list.

**Results.**
* `Session.splitPane_cases`, `Session.rekey_cases`, `Session.adoptSnapshot_cases`:
  the changes that bring new leaves.
* `SessionWindow.closeSession_sublist`, `SessionWindow.reorderSession_perm`: what
  closing and moving leave.
-/

namespace Rttx
namespace Client

open Kernel Server

namespace Session

section Changes

variable (w : Session)

@[simp] theorem normalizeActive_uuid : w.normalizeActive.uuid = w.uuid :=
  w.toWorkspaceState.normalizeActiveTerminal_uuid

@[simp] theorem normalizeActive_layout : w.normalizeActive.layout = w.layout :=
  w.toWorkspaceState.normalizeActiveTerminal_layout

@[simp] theorem normalizeActive_runtime : w.normalizeActive.runtime = w.runtime :=
  normalizeActiveTerminal_runtime w.toWorkspaceState

@[simp] theorem normalizeActive_zoomed :
    w.normalizeActive.zoomedTerminalUuid = w.zoomedTerminalUuid := by
  simp only [normalizeActive, WorkspaceState.normalizeActiveTerminal]
  split <;> rfl

@[simp] theorem normalizeActive_recovery :
    w.normalizeActive.terminalRecovery = w.terminalRecovery :=
  rfl

/-- The normal active terminal is a leaf. -/
theorem normalizeActive_active {t : String}
    (h : w.normalizeActive.activeTerminalUuid = some t) :
    t ∈ w.layout.terminalUuids := by
  simp only [normalizeActive, WorkspaceState.normalizeActiveTerminal] at h
  split at h
  · rename_i hkept
    rw [h, Option.any_some] at hkept
    exact LayoutNode.containsTerminal_iff.mp hkept
  · exact List.mem_of_head? h

theorem toggleZoom_cases (target : Option String) :
    w.toggleZoom target = w ∨ w.toggleZoom target = { w with zoomedTerminalUuid := none } ∨
      ∃ t, target = some t ∧ w.zoomedTerminalUuid = none ∧ 2 ≤ w.layout.terminalCount ∧
        w.toggleZoom target = { w with zoomedTerminalUuid := some t } := by
  unfold toggleZoom
  split
  · exact Or.inr (Or.inl rfl)
  · rename_i hunzoomed
    split
    · exact Or.inl rfl
    · rename_i t
      split
      · exact Or.inl rfl
      · rename_i hseveral
        exact Or.inr (Or.inr ⟨t, rfl, by simpa using hunzoomed, by omega, rfl⟩)

@[simp] theorem toggleZoom_layout (target : Option String) :
    (w.toggleZoom target).layout = w.layout := by
  rcases w.toggleZoom_cases target with h | h | ⟨t, _, _, _, h⟩ <;> rw [h]

/-- A split adds a leaf and its recovery, or changes nothing. -/
theorem splitPane_cases (terminalUuid newUuid : String) (orientation : SplitOrientation)
    (view : SplitView) :
    w.splitPane terminalUuid newUuid orientation view = w ∨
      ∃ layout, layout.terminalUuids.Perm (newUuid :: w.layout.terminalUuids) ∧
        w.splitPane terminalUuid newUuid orientation view =
          ({ w with layout := layout }.normalizeActive).setRecovery newUuid .emptyShell := by
  unfold splitPane
  split
  · exact Or.inl rfl
  · split
    · exact Or.inl rfl
    · rename_i state request hsplit
      simp only [WorkspaceState.splitTerminal] at hsplit
      split at hsplit
      · cases hsplit
      · rename_i newLayout newTerminalUuid hlayout
        obtain ⟨rfl, -⟩ := Prod.mk.inj (Option.some.inj hsplit)
        refine Or.inr ⟨_, ?_, rfl⟩
        have hperm := LayoutNode.splitTerminalWithNewUuid_uuids hlayout
        split
        · rwa [LayoutNode.setTerminalCwd_uuids]
        · exact hperm

/-- A new id takes the place of a leaf everywhere, or nothing changes. -/
theorem rekey_cases (oldUuid newUuid : String) :
    w.rekey oldUuid newUuid = w ∨
      ∃ layout before after,
        w.layout.terminalUuids = before ++ oldUuid :: after ∧
          layout.terminalUuids = before ++ newUuid :: after ∧
          w.rekey oldUuid newUuid =
            { w with
              layout := layout
              activeTerminalUuid :=
                if w.activeTerminalUuid = some oldUuid then some newUuid
                else w.activeTerminalUuid
              zoomedTerminalUuid :=
                if w.zoomedTerminalUuid = some oldUuid then some newUuid
                else w.zoomedTerminalUuid
              terminalRecovery :=
                match w.terminalRecovery.lookup oldUuid with
                | none => w.terminalRecovery
                | some recovery =>
                    (w.terminalRecovery.erase oldUuid).insert newUuid recovery } := by
  unfold rekey
  split
  · exact Or.inl rfl
  · rename_i state hreplace
    simp only [WorkspaceState.replaceTerminalUuid] at hreplace
    split at hreplace
    · cases hreplace
    · split at hreplace
      · cases hreplace
      · rename_i layout hlayout
        obtain ⟨-, rfl⟩ := Prod.mk.inj hreplace
        obtain ⟨before, after, hold, hnew⟩ := LayoutNode.replaceTerminalUuid_uuids hlayout
        exact Or.inr ⟨layout, before, after, hold, hnew, rfl⟩

/-- The daemon's id for a pane: the runtime is recorded, and the leaf renamed. -/
theorem adoptPane_cases (layoutTerminalUuid runtimeId runtimePaneId : String) :
    w.adoptPane layoutTerminalUuid runtimeId runtimePaneId = w ∨
      w.adoptPane layoutTerminalUuid runtimeId runtimePaneId =
        { w with runtime := { w.runtime with runtimeId := some runtimeId } } ∨
      layoutTerminalUuid ≠ runtimePaneId ∧
        w.adoptPane layoutTerminalUuid runtimeId runtimePaneId =
          Session.rekey { w with runtime := { w.runtime with runtimeId := some runtimeId } }
            layoutTerminalUuid runtimePaneId := by
  unfold adoptPane
  split
  · exact Or.inl rfl
  · by_cases hsame : layoutTerminalUuid ≠ runtimePaneId
    · exact Or.inr (Or.inr ⟨hsame, by simp [hsame]⟩)
    · exact Or.inr (Or.inl (by simp [hsame]))

theorem adoptSnapshotName_eq (session : WorkspaceState) (snapshot : WorkspaceSnapshot) :
    ∃ name userRenamed,
      (adoptSnapshotName session snapshot).2 =
        { session with name := name, userRenamed := userRenamed } := by
  unfold adoptSnapshotName
  split
  · exact ⟨session.name, session.userRenamed, rfl⟩
  · split
    · exact ⟨session.name, session.userRenamed, rfl⟩
    · exact ⟨snapshot.name, snapshot.userRenamed, rfl⟩

/-- A snapshot brings the runtime, a name, and the leaves of its tree, if it has one. -/
theorem adoptSnapshot_cases (runtimeId : String) (snapshot : WorkspaceSnapshot) :
    ∃ name userRenamed active layout,
      w.adoptSnapshot runtimeId snapshot =
        { w with
          name := name
          userRenamed := userRenamed
          runtime := { w.runtime with runtimeId := some runtimeId }
          activeTerminalUuid := active
          layout := layout } ∧
        (renderLayoutFromSnapshot snapshot = none ∧ layout = w.layout ∧
            active = w.activeTerminalUuid ∨
          ∃ rendered, renderLayoutFromSnapshot snapshot = some rendered ∧
            layout.terminalUuids = rendered.terminalUuids ∧
            ∀ t, active = some t → t ∈ rendered.terminalUuids) := by
  obtain ⟨name, userRenamed, hname⟩ := adoptSnapshotName_eq
    { w.toWorkspaceState with runtime := { w.runtime with runtimeId := some runtimeId } } snapshot
  cases hrender : renderLayoutFromSnapshot snapshot with
  | none =>
      refine ⟨name, userRenamed, w.activeTerminalUuid, w.layout, ?_, Or.inl ⟨rfl, rfl, rfl⟩⟩
      simp only [adoptSnapshot, openManagedWorkspace, hrender, keepPlaceholder, hname]
  | some rendered =>
      let placed : WorkspaceState :=
        { w.toWorkspaceState with
          name := name
          userRenamed := userRenamed
          runtime := { w.runtime with runtimeId := some runtimeId }
          layout := rendered
          activeTerminalUuid :=
            (snapshotFocus rendered snapshot).or w.activeTerminalUuid }
      refine ⟨name, userRenamed, placed.normalizeActiveTerminal.activeTerminalUuid,
        (restoresFor (fun id => rendered.terminalUuids.contains id) snapshot).foldl carryCwd
          rendered, ?_, Or.inr ⟨rendered, rfl, ?_, ?_⟩⟩
      · simp only [adoptSnapshot, openManagedWorkspace, hrender, adoptServerTree, hname, placed,
          WorkspaceState.normalizeActiveTerminal]
        split <;> rfl
      · exact LayoutNode.terminalUuids_of_shape (foldl_carryCwd_shape _ rendered)
      · intro t ht
        exact normalizeActive_active ⟨placed, w.terminalRecovery⟩ ht

end Changes

end Session

namespace SessionWindow

section Lists

variable (s : SessionWindow)

/-- A window whose workspaces all satisfy a property. -/
def All (P : Session → Prop) (s : SessionWindow) : Prop :=
  ∀ w ∈ s.workspaces, P w

theorem closeOne_sublist (workspaceId : String) :
    (s.closeOne workspaceId).workspaces.Sublist s.workspaces := by
  unfold closeOne
  cases s.findWorkspace workspaceId with
  | none => exact List.Sublist.refl _
  | some w => exact List.eraseP_sublist

theorem foldl_closeOne_sublist (workspaceIds : List String) :
    (workspaceIds.foldl closeOne s).workspaces.Sublist s.workspaces := by
  induction workspaceIds generalizing s with
  | nil => exact List.Sublist.refl _
  | cons workspaceId rest ih => exact (ih (s.closeOne workspaceId)).trans (s.closeOne_sublist _)

theorem closeSession_sublist (workspaceId : String) :
    (s.closeSession workspaceId).workspaces.Sublist s.workspaces := by
  unfold closeSession
  split
  · exact List.filter_sublist
  · exact s.closeOne_sublist workspaceId

theorem detachRuntime_sublist (workspaceId : String) :
    (s.detachRuntime workspaceId).workspaces.Sublist s.workspaces := by
  unfold detachRuntime
  split
  · exact List.Sublist.refl _
  · cases s.findWorkspace workspaceId with
    | none => exact List.Sublist.refl _
    | some w => exact List.eraseP_sublist

/-- **Moving a workspace permutes the list.** -/
theorem reorderSession_perm (sourceUuid targetUuid : String) :
    (s.reorderSession sourceUuid targetUuid).workspaces.Perm s.workspaces := by
  unfold reorderSession
  split
  · rename_i source target hsource htarget
    split
    · exact List.Perm.refl _
    · rename_i w hw
      obtain ⟨hlt, rfl⟩ := List.getElem?_eq_some_iff.mp hw
      have htlt : target < s.workspaces.length :=
        (List.findIdx?_eq_some_iff_findIdx_eq.mp htarget).1
      have hroom : target ≤ (s.workspaces.eraseIdx source).length := by
        rw [List.length_eraseIdx_of_lt hlt]
        omega
      exact (List.perm_insertIdx _ _ hroom).trans (List.getElem_cons_eraseIdx_perm hlt)
  · exact List.Perm.refl _

end Lists

section Searches

variable {s : SessionWindow}

/-- What a change of the zoom leaves of the workspace that has a terminal. -/
theorem workspaceOf_unzoomed {terminalUuid other : String}
    {visibleWorkspace focusedTerminal : Option String} {w' : Session}
    (h : (s.unzoomed terminalUuid visibleWorkspace focusedTerminal).workspaceOf other =
      some w') :
    ∃ w, s.workspaceOf other = some w ∧
      (w' = w ∧
          ((s.workspaceOf terminalUuid).any (fun w => w.zoomedTerminalUuid.isSome) = true →
            ∀ id, visibleWorkspace = some id → s.findWorkspace id ≠ some w) ∨
        w' = w.toggleZoom focusedTerminal ∧
          (s.workspaceOf terminalUuid).any (fun w => w.zoomedTerminalUuid.isSome) = true) := by
  unfold unzoomed at h
  split at h
  · rename_i hzoomed
    unfold togglePaneZoomFor at h
    split at h
    · exact ⟨w', h, Or.inl ⟨rfl, by simp⟩⟩
    · rename_i workspaceId
      obtain ⟨w, hw, hcases⟩ := find?_updateFirst_cases
        (fun a _ => by simp only [Session.toggleZoom_layout])
        (show (updateFirst (fun w => w.uuid == workspaceId)
          (Session.toggleZoom focusedTerminal) s.workspaces).find?
            (fun w : Session => w.layout.containsTerminal other) = some w' from h)
      refine ⟨w, hw, hcases.imp ?_ (fun htoggled => ⟨htoggled.1, hzoomed⟩)⟩
      rintro ⟨rfl, hne⟩
      refine ⟨rfl, fun _ id hid => ?_⟩
      cases hid
      exact hne
  · rename_i hunzoomed
    exact ⟨w', h, Or.inl ⟨rfl, fun hzoomed => absurd hzoomed hunzoomed⟩⟩

end Searches

section Inventory

/-- The ids of the panes that an inventory lists for a runtime; a runtime without
panes gets one. -/
def inventoryPaneTexts (mint : Nat → String) : List PaneInfo → List String
  | [] => [mint 0]
  | panes => panes.mapIdx (fun index pane => (inventoryPaneId pane).getD (mint index))

theorem layoutFromInventoryPanes_uuids (mint : Nat → String) (panes : List PaneInfo) :
    (layoutFromInventoryPanes mint panes).terminalUuids = inventoryPaneTexts mint panes := by
  cases panes with
  | nil => rfl
  | cons first rest =>
      have hfold : ∀ (rest : List PaneInfo) (layout : LayoutNode) (index : Nat),
          (rest.foldl
            (fun built pane =>
              (LayoutNode.split .horizontal halfRatio built.1
                (layoutTerminalFromInventory pane (mint built.2)), built.2 + 1))
            (layout, index)).1.terminalUuids =
          layout.terminalUuids ++
            rest.mapIdx (fun j pane => (inventoryPaneId pane).getD (mint (index + j))) := by
        intro rest
        induction rest with
        | nil => simp
        | cons pane rest ih =>
            intro layout index
            rw [List.foldl_cons, ih]
            simp [LayoutNode.terminalUuids, layoutTerminalFromInventory, List.mapIdx_cons,
              Nat.add_assoc, Nat.add_comm 1]
      simp only [layoutFromInventoryPanes, inventoryPaneTexts, List.mapIdx_cons]
      rw [hfold]
      simp [LayoutNode.terminalUuids, layoutTerminalFromInventory, Nat.add_comm 1]

/-- A workspace that an inventory brings is that of the first listing of a runtime
that is neither dismissed nor known. -/
theorem mem_recoverFrom {endpoint : RuntimeEndpoint} {dismissed : Finset String}
    {known : List String} {mint : Nat → Nat → String} {workspaces : List WorkspaceInfo}
    {w : WorkspaceState}
    (h : w ∈ DismissingWindow.recoverFrom endpoint dismissed known mint workspaces) :
    ∃ i info id, workspaces[i]? = some info ∧ bytesToUuid info.id = some id ∧
      uuidToString id ∉ dismissed ∧ uuidToString id ∉ known ∧
      (∀ j < i, ∀ other, workspaces[j]? = some other → bytesToUuid other.id ≠ some id) ∧
      recoveredManagedWorkspace endpoint info (mint i) = some w := by
  induction workspaces generalizing known mint with
  | nil => cases h
  | cons head rest ih =>
      -- a workspace of the rest, after a head of another id
      have hlater : ∀ known', (∀ id, uuidToString id ∉ known' → uuidToString id ∉ known) →
          (∀ id, uuidToString id ∉ dismissed → uuidToString id ∉ known' →
            bytesToUuid head.id ≠ some id) →
          w ∈ DismissingWindow.recoverFrom endpoint dismissed known' (fun n => mint (n + 1))
            rest →
          ∃ i info id, (head :: rest)[i]? = some info ∧ bytesToUuid info.id = some id ∧
            uuidToString id ∉ dismissed ∧ uuidToString id ∉ known ∧
            (∀ j < i, ∀ other, (head :: rest)[j]? = some other →
              bytesToUuid other.id ≠ some id) ∧
            recoveredManagedWorkspace endpoint info (mint i) = some w := by
        intro known' hknown hhead hmem
        obtain ⟨i, info, id, hinfo, hid, hdismissed, hnew, hfirst, hw⟩ := ih hmem
        refine ⟨i + 1, info, id, hinfo, hid, hdismissed, hknown id hnew, ?_, hw⟩
        intro j hj other hother
        cases j with
        | zero =>
            cases hother
            exact hhead id hdismissed hnew
        | succ j => exact hfirst j (by omega) other hother
      simp only [DismissingWindow.recoverFrom] at h
      cases hid : bytesToUuid head.id with
      | none =>
          simp only [recoveredManagedWorkspace, hid, Option.map_none] at h
          exact hlater known (fun _ hnew => hnew) (by simp [hid]) h
      | some headId =>
          simp only [recoveredManagedWorkspace, hid, Option.map_some] at h
          split at h
          · rename_i hin
            refine hlater known (fun _ hnew => hnew) (fun id hout _ heq => hout ?_) h
            exact Option.some.inj (hid.symm.trans heq) ▸ hin
          · rename_i hdismissed
            split at h
            · rename_i hin
              refine hlater known (fun _ hnew => hnew) (fun id _ hout heq => hout ?_) h
              exact Option.some.inj (hid.symm.trans heq) ▸ hin
            · rename_i hnew
              rcases List.mem_cons.mp h with rfl | h
              · refine ⟨0, head, headId, rfl, hid, hdismissed, hnew, by simp, ?_⟩
                simp only [recoveredManagedWorkspace, hid, Option.map_some]
              · refine hlater (uuidToString headId :: known)
                  (fun id hout hin => hout (List.mem_cons_of_mem _ hin))
                  (fun id _ hout heq => hout ?_) h
                rw [← Option.some.inj (hid.symm.trans heq)]
                exact List.mem_cons_self

/-- A listed runtime that is neither dismissed nor known. -/
structure Unknown (dismissed : Finset String) (known : List String) (info : WorkspaceInfo)
    (id : Uuid) : Prop where
  id_eq : bytesToUuid info.id = some id
  not_dismissed : uuidToString id ∉ dismissed
  not_known : uuidToString id ∉ known

/-- A relation between the workspaces that an inventory brings, from one between the
listings of two runtimes. -/
theorem recoverFrom_pairwise {R : WorkspaceState → WorkspaceState → Prop}
    {endpoint : RuntimeEndpoint} {dismissed : Finset String} {known : List String}
    {mint : Nat → Nat → String} {workspaces : List WorkspaceInfo}
    (hR : ∀ i j info other id id' w w', i < j →
      workspaces[i]? = some info → workspaces[j]? = some other →
      Unknown dismissed known info id → Unknown dismissed known other id' → id ≠ id' →
      recoveredManagedWorkspace endpoint info (mint i) = some w →
      recoveredManagedWorkspace endpoint other (mint j) = some w' → R w w') :
    (DismissingWindow.recoverFrom endpoint dismissed known mint workspaces).Pairwise R := by
  induction workspaces generalizing known mint with
  | nil => exact List.Pairwise.nil
  | cons head rest ih =>
      -- the workspaces of the rest
      have hrest : ∀ known', (∀ id, id ∈ known → id ∈ known') →
          (DismissingWindow.recoverFrom endpoint dismissed known' (fun n => mint (n + 1))
            rest).Pairwise R := by
        intro known' hknown
        refine ih fun i j info other id id' w w' hlt hinfo hother hnew hnew' hne hw hw' => ?_
        exact hR (i + 1) (j + 1) info other id id' w w' (by omega) hinfo hother
          ⟨hnew.id_eq, hnew.not_dismissed, fun hin => hnew.not_known (hknown _ hin)⟩
          ⟨hnew'.id_eq, hnew'.not_dismissed, fun hin => hnew'.not_known (hknown _ hin)⟩ hne hw hw'
      simp only [DismissingWindow.recoverFrom]
      cases hid : bytesToUuid head.id with
      | none =>
          simp only [recoveredManagedWorkspace, hid, Option.map_none]
          exact hrest known fun _ hin => hin
      | some headId =>
          simp only [recoveredManagedWorkspace, hid, Option.map_some]
          split
          · exact hrest known fun _ hin => hin
          · rename_i hdismissed
            split
            · exact hrest known fun _ hin => hin
            · rename_i hknown
              refine List.pairwise_cons.mpr ⟨fun later hlater => ?_,
                hrest _ fun _ hin => List.mem_cons_of_mem _ hin⟩
              obtain ⟨j, other, id', hother, hid', hdismissed', hnew', _, hw'⟩ :=
                mem_recoverFrom hlater
              refine hR 0 (j + 1) head other headId id' _ later (by omega) rfl hother
                ⟨hid, hdismissed, hknown⟩
                ⟨hid', hdismissed', fun hin => hnew' (List.mem_cons_of_mem _ hin)⟩ ?_
                (by simp only [recoveredManagedWorkspace, hid, Option.map_some]) hw'
              rintro rfl
              exact hnew' List.mem_cons_self

/-- A listed runtime that is neither dismissed nor known is recovered. -/
theorem recoverFrom_covers {endpoint : RuntimeEndpoint} {dismissed : Finset String}
    {known : List String} {mint : Nat → Nat → String} {workspaces : List WorkspaceInfo}
    {info : WorkspaceInfo} {id : Uuid}
    (hinfo : info ∈ workspaces)
    (hid : bytesToUuid info.id = some id)
    (hdismissed : uuidToString id ∉ dismissed)
    (hknown : uuidToString id ∉ known) :
    ∃ w ∈ DismissingWindow.recoverFrom endpoint dismissed known mint workspaces,
      w.runtime = ⟨true, endpoint, some (uuidToString id)⟩ := by
  induction workspaces generalizing known mint with
  | nil => cases hinfo
  | cons head rest ih =>
      simp only [DismissingWindow.recoverFrom]
      rcases List.mem_cons.mp hinfo with rfl | hinfo
      · simp only [recoveredManagedWorkspace, hid, Option.map_some, hdismissed, hknown, if_false]
        exact ⟨_, List.mem_cons_self, rfl⟩
      · cases hhead : bytesToUuid head.id with
        | none =>
            simp only [recoveredManagedWorkspace, hhead, Option.map_none]
            exact ih hinfo hknown
        | some headId =>
            simp only [recoveredManagedWorkspace, hhead, Option.map_some]
            split
            · exact ih hinfo hknown
            · split
              · exact ih hinfo hknown
              · by_cases hsame : uuidToString id = uuidToString headId
                · exact ⟨_, List.mem_cons_self, by rw [hsame]⟩
                · obtain ⟨w, hw, hruntime⟩ := @ih (uuidToString headId :: known)
                    (fun n => mint (n + 1)) hinfo (by simp [hsame, hknown])
                  exact ⟨w, List.mem_cons_of_mem _ hw, hruntime⟩

theorem mem_knownRuntimeIds {s : SessionWindow} {endpoint : RuntimeEndpoint} {id : String} :
    id ∈ s.toDismissingWindow.knownRuntimeIds endpoint ↔
      ∃ w ∈ s.workspaces, w.runtime = ⟨true, endpoint, some id⟩ := by
  simp only [DismissingWindow.knownRuntimeIds, toDismissingWindow, toWindowState,
    List.mem_filterMap, List.mem_filter, List.mem_map, Bool.and_eq_true, beq_iff_eq]
  constructor
  · rintro ⟨state, ⟨⟨w, hw, rfl⟩, hmanaged, hendpoint⟩, hid⟩
    refine ⟨w, hw, ?_⟩
    rw [WorkspaceState.usesManagedRuntime] at hmanaged
    rw [← hmanaged, ← hendpoint, ← hid]
  · rintro ⟨w, hw, hruntime⟩
    refine ⟨w.toWorkspaceState, ⟨⟨w, hw, rfl⟩, ?_, ?_⟩, ?_⟩ <;>
      simp [WorkspaceState.usesManagedRuntime, hruntime]

theorem foldl_setConnectionStatus (s : SessionWindow) (status : ConnectionStatus)
    (sessions : List Session) :
    ∃ statuses, sessions.foldl (fun s w => s.setConnectionStatus w.uuid status) s =
      { s with workspaceConnectionStatus := statuses } := by
  induction sessions generalizing s with
  | nil => exact ⟨s.workspaceConnectionStatus, rfl⟩
  | cons w rest ih => exact ih (s.setConnectionStatus w.uuid status)

/-- What an inventory adds to the list. -/
theorem inventoryLoaded_workspaces (s : SessionWindow) (endpoint : RuntimeEndpoint)
    (workspaces : List WorkspaceInfo) (mint : Nat → Nat → Uuid) :
    (s.inventoryLoaded endpoint workspaces mint).workspaces =
      s.workspaces ++ s.recovered endpoint workspaces mint := by
  simp only [inventoryLoaded]
  split
  · rename_i hnone
    rw [hnone, List.append_nil]
  · obtain ⟨statuses, hfold⟩ := foldl_setConnectionStatus
      (rebuildPaneReverseIndex
        { s with
          workspaces := s.workspaces ++ s.recovered endpoint workspaces mint
          dismissedRuntimeIds :=
            s.dismissedRuntimeIds.filter (fun id => id ∈ inventoryIds workspaces) })
      .connecting (s.recovered endpoint workspaces mint)
    rw [hfold]
    rfl

end Inventory

end SessionWindow

end Client
end Rttx
