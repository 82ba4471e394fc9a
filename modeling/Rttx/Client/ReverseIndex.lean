import Rttx.Client.SessionEffects

/-!
# The reverse index of panes

The index takes the key of an endpoint and the id of a pane to the workspace whose
layout has the pane.  It is derived from the workspaces, and most operations that
change them rebuild it.  Four do not: a new managed workspace, a split, the removal
of a pane without the daemon, and a new endpoint of a workspace.

A rebuilt index agrees with a search through the workspaces only while no pane is
shown by two workspaces of one endpoint: the index keeps the last one, the search
finds the first.

**Results.**
* `lookup_rebuilt`: a rebuilt index agrees with the search.
* `reverse_index_exact`: the index agrees with the search in every run whose
  operations meet `KeepsIndex`.
* `moved_workspace_not_indexed`: a workspace that is connected to another host, and a
  pane that only the search finds.
-/

namespace Rttx
namespace Client

open Kernel Server

namespace Session

/-- The workspace is managed on this endpoint and shows the pane. -/
def showsPane (endpointKey paneId : String) (w : Session) : Bool :=
  w.usesManagedRuntime && w.runtime.endpoint.key == endpointKey &&
    w.layout.containsTerminal paneId

theorem showsPane_iff {w : Session} {endpointKey paneId : String} :
    w.showsPane endpointKey paneId = true ↔
      w.runtime.managed = true ∧ w.runtime.endpoint.key = endpointKey ∧
        paneId ∈ w.layout.terminalUuids := by
  simp only [showsPane, WorkspaceState.usesManagedRuntime, Bool.and_eq_true, beq_iff_eq,
    LayoutNode.containsTerminal_iff, and_assoc]

end Session

/-- The id has no NUL, which separates the parts of an index key. -/
def NulFree (id : String) : Prop :=
  '\x00' ∉ id.toList

theorem nulFree_uuidToString (id : Uuid) : NulFree (uuidToString id) := by
  intro hin
  have hdigits : ∀ c ∈ (List.range 32).map (fun i => hexDigit (id.toNat / 16 ^ (31 - i) % 16)),
      c ≠ '\x00' := by
    intro c hc
    obtain ⟨i, _, rfl⟩ := List.mem_map.mp hc
    have hlt : id.toNat / 16 ^ (31 - i) % 16 < 16 := Nat.mod_lt _ (by omega)
    generalize id.toNat / 16 ^ (31 - i) % 16 = n at hlt
    revert n
    decide
  have hkept : '\x00' ∈ (uuidToString id).toList.filter (fun c => c ≠ '-') :=
    List.mem_filter.mpr ⟨hin, by decide⟩
  rw [digits_uuidToString] at hkept
  exact hdigits _ hkept rfl

/-- A list is cut at the last occurrence of an element in one way. -/
theorem cut_at_last {α : Type} {x : α} {before before' after after' : List α}
    (hafter : x ∉ after)
    (hafter' : x ∉ after')
    (h : before ++ x :: after = before' ++ x :: after') :
    before = before' ∧ after = after' := by
  rcases List.append_eq_append_iff.mp h with ⟨extra, rfl, hextra⟩ | ⟨extra, rfl, hextra⟩
  · cases extra with
    | nil => simpa using hextra
    | cons y extra =>
        have hrest := (List.cons.inj hextra).2
        exact absurd (hrest ▸ by simp) hafter
  · cases extra with
    | nil => simpa using hextra.symm
    | cons y extra =>
        have hrest := (List.cons.inj hextra).2
        exact absurd (hrest ▸ by simp) hafter'

/-- The parts of an index key. -/
theorem paneIndexKey_inj {key key' id id' : String}
    (hid : NulFree id)
    (hid' : NulFree id') :
    WindowState.paneIndexKey key id = WindowState.paneIndexKey key' id' ↔
      key = key' ∧ id = id' := by
  constructor
  · intro h
    have hlist := congrArg String.toList h
    simp only [WindowState.paneIndexKey, String.toList_append, List.append_assoc] at hlist
    obtain ⟨hkey, hrest⟩ := cut_at_last hid hid' hlist
    exact ⟨String.toList_inj.mp hkey, String.toList_inj.mp hrest⟩
  · rintro ⟨rfl, rfl⟩
    rfl

namespace SessionWindow

/-- Look a pane up in the workspaces, one after the other. -/
def linearSearch (s : SessionWindow) (endpointKey paneId : String) : Option (String × String) :=
  (s.workspaces.find? (Session.showsPane endpointKey paneId)).map (fun w => (w.uuid, paneId))

/-- The index answers as the search does. -/
def IndexExact (s : SessionWindow) : Prop :=
  ∀ (endpoint : RuntimeEndpoint) (paneId : String), NulFree paneId →
    s.toWindowState.runtimePaneTarget endpoint paneId = s.linearSearch endpoint.key paneId

/-- The entries of the index: those of each managed workspace. -/
def indexEntries (s : SessionWindow) : List (String × (String × String)) :=
  s.workspaces.flatMap fun w =>
    if w.usesManagedRuntime then
      w.layout.terminalUuids.map fun uuid =>
        (WindowState.paneIndexKey w.runtime.endpoint.key uuid, (w.uuid, uuid))
    else
      []

/-- No pane is shown by two workspaces of one endpoint. -/
def PanesApart (workspaces : List Session) : Prop :=
  workspaces.Pairwise fun w w' => ∀ endpointKey paneId,
    w.showsPane endpointKey paneId = true → w'.showsPane endpointKey paneId = false

/-- The panes of managed workspaces have ids without a NUL. -/
def PanesNulFree (workspaces : List Session) : Prop :=
  ∀ w ∈ workspaces, ∀ endpointKey paneId, w.showsPane endpointKey paneId = true → NulFree paneId

section Rebuilt

variable {s : SessionWindow}

theorem rebuildPaneReverseIndex_entries (s : SessionWindow) :
    s.rebuildPaneReverseIndex.paneReverseIndex =
      s.indexEntries.foldl (fun index e => index.insert e.1 e.2) ∅ := by
  simp only [rebuildPaneReverseIndex, WindowState.rebuildPaneReverseIndex, toWindowState,
    indexEntries, List.foldl_map, List.foldl_flatMap]
  congr 1
  funext index w
  simp only [WindowState.indexWorkspace]
  split
  · rw [List.foldl_map]
  · rfl

/-- What the search finds is what one workspace shows. -/
theorem linearSearch_eq_some {endpointKey paneId : String} {target : String × String}
    (hapart : PanesApart s.workspaces) :
    s.linearSearch endpointKey paneId = some target ↔
      ∃ w ∈ s.workspaces, w.showsPane endpointKey paneId = true ∧ target = (w.uuid, paneId) := by
  rw [linearSearch, Option.map_eq_some_iff]
  constructor
  · rintro ⟨w, hw, rfl⟩
    exact ⟨w, List.mem_of_find?_eq_some hw, List.find?_some hw, rfl⟩
  · rintro ⟨w, hw, hshows, rfl⟩
    obtain ⟨found, hfound⟩ := Option.isSome_iff_exists.mp
      (List.find?_isSome.mpr ⟨w, hw, hshows⟩)
    have hsame : found = w := by
      by_contra hne
      have hsymm : Std.Symm fun w w' : Session => ∀ endpointKey paneId,
          w.showsPane endpointKey paneId = true → w'.showsPane endpointKey paneId = false := by
        refine ⟨fun a b hab endpointKey paneId hb => ?_⟩
        by_contra ha
        rw [Bool.not_eq_false] at ha
        exact absurd (hab endpointKey paneId ha) (by simp [hb])
      have hnot := hapart.forall (List.mem_of_find?_eq_some hfound) hw hne endpointKey paneId
        (List.find?_some hfound)
      rw [hshows] at hnot
      cases hnot
    exact ⟨found, hfound, by rw [hsame]⟩

/-- **A rebuilt index answers as the search does.** -/
theorem lookup_rebuilt
    (hapart : PanesApart s.workspaces)
    (hnul : PanesNulFree s.workspaces) :
    s.rebuildPaneReverseIndex.IndexExact := by
  -- an entry is a pane that a workspace shows
  have hentries : ∀ endpointKey paneId target, NulFree paneId →
      ((WindowState.paneIndexKey endpointKey paneId, target) ∈ s.indexEntries ↔
        ∃ w ∈ s.workspaces, w.showsPane endpointKey paneId = true ∧
          target = (w.uuid, paneId)) := by
    intro endpointKey paneId target hfree
    simp only [indexEntries, List.mem_flatMap]
    refine exists_congr fun w => and_congr_right fun hw => ?_
    constructor
    · intro hin
      split at hin
      · rename_i hmanaged
        obtain ⟨uuid, huuid, heq⟩ := List.mem_map.mp hin
        obtain ⟨hkey, htarget⟩ := Prod.mk.inj heq
        have hshows : w.showsPane w.runtime.endpoint.key uuid = true :=
          Session.showsPane_iff.mpr ⟨hmanaged, rfl, huuid⟩
        obtain ⟨rfl, rfl⟩ := (paneIndexKey_inj (hnul w hw _ _ hshows) hfree).mp hkey
        exact ⟨hshows, htarget.symm⟩
      · cases hin
    · rintro ⟨hshows, rfl⟩
      obtain ⟨hmanaged, rfl, hmem⟩ := Session.showsPane_iff.mp hshows
      rw [if_pos (show w.usesManagedRuntime = true from hmanaged)]
      exact List.mem_map.mpr ⟨paneId, hmem, rfl⟩
  have hagree : ∀ e ∈ s.indexEntries, ∀ e' ∈ s.indexEntries, e.1 = e'.1 → e.2 = e'.2 := by
    -- both entries are answers of the search
    have hanswer : ∀ e ∈ s.indexEntries, ∃ endpointKey paneId, NulFree paneId ∧
        e.1 = WindowState.paneIndexKey endpointKey paneId ∧
        s.linearSearch endpointKey paneId = some e.2 := by
      intro e he
      obtain ⟨w, hw, hin⟩ := List.mem_flatMap.mp he
      split at hin
      · rename_i hmanaged
        obtain ⟨uuid, huuid, rfl⟩ := List.mem_map.mp hin
        have hshows : w.showsPane w.runtime.endpoint.key uuid = true :=
          Session.showsPane_iff.mpr ⟨hmanaged, rfl, huuid⟩
        exact ⟨_, uuid, hnul w hw _ _ hshows, rfl,
          (linearSearch_eq_some hapart).mpr ⟨w, hw, hshows, rfl⟩⟩
      · cases hin
    intro e he e' he' heq
    obtain ⟨key, id, hfree, hkey, hfound⟩ := hanswer e he
    obtain ⟨key', id', hfree', hkey', hfound'⟩ := hanswer e' he'
    obtain ⟨rfl, rfl⟩ := (paneIndexKey_inj hfree hfree').mp (hkey ▸ hkey' ▸ heq)
    exact Option.some.inj (hfound.symm.trans hfound')
  intro endpoint paneId hfree
  refine Option.ext fun target => ?_
  rw [WindowState.runtimePaneTarget, toWindowState, rebuildPaneReverseIndex_entries,
    HashMap.lookup_foldl_insert hagree, hentries endpoint.key paneId target hfree]
  exact (linearSearch_eq_some (s := s) hapart).symm

end Rebuilt

section Alike

/-- A change of a workspace that the search does not see. -/
def Alike (w w' : Session) : Prop :=
  w'.uuid = w.uuid ∧
    ∀ endpointKey paneId, w'.showsPane endpointKey paneId = w.showsPane endpointKey paneId

theorem Alike.refl (w : Session) : Alike w w :=
  ⟨rfl, fun _ _ => rfl⟩

/-- The same runtime and the same set of leaves. -/
theorem Alike.of_leaves {w w' : Session}
    (huuid : w'.uuid = w.uuid)
    (hruntime : w'.runtime = w.runtime)
    (hleaves : ∀ t, t ∈ w'.layout.terminalUuids ↔ t ∈ w.layout.terminalUuids) :
    Alike w w' := by
  refine ⟨huuid, fun endpointKey paneId => ?_⟩
  rw [Bool.eq_iff_iff, Session.showsPane_iff, Session.showsPane_iff, hruntime, hleaves]

/-- The search does not look at an unmanaged workspace. -/
theorem Alike.of_unmanaged {w w' : Session}
    (huuid : w'.uuid = w.uuid)
    (hmanaged : w.runtime.managed = false)
    (hmanaged' : w'.runtime.managed = false) :
    Alike w w' := by
  refine ⟨huuid, fun endpointKey paneId => ?_⟩
  rw [Bool.eq_iff_iff, Session.showsPane_iff, Session.showsPane_iff, hmanaged, hmanaged']
  simp

variable {l l' : List Session}

theorem PanesApart.of_alike
    (h : PanesApart l)
    (halike : List.Forall₂ Alike l l') :
    PanesApart l' := by
  induction halike with
  | nil => exact List.Pairwise.nil
  | cons hw hrest ih =>
      obtain ⟨hothers, htail⟩ := List.pairwise_cons.mp h
      refine List.pairwise_cons.mpr ⟨fun other' hother' endpointKey paneId hshows => ?_, ih htail⟩
      obtain ⟨other, hother, halike⟩ := exists_of_forall₂ hrest other' hother'
      rw [halike.2]
      exact hothers other hother endpointKey paneId (hw.2 endpointKey paneId ▸ hshows)

theorem PanesNulFree.of_alike
    (h : PanesNulFree l)
    (halike : List.Forall₂ Alike l l') :
    PanesNulFree l' := by
  intro w' hw' endpointKey paneId hshows
  obtain ⟨w, hw, hsame⟩ := exists_of_forall₂ halike w' hw'
  exact h w hw endpointKey paneId (hsame.2 endpointKey paneId ▸ hshows)

theorem find?_of_alike
    (halike : List.Forall₂ Alike l l')
    (endpointKey paneId : String) :
    (l'.find? (Session.showsPane endpointKey paneId)).map (fun w => (w.uuid, paneId)) =
      (l.find? (Session.showsPane endpointKey paneId)).map (fun w => (w.uuid, paneId)) := by
  induction halike with
  | nil => rfl
  | cons hw hrest ih =>
      rw [List.find?_cons, List.find?_cons, hw.2]
      split
      · rw [Option.map_some, Option.map_some, hw.1]
      · exact ih

end Alike

/-- What carries through a run. -/
structure Indexed (s : SessionWindow) : Prop where
  exact : s.IndexExact
  apart : PanesApart s.workspaces
  nulFree : PanesNulFree s.workspaces

section Steps

variable {s s' : SessionWindow}

/-- A change that neither the search nor the index sees. -/
theorem Indexed.of_alike
    (h : s.Indexed)
    (halike : List.Forall₂ Alike s.workspaces s'.workspaces)
    (hindex : s'.paneReverseIndex = s.paneReverseIndex) :
    s'.Indexed := by
  refine ⟨fun endpoint paneId hfree => ?_, h.apart.of_alike halike, h.nulFree.of_alike halike⟩
  rw [linearSearch, find?_of_alike halike]
  have hexact := h.exact endpoint paneId hfree
  rw [WindowState.runtimePaneTarget, toWindowState] at hexact ⊢
  rw [hindex]
  exact hexact

theorem Indexed.updateWorkspace {workspaceId : String} {f : Session → Session}
    (h : s.Indexed)
    (hf : ∀ w, s.findWorkspace workspaceId = some w → Alike w (f w)) :
    (s.updateWorkspace workspaceId f).Indexed :=
  h.of_alike (forall₂_updateFirst Alike.refl hf) rfl

theorem Indexed.updateWorkspaceOf {terminalUuid : String} {f : Session → Session}
    (h : s.Indexed)
    (hf : ∀ w, s.workspaceOf terminalUuid = some w → Alike w (f w)) :
    (s.updateWorkspaceOf terminalUuid f).Indexed :=
  h.of_alike (forall₂_updateFirst Alike.refl hf) rfl

/-- An operation that ends in rebuilding the index. -/
theorem Indexed.rebuilt
    (hapart : PanesApart s.workspaces)
    (hnul : PanesNulFree s.workspaces) :
    s.rebuildPaneReverseIndex.Indexed :=
  ⟨lookup_rebuilt hapart hnul, hapart, hnul⟩

/-- The status of a connection and the dismissals are beside the index. -/
theorem Indexed.of_fields
    (h : s.Indexed)
    (hworkspaces : s'.workspaces = s.workspaces)
    (hindex : s'.paneReverseIndex = s.paneReverseIndex) :
    s'.Indexed :=
  h.of_alike (hworkspaces ▸ List.forall₂_same.mpr fun w _ => Alike.refl w) hindex

theorem PanesApart.sublist {l l' : List Session}
    (h : PanesApart l)
    (hsub : l'.Sublist l) :
    PanesApart l' :=
  List.Pairwise.sublist hsub h

theorem PanesNulFree.subset {l l' : List Session}
    (h : PanesNulFree l)
    (hsub : ∀ w ∈ l', w ∈ l) :
    PanesNulFree l' :=
  fun w hw => h w (hsub w hw)

end Steps

section Conditions

variable (s : SessionWindow)

/-- No other workspace shows the pane. -/
def NotShownElsewhere (workspaceId endpointKey paneId : String) : Prop :=
  ∀ other ∈ s.workspaces.eraseP (fun w => w.uuid == workspaceId),
    other.showsPane endpointKey paneId = false

/-- **The operations that keep the index exact.** -/
def KeepsIndex : WindowOp → Prop
  | .addManagedSession _ _ _ _ | .attachToExistingRuntime _ _ _ _ => False
  | .splitTerminal terminalUuid _ _ _ =>
      ∀ w, s.workspaceOf terminalUuid = some w → w.runtime.managed = true →
        (w.layout.depthOfTerminal terminalUuid).any (fun depth => maxSplitDepth ≤ depth) = true
  | .closeTerminal terminalUuid _ _ =>
      ∀ w, s.workspaceOf terminalUuid = some w → w.runtime.managed = true →
        (w.managedCloseTarget terminalUuid).isSome = true ∨ w.layout.terminalCount ≤ 1
  | .updateWorkspaceEndpoint workspaceId host =>
      ∀ w, s.findWorkspace workspaceId = some w → w.runtime.managed = true →
        w.runtime.endpoint.key = RuntimeEndpoint.key (.remote host none)
  | .workspaceOpened workspaceId _ snapshot =>
      ∀ w rendered, s.findWorkspace workspaceId = some w → w.runtime.managed = true →
        renderLayoutFromSnapshot snapshot = some rendered →
        ∀ t ∈ rendered.terminalUuids, s.NotShownElsewhere workspaceId w.runtime.endpoint.key t
  | .paneCreated workspaceId layoutTerminalUuid _ runtimePaneId =>
      ∀ w, s.findWorkspace workspaceId = some w → w.runtime.managed = true →
        layoutTerminalUuid ∈ w.layout.terminalUuids →
        s.NotShownElsewhere workspaceId w.runtime.endpoint.key (uuidToString runtimePaneId)
  | .inventoryLoaded endpoint workspaces mint =>
      let texts (i : Nat) (info : WorkspaceInfo) :=
        inventoryPaneTexts (fun j => uuidToString (mint i j)) info.panes
      let Brings (i : Nat) (info : WorkspaceInfo) (id : Uuid) :=
        workspaces[i]? = some info ∧
          Unknown s.dismissedRuntimeIds (s.toDismissingWindow.knownRuntimeIds endpoint) info id
      (∀ i info id, Brings i info id →
          (∀ j < i, ∀ other, workspaces[j]? = some other → bytesToUuid other.id ≠ some id) →
          ∀ t ∈ texts i info, ∀ w ∈ s.workspaces, w.showsPane endpoint.key t = false) ∧
        ∀ i j info other id id', i < j → Brings i info id → Brings j other id' → id ≠ id' →
          ∀ t ∈ texts i info, t ∉ texts j other
  | _ => True

end Conditions

section Operations

variable {s : SessionWindow}

theorem panesApart_symm (w w' : Session)
    (h : ∀ endpointKey paneId, w.showsPane endpointKey paneId = true →
      w'.showsPane endpointKey paneId = false)
    (endpointKey paneId : String)
    (hshows : w'.showsPane endpointKey paneId = true) :
    w.showsPane endpointKey paneId = false := by
  by_contra hboth
  rw [h endpointKey paneId (by simpa using hboth)] at hshows
  cases hshows

/-- A workspace is changed and the index rebuilt: what it shows is what it showed, and
panes that no other workspace shows. -/
theorem Indexed.rebuildUpdate {workspaceId : String} {f : Session → Session}
    (h : s.Indexed)
    (hf : ∀ w, s.findWorkspace workspaceId = some w → ∀ endpointKey paneId,
      (f w).showsPane endpointKey paneId = true → w.showsPane endpointKey paneId = true ∨
        NulFree paneId ∧ s.NotShownElsewhere workspaceId endpointKey paneId) :
    (s.updateWorkspace workspaceId f).rebuildPaneReverseIndex.Indexed := by
  refine Indexed.rebuilt ?_ ?_
  · refine pairwise_updateFirst panesApart_symm h.apart ?_
    intro w hw other hother hapart endpointKey paneId hshows
    rcases hf w hw endpointKey paneId hshows with hbefore | ⟨_, helsewhere⟩
    · exact hapart endpointKey paneId hbefore
    · exact helsewhere other hother
  · refine forall_updateFirst h.nulFree ?_
    intro w hw hfree endpointKey paneId hshows
    rcases hf w hw endpointKey paneId hshows with hbefore | ⟨hnul, _⟩
    · exact hfree endpointKey paneId hbefore
    · exact hnul

theorem Indexed.togglePaneZoomFor
    (h : s.Indexed)
    (visibleWorkspace target : Option String) :
    (s.togglePaneZoomFor visibleWorkspace target).Indexed := by
  cases visibleWorkspace with
  | none => exact h
  | some workspaceId =>
      refine h.updateWorkspace fun w _ => ?_
      rcases w.toggleZoom_cases target with heq | heq | ⟨t, _, _, _, heq⟩ <;> rw [heq]
      · exact Alike.refl w
      · exact Alike.of_leaves rfl rfl fun t => Iff.rfl
      · exact Alike.of_leaves rfl rfl fun t => Iff.rfl

theorem Indexed.unzoomed
    (h : s.Indexed)
    (terminalUuid : String)
    (visibleWorkspace focusedTerminal : Option String) :
    (s.unzoomed terminalUuid visibleWorkspace focusedTerminal).Indexed := by
  unfold SessionWindow.unzoomed
  split
  · exact h.togglePaneZoomFor visibleWorkspace focusedTerminal
  · exact h

/-- The zoom leaves the layout, the runtime and the target of a close. -/
theorem workspaceOf_unzoomed_fields {terminalUuid : String}
    {visibleWorkspace focusedTerminal : Option String} {w' : Session}
    (h : (s.unzoomed terminalUuid visibleWorkspace focusedTerminal).workspaceOf terminalUuid =
      some w') :
    ∃ w, s.workspaceOf terminalUuid = some w ∧ w'.layout = w.layout ∧ w'.runtime = w.runtime ∧
      w'.managedCloseTarget terminalUuid = w.managedCloseTarget terminalUuid := by
  obtain ⟨w, hw, hcases⟩ := workspaceOf_unzoomed h
  refine ⟨w, hw, ?_⟩
  rcases hcases with ⟨rfl, _⟩ | ⟨rfl, _⟩
  · exact ⟨rfl, rfl, rfl⟩
  · rcases w.toggleZoom_cases focusedTerminal with heq | heq | ⟨t, _, _, _, heq⟩ <;>
      rw [heq] <;> exact ⟨rfl, rfl, rfl⟩

theorem Indexed.splitTerminal {terminalUuid : String} {newId : Uuid}
    {orientation : SplitOrientation} {view : SplitView}
    (h : s.Indexed)
    (hok : s.KeepsIndex (.splitTerminal terminalUuid newId orientation view)) :
    (s.splitTerminal terminalUuid newId orientation view).Indexed := by
  refine (h.unzoomed _ _ _).updateWorkspaceOf fun w' hw' => ?_
  obtain ⟨w, hw, hlayout, hruntime, _⟩ := workspaceOf_unzoomed_fields hw'
  cases hmanaged : w.runtime.managed with
  | true =>
      -- the split is refused
      have hdeep := hok w hw hmanaged
      rw [← hlayout] at hdeep
      rw [Session.splitPane, if_pos hdeep]
      exact Alike.refl w'
  | false =>
      rw [← hruntime] at hmanaged
      rcases w'.splitPane_cases terminalUuid (uuidToString newId) orientation view with
        heq | ⟨layout, _, heq⟩
      · rw [heq]
        exact Alike.refl w'
      · rw [heq]
        refine Alike.of_unmanaged ?_ hmanaged ?_
        · exact Session.normalizeActive_uuid _
        · change (Session.normalizeActive _).runtime.managed = false
          rw [Session.normalizeActive_runtime]
          exact hmanaged

theorem Indexed.closeOne
    (h : s.Indexed)
    (workspaceId : String) :
    (s.closeOne workspaceId).Indexed := by
  unfold SessionWindow.closeOne
  cases s.findWorkspace workspaceId with
  | none => exact h
  | some w =>
      have hout : (s.takeOut workspaceId).Indexed :=
        .rebuilt (h.apart.sublist List.eraseP_sublist)
          (h.nulFree.subset fun w hw => List.mem_of_mem_eraseP hw)
      exact hout.of_fields rfl rfl

theorem Indexed.closeSession
    (h : s.Indexed)
    (workspaceId : String) :
    (s.closeSession workspaceId).Indexed := by
  unfold SessionWindow.closeSession
  split
  · exact .rebuilt (h.apart.sublist List.filter_sublist)
      (h.nulFree.subset fun w hw => (List.mem_filter.mp hw).1)
  · exact h.closeOne workspaceId

theorem Indexed.foldl_closeOne
    (h : s.Indexed)
    (workspaceIds : List String) :
    (workspaceIds.foldl SessionWindow.closeOne s).Indexed := by
  induction workspaceIds generalizing s with
  | nil => exact h
  | cons workspaceId rest ih => exact ih (h.closeOne workspaceId)

theorem Indexed.detachRuntime
    (h : s.Indexed)
    (workspaceId : String) :
    (s.detachRuntime workspaceId).Indexed := by
  unfold SessionWindow.detachRuntime
  split
  · exact h
  · cases s.findWorkspace workspaceId with
    | none => exact h
    | some w =>
        have hout : (s.takeOut workspaceId).Indexed :=
          .rebuilt (h.apart.sublist List.eraseP_sublist)
            (h.nulFree.subset fun w hw => List.mem_of_mem_eraseP hw)
        exact hout.of_fields rfl rfl

theorem Indexed.closeTerminal {terminalUuid : String}
    {visibleWorkspace focusedTerminal : Option String}
    (h : s.Indexed)
    (hok : s.KeepsIndex (.closeTerminal terminalUuid visibleWorkspace focusedTerminal)) :
    (s.closeTerminal terminalUuid visibleWorkspace focusedTerminal).Indexed := by
  have hunzoomed := h.unzoomed terminalUuid visibleWorkspace focusedTerminal
  simp only [SessionWindow.closeTerminal]
  split
  · exact hunzoomed
  · rename_i w' hw'
    split
    · exact hunzoomed
    · rename_i hlocal
      split
      · exact hunzoomed.closeSession w'.uuid
      · rename_i hseveral
        obtain ⟨w, hw, hlayout, hruntime, htarget⟩ := workspaceOf_unzoomed_fields hw'
        refine hunzoomed.updateWorkspaceOf fun found hfound => ?_
        rw [hw'] at hfound
        cases hfound
        have hmanaged : w'.runtime.managed = false := by
          by_contra hmanaged
          rw [hruntime, Bool.not_eq_false] at hmanaged
          rw [htarget] at hlocal
          rw [hlayout] at hseveral
          exact (hok w hw hmanaged).elim hlocal hseveral
        unfold Session.removeLocally
        split
        · exact Alike.refl w'
        · refine Alike.of_unmanaged (Session.normalizeActive_uuid _) hmanaged ?_
          rw [Session.normalizeActive_runtime]
          exact hmanaged

/-- The leaves of a daemon's tree are named by ids. -/
theorem nulFree_layoutFromPaneTree {node : PaneTreeNode} {layout : LayoutNode}
    (h : layoutFromPaneTree node = some layout) :
    ∀ t ∈ layout.terminalUuids, NulFree t := by
  induction node generalizing layout with
  | missing => cases h
  | leaf paneId =>
      obtain ⟨text, htext, rfl⟩ := Option.map_eq_some_iff.mp h
      obtain ⟨id, _, rfl⟩ := Option.map_eq_some_iff.mp htext
      intro t ht
      rw [List.mem_singleton.mp ht]
      exact nulFree_uuidToString id
  | split axis ratio first second ih₁ ih₂ =>
      simp only [layoutFromPaneTree] at h
      split at h
      · rename_i l₁ l₂ hfirst hsecond
        cases h
        intro t ht
        rcases List.mem_append.mp ht with ht | ht
        · exact ih₁ hfirst t ht
        · exact ih₂ hsecond t ht
      · rename_i l₁ hfirst hsecond
        cases h
        exact ih₁ hfirst
      · rename_i l₂ hfirst hsecond
        cases h
        exact ih₂ hsecond
      · cases h

theorem Indexed.workspaceOpened {workspaceId runtimeId : String} {snapshot : WorkspaceSnapshot}
    (h : s.Indexed)
    (hok : s.KeepsIndex (.workspaceOpened workspaceId runtimeId snapshot)) :
    (s.workspaceOpened workspaceId runtimeId snapshot).Indexed := by
  unfold SessionWindow.workspaceOpened
  split
  · exact h
  · refine h.rebuildUpdate fun w hw endpointKey paneId hshows => ?_
    obtain ⟨name, userRenamed, active, layout, heq, hcases⟩ :=
      w.adoptSnapshot_cases runtimeId snapshot
    rw [heq] at hshows
    obtain ⟨hmanaged, hkey, hmem⟩ := Session.showsPane_iff.mp hshows
    rcases hcases with ⟨_, rfl, _⟩ | ⟨rendered, hrender, huuids, _⟩
    · exact Or.inl (Session.showsPane_iff.mpr ⟨hmanaged, hkey, hmem⟩)
    · have hleaf : paneId ∈ rendered.terminalUuids := huuids ▸ hmem
      obtain ⟨node, _, hnode⟩ := Option.bind_eq_some_iff.mp hrender
      exact Or.inr ⟨nulFree_layoutFromPaneTree hnode paneId hleaf,
        hkey ▸ hok w rendered hw hmanaged hrender paneId hleaf⟩

theorem Indexed.paneCreated {workspaceId layoutTerminalUuid runtimeId : String}
    {runtimePaneId : Uuid}
    (h : s.Indexed)
    (hok : s.KeepsIndex (.paneCreated workspaceId layoutTerminalUuid runtimeId runtimePaneId)) :
    (s.paneCreated workspaceId layoutTerminalUuid runtimeId runtimePaneId).Indexed := by
  unfold SessionWindow.paneCreated
  split
  · rename_i hany
    have hupdated : (s.updateWorkspace workspaceId (Session.adoptPane layoutTerminalUuid runtimeId
        (uuidToString runtimePaneId))).rebuildPaneReverseIndex.Indexed := by
      refine h.rebuildUpdate fun w hw endpointKey paneId hshows => ?_
      rw [hw, Option.any_some, LayoutNode.containsTerminal_iff] at hany
      rcases w.adoptPane_cases layoutTerminalUuid runtimeId (uuidToString runtimePaneId) with
        heq | heq | ⟨_, heq⟩
      · exact Or.inl (heq ▸ hshows)
      · rw [heq] at hshows
        exact Or.inl hshows
      · rw [heq] at hshows
        rcases Session.rekey_cases _ layoutTerminalUuid (uuidToString runtimePaneId) with
          hsame | ⟨layout, before, after, hold, hnew, hrekey⟩
        · rw [hsame] at hshows
          exact Or.inl hshows
        · rw [hrekey] at hshows
          obtain ⟨hmanaged, hkey, hmem⟩ := Session.showsPane_iff.mp hshows
          change paneId ∈ layout.terminalUuids at hmem
          by_cases hpane : paneId = uuidToString runtimePaneId
          · subst hpane
            exact Or.inr ⟨nulFree_uuidToString runtimePaneId, hkey ▸ hok w hw hmanaged hany⟩
          · refine Or.inl (Session.showsPane_iff.mpr ⟨hmanaged, hkey, ?_⟩)
            change w.layout.terminalUuids = _ at hold
            rw [hnew, List.mem_append, List.mem_cons] at hmem
            rw [hold, List.mem_append, List.mem_cons]
            exact hmem.imp_right fun hmem => Or.inr (hmem.resolve_left hpane)
    exact hupdated.of_fields rfl rfl
  · exact h

theorem Indexed.paneClosed
    (h : s.Indexed)
    (workspaceId layoutTerminalUuid : String) :
    (s.paneClosed workspaceId layoutTerminalUuid).Indexed := by
  unfold SessionWindow.paneClosed
  split
  · refine h.rebuildUpdate fun w _ endpointKey paneId hshows => Or.inl ?_
    unfold Session.removeClosed at hshows
    split at hshows
    · exact hshows
    · rename_i layout hlayout
      obtain ⟨hmanaged, hkey, hmem⟩ := Session.showsPane_iff.mp hshows
      rw [Session.normalizeActive_runtime] at hmanaged hkey
      rw [Session.normalizeActive_layout] at hmem
      change paneId ∈ layout.terminalUuids at hmem
      rw [LayoutNode.removeTerminal_some_uuids hlayout] at hmem
      exact Session.showsPane_iff.mpr ⟨hmanaged, hkey, (List.mem_filter.mp hmem).1⟩
  · exact h

/-- What a workspace that an inventory brings shows. -/
theorem showsPane_recovered {endpoint : RuntimeEndpoint} {info : WorkspaceInfo}
    {mint : Nat → String} {w : WorkspaceState} {endpointKey paneId : String}
    (h : recoveredManagedWorkspace endpoint info mint = some w) :
    (Session.ofRecovered w).showsPane endpointKey paneId = true ↔
      endpoint.key = endpointKey ∧ paneId ∈ inventoryPaneTexts mint info.panes := by
  obtain ⟨id, _, rfl⟩ := Option.map_eq_some_iff.mp h
  rw [Session.showsPane_iff]
  simp only [Session.ofRecovered, layoutFromInventoryPanes_uuids, true_and]

theorem nulFree_inventoryPaneTexts {mint : Nat → Uuid} {panes : List PaneInfo} {t : String}
    (h : t ∈ inventoryPaneTexts (fun j => uuidToString (mint j)) panes) :
    NulFree t := by
  cases panes with
  | nil =>
      rw [List.mem_singleton.mp h]
      exact nulFree_uuidToString _
  | cons first rest =>
      obtain ⟨j, _, rfl⟩ := List.mem_mapIdx.mp h
      cases hid : inventoryPaneId (first :: rest)[j] with
      | none => exact nulFree_uuidToString _
      | some text =>
          obtain ⟨id, _, rfl⟩ := Option.map_eq_some_iff.mp hid
          exact nulFree_uuidToString id

theorem Indexed.inventoryLoaded {endpoint : RuntimeEndpoint} {workspaces : List WorkspaceInfo}
    {mint : Nat → Nat → Uuid}
    (h : s.Indexed)
    (hok : s.KeepsIndex (.inventoryLoaded endpoint workspaces mint)) :
    (s.inventoryLoaded endpoint workspaces mint).Indexed := by
  obtain ⟨hshown, hlisted⟩ := hok
  -- the dismissals that are in force are the ones that are listed
  have hunknown : ∀ {info id}, info ∈ workspaces →
      Unknown (s.dismissedRuntimeIds.filter (fun id => id ∈ inventoryIds workspaces))
        (s.toDismissingWindow.knownRuntimeIds endpoint) info id →
      Unknown s.dismissedRuntimeIds (s.toDismissingWindow.knownRuntimeIds endpoint) info id := by
    intro info id hinfo hnew
    refine ⟨hnew.id_eq, fun hin => hnew.not_dismissed ?_, hnew.not_known⟩
    refine Finset.mem_filter.mpr ⟨hin, List.mem_filterMap.mpr ⟨info, hinfo, ?_⟩⟩
    rw [hnew.id_eq, Option.map_some]
  have hbrought : ∀ w ∈ s.recovered endpoint workspaces mint, ∀ endpointKey paneId,
      w.showsPane endpointKey paneId = true → NulFree paneId ∧
        ∀ old ∈ s.workspaces, old.showsPane endpointKey paneId = false := by
    intro w hw endpointKey paneId hshows
    obtain ⟨state, hstate, rfl⟩ := List.mem_map.mp hw
    obtain ⟨i, info, id, hinfo, hid, hdismissed, hknown, hfirst, hstate⟩ := mem_recoverFrom hstate
    obtain ⟨rfl, hmem⟩ := (showsPane_recovered hstate).mp hshows
    have hnew := hunknown (List.mem_of_getElem? hinfo) ⟨hid, hdismissed, hknown⟩
    exact ⟨nulFree_inventoryPaneTexts hmem,
      fun old hold => hshown i info id ⟨hinfo, hnew⟩ hfirst paneId hmem old hold⟩
  have hapart : PanesApart (s.workspaces ++ s.recovered endpoint workspaces mint) := by
    refine List.pairwise_append.mpr ⟨h.apart, ?_, ?_⟩
    · rw [SessionWindow.recovered, List.pairwise_map]
      refine recoverFrom_pairwise ?_
      intro i j info other id id' w w' hlt hinfo hother hnew hnew' hne hw hw' endpointKey paneId
        hshows
      obtain ⟨_, hmem⟩ := (showsPane_recovered hw).mp hshows
      by_contra hboth
      obtain ⟨_, hmem'⟩ := (showsPane_recovered hw').mp (by simpa using hboth)
      exact hlisted i j info other id id' hlt
        ⟨hinfo, hunknown (List.mem_of_getElem? hinfo) hnew⟩
        ⟨hother, hunknown (List.mem_of_getElem? hother) hnew'⟩ hne paneId hmem hmem'
    · intro old hold new hnew
      refine panesApart_symm new old fun endpointKey paneId hshows => ?_
      exact (hbrought new hnew endpointKey paneId hshows).2 old hold
  have hnul : PanesNulFree (s.workspaces ++ s.recovered endpoint workspaces mint) := by
    intro w hw endpointKey paneId hshows
    rcases List.mem_append.mp hw with hw | hw
    · exact h.nulFree w hw endpointKey paneId hshows
    · exact (hbrought w hw endpointKey paneId hshows).1
  simp only [SessionWindow.inventoryLoaded]
  split
  · exact h.of_fields rfl rfl
  · obtain ⟨statuses, hfold⟩ := foldl_setConnectionStatus
      (rebuildPaneReverseIndex
        { s with
          workspaces := s.workspaces ++ s.recovered endpoint workspaces mint
          dismissedRuntimeIds :=
            s.dismissedRuntimeIds.filter (fun id => id ∈ inventoryIds workspaces) })
      .connecting (s.recovered endpoint workspaces mint)
    rw [hfold]
    have hrebuilt : (rebuildPaneReverseIndex
        { s with
          workspaces := s.workspaces ++ s.recovered endpoint workspaces mint
          dismissedRuntimeIds :=
            s.dismissedRuntimeIds.filter (fun id => id ∈ inventoryIds workspaces) }).Indexed :=
      .rebuilt hapart hnul
    exact hrebuilt.of_fields rfl rfl

/-- Moving a workspace leaves the one that shows a pane. -/
theorem Indexed.reorderSession
    (h : s.Indexed)
    (sourceUuid targetUuid : String) :
    (s.reorderSession sourceUuid targetUuid).Indexed := by
  have hperm := s.reorderSession_perm sourceUuid targetUuid
  have hindex : (s.reorderSession sourceUuid targetUuid).paneReverseIndex =
      s.paneReverseIndex := by
    unfold SessionWindow.reorderSession
    split
    · split <;> rfl
    · rfl
  have hapart : PanesApart (s.reorderSession sourceUuid targetUuid).workspaces :=
    (hperm.pairwise_iff (fun {x y} => panesApart_symm x y)).mpr h.apart
  refine ⟨fun endpoint paneId hfree => ?_, hapart,
    h.nulFree.subset fun w hw => hperm.mem_iff.mp hw⟩
  have hexact := h.exact endpoint paneId hfree
  rw [WindowState.runtimePaneTarget, toWindowState] at hexact ⊢
  rw [hindex]
  refine hexact.trans (Option.ext fun target => ?_)
  rw [linearSearch_eq_some hapart, linearSearch_eq_some h.apart]
  simp only [hperm.mem_iff]

/-- The index has nothing of an unmanaged workspace. -/
theorem Indexed.push {w : Session}
    (h : s.Indexed)
    (hw : w.runtime.managed = false) :
    (s.push w).Indexed := by
  have hnone : ∀ endpointKey paneId, w.showsPane endpointKey paneId = false := by
    intro endpointKey paneId
    by_contra hshows
    rw [(Session.showsPane_iff.mp (by simpa using hshows)).1] at hw
    cases hw
  refine ⟨fun endpoint paneId hfree => ?_, ?_, ?_⟩
  · refine (h.exact endpoint paneId hfree).trans ?_
    rw [linearSearch, linearSearch, SessionWindow.push, List.find?_append, List.find?_singleton,
      hnone]
    simp
  · refine List.pairwise_append.mpr ⟨h.apart, List.pairwise_singleton _ w, ?_⟩
    intro old _ new hnew endpointKey paneId _
    rw [List.mem_singleton.mp hnew, hnone]
  · intro other hother endpointKey paneId hshows
    rcases List.mem_append.mp hother with hother | hother
    · exact h.nulFree other hother endpointKey paneId hshows
    · rw [List.mem_singleton.mp hother, hnone] at hshows
      cases hshows

theorem Indexed.dispatch
    (h : s.Indexed)
    (endpoint : RuntimeEndpoint)
    (payload : Option PushPayload)
    (viewed : String → Bool) :
    (s.dispatchManagedRuntimeMessage endpoint payload viewed).Indexed := by
  unfold dispatchManagedRuntimeMessage
  split
  · cases s.runtimeOwner endpoint _ <;> exact h.of_fields rfl rfl
  · rename_i runtimeId name userRenamed
    cases s.runtimeOwner endpoint runtimeId with
    | none => exact h
    | some workspaceId =>
        simp only [Option.elim_some, applyDaemonWorkspaceName]
        split
        · exact h
        · refine h.updateWorkspace fun w _ => ?_
          split
          · exact Alike.refl w
          · exact Alike.of_leaves rfl rfl fun t => Iff.rfl
  · cases s.runtimeOwner endpoint _ <;> exact h.of_fields rfl rfl
  · unfold applyCwdChanged
    split
    · exact h
    · split
      · refine h.updateWorkspace fun w _ => Alike.of_leaves rfl rfl fun t => ?_
        rw [LayoutNode.setTerminalCwd_uuids]
      · exact h
  · exact h

/-- **One operation that meets its condition keeps the index exact.** -/
theorem Indexed.next {op : WindowOp}
    (h : s.Indexed)
    (hok : s.KeepsIndex op) :
    (s.next op).Indexed := by
  have hkept : ∀ {workspaceId : String} {f : Session → Session},
      (∀ w, (f w).uuid = w.uuid ∧ (f w).runtime = w.runtime ∧ (f w).layout = w.layout) →
      (s.updateWorkspace workspaceId f).Indexed := by
    intro workspaceId f hf
    exact h.updateWorkspace fun w _ =>
      Alike.of_leaves (hf w).1 (hf w).2.1 fun t => by rw [(hf w).2.2]
  cases op with
  | addDirectSession ids initialCwd => exact h.push rfl
  | addManagedSession => exact hok.elim
  | attachToExistingRuntime => exact hok.elim
  | closeSession workspaceId => exact h.closeSession workspaceId
  | closeAllSessions ids initialCwd => exact (h.foldl_closeOne _).push rfl
  | detachRuntime workspaceId => exact h.detachRuntime workspaceId
  | closeTerminal terminalUuid visibleWorkspace focusedTerminal => exact h.closeTerminal hok
  | splitTerminal terminalUuid newId orientation view => exact h.splitTerminal hok
  | togglePaneZoomFor visibleWorkspace target => exact h.togglePaneZoomFor visibleWorkspace target
  | moveFocusedPane current move =>
      simp only [SessionWindow.next, moveFocusedPane]
      split
      · exact h
      · split
        · exact h
        · split
          · exact hkept fun w => ⟨rfl, rfl, rfl⟩
          · exact h
  | focusEntered terminalUuid =>
      exact h.updateWorkspaceOf fun w _ => Alike.of_leaves rfl rfl fun t => Iff.rfl
  | swapTerminals a b =>
      refine h.of_alike (forall₂_updateFirst Alike.refl fun w _ => ?_) rfl
      exact Alike.of_leaves rfl rfl fun t => LayoutNode.mem_swapTerminals
  | rotateLayout visibleWorkspace =>
      cases visibleWorkspace with
      | none => exact h
      | some workspaceId =>
          exact h.updateWorkspace fun w _ => Alike.of_leaves rfl rfl fun t => by
            rw [LayoutNode.rotated_uuids]
  | setTerminalRecovery terminalUuid recovery =>
      exact h.updateWorkspaceOf fun w _ => Alike.of_leaves rfl rfl fun t => Iff.rfl
  | reorderSession sourceUuid targetUuid => exact h.reorderSession sourceUuid targetUuid
  | renameRuntime workspaceId name => exact hkept fun w => ⟨rfl, rfl, rfl⟩
  | updateWorkspaceEndpoint workspaceId host =>
      simp only [SessionWindow.next, updateWorkspaceEndpoint]
      split
      · exact h
      · rename_i w hw
        have hmoved : (s.updateWorkspace workspaceId fun w =>
            { w with runtime := { w.runtime with endpoint := .remote host none } }).Indexed := by
          refine h.updateWorkspace fun found hfound => ?_
          cases hmanaged : found.runtime.managed with
          | false => exact Alike.of_unmanaged rfl hmanaged hmanaged
          | true =>
              refine ⟨rfl, fun endpointKey paneId => ?_⟩
              have hkey := hok found hfound hmanaged
              simp only [Session.showsPane, hkey]
              rfl
        exact hmoved.of_fields rfl rfl
  | workspaceConnectionChanged workspaceId status => exact h.of_fields rfl rfl
  | workspaceOpened workspaceId runtimeId snapshot => exact h.workspaceOpened hok
  | paneCreated workspaceId layoutTerminalUuid runtimeId runtimePaneId => exact h.paneCreated hok
  | paneClosed workspaceId layoutTerminalUuid => exact h.paneClosed workspaceId layoutTerminalUuid
  | workspaceDetached workspaceId => exact h.of_fields rfl rfl
  | workspaceTerminated workspaceId =>
      have hended : (s.updateWorkspace workspaceId fun w =>
          { w with runtime := { w.runtime with runtimeId := none } }).Indexed :=
        h.updateWorkspace fun w _ => ⟨rfl, fun endpointKey paneId => rfl⟩
      exact hended.of_fields rfl rfl
  | inventoryLoaded endpoint workspaces mint => exact h.inventoryLoaded hok
  | workspaceMessage endpoint payload viewed => exact h.dispatch endpoint payload viewed
  | workspaceResynced workspaceId snapshot => exact h

end Operations

end SessionWindow

/-- Documents whose managed workspaces show different panes on an endpoint, with ids
without a NUL. -/
def IndexableRecords (records : List WorkspaceRecord) : Prop :=
  SessionWindow.PanesApart (records.map WorkspaceRecord.toSession) ∧
    SessionWindow.PanesNulFree (records.map WorkspaceRecord.toSession)

/-- Windows that start from such documents. -/
def indexedWindows : System SessionWindow WindowOp :=
  sessionWindows IndexableRecords

theorem indexed_loadState {records : List WorkspaceRecord}
    (h : IndexableRecords records)
    (dismissed : Finset String)
    (ids : NewIds) :
    (SessionWindow.loadState records dismissed ids).Indexed := by
  unfold SessionWindow.loadState
  split
  · refine .rebuilt (List.pairwise_singleton _ _) fun w hw endpointKey paneId hshows => ?_
    rw [List.mem_singleton.mp hw] at hshows
    cases (Session.showsPane_iff.mp hshows).1
  · exact .rebuilt h.1 h.2

section Samples

/-- A window without saved documents: one direct workspace. -/
def directWindow : SessionWindow :=
  .loadState [] ∅ ⟨1, 2⟩

theorem directWindow_reachable :
    indexedWindows.ReachableUnder SessionWindow.KeepsIndex directWindow :=
  .init ⟨[], ∅, ⟨1, 2⟩, ⟨List.Pairwise.nil, nofun⟩, rfl⟩

/-- The local daemon lists a runtime with one pane. -/
def listPane : WindowOp :=
  .inventoryLoaded .localHost [⟨uuidToBytes 7, "work", false, [⟨uuidToBytes 9, "sh", "/"⟩]⟩]
    (fun _ _ => 5)

theorem listPane_keepsIndex : directWindow.KeepsIndex listPane := by
  have hdirect : ∀ w ∈ directWindow.workspaces, w.runtime.managed = false := by
    decide +kernel
  constructor
  · intro i info id _ _ t _ w hw
    by_contra hshows
    have hmanaged := (Session.showsPane_iff.mp (by simpa using hshows)).1
    rw [hdirect w hw] at hmanaged
    cases hmanaged
  · intro i j info other id id' hlt _ hother
    obtain ⟨hj, _⟩ := List.getElem?_eq_some_iff.mp hother.1
    rw [List.length_singleton] at hj
    omega

/-- The user connects the listed workspace to another host. -/
def moveListed : WindowOp :=
  .updateWorkspaceEndpoint ("inventory:local:" ++ uuidToString 7) "build"

end Samples

end Client
end Rttx
