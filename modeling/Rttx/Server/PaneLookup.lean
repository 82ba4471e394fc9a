import Rttx.Server.WorkspaceOp

/-!
# The panes of a workspace after an operation

For each operation that touches panes, the pane found under every id
afterwards.

**Results.**
* `lookup_updatePane`, `lookup_takeOutput`, `lookup_returnOutput`: an operation
  on a pane reaches no other pane.
* `lookup_returnOutput`: the returned pane holds exactly the screen it was
  given, its metadata recorded and its replies drained.
* `lookup_apply`: what the operations in place do to every pane.
-/

namespace Rttx
namespace Server

open Kernel

universe u v

namespace Workspace

section Same

variable {P : Type u} {G : Type v}

theorem ChangesClients.panes {w w' : Workspace P G}
    (h : w.ChangesClients w') :
    w'.panes = w.panes := by
  obtain ⟨_, _, _, rfl⟩ := h
  rfl

theorem ChangesName.panes {w w' : Workspace P G}
    (h : w.ChangesName w') :
    w'.panes = w.panes := by
  obtain ⟨_, _, _, rfl⟩ := h
  rfl

theorem refreshAutoName_panes (w : Workspace P G) (proc : ProcFs) :
    (w.refreshAutoName proc).2.panes = w.panes := by
  obtain ⟨_, _, hres⟩ := refreshAutoName_effect w proc
  rw [hres]

/-- Announcing a working directory and deriving a name leave the panes alone. -/
theorem recordName_recordCwd_panes (w : Workspace P G) (paneId : Uuid)
    (newCwd : Option String) (cwdChanged : Bool) (proc : ProcFs) :
    ((w.recordCwd paneId newCwd).2.recordName paneId cwdChanged proc).2.panes = w.panes := by
  obtain ⟨_, _, hname⟩ := recordName_effect (w.recordCwd paneId newCwd).2 paneId cwdChanged proc
  obtain ⟨_, hcwd⟩ := recordCwd_effect w paneId newCwd
  rw [hname, hcwd]

end Same

section Lookup

variable {P : Type u} {G : Type v}

theorem addPane_panes (w : Workspace P G) (pane : Pane P G) :
    (w.addPane pane).panes = w.panes.insert pane.id pane := by
  simp only [addPane]
  split <;> rfl

/-- Closing a pane removes it and no other. -/
theorem lookup_removePane (w : Workspace P G) (paneId k : Uuid) :
    (w.removePane paneId).2.panes.lookup k =
      if k = paneId then none else w.panes.lookup k := by
  cases hpane : w.panes.lookup paneId with
  | none =>
      simp only [removePane, hpane]
      by_cases hk : k = paneId
      · rw [if_pos hk, hk, hpane]
      · rw [if_neg hk]
  | some pane =>
      have hpanes : (w.removePane paneId).2.panes = w.panes.erase paneId := by
        simp only [removePane, hpane, bumpRevision_panes]
        split <;> rfl
      rw [hpanes]
      exact HashMap.lookup_erase_eq _ _ _

theorem lookup_updatePane (w : Workspace P G) (paneId k : Uuid) (changed : Pane P G → Bool)
    (update : Pane P G → Pane P G) :
    (w.updatePane paneId changed update).2.panes.lookup k =
      if k = paneId then (w.panes.lookup paneId).map update else w.panes.lookup k := by
  cases hpane : w.panes.lookup paneId with
  | none =>
      simp only [updatePane, hpane, Option.map_none]
      by_cases hk : k = paneId
      · rw [if_pos hk, hk, hpane]
      · rw [if_neg hk]
  | some pane =>
      have hmod : (w.panes.modify paneId update).lookup k =
          if k = paneId then some (update pane) else w.panes.lookup k := by
        rw [HashMap.lookup_modify]
        by_cases hk : k = paneId
        · rw [if_pos hk, if_pos hk, hk, hpane, Option.map_some]
        · rw [if_neg hk, if_neg hk]
      simp only [updatePane, hpane, Option.map_some]
      split
      · exact hmod
      · exact hmod

/-- What a reported value that counts as new says about the returned pane. -/
theorem returnScreen_recorded (pane : Pane P G) (screen : PaneScreen P G) :
    (∀ title, (pane.returnScreen screen).1.newTitle = some title →
        (pane.returnScreen screen).2.title = some title) ∧
      (∀ cwd, (pane.returnScreen screen).1.newCwd = some cwd →
        (pane.returnScreen screen).2.cwd = some cwd) := by
  constructor
  · intro title h
    simp only [Pane.returnScreen, Pane.extractMetadata] at h ⊢
    rw [h]
    rfl
  · intro cwd h
    simp only [Pane.returnScreen, Pane.extractMetadata] at h ⊢
    rw [h]
    rfl

/-- Announcing a title that the pane records already leaves every pane as it is. -/
theorem lookup_recordTitle {w : Workspace P G} {paneId : Uuid} {pane : Pane P G}
    {newTitle : Option String}
    (hpane : w.panes.lookup paneId = some pane)
    (htitle : ∀ title, newTitle = some title → pane.title = some title)
    (k : Uuid) :
    (w.recordTitle paneId newTitle).2.panes.lookup k = w.panes.lookup k := by
  cases newTitle with
  | none => rfl
  | some title =>
      have hupdate := lookup_updatePane w paneId k (fun pane => pane.title ≠ some title)
        (fun pane => { pane with title := some title })
      have hsame : ({ pane with title := some title } : Pane P G) = pane := by
        rw [← htitle title rfl]
      refine hupdate.trans ?_
      by_cases hk : k = paneId
      · rw [if_pos hk, hpane, Option.map_some, hsame, hk, hpane]
      · rw [if_neg hk]

/-- Returning a screen reaches no other pane. -/
theorem lookup_returnOutput (w : Workspace P G) (paneId : Uuid) (screen : PaneScreen P G)
    (proc : ProcFs) (k : Uuid) :
    (w.returnOutput paneId screen proc).2.panes.lookup k =
      if k = paneId then (w.panes.lookup paneId).map (fun p => (p.returnScreen screen).2)
      else w.panes.lookup k := by
  cases hpane : w.panes.lookup paneId with
  | none =>
      simp only [returnOutput, hpane, Option.map_none]
      by_cases hk : k = paneId
      · rw [if_pos hk, hk, hpane]
      · rw [if_neg hk]
  | some pane =>
      let put : Workspace P G :=
        { w with panes := w.panes.insert paneId (pane.returnScreen screen).2 }
      let named := ((put.recordCwd paneId (pane.returnScreen screen).1.newCwd).2.recordName paneId
        (put.recordCwd paneId (pane.returnScreen screen).1.newCwd).1.isSome proc).2
      have hpanes : named.panes = put.panes := recordName_recordCwd_panes put paneId _ _ proc
      have hput : ∀ j, put.panes.lookup j =
          if j = paneId then some (pane.returnScreen screen).2 else w.panes.lookup j :=
        fun j => HashMap.lookup_insert_eq _ _ _ _
      have hstored : named.panes.lookup paneId = some (pane.returnScreen screen).2 := by
        rw [hpanes, hput, if_pos rfl]
      have hlast := lookup_recordTitle hstored (returnScreen_recorded pane screen).1 k
      have hout : (w.returnOutput paneId screen proc).2 =
          (named.recordTitle paneId (pane.returnScreen screen).1.newTitle).2 := by
        simp only [returnOutput, hpane]
        rfl
      rw [hout, hlast, hpanes, hput, Option.map_some]

variable [VteParser P] [Vt100Parser G]

/-- Taking a screen out reaches no other pane. -/
theorem lookup_takeOutput (w : Workspace P G) (paneId : Uuid) (raw : Bytes) (k : Uuid) :
    (w.takeOutput paneId raw).2.panes.lookup k =
      if k = paneId then (w.panes.lookup paneId).map (fun p => (takePaneOutput p raw).2)
      else w.panes.lookup k := by
  cases hpane : w.panes.lookup paneId with
  | none =>
      simp only [takeOutput, hpane, Option.map_none]
      by_cases hk : k = paneId
      · rw [if_pos hk, hk, hpane]
      · rw [if_neg hk]
  | some pane =>
      simp only [takeOutput, hpane, Option.map_some]
      exact HashMap.lookup_insert_eq _ _ _ _

end Lookup

section InPlace

variable {P : Type u} {G : Type v}

/-- The operations that neither create panes nor move screens in or out. -/
def inPlace : WorkspaceOp P G → Bool
  | .addPane _ => false
  | .splitPane _ _ _ _ => false
  | .takeOutput _ _ => false
  | .returnOutput _ _ _ => false
  | _ => true

/-- An update of one pane, found under every id. -/
theorem lookup_updatePane_some {w : Workspace P G} {paneId k : Uuid}
    {changed : Pane P G → Bool} {update : Pane P G → Pane P G} {pane' : Pane P G}
    (h : (w.updatePane paneId changed update).2.panes.lookup k = some pane') :
    ∃ pane, w.panes.lookup k = some pane ∧
      pane' = if k = paneId then update pane else pane := by
  rw [lookup_updatePane] at h
  by_cases hk : k = paneId
  · rw [if_pos hk] at h
    obtain ⟨pane, hpane, rfl⟩ := Option.map_eq_some_iff.mp h
    exact ⟨pane, hk ▸ hpane, by rw [if_pos hk]⟩
  · rw [if_neg hk] at h
    exact ⟨pane', h, by rw [if_neg hk]⟩

variable [VteParser P] [Vt100Parser G]

/-- What an operation in place does to the pane under an id. -/
def onPane (op : WorkspaceOp P G) (k : Uuid) (pane : Pane P G) : Pane P G :=
  match op with
  | .resizePane paneId cols rows =>
      if k = paneId then
        { pane with
          cols := cols
          rows := rows
          screen :=
            if pane.cols ≠ cols || pane.rows ≠ rows then pane.screen.resize cols rows
            else pane.screen }
      else
        pane
  | .setPaneTitle paneId title => if k = paneId then { pane with title := some title } else pane
  | .setPaneNoPersist paneId noPersist =>
      if k = paneId then { pane with noPersist := noPersist } else pane
  | .setPaneExitStatus paneId status =>
      if k = paneId then { pane with exitStatus := status } else pane
  | _ => pane

/-- **What an operation in place does to the panes.** -/
theorem lookup_apply {w : Workspace P G} {op : WorkspaceOp P G} {k : Uuid} {pane' : Pane P G}
    (hop : inPlace op = true)
    (h : (w.apply op).panes.lookup k = some pane') :
    ∃ pane, w.panes.lookup k = some pane ∧ pane' = onPane op k pane := by
  have hsame : ∀ {w' : Workspace P G}, w'.panes = w.panes → w'.panes.lookup k = some pane' →
      ∃ pane, w.panes.lookup k = some pane ∧ pane' = pane := by
    intro w' hpanes hlook
    exact ⟨pane', by rw [← hpanes, hlook], rfl⟩
  cases op with
  | addPane pane => cases hop
  | splitPane target pane axis ratio => cases hop
  | takeOutput paneId raw => cases hop
  | returnOutput paneId screen proc => cases hop
  | removePane paneId =>
      rw [apply, lookup_removePane] at h
      by_cases hk : k = paneId
      · simp [hk] at h
      · rw [if_neg hk] at h
        exact ⟨pane', h, rfl⟩
  | resizeSplit path ratio =>
      refine hsame ?_ h
      simp only [apply, resizeSplit]
      split <;> rfl
  | setDefaultActivePane paneId =>
      refine hsame ?_ h
      simp only [apply, setDefaultActivePane]
      split <;> rfl
  | attachClient clientId mode now =>
      exact hsame (attachClient_effect w clientId mode now).panes h
  | detachClient clientId reason => exact hsame (detachClient_effect w clientId reason).panes h
  | setAutoName name => exact hsame (setAutoName_effect w name).panes h
  | refreshAutoName proc => exact hsame (refreshAutoName_panes w proc) h
  | rename name => exact hsame (rename_effect w name).panes h
  | resizePane paneId cols rows =>
      rw [apply, resizePane] at h
      exact lookup_updatePane_some h
  | setPaneTitle paneId title =>
      rw [apply, setPaneTitle] at h
      exact lookup_updatePane_some h
  | setPaneNoPersist paneId noPersist =>
      rw [apply, setPaneNoPersist] at h
      exact lookup_updatePane_some h
  | setPaneExitStatus paneId status =>
      rw [apply, setPaneExitStatus] at h
      exact lookup_updatePane_some h
  | markPersisted => exact hsame rfl h

end InPlace

end Workspace

end Server
end Rttx
