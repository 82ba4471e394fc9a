import Rttx.Client.WorkspaceState

/-!
# Reconciling a workspace with a snapshot

A snapshot reaches the client in two events.  When a workspace was opened the
client adopts the daemon's tree and name and restores the panes of the adopted
layout.  When it was resynchronised the client restores the panes that its own
layout still has, and changes nothing else.

**Results.**
* `openManagedWorkspace_spec`, `findWorkspace_opened`: an attach stores a
  workspace whose layout has the shape of the snapshot's tree and whose name is
  the adopted one.
-/

namespace Rttx
namespace Client

open Kernel Server

/-- Mapping from a daemon pane snapshot to a layout terminal. -/
structure WorkspacePaneRestore where
  layoutTerminalUuid : String
  title : String
  cwd : String
  paneOutputSeq : Nat
  scrollbackTail : Bytes
  scrollbackComplete : Bool
  cols : Nat
  rows : Nat
  terminalModes : Option TerminalModeState
deriving DecidableEq

/-- A rename the client owes the daemon. -/
structure WorkspaceNameRepair where
  workspaceId : String
  endpoint : RuntimeEndpoint
  runtimeId : String
  name : String
deriving DecidableEq

/-- Result of reconciling a workspace with a snapshot on attach. -/
structure ManagedWorkspaceOpenResult where
  sessionState : WorkspaceState
  snapshotRestores : List WorkspacePaneRestore
  previousLayoutTerminals : List String
  nameRepair : Option WorkspaceNameRepair

/-- The events that carry a snapshot. -/
inductive EndpointEvent
  | workspaceOpened (workspaceId runtimeId : String) (snapshot : WorkspaceSnapshot)
  | workspaceResynced (workspaceId runtimeId : String) (snapshot : WorkspaceSnapshot)

/-- What the window has to do after the state was reconciled. -/
structure EndpointEventTransition where
  rebuiltWorkspaces : List (String × WorkspaceState)
  paneSnapshotRestores : List WorkspacePaneRestore
  removedLayoutTerminals : List String
  persistWindowState : Bool
  nameRepairs : List WorkspaceNameRepair

def EndpointEventTransition.default : EndpointEventTransition :=
  ⟨[], [], [], false, []⟩

section Adopt

/-- Reconcile a workspace's name with the daemon's on attach. -/
def adoptSnapshotName (session : WorkspaceState) (snapshot : WorkspaceSnapshot) :
    Option WorkspaceNameRepair × WorkspaceState :=
  if snapshot.name = "" then
    (none, session)
  else if session.userRenamed && !snapshot.userRenamed then
    (session.runtime.runtimeId.map fun runtimeId =>
      ⟨session.uuid, session.runtime.endpoint, runtimeId, session.name⟩, session)
  else
    (none, { session with name := snapshot.name, userRenamed := snapshot.userRenamed })

/-- The restore of one pane, its dimensions cut to 16 bits. -/
def paneRestore (pane : PaneSnapshot) (layoutTerminalUuid : String) : WorkspacePaneRestore where
  layoutTerminalUuid := layoutTerminalUuid
  title := pane.title
  cwd := pane.cwd
  paneOutputSeq := pane.paneOutputSeq
  scrollbackTail := pane.scrollbackTail
  scrollbackComplete := pane.scrollbackComplete
  cols := pane.cols % 2 ^ 16
  rows := pane.rows % 2 ^ 16
  terminalModes := pane.terminalModes

/-- The restores of the listed panes that satisfy `keep`. -/
def restoresFor (keep : String → Bool) (snapshot : WorkspaceSnapshot) :
    List WorkspacePaneRestore :=
  snapshot.panes.filterMap fun pane =>
    (paneIdOfBytes pane.paneId).bind fun paneId =>
      if keep paneId then some (paneRestore pane paneId) else none

/-- Carry the daemon's directory into the adopted layout. -/
def carryCwd (layout : LayoutNode) (restore : WorkspacePaneRestore) : LayoutNode :=
  if restore.cwd = "" then
    layout
  else
    (layout.setTerminalCwd restore.layoutTerminalUuid (some restore.cwd)).2

/-- The fallback focus pane that the server names, if the layout has it. -/
def snapshotFocus (layout : LayoutNode) (snapshot : WorkspaceSnapshot) : Option String :=
  (paneIdOfBytes snapshot.defaultActivePaneId).filter
    (fun paneId => layout.terminalUuids.contains paneId)

/-- Adopt the daemon's pane tree as the layout of a workspace. -/
def adoptServerTree (session : WorkspaceState) (runtimeId : String) (layout : LayoutNode)
    (snapshot : WorkspaceSnapshot) : ManagedWorkspaceOpenResult :=
  let session := { session with runtime := { session.runtime with runtimeId := some runtimeId } }
  let (nameRepair, session) := adoptSnapshotName session snapshot
  let previousLayoutTerminals := session.layout.terminalUuids
  let session :=
    { session with
      layout := layout
      activeTerminalUuid := (snapshotFocus layout snapshot).or session.activeTerminalUuid }
  let session := session.normalizeActiveTerminal
  let snapshotRestores := restoresFor (fun id => layout.terminalUuids.contains id) snapshot
  ⟨{ session with layout := snapshotRestores.foldl carryCwd session.layout },
    snapshotRestores, previousLayoutTerminals, nameRepair⟩

/-- Keep the layout of a workspace whose daemon runtime has no panes yet. -/
def keepPlaceholder (session : WorkspaceState) (runtimeId : String)
    (snapshot : WorkspaceSnapshot) : ManagedWorkspaceOpenResult :=
  let session := { session with runtime := { session.runtime with runtimeId := some runtimeId } }
  let (nameRepair, session) := adoptSnapshotName session snapshot
  ⟨session, [], session.layout.terminalUuids, nameRepair⟩

def openManagedWorkspace (session : WorkspaceState) (runtimeId : String)
    (snapshot : WorkspaceSnapshot) : ManagedWorkspaceOpenResult :=
  match renderLayoutFromSnapshot snapshot with
  | some layout => adoptServerTree session runtimeId layout snapshot
  | none => keepPlaceholder session runtimeId snapshot

end Adopt

namespace WindowState

section Reconcile

/-- Apply the state mutation of an attach. -/
def applyManagedWorkspaceOpened (s : WindowState) (workspaceId runtimeId : String)
    (snapshot : WorkspaceSnapshot) : Option ManagedWorkspaceOpenResult × WindowState :=
  match s.findWorkspace workspaceId with
  | none => (none, s)
  | some session =>
      let result := openManagedWorkspace session runtimeId snapshot
      (some result, (s.updateWorkspace result.sessionState).rebuildPaneReverseIndex)

/-- Snapshot restores for a resync, without rebuilding the layout: only panes
that the layout still contains. -/
def buildResyncRestores (s : WindowState) (workspaceId : String)
    (snapshot : WorkspaceSnapshot) : List WorkspacePaneRestore :=
  match s.findWorkspace workspaceId with
  | none => []
  | some session => restoresFor (fun id => session.layout.containsTerminal id) snapshot

/-- Reconcile an event into a state update and follow-on effects. -/
def reconcileEndpointEvent (s : WindowState) :
    EndpointEvent → EndpointEventTransition × WindowState
  | .workspaceOpened workspaceId runtimeId snapshot =>
      match s.applyManagedWorkspaceOpened workspaceId runtimeId snapshot with
      | (none, s) => (.default, s)
      | (some opened, s) =>
          let newTerminals := opened.sessionState.layout.terminalUuids
          ({ EndpointEventTransition.default with
              nameRepairs := opened.nameRepair.toList
              persistWindowState := true
              removedLayoutTerminals :=
                opened.previousLayoutTerminals.filter (fun uuid => !newTerminals.contains uuid)
              rebuiltWorkspaces := [(workspaceId, opened.sessionState)]
              paneSnapshotRestores := opened.snapshotRestores }, s)
  | .workspaceResynced workspaceId _ snapshot =>
      ({ EndpointEventTransition.default with
          paneSnapshotRestores := s.buildResyncRestores workspaceId snapshot }, s)

end Reconcile

end WindowState

section Effects

/-- The name a workspace has after an attach. -/
def adoptedName (session : WorkspaceState) (snapshot : WorkspaceSnapshot) : String :=
  if snapshot.name = "" ∨ session.userRenamed = true ∧ snapshot.userRenamed = false then
    session.name
  else
    snapshot.name

theorem adoptSnapshotName_spec (session : WorkspaceState) (snapshot : WorkspaceSnapshot) :
    (adoptSnapshotName session snapshot).2.name = adoptedName session snapshot ∧
      (adoptSnapshotName session snapshot).2.uuid = session.uuid ∧
      (adoptSnapshotName session snapshot).2.layout = session.layout := by
  by_cases hempty : snapshot.name = ""
  · simp [adoptSnapshotName, adoptedName, hempty]
  · cases huser : session.userRenamed
    · simp [adoptSnapshotName, adoptedName, hempty, huser]
    · cases hsnap : snapshot.userRenamed <;>
        simp [adoptSnapshotName, adoptedName, hempty, huser, hsnap]

@[simp] theorem carryCwd_shape (layout : LayoutNode) (restore : WorkspacePaneRestore) :
    (carryCwd layout restore).shape = layout.shape := by
  simp only [carryCwd]
  split
  · rfl
  · exact LayoutNode.setTerminalCwd_shape _ _ _

theorem foldl_carryCwd_shape (restores : List WorkspacePaneRestore) (layout : LayoutNode) :
    (restores.foldl carryCwd layout).shape = layout.shape := by
  induction restores generalizing layout with
  | nil => rfl
  | cons restore rest ih => rw [List.foldl_cons, ih, carryCwd_shape]

/-- What an attach makes of a workspace: the id stays, the name is adopted, and
the layout has the shape of the snapshot's tree, if there is one. -/
theorem openManagedWorkspace_spec (session : WorkspaceState) (runtimeId : String)
    (snapshot : WorkspaceSnapshot) :
    let opened := openManagedWorkspace session runtimeId snapshot
    opened.sessionState.uuid = session.uuid ∧
      opened.sessionState.name = adoptedName session snapshot ∧
      opened.sessionState.layout.shape =
        ((renderLayoutFromSnapshot snapshot).getD session.layout).shape ∧
      opened.snapshotRestores =
        ((renderLayoutFromSnapshot snapshot).map
          (fun layout =>
            restoresFor (fun id => layout.terminalUuids.contains id) snapshot)).getD [] := by
  simp only [openManagedWorkspace]
  obtain ⟨hname, huuid, hlayout⟩ := adoptSnapshotName_spec
    { session with runtime := { session.runtime with runtimeId := some runtimeId } } snapshot
  have hadopted : adoptedName
      { session with runtime := { session.runtime with runtimeId := some runtimeId } } snapshot =
        adoptedName session snapshot := rfl
  rw [hadopted] at hname
  cases hrender : renderLayoutFromSnapshot snapshot with
  | none => exact ⟨huuid, hname, by simp [keepPlaceholder, hlayout], rfl⟩
  | some layout =>
      refine ⟨?_, ?_, ?_, rfl⟩
      · simpa only [adoptServerTree, WorkspaceState.normalizeActiveTerminal_uuid] using huuid
      · simpa only [adoptServerTree, WorkspaceState.normalizeActiveTerminal_name] using hname
      · simp [adoptServerTree, foldl_carryCwd_shape]

variable {s : WindowState} {workspaceId : String} {session : WorkspaceState}

/-- What an attach asks the window to do. -/
theorem reconcile_opened
    (hsession : s.findWorkspace workspaceId = some session)
    (runtimeId : String)
    (snapshot : WorkspaceSnapshot) :
    let opened := openManagedWorkspace session runtimeId snapshot
    (s.reconcileEndpointEvent (.workspaceOpened workspaceId runtimeId snapshot)).1 =
      { nameRepairs := opened.nameRepair.toList
        persistWindowState := true
        removedLayoutTerminals :=
          opened.previousLayoutTerminals.filter
            (fun uuid => !opened.sessionState.layout.terminalUuids.contains uuid)
        rebuiltWorkspaces := [(workspaceId, opened.sessionState)]
        paneSnapshotRestores := opened.snapshotRestores } := by
  simp only [WindowState.reconcileEndpointEvent, WindowState.applyManagedWorkspaceOpened, hsession]

/-- **An attach stores the workspace it adopted.** -/
theorem findWorkspace_opened
    (hsession : s.findWorkspace workspaceId = some session)
    (runtimeId : String)
    (snapshot : WorkspaceSnapshot) :
    (s.reconcileEndpointEvent
      (.workspaceOpened workspaceId runtimeId snapshot)).2.findWorkspace workspaceId =
        some (openManagedWorkspace session runtimeId snapshot).sessionState := by
  have huuid : (openManagedWorkspace session runtimeId snapshot).sessionState.uuid =
      workspaceId :=
    (openManagedWorkspace_spec session runtimeId snapshot).1.trans
      (WindowState.findWorkspace_uuid hsession)
  simp only [WindowState.reconcileEndpointEvent, WindowState.applyManagedWorkspaceOpened, hsession]
  subst huuid
  exact WindowState.findWorkspace_updateWorkspace hsession

end Effects

end Client
end Rttx
