import Rttx.Kernel.FirstMatch
import Rttx.Client.Dismissals
import Rttx.Client.EventRuns
import Rttx.Client.LayoutEdits
import Rttx.Client.SplitRequests

/-!
# Everything that changes a window's workspaces

The window keeps its workspaces in a list, next to the reverse index of their
panes, the dismissed runtimes, and the status of each connection.  The list
changes when the user opens, arranges and closes workspaces and panes, when the
daemon's answers and events arrive, and when the window starts from the saved
documents.

A change is made through a reference to the first workspace with an id, or the
first one whose layout has a terminal.  What the toolkit knows (the visible
workspace, the focused terminal, which terminals have a view) comes with an
operation, as do the ids it mints and the name of a new workspace.

**Results.**
* `SessionWindow.next`: one operation.
* `sessionWindows`: the window from a saved document on.
-/

namespace Rttx
namespace Client

open Kernel Server

section Recovery

/-- What a pane was doing. -/
inductive PaneSource
  | emptyShell
  | command (title : String)
  | manual
deriving DecidableEq, Repr

inductive StartupStep
  | sendText (text : String) (execute : Bool)
deriving DecidableEq, Repr

/-- Where a pane was pointed. -/
inductive PaneTarget
  | localFolder (path : String)
  | remoteShell (sshTarget : String) (remoteFolder : Option String)
deriving DecidableEq, Repr

/-- How a pane is brought back. -/
structure PaneRecovery where
  source : PaneSource
  target : Option PaneTarget
  startup : List StartupStep
deriving DecidableEq, Repr

def PaneRecovery.emptyShell : PaneRecovery :=
  ⟨.emptyShell, none, []⟩

end Recovery

/-- A workspace of the window, with how its panes are brought back. -/
structure Session extends WorkspaceState where
  terminalRecovery : HashMap String PaneRecovery

/-- Minted ids of a new workspace and of its terminal. -/
structure NewIds where
  workspace : Uuid
  terminal : Uuid
deriving DecidableEq, Repr

namespace Session

section Mutators

/-- A workspace of one terminal. -/
def newWithInitialCwd (ids : NewIds) (name : String) (initialCwd : Option String)
    (runtime : WorkspaceRuntime) : Session where
  uuid := uuidToString ids.workspace
  name := name
  layout := .terminal (uuidToString ids.terminal) none initialCwd none
  activeTerminalUuid := some (uuidToString ids.terminal)
  runtime := runtime
  zoomedTerminalUuid := none
  userRenamed := false
  terminalRecovery := (∅ : HashMap String PaneRecovery).insert (uuidToString ids.terminal)
    .emptyShell

def setRecovery (w : Session) (terminalUuid : String) (recovery : PaneRecovery) : Session :=
  { w with terminalRecovery := w.terminalRecovery.insert terminalUuid recovery }

/-- Forget the recoveries of terminals that are gone. -/
def pruneRecovery (w : Session) : Session :=
  { w with terminalRecovery :=
      w.terminalRecovery.retain (fun uuid => w.layout.terminalUuids.contains uuid) }

def normalizeActive (w : Session) : Session :=
  { w with toWorkspaceState := w.toWorkspaceState.normalizeActiveTerminal }

/-- Give a terminal a new id everywhere, its recovery included. -/
def rekey (w : Session) (oldUuid newUuid : String) : Session :=
  match w.toWorkspaceState.replaceTerminalUuid oldUuid newUuid with
  | (false, _) => w
  | (true, state) =>
      { toWorkspaceState := state
        terminalRecovery :=
          match w.terminalRecovery.lookup oldUuid with
          | none => w.terminalRecovery
          | some recovery => (w.terminalRecovery.erase oldUuid).insert newUuid recovery }

/-- Zoom a terminal, or end the zoom. -/
def toggleZoom (target : Option String) (w : Session) : Session :=
  if w.zoomedTerminalUuid.isSome then
    { w with zoomedTerminalUuid := none }
  else
    match target with
    | none => w
    | some target =>
        if w.layout.terminalCount < 2 then w else { w with zoomedTerminalUuid := some target }

/-- Split a terminal that is not too deep. -/
def splitPane (terminalUuid newUuid : String) (orientation : SplitOrientation) (view : SplitView)
    (w : Session) : Session :=
  if (w.layout.depthOfTerminal terminalUuid).any (fun depth => maxSplitDepth ≤ depth) then
    w
  else
    match w.toWorkspaceState.splitTerminal terminalUuid newUuid orientation view with
    | none => w
    | some (state, _) =>
        { w with toWorkspaceState := state }.setRecovery newUuid .emptyShell

/-- The runtime and the pane of a close that the daemon has to make. -/
def managedCloseTarget (w : Session) (terminalUuid : String) : Option (String × String) :=
  if !w.usesManagedRuntime || w.layout.terminalCount ≤ 1 then
    none
  else if !w.layout.containsTerminal terminalUuid then
    none
  else
    w.runtime.runtimeId.map (fun runtimeId => (runtimeId, terminalUuid))

/-- Remove a terminal without the daemon. -/
def removeLocally (terminalUuid : String) (w : Session) : Session :=
  match w.layout.removeTerminal terminalUuid with
  | none => w
  | some layout => { w with layout := layout }.normalizeActive

/-- Remove a terminal that the daemon closed. -/
def removeClosed (terminalUuid : String) (w : Session) : Session :=
  match w.layout.removeTerminal terminalUuid with
  | none => w
  | some layout => { w with layout := layout }.pruneRecovery.normalizeActive

/-- Adopt a snapshot on attach. -/
def adoptSnapshot (runtimeId : String) (snapshot : WorkspaceSnapshot) (w : Session) : Session :=
  { w with
    toWorkspaceState := (openManagedWorkspace w.toWorkspaceState runtimeId snapshot).sessionState }

/-- Take the id that the daemon gave to a pane. -/
def adoptPane (layoutTerminalUuid runtimeId runtimePaneId : String) (w : Session) : Session :=
  if !w.layout.containsTerminal layoutTerminalUuid then
    w
  else
    let w := { w with runtime := { w.runtime with runtimeId := some runtimeId } }
    if layoutTerminalUuid ≠ runtimePaneId then
      w.rekey layoutTerminalUuid runtimePaneId
    else
      w

/-- A workspace that an inventory brought: each pane gets an empty shell. -/
def ofRecovered (w : WorkspaceState) : Session where
  toWorkspaceState := w
  terminalRecovery :=
    w.layout.terminalUuids.foldl (fun recovery uuid => recovery.insert uuid .emptyShell) ∅

end Mutators

end Session

section Documents

/-- A workspace in the saved document. -/
structure WorkspaceRecord where
  id : String
  name : String
  userRenamed : Bool
  endpointKey : String
  runtimeRef : Option String
  layout : LayoutNode
  activePaneId : Option String
  zoomedPaneId : Option String
  paneRecovery : HashMap String PaneRecovery

/-- The workspace of a record.  A path to the daemon's binary is not saved. -/
def WorkspaceRecord.toSession (r : WorkspaceRecord) : Session :=
  Session.normalizeActive
    { uuid := r.id
      name := r.name
      layout := r.layout
      activeTerminalUuid := r.activePaneId
      runtime :=
        { managed := r.endpointKey != "local" || r.runtimeRef.isSome
          endpoint := if r.endpointKey = "local" then .localHost else .remote r.endpointKey none
          runtimeId := r.runtimeRef }
      zoomedTerminalUuid := r.zoomedPaneId
      userRenamed := r.userRenamed
      terminalRecovery := r.paneRecovery }

end Documents

/-- The part of a window that this file is about. -/
structure SessionWindow where
  workspaces : List Session
  paneReverseIndex : HashMap String (String × String)
  dismissedRuntimeIds : Finset String
  workspaceConnectionStatus : HashMap String ConnectionStatus

/-- A host that the user can connect to. -/
structure Host where
  key : String
  isLocal : Bool
  sshTarget : Option String
  daemonBinaryPath : Option String
deriving DecidableEq, Repr

/-- The endpoint whose inventory is asked for a host. -/
def Host.endpoint (host : Host) : RuntimeEndpoint :=
  if host.isLocal then .localHost else .remote (host.sshTarget.getD "") host.daemonBinaryPath

/-- The endpoint of a workspace attached on a host: the path is left out. -/
def Host.attachEndpoint (host : Host) : RuntimeEndpoint :=
  if host.isLocal then .localHost else .remote (host.sshTarget.getD host.key) none

namespace SessionWindow

section References

/-- The window as the other files know it. -/
def toWindowState (s : SessionWindow) : WindowState :=
  ⟨s.workspaces.map Session.toWorkspaceState, s.paneReverseIndex⟩

def toDismissingWindow (s : SessionWindow) : DismissingWindow :=
  { s.toWindowState with dismissedRuntimeIds := s.dismissedRuntimeIds }

/-- Rebuild the reverse index from all layout terminals. -/
def rebuildPaneReverseIndex (s : SessionWindow) : SessionWindow :=
  { s with paneReverseIndex := s.toWindowState.rebuildPaneReverseIndex.paneReverseIndex }

def findWorkspace (s : SessionWindow) (workspaceId : String) : Option Session :=
  s.workspaces.find? (fun w => w.uuid == workspaceId)

/-- The workspace whose layout has this terminal. -/
def workspaceOf (s : SessionWindow) (terminalUuid : String) : Option Session :=
  s.workspaces.find? (fun w => w.layout.containsTerminal terminalUuid)

/-- Change the workspace of this id. -/
def updateWorkspace (s : SessionWindow) (workspaceId : String) (f : Session → Session) :
    SessionWindow :=
  { s with workspaces := updateFirst (fun w => w.uuid == workspaceId) f s.workspaces }

/-- Change the workspace whose layout has this terminal. -/
def updateWorkspaceOf (s : SessionWindow) (terminalUuid : String) (f : Session → Session) :
    SessionWindow :=
  { s with
    workspaces := updateFirst (fun w => w.layout.containsTerminal terminalUuid) f s.workspaces }

def setConnectionStatus (s : SessionWindow) (workspaceId : String) (status : ConnectionStatus) :
    SessionWindow :=
  { s with
    workspaceConnectionStatus := s.workspaceConnectionStatus.insert workspaceId status }

def push (s : SessionWindow) (w : Session) : SessionWindow :=
  { s with workspaces := s.workspaces ++ [w] }

end References

section Opening

/-- A workspace that the daemon has no part in. -/
def addDirectSession (s : SessionWindow) (ids : NewIds) (initialCwd : Option String) :
    SessionWindow :=
  s.push (Session.newWithInitialCwd ids ("Direct " ++ toString (s.workspaces.length + 1))
    initialCwd ⟨false, .localHost, none⟩)

/-- A new workspace on the local daemon or on a remote one. -/
def addManagedSession (s : SessionWindow) (ids : NewIds) (name : String)
    (remoteHost initialCwd : Option String) : SessionWindow :=
  let endpoint := remoteHost.elim .localHost (fun host => .remote host none)
  (s.push (Session.newWithInitialCwd ids name initialCwd ⟨true, endpoint, none⟩)).setConnectionStatus
    (uuidToString ids.workspace) .connecting

/-- A new workspace for a runtime that exists on a host. -/
def attachToExistingRuntime (s : SessionWindow) (ids : NewIds) (host : Host)
    (runtimeId name : String) : SessionWindow :=
  (s.push (Session.newWithInitialCwd ids name none
    ⟨true, host.attachEndpoint, some runtimeId⟩)).setConnectionStatus
      (uuidToString ids.workspace) .connecting

/-- The window that starts from the saved documents. -/
def loadState (records : List WorkspaceRecord) (dismissed : Finset String) (ids : NewIds) :
    SessionWindow :=
  rebuildPaneReverseIndex
    (if records = [] then
      ⟨[Session.newWithInitialCwd ids "Workspace 1" none ⟨false, .localHost, none⟩], ∅, ∅, ∅⟩
    else
      ⟨records.map WorkspaceRecord.toSession, ∅, dismissed, ∅⟩)

end Opening

section Panes

/-- Zoom the target in the visible workspace, or end its zoom. -/
def togglePaneZoomFor (s : SessionWindow) (visibleWorkspace target : Option String) :
    SessionWindow :=
  match visibleWorkspace with
  | none => s
  | some workspaceId => s.updateWorkspace workspaceId (Session.toggleZoom target)

/-- Before a split or a close of a pane of a zoomed workspace the zoom of the visible
workspace is toggled. -/
def unzoomed (s : SessionWindow) (terminalUuid : String)
    (visibleWorkspace focusedTerminal : Option String) : SessionWindow :=
  if (s.workspaceOf terminalUuid).any (fun w => w.zoomedTerminalUuid.isSome) then
    s.togglePaneZoomFor visibleWorkspace focusedTerminal
  else
    s

def splitTerminal (s : SessionWindow) (terminalUuid : String) (newId : Uuid)
    (orientation : SplitOrientation) (view : SplitView) : SessionWindow :=
  (s.unzoomed terminalUuid view.visibleWorkspace view.focusedTerminal).updateWorkspaceOf
    terminalUuid (Session.splitPane terminalUuid (uuidToString newId) orientation view)

def swapTerminals (s : SessionWindow) (a b : String) : SessionWindow :=
  { s with
    workspaces :=
      updateFirst (fun w => w.layout.containsTerminal a && w.layout.containsTerminal b)
        (fun w => { w with layout := w.layout.swapTerminals a b }) s.workspaces }

def rotateLayout (s : SessionWindow) (visibleWorkspace : Option String) : SessionWindow :=
  match visibleWorkspace with
  | none => s
  | some workspaceId =>
      s.updateWorkspace workspaceId (fun w => { w with layout := w.layout.rotated })

/-- A move from a pane: to a neighbour, or to the next one in layout order. -/
inductive PaneMove
  | navigate (direction : LayoutNode.Direction)
  | cycle (forward : Bool)
deriving DecidableEq, Repr

def PaneMove.target : PaneMove → LayoutNode → String → Option String
  | navigate direction, layout, current => layout.findAdjacent current direction
  | cycle forward, layout, current => layout.cycleTerminal current forward

/-- Move from the focused pane; while zoomed, the zoom follows.  (Unzoomed, the
toolkit is asked to move the focus, which comes back as an operation.) -/
def moveFocusedPane (s : SessionWindow) (current : String) (move : PaneMove) : SessionWindow :=
  match s.workspaceOf current with
  | none => s
  | some w =>
      match move.target w.layout current with
      | none => s
      | some target =>
          if w.zoomedTerminalUuid.isSome then
            s.updateWorkspace w.uuid fun w =>
              { w with zoomedTerminalUuid := some target, activeTerminalUuid := some target }
          else
            s

/-- The focus entered a terminal. -/
def focusEntered (s : SessionWindow) (terminalUuid : String) : SessionWindow :=
  s.updateWorkspaceOf terminalUuid fun w => { w with activeTerminalUuid := some terminalUuid }

def setTerminalRecovery (s : SessionWindow) (terminalUuid : String) (recovery : PaneRecovery) :
    SessionWindow :=
  s.updateWorkspaceOf terminalUuid (fun w => w.setRecovery terminalUuid recovery)

end Panes

section Closing

/-- The dismissals after the workspace is closed. -/
def dismissedAfter (s : SessionWindow) (w : Session) : Finset String :=
  match DismissingWindow.managedRuntime w.toWorkspaceState with
  | some (_, runtimeId) => insert runtimeId s.dismissedRuntimeIds
  | none => s.dismissedRuntimeIds

/-- Take the first workspace of this id out of the list. -/
def takeOut (s : SessionWindow) (workspaceId : String) : SessionWindow :=
  rebuildPaneReverseIndex
    { s with workspaces := s.workspaces.eraseP (fun w => w.uuid == workspaceId) }

/-- Close a workspace of several. -/
def closeOne (s : SessionWindow) (workspaceId : String) : SessionWindow :=
  match s.findWorkspace workspaceId with
  | none => s
  | some w =>
      { s.takeOut workspaceId with
        dismissedRuntimeIds := s.dismissedAfter w
        workspaceConnectionStatus :=
          if w.usesManagedRuntime then
            s.workspaceConnectionStatus.erase workspaceId
          else
            s.workspaceConnectionStatus }

/-- Close a workspace; with the last one the window closes. -/
def closeSession (s : SessionWindow) (workspaceId : String) : SessionWindow :=
  if s.workspaces.length ≤ 1 then
    rebuildPaneReverseIndex
      { s with
        workspaces := s.workspaces.filter (fun w => w.uuid ≠ workspaceId)
        dismissedRuntimeIds :=
          (s.findWorkspace workspaceId).elim s.dismissedRuntimeIds s.dismissedAfter }
  else
    s.closeOne workspaceId

/-- Close every workspace and open a fresh one. -/
def closeAllSessions (s : SessionWindow) (ids : NewIds) (initialCwd : Option String) :
    SessionWindow :=
  ((s.workspaces.map (fun w => w.uuid)).foldl closeOne s).addDirectSession ids initialCwd

/-- Leave a workspace to the daemon. -/
def detachRuntime (s : SessionWindow) (workspaceId : String) : SessionWindow :=
  if s.workspaces.length ≤ 1 then
    s
  else
    match s.findWorkspace workspaceId with
    | none => s
    | some _ =>
        { s.takeOut workspaceId with
          workspaceConnectionStatus := s.workspaceConnectionStatus.erase workspaceId }

/-- Close a pane: the daemon is asked if it has the pane, and the last pane closes the
workspace. -/
def closeTerminal (s : SessionWindow) (terminalUuid : String)
    (visibleWorkspace focusedTerminal : Option String) : SessionWindow :=
  let s := s.unzoomed terminalUuid visibleWorkspace focusedTerminal
  match s.workspaceOf terminalUuid with
  | none => s
  | some w =>
      if (w.managedCloseTarget terminalUuid).isSome then
        s
      else if w.layout.terminalCount ≤ 1 then
        s.closeSession w.uuid
      else
        s.updateWorkspaceOf terminalUuid (Session.removeLocally terminalUuid)

/-- Move a workspace to the place of another. -/
def reorderSession (s : SessionWindow) (sourceUuid targetUuid : String) : SessionWindow :=
  match s.workspaces.findIdx? (fun w => w.uuid == sourceUuid),
    s.workspaces.findIdx? (fun w => w.uuid == targetUuid) with
  | some source, some target =>
      match s.workspaces[source]? with
      | none => s
      | some w => { s with workspaces := (s.workspaces.eraseIdx source).insertIdx target w }
  | _, _ => s

def renameRuntime (s : SessionWindow) (workspaceId name : String) : SessionWindow :=
  s.updateWorkspace workspaceId (fun w => { w with name := name, userRenamed := true })

/-- Connect a workspace to another host. -/
def updateWorkspaceEndpoint (s : SessionWindow) (workspaceId host : String) : SessionWindow :=
  match s.findWorkspace workspaceId with
  | none => s
  | some _ =>
      (s.updateWorkspace workspaceId fun w =>
        { w with runtime := { w.runtime with endpoint := .remote host none } }).setConnectionStatus
          workspaceId .connecting

end Closing

section Events

/-- Adopt the snapshot of an attach. -/
def workspaceOpened (s : SessionWindow) (workspaceId runtimeId : String)
    (snapshot : WorkspaceSnapshot) : SessionWindow :=
  match s.findWorkspace workspaceId with
  | none => s
  | some _ =>
      rebuildPaneReverseIndex
        (s.updateWorkspace workspaceId (Session.adoptSnapshot runtimeId snapshot))

/-- The daemon created the pane of a terminal. -/
def paneCreated (s : SessionWindow) (workspaceId layoutTerminalUuid runtimeId : String)
    (runtimePaneId : Uuid) : SessionWindow :=
  if (s.findWorkspace workspaceId).any
      (fun w => w.layout.containsTerminal layoutTerminalUuid) then
    (rebuildPaneReverseIndex (s.updateWorkspace workspaceId
      (Session.adoptPane layoutTerminalUuid runtimeId (uuidToString runtimePaneId)))).setConnectionStatus
        workspaceId .connected
  else
    s

/-- The daemon closed the pane of a terminal; a last pane stays. -/
def paneClosed (s : SessionWindow) (workspaceId layoutTerminalUuid : String) : SessionWindow :=
  if (s.findWorkspace workspaceId).any
      (fun w => (w.layout.removeTerminal layoutTerminalUuid).isSome) then
    rebuildPaneReverseIndex
      (s.updateWorkspace workspaceId (Session.removeClosed layoutTerminalUuid))
  else
    s

/-- The daemon ended a workspace's runtime. -/
def workspaceTerminated (s : SessionWindow) (workspaceId : String) : SessionWindow :=
  (s.updateWorkspace workspaceId fun w =>
    { w with runtime := { w.runtime with runtimeId := none } }).setConnectionStatus workspaceId
      .disconnected

/-- The workspaces that an inventory brings. -/
def recovered (s : SessionWindow) (endpoint : RuntimeEndpoint) (workspaces : List WorkspaceInfo)
    (mint : Nat → Nat → Uuid) : List Session :=
  (DismissingWindow.recoverFrom endpoint
    (s.dismissedRuntimeIds.filter (fun id => id ∈ inventoryIds workspaces))
    (s.toDismissingWindow.knownRuntimeIds endpoint) (fun i j => uuidToString (mint i j))
      workspaces).map Session.ofRecovered

/-- An inventory arrives that no dialog waits for. -/
def inventoryLoaded (s : SessionWindow) (endpoint : RuntimeEndpoint)
    (workspaces : List WorkspaceInfo) (mint : Nat → Nat → Uuid) : SessionWindow :=
  let recovered := s.recovered endpoint workspaces mint
  let s := { s with
    dismissedRuntimeIds := s.dismissedRuntimeIds.filter (fun id => id ∈ inventoryIds workspaces) }
  if recovered = [] then
    s
  else
    recovered.foldl (fun s w => s.setConnectionStatus w.uuid .connecting)
      (rebuildPaneReverseIndex { s with workspaces := s.workspaces ++ recovered })

/-- The workspace that a runtime id of the wire names. -/
def runtimeOwner (s : SessionWindow) (endpoint : RuntimeEndpoint) (runtimeId : Bytes) :
    Option String :=
  (bytesToUuid runtimeId).bind
    (fun id => s.toWindowState.workspaceForRuntime endpoint (uuidToString id))

/-- Take a name from the daemon; an automatic one does not replace the user's. -/
def applyDaemonWorkspaceName (s : SessionWindow) (workspaceId name : String)
    (userRenamed : Bool) : SessionWindow :=
  if name = "" then
    s
  else
    s.updateWorkspace workspaceId fun w =>
      if w.userRenamed && !userRenamed then w
      else { w with name := name, userRenamed := userRenamed }

/-- A directory changes, if its terminal has a view. -/
def applyCwdChanged (s : SessionWindow) (endpoint : RuntimeEndpoint) (paneId : Bytes)
    (cwd : String) (viewed : String → Bool) : SessionWindow :=
  match (bytesToUuid paneId).bind
      (fun id => s.toWindowState.runtimePaneTarget endpoint (uuidToString id)) with
  | none => s
  | some (workspaceId, uuid) =>
      if viewed uuid then
        s.updateWorkspace workspaceId fun w =>
          { w with layout := (w.layout.setTerminalCwd uuid (some cwd)).2 }
      else
        s

/-- What a pushed message does to the window; most act on the views of panes only. -/
def dispatchManagedRuntimeMessage (s : SessionWindow) (endpoint : RuntimeEndpoint)
    (payload : Option PushPayload) (viewed : String → Bool) : SessionWindow :=
  match payload with
  | some (.leaseLost runtimeId) =>
      (s.runtimeOwner endpoint runtimeId).elim s
        (fun workspaceId => s.setConnectionStatus workspaceId (.blocked .takenOver))
  | some (.workspaceRenamed runtimeId name userRenamed) =>
      (s.runtimeOwner endpoint runtimeId).elim s
        (fun workspaceId => s.applyDaemonWorkspaceName workspaceId name userRenamed)
  | some (.workspaceTerminated runtimeId) =>
      (s.runtimeOwner endpoint runtimeId).elim s
        (fun workspaceId => s.setConnectionStatus workspaceId .disconnected)
  | some (.cwdChanged paneId cwd) => s.applyCwdChanged endpoint paneId cwd viewed
  | _ => s

end Events

end SessionWindow

section Operations

/-- What happens to a window. -/
inductive WindowOp
  | addDirectSession (ids : NewIds) (initialCwd : Option String)
  | addManagedSession (ids : NewIds) (name : String) (remoteHost initialCwd : Option String)
  | attachToExistingRuntime (ids : NewIds) (host : Host) (runtimeId name : String)
  | closeSession (workspaceId : String)
  | closeAllSessions (ids : NewIds) (initialCwd : Option String)
  | detachRuntime (workspaceId : String)
  | closeTerminal (terminalUuid : String) (visibleWorkspace focusedTerminal : Option String)
  | splitTerminal (terminalUuid : String) (newId : Uuid) (orientation : SplitOrientation)
      (view : SplitView)
  | togglePaneZoomFor (visibleWorkspace target : Option String)
  | moveFocusedPane (current : String) (move : SessionWindow.PaneMove)
  | focusEntered (terminalUuid : String)
  | swapTerminals (a b : String)
  | rotateLayout (visibleWorkspace : Option String)
  | setTerminalRecovery (terminalUuid : String) (recovery : PaneRecovery)
  | reorderSession (sourceUuid targetUuid : String)
  | renameRuntime (workspaceId name : String)
  | updateWorkspaceEndpoint (workspaceId host : String)
  | workspaceConnectionChanged (workspaceId : String) (status : ConnectionStatus)
  | workspaceOpened (workspaceId runtimeId : String) (snapshot : WorkspaceSnapshot)
  | paneCreated (workspaceId layoutTerminalUuid runtimeId : String) (runtimePaneId : Uuid)
  | paneClosed (workspaceId layoutTerminalUuid : String)
  | workspaceDetached (workspaceId : String)
  | workspaceTerminated (workspaceId : String)
  | inventoryLoaded (endpoint : RuntimeEndpoint) (workspaces : List WorkspaceInfo)
      (mint : Nat → Nat → Uuid)
  | workspaceMessage (endpoint : RuntimeEndpoint) (payload : Option PushPayload)
      (viewed : String → Bool)
  | workspaceResynced (workspaceId : String) (snapshot : WorkspaceSnapshot)

def SessionWindow.next (s : SessionWindow) : WindowOp → SessionWindow
  | .addDirectSession ids initialCwd => s.addDirectSession ids initialCwd
  | .addManagedSession ids name remoteHost initialCwd =>
      s.addManagedSession ids name remoteHost initialCwd
  | .attachToExistingRuntime ids host runtimeId name =>
      s.attachToExistingRuntime ids host runtimeId name
  | .closeSession workspaceId => s.closeSession workspaceId
  | .closeAllSessions ids initialCwd => s.closeAllSessions ids initialCwd
  | .detachRuntime workspaceId => s.detachRuntime workspaceId
  | .closeTerminal terminalUuid visibleWorkspace focusedTerminal =>
      s.closeTerminal terminalUuid visibleWorkspace focusedTerminal
  | .splitTerminal terminalUuid newId orientation view =>
      s.splitTerminal terminalUuid newId orientation view
  | .togglePaneZoomFor visibleWorkspace target => s.togglePaneZoomFor visibleWorkspace target
  | .moveFocusedPane current move => s.moveFocusedPane current move
  | .focusEntered terminalUuid => s.focusEntered terminalUuid
  | .swapTerminals a b => s.swapTerminals a b
  | .rotateLayout visibleWorkspace => s.rotateLayout visibleWorkspace
  | .setTerminalRecovery terminalUuid recovery => s.setTerminalRecovery terminalUuid recovery
  | .reorderSession sourceUuid targetUuid => s.reorderSession sourceUuid targetUuid
  | .renameRuntime workspaceId name => s.renameRuntime workspaceId name
  | .updateWorkspaceEndpoint workspaceId host => s.updateWorkspaceEndpoint workspaceId host
  | .workspaceConnectionChanged workspaceId status => s.setConnectionStatus workspaceId status
  | .workspaceOpened workspaceId runtimeId snapshot =>
      s.workspaceOpened workspaceId runtimeId snapshot
  | .paneCreated workspaceId layoutTerminalUuid runtimeId runtimePaneId =>
      s.paneCreated workspaceId layoutTerminalUuid runtimeId runtimePaneId
  | .paneClosed workspaceId layoutTerminalUuid => s.paneClosed workspaceId layoutTerminalUuid
  | .workspaceDetached workspaceId => s.setConnectionStatus workspaceId .disconnected
  | .workspaceTerminated workspaceId => s.workspaceTerminated workspaceId
  | .inventoryLoaded endpoint workspaces mint => s.inventoryLoaded endpoint workspaces mint
  | .workspaceMessage endpoint payload viewed =>
      s.dispatchManagedRuntimeMessage endpoint payload viewed
  | .workspaceResynced _ _ => s

/-- The window from saved documents on; `okDocument` says which documents. -/
def sessionWindows (okDocument : List WorkspaceRecord → Prop) :
    System SessionWindow WindowOp where
  init := fun s => ∃ records dismissed ids,
    okDocument records ∧ s = SessionWindow.loadState records dismissed ids
  next := fun s op => some (s.next op)

end Operations

end Client
end Rttx
