import Rttx.Client.ActorFrames
import Rttx.Client.LayoutSplit
import Rttx.Client.Reconcile
import Rttx.Server.PaneStructure
import Rttx.Server.RequestAuthorization
import Rttx.Server.WorkspaceOp

/-!
# Splits of managed panes

A split of a managed pane is carried out in the client's layout at once, under a
minted id, and then asked of the daemon.  The actor of the endpoint sends one
request at a time.  The daemon carries out the split in its tree under a pane id
of its own and answers with it; the answer reaches the window as an event, which
replaces the minted id.

Next to the splits the user types, the daemon's workspaces go on in every way
that leaves the arrangement of the panes alone, and other messages share the
event channel.

**Results.**
* `splitTerminal_eq_some`: what the window does for a split.
* `splitInWorkspace_of_accepted`: what the daemon does for a split that it
  accepts.
* `apply_renderShape`: what else the daemon does leaves the shape alone.
-/

namespace Rttx
namespace Client

open Kernel Server

universe u v

section Views

/-- What the user interface supplies for a split. -/
structure SplitView where
  visibleWorkspace : Option String
  focusedTerminal : Option String
  terminalCwd : Option String
  darkBackground : Bool
  cols : Nat
  rows : Nat
deriving DecidableEq

/-- A terminal that got the id of its daemon pane. -/
structure PaneRekey where
  workspaceId : String
  oldUuid : String
  newUuid : String
deriving DecidableEq

def orientationToAxis : SplitOrientation → PaneSplitAxis
  | .vertical => .vertical
  | .horizontal => .horizontal

@[simp] theorem orientationFromAxis_toAxis (o : SplitOrientation) :
    orientationFromAxis (orientationToAxis o) = o := by
  cases o <;> rfl

end Views

namespace WorkspaceState

section Splits

/-- Give a terminal a new id everywhere in the workspace. -/
def replaceTerminalUuid (session : WorkspaceState) (oldUuid newUuid : String) :
    Bool × WorkspaceState :=
  if oldUuid = newUuid then
    (false, session)
  else
    match session.layout.replaceTerminalUuid oldUuid newUuid with
    | (false, _) => (false, session)
    | (true, layout) =>
        let follow (uuid : Option String) := if uuid = some oldUuid then some newUuid else uuid
        (true,
          { session with
            layout := layout
            activeTerminalUuid := follow session.activeTerminalUuid
            zoomedTerminalUuid := follow session.zoomedTerminalUuid })

/-- The request for the daemon, if the workspace has a runtime: the id of the
layout terminal is sent as the id of the pane. -/
def splitRequest (session : WorkspaceState) (terminalUuid newTerminalUuid : String)
    (orientation : SplitOrientation) (sourceCwd : Option String) (view : SplitView) :
    Option (RuntimeEndpoint × EndpointCommand) :=
  if session.usesManagedRuntime then
    session.runtime.runtimeId.map fun runtimeId =>
      (session.runtime.endpoint,
        .splitPane session.uuid runtimeId terminalUuid newTerminalUuid
          (orientationToAxis orientation) F32.half
          ⟨sourceCwd, view.darkBackground, view.cols, view.rows, false⟩)
  else
    none

/-- The workspace with a terminal split, and the request for the daemon. -/
def splitTerminal (session : WorkspaceState) (terminalUuid newUuid : String)
    (orientation : SplitOrientation) (view : SplitView) :
    Option (WorkspaceState × Option (RuntimeEndpoint × EndpointCommand)) :=
  let sourceCwd := view.terminalCwd.or (session.layout.terminalCwd terminalUuid)
  match session.layout.splitTerminalWithNewUuid terminalUuid newUuid orientation with
  | none => none
  | some (newLayout, newTerminalUuid) =>
      let newLayout :=
        match sourceCwd with
        | some cwd => (newLayout.setTerminalCwd newTerminalUuid (some cwd)).2
        | none => newLayout
      let session := { session with layout := newLayout }.normalizeActiveTerminal
      some (session,
        session.splitRequest terminalUuid newTerminalUuid orientation sourceCwd view)

end Splits

end WorkspaceState

namespace WindowState

section Splits

/-- The workspace whose layout has this terminal. -/
def workspaceOf (s : WindowState) (terminalUuid : String) : Option WorkspaceState :=
  s.workspaces.find? (fun session => session.layout.containsTerminal terminalUuid)

/-- Zoom the pane of the visible workspace, or end the zoom. -/
def togglePaneZoomFor (s : WindowState) (visibleWorkspace target : Option String) : WindowState :=
  match visibleWorkspace.bind s.findWorkspace with
  | none => s
  | some session =>
      if session.zoomedTerminalUuid.isSome then
        s.updateWorkspace { session with zoomedTerminalUuid := none }
      else
        match target with
        | none => s
        | some target =>
            if session.layout.terminalCount < 2 then s
            else s.updateWorkspace { session with zoomedTerminalUuid := some target }

/-- A zoom is ended before a split. -/
def unzoomed (s : WindowState) (terminalUuid : String) (view : SplitView) : WindowState :=
  if (s.workspaceOf terminalUuid).any (fun session => session.zoomedTerminalUuid.isSome) then
    s.togglePaneZoomFor view.visibleWorkspace view.focusedTerminal
  else
    s

/-- The workspace that a split changes: the one that has the terminal, unless
the terminal is too deep in its layout. -/
def splitSource (s : WindowState) (terminalUuid : String) : Option WorkspaceState :=
  (s.workspaceOf terminalUuid).filter fun session =>
    !(session.layout.depthOfTerminal terminalUuid).any (fun depth => maxSplitDepth ≤ depth)

/-- Split a terminal; returns the request for the daemon.  Ids of workspaces are
distinct, so the changed one is stored under its id. -/
def splitTerminal (s : WindowState) (terminalUuid newUuid : String)
    (orientation : SplitOrientation) (view : SplitView) :
    WindowState × Option (RuntimeEndpoint × EndpointCommand) :=
  let s := s.unzoomed terminalUuid view
  match (s.splitSource terminalUuid).bind
      (fun session => session.splitTerminal terminalUuid newUuid orientation view) with
  | none => (s, none)
  | some (session, request) => (s.updateWorkspace session, request)

/-- Apply the daemon's acknowledgement of a new pane. -/
def applyManagedPaneCreated (s : WindowState)
    (workspaceId layoutTerminalUuid runtimeId runtimePaneId : String) :
    Option PaneRekey × WindowState :=
  match s.findWorkspace workspaceId with
  | none => (none, s)
  | some session =>
      if !session.layout.containsTerminal layoutTerminalUuid then
        (none, s)
      else
        let session :=
          { session with runtime := { session.runtime with runtimeId := some runtimeId } }
        let session :=
          if layoutTerminalUuid ≠ runtimePaneId then
            (session.replaceTerminalUuid layoutTerminalUuid runtimePaneId).2
          else
            session
        (some ⟨workspaceId, layoutTerminalUuid, runtimePaneId⟩,
          (s.updateWorkspace session).rebuildPaneReverseIndex)

/-- The state after an event of the kinds that a split causes or that leave the
state alone; the other kinds do not occur here. -/
def reconcileSplitEvent (s : WindowState) : ActorEvent → Option WindowState
  | .paneCreated workspaceId layoutTerminalUuid runtimeId runtimePaneId =>
      some (s.applyManagedPaneCreated workspaceId layoutTerminalUuid runtimeId runtimePaneId).2
  | .workspaceConnectionChanged _ _ => some s
  | .workspaceMessage _ _ => some s
  | .workspaceError _ _ _ _ => some s
  | _ => none

end Splits

end WindowState

section Daemon

variable {P : Type u} {G : Type v}
variable [VteParser P] [Vt100Parser G]

/-- Whether the operation leaves the arrangement of the panes alone. -/
def keepsArrangement {P : Type u} {G : Type v} : WorkspaceOp P G → Bool
  | .addPane _ => false
  | .splitPane _ _ _ _ => false
  | .removePane _ => false
  | _ => true

def protoAxisToSplit : PaneSplitAxis → SplitAxis
  | .vertical => .vertical
  | _ => .horizontal

def splitError (kind : ErrorKind) (message : String) : ServerPayload :=
  .error kind message "SplitPane"

/-- Split a pane of a workspace; `spawned` is what starting the shell comes to.
Returns the response. -/
def splitInWorkspace (w : Workspace P G) (clientId : Uuid) (env : HandlerEnv)
    (spawned : Except String Unit) (runtimeId targetPaneId : Uuid) (axis : PaneSplitAxis)
    (ratio : F32) (spec : PaneSpec) : ServerPayload × Workspace P G :=
  let axis := protoAxisToSplit axis
  let ratio := if ratioIsValid ratio then ratio else F32.half
  if !w.clientHasWriteAccess clientId then
    (splitError .ownershipConflict "workspace is currently owned by another client", w)
  else if !w.tree.contains (.fromUuid targetPaneId) then
    (splitError .paneNotFound "split target pane not found", w)
  else
    let inherited := (w.panes.lookup targetPaneId).bind (fun p => p.effectiveCwd env.proc)
    let cwd := (spec.cwd.or inherited).or (w.anyPaneCwd env.proc)
    match spawned with
    | .error e => (splitError .internal ("failed to spawn pane: " ++ e), w)
    | .ok () =>
        let pane := Workspace.spawnedPane env spec.cols spec.rows cwd
          (if spec.noPersist then some true else none)
        match w.splitPane targetPaneId pane axis ratio with
        | (none, w) => (splitError .paneNotFound "split target pane not found", w)
        | (some revision, w) =>
            (.paneSplit runtimeId targetPaneId env.paneId axis ratio revision, w)

/-- Handle a split request; the change of the arrangement and the response. -/
def handleV3SplitPane (workspaces : HashMap Uuid (Workspace P G)) (clientId : Uuid)
    (env : HandlerEnv) (spawned : Except String Unit) (runtimeId targetPaneId : Uuid)
    (axis : PaneSplitAxis) (ratio : F32) (spec : PaneSpec) :
    ServerPayload × HashMap Uuid (Workspace P G) :=
  match workspaces.lookup runtimeId with
  | none => (splitError .workspaceNotFound "workspace not found", workspaces)
  | some w =>
      let (payload, w) := splitInWorkspace w clientId env spawned runtimeId targetPaneId axis
        ratio spec
      (payload, workspaces.insert runtimeId w)

end Daemon

section WindowEffects

@[simp] theorem normalizeActiveTerminal_runtime (session : WorkspaceState) :
    session.normalizeActiveTerminal.runtime = session.runtime := by
  simp only [WorkspaceState.normalizeActiveTerminal]
  split <;> rfl

/-- A split keeps the id and the runtime of the workspace, and the request is
made in their name. -/
theorem splitTerminal_identity {session session' : WorkspaceState}
    {terminalUuid newUuid : String} {orientation : SplitOrientation} {view : SplitView}
    {request : Option (RuntimeEndpoint × EndpointCommand)}
    (h : session.splitTerminal terminalUuid newUuid orientation view = some (session', request)) :
    session'.uuid = session.uuid ∧ session'.runtime = session.runtime ∧
      ∃ newTerminalUuid cwd,
        request = session'.splitRequest terminalUuid newTerminalUuid orientation cwd view := by
  simp only [WorkspaceState.splitTerminal] at h
  split at h
  · cases h
  · simp only [Option.some.injEq, Prod.mk.injEq] at h
    obtain ⟨rfl, rfl⟩ := h
    exact ⟨by simp, by simp, _, _, rfl⟩

/-- **What the window does for a split**: on distinct ids it splits the shape of
the layout and asks for a pane of the new id. -/
theorem splitTerminal_eq_some {session session' : WorkspaceState}
    {terminalUuid newUuid : String} {orientation : SplitOrientation} {view : SplitView}
    {request : Option (RuntimeEndpoint × EndpointCommand)}
    (hnodup : session.layout.terminalUuids.Nodup)
    (h : session.splitTerminal terminalUuid newUuid orientation view = some (session', request)) :
    terminalUuid ∈ session.layout.terminalUuids ∧
      session'.layout.shape = session.layout.shape.splitAt terminalUuid newUuid orientation ∧
      ∃ cwd, request = session'.splitRequest terminalUuid newUuid orientation cwd view := by
  simp only [WorkspaceState.splitTerminal] at h
  split at h
  · cases h
  · rename_i newLayout newTerminalUuid hsplit
    obtain ⟨huuid, hmem, hshape⟩ :=
      LayoutNode.splitTerminalWithNewUuid_shape hnodup hsplit
    simp only [Option.some.injEq, Prod.mk.injEq] at h
    obtain ⟨rfl, rfl⟩ := h
    subst huuid
    refine ⟨hmem, ?_, _, rfl⟩
    rw [WorkspaceState.normalizeActiveTerminal_layout, ← hshape]
    split
    · exact LayoutNode.setTerminalCwd_shape _ _ _
    · rfl

/-- A new id of a terminal keeps the id and the runtime of the workspace. -/
theorem replaceTerminalUuid_identity (session : WorkspaceState) (oldUuid newUuid : String) :
    (session.replaceTerminalUuid oldUuid newUuid).2.uuid = session.uuid ∧
      (session.replaceTerminalUuid oldUuid newUuid).2.runtime = session.runtime := by
  simp only [WorkspaceState.replaceTerminalUuid]
  split
  · exact ⟨rfl, rfl⟩
  · split <;> exact ⟨rfl, rfl⟩

/-- On distinct ids a new id of a terminal renames the shape of the layout. -/
theorem replaceTerminalUuid_layout {session : WorkspaceState} {oldUuid newUuid : String}
    (hnodup : session.layout.terminalUuids.Nodup)
    (hne : oldUuid ≠ newUuid)
    (hmem : oldUuid ∈ session.layout.terminalUuids) :
    (session.replaceTerminalUuid oldUuid newUuid).2.layout.shape =
      session.layout.shape.rename oldUuid newUuid := by
  obtain ⟨hfound, hshape⟩ := LayoutNode.replaceTerminalUuid_shape hnodup oldUuid newUuid
  rw [LayoutNode.containsTerminal_iff.mpr hmem] at hfound
  rw [← hshape]
  simp only [WorkspaceState.replaceTerminalUuid, hne, if_false]
  split
  · rename_i layout hres
    rw [hres] at hfound
    cases hfound
  · rename_i layout hres
    rw [hres]

end WindowEffects

section DaemonEffects

variable {P : Type u} {G : Type v}
variable [VteParser P] [Vt100Parser G]

theorem orientationFromAxis_proto (axis : PaneSplitAxis) :
    orientationFromAxis (splitAxisToProto (protoAxisToSplit axis)) = orientationFromAxis axis := by
  cases axis <;> rfl

/-- **What the daemon does for a split that it accepts**: it splits the shape of
its tree and answers with the new pane. -/
theorem splitInWorkspace_of_accepted {w : Workspace P G} {clientId targetPaneId : Uuid}
    {env : HandlerEnv} {root : PaneTree}
    (hroot : w.tree.root = some root)
    (hnodup : root.leaves.Nodup)
    (haccess : w.clientHasWriteAccess clientId = true)
    (htarget : PaneId.fromUuid targetPaneId ∈ root.leaves)
    (hfresh : PaneId.fromUuid env.paneId ∉ root.leaves)
    (runtimeId : Uuid)
    (axis : PaneSplitAxis)
    (ratio : F32)
    (spec : PaneSpec) :
    ∃ w' root' ratio' revision,
      splitInWorkspace w clientId env (.ok ()) runtimeId targetPaneId axis ratio spec =
        (.paneSplit runtimeId targetPaneId env.paneId (protoAxisToSplit axis) ratio' revision, w') ∧
      w'.tree.root = some root' ∧
      renderShape root' = (renderShape root).splitAt (uuidToString targetPaneId)
        (uuidToString env.paneId) (orientationFromAxis axis) := by
  have hpanes := WorkspaceTree.panes_of_root hroot
  have hcontains : w.tree.contains (.fromUuid targetPaneId) = true := by
    rw [WorkspaceTree.contains_iff, hpanes]
    exact htarget
  have hratio : ratioIsValid (if ratioIsValid ratio then ratio else F32.half) = true := by
    split
    · assumption
    · decide
  generalize hnorm : (if ratioIsValid ratio then ratio else F32.half) = ratio' at hratio
  have hid : ∀ (cwd : Option String) (noPersist : Option Bool),
      (Workspace.spawnedPane env spec.cols spec.rows cwd noPersist : Pane P G).id = env.paneId :=
    fun _ _ => rfl
  generalize hpane : (Workspace.spawnedPane env spec.cols spec.rows
    ((spec.cwd.or ((w.panes.lookup targetPaneId).bind (fun p => p.effectiveCwd env.proc))).or
      (w.anyPaneCwd env.proc)) (if spec.noPersist then some true else none) : Pane P G) = pane
  replace hid : pane.id = env.paneId := hpane ▸ hid _ _
  rcases Workspace.splitPane_cases w targetPaneId pane (protoAxisToSplit axis) ratio' with
    hnone | ⟨tree, _, hsplit, hsome, hres⟩
  · have hcan : w.tree.CanSplit (.fromUuid targetPaneId) (.fromUuid pane.id) ratio' := by
      refine ⟨hratio, ?_, ?_⟩
      · rw [hpanes, hid]
        exact hfresh
      · rw [hpanes]
        exact htarget
    obtain ⟨tree, hsplit, _⟩ := WorkspaceTree.split_of_canSplit hcan (protoAxisToSplit axis)
    simp [Workspace.splitPane, hsplit] at hnone
  · have hshape := split_renderShape hroot hnodup hsplit
    rw [orientationFromAxis_proto, hid] at hshape
    obtain ⟨root', hroot', hrender⟩ := Option.map_eq_some_iff.mp hshape
    generalize hout : w.splitPane targetPaneId pane (protoAxisToSplit axis) ratio' = out
      at hsome hres
    obtain ⟨revision?, w'⟩ := out
    obtain ⟨revision, rfl⟩ := Option.isSome_iff_exists.mp hsome
    refine ⟨w', root', ratio', revision, ?_, ?_, hrender⟩
    · simp only [splitInWorkspace, haccess, hcontains, hnorm, hpane, hout]
      rfl
    · simp only at hres
      rw [hres]
      exact hroot'

/-- An operation that leaves the arrangement alone keeps the shape of the tree. -/
theorem apply_renderShape {op : WorkspaceOp P G}
    (h : keepsArrangement op = true)
    (w : Workspace P G) :
    (w.apply op).tree.root.map renderShape = w.tree.root.map renderShape := by
  cases op with
  | addPane pane => cases h
  | splitPane target pane axis ratio => cases h
  | removePane paneId => cases h
  | resizeSplit path ratio =>
      simp only [Workspace.apply, Workspace.resizeSplit]
      split
      · rename_i tree hres
        exact resizeSplit_renderShape hres
      · rfl
  | setDefaultActivePane paneId =>
      simp only [Workspace.apply, Workspace.setDefaultActivePane]
      split
      · rename_i tree hres
        exact congrArg (Option.map renderShape) (setDefaultActive_root hres)
      · rfl
  | attachClient clientId mode now =>
      obtain ⟨_, _, _, hres⟩ := Workspace.attachClient_effect w clientId mode now
      rw [Workspace.apply, hres]
  | detachClient clientId reason =>
      obtain ⟨_, _, _, hres⟩ := Workspace.detachClient_effect w clientId reason
      rw [Workspace.apply, hres]
  | setAutoName name =>
      obtain ⟨_, _, _, hres⟩ := Workspace.setAutoName_effect w name
      rw [Workspace.apply, hres]
  | refreshAutoName proc =>
      obtain ⟨_, _, hres⟩ := Workspace.refreshAutoName_effect w proc
      rw [Workspace.apply, hres]
  | rename name =>
      obtain ⟨_, _, _, hres⟩ := Workspace.rename_effect w name
      rw [Workspace.apply, hres]
  | resizePane paneId cols rows =>
      obtain ⟨_, _, _, hres⟩ := Workspace.updatePane_effect w paneId _ _
      rw [Workspace.apply, Workspace.resizePane, hres]
  | setPaneTitle paneId title =>
      obtain ⟨_, _, _, hres⟩ := Workspace.updatePane_effect w paneId _ _
      rw [Workspace.apply, Workspace.setPaneTitle, hres]
  | setPaneNoPersist paneId noPersist =>
      obtain ⟨_, _, _, hres⟩ := Workspace.updatePane_effect w paneId _ _
      rw [Workspace.apply, Workspace.setPaneNoPersist, hres]
  | setPaneExitStatus paneId status =>
      obtain ⟨_, _, _, hres⟩ := Workspace.updatePane_effect w paneId _ _
      rw [Workspace.apply, Workspace.setPaneExitStatus, hres]
  | takeOutput paneId raw =>
      obtain ⟨_, hres⟩ := Workspace.takeOutput_effect w paneId raw
      rw [Workspace.apply, hres]
  | returnOutput paneId screen proc =>
      obtain ⟨_, _, _, hres⟩ := Workspace.returnOutput_effect w paneId screen proc
      rw [Workspace.apply, hres]
  | markPersisted => rfl

end DaemonEffects

section System

def EndpointCommand.isInput : EndpointCommand → Bool
  | sendInput _ _ _ _ => true
  | _ => false

def ClientCommand.isInput : ClientCommand → Bool
  | terminalInput _ _ _ => true
  | _ => false

/-- A window, the actor of one endpoint, and the daemon there with what is on
the wire in either direction. -/
structure SplitState (P : Type u) (G : Type v) where
  window : WindowState
  actor : EndpointActor
  requests : List ClientEnvelope
  responses : List ServerEnvelope
  clientId : Uuid
  workspaces : HashMap Uuid (Workspace P G)

inductive SplitStep (P : Type u) (G : Type v)
  | split (terminalUuid : String) (orientation : SplitOrientation) (newId : Uuid)
      (view : SplitView)
  | input (command : EndpointCommand)
  | take
  | written
  | handle (env : HandlerEnv) (spawned : Except String Unit)
  | receive
  | reconcile
  | otherEvent (event : ActorEvent)
  | background (runtimeId : Uuid) (op : WorkspaceOp P G)

/-- A request for the daemon goes to the actor of its endpoint. -/
def EndpointActor.deliver (a : EndpointActor) :
    Option (RuntimeEndpoint × EndpointCommand) → EndpointActor
  | some (endpoint, command) => if endpoint = a.endpoint then a.trySelf command else a
  | none => a

namespace SplitState

variable {P : Type u} {G : Type v}

/-- Ids are minted: no layout and no tree has the id. -/
def isMinted (s : SplitState P G) (id : Uuid) : Bool :=
  s.window.workspaces.all (fun session => !session.layout.containsTerminal (uuidToString id)) &&
    s.workspaces.values.all (fun w => !w.tree.contains (.fromUuid id))

variable [VteParser P] [Vt100Parser G] [UuidText]

/-- One step. -/
def next (s : SplitState P G) : SplitStep P G → Option (SplitState P G)
  | .split terminalUuid orientation newId view =>
      if s.isMinted newId then
        let (window, request) :=
          s.window.splitTerminal terminalUuid (uuidToString newId) orientation view
        some { s with window := window, actor := s.actor.deliver request }
      else
        none
  | .input command =>
      if command.isInput then
        (s.actor.next (.command command)).map (fun actor => { s with actor := actor })
      else
        none
  | .take => (s.actor.next (.take (.ok ()))).map (fun actor => { s with actor := actor })
  | .written =>
      match s.actor.phase with
      | .sending _ request _ =>
          (s.actor.next .written).map
            (fun actor => { s with actor := actor, requests := s.requests ++ [request] })
      | _ => none
  | .handle env spawned =>
      match s.requests with
      | [] => none
      | request :: rest =>
          match request.command with
          | .splitPane runtimeId targetPaneId axis ratio spec =>
              if s.isMinted env.paneId then
                let (payload, workspaces) := handleV3SplitPane s.workspaces s.clientId env spawned
                  runtimeId targetPaneId axis ratio spec
                some { s with
                  requests := rest
                  responses := s.responses ++ [⟨request.requestId, payload⟩]
                  workspaces := workspaces }
              else
                none
          -- Input is written to the pane and not answered.
          | _ => some { s with requests := rest }
  | .receive =>
      match s.responses with
      | [] => none
      | response :: rest =>
          (s.actor.next (.receive response)).map
            (fun actor => { s with actor := actor, responses := rest })
  | .reconcile =>
      match s.actor.events.receive with
      | none => none
      | some (event, _) =>
          (s.window.reconcileSplitEvent event).bind fun window =>
            (s.actor.next .drain).map (fun actor => { s with window := window, actor := actor })
  | .otherEvent event =>
      if event.isMessage then
        (s.actor.next (.otherEvent event)).map (fun actor => { s with actor := actor })
      else
        none
  | .background runtimeId op =>
      if keepsArrangement op then
        some { s with workspaces := s.workspaces.modify runtimeId (fun w => w.apply op) }
      else
        none

end SplitState

end System

end Client
end Rttx
