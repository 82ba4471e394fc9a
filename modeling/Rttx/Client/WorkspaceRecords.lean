import Rttx.Client.SessionWindow

/-!
# Records of workspaces

The workspaces document keeps its own copy of the types of a workspace, and each
workspace is converted to a record and back.  The record keeps the endpoint as a
canonical host key: the user and the case of a host and the path to the daemon's
binary are left out, and whether the workspace is managed is read off the key and
the runtime reference.

**Results.**
* `LayoutNode.ofState_toState`, `PaneRecoveryRecord.ofState_toState`: layouts and
  recoveries survive the conversion.
* `toState_toSession`: the reduced record of a window's start-up.
* `record_returns`: what a workspace and its record have in common.
-/

namespace Rttx
namespace Client

open Kernel Server

section State

/-- Accent color of a workspace. -/
inductive WorkspaceColor
  | blue | green | yellow | red | purple | pink | teal | orange
deriving DecidableEq, Repr

/-- A workspace with everything that is persisted; the policy is a part of the
runtime metadata. -/
structure PersistedWorkspace extends Session where
  inputSync : Bool
  policy : WorkspacePolicy
  color : WorkspaceColor

end State

section HostKeys

/-- White space in the sense of Unicode. -/
def isWhiteSpace (c : Char) : Bool :=
  let n := c.toNat
  (0x9 ≤ n && n ≤ 0xd) || n = 0x20 || n = 0x85 || n = 0xa0 || n = 0x1680 ||
    (0x2000 ≤ n && n ≤ 0x200a) || n = 0x2028 || n = 0x2029 || n = 0x202f || n = 0x205f ||
    n = 0x3000

def trim (chars : List Char) : List Char :=
  ((chars.dropWhile isWhiteSpace).reverse.dropWhile isWhiteSpace).reverse

/-- Strip the user from an SSH target, after any options. -/
def stripSshUser (target : List Char) : List Char :=
  let lastToken := (target.reverse.takeWhile (fun c => c != ' ')).reverse
  if lastToken.contains '@' then (lastToken.dropWhile (fun c => c != '@')).tail else lastToken

/-- The stable host key of an SSH target. -/
def normalizeSshKey (sshTarget : String) : String :=
  String.ofList ((stripSshUser (trim sshTarget.toList)).map Char.toLower)

end HostKeys

namespace Store

section Records

inductive WorkspaceColor
  | blue | green | yellow | red | purple | pink | teal | orange
deriving DecidableEq, Repr

inductive WorkspacePolicy
  | persistent
  | ephemeral
deriving DecidableEq, Repr

/-- How a workspace was attached to its runtime. -/
inductive RuntimeAttachmentKind
  | created
  | attached
  | recovered
deriving DecidableEq, Repr

/-- Durable reference to a daemon runtime. -/
structure RuntimeRef where
  runtimeId : String
  attachmentKind : RuntimeAttachmentKind
deriving DecidableEq, Repr

inductive InputSyncState
  | off
  | on
deriving DecidableEq, Repr

inductive PaneSource
  | emptyShell
  | command (title : String)
  | manual
deriving DecidableEq, Repr

inductive PaneTarget
  | localFolder (path : String)
  | remoteShell (sshTarget : String) (remoteFolder : Option String)
deriving DecidableEq, Repr

inductive StartupStep
  | sendText (text : String) (execute : Bool)
deriving DecidableEq, Repr

structure PaneRecoveryRecord where
  source : PaneSource
  target : Option PaneTarget
  startup : List StartupStep
deriving DecidableEq, Repr

inductive SplitOrientation
  | horizontal
  | vertical
deriving DecidableEq, Repr

inductive LayoutNode
  | terminal (uuid : String) (profile cwd customTitle : Option String)
  | split (orientation : SplitOrientation) (ratio : F64) (first second : LayoutNode)
deriving DecidableEq

/-- A single workspace record. -/
structure WorkspaceRecord where
  id : String
  name : String
  userRenamed : Bool
  endpointKey : String
  policy : WorkspacePolicy
  runtimeRef : Option RuntimeRef
  layout : LayoutNode
  activePaneId : Option String
  zoomedPaneId : Option String
  inputSync : InputSyncState
  color : WorkspaceColor
  paneRecovery : HashMap String PaneRecoveryRecord

end Records

section Conversions

namespace WorkspaceColor

def ofState : Client.WorkspaceColor → WorkspaceColor
  | .blue => blue
  | .green => green
  | .yellow => yellow
  | .red => red
  | .purple => purple
  | .pink => pink
  | .teal => teal
  | .orange => orange

def toState : WorkspaceColor → Client.WorkspaceColor
  | blue => .blue
  | green => .green
  | yellow => .yellow
  | red => .red
  | purple => .purple
  | pink => .pink
  | teal => .teal
  | orange => .orange

@[simp] theorem toState_ofState (c : Client.WorkspaceColor) : (ofState c).toState = c := by
  cases c <;> rfl

end WorkspaceColor

namespace WorkspacePolicy

def ofState : Server.WorkspacePolicy → WorkspacePolicy
  | .persistent => persistent
  | .ephemeral => ephemeral

def toState : WorkspacePolicy → Server.WorkspacePolicy
  | persistent => .persistent
  | ephemeral => .ephemeral

@[simp] theorem toState_ofState (p : Server.WorkspacePolicy) : (ofState p).toState = p := by
  cases p <;> rfl

end WorkspacePolicy

namespace PaneSource

def ofState : Client.PaneSource → PaneSource
  | .emptyShell => emptyShell
  | .command title => command title
  | .manual => manual

def toState : PaneSource → Client.PaneSource
  | emptyShell => .emptyShell
  | command title => .command title
  | manual => .manual

@[simp] theorem toState_ofState (s : Client.PaneSource) : (ofState s).toState = s := by
  cases s <;> rfl

end PaneSource

namespace PaneTarget

def ofState : Client.PaneTarget → PaneTarget
  | .localFolder path => localFolder path
  | .remoteShell sshTarget remoteFolder => remoteShell sshTarget remoteFolder

def toState : PaneTarget → Client.PaneTarget
  | localFolder path => .localFolder path
  | remoteShell sshTarget remoteFolder => .remoteShell sshTarget remoteFolder

@[simp] theorem toState_ofState (t : Client.PaneTarget) : (ofState t).toState = t := by
  cases t <;> rfl

end PaneTarget

namespace StartupStep

def ofState : Client.StartupStep → StartupStep
  | .sendText text execute => sendText text execute

def toState : StartupStep → Client.StartupStep
  | sendText text execute => .sendText text execute

@[simp] theorem toState_ofState (s : Client.StartupStep) : (ofState s).toState = s := by
  cases s
  rfl

end StartupStep

namespace PaneRecoveryRecord

def ofState (r : PaneRecovery) : PaneRecoveryRecord where
  source := .ofState r.source
  target := r.target.map PaneTarget.ofState
  startup := r.startup.map StartupStep.ofState

def toState (r : PaneRecoveryRecord) : PaneRecovery where
  source := r.source.toState
  target := r.target.map PaneTarget.toState
  startup := r.startup.map StartupStep.toState

/-- **A recovery recipe survives.** -/
@[simp] theorem toState_ofState (r : PaneRecovery) : (ofState r).toState = r := by
  simp [ofState, toState, Function.comp_def]

end PaneRecoveryRecord

namespace SplitOrientation

def ofState : Client.SplitOrientation → SplitOrientation
  | .horizontal => horizontal
  | .vertical => vertical

def toState : SplitOrientation → Client.SplitOrientation
  | horizontal => .horizontal
  | vertical => .vertical

@[simp] theorem toState_ofState (o : Client.SplitOrientation) : (ofState o).toState = o := by
  cases o <;> rfl

end SplitOrientation

namespace LayoutNode

def ofState : Client.LayoutNode → LayoutNode
  | .terminal uuid profile cwd customTitle => terminal uuid profile cwd customTitle
  | .split orientation ratio first second =>
      split (.ofState orientation) ratio (ofState first) (ofState second)

def toState : LayoutNode → Client.LayoutNode
  | terminal uuid profile cwd customTitle => .terminal uuid profile cwd customTitle
  | split orientation ratio first second =>
      .split orientation.toState ratio first.toState second.toState

/-- **A layout survives.** -/
@[simp] theorem toState_ofState (n : Client.LayoutNode) : (ofState n).toState = n := by
  induction n with
  | terminal uuid profile cwd customTitle => rfl
  | split orientation ratio first second ih₁ ih₂ => simp [ofState, toState, ih₁, ih₂]

end LayoutNode

def endpointKeyFromRuntime (runtime : WorkspaceRuntime) : String :=
  match runtime.endpoint with
  | .localHost => "local"
  | .remote host _ => normalizeSshKey host

def runtimeRefFromWorkspace (runtime : WorkspaceRuntime) : Option RuntimeRef :=
  runtime.runtimeId.map (fun id => ⟨id, .created⟩)

namespace WorkspaceRecord

def ofState (ws : PersistedWorkspace) : WorkspaceRecord where
  id := ws.uuid
  name := ws.name
  userRenamed := ws.userRenamed
  endpointKey := if ws.runtime.managed then endpointKeyFromRuntime ws.runtime else "local"
  policy := .ofState ws.policy
  runtimeRef := runtimeRefFromWorkspace ws.runtime
  layout := .ofState ws.layout
  activePaneId := ws.activeTerminalUuid
  zoomedPaneId := ws.zoomedTerminalUuid
  inputSync := if ws.inputSync then .on else .off
  color := .ofState ws.color
  paneRecovery := ws.terminalRecovery.mapValues PaneRecoveryRecord.ofState

/-- Convert back, reconstructing the runtime metadata. -/
def toWorkspaceState (r : WorkspaceRecord) : PersistedWorkspace where
  toSession := Session.normalizeActive
    { uuid := r.id
      name := r.name
      layout := r.layout.toState
      activeTerminalUuid := r.activePaneId
      runtime :=
        { managed := r.endpointKey != "local" || r.runtimeRef.isSome
          endpoint := if r.endpointKey = "local" then .localHost else .remote r.endpointKey none
          runtimeId := r.runtimeRef.map RuntimeRef.runtimeId }
      zoomedTerminalUuid := r.zoomedPaneId
      userRenamed := r.userRenamed
      terminalRecovery := r.paneRecovery.mapValues PaneRecoveryRecord.toState }
  inputSync := r.inputSync == .on
  policy := r.policy.toState
  color := r.color.toState

/-- The part of a record that a window's start-up is about. -/
def brief (r : WorkspaceRecord) : Client.WorkspaceRecord where
  id := r.id
  name := r.name
  userRenamed := r.userRenamed
  endpointKey := r.endpointKey
  runtimeRef := r.runtimeRef.map RuntimeRef.runtimeId
  layout := r.layout.toState
  activePaneId := r.activePaneId
  zoomedPaneId := r.zoomedPaneId
  paneRecovery := r.paneRecovery.mapValues PaneRecoveryRecord.toState

/-- A window's start-up builds the session of the record. -/
theorem brief_toSession (r : WorkspaceRecord) :
    r.brief.toSession = r.toWorkspaceState.toSession := by
  simp only [brief, Client.WorkspaceRecord.toSession, toWorkspaceState, Option.isSome_map]
  rfl

end WorkspaceRecord

end Conversions

section RoundTrip

/-- The value of a workspace after a restart. -/
def restored (ws : PersistedWorkspace) : PersistedWorkspace :=
  (WorkspaceRecord.ofState ws).toWorkspaceState

theorem mapValues_roundTrip (m : HashMap String PaneRecovery) :
    (m.mapValues PaneRecoveryRecord.ofState).mapValues PaneRecoveryRecord.toState = m := by
  apply AList.ext
  simp [HashMap.mapValues, Function.comp_def]

/-- The active terminal if the layout has it, or else the first one. -/
def activeOrFirst (layout : Client.LayoutNode) (active : Option String) : Option String :=
  if active.any (fun uuid => layout.containsTerminal uuid) then active
  else layout.terminalUuids.head?

/-- Only the active terminal is normalized. -/
theorem normalizeActive_eq (w : Session) :
    w.normalizeActive =
      { w with activeTerminalUuid := activeOrFirst w.layout w.activeTerminalUuid } := by
  simp only [Session.normalizeActive, WorkspaceState.normalizeActiveTerminal, activeOrFirst]
  split <;> rfl

/-- The restored workspace, with the endpoint read off its key. -/
theorem restored_eq (ws : PersistedWorkspace) :
    let key := if ws.runtime.managed then endpointKeyFromRuntime ws.runtime else "local"
    restored ws =
      { ws with
        activeTerminalUuid := activeOrFirst ws.layout ws.activeTerminalUuid
        runtime :=
          { managed := key != "local" || ws.runtime.runtimeId.isSome
            endpoint := if key = "local" then .localHost else .remote key none
            runtimeId := ws.runtime.runtimeId } } := by
  intro key
  have hsync : ((if ws.inputSync then InputSyncState.on else .off) == .on) = ws.inputSync := by
    cases ws.inputSync <;> rfl
  have hid : (runtimeRefFromWorkspace ws.runtime).map RuntimeRef.runtimeId =
      ws.runtime.runtimeId := by
    simp [runtimeRefFromWorkspace, Function.comp_def]
  have hsome : (runtimeRefFromWorkspace ws.runtime).isSome = ws.runtime.runtimeId.isSome := by
    rw [runtimeRefFromWorkspace, Option.isSome_map]
  simp only [restored, WorkspaceRecord.toWorkspaceState, WorkspaceRecord.ofState,
    normalizeActive_eq, LayoutNode.toState_ofState, WorkspacePolicy.toState_ofState,
    WorkspaceColor.toState_ofState, mapValues_roundTrip, hsync, hid, hsome]
  rfl

/-- Equal in every field that is persisted. -/
structure SameFields (back ws : PersistedWorkspace) : Prop where
  layout : back.layout = ws.layout
  active : back.activeTerminalUuid = ws.activeTerminalUuid
  zoomed : back.zoomedTerminalUuid = ws.zoomedTerminalUuid
  recovery : back.terminalRecovery = ws.terminalRecovery
  name : back.name = ws.name
  policy : back.policy = ws.policy
  endpoint : back.runtime.endpoint = ws.runtime.endpoint
  managed : back.runtime.managed = ws.runtime.managed
  runtimeId : back.runtime.runtimeId = ws.runtime.runtimeId

/-- What a workspace has in common with its record. -/
structure Returns (back ws : PersistedWorkspace) : Prop where
  uuid : back.uuid = ws.uuid
  name : back.name = ws.name
  userRenamed : back.userRenamed = ws.userRenamed
  layout : back.layout = ws.layout
  zoomed : back.zoomedTerminalUuid = ws.zoomedTerminalUuid
  recovery : back.terminalRecovery = ws.terminalRecovery
  inputSync : back.inputSync = ws.inputSync
  policy : back.policy = ws.policy
  color : back.color = ws.color
  runtimeId : back.runtime.runtimeId = ws.runtime.runtimeId
  /-- The active terminal, if the layout has it, or else the first one. -/
  active : back.activeTerminalUuid = activeOrFirst ws.layout ws.activeTerminalUuid
  /-- A local workspace is managed iff it has a runtime. -/
  onLocal : ws.runtime.endpoint = .localHost →
    ws.runtime.managed = ws.runtime.runtimeId.isSome → back.runtime = ws.runtime
  /-- A managed remote one stays managed, under the host key. -/
  onRemote : ∀ host path, ws.runtime.managed = true → ws.runtime.endpoint = .remote host path →
    normalizeSshKey host ≠ "local" →
      back.runtime.managed = true ∧ back.runtime.endpoint = .remote (normalizeSshKey host) none

/-- **A workspace and its record.**  Everything comes back but for what the record
leaves out: the active terminal is normalized, and the endpoint is the canonical
host key. -/
theorem record_returns (ws : PersistedWorkspace) : Returns (restored ws) ws := by
  rw [restored_eq]
  refine ⟨rfl, rfl, rfl, rfl, rfl, rfl, rfl, rfl, rfl, rfl, rfl, ?_, ?_⟩
  · intro hlocal hmanaged
    have hkey : (if ws.runtime.managed then endpointKeyFromRuntime ws.runtime else "local") =
        "local" := by
      simp [endpointKeyFromRuntime, hlocal]
    simp only [hkey, bne_self_eq_false, Bool.false_or, if_true, ← hmanaged, ← hlocal]
  · intro host path hmanaged hremote hkey
    simp [endpointKeyFromRuntime, hremote, hmanaged, hkey]

/-- The user and the binary's path of a remote host are left out of its record, and
an active terminal that the layout has lost is replaced. -/
theorem record_leaves_out :
    let deploy : PersistedWorkspace :=
      { uuid := "w", name := "Remote", layout := .terminal "t1" none (some "/srv/app") none
        activeTerminalUuid := some "ghost", zoomedTerminalUuid := none, userRenamed := false
        runtime :=
          { managed := true
            endpoint := .remote "deploy@example.com" (some "/opt/rttx-server")
            runtimeId := none }
        terminalRecovery := ∅, inputSync := false, policy := .persistent, color := .blue }
    (restored deploy).runtime.endpoint = .remote "example.com" none ∧
      (restored deploy).activeTerminalUuid = some "t1" ∧ ¬ SameFields (restored deploy) deploy := by
  intro deploy
  have hendpoint : (restored deploy).runtime.endpoint = .remote "example.com" none := by
    decide +kernel
  refine ⟨hendpoint, by decide +kernel, fun h => ?_⟩
  have hsame := h.endpoint
  rw [hendpoint] at hsame
  exact absurd hsame (by decide +kernel)

end RoundTrip

end Store

end Client
end Rttx
