import Mathlib.Data.List.Lex
import Mathlib.Data.Prod.Lex
import Mathlib.Data.String.Basic
import Mathlib.Order.WithBot
import Rttx.Client.PaneFeed
import Rttx.Kernel.SortedBuffers
import Rttx.Server.Snapshot

/-!
# Runs of pushed events

The window drains the events of its endpoints in batches.  Between two events
that change the set of panes it takes the pushed messages as a run, feeds the
output of the run first, collected for each pane, and handles the other
messages after it.

What a structural event does is a parameter: any function of the window.

**Results.**
* `processEventRun_eq`: a run in which no output follows a text is handled as
  its messages are singly.
* `coalescing_invisible`: batches of such runs act as single events.
* `coalescing_visible`: output that follows a lost lease is fed before the
  message about it.
-/

namespace Rttx
namespace Client

open Kernel Server

universe u

section Messages

/-- What the daemon pushes, as far as the window reads it; what it only passes
over is one kind. -/
inductive PushPayload
  | outputDelta (paneId data : Bytes)
  | titleChanged (paneId : Bytes) (title : String)
  | cwdChanged (paneId : Bytes) (cwd : String)
  | paneExited (paneId : Bytes) (status : Int)
  | bell (paneId : Bytes)
  | clipboardWrite (paneId data : Bytes)
  | terminalModeChanged (paneId : Bytes) (modes : Option TerminalModeState)
  | leaseLost (runtimeId : Bytes)
  | workspaceRenamed (runtimeId : Bytes) (name : String) (userRenamed : Bool)
  | workspaceTerminated (runtimeId : Bytes)
  | error (message : String)
  | passedOver (paneId : Option Bytes)
deriving DecidableEq

namespace PushPayload

def extractPaneId : PushPayload → Option Uuid
  | outputDelta paneId _ => bytesToUuid paneId
  | titleChanged paneId _ => bytesToUuid paneId
  | cwdChanged paneId _ => bytesToUuid paneId
  | paneExited paneId _ => bytesToUuid paneId
  | bell paneId => bytesToUuid paneId
  | clipboardWrite paneId _ => bytesToUuid paneId
  | terminalModeChanged paneId _ => bytesToUuid paneId
  | passedOver paneId => paneId.bind bytesToUuid
  | _ => none

/-- What a message for a pane does to the pane's view. -/
def action? : PushPayload → Option PaneAction
  | outputDelta _ data => some (.output data)
  | titleChanged _ title => some (.title title)
  | cwdChanged _ cwd => some (.directory cwd)
  | paneExited _ status => some (.exit status)
  | terminalModeChanged _ (some modes) =>
      some (.applicationModes modes.applicationCursorKeys modes.applicationKeypad)
  | _ => none

end PushPayload

/-- An event that the window polls: a pushed message, or one that changes the
set or the content of the views. -/
inductive PolledEvent (β : Type u)
  | workspaceMessage (endpoint : RuntimeEndpoint) (payload : Option PushPayload)
  | structural (event : β)

/-- The pane that output is for, as the daemon names it. -/
structure DeltaKey where
  endpoint : RuntimeEndpoint
  paneId : Bytes
deriving DecidableEq

/-- The place of an endpoint in the derived order: the local one first. -/
def RuntimeEndpoint.rank : RuntimeEndpoint → WithBot (String ×ₗ WithBot String)
  | localHost => ⊥
  | remote host none => ((toLex (host, ⊥) : String ×ₗ WithBot String) : WithBot _)
  | remote host (some path) =>
      ((toLex (host, (path : WithBot String)) : String ×ₗ WithBot String) : WithBot _)

def DeltaKey.rank (key : DeltaKey) : WithBot (String ×ₗ WithBot String) ×ₗ List Nat :=
  toLex (key.endpoint.rank, key.paneId.map UInt8.toNat)

theorem RuntimeEndpoint.rank_injective : Function.Injective RuntimeEndpoint.rank := by
  intro e e' h
  cases e with
  | localHost =>
      cases e' with
      | localHost => rfl
      | remote host path => cases path <;> cases h
  | remote host path =>
      cases e' with
      | localHost => cases path <;> cases h
      | remote host' path' =>
          cases path <;> cases path' <;> cases h <;> rfl

theorem DeltaKey.rank_injective : Function.Injective DeltaKey.rank := by
  intro key key' h
  obtain ⟨endpoint, paneId⟩ := key
  obtain ⟨endpoint', paneId'⟩ := key'
  have hpair := toLex.injective h
  rw [Prod.mk.injEq] at hpair
  have hbytes : Function.Injective UInt8.toNat := fun a b hab => UInt8.toNat_inj.mp hab
  have hendpoint : endpoint = endpoint' := RuntimeEndpoint.rank_injective hpair.1
  have hpane : paneId = paneId' := List.map_injective_iff.mpr hbytes hpair.2
  rw [hendpoint, hpane]

instance : LinearOrder DeltaKey :=
  LinearOrder.lift' DeltaKey.rank DeltaKey.rank_injective

namespace PolledEvent

variable {β : Type u}

/-- The output of an event. -/
def delta? : PolledEvent β → Option (DeltaKey × Bytes)
  | workspaceMessage endpoint (some (.outputDelta paneId data)) =>
      some (⟨endpoint, paneId⟩, data)
  | _ => none

/-- Whether an event must be applied in sequence with the output around it. -/
def isOutputOrderingBarrier : PolledEvent β → Bool
  | workspaceMessage _ _ => false
  | structural _ => true

end PolledEvent

/-- A batch, partitioned. -/
structure CoalescedBatch (β : Type u) where
  deltaBuffers : List (DeltaKey × Bytes)
  otherEvents : List (PolledEvent β)

/-- Collect the output of a batch for each pane, and the rest in order. -/
def coalesceEventBatch {β : Type u} (events : List (PolledEvent β)) : CoalescedBatch β where
  deltaBuffers := collect (events.filterMap PolledEvent.delta?)
  otherEvents := events.filter (fun event => event.delta?.isNone)

end Messages

section Routing

/-- What routing reads of a workspace. -/
structure Route where
  uuid : String
  managed : Bool
  endpoint : RuntimeEndpoint
  runtimeId : Option String
  terminalUuids : List String

def WorkspaceState.route (session : WorkspaceState) : Route :=
  ⟨session.uuid, session.runtime.managed, session.runtime.endpoint, session.runtime.runtimeId,
    session.layout.terminalUuids⟩

namespace WindowState

/-- The managed workspace that a runtime backs. -/
def workspaceForRuntime (s : WindowState) (endpoint : RuntimeEndpoint) (runtimeId : String) :
    Option String :=
  (s.workspaces.find? (fun session =>
    session.usesManagedRuntime && decide (session.runtime.endpoint = endpoint) &&
      decide (session.runtime.runtimeId = some runtimeId))).map WorkspaceState.uuid

/-- The workspace and the layout terminal of a runtime pane. -/
def runtimePaneTarget (s : WindowState) (endpoint : RuntimeEndpoint) (runtimePaneId : String) :
    Option (String × String) :=
  s.paneReverseIndex.lookup (paneIndexKey endpoint.key runtimePaneId)

/-- Take a name from the daemon; an automatic one does not replace the user's. -/
def applyDaemonWorkspaceName (s : WindowState) (workspaceId name : String)
    (userRenamed : Bool) : WindowState :=
  if name = "" then
    s
  else
    match s.findWorkspace workspaceId with
    | none => s
    | some session =>
        if session.userRenamed && !userRenamed then
          s
        else
          s.updateWorkspace { session with name := name, userRenamed := userRenamed }

/-- Record a terminal's directory in the layout of its workspace. -/
def setTerminalCwd (s : WindowState) (workspaceId terminalUuid cwd : String) : WindowState :=
  match s.findWorkspace workspaceId with
  | none => s
  | some session =>
      s.updateWorkspace
        { session with layout := (session.layout.setTerminalCwd terminalUuid (some cwd)).2 }

/-- The layout terminals of a workspace. -/
def workspaceTerminals (s : WindowState) (workspaceId : String) : List String :=
  ((s.findWorkspace workspaceId).map (fun session => session.layout.terminalUuids)).getD []

/-- What routing reads of the state. -/
def routes (s : WindowState) : HashMap String (String × String) × List Route :=
  (s.paneReverseIndex, s.workspaces.map WorkspaceState.route)

theorem map_route_replaceFirst {id : String} {old new : WorkspaceState}
    {sessions : List WorkspaceState}
    (hold : sessions.find? (fun session => session.uuid == id) = some old)
    (hroute : new.route = old.route) :
    (replaceFirst id new sessions).map WorkspaceState.route =
      sessions.map WorkspaceState.route := by
  induction sessions with
  | nil => rfl
  | cons head rest ih =>
      simp only [replaceFirst]
      split
      · rename_i heq
        rw [List.find?_cons_of_pos (by simpa using heq)] at hold
        cases hold
        rw [List.map_cons, List.map_cons, hroute]
      · rename_i hne
        rw [List.find?_cons_of_neg (by simpa using hne)] at hold
        rw [List.map_cons, List.map_cons, ih hold]

/-- A change of a workspace that keeps its route keeps all routes. -/
theorem routes_updateWorkspace {s : WindowState} {id : String} {old new : WorkspaceState}
    (hold : s.findWorkspace id = some old)
    (hroute : new.route = old.route) :
    (s.updateWorkspace new).routes = s.routes := by
  have hid : new.uuid = id := by
    rw [show new.uuid = old.uuid from congrArg Route.uuid hroute]
    exact findWorkspace_uuid hold
  simp only [routes, updateWorkspace]
  rw [hid, map_route_replaceFirst hold hroute]

theorem routes_applyDaemonWorkspaceName (s : WindowState) (workspaceId name : String)
    (userRenamed : Bool) :
    (s.applyDaemonWorkspaceName workspaceId name userRenamed).routes = s.routes := by
  unfold applyDaemonWorkspaceName
  split
  · rfl
  · cases hfound : s.findWorkspace workspaceId with
    | none => rfl
    | some session =>
        simp only
        split
        · rfl
        · exact routes_updateWorkspace hfound rfl

theorem routes_setTerminalCwd (s : WindowState) (workspaceId terminalUuid cwd : String) :
    (s.setTerminalCwd workspaceId terminalUuid cwd).routes = s.routes := by
  unfold setTerminalCwd
  cases hfound : s.findWorkspace workspaceId with
  | none => rfl
  | some session =>
      refine routes_updateWorkspace hfound ?_
      simp only [WorkspaceState.route]
      rw [LayoutNode.terminalUuids_of_shape
        (LayoutNode.setTerminalCwd_shape terminalUuid (some cwd) session.layout)]

/-- The target of a pane is read off the routes. -/
theorem runtimePaneTarget_of_routes {s s' : WindowState}
    (h : s.routes = s'.routes)
    (endpoint : RuntimeEndpoint)
    (runtimePaneId : String) :
    s.runtimePaneTarget endpoint runtimePaneId = s'.runtimePaneTarget endpoint runtimePaneId := by
  rw [runtimePaneTarget, runtimePaneTarget, show s.paneReverseIndex = s'.paneReverseIndex from
    congrArg Prod.fst h]

theorem workspaceForRuntime_of_routes {s s' : WindowState}
    (h : s.routes = s'.routes)
    (endpoint : RuntimeEndpoint)
    (runtimeId : String) :
    s.workspaceForRuntime endpoint runtimeId = s'.workspaceForRuntime endpoint runtimeId := by
  have hread : ∀ s : WindowState, s.workspaceForRuntime endpoint runtimeId =
      (s.routes.2.find? (fun route => route.managed && decide (route.endpoint = endpoint) &&
        decide (route.runtimeId = some runtimeId))).map Route.uuid := by
    intro s
    simp only [routes, List.find?_map, Option.map_map]
    rfl
  rw [hread, hread, h]

theorem workspaceTerminals_of_routes {s s' : WindowState}
    (h : s.routes = s'.routes)
    (workspaceId : String) :
    s.workspaceTerminals workspaceId = s'.workspaceTerminals workspaceId := by
  have hread : ∀ s : WindowState, s.workspaceTerminals workspaceId =
      ((s.routes.2.find? (fun route => route.uuid == workspaceId)).map Route.terminalUuids).getD
        [] := by
    intro s
    simp only [routes, List.find?_map, Option.map_map]
    rfl
  rw [hread, hread, h]

end WindowState

end Routing

section Window

/-- What live events read and write of a window. -/
@[ext] structure LiveWindow where
  state : WindowState
  persistentTerminals : String → Option PaneTerminal
  workspaceConnectionStatus : HashMap String ConnectionStatus

namespace LiveWindow

/-- What each terminal was fed. -/
def fed (w : LiveWindow) (uuid : String) : Option Bytes :=
  (w.persistentTerminals uuid).map PaneTerminal.vteFed

/-- Act on a view, if there is one. -/
def actOn (w : LiveWindow) (uuid : String) (a : PaneAction) : LiveWindow :=
  { w with persistentTerminals := fun other =>
      if other = uuid then
        (w.persistentTerminals other).map (fun v => v.act a)
      else
        w.persistentTerminals other }

/-- Record the status of a workspace and present it in the views of its panes. -/
def setWorkspaceConnectionStatus (w : LiveWindow) (workspaceId : String)
    (status : ConnectionStatus) : LiveWindow :=
  (w.state.workspaceTerminals workspaceId).foldl (fun w uuid => w.actOn uuid (.present status))
    { w with
      workspaceConnectionStatus := w.workspaceConnectionStatus.insert workspaceId status }

/-- The workspace that a runtime id of the wire names. -/
def workspaceOf (w : LiveWindow) (endpoint : RuntimeEndpoint) (runtimeId : Bytes) :
    Option String :=
  (bytesToUuid runtimeId).bind fun id => w.state.workspaceForRuntime endpoint (uuidToString id)

/-- Handle a message for a pane that has a view. -/
def handlePaneMessage (w : LiveWindow) (workspaceId uuid : String) (payload : PushPayload) :
    LiveWindow :=
  let w := payload.action?.elim w (fun a => w.actOn uuid a)
  match payload with
  | .cwdChanged _ cwd => { w with state := w.state.setTerminalCwd workspaceId uuid cwd }
  | _ => w

/-- Handle a message by the pane it names. -/
def routePaneMessage (w : LiveWindow) (endpoint : RuntimeEndpoint) (payload : PushPayload) :
    LiveWindow :=
  match payload.extractPaneId.bind (fun id =>
      w.state.runtimePaneTarget endpoint (uuidToString id)) with
  | none => w
  | some (workspaceId, uuid) =>
      if (w.persistentTerminals uuid).isSome then
        w.handlePaneMessage workspaceId uuid payload
      else
        w

def dispatchManagedRuntimeMessage (w : LiveWindow) (endpoint : RuntimeEndpoint)
    (payload : Option PushPayload) : LiveWindow :=
  match payload with
  | none => w
  | some (.error _) => w
  | some (.leaseLost runtimeId) =>
      match w.workspaceOf endpoint runtimeId with
      | none => w
      | some workspaceId => w.setWorkspaceConnectionStatus workspaceId (.blocked .takenOver)
  | some (.workspaceRenamed runtimeId name userRenamed) =>
      match w.workspaceOf endpoint runtimeId with
      | none => w
      | some workspaceId =>
          { w with state := w.state.applyDaemonWorkspaceName workspaceId name userRenamed }
  | some (.workspaceTerminated runtimeId) =>
      match w.workspaceOf endpoint runtimeId with
      | none => w
      | some workspaceId => w.setWorkspaceConnectionStatus workspaceId .disconnected
  | some payload => w.routePaneMessage endpoint payload

/-- Feed the collected output of one pane. -/
def feedDelta (w : LiveWindow) (delta : DeltaKey × Bytes) : LiveWindow :=
  match (bytesToUuid delta.1.paneId).bind (fun id =>
      w.state.runtimePaneTarget delta.1.endpoint (uuidToString id)) with
  | none => w
  | some (_, uuid) => w.actOn uuid (.output delta.2)

/-- Feed the collected output, pane by pane. -/
def feedCoalescedDeltas (w : LiveWindow) (deltaBuffers : List (DeltaKey × Bytes)) : LiveWindow :=
  deltaBuffers.foldl feedDelta w

end LiveWindow

end Window

section Polling

variable {β : Type u}

/-- A window, the messages it handled besides output, and what the terminals
had been fed at each structural event. -/
structure Progress (β : Type u) where
  window : LiveWindow
  handled : List (PolledEvent β)
  barriers : List (β × (String → Option Bytes))

variable (handle : β → LiveWindow → LiveWindow)

namespace Progress

/-- Handle one event. -/
def handleEndpointEvent (p : Progress β) (event : PolledEvent β) : Progress β :=
  match event with
  | .workspaceMessage endpoint payload =>
      { p with
        window := p.window.dispatchManagedRuntimeMessage endpoint payload
        handled := if event.delta?.isNone then p.handled ++ [event] else p.handled }
  | .structural change =>
      { window := handle change p.window
        handled := p.handled ++ [event]
        barriers := p.barriers ++ [(change, p.window.fed)] }

/-- Handle events singly. -/
def handleAll (p : Progress β) (events : List (PolledEvent β)) : Progress β :=
  events.foldl (handleEndpointEvent handle) p

/-- Coalesce and apply one run of pushed messages. -/
def processEventRun (p : Progress β) (events : List (PolledEvent β)) : Progress β :=
  if events.isEmpty then
    p
  else
    let batch := coalesceEventBatch events
    handleAll handle { p with window := p.window.feedCoalescedDeltas batch.deltaBuffers }
      batch.otherEvents

/-- One event of a batch: a structural one ends the run before it. -/
def pollEvent (st : Progress β × List (PolledEvent β)) (event : PolledEvent β) :
    Progress β × List (PolledEvent β) :=
  if event.isOutputOrderingBarrier then
    (handleEndpointEvent handle (processEventRun handle st.1 st.2) event, [])
  else
    (st.1, st.2 ++ [event])

/-- Drain one batch. -/
def poll (p : Progress β) (events : List (PolledEvent β)) : Progress β :=
  let (p, run) := events.foldl (pollEvent handle) (p, [])
  processEventRun handle p run

/-- Drain batch after batch. -/
def pollAll (p : Progress β) (batches : List (List (PolledEvent β))) : Progress β :=
  batches.foldl (poll handle) p

end Progress

end Polling

section Actions

namespace WindowState

/-- The terminal that output is for. -/
def target (s : WindowState) (key : DeltaKey) : Option String :=
  ((bytesToUuid key.paneId).bind (fun id =>
    s.runtimePaneTarget key.endpoint (uuidToString id))).map Prod.snd

/-- The terminals of the workspace that a runtime id of the wire names. -/
def runtimeTerminals (s : WindowState) (endpoint : RuntimeEndpoint) (runtimeId : Bytes) :
    List String :=
  (((bytesToUuid runtimeId).bind (fun id =>
    s.workspaceForRuntime endpoint (uuidToString id))).map s.workspaceTerminals).getD []

/-- What a message does to the view of a terminal. -/
def actions (s : WindowState) (endpoint : RuntimeEndpoint) (uuid : String) :
    Option PushPayload → List PaneAction
  | none => []
  | some (.error _) => []
  | some (.workspaceRenamed _ _ _) => []
  | some (.leaseLost runtimeId) =>
      if uuid ∈ s.runtimeTerminals endpoint runtimeId then
        [.present (.blocked .takenOver)]
      else
        []
  | some (.workspaceTerminated runtimeId) =>
      if uuid ∈ s.runtimeTerminals endpoint runtimeId then [.present .disconnected] else []
  | some payload =>
      if (payload.extractPaneId.bind (fun id =>
          s.runtimePaneTarget endpoint (uuidToString id))).map Prod.snd = some uuid then
        payload.action?.toList
      else
        []

/-- What an event does to the view of a terminal, unless it is structural. -/
def eventActions {β : Type u} (s : WindowState) (uuid : String) :
    PolledEvent β → List PaneAction
  | .workspaceMessage endpoint payload => s.actions endpoint uuid payload
  | .structural _ => []

theorem target_of_routes {s s' : WindowState}
    (h : s.routes = s'.routes)
    (key : DeltaKey) :
    s.target key = s'.target key := by
  simp only [target, runtimePaneTarget_of_routes h]

/-- What a message does is read off the routes. -/
theorem actions_of_routes {s s' : WindowState}
    (h : s.routes = s'.routes)
    (endpoint : RuntimeEndpoint)
    (uuid : String)
    (payload : Option PushPayload) :
    s.actions endpoint uuid payload = s'.actions endpoint uuid payload := by
  have hterminals : ∀ runtimeId,
      s.runtimeTerminals endpoint runtimeId = s'.runtimeTerminals endpoint runtimeId := by
    intro runtimeId
    have hworkspace : s.workspaceTerminals = s'.workspaceTerminals :=
      funext (fun id => workspaceTerminals_of_routes h id)
    simp only [runtimeTerminals, workspaceForRuntime_of_routes h, hworkspace]
  cases payload with
  | none => rfl
  | some payload =>
      cases payload <;> simp only [actions, hterminals, runtimePaneTarget_of_routes h]

end WindowState

namespace LiveWindow

@[simp] theorem actOn_state (w : LiveWindow) (uuid : String) (a : PaneAction) :
    (w.actOn uuid a).state = w.state :=
  rfl

theorem actOn_terminal (w : LiveWindow) (uuid other : String) (a : PaneAction) :
    (w.actOn uuid a).persistentTerminals other =
      (w.persistentTerminals other).map fun v => if uuid = other then v.act a else v := by
  by_cases heq : other = uuid
  · subst heq
    simp [actOn]
  · have hne : ¬ uuid = other := fun h => heq h.symm
    simp [actOn, heq, hne]

/-- Presenting a status twice is presenting it once. -/
theorem present_present (status : ConnectionStatus) (v : PaneTerminal) :
    (v.act (.present status)).act (.present status) = v.act (.present status) := by
  by_cases hconnected : status.acceptsInput = true
  · simp [PaneTerminal.act, PaneTerminal.setConnectionPresentation, hconnected]
  · by_cases hsilent : v.disconnectMessageFed = true
    · simp [PaneTerminal.act, PaneTerminal.setConnectionPresentation, hconnected, hsilent]
    · simp [PaneTerminal.act, PaneTerminal.setConnectionPresentation, hconnected, hsilent,
        PaneTerminal.feedToVte]

theorem foldl_present_terminal (status : ConnectionStatus) (uuids : List String)
    (w : LiveWindow) (uuid : String) :
    (uuids.foldl (fun w uuid => w.actOn uuid (.present status)) w).persistentTerminals uuid =
      (w.persistentTerminals uuid).map fun v =>
        if uuid ∈ uuids then v.act (.present status) else v := by
  induction uuids generalizing w with
  | nil => simp
  | cons head rest ih =>
      rw [List.foldl_cons, ih, actOn_terminal, Option.map_map]
      congr 1
      funext v
      by_cases hhead : head = uuid
      · by_cases hrest : uuid ∈ rest <;> simp [hhead, hrest, present_present]
      · by_cases hrest : uuid ∈ rest <;> simp [hhead, Ne.symm hhead, hrest]

theorem foldl_present_frame (status : ConnectionStatus) (uuids : List String)
    (w : LiveWindow) :
    (uuids.foldl (fun w uuid => w.actOn uuid (.present status)) w).state = w.state ∧
      (uuids.foldl (fun w uuid => w.actOn uuid (.present status)) w).workspaceConnectionStatus =
        w.workspaceConnectionStatus := by
  induction uuids generalizing w with
  | nil => exact ⟨rfl, rfl⟩
  | cons head rest ih => exact ih (w.actOn head (.present status))

end LiveWindow

end Actions

section Messages

namespace LiveWindow

/-- The terminal that a pane message is for, and its workspace. -/
theorem target_extract (s : WindowState) (endpoint : RuntimeEndpoint) (paneId data : Bytes) :
    s.target ⟨endpoint, paneId⟩ =
      ((PushPayload.outputDelta paneId data).extractPaneId.bind (fun id =>
        s.runtimePaneTarget endpoint (uuidToString id))).map Prod.snd :=
  rfl

theorem setWorkspaceConnectionStatus_terminal (w : LiveWindow) (workspaceId : String)
    (status : ConnectionStatus) (uuid : String) :
    (w.setWorkspaceConnectionStatus workspaceId status).persistentTerminals uuid =
      (w.persistentTerminals uuid).map fun v =>
        if uuid ∈ w.state.workspaceTerminals workspaceId then v.act (.present status) else v :=
  foldl_present_terminal status _ _ uuid

theorem runtimeTerminals_eq (w : LiveWindow) (endpoint : RuntimeEndpoint) (runtimeId : Bytes) :
    w.state.runtimeTerminals endpoint runtimeId =
      ((w.workspaceOf endpoint runtimeId).map w.state.workspaceTerminals).getD [] :=
  rfl

theorem handlePaneMessage_terminal (w : LiveWindow) (workspaceId uuid other : String)
    (payload : PushPayload) :
    (w.handlePaneMessage workspaceId uuid payload).persistentTerminals other =
      (w.persistentTerminals other).map fun v =>
        if uuid = other then payload.action?.toList.foldl PaneTerminal.act v else v := by
  have hact : (payload.action?.elim w (fun a => w.actOn uuid a)).persistentTerminals other =
      (w.persistentTerminals other).map fun v =>
        if uuid = other then payload.action?.toList.foldl PaneTerminal.act v else v := by
    cases payload.action? with
    | none => simp
    | some a => simpa using actOn_terminal w uuid other a
  rw [← hact]
  unfold handlePaneMessage
  cases payload <;> rfl

/-- A message for a pane acts on the view of its terminal. -/
theorem routePaneMessage_terminal (w : LiveWindow) (endpoint : RuntimeEndpoint)
    (payload : PushPayload) (uuid : String) :
    (w.routePaneMessage endpoint payload).persistentTerminals uuid =
      (w.persistentTerminals uuid).map fun v =>
        (if (payload.extractPaneId.bind (fun id =>
            w.state.runtimePaneTarget endpoint (uuidToString id))).map Prod.snd = some uuid then
          payload.action?.toList
        else
          []).foldl PaneTerminal.act v := by
  unfold routePaneMessage
  cases htarget : payload.extractPaneId.bind (fun id =>
      w.state.runtimePaneTarget endpoint (uuidToString id)) with
  | none => simp
  | some target =>
      obtain ⟨workspaceId, terminal⟩ := target
      by_cases heq : terminal = uuid
      · subst heq
        cases hview : w.persistentTerminals terminal with
        | none => simp [hview]
        | some v =>
            simp only [hview, Option.isSome_some, if_true, handlePaneMessage_terminal]
            simp
      · have hmissed : ((w.handlePaneMessage workspaceId terminal payload).persistentTerminals
            uuid) = w.persistentTerminals uuid := by
          rw [handlePaneMessage_terminal]
          simp [heq]
        simp only [Option.map_some, Option.some.injEq, heq, if_false, List.foldl_nil,
          Option.map_id']
        split
        · exact hmissed
        · rfl

/-- **What a message does to each view.** -/
theorem dispatch_terminal (w : LiveWindow) (endpoint : RuntimeEndpoint)
    (payload : Option PushPayload) (uuid : String) :
    (w.dispatchManagedRuntimeMessage endpoint payload).persistentTerminals uuid =
      (w.persistentTerminals uuid).map fun v =>
        (w.state.actions endpoint uuid payload).foldl PaneTerminal.act v := by
  have hstatus : ∀ runtimeId status,
      (match w.workspaceOf endpoint runtimeId with
        | none => w
        | some workspaceId =>
            w.setWorkspaceConnectionStatus workspaceId status).persistentTerminals uuid =
        (w.persistentTerminals uuid).map fun v =>
          (if uuid ∈ w.state.runtimeTerminals endpoint runtimeId then
            [.present status]
          else
            ([] : List PaneAction)).foldl PaneTerminal.act v := by
    intro runtimeId status
    rw [runtimeTerminals_eq]
    cases w.workspaceOf endpoint runtimeId with
    | none => simp
    | some workspaceId =>
        simp only [setWorkspaceConnectionStatus_terminal, Option.map_some, Option.getD_some]
        congr 1
        funext v
        split <;> rfl
  cases payload with
  | none => simp [dispatchManagedRuntimeMessage, WindowState.actions]
  | some payload =>
      cases payload with
      | error message => simp [dispatchManagedRuntimeMessage, WindowState.actions]
      | leaseLost runtimeId => exact hstatus runtimeId _
      | workspaceTerminated runtimeId => exact hstatus runtimeId _
      | workspaceRenamed runtimeId name userRenamed =>
          simp only [dispatchManagedRuntimeMessage, WindowState.actions]
          cases w.workspaceOf endpoint runtimeId <;> simp
      | _ => exact routePaneMessage_terminal w endpoint _ uuid

/-- Two windows that differ at most in what their views hold. -/
structure SameFrame (w w' : LiveWindow) : Prop where
  state : w.state = w'.state
  status : w.workspaceConnectionStatus = w'.workspaceConnectionStatus
  views : ∀ uuid, (w.persistentTerminals uuid).isSome = (w'.persistentTerminals uuid).isSome

theorem SameFrame.symm {w w' : LiveWindow}
    (h : SameFrame w w') :
    SameFrame w' w :=
  ⟨h.state.symm, h.status.symm, fun uuid => (h.views uuid).symm⟩

theorem SameFrame.trans {w w' w'' : LiveWindow}
    (h : SameFrame w w')
    (h' : SameFrame w' w'') :
    SameFrame w w'' :=
  ⟨h.state.trans h'.state, h.status.trans h'.status,
    fun uuid => (h.views uuid).trans (h'.views uuid)⟩

theorem dispatch_isSome (w : LiveWindow) (endpoint : RuntimeEndpoint)
    (payload : Option PushPayload) (uuid : String) :
    ((w.dispatchManagedRuntimeMessage endpoint payload).persistentTerminals uuid).isSome =
      (w.persistentTerminals uuid).isSome := by
  rw [dispatch_terminal, Option.isSome_map]

/-- The state after a message. -/
def stateAfter (w : LiveWindow) (endpoint : RuntimeEndpoint) : PushPayload → WindowState
  | .workspaceRenamed runtimeId name userRenamed =>
      (w.workspaceOf endpoint runtimeId).elim w.state (fun workspaceId =>
        w.state.applyDaemonWorkspaceName workspaceId name userRenamed)
  | .cwdChanged paneId cwd =>
      ((bytesToUuid paneId).bind (fun id =>
        w.state.runtimePaneTarget endpoint (uuidToString id))).elim w.state (fun target =>
          if (w.persistentTerminals target.2).isSome then
            w.state.setTerminalCwd target.1 target.2 cwd
          else
            w.state)
  | _ => w.state

/-- The statuses after a message. -/
def statusAfter (w : LiveWindow) (endpoint : RuntimeEndpoint) :
    PushPayload → HashMap String ConnectionStatus
  | .leaseLost runtimeId =>
      (w.workspaceOf endpoint runtimeId).elim w.workspaceConnectionStatus (fun workspaceId =>
        w.workspaceConnectionStatus.insert workspaceId (.blocked .takenOver))
  | .workspaceTerminated runtimeId =>
      (w.workspaceOf endpoint runtimeId).elim w.workspaceConnectionStatus (fun workspaceId =>
        w.workspaceConnectionStatus.insert workspaceId .disconnected)
  | _ => w.workspaceConnectionStatus

/-- What a message changes besides the views. -/
theorem dispatch_frame (w : LiveWindow) (endpoint : RuntimeEndpoint)
    (payload : PushPayload) :
    (w.dispatchManagedRuntimeMessage endpoint (some payload)).state =
        w.stateAfter endpoint payload ∧
      (w.dispatchManagedRuntimeMessage endpoint (some payload)).workspaceConnectionStatus =
        w.statusAfter endpoint payload := by
  have hstatus : ∀ runtimeId status,
      (match w.workspaceOf endpoint runtimeId with
        | none => w
        | some workspaceId => w.setWorkspaceConnectionStatus workspaceId status).state =
          w.state ∧
      (match w.workspaceOf endpoint runtimeId with
        | none => w
        | some workspaceId =>
            w.setWorkspaceConnectionStatus workspaceId status).workspaceConnectionStatus =
          (w.workspaceOf endpoint runtimeId).elim w.workspaceConnectionStatus
            (fun workspaceId => w.workspaceConnectionStatus.insert workspaceId status) := by
    intro runtimeId status
    cases w.workspaceOf endpoint runtimeId with
    | none => exact ⟨rfl, rfl⟩
    | some workspaceId => exact foldl_present_frame status _ _
  have hact : ∀ (a : Option PaneAction) uuid,
      (a.elim w (fun a => w.actOn uuid a)).state = w.state ∧
        (a.elim w (fun a => w.actOn uuid a)).workspaceConnectionStatus =
          w.workspaceConnectionStatus := by
    intro a uuid
    cases a <;> exact ⟨rfl, rfl⟩
  have hroute : ∀ payload : PushPayload, (∀ paneId cwd, payload ≠ .cwdChanged paneId cwd) →
      (w.routePaneMessage endpoint payload).state = w.state ∧
        (w.routePaneMessage endpoint payload).workspaceConnectionStatus =
          w.workspaceConnectionStatus := by
    intro payload hne
    unfold routePaneMessage
    split
    · exact ⟨rfl, rfl⟩
    · split
      · unfold handlePaneMessage
        cases payload with
        | cwdChanged paneId cwd => exact absurd rfl (hne paneId cwd)
        | _ => exact hact _ _
      · exact ⟨rfl, rfl⟩
  cases payload with
  | error message => exact ⟨rfl, rfl⟩
  | leaseLost runtimeId => exact hstatus runtimeId _
  | workspaceTerminated runtimeId => exact hstatus runtimeId _
  | workspaceRenamed runtimeId name userRenamed =>
      simp only [dispatchManagedRuntimeMessage, stateAfter]
      cases w.workspaceOf endpoint runtimeId <;> exact ⟨rfl, rfl⟩
  | cwdChanged paneId cwd =>
      simp only [dispatchManagedRuntimeMessage, routePaneMessage, PushPayload.extractPaneId,
        stateAfter]
      cases (bytesToUuid paneId).bind (fun id =>
          w.state.runtimePaneTarget endpoint (uuidToString id)) with
      | none => exact ⟨rfl, rfl⟩
      | some target =>
          simp only [Option.elim_some]
          split <;> exact ⟨rfl, rfl⟩
  | _ => exact hroute _ (by intro paneId cwd h; cases h)

/-- Windows with one frame keep one frame. -/
theorem SameFrame.dispatch {w w' : LiveWindow}
    (h : SameFrame w w')
    (endpoint : RuntimeEndpoint)
    (payload : Option PushPayload) :
    SameFrame (w.dispatchManagedRuntimeMessage endpoint payload)
      (w'.dispatchManagedRuntimeMessage endpoint payload) := by
  have hworkspace : ∀ runtimeId,
      w.workspaceOf endpoint runtimeId = w'.workspaceOf endpoint runtimeId := by
    intro runtimeId
    rw [workspaceOf, workspaceOf, h.state]
  have hviews : ∀ uuid,
      ((w.dispatchManagedRuntimeMessage endpoint payload).persistentTerminals uuid).isSome =
        ((w'.dispatchManagedRuntimeMessage endpoint payload).persistentTerminals uuid).isSome := by
    intro uuid
    rw [dispatch_isSome, dispatch_isSome, h.views]
  cases payload with
  | none => exact h
  | some payload =>
      obtain ⟨hstate, hstatus⟩ := dispatch_frame w endpoint payload
      obtain ⟨hstate', hstatus'⟩ := dispatch_frame w' endpoint payload
      refine ⟨?_, ?_, hviews⟩
      · rw [hstate, hstate']
        cases payload <;> simp only [stateAfter, hworkspace, h.state, h.views]
      · rw [hstatus, hstatus']
        cases payload <;> simp only [statusAfter, hworkspace, h.status]

/-- Messages keep the routes. -/
theorem dispatch_routes (w : LiveWindow) (endpoint : RuntimeEndpoint)
    (payload : Option PushPayload) :
    (w.dispatchManagedRuntimeMessage endpoint payload).state.routes = w.state.routes := by
  cases payload with
  | none => rfl
  | some payload =>
      rw [(dispatch_frame w endpoint payload).1]
      cases payload with
      | workspaceRenamed runtimeId name userRenamed =>
          rw [stateAfter]
          cases w.workspaceOf endpoint runtimeId with
          | none => rfl
          | some workspaceId =>
              exact WindowState.routes_applyDaemonWorkspaceName w.state workspaceId name userRenamed
      | cwdChanged paneId cwd =>
          rw [stateAfter]
          cases (bytesToUuid paneId).bind (fun id =>
              w.state.runtimePaneTarget endpoint (uuidToString id)) with
          | none => rfl
          | some target =>
              simp only [Option.elim_some]
              split
              · exact WindowState.routes_setTerminalCwd _ _ _ _
              · rfl
      | _ => rfl

end LiveWindow

end Messages

section Runs

variable {β : Type u}

/-- What a run does to the view of a terminal. -/
def WindowState.runActions (s : WindowState) (uuid : String) (run : List (PolledEvent β)) :
    List PaneAction :=
  run.flatMap (s.eventActions uuid)

/-- The output of a run for a terminal. -/
def WindowState.runOutput (s : WindowState) (uuid : String) (run : List (PolledEvent β)) :
    List (DeltaKey × Bytes) :=
  (run.filterMap PolledEvent.delta?).filter (fun delta => decide (s.target delta.1 = some uuid))

namespace PolledEvent

theorem eq_of_delta? {event : PolledEvent β} {key : DeltaKey} {data : Bytes}
    (h : event.delta? = some (key, data)) :
    event = .workspaceMessage key.endpoint (some (.outputDelta key.paneId data)) := by
  cases event with
  | structural change => cases h
  | workspaceMessage endpoint payload =>
      cases payload with
      | none => cases h
      | some payload =>
          cases payload <;> cases h
          rfl

end PolledEvent

namespace WindowState

theorem eventActions_of_delta {s : WindowState} {event : PolledEvent β} {key : DeltaKey}
    {data : Bytes}
    (h : event.delta? = some (key, data))
    (uuid : String) :
    s.eventActions uuid event = if s.target key = some uuid then [.output data] else [] := by
  rw [PolledEvent.eq_of_delta? h]
  rfl

/-- The other events feed no output. -/
theorem output?_eventActions {s : WindowState} {event : PolledEvent β}
    (h : event.delta? = none)
    {uuid : String} {a : PaneAction}
    (ha : a ∈ s.eventActions uuid event) :
    a.output? = none := by
  cases event with
  | structural change => cases ha
  | workspaceMessage endpoint payload =>
      cases payload with
      | none => cases ha
      | some payload =>
          cases payload with
          | outputDelta paneId data => cases h
          | error message => cases ha
          | workspaceRenamed runtimeId name userRenamed => cases ha
          | leaseLost runtimeId =>
              simp only [eventActions, actions] at ha
              split at ha <;> simp at ha
              rw [ha]
              rfl
          | workspaceTerminated runtimeId =>
              simp only [eventActions, actions] at ha
              split at ha <;> simp at ha
              rw [ha]
              rfl
          | terminalModeChanged paneId modes =>
              simp only [eventActions, actions] at ha
              split at ha
              · cases modes <;> simp [PushPayload.action?] at ha
                rw [ha]
                rfl
              · cases ha
          | _ =>
              simp only [eventActions, actions, PushPayload.action?] at ha
              split at ha <;> simp at ha
              try (rw [ha]; rfl)

theorem outputs_runActions (s : WindowState) (uuid : String) (run : List (PolledEvent β)) :
    outputs (s.runActions uuid run) = (s.runOutput uuid run).map Prod.snd := by
  induction run with
  | nil => rfl
  | cons event rest ih =>
      rw [runActions, List.flatMap_cons, outputs, List.filterMap_append]
      rw [runActions, outputs] at ih
      rw [ih]
      cases hdelta : event.delta? with
      | none =>
          have hnone : (s.eventActions uuid event).filterMap PaneAction.output? = [] := by
            rw [List.filterMap_eq_nil_iff]
            intro a ha
            exact output?_eventActions hdelta ha
          rw [hnone, runOutput, runOutput, List.filterMap_cons_none hdelta]
          rfl
      | some delta =>
          obtain ⟨key, data⟩ := delta
          rw [eventActions_of_delta hdelta, runOutput, runOutput,
            List.filterMap_cons_some hdelta]
          by_cases htarget : s.target key = some uuid
          · simp [htarget, PaneAction.output?]
          · simp [htarget]

theorem others_runActions (s : WindowState) (uuid : String) (run : List (PolledEvent β)) :
    others (s.runActions uuid run) =
      s.runActions uuid (run.filter (fun event => event.delta?.isNone)) := by
  induction run with
  | nil => rfl
  | cons event rest ih =>
      rw [runActions, others] at ih
      rw [runActions, List.flatMap_cons, others, List.filter_append, ih]
      cases hdelta : event.delta? with
      | none =>
          have hall : (s.eventActions uuid event).filter (fun a => a.output?.isNone) =
              s.eventActions uuid event := by
            rw [List.filter_eq_self]
            intro a ha
            rw [output?_eventActions hdelta ha]
            rfl
          rw [hall, List.filter_cons_of_pos (by simp [hdelta])]
          rfl
      | some delta =>
          obtain ⟨key, data⟩ := delta
          rw [eventActions_of_delta hdelta, List.filter_cons_of_neg (by simp [hdelta])]
          by_cases htarget : s.target key = some uuid
          · simp [htarget, PaneAction.output?]
          · simp [htarget]

end WindowState

namespace LiveWindow

/-- Handle a pushed message; structural events are not this function's. -/
def handleMessage (w : LiveWindow) : PolledEvent β → LiveWindow
  | .workspaceMessage endpoint payload => w.dispatchManagedRuntimeMessage endpoint payload
  | .structural _ => w

theorem handleMessage_terminal (w : LiveWindow) (event : PolledEvent β) (uuid : String) :
    (w.handleMessage event).persistentTerminals uuid =
      (w.persistentTerminals uuid).map fun v =>
        (w.state.eventActions uuid event).foldl PaneTerminal.act v := by
  cases event with
  | workspaceMessage endpoint payload => exact dispatch_terminal w endpoint payload uuid
  | structural change => simp [handleMessage, WindowState.eventActions]

theorem handleMessage_routes (w : LiveWindow) (event : PolledEvent β) :
    (w.handleMessage event).state.routes = w.state.routes := by
  cases event with
  | workspaceMessage endpoint payload => exact dispatch_routes w endpoint payload
  | structural change => rfl

theorem SameFrame.handleMessage {w w' : LiveWindow}
    (h : SameFrame w w')
    (event : PolledEvent β) :
    SameFrame (w.handleMessage event) (w'.handleMessage event) := by
  cases event with
  | workspaceMessage endpoint payload => exact h.dispatch endpoint payload
  | structural change => exact h

/-- Output changes nothing but a view. -/
theorem sameFrame_of_delta (w : LiveWindow) {event : PolledEvent β} {delta : DeltaKey × Bytes}
    (h : event.delta? = some delta) :
    SameFrame (w.handleMessage event) w := by
  obtain ⟨key, data⟩ := delta
  rw [PolledEvent.eq_of_delta? h]
  obtain ⟨hstate, hstatus⟩ := dispatch_frame w key.endpoint (.outputDelta key.paneId data)
  exact ⟨hstate, hstatus, fun uuid => dispatch_isSome w key.endpoint _ uuid⟩

theorem eventActions_of_routes {s s' : WindowState}
    (h : s.routes = s'.routes)
    (uuid : String)
    (event : PolledEvent β) :
    s.eventActions uuid event = s'.eventActions uuid event := by
  cases event with
  | workspaceMessage endpoint payload => exact WindowState.actions_of_routes h endpoint uuid payload
  | structural change => rfl

/-- **What a run does to each view.** -/
theorem foldl_handleMessage_terminal (w : LiveWindow) (run : List (PolledEvent β))
    (uuid : String) :
    (run.foldl handleMessage w).persistentTerminals uuid =
      (w.persistentTerminals uuid).map fun v =>
        (w.state.runActions uuid run).foldl PaneTerminal.act v := by
  induction run generalizing w with
  | nil => simp [WindowState.runActions]
  | cons event rest ih =>
      have hroutes : (w.handleMessage event).state.runActions uuid rest =
          w.state.runActions uuid rest :=
        congrArg (fun f => rest.flatMap f)
          (funext (eventActions_of_routes (handleMessage_routes w event) uuid))
      rw [List.foldl_cons, ih, handleMessage_terminal, hroutes, Option.map_map]
      simp only [WindowState.runActions, List.flatMap_cons, List.foldl_append]
      rfl

/-- Besides the views, a run changes what its other messages change. -/
theorem foldl_handleMessage_frame {w w' : LiveWindow}
    (h : SameFrame w w')
    (run : List (PolledEvent β)) :
    SameFrame (run.foldl handleMessage w)
      ((run.filter (fun event => event.delta?.isNone)).foldl handleMessage w') := by
  induction run generalizing w w' with
  | nil => exact h
  | cons event rest ih =>
      cases hdelta : event.delta? with
      | none =>
          rw [List.filter_cons_of_pos (by simp [hdelta])]
          exact ih (h.handleMessage event)
      | some delta =>
          rw [List.filter_cons_of_neg (by simp [hdelta])]
          exact ih ((sameFrame_of_delta w hdelta).trans h)

theorem feedDelta_terminal (w : LiveWindow) (delta : DeltaKey × Bytes) (uuid : String) :
    (w.feedDelta delta).persistentTerminals uuid =
      (w.persistentTerminals uuid).map fun v =>
        if w.state.target delta.1 = some uuid then v.feedOutput delta.2 else v := by
  unfold feedDelta WindowState.target
  cases (bytesToUuid delta.1.paneId).bind (fun id =>
      w.state.runtimePaneTarget delta.1.endpoint (uuidToString id)) with
  | none => simp
  | some target => simp [actOn_terminal, PaneTerminal.act]

theorem sameFrame_feedDelta (w : LiveWindow) (delta : DeltaKey × Bytes) :
    SameFrame (w.feedDelta delta) w := by
  refine ⟨?_, ?_, fun uuid => by rw [feedDelta_terminal, Option.isSome_map]⟩
  · unfold feedDelta
    split <;> rfl
  · unfold feedDelta
    split <;> rfl

theorem sameFrame_feedCoalescedDeltas (w : LiveWindow) (buffers : List (DeltaKey × Bytes)) :
    SameFrame (w.feedCoalescedDeltas buffers) w := by
  induction buffers generalizing w with
  | nil => exact ⟨rfl, rfl, fun _ => rfl⟩
  | cons delta rest ih => exact (ih (w.feedDelta delta)).trans (sameFrame_feedDelta w delta)

/-- Each view is fed the buffers that are for it. -/
theorem feedCoalescedDeltas_terminal (w : LiveWindow) (buffers : List (DeltaKey × Bytes))
    (uuid : String) :
    (w.feedCoalescedDeltas buffers).persistentTerminals uuid =
      (w.persistentTerminals uuid).map fun v =>
        ((buffers.filter (fun delta => decide (w.state.target delta.1 = some uuid))).map
          Prod.snd).foldl PaneTerminal.feedOutput v := by
  induction buffers generalizing w with
  | nil => simp [feedCoalescedDeltas]
  | cons delta rest ih =>
      have hfold : w.feedCoalescedDeltas (delta :: rest) =
          (w.feedDelta delta).feedCoalescedDeltas rest := rfl
      rw [hfold, ih, feedDelta_terminal, Option.map_map, (sameFrame_feedDelta w delta).state]
      congr 1
      funext v
      by_cases htarget : w.state.target delta.1 = some uuid <;> simp [htarget]

/-- No output of the run follows a text, and the output for one terminal comes
in the order of the daemon's names for it. -/
def RunInPlace (w : LiveWindow) (run : List (PolledEvent β)) : Prop :=
  ∀ uuid v, w.persistentTerminals uuid = some v →
    InPlace v false (w.state.runActions uuid run) ∧
      (w.state.runOutput uuid run).Pairwise (fun delta later => delta.1 ≤ later.1)

theorem foldl_handleMessage_routes (w : LiveWindow) (run : List (PolledEvent β)) :
    (run.foldl handleMessage w).state.routes = w.state.routes := by
  induction run generalizing w with
  | nil => rfl
  | cons event rest ih => exact (ih (w.handleMessage event)).trans (handleMessage_routes w event)

/-- A part of a run in place is in place where it begins. -/
theorem RunInPlace.part {w : LiveWindow} {pre run post : List (PolledEvent β)}
    (h : w.RunInPlace (pre ++ run ++ post)) :
    (pre.foldl handleMessage w).RunInPlace run := by
  intro uuid v hview
  rw [foldl_handleMessage_terminal, Option.map_eq_some_iff] at hview
  obtain ⟨v, hview, rfl⟩ := hview
  obtain ⟨hplace, horder⟩ := h uuid v hview
  have hroutes := foldl_handleMessage_routes w pre
  have hactions : (pre.foldl handleMessage w).state.runActions uuid run =
      w.state.runActions uuid run :=
    congrArg (fun f => run.flatMap f) (funext (eventActions_of_routes hroutes uuid))
  have houtput : (pre.foldl handleMessage w).state.runOutput uuid run =
      w.state.runOutput uuid run := by
    simp only [WindowState.runOutput, WindowState.target_of_routes hroutes]
  rw [hactions, houtput]
  constructor
  · simp only [WindowState.runActions, List.flatMap_append] at hplace
    exact hplace.parts.1.parts.2
  · simp only [WindowState.runOutput, List.filterMap_append, List.filter_append] at horder
    exact (List.pairwise_append.mp (List.pairwise_append.mp horder).1).2.1

/-- The buffers of a terminal hold what arrived for it. -/
theorem foldl_buffers {s : WindowState} {uuid : String} {run : List (PolledEvent β)}
    (h : (s.runOutput uuid run).Pairwise (fun delta later => delta.1 ≤ later.1))
    (v : PaneTerminal) :
    ((((coalesceEventBatch run).deltaBuffers).filter
        (fun delta => decide (s.target delta.1 = some uuid))).map Prod.snd).foldl
        PaneTerminal.feedOutput v =
      ((s.runOutput uuid run).map Prod.snd).foldl PaneTerminal.feedOutput v := by
  have hcontents := contents_collect (p := fun key => decide (s.target key = some uuid)) h
  have hkeys : ∀ buffers : List (DeltaKey × Bytes),
      buffers.filter (fun delta => decide (s.target delta.1 = some uuid)) ≠ [] ↔
        ∃ key ∈ buffers.map Prod.fst, s.target key = some uuid := by
    intro buffers
    rw [ne_eq, List.filter_eq_nil_iff]
    simp
  have hboth : ((coalesceEventBatch run).deltaBuffers).filter
      (fun delta => decide (s.target delta.1 = some uuid)) ≠ [] ↔ s.runOutput uuid run ≠ [] := by
    rw [WindowState.runOutput, hkeys, hkeys]
    simp only [coalesceEventBatch, mem_keys_collect]
  by_cases hnone : s.runOutput uuid run = []
  · rw [not_iff_not.mp hboth |>.mpr hnone, hnone]
  · have hbuffers := hboth.mpr hnone
    rw [foldl_feedOutput (by simpa using hbuffers), foldl_feedOutput (by simpa using hnone)]
    exact congrArg v.feedOutput hcontents

/-- **A run in which no output follows a text may be coalesced.** -/
theorem coalesced_run_eq {w : LiveWindow} {run : List (PolledEvent β)}
    (h : w.RunInPlace run) :
    ((coalesceEventBatch run).otherEvents).foldl handleMessage
        (w.feedCoalescedDeltas (coalesceEventBatch run).deltaBuffers) =
      run.foldl handleMessage w := by
  have hfed := sameFrame_feedCoalescedDeltas w (coalesceEventBatch run).deltaBuffers
  have hframe := foldl_handleMessage_frame (SameFrame.symm hfed) run
  have hterminals : ∀ uuid,
      (((coalesceEventBatch run).otherEvents).foldl handleMessage
        (w.feedCoalescedDeltas (coalesceEventBatch run).deltaBuffers)).persistentTerminals uuid =
      (run.foldl handleMessage w).persistentTerminals uuid := by
    intro uuid
    rw [foldl_handleMessage_terminal, foldl_handleMessage_terminal,
      feedCoalescedDeltas_terminal, hfed.state]
    cases hview : w.persistentTerminals uuid with
    | none => rfl
    | some v =>
        obtain ⟨hplace, horder⟩ := h uuid v hview
        simp only [Option.map_some, Option.some.injEq]
        rw [foldl_buffers horder, foldl_act_of_inPlace hplace, WindowState.others_runActions,
          WindowState.outputs_runActions]
        rfl
  exact LiveWindow.ext hframe.state.symm (funext hterminals) hframe.status.symm

end LiveWindow

end Runs

section Batches

variable {β : Type u}
variable (handle : β → LiveWindow → LiveWindow)

namespace Progress

/-- A window that nothing was done to yet. -/
def start (w : LiveWindow) : Progress β :=
  ⟨w, [], []⟩

theorem handleAll_append (p : Progress β) (first second : List (PolledEvent β)) :
    p.handleAll handle (first ++ second) = (p.handleAll handle first).handleAll handle second :=
  List.foldl_append

/-- What handling the messages of a run singly comes to. -/
theorem handleAll_messages {run : List (PolledEvent β)}
    (h : ∀ event ∈ run, event.isOutputOrderingBarrier = false)
    (p : Progress β) :
    p.handleAll handle run =
      { window := run.foldl LiveWindow.handleMessage p.window
        handled := p.handled ++ run.filter (fun event => event.delta?.isNone)
        barriers := p.barriers } := by
  induction run generalizing p with
  | nil => simp [handleAll]
  | cons event rest ih =>
      have hrest := ih (fun e he => h e (List.mem_cons_of_mem _ he))
      cases event with
      | structural change => cases h _ List.mem_cons_self
      | workspaceMessage endpoint payload =>
          have hfold : p.handleAll handle (.workspaceMessage endpoint payload :: rest) =
              (p.handleEndpointEvent handle (.workspaceMessage endpoint payload)).handleAll handle
                rest := rfl
          rw [hfold, hrest]
          simp only [handleEndpointEvent, List.foldl_cons, LiveWindow.handleMessage,
            List.filter_cons]
          split <;> simp

/-- **A run in which no output follows a text is handled as its messages are
singly.** -/
theorem processEventRun_eq {p : Progress β} {run : List (PolledEvent β)}
    (hmessages : ∀ event ∈ run, event.isOutputOrderingBarrier = false)
    (h : p.window.RunInPlace run) :
    p.processEventRun handle run = p.handleAll handle run := by
  unfold processEventRun
  split
  · rename_i hempty
    rw [List.isEmpty_iff.mp hempty]
    rfl
  · have hothers : ∀ event ∈ (coalesceEventBatch run).otherEvents,
        event.isOutputOrderingBarrier = false := by
      intro event hevent
      exact hmessages event (List.mem_of_mem_filter hevent)
    have hidem : ((coalesceEventBatch run).otherEvents).filter
        (fun event => event.delta?.isNone) = (coalesceEventBatch run).otherEvents := by
      simp [coalesceEventBatch]
    simp only
    rw [handleAll_messages handle hothers, handleAll_messages handle hmessages,
      LiveWindow.coalesced_run_eq h, hidem]
    rfl

/-- The runs of messages within a batch are in place, each in the window it
begins in when events are handled singly. -/
def BatchInPlace (p : Progress β) (batch : List (PolledEvent β)) : Prop :=
  ∀ pre run post, batch = pre ++ run ++ post →
    (∀ event ∈ run, event.isOutputOrderingBarrier = false) →
      (p.handleAll handle pre).window.RunInPlace run

/-- The runs of messages within each batch are in place. -/
def RunsInPlace (p : Progress β) (batches : List (List (PolledEvent β))) : Prop :=
  ∀ front batch back, batches = front ++ batch :: back →
    (p.handleAll handle front.flatten).BatchInPlace handle batch

/-- One run in place makes a batch in place. -/
theorem runsInPlace_single {w : LiveWindow} {run : List (PolledEvent β)}
    (hmessages : ∀ event ∈ run, event.isOutputOrderingBarrier = false)
    (h : w.RunInPlace run) :
    (start w).RunsInPlace handle [run] := by
  intro front batch back hbatches pre part post hbatch _
  have hfront : front = [] ∧ batch = run := by
    cases front with
    | nil =>
        cases hbatches
        exact ⟨rfl, rfl⟩
    | cons first front => simp at hbatches
  obtain ⟨rfl, rfl⟩ := hfront
  subst hbatch
  have hpre : ∀ event ∈ pre, event.isOutputOrderingBarrier = false := by
    intro event hevent
    exact hmessages event (List.mem_append_left _ (List.mem_append_left _ hevent))
  rw [← handleAll_append, List.flatten_nil, List.nil_append, handleAll_messages handle hpre]
  exact h.part

/-- A message joins the run. -/
theorem pollEvent_message (st : Progress β × List (PolledEvent β)) {event : PolledEvent β}
    (h : event.isOutputOrderingBarrier = false) :
    pollEvent handle st event = (st.1, st.2 ++ [event]) := by
  simp [pollEvent, h]

/-- A structural event ends the run and is handled after it. -/
theorem pollEvent_structural (st : Progress β × List (PolledEvent β)) {event : PolledEvent β}
    (h : event.isOutputOrderingBarrier = true) :
    pollEvent handle st event =
      (handleEndpointEvent handle (processEventRun handle st.1 st.2) event, []) := by
  simp [pollEvent, h]

theorem handleAll_snoc (p : Progress β) (events : List (PolledEvent β)) (event : PolledEvent β) :
    p.handleAll handle (events ++ [event]) =
      (p.handleAll handle events).handleEndpointEvent handle event := by
  rw [handleAll_append]
  rfl

theorem BatchInPlace.rest {p : Progress β} {front back : List (PolledEvent β)}
    (h : p.BatchInPlace handle (front ++ back)) :
    (p.handleAll handle front).BatchInPlace handle back := by
  intro pre run post hsplit hrun
  have hplace := h (front ++ pre) run post (by rw [hsplit]; simp) hrun
  rw [handleAll_append] at hplace
  exact hplace

/-- From within a batch: the run so far and the events to come. -/
theorem poll_from {events run : List (PolledEvent β)} {p : Progress β}
    (hrun : ∀ event ∈ run, event.isOutputOrderingBarrier = false)
    (h : p.BatchInPlace handle (run ++ events)) :
    processEventRun handle (events.foldl (pollEvent handle) (p, run)).1
        (events.foldl (pollEvent handle) (p, run)).2 =
      p.handleAll handle (run ++ events) := by
  have hended : p.processEventRun handle run = p.handleAll handle run :=
    processEventRun_eq handle hrun (h [] run events (by simp) hrun)
  induction events generalizing run p with
  | nil => rw [List.append_nil, List.foldl_nil, hended]
  | cons event rest ih =>
      have hsnoc : run ++ event :: rest = (run ++ [event]) ++ rest := List.append_cons ..
      rw [hsnoc] at h ⊢
      rw [List.foldl_cons]
      cases hbarrier : event.isOutputOrderingBarrier with
      | false =>
          have hnext : ∀ e ∈ run ++ [event], e.isOutputOrderingBarrier = false := by
            intro e he
            rcases List.mem_append.mp he with he | he
            · exact hrun e he
            · rw [List.mem_singleton.mp he, hbarrier]
          rw [pollEvent_message handle _ hbarrier]
          exact ih hnext h (processEventRun_eq handle hnext (h [] _ rest (by simp) hnext))
      | true =>
          have hrest := h.rest handle
          rw [handleAll_snoc] at hrest
          rw [handleAll_append, handleAll_snoc, pollEvent_structural handle _ hbarrier, hended]
          exact ih (List.forall_mem_nil _) hrest rfl

/-- A batch of such runs acts as its events do singly. -/
theorem poll_eq {p : Progress β} {batch : List (PolledEvent β)}
    (h : p.BatchInPlace handle batch) :
    p.poll handle batch = p.handleAll handle batch :=
  poll_from handle (List.forall_mem_nil _) h

/-- Batches of such runs act as single events. -/
theorem pollAll_eq {p : Progress β} {batches : List (List (PolledEvent β))}
    (h : p.RunsInPlace handle batches) :
    p.pollAll handle batches = p.handleAll handle batches.flatten := by
  induction batches generalizing p with
  | nil => rfl
  | cons batch rest ih =>
      have hbatch : p.poll handle batch = p.handleAll handle batch :=
        poll_eq handle (h [] batch rest rfl)
      have hrest : (p.handleAll handle batch).RunsInPlace handle rest := by
        intro front later back hsplit
        rw [← handleAll_append]
        refine h (batch :: front) later back ?_
        rw [hsplit]
        rfl
      have hfold : p.pollAll handle (batch :: rest) =
          (p.poll handle batch).pollAll handle rest := rfl
      rw [hfold, hbatch, ih hrest, List.flatten_cons, handleAll_append]

end Progress

/-- The terminals are fed the same bytes, each structural event is handled
after the output before it, and the other events in their order. -/
structure CoalescingInvisible (w : LiveWindow) (batches : List (List (PolledEvent β))) :
    Prop where
  fed : ((Progress.start w).pollAll handle batches).window.fed =
    ((Progress.start w).handleAll handle batches.flatten).window.fed
  barriers : ((Progress.start w).pollAll handle batches).barriers =
    ((Progress.start w).handleAll handle batches.flatten).barriers
  handled : ((Progress.start w).pollAll handle batches).handled =
    ((Progress.start w).handleAll handle batches.flatten).handled

/-- **Batches in which no output follows a text act as single events.** -/
theorem coalescing_invisible {w : LiveWindow} {batches : List (List (PolledEvent β))}
    (h : (Progress.start w).RunsInPlace handle batches) :
    CoalescingInvisible handle w batches := by
  have hsame := Progress.pollAll_eq handle h
  exact ⟨by rw [hsame], by rw [hsame], by rw [hsame]⟩

/-- A workspace of the local daemon with one pane. -/
def liveWorkspace : WorkspaceState where
  uuid := "workspace"
  name := "work"
  layout := .terminal (uuidToString 9) none none none
  activeTerminalUuid := none
  runtime := ⟨true, .localHost, some (uuidToString 7)⟩
  zoomedTerminalUuid := none
  userRenamed := false

def liveView : PaneTerminal where
  customTitle := none
  daemonTitle := none
  currentDirectory := none
  applicationCursorKeys := false
  applicationKeypad := false
  connected := true
  acceptsInput := true
  exited := false
  disconnectMessageFed := false
  crashed := false
  selectionHold := ⟨none, 4 * 1024 * 1024⟩
  vteFed := []

def liveWindow : LiveWindow where
  state := WindowState.rebuildPaneReverseIndex ⟨[liveWorkspace], ∅⟩
  persistentTerminals := fun uuid => if uuid = uuidToString 9 then some liveView else none
  workspaceConnectionStatus := ∅

def keepWindow (_change : Unit) (w : LiveWindow) : LiveWindow :=
  w

/-- The last output of a process, and its end. -/
def exitRun : List (PolledEvent Unit) :=
  [.workspaceMessage .localHost (some (.outputDelta (uuidToBytes 9) [0x78])),
    .workspaceMessage .localHost (some (.paneExited (uuidToBytes 9) 0))]

theorem exitRun_inPlace : liveWindow.RunInPlace exitRun := by
  intro uuid v hview
  have huuid : uuid = uuidToString 9 ∧ v = liveView := by
    simp only [liveWindow, Option.ite_none_right_eq_some, Option.some.injEq] at hview
    exact ⟨hview.1, hview.2.symm⟩
  obtain ⟨rfl, rfl⟩ := huuid
  have hactions : liveWindow.state.runActions (uuidToString 9) exitRun =
      [.output [0x78], .exit 0] := by
    decide +kernel
  have houtput : liveWindow.state.runOutput (uuidToString 9) exitRun =
      [(⟨.localHost, uuidToBytes 9⟩, [0x78])] := by
    decide +kernel
  rw [hactions, houtput]
  exact ⟨⟨nofun, nofun, trivial⟩, List.pairwise_singleton _ _⟩

/-- The last output and the end of a process may come in one batch. -/
theorem coalescing_invisible_exit : CoalescingInvisible keepWindow liveWindow [exitRun] :=
  coalescing_invisible keepWindow
    (Progress.runsInPlace_single keepWindow (by decide) exitRun_inPlace)

/-- Another client takes the lease, and its program prints. -/
def takeoverRun : List (PolledEvent Unit) :=
  [.workspaceMessage .localHost (some (.leaseLost (uuidToBytes 7))),
    .workspaceMessage .localHost (some (.outputDelta (uuidToBytes 9) [0x78]))]

/-- **Output that follows a lost lease is fed before the message about it.** -/
theorem coalescing_visible : ¬ CoalescingInvisible keepWindow liveWindow [takeoverRun] := by
  intro h
  have hfed := congrFun h.fed (uuidToString 9)
  revert hfed
  decide +kernel

end Batches

end Client
end Rttx
