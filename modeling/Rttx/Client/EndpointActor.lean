import Rttx.Client.EndpointMessages

/-!
# The endpoint actor

The task that owns the connection to one daemon.  Its main loop takes a command
of the window, an envelope of the daemon, or a heartbeat tick.  A command that
sends a request waits for the response in a read loop of its own, which hands
on every other envelope that comes in.  Before the connection is split into a
reader and a writer, requests are made on it directly and other envelopes are
skipped.

The command and event channels are bounded and nobody waits to send.  The
poller of the window sets a flag when few slots are left; the main loop does
not read while the flag it loaded is set.

The iteration order of the tracked workspaces is that of the map's entries, and
a step of its own may change it.

**Results.**
* `RequestId.value_ne_zero`: no request has the id of a push.
-/

namespace Rttx
namespace Client

open Kernel Server

section State

/-- The connection: none, before the split, or split into reader and writer. -/
inductive Link
  | none
  | unsplit
  | split
deriving DecidableEq, Repr

/-- A request id; zero is for pushes. -/
abbrev RequestId := { id : UInt64 // id ≠ 0 }

namespace RequestId

def value (id : RequestId) : Nat :=
  id.val.toNat

/-- The next id; the counter skips zero when it wraps. -/
def next (id : RequestId) : RequestId :=
  if h : id.val + 1 = 0 then ⟨1, by decide⟩ else ⟨id.val + 1, h⟩

/-- The next id of a connection's own generator, and the generator after it. -/
def generate (generator : UInt64) : RequestId × UInt64 :=
  if h : generator = 0 then (⟨1, by decide⟩, 2) else (⟨generator, h⟩, generator + 1)

theorem value_ne_zero (id : RequestId) : id.value ≠ 0 := by
  intro hzero
  exact id.property (UInt64.toNat_inj.mp hzero)

end RequestId

/-- An envelope for the daemon. -/
structure ClientEnvelope where
  requestId : Nat
  command : ClientCommand
deriving DecidableEq

/-- What the response to a request is for. -/
inductive Awaiting
  | openTakeover (request : OpenRequest) (runtimeId : String) (runtimeUuid : Uuid)
  | openReattach (request : OpenRequest) (runtimeId : String)
  | openCreate (request : OpenRequest)
  | openAttach (request : OpenRequest) (runtimeId : String)
  | createPane (workspaceId layoutTerminalUuid runtimeId : String)
  | splitPane (workspaceId layoutTerminalUuid runtimeId : String)
  | closePane (workspaceId layoutTerminalUuid runtimeId runtimePaneId : String)
  | detachWorkspace (workspaceId runtimeId : String)
  | terminateWorkspace (workspaceId runtimeId : String)
  | listWorkspaces (pseudoWorkspace : String)
  | resyncWorkspace (workspaceId runtimeId : String)
  | reattach (workspaceId runtimeId : String) (rest : List (String × String))
      (anyTransientFailure : Bool) (savedAttempt : Nat)
deriving DecidableEq

/-- What follows a write. -/
inductive AfterSend
  | ignore
  | report (workspaceId : String) (operation : ManagerOperation)
  | heartbeat
  | await (requestId : RequestId) (expectTerminated : Bool) (awaiting : Awaiting)
deriving DecidableEq

/-- Where the actor is: in its main loop, with the pause flag it loaded; in a
write; in the read loop of a request; or gone. -/
inductive Phase
  | idle (paused : Bool)
  | sending (via : Link) (env : ClientEnvelope) (after : AfterSend)
  | receiving (requestId : RequestId) (expectTerminated : Bool) (awaiting : Awaiting)
  | stopped
deriving DecidableEq

structure HeartbeatMonitor where
  pendingNonce : Option Nat
  nextNonce : Nat
  missedTicks : Nat
deriving DecidableEq, Repr

inductive HeartbeatAction
  | sendPing (nonce : Nat)
  | declareLost
deriving DecidableEq, Repr

def heartbeatMissLimit : Nat := 8

namespace HeartbeatMonitor

def onTick (h : HeartbeatMonitor) : HeartbeatAction × HeartbeatMonitor :=
  match h.pendingNonce with
  | some nonce =>
      let h := { h with missedTicks := min (h.missedTicks + 1) 255 }
      if heartbeatMissLimit ≤ h.missedTicks then (.declareLost, h) else (.sendPing nonce, h)
  | none =>
      (.sendPing h.nextNonce,
        ⟨some h.nextNonce, min (h.nextNonce + 1) (2 ^ 64 - 1), 0⟩)

def reset (h : HeartbeatMonitor) : HeartbeatMonitor :=
  { h with pendingNonce := none, missedTicks := 0 }

end HeartbeatMonitor

/-- What happened at the actor; it reads none of it.  `due` says that the
envelope is an overflow notice of a tracked workspace on a standing connection. -/
inductive ActorRecord
  | received (env : ServerEnvelope) (due : Bool)
  | sent (env : ClientEnvelope)
  | emitted (event : ActorEvent)
  | dropped (event : ActorEvent)
  | closed
deriving DecidableEq

def eventChannelBound : Nat := 4096

/-- At this many free slots or fewer the poller pauses the actors. -/
def backpressureHighWatermark : Nat := eventChannelBound / 4

/-- At this many free slots or more the poller resumes them. -/
def backpressureLowWatermark : Nat := eventChannelBound * 3 / 4

def cmdChannelBound : Nat := 4096

/-- The actor with its channels.  `peerClosed` says that the daemon closed the
connection, `timers` are the delays of the scheduled reconnects. -/
structure EndpointActor where
  endpoint : RuntimeEndpoint
  link : Link
  peerClosed : Bool
  idGen : UInt64
  trackedWorkspaces : HashMap String String
  reconnectAttempt : Nat
  reconnectDelaySecs : Nat
  heartbeat : HeartbeatMonitor
  nextRequestId : RequestId
  commands : Mailbox EndpointCommand
  events : Mailbox ActorEvent
  backpressure : Bool
  timers : List Nat
  phase : Phase
  log : List ActorRecord

end State

namespace EndpointActor

def new (endpoint : RuntimeEndpoint) (reconnectDelaySecs : Nat) : EndpointActor where
  endpoint := endpoint
  link := .none
  peerClosed := false
  idGen := 1
  trackedWorkspaces := ∅
  reconnectAttempt := 0
  reconnectDelaySecs := reconnectDelaySecs
  heartbeat := ⟨none, 0, 0⟩
  nextRequestId := ⟨1, by decide⟩
  commands := .empty cmdChannelBound
  events := .empty eventChannelBound
  backpressure := false
  timers := []
  phase := .idle false
  log := []

section Reporting

def record (a : EndpointActor) (entry : ActorRecord) : EndpointActor :=
  { a with log := a.log ++ [entry] }

/-- Send an event to the window without waiting. -/
def emit (a : EndpointActor) (event : ActorEvent) : EndpointActor :=
  match a.events.trySend event with
  | (.sent, events) => { a with events := events }.record (.emitted event)
  | _ => a.record (.dropped event)

def emitStatus (a : EndpointActor) (workspaceId : String) (status : ConnectionStatus) :
    EndpointActor :=
  a.emit (.workspaceConnectionChanged workspaceId status)

def emitError (a : EndpointActor) (workspaceId : String) (operation : ManagerOperation)
    (problem : ConnectionProblem) (detail : String) : EndpointActor :=
  (a.emit (.workspaceError workspaceId operation problem detail)).emitStatus workspaceId
    (.blocked problem)

def forwardPush (a : EndpointActor) (message : ServerEnvelope) : EndpointActor :=
  a.emit (.workspaceMessage a.endpoint message)

/-- Send a command to itself without waiting. -/
def trySelf (a : EndpointActor) (command : EndpointCommand) : EndpointActor :=
  { a with commands := (a.commands.trySend command).2 }

/-- Back to the main loop, which loads the pause flag. -/
def toIdle (a : EndpointActor) : EndpointActor :=
  { a with phase := .idle a.backpressure }

end Reporting

section Connection

def nextReconnectAttempt (a : EndpointActor) : Nat :=
  min (a.reconnectAttempt + 1) (2 ^ 32 - 1)

def nextReconnectDelaySecs (a : EndpointActor) : Nat :=
  min a.nextReconnectAttempt a.reconnectDelaySecs

/-- Schedule a reconnect, or give up after too many in a row. -/
def scheduleReconnect (a : EndpointActor) (delaySecs : Nat) : EndpointActor :=
  let a := { a with reconnectAttempt := a.nextReconnectAttempt }
  let circuitBreakerLimit := min (a.reconnectDelaySecs + 2) (2 ^ 32 - 1)
  if circuitBreakerLimit < a.reconnectAttempt then
    a.trackedWorkspaces.keys.foldl (fun a id => a.emitStatus id (.blocked .daemonDied)) a
  else
    { a with timers := delaySecs :: a.timers }

/-- Problems that are not transient wait for the longest delay. -/
def scheduleReconnectForProblem (a : EndpointActor) (problem : ConnectionProblem) :
    EndpointActor :=
  a.scheduleReconnect
    (if problem.isTransient then a.nextReconnectDelaySecs else a.reconnectDelaySecs)

/-- Drop the connection. -/
def closeLink (a : EndpointActor) : EndpointActor :=
  { a with link := .none, peerClosed := false }.record .closed

def handleDisconnect (a : EndpointActor) : EndpointActor :=
  let a := a.closeLink
  let a := { a with heartbeat := a.heartbeat.reset }
  if a.trackedWorkspaces.keys = [] then
    a
  else
    let attempt := a.nextReconnectAttempt
    let delaySecs := a.nextReconnectDelaySecs
    let a := a.trackedWorkspaces.keys.foldl
      (fun a id =>
        (a.emitStatus id .disconnected).emitStatus id (.reconnecting attempt delaySecs)) a
    a.scheduleReconnect delaySecs

def handleCommandError (a : EndpointActor) (workspaceId : String)
    (operation : ManagerOperation) (error : DaemonError) : EndpointActor :=
  let problem := classifyConnectionProblem error
  if problem = .sessionMissing then
    a.emitStatus workspaceId .sessionMissing
  else
    let a := a.emitError workspaceId operation problem error.text
    if problem.isTransient then a.handleDisconnect else a

/-- Split the connection into its reader and its writer. -/
def splitConnection (a : EndpointActor) : EndpointActor :=
  if a.link = .unsplit then
    { a with link := .split, heartbeat := a.heartbeat.reset }
  else
    a

def startingStatus (a : EndpointActor) : ConnectionStatus :=
  match a.endpoint with
  | .localHost => .starting
  | .remote _ _ => .connecting

/-- A failed attempt to connect is reported, and retried if it is transient. -/
def connectFailed (a : EndpointActor) (workspaceId : String) (error : DaemonError) :
    EndpointActor :=
  let problem := classifyConnectionProblem error
  if problem.isTransient then
    let attempt := a.nextReconnectAttempt
    let delaySecs := a.nextReconnectDelaySecs
    let status := advanceConnectionStatus .connecting (.retryScheduled attempt delaySecs)
    ((a.emitStatus workspaceId .disconnected).emitStatus workspaceId status).scheduleReconnect
      delaySecs
  else
    a.emitStatus workspaceId (advanceConnectionStatus .connecting (.failed problem))

/-- Connect if there is no connection and no reconnect under way; `outcome` is
what connecting comes to.  Returns the problem, if there is one. -/
def ensureConnected (a : EndpointActor) (workspaceId : String)
    (outcome : Except DaemonError Unit) : Option ConnectionProblem × EndpointActor :=
  if a.link ≠ .none then
    (none, a)
  else if 0 < a.reconnectAttempt then
    (some .daemonUnavailable, a)
  else
    let a := a.emitStatus workspaceId a.startingStatus
    match outcome with
    | .ok () =>
        let a := { a with link := .unsplit, peerClosed := false, idGen := 1 }
        (none, a.emitStatus workspaceId .connected)
    | .error error =>
        (some (classifyConnectionProblem error), a.connectFailed workspaceId error)

end Connection

section Requests

/-- Send a request through the writer and wait for its response. -/
def sendAndRead (a : EndpointActor) (command : ClientCommand) (expectTerminated : Bool)
    (awaiting : Awaiting) : EndpointActor :=
  { a with
    nextRequestId := a.nextRequestId.next
    phase := .sending .split ⟨a.nextRequestId.value, command⟩
      (.await a.nextRequestId expectTerminated awaiting) }

/-- Make a request on the connection that is not split yet. -/
def connectionRequest (a : EndpointActor) (command : ClientCommand) (awaiting : Awaiting) :
    EndpointActor :=
  let (id, idGen) := RequestId.generate a.idGen
  { a with
    idGen := idGen
    phase := .sending .unsplit ⟨id.value, command⟩ (.await id false awaiting) }

/-- Make a request on whichever connection there is. -/
def viaActiveChannel (a : EndpointActor) (command : ClientCommand) (awaiting : Awaiting) :
    EndpointActor :=
  if a.link = .unsplit then
    a.connectionRequest command awaiting
  else
    a.sendAndRead command false awaiting

/-- Write an envelope that no response is awaited for. -/
def sendMessage (a : EndpointActor) (requestId : Nat) (command : ClientCommand)
    (after : AfterSend) : EndpointActor :=
  { a with phase := .sending .split ⟨requestId, command⟩ after }

variable [UuidText]

/-- Go on with the id a text denotes, or report that it denotes none. -/
def withUuid (a : EndpointActor) (workspaceId : String) (operation : ManagerOperation)
    (value : String) (next : Uuid → EndpointActor) : EndpointActor :=
  match UuidText.parseStr value with
  | .ok id => next id
  | .error text =>
      (a.emit (.workspaceError workspaceId operation (.protocol "Invalid runtime UUID")
        text)).toIdle

/-- Go on with a connection, or report the problem unless it is transient. -/
def withConnection (a : EndpointActor) (workspaceId : String) (operation : ManagerOperation)
    (outcome : Except DaemonError Unit) (next : EndpointActor → EndpointActor) : EndpointActor :=
  match a.ensureConnected workspaceId outcome with
  | (none, a) => next a
  | (some problem, a) =>
      if problem.isTransient then
        a.toIdle
      else
        (a.emitError workspaceId operation problem problem.label).toIdle

end Requests

section Handling

variable [UuidText]

def createRuntime (a : EndpointActor) (request : OpenRequest) : EndpointActor :=
  a.viaActiveChannel (.createWorkspace request.name request.policy) (.openCreate request)

/-- Take over and attach to the known runtime, or create a new one. -/
def resolveAndAttachRuntime (a : EndpointActor) (request : OpenRequest) : EndpointActor :=
  match request.runtimeId with
  | none => a.createRuntime request
  | some runtimeId =>
      match UuidText.parseStr runtimeId with
      | .error _ => a.createRuntime request
      | .ok runtimeUuid =>
          if request.takeOver then
            a.viaActiveChannel (.takeoverWorkspace runtimeUuid)
              (.openTakeover request runtimeId runtimeUuid)
          else
            a.viaActiveChannel (.attachWorkspace runtimeUuid .readWrite)
              (.openReattach request runtimeId)

/-- Reattach to the next tracked workspace, or end the reconnect. -/
def reattachNext (a : EndpointActor) (anyTransientFailure : Bool) (savedAttempt : Nat) :
    List (String × String) → EndpointActor
  | [] =>
      if anyTransientFailure then
        ({ a with reconnectAttempt := savedAttempt }).handleDisconnect.toIdle
      else
        { a with reconnectAttempt := 0 }.toIdle
  | (workspaceId, runtimeId) :: rest =>
      match UuidText.parseStr runtimeId with
      | .error _ => a.reattachNext anyTransientFailure savedAttempt rest
      | .ok runtimeUuid =>
          a.viaActiveChannel (.attachWorkspace runtimeUuid .readWrite)
            (.reattach workspaceId runtimeId rest anyTransientFailure savedAttempt)

def reconnect (a : EndpointActor) (outcome : Except DaemonError Unit) : EndpointActor :=
  if a.link ≠ .none then
    a.toIdle
  else
    match a.trackedWorkspaces.entries with
    | [] => a.toIdle
    | primary :: rest =>
        let savedAttempt := a.reconnectAttempt
        match ({ a with reconnectAttempt := 0 }).ensureConnected primary.1 outcome with
        | (some problem, a) =>
            let a := { a with reconnectAttempt := max a.reconnectAttempt savedAttempt }
            if problem.isTransient then a.toIdle
            else (a.scheduleReconnectForProblem problem).toIdle
        | (none, a) =>
            let a := ({ a with reconnectAttempt := savedAttempt }).splitConnection
            a.reattachNext false savedAttempt ((primary :: rest).map (fun e => (e.1, e.2)))

/-- Write without a response if there is a writer. -/
def post (a : EndpointActor) (command : ClientCommand) (workspaceId : String)
    (operation : ManagerOperation) : EndpointActor :=
  if a.link = .split then a.sendMessage 0 command (.report workspaceId operation) else a.toIdle

def handleCommand (a : EndpointActor) (outcome : Except DaemonError Unit) :
    EndpointCommand → EndpointActor
  | .openWorkspace request =>
      (a.emitStatus request.workspaceId .connecting).withConnection request.workspaceId
        .openWorkspace outcome fun a => a.resolveAndAttachRuntime request
  | .createPane workspaceId runtimeId layoutTerminalUuid spec =>
      a.withConnection workspaceId .createPane outcome fun a =>
        a.withUuid workspaceId .createPane runtimeId fun runtimeUuid =>
          a.sendAndRead (.createPane runtimeUuid spec) false
            (.createPane workspaceId layoutTerminalUuid runtimeId)
  | .splitPane workspaceId runtimeId targetPaneId layoutTerminalUuid axis ratio spec =>
      a.withConnection workspaceId .createPane outcome fun a =>
        a.withUuid workspaceId .createPane runtimeId fun runtimeUuid =>
          a.withUuid workspaceId .createPane targetPaneId fun targetUuid =>
            a.sendAndRead (.splitPane runtimeUuid targetUuid axis ratio spec) false
              (.splitPane workspaceId layoutTerminalUuid runtimeId)
  | .closePane workspaceId runtimeId layoutTerminalUuid runtimePaneId =>
      a.withConnection workspaceId .closePane outcome fun a =>
        a.withUuid workspaceId .closePane runtimeId fun runtimeUuid =>
          a.withUuid workspaceId .closePane runtimePaneId fun paneUuid =>
            a.sendAndRead (.closePane runtimeUuid paneUuid) false
              (.closePane workspaceId layoutTerminalUuid runtimeId runtimePaneId)
  | .detachWorkspace workspaceId runtimeId =>
      a.withUuid workspaceId .detachWorkspace runtimeId fun runtimeUuid =>
        a.withConnection workspaceId .detachWorkspace outcome fun a =>
          a.sendAndRead (.detachWorkspace runtimeUuid) true
            (.detachWorkspace workspaceId runtimeId)
  | .terminateWorkspace workspaceId runtimeId =>
      a.withUuid workspaceId .terminateWorkspace runtimeId fun runtimeUuid =>
        a.withConnection workspaceId .terminateWorkspace outcome fun a =>
          a.sendAndRead (.terminateWorkspace runtimeUuid) true
            (.terminateWorkspace workspaceId runtimeId)
  | .sendInput workspaceId runtimeId runtimePaneId data =>
      a.withUuid workspaceId .sendInput runtimeId fun runtimeUuid =>
        a.withUuid workspaceId .sendInput runtimePaneId fun paneUuid =>
          a.post (.terminalInput runtimeUuid paneUuid data) workspaceId .sendInput
  | .resizePane workspaceId runtimeId runtimePaneId cols rows =>
      a.withUuid workspaceId .resizePane runtimeId fun runtimeUuid =>
        a.withUuid workspaceId .resizePane runtimePaneId fun paneUuid =>
          a.post (.resizePane runtimeUuid paneUuid cols rows) workspaceId .resizePane
  | .refreshInventory =>
      let pseudoWorkspace := "inventory:" ++ a.endpoint.key
      a.withConnection pseudoWorkspace .refreshInventory outcome fun a =>
        a.viaActiveChannel .listWorkspaces (.listWorkspaces pseudoWorkspace)
  | .reconnect => a.reconnect outcome
  | .forgetWorkspace workspaceId =>
      { a with trackedWorkspaces := a.trackedWorkspaces.erase workspaceId }.toIdle
  | .renameWorkspace workspaceId runtimeId name automatic =>
      a.withUuid workspaceId .renameWorkspace runtimeId fun runtimeUuid =>
        match a.ensureConnected workspaceId outcome with
        | (some _, a) => a.toIdle
        | (none, a) => a.sendMessage 0 (.renameWorkspace runtimeUuid name automatic) .ignore
  | .setPaneNoPersist workspaceId runtimeId runtimePaneId noPersist =>
      a.withUuid workspaceId .setPaneNoPersist runtimeId fun runtimeUuid =>
        a.withUuid workspaceId .setPaneNoPersist runtimePaneId fun paneUuid =>
          match a.ensureConnected workspaceId outcome with
          | (some _, a) => a.toIdle
          | (none, a) => a.sendMessage 0 (.setPaneNoPersist runtimeUuid paneUuid noPersist) .ignore
  | .resyncWorkspace workspaceId runtimeId =>
      match UuidText.parseStr runtimeId with
      | .error _ => a.toIdle
      | .ok runtimeUuid =>
          a.sendAndRead (.resyncWorkspace runtimeUuid) false
            (.resyncWorkspace workspaceId runtimeId)
  | .shutdown => { a.closeLink with commands := a.commands.close, phase := .stopped }

end Handling

section Responses

/-- What is wrong with a response that is not the expected one. -/
def failure : Except DaemonError ServerPayload → DaemonError
  | .ok (.error kind message _) => .protocolError kind message
  | .ok _ => .unexpectedMessage
  | .error error => error

def attachFailure : Except DaemonError ServerPayload → DaemonError
  | .ok (.attachBlocked runtimeId currentRole) => .attachBlocked runtimeId currentRole
  | result => failure result

/-- A workspace was opened. -/
def opened (a : EndpointActor) (request : OpenRequest) (runtimeId : String)
    (snapshot : WorkspaceSnapshot) : EndpointActor :=
  let a := a.splitConnection
  let a := { a with
    trackedWorkspaces := a.trackedWorkspaces.insert request.workspaceId runtimeId }
  let a := a.emit (.workspaceOpened request.workspaceId runtimeId snapshot)
  if snapshot.panes = [] then
    match request.placeholderTerminalUuid with
    | some layoutTerminalUuid =>
        (a.trySelf (.createPane request.workspaceId runtimeId layoutTerminalUuid
          ⟨request.cwd, true, 0, 0, false⟩)).toIdle
    | none => (a.emitStatus request.workspaceId .connected).toIdle
  else
    (a.emitStatus request.workspaceId .connected).toIdle

def forget (a : EndpointActor) (workspaceId : String) : EndpointActor :=
  { a with trackedWorkspaces := a.trackedWorkspaces.erase workspaceId }

variable [UuidText]

/-- Go on after a known runtime could not be attached. -/
def reattachFailed (a : EndpointActor) (request : OpenRequest) (error : DaemonError) :
    EndpointActor :=
  match error with
  | .attachBlocked _ _ | .io _ | .disconnected =>
      (a.handleCommandError request.workspaceId .openWorkspace error).toIdle
  | _ =>
      if classifyConnectionProblem error = .sessionMissing then
        (a.emitStatus request.workspaceId .sessionMissing).toIdle
      else
        a.createRuntime request

/-- Go on with the response to a request, or the error there was instead. -/
def finish (a : EndpointActor) (result : Except DaemonError ServerPayload) :
    Awaiting → EndpointActor
  | .openTakeover request runtimeId runtimeUuid =>
      match result with
      | .ok (.takeoverCompleted _ _) =>
          (a.emit (.workspaceTakenOver request.workspaceId runtimeId)).viaActiveChannel
            (.attachWorkspace runtimeUuid .readWrite) (.openReattach request runtimeId)
      | _ => (a.handleCommandError request.workspaceId .openWorkspace (failure result)).toIdle
  | .openReattach request runtimeId =>
      match result with
      | .ok (.workspaceSnapshot _ snapshot) => a.opened request runtimeId snapshot
      | _ => a.reattachFailed request (attachFailure result)
  | .openCreate request =>
      match result with
      | .ok (.workspaceCreated runtimeId _) =>
          a.withUuid request.workspaceId .openWorkspace (uuidToString runtimeId) fun runtimeUuid =>
            a.viaActiveChannel (.attachWorkspace runtimeUuid .readWrite)
              (.openAttach request (uuidToString runtimeId))
      | _ => (a.handleCommandError request.workspaceId .openWorkspace (failure result)).toIdle
  | .openAttach request runtimeId =>
      match result with
      | .ok (.workspaceSnapshot _ snapshot) => a.opened request runtimeId snapshot
      | _ =>
          (a.handleCommandError request.workspaceId .openWorkspace (attachFailure result)).toIdle
  | .createPane workspaceId layoutTerminalUuid runtimeId =>
      match result with
      | .ok (.paneCreated _ paneId _) =>
          ((a.emit (.paneCreated workspaceId layoutTerminalUuid runtimeId
            (uuidToString paneId))).emitStatus workspaceId .connected).toIdle
      | _ => (a.handleCommandError workspaceId .createPane (failure result)).toIdle
  | .splitPane workspaceId layoutTerminalUuid runtimeId =>
      match result with
      | .ok (.paneSplit _ _ newPaneId _ _ _) =>
          ((a.emit (.paneCreated workspaceId layoutTerminalUuid runtimeId
            (uuidToString newPaneId))).emitStatus workspaceId .connected).toIdle
      | _ => (a.handleCommandError workspaceId .createPane (failure result)).toIdle
  | .closePane workspaceId layoutTerminalUuid runtimeId runtimePaneId =>
      match result with
      | .ok (.paneClosed _ _ _) | .ok (.error .paneNotFound _ _) =>
          (a.emit (.paneClosed workspaceId layoutTerminalUuid runtimeId runtimePaneId)).toIdle
      | _ => (a.handleCommandError workspaceId .closePane (failure result)).toIdle
  | .detachWorkspace workspaceId runtimeId =>
      match result with
      | .ok (.workspaceDetached _ _) =>
          ((a.forget workspaceId).emit (.workspaceDetached workspaceId runtimeId)).toIdle
      | .ok (.workspaceTerminated _ _ reason) =>
          ((a.forget workspaceId).emit (.workspaceTerminated workspaceId runtimeId reason)).toIdle
      | _ => (a.handleCommandError workspaceId .detachWorkspace (failure result)).toIdle
  | .terminateWorkspace workspaceId runtimeId =>
      match result with
      | .ok (.workspaceTerminated _ _ reason) =>
          ((a.forget workspaceId).emit (.workspaceTerminated workspaceId runtimeId reason)).toIdle
      | _ => (a.handleCommandError workspaceId .terminateWorkspace (failure result)).toIdle
  | .listWorkspaces pseudoWorkspace =>
      match result with
      | .ok (.workspaceList workspaces) =>
          (a.emit (.inventoryLoaded a.endpoint workspaces)).toIdle
      | _ => (a.handleCommandError pseudoWorkspace .refreshInventory (failure result)).toIdle
  | .resyncWorkspace workspaceId runtimeId =>
      match result with
      | .ok (.workspaceSnapshot _ snapshot) =>
          (a.emit (.workspaceResynced workspaceId runtimeId snapshot)).toIdle
      | _ => a.toIdle
  | .reattach workspaceId runtimeId rest anyTransientFailure savedAttempt =>
      match result with
      | .ok (.workspaceSnapshot _ snapshot) =>
          ((a.emit (.workspaceOpened workspaceId runtimeId snapshot)).emitStatus workspaceId
            .recovered).reattachNext anyTransientFailure savedAttempt rest
      | _ =>
          let problem := classifyConnectionProblem (attachFailure result)
          if problem = .sessionMissing then
            (a.emitStatus workspaceId .sessionMissing).reattachNext anyTransientFailure
              savedAttempt rest
          else if problem.isTransient then
            a.reattachNext true savedAttempt rest
          else
            (a.emitError workspaceId .openWorkspace problem
              (attachFailure result).text).reattachNext anyTransientFailure savedAttempt rest

/-- What follows a write that failed. -/
def writeFailed (a : EndpointActor) (error : DaemonError) : AfterSend → EndpointActor
  | .ignore => a.toIdle
  | .report workspaceId operation => (a.handleCommandError workspaceId operation error).toIdle
  | .heartbeat => a.handleDisconnect.toIdle
  | .await _ _ awaiting => a.finish (.error error) awaiting

/-- What follows a write that went through. -/
def wrote (a : EndpointActor) : AfterSend → EndpointActor
  | .await requestId expectTerminated awaiting =>
      { a with phase := .receiving requestId expectTerminated awaiting }
  | _ => a.toIdle

end Responses

section Reading

/-- Whether some workspace is tracked under this runtime. -/
def tracks (a : EndpointActor) (runtimeId : Uuid) : Bool :=
  (a.trackedWorkspaces.findKey (fun tracked => tracked = uuidToString runtimeId)).isSome

/-- Whether the envelope makes a resync due: an overflow notice of a tracked
workspace on a standing connection. -/
def due (a : EndpointActor) (env : ServerEnvelope) : Bool :=
  match env.payload with
  | .streamOverflow runtimeId _ _ => a.tracks runtimeId && a.link ≠ .none && !a.peerClosed
  | _ => false

/-- Stop tracking the workspaces of a runtime that was terminated. -/
def untrackTerminated (a : EndpointActor) (payload : ServerPayload) : EndpointActor :=
  match payload with
  | .workspaceTerminated runtimeId _ _ =>
      { a with trackedWorkspaces := ⟨a.trackedWorkspaces.entries.filter
          (fun e => e.2 ≠ uuidToString runtimeId),
        a.trackedWorkspaces.nodupKeys.sublist List.filter_sublist⟩ }
  | _ => a

/-- A pong answers the ping it names; returns whether the envelope is one. -/
def observeInboundPong (a : EndpointActor) (payload : ServerPayload) : Bool × EndpointActor :=
  match payload with
  | .pong nonce =>
      if a.heartbeat.pendingNonce = some nonce then
        (true, { a with heartbeat := a.heartbeat.reset })
      else
        (true, a)
  | _ => (false, a)

/-- Ask for a resync of the tracked workspace an overflow notice names. -/
def handleStreamOverflow (a : EndpointActor) (runtimeId : Uuid) : EndpointActor :=
  match a.trackedWorkspaces.findKey (fun tracked => tracked = uuidToString runtimeId) with
  | none => a
  | some workspaceId => a.trySelf (.resyncWorkspace workspaceId (uuidToString runtimeId))

/-- An envelope in the main loop. -/
def handleRuntimeMessage (a : EndpointActor) (env : ServerEnvelope) : EndpointActor :=
  match a.observeInboundPong env.payload with
  | (true, a) => a
  | (false, a) =>
      let a := { a with heartbeat := a.heartbeat.reset }.untrackTerminated env.payload
      match env.payload with
      | .streamOverflow runtimeId _ _ => a.handleStreamOverflow runtimeId
      | _ => a.forwardPush env

/-- An envelope in the read loop of a request that is not its response. -/
def readOther (a : EndpointActor) (env : ServerEnvelope) (expectTerminated : Bool) :
    EndpointActor :=
  match env.payload with
  | .pong _ => (a.observeInboundPong env.payload).2
  | .workspaceTerminated _ _ _ =>
      if expectTerminated then a else (a.untrackTerminated env.payload).forwardPush env
  | _ => (a.untrackTerminated env.payload).forwardPush env

variable [UuidText]

/-- An envelope comes in. -/
def receive (a : EndpointActor) (env : ServerEnvelope) : Option EndpointActor :=
  match a.phase with
  | .idle false =>
      if a.link = .split then
        some ((a.record (.received env (a.due env))).handleRuntimeMessage env).toIdle
      else
        none
  | .receiving requestId expectTerminated awaiting =>
      let a := a.record (.received env (a.due env))
      if env.requestId = requestId.value then
        some (a.finish (.ok env.payload) awaiting)
      else if a.link = .split then
        some (a.readOther env expectTerminated)
      else
        some a
  | _ => none

/-- A read fails. -/
def readFailed (a : EndpointActor) (error : DaemonError) : Option EndpointActor :=
  match a.phase with
  | .idle false => if a.link = .split then some a.handleDisconnect.toIdle else none
  | .receiving _ _ awaiting => some (a.finish (.error error) awaiting)
  | _ => none

end Reading

section Timers

/-- The workspace a request is part of opening. -/
def openingWorkspace? : Phase → Option String
  | .sending _ _ (.await _ _ awaiting) => awaitingWorkspace? awaiting
  | .receiving _ _ awaiting => awaitingWorkspace? awaiting
  | _ => none
where
  awaitingWorkspace? : Awaiting → Option String
    | .openTakeover request _ _ => some request.workspaceId
    | .openReattach request _ => some request.workspaceId
    | .openCreate request => some request.workspaceId
    | .openAttach request _ => some request.workspaceId
    | _ => none

/-- Opening a workspace took too long. -/
def handshakeTimedOut (a : EndpointActor) (workspaceId : String) : EndpointActor :=
  let a := a.closeLink.emitStatus workspaceId .disconnected
  let delaySecs := a.nextReconnectDelaySecs
  let a := (a.emitStatus workspaceId
    (.reconnecting a.nextReconnectAttempt delaySecs)).scheduleReconnect delaySecs
  (a.emitError workspaceId .openWorkspace .daemonUnavailable "Daemon handshake timed out").toIdle

def handleHeartbeatTick (a : EndpointActor) : EndpointActor :=
  let (action, heartbeat) := a.heartbeat.onTick
  let a := { a with heartbeat := heartbeat }
  match action with
  | .sendPing nonce =>
      let (id, idGen) := RequestId.generate a.idGen
      { a with idGen := idGen }.sendMessage id.value (.ping nonce) .heartbeat
  | .declareLost => a.handleDisconnect.toIdle

/-- The poller sets the flag by the number of free slots. -/
def checkWatermark (a : EndpointActor) : EndpointActor :=
  let free := a.events.capacity - a.events.items.length
  if !a.backpressure && free ≤ backpressureHighWatermark then
    { a with backpressure := true }
  else if a.backpressure && backpressureLowWatermark ≤ free then
    { a with backpressure := false }
  else
    a

end Timers

end EndpointActor

/-- A step of the actor or of what surrounds it: the window, the poller, the
daemon, the timers, and the actors of other endpoints. -/
inductive ActorStep
  | command (command : EndpointCommand)
  | take (outcome : Except DaemonError Unit)
  | written
  | writeFails (error : DaemonError)
  | receive (env : ServerEnvelope)
  | readFails (error : DaemonError)
  | peerCloses
  | endOfStream
  | handshakeTimeout
  | heartbeatTick
  | pausePoll
  | timerFires (delaySecs : Nat)
  | drain
  | watermark
  | otherEvent (event : ActorEvent)
  | reorder (tracked : HashMap String String)

namespace EndpointActor

section Steps

variable [UuidText]

/-- One step. -/
def next (a : EndpointActor) : ActorStep → Option EndpointActor
  | .command command => some (a.trySelf command)
  | .take outcome =>
      match a.phase, a.commands.receive with
      | .idle _, some (command, commands) =>
          some ({ a with commands := commands }.handleCommand outcome command)
      | _, _ => none
  | .written =>
      match a.phase with
      | .sending via env after =>
          if a.link = via then some ((a.record (.sent env)).wrote after) else none
      | _ => none
  | .writeFails error =>
      match a.phase with
      | .sending via _ after =>
          if a.link = via ∨ error = .disconnected then some (a.writeFailed error after) else none
      | _ => none
  | .receive env => a.receive env
  | .readFails error => a.readFailed error
  | .peerCloses =>
      if a.link = .none then none
      else some ({ a with peerClosed := true }.record .closed)
  | .endOfStream => if a.peerClosed then a.readFailed .disconnected else none
  | .handshakeTimeout => (openingWorkspace? a.phase).map a.handshakeTimedOut
  | .heartbeatTick =>
      if a.phase = .idle false ∧ a.link = .split ∧ a.trackedWorkspaces.keys ≠ [] then
        some a.handleHeartbeatTick
      else
        none
  | .pausePoll =>
      if a.phase = .idle true ∧ a.link = .split then some a.toIdle else none
  | .timerFires delaySecs =>
      if delaySecs ∈ a.timers then
        some ({ a with timers := a.timers.erase delaySecs }.trySelf .reconnect)
      else
        none
  | .drain => a.events.receive.map fun (_, events) => { a with events := events }
  | .watermark => some a.checkWatermark
  | .otherEvent event => some { a with events := (a.events.trySend event).2 }
  | .reorder tracked =>
      if a.trackedWorkspaces.entries.Perm tracked.entries then
        some { a with trackedWorkspaces := tracked }
      else
        none

/-- The actor of an endpoint, from its start. -/
def system : System EndpointActor ActorStep where
  init := fun a => ∃ endpoint reconnectDelaySecs, a = new endpoint reconnectDelaySecs
  next := next

end Steps

end EndpointActor

end Client
end Rttx
