import Rttx.Client.Reconnection

/-!
# How failures are counted

A step of an actor is a failure of its connection, or restores it, or neither.
Whatever handles the step schedules a reconnect in the first case and counts it,
starts over in the second, and keeps the count and the timers in the third.

**Results.**
* `handles_handleCommand`, `handles_finish`: every command but a reconnect, and
  every response but that to a reattach, is counted so.
* `advances_reconnect_ok`, `advances_reconnect_permanent`,
  `advances_reconnect_transient`: so is a reconnect, if none that is refused for
  a while finds failures before it (`reconnectAttempt_reconnect`).
-/

namespace Rttx
namespace Client

open Kernel Server

namespace EndpointActor

section Failures

variable [UuidText]

/-- What connecting comes to in a reconnect that has workspaces to serve. -/
def reconnects? (a : EndpointActor) : ActorStep → Option (Except DaemonError Unit)
  | .take outcome =>
      match a.phase, a.commands.receive with
      | .idle _, some (.reconnect, _) =>
          if a.link = .none ∧ a.trackedWorkspaces.keys ≠ [] then some outcome else none
      | _, _ => none
  | _ => none

/-- A connection that is made for another command fails for a while. -/
def refuses (a : EndpointActor) (outcome : Except DaemonError Unit) (command : EndpointCommand) :
    Bool :=
  a.link = .none && a.reconnectAttempt = 0 && connectsFor command && transient outcome

/-- The result ends the connection a request was made on.  A failed resync is
not reported, and a failed reattach ends no connection before the last one. -/
def endsConnection (result : Except DaemonError ServerPayload) : Awaiting → Bool
  | .resyncWorkspace _ _ | .reattach _ _ _ _ _ => false
  | _ =>
      match result with
      | .ok _ => false
      | .error error => (classifyConnectionProblem error).isTransient

/-- The step ends the connection in use. -/
def losesConnection (a : EndpointActor) (step : ActorStep) : Bool :=
  match a.result? step with
  | some (result, awaiting) => endsConnection result awaiting
  | none =>
      match step with
      | .readFails _ | .endOfStream => true
      | .writeFails error =>
          match a.phase with
          | .sending _ _ .heartbeat => true
          | .sending _ _ (.report _ _) => (classifyConnectionProblem error).isTransient
          | _ => false
      | .heartbeatTick => a.heartbeat.onTick.1 = .declareLost
      | _ => false

/-- The step ends a reconnect in which a reattach failed for a while. -/
def reattachFails (a : EndpointActor) (step : ActorStep) : Bool :=
  match a.result? step with
  | some (result, awaiting) => failsReconnect result awaiting
  | none => false

/-- The step is a failure of the connection: a reconnect fails, a connection is
refused, or one is lost that there are workspaces for. -/
def connectionFails (a : EndpointActor) (step : ActorStep) : Bool :=
  match a.reconnects? step with
  | some outcome => !outcome.isOk
  | none =>
      match step with
      | .take outcome =>
          match a.phase, a.commands.receive with
          | .idle _, some (command, _) => a.refuses outcome command
          | _, _ => false
      | .handshakeTimeout => true
      | step =>
          a.reattachFails step || (a.losesConnection step && a.trackedWorkspaces.keys ≠ [])

/-- The response ends a reconnect with a standing connection. -/
def standsAfter (result : Except DaemonError ServerPayload) : Awaiting → Bool
  | .reattach workspaceId runtimeId rest anyTransientFailure savedAttempt =>
      (rest.all fun e => !readable e.2) && !failsReconnect result
        (.reattach workspaceId runtimeId rest anyTransientFailure savedAttempt)
  | _ => false

/-- The step does. -/
def restoresConnection (a : EndpointActor) (step : ActorStep) : Bool :=
  match a.reconnects? step with
  | some outcome =>
      outcome.isOk && a.trackedWorkspaces.entries.all fun e => !readable e.2
  | none =>
      match a.result? step with
      | some (result, awaiting) => standsAfter result awaiting
      | none => false

end Failures

section Counting

variable {a b c : EndpointActor}

/-- The attempt and the timers stay. -/
structure Keeps (a b : EndpointActor) : Prop where
  attempt : b.reconnectAttempt = a.reconnectAttempt
  delaySecs : b.reconnectDelaySecs = a.reconnectDelaySecs
  timers : b.timers = a.timers

/-- A failure is counted, and a timer is started within the limit. -/
structure Schedules (a : EndpointActor) (delay : Nat) (b : EndpointActor) : Prop where
  attempt : b.reconnectAttempt = a.nextReconnectAttempt
  delaySecs : b.reconnectDelaySecs = a.reconnectDelaySecs
  timers : b.timers =
    if a.nextReconnectAttempt ≤ a.circuitBreakerLimit then delay :: a.timers else a.timers

theorem Keeps.refl (a : EndpointActor) : a.Keeps a :=
  ⟨rfl, rfl, rfl⟩

theorem Keeps.trans
    (h : a.Keeps b)
    (h' : b.Keeps c) :
    a.Keeps c :=
  ⟨h'.attempt.trans h.attempt, h'.delaySecs.trans h.delaySecs, h'.timers.trans h.timers⟩

theorem SameRetry.keeps
    (h : a.SameRetry b) :
    a.Keeps b :=
  ⟨h.attempt, h.delaySecs, h.timers⟩

theorem Keeps.nextReconnectAttempt
    (h : a.Keeps b) :
    b.nextReconnectAttempt = a.nextReconnectAttempt := by
  rw [EndpointActor.nextReconnectAttempt, EndpointActor.nextReconnectAttempt, h.attempt]

theorem Keeps.nextReconnectDelaySecs
    (h : a.Keeps b) :
    b.nextReconnectDelaySecs = a.nextReconnectDelaySecs := by
  rw [EndpointActor.nextReconnectDelaySecs, EndpointActor.nextReconnectDelaySecs,
    h.nextReconnectAttempt, h.delaySecs]

theorem Keeps.schedules {delaySecs : Nat}
    (h : a.Keeps b)
    (h' : b.Schedules delaySecs c) :
    a.Schedules delaySecs c := by
  have hlimit : b.circuitBreakerLimit = a.circuitBreakerLimit := by
    rw [circuitBreakerLimit, circuitBreakerLimit, h.delaySecs]
  refine ⟨h'.attempt.trans h.nextReconnectAttempt, h'.delaySecs.trans h.delaySecs, ?_⟩
  rw [h'.timers, h.nextReconnectAttempt, hlimit, h.timers]

theorem Schedules.keeps {delaySecs : Nat}
    (h : a.Schedules delaySecs b)
    (h' : b.Keeps c) :
    a.Schedules delaySecs c :=
  ⟨h'.attempt.trans h.attempt, h'.delaySecs.trans h.delaySecs, h'.timers.trans h.timers⟩

theorem schedules_scheduleReconnect (a : EndpointActor) (delaySecs : Nat) :
    a.Schedules delaySecs (a.scheduleReconnect delaySecs) := by
  simp only [scheduleReconnect]
  split
  · rename_i hover
    have hsame := sameRetry_foldl (fun a id => a.sameRetry_emitStatus id (.blocked .daemonDied))
      a.trackedWorkspaces.keys { a with reconnectAttempt := a.nextReconnectAttempt }
    have hgivesUp : ¬ a.nextReconnectAttempt ≤ a.circuitBreakerLimit := Nat.not_le.mpr hover
    exact ⟨hsame.attempt, hsame.delaySecs, hsame.timers.trans (if_neg hgivesUp).symm⟩
  · rename_i hwithin
    have hretries : a.nextReconnectAttempt ≤ a.circuitBreakerLimit := Nat.not_lt.mp hwithin
    exact ⟨rfl, rfl, (if_pos hretries).symm⟩

/-- What handling something does to the count: whether it is a failure or not. -/
inductive Counted (a b : EndpointActor) : Bool → Prop
  | kept (h : a.Keeps b) : Counted a b false
  | scheduled (h : a.Schedules a.nextReconnectDelaySecs b) : Counted a b true

theorem Keeps.counted {fails : Bool}
    (h : a.Keeps b)
    (h' : b.Counted c fails) :
    a.Counted c fails := by
  cases h' with
  | kept hkept => exact .kept (h.trans hkept)
  | scheduled hscheduled =>
      rw [h.nextReconnectDelaySecs] at hscheduled
      exact .scheduled (h.schedules hscheduled)

theorem Counted.keeps {fails : Bool}
    (h : a.Counted b fails)
    (h' : b.Keeps c) :
    a.Counted c fails := by
  cases h with
  | kept hkept => exact .kept (hkept.trans h')
  | scheduled hscheduled => exact .scheduled (hscheduled.keeps h')

theorem counted_handleDisconnect (a : EndpointActor) :
    a.Counted a.handleDisconnect (decide (a.trackedWorkspaces.keys ≠ [])) := by
  have hclosed : a.Keeps { a.closeLink with heartbeat := a.closeLink.heartbeat.reset } :=
    ⟨rfl, rfl, rfl⟩
  simp only [handleDisconnect]
  split
  · rename_i hnone
    have hfails : decide (a.trackedWorkspaces.keys ≠ []) = false :=
      decide_eq_false (not_not.mpr hnone)
    rw [hfails]
    exact .kept hclosed
  · rename_i htracked
    have hfails : decide (a.trackedWorkspaces.keys ≠ []) = true := decide_eq_true htracked
    rw [hfails]
    refine .scheduled (Keeps.schedules (hclosed.trans (SameRetry.keeps ?_))
      (schedules_scheduleReconnect _ _))
    exact sameRetry_foldl (fun a id => (a.sameRetry_emitStatus id _).trans
      (sameRetry_emitStatus _ id _)) _ _

theorem counted_handleCommandError (a : EndpointActor) (workspaceId : String)
    (operation : ManagerOperation) (error : DaemonError) :
    a.Counted (a.handleCommandError workspaceId operation error)
      ((classifyConnectionProblem error).isTransient &&
        decide (a.trackedWorkspaces.keys ≠ [])) := by
  simp only [handleCommandError]
  split
  · rename_i hmissing
    rw [hmissing]
    exact .kept (a.sameRetry_emitStatus workspaceId _).keeps
  · have herror := a.sameRetry_emitError workspaceId operation
      (classifyConnectionProblem error) error.text
    split
    · rename_i htransient
      rw [htransient, Bool.true_and, ← herror.tracked]
      exact herror.keeps.counted (counted_handleDisconnect _)
    · rename_i hpermanent
      rw [Bool.eq_false_iff.mpr hpermanent, Bool.false_and]
      exact .kept herror.keeps

theorem counted_connectFailed (a : EndpointActor) (workspaceId : String) (error : DaemonError) :
    a.Counted (a.connectFailed workspaceId error)
      (classifyConnectionProblem error).isTransient := by
  simp only [connectFailed]
  split
  · rename_i htransient
    rw [htransient]
    exact .scheduled (((a.sameRetry_emitStatus workspaceId _).trans
      (sameRetry_emitStatus _ workspaceId _)).keeps.schedules (schedules_scheduleReconnect _ _))
  · rename_i hpermanent
    rw [Bool.eq_false_iff.mpr hpermanent]
    exact .kept (a.sameRetry_emitStatus workspaceId _).keeps

theorem counted_ensureConnected (a : EndpointActor) (workspaceId : String)
    (outcome : Except DaemonError Unit) :
    a.Counted (a.ensureConnected workspaceId outcome).2
      (decide (a.link = .none) && decide (a.reconnectAttempt = 0) && transient outcome) := by
  have hstart := (a.sameRetry_emitStatus workspaceId a.startingStatus).keeps
  unfold ensureConnected
  split
  · rename_i hlink
    rw [decide_eq_false hlink]
    exact .kept (Keeps.refl a)
  · rename_i hlink
    split
    · rename_i hpos
      rw [decide_eq_false (Nat.pos_iff_ne_zero.mp hpos), Bool.and_false]
      exact .kept (Keeps.refl a)
    · rename_i hzero
      rw [decide_eq_true (not_not.mp hlink), decide_eq_true (by omega : a.reconnectAttempt = 0)]
      cases outcome with
      | ok _ =>
          refine .kept (hstart.trans (Keeps.trans ?_ (sameRetry_emitStatus _ workspaceId _).keeps))
          exact ⟨rfl, rfl, rfl⟩
      | error error => exact hstart.counted (counted_connectFailed _ workspaceId error)

end Counting

section Handling

variable {a b : EndpointActor}

/-- Handling something counts so, and leaves no reattach under way. -/
structure Handles (a b : EndpointActor) (fails : Bool) : Prop where
  counted : a.Counted b fails
  settled : b.reattaching? = none

theorem Keeps.handles {c : EndpointActor} {fails : Bool}
    (h : a.Keeps b)
    (h' : b.Handles c fails) :
    a.Handles c fails :=
  ⟨h.counted h'.counted, h'.settled⟩

theorem keeps_toIdle (a : EndpointActor) : a.Keeps a.toIdle :=
  ⟨rfl, rfl, rfl⟩

theorem Counted.toIdle {fails : Bool}
    (h : a.Counted b fails) :
    a.Handles b.toIdle fails :=
  ⟨h.keeps (keeps_toIdle b), rfl⟩

theorem Keeps.toIdle
    (h : a.Keeps b) :
    a.Handles b.toIdle false :=
  (Counted.kept h).toIdle

/-- A request that is no reattach is made. -/
theorem handles_sendAndRead (a : EndpointActor) {command : ClientCommand}
    {expectTerminated : Bool} {awaiting : Awaiting}
    (hsaved : savedAttempt? awaiting = none) :
    a.Handles (a.sendAndRead command expectTerminated awaiting) false :=
  ⟨.kept ⟨rfl, rfl, rfl⟩, hsaved⟩

theorem handles_viaActiveChannel (a : EndpointActor) {command : ClientCommand}
    {awaiting : Awaiting}
    (hsaved : savedAttempt? awaiting = none) :
    a.Handles (a.viaActiveChannel command awaiting) false := by
  unfold viaActiveChannel
  split
  · exact ⟨.kept ⟨rfl, rfl, rfl⟩, hsaved⟩
  · exact a.handles_sendAndRead hsaved

/-- An envelope is written that no response is awaited for. -/
theorem handles_sendMessage (a : EndpointActor) {requestId : Nat} {command : ClientCommand}
    {after : AfterSend}
    (hafter : awaiting? (.sending .split ⟨requestId, command⟩ after) = none) :
    a.Handles (a.sendMessage requestId command after) false := by
  refine ⟨.kept ⟨rfl, rfl, rfl⟩, ?_⟩
  rw [reattaching?, sendMessage, hafter]
  rfl

theorem handles_post (a : EndpointActor) {command : ClientCommand} {workspaceId : String}
    {operation : ManagerOperation} :
    a.Handles (a.post command workspaceId operation) false := by
  unfold post
  split
  · exact a.handles_sendMessage rfl
  · exact (Keeps.refl a).toIdle

theorem handles_handleCommandError (a : EndpointActor) (workspaceId : String)
    (operation : ManagerOperation) (error : DaemonError) :
    a.Handles (a.handleCommandError workspaceId operation error).toIdle
      ((classifyConnectionProblem error).isTransient &&
        decide (a.trackedWorkspaces.keys ≠ [])) :=
  (a.counted_handleCommandError workspaceId operation error).toIdle

/-- What is done on a connection, if there is one. -/
theorem handles_withConnection (a : EndpointActor) {workspaceId : String}
    {operation : ManagerOperation} {outcome : Except DaemonError Unit}
    {next : EndpointActor → EndpointActor}
    (hnext : ∀ b : EndpointActor, b.Handles (next b) false) :
    a.Handles (a.withConnection workspaceId operation outcome next)
      (decide (a.link = .none) && decide (a.reconnectAttempt = 0) && transient outcome) := by
  have hcounted := a.counted_ensureConnected workspaceId outcome
  unfold withConnection
  split
  · rename_i b hres
    rw [hres] at hcounted
    obtain ⟨hkept, hsettled⟩ := hnext b
    cases hkept with
    | kept hkeeps => exact ⟨hcounted.keeps hkeeps, hsettled⟩
  · rename_i problem b hres
    rw [hres] at hcounted
    split
    · exact hcounted.toIdle
    · exact (hcounted.keeps (b.sameRetry_emitError workspaceId operation problem _).keeps).toIdle

theorem handles_opened (a : EndpointActor) (request : OpenRequest) (runtimeId : String)
    (snapshot : WorkspaceSnapshot) :
    a.Handles (a.opened request runtimeId snapshot) false := by
  have hsplit : a.Keeps a.splitConnection := by
    unfold splitConnection
    split
    · exact ⟨rfl, rfl, rfl⟩
    · exact Keeps.refl a
  have htracked : ∀ tracked : HashMap String String,
      a.splitConnection.Keeps { a.splitConnection with trackedWorkspaces := tracked } :=
    fun _ => ⟨rfl, rfl, rfl⟩
  have hreported := (hsplit.trans (htracked
    (a.splitConnection.trackedWorkspaces.insert request.workspaceId runtimeId))).trans
      (sameRetry_emit _ (.workspaceOpened request.workspaceId runtimeId snapshot)).keeps
  simp only [opened]
  split
  · split
    · exact (hreported.trans (sameRetry_trySelf _ _).keeps).toIdle
    · exact (hreported.trans (sameRetry_emitStatus _ _ _).keeps).toIdle
  · exact (hreported.trans (sameRetry_emitStatus _ _ _).keeps).toIdle

theorem handles_reattachFailed (a : EndpointActor) (request : OpenRequest) (error : DaemonError) :
    a.Handles (a.reattachFailed request error)
      ((classifyConnectionProblem error).isTransient &&
        decide (a.trackedWorkspaces.keys ≠ [])) := by
  have herror := a.handles_handleCommandError request.workspaceId .openWorkspace error
  unfold reattachFailed
  split
  · exact herror
  · exact herror
  · exact herror
  · rename_i hblocked hio hdisconnected
    have hpermanent : (classifyConnectionProblem error).isTransient = false := by
      refine Bool.eq_false_iff.mpr (fun htransient => ?_)
      rcases isTransient_classify htransient with rfl | ⟨message, rfl⟩
      · exact hdisconnected rfl
      · exact hio message rfl
    rw [hpermanent, Bool.false_and]
    split
    · exact (a.sameRetry_emitStatus request.workspaceId _).keeps.toIdle
    · exact a.handles_viaActiveChannel rfl

end Handling

section Handlers

variable [UuidText]
variable {a b : EndpointActor}

theorem handles_withUuid {workspaceId : String} {operation : ManagerOperation} {value : String}
    {fails : Bool} {next : Uuid → EndpointActor}
    (hnext : readable value = true → ∀ id, a.Handles (next id) fails)
    (hunreadable : readable value = false → fails = false) :
    a.Handles (a.withUuid workspaceId operation value next) fails := by
  unfold withUuid
  split
  · rename_i id hparse
    exact hnext (by rw [readable, hparse]; rfl) id
  · rename_i text hparse
    rw [hunreadable (by rw [readable, hparse]; rfl)]
    exact (a.sameRetry_emit _).keeps.toIdle

theorem handles_resolveAndAttachRuntime (a : EndpointActor) (request : OpenRequest) :
    a.Handles (a.resolveAndAttachRuntime request) false := by
  unfold resolveAndAttachRuntime
  split
  · exact a.handles_viaActiveChannel rfl
  · split
    · exact a.handles_viaActiveChannel rfl
    · split <;> exact a.handles_viaActiveChannel rfl

omit [UuidText] in
/-- A push that a connection is made for. -/
theorem handles_push (a : EndpointActor) {workspaceId : String}
    {outcome : Except DaemonError Unit} {command : ClientCommand} :
    a.Handles
      (match a.ensureConnected workspaceId outcome with
        | (some _, b) => b.toIdle
        | (none, b) => b.sendMessage 0 command .ignore)
      (decide (a.link = .none) && decide (a.reconnectAttempt = 0) && transient outcome) := by
  have hcounted := a.counted_ensureConnected workspaceId outcome
  split
  · rename_i problem b hres
    rw [hres] at hcounted
    exact hcounted.toIdle
  · rename_i b hres
    rw [hres] at hcounted
    exact ⟨hcounted.keeps ⟨rfl, rfl, rfl⟩, rfl⟩

/-- Every command but a reconnect is handled so. -/
theorem handles_handleCommand {outcome : Except DaemonError Unit} {command : EndpointCommand}
    (hcommand : command ≠ .reconnect) :
    a.Handles (a.handleCommand outcome command) (a.refuses outcome command) := by
  have hconnects : connectsFor command = true → a.refuses outcome command =
      (decide (a.link = .none) && decide (a.reconnectAttempt = 0) && transient outcome) := by
    intro h
    rw [refuses, h, Bool.and_true]
  have hnever : connectsFor command = false → a.refuses outcome command = false := by
    intro h
    rw [refuses, h, Bool.and_false, Bool.false_and]
  have hsend : ∀ (b : EndpointActor) (workspaceId value : String)
      (operation : ManagerOperation) (next : Uuid → EndpointActor),
      (∀ id, b.Handles (next id) false) →
        b.Handles (b.withUuid workspaceId operation value next) false :=
    fun b workspaceId value operation next hnext =>
      handles_withUuid (fun _ => hnext) (fun _ => rfl)
  cases command with
  | openWorkspace request =>
      have hsame := a.sameRetry_emitStatus request.workspaceId .connecting
      rw [hconnects rfl, ← hsame.link, ← hsame.attempt]
      exact hsame.keeps.handles (handles_withConnection _
        (fun b => b.handles_resolveAndAttachRuntime request))
  | createPane workspaceId runtimeId layoutTerminalUuid spec =>
      rw [hconnects rfl]
      exact a.handles_withConnection (fun b => hsend _ _ _ _ _
        (fun _ => b.handles_sendAndRead rfl))
  | splitPane workspaceId runtimeId targetPaneId layoutTerminalUuid axis ratio spec =>
      rw [hconnects rfl]
      exact a.handles_withConnection (fun b => hsend _ _ _ _ _ (fun _ => hsend _ _ _ _ _
        (fun _ => b.handles_sendAndRead rfl)))
  | closePane workspaceId runtimeId layoutTerminalUuid runtimePaneId =>
      rw [hconnects rfl]
      exact a.handles_withConnection (fun b => hsend _ _ _ _ _ (fun _ => hsend _ _ _ _ _
        (fun _ => b.handles_sendAndRead rfl)))
  | detachWorkspace workspaceId runtimeId =>
      refine handles_withUuid (fun hreadable _ => ?_) hnever
      rw [hconnects hreadable]
      exact a.handles_withConnection (fun b => b.handles_sendAndRead rfl)
  | terminateWorkspace workspaceId runtimeId =>
      refine handles_withUuid (fun hreadable _ => ?_) hnever
      rw [hconnects hreadable]
      exact a.handles_withConnection (fun b => b.handles_sendAndRead rfl)
  | sendInput workspaceId runtimeId runtimePaneId data =>
      rw [hnever rfl]
      exact hsend _ _ _ _ _ (fun _ => hsend _ _ _ _ _ (fun _ => a.handles_post))
  | resizePane workspaceId runtimeId runtimePaneId cols rows =>
      rw [hnever rfl]
      exact hsend _ _ _ _ _ (fun _ => hsend _ _ _ _ _ (fun _ => a.handles_post))
  | refreshInventory =>
      rw [hconnects rfl]
      exact a.handles_withConnection (fun b => b.handles_viaActiveChannel rfl)
  | reconnect => exact absurd rfl hcommand
  | forgetWorkspace workspaceId =>
      rw [hnever rfl]
      exact Keeps.toIdle ⟨rfl, rfl, rfl⟩
  | renameWorkspace workspaceId runtimeId name automatic =>
      refine handles_withUuid (fun hreadable _ => ?_) hnever
      rw [hconnects hreadable]
      exact a.handles_push
  | setPaneNoPersist workspaceId runtimeId runtimePaneId noPersist =>
      refine handles_withUuid (fun hruntime _ => handles_withUuid (fun hpane _ => ?_) ?_) ?_
      · rw [hconnects (by rw [connectsFor, hruntime, hpane]; rfl)]
        exact a.handles_push
      · intro hunreadable
        exact hnever (by rw [connectsFor, hunreadable, Bool.and_false])
      · intro hunreadable
        exact hnever (by rw [connectsFor, hunreadable, Bool.false_and])
  | resyncWorkspace workspaceId runtimeId =>
      rw [hnever rfl, handleCommand]
      split
      · exact (Keeps.refl a).toIdle
      · exact a.handles_sendAndRead rfl
  | shutdown =>
      rw [hnever rfl]
      exact ⟨.kept ⟨rfl, rfl, rfl⟩, rfl⟩

omit [UuidText] in
/-- A response that is not the expected one fails for a while only when there
was none. -/
theorem isTransient_failure (result : Except DaemonError ServerPayload) :
    (classifyConnectionProblem (failure result)).isTransient =
      match result with
      | .ok _ => false
      | .error error => (classifyConnectionProblem error).isTransient := by
  unfold failure
  split
  · rename_i kind message requestId
    cases kind <;> rfl
  · rfl
  · rfl

omit [UuidText] in
theorem isTransient_attachFailure (result : Except DaemonError ServerPayload) :
    (classifyConnectionProblem (attachFailure result)).isTransient =
      match result with
      | .ok _ => false
      | .error error => (classifyConnectionProblem error).isTransient := by
  unfold attachFailure
  split
  · rfl
  · exact isTransient_failure result

/-- Every response to a request that is no reattach is handled so. -/
theorem handles_finish {result : Except DaemonError ServerPayload} {awaiting : Awaiting}
    (hsaved : savedAttempt? awaiting = none) :
    a.Handles (a.finish result awaiting)
      (endsConnection result awaiting && decide (a.trackedWorkspaces.keys ≠ [])) := by
  have herror := fun workspaceId operation =>
    a.handles_handleCommandError workspaceId operation (failure result)
  simp only [isTransient_failure] at herror
  have hreport : ∀ event workspaceId status,
      a.Handles ((a.emit event).emitStatus workspaceId status).toIdle false := by
    intro event workspaceId status
    exact ((a.sameRetry_emit event).trans (sameRetry_emitStatus _ _ _)).keeps.toIdle
  have hforget : ∀ workspaceId event,
      a.Handles ((a.forget workspaceId).emit event).toIdle false := by
    intro workspaceId event
    have hforgotten : a.Keeps (a.forget workspaceId) := ⟨rfl, rfl, rfl⟩
    exact (hforgotten.trans (sameRetry_emit _ event).keeps).toIdle
  cases awaiting with
  | openTakeover request runtimeId runtimeUuid =>
      simp only [finish]
      split
      · exact (a.sameRetry_emit _).keeps.handles (handles_viaActiveChannel _ rfl)
      · exact herror _ _
  | openReattach request runtimeId =>
      simp only [finish]
      split
      · exact a.handles_opened request runtimeId _
      · have hfailed := a.handles_reattachFailed request (attachFailure result)
        rw [isTransient_attachFailure] at hfailed
        exact hfailed
  | openCreate request =>
      simp only [finish]
      split
      · exact handles_withUuid (fun _ _ => a.handles_viaActiveChannel rfl) (fun _ => rfl)
      · exact herror _ _
  | openAttach request runtimeId =>
      simp only [finish]
      split
      · exact a.handles_opened request runtimeId _
      · have hfailed := a.handles_handleCommandError request.workspaceId .openWorkspace
          (attachFailure result)
        rw [isTransient_attachFailure] at hfailed
        exact hfailed
  | createPane workspaceId layoutTerminalUuid runtimeId =>
      simp only [finish]
      split
      · exact hreport _ _ _
      · exact herror _ _
  | splitPane workspaceId layoutTerminalUuid runtimeId =>
      simp only [finish]
      split
      · exact hreport _ _ _
      · exact herror _ _
  | closePane workspaceId layoutTerminalUuid runtimeId runtimePaneId =>
      simp only [finish]
      split
      · exact (a.sameRetry_emit _).keeps.toIdle
      · exact (a.sameRetry_emit _).keeps.toIdle
      · exact herror _ _
  | detachWorkspace workspaceId runtimeId =>
      simp only [finish]
      split
      · exact hforget _ _
      · exact hforget _ _
      · exact herror _ _
  | terminateWorkspace workspaceId runtimeId =>
      simp only [finish]
      split
      · exact hforget _ _
      · exact herror _ _
  | listWorkspaces pseudoWorkspace =>
      simp only [finish]
      split
      · exact (a.sameRetry_emit _).keeps.toIdle
      · exact herror _ _
  | resyncWorkspace workspaceId runtimeId =>
      simp only [finish]
      split
      · exact (a.sameRetry_emit _).keeps.toIdle
      · exact (Keeps.refl a).toIdle
  | reattach workspaceId runtimeId rest anyTransientFailure savedAttempt => cases hsaved

end Handlers

section Reconnects

variable {a b : EndpointActor}

/-- While a reattach is under way, the attempt is the one it goes back to. -/
def Tallies (a : EndpointActor) : Prop :=
  ∀ savedAttempt, a.reattaching? = some savedAttempt → a.reconnectAttempt = savedAttempt

/-- How a step goes on with the count, by whether it is a failure and whether it
restores the connection. -/
inductive Advances (a b : EndpointActor) (delay : Nat) : Bool → Bool → Prop
  | kept (attempt : b.reconnectAttempt = a.reconnectAttempt)
      (timers : b.timers.Sublist a.timers) (tallies : b.Tallies) : Advances a b delay false false
  | scheduled (schedules : a.Schedules delay b) (settled : b.reattaching? = none) :
      Advances a b delay true false
  | restored (attempt : b.reconnectAttempt = 0) (timers : b.timers = a.timers)
      (settled : b.reattaching? = none) : Advances a b delay false true

theorem tallies_of_settled
    (h : a.reattaching? = none) :
    a.Tallies := by
  intro savedAttempt hsaved
  rw [h] at hsaved
  cases hsaved

theorem Advances.tallies {delay : Nat} {fails restores : Bool}
    (h : a.Advances b delay fails restores) :
    b.Tallies := by
  cases h with
  | kept attempt timers tallies => exact tallies
  | scheduled schedules settled => exact tallies_of_settled settled
  | restored attempt timers settled => exact tallies_of_settled settled

theorem Handles.advances {fails : Bool}
    (h : a.Handles b fails) :
    a.Advances b a.nextReconnectDelaySecs fails false := by
  obtain ⟨hcounted, hsettled⟩ := h
  cases hcounted with
  | kept hkeeps =>
      exact .kept hkeeps.attempt (hkeeps.timers ▸ List.Sublist.refl _) (tallies_of_settled hsettled)
  | scheduled hschedules => exact .scheduled hschedules hsettled

/-- The count stays, and so does a reattach. -/
theorem Keeps.advances {delay : Nat}
    (h : a.Keeps b)
    (hinv : a.Tallies)
    (hreattaching : b.reattaching? = a.reattaching?) :
    a.Advances b delay false false := by
  refine .kept h.attempt (h.timers ▸ List.Sublist.refl _) ?_
  rw [Tallies, hreattaching, h.attempt]
  exact hinv

theorem Keeps.trans_advances {c : EndpointActor} {delay : Nat} {fails restores : Bool}
    (h : a.Keeps b)
    (h' : b.Advances c delay fails restores) :
    a.Advances c delay fails restores := by
  cases h' with
  | kept attempt timers tallies =>
      exact .kept (attempt.trans h.attempt) (h.timers ▸ timers) tallies
  | scheduled schedules settled => exact .scheduled (h.schedules schedules) settled
  | restored attempt timers settled => exact .restored attempt (timers.trans h.timers) settled

variable [UuidText]

/-- What is left of a reattach: the next request, a failure, or a standing
connection. -/
theorem advances_reattachNext (anyTransientFailure : Bool) (savedAttempt : Nat)
    (rest : List (String × String))
    (hattempt : a.reconnectAttempt = savedAttempt)
    (htracked : anyTransientFailure = true → (rest.all fun e => !readable e.2) = true →
      a.trackedWorkspaces.keys ≠ []) :
    a.Advances (a.reattachNext anyTransientFailure savedAttempt rest) a.nextReconnectDelaySecs
      (anyTransientFailure && rest.all fun e => !readable e.2)
      ((rest.all fun e => !readable e.2) && !anyTransientFailure) := by
  induction rest with
  | nil =>
      unfold reattachNext
      split
      · rename_i hfailed
        subst hfailed
        have hsame : { a with reconnectAttempt := savedAttempt } = a := by rw [← hattempt]
        have hcounted := a.counted_handleDisconnect
        rw [decide_eq_true (htracked rfl rfl)] at hcounted
        rw [hsame]
        exact hcounted.toIdle.advances
      · rename_i hstands
        rw [Bool.eq_false_iff.mpr hstands]
        exact .restored rfl rfl rfl
  | cons entry rest ih =>
      unfold reattachNext
      split
      · rename_i text hparse
        have hunreadable : (!readable entry.2) = true := by rw [readable, hparse]; rfl
        rw [List.all_cons, hunreadable, Bool.true_and] at htracked ⊢
        exact ih htracked
      · rename_i id hparse
        have hreadable : (!readable entry.2) = false := by rw [readable, hparse]; rfl
        rw [List.all_cons, hreadable, Bool.false_and, Bool.and_false, Bool.false_and]
        unfold viaActiveChannel
        split
        · exact .kept rfl (List.Sublist.refl _)
            (fun saved hsaved => hattempt.trans (Option.some.inj hsaved))
        · exact .kept rfl (List.Sublist.refl _)
            (fun saved hsaved => hattempt.trans (Option.some.inj hsaved))

/-- The response to a reattach leads to what is left of it. -/
theorem finish_reattach (a : EndpointActor) (result : Except DaemonError ServerPayload)
    (workspaceId runtimeId : String) (rest : List (String × String))
    (anyTransientFailure : Bool) (savedAttempt : Nat) :
    ∃ b, a.SameRetry b ∧
      a.finish result (.reattach workspaceId runtimeId rest anyTransientFailure savedAttempt) =
        b.reattachNext (anyTransientFailure ||
          (classifyConnectionProblem (attachFailure result)).isTransient) savedAttempt rest := by
  simp only [finish]
  split
  · rw [isTransient_attachFailure, Bool.or_false]
    exact ⟨_, (a.sameRetry_emit _).trans (sameRetry_emitStatus _ _ _), rfl⟩
  · split
    · rename_i hmissing
      rw [hmissing]
      refine ⟨_, a.sameRetry_emitStatus workspaceId .sessionMissing, ?_⟩
      simp only [ConnectionProblem.isTransient, Bool.or_false]
    · split
      · rename_i htransient
        rw [htransient, Bool.or_true]
        exact ⟨a, SameRetry.refl a, rfl⟩
      · rename_i hpermanent
        rw [Bool.eq_false_iff.mpr hpermanent, Bool.or_false]
        exact ⟨_, a.sameRetry_emitError _ _ _ _, rfl⟩

/-- A response to a reattach. -/
theorem advances_finish_reattach {result : Except DaemonError ServerPayload}
    {workspaceId runtimeId : String} {rest : List (String × String)}
    {anyTransientFailure : Bool} {savedAttempt : Nat}
    (hattempt : a.reconnectAttempt = savedAttempt)
    (htracked : failsReconnect result
      (.reattach workspaceId runtimeId rest anyTransientFailure savedAttempt) = true →
        a.trackedWorkspaces.keys ≠ []) :
    a.Advances
      (a.finish result (.reattach workspaceId runtimeId rest anyTransientFailure savedAttempt))
      a.nextReconnectDelaySecs
      (failsReconnect result
        (.reattach workspaceId runtimeId rest anyTransientFailure savedAttempt))
      ((rest.all fun e => !readable e.2) && !failsReconnect result
        (.reattach workspaceId runtimeId rest anyTransientFailure savedAttempt)) := by
  obtain ⟨b, hsame, heq⟩ :=
    a.finish_reattach result workspaceId runtimeId rest anyTransientFailure savedAttempt
  have hserved : (anyTransientFailure ||
      (classifyConnectionProblem (attachFailure result)).isTransient) = true →
        (rest.all fun e => !readable e.2) = true → b.trackedWorkspaces.keys ≠ [] := by
    intro hfailed hall
    rw [hsame.tracked]
    exact htracked (by rw [failsReconnect, hfailed, hall]; rfl)
  have hnext := advances_reattachNext _ savedAttempt rest (hsame.attempt.trans hattempt) hserved
  rw [heq, ← hsame.keeps.nextReconnectDelaySecs]
  refine hsame.keeps.trans_advances ?_
  rw [failsReconnect]
  cases hall : (rest.all fun e => !readable e.2) with
  | true => simpa only [hall, Bool.and_true, Bool.true_and] using hnext
  | false => simpa only [hall, Bool.and_false, Bool.false_and] using hnext

omit [UuidText] in
/-- With nothing in its way, a connection is made. -/
theorem ensureConnected_ok (workspaceId : String)
    (hlink : a.link = .none)
    (hzero : a.reconnectAttempt = 0) :
    ∃ b, a.ensureConnected workspaceId (.ok ()) = (none, b) ∧ a.Keeps b := by
  have hidle : ¬ 0 < a.reconnectAttempt := by omega
  have hcounted := a.counted_ensureConnected workspaceId (.ok ())
  rw [transient, Bool.and_false] at hcounted
  refine ⟨_, Prod.ext ?_ rfl, ?_⟩
  · rw [ensureConnected, if_neg (not_not.mpr hlink), if_neg hidle]
  · cases hcounted with
    | kept hkeeps => exact hkeeps

omit [UuidText] in
/-- Or it is refused. -/
theorem ensureConnected_error (workspaceId : String) (error : DaemonError)
    (hlink : a.link = .none)
    (hzero : a.reconnectAttempt = 0) :
    ∃ b, a.ensureConnected workspaceId (.error error) =
        (some (classifyConnectionProblem error), b) ∧
      a.Counted b (classifyConnectionProblem error).isTransient := by
  have hidle : ¬ 0 < a.reconnectAttempt := by omega
  have hcounted := a.counted_ensureConnected workspaceId (.error error)
  rw [decide_eq_true hlink, decide_eq_true hzero, Bool.true_and, Bool.true_and] at hcounted
  refine ⟨_, Prod.ext ?_ rfl, hcounted⟩
  rw [ensureConnected, if_neg (not_not.mpr hlink), if_neg hidle]

/-- A reconnect that makes its connection. -/
theorem advances_reconnect_ok
    (hlink : a.link = .none)
    (htracked : a.trackedWorkspaces.keys ≠ []) :
    a.Advances (a.reconnect (.ok ())) a.nextReconnectDelaySecs false
      (a.trackedWorkspaces.entries.all fun e => !readable e.2) := by
  rw [reconnect, if_neg (not_not.mpr hlink)]
  cases hentries : a.trackedWorkspaces.entries with
  | nil => exact absurd (by rw [AList.keys, hentries]; rfl) htracked
  | cons primary rest =>
      obtain ⟨b, hres, hkeeps⟩ := ensureConnected_ok (a := { a with reconnectAttempt := 0 })
        primary.1 hlink rfl
      simp only [hres]
      have hsplit : a.Keeps
          ({ b with reconnectAttempt := a.reconnectAttempt } : EndpointActor).splitConnection := by
        unfold splitConnection
        split
        · exact ⟨rfl, hkeeps.delaySecs, hkeeps.timers⟩
        · exact ⟨rfl, hkeeps.delaySecs, hkeeps.timers⟩
      have hnext := advances_reattachNext false a.reconnectAttempt
        ((primary :: rest).map fun e => (e.1, e.2)) hsplit.attempt
        (fun hfailed => by cases hfailed)
      rw [hsplit.nextReconnectDelaySecs, List.all_map, Bool.false_and, Bool.not_false,
        Bool.and_true] at hnext
      exact hsplit.trans_advances hnext

/-- A reconnect that is refused before any failure was counted. -/
theorem advances_reconnect_transient {error : DaemonError}
    (hlink : a.link = .none)
    (htracked : a.trackedWorkspaces.keys ≠ [])
    (hzero : a.reconnectAttempt = 0)
    (htransient : (classifyConnectionProblem error).isTransient = true) :
    a.Advances (a.reconnect (.error error)) a.nextReconnectDelaySecs true false := by
  rw [reconnect, if_neg (not_not.mpr hlink)]
  cases hentries : a.trackedWorkspaces.entries with
  | nil => exact absurd (by rw [AList.keys, hentries]; rfl) htracked
  | cons primary rest =>
      have hfresh : { a with reconnectAttempt := 0 } = a := by rw [← hzero]
      obtain ⟨b, hres, hcounted⟩ := ensureConnected_error primary.1 error hlink hzero
      simp only [hfresh, hres, htransient, if_true]
      rw [htransient] at hcounted
      refine (hcounted.keeps ?_).toIdle.advances
      exact ⟨by rw [hzero, Nat.max_zero], rfl, rfl⟩

/-- The refusal is not counted when there were failures before. -/
theorem reconnectAttempt_reconnect {error : DaemonError}
    (hlink : a.link = .none)
    (htracked : a.trackedWorkspaces.keys ≠ [])
    (hpos : 0 < a.reconnectAttempt)
    (htransient : (classifyConnectionProblem error).isTransient = true) :
    (a.reconnect (.error error)).reconnectAttempt = a.reconnectAttempt := by
  rw [reconnect, if_neg (not_not.mpr hlink)]
  cases hentries : a.trackedWorkspaces.entries with
  | nil => exact absurd (by rw [AList.keys, hentries]; rfl) htracked
  | cons primary rest =>
      obtain ⟨b, hres, hcounted⟩ := ensureConnected_error
        (a := { a with reconnectAttempt := 0 }) primary.1 error hlink rfl
      rw [htransient] at hcounted
      cases hcounted with
      | scheduled hschedules =>
          have hone : b.reconnectAttempt = 1 := hschedules.attempt
          simp only [hres, htransient, if_true, toIdle, hone]
          omega

/-- A reconnect that is refused for good. -/
theorem advances_reconnect_permanent {error : DaemonError}
    (hlink : a.link = .none)
    (htracked : a.trackedWorkspaces.keys ≠ [])
    (hpermanent : (classifyConnectionProblem error).isTransient = false) :
    a.Advances (a.reconnect (.error error)) a.reconnectDelaySecs true false := by
  rw [reconnect, if_neg (not_not.mpr hlink)]
  cases hentries : a.trackedWorkspaces.entries with
  | nil => exact absurd (by rw [AList.keys, hentries]; rfl) htracked
  | cons primary rest =>
      obtain ⟨b, hres, hcounted⟩ := ensureConnected_error
        (a := { a with reconnectAttempt := 0 }) primary.1 error hlink rfl
      rw [hpermanent] at hcounted
      cases hcounted with
      | kept hkeeps =>
          have hsaved : a.Keeps
              { b with reconnectAttempt := max b.reconnectAttempt a.reconnectAttempt } :=
            ⟨by rw [hkeeps.attempt]; exact Nat.zero_max _, hkeeps.delaySecs, hkeeps.timers⟩
          have hdelay : a.reconnectDelaySecs = b.reconnectDelaySecs := hkeeps.delaySecs.symm
          have hscheduled := hsaved.schedules
            (schedules_scheduleReconnect _ b.reconnectDelaySecs)
          simp only [hres, hpermanent, Bool.false_eq_true, if_false, scheduleReconnectForProblem]
          rw [hdelay]
          exact .scheduled (hscheduled.keeps (keeps_toIdle _)) rfl

end Reconnects

section Reading

theorem keeps_untrackTerminated (a : EndpointActor) (payload : ServerPayload) :
    a.Keeps (a.untrackTerminated payload) := by
  unfold untrackTerminated
  split <;> exact ⟨rfl, rfl, rfl⟩

theorem keeps_observeInboundPong (a : EndpointActor) (payload : ServerPayload) :
    a.Keeps (a.observeInboundPong payload).2 := by
  unfold observeInboundPong
  split
  · split <;> exact ⟨rfl, rfl, rfl⟩
  · exact Keeps.refl a

theorem keeps_handleRuntimeMessage (a : EndpointActor) (env : ServerEnvelope) :
    a.Keeps (a.handleRuntimeMessage env) := by
  have hpong := a.keeps_observeInboundPong env.payload
  unfold handleRuntimeMessage
  split
  · rename_i b hres
    rw [hres] at hpong
    exact hpong
  · rename_i b hres
    rw [hres] at hpong
    have hreset : b.Keeps { b with heartbeat := b.heartbeat.reset } := ⟨rfl, rfl, rfl⟩
    have huntracked := (hpong.trans hreset).trans (keeps_untrackTerminated _ env.payload)
    simp only
    split
    · refine huntracked.trans ?_
      unfold handleStreamOverflow
      split <;> exact ⟨rfl, rfl, rfl⟩
    · exact huntracked.trans (sameRetry_emit _ _).keeps

theorem keeps_readOther (a : EndpointActor) (env : ServerEnvelope) (expectTerminated : Bool) :
    a.Keeps (a.readOther env expectTerminated) := by
  unfold readOther
  split
  · exact a.keeps_observeInboundPong env.payload
  · split
    · exact Keeps.refl a
    · exact (a.keeps_untrackTerminated env.payload).trans (sameRetry_emit _ _).keeps
  · exact (a.keeps_untrackTerminated env.payload).trans (sameRetry_emit _ _).keeps

end Reading

end EndpointActor

end Client
end Rttx
