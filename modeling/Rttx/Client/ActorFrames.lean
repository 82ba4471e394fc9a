import Rttx.Client.EndpointActor

/-!
# What the handlers of an actor have in common

Whatever command or response an actor handles, it keeps the commands that are
queued, hands no envelope on to the window, and records it when it drops the
connection.  Only reading an envelope in the main loop or in a read loop hands
one on, and only a write records a request.

**Results.**
* `handled_handleCommand`, `handled_finish`: every command and every response is
  handled by a sequence of a few kinds of changes.
* `handled_writeFailed`, `handled_handshakeTimedOut`: so are the failures.
* `Handled.continues`: such a sequence goes on with the commands and the connection.
-/

namespace Rttx
namespace Client

open Kernel Server

/-- Whether the event hands on an envelope. -/
def ActorEvent.isMessage : ActorEvent → Bool
  | workspaceMessage _ _ => true
  | _ => false

/-- Whether the record is of the actor's own doings: an event that hands on no
envelope, or the end of a connection. -/
def ActorRecord.isReport : ActorRecord → Bool
  | emitted event => !event.isMessage
  | dropped event => !event.isMessage
  | closed => true
  | _ => false

namespace EndpointActor

section Frames

variable {a b c : EndpointActor}

/-- Handling a command or a response: the actor goes on with the commands it
has, hands on no envelope, and records when it drops the connection. -/
def Continues (a b : EndpointActor) : Prop :=
  (∀ command ∈ a.commands.items, command ∈ b.commands.items) ∧
    ∃ entries, b.log = a.log ++ entries ∧ (∀ entry ∈ entries, entry.isReport = true) ∧
      (.closed ∈ entries ∨
        ((a.link = .split → b.link = .split) ∧ (b.peerClosed = true → a.peerClosed = true)))

/-- A step that records nothing. -/
theorem Continues.of_log
    (hcommands : ∀ command ∈ a.commands.items, command ∈ b.commands.items)
    (hlog : b.log = a.log)
    (hlink : a.link = .split → b.link = .split)
    (hpeer : b.peerClosed = true → a.peerClosed = true) :
    a.Continues b :=
  ⟨hcommands, [], by rw [hlog, List.append_nil], by simp, Or.inr ⟨hlink, hpeer⟩⟩

theorem Continues.refl (a : EndpointActor) : a.Continues a :=
  Continues.of_log (fun _ => id) rfl id id

theorem Continues.trans
    (h : a.Continues b)
    (h' : b.Continues c) :
    a.Continues c := by
  obtain ⟨hcommands, entries, hlog, hreports, hlink⟩ := h
  obtain ⟨hcommands', entries', hlog', hreports', hlink'⟩ := h'
  refine ⟨fun command hc => hcommands' command (hcommands command hc), entries ++ entries', ?_,
    ?_, ?_⟩
  · rw [hlog', hlog, List.append_assoc]
  · intro entry hentry
    rcases List.mem_append.mp hentry with hold | hnew
    · exact hreports entry hold
    · exact hreports' entry hnew
  · rcases hlink with hclosed | ⟨hsplit, hpeer⟩
    · exact Or.inl (List.mem_append_left _ hclosed)
    · rcases hlink' with hclosed | ⟨hsplit', hpeer'⟩
      · exact Or.inl (List.mem_append_right _ hclosed)
      · exact Or.inr ⟨fun h => hsplit' (hsplit h), fun h => hpeer (hpeer' h)⟩

/-- Only the event channel and the record differ. -/
theorem emit_fields (a : EndpointActor) (event : ActorEvent) :
    ∃ events, a.emit event = { a with events := events, log := (a.emit event).log } ∧
      ((a.emit event).log = a.log ++ [.emitted event] ∨
        (a.emit event).log = a.log ++ [.dropped event]) := by
  unfold emit
  split
  · exact ⟨_, rfl, Or.inl rfl⟩
  · exact ⟨_, rfl, Or.inr rfl⟩

theorem link_emit (a : EndpointActor) (event : ActorEvent) : (a.emit event).link = a.link := by
  obtain ⟨events, heq, _⟩ := a.emit_fields event
  rw [heq]

/-- One of the things that handlers do: they report to the window, queue a command, drop
or make a connection, and keep books. -/
inductive Change (a : EndpointActor) : EndpointActor → Prop
  | emit {event : ActorEvent} (report : event.isMessage = false) : Change a (a.emit event)
  | trySelf (command : EndpointCommand) : Change a (a.trySelf command)
  | closeLink : Change a a.closeLink
  | resetHeartbeat : Change a { a with heartbeat := a.heartbeat.reset }
  | connect (free : a.link = .none) :
      Change a { a with link := .unsplit, peerClosed := false, idGen := 1 }
  | splitConnection : Change a a.splitConnection
  | stop : Change a { a with commands := a.commands.close, phase := .stopped }
  | quiet {b : EndpointActor} (commands : b.commands = a.commands) (log : b.log = a.log)
      (link : b.link = a.link) (peerClosed : b.peerClosed = a.peerClosed)
      (heartbeat : b.heartbeat = a.heartbeat) : Change a b

/-- A sequence of such changes. -/
abbrev Handled : EndpointActor → EndpointActor → Prop :=
  Relation.ReflTransGen Change

theorem Handled.quiet
    (hcommands : b.commands = a.commands)
    (hlog : b.log = a.log)
    (hlink : b.link = a.link)
    (hpeer : b.peerClosed = a.peerClosed)
    (hheartbeat : b.heartbeat = a.heartbeat) :
    a.Handled b :=
  .single (.quiet hcommands hlog hlink hpeer hheartbeat)

theorem handled_emit (a : EndpointActor) {event : ActorEvent}
    (h : event.isMessage = false) :
    a.Handled (a.emit event) :=
  .single (.emit h)

theorem handled_trySelf (a : EndpointActor) (command : EndpointCommand) :
    a.Handled (a.trySelf command) :=
  .single (.trySelf command)

theorem handled_toIdle (a : EndpointActor) : a.Handled a.toIdle :=
  .quiet rfl rfl rfl rfl rfl

theorem handled_closeLink (a : EndpointActor) : a.Handled a.closeLink :=
  .single .closeLink

theorem handled_splitConnection (a : EndpointActor) : a.Handled a.splitConnection :=
  .single .splitConnection

theorem handled_emitStatus (a : EndpointActor) (workspaceId : String)
    (status : ConnectionStatus) :
    a.Handled (a.emitStatus workspaceId status) :=
  a.handled_emit rfl

theorem handled_emitError (a : EndpointActor) (workspaceId : String)
    (operation : ManagerOperation) (problem : ConnectionProblem) (detail : String) :
    a.Handled (a.emitError workspaceId operation problem detail) :=
  (a.handled_emit rfl).trans (handled_emitStatus _ _ _)

theorem handled_foldl {α : Type} (f : EndpointActor → α → EndpointActor)
    (hf : ∀ (a : EndpointActor) (x : α), a.Handled (f a x))
    (items : List α)
    (a : EndpointActor) :
    a.Handled (items.foldl f a) := by
  induction items generalizing a with
  | nil => exact .refl
  | cons x rest ih => exact (hf a x).trans (ih (f a x))

theorem handled_scheduleReconnect (a : EndpointActor) (delaySecs : Nat) :
    a.Handled (a.scheduleReconnect delaySecs) := by
  simp only [scheduleReconnect]
  split
  · have hattempt : a.Handled { a with reconnectAttempt := a.nextReconnectAttempt } :=
      Handled.quiet rfl rfl rfl rfl rfl
    exact hattempt.trans (handled_foldl _ (fun a id => a.handled_emitStatus id _) _ _)
  · exact .quiet rfl rfl rfl rfl rfl

theorem handled_handleDisconnect (a : EndpointActor) : a.Handled a.handleDisconnect := by
  have hreset : a.Handled
      { a.closeLink with heartbeat := a.closeLink.heartbeat.reset } :=
    a.handled_closeLink.trans (.single .resetHeartbeat)
  simp only [handleDisconnect]
  split
  · exact hreset
  · refine (hreset.trans (handled_foldl _ ?_ _ _)).trans (handled_scheduleReconnect _ _)
    intro a id
    exact (a.handled_emitStatus id _).trans (handled_emitStatus _ id _)

theorem handled_handleCommandError (a : EndpointActor) (workspaceId : String)
    (operation : ManagerOperation) (error : DaemonError) :
    a.Handled (a.handleCommandError workspaceId operation error) := by
  simp only [handleCommandError]
  split
  · exact a.handled_emitStatus workspaceId _
  · have herror := a.handled_emitError workspaceId operation
      (classifyConnectionProblem error) error.text
    split
    · exact herror.trans (handled_handleDisconnect _)
    · exact herror

theorem handled_ensureConnected (a : EndpointActor) (workspaceId : String)
    (outcome : Except DaemonError Unit) :
    a.Handled (a.ensureConnected workspaceId outcome).2 := by
  have hstart := a.handled_emitStatus workspaceId a.startingStatus
  unfold ensureConnected
  split
  · exact .refl
  · rename_i hnone
    split
    · exact .refl
    · cases outcome with
      | ok _ =>
          have hfree : (a.emitStatus workspaceId a.startingStatus).link = .none := by
            rw [emitStatus, link_emit]
            exact not_not.mp hnone
          exact (hstart.trans (.single (.connect hfree))).trans (handled_emitStatus _ workspaceId _)
      | error error =>
          refine hstart.trans ?_
          simp only [connectFailed]
          split
          · exact ((handled_emitStatus _ workspaceId _).trans
              (handled_emitStatus _ workspaceId _)).trans (handled_scheduleReconnect _ _)
          · exact handled_emitStatus _ workspaceId _

theorem handled_viaActiveChannel (a : EndpointActor) (command : ClientCommand)
    (awaiting : Awaiting) :
    a.Handled (a.viaActiveChannel command awaiting) := by
  unfold viaActiveChannel
  split <;> exact .quiet rfl rfl rfl rfl rfl

theorem handled_withConnection (a : EndpointActor) (workspaceId : String)
    (operation : ManagerOperation) (outcome : Except DaemonError Unit)
    {next : EndpointActor → EndpointActor}
    (h : ∀ b : EndpointActor, b.Handled (next b)) :
    a.Handled (a.withConnection workspaceId operation outcome next) := by
  have hconnected := a.handled_ensureConnected workspaceId outcome
  unfold withConnection
  split
  · rename_i b hres
    rw [hres] at hconnected
    exact hconnected.trans (h b)
  · rename_i problem b hres
    rw [hres] at hconnected
    split
    · exact hconnected.trans (handled_toIdle b)
    · exact (hconnected.trans (b.handled_emitError workspaceId operation _ _)).trans
        (handled_toIdle _)

theorem handled_sendAndRead (a : EndpointActor) (command : ClientCommand)
    (expectTerminated : Bool) (awaiting : Awaiting) :
    a.Handled (a.sendAndRead command expectTerminated awaiting) :=
  Handled.quiet rfl rfl rfl rfl rfl

theorem handled_post (a : EndpointActor) (command : ClientCommand) (workspaceId : String)
    (operation : ManagerOperation) :
    a.Handled (a.post command workspaceId operation) := by
  unfold post
  split
  · exact .quiet rfl rfl rfl rfl rfl
  · exact a.handled_toIdle

theorem handled_opened (a : EndpointActor) (request : OpenRequest) (runtimeId : String)
    (snapshot : WorkspaceSnapshot) :
    a.Handled (a.opened request runtimeId snapshot) := by
  have htracked : ∀ (b : EndpointActor) (tracked : HashMap String String),
      b.Handled { b with trackedWorkspaces := tracked } :=
    fun b tracked => Handled.quiet rfl rfl rfl rfl rfl
  have hreport : (ActorEvent.workspaceOpened request.workspaceId runtimeId snapshot).isMessage =
      false := rfl
  have hopened := (a.handled_splitConnection.trans (htracked _
    (a.splitConnection.trackedWorkspaces.insert request.workspaceId runtimeId))).trans
      (handled_emit _ hreport)
  simp only [opened]
  split
  · split
    · exact (hopened.trans (handled_trySelf _ _)).trans (handled_toIdle _)
    · exact (hopened.trans (handled_emitStatus _ _ _)).trans (handled_toIdle _)
  · exact (hopened.trans (handled_emitStatus _ _ _)).trans (handled_toIdle _)

theorem handled_reattachFailed (a : EndpointActor) (request : OpenRequest)
    (error : DaemonError) :
    a.Handled (a.reattachFailed request error) := by
  have herror := (a.handled_handleCommandError request.workspaceId .openWorkspace error).trans
    (handled_toIdle _)
  unfold reattachFailed
  split
  · exact herror
  · exact herror
  · exact herror
  · split
    · exact (a.handled_emitStatus _ _).trans (handled_toIdle _)
    · exact handled_viaActiveChannel _ _ _

theorem handled_report (a : EndpointActor) (workspaceId : String)
    (operation : ManagerOperation) (error : DaemonError) :
    a.Handled (a.handleCommandError workspaceId operation error).toIdle :=
  (a.handled_handleCommandError workspaceId operation error).trans (handled_toIdle _)

theorem handled_forget (a : EndpointActor) (workspaceId : String) :
    a.Handled (a.forget workspaceId) :=
  Handled.quiet rfl rfl rfl rfl rfl

/-- After the connection was dropped. -/
theorem handled_handshakeTimedOut (a : EndpointActor) (workspaceId : String) :
    a.closeLink.Handled (a.handshakeTimedOut workspaceId) :=
  ((((handled_emitStatus _ _ _).trans (handled_emitStatus _ _ _)).trans
    (handled_scheduleReconnect _ _)).trans (handled_emitError _ _ _ _ _)).trans
      (handled_toIdle _)

end Frames

section Handlers

variable [UuidText]

theorem handled_withUuid (a : EndpointActor) (workspaceId : String)
    (operation : ManagerOperation) (value : String) {next : Uuid → EndpointActor}
    (h : ∀ id, a.Handled (next id)) :
    a.Handled (a.withUuid workspaceId operation value next) := by
  unfold withUuid
  split
  · exact h _
  · exact (a.handled_emit rfl).trans (handled_toIdle _)

theorem handled_resolveAndAttachRuntime (a : EndpointActor) (request : OpenRequest) :
    a.Handled (a.resolveAndAttachRuntime request) := by
  unfold resolveAndAttachRuntime
  split
  · exact handled_viaActiveChannel _ _ _
  · split
    · exact handled_viaActiveChannel _ _ _
    · split <;> exact handled_viaActiveChannel _ _ _

theorem handled_reattachNext (a : EndpointActor) (anyTransientFailure : Bool)
    (savedAttempt : Nat) (rest : List (String × String)) :
    a.Handled (a.reattachNext anyTransientFailure savedAttempt rest) := by
  have hattempt : ∀ attempt, a.Handled { a with reconnectAttempt := attempt } :=
    fun attempt => Handled.quiet rfl rfl rfl rfl rfl
  induction rest with
  | nil =>
      unfold reattachNext
      split
      · exact ((hattempt _).trans (handled_handleDisconnect _)).trans (handled_toIdle _)
      · exact (hattempt _).trans (handled_toIdle _)
  | cons entry rest ih =>
      unfold reattachNext
      split
      · exact ih
      · exact handled_viaActiveChannel _ _ _

theorem handled_reconnect (a : EndpointActor) (outcome : Except DaemonError Unit) :
    a.Handled (a.reconnect outcome) := by
  have hattempt : ∀ (b : EndpointActor) (attempt : Nat),
      b.Handled { b with reconnectAttempt := attempt } :=
    fun b attempt => Handled.quiet rfl rfl rfl rfl rfl
  unfold reconnect
  split
  · exact a.handled_toIdle
  · split
    · exact a.handled_toIdle
    · rename_i primary rest hentries
      have hconnected := (hattempt a 0).trans
        (handled_ensureConnected { a with reconnectAttempt := 0 } primary.1 outcome)
      simp only
      split
      · rename_i problem b hres
        rw [hres] at hconnected
        have hmax := hconnected.trans (hattempt b (max b.reconnectAttempt a.reconnectAttempt))
        split
        · exact hmax.trans (handled_toIdle _)
        · exact (hmax.trans (handled_scheduleReconnect _ _)).trans (handled_toIdle _)
      · rename_i b hres
        rw [hres] at hconnected
        exact ((hconnected.trans (hattempt b _)).trans (handled_splitConnection _)).trans
          (handled_reattachNext _ _ _ _)

/-- Every command is handled so. -/
theorem handled_handleCommand (a : EndpointActor) (outcome : Except DaemonError Unit)
    (command : EndpointCommand) :
    a.Handled (a.handleCommand outcome command) := by
  cases command with
  | openWorkspace request =>
      exact (a.handled_emitStatus request.workspaceId _).trans
        (handled_withConnection _ _ _ _ (fun b => b.handled_resolveAndAttachRuntime request))
  | createPane workspaceId runtimeId layoutTerminalUuid spec =>
      exact handled_withConnection _ _ _ _ (fun b => b.handled_withUuid _ _ _
        (fun _ => b.handled_sendAndRead _ _ _))
  | splitPane workspaceId runtimeId targetPaneId layoutTerminalUuid axis ratio spec =>
      exact handled_withConnection _ _ _ _ (fun b => b.handled_withUuid _ _ _
        (fun _ => b.handled_withUuid _ _ _ (fun _ => b.handled_sendAndRead _ _ _)))
  | closePane workspaceId runtimeId layoutTerminalUuid runtimePaneId =>
      exact handled_withConnection _ _ _ _ (fun b => b.handled_withUuid _ _ _
        (fun _ => b.handled_withUuid _ _ _ (fun _ => b.handled_sendAndRead _ _ _)))
  | detachWorkspace workspaceId runtimeId =>
      exact handled_withUuid _ _ _ _ (fun _ => handled_withConnection _ _ _ _
        (fun b => b.handled_sendAndRead _ _ _))
  | terminateWorkspace workspaceId runtimeId =>
      exact handled_withUuid _ _ _ _ (fun _ => handled_withConnection _ _ _ _
        (fun b => b.handled_sendAndRead _ _ _))
  | sendInput workspaceId runtimeId runtimePaneId data =>
      exact handled_withUuid _ _ _ _ (fun _ => handled_withUuid _ _ _ _
        (fun _ => a.handled_post _ _ _))
  | resizePane workspaceId runtimeId runtimePaneId cols rows =>
      exact handled_withUuid _ _ _ _ (fun _ => handled_withUuid _ _ _ _
        (fun _ => a.handled_post _ _ _))
  | refreshInventory =>
      exact handled_withConnection _ _ _ _ (fun b => b.handled_viaActiveChannel _ _)
  | reconnect => exact a.handled_reconnect outcome
  | forgetWorkspace workspaceId => exact Handled.quiet rfl rfl rfl rfl rfl
  | renameWorkspace workspaceId runtimeId name automatic =>
      refine handled_withUuid _ _ _ _ (fun _ => ?_)
      have hconnected := a.handled_ensureConnected workspaceId outcome
      split
      · rename_i problem b hres
        rw [hres] at hconnected
        exact hconnected.trans b.handled_toIdle
      · rename_i b hres
        rw [hres] at hconnected
        exact hconnected.trans (Handled.quiet rfl rfl rfl rfl rfl)
  | setPaneNoPersist workspaceId runtimeId runtimePaneId noPersist =>
      refine handled_withUuid _ _ _ _ (fun _ => handled_withUuid _ _ _ _ (fun _ => ?_))
      have hconnected := a.handled_ensureConnected workspaceId outcome
      split
      · rename_i problem b hres
        rw [hres] at hconnected
        exact hconnected.trans b.handled_toIdle
      · rename_i b hres
        rw [hres] at hconnected
        exact hconnected.trans (Handled.quiet rfl rfl rfl rfl rfl)
  | resyncWorkspace workspaceId runtimeId =>
      simp only [handleCommand]
      split
      · exact a.handled_toIdle
      · exact a.handled_sendAndRead _ _ _
  | shutdown =>
      exact a.handled_closeLink.trans (.single .stop)

/-- Every response is handled so. -/
theorem handled_finish (a : EndpointActor) (result : Except DaemonError ServerPayload)
    (awaiting : Awaiting) :
    a.Handled (a.finish result awaiting) := by
  have hidle : ∀ {event : ActorEvent}, event.isMessage = false →
      a.Handled (a.emit event).toIdle :=
    fun h => (a.handled_emit h).trans (handled_toIdle _)
  cases awaiting with
  | openTakeover request runtimeId runtimeUuid =>
      simp only [finish]
      split
      · exact (a.handled_emit rfl).trans (handled_viaActiveChannel _ _ _)
      · exact a.handled_report _ _ _
  | openReattach request runtimeId =>
      simp only [finish]
      split
      · exact a.handled_opened _ _ _
      · exact a.handled_reattachFailed _ _
  | openCreate request =>
      simp only [finish]
      split
      · exact a.handled_withUuid _ _ _ (fun _ => a.handled_viaActiveChannel _ _)
      · exact a.handled_report _ _ _
  | openAttach request runtimeId =>
      simp only [finish]
      split
      · exact a.handled_opened _ _ _
      · exact a.handled_report _ _ _
  | createPane workspaceId layoutTerminalUuid runtimeId =>
      simp only [finish]
      split
      · exact ((a.handled_emit rfl).trans (handled_emitStatus _ _ _)).trans
          (handled_toIdle _)
      · exact a.handled_report _ _ _
  | splitPane workspaceId layoutTerminalUuid runtimeId =>
      simp only [finish]
      split
      · exact ((a.handled_emit rfl).trans (handled_emitStatus _ _ _)).trans
          (handled_toIdle _)
      · exact a.handled_report _ _ _
  | closePane workspaceId layoutTerminalUuid runtimeId runtimePaneId =>
      simp only [finish]
      split
      · exact hidle rfl
      · exact hidle rfl
      · exact a.handled_report _ _ _
  | detachWorkspace workspaceId runtimeId =>
      simp only [finish]
      split
      · exact ((a.handled_forget _).trans (handled_emit _ rfl)).trans (handled_toIdle _)
      · exact ((a.handled_forget _).trans (handled_emit _ rfl)).trans (handled_toIdle _)
      · exact a.handled_report _ _ _
  | terminateWorkspace workspaceId runtimeId =>
      simp only [finish]
      split
      · exact ((a.handled_forget _).trans (handled_emit _ rfl)).trans (handled_toIdle _)
      · exact a.handled_report _ _ _
  | listWorkspaces pseudoWorkspace =>
      simp only [finish]
      split
      · exact hidle rfl
      · exact a.handled_report _ _ _
  | resyncWorkspace workspaceId runtimeId =>
      simp only [finish]
      split
      · exact hidle rfl
      · exact a.handled_toIdle
  | reattach workspaceId runtimeId rest anyTransientFailure savedAttempt =>
      simp only [finish]
      split
      · exact ((a.handled_emit rfl).trans (handled_emitStatus _ _ _)).trans
          (handled_reattachNext _ _ _ _)
      · split
        · exact (a.handled_emitStatus _ _).trans (handled_reattachNext _ _ _ _)
        · split
          · exact a.handled_reattachNext _ _ _
          · exact (a.handled_emitError _ _ _ _).trans (handled_reattachNext _ _ _ _)

theorem handled_writeFailed (a : EndpointActor) (error : DaemonError) (after : AfterSend) :
    a.Handled (a.writeFailed error after) := by
  cases after with
  | ignore => exact a.handled_toIdle
  | report workspaceId operation => exact a.handled_report _ _ _
  | heartbeat => exact a.handled_handleDisconnect.trans (handled_toIdle _)
  | await requestId expectTerminated awaiting => exact a.handled_finish (.error error) awaiting

end Handlers

section Continuation

variable {a b : EndpointActor}

theorem continues_emit (a : EndpointActor) {event : ActorEvent}
    (h : event.isMessage = false) :
    a.Continues (a.emit event) := by
  obtain ⟨events, heq, hlog⟩ := a.emit_fields event
  have hlink := a.link_emit event
  have hpeer : (a.emit event).peerClosed = a.peerClosed := by rw [heq]
  have hcommands : (a.emit event).commands = a.commands := by rw [heq]
  refine ⟨by rw [hcommands]; exact fun _ => id, ?_⟩
  rcases hlog with hlog | hlog
  · exact ⟨_, hlog, by simp [ActorRecord.isReport, h], Or.inr ⟨by rw [hlink]; exact id,
      by rw [hpeer]; exact id⟩⟩
  · exact ⟨_, hlog, by simp [ActorRecord.isReport, h], Or.inr ⟨by rw [hlink]; exact id,
      by rw [hpeer]; exact id⟩⟩

/-- **What handlers do, they go on with**: `Continues` holds of every change. -/
theorem Handled.continues
    (h : a.Handled b) :
    a.Continues b := by
  induction h with
  | refl => exact Continues.refl a
  | @tail c d _ hchange ih =>
      refine ih.trans ?_
      cases hchange with
      | emit report => exact c.continues_emit report
      | trySelf command =>
          exact Continues.of_log (fun _ hold => Mailbox.mem_trySend hold command) rfl id id
      | closeLink =>
          exact ⟨fun _ => id, [.closed], rfl, by simp [ActorRecord.isReport],
            Or.inl (List.mem_singleton_self _)⟩
      | resetHeartbeat => exact Continues.of_log (fun _ => id) rfl id id
      | connect free =>
          refine Continues.of_log (fun _ => id) rfl (fun hsplit => ?_) nofun
          rw [free] at hsplit
          cases hsplit
      | splitConnection =>
          unfold splitConnection
          split
          · exact Continues.of_log (fun _ => id) rfl (fun _ => rfl) id
          · exact Continues.refl c
      | stop => exact Continues.of_log (fun _ => id) rfl id id
      | quiet commands log link peerClosed heartbeat =>
          refine Continues.of_log ?_ log (fun hsplit => link.trans hsplit)
            (fun hclosed => peerClosed ▸ hclosed)
          rw [commands]
          exact fun _ => id

theorem continues_trySelf (a : EndpointActor) (command : EndpointCommand) :
    a.Continues (a.trySelf command) :=
  (a.handled_trySelf command).continues

theorem continues_toIdle (a : EndpointActor) : a.Continues a.toIdle :=
  a.handled_toIdle.continues

theorem continues_closeLink (a : EndpointActor) : a.Continues a.closeLink :=
  a.handled_closeLink.continues

theorem continues_handleDisconnect (a : EndpointActor) : a.Continues a.handleDisconnect :=
  a.handled_handleDisconnect.continues

/-- After the connection was dropped. -/
theorem continues_handshakeTimedOut (a : EndpointActor) (workspaceId : String) :
    a.closeLink.Continues (a.handshakeTimedOut workspaceId) :=
  (a.handled_handshakeTimedOut workspaceId).continues

theorem continues_handleHeartbeatTick (a : EndpointActor) :
    a.Continues a.handleHeartbeatTick := by
  simp only [handleHeartbeatTick]
  split
  · exact Continues.of_log (fun _ => id) rfl id id
  · have hticked : a.Continues { a with heartbeat := a.heartbeat.onTick.2 } :=
      Continues.of_log (fun _ => id) rfl id id
    exact (hticked.trans (continues_handleDisconnect _)).trans (continues_toIdle _)

variable [UuidText]

/-- Every command is handled so. -/
theorem continues_handleCommand (a : EndpointActor) (outcome : Except DaemonError Unit)
    (command : EndpointCommand) :
    a.Continues (a.handleCommand outcome command) :=
  (a.handled_handleCommand outcome command).continues

/-- Every response is handled so. -/
theorem continues_finish (a : EndpointActor) (result : Except DaemonError ServerPayload)
    (awaiting : Awaiting) :
    a.Continues (a.finish result awaiting) :=
  (a.handled_finish result awaiting).continues

theorem continues_writeFailed (a : EndpointActor) (error : DaemonError) (after : AfterSend) :
    a.Continues (a.writeFailed error after) :=
  (a.handled_writeFailed error after).continues

end Continuation

end EndpointActor

end Client
end Rttx
