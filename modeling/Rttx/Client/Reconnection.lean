import Rttx.Client.ActorFrames

/-!
# Reconnects that are under way

While the attempt counter of an actor is positive, no command but a reconnect
makes it connect: the others take a reconnect to be under way.  A reconnect
serves the tracked workspaces, and does nothing when there are none.  A timer
that fires sends the reconnect without waiting.

**Results.**
* `reconnect_never_stalls`: a reconnect is under way in all runs in which no
  first connection fails, the tracked workspaces do not run out meanwhile, and
  the command channel has room when a timer fires.
* `stalls_of_not_retryable`: any other step leaves the actor without one.
* `reconnect_stalls`: after the connection of the first workspace failed, the
  actor never connects again.
-/

namespace Rttx
namespace Client

open Kernel Server

namespace EndpointActor

section Due

/-- More attempts than this in a row, and the actor gives up. -/
def circuitBreakerLimit (a : EndpointActor) : Nat :=
  min (a.reconnectDelaySecs + 2) (2 ^ 32 - 1)

/-- The actor runs without a connection, and its attempt is positive and within
the limit. -/
def AwaitsReconnect (a : EndpointActor) : Prop :=
  a.phase ≠ .stopped ∧ a.link = .none ∧ 0 < a.reconnectAttempt ∧
    a.reconnectAttempt ≤ a.circuitBreakerLimit

instance (a : EndpointActor) : Decidable a.AwaitsReconnect :=
  inferInstanceAs (Decidable (_ ∧ _))

/-- A timer is running for a reconnect, or one is in the command channel. -/
def ReconnectScheduled (a : EndpointActor) : Prop :=
  a.timers ≠ [] ∨ .reconnect ∈ a.commands.items

instance (a : EndpointActor) : Decidable a.ReconnectScheduled :=
  inferInstanceAs (Decidable (_ ∨ _))

/-- The first attempt is within every limit. -/
theorem one_le_circuitBreakerLimit (a : EndpointActor) : 1 ≤ a.circuitBreakerLimit := by
  rw [circuitBreakerLimit]
  omega

variable [UuidText]

/-- A reconnect that is taken now gets as far as connecting: if that succeeds,
there is a connection. -/
def TriesToConnect (a : EndpointActor) : Prop :=
  (a.reconnect (.ok ())).link ≠ .none

/-- An actor that awaits a reconnect has one scheduled that tries to connect. -/
def NeverStalls (a : EndpointActor) : Prop :=
  a.AwaitsReconnect → a.ReconnectScheduled ∧ a.TriesToConnect

end Due

section Condition

variable [UuidText]

def readable (text : String) : Bool :=
  (UuidText.parseStr text).isOk

/-- Whether the command is one that a connection is made for. -/
def connectsFor : EndpointCommand → Bool
  | .openWorkspace _ | .createPane _ _ _ _ | .splitPane _ _ _ _ _ _ _ | .closePane _ _ _ _
  | .refreshInventory => true
  | .detachWorkspace _ runtimeId | .terminateWorkspace _ runtimeId
  | .renameWorkspace _ runtimeId _ _ => readable runtimeId
  | .setPaneNoPersist _ runtimeId runtimePaneId _ => readable runtimeId && readable runtimePaneId
  | _ => false

def transient : Except DaemonError Unit → Bool
  | .ok _ => false
  | .error error => (classifyConnectionProblem error).isTransient

/-- A connection made for a command fails for a while only while workspaces are
tracked, and the last one is not forgotten while a reconnect is awaited. -/
def retryableCommand (a : EndpointActor) (outcome : Except DaemonError Unit) :
    EndpointCommand → Bool
  | .forgetWorkspace workspaceId =>
      !(a.AwaitsReconnect && (a.trackedWorkspaces.erase workspaceId).keys = [])
  | command =>
      !(a.link = .none && a.reconnectAttempt = 0 && a.trackedWorkspaces.keys = [] &&
        connectsFor command && transient outcome)

/-- The result a step brings to the request under way. -/
def result? (a : EndpointActor) :
    ActorStep → Option (Except DaemonError ServerPayload × Awaiting)
  | .receive env =>
      match a.phase with
      | .receiving requestId _ awaiting =>
          if env.requestId = requestId.value then some (.ok env.payload, awaiting) else none
      | _ => none
  | .readFails error =>
      match a.phase with
      | .receiving _ _ awaiting => some (.error error, awaiting)
      | _ => none
  | .endOfStream =>
      match a.phase with
      | .receiving _ _ awaiting => some (.error .disconnected, awaiting)
      | _ => none
  | .writeFails error =>
      match a.phase with
      | .sending _ _ (.await _ _ awaiting) => some (.error error, awaiting)
      | _ => none
  | _ => none

/-- The result ends a reconnect in which an attach failed for a while. -/
def failsReconnect (result : Except DaemonError ServerPayload) : Awaiting → Bool
  | .reattach _ _ rest anyTransientFailure _ =>
      (anyTransientFailure || (classifyConnectionProblem (attachFailure result)).isTransient) &&
        rest.all fun e => !readable e.2
  | _ => false

/-- Whether a reconnect stays under way: a connection or the opening of a
workspace fails only while workspaces are tracked, as does a reconnect with a
positive attempt within the limit; the last workspace is not forgotten while a
reconnect is awaited; and a timer fires into a channel with room then, unless
another reconnect is scheduled. -/
def retryable (a : EndpointActor) (step : ActorStep) : Bool :=
  match step with
  | .take outcome =>
      match a.phase, a.commands.receive with
      | .idle _, some (command, _) => a.retryableCommand outcome command
      | _, _ => true
  | .handshakeTimeout =>
      (openingWorkspace? a.phase).isNone || a.trackedWorkspaces.keys ≠ []
  | .timerFires delaySecs =>
      !a.AwaitsReconnect || a.commands.accepts || a.timers.erase delaySecs ≠ [] ||
        .reconnect ∈ a.commands.items
  | step =>
      match a.result? step with
      | some (result, awaiting) =>
          !(failsReconnect result awaiting && a.trackedWorkspaces.keys = [] &&
            0 < a.reconnectAttempt && a.reconnectAttempt ≤ a.circuitBreakerLimit)
      | none => true

end Condition

section Frames

variable {a b c : EndpointActor}

/-- What decides over reconnects stays, and no command is lost. -/
structure SameRetry (a b : EndpointActor) : Prop where
  link : b.link = a.link
  attempt : b.reconnectAttempt = a.reconnectAttempt
  delaySecs : b.reconnectDelaySecs = a.reconnectDelaySecs
  tracked : b.trackedWorkspaces = a.trackedWorkspaces
  timers : b.timers = a.timers
  commands : ∀ command ∈ a.commands.items, command ∈ b.commands.items

theorem SameRetry.refl (a : EndpointActor) : a.SameRetry a :=
  ⟨rfl, rfl, rfl, rfl, rfl, fun _ => id⟩

theorem SameRetry.trans
    (h : a.SameRetry b)
    (h' : b.SameRetry c) :
    a.SameRetry c :=
  ⟨h'.link.trans h.link, h'.attempt.trans h.attempt, h'.delaySecs.trans h.delaySecs,
    h'.tracked.trans h.tracked, h'.timers.trans h.timers,
    fun command hc => h'.commands command (h.commands command hc)⟩

theorem sameRetry_emit (a : EndpointActor) (event : ActorEvent) : a.SameRetry (a.emit event) := by
  obtain ⟨events, heq, _⟩ := a.emit_fields event
  rw [heq]
  exact ⟨rfl, rfl, rfl, rfl, rfl, fun _ => id⟩

theorem sameRetry_emitStatus (a : EndpointActor) (workspaceId : String)
    (status : ConnectionStatus) :
    a.SameRetry (a.emitStatus workspaceId status) :=
  a.sameRetry_emit _

theorem sameRetry_emitError (a : EndpointActor) (workspaceId : String)
    (operation : ManagerOperation) (problem : ConnectionProblem) (detail : String) :
    a.SameRetry (a.emitError workspaceId operation problem detail) :=
  (a.sameRetry_emit _).trans (sameRetry_emitStatus _ _ _)

theorem sameRetry_trySelf (a : EndpointActor) (command : EndpointCommand) :
    a.SameRetry (a.trySelf command) :=
  ⟨rfl, rfl, rfl, rfl, rfl, fun _ h => Mailbox.mem_trySend h command⟩

theorem sameRetry_foldl {α : Type} {f : EndpointActor → α → EndpointActor}
    (hf : ∀ (a : EndpointActor) (x : α), a.SameRetry (f a x))
    (items : List α)
    (a : EndpointActor) :
    a.SameRetry (items.foldl f a) := by
  induction items generalizing a with
  | nil => exact SameRetry.refl a
  | cons x rest ih => exact (hf a x).trans (ih (f a x))

end Frames

section Retrying

variable {a b : EndpointActor}

/-- A connection ends the attempts, and a positive attempt within the limit has
a reconnect scheduled and workspaces to serve. -/
structure Retries (a : EndpointActor) : Prop where
  connected : a.link ≠ .none → a.reconnectAttempt = 0
  scheduled : a.link = .none → 0 < a.reconnectAttempt →
    a.reconnectAttempt ≤ a.circuitBreakerLimit →
      a.ReconnectScheduled ∧ a.trackedWorkspaces.keys ≠ []

theorem Retries.same
    (ha : a.Retries)
    (h : a.SameRetry b) :
    b.Retries := by
  have hlimit : b.circuitBreakerLimit = a.circuitBreakerLimit := by
    rw [circuitBreakerLimit, circuitBreakerLimit, h.delaySecs]
  constructor
  · rw [h.link, h.attempt]
    exact ha.connected
  · rw [h.link, h.attempt, h.tracked, hlimit]
    intro hlink hpos hle
    obtain ⟨hscheduled, htracked⟩ := ha.scheduled hlink hpos hle
    refine ⟨?_, htracked⟩
    rcases hscheduled with htimers | hqueued
    · exact Or.inl (by rw [h.timers]; exact htimers)
    · exact Or.inr (h.commands _ hqueued)

/-- What the end of a connection leaves an actor to go on with. -/
def Resumes (a : EndpointActor) : Prop :=
  a.reconnectAttempt = 0 ∨ a.circuitBreakerLimit < a.reconnectAttempt ∨
    a.trackedWorkspaces.keys ≠ []

theorem Retries.resumes
    (h : a.Retries) :
    a.Resumes := by
  by_cases hlink : a.link = .none
  · by_cases hpos : 0 < a.reconnectAttempt
    · by_cases hle : a.reconnectAttempt ≤ a.circuitBreakerLimit
      · exact Or.inr (Or.inr (h.scheduled hlink hpos hle).2)
      · exact Or.inr (Or.inl (Nat.lt_of_not_le hle))
    · exact Or.inl (by omega)
  · exact Or.inl (h.connected hlink)

theorem retries_of_connected
    (hlink : a.link ≠ .none)
    (hzero : a.reconnectAttempt = 0) :
    a.Retries :=
  ⟨fun _ => hzero, fun hnone => absurd hnone hlink⟩

/-- Scheduling a reconnect counts the attempt, and starts a timer within the
limit. -/
theorem scheduleReconnect_spec (a : EndpointActor) (delaySecs : Nat) :
    (a.scheduleReconnect delaySecs).link = a.link ∧
      (a.scheduleReconnect delaySecs).trackedWorkspaces = a.trackedWorkspaces ∧
      (a.scheduleReconnect delaySecs).circuitBreakerLimit = a.circuitBreakerLimit ∧
      (a.scheduleReconnect delaySecs).reconnectAttempt = a.nextReconnectAttempt ∧
      (a.nextReconnectAttempt ≤ a.circuitBreakerLimit →
        (a.scheduleReconnect delaySecs).timers ≠ []) := by
  simp only [scheduleReconnect]
  split
  · rename_i hover
    have hsame := sameRetry_foldl (fun a id => a.sameRetry_emitStatus id (.blocked .daemonDied))
      a.trackedWorkspaces.keys { a with reconnectAttempt := a.nextReconnectAttempt }
    refine ⟨hsame.link, hsame.tracked, ?_, hsame.attempt, ?_⟩
    · rw [circuitBreakerLimit, hsame.delaySecs]
      rfl
    · intro hle
      exact absurd hover (Nat.not_lt.mpr hle)
  · exact ⟨rfl, rfl, rfl, rfl, fun _ => List.cons_ne_nil _ _⟩

theorem retries_scheduleReconnect {delaySecs : Nat}
    (hlink : a.link = .none)
    (htracked : a.trackedWorkspaces.keys ≠ []) :
    (a.scheduleReconnect delaySecs).Retries := by
  obtain ⟨hsame, hkeep, hlimit, hattempt, htimers⟩ := a.scheduleReconnect_spec delaySecs
  constructor
  · intro hconnected
    exact absurd (hsame.trans hlink) hconnected
  · intro _ _ hle
    rw [hattempt, hlimit] at hle
    exact ⟨Or.inl (htimers hle), by rw [hkeep]; exact htracked⟩

theorem retries_handleDisconnect
    (h : a.Resumes) :
    a.handleDisconnect.Retries := by
  simp only [handleDisconnect]
  split
  · rename_i hnone
    constructor
    · intro hconnected
      exact absurd rfl hconnected
    · intro _ hpos hle
      rcases h with hzero | hover | htracked
      · exact absurd hzero (Nat.pos_iff_ne_zero.mp hpos)
      · exact absurd hover (Nat.not_lt.mpr hle)
      · exact absurd hnone htracked
  · rename_i htracked
    refine retries_scheduleReconnect ?_ ?_
    · rw [(sameRetry_foldl (fun a id => (a.sameRetry_emitStatus id _).trans
        (sameRetry_emitStatus _ id _)) _ _).link]
      rfl
    · rw [(sameRetry_foldl (fun a id => (a.sameRetry_emitStatus id _).trans
        (sameRetry_emitStatus _ id _)) _ _).tracked]
      exact htracked

theorem retries_handleCommandError (a : EndpointActor) (workspaceId : String)
    (operation : ManagerOperation) (error : DaemonError)
    (h : a.Retries) :
    (a.handleCommandError workspaceId operation error).Retries := by
  simp only [handleCommandError]
  split
  · exact h.same (a.sameRetry_emitStatus workspaceId _)
  · have herror := h.same (a.sameRetry_emitError workspaceId operation
      (classifyConnectionProblem error) error.text)
    split
    · exact retries_handleDisconnect herror.resumes
    · exact herror

theorem retries_splitConnection
    (h : a.Retries) :
    a.splitConnection.Retries := by
  unfold splitConnection
  split
  · rename_i hunsplit
    have hzero := h.connected (by rw [hunsplit]; simp)
    exact ⟨fun _ => hzero, fun _ hpos => absurd hzero (Nat.pos_iff_ne_zero.mp hpos)⟩
  · exact h

theorem link_splitConnection
    (h : a.link ≠ .none) :
    a.splitConnection.link ≠ .none := by
  unfold splitConnection
  split
  · exact fun hnone => by cases hnone
  · exact h

/-- A connection that fails for a while is tried again for the tracked
workspaces. -/
theorem retries_connectFailed {workspaceId : String} {error : DaemonError}
    (h : a.Retries)
    (hlink : a.link = .none)
    (htracked : (classifyConnectionProblem error).isTransient = true →
      a.trackedWorkspaces.keys ≠ []) :
    (a.connectFailed workspaceId error).Retries := by
  simp only [connectFailed]
  split
  · rename_i htransient
    have hsame : a.SameRetry ((a.emitStatus workspaceId .disconnected).emitStatus workspaceId
        (advanceConnectionStatus .connecting (.retryScheduled a.nextReconnectAttempt
          a.nextReconnectDelaySecs))) :=
      (a.sameRetry_emitStatus workspaceId _).trans (sameRetry_emitStatus _ workspaceId _)
    refine retries_scheduleReconnect (hsame.link.trans hlink) ?_
    rw [hsame.tracked]
    exact htracked htransient
  · exact h.same (a.sameRetry_emitStatus workspaceId _)

theorem retries_ensureConnected (workspaceId : String) (outcome : Except DaemonError Unit)
    (h : a.Retries)
    (htracked : a.link = .none → a.reconnectAttempt = 0 → transient outcome = true →
      a.trackedWorkspaces.keys ≠ []) :
    (a.ensureConnected workspaceId outcome).2.Retries := by
  have hstart := a.sameRetry_emitStatus workspaceId a.startingStatus
  unfold ensureConnected
  split
  · exact h
  · rename_i hlink
    rw [not_not] at hlink
    split
    · exact h
    · rename_i hpos
      have hzero : a.reconnectAttempt = 0 := by omega
      cases outcome with
      | ok _ =>
          refine Retries.same ?_ (sameRetry_emitStatus _ workspaceId _)
          exact ⟨fun _ => hstart.attempt.trans hzero, fun hnone => by cases hnone⟩
      | error error =>
          refine retries_connectFailed (h.same hstart) (hstart.link.trans hlink) ?_
          rw [hstart.tracked]
          exact htracked hlink hzero

/-- Nothing stands in the way of a connection that was asked for. -/
theorem link_ensureConnected (a : EndpointActor) (workspaceId : String)
    (outcome : Except DaemonError Unit)
    (h : (a.ensureConnected workspaceId outcome).1 = none) :
    (a.ensureConnected workspaceId outcome).2.link ≠ .none := by
  unfold ensureConnected at h ⊢
  split at h
  · rename_i hlink
    rw [if_pos hlink]
    exact hlink
  · rename_i hlink
    split at h
    · cases h
    · rename_i hzero
      rw [if_neg hlink, if_neg hzero]
      cases outcome with
      | ok _ =>
          simp only [(sameRetry_emitStatus _ workspaceId _).link]
          exact fun hnone => by cases hnone
      | error error => cases h

/-- A failed attempt to connect keeps the tracked workspaces; if it is tried
again, it was counted. -/
theorem connectFailed_spec (a : EndpointActor) (workspaceId : String) (error : DaemonError) :
    (a.connectFailed workspaceId error).link = a.link ∧
      (a.connectFailed workspaceId error).trackedWorkspaces = a.trackedWorkspaces ∧
      (a.connectFailed workspaceId error).circuitBreakerLimit = a.circuitBreakerLimit ∧
      ((classifyConnectionProblem error).isTransient = true →
        (a.connectFailed workspaceId error).reconnectAttempt = a.nextReconnectAttempt) := by
  simp only [connectFailed]
  split
  · have hsame : a.SameRetry ((a.emitStatus workspaceId .disconnected).emitStatus workspaceId
        (advanceConnectionStatus .connecting (.retryScheduled a.nextReconnectAttempt
          a.nextReconnectDelaySecs))) :=
      (a.sameRetry_emitStatus workspaceId _).trans (sameRetry_emitStatus _ workspaceId _)
    obtain ⟨hlink, htracked, hlimit, hattempt, _⟩ := scheduleReconnect_spec
      ((a.emitStatus workspaceId .disconnected).emitStatus workspaceId
        (advanceConnectionStatus .connecting (.retryScheduled a.nextReconnectAttempt
          a.nextReconnectDelaySecs))) a.nextReconnectDelaySecs
    refine ⟨hlink.trans hsame.link, htracked.trans hsame.tracked, hlimit.trans ?_, fun _ => ?_⟩
    · rw [circuitBreakerLimit, hsame.delaySecs]
      rfl
    · rw [hattempt, nextReconnectAttempt, hsame.attempt]
      rfl
  · rename_i hpermanent
    have hsame := a.sameRetry_emitStatus workspaceId
      (advanceConnectionStatus .connecting (.failed (classifyConnectionProblem error)))
    refine ⟨hsame.link, hsame.tracked, ?_, fun htransient => absurd htransient hpermanent⟩
    rw [circuitBreakerLimit, hsame.delaySecs]
    rfl

theorem ensureConnected_problem {workspaceId : String} {outcome : Except DaemonError Unit}
    {problem : ConnectionProblem}
    (hlink : a.link = .none)
    (hzero : a.reconnectAttempt = 0)
    (h : a.ensureConnected workspaceId outcome = (some problem, b)) :
    b.link = .none ∧ b.trackedWorkspaces = a.trackedWorkspaces ∧
      (problem.isTransient = true → 0 < b.reconnectAttempt) := by
  have hstart := a.sameRetry_emitStatus workspaceId a.startingStatus
  have hnone : ¬ a.link ≠ .none := fun hne => hne hlink
  have hidle : ¬ 0 < a.reconnectAttempt := by omega
  rw [ensureConnected, if_neg hnone, if_neg hidle] at h
  cases outcome with
  | ok _ => cases h
  | error error =>
      simp only [Prod.mk.injEq, Option.some.injEq] at h
      obtain ⟨rfl, rfl⟩ := h
      obtain ⟨hfailed, htracked, _, hcounted⟩ :=
        (a.emitStatus workspaceId a.startingStatus).connectFailed_spec workspaceId error
      refine ⟨hfailed.trans (hstart.link.trans hlink), htracked.trans hstart.tracked,
        fun htransient => ?_⟩
      rw [hcounted htransient, nextReconnectAttempt]
      omega

end Retrying

section Steadiness

/-- What the actor awaits, or will once its write went through. -/
def awaiting? : Phase → Option Awaiting
  | .sending _ _ (.await _ _ awaiting) => some awaiting
  | .receiving _ _ awaiting => some awaiting
  | _ => none

/-- The attempt a reattach goes back to. -/
def savedAttempt? : Awaiting → Option Nat
  | .reattach _ _ _ _ savedAttempt => some savedAttempt
  | _ => none

/-- The request is one that is made on a standing connection only. -/
def onConnection : Awaiting → Bool
  | .openTakeover _ _ _ | .openReattach _ _ | .openCreate _ | .openAttach _ _
  | .reattach _ _ _ _ _ => true
  | _ => false

def reattaching? (a : EndpointActor) : Option Nat :=
  (awaiting? a.phase).bind savedAttempt?

/-- A running actor retries, except that a reattach keeps the attempt it goes
back to; and it has a connection where it needs one. -/
structure Steady (a : EndpointActor) : Prop where
  retries : a.phase ≠ .stopped → a.reattaching? = none → a.Retries
  reattaching : ∀ savedAttempt, a.reattaching? = some savedAttempt →
    a.reconnectAttempt = savedAttempt
  onConnection : ∀ awaiting, awaiting? a.phase = some awaiting →
    onConnection awaiting = true → a.link ≠ .none
  sending : ∀ via env after, a.phase = .sending via env after → via ≠ .none
  receiving : ∀ requestId expectTerminated awaiting,
    a.phase = .receiving requestId expectTerminated awaiting → a.link ≠ .none

variable {a b : EndpointActor}

/-- An actor that awaits nothing. -/
theorem Retries.steady
    (h : a.Retries)
    (hphase : awaiting? a.phase = none)
    (hvia : ∀ via env after, a.phase = .sending via env after → via ≠ .none) :
    a.Steady := by
  refine ⟨fun _ _ => h, ?_, ?_, hvia, ?_⟩
  · intro savedAttempt hsaved
    rw [reattaching?, hphase] at hsaved
    cases hsaved
  · intro awaiting hawaiting
    rw [hphase] at hawaiting
    cases hawaiting
  · intro requestId expectTerminated awaiting hreceiving
    rw [hreceiving] at hphase
    cases hphase

theorem steady_toIdle
    (h : a.Retries) :
    a.toIdle.Steady :=
  Retries.steady (h.same ⟨rfl, rfl, rfl, rfl, rfl, fun _ => id⟩) rfl
    (fun _ _ _ hsending => by cases hsending)

/-- An actor that writes a request. -/
theorem steady_sending {via : Link} {env : ClientEnvelope} {requestId : RequestId}
    {expectTerminated : Bool} {awaiting : Awaiting}
    (hphase : a.phase = .sending via env (.await requestId expectTerminated awaiting))
    (hvia : via ≠ .none)
    (hretries : savedAttempt? awaiting = none → a.Retries)
    (hsaved : ∀ savedAttempt, savedAttempt? awaiting = some savedAttempt →
      a.reconnectAttempt = savedAttempt)
    (hlink : EndpointActor.onConnection awaiting = true → a.link ≠ .none) :
    a.Steady := by
  have hreattaching : a.reattaching? = savedAttempt? awaiting := by
    rw [reattaching?, hphase]
    rfl
  refine ⟨fun _ hnone => hretries (hreattaching ▸ hnone), ?_, ?_, ?_, ?_⟩
  · intro savedAttempt hsome
    exact hsaved savedAttempt (hreattaching ▸ hsome)
  · intro other hother hon
    rw [hphase, awaiting?, Option.some.injEq] at hother
    subst hother
    exact hlink hon
  · intro via' env' after hsending
    rw [hphase, Phase.sending.injEq] at hsending
    exact hsending.1 ▸ hvia
  · intro requestId' expectTerminated' other hreceiving
    rw [hphase] at hreceiving
    cases hreceiving

theorem steady_sendAndRead {command : ClientCommand} {expectTerminated : Bool}
    {awaiting : Awaiting}
    (h : a.Retries)
    (hsaved : savedAttempt? awaiting = none)
    (hlink : EndpointActor.onConnection awaiting = true → a.link ≠ .none) :
    (a.sendAndRead command expectTerminated awaiting).Steady := by
  refine steady_sending rfl (by decide) ?_ ?_ hlink
  · intro _
    exact h.same ⟨rfl, rfl, rfl, rfl, rfl, fun _ => id⟩
  · intro savedAttempt hsome
    rw [hsaved] at hsome
    cases hsome

theorem steady_viaActiveChannel {command : ClientCommand} {awaiting : Awaiting}
    (h : savedAttempt? awaiting = none → a.Retries)
    (hsaved : ∀ savedAttempt, savedAttempt? awaiting = some savedAttempt →
      a.reconnectAttempt = savedAttempt)
    (hlink : a.link ≠ .none) :
    (a.viaActiveChannel command awaiting).Steady := by
  unfold viaActiveChannel
  split
  · refine steady_sending rfl (by decide) (fun hnone => ?_) hsaved (fun _ => hlink)
    exact (h hnone).same ⟨rfl, rfl, rfl, rfl, rfl, fun _ => id⟩
  · refine steady_sending rfl (by decide) (fun hnone => ?_) hsaved (fun _ => hlink)
    exact (h hnone).same ⟨rfl, rfl, rfl, rfl, rfl, fun _ => id⟩

/-- A request made on a connection, other than a reattach. -/
theorem steady_request {command : ClientCommand} {awaiting : Awaiting}
    (h : a.Retries)
    (hsaved : savedAttempt? awaiting = none)
    (hlink : a.link ≠ .none) :
    (a.viaActiveChannel command awaiting).Steady := by
  refine steady_viaActiveChannel (fun _ => h) ?_ hlink
  intro savedAttempt hsome
  rw [hsaved] at hsome
  cases hsome

theorem steady_sendMessage {requestId : Nat} {command : ClientCommand} {after : AfterSend}
    (h : a.Retries)
    (hafter : ∀ id expectTerminated awaiting, after ≠ .await id expectTerminated awaiting) :
    (a.sendMessage requestId command after).Steady := by
  refine Retries.steady (h.same ⟨rfl, rfl, rfl, rfl, rfl, fun _ => id⟩) ?_ ?_
  swap
  · intro via env after' hsending
    rw [sendMessage, Phase.sending.injEq] at hsending
    exact hsending.1 ▸ by decide
  cases after with
  | await id expectTerminated awaiting => exact absurd rfl (hafter id expectTerminated awaiting)
  | ignore => rfl
  | report workspaceId operation => rfl
  | heartbeat => rfl

theorem steady_post {command : ClientCommand} {workspaceId : String}
    {operation : ManagerOperation}
    (h : a.Retries) :
    (a.post command workspaceId operation).Steady := by
  unfold post
  split
  · exact steady_sendMessage h (fun _ _ _ hafter => by cases hafter)
  · exact steady_toIdle h

theorem steady_report {workspaceId : String} {operation : ManagerOperation} {error : DaemonError}
    (h : a.Retries) :
    (a.handleCommandError workspaceId operation error).toIdle.Steady :=
  steady_toIdle (a.retries_handleCommandError workspaceId operation error h)

/-- What is done on a connection, if there is one. -/
theorem steady_withConnection {workspaceId : String} {operation : ManagerOperation}
    {outcome : Except DaemonError Unit} {next : EndpointActor → EndpointActor}
    (h : a.Retries)
    (htracked : a.link = .none → a.reconnectAttempt = 0 → transient outcome = true →
      a.trackedWorkspaces.keys ≠ [])
    (hnext : ∀ b : EndpointActor, b.Retries → b.link ≠ .none → (next b).Steady) :
    (a.withConnection workspaceId operation outcome next).Steady := by
  have hretries := retries_ensureConnected workspaceId outcome h htracked
  have hlink := a.link_ensureConnected workspaceId outcome
  unfold withConnection
  split
  · rename_i b hres
    rw [hres] at hretries hlink
    exact hnext b hretries (hlink rfl)
  · rename_i problem b hres
    rw [hres] at hretries
    split
    · exact steady_toIdle hretries
    · exact steady_toIdle (hretries.same (sameRetry_emitError _ _ _ _ _))

theorem steady_opened {request : OpenRequest} {runtimeId : String}
    {snapshot : WorkspaceSnapshot}
    (h : a.Retries)
    (hlink : a.link ≠ .none) :
    (a.opened request runtimeId snapshot).Steady := by
  have hstands := link_splitConnection hlink
  have hopened : ({ a.splitConnection with trackedWorkspaces :=
      a.splitConnection.trackedWorkspaces.insert request.workspaceId runtimeId } :
        EndpointActor).Retries :=
    retries_of_connected hstands ((retries_splitConnection h).connected hstands)
  have hreported := hopened.same
    (sameRetry_emit _ (.workspaceOpened request.workspaceId runtimeId snapshot))
  simp only [opened]
  split
  · split
    · exact steady_toIdle (hreported.same (sameRetry_trySelf _ _))
    · exact steady_toIdle (hreported.same (sameRetry_emitStatus _ _ _))
  · exact steady_toIdle (hreported.same (sameRetry_emitStatus _ _ _))

theorem steady_reattachFailed {request : OpenRequest} {error : DaemonError}
    (h : a.Retries)
    (hlink : a.link ≠ .none) :
    (a.reattachFailed request error).Steady := by
  unfold reattachFailed
  split
  · exact steady_report h
  · exact steady_report h
  · exact steady_report h
  · split
    · exact steady_toIdle (h.same (a.sameRetry_emitStatus _ _))
    · exact steady_request h rfl hlink

theorem steady_handleHeartbeatTick
    (h : a.Retries) :
    a.handleHeartbeatTick.Steady := by
  have hticked : ({ a with heartbeat := a.heartbeat.onTick.2 } : EndpointActor).Retries :=
    h.same ⟨rfl, rfl, rfl, rfl, rfl, fun _ => id⟩
  simp only [handleHeartbeatTick]
  split
  · exact steady_sendMessage (h.same ⟨rfl, rfl, rfl, rfl, rfl, fun _ => id⟩)
      (fun _ _ _ hafter => by cases hafter)
  · exact steady_toIdle (retries_handleDisconnect hticked.resumes)

theorem opening_spec {awaiting : Awaiting} {workspaceId : String}
    (h : openingWorkspace?.awaitingWorkspace? awaiting = some workspaceId) :
    savedAttempt? awaiting = none ∧ EndpointActor.onConnection awaiting = true := by
  cases awaiting <;> first | exact ⟨rfl, rfl⟩ | cases h

/-- While a workspace is opened no attempt counts. -/
theorem Steady.opening {workspaceId : String}
    (hinv : a.Steady)
    (h : openingWorkspace? a.phase = some workspaceId) :
    a.reconnectAttempt = 0 := by
  have hopening : ∃ awaiting, awaiting? a.phase = some awaiting ∧
      openingWorkspace?.awaitingWorkspace? awaiting = some workspaceId := by
    cases hphase : a.phase with
    | idle paused => rw [hphase] at h; cases h
    | stopped => rw [hphase] at h; cases h
    | sending via env after =>
        rw [hphase] at h
        cases after with
        | await requestId expectTerminated awaiting => exact ⟨awaiting, rfl, h⟩
        | _ => cases h
    | receiving requestId expectTerminated awaiting =>
        rw [hphase] at h
        exact ⟨awaiting, rfl, h⟩
  obtain ⟨awaiting, hawaiting, hopens⟩ := hopening
  obtain ⟨hsaved, hon⟩ := opening_spec hopens
  refine (hinv.retries ?_ ?_).connected (hinv.onConnection awaiting hawaiting hon)
  · intro hstopped
    rw [hstopped] at hawaiting
    cases hawaiting
  · rw [reattaching?, hawaiting]
    exact hsaved

theorem Steady.reattaching_eq_none
    (hinv : a.Steady)
    (hlink : a.link = .none) :
    a.reattaching? = none := by
  cases hawaiting : awaiting? a.phase with
  | none => rw [reattaching?, hawaiting]; rfl
  | some awaiting =>
      have hon := hinv.onConnection awaiting hawaiting
      rw [reattaching?, hawaiting]
      cases awaiting with
      | reattach workspaceId runtimeId rest anyTransientFailure savedAttempt =>
          exact absurd hlink (hon rfl)
      | _ => rfl

end Steadiness

section Handlers

variable [UuidText]
variable {a b : EndpointActor}

theorem steady_withUuid {workspaceId : String} {operation : ManagerOperation} {value : String}
    {next : Uuid → EndpointActor}
    (h : a.Retries)
    (hnext : readable value = true → ∀ id, (next id).Steady) :
    (a.withUuid workspaceId operation value next).Steady := by
  unfold withUuid
  split
  · rename_i id hparse
    exact hnext (by rw [readable, hparse]; rfl) id
  · exact steady_toIdle (h.same (a.sameRetry_emit _))

theorem steady_resolveAndAttachRuntime {request : OpenRequest}
    (h : a.Retries)
    (hlink : a.link ≠ .none) :
    (a.resolveAndAttachRuntime request).Steady := by
  unfold resolveAndAttachRuntime
  split
  · exact steady_request h rfl hlink
  · split
    · exact steady_request h rfl hlink
    · split <;> exact steady_request h rfl hlink

/-- What is left of a reattach: the next request, or its end. -/
theorem steady_reattachNext {anyTransientFailure : Bool} {savedAttempt : Nat}
    {rest : List (String × String)}
    (hlink : a.link ≠ .none)
    (hattempt : a.reconnectAttempt = savedAttempt)
    (hend : anyTransientFailure = true → (rest.all fun e => !readable e.2) = true → a.Resumes) :
    (a.reattachNext anyTransientFailure savedAttempt rest).Steady := by
  induction rest with
  | nil =>
      unfold reattachNext
      split
      · rename_i hfailed
        have hsame : { a with reconnectAttempt := savedAttempt } = a := by rw [← hattempt]
        rw [hsame]
        exact steady_toIdle (retries_handleDisconnect (hend hfailed rfl))
      · exact steady_toIdle (retries_of_connected hlink rfl)
  | cons entry rest ih =>
      unfold reattachNext
      split
      · rename_i text hparse
        refine ih (fun hfailed hall => hend hfailed ?_)
        rw [List.all_cons, hall, readable, hparse]
        rfl
      · refine steady_viaActiveChannel (fun hnone => by cases hnone) ?_ hlink
        intro saved hsaved
        rw [savedAttempt?, Option.some.injEq] at hsaved
        exact hattempt.trans hsaved

/-- A reconnect, which need not be scheduled any more. -/
theorem steady_reconnect (outcome : Except DaemonError Unit)
    (hconnected : a.link ≠ .none → a.reconnectAttempt = 0)
    (h : a.Resumes) :
    (a.reconnect outcome).Steady := by
  unfold reconnect
  split
  · rename_i hlink
    exact steady_toIdle (retries_of_connected hlink (hconnected hlink))
  · rename_i hlink
    rw [not_not] at hlink
    split
    · rename_i hentries
      refine steady_toIdle ⟨hconnected, fun _ hpos hle => ?_⟩
      rcases h with hzero | hover | htracked
      · exact absurd hzero (Nat.pos_iff_ne_zero.mp hpos)
      · exact absurd hover (Nat.not_lt.mpr hle)
      · exact absurd (by rw [AList.keys, hentries]; rfl) htracked
    · rename_i primary rest hentries
      have htracked : a.trackedWorkspaces.keys ≠ [] := by
        rw [AList.keys, hentries]
        exact List.cons_ne_nil _ _
      have hzero : ({ a with reconnectAttempt := 0 } : EndpointActor).Retries :=
        ⟨fun _ => rfl, fun _ hpos => absurd hpos (Nat.lt_irrefl 0)⟩
      have hretries := retries_ensureConnected primary.1 outcome hzero
        (fun _ _ _ => htracked)
      have hconnected := link_ensureConnected { a with reconnectAttempt := 0 } primary.1 outcome
      simp only
      split
      · rename_i problem b hres
        obtain ⟨hdown, hkeep, hcounted⟩ := ensureConnected_problem
          (a := { a with reconnectAttempt := 0 }) hlink rfl hres
        rw [hres] at hretries
        have hserved : b.trackedWorkspaces.keys ≠ [] := by
          rw [hkeep]
          exact htracked
        split
        · rename_i htransient
          refine steady_toIdle ⟨fun hup => absurd hdown hup, fun _ _ hle => ⟨?_, hserved⟩⟩
          have hbound : b.reconnectAttempt ≤ b.circuitBreakerLimit :=
            Nat.le_trans (Nat.le_max_left _ _) hle
          exact (hretries.scheduled hdown (hcounted htransient) hbound).1
        · exact steady_toIdle (retries_scheduleReconnect hdown hserved)
      · rename_i b hres
        rw [hres] at hconnected
        refine steady_reattachNext (link_splitConnection (hconnected rfl)) ?_
          (fun hfailed => by cases hfailed)
        unfold splitConnection
        split <;> rfl

theorem tracked_of_retryableCommand {outcome : Except DaemonError Unit}
    {command : EndpointCommand}
    (hok : a.retryableCommand outcome command = true)
    (hconnects : connectsFor command = true)
    (hlink : a.link = .none)
    (hzero : a.reconnectAttempt = 0)
    (htransient : transient outcome = true) :
    a.trackedWorkspaces.keys ≠ [] := by
  intro hnone
  cases command with
  | forgetWorkspace workspaceId => cases hconnects
  | _ => simp [retryableCommand, hlink, hzero, hnone, hconnects, htransient] at hok

/-- Every command is handled so. -/
theorem steady_handleCommand {outcome : Except DaemonError Unit} {command : EndpointCommand}
    (h : a.Retries)
    (hidle : a.phase ≠ .stopped)
    (hok : a.retryableCommand outcome command = true) :
    (a.handleCommand outcome command).Steady := by
  have htracked := fun hconnects => tracked_of_retryableCommand hok hconnects
  cases command with
  | openWorkspace request =>
      have hsame := a.sameRetry_emitStatus request.workspaceId .connecting
      refine steady_withConnection (h.same hsame) ?_
        (fun b hb hlink => steady_resolveAndAttachRuntime hb hlink)
      rw [hsame.link, hsame.attempt, hsame.tracked]
      exact htracked rfl
  | createPane workspaceId runtimeId layoutTerminalUuid spec =>
      exact steady_withConnection h (htracked rfl) (fun b hb _ => steady_withUuid hb
        (fun _ _ => steady_sendAndRead hb rfl (fun hon => by cases hon)))
  | splitPane workspaceId runtimeId targetPaneId layoutTerminalUuid axis ratio spec =>
      exact steady_withConnection h (htracked rfl) (fun b hb _ => steady_withUuid hb
        (fun _ _ => steady_withUuid hb
          (fun _ _ => steady_sendAndRead hb rfl (fun hon => by cases hon))))
  | closePane workspaceId runtimeId layoutTerminalUuid runtimePaneId =>
      exact steady_withConnection h (htracked rfl) (fun b hb _ => steady_withUuid hb
        (fun _ _ => steady_withUuid hb
          (fun _ _ => steady_sendAndRead hb rfl (fun hon => by cases hon))))
  | detachWorkspace workspaceId runtimeId =>
      exact steady_withUuid h (fun hreadable _ => steady_withConnection h (htracked hreadable)
        (fun b hb _ => steady_sendAndRead hb rfl (fun hon => by cases hon)))
  | terminateWorkspace workspaceId runtimeId =>
      exact steady_withUuid h (fun hreadable _ => steady_withConnection h (htracked hreadable)
        (fun b hb _ => steady_sendAndRead hb rfl (fun hon => by cases hon)))
  | sendInput workspaceId runtimeId runtimePaneId data =>
      exact steady_withUuid h (fun _ _ => steady_withUuid h (fun _ _ => steady_post h))
  | resizePane workspaceId runtimeId runtimePaneId cols rows =>
      exact steady_withUuid h (fun _ _ => steady_withUuid h (fun _ _ => steady_post h))
  | refreshInventory =>
      exact steady_withConnection h (htracked rfl)
        (fun b hb hlink => steady_request hb rfl hlink)
  | reconnect => exact steady_reconnect outcome h.connected h.resumes
  | forgetWorkspace workspaceId =>
      refine steady_toIdle ⟨h.connected, fun hlink hpos hle => ?_⟩
      refine ⟨(h.scheduled hlink hpos hle).1, fun hnone => ?_⟩
      have hawaits : a.AwaitsReconnect := ⟨hidle, hlink, hpos, hle⟩
      simp [retryableCommand, hawaits, show _ = [] from hnone] at hok
  | renameWorkspace workspaceId runtimeId name automatic =>
      refine steady_withUuid h (fun hreadable _ => ?_)
      have hretries := retries_ensureConnected workspaceId outcome h (htracked hreadable)
      split
      · rename_i problem b hres
        rw [hres] at hretries
        exact steady_toIdle hretries
      · rename_i b hres
        rw [hres] at hretries
        exact steady_sendMessage hretries (fun _ _ _ hafter => by cases hafter)
  | setPaneNoPersist workspaceId runtimeId runtimePaneId noPersist =>
      refine steady_withUuid h (fun hruntime _ => steady_withUuid h (fun hpane _ => ?_))
      have hretries := retries_ensureConnected workspaceId outcome h
        (htracked (by rw [connectsFor, hruntime, hpane]; rfl))
      split
      · rename_i problem b hres
        rw [hres] at hretries
        exact steady_toIdle hretries
      · rename_i b hres
        rw [hres] at hretries
        exact steady_sendMessage hretries (fun _ _ _ hafter => by cases hafter)
  | resyncWorkspace workspaceId runtimeId =>
      simp only [handleCommand]
      split
      · exact steady_toIdle h
      · exact steady_sendAndRead h rfl (fun hon => by cases hon)
  | shutdown =>
      refine ⟨fun hrunning => absurd rfl hrunning, ?_, ?_, ?_, ?_⟩
      · intro savedAttempt hsaved
        cases hsaved
      · intro awaiting hawaiting
        cases hawaiting
      · intro via env after hsending
        cases hsending
      · intro requestId expectTerminated awaiting hreceiving
        cases hreceiving

/-- Every response to a request that is no reattach is handled so. -/
theorem steady_finish {result : Except DaemonError ServerPayload} {awaiting : Awaiting}
    (h : a.Retries)
    (hsaved : savedAttempt? awaiting = none)
    (hon : EndpointActor.onConnection awaiting = true → a.link ≠ .none)
    (hlink : ∀ payload, result = .ok payload → a.link ≠ .none) :
    (a.finish result awaiting).Steady := by
  have hforget : ∀ payload workspaceId event, result = .ok payload →
      ((a.forget workspaceId).emit event).toIdle.Steady := by
    intro payload workspaceId event hresult
    have hforgotten : (a.forget workspaceId).Retries :=
      retries_of_connected (hlink payload hresult) (h.connected (hlink payload hresult))
    exact steady_toIdle (hforgotten.same (sameRetry_emit _ _))
  have hreport : ∀ event workspaceId status,
      ((a.emit event).emitStatus workspaceId status).toIdle.Steady := by
    intro event workspaceId status
    exact steady_toIdle (h.same ((a.sameRetry_emit event).trans (sameRetry_emitStatus _ _ _)))
  cases awaiting with
  | openTakeover request runtimeId runtimeUuid =>
      simp only [finish]
      split
      · have hsame := a.sameRetry_emit (.workspaceTakenOver request.workspaceId runtimeId)
        exact steady_request (h.same hsame) rfl (by rw [hsame.link]; exact hon rfl)
      · exact steady_report h
  | openReattach request runtimeId =>
      simp only [finish]
      split
      · exact steady_opened h (hon rfl)
      · exact steady_reattachFailed h (hon rfl)
  | openCreate request =>
      simp only [finish]
      split
      · exact steady_withUuid h (fun _ _ => steady_request h rfl (hon rfl))
      · exact steady_report h
  | openAttach request runtimeId =>
      simp only [finish]
      split
      · exact steady_opened h (hon rfl)
      · exact steady_report h
  | createPane workspaceId layoutTerminalUuid runtimeId =>
      simp only [finish]
      split
      · exact hreport _ _ _
      · exact steady_report h
  | splitPane workspaceId layoutTerminalUuid runtimeId =>
      simp only [finish]
      split
      · exact hreport _ _ _
      · exact steady_report h
  | closePane workspaceId layoutTerminalUuid runtimeId runtimePaneId =>
      simp only [finish]
      split
      · exact steady_toIdle (h.same (a.sameRetry_emit _))
      · exact steady_toIdle (h.same (a.sameRetry_emit _))
      · exact steady_report h
  | detachWorkspace workspaceId runtimeId =>
      simp only [finish]
      split
      · exact hforget _ _ _ rfl
      · exact hforget _ _ _ rfl
      · exact steady_report h
  | terminateWorkspace workspaceId runtimeId =>
      simp only [finish]
      split
      · exact hforget _ _ _ rfl
      · exact steady_report h
  | listWorkspaces pseudoWorkspace =>
      simp only [finish]
      split
      · exact steady_toIdle (h.same (a.sameRetry_emit _))
      · exact steady_report h
  | resyncWorkspace workspaceId runtimeId =>
      simp only [finish]
      split
      · exact steady_toIdle (h.same (a.sameRetry_emit _))
      · exact steady_toIdle h
  | reattach workspaceId runtimeId rest anyTransientFailure savedAttempt => cases hsaved

/-- The response to a reattach leads to the next one, or ends the reconnect. -/
theorem steady_finish_reattach {result : Except DaemonError ServerPayload} {workspaceId : String}
    {runtimeId : String} {rest : List (String × String)} {anyTransientFailure : Bool}
    {savedAttempt : Nat}
    (hlink : a.link ≠ .none)
    (hattempt : a.reconnectAttempt = savedAttempt)
    (hend : failsReconnect result (.reattach workspaceId runtimeId rest anyTransientFailure
      savedAttempt) = true → a.Resumes) :
    (a.finish result
      (.reattach workspaceId runtimeId rest anyTransientFailure savedAttempt)).Steady := by
  have hnext : ∀ b : EndpointActor, a.SameRetry b →
      (b.reattachNext anyTransientFailure savedAttempt rest).Steady := by
    intro b hsame
    refine steady_reattachNext (by rw [hsame.link]; exact hlink) (hsame.attempt.trans hattempt) ?_
    intro hfailed hall
    have hresumes := hend (by rw [failsReconnect, hfailed, hall]; rfl)
    rw [Resumes, circuitBreakerLimit, hsame.attempt, hsame.delaySecs, hsame.tracked]
    exact hresumes
  simp only [finish]
  split
  · exact hnext _ ((a.sameRetry_emit _).trans (sameRetry_emitStatus _ _ _))
  · split
    · exact hnext _ (a.sameRetry_emitStatus _ _)
    · split
      · rename_i htransient
        refine steady_reattachNext hlink hattempt (fun _ hall => hend ?_)
        rw [failsReconnect, htransient, hall, Bool.or_true]
        rfl
      · exact hnext _ (a.sameRetry_emitError _ _ _ _)

/-- A result comes in for the request under way. -/
theorem Steady.finish {result : Except DaemonError ServerPayload} {awaiting : Awaiting}
    (hinv : a.Steady)
    (hsame : a.SameRetry b)
    (hphase : awaiting? a.phase = some awaiting)
    (hlink : ∀ payload, result = .ok payload → a.link ≠ .none)
    (hend : failsReconnect result awaiting = true → a.Resumes) :
    (b.finish result awaiting).Steady := by
  have hrunning : a.phase ≠ .stopped := by
    intro hstopped
    rw [hstopped] at hphase
    cases hphase
  have hreattaching : a.reattaching? = savedAttempt? awaiting := by
    rw [reattaching?, hphase]
    rfl
  have hon := hinv.onConnection awaiting hphase
  cases hsaved : savedAttempt? awaiting with
  | none =>
      have hretries := (hinv.retries hrunning (hreattaching.trans hsaved)).same hsame
      refine steady_finish hretries hsaved ?_ ?_
      · rw [hsame.link]
        exact hon
      · rw [hsame.link]
        exact hlink
  | some savedAttempt =>
      have hattempt := hinv.reattaching savedAttempt (hreattaching.trans hsaved)
      cases awaiting with
      | reattach workspaceId runtimeId rest anyTransientFailure saved =>
          rw [savedAttempt?, Option.some.injEq] at hsaved
          refine steady_finish_reattach ?_ (hsame.attempt.trans (hattempt.trans hsaved.symm)) ?_
          · rw [hsame.link]
            exact hon rfl
          · intro hfails
            rw [Resumes, circuitBreakerLimit, hsame.attempt, hsame.delaySecs, hsame.tracked]
            exact hend hfails
      | _ => cases hsaved

theorem resumes_of_retryable {step : ActorStep} {result : Except DaemonError ServerPayload}
    {awaiting : Awaiting}
    (hok : a.retryable step = true)
    (hresult : a.result? step = some (result, awaiting))
    (hfails : failsReconnect result awaiting = true) :
    a.Resumes := by
  have hguard : (!(failsReconnect result awaiting && a.trackedWorkspaces.keys = [] &&
      0 < a.reconnectAttempt && a.reconnectAttempt ≤ a.circuitBreakerLimit)) = true := by
    cases step with
    | take outcome => cases hresult
    | handshakeTimeout => cases hresult
    | timerFires delaySecs => cases hresult
    | _ => simpa only [retryable, hresult] using hok
  by_cases hzero : a.reconnectAttempt = 0
  · exact Or.inl hzero
  · by_cases hover : a.circuitBreakerLimit < a.reconnectAttempt
    · exact Or.inr (Or.inl hover)
    · refine Or.inr (Or.inr (fun hnone => ?_))
      have hpos : 0 < a.reconnectAttempt := by omega
      have hle : a.reconnectAttempt ≤ a.circuitBreakerLimit := by omega
      simp [hfails, hnone, hpos, hle] at hguard

end Handlers

section Steps

variable {a b : EndpointActor}

/-- A step in which the actor's phase and what decides over reconnects stay. -/
theorem Steady.same
    (hinv : a.Steady)
    (h : a.SameRetry b)
    (hphase : b.phase = a.phase) :
    b.Steady := by
  refine ⟨?_, ?_, ?_, ?_, ?_⟩
  · rw [reattaching?, hphase]
    exact fun hrunning hnone => (hinv.retries hrunning hnone).same h
  · rw [reattaching?, hphase, h.attempt]
    exact hinv.reattaching
  · rw [hphase, h.link]
    exact hinv.onConnection
  · rw [hphase]
    exact hinv.sending
  · rw [hphase, h.link]
    exact hinv.receiving

/-- Reading an envelope may end the tracking of workspaces. -/
structure ReadsRetry (a b : EndpointActor) : Prop where
  link : b.link = a.link
  attempt : b.reconnectAttempt = a.reconnectAttempt
  phase : b.phase = a.phase

theorem ReadsRetry.trans {c : EndpointActor}
    (h : a.ReadsRetry b)
    (h' : b.ReadsRetry c) :
    a.ReadsRetry c :=
  ⟨h'.link.trans h.link, h'.attempt.trans h.attempt, h'.phase.trans h.phase⟩

theorem readsRetry_forwardPush (a : EndpointActor) (env : ServerEnvelope) :
    a.ReadsRetry (a.forwardPush env) := by
  obtain ⟨events, heq, _⟩ := a.emit_fields (.workspaceMessage a.endpoint env)
  rw [forwardPush, heq]
  exact ⟨rfl, rfl, rfl⟩

theorem readsRetry_untrackTerminated (a : EndpointActor) (payload : ServerPayload) :
    a.ReadsRetry (a.untrackTerminated payload) := by
  unfold untrackTerminated
  split <;> exact ⟨rfl, rfl, rfl⟩

theorem readsRetry_observeInboundPong (a : EndpointActor) (payload : ServerPayload) :
    a.ReadsRetry (a.observeInboundPong payload).2 := by
  unfold observeInboundPong
  split
  · split <;> exact ⟨rfl, rfl, rfl⟩
  · exact ⟨rfl, rfl, rfl⟩

theorem readsRetry_handleRuntimeMessage (a : EndpointActor) (env : ServerEnvelope) :
    a.ReadsRetry (a.handleRuntimeMessage env) := by
  have hpong := a.readsRetry_observeInboundPong env.payload
  unfold handleRuntimeMessage
  split
  · rename_i b hres
    rw [hres] at hpong
    exact hpong
  · rename_i b hres
    rw [hres] at hpong
    have hreset : b.ReadsRetry { b with heartbeat := b.heartbeat.reset } := ⟨rfl, rfl, rfl⟩
    have huntracked := (hpong.trans hreset).trans (readsRetry_untrackTerminated _ env.payload)
    simp only
    split
    · refine huntracked.trans ?_
      unfold handleStreamOverflow
      split <;> exact ⟨rfl, rfl, rfl⟩
    · exact huntracked.trans (readsRetry_forwardPush _ env)

theorem readsRetry_readOther (a : EndpointActor) (env : ServerEnvelope)
    (expectTerminated : Bool) :
    a.ReadsRetry (a.readOther env expectTerminated) := by
  unfold readOther
  split
  · exact a.readsRetry_observeInboundPong env.payload
  · split
    · exact ⟨rfl, rfl, rfl⟩
    · exact (a.readsRetry_untrackTerminated env.payload).trans (readsRetry_forwardPush _ env)
  · exact (a.readsRetry_untrackTerminated env.payload).trans (readsRetry_forwardPush _ env)

theorem Steady.reads
    (hinv : a.Steady)
    (hlink : a.link ≠ .none)
    (h : a.ReadsRetry b) :
    b.Steady := by
  have hlinked : b.link ≠ .none := by
    rw [h.link]
    exact hlink
  refine ⟨?_, ?_, fun _ _ _ => hlinked, ?_, fun _ _ _ _ => hlinked⟩
  · rw [reattaching?, h.phase]
    intro hrunning hnone
    exact retries_of_connected hlinked
      (h.attempt.trans ((hinv.retries hrunning hnone).connected hlink))
  · rw [reattaching?, h.phase, h.attempt]
    exact hinv.reattaching
  · rw [h.phase]
    exact hinv.sending

/-- In the main loop the actor retries. -/
theorem Steady.retries_of_idle {paused : Bool}
    (hinv : a.Steady)
    (hphase : a.phase = .idle paused) :
    a.Retries := by
  refine hinv.retries ?_ ?_
  · rw [hphase]
    exact fun hstopped => by cases hstopped
  · rw [reattaching?, hphase]
    rfl

/-- While it writes no request the actor retries too. -/
theorem Steady.retries_of_sending {via : Link} {env : ClientEnvelope} {after : AfterSend}
    (hinv : a.Steady)
    (hphase : a.phase = .sending via env after)
    (hnone : awaiting? (.sending via env after) = none) :
    a.Retries := by
  refine hinv.retries ?_ ?_
  · rw [hphase]
    exact fun hstopped => by cases hstopped
  · rw [reattaching?, hphase, hnone]
    rfl

variable [UuidText]

/-- **Step lemma.** -/
theorem Steady.receive {env : ServerEnvelope}
    (hinv : a.Steady)
    (hok : a.retryable (.receive env) = true)
    (hnext : a.receive env = some b) :
    b.Steady := by
  have hrecord : a.SameRetry (a.record (.received env (a.due env))) :=
    ⟨rfl, rfl, rfl, rfl, rfl, fun _ => id⟩
  unfold EndpointActor.receive at hnext
  split at hnext
  · rename_i hphase
    split at hnext
    · rename_i hsplit
      rw [Option.some.injEq] at hnext
      subst hnext
      have hreads := readsRetry_handleRuntimeMessage (a.record (.received env (a.due env))) env
      have hlink : a.link ≠ .none := by
        rw [hsplit]
        exact fun hnone => by cases hnone
      refine steady_toIdle (retries_of_connected ?_ ?_)
      · rw [hreads.link]
        exact hlink
      · rw [hreads.attempt]
        exact (hinv.retries_of_idle hphase).connected hlink
    · cases hnext
  · rename_i requestId expectTerminated awaiting hphase
    have hlink := hinv.receiving requestId expectTerminated awaiting hphase
    simp only at hnext
    split at hnext
    · rename_i hid
      rw [Option.some.injEq] at hnext
      subst hnext
      refine hinv.finish hrecord (by rw [hphase]; rfl) (fun _ _ => hlink) ?_
      exact resumes_of_retryable hok (by simp [result?, hphase, hid])
    · split at hnext
      · rw [Option.some.injEq] at hnext
        subst hnext
        have hrecorded : a.ReadsRetry (a.record (.received env (a.due env))) := ⟨rfl, rfl, rfl⟩
        exact hinv.reads hlink (hrecorded.trans (readsRetry_readOther _ env expectTerminated))
      · rw [Option.some.injEq] at hnext
        subst hnext
        exact hinv.reads hlink ⟨rfl, rfl, rfl⟩
  · cases hnext

theorem Steady.readFailed {error : DaemonError} {step : ActorStep}
    (hinv : a.Steady)
    (hok : a.retryable step = true)
    (hresult : ∀ requestId expectTerminated awaiting,
      a.phase = .receiving requestId expectTerminated awaiting →
        a.result? step = some (.error error, awaiting))
    (hnext : a.readFailed error = some b) :
    b.Steady := by
  unfold EndpointActor.readFailed at hnext
  split at hnext
  · rename_i hphase
    split at hnext
    · rw [Option.some.injEq] at hnext
      subst hnext
      exact steady_toIdle (retries_handleDisconnect (hinv.retries_of_idle hphase).resumes)
    · cases hnext
  · rename_i requestId expectTerminated awaiting hphase
    rw [Option.some.injEq] at hnext
    subst hnext
    exact hinv.finish (SameRetry.refl a) (by rw [hphase]; rfl) (fun _ h => by cases h)
      (resumes_of_retryable hok (hresult _ _ _ hphase))
  · cases hnext

theorem Steady.writeFails {error : DaemonError}
    (hinv : a.Steady)
    (hok : a.retryable (.writeFails error) = true)
    (hnext : a.next (.writeFails error) = some b) :
    b.Steady := by
  simp only [EndpointActor.next] at hnext
  split at hnext
  · rename_i via env after hphase
    rw [Option.ite_none_right_eq_some, Option.some.injEq] at hnext
    obtain ⟨_, rfl⟩ := hnext
    have hretries := hinv.retries_of_sending hphase
    cases after with
    | ignore => exact steady_toIdle (hretries rfl)
    | report workspaceId operation => exact steady_report (hretries rfl)
    | heartbeat => exact steady_toIdle (retries_handleDisconnect (hretries rfl).resumes)
    | await requestId expectTerminated awaiting =>
        have hresult : a.result? (.writeFails error) = some (.error error, awaiting) := by
          simp only [result?, hphase]
        exact hinv.finish (SameRetry.refl a) (by rw [hphase]; rfl) (fun _ h => by cases h)
          (resumes_of_retryable hok hresult)
  · cases hnext

theorem Steady.written
    (hinv : a.Steady)
    (hnext : a.next .written = some b) :
    b.Steady := by
  simp only [EndpointActor.next] at hnext
  split at hnext
  · rename_i via env after hphase
    rw [Option.ite_none_right_eq_some, Option.some.injEq] at hnext
    obtain ⟨hvia, rfl⟩ := hnext
    have hsame : a.SameRetry (a.record (.sent env)) := ⟨rfl, rfl, rfl, rfl, rfl, fun _ => id⟩
    have hretries := hinv.retries_of_sending hphase
    cases after with
    | ignore => exact steady_toIdle ((hretries rfl).same hsame)
    | report workspaceId operation => exact steady_toIdle ((hretries rfl).same hsame)
    | heartbeat => exact steady_toIdle ((hretries rfl).same hsame)
    | await requestId expectTerminated awaiting =>
        have hlink : a.link ≠ .none := by
          rw [hvia]
          exact hinv.sending via env _ hphase
        have hsaved : a.reattaching? = savedAttempt? awaiting := by
          rw [reattaching?, hphase]
          rfl
        refine ⟨fun _ hnone => ?_, fun saved hsome => ?_, fun _ _ _ => hlink, ?_,
          fun _ _ _ _ => hlink⟩
        · refine Retries.same (hinv.retries ?_ (hsaved.trans hnone))
            ⟨rfl, rfl, rfl, rfl, rfl, fun _ => id⟩
          rw [hphase]
          exact fun hstopped => by cases hstopped
        · exact hinv.reattaching saved (hsaved.trans hsome)
        · intro via' env' after' hsending
          cases hsending
  · cases hnext

theorem Steady.take {outcome : Except DaemonError Unit}
    (hinv : a.Steady)
    (hok : a.retryable (.take outcome) = true)
    (hnext : a.next (.take outcome) = some b) :
    b.Steady := by
  simp only [EndpointActor.next] at hnext
  split at hnext
  · rename_i paused command commands hphase hreceive
    rw [Option.some.injEq] at hnext
    subst hnext
    have hretries := hinv.retries_of_idle hphase
    simp only [retryable, hphase, hreceive] at hok
    have hitems := (Mailbox.receive_eq_some hreceive).1
    by_cases hreconnect : command = .reconnect
    · subst hreconnect
      exact steady_reconnect outcome hretries.connected hretries.resumes
    · refine steady_handleCommand ⟨hretries.connected, fun hlink hpos hle => ?_⟩ ?_ hok
      · obtain ⟨hscheduled, htracked⟩ := hretries.scheduled hlink hpos hle
        refine ⟨?_, htracked⟩
        rcases hscheduled with htimers | hqueued
        · exact Or.inl htimers
        · rw [hitems] at hqueued
          exact Or.inr ((List.mem_cons.mp hqueued).resolve_left (fun h => hreconnect h.symm))
      · show a.phase ≠ .stopped
        rw [hphase]
        exact fun hstopped => by cases hstopped
  · cases hnext

omit [UuidText] in
/-- A reconnect is scheduled after the connection was dropped. -/
theorem handshakeTimedOut_eq (a : EndpointActor) (workspaceId : String) :
    ∃ b delaySecs c, a.closeLink.SameRetry b ∧ (b.scheduleReconnect delaySecs).SameRetry c ∧
      a.handshakeTimedOut workspaceId = c.toIdle :=
  ⟨_, _, _, (sameRetry_emitStatus _ _ _).trans (sameRetry_emitStatus _ _ _),
    sameRetry_emitError _ _ _ _ _, rfl⟩

theorem steady_handshakeTimeout
    (hok : a.retryable .handshakeTimeout = true)
    (hnext : a.next .handshakeTimeout = some b) :
    b.Steady := by
  obtain ⟨workspaceId, hopening, rfl⟩ := Option.map_eq_some_iff.mp hnext
  have htracked : a.trackedWorkspaces.keys ≠ [] := by
    simpa [retryable, hopening] using hok
  obtain ⟨b, delaySecs, c, hclosed, hscheduled, heq⟩ := a.handshakeTimedOut_eq workspaceId
  rw [heq]
  refine steady_toIdle (Retries.same (retries_scheduleReconnect hclosed.link ?_) hscheduled)
  rw [hclosed.tracked]
  exact htracked

theorem Steady.timerFires {delaySecs : Nat}
    (hinv : a.Steady)
    (hok : a.retryable (.timerFires delaySecs) = true)
    (hnext : a.next (.timerFires delaySecs) = some b) :
    b.Steady := by
  simp only [EndpointActor.next, Option.ite_none_right_eq_some, Option.some.injEq] at hnext
  obtain ⟨_, rfl⟩ := hnext
  refine ⟨fun hrunning hnone => ?_, hinv.reattaching, hinv.onConnection, hinv.sending,
    hinv.receiving⟩
  have hretries := hinv.retries hrunning hnone
  refine ⟨hretries.connected, fun hlink hpos hle => ⟨?_, (hretries.scheduled hlink hpos hle).2⟩⟩
  have hawaits : a.AwaitsReconnect := ⟨hrunning, hlink, hpos, hle⟩
  simp only [retryable, hawaits, decide_true, Bool.not_true, Bool.false_or, Bool.or_eq_true,
    decide_eq_true_eq] at hok
  rcases hok with (hroom | htimers) | hqueued
  · refine Or.inr ?_
    rw [trySelf, (Mailbox.trySend_of_accepts hroom .reconnect).2]
    exact List.mem_append_right _ (List.mem_singleton_self _)
  · exact Or.inl htimers
  · exact Or.inr (Mailbox.mem_trySend hqueued _)

/-- **Step lemma.** -/
theorem Steady.next {step : ActorStep}
    (hinv : a.Steady)
    (hok : a.retryable step = true)
    (hnext : a.next step = some b) :
    b.Steady := by
  cases step with
  | command command =>
      rw [← Option.some.inj hnext]
      exact hinv.same (a.sameRetry_trySelf command) rfl
  | take outcome => exact hinv.take hok hnext
  | written => exact hinv.written hnext
  | writeFails error => exact hinv.writeFails hok hnext
  | receive env => exact hinv.receive hok hnext
  | readFails error =>
      refine hinv.readFailed hok (fun _ _ _ hphase => ?_) hnext
      simp only [result?, hphase]
  | peerCloses =>
      simp only [EndpointActor.next, Option.ite_none_left_eq_some, Option.some.injEq] at hnext
      obtain ⟨_, rfl⟩ := hnext
      exact hinv.same ⟨rfl, rfl, rfl, rfl, rfl, fun _ => id⟩ rfl
  | endOfStream =>
      simp only [EndpointActor.next, Option.ite_none_right_eq_some] at hnext
      refine hinv.readFailed hok (fun _ _ _ hphase => ?_) hnext.2
      simp only [result?, hphase]
  | handshakeTimeout => exact steady_handshakeTimeout hok hnext
  | heartbeatTick =>
      simp only [EndpointActor.next, Option.ite_none_right_eq_some, Option.some.injEq] at hnext
      obtain ⟨⟨hphase, _⟩, rfl⟩ := hnext
      exact steady_handleHeartbeatTick (hinv.retries_of_idle hphase)
  | pausePoll =>
      simp only [EndpointActor.next, Option.ite_none_right_eq_some, Option.some.injEq] at hnext
      obtain ⟨⟨hphase, _⟩, rfl⟩ := hnext
      exact steady_toIdle (hinv.retries_of_idle hphase)
  | timerFires delaySecs => exact hinv.timerFires hok hnext
  | drain =>
      obtain ⟨⟨event, events⟩, _, rfl⟩ := Option.map_eq_some_iff.mp hnext
      exact hinv.same ⟨rfl, rfl, rfl, rfl, rfl, fun _ => id⟩ rfl
  | watermark =>
      rw [← Option.some.inj hnext]
      unfold checkWatermark
      simp only
      split
      · exact hinv.same ⟨rfl, rfl, rfl, rfl, rfl, fun _ => id⟩ rfl
      · split
        · exact hinv.same ⟨rfl, rfl, rfl, rfl, rfl, fun _ => id⟩ rfl
        · exact hinv
  | otherEvent event =>
      rw [← Option.some.inj hnext]
      exact hinv.same ⟨rfl, rfl, rfl, rfl, rfl, fun _ => id⟩ rfl
  | reorder tracked =>
      simp only [EndpointActor.next, Option.ite_none_right_eq_some, Option.some.injEq] at hnext
      obtain ⟨hperm, rfl⟩ := hnext
      refine ⟨fun hrunning hnone => ?_, hinv.reattaching, hinv.onConnection, hinv.sending,
        hinv.receiving⟩
      have hretries := hinv.retries hrunning hnone
      refine ⟨hretries.connected, fun hlink hpos hle => ?_⟩
      obtain ⟨hscheduled, htracked⟩ := hretries.scheduled hlink hpos hle
      refine ⟨hscheduled, fun hempty => htracked ?_⟩
      have hkeys : a.trackedWorkspaces.keys.Perm tracked.keys := hperm.map Sigma.fst
      rw [show tracked.keys = [] from hempty] at hkeys
      exact hkeys.eq_nil

end Steps

section Retry

variable [UuidText]

theorem link_reattachNext {a : EndpointActor} {savedAttempt : Nat}
    (hlink : a.link ≠ .none)
    (rest : List (String × String)) :
    (a.reattachNext false savedAttempt rest).link ≠ .none := by
  induction rest with
  | nil => exact hlink
  | cons entry rest ih =>
      unfold reattachNext
      split
      · exact ih
      · unfold viaActiveChannel
        split <;> exact hlink

/-- Without a connection, what a reconnect needs is a workspace to serve. -/
theorem triesToConnect_iff {a : EndpointActor}
    (hlink : a.link = .none) :
    a.TriesToConnect ↔ a.trackedWorkspaces.keys ≠ [] := by
  have hdown : ¬ a.link ≠ .none := fun hne => hne hlink
  rw [TriesToConnect, reconnect, if_neg hdown, AList.keys]
  cases hentries : a.trackedWorkspaces.entries with
  | nil => simp [toIdle, hlink]
  | cons primary rest =>
      have hconnected := link_ensureConnected { a with reconnectAttempt := 0 } primary.1 (.ok ())
      have hkeys : (primary :: rest).keys ≠ [] := List.cons_ne_nil _ _
      simp only [hkeys, ne_eq, not_false_eq_true, iff_true]
      split
      · rename_i problem b hres
        rw [ensureConnected, if_neg hdown, if_neg (Nat.lt_irrefl 0)] at hres
        cases hres
      · rename_i b hres
        rw [hres] at hconnected
        have hlinked : ({ b with
            reconnectAttempt := a.reconnectAttempt } : EndpointActor).splitConnection.link ≠
              .none := link_splitConnection (hconnected rfl)
        exact link_reattachNext hlinked _

theorem steady_of_reachable {a : EndpointActor}
    (h : system.ReachableUnder (fun a step => a.retryable step = true) a) :
    a.Steady := by
  refine h.invariant ?_ (fun _ _ _ hinv hok hnext => Steady.next hinv hok hnext)
  rintro a ⟨endpoint, reconnectDelaySecs, rfl⟩
  exact Retries.steady ⟨fun _ => rfl, fun _ hpos => absurd hpos (Nat.lt_irrefl 0)⟩ rfl
    (fun _ _ _ hsending => by cases hsending)

/-- **Reconnects never stall** in runs all of whose steps keep one under way. -/
theorem reconnect_never_stalls {a : EndpointActor}
    (h : system.ReachableUnder (fun a step => a.retryable step = true) a) :
    a.NeverStalls := by
  have hinv := steady_of_reachable h
  rintro ⟨hrunning, hlink, hpos, hle⟩
  obtain ⟨hscheduled, htracked⟩ :=
    (hinv.retries hrunning (hinv.reattaching_eq_none hlink)).scheduled hlink hpos hle
  exact ⟨hscheduled, (triesToConnect_iff hlink).mpr htracked⟩

end Retry

section Exactness

variable [UuidText]
variable {a b : EndpointActor}

/-- Without a connection, a positive attempt within the limit and no workspace
to serve, a running actor is stuck. -/
theorem stalls_of_untracked
    (hrunning : a.phase ≠ .stopped)
    (hlink : a.link = .none)
    (hpos : 0 < a.reconnectAttempt)
    (hle : a.reconnectAttempt ≤ a.circuitBreakerLimit)
    (hnone : a.trackedWorkspaces.keys = []) :
    ¬ a.NeverStalls := by
  intro h
  exact (triesToConnect_iff hlink).mp (h ⟨hrunning, hlink, hpos, hle⟩).2 hnone

/-- The first connection fails for a while, and no workspace is tracked. -/
theorem ensureConnected_stuck (workspaceId : String) {outcome : Except DaemonError Unit}
    (hlink : a.link = .none)
    (hzero : a.reconnectAttempt = 0)
    (hnone : a.trackedWorkspaces.keys = [])
    (htransient : transient outcome = true) :
    ∃ problem c, a.ensureConnected workspaceId outcome = (some problem, c) ∧
      problem.isTransient = true ∧ ¬ c.toIdle.NeverStalls := by
  cases outcome with
  | ok _ => cases htransient
  | error error =>
      have hstart := a.sameRetry_emitStatus workspaceId a.startingStatus
      have hres : a.ensureConnected workspaceId (.error error) =
          (some (classifyConnectionProblem error),
            (a.emitStatus workspaceId a.startingStatus).connectFailed workspaceId error) := by
        have hdown : ¬ a.link ≠ .none := fun hne => hne hlink
        have hidle : ¬ 0 < a.reconnectAttempt := by omega
        rw [ensureConnected, if_neg hdown, if_neg hidle]
      obtain ⟨hfailed, htracked, hlimit, hcounted⟩ :=
        (a.emitStatus workspaceId a.startingStatus).connectFailed_spec workspaceId error
      have hone : ((a.emitStatus workspaceId a.startingStatus).connectFailed workspaceId
          error).reconnectAttempt = 1 := by
        rw [hcounted htransient, nextReconnectAttempt, hstart.attempt, hzero]
        rfl
      refine ⟨_, _, hres, htransient, stalls_of_untracked ?_ ?_ ?_ ?_ ?_⟩
      · exact fun hstopped => by cases hstopped
      · exact hfailed.trans (hstart.link.trans hlink)
      · exact hone ▸ Nat.one_pos
      · exact Nat.le_trans (Nat.le_of_eq hone) (one_le_circuitBreakerLimit _)
      · exact (congrArg AList.keys (htracked.trans hstart.tracked)).trans hnone

theorem withUuid_readable {value : String}
    (h : readable value = true)
    (workspaceId : String)
    (operation : ManagerOperation)
    (next : Uuid → EndpointActor) :
    ∃ id, a.withUuid workspaceId operation value next = next id := by
  unfold withUuid
  cases hparse : UuidText.parseStr value with
  | ok id => exact ⟨id, rfl⟩
  | error text =>
      rw [readable, hparse] at h
      cases h

/-- A command that a connection fails for, or that forgets the last workspace. -/
theorem stalls_of_not_retryableCommand {outcome : Except DaemonError Unit}
    {command : EndpointCommand}
    (hbad : a.retryableCommand outcome command = false) :
    ¬ (a.handleCommand outcome command).NeverStalls := by
  by_cases hforget : ∃ workspaceId, command = .forgetWorkspace workspaceId
  · obtain ⟨workspaceId, rfl⟩ := hforget
    simp only [retryableCommand, Bool.not_eq_false', Bool.and_eq_true, decide_eq_true_eq] at hbad
    obtain ⟨⟨_, hlink, hpos, hle⟩, hnone⟩ := hbad
    exact stalls_of_untracked (fun hstopped => by cases hstopped) hlink hpos hle hnone
  · have hfacts : a.link = .none ∧ a.reconnectAttempt = 0 ∧ a.trackedWorkspaces.keys = [] ∧
        connectsFor command = true ∧ transient outcome = true := by
      cases command with
      | forgetWorkspace workspaceId => exact absurd ⟨workspaceId, rfl⟩ hforget
      | _ => simpa [retryableCommand, and_assoc] using hbad
    obtain ⟨hlink, hzero, hnone, hconnects, htransient⟩ := hfacts
    have hstuck : ∀ workspaceId, ∃ problem c,
        a.ensureConnected workspaceId outcome = (some problem, c) ∧
          problem.isTransient = true ∧ ¬ c.toIdle.NeverStalls :=
      fun workspaceId => ensureConnected_stuck workspaceId hlink hzero hnone htransient
    have hwith : ∀ workspaceId operation next,
        ¬ (a.withConnection workspaceId operation outcome next).NeverStalls := by
      intro workspaceId operation next
      obtain ⟨problem, c, hres, hretried, hstall⟩ := hstuck workspaceId
      rw [withConnection, hres]
      simp only [hretried, if_true]
      exact hstall
    cases command with
    | openWorkspace request =>
        have hsame := a.sameRetry_emitStatus request.workspaceId .connecting
        obtain ⟨problem, c, hres, hretried, hstall⟩ := ensureConnected_stuck
          (a := a.emitStatus request.workspaceId .connecting) request.workspaceId
          (hsame.link.trans hlink) (hsame.attempt.trans hzero)
          ((congrArg AList.keys hsame.tracked).trans hnone) htransient
        rw [handleCommand, withConnection, hres]
        simp only [hretried, if_true]
        exact hstall
    | createPane workspaceId runtimeId layoutTerminalUuid spec => exact hwith _ _ _
    | splitPane workspaceId runtimeId targetPaneId layoutTerminalUuid axis ratio spec =>
        exact hwith _ _ _
    | closePane workspaceId runtimeId layoutTerminalUuid runtimePaneId => exact hwith _ _ _
    | refreshInventory => exact hwith _ _ _
    | detachWorkspace workspaceId runtimeId =>
        obtain ⟨id, hid⟩ := a.withUuid_readable hconnects workspaceId .detachWorkspace _
        rw [handleCommand, hid]
        exact hwith _ _ _
    | terminateWorkspace workspaceId runtimeId =>
        obtain ⟨id, hid⟩ := a.withUuid_readable hconnects workspaceId .terminateWorkspace _
        rw [handleCommand, hid]
        exact hwith _ _ _
    | renameWorkspace workspaceId runtimeId name automatic =>
        obtain ⟨id, hid⟩ := a.withUuid_readable hconnects workspaceId .renameWorkspace _
        obtain ⟨problem, c, hres, _, hstall⟩ := hstuck workspaceId
        rw [handleCommand, hid, hres]
        exact hstall
    | setPaneNoPersist workspaceId runtimeId runtimePaneId noPersist =>
        rw [connectsFor, Bool.and_eq_true] at hconnects
        obtain ⟨id, hid⟩ := a.withUuid_readable hconnects.1 workspaceId .setPaneNoPersist _
        obtain ⟨pane, hpane⟩ := a.withUuid_readable hconnects.2 workspaceId .setPaneNoPersist _
        obtain ⟨problem, c, hres, _, hstall⟩ := hstuck workspaceId
        rw [handleCommand, hid, hpane, hres]
        exact hstall
    | _ => cases hconnects

/-- Nothing is left to reattach. -/
theorem reattachNext_end {rest : List (String × String)}
    (hall : (rest.all fun e => !readable e.2) = true)
    (anyTransientFailure : Bool)
    (savedAttempt : Nat) :
    a.reattachNext anyTransientFailure savedAttempt rest =
      a.reattachNext anyTransientFailure savedAttempt [] := by
  induction rest with
  | nil => rfl
  | cons entry rest ih =>
      rw [List.all_cons, Bool.and_eq_true] at hall
      have hskip : a.reattachNext anyTransientFailure savedAttempt (entry :: rest) =
          a.reattachNext anyTransientFailure savedAttempt rest := by
        rw [reattachNext]
        cases hparse : UuidText.parseStr entry.2 with
        | ok id => simp [readable, hparse, Except.isOk, Except.toBool] at hall
        | error text => rfl
      exact hskip.trans (ih hall.2)

/-- A connection is lost when there are no workspaces to reconnect for. -/
theorem stalls_handleDisconnect
    (hpos : 0 < a.reconnectAttempt)
    (hle : a.reconnectAttempt ≤ a.circuitBreakerLimit)
    (hnone : a.trackedWorkspaces.keys = []) :
    ¬ a.handleDisconnect.toIdle.NeverStalls := by
  have hclosed : a.handleDisconnect =
      { a.closeLink with heartbeat := a.closeLink.heartbeat.reset } := if_pos hnone
  rw [hclosed]
  exact stalls_of_untracked (fun hstopped => by cases hstopped) rfl hpos hle hnone

/-- A reconnect that fails for workspaces that are gone. -/
theorem stalls_of_failsReconnect {result : Except DaemonError ServerPayload} {awaiting : Awaiting}
    (hfails : failsReconnect result awaiting = true)
    (hsaved : savedAttempt? awaiting = some a.reconnectAttempt)
    (hpos : 0 < a.reconnectAttempt)
    (hle : a.reconnectAttempt ≤ a.circuitBreakerLimit)
    (hnone : a.trackedWorkspaces.keys = []) :
    ¬ (a.finish result awaiting).NeverStalls := by
  cases awaiting with
  | reattach workspaceId runtimeId rest anyTransientFailure savedAttempt =>
      rw [savedAttempt?, Option.some.injEq] at hsaved
      rw [failsReconnect, Bool.and_eq_true, Bool.or_eq_true] at hfails
      obtain ⟨hfailed, hall⟩ := hfails
      have hend : ∀ c : EndpointActor, a.SameRetry c →
          ¬ (c.reattachNext true savedAttempt rest).NeverStalls := by
        intro c hsame
        have hsame' : { c with reconnectAttempt := savedAttempt } = c := by
          rw [hsaved, ← hsame.attempt]
        have hlimit : a.circuitBreakerLimit = c.circuitBreakerLimit := by
          rw [circuitBreakerLimit, circuitBreakerLimit, hsame.delaySecs]
        rw [reattachNext_end hall, reattachNext, if_pos rfl, hsame']
        refine stalls_handleDisconnect ?_ ?_ (by rw [hsame.tracked, hnone])
        · exact hsame.attempt ▸ hpos
        · exact hsame.attempt ▸ hlimit ▸ hle
      simp only [finish]
      split
      · rename_i runtimeId' snapshot
        have hany : anyTransientFailure = true :=
          hfailed.resolve_right (fun h => by simp [attachFailure, failure,
            classifyConnectionProblem, ConnectionProblem.isTransient] at h)
        subst hany
        exact hend _ ((a.sameRetry_emit _).trans (sameRetry_emitStatus _ _ _))
      · split
        · rename_i hmissing
          have hany : anyTransientFailure = true :=
            hfailed.resolve_right (fun h => by rw [hmissing] at h; cases h)
          subst hany
          exact hend _ (a.sameRetry_emitStatus _ _)
        · split
          · exact hend a (SameRetry.refl a)
          · rename_i hpermanent
            have hany : anyTransientFailure = true :=
              hfailed.resolve_right (fun h => hpermanent h)
            subst hany
            exact hend _ (a.sameRetry_emitError _ _ _ _)
  | _ => cases hfails

theorem stalls_of_handshakeTimedOut {workspaceId : String}
    (hzero : a.reconnectAttempt = 0)
    (hnone : a.trackedWorkspaces.keys = []) :
    ¬ (a.handshakeTimedOut workspaceId).NeverStalls := by
  obtain ⟨b, delaySecs, c, hclosed, hscheduled, heq⟩ := a.handshakeTimedOut_eq workspaceId
  obtain ⟨hlink, htracked, _, hattempt, _⟩ := b.scheduleReconnect_spec delaySecs
  have hone : c.reconnectAttempt = 1 := by
    rw [hscheduled.attempt, hattempt, nextReconnectAttempt, hclosed.attempt]
    exact congrArg (fun n => min (n + 1) (2 ^ 32 - 1)) hzero
  rw [heq]
  refine stalls_of_untracked (fun hstopped => by cases hstopped)
    (hscheduled.link.trans (hlink.trans hclosed.link)) ?_ ?_ ?_
  · exact hone ▸ Nat.one_pos
  · exact Nat.le_trans (Nat.le_of_eq hone) (one_le_circuitBreakerLimit _)
  · rw [← hnone]
    exact congrArg AList.keys (hscheduled.tracked.trans (htracked.trans hclosed.tracked))

/-- A timer fires into a full channel, and nothing else is scheduled. -/
theorem stalls_of_timerFires {delaySecs : Nat}
    (hbad : a.retryable (.timerFires delaySecs) = false)
    (hnext : a.next (.timerFires delaySecs) = some b) :
    ¬ b.NeverStalls := by
  simp only [EndpointActor.next, Option.ite_none_right_eq_some, Option.some.injEq] at hnext
  obtain ⟨_, rfl⟩ := hnext
  simp only [retryable, Bool.or_eq_false_iff, Bool.not_eq_false', decide_eq_true_eq,
    decide_eq_false_iff_not, not_not] at hbad
  obtain ⟨⟨⟨hawaits, hfull⟩, htimers⟩, hqueue⟩ := hbad
  intro h
  rcases (h hawaits).1 with hrunning | hqueued
  · exact hrunning htimers
  · refine hqueue ?_
    rcases a.commands.trySend_cases .reconnect with ⟨hroom, _⟩ | ⟨_, hsame⟩ | ⟨_, hsame⟩
    · rw [hfull] at hroom
      cases hroom
    · rwa [trySelf, hsame] at hqueued
    · rwa [trySelf, hsame] at hqueued

/-- What a step with a result does. -/
theorem next_result {step : ActorStep} {result : Except DaemonError ServerPayload}
    {awaiting : Awaiting}
    (hresult : a.result? step = some (result, awaiting))
    (hnext : a.next step = some b) :
    awaiting? a.phase = some awaiting ∧ ∃ c, a.SameRetry c ∧ b = c.finish result awaiting := by
  cases step with
  | receive env =>
      simp only [result?] at hresult
      split at hresult
      · rename_i requestId expectTerminated awaiting' hphase
        simp only [Option.ite_none_right_eq_some, Option.some.injEq, Prod.mk.injEq] at hresult
        obtain ⟨hid, rfl, rfl⟩ := hresult
        simp only [EndpointActor.next, EndpointActor.receive, hphase, hid, if_true,
          Option.some.injEq] at hnext
        exact ⟨by rw [hphase]; rfl, a.record (.received env (a.due env)),
          ⟨rfl, rfl, rfl, rfl, rfl, fun _ => id⟩, hnext.symm⟩
      · cases hresult
  | readFails error =>
      simp only [result?] at hresult
      split at hresult
      · rename_i requestId expectTerminated awaiting' hphase
        simp only [Option.some.injEq, Prod.mk.injEq] at hresult
        obtain ⟨rfl, rfl⟩ := hresult
        simp only [EndpointActor.next, EndpointActor.readFailed, hphase, Option.some.injEq] at hnext
        exact ⟨by rw [hphase]; rfl, a, SameRetry.refl a, hnext.symm⟩
      · cases hresult
  | endOfStream =>
      simp only [result?] at hresult
      split at hresult
      · rename_i requestId expectTerminated awaiting' hphase
        simp only [Option.some.injEq, Prod.mk.injEq] at hresult
        obtain ⟨rfl, rfl⟩ := hresult
        simp only [EndpointActor.next, EndpointActor.readFailed, hphase,
          Option.ite_none_right_eq_some, Option.some.injEq] at hnext
        exact ⟨by rw [hphase]; rfl, a, SameRetry.refl a, hnext.2.symm⟩
      · cases hresult
  | writeFails error =>
      simp only [result?] at hresult
      split at hresult
      · rename_i via env requestId expectTerminated awaiting' hphase
        simp only [Option.some.injEq, Prod.mk.injEq] at hresult
        obtain ⟨rfl, rfl⟩ := hresult
        simp only [EndpointActor.next, hphase, Option.ite_none_right_eq_some,
          Option.some.injEq] at hnext
        exact ⟨by rw [hphase]; rfl, a, SameRetry.refl a, hnext.2.symm⟩
      · cases hresult
  | _ => cases hresult

/-- Any other step leaves such an actor stuck: the condition is exact. -/
theorem stalls_of_not_retryable {step : ActorStep}
    (h : system.ReachableUnder (fun a step => a.retryable step = true) a)
    (hbad : a.retryable step = false)
    (hnext : a.next step = some b) :
    ¬ b.NeverStalls := by
  have hinv := steady_of_reachable h
  cases hresult : a.result? step with
  | some found =>
      obtain ⟨result, awaiting⟩ := found
      obtain ⟨hawaiting, c, hsame, rfl⟩ := next_result hresult hnext
      have hfacts : failsReconnect result awaiting = true ∧ a.trackedWorkspaces.keys = [] ∧
          0 < a.reconnectAttempt ∧ a.reconnectAttempt ≤ a.circuitBreakerLimit := by
        cases step with
        | take outcome => cases hresult
        | handshakeTimeout => cases hresult
        | timerFires delaySecs => cases hresult
        | _ => simpa [retryable, hresult, and_assoc] using hbad
      obtain ⟨hfails, hnone, hpos, hle⟩ := hfacts
      have hlimit : c.circuitBreakerLimit = a.circuitBreakerLimit := by
        rw [circuitBreakerLimit, circuitBreakerLimit, hsame.delaySecs]
      refine stalls_of_failsReconnect hfails ?_ (hsame.attempt ▸ hpos) ?_ (hsame.tracked ▸ hnone)
      · cases awaiting with
        | reattach workspaceId runtimeId rest anyTransientFailure savedAttempt =>
            rw [hsame.attempt, hinv.reattaching savedAttempt (by rw [reattaching?, hawaiting]; rfl)]
            rfl
        | _ => cases hfails
      · rw [hsame.attempt, hlimit]
        exact hle
  | none =>
      cases step with
      | take outcome =>
          simp only [EndpointActor.next] at hnext
          split at hnext
          · rename_i paused command commands hphase hreceive
            rw [Option.some.injEq] at hnext
            subst hnext
            simp only [retryable, hphase, hreceive] at hbad
            exact stalls_of_not_retryableCommand (a := { a with commands := commands }) hbad
          · cases hnext
      | handshakeTimeout =>
          obtain ⟨workspaceId, hopening, rfl⟩ := Option.map_eq_some_iff.mp hnext
          have hnone : a.trackedWorkspaces.keys = [] := by
            simpa [retryable, hopening] using hbad
          exact stalls_of_handshakeTimedOut (hinv.opening hopening) hnone
      | timerFires delaySecs => exact stalls_of_timerFires hbad hnext
      | _ => simp [retryable, hresult] at hbad

end Exactness

section Runs

def freshActor : EndpointActor :=
  .new .localHost 10

theorem freshActor_init : system.init freshActor :=
  ⟨.localHost, 10, rfl⟩

/-- A workspace was opened, the connection broke, and the first reconnect was
refused. -/
def lostConnection : List ActorStep :=
  [.command (.openWorkspace ⟨"w", "work", .persistent, none, none, none, false⟩),
    .take (.ok ()), .written, .receive ⟨1, .workspaceCreated 7 1⟩, .written,
    .receive ⟨2, .workspaceSnapshot 7 ⟨uuidToBytes 7, 1, .writer, [], none, [], "work", false⟩⟩,
    .readFails .disconnected, .timerFires 1, .take (.error (.io "Connection refused"))]

/-- The theorem at the end of that run: a reconnect is awaited. -/
theorem reconnect_never_stalls_lostConnection :
    ∃ a : EndpointActor, a.AwaitsReconnect ∧ a.NeverStalls := by
  obtain ⟨a, hreach, hawaits⟩ := System.exists_reachableUnder retryable lostConnection
    (p := fun a => a.AwaitsReconnect) freshActor_init (by decide +kernel)
  exact ⟨a, hawaits, reconnect_never_stalls hreach⟩

/-- The connection for the first workspace is refused; the reconnect that was
scheduled comes up. -/
def refusedOpening : List ActorStep :=
  [.command (.openWorkspace ⟨"w", "work", .persistent, none, none, none, false⟩),
    .take (.error (.io "Connection refused")), .timerFires 1, .take (.ok ())]

theorem refusedOpening_runs :
    (system.exec freshActor refusedOpening).isSome = true := by
  decide +kernel

def refusedOpeningEnd : EndpointActor :=
  (system.exec freshActor refusedOpening).get refusedOpening_runs

/-- **Reconnects stall** after the first connection failed: the reconnect has
no workspace to serve, no other one is scheduled, and the positive attempt keeps
every command from connecting. -/
theorem reconnect_stalls :
    system.Reachable refusedOpeningEnd ∧
      refusedOpeningEnd.AwaitsReconnect ∧
      ¬ refusedOpeningEnd.ReconnectScheduled ∧
      ¬ refusedOpeningEnd.TriesToConnect ∧
      ¬ ∀ a : EndpointActor, system.Reachable a → a.NeverStalls := by
  have hreachable : system.Reachable refusedOpeningEnd :=
    System.reachable_get freshActor_init refusedOpening_runs
  have hawaits : refusedOpeningEnd.AwaitsReconnect := by decide +kernel
  have hunscheduled : ¬ refusedOpeningEnd.ReconnectScheduled := by decide +kernel
  have hstuck : ¬ refusedOpeningEnd.TriesToConnect := by
    rw [triesToConnect_iff hawaits.2.1]
    decide +kernel
  refine ⟨hreachable, hawaits, hunscheduled, hstuck, ?_⟩
  intro hall
  exact hunscheduled (hall _ hreachable hawaits).1

end Runs

end EndpointActor

end Client
end Rttx
