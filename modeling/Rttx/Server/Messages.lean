import Rttx.Kernel.Mailbox
import Rttx.Server.Snapshot

/-!
# Server envelopes and client channels

A server envelope answers a request, under the request's id, or is a push under
the id zero.  Each connected client has two bounded channels, for pushes and
for responses; its writer task takes from both, responses first.

A channel pair also records its history: what went in, what was dropped because
the push channel was full, and the end of the connection.  Nothing reads it.

**Results.**
* `trySendPush_cases`, `trySendResp_cases`: the outcomes of sending.
* `owed_append`: which workspaces a client is owed an overflow notice for.
-/

namespace Rttx
namespace Server

open Kernel

section Payloads

/-- Negotiated capabilities. -/
inductive Capability
  | coreWorkspaceLifecycle
  | corePaneLifecycle
  | coreTerminalIo
  | coreTerminalModes
  | corePasteIntent
  | coreFocusEvents
  | optWorkspaceInventory
  | optWorkspaceTakeover
  | optResync
  | optChunkedScrollback
  | optDiagnostics
  | optClipboardOsc52
deriving DecidableEq, Repr

inductive ErrorKind
  | protocolMismatch
  | unsupportedCapability
  | invalidArgument
  | workspaceNotFound
  | paneNotFound
  | ownershipConflict
  | takeoverRequired
  | streamOverflow
  | internal
deriving DecidableEq, Repr

/-- The payload of a server envelope. -/
inductive ServerPayload
  | outputDelta (runtimeId paneId : Uuid) (data : Bytes) (paneOutputSeq : Nat)
  | pong (nonce : Nat)
  | workspaceCreated (runtimeId : Uuid) (workspaceRevision : Nat)
  | workspaceSnapshot (runtimeId : Uuid) (snapshot : WorkspaceSnapshot)
  | workspaceDetached (runtimeId : Uuid) (workspaceRevision : Nat)
  | workspaceTerminated (runtimeId : Uuid) (finalRevision : Nat) (reason : TerminationReason)
  | workspaceRenamed (runtimeId : Uuid) (name : String) (workspaceRevision : Nat)
      (userRenamed : Bool)
  | workspaceList (runtimeIds : List Uuid)
  | attachBlocked (runtimeId : Uuid) (currentRole : Option ClientRole)
  | takeoverCompleted (runtimeId : Uuid) (workspaceRevision : Nat)
  | leaseLost (runtimeId : Uuid) (workspaceRevision : Nat) (newOwnerId : Uuid)
  | paneCreated (runtimeId paneId : Uuid) (workspaceRevision : Nat)
  | paneClosed (runtimeId paneId : Uuid) (workspaceRevision : Nat)
  | paneExited (runtimeId paneId : Uuid) (status : Int) (workspaceRevision : Nat)
  | titleChanged (runtimeId paneId : Uuid) (title : String) (workspaceRevision : Nat)
  | cwdChanged (runtimeId paneId : Uuid) (cwd : String) (workspaceRevision : Nat)
  | paneSplit (runtimeId targetPaneId newPaneId : Uuid) (axis : SplitAxis) (ratio : F32)
      (workspaceRevision : Nat)
  | splitResized (runtimeId : Uuid) (path : List Side) (ratio : F32) (workspaceRevision : Nat)
  | focusChanged (runtimeId paneId : Uuid) (workspaceRevision : Nat)
  | clipboardWrite (runtimeId paneId : Uuid) (target : String) (data : Bytes)
  | streamOverflow (runtimeId : Uuid) (paneId : Option Uuid) (droppedCount : Nat)
  | error (kind : ErrorKind) (message operation : String)
deriving DecidableEq

/-- An envelope; a push has the request id zero. -/
structure ServerEnvelope where
  requestId : Nat
  payload : ServerPayload
deriving DecidableEq

namespace ServerPayload

/-- The workspace a payload is about. -/
def runtimeId? : ServerPayload → Option Uuid
  | outputDelta runtimeId _ _ _ => some runtimeId
  | workspaceCreated runtimeId _ => some runtimeId
  | workspaceSnapshot runtimeId _ => some runtimeId
  | workspaceDetached runtimeId _ => some runtimeId
  | workspaceTerminated runtimeId _ _ => some runtimeId
  | workspaceRenamed runtimeId _ _ _ => some runtimeId
  | attachBlocked runtimeId _ => some runtimeId
  | takeoverCompleted runtimeId _ => some runtimeId
  | leaseLost runtimeId _ _ => some runtimeId
  | paneCreated runtimeId _ _ => some runtimeId
  | paneClosed runtimeId _ _ => some runtimeId
  | paneExited runtimeId _ _ _ => some runtimeId
  | titleChanged runtimeId _ _ _ => some runtimeId
  | cwdChanged runtimeId _ _ _ => some runtimeId
  | paneSplit runtimeId _ _ _ _ _ => some runtimeId
  | splitResized runtimeId _ _ _ => some runtimeId
  | focusChanged runtimeId _ _ => some runtimeId
  | clipboardWrite runtimeId _ _ _ => some runtimeId
  | streamOverflow runtimeId _ _ => some runtimeId
  | pong _ => none
  | workspaceList _ => none
  | error _ _ _ => none

end ServerPayload

namespace ServerEnvelope

def push (payload : ServerPayload) : ServerEnvelope :=
  ⟨0, payload⟩

end ServerEnvelope

end Payloads

section Channels

/-- What happened on a client's channels. -/
inductive ChannelEvent
  | pushed (payload : ServerPayload)
  | dropped (payload : ServerPayload)
  | responded (env : ServerEnvelope)
  | ended
deriving DecidableEq

/-- The channels of a connected client, with their history. -/
structure ClientChannel where
  push : Mailbox ServerPayload
  resp : Mailbox ServerEnvelope
  log : List ChannelEvent
deriving DecidableEq

/-- Capacity of a client's push channel. -/
def pushChannelBound : Nat := 4096

/-- Capacity of a client's response channel. -/
def respChannelBound : Nat := 256

namespace ClientChannel

def new : ClientChannel :=
  ⟨.empty pushChannelBound, .empty respChannelBound, []⟩

/-- Send a push without waiting; a full channel drops it. -/
def trySendPush (ch : ClientChannel) (payload : ServerPayload) : SendResult × ClientChannel :=
  match ch.push.trySend payload with
  | (.sent, push) => (.sent, { ch with push := push, log := ch.log ++ [.pushed payload] })
  | (.full, _) => (.full, { ch with log := ch.log ++ [.dropped payload] })
  | (.closed, _) => (.closed, ch)

/-- Send a response without waiting. -/
def trySendResp (ch : ClientChannel) (env : ServerEnvelope) : SendResult × ClientChannel :=
  match ch.resp.trySend env with
  | (.sent, resp) => (.sent, { ch with resp := resp, log := ch.log ++ [.responded env] })
  | (result, _) => (result, ch)

/-- The connection ends: the client's reader returns, or its writer exits. -/
def readerReturns (ch : ClientChannel) : ClientChannel :=
  { ch with log := ch.log ++ [.ended] }

def writerExits (ch : ClientChannel) : ClientChannel :=
  { ch with push := ch.push.close, resp := ch.resp.close, log := ch.log ++ [.ended] }

/-- The writer takes the next message, responses first. -/
def deliver (ch : ClientChannel) : Option (ServerEnvelope × ClientChannel) :=
  match ch.resp.receive, ch.push.receive with
  | some (env, resp), _ => some (env, { ch with resp := resp })
  | none, some (payload, push) => some (.push payload, { ch with push := push })
  | none, none => none

/-- Whether the connection has ended. -/
def hasEnded (ch : ClientChannel) : Bool :=
  ChannelEvent.ended ∈ ch.log

/-- The workspaces after one more event: a dropped push adds its own, an
overflow notice removes the one it names. -/
def owedStep (owed : List Uuid) : ChannelEvent → List Uuid
  | .dropped payload => owed ++ payload.runtimeId?.toList
  | .responded env =>
      match env.payload with
      | .streamOverflow runtimeId _ _ => owed.filter (fun id => id ≠ runtimeId)
      | _ => owed
  | _ => owed

/-- The workspaces with a dropped push that no overflow notice has followed. -/
def owed (ch : ClientChannel) : List Uuid :=
  ch.log.foldl owedStep []

end ClientChannel

end Channels

section Laws

namespace ClientChannel

theorem owed_append (ch : ClientChannel) (event : ChannelEvent) :
    ({ ch with log := ch.log ++ [event] } : ClientChannel).owed = owedStep ch.owed event := by
  simp only [owed, List.foldl_append, List.foldl_cons, List.foldl_nil]

/-- The outcomes of a push. -/
theorem trySendPush_cases (ch : ClientChannel) (payload : ServerPayload) :
    (ch.push.overflows = false ∧ (ch.trySendPush payload).1 ≠ .full ∧
        (ch.trySendPush payload).2.resp = ch.resp ∧
        (ch.trySendPush payload).2.hasEnded = ch.hasEnded ∧
        (ch.trySendPush payload).2.owed = ch.owed) ∨
      (ch.push.overflows = true ∧
        ch.trySendPush payload = (.full, { ch with log := ch.log ++ [.dropped payload] })) := by
  rcases ch.push.trySend_cases payload with ⟨haccepts, hsent, _⟩ | ⟨hfull, hres⟩ | ⟨hclosed, hres⟩
  · left
    have hroom : ch.push.overflows = false := by
      simp only [Mailbox.accepts, Mailbox.overflows, Bool.and_eq_true, decide_eq_true_eq] at *
      simp only [haccepts.1, Bool.true_and, decide_eq_false_iff_not]
      omega
    rcases hres : ch.push.trySend payload with ⟨result, push⟩
    rw [hres] at hsent
    simp only at hsent
    subst hsent
    refine ⟨hroom, ?_, ?_, ?_, ?_⟩
    · simp [trySendPush, hres]
    · simp [trySendPush, hres]
    · simp [trySendPush, hres, hasEnded]
    · simp only [trySendPush, hres]
      exact owed_append { ch with push := push } _
  · right
    refine ⟨hfull, ?_⟩
    simp [trySendPush, hres]
  · left
    have hnot : ch.push.overflows = false := by simp [Mailbox.overflows, hclosed]
    refine ⟨hnot, ?_, ?_, ?_, ?_⟩ <;> simp [trySendPush, hres]

/-- The outcomes of a response. -/
theorem trySendResp_cases (ch : ClientChannel) (env : ServerEnvelope) :
    (ch.resp.accepts = true ∧ (ch.trySendResp env).1 = .sent ∧
        (ch.trySendResp env).2.push = ch.push ∧
        (ch.trySendResp env).2.log = ch.log ++ [.responded env]) ∨
      (ch.resp.accepts = false ∧ (ch.trySendResp env).1 ≠ .sent ∧
        (ch.trySendResp env).2 = ch) := by
  rcases ch.resp.trySend_cases env with ⟨haccepts, hsent, _⟩ | ⟨hfull, hres⟩ | ⟨hclosed, hres⟩
  · left
    rcases hres : ch.resp.trySend env with ⟨result, resp⟩
    rw [hres] at hsent
    simp only at hsent
    subst hsent
    refine ⟨haccepts, ?_, ?_, ?_⟩ <;> simp [trySendResp, hres]
  · right
    have hnot : ch.resp.accepts = false := by
      simp only [Mailbox.overflows, Mailbox.accepts, Bool.and_eq_true, decide_eq_true_eq] at *
      simp only [hfull.1, Bool.true_and, decide_eq_false_iff_not]
      omega
    refine ⟨hnot, ?_, ?_⟩ <;> simp [trySendResp, hres]
  · right
    have hnot : ch.resp.accepts = false := by simp [Mailbox.accepts, hclosed]
    refine ⟨hnot, ?_, ?_⟩ <;> simp [trySendResp, hres]

/-- Sending only adds to the history. -/
theorem log_trySendPush (ch : ClientChannel) (payload : ServerPayload) :
    ∀ e ∈ ch.log, e ∈ (ch.trySendPush payload).2.log := by
  intro e he
  unfold trySendPush
  split
  · exact List.mem_append_left _ he
  · exact List.mem_append_left _ he
  · exact he

theorem log_trySendResp (ch : ClientChannel) (env : ServerEnvelope) :
    ∀ e ∈ ch.log, e ∈ (ch.trySendResp env).2.log := by
  intro e he
  unfold trySendResp
  split
  · exact List.mem_append_left _ he
  · exact he

theorem log_deliver (ch : ClientChannel) {env : ServerEnvelope} {ch' : ClientChannel}
    (h : ch.deliver = some (env, ch')) :
    ch'.log = ch.log := by
  unfold deliver at h
  split at h
  · simp only [Option.some.injEq, Prod.mk.injEq] at h
    rw [← h.2]
  · simp only [Option.some.injEq, Prod.mk.injEq] at h
    rw [← h.2]
  · cases h

end ClientChannel

end Laws

end Server
end Rttx
