import Rttx.Client.WorkspaceState
import Rttx.Server.Messages

/-!
# What a connection actor exchanges

One actor per endpoint owns the connection to its daemon.  The window sends it
commands, it sends the window events, and it exchanges envelopes with the
daemon.  Errors of the connection are classified into problems, of which only
an unavailable daemon is retried.

**Results.**
* `isTransient_classify`: what is retried is a transport error.
* `canonicalText`: the canonical form of an id reads back.
* `uuidToString_injective`: distinct ids have distinct forms.
-/

namespace Rttx
namespace Client

open Kernel Server

section Problems

/-- Errors from daemon communication. -/
inductive DaemonError
  | io (message : String)
  | frame (message : String)
  | versionMismatch (server client : Nat)
  | protocolError (kind : ErrorKind) (message : String)
  | serverError (code : Nat) (message : String)
  | unexpectedMessage
  | attachBlocked (runtimeId : Uuid) (currentRole : Option ClientRole)
  | disconnected
  | daemonNotInstalled (host binary : String)
deriving DecidableEq, Repr

/-- Class of connection problem. -/
inductive ConnectionProblem
  | daemonUnavailable
  | daemonDied
  | daemonNotInstalled (detail : String)
  | versionMismatch
  | ownershipConflict
  | takenOver
  | permissionDenied
  | sessionMissing
  | protocol (detail : String)
  | userActionRequired (detail : String)
deriving DecidableEq, Repr

/-- Connection state of a managed workspace. -/
inductive ConnectionStatus
  | starting
  | connecting
  | connected
  | reconnecting (attempt retryInSecs : Nat)
  | blocked (problem : ConnectionProblem)
  | disconnected
  | recovered
  | sessionMissing
deriving DecidableEq, Repr

inductive ConnectionEvent
  | started
  | connected
  | lost
  | retryScheduled (attempt retryInSecs : Nat)
  | failed (problem : ConnectionProblem)
  | recovered
  | sessionMissing
deriving DecidableEq, Repr

/-- Advance a connection status; the current one plays no part. -/
def advanceConnectionStatus (_current : ConnectionStatus) : ConnectionEvent → ConnectionStatus
  | .started => .starting
  | .connected => .connected
  | .lost => .disconnected
  | .retryScheduled attempt retryInSecs => .reconnecting attempt retryInSecs
  | .recovered => .recovered
  | .failed problem => .blocked problem
  | .sessionMissing => .sessionMissing

namespace DaemonError

/-- The displayed text of an error. -/
def text : DaemonError → String
  | io message => "io: " ++ message
  | frame message => "frame: " ++ message
  | versionMismatch server client =>
      "protocol version mismatch: server=" ++ toString server ++ ", client=" ++ toString client
  | protocolError _ message => "server error: " ++ message
  | serverError code message => "server error (" ++ toString code ++ "): " ++ message
  | unexpectedMessage => "unexpected message from server"
  | attachBlocked _ _ => "runtime attach blocked"
  | disconnected => "connection closed"
  | daemonNotInstalled host binary =>
      "rttx-server not installed on " ++ host ++ " (tried: " ++ binary ++ ")"

end DaemonError

namespace ConnectionProblem

/-- Whether the actor retries the connection by itself. -/
def isTransient : ConnectionProblem → Bool
  | daemonUnavailable => true
  | _ => false

def label : ConnectionProblem → String
  | daemonUnavailable => "Daemon unavailable"
  | daemonDied => "Daemon stopped"
  | versionMismatch => "Version mismatch"
  | ownershipConflict => "Workspace already owned"
  | takenOver => "Another client took over this workspace"
  | permissionDenied => "Permission denied"
  | sessionMissing => "Session no longer exists"
  | daemonNotInstalled detail => detail
  | protocol detail => detail
  | userActionRequired detail => detail

end ConnectionProblem

/-- Map a transport or protocol error to a problem. -/
def classifyConnectionProblem : DaemonError → ConnectionProblem
  | .versionMismatch _ _ => .versionMismatch
  | .attachBlocked _ _ => .ownershipConflict
  | .protocolError kind message =>
      match kind with
      | .workspaceNotFound => .sessionMissing
      | .ownershipConflict => .ownershipConflict
      | .takeoverRequired => .ownershipConflict
      | .protocolMismatch => .protocol message
      | .unsupportedCapability => .protocol message
      | _ => .userActionRequired message
  | .serverError code message =>
      if code = 4 then .sessionMissing
      else if code = 8 then .userActionRequired message
      else if code = 9 then .ownershipConflict
      else .userActionRequired message
  | .io _ => .daemonUnavailable
  | .disconnected => .daemonUnavailable
  | .daemonNotInstalled host binary =>
      .daemonNotInstalled (DaemonError.daemonNotInstalled host binary).text
  | .frame message => .protocol message
  | .unexpectedMessage => .protocol "Unexpected daemon message"

/-- Only errors of the transport are retried. -/
theorem isTransient_classify {error : DaemonError}
    (h : (classifyConnectionProblem error).isTransient = true) :
    error = .disconnected ∨ ∃ message, error = .io message := by
  cases error with
  | disconnected => exact Or.inl rfl
  | io message => exact Or.inr ⟨message, rfl⟩
  | protocolError kind message => cases kind <;> cases h
  | serverError code message =>
      simp only [classifyConnectionProblem] at h
      split at h
      · cases h
      · split at h
        · cases h
        · split at h <;> cases h
  | versionMismatch server client => cases h
  | attachBlocked runtimeId currentRole => cases h
  | daemonNotInstalled host binary => cases h
  | frame message => cases h
  | unexpectedMessage => cases h

end Problems

section Texts

/-- Reading the textual form of an id.  The canonical form reads back; which
other forms are accepted, and the text of the error, are left open. -/
class UuidText where
  parseStr : String → Except String Uuid
  parseStr_uuidToString : ∀ id, parseStr (uuidToString id) = .ok id

def hexValue (c : Char) : Nat :=
  if c.toNat < 0x3a then c.toNat - 0x30 else c.toNat - 0x61 + 10

/-- The number a list of hexadecimal digits denotes. -/
def readHex (digits : List Char) : Nat :=
  digits.foldl (fun n c => 16 * n + hexValue c) 0

theorem hexValue_hexDigit {n : Nat}
    (h : n < 16) :
    hexValue (hexDigit n) = n := by
  have hall : ∀ n < 16, hexValue (hexDigit n) = n := by decide
  exact hall n h

theorem hexDigit_ne_dash {n : Nat}
    (h : n < 16) :
    hexDigit n ≠ '-' := by
  have hall : ∀ n < 16, hexDigit n ≠ '-' := by decide
  exact hall n h

/-- The first `k` of 32 digits denote the number without its last `32 - k`. -/
theorem readHex_digits (v : Nat) {k : Nat}
    (hk : k ≤ 32) :
    readHex ((List.range k).map (fun i => hexDigit (v / 16 ^ (31 - i) % 16))) =
      v / 16 ^ (32 - k) % 16 ^ k := by
  induction k with
  | zero => simp [readHex, Nat.mod_one]
  | succ k ih =>
      have hstep : v / 16 ^ (32 - k) = v / 16 ^ (31 - k) / 16 := by
        rw [Nat.div_div_eq_div_mul, ← Nat.pow_succ]
        congr 2
        omega
      have hprev := ih (by omega)
      have hexp : 32 - (k + 1) = 31 - k := by omega
      simp only [readHex] at hprev ⊢
      rw [List.range_succ, List.map_append, List.foldl_append, hprev, List.map_cons, List.map_nil,
        List.foldl_cons, List.foldl_nil, hexValue_hexDigit (Nat.mod_lt _ (by omega)), hexp, hstep,
        Nat.pow_succ, Nat.mul_comm (16 ^ k) 16, Nat.mod_mul]
      omega

/-- The five groups of the canonical form make up the list of digits. -/
theorem take_drop_groups {α : Type} (digits : List α) :
    digits.take 8 ++ ((digits.drop 8).take 4 ++ ((digits.drop 12).take 4 ++
      ((digits.drop 16).take 4 ++ digits.drop 20))) = digits := by
  have hnext : ∀ n m, (digits.drop n).take m ++ digits.drop (n + m) = digits.drop n := by
    intro n m
    rw [← List.drop_drop, List.take_append_drop]
  rw [hnext 16 4, hnext 12 4, hnext 8 4, List.take_append_drop]

/-- The canonical form without its dashes. -/
theorem digits_uuidToString (id : Uuid) :
    (uuidToString id).toList.filter (fun c => c ≠ '-') =
      (List.range 32).map (fun i => hexDigit (id.toNat / 16 ^ (31 - i) % 16)) := by
  have hdigits : ∀ c ∈ (List.range 32).map (fun i => hexDigit (id.toNat / 16 ^ (31 - i) % 16)),
      c ≠ '-' := by
    intro c hc
    obtain ⟨i, _, rfl⟩ := List.mem_map.mp hc
    exact hexDigit_ne_dash (Nat.mod_lt _ (by omega))
  have hlength : ((List.range 32).map
      (fun i => hexDigit (id.toNat / 16 ^ (31 - i) % 16))).length = 32 := by
    simp
  revert hdigits hlength
  simp only [uuidToString]
  generalize (List.range 32).map (fun i => hexDigit (id.toNat / 16 ^ (31 - i) % 16)) = digits
  intro hdigits hlength
  have hkeep : ∀ n m, ((digits.drop n).take m).filter (fun c => c ≠ '-') =
      (digits.drop n).take m := by
    intro n m
    refine List.filter_eq_self.mpr (fun c hc => decide_eq_true (hdigits c ?_))
    exact List.mem_of_mem_drop (List.mem_of_mem_take hc)
  have hrest : (digits.drop 20).take 12 = digits.drop 20 :=
    List.take_of_length_le (by rw [List.length_drop, hlength])
  have hgroups := take_drop_groups digits
  rw [← hrest] at hgroups
  simp only [String.toList_ofList, List.filter_append, List.filter_cons, hkeep]
  simpa using hgroups

theorem readHex_uuidToString (id : Uuid) :
    readHex ((uuidToString id).toList.filter (fun c => c ≠ '-')) = id.toNat := by
  rw [digits_uuidToString, readHex_digits id.toNat (Nat.le_refl 32)]
  have hlt : id.toNat < 16 ^ 32 := id.isLt
  rw [Nat.sub_self, Nat.pow_zero, Nat.div_one, Nat.mod_eq_of_lt hlt]

/-- A reader of the canonical form alone. -/
instance canonicalText : UuidText where
  parseStr := fun s =>
    let id := BitVec.ofNat 128 (readHex (s.toList.filter (fun c => c ≠ '-')))
    if uuidToString id = s then .ok id else .error "invalid id"
  parseStr_uuidToString := by
    intro id
    rw [readHex_uuidToString, BitVec.ofNat_toNat, BitVec.setWidth_eq]
    exact if_pos rfl

/-- Distinct ids have distinct canonical forms. -/
theorem uuidToString_injective {id id' : Uuid}
    (h : uuidToString id = uuidToString id') :
    id = id' := by
  have hread := readHex_uuidToString id
  rw [h, readHex_uuidToString] at hread
  exact BitVec.eq_of_toNat_eq hread.symm

end Texts

section Messages

/-- Operation of an error report. -/
inductive ManagerOperation
  | openWorkspace
  | createPane
  | closePane
  | detachWorkspace
  | terminateWorkspace
  | refreshInventory
  | sendInput
  | resizePane
  | renameWorkspace
  | setPaneNoPersist
deriving DecidableEq, Repr

/-- An event for the window, of any kind; those that carry a snapshot are the
ones a window reconciles. -/
inductive ActorEvent
  | workspaceConnectionChanged (workspaceId : String) (status : ConnectionStatus)
  | workspaceOpened (workspaceId runtimeId : String) (snapshot : WorkspaceSnapshot)
  | paneCreated (workspaceId layoutTerminalUuid runtimeId runtimePaneId : String)
  | paneClosed (workspaceId layoutTerminalUuid runtimeId runtimePaneId : String)
  | workspaceDetached (workspaceId runtimeId : String)
  | workspaceTerminated (workspaceId runtimeId : String) (reason : TerminationReason)
  | inventoryLoaded (endpoint : RuntimeEndpoint) (workspaces : List Uuid)
  | workspaceMessage (endpoint : RuntimeEndpoint) (message : ServerEnvelope)
  | workspaceResynced (workspaceId runtimeId : String) (snapshot : WorkspaceSnapshot)
  | workspaceError (workspaceId : String) (operation : ManagerOperation)
      (problem : ConnectionProblem) (detail : String)
  | workspaceTakenOver (workspaceId runtimeId : String)
deriving DecidableEq

/-- What a window asks of a workspace that is opened. -/
structure OpenRequest where
  workspaceId : String
  name : String
  policy : WorkspacePolicy
  runtimeId : Option String
  placeholderTerminalUuid : Option String
  cwd : Option String
  takeOver : Bool
deriving DecidableEq

/-- The parameters of a new pane. -/
structure PaneSpec where
  cwd : Option String
  darkBackground : Bool
  cols : Nat
  rows : Nat
  noPersist : Bool
deriving DecidableEq, Repr

/-- A command for the actor. -/
inductive EndpointCommand
  | openWorkspace (request : OpenRequest)
  | createPane (workspaceId runtimeId layoutTerminalUuid : String) (spec : PaneSpec)
  | splitPane (workspaceId runtimeId targetPaneId layoutTerminalUuid : String)
      (axis : PaneSplitAxis) (ratio : F32) (spec : PaneSpec)
  | closePane (workspaceId runtimeId layoutTerminalUuid runtimePaneId : String)
  | detachWorkspace (workspaceId runtimeId : String)
  | terminateWorkspace (workspaceId runtimeId : String)
  | sendInput (workspaceId runtimeId runtimePaneId : String) (data : Bytes)
  | resizePane (workspaceId runtimeId runtimePaneId : String) (cols rows : Nat)
  | refreshInventory
  | reconnect
  | forgetWorkspace (workspaceId : String)
  | renameWorkspace (workspaceId runtimeId name : String) (automatic : Bool)
  | setPaneNoPersist (workspaceId runtimeId runtimePaneId : String) (noPersist : Bool)
  | resyncWorkspace (workspaceId runtimeId : String)
  | shutdown
deriving DecidableEq

/-- The command of a client envelope. -/
inductive ClientCommand
  | terminalInput (runtimeId paneId : Uuid) (data : Bytes)
  | ping (nonce : Nat)
  | createWorkspace (name : String) (policy : WorkspacePolicy)
  | attachWorkspace (runtimeId : Uuid) (attachMode : AttachMode)
  | detachWorkspace (runtimeId : Uuid)
  | terminateWorkspace (runtimeId : Uuid)
  | renameWorkspace (runtimeId : Uuid) (name : String) (automatic : Bool)
  | listWorkspaces
  | takeoverWorkspace (runtimeId : Uuid)
  | createPane (runtimeId : Uuid) (spec : PaneSpec)
  | splitPane (runtimeId targetPaneId : Uuid) (axis : PaneSplitAxis) (ratio : F32)
      (spec : PaneSpec)
  | closePane (runtimeId paneId : Uuid)
  | resizePane (runtimeId paneId : Uuid) (cols rows : Nat)
  | setPaneNoPersist (runtimeId paneId : Uuid) (noPersist : Bool)
  | resyncWorkspace (runtimeId : Uuid)
deriving DecidableEq

end Messages

end Client
end Rttx
