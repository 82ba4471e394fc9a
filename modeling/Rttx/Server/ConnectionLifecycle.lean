import Rttx.Server.ClientSizes

/-!
# The life of a connection

A connection is counted and registered before its first frame is read.  A client that
only probes is unregistered again; every other way to the end goes through the cleanup,
except the errors of the first frame and of the handshake, which return at once.

**Results.**
* `answerHello_ok_iff`: which clients are welcome.
* `next_leavesAlone`: no step of another connection registers this one.
* `returned_cleanedUp_iff`: a connection that has returned is cleaned up if and only if
  neither its first frame nor its handshake has failed.
-/

namespace Rttx
namespace Server

open Kernel

universe u v

section Handshake

/-- A client's greeting; capabilities are open enumerators. -/
structure ClientHello where
  minProtocolVersion : Nat
  maxProtocolVersion : Nat
  clientId : Bytes
  clientName : String
  clientVersion : String
  capabilities : List Int
deriving DecidableEq

structure ProtocolError where
  kind : ErrorKind
  message : String
  operation : String
  retryable : Bool
  userActionRequired : Bool
  retryAfterSeconds : Nat
deriving DecidableEq

def Capability.toI32 : Capability → Int
  | .coreWorkspaceLifecycle => 1
  | .corePaneLifecycle => 2
  | .coreTerminalIo => 3
  | .coreTerminalModes => 4
  | .corePasteIntent => 5
  | .coreFocusEvents => 6
  | .optWorkspaceInventory => 100
  | .optWorkspaceTakeover => 101
  | .optResync => 102
  | .optChunkedScrollback => 103
  | .optDiagnostics => 104
  | .optClipboardOsc52 => 105

/-- Capabilities that every implementation must support. -/
def coreCapabilities : List Capability :=
  [.coreWorkspaceLifecycle, .corePaneLifecycle, .coreTerminalIo, .coreTerminalModes,
    .corePasteIntent, .coreFocusEvents]

def serverCapabilities : List Capability :=
  [.coreWorkspaceLifecycle, .corePaneLifecycle, .coreTerminalIo, .coreTerminalModes,
    .corePasteIntent, .coreFocusEvents, .optWorkspaceInventory, .optResync,
    .optChunkedScrollback, .optDiagnostics, .optWorkspaceTakeover, .optClipboardOsc52]

def v3ProtocolVersion : Nat := 3

/-- The highest version that both sides support. -/
def negotiateVersion (clientMin clientMax serverMin serverMax : Nat) :
    Except ProtocolError Nat :=
  let overlapMin := max clientMin serverMin
  let overlapMax := min clientMax serverMax
  if overlapMin ≤ overlapMax then
    .ok overlapMax
  else
    .error
      { kind := .protocolMismatch
        message := s!"no common protocol version: client supports v{clientMin}–v{clientMax}, " ++
          s!"server supports v{serverMin}–v{serverMax}"
        operation := "Handshake"
        retryable := false
        userActionRequired := true
        retryAfterSeconds := 0 }

/-- The core capabilities that are missing, as an error. -/
def validateServerCapabilities (serverCaps : List Int) : Except (List Capability) Unit :=
  match coreCapabilities.filter (fun core => !serverCaps.contains core.toI32) with
  | [] => .ok ()
  | missing => .error missing

/-- The capabilities of both sides. -/
def effectiveCapabilities (clientCaps serverCaps : List Int) : List Int :=
  clientCaps.filter (serverCaps.contains ·)

/-- The name of a capability in the error about it. -/
def Capability.requiredName : Capability → String
  | .coreWorkspaceLifecycle => "CORE_RUNTIME_LIFECYCLE"
  | .corePaneLifecycle => "CORE_PANE_LIFECYCLE"
  | .coreTerminalIo => "CORE_TERMINAL_IO"
  | .coreTerminalModes => "CORE_TERMINAL_MODES"
  | .corePasteIntent => "CORE_PASTE_INTENT"
  | .coreFocusEvents => "CORE_FOCUS_EVENTS"
  | .optWorkspaceInventory => "OPT_WORKSPACE_INVENTORY"
  | .optWorkspaceTakeover => "OPT_RUNTIME_TAKEOVER"
  | .optResync => "OPT_RESYNC"
  | .optChunkedScrollback => "OPT_CHUNKED_SCROLLBACK"
  | .optDiagnostics => "OPT_DIAGNOSTICS"
  | .optClipboardOsc52 => "OPT_CLIPBOARD_OSC52"

def missingCapabilitiesError (missing : List Capability) : ProtocolError where
  kind := .unsupportedCapability
  message := "server missing required capabilities: " ++
    ", ".intercalate (missing.map Capability.requiredName)
  operation := "Handshake"
  retryable := false
  userActionRequired := true
  retryAfterSeconds := 0

/-- What is sent in answer to a greeting. -/
inductive HandshakeReply
  | error (err : ProtocolError)
  | hello (negotiatedVersion : Nat)
deriving DecidableEq

/-- Why a connection returns with an error. -/
inductive ConnectionError
  | io
  | missingCoreCapabilities
  | versionNegotiation (message : String)
deriving DecidableEq

/-- The answer to a greeting, and the effective capabilities once it is sent. -/
def answerHello (hello : ClientHello) : HandshakeReply × Except ConnectionError (List Int) :=
  match negotiateVersion hello.minProtocolVersion hello.maxProtocolVersion v3ProtocolVersion
      v3ProtocolVersion with
  | .ok negotiatedVersion =>
      let effectiveCaps := effectiveCapabilities hello.capabilities
        (serverCapabilities.map Capability.toI32)
      match validateServerCapabilities effectiveCaps with
      | .error missing =>
          (.error (missingCapabilitiesError missing), .error .missingCoreCapabilities)
      | .ok _ => (.hello negotiatedVersion, .ok effectiveCaps)
  | .error err => (.error err, .error (.versionNegotiation err.message))

/-- Of the client's versions one is the server's, and it has the core capabilities. -/
structure Welcome (hello : ClientHello) : Prop where
  min_le : hello.minProtocolVersion ≤ v3ProtocolVersion
  le_max : v3ProtocolVersion ≤ hello.maxProtocolVersion
  core : ∀ core ∈ coreCapabilities, core.toI32 ∈ hello.capabilities

theorem negotiateVersion_ok_iff (clientMin clientMax server : Nat) :
    (∃ version, negotiateVersion clientMin clientMax server server = .ok version) ↔
      clientMin ≤ server ∧ server ≤ clientMax := by
  rw [negotiateVersion]
  by_cases h : max clientMin server ≤ min clientMax server
  · simp only [if_pos h]
    exact ⟨fun _ => by omega, fun _ => ⟨_, rfl⟩⟩
  · simp only [if_neg h]
    constructor
    · rintro ⟨_, hok⟩
      cases hok
    · omega

theorem validateServerCapabilities_ok_iff (serverCaps : List Int) :
    validateServerCapabilities serverCaps = .ok () ↔
      ∀ core ∈ coreCapabilities, core.toI32 ∈ serverCaps := by
  have hmissing : coreCapabilities.filter (fun core => !serverCaps.contains core.toI32) = [] ↔
      ∀ core ∈ coreCapabilities, core.toI32 ∈ serverCaps := by
    rw [List.filter_eq_nil_iff]
    refine forall₂_congr fun core _ => ?_
    simp
  rw [← hmissing, validateServerCapabilities]
  cases coreCapabilities.filter (fun core => !serverCaps.contains core.toI32) with
  | nil => exact ⟨fun _ => rfl, fun _ => rfl⟩
  | cons core rest => exact ⟨nofun, nofun⟩

/-- **A greeting is accepted** if and only if its client is welcome. -/
theorem answerHello_ok_iff (hello : ClientHello) :
    (∃ caps, (answerHello hello).2 = .ok caps) ↔ Welcome hello := by
  have hcore : (∀ core ∈ coreCapabilities, core.toI32 ∈
        effectiveCapabilities hello.capabilities (serverCapabilities.map Capability.toI32)) ↔
      ∀ core ∈ coreCapabilities, core.toI32 ∈ hello.capabilities := by
    refine forall₂_congr fun core hmem => ?_
    have hserver : (serverCapabilities.map Capability.toI32).contains core.toI32 = true := by
      revert hmem
      cases core <;> decide
    rw [effectiveCapabilities, List.mem_filter]
    exact and_iff_left hserver
  have hversion := negotiateVersion_ok_iff hello.minProtocolVersion hello.maxProtocolVersion
    v3ProtocolVersion
  have hcaps := (validateServerCapabilities_ok_iff (effectiveCapabilities hello.capabilities
    (serverCapabilities.map Capability.toI32))).trans hcore
  rw [answerHello]
  cases hnegotiated : negotiateVersion hello.minProtocolVersion hello.maxProtocolVersion
      v3ProtocolVersion v3ProtocolVersion with
  | error err =>
      rw [hnegotiated] at hversion
      constructor
      · rintro ⟨_, hok⟩
        cases hok
      · intro hwelcome
        obtain ⟨_, hok⟩ := hversion.mpr ⟨hwelcome.min_le, hwelcome.le_max⟩
        cases hok
  | ok version =>
      obtain ⟨hmin, hmax⟩ := hversion.mp ⟨version, hnegotiated⟩
      dsimp only
      cases hvalid : validateServerCapabilities (effectiveCapabilities hello.capabilities
          (serverCapabilities.map Capability.toI32)) with
      | error missing =>
          rw [hvalid] at hcaps
          constructor
          · rintro ⟨_, hok⟩
            cases hok
          · intro hwelcome
            cases hcaps.mpr hwelcome.core
      | ok _ => exact ⟨fun _ => ⟨hmin, hmax, hcaps.mp hvalid⟩, fun _ => ⟨_, rfl⟩⟩

/-- The decoder of the generated message. -/
class ClientHelloDecoder where
  decode : Bytes → Except String ClientHello

variable [ClientHelloDecoder]

/-- A frame without its prefix as a greeting. -/
def parseV3ClientHello (payload : Bytes) : Option ClientHello :=
  match ClientHelloDecoder.decode payload with
  | .error _ => none
  | .ok hello =>
      if hello.clientId.length ≠ 16 ∨ hello.maxProtocolVersion = 0 then none else some hello

/-- Attempt the handshake; `replySent` says whether the answer can be written.  None if
the frame is no greeting. -/
def tryV3Handshake (rawFrame : Bytes) (replySent : Bool) :
    Except ConnectionError (Option (List Int)) :=
  match parseV3ClientHello (rawFrame.drop 4) with
  | none => .ok none
  | some hello =>
      if replySent then
        (answerHello hello).2.map some
      else
        .error .io

theorem tryV3Handshake_ok_iff {hello : ClientHello} {rawFrame : Bytes}
    (h : parseV3ClientHello (rawFrame.drop 4) = some hello)
    (replySent : Bool) :
    (∃ found, tryV3Handshake rawFrame replySent = .ok found) ↔
      Welcome hello ∧ replySent = true := by
  rw [tryV3Handshake, h, ← answerHello_ok_iff]
  cases replySent with
  | false => exact ⟨nofun, nofun⟩
  | true =>
      dsimp only
      rw [if_pos rfl]
      cases (answerHello hello).2 with
      | error err =>
          constructor
          · rintro ⟨_, hok⟩
            cases hok
          · rintro ⟨⟨_, hok⟩, _⟩
            cases hok
      | ok caps => exact ⟨fun _ => ⟨⟨caps, rfl⟩, rfl⟩, fun _ => ⟨_, rfl⟩⟩

end Handshake

section Steps

variable {P : Type u} {G : Type v}

namespace ServerState

/-- Register the channels of a connection. -/
def registerClient (s : ServerState P G) (clientId : Uuid) : ServerState P G :=
  { s with
    clientSenders := clientId :: s.clientSenders
    clientRespSenders := clientId :: s.clientRespSenders }

/-- Remove the channels of a connection that only probed. -/
def removeSenders (s : ServerState P G) (clientId : Uuid) : ServerState P G :=
  { s with
    clientSenders := s.clientSenders.filter (· ≠ clientId)
    clientRespSenders := s.clientRespSenders.filter (· ≠ clientId) }

def setClientProtocol (s : ServerState P G) (clientId : Uuid) (effectiveCaps : List Int) :
    ServerState P G :=
  { s with
    clientProtocols := s.clientProtocols.insert clientId
      (serverCapabilities.filter fun capability => effectiveCaps.contains capability.toI32) }

/-- Remove all entries of a connection. -/
def removeClient (s : ServerState P G) (clientId : Uuid) : ServerState P G :=
  { s.removeSenders clientId with
    clientProtocols := s.clientProtocols.erase clientId
    clientPaneSizes := s.clientPaneSizes.erase clientId }

/-- Detach a connection from a workspace that it holds on to. -/
def detachFrom (s : ServerState P G) (clientId runtimeId : Uuid) : ServerState P G :=
  { s with
    objects := s.objects.modify runtimeId fun w => (w.detachClient clientId .disconnect).2 }

/-- The client is attached to the registered workspace `runtimeId`. -/
def attachedAt (s : ServerState P G) (clientId runtimeId : Uuid) : Bool :=
  (s.registered runtimeId).any fun w => (w.clientRole clientId).isSome

/-- No entry of the client is added, and it is attached to no further workspace. -/
def LeavesAlone (clientId : Uuid) (s s' : ServerState P G) : Prop :=
  (clientId ∈ s'.clientSenders → clientId ∈ s.clientSenders) ∧
    (clientId ∈ s'.clientRespSenders → clientId ∈ s.clientRespSenders) ∧
    ((s'.clientProtocols.lookup clientId).isSome → (s.clientProtocols.lookup clientId).isSome) ∧
    ((s'.clientPaneSizes.lookup clientId).isSome → (s.clientPaneSizes.lookup clientId).isSome) ∧
    ∀ id ∈ s'.workspaces, s'.attachedAt clientId id = true → s.attachedAt clientId id = true

instance (clientId : Uuid) (s s' : ServerState P G) : Decidable (LeavesAlone clientId s s') :=
  inferInstanceAs (Decidable (_ ∧ _ ∧ _ ∧ _ ∧ _))

end ServerState

/-- What reading the first frame gives. -/
inductive FirstFrame
  | failed
  | closed
  | frame (rawFrame : Bytes)
deriving DecidableEq

/-- What a connection finds out: its first frame, and whether the answer to the greeting
can be written. -/
structure ConnectionInput where
  first : FirstFrame
  replySent : Bool

abbrev ConnectionResult := Except ConnectionError Unit

/-- Where the handler of a connection is. -/
inductive ConnectionPhase
  | accepted
  | counted
  | registered
  | greeting (rawFrame : Bytes)
  | greeted (effectiveCaps : List Int)
  | session
  | cleanup (handshakeCompleted : Bool) (result : ConnectionResult)
  | detaching (rest : List Uuid) (result : ConnectionResult)
  | returned (result : ConnectionResult)

/-- The daemon around one connection; `others` is what the counter of connected clients
would be without it. -/
structure ConnectionState (P : Type u) (G : Type v) where
  server : ServerState P G
  connectedClients : UInt32
  others : UInt32
  phase : ConnectionPhase

/-- A step of the handler, a request that it serves with what that makes of the daemon, or
what other tasks do meanwhile. -/
inductive ConnectionStep (P : Type u) (G : Type v)
  | count
  | register
  | readFirst
  | handshake
  | setProtocol
  | request (server : ServerState P G)
  | readerEnds (result : ConnectionResult)
  | cleanup
  | detach
  | finish
  | interfere (server : ServerState P G) (counted : UInt32)

namespace ConnectionState

variable [ClientHelloDecoder]

/-- One step of the daemon around the connection of `clientId`. -/
def next (clientId : Uuid) (input : ConnectionInput) (s : ConnectionState P G) :
    ConnectionStep P G → Option (ConnectionState P G)
  | .count =>
      match s.phase with
      | .accepted =>
          some { s with connectedClients := s.connectedClients + 1, phase := .counted }
      | _ => none
  | .register =>
      match s.phase with
      | .counted =>
          some { s with server := s.server.registerClient clientId, phase := .registered }
      | _ => none
  | .readFirst =>
      match s.phase, input.first with
      | .registered, .failed => some { s with phase := .returned (.error .io) }
      | .registered, .closed =>
          some { s with
            server := s.server.removeSenders clientId
            connectedClients := s.connectedClients - 1
            phase := .returned (.ok ()) }
      | .registered, .frame rawFrame => some { s with phase := .greeting rawFrame }
      | _, _ => none
  | .handshake =>
      match s.phase with
      | .greeting rawFrame =>
          match tryV3Handshake rawFrame input.replySent with
          | .error err => some { s with phase := .returned (.error err) }
          | .ok none => some { s with phase := .cleanup false (.ok ()) }
          | .ok (some effectiveCaps) => some { s with phase := .greeted effectiveCaps }
      | _ => none
  | .setProtocol =>
      match s.phase with
      | .greeted effectiveCaps =>
          some { s with
            server := s.server.setClientProtocol clientId effectiveCaps
            phase := .session }
      | _ => none
  | .request server =>
      match s.phase with
      | .session => some { s with server := server }
      | _ => none
  | .readerEnds result =>
      match s.phase with
      | .session => some { s with phase := .cleanup true result }
      | _ => none
  | .cleanup =>
      match s.phase with
      | .cleanup handshakeCompleted result =>
          some { s with
            server := s.server.removeClient clientId
            phase := .detaching (if handshakeCompleted then s.server.workspaces else [])
              result }
      | _ => none
  | .detach =>
      match s.phase with
      | .detaching (runtimeId :: rest) result =>
          some { s with
            server := s.server.detachFrom clientId runtimeId
            phase := .detaching rest result }
      | _ => none
  | .finish =>
      match s.phase with
      | .detaching [] result =>
          some { s with
            connectedClients := s.connectedClients - 1
            phase := .returned result }
      | _ => none
  | .interfere server counted =>
      if s.server.LeavesAlone clientId server then
        some { s with
          server := server
          connectedClients := s.connectedClients + counted
          others := s.others + counted }
      else
        none

variable (P G) in
/-- The daemon when the client's connection is accepted under an id of its own. -/
def system (clientId : Uuid) (input : ConnectionInput) :
    System (ConnectionState P G) (ConnectionStep P G) where
  init := fun s => s.phase = .accepted ∧ s.connectedClients = s.others ∧
    clientId ∉ s.server.clientSenders ∧ clientId ∉ s.server.clientRespSenders ∧
    s.server.clientProtocols.lookup clientId = none ∧
    s.server.clientPaneSizes.lookup clientId = none ∧
    ∀ id, s.server.attachedAt clientId id = false
  next := next clientId input

/-- Neither the first frame fails nor, if it is a greeting, the handshake. -/
def Admissible (input : ConnectionInput) : Prop :=
  input.first ≠ .failed ∧ ∀ rawFrame hello, input.first = .frame rawFrame →
    parseV3ClientHello (rawFrame.drop 4) = some hello → Welcome hello ∧ input.replySent = true

/-- Nothing of the connection is left. -/
structure CleanedUp (clientId : Uuid) (s : ConnectionState P G) : Prop where
  sender : clientId ∉ s.server.clientSenders
  respSender : clientId ∉ s.server.clientRespSenders
  protocol : s.server.clientProtocols.lookup clientId = none
  sizes : s.server.clientPaneSizes.lookup clientId = none
  detached : ∀ id w, s.server.registered id = some w → w.clientRole clientId = none
  counter : s.connectedClients = s.others

end ConnectionState

end Steps

section Entries

variable {P : Type u} {G : Type v}

namespace ServerState

/-- The client has no protocol and no sizes, and it is attached nowhere. -/
structure Unserved (s : ServerState P G) (clientId : Uuid) : Prop where
  protocol : s.clientProtocols.lookup clientId = none
  sizes : s.clientPaneSizes.lookup clientId = none
  detached : ∀ id, s.attachedAt clientId id = false

/-- The client has no channels. -/
structure Silent (s : ServerState P G) (clientId : Uuid) : Prop where
  sender : clientId ∉ s.clientSenders
  respSender : clientId ∉ s.clientRespSenders

/-- Being attached to registered workspaces carries over from the objects. -/
theorem attachedAt_of_eq {s s' : ServerState P G}
    (hobjects : s'.objects = s.objects)
    (hworkspaces : s'.workspaces = s.workspaces)
    (clientId id : Uuid) :
    s'.attachedAt clientId id = s.attachedAt clientId id := by
  rw [attachedAt, registered, hobjects, hworkspaces, attachedAt, registered]

theorem LeavesAlone.attached {s s' : ServerState P G} {clientId : Uuid}
    (h : LeavesAlone clientId s s')
    (id : Uuid)
    (hid : s'.attachedAt clientId id = true) :
    s.attachedAt clientId id = true := by
  refine h.2.2.2.2 id ?_ hid
  by_contra hnot
  rw [attachedAt, registered, if_neg hnot] at hid
  cases hid

theorem LeavesAlone.detached {s s' : ServerState P G} {clientId : Uuid}
    (h : LeavesAlone clientId s s')
    (hdetached : ∀ id, s.attachedAt clientId id = false)
    (id : Uuid) :
    s'.attachedAt clientId id = false := by
  by_contra hattached
  have hold := h.attached id (Bool.of_not_eq_false hattached)
  rw [hdetached id] at hold
  cases hold

theorem LeavesAlone.silent {s s' : ServerState P G} {clientId : Uuid}
    (h : LeavesAlone clientId s s')
    (hs : s.Silent clientId) :
    s'.Silent clientId :=
  ⟨fun hmem => hs.sender (h.1 hmem), fun hmem => hs.respSender (h.2.1 hmem)⟩

/-- Entries that are not there are not added. -/
theorem LeavesAlone.entries {s s' : ServerState P G} {clientId : Uuid}
    (h : LeavesAlone clientId s s')
    (hprotocol : s.clientProtocols.lookup clientId = none)
    (hsizes : s.clientPaneSizes.lookup clientId = none) :
    s'.clientProtocols.lookup clientId = none ∧ s'.clientPaneSizes.lookup clientId = none := by
  obtain ⟨_, _, hprotocols, hpaneSizes, _⟩ := h
  constructor
  · by_contra hnone
    have hsome := hprotocols (Option.isSome_iff_ne_none.mpr hnone)
    rw [hprotocol] at hsome
    cases hsome
  · by_contra hnone
    have hsome := hpaneSizes (Option.isSome_iff_ne_none.mpr hnone)
    rw [hsizes] at hsome
    cases hsome

theorem LeavesAlone.unserved {s s' : ServerState P G} {clientId : Uuid}
    (h : LeavesAlone clientId s s')
    (hs : s.Unserved clientId) :
    s'.Unserved clientId :=
  ⟨(h.entries hs.protocol hs.sizes).1, (h.entries hs.protocol hs.sizes).2,
    h.detached hs.detached⟩

theorem removeSenders_silent (s : ServerState P G) (clientId : Uuid) :
    (s.removeSenders clientId).Silent clientId := by
  constructor
  · intro hmem
    simp [removeSenders] at hmem
  · intro hmem
    simp [removeSenders] at hmem

/-- Detaching takes one client from one workspace. -/
theorem attachedAt_detachFrom (s : ServerState P G) (clientId other runtimeId id : Uuid) :
    (s.detachFrom other runtimeId).attachedAt clientId id =
      (s.attachedAt clientId id && !(clientId = other && id = runtimeId)) := by
  have hregistered : id ∈ (s.detachFrom other runtimeId).workspaces ↔ id ∈ s.workspaces :=
    Iff.rfl
  rw [attachedAt, registered, attachedAt, registered]
  by_cases hmem : id ∈ s.workspaces
  · rw [if_pos (hregistered.mpr hmem), if_pos hmem, detachFrom, HashMap.lookup_modify]
    by_cases hid : id = runtimeId
    · subst hid
      rw [if_pos rfl]
      cases s.objects.lookup id with
      | none => rfl
      | some w =>
          have hrole := SizeState.attachedTo_detachClient w other .disconnect clientId
          rw [SizeState.attachedTo, SizeState.attachedTo] at hrole
          rw [Option.map_some, Option.any_some, Option.any_some, hrole]
          by_cases hclient : clientId = other <;> simp [hclient]
    · rw [if_neg hid]
      simp [hid]
  · rw [if_neg (fun h => hmem (hregistered.mp h)), if_neg hmem]
    rfl

end ServerState

end Entries

section Runs

variable {P : Type u} {G : Type v}
variable [ClientHelloDecoder]

open ServerState

namespace ConnectionState

/-- The handshake of an admissible connection does not fail. -/
theorem handshake_ok_iff {input : ConnectionInput} {rawFrame : Bytes}
    (h : input.first = .frame rawFrame) :
    (∃ found, tryV3Handshake rawFrame input.replySent = .ok found) ↔ Admissible input := by
  have hsame : ∀ frame, input.first = .frame frame → frame = rawFrame := by
    intro frame hframe
    rw [h] at hframe
    exact (FirstFrame.frame.inj hframe).symm
  have hread : input.first ≠ .failed := by
    rw [h]
    nofun
  cases hparse : parseV3ClientHello (rawFrame.drop 4) with
  | none =>
      constructor
      · intro _
        refine ⟨hread, fun frame hello hframe hhello => ?_⟩
        rw [hsame frame hframe, hparse] at hhello
        cases hhello
      · intro _
        rw [tryV3Handshake, hparse]
        exact ⟨none, rfl⟩
  | some hello =>
      rw [tryV3Handshake_ok_iff hparse]
      constructor
      · intro hwelcome
        refine ⟨hread, fun frame hello' hframe hhello => ?_⟩
        rw [hsame frame hframe, hparse] at hhello
        rw [← Option.some.inj hhello]
        exact hwelcome
      · exact fun hadmissible => hadmissible.2 rawFrame hello h hparse

/-- **No step of another connection registers this one**, apart from the requests that it
serves. -/
theorem next_leavesAlone {clientId other : Uuid} {input : ConnectionInput}
    {s s' : ConnectionState P G} {step : ConnectionStep P G}
    (hne : clientId ≠ other)
    (hstep : ∀ server, step ≠ .request server)
    (hother : ∀ server counted, step ≠ .interfere server counted)
    (hnext : next other input s step = some s') :
    LeavesAlone clientId s.server s'.server := by
  have hrefl : ∀ server : ServerState P G, LeavesAlone clientId server server :=
    fun server => ⟨id, id, id, id, fun _ _ hid => hid⟩
  have hremove : ∀ {ids : List Uuid}, clientId ∈ ids.filter (· ≠ other) → clientId ∈ ids :=
    fun hmem => List.mem_of_mem_filter hmem
  obtain ⟨server, connectedClients, others, phase⟩ := s
  cases step with
  | request server' => exact absurd rfl (hstep server')
  | interfere server' counted => exact absurd rfl (hother server' counted)
  | count =>
      cases phase with
      | accepted =>
          obtain rfl := Option.some.inj hnext
          exact hrefl server
      | _ => cases hnext
  | register =>
      cases phase with
      | counted =>
          obtain rfl := Option.some.inj hnext
          refine ⟨fun hmem => (List.mem_cons.mp hmem).resolve_left hne,
            fun hmem => (List.mem_cons.mp hmem).resolve_left hne, id, id, fun id _ hid => ?_⟩
          exact (attachedAt_of_eq rfl rfl clientId id).symm.trans hid
      | _ => cases hnext
  | readFirst =>
      cases phase with
      | registered =>
          cases hfirst : input.first with
          | failed =>
              simp only [ConnectionState.next, hfirst, Option.some.injEq] at hnext
              subst hnext
              exact hrefl server
          | closed =>
              simp only [ConnectionState.next, hfirst, Option.some.injEq] at hnext
              subst hnext
              exact ⟨hremove, hremove, id, id,
                fun id _ hid => (attachedAt_of_eq rfl rfl clientId id).symm.trans hid⟩
          | frame rawFrame =>
              simp only [ConnectionState.next, hfirst, Option.some.injEq] at hnext
              subst hnext
              exact hrefl server
      | _ => cases hnext
  | handshake =>
      cases phase with
      | greeting rawFrame =>
          simp only [ConnectionState.next] at hnext
          cases hshake : tryV3Handshake rawFrame input.replySent with
          | error err =>
              rw [hshake] at hnext
              obtain rfl := Option.some.inj hnext
              exact hrefl server
          | ok found =>
              rw [hshake] at hnext
              cases found with
              | none =>
                  obtain rfl := Option.some.inj hnext
                  exact hrefl server
              | some effectiveCaps =>
                  obtain rfl := Option.some.inj hnext
                  exact hrefl server
      | _ => cases hnext
  | setProtocol =>
      cases phase with
      | greeted effectiveCaps =>
          obtain rfl := Option.some.inj hnext
          refine ⟨id, id, fun hsome => ?_, id,
            fun id _ hid => (attachedAt_of_eq rfl rfl clientId id).symm.trans hid⟩
          have hlook : (server.setClientProtocol other effectiveCaps).clientProtocols.lookup
              clientId = server.clientProtocols.lookup clientId := AList.lookup_insert_ne hne
          rw [← hlook]
          exact hsome
      | _ => cases hnext
  | readerEnds result =>
      cases phase with
      | session =>
          obtain rfl := Option.some.inj hnext
          exact hrefl server
      | _ => cases hnext
  | cleanup =>
      cases phase with
      | cleanup handshakeCompleted result =>
          obtain rfl := Option.some.inj hnext
          have hprotocol : (server.removeClient other).clientProtocols.lookup clientId =
              server.clientProtocols.lookup clientId := AList.lookup_erase_ne hne
          have hsizes : (server.removeClient other).clientPaneSizes.lookup clientId =
              server.clientPaneSizes.lookup clientId := AList.lookup_erase_ne hne
          exact ⟨hremove, hremove, fun hsome => hprotocol ▸ hsome, fun hsome => hsizes ▸ hsome,
            fun id _ hid => (attachedAt_of_eq rfl rfl clientId id).symm.trans hid⟩
      | _ => cases hnext
  | detach =>
      cases phase with
      | detaching rest result =>
          cases rest with
          | nil => cases hnext
          | cons runtimeId rest =>
              obtain rfl := Option.some.inj hnext
              refine ⟨id, id, id, id, fun id _ hid => ?_⟩
              have hattached : (server.detachFrom other runtimeId).attachedAt clientId id = true :=
                hid
              rw [attachedAt_detachFrom, Bool.and_eq_true] at hattached
              exact hattached.1
      | _ => cases hnext
  | finish =>
      cases phase with
      | detaching rest result =>
          cases rest with
          | cons runtimeId rest => cases hnext
          | nil =>
              obtain rfl := Option.some.inj hnext
              exact hrefl server
      | _ => cases hnext

/-- What holds of the connection in each phase. -/
def Inv (clientId : Uuid) (input : ConnectionInput) (s : ConnectionState P G) : Prop :=
  match s.phase with
  | .accepted =>
      s.connectedClients = s.others ∧ s.server.Silent clientId ∧ s.server.Unserved clientId
  | .counted =>
      s.connectedClients = s.others + 1 ∧ s.server.Silent clientId ∧
        s.server.Unserved clientId
  | .registered => s.connectedClients = s.others + 1 ∧ s.server.Unserved clientId
  | .greeting rawFrame =>
      s.connectedClients = s.others + 1 ∧ s.server.Unserved clientId ∧
        input.first = .frame rawFrame
  | .greeted _ => s.connectedClients = s.others + 1 ∧ Admissible input
  | .session => s.connectedClients = s.others + 1 ∧ Admissible input
  | .cleanup handshakeCompleted _ =>
      s.connectedClients = s.others + 1 ∧ Admissible input ∧
        (handshakeCompleted = false → s.server.Unserved clientId)
  | .detaching rest _ =>
      s.connectedClients = s.others + 1 ∧ Admissible input ∧ s.server.Silent clientId ∧
        (s.server.clientProtocols.lookup clientId = none ∧
          s.server.clientPaneSizes.lookup clientId = none) ∧
        ∀ id, s.server.attachedAt clientId id = true → id ∈ rest
  | .returned _ =>
      (Admissible input ∧ s.connectedClients = s.others ∧ s.server.Silent clientId ∧
          s.server.Unserved clientId) ∨
        (¬ Admissible input ∧ s.connectedClients = s.others + 1)

/-- Other tasks keep it. -/
theorem Inv.interfere {clientId : Uuid} {input : ConnectionInput} {s : ConnectionState P G}
    {server : ServerState P G}
    (h : Inv clientId input s)
    (halone : LeavesAlone clientId s.server server)
    (counted : UInt32) :
    Inv clientId input
      { s with
        server := server
        connectedClients := s.connectedClients + counted
        others := s.others + counted } := by
  have hzero : s.connectedClients = s.others →
      s.connectedClients + counted = s.others + counted := fun heq => by rw [heq]
  have hone : s.connectedClients = s.others + 1 →
      s.connectedClients + counted = s.others + counted + 1 := by
    intro heq
    rw [heq, UInt32.add_assoc, UInt32.add_comm 1 counted, UInt32.add_assoc]
  revert h
  unfold Inv
  cases s.phase with
  | accepted => exact fun ⟨hc, hs, hu⟩ => ⟨hzero hc, halone.silent hs, halone.unserved hu⟩
  | counted => exact fun ⟨hc, hs, hu⟩ => ⟨hone hc, halone.silent hs, halone.unserved hu⟩
  | registered => exact fun ⟨hc, hu⟩ => ⟨hone hc, halone.unserved hu⟩
  | greeting rawFrame => exact fun ⟨hc, hu, hf⟩ => ⟨hone hc, halone.unserved hu, hf⟩
  | greeted effectiveCaps => exact fun ⟨hc, ha⟩ => ⟨hone hc, ha⟩
  | session => exact fun ⟨hc, ha⟩ => ⟨hone hc, ha⟩
  | cleanup handshakeCompleted result =>
      exact fun ⟨hc, ha, hu⟩ => ⟨hone hc, ha, fun hno => halone.unserved (hu hno)⟩
  | detaching rest result =>
      exact fun ⟨hc, ha, hs, he, hr⟩ => ⟨hone hc, ha, halone.silent hs,
        halone.entries he.1 he.2, fun id hid => hr id (halone.attached id hid)⟩
  | returned result =>
      rintro (⟨ha, hc, hs, hu⟩ | ⟨ha, hc⟩)
      · exact Or.inl ⟨ha, hzero hc, halone.silent hs, halone.unserved hu⟩
      · exact Or.inr ⟨ha, hone hc⟩

/-- **Step lemma.** -/
theorem Inv.next {clientId : Uuid} {input : ConnectionInput} {s s' : ConnectionState P G}
    {step : ConnectionStep P G}
    (h : Inv clientId input s)
    (hnext : next clientId input s step = some s') :
    Inv clientId input s' := by
  obtain ⟨server, connectedClients, others, phase⟩ := s
  cases step with
  | interfere server' counted =>
      simp only [ConnectionState.next] at hnext
      split at hnext
      · rename_i halone
        obtain rfl := Option.some.inj hnext
        exact h.interfere halone counted
      · cases hnext
  | count =>
      cases phase with
      | accepted =>
          obtain rfl := Option.some.inj hnext
          obtain ⟨hc, hs, hu⟩ := h
          exact ⟨congrArg (· + 1) hc, hs, hu⟩
      | _ => cases hnext
  | register =>
      cases phase with
      | counted =>
          obtain rfl := Option.some.inj hnext
          obtain ⟨hc, _, hu⟩ := h
          refine ⟨hc, hu.protocol, hu.sizes, fun id => ?_⟩
          rw [← hu.detached id]
          exact attachedAt_of_eq rfl rfl clientId id
      | _ => cases hnext
  | readFirst =>
      cases phase with
      | registered =>
          obtain ⟨hc, hu⟩ := h
          cases hfirst : input.first with
          | failed =>
              simp only [ConnectionState.next, hfirst, Option.some.injEq] at hnext
              subst hnext
              exact Or.inr ⟨fun hadmissible => hadmissible.1 hfirst, hc⟩
          | closed =>
              simp only [ConnectionState.next, hfirst, Option.some.injEq] at hnext
              subst hnext
              have hadmissible : Admissible input := by
                refine ⟨by simp [hfirst], fun rawFrame hello hframe => ?_⟩
                rw [hfirst] at hframe
                cases hframe
              refine Or.inl ⟨hadmissible, ?_, removeSenders_silent server clientId,
                hu.protocol, hu.sizes, fun id => ?_⟩
              · show connectedClients - 1 = others
                have hcount : connectedClients = others + 1 := hc
                rw [hcount, UInt32.add_sub_cancel]
              · rw [← hu.detached id]
                exact attachedAt_of_eq rfl rfl clientId id
          | frame rawFrame =>
              simp only [ConnectionState.next, hfirst, Option.some.injEq] at hnext
              subst hnext
              exact ⟨hc, hu, hfirst⟩
      | _ => cases hnext
  | handshake =>
      cases phase with
      | greeting rawFrame =>
          obtain ⟨hc, hu, hfirst⟩ := h
          have hiff := handshake_ok_iff hfirst
          simp only [ConnectionState.next] at hnext
          cases hshake : tryV3Handshake rawFrame input.replySent with
          | error err =>
              rw [hshake] at hnext hiff
              obtain rfl := Option.some.inj hnext
              refine Or.inr ⟨fun hadmissible => ?_, hc⟩
              obtain ⟨_, hok⟩ := hiff.mpr hadmissible
              cases hok
          | ok found =>
              rw [hshake] at hnext hiff
              have hadmissible := hiff.mp ⟨found, rfl⟩
              cases found with
              | none =>
                  obtain rfl := Option.some.inj hnext
                  exact ⟨hc, hadmissible, fun _ => hu⟩
              | some effectiveCaps =>
                  obtain rfl := Option.some.inj hnext
                  exact ⟨hc, hadmissible⟩
      | _ => cases hnext
  | setProtocol =>
      cases phase with
      | greeted effectiveCaps =>
          obtain rfl := Option.some.inj hnext
          exact h
      | _ => cases hnext
  | request server' =>
      cases phase with
      | session =>
          obtain rfl := Option.some.inj hnext
          exact h
      | _ => cases hnext
  | readerEnds result =>
      cases phase with
      | session =>
          obtain rfl := Option.some.inj hnext
          exact ⟨h.1, h.2, nofun⟩
      | _ => cases hnext
  | cleanup =>
      cases phase with
      | cleanup handshakeCompleted result =>
          obtain rfl := Option.some.inj hnext
          obtain ⟨hc, hadmissible, hnone⟩ := h
          refine ⟨hc, hadmissible, ⟨(removeSenders_silent server clientId).sender,
            (removeSenders_silent server clientId).respSender⟩,
            ⟨AList.lookup_erase _ _, AList.lookup_erase _ _⟩, fun id hid => ?_⟩
          have hold : server.attachedAt clientId id = true :=
            (attachedAt_of_eq rfl rfl clientId id).symm.trans hid
          cases handshakeCompleted with
          | false =>
              have hnot := (hnone rfl).detached id
              exact absurd (hnot.symm.trans hold) nofun
          | true =>
              by_contra hnot
              have hnot' : id ∉ server.workspaces := hnot
              rw [attachedAt, registered, if_neg hnot'] at hold
              cases hold
      | _ => cases hnext
  | detach =>
      cases phase with
      | detaching rest result =>
          cases rest with
          | nil => cases hnext
          | cons runtimeId rest =>
              obtain rfl := Option.some.inj hnext
              obtain ⟨hc, hadmissible, hs, he, hrest⟩ := h
              refine ⟨hc, hadmissible, ⟨hs.sender, hs.respSender⟩, he, fun id hid => ?_⟩
              have hattached : (server.detachFrom clientId runtimeId).attachedAt clientId id =
                  true := hid
              rw [attachedAt_detachFrom, Bool.and_eq_true] at hattached
              refine (List.mem_cons.mp (hrest id hattached.1)).resolve_left fun heq => ?_
              simp [heq] at hattached
      | _ => cases hnext
  | finish =>
      cases phase with
      | detaching rest result =>
          cases rest with
          | cons runtimeId rest => cases hnext
          | nil =>
              obtain rfl := Option.some.inj hnext
              obtain ⟨hc, hadmissible, hs, he, hrest⟩ := h
              refine Or.inl ⟨hadmissible, ?_, hs, he.1, he.2, fun id => ?_⟩
              · show connectedClients - 1 = others
                have hcount : connectedClients = others + 1 := hc
                rw [hcount, UInt32.add_sub_cancel]
              · by_contra hattached
                exact absurd (hrest id (Bool.of_not_eq_false hattached)) List.not_mem_nil
      | _ => cases hnext

theorem reachable_inv {clientId : Uuid} {input : ConnectionInput} {s : ConnectionState P G}
    (h : (system P G clientId input).Reachable s) :
    Inv clientId input s := by
  refine System.ReachableUnder.invariant (I := Inv clientId input) ?_ ?_ h
  · rintro s ⟨hphase, hcount, hsender, hresp, hprotocol, hsizes, hdetached⟩
    unfold Inv
    rw [hphase]
    exact ⟨hcount, ⟨hsender, hresp⟩, hprotocol, hsizes, hdetached⟩
  · intro s step s' hs _ hnext
    exact hs.next hnext

/-- **A connection that has returned is cleaned up if and only if neither its first frame
nor its handshake has failed.** -/
theorem returned_cleanedUp_iff {clientId : Uuid} {input : ConnectionInput}
    {s : ConnectionState P G} {result : ConnectionResult}
    (h : (system P G clientId input).Reachable s)
    (hreturned : s.phase = .returned result) :
    CleanedUp clientId s ↔ Admissible input := by
  have hinv := reachable_inv h
  unfold Inv at hinv
  rw [hreturned] at hinv
  rcases hinv with ⟨hadmissible, hcount, hsilent, hunserved⟩ | ⟨hnot, hcount⟩
  · refine ⟨fun _ => hadmissible, fun _ => ⟨hsilent.sender, hsilent.respSender,
      hunserved.protocol, hunserved.sizes, fun id w hw => ?_, hcount⟩⟩
    have hdetached := hunserved.detached id
    rw [attachedAt, hw, Option.any_some] at hdetached
    exact Option.not_isSome_iff_eq_none.mp (Bool.eq_false_iff.mp hdetached)
  · refine ⟨fun hclean => ?_, fun hadmissible => absurd hadmissible hnot⟩
    have hself : s.others + 1 = s.others := hcount.symm.trans hclean.counter
    simp at hself

end ConnectionState

end Runs

section Samples

namespace ConnectionState

/-- The frame of a greeting at the version `version` with the core capabilities. -/
def helloFrame (version : UInt8) : Bytes :=
  [30, 0, 0, 0, 0x08, version, 0x10, version, 0x1a, 16] ++ List.replicate 16 7 ++
    [0x32, 6, 1, 2, 3, 4, 5, 6]

/-- A decoder that knows those frames. -/
instance knownHellos : ClientHelloDecoder where
  decode := fun payload =>
    match payload.take 4 with
    | [0x08, min, 0x10, max] =>
        if payload.drop 4 = (helloFrame 0).drop 8 then
          .ok ⟨min.toNat, max.toNat, List.replicate 16 7, "", "", [1, 2, 3, 4, 5, 6]⟩
        else
          .error "unknown"
    | _ => .error "unknown"

/-- A daemon without workspaces that accepts a connection. -/
def accepting : ConnectionState SampleParser SampleGrid :=
  ⟨⟨∅, [], [], ∅, [], [], ∅, ∅, [], ∅, []⟩, 0, 0, .accepted⟩

theorem init_accepting (clientId : Uuid) (input : ConnectionInput) :
    (system SampleParser SampleGrid clientId input).init accepting :=
  ⟨rfl, rfl, List.not_mem_nil, List.not_mem_nil, rfl, rfl, fun _ => rfl⟩

/-- A session that ends at once. -/
def shortSession : List (ConnectionStep SampleParser SampleGrid) :=
  [.count, .register, .readFirst, .handshake, .setProtocol, .readerEnds (.ok ()), .cleanup,
    .finish]

theorem shortSession_runs :
    ((system SampleParser SampleGrid 9 ⟨.frame (helloFrame 3), true⟩).exec accepting
      shortSession).isSome = true := by
  decide +kernel

theorem returned_cleanedUp_shortSession :
    ∃ s : ConnectionState SampleParser SampleGrid,
      (system SampleParser SampleGrid 9 ⟨.frame (helloFrame 3), true⟩).Reachable s ∧
      (CleanedUp 9 s ↔ Admissible ⟨.frame (helloFrame 3), true⟩) :=
  ⟨_, System.reachable_get (init_accepting _ _) shortSession_runs,
    returned_cleanedUp_iff (System.reachable_get (init_accepting _ _) shortSession_runs)
      (by rfl : _ = ConnectionPhase.returned (.ok ()))⟩

/-- A greeting at version 2. -/
def mismatch : List (ConnectionStep SampleParser SampleGrid) :=
  [.count, .register, .readFirst, .handshake]

theorem mismatch_runs :
    ((system SampleParser SampleGrid 9 ⟨.frame (helloFrame 2), true⟩).exec accepting
      mismatch).isSome = true := by
  decide +kernel

/-- **A client of another version is never forgotten**: it stays registered and counted. -/
theorem version_mismatch_leaks :
    ∃ s : ConnectionState SampleParser SampleGrid,
      (system SampleParser SampleGrid 9 ⟨.frame (helloFrame 2), true⟩).Reachable s ∧
      (∃ message, s.phase = .returned (.error (.versionNegotiation message))) ∧
      9 ∈ s.server.clientSenders ∧ 9 ∈ s.server.clientRespSenders ∧
      s.connectedClients = s.others + 1 ∧ ¬ CleanedUp 9 s := by
  refine ⟨_, System.reachable_get (init_accepting _ _) mismatch_runs, ⟨_, by rfl⟩,
    by decide +kernel, by decide +kernel, by decide +kernel, ?_⟩
  exact fun hclean => hclean.sender (by decide +kernel)

end ConnectionState

end Samples

end Server
end Rttx
