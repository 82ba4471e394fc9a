import Rttx.Kernel.WireReading
import Rttx.Server.ConnectionLifecycle
import Rttx.Server.ConnectionReader
import Rttx.Server.ScreenPerformer

/-!
# The handshake on both sides

A client greets its daemon, and the daemon answers with a greeting of its own or with
an error.  The answer is a bare message: nothing but its fields says which of the two it
is.  The client reads it as a greeting first, and as an error only if that fails.

The fields of an error have the numbers and wire types of those of a greeting, and a
reader passes over fields that it does not know.  So every error is also a greeting, of a
daemon that has hardly any capabilities.

**Results.**
* `handshake_agrees`: the client goes on if and only if the daemon does, and both with the
  same capabilities.
* `refusal_reads_as_greeting`: what a daemon that refuses has to say is never shown; the
  client reports missing capabilities instead.
-/

namespace Rttx
namespace Client

open Kernel Server
open Kernel.Wire

section Messages

/-- A daemon's greeting. -/
structure ServerHello where
  negotiatedProtocolVersion : Nat
  serverId : Bytes
  serverVersion : String
  capabilities : List Int
deriving DecidableEq

/-- An enumerator as it is written: extended to 64 bits. -/
def enumVarint (value : Int) : Nat :=
  (value % 2 ^ 64).toNat

/-- An enumerator as it is read: its lower 32 bits, with a sign. -/
def toI32 (n : Nat) : Int :=
  if n % 2 ^ 32 < 2 ^ 31 then (n % 2 ^ 32 : Nat) else (n % 2 ^ 32 : Nat) - 2 ^ 32

theorem toI32_enumVarint {value : Int}
    (hlow : -2 ^ 31 ≤ value)
    (hhigh : value < 2 ^ 31) :
    toI32 (enumVarint value) = value := by
  rw [toI32, enumVarint]
  split <;> omega

namespace ServerHello

def empty : ServerHello :=
  ⟨0, [], "", []⟩

def encode (hello : ServerHello) : Bytes :=
  uint64Field 1 hello.negotiatedProtocolVersion ++ bytesField 2 hello.serverId ++
    stringField 3 hello.serverVersion ++
    bytesField 4 ((hello.capabilities.map enumVarint).flatMap varint)

/-- Take in a field; a field of a known number must have its wire type, and the
capabilities may be packed or not. -/
def merge (hello : ServerHello) (field : WireField) : Option ServerHello :=
  match field.number, field.value with
  | 1, .varint n => some { hello with negotiatedProtocolVersion := n % 2 ^ 32 }
  | 2, .bytes b => some { hello with serverId := b }
  | 3, .bytes b => (utf8Text b).map fun text => { hello with serverVersion := text }
  | 4, .varint n => some { hello with capabilities := hello.capabilities ++ [toI32 n] }
  | 4, .bytes b =>
      (readPacked b).map fun values =>
        { hello with capabilities := hello.capabilities ++ values.map toI32 }
  | number, _ => if number ∈ [1, 2, 3, 4] then none else some hello

@[simp] theorem merge_version (hello : ServerHello) (n : Nat) :
    hello.merge ⟨1, .varint n⟩ = some { hello with negotiatedProtocolVersion := n % 2 ^ 32 } :=
  rfl

@[simp] theorem merge_serverVersion (hello : ServerHello) (b : Bytes) :
    hello.merge ⟨3, .bytes b⟩ =
      (utf8Text b).map fun text => { hello with serverVersion := text } :=
  rfl

@[simp] theorem merge_capabilities (hello : ServerHello) (b : Bytes) :
    hello.merge ⟨4, .bytes b⟩ =
      (readPacked b).map fun values =>
        { hello with capabilities := hello.capabilities ++ values.map toI32 } :=
  rfl

def decode (payload : Bytes) : Option ServerHello :=
  (readMessage payload).bind fun fields => fields.foldlM merge empty

end ServerHello

/-- The number of a kind of error. -/
def errorKindNumber : ErrorKind → Int
  | .protocolMismatch => 1
  | .unsupportedCapability => 2
  | .invalidArgument => 3
  | .workspaceNotFound => 4
  | .paneNotFound => 5
  | .ownershipConflict => 6
  | .takeoverRequired => 7
  | .streamOverflow => 8
  | .internal => 9

/-- The kind of a number; none is the unspecified one. -/
def errorKind? (number : Int) : Option ErrorKind :=
  [ErrorKind.protocolMismatch, .unsupportedCapability, .invalidArgument, .workspaceNotFound,
    .paneNotFound, .ownershipConflict, .takeoverRequired, .streamOverflow, .internal].find?
      fun kind => errorKindNumber kind = number

def encodeError (err : ProtocolError) : Bytes :=
  uint64Field 1 (errorKindNumber err.kind).toNat ++ stringField 2 err.message ++
    stringField 3 err.operation ++ boolField 4 err.retryable ++
    boolField 5 err.userActionRequired ++ uint64Field 6 err.retryAfterSeconds

/-- An error as it is read. -/
structure ErrorMessage where
  kind : Int
  message : String
  operation : String
  retryable : Bool
  userActionRequired : Bool
  retryAfterSeconds : Nat
deriving DecidableEq

namespace ErrorMessage

def empty : ErrorMessage :=
  ⟨0, "", "", false, false, 0⟩

def merge (err : ErrorMessage) (field : WireField) : Option ErrorMessage :=
  match field.number, field.value with
  | 1, .varint n => some { err with kind := toI32 n }
  | 2, .bytes b => (utf8Text b).map fun text => { err with message := text }
  | 3, .bytes b => (utf8Text b).map fun text => { err with operation := text }
  | 4, .varint n => some { err with retryable := n ≠ 0 }
  | 5, .varint n => some { err with userActionRequired := n ≠ 0 }
  | 6, .varint n => some { err with retryAfterSeconds := n % 2 ^ 32 }
  | number, _ => if number ∈ [1, 2, 3, 4, 5, 6] then none else some err

def decode (payload : Bytes) : Option ErrorMessage :=
  (readMessage payload).bind fun fields => fields.foldlM merge empty

end ErrorMessage

end Messages

section Sides

/-- What the daemon sends in answer to a greeting. -/
def answerPayload (serverId : Uuid) (serverVersion : String) (hello : ClientHello) : Bytes :=
  match (answerHello hello).1 with
  | .error err => encodeError err
  | .hello negotiatedVersion =>
      ServerHello.encode
        { negotiatedProtocolVersion := negotiatedVersion
          serverId := uuidToBytes serverId
          serverVersion := serverVersion
          capabilities := serverCapabilities.map Capability.toI32 }

/-- Why a handshake failed. -/
inductive HandshakeFailure
  | disconnected
  | frame (error : IpcError)
  | protocolError (kind : Option ErrorKind) (message : String) (retryable : Bool)
  | unexpectedMessage
deriving DecidableEq

/-- What a client makes of the answer: the effective capabilities, or an error. -/
def readAnswer (clientCaps : List Int) (payload : Bytes) :
    Except HandshakeFailure (List Int) :=
  match ServerHello.decode payload with
  | some serverHello =>
      match validateServerCapabilities serverHello.capabilities with
      | .error missing =>
          let err := missingCapabilitiesError missing
          .error (.protocolError (some err.kind) err.message false)
      | .ok _ => .ok (effectiveCapabilities clientCaps serverHello.capabilities)
  | none =>
      match ErrorMessage.decode payload with
      | some err => .error (.protocolError (errorKind? err.kind) err.message err.retryable)
      | none => .error .unexpectedMessage

/-- Wait for the answer; its length stands in front of it. -/
def handshake (clientCaps : List Int) (conn : ClientConnection) :
    Except HandshakeFailure (List Int) :=
  match (ClientConnection.readRawFrame conn.chunks conn.buffer).1 with
  | .ok (some raw) => readAnswer clientCaps (raw.drop 4)
  | .ok none => .error .disconnected
  | .error error => .error (.frame error)

end Sides

section Reading

/-- The fields of a daemon's greeting. -/
def ServerHello.fields (hello : ServerHello) : List WireField :=
  uint64Fields 1 hello.negotiatedProtocolVersion ++ bytesFields 2 hello.serverId ++
    bytesFields 3 (bytesOf hello.serverVersion) ++
    bytesFields 4 ((hello.capabilities.map enumVarint).flatMap varint)

def errorFields (err : ProtocolError) : List WireField :=
  uint64Fields 1 (errorKindNumber err.kind).toNat ++ bytesFields 2 (bytesOf err.message) ++
    bytesFields 3 (bytesOf err.operation) ++ uint64Fields 4 err.retryable.toNat ++
    uint64Fields 5 err.userActionRequired.toNat ++ uint64Fields 6 err.retryAfterSeconds

theorem ServerHello.encode_eq (hello : ServerHello) :
    hello.encode = hello.fields.flatMap WireField.encode := by
  have htext : stringField 3 hello.serverVersion = bytesField 3 (bytesOf hello.serverVersion) := rfl
  simp only [encode, fields, List.flatMap_append, htext, uint64Field_eq, bytesField_eq]

theorem encodeError_eq (err : ProtocolError) :
    encodeError err = (errorFields err).flatMap WireField.encode := by
  have htext : ∀ number text, stringField number text = bytesField number (bytesOf text) :=
    fun _ _ => rfl
  simp only [encodeError, errorFields, List.flatMap_append, htext, boolField, uint64Field_eq,
    bytesField_eq]

/-- An empty text has no bytes, and no other text. -/
theorem bytesOf_eq_nil {text : String}
    (h : bytesOf text = []) :
    text = "" := by
  have htext := utf8Text_bytesOf text
  rw [h] at htext
  exact Option.some.inj (htext.symm.trans (utf8Text_bytesOf ""))

theorem ServerHello.fits_fields {hello : ServerHello}
    (hversion : hello.negotiatedProtocolVersion < 2 ^ 32)
    (hlength : hello.encode.length < 2 ^ 64) :
    ∀ field ∈ hello.fields, field.Fits := by
  have hid := le_bytesFieldSize 2 hello.serverId.length
  have htext := le_bytesFieldSize 3 (bytesOf hello.serverVersion).length
  have hpacked := le_bytesFieldSize 4 ((hello.capabilities.map enumVarint).flatMap varint).length
  have hstring : (stringField 3 hello.serverVersion).length =
      bytesFieldSize 3 (bytesOf hello.serverVersion).length := bytesField_length _ _
  simp only [encode, List.length_append, bytesField_length, hstring] at hlength
  simp only [fields, List.forall_mem_append]
  exact ⟨⟨⟨fits_uint64Fields (by decide) (by decide) (by omega),
    fits_bytesFields (by decide) (by decide) (by omega)⟩,
    fits_bytesFields (by decide) (by decide) (by omega)⟩,
    fits_bytesFields (by decide) (by decide) (by omega)⟩

/-- Packed enumerators are read back. -/
theorem readPacked_enumVarint {values : List Int}
    (h : ∀ c ∈ values, -2 ^ 31 ≤ c ∧ c < 2 ^ 31) :
    (readPacked ((values.map enumVarint).flatMap varint)).map (List.map toI32) = some values := by
  have hvarints : ∀ n ∈ values.map enumVarint, n < 2 ^ 64 := by
    intro n hn
    obtain ⟨c, _, rfl⟩ := List.mem_map.mp hn
    rw [enumVarint]
    omega
  have hread : (values.map enumVarint).map toI32 = values := by
    rw [List.map_map]
    refine (List.map_congr_left fun c hc => ?_).trans (List.map_id values)
    exact toI32_enumVarint (h c hc).1 (h c hc).2
  rw [readPacked_flatMap hvarints, Option.map_some, hread]

theorem eq_nil_of_flatMap_varint {values : List Int}
    (h : (values.map enumVarint).flatMap varint = []) :
    values = [] := by
  cases values with
  | nil => rfl
  | cons c rest =>
      rw [List.map_cons, List.flatMap_cons] at h
      exact absurd (List.append_eq_nil_iff.mp h).1 (varint_ne_nil _)

/-- **A daemon's greeting is read back.** -/
theorem ServerHello.decode_encode {hello : ServerHello}
    (hversion : hello.negotiatedProtocolVersion < 2 ^ 32)
    (hcaps : ∀ c ∈ hello.capabilities, -2 ^ 31 ≤ c ∧ c < 2 ^ 31)
    (hlength : hello.encode.length < 2 ^ 64) :
    decode hello.encode = some hello := by
  have hfits := fits_fields hversion hlength
  have hpacked := readPacked_enumVarint hcaps
  rw [decode, encode_eq, readMessage_encode hfits, Option.bind_some, fields]
  obtain ⟨version, id, text, caps⟩ := hello
  have hone : (uint64Fields 1 version).foldlM merge empty = some ⟨version, [], "", []⟩ :=
    foldlM_uint64Fields (fun h => h ▸ rfl)
      ((merge_version empty version).trans (by rw [Nat.mod_eq_of_lt hversion]; rfl))
  have htwo : (bytesFields 2 id).foldlM merge ⟨version, [], "", []⟩ =
      some ⟨version, id, "", []⟩ :=
    foldlM_bytesFields (fun h => h ▸ rfl) rfl
  have hthree : (bytesFields 3 (bytesOf text)).foldlM merge ⟨version, id, "", []⟩ =
      some ⟨version, id, text, []⟩ :=
    foldlM_bytesFields (fun h => bytesOf_eq_nil h ▸ rfl)
      ((merge_serverVersion _ _).trans (by rw [utf8Text_bytesOf]; rfl))
  have hfour : (bytesFields 4 ((caps.map enumVarint).flatMap varint)).foldlM merge
      ⟨version, id, text, []⟩ = some ⟨version, id, text, caps⟩ := by
    refine foldlM_bytesFields (fun h => eq_nil_of_flatMap_varint h ▸ rfl) ?_
    obtain ⟨values, hread, hvalues⟩ := Option.map_eq_some_iff.mp hpacked
    dsimp only at hread hvalues
    rw [merge_capabilities, hread, Option.map_some, hvalues]
    rfl
  simp only [List.foldlM_append, hone, htwo, hthree, hfour, Option.bind_eq_bind, Option.bind_some]

/-- The enumerator of an error that may be tried again, as a capability. -/
def retryCapabilities (retryable : Bool) : List Int :=
  if retryable then [Capability.coreWorkspaceLifecycle.toI32] else []

theorem fits_errorFields {err : ProtocolError}
    (hretry : err.retryAfterSeconds < 2 ^ 32)
    (hlength : (encodeError err).length < 2 ^ 64) :
    ∀ field ∈ errorFields err, field.Fits := by
  have hmessage := le_bytesFieldSize 2 (bytesOf err.message).length
  have hoperation := le_bytesFieldSize 3 (bytesOf err.operation).length
  have hstring : ∀ number text, (stringField number text).length =
      bytesFieldSize number (bytesOf text).length := fun _ _ => bytesField_length _ _
  simp only [encodeError, List.length_append, hstring] at hlength
  have hkind : (errorKindNumber err.kind).toNat < 2 ^ 64 := by
    cases err.kind <;> decide
  have hbool : ∀ b : Bool, b.toNat < 2 ^ 64 := by decide
  simp only [errorFields, List.forall_mem_append]
  exact ⟨⟨⟨⟨⟨fits_uint64Fields (by decide) (by decide) hkind,
    fits_bytesFields (by decide) (by decide) (by omega)⟩,
    fits_bytesFields (by decide) (by decide) (by omega)⟩,
    fits_uint64Fields (by decide) (by decide) (hbool _)⟩,
    fits_uint64Fields (by decide) (by decide) (hbool _)⟩,
    fits_uint64Fields (by decide) (by decide) (by omega)⟩

/-- **An error reads as a greeting**: its kind is the version, its message the id of the
daemon, and that it may be tried again a capability. -/
theorem ServerHello.decode_encodeError {err : ProtocolError}
    (hretry : err.retryAfterSeconds < 2 ^ 32)
    (hlength : (encodeError err).length < 2 ^ 64) :
    decode (encodeError err) =
      some ⟨(errorKindNumber err.kind).toNat, bytesOf err.message, err.operation,
        retryCapabilities err.retryable⟩ := by
  rw [decode, encodeError_eq, readMessage_encode (fits_errorFields hretry hlength),
    Option.bind_some, errorFields]
  obtain ⟨kind, message, operation, retryable, userActionRequired, retryAfterSeconds⟩ := err
  have hkind : (errorKindNumber kind).toNat % 2 ^ 32 = (errorKindNumber kind).toNat := by
    cases kind <;> rfl
  generalize (errorKindNumber kind).toNat = version at hkind ⊢
  have hone : (uint64Fields 1 version).foldlM merge empty = some ⟨version, [], "", []⟩ :=
    foldlM_uint64Fields (fun h => h ▸ rfl)
      ((merge_version empty version).trans (by rw [hkind]; rfl))
  have htwo : (bytesFields 2 (bytesOf message)).foldlM merge ⟨version, [], "", []⟩ =
      some ⟨version, bytesOf message, "", []⟩ :=
    foldlM_bytesFields (fun h => by rw [h]) rfl
  have hthree : (bytesFields 3 (bytesOf operation)).foldlM merge
      ⟨version, bytesOf message, "", []⟩ = some ⟨version, bytesOf message, operation, []⟩ :=
    foldlM_bytesFields (fun h => bytesOf_eq_nil h ▸ rfl)
      ((merge_serverVersion _ _).trans (by rw [utf8Text_bytesOf]; rfl))
  have hfour : (uint64Fields 4 retryable.toNat).foldlM merge
      ⟨version, bytesOf message, operation, []⟩ =
        some ⟨version, bytesOf message, operation, retryCapabilities retryable⟩ := by
    cases retryable <;> rfl
  have hunknown : ∀ hello number value, 4 < number →
      (uint64Fields number value).foldlM merge hello = some hello := by
    intro hello number value hnumber
    refine foldlM_uint64Fields (fun _ => rfl) ?_
    have hmem : number ∉ [1, 2, 3, 4] := by simp; omega
    rw [merge]
    split <;> simp_all
  simp only [List.foldlM_append, hone, htwo, hthree, hfour, hunknown _ 5 _ (by decide),
    hunknown _ 6 _ (by decide), Option.bind_eq_bind, Option.bind_some]

end Reading

section Agreement

open ClientConnection

/-- **A frame is read whole**, however it is cut. -/
theorem readRawFrame_frame {payload more : Bytes} {conn : ClientConnection}
    (hsize : payload.length ≤ maxMessageSize)
    (hconn : conn.remaining = u32ToLeBytes payload.length ++ payload ++ more) :
    (readRawFrame conn.chunks conn.buffer).1 =
      .ok (some (u32ToLeBytes payload.length ++ payload)) := by
  have hframe := @decoder_frame _ _ (⟨payload⟩ : PlainMessage) hsize .rawFrame more
  have hpull := (ChunkedStream.pull_spec (decoder_resumable (M := PlainMessage) .rawFrame) conn).1
  have hread := congrArg Prod.fst
    (readRawFrame_eq (M := PlainMessage) conn.chunks conn.buffer)
  have hencoded : ProstMessage.encode (⟨payload⟩ : PlainMessage) = payload := rfl
  have hlen : encodedLen (⟨payload⟩ : PlainMessage) = payload.length := rfl
  rw [hlen, hencoded] at hframe
  rw [hconn, ChunkedStream.outcome, hframe] at hpull
  rw [ChunkedStream.pull] at hpull
  have hitem := hread.trans hpull
  dsimp only at hitem
  cases hresult : (readRawFrame conn.chunks conn.buffer).1 with
  | error error =>
      rw [hresult] at hitem
      cases hitem
  | ok found =>
      rw [hresult] at hitem
      cases found with
      | none => cases hitem
      | some frame =>
          simp only [toPulled, Pulled.item.injEq, Received.frame.injEq, delivered, hencoded,
            hlen] at hitem
          rw [hitem]

/-- What the client makes of the answer that is on its way. -/
theorem handshake_of_frame {payload more : Bytes} {conn : ClientConnection}
    (hsize : payload.length ≤ maxMessageSize)
    (hconn : conn.remaining = u32ToLeBytes payload.length ++ payload ++ more)
    (clientCaps : List Int) :
    handshake clientCaps conn = readAnswer clientCaps payload := by
  rw [handshake, readRawFrame_frame hsize hconn]
  rfl

/-- The core capabilities that a client misses in an error. -/
def missedCapabilities (retryable : Bool) : List Capability :=
  coreCapabilities.drop retryable.toNat

theorem validate_retryCapabilities (retryable : Bool) :
    validateServerCapabilities (retryCapabilities retryable) =
      .error (missedCapabilities retryable) := by
  cases retryable <;> rfl

/-- An error is read as a greeting without capabilities. -/
theorem readAnswer_encodeError {err : ProtocolError}
    (hretry : err.retryAfterSeconds < 2 ^ 32)
    (hlength : (encodeError err).length ≤ maxMessageSize)
    (clientCaps : List Int) :
    readAnswer clientCaps (encodeError err) =
      .error (.protocolError (some .unsupportedCapability)
        (missingCapabilitiesError (missedCapabilities err.retryable)).message false) := by
  have hlt : (encodeError err).length < 2 ^ 64 := Nat.lt_of_le_of_lt hlength (by decide)
  rw [readAnswer, ServerHello.decode_encodeError hretry hlt]
  simp only [validate_retryCapabilities]
  rfl

/-- **What a refusal has to say is lost.**  Whatever error a daemon sends in answer to a
greeting, the client reports that the daemon lacks the core capabilities (but for the first
one, if the error may be tried again), and neither the kind of the error nor its message. -/
theorem refusal_reads_as_greeting {err : ProtocolError} {more : Bytes} {conn : ClientConnection}
    (hretry : err.retryAfterSeconds < 2 ^ 32)
    (hsize : (encodeError err).length ≤ maxMessageSize)
    (hconn : conn.remaining =
      u32ToLeBytes (encodeError err).length ++ encodeError err ++ more)
    (clientCaps : List Int) :
    handshake clientCaps conn =
      .error (.protocolError (some .unsupportedCapability)
        (missingCapabilitiesError (missedCapabilities err.retryable)).message false) := by
  rw [handshake_of_frame hsize hconn]
  exact readAnswer_encodeError hretry hsize clientCaps

/-- A refusal for the version. -/
def mismatchError : ProtocolError :=
  ⟨.protocolMismatch, "", "", false, true, 0⟩

/-- The theorem on that refusal. -/
theorem refusal_reads_as_greeting_mismatch :
    handshake [] ⟨[], u32ToLeBytes (encodeError mismatchError).length ++
      encodeError mismatchError ++ []⟩ =
        .error (.protocolError (some .unsupportedCapability)
          (missingCapabilitiesError coreCapabilities).message false) := by
  have hsize : (encodeError mismatchError).length ≤ maxMessageSize := by
    simp [mismatchError, encodeError, boolField, errorKindNumber, uint64FieldSize, fieldKeySize,
      varintSize, bytesFieldSize]
    decide
  exact @refusal_reads_as_greeting _ [] _ (by decide) hsize (List.append_nil _) []

/-- A daemon's error in answer to a greeting is never to be tried again. -/
theorem answerHello_error {hello : ClientHello} {err : ProtocolError}
    (h : (answerHello hello).1 = .error err) :
    err.retryAfterSeconds = 0 ∧ ∃ failure, (answerHello hello).2 = .error failure := by
  rw [answerHello, negotiateVersion] at h ⊢
  by_cases hversion : max hello.minProtocolVersion v3ProtocolVersion ≤
      min hello.maxProtocolVersion v3ProtocolVersion
  · simp only [if_pos hversion] at h ⊢
    cases hvalid : validateServerCapabilities (effectiveCapabilities hello.capabilities
        (serverCapabilities.map Capability.toI32)) with
    | ok _ =>
        rw [hvalid] at h
        cases h
    | error missing =>
        rw [hvalid] at h
        cases h
        exact ⟨rfl, _, rfl⟩
  · simp only [if_neg hversion] at h ⊢
    cases h
    exact ⟨rfl, _, rfl⟩

/-- A daemon that greets has a version of its own, and takes what both can do. -/
theorem answerHello_hello {hello : ClientHello} {version : Nat}
    (h : (answerHello hello).1 = .hello version) :
    version < 2 ^ 32 ∧ (answerHello hello).2 =
      .ok (effectiveCapabilities hello.capabilities (serverCapabilities.map Capability.toI32)) := by
  rw [answerHello, negotiateVersion] at h ⊢
  by_cases hversion : max hello.minProtocolVersion v3ProtocolVersion ≤
      min hello.maxProtocolVersion v3ProtocolVersion
  · simp only [if_pos hversion] at h ⊢
    cases hvalid : validateServerCapabilities (effectiveCapabilities hello.capabilities
        (serverCapabilities.map Capability.toI32)) with
    | ok _ =>
        rw [hvalid] at h
        have hnegotiated := HandshakeReply.hello.inj h
        refine ⟨?_, rfl⟩
        rw [← hnegotiated]
        exact Nat.lt_of_le_of_lt (Nat.min_le_right _ _) (by decide)
    | error missing =>
        rw [hvalid] at h
        cases h
  · simp only [if_neg hversion] at h
    cases h

/-- The capabilities of a daemon are enumerators, and the core is among them. -/
theorem serverCapabilities_range :
    ∀ c ∈ serverCapabilities.map Capability.toI32, -2 ^ 31 ≤ c ∧ c < 2 ^ 31 := by
  decide

/-- **Both sides of a handshake agree**: however the answer is cut on its way, the client
goes on if and only if the daemon does, and with the same capabilities. -/
theorem handshake_agrees {hello : ClientHello} {serverId : Uuid} {serverVersion : String}
    {more : Bytes} {conn : ClientConnection}
    (hsize : (answerPayload serverId serverVersion hello).length ≤ maxMessageSize)
    (hconn : conn.remaining = u32ToLeBytes (answerPayload serverId serverVersion hello).length ++
      answerPayload serverId serverVersion hello ++ more)
    (caps : List Int) :
    handshake hello.capabilities conn = .ok caps ↔ (answerHello hello).2 = .ok caps := by
  rw [handshake_of_frame hsize hconn]
  cases hreply : (answerHello hello).1 with
  | error err =>
      obtain ⟨hafter, failure, hfailure⟩ := answerHello_error hreply
      have hpayload : answerPayload serverId serverVersion hello = encodeError err := by
        simp only [answerPayload, hreply]
      rw [hpayload] at hsize ⊢
      rw [readAnswer_encodeError (by omega) hsize, hfailure]
      exact iff_of_false (fun h => by cases h) (fun h => by cases h)
  | hello version =>
      obtain ⟨hversion, hok⟩ := answerHello_hello hreply
      have hpayload : answerPayload serverId serverVersion hello =
          ServerHello.encode ⟨version, uuidToBytes serverId, serverVersion,
            serverCapabilities.map Capability.toI32⟩ := by
        simp only [answerPayload, hreply]
      rw [hpayload] at hsize ⊢
      have hlength := Nat.lt_of_le_of_lt hsize (show maxMessageSize < 2 ^ 64 by decide)
      have hvalid : validateServerCapabilities (serverCapabilities.map Capability.toI32) =
          .ok () := by
        rfl
      rw [readAnswer, ServerHello.decode_encode hversion serverCapabilities_range hlength, hok]
      simp only [hvalid, Except.ok.injEq]

/-- A client that has what the daemon has. -/
def ownHello : ClientHello :=
  ⟨3, 3, List.replicate 16 0, "", "", serverCapabilities.map Capability.toI32⟩

theorem ownHello_size : (answerPayload 0 "" ownHello).length ≤ maxMessageSize := by
  have hpayload : answerPayload 0 "" ownHello =
      uint64Field 1 3 ++ bytesField 2 (uuidToBytes 0) ++ bytesField 3 [] ++
        bytesField 4 (((serverCapabilities.map Capability.toI32).map enumVarint).flatMap varint) :=
    rfl
  have hid : (uuidToBytes 0).length = 16 := rfl
  have hpacked : (((serverCapabilities.map Capability.toI32).map enumVarint).flatMap
      varint).length = 12 := by
    simp [serverCapabilities, Capability.toI32, enumVarint, varintSize]
  simp only [hpayload, List.length_append, uint64Field_length, bytesField_length, hpacked, hid]
  simp [uint64FieldSize, bytesFieldSize, messageFieldSize, fieldKeySize, varintSize,
    maxMessageSize]

/-- The theorem on the answer to it. -/
theorem handshake_agrees_ownHello :
    handshake ownHello.capabilities ⟨[], u32ToLeBytes (answerPayload 0 "" ownHello).length ++
      answerPayload 0 "" ownHello ++ []⟩ = .ok ownHello.capabilities := by
  refine (@handshake_agrees _ 0 "" [] _ ownHello_size ?_ _).mpr ?_
  · exact List.append_nil _
  · rfl

end Agreement

end Client
end Rttx
