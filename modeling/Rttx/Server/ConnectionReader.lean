import Rttx.Kernel.ChunkedStream
import Rttx.Server.Terminal

/-!
# Frames on a connection

A message travels as a frame: its length in four little-endian bytes, then its
protobuf encoding.  A connection is read frame by frame, the first one as raw
bytes and the others decoded; both readers share one buffer, and the socket cuts
the stream into chunks of its own.

**Results.**
* `decodeFrame_encodeFrame`: a frame decodes to its message.
* `frames_round_trip`: any sequence of reads gives the messages that were framed,
  however the stream is cut, and then its end or, if a length over the limit
  follows, that error.
-/

namespace Rttx
namespace Server

open Kernel

section Frames

/-- Maximum message size (16 MB). -/
def maxMessageSize : Nat := 16 * 1024 * 1024

/-- A generated message type with its encoding. -/
class ProstMessage (M : Type) where
  encode : M → Bytes

/-- A generated message type whose encoding decodes. -/
class ProstCodec (M : Type) extends ProstMessage M where
  decode : Bytes → Except String M
  decode_encode : ∀ m, decode (encode m) = .ok m

inductive FrameError
  | tooLarge (len : Nat)
  | incomplete
  | decode (error : String)
deriving DecidableEq

/-- Errors from IPC operations, as far as reading causes them. -/
inductive IpcError
  | frame (error : FrameError)
deriving DecidableEq

/-- The four little-endian bytes of a length. -/
def u32ToLeBytes (n : Nat) : Bytes :=
  [.ofNat n, .ofNat (n / 2 ^ 8), .ofNat (n / 2 ^ 16), .ofNat (n / 2 ^ 24)]

def u32FromLeBytes (b0 b1 b2 b3 : UInt8) : Nat :=
  b0.toNat + 2 ^ 8 * b1.toNat + 2 ^ 16 * b2.toNat + 2 ^ 24 * b3.toNat

variable {M : Type}

def encodedLen [ProstMessage M] (msg : M) : Nat :=
  (ProstMessage.encode msg).length

/-- Encode a message with its length in front. -/
def encodeFrame [ProstMessage M] (msg : M) (buf : Bytes) : Except FrameError Bytes :=
  let len := encodedLen msg
  if 2 ^ 32 ≤ len then
    .error (.tooLarge (2 ^ 32 - 1))
  else if maxMessageSize < len then
    .error (.tooLarge len)
  else
    .ok (buf ++ u32ToLeBytes len ++ ProstMessage.encode msg)

/-- Encode messages one after another. -/
def encodeFrames [ProstMessage M] : List M → Bytes → Except FrameError Bytes
  | [], buf => .ok buf
  | msg :: msgs, buf => (encodeFrame msg buf).bind (encodeFrames msgs)

/-- Try to decode a frame from the buffer; returns the buffer past it. -/
def decodeFrame [ProstCodec M] (buf : Bytes) : Except FrameError M × Bytes :=
  match buf with
  | b0 :: b1 :: b2 :: b3 :: rest =>
      let len := u32FromLeBytes b0 b1 b2 b3
      if maxMessageSize < len then
        (.error (.tooLarge len), buf)
      else if buf.length < 4 + len then
        (.error .incomplete, buf)
      else
        match ProstCodec.decode (rest.take len) with
        | .ok msg => (.ok msg, rest.drop len)
        | .error e => (.error (.decode e), rest.drop len)
  | _ => (.error .incomplete, buf)

end Frames

section Readers

variable {M : Type}

/-- The socket and the read buffer of a client connection. -/
abbrev ClientConnection : Type :=
  ChunkedStream UInt8

namespace ClientConnection

/-- The length prefix of the buffer, if all of it is there. -/
def prefixLen? : Bytes → Option Nat
  | b0 :: b1 :: b2 :: b3 :: _ => some (u32FromLeBytes b0 b1 b2 b3)
  | _ => none

/-- Read the next raw frame as bytes without decoding; none at the end of the
stream. -/
def readRawFrame (stream : List (Chunk UInt8)) (readBuf : Bytes) :
    Except IpcError (Option Bytes) × ClientConnection :=
  match prefixLen? readBuf with
  | some len =>
      if maxMessageSize < len then
        (.error (.frame (.tooLarge len)), ⟨stream, readBuf⟩)
      else if 4 + len ≤ readBuf.length then
        (.ok (some (readBuf.take (4 + len))), ⟨stream, readBuf.drop (4 + len)⟩)
      else
        match stream with
        | [] => (.ok none, ⟨[], readBuf⟩)
        | c :: stream => readRawFrame stream (readBuf ++ c.val)
  | none =>
      match stream with
      | [] => (.ok none, ⟨[], readBuf⟩)
      | c :: stream => readRawFrame stream (readBuf ++ c.val)

variable [ProstCodec M]

/-- Read the next envelope; none on a clean disconnect. -/
def readV3Envelope (stream : List (Chunk UInt8)) (readBuf : Bytes) :
    Except IpcError (Option M) × ClientConnection :=
  match (decodeFrame readBuf : Except FrameError M × Bytes) with
  | (.ok msg, readBuf) => (.ok (some msg), ⟨stream, readBuf⟩)
  | (.error .incomplete, readBuf) =>
      match stream with
      | [] => (.ok none, ⟨[], readBuf⟩)
      | c :: stream => readV3Envelope stream (readBuf ++ c.val)
  | (.error e, readBuf) => (.error (.frame e), ⟨stream, readBuf⟩)

/-- Which of the two readers is called. -/
inductive Reader
  | rawFrame
  | envelope
deriving DecidableEq, Repr

/-- What a reader returns. -/
inductive Received (M : Type)
  | frame (bytes : Bytes)
  | message (msg : M)
deriving DecidableEq

/-- The result of a read, in one form for both readers. -/
def toPulled {α : Type} (receive : α → Received M) :
    Except IpcError (Option α) → Pulled IpcError (Received M)
  | .ok (some a) => .item (receive a)
  | .ok none => .closed
  | .error e => .failed e

/-- One read. -/
def read (conn : ClientConnection) : Reader → Pulled IpcError (Received M) × ClientConnection
  | .rawFrame =>
      let (result, conn) := readRawFrame conn.chunks conn.buffer
      (toPulled .frame result, conn)
  | .envelope =>
      let (result, conn) := readV3Envelope conn.chunks conn.buffer
      (toPulled .message result, conn)

/-- The results of a sequence of reads. -/
def reads : List Reader → ClientConnection → List (Pulled IpcError (Received M))
  | [], _ => []
  | reader :: readers, conn =>
      let (result, conn) := conn.read reader
      result :: reads readers conn

/-- What a reader returns of a message. -/
def delivered (msg : M) : Reader → Received M
  | .rawFrame => .frame (u32ToLeBytes (encodedLen msg) ++ ProstMessage.encode msg)
  | .envelope => .message msg

/-- The messages in order, and `after` from then on. -/
def inOrder (after : Pulled IpcError (Received M)) :
    List Reader → List M → List (Pulled IpcError (Received M))
  | [], _ => []
  | _ :: readers, [] => after :: inOrder after readers []
  | reader :: readers, msg :: msgs =>
      .item (delivered msg reader) :: inOrder after readers msgs

end ClientConnection

end Readers

section Encoding

theorem u32FromLeBytes_u32ToLeBytes {n : Nat}
    (h : n < 2 ^ 32) :
    u32FromLeBytes (.ofNat n) (.ofNat (n / 2 ^ 8)) (.ofNat (n / 2 ^ 16)) (.ofNat (n / 2 ^ 24)) =
      n := by
  simp only [u32FromLeBytes, UInt8.toNat_ofNat']
  omega

@[simp] theorem prefixLen_u32ToLeBytes {n : Nat}
    (h : n < 2 ^ 32)
    (rest : Bytes) :
    ClientConnection.prefixLen? (u32ToLeBytes n ++ rest) = some n := by
  simp only [u32ToLeBytes, List.cons_append, ClientConnection.prefixLen?,
    u32FromLeBytes_u32ToLeBytes h]

/-- A prefix stays when bytes are added. -/
theorem prefixLen_append {buf : Bytes} {len : Nat}
    (h : ClientConnection.prefixLen? buf = some len)
    (more : Bytes) :
    ClientConnection.prefixLen? (buf ++ more) = some len := by
  match buf, h with
  | b0 :: b1 :: b2 :: b3 :: rest, h => exact h

variable {M : Type}

/-- A message within the limit is encoded as its length and its bytes. -/
theorem encodeFrame_of_le [ProstMessage M] {msg : M}
    (h : encodedLen msg ≤ maxMessageSize)
    (buf : Bytes) :
    encodeFrame msg buf =
      .ok (buf ++ (u32ToLeBytes (encodedLen msg) ++ ProstMessage.encode msg)) := by
  have hlt : ¬ 2 ^ 32 ≤ encodedLen msg := by
    unfold maxMessageSize at h
    omega
  rw [encodeFrame, if_neg hlt, if_neg (Nat.not_lt.mpr h), List.append_assoc]

/-- Messages within the limit are encoded one after another. -/
theorem encodeFrames_of_le [ProstMessage M] {msgs : List M}
    (h : ∀ msg ∈ msgs, encodedLen msg ≤ maxMessageSize)
    (buf : Bytes) :
    encodeFrames msgs buf = .ok (buf ++ (msgs.map
      (fun msg => u32ToLeBytes (encodedLen msg) ++ ProstMessage.encode msg)).flatten) := by
  induction msgs generalizing buf with
  | nil => simp [encodeFrames]
  | cons msg msgs ih =>
      rw [encodeFrames, encodeFrame_of_le (h msg List.mem_cons_self)]
      refine (ih (fun m hm => h m (List.mem_cons_of_mem _ hm)) _).trans ?_
      simp

variable [ProstCodec M]

/-- Decoding by the prefix. -/
theorem decodeFrame_eq (buf : Bytes) :
    (decodeFrame buf : Except FrameError M × Bytes) =
      match ClientConnection.prefixLen? buf with
      | none => (.error .incomplete, buf)
      | some len =>
          if maxMessageSize < len then
            (.error (.tooLarge len), buf)
          else if buf.length < 4 + len then
            (.error .incomplete, buf)
          else
            match ProstCodec.decode ((buf.drop 4).take len) with
            | .ok msg => (.ok msg, buf.drop (4 + len))
            | .error e => (.error (.decode e), buf.drop (4 + len)) := by
  match buf with
  | b0 :: b1 :: b2 :: b3 :: rest =>
      simp only [decodeFrame, ClientConnection.prefixLen?, List.drop_succ_cons, List.drop_zero,
        Nat.add_comm 4]
  | [] => rfl
  | [_] => rfl
  | [_, _] => rfl
  | [_, _, _] => rfl

/-- **A frame decodes to its message**, and what follows it is left. -/
theorem decodeFrame_encodeFrame {msg : M}
    (h : encodedLen msg ≤ maxMessageSize)
    (rest : Bytes) :
    decodeFrame (u32ToLeBytes (encodedLen msg) ++ ProstMessage.encode msg ++ rest) =
      ((.ok msg : Except FrameError M), rest) := by
  have hlt : encodedLen msg < 2 ^ 32 := by
    unfold maxMessageSize at h
    omega
  have htake : ((u32ToLeBytes (encodedLen msg) ++ ProstMessage.encode msg ++ rest).drop 4).take
      (encodedLen msg) = ProstMessage.encode msg := by
    simp [u32ToLeBytes, encodedLen]
  have hdrop : (u32ToLeBytes (encodedLen msg) ++ ProstMessage.encode msg ++ rest).drop
      (4 + encodedLen msg) = rest := by
    rw [← List.drop_drop]
    simp [u32ToLeBytes, encodedLen]
  have hlength : ¬ (u32ToLeBytes (encodedLen msg) ++ ProstMessage.encode msg ++ rest).length <
      4 + encodedLen msg := by
    simp only [List.length_append, u32ToLeBytes, List.length_cons, List.length_nil, encodedLen]
    omega
  rw [decodeFrame_eq, List.append_assoc, prefixLen_u32ToLeBytes hlt, ← List.append_assoc]
  simp only [if_neg (Nat.not_lt.mpr h), if_neg hlength, htake, hdrop, ProstCodec.decode_encode]

end Encoding

section Decoders

/-- What the buffer holds of the next frame. -/
inductive FrameStatus
  | short
  | tooLarge (len : Nat)
  | whole (len : Nat)
deriving DecidableEq, Repr

def frameStatus (buf : Bytes) : FrameStatus :=
  match ClientConnection.prefixLen? buf with
  | none => .short
  | some len =>
      if maxMessageSize < len then
        .tooLarge len
      else if 4 + len ≤ buf.length then
        .whole len
      else
        .short

/-- A whole frame stays whole when bytes are added, and it is all there. -/
theorem frameStatus_whole {buf : Bytes} {len : Nat}
    (h : frameStatus buf = .whole len) :
    4 + len ≤ buf.length ∧ ∀ more, frameStatus (buf ++ more) = .whole len := by
  simp only [frameStatus] at h
  split at h
  · cases h
  · rename_i announced hprefix
    split at h
    · cases h
    · rename_i hsize
      split at h
      · rename_i hlength
        cases h
        refine ⟨hlength, fun more => ?_⟩
        have hmore : 4 + len ≤ (buf ++ more).length := by
          rw [List.length_append]
          omega
        simp only [frameStatus, prefixLen_append hprefix more, if_neg hsize, if_pos hmore]
      · cases h

/-- A length over the limit stays so. -/
theorem frameStatus_tooLarge {buf : Bytes} {len : Nat}
    (h : frameStatus buf = .tooLarge len)
    (more : Bytes) :
    frameStatus (buf ++ more) = .tooLarge len := by
  simp only [frameStatus] at h
  split at h
  · cases h
  · rename_i announced hprefix
    split at h
    · rename_i hsize
      cases h
      simp only [frameStatus, prefixLen_append hprefix more, if_pos hsize]
    · split at h <;> cases h

variable {M : Type}
variable [ProstCodec M]

namespace ClientConnection

/-- What a reader makes of a whole frame and what follows it. -/
def ofFrame (reader : Reader) (frame rest : Bytes) : Decoded UInt8 IpcError (Received M) :=
  match reader with
  | .rawFrame => .item (.frame frame) rest
  | .envelope =>
      match ProstCodec.decode (frame.drop 4) with
      | .ok msg => .item (.message msg) rest
      | .error e => .failed (.frame (.decode e)) rest

/-- What a reader makes of its buffer. -/
def decoder (reader : Reader) (buf : Bytes) : Decoded UInt8 IpcError (Received M) :=
  match frameStatus buf with
  | .short => .incomplete
  | .tooLarge len => .failed (.frame (.tooLarge len)) buf
  | .whole len => ofFrame reader (buf.take (4 + len)) (buf.drop (4 + len))

theorem decoder_whole {buf : Bytes} {len : Nat}
    (h : frameStatus buf = .whole len)
    (reader : Reader)
    (more : Bytes) :
    (decoder reader (buf ++ more) : Decoded UInt8 IpcError (Received M)) =
      ofFrame reader (buf.take (4 + len)) (buf.drop (4 + len) ++ more) := by
  obtain ⟨hlength, hmore⟩ := frameStatus_whole h
  simp only [decoder, hmore more, List.take_append_of_le_length hlength,
    List.drop_append_of_le_length hlength]

/-- The rest of the buffer is passed on as it is. -/
theorem ofFrame_append (reader : Reader) (frame rest more : Bytes) :
    (ofFrame reader frame (rest ++ more) : Decoded UInt8 IpcError (Received M)) =
      match (ofFrame reader frame rest : Decoded UInt8 IpcError (Received M)) with
      | .item a rest => .item a (rest ++ more)
      | .failed e rest => .failed e (rest ++ more)
      | .incomplete => .incomplete := by
  cases reader with
  | rawFrame => rfl
  | envelope =>
      simp only [ofFrame]
      cases (ProstCodec.decode (frame.drop 4) : Except String M) <;> rfl

/-- **More input changes nothing that a reader has found.** -/
theorem decoder_resumable (reader : Reader) :
    Resumable (decoder reader : Bytes → Decoded UInt8 IpcError (Received M)) := by
  constructor
  · intro buf rest a h more
    cases hstatus : frameStatus buf with
    | short => simp [decoder, hstatus] at h
    | tooLarge len => simp [decoder, hstatus] at h
    | whole len =>
        simp only [decoder, hstatus] at h
        rw [decoder_whole hstatus, ofFrame_append, h]
  · intro buf rest e h more
    cases hstatus : frameStatus buf with
    | short => simp [decoder, hstatus] at h
    | tooLarge len =>
        simp only [decoder, hstatus, Decoded.failed.injEq] at h
        obtain ⟨rfl, rfl⟩ := h
        simp only [decoder, frameStatus_tooLarge hstatus more]
    | whole len =>
        simp only [decoder, hstatus] at h
        rw [decoder_whole hstatus, ofFrame_append, h]

/-- The raw reader is a read with its decoder. -/
theorem readRawFrame_eq (stream : List (Chunk UInt8)) (readBuf : Bytes) :
    (toPulled (M := M) .frame (readRawFrame stream readBuf).1, (readRawFrame stream readBuf).2) =
      ChunkedStream.pullFrom (decoder .rawFrame) stream readBuf := by
  induction stream generalizing readBuf with
  | nil =>
      rw [readRawFrame, ChunkedStream.pullFrom]
      simp only [decoder, frameStatus]
      cases prefixLen? readBuf with
      | none => rfl
      | some len =>
          by_cases hsize : maxMessageSize < len
          · simp [hsize, toPulled]
          · by_cases hlength : 4 + len ≤ readBuf.length
            · simp [hsize, hlength, toPulled, ofFrame]
            · simp [hsize, hlength, toPulled]
  | cons c stream ih =>
      rw [readRawFrame, ChunkedStream.pullFrom]
      simp only [decoder, frameStatus]
      cases prefixLen? readBuf with
      | none => exact ih _
      | some len =>
          by_cases hsize : maxMessageSize < len
          · simp [hsize, toPulled]
          · by_cases hlength : 4 + len ≤ readBuf.length
            · simp [hsize, hlength, toPulled, ofFrame]
            · simpa [hsize, hlength] using ih _

/-- Decoding a frame by what the buffer holds of it. -/
theorem decodeFrame_status (buf : Bytes) :
    (decodeFrame buf : Except FrameError M × Bytes) =
      match frameStatus buf with
      | .short => (.error .incomplete, buf)
      | .tooLarge len => (.error (.tooLarge len), buf)
      | .whole len =>
          match ProstCodec.decode ((buf.take (4 + len)).drop 4) with
          | .ok msg => (.ok msg, buf.drop (4 + len))
          | .error e => (.error (.decode e), buf.drop (4 + len)) := by
  rw [decodeFrame_eq, frameStatus]
  cases prefixLen? buf with
  | none => rfl
  | some len =>
      by_cases hsize : maxMessageSize < len
      · simp [hsize]
      · by_cases hlength : 4 + len ≤ buf.length
        · simp [hsize, hlength, Nat.not_lt.mpr hlength, List.drop_take]
        · simp [hsize, hlength, Nat.lt_of_not_le hlength]

/-- So is the reader of envelopes. -/
theorem readV3Envelope_eq (stream : List (Chunk UInt8)) (readBuf : Bytes) :
    (toPulled .message (readV3Envelope (M := M) stream readBuf).1,
        (readV3Envelope (M := M) stream readBuf).2) =
      ChunkedStream.pullFrom (decoder .envelope) stream readBuf := by
  induction stream generalizing readBuf with
  | nil =>
      rw [readV3Envelope, ChunkedStream.pullFrom, decodeFrame_status, decoder]
      cases frameStatus readBuf with
      | short => rfl
      | tooLarge len => rfl
      | whole len =>
          simp only [ofFrame]
          cases (ProstCodec.decode ((readBuf.take (4 + len)).drop 4) : Except String M) <;> rfl
  | cons c stream ih =>
      rw [readV3Envelope, ChunkedStream.pullFrom, decodeFrame_status, decoder]
      cases frameStatus readBuf with
      | short => exact ih _
      | tooLarge len => rfl
      | whole len =>
          simp only [ofFrame]
          cases (ProstCodec.decode ((readBuf.take (4 + len)).drop 4) : Except String M) <;> rfl

/-- Reads are reads of a chunked stream. -/
theorem reads_eq_pulls (readers : List Reader) (conn : ClientConnection) :
    (conn.reads readers : List (Pulled IpcError (Received M))) =
      ChunkedStream.pulls decoder readers conn := by
  induction readers generalizing conn with
  | nil => rfl
  | cons reader readers ih =>
      have hread : (conn.read reader : Pulled IpcError (Received M) × ClientConnection) =
          conn.pull (decoder reader) := by
        cases reader with
        | rawFrame => exact readRawFrame_eq conn.chunks conn.buffer
        | envelope => exact readV3Envelope_eq conn.chunks conn.buffer
      simp only [reads, ChunkedStream.pulls, hread, ih]

/-- **A reader gets past a frame with its message.** -/
theorem decoder_frame {msg : M}
    (h : encodedLen msg ≤ maxMessageSize)
    (reader : Reader)
    (rest : Bytes) :
    decoder reader (u32ToLeBytes (encodedLen msg) ++ ProstMessage.encode msg ++ rest) =
      .item (delivered msg reader) rest := by
  have hlt : encodedLen msg < 2 ^ 32 := by
    unfold maxMessageSize at h
    omega
  have hlength : (u32ToLeBytes (encodedLen msg) ++ ProstMessage.encode msg).length =
      4 + encodedLen msg := by
    rw [List.length_append]
    rfl
  have hstatus : frameStatus (u32ToLeBytes (encodedLen msg) ++ ProstMessage.encode msg) =
      .whole (encodedLen msg) := by
    rw [frameStatus, prefixLen_u32ToLeBytes hlt]
    simp only [if_neg (Nat.not_lt.mpr h), hlength, Nat.le_refl, if_true]
  rw [decoder_whole hstatus, ← hlength, List.take_length, List.drop_length, List.nil_append]
  cases reader with
  | rawFrame => rfl
  | envelope =>
      have hbody : (u32ToLeBytes (encodedLen msg) ++ ProstMessage.encode msg).drop 4 =
          ProstMessage.encode msg := rfl
      simp only [ofFrame, hbody, ProstCodec.decode_encode, delivered]

/-- Reads of frames give the messages in order, and then what the rest gives. -/
theorem parse_frames {msgs : List M} {after : Pulled IpcError (Received M)}
    (hsize : ∀ msg ∈ msgs, encodedLen msg ≤ maxMessageSize)
    (rest : Bytes)
    (hrest : ∀ reader, ChunkedStream.outcome (decoder reader) rest = (after, rest))
    (readers : List Reader) :
    ChunkedStream.parse decoder readers ((msgs.map
        (fun msg => u32ToLeBytes (encodedLen msg) ++ ProstMessage.encode msg)).flatten ++ rest) =
      inOrder after readers msgs := by
  induction readers generalizing msgs with
  | nil =>
      cases msgs <;> rfl
  | cons reader readers ih =>
      cases msgs with
      | nil =>
          have hnil := @ih [] (by simp)
          simp only [List.map_nil, List.flatten_nil, List.nil_append] at hnil ⊢
          simp only [ChunkedStream.parse, hrest reader, inOrder, hnil]
      | cons msg msgs =>
          rw [List.map_cons, List.flatten_cons, List.append_assoc,
            ChunkedStream.parse_item (decoder_frame (hsize msg List.mem_cons_self) reader _),
            inOrder, ih (fun m hm => hsize m (List.mem_cons_of_mem _ hm))]

end ClientConnection

end Decoders

section RoundTrip

variable {M : Type}
variable [ProstCodec M]

open ClientConnection

/-- **The framing round trip.**  Messages within the limit can be framed, and
however the stream is cut, any sequence of reads gives them in order.  After
them comes the end of the stream, or the error about a length over the limit. -/
theorem frames_round_trip {msgs : List M}
    (hsize : ∀ msg ∈ msgs, encodedLen msg ≤ maxMessageSize) :
    ∃ bytes, encodeFrames msgs [] = .ok bytes ∧
      (∀ conn : ClientConnection, conn.remaining = bytes →
        ∀ readers, conn.reads readers = inOrder .closed readers msgs) ∧
      ∀ announced, maxMessageSize < announced → announced < 2 ^ 32 →
        ∀ (later : Bytes) (conn : ClientConnection),
          conn.remaining = bytes ++ u32ToLeBytes announced ++ later →
          ∀ readers, conn.reads readers =
            inOrder (.failed (.frame (.tooLarge announced))) readers msgs := by
  refine ⟨_, encodeFrames_of_le hsize [], ?_, ?_⟩
  · intro conn hconn readers
    rw [reads_eq_pulls, ChunkedStream.pulls_eq_parse decoder_resumable, hconn, List.nil_append,
      ← parse_frames hsize [] (fun reader => rfl), List.append_nil]
  · intro announced hlimit hlt later conn hconn readers
    have hstatus : frameStatus (u32ToLeBytes announced ++ later) = .tooLarge announced := by
      rw [frameStatus, prefixLen_u32ToLeBytes hlt]
      simp only [if_pos hlimit]
    rw [reads_eq_pulls, ChunkedStream.pulls_eq_parse decoder_resumable, hconn, List.nil_append,
      List.append_assoc]
    refine parse_frames hsize _ (fun reader => ?_) readers
    simp only [ChunkedStream.outcome, decoder, hstatus]

end RoundTrip

section SampleFrames

/-- A message that is encoded as it is. -/
structure PlainMessage where
  text : Bytes
deriving DecidableEq

instance : ProstCodec PlainMessage where
  encode := PlainMessage.text
  decode := fun bytes => .ok ⟨bytes⟩
  decode_encode := fun _ => rfl

/-- Frames of one byte and of none, cut inside both prefixes. -/
def cutFrames : ClientConnection :=
  ⟨[⟨[1, 0], by decide⟩, ⟨[0], by decide⟩, ⟨[0, 0x61, 0, 0], by decide⟩, ⟨[0, 0], by decide⟩], []⟩

/-- The theorem on those chunks. -/
theorem frames_round_trip_cutFrames :
    cutFrames.reads [.rawFrame, .envelope, .envelope] =
      [.item (.frame [1, 0, 0, 0, 0x61]), .item (.message (⟨[]⟩ : PlainMessage)), .closed] := by
  obtain ⟨bytes, hbytes, hreads, _⟩ :=
    @frames_round_trip PlainMessage _ [⟨[0x61]⟩, ⟨[]⟩] (by decide)
  have hcut : cutFrames.remaining = bytes := Except.ok.inj (Eq.trans (by decide) hbytes)
  exact hreads cutFrames hcut [.rawFrame, .envelope, .envelope]

end SampleFrames

end Server
end Rttx
