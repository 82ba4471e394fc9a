import Mathlib.Tactic.Ring
import Rttx.Kernel.RecordFiles
import Rttx.Kernel.RingBuffer
import Rttx.Server.Terminal

/-!
# The flight recorder

Events of the daemon are written to a file of 65536 slots of 64 bytes behind a header, in
turn, so that the last of them can be read after a crash.  For each event first its slot is
written and then, in the header, the number of events.  A new daemon keeps the file of the
one before it under another name.

**Results.**
* `readFlight_instances`: after any history the last 65536 events are read back in order,
  from the file and from that of the daemon before.
* `readFlight_interrupted`: a crash between the two writes loses nothing but the event, as
  long as the file was not full.  Then the oldest event is lost, and what there is of the
  new one is read first.
-/

namespace Rttx
namespace Server

open Kernel

section Events

inductive EventType
  | enter | exit | event | panic
deriving DecidableEq

inductive SpanKind
  | mutexAcquire | ptyRead | vteParse | clientDispatch | clientWrite | channelSend
  | serializationTick | ioFlush | clientSession | shutdown | watchdogTimeout
deriving DecidableEq

def EventType.toU16 : EventType → Nat
  | .enter => 0
  | .exit => 1
  | .event => 2
  | .panic => 3

/-- An unknown type is that of an event. -/
def EventType.ofU16 : Nat → EventType
  | 0 => .enter
  | 1 => .exit
  | 3 => .panic
  | _ => .event

def SpanKind.toU16 : SpanKind → Nat
  | .mutexAcquire => 0
  | .ptyRead => 1
  | .vteParse => 2
  | .clientDispatch => 3
  | .clientWrite => 4
  | .channelSend => 5
  | .serializationTick => 6
  | .ioFlush => 7
  | .clientSession => 8
  | .shutdown => 9
  | .watchdogTimeout => 10

/-- An unknown kind is a shutdown. -/
def SpanKind.ofU16 : Nat → SpanKind
  | 0 => .mutexAcquire
  | 1 => .ptyRead
  | 2 => .vteParse
  | 3 => .clientDispatch
  | 4 => .clientWrite
  | 5 => .channelSend
  | 6 => .serializationTick
  | 7 => .ioFlush
  | 8 => .clientSession
  | 10 => .watchdogTimeout
  | _ => .shutdown

structure FlightEvent where
  timestampNs : UInt64
  spanId : UInt32
  eventType : EventType
  spanKind : SpanKind
  context : Block 16
  value : UInt64
deriving DecidableEq

def slotSize : Nat := 64

def serializeEvent (event : FlightEvent) : Block slotSize :=
  ⟨littleEndian 8 event.timestampNs.toNat ++ (littleEndian 4 event.spanId.toNat ++
      (littleEndian 2 event.eventType.toU16 ++ (littleEndian 2 event.spanKind.toU16 ++
        (event.context.val ++ (littleEndian 8 event.value.toNat ++ List.replicate 24 0))))), by
    simp only [List.length_append, length_littleEndian, event.context.property,
      List.length_replicate, slotSize]⟩

def deserializeEvent (buf : Block slotSize) : FlightEvent where
  timestampNs := .ofNat (ofLittleEndian (buf.slice 0 8))
  spanId := .ofNat (ofLittleEndian (buf.slice 8 4))
  eventType := .ofU16 (ofLittleEndian (buf.slice 12 2))
  spanKind := .ofU16 (ofLittleEndian (buf.slice 14 2))
  context := ⟨buf.slice 16 16, by
    rw [Block.slice, List.length_take, List.length_drop, buf.property]
    rfl⟩
  value := .ofNat (ofLittleEndian (buf.slice 32 8))

theorem EventType.ofU16_toU16 (eventType : EventType) : ofU16 eventType.toU16 = eventType := by
  cases eventType <;> rfl

theorem SpanKind.ofU16_toU16 (spanKind : SpanKind) : ofU16 spanKind.toU16 = spanKind := by
  cases spanKind <;> rfl

/-- **An event is read back from its slot.** -/
@[simp] theorem deserializeEvent_serializeEvent (event : FlightEvent) :
    deserializeEvent (serializeEvent event) = event := by
  obtain ⟨time, span, eventType, kind, context, value⟩ := event
  have hblock : (serializeEvent ⟨time, span, eventType, kind, context, value⟩).val =
      littleEndian 8 time.toNat ++ (littleEndian 4 span.toNat ++
        (littleEndian 2 eventType.toU16 ++ (littleEndian 2 kind.toU16 ++
          (context.val ++ (littleEndian 8 value.toNat ++ List.replicate 24 0))))) := rfl
  generalize serializeEvent ⟨time, span, eventType, kind, context, value⟩ = buf at hblock ⊢
  have htime : buf.slice 0 8 = littleEndian 8 time.toNat :=
    @Block.slice_eq _ _ _ _ [] _ _ hblock rfl (length_littleEndian _ _)
  have hspan : buf.slice 8 4 = littleEndian 4 span.toNat :=
    Block.slice_eq hblock (length_littleEndian _ _) (length_littleEndian _ _)
  rw [← List.append_assoc] at hblock
  have htype : buf.slice 12 2 = littleEndian 2 eventType.toU16 :=
    Block.slice_eq hblock (by simp) (length_littleEndian _ _)
  rw [← List.append_assoc] at hblock
  have hkind : buf.slice 14 2 = littleEndian 2 kind.toU16 :=
    Block.slice_eq hblock (by simp) (length_littleEndian _ _)
  rw [← List.append_assoc] at hblock
  have hcontext : buf.slice 16 16 = context.val :=
    Block.slice_eq hblock (by simp) context.property
  rw [← List.append_assoc] at hblock
  have hvalue : buf.slice 32 8 = littleEndian 8 value.toNat :=
    Block.slice_eq hblock (by simp [context.property]) (length_littleEndian _ _)
  have htimes : time.toNat < 256 ^ 8 := time.toNat_lt
  have hspans : span.toNat < 256 ^ 4 := span.toNat_lt
  have hvalues : value.toNat < 256 ^ 8 := value.toNat_lt
  have htypes : eventType.toU16 < 256 ^ 2 := by cases eventType <;> decide
  have hkinds : kind.toU16 < 256 ^ 2 := by cases kind <;> decide
  simp only [deserializeEvent, htime, hspan, htype, hkind, hcontext, hvalue,
    ofLittleEndian_littleEndian htypes, ofLittleEndian_littleEndian hkinds,
    ofLittleEndian_littleEndian htimes, ofLittleEndian_littleEndian hspans,
    ofLittleEndian_littleEndian hvalues, UInt64.ofNat_toNat, UInt32.ofNat_toNat,
    EventType.ofU16_toU16, SpanKind.ofU16_toU16]

end Events

section Files

/-- `RTTXFLT`, and a zero. -/
def magic : Bytes := [0x52, 0x54, 0x54, 0x58, 0x46, 0x4c, 0x54, 0]

def flightVersion : Nat := 1

def headerSize : Nat := 64

def slotCount : Nat := 65536

def fileSize : Nat := headerSize + slotCount * slotSize

def writePosOffset : Nat := 12

def slotOffset (slotIndex : Nat) : Nat :=
  headerSize + slotIndex * slotSize

/-- The file that is written, and the number of events. -/
structure RingWriter where
  file : Bytes
  writePos : Nat

/-- The file of the daemon, and that of the one before it. -/
structure FlightDir where
  current : Option Bytes
  prev : Option Bytes

namespace RingWriter

/-- The header of a new file counts no events. -/
def newHeader : Bytes :=
  writeAt (writeAt (List.replicate headerSize 0) 0 magic) 8 (littleEndian 4 flightVersion)

def create : RingWriter :=
  ⟨writeAt (List.replicate fileSize 0) 0 newHeader, 0⟩

/-- Start with a new file; `renamed` says whether a stale one could be renamed. -/
def start (dir : FlightDir) (renamed : Bool) : RingWriter × FlightDir :=
  let prev := if renamed then dir.current.or dir.prev else dir.prev
  (create, { current := some create.file, prev := prev })

/-- The first write of a record: the event, in the slot of its position. -/
def writeSlot (file : Bytes) (pos : Nat) (event : FlightEvent) : Bytes :=
  writeAt file (slotOffset (pos % slotCount)) (serializeEvent event).val

/-- The second write: the number of events. -/
def writeHeader (file : Bytes) (newPos : Nat) : Bytes :=
  writeAt file writePosOffset (littleEndian 8 newPos)

def record (w : RingWriter) (event : FlightEvent) : RingWriter :=
  let pos := w.writePos
  ⟨writeHeader (writeSlot w.file pos event) (pos + 1), (pos + 1) % 2 ^ 64⟩

def recordAll (w : RingWriter) (events : List FlightEvent) : RingWriter :=
  events.foldl record w

end RingWriter

/-- The directory that a daemon leaves. -/
def FlightDir.after (dir : FlightDir) (renamed : Bool) (events : List FlightEvent) : FlightDir :=
  let (w, dir) := RingWriter.start dir renamed
  { dir with current := some (w.recordAll events).file }

/-- A file that was found valid. -/
structure RingReader where
  file : Bytes
deriving DecidableEq

namespace RingReader

def ofFile (file : Bytes) : Except String RingReader :=
  if file.length ≠ fileSize then
    .error s!"flight file size mismatch: expected {fileSize}, got {file.length}"
  else
    match readExactAt file 0 headerSize with
    | none => .error "failed to fill whole buffer"
    | some header =>
        let version := ofLittleEndian (header.slice 8 4)
        if header.slice 0 8 ≠ magic then
          .error "invalid magic bytes"
        else if version ≠ flightVersion then
          .error s!"unsupported version: {version}"
        else
          .ok ⟨file⟩

/-- The number of events in the header; zero if it cannot be read. -/
def writePos (r : RingReader) : Nat :=
  match readExactAt r.file writePosOffset 8 with
  | none => 0
  | some buf => ofLittleEndian buf.val

/-- The slot at an index. -/
def slotAt (file : Bytes) (slotIndex : Nat) : Option (Block slotSize) :=
  readExactAt file (slotOffset slotIndex) slotSize

/-- All events, from the oldest on. -/
def readAll (r : RingReader) : List FlightEvent :=
  if r.writePos = 0 then
    []
  else if r.writePos ≤ slotCount then
    (List.range (min r.writePos slotCount)).filterMap fun i =>
      (slotAt r.file i).map deserializeEvent
  else
    let start := r.writePos % slotCount
    (List.range slotCount).filterMap fun i =>
      (slotAt r.file ((start + i) % slotCount)).map deserializeEvent

end RingReader

def readFlight (file : Bytes) : Except String (List FlightEvent) :=
  (RingReader.ofFile file).map RingReader.readAll

end Files

section Headers

/-- A file whose header counts so many events. -/
structure Counts (file : Bytes) (pos : Nat) : Prop where
  length : file.length = fileSize
  head : file.take writePosOffset = magic ++ littleEndian 4 flightVersion
  count : readExactAt file writePosOffset 8 = some ⟨littleEndian 8 pos, length_littleEndian 8 pos⟩

variable {file : Bytes} {pos : Nat}

theorem Counts.writePos
    (h : Counts file pos)
    (hpos : pos < 2 ^ 64) :
    (RingReader.mk file).writePos = pos := by
  rw [RingReader.writePos, h.count]
  exact ofLittleEndian_littleEndian hpos

/-- A file with a header is valid. -/
theorem Counts.ofFile
    (h : Counts file pos) :
    RingReader.ofFile file = .ok ⟨file⟩ := by
  have hread : ∃ header : Block headerSize, readExactAt file 0 headerSize = some header ∧
      header.val.take writePosOffset = magic ++ littleEndian 4 flightVersion := by
    have hfits : 0 + headerSize ≤ file.length := by
      rw [h.length]
      decide
    refine ⟨_, dif_pos hfits, ?_⟩
    dsimp only
    rw [List.drop_zero, List.take_take, Nat.min_eq_left (by decide)]
    exact h.head
  obtain ⟨header, hheader, hhead⟩ := hread
  have hmagic : header.slice 0 8 = magic := by
    have htake : header.slice 0 8 = (header.val.take writePosOffset).take 8 := by
      rw [List.take_take, Nat.min_eq_left (by decide)]
      rfl
    rw [htake, hhead]
    rfl
  have hversion : header.slice 8 4 = littleEndian 4 flightVersion := by
    have htake : header.slice 8 4 = (header.val.take writePosOffset).drop 8 := by
      rw [List.drop_take]
      rfl
    rw [htake, hhead]
    rfl
  rw [RingReader.ofFile, if_neg (fun hne => hne h.length), hheader]
  dsimp only
  rw [hmagic, hversion, if_neg (fun hne => hne rfl),
    if_neg (fun hne => hne (ofLittleEndian_littleEndian (by decide)))]

/-- What is read from a file with a header, slot by slot. -/
theorem Counts.readFlight
    (h : Counts file pos)
    (hpos : pos < 2 ^ 64) :
    readFlight file =
      .ok ((readSlots (RingReader.slotAt file) slotCount pos).map deserializeEvent) := by
  rw [Server.readFlight, h.ofFile, Except.map, RingReader.readAll, h.writePos hpos, readSlots,
    List.map_filterMap, ringOrder]
  by_cases hzero : pos = 0
  · rw [if_pos hzero, hzero]
    rfl
  · rw [if_neg hzero]
    by_cases hle : pos ≤ slotCount
    · rw [if_pos hle, if_pos hle, Nat.min_eq_left hle]
    · rw [if_neg hle, if_neg hle, List.filterMap_map]
      rfl

theorem length_slotOffset {slotIndex : Nat}
    (h : slotIndex < slotCount) :
    slotOffset slotIndex + slotSize ≤ fileSize := by
  unfold slotOffset fileSize slotSize
  omega

theorem pos_mod_lt (pos : Nat) : pos % slotCount < slotCount :=
  Nat.mod_lt _ (by decide)

/-- A part of a slot fits into the file. -/
theorem Counts.slot_fits {bytes : Bytes}
    (h : Counts file pos)
    (hbytes : bytes.length ≤ slotSize)
    (p : Nat) :
    slotOffset (p % slotCount) + bytes.length ≤ file.length := by
  rw [h.length]
  exact Nat.le_trans (Nat.add_le_add_left hbytes _) (length_slotOffset (pos_mod_lt p))

/-- **Writing into a slot leaves the header.** -/
theorem Counts.writeAt_slot {bytes : Bytes}
    (h : Counts file pos)
    (hbytes : bytes.length ≤ slotSize)
    (p : Nat) :
    Counts (writeAt file (slotOffset (p % slotCount)) bytes) pos := by
  have hfits := h.slot_fits hbytes p
  have hheader : headerSize ≤ slotOffset (p % slotCount) := Nat.le_add_right _ _
  refine ⟨(length_writeAt hfits).trans h.length, ?_, ?_⟩
  · rw [take_writeAt hfits (Nat.le_trans (by decide) hheader)]
    exact h.head
  · rw [readExactAt_writeAt_of_disjoint hfits (Or.inl (Nat.le_trans (by decide) hheader))]
    exact h.count

/-- **Writing into a slot leaves the other slots.** -/
theorem Counts.slotAt_writeAt_of_ne {bytes : Bytes} {p slotIndex : Nat}
    (h : Counts file pos)
    (hbytes : bytes.length ≤ slotSize)
    (hne : slotIndex ≠ p % slotCount) :
    RingReader.slotAt (writeAt file (slotOffset (p % slotCount)) bytes) slotIndex =
      RingReader.slotAt file slotIndex := by
  refine readExactAt_writeAt_of_disjoint (h.slot_fits hbytes p) ?_
  unfold slotOffset
  unfold slotSize at hbytes ⊢
  omega

/-- An event is in its slot once it is written. -/
theorem Counts.slotAt_writeSlot
    (h : Counts file pos)
    (p : Nat)
    (event : FlightEvent) :
    RingReader.slotAt (RingWriter.writeSlot file p event) (p % slotCount) =
      some (serializeEvent event) := by
  refine readExactAt_writeAt ?_
  rw [h.length]
  exact length_slotOffset (pos_mod_lt p)

theorem header_fits (h : Counts file pos) (newPos : Nat) :
    writePosOffset + (littleEndian 8 newPos).length ≤ file.length := by
  rw [h.length, length_littleEndian]
  decide

/-- **Counting in the header leaves the slots.** -/
theorem Counts.slotAt_writeHeader
    (h : Counts file pos)
    (newPos slotIndex : Nat) :
    RingReader.slotAt (RingWriter.writeHeader file newPos) slotIndex =
      RingReader.slotAt file slotIndex := by
  refine readExactAt_writeAt_of_disjoint (header_fits h newPos) (Or.inr ?_)
  rw [length_littleEndian]
  exact Nat.le_trans (by decide) (Nat.le_add_right headerSize _)

theorem Counts.writeHeader
    (h : Counts file pos)
    (newPos : Nat) :
    Counts (RingWriter.writeHeader file newPos) newPos := by
  have hfits := header_fits h newPos
  refine ⟨(length_writeAt hfits).trans h.length, ?_, ?_⟩
  · rw [RingWriter.writeHeader, take_writeAt hfits (Nat.le_refl _)]
    exact h.head
  · refine @readExactAt_writeAt _ _ _ ⟨littleEndian 8 newPos, length_littleEndian 8 newPos⟩ ?_
    rw [h.length]
    decide

theorem counts_create : Counts RingWriter.create.file 0 := by
  have hheader : RingWriter.newHeader.length = headerSize := rfl
  have hfits : 0 + RingWriter.newHeader.length ≤ (List.replicate fileSize (0 : UInt8)).length := by
    rw [hheader, List.length_replicate]
    decide
  have hfile : RingWriter.create.file =
      RingWriter.newHeader ++ (List.replicate fileSize 0).drop headerSize := by
    rw [RingWriter.create, writeAt, List.take_zero, List.nil_append, hheader, Nat.zero_add]
  have hlength : RingWriter.create.file.length = fileSize :=
    (length_writeAt hfits).trans List.length_replicate
  refine ⟨hlength, ?_, ?_⟩
  · rw [hfile, List.take_append_of_le_length (by rw [hheader]; decide)]
    rfl
  · rw [readExactAt_eq_some_iff, hlength]
    refine ⟨by decide, ?_⟩
    rw [hfile, List.drop_append_of_le_length (by rw [hheader]; decide),
      List.take_append_of_le_length (by rw [List.length_drop, hheader]; decide)]
    rfl

end Headers

section Histories

/-- The file of a daemon that has recorded a log. -/
structure Recorded (w : RingWriter) (log : List FlightEvent) : Prop where
  writePos : w.writePos = log.length
  counts : Counts w.file log.length
  slots : HoldsLast slotCount (RingReader.slotAt w.file) (log.map serializeEvent)

theorem recorded_create : Recorded RingWriter.create [] :=
  ⟨rfl, counts_create, fun _ hp _ => absurd hp (Nat.not_lt_zero _)⟩

/-- **One record adds its event to the log.** -/
theorem Recorded.record {w : RingWriter} {log : List FlightEvent} {event : FlightEvent}
    (h : Recorded w log)
    (hcount : log.length + 1 < 2 ^ 64) :
    Recorded (w.record event) (log ++ [event]) := by
  have hbytes : (serializeEvent event).val.length ≤ slotSize :=
    Nat.le_of_eq (serializeEvent event).property
  have hslot : Counts (RingWriter.writeSlot w.file w.writePos event) log.length :=
    h.counts.writeAt_slot hbytes w.writePos
  have hlength : (log ++ [event]).length = log.length + 1 := by simp
  refine ⟨?_, ?_, ?_⟩
  · rw [hlength, RingWriter.record, h.writePos]
    exact Nat.mod_eq_of_lt hcount
  · rw [hlength, RingWriter.record, h.writePos]
    rw [h.writePos] at hslot
    exact hslot.writeHeader _
  · rw [List.map_append]
    refine h.slots.concat ?_ fun i hi => ?_
    · rw [List.length_map, RingWriter.record]
      dsimp only
      rw [hslot.slotAt_writeHeader, h.writePos]
      exact h.counts.slotAt_writeSlot _ _
    · rw [List.length_map, ← h.writePos] at hi
      rw [RingWriter.record]
      dsimp only
      rw [hslot.slotAt_writeHeader]
      exact h.counts.slotAt_writeAt_of_ne hbytes hi

theorem Recorded.recordAll {w : RingWriter} {log events : List FlightEvent}
    (h : Recorded w log)
    (hcount : (log ++ events).length < 2 ^ 64) :
    Recorded (w.recordAll events) (log ++ events) := by
  induction events generalizing w log with
  | nil =>
      rw [List.append_nil]
      exact h
  | cons event events ih =>
      rw [List.append_cons] at hcount ⊢
      have hone : log.length + 1 < 2 ^ 64 := by
        simp only [List.length_append, List.length_singleton] at hcount
        omega
      exact ih (h.record hone) hcount

/-- The events that there is room for. -/
def lastEvents (log : List FlightEvent) : List FlightEvent :=
  log.drop (log.length - slotCount)

theorem map_drop_serializeEvent (log : List FlightEvent) (n : Nat) :
    ((log.map serializeEvent).drop n).map deserializeEvent = log.drop n := by
  rw [← List.map_drop, List.map_map]
  exact (List.map_congr_left fun event _ => deserializeEvent_serializeEvent event).trans
    (List.map_id _)

/-- **What was recorded last is read.** -/
theorem Recorded.readFlight {w : RingWriter} {log : List FlightEvent}
    (h : Recorded w log)
    (hcount : log.length < 2 ^ 64) :
    readFlight w.file = .ok (lastEvents log) := by
  have hread := readSlots_of_holdsLast h.slots
  rw [List.length_map] at hread
  rw [h.counts.readFlight hcount, hread, map_drop_serializeEvent]
  rfl

/-- **Two daemons, one after the other.**  Whatever they record, of each the last 65536
events are read back in order: from the file, and from the one that was kept. -/
theorem readFlight_instances {first second : List FlightEvent}
    (hfirst : first.length < 2 ^ 64)
    (hsecond : second.length < 2 ^ 64)
    (dir : FlightDir)
    (renamed : Bool) :
    ((dir.after renamed first).after true second).current.map readFlight =
        some (.ok (lastEvents second)) ∧
      ((dir.after renamed first).after true second).prev.map readFlight =
        some (.ok (lastEvents first)) := by
  have hread : ∀ log : List FlightEvent, log.length < 2 ^ 64 →
      readFlight (RingWriter.create.recordAll log).file = .ok (lastEvents log) :=
    fun log hlog => (recorded_create.recordAll hlog).readFlight hlog
  have hcurrent : ∀ (dir : FlightDir) renamed events, (dir.after renamed events).current =
      some (RingWriter.create.recordAll events).file := fun _ _ _ => rfl
  have hprev : ((dir.after renamed first).after true second).prev =
      (dir.after renamed first).current.or (dir.after renamed first).prev := rfl
  refine ⟨?_, ?_⟩
  · rw [hcurrent, Option.map_some, hread second hsecond]
  · rw [hprev, hcurrent, Option.some_or, Option.map_some, hread first hfirst]

end Histories

section Interruptions

/-- The file when a daemon is killed before it has counted the event: `written` bytes of
the slot have reached it. -/
def RingWriter.interrupted (w : RingWriter) (event : FlightEvent) (written : Nat) : Bytes :=
  writeAt w.file (slotOffset (w.writePos % slotCount)) ((serializeEvent event).val.take written)

/-- An event that has overwritten the beginning of another one. -/
def torn (event oldest : FlightEvent) (written : Nat) : FlightEvent :=
  deserializeEvent ((serializeEvent event).tear (serializeEvent oldest) written)

@[simp] theorem torn_slotSize (event oldest : FlightEvent) :
    torn event oldest slotSize = event := by
  rw [torn, Block.tear_length, deserializeEvent_serializeEvent]

@[simp] theorem torn_zero (event oldest : FlightEvent) : torn event oldest 0 = oldest := by
  rw [torn, Block.tear_zero, deserializeEvent_serializeEvent]

/-- What is read when a daemon is killed while it records. -/
theorem Recorded.readFlight_cut {w : RingWriter} {log : List FlightEvent} {written : Nat}
    (h : Recorded w log)
    (hcount : log.length < 2 ^ 64)
    (event : FlightEvent) :
    Server.readFlight (w.interrupted event written) =
      .ok (if log.length < slotCount then log
        else (RingReader.slotAt (w.interrupted event written)
            (log.length % slotCount)).toList.map deserializeEvent ++
          log.drop (log.length - slotCount + 1)) := by
  have hbytes : ((serializeEvent event).val.take written).length ≤ slotSize := by
    rw [List.length_take, (serializeEvent event).property]
    exact Nat.min_le_right _ _
  have hcounts : Counts (w.interrupted event written) log.length :=
    h.counts.writeAt_slot hbytes w.writePos
  have hread := @readSlots_overwritten _ slotCount _
    (RingReader.slotAt (w.interrupted event written))
    (log.map serializeEvent) _ (by decide) h.slots rfl fun i hi => by
      rw [List.length_map, ← h.writePos] at hi
      exact h.counts.slotAt_writeAt_of_ne hbytes hi
  rw [List.length_map] at hread
  rw [hcounts.readFlight hcount, hread]
  split
  · have hall := map_drop_serializeEvent log 0
    rw [List.drop_zero, List.drop_zero] at hall
    rw [hall]
  · rw [List.map_append, map_drop_serializeEvent]

/-- **A crash between the two writes of a record.**  As long as the file was not full, the
events before are read, and no other.  Of a full file the oldest event is lost, and the
torn one is read in its place, before all the others. -/
theorem readFlight_interrupted {log : List FlightEvent}
    (hcount : log.length < 2 ^ 64)
    (event : FlightEvent)
    (written : Nat) :
    (log.length < slotCount →
      readFlight ((RingWriter.create.recordAll log).interrupted event written) = .ok log) ∧
    ∀ oldest rest, slotCount ≤ log.length → lastEvents log = oldest :: rest →
      readFlight ((RingWriter.create.recordAll log).interrupted event written) =
        .ok (torn event oldest written :: rest) := by
  have hrecorded : Recorded (RingWriter.create.recordAll log) log :=
    recorded_create.recordAll hcount
  have hread := @Recorded.readFlight_cut _ _ written hrecorded hcount event
  refine ⟨fun hroom => ?_, fun oldest rest hfull hlast => ?_⟩
  · rw [hread, if_pos hroom]
  · rw [lastEvents] at hlast
    have holdest : (log.map serializeEvent)[log.length - slotCount]? =
        some (serializeEvent oldest) := by
      rw [List.getElem?_map, ← Nat.add_zero (log.length - slotCount), ← List.getElem?_drop, hlast]
      rfl
    have hslot := hrecorded.slots (log.length - slotCount)
      (by rw [List.length_map]; unfold slotCount at hfull ⊢; omega)
      (by rw [List.length_map]; omega)
    rw [holdest, ← Nat.mod_eq_sub_mod hfull, ← hrecorded.writePos] at hslot
    have htorn : RingReader.slotAt ((RingWriter.create.recordAll log).interrupted event written)
        ((RingWriter.create.recordAll log).writePos % slotCount) =
          some ((serializeEvent event).tear (serializeEvent oldest) written) :=
      readExactAt_writeAt_take hslot written
    have hrest : log.drop (log.length - slotCount + 1) = rest := by
      rw [← List.drop_drop, hlast]
      rfl
    rw [hread, if_neg (Nat.not_lt.mpr hfull), hrest, ← hrecorded.writePos, htorn]
    rfl

/-- The end of a read from a pane that took 6 ms. -/
def sampleFlightEvent : FlightEvent :=
  ⟨1000, 1, .exit, .ptyRead, ⟨List.replicate 16 0, rfl⟩, 6000000⟩

/-- The theorem for two daemons of which the second has recorded nothing. -/
theorem readFlight_instances_sample :
    (((FlightDir.after ⟨none, none⟩ true [sampleFlightEvent]).after true []).current.map
        readFlight = some (.ok [])) ∧
      ((FlightDir.after ⟨none, none⟩ true [sampleFlightEvent]).after true []).prev.map readFlight =
        some (.ok [sampleFlightEvent]) :=
  @readFlight_instances [sampleFlightEvent] [] (by decide) (by decide) ⟨none, none⟩ true

/-- The theorem for a file with room, and for a full one. -/
theorem readFlight_interrupted_sample :
    readFlight ((RingWriter.create.recordAll [sampleFlightEvent]).interrupted sampleFlightEvent 8) =
        .ok [sampleFlightEvent] ∧
      readFlight ((RingWriter.create.recordAll
        (List.replicate slotCount sampleFlightEvent)).interrupted sampleFlightEvent 8) =
          .ok (torn sampleFlightEvent sampleFlightEvent 8 ::
            List.replicate 65535 sampleFlightEvent) := by
  have hlength : (List.replicate slotCount sampleFlightEvent).length = slotCount :=
    List.length_replicate
  refine ⟨(readFlight_interrupted (by decide) _ 8).1 (by decide), ?_⟩
  refine (readFlight_interrupted (by rw [hlength]; decide) _ 8).2 _ _ (Nat.le_of_eq hlength.symm) ?_
  rw [lastEvents, hlength, Nat.sub_self, List.drop_zero, slotCount]
  exact List.replicate_succ

end Interruptions

end Server
end Rttx
