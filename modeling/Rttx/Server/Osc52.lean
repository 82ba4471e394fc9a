import Rttx.Server.Terminal

/-!
# Clipboard writes in the output stream

The OSC 52 filter scans a pane's output for clipboard writes, removes every
such sequence from the stream and keeps the decoded writes for the pane to
drain.  It is stateful, because a batch can end anywhere inside a sequence.

**Results.**
* `Osc52Filter.filter_of_no_esc`: a batch without an escape byte passes a resting filter unchanged.
* `Osc52Filter.filter_append`: filtering two batches in turn is filtering them at once.
-/

namespace Rttx
namespace Server

section Base64

/-- Append the `sextets`-worth of bytes that a base64 group encodes. -/
def pushBase64Group (quad : List UInt8) (sextets : Nat) (out : Bytes) : Bytes :=
  let sextet := fun i => (quad.getD i 0).toNat
  let bits := sextet 0 <<< 18 ||| sextet 1 <<< 12 ||| sextet 2 <<< 6 ||| sextet 3
  let out := out ++ [UInt8.ofNat (bits >>> 16)]
  let out := if 3 ≤ sextets then out ++ [UInt8.ofNat (bits >>> 8 &&& 0xff)] else out
  if 4 ≤ sextets then out ++ [UInt8.ofNat (bits &&& 0xff)] else out

/-- The value of a base64 byte; padding counts as zero. -/
def base64Sextet (byte : UInt8) : Option UInt8 :=
  if 0x41 ≤ byte && byte ≤ 0x5a then some (byte - 0x41)
  else if 0x61 ≤ byte && byte ≤ 0x7a then some (byte - 0x61 + 26)
  else if 0x30 ≤ byte && byte ≤ 0x39 then some (byte - 0x30 + 52)
  else if byte = 0x2b then some 62
  else if byte = 0x2f then some 63
  else if byte = 0x3d then some 0
  else none

/-- The loop of `base64Decode`: the sextets of the open group, the padding
seen, and the bytes decoded. -/
def base64DecodeFrom : List UInt8 → Nat → Bytes → Bytes → Option Bytes
  | quad, _, out, [] =>
      if quad.length = 0 then
        some out
      else if quad.length = 1 then
        none
      else
        some (pushBase64Group quad quad.length out)
  | quad, padding, out, byte :: rest =>
      match base64Sextet byte with
      | none => none
      | some sextet =>
          let padding := if byte = 0x3d then padding + 1 else padding
          if padding > 2 || (padding > 0 && byte != 0x3d) then
            none
          else
            let quad := quad ++ [sextet]
            if quad.length = 4 then
              base64DecodeFrom [] padding (pushBase64Group quad (4 - padding) out) rest
            else
              base64DecodeFrom quad padding out rest

/-- Decode standard base64; a missing final padding group is accepted. -/
def base64Decode (input : Bytes) : Option Bytes :=
  base64DecodeFrom [] 0 [] input

example : base64Decode (bytesOf "aGVsbG8=") = some (bytesOf "hello") := by decide

end Base64

section Filter

def maxClipboardBytes : Nat := 1024 * 1024

/-- Longest base64 payload that can still decode within the clipboard bound. -/
def maxClipboardBase64Bytes : Nat := (maxClipboardBytes + 2) / 3 * 4

def maxOsc52ParamsBytes : Nat := maxClipboardBase64Bytes + 32

/-- The bytes that open an OSC 52 clipboard write. -/
def osc52Introducer : Bytes := bytesOf "\x1b]52;"

/-- A clipboard write an application requested with OSC 52. -/
structure ClipboardWrite where
  target : String
  data : Bytes
deriving DecidableEq

/-- Where the scanner is in the byte stream. -/
inductive Osc52State
  | scan
  | introducer (matched : Nat)
  | params
  | paramsEscape
deriving DecidableEq, Repr

/-- The scanner: its position, the parameters collected, whether they are over
the bound, and the writes completed. -/
structure Osc52Filter where
  state : Osc52State
  params : Bytes
  oversized : Bool
  writes : List ClipboardWrite
deriving DecidableEq

/-- A byte of the `Pc ; Pd` parameters of an OSC 52 write. -/
def isOsc52ParamByte (byte : UInt8) : Bool :=
  (0x30 ≤ byte && byte ≤ 0x39) || (0x41 ≤ byte && byte ≤ 0x5a) ||
    (0x61 ≤ byte && byte ≤ 0x7a) || [0x2b, 0x2f, 0x3d, 0x3b, 0x3f].contains byte

/-- The text of parameter bytes, which are all ASCII. -/
def asciiText (data : Bytes) : String :=
  String.ofList (data.map (fun b => Char.ofNat b.toNat))

namespace Osc52Filter

def default : Osc52Filter :=
  ⟨.scan, [], false, []⟩

def takeWrites (f : Osc52Filter) : List ClipboardWrite × Osc52Filter :=
  (f.writes, { f with writes := [] })

/-- Drop what was collected and go back to scanning. -/
def abandon (f : Osc52Filter) : Osc52Filter :=
  { f with params := [], oversized := false, state := .scan }

/-- The write that the collected parameters describe, if it is to be honoured:
it has a selection, is no read request, decodes within the bound, and is not
empty. -/
def completedWrite (params : Bytes) (oversized : Bool) : Option ClipboardWrite :=
  if !params.contains 0x3b then
    none
  else
    let target := params.takeWhile (fun b => b != 0x3b)
    let payload := (params.dropWhile (fun b => b != 0x3b)).tail
    if payload = bytesOf "?" then
      none
    else if oversized then
      none
    else
      match base64Decode payload with
      | none => none
      | some data =>
          if data.length > maxClipboardBytes then
            none
          else if data.isEmpty then
            none
          else
            some ⟨asciiText target, data⟩

def complete (f : Osc52Filter) : Osc52Filter :=
  { state := .scan, params := [], oversized := false,
    writes := f.writes ++ (completedWrite f.params f.oversized).toList }

/-- One byte outside a candidate sequence. -/
def scanByte (f : Osc52Filter) (byte : UInt8) : Osc52Filter × Bytes :=
  if byte = esc then
    ({ f with state := .introducer 1 }, [])
  else
    (f, [byte])

/-- One byte of output: the scanner after it and the bytes released. -/
def advance (f : Osc52Filter) (byte : UInt8) : Osc52Filter × Bytes :=
  match f.state with
  | .scan => f.scanByte byte
  | .introducer matched =>
      if some byte = osc52Introducer[matched]? then
        if matched + 1 = osc52Introducer.length then
          ({ f with state := .params }, [])
        else
          ({ f with state := .introducer (matched + 1) }, [])
      else
        let (f', out) := scanByte { f with state := .scan } byte
        (f', osc52Introducer.take matched ++ out)
  | .params =>
      if byte = 0x07 then
        (f.complete, [])
      else if byte = esc then
        ({ f with state := .paramsEscape }, [])
      else if isOsc52ParamByte byte then
        if f.params.length < maxOsc52ParamsBytes then
          ({ f with params := f.params ++ [byte] }, [])
        else
          ({ f with oversized := true }, [])
      else
        f.abandon.scanByte byte
  | .paramsEscape =>
      if byte = 0x5c then
        (f.complete, [])
      else
        f.abandon.scanByte byte

/-- Run the scanner over a batch. -/
def advanceAll : Osc52Filter → Bytes → Osc52Filter × Bytes
  | f, [] => (f, [])
  | f, byte :: rest =>
      let (f', out) := f.advance byte
      let (f'', outRest) := f'.advanceAll rest
      (f'', out ++ outRest)

/-- Remove every OSC 52 sequence from `data`, collecting the clipboard writes. -/
def filter (f : Osc52Filter) (data : Bytes) : Osc52Filter × Bytes :=
  if f.state = .scan && !data.contains esc then
    (f, data)
  else
    f.advanceAll data

theorem advanceAll_of_no_esc {f : Osc52Filter} {data : Bytes}
    (hstate : f.state = .scan)
    (h : esc ∉ data) :
    f.advanceAll data = (f, data) := by
  induction data with
  | nil => rfl
  | cons b rest ih =>
      rw [List.mem_cons, not_or] at h
      have hb : ¬ b = esc := fun heq => h.1 heq.symm
      simp [advanceAll, advance, hstate, scanByte, hb, ih h.2]

/-- The fast path computes what the scan would. -/
theorem filter_eq_advanceAll (f : Osc52Filter) (data : Bytes) :
    f.filter data = f.advanceAll data := by
  by_cases hfast : f.state = .scan ∧ esc ∉ data
  · rw [advanceAll_of_no_esc hfast.1 hfast.2]
    simp [filter, hfast.1, hfast.2]
  · have hguard : (decide (f.state = .scan) && !data.contains esc) = false := by
      simpa using hfast
    simp only [filter, hguard, Bool.false_eq_true, if_false]

/-- A batch without an escape byte passes a resting filter unchanged. -/
theorem filter_of_no_esc {f : Osc52Filter} {data : Bytes}
    (hstate : f.state = .scan)
    (h : esc ∉ data) :
    f.filter data = (f, data) := by
  rw [filter_eq_advanceAll, advanceAll_of_no_esc hstate h]

/-- **Batches compose**: filtering two batches in turn is filtering them at once. -/
theorem filter_append (f : Osc52Filter) (first second : Bytes) :
    f.filter (first ++ second) =
      (((f.filter first).1.filter second).1,
        (f.filter first).2 ++ ((f.filter first).1.filter second).2) := by
  simp only [filter_eq_advanceAll]
  induction first generalizing f with
  | nil => simp [advanceAll]
  | cons byte rest ih => simp [advanceAll, ih]

example :
    (default.filter (bytesOf "a\x1b]52;c;aGk=\x07b")).2 = bytesOf "ab" ∧
      (default.filter (bytesOf "a\x1b]52;c;aGk=\x07b")).1.writes = [⟨"c", bytesOf "hi"⟩] := by
  decide

end Osc52Filter

end Filter

end Server
end Rttx
