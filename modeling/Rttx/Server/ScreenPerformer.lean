import Rttx.Server.Terminal

/-!
# The screen performer

The escape sequence parser drives the performer, which keeps the cursor, the
title, the working directory, the terminal modes and the replies that queries
are owed.

**Results.**
* `percentDecodePath_of_plain`: a path without escapes decodes to itself.
* `performAll_append`: calls reported in two parts act as one.
-/

namespace Rttx
namespace Server

section WorkingDirectory

def hexValue (byte : UInt8) : Option UInt8 :=
  if 0x30 ≤ byte && byte ≤ 0x39 then some (byte - 0x30)
  else if 0x61 ≤ byte && byte ≤ 0x66 then some (byte - 0x61 + 10)
  else if 0x41 ≤ byte && byte ≤ 0x46 then some (byte - 0x41 + 10)
  else none

/-- Undo percent encoding; `none` on an incomplete or malformed escape. -/
def percentDecode : Bytes → Option Bytes
  | [] => some []
  | 0x25 :: hi :: lo :: rest =>
      match hexValue hi, hexValue lo with
      | some h, some l => (percentDecode rest).map (fun decoded => (h <<< 4 ||| l) :: decoded)
      | _, _ => none
  | b :: rest =>
      if b = 0x25 then
        none
      else
        (percentDecode rest).map (fun decoded => b :: decoded)

/-- The text of bytes that are valid UTF-8. -/
def utf8Text (data : Bytes) : Option String :=
  String.fromUTF8? ⟨data.toArray⟩

/-- The bytes of a text are its text. -/
theorem utf8Text_bytesOf (s : String) : utf8Text (bytesOf s) = some s := by
  have hbytes : (⟨(bytesOf s).toArray⟩ : ByteArray) = s.toByteArray := rfl
  rw [utf8Text, hbytes, String.fromUTF8?, dif_pos s.isValidUTF8]
  rfl

def percentDecodePath (encoded : Bytes) : Option String :=
  (percentDecode encoded).bind utf8Text

/-- The path of a `file://host/path` URI, as OSC 7 reports it. -/
def parseOsc7CurrentDirectory (uri : Bytes) : Option String :=
  if (bytesOf "file://").isPrefixOf uri then
    let pathWithHost := uri.drop (bytesOf "file://").length
    if pathWithHost.contains 0x2f then
      percentDecodePath (pathWithHost.dropWhile (fun b => b != 0x2f))
    else
      none
  else
    none

/-- A path without escapes decodes to itself. -/
theorem percentDecode_of_plain {path : Bytes}
    (h : (0x25 : UInt8) ∉ path) :
    percentDecode path = some path := by
  induction path with
  | nil => rfl
  | cons b rest ih =>
      rw [List.mem_cons, not_or] at h
      have hb : ¬ b = 0x25 := fun heq => h.1 heq.symm
      unfold percentDecode
      split
      · rename_i heq
        cases heq
      · rename_i heq
        cases heq
        exact absurd rfl hb
      · rename_i heq
        cases heq
        simp [hb, ih h.2]

theorem percentDecodePath_of_plain {path : Bytes}
    (h : (0x25 : UInt8) ∉ path) :
    percentDecodePath path = utf8Text path := by
  simp [percentDecodePath, percentDecode_of_plain h]

example :
    parseOsc7CurrentDirectory (bytesOf "file://host/a%20b") = some "/a b" := by
  decide

end WorkingDirectory

section Performer

/-- What the performer tracks. -/
structure ScreenPerformer where
  rawBytes : Bytes
  maxBytes : Nat
  cursorRow : Nat
  cursorCol : Nat
  title : Option String
  cwd : Option String
  pendingReplies : List Bytes
  bracketedPasteMode : Bool
  applicationCursorKeys : Bool
  applicationKeypad : Bool
  mouseTrackingMode : Nat
  sgrMouseMode : Bool
  focusEventMode : Bool
  cursorVisible : Bool
  alternateScreen : Bool
deriving DecidableEq

namespace ScreenPerformer

def new (maxScrollbackBytes : Nat) : ScreenPerformer where
  rawBytes := []
  maxBytes := maxScrollbackBytes
  cursorRow := 0
  cursorCol := 0
  title := none
  cwd := none
  pendingReplies := []
  bracketedPasteMode := false
  applicationCursorKeys := false
  applicationKeypad := false
  mouseTrackingMode := 0
  sgrMouseMode := false
  focusEventMode := false
  cursorVisible := true
  alternateScreen := false

def pushReply (p : ScreenPerformer) (reply : Bytes) : ScreenPerformer :=
  { p with pendingReplies := p.pendingReplies ++ [reply] }

def execute (p : ScreenPerformer) (byte : UInt8) : ScreenPerformer :=
  if byte = 0x0a then
    { p with cursorRow := p.cursorRow + 1, cursorCol := 0 }
  else if byte = 0x0d then
    { p with cursorCol := 0 }
  else if byte = 0x08 then
    { p with cursorCol := p.cursorCol - 1 }
  else
    p

/-- The title of an OSC 0 or OSC 2 call. -/
def oscTitle (params : List Bytes) : Option String :=
  match params with
  | kind :: text :: _ =>
      if kind = bytesOf "0" ∨ kind = bytesOf "2" then utf8Text text else none
  | _ => none

/-- The working directory of an OSC 7 call. -/
def oscCwd (params : List Bytes) : Option String :=
  match params with
  | kind :: uri :: _ =>
      if kind = bytesOf "7" ∧ (utf8Text uri).isSome then
        parseOsc7CurrentDirectory uri
      else
        none
  | _ => none

def oscDispatch (p : ScreenPerformer) (params : List Bytes) : ScreenPerformer :=
  { p with
    title := (oscTitle params).or p.title
    cwd := (oscCwd params).or p.cwd }

/-- The first subparameter of a CSI parameter. -/
def subparam (param : List Nat) : Option Nat :=
  param.head?

/-- DECSET / DECRST of one private mode. -/
def setPrivateMode (enabled : Bool) (p : ScreenPerformer) (param : List Nat) :
    ScreenPerformer :=
  let tracking := fun (mode : Nat) => if enabled then mode else 0
  match subparam param with
  | some 1 => { p with applicationCursorKeys := enabled }
  | some 25 => { p with cursorVisible := enabled }
  | some 1000 => { p with mouseTrackingMode := tracking 1000 }
  | some 1002 => { p with mouseTrackingMode := tracking 1002 }
  | some 1003 => { p with mouseTrackingMode := tracking 1003 }
  | some 1004 => { p with focusEventMode := enabled }
  | some 1006 => { p with sgrMouseMode := enabled }
  | some 1047 => { p with alternateScreen := enabled }
  | some 1049 => { p with alternateScreen := enabled }
  | some 2004 => { p with bracketedPasteMode := enabled }
  | _ => p

/-- Whether a private mode is set; `none` for a mode that is not recognised. -/
def privateModeIsSet (p : ScreenPerformer) (mode : Nat) : Option Bool :=
  match mode with
  | 1 => some p.applicationCursorKeys
  | 25 => some p.cursorVisible
  | 1000 => some (p.mouseTrackingMode == mode)
  | 1002 => some (p.mouseTrackingMode == mode)
  | 1003 => some (p.mouseTrackingMode == mode)
  | 1004 => some p.focusEventMode
  | 1006 => some p.sgrMouseMode
  | 1047 => some p.alternateScreen
  | 1049 => some p.alternateScreen
  | 2004 => some p.bracketedPasteMode
  | _ => none

/-- DECRPM: the reply to a mode query. -/
def modeReply (p : ScreenPerformer) (mode : Nat) : Bytes :=
  let pm : Nat :=
    match p.privateModeIsSet mode with
    | some true => 1
    | some false => 2
    | none => 0
  bytesOf ("\x1b[?" ++ toString mode ++ ";" ++ toString pm ++ "$y")

/-- CPR: the reply to a cursor position query. -/
def cursorReply (p : ScreenPerformer) : Bytes :=
  bytesOf ("\x1b[" ++ toString (p.cursorRow + 1) ++ ";" ++ toString (p.cursorCol + 1) ++ "R")

def csiDispatch (p : ScreenPerformer) (params : List (List Nat)) (intermediates : Bytes)
    (action : Char) : ScreenPerformer :=
  let firstParam := (params.head?.bind subparam).getD 1
  if intermediates = bytesOf "?" ∧ (action = 'h' ∨ action = 'l') then
    params.foldl (setPrivateMode (action == 'h')) p
  else if intermediates = bytesOf "?$" ∧ action = 'p' then
    p.pushReply (p.modeReply firstParam)
  else if intermediates = bytesOf ">" ∧ action = 'c' then
    p.pushReply (bytesOf "\x1b[>65;0;0c")
  else if action = 'A' then
    { p with cursorRow := p.cursorRow - firstParam }
  else if action = 'B' then
    { p with cursorRow := p.cursorRow + firstParam }
  else if action = 'C' then
    { p with cursorCol := p.cursorCol + firstParam }
  else if action = 'D' then
    { p with cursorCol := p.cursorCol - firstParam }
  else if action = 'H' ∨ action = 'f' then
    let row := (params.head?.bind subparam).getD 1
    let col := (params.tail.head?.bind subparam).getD 1
    { p with cursorRow := row - 1, cursorCol := col - 1 }
  else if action = 'n' then
    if firstParam = 5 then
      p.pushReply (bytesOf "\x1b[0n")
    else if firstParam = 6 then
      p.pushReply p.cursorReply
    else
      p
  else if action = 'c' ∧ intermediates = [] ∧ firstParam ≤ 1 then
    p.pushReply (bytesOf "\x1b[?64;1;2;6;22c")
  else
    p

def escDispatch (p : ScreenPerformer) (byte : UInt8) : ScreenPerformer :=
  if byte = 0x3d then
    { p with applicationKeypad := true }
  else if byte = 0x3e then
    { p with applicationKeypad := false }
  else
    p

/-- One call of the parser. -/
def perform (p : ScreenPerformer) : VteCall → ScreenPerformer
  | .print _ => { p with cursorCol := p.cursorCol + 1 }
  | .execute byte => p.execute byte
  | .hook _ _ _ _ => p
  | .put _ => p
  | .unhook => p
  | .oscDispatch params _ => p.oscDispatch params
  | .csiDispatch params intermediates _ action => p.csiDispatch params intermediates action
  | .escDispatch _ _ byte => p.escDispatch byte

def performAll (p : ScreenPerformer) (calls : List VteCall) : ScreenPerformer :=
  calls.foldl perform p

/-- Calls reported in two parts act as one. -/
theorem performAll_append (p : ScreenPerformer) (first second : List VteCall) :
    p.performAll (first ++ second) = (p.performAll first).performAll second := by
  simp [performAll]

end ScreenPerformer

end Performer

end Server
end Rttx
