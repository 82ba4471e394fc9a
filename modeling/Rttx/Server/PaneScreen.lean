import Rttx.Server.ByteFilters
import Rttx.Server.Render
import Rttx.Server.ScreenPerformer

/-!
# The screen state of a pane

A pane screen runs the escape sequence parser and the cell grid side by side.
`acceptRaw` stores a batch, `parse` advances both machines; the daemon calls
the second outside the workspace lock.

**Results.**
* `parse_append_performer`: the performer sees batches as one stream.
* `gridSize_parse`, `gridSize_resize`: the grid keeps its size over output and
  takes the size it is given, at least one row and column.
-/

namespace Rttx
namespace Server

universe u v

/-- Rows of history the cell grid keeps per pane. -/
def gridScrollbackRows : Nat := 1000

/-- In-memory terminal screen state. -/
structure PaneScreen (P : Type u) (G : Type v) where
  parser : P
  performer : ScreenPerformer
  grid : G
  gridUtf8Tail : Bytes
deriving DecidableEq

/-- The mouse mode of the wire's terminal mode state. -/
inductive MouseMode
  | none
  | x10
  | normal
  | button
  | any
deriving DecidableEq, Repr

/-- The consolidated terminal modes a snapshot carries. -/
structure TerminalModeState where
  bracketedPaste : Bool
  focusReporting : Bool
  applicationCursorKeys : Bool
  applicationKeypad : Bool
  alternateScreen : Bool
  cursorHidden : Bool
  mouseMode : MouseMode
  sgrMouse : Bool
deriving DecidableEq, Repr

def mouseModeFromTrackingValue (value : Nat) : MouseMode :=
  match value with
  | 1000 => .normal
  | 1002 => .button
  | 1003 => .any
  | _ => .none

def leaveAlternateScreenBytes : Bytes :=
  bytesOf "\x1b[?1049l\x1b[?47l"

def idleShellCleanupBytes : Bytes :=
  bytesOf ("\x1b[?25h\x1b[?1000l\x1b[?1002l\x1b[?1003l\x1b[?1006l\x1b[?1015l" ++
    "\x1b[?1004l\x1b[r\x1b[?6l\x1b[m")

def terminalCleanupBytes : Bytes :=
  bytesOf ("\x18\x1b[?25h\x1b[?1000l\x1b[?1002l\x1b[?1003l\x1b[?1006l\x1b[?1015l" ++
    "\x1b[?1004l\x1b[?1l\x1b>\x1b[?2004l\x1b[r\x1b[?6l\x1b[m")

namespace PaneScreen

section Operations

variable {P : Type u} {G : Type v}
variable [VteParser P] [Vt100Parser G]

open Vt100Parser

/-- A new screen with the given scrollback byte limit and size. -/
def newSized (maxScrollbackBytes cols rows : Nat) : PaneScreen P G where
  parser := VteParser.new
  performer := ScreenPerformer.new maxScrollbackBytes
  grid := Vt100Parser.new (max rows 1) (max cols 1) gridScrollbackRows
  gridUtf8Tail := []

/-- A new screen at the default size. -/
def new (maxScrollbackBytes : Nat) : PaneScreen P G :=
  newSized maxScrollbackBytes 80 24

/-- Remove alternate-screen exits that arrive while it is not active. -/
def sanitizeOutput (s : PaneScreen P G) (data : Bytes) : Bytes :=
  stripStrayAlternateScreenExits data (s.performer.alternateScreen || alternateScreen s.grid)

/-- Store raw bytes, keeping the newest within the scrollback cap. -/
def acceptRaw (s : PaneScreen P G) (data : Bytes) : PaneScreen P G :=
  let raw := s.performer.rawBytes ++ data
  { s with performer :=
      { s.performer with rawBytes := raw.drop (raw.length - s.performer.maxBytes) } }

/-- Advance the escape sequence parser and its performer. -/
def advanceParser : P × ScreenPerformer → Bytes → P × ScreenPerformer
  | st, [] => st
  | (parser, performer), byte :: rest =>
      let (parser', calls) := VteParser.advance parser byte
      advanceParser (parser', performer.performAll calls) rest

/-- Feed the grid whole UTF-8 sequences, carrying an incomplete one over. -/
def feedGrid (s : PaneScreen P G) (data : Bytes) : PaneScreen P G :=
  let joined := s.gridUtf8Tail ++ data
  let wholeLen := joined.length - incompleteUtf8TailLen joined
  { s with
    grid := process s.grid (joined.take wholeLen)
    gridUtf8Tail := joined.drop wholeLen }

/-- Run both parsers over `data`. -/
def parse (s : PaneScreen P G) (data : Bytes) : PaneScreen P G :=
  let (parser', performer') := advanceParser (s.parser, s.performer) data
  feedGrid { s with parser := parser', performer := performer' } data

/-- Feed output: sanitize, store, parse. -/
def feed (s : PaneScreen P G) (data : Bytes) : PaneScreen P G :=
  let clean := s.sanitizeOutput data
  (s.acceptRaw clean).parse clean

/-- Resize the cell grid, re-laying the primary screen at the new size. -/
def resize (s : PaneScreen P G) (cols rows : Nat) : PaneScreen P G :=
  let cols := max cols 1
  let rows := max rows 1
  let (curRows, curCols) := size s.grid
  if (curCols, curRows) = (cols, rows) then
    s
  else
    let onAlternate := alternateScreen s.grid
    let grid := if onAlternate then process s.grid (bytesOf "\x1b[?47l") else s.grid
    let relaid := renderRows [] grid .asIs
    let grid := process grid (bytesOf "\x1b[2J\x1b[H")
    let grid := setSize grid rows cols
    let grid := process grid relaid
    let grid := if onAlternate then process grid (bytesOf "\x1b[?47h") else grid
    { s with grid := grid }

/-- The grid's current size as `(cols, rows)`. -/
def gridSize (s : PaneScreen P G) : Nat × Nat :=
  ((size s.grid).2, (size s.grid).1)

/-- Release the scrollback buffer and the cell grid. -/
def clearScrollback (s : PaneScreen P G) : PaneScreen P G :=
  let (rows, cols) := size s.grid
  { s with
    performer := { s.performer with rawBytes := [] }
    grid := Vt100Parser.new rows cols 0 }

/-- The byte stream a freshly reset client terminal is fed to show this pane. -/
def reattachStream (s : PaneScreen P G) : Bytes × PaneScreen P G :=
  let onAlternate := alternateScreen s.grid
  let grid := if onAlternate then process s.grid (bytesOf "\x1b[?47l") else s.grid
  let (primary, grid) := renderPrimaryBuffer grid .asIs
  let out := dropOldestLinesOver primary maxReattachBytes
  let grid := if onAlternate then process grid (bytesOf "\x1b[?47h") else grid
  let out := if onAlternate then out ++ renderAlternateScreen grid else out
  (out ++ renderArmedModes grid s.performer.focusEventMode, { s with grid := grid })

/-- The cleanup sequence for the current state. -/
def cleanupSequence (s : PaneScreen P G) (idleShell : Bool) : Bytes :=
  (if s.performer.alternateScreen || alternateScreen s.grid then
      leaveAlternateScreenBytes
    else []) ++
    (if idleShell then idleShellCleanupBytes else terminalCleanupBytes)

/-- Whether a mode is armed that only a running full-screen program uses. -/
def hasAppOnlyModes (s : PaneScreen P G) : Bool :=
  s.performer.alternateScreen || alternateScreen s.grid ||
    s.performer.mouseTrackingMode != 0 || mouseProtocolMode s.grid != .none ||
    s.performer.sgrMouseMode || s.performer.focusEventMode ||
    !s.performer.cursorVisible || hideCursor s.grid

def title (s : PaneScreen P G) : Option String :=
  s.performer.title

def cwd (s : PaneScreen P G) : Option String :=
  s.performer.cwd

/-- Drain the pending replies. -/
def takePendingReplies (s : PaneScreen P G) : List Bytes × PaneScreen P G :=
  (s.performer.pendingReplies,
    { s with performer := { s.performer with pendingReplies := [] } })

def terminalModeState (s : PaneScreen P G) : TerminalModeState where
  bracketedPaste := s.performer.bracketedPasteMode
  focusReporting := s.performer.focusEventMode
  applicationCursorKeys := s.performer.applicationCursorKeys
  applicationKeypad := s.performer.applicationKeypad
  alternateScreen := s.performer.alternateScreen
  cursorHidden := !s.performer.cursorVisible
  mouseMode := mouseModeFromTrackingValue s.performer.mouseTrackingMode
  sgrMouse := s.performer.sgrMouseMode

end Operations

section Laws

variable {P : Type u} {G : Type v}
variable [VteParser P] [Vt100Parser G]

theorem advanceParser_append (st : P × ScreenPerformer) (first second : Bytes) :
    advanceParser st (first ++ second) = advanceParser (advanceParser st first) second := by
  induction first generalizing st with
  | nil => rfl
  | cons byte rest ih =>
      obtain ⟨parser, performer⟩ := st
      simp [advanceParser, ih]

/-- The parser and the performer after a batch. -/
theorem parse_parser_performer (s : PaneScreen P G) (data : Bytes) :
    ((s.parse data).parser, (s.parse data).performer) =
      advanceParser (s.parser, s.performer) data :=
  rfl

/-- The performer sees batches as one stream. -/
theorem parse_append_performer (s : PaneScreen P G) (first second : Bytes) :
    ((s.parse first).parse second).performer = (s.parse (first ++ second)).performer := by
  have hsecond := parse_parser_performer (s.parse first) second
  rw [parse_parser_performer s first, ← advanceParser_append,
    ← parse_parser_performer s (first ++ second)] at hsecond
  exact congrArg Prod.snd hsecond

omit [VteParser P] in
@[simp] theorem gridSize_acceptRaw (s : PaneScreen P G) (data : Bytes) :
    (s.acceptRaw data).gridSize = s.gridSize :=
  rfl

omit [VteParser P] in
@[simp] theorem gridSize_takePendingReplies (s : PaneScreen P G) :
    s.takePendingReplies.2.gridSize = s.gridSize :=
  rfl

variable [LawfulGrid G]

@[simp] theorem gridSize_newSized (maxScrollbackBytes cols rows : Nat) :
    (newSized maxScrollbackBytes cols rows : PaneScreen P G).gridSize =
      (max cols 1, max rows 1) := by
  simp [newSized, gridSize]

/-- The grid keeps its size over output. -/
@[simp] theorem gridSize_parse (s : PaneScreen P G) (data : Bytes) :
    (s.parse data).gridSize = s.gridSize := by
  simp [parse, feedGrid, gridSize]

omit [VteParser P] in
/-- The grid takes the size it is given, at least one row and column. -/
@[simp] theorem gridSize_resize (s : PaneScreen P G) (cols rows : Nat) :
    (s.resize cols rows).gridSize = (max cols 1, max rows 1) := by
  unfold resize
  by_cases hsame : ((Vt100Parser.size s.grid).2, (Vt100Parser.size s.grid).1) =
      (max cols 1, max rows 1)
  · simp [hsame, gridSize]
  · simp only [hsame, if_false]
    by_cases halt : Vt100Parser.alternateScreen s.grid = true
    · simp [halt, gridSize]
    · simp [halt, gridSize]

end Laws

end PaneScreen

section Calls

variable {P : Type u}
variable [VteParser P]

/-- The calls that the parser makes over a batch. -/
def callsOver : P → Bytes → List VteCall
  | _, [] => []
  | parser, byte :: rest =>
      let (parser, calls) := VteParser.advance parser byte
      calls ++ callsOver parser rest

/-- The performer gets what the parser calls. -/
theorem advanceParser_performer (parser : P) (performer : ScreenPerformer) (data : Bytes) :
    (PaneScreen.advanceParser (parser, performer) data).2 =
      performer.performAll (callsOver parser data) := by
  induction data generalizing parser performer with
  | nil => rfl
  | cons byte rest ih =>
      simp only [PaneScreen.advanceParser, callsOver, ScreenPerformer.performAll_append]
      exact ih _ _

end Calls

end Server
end Rttx
