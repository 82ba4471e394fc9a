import Rttx.Server.Terminal

/-!
# Rendering a pane's state

An attaching client is handed a rendering of the cell grid: the primary buffer
as logical lines of text and attributes, the frame of a full-screen program if
one owns the alternate screen, and the input modes that are on.

The source emits through a closure over the current attributes and an output
buffer; here both are the state `Emitter` that each step returns.

**Results.**
* `dropOldestLinesOver_length_le`: the trimmed stream respects the bound.
* `dropOldestLinesOver_suffix`: trimming keeps a suffix.
-/

namespace Rttx
namespace Server

universe u

section Attributes

/-- The SGR attributes of a cell. -/
structure CellAttrs where
  fg : Color
  bg : Color
  bold : Bool
  dim : Bool
  italic : Bool
  underline : Bool
  inverse : Bool
deriving DecidableEq, Repr

namespace CellAttrs

def default : CellAttrs :=
  ⟨.default, .default, false, false, false, false, false⟩

def of (cell : Cell) : CellAttrs where
  fg := cell.fgcolor
  bg := cell.bgcolor
  bold := cell.bold
  dim := cell.dim
  italic := cell.italic
  underline := cell.underline
  inverse := cell.inverse

/-- The SGR parameter of a colour; `low`, `bright` and `extended` are the
codes of the plane the colour is for. -/
def colorParam (low bright : Nat) (extended : String) : Color → List String
  | .default => []
  | .idx n =>
      if n ≤ 7 then [toString (low + n)]
      else if n ≤ 15 then [toString (bright + n - 8)]
      else [extended ++ ";5;" ++ toString n]
  | .rgb r g b =>
      [extended ++ ";2;" ++ toString r ++ ";" ++ toString g ++ ";" ++ toString b]

/-- The SGR sequence that turns `prev` into `self`, if any. -/
def diff (self prev : CellAttrs) : Bytes :=
  if self = prev then
    []
  else
    let flag := fun (on : Bool) (code : String) => if on then [code] else []
    let params := ["0"] ++ flag self.bold "1" ++ flag self.dim "2" ++ flag self.italic "3" ++
      flag self.underline "4" ++ flag self.inverse "7" ++
      colorParam 30 90 "38" self.fg ++ colorParam 40 100 "48" self.bg
    bytesOf ("\x1b[" ++ String.intercalate ";" params ++ "m")

end CellAttrs

end Attributes

section Rows

/-- A cell worth emitting. -/
structure RenderedCell where
  text : String
  attrs : CellAttrs
deriving DecidableEq, Repr

/-- One grid row reduced to the cells worth emitting. -/
structure RenderedRow where
  cells : List RenderedCell
  wrapped : Bool
deriving DecidableEq, Repr

variable {G : Type u} [Vt100Parser G]

open Vt100Parser

/-- Read cells from column `col` on, at most `fuel` columns. -/
def readCells (screen : G) (row : Nat) : (fuel col : Nat) → List RenderedCell
  | 0, _ => []
  | fuel + 1, col =>
      match cell screen row col with
      | none => []
      | some c =>
          let rest := readCells screen row fuel (col + 1)
          if c.isWideContinuation then
            rest
          else
            ⟨if c.hasContents then c.contents else " ", CellAttrs.of c⟩ :: rest

def u16Max : Nat := 2 ^ 16 - 1

/-- A trailing cell that carries nothing. -/
def RenderedCell.isBlank (c : RenderedCell) : Bool :=
  c.text = " " && c.attrs = CellAttrs.default

/-- Read visible row `row`; `width` bounds the read for screen rows. -/
def RenderedRow.read (screen : G) (row : Nat) (width : Option Nat) : RenderedRow where
  cells := ((readCells screen row (width.getD u16Max) 0).reverse.dropWhile
    RenderedCell.isBlank).reverse
  wrapped := rowWrapped screen row

/-- Where a rendering leaves the cursor. -/
inductive CursorPlacement
  | asIs
  | afterContent
deriving DecidableEq

/-- The attributes in force and the bytes written. -/
structure Emitter where
  attrs : CellAttrs
  out : Bytes
deriving DecidableEq

namespace Emitter

def write (e : Emitter) (data : Bytes) : Emitter :=
  { e with out := e.out ++ data }

/-- Emit `text` under `attrs`. -/
def put (e : Emitter) (attrs : CellAttrs) (text : Bytes) : Emitter :=
  ⟨attrs, e.out ++ attrs.diff e.attrs ++ text⟩

end Emitter

def newLine : Bytes := bytesOf "\r\n"

/-- Emit the cells of a row up to column `upto`; a column past the content is
reached over blank cells. -/
def emitRow (row : RenderedRow) (upto : Option Nat) (e : Emitter) : Emitter :=
  let limit := upto.getD row.cells.length
  let e := (row.cells.take limit).foldl
    (fun e c => e.put c.attrs (bytesOf c.text)) e
  (List.replicate (limit - row.cells.length) ()).foldl
    (fun e _ => e.put CellAttrs.default (bytesOf " ")) e

/-- Emit a row and end its line unless it is soft-wrapped. -/
def emitLine (e : Emitter) (row : RenderedRow) : Emitter :=
  let e := emitRow row none e
  if row.wrapped then e else e.write newLine

/-- The cursor row: its cells up to the cursor and, only if content follows,
that content between DECSC and DECRC. -/
def emitCursorRow (row : RenderedRow) (cursorCol : Nat) (below : List RenderedRow)
    (e : Emitter) : Emitter :=
  let e := emitRow row (some cursorCol) e
  let restOfRow := cursorCol < row.cells.length
  if ¬ restOfRow ∧ below = [] then
    e
  else
    let e := e.write (bytesOf "\x1b7")
    let e := if restOfRow then
        emitRow { row with cells := row.cells.drop cursorCol } none e
      else e
    let e := if !row.wrapped && !below.isEmpty then e.write newLine else e
    (below.foldl emitLine e).write (bytesOf "\x1b8")

/-- Emit the visible rows from index `index` on. -/
def emitScreenLines (cursor : CursorPlacement) (cursorRow : Option Nat) (cursorCol : Nat) :
    (index : Nat) → List RenderedRow → Emitter → Emitter
  | _, [], e => e
  | index, row :: below, e =>
      if cursorRow = some index then
        emitCursorRow row cursorCol below e
      else
        let e := emitRow row none e
        let e := if !row.wrapped && (cursor = .asIs || !below.isEmpty) then
            e.write newLine
          else e
        emitScreenLines cursor cursorRow cursorCol (index + 1) below e

/-- Number of rows up to and including the last one with content. -/
def contentRows (lines : List RenderedRow) : Nat :=
  (lines.reverse.dropWhile (fun r => r.cells.isEmpty)).length

/-- `history` followed by the visible rows of `screen` as logical lines, and
the cursor. -/
def renderRows (history : List RenderedRow) (screen : G) (cursor : CursorPlacement) : Bytes :=
  let (rows, cols) := size screen
  let (cursorRow, cursorCol) := cursorPosition screen
  let lines := (List.range rows).map (fun row => RenderedRow.read screen row (some cols))
  let keep :=
    match cursor with
    | .asIs => max (contentRows lines) (cursorRow + 1)
    | .afterContent => contentRows lines
  let lines := lines.take keep
  let cursorIndex :=
    match cursor with
    | .asIs => some cursorRow
    | .afterContent => none
  let e := history.foldl emitLine ⟨CellAttrs.default, []⟩
  let e := emitScreenLines cursor cursorIndex cursorCol 0 lines e
  (e.put CellAttrs.default []).out

/-- Walk the history from the oldest row, `rows` rows at a time; `fuel` bounds
the number of windows. -/
def readHistory (screenRows : Nat) : (fuel offset : Nat) → G → List RenderedRow × G
  | 0, _, grid => ([], grid)
  | fuel + 1, offset, grid =>
      if offset = 0 then
        ([], grid)
      else
        let grid := setScrollback grid offset
        let window := min offset screenRows
        let rows := (List.range window).map (fun row => RenderedRow.read grid row none)
        let (rest, grid) := readHistory screenRows fuel (offset - window) grid
        (rows ++ rest, grid)

def usizeMax : Nat := 2 ^ 64 - 1

/-- History plus the primary screen of `grid` as logical lines. -/
def renderPrimaryBuffer (grid : G) (cursor : CursorPlacement) : Bytes × G :=
  let (rows, _) := size grid
  let grid := setScrollback grid usizeMax
  let historyLen := scrollback grid
  let (history, grid) := readHistory rows historyLen historyLen grid
  let grid := setScrollback grid 0
  (renderRows history grid cursor, grid)

/-- The frame of a running full-screen program, positioned absolutely. -/
def renderAlternateScreen (screen : G) : Bytes :=
  let (row, col) := cursorPosition screen
  bytesOf "\x1b[?1049h" ++ contentsFormatted screen ++
    bytesOf ("\x1b[" ++ toString (row + 1) ++ ";" ++ toString (col + 1) ++ "H")

/-- The input modes that are currently on. -/
def renderArmedModes (screen : G) (focusEvents : Bool) : Bytes :=
  let flag := fun (on : Bool) (code : String) => if on then bytesOf code else []
  flag (applicationKeypad screen) "\x1b=" ++
    flag (applicationCursor screen) "\x1b[?1h" ++
    flag (bracketedPaste screen) "\x1b[?2004h" ++
    (match mouseProtocolMode screen with
      | .none => []
      | .press => bytesOf "\x1b[?9h"
      | .pressRelease => bytesOf "\x1b[?1000h"
      | .buttonMotion => bytesOf "\x1b[?1002h"
      | .anyMotion => bytesOf "\x1b[?1003h") ++
    (match mouseProtocolEncoding screen with
      | .default => []
      | .utf8 => bytesOf "\x1b[?1005h"
      | .sgr => bytesOf "\x1b[?1006h") ++
    flag focusEvents "\x1b[?1004h" ++
    flag (hideCursor screen) "\x1b[?25l"

end Rows

section Trimming

def maxReattachBytes : Nat := 2 * 1024 * 1024

/-- Trim `stream` to at most `max` bytes by dropping whole lines from the front. -/
def dropOldestLinesOver (stream : Bytes) (max : Nat) : Bytes :=
  if stream.length ≤ max then
    stream
  else
    let tail := stream.drop (stream.length - max)
    if tail.contains 0x0a then
      (tail.dropWhile (fun b => b != 0x0a)).tail
    else
      tail

theorem dropOldestLinesOver_suffix (stream : Bytes) (max : Nat) :
    (dropOldestLinesOver stream max).IsSuffix stream := by
  unfold dropOldestLinesOver
  by_cases hlen : stream.length ≤ max
  · simp [hlen]
  · rw [if_neg hlen]
    have htail := List.drop_suffix (stream.length - max) stream
    by_cases hnl : (stream.drop (stream.length - max)).contains 0x0a = true
    · simp only [hnl, if_true]
      exact ((List.tail_suffix _).trans (List.dropWhile_suffix _)).trans htail
    · simp only [hnl]
      exact htail

/-- The trimmed stream respects the bound. -/
theorem dropOldestLinesOver_length_le (stream : Bytes) (max : Nat) :
    (dropOldestLinesOver stream max).length ≤ max := by
  unfold dropOldestLinesOver
  by_cases hlen : stream.length ≤ max
  · simp [hlen]
  · rw [if_neg hlen]
    have htail : (stream.drop (stream.length - max)).length ≤ max := by
      rw [List.length_drop]
      omega
    by_cases hnl : (stream.drop (stream.length - max)).contains 0x0a = true
    · simp only [hnl, if_true]
      have hdrop := ((List.tail_suffix _).trans (List.dropWhile_suffix
        (fun b => b != 0x0a) (l := stream.drop (stream.length - max)))).length_le
      omega
    · simp only [hnl]
      exact htail

end Trimming

end Server
end Rttx
