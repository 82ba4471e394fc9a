import Rttx.Server.CursorMoves
import Rttx.Server.SampleControls

/-!
# A small terminal with rows

The small parser carries out the ends of lines, and a grid of several rows performs its
calls: it draws text in the cursor's row, takes the ends of lines and the moves of the
cursor, and scrolls at its last row.

**Results.**
* the small parser and the grid of rows are lawful, so theorems about cursors and
  regions apply to them.
-/

namespace Rttx
namespace Server

open Kernel

instance : LineParser PlainParser where
  fresh := rfl
  ascii _ _ _ := rfl
  lineEnd parser b hrest hb := by
    obtain ⟨scan⟩ := parser
    have hscan : scan = .outside := beq_iff_eq.mp hrest
    subst hscan
    rcases endsLine_cases hb with rfl | rfl <;> exact ⟨rfl, rfl⟩

/-- A grid of rows of text; the rows after the last line are blank. -/
structure RowGrid where
  rows : Nat
  cols : Nat
  lines : List (List Char)
  cursor : Nat × Nat
  modes : ScreenModes
  encoding : MouseProtocolEncoding
  attributes : Attributes
  parser : PlainParser
deriving DecidableEq

namespace RowGrid

/-- Append a character to a row. -/
def appendTo (lines : List (List Char)) (row : Nat) (c : Char) : List (List Char) :=
  (List.range (max lines.length (row + 1))).map fun r =>
    if r = row then lines.getD r [] ++ [c] else lines.getD r []

/-- A new line: the rows move up if the cursor is in the last one. -/
def lineFeed (g : RowGrid) : RowGrid :=
  if g.cursor.1 + 1 < g.rows then
    { g with cursor := (g.cursor.1 + 1, g.cursor.2) }
  else
    { g with lines := (g.lines.take g.rows).tail }

/-- A move to the row and column of the parameters. -/
def moveTo (g : RowGrid) : List (List Nat) → RowGrid
  | [[row], [col]] =>
      { g with cursor := (min (row - 1) (g.rows - 1), min (col - 1) (g.cols - 1)) }
  | _ => g

def setAttributes (g : RowGrid) (params : List (List Nat)) : RowGrid :=
  { g with attributes :=
      if params = [[1]] then { g.attributes with bold := true } else .default }

/-- What a call does to the text, the cursor and the pen. -/
def draw (g : RowGrid) (call : VteCall) : RowGrid :=
  if HomingCall call then
    { g with cursor := (0, 0) }
  else
    match call with
    | .print c =>
        { g with
          lines := appendTo g.lines g.cursor.1 c
          cursor := (g.cursor.1, g.cursor.2 + 1) }
    | .execute byte =>
        if byte = 0x0d then { g with cursor := (g.cursor.1, 0) }
        else if byte = 0x0a then g.lineFeed
        else g
    | .csiDispatch params intermediates _ action =>
        if intermediates ≠ [] then g
        else if action = 'H' then g.moveTo params
        else if action = 'm' then g.setAttributes params
        else g
    | _ => g

def perform (g : RowGrid) (call : VteCall) : RowGrid :=
  { g.draw call with
    modes := g.modes.applied call
    encoding := g.encoding.applied call }

def process (g : RowGrid) (data : Bytes) : RowGrid :=
  { (callsOver g.parser data).foldl perform g with parser := parserAfter g.parser data }

def cell (g : RowGrid) (row col : Nat) : Option Cell :=
  if row < g.rows ∧ col < g.cols then
    let contents := ((g.lines.getD row [])[col]?.map fun c => String.ofList [c]).getD ""
    some ⟨contents, false, .default, .default, false, false, false, false, false⟩
  else
    none

instance : Vt100Parser RowGrid where
  new := fun rows cols _ => ⟨rows, cols, [], (0, 0), .off, .default, .default, ⟨.outside⟩⟩
  process := process
  setSize := fun g rows cols => { g with rows := rows, cols := cols }
  setScrollback := fun g _ => g
  size := fun g => (g.rows, g.cols)
  scrollback := fun _ => 0
  alternateScreen := fun g => g.modes.alternateScreen
  cursorPosition := fun g => g.cursor
  cell := cell
  rowWrapped := fun _ _ => false
  contentsFormatted := fun _ => []
  applicationKeypad := fun g => g.modes.applicationKeypad
  applicationCursor := fun g => g.modes.applicationCursorKeys
  bracketedPaste := fun g => g.modes.bracketedPaste
  mouseProtocolMode := fun g => g.modes.mouse.protocolMode
  mouseProtocolEncoding := fun g => g.encoding
  hideCursor := fun g => !g.modes.cursorVisible

instance : CallGrid PlainParser RowGrid where
  parser := RowGrid.parser
  perform := perform
  attributes := RowGrid.attributes

/-- The small grid has no margins and keeps no lines that were scrolled off. -/
instance : RegionGrid RowGrid where
  wholeScreen _ := True
  unscrolled _ := True

instance : ViewGrid RowGrid where
  unscrolled_new _ _ _ := trivial
  unscrolled_process _ _ _ := trivial

theorem gridModes_eq (g : RowGrid) : gridModes g = g.modes := by
  have hmouse : g.modes.mouse.protocolMode.mouseMode = g.modes.mouse := by
    cases g.modes.mouse <;> rfl
  rw [ScreenModes.mk.injEq]
  exact ⟨rfl, rfl, rfl, hmouse, Bool.not_not _, rfl⟩

theorem size_lineFeed (g : RowGrid) : (g.lineFeed.rows, g.lineFeed.cols) = (g.rows, g.cols) := by
  unfold lineFeed
  split <;> rfl

theorem size_moveTo (g : RowGrid) (params : List (List Nat)) :
    ((g.moveTo params).rows, (g.moveTo params).cols) = (g.rows, g.cols) := by
  unfold moveTo
  split <;> rfl

theorem size_draw (g : RowGrid) (call : VteCall) :
    ((g.draw call).rows, (g.draw call).cols) = (g.rows, g.cols) := by
  unfold draw
  by_cases hhoming : HomingCall call
  · rw [if_pos hhoming]
  · rw [if_neg hhoming]
    cases call with
    | execute byte =>
        dsimp only
        split_ifs <;> first | rfl | exact g.size_lineFeed
    | csiDispatch params intermediates ignore action =>
        dsimp only
        split_ifs <;> first | rfl | exact g.size_moveTo params
    | _ => rfl

/-- A call that neither prints nor moves leaves the text and the cursor. -/
theorem draw_of_still {call : VteCall}
    (h : StillCall call)
    (g : RowGrid) :
    (g.draw call).lines = g.lines ∧ (g.draw call).cursor = g.cursor := by
  have hhoming : ¬ HomingCall call := by
    rintro (rfl | rfl) <;> exact absurd h (by decide)
  unfold draw
  rw [if_neg hhoming]
  cases call with
  | print c => exact h.elim
  | execute byte => exact h.elim
  | csiDispatch params intermediates ignore action =>
      rcases h with ⟨rfl, _⟩ | ⟨rfl, rfl⟩
      · exact ⟨rfl, rfl⟩
      · exact ⟨rfl, rfl⟩
  | _ => exact ⟨rfl, rfl⟩

theorem cell_congr {g g' : RowGrid}
    (hlines : g'.lines = g.lines)
    (hsize : (g'.rows, g'.cols) = (g.rows, g.cols)) :
    g'.cell = g.cell := by
  obtain ⟨hrows, hcols⟩ := Prod.mk.inj hsize
  funext row col
  rw [cell, cell, hlines, hrows, hcols]

instance : LawfulCallGrid PlainParser RowGrid where
  resumes _ := rfl
  parser_process _ _ := rfl
  readout_process _ _ := rfl
  modes_perform g call := (gridModes_eq _).trans
    (congrArg (fun m : ScreenModes => m.applied call) (gridModes_eq g).symm)
  encoding_perform _ _ := rfl
  attributes_reset _ := rfl
  still g call hstill := by
    obtain ⟨hlines, hcursor⟩ := draw_of_still hstill g
    exact ⟨cell_congr hlines (size_draw g call), hcursor⟩
  homing g call hhoming := by
    have hdraw : g.draw call = { g with cursor := (0, 0) } := if_pos hhoming
    have hlines : (g.draw call).lines = g.lines := by rw [hdraw]
    exact ⟨cell_congr hlines (size_draw g call), congrArg RowGrid.cursor hdraw⟩

theorem size_foldl (calls : List VteCall) (g : RowGrid) :
    ((calls.foldl perform g).rows, (calls.foldl perform g).cols) = (g.rows, g.cols) := by
  induction calls generalizing g with
  | nil => rfl
  | cons call rest ih => exact (ih _).trans (size_draw g call)

instance : LawfulGrid RowGrid where
  size_new _ _ _ := rfl
  size_process g data := size_foldl (callsOver g.parser data) g
  size_setSize _ _ _ := rfl

theorem draw_move (g : RowGrid) (row : Nat) :
    g.draw (moveCall row) = { g with cursor := (min row (g.rows - 1), min 0 (g.cols - 1)) } := by
  have hhoming : ¬ HomingCall (moveCall row) := by
    rintro (h | h) <;> cases h
  unfold draw
  rw [if_neg hhoming]
  rfl

theorem draw_return (g : RowGrid) :
    g.draw (.execute 0x0d) = { g with cursor := (g.cursor.1, 0) } :=
  rfl

theorem draw_feed (g : RowGrid) : g.draw (.execute 0x0a) = g.lineFeed :=
  rfl

/-- After a move up the last row is blank. -/
theorem getD_scrolled (g : RowGrid) :
    ((g.lines.take g.rows).tail).getD (g.rows - 1) [] = [] := by
  rw [List.getD_eq_getElem?_getD, List.getElem?_eq_none, Option.getD_none]
  rw [List.length_tail, List.length_take]
  exact Nat.sub_le_sub_right (Nat.min_le_left _ _) 1

instance : LawfulRegion PlainParser RowGrid where
  cell_within g row col c hc := by
    change RowGrid.cell g row col = some c at hc
    rw [cell] at hc
    split at hc
    · rename_i hin
      exact hin
    · cases hc
  unscrolled_perform _ _ _ := trivial
  size_perform := size_draw
  whole_process _ _ _ := trivial
  whole_home _ _ := trivial
  moveTo g row _ hrow := by
    have hdraw := draw_move g row
    have hlines : (g.draw (moveCall row)).lines = g.lines := by rw [hdraw]
    have hlast : min row (g.rows - 1) = row := Nat.min_eq_left (Nat.le_sub_one_of_lt hrow)
    refine ⟨cell_congr hlines (size_draw g _), ?_, fun _ => trivial⟩
    rw [hlast, Nat.zero_min] at hdraw
    exact congrArg RowGrid.cursor hdraw
  carriageReturn g := by
    have hlines : (g.draw (.execute 0x0d)).lines = g.lines := by rw [draw_return]
    exact ⟨cell_congr hlines (size_draw g _), congrArg RowGrid.cursor g.draw_return,
      fun _ => trivial⟩
  lineFeed g _ hroom := by
    have hfeed : g.draw (.execute 0x0a) = { g with cursor := (g.cursor.1 + 1, g.cursor.2) } :=
      g.draw_feed.trans (if_pos hroom)
    have hlines : (g.draw (.execute 0x0a)).lines = g.lines := by rw [hfeed]
    exact ⟨cell_congr hlines (size_draw g _), congrArg RowGrid.cursor hfeed, fun _ => trivial⟩
  scroll g _ hlast := by
    have hcursor : g.cursor.1 + 1 = g.rows := hlast
    have hfeed : g.draw (.execute 0x0a) = { g with lines := (g.lines.take g.rows).tail } :=
      g.draw_feed.trans (if_neg (Nat.not_lt_of_le hcursor.ge))
    refine ⟨(congrArg RowGrid.cursor hfeed :), fun col c hc => ?_⟩
    have hlines : (g.draw (.execute 0x0a)).lines.getD g.cursor.1 [] = [] := by
      rw [hfeed, ← Nat.add_sub_cancel g.cursor.1 1, hcursor]
      exact g.getD_scrolled
    change RowGrid.cell (g.draw (.execute 0x0a)) g.cursor.1 col = some c at hc
    rw [cell, hlines] at hc
    split at hc
    · cases hc
      rfl
    · cases hc
  attributes_below g row call hcall := by
    simp only [belowCalls, List.mem_cons, List.mem_nil_iff, or_false] at hcall
    rcases hcall with rfl | rfl | rfl
    · change (g.draw (moveCall row)).attributes = g.attributes
      rw [draw_move]
    · rfl
    · change g.lineFeed.attributes = g.attributes
      unfold lineFeed
      split <;> rfl

end RowGrid

end Server
end Rttx
