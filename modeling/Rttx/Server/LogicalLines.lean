import Mathlib.Data.List.DropRight
import Mathlib.Data.List.ReduceOption
import Rttx.Server.RenderedTokens

/-!
# The logical lines of a primary buffer

A row of the grid that is soft-wrapped continues in the next one, so the primary
buffer is a text kept in rows.  The rendering cuts the blanks at the end of every
row; where the row continues, they lie inside its line.

The history is read through windows of the height of the screen.  The grid's
documented behaviour under scrolling is a named class.

**Results.**
* `readHistory_eq`: the windows cover the history once and in order.
* `renderedLines_same`: the rendering splits into the logical lines if no row that
  continues ends in blanks; the blanks before the cursor belong to its line.
-/

namespace Rttx
namespace Server

open Kernel

universe u

section Columns

/-- What a cell is emitted as. -/
def rendered (c : Cell) : RenderedCell :=
  ⟨if c.hasContents then c.contents else " ", CellAttrs.of c⟩

/-- The columns of a row from `col` on, at most `fuel`; the second half of a wide
character holds nothing. -/
def columnsFrom (cells : Nat → Option Cell) : (fuel col : Nat) → List (Option RenderedCell)
  | 0, _ => []
  | fuel + 1, col =>
      match cells col with
      | none => []
      | some c =>
          (if c.isWideContinuation then none else some (rendered c)) ::
            columnsFrom cells fuel (col + 1)

/-- The cells of a row without the blanks at its end. -/
def shownCells (columns : List (Option RenderedCell)) : List RenderedCell :=
  columns.reduceOption.rdropWhile RenderedCell.isBlank

/-- The columns up to the last that is not blank. -/
def contentColumns (columns : List (Option RenderedCell)) : Nat :=
  (columns.rdropWhile fun
    | some c => c.isBlank
    | none => false).length

theorem readCells_eq {G : Type u} [Vt100Parser G] {screen : G} {row : Nat}
    {cells : Nat → Option Cell}
    (h : ∀ col, Vt100Parser.cell screen row col = cells col)
    (fuel col : Nat) :
    readCells screen row fuel col = (columnsFrom cells fuel col).reduceOption := by
  induction fuel generalizing col with
  | zero => rfl
  | succ fuel ih =>
      rw [readCells, columnsFrom, h col]
      cases cells col with
      | none => rfl
      | some c =>
          simp only [ih]
          by_cases hwide : c.isWideContinuation = true
          · rw [if_pos hwide, if_pos hwide, List.reduceOption_cons_of_none]
          · rw [if_neg hwide, if_neg hwide, List.reduceOption_cons_of_some]
            rfl

/-- No cell takes less than a column. -/
theorem length_shownCells_le (columns : List (Option RenderedCell)) :
    (shownCells columns).length ≤ contentColumns columns := by
  induction columns using List.reverseRecOn with
  | nil => exact Nat.le_refl _
  | append_singleton columns column ih =>
      rw [shownCells, contentColumns, List.reduceOption_append, List.rdropWhile_concat]
      cases column with
      | none =>
          have hprefix := (List.rdropWhile_prefix RenderedCell.isBlank
            (l := columns.reduceOption)).length_le
          have hlen := List.reduceOption_length_le columns
          simp only [List.reduceOption_singleton, Option.toList_none, List.append_nil,
            Bool.false_eq_true, if_false, List.length_append, List.length_singleton]
          omega
      | some c =>
          simp only [List.reduceOption_singleton, Option.toList_some, List.rdropWhile_concat]
          by_cases hblank : c.isBlank = true
          · rw [if_pos hblank, if_pos hblank]
            exact ih
          · have hlen := List.reduceOption_length_le columns
            rw [if_neg hblank, if_neg hblank]
            simp only [List.length_append, List.length_singleton]
            omega

/-- Without wide characters each cell takes a column. -/
theorem length_shownCells_eq {columns : List (Option RenderedCell)}
    (h : none ∉ columns) :
    (shownCells columns).length = contentColumns columns := by
  induction columns using List.reverseRecOn with
  | nil => rfl
  | append_singleton columns column ih =>
      rw [List.mem_append, not_or] at h
      rw [shownCells, contentColumns, List.reduceOption_append, List.rdropWhile_concat]
      cases column with
      | none => exact absurd (List.mem_singleton_self none) h.2
      | some c =>
          simp only [List.reduceOption_singleton, Option.toList_some, List.rdropWhile_concat]
          by_cases hblank : c.isBlank = true
          · rw [if_pos hblank, if_pos hblank]
            exact ih h.1
          · have hall : columns.reduceOption.length = columns.length :=
              List.reduceOption_length_eq_iff.mpr fun column hcolumn =>
                Option.isSome_iff_ne_none.mpr fun hnone => h.1 (hnone ▸ hcolumn)
            rw [if_neg hblank, if_neg hblank]
            simp only [List.length_append, List.length_singleton]
            omega

end Columns

section Scrolling

variable {G : Type u} [Vt100Parser G]

open Vt100Parser

/-- The documented behaviour of the grid under scrolling: the offset is cut to the
length of the history, the view of a scrolled grid starts in the history, and
only the last offset counts. -/
class ScrolledGrid (G : Type u) [Vt100Parser G] where
  historyLen : G → Nat
  historyCell : G → (row col : Nat) → Option Cell
  historyWrapped : G → Nat → Bool
  historyLen_le : ∀ g : G, historyLen g ≤ usizeMax
  scrollback_set : ∀ (g : G) (offset : Nat),
    scrollback (setScrollback g offset) = min offset (historyLen g)
  size_set : ∀ (g : G) (offset : Nat), size (setScrollback g offset) = size g
  set_set : ∀ (g : G) (first offset : Nat),
    setScrollback (setScrollback g first) offset = setScrollback g offset
  cell_set : ∀ (g : G) (offset row col : Nat),
    offset ≤ historyLen g →
    row < min offset (size g).1 →
    cell (setScrollback g offset) row col = historyCell g (historyLen g - offset + row) col
  wrapped_set : ∀ (g : G) (offset row : Nat),
    offset ≤ historyLen g →
    row < min offset (size g).1 →
    rowWrapped (setScrollback g offset) row = historyWrapped g (historyLen g - offset + row)

variable [ScrolledGrid G]

open ScrolledGrid

/-- A row of the history, from the oldest. -/
def historyColumns (g : G) (row : Nat) : List (Option RenderedCell) :=
  columnsFrom (historyCell g row) u16Max 0

def historyRow (g : G) (row : Nat) : RenderedRow :=
  ⟨shownCells (historyColumns g row), historyWrapped g row⟩

theorem read_history {g : G} {offset row : Nat}
    (hoffset : offset ≤ historyLen g)
    (hrow : row < min offset (size g).1) :
    RenderedRow.read (setScrollback g offset) row none =
      historyRow g (historyLen g - offset + row) := by
  have hcells := readCells_eq (fun col => cell_set g offset row col hoffset hrow) u16Max 0
  rw [RenderedRow.read, Option.getD_none, hcells, wrapped_set g offset row hoffset hrow]
  rfl

/-- **The windows cover the history once and in order.** -/
theorem readHistory_eq {g : G}
    (hrows : 0 < (size g).1)
    {fuel offset : Nat}
    (hfuel : offset ≤ fuel)
    (hoffset : offset ≤ historyLen g)
    (before : Nat) :
    (readHistory (size g).1 fuel offset (setScrollback g before)).1 =
        (List.range' (historyLen g - offset) offset).map (historyRow g) ∧
      ∃ last, (readHistory (size g).1 fuel offset (setScrollback g before)).2 =
        setScrollback g last := by
  induction fuel generalizing offset before with
  | zero =>
      obtain rfl : offset = 0 := by omega
      exact ⟨rfl, before, rfl⟩
  | succ fuel ih =>
      rw [readHistory]
      by_cases hdone : offset = 0
      · subst hdone
        rw [if_pos rfl]
        exact ⟨rfl, before, rfl⟩
      · rw [if_neg hdone]
        simp only [set_set]
        have hwindow : 0 < min offset (size g).1 := by omega
        have hless : offset - min offset (size g).1 ≤ fuel := by omega
        obtain ⟨hrest, last, hlast⟩ := ih hless (by omega) offset
        refine ⟨?_, last, hlast⟩
        have hread : (List.range (min offset (size g).1)).map
              (fun row => RenderedRow.read (setScrollback g offset) row none) =
            (List.range (min offset (size g).1)).map
              (fun row => historyRow g (historyLen g - offset + row)) := by
          refine List.map_congr_left fun row hrow => ?_
          exact read_history hoffset (List.mem_range.mp hrow)
        have hshift : (List.range (min offset (size g).1)).map
              (fun row => historyRow g (historyLen g - offset + row)) =
            (List.range' (historyLen g - offset) (min offset (size g).1)).map (historyRow g) := by
          rw [List.range'_eq_map_range, List.map_map]
          rfl
        have hnext : historyLen g - (offset - min offset (size g).1) =
            historyLen g - offset + min offset (size g).1 := by omega
        have hsplit : min offset (size g).1 + (offset - min offset (size g).1) = offset := by omega
        rw [hread, hshift, hrest, hnext, ← List.map_append, List.range'_append_1, hsplit]

end Scrolling

section Rows

variable {G : Type u} [Vt100Parser G] [ScrolledGrid G]

open Vt100Parser ScrolledGrid

/-- The grid as the rendering of the visible rows finds it. -/
def unscrolled (g : G) : G :=
  setScrollback g 0

/-- The columns of a visible row. -/
def screenColumns (g : G) (row : Nat) : List (Option RenderedCell) :=
  columnsFrom (cell (unscrolled g) row) (size g).2 0

/-- The history as rows of a text. -/
def historyRows (g : G) : List (WrappedRow RenderedCell) :=
  (List.range (historyLen g)).map fun row =>
    ⟨(historyColumns g row).reduceOption, shownCells (historyColumns g row),
      historyWrapped g row⟩

/-- The row of the cursor that a rendering places. -/
def placedRow (g : G) : CursorPlacement → Option Nat
  | .asIs => some (cursorPosition (unscrolled g)).1
  | .afterContent => none

/-- The visible rows as rows of a text; the blanks before a cursor that is placed
belong to its row. -/
def screenRow (g : G) (cursor : CursorPlacement) (row : Nat) : WrappedRow RenderedCell where
  full := (screenColumns g row).reduceOption
  shown := shownCells (screenColumns g row) ++
    if placedRow g cursor = some row then
      List.replicate ((cursorPosition (unscrolled g)).2 - contentColumns (screenColumns g row))
        blankCell
    else []
  wrapped := rowWrapped (unscrolled g) row

/-- The primary buffer as rows of a text. -/
def primaryRows (g : G) (cursor : CursorPlacement) : List (WrappedRow RenderedCell) :=
  historyRows g ++ (List.range (size g).1).map (screenRow g cursor)

/-- Where the cursor is placed past the content of its row, that row has no wide
characters. -/
def CursorOnCells (g : G) (cursor : CursorPlacement) : Prop :=
  ∀ row, placedRow g cursor = some row →
    (cursorPosition (unscrolled g)).2 ≤ (shownCells (screenColumns g row)).length ∨
      none ∉ screenColumns g row

/-- The visible rows as they are read. -/
def readRow (g : G) (row : Nat) : RenderedRow :=
  ⟨shownCells (screenColumns g row), rowWrapped (unscrolled g) row⟩

omit [ScrolledGrid G] in
theorem read_screen (g : G) (row : Nat) :
    RenderedRow.read (unscrolled g) row (some (size g).2) = readRow g row := by
  have hcells : readCells (unscrolled g) row (size g).2 0 = (screenColumns g row).reduceOption :=
    readCells_eq (fun _ => rfl) (size g).2 0
  rw [RenderedRow.read, Option.getD_some, hcells]
  rfl

theorem placedRows_map (cursorRow : Option Nat) (cursorCol : Nat) (f : Nat → RenderedRow)
    (index n : Nat) :
    placedRows cursorRow cursorCol index ((List.range' index n).map f) =
      (List.range' index n).map
        (fun row => if cursorRow = some row then (f row).upTo cursorCol else f row) := by
  induction n generalizing index with
  | zero => rfl
  | succ n ih =>
      rw [List.range'_succ, List.map_cons, placedRows, ih, List.map_cons]

omit [ScrolledGrid G] in
/-- A row with the blanks up to the cursor is written as the row of the text. -/
theorem lineTokens_placed {g : G} {cursor : CursorPlacement}
    (hcursor : CursorOnCells g cursor)
    (row : Nat) :
    lineTokens (if placedRow g cursor = some row then
        (readRow g row).upTo (cursorPosition (unscrolled g)).2 else readRow g row) =
      (screenRow g cursor row).tokens := by
  rw [lineTokens, rowTokens_none, WrappedRow.tokens, screenRow]
  by_cases hrow : placedRow g cursor = some row
  · have hcount : (cursorPosition (unscrolled g)).2 - (shownCells (screenColumns g row)).length =
        (cursorPosition (unscrolled g)).2 - contentColumns (screenColumns g row) := by
      have hle := length_shownCells_le (screenColumns g row)
      rcases hcursor row hrow with hwithin | hnarrow
      · omega
      · rw [length_shownCells_eq hnarrow]
    simp only [if_pos hrow, RenderedRow.upTo, readRow, hcount]
  · simp only [if_neg hrow, readRow, List.append_nil]

/-- What is past the last row with content has none. -/
theorem forall_mem_drop_rdropWhile {α : Type} {p : α → Bool} (items : List α) {n : Nat}
    (h : (items.rdropWhile p).length ≤ n) :
    ∀ a ∈ items.drop n, p a = true := by
  intro a ha
  have hsplit := List.rdropWhile_append_rtakeWhile (p := p) (l := items)
  have hmem : a ∈ items.rtakeWhile p := by
    rw [← hsplit, List.drop_append, List.drop_of_length_le h, List.nil_append] at ha
    exact List.mem_of_mem_drop ha
  exact List.mem_rtakeWhile_imp hmem

/-- The rendering keeps the visible rows down to the last that has content or the
cursor. -/
theorem renderTokens_kept (g : G) (cursor : CursorPlacement) (history : List RenderedRow) :
    ∃ keep ≤ (size g).1,
      (∀ row, keep ≤ row → row < (size g).1 →
        shownCells (screenColumns g row) = [] ∧ placedRow g cursor ≠ some row) ∧
      renderTokens history (unscrolled g) cursor =
        history.flatMap lineTokens ++
          screenTokens cursor (placedRow g cursor) (cursorPosition (unscrolled g)).2 0
            ((List.range' 0 keep).map (readRow g)) := by
  have hsize : size (unscrolled g) = size g := size_set g 0
  have hlines : (List.range (size (unscrolled g)).1).map
        (fun row => RenderedRow.read (unscrolled g) row (some (size (unscrolled g)).2)) =
      (List.range' 0 (size g).1).map (readRow g) := by
    rw [hsize, List.range_eq_range']
    exact List.map_congr_left fun row _ => read_screen g row
  have hblank : ∀ n, contentRows ((List.range' 0 (size g).1).map (readRow g)) ≤ n →
      ∀ row, n ≤ row → row < (size g).1 → shownCells (screenColumns g row) = [] := by
    intro n hn row hrow hlast
    have hmem : readRow g row ∈ ((List.range' 0 (size g).1).map (readRow g)).drop n := by
      rw [← List.map_drop, List.drop_range']
      exact List.mem_map.mpr ⟨row, List.mem_range'_1.mpr (by omega), rfl⟩
    have hcount : ((((List.range' 0 (size g).1).map (readRow g)).rdropWhile
        (fun r => r.cells.isEmpty))).length ≤ n := by
      rw [List.rdropWhile, List.length_reverse]
      exact hn
    have hempty := forall_mem_drop_rdropWhile _ hcount _ hmem
    exact List.isEmpty_iff.mp hempty
  have htake : ∀ n, ((List.range' 0 (size g).1).map (readRow g)).take n =
      (List.range' 0 (min n (size g).1)).map (readRow g) := by
    intro n
    rw [← List.map_take, ← List.range_eq_range', ← List.range_eq_range', List.take_range]
  cases cursor with
  | asIs =>
      refine ⟨min (max (contentRows ((List.range' 0 (size g).1).map (readRow g)))
        ((cursorPosition (unscrolled g)).1 + 1)) (size g).1, Nat.min_le_right _ _, ?_, ?_⟩
      · intro row hkeep hrow
        have hcontent := Nat.le_max_left
          (contentRows ((List.range' 0 (size g).1).map (readRow g)))
          ((cursorPosition (unscrolled g)).1 + 1)
        refine ⟨hblank _ hcontent row (by omega) hrow, ?_⟩
        intro heq
        have hcursor : (cursorPosition (unscrolled g)).1 = row := Option.some.inj heq
        omega
      · rw [← htake, renderTokens]
        simp only [hlines]
        rfl
  | afterContent =>
      refine ⟨min (contentRows ((List.range' 0 (size g).1).map (readRow g))) (size g).1,
        Nat.min_le_right _ _, ?_, ?_⟩
      · intro row hkeep hrow
        exact ⟨hblank _ (Nat.le_refl _) row (by omega) hrow, by simp [placedRow]⟩
      · rw [← htake, renderTokens]
        simp only [hlines]
        rfl

/-- The tokens of the rendering are those of the rows that are kept, but for an end
of line at the end. -/
theorem renderTokens_rows {g : G} {cursor : CursorPlacement}
    (hcursor : CursorOnCells g cursor) :
    ∃ keep ≤ (size g).1, ∃ tail,
      (∀ row, keep ≤ row → row < (size g).1 → (screenRow g cursor row).shown = []) ∧
      (tail = [] ∨ tail = [LineToken.lineEnd]) ∧
      unmarked (renderTokens ((List.range (historyLen g)).map (historyRow g)) (unscrolled g)
          cursor) ++ tail =
        (historyRows g ++ (List.range' 0 keep).map (screenRow g cursor)).flatMap
          WrappedRow.tokens := by
  obtain ⟨keep, hkeep, hblank, htokens⟩ := renderTokens_kept g cursor
    ((List.range (historyLen g)).map (historyRow g))
  obtain ⟨tail, htail, hscreen⟩ := screenTokens_rows cursor (placedRow g cursor)
    (cursorPosition (unscrolled g)).2 0 ((List.range' 0 keep).map (readRow g))
  have hplaced : (placedRows (placedRow g cursor) (cursorPosition (unscrolled g)).2 0
        ((List.range' 0 keep).map (readRow g))).flatMap lineTokens =
      ((List.range' 0 keep).map (screenRow g cursor)).flatMap WrappedRow.tokens := by
    rw [placedRows_map, List.flatMap_map, List.flatMap_map]
    exact List.flatMap_congr fun row _ => lineTokens_placed hcursor row
  have hhistory : ((List.range (historyLen g)).map (historyRow g)).flatMap lineTokens =
      (historyRows g).flatMap WrappedRow.tokens := by
    rw [historyRows, List.flatMap_map, List.flatMap_map]
    refine List.flatMap_congr fun row _ => ?_
    rw [lineTokens, rowTokens_none]
    rfl
  refine ⟨keep, hkeep, tail, ?_, htail, ?_⟩
  · intro row hrow hlast
    obtain ⟨hcells, hnot⟩ := hblank row hrow hlast
    rw [screenRow, hcells, if_neg hnot]
    rfl
  · rw [htokens, unmarked_append, unmarked_lineTokens, List.append_assoc, hscreen, hplaced,
      hhistory, List.flatMap_append]

/-- **The rendering splits into the lines of the text** if no row that continues
ends in blanks. -/
theorem tokenLines_same {g : G} {cursor : CursorPlacement}
    (hgaps : NoGaps (primaryRows g cursor))
    (hcursor : CursorOnCells g cursor) :
    SameLines
      (tokenLines (renderTokens ((List.range (historyLen g)).map (historyRow g))
        (unscrolled g) cursor))
      (logicalLines (primaryRows g cursor)) := by
  obtain ⟨keep, hkeep, tail, hblank, htail, hall⟩ := renderTokens_rows hcursor
  have hsplit : primaryRows g cursor =
      (historyRows g ++ (List.range' 0 keep).map (screenRow g cursor)) ++
        (List.range' keep ((size g).1 - keep)).map (screenRow g cursor) := by
    have hrange : List.range (size g).1 =
        List.range' 0 keep ++ List.range' keep ((size g).1 - keep) := by
      have happend := List.range'_append_1 (s := 0) (m := keep) (n := (size g).1 - keep)
      rw [Nat.zero_add, Nat.add_sub_of_le hkeep] at happend
      rw [List.range_eq_range', happend]
    rw [primaryRows, hrange, List.map_append, List.append_assoc]
  have hbelow : ∀ row ∈ (List.range' keep ((size g).1 - keep)).map (screenRow g cursor),
      row.shown = [] := by
    intro row hrow
    obtain ⟨n, hn, rfl⟩ := List.mem_map.mp hrow
    have hn' := List.mem_range'_1.mp hn
    exact hblank n hn'.1 (by omega)
  have hlines : SameLines (tokenLines (unmarked (renderTokens
        ((List.range (historyLen g)).map (historyRow g)) (unscrolled g) cursor)))
      (shownLines (historyRows g ++ (List.range' 0 keep).map (screenRow g cursor))) := by
    rw [← tokenLines_rows (μ := CursorMark), ← hall]
    rcases htail with rfl | rfl
    · rw [List.append_nil]
      rfl
    · rw [tokenLines_snoc_lineEnd]
      exact (SameLines.append_nil _).symm
  have hshown := shownLines_append_blank
    (historyRows g ++ (List.range' 0 keep).map (screenRow g cursor)) hbelow
  rw [← hsplit] at hshown
  rw [tokenLines_unmarked] at hlines
  exact (hlines.trans hshown.symm).trans (shownLines_same hgaps)

end Rows

section Text

variable {G : Type u} [Vt100Parser G] [ScrolledGrid G]

open Vt100Parser ScrolledGrid

/-- The documented content of the grid's cells: printable characters. -/
class PrintedCells (G : Type u) [Vt100Parser G] [ScrolledGrid G] : Prop where
  printed_screen : ∀ (g : G) (row col : Nat) (c : Cell),
    cell g row col = some c → Printed (bytesOf c.contents)
  printed_history : ∀ (g : G) (row col : Nat) (c : Cell),
    historyCell g row col = some c → Printed (bytesOf c.contents)

/-- The text of the lines. -/
def linesText (lines : List (List RenderedCell)) : List Bytes :=
  lines.map cellsText

/-- The lines of a rendering of the primary buffer, its sequences left out. -/
def renderedLines (g : G) (cursor : CursorPlacement) : List Bytes :=
  splitCrLf (strip .text (renderPrimaryBuffer g cursor).1)

/-- Every cell prints no control characters. -/
def PrintedList (cells : List RenderedCell) : Prop :=
  ∀ c ∈ cells, Printed (bytesOf c.text)

theorem printed_columns {cells : Nat → Option Cell}
    (h : ∀ col c, cells col = some c → Printed (bytesOf c.contents))
    (fuel col : Nat) :
    PrintedList (columnsFrom cells fuel col).reduceOption := by
  induction fuel generalizing col with
  | zero => exact List.forall_mem_nil _
  | succ fuel ih =>
      rw [columnsFrom]
      cases hcell : cells col with
      | none => exact List.forall_mem_nil _
      | some c =>
          by_cases hwide : c.isWideContinuation = true
          · simp only [if_pos hwide, List.reduceOption_cons_of_none]
            exact ih _
          · simp only [if_neg hwide, List.reduceOption_cons_of_some]
            refine List.forall_mem_cons.mpr ⟨?_, ih _⟩
            by_cases hcontents : c.hasContents = true
            · simp only [rendered, if_pos hcontents]
              exact h col c hcell
            · simp only [rendered, if_neg hcontents]
              exact (by decide : Printed (bytesOf " "))

theorem printed_shown {columns : List (Option RenderedCell)}
    (h : PrintedList columns.reduceOption) :
    PrintedList (shownCells columns) :=
  fun c hc => h c ((List.rdropWhile_prefix _ _).subset hc)

variable [PrintedCells G]

theorem printed_renderTokens {g : G} {cursor : CursorPlacement}
    (hcursor : CursorOnCells g cursor) :
    PrintedTokens (renderTokens ((List.range (historyLen g)).map (historyRow g)) (unscrolled g)
      cursor) := by
  obtain ⟨keep, _, tail, _, _, hall⟩ := renderTokens_rows hcursor
  rintro token htoken c rfl
  have hmem := List.mem_append_left tail (item_mem_unmarked.mpr htoken)
  rw [hall, List.mem_flatMap] at hmem
  obtain ⟨row, hrow, hc⟩ := hmem
  have hshown := WrappedRow.item_mem_tokens.mp hc
  rcases List.mem_append.mp hrow with hrow | hrow
  · obtain ⟨n, _, rfl⟩ := List.mem_map.mp hrow
    exact printed_shown (printed_columns (PrintedCells.printed_history g n) _ _) c hshown
  · obtain ⟨n, _, rfl⟩ := List.mem_map.mp hrow
    rcases List.mem_append.mp hshown with hcell | hblank
    · exact printed_shown (printed_columns (PrintedCells.printed_screen _ n) _ _) c hcell
    · have hc : c = blankCell := by
        split at hblank
        · exact List.eq_of_mem_replicate hblank
        · exact absurd hblank List.not_mem_nil
      rw [hc]
      exact (by decide : Printed (bytesOf " "))

omit [PrintedCells G] in
/-- The history is read in full before the visible rows. -/
theorem renderPrimaryBuffer_eq {g : G}
    (hrows : 0 < (size g).1)
    (cursor : CursorPlacement) :
    (renderPrimaryBuffer g cursor).1 =
      renderRows ((List.range (historyLen g)).map (historyRow g)) (unscrolled g) cursor := by
  have hlen : scrollback (setScrollback g usizeMax) = historyLen g := by
    rw [scrollback_set, Nat.min_eq_right (historyLen_le g)]
  obtain ⟨hhistory, last, hlast⟩ := readHistory_eq hrows (Nat.le_refl (historyLen g))
    (Nat.le_refl _) usizeMax
  rw [Nat.sub_self, ← List.range_eq_range'] at hhistory
  simp only [renderPrimaryBuffer, hlen, hhistory, hlast, set_set]
  rfl

/-- **The rendering splits into the logical lines**, at the width of any client, if no
row that continues ends in blanks. -/
theorem renderedLines_same (g : G) (cursor : CursorPlacement)
    (hrows : 0 < (size g).1)
    (hgaps : NoGaps (primaryRows g cursor))
    (hcursor : CursorOnCells g cursor) :
    SameLines (renderedLines g cursor) (linesText (logicalLines (primaryRows g cursor))) ∧
      ∀ client : Wrapping UInt8,
        SameLines (logicalLines (client.layOut (renderedLines g cursor)))
          (linesText (logicalLines (primaryRows g cursor))) := by
  have hlines : SameLines (renderedLines g cursor)
      (linesText (logicalLines (primaryRows g cursor))) := by
    rw [renderedLines, renderPrimaryBuffer_eq hrows, renderRows_eq,
      stripped_lines (printed_renderTokens hcursor)]
    exact (tokenLines_same hgaps hcursor).map rfl
  refine ⟨hlines, fun client => ?_⟩
  rw [client.logicalLines_layOut]
  exact hlines

end Text

section Sample

/-- A row as the grid keeps it; its cells are printed. -/
structure KeptRow where
  cells : List { c : Cell // Printed (bytesOf c.contents) }
  wrapped : Bool

/-- A grid at rest: what is on the screen, what has scrolled off, and the offset of
the view. -/
structure KeptGrid where
  rows : Nat
  cols : Nat
  screen : List KeptRow
  history : List KeptRow
  cursor : Nat × Nat
  offset : Nat
  history_fits : history.length ≤ usizeMax

namespace KeptGrid

/-- The rows in view. -/
def visibleRows (g : KeptGrid) : List KeptRow :=
  (g.history.drop (g.history.length - g.offset)).take g.rows ++
    g.screen.take (g.rows - g.offset)

def cellAt (rows : List KeptRow) (row col : Nat) : Option Cell :=
  rows[row]?.bind fun r => r.cells[col]?.map Subtype.val

def wrappedAt (rows : List KeptRow) (row : Nat) : Bool :=
  (rows[row]?.map KeptRow.wrapped).getD false

instance : Vt100Parser KeptGrid where
  new := fun rows cols _ => ⟨rows, cols, [], [], (0, 0), 0, Nat.zero_le _⟩
  process := fun g _ => g
  setSize := fun g rows cols => { g with rows := rows, cols := cols }
  setScrollback := fun g offset => { g with offset := min offset g.history.length }
  size := fun g => (g.rows, g.cols)
  scrollback := fun g => g.offset
  alternateScreen := fun _ => false
  cursorPosition := fun g => g.cursor
  cell := fun g row col => cellAt g.visibleRows row col
  rowWrapped := fun g row => wrappedAt g.visibleRows row
  contentsFormatted := fun _ => []
  applicationKeypad := fun _ => false
  applicationCursor := fun _ => false
  bracketedPaste := fun _ => false
  mouseProtocolMode := fun _ => .none
  mouseProtocolEncoding := fun _ => .default
  hideCursor := fun _ => false

theorem visibleRows_scrolled (g : KeptGrid) {offset row : Nat}
    (hoffset : offset ≤ g.history.length)
    (hrow : row < min offset g.rows) :
    ({ g with offset := min offset g.history.length } : KeptGrid).visibleRows[row]? =
      g.history[g.history.length - offset + row]? := by
  have hlen : row <
      ((g.history.drop (g.history.length - min offset g.history.length)).take g.rows).length := by
    rw [List.length_take, List.length_drop]
    omega
  rw [visibleRows, List.getElem?_append_left hlen, List.getElem?_take_of_lt (by omega),
    List.getElem?_drop, Nat.min_eq_left hoffset]

instance : ScrolledGrid KeptGrid where
  historyLen := fun g => g.history.length
  historyCell := fun g row col => cellAt g.history row col
  historyWrapped := fun g row => wrappedAt g.history row
  historyLen_le := fun g => g.history_fits
  scrollback_set := fun _ _ => rfl
  size_set := fun _ _ => rfl
  set_set := fun _ _ _ => rfl
  cell_set := by
    intro g offset row col hoffset hrow
    exact congrArg (fun r => r.bind fun r => r.cells[col]?.map Subtype.val)
      (g.visibleRows_scrolled hoffset hrow)
  wrapped_set := by
    intro g offset row hoffset hrow
    exact congrArg (fun r => (r.map KeptRow.wrapped).getD false)
      (g.visibleRows_scrolled hoffset hrow)

theorem printed_cellAt {rows : List KeptRow} {row col : Nat} {c : Cell}
    (h : cellAt rows row col = some c) :
    Printed (bytesOf c.contents) := by
  obtain ⟨kept, _, hcell⟩ := Option.bind_eq_some_iff.mp h
  obtain ⟨printed, _, rfl⟩ := Option.map_eq_some_iff.mp hcell
  exact printed.2

instance : PrintedCells KeptGrid where
  printed_screen := fun _ _ _ _ => printed_cellAt
  printed_history := fun _ _ _ _ => printed_cellAt

/-- A printed cell of default attributes. -/
def plainCell (c : Char) : Cell :=
  ⟨String.singleton c, false, .default, .default, false, false, false, false, false⟩

/-- A text over the end of a row of two columns, with the cursor on the line below. -/
def wrappedText : KeptGrid where
  rows := 3
  cols := 4
  screen := [⟨[⟨plainCell 'g', by decide⟩], false⟩, ⟨[], false⟩, ⟨[], false⟩]
  history := [⟨[⟨plainCell 'a', by decide⟩, ⟨plainCell 'b', by decide⟩], true⟩]
  cursor := (1, 2)
  offset := 0
  history_fits := by decide

/-- A prompt with the cursor past it. -/
def prompt : KeptGrid where
  rows := 1
  cols := 4
  screen := [⟨[⟨plainCell '$', by decide⟩, ⟨plainCell ' ', by decide⟩], false⟩]
  history := []
  cursor := (0, 2)
  offset := 0
  history_fits := by decide

end KeptGrid

instance {α : Type u} [DecidableEq α] (first second : List (List α)) :
    Decidable (SameLines first second) :=
  inferInstanceAs (Decidable (trimEnd first = trimEnd second))

example : renderedLines KeptGrid.wrappedText .asIs = [bytesOf "abg", bytesOf "  "] := by
  decide +kernel

theorem renderedLines_same_wrapped :
    SameLines (renderedLines KeptGrid.wrappedText .asIs)
        (linesText (logicalLines (primaryRows KeptGrid.wrappedText .asIs))) ∧
      ∀ client : Wrapping UInt8,
        SameLines (logicalLines (client.layOut (renderedLines KeptGrid.wrappedText .asIs)))
          (linesText (logicalLines (primaryRows KeptGrid.wrappedText .asIs))) := by
  have hcursor : CursorOnCells KeptGrid.wrappedText .asIs := by
    rintro row hrow
    obtain rfl : 1 = row := Option.some.inj hrow
    exact Or.inr (by decide +kernel)
  have hgaps : NoGaps (primaryRows KeptGrid.wrappedText .asIs) :=
    ⟨fun _ _ => by decide +kernel, nofun, nofun, nofun, trivial⟩
  exact renderedLines_same KeptGrid.wrappedText .asIs (by decide) hgaps hcursor

/-- The rendering of a prompt has the blank before the cursor, which is none of the
row's content. -/
theorem renderedLines_keep_blank :
    ¬ SameLines (renderedLines KeptGrid.prompt .asIs)
      (linesText (logicalLines (primaryRows KeptGrid.prompt .afterContent))) := by
  decide +kernel

end Sample

end Server
end Rttx
