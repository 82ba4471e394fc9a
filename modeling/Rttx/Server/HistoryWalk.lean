import Rttx.Kernel.Loops
import Rttx.Server.LogicalLines

/-!
# The walk through the history

The history is read through the view of the scrolled grid, from the oldest row, a window
of the height of the screen at a time.  Here the walk is the loop of the source with its
turns one by one, and with the rows that it reads on record: a row of the view is known
by its position in the buffer, which begins with the history and goes on with the screen.

**Results.**
* `turn_walked`: a turn reads the next rows of the history and leaves fewer.
* `renderPrimaryBuffer_walks`: the loop ends, with every row of the history read once, in
  order, and no other row; the rendering is of these rows, and leaves the view unscrolled.
* `not_ends_without_rows`: on a screen without rows it would not end.
-/

namespace Rttx
namespace Server

open Kernel

universe u

section Walk

variable {G : Type u} [Vt100Parser G]

open Vt100Parser

/-- The variables of the loop, and the positions that it has read. -/
structure HistoryWalk (G : Type u) where
  offset : Nat
  grid : G
  history : List RenderedRow
  positions : List Nat

namespace HistoryWalk

/-- Before the loop: the view is scrolled back as far as it goes. -/
def start (g : G) : HistoryWalk G where
  offset := scrollback (setScrollback g usizeMax)
  grid := setScrollback g usizeMax
  history := []
  positions := []

/-- A turn of the loop; the position of a row of the view counts from where the view
starts. -/
def turn (historyLen screenRows : Nat) (w : HistoryWalk G) : Option (HistoryWalk G) :=
  if w.offset = 0 then
    none
  else
    let grid := setScrollback w.grid w.offset
    let window := min w.offset screenRows
    some
      { offset := w.offset - window
        grid := grid
        history := w.history ++
          (List.range window).map (fun row => RenderedRow.read grid row none)
        positions := w.positions ++
          (List.range window).map (fun row => historyLen - scrollback grid + row) }

/-- The loop over the history of a grid. -/
def walk (g : G) : HistoryWalk G → Option (HistoryWalk G) :=
  turn (start g).offset (size g).1

theorem turn_eq_none {historyLen screenRows : Nat} {w : HistoryWalk G} :
    w.turn historyLen screenRows = none ↔ w.offset = 0 := by
  unfold turn
  split_ifs with hdone <;> simp [hdone]

/-- On a screen without rows the loop does not end, but for an empty history. -/
theorem not_ends_without_rows {historyLen : Nat} {w last : HistoryWalk G}
    (h : w.offset ≠ 0) :
    ¬ Ends (turn historyLen 0) w last := by
  refine not_ends_of_invariant (I := fun w => w.offset ≠ 0) ?_ h
  intro w hw
  exact ⟨_, if_neg hw, by simpa using hw⟩

variable [ScrolledGrid G]

open ScrolledGrid

/-- What the loop has read when `offset` rows of the history are left. -/
structure Walked (g : G) (w : HistoryWalk G) : Prop where
  offset_le : w.offset ≤ historyLen g
  scrolled : ∃ before, w.grid = setScrollback g before
  positions : w.positions = List.range (historyLen g - w.offset)
  history : w.history = (List.range (historyLen g - w.offset)).map (historyRow g)

theorem start_offset (g : G) : (start g).offset = historyLen g := by
  rw [start, scrollback_set, Nat.min_eq_right (historyLen_le g)]

theorem start_walked (g : G) : Walked g (start g) where
  offset_le := Nat.le_of_eq (start_offset g)
  scrolled := ⟨usizeMax, rfl⟩
  positions := by
    rw [start_offset, Nat.sub_self]
    rfl
  history := by
    rw [start_offset, Nat.sub_self]
    rfl

/-- A window continues what has been read. -/
theorem range_append_window {offset window n : Nat}
    (hwindow : window ≤ offset)
    (hoffset : offset ≤ n) :
    List.range (n - offset) ++ (List.range window).map (fun row => n - offset + row) =
      List.range (n - (offset - window)) := by
  have hlen : n - (offset - window) = n - offset + window := by omega
  rw [hlen, List.range_add]

/-- **A turn reads the next rows of the history and leaves fewer.** -/
theorem turn_walked {g : G} {w w' : HistoryWalk G}
    (hrows : 0 < (size g).1)
    (h : Walked g w)
    (hturn : walk g w = some w') :
    Walked g w' ∧ w'.offset < w.offset := by
  obtain ⟨before, hgrid⟩ := h.scrolled
  have hscroll : setScrollback w.grid w.offset = setScrollback g w.offset := by
    rw [hgrid, set_set]
  have hview : scrollback (setScrollback g w.offset) = w.offset := by
    rw [scrollback_set, Nat.min_eq_left h.offset_le]
  have hwindow : min w.offset (size g).1 ≤ w.offset := Nat.min_le_left _ _
  have hrange := range_append_window hwindow h.offset_le
  have hread : ∀ row ∈ List.range (min w.offset (size g).1),
      RenderedRow.read (setScrollback g w.offset) row none =
        historyRow g (historyLen g - w.offset + row) :=
    fun row hrow => read_history h.offset_le (List.mem_range.mp hrow)
  unfold walk turn at hturn
  split_ifs at hturn with hdone
  cases hturn
  simp only [hscroll, hview, start_offset]
  refine ⟨⟨?_, ⟨w.offset, rfl⟩, ?_, ?_⟩, by omega⟩
  · exact Nat.le_trans (Nat.sub_le _ _) h.offset_le
  · rw [h.positions]
    exact hrange
  · rw [h.history, List.map_congr_left hread, ← hrange, List.map_append, List.map_map]
    rfl

end HistoryWalk

variable [ScrolledGrid G]

open ScrolledGrid HistoryWalk

/-- The rendering leaves the view unscrolled. -/
theorem renderPrimaryBuffer_grid {g : G}
    (hrows : 0 < (size g).1)
    (cursor : CursorPlacement) :
    (renderPrimaryBuffer g cursor).2 = unscrolled g := by
  have hlen : scrollback (setScrollback g usizeMax) = historyLen g := start_offset g
  obtain ⟨_, last, hlast⟩ := readHistory_eq hrows (Nat.le_refl (historyLen g))
    (Nat.le_refl _) usizeMax
  simp only [renderPrimaryBuffer, hlen, hlast, set_set]
  rfl

/-- **The walk through the history ends**: it has read the position of each row of the
history once, from the oldest, and no position of the screen; the rendering is of the rows
it has read, and the view is back where it does not show the history. -/
theorem renderPrimaryBuffer_walks {g : G}
    (hrows : 0 < (size g).1)
    (cursor : CursorPlacement) :
    ∃ last, Ends (walk g) (start g) last ∧
      (∀ other, Ends (walk g) (start g) other → other = last) ∧
      last.positions = List.range (historyLen g) ∧
      last.history = (List.range (historyLen g)).map (historyRow g) ∧
      renderPrimaryBuffer g cursor =
        (renderRows last.history (setScrollback last.grid 0) cursor, setScrollback last.grid 0) ∧
      scrollback (renderPrimaryBuffer g cursor).2 = 0 := by
  obtain ⟨last, hends, hwalked, hleft⟩ := ends_of_measure (I := Walked g)
    HistoryWalk.offset (fun _ _ h hturn => turn_walked hrows h hturn)
    (start_walked g)
  have hdone : last.offset = 0 := turn_eq_none.mp hleft
  have hpositions := hwalked.positions
  have hhistory := hwalked.history
  rw [hdone, Nat.sub_zero] at hpositions hhistory
  obtain ⟨before, hgrid⟩ := hwalked.scrolled
  have hback : setScrollback last.grid 0 = unscrolled g := by
    rw [hgrid, set_set]
    rfl
  refine ⟨last, hends, fun _ hother => hends.unique hother, hpositions, hhistory, ?_, ?_⟩
  · rw [hhistory, hback]
    exact Prod.ext (renderPrimaryBuffer_eq hrows cursor) (renderPrimaryBuffer_grid hrows cursor)
  · rw [renderPrimaryBuffer_grid hrows cursor, unscrolled, scrollback_set, Nat.zero_min]

/-- A history that is no whole number of windows. -/
def KeptGrid.longHistory : KeptGrid where
  rows := 2
  cols := 4
  screen := [⟨[⟨plainCell 'y', by decide⟩], false⟩, ⟨[], false⟩]
  history := List.replicate 5 ⟨[⟨plainCell 'x', by decide⟩], false⟩
  cursor := (1, 0)
  offset := 1
  history_fits := by decide

theorem renderPrimaryBuffer_walks_windows :
    ∃ last, Ends (walk KeptGrid.longHistory) (start KeptGrid.longHistory) last ∧
      last.positions = [0, 1, 2, 3, 4] ∧
      scrollback (renderPrimaryBuffer KeptGrid.longHistory .asIs).2 = 0 := by
  have hrows : 0 < (size KeptGrid.longHistory).1 := by decide
  obtain ⟨last, hends, _, hpositions, _, _, hback⟩ := renderPrimaryBuffer_walks hrows .asIs
  exact ⟨last, hends, hpositions, hback⟩

end Walk

end Server
end Rttx
