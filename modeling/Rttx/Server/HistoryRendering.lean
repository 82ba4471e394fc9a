import Mathlib.Data.List.TakeWhile
import Rttx.Server.ScreenReaders

/-!
# What the history contributes to a rendering

The rendering of a primary buffer starts with the rows that have scrolled off the
screen and goes on with the visible ones.  Trimming drops whole lines from the
front, so what is kept may lie within the visible part or reach back into the
history.

**Results.**
* `primaryBufferStream_eq`: the rendering is the history part followed by the
  visible part.
* `dropOldestLinesOver_suffix_iff`: when the trimmed rendering lies within the
  visible part.
-/

namespace Rttx
namespace Server

universe u v

section Emission

namespace Emitter

/-- The emitter with bytes written before its own. -/
def after (out : Bytes) (e : Emitter) : Emitter :=
  ⟨e.attrs, out ++ e.out⟩

theorem write_after (out : Bytes) (e : Emitter) (data : Bytes) :
    (e.after out).write data = (e.write data).after out := by
  simp [after, write]

theorem put_after (out : Bytes) (e : Emitter) (attrs : CellAttrs) (text : Bytes) :
    (e.after out).put attrs text = (e.put attrs text).after out := by
  simp [after, put]

/-- A fold of steps that do not look at what was written does not either. -/
theorem foldl_after {α : Type} {f : Emitter → α → Emitter}
    (hf : ∀ out e a, f (e.after out) a = (f e a).after out)
    (items : List α)
    (out : Bytes)
    (e : Emitter) :
    items.foldl f (e.after out) = (items.foldl f e).after out := by
  induction items generalizing e with
  | nil => rfl
  | cons a rest ih =>
      rw [List.foldl_cons, List.foldl_cons, hf]
      exact ih _

end Emitter

theorem emitRow_after (row : RenderedRow) (upto : Option Nat) (out : Bytes) (e : Emitter) :
    emitRow row upto (e.after out) = (emitRow row upto e).after out := by
  have hcells := Emitter.foldl_after
    (f := fun (e : Emitter) (c : RenderedCell) => e.put c.attrs (bytesOf c.text))
    (fun out e c => e.put_after out c.attrs (bytesOf c.text))
  have hblank := Emitter.foldl_after
    (f := fun (e : Emitter) (_ : Unit) => e.put CellAttrs.default (bytesOf " "))
    (fun out e _ => e.put_after out CellAttrs.default (bytesOf " "))
  simp only [emitRow, hcells, hblank]

/-- Without a cursor to place, the rows do not look at what was written before. -/
theorem emitScreenLines_after (cursor : CursorPlacement) (cursorCol index : Nat)
    (lines : List RenderedRow) (out : Bytes) (e : Emitter) :
    emitScreenLines cursor none cursorCol index lines (e.after out) =
      (emitScreenLines cursor none cursorCol index lines e).after out := by
  induction lines generalizing index e with
  | nil => rfl
  | cons row below ih =>
      have hnone : ¬ (none : Option Nat) = some index := nofun
      simp only [emitScreenLines, if_neg hnone, emitRow_after]
      split
      · rw [Emitter.write_after]
        exact ih _ _
      · exact ih _ _

end Emission

section Parts

variable {G : Type v}
variable [Vt100Parser G]

open Vt100Parser

/-- The rows that have scrolled off, as the rendering emits them. -/
def renderHistory (history : List RenderedRow) : Emitter :=
  history.foldl emitLine ⟨CellAttrs.default, []⟩

/-- The visible rows, emitted after history that ends in the attributes `attrs`. -/
def renderVisible (attrs : CellAttrs) (screen : G) : Bytes :=
  let (rows, cols) := size screen
  let lines := (List.range rows).map (fun row => RenderedRow.read screen row (some cols))
  let e := emitScreenLines .afterContent none (cursorPosition screen).2 0
    (lines.take (contentRows lines)) ⟨attrs, []⟩
  (e.put CellAttrs.default []).out

theorem renderRows_afterContent (history : List RenderedRow) (screen : G) :
    renderRows history screen .afterContent =
      (renderHistory history).out ++ renderVisible (renderHistory history).attrs screen := by
  have hstart : renderHistory history =
      Emitter.after (renderHistory history).out ⟨(renderHistory history).attrs, []⟩ := by
    simp [Emitter.after]
  have hrows : renderRows history screen .afterContent =
      ((emitScreenLines .afterContent none (cursorPosition screen).2 0
        (((List.range (size screen).1).map
            (fun row => RenderedRow.read screen row (some (size screen).2))).take
          (contentRows ((List.range (size screen).1).map
            (fun row => RenderedRow.read screen row (some (size screen).2)))))
        (renderHistory history)).put CellAttrs.default []).out :=
    rfl
  rw [hrows]
  conv_lhs => rw [hstart]
  rw [emitScreenLines_after, Emitter.put_after]
  rfl

namespace PaneScreen

variable {P : Type u}

/-- The history part and the visible part of the rendering for the disk. -/
def primaryParts (s : PaneScreen P G) : Bytes × Bytes :=
  let grid := if alternateScreen s.grid then process s.grid (bytesOf "\x1b[?47l") else s.grid
  let (rows, _) := size grid
  let grid := setScrollback grid usizeMax
  let historyLen := scrollback grid
  let (history, grid) := readHistory rows historyLen historyLen grid
  let e := renderHistory history
  (e.out, renderVisible e.attrs (setScrollback grid 0))

/-- **The rendering is the history part followed by the visible part.** -/
theorem primaryBufferStream_eq (s : PaneScreen P G) :
    s.primaryBufferStream.1 = s.primaryParts.1 ++ s.primaryParts.2 :=
  renderRows_afterContent _ _

/-- Without scrolled-off rows there is no history part. -/
theorem primaryParts_of_scrollback_eq_zero {s : PaneScreen P G}
    (h : scrollback (setScrollback
      (if alternateScreen s.grid then process s.grid (bytesOf "\x1b[?47l") else s.grid)
      usizeMax) = 0) :
    s.primaryParts.1 = [] := by
  simp only [primaryParts, h, readHistory]
  rfl

end PaneScreen

end Parts

section Trimming

/-- Nothing of the history survives the trim: there is none, or the visible part
alone fills the bound, or the bound cuts into the history where no whole line of it
is left, and a line ends in what the bound keeps. -/
def historyTrimmed (history visible : Bytes) (max : Nat) : Bool :=
  let kept := history.drop (history.length + visible.length - max)
  history = [] || max ≤ visible.length ||
    (max < history.length + visible.length &&
      (kept.dropWhile (fun b => b != 0x0a)).tail = [] &&
      (kept.contains 0x0a || visible.contains 0x0a))

/-- A suffix of two lists lies within the second exactly if it is not longer. -/
theorem suffix_right_iff {xs front back : Bytes}
    (h : xs.IsSuffix (front ++ back)) :
    xs.IsSuffix back ↔ xs.length ≤ back.length := by
  constructor
  · exact List.IsSuffix.length_le
  · intro hle
    exact List.suffix_of_suffix_length_le h (List.suffix_append front back) hle

theorem dropWhile_append_of_mem {p : UInt8 → Bool} {xs : Bytes} {x : UInt8}
    (ys : Bytes)
    (hx : x ∈ xs)
    (hp : p x = false) :
    (xs ++ ys).dropWhile p = xs.dropWhile p ++ ys := by
  induction xs with
  | nil => cases hx
  | cons y rest ih =>
      rw [List.cons_append, List.dropWhile_cons, List.dropWhile_cons]
      by_cases hy : p y = true
      · rw [if_pos hy, if_pos hy]
        refine ih ((List.mem_cons.mp hx).resolve_left ?_)
        rintro rfl
        rw [hp] at hy
        cases hy
      · rw [if_neg hy, if_neg hy, List.cons_append]

theorem dropWhile_ne_nil {p : UInt8 → Bool} {xs : Bytes} {x : UInt8}
    (hx : x ∈ xs)
    (hp : p x = false) :
    xs.dropWhile p ≠ [] := by
  intro hnil
  have hall := List.dropWhile_eq_nil_iff.mp hnil x hx
  rw [hp] at hall
  cases hall

/-- **When the trimmed rendering lies within the visible part.** -/
theorem dropOldestLinesOver_suffix_iff (history visible : Bytes) (max : Nat) :
    (dropOldestLinesOver (history ++ visible) max).IsSuffix visible ↔
      historyTrimmed history visible max = true := by
  rw [suffix_right_iff (dropOldestLinesOver_suffix (history ++ visible) max)]
  have hbound := dropOldestLinesOver_length_le (history ++ visible) max
  by_cases hnil : history = []
  · subst hnil
    have hle := (dropOldestLinesOver_suffix visible max).length_le
    simpa [historyTrimmed] using hle
  · have hpos : 0 < history.length := List.length_pos_iff.mpr hnil
    by_cases hfull : max ≤ visible.length
    · have hle := Nat.le_trans hbound hfull
      simp [historyTrimmed, hfull, hle]
    · by_cases hfits : history.length + visible.length ≤ max
      · have hall : dropOldestLinesOver (history ++ visible) max = history ++ visible := by
          rw [dropOldestLinesOver, if_pos (by simpa using hfits)]
        have hno : ¬ max < history.length + visible.length := by omega
        simp [hall, historyTrimmed, hnil, hfull, hno, hpos]
      · -- the bound cuts into the history, which leaves `kept` of it
        have hcut : max < history.length + visible.length := by omega
        have hdrop : (history ++ visible).drop (history.length + visible.length - max) =
            history.drop (history.length + visible.length - max) ++ visible :=
          List.drop_append_of_le_length (by omega)
        have hlen : ¬ (history ++ visible).length ≤ max := by
          rw [List.length_append]
          omega
        generalize hkept : history.drop (history.length + visible.length - max) = kept at hdrop
        have hkeptpos : 0 < kept.length := by
          rw [← hkept, List.length_drop]
          omega
        have htrim : historyTrimmed history visible max =
            (decide ((kept.dropWhile (fun b => b != 0x0a)).tail = []) &&
              (kept.contains 0x0a || visible.contains 0x0a)) := by
          simp [historyTrimmed, hnil, hfull, hcut, hkept]
        rw [htrim, dropOldestLinesOver, if_neg hlen, List.length_append, hdrop]
        by_cases hline : (0x0a : UInt8) ∈ kept
        · have hkeep := dropWhile_append_of_mem (p := fun b => b != 0x0a) visible hline
            (by decide)
          have hne := dropWhile_ne_nil (p := fun b => b != 0x0a) hline (by decide)
          simp only [List.contains_eq_mem, List.mem_append, hline, true_or, decide_true, if_true,
            hkeep, List.tail_append_of_ne_nil hne, List.length_append, Bool.true_or,
            Bool.and_true, decide_eq_true_eq, ← List.length_eq_zero_iff]
          omega
        · have hskip : ∀ b ∈ kept, (b != 0x0a) = true := by
            intro b hb
            simp only [bne_iff_ne, ne_eq]
            rintro rfl
            exact hline hb
          have hpast : (kept ++ visible).dropWhile (fun b => b != 0x0a) =
              visible.dropWhile (fun b => b != 0x0a) := by
            rw [List.dropWhile_append_of_pos hskip]
          have hkeptnil : kept.dropWhile (fun b => b != 0x0a) = [] :=
            List.dropWhile_eq_nil_iff.mpr hskip
          by_cases hvis : (0x0a : UInt8) ∈ visible
          · have hle := ((List.tail_suffix _).trans (List.dropWhile_suffix
              (fun b => b != 0x0a) (l := visible))).length_le
            simp [hline, hvis, hpast, hkeptnil]
            simpa using hle
          · simp only [List.contains_eq_mem, List.mem_append, hline, hvis, or_self,
              decide_false, Bool.false_eq_true, if_false, Bool.or_self, Bool.and_false,
              List.length_append, iff_false]
            omega

end Trimming

end Server
end Rttx
