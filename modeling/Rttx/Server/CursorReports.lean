import Rttx.Server.GridStream
import Rttx.Server.ModeCalls
import Rttx.Server.SampleTerminal

/-!
# Cursor position reports

A program that asks for the cursor is answered by the performer, which counts
characters and control bytes.  The cursor of the cell grid is that of a terminal:
it wraps and scrolls at the margins, knows tabs and the widths of characters, and
a line feed leaves its column.

`gridMove` is what a terminal's cursor does on the calls whose effect on it
depends on nothing but the size of the screen, and is `none` on the others.

**Results.**
* `csiDispatch_cursor`: the control sequences that move the performer's cursor.
* `AlikeMove.move`: the calls on which both cursors move alike.
* `cursorReport_eq`: after such calls a report is of the grid's cursor.
-/

namespace Rttx
namespace Server

open Kernel

universe u v

section GridMoves

/-- A character that a terminal prints and counts by its width. -/
def isPlainChar (c : Char) : Bool :=
  0x20 ≤ c.toNat && !(0x7f ≤ c.toNat && c.toNat < 0xa0) && c.toNat != 0xfffd

/-- The first number of a parameter; zero stands for one. -/
def motionParam (param : Option (List Nat)) : Nat :=
  max ((param.bind ScreenPerformer.subparam).getD 1) 1

/-- The modes that move the cursor: column mode, origin mode and the alternate
screens. -/
def movesCursor (param : List Nat) : Bool :=
  param.head?.any fun mode => mode ∈ [3, 6, 47, 1047, 1048, 1049]

section

variable (rows cols : Nat)

/-- A control sequence without intermediate bytes. -/
def csiMove (pos : Nat × Nat) (params : List (List Nat)) (action : Char) :
    Option (Nat × Nat) :=
  let n := motionParam params.head?
  if action = 'A' then some (pos.1 - n, pos.2)
  else if action = 'B' then some (min (pos.1 + n) (rows - 1), pos.2)
  else if action = 'C' then some (pos.1, min (pos.2 + n) (cols - 1))
  else if action = 'D' then some (pos.1, pos.2 - n)
  else if action = 'E' then some (min (pos.1 + n) (rows - 1), 0)
  else if action = 'F' then some (pos.1 - n, 0)
  else if action = 'G' then some (pos.1, min (n - 1) (cols - 1))
  else if action = 'd' then some (min (n - 1) (rows - 1), pos.2)
  else if action = 'H' then
    some (min (n - 1) (rows - 1), min (motionParam params.tail.head? - 1) (cols - 1))
  else if action ∈ ['@', 'J', 'K', 'L', 'M', 'P', 'S', 'T', 'X', 'c', 'h', 'l', 'm', 'n'] then
    some pos
  else
    none

variable (width : Char → Nat)

/-- What a terminal's cursor does on a call. -/
def gridMove (pos : Nat × Nat) : VteCall → Option (Nat × Nat)
  | .print c =>
      if isPlainChar c ∧ width c ≤ cols then
        if pos.2 + width c ≤ cols then
          some (pos.1, pos.2 + width c)
        else
          some (min (pos.1 + 1) (rows - 1), width c)
      else
        none
  | .execute byte =>
      if byte = 0x0a ∨ byte = 0x0b ∨ byte = 0x0c then some (min (pos.1 + 1) (rows - 1), pos.2)
      else if byte = 0x0d then some (pos.1, 0)
      else if byte = 0x08 then some (pos.1, pos.2 - 1)
      else if byte = 0x09 then some (pos.1, min (pos.2 - pos.2 % 8 + 8) (cols - 1))
      else some pos
  | .csiDispatch params intermediates _ action =>
      if intermediates = [] then
        csiMove rows cols pos params action
      else if intermediates.head? = some 0x3f ∧ (action = 'h' ∨ action = 'l') then
        if params.any movesCursor then none else some pos
      else if intermediates = bytesOf "!" then
        none
      else
        some pos
  | .escDispatch intermediates _ byte =>
      if intermediates = [] then
        if byte = 0x4d then some (pos.1 - 1, pos.2)
        else if byte ∈ [0x37, 0x3d, 0x3e, 0x5c] then some pos
        else none
      else if intermediates.head? ∈ [some 0x28, some 0x29, some 0x2a, some 0x2b] then
        some pos
      else
        none
  | _ => some pos

def gridMoves (pos : Nat × Nat) : List VteCall → Option (Nat × Nat)
  | [] => some pos
  | call :: rest => (gridMove rows cols width pos call).bind fun pos => gridMoves pos rest

end

end GridMoves

section Performer

namespace ScreenPerformer

def cursor (p : ScreenPerformer) : Nat × Nat :=
  (p.cursorRow, p.cursorCol)

/-- How a control sequence moves the performer's cursor. -/
def csiCursor (pos : Nat × Nat) (params : List (List Nat)) (action : Char) : Nat × Nat :=
  let n := (params.head?.bind subparam).getD 1
  if action = 'A' then (pos.1 - n, pos.2)
  else if action = 'B' then (pos.1 + n, pos.2)
  else if action = 'C' then (pos.1, pos.2 + n)
  else if action = 'D' then (pos.1, pos.2 - n)
  else if action = 'H' ∨ action = 'f' then
    (n - 1, (params.tail.head?.bind subparam).getD 1 - 1)
  else pos

end ScreenPerformer

theorem setPrivateMode_cursor (enabled : Bool) (p : ScreenPerformer) (param : List Nat) :
    (p.setPrivateMode enabled param).cursor = p.cursor := by
  unfold ScreenPerformer.setPrivateMode
  dsimp only
  split <;> rfl

theorem setPrivateModes_cursor (enabled : Bool) (p : ScreenPerformer)
    (params : List (List Nat)) :
    (params.foldl (ScreenPerformer.setPrivateMode enabled) p).cursor = p.cursor := by
  induction params generalizing p with
  | nil => rfl
  | cons param rest ih => rw [List.foldl_cons, ih, setPrivateMode_cursor]

/-- **The control sequences that move the performer's cursor.** -/
theorem csiDispatch_cursor (p : ScreenPerformer) (params : List (List Nat))
    (intermediates : Bytes) (action : Char) :
    (p.csiDispatch params intermediates action).cursor =
      ScreenPerformer.csiCursor p.cursor params action := by
  have hother : ∀ c : Char, action = c → c ∉ ['A', 'B', 'C', 'D', 'H', 'f'] →
      ScreenPerformer.csiCursor p.cursor params action = p.cursor := by
    rintro c rfl hc
    simp only [List.mem_cons, List.mem_nil_iff, or_false, not_or] at hc
    simp [ScreenPerformer.csiCursor, hc]
  unfold ScreenPerformer.csiDispatch
  by_cases hmode : intermediates = bytesOf "?" ∧ (action = 'h' ∨ action = 'l')
  · rw [if_pos hmode, setPrivateModes_cursor]
    rcases hmode.2 with haction | haction
    · exact (hother _ haction (by decide)).symm
    · exact (hother _ haction (by decide)).symm
  rw [if_neg hmode]
  by_cases hquery : intermediates = bytesOf "?$" ∧ action = 'p'
  · rw [if_pos hquery]
    exact (hother _ hquery.2 (by decide)).symm
  rw [if_neg hquery]
  by_cases hsecondary : intermediates = bytesOf ">" ∧ action = 'c'
  · rw [if_pos hsecondary]
    exact (hother _ hsecondary.2 (by decide)).symm
  rw [if_neg hsecondary]
  unfold ScreenPerformer.csiCursor
  by_cases hA : action = 'A'
  · rw [if_pos hA, if_pos hA]
    rfl
  rw [if_neg hA, if_neg hA]
  by_cases hB : action = 'B'
  · rw [if_pos hB, if_pos hB]
    rfl
  rw [if_neg hB, if_neg hB]
  by_cases hC : action = 'C'
  · rw [if_pos hC, if_pos hC]
    rfl
  rw [if_neg hC, if_neg hC]
  by_cases hD : action = 'D'
  · rw [if_pos hD, if_pos hD]
    rfl
  rw [if_neg hD, if_neg hD]
  by_cases hH : action = 'H' ∨ action = 'f'
  · rw [if_pos hH, if_pos hH]
    rfl
  rw [if_neg hH, if_neg hH]
  by_cases hn : action = 'n'
  · rw [if_pos hn]
    split
    · rfl
    · split <;> rfl
  rw [if_neg hn]
  split <;> rfl

end Performer

section Alike

variable (rows cols : Nat)

/-- The control sequences that move the performer's cursor as a terminal's. -/
def MotionFits (pos : Nat × Nat) (params : List (List Nat)) (action : Char) : Prop :=
  let n := (params.head?.bind ScreenPerformer.subparam).getD 1
  if action = 'A' then n ≠ 0 ∨ pos.1 = 0
  else if action = 'B' then if n = 0 then pos.1 + 1 = rows else pos.1 + n < rows
  else if action = 'C' then if n = 0 then pos.2 + 1 = cols else pos.2 + n < cols
  else if action = 'D' then n ≠ 0 ∨ pos.2 = 0
  else n - 1 < rows ∧ (params.tail.head?.bind ScreenPerformer.subparam).getD 1 - 1 < cols

/-- Whether a call asks for the cursor. -/
def isCursorQuery : VteCall → Bool
  | .csiDispatch params _ _ action =>
      action == 'n' && (params.head?.bind ScreenPerformer.subparam).getD 1 == 6
  | _ => false

variable (width : Char → Nat)

/-- A call on which both cursors move alike from `pos`, and which does not ask for
a cursor behind the last column. -/
def AlikeMove (pos : Nat × Nat) : VteCall → Prop
  | .print c => isPlainChar c ∧ width c = 1 ∧ pos.2 < cols
  | .execute byte =>
      if byte = 0x0a then
        pos.2 = 0 ∧ pos.1 + 1 < rows
      else
        byte = 0x0d ∨ byte = 0x08 ∨ gridMove rows cols width pos (.execute byte) = some pos
  | .csiDispatch params intermediates ignore action =>
      if action ∈ ['A', 'B', 'C', 'D', 'H', 'f'] then
        intermediates = [] ∧ action ≠ 'f' ∧ MotionFits rows cols pos params action
      else
        gridMove rows cols width pos (.csiDispatch params intermediates ignore action) =
            some pos ∧
          (isCursorQuery (.csiDispatch params intermediates ignore action) → pos.2 < cols)
  | call => gridMove rows cols width pos call = some pos

def AlikeMoves (pos : Nat × Nat) : List VteCall → Prop
  | [] => True
  | call :: rest =>
      AlikeMove rows cols width pos call ∧
        ∀ next, gridMove rows cols width pos call = some next → AlikeMoves next rest

instance (pos : Nat × Nat) (params : List (List Nat)) (action : Char) :
    Decidable (MotionFits rows cols pos params action) :=
  inferInstanceAs (Decidable (ite _ _ _))

instance (pos : Nat × Nat) : DecidablePred (AlikeMove rows cols width pos)
  | .print _ => inferInstanceAs (Decidable (_ ∧ _))
  | .execute _ => inferInstanceAs (Decidable (ite _ _ _))
  | .csiDispatch _ _ _ _ => inferInstanceAs (Decidable (ite _ _ _))
  | .escDispatch _ _ _ => inferInstanceAs (Decidable (_ = _))
  | .oscDispatch _ _ => inferInstanceAs (Decidable (_ = _))
  | .hook _ _ _ _ => inferInstanceAs (Decidable (_ = _))
  | .put _ => inferInstanceAs (Decidable (_ = _))
  | .unhook => inferInstanceAs (Decidable (_ = _))

/-- The check that a run of calls is one of such. -/
def alikeMoves (pos : Nat × Nat) : List VteCall → Bool
  | [] => true
  | call :: rest =>
      decide (AlikeMove rows cols width pos call) &&
        (gridMove rows cols width pos call).all fun next => alikeMoves next rest

theorem alikeMoves_sound {pos : Nat × Nat} {calls : List VteCall}
    (h : alikeMoves rows cols width pos calls = true) :
    AlikeMoves rows cols width pos calls := by
  induction calls generalizing pos with
  | nil => trivial
  | cons call rest ih =>
      rw [alikeMoves, Bool.and_eq_true, decide_eq_true_eq] at h
      refine ⟨h.1, ?_⟩
      intro next hnext
      rw [hnext] at h
      exact ih h.2

/-- The cursor is on the screen, or behind the last column. -/
def OnScreen (pos : Nat × Nat) : Prop :=
  pos.1 < rows ∧ pos.2 ≤ cols

variable {rows cols width}
variable {pos : Nat × Nat}

theorem MotionFits.csiMove {params : List (List Nat)} {action : Char}
    (hpos : OnScreen rows cols pos)
    (haction : action ∈ ['A', 'B', 'C', 'D', 'H'])
    (h : MotionFits rows cols pos params action) :
    csiMove rows cols pos params action =
      some (ScreenPerformer.csiCursor pos params action) := by
  obtain ⟨row, col⟩ := pos
  obtain ⟨hrow, hcol⟩ := hpos
  simp only [List.mem_cons, List.mem_nil_iff, or_false] at haction
  -- A terminal takes zero for one, and stops at the margins.
  by_cases hn : (params.head?.bind ScreenPerformer.subparam).getD 1 = 0
  · rcases haction with rfl | rfl | rfl | rfl | rfl
    all_goals
      simp [MotionFits, hn] at h
      simp [Rttx.Server.csiMove, ScreenPerformer.csiCursor, hn, motionParam]
      omega
  · rcases haction with rfl | rfl | rfl | rfl | rfl
    all_goals
      simp [MotionFits, hn] at h
      simp [Rttx.Server.csiMove, ScreenPerformer.csiCursor, motionParam]
      omega

/-- **The calls on which both cursors move alike.** -/
theorem AlikeMove.move {p : ScreenPerformer} {call : VteCall}
    (hpos : OnScreen rows cols p.cursor)
    (h : AlikeMove rows cols width p.cursor call) :
    gridMove rows cols width p.cursor call = some (p.perform call).cursor := by
  cases call with
  | print c =>
      obtain ⟨hplain, hwidth, hroom⟩ := h
      have hfits : p.cursor.2 + 1 ≤ cols := hroom
      rw [gridMove, if_pos ⟨hplain, by omega⟩, hwidth, if_pos hfits]
      rfl
  | execute byte =>
      rw [AlikeMove] at h
      by_cases hline : byte = 0x0a
      · rw [if_pos hline] at h
        subst hline
        obtain ⟨hcol, hrow⟩ := h
        have hmin : min (p.cursor.1 + 1) (rows - 1) = p.cursor.1 + 1 := by omega
        rw [gridMove, if_pos (Or.inl rfl), hmin, hcol]
        rfl
      · rw [if_neg hline] at h
        rcases h with rfl | rfl | hstays
        · rfl
        · rfl
        · by_cases hreturn : byte = 0x0d
          · subst hreturn
            rfl
          by_cases hback : byte = 0x08
          · subst hback
            rfl
          rw [hstays, ScreenPerformer.perform, ScreenPerformer.execute, if_neg hline,
            if_neg hreturn,
            if_neg hback]
  | csiDispatch params intermediates ignore action =>
      rw [AlikeMove] at h
      rw [ScreenPerformer.perform, csiDispatch_cursor]
      by_cases hmotion : action ∈ ['A', 'B', 'C', 'D', 'H', 'f']
      · rw [if_pos hmotion] at h
        obtain ⟨hplain, hne, hfits⟩ := h
        have haction : action ∈ ['A', 'B', 'C', 'D', 'H'] := by
          simp only [List.mem_cons, List.mem_nil_iff, or_false] at hmotion ⊢
          tauto
        rw [gridMove, if_pos hplain]
        exact hfits.csiMove hpos haction
      · rw [if_neg hmotion] at h
        rw [h.1]
        simp only [List.mem_cons, List.mem_nil_iff, or_false, not_or] at hmotion
        simp [ScreenPerformer.csiCursor, hmotion]
  | escDispatch intermediates ignore byte =>
      refine Eq.trans h ?_
      simp only [ScreenPerformer.perform, ScreenPerformer.escDispatch]
      split_ifs <;> rfl
  | oscDispatch params bell => exact h
  | hook params intermediates ignore action => exact h
  | put byte => exact h
  | unhook => exact h

theorem AlikeMove.col_lt {call : VteCall}
    (h : AlikeMove rows cols width pos call)
    (hquery : isCursorQuery call = true) :
    pos.2 < cols := by
  cases call with
  | csiDispatch params intermediates ignore action =>
      rw [AlikeMove] at h
      have haction : action = 'n' := by
        simp only [isCursorQuery, Bool.and_eq_true, beq_iff_eq] at hquery
        exact hquery.1
      rw [if_neg (by rw [haction]; decide)] at h
      exact h.2 hquery
  | _ => cases hquery

/-- What a move gives, if anything, is on the screen. -/
def StaysOn (rows cols : Nat) (next : Option (Nat × Nat)) : Prop :=
  ∀ pos, next = some pos → OnScreen rows cols pos

theorem StaysOn.some
    (hrow : pos.1 < rows)
    (hcol : pos.2 ≤ cols) :
    StaysOn rows cols (some pos) := by
  rintro _ ⟨⟩
  exact ⟨hrow, hcol⟩

theorem StaysOn.ite {c : Prop} [Decidable c] {next next' : Option (Nat × Nat)}
    (h : StaysOn rows cols next)
    (h' : StaysOn rows cols next') :
    StaysOn rows cols (if c then next else next') := by
  split
  · exact h
  · exact h'

theorem csiMove_onScreen (params : List (List Nat)) (action : Char)
    (hpos : OnScreen rows cols pos) :
    StaysOn rows cols (csiMove rows cols pos params action) := by
  obtain ⟨hrow, hcol⟩ := hpos
  have hup : ∀ n, pos.1 - n < rows := fun n => by omega
  have hdown : ∀ n, min n (rows - 1) < rows := fun n => by omega
  have hleft : ∀ n, pos.2 - n ≤ cols := fun n => by omega
  have hright : ∀ n, min n (cols - 1) ≤ cols := fun n => by omega
  unfold csiMove
  refine .ite (.some (hup _) hcol) ?_
  refine .ite (.some (hdown _) hcol) ?_
  refine .ite (.some hrow (hright _)) ?_
  refine .ite (.some hrow (hleft _)) ?_
  refine .ite (.some (hdown _) (Nat.zero_le _)) ?_
  refine .ite (.some (hup _) (Nat.zero_le _)) ?_
  refine .ite (.some hrow (hright _)) ?_
  refine .ite (.some (hdown _) hcol) ?_
  refine .ite (.some (hdown _) (hright _)) ?_
  exact .ite (.some hrow hcol) nofun

/-- A terminal's cursor stays on the screen. -/
theorem gridMove_onScreen (call : VteCall)
    (hpos : OnScreen rows cols pos) :
    StaysOn rows cols (gridMove rows cols width pos call) := by
  obtain ⟨hrow, hcol⟩ := hpos
  have hstays : StaysOn rows cols (some pos) := .some hrow hcol
  have hdown : min (pos.1 + 1) (rows - 1) < rows := by omega
  cases call with
  | print c =>
      rw [gridMove]
      by_cases hfits : isPlainChar c ∧ width c ≤ cols
      · rw [if_pos hfits]
        by_cases hroom : pos.2 + width c ≤ cols
        · rw [if_pos hroom]
          exact .some hrow hroom
        · rw [if_neg hroom]
          exact .some hdown hfits.2
      · rw [if_neg hfits]
        nofun
  | execute byte =>
      have htab : min (pos.2 - pos.2 % 8 + 8) (cols - 1) ≤ cols := by omega
      rw [gridMove]
      refine .ite (.some hdown hcol) ?_
      refine .ite (.some hrow (Nat.zero_le _)) ?_
      refine .ite (.some hrow (Nat.le_trans (Nat.sub_le _ _) hcol)) ?_
      exact .ite (.some hrow htab) hstays
  | csiDispatch params intermediates ignore action =>
      rw [gridMove]
      refine .ite (csiMove_onScreen params action ⟨hrow, hcol⟩) ?_
      exact .ite (.ite nofun hstays) (.ite nofun hstays)
  | escDispatch intermediates ignore byte =>
      have hup : pos.1 - 1 < rows := by omega
      rw [gridMove]
      exact .ite (.ite (.some hup hcol) (.ite hstays nofun)) (.ite hstays nofun)
  | oscDispatch params bell => exact hstays
  | hook params intermediates ignore action => exact hstays
  | put byte => exact hstays
  | unhook => exact hstays

/-- **Both cursors move alike over a run of such calls.** -/
theorem AlikeMoves.moves {p : ScreenPerformer} {calls : List VteCall}
    (hpos : OnScreen rows cols p.cursor)
    (h : AlikeMoves rows cols width p.cursor calls) :
    gridMoves rows cols width p.cursor calls = some (p.performAll calls).cursor ∧
      OnScreen rows cols (p.performAll calls).cursor := by
  induction calls generalizing p with
  | nil => exact ⟨rfl, hpos⟩
  | cons call rest ih =>
      have hmove := h.1.move hpos
      obtain ⟨hmoves, hscreen⟩ := ih (gridMove_onScreen call hpos _ hmove) (h.2 _ hmove)
      refine ⟨?_, hscreen⟩
      rw [gridMoves, hmove]
      exact hmoves

theorem AlikeMoves.last {p : ScreenPerformer} {calls : List VteCall} {call : VteCall}
    (hpos : OnScreen rows cols p.cursor)
    (h : AlikeMoves rows cols width p.cursor (calls ++ [call])) :
    AlikeMove rows cols width (p.performAll calls).cursor call := by
  induction calls generalizing p with
  | nil => exact h.1
  | cons first rest ih =>
      have hmove := h.1.move hpos
      exact ih (gridMove_onScreen first hpos _ hmove) (h.2 _ hmove)

end Alike

section Reports

/-- The report of a cursor: its row and column, counted from one. -/
def cursorReport (pos : Nat × Nat) : Bytes :=
  bytesOf ("\x1b[" ++ toString (pos.1 + 1) ++ ";" ++ toString (pos.2 + 1) ++ "R")

theorem perform_cursorQuery {call : VteCall}
    (h : isCursorQuery call = true)
    (p : ScreenPerformer) :
    (p.perform call).pendingReplies = p.pendingReplies ++ [cursorReport p.cursor] ∧
      (p.perform call).cursor = p.cursor := by
  cases call with
  | csiDispatch params intermediates ignore action =>
      simp only [isCursorQuery, Bool.and_eq_true, beq_iff_eq] at h
      obtain ⟨rfl, hsix⟩ := h
      constructor
      · have hquery : p.csiDispatch params intermediates 'n' = p.pushReply p.cursorReply := by
          simp [ScreenPerformer.csiDispatch, hsix]
        rw [ScreenPerformer.perform, hquery]
        rfl
      · rw [ScreenPerformer.perform, csiDispatch_cursor]
        rfl
  | _ => cases h

/-- The cursor of the cell grid. -/
def PaneScreen.cursorPosition {P : Type u} {G : Type v} [Vt100Parser G] (s : PaneScreen P G) :
    Nat × Nat :=
  Vt100Parser.cursorPosition s.grid

/-- The cursor of the grid `G` over a text is that of a terminal on what the parser
`P` reports of it, as far as `gridMove` says it. -/
class CursorGrid (width : Char → Nat) (P : Type u) (G : Type v) [VteParser P] [Vt100Parser G] :
    Prop extends StreamGrid G where
  cursor_process : ∀ (rows cols len : Nat) (data : Bytes) (pos : Nat × Nat),
    0 < rows → 0 < cols → (utf8Text data).isSome →
      gridMoves rows cols width (0, 0) (callsOver (VteParser.new : P) data) = some pos →
        Vt100Parser.cursorPosition
          (Vt100Parser.process (Vt100Parser.new rows cols len : G) data) = pos

/-- After the byte that ends a query the reply that was queued is of the grid's
cursor, which is on the screen. -/
structure ReportsCursor {P : Type u} {G : Type v} [VteParser P] [Vt100Parser G]
    (cols rows : Nat) (queued : List Bytes) (s : PaneScreen P G) : Prop where
  reply : s.performer.pendingReplies = queued ++ [cursorReport s.cursorPosition]
  row : s.cursorPosition.1 < rows
  col : s.cursorPosition.2 < cols

variable {width : Char → Nat} {P : Type u} {G : Type v}
variable [VteParser P] [AsciiDispatch P] [Vt100Parser G] [CursorGrid width P G]
variable {limit cols rows : Nat}

/-- **A cursor report is of the grid's cursor** after output on which both move
alike, however it comes in batches. -/
theorem cursorReport_eq {batches : List Bytes} {pre : Bytes} {b : UInt8} {call : VteCall}
    (hstream : batches.flatten = pre ++ [b])
    (hcall : (VteParser.advance (parserAfter (VteParser.new : P) pre) b).2 = [call])
    (hquery : isCursorQuery call = true)
    (htext : (utf8Text (pre ++ [b])).isSome)
    (halike : AlikeMoves (max rows 1) (max cols 1) width (0, 0)
      (callsOver (VteParser.new : P) (pre ++ [b]))) :
    ReportsCursor (max cols 1) (max rows 1)
      (PaneScreen.advanceParser ((VteParser.new : P), ScreenPerformer.new limit)
        pre).2.pendingReplies
      (batches.foldl PaneScreen.parse
        (PaneScreen.newSized limit cols rows : PaneScreen P G)) := by
  have hstreamGrid : StreamGrid G := CursorGrid.toStreamGrid width P
  obtain ⟨whole, cut, hflatten, hfed⟩ := @foldl_parse_fed P G _ _ _ limit cols rows batches
  have hdispatches : call.dispatches = true := by
    cases call with
    | csiDispatch params intermediates ignore action => rfl
    | _ => cases hquery
  -- The last byte is one of ASCII, so that no character is cut.
  have hcut : cut = [] := by
    rcases List.eq_nil_or_concat cut with hnil | ⟨front, last, rfl⟩
    · exact hnil
    · rw [hstream, List.concat_eq_append, ← List.append_assoc] at hflatten
      have hlast := (List.append_inj' hflatten rfl).2
      cases hlast
      have hhigh := hfed.high b (by simp)
      have hno := AsciiDispatch.high_calls (parserAfter (VteParser.new : P) pre) b hhigh call
        (by rw [hcall]; exact List.mem_singleton_self _)
      rw [hdispatches] at hno
      cases hno
  have hwhole : whole = pre ++ [b] := by
    rw [hcut, List.append_nil] at hflatten
    exact hflatten.trans hstream
  subst hcut
  subst hwhole
  have hcalls : callsOver (VteParser.new : P) (pre ++ [b]) =
      callsOver (VteParser.new : P) pre ++ [call] := by
    have hlast : callsOver (parserAfter (VteParser.new : P) pre) [b] =
        (VteParser.advance (parserAfter (VteParser.new : P) pre) b).2 ++ [] := rfl
    rw [callsOver_append, hlast, hcall]
    rfl
  have hrows : 0 < max rows 1 := Nat.lt_of_lt_of_le Nat.zero_lt_one (Nat.le_max_right _ _)
  have hcols : 0 < max cols 1 := Nat.lt_of_lt_of_le Nat.zero_lt_one (Nat.le_max_right _ _)
  have hstart : OnScreen (max rows 1) (max cols 1) (ScreenPerformer.new limit).cursor :=
    ⟨hrows, Nat.zero_le _⟩
  obtain ⟨hmoves, hscreen⟩ := AlikeMoves.moves (p := ScreenPerformer.new limit) hstart halike
  have hgrid := @CursorGrid.cursor_process width P G _ _ _ (max rows 1)
    (max cols 1) gridScrollbackRows (pre ++ [b]) _ hrows hcols htext hmoves
  have hposition : (batches.foldl PaneScreen.parse
      (PaneScreen.newSized limit cols rows : PaneScreen P G)).cursorPosition =
        ((ScreenPerformer.new limit).performAll
          (callsOver (VteParser.new : P) (pre ++ [b]))).cursor := by
    rw [PaneScreen.cursorPosition, hfed.grid, hgrid]
  have hperformer : (batches.foldl PaneScreen.parse
      (PaneScreen.newSized limit cols rows : PaneScreen P G)).performer =
        (ScreenPerformer.new limit).performAll (callsOver (VteParser.new : P) (pre ++ [b])) := by
    rw [← advanceParser_performer]
    have hboth := congrArg Prod.snd hfed.performer
    rwa [List.append_nil] at hboth
  rw [hcalls] at halike
  have hlast := AlikeMoves.last (p := ScreenPerformer.new limit) hstart halike
  rw [hcalls, ScreenPerformer.performAll_append] at hposition hperformer
  rw [hcalls, ScreenPerformer.performAll_append] at hscreen
  obtain ⟨hreply, hstays⟩ := perform_cursorQuery hquery
    ((ScreenPerformer.new limit).performAll (callsOver (VteParser.new : P) pre))
  refine ⟨?_, ?_, ?_⟩
  · rw [hposition, hperformer, advanceParser_performer]
    refine hreply.trans ?_
    rw [← hstays]
    rfl
  · rw [hposition]
    exact hscreen.1
  · rw [hposition]
    change ((ScreenPerformer.performAll _ _).perform call).cursor.2 < _
    rw [hstays]
    exact hlast.col_lt hquery

end Reports

section Samples

/-- A parser that reports the control sequences, and outside of them the control
bytes and the printed characters of ASCII. -/
structure TextParser where
  scan : ScanState

instance : VteParser TextParser where
  new := ⟨.outside⟩
  advance s b :=
    (⟨(s.scan.step b).1⟩,
      match (s.scan.step b).2 with
      | some c => [(dispatched c).call]
      | none =>
          if s.scan = .outside ∧ b ≠ esc ∧ b < 0x7f then
            [if b < 0x20 then .execute b else .print (Char.ofNat b.toNat)]
          else
            [])

instance : AsciiDispatch TextParser where
  high_calls parser b hb call hcall := by
    have hnone : (parser.scan.step b).2 = none := by
      cases hends : (parser.scan.step b).2 with
      | none => rfl
      | some c =>
          have hclass := byteClass_final_iff.mp (ScanState.step_eq_some hends).1
          simp only [Bool.and_eq_true, decide_eq_true_eq, UInt8.le_iff_toNat_le,
            UInt8.reduceToNat] at hclass hb
          omega
    have hascii : ¬ (parser.scan = .outside ∧ b ≠ esc ∧ b < 0x7f) := by
      rintro ⟨_, _, hlow⟩
      simp only [UInt8.le_iff_toNat_le, UInt8.lt_iff_toNat_lt, UInt8.reduceToNat] at hlow hb
      omega
    simp only [VteParser.advance, hnone, if_neg hascii] at hcall
    cases hcall

/-- A grid that records its input, and takes the cursor from what the parser
reports of it. -/
structure CursorRecord (P : Type u) where
  rows : Nat
  cols : Nat
  input : Bytes
deriving DecidableEq

variable {P : Type u} [VteParser P]

def CursorRecord.cursor (g : CursorRecord P) : Nat × Nat :=
  (gridMoves g.rows g.cols (fun _ => 1) (0, 0)
    (callsOver (VteParser.new : P) g.input)).getD (0, 0)

instance : Vt100Parser (CursorRecord P) where
  new := fun rows cols _ => ⟨rows, cols, []⟩
  process := fun g data => { g with input := g.input ++ data }
  setSize := fun g rows cols => { g with rows := rows, cols := cols }
  setScrollback := fun g _ => g
  size := fun g => (g.rows, g.cols)
  scrollback := fun _ => 0
  alternateScreen := fun _ => false
  cursorPosition := CursorRecord.cursor
  cell := fun _ _ _ => none
  rowWrapped := fun _ _ => false
  contentsFormatted := fun _ => []
  applicationKeypad := fun _ => false
  applicationCursor := fun _ => false
  bracketedPaste := fun _ => false
  mouseProtocolMode := fun _ => .none
  mouseProtocolEncoding := fun _ => .default
  hideCursor := fun _ => false

instance : CursorGrid (fun _ => 1) P (CursorRecord P) where
  process_nil g := by
    obtain ⟨rows, cols, input⟩ := g
    exact congrArg (CursorRecord.mk rows cols) (List.append_nil input)
  process_append g first second := by
    obtain ⟨rows, cols, input⟩ := g
    exact congrArg (CursorRecord.mk rows cols) (List.append_assoc input first second)
  cursor_process rows cols len data pos _ _ _ hmoves := by
    change (gridMoves rows cols _ (0, 0) (callsOver (VteParser.new : P) ([] ++ data))).getD _ = _
    rw [List.nil_append, hmoves]
    rfl

/-- The report behind a prompt on the second line. -/
theorem cursorReport_eq_prompt :
    ReportsCursor (max 80 1) (max 24 1)
      (PaneScreen.advanceParser ((VteParser.new : TextParser), ScreenPerformer.new 0)
        (bytesOf "hi\r\n$\x1b[6")).2.pendingReplies
      ([bytesOf "hi\r\n$\x1b", bytesOf "[6n"].foldl PaneScreen.parse
        (PaneScreen.newSized 0 80 24 : PaneScreen TextParser (CursorRecord TextParser))) := by
  have hstream : [bytesOf "hi\r\n$\x1b", bytesOf "[6n"].flatten =
      bytesOf "hi\r\n$\x1b[6" ++ [0x6e] := by
    decide +kernel
  have hcall : (VteParser.advance (parserAfter (VteParser.new : TextParser)
      (bytesOf "hi\r\n$\x1b[6")) 0x6e).2 = [.csiDispatch [[6]] [] false 'n'] := by
    decide +kernel
  have htext : (utf8Text (bytesOf "hi\r\n$\x1b[6" ++ [0x6e])).isSome := by
    decide +kernel
  have halike : AlikeMoves (max 24 1) (max 80 1) (fun _ => 1) (0, 0)
      (callsOver (VteParser.new : TextParser) (bytesOf "hi\r\n$\x1b[6" ++ [0x6e])) :=
    alikeMoves_sound _ _ _ (by decide +kernel)
  exact cursorReport_eq hstream hcall rfl htext halike

/-- The performer does not wrap at the last column. -/
theorem cursorReport_off_screen :
    ¬ ∀ (cols rows : Nat) (pre : Bytes) (b : UInt8) (call : VteCall),
      (VteParser.advance (parserAfter (VteParser.new : TextParser) pre) b).2 = [call] →
        isCursorQuery call = true →
          ReportsCursor (max cols 1) (max rows 1)
            (PaneScreen.advanceParser ((VteParser.new : TextParser), ScreenPerformer.new 0)
              pre).2.pendingReplies
            ((PaneScreen.newSized 0 cols rows :
              PaneScreen TextParser (CursorRecord TextParser)).parse (pre ++ [b])) := by
  intro h
  have hreply := (h 4 2 (bytesOf "hello\x1b[6") 0x6e (.csiDispatch [[6]] [] false 'n')
    (by decide +kernel) rfl).reply
  exact absurd hreply (by decide +kernel)

end Samples

end Server
end Rttx
