import Rttx.Server.ExitCleanup
import Rttx.Server.GraphicRendition
import Rttx.Server.LineEnds

/-!
# Moves of the cursor

The move to the start of a row and a new line below it, as the bytes that the daemon
feeds a screen and the calls that a parser makes of them, and the documented behaviour
of a grid whose margins are those of the screen.

**Results.**
* `callsOver_belowBytes`: the calls of the move.
* `perform_belowCalls`: the new line is blank, and below it stands what stood there.
-/

namespace Rttx
namespace Server

open Kernel Vt100Parser

universe u v

section Controls

/-- The bytes that put the cursor on a new line below row `row`. -/
def belowBytes (row : Nat) : Bytes :=
  bytesOf ("\x1b[" ++ toString (row + 1) ++ ";1H\r\n")

/-- The move to the start of a row. -/
def moveToRow (row : Nat) : ControlSequence :=
  ⟨bytesOf (codesText [row + 1, 1]), [], 0x48⟩

def moveCall (row : Nat) : VteCall :=
  .csiDispatch [[row + 1], [1]] [] false 'H'

def belowCalls (row : Nat) : List VteCall :=
  [moveCall row, .execute 0x0d, .execute 0x0a]

theorem belowBytes_eq (row : Nat) :
    belowBytes row = (Control.sequence (moveToRow row)).bytes ++ [0x0d, 0x0a] := by
  have hstart : bytesOf "\x1b[" = [esc, 0x5b] := by decide
  have hend : bytesOf ";1H\r\n" = bytesOf ";1" ++ [0x48, 0x0d, 0x0a] := by decide
  have hcodes : codesText [row + 1, 1] = toString (row + 1) ++ ";1" := by
    have hone : toString 1 = "1" := rfl
    have hsep : ";" ++ "1" = ";1" := rfl
    rw [codesText, List.map_cons, List.map_singleton, String.intercalate_cons_cons,
      String.intercalate_singleton, hone, String.append_assoc, hsep]
  rw [belowBytes, bytesOf_append, bytesOf_append, hstart, hend]
  change _ = esc :: 0x5b :: (bytesOf (codesText [row + 1, 1]) ++ [] ++ [0x48]) ++ [0x0d, 0x0a]
  rw [hcodes, bytesOf_append]
  simp

theorem moveToRow_params (row : Nat) :
    (moveToRow row).params.dropWhile isMarker = (moveToRow row).params ∧
      (moveToRow row).params.takeWhile isMarker = [] := by
  have hnone : ∀ b ∈ (moveToRow row).params, ¬ isMarker b = true := by
    intro b hb
    rw [(mem_codesText hb).2.1]
    decide
  refine ⟨List.dropWhile_eq_self_iff.mpr fun hpos => ?_,
    List.takeWhile_eq_nil_iff.mpr fun hpos => ?_⟩
  · exact hnone _ (List.getElem_mem _)
  · exact hnone _ (List.get_mem _ _)

theorem moveToRow_groups (row : Nat) : (moveToRow row).groups = [[row + 1], [1]] := by
  rw [ControlSequence.groups_of_plain (moveToRow_params row).1
    fun hmem => (mem_codesText hmem).2.2 rfl]
  exact congrArg (List.map _) (plainValues_codesText (List.cons_ne_nil _ _))

theorem moveToRow_plain (row : Nat) : (Control.sequence (moveToRow row)).Plain := by
  have hfinal : byteClass 0x48 = .final := by decide
  refine ⟨⟨?_, ?_, ?_, hfinal⟩, ?_, ?_⟩
  · exact fun b hb => (mem_codesText hb).1
  · exact fun b hb => (mem_codesText (List.mem_of_mem_tail hb)).2.1
  · exact List.forall_mem_nil _
  · rw [moveToRow_groups]
    exact (by decide : 2 ≤ 32)
  · rw [ControlSequence.marker, (moveToRow_params row).2]
    exact Nat.zero_le _

/-- The grid has at most 65535 rows. -/
theorem moveToRow_call {row : Nat}
    (h : row < 2 ^ 16 - 1) :
    (Control.sequence (moveToRow row)).call = moveCall row := by
  have hrow : min (row + 1) 65535 = row + 1 := Nat.min_eq_left (by omega)
  have hnumbers : takeNumbers 32 [[row + 1], [1]] = [[row + 1], [1]] := rfl
  have hcall : dispatched (moveToRow row) = ⟨[[row + 1], [1]], [], 'H'⟩ := by
    rw [dispatched, moveToRow_groups, hnumbers, ControlSequence.marker, (moveToRow_params row).2]
    simp [hrow, moveToRow]
  rw [Control.call, hcall]
  rfl

theorem not_mem_belowBytes (row : Nat) :
    ∃ body, belowBytes row = esc :: body ∧ esc ∉ body ∧ 0x3f ∉ body := by
  refine ⟨(Control.sequence (moveToRow row)).body ++ [0x0d, 0x0a], ?_, ?_, ?_⟩
  · rw [belowBytes_eq, Control.bytes_eq]
    rfl
  · intro hmem
    rcases List.mem_append.mp hmem with hbody | hend
    · exact absurd ((moveToRow_plain row).text esc hbody).1 (by decide)
    · exact absurd hend (by decide)
  · intro hmem
    rcases List.mem_append.mp hmem with hbody | hend
    · rcases List.mem_cons.mp hbody with heq | hparams
      · exact absurd heq (by decide)
      · rw [List.mem_append, List.mem_append] at hparams
        rcases hparams with (hparam | hnone) | hfinal
        · exact absurd (mem_codesText hparam).2.1 (by decide)
        · cases hnone
        · exact absurd hfinal (by change ¬ (0x3f : UInt8) ∈ [0x48]; decide)
    · exact absurd hend (by decide)

/-- No switch of screens is in the move. -/
theorem strip_belowBytes (row : Nat) (active : Bool) :
    stripStrayAlternateScreenExits (belowBytes row) active = belowBytes row := by
  obtain ⟨body, hbody, hesc, hmarker⟩ := not_mem_belowBytes row
  have hnone : alternateScreenSwitchLen (belowBytes row) = none := by
    rw [hbody]
    unfold alternateScreenSwitchLen
    split
    · rename_i heq
      rw [List.cons.injEq] at heq
      rw [heq.2] at hmarker
      exact absurd (List.mem_cons_of_mem _ List.mem_cons_self) hmarker
    · rfl
  rw [stripStrayExits_eq_scan]
  rw [hbody] at hnone ⊢
  rw [stripStrayExitsFrom_byte hnone, ← stripStrayExits_eq_scan,
    stripStrayAlternateScreenExits_of_no_esc active hesc]

/-- The performer's cursor alone moves. -/
theorem performAll_belowCalls (p : ScreenPerformer) (row : Nat) :
    ∃ cursorRow cursorCol, p.performAll (belowCalls row) =
      { p with cursorRow := cursorRow, cursorCol := cursorCol } :=
  ⟨_, _, rfl⟩

end Controls

section Laws

/-- A parser that starts at rest, carries out the ends of lines, and is never left in a
character by ASCII. -/
class LineParser (P : Type u) [VteParser P] [ControlParser P] : Prop where
  fresh : ControlParser.atRest (VteParser.new : P) = true
  ascii : ∀ (parser : P) (b : UInt8), b < 0x80 →
    ControlParser.swallows (VteParser.advance parser b).1 = false
  lineEnd : ∀ (parser : P) (b : UInt8), ControlParser.atRest parser = true → endsLine b = true →
    (VteParser.advance parser b).2 = [.execute b] ∧
      ControlParser.atRest (VteParser.advance parser b).1 = true

/-- What ends the cleanup: the margins, the origin mode and the attributes are reset. -/
def homeCalls : List VteCall :=
  [.csiDispatch [[0]] [] false 'r', modeCall 6 'l', .csiDispatch [[0]] [] false 'm']

/-- The state of a grid that moves of the cursor depend on. -/
class RegionGrid (G : Type v) where
  /-- The margins are those of the screen, the origin mode is off, and the view is not
  scrolled back. -/
  wholeScreen : G → Prop
  /-- The view of neither screen is scrolled back. -/
  unscrolled : G → Prop

/-- The cursor alone has moved. -/
structure MovedTo {G : Type v} [Vt100Parser G] [RegionGrid G] (g g' : G) (position : Nat × Nat) :
    Prop where
  cells : cell g' = cell g
  cursor : cursorPosition g' = position
  whole : RegionGrid.wholeScreen g → RegionGrid.wholeScreen g'

/-- Output scrolls no view back. -/
class ViewGrid (G : Type v) [Vt100Parser G] [RegionGrid G] : Prop where
  unscrolled_new : ∀ rows cols len : Nat,
    RegionGrid.unscrolled (Vt100Parser.new rows cols len : G)
  unscrolled_process : ∀ (g : G) (data : Bytes),
    RegionGrid.unscrolled g → RegionGrid.unscrolled (process g data)

/-- The documented behaviour of a grid's cursor. -/
class LawfulRegion (Q : outParam (Type u)) (G : Type v) [VteParser Q] [Vt100Parser G]
    [CallGrid Q G] [RegionGrid G] : Prop where
  cell_within : ∀ (g : G) (row col : Nat) (c : Cell), cell g row col = some c →
    row < (size g).1 ∧ col < (size g).2
  unscrolled_perform : ∀ (g : G) (call : VteCall), RegionGrid.unscrolled g →
    RegionGrid.unscrolled (CallGrid.perform g call)
  size_perform : ∀ (g : G) (call : VteCall), size (CallGrid.perform g call) = size g
  whole_process : ∀ (g : G) (data : Bytes),
    RegionGrid.wholeScreen ((callsOver (CallGrid.parser g) data).foldl CallGrid.perform g) →
      RegionGrid.wholeScreen (process g data)
  whole_home : ∀ g : G, RegionGrid.unscrolled g →
    RegionGrid.wholeScreen (homeCalls.foldl CallGrid.perform g)
  moveTo : ∀ (g : G) (row : Nat), RegionGrid.wholeScreen g → row < (size g).1 →
    MovedTo g (CallGrid.perform g (moveCall row)) (row, 0)
  carriageReturn : ∀ g : G,
    MovedTo g (CallGrid.perform g (.execute 0x0d)) ((cursorPosition g).1, 0)
  lineFeed : ∀ g : G, RegionGrid.wholeScreen g → (cursorPosition g).1 + 1 < (size g).1 →
    MovedTo g (CallGrid.perform g (.execute 0x0a))
      ((cursorPosition g).1 + 1, (cursorPosition g).2)
  scroll : ∀ g : G, RegionGrid.wholeScreen g → (cursorPosition g).1 + 1 = (size g).1 →
    cursorPosition (CallGrid.perform g (.execute 0x0a)) = cursorPosition g ∧
      ∀ col c, cell (CallGrid.perform g (.execute 0x0a)) (cursorPosition g).1 col = some c →
        c.hasContents = false
  attributes_below : ∀ (g : G) (row : Nat),
    ∀ call ∈ belowCalls row, CallGrid.attributes (CallGrid.perform g call) = CallGrid.attributes g

end Laws

section Moves

variable {P : Type u} [VteParser P] [ControlParser P]

omit [ControlParser P] in
theorem parserAfter_cons (parser : P) (b : UInt8) (rest : Bytes) :
    parserAfter parser (b :: rest) = parserAfter (VteParser.advance parser b).1 rest :=
  rfl

theorem atRest_exitBytes (parser : P) (active : Bool) :
    ControlParser.atRest (parserAfter parser (exitBytes active)) = true := by
  rw [exitBytes, parserAfter_append, parserAfter_cons]
  exact (callsOver_controls_of_atRest (ControlParser.cancel _).2 exitControls_plain).2

theorem callsOver_newLine [LineParser P] {parser : P}
    (hrest : ControlParser.atRest parser = true) :
    callsOver parser [0x0d, 0x0a] = [.execute 0x0d, .execute 0x0a] := by
  obtain ⟨hreturn, hrest'⟩ := LineParser.lineEnd parser 0x0d hrest rfl
  obtain ⟨hfeed, _⟩ := LineParser.lineEnd _ 0x0a hrest' rfl
  rw [callsOver_cons, hreturn, callsOver_cons, hfeed]
  rfl

theorem callsOver_belowBytes [LineParser P] {parser : P} {row : Nat}
    (hrest : ControlParser.atRest parser = true)
    (hrow : row < 2 ^ 16 - 1) :
    callsOver parser (belowBytes row) = belowCalls row := by
  obtain ⟨hnone, hopen⟩ := ControlParser.rest parser hrest
  obtain ⟨hmove, hafter⟩ := ControlParser.control parser _ hopen (moveToRow_plain row)
  rw [belowBytes_eq, callsOver_append, hmove, hnone, moveToRow_call hrow, callsOver_newLine hafter]
  rfl

end Moves

section Lines

variable {Q : Type u} {G : Type v}
variable [VteParser Q] [Vt100Parser G] [CallGrid Q G]

theorem cursorPosition_homeCalls [ControlParser Q] [AsciiDispatch Q] [LawfulCallGrid Q G] (g : G) :
    Vt100Parser.cursorPosition (homeCalls.foldl CallGrid.perform g) = (0, 0) := by
  have hstill : StillCall (.csiDispatch [[0]] [] false 'm') := by decide
  refine (LawfulCallGrid.still _ _ hstill).2.trans ?_
  exact (LawfulCallGrid.homing _ _ (Or.inr rfl)).2

variable [RegionGrid G] [LawfulRegion Q G]

theorem unscrolled_foldl {g : G}
    (h : RegionGrid.unscrolled g)
    (calls : List VteCall) :
    RegionGrid.unscrolled (calls.foldl CallGrid.perform g) := by
  induction calls generalizing g with
  | nil => exact h
  | cons call rest ih => exact ih (LawfulRegion.unscrolled_perform g call h)

/-- The grid after the move: the new line is blank, and so it stands below it where it
did before. -/
theorem perform_belowCalls {g : G} {row : Nat}
    (hwhole : RegionGrid.wholeScreen g)
    (hrow : row < (size g).1) :
    ∃ line, Vt100Parser.cursorPosition ((belowCalls row).foldl CallGrid.perform g) = (line, 0) ∧
      ∀ r col c, line ≤ r → cell ((belowCalls row).foldl CallGrid.perform g) r col = some c →
        c.hasContents = false ∨ row < r ∧ cell g r col = some c := by
  have hmove := LawfulRegion.moveTo g row hwhole hrow
  have hreturn := LawfulRegion.carriageReturn (CallGrid.perform g (moveCall row))
  rw [hmove.cursor] at hreturn
  have hsize : size (CallGrid.perform (CallGrid.perform g (moveCall row)) (.execute 0x0d)) =
      size g :=
    (LawfulRegion.size_perform _ _).trans (LawfulRegion.size_perform _ _)
  have hcells := hreturn.cells.trans hmove.cells
  have hwhole' := hreturn.whole (hmove.whole hwhole)
  have hlow : row + 1 < (size g).1 ∨ row + 1 = (size g).1 := by omega
  rcases hlow with hroom | hbottom
  · have hfeed := LawfulRegion.lineFeed _ hwhole' (by rw [hreturn.cursor, hsize]; exact hroom)
    rw [hreturn.cursor] at hfeed
    refine ⟨row + 1, hfeed.cursor, fun r col c hr hc => Or.inr ⟨hr, ?_⟩⟩
    have hsame := congrFun (congrFun (hfeed.cells.trans hcells) r) col
    exact hsame.symm.trans hc
  · obtain ⟨hstays, hblank⟩ :=
      LawfulRegion.scroll _ hwhole' (by rw [hreturn.cursor, hsize]; exact hbottom)
    rw [hreturn.cursor] at hstays hblank
    refine ⟨row, hstays, fun r col c hr hc => Or.inl ?_⟩
    have hin := (LawfulRegion.cell_within _ _ _ _ hc).1
    have hlast : (size ((belowCalls row).foldl CallGrid.perform g)).1 = (size g).1 :=
      congrArg Prod.fst ((LawfulRegion.size_perform _ _).trans hsize)
    have heq : r = row := by omega
    exact hblank col c (heq ▸ hc)

end Lines

end Server
end Rttx
