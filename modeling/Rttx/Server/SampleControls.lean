import Rttx.Server.CallGrid

/-!
# A small terminal that takes controls

A parser that reports text, control bytes, escape sequences and control sequences,
and a one-line grid that performs the calls of such a parser: it draws text, keeps
the modes, the encoding of the mouse and the pen, and moves its cursor home.

**Results.**
* the small parser and the small grid are lawful, so theorems about parsers and
  grids that take controls apply to them.
-/

namespace Rttx
namespace Server

open Kernel

section PlainParser

/-- The parser of control sequences that reports text and escape sequences too. -/
structure PlainParser where
  scan : ScanState
deriving DecidableEq

namespace PlainParser

def calls (parser : PlainParser) (b : UInt8) : List VteCall :=
  if b = cancelByte then
    [.execute b]
  else
    match parser.scan with
    | .outside =>
        if 0x20 ≤ b ∧ b < 0x7f then [.print (Char.ofNat b.toNat)]
        else if b < 0x20 ∧ b ≠ esc then [.execute b]
        else []
    | .escape =>
        if byteClass b = .parameter ∨ b = 0x63 then [.escDispatch [] false b] else []
    | _ => (parser.scan.step b).2.toList.map fun c => (dispatched c).call

instance : VteParser PlainParser where
  new := ⟨.outside⟩
  advance parser b := (⟨(parser.scan.step b).1⟩, parser.calls b)

theorem advance_eq (parser : PlainParser) (b : UInt8) :
    VteParser.advance parser b = (⟨(parser.scan.step b).1⟩, parser.calls b) :=
  rfl

theorem calls_esc (parser : PlainParser) : parser.calls esc = [] := by
  obtain ⟨scan⟩ := parser
  cases scan <;> rfl

/-- In a sequence only its last byte is reported. -/
theorem calls_collecting {params intermediates : Bytes} {b : UInt8}
    (h : byteClass b = .parameter ∨ byteClass b = .intermediate) :
    (PlainParser.mk (.collecting params intermediates)).calls b = [] := by
  have hne : b ≠ cancelByte := by
    rintro rfl
    rcases h with h | h <;> cases h
  have hnone : ((ScanState.collecting params intermediates).step b).2 = none := by
    rcases h with h | h
    · simp only [ScanState.step, h]
      split <;> rfl
    · simp only [ScanState.step, h]
  simp only [calls, if_neg hne, hnone]
  rfl

theorem parserAfter_scan (parser : PlainParser) (data : Bytes) :
    parserAfter parser data = ⟨parser.scan.run data⟩ := by
  induction data generalizing parser with
  | nil => rfl
  | cons b rest ih => exact ih _

theorem callsOver_params {params : Bytes}
    (h : ∀ b ∈ params, byteClass b = .parameter)
    (front : Bytes)
    (hmarkers : ∀ b ∈ (front ++ params).tail, isMarker b = false) :
    callsOver (PlainParser.mk (.collecting front [])) params = [] := by
  induction params generalizing front with
  | nil => rfl
  | cons b rest ih =>
      have hsnoc : front ++ b :: rest = front ++ [b] ++ rest := List.append_cons front b rest
      rw [hsnoc] at hmarkers
      have hone : (ScanState.collecting front []).run [b] = .collecting (front ++ [b]) [] :=
        ControlSequence.run_params
          (fun c hc => h c (List.mem_singleton.mp hc ▸ List.mem_cons_self)) front
          (fun c hc => hmarkers c (by
            rw [List.tail_append_of_ne_nil (by simp)]
            exact List.mem_append_left _ hc))
      have hstep : ((ScanState.collecting front []).step b).1 = .collecting (front ++ [b]) [] :=
        hone
      rw [callsOver_cons, advance_eq, calls_collecting (Or.inl (h b List.mem_cons_self)), hstep]
      exact ih (fun c hc => h c (List.mem_cons_of_mem _ hc)) _ hmarkers

theorem callsOver_intermediates {intermediates : Bytes}
    (h : ∀ b ∈ intermediates, byteClass b = .intermediate)
    (params front : Bytes) :
    callsOver (PlainParser.mk (.collecting params front)) intermediates = [] := by
  induction intermediates generalizing front with
  | nil => rfl
  | cons b rest ih =>
      have hstep : ((ScanState.collecting params front).step b).1 =
          .collecting params (front ++ [b]) := by
        simp [ScanState.step, h b List.mem_cons_self]
      rw [callsOver_cons, advance_eq, calls_collecting (Or.inr (h b List.mem_cons_self)), hstep]
      exact ih (fun c hc => h c (List.mem_cons_of_mem _ hc)) _

theorem calls_final {c : ControlSequence}
    (h : byteClass c.final = .final) :
    (PlainParser.mk (.collecting c.params c.intermediates)).calls c.final =
      [(dispatched c).call] := by
  have hne : c.final ≠ cancelByte := by
    intro heq
    rw [heq] at h
    cases h
  simp [calls, hne, ScanState.step, h]

/-- The parser reports a whole sequence, whatever it was in. -/
theorem callsOver_sequence {c : ControlSequence}
    (h : c.WellFormed)
    (parser : PlainParser) :
    callsOver parser c.bytes = [(dispatched c).call] ∧
      parserAfter parser c.bytes = ⟨.outside⟩ := by
  have hparams : (ScanState.collecting [] []).run c.params = .collecting c.params [] :=
    ControlSequence.run_params h.params [] h.markers
  have hinter : (ScanState.collecting c.params []).run c.intermediates =
      .collecting c.params c.intermediates :=
    ControlSequence.run_intermediates h.intermediates c.params []
  have hopen : ∀ data : Bytes, callsOver parser (escapeByte :: 0x5b :: data) =
      callsOver (PlainParser.mk (.collecting [] [])) data := by
    intro data
    rw [callsOver_cons, callsOver_cons]
    exact congrArg (· ++ callsOver (PlainParser.mk (.collecting [] [])) data)
      (calls_esc parser)
  constructor
  · rw [ControlSequence.bytes, hopen, callsOver_append, callsOver_append, parserAfter_append,
      parserAfter_scan _ c.params, hparams, parserAfter_scan _ c.intermediates, hinter,
      callsOver_params h.params [] h.markers, callsOver_intermediates h.intermediates,
      callsOver_cons, advance_eq, calls_final h.final]
    rfl
  · rw [parserAfter_scan]
    have hrun : parser.scan.run c.bytes =
        (ScanState.collecting [] []).run (c.params ++ c.intermediates ++ [c.final]) := rfl
    rw [hrun, ScanState.run_append, ScanState.run_append, hparams, hinter]
    simp [ScanState.run, ScanState.step, h.final]

instance : ControlParser PlainParser where
  atRest parser := parser.scan == .outside
  swallows _ := false
  leaving parser call hcall := by
    rw [advance_eq, calls_esc] at hcall
    cases hcall
  rest parser _ := ⟨calls_esc parser, rfl⟩
  control parser k _ hplain := by
    cases k with
    | sequence c =>
        obtain ⟨hcalls, hafter⟩ := callsOver_sequence hplain.1 parser
        refine ⟨?_, ?_⟩
        · rw [advance_eq, calls_esc]
          exact hcalls
        · exact (congrArg (fun p : PlainParser => p.scan == .outside) hafter).trans rfl
    | escape b =>
        have hclass : byteClass b = .parameter := hplain
        have hne : b ≠ cancelByte := by
          rintro rfl
          cases hclass
        have hcall : (PlainParser.mk .escape).calls b = [.escDispatch [] false b] := by
          simp [calls, hne, hclass]
        have hstep : (ScanState.escape.step b).1 = .outside := by
          simp [ScanState.step, hclass]
        refine ⟨?_, ?_⟩
        · have hbytes : callsOver parser (Control.escape b).bytes =
              parser.calls esc ++ ((PlainParser.mk .escape).calls b ++ []) := rfl
          rw [hbytes, hcall, advance_eq]
          rfl
        · have hafter : parserAfter parser (Control.escape b).bytes =
              ⟨(ScanState.escape.step b).1⟩ := rfl
          rw [hafter, hstep]
          rfl
  cancel parser := by
    refine ⟨?_, rfl⟩
    intro call hcall
    have hcalls : (VteParser.advance parser cancelByte).2 = [.execute cancelByte] := by
      rw [advance_eq, calls, if_pos rfl]
    rw [hcalls, List.mem_singleton] at hcall
    rw [hcall]
    rfl
  swallow parser b hswallows _ := Bool.noConfusion hswallows
  text parser b hrest hlow hhigh := by
    obtain ⟨scan⟩ := parser
    have hscan : scan = .outside := by simpa using hrest
    subst hscan
    have hcancel : b ≠ cancelByte := by
      rintro rfl
      exact absurd hlow (by decide)
    have hesc : b ≠ escapeByte := by
      rintro rfl
      exact absurd hlow (by decide)
    refine ⟨?_, ?_⟩
    · simp [advance_eq, calls, hcancel, hlow, hhigh]
    · rw [advance_eq, ScanState.step_outside hesc]
      rfl

/-- Nothing beyond ASCII ends a sequence. -/
instance : AsciiDispatch PlainParser where
  high_calls parser b hb call hcall := by
    have hclass : byteClass b ≠ .parameter ∧ byteClass b ≠ .final := by
      rw [ne_eq, ne_eq, byteClass_parameter_iff, byteClass_final_iff]
      simp only [Bool.and_eq_true, decide_eq_true_eq, UInt8.le_iff_toNat_le,
        UInt8.reduceToNat] at hb ⊢
      omega
    have hreset : b ≠ 0x63 := by
      rintro rfl
      exact absurd hb (by decide)
    have hnone : (parser.scan.step b).2 = none := by
      cases hends : (parser.scan.step b).2 with
      | none => rfl
      | some c => exact absurd (ScanState.step_eq_some hends).1 hclass.2
    rw [advance_eq, calls] at hcall
    split at hcall
    · rw [List.mem_singleton.mp hcall]
      rfl
    · split at hcall
      · split at hcall
        · rw [List.mem_singleton.mp hcall]
          rfl
        · split at hcall
          · rw [List.mem_singleton.mp hcall]
            rfl
          · cases hcall
      · rw [if_neg (not_or.mpr ⟨hclass.1, hreset⟩)] at hcall
        cases hcall
      · rw [hnone] at hcall
        cases hcall

end PlainParser

end PlainParser

section PlainGrid

/-- A grid of one line of text. -/
structure PlainGrid where
  rows : Nat
  cols : Nat
  text : List Char
  cursor : Nat × Nat
  modes : ScreenModes
  encoding : MouseProtocolEncoding
  attributes : Attributes
  parser : PlainParser
deriving DecidableEq

namespace PlainGrid

/-- What a call does to the text, the cursor and the pen. -/
def draw (g : PlainGrid) (call : VteCall) : PlainGrid :=
  if HomingCall call then
    { g with cursor := (0, 0) }
  else
    match call with
    | .print c => { g with text := g.text ++ [c], cursor := (g.cursor.1, g.cursor.2 + 1) }
    | .csiDispatch params [] _ 'm' =>
        { g with attributes :=
            if params = [[1]] then { g.attributes with bold := true } else .default }
    | _ => g

def perform (g : PlainGrid) (call : VteCall) : PlainGrid :=
  { g.draw call with
    modes := g.modes.applied call
    encoding := g.encoding.applied call }

def process (g : PlainGrid) (data : Bytes) : PlainGrid :=
  { (callsOver g.parser data).foldl perform g with parser := parserAfter g.parser data }

def cell (g : PlainGrid) (row col : Nat) : Option Cell :=
  if row < g.rows ∧ col < g.cols then
    let contents := if row = 0 then (g.text[col]?.map fun c => String.ofList [c]).getD "" else ""
    some ⟨contents, false, .default, .default, false, false, false, false, false⟩
  else
    none

instance : Vt100Parser PlainGrid where
  new := fun rows cols _ => ⟨rows, cols, [], (0, 0), .off, .default, .default, ⟨.outside⟩⟩
  process := process
  setSize := fun g rows cols => { g with rows := rows, cols := cols }
  setScrollback := fun g _ => g
  size := fun g => (g.rows, g.cols)
  scrollback := fun _ => 0
  alternateScreen := fun g => g.modes.alternateScreen
  cursorPosition := fun g => g.cursor
  cell := cell
  rowWrapped := fun _ _ => false
  contentsFormatted := fun _ => []
  applicationKeypad := fun g => g.modes.applicationKeypad
  applicationCursor := fun g => g.modes.applicationCursorKeys
  bracketedPaste := fun g => g.modes.bracketedPaste
  mouseProtocolMode := fun g => g.modes.mouse.protocolMode
  mouseProtocolEncoding := fun g => g.encoding
  hideCursor := fun g => !g.modes.cursorVisible

instance : CallGrid PlainParser PlainGrid where
  parser := PlainGrid.parser
  perform := perform
  attributes := PlainGrid.attributes

theorem gridModes_eq (g : PlainGrid) : gridModes g = g.modes := by
  have hmouse : g.modes.mouse.protocolMode.mouseMode = g.modes.mouse := by
    cases g.modes.mouse <;> rfl
  rw [ScreenModes.mk.injEq]
  exact ⟨rfl, rfl, rfl, hmouse, Bool.not_not _, rfl⟩

/-- A call that neither prints nor homes leaves the text and the cursor. -/
theorem draw_of_still {call : VteCall}
    (h : StillCall call)
    (g : PlainGrid) :
    (g.draw call).text = g.text ∧ (g.draw call).cursor = g.cursor ∧
      ((g.draw call).rows, (g.draw call).cols) = (g.rows, g.cols) := by
  have hhoming : ¬ HomingCall call := by
    rintro (rfl | rfl) <;> exact absurd h (by decide)
  unfold draw
  rw [if_neg hhoming]
  cases call with
  | print c => exact h.elim
  | csiDispatch params intermediates ignore action =>
      dsimp only
      split <;> first | exact ⟨rfl, rfl, rfl⟩ | (rename_i heq; cases heq)
  | _ => exact ⟨rfl, rfl, rfl⟩

theorem cell_congr {g g' : PlainGrid}
    (htext : g'.text = g.text)
    (hsize : (g'.rows, g'.cols) = (g.rows, g.cols)) :
    g'.cell = g.cell := by
  obtain ⟨hrows, hcols⟩ := Prod.mk.inj hsize
  funext row col
  rw [cell, cell, htext, hrows, hcols]

instance : LawfulCallGrid PlainParser PlainGrid where
  resumes _ := rfl
  parser_process _ _ := rfl
  readout_process _ _ := rfl
  modes_perform g call := (gridModes_eq _).trans
    (congrArg (fun m : ScreenModes => m.applied call) (gridModes_eq g).symm)
  encoding_perform _ _ := rfl
  attributes_reset _ := rfl
  still g call hstill := by
    obtain ⟨htext, hcursor, hsize⟩ := draw_of_still hstill g
    exact ⟨cell_congr htext hsize, hcursor⟩
  homing g call hhoming := by
    have hdraw : g.draw call = { g with cursor := (0, 0) } := if_pos hhoming
    have htext : (g.draw call).text = g.text := by rw [hdraw]
    have hsize : ((g.draw call).rows, (g.draw call).cols) = (g.rows, g.cols) := by rw [hdraw]
    exact ⟨cell_congr htext hsize, congrArg PlainGrid.cursor hdraw⟩

end PlainGrid

end PlainGrid

end Server
end Rttx
