import Rttx.Server.GridStream
import Rttx.Server.ModeCalls
import Rttx.Server.SampleTerminal

/-!
# The two mode trackers of a screen

The performer keeps flags for six terminal modes, and so does the cell grid,
which runs a parser of its own over the same output.  What a client is told of a
pane's modes comes from the flags, what it is fed when it attaches from the grid.

Each call of the parser is a step of both, and they differ on some: the grid
knows mode 47 and the performer 1047, the grid keeps mouse mode 9 and resets only
the mouse mode that is on, a full reset is one for the grid alone, and the
performer passes over some bytes that make a sequence another one.

**Results.**
* `alikeParam_iff`: the parameters that both take alike.
* `performed_eq_applied`: calls that both take alike keep the modes equal.
* `screenModes_agree`: so after any output whose calls are such.
-/

namespace Rttx
namespace Server

open Kernel

universe u v

section Modes

/-- The modes that the performer and the grid both keep. -/
structure ScreenModes where
  applicationCursorKeys : Bool
  applicationKeypad : Bool
  bracketedPaste : Bool
  mouse : MouseMode
  cursorVisible : Bool
  alternateScreen : Bool
deriving DecidableEq, Repr

def ScreenPerformer.screenModes (p : ScreenPerformer) : ScreenModes where
  applicationCursorKeys := p.applicationCursorKeys
  applicationKeypad := p.applicationKeypad
  bracketedPaste := p.bracketedPasteMode
  mouse := mouseModeFromTrackingValue p.mouseTrackingMode
  cursorVisible := p.cursorVisible
  alternateScreen := p.alternateScreen

/-- The wire's name of a mouse mode of the grid. -/
def MouseProtocolMode.mouseMode : MouseProtocolMode → MouseMode
  | none => .none
  | press => .x10
  | pressRelease => .normal
  | buttonMotion => .button
  | anyMotion => .any

def gridModes {G : Type v} [Vt100Parser G] (g : G) : ScreenModes where
  applicationCursorKeys := Vt100Parser.applicationCursor g
  applicationKeypad := Vt100Parser.applicationKeypad g
  bracketedPaste := Vt100Parser.bracketedPaste g
  mouse := (Vt100Parser.mouseProtocolMode g).mouseMode
  cursorVisible := !Vt100Parser.hideCursor g
  alternateScreen := Vt100Parser.alternateScreen g

namespace ScreenModes

def off : ScreenModes :=
  ⟨false, false, false, .none, true, false⟩

/-- DECSET / DECRST of one mode, as the performer takes it. -/
def setPrivate (enabled : Bool) (m : ScreenModes) (mode : Nat) : ScreenModes :=
  let mouse := fun (on : MouseMode) => if enabled then on else .none
  match mode with
  | 1 => { m with applicationCursorKeys := enabled }
  | 25 => { m with cursorVisible := enabled }
  | 1000 => { m with mouse := mouse .normal }
  | 1002 => { m with mouse := mouse .button }
  | 1003 => { m with mouse := mouse .any }
  | 1047 => { m with alternateScreen := enabled }
  | 1049 => { m with alternateScreen := enabled }
  | 2004 => { m with bracketedPaste := enabled }
  | _ => m

def setParam (enabled : Bool) (m : ScreenModes) (param : List Nat) : ScreenModes :=
  (ScreenPerformer.subparam param).elim m (m.setPrivate enabled)

/-- Set a mouse mode, or reset it if it is the one that is on. -/
def setMouse (enabled : Bool) (m : ScreenModes) (mode : MouseMode) : ScreenModes :=
  { m with mouse := if enabled then mode else if m.mouse = mode then .none else m.mouse }

/-- DECSET / DECRST of one parameter, as the grid takes it. -/
def setGridParam (enabled : Bool) (m : ScreenModes) (param : List Nat) : ScreenModes :=
  match param with
  | [1] => { m with applicationCursorKeys := enabled }
  | [9] => m.setMouse enabled .x10
  | [25] => { m with cursorVisible := enabled }
  | [47] => { m with alternateScreen := enabled }
  | [1000] => m.setMouse enabled .normal
  | [1002] => m.setMouse enabled .button
  | [1003] => m.setMouse enabled .any
  | [1049] => { m with alternateScreen := enabled }
  | [2004] => { m with bracketedPaste := enabled }
  | _ => m

/-- One call of the parser, as the performer takes it. -/
def performed (m : ScreenModes) : VteCall → ScreenModes
  | .csiDispatch params intermediates _ action =>
      if intermediates = bytesOf "?" ∧ (action = 'h' ∨ action = 'l') then
        params.foldl (setParam (action == 'h')) m
      else
        m
  | .escDispatch _ _ byte =>
      if byte = 0x3d then { m with applicationKeypad := true }
      else if byte = 0x3e then { m with applicationKeypad := false }
      else m
  | _ => m

/-- One call of the parser, as the grid takes it. -/
def applied (m : ScreenModes) : VteCall → ScreenModes
  | .csiDispatch params intermediates _ action =>
      if intermediates.head? = some 0x3f ∧ (action = 'h' ∨ action = 'l') then
        params.foldl (setGridParam (action == 'h')) m
      else
        m
  | .escDispatch intermediates _ byte =>
      if intermediates = [] then
        if byte = 0x3d then { m with applicationKeypad := true }
        else if byte = 0x3e then { m with applicationKeypad := false }
        else if byte = 0x63 then off
        else m
      else
        m
  | _ => m

end ScreenModes

end Modes

section Performer

theorem setPrivateMode_screenModes (enabled : Bool) (p : ScreenPerformer) (param : List Nat) :
    (p.setPrivateMode enabled param).screenModes = p.screenModes.setParam enabled param := by
  unfold ScreenModes.setParam ScreenPerformer.setPrivateMode
  cases hparam : ScreenPerformer.subparam param with
  | none => rfl
  | some mode =>
      rw [Option.elim_some]
      unfold ScreenModes.setPrivate
      dsimp only
      by_cases hknown : mode ∈ [1, 25, 1000, 1002, 1003, 1004, 1006, 1047, 1049, 2004]
      · simp only [List.mem_cons, List.mem_nil_iff, or_false] at hknown
        rcases hknown with rfl | rfl | rfl | rfl | rfl | rfl | rfl | rfl | rfl | rfl <;>
          cases enabled <;> rfl
      · simp only [List.mem_cons, List.mem_nil_iff, or_false, not_or] at hknown
        obtain ⟨h1, h25, h1000, h1002, h1003, h1004, h1006, h1047, h1049, h2004⟩ := hknown
        -- Neither side knows the mode.
        split <;> first | (rename_i heq; cases heq; contradiction) | skip
        split <;> first | contradiction | rfl

theorem setPrivateModes_screenModes (enabled : Bool) (p : ScreenPerformer)
    (params : List (List Nat)) :
    (params.foldl (ScreenPerformer.setPrivateMode enabled) p).screenModes =
      params.foldl (ScreenModes.setParam enabled) p.screenModes := by
  induction params generalizing p with
  | nil => rfl
  | cons param rest ih =>
      rw [List.foldl_cons, ih, setPrivateMode_screenModes]
      rfl

theorem SameModes.screenModes {p q : ScreenPerformer}
    (h : SameModes p q) :
    q.screenModes = p.screenModes := by
  rw [← h]
  rfl

/-- The performer's modes after a call. -/
theorem perform_screenModes (p : ScreenPerformer) (call : VteCall) :
    (p.perform call).screenModes = p.screenModes.performed call := by
  cases call with
  | csiDispatch params intermediates ignore action =>
      rw [ScreenPerformer.perform, ScreenModes.performed]
      by_cases hmode : intermediates = bytesOf "?" ∧ (action = 'h' ∨ action = 'l')
      · rw [if_pos hmode, ← setPrivateModes_screenModes]
        unfold ScreenPerformer.csiDispatch
        rw [if_pos hmode]
      · rw [if_neg hmode]
        exact (csiDispatch_sameModes p hmode).screenModes
  | escDispatch intermediates ignore byte =>
      simp only [ScreenPerformer.perform, ScreenPerformer.escDispatch, ScreenModes.performed]
      split_ifs <;> rfl
  | execute byte =>
      simp only [ScreenPerformer.perform, ScreenPerformer.execute]
      split_ifs <;> rfl
  | _ => rfl

theorem performAll_screenModes (p : ScreenPerformer) (calls : List VteCall) :
    (p.performAll calls).screenModes = calls.foldl ScreenModes.performed p.screenModes := by
  induction calls generalizing p with
  | nil => rfl
  | cons call rest ih =>
      rw [List.foldl_cons, ← perform_screenModes]
      exact ih _

end Performer

section Alike

/-- A parameter of DECSET or DECRST that the performer and the grid take alike
when these modes are on. -/
def AlikeParam (enabled : Bool) (m : ScreenModes) (param : List Nat) : Prop :=
  match param with
  | [] => True
  | [mode] =>
      if mode = 47 ∨ mode = 1047 then
        m.alternateScreen = enabled
      else if mode = 9 then
        m.mouse = .x10 ↔ enabled = true
      else if isTracking mode then
        enabled = true ∨ m.mouse = .none ∨ m.mouse = mouseModeFromTrackingValue mode
      else
        True
  | mode :: _ => m.setPrivate enabled mode = m

theorem setPrivate_of_unknown {mode : Nat}
    (h : mode ∉ [1, 25, 1000, 1002, 1003, 1047, 1049, 2004])
    (enabled : Bool)
    (m : ScreenModes) :
    m.setPrivate enabled mode = m := by
  simp only [List.mem_cons, List.mem_nil_iff, or_false, not_or] at h
  obtain ⟨h1, h25, h1000, h1002, h1003, h1047, h1049, h2004⟩ := h
  unfold ScreenModes.setPrivate
  dsimp only
  split <;> first | contradiction | rfl

theorem setGridParam_of_unknown {mode : Nat}
    (h : mode ∉ [1, 9, 25, 47, 1000, 1002, 1003, 1049, 2004])
    (enabled : Bool)
    (m : ScreenModes) :
    m.setGridParam enabled [mode] = m := by
  simp only [List.mem_cons, List.mem_nil_iff, or_false, not_or] at h
  obtain ⟨h1, h9, h25, h47, h1000, h1002, h1003, h1049, h2004⟩ := h
  unfold ScreenModes.setGridParam
  split <;> first | (rename_i heq; cases heq; contradiction) | rfl

/-- **The parameters that both take alike.** -/
theorem alikeParam_iff (enabled : Bool) (m : ScreenModes) (param : List Nat) :
    m.setParam enabled param = m.setGridParam enabled param ↔ AlikeParam enabled m param := by
  match param with
  | [] => exact iff_of_true rfl trivial
  | [mode] =>
      have hparam : m.setParam enabled [mode] = m.setPrivate enabled mode := rfl
      rw [hparam]
      by_cases hknown : mode ∈ [1, 9, 25, 47, 1000, 1002, 1003, 1047, 1049, 2004]
      · obtain ⟨keys, keypad, paste, mouse, visible, alternate⟩ := m
        simp only [List.mem_cons, List.mem_nil_iff, or_false] at hknown
        rcases hknown with rfl | rfl | rfl | rfl | rfl | rfl | rfl | rfl | rfl | rfl <;>
          cases enabled <;> cases mouse <;>
          simp [ScreenModes.setPrivate, ScreenModes.setGridParam, ScreenModes.setMouse,
            AlikeParam, isTracking, mouseModeFromTrackingValue]
      · simp only [List.mem_cons, List.mem_nil_iff, or_false, not_or] at hknown
        obtain ⟨h1, h9, h25, h47, h1000, h1002, h1003, h1047, h1049, h2004⟩ := hknown
        have hperformer : m.setPrivate enabled mode = m :=
          setPrivate_of_unknown (by simp_all) enabled m
        have hgrid : m.setGridParam enabled [mode] = m :=
          setGridParam_of_unknown (by simp_all) enabled m
        rw [hperformer, hgrid]
        refine iff_of_true rfl ?_
        simp [AlikeParam, isTracking, h9, h47, h1000, h1002, h1003, h1047]
  | mode :: second :: rest =>
      have hgrid : m.setGridParam enabled (mode :: second :: rest) = m := by
        unfold ScreenModes.setGridParam
        split <;> first | (rename_i heq; cases heq) | rfl
      rw [hgrid]
      exact Iff.rfl

def AlikeParams (enabled : Bool) : ScreenModes → List (List Nat) → Prop
  | _, [] => True
  | m, param :: rest =>
      AlikeParam enabled m param ∧ AlikeParams enabled (m.setParam enabled param) rest

theorem AlikeParams.foldl_eq {enabled : Bool} {m : ScreenModes} {params : List (List Nat)}
    (h : AlikeParams enabled m params) :
    params.foldl (ScreenModes.setParam enabled) m =
      params.foldl (ScreenModes.setGridParam enabled) m := by
  induction params generalizing m with
  | nil => rfl
  | cons param rest ih =>
      rw [List.foldl_cons, List.foldl_cons, ih h.2, (alikeParam_iff enabled m param).mpr h.1]

/-- A call that both take alike. -/
def AlikeCall (m : ScreenModes) : VteCall → Prop
  | .csiDispatch params intermediates _ action =>
      action = 'h' ∨ action = 'l' →
        if intermediates = bytesOf "?" then
          AlikeParams (action == 'h') m params
        else
          intermediates.head? = some 0x3f →
            params.foldl (ScreenModes.setGridParam (action == 'h')) m = m
  | .escDispatch intermediates _ byte =>
      if intermediates = [] then
        byte = 0x63 → m = .off
      else
        (byte = 0x3d → m.applicationKeypad = true) ∧
          (byte = 0x3e → m.applicationKeypad = false)
  | _ => True

theorem AlikeCall.eq {m : ScreenModes} {call : VteCall}
    (h : AlikeCall m call) :
    m.performed call = m.applied call := by
  cases call with
  | csiDispatch params intermediates ignore action =>
      rw [ScreenModes.performed, ScreenModes.applied]
      by_cases haction : action = 'h' ∨ action = 'l'
      · have halike := h haction
        by_cases hprivate : intermediates = bytesOf "?"
        · rw [if_pos hprivate] at halike
          have hhead : intermediates.head? = some 0x3f := by
            rw [hprivate]
            rfl
          rw [if_pos ⟨hprivate, haction⟩, if_pos ⟨hhead, haction⟩, halike.foldl_eq]
        · rw [if_neg hprivate] at halike
          rw [if_neg (fun hboth => hprivate hboth.1)]
          by_cases hhead : intermediates.head? = some 0x3f
          · rw [if_pos ⟨hhead, haction⟩, halike hhead]
          · rw [if_neg (fun hboth => hhead hboth.1)]
      · rw [if_neg (fun hboth => haction hboth.2), if_neg (fun hboth => haction hboth.2)]
  | escDispatch intermediates ignore byte =>
      rw [ScreenModes.performed, ScreenModes.applied]
      rw [AlikeCall] at h
      by_cases hplain : intermediates = []
      · rw [if_pos hplain] at h
        rw [if_pos hplain]
        by_cases hreset : byte = 0x63
        · rw [h hreset, hreset]
          rfl
        · rw [if_neg hreset]
      · rw [if_neg hplain] at h
        rw [if_neg hplain]
        by_cases hset : byte = 0x3d
        · rw [if_pos hset, ← h.1 hset]
        · by_cases hunset : byte = 0x3e
          · rw [if_neg hset, if_pos hunset, ← h.2 hunset]
          · rw [if_neg hset, if_neg hunset]
  | _ => rfl

/-- Calls that both take alike, one after the other. -/
def AlikeCalls : ScreenModes → List VteCall → Prop
  | _, [] => True
  | m, call :: rest => AlikeCall m call ∧ AlikeCalls (m.performed call) rest

theorem AlikeCalls.front {m : ScreenModes} {first second : List VteCall}
    (h : AlikeCalls m (first ++ second)) :
    AlikeCalls m first := by
  induction first generalizing m with
  | nil => trivial
  | cons call rest ih => exact ⟨h.1, ih h.2⟩

/-- **Calls that both take alike keep the modes equal.** -/
theorem performed_eq_applied {m : ScreenModes} {calls : List VteCall}
    (h : AlikeCalls m calls) :
    calls.foldl ScreenModes.performed m = calls.foldl ScreenModes.applied m := by
  induction calls generalizing m with
  | nil => rfl
  | cons call rest ih => rw [List.foldl_cons, List.foldl_cons, ih h.2, h.1.eq]

end Alike

section Streams

/-- The grid `G` takes the modes of a stream as the parser `P` reports them, unless
an escape byte cuts a character. -/
class ModalGrid (P : Type u) (G : Type v) [VteParser P] [Vt100Parser G] : Prop
    extends StreamGrid G where
  modes_process : ∀ (rows cols len : Nat) (data : Bytes), CharsWhole data →
    gridModes (Vt100Parser.process (Vt100Parser.new rows cols len : G) data) =
      (callsOver (VteParser.new : P) data).foldl ScreenModes.applied .off

theorem performed_of_not_dispatches {call : VteCall}
    (h : call.dispatches = false)
    (m : ScreenModes) :
    m.performed call = m := by
  cases call with
  | csiDispatch params intermediates ignore action => cases h
  | escDispatch intermediates ignore byte => cases h
  | _ => rfl

theorem foldl_performed_of_not_dispatches {calls : List VteCall}
    (h : ∀ call ∈ calls, call.dispatches = false)
    (m : ScreenModes) :
    calls.foldl ScreenModes.performed m = m := by
  induction calls with
  | nil => rfl
  | cons call rest ih =>
      rw [List.foldl_cons, performed_of_not_dispatches (h call List.mem_cons_self)]
      exact ih fun call hcall => h call (List.mem_cons_of_mem _ hcall)

/-- What a client is told of the modes is what the grid has. -/
structure ModesAgree {P : Type u} {G : Type v} [VteParser P] [Vt100Parser G]
    (s : PaneScreen P G) : Prop where
  applicationCursorKeys :
    s.terminalModeState.applicationCursorKeys = Vt100Parser.applicationCursor s.grid
  applicationKeypad :
    s.terminalModeState.applicationKeypad = Vt100Parser.applicationKeypad s.grid
  bracketedPaste : s.terminalModeState.bracketedPaste = Vt100Parser.bracketedPaste s.grid
  mouse : s.terminalModeState.mouseMode = (Vt100Parser.mouseProtocolMode s.grid).mouseMode
  cursorHidden : s.terminalModeState.cursorHidden = Vt100Parser.hideCursor s.grid
  alternateScreen : s.terminalModeState.alternateScreen = Vt100Parser.alternateScreen s.grid

theorem modesAgree_iff {P : Type u} {G : Type v} [VteParser P] [Vt100Parser G]
    {s : PaneScreen P G} :
    ModesAgree s ↔ s.performer.screenModes = gridModes s.grid := by
  rw [ScreenModes.mk.injEq]
  constructor
  · rintro ⟨hkeys, hkeypad, hpaste, hmouse, hhidden, halternate⟩
    refine ⟨hkeys, hkeypad, hpaste, hmouse, ?_, halternate⟩
    change (!s.performer.cursorVisible) = _ at hhidden
    change _ = !Vt100Parser.hideCursor s.grid
    rw [← hhidden, Bool.not_not]
    rfl
  · rintro ⟨hkeys, hkeypad, hpaste, hmouse, hvisible, halternate⟩
    refine ⟨hkeys, hkeypad, hpaste, hmouse, ?_, halternate⟩
    change (!s.performer.screenModes.cursorVisible) = _
    rw [hvisible]
    exact Bool.not_not _

variable {P : Type u} {G : Type v}
variable [VteParser P] [AsciiDispatch P] [Vt100Parser G] [ModalGrid P G]
variable {limit cols rows : Nat}

/-- **The two mode trackers of a screen agree** after output that both take
alike, however it comes in batches. -/
theorem screenModes_agree {batches : List Bytes}
    (hwhole : CharsWhole batches.flatten)
    (halike : AlikeCalls .off (callsOver (VteParser.new : P) batches.flatten)) :
    ModesAgree (batches.foldl PaneScreen.parse
      (PaneScreen.newSized limit cols rows : PaneScreen P G)) := by
  have hstream : StreamGrid G := ModalGrid.toStreamGrid P
  obtain ⟨whole, cut, hflatten, hfed⟩ := @foldl_parse_fed P G _ _ _ limit cols rows batches
  rw [← hflatten] at hwhole halike
  have hcut : ∀ call ∈ callsOver (parserAfter (VteParser.new : P) whole) cut,
      call.dispatches = false :=
    forall_mem_callsOver (fun parser b hb => AsciiDispatch.high_calls parser b (hfed.high b hb)) _
  have hperformer : (batches.foldl PaneScreen.parse
      (PaneScreen.newSized limit cols rows : PaneScreen P G)).performer =
        (PaneScreen.advanceParser ((VteParser.new : P), ScreenPerformer.new limit)
          (whole ++ cut)).2 := congrArg Prod.snd hfed.performer
  rw [modesAgree_iff, hfed.grid, ModalGrid.modes_process (P := P) _ _ _ _ hwhole.front,
    hperformer, advanceParser_performer, performAll_screenModes, callsOver_append,
    List.foldl_append, foldl_performed_of_not_dispatches hcut]
  rw [callsOver_append] at halike
  exact performed_eq_applied halike.front

end Streams

section RecordGrid

/-- A grid that records its input, and takes the modes from what the parser
reports of it. -/
structure RecordGrid (P : Type u) where
  rows : Nat
  cols : Nat
  input : Bytes
deriving DecidableEq

variable {P : Type u} [VteParser P]

def RecordGrid.modes (g : RecordGrid P) : ScreenModes :=
  (callsOver (VteParser.new : P) g.input).foldl ScreenModes.applied .off

/-- The grid's name of a mouse mode. -/
def MouseMode.protocolMode : MouseMode → MouseProtocolMode
  | none => .none
  | x10 => .press
  | normal => .pressRelease
  | button => .buttonMotion
  | any => .anyMotion

instance : Vt100Parser (RecordGrid P) where
  new := fun rows cols _ => ⟨rows, cols, []⟩
  process := fun g data => { g with input := g.input ++ data }
  setSize := fun g rows cols => { g with rows := rows, cols := cols }
  setScrollback := fun g _ => g
  size := fun g => (g.rows, g.cols)
  scrollback := fun _ => 0
  alternateScreen := fun g => g.modes.alternateScreen
  cursorPosition := fun _ => (0, 0)
  cell := fun _ _ _ => none
  rowWrapped := fun _ _ => false
  contentsFormatted := fun _ => []
  applicationKeypad := fun g => g.modes.applicationKeypad
  applicationCursor := fun g => g.modes.applicationCursorKeys
  bracketedPaste := fun g => g.modes.bracketedPaste
  mouseProtocolMode := fun g => g.modes.mouse.protocolMode
  mouseProtocolEncoding := fun _ => .default
  hideCursor := fun g => !g.modes.cursorVisible

theorem gridModes_recordGrid (g : RecordGrid P) : gridModes g = g.modes := by
  have hmouse : g.modes.mouse.protocolMode.mouseMode = g.modes.mouse := by
    cases g.modes.mouse <;> rfl
  rw [ScreenModes.mk.injEq]
  exact ⟨rfl, rfl, rfl, hmouse, Bool.not_not _, rfl⟩

instance : AsciiDispatch StandardParser where
  high_calls parser b hb call hcall := by
    have hnone : (parser.scan.step b).2 = none := by
      cases hends : (parser.scan.step b).2 with
      | none => rfl
      | some c =>
          have hclass := byteClass_final_iff.mp (ScanState.step_eq_some hends).1
          simp only [Bool.and_eq_true, decide_eq_true_eq, UInt8.le_iff_toNat_le,
            UInt8.reduceToNat] at hclass hb
          omega
    change call ∈ (parser.scan.step b).2.toList.map _ at hcall
    rw [hnone] at hcall
    cases hcall

instance : ModalGrid P (RecordGrid P) where
  process_nil g := by
    obtain ⟨rows, cols, input⟩ := g
    exact congrArg (RecordGrid.mk rows cols) (List.append_nil input)
  process_append g first second := by
    obtain ⟨rows, cols, input⟩ := g
    exact congrArg (RecordGrid.mk rows cols) (List.append_assoc input first second)
  modes_process rows cols len data _ := gridModes_recordGrid _

/-- The trackers agree on a full-screen program with mouse tracking, whose output
comes in two batches. -/
theorem screenModes_agree_fullScreen :
    ModesAgree ([bytesOf "\x1b[?1049h\x1b[?10", bytesOf "00h"].foldl PaneScreen.parse
      (PaneScreen.newSized 0 80 24 :
        PaneScreen StandardParser (RecordGrid StandardParser))) := by
  refine screenModes_agree (CharsWhole.of_ascii (by decide +kernel)) ?_
  have hcalls : callsOver (VteParser.new : StandardParser)
      [bytesOf "\x1b[?1049h\x1b[?10", bytesOf "00h"].flatten =
        [.csiDispatch [[1049]] (bytesOf "?") false 'h',
          .csiDispatch [[1000]] (bytesOf "?") false 'h'] := by
    decide +kernel
  rw [hcalls]
  refine ⟨?_, ?_, trivial⟩
  · intro _
    rw [if_pos rfl]
    exact ⟨trivial, trivial⟩
  · intro _
    rw [if_pos rfl]
    exact ⟨Or.inl rfl, trivial⟩

/-- A full reset of the terminal is one for the grid alone. -/
theorem screenModes_disagree :
    ¬ ∀ data : Bytes, ModesAgree
      ((PaneScreen.newSized 0 80 24 : PaneScreen SampleParser (RecordGrid SampleParser)).parse
        data) := by
  intro h
  have hkeys := (h (bytesOf "\x1b[?1h\x1bc")).applicationCursorKeys
  exact absurd hkeys (by decide +kernel)

end RecordGrid

end Server
end Rttx
