import Rttx.Server.CleanupControls
import Rttx.Server.SampleControls
import Rttx.Server.ScreenSwitches

/-!
# Cleanup after the exit of a pane's process

When the process of a pane exits, the daemon feeds the pane's screen a sequence that
resets every mode a full-screen program might have left on.  It begins with a cancel
byte, which leads out of whatever the output ended in, but the bytes that leave the
alternate screen stand before it.

They are lost in a character: its parser takes their escape byte for a part of the
character, and prints what is left of them.  And two modes of the mouse are not
among those that are reset: the oldest, number 9, and the encoding number 1005.

**Results.**
* `exitCleaned_iff`: the cleanup reaches the baseline if and only if these two are
  off and no character is unfinished on the alternate screen.
* `mouse_stays_on`: mouse mode 9 stays on.
-/

namespace Rttx
namespace Server

open Kernel Vt100Parser

universe u v

section Bytes

/-- What is fed of the cleanup: the second switch to the primary screen is stray. -/
def exitBytes (active : Bool) : Bytes :=
  (if active then (resetMode "1049").bytes else []) ++
    cancelByte :: exitControls.flatMap Control.bytes

theorem strip_exitBytes (active : Bool) :
    stripStrayAlternateScreenExits
        ((if active then leaveAlternateScreenBytes else []) ++ terminalCleanupBytes) active =
      exitBytes active := by
  cases active <;> decide

theorem leaveControl_plain : (resetMode "1049").Plain := by
  decide +kernel

def leaveCalls (active : Bool) : List VteCall :=
  if active then [modeCall 1049 'l'] else []

variable {P : Type u} [VteParser P] [ControlParser P]

/-- The calls of the cleanup: what the parser leaves, and the controls. -/
theorem callsOver_exitBytes {parser : P} (active : Bool)
    (h : active = true → ControlParser.swallows parser = false) :
    ∃ before between, (∀ call ∈ before ++ between, LeavingCall call) ∧
      callsOver parser (exitBytes active) =
        before ++ leaveCalls active ++ between ++ exitCalls := by
  have hcancel : ∀ parser : P,
      callsOver parser (cancelByte :: exitControls.flatMap Control.bytes) =
        (VteParser.advance parser cancelByte).2 ++ exitCalls := by
    intro parser
    obtain ⟨hcalls, _⟩ :=
      callsOver_controls_of_atRest (ControlParser.cancel parser).2 exitControls_plain
    rw [callsOver_cons, hcalls, map_call_exitControls]
  cases active with
  | false =>
      refine ⟨[], (VteParser.advance parser cancelByte).2, (ControlParser.cancel parser).1, ?_⟩
      exact hcancel parser
  | true =>
      have hcall : (resetMode "1049").call = modeCall 1049 'l' := by
        decide
      obtain ⟨hleave, _⟩ := ControlParser.control parser _ (h rfl) leaveControl_plain
      refine ⟨(VteParser.advance parser esc).2,
        (VteParser.advance (parserAfter parser (resetMode "1049").bytes) cancelByte).2, ?_, ?_⟩
      · intro call hmem
        rcases List.mem_append.mp hmem with hmem | hmem
        · exact ControlParser.leaving parser call hmem
        · exact (ControlParser.cancel _).1 call hmem
      · rw [exitBytes, if_pos rfl, callsOver_append, hleave, hcancel, hcall]
        simp only [leaveCalls, if_true, List.append_assoc]

/-- In a character the switch to the primary screen is printed. -/
theorem exitBytes_printed {parser : P}
    (h : ControlParser.swallows parser = true) :
    VteCall.print '[' ∈ callsOver parser (exitBytes true) := by
  have hplain : ∀ k ∈ [resetMode "1049"], k.Plain :=
    List.forall_mem_singleton.mpr leaveControl_plain
  have hcalls := callsOver_swallowed h hplain
  rw [List.flatMap_singleton] at hcalls
  rw [exitBytes, if_pos rfl, callsOver_append, hcalls]
  exact List.mem_append_left _ (List.mem_append_left _ (List.mem_cons_of_mem _ List.mem_cons_self))

end Bytes

section Effects

variable {active : Bool} {before between : List VteCall}

/-- The performer after the cleanup. -/
theorem performAll_cleanup
    (h : ∀ call ∈ before ++ between, LeavingCall call)
    (p : ScreenPerformer)
    (halternate : active = false → p.alternateScreen = false) :
    ∃ title cwd col, p.performAll (before ++ leaveCalls active ++ between ++ exitCalls) =
      { p with
        title := title
        cwd := cwd
        cursorCol := col
        alternateScreen := false
        cursorVisible := true
        mouseTrackingMode := 0
        sgrMouseMode := false
        focusEventMode := false
        applicationCursorKeys := false
        applicationKeypad := false
        bracketedPasteMode := false } := by
  have hpassive : ∀ calls ⊆ before ++ between, ∀ call ∈ calls, Passive call :=
    fun calls hsub call hcall => (h call (hsub hcall)).passive
  obtain ⟨title, cwd, hbefore⟩ :=
    performAll_passive (hpassive before (List.subset_append_left _ _)) p
  simp only [ScreenPerformer.performAll_append, hbefore]
  cases active with
  | false =>
      obtain ⟨title', cwd', hbetween⟩ :=
        performAll_passive (hpassive between (List.subset_append_right _ _)) (p.performAll before)
      have hnone : ∀ q : ScreenPerformer, q.performAll (leaveCalls false) = q := fun _ => rfl
      rw [hbefore] at hbetween
      rw [hnone, hbetween, performAll_exitCalls, halternate rfl]
      exact ⟨_, _, _, rfl⟩
  | true =>
      have hleave : ∀ q : ScreenPerformer,
          q.performAll (leaveCalls true) = { q with alternateScreen := false } :=
        fun q => perform_modeCall (Or.inr rfl) q 1049
      rw [hleave]
      obtain ⟨title', cwd', hbetween⟩ :=
        performAll_passive (hpassive between (List.subset_append_right _ _)) _
      rw [hbetween, performAll_exitCalls]
      exact ⟨_, _, _, rfl⟩

/-- The modes of the grid after the cleanup. -/
theorem applied_cleanup
    (h : ∀ call ∈ before ++ between, LeavingCall call)
    (m : ScreenModes)
    (halternate : active = false → m.alternateScreen = false) :
    (before ++ leaveCalls active ++ between ++ exitCalls).foldl ScreenModes.applied m =
      { ScreenModes.off with mouse := m.mouse.withoutTracking } := by
  have hunchanged : ∀ calls ⊆ before ++ between, ∀ m : ScreenModes,
      calls.foldl ScreenModes.applied m = m := fun calls hsub =>
    foldl_unchanged fun call hcall => applied_passive (h call (hsub hcall)).passive.1
  simp only [List.foldl_append, hunchanged before (List.subset_append_left _ _),
    hunchanged between (List.subset_append_right _ _), applied_exitCalls]
  cases active with
  | false =>
      have hnone : (leaveCalls false).foldl ScreenModes.applied m = m := rfl
      rw [hnone, halternate rfl]
      rfl
  | true =>
      have hleave : (leaveCalls true).foldl ScreenModes.applied m =
          { m with alternateScreen := false } := applied_modeCall (Or.inr rfl) m 1049
      rw [hleave]
      rfl

/-- An encoding after DECRST 1006: number 1005 stays. -/
def MouseProtocolEncoding.withoutSgr : MouseProtocolEncoding → MouseProtocolEncoding
  | utf8 => utf8
  | _ => default

theorem encodingApplied_cleanup
    (h : ∀ call ∈ before ++ between, LeavingCall call)
    (current : MouseProtocolEncoding) :
    (before ++ leaveCalls active ++ between ++ exitCalls).foldl MouseProtocolEncoding.applied
      current = current.withoutSgr := by
  have hunchanged : ∀ calls ⊆ before ++ between, ∀ current : MouseProtocolEncoding,
      calls.foldl MouseProtocolEncoding.applied current = current := fun calls hsub =>
    foldl_unchanged fun call hcall => encodingApplied_passive (h call (hsub hcall)).passive.1
  have hleave : (leaveCalls active).foldl MouseProtocolEncoding.applied current = current := by
    cases active <;> rfl
  simp only [List.foldl_append, hunchanged before (List.subset_append_left _ _), hleave,
    hunchanged between (List.subset_append_right _ _)]
  cases current <;> decide

end Effects

section Cleanup

variable {P Q : Type u} {G : Type v}
variable [VteParser P] [ControlParser P]
variable [VteParser Q] [ControlParser Q] [AsciiDispatch Q] [Vt100Parser G] [CallGrid Q G]

namespace PaneScreen

/-- No mode is left that a program may have set. -/
structure Baseline (s : PaneScreen P G) : Prop where
  alternate : s.performer.alternateScreen = false
  mouse : s.performer.mouseTrackingMode = 0 ∧ s.performer.sgrMouseMode = false
  focus : s.performer.focusEventMode = false
  paste : s.performer.bracketedPasteMode = false
  keys : s.performer.applicationCursorKeys = false ∧ s.performer.applicationKeypad = false
  visible : s.performer.cursorVisible = true
  grid : gridModes s.grid = .off
  encoding : mouseProtocolEncoding s.grid = .default
  attributes : CallGrid.attributes s.grid = .default

/-- What the daemon feeds of the cleanup. -/
def exitCleanup (s : PaneScreen P G) : Bytes :=
  s.sanitizeOutput (s.cleanupSequence false)

/-- The cleanup reaches the baseline, and neither machine prints anything of it: what
it prints stands for the character that the output ended in. -/
structure ExitCleaned (s : PaneScreen P G) : Prop where
  baseline : Baseline (s.feed (s.cleanupSequence false))
  performerPrints : ∀ c, .print c ∈ callsOver s.parser s.exitCleanup → c = replacementChar
  gridPrints : ∀ c,
    .print c ∈ callsOver (parserAfter (CallGrid.parser s.grid) s.gridUtf8Tail) s.exitCleanup →
      c = replacementChar

/-- The screen that the cleanup resets. -/
structure Resettable (s : PaneScreen P G) : Prop where
  mouse : mouseProtocolMode s.grid ≠ .press
  encoding : mouseProtocolEncoding s.grid ≠ .utf8
  whole : s.onAlternate = true → ControlParser.swallows s.parser = false

omit [VteParser P] [ControlParser P] [VteParser Q] [ControlParser Q] [AsciiDispatch Q]
  [CallGrid Q G] in
theorem exitCleanup_eq (s : PaneScreen P G) : s.exitCleanup = exitBytes s.onAlternate :=
  strip_exitBytes s.onAlternate

omit [ControlParser P] [VteParser Q] [ControlParser Q] [AsciiDispatch Q] [CallGrid Q G] in
theorem feed_exit_grid (s : PaneScreen P G) :
    (s.feed (s.cleanupSequence false)).grid =
      process s.grid (s.gridUtf8Tail ++ s.exitCleanup) := by
  have hlast : ∀ active, exitBytes active = (exitBytes active).dropLast ++ [0x6d] := by
    decide
  have hfed : s.exitCleanup = (exitBytes s.onAlternate).dropLast ++ [0x6d] :=
    s.exitCleanup_eq.trans (hlast _)
  exact s.feed_grid hfed (by decide)

omit [ControlParser P] in
/-- The grid after the cleanup. -/
theorem grid_exit [LawfulCallGrid Q G] {s : PaneScreen P G}
    (hhigh : s.HoldsHigh) :
    gridModes (s.feed (s.cleanupSequence false)).grid =
        { ScreenModes.off with mouse := (gridModes s.grid).mouse.withoutTracking } ∧
      mouseProtocolEncoding (s.feed (s.cleanupSequence false)).grid =
        (mouseProtocolEncoding s.grid).withoutSgr ∧
      CallGrid.attributes (s.feed (s.cleanupSequence false)).grid = .default := by
  obtain ⟨before, between, hleaving, hcalls⟩ :=
    callsOver_exitBytes s.onAlternate
      fun _ => CallGrid.swallows_after s.grid s.gridUtf8Tail
  have halternate : s.onAlternate = false → (gridModes s.grid).alternateScreen = false :=
    fun hoff => (Bool.or_eq_false_iff.mp hoff).2
  have htail : ∀ call ∈ callsOver (CallGrid.parser s.grid) s.gridUtf8Tail,
      call.dispatches = false :=
    forall_mem_callsOver (fun parser b hb => AsciiDispatch.high_calls parser b (hhigh b hb)) _
  have hrun : gridReadout (s.feed (s.cleanupSequence false)).grid =
      gridReadout ((before ++ leaveCalls s.onAlternate ++ between ++ exitCalls).foldl
        CallGrid.perform ((callsOver (CallGrid.parser s.grid) s.gridUtf8Tail).foldl
          CallGrid.perform s.grid)) := by
    rw [s.feed_exit_grid, LawfulCallGrid.readout_process, s.exitCleanup_eq, callsOver_append,
      hcalls, List.foldl_append]
  refine ⟨?_, ?_, ?_⟩
  · refine (congrArg GridReadout.modes hrun).trans ?_
    refine (CallGrid.modes_foldl _ _).trans ?_
    rw [CallGrid.modes_foldl,
      foldl_unchanged (fun call hcall => applied_passive (htail call hcall)),
      applied_cleanup hleaving _ halternate]
  · refine (congrArg GridReadout.encoding hrun).trans ?_
    refine (CallGrid.encoding_foldl _ _).trans ?_
    rw [CallGrid.encoding_foldl,
      foldl_unchanged (fun call hcall => encodingApplied_passive (htail call hcall)),
      encodingApplied_cleanup hleaving]
  · have hlast : exitCalls = exitCalls.dropLast ++ [.csiDispatch [[0]] [] false 'm'] := rfl
    refine (congrArg GridReadout.attributes hrun).trans ?_
    rw [hlast, List.foldl_append, List.foldl_append]
    exact LawfulCallGrid.attributes_reset _

/-- What is printed of the calls of the cleanup. -/
theorem prints_cleanup {active : Bool} {before between : List VteCall} {c : Char}
    (h : ∀ call ∈ before ++ between, LeavingCall call)
    (hprint : .print c ∈ before ++ leaveCalls active ++ between ++ exitCalls) :
    c = replacementChar := by
  have hexit : ∀ call ∈ leaveCalls active ++ exitCalls, call.isPrint = false := by
    cases active <;> decide
  simp only [List.mem_append] at hprint
  rcases hprint with ((hbefore | hleave) | hbetween) | hexitCall
  · exact h _ (List.mem_append_left _ hbefore)
  · exact Bool.noConfusion (hexit _ (List.mem_append_left _ hleave))
  · exact h _ (List.mem_append_right _ hbetween)
  · exact Bool.noConfusion (hexit _ (List.mem_append_right _ hexitCall))

/-- **The cleanup reaches the baseline** if and only if the screen is resettable. -/
theorem exitCleaned_iff_resettable [LawfulCallGrid Q G] {s : PaneScreen P G}
    (hhigh : s.HoldsHigh) :
    ExitCleaned s ↔ s.Resettable := by
  obtain ⟨hmodes, hencoding, hattributes⟩ := grid_exit hhigh
  constructor
  · intro hcleaned
    refine ⟨?_, ?_, ?_⟩
    · intro hpress
      have hmouse := congrArg ScreenModes.mouse (hmodes.symm.trans hcleaned.baseline.grid)
      simp only [gridModes, hpress] at hmouse
      cases hmouse
    · intro hutf8
      have hcoded := hencoding.symm.trans hcleaned.baseline.encoding
      rw [hutf8] at hcoded
      cases hcoded
    · intro hactive
      cases hswallows : ControlParser.swallows s.parser with
      | false => rfl
      | true =>
          have hbracket := exitBytes_printed hswallows
          rw [← hactive, ← s.exitCleanup_eq] at hbracket
          exact absurd (hcleaned.performerPrints '[' hbracket) (by decide)
  · intro hresettable
    obtain ⟨before, between, hleaving, hcalls⟩ := callsOver_exitBytes _ hresettable.whole
    have halternate : s.onAlternate = false → s.performer.alternateScreen = false :=
      fun hoff => (Bool.or_eq_false_iff.mp hoff).1
    obtain ⟨raw, hfeed⟩ := s.feed_performer (s.cleanupSequence false)
    obtain ⟨title, cwd, col, hperformer⟩ := performAll_cleanup hleaving
      ({ s.performer with rawBytes := raw } : ScreenPerformer) halternate
    have hfed : (s.feed (s.cleanupSequence false)).performer = _ :=
      hfeed.trans ((congrArg _ ((congrArg _ s.exitCleanup_eq).trans hcalls)).trans hperformer)
    refine ⟨?_, ?_, ?_⟩
    · refine ⟨by rw [hfed], by rw [hfed]; exact ⟨rfl, rfl⟩, by rw [hfed], by rw [hfed],
        by rw [hfed]; exact ⟨rfl, rfl⟩, by rw [hfed], ?_, ?_, hattributes⟩
      · have hnot := hresettable.mouse
        rw [hmodes]
        simp only [gridModes]
        cases hmouse : mouseProtocolMode s.grid with
        | press => exact absurd hmouse hnot
        | _ => rfl
      · have hnot := hresettable.encoding
        rw [hencoding]
        cases hcoded : mouseProtocolEncoding s.grid with
        | utf8 => exact absurd hcoded hnot
        | _ => rfl
    · intro c hprint
      rw [s.exitCleanup_eq, hcalls] at hprint
      exact prints_cleanup hleaving hprint
    · obtain ⟨before, between, hleaving, hcalls⟩ :=
        callsOver_exitBytes s.onAlternate
          fun _ => CallGrid.swallows_after s.grid s.gridUtf8Tail
      intro c hprint
      rw [s.exitCleanup_eq, hcalls] at hprint
      exact prints_cleanup hleaving hprint

/-- **The cleanup reaches the baseline**, whatever was fed to the screen before. -/
theorem exitCleaned_iff [LawfulCallGrid Q G] (limit cols rows : Nat)
    (events : List ScreenEvent) :
    ExitCleaned ((newSized limit cols rows : PaneScreen P G).replay events) ↔
      ((newSized limit cols rows : PaneScreen P G).replay events).Resettable :=
  exitCleaned_iff_resettable (holdsHigh_replay limit cols rows events)

/-- A full-screen program is killed in the middle of a sequence. -/
theorem exitCleaned_iff_fullScreen :
    ExitCleaned ((newSized 0 80 24 : PaneScreen PlainParser PlainGrid).replay
      [.batch (bytesOf "\x1b[?1049h\x1b[?1002h\x1b[1mbold\x1b[3")]) :=
  (exitCleaned_iff 0 80 24 _).mpr ⟨by decide, by decide, fun _ => rfl⟩

/-- **Mouse mode 9 stays on.** -/
theorem mouse_stays_on :
    ¬ ∀ batches : List Bytes, ExitCleaned
      ((newSized 0 80 24 : PaneScreen PlainParser PlainGrid).replay
        (batches.map ScreenEvent.batch)) := by
  intro h
  have hcleaned := h [bytesOf "\x1b[?9h"]
  exact absurd hcleaned.baseline.grid (by decide)

end PaneScreen

end Cleanup

end Server
end Rttx
