import Rttx.Server.CleanupControls
import Rttx.Server.SampleControls

/-!
# Cleanup at the prompt of an idle shell

A program that died may leave modes on that its shell does not use.  When a client
attaches while the shell sits at its prompt, the daemon resets them, on its own
screen and on the terminals of the clients that are attached.

The cleanup bytes are said to be safe there, and all of them draw nothing.  But they
reset the margins and the origin mode too, and both move the cursor home, away from
the prompt.  And they leave on the oldest mouse mode, number 9, which the grid
keeps.

**Results.**
* `promptSafe_iff`: the cleanup is safe at the prompt if and only if the cursor is
  at home before it, mouse mode 9 is off and no character is unfinished.
* `cleanup_moves_cursor`: at an ordinary prompt the cursor moves.
-/

namespace Rttx
namespace Server

open Kernel Vt100Parser

universe u v

section Idle

variable {P : Type u} {G : Type v}
variable [VteParser P] [Vt100Parser G]

namespace PaneScreen

/-- Both trackers say that the primary screen is shown. -/
structure OnPrimary (s : PaneScreen P G) : Prop where
  performer : s.performer.alternateScreen = false
  grid : alternateScreen s.grid = false

/-- What a cleanup that is safe at a prompt leaves of the screen `s` in `t`. -/
structure PromptSafe (s t : PaneScreen P G) : Prop where
  cells : ∀ row col, cell t.grid row col = cell s.grid row col
  gridCursor : Vt100Parser.cursorPosition t.grid = Vt100Parser.cursorPosition s.grid
  performerCursor : (t.performer.cursorRow, t.performer.cursorCol) =
    (s.performer.cursorRow, s.performer.cursorCol)
  cursorKeys : t.performer.applicationCursorKeys = s.performer.applicationCursorKeys ∧
    applicationCursor t.grid = applicationCursor s.grid
  keypad : t.performer.applicationKeypad = s.performer.applicationKeypad ∧
    applicationKeypad t.grid = applicationKeypad s.grid
  paste : t.performer.bracketedPasteMode = s.performer.bracketedPasteMode ∧
    bracketedPaste t.grid = bracketedPaste s.grid
  cleared : t.hasAppOnlyModes = false

/-- An escape byte would break a character off. -/
def inCharacter (s : PaneScreen P G) : Prop :=
  ∃ call ∈ (VteParser.advance s.parser esc).2, call.isPrint = true

/-- The screen that the cleanup does no harm to. -/
structure Cleanable (s : PaneScreen P G) : Prop where
  home : Vt100Parser.cursorPosition s.grid = (0, 0)
  mouse : mouseProtocolMode s.grid ≠ .press
  whole : ¬ s.inCharacter
  /-- What stands for a character that is held back is on the grid already. -/
  drawn : ∀ row col, cell (process s.grid (s.gridUtf8Tail ++ [esc])) row col = cell s.grid row col

omit [VteParser P] in
theorem OnPrimary.sanitize_idle {s : PaneScreen P G}
    (h : s.OnPrimary) :
    s.cleanupSequence true = idleShellCleanupBytes ∧
      s.sanitizeOutput (s.cleanupSequence true) = idleControls.flatMap Control.bytes := by
  have hcleanup : s.cleanupSequence true = idleShellCleanupBytes := by
    simp [cleanupSequence, h.performer, h.grid]
  have hkept : stripStrayAlternateScreenExits idleShellCleanupBytes false =
      idleShellCleanupBytes := by
    decide
  refine ⟨hcleanup, ?_⟩
  rw [sanitizeOutput, hcleanup, h.performer, h.grid, Bool.or_false, hkept,
    idleShellCleanupBytes_eq]

variable [ControlParser P]

/-- The performer after the cleanup, unless it was in a character. -/
theorem performer_cleaned {s : PaneScreen P G}
    (h : s.OnPrimary)
    (hwhole : ¬ s.inCharacter) :
    ∃ raw title cwd, (s.feed (s.cleanupSequence true)).performer =
      { s.performer with
        rawBytes := raw
        title := title
        cwd := cwd
        cursorVisible := true
        mouseTrackingMode := 0
        sgrMouseMode := false
        focusEventMode := false } := by
  have hopen : ControlParser.swallows s.parser = false := by
    cases hswallows : ControlParser.swallows s.parser with
    | false => rfl
    | true =>
        obtain ⟨hcall, _⟩ := ControlParser.swallow s.parser esc hswallows (by decide)
        exact absurd ⟨_, hcall ▸ List.mem_singleton_self _, rfl⟩ hwhole
  have hnone : (VteParser.advance s.parser esc).2.countP VteCall.isPrint = 0 :=
    List.countP_eq_zero.mpr fun call hcall hprint => hwhole ⟨call, hcall, hprint⟩
  obtain ⟨raw, hfeed⟩ := s.feed_performer (s.cleanupSequence true)
  rw [h.sanitize_idle.2, callsOver_controls hopen idleControls_ne_nil idleControls_plain,
    map_call_idleControls, ScreenPerformer.performAll_append] at hfeed
  obtain ⟨title, cwd, hleft⟩ := performAll_passive
    (fun call hcall => (ControlParser.leaving s.parser call hcall).passive)
    ({ s.performer with rawBytes := raw } : ScreenPerformer)
  refine ⟨raw, title, cwd, ?_⟩
  rw [hfeed, hleft, hnone, performAll_idleCalls]
  rfl

/-- In a character the performer draws. -/
theorem inCharacter_cursorCol {s : PaneScreen P G}
    (h : s.OnPrimary)
    (hcut : s.inCharacter) :
    s.performer.cursorCol < (s.feed (s.cleanupSequence true)).performer.cursorCol := by
  obtain ⟨raw, hfeed⟩ := s.feed_performer (s.cleanupSequence true)
  -- What is reported: calls that draw, one of them at least, and the other controls.
  have hcalls : ∃ drawing controls,
      callsOver s.parser (idleControls.flatMap Control.bytes) =
        drawing ++ List.map Control.call controls ∧
      (∀ call ∈ drawing, Passive call) ∧ (∃ call ∈ drawing, call.isPrint = true) ∧
      ∀ call ∈ List.map Control.call controls, call ∈ idleCalls := by
    have hknown : ∀ {controls : List Control}, controls ⊆ idleControls →
        ∀ call ∈ List.map Control.call controls, call ∈ idleCalls := by
      intro controls hsub call hcall
      rw [← map_call_idleControls]
      exact List.map_subset _ hsub hcall
    cases hswallows : ControlParser.swallows s.parser with
    | false =>
        refine ⟨(VteParser.advance s.parser esc).2, idleControls, ?_, ?_, hcut,
          hknown (List.Subset.refl _)⟩
        · exact callsOver_controls hswallows idleControls_ne_nil idleControls_plain
        · exact fun call hcall => (ControlParser.leaving s.parser call hcall).passive
    | true =>
        refine ⟨_, idleControls.tail, callsOver_swallowed hswallows idleControls_plain, ?_,
          ⟨_, List.mem_cons_self, rfl⟩, hknown (fun k hk => List.mem_of_mem_tail hk)⟩
        intro call hcall
        rcases List.mem_cons.mp hcall with rfl | hcall
        · exact passive_print _
        · obtain ⟨b, _, rfl⟩ := List.mem_map.mp hcall
          exact passive_print _
  obtain ⟨drawing, controls, hreported, hpassive, ⟨call, hmem, hprint⟩, hcontrols⟩ := hcalls
  obtain ⟨title, cwd, hdrawn⟩ :=
    performAll_passive hpassive ({ s.performer with rawBytes := raw } : ScreenPerformer)
  have hcount : 0 < drawing.countP VteCall.isPrint :=
    List.countP_pos_iff.mpr ⟨call, hmem, hprint⟩
  rw [h.sanitize_idle.2, hreported, ScreenPerformer.performAll_append, hdrawn] at hfeed
  have hcol : (s.feed (s.cleanupSequence true)).performer.cursorCol =
      s.performer.cursorCol + drawing.countP VteCall.isPrint := by
    rw [hfeed]
    exact congrArg Prod.snd (idleCalls_cursor hcontrols _)
  rw [hcol]
  exact Nat.lt_add_of_pos_right hcount

section Grid

variable {Q : Type u}
variable [VteParser Q] [ControlParser Q] [AsciiDispatch Q] [CallGrid Q G]

/-- What the cleanup makes of the grid. -/
structure GridCleaned (s t : PaneScreen P G) : Prop where
  cells : cell t.grid = cell (process s.grid (s.gridUtf8Tail ++ [esc]))
  cursor : Vt100Parser.cursorPosition t.grid = (0, 0)
  modes : gridModes t.grid =
    { gridModes s.grid with
      cursorVisible := true
      mouse := (gridModes s.grid).mouse.withoutTracking }

omit [ControlParser P] in
theorem grid_cleaned [LawfulCallGrid Q G] {s : PaneScreen P G}
    (h : s.OnPrimary)
    (hhigh : s.HoldsHigh) :
    GridCleaned s (s.feed (s.cleanupSequence true)) := by
  have hgrid : (s.feed (s.cleanupSequence true)).grid =
      process s.grid (s.gridUtf8Tail ++ idleControls.flatMap Control.bytes) := by
    have hlast : idleControls.flatMap Control.bytes =
        (idleControls.flatMap Control.bytes).dropLast ++ [0x6d] := by
      decide
    rw [← h.sanitize_idle.2] at hlast ⊢
    exact s.feed_grid hlast (by decide)
  obtain ⟨left, hleft, hbroken, hcontrols⟩ :=
    CallGrid.process_controls (Q := Q) (g := s.grid) hhigh idleControls_ne_nil idleControls_plain
  rw [← hgrid, map_call_idleControls] at hcontrols
  constructor
  · have hdrawn : ∀ call ∈ idleCalls, StillCall call ∨ HomingCall call := by
      decide
    have hcell := congrArg GridReadout.cell hcontrols
    have hcell' := congrArg GridReadout.cell hbroken
    exact hcell.trans ((CallGrid.cell_foldl hdrawn _).trans hcell'.symm)
  · have hsplit : idleCalls = idleCalls.take 8 ++
        (modeCall 6 'l' :: [.csiDispatch [[0]] [] false 'm']) := rfl
    have hstill : ∀ call ∈ [VteCall.csiDispatch [[0]] [] false 'm'], StillCall call := by
      decide
    have hcursor := congrArg GridReadout.cursor hcontrols
    rw [hsplit, List.foldl_append, List.foldl_cons] at hcursor
    exact hcursor.trans ((CallGrid.cursorPosition_foldl_still hstill _).trans
      (LawfulCallGrid.homing _ _ (Or.inr rfl)).2)
  · have hmodes := congrArg GridReadout.modes hcontrols
    have hunchanged : left.foldl ScreenModes.applied (gridModes s.grid) = gridModes s.grid :=
      foldl_unchanged (fun call hcall => applied_passive (hleft call hcall)) _
    refine hmodes.trans ?_
    change gridModes (idleCalls.foldl CallGrid.perform (left.foldl CallGrid.perform s.grid)) = _
    rw [CallGrid.modes_foldl, CallGrid.modes_foldl, hunchanged, applied_idleCalls]

/-- **The cleanup is safe at the prompt** if and only if the cursor is at home
already, mouse mode 9 is off and no character is unfinished. -/
theorem promptSafe_iff_cleanable [LawfulCallGrid Q G] {s : PaneScreen P G}
    (h : s.OnPrimary)
    (hhigh : s.HoldsHigh) :
    PromptSafe s (s.feed (s.cleanupSequence true)) ↔ s.Cleanable := by
  obtain ⟨hcells, hcursor, hmodes⟩ := grid_cleaned h hhigh
  constructor
  · intro hsafe
    refine ⟨hsafe.gridCursor.symm.trans hcursor, ?_, ?_, ?_⟩
    · intro hpress
      have hmouse := congrArg ScreenModes.mouse hmodes
      have hcleared := hsafe.cleared
      simp only [hasAppOnlyModes, Bool.or_eq_false_iff, bne_eq_false_iff_eq] at hcleared
      simp only [gridModes, hpress, hcleared.1.1.1.1.2] at hmouse
      cases hmouse
    · intro hcut
      have hcol : (s.feed (s.cleanupSequence true)).performer.cursorCol = s.performer.cursorCol :=
        congrArg Prod.snd hsafe.performerCursor
      exact absurd (inCharacter_cursorCol h hcut) (by rw [hcol]; exact Nat.lt_irrefl _)
    · intro row col
      rw [← hcells]
      exact hsafe.cells row col
  · intro hcleanable
    obtain ⟨raw, title, cwd, hperformer⟩ := performer_cleaned h hcleanable.whole
    have hmouse : mouseProtocolMode (s.feed (s.cleanupSequence true)).grid = .none := by
      have hmode := congrArg ScreenModes.mouse hmodes
      have hnot := hcleanable.mouse
      simp only [gridModes] at hmode
      generalize mouseProtocolMode (s.feed (s.cleanupSequence true)).grid = after at hmode ⊢
      cases hbefore : mouseProtocolMode s.grid with
      | press => exact absurd hbefore hnot
      | _ =>
          rw [hbefore] at hmode
          cases after <;> first | rfl | cases hmode
    have hvisible := congrArg ScreenModes.cursorVisible hmodes
    have halternate := congrArg ScreenModes.alternateScreen hmodes
    simp only [gridModes, Bool.not_eq_true'] at hvisible halternate
    constructor
    · intro row col
      rw [hcells]
      exact hcleanable.drawn row col
    · rw [hcursor, hcleanable.home]
    · rw [hperformer]
    · rw [hperformer]
      exact ⟨rfl, congrArg ScreenModes.applicationCursorKeys hmodes⟩
    · rw [hperformer]
      exact ⟨rfl, congrArg ScreenModes.applicationKeypad hmodes⟩
    · rw [hperformer]
      exact ⟨rfl, congrArg ScreenModes.bracketedPaste hmodes⟩
    · simp only [hasAppOnlyModes, hperformer, hmouse, hvisible, halternate, h.performer, h.grid]
      rfl

/-- **The cleanup is safe at the prompt** of a pane, whatever happened to its screen,
if and only if the screen is cleanable. -/
theorem promptSafe_iff [LawfulCallGrid Q G] (limit cols rows : Nat) (events : List ScreenEvent)
    (h : ((newSized limit cols rows : PaneScreen P G).replay events).OnPrimary) :
    PromptSafe ((newSized limit cols rows : PaneScreen P G).replay events)
        (((newSized limit cols rows : PaneScreen P G).replay events).feed
          (((newSized limit cols rows : PaneScreen P G).replay events).cleanupSequence true)) ↔
      ((newSized limit cols rows : PaneScreen P G).replay events).Cleanable :=
  promptSafe_iff_cleanable h (holdsHigh_replay limit cols rows events)

end Grid

section Samples

/-- A program set mouse tracking and died before it wrote anything. -/
theorem promptSafe_iff_emptyScreen :
    PromptSafe ((newSized 0 80 24 : PaneScreen PlainParser PlainGrid).replay
        [.batch (bytesOf "\x1b[?1000h")])
      (((newSized 0 80 24 : PaneScreen PlainParser PlainGrid).replay
        [.batch (bytesOf "\x1b[?1000h")]).feed idleShellCleanupBytes) := by
  refine (promptSafe_iff 0 80 24 [.batch (bytesOf "\x1b[?1000h")] ⟨by decide,
    by decide⟩).mpr ⟨by decide, by decide, ?_, ?_⟩
  · rintro ⟨call, hcall, _⟩
    rw [PlainParser.advance_eq, PlainParser.calls_esc] at hcall
    cases hcall
  · intro row col
    rfl

/-- **At an ordinary prompt the cursor moves** to the top of the screen. -/
theorem cleanup_moves_cursor :
    ¬ ∀ events : List ScreenEvent,
      ((newSized 0 80 24 : PaneScreen PlainParser PlainGrid).replay events).OnPrimary →
        PromptSafe ((newSized 0 80 24 : PaneScreen PlainParser PlainGrid).replay events)
          (((newSized 0 80 24 : PaneScreen PlainParser PlainGrid).replay events).feed
            (((newSized 0 80 24 : PaneScreen PlainParser PlainGrid).replay
              events).cleanupSequence true)) := by
  intro h
  have hsafe := h [.batch (bytesOf "$ \x1b[?1000h")] ⟨by decide, by decide⟩
  exact absurd hsafe.gridCursor (by decide)

end Samples

end PaneScreen

end Idle

end Server
end Rttx
