import Rttx.Server.SampleRows
import Rttx.Server.WorkspaceRestore

/-!
# The screen of a pane after a restart

A restart of the daemon ends the processes of all panes.  A pane is then handed to a
new shell: its screen is fed what was kept of it, from its snapshot or else from its
log, then the cleanup for a process that exited, and the cursor is put on a new line
below what is drawn.

The bytes of a snapshot may be those of an older version, and the log is output as it
came, so what is fed may be anything; it is cut after its last line end.

**Results.**
* `replay_prompt`: whatever was kept, the new shell starts in the first column, and
  nothing is drawn in its line or below.
* `replay_baseline_iff`: no mode is left of what was fed, if and only if it leaves off
  the two modes of the mouse that the cleanup does not reset.
-/

namespace Rttx
namespace Server

open Kernel Vt100Parser

universe u v

section Restoring

variable {P : Type u} {G : Type v}
variable [VteParser P] [Vt100Parser G]

/-- Whether anything is drawn in a row. -/
def rowHasContent (g : G) (row : Nat) : Bool :=
  (List.range (size g).2).any fun col => (cell g row col).any Cell.hasContents

/-- The last row in which anything is drawn. -/
def lastContentRow (g : G) : Option Nat :=
  (List.range (size g).1).reverse.find? (rowHasContent g)

/-- Put the cursor on a new line below what is drawn on the primary screen. -/
def PaneScreen.moveCursorBelowContent (s : PaneScreen P G) : PaneScreen P G :=
  if alternateScreen s.grid then
    s
  else
    match lastContentRow s.grid with
    | none => s
    | some row =>
        if row < (Vt100Parser.cursorPosition s.grid).1 then
          s
        else
          s.feed (belowBytes row)

/-- Whether a full-screen program owned the screen of a snapshot. -/
def ScreenSnapshotV1.tuiOwnedScreen (snap : ScreenSnapshotV1) : Bool :=
  snap.modes.alternateScreen || snap.modes.mouseTrackingMode != 0

/-- Restore a pane from its snapshot. -/
def Pane.restoreFromSnapshot (p : Pane P G) (snap : ScreenSnapshotV1) : Pane P G :=
  let screen :=
    if snap.tuiOwnedScreen then
      p.screen
    else
      p.screen.feed (restartSafeScrollback snap.screenBytes)
  let cleanup := screen.cleanupSequence false
  { p with
    screen := (screen.feed cleanup).moveCursorBelowContent
    outputSeq := snap.paneOutputSeq }

/-- What was kept of a pane: its snapshot, or its log, with what the log is rewritten
to if it was cut. -/
inductive ReplayData
  | snapshot (snap : ScreenSnapshotV1)
  | scrollback (clean : Bytes) (rewrite : Option Bytes)
  | none
deriving DecidableEq

/-- A pane's files as they are read: the log only where there is no snapshot. -/
def ReplayData.load (snapshot : Option ScreenSnapshotV1) (log : Option Bytes) : ReplayData :=
  match snapshot, log with
  | some snap, _ => .snapshot snap
  | .none, some data =>
      let clean := stripClientQueries (restartSafeScrollback data)
      .scrollback clean (if clean.length = data.length then .none else some clean)
  | .none, .none => .none

/-- Feed a pane what was kept of it. -/
def Pane.replay (p : Pane P G) : ReplayData → Pane P G
  | .snapshot snap => p.restoreFromSnapshot snap
  | .scrollback clean _ =>
      let screen := p.screen.feed clean
      let cleanup := screen.cleanupSequence false
      { p with screen := (screen.feed cleanup).moveCursorBelowContent }
  | .none => p

/-- What a screen is fed before the cleanup. -/
def ReplayData.fedBytes : ReplayData → Option Bytes
  | .snapshot snap =>
      if snap.tuiOwnedScreen then Option.none else some (restartSafeScrollback snap.screenBytes)
  | .scrollback clean _ => some clean
  | .none => Option.none

/-- The screen before the cleanup. -/
def ReplayData.fedScreen (s : PaneScreen P G) (data : ReplayData) : PaneScreen P G :=
  (data.fedBytes.map s.feed).getD s

theorem Pane.replay_screen {data : ReplayData}
    (h : data ≠ .none)
    (p : Pane P G) :
    (p.replay data).screen =
      ((data.fedScreen p.screen).feed
        ((data.fedScreen p.screen).cleanupSequence false)).moveCursorBelowContent := by
  cases data with
  | snapshot snap =>
      rw [replay, restoreFromSnapshot, ReplayData.fedScreen, ReplayData.fedBytes]
      split <;> rfl
  | scrollback clean rewrite => rfl
  | none => exact absurd rfl h

/-- Where a prompt goes: in the first column, with nothing drawn in its line or below. -/
structure PaneScreen.PromptPlace (s : PaneScreen P G) : Prop where
  column : (Vt100Parser.cursorPosition s.grid).2 = 0
  below : ∀ row col c, (Vt100Parser.cursorPosition s.grid).1 ≤ row →
    cell s.grid row col = some c → c.hasContents = false

end Restoring

section Content

variable {G : Type v} [Vt100Parser G]

/-- The last row with content, and nothing in the rows below it. -/
theorem lastContentRow_eq_some {g : G} {row : Nat}
    (h : lastContentRow g = some row) :
    row < (size g).1 ∧ ∀ r, row < r → r < (size g).1 → rowHasContent g r = false := by
  rw [lastContentRow, List.find?_eq_some_iff_append] at h
  obtain ⟨_, later, earlier, hrange, hlater⟩ := h
  have hmem : ∀ r, r ∈ later ++ row :: earlier ↔ r < (size g).1 := by
    intro r
    rw [← hrange, List.mem_reverse, List.mem_range]
  have hsorted : (later ++ row :: earlier).Pairwise (· > ·) := by
    rw [← hrange, List.pairwise_reverse]
    exact List.pairwise_lt_range
  refine ⟨(hmem row).mp (by simp), fun r hr hlast => ?_⟩
  rcases List.mem_append.mp ((hmem r).mpr hlast) with hbefore | hafter
  · simpa using hlater r hbefore
  · rcases List.mem_cons.mp hafter with rfl | hearlier
    · omega
    · have hbelow := (List.pairwise_cons.mp (List.pairwise_append.mp hsorted).2.1).1 r hearlier
      omega

theorem rowHasContent_eq_false {g : G} {row : Nat}
    (h : rowHasContent g row = false)
    {col : Nat} {c : Cell}
    (hcol : col < (size g).2)
    (hc : cell g row col = some c) :
    c.hasContents = false := by
  rw [rowHasContent, List.any_eq_false] at h
  have hnone := h col (List.mem_range.mpr hcol)
  rw [hc, Option.any_some] at hnone
  simpa using hnone

end Content

section Feeding

variable {P : Type u} {G : Type v}
variable [VteParser P] [Vt100Parser G]

namespace PaneScreen

theorem parser_feed (s : PaneScreen P G) (data : Bytes) :
    (s.feed data).parser = parserAfter s.parser (s.sanitizeOutput data) := by
  have hadvance : ∀ (data : Bytes) (parser : P) (performer : ScreenPerformer),
      (advanceParser (parser, performer) data).1 = parserAfter parser data := by
    intro data
    induction data with
    | nil => exact fun _ _ => rfl
    | cons b rest ih => exact fun parser performer => ih _ _
  exact hadvance _ _ _

/-- Nothing is held back of bytes that end in ASCII. -/
theorem feed_tail (s : PaneScreen P G) {data front : Bytes} {b : UInt8}
    (h : s.sanitizeOutput data = front ++ [b])
    (hb : b < 0x80) :
    (s.feed data).gridUtf8Tail = [] := by
  have hnone : incompleteUtf8TailLen (s.gridUtf8Tail ++ s.sanitizeOutput data) = 0 := by
    rw [h, ← List.append_assoc]
    exact incompleteUtf8TailLen_of_ascii_last _ hb
  have htail : (s.feed data).gridUtf8Tail = (s.gridUtf8Tail ++ s.sanitizeOutput data).drop
      ((s.gridUtf8Tail ++ s.sanitizeOutput data).length -
        incompleteUtf8TailLen (s.gridUtf8Tail ++ s.sanitizeOutput data)) := rfl
  rw [htail, hnone, Nat.sub_zero, List.drop_length]

end PaneScreen

end Feeding

section Cleaned

variable {P Q : Type u} {G : Type v}
variable [VteParser P] [ControlParser P]
variable [VteParser Q] [ControlParser Q] [AsciiDispatch Q] [Vt100Parser G] [CallGrid Q G]
variable [RegionGrid G]

namespace PaneScreen

/-- A screen on which the cleanup was fed. -/
structure Cleaned (t : PaneScreen P G) : Prop where
  parser : ControlParser.atRest t.parser = true
  gridParser : ControlParser.atRest (CallGrid.parser t.grid) = true
  tail : t.gridUtf8Tail = []
  whole : RegionGrid.wholeScreen t.grid
  home : Vt100Parser.cursorPosition t.grid = (0, 0)
  primary : Vt100Parser.alternateScreen t.grid = false

variable [LawfulCallGrid Q G] [LawfulRegion Q G]

theorem cleaned_feed {s : PaneScreen P G}
    (hhigh : s.HoldsHigh)
    (hview : RegionGrid.unscrolled s.grid) :
    Cleaned (s.feed (s.cleanupSequence false)) := by
  have hlast : ∀ active, exitBytes active = (exitBytes active).dropLast ++ [0x6d] := by
    decide
  have hexit : s.sanitizeOutput (s.cleanupSequence false) = exitBytes s.onAlternate :=
    s.exitCleanup_eq
  have hgrid := s.feed_exit_grid
  obtain ⟨before, between, hleaving, hcalls⟩ :=
    callsOver_exitBytes s.onAlternate fun _ => CallGrid.swallows_after s.grid s.gridUtf8Tail
  have hexitCalls : exitCalls = exitCalls.take 10 ++ homeCalls := rfl
  refine ⟨?_, ?_, ?_, ?_, ?_, ?_⟩
  · rw [parser_feed, hexit]
    exact atRest_exitBytes _ _
  · rw [hgrid, LawfulCallGrid.parser_process, parserAfter_append, s.exitCleanup_eq]
    exact atRest_exitBytes _ _
  · exact s.feed_tail (hexit.trans (hlast _)) (by decide)
  · rw [hgrid]
    refine LawfulRegion.whole_process _ _ ?_
    rw [s.exitCleanup_eq, callsOver_append, hcalls, hexitCalls, ← List.append_assoc,
      ← List.append_assoc, List.foldl_append]
    exact LawfulRegion.whole_home _ (unscrolled_foldl hview _)
  · have hcursor := congrArg GridReadout.cursor
      (LawfulCallGrid.readout_process s.grid (s.gridUtf8Tail ++ s.exitCleanup))
    rw [hgrid]
    refine hcursor.trans ?_
    rw [s.exitCleanup_eq, callsOver_append, hcalls, hexitCalls, ← List.append_assoc,
      ← List.append_assoc, List.foldl_append]
    exact cursorPosition_homeCalls _
  · exact congrArg ScreenModes.alternateScreen (grid_exit hhigh).1

omit [LawfulRegion Q G] in
theorem Cleaned.feed_below [LineParser P] [LineParser Q] {t : PaneScreen P G}
    (h : Cleaned t)
    {row : Nat}
    (hrow : row < 2 ^ 16 - 1) :
    (∃ raw cursorRow cursorCol, (t.feed (belowBytes row)).performer =
      { t.performer with
        rawBytes := raw
        cursorRow := cursorRow
        cursorCol := cursorCol }) ∧
      gridReadout (t.feed (belowBytes row)).grid =
        gridReadout ((belowCalls row).foldl CallGrid.perform t.grid) := by
  have hclean : t.sanitizeOutput (belowBytes row) = belowBytes row := strip_belowBytes row _
  obtain ⟨raw, hfeed⟩ := t.feed_performer (belowBytes row)
  have hend : t.sanitizeOutput (belowBytes row) =
      ((Control.sequence (moveToRow row)).bytes ++ [0x0d]) ++ [0x0a] := by
    rw [hclean, belowBytes_eq, List.append_assoc]
    rfl
  have hgrid := t.feed_grid hend (by decide)
  constructor
  · obtain ⟨cursorRow, cursorCol, hperformed⟩ :=
      performAll_belowCalls { t.performer with rawBytes := raw } row
    refine ⟨raw, cursorRow, cursorCol, ?_⟩
    rw [hfeed, hclean, callsOver_belowBytes h.parser hrow, hperformed]
  · rw [hgrid, h.tail, List.nil_append, hclean, LawfulCallGrid.readout_process,
      callsOver_belowBytes h.gridParser hrow]

theorem Cleaned.promptPlace [LineParser P] [LineParser Q] {t : PaneScreen P G}
    (h : Cleaned t)
    (hrows : (size t.grid).1 < 2 ^ 16) :
    PromptPlace t.moveCursorBelowContent := by
  rw [moveCursorBelowContent, h.primary, if_neg Bool.false_ne_true]
  cases hlast : lastContentRow t.grid with
  | none =>
      refine ⟨congrArg Prod.snd h.home, fun row col c _ hc => ?_⟩
      obtain ⟨hrow, hcol⟩ := LawfulRegion.cell_within _ _ _ _ hc
      rw [lastContentRow, List.find?_eq_none] at hlast
      have hnone := hlast row (List.mem_reverse.mpr (List.mem_range.mpr hrow))
      exact rowHasContent_eq_false (Bool.not_eq_true _ ▸ hnone) hcol hc
  | some row =>
      obtain ⟨hrow, hbelow⟩ := lastContentRow_eq_some hlast
      have hnot : ¬ row < (Vt100Parser.cursorPosition t.grid).1 := by
        rw [h.home]
        exact Nat.not_lt_zero row
      simp only [if_neg hnot]
      have hlow : row < 2 ^ 16 - 1 := by omega
      obtain ⟨_, hgrid⟩ := h.feed_below hlow
      obtain ⟨line, hcursor, hlines⟩ := perform_belowCalls h.whole hrow
      have hat := (congrArg GridReadout.cursor hgrid).trans hcursor
      refine ⟨congrArg Prod.snd hat, fun r col c hr hc => ?_⟩
      have hcell := congrFun (congrFun (congrArg GridReadout.cell hgrid) r) col
      have hr' : line ≤ r := Nat.le_trans (Nat.le_of_eq (congrArg Prod.fst hat).symm) hr
      rcases hlines r col c hr' (hcell.symm.trans hc) with hblank | ⟨hlow, hkept⟩
      · exact hblank
      · obtain ⟨hin, hcol⟩ := LawfulRegion.cell_within _ _ _ _ hkept
        exact rowHasContent_eq_false (hbelow r hlow hin) hcol hkept

omit [VteParser P] [ControlParser P] [ControlParser Q] [AsciiDispatch Q] [RegionGrid G]
  [LawfulCallGrid Q G] [LawfulRegion Q G] in
/-- A baseline is one of the modes, whatever was stored and wherever the cursor is. -/
theorem Baseline.congr {s t : PaneScreen P G}
    (h : Baseline s)
    (hperformer : ∃ raw cursorRow cursorCol, t.performer =
      { s.performer with rawBytes := raw, cursorRow := cursorRow, cursorCol := cursorCol })
    (hmodes : gridModes t.grid = gridModes s.grid)
    (hencoding : mouseProtocolEncoding t.grid = mouseProtocolEncoding s.grid)
    (hattributes : CallGrid.attributes t.grid = CallGrid.attributes s.grid) :
    Baseline t where
  alternate := by
    obtain ⟨raw, cursorRow, cursorCol, hsame⟩ := hperformer
    exact hsame ▸ h.alternate
  mouse := by
    obtain ⟨raw, cursorRow, cursorCol, hsame⟩ := hperformer
    exact hsame ▸ h.mouse
  focus := by
    obtain ⟨raw, cursorRow, cursorCol, hsame⟩ := hperformer
    exact hsame ▸ h.focus
  paste := by
    obtain ⟨raw, cursorRow, cursorCol, hsame⟩ := hperformer
    exact hsame ▸ h.paste
  keys := by
    obtain ⟨raw, cursorRow, cursorCol, hsame⟩ := hperformer
    exact hsame ▸ h.keys
  visible := by
    obtain ⟨raw, cursorRow, cursorCol, hsame⟩ := hperformer
    exact hsame ▸ h.visible
  grid := hmodes.trans h.grid
  encoding := hencoding.trans h.encoding
  attributes := hattributes.trans h.attributes

/-- The move changes no mode. -/
theorem Cleaned.baseline_iff [LineParser P] [LineParser Q] {t : PaneScreen P G}
    (h : Cleaned t)
    (hrows : (size t.grid).1 < 2 ^ 16) :
    Baseline t.moveCursorBelowContent ↔ Baseline t := by
  rw [moveCursorBelowContent, h.primary, if_neg Bool.false_ne_true]
  cases hlast : lastContentRow t.grid with
  | none => exact Iff.rfl
  | some row =>
      obtain ⟨hrow, _⟩ := lastContentRow_eq_some hlast
      have hnot : ¬ row < (Vt100Parser.cursorPosition t.grid).1 := by
        rw [h.home]
        exact Nat.not_lt_zero row
      simp only [if_neg hnot]
      have hlow : row < 2 ^ 16 - 1 := by omega
      obtain ⟨⟨raw, cursorRow, cursorCol, hperformer⟩, hgrid⟩ := h.feed_below hlow
      have hmodes := (congrArg GridReadout.modes hgrid).trans
        (CallGrid.modes_foldl t.grid (belowCalls row))
      have hencoding := (congrArg GridReadout.encoding hgrid).trans
        (CallGrid.encoding_foldl t.grid (belowCalls row))
      have hkept : ∀ g : G, ∀ call ∈ belowCalls row,
          CallGrid.attributes (CallGrid.perform g call) = CallGrid.attributes g :=
        fun g => LawfulRegion.attributes_below g row
      have hattributes := (congrArg GridReadout.attributes hgrid).trans
        ((hkept _ (.execute 0x0a) (by simp [belowCalls])).trans
          ((hkept _ (.execute 0x0d) (by simp [belowCalls])).trans
            (hkept t.grid (moveCall row) (by simp [belowCalls]))))
      have hback : t.performer = { (t.feed (belowBytes row)).performer with
          rawBytes := t.performer.rawBytes
          cursorRow := t.performer.cursorRow
          cursorCol := t.performer.cursorCol } := by
        rw [hperformer]
      constructor
      · exact fun hbase =>
          hbase.congr ⟨_, _, _, hback⟩ hmodes.symm hencoding.symm hattributes.symm
      · exact fun hbase => hbase.congr ⟨_, _, _, hperformer⟩ hmodes hencoding hattributes

end PaneScreen

end Cleaned

section Fed

variable {P : Type u} {G : Type v}
variable [VteParser P] [ControlParser P] [LineParser P]
variable [Vt100Parser G] [LawfulGrid G] [RegionGrid G] [ViewGrid G]
variable {limit cols rows : Nat} {s : PaneScreen P G}

/-- A screen of a given size that was fed nothing, or bytes that end in a line end. -/
structure PaneScreen.FedLines (cols rows : Nat) (s : PaneScreen P G) : Prop where
  whole : ControlParser.swallows s.parser = false
  high : s.HoldsHigh
  view : RegionGrid.unscrolled s.grid
  size : Vt100Parser.size s.grid = (max rows 1, max cols 1)

theorem PaneScreen.fedLines_newSized :
    FedLines cols rows (newSized limit cols rows : PaneScreen P G) where
  whole := (ControlParser.rest _ LineParser.fresh).2
  high := List.forall_mem_nil _
  view := ViewGrid.unscrolled_new ..
  size := LawfulGrid.size_new ..

theorem PaneScreen.FedLines.feed {data : Bytes}
    (h : FedLines cols rows s)
    (hdata : EndsInLine data) :
    FedLines cols rows (s.feed data) where
  whole := by
    have hends : EndsInLine (s.sanitizeOutput data) := hdata.stripExits _
    rw [parser_feed]
    rcases List.eq_nil_or_concat (s.sanitizeOutput data) with hnil | ⟨front, b, hlast⟩
    · rw [hnil]
      exact h.whole
    · rw [List.concat_eq_append] at hlast
      have hb : endsLine b = true := hends b (by rw [hlast, List.getLast?_concat])
      have hascii : b < 0x80 := by
        rcases endsLine_cases hb with rfl | rfl <;> decide
      rw [hlast, parserAfter_append]
      exact LineParser.ascii _ b hascii
  high := holdsHigh_feedGrid _ _
  view := ViewGrid.unscrolled_process _ _ h.view
  size := (LawfulGrid.size_process _ _).trans h.size

omit [LineParser P] [ViewGrid G] in
theorem PaneScreen.FedLines.size_cleanup
    (h : FedLines cols rows s) :
    Vt100Parser.size (s.feed (s.cleanupSequence false)).grid = (max rows 1, max cols 1) := by
  rw [feed_exit_grid]
  exact (LawfulGrid.size_process _ _).trans h.size

omit [LineParser P] [ViewGrid G] in
theorem PaneScreen.FedLines.rows_cleanup
    (h : FedLines cols rows s)
    (hrows : rows < 2 ^ 16) :
    (Vt100Parser.size (s.feed (s.cleanupSequence false)).grid).1 < 2 ^ 16 := by
  have hsize := congrArg Prod.fst h.size_cleanup
  exact lt_of_eq_of_lt hsize (max_lt hrows (by decide))

theorem ReplayData.fedLines
    (h : s.FedLines cols rows)
    (snapshot : Option ScreenSnapshotV1)
    (log : Option Bytes) :
    ((ReplayData.load snapshot log).fedScreen s).FedLines cols rows := by
  cases snapshot with
  | some snap =>
      rw [load, fedScreen, fedBytes]
      split
      · exact h
      · exact h.feed (restartSafeScrollback_ends _)
  | none =>
      cases log with
      | some data => exact h.feed (restartSafeScrollback_ends data).stripQueries
      | none => exact h

end Fed

section Restarted

variable {P Q : Type u} {G : Type v}
variable [VteParser P] [ControlParser P] [LineParser P]
variable [VteParser Q] [ControlParser Q] [AsciiDispatch Q] [LineParser Q]
variable [Vt100Parser G] [LawfulGrid G] [RegionGrid G] [ViewGrid G] [CallGrid Q G]
variable {snapshot : Option ScreenSnapshotV1} {log : Option Bytes} {cols rows : Nat}

namespace PaneScreen

omit [LineParser P] [LineParser Q] [LawfulGrid G] [ViewGrid G] in
/-- The cleanup reaches the baseline, unless a mode is on that it does not reset. -/
theorem baseline_cleanup_iff [LawfulCallGrid Q G] {s : PaneScreen P G}
    (h : s.FedLines cols rows) :
    Baseline (s.feed (s.cleanupSequence false)) ↔
      mouseProtocolMode s.grid ≠ .press ∧ mouseProtocolEncoding s.grid ≠ .utf8 := by
  obtain ⟨hmodes, hencoding, _⟩ := grid_exit h.high
  constructor
  · intro hbase
    refine ⟨fun hpress => ?_, fun hutf8 => ?_⟩
    · have hmouse := congrArg ScreenModes.mouse (hmodes.symm.trans hbase.grid)
      simp only [gridModes, hpress] at hmouse
      cases hmouse
    · have hcoded := hencoding.symm.trans hbase.encoding
      rw [hutf8] at hcoded
      cases hcoded
  · rintro ⟨hmouse, hcoded⟩
    exact ((exitCleaned_iff_resettable h.high).mpr ⟨hmouse, hcoded, fun _ => h.whole⟩).baseline

end PaneScreen

theorem ReplayData.load_ne_none
    (hkept : snapshot.isSome ∨ log.isSome) :
    ReplayData.load snapshot log ≠ .none := by
  cases snapshot with
  | some snap => exact nofun
  | none =>
      cases log with
      | some data => exact nofun
      | none => exact absurd hkept (by decide)

omit [VteParser Q] [ControlParser Q] [AsciiDispatch Q] [LineParser Q] [CallGrid Q G] in
/-- A reconstructed pane before the cleanup. -/
theorem ReplayData.restorePane_fedLines
    (ps : PaneSpecV2)
    (snapshot : Option ScreenSnapshotV1)
    (log : Option Bytes) :
    ((ReplayData.load snapshot log).fedScreen
      (Workspace.restorePane ps : Pane P G).screen).FedLines ps.cols ps.rows :=
  ReplayData.fedLines PaneScreen.fedLines_newSized snapshot log

/-- A pane of two rows. -/
def keptPane : PaneSpecV2 :=
  ⟨.fromUuid 7, none, none, none, 4, 2, false⟩

/-- **Where the new shell starts**: whatever was kept of a pane, in the first column of
a line in which nothing is drawn, and nothing is drawn below. -/
theorem replay_prompt [LawfulCallGrid Q G] [LawfulRegion Q G] {ps : PaneSpecV2}
    (hrows : ps.rows < 2 ^ 16)
    (hkept : snapshot.isSome ∨ log.isSome) :
    ((Workspace.restorePane ps : Pane P G).replay
      (ReplayData.load snapshot log)).screen.PromptPlace := by
  have hfed : ((ReplayData.load snapshot log).fedScreen
      (Workspace.restorePane ps : Pane P G).screen).FedLines ps.cols ps.rows :=
    ReplayData.restorePane_fedLines ps snapshot log
  have hcleaned := PaneScreen.cleaned_feed hfed.high hfed.view
  rw [Pane.replay_screen (ReplayData.load_ne_none hkept)]
  exact hcleaned.promptPlace (hfed.rows_cleanup hrows)

/-- Two full rows and a prompt: the new shell starts in the last row, after the rows
have moved up. -/
theorem replay_prompt_scrolled :
    ((Workspace.restorePane keptPane : Pane PlainParser RowGrid).replay
      (ReplayData.load none (some (bytesOf "one\r\ntwo\r$ ")))).screen.PromptPlace :=
  replay_prompt (by decide) (Or.inr rfl)

/-- **No mode is left of what was fed**, if and only if it leaves off mode 9 and mode
1005 of the mouse. -/
theorem replay_baseline_iff [LawfulCallGrid Q G] [LawfulRegion Q G] {ps : PaneSpecV2}
    (hrows : ps.rows < 2 ^ 16)
    (hkept : snapshot.isSome ∨ log.isSome) :
    ((Workspace.restorePane ps : Pane P G).replay
        (ReplayData.load snapshot log)).screen.Baseline ↔
      mouseProtocolMode ((ReplayData.load snapshot log).fedScreen
          (Workspace.restorePane ps : Pane P G).screen).grid ≠ .press ∧
        mouseProtocolEncoding ((ReplayData.load snapshot log).fedScreen
          (Workspace.restorePane ps : Pane P G).screen).grid ≠ .utf8 := by
  have hfed : ((ReplayData.load snapshot log).fedScreen
      (Workspace.restorePane ps : Pane P G).screen).FedLines ps.cols ps.rows :=
    ReplayData.restorePane_fedLines ps snapshot log
  have hcleaned := PaneScreen.cleaned_feed hfed.high hfed.view
  have hmove := hcleaned.baseline_iff (hfed.rows_cleanup hrows)
  rw [Pane.replay_screen (ReplayData.load_ne_none hkept)]
  exact hmove.trans (PaneScreen.baseline_cleanup_iff hfed)

/-- A log that leaves on the mode in which presses alone are reported. -/
theorem replay_baseline_iff_presses :
    ((Workspace.restorePane keptPane : Pane PlainParser RowGrid).replay
        (ReplayData.load none (some (bytesOf "\x1b[?9h\r\n$ ")))).screen.Baseline ↔
      mouseProtocolMode ((ReplayData.load none (some (bytesOf "\x1b[?9h\r\n$ "))).fedScreen
          (Workspace.restorePane keptPane : Pane PlainParser RowGrid).screen).grid ≠ .press ∧
        mouseProtocolEncoding ((ReplayData.load none (some (bytesOf "\x1b[?9h\r\n$ "))).fedScreen
          (Workspace.restorePane keptPane : Pane PlainParser RowGrid).screen).grid ≠ .utf8 :=
  replay_baseline_iff (by decide) (Or.inr rfl)

end Restarted

end Server
end Rttx
