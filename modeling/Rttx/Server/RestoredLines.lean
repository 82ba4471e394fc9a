import Rttx.Server.LogicalLines
import Rttx.Server.PaneRestore
import Rttx.Server.SizeCaps

/-!
# The lines that outlive a restart

The daemon writes the primary buffer of a pane into its snapshot, cut to its last lines
where it is too long.  After a restart the snapshot is cut once more, after its last line
end, and fed to the screen of the reconstructed pane.

Both cuts are made in the bytes of a rendering.  Its line ends are those of its tokens:
neither a change of attributes nor the text of a cell has one in it.

**Results.**
* `restored_lines`: what is fed of a snapshot are the lines of the rendering but for its
  last line, and for the oldest where the rendering is too long.
-/

namespace Rttx
namespace Server

open Kernel

universe u v

section Written

/-- The bytes of the tokens after the attributes `attrs`. -/
def written : CellAttrs → List RenderToken → Bytes
  | _, [] => []
  | attrs, .item c :: rest => c.attrs.diff attrs ++ bytesOf c.text ++ written c.attrs rest
  | attrs, .lineEnd :: rest => newLine ++ written attrs rest
  | attrs, .mark m :: rest => m.bytes ++ written attrs rest

/-- The attributes after the tokens. -/
def penAfter : CellAttrs → List RenderToken → CellAttrs
  | attrs, [] => attrs
  | _, .item c :: rest => penAfter c.attrs rest
  | attrs, .lineEnd :: rest => penAfter attrs rest
  | attrs, .mark _ :: rest => penAfter attrs rest

theorem tokenBytes_append (attrs : CellAttrs) (first second : List RenderToken) :
    tokenBytes attrs (first ++ second) =
      written attrs first ++ tokenBytes (penAfter attrs first) second := by
  induction first generalizing attrs with
  | nil => rfl
  | cons token rest ih =>
      cases token <;> simp only [List.cons_append, tokenBytes, written, penAfter, ih,
        List.append_assoc]

theorem written_append (attrs : CellAttrs) (first second : List RenderToken) :
    written attrs (first ++ second) =
      written attrs first ++ written (penAfter attrs first) second := by
  induction first generalizing attrs with
  | nil => rfl
  | cons token rest ih =>
      cases token <;> simp only [List.cons_append, written, penAfter, ih, List.append_assoc]

theorem tokenBytes_eq_written (attrs : CellAttrs) (tokens : List RenderToken) :
    tokenBytes attrs tokens =
      written attrs tokens ++ CellAttrs.default.diff (penAfter attrs tokens) := by
  have happend := tokenBytes_append attrs tokens []
  rw [List.append_nil] at happend
  exact happend

/-- What the tokens print. -/
def printedText (tokens : List RenderToken) : Bytes :=
  tokens.flatMap fun
    | .item c => bytesOf c.text
    | .lineEnd => newLine
    | .mark _ => []

theorem strip_mark (m : CursorMark) (rest : Bytes) :
    strip .text (m.bytes ++ rest) = strip .text rest := by
  have hsave : bytesOf "\x1b7" = [esc, 0x37] := by decide
  have hrestore : bytesOf "\x1b8" = [esc, 0x38] := by decide
  cases m with
  | save => rw [CursorMark.bytes, hsave]; rfl
  | restore => rw [CursorMark.bytes, hrestore]; rfl

theorem strip_written {tokens : List RenderToken}
    (h : PrintedTokens tokens)
    (attrs : CellAttrs) (rest : Bytes) :
    strip .text (written attrs tokens ++ rest) = printedText tokens ++ strip .text rest := by
  induction tokens generalizing attrs with
  | nil => rfl
  | cons token tokens ih =>
      have htokens : PrintedTokens tokens := fun t ht => h t (List.mem_cons_of_mem _ ht)
      cases token with
      | item c =>
          have hc := h _ List.mem_cons_self c rfl
          have hesc : esc ∉ bytesOf c.text := fun hmem => absurd (hc _ hmem) (by decide)
          rw [written, List.append_assoc, List.append_assoc, strip_diff, strip_text hesc,
            ih htokens, ← List.append_assoc]
          rfl
      | lineEnd =>
          have hesc : esc ∉ newLine := by decide
          rw [written, List.append_assoc, strip_text hesc, ih htokens, ← List.append_assoc]
          rfl
      | mark m =>
          rw [written, List.append_assoc, strip_mark, ih htokens]
          rfl

/-- Going back to the default attributes prints nothing. -/
theorem written_lines {tokens : List RenderToken}
    (h : PrintedTokens tokens)
    (attrs : CellAttrs) :
    splitCrLf (strip .text (written attrs tokens)) = (tokenLines tokens).map cellsText := by
  have hdiff := strip_diff CellAttrs.default (penAfter attrs tokens) []
  rw [List.append_nil] at hdiff
  have hbare := strip_written h attrs []
  rw [List.append_nil] at hbare
  rw [← stripped_lines h attrs, tokenBytes_eq_written, strip_written h, hdiff, hbare]

end Written

section LineEnds

/-- The bytes are no line ends. -/
def Flat (data : Bytes) : Prop :=
  ∀ b ∈ data, endsLine b = false

instance (data : Bytes) : Decidable (Flat data) :=
  List.decidableBAll _ _

theorem Flat.append {first second : Bytes}
    (hfirst : Flat first)
    (hsecond : Flat second) :
    Flat (first ++ second) :=
  List.forall_mem_append.mpr ⟨hfirst, hsecond⟩

theorem endsLine_of_printed {b : UInt8}
    (h : 0x20 ≤ b) :
    endsLine b = false := by
  simp only [UInt8.le_iff_toNat_le, UInt8.reduceToNat] at h
  simp only [endsLine, Bool.or_eq_false_iff, beq_eq_false_iff_ne, ne_eq, ← UInt8.toNat_inj,
    UInt8.reduceToNat]
  omega

theorem endsLine_of_parameter {b : UInt8}
    (h : byteClass b = .parameter) :
    endsLine b = false := by
  rw [byteClass_parameter_iff] at h
  simp only [Bool.and_eq_true, decide_eq_true_eq] at h
  exact endsLine_of_printed (UInt8.le_trans (by decide) h.1)

theorem flat_diff (attrs prev : CellAttrs) : Flat (attrs.diff prev) := by
  by_cases hsame : attrs = prev
  · rw [CellAttrs.diff, if_pos hsame]
    exact List.forall_mem_nil _
  · rw [CellAttrs.diff_eq_codes hsame, bytesOf_append, bytesOf_append]
    have hstart : Flat (bytesOf "\x1b[") := by decide
    have hfinal : Flat (bytesOf "m") := by decide
    exact (hstart.append fun b hb => endsLine_of_parameter (mem_codesText hb).1).append hfinal

theorem flat_printed {text : Bytes}
    (h : Printed text) :
    Flat text :=
  fun b hb => endsLine_of_printed (h b hb)

theorem flat_mark (m : CursorMark) : Flat m.bytes := by
  cases m <;> decide

/-- Without line ends among the tokens there are none among the bytes. -/
theorem flat_tokenBytes {tokens : List RenderToken}
    (h : PrintedTokens tokens)
    (hflat : .lineEnd ∉ tokens)
    (attrs : CellAttrs) :
    Flat (tokenBytes attrs tokens) := by
  induction tokens generalizing attrs with
  | nil => exact flat_diff _ _
  | cons token rest ih =>
      have hrest : PrintedTokens rest := fun t ht => h t (List.mem_cons_of_mem _ ht)
      rw [List.mem_cons, not_or] at hflat
      cases token with
      | item c =>
          have hc := flat_printed (h _ List.mem_cons_self c rfl)
          exact ((flat_diff _ _).append hc).append (ih hrest hflat.2 _)
      | lineEnd => exact absurd rfl hflat.1
      | mark m => exact (flat_mark m).append (ih hrest hflat.2 _)

/-- A line end does not stand in a front without line ends. -/
theorem Flat.split {front rest before after : Bytes} {b : UInt8}
    (h : Flat front)
    (hb : endsLine b = true)
    (hsplit : front ++ rest = before ++ b :: after) :
    ∃ before', before = front ++ before' ∧ rest = before' ++ b :: after := by
  rcases List.append_eq_append_iff.mp hsplit with ⟨between, hbefore, hrest⟩ | ⟨between, hfront, hb'⟩
  · exact ⟨between, hbefore, hrest⟩
  · cases between with
    | nil =>
        refine ⟨[], ?_, hb'.symm⟩
        rw [List.append_nil] at hfront
        rw [List.append_nil, hfront]
    | cons x between =>
        have hx : b = x := (List.cons.inj hb').1
        have hmem : b ∈ front := by
          rw [hfront, hx]
          exact List.mem_append_right _ List.mem_cons_self
        rw [h b hmem] at hb
        cases hb

/-- A line end among the bytes is one of a token. -/
theorem lineEnd_of_tokenBytes {tokens : List RenderToken}
    (h : PrintedTokens tokens)
    {attrs : CellAttrs} {before after : Bytes} {b : UInt8}
    (hb : endsLine b = true)
    (hsplit : tokenBytes attrs tokens = before ++ b :: after) :
    ∃ front rest, tokens = front ++ .lineEnd :: rest ∧
      (b = 0x0a ∧ after = tokenBytes (penAfter attrs front) rest ∨
        b = 0x0d ∧ after = 0x0a :: tokenBytes (penAfter attrs front) rest) := by
  induction tokens generalizing attrs before with
  | nil =>
      have hmem : b ∈ tokenBytes attrs [] := by
        rw [hsplit]
        exact List.mem_append_right _ List.mem_cons_self
      rw [flat_diff _ _ b hmem] at hb
      cases hb
  | cons token tokens ih =>
      have htokens : PrintedTokens tokens := fun t ht => h t (List.mem_cons_of_mem _ ht)
      cases token with
      | item c =>
          have hc := flat_printed (h _ List.mem_cons_self c rfl)
          obtain ⟨before', _, hrest⟩ := ((flat_diff _ _).append hc).split hb hsplit
          obtain ⟨front, rest, htail, hafter⟩ := ih htokens hrest
          exact ⟨.item c :: front, rest, congrArg (List.cons _) htail, hafter⟩
      | lineEnd =>
          have hnl : newLine = [0x0d, 0x0a] := by decide
          rw [tokenBytes, hnl] at hsplit
          rcases before with _ | ⟨_, _ | ⟨_, before'⟩⟩
          · obtain ⟨hbyte, hafter⟩ := List.cons.inj hsplit
            exact ⟨[], tokens, rfl, Or.inr ⟨hbyte.symm, hafter.symm⟩⟩
          · obtain ⟨hbyte, hafter⟩ := List.cons.inj (List.cons.inj hsplit).2
            exact ⟨[], tokens, rfl, Or.inl ⟨hbyte.symm, hafter.symm⟩⟩
          · obtain ⟨front, rest, htail, hafter⟩ :=
              ih htokens (List.cons.inj (List.cons.inj hsplit).2).2
            exact ⟨.lineEnd :: front, rest, congrArg (List.cons _) htail, hafter⟩
      | mark m =>
          obtain ⟨before', _, hrest⟩ := (flat_mark m).split hb hsplit
          obtain ⟨front, rest, htail, hafter⟩ := ih htokens hrest
          exact ⟨.mark m :: front, rest, congrArg (List.cons _) htail, hafter⟩

end LineEnds

section Cuts

/-- The tokens up to the last line end, if there is one. -/
theorem exists_lastLine {tokens : List RenderToken}
    (h : .lineEnd ∈ tokens) :
    ∃ front last, tokens = front ++ .lineEnd :: last ∧ .lineEnd ∉ last := by
  obtain ⟨last, front, hsplit, hlast⟩ := List.eq_append_cons_of_mem (List.mem_reverse.mpr h)
  refine ⟨front.reverse, last.reverse, ?_, fun hmem => hlast (List.mem_reverse.mp hmem)⟩
  rw [← List.reverse_reverse tokens, hsplit, List.reverse_append, List.reverse_cons,
    List.append_assoc]
  rfl

/-- What follows the last line end is cut. -/
theorem restart_append_flat {data rest : Bytes} {b : UInt8}
    (hb : endsLine b = true)
    (hflat : Flat rest) :
    restartSafeScrollback (data ++ [b] ++ rest) = data ++ [b] := by
  have hpass : ∀ x ∈ rest.reverse, (!endsLine x) = true := by
    intro x hx
    rw [hflat x (List.mem_reverse.mp hx)]
    rfl
  rw [restartSafeScrollback_eq, List.rdropWhile, List.reverse_append,
    List.dropWhile_append_of_pos hpass, List.reverse_append, List.reverse_singleton,
    List.singleton_append, List.dropWhile_cons_of_neg (by rw [hb]; decide)]
  rw [List.reverse_cons, List.reverse_reverse]

theorem restart_flat {data : Bytes}
    (hflat : Flat data) :
    restartSafeScrollback data = [] := by
  rw [restartSafeScrollback_eq, List.rdropWhile_eq_nil_iff]
  intro x hx
  rw [hflat x hx]
  rfl

/-- **The cut of a rendering** leaves the tokens of all lines but the last. -/
theorem restart_tokenBytes {tokens : List RenderToken}
    (h : PrintedTokens tokens)
    (attrs : CellAttrs) :
    ∃ kept, PrintedTokens kept ∧ tokenLines kept = (tokenLines tokens).dropLast ++ [[]] ∧
      restartSafeScrollback (tokenBytes attrs tokens) = written attrs kept := by
  by_cases hmem : .lineEnd ∈ tokens
  · obtain ⟨front, last, rfl, hlast⟩ := exists_lastLine hmem
    have hfront : PrintedTokens front := fun t ht => h t (List.mem_append_left _ ht)
    have htail : PrintedTokens last :=
      fun t ht => h t (List.mem_append_right _ (List.mem_cons_of_mem _ ht))
    refine ⟨front ++ [.lineEnd], ?_, ?_, ?_⟩
    · intro t ht c hc
      rcases List.mem_append.mp ht with hin | hend
      · exact hfront t hin c hc
      · rw [List.mem_singleton.mp hend] at hc
        cases hc
    · obtain ⟨line, hline⟩ := tokenLines_of_flat hlast
      rw [tokenLines_snoc_lineEnd, tokenLines_append_lineEnd, hline, List.dropLast_concat]
    · have hnl : newLine = [0x0d] ++ [0x0a] := by decide
      have hsnoc : written attrs (front ++ [.lineEnd]) =
          written attrs front ++ [0x0d] ++ [0x0a] := by
        rw [written_append, List.append_assoc, ← hnl]
        exact congrArg (written attrs front ++ ·) (List.append_nil newLine)
      rw [hsnoc, tokenBytes_append, tokenBytes, hnl, ← List.append_assoc, ← List.append_assoc]
      exact restart_append_flat rfl (flat_tokenBytes htail hlast _)
  · obtain ⟨line, hline⟩ := tokenLines_of_flat hmem
    refine ⟨[], List.forall_mem_nil _, ?_, restart_flat (flat_tokenBytes h hmem attrs)⟩
    rw [hline]
    rfl

/-- **The rendering cut to its last lines** starts with a line of the tokens, or has no
line end in it. -/
theorem dropOldest_tokenBytes {tokens : List RenderToken}
    (h : PrintedTokens tokens)
    {attrs : CellAttrs} {max : Nat}
    (hlong : max < (tokenBytes attrs tokens).length) :
    (∃ front rest, tokens = front ++ .lineEnd :: rest ∧
        dropOldestLinesOver (tokenBytes attrs tokens) max =
          tokenBytes (penAfter attrs front) rest) ∨
      Flat (dropOldestLinesOver (tokenBytes attrs tokens) max) := by
  rw [dropOldestLinesOver_eq]
  have hall := overflow_append (tokenBytes attrs tokens) max
  by_cases hmem : (0x0a : UInt8) ∈ lastItems (tokenBytes attrs tokens) max
  · obtain ⟨line, kept, hlast, hline⟩ := List.eq_append_cons_of_mem hmem
    rw [hlast, ← List.append_assoc] at hall
    obtain ⟨front, rest, hsplit, hkept⟩ := lineEnd_of_tokenBytes h rfl hall.symm
    refine Or.inl ⟨front, rest, hsplit, ?_⟩
    rw [cutLines_of_line hlong hlast hline]
    rcases hkept with ⟨_, hkept⟩ | ⟨hbyte, _⟩
    · exact hkept
    · exact absurd hbyte (by decide)
  · right
    rw [cutLines_of_not_mem hlong hmem]
    intro b hb
    rw [← Bool.not_eq_true]
    intro hend
    obtain ⟨line, kept, hlast⟩ := List.append_of_mem hb
    rw [hlast] at hmem
    rw [hlast, ← List.append_assoc] at hall
    obtain ⟨front, rest, _, hkept⟩ := lineEnd_of_tokenBytes h hend hall.symm
    rcases hkept with ⟨rfl, _⟩ | ⟨_, rfl⟩
    · exact hmem (List.mem_append_right _ List.mem_cons_self)
    · exact hmem (List.mem_append_right _ (List.mem_cons_of_mem _ List.mem_cons_self))

/-- Both cuts, on the lines of a rendering. -/
theorem restored_tokenLines {tokens : List RenderToken}
    (h : PrintedTokens tokens)
    (attrs : CellAttrs) (max : Nat) :
    ∃ k, ((tokenBytes attrs tokens).length ≤ max → k = 0) ∧
      splitCrLf (strip .text
          (restartSafeScrollback (dropOldestLinesOver (tokenBytes attrs tokens) max))) =
        (((tokenLines tokens).map cellsText).drop k).dropLast ++ [[]] := by
  have hone : ∀ {tokens : List RenderToken}, PrintedTokens tokens → ∀ attrs,
      splitCrLf (strip .text (restartSafeScrollback (tokenBytes attrs tokens))) =
        ((tokenLines tokens).map cellsText).dropLast ++ [[]] := by
    intro tokens h attrs
    obtain ⟨kept, hprinted, hlines, hcut⟩ := restart_tokenBytes h attrs
    rw [hcut, written_lines hprinted, hlines, List.map_append, List.map_dropLast]
    rfl
  by_cases hlong : (tokenBytes attrs tokens).length ≤ max
  · refine ⟨0, fun _ => rfl, ?_⟩
    rw [dropOldestLinesOver_eq, cutLines, if_pos hlong]
    exact hone h attrs
  · rcases dropOldest_tokenBytes h (Nat.lt_of_not_le hlong) with ⟨front, rest, rfl, hcut⟩ | hflat
    · have hrest : PrintedTokens rest :=
        fun t ht => h t (List.mem_append_right _ (List.mem_cons_of_mem _ ht))
      refine ⟨((tokenLines front).map cellsText).length, fun hshort => absurd hshort hlong, ?_⟩
      rw [hcut, hone hrest, tokenLines_append_lineEnd, List.map_append, List.drop_left]
    · refine ⟨((tokenLines tokens).map cellsText).length, fun hshort => absurd hshort hlong, ?_⟩
      rw [restart_flat hflat, List.drop_length]
      rfl

end Cuts

section Restored

variable {P : Type u} {G : Type v}
variable [Vt100Parser G]

/-- The grid with its primary screen in view. -/
def PaneScreen.primaryGrid (s : PaneScreen P G) : G :=
  if Vt100Parser.alternateScreen s.grid then
    Vt100Parser.process s.grid (bytesOf "\x1b[?47l")
  else
    s.grid

theorem toScreenSnapshot_screenBytes (p : Pane P G) (proc : ProcFs) :
    (p.toScreenSnapshot proc).1.screenBytes =
      dropOldestLinesOver (renderPrimaryBuffer p.screen.primaryGrid .afterContent).1
        maxSnapshotBytes :=
  rfl

/-- No cursor is placed after the content. -/
theorem cursorOnCells_afterContent (g : G) : CursorOnCells g .afterContent := by
  intro row hrow
  cases hrow

variable [ScrolledGrid G] [PrintedCells G]

/-- **The lines that outlive a restart.**  A snapshot is fed unless a full-screen program
owned the screen.  What is fed are the lines of the rendering but for the last one, and
for the `k` oldest if the rendering is too long. -/
theorem restored_lines {p : Pane P G}
    (hrows : 0 < (Vt100Parser.size p.screen.primaryGrid).1)
    (proc : ProcFs) (log : Option Bytes) :
    ((ReplayData.load (some (p.toScreenSnapshot proc).1) log).fedBytes.isSome ↔
        p.screen.performer.alternateScreen = false ∧ p.screen.performer.mouseTrackingMode = 0) ∧
      ∀ data, (ReplayData.load (some (p.toScreenSnapshot proc).1) log).fedBytes = some data →
        ∃ k,
          ((renderPrimaryBuffer p.screen.primaryGrid .afterContent).1.length ≤ maxSnapshotBytes →
            k = 0) ∧
          splitCrLf (strip .text data) =
            ((renderedLines p.screen.primaryGrid .afterContent).drop k).dropLast ++ [[]] := by
  have hload : (ReplayData.load (some (p.toScreenSnapshot proc).1) log).fedBytes =
      if (p.screen.performer.alternateScreen || p.screen.performer.mouseTrackingMode != 0) then
        none
      else
        some (restartSafeScrollback (p.toScreenSnapshot proc).1.screenBytes) :=
    rfl
  rw [hload, toScreenSnapshot_screenBytes, renderedLines, renderPrimaryBuffer_eq hrows,
    renderRows_eq]
  have hprinted := printed_renderTokens (cursorOnCells_afterContent p.screen.primaryGrid)
  constructor
  · cases p.screen.performer.alternateScreen <;>
      by_cases hmouse : p.screen.performer.mouseTrackingMode = 0 <;> simp [hmouse]
  · intro data hdata
    split at hdata
    · cases hdata
    · cases hdata
      rw [stripped_lines hprinted]
      exact restored_tokenLines hprinted CellAttrs.default maxSnapshotBytes

/-- Two finished lines, with the cursor on the line below. -/
def finishedLines : KeptGrid :=
  { KeptGrid.prompt with
    rows := 4
    screen := KeptGrid.prompt.screen ++ KeptGrid.wrappedText.screen
    cursor := (2, 0) }

def finishedPane : Pane PlainParser KeptGrid :=
  let p : Pane PlainParser KeptGrid := Pane.new 7 4 4
  { p with screen := { p.screen with grid := finishedLines } }

def finishedSnapshot : ScreenSnapshotV1 :=
  (finishedPane.toScreenSnapshot Workspace.silentProc).1

/-- The last line is left out although it was finished. -/
example : (renderedLines finishedPane.screen.primaryGrid .afterContent).dropLast ++ [[]] =
    [bytesOf "$", []] := by
  decide +kernel

theorem restored_lines_finished :
    ((ReplayData.load (some finishedSnapshot) none).fedBytes.isSome ↔
        finishedPane.screen.performer.alternateScreen = false ∧
          finishedPane.screen.performer.mouseTrackingMode = 0) ∧
      ∀ data, (ReplayData.load (some finishedSnapshot) none).fedBytes = some data →
        ∃ k,
          ((renderPrimaryBuffer finishedPane.screen.primaryGrid .afterContent).1.length ≤
              maxSnapshotBytes →
            k = 0) ∧
          splitCrLf (strip .text data) =
            ((renderedLines finishedPane.screen.primaryGrid .afterContent).drop k).dropLast ++
              [[]] :=
  restored_lines (by decide) Workspace.silentProc none

end Restored

end Server
end Rttx
