import Rttx.Kernel.WrappedLines
import Rttx.Server.Render

/-!
# What a rendering is made of

A rendering of rows is a run of tokens: cells, ends of lines, and the sequences
that save and restore the cursor.  The attributes in force decide which SGR
sequence stands before a cell; the sequences print nothing, so without them the
rendering is the text of its cells with CR LF at the ends of lines.

**Results.**
* `renderRows_eq`: a rendering is what its tokens are written as.
* `stripped_lines`: without the sequences it splits into the lines of its tokens.
* `renderTokens_rows`: its tokens are those of the rows with the blanks up to the
  cursor.
-/

namespace Rttx
namespace Server

open Kernel

universe u

section Text

theorem bytesOf_eq (s : String) : bytesOf s = s.toList.flatMap String.utf8EncodeChar := by
  have hbytes : s.toUTF8 = s.toByteArray := rfl
  rw [bytesOf, hbytes, ← String.utf8Encode_toList, List.utf8Encode]
  simp

theorem bytesOf_append (s t : String) : bytesOf (s ++ t) = bytesOf s ++ bytesOf t := by
  rw [bytesOf_eq, bytesOf_eq, bytesOf_eq, String.toList_append, List.flatMap_append]

/-- A digit or a separator of SGR parameters. -/
def isSgrChar (c : Char) : Bool :=
  c.isDigit || c == ';'

/-- A text of digits and separators only. -/
def SgrText (s : String) : Prop :=
  ∀ c ∈ s.toList, isSgrChar c = true

instance (s : String) : Decidable (SgrText s) :=
  List.decidableBAll _ _

theorem SgrText.append {s t : String}
    (hs : SgrText s)
    (ht : SgrText t) :
    SgrText (s ++ t) := by
  intro c hc
  rw [String.toList_append, List.mem_append] at hc
  exact hc.elim (hs c) (ht c)

theorem SgrText.toString (n : Nat) : SgrText (toString n) := by
  intro c hc
  have hrepr : (ToString.toString n).toList = Nat.toDigits 10 n := Nat.toList_repr
  rw [hrepr] at hc
  rw [isSgrChar, Nat.isDigit_of_mem_toDigits (by decide) (by decide) hc, Bool.true_or]

theorem SgrText.intercalate {texts : List String}
    (h : ∀ s ∈ texts, SgrText s) :
    SgrText (String.intercalate ";" texts) := by
  have hsep : SgrText ";" := by decide
  induction texts with
  | nil => exact List.forall_mem_nil _
  | cons s rest ih =>
      have hs := h s List.mem_cons_self
      have hrest := ih fun t ht => h t (List.mem_cons_of_mem _ ht)
      cases rest with
      | nil =>
          rwa [String.intercalate_singleton]
      | cons t rest =>
          rw [String.intercalate_cons_cons]
          exact (hs.append hsep).append hrest

theorem SgrText.bytes {s : String}
    (h : SgrText s) :
    ∀ b ∈ bytesOf s, b < 0x40 := by
  intro b hb
  rw [bytesOf_eq, List.mem_flatMap] at hb
  obtain ⟨c, hc, hb⟩ := hb
  have hrange : c.val.toNat < 0x40 := by
    have hsgr := h c hc
    simp only [isSgrChar, Char.isDigit, Bool.or_eq_true, Bool.and_eq_true, decide_eq_true_eq,
      beq_iff_eq] at hsgr
    rcases hsgr with ⟨_, hhigh⟩ | rfl
    · have hhigh' : c.val.toNat ≤ (57 : UInt32).toNat := hhigh
      simp only [UInt32.reduceToNat] at hhigh'
      omega
    · decide
  have hone : String.utf8EncodeChar c = [UInt8.ofNat c.val.toNat] := by
    rw [String.utf8EncodeChar]
    exact if_pos (by omega)
  rw [hone, List.mem_singleton] at hb
  have hnat : b.toNat = c.val.toNat := by
    rw [hb, UInt8.toNat_ofNat']
    omega
  rw [UInt8.lt_iff_toNat_lt, hnat]
  exact hrange

end Text

section Sequences

/-- Where a reader that leaves out sequences is. -/
inductive StripState
  | text
  | escape
  | sequence
deriving DecidableEq

/-- The data without its control sequences and two-byte escape sequences. -/
def strip : StripState → Bytes → Bytes
  | _, [] => []
  | .text, b :: rest => if b = esc then strip .escape rest else b :: strip .text rest
  | .escape, b :: rest => if b = 0x5b then strip .sequence rest else strip .text rest
  | .sequence, b :: rest =>
      if 0x40 ≤ b then strip .text rest else strip .sequence rest

theorem strip_text {text : Bytes}
    (h : esc ∉ text)
    (rest : Bytes) :
    strip .text (text ++ rest) = text ++ strip .text rest := by
  induction text with
  | nil => rfl
  | cons b text ih =>
      rw [List.mem_cons, not_or] at h
      have hb : ¬ b = esc := fun heq => h.1 heq.symm
      rw [List.cons_append, strip, if_neg hb, ih h.2, List.cons_append]

theorem strip_parameters {params : Bytes}
    (h : ∀ b ∈ params, b < 0x40)
    (rest : Bytes) :
    strip .sequence (params ++ rest) = strip .sequence rest := by
  induction params with
  | nil => rfl
  | cons b params ih =>
      have hb : ¬ 0x40 ≤ b := UInt8.not_le.mpr (h b List.mem_cons_self)
      rw [List.cons_append, strip, if_neg hb, ih fun x hx => h x (List.mem_cons_of_mem _ hx)]

/-- The parameter of a colour is of digits and separators. -/
theorem colorParam_sgr (low bright : Nat) {extended : String}
    (hextended : SgrText extended)
    (color : Color) :
    ∀ param ∈ CellAttrs.colorParam low bright extended color, SgrText param := by
  have hindexed : SgrText ";5;" := by decide
  have hrgb : SgrText ";2;" := by decide
  have hnext : SgrText ";" := by decide
  intro param hparam
  cases color with
  | default => cases hparam
  | idx n =>
      simp only [CellAttrs.colorParam] at hparam
      split_ifs at hparam
      · rw [List.mem_singleton.mp hparam]
        exact SgrText.toString _
      · rw [List.mem_singleton.mp hparam]
        exact SgrText.toString _
      · rw [List.mem_singleton.mp hparam]
        exact (hextended.append hindexed).append (SgrText.toString _)
  | rgb r g b =>
      rw [List.mem_singleton.mp hparam]
      have hr := (hextended.append hrgb).append (SgrText.toString r)
      have hg := (hr.append hnext).append (SgrText.toString g)
      exact (hg.append hnext).append (SgrText.toString b)

/-- A change of attributes is one SGR sequence. -/
theorem diff_of_ne {attrs prev : CellAttrs}
    (h : attrs ≠ prev) :
    ∃ params, SgrText params ∧ attrs.diff prev = bytesOf ("\x1b[" ++ params ++ "m") := by
  have hone : ∀ {code : String}, SgrText code → ∀ param ∈ [code], SgrText param :=
    fun hcode param hparam => List.mem_singleton.mp hparam ▸ hcode
  have hflag : ∀ (on : Bool) {code : String}, SgrText code →
      ∀ param ∈ (if on then [code] else []), SgrText param := by
    intro on code hcode
    cases on with
    | false => exact List.forall_mem_nil _
    | true => exact hone hcode
  have hcode : ∀ code ∈ ["0", "1", "2", "3", "4", "7", "38", "48"], SgrText code := by
    decide
  refine ⟨_, SgrText.intercalate ?_, by rw [CellAttrs.diff, if_neg h]⟩
  refine List.forall_mem_append.mpr ⟨?_, colorParam_sgr 40 100 (hcode "48" (by decide)) attrs.bg⟩
  refine List.forall_mem_append.mpr ⟨?_, colorParam_sgr 30 90 (hcode "38" (by decide)) attrs.fg⟩
  refine List.forall_mem_append.mpr ⟨?_, hflag attrs.inverse (hcode "7" (by decide))⟩
  refine List.forall_mem_append.mpr ⟨?_, hflag attrs.underline (hcode "4" (by decide))⟩
  refine List.forall_mem_append.mpr ⟨?_, hflag attrs.italic (hcode "3" (by decide))⟩
  refine List.forall_mem_append.mpr ⟨?_, hflag attrs.dim (hcode "2" (by decide))⟩
  exact List.forall_mem_append.mpr
    ⟨hone (hcode "0" (by decide)), hflag attrs.bold (hcode "1" (by decide))⟩

/-- A change of attributes prints nothing. -/
theorem strip_diff (attrs prev : CellAttrs) (rest : Bytes) :
    strip .text (attrs.diff prev ++ rest) = strip .text rest := by
  by_cases hsame : attrs = prev
  · rw [CellAttrs.diff, if_pos hsame, List.nil_append]
  · obtain ⟨params, hparams, hdiff⟩ := diff_of_ne hsame
    have hstart : bytesOf "\x1b[" = [esc, 0x5b] := by decide
    have hfinal : bytesOf "m" = [0x6d] := by decide
    rw [hdiff, bytesOf_append, bytesOf_append, hstart, hfinal, List.append_assoc, List.append_assoc]
    change strip .sequence (bytesOf params ++ ([0x6d] ++ rest)) = strip .text rest
    rw [strip_parameters hparams.bytes]
    rfl

end Sequences

section Tokens

/-- The sequences around what follows the cursor. -/
inductive CursorMark
  | save
  | restore
deriving DecidableEq

/-- A token of a rendering. -/
abbrev RenderToken := LineToken RenderedCell CursorMark

def CursorMark.bytes : CursorMark → Bytes
  | .save => bytesOf "\x1b7"
  | .restore => bytesOf "\x1b8"

/-- What a blank cell is emitted as. -/
def blankCell : RenderedCell :=
  ⟨" ", CellAttrs.default⟩

namespace Emitter

/-- Emit a token. -/
def emit (e : Emitter) : RenderToken → Emitter
  | .item c => e.put c.attrs (bytesOf c.text)
  | .lineEnd => e.write newLine
  | .mark m => e.write m.bytes

def emitAll (e : Emitter) (tokens : List RenderToken) : Emitter :=
  tokens.foldl emit e

theorem emitAll_append (e : Emitter) (first second : List RenderToken) :
    e.emitAll (first ++ second) = (e.emitAll first).emitAll second :=
  List.foldl_append

end Emitter

/-- The bytes of the tokens after the attributes `attrs`, and back to the default
attributes. -/
def tokenBytes : CellAttrs → List RenderToken → Bytes
  | attrs, [] => CellAttrs.default.diff attrs
  | attrs, .item c :: rest => c.attrs.diff attrs ++ bytesOf c.text ++ tokenBytes c.attrs rest
  | attrs, .lineEnd :: rest => newLine ++ tokenBytes attrs rest
  | attrs, .mark m :: rest => m.bytes ++ tokenBytes attrs rest

theorem emitAll_out (e : Emitter) (tokens : List RenderToken) :
    ((e.emitAll tokens).put CellAttrs.default []).out = e.out ++ tokenBytes e.attrs tokens := by
  induction tokens generalizing e with
  | nil =>
      change e.out ++ CellAttrs.default.diff e.attrs ++ [] = _
      rw [List.append_nil, tokenBytes]
  | cons token rest ih =>
      change (((e.emit token).emitAll rest).put CellAttrs.default []).out = _
      rw [ih]
      cases token with
      | item c => simp only [Emitter.emit, Emitter.put, tokenBytes, List.append_assoc]
      | lineEnd => simp only [Emitter.emit, Emitter.write, tokenBytes, List.append_assoc]
      | mark m => simp only [Emitter.emit, Emitter.write, tokenBytes, List.append_assoc]

/-- The tokens of a row up to column `upto`. -/
def rowTokens (row : RenderedRow) (upto : Option Nat) : List RenderToken :=
  let limit := upto.getD row.cells.length
  (row.cells.take limit ++ List.replicate (limit - row.cells.length) blankCell).map .item

/-- The tokens of a row and the end of its line. -/
def lineTokens (row : RenderedRow) : List RenderToken :=
  rowTokens row none ++ if row.wrapped then [] else [.lineEnd]

/-- The tokens of the cursor row and of what follows it. -/
def cursorTokens (row : RenderedRow) (cursorCol : Nat) (below : List RenderedRow) :
    List RenderToken :=
  let restOfRow := cursorCol < row.cells.length
  rowTokens row (some cursorCol) ++
    if ¬ restOfRow ∧ below = [] then
      []
    else
      [.mark .save] ++
        (if restOfRow then rowTokens { row with cells := row.cells.drop cursorCol } none else []) ++
        (if !row.wrapped && !below.isEmpty then [.lineEnd] else []) ++
        below.flatMap lineTokens ++ [.mark .restore]

/-- The tokens of the visible rows from index `index` on. -/
def screenTokens (cursor : CursorPlacement) (cursorRow : Option Nat) (cursorCol : Nat) :
    (index : Nat) → List RenderedRow → List RenderToken
  | _, [] => []
  | index, row :: below =>
      if cursorRow = some index then
        cursorTokens row cursorCol below
      else
        rowTokens row none ++
          (if !row.wrapped && (cursor = .asIs || !below.isEmpty) then [.lineEnd] else []) ++
          screenTokens cursor cursorRow cursorCol (index + 1) below

theorem emitRow_eq (row : RenderedRow) (upto : Option Nat) (e : Emitter) :
    emitRow row upto e = e.emitAll (rowTokens row upto) := by
  have hcells : ∀ (cells : List RenderedCell) (e : Emitter),
      cells.foldl (fun e c => e.put c.attrs (bytesOf c.text)) e =
        e.emitAll (cells.map .item) := by
    intro cells e
    rw [Emitter.emitAll, List.foldl_map]
    rfl
  have hblanks : ∀ (n : Nat) (e : Emitter),
      (List.replicate n ()).foldl (fun e _ => e.put CellAttrs.default (bytesOf " ")) e =
        e.emitAll ((List.replicate n blankCell).map .item) := by
    intro n
    induction n with
    | zero => exact fun _ => rfl
    | succ n ih =>
        intro e
        exact ih _
  rw [rowTokens, List.map_append, Emitter.emitAll_append, ← hblanks, ← hcells]
  rfl

theorem emitLine_eq (e : Emitter) (row : RenderedRow) :
    emitLine e row = e.emitAll (lineTokens row) := by
  rw [emitLine, lineTokens, Emitter.emitAll_append, ← emitRow_eq]
  by_cases hwrapped : row.wrapped = true
  · simp only [if_pos hwrapped]
    rfl
  · simp only [if_neg hwrapped]
    rfl

theorem foldl_emitLine_eq (rows : List RenderedRow) (e : Emitter) :
    rows.foldl emitLine e = e.emitAll (rows.flatMap lineTokens) := by
  induction rows generalizing e with
  | nil => rfl
  | cons row rest ih =>
      rw [List.foldl_cons, ih, emitLine_eq, List.flatMap_cons, Emitter.emitAll_append]

theorem emitCursorRow_eq (row : RenderedRow) (cursorCol : Nat) (below : List RenderedRow)
    (e : Emitter) :
    emitCursorRow row cursorCol below e = e.emitAll (cursorTokens row cursorCol below) := by
  have hwrite : ∀ (e : Emitter) (m : CursorMark), e.write m.bytes = e.emitAll [.mark m] :=
    fun _ _ => rfl
  have hend : ∀ (e : Emitter) (p : Prop) [Decidable p],
      (if p then e.write newLine else e) = e.emitAll (if p then [.lineEnd] else []) := by
    intro e p _
    split <;> rfl
  have hrest : ∀ (e : Emitter) (p : Prop) [Decidable p] (row : RenderedRow),
      (if p then emitRow row none e else e) =
        e.emitAll (if p then rowTokens row none else []) := by
    intro e p _ row
    split
    · exact emitRow_eq _ _ _
    · rfl
  simp only [emitCursorRow, cursorTokens, Emitter.emitAll_append, emitRow_eq row (some cursorCol)]
  split
  · rfl
  · have hsave := hwrite (e.emitAll (rowTokens row (some cursorCol))) .save
    simp only [CursorMark.bytes] at hsave
    rw [hsave, hrest, hend, foldl_emitLine_eq]
    simp only [Emitter.emitAll_append]
    exact hwrite _ .restore

theorem emitScreenLines_eq (cursor : CursorPlacement) (cursorRow : Option Nat) (cursorCol : Nat)
    (index : Nat) (lines : List RenderedRow) (e : Emitter) :
    emitScreenLines cursor cursorRow cursorCol index lines e =
      e.emitAll (screenTokens cursor cursorRow cursorCol index lines) := by
  induction lines generalizing index e with
  | nil => rfl
  | cons row below ih =>
      simp only [emitScreenLines, screenTokens]
      split
      · exact emitCursorRow_eq _ _ _ _
      · rw [Emitter.emitAll_append, Emitter.emitAll_append, ← emitRow_eq, ih]
        congr 1
        split <;> rfl

/-- The tokens of a rendering. -/
def renderTokens {G : Type u} [Vt100Parser G] (history : List RenderedRow) (screen : G)
    (cursor : CursorPlacement) : List RenderToken :=
  let (rows, cols) := Vt100Parser.size screen
  let (cursorRow, cursorCol) := Vt100Parser.cursorPosition screen
  let lines := (List.range rows).map (fun row => RenderedRow.read screen row (some cols))
  let keep :=
    match cursor with
    | .asIs => max (contentRows lines) (cursorRow + 1)
    | .afterContent => contentRows lines
  let cursorIndex :=
    match cursor with
    | .asIs => some cursorRow
    | .afterContent => none
  history.flatMap lineTokens ++ screenTokens cursor cursorIndex cursorCol 0 (lines.take keep)

/-- **A rendering is what its tokens are written as.** -/
theorem renderRows_eq {G : Type u} [Vt100Parser G] (history : List RenderedRow) (screen : G)
    (cursor : CursorPlacement) :
    renderRows history screen cursor =
      tokenBytes CellAttrs.default (renderTokens history screen cursor) := by
  have hall := emitAll_out ⟨CellAttrs.default, []⟩ (renderTokens history screen cursor)
  rw [List.nil_append] at hall
  rw [← hall, renderRows, renderTokens, Emitter.emitAll_append]
  cases cursor <;> simp only [foldl_emitLine_eq, emitScreenLines_eq]

end Tokens

section Lines

/-- The text of cells. -/
def cellsText (cells : List RenderedCell) : Bytes :=
  cells.flatMap fun c => bytesOf c.text

/-- The lines of a text, which end in CR LF. -/
def splitCrLf : Bytes → List Bytes
  | [] => [[]]
  | [b] => [[b]]
  | b :: next :: rest =>
      if b = 0x0d ∧ next = 0x0a then [] :: splitCrLf rest
      else prepend [b] (splitCrLf (next :: rest))

/-- A text without control characters. -/
def Printed (text : Bytes) : Prop :=
  ∀ b ∈ text, 0x20 ≤ b

instance (text : Bytes) : Decidable (Printed text) :=
  List.decidableBAll _ _

theorem splitCrLf_ne_nil (data : Bytes) : splitCrLf data ≠ [] := by
  fun_cases splitCrLf data with
  | case1 => exact List.cons_ne_nil _ _
  | case2 b => exact List.cons_ne_nil _ _
  | case3 b next rest h => exact List.cons_ne_nil _ _
  | case4 b next rest h => exact prepend_ne_nil _ _

theorem splitCrLf_newLine (rest : Bytes) : splitCrLf (newLine ++ rest) = [] :: splitCrLf rest := by
  have hnl : newLine = [0x0d, 0x0a] := by decide
  rw [hnl]
  exact if_pos ⟨rfl, rfl⟩

theorem splitCrLf_printed {text : Bytes}
    (h : Printed text)
    (rest : Bytes) :
    splitCrLf (text ++ rest) = prepend text (splitCrLf rest) := by
  induction text with
  | nil => exact (prepend_nil (splitCrLf_ne_nil rest)).symm
  | cons b text ih =>
      have hb : ¬ b = 0x0d := by
        rintro rfl
        exact absurd (h _ List.mem_cons_self) (by decide)
      have hstep : ∀ data : Bytes, splitCrLf (b :: data) = prepend [b] (splitCrLf data) := by
        intro data
        cases data with
        | nil => rfl
        | cons next data => exact if_neg fun hboth => hb hboth.1
      rw [List.cons_append, hstep, ih fun x hx => h x (List.mem_cons_of_mem _ hx),
        ← prepend_append]
      rfl

/-- The tokens print no control characters. -/
def PrintedTokens (tokens : List RenderToken) : Prop :=
  ∀ token ∈ tokens, ∀ c, token = .item c → Printed (bytesOf c.text)

/-- **Without its sequences a rendering splits into the lines of its tokens.** -/
theorem stripped_lines {tokens : List RenderToken}
    (h : PrintedTokens tokens)
    (attrs : CellAttrs) :
    splitCrLf (strip .text (tokenBytes attrs tokens)) = (tokenLines tokens).map cellsText := by
  induction tokens generalizing attrs with
  | nil =>
      have hdiff := strip_diff CellAttrs.default attrs []
      rw [List.append_nil] at hdiff
      rw [tokenBytes, hdiff]
      rfl
  | cons token rest ih =>
      have hrest : PrintedTokens rest := fun t ht => h t (List.mem_cons_of_mem _ ht)
      cases token with
      | item c =>
          have hc := h _ List.mem_cons_self c rfl
          have hesc : esc ∉ bytesOf c.text := fun hmem => absurd (hc _ hmem) (by decide)
          rw [tokenBytes, List.append_assoc, strip_diff, strip_text hesc, splitCrLf_printed hc,
            ih hrest, tokenLines, map_prepend cellsText (fun _ _ => List.flatMap_append)]
          simp [cellsText]
      | lineEnd =>
          have hesc : esc ∉ newLine := by decide
          rw [tokenBytes, strip_text hesc, splitCrLf_newLine, ih hrest]
          rfl
      | mark m =>
          have hmark : ∀ data, strip .text (m.bytes ++ data) = strip .text data := by
            intro data
            have hsave : bytesOf "\x1b7" = [esc, 0x37] := by decide
            have hrestore : bytesOf "\x1b8" = [esc, 0x38] := by decide
            cases m with
            | save => rw [CursorMark.bytes, hsave]; rfl
            | restore => rw [CursorMark.bytes, hrestore]; rfl
          rw [tokenBytes, hmark, ih hrest]
          rfl

end Lines

section Rows

/-- The row with the blanks up to the cursor. -/
def RenderedRow.upTo (row : RenderedRow) (cursorCol : Nat) : RenderedRow :=
  { row with
    cells := row.cells ++ List.replicate (cursorCol - row.cells.length) blankCell }

/-- The rows from index `index` on, the cursor's with the blanks up to it. -/
def placedRows (cursorRow : Option Nat) (cursorCol : Nat) :
    (index : Nat) → List RenderedRow → List RenderedRow
  | _, [] => []
  | index, row :: below =>
      (if cursorRow = some index then row.upTo cursorCol else row) ::
        placedRows cursorRow cursorCol (index + 1) below

theorem placedRows_below {cursorRow : Option Nat} {index : Nat}
    (h : ∀ row, cursorRow = some row → row < index)
    (cursorCol : Nat) (lines : List RenderedRow) :
    placedRows cursorRow cursorCol index lines = lines := by
  induction lines generalizing index with
  | nil => rfl
  | cons row below ih =>
      have hrow : ¬ cursorRow = some index := fun heq => absurd (h index heq) (by omega)
      rw [placedRows, if_neg hrow, ih fun r hr => Nat.lt_succ_of_lt (h r hr)]

theorem unmarked_rowTokens (row : RenderedRow) (upto : Option Nat) :
    unmarked (rowTokens row upto) = rowTokens row upto :=
  unmarked_items _

theorem unmarked_lineTokens (rows : List RenderedRow) :
    unmarked (rows.flatMap lineTokens) = rows.flatMap lineTokens := by
  induction rows with
  | nil => rfl
  | cons row rest ih =>
      rw [List.flatMap_cons, unmarked_append, ih, lineTokens, unmarked_append, unmarked_rowTokens]
      congr 2
      split <;> rfl

theorem rowTokens_none (row : RenderedRow) : rowTokens row none = row.cells.map .item := by
  simp [rowTokens]

/-- The cells up to the cursor and the rest of the row are the row. -/
theorem rowTokens_cursor (row : RenderedRow) (cursorCol : Nat) :
    rowTokens row (some cursorCol) ++
        (if cursorCol < row.cells.length then
          rowTokens { row with cells := row.cells.drop cursorCol } none
        else []) =
      rowTokens (row.upTo cursorCol) none := by
  simp only [rowTokens_none, RenderedRow.upTo]
  rw [rowTokens]
  by_cases hrest : cursorCol < row.cells.length
  · have hpad : cursorCol - row.cells.length = 0 := by omega
    rw [if_pos hrest]
    simp only [Option.getD_some, hpad, List.replicate_zero, List.append_nil, ← List.map_append,
      List.take_append_drop]
  · rw [if_neg hrest, List.append_nil]
    simp only [Option.getD_some, List.take_of_length_le (Nat.le_of_not_lt hrest)]

theorem unmarked_cursorTokens (row : RenderedRow) (cursorCol : Nat) (below : List RenderedRow) :
    unmarked (cursorTokens row cursorCol below) =
      rowTokens (row.upTo cursorCol) none ++
        ((if !row.wrapped && !below.isEmpty then [.lineEnd] else []) ++
          below.flatMap lineTokens) := by
  rw [← rowTokens_cursor, cursorTokens, unmarked_append, unmarked_rowTokens,
    List.append_assoc (rowTokens row (some cursorCol))]
  congr 1
  by_cases hend : ¬ cursorCol < row.cells.length ∧ below = []
  · rw [if_pos hend, if_neg hend.1, hend.2]
    simp [unmarked]
  · have hrest : unmarked (if cursorCol < row.cells.length then
          rowTokens { row with cells := row.cells.drop cursorCol } none else []) =
        if cursorCol < row.cells.length then
          rowTokens { row with cells := row.cells.drop cursorCol } none else [] := by
      split
      · exact unmarked_rowTokens _ _
      · rfl
    have hline : ∀ p : Prop, ∀ [Decidable p],
        unmarked (if p then [LineToken.lineEnd] else [] : List RenderToken) =
          if p then [.lineEnd] else [] := by
      intro p _
      split <;> rfl
    have hmark : ∀ m : CursorMark, unmarked [(.mark m : RenderToken)] = [] := fun _ => rfl
    rw [if_neg hend]
    simp only [unmarked_append, hrest, hline, hmark, unmarked_lineTokens, List.nil_append,
      List.append_nil, List.append_assoc]

/-- The tokens of the cursor row and of what follows are those of the rows, but
for an end of line at the end. -/
theorem cursorTokens_rows (row : RenderedRow) (cursorCol : Nat) (below : List RenderedRow) :
    ∃ tail, (tail = [] ∨ tail = [LineToken.lineEnd]) ∧
      unmarked (cursorTokens row cursorCol below) ++ tail =
        (row.upTo cursorCol :: below).flatMap lineTokens := by
  rw [unmarked_cursorTokens, List.flatMap_cons, lineTokens]
  have hwrapped : (row.upTo cursorCol).wrapped = row.wrapped := rfl
  rw [hwrapped]
  cases below with
  | nil =>
      refine ⟨if row.wrapped then [] else [.lineEnd], ?_, ?_⟩
      · split
        · exact Or.inl rfl
        · exact Or.inr rfl
      · simp
  | cons next rest =>
      refine ⟨[], Or.inl rfl, ?_⟩
      cases row.wrapped <;> simp

/-- **The tokens of the visible rows are those of the rows with the blanks up to
the cursor**, but for an end of line at the end. -/
theorem screenTokens_rows (cursor : CursorPlacement) (cursorRow : Option Nat) (cursorCol : Nat)
    (index : Nat) (lines : List RenderedRow) :
    ∃ tail, (tail = [] ∨ tail = [LineToken.lineEnd]) ∧
      unmarked (screenTokens cursor cursorRow cursorCol index lines) ++ tail =
        (placedRows cursorRow cursorCol index lines).flatMap lineTokens := by
  induction lines generalizing index with
  | nil => exact ⟨[], Or.inl rfl, rfl⟩
  | cons row below ih =>
      rw [screenTokens, placedRows]
      by_cases hcursor : cursorRow = some index
      · have hbelow : ∀ r, cursorRow = some r → r < index + 1 := by
          intro r hr
          rw [hcursor, Option.some.injEq] at hr
          omega
        rw [if_pos hcursor, if_pos hcursor, placedRows_below hbelow]
        exact cursorTokens_rows row cursorCol below
      · rw [if_neg hcursor, if_neg hcursor, List.flatMap_cons, lineTokens, unmarked_append,
          unmarked_append, unmarked_rowTokens]
        cases below with
        | nil =>
            -- Only the last row may lack its end of line.
            refine ⟨if !row.wrapped && cursor = .afterContent then [.lineEnd] else [], ?_, ?_⟩
            · split
              · exact Or.inr rfl
              · exact Or.inl rfl
            · cases row.wrapped <;> cases cursor <;> simp [unmarked, screenTokens, placedRows]
        | cons next rest =>
            obtain ⟨tail, htail, heq⟩ := ih (index + 1)
            refine ⟨tail, htail, ?_⟩
            rw [← heq]
            cases row.wrapped <;> simp [unmarked]

end Rows

end Server
end Rttx
