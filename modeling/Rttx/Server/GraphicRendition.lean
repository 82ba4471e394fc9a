import Mathlib.Data.List.TakeWhile
import Mathlib.Tactic.IntervalCases
import Rttx.Kernel.ControlParameters
import Rttx.Server.RenderedTokens

/-!
# Reading the attributes of a rendering

A terminal keeps the attributes in force, its pen, and sets them from the parameters of
SGR sequences; what it prints between them gets the attributes of the pen.  The reading
here is the standard one, stated apart from what the rendering writes.

**Results.**
* `applySgr_codes`: the parameters that a change of attributes is written with set the pen
  to the attributes, whatever it was.
* `reads_diff`: a change of attributes is read back, and draws nothing.
* `reads_cells`: each cell that is emitted is drawn with its own attributes.
-/

namespace Rttx
namespace Server

open Kernel

section Pen

/-- The numbers of a colour fit into a byte. -/
def Color.EightBit : Color → Prop
  | .default => True
  | .idx n => n < 256
  | .rgb r g b => r < 256 ∧ g < 256 ∧ b < 256

instance (color : Color) : Decidable color.EightBit :=
  match color with
  | .default => isTrue trivial
  | .idx n => inferInstanceAs (Decidable (n < 256))
  | .rgb r g b => inferInstanceAs (Decidable (r < 256 ∧ g < 256 ∧ b < 256))

/-- The colours of the attributes are made of bytes. -/
structure CellAttrs.EightBit (attrs : CellAttrs) : Prop where
  fg : attrs.fg.EightBit
  bg : attrs.bg.EightBit

namespace CellAttrs

/-- Set the colour of the foreground (38) or of the background. -/
def setColor (pen : CellAttrs) (plane : Nat) (color : Color) : CellAttrs :=
  if plane = 38 then { pen with fg := color } else { pen with bg := color }

/-- Set an attribute by a parameter that stands alone. -/
def applyParam (pen : CellAttrs) (p : Nat) : CellAttrs :=
  if p = 0 then default
  else if p = 1 then { pen with bold := true }
  else if p = 2 then { pen with dim := true }
  else if p = 3 then { pen with italic := true }
  else if p = 4 then { pen with underline := true }
  else if p = 7 then { pen with inverse := true }
  else if p = 22 then { pen with bold := false, dim := false }
  else if p = 23 then { pen with italic := false }
  else if p = 24 then { pen with underline := false }
  else if p = 27 then { pen with inverse := false }
  else if 30 ≤ p ∧ p ≤ 37 then { pen with fg := .idx (p - 30) }
  else if p = 39 then { pen with fg := .default }
  else if 40 ≤ p ∧ p ≤ 47 then { pen with bg := .idx (p - 40) }
  else if p = 49 then { pen with bg := .default }
  else if 90 ≤ p ∧ p ≤ 97 then { pen with fg := .idx (p - 90 + 8) }
  else if 100 ≤ p ∧ p ≤ 107 then { pen with bg := .idx (p - 100 + 8) }
  else pen

/-- Set the attributes by the parameters of an SGR sequence; a colour that is spelled out
takes several. -/
def applySgr (pen : CellAttrs) : List Nat → CellAttrs
  | [] => pen
  | p :: rest =>
      if p = 38 ∨ p = 48 then
        match rest with
        | 5 :: n :: rest =>
            applySgr (if n < 256 then pen.setColor p (.idx n) else pen) rest
        | 2 :: r :: g :: b :: rest =>
            applySgr (if r < 256 ∧ g < 256 ∧ b < 256 then pen.setColor p (.rgb r g b) else pen) rest
        | _ => pen
      else
        applySgr (pen.applyParam p) rest

theorem applySgr_single {p : Nat}
    (h : ¬ (p = 38 ∨ p = 48))
    (pen : CellAttrs) (rest : List Nat) :
    pen.applySgr (p :: rest) = (pen.applyParam p).applySgr rest := by
  conv_lhs => unfold applySgr
  exact if_neg h

theorem applySgr_indexed {p n : Nat}
    (h : p = 38 ∨ p = 48)
    (hn : n < 256)
    (pen : CellAttrs) (rest : List Nat) :
    pen.applySgr (p :: 5 :: n :: rest) = (pen.setColor p (.idx n)).applySgr rest := by
  simp only [applySgr, if_pos h, if_pos hn]

theorem applySgr_rgb {p r g b : Nat}
    (h : p = 38 ∨ p = 48)
    (hbytes : r < 256 ∧ g < 256 ∧ b < 256)
    (pen : CellAttrs) (rest : List Nat) :
    pen.applySgr (p :: 2 :: r :: g :: b :: rest) = (pen.setColor p (.rgb r g b)).applySgr rest := by
  simp only [applySgr, if_pos h, if_pos hbytes]

end CellAttrs

end Pen

section Codes

namespace CellAttrs

/-- The parameters of a colour, in one group. -/
def colorGroups (low bright extended : Nat) : Color → List (List Nat)
  | .default => []
  | .idx n =>
      if n ≤ 7 then [[low + n]]
      else if n ≤ 15 then [[bright + n - 8]]
      else [[extended, 5, n]]
  | .rgb r g b => [[extended, 2, r, g, b]]

def flagGroups (on : Bool) (code : Nat) : List (List Nat) :=
  if on then [[code]] else []

/-- The parameters that attributes are written with, in groups. -/
def groups (attrs : CellAttrs) : List (List Nat) :=
  [[0]] ++ flagGroups attrs.bold 1 ++ flagGroups attrs.dim 2 ++ flagGroups attrs.italic 3 ++
    flagGroups attrs.underline 4 ++ flagGroups attrs.inverse 7 ++
    colorGroups 30 90 38 attrs.fg ++ colorGroups 40 100 48 attrs.bg

def codes (attrs : CellAttrs) : List Nat :=
  attrs.groups.flatten

theorem applySgr_flag (pen : CellAttrs) (on : Bool) {code : Nat}
    (hcode : ¬ (code = 38 ∨ code = 48))
    (rest : List Nat) :
    pen.applySgr ((flagGroups on code).flatten ++ rest) =
      (if on then pen.applyParam code else pen).applySgr rest := by
  cases on with
  | false => rfl
  | true => exact applySgr_single hcode pen rest

/-- The parameters of a colour set the colour of their plane, where the table has them. -/
theorem applySgr_color {pen : CellAttrs} {low bright extended : Nat}
    (hextended : extended = 38 ∨ extended = 48)
    (hsingle : (low + 7 < 38 ∨ 38 < low ∧ low + 7 < 48) ∧ 48 < bright)
    (hdefault : pen.setColor extended .default = pen)
    (hlow : ∀ n < 8, pen.applyParam (low + n) = pen.setColor extended (.idx n))
    (hbright : ∀ n < 8, pen.applyParam (bright + n) = pen.setColor extended (.idx (n + 8)))
    {color : Color}
    (h : color.EightBit)
    (rest : List Nat) :
    pen.applySgr ((colorGroups low bright extended color).flatten ++ rest) =
      (pen.setColor extended color).applySgr rest := by
  cases color with
  | default =>
      rw [hdefault]
      rfl
  | idx n =>
      rw [colorGroups]
      split_ifs with hfirst hsecond
      · rw [← hlow n (by omega)]
        exact applySgr_single (by omega) pen rest
      · have hn : n - 8 + 8 = n := by omega
        have hcode : bright + n - 8 = bright + (n - 8) := by omega
        have happly := hbright (n - 8) (by omega)
        rw [hn, ← hcode] at happly
        rw [← happly]
        exact applySgr_single (by omega) pen rest
      · exact applySgr_indexed hextended h pen rest
  | rgb r g b => exact applySgr_rgb hextended h pen rest

theorem applySgr_fg {color : Color}
    (h : color.EightBit)
    {pen : CellAttrs}
    (hpen : pen.fg = .default)
    (rest : List Nat) :
    pen.applySgr ((colorGroups 30 90 38 color).flatten ++ rest) =
      ({ pen with fg := color } : CellAttrs).applySgr rest := by
  have hdefault : pen.setColor 38 .default = pen := by
    cases pen
    cases hpen
    rfl
  refine applySgr_color (Or.inl rfl) (by omega) hdefault ?_ ?_ h rest
  · intro n hn
    interval_cases n <;> rfl
  · intro n hn
    interval_cases n <;> rfl

theorem applySgr_bg {color : Color}
    (h : color.EightBit)
    {pen : CellAttrs}
    (hpen : pen.bg = .default)
    (rest : List Nat) :
    pen.applySgr ((colorGroups 40 100 48 color).flatten ++ rest) =
      ({ pen with bg := color } : CellAttrs).applySgr rest := by
  have hdefault : pen.setColor 48 .default = pen := by
    cases pen
    cases hpen
    rfl
  refine applySgr_color (Or.inr rfl) (by omega) hdefault ?_ ?_ h rest
  · intro n hn
    interval_cases n <;> rfl
  · intro n hn
    interval_cases n <;> rfl

/-- The pen after the parameters of the flags. -/
theorem applyParam_flags (pen : CellAttrs) (bold dim italic underline inverse : Bool) :
    let pen := pen.applyParam 0
    let pen := if bold then pen.applyParam 1 else pen
    let pen := if dim then pen.applyParam 2 else pen
    let pen := if italic then pen.applyParam 3 else pen
    let pen := if underline then pen.applyParam 4 else pen
    let pen := if inverse then pen.applyParam 7 else pen
    pen = ⟨.default, .default, bold, dim, italic, underline, inverse⟩ := by
  cases bold <;> cases dim <;> cases italic <;> cases underline <;> cases inverse <;> rfl

/-- **The parameters of attributes set the pen to them, whatever it was.** -/
theorem applySgr_codes {attrs : CellAttrs}
    (h : attrs.EightBit)
    (pen : CellAttrs) :
    pen.applySgr attrs.codes = attrs := by
  have hcodes : attrs.codes = 0 :: ((flagGroups attrs.bold 1).flatten ++
      ((flagGroups attrs.dim 2).flatten ++ ((flagGroups attrs.italic 3).flatten ++
        ((flagGroups attrs.underline 4).flatten ++ ((flagGroups attrs.inverse 7).flatten ++
          ((colorGroups 30 90 38 attrs.fg).flatten ++
            ((colorGroups 40 100 48 attrs.bg).flatten ++ []))))))) := by
    simp only [codes, groups, List.flatten_append, List.flatten_cons, List.append_assoc,
      List.append_nil, List.cons_append, List.nil_append]
  have hflags := applyParam_flags pen attrs.bold attrs.dim attrs.italic attrs.underline
    attrs.inverse
  rw [hcodes, applySgr_single (by omega), applySgr_flag _ _ (by omega),
    applySgr_flag _ _ (by omega), applySgr_flag _ _ (by omega), applySgr_flag _ _ (by omega),
    applySgr_flag _ _ (by omega), hflags, applySgr_fg h.fg rfl, applySgr_bg h.bg rfl]
  rfl

end CellAttrs

end Codes

section Texts

/-- Parameters as they are written. -/
def codesText (codes : List Nat) : String :=
  String.intercalate ";" (codes.map toString)

theorem codesText_append {first second : List Nat}
    (hfirst : first ≠ [])
    (hsecond : second ≠ []) :
    codesText (first ++ second) = codesText first ++ ";" ++ codesText second := by
  rw [codesText, List.map_append, String.intercalate_append_of_ne_nil]
  · rfl
  · exact fun hnil => hfirst (List.map_eq_nil_iff.mp hnil)
  · exact fun hnil => hsecond (List.map_eq_nil_iff.mp hnil)

theorem codesText_flatten {groups : List (List Nat)}
    (h : ∀ group ∈ groups, group ≠ []) :
    String.intercalate ";" (groups.map codesText) = codesText groups.flatten := by
  induction groups with
  | nil => rfl
  | cons group rest ih =>
      have hrest : ∀ g ∈ rest, g ≠ [] := fun g hg => h g (List.mem_cons_of_mem _ hg)
      cases rest with
      | nil =>
          rw [List.map_singleton, String.intercalate_singleton, List.flatten_cons,
            List.flatten_nil, List.append_nil]
      | cons second rest =>
          have hflat : (second :: rest).flatten ≠ [] := by
            intro hnil
            rw [List.flatten_cons, List.append_eq_nil_iff] at hnil
            exact hrest second List.mem_cons_self hnil.1
          have hmap : (second :: rest).map codesText ≠ [] := List.cons_ne_nil _ _
          have hall := codesText_append (h group List.mem_cons_self) hflat
          rw [List.map_cons, String.intercalate_cons_of_ne_nil hmap, ih hrest, ← hall]
          rfl

namespace CellAttrs

theorem colorParam_eq (low bright extended : Nat) (color : Color) :
    colorParam low bright (toString extended) color =
      (colorGroups low bright extended color).map codesText := by
  have hindexed : (";5;" : String) = ";" ++ toString 5 ++ ";" := by decide
  have hrgb : (";2;" : String) = ";" ++ toString 2 ++ ";" := by decide
  cases color with
  | default => rfl
  | idx n =>
      rw [colorParam, colorGroups]
      split_ifs
      · rw [List.map_singleton, codesText, List.map_singleton, String.intercalate_singleton]
      · rw [List.map_singleton, codesText, List.map_singleton, String.intercalate_singleton]
      · rw [hindexed]
        simp only [codesText, List.map_cons, List.map_nil, String.intercalate_cons_cons,
          String.intercalate_singleton, String.append_assoc]
  | rgb r g b =>
      rw [colorParam, colorGroups, hrgb]
      simp only [codesText, List.map_cons, List.map_nil, String.intercalate_cons_cons,
        String.intercalate_singleton, String.append_assoc]

theorem groups_ne_nil (attrs : CellAttrs) :
    ∀ group ∈ attrs.groups, group ≠ [] := by
  have hcolor : ∀ (low bright extended : Nat) (color : Color),
      ∀ group ∈ colorGroups low bright extended color, group ≠ [] := by
    intro low bright extended color
    cases color with
    | default => exact List.forall_mem_nil _
    | idx n =>
        rw [colorGroups]
        split_ifs <;> exact List.forall_mem_singleton.mpr (List.cons_ne_nil _ _)
    | rgb r g b => exact List.forall_mem_singleton.mpr (List.cons_ne_nil _ _)
  have hflag : ∀ (on : Bool) (code : Nat), ∀ group ∈ flagGroups on code, group ≠ [] := by
    intro on code
    cases on with
    | false => exact List.forall_mem_nil _
    | true => exact List.forall_mem_singleton.mpr (List.cons_ne_nil _ _)
  simp only [groups, List.forall_mem_append]
  exact ⟨⟨⟨⟨⟨⟨⟨List.forall_mem_singleton.mpr (List.cons_ne_nil _ _), hflag _ _⟩, hflag _ _⟩,
    hflag _ _⟩, hflag _ _⟩, hflag _ _⟩, hcolor _ _ _ _⟩, hcolor _ _ _ _⟩

/-- A change of attributes is one SGR sequence of the parameters. -/
theorem diff_eq_codes {attrs prev : CellAttrs}
    (h : attrs ≠ prev) :
    attrs.diff prev = bytesOf ("\x1b[" ++ codesText attrs.codes ++ "m") := by
  have hflag : ∀ (on : Bool) (code : Nat),
      (if on then [toString code] else []) = (flagGroups on code).map codesText := by
    intro on code
    cases on with
    | false => rfl
    | true => rfl
  rw [codes, ← codesText_flatten attrs.groups_ne_nil]
  simp only [groups, List.map_append, ← hflag, ← colorParam_eq]
  rw [diff, if_neg h]
  rfl

end CellAttrs

/-- The bytes of a number. -/
def digitBytes (n : Nat) : Bytes :=
  bytesOf (toString n)

/-- A digit is one byte. -/
theorem utf8EncodeChar_digit {c : Char}
    (h : c.isDigit = true) :
    String.utf8EncodeChar c = [UInt8.ofNat c.toNat] ∧ 0x30 ≤ c.toNat ∧ c.toNat ≤ 0x39 := by
  have hrange := Char.isDigit_iff_toNat.mp h
  have hhigh : c.toNat ≤ 0x39 := hrange.2
  refine ⟨?_, hrange⟩
  have hval : c.val.toNat ≤ 0x7f := Nat.le_trans hhigh (by decide)
  rw [String.utf8EncodeChar]
  exact if_pos hval

theorem digitBytes_eq (n : Nat) :
    digitBytes n = (Nat.toDigits 10 n).map (fun c => UInt8.ofNat c.toNat) := by
  have hrepr : (toString n).toList = Nat.toDigits 10 n := Nat.toList_repr
  have hdigits : ∀ c ∈ Nat.toDigits 10 n, c.isDigit = true :=
    fun c hc => Nat.isDigit_of_mem_toDigits (by decide) (by decide) hc
  rw [digitBytes, bytesOf_eq, hrepr]
  generalize Nat.toDigits 10 n = digits at hdigits
  induction digits with
  | nil => rfl
  | cons c rest ih =>
      have hrest : ∀ d ∈ rest, d.isDigit = true := fun d hd => hdigits d (List.mem_cons_of_mem _ hd)
      rw [List.flatMap_cons, (utf8EncodeChar_digit (hdigits c List.mem_cons_self)).1, ih hrest]
      rfl

theorem mem_digitBytes {n : Nat} {b : UInt8}
    (h : b ∈ digitBytes n) :
    0x30 ≤ b.toNat ∧ b.toNat ≤ 0x39 := by
  rw [digitBytes_eq, List.mem_map] at h
  obtain ⟨c, hc, rfl⟩ := h
  have hdigit := Nat.isDigit_of_mem_toDigits (by decide) (by decide) hc
  have hrange := (utf8EncodeChar_digit hdigit).2
  rw [UInt8.toNat_ofNat', Nat.mod_eq_of_lt (by omega)]
  exact hrange

/-- The bytes of a number are read as the number. -/
theorem decimal_digitBytes (n : Nat) :
    decimal (digitBytes n) = n := by
  have hdigits : ∀ c ∈ Nat.toDigits 10 n, c.isDigit = true :=
    fun c hc => Nat.isDigit_of_mem_toDigits (by decide) (by decide) hc
  have hfold : ∀ (digits : List Char) (start : Nat), (∀ c ∈ digits, c.isDigit = true) →
      (digits.map fun c => UInt8.ofNat c.toNat).foldl (fun n b => 10 * n + (b.toNat - 0x30)) start =
        Nat.ofDigitChars 10 digits start := by
    intro digits
    induction digits with
    | nil => exact fun _ _ => rfl
    | cons c rest ih =>
        intro start hall
        have hrange := (utf8EncodeChar_digit (hall c List.mem_cons_self)).2
        have hbyte : (UInt8.ofNat c.toNat).toNat = c.toNat := by
          rw [UInt8.toNat_ofNat', Nat.mod_eq_of_lt (by omega)]
        rw [List.map_cons, List.foldl_cons, hbyte, Nat.ofDigitChars_cons]
        exact ih _ fun d hd => hall d (List.mem_cons_of_mem _ hd)
  rw [digitBytes_eq, decimal, hfold _ _ hdigits, Nat.ofDigitChars_ten_toDigits]

theorem bytesOf_codesText (codes : List Nat) :
    bytesOf (codesText codes) = [0x3b].intercalate (codes.map digitBytes) := by
  have hsep : bytesOf ";" = [0x3b] := by decide
  induction codes with
  | nil => rfl
  | cons code rest ih =>
      cases rest with
      | nil =>
          rw [codesText, List.map_singleton, List.map_singleton, String.intercalate_singleton,
            List.intercalate_singleton]
          rfl
      | cons second rest =>
          rw [codesText, List.map_cons, List.map_cons, String.intercalate_cons_cons,
            bytesOf_append, bytesOf_append, hsep, List.map_cons, List.map_cons,
            List.intercalate_cons_cons]
          rw [codesText, List.map_cons, List.map_cons] at ih
          rw [ih]
          rfl

/-- The bytes of parameters are digits and separators. -/
theorem mem_codesText {codes : List Nat} {b : UInt8}
    (h : b ∈ bytesOf (codesText codes)) :
    byteClass b = .parameter ∧ isMarker b = false ∧ b ≠ 0x3a := by
  have hbyte : b = 0x3b ∨ 0x30 ≤ b.toNat ∧ b.toNat ≤ 0x39 := by
    rw [bytesOf_codesText] at h
    induction codes with
    | nil => cases h
    | cons code rest ih =>
        cases rest with
        | nil =>
            rw [List.map_singleton, List.intercalate_singleton] at h
            exact Or.inr (mem_digitBytes h)
        | cons second rest =>
            rw [List.map_cons, List.map_cons, List.intercalate_cons_cons, List.mem_append,
              List.mem_append, List.mem_singleton] at h
            rcases h with (hdigit | hsep) | hrest
            · exact Or.inr (mem_digitBytes hdigit)
            · exact Or.inl hsep
            · exact ih hrest
  rcases hbyte with rfl | hdigit
  · decide
  · refine ⟨byteClass_parameter_iff.mpr ?_, ?_, ?_⟩
    · simp only [Bool.and_eq_true, decide_eq_true_eq, UInt8.le_iff_toNat_le, UInt8.reduceToNat]
      omega
    · simp only [isMarker, decide_eq_false_iff_not, UInt8.le_iff_toNat_le, UInt8.reduceToNat]
      omega
    · rintro rfl
      exact absurd hdigit.2 (by decide)

/-- The parameters are read as they were written. -/
theorem plainValues_codesText {codes : List Nat}
    (h : codes ≠ []) :
    ControlSequence.plainValues (bytesOf (codesText codes)) = codes := by
  have hsep : ∀ part ∈ codes.map digitBytes, (0x3b : UInt8) ∉ part := by
    intro part hpart hmem
    obtain ⟨n, _, rfl⟩ := List.mem_map.mp hpart
    exact absurd (mem_digitBytes hmem).2 (by decide)
  have hread : (fun n => decimal (digitBytes n)) = id := funext decimal_digitBytes
  rw [ControlSequence.plainValues, bytesOf_codesText,
    List.splitOn_intercalate _ hsep (by simpa using h), List.map_map]
  change codes.map (fun n => decimal (digitBytes n)) = codes
  rw [hread, List.map_id]

end Texts

section Reading

/-- The attributes after a control sequence: SGR sets them, by parameters of one number
each. -/
def CellAttrs.obey (pen : CellAttrs) (c : ControlSequence) : CellAttrs :=
  if c.final = 0x6d ∧ c.marker = [] ∧ c.intermediates = [] ∧ 0x3a ∉ c.params then
    pen.applySgr (ControlSequence.plainValues c.params)
  else
    pen

/-- A terminal that reads a stream: where its scanner is, and the pen. -/
structure PenReader where
  scan : ScanState
  pen : CellAttrs
deriving DecidableEq

namespace PenReader

/-- A reader outside of sequences. -/
def holding (pen : CellAttrs) : PenReader :=
  ⟨.outside, pen⟩

def step (r : PenReader) (b : UInt8) : PenReader where
  scan := (r.scan.step b).1
  pen := ((r.scan.step b).2.map r.pen.obey).getD r.pen

/-- The byte with the attributes it is drawn with, if it is drawn. -/
def draws (r : PenReader) (b : UInt8) : List (UInt8 × CellAttrs) :=
  if r.scan = .outside ∧ b ≠ escapeByte then [(b, r.pen)] else []

def run (r : PenReader) (data : Bytes) : PenReader :=
  data.foldl step r

/-- What is drawn of a stream. -/
def drawn (r : PenReader) : Bytes → List (UInt8 × CellAttrs)
  | [] => []
  | b :: rest => r.draws b ++ (r.step b).drawn rest

theorem run_append (r : PenReader) (first second : Bytes) :
    r.run (first ++ second) = (r.run first).run second :=
  List.foldl_append

theorem drawn_append (r : PenReader) (first second : Bytes) :
    r.drawn (first ++ second) = r.drawn first ++ (r.run first).drawn second := by
  induction first generalizing r with
  | nil => rfl
  | cons b rest ih =>
      rw [List.cons_append, drawn, ih, drawn, List.append_assoc]
      rfl

/-- Text is drawn with the pen, and leaves it. -/
theorem reads_text {text : Bytes}
    (h : escapeByte ∉ text)
    (pen : CellAttrs) :
    (holding pen).run text = holding pen ∧
      (holding pen).drawn text = text.map fun b => (b, pen) := by
  induction text with
  | nil => exact ⟨rfl, rfl⟩
  | cons b rest ih =>
      rw [List.mem_cons, not_or] at h
      have hb : b ≠ escapeByte := fun heq => h.1 heq.symm
      have hstep : (holding pen).step b = holding pen := by
        simp [step, holding, ScanState.step_outside hb]
      have hdraws : (holding pen).draws b = [(b, pen)] := if_pos ⟨rfl, hb⟩
      have hrest := ih h.2
      rw [run, List.foldl_cons, hstep, drawn, hstep, hdraws, hrest.2]
      exact ⟨hrest.1, rfl⟩

theorem reads_params {params : Bytes}
    (h : ∀ b ∈ params, byteClass b = .parameter ∧ isMarker b = false)
    (pen : CellAttrs) (front : Bytes) :
    (⟨.collecting front [], pen⟩ : PenReader).run params = ⟨.collecting (front ++ params) [], pen⟩ ∧
      (⟨.collecting front [], pen⟩ : PenReader).drawn params = [] := by
  induction params generalizing front with
  | nil =>
      rw [List.append_nil]
      exact ⟨rfl, rfl⟩
  | cons b rest ih =>
      obtain ⟨hclass, hplain⟩ := h b List.mem_cons_self
      have hscan : (ScanState.collecting front []).step b =
          (.collecting (front ++ [b]) [], none) := by
        simp [ScanState.step, hclass, hplain]
      have hstep : (⟨.collecting front [], pen⟩ : PenReader).step b =
          ⟨.collecting (front ++ [b]) [], pen⟩ := by
        simp [step, hscan]
      have hdraws : (⟨.collecting front [], pen⟩ : PenReader).draws b = [] :=
        if_neg fun hout => ScanState.noConfusion hout.1
      have hrest := ih (fun c hc => h c (List.mem_cons_of_mem _ hc)) (front ++ [b])
      rw [List.append_assoc] at hrest
      rw [run, List.foldl_cons, hstep, drawn, hstep, hdraws, hrest.2]
      exact ⟨hrest.1, rfl⟩

/-- A change of attributes is read back, and draws nothing. -/
theorem reads_diff {next : CellAttrs}
    (h : next.EightBit)
    (prev : CellAttrs) :
    (holding prev).run (next.diff prev) = holding next ∧
      (holding prev).drawn (next.diff prev) = [] := by
  by_cases hsame : next = prev
  · rw [CellAttrs.diff, if_pos hsame, hsame]
    exact ⟨rfl, rfl⟩
  · have hparams : ∀ b ∈ bytesOf (codesText next.codes),
        byteClass b = .parameter ∧ isMarker b = false :=
      fun b hb => ⟨(mem_codesText hb).1, (mem_codesText hb).2.1⟩
    have hinside := reads_params hparams prev []
    have hcodes : next.codes ≠ [] := List.cons_ne_nil _ _
    have hobey : prev.obey ⟨bytesOf (codesText next.codes), [], 0x6d⟩ = next := by
      have hmarker : (bytesOf (codesText next.codes)).takeWhile isMarker = [] := by
        rw [List.takeWhile_eq_nil_iff]
        intro hlength
        rw [(mem_codesText (List.get_mem _ _)).2.1]
        exact Bool.false_ne_true
      rw [CellAttrs.obey, if_pos ⟨rfl, hmarker, rfl, fun hcolon => (mem_codesText hcolon).2.2 rfl⟩,
        plainValues_codesText hcodes, CellAttrs.applySgr_codes h]
    have hstart : bytesOf "\x1b[" = [escapeByte, 0x5b] := by decide
    have hfinal : bytesOf "m" = [0x6d] := by decide
    have hopened : (holding prev).run [escapeByte, 0x5b] = ⟨.collecting [] [], prev⟩ := rfl
    have hends : (⟨.collecting (bytesOf (codesText next.codes)) [], prev⟩ : PenReader).run [0x6d] =
        holding (prev.obey ⟨bytesOf (codesText next.codes), [], 0x6d⟩) := rfl
    have hdrawsFinal : (⟨.collecting (bytesOf (codesText next.codes)) [], prev⟩ :
        PenReader).drawn [0x6d] = [] := rfl
    rw [List.nil_append] at hinside
    rw [CellAttrs.diff_eq_codes hsame, bytesOf_append, bytesOf_append, hstart, hfinal, run_append,
      run_append, drawn_append, drawn_append, run_append, hopened, hinside.1, hinside.2, hends,
      hobey, hdrawsFinal]
    exact ⟨rfl, rfl⟩

end PenReader

end Reading

section Emitting

/-- The cells that a row is emitted as up to column `upto`. -/
def emittedCells (row : RenderedRow) (upto : Option Nat) : List RenderedCell :=
  let limit := upto.getD row.cells.length
  row.cells.take limit ++ List.replicate (limit - row.cells.length) blankCell

/-- A cell as a terminal shows it: no escape byte in its text, and colours of bytes. -/
structure RenderedCell.Drawable (c : RenderedCell) : Prop where
  text : escapeByte ∉ bytesOf c.text
  attrs : c.attrs.EightBit

/-- The bytes of a cell's text with its attributes. -/
def RenderedCell.drawing (c : RenderedCell) : List (UInt8 × CellAttrs) :=
  (bytesOf c.text).map fun b => (b, c.attrs)

theorem blankCell_drawable : blankCell.Drawable where
  text := by decide
  attrs := ⟨trivial, trivial⟩

theorem emittedCells_drawable {row : RenderedRow}
    (h : ∀ c ∈ row.cells, c.Drawable)
    (upto : Option Nat) :
    ∀ c ∈ emittedCells row upto, c.Drawable := by
  intro c hc
  rcases List.mem_append.mp hc with hcell | hblank
  · exact h c (List.mem_of_mem_take hcell)
  · rw [List.eq_of_mem_replicate hblank]
    exact blankCell_drawable

/-- Cells that are emitted one after another are drawn each with its own attributes, when
the reader's pen is the emitter's. -/
theorem reads_cells {cells : List RenderedCell}
    (h : ∀ c ∈ cells, c.Drawable)
    (e : Emitter) :
    ∃ written, (e.emitAll (cells.map .item)).out = e.out ++ written ∧
      (PenReader.holding e.attrs).run written =
        PenReader.holding (e.emitAll (cells.map .item)).attrs ∧
      (PenReader.holding e.attrs).drawn written = cells.flatMap RenderedCell.drawing := by
  induction cells generalizing e with
  | nil => exact ⟨[], (List.append_nil _).symm, rfl, rfl⟩
  | cons c rest ih =>
      have hc := h c List.mem_cons_self
      obtain ⟨written, hout, hrun, hdrawn⟩ :=
        ih (fun d hd => h d (List.mem_cons_of_mem _ hd)) (e.put c.attrs (bytesOf c.text))
      have hdiff := PenReader.reads_diff hc.attrs e.attrs
      have htext := PenReader.reads_text hc.text c.attrs
      have hattrs : (e.put c.attrs (bytesOf c.text)).attrs = c.attrs := rfl
      rw [hattrs] at hrun hdrawn
      refine ⟨c.attrs.diff e.attrs ++ bytesOf c.text ++ written, ?_, ?_, ?_⟩
      · change ((e.put c.attrs (bytesOf c.text)).emitAll (rest.map .item)).out = _
        rw [hout]
        simp only [Emitter.put, List.append_assoc]
      · rw [PenReader.run_append, PenReader.run_append, hdiff.1, htext.1, hrun]
        rfl
      · rw [PenReader.drawn_append, PenReader.drawn_append, PenReader.run_append, hdiff.1,
          hdiff.2, htext.1, htext.2, hdrawn, List.flatMap_cons, List.nil_append]
        rfl

/-- **A change of attributes is read as the new attributes, whatever they are, and is
nothing if and only if there is no change; so a row is drawn with each cell's own
attributes.** -/
theorem diff_roundTrip :
    (∀ prev next : CellAttrs, next.EightBit →
      (PenReader.holding prev).run (next.diff prev) = PenReader.holding next ∧
        (PenReader.holding prev).drawn (next.diff prev) = [] ∧
          (next.diff prev = [] ↔ next = prev)) ∧
    ∀ (row : RenderedRow) (upto : Option Nat) (e : Emitter), (∀ c ∈ row.cells, c.Drawable) →
      ∃ written, (emitRow row upto e).out = e.out ++ written ∧
        (PenReader.holding e.attrs).run written =
          PenReader.holding (emitRow row upto e).attrs ∧
        (PenReader.holding e.attrs).drawn written =
          (emittedCells row upto).flatMap RenderedCell.drawing := by
  refine ⟨?_, ?_⟩
  · intro prev next hnext
    have hread := PenReader.reads_diff hnext prev
    refine ⟨hread.1, hread.2, ?_, ?_⟩
    · intro hnil
      rw [hnil] at hread
      exact (congrArg PenReader.pen hread.1).symm
    · intro hsame
      rw [CellAttrs.diff, if_pos hsame]
  · intro row upto e hrow
    rw [emitRow_eq]
    exact reads_cells (emittedCells_drawable hrow upto) e

/-- Bold, in a colour of the extended palette. -/
def boldExtended : CellAttrs :=
  { CellAttrs.default with fg := .idx 16, bold := true }

/-- The last bright colour on a background that is spelled out. -/
def brightOnRgb : CellAttrs :=
  { CellAttrs.default with fg := .idx 15, bg := .rgb 1 2 255 }

def colouredRow : RenderedRow where
  cells := [⟨"a", boldExtended⟩, ⟨"b", brightOnRgb⟩]
  wrapped := false

/-- A change of colours, and a row in colours with a blank cell after it. -/
theorem diff_roundTrip_colours :
    ((PenReader.holding boldExtended).run (brightOnRgb.diff boldExtended) =
        PenReader.holding brightOnRgb ∧
      brightOnRgb.diff boldExtended ≠ []) ∧
    (PenReader.holding CellAttrs.default).drawn
        (emitRow colouredRow (some 3) ⟨CellAttrs.default, []⟩).out =
      [(0x61, boldExtended), (0x62, brightOnRgb), (0x20, CellAttrs.default)] := by
  have hextended : boldExtended.EightBit := ⟨by decide, trivial⟩
  have hbright : brightOnRgb.EightBit := ⟨by decide, by decide⟩
  have hcells : ∀ c ∈ colouredRow.cells, c.Drawable := by
    intro c hc
    rcases List.mem_cons.mp hc with rfl | hrest
    · exact ⟨by decide, hextended⟩
    · rw [List.mem_singleton.mp hrest]
      exact ⟨by decide, hbright⟩
  have hchange := diff_roundTrip.1 boldExtended brightOnRgb hbright
  obtain ⟨written, hout, _, hdrawn⟩ :=
    diff_roundTrip.2 colouredRow (some 3) ⟨CellAttrs.default, []⟩ hcells
  refine ⟨⟨hchange.1, fun hnil => absurd (hchange.2.2.mp hnil) (by decide)⟩, ?_⟩
  rw [hout, List.nil_append]
  exact hdrawn.trans (by decide)

end Emitting

end Server
end Rttx
