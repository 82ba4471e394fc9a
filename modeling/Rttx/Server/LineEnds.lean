import Mathlib.Data.List.DropRight
import Rttx.Server.Controls
import Rttx.Server.QueryStripping
import Rttx.Server.SwitchPieces

/-!
# Streams that end in a line end

What is kept of a pane for its next shell is cut after its last line end: a line that
was not ended is not resumed.  The filters on the way to the screen leave such a stream
one that is empty or ends in a line end.

**Results.**
* `restartSafeScrollback_ends`: the cut stream is empty or ends in a line end.
* `EndsInLine.stripQueries`, `EndsInLine.stripExits`: so are the filtered streams.
-/

namespace Rttx
namespace Server

open Kernel

section Bytes

/-- The bytes after which a stream may be cut. -/
def endsLine (b : UInt8) : Bool :=
  b == 0x0a || b == 0x0d

/-- The stream up to its last line end. -/
def restartSafeScrollback (data : Bytes) : Bytes :=
  if data.getLast?.any endsLine then
    data
  else
    data.rdropWhile fun b => !endsLine b

theorem restartSafeScrollback_eq (data : Bytes) :
    restartSafeScrollback data = data.rdropWhile fun b => !endsLine b := by
  induction data using List.reverseRecOn with
  | nil => rfl
  | append_singleton front b _ =>
      rw [restartSafeScrollback, List.getLast?_concat, Option.any_some]
      by_cases hb : endsLine b = true
      · rw [if_pos hb, List.rdropWhile_concat_neg _ _ _ (by rw [hb]; decide)]
      · rw [if_neg hb]

theorem endsLine_cases {b : UInt8}
    (h : endsLine b = true) :
    b = 0x0a ∨ b = 0x0d := by
  simpa [endsLine] using h

/-- A stream that is empty or ends in a line end. -/
def EndsInLine (data : Bytes) : Prop :=
  ∀ b, data.getLast? = some b → endsLine b = true

theorem restartSafeScrollback_ends (data : Bytes) : EndsInLine (restartSafeScrollback data) := by
  rw [restartSafeScrollback_eq]
  intro b hb
  have hne : data.rdropWhile (fun b => !endsLine b) ≠ [] := by
    intro hnil
    rw [hnil] at hb
    cases hb
  have hlast := List.rdropWhile_last_not _ data hne
  rw [List.getLast?_eq_some_getLast hne, Option.some.injEq] at hb
  rw [hb] at hlast
  simpa using hlast

/-- No control sequence has a line end in it. -/
theorem not_mem_of_endsLine {c : ControlSequence} {b : UInt8}
    (h : c.WellFormed)
    (hb : endsLine b = true) :
    b ∉ c.bytes := by
  have hclass : byteClass b ≠ .parameter ∧ byteClass b ≠ .intermediate ∧ byteClass b ≠ .final ∧
      b ≠ escapeByte ∧ b ≠ 0x5b := by
    rcases endsLine_cases hb with rfl | rfl <;> decide
  obtain ⟨hparameter, hintermediate, hfinal, hesc, hbracket⟩ := hclass
  intro hmem
  simp only [ControlSequence.bytes, List.mem_cons, List.mem_append, List.mem_nil_iff,
    or_false] at hmem
  rcases hmem with heq | heq | (hparam | hinter) | heq
  · exact hesc heq
  · exact hbracket heq
  · exact hparameter (h.params b hparam)
  · exact hintermediate (h.intermediates b hinter)
  · exact hfinal (heq ▸ h.final)

/-- What a filter that removes control sequences makes of it. -/
theorem EndsInLine.sent {ps : List (Piece UInt8)}
    (h : EndsInLine (ps.flatMap Piece.bytes))
    (hspans : ∀ span, .removed span ∈ ps →
      ∃ c : ControlSequence, c.WellFormed ∧ span = c.bytes) :
    EndsInLine (ps.flatMap Piece.sent) := by
  intro b hb
  cases hlast : (ps.flatMap Piece.bytes).getLast? with
  | none =>
      have hnil : ∀ piece ∈ ps, piece.bytes = [] :=
        List.flatMap_eq_nil_iff.mp (List.getLast?_eq_none_iff.mp hlast)
      have hsent : ps.flatMap Piece.sent = [] := by
        refine List.flatMap_eq_nil_iff.mpr fun piece hpiece => ?_
        cases piece with
        | kept item => exact hnil _ hpiece
        | removed span => rfl
      rw [hsent] at hb
      cases hb
  | some last =>
      have hkept := Piece.getLast?_sent hlast fun span hspan => by
        obtain ⟨c, hwell, rfl⟩ := hspans span hspan
        exact not_mem_of_endsLine hwell (h last hlast)
      rw [hkept, Option.some.injEq] at hb
      exact hb ▸ h last hlast

theorem EndsInLine.stripQueries {data : Bytes}
    (h : EndsInLine data) :
    EndsInLine (stripClientQueries data) := by
  rw [← flatMap_sent_queryPieces]
  refine EndsInLine.sent ?_ fun span hspan => ?_
  · rw [queryPieces, flatMap_bytes_pieces findsQueries]
    exact h
  · obtain ⟨rest, hfound⟩ := span_of_removed findsQueries hspan
    obtain ⟨c, rest', hknown, hdata, hlen⟩ := csiQueryLen_eq_some hfound
    exact ⟨c, hknown.wellFormed, (List.append_inj hdata hlen).1⟩

/-- The exits that are removed are among the switches. -/
theorem removed_of_markExits {flag : Bool} {ps : List (Piece UInt8)} {span : Bytes}
    (h : .removed span ∈ markExits flag ps) :
    .removed span ∈ ps := by
  induction ps generalizing flag with
  | nil => exact h
  | cons piece rest ih =>
      cases piece with
      | kept b =>
          rcases List.mem_cons.mp h with heq | hrest
          · cases heq
          · exact List.mem_cons_of_mem _ (ih hrest)
      | removed span' =>
          rw [markExits_removed] at h
          rcases List.mem_append.mp h with hfirst | hrest
          · split at hfirst
            · obtain ⟨b, _, heq⟩ := List.mem_map.mp hfirst
              cases heq
            · rw [List.mem_singleton] at hfirst
              exact hfirst ▸ List.mem_cons_self
          · exact List.mem_cons_of_mem _ (ih hrest)

theorem switchSequence_wellFormed :
    ∀ digits ∈ switchDigits, ∀ enters, (switchSequence digits enters).WellFormed := by
  decide

theorem EndsInLine.stripExits {data : Bytes}
    (h : EndsInLine data)
    (active : Bool) :
    EndsInLine (stripStrayAlternateScreenExits data active) := by
  rw [← flatMap_sent_markExits]
  refine EndsInLine.sent ?_ fun span hspan => ?_
  · rw [flatMap_bytes_markExits, switchPieces, flatMap_bytes_pieces findsSwitches]
    exact h
  · obtain ⟨digits, hdigits, enters, hbytes⟩ := isSwitch_of_removed (removed_of_markExits hspan)
    exact ⟨_, switchSequence_wellFormed digits hdigits enters, hbytes⟩

end Bytes

end Server
end Rttx
