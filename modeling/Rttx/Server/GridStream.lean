import Rttx.Server.PaneScreen

/-!
# What the grid of a screen is fed

The performer sees each byte of a pane's output as it comes; the grid is fed
whole characters, and the start of one that a batch cuts waits for the next
batch.  So the grid has seen the output up to such a start, which holds no
control byte.

**Results.**
* `foldl_parse_fed`: what both machines were fed after some batches.
-/

namespace Rttx
namespace Server

universe u v

/-- The grid takes its input as one stream. -/
class StreamGrid (G : Type v) [Vt100Parser G] : Prop where
  process_nil : ∀ g : G, Vt100Parser.process g [] = g
  process_append : ∀ (g : G) (first second : Bytes),
    Vt100Parser.process (Vt100Parser.process g first) second =
      Vt100Parser.process g (first ++ second)

section Calls

/-- Whether a call reports a control sequence or an escape sequence. -/
def VteCall.dispatches : VteCall → Bool
  | csiDispatch _ _ _ _ => true
  | escDispatch _ _ _ => true
  | _ => false

/-- The parser ends control sequences and escape sequences at ASCII bytes. -/
class AsciiDispatch (P : Type u) [VteParser P] : Prop where
  high_calls : ∀ (parser : P) (b : UInt8), 0x80 ≤ b →
    ∀ call ∈ (VteParser.advance parser b).2, call.dispatches = false

variable {P : Type u} [VteParser P]

/-- The parser after a stream. -/
def parserAfter (parser : P) (data : Bytes) : P :=
  data.foldl (fun parser b => (VteParser.advance parser b).1) parser

/-- The calls of a stream in two parts. -/
theorem callsOver_append (parser : P) (first second : Bytes) :
    callsOver parser (first ++ second) =
      callsOver parser first ++ callsOver (parserAfter parser first) second := by
  induction first generalizing parser with
  | nil => rfl
  | cons b rest ih =>
      have hcons : ∀ data, callsOver parser (b :: data) =
          (VteParser.advance parser b).2 ++ callsOver (VteParser.advance parser b).1 data :=
        fun _ => rfl
      rw [List.cons_append, hcons, ih, hcons, List.append_assoc]
      rfl

/-- What holds of the calls of each byte holds of those of a stream. -/
theorem forall_mem_callsOver {p : VteCall → Prop} {data : Bytes}
    (h : ∀ (parser : P) b, b ∈ data → ∀ call ∈ (VteParser.advance parser b).2, p call)
    (parser : P) :
    ∀ call ∈ callsOver parser data, p call := by
  induction data generalizing parser with
  | nil => exact List.forall_mem_nil _
  | cons b rest ih =>
      intro call hcall
      rcases List.mem_append.mp hcall with hcall | hcall
      · exact h parser b List.mem_cons_self call hcall
      · exact ih (fun parser b hb => h parser b (List.mem_cons_of_mem _ hb)) _ call hcall

end Calls

section Batches

variable {P : Type u} {G : Type v}
variable [VteParser P] [Vt100Parser G]

/-- What both machines of a screen were fed, from the start of the screen: the
output `whole` and the start `cut` of a character. -/
structure ScreenFed (P : Type u) (G : Type v) [VteParser P] [Vt100Parser G]
    (limit cols rows : Nat) (s : PaneScreen P G) (whole cut : Bytes) : Prop where
  grid : s.grid = Vt100Parser.process
    (Vt100Parser.new (max rows 1) (max cols 1) gridScrollbackRows) whole
  tail : s.gridUtf8Tail = cut
  high : ∀ b ∈ cut, 0x80 ≤ b
  performer : (s.parser, s.performer) =
    PaneScreen.advanceParser ((VteParser.new : P), ScreenPerformer.new limit) (whole ++ cut)

variable [StreamGrid G]
variable {limit cols rows : Nat}

theorem ScreenFed.newSized :
    ScreenFed P G limit cols rows (PaneScreen.newSized limit cols rows) [] [] where
  grid := (StreamGrid.process_nil _).symm
  tail := rfl
  high := List.forall_mem_nil _
  performer := rfl

/-- One more batch. -/
theorem ScreenFed.parse {s : PaneScreen P G} {whole cut : Bytes}
    (h : ScreenFed P G limit cols rows s whole cut)
    (data : Bytes) :
    ∃ whole' cut', whole' ++ cut' = whole ++ cut ++ data ∧
      ScreenFed P G limit cols rows (s.parse data) whole' cut' := by
  obtain ⟨hgrid, htail, hhigh, hperformer⟩ := h
  have hjoined : (cut ++ data).take ((cut ++ data).length - incompleteUtf8TailLen (cut ++ data)) ++
      (cut ++ data).drop ((cut ++ data).length - incompleteUtf8TailLen (cut ++ data)) =
        cut ++ data := List.take_append_drop _ _
  have hstream : whole ++ (cut ++ data).take
        ((cut ++ data).length - incompleteUtf8TailLen (cut ++ data)) ++
      (cut ++ data).drop ((cut ++ data).length - incompleteUtf8TailLen (cut ++ data)) =
        whole ++ cut ++ data := by
    rw [List.append_assoc, hjoined, List.append_assoc]
  refine ⟨_, _, hstream, ?_, ?_, incompleteUtf8Tail_high _, ?_⟩
  · rw [← StreamGrid.process_append, ← hgrid, ← htail]
    rfl
  · rw [← htail]
    rfl
  · rw [PaneScreen.parse_parser_performer, hperformer, ← PaneScreen.advanceParser_append, hstream]

/-- **What both machines were fed after some batches.** -/
theorem foldl_parse_fed (batches : List Bytes) :
    ∃ whole cut, whole ++ cut = batches.flatten ∧
      ScreenFed P G limit cols rows
        (batches.foldl PaneScreen.parse (PaneScreen.newSized limit cols rows)) whole cut := by
  have hfold : ∀ (batches : List Bytes) (s : PaneScreen P G) (whole cut : Bytes),
      ScreenFed P G limit cols rows s whole cut →
        ∃ whole' cut', whole' ++ cut' = whole ++ cut ++ batches.flatten ∧
          ScreenFed P G limit cols rows (batches.foldl PaneScreen.parse s) whole' cut' := by
    intro batches
    induction batches with
    | nil =>
        intro s whole cut h
        exact ⟨whole, cut, by simp, h⟩
    | cons data rest ih =>
        intro s whole cut h
        obtain ⟨whole', cut', hstream, hfed⟩ := h.parse data
        obtain ⟨whole'', cut'', hstream', hfed'⟩ := ih _ _ _ hfed
        exact ⟨whole'', cut'', by rw [hstream', hstream]; simp, hfed'⟩
  exact hfold batches _ [] [] ScreenFed.newSized

end Batches

end Server
end Rttx
