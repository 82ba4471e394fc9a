import Rttx.Server.SampleControls
import Rttx.Server.SwitchPieces

/-!
# Stray exits from the alternate screen

An exit from an alternate screen that is not shown moves the cursor of a terminal,
so the daemon drops such exits from a pane's output before it stores, parses or
forwards it.  The filter looks at one batch at a time and knows three sequences in
their plain spelling.  Where the alternate screen is active at the start of a batch
it is told by the performer and the grid, each of which knows other numbers.

**Results.**
* `exitsExact`: what is passed on has no stray exit and lacks nothing else, if in
  each batch every plain exit comes when the filter's flag is right, and every other
  exit from an active screen.
* `stray_exit_passes`: an exit with a second parameter passes.
-/

namespace Rttx
namespace Server

open Kernel

universe u v

section Exactness

/-- No event leaves an alternate screen that is not shown. -/
def StrayFree : Bool → List TerminalEvent → Prop
  | _, [] => True
  | active, event :: rest => event.strays active = false ∧ StrayFree (event.screen active) rest

theorem strayFree_append {active : Bool} {first second : List TerminalEvent} :
    StrayFree active (first ++ second) ↔
      StrayFree active first ∧ StrayFree (first.foldl TerminalEvent.screen active) second := by
  induction first generalizing active with
  | nil => exact (and_iff_right trivial).symm
  | cons event rest ih =>
      rw [List.cons_append, StrayFree, ih, StrayFree, and_assoc]
      rfl

/-- Whether the alternate screen is shown after some bytes. -/
def shownAfter (s : ScanState) (active : Bool) (data : Bytes) : Bool :=
  (terminalEvents s data).foldl TerminalEvent.screen active

theorem shownAfter_append (s : ScanState) (active : Bool) (first second : Bytes) :
    shownAfter s active (first ++ second) =
      shownAfter (s.run first) (shownAfter s active first) second := by
  rw [shownAfter, terminalEvents_append, List.foldl_append]
  rfl

/-- What is removed are exits that come while the alternate screen is not shown. -/
def RemovesStray (s : ScanState) (active : Bool) (ps : List (Piece UInt8)) : Prop :=
  ∀ before span after, ps = before ++ .removed span :: after →
    (∃ digits ∈ switchDigits, span = (switchSequence digits false).bytes) ∧
      shownAfter s active (before.flatMap Piece.sent) = false

theorem RemovesStray.nil (s : ScanState) (active : Bool) : RemovesStray s active [] := by
  intro before span after h
  cases before <;> cases h

theorem RemovesStray.append {s : ScanState} {active : Bool} {first second : List (Piece UInt8)}
    (hfirst : RemovesStray s active first)
    (hsecond : RemovesStray (s.run (first.flatMap Piece.sent))
      (shownAfter s active (first.flatMap Piece.sent)) second) :
    RemovesStray s active (first ++ second) := by
  intro before span after h
  rcases List.append_eq_append_iff.mp h with ⟨gap, rfl, hgap⟩ | ⟨gap, rfl, hgap⟩
  · obtain ⟨hexit, hshown⟩ := hsecond gap span after hgap
    rw [List.flatMap_append, shownAfter_append]
    exact ⟨hexit, hshown⟩
  · cases gap with
    | nil =>
        have hnone := hsecond [] span after hgap.symm
        rw [List.append_nil] at hnone
        exact hnone
    | cons first gap =>
        cases hgap
        exact hfirst before span gap rfl

theorem RemovesStray.kept (s : ScanState) (active : Bool) (items : Bytes) :
    RemovesStray s active (items.map .kept) := by
  intro before span after h
  have hmem : Piece.removed span ∈ items.map Piece.kept := by
    rw [h]
    exact List.mem_append_right _ List.mem_cons_self
  obtain ⟨item, _, heq⟩ := List.mem_map.mp hmem
  cases heq

/-- What is passed on, read on from the output before it, has no stray exit, and lacks
nothing of the output but stray exits. -/
structure ExitsExact (earlier output passed : Bytes) : Prop where
  no_stray : StrayFree (shownAfter .outside false earlier)
    (terminalEvents (ScanState.outside.run earlier) passed)
  removes_stray : ∃ ps : List (Piece UInt8),
    ps.flatMap Piece.bytes = output ∧ ps.flatMap Piece.sent = passed ∧
      RemovesStray (ScanState.outside.run earlier) (shownAfter .outside false earlier) ps

theorem ExitsExact.append {earlier output output' passed passed' : Bytes}
    (h : ExitsExact earlier output passed)
    (h' : ExitsExact (earlier ++ passed) output' passed') :
    ExitsExact earlier (output ++ output') (passed ++ passed') := by
  obtain ⟨hstray, ps, hbytes, hsent, hremoves⟩ := h
  obtain ⟨hstray', ps', hbytes', hsent', hremoves'⟩ := h'
  rw [shownAfter_append, ScanState.run_append] at hstray' hremoves'
  constructor
  · rw [terminalEvents_append, strayFree_append]
    exact ⟨hstray, hstray'⟩
  · refine ⟨ps ++ ps', ?_, ?_, hremoves.append ?_⟩
    · rw [List.flatMap_append, hbytes, hbytes']
    · rw [List.flatMap_append, hsent, hsent']
    · rw [hsent]
      exact hremoves'

end Exactness

section Condition

/-- The batch does not deceive the filter: a plain exit comes when its flag says
whether the alternate screen is shown, and not inside an unfinished sequence if it is
stray; any other exit comes while the alternate screen is shown. -/
def Tame : ScanState → Bool → Bool → List (Piece UInt8) → Prop
  | _, _, _, [] => True
  | s, active, flag, .kept b :: rest =>
      (eventAt s b).all (fun event => !event.strays active) = true ∧
        Tame (s.step b).1 ((eventAt s b).elim active (TerminalEvent.screen active)) flag rest
  | s, active, flag, .removed span :: rest =>
      (entersAlternate span = false → flag = active ∧ (active = false → s = .outside)) ∧
        Tame .outside (entersAlternate span) (entersAlternate span) rest

instance decidableTame : ∀ (s : ScanState) (active flag : Bool) (ps : List (Piece UInt8)),
    Decidable (Tame s active flag ps)
  | _, _, _, [] => inferInstanceAs (Decidable True)
  | s, active, flag, .kept b :: rest =>
      have := decidableTame (s.step b).1
        ((eventAt s b).elim active (TerminalEvent.screen active)) flag rest
      inferInstanceAs (Decidable (_ ∧ _))
  | _, _, _, .removed span :: rest =>
      have := decidableTame .outside (entersAlternate span) (entersAlternate span) rest
      inferInstanceAs (Decidable (_ ∧ _))

/-- **A tame batch** is filtered exactly. -/
theorem Tame.exact {ps : List (Piece UInt8)} {s : ScanState} {active flag : Bool}
    (hswitch : ∀ span, .removed span ∈ ps → IsSwitch span)
    (h : Tame s active flag ps) :
    StrayFree active (terminalEvents s ((markExits flag ps).flatMap Piece.sent)) ∧
      RemovesStray s active (markExits flag ps) := by
  induction ps generalizing s active flag with
  | nil => exact ⟨trivial, RemovesStray.nil s active⟩
  | cons piece rest ih =>
      have hrest : ∀ span, .removed span ∈ rest → IsSwitch span :=
        fun span hmem => hswitch span (List.mem_cons_of_mem _ hmem)
      cases piece with
      | kept b =>
          obtain ⟨hevent, htame⟩ := h
          obtain ⟨hstray, hremoves⟩ := ih hrest htame
          have hone : shownAfter s active [b] =
              (eventAt s b).elim active (TerminalEvent.screen active) := by
            rw [shownAfter, terminalEvents, terminalEvents, List.append_nil]
            cases eventAt s b <;> rfl
          rw [markExits, List.flatMap_cons]
          constructor
          · change StrayFree active ((eventAt s b).toList ++ _)
            cases hends : eventAt s b with
            | none =>
                rw [hends] at hstray
                exact hstray
            | some event =>
                rw [hends] at hevent hstray
                exact ⟨by simpa using hevent, hstray⟩
          · have hfront := RemovesStray.kept s active [b]
            have hsent : ([b].map Piece.kept).flatMap Piece.sent = [b] := rfl
            rw [← hone] at hremoves
            exact hfront.append hremoves
      | removed span =>
          obtain ⟨hexit, htame⟩ := h
          obtain ⟨digits, hdigits, enters, rfl⟩ := hswitch span List.mem_cons_self
          rw [entersAlternate_bytes] at hexit htame
          obtain ⟨hscreen, hstrays⟩ := screen_switch hdigits enters active
          obtain ⟨hstray, hremoves⟩ := ih hrest htame
          rw [markExits_removed, entersAlternate_bytes]
          have hkept : (enters = true ∨ active = true) →
              StrayFree active (terminalEvents s
                  (((switchSequence digits enters).bytes.map Piece.kept ++
                    markExits enters rest).flatMap Piece.sent)) ∧
                RemovesStray s active
                  ((switchSequence digits enters).bytes.map Piece.kept ++
                    markExits enters rest) := by
            intro hor
            have hshown : shownAfter s active (switchSequence digits enters).bytes = enters := by
              have hone := terminalEvents_switch hdigits enters s []
              rw [List.append_nil] at hone
              rw [shownAfter, hone]
              exact hscreen
            constructor
            · rw [List.flatMap_append, Piece.flatMap_sent_kept, terminalEvents_switch hdigits]
              refine ⟨?_, ?_⟩
              · rw [hstrays]
                rcases hor with rfl | rfl
                · rfl
                · exact Bool.and_false _
              · rw [hscreen]
                exact hstray
            · refine (RemovesStray.kept s active _).append ?_
              rw [Piece.flatMap_sent_kept, run_switch hdigits, hshown]
              exact hremoves
          cases enters with
          | true => exact hkept (Or.inl rfl)
          | false =>
              obtain ⟨rfl, houtside⟩ := hexit rfl
              cases flag with
              | true => exact hkept (Or.inr rfl)
              | false =>
                  obtain rfl := houtside rfl
                  refine ⟨hstray, ?_⟩
                  have hfront : RemovesStray .outside false
                      [.removed (switchSequence digits false).bytes] := by
                    intro before span after hsplit
                    cases before with
                    | nil =>
                        cases hsplit
                        exact ⟨⟨digits, hdigits, rfl⟩, rfl⟩
                    | cons p before => cases before <;> cases (List.cons.inj hsplit).2
                  exact hfront.append hremoves

end Condition

section Runs

variable {P : Type u} {G : Type v}
variable [VteParser P] [Vt100Parser G]

/-- What a screen passes on of some batches, each parsed before the next comes. -/
def passedOn (s : PaneScreen P G) : List Bytes → Bytes
  | [] => []
  | data :: rest => s.sanitizeOutput data ++ passedOn (s.feed data) rest

/-- A batch that is tame after what was passed on, and in which no escape byte cuts a
character. -/
def TameBatch (sofar data : Bytes) : Prop :=
  CharsWhole (sofar ++ data) ∧
    Tame (ScanState.outside.run sofar) (shownAfter .outside false sofar) (trackedActive sofar)
      (switchPieces data)

variable [EventParser P] [ModalGrid P G]
variable {limit cols rows : Nat}

theorem exitsExact_of_fed {s : PaneScreen P G} {sofar : Bytes} {batches : List Bytes}
    (hfed : StreamFed limit cols rows s sofar)
    (hwhole : CharsWhole sofar)
    (htame : ∀ before data after, batches = before ++ data :: after →
      TameBatch (sofar ++ passedOn s before) data) :
    ExitsExact sofar batches.flatten (passedOn s batches) := by
  induction batches generalizing s sofar with
  | nil => exact ⟨trivial, [], rfl, rfl, RemovesStray.nil _ _⟩
  | cons data rest ih =>
      have hstream : StreamGrid G := ModalGrid.toStreamGrid P
      obtain ⟨hchars, hbatch⟩ := htame [] data rest rfl
      have hnothing : sofar ++ passedOn s [] = sofar := List.append_nil sofar
      rw [hnothing] at hchars hbatch
      rw [← onAlternate_eq hfed hwhole] at hbatch
      have hsent : (markExits s.onAlternate (switchPieces data)).flatMap Piece.sent =
          s.sanitizeOutput data := flatMap_sent_markExits data s.onAlternate
      have hbytes : (markExits s.onAlternate (switchPieces data)).flatMap Piece.bytes = data := by
        rw [flatMap_bytes_markExits]
        exact flatMap_bytes_pieces findsSwitches data
      have hswitch : ∀ span, .removed span ∈ switchPieces data → IsSwitch span :=
        fun span hmem => isSwitch_of_removed hmem
      obtain ⟨hstray, hremoves⟩ := hbatch.exact hswitch
      rw [hsent] at hstray
      have hexact : ExitsExact sofar data (s.sanitizeOutput data) :=
        ⟨hstray, _, hbytes, hsent, hremoves⟩
      have hpassed : CharsWhole (sofar ++ s.sanitizeOutput data) := by
        rw [← hsent]
        refine charsWhole_sent ?_ (by rw [hbytes]; exact hchars)
        intro span hmem
        obtain ⟨before, after, hsplit⟩ := List.append_of_mem hmem
        obtain ⟨⟨digits, _, rfl⟩, _⟩ := hremoves before span after hsplit
        exact ⟨_, rfl⟩
      have hnext : StreamFed limit cols rows (s.feed data) (sofar ++ s.sanitizeOutput data) :=
        (hfed.acceptRaw _).parse _
      refine hexact.append (ih hnext hpassed ?_)
      intro before data' after hrest
      have hlater := htame (data :: before) data' after (by rw [hrest]; rfl)
      rwa [passedOn, ← List.append_assoc] at hlater

/-- **No stray exit passes, and nothing else is held back**, in every run whose batches
are tame. -/
theorem exitsExact {earlier : Bytes} {batches : List Bytes}
    (hearlier : CharsWhole earlier)
    (htame : ∀ before data after, batches = before ++ data :: after →
      TameBatch (earlier ++
        passedOn ((PaneScreen.newSized limit cols rows : PaneScreen P G).parse earlier) before)
        data) :
    ExitsExact earlier batches.flatten
      (passedOn ((PaneScreen.newSized limit cols rows : PaneScreen P G).parse earlier)
        batches) := by
  have hstream : StreamGrid G := ModalGrid.toStreamGrid P
  have hfed : StreamFed limit cols rows
      ((PaneScreen.newSized limit cols rows : PaneScreen P G).parse earlier) ([] ++ earlier) :=
    StreamFed.newSized.parse earlier
  exact exitsExact_of_fed hfed hearlier htame

end Runs

section Samples

theorem PlainParser.events_calls (parser : PlainParser) (b : UInt8) :
    (parser.calls b).filterMap terminalEvent? = (eventAt parser.scan b).toList := by
  obtain ⟨s⟩ := parser
  by_cases hcancel : b = cancelByte
  · subst hcancel
    cases s <;> rfl
  have hnone : s = .outside ∨ s = .escape → (s.step b).2 = none := by
    rintro (rfl | rfl)
    · unfold ScanState.step
      cases byteClass b <;> rfl
    · unfold ScanState.step
      cases byteClass b with
      | final =>
          dsimp only
          split <;> rfl
      | _ => rfl
  have hcollecting : s ≠ .outside → s ≠ .escape →
      ((PlainParser.mk s).calls b).filterMap terminalEvent? = (eventAt s b).toList := by
    intro houtside hescape
    have hcalls : (PlainParser.mk s).calls b =
        (s.step b).2.toList.map fun c => (dispatched c).call := by
      rw [calls, if_neg hcancel]
      cases s with
      | outside => exact absurd rfl houtside
      | escape => exact absurd rfl hescape
      | _ => rfl
    rw [hcalls, eventAt, if_neg (fun hboth => hescape hboth.1)]
    cases (s.step b).2 <;> rfl
  cases s with
  | outside =>
      rw [eventAt, if_neg (fun hboth => by cases hboth.1), hnone (Or.inl rfl), calls,
        if_neg hcancel]
      dsimp only
      split
      · rfl
      · split <;> rfl
  | escape =>
      by_cases hreset : b = 0x63
      · subst hreset
        rfl
      · have hat : eventAt .escape b = none := by
          rw [eventAt, if_neg (fun hboth => hreset hboth.2), hnone (Or.inr rfl)]
          rfl
        have hevent : terminalEvent? (.escDispatch [] false b) = none :=
          if_neg (fun hboth => hreset hboth.2)
        rw [hat, calls, if_neg hcancel]
        dsimp only
        split
        · rw [List.filterMap_cons_none hevent]
          rfl
        · rfl
  | collecting params intermediates => exact hcollecting ScanState.noConfusion ScanState.noConfusion
  | malformed => exact hcollecting ScanState.noConfusion ScanState.noConfusion

instance : EventParser PlainParser where
  events data _ := by
    have hall : ∀ (data : Bytes) (parser : PlainParser),
        (callsOver parser data).filterMap terminalEvent? = terminalEvents parser.scan data := by
      intro data
      induction data with
      | nil => exact fun _ => rfl
      | cons b rest ih =>
          intro parser
          rw [callsOver_cons, List.filterMap_append, PlainParser.advance_eq,
            PlainParser.events_calls, ih, terminalEvents]
    exact hall data _

/-- An editor is opened, and closed in the next batch, with one exit too many. -/
theorem exitsExact_editor :
    ExitsExact [] (bytesOf "\x1b[?1049hedit\x1b[?1049l\x1b[?47l$ ")
      (bytesOf "\x1b[?1049hedit\x1b[?1049l$ ") := by
  have hpassed : passedOn ((PaneScreen.newSized 80 24 0 :
      PaneScreen PlainParser (RecordGrid PlainParser)).parse [])
        [bytesOf "\x1b[?1049h", bytesOf "edit\x1b[?1049l\x1b[?47l$ "] =
      bytesOf "\x1b[?1049hedit\x1b[?1049l$ " := by
    decide
  have houtput : [bytesOf "\x1b[?1049h", bytesOf "edit\x1b[?1049l\x1b[?47l$ "].flatten =
      bytesOf "\x1b[?1049hedit\x1b[?1049l\x1b[?47l$ " := by
    decide
  rw [← hpassed, ← houtput]
  refine exitsExact (CharsWhole.of_ascii (List.forall_mem_nil _)) ?_
  intro before data after hsplit
  match before with
  | [] =>
      cases hsplit
      exact ⟨CharsWhole.of_ascii (by decide +kernel), by decide +kernel⟩
  | [first] =>
      cases hsplit
      exact ⟨CharsWhole.of_ascii (by decide +kernel), by decide +kernel⟩
  | first :: second :: before =>
      cases before <;> cases (List.cons.inj (List.cons.inj hsplit).2).2

/-- **An exit with a second parameter passes**, on the primary screen. -/
theorem stray_exit_passes :
    ¬ ∀ batches : List Bytes, ExitsExact [] batches.flatten
      (passedOn (PaneScreen.newSized 80 24 0 : PaneScreen PlainParser (RecordGrid PlainParser))
        batches) := by
  intro h
  have hpassed : passedOn (PaneScreen.newSized 80 24 0 :
      PaneScreen PlainParser (RecordGrid PlainParser)) [bytesOf "\x1b[?1049;25l"] =
        bytesOf "\x1b[?1049;25l" := by
    decide
  have hstray := (h [bytesOf "\x1b[?1049;25l"]).no_stray
  rw [hpassed] at hstray
  have hevents : terminalEvents (ScanState.outside.run []) (bytesOf "\x1b[?1049;25l") =
      [.sequence ⟨[[1049], [25]], bytesOf "?", 'l'⟩] := by
    decide
  rw [hevents] at hstray
  exact absurd hstray.1 (by decide)

end Samples

end Server
end Rttx
