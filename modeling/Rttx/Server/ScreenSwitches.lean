import Rttx.Server.ScreenModes

/-!
# Who knows which screen is shown

A terminal switches to its alternate screen on DECSET 1049, 1047 and 47 and back on
DECRST, and a full reset shows the primary screen.  The performer knows two of the
numbers and no full reset, the grid two others and full resets.  The daemon takes
the alternate screen to be active when one of them says so.

**Results.**
* `performer_alternateScreen`, `grid_alternateScreen`: what the two say after a
  stream, told from its control sequences and full resets.
* `onAlternate_eq`: what the daemon takes the screen for.
-/

namespace Rttx
namespace Server

open Kernel

universe u v

section Events

/-- What concerns the screens in a stream: control sequences and full resets. -/
inductive TerminalEvent
  | sequence (d : CsiDispatch)
  | fullReset
deriving DecidableEq

def terminalEvent? : VteCall → Option TerminalEvent
  | .csiDispatch params intermediates _ action => some (.sequence ⟨params, intermediates, action⟩)
  | .escDispatch intermediates _ byte =>
      if intermediates = [] ∧ byte = 0x63 then some .fullReset else none
  | _ => none

/-- What a byte ends. -/
def eventAt (s : ScanState) (b : UInt8) : Option TerminalEvent :=
  if s = .escape ∧ b = 0x63 then
    some .fullReset
  else
    (s.step b).2.map fun c => .sequence (dispatched c)

def terminalEvents (s : ScanState) : Bytes → List TerminalEvent
  | [] => []
  | b :: rest => (eventAt s b).toList ++ terminalEvents (s.step b).1 rest

theorem terminalEvents_append (s : ScanState) (first second : Bytes) :
    terminalEvents s (first ++ second) =
      terminalEvents s first ++ terminalEvents (s.run first) second := by
  induction first generalizing s with
  | nil => rfl
  | cons b rest ih =>
      rw [List.cons_append, terminalEvents, ih, terminalEvents, List.append_assoc]
      rfl

/-- Nothing ends beyond ASCII. -/
theorem eventAt_high (s : ScanState) {b : UInt8}
    (h : 0x80 ≤ b) :
    eventAt s b = none := by
  have hreset : b ≠ 0x63 := by
    rintro rfl
    exact absurd h (by decide)
  have hnone : (s.step b).2 = none := by
    cases hends : (s.step b).2 with
    | none => rfl
    | some c =>
        have hclass := byteClass_final_iff.mp (ScanState.step_eq_some hends).1
        simp only [Bool.and_eq_true, decide_eq_true_eq, UInt8.le_iff_toNat_le,
          UInt8.reduceToNat] at hclass h
        omega
  rw [eventAt, if_neg (fun hboth => hreset hboth.2), hnone]
  rfl

theorem terminalEvents_high (s : ScanState) {data : Bytes}
    (h : ∀ b ∈ data, 0x80 ≤ b) :
    terminalEvents s data = [] := by
  induction data generalizing s with
  | nil => rfl
  | cons b rest ih =>
      rw [terminalEvents, eventAt_high s (h b List.mem_cons_self),
        ih _ fun b hb => h b (List.mem_cons_of_mem _ hb)]
      rfl

/-- A parser that reports the events of a stream, unless an escape byte cuts a
character. -/
class EventParser (P : Type u) [VteParser P] : Prop where
  events : ∀ data : Bytes, CharsWhole data →
    (callsOver (VteParser.new : P) data).filterMap terminalEvent? =
      terminalEvents .outside data

end Events

section Trackers

/-- The modes that show the alternate screen. -/
def isAlternateMode (mode : Nat) : Bool :=
  mode == 1049 || mode == 1047 || mode == 47

namespace TerminalEvent

/-- Whether the alternate screen is shown. -/
def screen (active : Bool) : TerminalEvent → Bool
  | sequence d =>
      d.modes?.elim active fun change =>
        if change.2.any isAlternateMode then change.1 else active
  | fullReset => false

/-- Whether the event leaves an alternate screen that is not shown. -/
def strays (active : Bool) : TerminalEvent → Bool
  | sequence d =>
      d.modes?.elim false fun change =>
        !change.1 && change.2.any isAlternateMode &&
          (!active || decide (1 < change.2.countP isAlternateMode))
  | fullReset => false

/-- What the performer takes the screen for. -/
def performer (active : Bool) : TerminalEvent → Bool
  | sequence d =>
      d.modes?.elim active fun change =>
        if change.2.any (fun mode => mode == 1049 || mode == 1047) then change.1 else active
  | fullReset => active

/-- What the grid takes the screen for. -/
def grid (active : Bool) : TerminalEvent → Bool
  | sequence d =>
      if d.intermediates.head? = some 0x3f ∧ (d.action = 'h' ∨ d.action = 'l') then
        if d.params.any (fun param => param == [1049] || param == [47]) then
          d.action == 'h'
        else
          active
      else
        active
  | fullReset => false

end TerminalEvent

theorem foldl_setParam_alternateScreen (enabled : Bool) (m : ScreenModes)
    (params : List (List Nat)) :
    (params.foldl (ScreenModes.setParam enabled) m).alternateScreen =
      if (params.filterMap ScreenPerformer.subparam).any
          (fun mode => mode == 1049 || mode == 1047) then
        enabled
      else
        m.alternateScreen := by
  induction params generalizing m with
  | nil => rfl
  | cons param rest ih =>
      have hone : (m.setParam enabled param).alternateScreen =
          (ScreenPerformer.subparam param).elim m.alternateScreen fun mode =>
            if mode == 1049 || mode == 1047 then enabled else m.alternateScreen := by
        unfold ScreenModes.setParam
        cases ScreenPerformer.subparam param with
        | none => rfl
        | some mode =>
            rw [Option.elim_some, Option.elim_some]
            by_cases h1049 : mode = 1049
            · subst h1049
              rfl
            · by_cases h1047 : mode = 1047
              · subst h1047
                rfl
              · simp only [beq_eq_false_iff_ne.mpr h1049, beq_eq_false_iff_ne.mpr h1047,
                  Bool.or_self, Bool.false_eq_true, if_false]
                unfold ScreenModes.setPrivate
                dsimp only
                split <;> first | rfl | (exfalso; exact h1049 rfl) | (exfalso; exact h1047 rfl)
      rw [List.foldl_cons, ih, hone]
      cases hparam : ScreenPerformer.subparam param with
      | none => rw [List.filterMap_cons_none hparam, Option.elim_none]
      | some mode =>
          rw [List.filterMap_cons_some hparam, Option.elim_some, List.any_cons]
          by_cases hany : (rest.filterMap ScreenPerformer.subparam).any
              (fun mode => mode == 1049 || mode == 1047) = true
          · rw [hany, Bool.or_true, if_pos rfl, if_pos rfl]
          · rw [Bool.not_eq_true] at hany
            rw [hany, Bool.or_false]
            rfl

theorem foldl_setGridParam_alternateScreen (enabled : Bool) (m : ScreenModes)
    (params : List (List Nat)) :
    (params.foldl (ScreenModes.setGridParam enabled) m).alternateScreen =
      if params.any (fun param => param == [1049] || param == [47]) then
        enabled
      else
        m.alternateScreen := by
  induction params generalizing m with
  | nil => rfl
  | cons param rest ih =>
      have hone : (m.setGridParam enabled param).alternateScreen =
          if param == [1049] || param == [47] then enabled else m.alternateScreen := by
        by_cases h1049 : param = [1049]
        · subst h1049
          rfl
        · by_cases h47 : param = [47]
          · subst h47
            rfl
          · simp only [beq_eq_false_iff_ne.mpr h1049, beq_eq_false_iff_ne.mpr h47,
              Bool.or_self, Bool.false_eq_true, if_false]
            unfold ScreenModes.setGridParam
            split <;> first | rfl | (exfalso; exact h1049 rfl) | (exfalso; exact h47 rfl)
      rw [List.foldl_cons, ih, hone, List.any_cons]
      by_cases hany : rest.any (fun param => param == [1049] || param == [47]) = true
      · rw [hany, Bool.or_true, if_pos rfl, if_pos rfl]
      · rw [Bool.not_eq_true] at hany
        rw [hany, Bool.or_false]
        rfl

/-- A call as the performer takes it, told from its event. -/
theorem performed_alternateScreen (m : ScreenModes) (call : VteCall) :
    (m.performed call).alternateScreen =
      (terminalEvent? call).elim m.alternateScreen (TerminalEvent.performer m.alternateScreen) := by
  cases call with
  | csiDispatch params intermediates ignore action =>
      rw [ScreenModes.performed, terminalEvent?, Option.elim_some, TerminalEvent.performer,
        CsiDispatch.modes?, modeCall?]
      by_cases hmode : intermediates = bytesOf "?" ∧ (action = 'h' ∨ action = 'l')
      · rw [if_pos hmode, if_pos hmode, foldl_setParam_alternateScreen]
        rfl
      · rw [if_neg hmode, if_neg hmode]
        rfl
  | escDispatch intermediates ignore byte =>
      rw [ScreenModes.performed, terminalEvent?]
      by_cases hreset : intermediates = [] ∧ byte = 0x63
      · rw [if_pos hreset, hreset.2]
        rfl
      · rw [if_neg hreset]
        split_ifs <;> rfl
  | _ => rfl

/-- A call as the grid takes it, told from its event. -/
theorem applied_alternateScreen (m : ScreenModes) (call : VteCall) :
    (m.applied call).alternateScreen =
      (terminalEvent? call).elim m.alternateScreen (TerminalEvent.grid m.alternateScreen) := by
  cases call with
  | csiDispatch params intermediates ignore action =>
      rw [ScreenModes.applied, terminalEvent?, Option.elim_some, TerminalEvent.grid]
      by_cases hmode : intermediates.head? = some 0x3f ∧ (action = 'h' ∨ action = 'l')
      · rw [if_pos hmode, if_pos hmode, foldl_setGridParam_alternateScreen]
      · rw [if_neg hmode, if_neg hmode]
  | escDispatch intermediates ignore byte =>
      by_cases hreset : intermediates = [] ∧ byte = 0x63
      · obtain ⟨rfl, rfl⟩ := hreset
        rfl
      · have hnone : terminalEvent? (.escDispatch intermediates ignore byte) = none :=
          if_neg hreset
        rw [hnone, ScreenModes.applied]
        by_cases hplain : intermediates = []
        · have hbyte : byte ≠ 0x63 := fun heq => hreset ⟨hplain, heq⟩
          rw [if_pos hplain, if_neg hbyte]
          split_ifs <;> rfl
        · rw [if_neg hplain]
          rfl
  | _ => rfl

/-- What is told of calls is told of their events. -/
theorem foldl_events {step : ScreenModes → VteCall → ScreenModes}
    {screen : Bool → TerminalEvent → Bool}
    (h : ∀ m call, (step m call).alternateScreen =
      (terminalEvent? call).elim m.alternateScreen (screen m.alternateScreen))
    (calls : List VteCall)
    (m : ScreenModes) :
    (calls.foldl step m).alternateScreen =
      (calls.filterMap terminalEvent?).foldl screen m.alternateScreen := by
  induction calls generalizing m with
  | nil => rfl
  | cons call rest ih =>
      rw [List.foldl_cons, ih, h]
      cases hevent : terminalEvent? call with
      | none => rw [List.filterMap_cons_none hevent, Option.elim_none]
      | some event => rw [List.filterMap_cons_some hevent, Option.elim_some, List.foldl_cons]

end Trackers

section Streams

variable {P : Type u} {G : Type v}
variable [VteParser P] [Vt100Parser G]

/-- One of the two trackers says that the alternate screen is active. -/
def PaneScreen.onAlternate (s : PaneScreen P G) : Bool :=
  s.performer.alternateScreen || Vt100Parser.alternateScreen s.grid

/-- What the daemon takes the screen for after a stream. -/
def trackedActive (sofar : Bytes) : Bool :=
  (terminalEvents .outside sofar).foldl TerminalEvent.performer false ||
    (terminalEvents .outside sofar).foldl TerminalEvent.grid false

/-- A new screen that was fed the stream `sofar`. -/
structure StreamFed (limit cols rows : Nat) (s : PaneScreen P G) (sofar : Bytes) : Prop where
  parser : s.parser = parserAfter (VteParser.new : P) sofar
  performer : s.performer.screenModes =
    (callsOver (VteParser.new : P) sofar).foldl ScreenModes.performed .off
  grid : ∃ whole, whole ++ s.gridUtf8Tail = sofar ∧
    s.grid = Vt100Parser.process
      (Vt100Parser.new (max rows 1) (max cols 1) gridScrollbackRows) whole
  high : ∀ b ∈ s.gridUtf8Tail, 0x80 ≤ b

variable {limit cols rows : Nat} {s : PaneScreen P G} {sofar : Bytes}

theorem StreamFed.acceptRaw
    (h : StreamFed limit cols rows s sofar)
    (data : Bytes) :
    StreamFed limit cols rows (s.acceptRaw data) sofar :=
  ⟨h.parser, h.performer, h.grid, h.high⟩

section Fed

variable [StreamGrid G]

theorem StreamFed.newSized :
    StreamFed limit cols rows (PaneScreen.newSized limit cols rows : PaneScreen P G) [] where
  parser := rfl
  performer := rfl
  grid := ⟨[], rfl, (StreamGrid.process_nil _).symm⟩
  high := List.forall_mem_nil _

theorem StreamFed.parse
    (h : StreamFed limit cols rows s sofar)
    (data : Bytes) :
    StreamFed limit cols rows (s.parse data) (sofar ++ data) := by
  obtain ⟨whole, hwhole, hgrid⟩ := h.grid
  have hadvance : ∀ (data : Bytes) (parser : P) (performer : ScreenPerformer),
      (PaneScreen.advanceParser (parser, performer) data).1 = parserAfter parser data := by
    intro data
    induction data with
    | nil => exact fun _ _ => rfl
    | cons b rest ih => exact fun parser performer => ih _ _
  refine ⟨?_, ?_, ?_, incompleteUtf8Tail_high _⟩
  · have hparser : (s.parse data).parser = parserAfter s.parser data := hadvance data _ _
    rw [hparser, h.parser]
    exact List.foldl_append.symm
  · have hperformer : (s.parse data).performer =
        s.performer.performAll (callsOver s.parser data) := advanceParser_performer _ _ _
    rw [hperformer, performAll_screenModes, h.performer, h.parser, callsOver_append,
      List.foldl_append]
  · let joined := s.gridUtf8Tail ++ data
    refine ⟨whole ++ joined.take (joined.length - incompleteUtf8TailLen joined), ?_, ?_⟩
    · have htail : (s.parse data).gridUtf8Tail =
          joined.drop (joined.length - incompleteUtf8TailLen joined) := rfl
      rw [htail, List.append_assoc, List.take_append_drop, ← List.append_assoc, hwhole]
    · rw [← StreamGrid.process_append, ← hgrid]
      rfl

end Fed

variable [EventParser P]

/-- What the performer says after a stream. -/
theorem performer_alternateScreen
    (h : StreamFed limit cols rows s sofar)
    (hwhole : CharsWhole sofar) :
    s.performer.alternateScreen =
      (terminalEvents .outside sofar).foldl TerminalEvent.performer false := by
  have hmodes := congrArg ScreenModes.alternateScreen h.performer
  rw [foldl_events performed_alternateScreen, EventParser.events sofar hwhole] at hmodes
  exact hmodes

/-- What the grid says after a stream. -/
theorem grid_alternateScreen [ModalGrid P G]
    (h : StreamFed limit cols rows s sofar)
    (hwhole : CharsWhole sofar) :
    Vt100Parser.alternateScreen s.grid =
      (terminalEvents .outside sofar).foldl TerminalEvent.grid false := by
  obtain ⟨whole, hsofar, hgrid⟩ := h.grid
  rw [← hsofar] at hwhole ⊢
  have hmodes := congrArg ScreenModes.alternateScreen
    (ModalGrid.modes_process (P := P) (G := G) (max rows 1) (max cols 1) gridScrollbackRows whole
      hwhole.front)
  rw [foldl_events applied_alternateScreen, EventParser.events whole hwhole.front,
    ← hgrid] at hmodes
  rw [terminalEvents_append, terminalEvents_high _ h.high, List.append_nil]
  exact hmodes

/-- **What the daemon takes the screen for.** -/
theorem onAlternate_eq [ModalGrid P G]
    (h : StreamFed limit cols rows s sofar)
    (hwhole : CharsWhole sofar) :
    s.onAlternate = trackedActive sofar := by
  rw [PaneScreen.onAlternate, performer_alternateScreen h hwhole, grid_alternateScreen h hwhole]
  rfl

end Streams

end Server
end Rttx
