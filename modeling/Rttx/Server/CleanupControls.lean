import Rttx.Server.CallGrid
import Rttx.Server.CursorReports
import Rttx.Server.ScreenReaders

/-!
# The cleanup bytes as controls

The cleanup bytes for an idle shell are controls only; those for a process that
exited begin with a cancel byte, and both may follow the bytes that leave the
alternate screen.  What the controls do to the modes of either machine is
computed once, from any modes.

**Results.**
* `performAll_idleControls`, `performAll_exitControls`: on the performer.
* `applied_idleControls`, `applied_exitControls`: on the modes of the grid.
* `holdsHigh_replay`: what a screen holds back for the grid is beyond ASCII.
-/

namespace Rttx
namespace Server

open Kernel

universe u v

section Lists

/-- DECRST of one mode. -/
def resetMode (mode : String) : Control :=
  .sequence ⟨bytesOf ("?" ++ mode), [], 0x6c⟩

def showCursor : Control :=
  .sequence ⟨bytesOf "?25", [], 0x68⟩

def resetMargins : Control :=
  .sequence ⟨[], [], 0x72⟩

def resetAttributes : Control :=
  .sequence ⟨[], [], 0x6d⟩

def idleControls : List Control :=
  [showCursor, resetMode "1000", resetMode "1002", resetMode "1003", resetMode "1006",
    resetMode "1015", resetMode "1004", resetMargins, resetMode "6", resetAttributes]

/-- The controls behind the cancel byte. -/
def exitControls : List Control :=
  [showCursor, resetMode "1000", resetMode "1002", resetMode "1003", resetMode "1006",
    resetMode "1015", resetMode "1004", resetMode "1", .escape 0x3e, resetMode "2004",
    resetMargins, resetMode "6", resetAttributes]

theorem idleShellCleanupBytes_eq :
    idleShellCleanupBytes = idleControls.flatMap Control.bytes := by
  decide

theorem idleControls_plain : ∀ k ∈ idleControls, k.Plain := by
  decide +kernel

theorem exitControls_plain : ∀ k ∈ exitControls, k.Plain := by
  decide +kernel

theorem idleControls_ne_nil : idleControls ≠ [] :=
  List.cons_ne_nil _ _

/-- The calls of `resetMode` and `showCursor`. -/
def modeCall (mode : Nat) (action : Char) : VteCall :=
  .csiDispatch [[mode]] (bytesOf "?") false action

def idleCalls : List VteCall :=
  [modeCall 25 'h', modeCall 1000 'l', modeCall 1002 'l', modeCall 1003 'l', modeCall 1006 'l',
    modeCall 1015 'l', modeCall 1004 'l', .csiDispatch [[0]] [] false 'r', modeCall 6 'l',
    .csiDispatch [[0]] [] false 'm']

def exitCalls : List VteCall :=
  [modeCall 25 'h', modeCall 1000 'l', modeCall 1002 'l', modeCall 1003 'l', modeCall 1006 'l',
    modeCall 1015 'l', modeCall 1004 'l', modeCall 1 'l', .escDispatch [] false 0x3e,
    modeCall 2004 'l', .csiDispatch [[0]] [] false 'r', modeCall 6 'l',
    .csiDispatch [[0]] [] false 'm']

theorem map_call_idleControls : idleControls.map Control.call = idleCalls := by
  decide

theorem map_call_exitControls : exitControls.map Control.call = exitCalls := by
  decide

end Lists

section Effects

theorem perform_modeCall {action : Char}
    (h : action = 'h' ∨ action = 'l')
    (p : ScreenPerformer)
    (mode : Nat) :
    p.perform (modeCall mode action) = p.setPrivateMode (action == 'h') [mode] := by
  change p.csiDispatch [[mode]] (bytesOf "?") action = _
  rw [ScreenPerformer.csiDispatch, if_pos ⟨rfl, h⟩]
  rfl

theorem applied_modeCall {action : Char}
    (h : action = 'h' ∨ action = 'l')
    (m : ScreenModes)
    (mode : Nat) :
    m.applied (modeCall mode action) = m.setGridParam (action == 'h') [mode] := by
  rw [modeCall, ScreenModes.applied, if_pos ⟨by decide, h⟩]
  rfl

/-- A control sequence without a marker that the performer passes over. -/
theorem perform_unmarked {action : Char}
    (h : action = 'r' ∨ action = 'm')
    (p : ScreenPerformer) :
    p.perform (.csiDispatch [[0]] [] false action) = p := by
  rcases h with rfl | rfl <;> rfl

/-- DECPNM. -/
theorem perform_keypad (p : ScreenPerformer) :
    p.perform (.escDispatch [] false 0x3e) = { p with applicationKeypad := false } :=
  rfl

theorem applied_unmarked (m : ScreenModes) (action : Char) :
    m.applied (.csiDispatch [[0]] [] false action) = m :=
  rfl

theorem performAll_idleCalls (p : ScreenPerformer) :
    p.performAll idleCalls =
      { p with
        cursorVisible := true
        mouseTrackingMode := 0
        sgrMouseMode := false
        focusEventMode := false } := by
  simp only [ScreenPerformer.performAll, idleCalls, List.foldl_cons, List.foldl_nil,
    perform_modeCall (Or.inl rfl), perform_modeCall (Or.inr rfl), perform_unmarked (Or.inl rfl),
    perform_unmarked (Or.inr rfl)]
  simp [ScreenPerformer.setPrivateMode, ScreenPerformer.subparam]

theorem performAll_exitCalls (p : ScreenPerformer) :
    p.performAll exitCalls =
      { p with
        cursorVisible := true
        mouseTrackingMode := 0
        sgrMouseMode := false
        focusEventMode := false
        applicationCursorKeys := false
        applicationKeypad := false
        bracketedPasteMode := false } := by
  simp only [ScreenPerformer.performAll, exitCalls, List.foldl_cons, List.foldl_nil,
    perform_modeCall (Or.inl rfl), perform_modeCall (Or.inr rfl), perform_unmarked (Or.inl rfl),
    perform_unmarked (Or.inr rfl), perform_keypad]
  simp [ScreenPerformer.setPrivateMode, ScreenPerformer.subparam]

/-- The controls leave the performer's cursor where it is. -/
theorem idleCalls_cursor {calls : List VteCall}
    (h : ∀ call ∈ calls, call ∈ idleCalls)
    (p : ScreenPerformer) :
    (p.performAll calls).cursor = p.cursor := by
  have hkind : ∀ call ∈ idleCalls, ∃ params intermediates action,
      call = .csiDispatch params intermediates false action ∧
        action ∉ ['A', 'B', 'C', 'D', 'H', 'f'] := by
    intro call hcall
    simp only [idleCalls, List.mem_cons, List.mem_nil_iff, or_false] at hcall
    rcases hcall with rfl | rfl | rfl | rfl | rfl | rfl | rfl | rfl | rfl | rfl <;>
      exact ⟨_, _, _, rfl, by decide⟩
  induction calls generalizing p with
  | nil => rfl
  | cons call rest ih =>
      obtain ⟨params, intermediates, action, rfl, haction⟩ := hkind call (h call List.mem_cons_self)
      refine (ih (fun call hcall => h call (List.mem_cons_of_mem _ hcall)) _).trans ?_
      refine (csiDispatch_cursor p params intermediates action).trans ?_
      simp only [List.mem_cons, List.mem_nil_iff, or_false, not_or] at haction
      simp [ScreenPerformer.csiCursor, haction]

/-- A mouse mode after DECRST 1000, 1002 and 1003: mode 9 stays. -/
def MouseMode.withoutTracking : MouseMode → MouseMode
  | x10 => x10
  | _ => none

theorem applied_idleCalls (m : ScreenModes) :
    idleCalls.foldl ScreenModes.applied m =
      { m with cursorVisible := true, mouse := m.mouse.withoutTracking } := by
  simp only [idleCalls, List.foldl_cons, List.foldl_nil, applied_modeCall (Or.inl rfl),
    applied_modeCall (Or.inr rfl), applied_unmarked]
  obtain ⟨keys, keypad, paste, mouse, visible, alternate⟩ := m
  cases mouse <;> rfl

theorem applied_exitCalls (m : ScreenModes) :
    exitCalls.foldl ScreenModes.applied m =
      { m with
        cursorVisible := true
        mouse := m.mouse.withoutTracking
        applicationCursorKeys := false
        applicationKeypad := false
        bracketedPaste := false } := by
  simp only [exitCalls, List.foldl_cons, List.foldl_nil, applied_modeCall (Or.inl rfl),
    applied_modeCall (Or.inr rfl), applied_unmarked]
  obtain ⟨keys, keypad, paste, mouse, visible, alternate⟩ := m
  cases mouse <;> rfl

end Effects

section Feeding

variable {P : Type u} {G : Type v}
variable [VteParser P] [Vt100Parser G]

namespace PaneScreen

/-- The performer after output is fed. -/
theorem feed_performer (s : PaneScreen P G) (data : Bytes) :
    ∃ raw, (s.feed data).performer =
      ({ s.performer with rawBytes := raw } : ScreenPerformer).performAll
        (callsOver s.parser (s.sanitizeOutput data)) := by
  refine ⟨((s.acceptRaw (s.sanitizeOutput data)).performer).rawBytes, ?_⟩
  rw [← advanceParser_performer]
  rfl

theorem incompleteUtf8TailLen_of_ascii_last (front : Bytes) {b : UInt8}
    (h : b < 0x80) :
    incompleteUtf8TailLen (front ++ [b]) = 0 := by
  by_contra hne
  have hlen := incompleteUtf8TailLen_le (front ++ [b])
  have hlast : b ∈ (front ++ [b]).drop
      ((front ++ [b]).length - incompleteUtf8TailLen (front ++ [b])) := by
    rw [List.length_append] at hlen ⊢
    rw [List.drop_append_of_le_length (by simp; omega)]
    exact List.mem_append_right _ (List.mem_singleton_self b)
  exact absurd h (UInt8.not_lt.mpr (incompleteUtf8Tail_high _ b hlast))

/-- Bytes that end in ASCII are fed to the grid in full. -/
theorem feed_grid (s : PaneScreen P G) {data front : Bytes} {b : UInt8}
    (h : s.sanitizeOutput data = front ++ [b])
    (hb : b < 0x80) :
    (s.feed data).grid =
      Vt100Parser.process s.grid (s.gridUtf8Tail ++ s.sanitizeOutput data) := by
  have hnone : incompleteUtf8TailLen (s.gridUtf8Tail ++ s.sanitizeOutput data) = 0 := by
    rw [h, ← List.append_assoc]
    exact incompleteUtf8TailLen_of_ascii_last _ hb
  have hgrid : (s.feed data).grid = Vt100Parser.process s.grid
      ((s.gridUtf8Tail ++ s.sanitizeOutput data).take
        ((s.gridUtf8Tail ++ s.sanitizeOutput data).length -
          incompleteUtf8TailLen (s.gridUtf8Tail ++ s.sanitizeOutput data))) := rfl
  rw [hgrid, hnone, Nat.sub_zero, List.take_length]

/-- What is held back for the grid is beyond ASCII. -/
def HoldsHigh (s : PaneScreen P G) : Prop :=
  ∀ b ∈ s.gridUtf8Tail, 0x80 ≤ b

omit [VteParser P] in
theorem holdsHigh_feedGrid (s : PaneScreen P G) (data : Bytes) : (s.feedGrid data).HoldsHigh :=
  incompleteUtf8Tail_high _

theorem holdsHigh_perform {s : PaneScreen P G}
    (h : s.HoldsHigh)
    (event : ScreenEvent) :
    (s.perform event).HoldsHigh := by
  cases event with
  | batch data => exact holdsHigh_feedGrid _ _
  | fed data => exact holdsHigh_feedGrid _ _
  | resized cols rows =>
      have htail : (s.resize cols rows).gridUtf8Tail = s.gridUtf8Tail := by
        unfold resize
        dsimp only
        split <;> rfl
      change ∀ b ∈ (s.resize cols rows).gridUtf8Tail, 0x80 ≤ b
      rw [htail]
      exact h
  | rendered => exact h
  | captured => exact h
  | cleared => exact h

/-- **What a screen holds back for the grid**, after whatever happened to it. -/
theorem holdsHigh_replay (limit cols rows : Nat) (events : List ScreenEvent) :
    ((newSized limit cols rows : PaneScreen P G).replay events).HoldsHigh := by
  have hrun : ∀ (events : List ScreenEvent) (s : PaneScreen P G), s.HoldsHigh →
      (s.replay events).HoldsHigh := by
    intro events
    induction events with
    | nil => exact fun s h => h
    | cons event rest ih => exact fun s h => ih _ (holdsHigh_perform h event)
  exact hrun events _ (List.forall_mem_nil _)

end PaneScreen

end Feeding

end Server
end Rttx
