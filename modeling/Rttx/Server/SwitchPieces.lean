import Rttx.Kernel.StreamPieces
import Rttx.Server.ScreenSwitches

/-!
# The pieces of a batch that switch the screen

The filter for stray exits walks a batch and knows three sequences in their plain
spelling.  Here a batch is cut into these switches and the other bytes, and what the
filter makes of the batch is told from the pieces.

**Results.**
* `flatMap_sent_markExits`: the filter passes on the pieces it keeps.
* `charsWhole_sent`: where no escape byte cuts a character, none does behind the filter.
* `terminalEvents_switch`: a plain switch is one event wherever it stands.
-/

namespace Rttx
namespace Server

open Kernel

section Switches

/-- A switch in its plain spelling. -/
def switchSequence (digits : Bytes) (enters : Bool) : ControlSequence :=
  ⟨0x3f :: digits, [], if enters then 0x68 else 0x6c⟩

def switchDigits : List Bytes :=
  [bytesOf "1049", bytesOf "1047", bytesOf "47"]

/-- The filter takes a plain switch, whatever follows it. -/
theorem alternateScreenSwitchLen_bytes {digits : Bytes}
    (h : digits ∈ switchDigits)
    (enters : Bool)
    (rest : Bytes) :
    alternateScreenSwitchLen ((switchSequence digits enters).bytes ++ rest) =
      some ((switchSequence digits enters).bytes.length, enters) := by
  have hkinds : digits = [0x31, 0x30, 0x34, 0x39] ∨ digits = [0x31, 0x30, 0x34, 0x37] ∨
      digits = [0x34, 0x37] := by
    have hlisted : switchDigits =
        [[0x31, 0x30, 0x34, 0x39], [0x31, 0x30, 0x34, 0x37], [0x34, 0x37]] := by
      decide
    rw [hlisted] at h
    simpa using h
  rcases hkinds with rfl | rfl | rfl <;> cases enters <;> rfl

/-- What the filter takes is a plain switch. -/
theorem alternateScreenSwitchLen_eq_some {data : Bytes} {n : Nat} {enters : Bool}
    (h : alternateScreenSwitchLen data = some (n, enters)) :
    ∃ digits ∈ switchDigits, ∃ rest,
      data = (switchSequence digits enters).bytes ++ rest ∧
        n = (switchSequence digits enters).bytes.length := by
  unfold alternateScreenSwitchLen at h
  split at h
  · rename_i body
    simp only at h
    split at h
    · rename_i hknown
      have hmem : body.takeWhile isAsciiDigit ∈ switchDigits := List.contains_iff_mem.mp hknown
      have hbody : body.takeWhile isAsciiDigit ++ body.dropWhile isAsciiDigit = body :=
        List.takeWhile_append_dropWhile
      split at h
      · rename_i rest hrest
        cases h
        rw [hrest] at hbody
        generalize body.takeWhile isAsciiDigit = digits at hmem hbody ⊢
        refine ⟨digits, hmem, rest, ?_, ?_⟩
        · rw [← hbody]
          simp [switchSequence, ControlSequence.bytes, escapeByte]
        · simp [switchSequence, ControlSequence.bytes]
          omega
      · rename_i rest hrest
        cases h
        rw [hrest] at hbody
        generalize body.takeWhile isAsciiDigit = digits at hmem hbody ⊢
        refine ⟨digits, hmem, rest, ?_, ?_⟩
        · rw [← hbody]
          simp [switchSequence, ControlSequence.bytes, escapeByte]
        · simp [switchSequence, ControlSequence.bytes]
          omega
      · cases h
    · cases h
  · cases h

theorem alternateScreenSwitchLen_of_ne {b : UInt8}
    (h : b ≠ esc)
    (rest : Bytes) :
    alternateScreenSwitchLen (b :: rest) = none := by
  unfold alternateScreenSwitchLen
  split
  · rename_i heq
    cases heq
    exact absurd rfl h
  · rfl

/-- Nothing but a switch in its plain spelling. -/
def IsSwitch (span : Bytes) : Prop :=
  ∃ digits ∈ switchDigits, ∃ enters, span = (switchSequence digits enters).bytes

def entersAlternate (span : Bytes) : Bool :=
  span.getLast? == some 0x68

theorem entersAlternate_bytes (digits : Bytes) (enters : Bool) :
    entersAlternate (switchSequence digits enters).bytes = enters := by
  have hlast : (switchSequence digits enters).bytes =
      (esc :: 0x5b :: 0x3f :: digits) ++ [if enters then 0x68 else 0x6c] := by
    simp [switchSequence, ControlSequence.bytes, esc, escapeByte]
  rw [entersAlternate, hlast, List.getLast?_append_of_ne_nil _ (List.cons_ne_nil _ _)]
  cases enters <;> rfl

end Switches

section Pieces

def switchLen (data : Bytes) : Option Nat :=
  (alternateScreenSwitchLen data).map Prod.fst

/-- A batch as the filter reads it: its plain switches, and other bytes. -/
def switchPieces (data : Bytes) : List (Piece UInt8) :=
  pieces switchLen data

theorem switchLen_eq_some {data : Bytes} {n : Nat}
    (h : switchLen data = some n) :
    ∃ digits ∈ switchDigits, ∃ enters rest,
      data = (switchSequence digits enters).bytes ++ rest ∧
        n = (switchSequence digits enters).bytes.length := by
  obtain ⟨⟨n', enters⟩, hsome, rfl⟩ := Option.map_eq_some_iff.mp h
  obtain ⟨digits, hdigits, rest, hdata, hlen⟩ := alternateScreenSwitchLen_eq_some hsome
  exact ⟨digits, hdigits, enters, rest, hdata, hlen⟩

theorem findsSwitches : FindsSpans switchLen := by
  intro data n h
  obtain ⟨digits, _, enters, rest, rfl, rfl⟩ := switchLen_eq_some h
  rw [List.length_append]
  exact ⟨Nat.succ_pos _, Nat.le_add_right _ _⟩

theorem isSwitch_of_removed {data span : Bytes}
    (h : .removed span ∈ switchPieces data) :
    IsSwitch span := by
  obtain ⟨rest, hspan⟩ := span_of_removed findsSwitches h
  obtain ⟨digits, hdigits, enters, rest', hdata, hlen⟩ := switchLen_eq_some hspan
  exact ⟨digits, hdigits, enters, (List.append_inj hdata hlen).1⟩

/-- What the filter makes of the pieces of a batch: a switch is kept, unless it is an
exit and the flag is down. -/
def markExits : Bool → List (Piece UInt8) → List (Piece UInt8)
  | _, [] => []
  | flag, .kept b :: rest => .kept b :: markExits flag rest
  | flag, .removed span :: rest =>
      if entersAlternate span then
        span.map .kept ++ markExits true rest
      else if flag then
        span.map .kept ++ markExits false rest
      else
        .removed span :: markExits false rest

theorem markExits_removed (flag : Bool) (span : Bytes) (rest : List (Piece UInt8)) :
    markExits flag (.removed span :: rest) =
      (if entersAlternate span || flag then span.map .kept else [.removed span]) ++
        markExits (entersAlternate span) rest := by
  rw [markExits]
  cases entersAlternate span <;> cases flag <;> rfl

/-- The pieces are the batch. -/
theorem flatMap_bytes_markExits (flag : Bool) (ps : List (Piece UInt8)) :
    (markExits flag ps).flatMap Piece.bytes = ps.flatMap Piece.bytes := by
  induction ps generalizing flag with
  | nil => rfl
  | cons piece rest ih =>
      cases piece with
      | kept b => rw [markExits, List.flatMap_cons, List.flatMap_cons, ih]
      | removed span =>
          rw [markExits_removed, List.flatMap_append, ih, List.flatMap_cons]
          split
          · rw [Piece.flatMap_bytes_kept]
            rfl
          · rw [List.flatMap_singleton]

theorem stripStrayExitsFrom_copy (flag : Bool) (copy : Nat) (data : Bytes) :
    stripStrayExitsFrom flag copy 0 data =
      data.take copy ++ stripStrayExitsFrom flag 0 0 (data.drop copy) := by
  induction data generalizing copy with
  | nil => cases copy <;> rfl
  | cons b rest ih =>
      cases copy with
      | zero => rfl
      | succ copy => exact congrArg (b :: ·) (ih copy)

theorem stripStrayExitsFrom_skip (flag : Bool) (skip : Nat) (data : Bytes) :
    stripStrayExitsFrom flag 0 skip data = stripStrayExitsFrom flag 0 0 (data.drop skip) := by
  induction data generalizing skip with
  | nil => cases skip <;> rfl
  | cons b rest ih =>
      cases skip with
      | zero => rfl
      | succ skip => exact ih skip

theorem stripStrayExitsFrom_byte {b : UInt8} {rest : Bytes}
    (h : alternateScreenSwitchLen (b :: rest) = none)
    (flag : Bool) :
    stripStrayExitsFrom flag 0 0 (b :: rest) = b :: stripStrayExitsFrom flag 0 0 rest := by
  rw [stripStrayExitsFrom, h]
  split <;> rfl

theorem stripStrayExitsFrom_switch {digits : Bytes}
    (h : digits ∈ switchDigits)
    (flag enters : Bool)
    (rest : Bytes) :
    stripStrayExitsFrom flag 0 0 ((switchSequence digits enters).bytes ++ rest) =
      (if enters || flag then (switchSequence digits enters).bytes else []) ++
        stripStrayExitsFrom enters 0 0 rest := by
  have hlen := alternateScreenSwitchLen_bytes h enters rest
  have hcons : ∃ body, (switchSequence digits enters).bytes = esc :: body := ⟨_, rfl⟩
  obtain ⟨body, hbody⟩ := hcons
  rw [hbody] at hlen ⊢
  rw [List.cons_append] at hlen ⊢
  rw [stripStrayExitsFrom, if_pos rfl, hlen]
  have hbehind : (body ++ rest).take body.length = body ∧ (body ++ rest).drop body.length = rest :=
    ⟨List.take_left, List.drop_left⟩
  cases enters with
  | true =>
      simp only [List.length_cons, Nat.add_sub_cancel, Bool.true_or, if_true]
      rw [stripStrayExitsFrom_copy, hbehind.1, hbehind.2]
      rfl
  | false =>
      cases flag with
      | true =>
          simp only [List.length_cons, Nat.add_sub_cancel, Bool.or_true, if_true]
          rw [stripStrayExitsFrom_copy, hbehind.1, hbehind.2]
          rfl
      | false =>
          simp only [List.length_cons, Nat.add_sub_cancel, Bool.or_self, Bool.false_eq_true,
            if_false]
          rw [stripStrayExitsFrom_skip, hbehind.2]
          rfl

theorem stripStrayExits_eq_scan (data : Bytes) (flag : Bool) :
    stripStrayAlternateScreenExits data flag = stripStrayExitsFrom flag 0 0 data := by
  by_cases h : esc ∈ data
  · simp [stripStrayAlternateScreenExits, h]
  · rw [stripStrayAlternateScreenExits_of_no_esc flag h]
    induction data with
    | nil => rfl
    | cons b rest ih =>
        rw [List.mem_cons, not_or] at h
        rw [stripStrayExitsFrom_byte (alternateScreenSwitchLen_of_ne (fun heq => h.1 heq.symm) _),
          ← ih h.2]

/-- **The filter passes on the pieces it keeps.** -/
theorem flatMap_sent_markExits (data : Bytes) (flag : Bool) :
    (markExits flag (switchPieces data)).flatMap Piece.sent =
      stripStrayAlternateScreenExits data flag := by
  rw [stripStrayExits_eq_scan]
  induction data using pieces_induction findsSwitches generalizing flag with
  | nil => rfl
  | kept b rest hnone ih =>
      have hbyte : alternateScreenSwitchLen (b :: rest) = none :=
        Option.map_eq_none_iff.mp hnone
      rw [switchPieces, pieces_kept hnone, markExits, List.flatMap_cons,
        stripStrayExitsFrom_byte hbyte, ← ih]
      rfl
  | removed data n hsome ih =>
      obtain ⟨digits, hdigits, enters, rest, rfl, rfl⟩ := switchLen_eq_some hsome
      rw [List.drop_left] at ih
      rw [switchPieces, pieces_removed findsSwitches hsome, List.take_left, List.drop_left,
        markExits_removed, entersAlternate_bytes, List.flatMap_append,
        stripStrayExitsFrom_switch hdigits, ← ih]
      congr 1
      split
      · exact Piece.flatMap_sent_kept _
      · rfl

end Pieces

section Characters

/-- Farther from the end less of a character is missing. -/
theorem incompleteUtf8TailFrom_mono {data : Bytes} {back back' n n' : Nat}
    (hpos : 0 < back)
    (hback : back ≤ back')
    (hn : n' ≤ n)
    (h : incompleteUtf8TailFrom back (data.take n) = 0) :
    incompleteUtf8TailFrom back' (data.take n') = 0 := by
  induction data generalizing back back' n n' with
  | nil => rw [List.take_nil]; rfl
  | cons b rest ih =>
      cases n' with
      | zero => rfl
      | succ k' =>
          obtain ⟨k, rfl⟩ : ∃ k, n = k + 1 := ⟨n - 1, by omega⟩
          rw [List.take_succ_cons, incompleteUtf8TailFrom] at h ⊢
          by_cases hcont : b &&& 0xc0 = 0x80
          · rw [if_pos hcont] at h ⊢
            exact ih (Nat.succ_pos _) (Nat.succ_le_succ hback) (Nat.le_of_succ_le_succ hn) h
          · rw [if_neg hcont] at h ⊢
            generalize (if 0xc0 ≤ b && b ≤ 0xdf then 2
              else if 0xe0 ≤ b && b ≤ 0xef then 3
              else if 0xf0 ≤ b && b ≤ 0xf7 then 4
              else 0) = needed at h ⊢
            have hneeded : ¬ back < needed := by
              intro hlt
              rw [if_pos hlt] at h
              omega
            exact if_neg (by omega)

/-- No character is unfinished behind a gap that stands where none was. -/
theorem incompleteUtf8TailFrom_gap {gap span front : Bytes} {back n : Nat}
    (hpos : 0 < back)
    (hn : n ≤ 3)
    (hfront : incompleteUtf8TailFrom 1 (front.take 3) = 0)
    (h : incompleteUtf8TailFrom back ((gap ++ span).take n) = 0) :
    incompleteUtf8TailFrom back ((gap ++ front).take n) = 0 := by
  induction gap generalizing back n with
  | nil => exact incompleteUtf8TailFrom_mono Nat.one_pos hpos hn hfront
  | cons b gap ih =>
      cases n with
      | zero => rfl
      | succ n =>
          rw [List.cons_append, List.take_succ_cons, incompleteUtf8TailFrom] at h ⊢
          by_cases hcont : b &&& 0xc0 = 0x80
          · rw [if_pos hcont] at h ⊢
            exact ih (Nat.succ_pos _) (Nat.le_of_succ_le hn) h
          · rw [if_neg hcont] at h ⊢
            exact h

/-- Without a span that an escape byte begins no character is cut either. -/
theorem CharsWhole.remove {front span back : Bytes}
    (h : CharsWhole (front ++ (span ++ back)))
    (hspan : ∃ body, span = esc :: body) :
    CharsWhole (front ++ back) := by
  obtain ⟨body, rfl⟩ := hspan
  have hfront : incompleteUtf8TailLen front = 0 := h front (body ++ back) rfl
  intro pre post hdata
  rcases List.append_eq_append_iff.mp hdata with ⟨gap, rfl, rfl⟩ | ⟨gap, rfl, hback⟩
  · have hfull := h (front ++ (esc :: body ++ gap)) post (by simp)
    rw [incompleteUtf8TailLen] at hfront
    rw [incompleteUtf8TailLen, List.reverse_append] at hfull ⊢
    rw [List.reverse_append, List.append_assoc] at hfull
    exact incompleteUtf8TailFrom_gap Nat.one_pos (Nat.le_refl 3) hfront hfull
  · cases gap with
    | nil =>
        rw [List.append_nil] at hfront
        exact hfront
    | cons first gap =>
        cases hback
        exact h pre (gap ++ (esc :: body ++ back)) (by simp)

theorem charsWhole_sent {ps : List (Piece UInt8)} {front : Bytes}
    (hspans : ∀ span, .removed span ∈ ps → ∃ body, span = esc :: body)
    (h : CharsWhole (front ++ ps.flatMap Piece.bytes)) :
    CharsWhole (front ++ ps.flatMap Piece.sent) := by
  induction ps generalizing front with
  | nil => exact h
  | cons piece rest ih =>
      have hrest : ∀ span, .removed span ∈ rest → ∃ body, span = esc :: body :=
        fun span hmem => hspans span (List.mem_cons_of_mem _ hmem)
      rw [List.flatMap_cons] at h ⊢
      cases piece with
      | kept b =>
          have hsnoc : ∀ data, front ++ (Piece.bytes (.kept b) ++ data) = front ++ [b] ++ data :=
            fun data => (List.append_assoc _ _ _).symm
          rw [hsnoc] at h
          have hone := ih hrest h
          rwa [List.append_assoc] at hone
      | removed span =>
          have hgone : CharsWhole (front ++ rest.flatMap Piece.bytes) :=
            CharsWhole.remove h (hspans span List.mem_cons_self)
          exact ih hrest hgone

end Characters

section Events

/-- A plain switch is one event wherever it stands. -/
theorem terminalEvents_switch {digits : Bytes}
    (h : digits ∈ switchDigits)
    (enters : Bool)
    (s : ScanState)
    (rest : Bytes) :
    terminalEvents s ((switchSequence digits enters).bytes ++ rest) =
      .sequence (dispatched (switchSequence digits enters)) :: terminalEvents .outside rest := by
  have hbody : ∀ digits ∈ switchDigits, ∀ enters,
      terminalEvents .escape (switchSequence digits enters).bytes.tail =
          [.sequence (dispatched (switchSequence digits enters))] ∧
        ScanState.escape.run (switchSequence digits enters).bytes.tail = .outside := by
    decide +kernel
  obtain ⟨hevents, hrun⟩ := hbody digits h enters
  have hopen : terminalEvents s ((switchSequence digits enters).bytes ++ rest) =
      terminalEvents .escape ((switchSequence digits enters).bytes.tail ++ rest) := by
    have hnone : eventAt s escapeByte = none := by
      rw [eventAt, if_neg (fun hboth => by cases hboth.2)]
      rfl
    change (eventAt s escapeByte).toList ++ _ = _
    rw [hnone]
    rfl
  rw [hopen, terminalEvents_append, hevents, hrun]
  rfl

theorem run_switch {digits : Bytes}
    (h : digits ∈ switchDigits)
    (enters : Bool)
    (s : ScanState) :
    s.run (switchSequence digits enters).bytes = .outside := by
  have hbody : ∀ digits ∈ switchDigits, ∀ enters,
      ScanState.escape.run (switchSequence digits enters).bytes.tail = .outside := by
    decide +kernel
  exact hbody digits h enters

/-- What a plain switch does to the screens. -/
theorem screen_switch {digits : Bytes}
    (h : digits ∈ switchDigits)
    (enters active : Bool) :
    (TerminalEvent.sequence (dispatched (switchSequence digits enters))).screen active = enters ∧
      (TerminalEvent.sequence (dispatched (switchSequence digits enters))).strays active =
        (!enters && !active) := by
  revert active enters digits
  decide +kernel

end Events

end Server
end Rttx
