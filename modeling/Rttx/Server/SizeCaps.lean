import Rttx.Kernel.LineCuts
import Rttx.Server.PaneScreen

/-!
# Size caps

A rendering and the raw output of a pane are cut to a size from the front.  Both cuts look
for the first end of a line in the last bytes, and keep all of these if there is none.

**Results.**
* `dropOldestLinesOver_eq`, `PaneScreen.snapshotBytes_eq`: both are the one cut to lines.
* `keptLines_iff`: when the cut keeps the longest run of lines, outside of escape
  sequences.
-/

namespace Rttx
namespace Server

open Kernel

universe u v

section Functions

/-- The last bytes of the raw output for the replay of a snapshot. -/
def PaneScreen.snapshotBytes {P : Type u} {G : Type v} (s : PaneScreen P G) (maxBytes : Nat) :
    Bytes :=
  let raw := s.performer.rawBytes
  if raw.length ≤ maxBytes then
    raw
  else
    let start := raw.length - maxBytes
    match (raw.drop start).findIdx? (· == 0x0a) with
    | some offset => raw.drop (start + offset + 1)
    | none => raw.drop start

/-- The trimming of a rendering is the cut to lines. -/
theorem dropOldestLinesOver_eq (stream : Bytes) (max : Nat) :
    dropOldestLinesOver stream max = cutLines 0x0a stream max := by
  have hpass : (fun b : UInt8 => b != 0x0a) = fun b => decide (b ≠ 0x0a) := by
    funext b
    by_cases hb : b = 0x0a
    · simp [hb]
    · simp [hb]
  rw [dropOldestLinesOver, cutLines, lastItems]
  simp only [hpass, List.contains_iff_mem]

/-- So is the cut of the raw output. -/
theorem PaneScreen.snapshotBytes_eq {P : Type u} {G : Type v} (s : PaneScreen P G)
    (maxBytes : Nat) :
    s.snapshotBytes maxBytes = cutLines 0x0a s.performer.rawBytes maxBytes := by
  rw [snapshotBytes]
  generalize s.performer.rawBytes = raw
  by_cases hlong : raw.length ≤ maxBytes
  · rw [cutLines, if_pos hlong, if_pos hlong]
  · have hlong' : maxBytes < raw.length := by omega
    rw [if_neg hlong]
    dsimp only
    by_cases hmem : (0x0a : UInt8) ∈ lastItems raw maxBytes
    · obtain ⟨line, rest, hlast, hline⟩ := List.eq_append_cons_of_mem hmem
      have hfind : (raw.drop (raw.length - maxBytes)).findIdx? (· == 0x0a) =
          some line.length := by
        have hdrop : raw.drop (raw.length - maxBytes) = line ++ 0x0a :: rest := hlast
        have hnone : line.findIdx? (· == 0x0a) = none := by
          rw [List.findIdx?_eq_none_iff]
          intro x hx
          have hne : x ≠ 0x0a := fun heq => hline (heq ▸ hx)
          simpa using hne
        rw [hdrop, List.findIdx?_append, hnone, List.findIdx?_cons]
        simp
      have hrest : raw.drop (raw.length - maxBytes + line.length + 1) = rest := by
        have hdrop : raw.drop (raw.length - maxBytes) = line ++ 0x0a :: rest := hlast
        rw [Nat.add_assoc, ← List.drop_drop, hdrop, ← List.drop_drop, List.drop_left]
        rfl
      rw [hfind, cutLines_of_line hlong' hlast hline]
      exact hrest
    · have hfind : (raw.drop (raw.length - maxBytes)).findIdx? (· == 0x0a) = none := by
        rw [List.findIdx?_eq_none_iff]
        intro x hx
        have hne : x ≠ 0x0a := fun heq => hmem (heq ▸ hx)
        simpa using hne
      rw [hfind, cutLines_of_not_mem hlong' hmem]
      rfl

end Functions

section Cuts

/-- Behind these bytes neither an escape sequence nor a character is open. -/
def Clear (before : Bytes) : Prop :=
  EscapeState.text.run before = .text ∧ incompleteUtf8TailLen before = 0

/-- The longest run of lines of at most `max` bytes, which starts neither inside of an
escape sequence nor of a character. -/
structure KeptLines (data : Bytes) (max : Nat) (kept : Bytes) : Prop where
  lines : LongestLines 0x0a data max kept
  clear : ∀ before, data = before ++ kept → kept ≠ [] → Clear before

def EndsLine (data : Bytes) : Prop :=
  ∃ before, data = before ++ [0x0a]

/-- The cut falls between lines.  The stream fits, or nothing may be kept; or the last
`max` bytes stand inside a line that ends in them, or start a line that does not, and the
end of the line that the cut follows is in no escape sequence. -/
def CutsBetweenLines (data : Bytes) (max : Nat) : Prop :=
  data.length ≤ max ∨ max = 0 ∨
    (¬ EndsLine (overflow data max) ∧
      ∃ line rest, lastItems data max = line ++ 0x0a :: rest ∧ (0x0a : UInt8) ∉ line ∧
        (rest = [] ∨ EscapeState.text.run (overflow data max ++ line) = .text)) ∨
    (EndsLine (overflow data max) ∧ (0x0a : UInt8) ∉ lastItems data max ∧
      EscapeState.text.run (overflow data max) = .text)

/-- Behind an end of a line no character is open. -/
theorem clear_newline_iff (before : Bytes) :
    Clear (before ++ [0x0a]) ↔ EscapeState.text.run before = .text := by
  have htail : incompleteUtf8TailLen (before ++ [0x0a]) = 0 := by
    rw [incompleteUtf8TailLen, List.reverse_append]
    rfl
  rw [Clear, EscapeState.run_newline, htail]
  simp

/-- There is one part before a suffix. -/
theorem clear_of_split {data before kept : Bytes}
    (h : data = before ++ kept) :
    (∀ front, data = front ++ kept → kept ≠ [] → Clear front) ↔ (kept ≠ [] → Clear before) := by
  constructor
  · exact fun hall => hall before h
  · intro hone front hfront
    obtain rfl := List.append_cancel_right (hfront.symm.trans h)
    exact hone

/-- **When the cut keeps the longest run of lines.** -/
theorem keptLines_cutLines_iff (data : Bytes) (max : Nat) :
    KeptLines data max (cutLines 0x0a data max) ↔ CutsBetweenLines data max := by
  have hlines : LongestLines 0x0a data max (cutLines 0x0a data max) ↔ _ := longestLines_iff
  by_cases hlong : data.length ≤ max
  · have hall : cutLines 0x0a data max = data := if_pos hlong
    refine iff_of_true ⟨hlines.mpr (Or.inl hlong), ?_⟩ (Or.inl hlong)
    rw [hall]
    exact (clear_of_split (List.nil_append data).symm).mpr fun _ => ⟨rfl, rfl⟩
  · have hlong' : max < data.length := by omega
    by_cases hmax : max = 0
    · have hkept := hlines.mpr (Or.inr (Or.inl hmax))
      have hnil : cutLines 0x0a data max = [] := by
        have hlen := hkept.length_le
        rw [hmax] at hlen ⊢
        exact List.eq_nil_of_length_eq_zero (Nat.le_zero.mp hlen)
      exact iff_of_true ⟨hkept, fun _ _ hne => absurd hnil hne⟩ (Or.inr (Or.inl hmax))
    · simp only [hlong, hmax, false_or] at hlines
      simp only [CutsBetweenLines, hlong, hmax, false_or]
      by_cases hmem : (0x0a : UInt8) ∈ lastItems data max
      · obtain ⟨line, rest, hlast, hline⟩ := List.eq_append_cons_of_mem hmem
        have hcut := cutLines_of_line hlong' hlast hline
        have hsplit : data = (overflow data max ++ line ++ [0x0a]) ++ rest := by
          rw [List.append_assoc, List.append_assoc, List.singleton_append, ← hlast,
            overflow_append]
        simp only [hmem, true_iff, hcut] at hlines
        rw [hcut]
        constructor
        · rintro ⟨hkept, hclear⟩
          refine Or.inl ⟨hlines.mp hkept, line, rest, hlast, hline, ?_⟩
          rw [clear_of_split hsplit, clear_newline_iff] at hclear
          by_cases hrest : rest = []
          · exact Or.inl hrest
          · exact Or.inr (hclear hrest)
        · rintro (⟨hstart, line', rest', hlast', hline', hclear⟩ | ⟨_, hnone, _⟩)
          · have hrest : rest = rest' :=
              hcut.symm.trans (cutLines_of_line hlong' hlast' hline')
            subst hrest
            obtain rfl : line = line' := List.append_cancel_right (hlast.symm.trans hlast')
            refine ⟨hlines.mpr hstart, ?_⟩
            rw [clear_of_split hsplit, clear_newline_iff]
            exact fun hne => hclear.resolve_left hne
          · exact absurd hmem hnone
      · have hcut := cutLines_of_not_mem hlong' hmem
        have hsplit : data = overflow data max ++ lastItems data max :=
          (overflow_append data max).symm
        have hne : lastItems data max ≠ [] := by
          intro hnil
          have hlen := length_lastItems (Nat.le_of_lt hlong')
          rw [hnil] at hlen
          exact hmax hlen.symm
        simp only [hmem, false_iff, not_not, hcut] at hlines
        rw [hcut]
        constructor
        · rintro ⟨hkept, hclear⟩
          obtain ⟨before, hbefore⟩ := hlines.mp hkept
          have hopen := (clear_of_split hsplit).mp hclear hne
          exact Or.inr ⟨⟨before, hbefore⟩, hmem, hopen.1⟩
        · rintro (⟨_, line, rest, hlast, _, _⟩ | ⟨⟨before, hbefore⟩, _, hrun⟩)
          · rw [hlast] at hmem
            exact absurd (by simp) hmem
          · refine ⟨hlines.mpr ⟨before, hbefore⟩, (clear_of_split hsplit).mpr fun _ => ?_⟩
            rw [hbefore, EscapeState.run_newline] at hrun
            rw [hbefore, clear_newline_iff]
            exact hrun

/-- **Both size caps keep the longest run of lines exactly if the cut falls between
lines.** -/
theorem keptLines_iff {P : Type u} {G : Type v} :
    (∀ (stream : Bytes) (max : Nat),
      KeptLines stream max (dropOldestLinesOver stream max) ↔ CutsBetweenLines stream max) ∧
    ∀ (s : PaneScreen P G) (max : Nat),
      KeptLines s.performer.rawBytes max (s.snapshotBytes max) ↔
        CutsBetweenLines s.performer.rawBytes max := by
  constructor
  · intro stream max
    rw [dropOldestLinesOver_eq]
    exact keptLines_cutLines_iff stream max
  · intro s max
    rw [s.snapshotBytes_eq]
    exact keptLines_cutLines_iff _ max

/-- Without an end of a line the cut falls inside the line, here inside an escape
sequence; and a cut that falls between lines takes one more line than it must. -/
theorem cuts_inside_lines :
    (dropOldestLinesOver (bytesOf "red \x1b[31mtext") 6 = bytesOf "1mtext" ∧
      ¬ KeptLines (bytesOf "red \x1b[31mtext") 6
        (dropOldestLinesOver (bytesOf "red \x1b[31mtext") 6)) ∧
    (dropOldestLinesOver (bytesOf "one\ntwo\nthree") 9 = bytesOf "three" ∧
      ¬ KeptLines (bytesOf "one\ntwo\nthree") 9
        (dropOldestLinesOver (bytesOf "one\ntwo\nthree") 9)) := by
  have hinside : dropOldestLinesOver (bytesOf "red \x1b[31mtext") 6 = bytesOf "1mtext" := by
    decide +kernel
  have hbetween : dropOldestLinesOver (bytesOf "one\ntwo\nthree") 9 = bytesOf "three" := by
    decide +kernel
  refine ⟨⟨hinside, ?_⟩, hbetween, ?_⟩
  · intro hkept
    rw [hinside] at hkept
    rcases hkept.lines.start with hall | hnil | ⟨before, hbefore⟩
    · exact absurd hall (by decide +kernel)
    · exact absurd hnil (by decide +kernel)
    · have hmem : (0x0a : UInt8) ∈ bytesOf "red \x1b[31mtext" := by
        rw [hbefore]
        simp
      exact absurd hmem (by decide +kernel)
  · intro hkept
    rw [hbetween] at hkept
    have hlonger := hkept.lines.longest (bytesOf "two\nthree")
      ⟨bytesOf "one\n", by decide +kernel⟩ (by decide +kernel)
      (Or.inr (Or.inr ⟨bytesOf "one", by decide +kernel⟩))
    exact absurd hlonger (by decide +kernel)

end Cuts

end Server
end Rttx
