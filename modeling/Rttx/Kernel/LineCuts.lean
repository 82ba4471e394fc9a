import Mathlib.Data.List.Basic

/-!
# Kernel: cutting a stream to its last lines

A stream that is too long is cut from the front, to a suffix that starts a line.  The
longest such suffix of a given size is compared with what is left behind the first end of
a line in the last items.

**Results.**
* `longestLines_iff`: the cut keeps the longest suffix exactly if the stream fits, or one
  of two holds and not both: the last items have an end of a line, or they start a line.
* `EscapeState.run_newline`: an end of a line outside of escape sequences is followed by
  what is outside of them.
-/

namespace Rttx
namespace Kernel

universe u

section Cuts

variable {α : Type u} (nl : α)

/-- The suffix is the whole stream, empty, or stands behind the end of a line. -/
def AtLineStart (data kept : List α) : Prop :=
  kept = data ∨ kept = [] ∨ ∃ before, data = before ++ nl :: kept

/-- The longest suffix of at most `max` items that starts a line. -/
structure LongestLines (data : List α) (max : Nat) (kept : List α) : Prop where
  suffix : kept <:+ data
  length_le : kept.length ≤ max
  start : AtLineStart nl data kept
  longest : ∀ other, other <:+ data → other.length ≤ max → AtLineStart nl data other →
    other.length ≤ kept.length

/-- What is cut off a stream that is too long, but for the rest of its line. -/
def overflow (data : List α) (max : Nat) : List α :=
  data.take (data.length - max)

/-- The last `max` items. -/
def lastItems (data : List α) (max : Nat) : List α :=
  data.drop (data.length - max)

theorem overflow_append (data : List α) (max : Nat) :
    overflow data max ++ lastItems data max = data :=
  List.take_append_drop _ _

theorem length_lastItems {data : List α} {max : Nat}
    (h : max ≤ data.length) :
    (lastItems data max).length = max := by
  rw [lastItems, List.length_drop]
  omega

variable [DecidableEq α]

/-- A stream cut to what follows the first end of a line in its last items, or to all of
them if there is none. -/
def cutLines (data : List α) (max : Nat) : List α :=
  if data.length ≤ max then data
  else if nl ∈ lastItems data max then ((lastItems data max).dropWhile (· ≠ nl)).tail
  else lastItems data max

variable {nl} {data : List α} {max : Nat}

theorem cutLines_of_line {line rest : List α}
    (hlong : max < data.length)
    (hlast : lastItems data max = line ++ nl :: rest)
    (hline : nl ∉ line) :
    cutLines nl data max = rest := by
  have hpass : ∀ x ∈ line, decide (x ≠ nl) = true := by
    intro x hx
    have hne : x ≠ nl := fun heq => hline (heq ▸ hx)
    simpa using hne
  rw [cutLines, if_neg (by omega), hlast, if_pos (by simp), List.dropWhile_append_of_pos hpass,
    List.dropWhile_cons_of_neg (by simp), List.tail_cons]

theorem cutLines_of_not_mem
    (hlong : max < data.length)
    (hnone : nl ∉ lastItems data max) :
    cutLines nl data max = lastItems data max := by
  rw [cutLines, if_neg (by omega), if_neg hnone]

omit [DecidableEq α] in
/-- All of the last items start a line if an end of a line is cut off before them. -/
theorem atLineStart_lastItems {before : List α}
    (h : overflow data max = before ++ [nl]) :
    AtLineStart nl data (lastItems data max) := by
  refine Or.inr (Or.inr ⟨before, ?_⟩)
  have hall := overflow_append data max
  rw [h, List.append_assoc] at hall
  exact hall.symm

omit [DecidableEq α] in
/-- Only then do they start a line. -/
theorem overflow_of_atLineStart
    (hlong : max < data.length)
    (hmax : max ≠ 0)
    (h : AtLineStart nl data (lastItems data max)) :
    ∃ before, overflow data max = before ++ [nl] := by
  have hlen := length_lastItems (Nat.le_of_lt hlong)
  rcases h with heq | heq | ⟨before, heq⟩
  · rw [heq] at hlen
    omega
  · rw [heq] at hlen
    exact absurd hlen.symm hmax
  · refine ⟨before, ?_⟩
    have hall := overflow_append data max
    rw [List.append_cons] at heq
    exact List.append_cancel_right (hall.trans heq)

omit [DecidableEq α] in
/-- A suffix that starts a line and reaches into the first line of the last items is all
of them. -/
theorem overflow_of_longer {line rest other : List α}
    (hlong : max < data.length)
    (hlast : lastItems data max = line ++ nl :: rest)
    (hline : nl ∉ line)
    (hsuffix : other <:+ data)
    (hother : other.length ≤ max)
    (hstart : AtLineStart nl data other)
    (hlonger : rest.length < other.length) :
    ∃ before, overflow data max = before ++ [nl] := by
  have hlen := length_lastItems (Nat.le_of_lt hlong)
  have hin : other <:+ line ++ nl :: rest := by
    rw [← hlast]
    exact List.suffix_of_suffix_length_le hsuffix (List.drop_suffix _ _) (by omega)
  obtain ⟨front, hfront⟩ := hin
  rcases hstart with rfl | rfl | ⟨before, hbefore⟩
  · omega
  · simp only [List.length_nil] at hlonger
    omega
  · have hall : overflow data max ++ front ++ other = before ++ [nl] ++ other := by
      rw [List.append_assoc, hfront, ← hlast, overflow_append, ← List.append_cons]
      exact hbefore
    have hends : overflow data max ++ front = before ++ [nl] := List.append_cancel_right hall
    rcases List.eq_nil_or_concat front with rfl | ⟨front, last, rfl⟩
    · rw [List.append_nil] at hends
      exact ⟨before, hends⟩
    · -- The end of the line would be in the line.
      rw [List.concat_eq_append, ← List.append_assoc] at hends
      have hnl := (List.append_inj' hends rfl).2
      cases hnl
      have hwhole : front ++ [nl] <+: line ++ nl :: rest := by
        rw [← hfront, List.concat_eq_append]
        exact List.prefix_append _ _
      have hmem : front ++ [nl] <+: line := by
        refine List.prefix_of_prefix_length_le hwhole (List.prefix_append _ _) ?_
        have hcount := congrArg List.length hfront
        simp only [List.concat_eq_append, List.length_append, List.length_cons,
          List.length_nil] at hcount ⊢
        omega
      exact absurd (hmem.subset (by simp)) hline

/-- **The cut keeps the longest suffix that starts a line exactly if the stream fits, or
nothing may be kept, or one of two holds and not both**: the last items have an end of a
line, or they start a line. -/
theorem longestLines_iff :
    LongestLines nl data max (cutLines nl data max) ↔
      data.length ≤ max ∨ max = 0 ∨
        (nl ∈ lastItems data max ↔ ¬ ∃ before, overflow data max = before ++ [nl]) := by
  by_cases hlong : data.length ≤ max
  · have hall : cutLines nl data max = data := if_pos hlong
    rw [hall]
    refine iff_of_true ⟨List.suffix_refl _, hlong, Or.inl rfl, ?_⟩ (Or.inl hlong)
    exact fun other hother _ _ => hother.length_le
  · have hlong' : max < data.length := by omega
    have hlen := length_lastItems (Nat.le_of_lt hlong')
    have hsuffix : lastItems data max <:+ data := List.drop_suffix _ _
    by_cases hmax : max = 0
    · have hnil : lastItems data max = [] := List.eq_nil_of_length_eq_zero (hlen.trans hmax)
      have hcut : cutLines nl data max = [] := by
        rw [cutLines_of_not_mem hlong' (by simp [hnil]), hnil]
      rw [hcut]
      refine iff_of_true ⟨List.nil_suffix, Nat.zero_le _, Or.inr (Or.inl rfl), ?_⟩
        (Or.inr (Or.inl hmax))
      intro other _ hother _
      rw [hmax] at hother
      exact hother
    · simp only [hlong, hmax, false_or]
      by_cases hmem : nl ∈ lastItems data max
      · obtain ⟨line, rest, hlast, hline⟩ := List.eq_append_cons_of_mem hmem
        have hshort : rest.length < max := by
          have hcount := congrArg List.length hlast
          simp only [List.length_append, List.length_cons] at hcount
          omega
        rw [cutLines_of_line hlong' hlast hline]
        simp only [hmem, true_iff]
        constructor
        · rintro hkept ⟨before, hbefore⟩
          have hmore := hkept.longest _ hsuffix (Nat.le_of_eq hlen) (atLineStart_lastItems hbefore)
          omega
        · intro hnone
          have hdata : data = (overflow data max ++ line) ++ nl :: rest := by
            rw [List.append_assoc, ← hlast, overflow_append]
          refine ⟨⟨overflow data max ++ line ++ [nl], ?_⟩, Nat.le_of_lt hshort,
            Or.inr (Or.inr ⟨_, hdata⟩), ?_⟩
          · rw [List.append_assoc, List.singleton_append]
            exact hdata.symm
          · intro other hother hfits hstart
            by_contra hlonger
            exact hnone (overflow_of_longer hlong' hlast hline hother hfits hstart (by omega))
      · rw [cutLines_of_not_mem hlong' hmem]
        simp only [hmem, false_iff, not_not]
        constructor
        · intro hkept
          exact overflow_of_atLineStart hlong' hmax hkept.start
        · rintro ⟨before, hbefore⟩
          refine ⟨hsuffix, Nat.le_of_eq hlen, atLineStart_lastItems hbefore, ?_⟩
          intro other _ hfits _
          rw [hlen]
          exact hfits

end Cuts

section Sequences

/-- Where a reader of a terminal's stream is: in text, behind an escape byte, in a control
sequence, in an operating system command, or in another control string. -/
inductive EscapeState
  | text
  | escape
  | control
  | command
  | string
deriving DecidableEq, Repr

namespace EscapeState

def step (s : EscapeState) (b : UInt8) : EscapeState :=
  if b = 0x1b then .escape
  else if b = 0x18 ∨ b = 0x1a then .text
  else
    match s with
    | .text => .text
    | .escape =>
        if b < 0x30 then .escape
        else if b = 0x5b then .control
        else if b = 0x5d then .command
        else if b = 0x50 ∨ b = 0x58 ∨ b = 0x5e ∨ b = 0x5f then .string
        else .text
    | .control => if 0x40 ≤ b ∧ b ≤ 0x7e then .text else .control
    | .command => if b = 0x07 then .text else .command
    | .string => .string

/-- Where the reader is behind some bytes. -/
def run (s : EscapeState) (data : List UInt8) : EscapeState :=
  data.foldl step s

theorem run_append (s : EscapeState) (first second : List UInt8) :
    s.run (first ++ second) = (s.run first).run second :=
  List.foldl_append

/-- An end of a line leads neither into a sequence nor out of one. -/
theorem run_newline (before : List UInt8) :
    text.run (before ++ [0x0a]) = text.run before := by
  rw [run_append]
  cases text.run before <;> rfl

end EscapeState

end Sequences

end Kernel
end Rttx
