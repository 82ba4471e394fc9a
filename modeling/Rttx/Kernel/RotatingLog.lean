import Mathlib.Data.List.Induction

/-!
# Kernel: rotating logs

A log that is appended to; when the live segment grows over a limit it becomes the
newest of the rotated segments, of which only so many are kept.

**Results.**
* `contents_appendAll`: what is kept is the end of all that was appended.
* `live_appendAll`, `segments_appendAll`: the live segment stays within the limit, the
  rotated ones within their number.
* `appendAll_segments_eq_nil_iff`: segments are rotated exactly when more is appended
  than the live one holds.
-/

namespace Rttx
namespace Kernel

universe u

/-- The live segment, and the rotated ones with the newest first. -/
structure RotatingLog (α : Type u) where
  live : List α
  segments : List (List α)

namespace RotatingLog

section Appends

variable {α : Type u}

def empty : RotatingLog α :=
  ⟨[], []⟩

/-- All that is kept, the oldest first. -/
def contents (l : RotatingLog α) : List α :=
  l.segments.reverse.flatten ++ l.live

/-- Append to the live segment, and rotate when it is longer than `maxLength`. -/
def append (maxLength keep : Nat) (l : RotatingLog α) (data : List α) : RotatingLog α :=
  if (l.live ++ data).length ≤ maxLength then
    ⟨l.live ++ data, l.segments⟩
  else
    ⟨[], ((l.live ++ data) :: l.segments).take keep⟩

def appendAll (maxLength keep : Nat) (appends : List (List α)) : RotatingLog α :=
  appends.foldl (append maxLength keep) empty

variable {maxLength keep : Nat}

theorem appendAll_concat (appends : List (List α)) (data : List α) :
    appendAll maxLength keep (appends ++ [data]) =
      (appendAll maxLength keep appends).append maxLength keep data := by
  rw [appendAll, List.foldl_append]
  rfl

/-- Keeping the newest segments keeps the end of the contents. -/
theorem take_reverse_flatten (segments : List (List α)) (n : Nat) :
    (segments.take n).reverse.flatten <:+ segments.reverse.flatten := by
  have hsplit : segments.reverse.flatten =
      (segments.drop n).reverse.flatten ++ (segments.take n).reverse.flatten := by
    rw [← List.flatten_append, ← List.reverse_append, List.take_append_drop]
  rw [hsplit]
  exact List.suffix_append _ _

theorem contents_append (l : RotatingLog α) (data : List α) :
    (l.append maxLength keep data).contents <:+ l.contents ++ data := by
  unfold append
  split
  · simp [contents]
  · have hall : l.contents ++ data = ((l.live ++ data) :: l.segments).reverse.flatten := by
      simp [contents]
    rw [hall, contents, List.append_nil]
    exact take_reverse_flatten _ _

theorem live_append (l : RotatingLog α) (data : List α) :
    (l.append maxLength keep data).live.length ≤ maxLength := by
  unfold append
  split
  · next hfits => exact hfits
  · exact Nat.zero_le _

theorem segments_append {l : RotatingLog α}
    (h : l.segments.length ≤ keep)
    (data : List α) :
    (l.append maxLength keep data).segments.length ≤ keep := by
  unfold append
  split
  · exact h
  · exact List.length_take_le _ _

/-- **What is kept is the end of all that was appended.** -/
theorem contents_appendAll (appends : List (List α)) :
    (appendAll maxLength keep appends).contents <:+ appends.flatten := by
  induction appends using List.reverseRecOn with
  | nil => exact List.suffix_refl _
  | append_singleton appends data ih =>
      rw [appendAll_concat, List.flatten_append, List.flatten_singleton]
      refine (contents_append _ data).trans ?_
      obtain ⟨dropped, hdropped⟩ := ih
      exact ⟨dropped, by rw [← List.append_assoc, hdropped]⟩

theorem live_appendAll (appends : List (List α)) :
    (appendAll maxLength keep appends).live.length ≤ maxLength := by
  induction appends using List.reverseRecOn with
  | nil => exact Nat.zero_le _
  | append_singleton appends data ih =>
      rw [appendAll_concat]
      exact live_append _ data

theorem segments_appendAll (appends : List (List α)) :
    (appendAll maxLength keep appends).segments.length ≤ keep := by
  induction appends using List.reverseRecOn with
  | nil => exact Nat.zero_le _
  | append_singleton appends data ih =>
      rw [appendAll_concat]
      exact segments_append ih data

/-- While everything fits, the live segment has it all. -/
theorem appendAll_of_fits {appends : List (List α)}
    (h : appends.flatten.length ≤ maxLength) :
    appendAll maxLength keep appends = ⟨appends.flatten, []⟩ := by
  induction appends using List.reverseRecOn with
  | nil => rfl
  | append_singleton appends data ih =>
      rw [List.flatten_append, List.flatten_singleton] at h ⊢
      have hfits : appends.flatten.length ≤ maxLength := by
        rw [List.length_append] at h
        omega
      rw [appendAll_concat, ih hfits, append, if_pos h]

/-- **Segments are rotated exactly when more is appended than fits.** -/
theorem appendAll_segments_eq_nil_iff
    (hkeep : 0 < keep)
    (appends : List (List α)) :
    (appendAll maxLength keep appends).segments = [] ↔ appends.flatten.length ≤ maxLength := by
  constructor
  · intro hnone
    induction appends using List.reverseRecOn with
    | nil => exact Nat.zero_le _
    | append_singleton appends data ih =>
        rw [appendAll_concat, append] at hnone
        split at hnone
        · next hfits =>
            have hall := ih hnone
            rw [appendAll_of_fits hall] at hfits
            rw [List.flatten_append, List.flatten_singleton]
            exact hfits
        · rw [List.take_eq_nil_iff] at hnone
          rcases hnone with hzero | hnil
          · omega
          · cases hnil
  · intro hfits
    rw [appendAll_of_fits hfits]

/-- Segments that are not there add nothing. -/
theorem padded_segments {segments : List (List α)}
    (h : segments.length ≤ keep) :
    ((List.range keep).map (fun i => segments[i]?.getD [])).reverse.flatten =
      segments.reverse.flatten := by
  have hpadded : (List.range keep).map (fun i => segments[i]?.getD []) =
      segments ++ List.replicate (keep - segments.length) [] := by
    refine List.ext_getElem (by simp; omega) ?_
    intro i hi _
    rw [List.getElem_map, List.getElem_range]
    by_cases hin : i < segments.length
    · rw [List.getElem_append_left hin, List.getElem?_eq_getElem hin, Option.getD_some]
    · rw [List.getElem_append_right (by omega), List.getElem?_eq_none (by omega),
        List.getElem_replicate, Option.getD_none]
  rw [hpadded, List.reverse_append, List.flatten_append, List.reverse_replicate,
    List.flatten_replicate_nil, List.nil_append]

end Appends

end RotatingLog

end Kernel
end Rttx
