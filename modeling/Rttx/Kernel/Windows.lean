import Mathlib.Data.List.Basic

/-!
# Kernel: windows of a list

A window of a list is a run of its items of a given length.  A search compares
each of them with a needle.

**Results.**
* `windowPositions_snoc`: one more item adds at most the last window.
* `suffix_drop_of_window`: a needle whose first item stands nowhere else in
  another one does not overlap its windows.
-/

namespace Rttx
namespace Kernel

section Windows

variable {α : Type} [DecidableEq α]

/-- The positions of the windows that are the needle. -/
def windowPositions (needle data : List α) : List Nat :=
  (List.range (data.length + 1 - needle.length)).filter fun i =>
    (data.drop i).take needle.length = needle

/-- The position of the last window that is the needle. -/
def lastWindow? (needle data : List α) : Option Nat :=
  (windowPositions needle data).getLast?

/-- Whether some window is the needle. -/
def anyWindow (needle data : List α) : Bool :=
  !(windowPositions needle data).isEmpty

theorem mem_windowPositions {needle data : List α} {i : Nat} :
    i ∈ windowPositions needle data ↔
      i < data.length + 1 - needle.length ∧ (data.drop i).take needle.length = needle := by
  simp [windowPositions]

omit [DecidableEq α] in
/-- The last window of a list is its suffix. -/
theorem window_last_iff {needle data : List α}
    (hroom : needle.length ≤ data.length) :
    (data.drop (data.length - needle.length)).take needle.length = needle ↔
      needle <:+ data := by
  rw [List.take_of_length_le (by rw [List.length_drop]; omega), List.suffix_iff_eq_drop]
  exact eq_comm

/-- **One more item adds at most the last window.** -/
theorem windowPositions_snoc {needle : List α}
    (hneedle : needle ≠ [])
    (data : List α)
    (a : α) :
    windowPositions needle (data ++ [a]) =
      windowPositions needle data ++
        if needle <:+ data ++ [a] then [data.length + 1 - needle.length] else [] := by
  have hlen : 0 < needle.length := List.length_pos_iff.mpr hneedle
  have hsnoc : (data ++ [a]).length = data.length + 1 := by simp
  by_cases hroom : needle.length ≤ data.length + 1
  · have hcount : data.length + 1 + 1 - needle.length = data.length + 1 - needle.length + 1 := by
      omega
    have hlast : ((data ++ [a]).drop ((data ++ [a]).length - needle.length)).take needle.length =
        needle ↔ needle <:+ data ++ [a] := window_last_iff (by omega)
    rw [hsnoc] at hlast
    rw [windowPositions, hsnoc, hcount, List.range_succ, List.filter_append, windowPositions]
    congr 1
    · refine List.filter_congr ?_
      intro i hi
      rw [List.mem_range] at hi
      rw [List.drop_append_of_le_length (by omega),
        List.take_append_of_le_length (by rw [List.length_drop]; omega)]
    · by_cases hsuffix : needle <:+ data ++ [a]
      · rw [if_pos hsuffix, List.filter_cons_of_pos (by simpa using hlast.mpr hsuffix),
          List.filter_nil]
      · rw [if_neg hsuffix, List.filter_cons_of_neg (by simpa using fun h => hsuffix (hlast.mp h)),
          List.filter_nil]
  · have hsuffix : ¬ needle <:+ data ++ [a] := by
      intro h
      have hle := h.length_le
      omega
    have hnone : data.length + 1 + 1 - needle.length = 0 := by omega
    have hnone' : data.length + 1 - needle.length = 0 := by omega
    simp [windowPositions, hsuffix, hnone, hnone']

theorem lastWindow?_snoc {needle : List α}
    (hneedle : needle ≠ [])
    (data : List α)
    (a : α) :
    lastWindow? needle (data ++ [a]) =
      if needle <:+ data ++ [a] then
        some (data.length + 1 - needle.length)
      else
        lastWindow? needle data := by
  rw [lastWindow?, windowPositions_snoc hneedle]
  split
  · rw [List.getLast?_append]
    rfl
  · rw [List.append_nil, lastWindow?]

theorem anyWindow_snoc {needle : List α}
    (hneedle : needle ≠ [])
    (data : List α)
    (a : α) :
    anyWindow needle (data ++ [a]) =
      (decide (needle <:+ data ++ [a]) || anyWindow needle data) := by
  rw [anyWindow, windowPositions_snoc hneedle]
  by_cases hsuffix : needle <:+ data ++ [a]
  · simp [hsuffix]
  · simp [hsuffix, anyWindow]

theorem lastWindow?_eq_some {needle data : List α} {i : Nat}
    (h : lastWindow? needle data = some i) :
    i < data.length + 1 - needle.length ∧ (data.drop i).take needle.length = needle :=
  mem_windowPositions.mp (List.mem_of_getLast? h)

omit [DecidableEq α] in
/-- **A needle that ends the list does not overlap an earlier window** of
another one that its first item does not stand in. -/
theorem suffix_drop_of_window {first : α} {rest other data : List α} {i : Nat}
    (hwindow : (data.drop i).take other.length = other)
    (hfirst : first ∉ other.tail)
    (hi : i + (rest.length + 1) < data.length)
    (hsuffix : first :: rest <:+ data) :
    first :: rest <:+ data.drop (i + other.length) := by
  obtain ⟨front, rfl⟩ := hsuffix
  rw [List.length_append, List.length_cons] at hi
  by_cases hover : front.length < i + other.length
  · -- The first item would stand within the window.
    have hk : front.length - i < other.length := by omega
    have hget : other[front.length - i]? = some first := by
      rw [← hwindow, List.getElem?_take_of_lt hk, List.getElem?_drop]
      have hsum : i + (front.length - i) = front.length := by omega
      rw [hsum, List.getElem?_append_right (Nat.le_refl _), Nat.sub_self]
      rfl
    have htail : other.tail[front.length - i - 1]? = some first := by
      have hindex : front.length - i - 1 + 1 = front.length - i := by omega
      rw [List.getElem?_tail, hindex, hget]
    exact absurd (List.mem_of_getElem? htail) hfirst
  · rw [List.drop_append_of_le_length (by omega)]
    exact List.suffix_append _ _

end Windows

end Kernel
end Rttx
