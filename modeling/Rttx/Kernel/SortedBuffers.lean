import Mathlib.Data.List.Induction
import Mathlib.Order.Lattice
import Mathlib.Order.Defs.LinearOrder

/-!
# Kernel: buffers kept in key order

Data that arrives under keys is collected into one buffer for each key, and the
buffers are kept in the order of their keys.  What a group of keys collects is
what arrived for the group, in order of arrival, when the group's keys arrive in
their own order.

**Results.**
* `contents_appendTo`: what one arrival adds.
* `contents_collect`: a group whose keys arrive in order keeps its order.
-/

namespace Rttx
namespace Kernel

universe u v

section Buffers

variable {κ : Type u} {α : Type v}

/-- What the keys of a group have collected. -/
def contents (p : κ → Bool) (buffers : List (κ × List α)) : List α :=
  (buffers.filter (fun entry => p entry.1)).flatMap (fun entry => entry.2)

theorem contents_nil (p : κ → Bool) : contents p ([] : List (κ × List α)) = [] :=
  rfl

theorem contents_cons (p : κ → Bool) (key : κ) (data : List α) (rest : List (κ × List α)) :
    contents p ((key, data) :: rest) =
      (if p key then data else []) ++ contents p rest := by
  by_cases hp : p key <;> simp [contents, hp]

theorem contents_append (p : κ → Bool) (first second : List (κ × List α)) :
    contents p (first ++ second) = contents p first ++ contents p second := by
  simp [contents]

/-- A group without keys has collected nothing. -/
theorem contents_eq_nil {p : κ → Bool} {buffers : List (κ × List α)}
    (h : ∀ entry ∈ buffers, p entry.1 = false) :
    contents p buffers = [] := by
  have hnone : buffers.filter (fun entry => p entry.1) = [] := by
    rw [List.filter_eq_nil_iff]
    intro entry hentry
    simp [h entry hentry]
  rw [contents, hnone]
  rfl

variable [LinearOrder κ]

/-- Append data to the buffer of its key. -/
def appendTo (key : κ) (data : List α) : List (κ × List α) → List (κ × List α)
  | [] => [(key, data)]
  | (k, buffer) :: rest =>
      if key < k then
        (key, data) :: (k, buffer) :: rest
      else if key = k then
        (k, buffer ++ data) :: rest
      else
        (k, buffer) :: appendTo key data rest

/-- Collect what arrives. -/
def collect (arrivals : List (κ × List α)) : List (κ × List α) :=
  arrivals.foldl (fun buffers arrival => appendTo arrival.1 arrival.2 buffers) []

theorem collect_snoc (arrivals : List (κ × List α)) (key : κ) (data : List α) :
    collect (arrivals ++ [(key, data)]) = appendTo key data (collect arrivals) := by
  simp [collect]

theorem mem_keys_appendTo {key k : κ} {data : List α} {buffers : List (κ × List α)} :
    k ∈ (appendTo key data buffers).map Prod.fst ↔ k = key ∨ k ∈ buffers.map Prod.fst := by
  induction buffers with
  | nil => simp [appendTo]
  | cons entry rest ih =>
      obtain ⟨head, buffer⟩ := entry
      rw [appendTo]
      split_ifs with hlt heq
      · simp
      · subst heq
        simp
      · rw [List.map_cons, List.mem_cons, ih, List.map_cons, List.mem_cons]
        exact or_left_comm

/-- The keys are those that arrived. -/
theorem mem_keys_collect {arrivals : List (κ × List α)} {k : κ} :
    k ∈ (collect arrivals).map Prod.fst ↔ k ∈ arrivals.map Prod.fst := by
  induction arrivals using List.reverseRecOn with
  | nil => rfl
  | append_singleton arrivals arrival ih =>
      rw [collect_snoc, mem_keys_appendTo, ih]
      simp [or_comm]

theorem sorted_appendTo {key : κ} {data : List α} {buffers : List (κ × List α)}
    (h : buffers.Pairwise (fun entry later => entry.1 < later.1)) :
    (appendTo key data buffers).Pairwise (fun entry later => entry.1 < later.1) := by
  induction buffers with
  | nil => exact List.pairwise_singleton _ _
  | cons entry rest ih =>
      obtain ⟨k, buffer⟩ := entry
      obtain ⟨hhead, hrest⟩ := List.pairwise_cons.mp h
      rw [appendTo]
      split_ifs with hlt heq
      · refine List.pairwise_cons.mpr ⟨?_, h⟩
        intro later hlater
        rcases List.mem_cons.mp hlater with rfl | hlater
        · exact hlt
        · exact lt_trans hlt (hhead later hlater)
      · exact List.pairwise_cons.mpr ⟨hhead, hrest⟩
      · refine List.pairwise_cons.mpr ⟨?_, ih hrest⟩
        intro later hlater
        rcases mem_keys_appendTo.mp (List.mem_map_of_mem hlater) with hkey | hkey
        · rw [hkey]
          exact lt_of_le_of_ne (not_lt.mp hlt) (fun h => heq h.symm)
        · obtain ⟨other, hother, hsame⟩ := List.mem_map.mp hkey
          exact hsame ▸ hhead other hother

theorem sorted_collect (arrivals : List (κ × List α)) :
    (collect arrivals).Pairwise (fun entry later => entry.1 < later.1) := by
  induction arrivals using List.reverseRecOn with
  | nil => exact List.Pairwise.nil
  | append_singleton arrivals arrival ih =>
      rw [collect_snoc]
      exact sorted_appendTo ih

/-- An arrival outside of a group adds nothing to it. -/
theorem contents_appendTo_of_not {p : κ → Bool} {key : κ}
    (hp : p key = false)
    (data : List α)
    (buffers : List (κ × List α)) :
    contents p (appendTo key data buffers) = contents p buffers := by
  induction buffers with
  | nil => simp [appendTo, contents_cons, hp]
  | cons entry rest ih =>
      obtain ⟨k, buffer⟩ := entry
      rw [appendTo]
      split_ifs with hlt heq
      · simp [contents_cons, hp]
      · subst heq
        simp [contents_cons, hp]
      · rw [contents_cons, contents_cons, ih]

/-- An arrival under the greatest key of a group goes to the end of it. -/
theorem contents_appendTo {p : κ → Bool} {key : κ}
    (hp : p key = true)
    (data : List α)
    {buffers : List (κ × List α)}
    (hsorted : buffers.Pairwise (fun entry later => entry.1 < later.1))
    (hlast : ∀ k ∈ buffers.map Prod.fst, p k = true → k ≤ key) :
    contents p (appendTo key data buffers) = contents p buffers ++ data := by
  induction buffers with
  | nil => simp [appendTo, contents_cons, contents_nil, hp]
  | cons entry rest ih =>
      obtain ⟨k, buffer⟩ := entry
      obtain ⟨hhead, hrest⟩ := List.pairwise_cons.mp hsorted
      -- An entry behind a key that is not below the arrival's is not of the group.
      have hbeyond : key ≤ k → contents p rest = [] := by
        intro hle
        refine contents_eq_nil ?_
        intro later hlater
        rw [Bool.eq_false_iff]
        intro hgroup
        have hkey := hlast later.1 (List.mem_cons_of_mem _ (List.mem_map_of_mem hlater)) hgroup
        exact absurd (lt_of_le_of_lt hle (hhead later hlater)) (not_lt.mpr hkey)
      rw [appendTo]
      split_ifs with hlt heq
      · have hk : p k = false := by
          rw [Bool.eq_false_iff]
          intro hgroup
          exact absurd hlt (not_lt.mpr (hlast k List.mem_cons_self hgroup))
        simp [contents_cons, hp, hk, hbeyond (le_of_lt hlt)]
      · subst heq
        simp [contents_cons, hp, hbeyond (le_refl _)]
      · rw [contents_cons, contents_cons, ih hrest, List.append_assoc]
        intro j hj
        exact hlast j (List.mem_cons_of_mem _ hj)

/-- **A group whose keys arrive in order keeps the order of its arrivals.** -/
theorem contents_collect {p : κ → Bool} {arrivals : List (κ × List α)}
    (h : (arrivals.filter (fun arrival => p arrival.1)).Pairwise
      (fun arrival later => arrival.1 ≤ later.1)) :
    contents p (collect arrivals) = contents p arrivals := by
  induction arrivals using List.reverseRecOn with
  | nil => rfl
  | append_singleton arrivals arrival ih =>
      obtain ⟨key, data⟩ := arrival
      rw [List.filter_append, List.pairwise_append] at h
      obtain ⟨hfront, _, hcross⟩ := h
      rw [collect_snoc, contents_append, contents_cons, contents_nil, List.append_nil]
      by_cases hp : p key = true
      · rw [contents_appendTo hp data (sorted_collect arrivals), ih hfront, if_pos hp]
        intro k hk hgroup
        obtain ⟨earlier, hmem, rfl⟩ := List.mem_map.mp (mem_keys_collect.mp hk)
        exact hcross earlier (List.mem_filter.mpr ⟨hmem, hgroup⟩) (key, data) (by simp [hp])
      · rw [contents_appendTo_of_not (Bool.eq_false_iff.mpr hp), ih hfront, if_neg hp,
          List.append_nil]

end Buffers

end Kernel
end Rttx
