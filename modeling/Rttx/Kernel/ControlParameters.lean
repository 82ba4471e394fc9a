import Rttx.Kernel.ControlSequence

/-!
# Kernel: the parameters of a control sequence

Semicolons separate the parameters of a sequence, colons the numbers within one.
A parser keeps a bounded count of numbers.

**Results.**
* `splitOn_snoc_of_ne`: a byte that is no separator goes to the last part.
* `takeNumbers_singletons`: parameters of one number each are counted as such.
* `groups_of_plain`: without colons each parameter is one number.
-/

namespace Rttx
namespace Kernel

universe u

section Splitting

variable {α : Type u} [DecidableEq α]

/-- A list that is split ends in what follows the last separator. -/
theorem splitOn_eq_append_last (a : α) (xs : List α) :
    ∃ front last, xs.splitOn a = front ++ [last] ∧
      ∀ ys, a ∉ ys → (xs ++ ys).splitOn a = front ++ [last ++ ys] := by
  by_cases hmem : a ∈ xs
  · obtain ⟨back, pre, hreverse, hnone⟩ :=
      List.eq_append_cons_of_mem (List.mem_reverse.mpr hmem)
    have hxs : xs = pre.reverse ++ a :: back.reverse := by
      rw [← List.reverse_reverse xs, hreverse]
      simp
    have hlast : a ∉ back.reverse := fun h => hnone (List.mem_reverse.mp h)
    refine ⟨pre.reverse.splitOn a, back.reverse, ?_, ?_⟩
    · rw [hxs, List.splitOn_append_cons_self, List.splitOn_eq_singleton hlast]
    · intro ys hys
      have hboth : a ∉ back.reverse ++ ys := by
        rw [List.mem_append, not_or]
        exact ⟨hlast, hys⟩
      rw [hxs, List.append_assoc, List.cons_append, List.splitOn_append_cons_self,
        List.splitOn_eq_singleton hboth]
  · refine ⟨[], xs, List.splitOn_eq_singleton hmem, ?_⟩
    intro ys hys
    have hboth : a ∉ xs ++ ys := by
      rw [List.mem_append, not_or]
      exact ⟨hmem, hys⟩
    exact List.splitOn_eq_singleton hboth

/-- What is no separator goes to the last part. -/
theorem splitOn_snoc_of_ne {a x : α}
    (hne : x ≠ a)
    {xs : List α} {front : List (List α)} {last : List α}
    (h : xs.splitOn a = front ++ [last]) :
    (xs ++ [x]).splitOn a = front ++ [last ++ [x]] := by
  obtain ⟨front', last', hsplit, hmore⟩ := splitOn_eq_append_last a xs
  obtain ⟨rfl, hlast⟩ := List.append_inj' (h.symm.trans hsplit) rfl
  cases hlast
  exact hmore [x] (by simpa using hne.symm)

/-- A separator begins a part. -/
theorem splitOn_snoc_self (a : α) (xs : List α) :
    (xs ++ [a]).splitOn a = xs.splitOn a ++ [[]] := by
  rw [List.splitOn_append_cons_self]
  rfl

end Splitting

section Numbers

/-- The number that decimal digits denote; none denote zero. -/
def decimal (digits : List UInt8) : Nat :=
  digits.foldl (fun n b => 10 * n + (b.toNat - 0x30)) 0

theorem decimal_snoc (digits : List UInt8) (b : UInt8) :
    decimal (digits ++ [b]) = 10 * decimal digits + (b.toNat - 0x30) := by
  simp [decimal]

/-- The parameters up to `n` numbers. -/
def takeNumbers : Nat → List (List Nat) → List (List Nat)
  | _, [] => []
  | n, group :: rest =>
      if n = 0 then [] else group.take n :: takeNumbers (n - group.length) rest

theorem takeNumbers_singletons (n : Nat) (values : List Nat) :
    takeNumbers n (values.map fun v => [v]) = (values.take n).map fun v => [v] := by
  induction values generalizing n with
  | nil => simp [takeNumbers]
  | cons v rest ih =>
      cases n with
      | zero => simp [takeNumbers]
      | succ n => simp [takeNumbers, ih]

end Numbers

namespace ControlSequence

section Parameters

/-- The parameters, each with its numbers. -/
def groups (c : ControlSequence) : List (List Nat) :=
  ((c.params.dropWhile isMarker).splitOn 0x3b).map fun group => (group.splitOn 0x3a).map decimal

/-- The parameters of one number each. -/
def plainValues (params : List UInt8) : List Nat :=
  (params.splitOn 0x3b).map decimal

theorem mem_of_mem_splitOn {a b : UInt8} {xs part : List UInt8}
    (hpart : part ∈ xs.splitOn a)
    (hb : b ∈ part) :
    b ∈ xs := by
  have hjoin : [a].intercalate (xs.splitOn a) = xs := List.intercalate_splitOn a
  rw [← hjoin, List.intercalate]
  refine List.mem_flatten.mpr ⟨part, ?_, hb⟩
  generalize xs.splitOn a = parts at hpart
  induction parts with
  | nil => cases hpart
  | cons first rest ih =>
      cases rest with
      | nil => simpa using hpart
      | cons second rest =>
          rcases List.mem_cons.mp hpart with rfl | hrest
          · simp
          · simp [ih hrest]

/-- Without colons each parameter is one number. -/
theorem groups_of_plain {c : ControlSequence} {params : List UInt8}
    (h : c.params.dropWhile isMarker = params)
    (hcolon : (0x3a : UInt8) ∉ params) :
    c.groups = (plainValues params).map fun v => [v] := by
  rw [groups, h, plainValues, List.map_map]
  refine List.map_congr_left ?_
  intro part hpart
  have hnone : (0x3a : UInt8) ∉ part := fun hmem => hcolon (mem_of_mem_splitOn hpart hmem)
  rw [List.splitOn_eq_singleton hnone]
  rfl

end Parameters

end ControlSequence

end Kernel
end Rttx
