import Mathlib.Tactic.Common

/-!
# Kernel: octets and sextets

Three octets are four sextets.  A sequence of octets is regrouped from its
front; one or two octets at its end give two or three sextets, the last one
filled up with zero bits.  The way back leaves some bits of a last sextet over,
and they are zero for what came from octets, and for nothing else.

**Results.**
* `octets_sextets`: regrouping there and back.
* `sextets_octets`: regrouping back and there, when no bits are left over.
-/

namespace Rttx
namespace Kernel

section Regrouping

/-- The sextets of a sequence of octets. -/
def sextets : List Nat → List Nat
  | x :: y :: z :: rest =>
      x / 4 :: (x % 4 * 16 + y / 16) :: (y % 16 * 4 + z / 64) :: z % 64 :: sextets rest
  | [x, y] => [x / 4, x % 4 * 16 + y / 16, y % 16 * 4]
  | [x] => [x / 4, x % 4 * 16]
  | [] => []

/-- The whole octets of a sequence of sextets. -/
def octets : List Nat → List Nat
  | a :: b :: c :: d :: rest =>
      (a * 4 + b / 16) :: (b % 16 * 16 + c / 4) :: (c % 4 * 64 + d) :: octets rest
  | [a, b, c] => [a * 4 + b / 16, b % 16 * 16 + c / 4]
  | [a, b] => [a * 4 + b / 16]
  | [_] => []
  | [] => []

/-- The bits of the last sextet that belong to no whole octet. -/
def spareBits : List Nat → Nat
  | _ :: _ :: _ :: _ :: rest => spareBits rest
  | [_, _, c] => c % 4
  | [_, b] => b % 16
  | [a] => a
  | [] => 0

/-- **There and back.** -/
theorem octets_sextets {xs : List Nat}
    (h : ∀ x ∈ xs, x < 256) :
    octets (sextets xs) = xs := by
  induction xs using sextets.induct with
  | case1 x y z rest ih =>
      simp only [List.forall_mem_cons] at h
      obtain ⟨hx, hy, hz, hrest⟩ := h
      rw [sextets, octets, ih hrest]
      simp only [List.cons.injEq, and_true]
      omega
  | case2 x y =>
      simp only [List.forall_mem_cons] at h
      obtain ⟨hx, hy, -⟩ := h
      simp only [sextets, octets, List.cons.injEq, and_true]
      omega
  | case3 x =>
      simp only [List.forall_mem_cons] at h
      simp only [sextets, octets, List.cons.injEq, and_true]
      omega
  | case4 => rfl

/-- **Back and there**, when no bits are left over. -/
theorem sextets_octets {xs : List Nat}
    (h : ∀ x ∈ xs, x < 64)
    (hlength : xs.length % 4 ≠ 1)
    (hspare : spareBits xs = 0) :
    sextets (octets xs) = xs := by
  induction xs using octets.induct with
  | case1 a b c d rest ih =>
      simp only [List.forall_mem_cons] at h
      obtain ⟨ha, hb, hc, hd, hrest⟩ := h
      simp only [List.length_cons] at hlength
      rw [octets, sextets, ih hrest (by omega) hspare]
      simp only [List.cons.injEq, and_true]
      omega
  | case2 a b c =>
      simp only [List.forall_mem_cons] at h
      obtain ⟨ha, hb, hc, -⟩ := h
      simp only [spareBits] at hspare
      simp only [octets, sextets, List.cons.injEq, and_true]
      omega
  | case3 a b =>
      simp only [List.forall_mem_cons] at h
      obtain ⟨ha, hb, -⟩ := h
      simp only [spareBits] at hspare
      simp only [octets, sextets, List.cons.injEq, and_true]
      omega
  | case4 a => exact absurd rfl hlength
  | case5 => rfl

/-- No bits are left over of what came from octets. -/
theorem spareBits_sextets (xs : List Nat) : spareBits (sextets xs) = 0 := by
  induction xs using sextets.induct with
  | case1 x y z rest ih => exact ih
  | case2 x y => exact Nat.mul_mod_left _ _
  | case3 x => exact Nat.mul_mod_left _ _
  | case4 => rfl

theorem sextets_lt {xs : List Nat}
    (h : ∀ x ∈ xs, x < 256) :
    ∀ v ∈ sextets xs, v < 64 := by
  induction xs using sextets.induct with
  | case1 x y z rest ih =>
      simp only [List.forall_mem_cons] at h
      obtain ⟨hx, hy, hz, hrest⟩ := h
      simp only [sextets, List.forall_mem_cons]
      exact ⟨by omega, by omega, by omega, by omega, ih hrest⟩
  | case2 x y =>
      simp only [List.forall_mem_cons] at h
      simp only [sextets, List.forall_mem_cons]
      exact ⟨by omega, by omega, by omega, by simp⟩
  | case3 x =>
      simp only [List.forall_mem_cons] at h
      simp only [sextets, List.forall_mem_cons]
      exact ⟨by omega, by omega, by simp⟩
  | case4 => simp [sextets]

theorem octets_lt {xs : List Nat}
    (h : ∀ v ∈ xs, v < 64) :
    ∀ x ∈ octets xs, x < 256 := by
  induction xs using octets.induct with
  | case1 a b c d rest ih =>
      simp only [List.forall_mem_cons] at h
      obtain ⟨ha, hb, hc, hd, hrest⟩ := h
      simp only [octets, List.forall_mem_cons]
      exact ⟨by omega, by omega, by omega, ih hrest⟩
  | case2 a b c =>
      simp only [List.forall_mem_cons] at h
      simp only [octets, List.forall_mem_cons]
      exact ⟨by omega, by omega, by simp⟩
  | case3 a b =>
      simp only [List.forall_mem_cons] at h
      simp only [octets, List.forall_mem_cons]
      exact ⟨by omega, by simp⟩
  | case4 a => simp [octets]
  | case5 => simp [octets]

/-- How many sextets there are of a number of octets. -/
theorem length_sextets (xs : List Nat) :
    (sextets xs).length = (xs.length * 4 + 2) / 3 := by
  induction xs using sextets.induct with
  | case1 x y z rest ih =>
      simp only [sextets, List.length_cons, ih]
      omega
  | case2 x y => simp [sextets]
  | case3 x => simp [sextets]
  | case4 => rfl

end Regrouping

end Kernel
end Rttx
