import Mathlib.Order.Bounds.Basic

/-!
# Kernel: writes on their way to registers

Several tasks hold writes that they still have to carry out, each write naming
the register it is for.  The writes are listed in the order in which they were
decided.  What a register settles at is the last value on its way to it, or what
it holds if there is none.

The second part is about the least nonzero number of a list.

**Results.**
* `settles_carry`: carrying out a write keeps what every register settles at,
  unless an older write to the same register is overtaken.
* `settles_of_agree`: new writes that agree on a register's value decide it.
* `leastNonzero_eq_some_iff`: what the search for the least nonzero number finds.
-/

namespace Rttx
namespace Kernel

universe u v

section Writes

variable {κ : Type u} {ν : Type v} [DecidableEq κ]

/-- What the register `k` holds when the writes have been carried out. -/
def settles (writes : List (κ × ν)) (k : κ) (v : ν) : ν :=
  writes.foldl (fun v w => if w.1 = k then w.2 else v) v

@[simp] theorem settles_nil (k : κ) (v : ν) : settles [] k v = v :=
  rfl

theorem settles_append (writes more : List (κ × ν)) (k : κ) (v : ν) :
    settles (writes ++ more) k v = settles more k (settles writes k v) :=
  List.foldl_append

theorem settles_cons (w : κ × ν) (writes : List (κ × ν)) (k : κ) (v : ν) :
    settles (w :: writes) k v = settles writes k (if w.1 = k then w.2 else v) :=
  rfl

/-- Writes to other registers do not matter. -/
theorem settles_of_not_mem {writes : List (κ × ν)} {k : κ}
    (h : ∀ w ∈ writes, w.1 ≠ k)
    (v : ν) :
    settles writes k v = v := by
  induction writes with
  | nil => rfl
  | cons w rest ih =>
      rw [settles_cons, if_neg (h w List.mem_cons_self)]
      exact ih (fun w' hw' => h w' (List.mem_cons_of_mem _ hw'))

/-- A write is carried out that no older one to the same register precedes. -/
theorem settles_carry {older newer : List (κ × ν)} {w : κ × ν}
    (h : ∀ w' ∈ older, w'.1 ≠ w.1)
    (k : κ)
    (v : ν) :
    settles (older ++ newer) k (if w.1 = k then w.2 else v) =
      settles (older ++ w :: newer) k v := by
  rw [settles_append, settles_append, settles_cons]
  by_cases hk : w.1 = k
  · have hnone : ∀ w' ∈ older, w'.1 ≠ k := fun w' hw' => hk ▸ h w' hw'
    rw [settles_of_not_mem hnone, settles_of_not_mem hnone]
  · rw [if_neg hk, if_neg hk]

/-- Writes that agree on the value of a register, at least one of them to it. -/
theorem settles_of_agree {writes : List (κ × ν)} {k : κ} {x : ν}
    (hmem : (k, x) ∈ writes)
    (hagree : ∀ y, (k, y) ∈ writes → y = x)
    (v : ν) :
    settles writes k v = x := by
  induction writes generalizing v with
  | nil => cases hmem
  | cons w rest ih =>
      obtain ⟨j, y⟩ := w
      have hrest : ∀ y, (k, y) ∈ rest → y = x :=
        fun y hy => hagree y (List.mem_cons_of_mem _ hy)
      rw [settles_cons]
      by_cases hin : (k, x) ∈ rest
      · exact ih hin hrest _
      · have hnot : ∀ w ∈ rest, w.1 ≠ k := by
          rintro ⟨i, z⟩ hw heq
          simp only at heq
          subst heq
          exact hin (hrest z hw ▸ hw)
        have hhead : (k, x) = (j, y) := (List.mem_cons.mp hmem).resolve_right hin
        obtain ⟨rfl, rfl⟩ := Prod.mk.inj hhead
        rw [settles_of_not_mem hnot]
        exact if_pos rfl

end Writes

section Least

/-- The lesser of two numbers, zero and a missing number apart. -/
def takeMin (m : Option Nat) (x : Nat) : Option Nat :=
  if 0 < x then some (m.elim x (fun m => min m x)) else m

def leastNonzero (xs : List Nat) : Option Nat :=
  xs.foldl takeMin none

/-- The search from a number found before. -/
theorem foldl_takeMin_some (xs : List Nat) (m : Nat) :
    ∃ n, xs.foldl takeMin (some m) = some n ∧
      IsLeast {x | x = m ∨ (x ∈ xs ∧ 0 < x)} n := by
  induction xs generalizing m with
  | nil =>
      refine ⟨m, rfl, Or.inl rfl, ?_⟩
      rintro x (rfl | ⟨hx, _⟩)
      · exact Nat.le_refl _
      · cases hx
  | cons y rest ih =>
      by_cases hy : 0 < y
      · obtain ⟨n, hn, hmem, hle⟩ := ih (min m y)
        refine ⟨n, ?_, ?_, ?_⟩
        · simpa [takeMin, hy] using hn
        · rcases hmem with rfl | ⟨hin, hpos⟩
          · rcases Nat.le_total m y with h | h
            · exact Or.inl (Nat.min_eq_left h)
            · exact Or.inr ⟨by simp [Nat.min_eq_right h], by rw [Nat.min_eq_right h]; exact hy⟩
          · exact Or.inr ⟨List.mem_cons_of_mem _ hin, hpos⟩
        · have hfirst : n ≤ min m y := hle (Or.inl rfl)
          rintro x (rfl | ⟨hx, hpos⟩)
          · omega
          · rcases List.mem_cons.mp hx with rfl | hin
            · omega
            · exact hle (Or.inr ⟨hin, hpos⟩)
      · obtain ⟨n, hn, hmem, hle⟩ := ih m
        refine ⟨n, ?_, ?_, ?_⟩
        · simpa [takeMin, hy] using hn
        · rcases hmem with rfl | ⟨hin, hpos⟩
          · exact Or.inl rfl
          · exact Or.inr ⟨List.mem_cons_of_mem _ hin, hpos⟩
        · rintro x (rfl | ⟨hx, hpos⟩)
          · exact hle (Or.inl rfl)
          · rcases List.mem_cons.mp hx with rfl | hin
            · exact absurd hpos hy
            · exact hle (Or.inr ⟨hin, hpos⟩)

/-- The least nonzero number is found, if there is one. -/
theorem leastNonzero_eq_some_iff {xs : List Nat} {n : Nat} :
    leastNonzero xs = some n ↔ IsLeast {x | x ∈ xs ∧ 0 < x} n := by
  have hcases : (leastNonzero xs = none ∧ ∀ x ∈ xs, ¬ 0 < x) ∨
      ∃ n, leastNonzero xs = some n ∧ IsLeast {x | x ∈ xs ∧ 0 < x} n := by
    unfold leastNonzero
    induction xs with
    | nil => exact Or.inl ⟨rfl, fun x hx => nomatch hx⟩
    | cons y rest ih =>
        by_cases hy : 0 < y
        · obtain ⟨n, hn, hmem, hle⟩ := foldl_takeMin_some rest y
          refine Or.inr ⟨n, by simpa [takeMin, hy] using hn, ?_, ?_⟩
          · rcases hmem with rfl | ⟨hin, hpos⟩
            · exact ⟨List.mem_cons_self, hy⟩
            · exact ⟨List.mem_cons_of_mem _ hin, hpos⟩
          · rintro x ⟨hx, hpos⟩
            rcases List.mem_cons.mp hx with rfl | hin
            · exact hle (Or.inl rfl)
            · exact hle (Or.inr ⟨hin, hpos⟩)
        · have hset : {x | x ∈ y :: rest ∧ 0 < x} = {x | x ∈ rest ∧ 0 < x} := by
            ext x
            constructor
            · rintro ⟨hx, hpos⟩
              rcases List.mem_cons.mp hx with rfl | hin
              · exact absurd hpos hy
              · exact ⟨hin, hpos⟩
            · rintro ⟨hx, hpos⟩
              exact ⟨List.mem_cons_of_mem _ hx, hpos⟩
          rw [hset]
          rcases ih with ⟨hnone, hall⟩ | hsome
          · refine Or.inl ⟨by simpa [takeMin, hy] using hnone, ?_⟩
            intro x hx
            rcases List.mem_cons.mp hx with rfl | hin
            · exact hy
            · exact hall x hin
          · exact Or.inr (by simpa [takeMin, hy] using hsome)
  constructor
  · intro h
    rcases hcases with ⟨hnone, _⟩ | ⟨n', hsome, hleast⟩
    · rw [hnone] at h
      cases h
    · rw [h, Option.some.injEq] at hsome
      exact hsome ▸ hleast
  · intro h
    rcases hcases with ⟨_, hall⟩ | ⟨n', hsome, hleast⟩
    · exact absurd h.1.2 (hall n h.1.1)
    · rw [hsome, hleast.unique h]

end Least

end Kernel
end Rttx
