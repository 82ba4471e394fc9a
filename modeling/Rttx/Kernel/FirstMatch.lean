import Mathlib.Data.List.Basic
import Mathlib.Data.List.Perm.Basic
import Mathlib.Data.List.Pairwise

/-!
# Kernel: updating the first match in a list

A search that returns a reference to the first element with a property, and a
change made through it.  Up to the order the list is the changed element and what
is left when the first match is taken out.

**Results.**
* `forall_updateFirst`: a property of all elements is kept if the change keeps it.
* `pairwise_updateFirst_iff`: a symmetric relation holds between all elements if and
  only if it holds between the others, and between them and the changed element.
* `map_updateFirst`: what the change does not touch.
-/

namespace Rttx
namespace Kernel

universe u v

section FirstMatch

variable {α : Type u} {β : Type v}
variable {p : α → Bool} {f : α → α} {l : List α}

/-- Change the first element that satisfies `p`. -/
def updateFirst (p : α → Bool) (f : α → α) : List α → List α
  | [] => []
  | a :: rest => if p a then f a :: rest else a :: updateFirst p f rest

theorem updateFirst_of_find?_none
    (h : l.find? p = none) :
    updateFirst p f l = l := by
  induction l with
  | nil => rfl
  | cons a rest ih =>
      have ha : p a = false := by simpa using List.find?_eq_none.mp h a List.mem_cons_self
      rw [List.find?_cons_of_neg (by simp [ha])] at h
      simp [updateFirst, ha, ih h]

/-- The first match and the others. -/
theorem perm_of_find? {a : α}
    (h : l.find? p = some a) :
    l.Perm (a :: l.eraseP p) := by
  induction l with
  | nil => simp at h
  | cons b rest ih =>
      by_cases hb : p b
      · rw [List.find?_cons_of_pos hb, Option.some.injEq] at h
        rw [List.eraseP_cons_of_pos hb, h]
      · rw [List.find?_cons_of_neg hb] at h
        rw [List.eraseP_cons_of_neg hb]
        exact ((ih h).cons b).trans (List.Perm.swap a b _)

/-- The changed element and the others. -/
theorem perm_updateFirst {a : α}
    (h : l.find? p = some a) :
    (updateFirst p f l).Perm (f a :: l.eraseP p) := by
  induction l with
  | nil => simp at h
  | cons b rest ih =>
      by_cases hb : p b
      · rw [List.find?_cons_of_pos hb, Option.some.injEq] at h
        rw [updateFirst, if_pos hb, List.eraseP_cons_of_pos hb, h]
      · rw [List.find?_cons_of_neg hb] at h
        rw [updateFirst, if_neg hb, List.eraseP_cons_of_neg hb]
        exact ((ih h).cons b).trans (List.Perm.swap (f a) b _)

theorem forall_updateFirst {P : α → Prop}
    (hl : ∀ a ∈ l, P a)
    (hf : ∀ a, l.find? p = some a → P a → P (f a)) :
    ∀ a ∈ updateFirst p f l, P a := by
  cases hfind : l.find? p with
  | none => rwa [updateFirst_of_find?_none hfind]
  | some found =>
      intro a ha
      rcases List.mem_cons.mp ((perm_updateFirst hfind).mem_iff.mp ha) with rfl | ha
      · exact hf found hfind (hl found (List.mem_of_find?_eq_some hfind))
      · exact hl a (List.mem_of_mem_eraseP ha)

/-- **A symmetric relation after a change.** -/
theorem pairwise_updateFirst_iff {R : α → α → Prop} {a : α}
    (hsymm : ∀ x y, R x y → R y x)
    (h : l.find? p = some a) :
    (updateFirst p f l).Pairwise R ↔
      (∀ b ∈ l.eraseP p, R (f a) b) ∧ (l.eraseP p).Pairwise R := by
  rw [(perm_updateFirst h).pairwise_iff (fun {x y} => hsymm x y), List.pairwise_cons]

/-- A change keeps a symmetric relation if it keeps it with the other elements. -/
theorem pairwise_updateFirst {R : α → α → Prop}
    (hsymm : ∀ x y, R x y → R y x)
    (hl : l.Pairwise R)
    (hf : ∀ a, l.find? p = some a → ∀ b ∈ l.eraseP p, R a b → R (f a) b) :
    (updateFirst p f l).Pairwise R := by
  cases hfind : l.find? p with
  | none => rwa [updateFirst_of_find?_none hfind]
  | some a =>
      obtain ⟨hothers, hrest⟩ := List.pairwise_cons.mp
        (((perm_of_find? hfind).pairwise_iff (fun {x y} => hsymm x y)).mp hl)
      rw [pairwise_updateFirst_iff hsymm hfind]
      exact ⟨fun b hb => hf a hfind b hb (hothers b hb), hrest⟩

/-- The changed list, element by element. -/
theorem forall₂_updateFirst {R : α → α → Prop}
    (hrefl : ∀ a, R a a)
    (hf : ∀ a, l.find? p = some a → R a (f a)) :
    List.Forall₂ R l (updateFirst p f l) := by
  induction l with
  | nil => exact List.Forall₂.nil
  | cons a rest ih =>
      by_cases ha : p a
      · rw [updateFirst, if_pos ha]
        exact List.Forall₂.cons (hf a (List.find?_cons_of_pos ha))
          (List.forall₂_same.mpr (fun b _ => hrefl b))
      · rw [updateFirst, if_neg ha]
        refine List.Forall₂.cons (hrefl a) (ih ?_)
        intro b hb
        exact hf b (by rwa [List.find?_cons_of_neg ha])

/-- What another search, which does not see the change, finds afterwards. -/
theorem find?_updateFirst_cases {q : α → Bool} {b : α}
    (hq : ∀ a, l.find? p = some a → q (f a) = q a)
    (h : (updateFirst p f l).find? q = some b) :
    ∃ a, l.find? q = some a ∧
      (b = a ∧ l.find? p ≠ some a ∨ b = f a ∧ l.find? p = some a) := by
  induction l with
  | nil => simp [updateFirst] at h
  | cons head rest ih =>
      by_cases hp : p head
      · have hfirst : (head :: rest).find? p = some head := List.find?_cons_of_pos hp
        rw [updateFirst, if_pos hp] at h
        by_cases hqh : q head
        · rw [List.find?_cons_of_pos (by rw [hq head hfirst]; exact hqh), Option.some.injEq] at h
          exact ⟨head, List.find?_cons_of_pos hqh, Or.inr ⟨h.symm, hfirst⟩⟩
        · rw [List.find?_cons_of_neg (by rw [hq head hfirst]; exact hqh)] at h
          refine ⟨b, by rwa [List.find?_cons_of_neg hqh], Or.inl ⟨rfl, ?_⟩⟩
          rw [hfirst]
          rintro heq
          cases heq
          exact hqh (List.find?_some h)
      · have hskip : (head :: rest).find? p = rest.find? p := List.find?_cons_of_neg hp
        rw [updateFirst, if_neg hp] at h
        by_cases hqh : q head
        · rw [List.find?_cons_of_pos hqh, Option.some.injEq] at h
          refine ⟨head, List.find?_cons_of_pos hqh, Or.inl ⟨h.symm, ?_⟩⟩
          intro hfound
          exact hp (List.find?_some hfound)
        · rw [List.find?_cons_of_neg hqh] at h
          obtain ⟨a, ha, hcases⟩ := ih (fun a ha => hq a (by rwa [hskip])) h
          exact ⟨a, by rwa [List.find?_cons_of_neg hqh], by rwa [hskip]⟩

/-- A change that a function does not see. -/
theorem map_updateFirst {g : α → β}
    (h : ∀ a, p a = true → g (f a) = g a) :
    (updateFirst p f l).map g = l.map g := by
  induction l with
  | nil => rfl
  | cons a rest ih =>
      by_cases ha : p a
      · simp [updateFirst, ha, h a ha]
      · simp [updateFirst, ha, ih]

theorem exists_of_forall₂ {R : α → β → Prop} {l : List α} {l' : List β}
    (h : List.Forall₂ R l l') :
    ∀ b ∈ l', ∃ a ∈ l, R a b := by
  induction h with
  | nil => simp
  | cons hab _ ih =>
      intro b hb
      rcases List.mem_cons.mp hb with rfl | hb
      · exact ⟨_, List.mem_cons_self, hab⟩
      · obtain ⟨a, ha, hR⟩ := ih b hb
        exact ⟨a, List.mem_cons_of_mem _ ha, hR⟩

end FirstMatch

end Kernel
end Rttx
