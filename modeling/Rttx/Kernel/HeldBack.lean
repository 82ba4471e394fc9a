import Mathlib.Tactic.Common

/-!
# Kernel: holding the start of a character back

A stream of items is cut anywhere and fed part by part.  The feeder passes on
what has come but for a tail, which it holds until more comes.

The tail here is the start of a character.  A character is a leading item and
items that follow, and the leading item tells how many there are; so the feeder
looks back for a leading item, and not further than the longest start.

**Results.**
* `flatten_passOnAll`: nothing is lost, added or reordered.
* `passOnAll_characters`: of a stream of characters whole ones are passed on
  each time, and in the end all of them.
-/

namespace Rttx
namespace Kernel

universe u v

section Feeding

variable {α : Type u}
variable (tailLen : List α → Nat)

/-- What is passed on of one part, and what is held after it. -/
def passOn (held data : List α) : List α × List α :=
  let joined := held ++ data
  let wholeLen := joined.length - tailLen joined
  (joined.take wholeLen, joined.drop wholeLen)

/-- What is passed on of each part, and what is held in the end. -/
def passOnAll : List α → List (List α) → List (List α) × List α
  | held, [] => ([], held)
  | held, data :: rest =>
      let (passed, held) := passOn tailLen held data
      let (more, held) := passOnAll held rest
      (passed :: more, held)

variable {tailLen}

theorem passOn_append (held data : List α) :
    (passOn tailLen held data).1 ++ (passOn tailLen held data).2 = held ++ data :=
  List.take_append_drop _ _

/-- **Nothing is lost, added or reordered.** -/
theorem flatten_passOnAll (held : List α) (parts : List (List α)) :
    (passOnAll tailLen held parts).1.flatten ++ (passOnAll tailLen held parts).2 =
      held ++ parts.flatten := by
  induction parts generalizing held with
  | nil => simp [passOnAll]
  | cons data rest ih =>
      have hrest := ih (passOn tailLen held data).2
      simp only [passOnAll, List.flatten_cons, List.append_assoc]
      rw [hrest, ← List.append_assoc, passOn_append, List.append_assoc]

/-- What is held is never longer than the longest tail. -/
theorem length_held_le {bound : Nat}
    (htail : ∀ data, tailLen data ≤ bound)
    {held : List α}
    (hheld : held.length ≤ bound)
    (parts : List (List α)) :
    (passOnAll tailLen held parts).2.length ≤ bound := by
  induction parts generalizing held with
  | nil => exact hheld
  | cons data rest ih =>
      refine ih ?_
      have hlen := htail (held ++ data)
      rw [List.length_drop]
      omega

end Feeding

section Characters

variable {α : Type u}
variable (follows : α → Bool)
variable (size : α → Nat)

/-- A character: of each number of items short of it the leading item tells
that more must follow. -/
def IsCharacter (c : List α) : Prop :=
  ∃ lead others, c = lead :: others ∧ follows lead = false ∧ (∀ x ∈ others, follows x = true) ∧
    ∀ k, 0 < k → (k < size lead ↔ k < c.length)

/-- The scan over the last items, newest first; `back` is the distance from the
end. -/
def openTailFrom : Nat → List α → Nat
  | _, [] => 0
  | back, x :: rest =>
      if follows x then openTailFrom (back + 1) rest
      else if back < size x then back
      else 0

/-- Length of the start of a character at the end, looking back `limit` items. -/
def openTailLen (limit : Nat) (data : List α) : Nat :=
  openTailFrom follows size 1 (data.reverse.take limit)

variable {follows} {size}

/-- The scan passes over the items that follow. -/
theorem openTailFrom_append {others : List α}
    (h : ∀ x ∈ others, follows x = true)
    (back : Nat)
    (rest : List α) :
    openTailFrom follows size back (others ++ rest) =
      openTailFrom follows size (back + others.length) rest := by
  induction others generalizing back with
  | nil => rfl
  | cons x others ih =>
      rw [List.forall_mem_cons] at h
      rw [List.cons_append, openTailFrom, if_pos h.1, ih h.2, List.length_cons]
      congr 1
      omega

/-- What the scan finds at the end of a leading item and some that follow. -/
theorem openTailLen_lead {lead : α} {others : List α} {limit : Nat}
    (hlead : follows lead = false)
    (hothers : ∀ x ∈ others, follows x = true)
    (before : List α) :
    openTailLen follows size limit (before ++ lead :: others) =
      if others.length < limit ∧ others.length + 1 < size lead then others.length + 1 else 0 := by
  have hreverse : (before ++ lead :: others).reverse =
      others.reverse ++ (lead :: before.reverse) := by
    simp
  have hfollow : ∀ x ∈ others.reverse, follows x = true := fun x hx =>
    hothers x (List.mem_reverse.mp hx)
  rw [openTailLen, hreverse]
  by_cases hroom : others.length < limit
  · obtain ⟨n, rfl⟩ : ∃ n, limit = others.length + (n + 1) := ⟨limit - others.length - 1, by omega⟩
    have htake : (others.reverse ++ (lead :: before.reverse)).take (others.length + (n + 1)) =
        others.reverse ++ (lead :: before.reverse.take n) := by
      rw [← List.length_reverse, List.take_length_add_append, List.take_succ_cons]
    rw [htake, openTailFrom_append hfollow, openTailFrom, hlead, List.length_reverse]
    simp only [Bool.false_eq_true, if_false, hroom, true_and]
    rw [Nat.add_comm 1]
  · have htake : (others.reverse ++ (lead :: before.reverse)).take limit =
        others.reverse.take limit ++ [] := by
      rw [List.take_append_of_le_length (by rw [List.length_reverse]; omega), List.append_nil]
    have hsome : ∀ x ∈ others.reverse.take limit, follows x = true := fun x hx =>
      hfollow x (List.mem_of_mem_take hx)
    rw [htake, openTailFrom_append hsome, if_neg (fun h => hroom h.1), openTailFrom]

/-- After whole characters there is no start of one. -/
theorem openTailLen_whole {c before : List α}
    (hc : IsCharacter follows size c)
    (limit : Nat) :
    openTailLen follows size limit (before ++ c) = 0 := by
  obtain ⟨lead, others, rfl, hlead, hothers, hsize⟩ := hc
  rw [openTailLen_lead hlead hothers, if_neg]
  rintro ⟨-, hless⟩
  have hshort := (hsize _ (Nat.succ_pos _)).mp hless
  rw [List.length_cons] at hshort
  omega

/-- The start of a character is found. -/
theorem openTailLen_start {c start before : List α} {limit : Nat}
    (hc : IsCharacter follows size c)
    (hlimit : c.length ≤ limit + 1)
    (hstart : start <+: c)
    (hshort : start.length < c.length)
    (hne : start ≠ []) :
    openTailLen follows size limit (before ++ start) = start.length := by
  obtain ⟨lead, others, rfl, hlead, hothers, hsize⟩ := hc
  obtain ⟨x, some, rfl⟩ := List.exists_cons_of_ne_nil hne
  obtain ⟨rfl, hinit⟩ := List.cons_prefix_cons.mp hstart
  have hsome : ∀ y ∈ some, follows y = true := fun y hy => hothers y (hinit.subset hy)
  simp only [List.length_cons] at hshort hlimit
  have hmore : some.length + 1 < size x :=
    (hsize _ (Nat.succ_pos _)).mpr (by simpa using hshort)
  rw [openTailLen_lead hlead hsome, if_pos ⟨by omega, hmore⟩, List.length_cons]

end Characters

section Streams

variable {α : Type u} {γ : Type v}
variable {encode : γ → List α}

/-- The beginning of a stream of characters: whole ones, and a start that is
short of the next. -/
theorem prefix_characters {cs : List γ} {front future : List α}
    (h : front ++ future = cs.flatMap encode) :
    ∃ cs₁ cs₂ start, cs = cs₁ ++ cs₂ ∧ front = cs₁.flatMap encode ++ start ∧
      (start = [] ∨ ∃ c ∈ cs₂.head?, start <+: encode c ∧ start.length < (encode c).length) := by
  induction cs generalizing front with
  | nil =>
      simp only [List.flatMap_nil, List.append_eq_nil_iff] at h
      exact ⟨[], [], [], rfl, h.1, Or.inl rfl⟩
  | cons c cs ih =>
      rw [List.flatMap_cons] at h
      rcases List.append_eq_append_iff.mp h with ⟨part, hpart, -⟩ | ⟨part, rfl, hrest⟩
      · by_cases hnil : part = []
        · subst hnil
          exact ⟨[c], cs, [], rfl, by simpa using hpart.symm, Or.inl rfl⟩
        · have hpos := List.length_pos_iff.mpr hnil
          refine ⟨[], c :: cs, front, rfl, rfl, Or.inr ⟨c, rfl, ⟨part, hpart.symm⟩, ?_⟩⟩
          rw [hpart, List.length_append]
          omega
      · obtain ⟨cs₁, cs₂, start, rfl, rfl, hstart⟩ := ih hrest.symm
        exact ⟨c :: cs₁, cs₂, start, rfl, by simp, hstart⟩

variable {follows : α → Bool} {size : α → Nat} {limit : Nat}

theorem encode_ne_nil
    (hencode : ∀ c, IsCharacter follows size (encode c) ∧ (encode c).length ≤ limit + 1)
    (c : γ) :
    encode c ≠ [] := by
  obtain ⟨⟨lead, others, hc, -⟩, -⟩ := hencode c
  rw [hc]
  exact List.cons_ne_nil _ _

/-- After characters there is no start of one. -/
theorem openTailLen_characters
    (hencode : ∀ c, IsCharacter follows size (encode c) ∧ (encode c).length ≤ limit + 1)
    (cs : List γ) :
    openTailLen follows size limit (cs.flatMap encode) = 0 := by
  rcases List.eq_nil_or_concat cs with rfl | ⟨init, last, rfl⟩
  · simp [openTailLen, openTailFrom]
  · rw [List.concat_eq_append, List.flatMap_append]
    simpa using openTailLen_whole (hencode last).1 limit

/-- One part of a stream of characters: whole ones are passed on. -/
theorem passOn_characters
    (hencode : ∀ c, IsCharacter follows size (encode c) ∧ (encode c).length ≤ limit + 1)
    {cs : List γ} {held data future : List α}
    (h : held ++ data ++ future = cs.flatMap encode) :
    ∃ cs₁ cs₂, cs = cs₁ ++ cs₂ ∧
      (passOn (openTailLen follows size limit) held data).1 = cs₁.flatMap encode ∧
      (passOn (openTailLen follows size limit) held data).2 ++ future = cs₂.flatMap encode := by
  obtain ⟨cs₁, cs₂, start, rfl, hfront, hstart⟩ := prefix_characters h
  have htail : openTailLen follows size limit (held ++ data) = start.length := by
    rw [hfront]
    by_cases hnil : start = []
    · rw [hnil, List.append_nil]
      exact openTailLen_characters hencode cs₁
    · rcases hstart with hempty | ⟨c, -, hinit, hshort⟩
      · exact absurd hempty hnil
      · exact openTailLen_start (hencode c).1 (hencode c).2 hinit hshort hnil
  have hpassed : (passOn (openTailLen follows size limit) held data).1 = cs₁.flatMap encode := by
    simp only [passOn, htail]
    rw [hfront, List.length_append, Nat.add_sub_cancel, List.take_left]
  refine ⟨cs₁, cs₂, rfl, hpassed, ?_⟩
  have hsplit := @passOn_append _ (openTailLen follows size limit) held data
  rw [hpassed] at hsplit
  rw [← hsplit, List.append_assoc, List.flatMap_append] at h
  exact List.append_cancel_left h

/-- **A stream of characters**: each time whole ones are passed on, and after
the last part all of them. -/
theorem passOnAll_characters
    (hencode : ∀ c, IsCharacter follows size (encode c) ∧ (encode c).length ≤ limit + 1)
    {cs : List γ} {held : List α} {parts : List (List α)}
    (hparts : held = [] ∨ parts ≠ [])
    (h : held ++ parts.flatten = cs.flatMap encode) :
    ∃ groups : List (List γ), groups.flatten = cs ∧
      (passOnAll (openTailLen follows size limit) held parts).1 =
        groups.map (fun group => group.flatMap encode) ∧
      (passOnAll (openTailLen follows size limit) held parts).2 = [] := by
  have hnone : ∀ cs : List γ, cs.flatMap encode = [] → cs = [] := by
    intro cs hcs
    cases cs with
    | nil => rfl
    | cons c cs =>
        rw [List.flatMap_cons, List.append_eq_nil_iff] at hcs
        exact absurd hcs.1 (encode_ne_nil hencode c)
  induction parts generalizing held cs with
  | nil =>
      obtain rfl : held = [] := hparts.resolve_right (fun hne => hne rfl)
      obtain rfl := hnone cs h.symm
      exact ⟨[], rfl, rfl, rfl⟩
  | cons data rest ih =>
      rw [List.flatten_cons, ← List.append_assoc] at h
      obtain ⟨cs₁, cs₂, rfl, hpassed, hleft⟩ := passOn_characters hencode h
      by_cases hrest : rest = []
      · -- All characters have come, so there is no start of one.
        subst hrest
        rw [List.flatten_nil, List.append_nil] at h hleft
        have hempty : (passOn (openTailLen follows size limit) held data).2 = [] := by
          simp only [passOn, h, openTailLen_characters hencode, Nat.sub_zero, List.drop_length]
        obtain rfl := hnone cs₂ (hleft.symm.trans hempty)
        refine ⟨[cs₁], by simp, ?_, hempty⟩
        simp only [passOnAll, hpassed, List.map_cons, List.map_nil]
      · obtain ⟨groups, rfl, hmore, hend⟩ := ih (Or.inr hrest) hleft
        refine ⟨cs₁ :: groups, rfl, ?_, hend⟩
        simp only [passOnAll, hpassed, hmore, List.map_cons]

end Streams

end Kernel
end Rttx
