import Mathlib.Data.List.Basic

/-!
# Kernel: ring buffers

Entries are numbered, and entry `p` goes to slot `p % n` of a ring of `n` slots.  A
reader that knows how many entries there are reads the slots from the oldest entry on.

What a slot holds is up to the writers; the reader finds, for each of the last `n`
numbers, what the slot of that number holds.

**Results.**
* `readSlots_eq`: what the reader finds, number by number.
* `readSlots_of_holdsLast`: of a ring that holds the end of a log it reads that end.
* `readSlots_overwritten`: when the next entry is in its slot and not yet counted, the
  oldest one is lost, and what is in its place comes first.
-/

namespace Rttx
namespace Kernel

universe u

section Reading

variable {α : Type u}

/-- The slots in the order of their entries when `pos` entries have been counted. -/
def ringOrder (n pos : Nat) : List Nat :=
  if pos ≤ n then
    List.range pos
  else
    (List.range n).map fun i => (pos % n + i) % n

/-- Read the slots that can be read. -/
def readSlots (slot : Nat → Option α) (n pos : Nat) : List α :=
  (ringOrder n pos).filterMap slot

variable {slot : Nat → Option α} {n pos : Nat}

/-- From the oldest entry on, whether the ring has been filled or not. -/
theorem ringOrder_eq
    (n pos : Nat) :
    ringOrder n pos = (List.range (min pos n)).map fun i => (pos - n + i) % n := by
  rw [ringOrder]
  split
  · rename_i h
    rw [Nat.min_eq_left h]
    refine (List.map_id _).symm.trans (List.map_congr_left fun i hi => ?_)
    rw [List.mem_range] at hi
    rw [Nat.sub_eq_zero_of_le h, Nat.zero_add, Nat.mod_eq_of_lt (by omega)]
    rfl
  · rename_i h
    rw [Nat.min_eq_right (by omega)]
    refine List.map_congr_left fun i _ => ?_
    have hpos : pos % n = (pos - n) % n := by
      rw [← Nat.mod_eq_sub_mod (by omega)]
    rw [hpos, Nat.mod_add_mod]

/-- **The reader finds the last `n` numbers**, each as its slot has it. -/
theorem readSlots_eq {entry : Nat → Option α}
    (h : ∀ p, p < pos → pos ≤ p + n → slot (p % n) = entry p) :
    readSlots slot n pos = (List.range (min pos n)).filterMap fun i => entry (pos - n + i) := by
  rw [readSlots, ringOrder_eq, List.filterMap_map]
  refine List.filterMap_congr fun i hi => ?_
  rw [List.mem_range] at hi
  exact h _ (by omega) (by omega)

/-- Consecutive numbers of a log are a piece of it. -/
theorem filterMap_getElem?_range
    (log : List α) (start count : Nat) :
    ((List.range count).filterMap fun i => log[start + i]?) = (log.drop start).take count := by
  induction count generalizing start with
  | zero => rw [List.take_zero]; rfl
  | succ count ih =>
      have hshift : ∀ i, log[start + (i + 1)]? = log[start + 1 + i]? := fun i => by
        congr 1
        omega
      rw [List.range_succ_eq_map, List.filterMap_cons, List.filterMap_map, Nat.add_zero]
      simp only [Function.comp_def, Nat.succ_eq_add_one, hshift, ih (start + 1)]
      cases hentry : log[start]? with
      | none =>
          rw [List.getElem?_eq_none_iff] at hentry
          rw [List.drop_eq_nil_of_le (by omega), List.drop_eq_nil_of_le hentry]
          simp
      | some entry =>
          obtain ⟨hlt, rfl⟩ := List.getElem?_eq_some_iff.mp hentry
          rw [List.drop_eq_getElem_cons hlt, List.take_succ_cons]

end Reading

section Logs

variable {α : Type u}

/-- The slots hold the last `n` entries of a log. -/
def HoldsLast (n : Nat) (slot : Nat → Option α) (log : List α) : Prop :=
  ∀ p, p < log.length → log.length ≤ p + n → slot (p % n) = log[p]?

variable {n : Nat} {slot slot' : Nat → Option α} {log : List α}

/-- Entries that share a slot are at least a turn apart. -/
theorem eq_of_slot_eq {p q : Nat}
    (hslot : p % n = q % n)
    (hle : p ≤ q)
    (hlt : q < p + n) :
    p = q := by
  have hmod := (Nat.sub_mod_eq_zero_of_mod_eq hslot.symm)
  rw [Nat.mod_eq_of_lt (by omega)] at hmod
  omega

/-- The next entry in its slot is held as the last one. -/
theorem HoldsLast.concat {entry : α}
    (h : HoldsLast n slot log)
    (hentry : slot' (log.length % n) = some entry)
    (hframe : ∀ i, i ≠ log.length % n → slot' i = slot i) :
    HoldsLast n slot' (log ++ [entry]) := by
  intro p hp hlast
  rw [List.length_append, List.length_singleton] at hp hlast
  by_cases hnew : p = log.length
  · rw [hnew, hentry, List.getElem?_append_right (Nat.le_refl _), Nat.sub_self]
    rfl
  · have hslot : p % n ≠ log.length % n := fun hslot =>
      hnew (eq_of_slot_eq hslot (by omega) (by omega))
    rw [hframe _ hslot, h p (by omega) (by omega), List.getElem?_append_left (by omega)]

/-- **The end of the log is read.** -/
theorem readSlots_of_holdsLast
    (h : HoldsLast n slot log) :
    readSlots slot n log.length = log.drop (log.length - n) := by
  rw [readSlots_eq h, filterMap_getElem?_range, List.take_of_length_le]
  rw [List.length_drop]
  omega

/-- **An entry that is not yet counted.**  As long as the ring is not full it is not
read; then it comes first, in place of the oldest one. -/
theorem readSlots_overwritten {entry : Option α}
    (hn : 0 < n)
    (h : HoldsLast n slot log)
    (hentry : slot' (log.length % n) = entry)
    (hframe : ∀ i, i ≠ log.length % n → slot' i = slot i) :
    readSlots slot' n log.length =
      if log.length < n then log
      else entry.toList ++ log.drop (log.length - n + 1) := by
  have hslots : ∀ p, p < log.length → log.length ≤ p + n →
      slot' (p % n) = if p + n = log.length then entry else log[p]? := by
    intro p hp hlast
    split
    · rename_i hold
      rw [← hold, Nat.add_mod_right] at hentry
      exact hentry
    · rename_i hold
      have hslot : p % n ≠ log.length % n := fun hslot =>
        absurd (eq_of_slot_eq hslot (by omega) (by omega)) (by omega)
      rw [hframe _ hslot, h p hp hlast]
  rw [readSlots_eq hslots]
  by_cases hfull : log.length < n
  · have hrange : ∀ i ∈ List.range log.length,
        (if log.length - n + i + n = log.length then entry else log[log.length - n + i]?) =
          log[0 + i]? := by
      intro i hi
      rw [if_neg (by omega), Nat.sub_eq_zero_of_le (Nat.le_of_lt hfull)]
    rw [if_pos hfull, Nat.min_eq_left (Nat.le_of_lt hfull), List.filterMap_congr hrange,
      filterMap_getElem?_range, List.drop_zero, List.take_length]
  · obtain ⟨k, rfl⟩ : ∃ k, n = k + 1 := ⟨n - 1, by omega⟩
    have hfirst : log.length - (k + 1) + 0 + (k + 1) = log.length := by omega
    have hrange : ∀ i ∈ List.range k,
        (if log.length - (k + 1) + (i + 1) + (k + 1) = log.length then entry
          else log[log.length - (k + 1) + (i + 1)]?) = log[log.length - (k + 1) + 1 + i]? := by
      intro i _
      rw [if_neg (by omega)]
      congr 1
      omega
    have hrest : (log.drop (log.length - (k + 1) + 1)).length ≤ k := by
      rw [List.length_drop]
      omega
    rw [if_neg hfull, Nat.min_eq_right (by omega), List.range_succ_eq_map, List.filterMap_cons,
      List.filterMap_map, if_pos hfirst, Function.comp_def]
    simp only [Nat.succ_eq_add_one]
    rw [List.filterMap_congr hrange, filterMap_getElem?_range, List.take_of_length_le hrest]
    cases entry <;> rfl

end Logs

end Kernel
end Rttx
