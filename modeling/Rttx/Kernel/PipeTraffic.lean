import Rttx.Kernel.BoundedPipe

/-!
# Kernel: what a bounded pipe carries

The writers of a pipe take turns, and a reader takes what is in the buffer.  The turns that
were asked for, in their order, and what was read so far are the traffic of the pipe.

**Results.**
* `Carries.enqueue`, `Carries.write`, `Carries.release`, `Carries.read`: the data of the
  turns passes the pipe whole, one turn after the other.
* `Carries.taken_isPrefix`: what was read is the beginning of it.
* `Carries.taken_eq`: it is all of it once the pipe is empty and nobody waits.
-/

namespace Rttx
namespace Kernel

universe u v

namespace BoundedPipe

variable {τ : Type u} {α : Type v}

section Traffic

/-- The data of some turns, one after the other. -/
def dataOf (turns : List (τ × List α)) : List α :=
  turns.flatMap Prod.snd

/-- The turns at a pipe as they were asked for, where a part of the holder's is written. -/
def asked (part : List α) : List (τ × List α) → List (τ × List α)
  | [] => []
  | (t, rest) :: waiting => (t, part ++ rest) :: waiting

/-- Of the turns, some are finished, and the others are those at the pipe.  What was read and
what is in the buffer is the data of the finished ones and the part that the holder wrote. -/
def Carries (p : BoundedPipe τ α) (turns : List (τ × List α)) (taken : List α) : Prop :=
  ∃ finished part,
    turns = finished ++ asked part p.writers ∧
    taken ++ p.buffer = dataOf finished ++ part ∧
    (p.writers = [] → part = [])

end Traffic

section Lemmas

@[simp] theorem dataOf_nil : dataOf ([] : List (τ × List α)) = [] := rfl

@[simp] theorem dataOf_append (turns more : List (τ × List α)) :
    dataOf (turns ++ more) = dataOf turns ++ dataOf more :=
  List.flatMap_append

@[simp] theorem dataOf_cons (t : τ) (data : List α) (turns : List (τ × List α)) :
    dataOf ((t, data) :: turns) = data ++ dataOf turns :=
  List.flatMap_cons

theorem asked_nil (writers : List (τ × List α)) :
    asked [] writers = writers := by
  cases writers <;> rfl

theorem asked_append {part : List α} {writers : List (τ × List α)} {turn : τ × List α}
    (h : writers = [] → part = []) :
    asked part (writers ++ [turn]) = asked part writers ++ [turn] := by
  cases writers with
  | nil =>
      rw [h rfl]
      exact asked_nil _
  | cons head waiting => rfl

/-- The part that is written comes first in the data of the turns at the pipe. -/
theorem dataOf_asked {part : List α} {writers : List (τ × List α)}
    (h : writers = [] → part = []) :
    dataOf (asked part writers) = part ++ dataOf writers := by
  cases writers with
  | nil =>
      rw [h rfl]
      rfl
  | cons head waiting =>
      obtain ⟨t, rest⟩ := head
      simp [asked]

end Lemmas

section Steps

variable {p p' : BoundedPipe τ α} {turns : List (τ × List α)} {taken : List α}

theorem carries_empty (capacity : Nat) :
    (empty capacity : BoundedPipe τ α).Carries [] [] :=
  ⟨[], [], rfl, rfl, fun _ => rfl⟩

theorem Carries.enqueue
    (h : p.Carries turns taken)
    (t : τ)
    (data : List α) :
    (p.enqueue t data).Carries (turns ++ [(t, data)]) taken := by
  obtain ⟨finished, part, rfl, hdata, hpart⟩ := h
  refine ⟨finished, part, ?_, hdata, fun hnone => ?_⟩
  · change _ = finished ++ asked part (p.writers ++ [(t, data)])
    rw [asked_append hpart, List.append_assoc]
  · exact absurd hnone (List.append_ne_nil_of_right_ne_nil _ (List.cons_ne_nil _ _))

/-- What the holder writes adds to its part. -/
theorem Carries.write {n : Nat}
    (h : p.Carries turns taken)
    (hw : p.write n = some p') :
    p'.Carries turns taken := by
  obtain ⟨finished, part, hturns, hdata, _⟩ := h
  obtain ⟨t, data, waiting, hwriters, _, hwriters', hbuffer, _⟩ := write_eq_some hw
  refine ⟨finished, part ++ data.take n, ?_, ?_, fun hnone => ?_⟩
  · rw [hturns, hwriters, hwriters']
    simp only [asked, List.append_assoc, List.take_append_drop]
  · rw [hbuffer, ← List.append_assoc, hdata, List.append_assoc]
  · rw [hwriters'] at hnone
    cases hnone

/-- The holder's turn is finished when it leaves. -/
theorem Carries.release {t : τ}
    (h : p.Carries turns taken)
    (hr : p.release = some (t, p')) :
    p'.Carries turns taken := by
  obtain ⟨finished, part, hturns, hdata, _⟩ := h
  obtain ⟨hwriters, hbuffer, _⟩ := release_eq_some hr
  refine ⟨finished ++ [(t, part)], [], ?_, ?_, fun _ => rfl⟩
  · rw [hturns, hwriters, asked_nil, List.append_assoc]
    simp only [asked, List.append_nil, List.singleton_append]
  · rw [hbuffer, hdata]
    simp

theorem read_taken {n : Nat} {data : List α}
    (hr : p.read n = some (data, p')) :
    data = p.buffer.take n := by
  simp only [BoundedPipe.read, Option.ite_none_right_eq_some, Option.some.injEq,
    Prod.mk.injEq] at hr
  exact hr.2.1.symm

theorem Carries.read {n : Nat} {data : List α}
    (h : p.Carries turns taken)
    (hr : p.read n = some (data, p')) :
    p'.Carries turns (taken ++ data) := by
  obtain ⟨finished, part, hturns, hdata, hpart⟩ := h
  simp only [BoundedPipe.read, Option.ite_none_right_eq_some, Option.some.injEq,
    Prod.mk.injEq] at hr
  obtain ⟨_, rfl, rfl⟩ := hr
  refine ⟨finished, part, hturns, ?_, hpart⟩
  rw [List.append_assoc, List.take_append_drop]
  exact hdata

end Steps

section Consequences

variable {p : BoundedPipe τ α} {turns : List (τ × List α)} {taken : List α}

/-- Nothing is lost, repeated or put in another's place. -/
theorem Carries.dataOf_eq
    (h : p.Carries turns taken) :
    dataOf turns = taken ++ p.buffer ++ dataOf p.writers := by
  obtain ⟨finished, part, rfl, hdata, hpart⟩ := h
  rw [dataOf_append, dataOf_asked hpart, ← List.append_assoc, hdata]

theorem Carries.taken_isPrefix
    (h : p.Carries turns taken) :
    taken <+: dataOf turns :=
  ⟨p.buffer ++ dataOf p.writers, by rw [h.dataOf_eq, List.append_assoc]⟩

theorem Carries.taken_eq
    (h : p.Carries turns taken)
    (hwriters : p.writers = [])
    (hbuffer : p.buffer = []) :
    taken = dataOf turns := by
  rw [h.dataOf_eq, hwriters, hbuffer]
  simp

end Consequences

end BoundedPipe

end Kernel
end Rttx
