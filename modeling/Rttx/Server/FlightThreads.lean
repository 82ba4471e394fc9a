import Rttx.Kernel.TransitionSystem
import Rttx.Server.FlightRecorder

/-!
# The flight recorder and many threads

A record is three steps of a thread: it takes the next position, it writes its event to the
slot, and it writes the position after its own to the header.  Between the steps other
threads may take any of theirs, so the headers need not be written in the order of the
positions.

The threads keep up with each other if none takes a position while one that is a whole
turn of the ring behind is still at work.

**Results.**
* `readFlight_idle`: once no thread is at work, each event that is read is that of its
  position or of the one a turn later, and the header is less than a turn behind.
-/

namespace Rttx
namespace Server

open Kernel

section Threads

/-- The events by position, the file, and the positions of the threads at work. -/
structure FlightState where
  log : List FlightEvent
  file : Bytes
  atSlot : List Nat
  atHeader : List Nat

inductive FlightStep
  | claim (event : FlightEvent)
  | writeSlot (pos : Nat)
  | writeHeader (pos : Nat)

namespace FlightState

def next (s : FlightState) : FlightStep → Option FlightState
  | .claim event =>
      some { s with log := s.log ++ [event], atSlot := s.log.length :: s.atSlot }
  | .writeSlot pos =>
      if pos ∈ s.atSlot then
        s.log[pos]?.map fun event =>
          { s with
            file := RingWriter.writeSlot s.file pos event
            atSlot := s.atSlot.erase pos
            atHeader := pos :: s.atHeader }
      else
        none
  | .writeHeader pos =>
      if pos ∈ s.atHeader then
        some { s with
          file := RingWriter.writeHeader s.file (pos + 1)
          atHeader := s.atHeader.erase pos }
      else
        none

def system : System FlightState FlightStep where
  init s := s = ⟨[], RingWriter.create.file, [], []⟩
  next := next

/-- No position is taken while one a turn behind is worked on. -/
def keepsUp (s : FlightState) : FlightStep → Bool
  | .claim _ => (s.atSlot ++ s.atHeader).all fun pos => s.log.length < pos + slotCount
  | _ => true

/-- What holds between any steps. -/
structure Inv (s : FlightState) (counted : Nat) : Prop where
  counts : Counts s.file counted
  counted_le : counted ≤ s.log.length
  uncounted : counted = 0 → ∀ pos, pos < s.log.length → pos ∈ s.atSlot ++ s.atHeader
  atWork : ∀ pos ∈ s.atSlot ++ s.atHeader,
    pos < s.log.length ∧ s.log.length ≤ pos + slotCount
  slots : ∀ pos, pos < s.log.length → s.log.length ≤ pos + slotCount → pos ∉ s.atSlot →
    RingReader.slotAt s.file (pos % slotCount) = s.log[pos]?.map serializeEvent
  idle : s.atSlot ++ s.atHeader = [] → s.log.length < counted + slotCount

variable {s s' : FlightState} {counted : Nat}

theorem Inv.claim {event : FlightEvent}
    (h : Inv s counted)
    (hok : keepsUp s (.claim event) = true) :
    Inv { s with log := s.log ++ [event], atSlot := s.log.length :: s.atSlot } counted := by
  have hlength : (s.log ++ [event]).length = s.log.length + 1 := by simp
  rw [keepsUp, List.all_eq_true] at hok
  refine ⟨h.counts, ?_, ?_, ?_, ?_, ?_⟩
  · rw [hlength]
    exact Nat.le_succ_of_le h.counted_le
  · intro hzero pos hpos
    rw [hlength] at hpos
    by_cases hnew : pos = s.log.length
    · rw [hnew]
      exact List.mem_cons_self
    · exact List.mem_cons_of_mem _ (h.uncounted hzero pos (by omega))
  · intro pos hpos
    rw [hlength]
    obtain rfl | hold := List.mem_cons.mp hpos
    · exact ⟨Nat.lt_succ_self _, Nat.add_le_add_left (by decide) _⟩
    · have hlt := of_decide_eq_true (hok pos hold)
      exact ⟨Nat.lt_succ_of_lt (h.atWork pos hold).1, hlt⟩
  · intro pos hpos hlast hnot
    rw [hlength] at hpos hlast
    rw [List.mem_cons, not_or] at hnot
    have hlt : pos < s.log.length := by omega
    rw [List.getElem?_append_left hlt]
    exact h.slots pos hlt (by omega) hnot.2
  · intro hidle
    cases hidle

theorem Inv.writeSlot {pos : Nat} {event : FlightEvent}
    (h : Inv s counted)
    (hpos : pos ∈ s.atSlot)
    (hevent : s.log[pos]? = some event) :
    Inv { s with
      file := RingWriter.writeSlot s.file pos event
      atSlot := s.atSlot.erase pos
      atHeader := pos :: s.atHeader } counted := by
  have hbytes : (serializeEvent event).val.length ≤ slotSize :=
    Nat.le_of_eq (serializeEvent event).property
  have hwork := h.atWork pos (List.mem_append_left _ hpos)
  have hmem : ∀ p, p ∈ s.atSlot.erase pos ++ pos :: s.atHeader ↔ p ∈ s.atSlot ++ s.atHeader := by
    intro p
    rw [List.mem_append, List.mem_append, List.mem_cons]
    by_cases hsame : p = pos
    · exact iff_of_true (Or.inr (Or.inl hsame)) (Or.inl (hsame ▸ hpos))
    · rw [List.mem_erase_of_ne hsame, or_iff_right hsame]
  refine ⟨h.counts.writeAt_slot hbytes pos, h.counted_le, ?_, ?_, ?_, ?_⟩
  · intro hzero p hp
    exact (hmem p).mpr (h.uncounted hzero p hp)
  · intro p hp
    exact h.atWork p ((hmem p).mp hp)
  · intro p hp hlast hnot
    dsimp only at hp hlast hnot ⊢
    by_cases hsame : p = pos
    · rw [hsame, h.counts.slotAt_writeSlot, hevent]
      rfl
    · have hslot : p % slotCount ≠ pos % slotCount := by
        intro hslot
        obtain hle | hle := Nat.le_total p pos
        · exact hsame (eq_of_slot_eq hslot hle (by omega))
        · exact hsame (eq_of_slot_eq hslot.symm hle (by omega)).symm
      have hother : p ∉ s.atSlot := fun hin => hnot ((List.mem_erase_of_ne hsame).mpr hin)
      exact (h.counts.slotAt_writeAt_of_ne hbytes hslot).trans (h.slots p hp hlast hother)
  · intro hidle
    exact absurd (List.append_eq_nil_iff.mp hidle).2 (List.cons_ne_nil _ _)

theorem Inv.writeHeader {pos : Nat}
    (h : Inv s counted)
    (hpos : pos ∈ s.atHeader) :
    Inv { s with
      file := RingWriter.writeHeader s.file (pos + 1)
      atHeader := s.atHeader.erase pos } (pos + 1) := by
  have hwork := h.atWork pos (List.mem_append_right _ hpos)
  refine ⟨h.counts.writeHeader _, hwork.1, ?_, ?_, ?_, ?_⟩
  · intro hzero
    cases hzero
  · intro p hp
    refine h.atWork p ?_
    rw [List.mem_append] at hp ⊢
    exact hp.imp id List.mem_of_mem_erase
  · intro p hp hlast hnot
    exact (h.counts.slotAt_writeHeader _ _).trans (h.slots p hp hlast hnot)
  · intro _
    dsimp only
    omega

/-- **The invariant of every run** in which the threads keep up. -/
theorem reachable_inv
    (h : system.ReachableUnder (fun s a => keepsUp s a = true) s) :
    ∃ counted, Inv s counted := by
  refine System.ReachableUnder.invariant (I := fun s => ∃ counted, Inv s counted) ?_ ?_ h
  · rintro s rfl
    refine ⟨0, counts_create, Nat.le_refl 0, ?_, ?_, ?_, ?_⟩
    · exact fun _ pos hpos => absurd hpos (Nat.not_lt_zero pos)
    · exact fun pos hpos => absurd hpos List.not_mem_nil
    · exact fun pos hpos => absurd hpos (Nat.not_lt_zero pos)
    · exact fun _ => by decide
  · rintro s a s' ⟨counted, hinv⟩ hok hnext
    cases a with
    | claim event =>
        cases hnext
        exact ⟨counted, hinv.claim hok⟩
    | writeSlot pos =>
        change (if pos ∈ s.atSlot then _ else none) = some s' at hnext
        split at hnext
        · rename_i hpos
          obtain ⟨event, hevent, rfl⟩ := Option.map_eq_some_iff.mp hnext
          exact ⟨counted, hinv.writeSlot hpos hevent⟩
        · cases hnext
    | writeHeader pos =>
        change (if pos ∈ s.atHeader then _ else none) = some s' at hnext
        split at hnext
        · rename_i hpos
          cases hnext
          exact ⟨pos + 1, hinv.writeHeader hpos⟩
        · cases hnext

/-- The event that the slot of a position holds in the end. -/
def found (s : FlightState) (pos : Nat) : Option FlightEvent :=
  if pos + slotCount < s.log.length then s.log[pos + slotCount]? else s.log[pos]?

/-- **What is read when all threads are done.**  The header is less than a turn behind; of
the last 65536 positions that it counts each is read in its place, with its own event or,
where the ring has gone further, with the one a turn later. -/
theorem readFlight_idle
    (h : system.ReachableUnder (fun s a => keepsUp s a = true) s)
    (hidle : s.atSlot = [] ∧ s.atHeader = [])
    (hcount : s.log.length < 2 ^ 64) :
    ∃ counted,
      (RingReader.mk s.file).writePos = counted ∧
      counted ≤ s.log.length ∧ s.log.length < counted + slotCount ∧
      (counted = 0 → s.log = []) ∧
      readFlight s.file =
        .ok ((List.range (min counted slotCount)).filterMap fun i =>
          s.found (counted - slotCount + i)) := by
  obtain ⟨counted, hinv⟩ := reachable_inv h
  have hwork : s.atSlot ++ s.atHeader = [] := List.append_eq_nil_iff.mpr hidle
  have hbehind := hinv.idle hwork
  have hlt : counted < 2 ^ 64 := Nat.lt_of_le_of_lt hinv.counted_le hcount
  have hle := hinv.counted_le
  refine ⟨counted, hinv.counts.writePos hlt, hle, hbehind, ?_, ?_⟩
  · intro hzero
    by_contra hne
    have hmem := hinv.uncounted hzero 0 (List.length_pos_iff.mpr hne)
    rw [hwork] at hmem
    cases hmem
  · have hslots : ∀ p, p < counted → counted ≤ p + slotCount →
        RingReader.slotAt s.file (p % slotCount) = (s.found p).map serializeEvent := by
      intro p hp hlast
      have hnot : ∀ q, q ∉ s.atSlot := fun q => by
        rw [hidle.1]
        exact List.not_mem_nil
      rw [found]
      split
      · rename_i hturn
        rw [← Nat.add_mod_right]
        exact hinv.slots _ hturn (by omega) (hnot _)
      · rename_i hturn
        exact hinv.slots p (by omega) (by omega) (hnot _)
    have hread : ∀ p, ((s.found p).map serializeEvent).map deserializeEvent = s.found p := by
      intro p
      cases s.found p with
      | none => rfl
      | some event => exact congrArg some (deserializeEvent_serializeEvent event)
    rw [hinv.counts.readFlight hlt, readSlots_eq hslots, List.map_filterMap]
    simp only [hread]

/-- The second of two threads is done before the first one writes its event. -/
def overtaken : List FlightStep :=
  [.claim sampleFlightEvent, .claim sampleFlightEvent, .writeSlot 1, .writeHeader 1, .writeSlot 0,
    .writeHeader 0]

theorem overtaken_runs :
    (system.execUnder keepsUp ⟨[], RingWriter.create.file, [], []⟩ overtaken).isSome = true := by
  decide

/-- The theorem on that run. -/
theorem readFlight_idle_overtaken :
    ∃ counted ≤ 2, readFlight ((system.execUnder keepsUp ⟨[], RingWriter.create.file, [], []⟩
        overtaken).get overtaken_runs).file =
      .ok ((List.range (min counted slotCount)).filterMap fun i =>
        ((system.execUnder keepsUp ⟨[], RingWriter.create.file, [], []⟩
          overtaken).get overtaken_runs).found (counted - slotCount + i)) := by
  obtain ⟨counted, _, hle, _, _, hread⟩ := readFlight_idle
    (System.reachableUnder_get rfl overtaken_runs) ⟨by decide, by decide⟩ (by decide)
  exact ⟨counted, hle, hread⟩

end FlightState

end Threads

end Server
end Rttx
