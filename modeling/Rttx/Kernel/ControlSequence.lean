import Mathlib.Data.List.Basic

/-!
# Kernel: control sequences in a byte stream

A control sequence is an escape byte and an opening bracket, parameter bytes of
which the first may be a private marker, intermediate bytes, and a final byte.
An escape byte begins anew wherever it stands, a cancel byte ends a sequence,
and other control bytes and bytes beyond ASCII are passed over inside one.

The scanner knows whether it is in a sequence and what it has of it.  What else
a stream may hold, text and strings, only an escape byte leads out of, so it is
all the same to the scanner.

**Results.**
* `controlSequences_snoc`: what the last byte of a stream ends.
* `parse_wellFormed`: a well-formed sequence reads back.
* `parse_append_eq_some`: no sequence is a proper prefix of another.
-/

namespace Rttx
namespace Kernel

section Bytes

def escapeByte : UInt8 := 0x1b

/-- What a byte is inside a control sequence. -/
inductive ByteClass
  | escape
  | cancel
  | ignorable
  | intermediate
  | parameter
  | final
deriving DecidableEq, Repr

def byteClass (b : UInt8) : ByteClass :=
  if b = escapeByte then .escape
  else if b = 0x18 ∨ b = 0x1a then .cancel
  else if b < 0x20 ∨ 0x7f ≤ b then .ignorable
  else if b < 0x30 then .intermediate
  else if b < 0x40 then .parameter
  else .final

/-- Markers of private use; they stand before the other parameter bytes. -/
def isMarker (b : UInt8) : Bool :=
  0x3c ≤ b

theorem byteClass_escape_iff {b : UInt8} : byteClass b = .escape ↔ b = escapeByte := by
  unfold byteClass
  split
  · simp_all
  · split
    · simp_all
    · split
      · simp_all
      · split
        · simp_all
        · split <;> simp_all

theorem byteClass_parameter_iff {b : UInt8} :
    byteClass b = .parameter ↔ (0x30 ≤ b && b ≤ 0x3f) = true := by
  simp only [byteClass, escapeByte, Bool.and_eq_true, decide_eq_true_eq, UInt8.le_iff_toNat_le,
    UInt8.lt_iff_toNat_lt, ← UInt8.toNat_inj, UInt8.reduceToNat]
  split_ifs <;> simp <;> omega

theorem byteClass_intermediate_iff {b : UInt8} :
    byteClass b = .intermediate ↔ (0x20 ≤ b && b ≤ 0x2f) = true := by
  simp only [byteClass, escapeByte, Bool.and_eq_true, decide_eq_true_eq, UInt8.le_iff_toNat_le,
    UInt8.lt_iff_toNat_lt, ← UInt8.toNat_inj, UInt8.reduceToNat]
  split_ifs <;> simp <;> omega

theorem byteClass_final_iff {b : UInt8} :
    byteClass b = .final ↔ (0x40 ≤ b && b ≤ 0x7e) = true := by
  simp only [byteClass, escapeByte, Bool.and_eq_true, decide_eq_true_eq, UInt8.le_iff_toNat_le,
    UInt8.lt_iff_toNat_lt, ← UInt8.toNat_inj, UInt8.reduceToNat]
  split_ifs <;> simp <;> omega

end Bytes

section Scanning

/-- A control sequence: its parameter bytes with the marker, its intermediate
bytes and its final byte. -/
structure ControlSequence where
  params : List UInt8
  intermediates : List UInt8
  final : UInt8
deriving DecidableEq, Repr

/-- Where a scanner is: outside of sequences, behind an escape byte, in a
sequence, or in one that is malformed. -/
inductive ScanState
  | outside
  | escape
  | collecting (params intermediates : List UInt8)
  | malformed
deriving DecidableEq, Repr

namespace ScanState

/-- One byte, and the sequence it ends. -/
def step (s : ScanState) (b : UInt8) : ScanState × Option ControlSequence :=
  match byteClass b with
  | .escape => (escape, none)
  | .cancel => (outside, none)
  | .ignorable => (s, none)
  | .intermediate =>
      match s with
      | collecting params intermediates => (collecting params (intermediates ++ [b]), none)
      | malformed => (malformed, none)
      | _ => (outside, none)
  | .parameter =>
      match s with
      | collecting params intermediates =>
          if intermediates = [] ∧ (params = [] ∨ isMarker b = false) then
            (collecting (params ++ [b]) [], none)
          else
            (malformed, none)
      | malformed => (malformed, none)
      | _ => (outside, none)
  | .final =>
      match s with
      | collecting params intermediates => (outside, some ⟨params, intermediates, b⟩)
      | escape => if b = 0x5b then (collecting [] [], none) else (outside, none)
      | _ => (outside, none)

def run (s : ScanState) (data : List UInt8) : ScanState :=
  data.foldl (fun s b => (s.step b).1) s

/-- The sequences that end in the data. -/
def scan (s : ScanState) : List UInt8 → List ControlSequence
  | [] => []
  | b :: rest => (s.step b).2.toList ++ (s.step b).1.scan rest

theorem run_append (s : ScanState) (first second : List UInt8) :
    s.run (first ++ second) = (s.run first).run second :=
  List.foldl_append

theorem scan_append (s : ScanState) (first second : List UInt8) :
    s.scan (first ++ second) = s.scan first ++ (s.run first).scan second := by
  induction first generalizing s with
  | nil => rfl
  | cons b rest ih =>
      rw [List.cons_append, scan, ih, scan, List.append_assoc]
      rfl

/-- An escape byte begins anew. -/
theorem step_escape (s : ScanState) : s.step escapeByte = (escape, none) :=
  rfl

/-- Outside of sequences only an escape byte counts. -/
theorem step_outside {b : UInt8}
    (h : b ≠ escapeByte) :
    outside.step b = (outside, none) := by
  unfold step
  cases hclass : byteClass b with
  | escape => exact absurd (byteClass_escape_iff.mp hclass) h
  | _ => rfl

theorem run_outside {data : List UInt8}
    (h : escapeByte ∉ data) :
    outside.run data = outside := by
  induction data with
  | nil => rfl
  | cons b rest ih =>
      rw [List.mem_cons, not_or] at h
      rw [run, List.foldl_cons, step_outside (fun heq => h.1 heq.symm)]
      exact ih h.2

/-- The byte that ends a sequence leaves the scanner outside. -/
theorem step_eq_some {s : ScanState} {b : UInt8} {c : ControlSequence}
    (h : (s.step b).2 = some c) :
    byteClass b = .final ∧ c.final = b ∧ (s.step b).1 = outside := by
  unfold step at h ⊢
  cases hclass : byteClass b with
  | final =>
      rw [hclass] at h
      cases s with
      | collecting params intermediates =>
          cases h
          exact ⟨rfl, rfl, rfl⟩
      | escape =>
          simp only at h
          split at h <;> cases h
      | _ => cases h
  | parameter =>
      rw [hclass] at h
      cases s with
      | collecting params intermediates =>
          simp only at h
          split at h <;> cases h
      | _ => cases h
  | intermediate =>
      rw [hclass] at h
      cases s <;> cases h
  | _ =>
      rw [hclass] at h
      cases h

end ScanState

/-- The control sequences of a stream. -/
def controlSequences (data : List UInt8) : List ControlSequence :=
  ScanState.outside.scan data

/-- What the last byte of a stream ends. -/
theorem controlSequences_snoc (data : List UInt8) (b : UInt8) :
    controlSequences (data ++ [b]) =
      controlSequences data ++ ((ScanState.outside.run data).step b).2.toList := by
  rw [controlSequences, ScanState.scan_append]
  simp [ScanState.scan, controlSequences]

end Scanning

section Parsing

namespace ControlSequence

/-- The sequence that the bytes are, from their escape byte to their last. -/
def parse : List UInt8 → Option ControlSequence
  | [] => none
  | b :: body =>
      if b = escapeByte ∧ escapeByte ∉ body then
        body.getLast?.bind fun final => ((ScanState.escape.run body.dropLast).step final).2
      else
        none

theorem parse_eq_some_iff {seq : List UInt8} {c : ControlSequence} :
    parse seq = some c ↔
      ∃ body final, seq = escapeByte :: (body ++ [final]) ∧ escapeByte ∉ body ++ [final] ∧
        ((ScanState.escape.run body).step final).2 = some c := by
  constructor
  · intro h
    unfold parse at h
    split at h
    · cases h
    · rename_i b body
      rw [Option.ite_none_right_eq_some] at h
      obtain ⟨⟨rfl, hone⟩, h⟩ := h
      obtain ⟨final, hlast, hends⟩ := Option.bind_eq_some_iff.mp h
      have hbody : body.dropLast ++ [final] = body := by
        rw [List.getLast?_eq_some_iff] at hlast
        obtain ⟨front, rfl⟩ := hlast
        rw [List.dropLast_concat]
      exact ⟨body.dropLast, final, by rw [hbody], by rw [hbody]; exact hone, hends⟩
  · rintro ⟨body, final, rfl, hone, hends⟩
    simp [parse, hone, hends]

/-- **No sequence is a proper prefix of another.** -/
theorem parse_append_eq_some {seq more : List UInt8} {c c' : ControlSequence}
    (h : parse seq = some c)
    (hmore : parse (seq ++ more) = some c') :
    more = [] := by
  obtain ⟨body, final, rfl, _, hends⟩ := parse_eq_some_iff.mp h
  rcases List.eq_nil_or_concat more with hnil | ⟨front, last, rfl⟩
  · exact hnil
  · obtain ⟨body', final', heq, hone, hends'⟩ := parse_eq_some_iff.mp hmore
    have hsplit : body' ++ [final'] = (body ++ [final] ++ front) ++ [last] := by
      simpa using heq.symm
    obtain ⟨rfl, hlast⟩ := List.append_inj' hsplit rfl
    cases hlast
    have hfront : escapeByte ∉ front := by
      intro hmem
      exact hone (List.mem_append_left _ (List.mem_append_right _ hmem))
    have hlastNot : last ≠ escapeByte := by
      intro hlast
      exact hone (List.mem_append_right _ (hlast ▸ List.mem_singleton_self _))
    have hout : ScanState.escape.run (body ++ [final]) = .outside := by
      rw [ScanState.run_append]
      exact (ScanState.step_eq_some hends).2.2
    rw [ScanState.run_append, hout, ScanState.run_outside hfront,
      ScanState.step_outside hlastNot] at hends'
    cases hends'

/-- The parts of a sequence are of the bytes they may have. -/
structure WellFormed (c : ControlSequence) : Prop where
  params : ∀ b ∈ c.params, byteClass b = .parameter
  markers : ∀ b ∈ c.params.tail, isMarker b = false
  intermediates : ∀ b ∈ c.intermediates, byteClass b = .intermediate
  final : byteClass c.final = .final

/-- A sequence in full. -/
def bytes (c : ControlSequence) : List UInt8 :=
  escapeByte :: 0x5b :: (c.params ++ c.intermediates ++ [c.final])

theorem run_params {params : List UInt8}
    (h : ∀ b ∈ params, byteClass b = .parameter)
    (front : List UInt8)
    (hmarkers : ∀ b ∈ (front ++ params).tail, isMarker b = false) :
    (ScanState.collecting front []).run params = .collecting (front ++ params) [] := by
  induction params generalizing front with
  | nil => rw [List.append_nil]; rfl
  | cons b rest ih =>
      have hclass := h b List.mem_cons_self
      have hallowed : front = [] ∨ isMarker b = false := by
        cases front with
        | nil => exact Or.inl rfl
        | cons first front =>
            exact Or.inr (hmarkers b (List.mem_append_right _ List.mem_cons_self))
      have hstep : (ScanState.collecting front []).step b =
          (.collecting (front ++ [b]) [], none) := by
        simp [ScanState.step, hclass, hallowed]
      have hsnoc : front ++ b :: rest = front ++ [b] ++ rest := List.append_cons front b rest
      rw [hsnoc] at hmarkers ⊢
      rw [ScanState.run, List.foldl_cons, hstep]
      exact ih (fun c hc => h c (List.mem_cons_of_mem _ hc)) (front ++ [b]) hmarkers

theorem run_intermediates {intermediates : List UInt8}
    (h : ∀ b ∈ intermediates, byteClass b = .intermediate)
    (params front : List UInt8) :
    (ScanState.collecting params front).run intermediates =
      .collecting params (front ++ intermediates) := by
  induction intermediates generalizing front with
  | nil => rw [List.append_nil]; rfl
  | cons b rest ih =>
      have hstep : (ScanState.collecting params front).step b =
          (.collecting params (front ++ [b]), none) := by
        simp [ScanState.step, h b List.mem_cons_self]
      have hsnoc : front ++ b :: rest = front ++ [b] ++ rest := List.append_cons front b rest
      rw [hsnoc, ScanState.run, List.foldl_cons, hstep]
      exact ih (fun c hc => h c (List.mem_cons_of_mem _ hc)) (front ++ [b])

/-- **A well-formed sequence reads back.** -/
theorem parse_wellFormed {c : ControlSequence}
    (h : c.WellFormed) :
    parse c.bytes = some c := by
  have hclass : ∀ {b : UInt8}, b = escapeByte → byteClass b = .escape := byteClass_escape_iff.mpr
  refine parse_eq_some_iff.mpr ⟨0x5b :: (c.params ++ c.intermediates), c.final, ?_, ?_, ?_⟩
  · simp [bytes]
  · intro hmem
    simp only [List.cons_append, List.mem_cons, List.mem_append, List.mem_nil_iff, or_false] at hmem
    rcases hmem with hbracket | (hparam | hintermediate) | hfinal
    · cases hbracket
    · have hcontra := h.params _ hparam
      rw [hclass rfl] at hcontra
      cases hcontra
    · have hcontra := h.intermediates _ hintermediate
      rw [hclass rfl] at hcontra
      cases hcontra
    · have hcontra := h.final
      rw [hclass hfinal.symm] at hcontra
      cases hcontra
  · have hopen : (ScanState.escape.run (0x5b :: (c.params ++ c.intermediates))) =
        (ScanState.collecting [] []).run (c.params ++ c.intermediates) := rfl
    rw [hopen, ScanState.run_append, run_params h.params [] h.markers,
      run_intermediates h.intermediates]
    simp [ScanState.step, h.final]

/-- The private marker. -/
def marker (c : ControlSequence) : List UInt8 :=
  c.params.takeWhile isMarker

/-- The first value of the first parameter; an empty one is zero. -/
def firstValue (c : ControlSequence) : Nat :=
  ((c.params.dropWhile isMarker).takeWhile (fun b => b ≤ 0x39)).foldl
    (fun n b => 10 * n + (b.toNat - 0x30)) 0

end ControlSequence

end Parsing

end Kernel
end Rttx
