import Rttx.Server.ScreenModes

/-!
# Controls on both machines of a screen

The daemon's own cleanup bytes are controls: control sequences, and an escape byte
with one more byte.  They are fed to a parser that may be in the middle of a
sequence, a string or a character.  An escape byte leads out of all of these but
the last: a parser in a character takes the escape byte for a part of it, and
what is left of the control for text.

The grid runs a parser of its own, which takes the byte that breaks a character
off for itself.

**Results.**
* `callsOver_controls`: what a parser reports of some controls.
* `callsOver_swallowed`: and what it reports of them in a character.
* `performAll_passive`: what leaving a sequence does to the performer.
-/

namespace Rttx
namespace Server

open Kernel

universe u v

section Controls

/-- What stands for a character that is broken off. -/
def replacementChar : Char := '\ufffd'

def cancelByte : UInt8 := 0x18

/-- A control. -/
inductive Control
  | sequence (c : ControlSequence)
  | escape (b : UInt8)
deriving DecidableEq

namespace Control

def bytes : Control → Bytes
  | sequence c => c.bytes
  | escape b => [esc, b]

/-- What a parser reports of a control. -/
def call : Control → VteCall
  | sequence c => (dispatched c).call
  | escape b => .escDispatch [] false b

/-- A control that a parser takes in full. -/
def Plain : Control → Prop
  | sequence c =>
      c.WellFormed ∧ c.groups.flatten.length ≤ 32 ∧ (c.marker ++ c.intermediates).length ≤ 2
  | escape b => byteClass b = .parameter

instance (c : ControlSequence) : Decidable c.WellFormed :=
  haveI (p : UInt8 → Prop) [DecidablePred p] (text : Bytes) : Decidable (∀ b ∈ text, p b) :=
    List.decidableBAll p text
  decidable_of_iff
    ((∀ b ∈ c.params, byteClass b = .parameter) ∧
      (∀ b ∈ c.params.tail, isMarker b = false) ∧
      (∀ b ∈ c.intermediates, byteClass b = .intermediate) ∧ byteClass c.final = .final)
    ⟨fun h => ⟨h.1, h.2.1, h.2.2.1, h.2.2.2⟩,
      fun h => ⟨h.params, h.markers, h.intermediates, h.final⟩⟩

instance (k : Control) : Decidable k.Plain :=
  match k with
  | .sequence _ => inferInstanceAs (Decidable (_ ∧ _ ∧ _))
  | .escape _ => inferInstanceAs (Decidable (_ = _))

/-- The bytes behind the escape byte. -/
def body : Control → Bytes
  | sequence c => 0x5b :: (c.params ++ c.intermediates ++ [c.final])
  | escape b => [b]

theorem bytes_eq (k : Control) : k.bytes = esc :: k.body := by
  cases k <;> rfl

/-- A control is text but for its escape byte. -/
theorem Plain.text {k : Control}
    (h : k.Plain) :
    ∀ b ∈ k.body, 0x20 ≤ b ∧ b < 0x7f := by
  have hclass : ∀ b : UInt8, byteClass b = .parameter ∨ byteClass b = .intermediate ∨
      byteClass b = .final → 0x20 ≤ b ∧ b < 0x7f := by
    intro b hb
    rw [byteClass_parameter_iff, byteClass_intermediate_iff, byteClass_final_iff] at hb
    simp only [Bool.and_eq_true, decide_eq_true_eq, UInt8.le_iff_toNat_le,
      UInt8.lt_iff_toNat_lt, UInt8.reduceToNat] at hb ⊢
    omega
  cases k with
  | sequence c =>
      obtain ⟨hwell, _, _⟩ := h
      intro b hb
      simp only [body, List.mem_cons, List.mem_append, List.mem_nil_iff, or_false] at hb
      rcases hb with rfl | (hb | hb) | rfl
      · exact ⟨by decide, by decide⟩
      · exact hclass b (Or.inl (hwell.params b hb))
      · exact hclass b (Or.inr (Or.inl (hwell.intermediates b hb)))
      · exact hclass _ (Or.inr (Or.inr hwell.final))
  | escape b =>
      intro b' hb
      rw [List.mem_singleton.mp hb]
      exact hclass b (Or.inl h)

end Control

end Controls

section Parsers

/-- A call by which a parser leaves what it is in. -/
def LeavingCall : VteCall → Prop
  | .print c => c = replacementChar
  | .execute byte => byte = cancelByte
  | .csiDispatch _ _ _ _ => False
  | .escDispatch _ _ _ => False
  | _ => True

/-- A parser of control sequences, strings and text. -/
class ControlParser (P : Type u) [VteParser P] where
  /-- Outside of sequences, strings and characters. -/
  atRest : P → Bool
  /-- In a character, of which the next byte is taken to be a part. -/
  swallows : P → Bool
  leaving : ∀ (parser : P), ∀ call ∈ (VteParser.advance parser esc).2, LeavingCall call
  rest : ∀ parser : P, atRest parser = true →
    (VteParser.advance parser esc).2 = [] ∧ swallows parser = false
  control : ∀ (parser : P) (k : Control), swallows parser = false → k.Plain →
    callsOver parser k.bytes = (VteParser.advance parser esc).2 ++ [k.call] ∧
      atRest (parserAfter parser k.bytes) = true
  cancel : ∀ parser : P,
    (∀ call ∈ (VteParser.advance parser cancelByte).2, LeavingCall call) ∧
      atRest (VteParser.advance parser cancelByte).1 = true
  swallow : ∀ (parser : P) (b : UInt8), swallows parser = true → b < 0x80 →
    (VteParser.advance parser b).2 = [.print replacementChar] ∧
      atRest (VteParser.advance parser b).1 = true
  text : ∀ (parser : P) (b : UInt8), atRest parser = true → 0x20 ≤ b → b < 0x7f →
    (VteParser.advance parser b).2 = [.print (Char.ofNat b.toNat)] ∧
      atRest (VteParser.advance parser b).1 = true

open ControlParser

variable {P : Type u} [VteParser P]

theorem parserAfter_append (parser : P) (first second : Bytes) :
    parserAfter parser (first ++ second) = parserAfter (parserAfter parser first) second :=
  List.foldl_append

theorem callsOver_cons (parser : P) (b : UInt8) (rest : Bytes) :
    callsOver parser (b :: rest) =
      (VteParser.advance parser b).2 ++ callsOver (VteParser.advance parser b).1 rest :=
  rfl

variable [ControlParser P]

/-- Text is printed. -/
theorem callsOver_text {parser : P} {data : Bytes}
    (hrest : atRest parser = true)
    (h : ∀ b ∈ data, 0x20 ≤ b ∧ b < 0x7f) :
    callsOver parser data = data.map (fun b => .print (Char.ofNat b.toNat)) ∧
      atRest (parserAfter parser data) = true := by
  induction data generalizing parser with
  | nil => exact ⟨rfl, hrest⟩
  | cons b rest ih =>
      obtain ⟨hlow, hhigh⟩ := h b List.mem_cons_self
      obtain ⟨hcall, hrest'⟩ := ControlParser.text parser b hrest hlow hhigh
      obtain ⟨hcalls, hafter⟩ := ih hrest' fun b hb => h b (List.mem_cons_of_mem _ hb)
      refine ⟨?_, hafter⟩
      rw [callsOver_cons, hcall, hcalls]
      rfl

/-- Some controls, from rest. -/
theorem callsOver_controls_of_atRest {parser : P} {ks : List Control}
    (hrest : atRest parser = true)
    (h : ∀ k ∈ ks, k.Plain) :
    callsOver parser (ks.flatMap Control.bytes) = ks.map Control.call ∧
      atRest (parserAfter parser (ks.flatMap Control.bytes)) = true := by
  induction ks generalizing parser with
  | nil => exact ⟨rfl, hrest⟩
  | cons k ks ih =>
      obtain ⟨hnone, hopen⟩ := ControlParser.rest parser hrest
      obtain ⟨hcall, hrest'⟩ := ControlParser.control parser k hopen (h k List.mem_cons_self)
      obtain ⟨hcalls, hafter⟩ := ih hrest' fun k hk => h k (List.mem_cons_of_mem _ hk)
      rw [List.flatMap_cons]
      constructor
      · rw [callsOver_append, hcall, hnone, hcalls]
        rfl
      · rw [parserAfter_append]
        exact hafter

/-- **Some controls**: the parser leaves what it is in and takes them. -/
theorem callsOver_controls {parser : P} {ks : List Control}
    (hopen : swallows parser = false)
    (hne : ks ≠ [])
    (h : ∀ k ∈ ks, k.Plain) :
    callsOver parser (ks.flatMap Control.bytes) =
      (VteParser.advance parser esc).2 ++ ks.map Control.call := by
  obtain ⟨k, rest, rfl⟩ := List.exists_cons_of_ne_nil hne
  obtain ⟨hcall, hrest⟩ := ControlParser.control parser k hopen (h k List.mem_cons_self)
  obtain ⟨hcalls, _⟩ :=
    callsOver_controls_of_atRest hrest fun k hk => h k (List.mem_cons_of_mem _ hk)
  rw [List.flatMap_cons, callsOver_append, hcall, hcalls, List.append_assoc]
  rfl

/-- **In a character** the first of the controls is text. -/
theorem callsOver_swallowed {parser : P} {k : Control} {ks : List Control}
    (hswallows : swallows parser = true)
    (h : ∀ k' ∈ k :: ks, k'.Plain) :
    callsOver parser ((k :: ks).flatMap Control.bytes) =
      .print replacementChar :: k.body.map (fun b => .print (Char.ofNat b.toNat)) ++
        ks.map Control.call := by
  obtain ⟨hcall, hrest⟩ := ControlParser.swallow parser esc hswallows (by decide)
  obtain ⟨htext, hrest'⟩ := callsOver_text hrest (h k List.mem_cons_self).text
  obtain ⟨hcalls, _⟩ :=
    callsOver_controls_of_atRest hrest' fun k hk => h k (List.mem_cons_of_mem _ hk)
  rw [List.flatMap_cons, Control.bytes_eq, callsOver_append, callsOver_cons, hcall, htext]
  rw [← hcalls]
  rfl

end Parsers

section Performer

/-- A call that at most draws, or reports a string. -/
def Passive (call : VteCall) : Prop :=
  call.dispatches = false ∧ ∀ byte, call = .execute byte → byte = cancelByte

def VteCall.isPrint : VteCall → Bool
  | print _ => true
  | _ => false

theorem LeavingCall.passive {call : VteCall}
    (h : LeavingCall call) :
    Passive call := by
  cases call with
  | csiDispatch params intermediates ignore action => exact h.elim
  | escDispatch intermediates ignore byte => exact h.elim
  | execute byte =>
      refine ⟨rfl, ?_⟩
      rintro byte' heq
      cases heq
      exact h
  | _ => exact ⟨rfl, fun byte heq => VteCall.noConfusion heq⟩

theorem passive_print (c : Char) : Passive (.print c) :=
  ⟨rfl, fun _ heq => VteCall.noConfusion heq⟩

/-- Drawing moves the performer's cursor, and a string may be a title or a
directory. -/
theorem perform_passive {call : VteCall}
    (h : Passive call)
    (p : ScreenPerformer) :
    ∃ title cwd, p.perform call =
      { p with title := title, cwd := cwd, cursorCol := p.cursorCol + call.isPrint.toNat } := by
  cases call with
  | csiDispatch params intermediates ignore action => exact Bool.noConfusion h.1
  | escDispatch intermediates ignore byte => exact Bool.noConfusion h.1
  | execute byte =>
      have hbyte := h.2 byte rfl
      subst hbyte
      exact ⟨p.title, p.cwd, rfl⟩
  | oscDispatch params bell => exact ⟨_, _, rfl⟩
  | _ => exact ⟨p.title, p.cwd, rfl⟩

theorem performAll_passive {calls : List VteCall}
    (h : ∀ call ∈ calls, Passive call)
    (p : ScreenPerformer) :
    ∃ title cwd, p.performAll calls =
      { p with
        title := title
        cwd := cwd
        cursorCol := p.cursorCol + calls.countP VteCall.isPrint } := by
  induction calls generalizing p with
  | nil => exact ⟨p.title, p.cwd, rfl⟩
  | cons call rest ih =>
      obtain ⟨title, cwd, hcall⟩ := perform_passive (h call List.mem_cons_self) p
      obtain ⟨title', cwd', hrest⟩ :=
        ih (fun call hcall => h call (List.mem_cons_of_mem _ hcall)) (p.perform call)
      refine ⟨title', cwd', ?_⟩
      have hcons : p.performAll (call :: rest) = (p.perform call).performAll rest := rfl
      have hcount : p.cursorCol + call.isPrint.toNat + rest.countP VteCall.isPrint =
          p.cursorCol + (call :: rest).countP VteCall.isPrint := by
        rw [List.countP_cons]
        cases call.isPrint
        · simp
        · simp; omega
      rw [hcons, hrest, hcall]
      simp only [hcount]

end Performer

end Server
end Rttx
