import Mathlib.Data.List.Infix

/-!
# Kernel: reading a sliding window page by page

The newest items of a stream are kept in a window.  A reader asks for pages of
it; the offset of a page counts from the front of the window, and a reader goes
on where the last page ended until a page reaches the end of the window.

While the front stays where it is the pages are one range of the stream.  A
reading ends in two ways: with the page that reaches the end, or with an empty
answer given in place of one.

**Results.**
* `Reading.Ok.slide`: a reading survives new items that move the front only
  while nothing was read.
* `Reading.Ok.next`: after the page that reaches the end the whole window was read.
* `Reading.Ok.cutShort`: an empty answer may end a reading that has all it came for.
-/

namespace Rttx
namespace Kernel

universe u

section Definitions

variable {α : Type u}

/-- A range of positions of a stream. -/
structure Span where
  first : Nat
  stop : Nat
deriving DecidableEq, Repr

def Span.Has (span : Span) (i : Nat) : Prop :=
  span.first ≤ i ∧ i < span.stop

/-- Where the window stands in its stream. -/
def windowSpan (stream window : List α) : Span :=
  ⟨stream.length - window.length, stream.length⟩

/-- A page of a window, and whether it reaches the end. -/
def page (window : List α) (offset limit : Nat) : List α × Bool :=
  if window.length ≤ offset then
    ([], true)
  else
    let stop := min window.length (offset + limit)
    ((window.take stop).drop offset, decide (window.length ≤ stop))

/-- What a reader has: the offset of the next page, the pages so far, and where
the window stood at its first request and at the one that ended the reading. -/
structure Reading (α : Type u) where
  offset : Nat
  received : List α
  first : Span
  last : Option Span
deriving DecidableEq

namespace Reading

/-- A reader that asks for the first page. -/
def start (span : Span) : Reading α :=
  ⟨0, [], span, none⟩

/-- An answer: a page, and whether it is the last. -/
def answer (r : Reading α) (chunk : List α × Bool) (span : Span) : Reading α :=
  { r with
    offset := r.offset + chunk.1.length
    received := r.received ++ chunk.1
    last := if chunk.2 then some span else none }

/-- What was read is one range of the stream, with every item that stood in the
window at both ends of the reading. -/
def Whole (stream : List α) (r : Reading α) (last : Span) : Prop :=
  ∃ before after, stream = before ++ r.received ++ after ∧
    ∀ i, r.first.Has i → last.Has i →
      before.length ≤ i ∧ i < before.length + r.received.length

/-- The state of a reading: the pages are the front of the window, and at the
end they are whole. -/
structure Ok (stream window : List α) (r : Reading α) : Prop where
  offset : r.offset = r.received.length
  first : r.first.stop ≤ stream.length
  underway : r.last = none → r.received <+: window
  whole : ∀ last, r.last = some last → r.Whole stream last

end Reading

end Definitions

section Pages

variable {α : Type u}

/-- The front of a window and the next page are a longer front. -/
theorem prefix_append_page {window received : List α}
    (h : received <+: window)
    (limit : Nat) :
    received ++ (page window received.length limit).1 <+: window := by
  unfold page
  by_cases hend : window.length ≤ received.length
  · simpa [hend] using h
  · rw [if_neg hend]
    have hle : received.length ≤ min window.length (received.length + limit) := by omega
    have hfront : received = (window.take (min window.length (received.length + limit))).take
        received.length := by
      rw [List.take_take, Nat.min_eq_left hle]
      exact List.prefix_iff_eq_take.mp h
    have hjoin : received ++ (window.take (min window.length (received.length + limit))).drop
        received.length = window.take (min window.length (received.length + limit)) := by
      have hsplit := List.take_append_drop received.length
        (window.take (min window.length (received.length + limit)))
      rwa [← hfront] at hsplit
    rw [hjoin]
    exact List.take_prefix _ _

/-- With the page that reaches the end it is the whole window. -/
theorem append_last_page {window received : List α} {limit : Nat}
    (h : received <+: window)
    (hlast : (page window received.length limit).2 = true) :
    received ++ (page window received.length limit).1 = window := by
  refine (prefix_append_page h limit).eq_of_length_le ?_
  have hle := h.length_le
  unfold page at hlast ⊢
  by_cases hend : window.length ≤ received.length
  · simp only [hend, if_true, List.append_nil]
  · simp only [hend, if_false, decide_eq_true_eq] at hlast
    simp only [hend, if_false, List.length_append, List.length_drop, List.length_take]
    omega

end Pages

namespace Reading

section States

variable {α : Type u}
variable {stream window : List α}
variable {r : Reading α}

/-- The first request finds the window where it stands. -/
theorem ok_start (stream window : List α) :
    (start (windowSpan stream window)).Ok stream window :=
  ⟨rfl, Nat.le_refl _, fun _ => List.nil_prefix, fun _ h => by cases h⟩

theorem Whole.append {last : Span}
    (h : r.Whole stream last)
    (items : List α) :
    r.Whole (stream ++ items) last := by
  obtain ⟨before, after, hstream, hhas⟩ := h
  exact ⟨before, after ++ items, by rw [hstream, List.append_assoc], hhas⟩

/-- No item is skipped or repeated. -/
theorem Whole.isInfix {last : Span}
    (h : r.Whole stream last) :
    r.received <:+: stream := by
  obtain ⟨before, after, hstream, _⟩ := h
  exact ⟨before, after, hstream.symm⟩

/-- Something was read if some item stood in the window at both ends. -/
theorem Whole.received_ne_nil {last : Span} {i : Nat}
    (h : r.Whole stream last)
    (hfirst : r.first.Has i)
    (hlast : last.Has i) :
    r.received ≠ [] := by
  obtain ⟨before, after, _, hhas⟩ := h
  have hi := hhas i hfirst hlast
  intro hnil
  rw [hnil, List.length_nil] at hi
  omega

/-- **New items.**  The front of the window moves only while nothing was read,
or after the reading has ended. -/
theorem Ok.slide {items window' : List α}
    (h : r.Ok stream window)
    (hstays : r.last.isSome = true ∨ r.offset = 0 ∨ window' = window ++ items) :
    r.Ok (stream ++ items) window' := by
  refine ⟨h.offset, ?_, ?_, fun last hlast => (h.whole last hlast).append items⟩
  · have hfirst := h.first
    rw [List.length_append]
    omega
  · intro hunderway
    rcases hstays with hended | hzero | happended
    · rw [hunderway] at hended
      cases hended
    · have hnil : r.received = [] := List.length_eq_zero_iff.mp (h.offset ▸ hzero)
      rw [hnil]
      exact List.nil_prefix
    · rw [happended]
      exact (h.underway hunderway).trans (List.prefix_append _ _)

/-- **A page of the window.**  The one that reaches the end completes it. -/
theorem Ok.next
    (h : r.Ok stream window)
    (hwindow : window <:+ stream)
    (hunderway : r.last = none)
    (limit : Nat) :
    (r.answer (page window r.offset limit) (windowSpan stream window)).Ok stream window := by
  have hprefix := h.underway hunderway
  refine ⟨?_, h.first, ?_, ?_⟩
  · simp only [answer, List.length_append, h.offset]
  · intro _
    simp only [answer, h.offset]
    exact prefix_append_page hprefix limit
  · intro last hlast
    rw [h.offset] at hlast ⊢
    have hend : (page window r.received.length limit).2 = true := by
      by_contra hnot
      simp [answer, hnot] at hlast
    have hall := append_last_page hprefix hend
    obtain rfl : windowSpan stream window = last := by simpa [answer, hend] using hlast
    obtain ⟨before, hstream⟩ := hwindow
    have hlength : before.length + window.length = stream.length := by
      rw [← hstream, List.length_append]
    refine ⟨before, [], ?_, ?_⟩
    · simp only [answer, hall, List.append_nil, hstream]
    · intro i _ hlasthas
      simp only [answer, hall]
      simp only [Span.Has, windowSpan] at hlasthas
      omega

/-- **An empty answer in place of the last page** ends a reading well if all
that stood in the window at first has been read or has left it. -/
theorem Ok.cutShort
    (h : r.Ok stream window)
    (hwindow : window <:+ stream)
    (hunderway : r.last = none)
    (hread : r.first.stop ≤ (windowSpan stream window).first + r.offset) :
    (r.answer ([], true) (windowSpan stream window)).Ok stream window := by
  obtain ⟨after, hafter⟩ := h.underway hunderway
  obtain ⟨before, hstream⟩ := hwindow
  have hbefore : before.length = (windowSpan stream window).first := by
    simp only [windowSpan, ← hstream, List.length_append]
    omega
  refine ⟨by simp [answer, h.offset], h.first, fun hnone => by simp [answer] at hnone, ?_⟩
  intro last hlast
  obtain rfl : windowSpan stream window = last := by simpa [answer] using hlast
  refine ⟨before, after, ?_, ?_⟩
  · simp only [answer, List.append_nil]
    rw [← hstream, ← hafter, List.append_assoc]
  · intro i hfirst hlasthas
    have hstop : i < r.first.stop := hfirst.2
    simp only [Span.Has] at hlasthas
    simp only [answer, List.append_nil, ← h.offset]
    omega

end States

end Reading

end Kernel
end Rttx
