import Mathlib.Data.List.Basic
import Mathlib.Data.List.Induction

/-!
# Kernel: spans removed from a stream

A filter walks a stream; where a recogniser finds a span it removes the span,
and everywhere else it keeps an item and goes on behind it.  What the filter
makes of a stream is a list of pieces.

**Results.**
* `pieces_induction`: a stream is empty, goes on with an item that is kept, or
  with a span.
* `flatMap_bytes_pieces`: the pieces are the stream.
* `getLast?_sent`: the end of a stream, if it is in no span, is the end of what is kept.
* `piece_unique`: what stands at a place of the stream is one piece.
* `infix_sent_iff`: which items come together when the spans are removed.
-/

namespace Rttx
namespace Kernel

universe u

/-- An item that is kept, or a span that is removed. -/
inductive Piece (α : Type u)
  | kept (item : α)
  | removed (span : List α)
deriving DecidableEq

namespace Piece

variable {α : Type u}

def bytes : Piece α → List α
  | kept item => [item]
  | removed span => span

def sent : Piece α → List α
  | kept item => [item]
  | removed _ => []

theorem flatMap_bytes_kept (items : List α) :
    (items.map kept).flatMap bytes = items := by
  rw [List.flatMap_map]
  exact List.flatMap_singleton' items

theorem flatMap_sent_kept (items : List α) :
    (items.map kept).flatMap sent = items := by
  rw [List.flatMap_map]
  exact List.flatMap_singleton' items

/-- An item at the end of a stream that stands in no removed span stays at the end. -/
theorem getLast?_sent {ps : List (Piece α)} {last : α}
    (h : (ps.flatMap bytes).getLast? = some last)
    (hspans : ∀ span, .removed span ∈ ps → last ∉ span) :
    (ps.flatMap sent).getLast? = some last := by
  induction ps using List.reverseRecOn with
  | nil => cases h
  | append_singleton ps piece ih =>
      rw [List.flatMap_append, List.flatMap_singleton, List.getLast?_append] at h ⊢
      cases piece with
      | kept item => exact h
      | removed span =>
          have hspan : span.getLast? = none := by
            cases hlast : span.getLast? with
            | none => rfl
            | some item =>
                rw [bytes, hlast, Option.some_or, Option.some.injEq] at h
                have hnot := hspans span (List.mem_append_right _ List.mem_cons_self)
                exact absurd (h ▸ List.mem_of_getLast? hlast) hnot
          rw [bytes, hspan, Option.none_or] at h
          exact ih h fun span hmem => hspans span (List.mem_append_left _ hmem)

end Piece

section Cutting

variable {α : Type u}

/-- The pieces of a stream, with the items of a span still to skip. -/
def piecesFrom (spanLen : List α → Option Nat) : Nat → List α → List (Piece α)
  | _, [] => []
  | skip + 1, _ :: rest => piecesFrom spanLen skip rest
  | 0, item :: rest =>
      match spanLen (item :: rest) with
      | some n => .removed ((item :: rest).take n) :: piecesFrom spanLen (n - 1) rest
      | none => .kept item :: piecesFrom spanLen 0 rest

/-- The pieces of a stream; `spanLen` is the length of the span that the stream
goes on with, if it does. -/
def pieces (spanLen : List α → Option Nat) (data : List α) : List (Piece α) :=
  piecesFrom spanLen 0 data

/-- The recogniser finds no empty spans. -/
def FindsSpans (spanLen : List α → Option Nat) : Prop :=
  ∀ data n, spanLen data = some n → 0 < n ∧ n ≤ data.length

theorem piecesFrom_eq (spanLen : List α → Option Nat) (skip : Nat) (data : List α) :
    piecesFrom spanLen skip data = pieces spanLen (data.drop skip) := by
  induction skip generalizing data with
  | zero => rfl
  | succ skip ih =>
      cases data with
      | nil => rfl
      | cons item rest => exact ih rest

theorem pieces_kept {spanLen : List α → Option Nat} {item : α} {rest : List α}
    (h : spanLen (item :: rest) = none) :
    pieces spanLen (item :: rest) = .kept item :: pieces spanLen rest := by
  rw [pieces, piecesFrom, h]
  rfl

variable {spanLen : List α → Option Nat}

theorem pieces_removed
    (hspans : FindsSpans spanLen)
    {data : List α} {n : Nat}
    (h : spanLen data = some n) :
    pieces spanLen data = .removed (data.take n) :: pieces spanLen (data.drop n) := by
  obtain ⟨hpos, hle⟩ := hspans data n h
  cases data with
  | nil => exact absurd hpos (Nat.not_lt.mpr hle)
  | cons item rest =>
      have hdrop : (item :: rest).drop n = rest.drop (n - 1) := by
        obtain ⟨m, rfl⟩ := Nat.exists_eq_succ_of_ne_zero (Nat.ne_of_gt hpos)
        rfl
      rw [hdrop, ← piecesFrom_eq, pieces, piecesFrom, h]

/-- A stream is empty, goes on with an item that is kept, or with a span. -/
theorem pieces_induction {motive : List α → Prop}
    (hspans : FindsSpans spanLen)
    (nil : motive [])
    (kept : ∀ item rest, spanLen (item :: rest) = none → motive rest → motive (item :: rest))
    (removed : ∀ data n, spanLen data = some n → motive (data.drop n) → motive data)
    (data : List α) :
    motive data := by
  induction hlen : data.length using Nat.strongRecOn generalizing data with
  | _ len ih =>
      subst hlen
      cases data with
      | nil => exact nil
      | cons item rest =>
          cases hspan : spanLen (item :: rest) with
          | none => exact kept item rest hspan (ih _ (Nat.lt_succ_self _) rest rfl)
          | some n =>
              obtain ⟨hpos, hle⟩ := hspans _ n hspan
              refine removed _ n hspan (ih _ ?_ _ rfl)
              rw [List.length_drop]
              omega

/-- The pieces are the stream. -/
theorem flatMap_bytes_pieces
    (hspans : FindsSpans spanLen)
    (data : List α) :
    (pieces spanLen data).flatMap Piece.bytes = data := by
  induction data using pieces_induction hspans with
  | nil => rfl
  | kept item rest hnone ih =>
      rw [pieces_kept hnone, List.flatMap_cons, ih]
      rfl
  | removed data n hsome ih =>
      rw [pieces_removed hspans hsome, List.flatMap_cons, ih]
      exact List.take_append_drop n data

/-- What is removed is a span where it stands. -/
theorem span_of_removed
    (hspans : FindsSpans spanLen)
    {data span : List α}
    (h : .removed span ∈ pieces spanLen data) :
    ∃ rest, spanLen (span ++ rest) = some span.length := by
  induction data using pieces_induction hspans with
  | nil => cases h
  | kept item rest hnone ih =>
      rw [pieces_kept hnone, List.mem_cons] at h
      rcases h with h | h
      · cases h
      · exact ih h
  | removed data n hsome ih =>
      rw [pieces_removed hspans hsome, List.mem_cons] at h
      rcases h with h | h
      · cases h
        refine ⟨data.drop n, ?_⟩
        rw [List.take_append_drop, hsome, List.length_take_of_le (hspans data n hsome).2]
      · exact ih h

/-- No piece is empty. -/
theorem bytes_ne_nil
    (hspans : FindsSpans spanLen)
    {data : List α} {piece : Piece α}
    (h : piece ∈ pieces spanLen data) :
    piece.bytes ≠ [] := by
  cases piece with
  | kept item => exact List.cons_ne_nil item []
  | removed span =>
      obtain ⟨rest, hspan⟩ := span_of_removed hspans h
      exact List.length_pos_iff.mp (hspans _ _ hspan).1

/-- No span begins at an item that is kept. -/
theorem unspanned_of_kept
    (hspans : FindsSpans spanLen)
    {data : List α} {before after : List (Piece α)} {item : α}
    (h : pieces spanLen data = before ++ .kept item :: after) :
    spanLen (item :: after.flatMap Piece.bytes) = none := by
  induction data using pieces_induction hspans generalizing before with
  | nil => cases before <;> cases h
  | kept first rest hnone ih =>
      rw [pieces_kept hnone] at h
      cases before with
      | nil =>
          cases h
          rw [flatMap_bytes_pieces hspans]
          exact hnone
      | cons p before => exact ih (List.cons.inj h).2
  | removed data n hsome ih =>
      rw [pieces_removed hspans hsome] at h
      cases before with
      | nil => cases h
      | cons p before => exact ih (List.cons.inj h).2

end Cutting

section Places

variable {α : Type u}

/-- What stands at a place of a list of pieces, none empty, is one piece. -/
theorem piece_unique {all before before' after after' : List (Piece α)}
    {piece piece' : Piece α}
    (hne : ∀ p ∈ all, p.bytes ≠ [])
    (h : all = before ++ piece :: after)
    (h' : all = before' ++ piece' :: after')
    (hplace : before.flatMap Piece.bytes = before'.flatMap Piece.bytes) :
    piece = piece' := by
  have hnil : ∀ gap : List (Piece α), (∀ p ∈ gap, p ∈ all) →
      gap.flatMap Piece.bytes = [] → gap = [] := by
    intro gap hmem hgap
    cases gap with
    | nil => rfl
    | cons p gap =>
        rw [List.flatMap_cons, List.append_eq_nil_iff] at hgap
        exact absurd hgap.1 (hne p (hmem p List.mem_cons_self))
  rcases List.append_eq_append_iff.mp (h.symm.trans h') with ⟨gap, rfl, htail⟩ | ⟨gap, rfl, htail⟩
  · rw [List.flatMap_append, List.self_eq_append_right] at hplace
    have hgap := hnil gap (by
      intro p hp
      rw [h']
      exact List.mem_append_left _ (List.mem_append_right _ hp)) hplace
    subst hgap
    cases htail
    rfl
  · rw [List.flatMap_append, List.append_right_eq_self] at hplace
    have hgap := hnil gap (by
      intro p hp
      rw [h]
      exact List.mem_append_left _ (List.mem_append_right _ hp)) hplace
    subst hgap
    cases htail
    rfl

/-- The items are kept one after the other, with only removed spans before each. -/
def Spread : List α → List (Piece α) → Prop
  | [], _ => True
  | item :: items, all =>
      ∃ gap rest, all = gap ++ .kept item :: rest ∧ (∀ p ∈ gap, p.sent = []) ∧ Spread items rest

theorem flatMap_sent_eq_cons {all : List (Piece α)} {item : α} {items : List α} :
    all.flatMap Piece.sent = item :: items ↔
      ∃ gap rest, all = gap ++ .kept item :: rest ∧ (∀ p ∈ gap, p.sent = []) ∧
        rest.flatMap Piece.sent = items := by
  constructor
  · intro h
    induction all with
    | nil => cases h
    | cons p all ih =>
        cases p with
        | kept first =>
            cases h
            exact ⟨[], all, rfl, nofun, rfl⟩
        | removed span =>
            obtain ⟨gap, rest, rfl, hgap, hrest⟩ := ih h
            exact ⟨.removed span :: gap, rest, rfl, List.forall_mem_cons.mpr ⟨rfl, hgap⟩, hrest⟩
  · rintro ⟨gap, rest, rfl, hgap, rfl⟩
    rw [List.flatMap_append, List.flatMap_eq_nil_iff.mpr hgap]
    rfl

theorem prefix_sent_iff {items : List α} {all : List (Piece α)} :
    items <+: all.flatMap Piece.sent ↔ Spread items all := by
  induction items generalizing all with
  | nil => exact ⟨fun _ => trivial, fun _ => List.nil_prefix⟩
  | cons item items ih =>
      constructor
      · rintro ⟨more, hmore⟩
        obtain ⟨gap, rest, hall, hgap, hrest⟩ := flatMap_sent_eq_cons.mp hmore.symm
        exact ⟨gap, rest, hall, hgap, ih.mp ⟨more, hrest.symm⟩⟩
      · rintro ⟨gap, rest, hall, hgap, hspread⟩
        obtain ⟨more, hmore⟩ := ih.mpr hspread
        exact ⟨more, (flatMap_sent_eq_cons.mpr ⟨gap, rest, hall, hgap, hmore.symm⟩).symm⟩

/-- Items that come together when the spans are removed. -/
theorem infix_sent_iff {item : α} {items : List α} {all : List (Piece α)} :
    item :: items <:+: all.flatMap Piece.sent ↔
      ∃ before rest, all = before ++ .kept item :: rest ∧ Spread items rest := by
  constructor
  · rintro ⟨front, back, h⟩
    induction all generalizing front with
    | nil => cases front <;> cases h
    | cons p all ih =>
        cases p with
        | removed span =>
            obtain ⟨before, rest, rfl, hspread⟩ := ih front h
            exact ⟨.removed span :: before, rest, rfl, hspread⟩
        | kept first =>
            cases front with
            | nil =>
                obtain ⟨rfl, hrest⟩ := List.cons.inj h
                exact ⟨[], all, rfl, prefix_sent_iff.mp ⟨back, hrest⟩⟩
            | cons other front =>
                obtain ⟨before, rest, rfl, hspread⟩ := ih front (List.cons.inj h).2
                exact ⟨.kept first :: before, rest, rfl, hspread⟩
  · rintro ⟨before, rest, rfl, hspread⟩
    obtain ⟨more, hmore⟩ := prefix_sent_iff.mpr hspread
    refine ⟨before.flatMap Piece.sent, more, ?_⟩
    rw [List.flatMap_append, List.flatMap_cons, ← hmore]
    simp [Piece.sent]

end Places

end Kernel
end Rttx
