import Rttx.Server.QueryAnswers

/-!
# What a stripped stream may still hold

The filter removes the queries of a batch in one pass.  The bytes that stood
around a query come together, and they may be a query again, which the pass has
gone by.  This is so exactly if the bytes of a query stand in the batch with
whole queries between them.

**Results.**
* `prefix_stripped_iff`, `infix_stripped_iff`: the bytes that come together.
* `strippedStably_iff`: the batches that are stripped of all queries in one pass.
-/

namespace Rttx
namespace Server

open Kernel

section Deletions

theorem stripClientQueries_kept {b : UInt8} {rest : Bytes}
    (h : csiQueryLen (b :: rest) = none) :
    stripClientQueries (b :: rest) = b :: stripClientQueries rest := by
  rw [← flatMap_sent_queryPieces, ← flatMap_sent_queryPieces, queryPieces, pieces_kept h]
  rfl

theorem stripClientQueries_query {c : ControlSequence}
    (h : Known c)
    (rest : Bytes) :
    stripClientQueries (c.bytes ++ rest) = stripClientQueries rest := by
  rw [← flatMap_sent_queryPieces, ← flatMap_sent_queryPieces, queryPieces_query h]
  rfl

/-- A batch is empty, goes on with a byte that is kept, or with a query. -/
theorem queries_induction {motive : Bytes → Prop}
    (nil : motive [])
    (kept : ∀ b rest, csiQueryLen (b :: rest) = none → motive rest → motive (b :: rest))
    (query : ∀ c rest, Known c → motive rest → motive (c.bytes ++ rest))
    (data : Bytes) :
    motive data := by
  induction data using pieces_induction findsQueries with
  | nil => exact nil
  | kept b rest hnone ih => exact kept b rest hnone ih
  | removed data n hsome ih =>
      obtain ⟨c, rest, hknown, rfl, rfl⟩ := csiQueryLen_eq_some hsome
      rw [List.drop_left] at ih
      exact query c rest hknown ih

/-- A known sequence has one escape byte, in front. -/
theorem Known.bytes_eq {c : ControlSequence}
    (h : Known c) :
    ∃ body, c.bytes = esc :: body ∧ esc ∉ body := by
  obtain ⟨body, hbody, hone, -⟩ := esc_not_mem_tail h.parse
  exact ⟨body, hbody, hone⟩

/-- The known sequence that a batch begins with is one. -/
theorem Known.unique {c c' : ControlSequence} {rest rest' : Bytes}
    (h : Known c)
    (h' : Known c')
    (heq : c.bytes ++ rest = c'.bytes ++ rest') :
    rest = rest' := by
  have hlen := csiQueryLen_bytes h rest
  rw [heq, csiQueryLen_bytes h' rest', Option.some.injEq] at hlen
  exact (List.append_inj heq hlen.symm).2

end Deletions

section Together

/-- Bytes that stand in a batch from its start on, with whole queries between. -/
inductive WithQueries : Bytes → Bytes → Prop
  | done (rest : Bytes) : WithQueries [] rest
  | byte (b : UInt8) {items rest : Bytes}
      (h : WithQueries items rest) :
      WithQueries (b :: items) (b :: rest)
  | query {c : ControlSequence} {items rest : Bytes}
      (hknown : Known c)
      (h : WithQueries items rest) :
      WithQueries items (c.bytes ++ rest)

theorem withQueries_cons_iff {b first : UInt8} {items rest : Bytes}
    (hnone : csiQueryLen (b :: rest) = none) :
    WithQueries (first :: items) (b :: rest) ↔ first = b ∧ WithQueries items rest := by
  constructor
  · intro h
    generalize hdata : b :: rest = data at h
    cases h with
    | byte first h =>
        cases hdata
        exact ⟨rfl, h⟩
    | query hknown h =>
        rw [hdata, csiQueryLen_bytes hknown] at hnone
        cases hnone
  · rintro ⟨rfl, h⟩
    exact .byte first h

theorem withQueries_query_iff {c : ControlSequence} {items rest : Bytes}
    (hknown : Known c)
    (hitems : esc ∉ items) :
    WithQueries items (c.bytes ++ rest) ↔ WithQueries items rest := by
  refine ⟨fun h => ?_, .query hknown⟩
  obtain ⟨body, hbody, -⟩ := hknown.bytes_eq
  generalize hdata : c.bytes ++ rest = data at h
  cases h with
  | done => exact .done rest
  | byte first h =>
      rw [hbody] at hdata
      cases hdata
      exact absurd List.mem_cons_self hitems
  | query hknown' h => exact hknown.unique hknown' hdata ▸ h

/-- **The bytes that come first** when the queries are gone. -/
theorem prefix_stripped_iff {items : Bytes}
    (hitems : esc ∉ items)
    (data : Bytes) :
    items <+: stripClientQueries data ↔ WithQueries items data := by
  induction data using queries_induction generalizing items with
  | nil =>
      cases items with
      | nil => exact ⟨fun _ => .done [], fun _ => List.nil_prefix⟩
      | cons first items =>
          constructor
          · intro h
            cases List.prefix_nil.mp h
          · intro h
            generalize hdata : ([] : Bytes) = data at h
            cases h with
            | byte => cases hdata
            | query hknown =>
                obtain ⟨body, hbody, -⟩ := hknown.bytes_eq
                rw [hbody] at hdata
                cases hdata
  | kept b rest hnone ih =>
      rw [stripClientQueries_kept hnone]
      cases items with
      | nil => exact ⟨fun _ => .done _, fun _ => List.nil_prefix⟩
      | cons first items =>
          rw [List.cons_prefix_cons, withQueries_cons_iff hnone,
            ih fun hmem => hitems (List.mem_cons_of_mem _ hmem)]
  | query c rest hknown ih =>
      rw [stripClientQueries_query hknown, withQueries_query_iff hknown hitems, ih hitems]

/-- **The sequences that come together** begin at an escape byte that begins no
query itself. -/
theorem infix_stripped_iff {body : Bytes}
    (hbody : esc ∉ body)
    (data : Bytes) :
    esc :: body <:+: stripClientQueries data ↔
      ∃ front rest, data = front ++ esc :: rest ∧ csiQueryLen (esc :: rest) = none ∧
        WithQueries body rest := by
  induction data using queries_induction with
  | nil =>
      constructor
      · intro h
        cases List.infix_nil.mp h
      · rintro ⟨front, rest, hdata, -⟩
        cases front <;> cases hdata
  | kept b rest hnone ih =>
      rw [stripClientQueries_kept hnone, List.infix_cons_iff, List.cons_prefix_cons,
        prefix_stripped_iff hbody, ih]
      constructor
      · rintro (⟨rfl, h⟩ | ⟨front, tail, rfl, h⟩)
        · exact ⟨[], rest, rfl, hnone, h⟩
        · exact ⟨b :: front, tail, rfl, h⟩
      · rintro ⟨front, tail, hdata, hstart, h⟩
        cases front with
        | nil =>
            cases hdata
            exact Or.inl ⟨rfl, h⟩
        | cons first front =>
            cases hdata
            exact Or.inr ⟨front, tail, rfl, hstart, h⟩
  | query c rest hknown ih =>
      rw [stripClientQueries_query hknown, ih]
      obtain ⟨own, hown, hone⟩ := hknown.bytes_eq
      constructor
      · rintro ⟨front, tail, rfl, h⟩
        exact ⟨c.bytes ++ front, tail, (List.append_assoc _ _ _).symm, h⟩
      · rintro ⟨front, tail, hdata, hstart, h⟩
        rcases List.append_eq_append_iff.mp hdata with ⟨gap, rfl, hrest⟩ | ⟨gap, hcut, htail⟩
        · exact ⟨gap, tail, hrest, hstart, h⟩
        · cases gap with
          | nil => exact ⟨[], tail, htail.symm, hstart, h⟩
          | cons first gap =>
              -- The escape byte would stand in the query.
              cases htail
              cases front with
              | nil =>
                  have hsome := csiQueryLen_bytes hknown rest
                  rw [hcut] at hsome
                  exact absurd (hsome.symm.trans hstart) (Option.some_ne_none _)
              | cons other front =>
                  rw [hown] at hcut
                  cases hcut
                  exact absurd (List.mem_append_right _ List.mem_cons_self) hone

end Together

section Stability

/-- A query whose bytes stand in the batch with whole queries between them. -/
def InterruptedQuery (data : Bytes) : Prop :=
  ∃ c body front rest, Known c ∧ c.bytes = esc :: body ∧ data = front ++ esc :: rest ∧
    csiQueryLen (esc :: rest) = none ∧ WithQueries body rest

/-- One pass strips a batch of its queries, and takes nothing else. -/
structure StrippedStably (data : Bytes) : Prop where
  /-- Whole recognised sequences are deleted, and the other bytes kept in order. -/
  deletes : ∃ parts : List (Piece UInt8), parts.flatMap Piece.bytes = data ∧
    (∀ span, .removed span ∈ parts → csiQueryLen span = some span.length) ∧
      stripClientQueries data = parts.flatMap Piece.sent
  fastPath : stripClientQueries data = stripClientQueriesFrom 0 data
  /-- No place is left where a query is recognised. -/
  stable : ∀ front rest, stripClientQueries data = front ++ rest → csiQueryLen rest = none
  again : stripClientQueries (stripClientQueries data) = stripClientQueries data

theorem stripClientQueries_of_none {data : Bytes}
    (h : ∀ front rest, data = front ++ rest → csiQueryLen rest = none) :
    stripClientQueries data = data := by
  induction data with
  | nil => rfl
  | cons b rest ih =>
      rw [stripClientQueries_kept (h [] _ rfl), ih]
      intro front tail hrest
      exact h (b :: front) tail (congrArg (b :: ·) hrest)

theorem stable_iff (data : Bytes) :
    (∀ front rest, stripClientQueries data = front ++ rest → csiQueryLen rest = none) ↔
      ¬ InterruptedQuery data := by
  constructor
  · rintro h ⟨c, body, front, rest, hknown, hbody, hdata, hstart, hspread⟩
    obtain ⟨body', hbody', hone⟩ := hknown.bytes_eq
    obtain rfl : body' = body := by
      rw [hbody] at hbody'
      exact (List.cons.inj hbody').2.symm
    obtain ⟨before, after, hinfix⟩ :=
      (infix_stripped_iff hone data).mpr ⟨front, rest, hdata, hstart, hspread⟩
    have hnone := h before (c.bytes ++ after) (by rw [hbody, ← hinfix, List.append_assoc])
    rw [csiQueryLen_bytes hknown] at hnone
    cases hnone
  · intro h front rest hsplit
    cases hlen : csiQueryLen rest with
    | none => rfl
    | some n =>
        obtain ⟨c, more, hknown, rfl, -⟩ := csiQueryLen_eq_some hlen
        obtain ⟨body, hbody, hone⟩ := hknown.bytes_eq
        have hinfix : esc :: body <:+: stripClientQueries data :=
          ⟨front, more, by rw [hsplit, hbody, List.append_assoc]⟩
        obtain ⟨before, tail, hdata, hstart, hspread⟩ := (infix_stripped_iff hone data).mp hinfix
        exact absurd ⟨c, body, before, tail, hknown, hbody, hdata, hstart, hspread⟩ h

/-- **One pass is enough** if and only if no query of the batch has whole queries
between its bytes. -/
theorem strippedStably_iff (data : Bytes) :
    StrippedStably data ↔ ¬ InterruptedQuery data := by
  constructor
  · intro h
    exact (stable_iff data).mp h.stable
  · intro h
    have hstable := (stable_iff data).mpr h
    refine ⟨⟨queryPieces data, flatMap_bytes_pieces findsQueries data, ?_,
      (flatMap_sent_queryPieces data).symm⟩, stripClientQueries_eq_scan data, hstable,
      stripClientQueries_of_none hstable⟩
    intro span hspan
    obtain ⟨c, hknown, rfl⟩ := known_of_removed hspan
    have hlen := csiQueryLen_bytes hknown []
    rwa [List.append_nil] at hlen

/-- A query between the bytes of another: the other comes together. -/
theorem stripClientQueries_leaves_query :
    stripClientQueries (bytesOf "\x1b\x1b[6n[6n") = bytesOf "\x1b[6n" ∧
      ¬ StrippedStably (bytesOf "\x1b\x1b[6n[6n") := by
  have hleft : stripClientQueries (bytesOf "\x1b\x1b[6n[6n") = bytesOf "\x1b[6n" := by
    decide +kernel
  refine ⟨hleft, fun h => ?_⟩
  have hnone := h.stable [] _ hleft
  exact absurd hnone (by decide +kernel)

end Stability

end Server
end Rttx
