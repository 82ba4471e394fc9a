import Mathlib.Data.List.Basic

/-!
# Kernel: lines that are wrapped into rows

A text is kept in rows, and a row may continue the line of the one before it.  A
row has what is in it over its full width, and what is shown of it where its line
ends.  Written out as tokens, each row that ends a line is followed by an end of
line.

Empty lines at the end of a text carry nothing; `SameLines` takes no account of
them.

**Results.**
* `tokenLines_rows`: the lines of the rows as they are written.
* `shownLines_same`: these are the lines of the text if the rows that continue are
  shown in full.
* `Wrapping.logicalLines_layOut`: a text laid out at another width has the same lines.
-/

namespace Rttx
namespace Kernel

universe u v

section Lines

variable {α : Type u}

/-- Put items before the first line. -/
def prepend (items : List α) : List (List α) → List (List α)
  | [] => [items]
  | line :: rest => (items ++ line) :: rest

@[simp] theorem prepend_append (first second : List α) (lines : List (List α)) :
    prepend (first ++ second) lines = prepend first (prepend second lines) := by
  cases lines <;> simp [prepend]

theorem prepend_nil {lines : List (List α)}
    (h : lines ≠ []) :
    prepend [] lines = lines := by
  cases lines with
  | nil => exact absurd rfl h
  | cons line rest => rfl

theorem prepend_ne_nil (items : List α) (lines : List (List α)) : prepend items lines ≠ [] := by
  cases lines <;> simp [prepend]

theorem map_prepend {β : Type v} (f : List α → List β)
    (hf : ∀ first second, f (first ++ second) = f first ++ f second)
    (items : List α) (lines : List (List α)) :
    (prepend items lines).map f = prepend (f items) (lines.map f) := by
  cases lines <;> simp [prepend, hf]

/-- The lines without the empty ones at the end. -/
def trimEnd : List (List α) → List (List α)
  | [] => []
  | line :: rest =>
      match trimEnd rest with
      | [] => if line = [] then [] else [line]
      | next :: more => line :: next :: more

/-- The same lines but for empty ones at the end. -/
def SameLines (first second : List (List α)) : Prop :=
  trimEnd first = trimEnd second

theorem SameLines.symm {first second : List (List α)}
    (h : SameLines first second) :
    SameLines second first :=
  Eq.symm h

theorem SameLines.trans {first second third : List (List α)}
    (h : SameLines first second)
    (h' : SameLines second third) :
    SameLines first third :=
  Eq.trans h h'

theorem SameLines.cons {first second : List (List α)}
    (h : SameLines first second)
    (line : List α) :
    SameLines (line :: first) (line :: second) := by
  unfold SameLines at h ⊢
  rw [trimEnd, trimEnd, h]

theorem trimEnd_cons_eq_nil {line : List α} {rest : List (List α)} :
    trimEnd (line :: rest) = [] ↔ line = [] ∧ trimEnd rest = [] := by
  rw [trimEnd]
  cases trimEnd rest with
  | nil =>
      by_cases hline : line = [] <;> simp [hline]
  | cons next more => simp

/-- An empty line at the end carries nothing. -/
theorem SameLines.append_nil (lines : List (List α)) : SameLines (lines ++ [[]]) lines := by
  induction lines with
  | nil => rfl
  | cons line rest ih => exact ih.cons line

theorem SameLines.prepend {first second : List (List α)}
    (h : SameLines first second)
    (items : List α) :
    SameLines (prepend items first) (prepend items second) := by
  -- Only the line that is put first may become empty or cease to be.
  have hnil : ∀ lines : List (List α), trimEnd lines = [] →
      SameLines (Kernel.prepend items lines) [items] := by
    intro lines hlines
    cases lines with
    | nil => rfl
    | cons line rest =>
        obtain ⟨rfl, hrest⟩ := trimEnd_cons_eq_nil.mp hlines
        have hcons : SameLines rest [] := hrest
        rw [Kernel.prepend, List.append_nil]
        exact hcons.cons items
  cases first with
  | nil => exact (hnil second h.symm).symm
  | cons line rest =>
      cases second with
      | nil => exact hnil _ h
      | cons line' rest' =>
          unfold SameLines at h
          have hrest : line = line' ∧ trimEnd rest = trimEnd rest' := by
            rw [trimEnd, trimEnd] at h
            cases hfirst : trimEnd rest with
            | nil =>
                cases hsecond : trimEnd rest' with
                | nil =>
                    rw [hfirst, hsecond] at h
                    refine ⟨?_, rfl⟩
                    by_cases hline : line = []
                    · by_cases hline' : line' = []
                      · rw [hline, hline']
                      · simp [hline, hline'] at h
                    · by_cases hline' : line' = []
                      · simp [hline, hline'] at h
                      · simpa [hline, hline'] using h
                | cons next more =>
                    rw [hfirst, hsecond] at h
                    by_cases hline : line = [] <;> simp [hline] at h
            | cons next more =>
                cases hsecond : trimEnd rest' with
                | nil =>
                    rw [hfirst, hsecond] at h
                    by_cases hline' : line' = [] <;> simp [hline'] at h
                | cons next' more' =>
                    rw [hfirst, hsecond] at h
                    simp only [List.cons.injEq] at h
                    exact ⟨h.1, by rw [h.2.1, h.2.2]⟩
          obtain ⟨rfl, hrest⟩ := hrest
          exact SameLines.cons hrest (items ++ line)

/-- The empty lines at the end stay at the end. -/
theorem SameLines.map_trimEnd {β : Type v} {f : List α → List β}
    (hf : f [] = [])
    (lines : List (List α)) :
    SameLines (lines.map f) ((trimEnd lines).map f) := by
  induction lines with
  | nil => rfl
  | cons line rest ih =>
      rw [trimEnd]
      cases hrest : trimEnd rest with
      | nil =>
          rw [hrest] at ih
          by_cases hline : line = []
          · subst hline
            have hall : SameLines (f [] :: rest.map f) [f []] := ih.cons (f [])
            rw [if_pos rfl, List.map_cons]
            rw [hf] at hall ⊢
            exact hall
          · rw [if_neg hline]
            exact ih.cons (f line)
      | cons next more =>
          rw [hrest] at ih
          exact ih.cons (f line)

theorem SameLines.map {β : Type v} {f : List α → List β} {first second : List (List α)}
    (h : SameLines first second)
    (hf : f [] = []) :
    SameLines (first.map f) (second.map f) := by
  have hfirst := SameLines.map_trimEnd hf first
  have hsecond := SameLines.map_trimEnd hf second
  have hsame : trimEnd first = trimEnd second := h
  rw [hsame] at hfirst
  exact hfirst.trans hsecond.symm

end Lines

section Tokens

variable {α : Type u} {μ : Type v}

/-- What a text is written as: items, ends of lines, and marks that print nothing. -/
inductive LineToken (α : Type u) (μ : Type v)
  | item (a : α)
  | lineEnd
  | mark (m : μ)

/-- The lines of the tokens. -/
def tokenLines : List (LineToken α μ) → List (List α)
  | [] => [[]]
  | .item a :: rest => prepend [a] (tokenLines rest)
  | .lineEnd :: rest => [] :: tokenLines rest
  | .mark _ :: rest => tokenLines rest

theorem tokenLines_ne_nil (tokens : List (LineToken α μ)) : tokenLines tokens ≠ [] := by
  induction tokens with
  | nil => exact List.cons_ne_nil _ _
  | cons token rest ih =>
      cases token with
      | item a => exact prepend_ne_nil _ _
      | lineEnd => exact List.cons_ne_nil _ _
      | mark m => exact ih

theorem tokenLines_items (items : List α) (rest : List (LineToken α μ)) :
    tokenLines (items.map LineToken.item ++ rest) = prepend items (tokenLines rest) := by
  induction items with
  | nil => exact (prepend_nil (tokenLines_ne_nil rest)).symm
  | cons a items ih =>
      rw [List.map_cons, List.cons_append, tokenLines, ih, ← prepend_append]
      rfl

theorem tokenLines_append_lineEnd (first second : List (LineToken α μ)) :
    tokenLines (first ++ .lineEnd :: second) = tokenLines first ++ tokenLines second := by
  induction first with
  | nil => rfl
  | cons token rest ih =>
      cases token with
      | item a =>
          rw [List.cons_append, tokenLines, ih, tokenLines]
          cases hrest : tokenLines rest with
          | nil => exact absurd hrest (tokenLines_ne_nil rest)
          | cons line more => rfl
      | lineEnd =>
          rw [List.cons_append, tokenLines, ih]
          rfl
      | mark m => exact ih

/-- Tokens without an end of line are one line. -/
theorem tokenLines_of_flat {tokens : List (LineToken α μ)}
    (h : .lineEnd ∉ tokens) :
    ∃ line, tokenLines tokens = [line] := by
  induction tokens with
  | nil => exact ⟨[], rfl⟩
  | cons token rest ih =>
      rw [List.mem_cons, not_or] at h
      obtain ⟨line, hline⟩ := ih h.2
      cases token with
      | item a => exact ⟨a :: line, by rw [tokenLines, hline]; rfl⟩
      | lineEnd => exact absurd rfl h.1
      | mark m => exact ⟨line, hline⟩

/-- An end of line at the end carries nothing. -/
theorem tokenLines_snoc_lineEnd (tokens : List (LineToken α μ)) :
    tokenLines (tokens ++ [.lineEnd]) = tokenLines tokens ++ [[]] :=
  tokenLines_append_lineEnd tokens []

/-- The tokens without the marks. -/
def unmarked (tokens : List (LineToken α μ)) : List (LineToken α μ) :=
  tokens.filter fun
    | .mark _ => false
    | _ => true

theorem unmarked_append (first second : List (LineToken α μ)) :
    unmarked (first ++ second) = unmarked first ++ unmarked second :=
  List.filter_append ..

theorem unmarked_items (items : List α) :
    unmarked (items.map (LineToken.item (μ := μ))) = items.map LineToken.item := by
  induction items with
  | nil => rfl
  | cons a items ih =>
      rw [List.map_cons]
      exact congrArg (LineToken.item a :: ·) ih

theorem item_mem_unmarked {tokens : List (LineToken α μ)} {a : α} :
    .item a ∈ unmarked tokens ↔ .item a ∈ tokens := by
  simp [unmarked]

theorem tokenLines_unmarked (tokens : List (LineToken α μ)) :
    tokenLines (unmarked tokens) = tokenLines tokens := by
  induction tokens with
  | nil => rfl
  | cons token rest ih =>
      cases token with
      | item a =>
          change tokenLines (.item a :: unmarked rest) = _
          rw [tokenLines, ih, tokenLines]
      | lineEnd =>
          change tokenLines (.lineEnd :: unmarked rest) = _
          rw [tokenLines, ih, tokenLines]
      | mark m => exact ih

end Tokens

section Rows

variable {α : Type u} {μ : Type v}

/-- A row: what is in it over its full width, what is shown of it where its line
ends, and whether the next row continues its line. -/
structure WrappedRow (α : Type u) where
  full : List α
  shown : List α
  wrapped : Bool
deriving DecidableEq

/-- The lines of a text that is kept in rows. -/
def logicalLines : List (WrappedRow α) → List (List α)
  | [] => []
  | row :: rest =>
      if row.wrapped ∧ rest ≠ [] then
        prepend row.full (logicalLines rest)
      else
        row.shown :: logicalLines rest

/-- The lines of the rows as they are shown. -/
def shownLines : List (WrappedRow α) → List (List α)
  | [] => [[]]
  | row :: rest =>
      if row.wrapped then
        prepend row.shown (shownLines rest)
      else
        row.shown :: shownLines rest

/-- What a row is written as. -/
def WrappedRow.tokens (row : WrappedRow α) : List (LineToken α μ) :=
  row.shown.map LineToken.item ++ if row.wrapped then [] else [.lineEnd]

theorem WrappedRow.item_mem_tokens {row : WrappedRow α} {a : α} :
    .item a ∈ row.tokens (μ := μ) ↔ a ∈ row.shown := by
  rw [WrappedRow.tokens]
  cases row.wrapped <;> simp

/-- **The lines of the rows as they are written.** -/
theorem tokenLines_rows (rows : List (WrappedRow α)) :
    tokenLines (rows.flatMap (WrappedRow.tokens (μ := μ))) = shownLines rows := by
  induction rows with
  | nil => rfl
  | cons row rest ih =>
      rw [List.flatMap_cons, WrappedRow.tokens, List.append_assoc, tokenLines_items, shownLines]
      by_cases hwrapped : row.wrapped = true
      · rw [if_pos hwrapped, if_pos hwrapped, List.nil_append, ih]
      · rw [if_neg hwrapped, if_neg hwrapped, List.singleton_append, tokenLines, ih, prepend,
          List.append_nil]

/-- The rows that continue are shown in full. -/
def NoGaps : List (WrappedRow α) → Prop
  | [] => True
  | row :: rest => (row.wrapped → rest ≠ [] → row.shown = row.full) ∧ NoGaps rest

theorem shownLines_ne_nil (rows : List (WrappedRow α)) : shownLines rows ≠ [] := by
  cases rows with
  | nil => exact List.cons_ne_nil _ _
  | cons row rest =>
      rw [shownLines]
      split
      · exact prepend_ne_nil _ _
      · exact List.cons_ne_nil _ _

/-- **The rows are written as the lines of the text** if those that continue are
shown in full. -/
theorem shownLines_same {rows : List (WrappedRow α)}
    (h : NoGaps rows) :
    SameLines (shownLines rows) (logicalLines rows) := by
  induction rows with
  | nil => rfl
  | cons row rest ih =>
      rw [shownLines, logicalLines]
      by_cases hwrapped : row.wrapped = true
      · rw [if_pos hwrapped]
        by_cases hlast : rest = []
        · subst hlast
          rw [if_neg (fun hboth => hboth.2 rfl)]
          change SameLines [row.shown ++ []] [row.shown]
          rw [List.append_nil]
          rfl
        · rw [if_pos ⟨hwrapped, hlast⟩, h.1 hwrapped hlast]
          exact (ih h.2).prepend _
      · rw [if_neg hwrapped, if_neg (fun hboth => hwrapped hboth.1)]
        exact (ih h.2).cons _

/-- Rows of which nothing is shown carry nothing at the end. -/
theorem shownLines_append_blank (rows : List (WrappedRow α)) {blank : List (WrappedRow α)}
    (h : ∀ row ∈ blank, row.shown = []) :
    SameLines (shownLines (rows ++ blank)) (shownLines rows) := by
  induction rows with
  | nil =>
      induction blank with
      | nil => rfl
      | cons row rest ih =>
          have hrest := ih fun row hrow => h row (List.mem_cons_of_mem _ hrow)
          rw [List.nil_append] at hrest ⊢
          have hrows : shownLines (row :: rest) =
              if row.wrapped then prepend row.shown (shownLines rest)
              else row.shown :: shownLines rest := rfl
          rw [hrows, h row List.mem_cons_self]
          split
          · rw [prepend_nil (shownLines_ne_nil rest)]
            exact hrest
          · exact hrest.cons []
  | cons row rest ih =>
      rw [List.cons_append, shownLines, shownLines]
      split
      · exact ih.prepend _
      · exact ih.cons _

end Rows

section Layout

variable {α : Type u}

/-- A way to lay a line out in rows. -/
structure Wrapping (α : Type u) where
  rows : List α → List (List α)
  flatten_rows : ∀ line, (rows line).flatten = line
  rows_ne_nil : ∀ line, rows line ≠ []

/-- The rows of one line: all but the last continue. -/
def wrapLine : List (List α) → List (WrappedRow α)
  | [] => []
  | [row] => [⟨row, row, false⟩]
  | row :: next :: rest => ⟨row, row, true⟩ :: wrapLine (next :: rest)

/-- Rows of `width` items. -/
def fillRows (width : Nat) (hwidth : 0 < width) (line : List α) : List (List α) :=
  if line.length ≤ width then
    [line]
  else
    line.take width :: fillRows width hwidth (line.drop width)
termination_by line.length
decreasing_by
  rw [List.length_drop]
  omega

theorem logicalLines_wrapLine {rows : List (List α)}
    (h : rows ≠ [])
    (rest : List (WrappedRow α)) :
    logicalLines (wrapLine rows ++ rest) = rows.flatten :: logicalLines rest := by
  induction rows with
  | nil => exact absurd rfl h
  | cons row more ih =>
      cases more with
      | nil => simp [wrapLine, logicalLines]
      | cons next more =>
          rw [wrapLine, List.cons_append, logicalLines, ih (List.cons_ne_nil _ _)]
          have hmore : wrapLine (next :: more) ++ rest ≠ [] := by
            cases more <;> exact List.cons_ne_nil _ _
          rw [if_pos ⟨rfl, hmore⟩]
          rfl

namespace Wrapping

/-- The rows of a text. -/
def layOut (w : Wrapping α) (lines : List (List α)) : List (WrappedRow α) :=
  lines.flatMap fun line => wrapLine (w.rows line)

/-- **A text shows the same lines however it is laid out.** -/
theorem logicalLines_layOut (w : Wrapping α) (lines : List (List α)) :
    logicalLines (w.layOut lines) = lines := by
  induction lines with
  | nil => rfl
  | cons line rest ih =>
      rw [layOut, List.flatMap_cons, logicalLines_wrapLine (w.rows_ne_nil line), w.flatten_rows]
      exact congrArg (line :: ·) ih

/-- A terminal of `width` columns. -/
def ofWidth (width : Nat) (hwidth : 0 < width) : Wrapping α where
  rows := fillRows width hwidth
  flatten_rows := by
    intro line
    fun_induction fillRows width hwidth line with
    | case1 line hfits => simp
    | case2 line hlong ih => rw [List.flatten_cons, ih, List.take_append_drop]
  rows_ne_nil := by
    intro line
    rw [fillRows]
    split <;> exact List.cons_ne_nil _ _

end Wrapping

end Layout

end Kernel
end Rttx
