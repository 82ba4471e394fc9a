import Rttx.Kernel.StreamPieces
import Rttx.Server.OutputTask
import Rttx.Server.SampleTerminal

/-!
# Clipboard sequences in the output stream

The OSC 52 filter is a scanner that sees one byte at a time and one batch at a
time.  Here the stream as a whole is cut into OSC 52 sequences and the bytes
between them, and the scanner is shown to pass on just those bytes, but for an
opened introducer that it still holds.

The bytes that stand around a removed sequence come together.  So an introducer
with a whole sequence inside it is passed on, and nothing else can put one in
front of the clients, the grid and the log.

**Results.**
* `filter_chunk_invariant`: outputs, writes and the final state do not depend on
  the batches, and the bytes outside of sequences are passed on in order.
* `introducer_withheld_iff`: no introducer is passed on if and only if the stream
  has none with whole sequences between its bytes.
* `introducer_passed`: a stream that leaks a clipboard text.
-/

namespace Rttx
namespace Server

open Kernel

universe u v

section Sequences

/-- The bytes of an OSC 52 sequence that follow its introducer: parameters, and
a bell, a string terminator, a stray escape byte or nothing to end them. -/
def osc52BodyLen (body : Bytes) : Nat :=
  let params := body.takeWhile isOsc52ParamByte
  match body.dropWhile isOsc52ParamByte with
  | 0x07 :: _ => params.length + 1
  | 0x1b :: 0x5c :: _ => params.length + 2
  | 0x1b :: _ => params.length + 1
  | _ => params.length

/-- Length of the OSC 52 sequence that `data` goes on with, if it does. -/
def osc52Len (data : Bytes) : Option Nat :=
  if osc52Introducer.isPrefixOf data then
    some (osc52Introducer.length + osc52BodyLen (data.drop osc52Introducer.length))
  else
    none

theorem osc52BodyLen_cons_param {b : UInt8}
    (h : isOsc52ParamByte b = true)
    (rest : Bytes) :
    osc52BodyLen (b :: rest) = osc52BodyLen rest + 1 := by
  simp only [osc52BodyLen, List.takeWhile_cons, List.dropWhile_cons, h, if_true,
    List.length_cons]
  split <;> omega

theorem osc52BodyLen_bell (rest : Bytes) : osc52BodyLen (0x07 :: rest) = 1 :=
  rfl

theorem osc52BodyLen_terminator (rest : Bytes) : osc52BodyLen (esc :: 0x5c :: rest) = 2 :=
  rfl

theorem osc52BodyLen_stray {b : UInt8}
    (h : b ≠ 0x5c)
    (rest : Bytes) :
    osc52BodyLen (esc :: b :: rest) = 1 := by
  have hends : isOsc52ParamByte esc = false := by decide
  simp only [osc52BodyLen, List.takeWhile_cons, List.dropWhile_cons, hends]
  split
  · rfl
  · rename_i heq
    cases heq
    exact absurd rfl h
  · rfl
  · rename_i heq
    exact absurd rfl (heq (b :: rest))

theorem osc52BodyLen_other {b : UInt8}
    (hbell : b ≠ 0x07)
    (hesc : b ≠ esc)
    (hparam : ¬ isOsc52ParamByte b = true)
    (rest : Bytes) :
    osc52BodyLen (b :: rest) = 0 := by
  simp only [osc52BodyLen, List.takeWhile_cons, List.dropWhile_cons, hparam]
  split
  · rename_i heq
    cases heq
    exact absurd rfl hbell
  · rename_i heq
    cases heq
    exact absurd rfl hesc
  · rename_i heq
    cases heq
    exact absurd rfl hesc
  · rfl

theorem osc52BodyLen_le (body : Bytes) : osc52BodyLen body ≤ body.length := by
  induction body with
  | nil => exact Nat.le_refl 0
  | cons b rest ih =>
      by_cases hb : isOsc52ParamByte b = true
      · rw [osc52BodyLen_cons_param hb]
        exact Nat.succ_le_succ ih
      · simp only [osc52BodyLen, List.takeWhile_cons, List.dropWhile_cons, hb]
        split <;> simp_all

theorem findsOsc52 : FindsSpans osc52Len := by
  intro data n h
  unfold osc52Len at h
  rw [Option.ite_none_right_eq_some] at h
  obtain ⟨hstarts, hn⟩ := h
  obtain ⟨rest, rfl⟩ := List.isPrefixOf_iff_prefix.mp hstarts
  rw [List.drop_left] at hn
  have hle := osc52BodyLen_le rest
  have hlen : osc52Introducer.length = 5 := by decide
  simp only [Option.some.injEq] at hn
  rw [List.length_append]
  omega

end Sequences

section Scanning

namespace Osc52Filter

/-- The bytes of an opened introducer that the scanner holds. -/
def held (f : Osc52Filter) : Bytes :=
  match f.state with
  | .introducer matched => osc52Introducer.take matched
  | _ => []

/-- What has been passed on once the held bytes are. -/
def seen (f : Osc52Filter) (data : Bytes) : Bytes :=
  (f.advanceAll data).2 ++ (f.advanceAll data).1.held

theorem seen_cons (f : Osc52Filter) (b : UInt8) (rest : Bytes) :
    f.seen (b :: rest) = (f.advance b).2 ++ (f.advance b).1.seen rest := by
  simp only [seen, advanceAll, List.append_assoc]

/-- Where the scanner goes and what it passes on depends on where it is. -/
theorem advance_congr {f g : Osc52Filter}
    (h : f.state = g.state)
    (b : UInt8) :
    (f.advance b).1.state = (g.advance b).1.state ∧ (f.advance b).2 = (g.advance b).2 := by
  have hscan : ∀ {f g : Osc52Filter}, f.state = g.state →
      (f.scanByte b).1.state = (g.scanByte b).1.state ∧ (f.scanByte b).2 = (g.scanByte b).2 := by
    intro f g h
    unfold scanByte
    split
    · exact ⟨rfl, rfl⟩
    · exact ⟨h, rfl⟩
  unfold advance
  rw [← h]
  cases f.state with
  | scan => exact hscan h
  | introducer matched =>
      simp only
      split
      · split <;> exact ⟨rfl, rfl⟩
      · have hback := hscan (f := { f with state := .scan }) (g := { g with state := .scan }) rfl
        exact ⟨hback.1, congrArg (osc52Introducer.take matched ++ ·) hback.2⟩
  | params =>
      simp only
      split
      · exact ⟨rfl, rfl⟩
      · split
        · exact ⟨rfl, rfl⟩
        · split
          · split <;> split <;> exact ⟨rfl, rfl⟩
          · exact hscan (f := f.abandon) (g := g.abandon) rfl
  | paramsEscape =>
      simp only
      split
      · exact ⟨rfl, rfl⟩
      · exact hscan (f := f.abandon) (g := g.abandon) rfl

theorem advanceAll_congr {f g : Osc52Filter}
    (h : f.state = g.state)
    (data : Bytes) :
    (f.advanceAll data).1.state = (g.advanceAll data).1.state ∧
      (f.advanceAll data).2 = (g.advanceAll data).2 := by
  induction data generalizing f g with
  | nil => exact ⟨h, rfl⟩
  | cons b rest ih =>
      obtain ⟨hstate, hout⟩ := advance_congr h b
      obtain ⟨hstate', hout'⟩ := ih hstate
      exact ⟨hstate', by simp only [advanceAll, hout, hout']⟩

theorem seen_congr {f g : Osc52Filter}
    (h : f.state = g.state)
    (data : Bytes) :
    f.seen data = g.seen data := by
  obtain ⟨hstate, hout⟩ := advanceAll_congr h data
  simp only [seen, held, hstate, hout]

variable {f : Osc52Filter}

theorem seen_scan_cons
    (h : f.state = .scan)
    {b : UInt8}
    (hb : b ≠ esc)
    (rest : Bytes) :
    f.seen (b :: rest) = b :: f.seen rest := by
  rw [seen_cons]
  simp [advance, h, scanByte, hb]

/-- An introducer that breaks off is passed on. -/
theorem seen_introducer {matched : Nat}
    (h : f.state = .introducer matched)
    (hpos : 0 < matched)
    (hlt : matched < 5)
    {data : Bytes}
    (hbroken : ¬ osc52Introducer.drop matched <+: data) :
    f.seen data = osc52Introducer.take matched ++ default.seen data := by
  induction data generalizing f matched with
  | nil =>
      simp only [seen, advanceAll, held, h]
      exact (List.append_nil _).symm
  | cons b rest ih =>
      by_cases hb : some b = osc52Introducer[matched]?
      · have hdrop : osc52Introducer.drop matched = b :: osc52Introducer.drop (matched + 1) := by
          rw [List.drop_eq_getElem?_toList_append, ← hb]
          rfl
        have htake : osc52Introducer.take (matched + 1) = osc52Introducer.take matched ++ [b] := by
          rw [List.take_add_one, ← hb]
          rfl
        have hesc : b ≠ esc := by
          have hnone : ∀ m : Fin 5, 0 < m.val → osc52Introducer[m.val]? ≠ some esc := by decide
          rintro rfl
          exact hnone ⟨matched, hlt⟩ hpos hb.symm
        rw [hdrop, List.cons_prefix_cons] at hbroken
        have hmore : matched + 1 < 5 := by
          by_contra hlast
          have hfive : matched = 4 := by omega
          subst hfive
          exact hbroken ⟨rfl, List.nil_prefix⟩
        have hadvance : f.advance b = ({ f with state := .introducer (matched + 1) }, []) := by
          have hne : matched + 1 ≠ osc52Introducer.length := Nat.ne_of_lt hmore
          simp only [advance, h]
          rw [if_pos hb, if_neg hne]
        rw [seen_cons, hadvance, seen_scan_cons rfl hesc]
        have hrest := ih (f := { f with state := .introducer (matched + 1) }) rfl
          (Nat.succ_pos _) hmore (fun hp => hbroken ⟨rfl, hp⟩)
        rw [List.nil_append, hrest, htake, List.append_assoc]
        rfl
      · have hadvance : f.advance b =
            ((scanByte { f with state := .scan } b).1,
              osc52Introducer.take matched ++ (scanByte { f with state := .scan } b).2) := by
          simp only [advance, h]
          rw [if_neg hb]
        obtain ⟨hstate, hout⟩ :=
          advance_congr (f := { f with state := .scan }) (g := default) rfl b
        rw [seen_cons, hadvance, List.append_assoc, seen_cons, ← hout, ← seen_congr hstate]
        rfl

/-- A sequence with a byte that it cannot have is over. -/
theorem seen_abandon (f : Osc52Filter) (b : UInt8) (rest : Bytes) :
    (f.abandon.scanByte b).2 ++ (f.abandon.scanByte b).1.seen rest = default.seen (b :: rest) := by
  obtain ⟨hstate, hout⟩ := advance_congr (f := f.abandon) (g := default) rfl b
  rw [seen_cons, ← hout, ← seen_congr hstate]
  rfl

/-- The scanner is back where the body of a sequence ends. -/
theorem seen_params
    (h : f.state = .params)
    (body : Bytes) :
    f.seen body = default.seen (body.drop (osc52BodyLen body)) := by
  induction body generalizing f with
  | nil =>
      simp only [seen, advanceAll, held, h]
      rfl
  | cons b rest ih =>
      rw [seen_cons]
      by_cases hbell : b = 0x07
      · subst hbell
        have hadvance : f.advance 0x07 = (f.complete, []) := by
          simp only [advance, h]
          rfl
        rw [hadvance, osc52BodyLen_bell]
        exact seen_congr (f := f.complete) (g := default) rfl rest
      by_cases hesc : b = esc
      · subst hesc
        have hadvance : f.advance esc = ({ f with state := .paramsEscape }, []) := by
          simp only [advance, h]
          rfl
        rw [hadvance, List.nil_append]
        cases rest with
        | nil => rfl
        | cons c rest =>
            rw [seen_cons]
            by_cases hst : c = 0x5c
            · subst hst
              rw [osc52BodyLen_terminator]
              exact seen_congr (f := f.complete) (g := default) rfl rest
            · have hadvance' : Osc52Filter.advance { f with state := .paramsEscape } c =
                  f.abandon.scanByte c := by
                simp only [advance]
                rw [if_neg hst]
                rfl
              rw [hadvance', osc52BodyLen_stray hst]
              exact seen_abandon f c rest
      by_cases hparam : isOsc52ParamByte b = true
      · have hadvance : (f.advance b).1.state = .params ∧ (f.advance b).2 = [] := by
          simp only [advance, h]
          rw [if_neg hbell, if_neg hesc, if_pos hparam]
          split <;> exact ⟨rfl, rfl⟩
        rw [hadvance.2, List.nil_append, ih hadvance.1, osc52BodyLen_cons_param hparam]
        rfl
      · have hadvance : f.advance b = f.abandon.scanByte b := by
          simp only [advance, h]
          rw [if_neg hbell, if_neg hesc, if_neg hparam]
        rw [hadvance, osc52BodyLen_other hbell hesc hparam]
        exact seen_abandon f b rest

theorem seen_append (f : Osc52Filter) (first second : Bytes) :
    f.seen (first ++ second) = (f.advanceAll first).2 ++ (f.advanceAll first).1.seen second := by
  induction first generalizing f with
  | nil => rfl
  | cons b rest ih =>
      rw [List.cons_append, seen_cons, ih]
      simp only [advanceAll, List.append_assoc]

/-- The scanner passes on the bytes outside of sequences. -/
theorem seen_eq_sent (data : Bytes) :
    default.seen data = (pieces osc52Len data).flatMap Piece.sent := by
  induction data using pieces_induction findsOsc52 with
  | nil => rfl
  | kept b rest hnone ih =>
      rw [pieces_kept hnone, List.flatMap_cons, ← ih]
      by_cases hb : b = esc
      · subst hb
        have hbroken : ¬ osc52Introducer.drop 1 <+: rest := by
          intro hstarts
          have hwhole : osc52Introducer <+: esc :: rest :=
            List.cons_prefix_cons.mpr ⟨rfl, hstarts⟩
          rw [osc52Len, if_pos (List.isPrefixOf_iff_prefix.mpr hwhole)] at hnone
          cases hnone
        rw [seen_cons]
        exact seen_introducer (f := { default with state := .introducer 1 }) rfl (by decide)
          (by decide) hbroken
      · exact seen_scan_cons rfl hb rest
  | removed data n hsome ih =>
      rw [pieces_removed findsOsc52 hsome, List.flatMap_cons, ← ih]
      unfold osc52Len at hsome
      rw [Option.ite_none_right_eq_some, List.isPrefixOf_iff_prefix] at hsome
      obtain ⟨⟨body, rfl⟩, hn⟩ := hsome
      rw [List.drop_left, Option.some.injEq] at hn
      subst hn
      have hopened : default.advanceAll osc52Introducer =
          ({ default with state := .params }, []) := by
        decide
      rw [seen_append, hopened, seen_params rfl, ← List.drop_drop, List.drop_left]
      rfl

/-- The scanner holds a proper beginning of the introducer. -/
def Holding (f : Osc52Filter) : Prop :=
  ∀ matched, f.state = .introducer matched → matched < 5

theorem Holding.advance {f : Osc52Filter}
    (h : f.Holding)
    (b : UInt8) :
    (f.advance b).1.Holding := by
  have hscan : ∀ {f : Osc52Filter}, f.Holding → (f.scanByte b).1.Holding := by
    intro f h
    unfold scanByte
    split
    · intro matched hstate
      cases hstate
      decide
    · exact h
  have hrest : ∀ {f : Osc52Filter}, (∀ matched, f.state ≠ .introducer matched) → f.Holding :=
    fun hne matched hstate => absurd hstate (hne matched)
  unfold Osc52Filter.advance
  cases hstate : f.state with
  | scan => exact hscan h
  | introducer matched =>
      have hlt := h matched hstate
      simp only
      split
      · split
        · exact hrest nofun
        · rename_i hlast
          intro matched' hstate'
          cases hstate'
          have hlen : osc52Introducer.length = 5 := by decide
          omega
      · exact hscan (f := { f with state := .scan }) (hrest nofun)
  | params =>
      simp only
      split
      · exact hrest nofun
      · split
        · exact hrest nofun
        · split
          · split <;> exact hrest (by simp)
          · exact hscan (f := f.abandon) (hrest nofun)
  | paramsEscape =>
      simp only
      split
      · exact hrest nofun
      · exact hscan (f := f.abandon) (hrest nofun)

theorem Holding.advanceAll {f : Osc52Filter}
    (h : f.Holding)
    (data : Bytes) :
    (f.advanceAll data).1.Holding := by
  induction data generalizing f with
  | nil => exact h
  | cons b rest ih => exact ih (h.advance b)

theorem Holding.held {f : Osc52Filter}
    (h : f.Holding) :
    f.held.length ≤ 4 ∧ f.held <+: osc52Introducer := by
  unfold Osc52Filter.held
  split
  · rename_i matched hstate
    have hlt := h matched hstate
    refine ⟨?_, List.take_prefix _ _⟩
    rw [List.length_take]
    omega
  · exact ⟨by decide, List.nil_prefix⟩

end Osc52Filter

end Scanning

section Batches

namespace Osc52Filter

/-- Filter batch after batch, taking the completed writes after each: the
scanner, the bytes passed on, and the writes. -/
def filterBatches : Osc52Filter → List Bytes → Osc52Filter × Bytes × List ClipboardWrite
  | f, [] => (f, [], [])
  | f, batch :: rest =>
      let (f, out) := f.filter batch
      let (writes, f) := f.takeWrites
      let (f, outRest, writesRest) := f.filterBatches rest
      (f, out ++ outRest, writes ++ writesRest)

/-- A scanner with earlier writes that have not been taken. -/
def withWrites (f : Osc52Filter) (writes : List ClipboardWrite) : Osc52Filter :=
  { f with writes := writes ++ f.writes }

theorem scanByte_withWrites (f : Osc52Filter) (writes : List ClipboardWrite) (b : UInt8) :
    (f.withWrites writes).scanByte b = ((f.scanByte b).1.withWrites writes, (f.scanByte b).2) := by
  unfold scanByte
  split <;> rfl

theorem advance_withWrites (f : Osc52Filter) (writes : List ClipboardWrite) (b : UInt8) :
    (f.withWrites writes).advance b = ((f.advance b).1.withWrites writes, (f.advance b).2) := by
  have hcomplete : (f.withWrites writes).complete = f.complete.withWrites writes := by
    simp only [complete, withWrites, List.append_assoc]
  have habandon : (f.withWrites writes).abandon = f.abandon.withWrites writes := rfl
  have hstate : (f.withWrites writes).state = f.state := rfl
  unfold advance
  rw [hstate]
  cases f.state with
  | scan => exact scanByte_withWrites f writes b
  | introducer matched =>
      have hback := scanByte_withWrites { f with state := .scan } writes b
      simp only
      split
      · split <;> rfl
      · exact congrArg (fun r => (r.1, osc52Introducer.take matched ++ r.2)) hback
  | params =>
      simp only
      split
      · rw [hcomplete]
      · split
        · rfl
        · split
          · have hparams : (f.withWrites writes).params = f.params := rfl
            rw [hparams]
            split <;> rfl
          · rw [habandon]
            exact scanByte_withWrites f.abandon writes b
  | paramsEscape =>
      simp only
      split
      · rw [hcomplete]
      · rw [habandon]
        exact scanByte_withWrites f.abandon writes b

theorem advanceAll_withWrites (f : Osc52Filter) (writes : List ClipboardWrite) (data : Bytes) :
    (f.withWrites writes).advanceAll data =
      ((f.advanceAll data).1.withWrites writes, (f.advanceAll data).2) := by
  induction data generalizing f with
  | nil => rfl
  | cons b rest ih => simp only [advanceAll, advance_withWrites, ih]

/-- Writes that have not been taken change nothing else. -/
theorem advanceAll_takeWrites (f : Osc52Filter) (data : Bytes) :
    f.advanceAll data =
      ((f.takeWrites.2.advanceAll data).1.withWrites f.writes,
        (f.takeWrites.2.advanceAll data).2) := by
  have hback : f.takeWrites.2.withWrites f.writes = f := by
    simp only [withWrites, takeWrites, List.append_nil]
  conv_lhs => rw [← hback]
  exact advanceAll_withWrites f.takeWrites.2 f.writes data

theorem advanceAll_append (f : Osc52Filter) (first second : Bytes) :
    f.advanceAll (first ++ second) =
      (((f.advanceAll first).1.advanceAll second).1,
        (f.advanceAll first).2 ++ ((f.advanceAll first).1.advanceAll second).2) := by
  rw [← filter_eq_advanceAll, filter_append, filter_eq_advanceAll, filter_eq_advanceAll]

/-- Batch after batch, the scanner does what it does with the whole stream. -/
theorem filterBatches_eq {f : Osc52Filter}
    (h : f.writes = [])
    (batches : List Bytes) :
    f.filterBatches batches =
      ((f.advanceAll batches.flatten).1.takeWrites.2, (f.advanceAll batches.flatten).2,
        (f.advanceAll batches.flatten).1.writes) := by
  induction batches generalizing f with
  | nil =>
      simp only [filterBatches, List.flatten_nil, advanceAll, takeWrites, h]
      rw [← h]
  | cons batch rest ih =>
      have hrest := ih (f := (f.advanceAll batch).1.takeWrites.2) rfl
      have hwhole : f.advanceAll (batch :: rest).flatten =
          (((f.advanceAll batch).1.takeWrites.2.advanceAll rest.flatten).1.withWrites
              (f.advanceAll batch).1.writes,
            (f.advanceAll batch).2 ++
              ((f.advanceAll batch).1.takeWrites.2.advanceAll rest.flatten).2) := by
        rw [List.flatten_cons, advanceAll_append, advanceAll_takeWrites]
      rw [hwhole]
      simp only [filterBatches, filter_eq_advanceAll, hrest]
      rfl

end Osc52Filter

/-- An OSC 52 sequence: the introducer, parameters, and what ends them. -/
def IsOsc52 (span : Bytes) : Prop :=
  ∃ params ending, span = osc52Introducer ++ (params ++ ending) ∧
    (∀ b ∈ params, isOsc52ParamByte b = true) ∧
      ending ∈ [[], [0x07], [esc], [esc, 0x5c]]

theorem take_osc52BodyLen (body : Bytes) :
    ∃ params ending, body.take (osc52BodyLen body) = params ++ ending ∧
      (∀ b ∈ params, isOsc52ParamByte b = true) ∧
        ending ∈ [[], [0x07], [esc], [esc, 0x5c]] := by
  induction body with
  | nil => exact ⟨[], [], rfl, nofun, by decide⟩
  | cons b rest ih =>
      by_cases hparam : isOsc52ParamByte b = true
      · obtain ⟨params, ending, htake, hparams, hending⟩ := ih
        refine ⟨b :: params, ending, ?_, List.forall_mem_cons.mpr ⟨hparam, hparams⟩, hending⟩
        rw [osc52BodyLen_cons_param hparam, List.take_succ_cons, htake]
        rfl
      by_cases hbell : b = 0x07
      · subst hbell
        exact ⟨[], [0x07], rfl, nofun, by decide⟩
      by_cases hesc : b = esc
      · subst hesc
        cases rest with
        | nil => exact ⟨[], [esc], rfl, nofun, by decide⟩
        | cons c rest =>
            by_cases hst : c = 0x5c
            · subst hst
              exact ⟨[], [esc, 0x5c], rfl, nofun, by decide⟩
            · rw [osc52BodyLen_stray hst]
              exact ⟨[], [esc], rfl, nofun, by decide⟩
      · rw [osc52BodyLen_other hbell hesc hparam]
        exact ⟨[], [], rfl, nofun, by decide⟩

theorem isOsc52_of_removed {data span : Bytes}
    (h : .removed span ∈ pieces osc52Len data) :
    IsOsc52 span := by
  obtain ⟨rest, hspan⟩ := span_of_removed findsOsc52 h
  unfold osc52Len at hspan
  rw [Option.ite_none_right_eq_some, List.isPrefixOf_iff_prefix, Option.some.injEq] at hspan
  obtain ⟨⟨body, hbody⟩, hlen⟩ := hspan
  rw [← hbody, List.drop_left] at hlen
  obtain ⟨params, ending, htake, hparams, hending⟩ := take_osc52BodyLen body
  refine ⟨params, ending, ?_, hparams, hending⟩
  have hwhole : (osc52Introducer ++ body).take span.length = span := by
    rw [hbody, List.take_left]
  rw [← hwhole, ← hlen, List.take_length_add_append, htake]

/-- **Chunk invariance**: whatever the batches, the outputs together, the writes
and the scanner at the end are those of the whole stream; the fast path is the
byte loop; and the bytes outside of the stream's OSC 52 sequences are passed on
in order, but for a beginning of the introducer that is held at the end. -/
theorem filter_chunk_invariant (batches : List Bytes) :
    Osc52Filter.default.filterBatches batches =
        Osc52Filter.default.filterBatches [batches.flatten] ∧
      (∀ (f : Osc52Filter) (data : Bytes), f.filter data = f.advanceAll data) ∧
      (∃ held, held.length ≤ 4 ∧ held <+: osc52Introducer ∧
        (Osc52Filter.default.filterBatches batches).2.1 ++ held =
          (pieces osc52Len batches.flatten).flatMap Piece.sent) ∧
      (pieces osc52Len batches.flatten).flatMap Piece.bytes = batches.flatten ∧
      (∀ span, .removed span ∈ pieces osc52Len batches.flatten → IsOsc52 span) := by
  have hwhole := Osc52Filter.filterBatches_eq (f := Osc52Filter.default) rfl batches
  refine ⟨?_, Osc52Filter.filter_eq_advanceAll, ?_, flatMap_bytes_pieces findsOsc52 _,
    fun span hspan => isOsc52_of_removed hspan⟩
  · rw [hwhole, Osc52Filter.filterBatches_eq rfl, List.flatten_singleton]
  · have hresting : Osc52Filter.default.Holding := nofun
    obtain ⟨hlen, hstarts⟩ := (hresting.advanceAll batches.flatten).held
    refine ⟨_, hlen, hstarts, ?_⟩
    rw [hwhole, ← Osc52Filter.seen_eq_sent]
    rfl

end Batches

section Passing

variable {P : Type u} {G : Type v}
variable [VteParser P] [Vt100Parser G]

/-- The runs of a pane's output task: the pane, its sanitized output so far and
the bytes passed on so far.  What else happens to a pane leaves the scanner
where it is. -/
inductive PassesOn : Pane P G → Bytes → Bytes → Prop
  | resting (pane : Pane P G)
      (hstate : pane.osc52.state = .scan) :
      PassesOn pane [] []
  | output {pane : Pane P G} {clean passed : Bytes} (raw : Bytes)
      (h : PassesOn pane clean passed) :
      PassesOn (Workspace.takePaneOutput pane raw).2
        (clean ++ pane.screen.sanitizeOutput raw)
        (passed ++ (Workspace.takePaneOutput pane raw).1.data)
  | other {pane pane' : Pane P G} {clean passed : Bytes}
      (h : PassesOn pane clean passed)
      (hstate : pane'.osc52.state = pane.osc52.state) :
      PassesOn pane' clean passed

omit [VteParser P] [Vt100Parser G] in
/-- Returning the screen leaves the scanner where it is. -/
theorem returnScreen_osc52 (pane : Pane P G) (screen : PaneScreen P G) :
    (pane.returnScreen screen).2.osc52.state = pane.osc52.state :=
  rfl

theorem PassesOn.eq_scan {pane : Pane P G} {clean passed : Bytes}
    (h : PassesOn pane clean passed) :
    passed = (Osc52Filter.default.advanceAll clean).2 ∧
      pane.osc52.state = (Osc52Filter.default.advanceAll clean).1.state := by
  induction h with
  | resting pane hstate => exact ⟨rfl, hstate⟩
  | @output pane clean passed raw _ ih =>
      obtain ⟨hpassed, hstate⟩ := ih
      have hdata : (Workspace.takePaneOutput pane raw).1.data =
          (pane.osc52.advanceAll (pane.screen.sanitizeOutput raw)).2 :=
        congrArg Prod.snd (Osc52Filter.filter_eq_advanceAll _ _)
      have hafter : (Workspace.takePaneOutput pane raw).2.osc52 =
          (pane.osc52.advanceAll (pane.screen.sanitizeOutput raw)).1 :=
        congrArg Prod.fst (Osc52Filter.filter_eq_advanceAll _ _)
      obtain ⟨hstate', hout⟩ :=
        Osc52Filter.advanceAll_congr hstate (pane.screen.sanitizeOutput raw)
      rw [Osc52Filter.advanceAll_append, hdata, hafter, hpassed, hout]
      exact ⟨rfl, hstate'⟩
  | other _ hstate ih => exact ⟨ih.1, hstate.trans ih.2⟩

/-- An introducer with whole OSC 52 sequences between its bytes. -/
def SplitIntroducer (stream : Bytes) : Prop :=
  ∃ before rest, pieces osc52Len stream = before ++ .kept esc :: rest ∧
    Spread (bytesOf "]52;") rest ∧ ¬ (bytesOf "]52;").map .kept <+: rest

/-- A beginning of the introducer completes none. -/
theorem infix_append_held {passed held : Bytes}
    (hheld : (0x3b : UInt8) ∉ held) :
    osc52Introducer <:+: passed ++ held ↔ osc52Introducer <:+: passed := by
  constructor
  · rintro ⟨front, back, h⟩
    have hlast : osc52Introducer = bytesOf "\x1b]52" ++ [0x3b] := by decide
    have hcut : (front ++ bytesOf "\x1b]52") ++ 0x3b :: back = passed ++ held := by
      rw [← h, hlast]
      simp
    rcases List.append_eq_append_iff.mp hcut with ⟨gap, hpassed, htail⟩ | ⟨gap, _, htail⟩
    · cases gap with
      | nil =>
          rw [List.nil_append] at htail
          exact absurd (htail ▸ List.mem_cons_self) hheld
      | cons b gap =>
          cases htail
          refine ⟨front, gap, ?_⟩
          rw [hpassed, hlast]
          simp
    · rw [htail] at hheld
      exact absurd (List.mem_append_right gap List.mem_cons_self) hheld
  · rintro ⟨front, back, rfl⟩
    exact ⟨front, back ++ held, by simp⟩

theorem Osc52Filter.Holding.not_mem_held {f : Osc52Filter}
    (h : f.Holding) :
    (0x3b : UInt8) ∉ f.held := by
  have hnone : ∀ m : Fin 5, (0x3b : UInt8) ∉ osc52Introducer.take m.val := by decide
  unfold Osc52Filter.held
  split
  · rename_i matched hstate
    exact hnone ⟨matched, h matched hstate⟩
  · exact List.not_mem_nil

/-- An introducer whose bytes stand together is removed. -/
theorem not_together {stream : Bytes} {before rest : List (Piece UInt8)}
    (h : pieces osc52Len stream = before ++ .kept esc :: rest) :
    ¬ (bytesOf "]52;").map .kept <+: rest := by
  rintro ⟨more, rfl⟩
  have hnone := unspanned_of_kept findsOsc52 h
  have hwhole : osc52Introducer <+:
      esc :: ((bytesOf "]52;").map Piece.kept ++ more).flatMap Piece.bytes := by
    refine ⟨more.flatMap Piece.bytes, ?_⟩
    rw [List.flatMap_append, Piece.flatMap_bytes_kept]
    rfl
  rw [osc52Len, if_pos (List.isPrefixOf_iff_prefix.mpr hwhole)] at hnone
  cases hnone

/-- **No introducer is passed on if and only if the output has none with whole
OSC 52 sequences between its bytes.** -/
theorem introducer_withheld_iff {pane : Pane P G} {clean passed : Bytes}
    (h : PassesOn pane clean passed) :
    ¬ osc52Introducer <:+: passed ↔ ¬ SplitIntroducer clean := by
  have hresting : Osc52Filter.default.Holding := nofun
  have hheld := (hresting.advanceAll clean).not_mem_held
  have hopen : osc52Introducer = esc :: bytesOf "]52;" := by decide
  refine not_congr ?_
  rw [h.eq_scan.1, ← infix_append_held hheld]
  have hseen := Osc52Filter.seen_eq_sent clean
  rw [Osc52Filter.seen] at hseen
  rw [hseen, hopen, infix_sent_iff]
  constructor
  · rintro ⟨before, rest, hpieces, hspread⟩
    exact ⟨before, rest, hpieces, hspread, not_together hpieces⟩
  · rintro ⟨before, rest, hpieces, hspread, _⟩
    exact ⟨before, rest, hpieces, hspread⟩

/-- A pane of the small terminal. -/
def clipboardPane : Pane SampleParser SampleGrid :=
  Pane.new 1 80 24

/-- A clipboard write between other output. -/
theorem introducer_withheld_write :
    ¬ osc52Introducer <:+:
        ([] ++ (Workspace.takePaneOutput clipboardPane
          (bytesOf "a\x1b]52;c;aGk=\x07b")).1.data) ∧
      ¬ SplitIntroducer ([] ++ clipboardPane.screen.sanitizeOutput
          (bytesOf "a\x1b]52;c;aGk=\x07b")) := by
  have hwithheld : ¬ osc52Introducer <:+:
      ([] ++ (Workspace.takePaneOutput clipboardPane
        (bytesOf "a\x1b]52;c;aGk=\x07b")).1.data) := by
    decide +kernel
  exact ⟨hwithheld, (introducer_withheld_iff (.output _ (.resting clipboardPane rfl))).mp
    hwithheld⟩

/-- **A clipboard text leaks**: a write inside the introducer of another one is
removed, and the other one comes together. -/
theorem introducer_passed :
    ¬ ∀ (pane : Pane SampleParser SampleGrid) (clean passed : Bytes),
      PassesOn pane clean passed → ¬ osc52Introducer <:+: passed := by
  intro h
  refine h _ _ _
    (.output (bytesOf "\x1b]5\x1b]52;c;AA==\x072;c;c2VjcmV0\x07") (.resting clipboardPane rfl)) ?_
  decide +kernel

end Passing

end Server
end Rttx
