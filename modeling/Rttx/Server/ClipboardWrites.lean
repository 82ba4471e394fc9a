import Rttx.Server.Base64
import Rttx.Server.ClipboardStream

/-!
# The clipboard writes of a stream

A stream asks for a clipboard write wherever it ends an OSC 52 sequence whose
payload encodes bytes within the bound.  The scanner is to collect just these
writes, in order, whatever the batches.

It differs in three ways.  It honours what its decoder accepts, strays included.
It takes no parameters beyond its buffer, so that a long selection counts
against the payload.  And the escape byte that ends an unfinished sequence opens
none, so that a whole sequence behind an unfinished one is passed over.

**Results.**
* `clipboardWrites_exact_iff`: the scanner collects the writes that are asked
  for if and only if the stream ends no sequence of these three kinds; it never
  buffers more parameters than its bound.
* `stray_padding_writes`: a payload of padding alone is written.
-/

namespace Rttx
namespace Server

section Requests

/-- The stream ends with an OSC 52 sequence that a bell or a string terminator
ends. -/
def EndsSequence (data before params : Bytes) : Prop :=
  (∀ b ∈ params, isOsc52ParamByte b = true) ∧
    ∃ ending ∈ [[0x07], [esc, 0x5c]], data = before ++ osc52Introducer ++ params ++ ending

/-- The parameters ask for the write: a selection, and a payload that encodes
its data. -/
def Requests (params : Bytes) (write : ClipboardWrite) : Prop :=
  ∃ target payload, params = target ++ 0x3b :: payload ∧ 0x3b ∉ target ∧
    write.target = asciiText target ∧ IsBase64Of payload write.data ∧
      1 ≤ write.data.length ∧ write.data.length ≤ maxClipboardBytes

/-- The writes that a stream asks for, in the order in which their sequences
end. -/
inductive Requested : Bytes → List ClipboardWrite → Prop
  | nil : Requested [] []
  | write {data before params : Bytes} {writes : List ClipboardWrite} {b : UInt8}
      {write : ClipboardWrite}
      (h : Requested data writes)
      (hends : EndsSequence (data ++ [b]) before params)
      (hwrite : Requests params write) :
      Requested (data ++ [b]) (writes ++ [write])
  | other {data : Bytes} {writes : List ClipboardWrite} {b : UInt8}
      (h : Requested data writes)
      (hnone : ∀ before params write, EndsSequence (data ++ [b]) before params →
        ¬ Requests params write) :
      Requested (data ++ [b]) writes

/-- The stream ends inside the parameters of an OSC 52 sequence: an introducer
and parameters, unless the escape byte of the introducer ends another such
sequence. -/
def endsOpen (data : Bytes) : Prop :=
  ∃ before params, ∃ _ : data = before ++ osc52Introducer ++ params,
    (∀ b ∈ params, isOsc52ParamByte b = true) ∧ ¬ endsOpen before
termination_by data.length
decreasing_by
  rename_i heq
  have hlen : osc52Introducer.length = 5 := by decide
  rw [heq, List.length_append, List.length_append]
  omega

/-- The payload has stray padding or bits, and decodes to data within the
bound all the same. -/
def DecodesStray (params : Bytes) : Prop :=
  ∃ target payload data, params = target ++ 0x3b :: payload ∧ 0x3b ∉ target ∧
    hasStray payload = true ∧ base64Decode payload = some data ∧
      1 ≤ data.length ∧ data.length ≤ maxClipboardBytes

/-- A sequence whose write is asked for stands behind no open one and fits the
buffer, and one that has strays does not. -/
def Faithful (before params : Bytes) : Prop :=
  ((∃ write, Requests params write) →
      ¬ endsOpen before ∧ params.length ≤ maxOsc52ParamsBytes) ∧
    (DecodesStray params → endsOpen before ∨ maxOsc52ParamsBytes < params.length)

end Requests

section Parameters

/-- Where a byte stands for the last time. -/
theorem append_cons_inj_last {α : Type} {xs ys : List α} {x : α} {l r : List α}
    (hl : x ∉ l)
    (hr : x ∉ r)
    (h : xs ++ x :: l = ys ++ x :: r) :
    xs = ys ∧ l = r := by
  rcases List.append_eq_append_iff.mp h with ⟨as, hys, hl'⟩ | ⟨as, hxs, hr'⟩
  · cases as with
    | nil => exact ⟨by rw [hys, List.append_nil], (List.cons.inj hl').2⟩
    | cons a as =>
        rw [List.cons_append, List.cons.injEq] at hl'
        exact absurd (hl'.2 ▸ List.mem_append_right _ List.mem_cons_self) hl
  · cases as with
    | nil => exact ⟨by rw [hxs, List.append_nil], (List.cons.inj hr').2.symm⟩
    | cons a as =>
        rw [List.cons_append, List.cons.injEq] at hr'
        exact absurd (hr'.2 ▸ List.mem_append_right _ List.mem_cons_self) hr

theorem esc_not_mem_params {params : Bytes}
    (h : ∀ b ∈ params, isOsc52ParamByte b = true) :
    esc ∉ params := by
  intro hmem
  have hesc := h esc hmem
  revert hesc
  decide

/-- The introducer of a sequence is where the last escape byte is. -/
theorem introducer_unique {l l' params params' : Bytes}
    (h : ∀ b ∈ params, isOsc52ParamByte b = true)
    (h' : ∀ b ∈ params', isOsc52ParamByte b = true)
    (heq : l ++ osc52Introducer ++ params = l' ++ osc52Introducer ++ params') :
    l = l' ∧ params = params' := by
  have hrest : ∀ {params : Bytes}, (∀ b ∈ params, isOsc52ParamByte b = true) →
      esc ∉ bytesOf "]52;" ++ params := by
    intro params h hmem
    rcases List.mem_append.mp hmem with hmem | hmem
    · revert hmem
      decide
    · exact esc_not_mem_params h hmem
  have hsplit : osc52Introducer = esc :: bytesOf "]52;" := by decide
  rw [hsplit, List.append_assoc, List.append_assoc, List.cons_append, List.cons_append] at heq
  obtain ⟨hl, hparams⟩ := append_cons_inj_last (hrest h) (hrest h') heq
  exact ⟨hl, List.append_cancel_left hparams⟩

theorem EndsSequence.unique {data l l' params params' : Bytes}
    (h : EndsSequence data l params)
    (h' : EndsSequence data l' params') :
    l = l' ∧ params = params' := by
  obtain ⟨hparams, ending, hending, rfl⟩ := h
  obtain ⟨hparams', ending', hending', heq⟩ := h'
  refine introducer_unique hparams hparams' ?_
  simp only [List.mem_cons, List.not_mem_nil, or_false] at hending hending'
  rcases hending with rfl | rfl <;> rcases hending' with rfl | rfl
  · exact List.append_cancel_right heq
  · have hlast : (0x07 : UInt8) = 0x5c := by
      simpa [List.getLast?_append] using congrArg List.getLast? heq
    exact absurd hlast (by decide)
  · have hlast : (0x5c : UInt8) = 0x07 := by
      simpa [List.getLast?_append] using congrArg List.getLast? heq
    exact absurd hlast (by decide)
  · exact List.append_cancel_right heq

/-- A selection ends at the first separator. -/
theorem separator_unique {target target' payload payload' : Bytes}
    (h : 0x3b ∉ target)
    (h' : 0x3b ∉ target')
    (heq : target ++ (0x3b : UInt8) :: payload = target' ++ 0x3b :: payload') :
    target = target' ∧ payload = payload' := by
  have hreversed : payload.reverse ++ 0x3b :: target.reverse =
      payload'.reverse ++ 0x3b :: target'.reverse := by
    simpa using congrArg List.reverse heq
  obtain ⟨hpayload, htarget⟩ := append_cons_inj_last (fun hmem => h (List.mem_reverse.mp hmem))
    (fun hmem => h' (List.mem_reverse.mp hmem)) hreversed
  exact ⟨List.reverse_injective htarget, List.reverse_injective hpayload⟩

theorem Requests.unique {params : Bytes} {write write' : ClipboardWrite}
    (h : Requests params write)
    (h' : Requests params write') :
    write = write' := by
  obtain ⟨target, payload, rfl, htarget, hselects, hencodes, -, -⟩ := h
  obtain ⟨target', payload', heq, htarget', hselects', hencodes', -, -⟩ := h'
  obtain ⟨rfl, rfl⟩ := separator_unique htarget htarget' heq
  have hdata := (decode_of_isBase64Of hencodes).2.symm.trans (decode_of_isBase64Of hencodes').2
  cases write
  cases write'
  rw [ClipboardWrite.mk.injEq]
  exact ⟨hselects.trans hselects'.symm, Option.some.inj hdata⟩

/-- The last byte of a stream ends a sequence that asks for a write, or none. -/
theorem Requested.snoc {data : Bytes} {writes : List ClipboardWrite} {b : UInt8}
    (h : Requested (data ++ [b]) writes) :
    (∃ earlier before params write, Requested data earlier ∧
        EndsSequence (data ++ [b]) before params ∧ Requests params write ∧
          writes = earlier ++ [write]) ∨
      (Requested data writes ∧ ∀ before params write,
        EndsSequence (data ++ [b]) before params → ¬ Requests params write) := by
  generalize hstream : data ++ [b] = stream at h
  cases h with
  | nil => exact absurd hstream (List.append_ne_nil_of_right_ne_nil _ (List.cons_ne_nil _ _))
  | write h hends hwrite =>
      obtain ⟨rfl, hb⟩ := List.append_inj' hstream rfl
      exact Or.inl ⟨_, _, _, _, h, hends, hwrite, rfl⟩
  | other h hnone =>
      obtain ⟨rfl, hb⟩ := List.append_inj' hstream rfl
      exact Or.inr ⟨h, hnone⟩

/-- A stream asks for one list of writes. -/
theorem Requested.unique {data : Bytes} {writes writes' : List ClipboardWrite}
    (h : Requested data writes)
    (h' : Requested data writes') :
    writes = writes' := by
  induction h generalizing writes' with
  | nil =>
      generalize hstream : ([] : Bytes) = stream at h'
      cases h' with
      | nil => rfl
      | write h hends hwrite =>
          exact absurd hstream.symm
            (List.append_ne_nil_of_right_ne_nil _ (List.cons_ne_nil _ _))
      | other h hnone =>
          exact absurd hstream.symm
            (List.append_ne_nil_of_right_ne_nil _ (List.cons_ne_nil _ _))
  | write h hends hwrite ih =>
      rcases h'.snoc with ⟨earlier, before, params, write, hearlier, hends', hwrite', rfl⟩ |
        ⟨hsame, hnone⟩
      · obtain ⟨rfl, rfl⟩ := hends.unique hends'
        rw [ih hearlier, hwrite.unique hwrite']
      · exact absurd hwrite (hnone _ _ _ hends)
  | other h hnone ih =>
      rcases h'.snoc with ⟨earlier, before, params, write, hearlier, hends', hwrite', rfl⟩ |
        ⟨hsame, hnone'⟩
      · exact absurd hwrite' (hnone _ _ _ hends')
      · exact ih hsame

end Parameters

section Scanner

namespace Osc52Filter

/-- The scanner after a stream. -/
def after (data : Bytes) : Osc52Filter :=
  (default.advanceAll data).1

theorem after_append (data more : Bytes) :
    after (data ++ more) = ((after data).advanceAll more).1 := by
  rw [after, advanceAll_append]
  rfl

theorem after_concat (data : Bytes) (b : UInt8) :
    after (data ++ [b]) = ((after data).advance b).1 := by
  rw [after_append]
  rfl

/-- What the scanner has kept of the stream. -/
def Traces (data : Bytes) (f : Osc52Filter) : Prop :=
  match f.state with
  | .scan => f.params = [] ∧ f.oversized = false
  | .introducer matched =>
      f.params = [] ∧ f.oversized = false ∧ 0 < matched ∧ matched < 5 ∧
        ∃ before, data = before ++ osc52Introducer.take matched ∧ (after before).state ≠ .params
  | .params =>
      ∃ before params, data = before ++ osc52Introducer ++ params ∧
        (∀ b ∈ params, isOsc52ParamByte b = true) ∧ (after before).state ≠ .params ∧
          f.params = params.take maxOsc52ParamsBytes ∧
            f.oversized = decide (maxOsc52ParamsBytes < params.length)
  | .paramsEscape =>
      ∃ before params, data = before ++ osc52Introducer ++ params ++ [esc] ∧
        (∀ b ∈ params, isOsc52ParamByte b = true) ∧ (after before).state ≠ .params ∧
          f.params = params.take maxOsc52ParamsBytes ∧
            f.oversized = decide (maxOsc52ParamsBytes < params.length)

/-- Outside of a sequence an escape byte may open one. -/
theorem traces_scanByte {f : Osc52Filter} {data : Bytes}
    (hstate : f.state = .scan)
    (hparams : f.params = [])
    (hoversized : f.oversized = false)
    (hout : (after data).state ≠ .params)
    (b : UInt8) :
    Traces (data ++ [b]) (f.scanByte b).1 := by
  unfold scanByte
  split
  · rename_i hesc
    subst hesc
    exact ⟨hparams, hoversized, by decide, by decide, data, rfl, hout⟩
  · simp only [Traces, hstate]
    exact ⟨hparams, hoversized⟩

/-- A byte that a sequence cannot have is scanned afresh. -/
theorem traces_abandon {f : Osc52Filter} {data : Bytes} {b : UInt8}
    (h : b ≠ esc ∨ (after data).state ≠ .params) :
    Traces (data ++ [b]) (f.abandon.scanByte b).1 := by
  rcases h with hesc | hout
  · rw [scanByte, if_neg hesc]
    exact ⟨rfl, rfl⟩
  · exact traces_scanByte rfl rfl rfl hout b

/-- **Step lemma.** -/
theorem Traces.advance {data : Bytes}
    (h : Traces data (after data))
    (b : UInt8) :
    Traces (data ++ [b]) ((after data).advance b).1 := by
  have hlen : osc52Introducer.length = 5 := by decide
  unfold Osc52Filter.advance
  unfold Traces at h
  cases hstate : (after data).state with
  | scan =>
      rw [hstate] at h
      exact traces_scanByte hstate h.1 h.2 (by rw [hstate]; exact fun h => by cases h) b
  | introducer matched =>
      rw [hstate] at h
      obtain ⟨hparams, hoversized, hpos, hlt, before, hdata, hout⟩ := h
      have hnot : (after data).state ≠ .params := by
        rw [hstate]
        exact fun h => by cases h
      simp only
      split
      · rename_i hb
        have htake : osc52Introducer.take (matched + 1) = osc52Introducer.take matched ++ [b] := by
          rw [List.take_add_one, ← hb]
          rfl
        have hwhole : data ++ [b] = before ++ osc52Introducer.take (matched + 1) := by
          rw [htake, hdata, List.append_assoc]
        split
        · rename_i hlast
          refine ⟨before, [], ?_, List.forall_mem_nil _, hout, hparams, ?_⟩
          · rw [hwhole, hlast, List.take_length, List.append_nil]
          · rw [hoversized]
            rfl
        · rename_i hmore
          exact ⟨hparams, hoversized, by omega, by omega, before, hwhole, hout⟩
      · exact traces_scanByte (f := { after data with state := .scan }) rfl hparams hoversized
          hnot b
  | params =>
      rw [hstate] at h
      obtain ⟨before, params, hdata, hall, hout, hparams, hoversized⟩ := h
      simp only
      split
      · exact ⟨rfl, rfl⟩
      · split
        · rename_i hesc
          subst hesc
          exact ⟨before, params, by rw [hdata], hall, hout, hparams, hoversized⟩
        · rename_i hesc
          split
          · rename_i hb
            have hwhole : data ++ [b] = before ++ osc52Introducer ++ (params ++ [b]) := by
              rw [hdata, List.append_assoc]
            have hall' : ∀ c ∈ params ++ [b], isOsc52ParamByte c = true := by
              intro c hc
              rcases List.mem_append.mp hc with hc | hc
              · exact hall c hc
              · rw [List.mem_singleton.mp hc]
                exact hb
            have hcount : (after data).params.length =
                min maxOsc52ParamsBytes params.length := by
              rw [hparams, List.length_take]
            split
            · rename_i hroom
              refine ⟨before, params ++ [b], hwhole, hall', hout, ?_, ?_⟩
              · rw [hparams, List.take_of_length_le (by omega), List.take_of_length_le (by
                  rw [List.length_append, List.length_singleton]; omega)]
              · rw [hoversized, List.length_append, List.length_singleton]
                exact decide_eq_decide.mpr (by omega)
            · rename_i hfull
              refine ⟨before, params ++ [b], hwhole, hall', hout, ?_, ?_⟩
              · rw [hparams, List.take_append_of_le_length (by omega)]
              · rw [List.length_append, List.length_singleton]
                exact (decide_eq_true (by omega)).symm
          · exact traces_abandon (Or.inl hesc)
  | paramsEscape =>
      rw [hstate] at h
      simp only
      split
      · exact ⟨rfl, rfl⟩
      · exact traces_abandon (Or.inr (by rw [hstate]; exact fun h => by cases h))

/-- **Run lemma.** -/
theorem traces_after (data : Bytes) : Traces data (after data) := by
  induction data using List.reverseRecOn with
  | nil => exact ⟨rfl, rfl⟩
  | append_singleton data b ih =>
      rw [after_concat]
      exact ih.advance b

theorem advance_param {f : Osc52Filter} {b : UInt8}
    (hstate : f.state = .params)
    (hb : isOsc52ParamByte b = true) :
    (f.advance b).1.state = .params := by
  have hbell : b ≠ 0x07 := by
    rintro rfl
    revert hb
    decide
  have hesc : b ≠ esc := by
    rintro rfl
    revert hb
    decide
  simp only [Osc52Filter.advance, hstate, hbell, hesc, hb, if_false, if_true]
  split <;> rfl

/-- An escape byte may open a sequence, but not within the parameters of one. -/
theorem advance_esc {f : Osc52Filter}
    (hout : f.state ≠ .params) :
    (f.advance esc).1.state = .introducer 1 := by
  simp only [Osc52Filter.advance]
  cases hstate : f.state with
  | scan => rfl
  | introducer matched =>
      simp only
      split
      · rename_i hb
        have hfirst : matched = 0 := by
          have hlt : matched < 5 := (List.getElem?_eq_some_iff.mp hb.symm).1
          have hnone : ∀ m : Fin 5, some esc = osc52Introducer[m.val]? → m.val = 0 := by decide
          exact hnone ⟨matched, hlt⟩ hb
        subst hfirst
        rfl
      · rfl
  | params => exact absurd hstate hout
  | paramsEscape => rfl

/-- The introducer without its escape byte. -/
def introducerRest : Bytes :=
  bytesOf "]52;"

theorem after_introducer (data : Bytes) :
    after (data ++ osc52Introducer) =
      (((after data).advance esc).1.advanceAll introducerRest).1 := by
  have hsplit : osc52Introducer = [esc] ++ introducerRest := by decide
  rw [hsplit, ← List.append_assoc, after_append, after_concat]

/-- A sequence that is opened goes on with its parameters. -/
theorem state_of_opened {before params : Bytes}
    (hout : (after before).state ≠ .params)
    (hparams : ∀ b ∈ params, isOsc52ParamByte b = true) :
    (after (before ++ osc52Introducer ++ params)).state = .params := by
  induction params using List.reverseRecOn with
  | nil =>
      have hrun : (advanceAll { default with state := .introducer 1 } introducerRest).1.state =
          .params := by decide
      rw [List.append_nil, after_introducer]
      exact (advanceAll_congr (advance_esc hout) introducerRest).1.trans hrun
  | append_singleton params b ih =>
      rw [← List.append_assoc, after_concat]
      exact advance_param (ih (fun c hc => hparams c (List.mem_append_left _ hc)))
        (hparams b (List.mem_append_right _ (List.mem_singleton_self b)))

/-- The scanner is among parameters where the stream ends open. -/
theorem endsOpen_iff (data : Bytes) :
    endsOpen data ↔ (after data).state = .params := by
  induction hn : data.length using Nat.strongRecOn generalizing data with
  | _ n ih =>
      subst hn
      have hshorter : ∀ before params : Bytes,
          before.length < (before ++ osc52Introducer ++ params).length := by
        intro before params
        have hlen : osc52Introducer.length = 5 := by decide
        rw [List.length_append, List.length_append]
        omega
      rw [endsOpen]
      constructor
      · rintro ⟨before, params, rfl, hparams, hout⟩
        rw [ih _ (hshorter before params) before rfl] at hout
        exact state_of_opened hout hparams
      · intro hstate
        have htraces := traces_after data
        rw [Traces, hstate] at htraces
        obtain ⟨before, params, rfl, hparams, hout, -, -⟩ := htraces
        refine ⟨before, params, rfl, hparams, ?_⟩
        rwa [ih _ (hshorter before params) before rfl]

/-- What has been collected for parameters that ended. -/
def collected (params : Bytes) : List ClipboardWrite :=
  if params.length ≤ maxOsc52ParamsBytes then (completedWrite params false).toList else []

theorem completedWrite_take (params : Bytes) :
    (completedWrite (params.take maxOsc52ParamsBytes)
      (decide (maxOsc52ParamsBytes < params.length))).toList = collected params := by
  unfold collected
  split
  · rename_i hle
    rw [List.take_of_length_le hle, decide_eq_false (Nat.not_lt.mpr hle)]
  · rename_i hover
    rw [decide_eq_true (Nat.lt_of_not_le hover)]
    unfold completedWrite
    split
    · rfl
    · simp only
      split <;> rfl

/-- The byte ends the sequence that the scanner is in. -/
def Ends (f : Osc52Filter) (b : UInt8) : Prop :=
  f.state = .params ∧ b = 0x07 ∨ f.state = .paramsEscape ∧ b = 0x5c

/-- Only the byte that ends a sequence adds a write. -/
theorem writes_advance (f : Osc52Filter) (b : UInt8) :
    (f.Ends b → (f.advance b).1.writes =
        f.writes ++ (completedWrite f.params f.oversized).toList) ∧
      (¬ f.Ends b → (f.advance b).1.writes = f.writes) := by
  have hscan : ∀ g : Osc52Filter, (g.scanByte b).1.writes = g.writes := by
    intro g
    unfold scanByte
    split <;> rfl
  unfold Ends Osc52Filter.advance
  cases hstate : f.state with
  | scan =>
      refine ⟨?_, fun _ => hscan f⟩
      rintro (⟨h, -⟩ | ⟨h, -⟩) <;> cases h
  | introducer matched =>
      constructor
      · rintro (⟨h, -⟩ | ⟨h, -⟩) <;> cases h
      intro _
      simp only
      split
      · split <;> rfl
      · exact hscan _
  | params =>
      simp only
      constructor
      · rintro (⟨-, rfl⟩ | ⟨h, -⟩)
        · rfl
        · cases h
      · intro h
        have hbell : b ≠ 0x07 := fun hb => h (Or.inl ⟨trivial, hb⟩)
        rw [if_neg hbell]
        split
        · rfl
        · split
          · split <;> rfl
          · exact hscan f.abandon
  | paramsEscape =>
      simp only
      constructor
      · rintro (⟨h, -⟩ | ⟨-, rfl⟩)
        · cases h
        · rfl
      · intro h
        have hst : b ≠ 0x5c := fun hb => h (Or.inr ⟨trivial, hb⟩)
        rw [if_neg hst]
        exact hscan f.abandon

/-- A sequence that was opened is ended by its last byte. -/
theorem ends_of_endsSequence {data before params : Bytes} {b : UInt8}
    (hends : EndsSequence (data ++ [b]) before params)
    (hout : (after before).state ≠ .params) :
    (after data).Ends b := by
  obtain ⟨hparams, ending, hending, hdata⟩ := hends
  have hopened := state_of_opened hout hparams
  simp only [List.mem_cons, List.not_mem_nil, or_false] at hending
  rcases hending with rfl | rfl
  · obtain ⟨rfl, hb⟩ := List.append_inj' hdata rfl
    exact Or.inl ⟨hopened, (List.cons.inj hb).1⟩
  · have hsplit : data ++ [b] = before ++ osc52Introducer ++ params ++ [esc] ++ [0x5c] := by
      rw [hdata, List.append_assoc _ [esc]]
      rfl
    obtain ⟨rfl, hb⟩ := List.append_inj' hsplit rfl
    refine Or.inr ⟨?_, (List.cons.inj hb).1⟩
    rw [after_concat]
    simp only [Osc52Filter.advance, hopened]
    rfl

/-- The last byte of a stream ends a sequence that was opened, whose write is
collected, or adds nothing. -/
theorem writes_concat (data : Bytes) (b : UInt8) :
    (∃ before params, EndsSequence (data ++ [b]) before params ∧ ¬ endsOpen before ∧
        (after (data ++ [b])).writes = (after data).writes ++ collected params) ∨
      ((∀ before params, EndsSequence (data ++ [b]) before params → endsOpen before) ∧
        (after (data ++ [b])).writes = (after data).writes) := by
  obtain ⟨hadds, hkeeps⟩ := (after data).writes_advance b
  rw [after_concat]
  by_cases hends : (after data).Ends b
  · have htraces := traces_after data
    refine Or.inl ?_
    rw [hadds hends]
    rcases hends with ⟨hstate, rfl⟩ | ⟨hstate, rfl⟩
    · rw [Traces, hstate] at htraces
      obtain ⟨before, params, hdata, hparams, hout, hkept, hover⟩ := htraces
      refine ⟨before, params, ⟨hparams, [0x07], by decide, by rw [hdata]⟩, ?_, ?_⟩
      · rwa [endsOpen_iff]
      · rw [hkept, hover, completedWrite_take]
    · rw [Traces, hstate] at htraces
      obtain ⟨before, params, hdata, hparams, hout, hkept, hover⟩ := htraces
      refine ⟨before, params, ⟨hparams, [esc, 0x5c], by decide, ?_⟩, ?_, ?_⟩
      · rw [hdata, List.append_assoc _ [esc]]
        rfl
      · rwa [endsOpen_iff]
      · rw [hkept, hover, completedWrite_take]
  · refine Or.inr ⟨fun before params h => ?_, hkeeps hends⟩
    rw [endsOpen_iff]
    exact not_not.mp (fun hout => hends (ends_of_endsSequence h hout))

/-- The scanner keeps to its buffer. -/
theorem length_params_after (data : Bytes) :
    (after data).params.length ≤ maxOsc52ParamsBytes := by
  have htraces := traces_after data
  unfold Traces at htraces
  cases hstate : (after data).state with
  | scan =>
      rw [hstate] at htraces
      rw [htraces.1]
      exact Nat.zero_le _
  | introducer matched =>
      rw [hstate] at htraces
      rw [htraces.1]
      exact Nat.zero_le _
  | params =>
      rw [hstate] at htraces
      obtain ⟨before, params, -, -, -, hkept, -⟩ := htraces
      rw [hkept, List.length_take]
      exact Nat.min_le_left _ _
  | paramsEscape =>
      rw [hstate] at htraces
      obtain ⟨before, params, -, -, -, hkept, -⟩ := htraces
      rw [hkept, List.length_take]
      exact Nat.min_le_left _ _

end Osc52Filter

end Scanner

section Exactness

open Osc52Filter

/-- What is collected from a selection and a payload. -/
theorem completedWrite_parts {target payload : Bytes}
    (htarget : 0x3b ∉ target) :
    completedWrite (target ++ 0x3b :: payload) false =
      match base64Decode payload with
      | none => none
      | some data =>
          if data.length > maxClipboardBytes then none
          else if data.isEmpty then none
          else some ⟨asciiText target, data⟩ := by
  have hmem : (target ++ 0x3b :: payload).contains 0x3b = true := by
    rw [List.contains_iff_mem]
    exact List.mem_append_right _ List.mem_cons_self
  have hpass : ∀ b ∈ target, (b != 0x3b) = true := by
    intro b hb
    rw [bne_iff_ne]
    rintro rfl
    exact htarget hb
  have htake : (target ++ 0x3b :: payload).takeWhile (fun b => b != 0x3b) = target := by
    rw [List.takeWhile_append_of_pos hpass]
    exact List.append_nil target
  have hdrop : ((target ++ 0x3b :: payload).dropWhile (fun b => b != 0x3b)).tail = payload := by
    rw [List.dropWhile_append_of_pos hpass]
    rfl
  have hread : base64Decode (bytesOf "?") = none := by decide
  simp only [completedWrite, hmem, htake, hdrop, Bool.not_true, Bool.false_eq_true, if_false]
  split
  · rename_i hquestion
    rw [hquestion, hread]
  · rfl

theorem exists_separator {params : Bytes}
    (h : 0x3b ∈ params) :
    ∃ target payload, params = target ++ 0x3b :: payload ∧ (0x3b : UInt8) ∉ target := by
  induction params with
  | nil => cases h
  | cons b rest ih =>
      by_cases hb : b = 0x3b
      · exact ⟨[], rest, by rw [hb]; rfl, List.not_mem_nil⟩
      · have hne : (0x3b : UInt8) ≠ b := fun heq => hb heq.symm
        obtain ⟨target, payload, rfl, htarget⟩ := ih ((List.mem_cons.mp h).resolve_left hne)
        refine ⟨b :: target, payload, rfl, ?_⟩
        rw [List.mem_cons, not_or]
        exact ⟨hne, htarget⟩

/-- What is collected from parameters: a write whose payload is decoded within
the bound. -/
theorem completedWrite_eq_some {params : Bytes} {write : ClipboardWrite} :
    completedWrite params false = some write ↔
      ∃ target payload, params = target ++ 0x3b :: payload ∧ 0x3b ∉ target ∧
        write.target = asciiText target ∧ base64Decode payload = some write.data ∧
          1 ≤ write.data.length ∧ write.data.length ≤ maxClipboardBytes := by
  constructor
  · intro h
    have hmem : 0x3b ∈ params := by
      by_contra hnone
      have hcontains : params.contains 0x3b = false := by simpa using hnone
      rw [completedWrite, hcontains] at h
      cases h
    obtain ⟨target, payload, rfl, htarget⟩ := exists_separator hmem
    rw [completedWrite_parts htarget] at h
    cases hdecode : base64Decode payload with
    | none => rw [hdecode] at h; cases h
    | some data =>
        simp only [hdecode, Option.ite_none_left_eq_some, Option.some.injEq, Nat.not_lt,
          List.isEmpty_iff] at h
        obtain ⟨hle, hne, rfl⟩ := h
        exact ⟨target, payload, rfl, htarget, rfl, hdecode, List.length_pos_of_ne_nil hne, hle⟩
  · rintro ⟨target, payload, rfl, htarget, hselects, hdecode, hpos, hle⟩
    have hover : ¬ write.data.length > maxClipboardBytes := Nat.not_lt.mpr hle
    have hsome : ¬ write.data.isEmpty = true := by
      rw [List.isEmpty_iff]
      exact List.ne_nil_of_length_pos hpos
    rw [completedWrite_parts htarget, hdecode]
    simp only [hover, hsome, if_false, ← hselects, Bool.false_eq_true]

theorem requests_iff {params : Bytes} {write : ClipboardWrite} :
    Requests params write ↔
      completedWrite params false = some write ∧ ¬ DecodesStray params := by
  rw [completedWrite_eq_some]
  constructor
  · rintro ⟨target, payload, rfl, htarget, hselects, hencodes, hpos, hle⟩
    obtain ⟨hstray, hdecode⟩ := decode_of_isBase64Of hencodes
    refine ⟨⟨target, payload, rfl, htarget, hselects, hdecode, hpos, hle⟩, ?_⟩
    rintro ⟨target', payload', data, heq, htarget', hstray', -⟩
    obtain ⟨rfl, rfl⟩ := separator_unique htarget htarget' heq
    rw [hstray] at hstray'
    cases hstray'
  · rintro ⟨⟨target, payload, rfl, htarget, hselects, hdecode, hpos, hle⟩, hclean⟩
    refine ⟨target, payload, rfl, htarget, hselects, ?_, hpos, hle⟩
    refine isBase64Of_of_decode ?_ hdecode
    by_contra hstray
    exact hclean ⟨target, payload, write.data, rfl, htarget, by simpa using hstray, hdecode, hpos,
      hle⟩

/-- The scanner collects what a faithful sequence asks for. -/
theorem collected_of_faithful {before params : Bytes}
    (h : Faithful before params)
    (hout : ¬ endsOpen before) :
    (∃ write, Requests params write ∧ collected params = [write]) ∨
      ((∀ write, ¬ Requests params write) ∧ collected params = []) := by
  by_cases hasked : ∃ write, Requests params write
  · have hle := (h.1 hasked).2
    obtain ⟨write, hwrite⟩ := hasked
    refine Or.inl ⟨write, hwrite, ?_⟩
    rw [collected, if_pos hle, (requests_iff.mp hwrite).1]
    rfl
  · refine Or.inr ⟨fun write hwrite => hasked ⟨write, hwrite⟩, ?_⟩
    unfold collected
    split
    · rename_i hle
      cases hcompleted : completedWrite params false with
      | none => rfl
      | some write =>
          by_cases hstray : DecodesStray params
          · rcases h.2 hstray with hopen | hover
            · exact absurd hopen hout
            · exact absurd hle (Nat.not_le.mpr hover)
          · exact absurd ⟨write, requests_iff.mpr ⟨hcompleted, hstray⟩⟩ hasked
    · rfl

/-- And nothing else is faithful. -/
theorem faithful_of_collected {before params : Bytes}
    (h : (∃ write, Requests params write) → ¬ endsOpen before ∧ collected params ≠ [])
    (hnone : (∀ write, ¬ Requests params write) → endsOpen before ∨ collected params = []) :
    Faithful before params := by
  constructor
  · intro hasked
    obtain ⟨hout, hcollected⟩ := h hasked
    refine ⟨hout, ?_⟩
    by_contra hover
    exact hcollected (if_neg hover)
  · rintro ⟨target, payload, data, hparams, htarget, hstray, hdecode, hpos, hle⟩
    have hcompleted : completedWrite params false = some ⟨asciiText target, data⟩ :=
      completedWrite_eq_some.mpr ⟨target, payload, hparams, htarget, rfl, hdecode, hpos, hle⟩
    have hunasked : ∀ write, ¬ Requests params write := by
      intro write hwrite
      exact (requests_iff.mp hwrite).2
        ⟨target, payload, data, hparams, htarget, hstray, hdecode, hpos, hle⟩
    rcases hnone hunasked with hopen | hcollected
    · exact Or.inl hopen
    · refine Or.inr (Nat.lt_of_not_le (fun hfits => ?_))
      rw [collected, if_pos hfits, hcompleted] at hcollected
      cases hcollected

/-- **Run lemma.**  While all sequences are faithful, the scanner collects what
is asked for. -/
theorem requested_after {data : Bytes}
    (h : ∀ q before params, q <+: data → EndsSequence q before params → Faithful before params) :
    Requested data (after data).writes := by
  induction data using List.reverseRecOn with
  | nil => exact .nil
  | append_singleton data b ih =>
      have hearlier := ih (fun q before params hq => h q before params
        (hq.trans (List.prefix_append _ _)))
      have hlast := h (data ++ [b])
      rcases writes_concat data b with ⟨before, params, hends, hout, hwrites⟩ | ⟨hopen, hwrites⟩
      · rw [hwrites]
        rcases collected_of_faithful (hlast _ _ List.prefix_rfl hends) hout with
          ⟨write, hwrite, hcollected⟩ | ⟨hnone, hcollected⟩
        · rw [hcollected]
          exact .write hearlier hends hwrite
        · rw [hcollected, List.append_nil]
          refine .other hearlier (fun before' params' write hends' hwrite => ?_)
          obtain ⟨rfl, rfl⟩ := hends.unique hends'
          exact hnone write hwrite
      · rw [hwrites]
        refine .other hearlier (fun before params write hends hwrite => ?_)
        exact ((hlast _ _ List.prefix_rfl hends).1 ⟨write, hwrite⟩).1 (hopen _ _ hends)

/-- What the scanner collects tells that the last sequence is faithful. -/
theorem faithful_of_requested {data before params : Bytes} {b : UInt8}
    (hearlier : Requested data (after data).writes)
    (hlast : Requested (data ++ [b]) (after (data ++ [b])).writes)
    (hends : EndsSequence (data ++ [b]) before params) :
    Faithful before params := by
  rcases hlast.snoc with ⟨earlier, before', params', write, hbefore, hends', hwrite, hwrites⟩ |
    ⟨hbefore, hnone⟩
  · obtain ⟨rfl, rfl⟩ := hends.unique hends'
    rw [hbefore.unique hearlier] at hwrites
    rcases writes_concat data b with ⟨before', params', hends'', hout, hcollects⟩ |
      ⟨hopen, hkeeps⟩
    · obtain ⟨rfl, rfl⟩ := hends.unique hends''
      refine faithful_of_collected (fun _ => ⟨hout, fun hnil => ?_⟩)
        (fun hunasked => absurd hwrite (hunasked write))
      rw [hcollects, hnil, List.append_nil] at hwrites
      exact absurd (List.self_eq_append_right.mp hwrites) (List.cons_ne_nil _ _)
    · rw [hkeeps] at hwrites
      exact absurd (List.self_eq_append_right.mp hwrites) (List.cons_ne_nil _ _)
  · have hsame := hbefore.unique hearlier
    refine faithful_of_collected
      (fun ⟨write, hwrite⟩ => absurd hwrite (hnone before params write hends)) (fun _ => ?_)
    rcases writes_concat data b with ⟨before', params', hends'', hout, hcollects⟩ |
      ⟨hopen, hkeeps⟩
    · obtain ⟨rfl, rfl⟩ := hends.unique hends''
      rw [hsame] at hcollects
      exact Or.inr (List.self_eq_append_right.mp hcollects)
    · exact Or.inl (hopen before params hends)

/-- **The writes are those asked for**, after every prefix of a stream, if and
only if its sequences are faithful. -/
theorem requested_after_iff (data : Bytes) :
    (∀ q, q <+: data → Requested q (after q).writes) ↔
      ∀ q before params, q <+: data → EndsSequence q before params →
        Faithful before params := by
  constructor
  · intro h q before params hq hends
    rcases List.eq_nil_or_concat q with rfl | ⟨earlier, b, rfl⟩
    · obtain ⟨-, ending, hending, hnil⟩ := hends
      have hempty := congrArg List.length hnil
      have hlen : osc52Introducer.length = 5 := by decide
      simp only [List.length_append, List.length_nil, hlen] at hempty
      omega
    · rw [List.concat_eq_append] at hq hends
      exact faithful_of_requested (h _ ((List.prefix_append _ _).trans hq)) (h _ hq) hends
  · intro h q hq
    exact requested_after (fun q' before params hq' => h q' before params (hq'.trans hq))

/-- **Clipboard writes are exact**, for all batches of all beginnings of a
stream, if and only if each sequence that the stream ends is faithful; and the
scanner never buffers more parameters than its bound. -/
theorem clipboardWrites_exact_iff (data : Bytes) :
    ((∀ batches : List Bytes, batches.flatten <+: data →
        Requested batches.flatten (Osc52Filter.default.filterBatches batches).2.2) ↔
      ∀ q before params, q <+: data → EndsSequence q before params → Faithful before params) ∧
      ∀ batches : List Bytes,
        (Osc52Filter.default.filterBatches batches).1.params.length ≤ maxOsc52ParamsBytes := by
  have hbatches : ∀ batches : List Bytes,
      (Osc52Filter.default.filterBatches batches).2.2 = (after batches.flatten).writes ∧
        (Osc52Filter.default.filterBatches batches).1.params = (after batches.flatten).params := by
    intro batches
    rw [Osc52Filter.filterBatches_eq rfl]
    exact ⟨rfl, rfl⟩
  refine ⟨?_, fun batches => ?_⟩
  · rw [← requested_after_iff]
    constructor
    · intro h q hq
      have hone := h [q] (by rwa [List.flatten_singleton])
      rwa [(hbatches [q]).1, List.flatten_singleton] at hone
    · intro h batches hq
      rw [(hbatches batches).1]
      exact h _ hq
  · rw [(hbatches batches).2]
    exact length_params_after _

example :
    (Osc52Filter.default.filterBatches
      [bytesOf "\x1b]52;c;\x1b]52;c;aGk=\x07\x1b]52;c;aGk=\x07"]).2.2 =
        [⟨"c", bytesOf "hi"⟩] := by
  decide

/-- A write with padding alone for its payload. -/
def strayWrite : Bytes :=
  bytesOf "\x1b]52;c;==\x07"

/-- **Strays are written**: padding alone encodes nothing, and a zero byte goes
to the clipboard. -/
theorem stray_padding_writes :
    (Osc52Filter.default.filterBatches [strayWrite]).2.2 = [⟨"c", [0]⟩] ∧
      ¬ ∀ batches : List Bytes,
        Requested batches.flatten (Osc52Filter.default.filterBatches batches).2.2 := by
  refine ⟨by decide, fun h => ?_⟩
  have hexact : ∀ q, q <+: strayWrite → Requested q (after q).writes := by
    intro q hq
    have hone := h [q]
    rwa [Osc52Filter.filterBatches_eq rfl, List.flatten_singleton] at hone
  have hends : EndsSequence strayWrite [] (bytesOf "c;==") :=
    ⟨List.all_eq_true.mp (by decide), [0x07], by decide, by decide⟩
  have hstray : DecodesStray (bytesOf "c;==") :=
    ⟨bytesOf "c", bytesOf "==", [0], by decide, by decide, by decide, by decide, by decide,
      by decide⟩
  rcases ((requested_after_iff strayWrite).mp hexact _ _ _ List.prefix_rfl hends).2 hstray with
    hopen | hover
  · rw [endsOpen_iff] at hopen
    revert hopen
    decide
  · revert hover
    decide

end Exactness

end Server
end Rttx
