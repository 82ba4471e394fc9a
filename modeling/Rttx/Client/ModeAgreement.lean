import Mathlib.Data.List.Induction
import Rttx.Client.ModeTrackers
import Rttx.Server.ModeCalls
import Rttx.Server.SampleTerminal

/-!
# The modes that the client and the daemon track

The daemon learns of bracketed paste and of mouse tracking from the sequences
that its parser reports, the view of a pane from the output that it is fed.
They agree on a stream as long as each byte is one that they take alike: a paste
mode is set by the literal the view looks for and within one delta, a mouse mode
by a sequence that the view's scanner follows, the two come to the same, and no
reset of the terminal comes while the mouse is tracked.

**Results.**
* `changeAt_eq_some`: where the scanner is when a sequence sets modes.
* `feedOutput_agrees`: a delta of such bytes keeps the agreement.
* `modes_agree`: the modes agree after any deltas of such bytes.
-/

namespace Rttx
namespace Client

open Kernel Server

universe u

section Changes

/-- What the last byte of a stream sets or resets. -/
def changeAt (data : Bytes) (b : UInt8) : Option (Bool × List Nat) :=
  ((ScanState.outside.run data).step b).2.bind modeChange?

/-- The intermediate bytes that were read are such. -/
def ReadIntermediates : ScanState → Prop
  | .collecting _ intermediates => ∀ b ∈ intermediates, byteClass b = .intermediate
  | _ => True

theorem ReadIntermediates.step {s : ScanState}
    (h : ReadIntermediates s)
    (b : UInt8) :
    ReadIntermediates (s.step b).1 := by
  cases hclass : byteClass b with
  | escape => simp [ScanState.step, hclass, ReadIntermediates]
  | cancel => simp [ScanState.step, hclass, ReadIntermediates]
  | ignorable => simpa [ScanState.step, hclass] using h
  | intermediate =>
      cases s with
      | collecting params intermediates =>
          simp only [ScanState.step, hclass]
          intro x hx
          rcases List.mem_append.mp hx with hx | hx
          · exact h x hx
          · rw [List.mem_singleton.mp hx]
            exact hclass
      | _ => simp [ScanState.step, hclass, ReadIntermediates]
  | parameter =>
      cases s with
      | collecting params intermediates =>
          simp only [ScanState.step, hclass]
          split
          · exact List.forall_mem_nil _
          · trivial
      | _ => simp [ScanState.step, hclass, ReadIntermediates]
  | final =>
      cases s with
      | escape =>
          simp only [ScanState.step, hclass]
          split
          · exact List.forall_mem_nil _
          · trivial
      | _ => simp [ScanState.step, hclass, ReadIntermediates]

theorem ReadIntermediates.run {s : ScanState}
    (h : ReadIntermediates s)
    (data : Bytes) :
    ReadIntermediates (s.run data) := by
  induction data generalizing s with
  | nil => exact h
  | cons b rest ih => exact ih (h.step b)

theorem charOfByte_eq {b c : UInt8} {ch : Char}
    (hc : Char.ofNat c.toNat = ch)
    (hch : ch.toNat = c.toNat) :
    Char.ofNat b.toNat = ch ↔ b = c := by
  constructor
  · intro h
    have hvalid : b.toNat.isValidChar := Or.inl (by have := b.toNat_lt; omega)
    have hnat : (Char.ofNat b.toNat).toNat = b.toNat := by
      rw [Char.ofNat, dif_pos hvalid]
      rfl
    rw [h, hch] at hnat
    exact UInt8.toNat_inj.mp hnat.symm
  · rintro rfl
    exact hc

theorem action_h {b : UInt8} : Char.ofNat b.toNat = 'h' ↔ b = 0x68 :=
  charOfByte_eq rfl rfl

theorem action_l {b : UInt8} : Char.ofNat b.toNat = 'l' ↔ b = 0x6c :=
  charOfByte_eq rfl rfl

/-- **A sequence that sets modes** has the private marker and no intermediate
bytes. -/
theorem changeAt_eq_some {data : Bytes} {b : UInt8} {enabled : Bool} {values : List Nat}
    (h : changeAt data b = some (enabled, values)) :
    (∃ params, ScanState.outside.run data = .collecting (0x3f :: params) []) ∧
      (b = 0x68 ∨ b = 0x6c) := by
  obtain ⟨c, hends, hchange⟩ := Option.bind_eq_some_iff.mp h
  have hreads := ReadIntermediates.run (s := .outside) trivial data
  have hmode : (dispatched c).intermediates = bytesOf "?" ∧
      ((dispatched c).action = 'h' ∨ (dispatched c).action = 'l') := by
    unfold modeChange? CsiDispatch.modes? modeCall? at hchange
    by_contra hnot
    rw [if_neg hnot] at hchange
    cases hchange
  obtain ⟨hinter, haction⟩ := hmode
  obtain ⟨_, hfinal, _⟩ := ScanState.step_eq_some hends
  cases hs : ScanState.outside.run data with
  | collecting params intermediates =>
      rw [hs] at hends hreads
      have hclass : byteClass b = .final := (ScanState.step_eq_some hends).1
      have hc : c = ⟨params, intermediates, b⟩ := by
        simpa [ScanState.step, hclass] using hends.symm
      subst hc
      constructor
      · have htake : ((params.takeWhile isMarker) ++ intermediates).take 2 = [0x3f] := hinter
        cases params with
        | nil =>
            -- An intermediate byte is no marker.
            cases intermediates with
            | nil => cases htake
            | cons first rest =>
                have hfirst : first = 0x3f := by
                  simp only [List.takeWhile_nil, List.nil_append, List.take_succ_cons,
                    List.cons.injEq] at htake
                  exact htake.1
                have hclass := hreads first List.mem_cons_self
                rw [hfirst] at hclass
                cases hclass
        | cons first rest =>
            by_cases hmarker : isMarker first = true
            · rw [List.takeWhile_cons_of_pos hmarker, List.cons_append, List.take_succ_cons,
                List.cons.injEq] at htake
              obtain ⟨rfl, hrest⟩ := htake
              refine ⟨rest, ?_⟩
              have hnil : intermediates = [] := by
                cases intermediates with
                | nil => rfl
                | cons i more =>
                    cases htail : rest.takeWhile isMarker <;> simp [htail] at hrest
              rw [hnil]
            · rw [List.takeWhile_cons_of_neg hmarker, List.nil_append] at htake
              cases intermediates with
              | nil => cases htake
              | cons i more =>
                  have hi : i = 0x3f := by
                    rw [List.take_succ_cons, List.cons.injEq] at htake
                    exact htake.1
                  have hclass := hreads i List.mem_cons_self
                  rw [hi] at hclass
                  cases hclass
      · exact haction.imp action_h.mp action_l.mp
  | escape =>
      rw [hs] at hends
      unfold ScanState.step at hends
      cases hclass : byteClass b with
      | final =>
          rw [hclass] at hends
          simp only at hends
          split at hends <;> cases hends
      | _ => rw [hclass] at hends; cases hends
  | _ =>
      rw [hs] at hends
      unfold ScanState.step at hends
      cases hclass : byteClass b <;> rw [hclass] at hends <;> cases hends

/-- The numbers of a parameter string, as the parser keeps them. -/
def reportedValues (params : Bytes) : List Nat :=
  ((ControlSequence.plainValues params).take 32).map fun n => min n 65535

/-- A plainly spelled sequence sets what it spells. -/
theorem changeAt_of_private {data params : Bytes} {b : UInt8}
    (hrun : ScanState.outside.run data = .collecting (0x3f :: params) [])
    (hplain : ∀ b ∈ params, (0x30 ≤ b ∧ b ≤ 0x39) ∨ b = 0x3b)
    (hb : b = 0x68 ∨ b = 0x6c) :
    changeAt data b = some (b == 0x68, reportedValues params) := by
  have hclass : byteClass b = .final := by
    rcases hb with rfl | rfl <;> rfl
  have hnone : ∀ x ∈ params, isMarker x = false :=
    fun x hx => (isMarker_of_plain (hplain x hx)).2
  have htake : params.takeWhile isMarker = [] := by
    cases params with
    | nil => rfl
    | cons first rest =>
        exact List.takeWhile_cons_of_neg (by simp [hnone first List.mem_cons_self])
  have hdrop : params.dropWhile isMarker = params := by
    have hsplit := List.takeWhile_append_dropWhile (p := isMarker) (l := params)
    rwa [htake] at hsplit
  have hcolon : (0x3a : UInt8) ∉ params := by
    intro hmem
    rcases hplain _ hmem with ⟨_, hhigh⟩ | heq
    · exact absurd hhigh (by decide)
    · cases heq
  have hgroups : (⟨0x3f :: params, [], b⟩ : ControlSequence).groups =
      (ControlSequence.plainValues params).map fun v => [v] :=
    ControlSequence.groups_of_plain hdrop hcolon
  have hends : ((ScanState.outside.run data).step b).2 = some ⟨0x3f :: params, [], b⟩ := by
    rw [hrun]
    simp [ScanState.step, hclass]
  have hmarker : (⟨0x3f :: params, [], b⟩ : ControlSequence).marker = [0x3f] := by
    rw [ControlSequence.marker, List.takeWhile_cons_of_pos (by decide), htake]
  have hinter : (dispatched ⟨0x3f :: params, [], b⟩).intermediates = bytesOf "?" := by
    rw [dispatched, hmarker]
    rfl
  have hparams : (dispatched ⟨0x3f :: params, [], b⟩).params =
      (reportedValues params).map fun v => [v] := by
    rw [dispatched, hgroups, takeNumbers_singletons, reportedValues, List.map_map, List.map_map]
    rfl
  have haction : (dispatched ⟨0x3f :: params, [], b⟩).action = 'h' ∨
      (dispatched ⟨0x3f :: params, [], b⟩).action = 'l' :=
    hb.imp action_h.mpr action_l.mpr
  have henabled : ((dispatched ⟨0x3f :: params, [], b⟩).action == 'h') = (b == 0x68) := by
    rcases hb with rfl | rfl <;> rfl
  rw [changeAt, hends, Option.bind_some, modeChange?, CsiDispatch.modes?, modeCall?,
    if_pos ⟨hinter, haction⟩, henabled, hparams, List.filterMap_map]
  have hsome : (ScreenPerformer.subparam ∘ fun v => [v]) = some := rfl
  rw [hsome, List.filterMap_some]

end Changes

section Bytes

/-- Whether a byte ends a sequence of private modes for the tracker. -/
def MouseTrackingTracker.sets (t : MouseTrackingTracker) (b : UInt8) : Prop :=
  t.state = .csiPrivate ∧ (b = 0x68 ∨ b = 0x6c)

/-- A sequence of mouse modes comes to the same for both: the daemon knows no
mode 9, and one mode takes the place of another. -/
def Settles (tracking : Nat) (armed : MouseModes) (enabled : Bool) (values : List Nat) : Prop :=
  if enabled then
    values.any isTracking ∨ tracking ≠ 0
  else if values.any isTracking then
    ∀ mode, MouseModes.isMode mode → armed.armed mode → mode ∈ values
  else
    tracking ≠ 0 → ∃ mode, MouseModes.isMode mode ∧ armed.armed mode ∧ mode ∉ values

/-- A sequence of modes that leaves the daemon as it is. -/
def Idle (tracking : Nat) (enabled : Bool) (values : List Nat) : Prop :=
  values.any isTracking → (enabled = true ↔ tracking ≠ 0)

/-- A byte that the view and the daemon take alike: `before` is the stream before
its delta, `read` what the delta has before it. -/
structure AlikeByte (P : Type u) [VteParser P] (limit : Nat) (before read : Bytes) (b : UInt8) :
    Prop where
  paste : ∀ enabled values, changeAt (before ++ read) b = some (enabled, values) →
    2004 ∈ values →
      pasteLiteral enabled <:+ read ++ [b] ∨
        enabled = (outputModes P limit (before ++ read)).bracketedPaste
  mouse : ∀ enabled values, changeAt (before ++ read) b = some (enabled, values) →
    values.any MouseModes.isMode →
      (PlainSpelling (before ++ read) ∧
        Settles (outputModes P limit (before ++ read)).mouseTracking
          (MouseTrackingTracker.default.scan (before ++ read)).modes enabled values) ∨
      (¬ (MouseTrackingTracker.default.scan (before ++ read)).sets b ∧
        Idle (outputModes P limit (before ++ read)).mouseTracking enabled values)
  reset : (MouseTrackingTracker.default.scan (before ++ read)).resets b →
    (outputModes P limit (before ++ read)).mouseTracking = 0

/-- The view's tracker is active when the daemon tracks the mouse. -/
def MouseAgrees (P : Type u) [VteParser P] (limit : Nat) (data : Bytes) : Prop :=
  (MouseTrackingTracker.default.scan data).isActive = true ↔
    (outputModes P limit data).mouseTracking ≠ 0

theorem mem_reportedValues {params : Bytes} {mode : Nat}
    (h : MouseModes.isMode mode = true) :
    mode ∈ reportedValues params ↔
      mode ∈ ((params.splitOn 0x3b).map scannedNumber).take mouseScanMaxParams := by
  have hbound : mode < 65535 := by
    rcases MouseModes.isMode_iff.mp h with rfl | rfl | rfl | rfl <;> decide
  have hscanned : ((params.splitOn 0x3b).map scannedNumber).take mouseScanMaxParams =
      ((ControlSequence.plainValues params).take 32).map fun n => min n u32Max := by
    rw [List.map_take, ControlSequence.plainValues, List.map_map]
    rfl
  have hmin : ∀ n : Nat, min n 65535 = mode ↔ min n u32Max = mode := by
    intro n
    unfold u32Max
    omega
  rw [hscanned, reportedValues]
  simp only [List.mem_map, hmin]

theorem isMode_of_isTracking {mode : Nat}
    (h : isTracking mode = true) :
    MouseModes.isMode mode = true := by
  simp only [isTracking, Bool.or_eq_true, beq_iff_eq] at h
  rcases h with (rfl | rfl) | rfl <;> rfl

variable {P : Type u} [VteParser P]
variable {limit : Nat}

/-- The settings of a sequence that both follow. -/
theorem settles_iff {tracking : TrackedModes} {armed : MouseModes} {enabled : Bool}
    {values scanned : List Nat}
    (hagrees : armed.isActive = true ↔ tracking.mouseTracking ≠ 0)
    (hsame : ∀ mode, MouseModes.isMode mode = true → (mode ∈ values ↔ mode ∈ scanned))
    (hany : values.any MouseModes.isMode = true)
    (hsettles : Settles tracking.mouseTracking armed enabled values) :
    (armed.setAll enabled scanned).isActive = true ↔
      (tracking.setAll enabled values).mouseTracking ≠ 0 := by
  have hactive : (armed.setAll enabled scanned).isActive = true ↔
      ∃ mode, MouseModes.isMode mode = true ∧
        (if mode ∈ values then enabled else armed.armed mode) = true := by
    rw [MouseModes.isActive_iff]
    refine exists_congr fun mode => and_congr_right fun hmode => ?_
    rw [MouseModes.armed_setAll hmode]
    by_cases hmem : mode ∈ values
    · rw [if_pos hmem, if_pos ((hsame mode hmode).mp hmem)]
    · rw [if_neg hmem, if_neg (fun h => hmem ((hsame mode hmode).mpr h))]
  rw [hactive, Ne, TrackedModes.setAll_mouseTracking_eq_zero]
  unfold Settles at hsettles
  cases enabled with
  | true =>
      obtain ⟨mode, hmem, hmode⟩ := List.any_eq_true.mp hany
      refine iff_of_true ⟨mode, hmode, by rw [if_pos hmem]⟩ ?_
      rw [if_pos rfl] at hsettles
      by_cases htracking : values.any isTracking = true
      · rw [if_pos htracking]
        decide
      · rw [if_neg htracking]
        exact hsettles.resolve_left htracking
  | false =>
      rw [if_neg Bool.false_ne_true] at hsettles
      by_cases htracking : values.any isTracking = true
      · rw [if_pos htracking] at hsettles ⊢
        refine iff_of_false ?_ (not_not_intro rfl)
        rintro ⟨mode, hmode, harmed⟩
        by_cases hmem : mode ∈ values
        · rw [if_pos hmem] at harmed
          cases harmed
        · rw [if_neg hmem] at harmed
          exact hmem (hsettles mode hmode harmed)
      · rw [if_neg htracking] at hsettles ⊢
        rw [← Ne, ← hagrees]
        constructor
        · rintro ⟨mode, hmode, harmed⟩
          by_cases hmem : mode ∈ values
          · rw [if_pos hmem] at harmed
            cases harmed
          · rw [if_neg hmem] at harmed
            exact MouseModes.isActive_iff.mpr ⟨mode, hmode, harmed⟩
        · intro hactive
          obtain ⟨mode, hmode, harmed, hmem⟩ := hsettles (hagrees.mp hactive)
          exact ⟨mode, hmode, by rw [if_neg hmem]; exact harmed⟩

/-- A sequence without mouse modes arms nothing. -/
theorem isActive_setAll_of_none {armed : MouseModes} {values : List Nat}
    (h : ∀ mode, MouseModes.isMode mode = true → mode ∉ values)
    (enabled : Bool) :
    (armed.setAll enabled values).isActive = true ↔ armed.isActive = true := by
  rw [MouseModes.isActive_iff, MouseModes.isActive_iff]
  refine exists_congr fun mode => and_congr_right fun hmode => ?_
  rw [MouseModes.armed_setAll hmode, if_neg (h mode hmode)]

theorem any_isMode_of_any_isTracking {values : List Nat}
    (h : values.any isTracking = true) :
    values.any MouseModes.isMode = true := by
  obtain ⟨mode, hmem, hmode⟩ := List.any_eq_true.mp h
  exact List.any_eq_true.mpr ⟨mode, hmem, isMode_of_isTracking hmode⟩

theorem Idle.setAll {tracking : TrackedModes} {enabled : Bool} {values : List Nat}
    (h : Idle tracking.mouseTracking enabled values) :
    (tracking.setAll enabled values).mouseTracking ≠ 0 ↔ tracking.mouseTracking ≠ 0 := by
  rw [Ne, TrackedModes.setAll_mouseTracking_eq_zero]
  by_cases htracking : values.any isTracking = true
  · rw [if_pos htracking, Bool.not_eq_false, h htracking]
  · rw [if_neg htracking]

end Bytes

section Mouse

namespace MouseTrackingTracker

theorem step_of_resets {t : MouseTrackingTracker} {b : UInt8}
    (h : t.resets b = true) :
    (t.step b).modes = .none := by
  simp only [resets, Bool.or_eq_true, Bool.and_eq_true, beq_iff_eq] at h
  rcases h with ⟨hstate, rfl⟩ | ⟨hstate, rfl⟩ <;> simp [step, hstate]

theorem step_of_sets {t : MouseTrackingTracker} {b : UInt8}
    (h : t.sets b) :
    (t.step b).modes = t.modes.setAll (b == 0x68) t.pushParam.params := by
  obtain ⟨hstate, rfl | rfl⟩ := h <;> simp [step, hstate, pushParam]

/-- The other bytes leave the modes. -/
theorem step_modes {t : MouseTrackingTracker} {b : UInt8}
    (hreset : ¬ t.resets b = true)
    (hset : ¬ t.sets b) :
    (t.step b).modes = t.modes := by
  unfold step
  by_cases hcancel : b = 0x18 ∨ b = 0x1a
  · rw [if_pos hcancel]
  by_cases hesc : b = 0x1b
  · rw [if_neg hcancel, if_pos hesc]
  rw [if_neg hcancel, if_neg hesc]
  cases hstate : t.state with
  | ground => rfl
  | escape =>
      have hfull : b ≠ 0x63 := by
        rintro rfl
        simp [resets, hstate] at hreset
      simp only [if_neg hfull]
      split <;> rfl
  | csiEntry =>
      simp only
      split_ifs <;> rfl
  | csiPrivate =>
      have hmodes : ¬ (b = 0x68 ∨ b = 0x6c) := fun hb => hset ⟨hstate, hb⟩
      simp only [if_neg hmodes]
      split_ifs <;> rfl
  | csiBang =>
      have hsoft : b ≠ 0x70 := by
        rintro rfl
        simp [resets, hstate] at hreset
      simp only [if_neg hsoft]
  | csiIgnore =>
      simp only
      split <;> rfl

end MouseTrackingTracker

variable {P : Type u} [VteParser P] [ParameterParser P]
variable {limit : Nat}

theorem follows_scan (data : Bytes) :
    Follows (MouseTrackingTracker.default.scan data) (ScanState.outside.run data) :=
  Follows.run (show Follows .default .outside from trivial) data

/-- A reset is no sequence of modes. -/
theorem changeAt_of_resets {data : Bytes} {b : UInt8}
    (h : (MouseTrackingTracker.default.scan data).resets b = true) :
    changeAt data b = none := by
  have hfollows := follows_scan data
  cases hchange : changeAt data b with
  | none => rfl
  | some change =>
      obtain ⟨enabled, values⟩ := change
      obtain ⟨⟨params, hrun⟩, _⟩ := changeAt_eq_some hchange
      simp only [MouseTrackingTracker.resets, Bool.or_eq_true, Bool.and_eq_true,
        beq_iff_eq] at h
      unfold Follows at hfollows
      rcases h with ⟨hstate, _⟩ | ⟨hstate, _⟩
      · rw [hstate, hrun] at hfollows
        cases hfollows
      · rw [hstate, hrun] at hfollows
        cases hfollows

/-- **One byte keeps the mouse modes in agreement.** -/
theorem MouseAgrees.snoc {before read : Bytes} {b : UInt8}
    (h : MouseAgrees P limit (before ++ read))
    (hwhole : CharsWhole (before ++ read ++ [b]))
    (hbyte : AlikeByte P limit before read b) :
    MouseAgrees P limit (before ++ read ++ [b]) := by
  have hmouse := hbyte.mouse
  have hreset := hbyte.reset
  generalize before ++ read = data at *
  unfold MouseAgrees at h ⊢
  rw [MouseTrackingTracker.scan_snoc, outputModes_snoc P limit hwhole]
  change ((MouseTrackingTracker.default.scan data).step b).modes.isActive = true ↔
    ((changeAt data b).elim (outputModes P limit data) fun change =>
      (outputModes P limit data).setAll change.1 change.2).mouseTracking ≠ 0
  have hfollows := follows_scan data
  by_cases hresets : (MouseTrackingTracker.default.scan data).resets b = true
  · -- Nothing is tracked when the terminal is reset.
    rw [MouseTrackingTracker.step_of_resets hresets, changeAt_of_resets hresets]
    exact iff_of_false Bool.false_ne_true (not_not_intro (hreset hresets))
  by_cases hsets : (MouseTrackingTracker.default.scan data).sets b
  · -- Both set what the sequence spells.
    rw [MouseTrackingTracker.step_of_sets hsets]
    unfold Follows at hfollows
    rw [hsets.1] at hfollows
    obtain ⟨params, hrun, hreads⟩ := hfollows
    have hchange := changeAt_of_private hrun hreads.plain hsets.2
    rw [hchange, Option.elim_some, hreads.pushed]
    by_cases hany : (reportedValues params).any MouseModes.isMode = true
    · have hsettles := (hmouse _ _ hchange hany).resolve_right fun hidle => hidle.1 hsets
      exact settles_iff h (fun mode hmode => mem_reportedValues hmode) hany hsettles.2
    · have hnone : ∀ mode, MouseModes.isMode mode = true →
          mode ∉ ((params.splitOn 0x3b).map scannedNumber).take mouseScanMaxParams := by
        intro mode hmode hmem
        exact hany (List.any_eq_true.mpr ⟨mode, (mem_reportedValues hmode).mpr hmem, hmode⟩)
      have hidle : Idle (outputModes P limit data).mouseTracking (b == 0x68)
          (reportedValues params) :=
        fun htracking => absurd (any_isMode_of_any_isTracking htracking) hany
      rw [isActive_setAll_of_none hnone, hidle.setAll]
      exact h
  · -- What the tracker passes over leaves the daemon as it is.
    rw [MouseTrackingTracker.step_modes hresets hsets]
    cases hchange : changeAt data b with
    | none => exact h
    | some change =>
        obtain ⟨enabled, values⟩ := change
        rw [Option.elim_some]
        have hidle : Idle (outputModes P limit data).mouseTracking enabled values := by
          by_cases hany : values.any MouseModes.isMode = true
          · rcases hmouse enabled values hchange hany with ⟨hspelled, _⟩ | ⟨_, hidle⟩
            · obtain ⟨⟨params, hrun⟩, hb⟩ := changeAt_eq_some hchange
              have hsync := hspelled.inSync .default .outside
              exact absurd ⟨hsync.inPrivate params hrun, hb⟩ hsets
            · exact hidle
          · intro htracking
            exact absurd (any_isMode_of_any_isTracking htracking) hany
        rw [hidle.setAll]
        exact h

end Mouse

section Paste

variable {P : Type u} [VteParser P] [ParameterParser P]
variable {limit : Nat}

/-- The literals are sequences of the mode. -/
theorem changeAt_of_literal {data : Bytes} {b : UInt8} {enabled : Bool}
    (h : pasteLiteral enabled <:+ data ++ [b]) :
    changeAt data b = some (enabled, [2004]) := by
  obtain ⟨final, hfinal, hliteral, henabled⟩ : ∃ final : UInt8,
      (final = 0x68 ∨ final = 0x6c) ∧
      pasteLiteral enabled = [0x1b, 0x5b, 0x3f, 0x32, 0x30, 0x30, 0x34] ++ [final] ∧
      (final == 0x68) = enabled := by
    cases enabled with
    | true => exact ⟨0x68, Or.inl rfl, bracketedPasteEnable_eq, rfl⟩
    | false => exact ⟨0x6c, Or.inr rfl, bracketedPasteDisable_eq, rfl⟩
  rw [hliteral] at h
  obtain ⟨front, heq⟩ := h
  rw [← List.append_assoc] at heq
  obtain ⟨rfl, hb⟩ := List.append_inj' heq rfl
  cases hb
  have hrun : ScanState.outside.run (front ++ [0x1b, 0x5b, 0x3f, 0x32, 0x30, 0x30, 0x34]) =
      .collecting (0x3f :: [0x32, 0x30, 0x30, 0x34]) [] := by
    rw [ScanState.run_append]
    rfl
  have hdigits : ∀ b ∈ ([0x32, 0x30, 0x30, 0x34] : Bytes), (0x30 ≤ b ∧ b ≤ 0x39) ∨ b = 0x3b := by
    intro b hb
    simp only [List.mem_cons, List.not_mem_nil, or_false] at hb
    rcases hb with rfl | rfl | rfl | rfl <;> decide
  rw [changeAt_of_private hrun hdigits hfinal, henabled]
  rfl

/-- **One byte keeps the paste modes in agreement.** -/
theorem paste_snoc {before read : Bytes} {b : UInt8} {mode : Bool}
    (h : updateBracketedPasteMode mode read =
      (outputModes P limit (before ++ read)).bracketedPaste)
    (hwhole : CharsWhole (before ++ read ++ [b]))
    (hbyte : AlikeByte P limit before read b) :
    updateBracketedPasteMode mode (read ++ [b]) =
      (outputModes P limit (before ++ read ++ [b])).bracketedPaste := by
  have hdaemon : (outputModes P limit (before ++ read ++ [b])).bracketedPaste =
      (changeAt (before ++ read) b).elim (outputModes P limit (before ++ read)).bracketedPaste
        (fun change => if 2004 ∈ change.2 then change.1
          else (outputModes P limit (before ++ read)).bracketedPaste) := by
    rw [outputModes_snoc P limit hwhole]
    change TrackedModes.bracketedPaste ((changeAt (before ++ read) b).elim _ _) = _
    cases changeAt (before ++ read) b with
    | none => rfl
    | some change => exact TrackedModes.setAll_bracketedPaste _ _ _
  have hliteral : ∀ enabled, pasteLiteral enabled <:+ read ++ [b] →
      (outputModes P limit (before ++ read ++ [b])).bracketedPaste = enabled := by
    intro enabled hends
    have hall : pasteLiteral enabled <:+ before ++ read ++ [b] := by
      rw [List.append_assoc]
      exact hends.trans (List.suffix_append _ _)
    rw [hdaemon, changeAt_of_literal hall]
    rfl
  rw [updateBracketedPasteMode_snoc]
  by_cases henable : bracketedPasteEnable <:+ read ++ [b]
  · rw [if_pos henable]
    exact (hliteral true henable).symm
  by_cases hdisable : bracketedPasteDisable <:+ read ++ [b]
  · rw [if_neg henable, if_pos hdisable]
    exact (hliteral false hdisable).symm
  rw [if_neg henable, if_neg hdisable, h, hdaemon]
  cases hchange : changeAt (before ++ read) b with
  | none => rfl
  | some change =>
      obtain ⟨enabled, values⟩ := change
      rw [Option.elim_some]
      by_cases hmem : 2004 ∈ values
      · rw [if_pos hmem]
        rcases hbyte.paste enabled values hchange hmem with hends | hsame
        · cases enabled with
          | true => exact absurd hends henable
          | false => exact absurd hends hdisable
        · exact hsame.symm
      · rw [if_neg hmem]

end Paste

section Deltas

/-- A delta of bytes that both take alike. -/
def AlikeDelta (P : Type u) [VteParser P] (limit : Nat) (before delta : Bytes) : Prop :=
  ∀ read b rest, delta = read ++ b :: rest → AlikeByte P limit before read b

/-- Such deltas behind the stream `before`. -/
def AlikeDeltas (P : Type u) [VteParser P] (limit : Nat) : Bytes → List Bytes → Prop
  | _, [] => True
  | before, delta :: rest =>
      AlikeDelta P limit before delta ∧ AlikeDeltas P limit (before ++ delta) rest

/-- What a view has tracked of a stream, and that the daemon agrees. -/
structure Agrees (P : Type u) [VteParser P] (limit : Nat) (v : ManagedPane) (data : Bytes) :
    Prop where
  live : v.terminal.crashed = false
  scanned : v.mouseTracking = MouseTrackingTracker.default.scan data
  paste : v.bracketedPasteMode = (outputModes P limit data).bracketedPaste
  mouse : MouseAgrees P limit data

variable {P : Type u} [VteParser P] [ParameterParser P]
variable {limit : Nat}

/-- The agreement within a delta. -/
theorem agrees_within {before delta : Bytes} {mode : Bool}
    (hpaste : mode = (outputModes P limit before).bracketedPaste)
    (hmouse : MouseAgrees P limit before)
    (hwhole : CharsWhole (before ++ delta))
    (halike : AlikeDelta P limit before delta)
    (read rest : Bytes)
    (hread : delta = read ++ rest) :
    updateBracketedPasteMode mode read =
        (outputModes P limit (before ++ read)).bracketedPaste ∧
      MouseAgrees P limit (before ++ read) := by
  induction read using List.reverseRecOn generalizing rest with
  | nil =>
      rw [List.append_nil]
      exact ⟨hpaste, hmouse⟩
  | append_singleton read b ih =>
      obtain ⟨hpaste, hmouse⟩ := ih (b :: rest) (by rw [hread]; simp)
      have hbyte : AlikeByte P limit before read b := halike read b rest (by rw [hread]; simp)
      have hfront : CharsWhole (before ++ read ++ [b]) := by
        have hsplit : CharsWhole (before ++ read ++ [b] ++ rest) := by
          rw [hread] at hwhole
          simpa using hwhole
        exact hsplit.front
      rw [← List.append_assoc]
      exact ⟨paste_snoc hpaste hfront hbyte, hmouse.snoc hfront hbyte⟩

/-- **A delta keeps the agreement.** -/
theorem feedOutput_agrees {v : ManagedPane} {before delta : Bytes}
    (h : Agrees P limit v before)
    (hwhole : CharsWhole (before ++ delta))
    (halike : AlikeDelta P limit before delta) :
    Agrees P limit (v.feedOutput delta) (before ++ delta) := by
  obtain ⟨hlive, hscanned, hpaste, hmouse⟩ := h
  obtain ⟨hpaste', hmouse'⟩ :=
    agrees_within hpaste hmouse hwhole halike delta [] (by rw [List.append_nil])
  have hfeed : v.feedOutput delta =
      { terminal := v.terminal.feedOutput delta
        bracketedPasteMode := updateBracketedPasteMode v.bracketedPasteMode delta
        mouseTracking := v.mouseTracking.scan delta } := by
    rw [ManagedPane.feedOutput, hlive]
    rfl
  rw [hfeed]
  refine ⟨?_, ?_, hpaste', hmouse'⟩
  · rw [PaneTerminal.feedOutput_crashed, hlive]
  · rw [hscanned, ← MouseTrackingTracker.scan_append]

theorem foldl_feedOutput_agrees {v : ManagedPane} {before : Bytes} {deltas : List Bytes}
    (h : Agrees P limit v before)
    (hwhole : CharsWhole (before ++ deltas.flatten))
    (halike : AlikeDeltas P limit before deltas) :
    Agrees P limit (deltas.foldl ManagedPane.feedOutput v) (before ++ deltas.flatten) := by
  induction deltas generalizing v before with
  | nil =>
      rw [List.flatten_nil, List.append_nil]
      exact h
  | cons delta rest ih =>
      rw [List.flatten_cons, ← List.append_assoc] at hwhole ⊢
      exact ih (feedOutput_agrees h hwhole.front halike.1) hwhole halike.2

/-- **The modes of the view and of the daemon agree** on a stream that is cut
into deltas of bytes that both take alike. -/
theorem modes_agree {deltas : List Bytes}
    (hwhole : CharsWhole deltas.flatten)
    (halike : AlikeDeltas P limit [] deltas) :
    (deltas.foldl ManagedPane.feedOutput .new).bracketedPasteMode =
        (outputModes P limit deltas.flatten).bracketedPaste ∧
      (deltas.foldl ManagedPane.feedOutput .new).hasMouseTracking =
        ((outputModes P limit deltas.flatten).mouseTracking != 0) := by
  have hnew : Agrees P limit .new [] :=
    ⟨rfl, rfl, rfl, iff_of_false Bool.false_ne_true (not_not_intro rfl)⟩
  have hagrees := foldl_feedOutput_agrees hnew hwhole halike
  rw [List.nil_append] at hagrees
  refine ⟨hagrees.paste, ?_⟩
  rw [Bool.eq_iff_iff, ManagedPane.hasMouseTracking, hagrees.scanned, bne_iff_ne]
  exact hagrees.mouse

end Deltas

section Samples

variable {P : Type u} [VteParser P]
variable {limit : Nat}

/-- A delta is checked byte by byte. -/
theorem AlikeDelta.of_get {before delta : Bytes}
    (h : ∀ (i : Nat) (hi : i < delta.length),
      AlikeByte P limit before (delta.take i) (delta.get ⟨i, hi⟩)) :
    AlikeDelta P limit before delta := by
  rintro read b rest rfl
  have hi : read.length < (read ++ b :: rest).length := by
    rw [List.length_append, List.length_cons]
    omega
  have hbyte := h read.length hi
  rw [List.take_left, List.get_eq_getElem, List.getElem_append_right (Nat.le_refl _)] at hbyte
  simpa using hbyte

/-- Both take a byte alike that sets nothing and resets nothing, or that sets
modes as they should be set. -/
theorem AlikeByte.of_change {before read : Bytes} {b : UInt8} {change : Option (Bool × List Nat)}
    (hchange : changeAt (before ++ read) b = change)
    (hpaste : ∀ c ∈ change, 2004 ∈ c.2 → pasteLiteral c.1 <:+ read ++ [b])
    (hmouse : ∀ c ∈ change, c.2.any MouseModes.isMode →
      PlainSpelling (before ++ read) ∧ c.1 = true ∧ c.2.any isTracking)
    (hreset : (MouseTrackingTracker.default.scan (before ++ read)).resets b = false) :
    AlikeByte P limit before read b where
  paste enabled values h hmem :=
    Or.inl (hpaste (enabled, values) (hchange.symm.trans h) hmem)
  mouse enabled values h hany := by
    obtain ⟨hspelled, henabled, htracking⟩ :=
      hmouse (enabled, values) (hchange.symm.trans h) hany
    refine Or.inl ⟨hspelled, ?_⟩
    rw [Settles, if_pos henabled]
    exact Or.inl htracking
  reset h := by
    rw [hreset] at h
    cases h

/-- The modes of a full-screen program agree over two deltas, which cut the
first of its sequences. -/
theorem modes_agree_fullScreen :
    ([bytesOf "\x1b[?10", bytesOf "00h\x1b[?2004h"].foldl ManagedPane.feedOutput
          .new).bracketedPasteMode =
        (outputModes StandardParser 0 (bytesOf "\x1b[?1000h\x1b[?2004h")).bracketedPaste ∧
      ([bytesOf "\x1b[?10", bytesOf "00h\x1b[?2004h"].foldl ManagedPane.feedOutput
          .new).hasMouseTracking =
        ((outputModes StandardParser 0
          (bytesOf "\x1b[?1000h\x1b[?2004h")).mouseTracking != 0) := by
  have hwhole : CharsWhole (bytesOf "\x1b[?1000h\x1b[?2004h") :=
    CharsWhole.of_ascii (by decide +kernel)
  have hfirst : AlikeDelta StandardParser 0 [] (bytesOf "\x1b[?10") := by
    refine AlikeDelta.of_get fun i hi => ?_
    have hquiet : ∀ i (hi : i < (bytesOf "\x1b[?10").length),
        changeAt ([] ++ (bytesOf "\x1b[?10").take i) ((bytesOf "\x1b[?10").get ⟨i, hi⟩) = none ∧
          (MouseTrackingTracker.default.scan ([] ++ (bytesOf "\x1b[?10").take i)).resets
            ((bytesOf "\x1b[?10").get ⟨i, hi⟩) = false := by
      decide +kernel
    exact AlikeByte.of_change (hquiet i hi).1 (by simp) (by simp) (hquiet i hi).2
  have hsecond : AlikeDelta StandardParser 0 (bytesOf "\x1b[?10")
      (bytesOf "00h\x1b[?2004h") := by
    refine AlikeDelta.of_get fun i hi => ?_
    have hreset : ∀ i (hi : i < (bytesOf "00h\x1b[?2004h").length),
        (MouseTrackingTracker.default.scan
            (bytesOf "\x1b[?10" ++ (bytesOf "00h\x1b[?2004h").take i)).resets
          ((bytesOf "00h\x1b[?2004h").get ⟨i, hi⟩) = false := by
      decide +kernel
    have hpaste : ∀ i (hi : i < (bytesOf "00h\x1b[?2004h").length),
        ∀ c ∈ changeAt (bytesOf "\x1b[?10" ++ (bytesOf "00h\x1b[?2004h").take i)
            ((bytesOf "00h\x1b[?2004h").get ⟨i, hi⟩),
          2004 ∈ c.2 → pasteLiteral c.1 <:+ (bytesOf "00h\x1b[?2004h").take i ++
            [(bytesOf "00h\x1b[?2004h").get ⟨i, hi⟩] := by
      decide +kernel
    have hmouse : ∀ i (hi : i < (bytesOf "00h\x1b[?2004h").length),
        ∀ c ∈ changeAt (bytesOf "\x1b[?10" ++ (bytesOf "00h\x1b[?2004h").take i)
            ((bytesOf "00h\x1b[?2004h").get ⟨i, hi⟩),
          c.2.any MouseModes.isMode → i = 2 ∧ c.1 = true ∧ c.2.any isTracking := by
      decide +kernel
    refine AlikeByte.of_change rfl (hpaste i hi) ?_ (hreset i hi)
    intro c hc hany
    obtain ⟨rfl, hset⟩ := hmouse i hi c hc hany
    exact ⟨⟨[], [0x3f, 0x31, 0x30, 0x30, 0x30], by decide +kernel, by simp [PlainInside, esc]⟩,
      hset⟩
  exact modes_agree (P := StandardParser) hwhole ⟨hfirst, hsecond, trivial⟩

/-- A paste mode that two deltas cut is missed, and the daemon tracks the mouse
beyond a full reset. -/
theorem modes_disagree :
    ¬ ∀ deltas : List Bytes,
      (deltas.foldl ManagedPane.feedOutput .new).bracketedPasteMode =
          (outputModes SampleParser 0 deltas.flatten).bracketedPaste ∧
        (deltas.foldl ManagedPane.feedOutput .new).hasMouseTracking =
          ((outputModes SampleParser 0 deltas.flatten).mouseTracking != 0) := by
  intro h
  have hcut := (h [bytesOf "\x1b[?20", bytesOf "04h"]).1
  have hreset := (h [bytesOf "\x1b[?1000h\x1bc"]).2
  exact absurd (And.intro hcut hreset) (by decide +kernel)

end Samples

end Client
end Rttx
