import Rttx.Client.PaneFeed
import Rttx.Kernel.ControlParameters
import Rttx.Kernel.Windows

/-!
# The mode trackers of a pane's view

The view learns of two modes from the output it is fed.  For bracketed paste it
looks for two literal sequences in each chunk; for mouse tracking it scans the
stream with a small state machine of its own.

**Results.**
* `Follows.step`: the scanner is in a private sequence only when the stream is.
* `InSync.run`: it is in every private sequence that is plainly spelled.
* `updateBracketedPasteMode_snoc`: the last literal of a chunk decides.
-/

namespace Rttx
namespace Client

open Kernel Server

section MouseTracking

/-- The armed mouse tracking modes 9, 1000, 1002 and 1003. -/
structure MouseModes where
  x10 : Bool
  normal : Bool
  button : Bool
  any : Bool
deriving DecidableEq, Repr

namespace MouseModes

def none : MouseModes :=
  ⟨false, false, false, false⟩

/-- Arm or disarm the mode of this number. -/
def set (armed : Bool) (m : MouseModes) (mode : Nat) : MouseModes :=
  match mode with
  | 9 => { m with x10 := armed }
  | 1000 => { m with normal := armed }
  | 1002 => { m with button := armed }
  | 1003 => { m with any := armed }
  | _ => m

/-- Whether the mode of this number is armed. -/
def armed (m : MouseModes) (mode : Nat) : Bool :=
  match mode with
  | 9 => m.x10
  | 1000 => m.normal
  | 1002 => m.button
  | 1003 => m.any
  | _ => false

def isActive (m : MouseModes) : Bool :=
  m.x10 || m.normal || m.button || m.any

def setAll (m : MouseModes) (enabled : Bool) (modes : List Nat) : MouseModes :=
  modes.foldl (set enabled) m

/-- Whether a number is one of the modes. -/
def isMode (mode : Nat) : Bool :=
  mode == 9 || mode == 1000 || mode == 1002 || mode == 1003

theorem isMode_iff {mode : Nat} :
    isMode mode = true ↔ mode = 9 ∨ mode = 1000 ∨ mode = 1002 ∨ mode = 1003 := by
  simp [isMode, or_assoc]

theorem set_of_not_isMode {mode : Nat}
    (h : isMode mode = false)
    (enabled : Bool)
    (m : MouseModes) :
    m.set enabled mode = m := by
  unfold set
  split <;> first | rfl | cases h

theorem armed_set {mode mode' : Nat}
    (h : isMode mode = true)
    (enabled : Bool)
    (m : MouseModes) :
    (m.set enabled mode').armed mode = if mode = mode' then enabled else m.armed mode := by
  by_cases hother : isMode mode' = true
  · rcases isMode_iff.mp h with rfl | rfl | rfl | rfl <;>
      rcases isMode_iff.mp hother with rfl | rfl | rfl | rfl <;> rfl
  · rw [set_of_not_isMode (Bool.eq_false_iff.mpr hother)]
    split
    · rename_i heq
      exact absurd (heq ▸ h) hother
    · rfl

/-- Which modes are armed after a setting. -/
theorem armed_setAll {mode : Nat}
    (h : isMode mode = true)
    (m : MouseModes)
    (enabled : Bool)
    (modes : List Nat) :
    (m.setAll enabled modes).armed mode = if mode ∈ modes then enabled else m.armed mode := by
  induction modes generalizing m with
  | nil => rfl
  | cons mode' rest ih =>
      have hcons : m.setAll enabled (mode' :: rest) = (m.set enabled mode').setAll enabled rest :=
        rfl
      rw [hcons, ih, armed_set h]
      by_cases hhead : mode = mode' <;> by_cases hrest : mode ∈ rest <;> simp [hhead, hrest]

theorem isActive_iff {m : MouseModes} :
    m.isActive = true ↔ ∃ mode, isMode mode = true ∧ m.armed mode = true := by
  constructor
  · intro h
    simp only [isActive, Bool.or_eq_true] at h
    rcases h with ((h | h) | h) | h
    · exact ⟨9, rfl, h⟩
    · exact ⟨1000, rfl, h⟩
    · exact ⟨1002, rfl, h⟩
    · exact ⟨1003, rfl, h⟩
  · rintro ⟨mode, hmode, harmed⟩
    rcases isMode_iff.mp hmode with rfl | rfl | rfl | rfl <;>
      simp only [armed] at harmed <;> simp [isActive, harmed]

end MouseModes

inductive MouseScanState
  | ground
  | escape
  | csiEntry
  | csiPrivate
  | csiBang
  | csiIgnore
deriving DecidableEq, Repr

def mouseScanMaxParams : Nat := 32

def u32Max : Nat := 4294967295

/-- Tracks whether mouse tracking is armed by scanning the output. -/
structure MouseTrackingTracker where
  modes : MouseModes
  state : MouseScanState
  params : List Nat
  current : Option Nat
deriving DecidableEq, Repr

namespace MouseTrackingTracker

def default : MouseTrackingTracker :=
  ⟨.none, .ground, [], none⟩

def isActive (t : MouseTrackingTracker) : Bool :=
  t.modes.isActive

def pushParam (t : MouseTrackingTracker) : MouseTrackingTracker :=
  { t with
    params :=
      if t.params.length < mouseScanMaxParams then t.params ++ [t.current.getD 0] else t.params
    current := none }

/-- Add a digit; numbers stop at the greatest of 32 bits. -/
def pushDigit (t : MouseTrackingTracker) (digit : Nat) : MouseTrackingTracker :=
  { t with current := some (min (min (t.current.getD 0 * 10) u32Max + digit) u32Max) }

def isFinal (byte : UInt8) : Bool :=
  0x40 ≤ byte && byte ≤ 0x7e

def step (t : MouseTrackingTracker) (byte : UInt8) : MouseTrackingTracker :=
  if byte = 0x18 ∨ byte = 0x1a then
    { t with state := .ground }
  else if byte = 0x1b then
    { t with state := .escape }
  else
    match t.state with
    | .ground => t
    | .escape =>
        if byte = 0x5b then
          { t with params := [], current := none, state := .csiEntry }
        else if byte = 0x63 then
          { t with modes := .none, state := .ground }
        else
          { t with state := .ground }
    | .csiEntry =>
        if byte = 0x3f then { t with state := .csiPrivate }
        else if byte = 0x21 then { t with state := .csiBang }
        else if isFinal byte then { t with state := .ground }
        else if byte ≤ 0x1f then t
        else { t with state := .csiIgnore }
    | .csiPrivate =>
        if 0x30 ≤ byte ∧ byte ≤ 0x39 then
          t.pushDigit (byte.toNat - 0x30)
        else if byte = 0x3b then
          t.pushParam
        else if byte = 0x68 ∨ byte = 0x6c then
          let t := t.pushParam
          { t with modes := t.modes.setAll (byte == 0x68) t.params, state := .ground }
        else if isFinal byte then { t with state := .ground }
        else if byte ≤ 0x1f then t
        else { t with state := .csiIgnore }
    | .csiBang =>
        { t with
          modes := if byte = 0x70 then .none else t.modes
          state := if isFinal byte then .ground else .csiIgnore }
    | .csiIgnore =>
        if isFinal byte then { t with state := .ground } else t

/-- Scan output bytes and update the armed modes. -/
def scan (t : MouseTrackingTracker) (data : Bytes) : MouseTrackingTracker :=
  data.foldl step t

/-- Whether a byte ends a full or a soft reset of the terminal. -/
def resets (t : MouseTrackingTracker) (byte : UInt8) : Bool :=
  (t.state == .escape && byte == 0x63) || (t.state == .csiBang && byte == 0x70)

theorem scan_append (t : MouseTrackingTracker) (first second : Bytes) :
    t.scan (first ++ second) = (t.scan first).scan second :=
  List.foldl_append

theorem scan_snoc (t : MouseTrackingTracker) (data : Bytes) (byte : UInt8) :
    t.scan (data ++ [byte]) = (t.scan data).step byte := by
  simp [scan]

end MouseTrackingTracker

end MouseTracking

section Numbers

/-- The number of a parameter as the scanner keeps it. -/
def scannedNumber (digits : Bytes) : Nat :=
  min (decimal digits) u32Max

/-- One more digit. -/
theorem scannedNumber_snoc (digits : Bytes) (b : UInt8) :
    scannedNumber (digits ++ [b]) =
      min (min (scannedNumber digits * 10) u32Max + (b.toNat - 0x30)) u32Max := by
  rw [scannedNumber, scannedNumber, decimal_snoc]
  omega

/-- The scanner has read these bytes of a private sequence. -/
structure ReadsParams (t : MouseTrackingTracker) (params : Bytes) : Prop where
  plain : ∀ b ∈ params, (0x30 ≤ b ∧ b ≤ 0x39) ∨ b = 0x3b
  numbers : ∃ front last, params.splitOn 0x3b = front ++ [last] ∧
    t.params = (front.map scannedNumber).take mouseScanMaxParams ∧
    t.current = if last = [] then none else some (scannedNumber last)

theorem ReadsParams.nil {t : MouseTrackingTracker}
    (hparams : t.params = [])
    (hcurrent : t.current = none) :
    ReadsParams t [] :=
  ⟨List.forall_mem_nil _, [], [], by simp, by simp [hparams], by simp [hcurrent]⟩

theorem ReadsParams.digit {t : MouseTrackingTracker} {params : Bytes} {b : UInt8}
    (h : ReadsParams t params)
    (hb : 0x30 ≤ b ∧ b ≤ 0x39) :
    ReadsParams (t.pushDigit (b.toNat - 0x30)) (params ++ [b]) := by
  obtain ⟨hplain, front, last, hsplit, hparams, hcurrent⟩ := h
  have hne : b ≠ 0x3b := by
    rintro rfl
    exact absurd hb.2 (by decide)
  refine ⟨?_, front, last ++ [b], splitOn_snoc_of_ne hne hsplit, hparams, ?_⟩
  · intro x hx
    rcases List.mem_append.mp hx with hx | hx
    · exact hplain x hx
    · rw [List.mem_singleton.mp hx]
      exact Or.inl hb
  · have hvalue : t.current.getD 0 = scannedNumber last := by
      rw [hcurrent]
      split
      · rename_i hempty
        rw [hempty]
        rfl
      · rfl
    simp [MouseTrackingTracker.pushDigit, hvalue, scannedNumber_snoc]

/-- The parameters after the one that is being read is pushed. -/
theorem ReadsParams.pushed {t : MouseTrackingTracker} {params : Bytes}
    (h : ReadsParams t params) :
    t.pushParam.params = ((params.splitOn 0x3b).map scannedNumber).take mouseScanMaxParams := by
  obtain ⟨_, front, last, hsplit, hparams, hcurrent⟩ := h
  have hvalue : t.current.getD 0 = scannedNumber last := by
    rw [hcurrent]
    split
    · rename_i hempty
      rw [hempty]
      rfl
    · rfl
  simp only [MouseTrackingTracker.pushParam, hvalue, hparams, hsplit]
  by_cases hroom : front.length < mouseScanMaxParams
  · have hall : (front.map scannedNumber).take mouseScanMaxParams = front.map scannedNumber :=
      List.take_of_length_le (by rw [List.length_map]; omega)
    rw [hall, List.length_map, if_pos hroom, List.take_of_length_le]
    · simp
    · simp only [List.length_map, List.length_append, List.length_singleton]
      omega
  · have hfull : ¬ ((front.map scannedNumber).take mouseScanMaxParams).length <
        mouseScanMaxParams := by
      rw [List.length_take, List.length_map]
      omega
    rw [if_neg hfull, List.map_append, List.take_append_of_le_length]
    rw [List.length_map]
    omega

theorem ReadsParams.semicolon {t : MouseTrackingTracker} {params : Bytes}
    (h : ReadsParams t params) :
    ReadsParams t.pushParam (params ++ [0x3b]) := by
  refine ⟨?_, params.splitOn 0x3b, [], splitOn_snoc_self _ _, h.pushed, rfl⟩
  intro x hx
  rcases List.mem_append.mp hx with hx | hx
  · exact h.plain x hx
  · exact Or.inr (List.mem_singleton.mp hx)

end Numbers

section Scanners

theorem byteClass_of_control {b : UInt8}
    (hcancel : ¬ (b = 0x18 ∨ b = 0x1a))
    (hesc : b ≠ 0x1b)
    (h : b ≤ 0x1f) :
    byteClass b = .ignorable := by
  have hlow : b < 0x20 := by
    simp only [UInt8.le_iff_toNat_le, UInt8.lt_iff_toNat_lt, UInt8.reduceToNat] at h ⊢
    omega
  rw [byteClass, if_neg (show ¬ b = escapeByte from hesc), if_neg hcancel,
    if_pos (Or.inl hlow)]

/-- The bytes that neither begin, cancel nor end a sequence. -/
theorem byteClass_inner {b : UInt8}
    (hcancel : ¬ (b = 0x18 ∨ b = 0x1a))
    (hesc : b ≠ 0x1b)
    (hfinal : MouseTrackingTracker.isFinal b = false) :
    byteClass b = .ignorable ∨ byteClass b = .intermediate ∨ byteClass b = .parameter := by
  cases hclass : byteClass b with
  | escape => exact absurd (byteClass_escape_iff.mp hclass) hesc
  | cancel =>
      rw [byteClass, if_neg (show ¬ b = escapeByte from hesc), if_neg hcancel] at hclass
      split_ifs at hclass
  | final =>
      have hbyte : MouseTrackingTracker.isFinal b = true := byteClass_final_iff.mp hclass
      rw [hfinal] at hbyte
      cases hbyte
  | ignorable => exact Or.inl rfl
  | intermediate => exact Or.inr (Or.inl rfl)
  | parameter => exact Or.inr (Or.inr rfl)

/-- The scanner of the stream is in a sequence. -/
def Inside (s : ScanState) : Prop :=
  (∃ params intermediates, s = .collecting params intermediates) ∨ s = .malformed

theorem Inside.step {s : ScanState} {b : UInt8}
    (h : Inside s)
    (hclass : byteClass b = .ignorable ∨ byteClass b = .intermediate ∨
      byteClass b = .parameter) :
    Inside (s.step b).1 := by
  rcases h with ⟨params, intermediates, rfl⟩ | rfl
  · rcases hclass with hclass | hclass | hclass
    · exact Or.inl ⟨params, intermediates, by simp [ScanState.step, hclass]⟩
    · exact Or.inl ⟨params, intermediates ++ [b], by simp [ScanState.step, hclass]⟩
    · simp only [ScanState.step, hclass]
      split
      · exact Or.inl ⟨_, _, rfl⟩
      · exact Or.inr rfl
  · rcases hclass with hclass | hclass | hclass <;> exact Or.inr (by simp [ScanState.step, hclass])

/-- Where the stream is when the tracker's scanner is in a state. -/
def Follows (t : MouseTrackingTracker) (s : ScanState) : Prop :=
  match t.state with
  | .ground => True
  | .escape => s = .escape
  | .csiEntry => s = .collecting [] [] ∧ t.params = [] ∧ t.current = none
  | .csiPrivate => ∃ params, s = .collecting (0x3f :: params) [] ∧ ReadsParams t params
  | .csiBang => s = .collecting [] [0x21]
  | .csiIgnore => Inside s

theorem isMarker_of_plain {b : UInt8}
    (h : (0x30 ≤ b ∧ b ≤ 0x39) ∨ b = 0x3b) :
    byteClass b = .parameter ∧ isMarker b = false := by
  rcases h with ⟨hlow, hhigh⟩ | rfl
  · constructor
    · rw [byteClass_parameter_iff]
      simp only [Bool.and_eq_true, decide_eq_true_eq, UInt8.le_iff_toNat_le,
        UInt8.reduceToNat] at hlow hhigh ⊢
      omega
    · simp only [isMarker, decide_eq_false_iff_not, UInt8.le_iff_toNat_le,
        UInt8.reduceToNat] at hlow hhigh ⊢
      omega
  · decide

/-- **The tracker's scanner follows the stream**, or it is lost. -/
theorem Follows.step {t : MouseTrackingTracker} {s : ScanState}
    (h : Follows t s)
    (b : UInt8) :
    Follows (t.step b) (s.step b).1 := by
  by_cases hcancel : b = 0x18 ∨ b = 0x1a
  · rw [MouseTrackingTracker.step, if_pos hcancel]
    trivial
  by_cases hesc : b = 0x1b
  · rw [MouseTrackingTracker.step, if_neg hcancel, if_pos hesc, hesc]
    exact congrArg Prod.fst (ScanState.step_escape s)
  rw [MouseTrackingTracker.step, if_neg hcancel, if_neg hesc]
  unfold Follows at h
  cases hstate : t.state with
  | ground =>
      simp only
      unfold Follows
      rw [hstate]
      trivial
  | escape =>
      rw [hstate] at h
      simp only at h ⊢
      by_cases hopen : b = 0x5b
      · subst hopen
        rw [if_pos rfl, h]
        exact ⟨rfl, rfl, rfl⟩
      · rw [if_neg hopen]
        split <;> trivial
  | csiEntry =>
      rw [hstate] at h
      obtain ⟨rfl, hparams, hcurrent⟩ := h
      simp only
      by_cases hprivate : b = 0x3f
      · subst hprivate
        rw [if_pos rfl]
        exact ⟨[], rfl, ReadsParams.nil hparams hcurrent⟩
      rw [if_neg hprivate]
      by_cases hbang : b = 0x21
      · subst hbang
        rw [if_pos rfl]
        rfl
      rw [if_neg hbang]
      by_cases hfinal : MouseTrackingTracker.isFinal b = true
      · rw [if_pos hfinal]
        trivial
      rw [if_neg hfinal]
      by_cases hcontrol : b ≤ 0x1f
      · rw [if_pos hcontrol]
        unfold Follows
        rw [hstate]
        refine ⟨?_, hparams, hcurrent⟩
        simp [ScanState.step, byteClass_of_control hcancel hesc hcontrol]
      · rw [if_neg hcontrol]
        exact Inside.step (Or.inl ⟨[], [], rfl⟩)
          (byteClass_inner hcancel hesc (Bool.eq_false_iff.mpr hfinal))
  | csiPrivate =>
      rw [hstate] at h
      obtain ⟨params, rfl, hreads⟩ := h
      simp only
      have hnext : ((0x30 ≤ b ∧ b ≤ 0x39) ∨ b = 0x3b) →
          ((ScanState.collecting (0x3f :: params) []).step b).1 =
            .collecting (0x3f :: (params ++ [b])) [] := by
        intro hplain
        obtain ⟨hclass, hmarker⟩ := isMarker_of_plain hplain
        simp [ScanState.step, hclass, hmarker]
      by_cases hdigit : 0x30 ≤ b ∧ b ≤ 0x39
      · rw [if_pos hdigit, hnext (Or.inl hdigit)]
        unfold Follows
        rw [show (t.pushDigit (b.toNat - 0x30)).state = t.state from rfl, hstate]
        exact ⟨params ++ [b], rfl, hreads.digit hdigit⟩
      rw [if_neg hdigit]
      by_cases hsemicolon : b = 0x3b
      · rw [if_pos hsemicolon, hnext (Or.inr hsemicolon)]
        unfold Follows
        rw [show t.pushParam.state = t.state from rfl, hstate, hsemicolon]
        exact ⟨params ++ [0x3b], rfl, hreads.semicolon⟩
      rw [if_neg hsemicolon]
      by_cases hset : b = 0x68 ∨ b = 0x6c
      · rw [if_pos hset]
        trivial
      rw [if_neg hset]
      by_cases hfinal : MouseTrackingTracker.isFinal b = true
      · rw [if_pos hfinal]
        trivial
      rw [if_neg hfinal]
      by_cases hcontrol : b ≤ 0x1f
      · rw [if_pos hcontrol]
        unfold Follows
        rw [hstate]
        refine ⟨params, ?_, hreads⟩
        simp [ScanState.step, byteClass_of_control hcancel hesc hcontrol]
      · rw [if_neg hcontrol]
        exact Inside.step (Or.inl ⟨_, _, rfl⟩)
          (byteClass_inner hcancel hesc (Bool.eq_false_iff.mpr hfinal))
  | csiBang =>
      rw [hstate] at h
      simp only at h ⊢
      by_cases hfinal : MouseTrackingTracker.isFinal b = true
      · rw [if_pos hfinal]
        trivial
      · rw [if_neg hfinal, h]
        exact Inside.step (Or.inl ⟨_, _, rfl⟩)
          (byteClass_inner hcancel hesc (Bool.eq_false_iff.mpr hfinal))
  | csiIgnore =>
      rw [hstate] at h
      simp only at h ⊢
      by_cases hfinal : MouseTrackingTracker.isFinal b = true
      · rw [if_pos hfinal]
        trivial
      · rw [if_neg hfinal]
        unfold Follows
        rw [hstate]
        exact Inside.step h (byteClass_inner hcancel hesc (Bool.eq_false_iff.mpr hfinal))

theorem Follows.run {t : MouseTrackingTracker} {s : ScanState}
    (h : Follows t s)
    (data : Bytes) :
    Follows (t.scan data) (s.run data) := by
  induction data generalizing t s with
  | nil => exact h
  | cons b rest ih => exact ih (h.step b)

end Scanners

section Spelling

/-- The tracker's scanner is in the sequence that the stream is in. -/
structure InSync (t : MouseTrackingTracker) (s : ScanState) : Prop where
  entry : s = .collecting [] [] → t.state = .csiEntry
  inPrivate : ∀ params, s = .collecting (0x3f :: params) [] → t.state = .csiPrivate
  opened : s ≠ .escape

/-- A byte that both scanners read alike inside a sequence. -/
def PlainInside (b : UInt8) : Prop :=
  b ≠ esc ∧ b < 0x7f ∧ b ≠ 0x3a

/-- Outside of the sequences that count, anything is in sync. -/
theorem InSync.of_other {t : MouseTrackingTracker} {s : ScanState}
    (h : ∀ params, s = .collecting params [] → ∃ b rest, params = b :: rest ∧ b ≠ 0x3f)
    (hopened : s ≠ .escape) :
    InSync t s := by
  refine ⟨?_, ?_, hopened⟩
  · intro heq
    obtain ⟨b, rest, hnil, _⟩ := h [] heq
    cases hnil
  · intro params heq
    obtain ⟨b, rest, hcons, hne⟩ := h _ heq
    cases hcons
    exact absurd rfl hne

theorem step_control {t : MouseTrackingTracker} {b : UInt8}
    (hstate : t.state = .csiEntry ∨ t.state = .csiPrivate)
    (hcancel : ¬ (b = 0x18 ∨ b = 0x1a))
    (hesc : b ≠ 0x1b)
    (h : b ≤ 0x1f) :
    t.step b = t := by
  have hnat : b.toNat ≤ 31 := by simpa [UInt8.le_iff_toNat_le] using h
  have hne : ∀ c : UInt8, 31 < c.toNat → b ≠ c := by
    rintro c hc rfl
    omega
  have hfinal : MouseTrackingTracker.isFinal b = false := by
    simp only [MouseTrackingTracker.isFinal, Bool.and_eq_false_iff, decide_eq_false_iff_not,
      UInt8.le_iff_toNat_le, UInt8.reduceToNat]
    omega
  have hdigit : ¬ (0x30 ≤ b ∧ b ≤ 0x39) := by
    simp only [UInt8.le_iff_toNat_le, UInt8.reduceToNat]
    omega
  rw [MouseTrackingTracker.step, if_neg hcancel, if_neg hesc]
  rcases hstate with hstate | hstate
  · simp [hstate, hne 0x3f (by decide), hne 0x21 (by decide), hfinal, h]
  · simp only [hstate, hdigit, hne 0x3b (by decide), hne 0x68 (by decide),
      hne 0x6c (by decide), hfinal, h, if_false, if_true, or_self, Bool.false_eq_true]

theorem InSync.step {t : MouseTrackingTracker} {s : ScanState} {b : UInt8}
    (h : InSync t s)
    (hb : PlainInside b) :
    InSync (t.step b) (s.step b).1 := by
  obtain ⟨hesc, hascii, hcolon⟩ := hb
  have hesc' : ¬ b = 0x1b := hesc
  cases hclass : byteClass b with
  | escape => exact absurd (byteClass_escape_iff.mp hclass) hesc
  | cancel =>
      refine InSync.of_other ?_ ?_ <;> simp [ScanState.step, hclass]
  | final =>
      refine InSync.of_other ?_ ?_
      · intro params heq
        cases s with
        | escape => exact absurd rfl h.opened
        | _ => simp [ScanState.step, hclass] at heq
      · cases s with
        | escape => exact absurd rfl h.opened
        | _ => simp [ScanState.step, hclass]
  | intermediate =>
      refine InSync.of_other ?_ ?_
      · intro params heq
        cases s <;> simp [ScanState.step, hclass] at heq
      · cases s <;> simp [ScanState.step, hclass]
  | ignorable =>
      -- A control byte is passed over on both sides.
      have hcancel : ¬ (b = 0x18 ∨ b = 0x1a) := by
        rintro (rfl | rfl) <;> exact absurd hclass (by decide)
      have hcontrol : b ≤ 0x1f := by
        by_contra hhigh
        rw [byteClass, if_neg (show ¬ b = escapeByte from hesc), if_neg hcancel] at hclass
        split_ifs at hclass with hlow
        simp only [UInt8.le_iff_toNat_le, UInt8.lt_iff_toNat_lt, UInt8.reduceToNat] at *
        omega
      have hsame : (s.step b).1 = s := by simp [ScanState.step, hclass]
      rw [hsame]
      refine ⟨?_, ?_, h.opened⟩
      · intro heq
        rw [step_control (Or.inl (h.entry heq)) hcancel hesc hcontrol]
        exact h.entry heq
      · intro params heq
        rw [step_control (Or.inr (h.inPrivate params heq)) hcancel hesc hcontrol]
        exact h.inPrivate params heq
  | parameter =>
      have hrange := byteClass_parameter_iff.mp hclass
      have hcancel : ¬ (b = 0x18 ∨ b = 0x1a) := by
        rintro (rfl | rfl) <;> exact absurd hclass (by decide)
      cases s with
      | outside =>
          refine InSync.of_other ?_ ?_ <;> simp [ScanState.step, hclass]
      | escape => exact absurd rfl h.opened
      | malformed =>
          refine InSync.of_other ?_ ?_ <;> simp [ScanState.step, hclass]
      | collecting params intermediates =>
          by_cases hallowed : intermediates = [] ∧ (params = [] ∨ isMarker b = false)
          · obtain ⟨rfl, hmarker⟩ := hallowed
            have hstep : ((ScanState.collecting params []).step b).1 =
                .collecting (params ++ [b]) [] := by
              simp [ScanState.step, hclass, hmarker]
            rw [hstep]
            cases params with
            | nil =>
                by_cases hprivate : b = 0x3f
                · subst hprivate
                  refine ⟨by simp, ?_, by simp⟩
                  intro params _
                  rw [MouseTrackingTracker.step, if_neg hcancel, if_neg hesc', h.entry rfl]
                  simp
                · exact InSync.of_other
                    (fun params heq => ⟨b, [], by cases heq; rfl, hprivate⟩) (by simp)
            | cons first rest =>
                by_cases hprivate : first = 0x3f
                · subst hprivate
                  refine ⟨by simp, ?_, by simp⟩
                  intro params _
                  have hplain : (0x30 ≤ b ∧ b ≤ 0x39) ∨ b = 0x3b := by
                    have hlow : isMarker b = false := by simpa using hmarker
                    simp only [isMarker, decide_eq_false_iff_not, Bool.and_eq_true,
                      decide_eq_true_eq, UInt8.le_iff_toNat_le, ← UInt8.toNat_inj, ne_eq,
                      UInt8.reduceToNat] at hlow hrange hcolon ⊢
                    omega
                  have hstate := h.inPrivate rest rfl
                  rw [MouseTrackingTracker.step, if_neg hcancel, if_neg hesc', hstate]
                  rcases hplain with hdigit | rfl
                  · simp only [hdigit, and_self, if_true]
                    exact hstate
                  · exact hstate
                · exact InSync.of_other
                    (fun params heq => ⟨first, rest ++ [b], by cases heq; rfl, hprivate⟩)
                    (by simp)
          · have hstep : ((ScanState.collecting params intermediates).step b).1 = .malformed := by
              simp only [ScanState.step, hclass]
              rw [if_neg hallowed]
            rw [hstep]
            exact InSync.of_other (by simp) (by simp)

/-- **The tracker follows a sequence of plain bytes.** -/
theorem InSync.run {t : MouseTrackingTracker} {s : ScanState} {body : Bytes}
    (h : InSync t s)
    (hbody : ∀ b ∈ body, PlainInside b) :
    InSync (t.scan body) (s.run body) := by
  induction body generalizing t s with
  | nil => exact h
  | cons b rest ih =>
      exact ih (h.step (hbody b List.mem_cons_self))
        (fun x hx => hbody x (List.mem_cons_of_mem _ hx))

/-- The stream ends within a control sequence of plain bytes. -/
def PlainSpelling (data : Bytes) : Prop :=
  ∃ front body, data = front ++ esc :: 0x5b :: body ∧ ∀ b ∈ body, PlainInside b

theorem PlainSpelling.inSync {data : Bytes}
    (h : PlainSpelling data)
    (t : MouseTrackingTracker)
    (s : ScanState) :
    InSync (t.scan data) (s.run data) := by
  obtain ⟨front, body, rfl, hbody⟩ := h
  rw [MouseTrackingTracker.scan_append, ScanState.run_append]
  have hopen : ∀ (t : MouseTrackingTracker) (s : ScanState),
      InSync ((t.step esc).step 0x5b) ((s.step esc).1.step 0x5b).1 := by
    intro t s
    refine ⟨fun _ => rfl, ?_, ?_⟩
    · intro params heq
      cases heq
    · intro heq
      cases heq
  exact (hopen _ _).run hbody

end Spelling

section BracketedPaste

def bracketedPasteEnable : Bytes := bytesOf "\x1b[?2004h"

def bracketedPasteDisable : Bytes := bytesOf "\x1b[?2004l"

/-- The literal that sets the mode. -/
def pasteLiteral (enabled : Bool) : Bytes :=
  if enabled then bracketedPasteEnable else bracketedPasteDisable

/-- Scan output for DECSET and DECRST 2004. -/
def updateBracketedPasteMode (mode : Bool) (data : Bytes) : Bool :=
  match lastWindow? bracketedPasteDisable data with
  | some pos =>
      let afterDisable := pos + bracketedPasteDisable.length
      if anyWindow bracketedPasteEnable (data.drop afterDisable) then true else false
  | none => if anyWindow bracketedPasteEnable data then true else mode

theorem bracketedPasteEnable_eq :
    bracketedPasteEnable = [0x1b, 0x5b, 0x3f, 0x32, 0x30, 0x30, 0x34, 0x68] := by
  decide +kernel

theorem bracketedPasteDisable_eq :
    bracketedPasteDisable = [0x1b, 0x5b, 0x3f, 0x32, 0x30, 0x30, 0x34, 0x6c] := by
  decide +kernel

/-- The two literals do not end the same bytes. -/
theorem not_disable_of_enable {data : Bytes}
    (h : bracketedPasteEnable <:+ data) :
    ¬ bracketedPasteDisable <:+ data := by
  intro h'
  rw [bracketedPasteEnable_eq] at h
  rw [bracketedPasteDisable_eq] at h'
  obtain ⟨front, rfl⟩ := h
  obtain ⟨front', heq⟩ := h'
  have hlast := (List.append_inj' heq rfl).2
  exact absurd hlast (by decide)

/-- **The last literal of a chunk decides.** -/
theorem updateBracketedPasteMode_snoc (mode : Bool) (data : Bytes) (b : UInt8) :
    updateBracketedPasteMode mode (data ++ [b]) =
      if bracketedPasteEnable <:+ data ++ [b] then true
      else if bracketedPasteDisable <:+ data ++ [b] then false
      else updateBracketedPasteMode mode data := by
  have hlenEnable : bracketedPasteEnable.length = 8 := by rw [bracketedPasteEnable_eq]; rfl
  have hlenDisable : bracketedPasteDisable.length = 8 := by rw [bracketedPasteDisable_eq]; rfl
  have hneEnable : bracketedPasteEnable ≠ [] := by rw [bracketedPasteEnable_eq]; simp
  have hneDisable : bracketedPasteDisable ≠ [] := by rw [bracketedPasteDisable_eq]; simp
  rw [updateBracketedPasteMode, lastWindow?_snoc hneDisable]
  by_cases hdisable : bracketedPasteDisable <:+ data ++ [b]
  · -- Nothing is left behind it.
    have hroom := hdisable.length_le
    rw [List.length_append, List.length_singleton, hlenDisable] at hroom
    have hnone : (data ++ [b]).drop (data.length + 1 - 8 + 8) = [] :=
      List.drop_eq_nil_of_le (by rw [List.length_append, List.length_singleton]; omega)
    have hnot : ¬ bracketedPasteEnable <:+ data ++ [b] :=
      fun h => not_disable_of_enable h hdisable
    rw [if_pos hdisable, if_neg hnot, if_pos hdisable]
    simp only [hlenDisable, hnone]
    simp [anyWindow, windowPositions, hlenEnable]
  · rw [if_neg hdisable, if_neg hdisable, updateBracketedPasteMode]
    cases hlast : lastWindow? bracketedPasteDisable data with
    | none =>
        simp only [anyWindow_snoc hneEnable]
        by_cases henable : bracketedPasteEnable <:+ data ++ [b] <;> simp [henable]
    | some pos =>
        obtain ⟨hpos, hwindow⟩ := lastWindow?_eq_some hlast
        rw [hlenDisable] at hpos
        have hdrop : (data ++ [b]).drop (pos + bracketedPasteDisable.length) =
            data.drop (pos + bracketedPasteDisable.length) ++ [b] :=
          List.drop_append_of_le_length (by omega)
        have hends :
            bracketedPasteEnable <:+ data.drop (pos + bracketedPasteDisable.length) ++ [b] ↔
            bracketedPasteEnable <:+ data ++ [b] := by
          rw [← hdrop]
          constructor
          · intro h
            exact h.trans (List.drop_suffix _ _)
          · intro h
            have hwindow' : ((data ++ [b]).drop pos).take bracketedPasteDisable.length =
                bracketedPasteDisable := by
              rw [List.drop_append_of_le_length (by omega),
                List.take_append_of_le_length (by rw [List.length_drop]; omega), hwindow]
            rw [bracketedPasteEnable_eq] at h ⊢
            refine suffix_drop_of_window hwindow' ?_ ?_ h
            · rw [bracketedPasteDisable_eq]
              decide
            · simp only [List.length_cons, List.length_nil, List.length_append]
              omega
        simp only [hdrop, anyWindow_snoc hneEnable, hends]
        by_cases henable : bracketedPasteEnable <:+ data ++ [b] <;> simp [henable]

end BracketedPaste

section Panes

def selectionHoldLimit : Nat := 4 * 1024 * 1024

/-- The view of a pane with the modes it tracks. -/
structure ManagedPane where
  terminal : PaneTerminal
  bracketedPasteMode : Bool
  mouseTracking : MouseTrackingTracker
deriving DecidableEq

namespace ManagedPane

/-- A new pane. -/
def new : ManagedPane where
  terminal :=
    { customTitle := none
      daemonTitle := none
      currentDirectory := none
      applicationCursorKeys := false
      applicationKeypad := false
      connected := false
      acceptsInput := false
      exited := false
      disconnectMessageFed := false
      crashed := false
      selectionHold := ⟨none, selectionHoldLimit⟩
      vteFed := [] }
  bracketedPasteMode := false
  mouseTracking := .default

/-- Feed the output of one delta. -/
def feedOutput (v : ManagedPane) (data : Bytes) : ManagedPane :=
  if v.terminal.crashed then
    v
  else
    { terminal := v.terminal.feedOutput data
      bracketedPasteMode := updateBracketedPasteMode v.bracketedPasteMode data
      mouseTracking := v.mouseTracking.scan data }

/-- Whether the application has mouse tracking armed. -/
def hasMouseTracking (v : ManagedPane) : Bool :=
  v.mouseTracking.isActive

end ManagedPane

end Panes

end Client
end Rttx
