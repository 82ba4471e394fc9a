import Rttx.Kernel.ControlParameters
import Rttx.Server.PaneScreen

/-!
# Mode changes in the output of a pane

The performer learns of mode changes from the calls of its parser.  A parser
that reports control sequences in full reports those that set and reset private
modes, so the modes are a fold over the sequences of the stream.

**Results.**
* `performAll_trackedModes`: the modes after a list of calls.
* `outputModes_eq`: the modes after a stream.
* `outputModes_snoc`: what the last byte of a stream does to them.
-/

namespace Rttx
namespace Server

open Kernel

universe u

section Tracking

/-- The modes of the performer that a client tracks as well. -/
structure TrackedModes where
  bracketedPaste : Bool
  mouseTracking : Nat
deriving DecidableEq, Repr

def ScreenPerformer.trackedModes (p : ScreenPerformer) : TrackedModes :=
  ⟨p.bracketedPasteMode, p.mouseTrackingMode⟩

/-- Whether a private mode is one of mouse tracking that the performer knows. -/
def isTracking (mode : Nat) : Bool :=
  mode == 1000 || mode == 1002 || mode == 1003

namespace TrackedModes

def off : TrackedModes :=
  ⟨false, 0⟩

/-- DECSET / DECRST of one mode. -/
def set (enabled : Bool) (t : TrackedModes) (mode : Nat) : TrackedModes :=
  if mode = 2004 then
    { t with bracketedPaste := enabled }
  else if isTracking mode then
    { t with mouseTracking := if enabled then mode else 0 }
  else
    t

def setAll (t : TrackedModes) (enabled : Bool) (modes : List Nat) : TrackedModes :=
  modes.foldl (set enabled) t

theorem set_bracketedPaste (enabled : Bool) (t : TrackedModes) (mode : Nat) :
    (t.set enabled mode).bracketedPaste =
      if mode = 2004 then enabled else t.bracketedPaste := by
  unfold set
  split
  · rfl
  · split <;> rfl

theorem set_mouseTracking_eq_zero (enabled : Bool) (t : TrackedModes) (mode : Nat) :
    (t.set enabled mode).mouseTracking = 0 ↔
      if isTracking mode then enabled = false else t.mouseTracking = 0 := by
  unfold set
  by_cases hpaste : mode = 2004
  · subst hpaste
    simp [isTracking]
  · rw [if_neg hpaste]
    by_cases htracking : isTracking mode = true
    · rw [if_pos htracking, if_pos htracking]
      cases enabled with
      | false => simp
      | true =>
          have hne : mode ≠ 0 := by
            rintro rfl
            cases htracking
          simpa using hne
    · rw [if_neg htracking, if_neg htracking]

/-- The paste mode after a setting. -/
theorem setAll_bracketedPaste (t : TrackedModes) (enabled : Bool) (modes : List Nat) :
    (t.setAll enabled modes).bracketedPaste =
      if 2004 ∈ modes then enabled else t.bracketedPaste := by
  induction modes generalizing t with
  | nil => rfl
  | cons mode rest ih =>
      have hcons : t.setAll enabled (mode :: rest) = (t.set enabled mode).setAll enabled rest :=
        rfl
      rw [hcons, ih, set_bracketedPaste]
      by_cases hmode : mode = 2004
      · simp [hmode]
      · have hne : ¬ 2004 = mode := fun h => hmode h.symm
        simp [hmode, hne]

/-- Whether mouse tracking is off after a setting. -/
theorem setAll_mouseTracking_eq_zero (t : TrackedModes) (enabled : Bool) (modes : List Nat) :
    (t.setAll enabled modes).mouseTracking = 0 ↔
      if modes.any isTracking then enabled = false else t.mouseTracking = 0 := by
  induction modes generalizing t with
  | nil => simp [setAll]
  | cons mode rest ih =>
      have hcons : t.setAll enabled (mode :: rest) = (t.set enabled mode).setAll enabled rest :=
        rfl
      rw [hcons, ih, set_mouseTracking_eq_zero]
      cases htracking : isTracking mode <;> cases hrest : rest.any isTracking <;>
        simp [htracking, hrest]

end TrackedModes

/-- DECSET or DECRST: whether it sets, and its parameters. -/
def modeCall? (params : List (List Nat)) (intermediates : Bytes) (action : Char) :
    Option (Bool × List Nat) :=
  if intermediates = bytesOf "?" ∧ (action = 'h' ∨ action = 'l') then
    some (action == 'h', params.filterMap ScreenPerformer.subparam)
  else
    none

theorem setPrivateMode_trackedModes (enabled : Bool) (p : ScreenPerformer)
    (param : List Nat) :
    (p.setPrivateMode enabled param).trackedModes =
      (ScreenPerformer.subparam param).elim p.trackedModes
        (fun mode => p.trackedModes.set enabled mode) := by
  cases hparam : ScreenPerformer.subparam param with
  | none =>
      unfold ScreenPerformer.setPrivateMode
      rw [hparam]
      rfl
  | some mode =>
      rw [Option.elim_some]
      by_cases hknown : mode ∈ [1000, 1002, 1003, 2004]
      · unfold ScreenPerformer.setPrivateMode
        rw [hparam]
        simp only [List.mem_cons, List.mem_nil_iff, or_false] at hknown
        rcases hknown with rfl | rfl | rfl | rfl <;> rfl
      · simp only [List.mem_cons, List.mem_nil_iff, or_false, not_or] at hknown
        obtain ⟨h1000, h1002, h1003, h2004⟩ := hknown
        have hset : p.trackedModes.set enabled mode = p.trackedModes := by
          simp [TrackedModes.set, isTracking, h1000, h1002, h1003, h2004]
        rw [hset]
        unfold ScreenPerformer.setPrivateMode
        rw [hparam]
        dsimp only
        -- The modes that are left change other fields.
        split <;> first | rfl | (rename_i heq; cases heq; contradiction)

theorem setPrivateModes_trackedModes (enabled : Bool) (p : ScreenPerformer)
    (params : List (List Nat)) :
    (params.foldl (ScreenPerformer.setPrivateMode enabled) p).trackedModes =
      p.trackedModes.setAll enabled (params.filterMap ScreenPerformer.subparam) := by
  induction params generalizing p with
  | nil => rfl
  | cons param rest ih =>
      rw [List.foldl_cons, ih, setPrivateMode_trackedModes]
      cases hparam : ScreenPerformer.subparam param with
      | none => rw [List.filterMap_cons_none hparam, Option.elim_none]
      | some mode =>
          rw [List.filterMap_cons_some hparam, Option.elim_some]
          rfl

end Tracking

section Calls

/-- What a parser reports of a control sequence. -/
structure CsiDispatch where
  params : List (List Nat)
  intermediates : Bytes
  action : Char
deriving DecidableEq

def csiDispatch? : VteCall → Option CsiDispatch
  | .csiDispatch params intermediates _ action => some ⟨params, intermediates, action⟩
  | _ => none

/-- The modes that a call sets or resets. -/
def CsiDispatch.modes? (d : CsiDispatch) : Option (Bool × List Nat) :=
  modeCall? d.params d.intermediates d.action

/-- Two performers that differ at most in the cursor and the replies. -/
def SameModes (p q : ScreenPerformer) : Prop :=
  { q with
    cursorRow := p.cursorRow
    cursorCol := p.cursorCol
    pendingReplies := p.pendingReplies } = p

theorem SameModes.trackedModes {p q : ScreenPerformer}
    (h : SameModes p q) :
    q.trackedModes = p.trackedModes := by
  rw [← h]
  rfl

theorem SameModes.ite {p q q' : ScreenPerformer} {c : Prop} [Decidable c]
    (h : SameModes p q)
    (h' : SameModes p q') :
    SameModes p (if c then q else q') := by
  split
  · exact h
  · exact h'

/-- The sequences other than DECSET and DECRST move the cursor or queue a
reply. -/
theorem csiDispatch_sameModes (p : ScreenPerformer) {params : List (List Nat)}
    {intermediates : Bytes} {action : Char}
    (h : ¬ (intermediates = bytesOf "?" ∧ (action = 'h' ∨ action = 'l'))) :
    SameModes p (p.csiDispatch params intermediates action) := by
  unfold ScreenPerformer.csiDispatch
  rw [if_neg h]
  have hreport : ∀ n : Nat, SameModes p (if n = 5 then
      p.pushReply (bytesOf "\x1b[0n")
    else if n = 6 then
      p.pushReply p.cursorReply
    else
      p) :=
    fun n => SameModes.ite rfl (SameModes.ite rfl rfl)
  exact SameModes.ite rfl (SameModes.ite rfl (SameModes.ite rfl (SameModes.ite rfl
    (SameModes.ite rfl (SameModes.ite rfl (SameModes.ite rfl (SameModes.ite (hreport _)
      (SameModes.ite rfl rfl))))))))

theorem csiDispatch_trackedModes (p : ScreenPerformer) (d : CsiDispatch) :
    (p.csiDispatch d.params d.intermediates d.action).trackedModes =
      d.modes?.elim p.trackedModes (fun call => p.trackedModes.setAll call.1 call.2) := by
  obtain ⟨params, intermediates, action⟩ := d
  rw [CsiDispatch.modes?, modeCall?]
  by_cases hmode : intermediates = bytesOf "?" ∧ (action = 'h' ∨ action = 'l')
  · rw [if_pos hmode, Option.elim_some, ← setPrivateModes_trackedModes]
    unfold ScreenPerformer.csiDispatch
    rw [if_pos hmode]
  · rw [if_neg hmode, Option.elim_none]
    exact (csiDispatch_sameModes p hmode).trackedModes

theorem perform_trackedModes (p : ScreenPerformer) (call : VteCall) :
    (p.perform call).trackedModes =
      ((csiDispatch? call).bind CsiDispatch.modes?).elim p.trackedModes
        (fun change => p.trackedModes.setAll change.1 change.2) := by
  cases call with
  | csiDispatch params intermediates ignore action =>
      exact csiDispatch_trackedModes p ⟨params, intermediates, action⟩
  | execute byte =>
      simp only [ScreenPerformer.perform, ScreenPerformer.execute]
      split_ifs <;> rfl
  | escDispatch intermediates ignore byte =>
      simp only [ScreenPerformer.perform, ScreenPerformer.escDispatch]
      split_ifs <;> rfl
  | _ => rfl

/-- The modes after settings. -/
def TrackedModes.after (t : TrackedModes) (changes : List (Bool × List Nat)) : TrackedModes :=
  changes.foldl (fun t change => t.setAll change.1 change.2) t

/-- The modes after a list of calls. -/
theorem performAll_trackedModes (p : ScreenPerformer) (calls : List VteCall) :
    (p.performAll calls).trackedModes =
      p.trackedModes.after ((calls.filterMap csiDispatch?).filterMap CsiDispatch.modes?) := by
  induction calls generalizing p with
  | nil => rfl
  | cons call rest ih =>
      have hcons : p.performAll (call :: rest) = (p.perform call).performAll rest := rfl
      rw [hcons, ih, perform_trackedModes]
      cases hcall : csiDispatch? call with
      | none => rw [List.filterMap_cons_none hcall]; rfl
      | some d =>
          rw [List.filterMap_cons_some hcall, Option.bind_some]
          cases hmodes : d.modes? with
          | none => rw [List.filterMap_cons_none hmodes]; rfl
          | some change => rw [List.filterMap_cons_some hmodes]; rfl

end Calls

section Streams

/-- No escape byte cuts a character. -/
def CharsWhole (data : Bytes) : Prop :=
  ∀ pre post, data = pre ++ esc :: post → incompleteUtf8TailLen pre = 0

theorem CharsWhole.front {front back : Bytes}
    (h : CharsWhole (front ++ back)) :
    CharsWhole front := by
  intro pre post hfront
  exact h pre (post ++ back) (by rw [hfront]; simp)

theorem CharsWhole.of_ascii {data : Bytes}
    (h : ∀ b ∈ data, b < 0x80) :
    CharsWhole data := by
  rintro pre post rfl
  exact incompleteUtf8TailLen_of_ascii fun b hb => h b (List.mem_append_left _ hb)

/-- What a parser reports of a control sequence: 32 numbers of at most 65535,
and two intermediate bytes, of which a private marker is the first. -/
def dispatched (c : ControlSequence) : CsiDispatch where
  params := (takeNumbers 32 c.groups).map fun group => group.map fun n => min n 65535
  intermediates := (c.marker ++ c.intermediates).take 2
  action := Char.ofNat c.final.toNat

/-- A parser that reports the control sequences of a stream in full, unless an
escape byte cuts a character. -/
class ParameterParser (P : Type u) [VteParser P] : Prop where
  csi_dispatches : ∀ data : Bytes, CharsWhole data →
    (callsOver (VteParser.new : P) data).filterMap csiDispatch? =
      (controlSequences data).map dispatched

/-- The modes that a control sequence sets or resets. -/
def modeChange? (c : ControlSequence) : Option (Bool × List Nat) :=
  (dispatched c).modes?

variable (P : Type u)
variable [VteParser P]

/-- The modes of the performer after the output `data` of a new pane. -/
def outputModes (limit : Nat) (data : Bytes) : TrackedModes :=
  (PaneScreen.advanceParser ((VteParser.new : P), ScreenPerformer.new limit) data).2.trackedModes

variable [ParameterParser P]

/-- The modes after a stream are those that its sequences leave. -/
theorem outputModes_eq (limit : Nat) {data : Bytes}
    (h : CharsWhole data) :
    outputModes P limit data =
      TrackedModes.off.after ((controlSequences data).filterMap modeChange?) := by
  rw [outputModes, advanceParser_performer, performAll_trackedModes,
    ParameterParser.csi_dispatches data h, List.filterMap_map]
  rfl

/-- What the last byte of a stream does to the modes. -/
theorem outputModes_snoc (limit : Nat) {data : Bytes} {b : UInt8}
    (h : CharsWhole (data ++ [b])) :
    outputModes P limit (data ++ [b]) =
      (((ScanState.outside.run data).step b).2.bind modeChange?).elim (outputModes P limit data)
        (fun change => (outputModes P limit data).setAll change.1 change.2) := by
  rw [outputModes_eq P limit h, outputModes_eq P limit h.front, controlSequences_snoc,
    List.filterMap_append, TrackedModes.after, List.foldl_append]
  cases hends : ((ScanState.outside.run data).step b).2 with
  | none => rfl
  | some c =>
      cases hchange : modeChange? c with
      | none => simp [hchange, TrackedModes.after]
      | some change => simp [hchange, TrackedModes.after]

end Streams

section StandardParser

/-- The parser that reports control sequences in full and nothing else. -/
structure StandardParser where
  scan : ScanState

def CsiDispatch.call (d : CsiDispatch) : VteCall :=
  .csiDispatch d.params d.intermediates false d.action

instance : VteParser StandardParser where
  new := ⟨.outside⟩
  advance s b :=
    (⟨(s.scan.step b).1⟩, (s.scan.step b).2.toList.map fun c => (dispatched c).call)

instance : ParameterParser StandardParser where
  csi_dispatches data _ := by
    have hcalls : ∀ (data : Bytes) (s : StandardParser),
        callsOver s data = (s.scan.scan data).map fun c => (dispatched c).call := by
      intro data
      induction data with
      | nil => intro s; rfl
      | cons b rest ih =>
          intro s
          rw [ScanState.scan, List.map_append, ← ih ⟨(s.scan.step b).1⟩]
          rfl
    have hread : (csiDispatch? ∘ fun c => (dispatched c).call) = some ∘ dispatched := rfl
    rw [hcalls data, List.filterMap_map, hread, ← List.filterMap_map, List.filterMap_some]
    rfl

end StandardParser

end Server
end Rttx
