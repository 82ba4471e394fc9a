import Rttx.Client.ModeTrackers
import Rttx.Kernel.DeferredFeed

/-!
# Output that is held during a selection drag

A drag that selects text holds the output of its pane, so that the selection stays.  The
output is fed when the drag ends, or when too much is held.  What the pane says of its
process and of its connection is fed at once, whatever is held.

**Results.**
* `inOrder_perform`: an event keeps the order, unless a text is fed over held output.
* `streamKept_iff`: over a run of events the stream is kept exactly if no text is fed
  over held output.
-/

namespace Rttx
namespace Client

open Kernel Server

section Gate

namespace SelectionHoldGate

def isHolding (gate : SelectionHoldGate) : Bool :=
  gate.held.isSome

/-- A press holds output unless it belongs to the application. -/
def press (gate : SelectionHoldGate) (mouseTracking shift : Bool) : Bool × SelectionHoldGate :=
  if mouseTracking && !shift then
    (gate.isHolding, gate)
  else
    (true, if gate.held.isNone then { gate with held := some [] } else gate)

/-- The drag ended. -/
def release (gate : SelectionHoldGate) : Option Bytes × SelectionHoldGate :=
  (gate.held, { gate with held := none })

/-- The output that is held. -/
def heldOutput (gate : SelectionHoldGate) : Bytes :=
  gate.held.getD []

@[simp] theorem heldOutput_press (gate : SelectionHoldGate) (mouseTracking shift : Bool) :
    (gate.press mouseTracking shift).2.heldOutput = gate.heldOutput := by
  obtain ⟨held, limit⟩ := gate
  rw [press]
  split
  · rfl
  · cases held <;> rfl

@[simp] theorem heldOutput_release (gate : SelectionHoldGate) :
    gate.release.2.heldOutput = [] :=
  rfl

end SelectionHoldGate

/-- Replace what is tracked by an authoritative value. -/
def MouseTrackingTracker.setTrackingValue (t : MouseTrackingTracker) (value : Nat) :
    MouseTrackingTracker :=
  { t with
    modes :=
      { x10 := value == 9
        normal := value == 1000
        button := value == 1002
        any := value == 1003 } }

end Gate

section Events

/-- The drag ended or was cancelled. -/
def PaneTerminal.endSelectionHold (v : PaneTerminal) : PaneTerminal :=
  let (held, gate) := v.selectionHold.release
  let v := { v with selectionHold := gate }
  match held with
  | some held => if !held.isEmpty && !v.crashed then v.feedToVte held else v
  | none => v

/-- What happens to a pane while its text is selected. -/
inductive HoldEvent
  | delta (data : Bytes)
  | press (shift : Bool)
  | release
  | trackingMode (value : Nat)
  | exited (status : Int)
  | presented (status : ConnectionStatus)
deriving DecidableEq

namespace ManagedPane

/-- A drag started; tells whether output is held. -/
def beginSelectionHold (v : ManagedPane) (shift : Bool) : Bool × ManagedPane :=
  let (held, gate) := v.terminal.selectionHold.press v.hasMouseTracking shift
  (held, { v with terminal := { v.terminal with selectionHold := gate } })

def endSelectionHold (v : ManagedPane) : ManagedPane :=
  { v with terminal := v.terminal.endSelectionHold }

def setMouseTrackingMode (v : ManagedPane) (value : Nat) : ManagedPane :=
  { v with mouseTracking := v.mouseTracking.setTrackingValue value }

def markExited (v : ManagedPane) (status : Int) : ManagedPane :=
  { v with terminal := v.terminal.markExited status }

def setConnectionPresentation (v : ManagedPane) (status : ConnectionStatus) : ManagedPane :=
  { v with terminal := v.terminal.setConnectionPresentation status }

def perform (v : ManagedPane) : HoldEvent → ManagedPane
  | .delta data => v.feedOutput data
  | .press shift => (v.beginSelectionHold shift).2
  | .release => v.endSelectionHold
  | .trackingMode value => v.setMouseTrackingMode value
  | .exited status => v.markExited status
  | .presented status => v.setConnectionPresentation status

/-- The text that an event makes the pane say. -/
def text? (v : ManagedPane) : HoldEvent → Option Bytes
  | .exited status =>
      if v.terminal.writes (.exit status) then some (bytesOf (exitMessage status)) else none
  | .presented status =>
      if v.terminal.writes (.present status) then
        some (bytesOf (formatDisconnectVteMessage status))
      else
        none
  | _ => none

/-- What arrives for the terminal with an event. -/
def arrivals (v : ManagedPane) : HoldEvent → List (Arrival UInt8)
  | .delta data => [.holdable data]
  | e => ((v.text? e).map Arrival.direct).toList

def heldOutput (v : ManagedPane) : Bytes :=
  v.terminal.selectionHold.heldOutput

/-- What is no output arrives as the text it makes the pane say. -/
theorem arrivals_eq {v : ManagedPane} {e : HoldEvent}
    (h : ∀ data, e ≠ .delta data) :
    v.arrivals e = ((v.text? e).map Arrival.direct).toList := by
  cases e with
  | delta data => exact absurd rfl (h data)
  | press shift => rfl
  | release => rfl
  | trackingMode value => rfl
  | exited status => rfl
  | presented status => rfl

theorem arrivals_of_text {v : ManagedPane} {e : HoldEvent} {text : Bytes}
    (h : v.text? e = some text) :
    v.arrivals e = [.direct text] := by
  have hno : ∀ data, e ≠ .delta data := by
    rintro data rfl
    cases h
  rw [arrivals_eq hno, h]
  rfl

/-- A live pane that holds nothing. -/
structure Ready (v : ManagedPane) : Prop where
  live : v.terminal.crashed = false
  free : v.heldOutput = []

theorem ready_new : new.Ready :=
  ⟨rfl, rfl⟩

/-- A text is said while output is held. -/
def TextOverHeld (v : ManagedPane) (e : HoldEvent) : Prop :=
  (v.text? e).isSome = true ∧ v.heldOutput ≠ []

instance (v : ManagedPane) (e : HoldEvent) : Decidable (v.TextOverHeld e) :=
  inferInstanceAs (Decidable (_ ∧ _))

end ManagedPane

end Events

section Steps

variable {v : ManagedPane} {received : List (Arrival UInt8)} {before fed : Bytes}

namespace ManagedPane

/-- No event crashes a pane. -/
theorem crashed_perform (v : ManagedPane) (e : HoldEvent) :
    (v.perform e).terminal.crashed = v.terminal.crashed := by
  cases e with
  | delta data =>
      rw [perform, feedOutput]
      split
      · rfl
      · exact PaneTerminal.feedOutput_crashed data
  | press shift => rfl
  | release =>
      simp only [perform, endSelectionHold, PaneTerminal.endSelectionHold]
      split
      · split <;> rfl
      · rfl
  | trackingMode value => rfl
  | exited status => exact (PaneTerminal.act_gate (a := .exit status) rfl).2
  | presented status => exact (PaneTerminal.act_gate (a := .present status) rfl).2

/-- The widget and the held output, before an event and after. -/
def Feeds (v : ManagedPane) (e : HoldEvent) (fed held : Bytes) : Prop :=
  (v.perform e).terminal.vteFed = v.terminal.vteFed ++ fed ∧ (v.perform e).heldOutput = held

/-- A text is fed at once, whatever is held. -/
theorem feeds_text {e : HoldEvent} {text : Bytes}
    (h : v.text? e = some text) :
    v.Feeds e text v.heldOutput := by
  cases e with
  | delta data => cases h
  | press shift => cases h
  | release => cases h
  | trackingMode value => cases h
  | exited status =>
      rw [text?] at h
      split at h
      · rename_i hwrites
        have hexited : v.terminal.exited = false := by
          simpa [PaneTerminal.writes] using hwrites
        rw [← Option.some.inj h]
        simp [Feeds, perform, markExited, PaneTerminal.markExited, hexited,
          PaneTerminal.feedToVte, heldOutput]
      · cases h
  | presented status =>
      rw [text?] at h
      split at h
      · rename_i hwrites
        have hsilent : (status.acceptsInput || v.terminal.disconnectMessageFed) = false := by
          simpa [PaneTerminal.writes] using hwrites
        rw [← Option.some.inj h]
        simp [Feeds, perform, setConnectionPresentation,
          PaneTerminal.setConnectionPresentation, hsilent, heldOutput, PaneTerminal.feedToVte]
      · cases h

/-- What a release feeds. -/
theorem feeds_release
    (h : v.terminal.crashed = false) :
    v.Feeds .release v.heldOutput [] := by
  cases hheld : v.terminal.selectionHold.held with
  | none =>
      simp [Feeds, perform, endSelectionHold, PaneTerminal.endSelectionHold,
        SelectionHoldGate.release, heldOutput, SelectionHoldGate.heldOutput, hheld]
  | some held =>
      cases held with
      | nil =>
          simp [Feeds, perform, endSelectionHold, PaneTerminal.endSelectionHold,
            SelectionHoldGate.release, heldOutput, SelectionHoldGate.heldOutput, hheld]
      | cons first rest =>
          simp [Feeds, perform, endSelectionHold, PaneTerminal.endSelectionHold,
            SelectionHoldGate.release, heldOutput, SelectionHoldGate.heldOutput, hheld, h,
            PaneTerminal.feedToVte]

/-- What is neither output, a text nor a release leaves the widget alone. -/
theorem feeds_other {e : HoldEvent}
    (hdelta : ∀ data, e ≠ .delta data)
    (hrelease : e ≠ .release)
    (htext : v.text? e = none) :
    v.Feeds e [] v.heldOutput := by
  cases e with
  | delta data => exact absurd rfl (hdelta data)
  | press shift =>
      refine ⟨(List.append_nil _).symm, ?_⟩
      exact SelectionHoldGate.heldOutput_press _ _ _
  | release => exact absurd rfl hrelease
  | trackingMode value => exact ⟨(List.append_nil _).symm, rfl⟩
  | exited status =>
      have hexited : v.terminal.exited = true := by
        rw [text?] at htext
        split at htext
        · cases htext
        · rename_i hwrites
          simpa [PaneTerminal.writes] using hwrites
      simp [Feeds, perform, markExited, PaneTerminal.markExited, hexited, heldOutput]
  | presented status =>
      have hsilent : (status.acceptsInput || v.terminal.disconnectMessageFed) = true := by
        rw [text?] at htext
        split at htext
        · cases htext
        · rename_i hwrites
          cases hinput : status.acceptsInput with
          | true => rfl
          | false => simpa [PaneTerminal.writes, hinput] using hwrites
      simp [Feeds, perform, setConnectionPresentation,
        PaneTerminal.setConnectionPresentation, hsilent, heldOutput]

/-- What output feeds. -/
theorem inOrder_delta
    (hlive : v.terminal.crashed = false)
    (h : InOrder received fed v.heldOutput)
    (data : Bytes) :
    ∃ more, v.Feeds (.delta data) more (v.perform (.delta data)).heldOutput ∧
      InOrder (received ++ [.holdable data]) (fed ++ more)
        (v.perform (.delta data)).heldOutput := by
  have hperform : (v.perform (.delta data)).terminal = v.terminal.feedOutput data := by
    rw [perform, feedOutput, hlive]
    rfl
  refine ⟨(v.terminal.selectionHold.offer data).1.fed data, ⟨?_, rfl⟩, ?_⟩
  · rw [hperform, PaneTerminal.feedOutput_of_live hlive]
    rfl
  · rw [heldOutput, hperform, PaneTerminal.feedOutput_of_live hlive]
    rw [heldOutput, SelectionHoldGate.heldOutput] at h
    simp only [PaneTerminal.withWidget, SelectionHoldGate.heldOutput, SelectionHoldGate.offer]
    cases hheld : v.terminal.selectionHold.held with
    | none =>
        rw [hheld] at h
        rw [hheld]
        exact h.feed (.holdable data)
    | some held =>
        rw [hheld] at h
        by_cases hfull : v.terminal.selectionHold.limit < held.length + data.length
        · -- The drag is given up: all that was held goes out with the chunk.
          have hflushed := (h.hold data).flush
          simp only [hfull, if_true]
          exact hflushed
        · simp only [hfull, if_false]
          rw [HoldOutcome.fed, List.append_nil]
          exact h.hold data

/-- **An event keeps the order, unless a text is fed over held output.** -/
theorem inOrder_perform {e : HoldEvent}
    (hlive : v.terminal.crashed = false)
    (h : InOrder received fed v.heldOutput)
    (hclear : ¬ v.TextOverHeld e) :
    ∃ more, v.Feeds e more (v.perform e).heldOutput ∧
      InOrder (received ++ v.arrivals e) (fed ++ more) (v.perform e).heldOutput := by
  by_cases hdelta : ∃ data, e = .delta data
  · obtain ⟨data, rfl⟩ := hdelta
    exact inOrder_delta hlive h data
  · have hno : ∀ data, e ≠ .delta data := fun data heq => hdelta ⟨data, heq⟩
    cases htext : v.text? e with
    | some text =>
        have hfeeds := feeds_text htext
        have hfree : v.heldOutput = [] := by
          by_contra hheld
          exact hclear ⟨by rw [htext]; rfl, hheld⟩
        rw [hfree] at h hfeeds
        rw [arrivals_of_text htext, hfeeds.2]
        exact ⟨text, hfeeds, h.feed (.direct text)⟩
    | none =>
        have hsame : received ++ v.arrivals e = received := by
          rw [arrivals_eq hno, htext]
          exact List.append_nil received
        rw [hsame]
        by_cases hrelease : e = .release
        · subst hrelease
          have hfeeds := feeds_release hlive
          rw [hfeeds.2]
          exact ⟨v.heldOutput, hfeeds, h.flush⟩
        · have hfeeds := feeds_other hno hrelease htext
          rw [hfeeds.2]
          exact ⟨[], hfeeds, by rwa [List.append_nil]⟩

end ManagedPane

end Steps

section Runs

/-- One event, with what arrived so far. -/
def receive (s : ManagedPane × List (Arrival UInt8)) (e : HoldEvent) :
    ManagedPane × List (Arrival UInt8) :=
  (s.1.perform e, s.2 ++ s.1.arrivals e)

/-- The pane after a run of events, and what arrived in it. -/
def receiveAll (start : ManagedPane) (events : List HoldEvent) :
    ManagedPane × List (Arrival UInt8) :=
  events.foldl receive (start, [])

theorem receiveAll_concat (start : ManagedPane) (events : List HoldEvent) (e : HoldEvent) :
    receiveAll start (events ++ [e]) = receive (receiveAll start events) e := by
  simp [receiveAll]

/-- The widget was fed what arrived, in order, but for output that is still held. -/
def StreamKept (start : ManagedPane) (events : List HoldEvent) : Prop :=
  ∃ fed, (receiveAll start events).1.terminal.vteFed = start.terminal.vteFed ++ fed ∧
    InOrder (receiveAll start events).2 fed (receiveAll start events).1.heldOutput

/-- No text is said while output is held. -/
def NoTextOverHeld (start : ManagedPane) (events : List HoldEvent) : Prop :=
  ∀ prior e, prior ++ [e] <+: events → ¬ (receiveAll start prior).1.TextOverHeld e

variable {start : ManagedPane}

theorem crashed_receiveAll (start : ManagedPane) (events : List HoldEvent) :
    (receiveAll start events).1.terminal.crashed = start.terminal.crashed := by
  induction events using List.reverseRecOn with
  | nil => rfl
  | append_singleton events e ih =>
      rw [receiveAll_concat, receive, ManagedPane.crashed_perform, ih]

theorem StreamKept.nil
    (h : start.Ready) :
    StreamKept start [] := by
  refine ⟨[], (List.append_nil _).symm, ?_⟩
  have hfree : (receiveAll start []).1.heldOutput = [] := h.free
  rw [hfree]
  exact inOrder_nil

/-- An event keeps what was kept, unless a text is said over held output. -/
theorem StreamKept.concat {events : List HoldEvent} {e : HoldEvent}
    (hready : start.Ready)
    (h : StreamKept start events)
    (hclear : ¬ (receiveAll start events).1.TextOverHeld e) :
    StreamKept start (events ++ [e]) := by
  obtain ⟨fed, hfed, horder⟩ := h
  have hlive : (receiveAll start events).1.terminal.crashed = false := by
    rw [crashed_receiveAll, hready.live]
  obtain ⟨more, hfeeds, hmore⟩ := ManagedPane.inOrder_perform hlive horder hclear
  refine ⟨fed ++ more, ?_, ?_⟩
  · rw [receiveAll_concat, receive, hfeeds.1, hfed, List.append_assoc]
  · rw [receiveAll_concat]
    exact hmore

/-- A text over held output breaks the order. -/
theorem not_streamKept {events : List HoldEvent} {e : HoldEvent}
    (h : (receiveAll start events).1.TextOverHeld e) :
    ¬ StreamKept start (events ++ [e]) := by
  rintro ⟨fed, _, horder⟩
  obtain ⟨hsome, hheld⟩ := h
  obtain ⟨text, htext⟩ := Option.isSome_iff_exists.mp hsome
  rw [receiveAll_concat, receive, ManagedPane.arrivals_of_text htext] at horder
  refine hheld ?_
  rw [← (ManagedPane.feeds_text htext).2]
  exact horder.held_eq_nil

/-- **Over a run of events the stream is kept exactly if no text is said while output is
held.** -/
theorem streamKept_iff
    (hready : start.Ready)
    (events : List HoldEvent) :
    (∀ prior, prior <+: events → StreamKept start prior) ↔ NoTextOverHeld start events := by
  constructor
  · intro hkept prior e hrun hover
    exact not_streamKept hover (hkept _ hrun)
  · intro hclear prior hprior
    induction prior using List.reverseRecOn with
    | nil => exact StreamKept.nil hready
    | append_singleton prior e ih =>
        exact (ih ((List.prefix_append prior [e]).trans hprior)).concat hready
          (hclear prior e hprior)

/-- A drag with output in it, after which the process exits. -/
def exitInDrag : List HoldEvent :=
  [.press false, .delta (bytesOf "ls"), .exited 0, .release]

theorem streamKept_iff_new :
    ManagedPane.new.Ready ∧
      ((∀ prior, prior <+: exitInDrag → StreamKept .new prior) ↔
        NoTextOverHeld .new exitInDrag) :=
  ⟨ManagedPane.ready_new, streamKept_iff ManagedPane.ready_new exitInDrag⟩

/-- What a process wrote before it exited is fed after the text that it exited. -/
theorem exit_overtakes_output :
    (receiveAll .new exitInDrag).2 =
        [.holdable (bytesOf "ls"), .direct (bytesOf "\r\n[Process exited]\r\n")] ∧
      (receiveAll .new exitInDrag).1.terminal.vteFed =
        bytesOf "\r\n[Process exited]\r\n" ++ bytesOf "ls" ∧
      ¬ StreamKept .new exitInDrag := by
  have hfed : (receiveAll .new exitInDrag).1.terminal.vteFed =
      bytesOf "\r\n[Process exited]\r\n" ++ bytesOf "ls" := by decide +kernel
  have harrived : (receiveAll .new exitInDrag).2 =
      [.holdable (bytesOf "ls"), .direct (bytesOf "\r\n[Process exited]\r\n")] := by
    decide +kernel
  refine ⟨harrived, hfed, ?_⟩
  rintro ⟨fed, hstart, horder⟩
  rw [hfed] at hstart
  have hkept := horder.append_eq
  have hempty : ManagedPane.new.terminal.vteFed = [] := rfl
  have hheld : (receiveAll .new exitInDrag).1.heldOutput = [] := by decide +kernel
  rw [harrived, hheld, List.append_nil] at hkept
  rw [hempty, List.nil_append] at hstart
  rw [← hstart] at hkept
  revert hkept
  decide +kernel

end Runs

end Client
end Rttx
