import Rttx.Client.EndpointMessages
import Rttx.Server.PaneScreen

/-!
# What the terminal of a pane is fed

The view of a pane feeds its terminal widget the output that arrives, unless a
selection is being dragged, and the texts by which it says that the process
exited or the connection was lost.

The widget is represented by the bytes it was fed.  Held output is fed when the
drag ends, or when it grows beyond its bound.

**Results.**
* `feedOutput_feedOutput`: output in two parts acts as one.
* `act_comm`: what is done to a view commutes with output, unless both feed
  the widget.
* `foldl_act_of_inPlace`: output may be fed first if none of it reaches the
  widget after a text.
-/

namespace Rttx
namespace Client

open Server

section Gate

/-- Holds a pane's output while a mouse selection drag is in progress. -/
structure SelectionHoldGate where
  held : Option Bytes
  limit : Nat
deriving DecidableEq

/-- What the gate did with a chunk of output. -/
inductive HoldOutcome
  | feed
  | held
  | overflow (queued : Bytes)
deriving DecidableEq

namespace SelectionHoldGate

/-- Route a chunk of output through the gate. -/
def offer (gate : SelectionHoldGate) (data : Bytes) : HoldOutcome × SelectionHoldGate :=
  match gate.held with
  | none => (.feed, gate)
  | some held =>
      if gate.limit < held.length + data.length then
        (.overflow (held ++ data), { gate with held := none })
      else
        (.held, { gate with held := some (held ++ data) })

/-- Whether a chunk makes the gate feed something. -/
def passes (gate : SelectionHoldGate) (data : Bytes) : Bool :=
  match gate.held with
  | none => !data.isEmpty
  | some held => decide (gate.limit < held.length + data.length)

end SelectionHoldGate

/-- What an outcome feeds of a chunk. -/
def HoldOutcome.fed (data : Bytes) : HoldOutcome → Bytes
  | feed => data
  | held => []
  | overflow queued => queued

end Gate

section View

/-- The part of a pane's view that live events read and write. -/
structure PaneTerminal where
  customTitle : Option String
  daemonTitle : Option String
  currentDirectory : Option String
  applicationCursorKeys : Bool
  applicationKeypad : Bool
  connected : Bool
  acceptsInput : Bool
  exited : Bool
  disconnectMessageFed : Bool
  crashed : Bool
  selectionHold : SelectionHoldGate
  vteFed : Bytes
deriving DecidableEq

/-- Whether a status is one of an established connection. -/
def ConnectionStatus.acceptsInput : ConnectionStatus → Bool
  | connected => true
  | recovered => true
  | _ => false

/-- The one-time message of a pane that disconnects. -/
def formatDisconnectVteMessage : ConnectionStatus → String
  | .reconnecting attempt retryInSecs =>
      "\r\n[rttx: connection lost — reconnecting (attempt " ++ toString attempt ++
        ", retry in " ++ toString retryInSecs ++ "s)...]\r\n"
  | .blocked problem => "\r\n[rttx: connection lost — " ++ problem.label ++ "]\r\n"
  | _ => "\r\n[rttx: connection lost — reconnecting...]\r\n"

/-- The message of a process that exited. -/
def exitMessage (status : Int) : String :=
  if status = 0 then
    "\r\n[Process exited]\r\n"
  else
    "\r\n[Process exited with status " ++ toString status ++ "]\r\n"

namespace PaneTerminal

def feedToVte (v : PaneTerminal) (data : Bytes) : PaneTerminal :=
  { v with vteFed := v.vteFed ++ data }

/-- Feed output, or hold it. -/
def feedOutput (v : PaneTerminal) (data : Bytes) : PaneTerminal :=
  if v.crashed then
    v
  else
    let (outcome, gate) := v.selectionHold.offer data
    { v with selectionHold := gate }.feedToVte (outcome.fed data)

/-- Mark the process as exited. -/
def markExited (v : PaneTerminal) (status : Int) : PaneTerminal :=
  let silent := v.exited
  let v := { v with connected := false, acceptsInput := false, exited := true }
  if silent then v else v.feedToVte (bytesOf (exitMessage status))

/-- Present the state of the connection. -/
def setConnectionPresentation (status : ConnectionStatus) (v : PaneTerminal) : PaneTerminal :=
  let connected := status.acceptsInput
  let silent := v.disconnectMessageFed
  let v := { v with
    exited := false
    connected := connected
    acceptsInput := connected
    disconnectMessageFed := !connected }
  if connected || silent then
    v
  else
    v.feedToVte (bytesOf (formatDisconnectVteMessage status))

end PaneTerminal

end View

section Actions

/-- What an event does to a view. -/
inductive PaneAction
  | output (data : Bytes)
  | title (title : String)
  | directory (cwd : String)
  | applicationModes (cursorKeys keypad : Bool)
  | exit (status : Int)
  | present (status : ConnectionStatus)
deriving DecidableEq

namespace PaneTerminal

def act (v : PaneTerminal) : PaneAction → PaneTerminal
  | .output data => v.feedOutput data
  | .title title => if v.customTitle.isNone then { v with daemonTitle := some title } else v
  | .directory cwd => { v with currentDirectory := some cwd }
  | .applicationModes cursorKeys keypad =>
      { v with applicationCursorKeys := cursorKeys, applicationKeypad := keypad }
  | .exit status => v.markExited status
  | .present status => v.setConnectionPresentation status

/-- Whether an action feeds a text of its own. -/
def writes (v : PaneTerminal) : PaneAction → Bool
  | .exit _ => !v.exited
  | .present status => !status.acceptsInput && !v.disconnectMessageFed
  | _ => false

/-- Whether output makes the view feed its widget. -/
def passes (v : PaneTerminal) (data : Bytes) : Bool :=
  !v.crashed && v.selectionHold.passes data

end PaneTerminal

def PaneAction.output? : PaneAction → Option Bytes
  | output data => some data
  | _ => none

/-- The output among the actions. -/
def outputs (actions : List PaneAction) : List Bytes :=
  actions.filterMap PaneAction.output?

/-- The actions other than output. -/
def others (actions : List PaneAction) : List PaneAction :=
  actions.filter (fun a => a.output?.isNone)

end Actions

section Laws

variable {v : PaneTerminal}

namespace PaneTerminal

theorem feedOutput_of_crashed
    (h : v.crashed = true)
    (data : Bytes) :
    v.feedOutput data = v := by
  simp [feedOutput, h]

/-- The view with another gate, and its widget fed other bytes. -/
def withWidget (v : PaneTerminal) (gate : SelectionHoldGate) (fed : Bytes) : PaneTerminal :=
  { v with selectionHold := gate, vteFed := fed }

theorem feedOutput_of_live
    (h : v.crashed = false)
    (data : Bytes) :
    v.feedOutput data =
      v.withWidget (v.selectionHold.offer data).2
        (v.vteFed ++ (v.selectionHold.offer data).1.fed data) := by
  simp [feedOutput, h, feedToVte, withWidget]

@[simp] theorem feedOutput_crashed (data : Bytes) : (v.feedOutput data).crashed = v.crashed := by
  unfold feedOutput
  split <;> rfl

@[simp] theorem feedOutput_exited (data : Bytes) : (v.feedOutput data).exited = v.exited := by
  unfold feedOutput
  split <;> rfl

@[simp] theorem feedOutput_disconnectMessageFed (data : Bytes) :
    (v.feedOutput data).disconnectMessageFed = v.disconnectMessageFed := by
  unfold feedOutput
  split <;> rfl

end PaneTerminal

/-- The gate passes two chunks as it passes one. -/
theorem SelectionHoldGate.offer_append (gate : SelectionHoldGate) (first second : Bytes) :
    (gate.offer (first ++ second)).2 = ((gate.offer first).2.offer second).2 ∧
      (gate.offer (first ++ second)).1.fed (first ++ second) =
        (gate.offer first).1.fed first ++ ((gate.offer first).2.offer second).1.fed second := by
  obtain ⟨held, limit⟩ := gate
  cases held with
  | none => exact ⟨rfl, rfl⟩
  | some held =>
      by_cases hfirst : limit < held.length + first.length
      · have hboth : limit < held.length + (first.length + second.length) := by omega
        simp [offer, hfirst, hboth, HoldOutcome.fed]
      · simp only [offer, hfirst, if_false, List.length_append, Nat.add_assoc]
        by_cases hboth : limit < held.length + (first.length + second.length)
        · simp [hboth, HoldOutcome.fed]
        · simp [hboth, HoldOutcome.fed]

/-- **Output in two parts acts as one.** -/
theorem PaneTerminal.feedOutput_feedOutput (v : PaneTerminal) (first second : Bytes) :
    (v.feedOutput first).feedOutput second = v.feedOutput (first ++ second) := by
  cases hcrashed : v.crashed with
  | true => simp [feedOutput_of_crashed, hcrashed]
  | false =>
      have hfirst : (v.feedOutput first).crashed = false := by
        rw [feedOutput_crashed, hcrashed]
      obtain ⟨hgate, hfed⟩ := v.selectionHold.offer_append first second
      rw [feedOutput_of_live hfirst, feedOutput_of_live hcrashed, feedOutput_of_live hcrashed,
        hgate, hfed, ← List.append_assoc]
      rfl

/-- A run of output acts as the output in one piece. -/
theorem foldl_feedOutput {chunks : List Bytes}
    (h : chunks ≠ [])
    (v : PaneTerminal) :
    chunks.foldl PaneTerminal.feedOutput v = v.feedOutput chunks.flatten := by
  induction chunks generalizing v with
  | nil => exact absurd rfl h
  | cons chunk rest ih =>
      cases rest with
      | nil => simp
      | cons next rest =>
          rw [List.foldl_cons, ih (by simp), PaneTerminal.feedOutput_feedOutput,
            List.flatten_cons (l := chunk)]

namespace PaneTerminal

/-- What is held back leaves the widget alone. -/
theorem feedOutput_of_not_passes {data : Bytes}
    (h : v.passes data = false) :
    (v.feedOutput data).vteFed = v.vteFed := by
  cases hcrashed : v.crashed with
  | true => rw [feedOutput_of_crashed hcrashed]
  | false =>
      have hgate : v.selectionHold.passes data = false := by
        simpa [passes, hcrashed] using h
      rw [feedOutput_of_live hcrashed]
      unfold SelectionHoldGate.passes at hgate
      unfold SelectionHoldGate.offer
      cases hheld : v.selectionHold.held with
      | none =>
          have hempty : data = [] := by simpa [hheld] using hgate
          simp [HoldOutcome.fed, hempty, withWidget]
      | some held =>
          have hroom : ¬ v.selectionHold.limit < held.length + data.length := by
            simpa [hheld] using hgate
          simp [hroom, HoldOutcome.fed, withWidget]

/-- The actions other than output leave the gate alone. -/
theorem act_gate {a : PaneAction}
    (h : a.output? = none) :
    (v.act a).selectionHold = v.selectionHold ∧ (v.act a).crashed = v.crashed := by
  cases a with
  | output data => cases h
  | title title =>
      simp only [act]
      split <;> exact ⟨rfl, rfl⟩
  | directory cwd => exact ⟨rfl, rfl⟩
  | applicationModes cursorKeys keypad => exact ⟨rfl, rfl⟩
  | exit status =>
      simp only [act, markExited]
      split <;> exact ⟨rfl, rfl⟩
  | present status =>
      simp only [act, setConnectionPresentation]
      split <;> exact ⟨rfl, rfl⟩

theorem passes_act {a : PaneAction}
    (h : a.output? = none)
    (data : Bytes) :
    (v.act a).passes data = v.passes data := by
  obtain ⟨hgate, hcrashed⟩ := act_gate (v := v) h
  rw [passes, passes, hgate, hcrashed]

@[simp] theorem writes_feedOutput (data : Bytes) (a : PaneAction) :
    (v.feedOutput data).writes a = v.writes a := by
  cases a <;> simp [writes]

/-- An action other than output appends to what the widget was fed. -/
theorem act_eq {a : PaneAction}
    (h : a.output? = none) :
    ∃ text, (v.writes a = false → text = []) ∧
      ∀ gate fed, (v.withWidget gate fed).act a = (v.act a).withWidget gate (fed ++ text) := by
  cases a with
  | output data => cases h
  | title title =>
      refine ⟨[], fun _ => rfl, ?_⟩
      intro gate fed
      cases hcustom : v.customTitle.isNone <;> simp [act, withWidget, hcustom]
  | directory cwd => exact ⟨[], fun _ => rfl, fun gate fed => by simp [act, withWidget]⟩
  | applicationModes cursorKeys keypad =>
      exact ⟨[], fun _ => rfl, fun gate fed => by simp [act, withWidget]⟩
  | exit status =>
      cases hexited : v.exited with
      | true =>
          refine ⟨[], fun _ => rfl, ?_⟩
          intro gate fed
          simp [act, markExited, hexited, withWidget]
      | false =>
          refine ⟨bytesOf (exitMessage status), ?_, ?_⟩
          · intro hsilent
            rw [writes, hexited] at hsilent
            cases hsilent
          · intro gate fed
            simp [act, markExited, hexited, feedToVte, withWidget]
  | present status =>
      cases hsilent : status.acceptsInput || v.disconnectMessageFed with
      | true =>
          refine ⟨[], fun _ => rfl, ?_⟩
          intro gate fed
          simp only [act, setConnectionPresentation, withWidget, hsilent, if_true, List.append_nil]
      | false =>
          refine ⟨bytesOf (formatDisconnectVteMessage status), ?_, ?_⟩
          · intro hno
            rw [Bool.or_eq_false_iff] at hsilent
            rw [writes, hsilent.1, hsilent.2] at hno
            cases hno
          · intro gate fed
            simp only [act, setConnectionPresentation, withWidget, hsilent, feedToVte]
            rfl

/-- **What is done to a view commutes with output, unless both feed the
widget.** -/
theorem act_comm {a : PaneAction} {data : Bytes}
    (ha : a.output? = none)
    (h : v.writes a = false ∨ v.passes data = false) :
    (v.act a).feedOutput data = (v.feedOutput data).act a := by
  obtain ⟨text, hsilent, hact⟩ := act_eq (v := v) ha
  have hfed : (v.act a).vteFed = v.vteFed ++ text :=
    congrArg PaneTerminal.vteFed (hact v.selectionHold v.vteFed)
  obtain ⟨hgate, hcrash⟩ := act_gate (v := v) ha
  cases hcrashed : v.crashed with
  | true =>
      rw [feedOutput_of_crashed hcrashed, feedOutput_of_crashed (hcrash.trans hcrashed)]
  | false =>
      rw [feedOutput_of_live (hcrash.trans hcrashed), feedOutput_of_live hcrashed, hact, hgate,
        hfed]
      rcases h with hwrites | hpasses
      · rw [hsilent hwrites, List.append_nil, List.append_nil]
      · have hnothing := feedOutput_of_not_passes hpasses
        rw [feedOutput_of_live hcrashed] at hnothing
        have hnone : (v.selectionHold.offer data).1.fed data = [] :=
          List.append_right_eq_self.mp hnothing
        rw [hnone, List.append_nil, List.append_nil]

end PaneTerminal

end Laws

section Order

/-- None of the chunks reaches the widget. -/
def NonePass : PaneTerminal → List Bytes → Prop
  | _, [] => True
  | v, data :: rest => v.passes data = false ∧ NonePass (v.feedOutput data) rest

/-- No output reaches the widget after a text; `written` tells whether one was
fed before. -/
def InPlace : PaneTerminal → Bool → List PaneAction → Prop
  | _, _, [] => True
  | v, written, a :: rest =>
      (written = true → ∀ data, a.output? = some data → v.passes data = false) ∧
        InPlace (v.act a) (written || v.writes a) rest

theorem NonePass.act {v : PaneTerminal} {a : PaneAction} {chunks : List Bytes}
    (ha : a.output? = none)
    (h : NonePass (v.act a) chunks) :
    NonePass v chunks := by
  induction chunks generalizing v with
  | nil => trivial
  | cons data rest ih =>
      have hpasses : v.passes data = false := by
        rw [← PaneTerminal.passes_act ha]
        exact h.1
      refine ⟨hpasses, ih ?_⟩
      rw [← PaneTerminal.act_comm ha (Or.inr hpasses)]
      exact h.2

/-- After a text nothing passes. -/
theorem InPlace.nonePass {v : PaneTerminal} {actions : List PaneAction}
    (h : InPlace v true actions) :
    NonePass v (outputs actions) := by
  induction actions generalizing v with
  | nil => trivial
  | cons a rest ih =>
      obtain ⟨hfirst, hrest⟩ := h
      have hih := ih hrest
      cases hoff : a.output? with
      | none =>
          rw [outputs, List.filterMap_cons_none hoff]
          exact NonePass.act hoff hih
      | some data =>
          have ha : a = .output data := by
            cases a <;> cases hoff
            rfl
          subst ha
          exact ⟨hfirst rfl data rfl, hih⟩

/-- An action commutes with a run of output, unless it feeds a text that some
of the output passes. -/
theorem act_foldl_comm {a : PaneAction}
    (ha : a.output? = none)
    {v : PaneTerminal} {chunks : List Bytes}
    (h : v.writes a = false ∨ NonePass v chunks) :
    chunks.foldl PaneTerminal.feedOutput (v.act a) =
      (chunks.foldl PaneTerminal.feedOutput v).act a := by
  induction chunks generalizing v with
  | nil => rfl
  | cons data rest ih =>
      rw [List.foldl_cons, List.foldl_cons,
        PaneTerminal.act_comm ha (h.imp_right (fun hnone => hnone.1))]
      refine ih (h.imp ?_ (fun hnone => hnone.2))
      intro hwrites
      rw [PaneTerminal.writes_feedOutput, hwrites]

/-- **Output may be fed first if none of it reaches the widget after a text.** -/
theorem foldl_act_of_inPlace {v : PaneTerminal} {written : Bool} {actions : List PaneAction}
    (h : InPlace v written actions) :
    actions.foldl PaneTerminal.act v =
      (others actions).foldl PaneTerminal.act
        ((outputs actions).foldl PaneTerminal.feedOutput v) := by
  induction actions generalizing v written with
  | nil => rfl
  | cons a rest ih =>
      obtain ⟨_, hrest⟩ := h
      rw [List.foldl_cons, ih hrest]
      cases hoff : a.output? with
      | some data =>
          have ha : a = .output data := by
            cases a <;> cases hoff
            rfl
          subst ha
          rfl
      | none =>
          have houtputs : outputs (a :: rest) = outputs rest := List.filterMap_cons_none hoff
          have hothers : others (a :: rest) = a :: others rest := by simp [others, hoff]
          have hsilent : v.writes a = false ∨ NonePass v (outputs rest) := by
            cases hwrites : v.writes a with
            | false => exact Or.inl rfl
            | true =>
                rw [hwrites, Bool.or_true] at hrest
                exact Or.inr (hrest.nonePass.act hoff)
          rw [houtputs, hothers, List.foldl_cons, act_foldl_comm hoff hsilent]

theorem InPlace.unwritten {v : PaneTerminal} {written : Bool} {actions : List PaneAction}
    (h : InPlace v written actions) :
    InPlace v false actions := by
  induction actions generalizing v written with
  | nil => trivial
  | cons a rest ih =>
      refine ⟨nofun, ?_⟩
      cases hwrites : v.writes a with
      | false => exact ih h.2
      | true =>
          have hrest := h.2
          rw [hwrites, Bool.or_true] at hrest
          exact hrest

/-- The parts of what is in place are in place. -/
theorem InPlace.parts {v : PaneTerminal} {written : Bool} {front back : List PaneAction}
    (h : InPlace v written (front ++ back)) :
    InPlace v written front ∧ InPlace (front.foldl PaneTerminal.act v) false back := by
  induction front generalizing v written with
  | nil => exact ⟨trivial, h.unwritten⟩
  | cons a rest ih =>
      obtain ⟨hrest, hback⟩ := ih h.2
      exact ⟨⟨h.1, hrest⟩, hback⟩

end Order

end Client
end Rttx
