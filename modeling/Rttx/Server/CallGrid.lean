import Rttx.Server.Controls

/-!
# The grid as a performer of calls

The grid runs a parser over its input and takes the calls of that parser one by
one.  What the controls of the daemon's cleanup bytes do to the modes, the pen, the
cursor and the cells is the grid's documented behaviour.

**Results.**
* `CallGrid.process_controls`: what the grid is after a held-back start of a
  character and some controls.
* `CallGrid.cell_foldl`: controls draw nothing.
-/

namespace Rttx
namespace Server

open Kernel

universe u v

section Grid

/-- The attributes that the grid's pen draws with. -/
structure Attributes where
  fgcolor : Color
  bgcolor : Color
  bold : Bool
  dim : Bool
  italic : Bool
  underline : Bool
  inverse : Bool
deriving DecidableEq, Repr

def Attributes.default : Attributes :=
  ⟨.default, .default, false, false, false, false, false⟩

namespace MouseProtocolEncoding

/-- Set an encoding, or reset it if it is the one that is on. -/
def set (enabled : Bool) (current encoding : MouseProtocolEncoding) : MouseProtocolEncoding :=
  if enabled then encoding else if current = encoding then .default else current

def setParam (enabled : Bool) (current : MouseProtocolEncoding) (param : List Nat) :
    MouseProtocolEncoding :=
  match param with
  | [1005] => current.set enabled .utf8
  | [1006] => current.set enabled .sgr
  | _ => current

/-- One call of the parser. -/
def applied (current : MouseProtocolEncoding) : VteCall → MouseProtocolEncoding
  | .csiDispatch params intermediates _ action =>
      if intermediates.head? = some 0x3f ∧ (action = 'h' ∨ action = 'l') then
        params.foldl (setParam (action == 'h')) current
      else
        current
  | .escDispatch intermediates _ byte =>
      if intermediates = [] ∧ byte = 0x63 then .default else current
  | _ => current

end MouseProtocolEncoding

/-- The private modes of the cleanup bytes that draw nothing. -/
def stillModes : List Nat :=
  [1, 25, 1000, 1002, 1003, 1004, 1006, 1015, 2004]

/-- A call that leaves the cells and the cursor as they are. -/
def StillCall : VteCall → Prop
  | .csiDispatch params intermediates _ action =>
      (intermediates = bytesOf "?" ∧ (action = 'h' ∨ action = 'l') ∧
          ∀ param ∈ params, param ∈ stillModes.map (fun mode => [mode])) ∨
        (intermediates = [] ∧ action = 'm')
  | .escDispatch intermediates _ byte => intermediates = [] ∧ (byte = 0x3d ∨ byte = 0x3e)
  | _ => False

/-- A call that moves the cursor to the home position: DECSTBM without margins, and
DECRST of the origin mode. -/
def HomingCall (call : VteCall) : Prop :=
  call = .csiDispatch [[0]] [] false 'r' ∨ call = .csiDispatch [[6]] (bytesOf "?") false 'l'

instance (call : VteCall) : Decidable (StillCall call) :=
  match call with
  | .csiDispatch _ _ _ _ => inferInstanceAs (Decidable (_ ∨ _))
  | .escDispatch _ _ _ => inferInstanceAs (Decidable (_ ∧ _))
  | .print _ => inferInstanceAs (Decidable False)
  | .execute _ => inferInstanceAs (Decidable False)
  | .hook _ _ _ _ => inferInstanceAs (Decidable False)
  | .put _ => inferInstanceAs (Decidable False)
  | .unhook => inferInstanceAs (Decidable False)
  | .oscDispatch _ _ => inferInstanceAs (Decidable False)

instance (call : VteCall) : Decidable (HomingCall call) :=
  inferInstanceAs (Decidable (_ ∨ _))

/-- A cell grid that performs the calls of a parser `Q` of its own. -/
class CallGrid (Q : outParam (Type u)) (G : Type v) [VteParser Q] [Vt100Parser G] where
  parser : G → Q
  perform : G → VteCall → G
  attributes : G → Attributes

/-- What can be read of a grid. -/
structure GridReadout where
  modes : ScreenModes
  encoding : MouseProtocolEncoding
  attributes : Attributes
  cursor : Nat × Nat
  cell : Nat → Nat → Option Cell

variable {Q : Type u} {G : Type v} [VteParser Q] [Vt100Parser G]

def gridReadout [CallGrid Q G] (g : G) : GridReadout where
  modes := gridModes g
  encoding := Vt100Parser.mouseProtocolEncoding g
  attributes := CallGrid.attributes g
  cursor := Vt100Parser.cursorPosition g
  cell := Vt100Parser.cell g

/-- The documented behaviour of the grid.  Its parser is of a later version than
the performer's and takes the byte that breaks a character off for itself. -/
class LawfulCallGrid (Q : outParam (Type u)) (G : Type v) [VteParser Q] [ControlParser Q]
    [AsciiDispatch Q] [Vt100Parser G] [CallGrid Q G] : Prop where
  resumes : ∀ g : G, ControlParser.swallows (CallGrid.parser g) = false
  parser_process : ∀ (g : G) (data : Bytes),
    CallGrid.parser (Vt100Parser.process g data) = parserAfter (CallGrid.parser g) data
  readout_process : ∀ (g : G) (data : Bytes),
    gridReadout (Vt100Parser.process g data) =
      gridReadout ((callsOver (CallGrid.parser g) data).foldl CallGrid.perform g)
  modes_perform : ∀ (g : G) (call : VteCall),
    gridModes (CallGrid.perform g call) = (gridModes g).applied call
  encoding_perform : ∀ (g : G) (call : VteCall),
    Vt100Parser.mouseProtocolEncoding (CallGrid.perform g call) =
      (Vt100Parser.mouseProtocolEncoding g).applied call
  attributes_reset : ∀ g : G,
    CallGrid.attributes (CallGrid.perform g (.csiDispatch [[0]] [] false 'm')) = .default
  still : ∀ (g : G) (call : VteCall), StillCall call →
    Vt100Parser.cell (CallGrid.perform g call) = Vt100Parser.cell g ∧
      Vt100Parser.cursorPosition (CallGrid.perform g call) = Vt100Parser.cursorPosition g
  homing : ∀ (g : G) (call : VteCall), HomingCall call →
    Vt100Parser.cell (CallGrid.perform g call) = Vt100Parser.cell g ∧
      Vt100Parser.cursorPosition (CallGrid.perform g call) = (0, 0)

end Grid

section Calls

theorem applied_passive {call : VteCall}
    (h : call.dispatches = false)
    (m : ScreenModes) :
    m.applied call = m := by
  cases call with
  | csiDispatch params intermediates ignore action => cases h
  | escDispatch intermediates ignore byte => cases h
  | _ => rfl

theorem encodingApplied_passive {call : VteCall}
    (h : call.dispatches = false)
    (current : MouseProtocolEncoding) :
    current.applied call = current := by
  cases call with
  | csiDispatch params intermediates ignore action => cases h
  | escDispatch intermediates ignore byte => cases h
  | _ => rfl

/-- What no call of a list changes. -/
theorem foldl_unchanged {σ : Type u} {step : σ → VteCall → σ} {calls : List VteCall}
    (h : ∀ call ∈ calls, ∀ state, step state call = state)
    (state : σ) :
    calls.foldl step state = state := by
  induction calls with
  | nil => rfl
  | cons call rest ih =>
      rw [List.foldl_cons, h call List.mem_cons_self]
      exact ih fun call hcall => h call (List.mem_cons_of_mem _ hcall)

end Calls

namespace CallGrid

section Runs

variable {Q : Type u} {G : Type v}
variable [VteParser Q] [ControlParser Q] [AsciiDispatch Q] [Vt100Parser G] [CallGrid Q G]
variable [LawfulCallGrid Q G]

theorem modes_foldl (g : G) (calls : List VteCall) :
    gridModes (calls.foldl perform g) = calls.foldl ScreenModes.applied (gridModes g) := by
  induction calls generalizing g with
  | nil => rfl
  | cons call rest ih => rw [List.foldl_cons, ih, LawfulCallGrid.modes_perform, List.foldl_cons]

theorem encoding_foldl (g : G) (calls : List VteCall) :
    Vt100Parser.mouseProtocolEncoding (calls.foldl perform g) =
      calls.foldl MouseProtocolEncoding.applied (Vt100Parser.mouseProtocolEncoding g) := by
  induction calls generalizing g with
  | nil => rfl
  | cons call rest ih =>
      rw [List.foldl_cons, ih, LawfulCallGrid.encoding_perform, List.foldl_cons]

/-- Controls that draw nothing. -/
theorem cell_foldl {calls : List VteCall}
    (h : ∀ call ∈ calls, StillCall call ∨ HomingCall call)
    (g : G) :
    Vt100Parser.cell (calls.foldl perform g) = Vt100Parser.cell g := by
  induction calls generalizing g with
  | nil => rfl
  | cons call rest ih =>
      rw [List.foldl_cons, ih fun call hcall => h call (List.mem_cons_of_mem _ hcall)]
      rcases h call List.mem_cons_self with hstill | hhoming
      · exact (LawfulCallGrid.still g call hstill).1
      · exact (LawfulCallGrid.homing g call hhoming).1

theorem cursorPosition_foldl_still {calls : List VteCall}
    (h : ∀ call ∈ calls, StillCall call)
    (g : G) :
    Vt100Parser.cursorPosition (calls.foldl perform g) = Vt100Parser.cursorPosition g := by
  induction calls generalizing g with
  | nil => rfl
  | cons call rest ih =>
      rw [List.foldl_cons, ih fun call hcall => h call (List.mem_cons_of_mem _ hcall)]
      exact (LawfulCallGrid.still g call (h call List.mem_cons_self)).2

/-- The parser of the grid after the start of a character. -/
theorem swallows_after (g : G) (tail : Bytes) :
    ControlParser.swallows (parserAfter (parser g) tail) = false := by
  rw [← LawfulCallGrid.parser_process]
  exact LawfulCallGrid.resumes _

/-- **The grid after a held-back start and some controls**: the start and what the
escape byte breaks off are drawn, then the controls are performed. -/
theorem process_controls {g : G} {tail : Bytes} {ks : List Control}
    (htail : ∀ b ∈ tail, 0x80 ≤ b)
    (hne : ks ≠ [])
    (hplain : ∀ k ∈ ks, k.Plain) :
    ∃ left : List VteCall, (∀ call ∈ left, call.dispatches = false) ∧
      gridReadout (Vt100Parser.process g (tail ++ [esc])) = gridReadout (left.foldl perform g) ∧
      gridReadout (Vt100Parser.process g (tail ++ ks.flatMap Control.bytes)) =
        gridReadout ((ks.map Control.call).foldl perform (left.foldl perform g)) := by
  refine ⟨callsOver (parser g) tail ++
    (VteParser.advance (parserAfter (parser g) tail) esc).2, ?_, ?_, ?_⟩
  · intro call hcall
    rcases List.mem_append.mp hcall with hhigh | hleaving
    · exact forall_mem_callsOver
        (fun parser b hb => AsciiDispatch.high_calls parser b (htail b hb)) _ call hhigh
    · exact (ControlParser.leaving _ call hleaving).passive.1
  · have hlast : ∀ parser : Q, callsOver parser [esc] = (VteParser.advance parser esc).2 :=
      fun parser => (callsOver_cons parser esc []).trans (List.append_nil _)
    rw [LawfulCallGrid.readout_process, callsOver_append, hlast]
  · rw [LawfulCallGrid.readout_process, callsOver_append,
      callsOver_controls (swallows_after g tail) hne hplain, ← List.append_assoc, List.foldl_append]

end Runs

end CallGrid

end Server
end Rttx
