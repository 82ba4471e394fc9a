import Mathlib.Algebra.Ring.Nat
import Mathlib.Data.List.Basic

/-!
# The terminal crates the daemon is built on

The daemon runs two third-party state machines over a pane's output: an escape
sequence parser that reports calls, and a cell grid.  Their code is not part
of the repository, so they are parameters of the model: a type of states with
the operations the daemon uses, named as the daemon names them.

**Results.**
* `LawfulGrid`: the documented behaviour of the grid's size.
-/

namespace Rttx
namespace Server

universe u

/-- A byte string. -/
abbrev Bytes := List UInt8

/-- The bytes of a string literal. -/
def bytesOf (s : String) : Bytes :=
  s.toUTF8.data.toList

def esc : UInt8 := 0x1b

section Parser

/-- One call of the escape sequence parser on its performer. -/
inductive VteCall
  | print (c : Char)
  | execute (byte : UInt8)
  | hook (params : List (List Nat)) (intermediates : Bytes) (ignore : Bool) (action : Char)
  | put (byte : UInt8)
  | unhook
  | oscDispatch (params : List Bytes) (bellTerminated : Bool)
  | csiDispatch (params : List (List Nat)) (intermediates : Bytes) (ignore : Bool)
      (action : Char)
  | escDispatch (intermediates : Bytes) (ignore : Bool) (byte : UInt8)
deriving DecidableEq

/-- The escape sequence parser: it consumes one byte and reports its calls. -/
class VteParser (P : Type u) where
  new : P
  advance : P → UInt8 → P × List VteCall

end Parser

section Grid

/-- A cell colour. -/
inductive Color
  | default
  | idx (n : Nat)
  | rgb (r g b : Nat)
deriving DecidableEq, Repr

/-- A grid cell. -/
structure Cell where
  contents : String
  isWideContinuation : Bool
  fgcolor : Color
  bgcolor : Color
  bold : Bool
  dim : Bool
  italic : Bool
  underline : Bool
  inverse : Bool
deriving DecidableEq, Repr

namespace Cell

def hasContents (cell : Cell) : Bool :=
  cell.contents != ""

end Cell

inductive MouseProtocolMode
  | none
  | press
  | pressRelease
  | buttonMotion
  | anyMotion
deriving DecidableEq, Repr

inductive MouseProtocolEncoding
  | default
  | utf8
  | sgr
deriving DecidableEq, Repr

/-- The cell grid.  Sizes are `(rows, cols)`. -/
class Vt100Parser (G : Type u) where
  new : (rows cols scrollbackLen : Nat) → G
  process : G → Bytes → G
  setSize : G → (rows cols : Nat) → G
  setScrollback : G → Nat → G
  size : G → Nat × Nat
  scrollback : G → Nat
  alternateScreen : G → Bool
  cursorPosition : G → Nat × Nat
  cell : G → (row col : Nat) → Option Cell
  rowWrapped : G → Nat → Bool
  contentsFormatted : G → Bytes
  applicationKeypad : G → Bool
  applicationCursor : G → Bool
  bracketedPaste : G → Bool
  mouseProtocolMode : G → MouseProtocolMode
  mouseProtocolEncoding : G → MouseProtocolEncoding
  hideCursor : G → Bool

/-- The grid has the size it is created with or set to, and no output changes
it: a resize request in the output goes to a callback that does nothing. -/
class LawfulGrid (G : Type u) [Vt100Parser G] : Prop where
  size_new : ∀ rows cols len : Nat,
    Vt100Parser.size (Vt100Parser.new rows cols len : G) = (rows, cols)
  size_process : ∀ (g : G) (data : Bytes),
    Vt100Parser.size (Vt100Parser.process g data) = Vt100Parser.size g
  size_setSize : ∀ (g : G) (rows cols : Nat),
    Vt100Parser.size (Vt100Parser.setSize g rows cols) = (rows, cols)

attribute [simp] LawfulGrid.size_new LawfulGrid.size_process LawfulGrid.size_setSize

end Grid

end Server
end Rttx
