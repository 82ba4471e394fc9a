import Rttx.Server.Terminal

/-!
# A small terminal

An escape sequence parser and a one-line cell grid that behave like the real
ones on short texts without line breaks: printed characters, CSI and OSC
sequences, the erase-screen sequence and the alternate-screen switches.
Concrete schedules are run on it.

**Results.**
* `SampleGrid.lawful`: the small grid is lawful, so theorems about lawful
  grids apply to it.
-/

namespace Rttx
namespace Server

section SampleParser

/-- The states of the small parser; the sequences collect their bytes. -/
inductive SampleParser
  | ground
  | escape
  | csi (body : Bytes)
  | osc (body : Bytes)
deriving DecidableEq

namespace SampleParser

/-- A decimal parameter. -/
def number (digits : Bytes) : Nat :=
  digits.foldl (fun n b => 10 * n + (b.toNat - 0x30)) 0

/-- The parameters of a CSI body. -/
def csiParams (body : Bytes) : List (List Nat) :=
  let params := body.filter (fun b => 0x30 ≤ b && b ≤ 0x3b)
  if params = [] then
    []
  else
    (params.splitOn 0x3b).map (fun p => [number p])

/-- The intermediates of a CSI body, private markers included. -/
def csiIntermediates (body : Bytes) : Bytes :=
  body.filter (fun b => !(0x30 ≤ b && b ≤ 0x3b))

def advance : SampleParser → UInt8 → SampleParser × List VteCall
  | ground, byte =>
      if byte = esc then (escape, [])
      else if byte < 0x20 then (ground, [.execute byte])
      else (ground, [.print (Char.ofNat byte.toNat)])
  | escape, byte =>
      if byte = 0x5b then (csi [], [])
      else if byte = 0x5d then (osc [], [])
      else (ground, [.escDispatch [] false byte])
  | csi body, byte =>
      if 0x40 ≤ byte && byte ≤ 0x7e then
        (ground, [.csiDispatch (csiParams body) (csiIntermediates body) false
          (Char.ofNat byte.toNat)])
      else
        (csi (body ++ [byte]), [])
  | osc body, byte =>
      if byte = 0x07 then
        (ground, [.oscDispatch (body.splitOn 0x3b) true])
      else
        (osc (body ++ [byte]), [])

instance : VteParser SampleParser where
  new := ground
  advance := advance

end SampleParser

end SampleParser

section SampleGrid

/-- The small grid: its size, one line of text, and whether the alternate
screen is active. -/
structure SampleGrid where
  rows : Nat
  cols : Nat
  line : Bytes
  alternate : Bool
  parser : SampleParser
deriving DecidableEq

namespace SampleGrid

/-- One call of the parser. -/
def perform (g : SampleGrid) : VteCall → SampleGrid
  | .print c => { g with line := g.line ++ [c.toNat.toUInt8] }
  | .csiDispatch params intermediates _ action =>
      if action = 'J' then
        { g with line := [] }
      else if intermediates = bytesOf "?" ∧ (params = [[47]] ∨ params = [[1049]]) then
        { g with alternate := action = 'h' }
      else
        g
  | _ => g

def step (g : SampleGrid) (byte : UInt8) : SampleGrid :=
  let (parser, calls) := g.parser.advance byte
  calls.foldl perform { g with parser := parser }

def process (g : SampleGrid) (data : Bytes) : SampleGrid :=
  data.foldl step g

/-- The cell of a printed byte. -/
def textCell (byte : UInt8) : Cell :=
  ⟨String.ofList [Char.ofNat byte.toNat], false, .default, .default,
    false, false, false, false, false⟩

def blankCell : Cell :=
  ⟨"", false, .default, .default, false, false, false, false, false⟩

def cell (g : SampleGrid) (row col : Nat) : Option Cell :=
  if row < g.rows ∧ col < g.cols then
    match g.line[col]? with
    | some byte => if row = 0 then some (textCell byte) else some blankCell
    | none => some blankCell
  else
    none

instance : Vt100Parser SampleGrid where
  new := fun rows cols _ => ⟨rows, cols, [], false, .ground⟩
  process := process
  setSize := fun g rows cols => { g with rows := rows, cols := cols }
  setScrollback := fun g _ => g
  size := fun g => (g.rows, g.cols)
  scrollback := fun _ => 0
  alternateScreen := fun g => g.alternate
  cursorPosition := fun g => (0, g.line.length)
  cell := cell
  rowWrapped := fun _ _ => false
  contentsFormatted := fun g => g.line
  applicationKeypad := fun _ => false
  applicationCursor := fun _ => false
  bracketedPaste := fun _ => false
  mouseProtocolMode := fun _ => .none
  mouseProtocolEncoding := fun _ => .default
  hideCursor := fun _ => false

theorem perform_size (g : SampleGrid) (call : VteCall) :
    ((g.perform call).rows, (g.perform call).cols) = (g.rows, g.cols) := by
  cases call with
  | csiDispatch params intermediates ignore action =>
      simp only [perform]
      split
      · rfl
      · split <;> rfl
  | _ => rfl

/-- A fold of steps that keep the size keeps the size. -/
theorem foldl_size {α : Type} (f : SampleGrid → α → SampleGrid)
    (hf : ∀ g a, ((f g a).rows, (f g a).cols) = (g.rows, g.cols))
    (items : List α)
    (g : SampleGrid) :
    ((items.foldl f g).rows, (items.foldl f g).cols) = (g.rows, g.cols) := by
  induction items generalizing g with
  | nil => rfl
  | cons a rest ih =>
      rw [List.foldl_cons, ih]
      exact hf g a

instance lawful : LawfulGrid SampleGrid where
  size_new := fun _ _ _ => rfl
  size_process := fun g data =>
    foldl_size step
      (fun g byte => foldl_size perform perform_size (g.parser.advance byte).2 _) data g
  size_setSize := fun _ _ _ => rfl

end SampleGrid

end SampleGrid

end Server
end Rttx
