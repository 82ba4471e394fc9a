import Mathlib.Algebra.Ring.Nat
import Mathlib.Data.Int.Order.Basic

/-!
# Kernel: machine numbers

Fixed-width formats.

Unsigned 64-bit counters are natural numbers with a saturating increment.

Binary32 floating-point numbers are their 32-bit pattern.  Comparison follows
the format: it is false when an operand is not a number, it does not separate
the two zeros, and on the other values it is the order of sign and magnitude.

Binary64 numbers are patterns in the same way; widening from binary32 is exact.

**Results.**
* `saturatingAdd_lt`, `le_saturatingAdd`, `saturatingAdd_le_max`: the increment is strict exactly
  below the maximum.
* `F32.lt_irrefl`, `F32.lt_trans`: the comparison is a strict order.
* `F64.clamp_within`: a clamped number is not outside the bounds.
-/

namespace Rttx
namespace Kernel

section Counters

/-- The largest unsigned 64-bit integer. -/
def u64Max : Nat := 2 ^ 64 - 1

/-- Saturating addition of unsigned 64-bit integers. -/
def saturatingAdd (a b : Nat) : Nat :=
  min (a + b) u64Max

/-- The increment is strict exactly below the maximum. -/
theorem saturatingAdd_lt {a : Nat} :
    a < saturatingAdd a 1 ↔ a < u64Max := by
  unfold saturatingAdd
  omega

theorem le_saturatingAdd {a : Nat}
    (h : a ≤ u64Max) :
    a ≤ saturatingAdd a 1 := by
  unfold saturatingAdd
  omega

theorem saturatingAdd_le_max (a b : Nat) :
    saturatingAdd a b ≤ u64Max :=
  Nat.min_le_right _ _

end Counters

section Binary32

/-- A binary32 floating-point number, as its bit pattern. -/
structure F32 where
  bits : BitVec 32
deriving DecidableEq, Repr

namespace F32

def exponent (x : F32) : Nat :=
  x.bits.toNat / 2 ^ 23 % 2 ^ 8

def fraction (x : F32) : Nat :=
  x.bits.toNat % 2 ^ 23

/-- The pattern without its sign bit. -/
def magnitude (x : F32) : Nat :=
  x.bits.toNat % 2 ^ 31

def isNegative (x : F32) : Bool :=
  2 ^ 31 ≤ x.bits.toNat

def isFinite (x : F32) : Bool :=
  x.exponent != 255

def isNaN (x : F32) : Bool :=
  x.exponent == 255 && x.fraction != 0

/-- Sign and magnitude as an integer: the order of the values that are numbers. -/
def key (x : F32) : Int :=
  if x.isNegative then -(x.magnitude : Int) else (x.magnitude : Int)

/-- The ordered comparison `<`. -/
def lt (x y : F32) : Bool :=
  !x.isNaN && !y.isNaN && decide (x.key < y.key)

def zero : F32 := ⟨0⟩
def half : F32 := ⟨0x3F000000#32⟩
def one : F32 := ⟨0x3F800000#32⟩

theorem lt_irrefl (x : F32) : x.lt x = false := by
  simp [lt]

theorem lt_trans {x y z : F32}
    (hxy : x.lt y = true)
    (hyz : y.lt z = true) :
    x.lt z = true := by
  simp only [lt, Bool.and_eq_true, decide_eq_true_eq] at hxy hyz ⊢
  exact ⟨⟨hxy.1.1, hyz.1.2⟩, Int.lt_trans hxy.2 hyz.2⟩

example : zero.lt half = true ∧ half.lt one = true ∧ one.lt ⟨0x7FC00000#32⟩ = false := by
  decide

end F32

end Binary32

section Binary64

/-- A binary64 floating-point number, as its bit pattern. -/
structure F64 where
  bits : BitVec 64
deriving DecidableEq, Repr

namespace F64

def exponent (x : F64) : Nat :=
  x.bits.toNat / 2 ^ 52 % 2 ^ 11

def fraction (x : F64) : Nat :=
  x.bits.toNat % 2 ^ 52

/-- The pattern without its sign bit. -/
def magnitude (x : F64) : Nat :=
  x.bits.toNat % 2 ^ 63

def isNegative (x : F64) : Bool :=
  2 ^ 63 ≤ x.bits.toNat

def isNaN (x : F64) : Bool :=
  x.exponent == 2047 && x.fraction != 0

/-- Sign and magnitude as an integer: the order of the values that are numbers. -/
def key (x : F64) : Int :=
  if x.isNegative then -(x.magnitude : Int) else (x.magnitude : Int)

/-- The ordered comparison `<`. -/
def lt (x y : F64) : Bool :=
  !x.isNaN && !y.isNaN && decide (x.key < y.key)

/-- The value restricted to the bounds; what is not a number stays so. -/
def clamp (x lo hi : F64) : F64 :=
  let x := if x.lt lo then lo else x
  if hi.lt x then hi else x

theorem lt_irrefl (x : F64) : x.lt x = false := by
  simp [lt]

/-- A clamped number is neither below the lower bound nor above the upper one. -/
theorem clamp_within {lo hi : F64}
    (hbounds : hi.lt lo = false)
    (x : F64) :
    (x.clamp lo hi).lt lo = false ∧ hi.lt (x.clamp lo hi) = false := by
  cases hlo : x.lt lo with
  | true => simp [clamp, hlo, hbounds, lt_irrefl]
  | false =>
      cases hhi : hi.lt x with
      | true => simp [clamp, hlo, hhi, hbounds, lt_irrefl]
      | false => simp [clamp, hlo, hhi]

end F64

/-- Widening.  Subnormal values become normal, and a value that is not a number
becomes quiet. -/
def F32.toF64 (x : F32) : F64 :=
  let sign := if x.isNegative then 2 ^ 63 else 0
  let magnitude :=
    if x.exponent = 255 then
      2047 * 2 ^ 52 + (if x.fraction = 0 then 0 else x.fraction % 2 ^ 22 * 2 ^ 29 + 2 ^ 51)
    else if x.exponent = 0 then
      if x.fraction = 0 then
        0
      else
        let top := Nat.log2 x.fraction
        (top + 874) * 2 ^ 52 + (x.fraction - 2 ^ top) * 2 ^ (52 - top)
    else
      (x.exponent + 896) * 2 ^ 52 + x.fraction * 2 ^ 29
  ⟨BitVec.ofNat 64 (sign + magnitude)⟩

example :
    F32.half.toF64 = ⟨0x3FE0000000000000#64⟩ ∧
      (⟨0x00000001#32⟩ : F32).toF64 = ⟨0x36A0000000000000#64⟩ ∧
      (⟨0xBF800000#32⟩ : F32).toF64 = ⟨0xBFF0000000000000#64⟩ := by
  decide

end Binary64

end Kernel
end Rttx
