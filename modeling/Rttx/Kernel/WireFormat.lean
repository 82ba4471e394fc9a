import Mathlib.Algebra.Ring.Int.Defs
import Mathlib.Algebra.Ring.Nat
import Mathlib.Data.List.Basic

/-!
# Kernel: fields of the protobuf wire format

A message is the concatenation of its fields.  A field is a key, made of its number
and its wire type, and a value: a variable-length integer, a byte string with its
length in front, or four fixed bytes.  A field that holds its default is left out.

With every encoder comes the size of what it produces, as a function of the field's
number and of the size of its value.

**Results.**
* `varint_length`, `uint64Field_length`, `bytesField_length`, … : the sizes.
* `le_bytesFieldSize`, `le_messageFieldSize`: a field is at least as long as its
  value.
-/

namespace Rttx
namespace Kernel
namespace Wire

universe u

section Integers

/-- Seven bits to a byte, the lowest first; the high bit says that more follow. -/
def varint (n : Nat) : List UInt8 :=
  if n < 128 then
    [UInt8.ofNat n]
  else
    UInt8.ofNat (n % 128 + 128) :: varint (n / 128)
decreasing_by omega

def varintSize (n : Nat) : Nat :=
  if n < 128 then 1 else varintSize (n / 128) + 1
decreasing_by omega

@[simp] theorem varint_length (n : Nat) : (varint n).length = varintSize n := by
  induction n using varint.induct with
  | case1 n h => rw [varint, varintSize, if_pos h, if_pos h, List.length_singleton]
  | case2 n h ih => rw [varint, varintSize, if_neg h, if_neg h, List.length_cons, ih]

end Integers

section Fields

/-- A field's number and its wire type. -/
def fieldKey (number wireType : Nat) : List UInt8 :=
  varint (8 * number + wireType)

def fieldKeySize (number wireType : Nat) : Nat :=
  varintSize (8 * number + wireType)

@[simp] theorem fieldKey_length (number wireType : Nat) :
    (fieldKey number wireType).length = fieldKeySize number wireType :=
  varint_length _

/-- An unsigned integer; also an enumeration. -/
def uint64Field (number value : Nat) : List UInt8 :=
  if value = 0 then [] else fieldKey number 0 ++ varint value

def uint64FieldSize (number value : Nat) : Nat :=
  if value = 0 then 0 else fieldKeySize number 0 + varintSize value

@[simp] theorem uint64Field_length (number value : Nat) :
    (uint64Field number value).length = uint64FieldSize number value := by
  unfold uint64Field uint64FieldSize
  split
  · rfl
  · rw [List.length_append, fieldKey_length, varint_length]

def boolField (number : Nat) (value : Bool) : List UInt8 :=
  uint64Field number value.toNat

/-- A signed integer, extended to 64 bits; written also when it is zero. -/
def optionalInt32Field (number : Nat) : Option Int → List UInt8
  | none => []
  | some value => fieldKey number 0 ++ varint (value % 2 ^ 64).toNat

def optionalInt32FieldSize (number : Nat) : Option Int → Nat
  | none => 0
  | some value => fieldKeySize number 0 + varintSize (value % 2 ^ 64).toNat

@[simp] theorem optionalInt32Field_length (number : Nat) (value : Option Int) :
    (optionalInt32Field number value).length = optionalInt32FieldSize number value := by
  cases value with
  | none => rfl
  | some value => simp [optionalInt32Field, optionalInt32FieldSize]

/-- A binary32 number, by its bits; both zeros are the default. -/
def floatField (number : Nat) (bits : BitVec 32) : List UInt8 :=
  if bits.toNat % 2 ^ 31 = 0 then
    []
  else
    fieldKey number 5 ++ [UInt8.ofNat bits.toNat, UInt8.ofNat (bits.toNat / 2 ^ 8),
      UInt8.ofNat (bits.toNat / 2 ^ 16), UInt8.ofNat (bits.toNat / 2 ^ 24)]

def floatFieldSize (number : Nat) (bits : BitVec 32) : Nat :=
  if bits.toNat % 2 ^ 31 = 0 then 0 else fieldKeySize number 5 + 4

@[simp] theorem floatField_length (number : Nat) (bits : BitVec 32) :
    (floatField number bits).length = floatFieldSize number bits := by
  unfold floatField floatFieldSize
  split
  · rfl
  · rw [List.length_append, fieldKey_length]
    rfl

/-- An embedded message; written also when it is empty. -/
def messageField (number : Nat) (body : List UInt8) : List UInt8 :=
  fieldKey number 2 ++ varint body.length ++ body

/-- The size of a message field whose message takes `size` bytes. -/
def messageFieldSize (number size : Nat) : Nat :=
  fieldKeySize number 2 + varintSize size + size

@[simp] theorem messageField_length (number : Nat) (body : List UInt8) :
    (messageField number body).length = messageFieldSize number body.length := by
  simp [messageField, messageFieldSize, Nat.add_assoc]

theorem le_messageFieldSize (number size : Nat) : size ≤ messageFieldSize number size :=
  Nat.le_add_left _ _

/-- A byte string. -/
def bytesField (number : Nat) (value : List UInt8) : List UInt8 :=
  if value = [] then [] else messageField number value

def bytesFieldSize (number size : Nat) : Nat :=
  if size = 0 then 0 else messageFieldSize number size

@[simp] theorem bytesField_length (number : Nat) (value : List UInt8) :
    (bytesField number value).length = bytesFieldSize number value.length := by
  unfold bytesField bytesFieldSize
  by_cases h : value = []
  · rw [if_pos h, if_pos (List.length_eq_zero_iff.mpr h), List.length_nil]
  · rw [if_neg h, if_neg (fun hlen => h (List.length_eq_zero_iff.mp hlen)),
      messageField_length]

theorem le_bytesFieldSize (number size : Nat) : size ≤ bytesFieldSize number size := by
  unfold bytesFieldSize
  split
  · omega
  · exact le_messageFieldSize number size

/-- A string, in UTF-8. -/
def stringField (number : Nat) (value : String) : List UInt8 :=
  bytesField number value.toUTF8.data.toList

@[simp] theorem stringField_length (number : Nat) (value : String) :
    (stringField number value).length = bytesFieldSize number value.utf8ByteSize :=
  bytesField_length _ _

variable {α : Type u}

/-- A repeated field of messages. -/
def repeatedField (number : Nat) (encode : α → List UInt8) (values : List α) : List UInt8 :=
  values.flatMap (fun value => messageField number (encode value))

@[simp] theorem repeatedField_length (number : Nat) (encode : α → List UInt8)
    (values : List α) :
    (repeatedField number encode values).length =
      (values.map (fun value => messageFieldSize number (encode value).length)).sum := by
  simp [repeatedField, List.length_flatMap]

end Fields

end Wire
end Kernel
end Rttx
