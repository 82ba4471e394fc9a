import Rttx.Kernel.WireFormat

/-!
# Kernel: reading the protobuf wire format

A reader takes a message apart into its fields, each a number with a value of one of
the wire types, whatever the message means; what a field is good for is decided
afterwards, by its number.  An integer takes at most ten bytes and is below 2^64.

There are no groups here: the reader rejects them.

**Results.**
* `readUInt64_varint`, `readField_encode`: what was written is read, and what stands
  behind it is left.
* `readMessage_encode`: the fields of a message are read back.
-/

namespace Rttx
namespace Kernel
namespace Wire

universe u

section Sequences

variable {α : Type u}

/-- Read values one behind the other, up to the end of the input. -/
def readMany (read : List UInt8 → Option (α × List UInt8)) :
    (fuel : Nat) → List UInt8 → Option (List α)
  | _, [] => some []
  | 0, _ => none
  | fuel + 1, input =>
      (read input).bind fun first =>
        (readMany read fuel first.2).map (first.1 :: ·)

/-- Where every value takes a byte, there are no more values than bytes. -/
theorem length_le_flatMap {write : α → List UInt8}
    (h : ∀ value, write value ≠ [])
    (values : List α) :
    values.length ≤ (values.flatMap write).length := by
  induction values with
  | nil => exact Nat.le_refl 0
  | cons value values ih =>
      have hpos : 0 < (write value).length := List.length_pos_iff.mpr (h value)
      rw [List.flatMap_cons, List.length_append, List.length_cons]
      omega

/-- **Values are read back one by one** where the reader stops behind each of them. -/
theorem readMany_flatMap {read : List UInt8 → Option (α × List UInt8)}
    {write : α → List UInt8} {values : List α}
    (hne : ∀ value, write value ≠ [])
    (hread : ∀ value ∈ values, ∀ rest, read (write value ++ rest) = some (value, rest)) :
    readMany read (values.flatMap write).length (values.flatMap write) = some values := by
  have hfuel : ∀ fuel, values.length ≤ fuel →
      readMany read fuel (values.flatMap write) = some values := by
    induction values with
    | nil => exact fun fuel _ => by cases fuel <;> rfl
    | cons value values ih =>
        intro fuel hle
        cases fuel with
        | zero => cases hle
        | succ fuel =>
            rw [List.forall_mem_cons] at hread
            obtain ⟨b, bytes, hbytes⟩ := List.exists_cons_of_ne_nil (hne value)
            have hone := hread.1 (values.flatMap write)
            rw [List.flatMap_cons]
            rw [hbytes, List.cons_append] at hone ⊢
            rw [readMany, hone, Option.bind_some, ih hread.2 fuel (Nat.le_of_succ_le_succ hle)]
            · rfl
            · exact List.cons_ne_nil _ _
  exact hfuel _ (length_le_flatMap hne values)

end Sequences

section Integers

/-- Read seven bits from a byte, the lowest first, from at most `n` bytes. -/
def readVarint : (n : Nat) → List UInt8 → Option (Nat × List UInt8)
  | 0, _ => none
  | _ + 1, [] => none
  | n + 1, b :: rest =>
      if b.toNat < 128 then
        some (b.toNat, rest)
      else
        (readVarint n rest).map fun read => (b.toNat - 128 + 128 * read.1, read.2)

/-- Read an integer of 64 bits. -/
def readUInt64 (input : List UInt8) : Option (Nat × List UInt8) :=
  (readVarint 10 input).filter fun read => read.1 < 2 ^ 64

theorem readVarint_varint {k n : Nat}
    (h : n < 128 ^ (k + 1))
    (rest : List UInt8) :
    readVarint (k + 1) (varint n ++ rest) = some (n, rest) := by
  induction k generalizing n with
  | zero =>
      rw [Nat.zero_add, Nat.pow_one] at h
      have hbyte : (UInt8.ofNat n).toNat = n := by
        rw [UInt8.toNat_ofNat', Nat.mod_eq_of_lt (by omega)]
      rw [varint, if_pos h, List.singleton_append, readVarint, hbyte, if_pos h]
  | succ k ih =>
      rw [varint]
      by_cases hsmall : n < 128
      · have hbyte : (UInt8.ofNat n).toNat = n := by
          rw [UInt8.toNat_ofNat', Nat.mod_eq_of_lt (by omega)]
        rw [if_pos hsmall, List.singleton_append, readVarint, hbyte, if_pos hsmall]
      · have hbyte : (UInt8.ofNat (n % 128 + 128)).toNat = n % 128 + 128 := by
          rw [UInt8.toNat_ofNat', Nat.mod_eq_of_lt (by omega)]
        have hrest : n / 128 < 128 ^ (k + 1) := by
          rw [Nat.div_lt_iff_lt_mul (by decide), ← Nat.pow_succ]
          exact h
        rw [if_neg hsmall, List.cons_append, readVarint, hbyte, if_neg (by omega), ih hrest,
          Option.map_some]
        have hvalue : n % 128 + 128 - 128 + 128 * (n / 128) = n := by omega
        rw [hvalue]

/-- **An integer is read back.** -/
theorem readUInt64_varint {n : Nat}
    (h : n < 2 ^ 64)
    (rest : List UInt8) :
    readUInt64 (varint n ++ rest) = some (n, rest) := by
  have hgroups : n < 128 ^ (9 + 1) := Nat.lt_trans h (by decide)
  rw [readUInt64, readVarint_varint hgroups, Option.filter_some, if_pos (by simpa using h)]

theorem varint_ne_nil (n : Nat) : varint n ≠ [] := by
  rw [varint]
  split <;> exact List.cons_ne_nil _ _

/-- The integers of a packed field. -/
def readPacked (input : List UInt8) : Option (List Nat) :=
  readMany readUInt64 input.length input

/-- **Packed integers are read back.** -/
theorem readPacked_flatMap {values : List Nat}
    (h : ∀ n ∈ values, n < 2 ^ 64) :
    readPacked (values.flatMap varint) = some values :=
  readMany_flatMap varint_ne_nil fun n hn => readUInt64_varint (h n hn)

end Integers

section Fields

/-- The value of a field, by its wire type. -/
inductive WireValue
  | varint (n : Nat)
  | fixed64 (bytes : List UInt8)
  | bytes (bytes : List UInt8)
  | fixed32 (bytes : List UInt8)
deriving DecidableEq, Repr

/-- A field of a message. -/
structure WireField where
  number : Nat
  value : WireValue
deriving DecidableEq, Repr

namespace WireField

/-- Write a field: its key, and its value. -/
def encode (field : WireField) : List UInt8 :=
  match field.value with
  | .varint n => fieldKey field.number 0 ++ Wire.varint n
  | .fixed64 bytes => fieldKey field.number 1 ++ bytes
  | .bytes bytes => messageField field.number bytes
  | .fixed32 bytes => fieldKey field.number 5 ++ bytes

/-- What fits a key and a value. -/
structure Fits (field : WireField) : Prop where
  number_pos : 0 < field.number
  number_lt : field.number < 2 ^ 29
  varint : ∀ n, field.value = .varint n → n < 2 ^ 64
  bytes : ∀ b, field.value = .bytes b → b.length < 2 ^ 64
  fixed64 : ∀ b, field.value = .fixed64 b → b.length = 8
  fixed32 : ∀ b, field.value = .fixed32 b → b.length = 4

theorem encode_ne_nil (field : WireField) : field.encode ≠ [] := by
  have hkey : ∀ wireType tail, fieldKey field.number wireType ++ tail ≠ [] :=
    fun wireType tail => List.append_ne_nil_of_left_ne_nil (varint_ne_nil _) tail
  rw [encode]
  cases field.value with
  | varint n => exact hkey 0 _
  | fixed64 bytes => exact hkey 1 _
  | bytes bytes => exact fun h => hkey 2 _ ((List.append_assoc _ _ _).symm.trans h)
  | fixed32 bytes => exact hkey 5 _

end WireField

/-- Take a value of fixed length. -/
def readFixed (length : Nat) (input : List UInt8) : Option (List UInt8 × List UInt8) :=
  if length ≤ input.length then some (input.take length, input.drop length) else none

theorem readFixed_append {length : Nat} {bytes : List UInt8}
    (h : bytes.length = length)
    (rest : List UInt8) :
    readFixed length (bytes ++ rest) = some (bytes, rest) := by
  subst h
  rw [readFixed, if_pos (by simp), List.take_left, List.drop_left]

/-- Read the value of a field of a wire type. -/
def readValue (wireType : Nat) (input : List UInt8) : Option (WireValue × List UInt8) :=
  match wireType with
  | 0 => (readUInt64 input).map (Prod.map .varint id)
  | 1 => (readFixed 8 input).map (Prod.map .fixed64 id)
  | 2 => (readUInt64 input).bind fun len => (readFixed len.1 len.2).map (Prod.map .bytes id)
  | 5 => (readFixed 4 input).map (Prod.map .fixed32 id)
  | _ => none

/-- Read a field; a key takes 32 bits, and no field has the number zero. -/
def readField (input : List UInt8) : Option (WireField × List UInt8) :=
  (readUInt64 input).bind fun key =>
    if key.1 < 8 ∨ 2 ^ 32 ≤ key.1 then none
    else (readValue (key.1 % 8) key.2).map (Prod.map (WireField.mk (key.1 / 8)) id)

/-- Behind its key the value of a field is read. -/
theorem readField_key {number wireType : Nat} {value : WireValue} {bytes rest : List UInt8}
    (hpos : 0 < number)
    (hlt : number < 2 ^ 29)
    (htype : wireType < 8)
    (hvalue : readValue wireType bytes = some (value, rest)) :
    readField (fieldKey number wireType ++ bytes) = some (⟨number, value⟩, rest) := by
  have hkey : ¬ (8 * number + wireType < 8 ∨ 2 ^ 32 ≤ 8 * number + wireType) := by omega
  have hmod : (8 * number + wireType) % 8 = wireType := by omega
  have hdiv : (8 * number + wireType) / 8 = number := by omega
  rw [readField, fieldKey, readUInt64_varint (by omega), Option.bind_some]
  simp only [if_neg hkey, hmod, hdiv, hvalue, Option.map_some, Prod.map, id]

/-- **A field is read back**, and what follows it is left. -/
theorem readField_encode {field : WireField}
    (h : field.Fits)
    (rest : List UInt8) :
    readField (field.encode ++ rest) = some (field, rest) := by
  obtain ⟨number, value⟩ := field
  cases value with
  | varint n =>
      rw [WireField.encode, List.append_assoc]
      refine readField_key h.number_pos h.number_lt (by decide) ?_
      rw [readValue, readUInt64_varint (h.varint n rfl)]
      rfl
  | fixed64 bytes =>
      rw [WireField.encode, List.append_assoc]
      refine readField_key h.number_pos h.number_lt (by decide) ?_
      rw [readValue, readFixed_append (h.fixed64 bytes rfl)]
      rfl
  | bytes bytes =>
      change readField (fieldKey number 2 ++ Wire.varint bytes.length ++ bytes ++ rest) = _
      rw [List.append_assoc, List.append_assoc]
      refine readField_key h.number_pos h.number_lt (by decide) ?_
      rw [readValue, readUInt64_varint (h.bytes bytes rfl), Option.bind_some,
        readFixed_append rfl]
      rfl
  | fixed32 bytes =>
      rw [WireField.encode, List.append_assoc]
      refine readField_key h.number_pos h.number_lt (by decide) ?_
      rw [readValue, readFixed_append (h.fixed32 bytes rfl)]
      rfl

/-- Read the fields of a message. -/
def readMessage (input : List UInt8) : Option (List WireField) :=
  readMany readField input.length input

/-- **The fields of a message are read back.** -/
theorem readMessage_encode {fields : List WireField}
    (h : ∀ field ∈ fields, field.Fits) :
    readMessage (fields.flatMap WireField.encode) = some fields :=
  readMany_flatMap WireField.encode_ne_nil fun field hfield => readField_encode (h field hfield)

/-- An integer field, left out when it is zero, as the fields that are written. -/
def uint64Fields (number value : Nat) : List WireField :=
  if value = 0 then [] else [⟨number, .varint value⟩]

theorem uint64Field_eq (number value : Nat) :
    uint64Field number value = (uint64Fields number value).flatMap WireField.encode := by
  rw [uint64Field, uint64Fields]
  split
  · rfl
  · exact (List.append_nil _).symm

/-- A byte string, left out when it is empty. -/
def bytesFields (number : Nat) (value : List UInt8) : List WireField :=
  if value = [] then [] else [⟨number, .bytes value⟩]

theorem bytesField_eq (number : Nat) (value : List UInt8) :
    bytesField number value = (bytesFields number value).flatMap WireField.encode := by
  rw [bytesField, bytesFields]
  split
  · rfl
  · exact (List.append_nil _).symm

variable {σ : Type u} {merge : σ → WireField → Option σ} {s s' : σ}

theorem fits_uint64Fields {number value : Nat}
    (hpos : 0 < number)
    (hlt : number < 2 ^ 29)
    (hvalue : value < 2 ^ 64) :
    ∀ field ∈ uint64Fields number value, field.Fits := by
  intro field hfield
  rw [uint64Fields] at hfield
  split at hfield
  · cases hfield
  · rw [List.mem_singleton.mp hfield]
    exact ⟨hpos, hlt, fun n hn => WireValue.varint.inj hn ▸ hvalue, (fun _ h => by cases h),
      (fun _ h => by cases h), (fun _ h => by cases h)⟩

theorem fits_bytesFields {number : Nat} {value : List UInt8}
    (hpos : 0 < number)
    (hlt : number < 2 ^ 29)
    (hvalue : value.length < 2 ^ 64) :
    ∀ field ∈ bytesFields number value, field.Fits := by
  intro field hfield
  rw [bytesFields] at hfield
  split at hfield
  · cases hfield
  · rw [List.mem_singleton.mp hfield]
    exact ⟨hpos, hlt, (fun _ h => by cases h), fun b hb => WireValue.bytes.inj hb ▸ hvalue,
      (fun _ h => by cases h), (fun _ h => by cases h)⟩

/-- Taking in an integer field; where it is left out its value is the default. -/
theorem foldlM_uint64Fields {number value : Nat}
    (hzero : value = 0 → s' = s)
    (hmerge : merge s ⟨number, .varint value⟩ = some s') :
    (uint64Fields number value).foldlM merge s = some s' := by
  rw [uint64Fields]
  split
  · rename_i h
    rw [hzero h]
    rfl
  · rw [List.foldlM_cons, hmerge]
    rfl

theorem foldlM_bytesFields {number : Nat} {value : List UInt8}
    (hnil : value = [] → s' = s)
    (hmerge : merge s ⟨number, .bytes value⟩ = some s') :
    (bytesFields number value).foldlM merge s = some s' := by
  rw [bytesFields]
  split
  · rename_i h
    rw [hnil h]
    rfl
  · rw [List.foldlM_cons, hmerge]
    rfl

end Fields

end Wire
end Kernel
end Rttx
