import Mathlib.Algebra.Ring.Nat
import Mathlib.Data.List.Basic

/-!
# Kernel: files of records

A file that is read and written in place, by blocks of bytes at an offset, and integers
that are stored with their lowest byte first.

**Results.**
* `readExactAt_writeAt`: what was written is read back.
* `readExactAt_writeAt_take`: of a write that is interrupted the beginning is read, and
  what was there before.
* `readExactAt_writeAt_of_disjoint`: a write leaves the other blocks alone.
* `ofLittleEndian_littleEndian`: an integer that fits is read back.
-/

namespace Rttx
namespace Kernel

universe u

/-- So many bytes. -/
abbrev Block (length : Nat) :=
  { bytes : List UInt8 // bytes.length = length }

section Blocks

/-- The bytes of a block from an offset on. -/
def Block.slice {length : Nat} (block : Block length) (offset count : Nat) : List UInt8 :=
  (block.val.drop offset).take count

/-- A part of a block that lies behind so many bytes. -/
theorem Block.slice_eq {length offset count : Nat} {block : Block length}
    {before part after : List UInt8}
    (hblock : block.val = before ++ (part ++ after))
    (hoffset : before.length = offset)
    (hcount : part.length = count) :
    block.slice offset count = part := by
  subst hoffset hcount
  rw [slice, hblock, List.drop_left, List.take_left]

/-- Write into a file at an offset. -/
def writeAt (file : List UInt8) (offset : Nat) (bytes : List UInt8) : List UInt8 :=
  file.take offset ++ bytes ++ file.drop (offset + bytes.length)

/-- Read a block at an offset, unless the file ends before. -/
def readExactAt (file : List UInt8) (offset length : Nat) : Option (Block length) :=
  if h : offset + length ≤ file.length then
    some ⟨(file.drop offset).take length, by
      rw [List.length_take, List.length_drop]
      omega⟩
  else
    none

theorem readExactAt_eq_some_iff {file : List UInt8} {offset length : Nat} {block : Block length} :
    readExactAt file offset length = some block ↔
      offset + length ≤ file.length ∧ (file.drop offset).take length = block.val := by
  rw [readExactAt]
  split
  · rename_i h
    rw [Option.some.injEq, Subtype.ext_iff]
    exact (and_iff_right h).symm
  · rename_i h
    exact iff_of_false (fun hread => by cases hread) fun hread => h hread.1

variable {file bytes : List UInt8} {offset : Nat}

/-- A write within a file leaves its length. -/
theorem length_writeAt
    (h : offset + bytes.length ≤ file.length) :
    (writeAt file offset bytes).length = file.length := by
  simp only [writeAt, List.length_append, List.length_take, List.length_drop]
  omega

theorem getElem?_writeAt
    (h : offset + bytes.length ≤ file.length)
    (i : Nat) :
    (writeAt file offset bytes)[i]? =
      if i < offset then file[i]?
      else if i < offset + bytes.length then bytes[i - offset]?
      else file[i]? := by
  have hlength : (file.take offset).length = offset := by
    rw [List.length_take]
    omega
  rw [writeAt, List.append_assoc]
  by_cases hbefore : i < offset
  · rw [if_pos hbefore, List.getElem?_append_left (by omega), List.getElem?_take_of_lt hbefore]
  · rw [if_neg hbefore, List.getElem?_append_right (by omega), hlength]
    by_cases hwithin : i < offset + bytes.length
    · rw [if_pos hwithin, List.getElem?_append_left (by omega)]
    · rw [if_neg hwithin, List.getElem?_append_right (by omega), List.getElem?_drop]
      congr 1
      omega

/-- What is before a write stays. -/
theorem take_writeAt {count : Nat}
    (h : offset + bytes.length ≤ file.length)
    (hcount : count ≤ offset) :
    (writeAt file offset bytes).take count = file.take count := by
  rw [writeAt, List.append_assoc, List.take_append_of_le_length, List.take_take,
    Nat.min_eq_left hcount]
  rw [List.length_take]
  omega

/-- **What was written is read back.** -/
theorem readExactAt_writeAt {length : Nat} {block : Block length}
    (h : offset + length ≤ file.length) :
    readExactAt (writeAt file offset block.val) offset length = some block := by
  obtain ⟨bytes, rfl⟩ := block
  rw [readExactAt_eq_some_iff, length_writeAt h]
  refine ⟨h, ?_⟩
  have hlength : (file.take offset).length = offset := by
    rw [List.length_take]
    omega
  rw [writeAt, List.append_assoc, List.drop_append_of_le_length (by omega),
    List.drop_eq_nil_of_le (by omega), List.nil_append, List.take_left']
  rfl

/-- A block that has overwritten the beginning of another one. -/
def Block.tear {length : Nat} (new old : Block length) (written : Nat) : Block length :=
  ⟨new.val.take written ++ old.val.drop written, by
    rw [List.length_append, List.length_take, List.length_drop, new.property, old.property]
    omega⟩

@[simp] theorem Block.tear_zero {length : Nat} (new old : Block length) : new.tear old 0 = old :=
  rfl

@[simp] theorem Block.tear_length {length : Nat} (new old : Block length) :
    new.tear old length = new := by
  refine Subtype.ext ?_
  change new.val.take length ++ old.val.drop length = new.val
  rw [List.take_of_length_le (Nat.le_of_eq new.property),
    List.drop_eq_nil_of_le (Nat.le_of_eq old.property), List.append_nil]

/-- **An interrupted write** tears its block. -/
theorem readExactAt_writeAt_take {length : Nat} {new old : Block length}
    (h : readExactAt file offset length = some old)
    (written : Nat) :
    readExactAt (writeAt file offset (new.val.take written)) offset length =
      some (new.tear old written) := by
  obtain ⟨hfits, hold⟩ := readExactAt_eq_some_iff.mp h
  have htake : (new.val.take written).length = min written length := by
    rw [List.length_take, new.property]
  have hlength : (file.take offset).length = offset := by
    rw [List.length_take]
    omega
  have hrest : ((file.drop offset).take length).drop (min written length) =
      old.val.drop written := by
    rw [hold]
    by_cases hle : written ≤ length
    · rw [Nat.min_eq_left hle]
    · rw [Nat.min_eq_right (by omega), List.drop_eq_nil_of_le (Nat.le_of_eq old.property),
        List.drop_eq_nil_of_le (by rw [old.property]; omega)]
  rw [readExactAt_eq_some_iff, length_writeAt (by rw [htake]; omega)]
  refine ⟨hfits, ?_⟩
  rw [writeAt, List.append_assoc, List.drop_append_of_le_length (by omega),
    List.drop_eq_nil_of_le (by omega), List.nil_append, List.take_append, htake,
    List.take_of_length_le (by rw [htake]; omega)]
  rw [List.drop_take, List.drop_drop] at hrest
  rw [hrest]
  rfl

/-- **A write leaves the blocks before and behind it alone.** -/
theorem readExactAt_writeAt_of_disjoint {other length : Nat}
    (h : offset + bytes.length ≤ file.length)
    (hdisjoint : other + length ≤ offset ∨ offset + bytes.length ≤ other) :
    readExactAt (writeAt file offset bytes) other length = readExactAt file other length := by
  have hbytes : ((writeAt file offset bytes).drop other).take length =
      (file.drop other).take length := by
    refine List.ext_getElem? fun i => ?_
    rw [List.getElem?_take, List.getElem?_take, List.getElem?_drop, List.getElem?_drop]
    by_cases hi : i < length
    · rw [if_pos hi, if_pos hi, getElem?_writeAt h]
      obtain hother | hother := hdisjoint
      · rw [if_pos (by omega)]
      · rw [if_neg (by omega), if_neg (by omega)]
    · rw [if_neg hi, if_neg hi]
  have hiff : ∀ block, readExactAt (writeAt file offset bytes) other length = some block ↔
      readExactAt file other length = some block := by
    intro block
    rw [readExactAt_eq_some_iff, readExactAt_eq_some_iff, length_writeAt h, hbytes]
  exact Option.ext hiff

end Blocks

section Integers

/-- An integer in so many bytes, the lowest first. -/
def littleEndian : (count : Nat) → Nat → List UInt8
  | 0, _ => []
  | count + 1, n => UInt8.ofNat n :: littleEndian count (n / 256)

def ofLittleEndian : List UInt8 → Nat
  | [] => 0
  | b :: rest => b.toNat + 256 * ofLittleEndian rest

@[simp] theorem length_littleEndian (count n : Nat) :
    (littleEndian count n).length = count := by
  induction count generalizing n with
  | zero => rfl
  | succ count ih => rw [littleEndian, List.length_cons, ih]

/-- **An integer that fits is read back.** -/
theorem ofLittleEndian_littleEndian {count n : Nat}
    (h : n < 256 ^ count) :
    ofLittleEndian (littleEndian count n) = n := by
  induction count generalizing n with
  | zero =>
      rw [Nat.pow_zero, Nat.lt_one_iff] at h
      rw [h]
      rfl
  | succ count ih =>
      have hrest : n / 256 < 256 ^ count := by
        rw [Nat.div_lt_iff_lt_mul (by decide), ← Nat.pow_succ]
        exact h
      rw [littleEndian, ofLittleEndian, ih hrest, UInt8.toNat_ofNat']
      omega

end Integers

end Kernel
end Rttx
