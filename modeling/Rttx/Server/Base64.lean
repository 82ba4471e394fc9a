import Mathlib.Data.List.TakeWhile
import Rttx.Kernel.Sextets
import Rttx.Server.Osc52

/-!
# Base64 payloads

The payload of a clipboard write is decoded by hand.  Here standard base64 is
stated by its encoder, and the decoder compared with it.

The decoder takes padding for sextets of value zero and closes a group at the
end of the input however many of its sextets are padding; nor does it look at
the bits that the last sextet leaves over.

**Results.**
* `base64Decode_base64Encode`: what was encoded is decoded, padded or not.
* `base64Decode_exact_iff`: the decoder is exact on an input if and only if its
  padding is not stray and it leaves no bits over.
* `base64Decode_accepts_stray`: inputs that it decodes and should refuse.
-/

namespace Rttx
namespace Server

open Kernel

section Encoder

/-- The character of a sextet. -/
def base64Char (v : Nat) : UInt8 :=
  if v < 26 then UInt8.ofNat (0x41 + v)
  else if v < 52 then UInt8.ofNat (0x61 + (v - 26))
  else if v < 62 then UInt8.ofNat (0x30 + (v - 52))
  else if v = 62 then 0x2b
  else 0x2f

/-- Standard base64 with its padding left out. -/
def base64EncodeUnpadded (data : Bytes) : Bytes :=
  (sextets (data.map UInt8.toNat)).map base64Char

/-- Standard base64: padded to whole groups of four characters. -/
def base64Encode (data : Bytes) : Bytes :=
  base64EncodeUnpadded data ++
    List.replicate ((4 - (base64EncodeUnpadded data).length % 4) % 4) 0x3d

/-- The input is the encoding of the bytes, or that without its padding. -/
def IsBase64Of (input data : Bytes) : Prop :=
  input = base64Encode data ∨ input = base64EncodeUnpadded data

example : base64Encode (bytesOf "hello") = bytesOf "aGVsbG8=" := by decide

end Encoder

section Alphabet

/-- A character of the base64 alphabet. -/
def isBase64Char (b : UInt8) : Bool :=
  (base64Sextet b).isSome && b != 0x3d

/-- The value of a character, zero for others. -/
def base64Value (b : UInt8) : Nat :=
  ((base64Sextet b).getD 0).toNat

theorem base64Sextet_char {v : Nat}
    (h : v < 64) :
    base64Sextet (base64Char v) = some (UInt8.ofNat v) ∧ base64Char v ≠ 0x3d := by
  have hall : ∀ w : Fin 64,
      base64Sextet (base64Char w) = some (UInt8.ofNat w) ∧ base64Char w ≠ 0x3d := by
    decide
  exact hall ⟨v, h⟩

/-- The characters of the alphabet are those of the sextets. -/
theorem base64Char_value {b : UInt8}
    (h : isBase64Char b = true) :
    base64Value b < 64 ∧ base64Char (base64Value b) = b := by
  have hall : ∀ n : Fin 256, isBase64Char (UInt8.ofNat n) = true →
      base64Value (UInt8.ofNat n) < 64 ∧
        base64Char (base64Value (UInt8.ofNat n)) = UInt8.ofNat n := by
    decide +kernel
  have hb := hall ⟨b.toNat, b.toNat_lt⟩
  simp only [UInt8.ofNat_toNat] at hb
  exact hb h

theorem isBase64Char_char {v : Nat}
    (h : v < 64) :
    isBase64Char (base64Char v) = true ∧ base64Value (base64Char v) = v := by
  obtain ⟨hsextet, hne⟩ := base64Sextet_char h
  constructor
  · simp [isBase64Char, hsextet, hne]
  · rw [base64Value, hsextet, Option.getD_some]
    exact UInt8.toNat_ofNat_of_lt (Nat.lt_trans h (by decide))

end Alphabet

section Groups

/-- Octets as bytes. -/
def octetBytes (xs : List Nat) : Bytes :=
  xs.map UInt8.ofNat

/-- The bits of a group as one number. -/
theorem groupBits {a b c d : Nat}
    (hb : b < 64)
    (hc : c < 64)
    (hd : d < 64) :
    a <<< 18 ||| b <<< 12 ||| c <<< 6 ||| d = a * 262144 + b * 4096 + c * 64 + d := by
  have hjoin : ∀ {m n : Nat} (k : Nat), n < 64 →
      m <<< (k + 6) ||| n <<< k = (m * 64 + n) <<< k := by
    intro m n k hn
    have hsix : m <<< 6 ||| n = m * 64 + n := by
      rw [← Nat.shiftLeft_add_eq_or_of_lt hn, Nat.shiftLeft_eq]
    rw [Nat.add_comm, Nat.shiftLeft_add, ← Nat.shiftLeft_or_distrib, hsix]
  have hlast : ((a * 64 + b) * 64 + c) <<< 6 ||| d = ((a * 64 + b) * 64 + c) * 64 + d := by
    rw [← Nat.shiftLeft_add_eq_or_of_lt hd, Nat.shiftLeft_eq]
  rw [hjoin 12 hb, hjoin 6 hc, hlast]
  omega

/-- The bytes that a group of sextets encodes. -/
theorem pushBase64Group_eq {a b c d : Nat}
    (ha : a < 64)
    (hb : b < 64)
    (hc : c < 64)
    (hd : d < 64)
    (out : Bytes) :
    pushBase64Group [.ofNat a, .ofNat b, .ofNat c, .ofNat d] 4 out =
        out ++ octetBytes (octets [a, b, c, d]) ∧
      pushBase64Group [.ofNat a, .ofNat b, .ofNat c, .ofNat d] 3 out =
        out ++ octetBytes (octets [a, b, c]) ∧
      pushBase64Group [.ofNat a, .ofNat b, .ofNat c, .ofNat d] 2 out =
        out ++ octetBytes (octets [a, b]) := by
  have hsmall : ∀ v : Nat, v < 64 → (UInt8.ofNat v).toNat = v := fun v hv =>
    UInt8.toNat_ofNat_of_lt (Nat.lt_trans hv (by decide))
  have hmask : ∀ n : Nat, n &&& 0xff = n % 256 := fun n => Nat.and_two_pow_sub_one_eq_mod n 8
  have h0 : (a * 262144 + b * 4096 + c * 64 + d) / 65536 = a * 4 + b / 16 := by omega
  have h1 : (a * 262144 + b * 4096 + c * 64 + d) / 256 % 256 = b % 16 * 16 + c / 4 := by omega
  have h2 : (a * 262144 + b * 4096 + c * 64 + d) % 256 = c % 4 * 64 + d := by omega
  simp only [pushBase64Group, List.getD_cons_zero, List.getD_cons_succ, hsmall a ha, hsmall b hb,
    hsmall c hc, hsmall d hd, groupBits hb hc hd, hmask, Nat.shiftRight_eq_div_pow]
  have h16 : (2 : Nat) ^ 16 = 65536 := rfl
  have h8 : (2 : Nat) ^ 8 = 256 := rfl
  rw [h16, h8, h0, h1, h2]
  simp [octets, octetBytes]

/-- An open group is filled up with zeros. -/
theorem pushBase64Group_three (x y z : UInt8) (n : Nat) (out : Bytes) :
    pushBase64Group [x, y, z] n out = pushBase64Group [x, y, z, 0] n out :=
  rfl

theorem pushBase64Group_two (x y : UInt8) (n : Nat) (out : Bytes) :
    pushBase64Group [x, y] n out = pushBase64Group [x, y, 0, 0] n out :=
  rfl

end Groups

section Loop

/-- Characters of the alphabet go into the open group while no padding was seen. -/
theorem base64DecodeFrom_char {v : Nat}
    (h : v < 64)
    (quad : List UInt8)
    (out rest : Bytes) :
    base64DecodeFrom quad 0 out (base64Char v :: rest) =
      if (quad ++ [UInt8.ofNat v]).length = 4 then
        base64DecodeFrom [] 0 (pushBase64Group (quad ++ [UInt8.ofNat v]) 4 out) rest
      else
        base64DecodeFrom (quad ++ [UInt8.ofNat v]) 0 out rest := by
  obtain ⟨hsextet, hne⟩ := base64Sextet_char h
  simp [base64DecodeFrom, hsextet, hne]

/-- Padding goes into the open group as a sextet of value zero. -/
theorem base64DecodeFrom_pad {padding : Nat}
    (h : padding < 2)
    (quad : List UInt8)
    (out rest : Bytes) :
    base64DecodeFrom quad padding out (0x3d :: rest) =
      if (quad ++ [0]).length = 4 then
        base64DecodeFrom [] (padding + 1) (pushBase64Group (quad ++ [0]) (4 - (padding + 1)) out)
          rest
      else
        base64DecodeFrom (quad ++ [0]) (padding + 1) out rest := by
  have hsextet : base64Sextet 0x3d = some 0 := by decide
  have hfew : ¬ padding + 1 > 2 := by omega
  simp [base64DecodeFrom, hsextet, hfew]

/-- The end of the input closes the open group. -/
theorem base64DecodeFrom_end (quad : List UInt8) (padding : Nat) (out : Bytes) :
    base64DecodeFrom quad padding out [] =
      if quad.length = 0 then some out
      else if quad.length = 1 then none
      else some (pushBase64Group quad quad.length out) :=
  rfl

/-- A whole group of characters. -/
theorem base64DecodeFrom_group {a b c d : Nat}
    (ha : a < 64)
    (hb : b < 64)
    (hc : c < 64)
    (hd : d < 64)
    (out rest : Bytes) :
    base64DecodeFrom [] 0 out
        (base64Char a :: base64Char b :: base64Char c :: base64Char d :: rest) =
      base64DecodeFrom [] 0 (out ++ octetBytes (octets [a, b, c, d])) rest := by
  rw [base64DecodeFrom_char ha, if_neg (by simp), base64DecodeFrom_char hb, if_neg (by simp),
    base64DecodeFrom_char hc, if_neg (by simp), base64DecodeFrom_char hd, if_pos (by simp)]
  simp only [List.nil_append, List.cons_append]
  rw [(pushBase64Group_eq ha hb hc hd out).1]

/-- **The loop over characters and then padding.** -/
theorem base64DecodeFrom_padded {xs : List Nat} {pads : Nat}
    (h : ∀ v ∈ xs, v < 64)
    (hpads : pads ≤ 2)
    (out : Bytes) :
    base64DecodeFrom [] 0 out (xs.map base64Char ++ List.replicate pads 0x3d) =
      if (xs.length + pads) % 4 = 1 then
        none
      else if (xs.length + pads) % 4 = 0 then
        some (out ++ octetBytes (octets xs))
      else
        some (out ++ octetBytes (octets (xs ++ List.replicate pads 0))) := by
  have hcount : pads = 0 ∨ pads = 1 ∨ pads = 2 := by omega
  have hzero : 0 < 64 := by decide
  have hof : UInt8.ofNat 0 = 0 := rfl
  induction xs using octets.induct generalizing out with
  | case1 a b c d rest ih =>
      simp only [List.forall_mem_cons] at h
      obtain ⟨ha, hb, hc, hd, hrest⟩ := h
      have hlength : ((a :: b :: c :: d :: rest).length + pads) % 4 =
          (rest.length + pads) % 4 := by
        simp only [List.length_cons]
        omega
      rw [hlength]
      simp only [List.map_cons, List.cons_append]
      rw [base64DecodeFrom_group ha hb hc hd, ih hrest]
      simp [octets, octetBytes]
  | case2 a b c =>
      simp only [List.forall_mem_cons] at h
      obtain ⟨ha, hb, hc, -⟩ := h
      obtain ⟨-, hthree, -⟩ := pushBase64Group_eq ha hb hc hzero out
      rw [hof] at hthree
      rcases hcount with rfl | rfl | rfl <;>
        simp [base64DecodeFrom_char, base64DecodeFrom_pad, base64DecodeFrom_end, ha, hb, hc,
          pushBase64Group_three, hthree]
  | case3 a b =>
      simp only [List.forall_mem_cons] at h
      obtain ⟨ha, hb, -⟩ := h
      obtain ⟨-, hthree, htwo⟩ := pushBase64Group_eq ha hb hzero hzero out
      rw [hof] at hthree htwo
      rcases hcount with rfl | rfl | rfl <;>
        simp [base64DecodeFrom_char, base64DecodeFrom_pad, base64DecodeFrom_end, ha, hb,
          pushBase64Group_three, pushBase64Group_two, hthree, htwo]
  | case4 a =>
      simp only [List.forall_mem_cons] at h
      obtain ⟨-, hthree, htwo⟩ := pushBase64Group_eq h.1 hzero hzero hzero out
      rw [hof] at hthree htwo
      rcases hcount with rfl | rfl | rfl <;>
        simp [base64DecodeFrom_char, base64DecodeFrom_pad, base64DecodeFrom_end, h.1,
          pushBase64Group_three, pushBase64Group_two, hthree, htwo]
  | case5 =>
      obtain ⟨-, -, htwo⟩ := pushBase64Group_eq hzero hzero hzero hzero out
      rw [hof] at htwo
      have hempty : octetBytes (octets []) = [] := rfl
      rcases hcount with rfl | rfl | rfl <;>
        simp [base64DecodeFrom_pad, base64DecodeFrom_end, pushBase64Group_two, htwo, hempty]

/-- Padding that is too much is refused. -/
theorem base64DecodeFrom_many_pads {padding pads : Nat}
    (h : 2 < padding + pads)
    (hpadding : padding ≤ 2)
    (quad : List UInt8)
    (out rest : Bytes) :
    base64DecodeFrom quad padding out (List.replicate pads 0x3d ++ rest) = none := by
  induction pads generalizing padding quad out with
  | zero => omega
  | succ pads ih =>
      rw [List.replicate_succ, List.cons_append]
      by_cases hlast : padding = 2
      · have hsextet : base64Sextet 0x3d = some 0 := by decide
        simp [base64DecodeFrom, hsextet, hlast]
      · rw [base64DecodeFrom_pad (by omega)]
        split
        · exact ih (by omega) (by omega) _ _
        · exact ih (by omega) (by omega) _ _

/-- After padding nothing but padding is accepted. -/
theorem base64DecodeFrom_after_pads {padding pads : Nat} {b : UInt8}
    (hseen : 0 < padding + pads)
    (hb : b ≠ 0x3d)
    (quad : List UInt8)
    (out rest : Bytes) :
    base64DecodeFrom quad padding out (List.replicate pads 0x3d ++ b :: rest) = none := by
  induction pads generalizing padding quad out with
  | zero =>
      have hpadding : padding > 0 := hseen
      cases hsextet : base64Sextet b with
      | none => simp [base64DecodeFrom, hsextet]
      | some sextet => simp [base64DecodeFrom, hsextet, hb, hpadding]
  | succ pads ih =>
      rw [List.replicate_succ, List.cons_append]
      by_cases hfew : padding < 2
      · rw [base64DecodeFrom_pad hfew]
        split
        · exact ih (by omega) _ _
        · exact ih (by omega) _ _
      · have hsextet : base64Sextet 0x3d = some 0 := by decide
        have hmany : padding + 1 > 2 := by omega
        simp [base64DecodeFrom, hsextet, hmany]

/-- What is refused from every state is refused after characters. -/
theorem base64DecodeFrom_chars_none {xs : List Nat} {rest : Bytes}
    (h : ∀ v ∈ xs, v < 64)
    (hrest : ∀ quad out, base64DecodeFrom quad 0 out rest = none)
    (quad : List UInt8)
    (out : Bytes) :
    base64DecodeFrom quad 0 out (xs.map base64Char ++ rest) = none := by
  induction xs generalizing quad out with
  | nil => exact hrest quad out
  | cons v xs ih =>
      rw [List.forall_mem_cons] at h
      rw [List.map_cons, List.cons_append, base64DecodeFrom_char h.1]
      split
      · exact ih h.2 _ _
      · exact ih h.2 _ _

end Loop

section Shape

/-- The characters that an input begins with. -/
def base64Body (input : Bytes) : Bytes :=
  input.takeWhile isBase64Char

/-- What follows them. -/
def base64Rest (input : Bytes) : Bytes :=
  input.dropWhile isBase64Char

/-- The sextets of the characters. -/
def base64Values (input : Bytes) : List Nat :=
  (base64Body input).map base64Value

/-- Characters, at most two paddings, and no single sextet in the last group. -/
def isDecodable (input : Bytes) : Bool :=
  (base64Rest input).all (fun b => b == 0x3d) && decide ((base64Rest input).length ≤ 2) &&
    decide (input.length % 4 ≠ 1)

/-- A decodable input whose padding does not fill a group, or whose last sextet
leaves bits over. -/
def hasStray (input : Bytes) : Bool :=
  isDecodable input &&
    ((0 < (base64Rest input).length && decide (input.length % 4 ≠ 0)) ||
      decide (spareBits (base64Values input) ≠ 0))

theorem body_append_rest (input : Bytes) : base64Body input ++ base64Rest input = input :=
  List.takeWhile_append_dropWhile

theorem base64Values_lt (input : Bytes) : ∀ v ∈ base64Values input, v < 64 := by
  intro v hv
  obtain ⟨b, hb, rfl⟩ := List.mem_map.mp hv
  exact (base64Char_value (List.mem_takeWhile_imp hb)).1

theorem map_base64Values (input : Bytes) :
    (base64Values input).map base64Char = base64Body input := by
  rw [base64Values, List.map_map]
  refine (List.map_congr_left ?_).trans (List.map_id _)
  intro b hb
  exact (base64Char_value (List.mem_takeWhile_imp hb)).2

theorem length_base64Values (input : Bytes) :
    (base64Values input).length = (base64Body input).length :=
  List.length_map ..

/-- What is all padding is so many paddings. -/
theorem rest_eq_replicate {input : Bytes}
    (h : (base64Rest input).all (fun b => b == 0x3d) = true) :
    base64Rest input = List.replicate (base64Rest input).length 0x3d := by
  refine List.eq_replicate_of_mem ?_
  intro b hb
  exact eq_of_beq (List.all_eq_true.mp h b hb)

/-- What is not all padding has a first byte that is none. -/
theorem exists_not_pad {data : Bytes}
    (h : ¬ data.all (fun b => b == 0x3d) = true) :
    ∃ pads b tail, b ≠ 0x3d ∧ data = List.replicate pads 0x3d ++ b :: tail := by
  induction data with
  | nil => exact absurd rfl h
  | cons b rest ih =>
      by_cases hb : b = 0x3d
      · have hrest : ¬ rest.all (fun b => b == 0x3d) = true := by
          intro hall
          exact h (by simp [hb, hall])
        obtain ⟨pads, c, tail, hc, rfl⟩ := ih hrest
        exact ⟨pads + 1, c, tail, hc, by rw [hb, List.replicate_succ, List.cons_append]⟩
      · exact ⟨0, b, rest, hb, rfl⟩

/-- A decodable input is decoded to the whole octets of its sextets, padding
counting as such in a group that it does not fill. -/
theorem base64Decode_of_decodable {input : Bytes}
    (h : isDecodable input = true) :
    base64Decode input = some (octetBytes (octets
      (if input.length % 4 = 0 then base64Values input
        else base64Values input ++ List.replicate (base64Rest input).length 0))) := by
  simp only [isDecodable, Bool.and_eq_true, decide_eq_true_eq] at h
  obtain ⟨⟨hpads, hfew⟩, hlength⟩ := h
  have hinput : input = (base64Values input).map base64Char ++
      List.replicate (base64Rest input).length 0x3d := by
    rw [map_base64Values, ← rest_eq_replicate hpads]
    exact (body_append_rest input).symm
  have hcount : (base64Values input).length + (base64Rest input).length = input.length := by
    rw [length_base64Values, ← List.length_append, body_append_rest]
  have hloop := base64DecodeFrom_padded (base64Values_lt input) hfew []
  rw [← hinput, hcount, if_neg hlength] at hloop
  rw [base64Decode, hloop]
  split <;> simp

/-- Any other input is refused. -/
theorem base64Decode_of_not_decodable {input : Bytes}
    (h : isDecodable input = false) :
    base64Decode input = none := by
  rw [base64Decode, ← body_append_rest input, ← map_base64Values]
  by_cases hpads : (base64Rest input).all (fun b => b == 0x3d) = true
  · rw [rest_eq_replicate hpads]
    by_cases hfew : (base64Rest input).length ≤ 2
    · have hlength : ((base64Values input).length + (base64Rest input).length) % 4 = 1 := by
        rw [length_base64Values, ← List.length_append, body_append_rest]
        by_contra hne
        simp [isDecodable, hpads, hfew, hne] at h
      rw [base64DecodeFrom_padded (base64Values_lt input) hfew, if_pos hlength]
    · refine base64DecodeFrom_chars_none (base64Values_lt input) ?_ _ _
      intro quad out
      have hmany := @base64DecodeFrom_many_pads 0 (base64Rest input).length (by omega) (by omega)
        quad out []
      rwa [List.append_nil] at hmany
  · -- Some byte after the characters is no padding, and the first is no character.
    refine base64DecodeFrom_chars_none (base64Values_lt input) ?_ _ _
    intro quad out
    obtain ⟨pads, b, tail, hb, hrest⟩ := exists_not_pad hpads
    rw [hrest]
    by_cases hseen : 0 < pads
    · exact base64DecodeFrom_after_pads (by omega) hb quad out tail
    · obtain rfl : pads = 0 := Nat.eq_zero_of_not_pos hseen
      have hchar : isBase64Char b = false := by
        have hhead := List.head?_dropWhile_not isBase64Char input
        rw [← base64Rest, hrest] at hhead
        simpa using hhead
      have hsextet : base64Sextet b = none := by
        simpa [isBase64Char, hb] using hchar
      simp [base64DecodeFrom, hsextet]

end Shape

section Exactness

/-- The sextets of data. -/
def dataSextets (data : Bytes) : List Nat :=
  sextets (data.map UInt8.toNat)

theorem toNat_lt_of_mem {data : Bytes} : ∀ x ∈ data.map UInt8.toNat, x < 256 := by
  intro x hx
  obtain ⟨b, -, rfl⟩ := List.mem_map.mp hx
  exact b.toNat_lt

theorem octetBytes_toNat (data : Bytes) : octetBytes (data.map UInt8.toNat) = data := by
  rw [octetBytes, List.map_map]
  refine (List.map_congr_left ?_).trans (List.map_id _)
  intro b _
  exact UInt8.ofNat_toNat

theorem toNat_octetBytes {xs : List Nat}
    (h : ∀ x ∈ xs, x < 256) :
    (octetBytes xs).map UInt8.toNat = xs := by
  rw [octetBytes, List.map_map]
  refine (List.map_congr_left ?_).trans (List.map_id _)
  intro x hx
  exact UInt8.toNat_ofNat_of_lt (h x hx)

/-- The parts of an input that is characters and padding. -/
theorem parts_of_padded {xs : List Nat}
    (h : ∀ v ∈ xs, v < 64)
    (pads : Nat) :
    base64Values (xs.map base64Char ++ List.replicate pads 0x3d) = xs ∧
      base64Rest (xs.map base64Char ++ List.replicate pads 0x3d) = List.replicate pads 0x3d := by
  have hchars : ∀ b ∈ xs.map base64Char, isBase64Char b = true := by
    intro b hb
    obtain ⟨v, hv, rfl⟩ := List.mem_map.mp hb
    exact (isBase64Char_char (h v hv)).1
  have hpad : isBase64Char 0x3d = false := by decide
  have htake : (List.replicate pads (0x3d : UInt8)).takeWhile isBase64Char = [] := by
    cases pads with
    | zero => rfl
    | succ pads => simp [List.replicate_succ, hpad]
  have hdrop : (List.replicate pads (0x3d : UInt8)).dropWhile isBase64Char =
      List.replicate pads 0x3d := by
    cases pads with
    | zero => rfl
    | succ pads => simp [List.replicate_succ, hpad]
  constructor
  · rw [base64Values, base64Body, List.takeWhile_append_of_pos hchars, htake, List.append_nil,
      List.map_map]
    refine (List.map_congr_left ?_).trans (List.map_id _)
    intro v hv
    exact (isBase64Char_char (h v hv)).2
  · rw [base64Rest, List.dropWhile_append_of_pos hchars, hdrop]

/-- An encoding, with its padding or without. -/
theorem isBase64Of_iff {input data : Bytes} :
    IsBase64Of input data ↔
      ∃ pads, input = (dataSextets data).map base64Char ++ List.replicate pads 0x3d ∧
        (pads = 0 ∨ pads ≤ 2 ∧ ((dataSextets data).length + pads) % 4 = 0) := by
  have hlength : (base64EncodeUnpadded data).length = (dataSextets data).length :=
    List.length_map ..
  have hcount := length_sextets (data.map UInt8.toNat)
  rw [← dataSextets] at hcount
  constructor
  · rintro (rfl | rfl)
    · refine ⟨_, rfl, Or.inr ?_⟩
      rw [hlength]
      omega
    · exact ⟨0, (List.append_nil _).symm, Or.inl rfl⟩
  · rintro ⟨pads, rfl, rfl | ⟨hfew, hfull⟩⟩
    · exact Or.inr (List.append_nil _)
    · refine Or.inl ?_
      rw [base64Encode, hlength]
      have hpads : (4 - (dataSextets data).length % 4) % 4 = pads := by omega
      rw [hpads]
      rfl

/-- **What was encoded is decoded**, and is no stray input. -/
theorem decode_of_isBase64Of {input data : Bytes}
    (h : IsBase64Of input data) :
    hasStray input = false ∧ base64Decode input = some data := by
  obtain ⟨pads, rfl, hpads⟩ := isBase64Of_iff.mp h
  have hlt : ∀ v ∈ dataSextets data, v < 64 := sextets_lt toNat_lt_of_mem
  obtain ⟨hvalues, hrest⟩ := parts_of_padded hlt pads
  have hcount := length_sextets (data.map UInt8.toNat)
  rw [← dataSextets] at hcount
  have hspare : spareBits (dataSextets data) = 0 := spareBits_sextets _
  have hlength : ((dataSextets data).map base64Char ++ List.replicate pads 0x3d).length =
      (dataSextets data).length + pads := by
    simp
  have hdecodable : isDecodable
      ((dataSextets data).map base64Char ++ List.replicate pads 0x3d) = true := by
    simp only [isDecodable, hrest, hlength, Bool.and_eq_true, decide_eq_true_eq,
      List.length_replicate]
    refine ⟨⟨by simp, by omega⟩, by omega⟩
  constructor
  · simp only [hasStray, hrest, hvalues, hspare, hlength, List.length_replicate,
      Bool.and_eq_false_iff, Bool.or_eq_false_iff, decide_eq_false_iff_not]
    refine Or.inr ⟨?_, by simp⟩
    omega
  · rw [base64Decode_of_decodable hdecodable, hvalues, hrest, hlength, List.length_replicate]
    have hoctets : octetBytes (octets (dataSextets data)) = data := by
      rw [dataSextets, octets_sextets toNat_lt_of_mem, octetBytes_toNat]
    by_cases hfull : ((dataSextets data).length + pads) % 4 = 0
    · rw [if_pos hfull, hoctets]
    · have hnone : pads = 0 := by omega
      rw [if_neg hfull, hnone, List.replicate_zero, List.append_nil, hoctets]

/-- What is decoded from an input without strays encodes to it. -/
theorem isBase64Of_of_decode {input data : Bytes}
    (hstray : hasStray input = false)
    (h : base64Decode input = some data) :
    IsBase64Of input data := by
  have hdecodable : isDecodable input = true := by
    by_contra hnot
    rw [base64Decode_of_not_decodable (by simpa using hnot)] at h
    cases h
  have hinput := body_append_rest input
  have hcount : (base64Values input).length + (base64Rest input).length = input.length := by
    rw [length_base64Values, ← List.length_append, hinput]
  rw [base64Decode_of_decodable hdecodable, Option.some.injEq] at h
  simp only [hasStray, hdecodable, Bool.true_and, Bool.or_eq_false_iff, Bool.and_eq_false_iff,
    decide_eq_false_iff_not, not_not] at hstray
  obtain ⟨hpadding, hspare⟩ := hstray
  simp only [isDecodable, Bool.and_eq_true, decide_eq_true_eq] at hdecodable
  obtain ⟨⟨hpads, hfew⟩, hone⟩ := hdecodable
  have hoctets : octetBytes (octets (base64Values input)) = data := by
    by_cases hfull : input.length % 4 = 0
    · rwa [if_pos hfull] at h
    · have hnone : (base64Rest input).length = 0 := by omega
      rwa [if_neg hfull, hnone, List.replicate_zero, List.append_nil] at h
  have hsextets : dataSextets data = base64Values input := by
    rw [dataSextets, ← hoctets, toNat_octetBytes (octets_lt (base64Values_lt input))]
    exact sextets_octets (base64Values_lt input) (by omega) hspare
  refine isBase64Of_iff.mpr ⟨(base64Rest input).length, ?_, ?_⟩
  · rw [hsextets, map_base64Values, ← rest_eq_replicate hpads, hinput]
  · rw [hsextets]
    omega

/-- **Padded or not, decoding undoes encoding.** -/
theorem base64Decode_base64Encode (data : Bytes) :
    base64Decode (base64Encode data) = some data ∧
      base64Decode (base64EncodeUnpadded data) = some data :=
  ⟨(decode_of_isBase64Of (Or.inl rfl)).2, (decode_of_isBase64Of (Or.inr rfl)).2⟩

/-- **Where the decoder is exact.**  It decodes an input to the data that encode
to it, and to nothing else, if and only if the input has no stray padding and no
bits left over; and it undoes both encodings of all data. -/
theorem base64Decode_exact_iff (input : Bytes) :
    ((∀ data, base64Decode input = some data ↔ IsBase64Of input data) ↔
        hasStray input = false) ∧
      ∀ data, base64Decode (base64Encode data) = some data ∧
        base64Decode (base64EncodeUnpadded data) = some data := by
  refine ⟨⟨?_, ?_⟩, base64Decode_base64Encode⟩
  · intro hexact
    by_contra hstray
    have hdecodable : isDecodable input = true := by
      simp only [hasStray, Bool.and_eq_false_iff, not_or, Bool.not_eq_false] at hstray
      exact hstray.1
    have hencoded := (hexact _).mp (base64Decode_of_decodable hdecodable)
    exact hstray (decode_of_isBase64Of hencoded).1
  · intro hstray data
    exact ⟨isBase64Of_of_decode hstray, fun h => (decode_of_isBase64Of h).2⟩

/-- **Strays are accepted**: padding alone, a group that its padding does not
fill, and bits that belong to no byte. -/
theorem base64Decode_accepts_stray :
    (base64Decode (bytesOf "==") = some [0] ∧ ¬ ∃ data, IsBase64Of (bytesOf "==") data) ∧
      (base64Decode (bytesOf "QQ=") = some [0x41, 0] ∧
        ¬ ∃ data, IsBase64Of (bytesOf "QQ=") data) ∧
      base64Decode (bytesOf "QR==") = some [0x41] ∧
        ¬ ∃ data, IsBase64Of (bytesOf "QR==") data := by
  have hnone : ∀ input, hasStray input = true → ¬ ∃ data, IsBase64Of input data := by
    rintro input hstray ⟨data, h⟩
    rw [(decode_of_isBase64Of h).1] at hstray
    cases hstray
  exact ⟨⟨by decide, hnone _ (by decide)⟩, ⟨by decide, hnone _ (by decide)⟩, by decide,
    hnone _ (by decide)⟩

end Exactness

end Server
end Rttx
