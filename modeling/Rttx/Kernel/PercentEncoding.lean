import Mathlib.Data.List.Basic

/-!
# Kernel: percent encodings

A percent encoding of a byte string has a byte either as it is or as a percent sign and
two hexadecimal digits, of either case.  The percent sign itself is always escaped.

An encoding is read from the left.  It goes wrong at the first escape that is cut short
or has a letter that is no digit.

**Results.**
* `PercentEncodes.unique`: an encoding is of one byte string.
* `not_badEscape_iff`: what has no bad escape encodes something.
-/

namespace Rttx
namespace Kernel

section Digits

def percentByte : UInt8 := 0x25

/-- The letter `c` is a hexadecimal digit of value `v`. -/
def HexDigit (c : UInt8) (v : Nat) : Prop :=
  (v < 10 ∧ c.toNat = 0x30 + v) ∨
    (10 ≤ v ∧ v < 16 ∧ (c.toNat = 0x57 + v ∨ c.toNat = 0x37 + v))

instance (c : UInt8) (v : Nat) : Decidable (HexDigit c v) :=
  inferInstanceAs (Decidable (_ ∨ _))

theorem HexDigit.lt {c : UInt8} {v : Nat}
    (h : HexDigit c v) :
    v < 16 := by
  rcases h with ⟨hlt, _⟩ | ⟨_, hlt, _⟩ <;> omega

theorem HexDigit.unique {c : UInt8} {v w : Nat}
    (hv : HexDigit c v)
    (hw : HexDigit c w) :
    v = w := by
  rcases hv with ⟨hv, hcv⟩ | ⟨hv, hv', hcv⟩ <;> rcases hw with ⟨hw, hcw⟩ | ⟨hw, hw', hcw⟩ <;> omega

end Digits

section Encodings

/-- The bytes `encoded` are a percent encoding of `data`. -/
inductive PercentEncodes : (data encoded : List UInt8) → Prop
  | nil : PercentEncodes [] []
  | plain {b : UInt8} {data encoded : List UInt8} :
      b ≠ percentByte →
      PercentEncodes data encoded →
      PercentEncodes (b :: data) (b :: encoded)
  | escaped {b hi lo : UInt8} {h l : Nat} {data encoded : List UInt8} :
      HexDigit hi h →
      HexDigit lo l →
      b.toNat = 16 * h + l →
      PercentEncodes data encoded →
      PercentEncodes (b :: data) (percentByte :: hi :: lo :: encoded)

/-- Somewhere an escape is cut short or not hexadecimal; what is before it is in order. -/
inductive BadEscape : List UInt8 → Prop
  | truncated {rest : List UInt8} :
      rest.length < 2 →
      BadEscape (percentByte :: rest)
  | notHex {hi lo : UInt8} {rest : List UInt8} :
      (∀ v, ¬ HexDigit hi v) ∨ (∀ v, ¬ HexDigit lo v) →
      BadEscape (percentByte :: hi :: lo :: rest)
  | plain {b : UInt8} {rest : List UInt8} :
      b ≠ percentByte →
      BadEscape rest →
      BadEscape (b :: rest)
  | escaped {hi lo : UInt8} {h l : Nat} {rest : List UInt8} :
      HexDigit hi h →
      HexDigit lo l →
      BadEscape rest →
      BadEscape (percentByte :: hi :: lo :: rest)

/-- **An encoding is of one byte string.** -/
theorem PercentEncodes.unique {first second encoded : List UInt8}
    (hfirst : PercentEncodes first encoded)
    (hsecond : PercentEncodes second encoded) :
    first = second := by
  induction hfirst generalizing second with
  | nil =>
      cases hsecond
      rfl
  | plain hb _ ih =>
      cases hsecond with
      | plain _ hrest => rw [ih hrest]
      | escaped _ _ _ _ => exact absurd rfl hb
  | escaped hhi hlo hbyte _ ih =>
      cases hsecond with
      | plain hb _ => exact absurd rfl hb
      | escaped hhi' hlo' hbyte' hrest =>
          obtain rfl := hhi.unique hhi'
          obtain rfl := hlo.unique hlo'
          rw [ih hrest, UInt8.toNat_inj.mp (hbyte.trans hbyte'.symm)]

/-- An encoding has no bad escape. -/
theorem PercentEncodes.not_badEscape {data encoded : List UInt8}
    (h : PercentEncodes data encoded) :
    ¬ BadEscape encoded := by
  induction h with
  | nil => exact fun hbad => by cases hbad
  | plain hb _ ih =>
      intro hbad
      cases hbad with
      | truncated _ => exact hb rfl
      | notHex _ => exact hb rfl
      | plain _ hrest => exact ih hrest
      | escaped _ _ _ => exact hb rfl
  | @escaped b hi lo h l data encoded hhi hlo _ _ ih =>
      intro hbad
      cases hbad with
      | truncated hshort =>
          simp only [List.length_cons] at hshort
          omega
      | notHex hnot => exact hnot.elim (fun hno => hno h hhi) fun hno => hno l hlo
      | plain hne _ => exact hne rfl
      | escaped _ _ hrest => exact ih hrest

/-- **What has no bad escape encodes something.** -/
theorem not_badEscape_iff {encoded : List UInt8} :
    ¬ BadEscape encoded ↔ ∃ data, PercentEncodes data encoded := by
  constructor
  · intro hok
    induction hlen : encoded.length using Nat.strongRecOn generalizing encoded with
    | ind n ih =>
        cases encoded with
        | nil => exact ⟨[], .nil⟩
        | cons b rest =>
            rw [List.length_cons] at hlen
            by_cases hb : b = percentByte
            · subst hb
              cases rest with
              | nil => exact absurd (.truncated (by simp)) hok
              | cons hi rest =>
                  cases rest with
                  | nil => exact absurd (.truncated (by simp)) hok
                  | cons lo rest =>
                      by_cases hhi : ∃ v, HexDigit hi v
                      · by_cases hlo : ∃ v, HexDigit lo v
                        · obtain ⟨h, hhi⟩ := hhi
                          obtain ⟨l, hlo⟩ := hlo
                          have hrest : ¬ BadEscape rest := fun hbad =>
                            hok (.escaped hhi hlo hbad)
                          simp only [List.length_cons] at hlen
                          obtain ⟨data, hdata⟩ := ih rest.length (by omega) hrest rfl
                          have hlh := hhi.lt
                          have hll := hlo.lt
                          have hbyte : (UInt8.ofNat (16 * h + l)).toNat = 16 * h + l := by
                            rw [UInt8.toNat_ofNat']
                            omega
                          exact ⟨_, .escaped hhi hlo hbyte hdata⟩
                        · exact absurd (.notHex (Or.inr (not_exists.mp hlo))) hok
                      · exact absurd (.notHex (Or.inl (not_exists.mp hhi))) hok
            · have hrest : ¬ BadEscape rest := fun hbad => hok (.plain hb hbad)
              obtain ⟨data, hdata⟩ := ih rest.length (by omega) hrest rfl
              exact ⟨_, .plain hb hdata⟩
  · rintro ⟨data, hdata⟩
    exact hdata.not_badEscape

end Encodings

end Kernel
end Rttx
