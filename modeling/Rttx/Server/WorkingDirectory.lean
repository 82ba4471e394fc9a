import Rttx.Kernel.PercentEncoding
import Rttx.Server.RenderedTokens
import Rttx.Server.ScreenPerformer

/-!
# The working directory a program reports

A program reports its working directory as the URI of a file: a host, and the path with
some of its bytes percent-encoded.  The path starts at the first slash behind the scheme.

**Results.**
* `percentDecode_eq_some_iff`: exactly the encodings of a path are decoded to it.
* `parseOsc7_eq_some_iff`: the URIs that a directory is read from.
* `parseOsc7_reports`: every encoding that leaves the leading slash is read back, and what is no
  encoding of a text is read as nothing.
-/

namespace Rttx
namespace Server

open Kernel

section Decoding

theorem hexValue_eq_some_iff {c v : UInt8} :
    hexValue c = some v ↔ HexDigit c v.toNat := by
  have hc := c.toNat_lt
  have hv := v.toNat_lt
  simp only [hexValue, HexDigit, Bool.and_eq_true, decide_eq_true_eq, UInt8.le_iff_toNat_le,
    UInt8.reduceToNat]
  split_ifs with hdigit hlower hupper
  · rw [Option.some.injEq, ← UInt8.toNat_inj, UInt8.toNat_sub]
    simp only [UInt8.reduceToNat]
    omega
  · rw [Option.some.injEq, ← UInt8.toNat_inj, UInt8.toNat_add, UInt8.toNat_sub]
    simp only [UInt8.reduceToNat]
    omega
  · rw [Option.some.injEq, ← UInt8.toNat_inj, UInt8.toNat_add, UInt8.toNat_sub]
    simp only [UInt8.reduceToNat]
    omega
  · refine iff_of_false (by simp) ?_
    omega

/-- Two digits make up a byte. -/
theorem toNat_byte {h l : UInt8}
    (hh : h.toNat < 16)
    (hl : l.toNat < 16) :
    (h <<< 4 ||| l).toNat = 16 * h.toNat + l.toNat := by
  have hall : ∀ a < 16, ∀ b < 16,
      (UInt8.ofNat a <<< 4 ||| UInt8.ofNat b).toNat = 16 * a + b := by decide
  have hpair := hall h.toNat hh l.toNat hl
  rwa [UInt8.ofNat_toNat, UInt8.ofNat_toNat] at hpair

/-- **Exactly the encodings of a byte string are decoded to it.** -/
theorem percentDecode_eq_some_iff {encoded data : Bytes} :
    percentDecode encoded = some data ↔ PercentEncodes data encoded := by
  constructor
  · intro h
    fun_induction percentDecode encoded generalizing data with
    | case1 =>
        obtain rfl := Option.some.inj h
        exact .nil
    | case2 hi lo rest h₁ l hlo hhi ih =>
        obtain ⟨decoded, hdecoded, rfl⟩ := Option.map_eq_some_iff.mp h
        have hhigh := hexValue_eq_some_iff.mp hhi
        have hlow := hexValue_eq_some_iff.mp hlo
        exact .escaped hhigh hlow (toNat_byte hhigh.lt hlow.lt) (ih hdecoded)
    | case3 => cases h
    | case4 => cases h
    | case5 b rest hlong hb ih =>
        obtain ⟨decoded, hdecoded, rfl⟩ := Option.map_eq_some_iff.mp h
        exact .plain hb (ih hdecoded)
  · intro h
    induction h with
    | nil => rfl
    | @plain b data encoded hb _ ih =>
        have hne : ¬ b = 0x25 := hb
        unfold percentDecode
        split
        · rename_i heq
          cases heq
        · rename_i heq
          exact absurd (List.cons.inj heq).1 hne
        · rename_i heq
          cases heq
          rw [if_neg hne, ih]
          rfl
    | @escaped b hi lo h l data encoded hhi hlo hbyte _ ih =>
        have hh := hhi.lt
        have hl := hlo.lt
        have hhigh : hexValue hi = some (UInt8.ofNat h) := by
          rw [hexValue_eq_some_iff, UInt8.toNat_ofNat', Nat.mod_eq_of_lt (by omega)]
          exact hhi
        have hlow : hexValue lo = some (UInt8.ofNat l) := by
          rw [hexValue_eq_some_iff, UInt8.toNat_ofNat', Nat.mod_eq_of_lt (by omega)]
          exact hlo
        have hmade := toNat_byte (hexValue_eq_some_iff.mp hhigh).lt
          (hexValue_eq_some_iff.mp hlow).lt
        rw [UInt8.toNat_ofNat', UInt8.toNat_ofNat', Nat.mod_eq_of_lt (by omega),
          Nat.mod_eq_of_lt (by omega), ← hbyte] at hmade
        change percentDecode (0x25 :: hi :: lo :: encoded) = _
        simp only [percentDecode, hhigh, hlow, ih, Option.map_some, UInt8.toNat_inj.mp hmade]

/-- A text is read from its bytes alone. -/
theorem utf8Text_eq_some_iff {data : Bytes} {s : String} :
    utf8Text data = some s ↔ data = bytesOf s := by
  constructor
  · intro h
    rw [utf8Text, String.fromUTF8?] at h
    split at h
    · rw [← Option.some.inj h]
      rfl
    · cases h
  · rintro rfl
    exact utf8Text_bytesOf s

/-- A path is decoded from its encodings alone. -/
theorem percentDecodePath_eq_some_iff {encoded : Bytes} {path : String} :
    percentDecodePath encoded = some path ↔ PercentEncodes (bytesOf path) encoded := by
  rw [percentDecodePath, Option.bind_eq_some_iff]
  simp only [percentDecode_eq_some_iff, utf8Text_eq_some_iff]
  constructor
  · rintro ⟨data, hencodes, rfl⟩
    exact hencodes
  · exact fun hencodes => ⟨_, hencodes, rfl⟩

end Decoding

section Uris

/-- The byte of a slash is in no other character. -/
theorem slash_mem_bytesOf {s : String}
    (h : (0x2f : UInt8) ∈ bytesOf s) :
    '/' ∈ s.toList := by
  rw [bytesOf_eq, List.mem_flatMap] at h
  obtain ⟨c, hc, hbyte⟩ := h
  have hbytes : ∀ n : Nat, (0x2f : UInt8) = UInt8.ofNat n ↔ 0x2f = n % 256 := by
    intro n
    rw [← UInt8.toNat_inj, UInt8.toNat_ofNat']
    simp only [UInt8.reduceToNat]
  have hslash : c.val.toNat = 0x2f := by
    unfold String.utf8EncodeChar at hbyte
    dsimp only at hbyte
    split_ifs at hbyte <;>
      simp only [List.mem_cons, List.not_mem_nil, or_false, hbytes] at hbyte <;> omega
  have hc' : c = '/' := Char.ext (UInt32.toNat_inj.mp hslash)
  exact hc' ▸ hc

theorem dropWhile_host {host : Bytes}
    (h : (0x2f : UInt8) ∉ host)
    (encoded : Bytes) :
    (host ++ 0x2f :: encoded).dropWhile (fun b => b != 0x2f) = 0x2f :: encoded := by
  rw [List.dropWhile_append_of_pos, List.dropWhile_cons_of_neg (by simp)]
  intro b hb
  have hne : b ≠ 0x2f := fun heq => h (heq ▸ hb)
  simpa using hne

/-- The path of a URI is decoded from its first slash on. -/
theorem parseOsc7_of_host {host encoded : Bytes}
    (h : (0x2f : UInt8) ∉ host) :
    parseOsc7CurrentDirectory (bytesOf "file://" ++ host ++ 0x2f :: encoded) =
      percentDecodePath (0x2f :: encoded) := by
  have hscheme : (bytesOf "file://").isPrefixOf (bytesOf "file://" ++ host ++ 0x2f :: encoded) =
      true := by
    rw [List.isPrefixOf_iff_prefix, List.append_assoc]
    exact List.prefix_append _ _
  have hrest : (bytesOf "file://" ++ host ++ 0x2f :: encoded).drop (bytesOf "file://").length =
      host ++ 0x2f :: encoded := by
    rw [List.append_assoc, List.drop_left]
  rw [parseOsc7CurrentDirectory, if_pos hscheme]
  simp only [hrest, dropWhile_host h]
  rw [if_pos (by simp)]

/-- **The URIs that a directory is read from.** -/
theorem parseOsc7_eq_some_iff {uri : Bytes} {path : String} :
    parseOsc7CurrentDirectory uri = some path ↔
      ∃ host encoded, uri = bytesOf "file://" ++ host ++ 0x2f :: encoded ∧
        (0x2f : UInt8) ∉ host ∧ PercentEncodes (bytesOf path) (0x2f :: encoded) := by
  constructor
  · intro h
    rw [parseOsc7CurrentDirectory, Option.ite_none_right_eq_some] at h
    obtain ⟨hscheme, h⟩ := h
    dsimp only at h
    rw [Option.ite_none_right_eq_some] at h
    obtain ⟨hslash, h⟩ := h
    obtain ⟨rest, rfl⟩ := List.isPrefixOf_iff_prefix.mp hscheme
    rw [List.drop_left] at hslash h
    obtain ⟨host, encoded, rfl, hhost⟩ :=
      List.eq_append_cons_of_mem (List.contains_iff_mem.mp hslash)
    refine ⟨host, encoded, (List.append_assoc _ _ _).symm, hhost, ?_⟩
    rwa [dropWhile_host hhost, percentDecodePath_eq_some_iff] at h
  · rintro ⟨host, encoded, rfl, hhost, hencodes⟩
    rw [parseOsc7_of_host hhost, percentDecodePath_eq_some_iff]
    exact hencodes

/-- **Every encoding of a path that leaves its leading slash is read back; what is no
encoding of a text is read as nothing**, and nothing else is read as a directory. -/
theorem parseOsc7_reports :
    (∀ host rest encoded : String,
      '/' ∉ host.toList →
      PercentEncodes (bytesOf rest) (bytesOf encoded) →
      parseOsc7CurrentDirectory (bytesOf ("file://" ++ host ++ "/" ++ encoded)) =
        some ("/" ++ rest)) ∧
    (∀ host encoded : Bytes,
      (0x2f : UInt8) ∉ host →
      BadEscape encoded ∨
        (∃ data, PercentEncodes data encoded ∧ utf8Text (0x2f :: data) = none) →
      parseOsc7CurrentDirectory (bytesOf "file://" ++ host ++ 0x2f :: encoded) = none) ∧
    ∀ (uri : Bytes) (path : String),
      parseOsc7CurrentDirectory uri = some path →
      ∃ host encoded, uri = bytesOf "file://" ++ host ++ 0x2f :: encoded ∧
        (0x2f : UInt8) ∉ host ∧ PercentEncodes (bytesOf path) (0x2f :: encoded) := by
  have hslash : bytesOf "/" = [0x2f] := by decide
  have hplain : (0x2f : UInt8) ≠ percentByte := by decide
  refine ⟨?_, ?_, fun uri path h => parseOsc7_eq_some_iff.mp h⟩
  · intro host rest encoded hhost hencodes
    have huri : bytesOf ("file://" ++ host ++ "/" ++ encoded) =
        bytesOf "file://" ++ bytesOf host ++ 0x2f :: bytesOf encoded := by
      rw [bytesOf_append, bytesOf_append, bytesOf_append, hslash]
      simp
    refine parseOsc7_eq_some_iff.mpr ⟨bytesOf host, bytesOf encoded, huri, ?_, ?_⟩
    · exact fun hmem => hhost (slash_mem_bytesOf hmem)
    · rw [bytesOf_append, hslash]
      exact .plain hplain hencodes
  · intro host encoded hhost hbad
    rw [parseOsc7_of_host hhost, Option.eq_none_iff_forall_ne_some]
    intro path hpath
    have hencodes := percentDecodePath_eq_some_iff.mp hpath
    rcases hbad with hbad | ⟨data, hdata, htext⟩
    · exact hencodes.not_badEscape (.plain hplain hbad)
    · have hsame := hencodes.unique (.plain hplain hdata)
      rw [← hsame, utf8Text_bytesOf] at htext
      cases htext

theorem parseOsc7_reports_percent :
    '/' ∉ "host".toList ∧
      PercentEncodes (bytesOf "50%") (bytesOf "5%30%25") ∧
      parseOsc7CurrentDirectory (bytesOf ("file://" ++ "host" ++ "/" ++ "5%30%25")) =
        some ("/" ++ "50%") ∧
      parseOsc7CurrentDirectory (bytesOf "file://" ++ bytesOf "host" ++ 0x2f :: bytesOf "50%") =
        none := by
  have hencodes : PercentEncodes (bytesOf "50%") (bytesOf "5%30%25") :=
    percentDecode_eq_some_iff.mp (by decide +kernel)
  have hbad : BadEscape (bytesOf "50%") :=
    .plain (by decide) (.plain (by decide) (.truncated (by decide)))
  refine ⟨by decide, hencodes, ?_, ?_⟩
  · exact parseOsc7_reports.1 "host" "50%" "5%30%25" (by decide) hencodes
  · exact parseOsc7_reports.2.1 (bytesOf "host") (bytesOf "50%") (by decide) (Or.inl hbad)

/-- An encoding of a path may escape its leading slash; the URI then has no path, or the
path starts later. -/
theorem parseOsc7_escaped_slash :
    PercentEncodes (bytesOf "/a") (bytesOf "%2Fa") ∧
      parseOsc7CurrentDirectory (bytesOf ("file://" ++ "host" ++ "%2Fa")) = none ∧
      PercentEncodes (bytesOf "/a/b") (bytesOf "%2Fa/b") ∧
      parseOsc7CurrentDirectory (bytesOf ("file://" ++ "host" ++ "%2Fa/b")) = some "/b" := by
  refine ⟨percentDecode_eq_some_iff.mp ?_, ?_, percentDecode_eq_some_iff.mp ?_, ?_⟩
  · decide +kernel
  · decide +kernel
  · decide +kernel
  · decide +kernel

end Uris

end Server
end Rttx
