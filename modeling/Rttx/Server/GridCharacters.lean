import Rttx.Kernel.HeldBack
import Rttx.Server.PaneScreen

/-!
# The characters that a grid is fed

The feed of a grid holds the start of a UTF-8 character back until the rest of
it comes, so that the grid never sees a character in two parts.

**Results.**
* `feedGrid_transparent`: the grid is fed slices that make up the stream but for
  at most three held bytes, and of valid UTF-8 whole characters each time.
-/

namespace Rttx
namespace Server

open Kernel

universe u v

section Encoding

/-- The number of bytes that a lead byte asks for, zero for others. -/
def utf8Needed (byte : UInt8) : Nat :=
  if 0xc0 ≤ byte && byte ≤ 0xdf then 2
  else if 0xe0 ≤ byte && byte ≤ 0xef then 3
  else if 0xf0 ≤ byte && byte ≤ 0xf7 then 4
  else 0

/-- A continuation byte. -/
def isUtf8Continuation (byte : UInt8) : Bool :=
  byte &&& 0xc0 = 0x80

/-- UTF-8 text. -/
def utf8Bytes (chars : List Char) : Bytes :=
  chars.flatMap String.utf8EncodeChar

theorem incompleteUtf8TailFrom_eq (back : Nat) (tail : Bytes) :
    incompleteUtf8TailFrom back tail = openTailFrom isUtf8Continuation utf8Needed back tail := by
  induction tail generalizing back with
  | nil => rfl
  | cons byte rest ih =>
      rw [incompleteUtf8TailFrom, openTailFrom, ih]
      simp only [isUtf8Continuation, decide_eq_true_eq]
      rfl

/-- The held tail is that of the general scan, looking back three bytes. -/
theorem incompleteUtf8TailLen_eq :
    incompleteUtf8TailLen = openTailLen isUtf8Continuation utf8Needed 3 := by
  funext data
  exact incompleteUtf8TailFrom_eq 1 _

theorem incompleteUtf8TailLen_le_three (data : Bytes) : incompleteUtf8TailLen data ≤ 3 := by
  have hbound := incompleteUtf8TailFrom_le 1 (data.reverse.take 3)
  have hthree : (data.reverse.take 3).length ≤ 3 := List.length_take_le _ _
  unfold incompleteUtf8TailLen
  omega

/-- The bytes above a base, by their classes. -/
theorem utf8_classes :
    (∀ n : Fin 64, isUtf8Continuation (UInt8.ofNat (n + 0x80)) = true) ∧
      (∀ n : Fin 128, isUtf8Continuation (UInt8.ofNat n) = false ∧
        utf8Needed (UInt8.ofNat n) = 0) ∧
      (∀ n : Fin 32, isUtf8Continuation (UInt8.ofNat (n + 0xc0)) = false ∧
        utf8Needed (UInt8.ofNat (n + 0xc0)) = 2) ∧
      (∀ n : Fin 16, isUtf8Continuation (UInt8.ofNat (n + 0xe0)) = false ∧
        utf8Needed (UInt8.ofNat (n + 0xe0)) = 3) ∧
      ∀ n : Fin 8, isUtf8Continuation (UInt8.ofNat (n + 0xf0)) = false ∧
        utf8Needed (UInt8.ofNat (n + 0xf0)) = 4 := by
  decide +kernel

/-- A character of UTF-8 is one in the sense of the scan. -/
theorem isCharacter_utf8 (c : Char) :
    IsCharacter isUtf8Continuation utf8Needed (String.utf8EncodeChar c) ∧
      (String.utf8EncodeChar c).length ≤ 3 + 1 := by
  obtain ⟨hcont, hone, htwo, hthree, hfour⟩ := utf8_classes
  have hcont' : ∀ m : Nat, isUtf8Continuation (UInt8.ofNat (m % 0x40 + 0x80)) = true := fun m =>
    hcont ⟨m % 0x40, Nat.mod_lt _ (by decide)⟩
  unfold String.utf8EncodeChar
  dsimp only
  split
  · rename_i hsmall
    obtain ⟨hlead, hneeded⟩ := hone ⟨c.val.toNat, by omega⟩
    refine ⟨⟨_, [], rfl, hlead, by simp, ?_⟩, by simp⟩
    intro k hk
    rw [hneeded]
    simp only [List.length_cons, List.length_nil]
    omega
  · split
    · obtain ⟨hlead, hneeded⟩ := htwo ⟨c.val.toNat / 64 % 0x20, Nat.mod_lt _ (by decide)⟩
      refine ⟨⟨_, _, rfl, hlead, ?_, ?_⟩, by simp⟩
      · exact List.forall_mem_cons.mpr ⟨hcont' _, List.forall_mem_nil _⟩
      · intro k _
        rw [hneeded]
        simp
    · split
      · obtain ⟨hlead, hneeded⟩ := hthree ⟨c.val.toNat / 4096 % 0x10, Nat.mod_lt _ (by decide)⟩
        refine ⟨⟨_, _, rfl, hlead, ?_, ?_⟩, by simp⟩
        · simp only [List.forall_mem_cons, hcont', true_and]
          exact List.forall_mem_nil _
        · intro k _
          rw [hneeded]
          simp
      · obtain ⟨hlead, hneeded⟩ := hfour ⟨c.val.toNat / 262144 % 0x08, Nat.mod_lt _ (by decide)⟩
        refine ⟨⟨_, _, rfl, hlead, ?_, ?_⟩, by simp⟩
        · simp only [List.forall_mem_cons, hcont', true_and]
          exact List.forall_mem_nil _
        · intro k _
          rw [hneeded]
          simp

end Encoding

section Feeds

variable {P : Type u} {G : Type v}
variable [VteParser P] [Vt100Parser G]

/-- The slice that one feed passes to the grid. -/
def PaneScreen.gridSlice (s : PaneScreen P G) (data : Bytes) : Bytes :=
  (passOn incompleteUtf8TailLen s.gridUtf8Tail data).1

/-- The slices that feeds pass to the grid. -/
def PaneScreen.gridSlices (s : PaneScreen P G) : List Bytes → List Bytes
  | [] => []
  | data :: rest => s.gridSlice data :: (s.feedGrid data).gridSlices rest

omit [VteParser P] in
/-- A feed processes its slice and holds the tail. -/
theorem feedGrid_eq (s : PaneScreen P G) (data : Bytes) :
    (s.feedGrid data).grid = Vt100Parser.process s.grid (s.gridSlice data) ∧
      (s.feedGrid data).gridUtf8Tail = (passOn incompleteUtf8TailLen s.gridUtf8Tail data).2 :=
  ⟨rfl, rfl⟩

omit [VteParser P] in
/-- Feeds process their slices. -/
theorem foldl_feedGrid (s : PaneScreen P G) (feeds : List Bytes) :
    (feeds.foldl PaneScreen.feedGrid s).grid =
        (s.gridSlices feeds).foldl Vt100Parser.process s.grid ∧
      (s.gridSlices feeds, (feeds.foldl PaneScreen.feedGrid s).gridUtf8Tail) =
        passOnAll incompleteUtf8TailLen s.gridUtf8Tail feeds := by
  induction feeds generalizing s with
  | nil => exact ⟨rfl, rfl⟩
  | cons data rest ih =>
      obtain ⟨hgrid, htail⟩ := ih (s.feedGrid data)
      have hfeed := (feedGrid_eq s data).2
      rw [hfeed] at htail
      refine ⟨hgrid, ?_⟩
      simp only [passOnAll]
      rw [← htail]
      rfl

/-- **The feed is transparent.**  The slices and the held tail are the stream,
at most three bytes are held, and of a valid UTF-8 stream each slice is valid
and no byte is held in the end, so that the grid gets the same characters
however the stream is cut. -/
theorem feedGrid_transparent (limit cols rows : Nat) (feeds : List Bytes) :
    let start : PaneScreen P G := PaneScreen.newSized limit cols rows
    let fed := feeds.foldl PaneScreen.feedGrid start
    fed.grid = (start.gridSlices feeds).foldl Vt100Parser.process start.grid ∧
      (start.gridSlices feeds).flatten ++ fed.gridUtf8Tail = feeds.flatten ∧
      fed.gridUtf8Tail.length ≤ 3 ∧
      ∀ chars, feeds.flatten = utf8Bytes chars →
        ∃ groups : List (List Char), groups.flatten = chars ∧
          start.gridSlices feeds = groups.map utf8Bytes ∧ fed.gridUtf8Tail = [] := by
  intro start fed
  obtain ⟨hgrid, hall⟩ := foldl_feedGrid start feeds
  have hstart : start.gridUtf8Tail = [] := rfl
  rw [hstart, Prod.ext_iff] at hall
  obtain ⟨hslices, htail⟩ := hall
  refine ⟨hgrid, ?_, ?_, ?_⟩
  · have hflatten := @flatten_passOnAll _ incompleteUtf8TailLen [] feeds
    rw [← hslices, ← htail] at hflatten
    exact hflatten
  · have hnone : ([] : Bytes).length ≤ 3 := Nat.zero_le 3
    have hheld := length_held_le incompleteUtf8TailLen_le_three hnone feeds
    rw [← htail] at hheld
    exact hheld
  · intro chars hchars
    rw [← List.nil_append feeds.flatten] at hchars
    obtain ⟨groups, hgroups, hpassed, hend⟩ :=
      passOnAll_characters isCharacter_utf8 (Or.inl rfl) hchars
    rw [← incompleteUtf8TailLen_eq] at hpassed hend
    exact ⟨groups, hgroups, hslices.trans hpassed, htail.trans hend⟩

end Feeds

end Server
end Rttx
