import Rttx.Server.Terminal

/-!
# Filters on a pane's output bytes

Three scans over raw output: terminal queries that the daemon answers itself
are kept from the clients, alternate-screen exits that leave nothing are
dropped on the way in, and an incomplete UTF-8 sequence at the end of a batch
is held back from the grid.

The source walks an index over the batch.  Here the scan is a recursion over
the batch with the number of bytes still to be skipped or copied, so that it
is structural and computes.

**Results.**
* `stripClientQueries_append_of_no_esc`: bytes before the first escape pass through.
* `stripClientQueries_length_le`: the filter only removes bytes.
* `incompleteUtf8TailLen_le`: the held-back tail is part of the batch.
* `incompleteUtf8Tail_high`: it is of bytes beyond ASCII.
-/

namespace Rttx
namespace Server

section ClientQueries

def isAsciiDigit (b : UInt8) : Bool :=
  0x30 ≤ b && b ≤ 0x39

/-- Whether a complete CSI sequence with these parts is a query that the
daemon answers. -/
def isClientQuery (params intermediates : Bytes) (finalByte : UInt8) : Bool :=
  if finalByte = 0x6e then  -- DSR
    intermediates.isEmpty &&
      [bytesOf "5", bytesOf "6", bytesOf "?5", bytesOf "?6"].contains params
  else if finalByte = 0x52 then  -- CPR, itself a reply
    intermediates.isEmpty && !params.isEmpty &&
      params.all (fun b => isAsciiDigit b || b == 0x3b)
  else if finalByte = 0x63 then  -- DA1 and DA2
    intermediates.isEmpty &&
      [bytesOf "", bytesOf "0", bytesOf ">", bytesOf ">0"].contains params
  else if finalByte = 0x70 then  -- DECRQM
    intermediates == bytesOf "$" && params.head? == some 0x3f && 2 ≤ params.length &&
      params.tail.all isAsciiDigit
  else
    false

/-- Length of the CSI query at the start of `data`, if there is one. -/
def csiQueryLen (data : Bytes) : Option Nat :=
  match data with
  | 0x1b :: 0x5b :: body =>
      let params := body.takeWhile (fun b => 0x30 ≤ b && b ≤ 0x3f)
      let afterParams := body.dropWhile (fun b => 0x30 ≤ b && b ≤ 0x3f)
      let intermediates := afterParams.takeWhile (fun b => 0x20 ≤ b && b ≤ 0x2f)
      match afterParams.dropWhile (fun b => 0x20 ≤ b && b ≤ 0x2f) with
      | finalByte :: _ =>
          if 0x40 ≤ finalByte && finalByte ≤ 0x7e &&
              isClientQuery params intermediates finalByte then
            some (2 + params.length + intermediates.length + 1)
          else
            none
      | [] => none
  | _ => none

/-- The scan of `stripClientQueries`, with the bytes of a query still to skip. -/
def stripClientQueriesFrom : Nat → Bytes → Bytes
  | _, [] => []
  | skip + 1, _ :: rest => stripClientQueriesFrom skip rest
  | 0, b :: rest =>
      if b = esc then
        match csiQueryLen (b :: rest) with
        | some seqLen => stripClientQueriesFrom (seqLen - 1) rest
        | none => b :: stripClientQueriesFrom 0 rest
      else
        b :: stripClientQueriesFrom 0 rest

/-- Remove the terminal queries that the daemon answers itself. -/
def stripClientQueries (data : Bytes) : Bytes :=
  if !data.contains esc then
    data
  else
    stripClientQueriesFrom 0 data

theorem stripClientQueriesFrom_of_no_esc {data : Bytes}
    (h : esc ∉ data) :
    stripClientQueriesFrom 0 data = data := by
  induction data with
  | nil => rfl
  | cons b rest ih =>
      rw [List.mem_cons, not_or] at h
      have hb : ¬ b = esc := fun heq => h.1 heq.symm
      simp [stripClientQueriesFrom, hb, ih h.2]

/-- The fast path computes what the scan would. -/
theorem stripClientQueries_eq_scan (data : Bytes) :
    stripClientQueries data = stripClientQueriesFrom 0 data := by
  by_cases h : esc ∈ data
  · simp [stripClientQueries, h]
  · simp [stripClientQueries, h, stripClientQueriesFrom_of_no_esc h]

/-- Bytes before the first escape pass through. -/
theorem stripClientQueries_append_of_no_esc {head : Bytes} (rest : Bytes)
    (h : esc ∉ head) :
    stripClientQueries (head ++ rest) = head ++ stripClientQueries rest := by
  rw [stripClientQueries_eq_scan, stripClientQueries_eq_scan]
  induction head with
  | nil => rfl
  | cons b tail ih =>
      rw [List.mem_cons, not_or] at h
      have hb : ¬ b = esc := fun heq => h.1 heq.symm
      simp [stripClientQueriesFrom, hb, ih h.2]

theorem stripClientQueriesFrom_length_le (skip : Nat) (data : Bytes) :
    (stripClientQueriesFrom skip data).length ≤ data.length := by
  induction data generalizing skip with
  | nil => simp [stripClientQueriesFrom]
  | cons b rest ih =>
      have hrest := fun k => ih k
      cases skip with
      | succ k =>
          have hk := hrest k
          simp only [stripClientQueriesFrom, List.length_cons]
          omega
      | zero =>
          have h0 := hrest 0
          simp only [stripClientQueriesFrom]
          split
          · split
            · rename_i seqLen _
              have hs := hrest (seqLen - 1)
              simp only [List.length_cons]
              omega
            · simp only [List.length_cons]
              omega
          · simp only [List.length_cons]
            omega

/-- The filter only removes bytes. -/
theorem stripClientQueries_length_le (data : Bytes) :
    (stripClientQueries data).length ≤ data.length := by
  rw [stripClientQueries_eq_scan]
  exact stripClientQueriesFrom_length_le 0 data

example :
    stripClientQueries (bytesOf "a\x1b[6nb\x1b[?25$pc\x1b[1;2Rd\x1b[1m") =
      bytesOf "abcd\x1b[1m" := by
  decide

end ClientQueries

section AlternateScreen

/-- If `data` starts with an alternate-screen switch, its length and whether
it enters the alternate screen. -/
def alternateScreenSwitchLen (data : Bytes) : Option (Nat × Bool) :=
  match data with
  | 0x1b :: 0x5b :: 0x3f :: body =>
      let param := body.takeWhile isAsciiDigit
      if [bytesOf "1049", bytesOf "1047", bytesOf "47"].contains param then
        match body.dropWhile isAsciiDigit with
        | 0x68 :: _ => some (3 + param.length + 1, true)
        | 0x6c :: _ => some (3 + param.length + 1, false)
        | _ => none
      else
        none
  | _ => none

/-- The scan of `stripStrayAlternateScreenExits`: `copy` bytes of a kept
switch, or `skip` bytes of a dropped one, are still ahead. -/
def stripStrayExitsFrom : (inAlt : Bool) → (copy skip : Nat) → Bytes → Bytes
  | _, _, _, [] => []
  | inAlt, copy + 1, skip, b :: rest => b :: stripStrayExitsFrom inAlt copy skip rest
  | inAlt, 0, skip + 1, _ :: rest => stripStrayExitsFrom inAlt 0 skip rest
  | inAlt, 0, 0, b :: rest =>
      if b = esc then
        match alternateScreenSwitchLen (b :: rest) with
        | some (len, true) => b :: stripStrayExitsFrom true (len - 1) 0 rest
        | some (len, false) =>
            if inAlt then
              b :: stripStrayExitsFrom false (len - 1) 0 rest
            else
              stripStrayExitsFrom false 0 (len - 1) rest
        | none => b :: stripStrayExitsFrom inAlt 0 0 rest
      else
        b :: stripStrayExitsFrom inAlt 0 0 rest

/-- Drop alternate-screen exits wherever the alternate screen is not active. -/
def stripStrayAlternateScreenExits (data : Bytes) (inAlt : Bool) : Bytes :=
  if !data.contains esc then
    data
  else
    stripStrayExitsFrom inAlt 0 0 data

theorem stripStrayAlternateScreenExits_of_no_esc {data : Bytes} (inAlt : Bool)
    (h : esc ∉ data) :
    stripStrayAlternateScreenExits data inAlt = data := by
  simp [stripStrayAlternateScreenExits, h]

example :
    stripStrayAlternateScreenExits (bytesOf "a\x1b[?1049lb\x1b[?47hc\x1b[?47ld") false =
      bytesOf "ab\x1b[?47hc\x1b[?47ld" := by
  decide

end AlternateScreen

section Utf8Tail

/-- The scan of `incompleteUtf8TailLen` over the last bytes, newest first;
`back` is the distance from the end. -/
def incompleteUtf8TailFrom : Nat → Bytes → Nat
  | _, [] => 0
  | back, byte :: rest =>
      if byte &&& 0xc0 = 0x80 then
        incompleteUtf8TailFrom (back + 1) rest
      else
        let needed :=
          if 0xc0 ≤ byte && byte ≤ 0xdf then 2
          else if 0xe0 ≤ byte && byte ≤ 0xef then 3
          else if 0xf0 ≤ byte && byte ≤ 0xf7 then 4
          else 0
        if back < needed then back else 0

/-- Length of an incomplete UTF-8 sequence at the end of `data`. -/
def incompleteUtf8TailLen (data : Bytes) : Nat :=
  incompleteUtf8TailFrom 1 (data.reverse.take 3)

theorem incompleteUtf8TailFrom_le (back : Nat) (tail : Bytes) :
    incompleteUtf8TailFrom back tail + 1 ≤ back + tail.length ∨
      incompleteUtf8TailFrom back tail = 0 := by
  induction tail generalizing back with
  | nil => exact Or.inr rfl
  | cons byte rest ih =>
      simp only [incompleteUtf8TailFrom, List.length_cons]
      by_cases hcont : byte &&& 0xc0 = 0x80
      · rw [if_pos hcont]
        rcases ih (back + 1) with h | h
        · left; omega
        · exact Or.inr h
      · rw [if_neg hcont]
        generalize (if 0xc0 ≤ byte && byte ≤ 0xdf then 2
          else if 0xe0 ≤ byte && byte ≤ 0xef then 3
          else if 0xf0 ≤ byte && byte ≤ 0xf7 then 4
          else 0) = needed
        by_cases hback : back < needed
        · rw [if_pos hback]
          left; omega
        · exact Or.inr (if_neg hback)

/-- The held-back tail is part of the batch. -/
theorem incompleteUtf8TailLen_le (data : Bytes) :
    incompleteUtf8TailLen data ≤ data.length := by
  unfold incompleteUtf8TailLen
  have hlen : (data.reverse.take 3).length ≤ data.length := by
    rw [List.length_take, List.length_reverse]
    exact Nat.min_le_right _ _
  rcases incompleteUtf8TailFrom_le 1 (data.reverse.take 3) with h | h
  · omega
  · omega

/-- A byte that begins or continues a character is beyond ASCII. -/
theorem incompleteUtf8TailFrom_cons {back : Nat} {byte : UInt8} {rest : Bytes}
    (h : incompleteUtf8TailFrom back (byte :: rest) ≠ 0) :
    0x80 ≤ byte := by
  by_contra hlow
  have hascii : byte.toNat < 128 := by
    rw [UInt8.le_iff_toNat_le, Nat.not_le] at hlow
    exact hlow
  have hcont : ¬ byte &&& 0xc0 = 0x80 := by
    intro heq
    have hle : (byte &&& 0xc0).toNat ≤ byte.toNat := by
      rw [UInt8.toNat_and]
      exact Nat.and_le_left
    rw [heq] at hle
    exact absurd hascii (Nat.not_lt.mpr hle)
  have hstart : ∀ c : UInt8, 128 ≤ c.toNat → ¬ c ≤ byte := by
    intro c hc hle
    rw [UInt8.le_iff_toNat_le] at hle
    omega
  rw [incompleteUtf8TailFrom, if_neg hcont] at h
  simp [hstart 0xc0 (by decide), hstart 0xe0 (by decide), hstart 0xf0 (by decide)] at h

theorem incompleteUtf8TailFrom_high {back : Nat} {tail : Bytes}
    (h : incompleteUtf8TailFrom back tail ≠ 0) :
    ∀ b ∈ tail.take (incompleteUtf8TailFrom back tail + 1 - back), 0x80 ≤ b := by
  induction tail generalizing back with
  | nil => simp
  | cons byte rest ih =>
      have hbyte := incompleteUtf8TailFrom_cons h
      by_cases hcont : byte &&& 0xc0 = 0x80
      · have hstep : incompleteUtf8TailFrom back (byte :: rest) =
            incompleteUtf8TailFrom (back + 1) rest := by
          rw [incompleteUtf8TailFrom, if_pos hcont]
        rw [hstep] at h ⊢
        cases hcount : incompleteUtf8TailFrom (back + 1) rest + 1 - back with
        | zero => simp
        | succ n =>
            have hn : n = incompleteUtf8TailFrom (back + 1) rest + 1 - (back + 1) := by omega
            intro b hb
            rw [List.take_succ_cons, List.mem_cons] at hb
            rcases hb with rfl | hb
            · exact hbyte
            · exact ih h b (hn ▸ hb)
      · have hstep : incompleteUtf8TailFrom back (byte :: rest) = back := by
          rw [incompleteUtf8TailFrom, if_neg hcont] at h ⊢
          exact if_pos (by_contra fun hback => h (if_neg hback))
        have hone : back + 1 - back = 1 := by omega
        intro b hb
        rw [hstep, hone, List.take_succ_cons, List.take_zero, List.mem_singleton] at hb
        rw [hb]
        exact hbyte

/-- **The start of a character** that ends a batch is of bytes beyond ASCII. -/
theorem incompleteUtf8Tail_high (data : Bytes) :
    ∀ b ∈ data.drop (data.length - incompleteUtf8TailLen data), 0x80 ≤ b := by
  have hlen := incompleteUtf8TailLen_le data
  by_cases hnone : incompleteUtf8TailLen data = 0
  · rw [hnone, Nat.sub_zero, List.drop_length]
    exact List.forall_mem_nil _
  · intro b hb
    have hcount : data.length - (data.length - incompleteUtf8TailLen data) =
        incompleteUtf8TailLen data := by omega
    rw [← List.mem_reverse, List.reverse_drop, hcount] at hb
    refine incompleteUtf8TailFrom_high hnone b ?_
    have hle : incompleteUtf8TailLen data ≤ 3 := by
      have hbound := incompleteUtf8TailFrom_le 1 (data.reverse.take 3)
      have hthree : (data.reverse.take 3).length ≤ 3 := List.length_take_le _ _
      unfold incompleteUtf8TailLen
      omega
    rw [List.take_take, Nat.add_sub_cancel]
    change b ∈ data.reverse.take (min (incompleteUtf8TailLen data) 3)
    rwa [Nat.min_eq_left hle]

theorem incompleteUtf8TailLen_of_ascii {data : Bytes}
    (h : ∀ b ∈ data, b < 0x80) :
    incompleteUtf8TailLen data = 0 := by
  by_contra hne
  have hlen := incompleteUtf8TailLen_le data
  have hroom : data.length - incompleteUtf8TailLen data < data.length := by omega
  have hhigh := incompleteUtf8Tail_high data (data.get ⟨_, hroom⟩)
    (List.mem_drop_iff_getElem.mpr ⟨0, by omega, by simp⟩)
  exact absurd (h _ (List.get_mem _ _)) (UInt8.not_lt.mpr hhigh)

end Utf8Tail

end Server
end Rttx
