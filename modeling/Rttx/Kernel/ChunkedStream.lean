import Mathlib.Data.List.Basic

/-!
# Kernel: decoding a stream that arrives in chunks

A reader buffers what it has read and asks a decoder for the next item.  If the
decoder needs more, the reader appends the next chunk and asks again; when there
is no chunk left the stream has ended.

A decoder is *resumable* when more input changes neither an item nor an error it
has found.  Several decoders can share one buffer.

**Results.**
* `pull_spec`: one read gives what the decoder makes of the whole input.
* `pulls_eq_parse`: the results of a sequence of reads do not depend on how the
  input is cut into chunks.
-/

namespace Rttx
namespace Kernel

universe u v w z

section Decoders

variable {τ : Type u} {ε : Type v} {β : Type w}

/-- What a decoder makes of the input so far; the rest is what it leaves. -/
inductive Decoded (τ : Type u) (ε : Type v) (β : Type w)
  | incomplete
  | item (a : β) (rest : List τ)
  | failed (e : ε) (rest : List τ)
deriving DecidableEq

/-- More input changes neither an item nor an error. -/
structure Resumable (d : List τ → Decoded τ ε β) : Prop where
  item : ∀ {s rest : List τ} {a : β}, d s = .item a rest →
    ∀ more, d (s ++ more) = .item a (rest ++ more)
  failed : ∀ {s rest : List τ} {e : ε}, d s = .failed e rest →
    ∀ more, d (s ++ more) = .failed e (rest ++ more)

/-- What a read gives; `closed` is the end of the stream. -/
inductive Pulled (ε : Type v) (β : Type w)
  | item (a : β)
  | closed
  | failed (e : ε)
deriving DecidableEq

/-- What one read of a stream delivers; reading nothing means its end. -/
abbrev Chunk (τ : Type u) : Type u :=
  { c : List τ // c ≠ [] }

/-- A stream and the buffer of its reader. -/
structure ChunkedStream (τ : Type u) where
  chunks : List (Chunk τ)
  buffer : List τ

end Decoders

namespace ChunkedStream

section Reading

variable {τ : Type u} {ε : Type v} {β : Type w}

/-- All input that is still to be decoded. -/
def remaining (s : ChunkedStream τ) : List τ :=
  s.buffer ++ (s.chunks.map Subtype.val).flatten

/-- One read: decode the buffer, and read on while that is not enough. -/
def pullFrom (d : List τ → Decoded τ ε β) :
    List (Chunk τ) → List τ → Pulled ε β × ChunkedStream τ
  | chunks, buffer =>
      match d buffer with
      | .item a rest => (.item a, ⟨chunks, rest⟩)
      | .failed e rest => (.failed e, ⟨chunks, rest⟩)
      | .incomplete =>
          match chunks with
          | [] => (.closed, ⟨[], buffer⟩)
          | c :: chunks => pullFrom d chunks (buffer ++ c.val)

def pull (d : List τ → Decoded τ ε β) (s : ChunkedStream τ) : Pulled ε β × ChunkedStream τ :=
  pullFrom d s.chunks s.buffer

/-- What a read makes of an undivided input. -/
def outcome (d : List τ → Decoded τ ε β) (s : List τ) : Pulled ε β × List τ :=
  match d s with
  | .item a rest => (.item a, rest)
  | .failed e rest => (.failed e, rest)
  | .incomplete => (.closed, s)

/-- **One read gives what the decoder makes of the whole input.** -/
theorem pull_spec {d : List τ → Decoded τ ε β}
    (hd : Resumable d)
    (s : ChunkedStream τ) :
    (s.pull d).1 = (outcome d s.remaining).1 ∧
      (s.pull d).2.remaining = (outcome d s.remaining).2 := by
  obtain ⟨chunks, buffer⟩ := s
  simp only [pull]
  induction chunks generalizing buffer with
  | nil =>
      rw [pullFrom, remaining, List.map_nil, List.flatten_nil, List.append_nil, outcome]
      cases d buffer <;> simp [remaining]
  | cons c rest ih =>
      rw [pullFrom]
      cases hbuffer : d buffer with
      | item a left =>
          simp [outcome, remaining, hd.item hbuffer]
      | failed e left =>
          simp [outcome, remaining, hd.failed hbuffer]
      | incomplete =>
          have hmore : (⟨c :: rest, buffer⟩ : ChunkedStream τ).remaining =
              (⟨rest, buffer ++ c.val⟩ : ChunkedStream τ).remaining := by
            simp [remaining]
          rw [hmore]
          exact ih (buffer ++ c.val)

end Reading

section Sequences

variable {τ : Type u} {ε : Type v} {β : Type w} {κ : Type z}

/-- The results of reads by the decoders named one after another. -/
def pulls (d : κ → List τ → Decoded τ ε β) : List κ → ChunkedStream τ → List (Pulled ε β)
  | [], _ => []
  | k :: ks, s =>
      let (result, s) := s.pull (d k)
      result :: pulls d ks s

/-- The results on an undivided input. -/
def parse (d : κ → List τ → Decoded τ ε β) : List κ → List τ → List (Pulled ε β)
  | [], _ => []
  | k :: ks, s =>
      let (result, s) := outcome (d k) s
      result :: parse d ks s

/-- **Where the input is cut does not matter.** -/
theorem pulls_eq_parse {d : κ → List τ → Decoded τ ε β}
    (hd : ∀ k, Resumable (d k))
    (ks : List κ)
    (s : ChunkedStream τ) :
    s.pulls d ks = parse d ks s.remaining := by
  induction ks generalizing s with
  | nil => rfl
  | cons k ks ih =>
      obtain ⟨hresult, hrest⟩ := pull_spec (hd k) s
      simp only [pulls, parse]
      rw [ih, hresult, hrest]

/-- A decoder that finds an item and leaves the rest. -/
theorem parse_item {d : κ → List τ → Decoded τ ε β} {k : κ} {a : β} {s rest : List τ}
    (h : d k s = .item a rest)
    (ks : List κ) :
    parse d (k :: ks) s = .item a :: parse d ks rest := by
  simp [parse, outcome, h]

end Sequences

end ChunkedStream

end Kernel
end Rttx
