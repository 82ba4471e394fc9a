import Rttx.Kernel.PipeTraffic
import Rttx.Server.PtyPipe

/-!
# The traffic of a pane

Terminal input, the replies to queries, the child's reads and writes and the read loop's
batches come in any order.  This module keeps what passes the two pipes of a pane beside
the pane.

**Results.**
* `traffic_whole`: the child reads each input and each reply whole, one after the other in
  the order in which their writers asked for the lock; the batches are what the child wrote,
  in order; and each batch with replies has one turn, with all of them.
* `batches_bounded`: no batch is empty, or exceeds its limit by more than a read.
* `exists_traffic`: every run of a pane is one of these.
-/

namespace Rttx
namespace Server

open Kernel

universe u v

/-- A pane, the turns that were asked for at its writer lock, what its child has read, the
writes of the child, and the batches that were handled, with their replies. -/
structure PtyTraffic (P : Type u) (G : Type v) where
  pty : PtyPane P G
  turns : List (PtyWriter × Bytes)
  received : Bytes
  childTurns : List (Unit × Bytes)
  handled : List (Bytes × List Bytes)

namespace PtyTraffic

section Steps

variable {P : Type u} {G : Type v}

/-- The turn that the read loop asks for, if there are any replies. -/
def replyTurn (replies : List Bytes) : List (PtyWriter × Bytes) :=
  if replies.isEmpty then [] else [(.readLoop, replies.flatten)]

/-- What the read loop has read: the batches, and the one at hand. -/
def drained (s : PtyTraffic P G) : Bytes :=
  (s.handled.map Prod.fst).flatten ++ s.pty.batch

variable [VteParser P] [Vt100Parser G]

/-- The traffic of a step. -/
def note (s : PtyTraffic P G) : PtyStep → PtyTraffic P G
  | .childWrite data => { s with childTurns := s.childTurns ++ [((), data)] }
  | .childRead n => { s with received := s.received ++ s.pty.input.buffer.take n }
  | .terminalInput clientId resolvedBytes =>
      { s with turns := s.turns ++ [(.terminalInput clientId, resolvedBytes)] }
  | .handleBatch =>
      let replies := (PtyPane.pendingRepliesOf s.pty.pane s.pty.batch).1
      { s with
        turns := s.turns ++ replyTurn replies
        handled := s.handled ++ [(s.pty.batch, replies)] }
  | _ => s

def next (s : PtyTraffic P G) (a : PtyStep) : Option (PtyTraffic P G) :=
  (s.pty.next a).map fun pty => { s.note a with pty := pty }

/-- A new pane, before any traffic. -/
def system (P : Type u) (G : Type v) [VteParser P] [Vt100Parser G] :
    System (PtyTraffic P G) PtyStep where
  init s := (PtyPane.system P G).init s.pty ∧
    s.turns = [] ∧ s.received = [] ∧ s.childTurns = [] ∧ s.handled = []
  next := next

/-- The traffic says nothing about which steps a pane may take. -/
theorem exists_traffic {pty : PtyPane P G}
    (h : (PtyPane.system P G).Reachable pty) :
    ∃ s, (system P G).Reachable s ∧ s.pty = pty := by
  induction h with
  | init hinit => exact ⟨⟨_, [], [], [], []⟩, .of_init ⟨hinit, rfl, rfl, rfl, rfl⟩, rfl⟩
  | step _ _ hnext ih =>
      obtain ⟨s, hreach, rfl⟩ := ih
      exact ⟨_, hreach.next (Option.map_eq_some_iff.mpr ⟨_, hnext, rfl⟩), rfl⟩

end Steps

section Invariant

variable {P : Type u} {G : Type v}

/-- What the read loop has asked to write. -/
def replyData (turns : List (PtyWriter × Bytes)) : List Bytes :=
  (turns.filter (fun turn => turn.1 = .readLoop)).map Prod.snd

/-- The replies of the batches that have any. -/
def repliesOf (handled : List (Bytes × List Bytes)) : List Bytes :=
  ((handled.map Prod.snd).filter (fun replies => !replies.isEmpty)).map List.flatten

/-- What holds between any steps. -/
structure Inv (s : PtyTraffic P G) : Prop where
  input : s.pty.input.Carries s.turns s.received
  output : s.pty.output.Carries s.childTurns s.drained
  replies : replyData s.turns = repliesOf s.handled

@[simp] theorem replyData_append (turns more : List (PtyWriter × Bytes)) :
    replyData (turns ++ more) = replyData turns ++ replyData more := by
  simp [replyData]

theorem replyData_replyTurn (batch : Bytes) (replies : List Bytes) :
    replyData (replyTurn replies) = repliesOf [(batch, replies)] := by
  cases replies <;> rfl

theorem repliesOf_append (handled : List (Bytes × List Bytes)) (last : Bytes × List Bytes) :
    repliesOf (handled ++ [last]) = repliesOf handled ++ repliesOf [last] := by
  simp [repliesOf]

/-- The read loop asks for a turn exactly if there are replies. -/
theorem carries_startReplying {pty : PtyPane P G} {turns : List (PtyWriter × Bytes)}
    {received : Bytes}
    (h : pty.input.Carries turns received)
    (replies : List Bytes) :
    (pty.startReplying replies).input.Carries (turns ++ replyTurn replies) received := by
  unfold PtyPane.startReplying replyTurn
  split
  · rw [List.append_nil]
    exact h
  · exact h.enqueue _ _

theorem startReplying_output (pty : PtyPane P G) (replies : List Bytes) :
    (pty.startReplying replies).output = pty.output := by
  unfold PtyPane.startReplying
  split <;> rfl

theorem startReplying_batch (pty : PtyPane P G) (replies : List Bytes) :
    (pty.startReplying replies).batch = pty.batch := by
  unfold PtyPane.startReplying
  split <;> rfl

/-- A batch is handled, and its replies get one turn. -/
theorem Inv.handleBatch {s : PtyTraffic P G}
    (h : s.Inv)
    (pane : Pane P G)
    (replies : List Bytes) :
    ({ s with
        pty := ({ s.pty with pane := pane, batch := [] }).startReplying replies
        turns := s.turns ++ replyTurn replies
        handled := s.handled ++ [(s.pty.batch, replies)] } : PtyTraffic P G).Inv := by
  have hinput : ({ s.pty with pane := pane, batch := [] } : PtyPane P G).input.Carries
      s.turns s.received := h.input
  refine ⟨carries_startReplying hinput _, ?_, ?_⟩
  · have houtput := h.output
    simp only [drained, startReplying_output, startReplying_batch, List.map_append,
      List.flatten_append, List.append_nil]
    simpa [drained] using houtput
  · change replyData (s.turns ++ replyTurn replies) = repliesOf (s.handled ++ [_])
    rw [replyData_append, repliesOf_append, h.replies, replyData_replyTurn]

variable [VteParser P] [Vt100Parser G]

/-- **Every step keeps the invariant.** -/
theorem Inv.next {s s' : PtyTraffic P G} {a : PtyStep}
    (h : s.Inv)
    (hnext : s.next a = some s') :
    s'.Inv := by
  obtain ⟨pty, hpty, rfl⟩ := Option.map_eq_some_iff.mp hnext
  cases a with
  | childWrite data =>
      simp only [PtyPane.next, Option.ite_none_right_eq_some, Option.some.injEq] at hpty
      obtain ⟨_, rfl⟩ := hpty
      exact ⟨h.input, h.output.enqueue () data, h.replies⟩
  | childPush n =>
      obtain ⟨output, hwrite, rfl⟩ := Option.map_eq_some_iff.mp hpty
      exact ⟨h.input, h.output.write hwrite, h.replies⟩
  | childWritten =>
      obtain ⟨⟨task, output⟩, hrelease, rfl⟩ := Option.map_eq_some_iff.mp hpty
      exact ⟨h.input, h.output.release hrelease, h.replies⟩
  | childRead n =>
      simp only [PtyPane.next, Option.ite_none_right_eq_some] at hpty
      obtain ⟨⟨taken, input⟩, hread, rfl⟩ := Option.map_eq_some_iff.mp hpty.2
      have htaken := BoundedPipe.read_taken hread
      subst htaken
      exact ⟨h.input.read hread, h.output, h.replies⟩
  | terminalInput clientId resolvedBytes =>
      simp only [PtyPane.next, Option.ite_none_left_eq_some, Option.some.injEq] at hpty
      obtain ⟨_, rfl⟩ := hpty
      refine ⟨h.input.enqueue _ _, h.output, ?_⟩
      change replyData (s.turns ++ [(.terminalInput clientId, resolvedBytes)]) = _
      rw [replyData_append, h.replies]
      exact List.append_nil _
  | writeInput n =>
      obtain ⟨input, hwrite, rfl⟩ := Option.map_eq_some_iff.mp hpty
      exact ⟨h.input.write hwrite, h.output, h.replies⟩
  | finishWrite =>
      obtain ⟨⟨task, input⟩, hrelease, rfl⟩ := Option.map_eq_some_iff.mp hpty
      exact ⟨h.input.release hrelease, h.output, h.replies⟩
  | readOutput n =>
      simp only [PtyPane.next, Option.ite_none_right_eq_some] at hpty
      obtain ⟨⟨data, output⟩, hread, rfl⟩ := Option.map_eq_some_iff.mp hpty.2
      refine ⟨h.input, ?_, h.replies⟩
      have houtput := h.output.read hread
      rw [drained, List.append_assoc] at houtput
      exact houtput
  | handleBatch =>
      simp only [PtyPane.next, Option.ite_none_left_eq_some, Option.some.injEq] at hpty
      obtain ⟨_, rfl⟩ := hpty
      exact h.handleBatch _ _

theorem reachable_inv {s : PtyTraffic P G}
    (h : (system P G).Reachable s) :
    s.Inv := by
  refine h.invariant ?_ fun s a s' hinv hnext => hinv.next hnext
  rintro s ⟨⟨hinput, houtput, hbatch, _⟩, hturns, hreceived, hchild, hhandled⟩
  refine ⟨?_, ?_, ?_⟩
  · rw [hinput, hturns, hreceived]
    exact BoundedPipe.carries_empty _
  · rw [houtput, hchild, drained, hhandled, hbatch]
    exact BoundedPipe.carries_empty _
  · rw [hturns, hhandled]
    rfl

/-- **The traffic of a pane is whole**: the pipes carry the inputs and replies to the child,
and its writes to the read loop, and the read loop's turns are the replies of the batches. -/
theorem traffic_whole {s : PtyTraffic P G}
    (h : (system P G).Reachable s) :
    s.pty.input.Carries s.turns s.received ∧
      s.pty.output.Carries s.childTurns s.drained ∧
      replyData s.turns = repliesOf s.handled :=
  have hinv := reachable_inv h
  ⟨hinv.input, hinv.output, hinv.replies⟩

/-- When nothing is under way, the child has read all that was sent to it, and all that it
wrote was read. -/
theorem traffic_settled {s : PtyTraffic P G}
    (h : (system P G).Reachable s)
    (hinput : s.pty.input.writers = [] ∧ s.pty.input.buffer = [])
    (houtput : s.pty.output.writers = [] ∧ s.pty.output.buffer = []) :
    s.received = BoundedPipe.dataOf s.turns ∧ s.drained = BoundedPipe.dataOf s.childTurns :=
  have hinv := reachable_inv h
  ⟨hinv.input.taken_eq hinput.1 hinput.2, hinv.output.taken_eq houtput.1 houtput.2⟩

end Invariant

section Batches

variable {P : Type u} {G : Type v}

/-- A batch was read before it had the size at which it is handled, by one read at most. -/
def Bounded (batch : Bytes) : Prop :=
  batch.length < coalesceMaxBytes + readBufferBytes

variable [VteParser P] [Vt100Parser G]

/-- A read adds no more than the size of the read buffer to a batch below the limit. -/
theorem bounded_readOutput {pty pty' : PtyPane P G} {n : Nat}
    (hnext : pty.next (.readOutput n) = some pty') :
    Bounded pty'.batch := by
  simp only [PtyPane.next, Option.ite_none_right_eq_some, Bool.and_eq_true,
    decide_eq_true_eq] at hnext
  obtain ⟨⟨⟨_, hread⟩, hbelow⟩, htaken⟩ := hnext
  obtain ⟨⟨data, output⟩, hdata, rfl⟩ := Option.map_eq_some_iff.mp htaken
  have hlength : data.length ≤ n := by
    rw [BoundedPipe.read_taken hdata]
    exact List.length_take_le _ _
  change (pty.batch ++ data).length < coalesceMaxBytes + readBufferBytes
  rw [List.length_append]
  omega

theorem batch_of_next {s s' : PtyTraffic P G} {a : PtyStep}
    (hbatch : Bounded s.pty.batch)
    (hnext : s.next a = some s') :
    Bounded s'.pty.batch := by
  obtain ⟨pty, hpty, rfl⟩ := Option.map_eq_some_iff.mp hnext
  cases a with
  | readOutput n => exact bounded_readOutput hpty
  | handleBatch =>
      simp only [PtyPane.next, Option.ite_none_left_eq_some, Option.some.injEq] at hpty
      obtain ⟨_, rfl⟩ := hpty
      change Bounded (PtyPane.startReplying _ _).batch
      rw [startReplying_batch]
      exact Nat.zero_lt_succ _
  | childWrite data =>
      simp only [PtyPane.next, Option.ite_none_right_eq_some, Option.some.injEq] at hpty
      obtain ⟨_, rfl⟩ := hpty
      exact hbatch
  | childPush n =>
      obtain ⟨_, _, rfl⟩ := Option.map_eq_some_iff.mp hpty
      exact hbatch
  | childWritten =>
      obtain ⟨_, _, rfl⟩ := Option.map_eq_some_iff.mp hpty
      exact hbatch
  | childRead n =>
      simp only [PtyPane.next, Option.ite_none_right_eq_some] at hpty
      obtain ⟨_, _, rfl⟩ := Option.map_eq_some_iff.mp hpty.2
      exact hbatch
  | terminalInput clientId resolvedBytes =>
      simp only [PtyPane.next, Option.ite_none_left_eq_some, Option.some.injEq] at hpty
      obtain ⟨_, rfl⟩ := hpty
      exact hbatch
  | writeInput n =>
      obtain ⟨_, _, rfl⟩ := Option.map_eq_some_iff.mp hpty
      exact hbatch
  | finishWrite =>
      obtain ⟨_, _, rfl⟩ := Option.map_eq_some_iff.mp hpty
      exact hbatch

/-- No batch is empty, or exceeds its limit by more than a read. -/
theorem batches_bounded {s : PtyTraffic P G}
    (h : (system P G).Reachable s) :
    Bounded s.pty.batch ∧ ∀ b ∈ s.handled, b.1 ≠ [] ∧ Bounded b.1 := by
  refine h.invariant (I := fun s => Bounded s.pty.batch ∧ ∀ b ∈ s.handled, b.1 ≠ [] ∧
    Bounded b.1) ?_ ?_
  · rintro s ⟨⟨_, _, hbatch, _⟩, _, _, _, hhandled⟩
    rw [hbatch, hhandled]
    exact ⟨Nat.zero_lt_succ _, fun b hb => absurd hb List.not_mem_nil⟩
  · rintro s a s' ⟨hbatch, hhandled⟩ hnext
    refine ⟨batch_of_next hbatch hnext, ?_⟩
    obtain ⟨pty, hpty, rfl⟩ := Option.map_eq_some_iff.mp hnext
    cases a with
    | handleBatch =>
        simp only [PtyPane.next, Option.ite_none_left_eq_some, Bool.or_eq_true, not_or,
          List.isEmpty_iff] at hpty
        intro b hb
        rcases List.mem_append.mp hb with hb | hb
        · exact hhandled b hb
        · rw [List.mem_singleton.mp hb]
          exact ⟨hpty.1.2, hbatch⟩
    | _ => exact hhandled

end Batches

section Example

/-- The child reads the input and the beginning of the reply to its query. -/
def answeredTraffic : List PtyStep :=
  [.terminalInput 8 (bytesOf "ls"), .childWrite (bytesOf "\x1b[6n"), .childPush 4, .childWritten,
    .readOutput 4, .handleBatch, .writeInput 2, .finishWrite, .writeInput 4, .childRead 5]

/-- The theorem at the end of that run. -/
theorem traffic_whole_answered :
    ∃ s : PtyTraffic SampleParser SampleGrid,
      s.received = bytesOf "ls\x1b[1" ∧
      s.handled.map Prod.fst = [bytesOf "\x1b[6n"] ∧
      s.received <+: BoundedPipe.dataOf s.turns ∧
      replyData s.turns = repliesOf s.handled := by
  obtain ⟨s, hreach, hreceived, hhandled⟩ := System.exists_reachable
    (S := system SampleParser SampleGrid) answeredTraffic
    (s := ⟨PtyPane.samplePty 16 16, [], [], [], []⟩)
    (p := fun s => s.received = bytesOf "ls\x1b[1" ∧
      s.handled.map Prod.fst = [bytesOf "\x1b[6n"])
    ⟨PtyPane.samplePty_init 16 16, rfl, rfl, rfl, rfl⟩ (by decide +kernel)
  obtain ⟨hinput, _, hreplies⟩ := traffic_whole hreach
  exact ⟨s, hreceived, hhandled, hinput.taken_isPrefix, hreplies⟩

end Example

end PtyTraffic

end Server
end Rttx
