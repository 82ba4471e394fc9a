import Rttx.Kernel.BoundedPipe
import Rttx.Kernel.TransitionSystem
import Rttx.Server.OutputTask
import Rttx.Server.SampleTerminal

/-!
# The two pipes of a pane

A pane's child reads its input from one bounded pipe and writes its output to
another.  The read loop is the only reader of the output.  It is also a writer
of the input: when a batch of output holds cursor or device queries it takes
the pane's writer lock and writes the replies, reading nothing meanwhile.  The
handlers of terminal input take the same lock and hold it through their write.

The child may write as much as it likes before it reads.

**Results.**
* `no_stuck_pane`: in runs where the read loop starts to write replies only
  when they fit, with all input due before them, no state is stuck.
* `stuck_follows_unfit_replies`: from every other start of writing replies a
  stuck state can be reached.
* `query_behind_paste_stuck`: a reachable stuck state.
-/

namespace Rttx
namespace Server

open Kernel

universe u v

/-- The most bytes that one read of the PTY returns. -/
def readBufferBytes : Nat := 4096

/-- A batch that has grown to this size is handled without reading more. -/
def coalesceMaxBytes : Nat := 64 * 1024

/-- The tasks that write to a pane's PTY. -/
inductive PtyWriter
  | readLoop
  | terminalInput (clientId : Uuid)
deriving DecidableEq

/-- A pane, its child's two pipes, and its read loop: the batch read so far,
and whether the loop is writing replies. -/
structure PtyPane (P : Type u) (G : Type v) where
  input : BoundedPipe PtyWriter UInt8
  output : BoundedPipe Unit UInt8
  pane : Pane P G
  batch : Bytes
  replying : Bool

inductive PtyStep
  | childWrite (data : Bytes)
  | childPush (n : Nat)
  | childWritten
  | childRead (n : Nat)
  | terminalInput (clientId : Uuid) (resolvedBytes : Bytes)
  | writeInput (n : Nat)
  | finishWrite
  | readOutput (n : Nat)
  | handleBatch
deriving DecidableEq

namespace PtyPane

section Steps

variable {P : Type u} {G : Type v}
variable [VteParser P] [Vt100Parser G]

/-- Handle a batch: its pending replies, and the pane afterwards. -/
def pendingRepliesOf (pane : Pane P G) (raw : Bytes) : List Bytes × Pane P G :=
  let (taken, pane) := Workspace.takePaneOutput pane raw
  let (result, pane) := pane.returnScreen (taken.screen.parse taken.data)
  (result.pendingReplies, pane)

/-- The read loop writes all replies under one acquisition of the lock. -/
def startReplying (s : PtyPane P G) (replies : List Bytes) : PtyPane P G :=
  if replies.isEmpty then
    s
  else
    { s with replying := true, input := s.input.enqueue .readLoop replies.flatten }

def next (s : PtyPane P G) : PtyStep → Option (PtyPane P G)
  -- The child blocks in a write: it starts another, and reads, only between writes.
  | .childWrite data =>
      if s.output.writers.isEmpty then
        some { s with output := s.output.enqueue () data }
      else
        none
  | .childPush n =>
      (s.output.write n).map fun output => { s with output := output }
  | .childWritten =>
      s.output.release.map fun (_, output) => { s with output := output }
  | .childRead n =>
      if s.output.writers.isEmpty then
        (s.input.read n).map fun (_, input) => { s with input := input }
      else
        none
  | .terminalInput clientId resolvedBytes =>
      if resolvedBytes.isEmpty then
        none
      else
        some { s with input := s.input.enqueue (.terminalInput clientId) resolvedBytes }
  | .writeInput n =>
      (s.input.write n).map fun input => { s with input := input }
  | .finishWrite =>
      s.input.release.map fun (task, input) =>
        { s with input := input, replying := s.replying && task != .readLoop }
  | .readOutput n =>
      if !s.replying && n ≤ readBufferBytes && s.batch.length < coalesceMaxBytes then
        (s.output.read n).map fun (data, output) =>
          { s with output := output, batch := s.batch ++ data }
      else
        none
  | .handleBatch =>
      if s.replying || s.batch.isEmpty then
        none
      else
        let (replies, pane) := pendingRepliesOf s.pane s.batch
        some ({ s with pane := pane, batch := [] }.startReplying replies)

/-- The replies of the batch at hand fit: together with what all writers at
the lock still have to write they go into the free space of the input. -/
def repliesFit (s : PtyPane P G) : PtyStep → Bool
  | .handleBatch =>
      let replies := (pendingRepliesOf s.pane s.batch).1
      replies.isEmpty ||
        decide (s.input.due + replies.flatten.length + s.input.buffer.length ≤ s.input.capacity)
  | _ => true

end Steps

/-- The empty pipes of a new pane, of any capacities. -/
def system (P : Type u) (G : Type v) [VteParser P] [Vt100Parser G] :
    System (PtyPane P G) PtyStep where
  init s := s.input = .empty s.input.capacity ∧ s.output = .empty s.output.capacity ∧
    s.batch = [] ∧ s.replying = false
  next := next

section Stuck

variable {P : Type u} {G : Type v}

/-- The read loop waits for the writer lock, or for space in the input. -/
def readLoopWaits (s : PtyPane P G) : Bool :=
  s.replying &&
    match s.input.writers with
    | (.terminalInput _, _) :: _ => true
    | (.readLoop, _ :: _) :: _ => s.input.full
    | _ => false

/-- The holder of the writer lock waits for the child to read. -/
def lockHolderWaits (s : PtyPane P G) : Bool :=
  s.input.holderBlocked

/-- The child waits for the read loop to drain its output. -/
def childWaits (s : PtyPane P G) : Bool :=
  s.output.holderBlocked

/-- Each of the three waits for the next. -/
def stuck (s : PtyPane P G) : Bool :=
  s.readLoopWaits && s.lockHolderWaits && s.childWaits

end Stuck

section Turns

variable {P : Type u} {G : Type v}

/-- The read loop has one turn at the writer lock while it writes replies, and
none otherwise. -/
def OneTurn (s : PtyPane P G) : Prop :=
  s.input.tasks.count .readLoop = if s.replying then 1 else 0

theorem OneTurn.waits {s : PtyPane P G}
    (h : s.OneTurn)
    (hreplying : s.replying = true) :
    .readLoop ∈ s.input.tasks := by
  rw [OneTurn, hreplying, if_pos rfl] at h
  exact List.count_pos_iff.mp (by omega)

theorem OneTurn.absent {s : PtyPane P G}
    (h : s.OneTurn)
    (hreplying : s.replying = false) :
    .readLoop ∉ s.input.tasks := by
  rw [OneTurn, hreplying] at h
  exact List.count_eq_zero.mp h

theorem OneTurn.release {s : PtyPane P G} {task : PtyWriter}
    {input : BoundedPipe PtyWriter UInt8}
    (h : s.OneTurn)
    (hrelease : s.input.release = some (task, input)) :
    ({ s with input := input, replying := s.replying && task != .readLoop } :
      PtyPane P G).OneTurn := by
  have htasks := BoundedPipe.tasks_release hrelease
  cases task with
  | readLoop =>
      simp only [OneTurn, htasks, List.count_cons_self] at h
      simp only [OneTurn, bne_self_eq_false, Bool.and_false, Bool.false_eq_true, if_false]
      split at h <;> omega
  | terminalInput clientId => simpa [OneTurn, htasks] using h

theorem OneTurn.startReplying {s : PtyPane P G}
    (h : s.OneTurn)
    (hreplying : s.replying = false)
    (replies : List Bytes) :
    (s.startReplying replies).OneTurn := by
  simp only [PtyPane.startReplying]
  split
  · exact h
  · simp [OneTurn, List.count_eq_zero.mpr (h.absent hreplying)]

variable [VteParser P] [Vt100Parser G]

/-- **Step lemma.** -/
theorem OneTurn.next {s s' : PtyPane P G} {a : PtyStep}
    (h : s.OneTurn)
    (hnext : s.next a = some s') :
    s'.OneTurn := by
  cases a with
  | childWrite data =>
      simp only [PtyPane.next, Option.ite_none_right_eq_some, Option.some.injEq] at hnext
      exact hnext.2 ▸ h
  | childPush n =>
      obtain ⟨output, _, rfl⟩ := Option.map_eq_some_iff.mp hnext
      exact h
  | childWritten =>
      obtain ⟨released, _, rfl⟩ := Option.map_eq_some_iff.mp hnext
      exact h
  | childRead n =>
      simp only [PtyPane.next, Option.ite_none_right_eq_some] at hnext
      obtain ⟨⟨taken, input⟩, hread, rfl⟩ := Option.map_eq_some_iff.mp hnext.2
      simpa only [OneTurn, BoundedPipe.tasks_read hread] using h
  | terminalInput clientId resolvedBytes =>
      simp only [PtyPane.next, Option.ite_none_left_eq_some, Option.some.injEq] at hnext
      obtain ⟨_, rfl⟩ := hnext
      simpa [OneTurn] using h
  | writeInput n =>
      obtain ⟨input, hwrite, rfl⟩ := Option.map_eq_some_iff.mp hnext
      simpa only [OneTurn, BoundedPipe.tasks_write hwrite] using h
  | finishWrite =>
      obtain ⟨⟨task, input⟩, hrelease, rfl⟩ := Option.map_eq_some_iff.mp hnext
      exact h.release hrelease
  | readOutput n =>
      simp only [PtyPane.next, Option.ite_none_right_eq_some] at hnext
      obtain ⟨taken, _, rfl⟩ := Option.map_eq_some_iff.mp hnext.2
      exact h
  | handleBatch =>
      simp only [PtyPane.next, Option.ite_none_left_eq_some, Option.some.injEq,
        Bool.or_eq_true, not_or, Bool.not_eq_true] at hnext
      obtain ⟨⟨hreplying, _⟩, rfl⟩ := hnext
      have hhandled : ({ s with pane := (pendingRepliesOf s.pane s.batch).2, batch := [] } :
          PtyPane P G).OneTurn := h
      exact hhandled.startReplying hreplying _

theorem Reachable.oneTurn {s : PtyPane P G}
    (h : (system P G).Reachable s) :
    s.OneTurn := by
  refine h.invariant (I := OneTurn) ?_ (fun s a s' hI hnext => hI.next hnext)
  rintro s ⟨hinput, _, _, hreplying⟩
  rw [OneTurn, hinput, hreplying]
  rfl

end Turns

section Fitting

variable {P : Type u} {G : Type v}

/-- While the read loop writes replies, they fit. -/
def RepliesFit (s : PtyPane P G) : Prop :=
  s.replying = true → s.input.Fits .readLoop

theorem RepliesFit.not_stuck {s : PtyPane P G}
    (h : s.RepliesFit) :
    s.stuck = false := by
  cases hreplying : s.replying with
  | false => simp [stuck, readLoopWaits, hreplying]
  | true => simp [stuck, lockHolderWaits, (h hreplying).not_holderBlocked]

theorem RepliesFit.release {s : PtyPane P G} {task : PtyWriter}
    {input : BoundedPipe PtyWriter UInt8}
    (h : s.RepliesFit)
    (hrelease : s.input.release = some (task, input)) :
    ({ s with input := input, replying := s.replying && task != .readLoop } :
      PtyPane P G).RepliesFit := by
  intro hreplying
  simp only [Bool.and_eq_true, bne_iff_ne] at hreplying
  exact (h hreplying.1).release hrelease hreplying.2

variable [VteParser P] [Vt100Parser G]

/-- The replies of a batch that fit keep fitting from then on. -/
theorem RepliesFit.handleBatch {s s' : PtyPane P G}
    (h : s.OneTurn)
    (hfit : s.repliesFit .handleBatch = true)
    (hnext : s.next .handleBatch = some s') :
    s'.RepliesFit := by
  simp only [PtyPane.next, Option.ite_none_left_eq_some, Option.some.injEq,
    Bool.or_eq_true, not_or, Bool.not_eq_true] at hnext
  obtain ⟨⟨hreplying, _⟩, rfl⟩ := hnext
  simp only [repliesFit, Bool.or_eq_true, decide_eq_true_eq] at hfit
  simp only [RepliesFit, startReplying]
  split
  · intro hagain
    rw [hreplying] at hagain
    cases hagain
  · rename_i hsome
    intro _
    exact BoundedPipe.fits_enqueue (h.absent hreplying) (hfit.resolve_left hsome)

/-- **Step lemma.** -/
theorem RepliesFit.next {s s' : PtyPane P G} {a : PtyStep}
    (h : s.RepliesFit)
    (hturn : s.OneTurn)
    (hfit : s.repliesFit a = true)
    (hnext : s.next a = some s') :
    s'.RepliesFit := by
  cases a with
  | childWrite data =>
      simp only [PtyPane.next, Option.ite_none_right_eq_some, Option.some.injEq] at hnext
      exact hnext.2 ▸ h
  | childPush n =>
      obtain ⟨output, _, rfl⟩ := Option.map_eq_some_iff.mp hnext
      exact h
  | childWritten =>
      obtain ⟨released, _, rfl⟩ := Option.map_eq_some_iff.mp hnext
      exact h
  | childRead n =>
      simp only [PtyPane.next, Option.ite_none_right_eq_some] at hnext
      obtain ⟨⟨taken, input⟩, hread, rfl⟩ := Option.map_eq_some_iff.mp hnext.2
      exact fun hreplying => (h hreplying).read hread
  | terminalInput clientId resolvedBytes =>
      simp only [PtyPane.next, Option.ite_none_left_eq_some, Option.some.injEq] at hnext
      obtain ⟨_, rfl⟩ := hnext
      exact fun hreplying => (h hreplying).enqueue _ _
  | writeInput n =>
      obtain ⟨input, hwrite, rfl⟩ := Option.map_eq_some_iff.mp hnext
      exact fun hreplying => (h hreplying).write hwrite
  | finishWrite =>
      obtain ⟨⟨task, input⟩, hrelease, rfl⟩ := Option.map_eq_some_iff.mp hnext
      exact h.release hrelease
  | readOutput n =>
      simp only [PtyPane.next, Option.ite_none_right_eq_some] at hnext
      obtain ⟨taken, _, rfl⟩ := Option.map_eq_some_iff.mp hnext.2
      exact h
  | handleBatch => exact RepliesFit.handleBatch hturn hfit hnext

/-- **No stuck pane**, in runs where the read loop starts to write replies only
when they fit. -/
theorem no_stuck_pane {s : PtyPane P G}
    (h : (system P G).ReachableUnder (fun s a => s.repliesFit a = true) s) :
    s.stuck = false := by
  have hboth : s.OneTurn ∧ s.RepliesFit := by
    refine h.invariant (I := fun s => s.OneTurn ∧ s.RepliesFit) ?_ ?_
    · intro s hinit
      refine ⟨Reachable.oneTurn (System.Reachable.of_init hinit), ?_⟩
      intro hreplying
      rw [hinit.2.2.2] at hreplying
      cases hreplying
    · intro s a s' hI hfit hnext
      exact ⟨hI.1.next hnext, hI.2.next hI.1 hfit hnext⟩
  exact hboth.2.not_stuck

/-- Replies that fit keep fitting until the next batch is handled. -/
theorem RepliesFit.exec {s s' : PtyPane P G} {acts : List PtyStep}
    (h : s.RepliesFit)
    (hturn : s.OneTurn)
    (hacts : .handleBatch ∉ acts)
    (hrun : (system P G).exec s acts = some s') :
    s'.RepliesFit := by
  induction acts generalizing s with
  | nil =>
      simp only [System.exec, Option.some.injEq] at hrun
      exact hrun ▸ h
  | cons a rest ih =>
      simp only [List.mem_cons, not_or] at hacts
      cases hnext : (system P G).next s a with
      | none => simp [System.exec, hnext] at hrun
      | some s₁ =>
          rw [System.exec, hnext] at hrun
          have hfit : s.repliesFit a = true := by
            cases a with
            | handleBatch => exact absurd rfl hacts.1
            | _ => rfl
          exact ih (h.next hturn hfit hnext) (hturn.next hnext) hacts.2 hrun

end Fitting

section Exactness

variable {P : Type u} {G : Type v}

theorem readLoopWaits_of_lockHolderWaits {s : PtyPane P G}
    (hreplying : s.replying = true)
    (hholder : s.lockHolderWaits = true) :
    s.readLoopWaits = true := by
  simp only [lockHolderWaits, BoundedPipe.holderBlocked] at hholder
  simp only [readLoopWaits, hreplying, Bool.true_and]
  split at hholder
  · rename_i task _ _ _ hwriters
    cases task with
    | readLoop => simpa [hwriters] using hholder
    | terminalInput clientId => simp [hwriters]
  · cases hholder

variable [VteParser P] [Vt100Parser G]

/-- The writers of one pipe run while everything else stands still. -/
theorem exec_of_drains {τ : Type} {mayLeave : τ → Prop} {p p' : BoundedPipe τ UInt8}
    (h : p.Drains mayLeave p')
    (put : BoundedPipe τ UInt8 → PtyPane P G)
    (push : Nat → PtyStep)
    (finish : PtyStep)
    (hpush : ∀ n p p', p.write n = some p' → (put p).next (push n) = some (put p'))
    (hfinish :
      ∀ u p p', mayLeave u → p.release = some (u, p') → (put p).next finish = some (put p'))
    (hpushes : ∀ n, push n ≠ .handleBatch)
    (hfinishes : finish ≠ .handleBatch) :
    ∃ acts,
      .handleBatch ∉ acts ∧
      (system P G).exec (put p) acts = some (put p') := by
  induction h with
  | refl p => exact ⟨[], by simp, rfl⟩
  | @write p p₁ _ n hwrite _ ih =>
      obtain ⟨acts, hacts, hrun⟩ := ih
      have hnext : (system P G).next (put p) (push n) = some (put p₁) := hpush n p p₁ hwrite
      refine ⟨push n :: acts, by simp [hacts, (hpushes n).symm], ?_⟩
      rw [System.exec, hnext]
      exact hrun
  | @release p p₁ _ u hu hrelease _ ih =>
      obtain ⟨acts, hacts, hrun⟩ := ih
      have hnext : (system P G).next (put p) finish = some (put p₁) := hfinish u p p₁ hu hrelease
      refine ⟨finish :: acts, by simp [hacts, hfinishes.symm], ?_⟩
      rw [System.exec, hnext]
      exact hrun

theorem exec_of_drains_input {s : PtyPane P G} {input : BoundedPipe PtyWriter UInt8}
    (h : s.input.Drains (fun task => task ≠ .readLoop) input) :
    ∃ acts,
      .handleBatch ∉ acts ∧
      (system P G).exec s acts = some { s with input := input } := by
  refine exec_of_drains h (fun input => { s with input := input }) .writeInput .finishWrite
    ?_ ?_ (by simp) (by simp)
  · intro n p p' hwrite
    simp [next, hwrite]
  · intro task p p' htask hrelease
    simp [next, hrelease, htask]

theorem exec_of_drains_output {s : PtyPane P G} {output : BoundedPipe Unit UInt8}
    (h : s.output.Drains (fun _ => True) output) :
    ∃ acts,
      .handleBatch ∉ acts ∧
      (system P G).exec s acts = some { s with output := output } := by
  refine exec_of_drains h (fun output => { s with output := output }) .childPush .childWritten
    ?_ ?_ (by simp) (by simp)
  · intro n p p' hwrite
    simp [next, hwrite]
  · intro task p p' _ hrelease
    simp [next, hrelease]

/-- A child that keeps writing comes to wait for its output to be drained. -/
theorem child_comes_to_wait (s : PtyPane P G) :
    ∃ acts output,
      .handleBatch ∉ acts ∧
      (system P G).exec s acts = some { s with output := output } ∧
      output.holderBlocked = true := by
  rcases BoundedPipe.drains_front (fun _ => True) (List.append_nil s.output.writers).symm
    (fun _ _ => trivial) with hblocked | hdone
  · obtain ⟨output, hdrains, hblocked⟩ := hblocked
    obtain ⟨acts, hacts, hrun⟩ := exec_of_drains_output hdrains
    exact ⟨acts, output, hacts, hrun, hblocked⟩
  · -- Its write is done; it starts one that is larger than the buffer.
    obtain ⟨idle, hdrains, hwriters, _, _⟩ := hdone
    obtain ⟨acts, hacts, hrun⟩ := exec_of_drains_output hdrains
    have hlarge : (idle.enqueue () (List.replicate (idle.capacity + 1) esc)).writers =
        [((), List.replicate (idle.capacity + 1) esc)] := by
      rw [BoundedPipe.enqueue, hwriters, List.nil_append]
    obtain ⟨output, hfill, hblocked⟩ :=
      BoundedPipe.drains_holder_blocked (fun _ => True) hlarge
        (by simp only [BoundedPipe.enqueue, List.length_replicate]; omega)
    obtain ⟨acts', hacts', hrun'⟩ := exec_of_drains_output
      (s := { s with output := idle.enqueue () (List.replicate (idle.capacity + 1) esc) }) hfill
    refine ⟨acts ++ .childWrite (List.replicate (idle.capacity + 1) esc) :: acts', output,
      by simp [hacts, hacts'], ?_, hblocked⟩
    rw [System.exec_append, hrun, Option.bind_some, System.exec]
    simpa [system, next, hwriters] using hrun'

/-- Replies that exceed the free space can end in a stuck state. -/
theorem stuck_follows_overfull {s : PtyPane P G}
    (hreplying : s.replying = true)
    (hturn : .readLoop ∈ s.input.tasks)
    (hexceeds :
      s.input.capacity <
        BoundedPipe.dueThrough .readLoop s.input.writers + s.input.buffer.length) :
    ∃ acts s',
      .handleBatch ∉ acts ∧
      (system P G).exec s acts = some s' ∧
      s'.stuck = true := by
  obtain ⟨input, hdrains, hblocked⟩ := BoundedPipe.drains_to_blocked hturn hexceeds
  obtain ⟨acts, hacts, hrun⟩ := exec_of_drains_input hdrains
  obtain ⟨acts', output, hacts', hrun', hfull⟩ := child_comes_to_wait { s with input := input }
  refine ⟨acts ++ acts', { s with input := input, output := output },
    by simp [hacts, hacts'], ?_, ?_⟩
  · rw [System.exec_append, hrun]
    exact hrun'
  · have hreads : readLoopWaits { s with input := input, output := output } = true :=
      readLoopWaits_of_lockHolderWaits hreplying hblocked
    simp only [stuck, hreads, lockHolderWaits, hblocked, childWaits, hfull, Bool.and_self]

/-- Replies that do not fit can end in a stuck state. -/
theorem stuck_follows_unfit_replies {s s' : PtyPane P G}
    (h : s.OneTurn)
    (hnext : s.next .handleBatch = some s')
    (hunfit : s.repliesFit .handleBatch = false) :
    ∃ acts s'',
      .handleBatch ∉ acts ∧
      (system P G).exec s' acts = some s'' ∧
      s''.stuck = true := by
  have hturn := h.next hnext
  simp only [next, Option.ite_none_left_eq_some, Option.some.injEq, Bool.or_eq_true, not_or,
    Bool.not_eq_true] at hnext
  obtain ⟨⟨hreplying, _⟩, rfl⟩ := hnext
  simp only [repliesFit, Bool.or_eq_false_iff, decide_eq_false_iff_not, Nat.not_le] at hunfit
  obtain ⟨hsome, hexceeds⟩ := hunfit
  simp only [startReplying, hsome, Bool.false_eq_true, if_false] at hturn ⊢
  refine stuck_follows_overfull rfl (hturn.waits rfl) ?_
  simp only [BoundedPipe.enqueue]
  rw [BoundedPipe.dueThrough_append_of_not_mem (h.absent hreplying)]
  exact hexceeds

/-- The condition is exact: a batch's replies fit if and only if no state is
stuck before the next batch is handled, whatever the steps. -/
theorem repliesFit_iff {s s' : PtyPane P G}
    (h : (system P G).Reachable s)
    (hnext : s.next .handleBatch = some s') :
    s.repliesFit .handleBatch = true ↔
      ∀ acts s'',
        .handleBatch ∉ acts →
        (system P G).exec s' acts = some s'' →
        s''.stuck = false := by
  have hturn := Reachable.oneTurn h
  constructor
  · intro hfit acts s'' hacts hrun
    have hstart : s'.RepliesFit := RepliesFit.handleBatch hturn hfit hnext
    exact (hstart.exec (hturn.next hnext) hacts hrun).not_stuck
  · intro hnever
    by_contra hunfit
    obtain ⟨acts, s'', hacts, hrun, hstuck⟩ :=
      stuck_follows_unfit_replies hturn hnext (by simpa using hunfit)
    rw [hnever acts s'' hacts hrun] at hstuck
    cases hstuck

end Exactness

section Runs

/-- A new pane with empty pipes. -/
def samplePty (inputCapacity outputCapacity : Nat) : PtyPane SampleParser SampleGrid :=
  ⟨.empty inputCapacity, .empty outputCapacity, Pane.new 1 80 24, [], false⟩

theorem samplePty_init (inputCapacity outputCapacity : Nat) :
    (system SampleParser SampleGrid).init (samplePty inputCapacity outputCapacity) :=
  ⟨rfl, rfl, rfl, rfl⟩

/-- The child asks for the cursor position and writes on. -/
def cursorQuery : Bytes :=
  bytesOf "\x1b[6n" ++ List.replicate 40 0x78

/-- The query is answered while a command waits in the input. -/
def answeredQuery : List PtyStep :=
  [.terminalInput 8 (bytesOf "ls"), .childWrite cursorQuery, .childPush 16, .readOutput 16,
    .handleBatch, .writeInput 2, .childPush 16]

/-- The theorem while the reply is due. -/
theorem no_stuck_pane_answeredQuery :
    ∃ s : PtyPane SampleParser SampleGrid,
      s.replying = true ∧ s.childWaits = true ∧ s.stuck = false := by
  obtain ⟨s, hreach, hreplying, hwaits⟩ := System.exists_reachableUnder
    (S := system SampleParser SampleGrid) repliesFit answeredQuery
    (p := fun s => s.replying = true ∧ s.childWaits = true) (samplePty_init 16 16)
    (by decide +kernel)
  exact ⟨s, hreplying, hwaits, no_stuck_pane hreach⟩

/-- A paste fills the input before the child reads; the child asks for the
cursor position and writes on. -/
def queryBehindPaste : List PtyStep :=
  [.terminalInput 8 (List.replicate 20 0x61), .writeInput 16, .childWrite cursorQuery,
    .childPush 16, .readOutput 16, .handleBatch, .childPush 16]

/-- **A stuck pane**: the read loop waits for the lock behind the paste, the
paste for the child, and the child for the read loop. -/
theorem query_behind_paste_stuck :
    ∃ s : PtyPane SampleParser SampleGrid,
      (system SampleParser SampleGrid).Reachable s ∧ s.stuck = true :=
  System.exists_reachable queryBehindPaste (samplePty_init 16 16) (by decide +kernel)

end Runs

end PtyPane

end Server
end Rttx
