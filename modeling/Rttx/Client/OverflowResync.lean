import Rttx.Client.ActorFrames

/-!
# Overflow notices and resyncs

An overflow notice that comes in through the main loop makes the actor send
itself a resync command, which it takes like any other command and turns into a
request.  In the read loop of a request the notice is handed on to the window
instead, which ignores it.

**Results.**
* `overflow_honoured`: in runs in which no due notice comes in during a
  request, and the command channel has room, each notice is followed by a resync
  request or the end of the connection, or the resync is still queued.
* `overflow_swallowed`: a notice read while a response is awaited is lost.
-/

namespace Rttx
namespace Client

open Kernel Server

namespace EndpointActor

section Debt

/-- The runtimes after one more record: a due notice adds its own, a resync
request removes the one it names, the end of a connection removes them all. -/
def owedStep (owed : List Uuid) : ActorRecord → List Uuid
  | .received env true =>
      match env.payload with
      | .streamOverflow runtimeId _ _ => owed ++ [runtimeId]
      | _ => owed
  | .sent env =>
      match env.command with
      | .resyncWorkspace runtimeId => owed.filter (fun id => id ≠ runtimeId)
      | _ => owed
  | .closed => []
  | _ => owed

/-- The runtimes with an overflow notice that no resync request has followed on
its connection. -/
def owed (a : EndpointActor) : List Uuid :=
  a.log.foldl owedStep []

/-- A resync of the runtime is in the command channel. -/
def queued (a : EndpointActor) (runtimeId : Uuid) : Bool :=
  a.commands.items.any fun
    | .resyncWorkspace _ text => text = uuidToString runtimeId
    | _ => false

/-- The resync request for the runtime is being written. -/
def Writing (a : EndpointActor) (runtimeId : Uuid) : Prop :=
  ∃ via env after, a.phase = .sending via env after ∧ env.command = .resyncWorkspace runtimeId

/-- Every overflow notice of a tracked workspace has been followed by a resync
request on its connection or by the end of the connection, or the resync is
queued or being written. -/
def OverflowHonoured (a : EndpointActor) : Prop :=
  ∀ id ∈ a.owed, a.queued id = true ∨ a.Writing id

/-- Whether the step leaves a way to honour overflow notices: a due notice
comes in through the main loop and the command channel has room, or a resync of
its runtime is queued already; and the write of a resync request fails only
where no split connection stands. -/
def resyncable (a : EndpointActor) : ActorStep → Bool
  | .receive env =>
      !a.due env ||
        match env.payload with
        | .streamOverflow runtimeId _ _ =>
            a.link = .split &&
              (a.queued runtimeId || (a.phase = .idle false && a.commands.accepts))
        | _ => true
  | .writeFails _ =>
      match a.phase with
      | .sending _ env _ =>
          match env.command with
          | .resyncWorkspace _ => a.peerClosed || a.link ≠ .split
          | _ => true
      | _ => true
  | _ => true

theorem queued_iff {a : EndpointActor} {id : Uuid} :
    a.queued id = true ↔
      ∃ workspaceId, .resyncWorkspace workspaceId (uuidToString id) ∈ a.commands.items := by
  simp only [queued, List.any_eq_true]
  constructor
  · rintro ⟨command, hmem, hmatch⟩
    split at hmatch
    · rename_i workspaceId text
      rw [decide_eq_true_eq] at hmatch
      exact ⟨workspaceId, hmatch ▸ hmem⟩
    · cases hmatch
  · rintro ⟨workspaceId, hmem⟩
    exact ⟨_, hmem, by simp⟩

theorem queued_mono {a b : EndpointActor} {id : Uuid}
    (h : ∀ command ∈ a.commands.items, command ∈ b.commands.items)
    (hqueued : a.queued id = true) :
    b.queued id = true := by
  obtain ⟨workspaceId, hmem⟩ := queued_iff.mp hqueued
  exact queued_iff.mpr ⟨workspaceId, h _ hmem⟩

end Debt

section Invariant

/-- Without a standing split connection nothing is owed; and what is owed is on
its way. -/
structure Honours (a : EndpointActor) : Prop where
  standing : a.link ≠ .split ∨ a.peerClosed = true → a.owed = []
  honoured : a.OverflowHonoured

theorem owed_record (a : EndpointActor) (entry : ActorRecord) :
    (a.record entry).owed = owedStep a.owed entry := by
  simp only [owed, record, List.foldl_append, List.foldl_cons, List.foldl_nil]

/-- Reports add no debt; the end of a connection clears it. -/
theorem foldl_reports {entries : List ActorRecord}
    (h : ∀ entry ∈ entries, entry.isReport = true)
    (debt : List Uuid) :
    entries.foldl owedStep debt = [] ∨
      (.closed ∉ entries ∧ entries.foldl owedStep debt = debt) := by
  induction entries generalizing debt with
  | nil => exact Or.inr ⟨by simp, rfl⟩
  | cons entry rest ih =>
      have hrest := fun debt => ih (fun e he => h e (List.mem_cons_of_mem _ he)) debt
      have hentry := h entry List.mem_cons_self
      cases entry with
      | received env due => cases hentry
      | sent env => cases hentry
      | emitted event =>
          rcases hrest debt with hnil | ⟨hopen, hsame⟩
          · exact Or.inl hnil
          · exact Or.inr ⟨by simpa using hopen, hsame⟩
      | dropped event =>
          rcases hrest debt with hnil | ⟨hopen, hsame⟩
          · exact Or.inl hnil
          · exact Or.inr ⟨by simpa using hopen, hsame⟩
      | closed =>
          rcases hrest [] with hnil | ⟨_, hsame⟩
          · exact Or.inl hnil
          · exact Or.inl hsame

/-- What an actor owes after handling something. -/
theorem Continues.owed {a b : EndpointActor}
    (h : a.Continues b) :
    b.owed = [] ∨ (b.owed = a.owed ∧ (a.link = .split → b.link = .split) ∧
      (b.peerClosed = true → a.peerClosed = true)) := by
  obtain ⟨_, entries, hlog, hreports, hlink⟩ := h
  have hfold : b.owed = entries.foldl owedStep a.owed := by
    simp only [EndpointActor.owed, hlog, List.foldl_append]
  rw [hfold]
  rcases foldl_reports hreports a.owed with hnil | ⟨hopen, hsame⟩
  · exact Or.inl hnil
  · rcases hlink with hclosed | hstands
    · exact absurd hclosed hopen
    · exact Or.inr ⟨hsame, hstands⟩

/-- An actor that handles something and has every owed resync queued. -/
theorem Continues.honours {a b : EndpointActor}
    (h : a.Continues b)
    (hstanding : a.link ≠ .split ∨ a.peerClosed = true → a.owed = [])
    (hqueued : ∀ id ∈ a.owed, a.queued id = true ∨ b.Writing id) :
    b.Honours := by
  rcases h.owed with hnil | ⟨hsame, hlink, hpeer⟩
  · exact ⟨fun _ => hnil, by intro id hid; simp [hnil] at hid⟩
  · constructor
    · rintro (hnot | hclosed)
      · rw [hsame, hstanding (Or.inl (fun hsplit => hnot (hlink hsplit)))]
      · rw [hsame, hstanding (Or.inr (hpeer hclosed))]
    · intro id hid
      rw [hsame] at hid
      rcases hqueued id hid with hold | hwriting
      · exact Or.inl (queued_mono h.1 hold)
      · exact Or.inr hwriting

/-- A step that keeps the phase too. -/
theorem Honours.continues {a b : EndpointActor}
    (hinv : a.Honours)
    (h : a.Continues b)
    (hphase : ∀ id, a.Writing id → b.Writing id) :
    b.Honours :=
  h.honours hinv.standing (fun id hid => (hinv.honoured id hid).imp_right (hphase id))

/-- Outside of a write every owed resync is queued. -/
theorem Honours.queued_of_phase {a : EndpointActor}
    (hinv : a.Honours)
    (hphase : ∀ via env after, a.phase ≠ .sending via env after) :
    ∀ id ∈ a.owed, a.queued id = true := by
  intro id hid
  rcases hinv.honoured id hid with hqueued | ⟨via, env, after, hsending, _⟩
  · exact hqueued
  · exact absurd hsending (hphase via env after)

/-- Reading an envelope keeps the commands, the debt and the connection. -/
structure Reads (a b : EndpointActor) : Prop where
  commands : ∀ command ∈ a.commands.items, command ∈ b.commands.items
  owed : b.owed = a.owed
  link : b.link = a.link
  peerClosed : b.peerClosed = a.peerClosed

theorem Reads.trans {a b c : EndpointActor}
    (h : a.Reads b)
    (h' : b.Reads c) :
    a.Reads c :=
  ⟨fun command hc => h'.commands command (h.commands command hc), h'.owed.trans h.owed,
    h'.link.trans h.link, h'.peerClosed.trans h.peerClosed⟩

theorem reads_forwardPush (a : EndpointActor) (env : ServerEnvelope) :
    a.Reads (a.forwardPush env) := by
  obtain ⟨events, heq, hlog⟩ := a.emit_fields (.workspaceMessage a.endpoint env)
  have howed : (a.emit (.workspaceMessage a.endpoint env)).owed = a.owed := by
    rcases hlog with hlog | hlog <;>
      simp only [owed, hlog, List.foldl_append, List.foldl_cons, List.foldl_nil, owedStep]
  refine ⟨?_, howed, ?_, ?_⟩
  · rw [forwardPush, heq]
    exact fun _ => id
  · rw [forwardPush, heq]
  · rw [forwardPush, heq]

theorem reads_untrackTerminated (a : EndpointActor) (payload : ServerPayload) :
    a.Reads (a.untrackTerminated payload) := by
  unfold untrackTerminated
  split <;> exact ⟨fun _ => id, rfl, rfl, rfl⟩

theorem reads_observeInboundPong (a : EndpointActor) (payload : ServerPayload) :
    a.Reads (a.observeInboundPong payload).2 := by
  unfold observeInboundPong
  split
  · split <;> exact ⟨fun _ => id, rfl, rfl, rfl⟩
  · exact ⟨fun _ => id, rfl, rfl, rfl⟩

theorem reads_handleStreamOverflow (a : EndpointActor) (runtimeId : Uuid) :
    a.Reads (a.handleStreamOverflow runtimeId) := by
  unfold handleStreamOverflow
  split
  · exact ⟨fun _ => id, rfl, rfl, rfl⟩
  · exact ⟨fun _ h => Mailbox.mem_trySend h _, rfl, rfl, rfl⟩

theorem reads_handleRuntimeMessage (a : EndpointActor) (env : ServerEnvelope) :
    a.Reads (a.handleRuntimeMessage env) := by
  have hpong := a.reads_observeInboundPong env.payload
  unfold handleRuntimeMessage
  split
  · rename_i b hres
    rw [hres] at hpong
    exact hpong
  · rename_i b hres
    rw [hres] at hpong
    have hreset : b.Reads { b with heartbeat := b.heartbeat.reset } :=
      ⟨fun _ => id, rfl, rfl, rfl⟩
    have huntracked := (hpong.trans hreset).trans (reads_untrackTerminated _ env.payload)
    simp only
    split
    · exact huntracked.trans (reads_handleStreamOverflow _ _)
    · exact huntracked.trans (reads_forwardPush _ env)

theorem reads_readOther (a : EndpointActor) (env : ServerEnvelope) (expectTerminated : Bool) :
    a.Reads (a.readOther env expectTerminated) := by
  unfold readOther
  split
  · exact a.reads_observeInboundPong env.payload
  · split
    · exact ⟨fun _ => id, rfl, rfl, rfl⟩
    · exact (a.reads_untrackTerminated env.payload).trans (reads_forwardPush _ env)
  · exact (a.reads_untrackTerminated env.payload).trans (reads_forwardPush _ env)

/-- A notice that makes a resync due names a tracked workspace. -/
theorem due_eq_true {a : EndpointActor} {env : ServerEnvelope}
    (h : a.due env = true) :
    ∃ runtimeId paneId count, env.payload = .streamOverflow runtimeId paneId count ∧
      a.tracks runtimeId = true ∧ a.link ≠ .none ∧ a.peerClosed = false := by
  unfold due at h
  split at h
  · rename_i runtimeId paneId count hpayload
    simp only [Bool.and_eq_true, decide_eq_true_eq, Bool.not_eq_true'] at h
    exact ⟨runtimeId, paneId, count, hpayload, h.1.1, h.1.2, h.2⟩
  · cases h

/-- In the main loop with room in the command channel, a due notice queues a
resync of its runtime. -/
theorem queued_handleRuntimeMessage {a : EndpointActor} {env : ServerEnvelope}
    {runtimeId : Uuid} {paneId : Option Uuid} {count : Nat}
    (hpayload : env.payload = .streamOverflow runtimeId paneId count)
    (htracks : a.tracks runtimeId = true)
    (hroom : a.commands.accepts = true) :
    (a.handleRuntimeMessage env).queued runtimeId = true := by
  obtain ⟨workspaceId, hfound⟩ := Option.isSome_iff_exists.mp htracks
  have hsent := (Mailbox.trySend_of_accepts hroom
    (.resyncWorkspace workspaceId (uuidToString runtimeId))).2
  refine queued_iff.mpr ⟨workspaceId, ?_⟩
  simp only [handleRuntimeMessage, observeInboundPong, hpayload, untrackTerminated,
    handleStreamOverflow, hfound, trySelf, hsent]
  exact List.mem_append_right _ (List.mem_singleton_self _)

/-- What is owed once an envelope was recorded: what was owed, and the runtime
of a due notice. -/
theorem mem_owed_received {a : EndpointActor} {env : ServerEnvelope} {id : Uuid}
    (h : id ∈ (a.record (.received env (a.due env))).owed) :
    id ∈ a.owed ∨ (a.due env = true ∧
      ∃ paneId count, env.payload = .streamOverflow id paneId count) := by
  rw [owed_record] at h
  cases hdue : a.due env with
  | false =>
      rw [hdue] at h
      exact Or.inl h
  | true =>
      obtain ⟨runtimeId, paneId, count, hpayload, _⟩ := due_eq_true hdue
      rw [hdue] at h
      simp only [owedStep, hpayload, List.mem_append, List.mem_singleton] at h
      rcases h with hold | rfl
      · exact Or.inl hold
      · exact Or.inr ⟨rfl, paneId, count, hpayload⟩

theorem standing_received {a : EndpointActor} {env : ServerEnvelope}
    (hinv : a.Honours)
    (hsplit : a.due env = true → a.link = .split)
    (h : a.link ≠ .split ∨ a.peerClosed = true) :
    (a.record (.received env (a.due env))).owed = [] := by
  have hdue : a.due env = false := by
    rw [Bool.eq_false_iff]
    intro hdue
    obtain ⟨_, _, _, _, _, _, hpeer⟩ := due_eq_true hdue
    rcases h with hnot | hclosed
    · exact hnot (hsplit hdue)
    · rw [hpeer] at hclosed
      cases hclosed
  rw [owed_record, hdue, hinv.standing h]
  rfl

variable [UuidText]

/-- **Step lemma.** -/
theorem Honours.receive {a b : EndpointActor} {env : ServerEnvelope}
    (hinv : a.Honours)
    (hok : a.resyncable (.receive env) = true)
    (hnext : a.receive env = some b) :
    b.Honours := by
  have hguard : ∀ id paneId count, a.due env = true →
      env.payload = .streamOverflow id paneId count → a.link = .split ∧
        (a.queued id = true ∨ (a.phase = .idle false ∧ a.commands.accepts = true)) := by
    intro id paneId count hdue hpayload
    simpa [resyncable, hdue, hpayload] using hok
  have hsplit : a.due env = true → a.link = .split := by
    intro hdue
    obtain ⟨id, paneId, count, hpayload, _⟩ := due_eq_true hdue
    exact (hguard id paneId count hdue hpayload).1
  unfold EndpointActor.receive at hnext
  split at hnext
  · rename_i hphase
    have hold := hinv.queued_of_phase (fun via env after => by rw [hphase]; simp)
    split at hnext
    · rw [Option.some.injEq] at hnext
      subst hnext
      have hreads := reads_handleRuntimeMessage (a.record (.received env (a.due env))) env
      have howed : ((a.record (.received env (a.due env))).handleRuntimeMessage env).toIdle.owed =
          (a.record (.received env (a.due env))).owed := hreads.owed
      constructor
      · intro hdown
        rw [howed]
        refine standing_received hinv hsplit ?_
        rcases hdown with hnot | hclosed
        · exact Or.inl (fun hsame => hnot (hreads.link.trans hsame))
        · exact Or.inr (hreads.peerClosed.symm.trans hclosed)
      · intro id hid
        rw [howed] at hid
        left
        rcases mem_owed_received hid with hmem | ⟨hdue, paneId, count, hpayload⟩
        · exact queued_mono hreads.commands (hold id hmem)
        · rcases (hguard id paneId count hdue hpayload).2 with hqueued | ⟨_, hroom⟩
          · exact queued_mono hreads.commands hqueued
          · obtain ⟨_, _, _, hsame, htracks, _⟩ := due_eq_true hdue
            rw [hpayload, ServerPayload.streamOverflow.injEq] at hsame
            obtain ⟨rfl, _, _⟩ := hsame
            exact queued_handleRuntimeMessage (a := a.record _) hpayload htracks hroom
    · cases hnext
  · rename_i requestId expectTerminated awaiting hphase
    have hold := hinv.queued_of_phase (fun via env after => by rw [hphase]; simp)
    have hqueued : ∀ id ∈ (a.record (.received env (a.due env))).owed, a.queued id = true := by
      intro id hid
      rcases mem_owed_received hid with hmem | ⟨hdue, paneId, count, hpayload⟩
      · exact hold id hmem
      · rcases (hguard id paneId count hdue hpayload).2 with hqueued | ⟨hidle, _⟩
        · exact hqueued
        · rw [hphase] at hidle
          cases hidle
    have hsame : (a.record (.received env (a.due env))).Honours :=
      ⟨standing_received hinv hsplit, fun id hid => Or.inl (hqueued id hid)⟩
    simp only at hnext
    split at hnext
    · rw [Option.some.injEq] at hnext
      subst hnext
      exact (continues_finish _ _ awaiting).honours hsame.standing
        (fun id hid => Or.inl (hqueued id hid))
    · split at hnext
      · rw [Option.some.injEq] at hnext
        subst hnext
        have hreads := reads_readOther (a.record (.received env (a.due env))) env expectTerminated
        constructor
        · intro hdown
          rw [hreads.owed]
          rw [hreads.link, hreads.peerClosed] at hdown
          exact hsame.standing hdown
        · intro id hid
          rw [hreads.owed] at hid
          exact Or.inl (queued_mono hreads.commands (hqueued id hid))
      · rw [Option.some.injEq] at hnext
        exact hnext ▸ hsame
  · cases hnext

theorem Honours.readFailed {a b : EndpointActor} {error : DaemonError}
    (hinv : a.Honours)
    (hnext : a.readFailed error = some b) :
    b.Honours := by
  unfold EndpointActor.readFailed at hnext
  split at hnext
  · rename_i hphase
    have hold := hinv.queued_of_phase (fun via env after => by rw [hphase]; simp)
    split at hnext
    · rw [Option.some.injEq] at hnext
      subst hnext
      exact (a.continues_handleDisconnect.trans (continues_toIdle _)).honours hinv.standing
        (fun id hid => Or.inl (hold id hid))
    · cases hnext
  · rename_i requestId expectTerminated awaiting hphase
    have hold := hinv.queued_of_phase (fun via env after => by rw [hphase]; simp)
    rw [Option.some.injEq] at hnext
    subst hnext
    exact (a.continues_finish _ awaiting).honours hinv.standing
      (fun id hid => Or.inl (hold id hid))
  · cases hnext

/-- A command is taken: the resync of an owed runtime goes to be written. -/
theorem Honours.take {a b : EndpointActor} {outcome : Except DaemonError Unit}
    (hinv : a.Honours)
    (hnext : a.next (.take outcome) = some b) :
    b.Honours := by
  simp only [EndpointActor.next] at hnext
  split at hnext
  · rename_i paused command commands hphase hreceive
    have hold := hinv.queued_of_phase (fun via env after => by rw [hphase]; simp)
    rw [Option.some.injEq] at hnext
    subst hnext
    obtain ⟨hitems, _⟩ := Mailbox.receive_eq_some hreceive
    refine (continues_handleCommand { a with commands := commands } outcome command).honours
      hinv.standing ?_
    intro id hid
    obtain ⟨workspaceId, hmem⟩ := queued_iff.mp (hold id hid)
    rw [hitems] at hmem
    rcases List.mem_cons.mp hmem with heq | hrest
    · right
      subst heq
      simp only [handleCommand, UuidText.parseStr_uuidToString]
      exact ⟨_, _, _, rfl, rfl⟩
    · exact Or.inl (queued_iff.mpr ⟨workspaceId, hrest⟩)
  · cases hnext

/-- A request was written; a resync request settles what its runtime is owed. -/
theorem Honours.written {a b : EndpointActor}
    (hinv : a.Honours)
    (hnext : a.next .written = some b) :
    b.Honours := by
  simp only [EndpointActor.next] at hnext
  split at hnext
  · rename_i via env after hphase
    split at hnext
    · rw [Option.some.injEq] at hnext
      subst hnext
      have hfields : ((a.record (.sent env)).wrote after).owed = owedStep a.owed (.sent env) ∧
          ((a.record (.sent env)).wrote after).link = a.link ∧
          ((a.record (.sent env)).wrote after).peerClosed = a.peerClosed ∧
          ((a.record (.sent env)).wrote after).commands = a.commands := by
        rw [← owed_record]
        unfold wrote
        split <;> exact ⟨rfl, rfl, rfl, rfl⟩
      obtain ⟨howed, hlink, hpeer, hcommands⟩ := hfields
      have hsub : ∀ id ∈ owedStep a.owed (.sent env),
          id ∈ a.owed ∧ env.command ≠ .resyncWorkspace id := by
        intro id hid
        simp only [owedStep] at hid
        split at hid
        · rename_i runtimeId hcommand
          rw [List.mem_filter, decide_eq_true_eq] at hid
          refine ⟨hid.1, fun hsame => hid.2 ?_⟩
          rw [hcommand, ClientCommand.resyncWorkspace.injEq] at hsame
          exact hsame.symm
        · rename_i hother
          exact ⟨hid, hother id⟩
      constructor
      · intro hdown
        rw [hlink, hpeer] at hdown
        rw [howed, List.eq_nil_iff_forall_not_mem]
        intro id hid
        have hmem := (hsub id hid).1
        rw [hinv.standing hdown] at hmem
        cases hmem
      · intro id hid
        rw [howed] at hid
        obtain ⟨hmem, hother⟩ := hsub id hid
        rcases hinv.honoured id hmem with hqueued | ⟨via', env', after', hsending, hcommand⟩
        · exact Or.inl (queued_mono (by rw [hcommands]; exact fun _ h => h) hqueued)
        · rw [hphase, Phase.sending.injEq] at hsending
          rw [← hsending.2.1] at hcommand
          exact absurd hcommand hother
    · cases hnext
  · cases hnext

theorem Honours.writeFails {a b : EndpointActor} {error : DaemonError}
    (hinv : a.Honours)
    (hok : a.resyncable (.writeFails error) = true)
    (hnext : a.next (.writeFails error) = some b) :
    b.Honours := by
  simp only [EndpointActor.next] at hnext
  split at hnext
  · rename_i via env after hphase
    split at hnext
    · rw [Option.some.injEq] at hnext
      subst hnext
      refine (a.continues_writeFailed error after).honours hinv.standing ?_
      intro id hid
      rcases hinv.honoured id hid with hqueued | ⟨via', env', after', hsending, hcommand⟩
      · exact Or.inl hqueued
      · rw [hphase, Phase.sending.injEq] at hsending
        have hdown : a.link ≠ .split ∨ a.peerClosed = true := by
          rw [← hsending.2.1] at hcommand
          simpa [resyncable, hphase, hcommand, or_comm] using hok
        rw [hinv.standing hdown] at hid
        cases hid
    · cases hnext
  · cases hnext

/-- **Step lemma.** -/
theorem Honours.next {a b : EndpointActor} {step : ActorStep}
    (hinv : a.Honours)
    (hok : a.resyncable step = true)
    (hnext : a.next step = some b) :
    b.Honours := by
  have hkeep : ∀ {b : EndpointActor}, a.Continues b → b.phase = a.phase → b.Honours := by
    intro b hcontinues hphase
    refine hinv.continues hcontinues ?_
    rintro id ⟨via, env, after, hsending, hcommand⟩
    exact ⟨via, env, after, by rw [hphase, hsending], hcommand⟩
  cases step with
  | command command =>
      rw [← Option.some.inj hnext]
      exact hkeep (a.continues_trySelf command) rfl
  | take outcome => exact hinv.take hnext
  | written => exact hinv.written hnext
  | writeFails error => exact hinv.writeFails hok hnext
  | receive env => exact hinv.receive hok hnext
  | readFails error => exact hinv.readFailed hnext
  | peerCloses =>
      simp only [EndpointActor.next, Option.ite_none_left_eq_some, Option.some.injEq] at hnext
      obtain ⟨_, rfl⟩ := hnext
      have howed : ({ a with peerClosed := true }.record .closed).owed = [] := by
        rw [owed_record]
        rfl
      exact ⟨fun _ => howed, by intro id hid; rw [howed] at hid; cases hid⟩
  | endOfStream =>
      simp only [EndpointActor.next, Option.ite_none_right_eq_some] at hnext
      exact hinv.readFailed hnext.2
  | handshakeTimeout =>
      obtain ⟨workspaceId, _, rfl⟩ := Option.map_eq_some_iff.mp hnext
      have hclosed : a.closeLink.owed = [] := by
        rw [closeLink, owed_record]
        rfl
      refine (a.continues_handshakeTimedOut workspaceId).honours (fun _ => hclosed) ?_
      intro id hid
      rw [hclosed] at hid
      cases hid
  | heartbeatTick =>
      simp only [EndpointActor.next, Option.ite_none_right_eq_some, Option.some.injEq] at hnext
      obtain ⟨⟨hphase, _⟩, rfl⟩ := hnext
      have hold := hinv.queued_of_phase (fun via env after => by rw [hphase]; simp)
      exact a.continues_handleHeartbeatTick.honours hinv.standing
        (fun id hid => Or.inl (hold id hid))
  | pausePoll =>
      simp only [EndpointActor.next, Option.ite_none_right_eq_some, Option.some.injEq] at hnext
      obtain ⟨⟨hphase, _⟩, rfl⟩ := hnext
      have hold := hinv.queued_of_phase (fun via env after => by rw [hphase]; simp)
      exact a.continues_toIdle.honours hinv.standing (fun id hid => Or.inl (hold id hid))
  | timerFires delaySecs =>
      simp only [EndpointActor.next, Option.ite_none_right_eq_some, Option.some.injEq] at hnext
      obtain ⟨_, rfl⟩ := hnext
      have htimers : a.Continues { a with timers := a.timers.erase delaySecs } :=
        Continues.of_log (fun _ => id) rfl id id
      exact hkeep (htimers.trans (continues_trySelf _ _)) rfl
  | drain =>
      obtain ⟨⟨event, events⟩, _, rfl⟩ := Option.map_eq_some_iff.mp hnext
      exact hkeep (Continues.of_log (fun _ => id) rfl id id) rfl
  | watermark =>
      rw [← Option.some.inj hnext]
      unfold checkWatermark
      simp only
      split
      · exact hkeep (Continues.of_log (fun _ => id) rfl id id) rfl
      · split
        · exact hkeep (Continues.of_log (fun _ => id) rfl id id) rfl
        · exact hinv
  | otherEvent event =>
      rw [← Option.some.inj hnext]
      exact hkeep (Continues.of_log (fun _ => id) rfl id id) rfl
  | reorder tracked =>
      simp only [EndpointActor.next, Option.ite_none_right_eq_some, Option.some.injEq] at hnext
      obtain ⟨_, rfl⟩ := hnext
      exact hkeep (Continues.of_log (fun _ => id) rfl id id) rfl

/-- **Overflow is honoured** in runs in which every due notice can be. -/
theorem overflow_honoured {a : EndpointActor}
    (h : system.ReachableUnder (fun a step => a.resyncable step = true) a) :
    a.OverflowHonoured := by
  refine (h.invariant (I := Honours) ?_ (fun _ _ _ hinv hok hnext => hinv.next hok hnext)).honoured
  rintro a ⟨endpoint, reconnectDelaySecs, rfl⟩
  refine ⟨fun _ => rfl, ?_⟩
  intro id hid
  cases hid

end Invariant

section Runs

/-- A window opens a workspace, and the daemon creates one and has it attached. -/
def opening : List ActorStep :=
  [.command (.openWorkspace ⟨"w", "work", .persistent, none, none, none, false⟩),
    .take (.ok ()), .written, .receive ⟨1, .workspaceCreated 7 1⟩, .written,
    .receive ⟨2, .workspaceSnapshot 7 ⟨uuidToBytes 7, 1, .writer, [], none, [], "work", false⟩⟩]

def startActor : EndpointActor :=
  .new .localHost 10

theorem startActor_init : system.init startActor :=
  ⟨.localHost, 10, rfl⟩

/-- An overflow notice of the workspace comes in through the main loop, and the
actor asks for a resync. -/
def honouredOverflow : List ActorStep :=
  opening ++ [.receive ⟨0, .streamOverflow 7 none 1⟩, .take (.ok ()), .written]

/-- The theorem at the end of that run: the resync was requested. -/
theorem overflow_honoured_honouredOverflow :
    ∃ a : EndpointActor,
      .received ⟨0, .streamOverflow 7 none 1⟩ true ∈ a.log ∧
        .sent ⟨1, .resyncWorkspace 7⟩ ∈ a.log ∧ a.OverflowHonoured := by
  obtain ⟨a, hreach, hreceived, hsent⟩ := System.exists_reachableUnder resyncable honouredOverflow
    (p := fun a => .received ⟨0, .streamOverflow 7 none 1⟩ true ∈ a.log ∧
      .sent ⟨1, .resyncWorkspace 7⟩ ∈ a.log) startActor_init (by decide +kernel)
  exact ⟨a, hreceived, hsent, overflow_honoured hreach⟩

/-- The notice comes in while the actor awaits the list of workspaces. -/
def swallowedOverflow : List ActorStep :=
  opening ++ [.command .refreshInventory, .take (.ok ()), .written,
    .receive ⟨0, .streamOverflow 7 none 1⟩, .receive ⟨1, .workspaceList [7]⟩]

theorem swallowedOverflow_runs :
    (system.exec startActor swallowedOverflow).isSome = true := by
  decide +kernel

def swallowedOverflowEnd : EndpointActor :=
  (system.exec startActor swallowedOverflow).get swallowedOverflow_runs

/-- **An overflow notice is swallowed** while a response is awaited: the actor
is back in its main loop on the same connection, with nothing queued, and never
asked for a resync. -/
theorem overflow_swallowed :
    system.Reachable swallowedOverflowEnd ∧
      .received ⟨0, .streamOverflow 7 none 1⟩ true ∈ swallowedOverflowEnd.log ∧
      swallowedOverflowEnd.phase = .idle false ∧
      swallowedOverflowEnd.commands.items = [] ∧
      .closed ∉ swallowedOverflowEnd.log ∧
      ¬ swallowedOverflowEnd.OverflowHonoured := by
  have hend : .received ⟨0, .streamOverflow 7 none 1⟩ true ∈ swallowedOverflowEnd.log ∧
      swallowedOverflowEnd.phase = .idle false ∧ swallowedOverflowEnd.commands.items = [] ∧
      .closed ∉ swallowedOverflowEnd.log ∧ (7 : Uuid) ∈ swallowedOverflowEnd.owed ∧
      swallowedOverflowEnd.queued 7 = false := by
    decide +kernel
  obtain ⟨hreceived, hidle, hcommands, hopen, howed, hnone⟩ := hend
  refine ⟨System.reachable_get startActor_init swallowedOverflow_runs, hreceived, hidle, hcommands,
    hopen, ?_⟩
  intro hhonoured
  rcases hhonoured 7 howed with hqueued | ⟨via, env, after, hphase, _⟩
  · rw [hnone] at hqueued
    cases hqueued
  · rw [hidle] at hphase
    cases hphase

end Runs

end EndpointActor

end Client
end Rttx
