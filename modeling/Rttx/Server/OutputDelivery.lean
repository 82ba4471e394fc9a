import Rttx.Server.Messages
import Rttx.Server.SampleTerminal

/-!
# Delivering the output of a pane

One pane, its output task, and the clients of its workspace.  A batch passes
through the task in steps: taken under the workspace lock together with the
list of attached clients, parsed outside it, returned under it, then sent to
one collected client after the other.  Between these steps clients connect,
attach, resynchronise, take over, detach and disconnect, and their writers
deliver what is queued for them, responses before pushes.

Lists record what happened: the batches the pane has accepted, what each screen
has consumed, and for each client the last snapshot built for it and the deltas
queued after it.  No step reads them.

**Results.**
* `screen_consumed`: a screen's record of what it consumed is right, its parser
  is where those bytes take it.
* `moves_of_next`: what each step does, guards included.
-/

namespace Rttx
namespace Server

open Kernel

universe u v

/-- A batch as the pane accepted it: its sequence number and filtered bytes. -/
structure Batch where
  seq : Nat
  data : Bytes
deriving DecidableEq

structure OutputDelta where
  data : Bytes
  paneOutputSeq : Nat
deriving DecidableEq

/-- What a batch is broadcast as: nothing, when only client queries are in it. -/
def Batch.delta (b : Batch) : Option OutputDelta :=
  let clientData := stripClientQueries b.data
  if clientData = [] then none else some ⟨clientData, b.seq⟩

/-- What a screen is fed: a batch, or the cleanup after a dead program. -/
inductive Fed
  | batch (b : Batch)
  | cleanup (data : Bytes)
deriving DecidableEq

def Fed.bytes : Fed → Bytes
  | batch b => b.data
  | cleanup data => data

def Fed.batch? : Fed → Option Batch
  | batch b => some b
  | cleanup _ => none

def batchesOf (fed : List Fed) : List Batch :=
  fed.filterMap Fed.batch?

/-- A snapshot with what the pane's screen had consumed when it was rendered. -/
structure SentSnapshot where
  snapshot : WorkspaceSnapshot
  covers : List Fed
deriving DecidableEq

/-- A push; `event` is any push that carries no output of the pane. -/
inductive PushMsg
  | outputDelta (d : OutputDelta)
  | event
deriving DecidableEq

inductive RespMsg
  | snapshot (r : SentSnapshot)
  | other
deriving DecidableEq

/-- The pane on the client: reset to a snapshot, then fed deltas. -/
structure PaneView where
  snapshot : SentSnapshot
  deltas : List OutputDelta
deriving DecidableEq

/-- A connected client: its channels, the response its reader task is about to
send, its view of the pane; then the record of its last snapshot, of the deltas
queued since, and of whether one was dropped. -/
structure ClientLink where
  push : List PushMsg
  responding : Option SentSnapshot
  resp : List RespMsg
  view : Option PaneView
  snapshot : Option SentSnapshot
  queued : List OutputDelta
  lost : Bool
deriving DecidableEq

/-- Where the output task is. -/
inductive OutputPhase (P : Type u) (G : Type v)
  | idle
  | taken (t : TakenOutput P G) (fed : List Fed) (senders : List Uuid)
  | parsed (t : TakenOutput P G) (fed : List Fed) (senders : List Uuid)
  | sending (b : Batch) (senders : List Uuid)

structure Delivery (P : Type u) (G : Type v) where
  workspace : Workspace P G
  phase : OutputPhase P G
  accepted : List Batch
  inPlace : List Fed
  clients : HashMap Uuid ClientLink

inductive DeliveryStep
  | connect (clientId : Uuid)
  | disconnect (clientId : Uuid)
  | attach (clientId : Uuid) (mode : AttachMode) (now : Nat) (proc : ProcFs)
  | takeOver (clientId : Uuid) (now : Nat)
  | detach (clientId : Uuid) (reason : DetachReason)
  | resync (clientId : Uuid) (proc : ProcFs)
  | takeScreen (raw : Bytes)
  | parse
  | returnScreen (proc : ProcFs)
  | send
  | pushEvent (clientId : Uuid)
  | respond (clientId : Uuid)
  | replyOther (clientId : Uuid)
  | deliver (clientId : Uuid)

def TakenOutput.batch {P : Type u} {G : Type v} (t : TakenOutput P G) : Batch :=
  ⟨t.outputSeq, t.data⟩

namespace ClientLink

def empty : ClientLink :=
  ⟨[], none, [], none, none, [], false⟩

/-- A snapshot was built for the client; it starts a new record if the client
is attached. -/
def answer (link : ClientLink) (r : SentSnapshot) (attached : Bool) : ClientLink :=
  { link with
    responding := some r
    snapshot := if attached then some r else none
    queued := []
    lost := false }

/-- Queue a delta unless the push channel is full. -/
def trySend (link : ClientLink) (d : OutputDelta) : ClientLink :=
  if link.push.length < pushChannelBound then
    { link with push := link.push ++ [.outputDelta d], queued := link.queued ++ [d] }
  else
    { link with lost := true }

def tryPushEvent (link : ClientLink) : ClientLink :=
  if link.push.length < pushChannelBound then
    { link with push := link.push ++ [.event] }
  else
    link

/-- The reader task's response enters the response channel. -/
def sendSnapshot (link : ClientLink) (r : SentSnapshot) : ClientLink :=
  { link with responding := none, resp := link.resp ++ [.snapshot r] }

def sendOther (link : ClientLink) : ClientLink :=
  { link with resp := link.resp ++ [.other] }

/-- The client applies a push: it feeds a delta to its terminal, whatever the
sequence number. -/
def applyPush (link : ClientLink) : PushMsg → ClientLink
  | .outputDelta d =>
      { link with view := link.view.map (fun v => { v with deltas := v.deltas ++ [d] }) }
  | .event => link

/-- The client applies a response: a snapshot resets its terminal. -/
def applyResp (link : ClientLink) : RespMsg → ClientLink
  | .snapshot r => { link with view := some ⟨r, []⟩ }
  | .other => link

/-- The writer picks the next message, responses first, and the client applies it. -/
def deliver (link : ClientLink) : Option ClientLink :=
  match link.resp, link.push with
  | m :: rest, _ => some ({ link with resp := rest }.applyResp m)
  | [], m :: rest => some ({ link with push := rest }.applyPush m)
  | [], [] => none

end ClientLink

namespace OutputPhase

variable {P : Type u} {G : Type v}

/-- The batch on its way and the clients it is still to be sent to. -/
def pending : OutputPhase P G → Option (Batch × List Uuid)
  | idle => none
  | taken t _ senders => some (t.batch, senders)
  | parsed t _ senders => some (t.batch, senders)
  | sending b senders => some (b, senders)

/-- What is still to be sent to a client. -/
def pendingTo (phase : OutputPhase P G) (clientId : Uuid) : List OutputDelta :=
  match phase.pending with
  | none => []
  | some (b, senders) => if clientId ∈ senders then b.delta.toList else []

/-- The screen is in place and nothing is about to be sent to the client. -/
def settledFor (phase : OutputPhase P G) (clientId : Uuid) : Bool :=
  match phase with
  | idle => true
  | taken _ _ _ => false
  | parsed _ _ _ => false
  | sending b senders => clientId ∉ senders || b.delta.isNone

end OutputPhase

namespace Delivery

section Steps

variable {P : Type u} {G : Type v}

def withLink (s : Delivery P G) (clientId : Uuid) (f : ClientLink → Option ClientLink) :
    Option (Delivery P G) :=
  match (s.clients.lookup clientId).bind f with
  | none => none
  | some link => some { s with clients := s.clients.insert clientId link }

/-- Send the batch to the next collected client, if it is still connected. -/
def sendNext (s : Delivery P G) : Option (Delivery P G) :=
  match s.phase with
  | .sending _ [] => some { s with phase := .idle }
  | .sending b (clientId :: rest) =>
      match b.delta, s.clients.lookup clientId with
      | some d, some link =>
          some { s with
            phase := .sending b rest
            clients := s.clients.insert clientId (link.trySend d) }
      | _, _ => some { s with phase := .sending b rest }
  | _ => none

variable [VteParser P] [Vt100Parser G]

/-- What an attach feeds the pane's screen before it is rendered. -/
def healing (s : Delivery P G) (paneId : Uuid) (proc : ProcFs) : List Fed :=
  match s.workspace.panes.lookup paneId with
  | none => []
  | some pane =>
      ((pane.sanitizeModesIfIdle proc).1.map
        (fun cleanup => Fed.cleanup (pane.screen.sanitizeOutput cleanup))).toList

/-- One step; the reader task of a client handles one request after the other. -/
def next (paneId : Uuid) (s : Delivery P G) : DeliveryStep → Option (Delivery P G)
  | .connect clientId =>
      if (s.clients.lookup clientId).isSome then
        none
      else
        some { s with clients := s.clients.insert clientId .empty }
  | .disconnect clientId => some { s with clients := s.clients.erase clientId }
  | .attach clientId mode now proc =>
      match s.clients.lookup clientId with
      | none => none
      | some link =>
          if link.responding.isSome then
            none
          else
            match s.workspace.handleV3Attach clientId mode now proc with
            | (none, w) => some { s with workspace := w }
            | (some reply, w) =>
                let fed := s.inPlace ++ s.healing paneId proc
                some { s with
                  workspace := w
                  inPlace := fed
                  clients := s.clients.insert clientId (link.answer ⟨reply.snapshot, fed⟩ true) }
  | .takeOver clientId now =>
      some { s with workspace := (s.workspace.attachClient clientId .takeOver now).2 }
  | .detach clientId reason =>
      some { s with
        workspace := (s.workspace.detachClient clientId reason).2
        clients := s.clients.modify clientId
          (fun link => { link with snapshot := none, queued := [], lost := false }) }
  | .resync clientId proc =>
      match s.clients.lookup clientId with
      | none => none
      | some link =>
          if link.responding.isSome then
            none
          else
            let (snapshot, w) := s.workspace.handleResync clientId proc
            some { s with
              workspace := w
              clients := s.clients.insert clientId
                (link.answer ⟨snapshot, s.inPlace⟩ (s.workspace.clientRole clientId).isSome) }
  | .takeScreen raw =>
      match s.phase, s.workspace.takeOutput paneId raw with
      | .idle, (some t, w) =>
          some { s with
            workspace := w
            phase := .taken t s.inPlace
              (s.workspace.attachedClients.keys.filter (fun id => (s.clients.lookup id).isSome))
            accepted := s.accepted ++ [t.batch]
            inPlace := [] }
      | _, _ => none
  | .parse =>
      match s.phase with
      | .taken t fed senders =>
          let screen := t.screen.parse t.data
          some { s with
            phase := .parsed ⟨screen, t.outputSeq, t.data⟩ (fed ++ [.batch t.batch]) senders }
      | _ => none
  | .returnScreen proc =>
      match s.phase with
      | .parsed t fed senders =>
          some { s with
            workspace := (s.workspace.returnOutput paneId t.screen proc).2
            phase := .sending t.batch senders
            inPlace := fed }
      | _ => none
  | .send => s.sendNext
  | .pushEvent clientId => s.withLink clientId (fun link => some link.tryPushEvent)
  | .respond clientId =>
      s.withLink clientId (fun link =>
        match link.responding with
        | none => none
        | some r =>
            if link.resp.length < respChannelBound then
              some (link.sendSnapshot r)
            else
              none)
  | .replyOther clientId =>
      s.withLink clientId (fun link =>
        if link.resp.length < respChannelBound then
          some link.sendOther
        else
          none)
  | .deliver clientId => s.withLink clientId ClientLink.deliver

/-- Runs around one pane, from a workspace that has it and no clients. -/
def system (paneId : Uuid) (start : Pane P G) : System (Delivery P G) DeliveryStep where
  init := fun s =>
    s.workspace.panes.lookup paneId = some start ∧ start.id = paneId ∧
      s.workspace.attachedClients = ∅ ∧ s.phase = .idle ∧ s.accepted = [] ∧ s.inPlace = [] ∧
      s.clients = ∅
  next := next paneId

/-- A snapshot is built for a client only when the screen is in place and
nothing is about to be sent to the client. -/
def snapshotSettled (s : Delivery P G) : DeliveryStep → Bool
  | .attach clientId mode now _ =>
      match (s.workspace.attachClient clientId mode now).1 with
      | .ok (.attached _ _) => s.phase.settledFor clientId
      | _ => true
  | .resync clientId _ =>
      (s.workspace.clientRole clientId).isNone || s.phase.settledFor clientId
  | _ => true

end Steps

section Moves

variable {P : Type u} {G : Type v}
variable [VteParser P] [Vt100Parser G]

/-- The steps with their outcome, one constructor for each way a step can go. -/
inductive Moves (paneId : Uuid) (s : Delivery P G) : DeliveryStep → Delivery P G → Prop
  | connect (c : Uuid) :
      s.clients.lookup c = none →
      Moves paneId s (.connect c) { s with clients := s.clients.insert c .empty }
  | disconnect (c : Uuid) :
      Moves paneId s (.disconnect c) { s with clients := s.clients.erase c }
  | attachRefused (c : Uuid) (mode : AttachMode) (now : Nat) (proc : ProcFs)
      (w : Workspace P G) :
      s.workspace.handleV3Attach c mode now proc = (none, w) →
      Moves paneId s (.attach c mode now proc) { s with workspace := w }
  | attach (c : Uuid) (mode : AttachMode) (now : Nat) (proc : ProcFs) (link : ClientLink)
      (reply : Workspace.AttachReply) (w : Workspace P G) :
      s.clients.lookup c = some link →
      link.responding = none →
      s.workspace.handleV3Attach c mode now proc = (some reply, w) →
      Moves paneId s (.attach c mode now proc) { s with
        workspace := w
        inPlace := s.inPlace ++ s.healing paneId proc
        clients := s.clients.insert c
          (link.answer ⟨reply.snapshot, s.inPlace ++ s.healing paneId proc⟩ true) }
  | takeOver (c : Uuid) (now : Nat) :
      Moves paneId s (.takeOver c now)
        { s with workspace := (s.workspace.attachClient c .takeOver now).2 }
  | detach (c : Uuid) (reason : DetachReason) :
      Moves paneId s (.detach c reason) { s with
        workspace := (s.workspace.detachClient c reason).2
        clients := s.clients.modify c
          (fun link => { link with snapshot := none, queued := [], lost := false }) }
  | resync (c : Uuid) (proc : ProcFs) (link : ClientLink) :
      s.clients.lookup c = some link →
      link.responding = none →
      Moves paneId s (.resync c proc) { s with
        workspace := (s.workspace.handleResync c proc).2
        clients := s.clients.insert c
          (link.answer ⟨(s.workspace.handleResync c proc).1, s.inPlace⟩
            (s.workspace.clientRole c).isSome) }
  | takeScreen (raw : Bytes) (t : TakenOutput P G) (w : Workspace P G) :
      s.phase = .idle →
      s.workspace.takeOutput paneId raw = (some t, w) →
      Moves paneId s (.takeScreen raw) { s with
        workspace := w
        phase := .taken t s.inPlace
          (s.workspace.attachedClients.keys.filter (fun id => (s.clients.lookup id).isSome))
        accepted := s.accepted ++ [t.batch]
        inPlace := [] }
  | parse (t : TakenOutput P G) (fed : List Fed) (senders : List Uuid) :
      s.phase = .taken t fed senders →
      Moves paneId s .parse { s with
        phase := .parsed ⟨t.screen.parse t.data, t.outputSeq, t.data⟩
          (fed ++ [.batch t.batch]) senders }
  | returnScreen (proc : ProcFs) (t : TakenOutput P G) (fed : List Fed)
      (senders : List Uuid) :
      s.phase = .parsed t fed senders →
      Moves paneId s (.returnScreen proc) { s with
        workspace := (s.workspace.returnOutput paneId t.screen proc).2
        phase := .sending t.batch senders
        inPlace := fed }
  | finish (b : Batch) :
      s.phase = .sending b [] →
      Moves paneId s .send { s with phase := .idle }
  | sendTo (b : Batch) (c : Uuid) (rest : List Uuid) (d : OutputDelta) (link : ClientLink) :
      s.phase = .sending b (c :: rest) →
      b.delta = some d →
      s.clients.lookup c = some link →
      Moves paneId s .send { s with
        phase := .sending b rest
        clients := s.clients.insert c (link.trySend d) }
  | skip (b : Batch) (c : Uuid) (rest : List Uuid) :
      s.phase = .sending b (c :: rest) →
      b.delta = none ∨ s.clients.lookup c = none →
      Moves paneId s .send { s with phase := .sending b rest }
  | pushEvent (c : Uuid) (link : ClientLink) :
      s.clients.lookup c = some link →
      Moves paneId s (.pushEvent c) { s with clients := s.clients.insert c link.tryPushEvent }
  | respond (c : Uuid) (link : ClientLink) (r : SentSnapshot) :
      s.clients.lookup c = some link →
      link.responding = some r →
      Moves paneId s (.respond c) { s with clients := s.clients.insert c (link.sendSnapshot r) }
  | replyOther (c : Uuid) (link : ClientLink) :
      s.clients.lookup c = some link →
      Moves paneId s (.replyOther c) { s with clients := s.clients.insert c link.sendOther }
  | deliverResp (c : Uuid) (link : ClientLink) (m : RespMsg) (rest : List RespMsg) :
      s.clients.lookup c = some link →
      link.resp = m :: rest →
      Moves paneId s (.deliver c)
        { s with clients := s.clients.insert c ({ link with resp := rest }.applyResp m) }
  | deliverPush (c : Uuid) (link : ClientLink) (m : PushMsg) (rest : List PushMsg) :
      s.clients.lookup c = some link →
      link.resp = [] →
      link.push = m :: rest →
      Moves paneId s (.deliver c)
        { s with clients := s.clients.insert c ({ link with push := rest }.applyPush m) }

omit [VteParser P] [Vt100Parser G] in
theorem withLink_eq_some {s s' : Delivery P G} {c : Uuid}
    {f : ClientLink → Option ClientLink}
    (h : s.withLink c f = some s') :
    ∃ link link', s.clients.lookup c = some link ∧ f link = some link' ∧
      s' = { s with clients := s.clients.insert c link' } := by
  simp only [withLink] at h
  cases hlink : s.clients.lookup c with
  | none => simp [hlink] at h
  | some link =>
      cases hf : f link with
      | none => simp [hlink, hf] at h
      | some link' =>
          simp only [hlink, hf, Option.bind_some, Option.some.injEq] at h
          exact ⟨link, link', rfl, hf, h.symm⟩

theorem moves_sendNext {paneId : Uuid} {s s' : Delivery P G}
    (h : s.sendNext = some s') :
    Moves paneId s .send s' := by
  simp only [sendNext] at h
  cases hphase : s.phase with
  | sending b senders =>
      cases senders with
      | nil =>
          simp only [hphase, Option.some.injEq] at h
          exact h ▸ Moves.finish b hphase
      | cons c rest =>
          cases hdelta : b.delta with
          | none =>
              simp only [hphase, hdelta, Option.some.injEq] at h
              exact h ▸ Moves.skip b c rest hphase (Or.inl hdelta)
          | some d =>
              cases hlink : s.clients.lookup c with
              | none =>
                  simp only [hphase, hdelta, hlink, Option.some.injEq] at h
                  exact h ▸ Moves.skip b c rest hphase (Or.inr hlink)
              | some link =>
                  simp only [hphase, hdelta, hlink, Option.some.injEq] at h
                  exact h ▸ Moves.sendTo b c rest d link hphase hdelta hlink
  | _ => simp [hphase] at h

theorem moves_deliver {paneId : Uuid} {s s' : Delivery P G} {c : Uuid}
    (h : s.withLink c ClientLink.deliver = some s') :
    Moves paneId s (.deliver c) s' := by
  obtain ⟨link, link', hlink, hdeliver, rfl⟩ := withLink_eq_some h
  simp only [ClientLink.deliver] at hdeliver
  cases hresp : link.resp with
  | cons m rest =>
      simp only [hresp, Option.some.injEq] at hdeliver
      exact hdeliver ▸ Moves.deliverResp c link m rest hlink hresp
  | nil =>
      cases hpush : link.push with
      | nil => simp [hresp, hpush] at hdeliver
      | cons m rest =>
          simp only [hresp, hpush, Option.some.injEq] at hdeliver
          have hmove : Moves paneId s (.deliver c) _ :=
            Moves.deliverPush c link m rest hlink hresp hpush
          rw [hresp, hdeliver] at hmove
          exact hmove

/-- **Inversion.** Every step is one of the moves. -/
theorem moves_of_next {paneId : Uuid} {s s' : Delivery P G} {a : DeliveryStep}
    (h : s.next paneId a = some s') :
    Moves paneId s a s' := by
  cases a with
  | connect c =>
      simp only [next, Option.ite_none_left_eq_some, Option.some.injEq] at h
      obtain ⟨hnew, rfl⟩ := h
      exact Moves.connect c (by simpa using hnew)
  | disconnect c =>
      simp only [next, Option.some.injEq] at h
      exact h ▸ Moves.disconnect c
  | attach c mode now proc =>
      simp only [next] at h
      cases hlink : s.clients.lookup c with
      | none => simp [hlink] at h
      | some link =>
          simp only [hlink, Option.ite_none_left_eq_some] at h
          obtain ⟨hresponding, h⟩ := h
          rcases hres : s.workspace.handleV3Attach c mode now proc with ⟨_ | reply, w⟩
          · simp only [hres, Option.some.injEq] at h
            exact h ▸ Moves.attachRefused c mode now proc w hres
          · simp only [hres, Option.some.injEq] at h
            exact h ▸ Moves.attach c mode now proc link reply w hlink
              (by simpa using hresponding) hres
  | takeOver c now =>
      simp only [next, Option.some.injEq] at h
      exact h ▸ Moves.takeOver c now
  | detach c reason =>
      simp only [next, Option.some.injEq] at h
      exact h ▸ Moves.detach c reason
  | resync c proc =>
      simp only [next] at h
      cases hlink : s.clients.lookup c with
      | none => simp [hlink] at h
      | some link =>
          simp only [hlink, Option.ite_none_left_eq_some, Option.some.injEq] at h
          obtain ⟨hresponding, h⟩ := h
          exact h ▸ Moves.resync c proc link hlink (by simpa using hresponding)
  | takeScreen raw =>
      simp only [next] at h
      cases hphase : s.phase with
      | idle =>
          rcases htake : s.workspace.takeOutput paneId raw with ⟨_ | t, w⟩
          · simp [hphase, htake] at h
          · simp only [hphase, htake, Option.some.injEq] at h
            exact h ▸ Moves.takeScreen raw t w hphase htake
      | _ => simp [hphase] at h
  | parse =>
      simp only [next] at h
      cases hphase : s.phase with
      | taken t fed senders =>
          simp only [hphase, Option.some.injEq] at h
          exact h ▸ Moves.parse t fed senders hphase
      | _ => simp [hphase] at h
  | returnScreen proc =>
      simp only [next] at h
      cases hphase : s.phase with
      | parsed t fed senders =>
          simp only [hphase, Option.some.injEq] at h
          exact h ▸ Moves.returnScreen proc t fed senders hphase
      | _ => simp [hphase] at h
  | send => exact moves_sendNext h
  | pushEvent c =>
      obtain ⟨link, link', hlink, hpush, rfl⟩ := withLink_eq_some h
      rw [Option.some.injEq] at hpush
      exact hpush ▸ Moves.pushEvent c link hlink
  | respond c =>
      obtain ⟨link, link', hlink, hrespond, rfl⟩ := withLink_eq_some h
      cases hresponding : link.responding with
      | none => simp [hresponding] at hrespond
      | some r =>
          simp only [hresponding, Option.ite_none_right_eq_some, Option.some.injEq] at hrespond
          exact hrespond.2 ▸ Moves.respond c link r hlink hresponding
  | replyOther c =>
      obtain ⟨link, link', hlink, hreply, rfl⟩ := withLink_eq_some h
      simp only [Option.ite_none_right_eq_some, Option.some.injEq] at hreply
      exact hreply.2 ▸ Moves.replyOther c link hlink
  | deliver c => exact moves_deliver h

end Moves

section Consumed

variable {P : Type u} {G : Type v}
variable [VteParser P]

/-- The parser after some bytes. -/
def feedParser (p : P) (data : Bytes) : P :=
  data.foldl (fun p byte => (VteParser.advance p byte).1) p

def consumed (p : P) (fed : List Fed) : P :=
  feedParser p (fed.flatMap Fed.bytes)

theorem consumed_append (p : P) (first second : List Fed) :
    consumed p (first ++ second) = consumed (consumed p first) second := by
  simp [consumed, feedParser]

theorem advanceParser_fst (p : P) (performer : ScreenPerformer) (data : Bytes) :
    (PaneScreen.advanceParser (p, performer) data).1 = feedParser p data := by
  induction data generalizing p performer with
  | nil => rfl
  | cons byte rest ih => exact ih _ _

variable [Vt100Parser G]

theorem parserOf_parse (screen : PaneScreen P G) (data : Bytes) :
    (screen.parse data).parser = feedParser screen.parser data :=
  advanceParser_fst screen.parser screen.performer data

theorem parserOf_sanitizeModesIfIdle (pane : Pane P G) (proc : ProcFs) :
    (pane.sanitizeModesIfIdle proc).2.screen.parser =
      consumed pane.screen.parser
        ((pane.sanitizeModesIfIdle proc).1.map
          (fun cleanup => Fed.cleanup (pane.screen.sanitizeOutput cleanup))).toList := by
  simp only [Pane.sanitizeModesIfIdle]
  split
  · rfl
  · split
    · refine (parserOf_parse _ _).trans ?_
      simp [consumed, Fed.bytes, PaneScreen.acceptRaw]
    · rfl

omit [Vt100Parser G] in
/-- Where the record of the screen in the pane starts: at the first screen, or
at a placeholder. -/
def placeStart (start : Pane P G) (phase : OutputPhase P G) : P :=
  match phase with
  | .taken _ _ _ => VteParser.new
  | .parsed _ _ _ => VteParser.new
  | _ => start.screen.parser

/-- The parsers of the screen in the pane and of the one that the task holds
are where their records take them. -/
structure ScreensConsumed (paneId : Uuid) (start : Pane P G) (s : Delivery P G) : Prop where
  place : ∀ pane, s.workspace.panes.lookup paneId = some pane →
    pane.screen.parser = consumed (placeStart start s.phase) s.inPlace
  out : ∀ t fed senders, s.phase = .taken t fed senders ∨ s.phase = .parsed t fed senders →
    t.screen.parser = consumed start.screen.parser fed

omit [Vt100Parser G] in
theorem ScreensConsumed.of_same {paneId : Uuid} {start : Pane P G} {s s' : Delivery P G}
    (h : s.ScreensConsumed paneId start)
    (hpanes : s'.workspace.panes = s.workspace.panes)
    (hphase : s'.phase = s.phase)
    (hplace : s'.inPlace = s.inPlace) :
    s'.ScreensConsumed paneId start := by
  refine ⟨?_, ?_⟩
  · rw [hpanes, hphase, hplace]
    exact h.place
  · rw [hphase]
    exact h.out

omit [Vt100Parser G] in
/-- With the screen back in the pane the task holds none. -/
theorem ScreensConsumed.of_back {paneId : Uuid} {start : Pane P G} {s s' : Delivery P G}
    (h : s.ScreensConsumed paneId start)
    (hpanes : s'.workspace.panes = s.workspace.panes)
    (hplace : s'.inPlace = s.inPlace)
    (hstart : placeStart start s'.phase = placeStart start s.phase)
    (hback : ∀ t fed senders,
      s'.phase ≠ .taken t fed senders ∧ s'.phase ≠ .parsed t fed senders) :
    s'.ScreensConsumed paneId start := by
  refine ⟨?_, ?_⟩
  · rw [hpanes, hstart, hplace]
    exact h.place
  · intro t fed senders hphase
    rcases hphase with htaken | hparsed
    · exact absurd htaken (hback t fed senders).1
    · exact absurd hparsed (hback t fed senders).2

theorem ScreensConsumed.move {paneId : Uuid} {start : Pane P G} {s s' : Delivery P G}
    {a : DeliveryStep}
    (h : s.ScreensConsumed paneId start)
    (hmove : Moves paneId s a s') :
    s'.ScreensConsumed paneId start := by
  cases hmove with
  | attachRefused c mode now proc w hres =>
      refine h.of_same ?_ rfl rfl
      rw [Workspace.handleV3Attach_none hres]
      exact Workspace.attachClient_panes _ _ _ _
  | attach c mode now proc link reply w _ _ hres =>
      refine ⟨?_, h.out⟩
      intro pane hpane
      rw [(Workspace.handleV3Attach_some hres).panes] at hpane
      obtain ⟨old, hold, rfl⟩ := Option.map_eq_some_iff.mp hpane
      have hheal := parserOf_sanitizeModesIfIdle old proc
      rw [h.place old hold] at hheal
      rw [consumed_append, healing, hold]
      exact hheal
  | takeOver c now => exact h.of_same (Workspace.attachClient_panes _ _ _ _) rfl rfl
  | detach c reason =>
      exact h.of_same (Workspace.detachClient_effect _ _ _).panes rfl rfl
  | resync c proc link _ _ =>
      refine ⟨?_, h.out⟩
      intro pane hpane
      rw [Workspace.lookup_handleResync] at hpane
      obtain ⟨old, hold, rfl⟩ := Option.map_eq_some_iff.mp hpane
      exact h.place old hold
  | takeScreen raw t w hphase htake =>
      cases hpane : s.workspace.panes.lookup paneId with
      | none => simp [Workspace.takeOutput, hpane] at htake
      | some old =>
          have hlook := Workspace.lookup_takeOutput s.workspace paneId raw paneId
          rw [htake, if_pos rfl, hpane, Option.map_some] at hlook
          have hplace := h.place old hpane
          rw [hphase] at hplace
          simp only [Workspace.takeOutput, hpane, Prod.mk.injEq, Option.some.injEq] at htake
          obtain ⟨rfl, -⟩ := htake
          refine ⟨?_, ?_⟩
          · intro pane hp
            rw [hlook, Option.some.injEq] at hp
            rw [← hp]
            rfl
          · intro t' fed senders hout
            simp only [OutputPhase.taken.injEq, reduceCtorEq, or_false] at hout
            rw [← hout.1, ← hout.2.1]
            exact hplace
  | parse t fed senders hphase =>
      have hout := h.out t fed senders (Or.inl hphase)
      refine ⟨?_, ?_⟩
      · intro pane hpane
        have hplace := h.place pane hpane
        rw [hphase] at hplace
        exact hplace
      · intro t' fed' senders' hphase'
        simp only [reduceCtorEq, OutputPhase.parsed.injEq, false_or] at hphase'
        rw [← hphase'.1, ← hphase'.2.1, consumed_append, ← hout]
        simp [parserOf_parse, consumed, Fed.bytes, TakenOutput.batch]
  | returnScreen proc t fed senders hphase =>
      have hout := h.out t fed senders (Or.inr hphase)
      refine ⟨?_, by simp⟩
      intro pane hpane
      rw [Workspace.lookup_returnOutput, if_pos rfl] at hpane
      obtain ⟨old, hold, rfl⟩ := Option.map_eq_some_iff.mp hpane
      exact hout
  | finish b hphase =>
      exact h.of_back rfl rfl (by rw [hphase]; rfl) (by simp)
  | sendTo b c rest d link hphase _ _ =>
      exact h.of_back rfl rfl (by rw [hphase]; rfl) (by simp)
  | skip b c rest hphase _ =>
      exact h.of_back rfl rfl (by rw [hphase]; rfl) (by simp)
  | connect c _ => exact h.of_same rfl rfl rfl
  | disconnect c => exact h.of_same rfl rfl rfl
  | pushEvent c link _ => exact h.of_same rfl rfl rfl
  | respond c link r _ _ => exact h.of_same rfl rfl rfl
  | replyOther c link _ => exact h.of_same rfl rfl rfl
  | deliverResp c link m rest _ _ => exact h.of_same rfl rfl rfl
  | deliverPush c link m rest _ _ _ => exact h.of_same rfl rfl rfl

/-- **The records are right**: in every run the parser of a screen is where the
bytes of its record take it, those of a placeholder starting afresh. -/
theorem screen_consumed {paneId : Uuid} {start : Pane P G} {s : Delivery P G}
    (h : (system paneId start).Reachable s) :
    s.ScreensConsumed paneId start := by
  refine h.invariant ?_ (fun s a s' hI hnext => hI.move (moves_of_next hnext))
  rintro s ⟨hpane, _, _, hphase, _, hplace, _⟩
  refine ⟨?_, by simp [hphase]⟩
  intro pane hp
  rw [hpane, Option.some.injEq] at hp
  rw [← hp, hphase, hplace]
  rfl

end Consumed

end Delivery

end Server
end Rttx
