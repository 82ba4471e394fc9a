import Rttx.Server.OutputDelivery
import Rttx.Server.WriteLease

/-!
# Output continuity across attach and resync

A snapshot is a rendering of the pane's screen.  It covers the batches the
screen has consumed, and the batches sent to the client afterwards should be
exactly the others.  This fails at two positions of the snapshot among the
steps of a batch.  While the batch is parsed the pane holds a placeholder, so
the snapshot covers nothing.  Once the screen is back the snapshot covers the
batch, which is still sent to every client collected when it was taken.

**Results.**
* `output_continuity`: in runs without these two positions, and without a full
  push channel, a snapshot and the deltas queued after it account for every
  batch exactly once.
* `continuity_lost_at_both_positions`: a run for each of them.
-/

namespace Rttx
namespace Server

open Kernel

universe u v

@[simp] theorem batchesOf_append (first second : List Fed) :
    batchesOf (first ++ second) = batchesOf first ++ batchesOf second := by
  simp [batchesOf]

@[simp] theorem batchesOf_batch (b : Batch) : batchesOf [.batch b] = [b] :=
  rfl

namespace OutputPhase

variable {P : Type u} {G : Type v}

/-- The batches consumed by the pane's real screen, and the one it is about to
consume. -/
def covers (phase : OutputPhase P G) (inPlace : List Fed) : List Batch :=
  match phase with
  | taken t fed _ => batchesOf fed ++ [t.batch]
  | parsed _ fed _ => batchesOf fed
  | _ => batchesOf inPlace

/-- When a snapshot is settled, the screen in the pane is the real one. -/
theorem covers_of_settled {phase : OutputPhase P G} {c : Uuid}
    (h : phase.settledFor c = true)
    (inPlace : List Fed) :
    phase.covers inPlace = batchesOf inPlace := by
  cases phase with
  | idle => rfl
  | sending b senders => rfl
  | taken t fed senders => cases h
  | parsed t fed senders => cases h

theorem pendingTo_of_settled {phase : OutputPhase P G} {c : Uuid}
    (h : phase.settledFor c = true) :
    phase.pendingTo c = [] := by
  cases phase with
  | idle => rfl
  | sending b senders =>
      simp only [settledFor, Bool.or_eq_true, decide_eq_true_eq, Option.isNone_iff_eq_none] at h
      simp only [pendingTo, pending]
      rcases h with hnot | hnone
      · rw [if_neg hnot]
      · simp [hnone]
  | taken t fed senders => cases h
  | parsed t fed senders => cases h

end OutputPhase

namespace Delivery

section Accounts

variable {P : Type u} {G : Type v}

/-- What is covered, and what was sent or is about to be sent to the client,
are all accepted batches, in order and each once. -/
def Accounts (s : Delivery P G) (c : Uuid) (covers : List Fed) (sent : List OutputDelta) :
    Prop :=
  ∃ rest, s.accepted = batchesOf covers ++ rest ∧
    sent ++ s.phase.pendingTo c = rest.filterMap Batch.delta

/-- The pane's entry in a snapshot carries the number of the last covered batch. -/
def SeqMatches (paneId : Uuid) (start : Pane P G) (r : SentSnapshot) : Prop :=
  ∃ entry ∈ r.snapshot.panes, entry.paneId = uuidToBytes paneId ∧
    entry.paneOutputSeq = start.outputSeq + (batchesOf r.covers).length

/-- The record of a client's last snapshot is right. -/
structure LinkOk (paneId : Uuid) (start : Pane P G) (s : Delivery P G) (c : Uuid)
    (snapshot : Option SentSnapshot) (queued : List OutputDelta) (lost : Bool) : Prop where
  attached : snapshot.isSome = true → (s.workspace.clientRole c).isSome = true
  seq : ∀ r, snapshot = some r → SeqMatches paneId start r
  accounts : ∀ r, snapshot = some r → lost = false → s.Accounts c r.covers queued

/-- The invariant of runs whose snapshots are settled. -/
structure Inv (paneId : Uuid) (start : Pane P G) (s : Delivery P G) : Prop where
  pane : ∃ pane, s.workspace.panes.lookup paneId = some pane ∧ pane.id = paneId ∧
    pane.outputSeq = start.outputSeq + s.accepted.length
  numbered : s.accepted.map Batch.seq = List.range' (start.outputSeq + 1) s.accepted.length
  covered : s.phase.covers s.inPlace = s.accepted
  senders : ∀ b senders, s.phase.pending = some (b, senders) → senders.Nodup
  links : ∀ c link, s.clients.lookup c = some link →
    LinkOk paneId start s c link.snapshot link.queued link.lost

theorem LinkOk.none {paneId : Uuid} {start : Pane P G} {s : Delivery P G} {c : Uuid}
    (queued : List OutputDelta)
    (lost : Bool) :
    LinkOk paneId start s c none queued lost :=
  ⟨by simp, by simp, by simp⟩

/-- A record stays right when nothing is accepted or sent and the client stays
attached. -/
theorem LinkOk.frame {paneId : Uuid} {start : Pane P G} {s s' : Delivery P G} {c : Uuid}
    {snapshot : Option SentSnapshot} {queued : List OutputDelta} {lost : Bool}
    (h : LinkOk paneId start s c snapshot queued lost)
    (haccepted : s'.accepted = s.accepted)
    (hpending : s'.phase.pendingTo c = s.phase.pendingTo c)
    (hrole : (s.workspace.clientRole c).isSome = true →
      (s'.workspace.clientRole c).isSome = true) :
    LinkOk paneId start s' c snapshot queued lost := by
  refine ⟨fun hsome => hrole (h.attached hsome), h.seq, ?_⟩
  intro r hr hlost
  obtain ⟨rest, hsplit, hsent⟩ := h.accounts r hr hlost
  exact ⟨rest, by rw [haccepted, hsplit], by rw [hpending, hsent]⟩

/-- What a step that touches only clients must leave of the records. -/
theorem Inv.of_clients {paneId : Uuid} {start : Pane P G} {s s' : Delivery P G}
    (h : s.Inv paneId start)
    (hpanes : s'.workspace.panes = s.workspace.panes)
    (hphase : s'.phase = s.phase)
    (haccepted : s'.accepted = s.accepted)
    (hplace : s'.inPlace = s.inPlace)
    (hlinks : ∀ c link', s'.clients.lookup c = some link' →
      link'.snapshot = none ∨
        ∃ link, s.clients.lookup c = some link ∧ link'.snapshot = link.snapshot ∧
          link'.queued = link.queued ∧ link'.lost = link.lost ∧
          ((s.workspace.clientRole c).isSome = true →
            (s'.workspace.clientRole c).isSome = true)) :
    s'.Inv paneId start := by
  refine ⟨?_, ?_, ?_, ?_, ?_⟩
  · rw [hpanes, haccepted]
    exact h.pane
  · rw [haccepted]
    exact h.numbered
  · rw [hphase, hplace, haccepted]
    exact h.covered
  · rw [hphase]
    exact h.senders
  · intro c link' hlink'
    rcases hlinks c link' hlink' with hnone | ⟨link, hlink, hsnap, hqueued, hlost, hrole⟩
    · rw [hnone]
      exact LinkOk.none _ _
    · rw [hsnap, hqueued, hlost]
      exact (h.links c link hlink).frame haccepted (by rw [hphase]) hrole

/-- Storing a link with the record it had. -/
theorem Inv.insertLink {paneId : Uuid} {start : Pane P G} {s : Delivery P G} {c : Uuid}
    {link link' : ClientLink}
    (h : s.Inv paneId start)
    (hlink : s.clients.lookup c = some link)
    (hsnap : link'.snapshot = link.snapshot)
    (hqueued : link'.queued = link.queued)
    (hlost : link'.lost = link.lost) :
    ({ s with clients := s.clients.insert c link' } : Delivery P G).Inv paneId start := by
  refine h.of_clients rfl rfl rfl rfl ?_
  intro k new hk
  rcases HashMap.lookup_insert_cases hk with ⟨rfl, rfl⟩ | ⟨_, hk⟩
  · exact Or.inr ⟨link, hlink, hsnap, hqueued, hlost, id⟩
  · exact Or.inr ⟨new, hk, rfl, rfl, rfl, id⟩

/-- A settled snapshot starts a right record. -/
theorem Inv.answer {paneId : Uuid} {start : Pane P G} {s s' : Delivery P G} {c : Uuid}
    {entry : PaneSnapshot} {pane' : Pane P G}
    (h : s.Inv paneId start)
    (link : ClientLink)
    (snapshot : WorkspaceSnapshot)
    (attached : Bool)
    (hphase : s'.phase = s.phase)
    (haccepted : s'.accepted = s.accepted)
    (hplace : batchesOf s'.inPlace = batchesOf s.inPlace)
    (hclients : s'.clients =
      s.clients.insert c (link.answer ⟨snapshot, s'.inPlace⟩ attached))
    (hroles : ∀ k, (s.workspace.clientRole k).isSome = true →
      (s'.workspace.clientRole k).isSome = true)
    (hrole : attached = true → (s'.workspace.clientRole c).isSome = true)
    (hsettled : attached = true → s.phase.settledFor c = true)
    (hpane : s'.workspace.panes.lookup paneId = some pane')
    (hid : pane'.id = paneId)
    (hseq : pane'.outputSeq = start.outputSeq + s.accepted.length)
    (hentry : entry ∈ snapshot.panes)
    (hentryId : entry.paneId = uuidToBytes paneId)
    (hentrySeq : entry.paneOutputSeq = start.outputSeq + s.accepted.length) :
    s'.Inv paneId start := by
  refine ⟨⟨pane', hpane, hid, by rw [haccepted]; exact hseq⟩, ?_, ?_, ?_, ?_⟩
  · rw [haccepted]
    exact h.numbered
  · rw [haccepted, ← h.covered, hphase]
    cases s.phase with
    | taken t fed senders => rfl
    | parsed t fed senders => rfl
    | idle => exact hplace
    | sending b senders => exact hplace
  · rw [hphase]
    exact h.senders
  · intro k new hk
    rw [hclients] at hk
    rcases HashMap.lookup_insert_cases hk with ⟨rfl, rfl⟩ | ⟨_, hk⟩
    · cases attached with
      | false => exact LinkOk.none _ _
      | true =>
          have hquiet := hsettled rfl
          have hall : batchesOf s'.inPlace = s'.accepted := by
            rw [hplace, ← OutputPhase.covers_of_settled hquiet, h.covered, haccepted]
          refine ⟨fun _ => hrole rfl, ?_, ?_⟩
          · intro r hr
            simp only [ClientLink.answer, if_true, Option.some.injEq] at hr
            subst hr
            exact ⟨entry, hentry, hentryId, by rw [hentrySeq, hall, haccepted]⟩
          · intro r hr _
            simp only [ClientLink.answer, if_true, Option.some.injEq] at hr
            subst hr
            refine ⟨[], by rw [hall, List.append_nil], ?_⟩
            rw [hphase, OutputPhase.pendingTo_of_settled hquiet]
            rfl
    · exact (h.links k new hk).frame haccepted (by rw [hphase]) (hroles k)

/-- Sending to the next client: what was pending to it is queued. -/
theorem Inv.sendTo {paneId : Uuid} {start : Pane P G} {s : Delivery P G} {b : Batch}
    {c : Uuid} {rest : List Uuid} {d : OutputDelta} {link : ClientLink}
    (h : s.Inv paneId start)
    (hphase : s.phase = .sending b (c :: rest))
    (hdelta : b.delta = some d)
    (hlink : s.clients.lookup c = some link) :
    ({ s with
        phase := .sending b rest
        clients := s.clients.insert c (link.trySend d) } : Delivery P G).Inv paneId start := by
  have hnodup := h.senders b (c :: rest) (by rw [hphase]; rfl)
  have hcovered := h.covered
  rw [hphase] at hcovered
  refine ⟨h.pane, h.numbered, hcovered, ?_, ?_⟩
  · intro b' senders hpending
    simp only [OutputPhase.pending, Option.some.injEq, Prod.mk.injEq] at hpending
    rw [← hpending.2]
    exact (List.nodup_cons.mp hnodup).2
  · intro k new hk
    rcases HashMap.lookup_insert_cases hk with ⟨rfl, rfl⟩ | ⟨hkc, hk⟩
    · have hok := h.links k link hlink
      by_cases hroom : link.push.length < pushChannelBound
      · simp only [ClientLink.trySend, if_pos hroom]
        refine ⟨hok.attached, hok.seq, ?_⟩
        intro r hr hlost
        obtain ⟨others, hsplit, hsent⟩ := hok.accounts r hr hlost
        refine ⟨others, hsplit, ?_⟩
        rw [hphase] at hsent
        simp only [OutputPhase.pendingTo, OutputPhase.pending, hdelta, List.mem_cons, true_or,
          if_true, Option.toList_some] at hsent
        simp only [OutputPhase.pendingTo, OutputPhase.pending,
          if_neg (List.nodup_cons.mp hnodup).1, List.append_nil]
        exact hsent
      · simp only [ClientLink.trySend, if_neg hroom]
        exact ⟨hok.attached, hok.seq, by simp⟩
    · refine (h.links k new hk).frame rfl ?_ id
      rw [hphase]
      simp only [OutputPhase.pendingTo, OutputPhase.pending, List.mem_cons, hkc, false_or]

/-- Passing over a client that nothing is sent to. -/
theorem Inv.skip {paneId : Uuid} {start : Pane P G} {s : Delivery P G} {b : Batch}
    {c : Uuid} {rest : List Uuid}
    (h : s.Inv paneId start)
    (hphase : s.phase = .sending b (c :: rest))
    (hnothing : b.delta = none ∨ s.clients.lookup c = none) :
    ({ s with phase := .sending b rest } : Delivery P G).Inv paneId start := by
  have hnodup := h.senders b (c :: rest) (by rw [hphase]; rfl)
  have hcovered := h.covered
  rw [hphase] at hcovered
  refine ⟨h.pane, h.numbered, hcovered, ?_, ?_⟩
  · intro b' senders hpending
    simp only [OutputPhase.pending, Option.some.injEq, Prod.mk.injEq] at hpending
    rw [← hpending.2]
    exact (List.nodup_cons.mp hnodup).2
  · intro k new hk
    refine (h.links k new hk).frame rfl ?_ id
    rw [hphase]
    simp only [OutputPhase.pendingTo, OutputPhase.pending]
    rcases hnothing with hnone | hgone
    · simp [hnone]
    · have hkc : k ≠ c := by
        rintro rfl
        rw [hgone] at hk
        cases hk
      simp only [List.mem_cons, hkc, false_or]

end Accounts

section Moves

variable {P : Type u} {G : Type v}
variable [VteParser P] [Vt100Parser G]

theorem sanitizeModesIfIdle_seq (pane : Pane P G) (proc : ProcFs) :
    (pane.sanitizeModesIfIdle proc).2.id = pane.id ∧
      (pane.sanitizeModesIfIdle proc).2.outputSeq = pane.outputSeq := by
  simp only [Pane.sanitizeModesIfIdle]
  split
  · exact ⟨rfl, rfl⟩
  · split
    · exact ⟨rfl, rfl⟩
    · exact ⟨rfl, rfl⟩

theorem batchesOf_healing (s : Delivery P G) (paneId : Uuid) (proc : ProcFs) :
    batchesOf (s.healing paneId proc) = [] := by
  simp only [healing]
  split
  · rfl
  · rename_i pane _
    cases (pane.sanitizeModesIfIdle proc).1 with
    | none => rfl
    | some cleanup => rfl

theorem Inv.attach {paneId : Uuid} {start : Pane P G} {s : Delivery P G} {c : Uuid}
    {mode : AttachMode} {now : Nat} {proc : ProcFs} {link : ClientLink}
    {reply : Workspace.AttachReply} {w : Workspace P G}
    (h : s.Inv paneId start)
    (hsettled : s.snapshotSettled (.attach c mode now proc) = true)
    (hres : s.workspace.handleV3Attach c mode now proc = (some reply, w)) :
    ({ s with
        workspace := w
        inPlace := s.inPlace ++ s.healing paneId proc
        clients := s.clients.insert c
          (link.answer ⟨reply.snapshot, s.inPlace ++ s.healing paneId proc⟩ true) } :
      Delivery P G).Inv paneId start := by
  have hattached := Workspace.handleV3Attach_some hres
  obtain ⟨pane, hpane, hid, hseq⟩ := h.pane
  obtain ⟨hid', hseq'⟩ := sanitizeModesIfIdle_seq pane proc
  obtain ⟨role, rev, hout⟩ := hattached.outcome
  simp only [snapshotSettled, hout] at hsettled
  have hrole : ∀ k, (s.workspace.clientRole k).isSome = true →
      (w.clientRole k).isSome = true := by
    intro k hk
    have hkeep := Workspace.clientRole_attachClient hk c mode now
    simp only [Workspace.clientRole] at hkeep ⊢
    rw [hattached.clients]
    exact hkeep
  have hrendered : w.panes.lookup paneId =
      some (((pane.sanitizeModesIfIdle proc).2).snapshot proc).2 := by
    rw [hattached.panes, hpane, Option.map_some]
  refine h.answer link reply.snapshot true rfl rfl ?_ rfl hrole (fun _ => hattached.role)
    (fun _ => hsettled) hrendered (hid'.trans hid) (hseq'.trans hseq)
    (hattached.entries paneId pane hpane) (congrArg uuidToBytes (hid'.trans hid))
    (hseq'.trans hseq)
  rw [batchesOf_append, batchesOf_healing, List.append_nil]

omit [VteParser P] in
theorem Inv.resync {paneId : Uuid} {start : Pane P G} {s : Delivery P G} {c : Uuid}
    {proc : ProcFs} {link : ClientLink}
    (h : s.Inv paneId start)
    (hsettled : s.snapshotSettled (.resync c proc) = true) :
    ({ s with
        workspace := (s.workspace.handleResync c proc).2
        clients := s.clients.insert c
          (link.answer ⟨(s.workspace.handleResync c proc).1, s.inPlace⟩
            (s.workspace.clientRole c).isSome) } : Delivery P G).Inv paneId start := by
  obtain ⟨pane, hpane, hid, hseq⟩ := h.pane
  simp only [snapshotSettled, Bool.or_eq_true, Option.isNone_iff_eq_none] at hsettled
  have hrendered : (s.workspace.handleResync c proc).2.panes.lookup paneId =
      some (pane.snapshot proc).2 := by
    rw [Workspace.lookup_handleResync, hpane, Option.map_some]
  refine h.answer link (s.workspace.handleResync c proc).1 (s.workspace.clientRole c).isSome
    rfl rfl rfl rfl (fun _ hk => hk) id ?_ hrendered hid hseq
    (Workspace.buildSnapshot_entry hpane _ proc) (congrArg uuidToBytes hid) hseq
  intro hsome
  rcases hsettled with hnone | hquiet
  · rw [hnone] at hsome
    cases hsome
  · exact hquiet

theorem Inv.takeScreen {paneId : Uuid} {start : Pane P G} {s : Delivery P G} {raw : Bytes}
    {t : TakenOutput P G} {w : Workspace P G}
    (h : s.Inv paneId start)
    (hphase : s.phase = .idle)
    (htake : s.workspace.takeOutput paneId raw = (some t, w)) :
    ({ s with
        workspace := w
        phase := .taken t s.inPlace
          (s.workspace.attachedClients.keys.filter (fun id => (s.clients.lookup id).isSome))
        accepted := s.accepted ++ [t.batch]
        inPlace := [] } : Delivery P G).Inv paneId start := by
  obtain ⟨pane, hpane, hid, hseq⟩ := h.pane
  have hlook := Workspace.lookup_takeOutput s.workspace paneId raw paneId
  have hclients := Workspace.takeOutput_clients s.workspace paneId raw
  rw [htake] at hlook hclients
  rw [if_pos rfl, hpane, Option.map_some] at hlook
  simp only [Workspace.takeOutput, hpane, Prod.mk.injEq, Option.some.injEq] at htake
  have htseq : t.outputSeq = pane.outputSeq + 1 := by
    rw [← htake.1]
    rfl
  have hcovered := h.covered
  rw [hphase] at hcovered
  refine ⟨⟨_, hlook, hid, ?_⟩, ?_, ?_, ?_, ?_⟩
  · have hnext : (Workspace.takePaneOutput pane raw).2.outputSeq = pane.outputSeq + 1 := rfl
    rw [hnext, hseq, List.length_append, List.length_singleton, Nat.add_assoc]
  · rw [List.map_append, h.numbered, List.length_append, List.length_singleton,
      List.range'_concat, List.map_singleton, Nat.one_mul]
    simp only [TakenOutput.batch, htseq, hseq]
    congr 2
    omega
  · simp only [OutputPhase.covers]
    rw [← hcovered]
    rfl
  · intro b senders hpending
    simp only [OutputPhase.pending, Option.some.injEq, Prod.mk.injEq] at hpending
    rw [← hpending.2]
    exact s.workspace.attachedClients.keys_nodup.filter _
  · intro c link hlink
    have hok := h.links c link hlink
    refine ⟨?_, hok.seq, ?_⟩
    · intro hsome
      have hrole := hok.attached hsome
      simp only [Workspace.clientRole] at hrole ⊢
      rw [hclients]
      exact hrole
    · intro r hr hlost
      obtain ⟨rest, hsplit, hsent⟩ := hok.accounts r hr hlost
      -- An attached, connected client is among those collected.
      have hmem : c ∈ s.workspace.attachedClients.keys.filter
          (fun id => (s.clients.lookup id).isSome) := by
        have hrole := hok.attached (by rw [hr]; rfl)
        rw [List.mem_filter]
        refine ⟨?_, by rw [hlink]; rfl⟩
        rw [← AList.mem_keys, ← AList.lookup_isSome]
        exact hrole
      rw [hphase] at hsent
      simp only [OutputPhase.pendingTo, OutputPhase.pending, List.append_nil] at hsent
      refine ⟨rest ++ [t.batch], by rw [hsplit, List.append_assoc], ?_⟩
      simp only [OutputPhase.pendingTo, OutputPhase.pending]
      rw [if_pos hmem, List.filterMap_append, hsent]
      cases hdelta : t.batch.delta with
      | none => simp [hdelta]
      | some d => simp [hdelta]

theorem Inv.parse {paneId : Uuid} {start : Pane P G} {s : Delivery P G}
    {t : TakenOutput P G} {fed : List Fed} {senders : List Uuid}
    (h : s.Inv paneId start)
    (hphase : s.phase = .taken t fed senders) :
    ({ s with
        phase := .parsed ⟨t.screen.parse t.data, t.outputSeq, t.data⟩
          (fed ++ [.batch t.batch]) senders } : Delivery P G).Inv paneId start := by
  have hcovered := h.covered
  rw [hphase] at hcovered
  refine ⟨h.pane, h.numbered, ?_, ?_, ?_⟩
  · simp only [OutputPhase.covers, batchesOf_append, batchesOf_batch]
    exact hcovered
  · intro b senders' hpending
    exact h.senders b senders' (by rw [hphase]; exact hpending)
  · intro c link hlink
    refine (h.links c link hlink).frame rfl ?_ id
    rw [hphase]
    rfl

omit [VteParser P] [Vt100Parser G] in
theorem Inv.returnScreen {paneId : Uuid} {start : Pane P G} {s : Delivery P G}
    {t : TakenOutput P G} {fed : List Fed} {senders : List Uuid}
    (h : s.Inv paneId start)
    (hphase : s.phase = .parsed t fed senders)
    (proc : ProcFs) :
    ({ s with
        workspace := (s.workspace.returnOutput paneId t.screen proc).2
        phase := .sending t.batch senders
        inPlace := fed } : Delivery P G).Inv paneId start := by
  obtain ⟨pane, hpane, hid, hseq⟩ := h.pane
  have hcovered := h.covered
  rw [hphase] at hcovered
  have hclients := (Workspace.returnOutput_effect s.workspace paneId t.screen proc).clients
  have hreturned : (s.workspace.returnOutput paneId t.screen proc).2.panes.lookup paneId =
      some (pane.returnScreen t.screen).2 := by
    rw [Workspace.lookup_returnOutput, if_pos rfl, hpane, Option.map_some]
  refine ⟨⟨_, hreturned, hid, hseq⟩, h.numbered, hcovered, ?_, ?_⟩
  · intro b senders' hpending
    exact h.senders b senders' (by rw [hphase]; exact hpending)
  · intro c link hlink
    refine (h.links c link hlink).frame rfl ?_ ?_
    · rw [hphase]
      rfl
    · intro hrole
      simp only [Workspace.clientRole] at hrole ⊢
      rw [hclients]
      exact hrole

/-- **Step lemma.** A step whose snapshot is settled keeps the invariant. -/
theorem Inv.move {paneId : Uuid} {start : Pane P G} {s s' : Delivery P G} {a : DeliveryStep}
    (h : s.Inv paneId start)
    (hsettled : s.snapshotSettled a = true)
    (hmove : Moves paneId s a s') :
    s'.Inv paneId start := by
  cases hmove with
  | connect c hnew =>
      refine h.of_clients rfl rfl rfl rfl ?_
      intro k link hk
      rcases HashMap.lookup_insert_cases hk with ⟨_, rfl⟩ | ⟨_, hk⟩
      · exact Or.inl rfl
      · exact Or.inr ⟨link, hk, rfl, rfl, rfl, id⟩
  | disconnect c =>
      refine h.of_clients rfl rfl rfl rfl ?_
      intro k link hk
      exact Or.inr ⟨link, (HashMap.lookup_erase_cases hk).2, rfl, rfl, rfl, id⟩
  | attachRefused c mode now proc w hres =>
      rw [Workspace.handleV3Attach_none hres]
      refine h.of_clients (Workspace.attachClient_panes _ _ _ _) rfl rfl rfl ?_
      intro k link hk
      exact Or.inr ⟨link, hk, rfl, rfl, rfl,
        fun hrole => Workspace.clientRole_attachClient hrole c mode now⟩
  | attach c mode now proc link reply w _ _ hres => exact h.attach hsettled hres
  | takeOver c now =>
      refine h.of_clients (Workspace.attachClient_panes _ _ _ _) rfl rfl rfl ?_
      intro k link hk
      exact Or.inr ⟨link, hk, rfl, rfl, rfl,
        fun hrole => Workspace.clientRole_attachClient hrole c .takeOver now⟩
  | detach c reason =>
      refine h.of_clients (Workspace.detachClient_effect _ _ _).panes rfl rfl rfl ?_
      intro k link hk
      simp only [HashMap.lookup_modify] at hk
      by_cases hkc : k = c
      · rw [if_pos hkc] at hk
        obtain ⟨old, _, rfl⟩ := Option.map_eq_some_iff.mp hk
        exact Or.inl rfl
      · rw [if_neg hkc] at hk
        exact Or.inr ⟨link, hk, rfl, rfl, rfl,
          fun hrole => by rw [Workspace.clientRole_detachClient hkc]; exact hrole⟩
  | resync c proc link _ _ => exact h.resync hsettled
  | takeScreen raw t w hphase htake => exact h.takeScreen hphase htake
  | parse t fed senders hphase => exact h.parse hphase
  | returnScreen proc t fed senders hphase => exact h.returnScreen hphase proc
  | finish b hphase =>
      have hcovered := h.covered
      rw [hphase] at hcovered
      refine ⟨h.pane, h.numbered, hcovered, by simp [OutputPhase.pending], ?_⟩
      intro c link hlink
      refine (h.links c link hlink).frame rfl ?_ id
      rw [hphase]
      simp [OutputPhase.pendingTo, OutputPhase.pending]
  | sendTo b c rest d link hphase hdelta hlink => exact h.sendTo hphase hdelta hlink
  | skip b c rest hphase hnothing => exact h.skip hphase hnothing
  | pushEvent c link hlink =>
      by_cases hroom : link.push.length < pushChannelBound
      · simp only [ClientLink.tryPushEvent, if_pos hroom]
        exact h.insertLink hlink rfl rfl rfl
      · simp only [ClientLink.tryPushEvent, if_neg hroom]
        exact h.insertLink hlink rfl rfl rfl
  | respond c link r hlink _ => exact h.insertLink hlink rfl rfl rfl
  | replyOther c link hlink => exact h.insertLink hlink rfl rfl rfl
  | deliverResp c link m rest hlink _ =>
      cases m with
      | snapshot r => exact h.insertLink hlink rfl rfl rfl
      | other => exact h.insertLink hlink rfl rfl rfl
  | deliverPush c link m rest hlink _ _ =>
      cases m with
      | outputDelta d => exact h.insertLink hlink rfl rfl rfl
      | event => exact h.insertLink hlink rfl rfl rfl

/-- **Run lemma.** -/
theorem inv_of_reachable {paneId : Uuid} {start : Pane P G} {s : Delivery P G}
    (h : (system paneId start).ReachableUnder (fun s a => s.snapshotSettled a = true) s) :
    s.Inv paneId start := by
  refine h.invariant ?_ (fun s a s' hI hok hnext => hI.move hok (moves_of_next hnext))
  rintro s ⟨hpane, hid, _, hphase, haccepted, hplace, hclients⟩
  refine ⟨⟨start, hpane, hid, by rw [haccepted]; rfl⟩, by rw [haccepted]; rfl, ?_, ?_, ?_⟩
  · rw [hphase, hplace, haccepted]
    rfl
  · rw [hphase]
    simp [OutputPhase.pending]
  · intro c link hlink
    rw [hclients] at hlink
    simp at hlink

end Moves

section Continuity

variable {P : Type u} {G : Type v}

/-- The deltas a client is owed for all batches are those of the covered ones
and those sent. -/
theorem Accounts.deltas {s : Delivery P G} {c : Uuid} {covers : List Fed}
    {sent : List OutputDelta}
    (h : s.Accounts c covers sent) :
    s.accepted.filterMap Batch.delta =
      (batchesOf covers).filterMap Batch.delta ++ (sent ++ s.phase.pendingTo c) := by
  obtain ⟨rest, hsplit, hsent⟩ := h
  rw [hsplit, List.filterMap_append, hsent]

/-- The push channel of the next client has room, if the client is owed the batch. -/
def roomToSend (s : Delivery P G) : DeliveryStep → Bool
  | .send =>
      match s.phase with
      | .sending b (c :: _) =>
          match s.clients.lookup c with
          | some link =>
              link.snapshot.isNone || b.delta.isNone || link.push.length < pushChannelBound
          | none => true
      | _ => true
  | _ => true

/-- Nothing is dropped for a client that holds a snapshot. -/
def NothingLost (s : Delivery P G) : Prop :=
  ∀ c link, s.clients.lookup c = some link → link.snapshot.isSome = true → link.lost = false

/-- Batches are numbered one after the other; the snapshot of an attached
client carries the number of the last batch it covers, and what it covers and
what is queued or about to be queued after it are all batches, each once. -/
structure Continuous (paneId : Uuid) (start : Pane P G) (s : Delivery P G) : Prop where
  numbered : s.accepted.map Batch.seq = List.range' (start.outputSeq + 1) s.accepted.length
  seq : ∀ c link r, s.clients.lookup c = some link → link.snapshot = some r →
    SeqMatches paneId start r
  accounts : ∀ c link r, s.clients.lookup c = some link → link.snapshot = some r →
    s.Accounts c r.covers link.queued

theorem NothingLost.of_links {s s' : Delivery P G}
    (h : s.NothingLost)
    (hlinks : ∀ c link', s'.clients.lookup c = some link' →
      link'.snapshot = none ∨ link'.lost = false ∨
        ∃ link, s.clients.lookup c = some link ∧ link'.snapshot = link.snapshot ∧
          link'.lost = link.lost) :
    s'.NothingLost := by
  intro c link' hlink' hsome
  rcases hlinks c link' hlink' with hnone | hkept | ⟨link, hlink, hsnap, hlost⟩
  · rw [hnone] at hsome
    cases hsome
  · exact hkept
  · rw [hlost]
    exact h c link hlink (by rw [← hsnap]; exact hsome)

/-- Storing one link. -/
theorem NothingLost.insertLink {s s' : Delivery P G} {c : Uuid} {link' : ClientLink}
    (h : s.NothingLost)
    (hclients : s'.clients = s.clients.insert c link')
    (hlink' : link'.snapshot = none ∨ link'.lost = false ∨
      ∃ link, s.clients.lookup c = some link ∧ link'.snapshot = link.snapshot ∧
        link'.lost = link.lost) :
    s'.NothingLost := by
  refine h.of_links ?_
  intro k new hk
  rw [hclients] at hk
  rcases HashMap.lookup_insert_cases hk with ⟨rfl, rfl⟩ | ⟨_, hk⟩
  · exact hlink'
  · exact Or.inr (Or.inr ⟨new, hk, rfl, rfl⟩)

variable [VteParser P] [Vt100Parser G]

theorem NothingLost.move {paneId : Uuid} {s s' : Delivery P G} {a : DeliveryStep}
    (h : s.NothingLost)
    (hroom : s.roomToSend a = true)
    (hmove : Moves paneId s a s') :
    s'.NothingLost := by
  cases hmove with
  | connect c _ => exact h.insertLink rfl (Or.inl rfl)
  | disconnect c =>
      refine h.of_links ?_
      intro k link hk
      exact Or.inr (Or.inr ⟨link, (HashMap.lookup_erase_cases hk).2, rfl, rfl⟩)
  | attach c mode now proc link reply w _ _ _ => exact h.insertLink rfl (Or.inr (Or.inl rfl))
  | resync c proc link _ _ => exact h.insertLink rfl (Or.inr (Or.inl rfl))
  | detach c reason =>
      refine h.of_links ?_
      intro k link hk
      simp only [HashMap.lookup_modify] at hk
      by_cases hkc : k = c
      · rw [if_pos hkc] at hk
        obtain ⟨old, _, rfl⟩ := Option.map_eq_some_iff.mp hk
        exact Or.inl rfl
      · rw [if_neg hkc] at hk
        exact Or.inr (Or.inr ⟨link, hk, rfl, rfl⟩)
  | sendTo b c rest d link hphase hdelta hlink =>
      simp only [roomToSend, hphase, hlink, hdelta, Bool.or_eq_true, decide_eq_true_eq,
        Option.isNone_iff_eq_none, reduceCtorEq, or_false] at hroom
      refine h.insertLink rfl ?_
      by_cases hfits : link.push.length < pushChannelBound
      · simp only [ClientLink.trySend, if_pos hfits]
        exact Or.inr (Or.inr ⟨link, hlink, rfl, rfl⟩)
      · simp only [ClientLink.trySend, if_neg hfits]
        exact Or.inl (hroom.resolve_right hfits)
  | pushEvent c link hlink =>
      refine h.insertLink rfl (Or.inr (Or.inr ⟨link, hlink, ?_⟩))
      simp only [ClientLink.tryPushEvent]
      split
      · exact ⟨rfl, rfl⟩
      · exact ⟨rfl, rfl⟩
  | respond c link r hlink _ => exact h.insertLink rfl (Or.inr (Or.inr ⟨link, hlink, rfl, rfl⟩))
  | replyOther c link hlink => exact h.insertLink rfl (Or.inr (Or.inr ⟨link, hlink, rfl, rfl⟩))
  | deliverResp c link m rest hlink _ =>
      refine h.insertLink rfl (Or.inr (Or.inr ⟨link, hlink, ?_⟩))
      cases m with
      | snapshot r => exact ⟨rfl, rfl⟩
      | other => exact ⟨rfl, rfl⟩
  | deliverPush c link m rest hlink _ _ =>
      refine h.insertLink rfl (Or.inr (Or.inr ⟨link, hlink, ?_⟩))
      cases m with
      | outputDelta d => exact ⟨rfl, rfl⟩
      | event => exact ⟨rfl, rfl⟩
  | attachRefused c mode now proc w _ => exact h
  | takeOver c now => exact h
  | takeScreen raw t w _ _ => exact h
  | parse t fed senders _ => exact h
  | returnScreen proc t fed senders _ => exact h
  | finish b _ => exact h
  | skip b c rest _ _ => exact h

/-- The guard of continuity: settled snapshots and room in the push channels. -/
def accountable (s : Delivery P G) (a : DeliveryStep) : Bool :=
  s.snapshotSettled a && s.roomToSend a

/-- **Output continuity**: in every state of a run whose snapshots are settled
and whose sends have room, a snapshot and the deltas queued after it account
for every output batch of the pane exactly once. -/
theorem output_continuity {paneId : Uuid} {start : Pane P G} {s : Delivery P G}
    (h : (system paneId start).ReachableUnder (fun s a => s.accountable a = true) s) :
    s.Continuous paneId start := by
  have hsettled : (system paneId start).ReachableUnder
      (fun s a => s.snapshotSettled a = true) s :=
    h.mono (fun s a hok => (Bool.and_eq_true_iff.mp hok).1)
  have hinv := inv_of_reachable hsettled
  have hlost : s.NothingLost := by
    refine h.invariant (I := NothingLost) ?_ ?_
    · rintro s ⟨_, _, _, _, _, _, hclients⟩ c link hlink
      rw [hclients] at hlink
      simp at hlink
    · intro s a s' hI hok hnext
      exact hI.move (Bool.and_eq_true_iff.mp hok).2 (moves_of_next hnext)
  refine ⟨hinv.numbered, ?_, ?_⟩
  · intro c link r hlink hr
    exact (hinv.links c link hlink).seq r hr
  · intro c link r hlink hr
    exact (hinv.links c link hlink).accounts r hr (hlost c link hlink (by rw [hr]; rfl))

end Continuity

section Runs

def samplePane : Pane SampleParser SampleGrid :=
  Pane.new 1 80 24

def noProc : ProcFs :=
  ⟨fun _ => none, fun _ => none⟩

/-- A workspace with one pane, and nobody connected. -/
def sampleDelivery : Delivery SampleParser SampleGrid where
  workspace := (Workspace.new 7 "work" 0).addPane samplePane
  phase := .idle
  accepted := []
  inPlace := []
  clients := ∅

theorem sampleDelivery_init : (system 1 samplePane).init sampleDelivery := by
  refine ⟨?_, rfl, rfl, rfl, rfl, rfl, rfl⟩
  rfl

/-- One batch before the attach, one after it. -/
def settledAttach : List DeliveryStep :=
  [.connect 9, .takeScreen (bytesOf "ls"), .parse, .returnScreen noProc, .send,
    .attach 9 .readWrite 5 noProc, .takeScreen (bytesOf "cd"), .parse, .returnScreen noProc,
    .send, .send]

/-- The theorem after the second batch, which the client was sent. -/
theorem output_continuity_settledAttach :
    ∃ s : Delivery SampleParser SampleGrid,
      (s.clients.lookup 9).map (fun link => link.queued) = some [⟨bytesOf "cd", 2⟩] ∧
        s.Continuous 1 samplePane := by
  obtain ⟨s, hreach, hqueued⟩ := System.exists_reachableUnder (S := system 1 samplePane)
    accountable settledAttach
    (p := fun s => (s.clients.lookup 9).map (fun link => link.queued) = some [⟨bytesOf "cd", 2⟩])
    sampleDelivery_init (by decide +kernel)
  exact ⟨s, hqueued, output_continuity hreach⟩

/-- The client attaches while the batch is parsed. -/
def attachDuringParse : List DeliveryStep :=
  [.connect 9, .takeScreen (bytesOf "ls"), .attach 9 .readWrite 5 noProc, .parse,
    .returnScreen noProc, .send]

/-- The client resynchronises when the batch is in the screen but not yet sent. -/
def resyncBeforeSend : List DeliveryStep :=
  [.connect 9, .attach 9 .readWrite 5 noProc, .respond 9, .takeScreen (bytesOf "ls"), .parse,
    .returnScreen noProc, .resync 9 noProc, .send, .send]

theorem attachDuringParse_runs :
    ((system 1 samplePane).exec sampleDelivery attachDuringParse).isSome = true := by
  decide +kernel

theorem resyncBeforeSend_runs :
    ((system 1 samplePane).exec sampleDelivery resyncBeforeSend).isSome = true := by
  decide +kernel

def attachDuringParseEnd : Delivery SampleParser SampleGrid :=
  ((system 1 samplePane).exec sampleDelivery attachDuringParse).get attachDuringParse_runs

def resyncBeforeSendEnd : Delivery SampleParser SampleGrid :=
  ((system 1 samplePane).exec sampleDelivery resyncBeforeSend).get resyncBeforeSend_runs

/-- How many deltas the client is owed in all, and how many its last snapshot
covers, were queued and are pending. -/
def deltaCounts (s : Delivery SampleParser SampleGrid) (c : Uuid) : Option (Nat × Nat) :=
  (s.clients.lookup c).bind fun link =>
    link.snapshot.map fun r =>
      ((s.accepted.filterMap Batch.delta).length,
        ((batchesOf r.covers).filterMap Batch.delta).length + link.queued.length +
          (s.phase.pendingTo c).length)

theorem Continuous.deltaCounts {s : Delivery SampleParser SampleGrid} {c : Uuid}
    {owed accounted : Nat}
    (h : s.Continuous 1 samplePane)
    (hcounts : s.deltaCounts c = some (owed, accounted)) :
    owed = accounted := by
  simp only [Delivery.deltaCounts, Option.bind_eq_some_iff, Option.map_eq_some_iff,
    Prod.mk.injEq] at hcounts
  obtain ⟨link, hlink, r, hr, howed, haccounted⟩ := hcounts
  have hall := congrArg List.length (h.accounts c link r hlink hr).deltas
  rw [List.length_append, List.length_append] at hall
  omega

/-- **Continuity is lost** in two ways: a client that attaches while a batch is
parsed gets it neither in the snapshot nor as a delta, and one that
resynchronises before a batch is sent gets it in both. -/
theorem continuity_lost_at_both_positions :
    ((system 1 samplePane).Reachable attachDuringParseEnd ∧
        ¬ attachDuringParseEnd.Continuous 1 samplePane) ∧
      ((system 1 samplePane).Reachable resyncBeforeSendEnd ∧
        ¬ resyncBeforeSendEnd.Continuous 1 samplePane) := by
  refine ⟨⟨System.reachable_get sampleDelivery_init attachDuringParse_runs, ?_⟩,
    System.reachable_get sampleDelivery_init resyncBeforeSend_runs, ?_⟩
  · intro h
    have hcounts : attachDuringParseEnd.deltaCounts 9 = some (1, 0) := by
      decide +kernel
    exact absurd (h.deltaCounts hcounts) (by decide)
  · intro h
    have hcounts : resyncBeforeSendEnd.deltaCounts 9 = some (1, 2) := by
      decide +kernel
    exact absurd (h.deltaCounts hcounts) (by decide)

end Runs

end Delivery

end Server
end Rttx
