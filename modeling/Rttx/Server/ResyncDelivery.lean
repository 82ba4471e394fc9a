import Rttx.Server.OutputContinuity

/-!
# Resynchronising a client

A client that lost pushes asks for a snapshot and resets its panes to it.  The
snapshot travels on the response channel, which the writer always prefers, so
it overtakes the deltas that were queued for the client before it was built;
these are fed after the reset although the snapshot covers them.  And between
building the snapshot under the workspace lock and queueing it, deltas built
later may already be delivered; the reset wipes them.  The client looks at no
sequence number.

**Results.**
* `resync_exact`: in runs that build a snapshot only when its client's push
  channel holds no delta, and deliver no delta to a client whose snapshot is
  not queued yet, each client shows a prefix of the output in order, each batch
  once, and all of it once everything is delivered.
* `resync_inexact_at_both_positions`: a run for each of the two positions.
-/

namespace Rttx
namespace Server

open Kernel

universe u v

def PushMsg.outputDelta? : PushMsg → Option OutputDelta
  | outputDelta d => some d
  | event => none

def RespMsg.snapshot? : RespMsg → Option SentSnapshot
  | snapshot r => some r
  | other => none

/-- The deltas in a push channel. -/
def deltasOf (push : List PushMsg) : List OutputDelta :=
  push.filterMap PushMsg.outputDelta?

/-- The view shows exactly these batches, in order: those that the snapshot it
was reset to covers, then those of the deltas it was fed. -/
def PaneView.Shows (v : PaneView) (batches : List Batch) : Prop :=
  ∃ rest, batches = batchesOf v.snapshot.covers ++ rest ∧ v.deltas = rest.filterMap Batch.delta

namespace ClientLink

/-- The last snapshot that was built for the client and not applied yet. -/
def inFlight (link : ClientLink) : Option SentSnapshot :=
  link.responding.or (link.resp.filterMap RespMsg.snapshot?).getLast?

/-- The deltas recorded since the last snapshot are those still queued, after
those the client was fed if it has applied the snapshot. -/
def Exact (link : ClientLink) : Prop :=
  ∀ r, link.snapshot = some r → link.lost = false →
    match link.inFlight with
    | some r' => r' = r ∧ deltasOf link.push = link.queued
    | none => ∃ v, link.view = some v ∧ v.snapshot = r ∧
        v.deltas ++ deltasOf link.push = link.queued

/-- Delivering a delta now would wipe it: a snapshot is built but not queued. -/
def wipesNext (link : ClientLink) : Bool :=
  link.responding.isSome && link.resp.isEmpty && link.snapshot.isSome && !link.lost &&
    (link.push.head?.bind PushMsg.outputDelta?).isSome

theorem Exact.of_no_snapshot {link : ClientLink} (h : link.snapshot = none) : link.Exact := by
  intro r hr
  rw [h] at hr
  cases hr

theorem Exact.of_lost {link : ClientLink} (h : link.lost = true) : link.Exact := by
  intro r _ hlost
  rw [h] at hlost
  cases hlost

/-- A link that differs in nothing the property looks at. -/
theorem Exact.of_same {link link' : ClientLink}
    (h : link.Exact)
    (hsnap : link'.snapshot = link.snapshot)
    (hlost : link'.lost = link.lost)
    (hflight : link'.inFlight = link.inFlight)
    (hview : link'.view = link.view)
    (hpush : deltasOf link'.push = deltasOf link.push)
    (hqueued : link'.queued = link.queued) :
    link'.Exact := by
  simp only [Exact] at h ⊢
  rw [hsnap, hlost, hflight, hview, hpush, hqueued]
  exact h

/-- A snapshot for a client with no delta queued. -/
theorem Exact.answer {link : ClientLink} (r : SentSnapshot)
    (attached : Bool)
    (hclear : attached = true → deltasOf link.push = []) :
    (link.answer r attached).Exact := by
  cases attached with
  | false => exact Exact.of_no_snapshot rfl
  | true =>
      intro r' hr' _
      simp only [ClientLink.answer, if_true, Option.some.injEq] at hr'
      exact ⟨hr', hclear rfl⟩

theorem Exact.trySend {link : ClientLink}
    (h : link.Exact)
    (d : OutputDelta) :
    (link.trySend d).Exact := by
  by_cases hroom : link.push.length < pushChannelBound
  · simp only [ClientLink.trySend, if_pos hroom]
    intro r hr hlost
    have hexact := h r hr hlost
    have hmore : deltasOf (link.push ++ [.outputDelta d]) = deltasOf link.push ++ [d] := by
      simp [deltasOf, PushMsg.outputDelta?]
    have hflight : ({ link with
        push := link.push ++ [.outputDelta d]
        queued := link.queued ++ [d] } : ClientLink).inFlight = link.inFlight := rfl
    rw [hflight]
    cases hcase : link.inFlight with
    | some r' =>
        rw [hcase] at hexact
        exact ⟨hexact.1, by rw [hmore, hexact.2]⟩
    | none =>
        rw [hcase] at hexact
        obtain ⟨v, hview, hv, hdeltas⟩ := hexact
        exact ⟨v, hview, hv, by rw [hmore, ← List.append_assoc, hdeltas]⟩
  · simp only [ClientLink.trySend, if_neg hroom]
    exact Exact.of_lost rfl

theorem Exact.tryPushEvent {link : ClientLink} (h : link.Exact) : link.tryPushEvent.Exact := by
  simp only [ClientLink.tryPushEvent]
  split
  · exact h.of_same rfl rfl rfl rfl (by simp [deltasOf, PushMsg.outputDelta?]) rfl
  · exact h

theorem Exact.sendSnapshot {link : ClientLink} {r : SentSnapshot}
    (h : link.Exact)
    (hresponding : link.responding = some r) :
    (link.sendSnapshot r).Exact := by
  refine h.of_same rfl rfl ?_ rfl rfl rfl
  simp [inFlight, ClientLink.sendSnapshot, hresponding, RespMsg.snapshot?]

theorem Exact.sendOther {link : ClientLink} (h : link.Exact) : link.sendOther.Exact := by
  refine h.of_same rfl rfl ?_ rfl rfl rfl
  simp [inFlight, ClientLink.sendOther, RespMsg.snapshot?]

/-- Applying a response: the last snapshot in flight becomes the view. -/
theorem Exact.applyResp {link : ClientLink} {m : RespMsg} {rest : List RespMsg}
    (h : link.Exact)
    (hresp : link.resp = m :: rest) :
    ({ link with resp := rest }.applyResp m).Exact := by
  cases m with
  | other =>
      refine h.of_same rfl rfl ?_ rfl rfl rfl
      simp [inFlight, ClientLink.applyResp, hresp, RespMsg.snapshot?]
  | snapshot r₀ =>
      intro r hr hlost
      have hexact := h r hr hlost
      have hbefore : link.inFlight =
          link.responding.or ((r₀ :: rest.filterMap RespMsg.snapshot?).getLast?) := by
        simp [inFlight, hresp, RespMsg.snapshot?]
      have hafter : ({ link with resp := rest }.applyResp (.snapshot r₀)).inFlight =
          link.responding.or (rest.filterMap RespMsg.snapshot?).getLast? := rfl
      rw [hafter]
      cases hresponding : link.responding with
      | some r' =>
          rw [hbefore, hresponding] at hexact
          exact hexact
      | none =>
          rw [hbefore, hresponding, Option.none_or] at hexact
          rw [Option.none_or]
          cases hrest : rest.filterMap RespMsg.snapshot? with
          | nil =>
              rw [hrest] at hexact
              exact ⟨⟨r₀, []⟩, rfl, hexact.1, hexact.2⟩
          | cons r₁ more =>
              rw [hrest, List.getLast?_cons_cons] at hexact
              exact hexact

/-- Applying a push that no snapshot is going to wipe. -/
theorem Exact.applyPush {link : ClientLink} {m : PushMsg} {rest : List PushMsg}
    (h : link.Exact)
    (hresp : link.resp = [])
    (hpush : link.push = m :: rest)
    (hkept : link.wipesNext = false) :
    ({ link with push := rest }.applyPush m).Exact := by
  cases m with
  | event =>
      refine h.of_same rfl rfl rfl rfl ?_ rfl
      simp [ClientLink.applyPush, hpush, deltasOf, List.filterMap_cons, PushMsg.outputDelta?]
  | outputDelta d =>
      intro r hr hlost
      have hsnap : link.snapshot = some r := hr
      have hnot : link.lost = false := hlost
      have hresponding : link.responding = none := by
        simpa [wipesNext, hresp, hpush, hsnap, hnot, PushMsg.outputDelta?] using hkept
      have hexact := h r hsnap hnot
      have hbefore : link.inFlight = none := by
        simp [inFlight, hresp, hresponding]
      have hafter : ({ link with push := rest }.applyPush (.outputDelta d)).inFlight = none :=
        hbefore
      have hdeltas : deltasOf link.push = d :: deltasOf rest := by
        simp [hpush, deltasOf, PushMsg.outputDelta?]
      rw [hbefore, hdeltas] at hexact
      rw [hafter]
      obtain ⟨v, hview, hv, hall⟩ := hexact
      refine ⟨{ v with deltas := v.deltas ++ [d] }, ?_, hv, ?_⟩
      · simp [ClientLink.applyPush, hview]
      · simpa [ClientLink.applyPush] using hall

end ClientLink

namespace Delivery

section Exactness

variable {P : Type u} {G : Type v}

def pushClearFor (s : Delivery P G) (c : Uuid) : Bool :=
  match s.clients.lookup c with
  | some link => (deltasOf link.push).isEmpty
  | none => true

/-- No delta is queued for a client when its snapshot is built, and none is
delivered to it before the snapshot is queued. -/
def inOrder (s : Delivery P G) : DeliveryStep → Bool
  | .attach clientId mode now _ =>
      match (s.workspace.attachClient clientId mode now).1 with
      | .ok (.attached _ _) => s.pushClearFor clientId
      | _ => true
  | .resync clientId _ => (s.workspace.clientRole clientId).isNone || s.pushClearFor clientId
  | .deliver clientId =>
      match s.clients.lookup clientId with
      | some link => !link.wipesNext
      | none => true
  | _ => true

/-- A client that has applied its last snapshot and lost nothing since shows a
prefix of the output, and all of it when nothing is queued or pending. -/
def ResyncExact (s : Delivery P G) : Prop :=
  ∀ c link, s.clients.lookup c = some link → link.snapshot.isSome = true →
    link.lost = false → link.inFlight = none →
      ∃ v, link.view = some v ∧ (∃ shown, shown <+: s.accepted ∧ v.Shows shown) ∧
        (s.phase.pendingTo c = [] → deltasOf link.push = [] → v.Shows s.accepted)

/-- Every link is exact. -/
def LinksExact (s : Delivery P G) : Prop :=
  ∀ c link, s.clients.lookup c = some link → link.Exact

theorem LinksExact.insert {s s' : Delivery P G} {c : Uuid} {link : ClientLink}
    (h : s.LinksExact)
    (hclients : s'.clients = s.clients.insert c link)
    (hlink : link.Exact) :
    s'.LinksExact := by
  intro k new hk
  rw [hclients] at hk
  rcases HashMap.lookup_insert_cases hk with ⟨_, rfl⟩ | ⟨_, hk⟩
  · exact hlink
  · exact h k new hk

/-- What is shown and what is still to come are all batches. -/
theorem Accounts.shows {s : Delivery P G} {c : Uuid} {v : PaneView} {later : List OutputDelta}
    (h : s.Accounts c v.snapshot.covers (v.deltas ++ later)) :
    (∃ shown, shown <+: s.accepted ∧ v.Shows shown) ∧
      (s.phase.pendingTo c = [] → later = [] → v.Shows s.accepted) := by
  obtain ⟨rest, hsplit, hsent⟩ := h
  constructor
  · rw [List.append_assoc] at hsent
    obtain ⟨now, future, hrest, hnow, _⟩ := List.filterMap_eq_append_iff.mp hsent.symm
    refine ⟨batchesOf v.snapshot.covers ++ now, ?_, now, rfl, hnow.symm⟩
    rw [hsplit, hrest, ← List.append_assoc]
    exact List.prefix_append _ _
  · intro hpending hlater
    rw [hpending, hlater, List.append_nil, List.append_nil] at hsent
    exact ⟨rest, hsplit, hsent⟩

variable [VteParser P] [Vt100Parser G]

/-- **Step lemma.** A step in order keeps the links exact. -/
theorem LinksExact.move {paneId : Uuid} {s s' : Delivery P G} {a : DeliveryStep}
    (h : s.LinksExact)
    (horder : s.inOrder a = true)
    (hmove : Moves paneId s a s') :
    s'.LinksExact := by
  cases hmove with
  | connect c _ => exact h.insert rfl (ClientLink.Exact.of_no_snapshot rfl)
  | disconnect c =>
      intro k link hk
      exact h k link (HashMap.lookup_erase_cases hk).2
  | attach c mode now proc link reply w hlink _ hres =>
      obtain ⟨role, rev, hout⟩ := (Workspace.handleV3Attach_some hres).outcome
      simp only [inOrder, hout, pushClearFor, hlink, List.isEmpty_iff] at horder
      exact h.insert rfl (ClientLink.Exact.answer _ true (fun _ => horder))
  | resync c proc link hlink _ =>
      simp only [inOrder, pushClearFor, hlink, Bool.or_eq_true, Option.isNone_iff_eq_none,
        List.isEmpty_iff] at horder
      refine h.insert rfl (ClientLink.Exact.answer _ _ ?_)
      intro hsome
      rcases horder with hnone | hclear
      · rw [hnone] at hsome
        cases hsome
      · exact hclear
  | detach c reason =>
      intro k link hk
      simp only [HashMap.lookup_modify] at hk
      by_cases hkc : k = c
      · rw [if_pos hkc] at hk
        obtain ⟨old, _, rfl⟩ := Option.map_eq_some_iff.mp hk
        exact ClientLink.Exact.of_no_snapshot rfl
      · rw [if_neg hkc] at hk
        exact h k link hk
  | sendTo b c rest d link _ _ hlink => exact h.insert rfl ((h c link hlink).trySend d)
  | pushEvent c link hlink => exact h.insert rfl (h c link hlink).tryPushEvent
  | respond c link r hlink hresponding =>
      exact h.insert rfl ((h c link hlink).sendSnapshot hresponding)
  | replyOther c link hlink => exact h.insert rfl (h c link hlink).sendOther
  | deliverResp c link m rest hlink hresp => exact h.insert rfl ((h c link hlink).applyResp hresp)
  | deliverPush c link m rest hlink hresp hpush =>
      simp only [inOrder, hlink, Bool.not_eq_true'] at horder
      exact h.insert rfl ((h c link hlink).applyPush hresp hpush horder)
  | attachRefused c mode now proc w _ => exact h
  | takeOver c now => exact h
  | takeScreen raw t w _ _ => exact h
  | parse t fed senders _ => exact h
  | returnScreen proc t fed senders _ => exact h
  | finish b _ => exact h
  | skip b c rest _ _ => exact h

/-- The guard of exactness: settled snapshots, and no delta out of order. -/
def resyncSafe (s : Delivery P G) (a : DeliveryStep) : Bool :=
  s.snapshotSettled a && s.inOrder a

/-- **Resync is exact** in every state of a run whose snapshots are settled and
overtake no delta. -/
theorem resync_exact {paneId : Uuid} {start : Pane P G} {s : Delivery P G}
    (h : (system paneId start).ReachableUnder (fun s a => s.resyncSafe a = true) s) :
    s.ResyncExact := by
  have hinv := inv_of_reachable
    (h.mono (fun s a hok => (Bool.and_eq_true_iff.mp hok).1) :
      (system paneId start).ReachableUnder (fun s a => s.snapshotSettled a = true) s)
  have hexact : s.LinksExact := by
    refine h.invariant (I := LinksExact) ?_ ?_
    · rintro s ⟨_, _, _, _, _, _, hclients⟩ c link hlink
      rw [hclients] at hlink
      simp at hlink
    · intro s a s' hI hok hnext
      exact hI.move (Bool.and_eq_true_iff.mp hok).2 (moves_of_next hnext)
  intro c link hlink hsome hlost hflight
  obtain ⟨r, hr⟩ := Option.isSome_iff_exists.mp hsome
  have hlinkExact := hexact c link hlink r hr hlost
  rw [hflight] at hlinkExact
  obtain ⟨v, hview, hv, hdeltas⟩ := hlinkExact
  have haccounts := (hinv.links c link hlink).accounts r hr hlost
  rw [← hv, ← hdeltas] at haccounts
  exact ⟨v, hview, haccounts.shows⟩

end Exactness

section Runs

/-- A resync between two batches, everything delivered. -/
def orderedResync : List DeliveryStep :=
  [.connect 9, .attach 9 .readWrite 5 noProc, .respond 9, .deliver 9, .takeScreen (bytesOf "ls"),
    .parse, .returnScreen noProc, .send, .send, .deliver 9, .resync 9 noProc, .respond 9,
    .deliver 9, .takeScreen (bytesOf "cd"), .parse, .returnScreen noProc, .send, .send, .deliver 9]

/-- The theorem after the second batch, which the view shows after the snapshot. -/
theorem resync_exact_orderedResync :
    ∃ s : Delivery SampleParser SampleGrid,
      ((s.clients.lookup 9).bind (fun link => link.view)).map (fun v => v.deltas) =
        some [⟨bytesOf "cd", 2⟩] ∧ s.ResyncExact := by
  obtain ⟨s, hreach, hdeltas⟩ := System.exists_reachableUnder (S := system 1 samplePane)
    resyncSafe orderedResync
    (p := fun s => ((s.clients.lookup 9).bind (fun link => link.view)).map (fun v => v.deltas) =
      some [⟨bytesOf "cd", 2⟩]) sampleDelivery_init (by decide +kernel)
  exact ⟨s, hdeltas, resync_exact hreach⟩

/-- The snapshot overtakes a delta that was queued before it was built. -/
def overtakingResync : List DeliveryStep :=
  [.connect 9, .attach 9 .readWrite 5 noProc, .respond 9, .deliver 9, .takeScreen (bytesOf "ls"),
    .parse, .returnScreen noProc, .send, .send, .resync 9 noProc, .respond 9, .deliver 9,
    .deliver 9]

/-- A delta is delivered between building the snapshot and queueing it. -/
def overtakenResync : List DeliveryStep :=
  [.connect 9, .attach 9 .readWrite 5 noProc, .respond 9, .deliver 9, .resync 9 noProc,
    .takeScreen (bytesOf "ls"), .parse, .returnScreen noProc, .send, .send, .deliver 9,
    .respond 9, .deliver 9]

theorem overtakingResync_runs :
    ((system 1 samplePane).exec sampleDelivery overtakingResync).isSome = true := by
  decide +kernel

theorem overtakenResync_runs :
    ((system 1 samplePane).exec sampleDelivery overtakenResync).isSome = true := by
  decide +kernel

def overtakingResyncEnd : Delivery SampleParser SampleGrid :=
  ((system 1 samplePane).exec sampleDelivery overtakingResync).get overtakingResync_runs

def overtakenResyncEnd : Delivery SampleParser SampleGrid :=
  ((system 1 samplePane).exec sampleDelivery overtakenResync).get overtakenResync_runs

/-- For a client to which everything was delivered: how many deltas the pane's
output makes, and how many its view has in its snapshot and after it. -/
def shownCounts (s : Delivery SampleParser SampleGrid) (c : Uuid) : Option (Nat × Nat) :=
  (s.clients.lookup c).bind fun link =>
    link.view.bind fun v =>
      if link.snapshot.isSome ∧ link.lost = false ∧ link.inFlight = none ∧
          deltasOf link.push = [] ∧ s.phase.pendingTo c = [] then
        some ((s.accepted.filterMap Batch.delta).length,
          ((batchesOf v.snapshot.covers).filterMap Batch.delta).length + v.deltas.length)
      else
        none

theorem ResyncExact.shownCounts {s : Delivery SampleParser SampleGrid} {c : Uuid}
    {made shown : Nat}
    (h : s.ResyncExact)
    (hcounts : s.shownCounts c = some (made, shown)) :
    made = shown := by
  simp only [Delivery.shownCounts, Option.bind_eq_some_iff, Option.ite_none_right_eq_some,
    Option.some.injEq, Prod.mk.injEq] at hcounts
  obtain ⟨link, hlink, v, hview, ⟨hsome, hlost, hflight, hpush, hpending⟩, hmade, hshown⟩ := hcounts
  obtain ⟨v', hview', _, hall⟩ := h c link hlink hsome hlost hflight
  rw [hview, Option.some.injEq] at hview'
  subst hview'
  obtain ⟨rest, hsplit, hdeltas⟩ := hall hpending hpush
  rw [hsplit, List.filterMap_append, List.length_append, ← hdeltas] at hmade
  omega

/-- **Resync is inexact** in two ways: a delta that the snapshot covers is fed
after it, and a delta that it does not cover is wiped by it. -/
theorem resync_inexact_at_both_positions :
    ((system 1 samplePane).Reachable overtakingResyncEnd ∧ ¬ overtakingResyncEnd.ResyncExact) ∧
      ((system 1 samplePane).Reachable overtakenResyncEnd ∧
        ¬ overtakenResyncEnd.ResyncExact) := by
  refine ⟨⟨System.reachable_get sampleDelivery_init overtakingResync_runs, ?_⟩,
    System.reachable_get sampleDelivery_init overtakenResync_runs, ?_⟩
  · intro h
    have hcounts : overtakingResyncEnd.shownCounts 9 = some (1, 2) := by
      decide +kernel
    exact absurd (h.shownCounts hcounts) (by decide)
  · intro h
    have hcounts : overtakenResyncEnd.shownCounts 9 = some (1, 0) := by
      decide +kernel
    exact absurd (h.shownCounts hcounts) (by decide)

end Runs

end Delivery

end Server
end Rttx
