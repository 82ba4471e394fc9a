import Mathlib.Data.List.Dedup
import Rttx.Server.SampleTerminal
import Rttx.Server.ServerState

/-!
# Dropped pushes and overflow notices

A push that finds a client's channel full is dropped.  The output task collects
the clients this happened to and has a notice for its workspace sent to them.
A broadcast has no workspace at hand and names the first unlocked one it finds
the client attached to.  The exit path of a pane ignores the drop.  When no
notice can be sent the client's push sender is removed, which does not end its
connection.

**Results.**
* `overflow_announced`: in runs in which every drop can be announced, each
  client that lost a push of a workspace is sent a notice naming it, or an
  output task is about to, or its connection has ended.
* `overflow_silent`: a run for each way in which the notice is missed.
-/

namespace Rttx
namespace Server

open Kernel

universe u v

namespace ServerState

section Notices

variable {P : Type u} {G : Type v}

/-- Whether an overflow notice would reach the client's response channel. -/
def canNotify (s : ServerState P G) (clientId : Uuid) : Bool :=
  s.supportsResync clientId && (s.channels.lookup clientId).any (fun ch => ch.resp.accepts)

def connectionEnded (s : ServerState P G) (clientId : Uuid) : Bool :=
  (s.channels.lookup clientId).any ClientChannel.hasEnded

/-- Whether a push to the client would be dropped. -/
def pushOverflows (s : ServerState P G) (clientId : Uuid) : Bool :=
  (s.channels.lookup clientId).any (fun ch => ch.push.overflows)

/-- Every client that is owed a notice has lost its connection or is excused. -/
def Owes (s : ServerState P G) (excused : Uuid → Uuid → Prop) : Prop :=
  ∀ c ch, s.channels.lookup c = some ch →
    ∀ id ∈ ch.owed, ch.hasEnded = true ∨ excused c id

theorem Owes.mono {s : ServerState P G} {excused excused' : Uuid → Uuid → Prop}
    (h : s.Owes excused)
    (hmore : ∀ c id, excused c id → excused' c id) :
    s.Owes excused' := by
  intro c ch hch id hid
  rcases h c ch hch id hid with hended | hexcused
  · exact Or.inl hended
  · exact Or.inr (hmore c id hexcused)

/-- Owing depends on the channels only. -/
theorem Owes.of_channels {s s' : ServerState P G} {excused : Uuid → Uuid → Prop}
    (h : s.Owes excused)
    (hchannels : s'.channels = s.channels) :
    s'.Owes excused := by
  intro c ch hch
  rw [hchannels] at hch
  exact h c ch hch

/-- A dropped push is owed a notice. -/
theorem Owes.sendPush {s : ServerState P G} {excused : Uuid → Uuid → Prop}
    (h : s.Owes excused)
    (c : Uuid)
    (msg : ServerPayload) :
    (s.sendPush c msg).2.Owes (fun k id =>
      excused k id ∨ (k = c ∧ s.pushOverflows c = true ∧ msg.runtimeId? = some id)) := by
  intro k ch' hch' id hid
  rw [lookup_sendPush] at hch'
  by_cases hk : k = c
  · subst hk
    rw [if_pos rfl] at hch'
    obtain ⟨ch, hch, rfl⟩ := Option.map_eq_some_iff.mp hch'
    rcases ch.trySendPush_cases msg with ⟨_, _, _, hended, howed⟩ | ⟨hfull, hres⟩
    · rw [howed] at hid
      rw [hended]
      rcases h k ch hch id hid with hend | hexcused
      · exact Or.inl hend
      · exact Or.inr (Or.inl hexcused)
    · rw [hres] at hid ⊢
      rw [ClientChannel.owed_append, ClientChannel.owedStep, List.mem_append] at hid
      rcases hid with hold | hnew
      · rcases h k ch hch id hold with hend | hexcused
        · exact Or.inl (by simpa [ClientChannel.hasEnded] using hend)
        · exact Or.inr (Or.inl hexcused)
      · refine Or.inr (Or.inr ⟨rfl, ?_, by simpa using hnew⟩)
        simp [pushOverflows, hch, hfull]
  · rw [if_neg hk] at hch'
    rcases h k ch' hch' id hid with hend | hexcused
    · exact Or.inl hend
    · exact Or.inr (Or.inl hexcused)

theorem connectionEnded_sendPush (s : ServerState P G) (c : Uuid) (msg : ServerPayload)
    (k : Uuid) :
    (s.sendPush c msg).2.connectionEnded k = s.connectionEnded k := by
  simp only [connectionEnded, lookup_sendPush]
  by_cases hk : k = c
  · subst hk
    rw [if_pos rfl]
    cases s.channels.lookup k with
    | none => rfl
    | some ch =>
        simp only [Option.map_some, Option.any_some]
        rcases ch.trySendPush_cases msg with ⟨_, _, _, hended, _⟩ | ⟨_, hres⟩
        · exact hended
        · rw [hres]
          simp [ClientChannel.hasEnded]
  · rw [if_neg hk]

theorem canNotify_sendPush (s : ServerState P G) (c : Uuid) (msg : ServerPayload) (k : Uuid) :
    (s.sendPush c msg).2.canNotify k = s.canNotify k := by
  simp only [canNotify, (sendPush_frame s c msg).supportsResync, lookup_sendPush]
  by_cases hk : k = c
  · subst hk
    rw [if_pos rfl]
    cases s.channels.lookup k with
    | none => rfl
    | some ch =>
        simp only [Option.map_some, Option.any_some]
        rcases ch.trySendPush_cases msg with ⟨_, _, hresp, _, _⟩ | ⟨_, hres⟩
        · rw [hresp]
        · rw [hres]
  · rw [if_neg hk]

/-- A notice that is not sent: the sender is removed, the channels are the same. -/
theorem notice_of_cannot {s : ServerState P G} {c : Uuid}
    (h : s.canNotify c = false)
    (id k : Uuid) :
    (s.handleSinglePushOverflowForWorkspace c id).channels.lookup k = s.channels.lookup k := by
  unfold handleSinglePushOverflowForWorkspace
  by_cases hsupports : s.supportsResync c = true
  · rw [if_pos hsupports]
    have hlook := lookup_sendResp s c (.push (.streamOverflow id none 1)) k
    have hsame : (s.sendResp c (.push (.streamOverflow id none 1))).2.channels.lookup k =
        s.channels.lookup k := by
      rw [hlook]
      by_cases hk : k = c
      · subst hk
        rw [if_pos rfl]
        cases hch : s.channels.lookup k with
        | none => rfl
        | some ch =>
            have hfull : ch.resp.accepts = false := by
              simpa [canNotify, hsupports, hch] using h
            rcases ch.trySendResp_cases (.push (.streamOverflow id none 1)) with
              ⟨haccepts, _⟩ | ⟨_, _, hkeep⟩
            · rw [hfull] at haccepts
              cases haccepts
            · rw [Option.map_some, hkeep]
      · rw [if_neg hk]
    split
    · rename_i hres
      rw [hres] at hsame
      exact hsame
    · rename_i hres
      rw [hres] at hsame
      exact hsame
  · rw [if_neg hsupports]
    rfl

/-- A notice that is sent goes to the end of the client's log. -/
theorem notice_of_can {s : ServerState P G} {c : Uuid}
    (h : s.canNotify c = true)
    (id k : Uuid) :
    (s.handleSinglePushOverflowForWorkspace c id).channels.lookup k =
      if k = c then
        (s.channels.lookup c).map
          (fun ch => (ch.trySendResp (.push (.streamOverflow id none 1))).2)
      else s.channels.lookup k := by
  simp only [canNotify, Bool.and_eq_true] at h
  obtain ⟨hsupports, hroom⟩ := h
  have hlook := lookup_sendResp s c (.push (.streamOverflow id none 1)) k
  have hsent : (s.sendResp c (.push (.streamOverflow id none 1))).1 = .sent := by
    unfold sendResp
    cases hch : s.channels.lookup c with
    | none => simp [hch] at hroom
    | some ch =>
        rcases ch.trySendResp_cases (.push (.streamOverflow id none 1)) with
          ⟨_, hsent, _⟩ | ⟨hfull, _⟩
        · exact hsent
        · simp [hch, hfull] at hroom
  unfold handleSinglePushOverflowForWorkspace
  rw [if_pos hsupports]
  split
  · rename_i hres
    rw [hres] at hlook
    exact hlook
  · rename_i hne hres
    rw [hres] at hsent
    exact absurd hsent (by simpa using hne)

theorem hasEnded_trySendResp (ch : ClientChannel) (env : ServerEnvelope) :
    (ch.trySendResp env).2.hasEnded = ch.hasEnded := by
  rcases ch.trySendResp_cases env with ⟨_, _, _, hlog⟩ | ⟨_, _, hkeep⟩
  · simp [ClientChannel.hasEnded, hlog]
  · rw [hkeep]

theorem connectionEnded_notice (s : ServerState P G) (c id k : Uuid) :
    (s.handleSinglePushOverflowForWorkspace c id).connectionEnded k = s.connectionEnded k := by
  cases hcan : s.canNotify c with
  | false => simp only [connectionEnded, notice_of_cannot hcan]
  | true =>
      simp only [connectionEnded, notice_of_can hcan]
      by_cases hk : k = c
      · subst hk
        rw [if_pos rfl]
        cases s.channels.lookup k with
        | none => rfl
        | some ch => exact hasEnded_trySendResp ch _
      · rw [if_neg hk]

theorem canNotify_notice (s : ServerState P G) {c k : Uuid}
    (hk : k ≠ c)
    (id : Uuid) :
    (s.handleSinglePushOverflowForWorkspace c id).canNotify k = s.canNotify k := by
  simp only [canNotify, (handleSinglePushOverflowForWorkspace_frame s c id).supportsResync]
  cases hcan : s.canNotify c with
  | false => rw [notice_of_cannot hcan]
  | true => rw [notice_of_can hcan, if_neg hk]

/-- A notice settles what its client is owed for the workspace it names. -/
theorem Owes.notice {s : ServerState P G} {excused : Uuid → Uuid → Prop} {c : Uuid}
    (h : s.Owes excused)
    (hready : s.connectionEnded c = true ∨ s.canNotify c = true)
    (id : Uuid) :
    (s.handleSinglePushOverflowForWorkspace c id).Owes
      (fun k other => excused k other ∧ ¬(k = c ∧ other = id)) := by
  intro k ch' hch' other hother
  have hended' : s.connectionEnded k = true → ch'.hasEnded = true := by
    intro hend
    rw [← connectionEnded_notice s c id k] at hend
    simpa [connectionEnded, hch'] using hend
  by_cases hk : k = c
  · subst hk
    rcases hready with hend | hcan
    · exact Or.inl (hended' hend)
    · rw [notice_of_can hcan, if_pos rfl] at hch'
      obtain ⟨ch, hch, rfl⟩ := Option.map_eq_some_iff.mp hch'
      have hroom : ch.resp.accepts = true := by
        simp only [canNotify, hch, Option.any_some, Bool.and_eq_true] at hcan
        exact hcan.2
      rcases ch.trySendResp_cases (.push (.streamOverflow id none 1)) with
        ⟨_, _, _, hlog⟩ | ⟨hfull, _⟩
      · have howed : (ch.trySendResp (.push (.streamOverflow id none 1))).2.owed =
            ch.owed.filter (fun other => other ≠ id) := by
          simp only [ClientChannel.owed, hlog, List.foldl_append, List.foldl_cons,
            List.foldl_nil]
          rfl
        rw [howed, List.mem_filter] at hother
        rcases h k ch hch other hother.1 with hend | hexcused
        · exact Or.inl (by rw [hasEnded_trySendResp]; exact hend)
        · exact Or.inr ⟨hexcused, fun hsame => by simp [hsame.2] at hother⟩
      · rw [hroom] at hfull
        cases hfull
  · have hlook : s.channels.lookup k = some ch' := by
      cases hcan : s.canNotify c with
      | false => rw [← notice_of_cannot hcan id k, hch']
      | true => rw [← hch', notice_of_can hcan, if_neg hk]
    rcases h k ch' hlook other hother with hend | hexcused
    · exact Or.inl hend
    · exact Or.inr ⟨hexcused, fun hsame => hk hsame.1⟩

/-- Handling a list of overflows settles what is owed to its clients, when each
client is ready and stays so while the others are handled. -/
theorem owes_foldl {handle : ServerState P G → Uuid → ServerState P G}
    {id : Uuid} {excused : Uuid → Uuid → Prop}
    (ready : ServerState P G → Uuid → Prop)
    (hsettle : ∀ s c excused, ready s c → s.Owes excused →
      (handle s c).Owes (fun k other => excused k other ∧ ¬(k = c ∧ other = id)))
    (hframe : ∀ s c k, k ≠ c → ready s k → ready (handle s c) k)
    {overflowed : List Uuid}
    (hnodup : overflowed.Nodup)
    {s : ServerState P G}
    (hready : ∀ c ∈ overflowed, ready s c)
    (h : s.Owes (fun k other => excused k other ∨ (k ∈ overflowed ∧ other = id))) :
    (overflowed.foldl handle s).Owes excused := by
  induction overflowed generalizing s with
  | nil => exact h.mono (by simp)
  | cons c rest ih =>
      obtain ⟨hfresh, hrest⟩ := List.nodup_cons.mp hnodup
      refine ih hrest ?_ ?_
      · intro k hk
        have hne : k ≠ c := fun heq => hfresh (heq ▸ hk)
        exact hframe s c k hne (hready k (List.mem_cons_of_mem _ hk))
      · refine (hsettle s c _ (hready c List.mem_cons_self) h).mono ?_
        rintro k other ⟨hexcused | ⟨hmem, hother⟩, hnot⟩
        · exact Or.inl hexcused
        · rcases List.mem_cons.mp hmem with hkc | hin
          · exact absurd ⟨hkc, hother⟩ hnot
          · exact Or.inr ⟨hin, hother⟩

end Notices

section Broadcasts

variable {P : Type u} {G : Type v}

/-- Whether a drop of `msg` in a broadcast is announced to the client. -/
def announces (s : ServerState P G) (order : List Uuid) (msg : ServerPayload)
    (clientId : Uuid) : Bool :=
  s.connectionEnded clientId ||
    (s.canNotify clientId && s.attachedWorkspace order clientId = msg.runtimeId?)

theorem announces_sendPush (s : ServerState P G) (order : List Uuid) (msg : ServerPayload)
    (c : Uuid) (sent : ServerPayload) (k : Uuid) :
    (s.sendPush c sent).2.announces order msg k = s.announces order msg k := by
  simp only [announces, connectionEnded_sendPush, canNotify_sendPush,
    (sendPush_frame s c sent).attachedWorkspace]

theorem announces_notice {s : ServerState P G} {order : List Uuid} {msg : ServerPayload}
    {c k : Uuid}
    (hk : k ≠ c)
    (id : Uuid) :
    (s.handleSinglePushOverflowForWorkspace c id).announces order msg k =
      s.announces order msg k := by
  simp only [announces, connectionEnded_notice, canNotify_notice s hk,
    (handleSinglePushOverflowForWorkspace_frame s c id).attachedWorkspace]

theorem owes_forceDisconnect {s : ServerState P G} {excused : Uuid → Uuid → Prop}
    (h : s.Owes excused)
    (c : Uuid) :
    (s.forceDisconnectClient c).Owes excused :=
  h.of_channels rfl

/-- A client whose connection has ended is owed nothing. -/
theorem Owes.except_ended {s : ServerState P G} {excused : Uuid → Uuid → Prop} {c : Uuid}
    (h : s.Owes excused)
    (hend : s.connectionEnded c = true)
    (id : Uuid) :
    s.Owes (fun k other => excused k other ∧ ¬(k = c ∧ other = id)) := by
  intro k ch hch other hother
  by_cases hk : k = c
  · subst hk
    exact Or.inl (by simpa [connectionEnded, hch] using hend)
  · rcases h k ch hch other hother with hend' | hexcused
    · exact Or.inl hend'
    · exact Or.inr ⟨hexcused, fun hboth => hk hboth.1⟩

/-- What the overflow handler of a broadcast settles. -/
theorem Owes.handleSinglePushOverflow {s : ServerState P G}
    {excused : Uuid → Uuid → Prop} {order : List Uuid} {msg : ServerPayload} {id c : Uuid}
    (h : s.Owes excused)
    (hid : msg.runtimeId? = some id)
    (hready : s.announces order msg c = true) :
    (handleSinglePushOverflow order s c).Owes
      (fun k other => excused k other ∧ ¬(k = c ∧ other = id)) := by
  simp only [announces, Bool.or_eq_true, Bool.and_eq_true, decide_eq_true_eq] at hready
  unfold ServerState.handleSinglePushOverflow
  rcases hready with hend | ⟨hcan, hfound⟩
  · cases s.attachedWorkspace order c with
    | none => exact (owes_forceDisconnect h c).except_ended hend id
    | some found =>
        have hnotice : (s.handleSinglePushOverflowForWorkspace c found).Owes excused :=
          (h.notice (Or.inl hend) found).mono (fun _ _ hboth => hboth.1)
        exact hnotice.except_ended ((connectionEnded_notice s c found c).trans hend) id
  · rw [hfound, hid]
    exact h.notice (Or.inr hcan) id

theorem sendPush_full (s : ServerState P G) (c : Uuid) (msg : ServerPayload) :
    (s.sendPush c msg).1 = .full ↔ s.pushOverflows c = true := by
  unfold sendPush pushOverflows
  cases s.channels.lookup c with
  | none => simp
  | some ch =>
      rcases ch.trySendPush_cases msg with ⟨hroom, hne, _⟩ | ⟨hfull, hres⟩
      · simp [hroom, hne]
      · simp [hfull, hres]

theorem pushOverflows_sendPush (s : ServerState P G) {c k : Uuid}
    (hk : k ≠ c)
    (msg : ServerPayload) :
    (s.sendPush c msg).2.pushOverflows k = s.pushOverflows k := by
  simp only [pushOverflows, lookup_sendPush, if_neg hk]

theorem clientSenders_sendPush (s : ServerState P G) (c : Uuid) (msg : ServerPayload) :
    (s.sendPush c msg).2.clientSenders = s.clientSenders := by
  unfold sendPush
  split <;> rfl

/-- The clients that overflowed: sent to, with a push sender and a full channel,
each once. -/
theorem sendToClients_overflowed (msg : ServerPayload) (exclude : Option Uuid)
    {ids : List Uuid}
    (hnodup : ids.Nodup)
    (s : ServerState P G) :
    (sendToClients msg exclude ids s).1.Sublist ids ∧
      ∀ c ∈ (sendToClients msg exclude ids s).1,
        some c ≠ exclude ∧ c ∈ s.clientSenders ∧ s.pushOverflows c = true := by
  induction ids generalizing s with
  | nil => exact ⟨List.Sublist.refl _, by simp [sendToClients]⟩
  | cons c rest ih =>
      obtain ⟨hfresh, hrest⟩ := List.nodup_cons.mp hnodup
      simp only [sendToClients]
      split
      · obtain ⟨hsub, hall⟩ := ih hrest s
        exact ⟨hsub.cons c, hall⟩
      · rename_i htarget
        simp only [Bool.or_eq_true, decide_eq_true_eq, not_or, not_not] at htarget
        obtain ⟨hsub, hall⟩ := ih hrest (s.sendPush c msg).2
        have hothers : ∀ k ∈ (sendToClients msg exclude rest (s.sendPush c msg).2).1,
            some k ≠ exclude ∧ k ∈ s.clientSenders ∧ s.pushOverflows k = true := by
          intro k hk
          obtain ⟨hex, hsender, hfull⟩ := hall k hk
          have hne : k ≠ c := fun heq => hfresh (heq ▸ hsub.subset hk)
          rw [clientSenders_sendPush] at hsender
          rw [pushOverflows_sendPush s hne] at hfull
          exact ⟨hex, hsender, hfull⟩
        split
        · rename_i s' hres
          rw [hres] at hsub hothers
          refine ⟨hsub.cons_cons c, ?_⟩
          intro k hk
          rcases List.mem_cons.mp hk with rfl | hin
          · exact ⟨htarget.1, htarget.2, (sendPush_full s k msg).mp (by rw [hres])⟩
          · exact hothers k hin
        · rename_i result s' _ hres
          rw [hres] at hsub hothers
          exact ⟨hsub.cons c, hothers⟩

/-- What is owed after the sends of a broadcast. -/
theorem Owes.sendToClients {msg : ServerPayload} {id : Uuid}
    (hid : msg.runtimeId? = some id)
    (exclude : Option Uuid)
    (ids : List Uuid)
    {s : ServerState P G}
    {excused : Uuid → Uuid → Prop}
    (h : s.Owes excused) :
    (sendToClients msg exclude ids s).2.Owes (fun k other =>
      excused k other ∨ (k ∈ (sendToClients msg exclude ids s).1 ∧ other = id)) := by
  induction ids generalizing s excused with
  | nil => exact h.mono (fun _ _ => Or.inl)
  | cons c rest ih =>
      simp only [ServerState.sendToClients]
      split
      · exact ih h
      · have hsent := ih (h.sendPush c msg)
        have hfull := sendPush_full s c msg
        split
        · rename_i s' hres
          rw [hres] at hsent
          refine hsent.mono ?_
          rintro k other ((hexcused | ⟨hk, _, hother⟩) | ⟨hin, hother⟩)
          · exact Or.inl hexcused
          · rw [hid, Option.some.injEq] at hother
            exact Or.inr ⟨List.mem_cons.mpr (Or.inl hk), hother.symm⟩
          · exact Or.inr ⟨List.mem_cons_of_mem _ hin, hother⟩
        · rename_i result s' hne hres
          rw [hres] at hsent hfull
          refine hsent.mono ?_
          rintro k other ((hexcused | ⟨_, hover, _⟩) | hin)
          · exact Or.inl hexcused
          · exact absurd (hfull.mpr hover) (by simpa using hne)
          · exact Or.inr hin

theorem announces_sendToClients (order : List Uuid) (msg sent : ServerPayload)
    (exclude : Option Uuid) (ids : List Uuid) (s : ServerState P G) (k : Uuid) :
    (sendToClients sent exclude ids s).2.announces order msg k = s.announces order msg k := by
  induction ids generalizing s with
  | nil => rfl
  | cons c rest ih =>
      have hsend := announces_sendPush s order msg c sent k
      simp only [sendToClients]
      split
      · exact ih s
      · split
        · rename_i s' hres
          rw [hres] at hsend
          exact (ih s').trans hsend
        · rename_i result s' _ hres
          rw [hres] at hsend
          exact (ih s').trans hsend

/-- A broadcast whose drops can be announced leaves nothing more owed. -/
theorem Owes.broadcastToClients {s : ServerState P G} {excused : Uuid → Uuid → Prop}
    {order ids : List Uuid} {exclude : Option Uuid} {msg : ServerPayload} {id : Uuid}
    (h : s.Owes excused)
    (hid : msg.runtimeId? = some id)
    (hnodup : ids.Nodup)
    (hready : ∀ c ∈ ids, some c ≠ exclude → c ∈ s.clientSenders →
      s.pushOverflows c = true → s.announces order msg c = true) :
    (s.broadcastToClients order ids exclude msg).Owes excused := by
  obtain ⟨hsub, hall⟩ := sendToClients_overflowed msg exclude hnodup s
  refine owes_foldl (fun s c => s.announces order msg c = true)
    (fun s c excused hann howes => howes.handleSinglePushOverflow hid hann) ?_
    (hsub.nodup hnodup) ?_ (h.sendToClients hid exclude ids)
  · intro s c k hk hann
    simp only [ServerState.handleSinglePushOverflow]
    split
    · rw [announces_notice hk]
      exact hann
    · exact hann
  · intro c hc
    obtain ⟨hex, hsender, hfull⟩ := hall c hc
    rw [announces_sendToClients]
    exact hready c (hsub.subset hc) hex hsender hfull

end Broadcasts

end ServerState

/-- An output task that sends a batch: the clients it collected, and those whose
channel was full. -/
structure OutputSend where
  runtimeId : Uuid
  senders : List Uuid
  overflowed : List Uuid
deriving DecidableEq

/-- The daemon and the output tasks that are sending. -/
structure OverflowState (P : Type u) (G : Type v) where
  server : ServerState P G
  tasks : HashMap Nat OutputSend

inductive OverflowStep (P : Type u) (G : Type v)
  | connect (clientId : Uuid) (caps : List Capability)
  | readerReturns (clientId : Uuid)
  | writerExits (clientId : Uuid)
  | cleanup (clientId : Uuid)
  | deliver (clientId : Uuid)
  | respond (clientId : Uuid) (env : ServerEnvelope)
  | create (runtimeId : Uuid) (w : Workspace P G)
  | change (runtimeId : Uuid) (op : WorkspaceOp P G)
  | lock (runtimeId : Uuid)
  | unlock (runtimeId : Uuid)
  | collect (task : Nat) (runtimeId : Uuid)
  | send (task : Nat) (clientId : Uuid) (msg : ServerPayload)
  | handleOverflows (task : Nat)
  | broadcast (order clientIds : List Uuid) (exclude : Option Uuid) (msg : ServerPayload)
  | terminate (order : List Uuid) (runtimeId : Uuid) (finalRevision : Nat)
      (reason : TerminationReason) (exclude : Option Uuid)
  | exitPush (clientId : Uuid) (msg : ServerPayload)

/-- An overflow notice; no request is answered with one. -/
def ServerPayload.isOverflow : ServerPayload → Bool
  | streamOverflow _ _ _ => true
  | _ => false

namespace OverflowState

section Steps

variable {P : Type u} {G : Type v}

def withChannel (s : OverflowState P G) (clientId : Uuid)
    (f : ClientChannel → Option ClientChannel) : Option (OverflowState P G) :=
  match (s.server.channels.lookup clientId).bind f with
  | none => none
  | some ch =>
      some { s with server :=
        { s.server with channels := s.server.channels.insert clientId ch } }

variable [VteParser P] [Vt100Parser G]

/-- One step.  Client ids and workspace ids are minted; the clients of a
broadcast come from a map, and every registered workspace is searched. -/
def next (s : OverflowState P G) : OverflowStep P G → Option (OverflowState P G)
  | .connect clientId caps =>
      if (s.server.channels.lookup clientId).isSome then
        none
      else
        some { s with server :=
          { s.server with
            channels := s.server.channels.insert clientId .new
            clientSenders := clientId :: s.server.clientSenders
            clientRespSenders := clientId :: s.server.clientRespSenders
            clientProtocols := s.server.clientProtocols.insert clientId caps } }
  | .readerReturns clientId => s.withChannel clientId (fun ch => some ch.readerReturns)
  | .writerExits clientId => s.withChannel clientId (fun ch => some ch.writerExits)
  | .cleanup clientId =>
      if s.server.connectionEnded clientId then
        some { s with server :=
          { s.server with
            clientSenders := s.server.clientSenders.filter (fun c => c ≠ clientId)
            clientRespSenders := s.server.clientRespSenders.filter (fun c => c ≠ clientId)
            clientProtocols := s.server.clientProtocols.erase clientId } }
      else
        none
  | .deliver clientId => s.withChannel clientId (fun ch => ch.deliver.map Prod.snd)
  | .respond clientId env =>
      if env.payload.isOverflow then
        none
      else
        s.withChannel clientId (fun ch =>
          match ch.trySendResp env with
          | (.sent, ch) => some ch
          | _ => none)
  | .create runtimeId w =>
      if (s.server.objects.lookup runtimeId).isSome then
        none
      else
        some { s with server :=
          { s.server with
            objects := s.server.objects.insert runtimeId w
            workspaces := runtimeId :: s.server.workspaces } }
  | .change runtimeId op =>
      if runtimeId ∈ s.server.locked then
        none
      else
        some { s with server :=
          { s.server with objects := s.server.objects.modify runtimeId (fun w => w.apply op) } }
  | .lock runtimeId =>
      if runtimeId ∈ s.server.locked then
        none
      else
        some { s with server := { s.server with locked := runtimeId :: s.server.locked } }
  | .unlock runtimeId =>
      some { s with server :=
        { s.server with locked := s.server.locked.filter (fun id => id ≠ runtimeId) } }
  | .collect task runtimeId =>
      if runtimeId ∈ s.server.locked ∨ (s.tasks.lookup task).isSome then
        none
      else
        match s.server.objects.lookup runtimeId with
        | none => none
        | some w =>
            let senders := s.server.collectSendersForClients w.attachedClients.keys
            some { s with tasks := s.tasks.insert task ⟨runtimeId, senders, []⟩ }
  | .send task clientId msg =>
      match s.tasks.lookup task with
      | none => none
      | some t =>
          if clientId ∈ t.senders ∧ msg.runtimeId? = some t.runtimeId then
            match s.server.sendPush clientId msg with
            | (.full, server) =>
                some ⟨server,
                  s.tasks.insert task { t with overflowed := clientId :: t.overflowed }⟩
            | (_, server) => some { s with server := server }
          else
            none
  | .handleOverflows task =>
      match s.tasks.lookup task with
      | none => none
      | some t =>
          some ⟨s.server.handlePushOverflows t.overflowed.dedup t.runtimeId, s.tasks.erase task⟩
  | .broadcast order clientIds exclude msg =>
      if clientIds.Nodup ∧ msg.runtimeId?.isSome ∧ s.server.workspaces.all (· ∈ order) then
        some { s with server := s.server.broadcastToClients order clientIds exclude msg }
      else
        none
  | .terminate order runtimeId finalRevision reason exclude =>
      if s.server.workspaces.all (· ∈ order) then
        some { s with server :=
          (s.server.terminateWorkspace order runtimeId finalRevision reason exclude).2 }
      else
        none
  | .exitPush clientId msg => some { s with server := (s.server.sendPush clientId msg).2 }

variable (P G) in
/-- The daemon before anything is connected or created. -/
def start : OverflowState P G :=
  ⟨⟨∅, [], [], ∅, [], [], ∅, ∅, [], ∅, []⟩, ∅⟩

variable (P G) in
def system : System (OverflowState P G) (OverflowStep P G) where
  init := fun s => s = start P G
  next := next

end Steps

section Announcing

variable {P : Type u} {G : Type v}

/-- An output task still has to handle the client's overflow. -/
def Pending (s : OverflowState P G) (clientId runtimeId : Uuid) : Prop :=
  ∃ task t, s.tasks.lookup task = some t ∧ t.runtimeId = runtimeId ∧ clientId ∈ t.overflowed

/-- Every client that lost a push of a workspace has been sent a notice naming
it since, or an output task still has to send one, or its connection has ended. -/
def OverflowAnnounced (s : OverflowState P G) : Prop :=
  s.server.Owes s.Pending

/-- Whether the drops of a step can be announced: the output task and a
broadcast can notify the clients whose channel is full, a broadcast finds the
workspace it is about, and neither a terminated workspace nor an exiting pane
meets a full channel. -/
def announceable (s : OverflowState P G) : OverflowStep P G → Bool
  | .handleOverflows task =>
      (s.tasks.lookup task).all fun t =>
        t.overflowed.all (fun c => s.server.connectionEnded c || s.server.canNotify c)
  | .broadcast order clientIds exclude msg =>
      clientIds.all fun c =>
        some c = exclude || c ∉ s.server.clientSenders || !s.server.pushOverflows c ||
          s.server.announces order msg c
  | .terminate _ runtimeId _ _ exclude =>
      (s.server.objects.lookup runtimeId).all fun w =>
        w.attachedClients.keys.all fun c =>
          some c = exclude || c ∉ s.server.clientSenders || !s.server.pushOverflows c ||
            s.server.connectionEnded c
  | .exitPush clientId _ =>
      !s.server.pushOverflows clientId || s.server.connectionEnded clientId
  | _ => true

end Announcing

section Invariant

variable {P : Type u} {G : Type v}

/-- A change of one client's channels that adds no debt. -/
theorem owes_insertChannel {s s' : ServerState P G} {excused : Uuid → Uuid → Prop} {c : Uuid}
    {ch ch' : ClientChannel}
    (h : s.Owes excused)
    (hch : s.channels.lookup c = some ch)
    (hchannels : s'.channels = s.channels.insert c ch')
    (howed : ch'.owed = ch.owed)
    (hended : ch.hasEnded = true → ch'.hasEnded = true) :
    s'.Owes excused := by
  intro k new hk id hid
  rw [hchannels] at hk
  rcases HashMap.lookup_insert_cases hk with ⟨rfl, rfl⟩ | ⟨_, hold⟩
  · rw [howed] at hid
    rcases h k ch hch id hid with hend | hexcused
    · exact Or.inl (hended hend)
    · exact Or.inr hexcused
  · exact h k new hold id hid

/-- A step of one client's channels that adds no debt. -/
theorem OverflowAnnounced.withChannel {s s' : OverflowState P G} {c : Uuid}
    {f : ClientChannel → Option ClientChannel}
    (h : s.OverflowAnnounced)
    (hstep : s.withChannel c f = some s')
    (hkeeps : ∀ ch ch', f ch = some ch' →
      ch'.owed = ch.owed ∧ (ch.hasEnded = true → ch'.hasEnded = true)) :
    s'.OverflowAnnounced := by
  unfold OverflowState.withChannel at hstep
  cases hch : s.server.channels.lookup c with
  | none => simp [hch] at hstep
  | some ch =>
      rw [hch, Option.bind_some] at hstep
      cases hf : f ch with
      | none => simp [hf] at hstep
      | some ch' =>
          rw [hf, Option.some.injEq] at hstep
          subst hstep
          obtain ⟨howed, hended⟩ := hkeeps ch ch' hf
          exact owes_insertChannel h hch rfl howed hended

theorem OverflowAnnounced.send [VteParser P] [Vt100Parser G] {s s' : OverflowState P G}
    {task : Nat} {c : Uuid}
    {msg : ServerPayload}
    (h : s.OverflowAnnounced)
    (hstep : s.next (.send task c msg) = some s') :
    s'.OverflowAnnounced := by
  simp only [OverflowState.next] at hstep
  cases ht : s.tasks.lookup task with
  | none => simp [ht] at hstep
  | some t =>
      simp only [ht, Option.ite_none_right_eq_some] at hstep
      obtain ⟨⟨_, hid⟩, hstep⟩ := hstep
      have howes := h.sendPush c msg
      have hfull := s.server.sendPush_full c msg
      split at hstep
      · rename_i server hres
        rw [hres] at howes
        rw [← Option.some.inj hstep]
        refine howes.mono ?_
        rintro k id (⟨task', t', ht', hrun, hmem⟩ | ⟨rfl, _, hmsg⟩)
        · by_cases hsame : task' = task
          · subst hsame
            rw [ht, Option.some.injEq] at ht'
            subst ht'
            exact ⟨task', _, AList.lookup_insert _, hrun, List.mem_cons_of_mem _ hmem⟩
          · exact ⟨task', t', by rw [← ht']; exact AList.lookup_insert_ne hsame, hrun, hmem⟩
        · rw [hid, Option.some.injEq] at hmsg
          exact ⟨task, _, AList.lookup_insert _, hmsg, List.mem_cons_self⟩
      · rename_i result server hne hres
        rw [hres] at howes hfull
        rw [← Option.some.inj hstep]
        refine howes.mono ?_
        rintro k id (hpending | ⟨_, hover, _⟩)
        · exact hpending
        · exact absurd (hfull.mpr hover) (by simpa using hne)

theorem OverflowAnnounced.handleOverflows {s : OverflowState P G} {task : Nat} {t : OutputSend}
    (h : s.OverflowAnnounced)
    (ht : s.tasks.lookup task = some t)
    (hok : ∀ c ∈ t.overflowed,
      s.server.connectionEnded c = true ∨ s.server.canNotify c = true) :
    (⟨s.server.handlePushOverflows t.overflowed.dedup t.runtimeId, s.tasks.erase task⟩ :
      OverflowState P G).OverflowAnnounced := by
  refine ServerState.owes_foldl
    (fun s c => s.connectionEnded c = true ∨ s.canNotify c = true)
    (fun s c excused hready howes => howes.notice hready t.runtimeId) ?_
    (List.nodup_dedup _) ?_ (h.mono ?_)
  · intro s c k hk hready
    rw [ServerState.connectionEnded_notice, ServerState.canNotify_notice s hk]
    exact hready
  · intro c hc
    exact hok c (List.mem_dedup.mp hc)
  · rintro k id ⟨task', t', ht', hrun, hmem⟩
    by_cases hsame : task' = task
    · subst hsame
      rw [ht, Option.some.injEq] at ht'
      subst ht'
      exact Or.inr ⟨List.mem_dedup.mpr hmem, hrun.symm⟩
    · exact Or.inl ⟨task', t', by rw [← ht']; exact AList.lookup_erase_ne hsame, hrun, hmem⟩

/-- A termination that meets no full channel leaves nothing more owed. -/
theorem owes_terminateWorkspace {s : ServerState P G} {excused : Uuid → Uuid → Prop}
    {runtimeId : Uuid} {exclude : Option Uuid}
    (h : s.Owes excused)
    (order : List Uuid)
    (finalRevision : Nat)
    (reason : TerminationReason)
    (hok : ∀ w, s.objects.lookup runtimeId = some w → ∀ c ∈ w.attachedClients.keys,
      some c ≠ exclude → c ∈ s.clientSenders → s.pushOverflows c = true →
        s.connectionEnded c = true) :
    (s.terminateWorkspace order runtimeId finalRevision reason exclude).2.Owes excused := by
  unfold ServerState.terminateWorkspace
  split
  · exact h
  · cases hw : s.objects.lookup runtimeId with
    | none => exact h
    | some w =>
        obtain ⟨_, _, hchannels, hsenders, _⟩ := ServerState.killPanes_frame w.panes.keys
          { s with workspaces := s.workspaces.filter (fun id => id ≠ runtimeId) }
        refine ServerState.Owes.broadcastToClients (h.of_channels hchannels) rfl
          w.attachedClients.keys_nodup ?_
        intro c hc hex hsender hover
        rw [hsenders] at hsender
        have hover' : s.pushOverflows c = true := by
          rw [← hover]
          simp only [ServerState.pushOverflows, hchannels]
        have hend := hok w hw c hc hex hsender hover'
        have hend' : (w.panes.keys.foldl ServerState.killPane
            { s with
              workspaces := s.workspaces.filter (fun id => id ≠ runtimeId) }).connectionEnded c =
            true := by
          rw [← hend]
          simp only [ServerState.connectionEnded, hchannels]
        simp only [ServerState.announces, hend', Bool.true_or]

variable [VteParser P] [Vt100Parser G]

/-- **Step lemma.** -/
theorem OverflowAnnounced.next {s s' : OverflowState P G} {a : OverflowStep P G}
    (h : s.OverflowAnnounced)
    (hok : s.announceable a = true)
    (hnext : s.next a = some s') :
    s'.OverflowAnnounced := by
  cases a with
  | connect clientId caps =>
      simp only [OverflowState.next, Option.ite_none_left_eq_some, Option.some.injEq] at hnext
      obtain ⟨_, rfl⟩ := hnext
      intro k ch hk id hid
      rcases HashMap.lookup_insert_cases hk with ⟨_, rfl⟩ | ⟨_, hold⟩
      · simp [ClientChannel.owed, ClientChannel.new] at hid
      · exact h k ch hold id hid
  | readerReturns clientId =>
      refine h.withChannel hnext ?_
      intro ch ch' hch
      rw [← Option.some.inj hch]
      exact ⟨ch.owed_append .ended, fun _ => by simp [ClientChannel.hasEnded,
        ClientChannel.readerReturns]⟩
  | writerExits clientId =>
      refine h.withChannel hnext ?_
      intro ch ch' hch
      rw [← Option.some.inj hch]
      exact ⟨ch.owed_append .ended, fun _ => by simp [ClientChannel.hasEnded,
        ClientChannel.writerExits]⟩
  | cleanup clientId =>
      simp only [OverflowState.next, Option.ite_none_right_eq_some, Option.some.injEq] at hnext
      obtain ⟨_, rfl⟩ := hnext
      exact h
  | deliver clientId =>
      refine h.withChannel hnext ?_
      intro ch ch' hch
      obtain ⟨⟨env, ch₁⟩, hdeliver, rfl⟩ := Option.map_eq_some_iff.mp hch
      unfold ClientChannel.deliver at hdeliver
      split at hdeliver
      · simp only [Option.some.injEq, Prod.mk.injEq] at hdeliver
        obtain ⟨_, rfl⟩ := hdeliver
        exact ⟨rfl, id⟩
      · simp only [Option.some.injEq, Prod.mk.injEq] at hdeliver
        obtain ⟨_, rfl⟩ := hdeliver
        exact ⟨rfl, id⟩
      · cases hdeliver
  | respond clientId env =>
      simp only [OverflowState.next, Option.ite_none_left_eq_some] at hnext
      obtain ⟨hplain, hnext⟩ := hnext
      refine h.withChannel hnext ?_
      intro ch ch' hch
      rcases ch.trySendResp_cases env with ⟨_, hsent, _, hlog⟩ | ⟨_, hnot, _⟩
      · have hsame : (ch.trySendResp env).2 = ch' := by
          split at hch
          · rename_i ch₁ hres
            rw [hres]
            exact Option.some.inj hch
          · cases hch
        rw [← hsame]
        refine ⟨?_, fun hend => by rw [ServerState.hasEnded_trySendResp]; exact hend⟩
        simp only [ClientChannel.owed, hlog, List.foldl_append, List.foldl_cons, List.foldl_nil,
          ClientChannel.owedStep]
        cases hp : env.payload with
        | streamOverflow runtimeId paneId count =>
            simp [hp, ServerPayload.isOverflow] at hplain
        | _ => rfl
      · split at hch
        · rename_i ch₁ hres
          rw [hres] at hnot
          exact absurd rfl hnot
        · cases hch
  | create runtimeId w =>
      simp only [OverflowState.next, Option.ite_none_left_eq_some, Option.some.injEq] at hnext
      obtain ⟨_, rfl⟩ := hnext
      exact h
  | change runtimeId op =>
      simp only [OverflowState.next, Option.ite_none_left_eq_some, Option.some.injEq] at hnext
      obtain ⟨_, rfl⟩ := hnext
      exact h
  | lock runtimeId =>
      simp only [OverflowState.next, Option.ite_none_left_eq_some, Option.some.injEq] at hnext
      obtain ⟨_, rfl⟩ := hnext
      exact h
  | unlock runtimeId =>
      simp only [OverflowState.next, Option.some.injEq] at hnext
      subst hnext
      exact h
  | collect task runtimeId =>
      simp only [OverflowState.next, Option.ite_none_left_eq_some, not_or] at hnext
      obtain ⟨⟨_, hfree⟩, hnext⟩ := hnext
      cases hw : s.server.objects.lookup runtimeId with
      | none => simp [hw] at hnext
      | some w =>
          simp only [hw, Option.some.injEq] at hnext
          subst hnext
          refine ServerState.Owes.mono h ?_
          rintro k id ⟨task', t', ht', hrun, hmem⟩
          have hne : task' ≠ task := by
            rintro rfl
            simp [ht'] at hfree
          exact ⟨task', t', by rw [← ht']; exact AList.lookup_insert_ne hne, hrun, hmem⟩
  | send task clientId msg => exact h.send hnext
  | handleOverflows task =>
      simp only [OverflowState.next] at hnext
      cases ht : s.tasks.lookup task with
      | none => simp [ht] at hnext
      | some t =>
          simp only [ht, Option.some.injEq] at hnext
          subst hnext
          simp only [announceable, ht, Option.all_some, List.all_eq_true, Bool.or_eq_true] at hok
          exact h.handleOverflows ht hok
  | broadcast order clientIds exclude msg =>
      simp only [OverflowState.next, Option.ite_none_right_eq_some, Option.some.injEq] at hnext
      obtain ⟨⟨hnodup, hsome, _⟩, rfl⟩ := hnext
      obtain ⟨id, hid⟩ := Option.isSome_iff_exists.mp hsome
      refine ServerState.Owes.broadcastToClients h hid hnodup ?_
      intro c hc hex hsender hover
      have hthis := List.all_eq_true.mp hok c hc
      simpa [hex, hsender, hover] using hthis
  | terminate order runtimeId finalRevision reason exclude =>
      simp only [OverflowState.next, Option.ite_none_right_eq_some, Option.some.injEq] at hnext
      obtain ⟨_, rfl⟩ := hnext
      refine owes_terminateWorkspace h order finalRevision reason ?_
      intro w hw c hc hex hsender hover
      simp only [announceable, hw, Option.all_some] at hok
      have hthis := List.all_eq_true.mp hok c hc
      simpa [hex, hsender, hover] using hthis
  | exitPush clientId msg =>
      simp only [OverflowState.next, Option.some.injEq] at hnext
      subst hnext
      simp only [announceable, Bool.or_eq_true, Bool.not_eq_true'] at hok
      have howes := ServerState.Owes.sendPush h clientId msg
      rcases hok with hroom | hend
      · refine howes.mono ?_
        rintro k id (hpending | ⟨_, hover, _⟩)
        · exact hpending
        · rw [hroom] at hover
          cases hover
      · intro k ch hk id hid
        rcases howes k ch hk id hid with hended | hpending | ⟨rfl, _, _⟩
        · exact Or.inl hended
        · exact Or.inr hpending
        · have hend' := (s.server.connectionEnded_sendPush k msg k).trans hend
          have hk' : (s.server.sendPush k msg).2.channels.lookup k = some ch := hk
          simp only [ServerState.connectionEnded, hk', Option.any_some] at hend'
          exact Or.inl hend'

/-- **Overflow is announced** in runs in which every drop can be announced. -/
theorem overflow_announced {s : OverflowState P G}
    (h : (system P G).ReachableUnder (fun s a => s.announceable a = true) s) :
    s.OverflowAnnounced := by
  refine h.invariant ?_ (fun _ _ _ hI hok hnext => hI.next hok hnext)
  rintro s rfl c ch hch
  simp [start] at hch

end Invariant

section Filling

/-- A client's channels after `n` pushes of one message. -/
def filled (msg : ServerPayload) (n : Nat) (h : n ≤ pushChannelBound) : ClientChannel :=
  ⟨⟨pushChannelBound, List.replicate n msg, by rw [List.length_replicate]; exact h, true⟩,
    .empty respChannelBound, List.replicate n (.pushed msg)⟩

/-- The channels with all room used. -/
def full (msg : ServerPayload) : ClientChannel :=
  filled msg pushChannelBound (Nat.le_refl _)

theorem trySendPush_filled (msg : ServerPayload) {n : Nat}
    (h : n + 1 ≤ pushChannelBound) :
    (filled msg n (by omega)).trySendPush msg = (.sent, filled msg (n + 1) h) := by
  have hroom : n < pushChannelBound := by omega
  simp [ClientChannel.trySendPush, filled, Mailbox.trySend, hroom, List.replicate_succ']

theorem trySendPush_full (msg sent : ServerPayload) :
    (full msg).trySendPush sent =
      (.full, { full msg with log := (full msg).log ++ [.dropped sent] }) := by
  simp [ClientChannel.trySendPush, full, filled, Mailbox.trySend]

theorem owed_full (msg : ServerPayload) : (full msg).owed = [] := by
  have hpushed : ∀ n, (List.replicate n (ChannelEvent.pushed msg)).foldl
      ClientChannel.owedStep [] = [] := by
    intro n
    induction n with
    | zero => rfl
    | succ n ih => rw [List.replicate_succ', List.foldl_append, ih]; rfl
  exact hpushed pushChannelBound

theorem not_ended_full (msg : ServerPayload) : ChannelEvent.ended ∉ (full msg).log := by
  simp [full, filled, List.mem_replicate]

end Filling

section Runs

def nineId : Uuid := 9

def firstId : Uuid := 1

def secondId : Uuid := 2

/-- A workspace with the client as a reader. -/
def sharedWorkspace (id : Uuid) : Workspace SampleParser SampleGrid :=
  (Workspace.new id "work" 0).insertClient nineId .reader

/-- Two workspaces and one client, attached to both. -/
def stage (caps : List Capability) (ch : ClientChannel) :
    OverflowState SampleParser SampleGrid :=
  ⟨⟨((∅ : HashMap Uuid _).insert firstId (sharedWorkspace firstId)).insert secondId
        (sharedWorkspace secondId),
      [secondId, firstId], [], (∅ : HashMap Uuid _).insert nineId ch, [nineId], [nineId],
      (∅ : HashMap Uuid _).insert nineId caps, ∅, [], ∅, []⟩, ∅⟩

theorem stage_connected (caps : List Capability) :
    (system SampleParser SampleGrid).execUnder announceable (start _ _)
      [.connect nineId caps, .create firstId (sharedWorkspace firstId),
        .create secondId (sharedWorkspace secondId)] = some (stage caps .new) := by
  rfl

theorem lookup_stage (caps : List Capability) (ch : ClientChannel) :
    (stage caps ch).server.channels.lookup nineId = some ch :=
  AList.lookup_insert _

theorem sendPush_stage (caps : List Capability) (ch : ClientChannel) (msg : ServerPayload) :
    (stage caps ch).server.sendPush nineId msg =
      ((ch.trySendPush msg).1, (stage caps (ch.trySendPush msg).2).server) := by
  simp only [ServerState.sendPush, stage, AList.lookup_insert, AList.insert_insert]

/-- A title change of the first workspace. -/
def titleMsg : ServerPayload :=
  .titleChanged firstId 1 "title" 1

/-- A broadcast to the client. -/
def tell (msg : ServerPayload) : OverflowStep SampleParser SampleGrid :=
  .broadcast [firstId, secondId] [nineId] none msg

theorem next_tell_sent {caps : List Capability} {ch ch' : ClientChannel}
    (h : ch.trySendPush titleMsg = (.sent, ch')) :
    (stage caps ch).next (tell titleMsg) = some (stage caps ch') := by
  have hsend := sendPush_stage caps ch titleMsg
  rw [h] at hsend
  have hok : ([nineId].Nodup ∧ titleMsg.runtimeId?.isSome = true ∧
      (stage caps ch).server.workspaces.all (· ∈ [firstId, secondId]) = true) := by
    refine ⟨List.nodup_singleton _, rfl, ?_⟩
    simp [stage]
  have hmem : nineId ∈ (stage caps ch).server.clientSenders := List.mem_singleton_self _
  simp only [tell, next, if_pos hok, ServerState.broadcastToClients, ServerState.sendToClients,
    hsend]
  simp [hmem]
  rfl

/-- The client's push channel can be full. -/
theorem reachable_filled (caps : List Capability) {n : Nat} (h : n ≤ pushChannelBound) :
    (system SampleParser SampleGrid).ReachableUnder (fun s a => s.announceable a = true)
      (stage caps (filled titleMsg n h)) := by
  induction n with
  | zero => exact System.ReachableUnder.execUnder (.init rfl) (stage_connected caps)
  | succ n ih =>
      have hroom : (stage caps (filled titleMsg n (by omega))).server.pushOverflows nineId =
          false := by
        have hlt : n < pushChannelBound := by omega
        simp [ServerState.pushOverflows, lookup_stage, filled, Mailbox.overflows, hlt]
      have hnext : (stage caps (filled titleMsg n (by omega))).next (tell titleMsg) =
          some (stage caps (filled titleMsg (n + 1) h)) :=
        next_tell_sent (trySendPush_filled titleMsg h)
      refine System.ReachableUnder.step (a := tell titleMsg) (ih (by omega)) ?_ hnext
      simp [announceable, tell, hroom]

theorem reachable_full (caps : List Capability) :
    (system SampleParser SampleGrid).ReachableUnder (fun s a => s.announceable a = true)
      (stage caps (full titleMsg)) :=
  reachable_filled caps (Nat.le_refl _)

/-- The full channels after the drop of a message. -/
def afterDrop (msg : ServerPayload) : ClientChannel :=
  { full titleMsg with log := (full titleMsg).log ++ [.dropped msg] }

/-- The channels after a drop and an overflow notice. -/
def afterNotice (msg : ServerPayload) (named : Uuid) : ClientChannel :=
  ((afterDrop msg).trySendResp (.push (.streamOverflow named none 1))).2

theorem owed_afterDrop {msg : ServerPayload} {id : Uuid}
    (hid : msg.runtimeId? = some id) :
    (afterDrop msg).owed = [id] := by
  have happend := (full titleMsg).owed_append (.dropped msg)
  rw [owed_full, ClientChannel.owedStep, hid] at happend
  exact happend

theorem not_ended_afterDrop (msg : ServerPayload) : (afterDrop msg).hasEnded = false := by
  simp [ClientChannel.hasEnded, afterDrop, not_ended_full]

theorem log_afterNotice (msg : ServerPayload) (named : Uuid) :
    (afterNotice msg named).log =
      (afterDrop msg).log ++ [.responded (.push (.streamOverflow named none 1))] := by
  rcases (afterDrop msg).trySendResp_cases (.push (.streamOverflow named none 1)) with
    ⟨_, _, _, hlog⟩ | ⟨hroom, _⟩
  · exact hlog
  · cases hroom

/-- A push of the workspace was dropped, no notice that names it has followed,
no output task is left to send one, and the connection stands. -/
def Silent (s : OverflowState SampleParser SampleGrid) (clientId runtimeId : Uuid) : Prop :=
  (∀ task, s.tasks.lookup task = none) ∧
    ∃ ch, s.server.channels.lookup clientId = some ch ∧
      runtimeId ∈ ch.owed ∧ ch.hasEnded = false

theorem Silent.not_announced {s : OverflowState SampleParser SampleGrid} {c id : Uuid}
    (h : s.Silent c id) :
    ¬ s.OverflowAnnounced := by
  obtain ⟨htasks, ch, hch, howed, hstands⟩ := h
  intro hall
  rcases hall c ch hch id howed with hended | ⟨task, t, ht, _⟩
  · rw [hstands] at hended
    cases hended
  · rw [htasks] at ht
    cases ht

/-- A broadcast about the second workspace. -/
def renameMsg : ServerPayload :=
  .workspaceRenamed secondId "second" 1 false

theorem next_tell_full {caps : List Capability} {msg : ServerPayload}
    (hid : msg.runtimeId?.isSome = true) :
    (stage caps (full titleMsg)).next (tell msg) =
      some ⟨ServerState.handleSinglePushOverflow [firstId, secondId]
        (stage caps (afterDrop msg)).server nineId, ∅⟩ := by
  have hsend := sendPush_stage caps (full titleMsg) msg
  rw [trySendPush_full] at hsend
  have hok : ([nineId].Nodup ∧ msg.runtimeId?.isSome = true ∧
      (stage caps (full titleMsg)).server.workspaces.all (· ∈ [firstId, secondId]) = true) := by
    refine ⟨List.nodup_singleton _, hid, ?_⟩
    simp [stage]
  have hmem : nineId ∈ (stage caps (full titleMsg)).server.clientSenders :=
    List.mem_singleton_self _
  simp only [tell, next, if_pos hok, ServerState.broadcastToClients, ServerState.sendToClients,
    hsend]
  simp [hmem]
  exact ⟨rfl, rfl⟩

theorem next_exitPush_full (caps : List Capability) (msg : ServerPayload) :
    (stage caps (full titleMsg)).next (.exitPush nineId msg) =
      some (stage caps (afterDrop msg)) := by
  simp only [next, sendPush_stage, trySendPush_full]
  rfl

/-- The search finds the first workspace, whichever the broadcast was about. -/
theorem attachedWorkspace_stage (caps : List Capability) (ch : ClientChannel) :
    (stage caps ch).server.attachedWorkspace [firstId, secondId] nineId = some firstId := by
  rfl

theorem supportsResync_stage {caps : List Capability}
    (hcaps : .optResync ∈ caps)
    (ch : ClientChannel) :
    (stage caps ch).server.supportsResync nineId = true := by
  have hlook : (stage caps ch).server.clientProtocols.lookup nineId = some caps :=
    AList.lookup_insert _
  have hmem : nineId ∈ (stage caps ch).server.clientRespSenders :=
    List.mem_singleton_self _
  simp [ServerState.supportsResync, hlook, hcaps, hmem]

theorem notice_stage {caps : List Capability} (msg : ServerPayload) (named : Uuid)
    (hcaps : .optResync ∈ caps) :
    (stage caps (afterDrop msg)).server.handleSinglePushOverflowForWorkspace nineId named =
      (stage caps (afterNotice msg named)).server := by
  have hsend : (stage caps (afterDrop msg)).server.sendResp nineId
      (.push (.streamOverflow named none 1)) =
        (.sent, (stage caps (afterNotice msg named)).server) := by
    simp only [ServerState.sendResp, stage, AList.lookup_insert, AList.insert_insert]
    rfl
  unfold ServerState.handleSinglePushOverflowForWorkspace
  rw [if_pos (supportsResync_stage hcaps _), hsend]

/-- A notice cannot be sent: the sender is removed. -/
theorem no_notice_stage (msg : ServerPayload) (named : Uuid) :
    (stage [] (afterDrop msg)).server.handleSinglePushOverflowForWorkspace nineId named =
      { (stage [] (afterDrop msg)).server with clientSenders := [] } := by
  rfl

/-- An output of the first workspace. -/
def outputMsg : ServerPayload :=
  .outputDelta firstId 1 [] 1

/-- An output task of the first workspace drops it, and a notice is sent. -/
def announcedDrop : List (OverflowStep SampleParser SampleGrid) :=
  [.collect 0 firstId, .send 0 nineId outputMsg, .handleOverflows 0]

/-- The output task in the middle of its sends. -/
def sending (ch : ClientChannel) (overflowed : List Uuid) :
    OverflowState SampleParser SampleGrid :=
  ⟨(stage [.optResync] ch).server,
    (∅ : HashMap Nat _).insert 0 ⟨firstId, [nineId], overflowed⟩⟩

theorem next_send_full :
    (sending (full titleMsg) []).next (.send 0 nineId outputMsg) =
      some (sending (afterDrop outputMsg) [nineId]) := by
  have htarget : nineId ∈ [nineId] ∧ outputMsg.runtimeId? = some firstId :=
    ⟨List.mem_singleton_self _, rfl⟩
  simp only [sending, next, AList.lookup_insert, if_pos htarget, sendPush_stage,
    trySendPush_full, AList.insert_insert]
  rfl

theorem next_handleOverflows_full :
    (sending (afterDrop outputMsg) [nineId]).next (.handleOverflows 0) =
      some (stage [.optResync] (afterNotice outputMsg firstId)) := by
  have hnotice := notice_stage outputMsg firstId (List.mem_singleton_self Capability.optResync)
  have hdedup : [nineId].dedup = [nineId] := (List.nodup_singleton _).dedup
  simp only [sending, next, AList.lookup_insert, ServerState.handlePushOverflows, hdedup,
    List.foldl_cons, List.foldl_nil, hnotice]
  rfl

theorem announcedDrop_end :
    (system SampleParser SampleGrid).execUnder announceable (stage [.optResync] (full titleMsg))
      announcedDrop = some (stage [.optResync] (afterNotice outputMsg firstId)) := by
  have hcollect : (stage [.optResync] (full titleMsg)).next (.collect 0 firstId) =
      some (sending (full titleMsg) []) := rfl
  have hcan : (sending (afterDrop outputMsg) [nineId]).server.canNotify nineId = true := rfl
  have hready : (sending (afterDrop outputMsg) [nineId]).announceable (.handleOverflows 0) =
      true := by
    have htask : (sending (afterDrop outputMsg) [nineId]).tasks.lookup 0 =
        some ⟨firstId, [nineId], [nineId]⟩ := AList.lookup_insert _
    simp [announceable, htask, hcan]
  simp only [announcedDrop, System.execUnder, system, hcollect, next_send_full,
    next_handleOverflows_full, hready, if_true]
  rfl

/-- The theorem at the end of that run: an output was dropped and announced. -/
theorem overflow_announced_announcedDrop :
    .dropped outputMsg ∈ (afterNotice outputMsg firstId).log ∧
      (stage [.optResync] (afterNotice outputMsg firstId)).OverflowAnnounced := by
  refine ⟨?_, overflow_announced ((reachable_full [.optResync]).execUnder announcedDrop_end)⟩
  rw [log_afterNotice]
  simp [afterDrop]

theorem silent_afterDrop {s : OverflowState SampleParser SampleGrid} {msg : ServerPayload}
    {id : Uuid}
    (hid : msg.runtimeId? = some id)
    (htasks : s.tasks = ∅)
    (hch : s.server.channels.lookup nineId = some (afterDrop msg)) :
    s.Silent nineId id := by
  refine ⟨fun task => by rw [htasks, AList.lookup_empty], afterDrop msg, hch, ?_, ?_⟩
  · rw [owed_afterDrop hid]
    exact List.mem_singleton_self id
  · exact not_ended_afterDrop msg

/-- A notice that names another workspace does not announce the drop. -/
theorem silent_afterNotice (caps : List Capability) {msg : ServerPayload} {id named : Uuid}
    (hid : msg.runtimeId? = some id)
    (hne : id ≠ named) :
    (stage caps (afterNotice msg named)).Silent nineId id := by
  refine ⟨fun task => AList.lookup_empty task, _, lookup_stage _ _, ?_, ?_⟩
  · have howed : (afterNotice msg named).owed =
        (afterDrop msg).owed.filter (fun other => other ≠ named) := by
      simp only [ClientChannel.owed, log_afterNotice, List.foldl_append, List.foldl_cons,
        List.foldl_nil]
      rfl
    rw [howed, owed_afterDrop hid]
    simp [hne]
  · have hended := ServerState.hasEnded_trySendResp (afterDrop msg)
      (.push (.streamOverflow named none 1))
    exact hended.trans (not_ended_afterDrop msg)

/-- **Overflow is silent** in three runs: a broadcast about one workspace is
announced as an overflow of another; a drop on the exit path is ignored; and a
client that cannot be told only loses its push sender. -/
theorem overflow_silent :
    (∃ s s', (system SampleParser SampleGrid).Reachable s ∧
        s.next (tell renameMsg) = some s' ∧ s'.Silent nineId secondId) ∧
      (∃ s s', (system SampleParser SampleGrid).Reachable s ∧
        s.next (.exitPush nineId outputMsg) = some s' ∧ s'.Silent nineId firstId) ∧
      (∃ s s', (system SampleParser SampleGrid).Reachable s ∧
        s.next (tell titleMsg) = some s' ∧ s'.Silent nineId firstId) ∧
      ∀ s, Silent s nineId firstId ∨ Silent s nineId secondId → ¬ s.OverflowAnnounced := by
  refine ⟨?_, ?_, ?_, ?_⟩
  · refine ⟨_, _, (reachable_full [.optResync]).reachable, next_tell_full rfl, ?_⟩
    rw [ServerState.handleSinglePushOverflow, attachedWorkspace_stage]
    simp only [notice_stage renameMsg firstId (List.mem_singleton_self _)]
    exact silent_afterNotice [.optResync] rfl (by decide)
  · have hch := lookup_stage [.optResync] (afterDrop outputMsg)
    exact ⟨_, _, (reachable_full [.optResync]).reachable, next_exitPush_full _ outputMsg,
      silent_afterDrop rfl rfl hch⟩
  · refine ⟨_, _, (reachable_full []).reachable, next_tell_full rfl, ?_⟩
    rw [ServerState.handleSinglePushOverflow, attachedWorkspace_stage]
    simp only [no_notice_stage titleMsg firstId]
    have hch := lookup_stage [] (afterDrop titleMsg)
    exact silent_afterDrop rfl rfl hch
  · rintro s (hsilent | hsilent)
    · exact hsilent.not_announced
    · exact hsilent.not_announced

end Runs

end OverflowState

end Server
end Rttx
