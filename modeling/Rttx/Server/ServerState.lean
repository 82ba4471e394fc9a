import Rttx.Server.Messages

/-!
# The shared state of the daemon

The registry of workspaces, the channels of the connected clients, and the
handles of the panes' PTYs, all behind the server lock.  Every workspace has a
lock of its own, and a handler that fetched a workspace from the registry keeps
it alive after it left.

A broadcast drops a push when the client's channel is full, and then handles
the overflow: it looks for a workspace the client is attached to among those
that are not locked, in the order a hash map happens to have.

**Results.**
* `lookup_sendPush`, `lookup_sendResp`: sending reaches one client's channels.
* `broadcastToClients_frame`: broadcasting changes channels and push senders
  only.
* `logsGrow_broadcast`: it takes nothing from the history of a connection.
-/

namespace Rttx
namespace Server

open Kernel

universe u v

/-- The size of a PTY. -/
structure PtySize where
  cols : Nat
  rows : Nat
deriving DecidableEq, Repr

/-- The state behind the server lock.  `objects` are the workspaces that
somebody can still reach, `workspaces` the registered ones, `locked` those whose
lock another task holds; `killed` records the kill signals sent. -/
structure ServerState (P : Type u) (G : Type v) where
  objects : HashMap Uuid (Workspace P G)
  workspaces : List Uuid
  locked : List Uuid
  channels : HashMap Uuid ClientChannel
  clientSenders : List Uuid
  clientRespSenders : List Uuid
  clientProtocols : HashMap Uuid (List Capability)
  ptyWriters : HashMap Uuid PtySize
  ptyKillSenders : List Uuid
  clientPaneSizes : HashMap Uuid (HashMap Uuid (Nat × Nat))
  killed : List Uuid

namespace ServerState

section Operations

variable {P : Type u} {G : Type v}

/-- Send a push through a handle of a client's channel. -/
def sendPush (s : ServerState P G) (clientId : Uuid) (msg : ServerPayload) :
    SendResult × ServerState P G :=
  match s.channels.lookup clientId with
  | none => (.closed, s)
  | some ch =>
      ((ch.trySendPush msg).1,
        { s with channels := s.channels.insert clientId (ch.trySendPush msg).2 })

def sendResp (s : ServerState P G) (clientId : Uuid) (env : ServerEnvelope) :
    SendResult × ServerState P G :=
  match s.channels.lookup clientId with
  | none => (.closed, s)
  | some ch =>
      ((ch.trySendResp env).1,
        { s with channels := s.channels.insert clientId (ch.trySendResp env).2 })

/-- Remove a client's push sender. -/
def forceDisconnectClient (s : ServerState P G) (clientId : Uuid) : ServerState P G :=
  { s with clientSenders := s.clientSenders.filter (fun c => c ≠ clientId) }

/-- Whether overflow is announced to the client rather than its sender removed. -/
def supportsResync (s : ServerState P G) (clientId : Uuid) : Bool :=
  (s.clientProtocols.lookup clientId).any (fun caps => .optResync ∈ caps) &&
    clientId ∈ s.clientRespSenders

/-- Handle an overflow for a client in a workspace. -/
def handleSinglePushOverflowForWorkspace (s : ServerState P G) (clientId runtimeId : Uuid) :
    ServerState P G :=
  if s.supportsResync clientId then
    match s.sendResp clientId (.push (.streamOverflow runtimeId none 1)) with
    | (.sent, s) => s
    | (_, s) => s.forceDisconnectClient clientId
  else
    s.forceDisconnectClient clientId

/-- The first workspace in `order` that is not locked and has the client attached. -/
def attachedWorkspace (s : ServerState P G) (order : List Uuid) (clientId : Uuid) :
    Option Uuid :=
  order.find? (fun id =>
    id ∈ s.workspaces && id ∉ s.locked &&
      (s.objects.lookup id).any (fun w => (w.clientRole clientId).isSome))

/-- Handle an overflow for a client without knowing the workspace; `order` is
the order in which the registry is searched. -/
def handleSinglePushOverflow (order : List Uuid) (s : ServerState P G) (clientId : Uuid) :
    ServerState P G :=
  match s.attachedWorkspace order clientId with
  | some runtimeId => s.handleSinglePushOverflowForWorkspace clientId runtimeId
  | none => s.forceDisconnectClient clientId

/-- Handle the overflows that the output task of a workspace collected. -/
def handlePushOverflows (s : ServerState P G) (overflowed : List Uuid) (runtimeId : Uuid) :
    ServerState P G :=
  overflowed.foldl (fun s c => s.handleSinglePushOverflowForWorkspace c runtimeId) s

/-- Send to the clients that have a push sender; returns those that overflowed. -/
def sendToClients (msg : ServerPayload) (exclude : Option Uuid) :
    List Uuid → ServerState P G → List Uuid × ServerState P G
  | [], s => ([], s)
  | c :: rest, s =>
      if some c = exclude || c ∉ s.clientSenders then
        sendToClients msg exclude rest s
      else
        match s.sendPush c msg with
        | (.full, s) =>
            let (overflowed, s) := sendToClients msg exclude rest s
            (c :: overflowed, s)
        | (_, s) => sendToClients msg exclude rest s

/-- Broadcast a push under the server lock. -/
def broadcastToClients (s : ServerState P G) (order clientIds : List Uuid)
    (exclude : Option Uuid) (msg : ServerPayload) : ServerState P G :=
  let (overflowed, s) := sendToClients msg exclude clientIds s
  overflowed.foldl (handleSinglePushOverflow order) s

/-- The clients of a list that have a push sender. -/
def collectSendersForClients (s : ServerState P G) (clientIds : List Uuid) : List Uuid :=
  clientIds.filter (fun c => c ∈ s.clientSenders)

/-- Remove the PTY of a pane, signalling its read loop if it still runs. -/
def killPane (s : ServerState P G) (paneId : Uuid) : ServerState P G :=
  { s with
    ptyWriters := s.ptyWriters.erase paneId
    ptyKillSenders := s.ptyKillSenders.filter (fun id => id ≠ paneId)
    killed := if paneId ∈ s.ptyKillSenders then s.killed ++ [paneId] else s.killed }

/-- Terminate a workspace, unless it is gone or another task holds its lock. -/
def terminateWorkspace (s : ServerState P G) (order : List Uuid) (runtimeId : Uuid)
    (finalRevision : Nat) (reason : TerminationReason) (exclude : Option Uuid) :
    Option ServerPayload × ServerState P G :=
  if runtimeId ∉ s.workspaces || runtimeId ∈ s.locked then
    (none, s)
  else
    match s.objects.lookup runtimeId with
    | none => (none, s)
    | some w =>
        let s := { s with workspaces := s.workspaces.filter (fun id => id ≠ runtimeId) }
        let s := w.panes.keys.foldl killPane s
        let msg := .workspaceTerminated runtimeId finalRevision reason
        (some msg, s.broadcastToClients order w.attachedClients.keys exclude msg)

end Operations

section Frames

variable {P : Type u} {G : Type v}

/-- Only channels and push senders may differ. -/
def ChannelsOnly (s s' : ServerState P G) : Prop :=
  ∃ channels senders, s' = { s with channels := channels, clientSenders := senders }

theorem ChannelsOnly.refl (s : ServerState P G) : s.ChannelsOnly s :=
  ⟨s.channels, s.clientSenders, rfl⟩

theorem ChannelsOnly.trans {s₁ s₂ s₃ : ServerState P G}
    (h : s₁.ChannelsOnly s₂)
    (h' : s₂.ChannelsOnly s₃) :
    s₁.ChannelsOnly s₃ := by
  obtain ⟨_, _, rfl⟩ := h
  obtain ⟨channels, senders, rfl⟩ := h'
  exact ⟨channels, senders, rfl⟩

theorem ChannelsOnly.supportsResync {s s' : ServerState P G}
    (h : s.ChannelsOnly s')
    (clientId : Uuid) :
    s'.supportsResync clientId = s.supportsResync clientId := by
  obtain ⟨_, _, rfl⟩ := h
  rfl

theorem ChannelsOnly.attachedWorkspace {s s' : ServerState P G}
    (h : s.ChannelsOnly s')
    (order : List Uuid)
    (clientId : Uuid) :
    s'.attachedWorkspace order clientId = s.attachedWorkspace order clientId := by
  obtain ⟨_, _, rfl⟩ := h
  rfl

theorem sendPush_frame (s : ServerState P G) (c : Uuid) (msg : ServerPayload) :
    s.ChannelsOnly (s.sendPush c msg).2 := by
  unfold sendPush
  split
  · exact ChannelsOnly.refl s
  · exact ⟨_, _, rfl⟩

theorem sendResp_frame (s : ServerState P G) (c : Uuid) (env : ServerEnvelope) :
    s.ChannelsOnly (s.sendResp c env).2 := by
  unfold sendResp
  split
  · exact ChannelsOnly.refl s
  · exact ⟨_, _, rfl⟩

theorem forceDisconnectClient_frame (s : ServerState P G) (c : Uuid) :
    s.ChannelsOnly (s.forceDisconnectClient c) :=
  ⟨_, _, rfl⟩

theorem handleSinglePushOverflowForWorkspace_frame (s : ServerState P G) (c W : Uuid) :
    s.ChannelsOnly (s.handleSinglePushOverflowForWorkspace c W) := by
  have hsend := sendResp_frame s c (.push (.streamOverflow W none 1))
  unfold handleSinglePushOverflowForWorkspace
  split
  · split
    · rename_i s' hres
      rw [hres] at hsend
      exact hsend
    · rename_i result s' _ hres
      rw [hres] at hsend
      exact hsend.trans (forceDisconnectClient_frame s' c)
  · exact forceDisconnectClient_frame s c

theorem handleSinglePushOverflow_frame (order : List Uuid) (s : ServerState P G) (c : Uuid) :
    s.ChannelsOnly (handleSinglePushOverflow order s c) := by
  unfold handleSinglePushOverflow
  split
  · exact handleSinglePushOverflowForWorkspace_frame s c _
  · exact forceDisconnectClient_frame s c

theorem sendToClients_frame (msg : ServerPayload) (exclude : Option Uuid) (ids : List Uuid)
    (s : ServerState P G) :
    s.ChannelsOnly (sendToClients msg exclude ids s).2 := by
  induction ids generalizing s with
  | nil => exact ChannelsOnly.refl s
  | cons c rest ih =>
      have hsend := sendPush_frame s c msg
      simp only [sendToClients]
      split
      · exact ih s
      · split
        · rename_i s' hres
          rw [hres] at hsend
          exact hsend.trans (ih s')
        · rename_i result s' _ hres
          rw [hres] at hsend
          exact hsend.trans (ih s')

/-- Broadcasting changes channels and push senders only. -/
theorem broadcastToClients_frame (s : ServerState P G) (order ids : List Uuid)
    (exclude : Option Uuid) (msg : ServerPayload) :
    s.ChannelsOnly (s.broadcastToClients order ids exclude msg) := by
  have hfold : ∀ (overflowed : List Uuid) (s : ServerState P G),
      s.ChannelsOnly (overflowed.foldl (handleSinglePushOverflow order) s) := by
    intro overflowed
    induction overflowed with
    | nil => exact ChannelsOnly.refl
    | cons c rest ih =>
        intro s
        exact (handleSinglePushOverflow_frame order s c).trans (ih _)
  exact (sendToClients_frame msg exclude ids s).trans (hfold _ _)

/-- Killing panes changes the handles of PTYs and the signals only. -/
theorem killPanes_frame (ids : List Uuid) (s : ServerState P G) :
    (ids.foldl killPane s).workspaces = s.workspaces ∧
      (ids.foldl killPane s).objects = s.objects ∧
      (ids.foldl killPane s).channels = s.channels ∧
      (ids.foldl killPane s).clientSenders = s.clientSenders ∧
      (ids.foldl killPane s).clientPaneSizes = s.clientPaneSizes := by
  induction ids generalizing s with
  | nil => exact ⟨rfl, rfl, rfl, rfl, rfl⟩
  | cons id rest ih => exact ih (s.killPane id)

/-- The writers that are left are those of other panes. -/
theorem lookup_killPanes_writers {ids : List Uuid} {s : ServerState P G} {k : Uuid}
    {pty : PtySize}
    (h : (ids.foldl killPane s).ptyWriters.lookup k = some pty) :
    k ∉ ids ∧ s.ptyWriters.lookup k = some pty := by
  induction ids generalizing s with
  | nil => exact ⟨List.not_mem_nil, h⟩
  | cons id rest ih =>
      obtain ⟨hrest, hold⟩ := ih h
      obtain ⟨hne, hlook⟩ := HashMap.lookup_erase_cases hold
      exact ⟨List.not_mem_cons_of_ne_of_not_mem hne hrest, hlook⟩

/-- What killing panes does to their kill senders. -/
theorem killPanes_signals (ids : List Uuid) (s : ServerState P G) :
    (∀ p, p ∈ (ids.foldl killPane s).ptyKillSenders ↔ p ∈ s.ptyKillSenders ∧ p ∉ ids) ∧
      (∀ p ∈ s.killed, p ∈ (ids.foldl killPane s).killed) ∧
      ∀ p ∈ s.ptyKillSenders, p ∈ ids → p ∈ (ids.foldl killPane s).killed := by
  induction ids generalizing s with
  | nil => simp
  | cons id rest ih =>
      obtain ⟨hsenders, hkeep, hkilled⟩ := ih (s.killPane id)
      have hmore : ∀ p ∈ s.killed, p ∈ (s.killPane id).killed := by
        intro p hp
        simp only [killPane]
        split
        · exact List.mem_append_left _ hp
        · exact hp
      refine ⟨?_, fun p hp => hkeep p (hmore p hp), ?_⟩
      · intro p
        rw [List.foldl_cons, hsenders p]
        simp only [killPane, List.mem_filter, decide_eq_true_eq, List.mem_cons, not_or]
        exact and_assoc
      · intro p hp hin
        rw [List.foldl_cons]
        by_cases hsame : p = id
        · subst hsame
          refine hkeep p ?_
          simp [killPane, hp]
        · refine hkilled p ?_ ((List.mem_cons.mp hin).resolve_left hsame)
          simp [killPane, hp, hsame]

/-- Sending a push reaches one client's channels. -/
theorem lookup_sendPush (s : ServerState P G) (c : Uuid) (msg : ServerPayload) (k : Uuid) :
    (s.sendPush c msg).2.channels.lookup k =
      if k = c then (s.channels.lookup c).map (fun ch => (ch.trySendPush msg).2)
      else s.channels.lookup k := by
  unfold sendPush
  cases hch : s.channels.lookup c with
  | none =>
      by_cases hk : k = c
      · subst hk
        simp [hch]
      · simp [hk]
  | some ch => exact HashMap.lookup_insert_eq _ _ _ _

theorem lookup_sendResp (s : ServerState P G) (c : Uuid) (env : ServerEnvelope) (k : Uuid) :
    (s.sendResp c env).2.channels.lookup k =
      if k = c then (s.channels.lookup c).map (fun ch => (ch.trySendResp env).2)
      else s.channels.lookup k := by
  unfold sendResp
  cases hch : s.channels.lookup c with
  | none =>
      by_cases hk : k = c
      · subst hk
        simp [hch]
      · simp [hk]
  | some ch => exact HashMap.lookup_insert_eq _ _ _ _

end Frames

section Logs

variable {P : Type u} {G : Type v}

/-- Every connection is still there, and nothing was taken from its history. -/
def LogsGrow (s s' : ServerState P G) : Prop :=
  ∀ c ch, s.channels.lookup c = some ch →
    ∃ ch', s'.channels.lookup c = some ch' ∧ ∀ e ∈ ch.log, e ∈ ch'.log

theorem LogsGrow.of_channels {s s' : ServerState P G}
    (h : s'.channels = s.channels) :
    s.LogsGrow s' := by
  intro c ch hch
  exact ⟨ch, by rw [h, hch], fun _ he => he⟩

theorem LogsGrow.trans {s₁ s₂ s₃ : ServerState P G}
    (h : s₁.LogsGrow s₂)
    (h' : s₂.LogsGrow s₃) :
    s₁.LogsGrow s₃ := by
  intro c ch hch
  obtain ⟨ch', hch', hlog⟩ := h c ch hch
  obtain ⟨ch'', hch'', hlog'⟩ := h' c ch' hch'
  exact ⟨ch'', hch'', fun e he => hlog' e (hlog e he)⟩

/-- One connection's channels are replaced by ones with a longer history. -/
theorem LogsGrow.of_insert {s s' : ServerState P G} {c : Uuid} {ch ch' : ClientChannel}
    (hch : s.channels.lookup c = some ch)
    (hchannels : s'.channels = s.channels.insert c ch')
    (hlog : ∀ e ∈ ch.log, e ∈ ch'.log) :
    s.LogsGrow s' := by
  intro k old hk
  rw [hchannels, HashMap.lookup_insert_eq]
  by_cases hkc : k = c
  · subst hkc
    rw [hch, Option.some.injEq] at hk
    subst hk
    exact ⟨ch', if_pos rfl, hlog⟩
  · exact ⟨old, by rw [if_neg hkc, hk], fun _ he => he⟩

theorem logsGrow_sendPush (s : ServerState P G) (c : Uuid) (msg : ServerPayload) :
    s.LogsGrow (s.sendPush c msg).2 := by
  unfold sendPush
  cases hch : s.channels.lookup c with
  | none => exact LogsGrow.of_channels rfl
  | some ch => exact LogsGrow.of_insert hch rfl (ch.log_trySendPush msg)

theorem logsGrow_sendResp (s : ServerState P G) (c : Uuid) (env : ServerEnvelope) :
    s.LogsGrow (s.sendResp c env).2 := by
  unfold sendResp
  cases hch : s.channels.lookup c with
  | none => exact LogsGrow.of_channels rfl
  | some ch => exact LogsGrow.of_insert hch rfl (ch.log_trySendResp env)

theorem logsGrow_notice (s : ServerState P G) (c id : Uuid) :
    s.LogsGrow (s.handleSinglePushOverflowForWorkspace c id) := by
  have hsend := logsGrow_sendResp s c (.push (.streamOverflow id none 1))
  unfold handleSinglePushOverflowForWorkspace
  split
  · split
    · rename_i s' hres
      rw [hres] at hsend
      exact hsend
    · rename_i result s' _ hres
      rw [hres] at hsend
      exact hsend.trans (LogsGrow.of_channels rfl)
  · exact LogsGrow.of_channels rfl

theorem logsGrow_handleSinglePushOverflow (order : List Uuid) (s : ServerState P G) (c : Uuid) :
    s.LogsGrow (handleSinglePushOverflow order s c) := by
  unfold handleSinglePushOverflow
  split
  · exact logsGrow_notice s c _
  · exact LogsGrow.of_channels rfl

theorem logsGrow_foldl {handle : ServerState P G → Uuid → ServerState P G}
    (hstep : ∀ (s : ServerState P G) c, s.LogsGrow (handle s c))
    (ids : List Uuid)
    (s : ServerState P G) :
    s.LogsGrow (ids.foldl handle s) := by
  induction ids generalizing s with
  | nil => exact LogsGrow.of_channels rfl
  | cons c rest ih => exact (hstep s c).trans (ih (handle s c))

theorem logsGrow_sendToClients (msg : ServerPayload) (exclude : Option Uuid)
    (ids : List Uuid) (s : ServerState P G) :
    s.LogsGrow (sendToClients msg exclude ids s).2 := by
  induction ids generalizing s with
  | nil => exact LogsGrow.of_channels rfl
  | cons c rest ih =>
      have hsend := logsGrow_sendPush s c msg
      simp only [sendToClients]
      split
      · exact ih s
      · split
        · rename_i s' hres
          rw [hres] at hsend
          exact hsend.trans (ih s')
        · rename_i result s' _ hres
          rw [hres] at hsend
          exact hsend.trans (ih s')

/-- A broadcast only adds to the histories of the connections. -/
theorem logsGrow_broadcast (s : ServerState P G) (order ids : List Uuid)
    (exclude : Option Uuid) (msg : ServerPayload) :
    s.LogsGrow (s.broadcastToClients order ids exclude msg) :=
  (logsGrow_sendToClients msg exclude ids s).trans
    (logsGrow_foldl (logsGrow_handleSinglePushOverflow order) _ _)

end Logs

end ServerState

end Server
end Rttx
