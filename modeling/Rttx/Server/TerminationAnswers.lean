import Rttx.Server.WorkspaceLifetime

/-!
# Answers that a workspace is terminated

A terminate request, and a detach that ends an ephemeral workspace, are answered
that the workspace is terminated whether or not its removal went through.  The
removal gives up when another task holds the workspace's lock at that instant,
and a push that tells another client is dropped when the client's channel is
full.

**Results.**
* `broadcast_pushed`: a broadcast whose targets all have room reaches them all.
* `Accounted.next`: what is known of workspaces that are gone, by steps.
* `answers_true`: in runs in which every removal finds the lock free and room
  in the channels, every such answer is true.
* `answer_false`: an answer about a workspace that is still there, and one that
  another client was not told of.
-/

namespace Rttx
namespace Server

open Kernel

universe u v

namespace ServerState

section Reaching

variable {P : Type u} {G : Type v}

/-- Whether a push to the client would go into its channel. -/
def canPush (s : ServerState P G) (clientId : Uuid) : Bool :=
  clientId ∈ s.clientSenders && (s.channels.lookup clientId).any (fun ch => ch.push.accepts)

theorem sendPush_of_canPush {s : ServerState P G} {c : Uuid}
    (h : s.canPush c = true)
    (msg : ServerPayload) :
    (s.sendPush c msg).1 = .sent ∧
      ∃ ch, (s.sendPush c msg).2.channels.lookup c = some ch ∧ .pushed msg ∈ ch.log := by
  simp only [canPush, Bool.and_eq_true] at h
  unfold sendPush
  cases hch : s.channels.lookup c with
  | none => simp [hch] at h
  | some ch =>
      have haccepts : ch.push.accepts = true := by simpa [hch] using h.2
      have hsent := (Mailbox.trySend_of_accepts haccepts msg).1
      have hlog : (ch.trySendPush msg).1 = .sent ∧ .pushed msg ∈ (ch.trySendPush msg).2.log := by
        rcases hres : ch.push.trySend msg with ⟨result, push⟩
        rw [hres] at hsent
        simp only at hsent
        subst hsent
        simp [ClientChannel.trySendPush, hres]
      exact ⟨hlog.1, _, AList.lookup_insert _, hlog.2⟩

theorem canPush_sendPush {s : ServerState P G} {c k : Uuid}
    (hk : k ≠ c)
    (msg : ServerPayload) :
    (s.sendPush c msg).2.canPush k = s.canPush k := by
  simp only [canPush, clientSenders_sendPush, lookup_sendPush, if_neg hk]

/-- Sending to clients that all have room overflows none and reaches each. -/
theorem sendToClients_pushed (msg : ServerPayload) {exclude : Option Uuid} {ids : List Uuid}
    (hnodup : ids.Nodup)
    {s : ServerState P G}
    (hroom : ∀ c ∈ ids, some c ≠ exclude → s.canPush c = true) :
    (sendToClients msg exclude ids s).1 = [] ∧
      ∀ c ∈ ids, some c ≠ exclude →
        ∃ ch, (sendToClients msg exclude ids s).2.channels.lookup c = some ch ∧
          .pushed msg ∈ ch.log := by
  induction ids generalizing s with
  | nil => exact ⟨rfl, by simp⟩
  | cons c rest ih =>
      obtain ⟨hfresh, hrest⟩ := List.nodup_cons.mp hnodup
      simp only [sendToClients]
      by_cases hc : some c = exclude
      · obtain ⟨hnone, hall⟩ :=
          ih hrest (fun k hk => hroom k (List.mem_cons_of_mem _ hk))
        rw [if_pos (by simp [hc])]
        refine ⟨hnone, ?_⟩
        intro k hk hex
        rcases List.mem_cons.mp hk with rfl | hin
        · exact absurd hc hex
        · exact hall k hin hex
      · have hcan := hroom c List.mem_cons_self hc
        obtain ⟨hsent, ch, hch, hlog⟩ := sendPush_of_canPush hcan msg
        have hsender : c ∈ s.clientSenders := by
          simp only [canPush, Bool.and_eq_true, decide_eq_true_eq] at hcan
          exact hcan.1
        have hothers : ∀ k ∈ rest, some k ≠ exclude → (s.sendPush c msg).2.canPush k = true := by
          intro k hk hex
          have hne : k ≠ c := fun heq => hfresh (heq ▸ hk)
          rw [canPush_sendPush hne]
          exact hroom k (List.mem_cons_of_mem _ hk) hex
        obtain ⟨hnone, hall⟩ := ih hrest hothers
        obtain ⟨ch', hch', hgrow⟩ :=
          logsGrow_sendToClients msg exclude rest (s.sendPush c msg).2 c ch hch
        rw [if_neg (by simp [hc, hsender])]
        split
        · rename_i s' hres
          rw [hres] at hsent
          cases hsent
        · rename_i result s' _ hres
          rw [hres] at hnone hall hch'
          refine ⟨hnone, ?_⟩
          intro k hk hex
          rcases List.mem_cons.mp hk with rfl | hin
          · exact ⟨ch', hch', hgrow _ hlog⟩
          · exact hall k hin hex

/-- A broadcast whose targets all have room reaches them all. -/
theorem broadcast_pushed {s : ServerState P G} {ids : List Uuid} {exclude : Option Uuid}
    (hnodup : ids.Nodup)
    (hroom : ∀ c ∈ ids, some c ≠ exclude → s.canPush c = true)
    (order : List Uuid)
    (msg : ServerPayload) :
    ∀ c ∈ ids, some c ≠ exclude →
      ∃ ch, (s.broadcastToClients order ids exclude msg).channels.lookup c = some ch ∧
        .pushed msg ∈ ch.log := by
  obtain ⟨hnone, hall⟩ := sendToClients_pushed msg hnodup hroom
  intro c hc hex
  obtain ⟨ch, hch, hlog⟩ := hall c hc hex
  refine ⟨ch, ?_, hlog⟩
  rw [← hch, broadcastToClients]
  rcases hres : sendToClients msg exclude ids s with ⟨overflowed, s'⟩
  rw [hres] at hnone
  simp only at hnone
  rw [hnone]
  rfl

end Reaching

end ServerState

namespace Workspace

section Roles

variable {P : Type u} {G : Type v}

/-- An attach adds at most the client that attaches. -/
theorem clientRole_attachClient_of_ne {w : Workspace P G} {c clientId : Uuid} {mode : AttachMode}
    {now : Nat}
    (hne : c ≠ clientId)
    (h : ((w.attachClient clientId mode now).2.clientRole c).isSome = true) :
    (w.clientRole c).isSome = true := by
  cases mode with
  | readOnly =>
      have hrole : (w.attachClient clientId .readOnly now).2.clientRole c =
          if c = clientId then some .reader else w.clientRole c :=
        clientRole_insertClient _ _ _ _
      rw [hrole, if_neg hne] at h
      exact h
  | readWrite =>
      rcases attachClient_readWrite_cases w clientId now with ⟨_, _, _, hres⟩ | ⟨_, hres⟩
      · rw [hres] at h
        exact h
      · rw [hres, clientRole_insertClient, if_neg hne] at h
        exact h
  | takeOver =>
      rcases attachClient_takeOver_cases w clientId now with hres | ⟨previous, hwriter, _, hres⟩
      · rw [hres] at h
        exact h
      · rw [hres, clientRole_takeOver, if_neg hne] at h
        by_cases hprevious : c = previous
        · rw [hprevious, clientRole_of_writerClientId hwriter]
          rfl
        · rw [if_neg hprevious] at h
          exact h

theorem clientRole_detach_isSome {w : Workspace P G} {c clientId : Uuid} {reason : DetachReason}
    (h : ((w.detachClient clientId reason).2.clientRole c).isSome = true) :
    (w.clientRole c).isSome = true := by
  rcases detachClient_cases w clientId reason with ⟨_, hres⟩ | ⟨_, hres⟩
  · rw [hres] at h
    exact h
  · rw [hres] at h
    have hrole : (({ w with attachedClients := w.attachedClients.erase clientId } :
        Workspace P G).bumpRevision).clientRole c =
          if c = clientId then none else w.clientRole c :=
      HashMap.lookup_erase_eq _ _ _
    rw [hrole] at h
    by_cases hsame : c = clientId
    · simp [hsame] at h
    · rw [if_neg hsame] at h
      exact h

theorem mem_attachedClients_iff (w : Workspace P G) (c : Uuid) :
    c ∈ w.attachedClients.keys ↔ (w.clientRole c).isSome = true := by
  rw [← AList.mem_keys, clientRole, AList.lookup_isSome]

end Roles

end Workspace

namespace LifetimeState

section Accounting

variable {P : Type u} {G : Type v}

theorem told_iff (s : LifetimeState P G) (c id : Uuid) :
    s.told c id = true ↔
      (∃ ch, s.base.server.channels.lookup c = some ch ∧
          ∃ e ∈ ch.log, e.tellsTerminated id = true) ∨
        ∃ a ∈ s.answers, a.clientId = c ∧ a.runtimeId = id := by
  simp [told, Option.any_eq_true]

/-- What is known of the workspaces that are gone: their panes have no kill
sender left, and a client that is still attached was told, or attached itself
later.  Every PTY ever started can be signalled, was, or has exited. -/
structure Accounted (s : LifetimeState P G) : Prop where
  registered : ∀ id ∈ s.base.server.workspaces, (s.base.server.objects.lookup id).isSome = true
  signals : ∀ id w, s.base.server.objects.lookup id = some w → id ∉ s.base.server.workspaces →
    ∀ p ∈ w.panes, p ∉ s.base.server.ptyKillSenders
  clients : ∀ id w, s.base.server.objects.lookup id = some w → id ∉ s.base.server.workspaces →
    ∀ c, (w.clientRole c).isSome = true → s.told c id = true ∨ ⟨c, id, false⟩ ∈ s.admitted
  spawned : ∀ p ∈ s.spawned,
    p ∈ s.base.server.ptyKillSenders ∨ p ∈ s.base.server.killed ∨ p ∈ s.exited
  answers : ∀ a ∈ s.answers, a.truthful = true

/-- Whenever a client was answered that a workspace is terminated, it was: the
workspace was not registered, its panes were signalled, and the other attached
clients had been told. -/
def AnswersTrue (s : LifetimeState P G) : Prop :=
  ∀ a ∈ s.answers, a.truthful = true

/-- A workspace whose end is complete: no kill sender, and everybody told. -/
def Settled (s : LifetimeState P G) (id : Uuid) (w : Workspace P G) : Prop :=
  (∀ p ∈ w.panes, p ∉ s.base.server.ptyKillSenders) ∧
    ∀ c, (w.clientRole c).isSome = true → s.told c id = true

/-- What a step may do to the workspaces that are gone after it. -/
structure Evolves (s s' : LifetimeState P G) : Prop where
  logs : s.base.server.LogsGrow s'.base.server
  answers : ∀ a ∈ s.answers, a ∈ s'.answers
  admitted : ∀ a ∈ s.admitted, a ∈ s'.admitted
  registered : ∀ id ∈ s'.base.server.workspaces,
    (id ∈ s.base.server.workspaces ∧
        ((s.base.server.objects.lookup id).isSome = true →
          (s'.base.server.objects.lookup id).isSome = true)) ∨
      (s'.base.server.objects.lookup id).isSome = true
  gone : ∀ id w', s'.base.server.objects.lookup id = some w' → id ∉ s'.base.server.workspaces →
    s'.Settled id w' ∨
      ∃ w, s.base.server.objects.lookup id = some w ∧ id ∉ s.base.server.workspaces ∧
        (∀ p ∈ w'.panes, p ∈ w.panes) ∧
        ∀ c, (w'.clientRole c).isSome = true →
          (w.clientRole c).isSome = true ∨ ⟨c, id, false⟩ ∈ s'.admitted
  senders : ∀ p ∈ s'.base.server.ptyKillSenders, p ∈ s.base.server.ptyKillSenders ∨
    ∀ id w', s'.base.server.objects.lookup id = some w' → id ∉ s'.base.server.workspaces →
      p ∉ w'.panes

/-- Who was told stays told. -/
theorem Evolves.told {s s' : LifetimeState P G}
    (h : s.Evolves s')
    {c id : Uuid}
    (htold : s.told c id = true) :
    s'.told c id = true := by
  rw [told_iff] at htold ⊢
  rcases htold with ⟨ch, hch, e, he, htells⟩ | ⟨a, ha, hmine⟩
  · obtain ⟨ch', hch', hgrow⟩ := h.logs c ch hch
    exact Or.inl ⟨ch', hch', e, hgrow e he, htells⟩
  · exact Or.inr ⟨a, h.answers a ha, hmine⟩

theorem Accounted.evolves {s s' : LifetimeState P G}
    (h : s.Accounted)
    (hstep : s.Evolves s')
    (hspawned : ∀ p ∈ s'.spawned,
      p ∈ s'.base.server.ptyKillSenders ∨ p ∈ s'.base.server.killed ∨ p ∈ s'.exited)
    (hanswers : ∀ a ∈ s'.answers, a.truthful = true) :
    s'.Accounted where
  registered := by
    intro id hid
    rcases hstep.registered id hid with ⟨hold, hkeep⟩ | hnew
    · exact hkeep (h.registered id hold)
    · exact hnew
  signals := by
    intro id w' hw' hgone p hp hsender
    rcases hstep.gone id w' hw' hgone with hsettled | ⟨w, hw, hgone', hpanes, _⟩
    · exact hsettled.1 p hp hsender
    · rcases hstep.senders p hsender with hold | hnone
      · exact h.signals id w hw hgone' p (hpanes p hp) hold
      · exact hnone id w' hw' hgone hp
  clients := by
    intro id w' hw' hgone c hc
    rcases hstep.gone id w' hw' hgone with hsettled | ⟨w, hw, hgone', _, hroles⟩
    · exact Or.inl (hsettled.2 c hc)
    · rcases hroles c hc with hold | hnew
      · rcases h.clients id w hw hgone' c hold with htold | hlate
        · exact Or.inl (hstep.told htold)
        · exact Or.inr (hstep.admitted _ hlate)
      · exact Or.inr hnew
  spawned := hspawned
  answers := hanswers

/-- A step of the daemon's other tasks. -/
theorem Evolves.of_keeps {s s' : LifetimeState P G}
    (hkeeps : s.base.server.Keeps s'.base.server)
    (hanswers : s'.answers = s.answers)
    (hadmitted : s'.admitted = s.admitted) :
    s.Evolves s' where
  logs := hkeeps.logs
  answers := by rw [hanswers]; exact fun _ ha => ha
  admitted := by rw [hadmitted]; exact fun _ ha => ha
  registered := by
    intro id hid
    by_cases hold : id ∈ s.base.server.workspaces
    · refine Or.inl ⟨hold, ?_⟩
      intro hsome
      obtain ⟨w, hw⟩ := Option.isSome_iff_exists.mp hsome
      obtain ⟨w', hw', _⟩ := hkeeps.objects id w hw
      rw [hw']
      rfl
    · exact Or.inr (hkeeps.fresh id hid hold).2
  gone := by
    intro id w' hw' hgone
    cases hw : s.base.server.objects.lookup id with
    | none => exact absurd (hkeeps.created id w' hw' hw) hgone
    | some w =>
        obtain ⟨w'', hw'', hsame⟩ := hkeeps.objects id w hw
        rw [hw', Option.some.injEq] at hw''
        subst hw''
        refine Or.inr ⟨w, rfl, fun hid => hgone (hkeeps.registered id hid), ?_, ?_⟩
        · exact fun p hp => (hsame.panes p).mp hp
        · intro c hc
          rw [Workspace.clientRole, hsame.clients] at hc
          exact Or.inl hc
  senders := by
    intro p hp
    rw [hkeeps.killSenders] at hp
    exact Or.inl hp

/-- One workspace is replaced by one without new panes, unless it is registered,
and without new clients, unless they are recorded as late. -/
theorem Evolves.of_put {s s' : LifetimeState P G} {id : Uuid} {w w' : Workspace P G}
    (hw : s.base.server.objects.lookup id = some w)
    (hserver : s'.base.server =
      { s.base.server with objects := s.base.server.objects.insert id w' })
    (hanswers : s'.answers = s.answers)
    (hadmitted : ∀ a ∈ s.admitted, a ∈ s'.admitted)
    (hkeeps : id ∉ s.base.server.workspaces →
      (∀ p ∈ w'.panes, p ∈ w.panes) ∧
        ∀ c, (w'.clientRole c).isSome = true →
          (w.clientRole c).isSome = true ∨ ⟨c, id, false⟩ ∈ s'.admitted) :
    s.Evolves s' where
  logs := ServerState.LogsGrow.of_channels (by rw [hserver])
  answers := by rw [hanswers]; exact fun _ ha => ha
  admitted := hadmitted
  registered := by
    intro k hk
    rw [hserver] at hk ⊢
    refine Or.inl ⟨hk, ?_⟩
    intro hsome
    rw [HashMap.lookup_insert_eq]
    split
    · rfl
    · exact hsome
  gone := by
    intro k new hnew hgone
    rw [hserver] at hnew hgone
    rcases HashMap.lookup_insert_cases hnew with ⟨rfl, rfl⟩ | ⟨_, hold⟩
    · exact Or.inr ⟨w, hw, hgone, hkeeps hgone⟩
    · exact Or.inr ⟨new, hold, hgone, fun _ hp => hp, fun _ hc => Or.inl hc⟩
  senders := by
    intro p hp
    rw [hserver] at hp
    exact Or.inl hp

theorem isTerminated_iff (s : LifetimeState P G) (c id : Uuid) :
    s.isTerminated c id = true ↔
      id ∉ s.base.server.workspaces ∧
        ∀ w, s.base.server.objects.lookup id = some w →
          (∀ p ∈ w.panes, p ∉ s.base.server.ptyKillSenders ∧
              (p ∈ s.spawned → p ∈ s.base.server.killed ∨ p ∈ s.exited)) ∧
            ∀ k, (w.clientRole k).isSome = true → k = c ∨ s.told k id = true := by
  have hpanes : ∀ w : Workspace P G, (∀ p, p ∈ w.panes.keys → p ∉ s.base.server.ptyKillSenders ∧
      ((p ∉ s.spawned ∨ p ∈ s.base.server.killed) ∨ p ∈ s.exited)) ↔
        ∀ p ∈ w.panes, p ∉ s.base.server.ptyKillSenders ∧
          (p ∈ s.spawned → p ∈ s.base.server.killed ∨ p ∈ s.exited) := by
    intro w
    simp only [← AList.mem_keys, or_assoc, imp_iff_not_or]
  have hclients : ∀ w : Workspace P G,
      (∀ k, k ∈ w.attachedClients.keys → k = c ∨ s.told k id = true) ↔
        ∀ k, (w.clientRole k).isSome = true → k = c ∨ s.told k id = true := by
    intro w
    simp only [Workspace.mem_attachedClients_iff]
  simp only [isTerminated, Option.all_eq_true, Bool.and_eq_true, Bool.or_eq_true,
    decide_eq_true_eq, List.all_eq_true, hpanes, hclients]

/-- What a removal does to the channels and the signals. -/
theorem terminate_effects {s : LifetimeState P G} {id c : Uuid} {w : Workspace P G}
    (h : s.openWorkspace id = some w)
    (hroom : ∀ k, (w.clientRole k).isSome = true → k ≠ c → s.base.server.canPush k = true)
    (order : List Uuid)
    (rev : Nat)
    (reason : TerminationReason) :
    let server := (s.base.server.terminateWorkspace order id rev reason (some c)).2
    s.base.server.LogsGrow server ∧
      (∀ p, p ∈ server.ptyKillSenders ↔ p ∈ s.base.server.ptyKillSenders ∧ p ∉ w.panes) ∧
      (∀ p, p ∈ s.base.server.killed ∨ (p ∈ s.base.server.ptyKillSenders ∧ p ∈ w.panes) →
        p ∈ server.killed) ∧
      ∀ k, (w.clientRole k).isSome = true → k ≠ c →
        ∃ ch, server.channels.lookup k = some ch ∧
          .pushed (.workspaceTerminated id rev reason) ∈ ch.log := by
  intro server
  have hserver : server = _ := terminate_of_open h order rev reason (some c)
  generalize hstart : ({ s.base.server with
    workspaces := s.base.server.workspaces.filter (fun k => k ≠ id) } : ServerState P G) = start
    at hserver
  obtain ⟨_, _, hchannels, hsenders, _⟩ := ServerState.killPanes_frame w.panes.keys start
  obtain ⟨hkill, hkeep, hkilled⟩ := ServerState.killPanes_signals w.panes.keys start
  obtain ⟨_, _, hframe⟩ := ServerState.broadcastToClients_frame
    (w.panes.keys.foldl ServerState.killPane start) order w.attachedClients.keys (some c)
    (.workspaceTerminated id rev reason)
  have hsame : server.ptyKillSenders = (w.panes.keys.foldl ServerState.killPane
      start).ptyKillSenders ∧ server.killed = (w.panes.keys.foldl ServerState.killPane
      start).killed := by
    rw [hserver, hframe]
    exact ⟨rfl, rfl⟩
  refine ⟨?_, ?_, ?_, ?_⟩
  · rw [hserver]
    refine ServerState.LogsGrow.trans (ServerState.LogsGrow.of_channels ?_)
      (ServerState.logsGrow_broadcast _ _ _ _ _)
    rw [hchannels, ← hstart]
  · intro p
    rw [hsame.1, hkill p, ← hstart, AList.mem_keys]
  · intro p hp
    rw [hsame.2]
    rcases hp with hold | ⟨hsender, hpane⟩
    · exact hkeep p (by rw [← hstart]; exact hold)
    · exact hkilled p (by rw [← hstart]; exact hsender) (AList.mem_keys.mp hpane)
  · intro k hk hne
    rw [hserver]
    refine ServerState.broadcast_pushed w.attachedClients.keys_nodup ?_ order _ k
      ((w.mem_attachedClients_iff k).mpr hk) (by simpa using hne)
    intro k' hk' hex
    have hcan := hroom k' ((w.mem_attachedClients_iff k').mp hk') (by simpa using hex)
    rw [ServerState.canPush, hchannels, hsenders, ← hstart]
    exact hcan

/-- A detach takes nobody in. -/
theorem evolves_detach {s s' : LifetimeState P G} {id c : Uuid} {w : Workspace P G}
    {reason : DetachReason}
    (hw : s.base.server.objects.lookup id = some w)
    (hserver : s'.base.server =
      { s.base.server with
        objects := s.base.server.objects.insert id (w.detachClient c reason).2 })
    (hanswers : s'.answers = s.answers)
    (hadmitted : s'.admitted = s.admitted) :
    s.Evolves s' := by
  refine Evolves.of_put hw hserver hanswers (by rw [hadmitted]; exact fun _ ha => ha) ?_
  intro _
  refine ⟨?_, fun k hk => Or.inl (Workspace.clientRole_detach_isSome hk)⟩
  intro p hp
  rw [(Workspace.detachClient_effect w c reason).panes] at hp
  exact hp

/-- A registered workspace is replaced. -/
theorem Evolves.of_put_registered {s : LifetimeState P G} {id : Uuid} {w : Workspace P G}
    (hw : s.base.server.objects.lookup id = some w)
    (hreg : id ∈ s.base.server.workspaces)
    (w' : Workspace P G) :
    s.Evolves (s.putWorkspace id w') :=
  Evolves.of_put hw rfl rfl (fun _ ha => ha) (fun hgone => absurd hreg hgone)

theorem Accounted.putRegistered {s : LifetimeState P G} {id : Uuid} {w : Workspace P G}
    (h : s.Accounted)
    (hw : s.openWorkspace id = some w)
    (w' : Workspace P G) :
    (s.putWorkspace id w').Accounted := by
  obtain ⟨hreg, _, hobject⟩ := openWorkspace_eq_some hw
  exact h.evolves (Evolves.of_put_registered hobject hreg w') h.spawned h.answers

theorem not_mem_of_minted {s : LifetimeState P G} {id p k : Uuid} {w : Workspace P G}
    (h : s.isMintedFor id p = true)
    (hw : s.base.server.objects.lookup k = some w)
    (hne : k ≠ id) :
    p ∉ w.panes := by
  have hthis := List.all_eq_true.mp h _ ((HashMap.lookup_eq_some_iff_mem _ _ _).mp hw)
  simp only [hne, decide_false, Bool.false_or, Option.isNone_iff_eq_none] at hthis
  exact AList.lookup_eq_none.mp hthis

/-- A PTY is started for a pane of a registered workspace. -/
theorem Accounted.startPty {s : LifetimeState P G} {id p : Uuid}
    (h : s.Accounted)
    (hreg : id ∈ s.base.server.workspaces)
    (hminted : ∀ k w, s.base.server.objects.lookup k = some w → k ≠ id → p ∉ w.panes)
    (size : PtySize) :
    (s.startPty p size).Accounted := by
  refine h.evolves ⟨ServerState.LogsGrow.of_channels rfl, fun _ ha => ha, fun _ ha => ha,
    fun k hk => Or.inl ⟨hk, fun hsome => hsome⟩, ?_, ?_⟩ ?_ h.answers
  · intro k w hw hgone
    exact Or.inr ⟨w, hw, hgone, fun _ hp => hp, fun _ hc => Or.inl hc⟩
  · intro q hq
    rcases List.mem_cons.mp hq with rfl | hold
    · refine Or.inr ?_
      intro k w hw hgone
      exact hminted k w hw (fun heq => hgone (heq ▸ hreg))
    · exact Or.inl hold
  · intro q hq
    rcases List.mem_cons.mp hq with rfl | hold
    · exact Or.inl List.mem_cons_self
    · rcases h.spawned q hold with hsender | hrest
      · exact Or.inl (List.mem_cons_of_mem _ hsender)
      · exact Or.inr hrest

/-- A pane's kill sender is used, or its PTY exits by itself. -/
theorem Accounted.dropSender {s s' : LifetimeState P G}
    (h : s.Accounted)
    (hworkspaces : s'.base.server.workspaces = s.base.server.workspaces)
    (hobjects : s'.base.server.objects = s.base.server.objects)
    (hchannels : s'.base.server.channels = s.base.server.channels)
    (hanswers : s'.answers = s.answers)
    (hadmitted : s'.admitted = s.admitted)
    (hsenders : ∀ q ∈ s'.base.server.ptyKillSenders, q ∈ s.base.server.ptyKillSenders)
    (hspawned : ∀ q ∈ s'.spawned,
      q ∈ s'.base.server.ptyKillSenders ∨ q ∈ s'.base.server.killed ∨ q ∈ s'.exited) :
    s'.Accounted := by
  refine h.evolves ⟨ServerState.LogsGrow.of_channels hchannels, ?_, ?_, ?_, ?_, ?_⟩ hspawned ?_
  · rw [hanswers]
    exact fun _ ha => ha
  · rw [hadmitted]
    exact fun _ ha => ha
  · intro k hk
    rw [hworkspaces] at hk
    rw [hobjects]
    exact Or.inl ⟨hk, fun hsome => hsome⟩
  · intro k w hw hgone
    rw [hobjects] at hw
    rw [hworkspaces] at hgone
    exact Or.inr ⟨w, hw, hgone, fun _ hp => hp, fun _ hc => Or.inl hc⟩
  · intro q hq
    exact Or.inl (hsenders q hq)
  · rw [hanswers]
    exact h.answers

end Accounting

section Runs

variable {P : Type u} {G : Type v}

/-- Whether a decided termination can be carried out as it is answered.  A
workspace that is still registered has its lock free, and its other clients have
room; of one that is gone, no client is left that only attached afterwards and
was not told. -/
def unhindered (s : LifetimeState P G) : LifetimeStep P G → Bool
  | .terminateRun task _ =>
      match s.handlers.lookup task with
      | some (.terminating clientId runtimeId _ _) =>
          (s.base.server.objects.lookup runtimeId).all fun w =>
            if runtimeId ∈ s.base.server.workspaces then
              runtimeId ∉ s.base.server.locked &&
                w.attachedClients.keys.all (fun c =>
                  c = clientId || s.base.server.canPush c)
            else
              w.attachedClients.keys.all (fun c =>
                c = clientId || s.told c runtimeId || ⟨c, runtimeId, false⟩ ∉ s.admitted)
      | _ => true
  | _ => true

/-- A termination that goes through. -/
theorem Accounted.conclude_open {s : LifetimeState P G} {id c : Uuid} {w : Workspace P G}
    (h : s.Accounted)
    (hw : s.openWorkspace id = some w)
    (hroom : ∀ k, (w.clientRole k).isSome = true → k ≠ c → s.base.server.canPush k = true)
    (task : Nat)
    (order : List Uuid)
    (rev : Nat)
    (reason : TerminationReason) :
    (s.conclude task order c id rev reason).Accounted := by
  obtain ⟨_, _, hobject⟩ := openWorkspace_eq_some hw
  obtain ⟨hworkspaces, hobjects⟩ := terminate_registry hw order rev reason (some c)
  obtain ⟨hlogs, hsenders, hkilled, hpushed⟩ := terminate_effects hw hroom order rev reason
  generalize hserver : (s.base.server.terminateWorkspace order id rev reason (some c)).2 = server
    at hworkspaces hobjects hlogs hsenders hkilled hpushed
  have hbase : (s.conclude task order c id rev reason).base.server = server := hserver
  generalize hmid : (s.recordRemoval id reason).withServer server = mid
  have hspawned : ∀ p ∈ s.spawned,
      p ∈ server.ptyKillSenders ∨ p ∈ server.killed ∨ p ∈ s.exited := by
    intro p hp
    rcases h.spawned p hp with hsender | hkill | hexit
    · by_cases hpane : p ∈ w.panes
      · exact Or.inr (Or.inl (hkilled p (Or.inr ⟨hsender, hpane⟩)))
      · exact Or.inl ((hsenders p).mpr ⟨hsender, hpane⟩)
    · exact Or.inr (Or.inl (hkilled p (Or.inl hkill)))
    · exact Or.inr (Or.inr hexit)
  have htold : ∀ k, (w.clientRole k).isSome = true → k ≠ c → mid.told k id = true := by
    intro k hk hne
    obtain ⟨ch, hch, hlog⟩ := hpushed k hk hne
    subst hmid
    exact (told_iff _ k id).mpr (Or.inl ⟨ch, hch, _, hlog, by simp [ChannelEvent.tellsTerminated]⟩)
  have htruthful : mid.isTerminated c id = true := by
    subst hmid
    refine (isTerminated_iff _ c id).mpr ⟨?_, ?_⟩
    · change id ∉ server.workspaces
      simp [hworkspaces]
    · intro w' hw'
      change server.objects.lookup id = some w' at hw'
      rw [hobjects, hobject, Option.some.injEq] at hw'
      subst hw'
      refine ⟨?_, ?_⟩
      · intro p hp
        refine ⟨fun hsender => ((hsenders p).mp hsender).2 hp, ?_⟩
        intro hstarted
        exact (hspawned p hstarted).resolve_left (fun hsender => ((hsenders p).mp hsender).2 hp)
      · intro k hk
        by_cases hne : k = c
        · exact Or.inl hne
        · exact Or.inr (htold k hk hne)
  have hanswers : (s.conclude task order c id rev reason).answers =
      s.answers ++ [⟨c, id, true⟩] := by
    simp only [conclude, hserver, hmid, dropHandler, answerTerminated, htruthful]
    rw [← hmid]
    rfl
  have hwas : ∀ k, mid.told k id = true →
      (s.conclude task order c id rev reason).told k id = true := by
    intro k hk
    rw [told_iff] at hk ⊢
    rw [hbase, hanswers]
    subst hmid
    rcases hk with hpush | ⟨a, ha, hmine⟩
    · exact Or.inl hpush
    · exact Or.inr ⟨a, List.mem_append_left _ ha, hmine⟩
  refine h.evolves ⟨?_, ?_, fun _ ha => ha, ?_, ?_, ?_⟩ ?_ ?_
  · rw [hbase]
    exact hlogs
  · intro a ha
    rw [hanswers]
    exact List.mem_append_left _ ha
  · intro k hk
    rw [hbase, hworkspaces] at hk
    rw [hbase, hobjects]
    exact Or.inl ⟨(List.mem_filter.mp hk).1, fun hsome => hsome⟩
  · intro k w' hw' hgone
    rw [hbase, hobjects] at hw'
    rw [hbase, hworkspaces] at hgone
    by_cases hsame : k = id
    · subst hsame
      rw [hobject, Option.some.injEq] at hw'
      subst hw'
      refine Or.inl ⟨?_, ?_⟩
      · intro p hp hsender
        rw [hbase] at hsender
        exact ((hsenders p).mp hsender).2 hp
      · intro k' hk'
        by_cases hne : k' = c
        · refine (told_iff _ k' k).mpr (Or.inr ⟨⟨c, k, true⟩, ?_, hne.symm, rfl⟩)
          rw [hanswers]
          exact List.mem_append_right _ (List.mem_singleton_self _)
        · exact hwas k' (htold k' hk' hne)
    · refine Or.inr ⟨w', hw', ?_, fun _ hp => hp, fun _ hc => Or.inl hc⟩
      intro hreg
      exact hgone (List.mem_filter.mpr ⟨hreg, by simpa using hsame⟩)
  · intro p hp
    rw [hbase] at hp
    exact Or.inl ((hsenders p).mp hp).1
  · intro p hp
    rw [hbase]
    exact hspawned p hp
  · intro a ha
    rw [hanswers] at ha
    rcases List.mem_append.mp ha with hold | hnew
    · exact h.answers a hold
    · rw [List.mem_singleton.mp hnew]

/-- A termination that finds the workspace already gone. -/
theorem Accounted.conclude_gone {s : LifetimeState P G} {id c : Uuid}
    (h : s.Accounted)
    (hgone : id ∉ s.base.server.workspaces)
    (hlate : ∀ w, s.base.server.objects.lookup id = some w → ∀ k, (w.clientRole k).isSome = true →
      k = c ∨ s.told k id = true ∨ ⟨k, id, false⟩ ∉ s.admitted)
    (task : Nat)
    (order : List Uuid)
    (rev : Nat)
    (reason : TerminationReason) :
    (s.conclude task order c id rev reason).Accounted := by
  have hclosed : s.openWorkspace id = none := by simp [openWorkspace, hgone]
  have hserver := terminate_of_closed hclosed order rev reason (some c)
  have hbase : (s.conclude task order c id rev reason).base.server = s.base.server := hserver
  have htruthful : ((s.recordRemoval id reason).withServer s.base.server).isTerminated c id =
      true := by
    refine (isTerminated_iff _ c id).mpr ⟨hgone, ?_⟩
    intro w hw
    refine ⟨?_, ?_⟩
    · intro p hp
      have hnone := h.signals id w hw hgone p hp
      exact ⟨hnone, fun hstarted => (h.spawned p hstarted).resolve_left hnone⟩
    · intro k hk
      rcases hlate w hw k hk with hsame | htold | hearly
      · exact Or.inl hsame
      · exact Or.inr htold
      · exact Or.inr ((h.clients id w hw hgone k hk).resolve_right hearly)
  have hanswers : (s.conclude task order c id rev reason).answers =
      s.answers ++ [⟨c, id, true⟩] := by
    simp only [conclude, hserver, dropHandler, answerTerminated, htruthful]
    rfl
  refine h.evolves ⟨?_, ?_, fun _ ha => ha, ?_, ?_, ?_⟩ ?_ ?_
  · exact ServerState.LogsGrow.of_channels (by rw [hbase])
  · intro a ha
    rw [hanswers]
    exact List.mem_append_left _ ha
  · intro k hk
    rw [hbase] at hk ⊢
    exact Or.inl ⟨hk, fun hsome => hsome⟩
  · intro k w' hw' hunreg
    rw [hbase] at hw' hunreg
    exact Or.inr ⟨w', hw', hunreg, fun _ hp => hp, fun _ hc => Or.inl hc⟩
  · intro p hp
    rw [hbase] at hp
    exact Or.inl hp
  · intro p hp
    rw [hbase]
    exact h.spawned p hp
  · intro a ha
    rw [hanswers] at ha
    rcases List.mem_append.mp ha with hold | hnew
    · exact h.answers a hold
    · rw [List.mem_singleton.mp hnew]

variable [VteParser P] [Vt100Parser G]

theorem Accounted.terminateRun {s s' : LifetimeState P G} {task : Nat} {order : List Uuid}
    (h : s.Accounted)
    (hok : s.unhindered (.terminateRun task order) = true)
    (hnext : s.next (.terminateRun task order) = some s') :
    s'.Accounted := by
  simp only [LifetimeState.next] at hnext
  split at hnext
  · rename_i c id rev reason ht
    simp only [Option.ite_none_right_eq_some, Option.some.injEq] at hnext
    obtain ⟨_, rfl⟩ := hnext
    by_cases hreg : id ∈ s.base.server.workspaces
    · obtain ⟨w, hw⟩ := Option.isSome_iff_exists.mp (h.registered id hreg)
      simp only [unhindered, ht, hw, Option.all_some, if_pos hreg, Bool.and_eq_true,
        decide_eq_true_eq, List.all_eq_true, Bool.or_eq_true] at hok
      have hopen : s.openWorkspace id = some w := by
        rw [openWorkspace, if_pos ⟨hreg, hok.1⟩, hw]
      refine h.conclude_open hopen ?_ task order rev reason
      intro k hk hne
      exact (hok.2 k ((w.mem_attachedClients_iff k).mpr hk)).resolve_left hne
    · refine h.conclude_gone hreg ?_ task order rev reason
      intro w hw k hk
      simp only [unhindered, ht, hw, Option.all_some, if_neg hreg, decide_eq_true_eq,
        List.all_eq_true, Bool.or_eq_true] at hok
      exact or_assoc.mp (hok k ((w.mem_attachedClients_iff k).mpr hk))
  · cases hnext

/-- An attach adds its client, and records it when the workspace is gone. -/
theorem Accounted.attachLock {s s' : LifetimeState P G} {task now : Nat} {proc : ProcFs}
    (h : s.Accounted)
    (hnext : s.next (.attachLock task now proc) = some s') :
    s'.Accounted := by
  simp only [LifetimeState.next] at hnext
  split at hnext
  · rename_i c id mode ht
    cases hw : s.heldWorkspace id with
    | none => simp [hw] at hnext
    | some w =>
        have hobject := heldWorkspace_eq_some hw
        simp only [hw] at hnext
        split at hnext
        · rename_i w' hres
          rw [← Option.some.inj hnext]
          refine h.evolves (Evolves.of_put hobject rfl rfl (fun _ ha => ha) ?_) h.spawned h.answers
          intro _
          refine ⟨?_, ?_⟩
          · intro p hp
            rw [Workspace.handleV3Attach_none hres, Workspace.attachClient_panes] at hp
            exact hp
          · intro k hk
            rw [Workspace.clientRole, Workspace.clients_of_refused hres] at hk
            exact Or.inl hk
        · rename_i reply w' hres
          rw [← Option.some.inj hnext]
          have hattached := Workspace.handleV3Attach_some hres
          refine h.evolves (Evolves.of_put hobject rfl rfl
            (fun _ ha => List.mem_append_left _ ha) ?_) h.spawned h.answers
          intro hgone
          refine ⟨?_, ?_⟩
          · intro p hp
            rw [← AList.lookup_isSome, hattached.panes p, Option.isSome_map] at hp
            exact AList.lookup_isSome.mp hp
          · intro k hk
            by_cases hsame : k = c
            · refine Or.inr (List.mem_append_right _ ?_)
              simp [hsame, hgone]
            · rw [Workspace.clientRole, hattached.clients] at hk
              exact Or.inl (Workspace.clientRole_attachClient_of_ne hsame hk)
  · cases hnext

/-- **Step lemma.** -/
theorem Accounted.next {s s' : LifetimeState P G} {a : LifetimeStep P G}
    (h : s.Accounted)
    (hok : s.unhindered a = true)
    (hnext : s.next a = some s') :
    s'.Accounted := by
  cases a with
  | background a =>
      simp only [LifetimeState.next, Option.ite_none_right_eq_some] at hnext
      obtain ⟨⟨hback, _⟩, hnext⟩ := hnext
      obtain ⟨base, hbase, rfl⟩ := Option.map_eq_some_iff.mp hnext
      have hkeeps := OverflowState.next_background hback hbase
      refine h.evolves (Evolves.of_keeps hkeeps rfl rfl) ?_ h.answers
      intro p hp
      rw [hkeeps.killSenders, hkeeps.killed]
      exact h.spawned p hp
  | attachFind task clientId runtimeId mode =>
      simp only [LifetimeState.next, Option.ite_none_right_eq_some, Option.some.injEq] at hnext
      obtain ⟨_, rfl⟩ := hnext
      exact ⟨h.registered, h.signals, h.clients, h.spawned, h.answers⟩
  | attachLock task now proc => exact h.attachLock hnext
  | takeover order clientId runtimeId now =>
      simp only [LifetimeState.next, Option.ite_none_right_eq_some] at hnext
      obtain ⟨_, hnext⟩ := hnext
      cases hw : s.openWorkspace runtimeId with
      | none => simp [hw] at hnext
      | some w =>
          simp only [hw] at hnext
          split at hnext
          · rename_i previous role revision w' hwriter hres
            rw [← Option.some.inj hnext]
            have hput := h.putRegistered hw w'
            have hkeeps := ServerState.Keeps.of_channelsOnly
              ((s.putWorkspace runtimeId w').base.server.broadcastToClients_frame order
                [previous] none (.leaseLost runtimeId revision clientId))
              ((s.putWorkspace runtimeId w').base.server.logsGrow_broadcast order
                [previous] none (.leaseLost runtimeId revision clientId))
            refine hput.evolves (Evolves.of_keeps hkeeps rfl rfl) ?_ h.answers
            intro p hp
            change p ∈ (ServerState.broadcastToClients _ _ _ _ _).ptyKillSenders ∨
              p ∈ (ServerState.broadcastToClients _ _ _ _ _).killed ∨ _
            rw [hkeeps.killSenders, hkeeps.killed]
            exact h.spawned p hp
          · rw [← Option.some.inj hnext]
            exact h.putRegistered hw _
  | detachFind task clientId runtimeId =>
      simp only [LifetimeState.next, Option.ite_none_right_eq_some, Option.some.injEq] at hnext
      obtain ⟨_, rfl⟩ := hnext
      exact ⟨h.registered, h.signals, h.clients, h.spawned, h.answers⟩
  | detachLock task =>
      simp only [LifetimeState.next] at hnext
      split at hnext
      · rename_i clientId runtimeId ht
        cases hw : s.heldWorkspace runtimeId with
        | none => simp [hw] at hnext
        | some w =>
            have hobject := heldWorkspace_eq_some hw
            simp only [hw] at hnext
            rcases hres : w.detachClient clientId .explicitRequest with ⟨outcome, w'⟩
            have hevolves : ∀ s' : LifetimeState P G, s'.base.server =
                { s.base.server with objects := s.base.server.objects.insert runtimeId w' } →
                s'.answers = s.answers → s'.admitted = s.admitted → s.Evolves s' := by
              intro s' hserver hanswers hadmitted
              have hput : s'.base.server = { s.base.server with
                  objects := s.base.server.objects.insert runtimeId
                    (w.detachClient clientId .explicitRequest).2 } := by
                rw [hserver, hres]
              exact evolves_detach hobject hput hanswers hadmitted
            rw [hres] at hnext
            split at hnext
            · rename_i rev reason w'' heq
              rw [Prod.mk.injEq] at heq
              obtain ⟨_, rfl⟩ := heq
              rw [← Option.some.inj hnext]
              exact h.evolves (hevolves _ rfl rfl rfl) h.spawned h.answers
            · rename_i w'' _ heq
              rw [Prod.mk.injEq] at heq
              obtain ⟨_, rfl⟩ := heq
              rw [← Option.some.inj hnext]
              exact h.evolves (hevolves _ rfl rfl rfl) h.spawned h.answers
      · cases hnext
  | terminateCheck task clientId runtimeId =>
      simp only [LifetimeState.next, Option.ite_none_right_eq_some] at hnext
      obtain ⟨_, hnext⟩ := hnext
      cases hw : s.openWorkspace runtimeId with
      | none => simp [hw] at hnext
      | some w =>
          simp only [hw] at hnext
          split at hnext
          · rw [← Option.some.inj hnext]
            exact h
          · rw [← Option.some.inj hnext]
            exact ⟨h.registered, h.signals, h.clients, h.spawned, h.answers⟩
  | terminateRun task order => exact h.terminateRun hok hnext
  | departFind task clientId =>
      simp only [LifetimeState.next, Option.ite_none_right_eq_some] at hnext
      obtain ⟨_, hnext⟩ := hnext
      obtain ⟨base, hbase, rfl⟩ := Option.map_eq_some_iff.mp hnext
      have hkeeps := OverflowState.next_background rfl hbase
      refine h.evolves (Evolves.of_keeps hkeeps rfl rfl) ?_ h.answers
      intro p hp
      change p ∈ base.server.ptyKillSenders ∨ p ∈ base.server.killed ∨ _
      rw [hkeeps.killSenders, hkeeps.killed]
      exact h.spawned p hp
  | departLock task =>
      simp only [LifetimeState.next] at hnext
      split at hnext
      · rename_i clientId runtimeId rest ht
        obtain ⟨w, hw, rfl⟩ := Option.map_eq_some_iff.mp hnext
        exact h.evolves (evolves_detach (heldWorkspace_eq_some hw) rfl rfl rfl) h.spawned h.answers
      · rw [← Option.some.inj hnext]
        exact ⟨h.registered, h.signals, h.clients, h.spawned, h.answers⟩
      · cases hnext
  | openPane runtimeId pane split size =>
      simp only [LifetimeState.next, Option.ite_none_right_eq_some] at hnext
      obtain ⟨⟨_, hminted⟩, hnext⟩ := hnext
      obtain ⟨w, hw, hnext⟩ := Option.bind_eq_some_iff.mp hnext
      obtain ⟨w', _, rfl⟩ := Option.map_eq_some_iff.mp hnext
      refine (h.putRegistered hw w').startPty (openWorkspace_eq_some hw).1 ?_ size
      intro k old hold hne
      exact not_mem_of_minted hminted ((AList.lookup_insert_ne hne).symm.trans hold) hne
  | closePane runtimeId paneId =>
      simp only [LifetimeState.next, Option.ite_none_right_eq_some] at hnext
      obtain ⟨_, hnext⟩ := hnext
      obtain ⟨w, hw, rfl⟩ := Option.map_eq_some_iff.mp hnext
      have hput := h.putRegistered hw (w.removePane paneId).2
      split
      · refine hput.dropSender rfl rfl rfl rfl rfl ?_ ?_
        · intro q hq
          exact (List.mem_filter.mp hq).1
        · intro q hq
          rcases hput.spawned q hq with hsender | hkilled | hexited
          · by_cases hsame : q = paneId
            · subst hsame
              refine Or.inr (Or.inl ?_)
              simp [withServer, ServerState.killPane, hsender]
            · refine Or.inl ?_
              simp [withServer, ServerState.killPane, hsender, hsame]
          · refine Or.inr (Or.inl ?_)
            simp only [withServer, ServerState.killPane]
            split
            · exact List.mem_append_left _ hkilled
            · exact hkilled
          · exact Or.inr (Or.inr hexited)
      · exact hput
  | reconstruct runtimeId paneId size =>
      simp only [LifetimeState.next, Option.ite_none_right_eq_some] at hnext
      obtain ⟨⟨_, hminted⟩, hnext⟩ := hnext
      obtain ⟨w, hw, rfl⟩ := Option.map_eq_some_iff.mp hnext
      exact h.startPty (openWorkspace_eq_some hw).1
        (fun k old hold hne => not_mem_of_minted hminted hold hne) size
  | ptyExits paneId =>
      simp only [LifetimeState.next, Option.ite_none_right_eq_some, Option.some.injEq] at hnext
      obtain ⟨_, rfl⟩ := hnext
      refine h.dropSender rfl rfl rfl rfl rfl ?_ ?_
      · intro q hq
        exact (List.mem_filter.mp hq).1
      · intro q hq
        rcases h.spawned q hq with hsender | hkilled | hexited
        · by_cases hsame : q = paneId
          · exact Or.inr (Or.inr (by simp [hsame]))
          · refine Or.inl ?_
            simp [withServer, hsender, hsame]
        · exact Or.inr (Or.inl hkilled)
        · exact Or.inr (Or.inr (List.mem_cons_of_mem _ hexited))

/-- **A terminated answer is true**, in unhindered runs. -/
theorem answers_true {s : LifetimeState P G}
    (h : (system P G).ReachableUnder (fun s a => s.unhindered a = true) s) :
    s.AnswersTrue := by
  refine (h.invariant (I := Accounted) ?_
    (fun _ _ _ hI hok hnext => hI.next hok hnext)).answers
  rintro s rfl
  exact ⟨by simp [start, OverflowState.start], by simp [start, OverflowState.start],
    by simp [start, OverflowState.start], by simp [start], by simp [start]⟩

end Runs

section Answers

/-- The owner's workspace with a visitor and a pane. -/
def shared : List (LifetimeStep SampleParser SampleGrid) :=
  opened ++ [.attachFind 1 visitorId workId .readOnly, .attachLock 1 0 idleProc,
    .openPane workId (Pane.new 3 80 24) none ⟨80, 24⟩]

/-- The owner terminates it. -/
def ownerTerminates : List (LifetimeStep SampleParser SampleGrid) :=
  shared ++ [.terminateCheck 0 ownerId workId, .terminateRun 0 [workId]]

/-- The theorem at the end of that run: the pane was signalled, the visitor was
told, and the owner was answered. -/
theorem answers_true_ownerTerminates :
    ∃ s : LifetimeState SampleParser SampleGrid,
      s.base.server.killed = [3] ∧ s.told visitorId workId = true ∧
        s.answers.map TerminatedAnswer.clientId = [ownerId] ∧ s.AnswersTrue := by
  obtain ⟨s, hreach, hkilled, htold, hanswers⟩ := System.exists_reachableUnder
    (S := system SampleParser SampleGrid) unhindered ownerTerminates
    (p := fun s => s.base.server.killed = [3] ∧ s.told visitorId workId = true ∧
      s.answers.map TerminatedAnswer.clientId = [ownerId]) rfl (by decide +kernel)
  exact ⟨s, hkilled, htold, hanswers, answers_true hreach⟩

/-- Another task takes the workspace's lock between the check and the removal. -/
def contended : List (LifetimeStep SampleParser SampleGrid) :=
  shared ++ [.terminateCheck 0 ownerId workId, .background (.lock workId),
    .terminateRun 0 [workId], .background (.unlock workId)]

/-- A third client terminates the workspace while the owner's detach has decided
its end, and a visitor that found it before attaches itself afterwards. -/
def overtaken : List (LifetimeStep SampleParser SampleGrid) :=
  opened ++ [.attachFind 1 visitorId workId .readOnly, .detachFind 0 ownerId workId,
    .detachLock 0, .terminateCheck 2 5 workId, .terminateRun 2 [workId],
    .attachLock 1 0 idleProc, .terminateRun 0 [workId]]

/-- **Two false answers.** The owner is answered that the workspace is
terminated while it is registered, its pane is alive and the visitor was told
nothing; and an answer is given while an attached client was not told. -/
theorem answer_false :
    (∃ s : LifetimeState SampleParser SampleGrid, (system _ _).Reachable s ∧
        ⟨ownerId, workId, false⟩ ∈ s.answers ∧ workId ∈ s.base.server.workspaces ∧
        s.base.server.killed = [] ∧ s.told visitorId workId = false ∧ ¬ s.AnswersTrue) ∧
      ∃ s : LifetimeState SampleParser SampleGrid, (system _ _).Reachable s ∧
        ⟨ownerId, workId, false⟩ ∈ s.answers ∧ workId ∉ s.base.server.workspaces ∧
        s.told visitorId workId = false ∧ ¬ s.AnswersTrue := by
  have hfalse : ∀ s : LifetimeState SampleParser SampleGrid,
      ⟨ownerId, workId, false⟩ ∈ s.answers → ¬ s.AnswersTrue := by
    intro s hmem hall
    cases hall _ hmem
  constructor
  · obtain ⟨s, hreach, hmem, hregistered, hkilled, huntold⟩ := System.exists_reachable
      (S := system SampleParser SampleGrid) contended
      (p := fun s => ⟨ownerId, workId, false⟩ ∈ s.answers ∧ workId ∈ s.base.server.workspaces ∧
        s.base.server.killed = [] ∧ s.told visitorId workId = false) rfl (by decide +kernel)
    exact ⟨s, hreach, hmem, hregistered, hkilled, huntold, hfalse s hmem⟩
  · obtain ⟨s, hreach, hmem, hgone, huntold⟩ := System.exists_reachable
      (S := system SampleParser SampleGrid) overtaken
      (p := fun s => ⟨ownerId, workId, false⟩ ∈ s.answers ∧ workId ∉ s.base.server.workspaces ∧
        s.told visitorId workId = false) rfl (by decide +kernel)
    exact ⟨s, hreach, hmem, hgone, huntold, hfalse s hmem⟩

end Answers

end LifetimeState

end Server
end Rttx
