import Rttx.Server.PaneStructure
import Rttx.Server.PushOverflow
import Rttx.Server.WriteLease

/-!
# The daemon's other tasks

The handlers that attach, detach and terminate share the daemon with tasks that
connect clients, deliver messages, broadcast, feed output, and change panes.
None of these removes a workspace, changes who is attached to one, or signals a
pane.

**Results.**
* `sameMembers_apply`: operations that keep the clients and the set of panes.
* `next_background`: what the steps of the other tasks leave alone.
-/

namespace Rttx
namespace Server

open Kernel

universe u v

section Background

variable {P : Type u} {G : Type v}

/-- Whether an operation leaves the clients of a workspace and its set of panes. -/
def WorkspaceOp.keepsMembers : WorkspaceOp P G → Bool
  | .addPane _ => false
  | .splitPane _ _ _ _ => false
  | .removePane _ => false
  | .attachClient _ _ _ => false
  | .detachClient _ _ => false
  | _ => true

namespace OverflowStep

/-- The steps that need the server lock. -/
def takesServerLock : OverflowStep P G → Bool
  | .connect _ _ => true
  | .cleanup _ => true
  | .create _ _ => true
  | .collect _ _ => true
  | .handleOverflows _ => true
  | .broadcast _ _ _ _ => true
  | .terminate _ _ _ _ _ => true
  | _ => false

/-- The steps that belong to no handler of this file. -/
def isBackground : OverflowStep P G → Bool
  | .change _ op => op.keepsMembers
  | .terminate _ _ _ _ _ => false
  | _ => true

end OverflowStep

end Background

namespace Workspace

section Members

variable {P : Type u} {G : Type v}

/-- The clients are the same, and so is the set of panes. -/
structure SameMembers (w w' : Workspace P G) : Prop where
  clients : w'.attachedClients = w.attachedClients
  panes : ∀ p, p ∈ w'.panes ↔ p ∈ w.panes

theorem SameMembers.refl (w : Workspace P G) : w.SameMembers w :=
  ⟨rfl, fun _ => Iff.rfl⟩

variable [VteParser P] [Vt100Parser G]

/-- An operation of the background changes neither clients nor the set of panes. -/
theorem sameMembers_apply {w : Workspace P G} {op : WorkspaceOp P G}
    (h : op.keepsMembers = true) :
    w.SameMembers (w.apply op) := by
  cases op with
  | addPane pane => cases h
  | splitPane target pane axis ratio => cases h
  | removePane paneId => cases h
  | attachClient clientId mode now => cases h
  | detachClient clientId reason => cases h
  | resizeSplit path ratio =>
      refine ⟨(resizeSplit_effect w path ratio).clients, ?_⟩
      rcases resizeSplit_cases w path ratio with hres | ⟨_, hres⟩
      · simp [apply, hres]
      · simp [apply, hres]
  | setDefaultActivePane paneId =>
      refine ⟨(setDefaultActivePane_effect w paneId).clients, ?_⟩
      rcases setDefaultActivePane_cases w paneId with hres | ⟨_, _, hres⟩
      · simp [apply, hres]
      · simp [apply, hres]
  | setAutoName name =>
      exact ⟨(setAutoName_effect w name).clients, (setAutoName_effect w name).sameStructure.keys⟩
  | refreshAutoName proc =>
      exact ⟨refreshAutoName_clients w proc, (refreshAutoName_frame w proc).keys⟩
  | rename name => exact ⟨(rename_effect w name).clients, (rename_effect w name).sameStructure.keys⟩
  | resizePane paneId cols rows =>
      exact ⟨(updatePane_effect w paneId _ _).clients, (updatePane_frame w paneId _ _).keys⟩
  | setPaneTitle paneId title =>
      exact ⟨(updatePane_effect w paneId _ _).clients, (updatePane_frame w paneId _ _).keys⟩
  | setPaneNoPersist paneId noPersist =>
      exact ⟨(updatePane_effect w paneId _ _).clients, (updatePane_frame w paneId _ _).keys⟩
  | setPaneExitStatus paneId status =>
      exact ⟨(updatePane_effect w paneId _ _).clients, (updatePane_frame w paneId _ _).keys⟩
  | takeOutput paneId raw =>
      exact ⟨takeOutput_clients w paneId raw, (takeOutput_frame w paneId raw).keys⟩
  | returnOutput paneId screen proc =>
      exact ⟨(returnOutput_effect w paneId screen proc).clients,
        (returnOutput_frame w paneId screen proc).keys⟩
  | markPersisted => exact ⟨rfl, fun _ => Iff.rfl⟩

/-- A refused attach changes nobody's role. -/
theorem clients_of_refused {w w' : Workspace P G} {clientId : Uuid} {mode : AttachMode}
    {now : Nat} {proc : ProcFs}
    (h : w.handleV3Attach clientId mode now proc = (none, w')) :
    w'.attachedClients = w.attachedClients := by
  rw [handleV3Attach_none h]
  refine (attachClient_refused ?_).1
  rcases hattach : w.attachClient clientId mode now with ⟨error | ⟨role, rev⟩ | ⟨role, rev⟩, wa⟩
  · cases error
    exact Or.inr rfl
  · simp [handleV3Attach, hattach] at h
  · exact Or.inl ⟨role, rev, rfl⟩

omit [VteParser P] [Vt100Parser G] in
theorem clientRole_of_nobody {w : Workspace P G}
    (h : w.attachedClients.keys = [])
    (c : Uuid) :
    w.clientRole c = none := by
  refine AList.lookup_eq_none.mpr ?_
  rw [AList.mem_keys, h]
  exact List.not_mem_nil

omit [VteParser P] [Vt100Parser G] in
/-- A workspace that nobody is attached to cannot be taken over. -/
theorem takeOver_of_nobody {w : Workspace P G}
    (h : w.attachedClients.keys = [])
    (clientId : Uuid)
    (now : Nat) :
    (w.attachClient clientId .takeOver now).2.attachedClients.keys = [] := by
  rcases attachClient_takeOver_cases w clientId now with hres | ⟨previous, hwriter, _, _⟩
  · rw [hres]
    exact h
  · have hrole := clientRole_of_writerClientId hwriter
    rw [clientRole_of_nobody h] at hrole
    cases hrole

omit [VteParser P] [Vt100Parser G] in
theorem detach_of_nobody {w : Workspace P G}
    (h : w.attachedClients.keys = [])
    (clientId : Uuid)
    (reason : DetachReason) :
    (w.detachClient clientId reason).2.attachedClients.keys = [] := by
  rcases detachClient_cases w clientId reason with ⟨_, hres⟩ | ⟨hsome, _⟩
  · rw [hres]
    exact h
  · rw [clientRole_of_nobody h] at hsome
    cases hsome

omit [VteParser P] [Vt100Parser G] in
/-- A detach that ends the workspace leaves nobody attached. -/
theorem detach_terminated {w w' : Workspace P G} {clientId : Uuid} {reason : DetachReason}
    {rev : Nat} {why : TerminationReason}
    (h : w.detachClient clientId reason = (.terminated rev why, w')) :
    w'.attachedClients.keys = [] := by
  unfold detachClient at h
  split at h
  · cases h
  · simp only at h
    split at h
    · rename_i hlast
      rw [← (Prod.mk.inj h).2]
      exact (List.map_eq_nil_iff.mpr hlast.2.2)
    · cases h

end Members

end Workspace

namespace ServerState

section Keeping

variable {P : Type u} {G : Type v}

/-- What the steps of the background leave alone. -/
structure Keeps (s s' : ServerState P G) : Prop where
  registered : ∀ id ∈ s.workspaces, id ∈ s'.workspaces
  objects : ∀ id w, s.objects.lookup id = some w →
    ∃ w', s'.objects.lookup id = some w' ∧ w.SameMembers w'
  created : ∀ id w', s'.objects.lookup id = some w' → s.objects.lookup id = none →
    id ∈ s'.workspaces
  fresh : ∀ id ∈ s'.workspaces, id ∉ s.workspaces →
    s.objects.lookup id = none ∧ (s'.objects.lookup id).isSome = true
  killSenders : s'.ptyKillSenders = s.ptyKillSenders
  killed : s'.killed = s.killed
  logs : s.LogsGrow s'

/-- The workspaces and the signals are the same. -/
theorem Keeps.of_eq {s s' : ServerState P G}
    (hworkspaces : s'.workspaces = s.workspaces)
    (hobjects : s'.objects = s.objects)
    (hsenders : s'.ptyKillSenders = s.ptyKillSenders)
    (hkilled : s'.killed = s.killed)
    (hlogs : s.LogsGrow s') :
    s.Keeps s' where
  registered := by
    intro id hid
    rw [hworkspaces]
    exact hid
  objects := by
    intro id w hw
    exact ⟨w, by rw [hobjects, hw], Workspace.SameMembers.refl w⟩
  created := by
    intro id w' hw' hnone
    rw [hobjects, hnone] at hw'
    cases hw'
  fresh := by
    intro id hid hnot
    rw [hworkspaces] at hid
    exact absurd hid hnot
  killSenders := hsenders
  killed := hkilled
  logs := hlogs

theorem Keeps.of_channelsOnly {s s' : ServerState P G}
    (h : s.ChannelsOnly s')
    (hlogs : s.LogsGrow s') :
    s.Keeps s' := by
  obtain ⟨_, _, rfl⟩ := h
  exact Keeps.of_eq rfl rfl rfl rfl hlogs

theorem handlePushOverflows_frame (ids : List Uuid) (id : Uuid) (s : ServerState P G) :
    s.ChannelsOnly (s.handlePushOverflows ids id) := by
  unfold handlePushOverflows
  induction ids generalizing s with
  | nil => exact ChannelsOnly.refl s
  | cons c rest ih => exact (handleSinglePushOverflowForWorkspace_frame s c id).trans (ih _)

end Keeping

end ServerState

namespace OverflowState

section Background

variable {P : Type u} {G : Type v}

/-- A change of one connection's channels. -/
theorem withChannel_keeps {s s' : OverflowState P G} {c : Uuid}
    {f : ClientChannel → Option ClientChannel}
    (hstep : s.withChannel c f = some s')
    (hlog : ∀ ch ch', f ch = some ch' → ∀ e ∈ ch.log, e ∈ ch'.log) :
    s.server.Keeps s'.server := by
  unfold withChannel at hstep
  cases hch : s.server.channels.lookup c with
  | none => simp [hch] at hstep
  | some ch =>
      rw [hch, Option.bind_some] at hstep
      cases hf : f ch with
      | none => simp [hf] at hstep
      | some ch' =>
          rw [hf, Option.some.injEq] at hstep
          subst hstep
          exact ServerState.Keeps.of_eq rfl rfl rfl rfl
            (ServerState.LogsGrow.of_insert hch rfl (hlog ch ch' hf))

variable [VteParser P] [Vt100Parser G]

/-- A step of the background leaves the registered workspaces, who is attached
to them, their panes and the kill signals alone. -/
theorem next_background {s s' : OverflowState P G} {a : OverflowStep P G}
    (hback : a.isBackground = true)
    (hnext : s.next a = some s') :
    s.server.Keeps s'.server := by
  cases a with
  | connect clientId caps =>
      simp only [next, Option.ite_none_left_eq_some, Option.some.injEq] at hnext
      obtain ⟨hnew, rfl⟩ := hnext
      refine ServerState.Keeps.of_eq rfl rfl rfl rfl ?_
      intro c ch hch
      have hne : c ≠ clientId := by
        rintro rfl
        simp [hch] at hnew
      exact ⟨ch, (AList.lookup_insert_ne hne).trans hch, fun _ he => he⟩
  | readerReturns clientId =>
      refine withChannel_keeps hnext ?_
      intro ch ch' hch e he
      rw [← Option.some.inj hch]
      exact List.mem_append_left _ he
  | writerExits clientId =>
      refine withChannel_keeps hnext ?_
      intro ch ch' hch e he
      rw [← Option.some.inj hch]
      exact List.mem_append_left _ he
  | cleanup clientId =>
      simp only [next, Option.ite_none_right_eq_some, Option.some.injEq] at hnext
      obtain ⟨_, rfl⟩ := hnext
      exact ServerState.Keeps.of_eq rfl rfl rfl rfl (ServerState.LogsGrow.of_channels rfl)
  | deliver clientId =>
      refine withChannel_keeps hnext ?_
      intro ch ch' hch e he
      obtain ⟨⟨env, ch₁⟩, hdeliver, rfl⟩ := Option.map_eq_some_iff.mp hch
      rw [ch.log_deliver hdeliver]
      exact he
  | respond clientId env =>
      simp only [next, Option.ite_none_left_eq_some] at hnext
      refine withChannel_keeps hnext.2 ?_
      intro ch ch' hch e he
      have hgrow := ch.log_trySendResp env e he
      split at hch
      · rename_i ch₁ hres
        rw [hres] at hgrow
        rw [← Option.some.inj hch]
        exact hgrow
      · cases hch
  | create runtimeId w =>
      simp only [next, Option.ite_none_left_eq_some, Option.some.injEq] at hnext
      obtain ⟨hnew, rfl⟩ := hnext
      have hnone : s.server.objects.lookup runtimeId = none := by simpa using hnew
      refine ⟨fun _ hid => List.mem_cons_of_mem _ hid, ?_, ?_, ?_, rfl, rfl,
        ServerState.LogsGrow.of_channels rfl⟩
      · intro id old hold
        have hne : id ≠ runtimeId := by
          rintro rfl
          rw [hnone] at hold
          cases hold
        exact ⟨old, (AList.lookup_insert_ne hne).trans hold, Workspace.SameMembers.refl old⟩
      · intro id w' hw' hold
        rcases HashMap.lookup_insert_cases hw' with ⟨rfl, _⟩ | ⟨_, hsome⟩
        · exact List.mem_cons_self
        · rw [hold] at hsome
          cases hsome
      · intro id hid hnot
        rcases List.mem_cons.mp hid with rfl | hin
        · exact ⟨hnone, by simp⟩
        · exact absurd hin hnot
  | change runtimeId op =>
      simp only [next, Option.ite_none_left_eq_some, Option.some.injEq] at hnext
      obtain ⟨_, rfl⟩ := hnext
      refine ⟨fun _ hid => hid, ?_, ?_, fun _ hid hnot => absurd hid hnot, rfl, rfl,
        ServerState.LogsGrow.of_channels rfl⟩
      · intro id w hw
        simp only [HashMap.lookup_modify, hw, Option.map_some]
        by_cases hsame : id = runtimeId
        · exact ⟨w.apply op, if_pos hsame, Workspace.sameMembers_apply hback⟩
        · exact ⟨w, if_neg hsame, Workspace.SameMembers.refl w⟩
      · intro id w' hw' hnone
        simp [HashMap.lookup_modify, hnone] at hw'
  | lock runtimeId =>
      simp only [next, Option.ite_none_left_eq_some, Option.some.injEq] at hnext
      obtain ⟨_, rfl⟩ := hnext
      exact ServerState.Keeps.of_eq rfl rfl rfl rfl (ServerState.LogsGrow.of_channels rfl)
  | unlock runtimeId =>
      simp only [next, Option.some.injEq] at hnext
      subst hnext
      exact ServerState.Keeps.of_eq rfl rfl rfl rfl (ServerState.LogsGrow.of_channels rfl)
  | collect task runtimeId =>
      simp only [next, Option.ite_none_left_eq_some] at hnext
      obtain ⟨_, hnext⟩ := hnext
      split at hnext
      · cases hnext
      · rw [← Option.some.inj hnext]
        exact ServerState.Keeps.of_eq rfl rfl rfl rfl (ServerState.LogsGrow.of_channels rfl)
  | send task clientId msg =>
      simp only [next] at hnext
      have hkeeps := ServerState.Keeps.of_channelsOnly (s.server.sendPush_frame clientId msg)
        (s.server.logsGrow_sendPush clientId msg)
      split at hnext
      · cases hnext
      · split at hnext
        · split at hnext
          · rename_i server hres
            rw [hres] at hkeeps
            rw [← Option.some.inj hnext]
            exact hkeeps
          · rename_i server _ hres
            rw [hres] at hkeeps
            rw [← Option.some.inj hnext]
            exact hkeeps
        · cases hnext
  | handleOverflows task =>
      simp only [next] at hnext
      split at hnext
      · cases hnext
      · rw [← Option.some.inj hnext]
        exact ServerState.Keeps.of_channelsOnly (ServerState.handlePushOverflows_frame _ _ _)
          (ServerState.logsGrow_foldl (fun s c => s.logsGrow_notice c _) _ _)
  | broadcast order clientIds exclude msg =>
      simp only [next, Option.ite_none_right_eq_some, Option.some.injEq] at hnext
      obtain ⟨_, rfl⟩ := hnext
      exact ServerState.Keeps.of_channelsOnly (s.server.broadcastToClients_frame _ _ _ _)
        (s.server.logsGrow_broadcast _ _ _ _)
  | terminate order runtimeId finalRevision reason exclude => cases hback
  | exitPush clientId msg =>
      simp only [next, Option.some.injEq] at hnext
      subst hnext
      exact ServerState.Keeps.of_channelsOnly (s.server.sendPush_frame clientId msg)
        (s.server.logsGrow_sendPush clientId msg)

end Background

end OverflowState

end Server
end Rttx
