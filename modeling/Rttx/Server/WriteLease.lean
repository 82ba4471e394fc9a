import Rttx.Server.SampleTerminal
import Rttx.Server.WorkspaceOp

/-!
# The write lease

At most one client is the writer of a workspace.  Attaching, re-attaching under
another mode, taking over and detaching move the role; nothing else touches
the attached clients.

**Results.**
* `SingleWriter.apply`: every operation keeps the single writer.
* `write_lease`: the lease in every reachable workspace, with the effect of a
  refused attach, of a takeover, and the revision bump of every change.
-/

namespace Rttx
namespace Server

open Kernel

universe u v

namespace Workspace

section Roles

variable {P : Type u} {G : Type v}

/-- At most one attached client has the writer role. -/
def SingleWriter (w : Workspace P G) : Prop :=
  ∀ a b, w.clientRole a = some .writer → w.clientRole b = some .writer → a = b

/-- The lease depends on the attached clients only. -/
theorem SingleWriter.of_clients {w w' : Workspace P G}
    (h : w.SingleWriter)
    (hsame : w'.attachedClients = w.attachedClients) :
    w'.SingleWriter := by
  intro a b ha hb
  simp only [clientRole, hsame] at ha hb
  exact h a b ha hb

/-- Under a single writer the search finds the one there is. -/
theorem SingleWriter.writerClientId_eq {w : Workspace P G}
    (h : w.SingleWriter)
    {c : Uuid}
    (hc : w.clientRole c = some .writer) :
    w.writerClientId = some c := by
  cases hw : w.writerClientId with
  | none => exact absurd hc (clientRole_ne_writer hw c)
  | some d => rw [h d c (clientRole_of_writerClientId hw) hc]

/-- Recording a role bumps the revision exactly when the role is new. -/
theorem insertClient_revision (w : Workspace P G) (c : Uuid) (role : ClientRole) :
    (w.insertClient c role).revision =
      if w.clientRole c = some role then w.revision else saturatingAdd w.revision 1 := by
  by_cases hc : w.clientRole c = some role
  · have hlook : w.attachedClients.lookup c = some role := hc
    simp [insertClient, hlook, hc]
  · have hlook : ¬ w.attachedClients.lookup c = some role := hc
    simp [insertClient, hlook, hc]

/-- A reader joins, or the writer steps back to reader. -/
theorem SingleWriter.insertReader {w : Workspace P G}
    (h : w.SingleWriter)
    (c : Uuid) :
    (w.insertClient c .reader).SingleWriter := by
  intro a b ha hb
  rw [clientRole_insertClient] at ha hb
  by_cases hac : a = c
  · simp [hac] at ha
  · by_cases hbc : b = c
    · simp [hbc] at hb
    · simp only [hac, hbc, if_false] at ha hb
      exact h a b ha hb

/-- A client may become the writer when nobody else is. -/
theorem SingleWriter.insertWriter {w : Workspace P G} {c : Uuid}
    (hothers : ∀ k, w.clientRole k = some .writer → k = c) :
    (w.insertClient c .writer).SingleWriter := by
  have honly : ∀ k, (w.insertClient c .writer).clientRole k = some .writer → k = c := by
    intro k hk
    rw [clientRole_insertClient] at hk
    by_cases hkc : k = c
    · exact hkc
    · simp only [hkc, if_false] at hk
      exact hothers k hk
  intro a b ha hb
  rw [honly a ha, honly b hb]

theorem SingleWriter.attachClient {w : Workspace P G}
    (h : w.SingleWriter)
    (c : Uuid)
    (mode : AttachMode)
    (now : Nat) :
    (w.attachClient c mode now).2.SingleWriter := by
  have htouch : ({ w with lastActiveAt := now } : Workspace P G).SingleWriter :=
    h.of_clients rfl
  cases mode with
  | readOnly => exact htouch.insertReader c
  | readWrite =>
      rcases attachClient_readWrite_cases w c now with ⟨_, _, _, hres⟩ | ⟨hfree, hres⟩
      · rw [hres]
        exact htouch
      · rw [hres]
        refine SingleWriter.insertWriter ?_
        intro k hk
        exact hfree k (h.writerClientId_eq hk)
  | takeOver =>
      rcases attachClient_takeOver_cases w c now with hres | ⟨previous, hprev, hne, hres⟩
      · rw [hres]
        exact htouch
      · rw [hres]
        have honly : ∀ k, (({ w with
            lastActiveAt := now
            attachedClients := (w.attachedClients.insert previous .reader).insert c .writer }
            : Workspace P G).bumpRevision).clientRole k = some .writer → k = c := by
          intro k hk
          rw [clientRole_takeOver] at hk
          by_cases hkc : k = c
          · exact hkc
          · by_cases hkp : k = previous
            · rw [if_neg hkc, if_pos hkp] at hk
              simp at hk
            · simp only [hkc, hkp, if_false] at hk
              exact absurd (h k previous hk (clientRole_of_writerClientId hprev)) hkp
        intro a b ha hb
        rw [honly a ha, honly b hb]

theorem SingleWriter.detachClient {w : Workspace P G}
    (h : w.SingleWriter)
    (c : Uuid)
    (reason : DetachReason) :
    (w.detachClient c reason).2.SingleWriter := by
  rcases detachClient_cases w c reason with ⟨_, hres⟩ | ⟨_, hres⟩
  · rw [hres]
    exact h
  · have hwas : ∀ k, (w.detachClient c reason).2.clientRole k = some .writer →
        w.clientRole k = some .writer := by
      intro k hk
      rw [hres, clientRole, bumpRevision_attachedClients] at hk
      exact (HashMap.lookup_erase_cases hk).2
    intro a b ha hb
    exact h a b (hwas a ha) (hwas b hb)

end Roles

section OtherOperations

variable {P : Type u} {G : Type v}

theorem ChangesStructure.clients {w w' : Workspace P G}
    (h : w.ChangesStructure w') :
    w'.attachedClients = w.attachedClients := by
  obtain ⟨_, _, _, _, rfl⟩ := h
  rfl

theorem ChangesName.clients {w w' : Workspace P G}
    (h : w.ChangesName w') :
    w'.attachedClients = w.attachedClients := by
  obtain ⟨_, _, _, rfl⟩ := h
  rfl

theorem ChangesPanes.clients {w w' : Workspace P G}
    (h : w.ChangesPanes w') :
    w'.attachedClients = w.attachedClients := by
  obtain ⟨_, _, _, rfl⟩ := h
  rfl

theorem refreshAutoName_clients (w : Workspace P G) (proc : ProcFs) :
    (w.refreshAutoName proc).2.attachedClients = w.attachedClients := by
  obtain ⟨_, _, hres⟩ := refreshAutoName_effect w proc
  rw [hres]

variable [VteParser P] [Vt100Parser G]

theorem takeOutput_clients (w : Workspace P G) (paneId : Uuid) (raw : Bytes) :
    (w.takeOutput paneId raw).2.attachedClients = w.attachedClients := by
  obtain ⟨_, hres⟩ := takeOutput_effect w paneId raw
  rw [hres]

end OtherOperations

section Runs

variable {P : Type u} {G : Type v}
variable [VteParser P] [Vt100Parser G]

/-- **Step lemma.** Every operation keeps the single writer. -/
theorem SingleWriter.apply {w : Workspace P G}
    (h : w.SingleWriter)
    (op : WorkspaceOp P G) :
    (w.apply op).SingleWriter := by
  cases op with
  | addPane pane => exact h.of_clients (addPane_effect w pane).clients
  | splitPane target pane axis ratio =>
      exact h.of_clients (splitPane_effect w target pane axis ratio).clients
  | removePane paneId => exact h.of_clients (removePane_effect w paneId).clients
  | resizeSplit path ratio => exact h.of_clients (resizeSplit_effect w path ratio).clients
  | setDefaultActivePane paneId => exact h.of_clients (setDefaultActivePane_effect w paneId).clients
  | attachClient clientId mode now => exact h.attachClient clientId mode now
  | detachClient clientId reason => exact h.detachClient clientId reason
  | setAutoName name => exact h.of_clients (setAutoName_effect w name).clients
  | refreshAutoName proc => exact h.of_clients (refreshAutoName_clients w proc)
  | rename name => exact h.of_clients (rename_effect w name).clients
  | resizePane paneId cols rows => exact h.of_clients (updatePane_effect w paneId _ _).clients
  | setPaneTitle paneId title => exact h.of_clients (updatePane_effect w paneId _ _).clients
  | setPaneNoPersist paneId noPersist => exact h.of_clients (updatePane_effect w paneId _ _).clients
  | setPaneExitStatus paneId status => exact h.of_clients (updatePane_effect w paneId _ _).clients
  | takeOutput paneId raw => exact h.of_clients (takeOutput_clients w paneId raw)
  | returnOutput paneId screen proc =>
      exact h.of_clients (returnOutput_effect w paneId screen proc).clients
  | markPersisted => exact h.of_clients rfl

/-- **Run lemma.** Every reachable workspace has at most one writer. -/
theorem Reachable.singleWriter {w : Workspace P G}
    (h : w.Reachable) :
    w.SingleWriter := by
  refine h.invariant ?_ (fun _ op hI => hI.apply op)
  rintro w ⟨id, name, now, policy, rfl⟩ a b ha _
  simp [clientRole, new] at ha

/-- A change of the attached clients: some client's role differs. -/
def ClientsChanged (w w' : Workspace P G) : Prop :=
  ∃ c, w'.clientRole c ≠ w.clientRole c

omit [VteParser P] [Vt100Parser G] in
/-- An attach that changes a role bumps the revision. -/
theorem attachClient_revision_of_changed {w : Workspace P G} {c : Uuid} {mode : AttachMode}
    {now : Nat}
    (hchanged : w.ClientsChanged (w.attachClient c mode now).2) :
    (w.attachClient c mode now).2.revision = saturatingAdd w.revision 1 := by
  obtain ⟨k, hk⟩ := hchanged
  have hinsert : ∀ role,
      (({ w with lastActiveAt := now } : Workspace P G).insertClient c role).clientRole k ≠
        w.clientRole k →
      (({ w with lastActiveAt := now } : Workspace P G).insertClient c role).revision =
        saturatingAdd w.revision 1 := by
    intro role hne
    rw [clientRole_insertClient] at hne
    rw [insertClient_revision]
    by_cases hc : ({ w with lastActiveAt := now } : Workspace P G).clientRole c = some role
    · by_cases hkc : k = c
      · subst hkc
        simp only [if_true] at hne
        exact absurd hc.symm hne
      · simp only [hkc, if_false] at hne
        exact absurd rfl hne
    · rw [if_neg hc]
  cases mode with
  | readOnly => exact hinsert .reader hk
  | readWrite =>
      rcases attachClient_readWrite_cases w c now with ⟨_, _, _, hres⟩ | ⟨_, hres⟩
      · rw [hres] at hk
        exact absurd rfl hk
      · rw [hres] at hk ⊢
        exact hinsert .writer hk
  | takeOver =>
      rcases attachClient_takeOver_cases w c now with hres | ⟨_, _, _, hres⟩
      · rw [hres] at hk
        exact absurd rfl hk
      · rw [hres]
        rfl

omit [VteParser P] [Vt100Parser G] in
/-- A detach that changes a role bumps the revision. -/
theorem detachClient_revision_of_changed {w : Workspace P G} {c : Uuid} {reason : DetachReason}
    (hchanged : w.ClientsChanged (w.detachClient c reason).2) :
    (w.detachClient c reason).2.revision = saturatingAdd w.revision 1 := by
  obtain ⟨k, hk⟩ := hchanged
  rcases detachClient_cases w c reason with ⟨_, hres⟩ | ⟨_, hres⟩
  · rw [hres] at hk
    exact absurd rfl hk
  · rw [hres]
    rfl

omit [VteParser P] [Vt100Parser G] in
/-- A refused attach leaves the clients and the revision. -/
theorem attachClient_refused {w : Workspace P G} {c : Uuid} {mode : AttachMode} {now : Nat}
    (h : (∃ role rev, (w.attachClient c mode now).1 = .ok (.blocked role rev)) ∨
      (w.attachClient c mode now).1 = .error .takeoverNotEligible) :
    (w.attachClient c mode now).2.attachedClients = w.attachedClients ∧
      (w.attachClient c mode now).2.revision = w.revision := by
  cases mode with
  | readOnly =>
      rcases h with ⟨_, _, h⟩ | h
      · simp [attachClient] at h
      · simp [attachClient] at h
  | readWrite =>
      rcases attachClient_readWrite_cases w c now with ⟨_, _, _, hres⟩ | ⟨_, hres⟩
      · rw [hres]
        exact ⟨rfl, rfl⟩
      · rw [hres] at h
        rcases h with ⟨_, _, h⟩ | h
        · simp at h
        · simp at h
  | takeOver =>
      rcases attachClient_takeOver_cases w c now with hres | ⟨_, _, _, hres⟩
      · rw [hres]
        exact ⟨rfl, rfl⟩
      · rw [hres] at h
        rcases h with ⟨_, _, h⟩ | h
        · simp at h
        · simp at h

/-- **The write lease of every reachable workspace**: one writer at most, write
access only for that writer, refused attaches without effect, takeovers that
touch two roles only, and a revision bump for every change. -/
theorem write_lease {w : Workspace P G}
    (h : w.Reachable) :
    (∀ a b, w.clientRole a = some .writer → w.clientRole b = some .writer → a = b) ∧
      (∀ c, (w.clientRole c).isSome = true → w.clientHasWriteAccess c = true →
        w.clientRole c = some .writer) ∧
      (∀ c mode now,
        ((∃ role rev, (w.attachClient c mode now).1 = .ok (.blocked role rev)) ∨
          (w.attachClient c mode now).1 = .error .takeoverNotEligible) →
        (w.attachClient c mode now).2.attachedClients = w.attachedClients ∧
          (w.attachClient c mode now).2.revision = w.revision) ∧
      (∀ c now outcome, (w.attachClient c .takeOver now).1 = .ok outcome →
        ∃ previous, w.clientRole previous = some .writer ∧ previous ≠ c ∧
          (w.attachClient c .takeOver now).2.clientRole c = some .writer ∧
          (w.attachClient c .takeOver now).2.clientRole previous = some .reader ∧
          ∀ k, k ≠ c → k ≠ previous →
            (w.attachClient c .takeOver now).2.clientRole k = w.clientRole k) ∧
      (∀ c mode now, w.ClientsChanged (w.attachClient c mode now).2 →
        (w.attachClient c mode now).2.revision = saturatingAdd w.revision 1) ∧
      (∀ c reason, w.ClientsChanged (w.detachClient c reason).2 →
        (w.detachClient c reason).2.revision = saturatingAdd w.revision 1) := by
  refine ⟨h.singleWriter, ?_, fun c mode now href => attachClient_refused href, ?_,
    fun c mode now hch => attachClient_revision_of_changed hch,
    fun c reason hch => detachClient_revision_of_changed hch⟩
  · intro c hattached haccess
    obtain ⟨role, hrole⟩ := Option.isSome_iff_exists.mp hattached
    cases role with
    | writer => exact hrole
    | reader => simp [clientHasWriteAccess, hrole] at haccess
  · intro c now outcome hok
    rcases attachClient_takeOver_cases w c now with hres | ⟨previous, hprev, hne, hres⟩
    · simp [hres] at hok
    · refine ⟨previous, clientRole_of_writerClientId hprev, hne, ?_, ?_, ?_⟩
      · rw [hres, clientRole_takeOver]
        simp
      · rw [hres, clientRole_takeOver]
        simp [hne]
      · intro k hkc hkp
        rw [hres, clientRole_takeOver]
        simp [hkc, hkp]

/-- The theorem at a workspace with a writer and a reader, of which the reader
takes over. -/
theorem write_lease_takeover :
    ∃ w : Workspace SampleParser SampleGrid,
      w.Reachable ∧ w.clientRole 1 = some .writer ∧ w.clientRole 2 = some .reader ∧
        (w.attachClient 2 .takeOver 5).2.clientRole 2 = some .writer ∧
        (w.attachClient 2 .takeOver 5).2.revision = saturatingAdd w.revision 1 := by
  have hfresh : (Workspace.new 7 "work" 0 : Workspace SampleParser SampleGrid).IsFresh :=
    ⟨7, "work", 0, .persistent, rfl⟩
  have hreach := (hfresh.reachable.apply (.attachClient 1 .readWrite 1)).apply
    (.attachClient 2 .readOnly 2)
  obtain ⟨_, _, _, htakeover, hbump, _⟩ := write_lease hreach
  obtain ⟨_, _, _, hwriter, _⟩ := htakeover 2 5 (.attached .writer 4) (by decide)
  exact ⟨_, hreach, by decide, by decide, hwriter, hbump 2 .takeOver 5 ⟨2, by decide⟩⟩

end Runs

end Workspace

end Server
end Rttx
