import Rttx.Server.SampleTerminal
import Rttx.Server.WriteLease

/-!
# Authorization when a request is applied

A request that changes a workspace needs write access.  Most handlers check it
and apply the change under one acquisition of the workspace lock.  Creating a
pane, splitting one and resizing one check it under a first acquisition,
release the lock to spawn or resize the PTY, and apply the change under a
second, without checking again.  In between another client may take the lease
over, or take it when nobody holds it.

A client's requests are handled one after the other, so only the attaches of
other clients can fall in between.

**Results.**
* `authorized_when_applied`: in runs where no attach takes write access from a
  client whose request waits for its second acquisition, every change is made
  by a client that has write access.
* `applied_without_access`: for each of the three requests, a run that applies
  it after a takeover.
-/

namespace Rttx
namespace Server

open Kernel

universe u v

/-- A request that needs write access, with its arguments as they arrive. -/
inductive WriteRequest
  | createPane (cwd : Option String) (cols rows : Nat) (noPersist : Option Bool)
  | splitPane (target : Uuid) (axis : SplitAxis) (ratio : F32) (cwd : Option String)
      (cols rows : Nat) (noPersist : Option Bool)
  | resizePane (paneId : Uuid) (cols rows : Nat)
  | closePane (paneId : Uuid)
  | resizeSplit (path : List Side) (ratio : F32)
  | setFocus (paneId : Uuid)
  | setPaneTitle (paneId : Uuid) (title : String)
  | setPaneNoPersist (paneId : Uuid) (noPersist : Bool)
  | renameWorkspace (name : String) (automatic : Bool)

/-- What the daemon supplies when it handles a request: the minted pane id, the
pid of the spawned child, and what `/proc` says. -/
structure HandlerEnv where
  paneId : Uuid
  childPid : Option Nat
  proc : ProcFs

/-- A change that was authorized and waits to be applied. -/
inductive PendingChange (P : Type u) (G : Type v)
  | addPane (pane : Pane P G)
  | splitPane (target : Uuid) (pane : Pane P G) (axis : SplitAxis) (ratio : F32)
  | resizePane (paneId : Uuid) (cols rows : Nat)

/-- How a handler's first acquisition ends. -/
inductive HandlerOutcome (P : Type u) (G : Type v)
  | refused
  | applied (w : Workspace P G)
  | pending (change : PendingChange P G)

namespace Workspace

section Handlers

variable {P : Type u} {G : Type v}
variable [VteParser P] [Vt100Parser G]

/-- The effective working directory of any live pane. -/
def anyPaneCwd (w : Workspace P G) (proc : ProcFs) : Option String :=
  w.panes.values.findSome? (fun p => p.effectiveCwd proc)

/-- A requested dimension, or the default when none is given. -/
def requestedSize (requested default : Nat) : Nat :=
  if requested > 0 then requested % 2 ^ 16 else default

/-- The pane that a spawned child gets. -/
def spawnedPane (env : HandlerEnv) (cols rows : Nat) (cwd : Option String)
    (noPersist : Option Bool) : Pane P G :=
  { Pane.new env.paneId (requestedSize cols 80) (requestedSize rows 24) with
    childPid := env.childPid
    noPersist := noPersist.getD false
    cwd := cwd }

/-- A handler under its first acquisition of the workspace lock, spawning and
the lookup of the PTY writer succeeding. -/
def handle (w : Workspace P G) (clientId : Uuid) (env : HandlerEnv) :
    WriteRequest → HandlerOutcome P G
  | .createPane cwd cols rows noPersist =>
      if !w.clientHasWriteAccess clientId then
        .refused
      else
        .pending (.addPane (spawnedPane env cols rows (cwd.or (w.anyPaneCwd env.proc)) noPersist))
  | .splitPane target axis ratio cwd cols rows noPersist =>
      let ratio := if ratioIsValid ratio then ratio else F32.half
      if !w.clientHasWriteAccess clientId then
        .refused
      else if !w.tree.contains (.fromUuid target) then
        .refused
      else
        let inherited := (w.panes.lookup target).bind (fun p => p.effectiveCwd env.proc)
        let cwd := (cwd.or inherited).or (w.anyPaneCwd env.proc)
        .pending (.splitPane target (spawnedPane env cols rows cwd noPersist) axis ratio)
  | .resizePane paneId cols rows =>
      if cols ≥ 2 ^ 16 || rows ≥ 2 ^ 16 then
        .refused
      else if !(w.panes.lookup paneId).isSome then
        .refused
      else if !w.clientHasWriteAccess clientId then
        .refused
      else
        .pending (.resizePane paneId cols rows)
  | .closePane paneId =>
      if !w.clientHasWriteAccess clientId then .refused else .applied (w.removePane paneId).2
  | .resizeSplit path ratio =>
      if !w.clientHasWriteAccess clientId then .refused else .applied (w.resizeSplit path ratio).2
  | .setFocus paneId =>
      if !w.clientHasWriteAccess clientId then
        .refused
      else
        .applied (w.setDefaultActivePane paneId).2
  | .setPaneTitle paneId title =>
      if !w.clientHasWriteAccess clientId then .refused else .applied (w.setPaneTitle paneId title).2
  | .setPaneNoPersist paneId noPersist =>
      if !w.clientHasWriteAccess clientId then
        .refused
      else
        .applied (w.setPaneNoPersist paneId noPersist).2
  | .renameWorkspace name automatic =>
      if !w.clientHasWriteAccess clientId then
        .refused
      else if automatic then
        .applied (w.setAutoName name).2
      else
        .applied (w.rename name).2

/-- The second acquisition. -/
def applyPending (w : Workspace P G) : PendingChange P G → Workspace P G
  | .addPane pane => w.addPane pane
  | .splitPane target pane axis ratio => (w.splitPane target pane axis ratio).2
  | .resizePane paneId cols rows => (w.resizePane paneId cols rows).2

end Handlers

end Workspace

/-- A workspace and, for each client whose request is between its two
acquisitions, the change that waits. -/
structure RequestState (P : Type u) (G : Type v) where
  workspace : Workspace P G
  pending : HashMap Uuid (PendingChange P G)

/-- What may happen; `abandon` is a failed resize of the PTY. -/
inductive RequestStep
  | request (clientId : Uuid) (req : WriteRequest) (env : HandlerEnv)
  | complete (clientId : Uuid)
  | abandon (clientId : Uuid)
  | attach (clientId : Uuid) (mode : AttachMode) (now : Nat)
  | detach (clientId : Uuid) (reason : DetachReason)

/-- The client on whose request a step acts. -/
def RequestStep.requester : RequestStep → Option Uuid
  | request clientId _ _ => some clientId
  | complete clientId => some clientId
  | _ => none

namespace RequestState

section Steps

variable {P : Type u} {G : Type v}

/-- Whether an attach would take write access from `clientId`: it takes over
the lease that client holds, or takes the lease while the client, attached to
nothing, relies on nobody holding it. -/
def takesAccess (w : Workspace P G) (clientId attaching : Uuid) (mode : AttachMode) : Bool :=
  match mode with
  | .readOnly => false
  | .readWrite => (w.clientRole clientId).isNone && w.writerClientId.isNone
  | .takeOver => w.takeoverEligibleFor attaching && w.writerClientId == some clientId

/-- The step takes write access from no client whose request waits. -/
def leavesAccess (s : RequestState P G) : RequestStep → Bool
  | .attach clientId mode _ =>
      s.pending.keys.all (fun waiting => !takesAccess s.workspace waiting clientId mode)
  | _ => true

/-- Only a client whose previous request is done makes another one. -/
def isReady (s : RequestState P G) (clientId : Uuid) : Bool :=
  (s.pending.lookup clientId).isNone

variable [VteParser P] [Vt100Parser G]

/-- One step. -/
def next (s : RequestState P G) : RequestStep → Option (RequestState P G)
  | .request clientId req env =>
      if s.isReady clientId then
        match s.workspace.handle clientId env req with
        | .refused => some s
        | .applied w => some { s with workspace := w }
        | .pending change => some { s with pending := s.pending.insert clientId change }
      else
        none
  | .complete clientId =>
      match s.pending.lookup clientId with
      | none => none
      | some change => some ⟨s.workspace.applyPending change, s.pending.erase clientId⟩
  | .abandon clientId => some { s with pending := s.pending.erase clientId }
  | .attach clientId mode now =>
      if s.isReady clientId then
        some { s with workspace := (s.workspace.attachClient clientId mode now).2 }
      else
        none
  | .detach clientId reason =>
      if s.isReady clientId then
        some { s with workspace := (s.workspace.detachClient clientId reason).2 }
      else
        none

variable (P G) in
/-- Any workspace, with no request in progress. -/
def system : System (RequestState P G) RequestStep where
  init := fun s => s.pending = ∅
  next := next

/-- Whatever a request changes, it changes while its client has write access. -/
def Authorized (s : RequestState P G) : Prop :=
  ∀ a clientId s', a.requester = some clientId → s.next a = some s' →
    s'.workspace ≠ s.workspace → s.workspace.clientHasWriteAccess clientId = true

omit [VteParser P] [Vt100Parser G] in
/-- The clients whose requests wait have write access. -/
def Inv (s : RequestState P G) : Prop :=
  ∀ c change, s.pending.lookup c = some change → s.workspace.clientHasWriteAccess c = true

end Steps

section Access

variable {P : Type u} {G : Type v}

/-- Write access: the writer has it, and everybody unattached while there is none. -/
theorem clientHasWriteAccess_iff (w : Workspace P G) (c : Uuid) :
    w.clientHasWriteAccess c = true ↔
      w.clientRole c = some .writer ∨ (w.clientRole c = none ∧ w.writerClientId = none) := by
  cases hrole : w.clientRole c with
  | none => simp [Workspace.clientHasWriteAccess, hrole]
  | some role => cases role <;> simp [Workspace.clientHasWriteAccess, hrole]

theorem writerClientId_eq_none_iff (w : Workspace P G) :
    w.writerClientId = none ↔ ∀ k, w.clientRole k ≠ some .writer := by
  constructor
  · exact Workspace.clientRole_ne_writer
  · intro h
    refine HashMap.findKey_eq_none.mpr ?_
    intro k role hk
    have hne : role ≠ .writer := fun heq => h k (heq ▸ hk)
    simpa using hne

theorem clientHasWriteAccess_of_clients {w w' : Workspace P G}
    (hsame : w'.attachedClients = w.attachedClients)
    (c : Uuid) :
    w'.clientHasWriteAccess c = w.clientHasWriteAccess c := by
  simp only [Workspace.clientHasWriteAccess, Workspace.clientRole, Workspace.writerClientId, hsame]

/-- A client keeps write access while its role stays and nobody becomes the writer. -/
theorem clientHasWriteAccess_of_roles {w w' : Workspace P G} {c : Uuid}
    (h : w.clientHasWriteAccess c = true)
    (hself : w'.clientRole c = w.clientRole c)
    (hwriters : ∀ k, w'.clientRole k = some .writer → w.clientRole k = some .writer) :
    w'.clientHasWriteAccess c = true := by
  rw [clientHasWriteAccess_iff] at h ⊢
  rw [hself, writerClientId_eq_none_iff]
  refine h.imp_right ?_
  rintro ⟨hnone, hfree⟩
  refine ⟨hnone, ?_⟩
  intro k hk
  exact Workspace.clientRole_ne_writer hfree k (hwriters k hk)

/-- An attach that does not take write access from another client leaves it. -/
theorem clientHasWriteAccess_attach {w : Workspace P G} {c attaching : Uuid}
    {mode : AttachMode}
    (h : w.clientHasWriteAccess c = true)
    (hne : c ≠ attaching)
    (hleaves : takesAccess w c attaching mode = false)
    (now : Nat) :
    (w.attachClient attaching mode now).2.clientHasWriteAccess c = true := by
  have htouch : ({ w with lastActiveAt := now } : Workspace P G).clientHasWriteAccess c = true := h
  have haccess := (clientHasWriteAccess_iff w c).mp h
  cases mode with
  | readOnly =>
      have hrole : ∀ k, (w.attachClient attaching .readOnly now).2.clientRole k =
          if k = attaching then some .reader else w.clientRole k :=
        fun k => Workspace.clientRole_insertClient _ _ _ _
      refine clientHasWriteAccess_of_roles h (by rw [hrole, if_neg hne]) ?_
      intro k hk
      rw [hrole] at hk
      split at hk
      · simp at hk
      · exact hk
  | readWrite =>
      rcases Workspace.attachClient_readWrite_cases w attaching now with
        ⟨_, _, _, hres⟩ | ⟨_, hres⟩
      · rw [hres]
        exact htouch
      · rcases haccess with hwriter | ⟨hnone, hfree⟩
        · rw [hres, clientHasWriteAccess_iff, Workspace.clientRole_insertClient, if_neg hne]
          exact Or.inl hwriter
        · simp [takesAccess, hnone, hfree] at hleaves
  | takeOver =>
      rcases Workspace.attachClient_takeOver_cases w attaching now with
        hres | ⟨previous, hprevious, _, hres⟩
      · rw [hres]
        exact htouch
      · have helig : w.takeoverEligibleFor attaching = true := by
          cases helig : w.takeoverEligibleFor attaching with
          | true => rfl
          | false =>
              have hsame : ({ w with lastActiveAt := now } : Workspace P G).takeoverEligibleFor
                  attaching = false := helig
              simp [Workspace.attachClient, hsame] at hres
        rcases haccess with hwriter | ⟨_, hfree⟩
        · have hother : c ≠ previous := by
            rintro rfl
            simp [takesAccess, helig, hprevious] at hleaves
          rw [hres, clientHasWriteAccess_iff, Workspace.clientRole_takeOver, if_neg hne,
            if_neg hother]
          exact Or.inl hwriter
        · rw [hprevious] at hfree
          cases hfree

/-- A detach takes write access from nobody else. -/
theorem clientHasWriteAccess_detach {w : Workspace P G} {c leaving : Uuid}
    (h : w.clientHasWriteAccess c = true)
    (hne : c ≠ leaving)
    (reason : DetachReason) :
    (w.detachClient leaving reason).2.clientHasWriteAccess c = true := by
  rcases Workspace.detachClient_cases w leaving reason with ⟨_, hres⟩ | ⟨_, hres⟩
  · rw [hres]
    exact h
  · have hrole : ∀ k, (w.detachClient leaving reason).2.clientRole k =
        if k = leaving then none else w.clientRole k := by
      intro k
      rw [hres]
      exact HashMap.lookup_erase_eq _ _ _
    refine clientHasWriteAccess_of_roles h (by rw [hrole, if_neg hne]) ?_
    intro k hk
    rw [hrole] at hk
    split at hk
    · simp at hk
    · exact hk

variable [VteParser P] [Vt100Parser G]

/-- Every handler refuses a client without write access. -/
theorem handle_of_no_access {w : Workspace P G} {c : Uuid}
    (h : w.clientHasWriteAccess c = false)
    (env : HandlerEnv)
    (req : WriteRequest) :
    w.handle c env req = .refused := by
  cases req with
  | resizePane paneId cols rows =>
      simp only [Workspace.handle, h]
      split
      · rfl
      · split
        · rfl
        · rfl
  | _ => simp [Workspace.handle, h]

/-- No handler touches the clients. -/
theorem handle_applied_clients {w w' : Workspace P G} {c : Uuid} {env : HandlerEnv}
    {req : WriteRequest}
    (h : w.handle c env req = .applied w') :
    w'.attachedClients = w.attachedClients := by
  cases haccess : w.clientHasWriteAccess c with
  | false => simp [handle_of_no_access haccess] at h
  | true =>
      cases req with
      | createPane cwd cols rows noPersist => simp [Workspace.handle, haccess] at h
      | splitPane target axis ratio cwd cols rows noPersist =>
          simp only [Workspace.handle, haccess] at h
          split at h
          · cases h
          · split at h
            · cases h
            · cases h
      | resizePane paneId cols rows =>
          simp only [Workspace.handle, haccess] at h
          split at h
          · cases h
          · split at h
            · cases h
            · simp at h
      | closePane paneId =>
          simp only [Workspace.handle, haccess, Bool.not_true, Bool.false_eq_true, if_false,
            HandlerOutcome.applied.injEq] at h
          rw [← h]
          exact (Workspace.removePane_effect w paneId).clients
      | resizeSplit path ratio =>
          simp only [Workspace.handle, haccess, Bool.not_true, Bool.false_eq_true, if_false,
            HandlerOutcome.applied.injEq] at h
          rw [← h]
          exact (Workspace.resizeSplit_effect w path ratio).clients
      | setFocus paneId =>
          simp only [Workspace.handle, haccess, Bool.not_true, Bool.false_eq_true, if_false,
            HandlerOutcome.applied.injEq] at h
          rw [← h]
          exact (Workspace.setDefaultActivePane_effect w paneId).clients
      | setPaneTitle paneId title =>
          simp only [Workspace.handle, haccess, Bool.not_true, Bool.false_eq_true, if_false,
            HandlerOutcome.applied.injEq] at h
          rw [← h]
          exact (Workspace.updatePane_effect w paneId _ _).clients
      | setPaneNoPersist paneId noPersist =>
          simp only [Workspace.handle, haccess, Bool.not_true, Bool.false_eq_true, if_false,
            HandlerOutcome.applied.injEq] at h
          rw [← h]
          exact (Workspace.updatePane_effect w paneId _ _).clients
      | renameWorkspace name automatic =>
          simp only [Workspace.handle, haccess, Bool.not_true, Bool.false_eq_true,
            if_false] at h
          split at h
          · rw [HandlerOutcome.applied.injEq] at h
            rw [← h]
            exact (Workspace.setAutoName_effect w name).clients
          · rw [HandlerOutcome.applied.injEq] at h
            rw [← h]
            exact (Workspace.rename_effect w name).clients

theorem applyPending_clients (w : Workspace P G) (change : PendingChange P G) :
    (w.applyPending change).attachedClients = w.attachedClients := by
  cases change with
  | addPane pane => exact (Workspace.addPane_effect w pane).clients
  | splitPane target pane axis ratio =>
      exact (Workspace.splitPane_effect w target pane axis ratio).clients
  | resizePane paneId cols rows => exact (Workspace.updatePane_effect w paneId _ _).clients

end Access

section Runs

variable {P : Type u} {G : Type v}
variable [VteParser P] [Vt100Parser G]

omit [VteParser P] [Vt100Parser G] in
/-- A workspace with the same clients, and fewer changes waiting. -/
theorem Inv.of_clients {s s' : RequestState P G}
    (h : s.Inv)
    (hclients : s'.workspace.attachedClients = s.workspace.attachedClients)
    (hpending : ∀ c change, s'.pending.lookup c = some change →
      s.pending.lookup c = some change ∨ s.workspace.clientHasWriteAccess c = true) :
    s'.Inv := by
  intro c change hc
  rw [clientHasWriteAccess_of_clients hclients]
  rcases hpending c change hc with hold | haccess
  · exact h c change hold
  · exact haccess

/-- **Step lemma.** A step that takes access from no waiting client keeps the
invariant. -/
theorem Inv.next {s s' : RequestState P G} {a : RequestStep}
    (h : s.Inv)
    (hleaves : s.leavesAccess a = true)
    (hnext : s.next a = some s') :
    s'.Inv := by
  cases a with
  | request clientId req env =>
      simp only [RequestState.next, Option.ite_none_right_eq_some] at hnext
      obtain ⟨_, hnext⟩ := hnext
      cases hhandle : s.workspace.handle clientId env req with
      | refused =>
          simp only [hhandle, Option.some.injEq] at hnext
          exact hnext ▸ h
      | applied w =>
          simp only [hhandle, Option.some.injEq] at hnext
          subst hnext
          exact h.of_clients (handle_applied_clients hhandle) (fun _ _ hc => Or.inl hc)
      | pending change =>
          simp only [hhandle, Option.some.injEq] at hnext
          subst hnext
          refine h.of_clients rfl ?_
          intro c change' hc
          rcases HashMap.lookup_insert_cases hc with ⟨rfl, _⟩ | ⟨_, hc⟩
          · right
            cases haccess : s.workspace.clientHasWriteAccess c with
            | true => rfl
            | false =>
                rw [handle_of_no_access haccess] at hhandle
                cases hhandle
          · exact Or.inl hc
  | complete clientId =>
      simp only [RequestState.next] at hnext
      cases hpending : s.pending.lookup clientId with
      | none => simp [hpending] at hnext
      | some change =>
          simp only [hpending, Option.some.injEq] at hnext
          subst hnext
          exact h.of_clients (applyPending_clients _ _)
            (fun _ _ hc => Or.inl (HashMap.lookup_erase_cases hc).2)
  | abandon clientId =>
      simp only [RequestState.next, Option.some.injEq] at hnext
      subst hnext
      exact h.of_clients rfl (fun _ _ hc => Or.inl (HashMap.lookup_erase_cases hc).2)
  | attach clientId mode now =>
      simp only [RequestState.next, Option.ite_none_right_eq_some, Option.some.injEq] at hnext
      obtain ⟨hready, rfl⟩ := hnext
      intro c change hc
      have hne : c ≠ clientId := by
        rintro rfl
        have hc' : s.pending.lookup c = some change := hc
        simp [isReady, hc'] at hready
      have hkey : c ∈ s.pending.keys := by
        rw [← AList.mem_keys, ← AList.lookup_isSome]
        exact Option.isSome_iff_exists.mpr ⟨change, hc⟩
      have hkeeps := List.all_eq_true.mp hleaves c hkey
      exact clientHasWriteAccess_attach (h c change hc) hne (by simpa using hkeeps) now
  | detach clientId reason =>
      simp only [RequestState.next, Option.ite_none_right_eq_some, Option.some.injEq] at hnext
      obtain ⟨hready, rfl⟩ := hnext
      intro c change hc
      have hne : c ≠ clientId := by
        rintro rfl
        have hc' : s.pending.lookup c = some change := hc
        simp [isReady, hc'] at hready
      exact clientHasWriteAccess_detach (h c change hc) hne reason

/-- While the clients whose requests wait have access, every change is authorized. -/
theorem Inv.authorized {s : RequestState P G}
    (h : s.Inv) :
    s.Authorized := by
  intro a clientId s' hrequester hnext hchange
  cases a with
  | request c req env =>
      simp only [RequestStep.requester, Option.some.injEq] at hrequester
      subst hrequester
      cases haccess : s.workspace.clientHasWriteAccess c with
      | true => rfl
      | false =>
          simp only [RequestState.next, handle_of_no_access haccess,
            Option.ite_none_right_eq_some, Option.some.injEq] at hnext
          rw [← hnext.2] at hchange
          exact absurd rfl hchange
  | complete c =>
      simp only [RequestStep.requester, Option.some.injEq] at hrequester
      subst hrequester
      simp only [RequestState.next] at hnext
      cases hpending : s.pending.lookup c with
      | none => simp [hpending] at hnext
      | some change => exact h c change hpending
  | abandon c => cases hrequester
  | attach c mode now => cases hrequester
  | detach c reason => cases hrequester

/-- **Changes are authorized when they are applied**, in every state of a run
whose attaches take write access from no client with a waiting request. -/
theorem authorized_when_applied {s : RequestState P G}
    (h : (system P G).ReachableUnder (fun s a => s.leavesAccess a = true) s) :
    s.Authorized := by
  refine (h.invariant (I := Inv) ?_ (fun s a s' hI hok hnext => hI.next hok hnext)).authorized
  intro s hs c change hc
  rw [hs] at hc
  simp at hc

/-- A workspace that nobody is attached to, and no request. -/
def idleSample : RequestState SampleParser SampleGrid :=
  ⟨Workspace.new 7 "work" 0, ∅⟩

theorem idleSample_init : (system SampleParser SampleGrid).init idleSample :=
  rfl

def mintPane (paneId : Uuid) : HandlerEnv :=
  ⟨paneId, none, ⟨fun _ => none, fun _ => none⟩⟩

/-- The writer creates a pane; another client attaches as reader meanwhile. -/
def undisturbedCreate : List RequestStep :=
  [.attach 8 .readWrite 0, .request 8 (.createPane none 0 0 none) (mintPane 1),
    .attach 9 .readOnly 0, .complete 8]

/-- The theorem after the pane was created. -/
theorem authorized_when_applied_undisturbedCreate :
    ∃ s : RequestState SampleParser SampleGrid,
      (s.workspace.panes.lookup 1).isSome = true ∧ s.Authorized := by
  obtain ⟨s, hreach, hcreated⟩ := System.exists_reachableUnder
    (S := system SampleParser SampleGrid) leavesAccess undisturbedCreate
    (p := fun s => (s.workspace.panes.lookup 1).isSome = true) idleSample_init (by decide +kernel)
  exact ⟨s, hcreated, authorized_when_applied hreach⟩

/-- The writer makes a request, and loses the lease before it is applied. -/
def takenOver (req : WriteRequest) : List RequestStep :=
  [.attach 8 .readWrite 0, .request 8 (.createPane none 0 0 none) (mintPane 1), .complete 8,
    .request 8 req (mintPane 2), .attach 9 .takeOver 0]

/-- The ids and sizes of the panes. -/
def paneSizes (s : RequestState SampleParser SampleGrid) : List (Uuid × Nat × Nat) :=
  s.workspace.panes.values.map (fun p => (p.id, p.cols, p.rows))

/-- Whether the former writer has access when its request is completed, and
whether completing it keeps the panes and their sizes. -/
def completed (req : WriteRequest) : Option (Bool × Bool) :=
  ((system SampleParser SampleGrid).exec idleSample (takenOver req)).bind fun s =>
    (s.next (.complete 8)).map fun s' =>
      (s.workspace.clientHasWriteAccess 8, decide (s'.paneSizes = s.paneSizes))

/-- The request is about to be applied, although its client has lost access. -/
def AppliedWithoutAccess (req : WriteRequest) : Prop :=
  ∃ s : RequestState SampleParser SampleGrid,
    (system SampleParser SampleGrid).exec idleSample (takenOver req) = some s ∧
    (system SampleParser SampleGrid).Reachable s ∧
    ¬ s.Authorized

theorem appliedWithoutAccess_of_completed {req : WriteRequest}
    (hcompleted : completed req = some (false, false)) :
    AppliedWithoutAccess req := by
  simp only [completed, Option.bind_eq_some_iff, Option.map_eq_some_iff, Prod.mk.injEq,
    decide_eq_false_iff_not] at hcompleted
  obtain ⟨s, hrun, s', hnext, haccess, hchanged⟩ := hcompleted
  refine ⟨s, hrun, System.reachable_of_exec idleSample_init hrun, ?_⟩
  intro hauthorized
  have hdiffers : s'.workspace ≠ s.workspace := by
    intro heq
    apply hchanged
    rw [paneSizes, paneSizes, heq]
  have hhas := hauthorized (.complete 8) 8 s' rfl hnext hdiffers
  rw [haccess] at hhas
  cases hhas

/-- **Requests are applied without access**: each of the three kinds changes the
panes although its client has become a reader. -/
theorem applied_without_access :
    AppliedWithoutAccess (.createPane none 0 0 none) ∧
      AppliedWithoutAccess (.splitPane 1 .vertical F32.half none 0 0 none) ∧
      AppliedWithoutAccess (.resizePane 1 100 30) := by
  refine ⟨?_, ?_, ?_⟩
  · exact appliedWithoutAccess_of_completed (by decide +kernel)
  · exact appliedWithoutAccess_of_completed (by decide +kernel)
  · exact appliedWithoutAccess_of_completed (by decide +kernel)

end Runs

end RequestState

end Server
end Rttx
