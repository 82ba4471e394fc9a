import Rttx.Kernel.TransitionSystem
import Rttx.Server.OutputTask

/-!
# Workspaces as a state machine

Every way the daemon changes a workspace under its lock is an operation, and a
reachable workspace is one obtained from a fresh workspace of either policy by
any sequence of operations with any arguments.

**Results.**
* `addPane_effect`, `attachClient_effect`, … : which fields an operation may
  change; the field-by-field frame facts of other files follow from these.
* `persistedRevision_le`: no reachable workspace is persisted ahead of its
  revision.
* `revision_le_max`: the counter stays a 64-bit integer.
-/

namespace Rttx
namespace Server

open Kernel

universe u v

/-- An operation on a workspace with its arguments. -/
inductive WorkspaceOp (P : Type u) (G : Type v)
  | addPane (pane : Pane P G)
  | splitPane (target : Uuid) (pane : Pane P G) (axis : SplitAxis) (ratio : F32)
  | removePane (paneId : Uuid)
  | resizeSplit (path : List Side) (ratio : F32)
  | setDefaultActivePane (paneId : Uuid)
  | attachClient (clientId : Uuid) (mode : AttachMode) (now : Nat)
  | detachClient (clientId : Uuid) (reason : DetachReason)
  | setAutoName (name : String)
  | refreshAutoName (proc : ProcFs)
  | rename (name : String)
  | resizePane (paneId : Uuid) (cols rows : Nat)
  | setPaneTitle (paneId : Uuid) (title : String)
  | setPaneNoPersist (paneId : Uuid) (noPersist : Bool)
  | setPaneExitStatus (paneId : Uuid) (status : Option Int)
  | takeOutput (paneId : Uuid) (raw : Bytes)
  | returnOutput (paneId : Uuid) (screen : PaneScreen P G) (proc : ProcFs)
  | markPersisted

namespace Workspace

section Operations

variable {P : Type u} {G : Type v}
variable [VteParser P] [Vt100Parser G]

/-- The workspace after an operation. -/
def apply (w : Workspace P G) : WorkspaceOp P G → Workspace P G
  | .addPane pane => w.addPane pane
  | .splitPane target pane axis ratio => (w.splitPane target pane axis ratio).2
  | .removePane paneId => (w.removePane paneId).2
  | .resizeSplit path ratio => (w.resizeSplit path ratio).2
  | .setDefaultActivePane paneId => (w.setDefaultActivePane paneId).2
  | .attachClient clientId mode now => (w.attachClient clientId mode now).2
  | .detachClient clientId reason => (w.detachClient clientId reason).2
  | .setAutoName name => (w.setAutoName name).2
  | .refreshAutoName proc => (w.refreshAutoName proc).2
  | .rename name => (w.rename name).2
  | .resizePane paneId cols rows => (w.resizePane paneId cols rows).2
  | .setPaneTitle paneId title => (w.setPaneTitle paneId title).2
  | .setPaneNoPersist paneId noPersist => (w.setPaneNoPersist paneId noPersist).2
  | .setPaneExitStatus paneId status => (w.setPaneExitStatus paneId status).2
  | .takeOutput paneId raw => (w.takeOutput paneId raw).2
  | .returnOutput paneId screen proc => (w.returnOutput paneId screen proc).2
  | .markPersisted => w.markPersisted

/-- A workspace as the daemon creates it: empty, of either policy. -/
def IsFresh (w : Workspace P G) : Prop :=
  ∃ id name now policy, w = { new id name now with policy := policy }

variable (P G) in
/-- Operations on one workspace in any order. -/
def system : System (Workspace P G) (WorkspaceOp P G) where
  init := IsFresh
  next := fun w op => some (w.apply op)

/-- A workspace that the daemon's operations can produce. -/
def Reachable (w : Workspace P G) : Prop :=
  (system P G).Reachable w

theorem IsFresh.reachable {w : Workspace P G}
    (h : w.IsFresh) :
    w.Reachable :=
  System.Reachable.of_init h

theorem Reachable.apply {w : Workspace P G}
    (h : w.Reachable)
    (op : WorkspaceOp P G) :
    (w.apply op).Reachable :=
  System.Reachable.next h rfl

/-- The invariant rule for workspaces. -/
theorem Reachable.invariant {I : Workspace P G → Prop}
    (hfresh : ∀ w, w.IsFresh → I w)
    (hop : ∀ w op, I w → I (w.apply op))
    {w : Workspace P G}
    (h : w.Reachable) :
    I w := by
  refine System.Reachable.invariant hfresh ?_ h
  intro w op w' hI hnext
  rw [← Option.some.inj hnext]
  exact hop w op hI

end Operations

section Effects

variable {P : Type u} {G : Type v}

/-- Only the panes, the tree, the focus and the revision may differ. -/
def ChangesStructure (w w' : Workspace P G) : Prop :=
  ∃ panes tree active rev,
    w' = { w with panes := panes, tree := tree, activePaneId := active, revision := rev }

/-- Only the clients, the time of activity and the revision may differ. -/
def ChangesClients (w w' : Workspace P G) : Prop :=
  ∃ clients time rev,
    w' = { w with attachedClients := clients, lastActiveAt := time, revision := rev }

/-- Only the name and the revision may differ. -/
def ChangesName (w w' : Workspace P G) : Prop :=
  ∃ name renamed rev, w' = { w with name := name, userRenamed := renamed, revision := rev }

/-- Only the contents of panes, the name and the revision may differ. -/
def ChangesPanes (w w' : Workspace P G) : Prop :=
  ∃ panes name rev, w' = { w with panes := panes, name := name, revision := rev }

theorem ChangesPanes.refl (w : Workspace P G) : w.ChangesPanes w :=
  ⟨w.panes, w.name, w.revision, rfl⟩

theorem ChangesPanes.trans {w₁ w₂ w₃ : Workspace P G}
    (h : w₁.ChangesPanes w₂)
    (h' : w₂.ChangesPanes w₃) :
    w₁.ChangesPanes w₃ := by
  obtain ⟨_, _, _, rfl⟩ := h
  obtain ⟨panes, name, rev, rfl⟩ := h'
  exact ⟨panes, name, rev, rfl⟩

theorem addPane_effect (w : Workspace P G) (pane : Pane P G) :
    w.ChangesStructure (w.addPane pane) := by
  simp only [addPane]
  split
  · exact ⟨_, _, _, _, rfl⟩
  · exact ⟨_, _, _, _, rfl⟩

theorem splitPane_effect (w : Workspace P G) (target : Uuid) (pane : Pane P G)
    (axis : SplitAxis) (ratio : F32) :
    w.ChangesStructure (w.splitPane target pane axis ratio).2 := by
  simp only [splitPane]
  split
  · exact ⟨_, _, _, _, rfl⟩
  · simp only
    split
    · exact ⟨_, _, _, _, rfl⟩
    · exact ⟨_, _, _, _, rfl⟩

theorem removePane_effect (w : Workspace P G) (paneId : Uuid) :
    w.ChangesStructure (w.removePane paneId).2 := by
  simp only [removePane]
  split
  · exact ⟨_, _, _, _, rfl⟩
  · simp only
    split
    · exact ⟨_, _, _, _, rfl⟩
    · exact ⟨_, _, _, _, rfl⟩

theorem resizeSplit_effect (w : Workspace P G) (path : List Side) (ratio : F32) :
    w.ChangesStructure (w.resizeSplit path ratio).2 := by
  simp only [resizeSplit]
  split
  · exact ⟨_, _, _, _, rfl⟩
  · exact ⟨_, _, _, _, rfl⟩

theorem setDefaultActivePane_effect (w : Workspace P G) (paneId : Uuid) :
    w.ChangesStructure (w.setDefaultActivePane paneId).2 := by
  simp only [setDefaultActivePane]
  split
  · exact ⟨_, _, _, _, rfl⟩
  · exact ⟨_, _, _, _, rfl⟩

theorem insertClient_effect (w : Workspace P G) (clientId : Uuid) (role : ClientRole) :
    w.ChangesClients (w.insertClient clientId role) := by
  simp only [insertClient]
  split
  · exact ⟨_, _, _, rfl⟩
  · exact ⟨_, _, _, rfl⟩

theorem attachClient_effect (w : Workspace P G) (clientId : Uuid) (mode : AttachMode)
    (now : Nat) :
    w.ChangesClients (w.attachClient clientId mode now).2 := by
  have hinsert : ∀ role, w.ChangesClients
      (({ w with lastActiveAt := now } : Workspace P G).insertClient clientId role) := by
    intro role
    obtain ⟨clients, time, rev, hres⟩ :=
      insertClient_effect ({ w with lastActiveAt := now } : Workspace P G) clientId role
    exact ⟨clients, time, rev, hres⟩
  cases mode with
  | readOnly => exact hinsert .reader
  | readWrite =>
      simp only [attachClient]
      split
      · exact ⟨_, _, _, rfl⟩
      · exact hinsert .writer
  | takeOver =>
      simp only [attachClient]
      split
      · exact ⟨_, _, _, rfl⟩
      · exact ⟨_, _, _, rfl⟩

theorem detachClient_effect (w : Workspace P G) (clientId : Uuid) (reason : DetachReason) :
    w.ChangesClients (w.detachClient clientId reason).2 := by
  simp only [detachClient]
  split
  · exact ⟨_, _, _, rfl⟩
  · split
    · exact ⟨_, _, _, rfl⟩
    · exact ⟨_, _, _, rfl⟩

theorem setAutoName_effect (w : Workspace P G) (name : String) :
    w.ChangesName (w.setAutoName name).2 := by
  simp only [setAutoName]
  split
  · exact ⟨_, _, _, rfl⟩
  · exact ⟨_, _, _, rfl⟩

theorem rename_effect (w : Workspace P G) (name : String) :
    w.ChangesName (w.rename name).2 := by
  simp only [rename]
  split
  · exact ⟨_, _, _, rfl⟩
  · exact ⟨_, _, _, rfl⟩

/-- An automatic rename keeps the mark of a user's name. -/
theorem refreshAutoName_effect (w : Workspace P G) (proc : ProcFs) :
    ∃ name rev, (w.refreshAutoName proc).2 = { w with name := name, revision := rev } := by
  simp only [refreshAutoName]
  split
  · exact ⟨_, _, rfl⟩
  · split
    · exact ⟨_, _, rfl⟩
    · split
      · exact ⟨_, _, rfl⟩
      · exact ⟨_, _, rfl⟩

theorem updatePane_effect (w : Workspace P G) (paneId : Uuid) (changed : Pane P G → Bool)
    (update : Pane P G → Pane P G) :
    w.ChangesPanes (w.updatePane paneId changed update).2 := by
  simp only [updatePane]
  split
  · exact ChangesPanes.refl w
  · simp only
    split
    · exact ⟨_, _, _, rfl⟩
    · exact ⟨_, _, _, rfl⟩

theorem recordCwd_effect (w : Workspace P G) (paneId : Uuid) (newCwd : Option String) :
    ∃ rev, (w.recordCwd paneId newCwd).2 = { w with revision := rev } := by
  cases newCwd with
  | none => exact ⟨_, rfl⟩
  | some cwd =>
      simp only [recordCwd, setPaneCwd]
      split
      · exact ⟨_, rfl⟩
      · exact ⟨_, rfl⟩

theorem recordName_effect (w : Workspace P G) (paneId : Uuid) (cwdChanged : Bool)
    (proc : ProcFs) :
    ∃ name rev,
      (w.recordName paneId cwdChanged proc).2 = { w with name := name, revision := rev } := by
  simp only [recordName]
  split
  · exact refreshAutoName_effect w proc
  · exact ⟨_, _, rfl⟩

theorem recordTitle_effect (w : Workspace P G) (paneId : Uuid) (newTitle : Option String) :
    w.ChangesPanes (w.recordTitle paneId newTitle).2 := by
  cases newTitle with
  | none => exact ChangesPanes.refl w
  | some title => exact updatePane_effect w paneId _ _

theorem returnOutput_effect (w : Workspace P G) (paneId : Uuid) (screen : PaneScreen P G)
    (proc : ProcFs) :
    w.ChangesPanes (w.returnOutput paneId screen proc).2 := by
  simp only [returnOutput]
  split
  · exact ChangesPanes.refl w
  · refine ChangesPanes.trans ?_ (recordTitle_effect _ _ _)
    obtain ⟨name, rev, hname⟩ := recordName_effect _ paneId _ proc
    rw [hname]
    obtain ⟨rev', hcwd⟩ := recordCwd_effect _ paneId _
    rw [hcwd]
    exact ⟨_, _, _, rfl⟩

variable [VteParser P] [Vt100Parser G]

theorem takeOutput_effect (w : Workspace P G) (paneId : Uuid) (raw : Bytes) :
    ∃ panes, (w.takeOutput paneId raw).2 = { w with panes := panes } := by
  simp only [takeOutput]
  split
  · exact ⟨_, rfl⟩
  · exact ⟨_, rfl⟩

/-- No operation changes the id of a workspace. -/
theorem apply_id (w : Workspace P G) (op : WorkspaceOp P G) :
    (w.apply op).id = w.id := by
  cases op with
  | addPane pane =>
      obtain ⟨_, _, _, _, hres⟩ := addPane_effect w pane
      rw [apply, hres]
  | splitPane target pane axis ratio =>
      obtain ⟨_, _, _, _, hres⟩ := splitPane_effect w target pane axis ratio
      rw [apply, hres]
  | removePane paneId =>
      obtain ⟨_, _, _, _, hres⟩ := removePane_effect w paneId
      rw [apply, hres]
  | resizeSplit path ratio =>
      obtain ⟨_, _, _, _, hres⟩ := resizeSplit_effect w path ratio
      rw [apply, hres]
  | setDefaultActivePane paneId =>
      obtain ⟨_, _, _, _, hres⟩ := setDefaultActivePane_effect w paneId
      rw [apply, hres]
  | attachClient clientId mode now =>
      obtain ⟨_, _, _, hres⟩ := attachClient_effect w clientId mode now
      rw [apply, hres]
  | detachClient clientId reason =>
      obtain ⟨_, _, _, hres⟩ := detachClient_effect w clientId reason
      rw [apply, hres]
  | setAutoName name =>
      obtain ⟨_, _, _, hres⟩ := setAutoName_effect w name
      rw [apply, hres]
  | refreshAutoName proc =>
      obtain ⟨_, _, hres⟩ := refreshAutoName_effect w proc
      rw [apply, hres]
  | rename name =>
      obtain ⟨_, _, _, hres⟩ := rename_effect w name
      rw [apply, hres]
  | resizePane paneId cols rows =>
      obtain ⟨_, _, _, hres⟩ := updatePane_effect w paneId _ _
      rw [apply, resizePane, hres]
  | setPaneTitle paneId title =>
      obtain ⟨_, _, _, hres⟩ := updatePane_effect w paneId _ _
      rw [apply, setPaneTitle, hres]
  | setPaneNoPersist paneId noPersist =>
      obtain ⟨_, _, _, hres⟩ := updatePane_effect w paneId _ _
      rw [apply, setPaneNoPersist, hres]
  | setPaneExitStatus paneId status =>
      obtain ⟨_, _, _, hres⟩ := updatePane_effect w paneId _ _
      rw [apply, setPaneExitStatus, hres]
  | takeOutput paneId raw =>
      obtain ⟨_, hres⟩ := takeOutput_effect w paneId raw
      rw [apply, hres]
  | returnOutput paneId screen proc =>
      obtain ⟨_, _, _, hres⟩ := returnOutput_effect w paneId screen proc
      rw [apply, hres]
  | markPersisted => rfl

end Effects

section Revisions

variable {P : Type u} {G : Type v}

/-- The revision moved by at most one bump and stayed a 64-bit integer, and
the persisted revision did not move. -/
structure Bumped (w w' : Workspace P G) : Prop where
  le : w.revision ≤ u64Max → w.revision ≤ w'.revision
  max : w.revision ≤ u64Max → w'.revision ≤ u64Max
  persisted : w'.persistedRevision = w.persistedRevision

theorem Bumped.of_eq {w w' : Workspace P G}
    (hrev : w'.revision = w.revision)
    (hper : w'.persistedRevision = w.persistedRevision) :
    w.Bumped w' :=
  ⟨fun _ => by omega, fun h => by omega, hper⟩

theorem Bumped.refl (w : Workspace P G) : w.Bumped w :=
  Bumped.of_eq rfl rfl

theorem Bumped.trans {w₁ w₂ w₃ : Workspace P G}
    (h : w₁.Bumped w₂)
    (h' : w₂.Bumped w₃) :
    w₁.Bumped w₃ := by
  refine ⟨fun hmax => ?_, fun hmax => h'.max (h.max hmax), h'.persisted.trans h.persisted⟩
  exact Nat.le_trans (h.le hmax) (h'.le (h.max hmax))

theorem Bumped.bump {w w' : Workspace P G}
    (h : w.Bumped w') :
    w.Bumped w'.bumpRevision := by
  refine ⟨fun hmax => ?_, fun _ => ?_, h.persisted⟩
  · exact Nat.le_trans (h.le hmax) (le_saturatingAdd (h.max hmax))
  · exact saturatingAdd_le_max _ _

/-- A workspace that differs from `w` only in other fields, then bumped. -/
theorem Bumped.of_eq_bump {w w' : Workspace P G}
    (hrev : w'.revision = w.revision)
    (hper : w'.persistedRevision = w.persistedRevision) :
    w.Bumped w'.bumpRevision :=
  (Bumped.of_eq hrev hper).bump

theorem addPane_bumped (w : Workspace P G) (pane : Pane P G) :
    w.Bumped (w.addPane pane) := by
  unfold addPane
  simp only
  split
  · exact Bumped.of_eq_bump rfl rfl
  · exact Bumped.of_eq_bump rfl rfl

theorem splitPane_bumped (w : Workspace P G) (target : Uuid) (pane : Pane P G)
    (axis : SplitAxis) (ratio : F32) :
    w.Bumped (w.splitPane target pane axis ratio).2 := by
  unfold splitPane
  split
  · exact Bumped.refl w
  · simp only
    split
    · exact Bumped.of_eq_bump rfl rfl
    · exact Bumped.of_eq_bump rfl rfl

theorem removePane_bumped (w : Workspace P G) (paneId : Uuid) :
    w.Bumped (w.removePane paneId).2 := by
  unfold removePane
  split
  · exact Bumped.refl w
  · simp only
    split
    · exact Bumped.of_eq_bump rfl rfl
    · exact Bumped.of_eq_bump rfl rfl

theorem resizeSplit_bumped (w : Workspace P G) (path : List Side) (ratio : F32) :
    w.Bumped (w.resizeSplit path ratio).2 := by
  unfold resizeSplit
  split
  · exact Bumped.of_eq_bump rfl rfl
  · exact Bumped.refl w

theorem setDefaultActivePane_bumped (w : Workspace P G) (paneId : Uuid) :
    w.Bumped (w.setDefaultActivePane paneId).2 := by
  unfold setDefaultActivePane
  split
  · exact Bumped.of_eq_bump rfl rfl
  · exact Bumped.refl w

theorem insertClient_bumped (w : Workspace P G) (clientId : Uuid) (role : ClientRole) :
    w.Bumped (w.insertClient clientId role) := by
  unfold insertClient
  simp only
  split
  · exact Bumped.of_eq_bump rfl rfl
  · exact Bumped.of_eq rfl rfl

theorem attachClient_bumped (w : Workspace P G) (clientId : Uuid) (mode : AttachMode)
    (now : Nat) :
    w.Bumped (w.attachClient clientId mode now).2 := by
  have htouch : w.Bumped { w with lastActiveAt := now } := Bumped.of_eq rfl rfl
  unfold attachClient
  cases mode with
  | readOnly => exact htouch.trans (insertClient_bumped _ _ _)
  | readWrite =>
      simp only
      split
      · exact htouch
      · exact htouch.trans (insertClient_bumped _ _ _)
  | takeOver =>
      simp only
      split
      · exact htouch
      · exact Bumped.of_eq_bump rfl rfl

theorem detachClient_bumped (w : Workspace P G) (clientId : Uuid) (reason : DetachReason) :
    w.Bumped (w.detachClient clientId reason).2 := by
  unfold detachClient
  split
  · exact Bumped.refl w
  · simp only
    split
    · exact Bumped.of_eq_bump rfl rfl
    · exact Bumped.of_eq_bump rfl rfl

theorem setAutoName_bumped (w : Workspace P G) (name : String) :
    w.Bumped (w.setAutoName name).2 := by
  unfold setAutoName
  split
  · exact Bumped.refl w
  · exact Bumped.of_eq_bump rfl rfl

theorem refreshAutoName_bumped (w : Workspace P G) (proc : ProcFs) :
    w.Bumped (w.refreshAutoName proc).2 := by
  unfold refreshAutoName
  split
  · exact Bumped.refl w
  · split
    · exact Bumped.refl w
    · split
      · exact Bumped.refl w
      · exact Bumped.of_eq_bump rfl rfl

theorem rename_bumped (w : Workspace P G) (name : String) :
    w.Bumped (w.rename name).2 := by
  unfold rename
  split
  · exact Bumped.of_eq_bump rfl rfl
  · exact Bumped.refl w

theorem updatePane_bumped (w : Workspace P G) (paneId : Uuid) (changed : Pane P G → Bool)
    (update : Pane P G → Pane P G) :
    w.Bumped (w.updatePane paneId changed update).2 := by
  unfold updatePane
  split
  · exact Bumped.refl w
  · simp only
    split
    · exact Bumped.of_eq_bump rfl rfl
    · exact Bumped.of_eq rfl rfl

theorem setPaneCwd_bumped (w : Workspace P G) (paneId : Uuid) (cwd : String) :
    w.Bumped (w.setPaneCwd paneId cwd).2 := by
  unfold setPaneCwd
  split
  · exact Bumped.refl w
  · exact Bumped.of_eq_bump rfl rfl

theorem recordCwd_bumped (w : Workspace P G) (paneId : Uuid) (newCwd : Option String) :
    w.Bumped (w.recordCwd paneId newCwd).2 := by
  cases newCwd with
  | none => exact Bumped.refl w
  | some cwd => exact setPaneCwd_bumped w paneId cwd

theorem recordName_bumped (w : Workspace P G) (paneId : Uuid) (cwdChanged : Bool)
    (proc : ProcFs) :
    w.Bumped (w.recordName paneId cwdChanged proc).2 := by
  unfold recordName
  split
  · exact refreshAutoName_bumped w proc
  · exact Bumped.refl w

theorem recordTitle_bumped (w : Workspace P G) (paneId : Uuid) (newTitle : Option String) :
    w.Bumped (w.recordTitle paneId newTitle).2 := by
  cases newTitle with
  | none => exact Bumped.refl w
  | some title => exact updatePane_bumped w paneId _ _

theorem returnOutput_bumped (w : Workspace P G) (paneId : Uuid) (screen : PaneScreen P G)
    (proc : ProcFs) :
    w.Bumped (w.returnOutput paneId screen proc).2 := by
  unfold returnOutput
  split
  · exact Bumped.refl w
  · rename_i pane _
    have hput : w.Bumped
        { w with panes := w.panes.insert paneId (pane.returnScreen screen).2 } :=
      Bumped.of_eq rfl rfl
    exact ((hput.trans (recordCwd_bumped _ _ _)).trans (recordName_bumped _ _ _ _)).trans
      (recordTitle_bumped _ _ _)

variable [VteParser P] [Vt100Parser G]

theorem takeOutput_bumped (w : Workspace P G) (paneId : Uuid) (raw : Bytes) :
    w.Bumped (w.takeOutput paneId raw).2 := by
  unfold takeOutput
  split
  · exact Bumped.refl w
  · exact Bumped.of_eq rfl rfl

/-- Every operation but `markPersisted` leaves the persisted revision alone and
moves the revision only upwards. -/
theorem apply_bumped (w : Workspace P G) (op : WorkspaceOp P G)
    (h : op ≠ .markPersisted) :
    w.Bumped (w.apply op) := by
  cases op with
  | addPane pane => exact addPane_bumped w pane
  | splitPane target pane axis ratio => exact splitPane_bumped w target pane axis ratio
  | removePane paneId => exact removePane_bumped w paneId
  | resizeSplit path ratio => exact resizeSplit_bumped w path ratio
  | setDefaultActivePane paneId => exact setDefaultActivePane_bumped w paneId
  | attachClient clientId mode now => exact attachClient_bumped w clientId mode now
  | detachClient clientId reason => exact detachClient_bumped w clientId reason
  | setAutoName name => exact setAutoName_bumped w name
  | refreshAutoName proc => exact refreshAutoName_bumped w proc
  | rename name => exact rename_bumped w name
  | resizePane paneId cols rows => exact updatePane_bumped w paneId _ _
  | setPaneTitle paneId title => exact updatePane_bumped w paneId _ _
  | setPaneNoPersist paneId noPersist => exact updatePane_bumped w paneId _ _
  | setPaneExitStatus paneId status => exact updatePane_bumped w paneId _ _
  | takeOutput paneId raw => exact takeOutput_bumped w paneId raw
  | returnOutput paneId screen proc => exact returnOutput_bumped w paneId screen proc
  | markPersisted => exact absurd rfl h

/-- The persisted revision, the revision and the counter's maximum are in order. -/
theorem Reachable.revisions {w : Workspace P G}
    (h : w.Reachable) :
    w.persistedRevision ≤ w.revision ∧ w.revision ≤ u64Max := by
  refine h.invariant (I := fun w => w.persistedRevision ≤ w.revision ∧ w.revision ≤ u64Max)
    ?_ ?_
  · rintro w ⟨id, name, now, policy, rfl⟩
    simp [new, defaultWorkspaceRevision, u64Max]
  · intro w op hI
    by_cases hmark : op = .markPersisted
    · subst hmark
      exact ⟨Nat.le_refl _, hI.2⟩
    · have hb := apply_bumped w op hmark
      refine ⟨?_, hb.max hI.2⟩
      rw [hb.persisted]
      exact Nat.le_trans hI.1 (hb.le hI.2)

/-- No reachable workspace is persisted ahead of its revision. -/
theorem Reachable.persistedRevision_le {w : Workspace P G}
    (h : w.Reachable) :
    w.persistedRevision ≤ w.revision :=
  h.revisions.1

/-- The counter stays a 64-bit integer. -/
theorem Reachable.revision_le_max {w : Workspace P G}
    (h : w.Reachable) :
    w.revision ≤ u64Max :=
  h.revisions.2

end Revisions

end Workspace

end Server
end Rttx
