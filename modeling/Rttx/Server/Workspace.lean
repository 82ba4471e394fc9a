import Mathlib.Tactic.Simps.Basic
import Rttx.Kernel.HashMap
import Rttx.Server.Pane

/-!
# Workspaces

A workspace is a named collection of panes with an arrangement tree, a set of
attached clients, and a revision counter that is compared with the revision at
which the workspace was last written to disk.

The definitions follow the daemon's methods.  A method that mutates returns the
new workspace, after its result if it has one.

**Results.**
* `attachClient_readWrite_cases`, `attachClient_takeOver_cases`, `detachClient_cases`:
  the outcomes of an attach and of a detach.
-/

namespace Rttx
namespace Server

open Kernel

universe u v

section Vocabulary

/-- Retention policy of a workspace. -/
inductive WorkspacePolicy
  | persistent
  | ephemeral
deriving DecidableEq, Repr

/-- Client role within a workspace. -/
inductive ClientRole
  | writer
  | reader
deriving DecidableEq, Repr

/-- Requested attach mode. -/
inductive AttachMode
  | readWrite
  | readOnly
  | takeOver
deriving DecidableEq, Repr

/-- Reason a workspace was terminated. -/
inductive TerminationReason
  | explicit
  | ephemeralLastDetach
deriving DecidableEq, Repr

/-- Why a client attachment is being removed. -/
inductive DetachReason
  | explicitRequest
  | disconnect
deriving DecidableEq, Repr

/-- Result of attempting to attach a client. -/
inductive AttachOutcome
  | attached (role : ClientRole) (revision : Nat)
  | blocked (currentRole : Option ClientRole) (revision : Nat)
deriving DecidableEq, Repr

/-- Errors of an attach request. -/
inductive AttachError
  | takeoverNotEligible
deriving DecidableEq, Repr

/-- Result of detaching a client. -/
inductive DetachOutcome
  | detached (revision : Nat)
  | notAttached (revision : Nat)
  | terminated (finalRevision : Nat) (reason : TerminationReason)
deriving DecidableEq, Repr

end Vocabulary

def defaultWorkspaceRevision : Nat := 1

def defaultSplitAxis : SplitAxis := .horizontal

def defaultSplitRatio : F32 := F32.half

/-- State of a single workspace. -/
structure Workspace (P : Type u) (G : Type v) where
  id : Uuid
  name : String
  userRenamed : Bool
  panes : HashMap Uuid (Pane P G)
  activePaneId : Option Uuid
  tree : WorkspaceTree
  policy : WorkspacePolicy
  reconstructed : Bool
  revision : Nat
  persistedRevision : Nat
  createdAt : Nat
  lastActiveAt : Nat
  attachedClients : HashMap Uuid ClientRole

/-- The last component of a path, unless it is the parent directory; empty and
current-directory components do not count. -/
def fileName (path : String) : Option String :=
  let components := (path.toList.splitOn '/').filter (fun c => c ≠ [] ∧ c ≠ ['.'])
  match components.getLast? with
  | none => none
  | some c => if c = ['.', '.'] then none else some (String.ofList c)

/-- The automatic workspace name for a shell working in `cwd`. -/
def autoNameFromCwd (cwd : String) : Option String :=
  match fileName cwd with
  | none => none
  | some name => if name = "" then none else some name

/-- The tree with `newPane` placed in it: as the root of an empty tree, else by
splitting the active pane or, failing that, the first one. -/
def placePane (tree : WorkspaceTree) (active : Option PaneId) (newPane : PaneId) :
    WorkspaceTree :=
  match tree.insertRoot newPane with
  | (tree, true) => tree
  | (tree, false) =>
      match (active.filter (fun t => tree.contains t)).or tree.panes.head? with
      | none => tree
      | some target => (tree.split target newPane defaultSplitAxis defaultSplitRatio).1

/-- The focus after the focused pane was closed. -/
def CloseOutcome.focus : CloseOutcome → Option Uuid
  | .removed defaultActive => some defaultActive.uuid
  | .emptied => none
  | .notFound => none

namespace Workspace

section Methods

variable {P : Type u} {G : Type v}

/-- A new empty workspace, created at time `now`. -/
def new (id : Uuid) (name : String) (now : Nat) : Workspace P G where
  id := id
  name := name
  userRenamed := false
  panes := ∅
  activePaneId := none
  tree := WorkspaceTree.new
  policy := .persistent
  reconstructed := false
  revision := defaultWorkspaceRevision
  persistedRevision := 0
  createdAt := now
  lastActiveAt := now
  attachedClients := ∅

@[simps]
def bumpRevision (w : Workspace P G) : Workspace P G :=
  { w with revision := saturatingAdd w.revision 1 }

/-- Whether there are unsaved changes since the last persist. -/
def isDirty (w : Workspace P G) : Bool :=
  w.persistedRevision < w.revision

/-- Mark the workspace as persisted at its current revision. -/
@[simps]
def markPersisted (w : Workspace P G) : Workspace P G :=
  { w with persistedRevision := w.revision }

/-- Place `id` in the tree without bumping the revision. -/
@[simps]
def insertPaneIntoTree (w : Workspace P G) (id : Uuid) : Workspace P G :=
  { w with tree := placePane w.tree (w.activePaneId.map PaneId.fromUuid) (.fromUuid id) }

/-- Add a pane: it seeds an empty tree, otherwise it splits the active pane. -/
def addPane (w : Workspace P G) (pane : Pane P G) : Workspace P G :=
  let id := pane.id
  let w := { w with panes := w.panes.insert id pane }
  let w := w.insertPaneIntoTree id
  let w := if w.activePaneId.isNone then { w with activePaneId := some id } else w
  w.bumpRevision

/-- Add `pane` by splitting the leaf of `target`. -/
def splitPane (w : Workspace P G) (target : Uuid) (pane : Pane P G) (axis : SplitAxis)
    (ratio : F32) : Option Nat × Workspace P G :=
  match w.tree.split (.fromUuid target) (.fromUuid pane.id) axis ratio with
  | (_, false) => (none, w)
  | (tree, true) =>
      let w := { w with tree := tree }
      let w := if w.activePaneId.isNone then { w with activePaneId := some pane.id } else w
      let w := { w with panes := w.panes.insert pane.id pane }
      let w := w.bumpRevision
      (some w.revision, w)

/-- Remove a pane; focus follows the tree's default-active pane. -/
def removePane (w : Workspace P G) (paneId : Uuid) : Option (Pane P G) × Workspace P G :=
  match w.panes.lookup paneId with
  | none => (none, w)
  | some pane =>
      let w := { w with panes := w.panes.erase paneId }
      let (tree, outcome) := w.tree.close (.fromUuid paneId)
      let w := { w with tree := tree }
      let w := if w.activePaneId = some paneId then
          { w with activePaneId := outcome.focus }
        else w
      (some pane, w.bumpRevision)

/-- Set the ratio of the split addressed by `path`. -/
def resizeSplit (w : Workspace P G) (path : List Side) (ratio : F32) :
    Option Nat × Workspace P G :=
  match w.tree.resizeSplit path ratio with
  | (tree, true) =>
      let w := { w with tree := tree }.bumpRevision
      (some w.revision, w)
  | (_, false) => (none, w)

/-- Make `paneId` the default-active pane and the live focus. -/
def setDefaultActivePane (w : Workspace P G) (paneId : Uuid) : Option Nat × Workspace P G :=
  match w.tree.setDefaultActive (.fromUuid paneId) with
  | (tree, true) =>
      let w := { w with tree := tree, activePaneId := some paneId }.bumpRevision
      (some w.revision, w)
  | (_, false) => (none, w)

def clientRole (w : Workspace P G) (clientId : Uuid) : Option ClientRole :=
  w.attachedClients.lookup clientId

/-- The current writer client, if any. -/
def writerClientId (w : Workspace P G) : Option Uuid :=
  w.attachedClients.findKey (fun role => role = .writer)

/-- Whether `clientId` may seize the write lease from the current owner. -/
def takeoverEligibleFor (w : Workspace P G) (clientId : Uuid) : Bool :=
  w.policy = .persistent &&
    match w.writerClientId with
    | none => false
    | some writer => writer ≠ clientId

/-- Whether the given client can mutate workspace state. -/
def clientHasWriteAccess (w : Workspace P G) (clientId : Uuid) : Bool :=
  match w.clientRole clientId with
  | some .writer => true
  | some .reader => false
  | none => w.writerClientId.isNone

/-- Insert `clientId` under `role`, bumping the revision if that is a change. -/
def insertClient (w : Workspace P G) (clientId : Uuid) (role : ClientRole) : Workspace P G :=
  let changed := w.attachedClients.lookup clientId ≠ some role
  let w := { w with attachedClients := w.attachedClients.insert clientId role }
  if changed then w.bumpRevision else w

/-- Attach a client at time `now`. -/
def attachClient (w : Workspace P G) (clientId : Uuid) (mode : AttachMode) (now : Nat) :
    Except AttachError AttachOutcome × Workspace P G :=
  let w := { w with lastActiveAt := now }
  match mode with
  | .readOnly =>
      let w := w.insertClient clientId .reader
      (.ok (.attached .reader w.revision), w)
  | .readWrite =>
      if w.writerClientId.any (fun writer => writer ≠ clientId) then
        (.ok (.blocked (w.clientRole clientId) w.revision), w)
      else
        let w := w.insertClient clientId .writer
        (.ok (.attached .writer w.revision), w)
  | .takeOver =>
      if !w.takeoverEligibleFor clientId then
        (.error .takeoverNotEligible, w)
      else
        let demoted :=
          match w.writerClientId with
          | none => w.attachedClients
          | some previousWriter => w.attachedClients.insert previousWriter .reader
        let w := { w with attachedClients := demoted.insert clientId .writer }
        let w := w.bumpRevision
        (.ok (.attached .writer w.revision), w)

/-- Detach a client. -/
def detachClient (w : Workspace P G) (clientId : Uuid) (reason : DetachReason) :
    DetachOutcome × Workspace P G :=
  match w.attachedClients.lookup clientId with
  | none => (.notAttached w.revision, w)
  | some _ =>
      let w := { w with attachedClients := w.attachedClients.erase clientId }
      let w := w.bumpRevision
      if reason = .explicitRequest ∧ w.policy = .ephemeral ∧ w.attachedClients.entries = [] then
        (.terminated w.revision .ephemeralLastDetach, w)
      else
        (.detached w.revision, w)

/-- Apply an automatic name proposed over the wire. -/
def setAutoName (w : Workspace P G) (name : String) : Option Nat × Workspace P G :=
  if w.userRenamed || w.name = name || name = "" then
    (none, w)
  else
    let w := { w with name := name }.bumpRevision
    (some w.revision, w)

/-- The pane whose working directory names the workspace. -/
def namingPaneId (w : Workspace P G) : Option Uuid :=
  let active := (w.tree.defaultActive.map PaneId.uuid).filter
    (fun id => (w.panes.lookup id).isSome)
  active.or (w.tree.panes.head?.map PaneId.uuid)

/-- Whether a change of the pane's working directory may rename the workspace. -/
def paneNamesWorkspace (w : Workspace P G) (paneId : Uuid) : Bool :=
  !w.userRenamed && w.namingPaneId == some paneId

/-- The name the naming pane's working directory suggests. -/
def derivedName (w : Workspace P G) (proc : ProcFs) : Option String :=
  w.namingPaneId.bind fun paneId =>
    (w.panes.lookup paneId).bind fun pane =>
      (pane.effectiveCwd proc).bind autoNameFromCwd

/-- Re-derive the automatic name from the naming pane's working directory. -/
def refreshAutoName (w : Workspace P G) (proc : ProcFs) : Option String × Workspace P G :=
  if w.userRenamed then
    (none, w)
  else
    match w.derivedName proc with
    | none => (none, w)
    | some name =>
        if name = w.name then
          (none, w)
        else
          (some name, { w with name := name }.bumpRevision)

/-- Rename the workspace; the name then counts as the user's. -/
def rename (w : Workspace P G) (name : String) : Nat × Workspace P G :=
  if w.name ≠ name || !w.userRenamed then
    let w := { w with name := name, userRenamed := true }.bumpRevision
    (w.revision, w)
  else
    (w.revision, w)

/-- Update one pane in place, bumping the revision when `changed` says so. -/
def updatePane (w : Workspace P G) (paneId : Uuid) (changed : Pane P G → Bool)
    (update : Pane P G → Pane P G) : Option Nat × Workspace P G :=
  match w.panes.lookup paneId with
  | none => (none, w)
  | some pane =>
      let w := { w with panes := w.panes.modify paneId update }
      let w := if changed pane then w.bumpRevision else w
      (some w.revision, w)

/-- Update a pane's size, resizing its grid when the size changes. -/
def resizePane [VteParser P] [Vt100Parser G] (w : Workspace P G) (paneId : Uuid)
    (cols rows : Nat) : Option Nat × Workspace P G :=
  w.updatePane paneId
    (fun pane => pane.cols ≠ cols || pane.rows ≠ rows)
    (fun pane =>
      let changed := pane.cols ≠ cols || pane.rows ≠ rows
      { pane with
        cols := cols
        rows := rows
        screen := if changed then pane.screen.resize cols rows else pane.screen })

/-- Update a pane's title. -/
def setPaneTitle (w : Workspace P G) (paneId : Uuid) (title : String) :
    Option Nat × Workspace P G :=
  w.updatePane paneId
    (fun pane => pane.title ≠ some title)
    (fun pane => { pane with title := some title })

/-- Update a pane's `noPersist` flag. -/
def setPaneNoPersist (w : Workspace P G) (paneId : Uuid) (noPersist : Bool) :
    Option Nat × Workspace P G :=
  w.updatePane paneId
    (fun pane => pane.noPersist ≠ noPersist)
    (fun pane => { pane with noPersist := noPersist })

/-- Record a working directory change that the pane already holds. -/
def setPaneCwd (w : Workspace P G) (paneId : Uuid) (_cwd : String) :
    Option Nat × Workspace P G :=
  match w.panes.lookup paneId with
  | none => (none, w)
  | some _ =>
      let w := w.bumpRevision
      (some w.revision, w)

/-- Update a pane's exit status. -/
def setPaneExitStatus (w : Workspace P G) (paneId : Uuid) (status : Option Int) :
    Option Nat × Workspace P G :=
  w.updatePane paneId
    (fun pane => pane.exitStatus ≠ status)
    (fun pane => { pane with exitStatus := status })

end Methods

section Roles

variable {P : Type u} {G : Type v}

/-- The writer client is attached as writer. -/
theorem clientRole_of_writerClientId {w : Workspace P G} {c : Uuid}
    (h : w.writerClientId = some c) :
    w.clientRole c = some .writer := by
  obtain ⟨role, hrole, hwriter⟩ := HashMap.findKey_eq_some h
  have heq : role = .writer := by simpa using hwriter
  rw [clientRole, hrole, heq]

/-- Without a writer client nobody is attached as writer. -/
theorem clientRole_ne_writer {w : Workspace P G}
    (h : w.writerClientId = none)
    (c : Uuid) :
    w.clientRole c ≠ some .writer := by
  intro hc
  have hfalse := HashMap.findKey_eq_none.mp h c .writer hc
  simp at hfalse

@[simp] theorem clientRole_insertClient (w : Workspace P G) (c : Uuid) (role : ClientRole)
    (k : Uuid) :
    (w.insertClient c role).clientRole k = if k = c then some role else w.clientRole k := by
  unfold insertClient clientRole
  simp only
  split
  · exact HashMap.lookup_insert_eq w.attachedClients c k role
  · exact HashMap.lookup_insert_eq w.attachedClients c k role

/-- The outcomes of a read-write attach. -/
theorem attachClient_readWrite_cases (w : Workspace P G) (c : Uuid) (now : Nat) :
    (∃ writer, w.writerClientId = some writer ∧ writer ≠ c ∧
        w.attachClient c .readWrite now =
          (.ok (.blocked (w.clientRole c) w.revision), { w with lastActiveAt := now })) ∨
      ((∀ writer, w.writerClientId = some writer → writer = c) ∧
        w.attachClient c .readWrite now =
          (.ok (.attached .writer
              (({ w with lastActiveAt := now } : Workspace P G).insertClient c .writer).revision),
            ({ w with lastActiveAt := now } : Workspace P G).insertClient c .writer)) := by
  have hsame : ({ w with lastActiveAt := now } : Workspace P G).writerClientId =
      w.writerClientId := rfl
  cases hw : w.writerClientId with
  | none =>
      right
      refine ⟨by simp, ?_⟩
      simp [attachClient, hsame, hw]
  | some writer =>
      by_cases hne : writer = c
      · right
        refine ⟨by simp [hne], ?_⟩
        simp [attachClient, hsame, hw, hne]
      · left
        refine ⟨writer, rfl, hne, ?_⟩
        simp [attachClient, hsame, hw, hne, clientRole]

/-- The outcomes of a takeover. -/
theorem attachClient_takeOver_cases (w : Workspace P G) (c : Uuid) (now : Nat) :
    (w.attachClient c .takeOver now =
        (.error .takeoverNotEligible, { w with lastActiveAt := now })) ∨
      ∃ previous, w.writerClientId = some previous ∧ previous ≠ c ∧
        w.attachClient c .takeOver now =
          (.ok (.attached .writer (saturatingAdd w.revision 1)),
            ({ w with
                lastActiveAt := now
                attachedClients := (w.attachedClients.insert previous .reader).insert c .writer }
              : Workspace P G).bumpRevision) := by
  have hsame : ({ w with lastActiveAt := now } : Workspace P G).writerClientId =
      w.writerClientId := rfl
  have hsameElig : ({ w with lastActiveAt := now } : Workspace P G).takeoverEligibleFor c =
      w.takeoverEligibleFor c := rfl
  by_cases helig : w.takeoverEligibleFor c = true
  · right
    cases hw : w.writerClientId with
    | none => simp [takeoverEligibleFor, hw] at helig
    | some previous =>
        have hpolicy : w.policy = .persistent ∧ previous ≠ c := by
          simpa [takeoverEligibleFor, hw] using helig
        refine ⟨previous, rfl, hpolicy.2, ?_⟩
        simp [attachClient, hsameElig, helig, hsame, hw]
  · left
    simp [attachClient, hsameElig, helig]

/-- The roles after a successful takeover. -/
theorem clientRole_takeOver {w : Workspace P G} {previous c : Uuid} {now : Nat}
    (k : Uuid) :
    (({ w with
        lastActiveAt := now
        attachedClients := (w.attachedClients.insert previous .reader).insert c .writer }
      : Workspace P G).bumpRevision).clientRole k =
      if k = c then some .writer
      else if k = previous then some .reader
      else w.clientRole k := by
  simp only [clientRole, bumpRevision_attachedClients, HashMap.lookup_insert_eq]

/-- A detach removes one client, or finds none and changes nothing. -/
theorem detachClient_cases (w : Workspace P G) (c : Uuid) (reason : DetachReason) :
    (w.clientRole c = none ∧ w.detachClient c reason = (.notAttached w.revision, w)) ∨
      ((w.clientRole c).isSome = true ∧
        (w.detachClient c reason).2 =
          ({ w with attachedClients := w.attachedClients.erase c } :
            Workspace P G).bumpRevision) := by
  cases hc : w.attachedClients.lookup c with
  | none => exact Or.inl ⟨hc, by simp [detachClient, hc]⟩
  | some role =>
      right
      refine ⟨by simp [clientRole, hc], ?_⟩
      simp only [detachClient, hc]
      split <;> rfl

end Roles

end Workspace

end Server
end Rttx
