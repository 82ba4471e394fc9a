import Mathlib.Logic.Function.Basic
import Rttx.Server.PaneLookup
import Rttx.Server.PaneStructure

/-!
# Workspace files

What the daemon writes to disk for a workspace.  The pane list of a file is in
the iteration order of a hash map, so files are compared through their durable
content, in which the panes are a function of their id.

**Results.**
* `mem_toWorkspaceFile_panes`: the pane list of a file is exactly the panes of
  the workspace.
* `updatePane_durableSpec`: an update of one pane shows in that pane's entry
  only.
-/

namespace Rttx
namespace Server

open Kernel

universe u v

def runtimeFileSchemaVersion : Nat := 2

/-- Durable pane specification. -/
structure PaneSpecV2 where
  id : PaneId
  cwd : Option String
  title : Option String
  exitStatus : Option Int
  cols : Nat
  rows : Nat
  noPersist : Bool
deriving DecidableEq

/-- Durable workspace specification. -/
structure WorkspaceSpecV2 where
  id : Uuid
  name : String
  userRenamed : Bool
  policy : WorkspacePolicy
  createdAt : Nat
  tree : WorkspaceTree
  panes : List PaneSpecV2
deriving DecidableEq

/-- Revision counter and times. -/
structure WorkspaceInstanceV1 where
  revision : Nat
  lastActiveAt : Nat
  lastSnapshotAt : Nat
deriving DecidableEq

/-- The file of a workspace. -/
structure WorkspaceFileV2 where
  schemaVersion : Nat
  spec : WorkspaceSpecV2
  instanceData : WorkspaceInstanceV1
deriving DecidableEq

/-- The durable content of a workspace, independent of the order of its panes. -/
@[ext]
structure DurableSpec where
  id : Uuid
  name : String
  userRenamed : Bool
  policy : WorkspacePolicy
  createdAt : Nat
  tree : WorkspaceTree
  panes : Uuid → Option PaneSpecV2

/-- The entry of a pane list under an id. -/
def paneEntry (panes : List PaneSpecV2) (id : Uuid) : Option PaneSpecV2 :=
  panes.find? (fun p => p.id = .fromUuid id)

def WorkspaceSpecV2.durable (s : WorkspaceSpecV2) : DurableSpec where
  id := s.id
  name := s.name
  userRenamed := s.userRenamed
  policy := s.policy
  createdAt := s.createdAt
  tree := s.tree
  panes := paneEntry s.panes

namespace DurableSpec

/-- The durable content with the entry of one pane replaced. -/
def setPane (s : DurableSpec) (id : Uuid) (entry : Option PaneSpecV2) : DurableSpec :=
  { s with panes := Function.update s.panes id entry }

/-- Replacing an entry changes nothing exactly when the entry was there. -/
theorem setPane_eq_self_iff (s : DurableSpec) (id : Uuid) (entry : Option PaneSpecV2) :
    s.setPane id entry = s ↔ entry = s.panes id := by
  constructor
  · intro h
    have hentry := congrFun (congrArg DurableSpec.panes h) id
    simpa [setPane] using hentry
  · intro h
    subst h
    simp [setPane]

end DurableSpec

section Files

variable {P : Type u} {G : Type v}

/-- The durable specification of a pane, with the `/proc` fallback. -/
def paneSpec (proc : ProcFs) (p : Pane P G) : PaneSpecV2 where
  id := .fromUuid p.id
  cwd := p.cwd.or (p.readProcCwd proc)
  title := p.title
  exitStatus := p.exitStatus
  cols := p.cols
  rows := p.rows
  noPersist := p.noPersist

namespace Workspace

/-- The file of a workspace, written at time `now`. -/
def toWorkspaceFile (w : Workspace P G) (proc : ProcFs) (now : Nat) : WorkspaceFileV2 where
  schemaVersion := runtimeFileSchemaVersion
  spec :=
    { id := w.id
      name := w.name
      userRenamed := w.userRenamed
      policy := w.policy
      createdAt := w.createdAt
      tree := w.tree
      panes := w.panes.values.map (paneSpec proc) }
  instanceData :=
    { revision := w.revision
      lastActiveAt := w.lastActiveAt
      lastSnapshotAt := now }

/-- The durable content of a workspace. -/
def durableSpec (w : Workspace P G) (proc : ProcFs) : DurableSpec where
  id := w.id
  name := w.name
  userRenamed := w.userRenamed
  policy := w.policy
  createdAt := w.createdAt
  tree := w.tree
  panes := fun id => (w.panes.lookup id).map (paneSpec proc)

/-- The pane list of a file is exactly the panes of the workspace. -/
theorem mem_toWorkspaceFile_panes (w : Workspace P G) (proc : ProcFs) (now : Nat)
    (spec : PaneSpecV2) :
    spec ∈ (w.toWorkspaceFile proc now).spec.panes ↔
      ∃ id pane, w.panes.lookup id = some pane ∧ paneSpec proc pane = spec := by
  simp only [toWorkspaceFile, HashMap.values, List.map_map, List.mem_map]
  constructor
  · rintro ⟨⟨id, pane⟩, hmem, rfl⟩
    exact ⟨id, pane, (HashMap.lookup_eq_some_iff_mem w.panes id pane).mpr hmem, rfl⟩
  · rintro ⟨id, pane, hlook, rfl⟩
    exact ⟨⟨id, pane⟩, (HashMap.lookup_eq_some_iff_mem w.panes id pane).mp hlook, rfl⟩

/-- Every pane is stored under its own id. -/
def KeyedById (w : Workspace P G) : Prop :=
  ∀ id pane, w.panes.lookup id = some pane → pane.id = id

/-- The durable content of a file is that of the workspace it was built from. -/
theorem toWorkspaceFile_durable {w : Workspace P G}
    (h : w.KeyedById)
    (proc : ProcFs)
    (now : Nat) :
    (w.toWorkspaceFile proc now).spec.durable = w.durableSpec proc := by
  have hpanes : paneEntry (w.toWorkspaceFile proc now).spec.panes =
      (w.durableSpec proc).panes := by
    funext id
    cases hentry : paneEntry (w.toWorkspaceFile proc now).spec.panes id with
    | some spec =>
        have hmem := List.mem_of_find?_eq_some hentry
        have hid : spec.id = .fromUuid id := by simpa using List.find?_some hentry
        obtain ⟨k, pane, hlook, rfl⟩ := (mem_toWorkspaceFile_panes w proc now spec).mp hmem
        have hk : k = id := by
          rw [← h k pane hlook]
          exact PaneId.fromUuid.inj hid
        subst hk
        simp [durableSpec, hlook]
    | none =>
        cases hlook : w.panes.lookup id with
        | none => simp [durableSpec, hlook]
        | some pane =>
            have hmem := (mem_toWorkspaceFile_panes w proc now (paneSpec proc pane)).mpr
              ⟨id, pane, hlook, rfl⟩
            have hno := List.find?_eq_none.mp hentry _ hmem
            simp [paneSpec, h id pane hlook] at hno
  exact DurableSpec.ext rfl rfl rfl rfl rfl rfl hpanes

/-- The durable content after an in-place update of a known pane. -/
theorem durableSpec_modify {w : Workspace P G} {paneId : Uuid} {pane : Pane P G}
    (hpane : w.panes.lookup paneId = some pane)
    (proc : ProcFs)
    (update : Pane P G → Pane P G) :
    ({ w with panes := w.panes.modify paneId update } : Workspace P G).durableSpec proc =
      (w.durableSpec proc).setPane paneId (some (paneSpec proc (update pane))) := by
  refine DurableSpec.ext rfl rfl rfl rfl rfl rfl ?_
  funext k
  by_cases hk : k = paneId
  · subst hk
    simp [durableSpec, DurableSpec.setPane, hpane]
  · simp [durableSpec, DurableSpec.setPane, HashMap.lookup_modify, hk]

/-- The durable content after storing a pane. -/
theorem durableSpec_insert (w : Workspace P G) (proc : ProcFs) (paneId : Uuid)
    (pane : Pane P G) :
    ({ w with panes := w.panes.insert paneId pane } : Workspace P G).durableSpec proc =
      (w.durableSpec proc).setPane paneId (some (paneSpec proc pane)) := by
  refine DurableSpec.ext rfl rfl rfl rfl rfl rfl ?_
  funext k
  by_cases hk : k = paneId
  · subst hk
    simp [durableSpec, DurableSpec.setPane]
  · simp [durableSpec, DurableSpec.setPane, HashMap.lookup_insert_eq, hk]

/-- An update of one pane shows in that pane's entry only. -/
theorem updatePane_durableSpec {w : Workspace P G} {paneId : Uuid} {pane : Pane P G}
    (hpane : w.panes.lookup paneId = some pane)
    (proc : ProcFs)
    (changed : Pane P G → Bool)
    (update : Pane P G → Pane P G) :
    (w.updatePane paneId changed update).2.durableSpec proc =
      (w.durableSpec proc).setPane paneId (some (paneSpec proc (update pane))) := by
  rw [← durableSpec_modify hpane proc update]
  simp only [updatePane, hpane]
  split <;> rfl

end Workspace

end Files

section Keys

variable {P : Type u} {G : Type v}

namespace Workspace

theorem KeyedById.of_panes {w w' : Workspace P G}
    (h : w.KeyedById)
    (hsame : w'.panes = w.panes) :
    w'.KeyedById := by
  intro id pane hlook
  rw [hsame] at hlook
  exact h id pane hlook

theorem KeyedById.insert {w : Workspace P G}
    (h : w.KeyedById)
    (paneId : Uuid)
    (pane : Pane P G)
    (hid : pane.id = paneId) :
    ({ w with panes := w.panes.insert paneId pane } : Workspace P G).KeyedById := by
  intro k p hlook
  rcases HashMap.lookup_insert_cases hlook with ⟨rfl, rfl⟩ | ⟨_, hlook⟩
  · exact hid
  · exact h k p hlook

/-- An operation that replaces the pane found under one id by another one with
the same id keeps the panes under their ids. -/
theorem KeyedById.of_lookup {w w' : Workspace P G} {paneId : Uuid}
    {update : Pane P G → Pane P G}
    (h : w.KeyedById)
    (hlook : ∀ k, w'.panes.lookup k =
      if k = paneId then (w.panes.lookup paneId).map update else w.panes.lookup k)
    (hid : ∀ pane, (update pane).id = pane.id) :
    w'.KeyedById := by
  intro k p hk
  rw [hlook] at hk
  by_cases hkid : k = paneId
  · rw [if_pos hkid] at hk
    obtain ⟨old, hold, rfl⟩ := Option.map_eq_some_iff.mp hk
    rw [hid, hkid]
    exact h paneId old hold
  · rw [if_neg hkid] at hk
    exact h k p hk

theorem KeyedById.updatePane {w : Workspace P G}
    (h : w.KeyedById)
    {paneId : Uuid}
    {changed : Pane P G → Bool}
    {update : Pane P G → Pane P G}
    (hid : ∀ pane, (update pane).id = pane.id) :
    (w.updatePane paneId changed update).2.KeyedById :=
  h.of_lookup (fun k => lookup_updatePane w paneId k changed update) hid

theorem KeyedById.removePane {w : Workspace P G}
    (h : w.KeyedById)
    (paneId : Uuid) :
    (w.removePane paneId).2.KeyedById := by
  intro k p hlook
  rw [lookup_removePane] at hlook
  by_cases hk : k = paneId
  · simp [hk] at hlook
  · rw [if_neg hk] at hlook
    exact h k p hlook

variable [VteParser P] [Vt100Parser G]

/-- Every operation keeps the panes under their ids. -/
theorem KeyedById.apply {w : Workspace P G}
    (h : w.KeyedById)
    (op : WorkspaceOp P G) :
    (w.apply op).KeyedById := by
  cases op with
  | addPane pane => exact (h.insert pane.id pane rfl).of_panes (addPane_panes w pane)
  | splitPane target pane axis ratio =>
      rcases splitPane_cases w target pane axis ratio with hres | ⟨_, _, _, _, hres⟩
      · simpa only [Workspace.apply, hres] using h
      · exact (h.insert pane.id pane rfl).of_panes (by simp [Workspace.apply, hres])
  | removePane paneId => exact h.removePane paneId
  | resizeSplit path ratio =>
      rcases resizeSplit_cases w path ratio with hres | ⟨_, hres⟩
      · simpa only [Workspace.apply, hres] using h
      · exact h.of_panes (by simp [Workspace.apply, hres])
  | setDefaultActivePane paneId =>
      rcases setDefaultActivePane_cases w paneId with hres | ⟨_, _, hres⟩
      · simpa only [Workspace.apply, hres] using h
      · exact h.of_panes (by simp [Workspace.apply, hres])
  | attachClient clientId mode now =>
      exact h.of_panes (attachClient_effect w clientId mode now).panes
  | detachClient clientId reason => exact h.of_panes (detachClient_effect w clientId reason).panes
  | setAutoName name => exact h.of_panes (setAutoName_effect w name).panes
  | refreshAutoName proc => exact h.of_panes (refreshAutoName_panes w proc)
  | rename name => exact h.of_panes (rename_effect w name).panes
  | resizePane paneId cols rows => exact h.updatePane (fun _ => rfl)
  | setPaneTitle paneId title => exact h.updatePane (fun _ => rfl)
  | setPaneNoPersist paneId noPersist => exact h.updatePane (fun _ => rfl)
  | setPaneExitStatus paneId status => exact h.updatePane (fun _ => rfl)
  | takeOutput paneId raw =>
      exact h.of_lookup (lookup_takeOutput w paneId raw) (fun _ => rfl)
  | returnOutput paneId screen proc =>
      exact h.of_lookup (lookup_returnOutput w paneId screen proc) (fun _ => rfl)
  | markPersisted => exact h

/-- In every reachable workspace the panes are stored under their ids. -/
theorem Reachable.keyedById {w : Workspace P G}
    (h : w.Reachable) :
    w.KeyedById := by
  refine h.invariant ?_ (fun _ op hI => hI.apply op)
  rintro w ⟨id, name, now, policy, rfl⟩ k pane hlook
  simp [new] at hlook

end Workspace

end Keys

end Server
end Rttx
