import Rttx.Server.SampleTerminal
import Rttx.Server.StateFiles
import Rttx.Server.WorkspaceFile

/-!
# Restoring workspaces from their files

On startup the daemon rebuilds every workspace from its file: the tree verbatim, a pane
without a process for every pane specification, the focus from the tree.  The automatic
name is derived once more, since a file may carry a name from before the daemon named
its workspaces.

**Results.**
* `refreshAutoName_eq`: an automatic rename as one conditional.
* `round_trip`: what a workspace that was saved and restored has in common with the one
  that was saved, over operations and restarts in any order.
* `restored_sound_iff`: which files restore a workspace that operations can rely on.
-/

namespace Rttx
namespace Server

open Kernel

universe u v

namespace Workspace

section Restoring

variable {P : Type u} {G : Type v}
variable [VteParser P] [Vt100Parser G]

/-- The pane of a durable specification, without a process. -/
def restorePane (ps : PaneSpecV2) : Pane P G :=
  { (Pane.new ps.id.uuid ps.cols ps.rows : Pane P G) with
    cwd := ps.cwd
    title := ps.title
    exitStatus := ps.exitStatus
    reconstructed := true
    noPersist := ps.noPersist }

/-- The workspace of a file, with the name that the file carries. -/
def ofFile (rf : WorkspaceFileV2) : Workspace P G where
  id := rf.spec.id
  name := rf.spec.name
  userRenamed := rf.spec.userRenamed
  panes := HashMap.insertAll Pane.id (rf.spec.panes.map restorePane) ∅
  activePaneId := rf.spec.tree.defaultActive.map PaneId.uuid
  tree := rf.spec.tree
  policy := rf.spec.policy
  reconstructed := true
  revision := max rf.instanceData.revision defaultWorkspaceRevision
  persistedRevision := max rf.instanceData.revision defaultWorkspaceRevision
  createdAt := rf.spec.createdAt
  lastActiveAt := rf.instanceData.lastActiveAt
  attachedClients := ∅

/-- Resurrect a workspace from its file. -/
def fromWorkspaceFile (rf : WorkspaceFileV2) (proc : ProcFs) : Workspace P G :=
  ((ofFile rf).refreshAutoName proc).2

end Restoring

section Names

variable {P : Type u} {G : Type v}

/-- The name that an automatic rename leaves. -/
def refreshedName (w : Workspace P G) (proc : ProcFs) : String :=
  if w.userRenamed then w.name else (w.derivedName proc).getD w.name

/-- An automatic rename gives the refreshed name, and counts as a change unless it is
the old one. -/
theorem refreshAutoName_eq (w : Workspace P G) (proc : ProcFs) :
    (w.refreshAutoName proc).2 =
      if w.refreshedName proc = w.name then w
      else { w with name := w.refreshedName proc }.bumpRevision := by
  unfold refreshAutoName refreshedName
  by_cases huser : w.userRenamed = true
  · simp [huser]
  · cases hderived : w.derivedName proc with
    | none => simp [huser]
    | some name =>
        by_cases hsame : name = w.name
        · simp [huser, hsame]
        · simp [huser, hsame]

/-- The name depends on the tree, the panes' directories and the old name only. -/
theorem derivedName_congr {w w' : Workspace P G} {proc proc' : ProcFs}
    (htree : w'.tree = w.tree)
    (hpanes : ∀ id, (w'.panes.lookup id).map (fun p => p.effectiveCwd proc') =
      (w.panes.lookup id).map (fun p => p.effectiveCwd proc)) :
    w'.derivedName proc' = w.derivedName proc := by
  have hsome : ∀ id, (w'.panes.lookup id).isSome = (w.panes.lookup id).isSome := by
    intro id
    simpa using congrArg Option.isSome (hpanes id)
  have hnaming : w'.namingPaneId = w.namingPaneId := by
    simp only [namingPaneId, htree, hsome]
  rw [derivedName, derivedName, hnaming]
  refine congrArg (w.namingPaneId.bind ·) (funext fun id => ?_)
  have hid := hpanes id
  cases hlook : w.panes.lookup id with
  | none =>
      rw [hlook, Option.map_none, Option.map_eq_none_iff] at hid
      rw [hid]
      rfl
  | some p =>
      rw [hlook, Option.map_some] at hid
      obtain ⟨p', hlook', hcwd⟩ := Option.map_eq_some_iff.mp hid
      rw [hlook', Option.bind_some, Option.bind_some, hcwd]

end Names

section Panes

variable {P : Type u} {G : Type v}
variable [VteParser P] [Vt100Parser G]

/-- The keys of a restored workspace are the ids of the pane list. -/
theorem mem_ofFile_panes {rf : WorkspaceFileV2} {id : Uuid} :
    id ∈ (ofFile rf : Workspace P G).panes ↔ ∃ ps ∈ rf.spec.panes, ps.id = .fromUuid id := by
  simp only [ofFile, HashMap.mem_insertAll, AList.notMem_empty, false_or, List.mem_map,
    exists_exists_and_eq_and]
  refine exists_congr fun ps => and_congr_right fun _ => ?_
  constructor
  · rintro rfl
    rfl
  · intro h
    exact congrArg PaneId.uuid h

/-- The panes of a workspace that is restored from its own file. -/
theorem lookup_ofFile {w : Workspace P G}
    (h : w.KeyedById)
    (proc : ProcFs) (now : Nat) (id : Uuid) :
    (ofFile (w.toWorkspaceFile proc now) : Workspace P G).panes.lookup id =
      (w.panes.lookup id).map (fun p => restorePane (paneSpec proc p)) := by
  have hmem : ∀ v : Pane P G,
      v ∈ ((w.toWorkspaceFile proc now).spec.panes.map restorePane : List (Pane P G)) ↔
        ∃ p, w.panes.lookup v.id = some p ∧ v = restorePane (paneSpec proc p) := by
    intro v
    simp only [toWorkspaceFile, List.map_map, List.mem_map, HashMap.mem_values]
    constructor
    · rintro ⟨p, ⟨k, hk⟩, rfl⟩
      exact ⟨p, (h k p hk).symm ▸ hk, rfl⟩
    · rintro ⟨p, hp, rfl⟩
      exact ⟨p, ⟨_, hp⟩, rfl⟩
  cases hlook : w.panes.lookup id with
  | none =>
      rw [ofFile, HashMap.lookup_insertAll_of_not_mem, AList.lookup_empty, Option.map_none]
      rintro v hv rfl
      obtain ⟨p, hp, _⟩ := (hmem v).mp hv
      rw [hlook] at hp
      cases hp
  | some p =>
      have hid : (restorePane (paneSpec proc p) : Pane P G).id = id := h id p hlook
      have hin := (hmem (restorePane (paneSpec proc p))).mpr ⟨p, hid ▸ hlook, rfl⟩
      have hfound := @HashMap.lookup_insertAll_of_mem _ _ _ Pane.id _ _ ∅ hin ?_
      · rwa [hid] at hfound
      · intro v hv hkey
        obtain ⟨q, hq, rfl⟩ := (hmem v).mp hv
        rw [hkey, hid, hlook] at hq
        rw [Option.some.inj hq]

/-- Restoring keeps everything but the name and the revision as the file has it. -/
theorem fromWorkspaceFile_eq (rf : WorkspaceFileV2) (proc : ProcFs) :
    ∃ name rev, (fromWorkspaceFile rf proc : Workspace P G) =
      { (ofFile rf : Workspace P G) with name := name, revision := rev } :=
  refreshAutoName_effect _ _

end Panes

section RoundTrip

variable {P : Type u} {G : Type v}

/-- The durable fields of a pane, before and after a restart. -/
structure SavedPane (p q : Pane P G) : Prop where
  id : q.id = p.id
  cwd : q.cwd = p.cwd
  title : q.title = p.title
  exitStatus : q.exitStatus = p.exitStatus
  cols : q.cols = p.cols
  rows : q.rows = p.rows
  noPersist : q.noPersist = p.noPersist

/-- Every pane has recorded a working directory. -/
def CwdsRecorded (w : Workspace P G) : Prop :=
  ∀ id p, w.panes.lookup id = some p → p.cwd.isSome = true

/-- What a restored workspace `w'` has in common with the one that was saved. -/
structure RoundTrips (proc : ProcFs) (w w' : Workspace P G) : Prop where
  id : w'.id = w.id
  policy : w'.policy = w.policy
  userRenamed : w'.userRenamed = w.userRenamed
  tree : w'.tree = w.tree
  active : w'.activePaneId = w.activePaneId
  panes : ∀ id, Option.Rel SavedPane (w.panes.lookup id) (w'.panes.lookup id)
  name : w'.name = w.refreshedName proc
  revision : w.revision ≤ w'.revision
  dirty : w'.isDirty = true ↔ w'.name ≠ w.name ∧ w.revision < u64Max

variable [VteParser P] [Vt100Parser G]

/-- Steps in the life of a workspace: its operations, and restarts of the daemon. -/
inductive LifeStep (P : Type u) (G : Type v)
  | operate (op : WorkspaceOp P G)
  | restart (proc : ProcFs) (now : Nat) (proc' : ProcFs)

variable (P G) in
/-- The workspaces that operations and restarts in any order produce. -/
def life : System (Workspace P G) (LifeStep P G) where
  init := IsFresh
  next w
    | .operate op => some (w.apply op)
    | .restart proc now proc' => some (fromWorkspaceFile (w.toWorkspaceFile proc now) proc')

/-- What saving and restoring rely on. -/
structure Restorable (w : Workspace P G) : Prop where
  keyed : w.KeyedById
  coherent : w.Coherent
  bounded : w.revision ≤ u64Max

/-- Applying an operation keeps a workspace restorable. -/
theorem Restorable.apply {w : Workspace P G}
    (h : w.Restorable)
    (op : WorkspaceOp P G) :
    (w.apply op).Restorable := by
  refine ⟨h.keyed.apply op, h.coherent.apply op, ?_⟩
  by_cases hmark : op = .markPersisted
  · rw [hmark]
    exact h.bounded
  · exact (apply_bumped w op hmark).max h.bounded

/-- Restoring a workspace from its own file keeps it restorable. -/
theorem Restorable.restart {w : Workspace P G}
    (h : w.Restorable)
    (proc : ProcFs) (now : Nat) (proc' : ProcFs) :
    (fromWorkspaceFile (w.toWorkspaceFile proc now) proc' : Workspace P G).Restorable := by
  have hlook := lookup_ofFile h.keyed proc now
  have hkeyed : (ofFile (w.toWorkspaceFile proc now) : Workspace P G).KeyedById := by
    intro id q hq
    rw [hlook] at hq
    obtain ⟨p, hp, rfl⟩ := Option.map_eq_some_iff.mp hq
    exact h.keyed id p hp
  have hcoherent : (ofFile (w.toWorkspaceFile proc now) : Workspace P G).Coherent := by
    refine ⟨h.coherent.tree, fun id => ?_, rfl⟩
    rw [← AList.lookup_isSome, hlook, Option.isSome_map, AList.lookup_isSome]
    exact h.coherent.keys id
  have hbounded : (ofFile (w.toWorkspaceFile proc now) : Workspace P G).revision ≤ u64Max :=
    Nat.max_le.mpr ⟨h.bounded, by decide⟩
  rw [fromWorkspaceFile]
  exact Restorable.apply ⟨hkeyed, hcoherent, hbounded⟩ (.refreshAutoName proc')

theorem Restorable.of_life {w : Workspace P G}
    (h : (life P G).Reachable w) :
    w.Restorable := by
  refine h.invariant ?_ ?_
  · intro w hfresh
    exact ⟨hfresh.reachable.keyedById, hfresh.reachable.coherent, hfresh.reachable.revision_le_max⟩
  · intro w step w' hI hnext
    cases step with
    | operate op =>
        rw [← Option.some.inj hnext]
        exact hI.apply op
    | restart proc now proc' =>
        rw [← Option.some.inj hnext]
        exact hI.restart proc now proc'

/-- A recorded directory is the one a restored pane works in. -/
theorem derivedName_ofFile {w : Workspace P G}
    (h : w.KeyedById)
    (hcwds : w.CwdsRecorded)
    (proc : ProcFs) (now : Nat) (proc' : ProcFs) :
    (ofFile (w.toWorkspaceFile proc now) : Workspace P G).derivedName proc' =
      w.derivedName proc := by
  refine derivedName_congr rfl ?_
  intro id
  rw [lookup_ofFile h, Option.map_map]
  cases hlook : w.panes.lookup id with
  | none => rfl
  | some p =>
      obtain ⟨cwd, hcwd⟩ := Option.isSome_iff_exists.mp (hcwds id p hlook)
      simp [restorePane, paneSpec, Pane.effectiveCwd, hcwd]

/-- A workspace comes back from its file. -/
theorem Restorable.roundTrips {w : Workspace P G}
    (hw : w.Restorable)
    (hcwds : w.CwdsRecorded)
    (proc : ProcFs) (now : Nat) (proc' : ProcFs) :
    RoundTrips proc w (fromWorkspaceFile (w.toWorkspaceFile proc now) proc') := by
  obtain ⟨name, rev, heq⟩ :=
    fromWorkspaceFile_eq (P := P) (G := G) (w.toWorkspaceFile proc now) proc'
  have hname : (ofFile (w.toWorkspaceFile proc now) : Workspace P G).refreshedName proc' =
      w.refreshedName proc := by
    simp only [refreshedName, derivedName_ofFile hw.keyed hcwds]
    rfl
  have hrefresh := refreshAutoName_eq (ofFile (w.toWorkspaceFile proc now) : Workspace P G) proc'
  rw [hname] at hrefresh
  have hroom : max w.revision defaultWorkspaceRevision < u64Max ↔ w.revision < u64Max := by
    rw [Nat.max_lt]
    exact and_iff_left (by decide)
  refine ⟨by rw [heq]; rfl, by rw [heq]; rfl, by rw [heq]; rfl, by rw [heq]; rfl, ?_, ?_, ?_, ?_,
    ?_⟩
  · rw [heq]
    exact hw.coherent.focus.symm
  · intro id
    rw [heq]
    simp only [lookup_ofFile hw.keyed]
    cases hlook : w.panes.lookup id with
    | none => exact Option.Rel.none
    | some p =>
        obtain ⟨cwd, hcwd⟩ := Option.isSome_iff_exists.mp (hcwds id p hlook)
        refine Option.Rel.some ⟨rfl, ?_, rfl, rfl, rfl, rfl, rfl⟩
        simp [restorePane, paneSpec, hcwd]
  · rw [fromWorkspaceFile, hrefresh]
    split
    · next hsame => exact hsame.symm
    · rfl
  · rw [fromWorkspaceFile, hrefresh]
    split
    · exact Nat.le_max_left _ _
    · refine Nat.le_trans (Nat.le_max_left w.revision defaultWorkspaceRevision) ?_
      exact le_saturatingAdd (Nat.max_le.mpr ⟨hw.bounded, by decide⟩)
  · rw [fromWorkspaceFile, hrefresh]
    split
    · next hsame => simp [isDirty, ofFile, toWorkspaceFile]
    · next hchanged =>
        have hne : w.refreshedName proc ≠ w.name := hchanged
        rw [isDirty, decide_eq_true_eq]
        exact saturatingAdd_lt.trans (hroom.trans (and_iff_right hne).symm)

/-- **The round trip through the workspace file**, after operations and restarts in any
order. -/
theorem round_trip {w : Workspace P G}
    (h : (life P G).Reachable w)
    (hcwds : w.CwdsRecorded)
    (proc : ProcFs) (now : Nat) (proc' : ProcFs) :
    RoundTrips proc w (fromWorkspaceFile (w.toWorkspaceFile proc now) proc') :=
  (Restorable.of_life h).roundTrips hcwds proc now proc'

/-- A workspace with one pane, which works in `/src/rttx`. -/
def sampleNamed (name : String) : Workspace SampleParser SampleGrid :=
  (Workspace.new 7 name 0).apply (.addPane { Pane.new 1 80 24 with cwd := some "/src/rttx" })

theorem sampleNamed_reachable (name : String) :
    (life SampleParser SampleGrid).Reachable (sampleNamed name) :=
  (System.Reachable.of_init (S := life SampleParser SampleGrid) (s := Workspace.new 7 name 0)
      ⟨7, name, 0, .persistent, rfl⟩).next
    (a := .operate (.addPane { Pane.new 1 80 24 with cwd := some "/src/rttx" })) rfl

theorem sampleNamed_cwds (name : String) : (sampleNamed name).CwdsRecorded := by
  intro id p hlook
  rw [sampleNamed, Workspace.apply, addPane_panes] at hlook
  rcases HashMap.lookup_insert_cases hlook with ⟨_, rfl⟩ | ⟨_, hnone⟩
  · rfl
  · simp [Workspace.new] at hnone

/-- What `/proc` says when it says nothing. -/
def silentProc : ProcFs :=
  ⟨fun _ => none, fun _ => none⟩

/-- The round trip of a workspace whose name is not the one its directory suggests. -/
theorem round_trip_renamed :
    RoundTrips silentProc (sampleNamed "work")
      (fromWorkspaceFile ((sampleNamed "work").toWorkspaceFile silentProc 5) silentProc) :=
  round_trip (sampleNamed_reachable "work") (sampleNamed_cwds "work") silentProc 5 silentProc

/-- Automatic renames bring the counter to any value, up to its maximum. -/
theorem exists_revision {w : Workspace P G}
    (h : (life P G).Reachable w)
    (huser : w.userRenamed = false)
    (hname : w.name = "a" ∨ w.name = "b")
    (hmax : w.revision ≤ u64Max)
    (n : Nat) :
    ∃ w', (life P G).Reachable w' ∧ w'.userRenamed = false ∧ (w'.name = "a" ∨ w'.name = "b") ∧
      w'.tree = w.tree ∧ w'.panes = w.panes ∧ w'.revision = min (w.revision + n) u64Max := by
  induction n with
  | zero => exact ⟨w, h, huser, hname, rfl, rfl, (Nat.min_eq_left hmax).symm⟩
  | succ n ih =>
      obtain ⟨w', hreach, huser', hname', htree, hpanes, hrev⟩ := ih
      have hrename : ∀ other : String, other ≠ w'.name → other ≠ "" →
          (w'.apply (.setAutoName other)) = { w' with name := other }.bumpRevision := by
        intro other hother hfilled
        simp [Workspace.apply, setAutoName, huser', hother.symm, hfilled]
      have hnext : saturatingAdd w'.revision 1 = min (w.revision + (n + 1)) u64Max := by
        rw [hrev, saturatingAdd]
        omega
      rcases hname' with hname' | hname'
      · refine ⟨w'.apply (.setAutoName "b"), hreach.next (a := .operate (.setAutoName "b")) rfl, ?_⟩
        rw [hrename "b" (by simp [hname']) (by simp)]
        exact ⟨huser', Or.inr rfl, htree, hpanes, hnext⟩
      · refine ⟨w'.apply (.setAutoName "a"), hreach.next (a := .operate (.setAutoName "a")) rfl, ?_⟩
        rw [hrename "a" (by simp [hname']) (by simp)]
        exact ⟨huser', Or.inl rfl, htree, hpanes, hnext⟩

/-- **At its maximum the counter hides a change of the name.** -/
theorem round_trip_saturated :
    ∃ w : Workspace SampleParser SampleGrid,
      (life SampleParser SampleGrid).Reachable w ∧ w.CwdsRecorded ∧
        (fromWorkspaceFile (w.toWorkspaceFile silentProc 5) silentProc :
          Workspace SampleParser SampleGrid).name ≠ w.name ∧
        (fromWorkspaceFile (w.toWorkspaceFile silentProc 5) silentProc :
          Workspace SampleParser SampleGrid).isDirty = false := by
  obtain ⟨w, hreach, huser, hname, htree, hpanes, hrev⟩ :=
    exists_revision (sampleNamed_reachable "a") rfl (Or.inl rfl) (by decide) u64Max
  have hcwds : w.CwdsRecorded := by
    intro id p hlook
    rw [hpanes] at hlook
    exact sampleNamed_cwds "a" id p hlook
  have htrip := (Restorable.of_life hreach).roundTrips hcwds silentProc 5 silentProc
  have hderived : w.derivedName silentProc = some "rttx" := by
    rw [derivedName_congr (w := sampleNamed "a") htree (fun id => by rw [hpanes])]
    decide +kernel
  have hfull : ¬ w.revision < u64Max := by
    rw [hrev]
    omega
  refine ⟨w, hreach, hcwds, ?_, ?_⟩
  · rw [htrip.name, refreshedName, huser, hderived]
    rcases hname with hname | hname <;> simp [hname]
  · rw [← Bool.not_eq_true]
    exact fun hdirty => hfull (htrip.dirty.mp hdirty).2

end RoundTrip

section Loading

variable {P : Type u} {G : Type v}

/-- What the operations on a workspace rely on. -/
structure Sound (w : Workspace P G) : Prop where
  validated : w.tree.validate = .ok ()
  keys : ∀ id, id ∈ w.panes ↔ PaneId.fromUuid id ∈ w.tree.panes
  active : ∀ id, w.activePaneId = some id → id ∈ w.panes

/-- A file whose tree is valid and has the panes of the pane list. -/
structure FileSound (rf : WorkspaceFileV2) : Prop where
  validated : rf.spec.tree.validate = .ok ()
  panes : ∀ id, id ∈ rf.spec.tree.panes ↔ ∃ ps ∈ rf.spec.panes, ps.id = id

variable [VteParser P] [Vt100Parser G]

/-- A restored workspace is sound exactly when its file is. -/
theorem restored_sound_iff (rf : WorkspaceFileV2) (proc : ProcFs) :
    (fromWorkspaceFile rf proc : Workspace P G).Sound ↔ FileSound rf := by
  obtain ⟨name, rev, heq⟩ := fromWorkspaceFile_eq (P := P) (G := G) rf proc
  have hkeys : ∀ id, id ∈ (ofFile rf : Workspace P G).panes ↔
      ∃ ps ∈ rf.spec.panes, ps.id = .fromUuid id := fun _ => mem_ofFile_panes
  rw [heq]
  constructor
  · rintro ⟨hvalid, hpanes, _⟩
    exact ⟨hvalid, fun id => (hpanes id.uuid).symm.trans (hkeys id.uuid)⟩
  · rintro ⟨hvalid, hpanes⟩
    refine ⟨hvalid, fun id => (hkeys id).trans (hpanes (.fromUuid id)).symm, ?_⟩
    -- the focus is the default-active pane, and that is a leaf of a valid tree
    intro id hactive
    obtain ⟨pane, hdefault, rfl⟩ := Option.map_eq_some_iff.mp hactive
    have hleaf := ((WorkspaceTree.validate_eq_ok_iff _).mp hvalid).active_mem pane hdefault
    exact (hkeys pane.uuid).mpr ((hpanes pane).mp hleaf)

/-- The files that the daemon writes are sound. -/
theorem Restorable.fileSound {w : Workspace P G}
    (h : w.Restorable)
    (proc : ProcFs) (now : Nat) :
    FileSound (w.toWorkspaceFile proc now) := by
  refine ⟨(WorkspaceTree.validate_eq_ok_iff _).mpr h.coherent.tree, fun id => ?_⟩
  refine (h.coherent.keys id.uuid).symm.trans ?_
  rw [← AList.lookup_isSome, ← Option.isSome_map, ← lookup_ofFile h.keyed proc now,
    AList.lookup_isSome]
  exact mem_ofFile_panes

variable [StateJson WorkspaceFileV2]

open StateJson

/-- A file of the current schema version that deserialises. -/
def Readable (json : Bytes) (rf : WorkspaceFileV2) : Prop :=
  peekSchemaVersion WorkspaceFileV2 json = some runtimeFileSchemaVersion ∧
    fromStr json = some rf

omit [VteParser P] [Vt100Parser G] in
theorem classify_eq_loaded_iff {json : Bytes} {rf : WorkspaceFileV2} :
    classifyWorkspaceJson json = .loaded rf ↔ Readable json rf := by
  rw [classifyWorkspaceJson, Readable]
  cases hpeek : peekSchemaVersion WorkspaceFileV2 json with
  | none => simp
  | some version =>
      by_cases hversion : version = runtimeFileSchemaVersion
      · cases (fromStr json : Option WorkspaceFileV2) <;> simp [hversion]
      · simp [hversion]

omit [VteParser P] [Vt100Parser G] in
/-- A text that is not loaded is corrupt. -/
theorem classify_eq_corrupt {json : Bytes}
    (h : ∀ rf : WorkspaceFileV2, ¬ Readable json rf) :
    (classifyWorkspaceJson json : WorkspaceLoad WorkspaceFileV2) = .corrupt := by
  cases hres : (classifyWorkspaceJson json : WorkspaceLoad WorkspaceFileV2) with
  | loaded rf => exact absurd (classify_eq_loaded_iff.mp hres) (h rf)
  | corrupt => rfl
  | notFound =>
      rw [classifyWorkspaceJson] at hres
      split at hres
      · cases hres
      · split at hres
        · split at hres <;> cases hres
        · cases hres

/-- The text that is loaded: the live one, or the backup of one that does not load. -/
def Loadable (d : StateDir) (rf : WorkspaceFileV2) : Prop :=
  (∃ json, readPrimary d = some json ∧ Readable json rf) ∨
    (∀ json, readPrimary d = some json → ∀ rf', ¬ Readable json rf') ∧
      ∃ json, readBackup d = some json ∧ Readable json rf

omit [VteParser P] [Vt100Parser G] in
theorem loadWorkspace_eq_loaded_iff {d : StateDir} {rf : WorkspaceFileV2} :
    loadWorkspace d = .loaded rf ↔ Loadable d rf := by
  rw [loadWorkspace, Loadable]
  cases hprimary : readPrimary d with
  | none =>
      cases readBackup d with
      | none => simp
      | some json => simp [classify_eq_loaded_iff]
  | some json =>
      by_cases hreads : ∃ rf' : WorkspaceFileV2, Readable json rf'
      · obtain ⟨rf', hread⟩ := hreads
        have hclass := classify_eq_loaded_iff.mpr hread
        simp only [hclass, WorkspaceLoad.loaded.injEq, Option.some.injEq, exists_eq_left']
        constructor
        · rintro rfl
          exact Or.inl hread
        · rintro (hread' | ⟨hnone, _⟩)
          · exact WorkspaceLoad.loaded.inj (hclass.symm.trans (classify_eq_loaded_iff.mpr hread'))
          · exact absurd hread (hnone json rfl rf')
      · have hnone : ∀ rf' : WorkspaceFileV2, ¬ Readable json rf' := fun rf' h => hreads ⟨rf', h⟩
        cases readBackup d with
        | none => simp [classify_eq_corrupt hnone, hnone]
        | some json' => simp [classify_eq_corrupt hnone, hnone, classify_eq_loaded_iff]

/-- What is known of a workspace `w` that was restored from a file. -/
structure LoadedFrom (rf : WorkspaceFileV2) (w : Workspace P G) : Prop where
  tree : w.tree = rf.spec.tree
  keys : ∀ id, id ∈ w.panes ↔ ∃ ps ∈ rf.spec.panes, ps.id = .fromUuid id
  active : w.activePaneId = rf.spec.tree.defaultActive.map PaneId.uuid
  sound : w.Sound ↔ FileSound rf
  written : ∀ (saved : Workspace P G) proc now, (life P G).Reachable saved →
    rf = saved.toWorkspaceFile proc now → w.Sound

/-- **What loading establishes**: it accepts what deserialises under the current schema
version, so that the workspace restored is as sound as the file. -/
theorem load_establishes (d : StateDir) (proc : ProcFs) (rf : WorkspaceFileV2) :
    (loadWorkspace d = .loaded rf ↔ Loadable d rf) ∧
      LoadedFrom rf (fromWorkspaceFile rf proc : Workspace P G) := by
  obtain ⟨name, rev, heq⟩ := fromWorkspaceFile_eq (P := P) (G := G) rf proc
  refine ⟨loadWorkspace_eq_loaded_iff, by rw [heq]; rfl, ?_, by rw [heq]; rfl,
    restored_sound_iff rf proc, ?_⟩
  · intro id
    rw [heq]
    exact mem_ofFile_panes
  · rintro saved proc' now hreach rfl
    exact (restored_sound_iff _ proc).mpr ((Restorable.of_life hreach).fileSound proc' now)

end Loading

section UnsoundFile

/-- The text of a file with a leaf that the pane list lacks and a default-active pane
that the tree lacks. -/
def unsoundJson : Bytes :=
  bytesOf ("\x7b\"schema_version\":2,\"spec\":\x7b" ++
    "\"id\":\"00000000-0000-0000-0000-000000000007\",\"name\":\"work\"," ++
    "\"policy\":\"persistent\",\"created_at\":\x7b\"secs_since_epoch\":0," ++
    "\"nanos_since_epoch\":0\x7d,\"tree\":\x7b\"root\":\x7b\"node\":\"leaf\"," ++
    "\"pane\":\"00000000-0000-0000-0000-000000000001\"\x7d,\"default_active\":" ++
    "\"00000000-0000-0000-0000-000000000002\"\x7d,\"panes\":[]\x7d," ++
    "\"instance\":\x7b\"revision\":1,\"last_active_at\":\x7b\"secs_since_epoch\":0," ++
    "\"nanos_since_epoch\":0\x7d,\"last_snapshot_at\":\x7b\"secs_since_epoch\":0," ++
    "\"nanos_since_epoch\":0\x7d\x7d\x7d")

/-- The file of that text. -/
def unsoundFile : WorkspaceFileV2 where
  schemaVersion := 2
  spec :=
    { id := 7
      name := "work"
      userRenamed := false
      policy := .persistent
      createdAt := 0
      tree := ⟨some (.leaf ⟨1⟩), some ⟨2⟩⟩
      panes := [] }
  instanceData := ⟨1, 0, 0⟩

/-- A reader that knows this text. -/
@[reducible] def unsoundReader : StateJson WorkspaceFileV2 where
  peekSchemaVersion json := if json = unsoundJson then some 2 else none
  fromStr json := if json = unsoundJson then some unsoundFile else none
  peek_nil := by decide +kernel

/-- **A file that is loaded and breaks all of what the operations rely on.** -/
theorem unsound_file_is_loaded :
    ∃ (_ : StateJson WorkspaceFileV2) (d : StateDir) (rf : WorkspaceFileV2),
      loadWorkspace d = .loaded rf ∧
        (fromWorkspaceFile rf silentProc : Workspace SampleParser SampleGrid).tree.validate ≠
          .ok () ∧
        ¬ (∀ id, id ∈ (fromWorkspaceFile rf silentProc : Workspace SampleParser SampleGrid).panes ↔
          PaneId.fromUuid id ∈
            (fromWorkspaceFile rf silentProc : Workspace SampleParser SampleGrid).tree.panes) ∧
        ∃ id, (fromWorkspaceFile rf silentProc : Workspace SampleParser SampleGrid).activePaneId =
            some id ∧
          id ∉ (fromWorkspaceFile rf silentProc : Workspace SampleParser SampleGrid).panes := by
  let reader := unsoundReader
  let d : StateDir := fun n => if n = .live then some (.file unsoundJson) else none
  refine ⟨reader, d, unsoundFile, ?_, by decide +kernel, ?_, 2, by decide +kernel,
    by decide +kernel⟩
  · refine loadWorkspace_eq_loaded_iff.mpr (Or.inl ⟨unsoundJson, by decide +kernel, ?_⟩)
    exact ⟨if_pos rfl, if_pos rfl⟩
  · intro hkeys
    exact absurd ((hkeys 1).mpr (by decide +kernel)) (by decide +kernel)

end UnsoundFile

end Workspace

end Server
end Rttx
