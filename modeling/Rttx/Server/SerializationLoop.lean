import Rttx.Server.WorkspaceFile

/-!
# The serialization loop

A pass of the loop collects the files of the dirty persistent workspaces under
their locks, writes them without any lock, and marks the workspaces as
persisted under the locks again.  Between these steps every lock is released,
and other tasks create workspaces and change them.

Marking persists the *current* revision, not the one the file was built at,
and covers every collected workspace, whether its file could be saved or not.
So a change between the first and the last step, or a failed save, is lost.

**Results.**
* `clean_is_on_disk`: in runs where no held workspace changes and no save
  fails, the file of a clean workspace is on disk.
* `lost_dirty_mark`: a run in which a rename during the pass is marked as
  persisted.
-/

namespace Rttx
namespace Server

open Kernel

universe u v

/-- Where a pass of the loop is: the files it holds. -/
inductive SerializationPhase
  | idle
  | collected (files : List WorkspaceFileV2)
  | written (files : List WorkspaceFileV2)
deriving DecidableEq

/-- The registry, the workspace files on disk, and the pass in progress. -/
structure SerializationState (P : Type u) (G : Type v) where
  workspaces : HashMap Uuid (Workspace P G)
  disk : HashMap Uuid WorkspaceFileV2
  phase : SerializationPhase

/-- What may happen next. -/
inductive SerializationStep (P : Type u) (G : Type v)
  | create (id : Uuid) (name : String) (now : Nat) (policy : WorkspacePolicy)
  | mutate (id : Uuid) (op : WorkspaceOp P G)
  | collect (proc : ProcFs) (now : Nat)
  | write (saveFails : Uuid → Bool)
  | mark

namespace SerializationState

section Steps

variable {P : Type u} {G : Type v}

def fileId (f : WorkspaceFileV2) : Uuid :=
  f.spec.id

/-- The files of the dirty persistent workspaces. -/
def collectFiles (workspaces : HashMap Uuid (Workspace P G)) (proc : ProcFs) (now : Nat) :
    List WorkspaceFileV2 :=
  (workspaces.values.filter (fun w => w.policy = .persistent && w.isDirty)).map
    (fun w => w.toWorkspaceFile proc now)

/-- The ids of the workspaces whose files the pass holds. -/
def heldIds (s : SerializationState P G) : List Uuid :=
  match s.phase with
  | .idle => []
  | .collected files => files.map fileId
  | .written files => files.map fileId

variable [VteParser P] [Vt100Parser G]

/-- One step.  A mutation is one that raises the revision. -/
def next (s : SerializationState P G) :
    SerializationStep P G → Option (SerializationState P G)
  | .create id name now policy =>
      if (s.workspaces.lookup id).isSome then
        none
      else
        some { s with workspaces :=
          s.workspaces.insert id { Workspace.new id name now with policy := policy } }
  | .mutate id op =>
      match s.workspaces.lookup id with
      | none => none
      | some w =>
          if w.revision < (w.apply op).revision then
            some { s with workspaces := s.workspaces.insert id (w.apply op) }
          else
            none
  | .collect proc now =>
      match s.phase with
      | .idle => some { s with phase := .collected (collectFiles s.workspaces proc now) }
      | _ => none
  | .write saveFails =>
      match s.phase with
      | .collected files =>
          let saved := files.filter (fun f => !saveFails (fileId f))
          some { s with disk := s.disk.insertAll fileId saved, phase := .written files }
      | _ => none
  | .mark =>
      match s.phase with
      | .written files =>
          some { s with
            workspaces := s.workspaces.modifyAll Workspace.markPersisted (files.map fileId)
            phase := .idle }
      | _ => none

variable (P G) in
/-- The daemon from an empty registry and an empty disk. -/
def system : System (SerializationState P G) (SerializationStep P G) where
  init := fun s => s = ⟨∅, ∅, .idle⟩
  next := next

omit [VteParser P] [Vt100Parser G] in
/-- The pass is not disturbed: no mutation of a workspace whose file it holds,
and every save succeeds. -/
def undisturbed (s : SerializationState P G) : SerializationStep P G → Bool
  | .mutate id _ => !s.heldIds.contains id
  | .write saveFails => s.heldIds.all (fun id => !saveFails id)
  | _ => true

/-- The file on disk is one built from the workspace as it is. -/
def OnDisk (s : SerializationState P G) (id : Uuid) (w : Workspace P G) : Prop :=
  ∃ proc now, s.disk.lookup id = some (w.toWorkspaceFile proc now)

/-- A clean workspace has its file on disk. -/
def CleanIsOnDisk (s : SerializationState P G) : Prop :=
  ∀ id w, s.workspaces.lookup id = some w → w.isDirty = false → s.OnDisk id w

end Steps

section Invariant

variable {P : Type u} {G : Type v}

/-- Files built in one go from registered workspaces. -/
def BuiltFrom (workspaces : HashMap Uuid (Workspace P G)) (files : List WorkspaceFileV2) :
    Prop :=
  ∃ proc now, ∀ f ∈ files,
    ∃ w, workspaces.lookup (fileId f) = some w ∧ f = w.toWorkspaceFile proc now

/-- The invariant of undisturbed runs: registered workspaces carry their key,
are not persisted ahead of their revision and, when clean, are on disk; the
files that a pass holds are those of the workspaces as they are, and after
the write step they are on disk. -/
structure Inv (s : SerializationState P G) : Prop where
  keyed : ∀ id w, s.workspaces.lookup id = some w → w.id = id
  ordered : ∀ id w, s.workspaces.lookup id = some w →
    w.persistedRevision ≤ w.revision
  clean : s.CleanIsOnDisk
  collected : ∀ files, s.phase = .collected files → BuiltFrom s.workspaces files
  written : ∀ files, s.phase = .written files → BuiltFrom s.workspaces files ∧
    ∀ f ∈ files, s.disk.lookup (fileId f) = some f

theorem mem_heldIds_collected {s : SerializationState P G} {files : List WorkspaceFileV2}
    (h : s.phase = .collected files)
    (id : Uuid) :
    id ∈ s.heldIds ↔ ∃ f ∈ files, fileId f = id := by
  simp [heldIds, h]

theorem mem_heldIds_written {s : SerializationState P G} {files : List WorkspaceFileV2}
    (h : s.phase = .written files)
    (id : Uuid) :
    id ∈ s.heldIds ↔ ∃ f ∈ files, fileId f = id := by
  simp [heldIds, h]

/-- Two files of one build with the same id are the same. -/
theorem BuiltFrom.agree {workspaces : HashMap Uuid (Workspace P G)}
    {files : List WorkspaceFileV2}
    (h : BuiltFrom workspaces files)
    {f g : WorkspaceFileV2}
    (hf : f ∈ files)
    (hg : g ∈ files)
    (hid : fileId g = fileId f) :
    g = f := by
  obtain ⟨proc, now, hbuilt⟩ := h
  obtain ⟨w, hw, rfl⟩ := hbuilt f hf
  obtain ⟨w', hw', rfl⟩ := hbuilt g hg
  rw [hid, hw, Option.some.injEq] at hw'
  rw [hw']

/-- Storing a workspace whose file is not among them leaves files built. -/
theorem BuiltFrom.insert {workspaces : HashMap Uuid (Workspace P G)}
    {files : List WorkspaceFileV2}
    (h : BuiltFrom workspaces files)
    {id : Uuid}
    (hfree : ∀ f ∈ files, fileId f ≠ id)
    (w : Workspace P G) :
    BuiltFrom (workspaces.insert id w) files := by
  obtain ⟨proc, now, hbuilt⟩ := h
  refine ⟨proc, now, ?_⟩
  intro f hf
  obtain ⟨old, hold, hfile⟩ := hbuilt f hf
  exact ⟨old, by rw [AList.lookup_insert_ne (hfree f hf)]; exact hold, hfile⟩

/-- The workspaces whose files a pass holds exist. -/
theorem Inv.lookup_of_held {s : SerializationState P G}
    (h : s.Inv)
    {id : Uuid}
    (hheld : id ∈ s.heldIds) :
    ∃ w, s.workspaces.lookup id = some w := by
  cases hphase : s.phase with
  | idle => simp [heldIds, hphase] at hheld
  | collected files =>
      obtain ⟨f, hf, rfl⟩ := (mem_heldIds_collected hphase id).mp hheld
      obtain ⟨_, _, hall⟩ := h.collected files hphase
      obtain ⟨w, hw, _⟩ := hall f hf
      exact ⟨w, hw⟩
  | written files =>
      obtain ⟨f, hf, rfl⟩ := (mem_heldIds_written hphase id).mp hheld
      obtain ⟨⟨_, _, hall⟩, _⟩ := h.written files hphase
      obtain ⟨w, hw, _⟩ := hall f hf
      exact ⟨w, hw⟩

/-- What a step may do to one workspace: nothing, or store a dirty one. -/
theorem Inv.insert {s : SerializationState P G}
    (h : s.Inv)
    {id : Uuid}
    {w : Workspace P G}
    (hid : w.id = id)
    (hle : w.persistedRevision ≤ w.revision)
    (hdirty : w.isDirty = true)
    (hfree : id ∉ s.heldIds) :
    ({ s with workspaces := s.workspaces.insert id w } : SerializationState P G).Inv := by
  refine ⟨?_, ?_, ?_, ?_, ?_⟩
  · intro k v hk
    rcases HashMap.lookup_insert_cases hk with ⟨rfl, rfl⟩ | ⟨_, hk⟩
    · exact hid
    · exact h.keyed k v hk
  · intro k v hk
    rcases HashMap.lookup_insert_cases hk with ⟨rfl, rfl⟩ | ⟨_, hk⟩
    · exact hle
    · exact h.ordered k v hk
  · intro k v hk hclean
    rcases HashMap.lookup_insert_cases hk with ⟨rfl, rfl⟩ | ⟨_, hk⟩
    · rw [hdirty] at hclean
      cases hclean
    · exact h.clean k v hk hclean
  · intro files hphase
    refine (h.collected files hphase).insert ?_ w
    intro f hf heq
    exact hfree ((mem_heldIds_collected hphase id).mpr ⟨f, hf, heq⟩)
  · intro files hphase
    obtain ⟨hbuilt, hdisk⟩ := h.written files hphase
    refine ⟨hbuilt.insert ?_ w, hdisk⟩
    intro f hf heq
    exact hfree ((mem_heldIds_written hphase id).mpr ⟨f, hf, heq⟩)

/-- The files collected from a keyed registry are built from it. -/
theorem collectFiles_builtFrom {workspaces : HashMap Uuid (Workspace P G)}
    (hkeyed : ∀ id w, workspaces.lookup id = some w → w.id = id)
    (proc : ProcFs)
    (now : Nat) :
    BuiltFrom workspaces (collectFiles workspaces proc now) := by
  refine ⟨proc, now, ?_⟩
  intro f hf
  simp only [collectFiles, HashMap.values, List.mem_map, List.mem_filter] at hf
  obtain ⟨w, ⟨⟨⟨id, w'⟩, hmem, rfl⟩, _⟩, rfl⟩ := hf
  have hlook := (HashMap.lookup_eq_some_iff_mem workspaces id w').mpr hmem
  refine ⟨w', ?_, rfl⟩
  have hid : fileId (w'.toWorkspaceFile proc now) = id := hkeyed id w' hlook
  rw [hid]
  exact hlook

/-- Writing every file of a build puts each on disk and keeps the others. -/
theorem Inv.write {s : SerializationState P G} {files : List WorkspaceFileV2}
    (h : s.Inv)
    (hphase : s.phase = .collected files) :
    ({ s with
        disk := s.disk.insertAll fileId files
        phase := .written files } : SerializationState P G).Inv := by
  have hbuilt := h.collected files hphase
  have hsaved : ∀ f ∈ files, (s.disk.insertAll fileId files).lookup (fileId f) = some f :=
    fun f hf => HashMap.lookup_insertAll_of_mem s.disk hf
      (fun g hg hid => hbuilt.agree hf hg hid)
  refine ⟨h.keyed, h.ordered, ?_, by simp, ?_⟩
  · intro k w hk hclean
    by_cases hheld : ∃ f ∈ files, fileId f = k
    · obtain ⟨f, hf, rfl⟩ := hheld
      obtain ⟨proc, now, hall⟩ := hbuilt
      obtain ⟨w', hw', hfile⟩ := hall f hf
      rw [hk, Option.some.injEq] at hw'
      subst hw'
      exact ⟨proc, now, by rw [← hfile]; exact hsaved f hf⟩
    · obtain ⟨proc, now, hdisk⟩ := h.clean k w hk hclean
      refine ⟨proc, now, ?_⟩
      have hkeep := HashMap.lookup_insertAll_of_not_mem s.disk
        (fun f hf heq => hheld ⟨f, hf, heq⟩ : ∀ f ∈ files, fileId f ≠ k)
      exact hkeep.trans hdisk
  · intro files' hfiles
    have heq : files = files' := by simpa using hfiles
    subst heq
    exact ⟨hbuilt, hsaved⟩

/-- A workspace after the mark step. -/
theorem lookup_mark {workspaces : HashMap Uuid (Workspace P G)} {ids : List Uuid} {k : Uuid}
    {w' : Workspace P G}
    (hk : (workspaces.modifyAll Workspace.markPersisted ids).lookup k = some w') :
    ∃ w, workspaces.lookup k = some w ∧
      ((k ∈ ids ∧ w' = w.markPersisted) ∨ (k ∉ ids ∧ w' = w)) := by
  have hidem : ∀ w : Workspace P G, w.markPersisted.markPersisted = w.markPersisted :=
    fun _ => rfl
  rw [HashMap.lookup_modifyAll hidem] at hk
  by_cases hmem : k ∈ ids
  · rw [if_pos hmem] at hk
    obtain ⟨w, hw, rfl⟩ := Option.map_eq_some_iff.mp hk
    exact ⟨w, hw, Or.inl ⟨hmem, rfl⟩⟩
  · rw [if_neg hmem] at hk
    exact ⟨w', hk, Or.inr ⟨hmem, rfl⟩⟩

theorem Inv.mark {s : SerializationState P G} {files : List WorkspaceFileV2}
    (h : s.Inv)
    (hphase : s.phase = .written files) :
    ({ s with
        workspaces := s.workspaces.modifyAll Workspace.markPersisted (files.map fileId)
        phase := .idle } : SerializationState P G).Inv := by
  obtain ⟨⟨proc, now, hall⟩, hdisk⟩ := h.written files hphase
  refine ⟨?_, ?_, ?_, by simp, by simp⟩
  · intro k w' hk
    obtain ⟨w, hw, hcases⟩ := lookup_mark hk
    rcases hcases with ⟨_, rfl⟩ | ⟨_, rfl⟩
    · exact h.keyed k w hw
    · exact h.keyed k w' hw
  · intro k w' hk
    obtain ⟨w, hw, hcases⟩ := lookup_mark hk
    rcases hcases with ⟨_, rfl⟩ | ⟨_, rfl⟩
    · exact Nat.le_refl _
    · exact h.ordered k w' hw
  · intro k w' hk hclean
    obtain ⟨w, hw, hcases⟩ := lookup_mark hk
    rcases hcases with ⟨hmem, rfl⟩ | ⟨_, rfl⟩
    · obtain ⟨f, hf, rfl⟩ := List.mem_map.mp hmem
      obtain ⟨v, hv, hfile⟩ := hall f hf
      rw [hw, Option.some.injEq] at hv
      subst hv
      exact ⟨proc, now, (hdisk f hf).trans (congrArg some hfile)⟩
    · exact h.clean k w' hw hclean

end Invariant

section Runs

variable {P : Type u} {G : Type v}
variable [VteParser P] [Vt100Parser G]

/-- **Step lemma.** An undisturbed step keeps the invariant. -/
theorem Inv.next {s s' : SerializationState P G} {a : SerializationStep P G}
    (h : s.Inv)
    (hok : s.undisturbed a = true)
    (hnext : s.next a = some s') :
    s'.Inv := by
  cases a with
  | create id name now policy =>
      simp only [SerializationState.next] at hnext
      cases hlook : s.workspaces.lookup id with
      | some w => simp [hlook] at hnext
      | none =>
          simp only [hlook, Option.isSome_none, Bool.false_eq_true, if_false,
            Option.some.injEq] at hnext
          subst hnext
          refine h.insert rfl (by simp [Workspace.new]) (by rfl) ?_
          intro hheld
          obtain ⟨w, hw⟩ := h.lookup_of_held hheld
          rw [hlook] at hw
          cases hw
  | mutate id op =>
      simp only [SerializationState.next] at hnext
      cases hlook : s.workspaces.lookup id with
      | none => simp [hlook] at hnext
      | some w =>
          simp only [hlook] at hnext
          by_cases hraise : w.revision < (w.apply op).revision
          · rw [if_pos hraise, Option.some.injEq] at hnext
            subst hnext
            have hmark : op ≠ .markPersisted := by
              rintro rfl
              exact absurd hraise (Nat.lt_irrefl _)
            have hper := (Workspace.apply_bumped w op hmark).persisted
            have hle := h.ordered id w hlook
            have hid : (w.apply op).id = id := by
              rw [Workspace.apply_id]
              exact h.keyed id w hlook
            refine h.insert hid (by omega) ?_ (by simpa [undisturbed] using hok)
            simp only [Workspace.isDirty, decide_eq_true_eq]
            omega
          · rw [if_neg hraise] at hnext
            cases hnext
  | collect proc now =>
      simp only [SerializationState.next] at hnext
      cases hphase : s.phase with
      | idle =>
          simp only [hphase, Option.some.injEq] at hnext
          subst hnext
          refine ⟨h.keyed, h.ordered, h.clean, ?_, by simp⟩
          intro files hfiles
          have heq : collectFiles s.workspaces proc now = files := by simpa using hfiles
          rw [← heq]
          exact collectFiles_builtFrom h.keyed proc now
      | collected files => simp [hphase] at hnext
      | written files => simp [hphase] at hnext
  | write saveFails =>
      simp only [SerializationState.next] at hnext
      cases hphase : s.phase with
      | idle => simp [hphase] at hnext
      | written files => simp [hphase] at hnext
      | collected files =>
          simp only [hphase, Option.some.injEq] at hnext
          have hall : files.filter (fun f => !saveFails (fileId f)) = files := by
            rw [List.filter_eq_self]
            intro f hf
            have hheld := (mem_heldIds_collected hphase (fileId f)).mpr ⟨f, hf, rfl⟩
            exact List.all_eq_true.mp hok (fileId f) hheld
          rw [hall] at hnext
          rw [← hnext]
          exact h.write hphase
  | mark =>
      simp only [SerializationState.next] at hnext
      cases hphase : s.phase with
      | idle => simp [hphase] at hnext
      | collected files => simp [hphase] at hnext
      | written files =>
          simp only [hphase, Option.some.injEq] at hnext
          subst hnext
          exact h.mark hphase

/-- **A clean workspace is on disk** in every state of a run whose passes are
not disturbed. -/
theorem clean_is_on_disk {s : SerializationState P G}
    (h : (system P G).ReachableUnder (fun s a => s.undisturbed a = true) s) :
    s.CleanIsOnDisk := by
  refine (h.invariant (I := Inv) ?_ ?_).clean
  · rintro s rfl
    refine ⟨by simp, by simp, ?_, by simp, by simp⟩
    intro id w hw
    simp at hw
  · intro s a s' hI hok hnext
    exact hI.next hok hnext

/-- A pass over one workspace, then a rename after it. -/
def quietPass : List (SerializationStep SampleParser SampleGrid) :=
  [.create 7 "work" 0 .persistent, .mutate 7 (.addPane (Pane.new 1 80 24)),
    .collect ⟨fun _ => none, fun _ => none⟩ 5, .write (fun _ => false), .mark]

/-- The theorem at the end of an undisturbed pass, where the workspace is clean. -/
theorem clean_is_on_disk_quietPass :
    ∃ s : SerializationState SampleParser SampleGrid,
      (s.workspaces.lookup 7).map (fun w => w.isDirty) = some false ∧ s.CleanIsOnDisk := by
  obtain ⟨s, hreach, hclean⟩ := System.exists_reachableUnder
    (S := system SampleParser SampleGrid) (s := ⟨∅, ∅, .idle⟩) undisturbed quietPass
    (p := fun s => (s.workspaces.lookup 7).map (fun w => w.isDirty) = some false) rfl
    (by decide +kernel)
  exact ⟨s, hclean, clean_is_on_disk hreach⟩

/-- A pass during which the workspace is renamed. -/
def disturbedPass : List (SerializationStep SampleParser SampleGrid) :=
  [.create 7 "work" 0 .persistent, .collect ⟨fun _ => none, fun _ => none⟩ 5,
    .mutate 7 (.rename "deploy"), .write (fun _ => false), .mark]

theorem disturbedPass_runs :
    ((system SampleParser SampleGrid).exec ⟨∅, ∅, .idle⟩ disturbedPass).isSome = true := by
  decide +kernel

/-- The state after the disturbed pass. -/
def disturbedEnd : SerializationState SampleParser SampleGrid :=
  ((system SampleParser SampleGrid).exec ⟨∅, ∅, .idle⟩ disturbedPass).get disturbedPass_runs

/-- **A dirty mark is lost**: the rename lands between the collect and the mark
step, the workspace ends clean, and the disk has the old name. -/
theorem lost_dirty_mark :
    ∃ s : SerializationState SampleParser SampleGrid,
      (system SampleParser SampleGrid).Reachable s ∧ ¬ s.CleanIsOnDisk := by
  refine ⟨disturbedEnd, System.reachable_get rfl disturbedPass_runs, ?_⟩
  intro hclean
  have hview : (disturbedEnd.workspaces.lookup 7).map (fun w => (w.isDirty, w.name)) =
      some (false, "deploy") := by
    decide +kernel
  have hdisk : (disturbedEnd.disk.lookup 7).map (fun f => f.spec.name) = some "work" := by
    decide +kernel
  obtain ⟨w, hw, hstate⟩ := Option.map_eq_some_iff.mp hview
  rw [Prod.mk.injEq] at hstate
  obtain ⟨proc, now, hfile⟩ := hclean 7 w hw hstate.1
  have hold : w.name = "work" := by
    rw [hfile] at hdisk
    simpa [Workspace.toWorkspaceFile] using hdisk
  rw [hstate.2] at hold
  exact absurd hold (by decide)

end Runs

end SerializationState

end Server
end Rttx
