import Rttx.Server.SerializationLoop

/-!
# Ticks of the serialization loop

A whole tick: the files are collected, written and marked, and other tasks create,
change and remove workspaces before the files are written and before they are marked.

**Results.**
* `lookup_changes`: what the other tasks do to a workspace that is not removed.
* `marksSaved_iff`: the tick marks exactly what was saved if and only if every save of a
  workspace that stays succeeds and nothing raises its revision.
-/

namespace Rttx
namespace Server

open Kernel

universe u v

/-- What other tasks do to the registry. -/
inductive RegistryChange (P : Type u) (G : Type v)
  | create (id : Uuid) (name : String) (now : Nat) (policy : WorkspacePolicy)
  | mutate (id : Uuid) (op : WorkspaceOp P G)
  | remove (id : Uuid)

/-- A tick, with what the other tasks do meanwhile. -/
structure SerializationTick (P : Type u) (G : Type v) where
  proc : ProcFs
  now : Nat
  beforeWrite : List (RegistryChange P G)
  saveFails : Uuid → Bool
  afterWrite : List (RegistryChange P G)

namespace SerializationState

section Ticks

variable {P : Type u} {G : Type v}
variable [VteParser P] [Vt100Parser G]

/-- The registry after a change; only the loop itself marks a workspace as persisted. -/
def changeRegistry (workspaces : HashMap Uuid (Workspace P G)) :
    RegistryChange P G → HashMap Uuid (Workspace P G)
  | .create id name now policy =>
      if (workspaces.lookup id).isSome then
        workspaces
      else
        workspaces.insert id { Workspace.new id name now with policy := policy }
  | .mutate _ .markPersisted => workspaces
  | .mutate id op => workspaces.modify id fun w => w.apply op
  | .remove id => workspaces.erase id

def changeAll (changes : List (RegistryChange P G)) (s : SerializationState P G) :
    SerializationState P G :=
  { s with workspaces := changes.foldl changeRegistry s.workspaces }

/-- A tick: the three steps of the loop with the changes in between. -/
def tick (t : SerializationTick P G) (s : SerializationState P G) :
    Option (SerializationState P G) := do
  let s ← s.next (.collect t.proc t.now)
  let s ← (s.changeAll t.beforeWrite).next (.write t.saveFails)
  (s.changeAll t.afterWrite).next .mark

/-- The files that the tick writes. -/
def tickFiles (t : SerializationTick P G) (s : SerializationState P G) : List WorkspaceFileV2 :=
  collectFiles s.workspaces t.proc t.now

/-- The registry when the tick marks. -/
def lateRegistry (t : SerializationTick P G) (s : SerializationState P G) :
    HashMap Uuid (Workspace P G) :=
  (t.beforeWrite ++ t.afterWrite).foldl changeRegistry s.workspaces

omit [VteParser P] [Vt100Parser G] in
/-- The workspace is not removed during the tick. -/
def Stays (t : SerializationTick P G) (id : Uuid) : Prop :=
  ∀ change ∈ t.beforeWrite ++ t.afterWrite, change ≠ .remove id

omit [VteParser P] [Vt100Parser G] in
/-- Exactly the saved workspaces are marked, at the revision that was written, and the
others are as dirty as before. -/
structure MarksSaved (t : SerializationTick P G) (s s' : SerializationState P G) : Prop where
  saved : ∀ f ∈ tickFiles t s, Stays t (fileId f) → t.saveFails (fileId f) = false →
    ∀ w', s'.workspaces.lookup (fileId f) = some w' →
      w'.persistedRevision = f.instanceData.revision
  failed : ∀ f ∈ tickFiles t s, Stays t (fileId f) → t.saveFails (fileId f) = true →
    ∀ w', s'.workspaces.lookup (fileId f) = some w' → w'.isDirty = true
  others : ∀ id w w', Stays t id → s.workspaces.lookup id = some w →
    s'.workspaces.lookup id = some w' →
    (∀ f ∈ tickFiles t s, t.saveFails (fileId f) = false → fileId f ≠ id) →
      w'.persistedRevision = w.persistedRevision

/-- Every file of a workspace that stays is saved, and nothing raises its revision. -/
def AllSavedUnchanged (t : SerializationTick P G) (s : SerializationState P G) : Prop :=
  ∀ f ∈ tickFiles t s, Stays t (fileId f) →
    t.saveFails (fileId f) = false ∧
      ∀ w, (lateRegistry t s).lookup (fileId f) = some w → w.revision = f.instanceData.revision

/-- The state after a tick. -/
def afterTick (t : SerializationTick P G) (s : SerializationState P G) :
    SerializationState P G where
  workspaces := (lateRegistry t s).modifyAll Workspace.markPersisted ((tickFiles t s).map fileId)
  disk := s.disk.insertAll fileId ((tickFiles t s).filter fun f => !t.saveFails (fileId f))
  phase := .idle

/-- A tick starts when no pass is in progress, and then runs to its end. -/
theorem tick_eq {s : SerializationState P G}
    (h : s.phase = .idle)
    (t : SerializationTick P G) :
    s.tick t = some (afterTick t s) := by
  simp only [tick, next, h, changeAll, Option.bind_eq_bind, Option.bind_some, afterTick,
    lateRegistry, List.foldl_append, tickFiles]

/-- A change leaves a workspace that it does not remove, with its persisted revision. -/
theorem lookup_change {workspaces : HashMap Uuid (Workspace P G)} {id : Uuid}
    {w : Workspace P G} {change : RegistryChange P G}
    (h : workspaces.lookup id = some w)
    (hkeep : change ≠ .remove id) :
    ∃ w', (changeRegistry workspaces change).lookup id = some w' ∧
      w'.persistedRevision = w.persistedRevision := by
  cases change with
  | create id' name now policy =>
      rw [changeRegistry]
      split
      · exact ⟨w, h, rfl⟩
      · rename_i hfree
        have hne : id ≠ id' := by
          rintro rfl
          rw [h] at hfree
          exact hfree rfl
        exact ⟨w, (AList.lookup_insert_ne hne).trans h, rfl⟩
  | mutate id' op =>
      by_cases hmark : op = .markPersisted
      · subst hmark
        exact ⟨w, h, rfl⟩
      · have hchange : changeRegistry workspaces (.mutate id' op) =
            workspaces.modify id' fun w => w.apply op := by
          cases op <;> first | rfl | exact absurd rfl hmark
        rw [hchange]
        by_cases hid : id = id'
        · subst hid
          refine ⟨w.apply op, ?_, (Workspace.apply_bumped w op hmark).persisted⟩
          rw [HashMap.lookup_modify_self, h, Option.map_some]
        · exact ⟨w, (HashMap.lookup_modify_ne workspaces _ hid).trans h, rfl⟩
  | remove id' =>
      have hne : id ≠ id' := by
        rintro rfl
        exact hkeep rfl
      exact ⟨w, (AList.lookup_erase_ne hne).trans h, rfl⟩

/-- **What the other tasks do** leaves every workspace they do not remove. -/
theorem lookup_changes {workspaces : HashMap Uuid (Workspace P G)} {id : Uuid}
    {w : Workspace P G}
    (changes : List (RegistryChange P G))
    (h : workspaces.lookup id = some w)
    (hkeep : ∀ change ∈ changes, change ≠ .remove id) :
    ∃ w', (changes.foldl changeRegistry workspaces).lookup id = some w' ∧
      w'.persistedRevision = w.persistedRevision := by
  induction changes generalizing workspaces w with
  | nil => exact ⟨w, h, rfl⟩
  | cons change rest ih =>
      obtain ⟨w₁, hw₁, hpersisted₁⟩ := lookup_change h (hkeep change List.mem_cons_self)
      obtain ⟨w₂, hw₂, hpersisted₂⟩ := ih hw₁ fun c hc => hkeep c (List.mem_cons_of_mem _ hc)
      exact ⟨w₂, hw₂, hpersisted₂.trans hpersisted₁⟩

/-- A workspace is registered under its own id. -/
def Keyed (workspaces : HashMap Uuid (Workspace P G)) : Prop :=
  ∀ id w, workspaces.lookup id = some w → w.id = id

theorem Keyed.change {workspaces : HashMap Uuid (Workspace P G)}
    (h : Keyed workspaces)
    (change : RegistryChange P G) :
    Keyed (changeRegistry workspaces change) := by
  intro id w hlook
  cases change with
  | create id' name now policy =>
      rw [changeRegistry] at hlook
      split at hlook
      · exact h id w hlook
      · rcases HashMap.lookup_insert_cases hlook with ⟨rfl, rfl⟩ | ⟨_, hold⟩
        · rfl
        · exact h id w hold
  | mutate id' op =>
      by_cases hmark : op = .markPersisted
      · subst hmark
        exact h id w hlook
      · have hchange : changeRegistry workspaces (.mutate id' op) =
            workspaces.modify id' fun w => w.apply op := by
          cases op <;> first | rfl | exact absurd rfl hmark
        rw [hchange, HashMap.lookup_modify] at hlook
        split at hlook
        · obtain ⟨w₀, hw₀, rfl⟩ := Option.map_eq_some_iff.mp hlook
          rw [Workspace.apply_id]
          exact h id w₀ hw₀
        · exact h id w hlook
  | remove id' =>
      exact h id w (HashMap.lookup_erase_cases hlook).2

theorem Keyed.changes {workspaces : HashMap Uuid (Workspace P G)}
    (h : Keyed workspaces)
    (changes : List (RegistryChange P G)) :
    Keyed (changes.foldl changeRegistry workspaces) := by
  induction changes generalizing workspaces with
  | nil => exact h
  | cons change rest ih => exact ih (h.change change)

omit [VteParser P] [Vt100Parser G] in
/-- A written file is that of a registered workspace, at its revision. -/
theorem workspace_of_file {t : SerializationTick P G} {s : SerializationState P G}
    {f : WorkspaceFileV2}
    (h : Keyed s.workspaces)
    (hf : f ∈ tickFiles t s) :
    ∃ w, s.workspaces.lookup (fileId f) = some w ∧
      w.revision = f.instanceData.revision := by
  obtain ⟨proc, now, hbuilt⟩ := collectFiles_builtFrom h t.proc t.now
  obtain ⟨w, hw, hfile⟩ := hbuilt f hf
  refine ⟨w, hw, ?_⟩
  rw [hfile]
  rfl

omit [VteParser P] [Vt100Parser G] in
/-- The file of every dirty persistent workspace is written by the next tick. -/
theorem file_of_dirty {t : SerializationTick P G} {s : SerializationState P G} {id : Uuid}
    {w : Workspace P G}
    (hlook : s.workspaces.lookup id = some w)
    (hpolicy : w.policy = .persistent)
    (hdirty : w.isDirty = true) :
    w.toWorkspaceFile t.proc t.now ∈ tickFiles t s := by
  refine List.mem_map.mpr ⟨w, List.mem_filter.mpr ⟨?_, ?_⟩, rfl⟩
  · exact HashMap.mem_values.mpr ⟨id, hlook⟩
  · rw [hpolicy, hdirty]
    rfl

end Ticks

section Runs

variable {P : Type u} {G : Type v}
variable [VteParser P] [Vt100Parser G]

/-- A change by another task, or a tick. -/
inductive TickLabel (P : Type u) (G : Type v)
  | change (change : RegistryChange P G)
  | tick (t : SerializationTick P G)

variable (P G) in
/-- The daemon from the workspaces it has restored. -/
def tickSystem : System (SerializationState P G) (TickLabel P G) where
  init := fun s => s.phase = .idle ∧ Keyed s.workspaces
  next := fun s label =>
    match label with
    | .change change => some (s.changeAll [change])
    | .tick t => s.tick t

/-- Between ticks no pass is in progress, and workspaces are under their ids. -/
theorem between_ticks {s : SerializationState P G}
    (h : (tickSystem P G).Reachable s) :
    s.phase = .idle ∧ Keyed s.workspaces := by
  refine System.ReachableUnder.invariant
    (I := fun s : SerializationState P G => s.phase = .idle ∧ Keyed s.workspaces)
    (fun s hs => hs) ?_ h
  rintro s label s' ⟨hphase, hkeyed⟩ _ hnext
  cases label with
  | change change =>
      obtain rfl := Option.some.inj hnext
      exact ⟨hphase, hkeyed.change change⟩
  | tick t =>
      have htick : s.tick t = some s' := hnext
      rw [tick_eq hphase] at htick
      obtain rfl := Option.some.inj htick
      refine ⟨rfl, fun id w' hlook => ?_⟩
      have hlate : Keyed (lateRegistry t s) := hkeyed.changes _
      obtain ⟨w, hw, ⟨_, rfl⟩ | ⟨_, rfl⟩⟩ := lookup_mark hlook
      · exact hlate id w hw
      · exact hlate id w' hw

/-- A workspace whose file is written and that stays is marked at its revision. -/
theorem lookup_marked {t : SerializationTick P G} {s : SerializationState P G}
    {f : WorkspaceFileV2}
    (h : Keyed s.workspaces)
    (hf : f ∈ tickFiles t s)
    (hstays : Stays t (fileId f)) :
    ∃ w, (lateRegistry t s).lookup (fileId f) = some w ∧
      ((lateRegistry t s).modifyAll Workspace.markPersisted
        ((tickFiles t s).map fileId)).lookup (fileId f) = some w.markPersisted := by
  obtain ⟨w₀, hw₀, _⟩ := workspace_of_file h hf
  obtain ⟨w, hw, _⟩ := lookup_changes _ hw₀ hstays
  have hidem : ∀ w : Workspace P G, w.markPersisted.markPersisted = w.markPersisted :=
    fun _ => rfl
  refine ⟨w, hw, ?_⟩
  rw [HashMap.lookup_modifyAll hidem, if_pos (List.mem_map_of_mem hf)]
  exact congrArg (Option.map Workspace.markPersisted) hw

/-- **A tick marks exactly what was saved if and only if every save of a workspace that
stays succeeds and nothing raises its revision**: a workspace whose save failed is marked
like the others. -/
theorem marksSaved_iff {s s' : SerializationState P G} {t : SerializationTick P G}
    (h : (tickSystem P G).Reachable s)
    (hrun : s.tick t = some s') :
    MarksSaved t s s' ↔ AllSavedUnchanged t s := by
  obtain ⟨hphase, hkeyed⟩ := between_ticks h
  rw [tick_eq hphase] at hrun
  obtain rfl := Option.some.inj hrun
  constructor
  · intro hmarks f hf hstays
    obtain ⟨w, hw, hmarked⟩ := lookup_marked hkeyed hf hstays
    have hclean : ¬ w.markPersisted.isDirty = true := by
      simp [Workspace.isDirty, Workspace.markPersisted]
    have hsaved : t.saveFails (fileId f) = false := by
      by_contra hfails
      exact hclean (hmarks.failed f hf hstays (Bool.of_not_eq_false hfails) _ hmarked)
    refine ⟨hsaved, fun w₁ hw₁ => ?_⟩
    obtain rfl := Option.some.inj (hw.symm.trans hw₁)
    exact hmarks.saved f hf hstays hsaved _ hmarked
  · intro hall
    constructor
    · intro f hf hstays _ w' hw'
      obtain ⟨w, hw, hmarked⟩ := lookup_marked hkeyed hf hstays
      obtain rfl := Option.some.inj (hmarked.symm.trans hw')
      exact (hall f hf hstays).2 w hw
    · intro f hf hstays hfails
      rw [(hall f hf hstays).1] at hfails
      cases hfails
    · intro id w w' hstays hw hw' hnone
      obtain ⟨w₁, hw₁, hpersisted⟩ := lookup_changes _ hw hstays
      obtain ⟨w₂, hw₂, ⟨hmem, _⟩ | ⟨_, rfl⟩⟩ := lookup_mark hw'
      · obtain ⟨f, hf, rfl⟩ := List.mem_map.mp hmem
        exact absurd rfl (hnone f hf (hall f hf hstays).1)
      · obtain rfl := Option.some.inj (hw₁.symm.trans hw₂)
        exact hpersisted

/-- A daemon with one new workspace. -/
def oneWorkspace : SerializationState SampleParser SampleGrid :=
  SerializationState.changeAll [.create 7 "work" 0 .persistent] ⟨∅, ∅, .idle⟩

theorem reachable_oneWorkspace : (tickSystem SampleParser SampleGrid).Reachable oneWorkspace := by
  refine System.Reachable.next (a := .change (.create 7 "work" 0 .persistent))
    (System.Reachable.of_init (s := ⟨∅, ∅, .idle⟩) ⟨rfl, fun id w hlook => ?_⟩) rfl
  cases hlook

/-- A tick in which the saves of `fails` fail. -/
def failingTick (fails : Uuid → Bool) : SerializationTick SampleParser SampleGrid :=
  ⟨⟨fun _ => none, fun _ => none⟩, 5, [], fails, []⟩

theorem marksSaved_oneWorkspace :
    MarksSaved (failingTick fun _ => false) oneWorkspace
        (afterTick (failingTick fun _ => false) oneWorkspace) ↔
      AllSavedUnchanged (failingTick fun _ => false) oneWorkspace :=
  marksSaved_iff reachable_oneWorkspace (tick_eq rfl _)

/-- **A failed save is forgotten**: after the tick the workspace is clean, and there is no
file of it. -/
theorem failed_save_is_clean :
    oneWorkspace.tick (failingTick fun _ => true) =
        some (afterTick (failingTick fun _ => true) oneWorkspace) ∧
      ((afterTick (failingTick fun _ => true) oneWorkspace).workspaces.lookup 7).map
          (fun w => w.isDirty) = some false ∧
      (afterTick (failingTick fun _ => true) oneWorkspace).disk.lookup 7 = none ∧
      ¬ MarksSaved (failingTick fun _ => true) oneWorkspace
          (afterTick (failingTick fun _ => true) oneWorkspace) := by
  have hclean : ((afterTick (failingTick fun _ => true) oneWorkspace).workspaces.lookup 7).map
      (fun w => w.isDirty) = some false := by
    decide +kernel
  refine ⟨tick_eq rfl _, hclean, by decide +kernel, fun hmarks => ?_⟩
  have hview : (oneWorkspace.workspaces.lookup 7).map (fun w => (w.id, w.policy, w.isDirty)) =
      some (7, .persistent, true) := by
    decide +kernel
  obtain ⟨w, hw, hstate⟩ := Option.map_eq_some_iff.mp hview
  rw [Prod.mk.injEq, Prod.mk.injEq] at hstate
  obtain ⟨w', hw', hdirty⟩ := Option.map_eq_some_iff.mp hclean
  have hfile : w.toWorkspaceFile ⟨fun _ => none, fun _ => none⟩ 5 ∈
      tickFiles (failingTick fun _ => true) oneWorkspace :=
    file_of_dirty hw hstate.2.1 hstate.2.2
  have hid : fileId (w.toWorkspaceFile ⟨fun _ => none, fun _ => none⟩ 5) = 7 := hstate.1
  have hstays : Stays (failingTick fun _ => true)
      (fileId (w.toWorkspaceFile ⟨fun _ => none, fun _ => none⟩ 5)) := by
    intro change hchange
    exact absurd hchange List.not_mem_nil
  have hlook : (afterTick (failingTick fun _ => true) oneWorkspace).workspaces.lookup
      (fileId (w.toWorkspaceFile ⟨fun _ => none, fun _ => none⟩ 5)) = some w' := by
    rw [hid]
    exact hw'
  have hstill : w'.isDirty = true := hmarks.failed _ hfile hstays rfl w' hlook
  exact Bool.noConfusion (hstill.symm.trans hdirty)

end Runs

end SerializationState

end Server
end Rttx
