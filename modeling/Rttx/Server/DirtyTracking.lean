import Rttx.Server.WorkspaceFile

/-!
# Dirty tracking

A workspace is written to disk when its revision is ahead of the persisted
one, so every operation that changes the durable content must raise the
revision.  The setters decide by comparing with the recorded value.  On the
output path the pane has already recorded the reported title by the time the
title setter compares, so a batch that changes the title and nothing else
changes the file and leaves the revision.

`KeepsSpec` says of an operation's arguments that they repeat what the
workspace records; `TitleOnly` singles out the batch above.

**Results.**
* `apply_durableSpec_iff`: an operation keeps the durable content exactly when its
  arguments do.
* `tracksDirt_iff`: the exact condition under which an operation is tracked.
* `tracksDirt_fails_on_title`: a run whose title change is lost.
-/

namespace Rttx
namespace Server

open Kernel

universe u v

section Ratios

namespace PaneTree

/-- The ratio of the split addressed by `path`. -/
def ratioAt : PaneTree → List Side → Option F32
  | leaf _, _ => none
  | split _ ratio _ _, [] => some ratio
  | split _ _ first _, .first :: rest => first.ratioAt rest
  | split _ _ _ second, .second :: rest => second.ratioAt rest

/-- Writing a ratio goes through exactly where there is one, and changes the
tree unless it was that ratio. -/
theorem nodeAtMut_setRatio_cases (ratio : F32) (path : List Side) (t : PaneTree) :
    (t.ratioAt path = none ∧ t.nodeAtMut (setRatio ratio) path = none) ∨
      ∃ old t', t.ratioAt path = some old ∧
        t.nodeAtMut (setRatio ratio) path = some t' ∧
        (t' = t ↔ old = ratio) := by
  induction t generalizing path with
  | leaf pane =>
      left
      cases path with
      | nil => simp [ratioAt, nodeAtMut, setRatio]
      | cons side rest => simp [ratioAt, nodeAtMut]
  | split axis old first second ihF ihS =>
      cases path with
      | nil =>
          right
          refine ⟨old, split axis ratio first second, rfl, rfl, ?_⟩
          constructor
          · intro h
            injection h with _ hratio _ _
            exact hratio.symm
          · intro h
            rw [h]
      | cons side rest =>
          cases side with
          | first =>
              rcases ihF rest with ⟨hnone, hset⟩ | ⟨r, first', hsome, hset, hiff⟩
              · left
                simp [ratioAt, nodeAtMut, hnone, hset]
              · right
                refine ⟨r, split axis old first' second, hsome, ?_, ?_⟩
                · simp [nodeAtMut, hset]
                · simpa using hiff
          | second =>
              rcases ihS rest with ⟨hnone, hset⟩ | ⟨r, second', hsome, hset, hiff⟩
              · left
                simp [ratioAt, nodeAtMut, hnone, hset]
              · right
                refine ⟨r, split axis old first second', hsome, ?_, ?_⟩
                · simp [nodeAtMut, hset]
                · simpa using hiff

end PaneTree

namespace WorkspaceTree

def ratioAt (t : WorkspaceTree) (path : List Side) : Option F32 :=
  t.root.bind (fun root => root.ratioAt path)

/-- A ratio request that leaves the tree as it is. -/
def KeepsRatio (t : WorkspaceTree) (path : List Side) (ratio : F32) : Prop :=
  ratioIsValid ratio = false ∨ t.ratioAt path = none ∨ t.ratioAt path = some ratio

theorem resizeSplit_eq_self_iff (t : WorkspaceTree) (path : List Side) (ratio : F32) :
    (t.resizeSplit path ratio).1 = t ↔ t.KeepsRatio path ratio := by
  cases hvalid : ratioIsValid ratio with
  | false => simp [resizeSplit, hvalid, KeepsRatio]
  | true =>
      cases hroot : t.root with
      | none => simp [resizeSplit, hvalid, hroot, KeepsRatio, ratioAt]
      | some root =>
          rcases PaneTree.nodeAtMut_setRatio_cases ratio path root with
            ⟨hnone, hset⟩ | ⟨old, root', hsome, hset, hiff⟩
          · simp [resizeSplit, hvalid, hroot, hset, KeepsRatio, ratioAt, hnone]
          · obtain ⟨r, active⟩ := t
            simp only at hroot
            subst hroot
            simp [resizeSplit, hvalid, hset, KeepsRatio, ratioAt, hsome, hiff]

end WorkspaceTree

end Ratios

namespace Workspace

section Conditions

variable {P : Type u} {G : Type v}

/-- The arguments of the operation repeat what the workspace records. -/
def KeepsSpec (proc : ProcFs) (w : Workspace P G) : WorkspaceOp P G → Prop
  | .addPane pane =>
      (w.panes.lookup pane.id).map (paneSpec proc) = some (paneSpec proc pane)
  | .splitPane target pane _ ratio =>
      ¬ w.tree.CanSplit (.fromUuid target) (.fromUuid pane.id) ratio
  | .removePane paneId => paneId ∉ w.panes
  | .resizeSplit path ratio => w.tree.KeepsRatio path ratio
  | .setDefaultActivePane paneId =>
      PaneId.fromUuid paneId ∉ w.tree.panes ∨
        w.tree.defaultActive = some (.fromUuid paneId)
  | .attachClient _ _ _ => True
  | .detachClient _ _ => True
  | .setAutoName name => w.userRenamed = true ∨ w.name = name ∨ name = ""
  | .refreshAutoName proc' =>
      w.userRenamed = true ∨ w.derivedName proc' = none ∨ w.derivedName proc' = some w.name
  | .rename name => w.name = name ∧ w.userRenamed = true
  | .resizePane paneId cols rows =>
      ∀ pane, w.panes.lookup paneId = some pane → pane.cols = cols ∧ pane.rows = rows
  | .setPaneTitle paneId title =>
      ∀ pane, w.panes.lookup paneId = some pane → pane.title = some title
  | .setPaneNoPersist paneId noPersist =>
      ∀ pane, w.panes.lookup paneId = some pane → pane.noPersist = noPersist
  | .setPaneExitStatus paneId status =>
      ∀ pane, w.panes.lookup paneId = some pane → pane.exitStatus = status
  | .takeOutput _ _ => True
  | .returnOutput paneId screen _ =>
      ∀ pane, w.panes.lookup paneId = some pane →
        screen.title.or pane.title = pane.title ∧
          (screen.cwd.or pane.cwd).or (pane.readProcCwd proc) = pane.effectiveCwd proc ∧
          (∀ cwd, screen.cwd = some cwd → pane.cwd ≠ some cwd →
            w.paneNamesWorkspace paneId = true →
            autoNameFromCwd cwd = none ∨ autoNameFromCwd cwd = some w.name)
  | .markPersisted => True

/-- A returned screen that reports a new title and no new working directory. -/
def TitleOnly (w : Workspace P G) : WorkspaceOp P G → Prop
  | .returnOutput paneId screen _ =>
      ∃ pane, w.panes.lookup paneId = some pane ∧
        (∃ title, screen.title = some title ∧ pane.title ≠ some title) ∧
        (screen.cwd = none ∨ screen.cwd = pane.cwd)
  | _ => False

/-- `keeps` decides whether the durable content stays; if not, there is a bump. -/
structure Tracked (proc : ProcFs) (w w' : Workspace P G) (keeps : Prop) : Prop where
  spec : w'.durableSpec proc = w.durableSpec proc ↔ keeps
  bump : ¬ keeps → w'.revision = saturatingAdd w.revision 1

/-- An operation that keeps the durable content. -/
theorem Tracked.of_same {proc : ProcFs} {w w' : Workspace P G} {keeps : Prop}
    (hkeeps : keeps)
    (hsame : w'.durableSpec proc = w.durableSpec proc) :
    Tracked proc w w' keeps :=
  ⟨⟨fun _ => hkeeps, fun _ => hsame⟩, fun h => absurd hkeeps h⟩

/-- An operation that changes the durable content and bumps. -/
theorem Tracked.of_changed {proc : ProcFs} {w w' : Workspace P G} {keeps : Prop}
    (hkeeps : ¬ keeps)
    (hdiff : w'.durableSpec proc ≠ w.durableSpec proc)
    (hbump : w'.revision = saturatingAdd w.revision 1) :
    Tracked proc w w' keeps :=
  ⟨⟨fun h => absurd h hdiff, fun h => absurd h hkeeps⟩, fun _ => hbump⟩

end Conditions

section Setters

variable {P : Type u} {G : Type v}

/-- An in-place update is tracked when its own test for a change agrees with
the durable entry. -/
theorem updatePane_tracked {w : Workspace P G} {paneId : Uuid} {proc : ProcFs}
    {changed : Pane P G → Bool} {update : Pane P G → Pane P G}
    {keepsPane : Pane P G → Prop}
    (hspec : ∀ pane, paneSpec proc (update pane) = paneSpec proc pane ↔ keepsPane pane)
    (hchanged : ∀ pane, changed pane = false ↔ keepsPane pane) :
    Tracked proc w (w.updatePane paneId changed update).2
      (∀ pane, w.panes.lookup paneId = some pane → keepsPane pane) := by
  cases hpane : w.panes.lookup paneId with
  | none =>
      refine Tracked.of_same (by simp) ?_
      simp [updatePane, hpane]
  | some pane =>
      have hdurable := updatePane_durableSpec hpane proc changed update
      have hentry : (w.durableSpec proc).panes paneId = some (paneSpec proc pane) := by
        simp [durableSpec, hpane]
      refine ⟨?_, ?_⟩
      · rw [hdurable, DurableSpec.setPane_eq_self_iff, hentry, Option.some.injEq, hspec]
        simp
      · intro hnot
        have hc : changed pane = true := by
          rw [← Bool.not_eq_false, hchanged]
          simpa using hnot
        simp [updatePane, hpane, hc]

theorem setAutoName_tracked (w : Workspace P G) (proc : ProcFs) (name : String) :
    Tracked proc w (w.setAutoName name).2
      (w.userRenamed = true ∨ w.name = name ∨ name = "") := by
  by_cases hkeeps : w.userRenamed = true ∨ w.name = name ∨ name = ""
  · refine Tracked.of_same hkeeps ?_
    have hguard : (w.userRenamed || decide (w.name = name) || decide (name = "")) = true := by
      simpa [or_assoc] using hkeeps
    simp only [setAutoName, hguard, if_true]
  · have hguard : (w.userRenamed || decide (w.name = name) || decide (name = "")) = false := by
      simpa [and_assoc] using hkeeps
    have hres : (w.setAutoName name).2 =
        ({ w with name := name } : Workspace P G).bumpRevision := by
      simp only [setAutoName, hguard, Bool.false_eq_true, if_false]
    refine Tracked.of_changed hkeeps ?_ (by rw [hres]; rfl)
    rw [hres]
    intro hsame
    have hname : name = w.name := congrArg DurableSpec.name hsame
    exact hkeeps (Or.inr (Or.inl hname.symm))

theorem rename_tracked (w : Workspace P G) (proc : ProcFs) (name : String) :
    Tracked proc w (w.rename name).2 (w.name = name ∧ w.userRenamed = true) := by
  by_cases hkeeps : w.name = name ∧ w.userRenamed = true
  · refine Tracked.of_same hkeeps ?_
    simp [rename, hkeeps.1, hkeeps.2]
  · have hguard : (decide (w.name ≠ name) || !w.userRenamed) = true := by
      by_cases hn : w.name = name
      · have hu : w.userRenamed = false := by simpa [hn] using hkeeps
        simp [hu]
      · simp [hn]
    have hres : (w.rename name).2 =
        ({ w with name := name, userRenamed := true } : Workspace P G).bumpRevision := by
      simp only [rename, hguard, if_true]
    refine Tracked.of_changed hkeeps ?_ (by rw [hres]; rfl)
    rw [hres]
    intro hsame
    have hname : name = w.name := congrArg DurableSpec.name hsame
    have huser : true = w.userRenamed := congrArg DurableSpec.userRenamed hsame
    exact hkeeps ⟨hname.symm, huser.symm⟩

/-- The outcomes of deriving the name anew. -/
theorem refreshAutoName_cases (w : Workspace P G) (proc : ProcFs) :
    ((w.userRenamed = true ∨ w.derivedName proc = none ∨ w.derivedName proc = some w.name) ∧
        (w.refreshAutoName proc).2 = w) ∨
      ∃ name, w.userRenamed = false ∧ w.derivedName proc = some name ∧ name ≠ w.name ∧
        (w.refreshAutoName proc).2 = ({ w with name := name } : Workspace P G).bumpRevision := by
  cases huser : w.userRenamed with
  | true => exact Or.inl ⟨Or.inl rfl, by simp [refreshAutoName, huser]⟩
  | false =>
      cases hname : w.derivedName proc with
      | none => exact Or.inl ⟨Or.inr (Or.inl rfl), by simp [refreshAutoName, huser, hname]⟩
      | some name =>
          by_cases hsame : name = w.name
          · left
            exact ⟨by simp [hsame], by simp [refreshAutoName, huser, hname, hsame]⟩
          · right
            exact ⟨name, rfl, rfl, hsame, by simp [refreshAutoName, huser, hname, hsame]⟩

theorem refreshAutoName_tracked (w : Workspace P G) (proc proc' : ProcFs) :
    Tracked proc w (w.refreshAutoName proc').2
      (w.userRenamed = true ∨ w.derivedName proc' = none ∨
        w.derivedName proc' = some w.name) := by
  rcases refreshAutoName_cases w proc' with ⟨hkeeps, hres⟩ | ⟨name, huser, hname, hne, hres⟩
  · exact Tracked.of_same hkeeps (by rw [hres])
  · refine Tracked.of_changed ?_ ?_ (by rw [hres]; rfl)
    · simp [huser, hname, hne]
    · rw [hres]
      intro hsame
      exact hne (congrArg DurableSpec.name hsame)

end Setters

section Structure

variable {P : Type u} {G : Type v}

theorem addPane_tracked {w : Workspace P G}
    (h : w.Coherent)
    (proc : ProcFs)
    (pane : Pane P G) :
    Tracked proc w (w.addPane pane)
      ((w.panes.lookup pane.id).map (paneSpec proc) = some (paneSpec proc pane)) := by
  have hbump : (w.addPane pane).revision = saturatingAdd w.revision 1 := by
    simp only [addPane]
    split <;> rfl
  by_cases hkeeps :
      (w.panes.lookup pane.id).map (paneSpec proc) = some (paneSpec proc pane)
  · obtain ⟨old, hold, _⟩ := Option.map_eq_some_iff.mp hkeeps
    have hkey : pane.id ∈ w.panes := by
      rw [← AList.lookup_isSome, hold]
      rfl
    have hleaf := (h.keys pane.id).mp hkey
    have htree : (w.addPane pane).tree = w.tree := by
      have hplace := placePane_of_mem (w.activePaneId.map PaneId.fromUuid) hleaf
      simp only [addPane]
      split
      · exact hplace
      · exact hplace
    refine ⟨⟨fun _ => hkeeps, fun _ => ?_⟩, fun hnot => absurd hkeeps hnot⟩
    obtain ⟨_, _, _, _, heffect⟩ := addPane_effect w pane
    have hpanes : ((w.addPane pane).durableSpec proc).panes = (w.durableSpec proc).panes := by
      funext k
      by_cases hk : k = pane.id
      · subst hk
        simp only [durableSpec, addPane_panes, HashMap.lookup_insert_eq, if_true,
          Option.map_some]
        exact hkeeps.symm
      · simp [durableSpec, addPane_panes, HashMap.lookup_insert_eq, hk]
    refine DurableSpec.ext ?_ ?_ ?_ ?_ ?_ htree hpanes
    all_goals rw [heffect]; rfl
  · refine Tracked.of_changed hkeeps ?_ hbump
    intro hsame
    have hentry := congrFun (congrArg DurableSpec.panes hsame) pane.id
    simp only [durableSpec, addPane_panes, HashMap.lookup_insert_eq, if_true,
      Option.map_some] at hentry
    exact hkeeps hentry.symm

theorem splitPane_tracked {w : Workspace P G}
    (h : w.Coherent)
    (proc : ProcFs)
    (target : Uuid)
    (pane : Pane P G)
    (axis : SplitAxis)
    (ratio : F32) :
    Tracked proc w (w.splitPane target pane axis ratio).2
      (¬ w.tree.CanSplit (.fromUuid target) (.fromUuid pane.id) ratio) := by
  by_cases hcan : w.tree.CanSplit (.fromUuid target) (.fromUuid pane.id) ratio
  · rcases splitPane_cases w target pane axis ratio with hnone | ⟨tree, _, _, _, hres⟩
    · obtain ⟨tree, hsplit, _⟩ := WorkspaceTree.split_of_canSplit hcan axis
      simp [splitPane, hsplit] at hnone
    · refine Tracked.of_changed (not_not_intro hcan) ?_ (by rw [hres]; rfl)
      have hnew : w.panes.lookup pane.id = none := by
        rw [AList.lookup_eq_none, h.keys]
        exact hcan.2.1
      rw [hres]
      intro hsame
      have hentry := congrFun (congrArg DurableSpec.panes hsame) pane.id
      simp [durableSpec, hnew] at hentry
  · refine Tracked.of_same hcan ?_
    simp [splitPane, WorkspaceTree.split_of_not_canSplit hcan]

theorem removePane_tracked (w : Workspace P G) (proc : ProcFs) (paneId : Uuid) :
    Tracked proc w (w.removePane paneId).2 (paneId ∉ w.panes) := by
  rcases removePane_cases w paneId with ⟨hno, hres⟩ | ⟨pane, hpane, _, hres⟩
  · exact Tracked.of_same hno (by rw [hres])
  · have hkey : paneId ∈ w.panes := by
      rw [← AList.lookup_isSome, hpane]
      rfl
    refine Tracked.of_changed (not_not_intro hkey) ?_ (by rw [hres]; rfl)
    rw [hres]
    intro hsame
    have hentry := congrFun (congrArg DurableSpec.panes hsame) paneId
    simp [durableSpec, hpane] at hentry

theorem resizeSplit_tracked (w : Workspace P G) (proc : ProcFs) (path : List Side)
    (ratio : F32) :
    Tracked proc w (w.resizeSplit path ratio).2 (w.tree.KeepsRatio path ratio) := by
  rcases resizeSplit_cases w path ratio with hnone | ⟨_, hres⟩
  · have hno : (w.tree.resizeSplit path ratio).2 = false := by
      generalize hr : w.tree.resizeSplit path ratio = r at *
      obtain ⟨tree, ok⟩ := r
      cases ok with
      | false => rfl
      | true => simp [resizeSplit, hr] at hnone
    have hsame := (w.tree.resizeSplit_spec path ratio).2.2.1 hno
    refine Tracked.of_same ((w.tree.resizeSplit_eq_self_iff path ratio).mp hsame) ?_
    rw [hnone]
  · by_cases hkeeps : w.tree.KeepsRatio path ratio
    · refine Tracked.of_same hkeeps ?_
      rw [hres, (w.tree.resizeSplit_eq_self_iff path ratio).mpr hkeeps]
      rfl
    · refine Tracked.of_changed hkeeps ?_ (by rw [hres]; rfl)
      rw [hres]
      intro hsame
      exact hkeeps ((w.tree.resizeSplit_eq_self_iff path ratio).mp
        (congrArg DurableSpec.tree hsame))

theorem setDefaultActivePane_tracked (w : Workspace P G) (proc : ProcFs) (paneId : Uuid) :
    Tracked proc w (w.setDefaultActivePane paneId).2
      (PaneId.fromUuid paneId ∉ w.tree.panes ∨
        w.tree.defaultActive = some (.fromUuid paneId)) := by
  rcases setDefaultActivePane_cases w paneId with hnone | ⟨hmem, _, hres⟩
  · have hno : PaneId.fromUuid paneId ∉ w.tree.panes := by
      intro hmem
      simp [setDefaultActivePane, WorkspaceTree.setDefaultActive_of_mem hmem] at hnone
    exact Tracked.of_same (Or.inl hno) (by rw [hnone])
  · have htree : ((w.setDefaultActivePane paneId).2.durableSpec proc).tree =
        { w.tree with defaultActive := some (.fromUuid paneId) } := by
      rw [hres]
      rfl
    by_cases hact : w.tree.defaultActive = some (.fromUuid paneId)
    · refine Tracked.of_same (Or.inr hact) ?_
      have hsame : ({ w.tree with defaultActive := some (.fromUuid paneId) } : WorkspaceTree) =
          w.tree := by
        rw [← hact]
      rw [hres, hsame]
      rfl
    · refine Tracked.of_changed (by simp [hmem, hact]) ?_ (by rw [hres]; rfl)
      intro hsame
      have hdefault := congrArg WorkspaceTree.defaultActive
        (htree.symm.trans (congrArg DurableSpec.tree hsame))
      exact hact hdefault.symm

theorem ChangesClients.tracked {w w' : Workspace P G}
    (h : w.ChangesClients w')
    (proc : ProcFs) :
    Tracked proc w w' True := by
  obtain ⟨_, _, _, rfl⟩ := h
  exact Tracked.of_same trivial rfl

end Structure

section OutputPath

variable {P : Type u} {G : Type v}

/-- Replacing a known pane does not change which pane names the workspace. -/
theorem paneNamesWorkspace_insert {w : Workspace P G} {paneId : Uuid} {old : Pane P G}
    (hpane : w.panes.lookup paneId = some old)
    (pane : Pane P G)
    (k : Uuid) :
    ({ w with panes := w.panes.insert paneId pane } : Workspace P G).paneNamesWorkspace k =
      w.paneNamesWorkspace k := by
  have hsome : ∀ id, ((w.panes.insert paneId pane).lookup id).isSome =
      (w.panes.lookup id).isSome := by
    intro id
    by_cases hid : id = paneId
    · subst hid
      simp [hpane]
    · simp [hid]
  simp only [paneNamesWorkspace, namingPaneId, hsome]

/-- The derived name when the pane that names the workspace is known. -/
theorem derivedName_of_names {w : Workspace P G} {paneId : Uuid} {pane : Pane P G}
    (hnames : w.paneNamesWorkspace paneId = true)
    (hpane : w.panes.lookup paneId = some pane)
    (proc : ProcFs) :
    w.userRenamed = false ∧
      w.derivedName proc = (pane.effectiveCwd proc).bind autoNameFromCwd := by
  have hparts : w.userRenamed = false ∧ w.namingPaneId = some paneId := by
    simpa [paneNamesWorkspace] using hnames
  refine ⟨hparts.1, ?_⟩
  simp [derivedName, hparts.2, hpane]

/-- The name a workspace has after a screen was returned to one of its panes. -/
def returnedName (w : Workspace P G) (paneId : Uuid) (newCwd : Option String) : String :=
  match newCwd with
  | none => w.name
  | some cwd =>
      if w.paneNamesWorkspace paneId then (autoNameFromCwd cwd).getD w.name else w.name

/-- The first two recording steps after a screen was returned. -/
theorem recordName_recordCwd {w : Workspace P G} {paneId : Uuid} {pane : Pane P G}
    {newCwd : Option String}
    (hpane : w.panes.lookup paneId = some pane)
    (hcwd : ∀ cwd, newCwd = some cwd → pane.cwd = some cwd)
    (proc : ProcFs) :
    ∃ rev,
      ((w.recordCwd paneId newCwd).2.recordName paneId
          (w.recordCwd paneId newCwd).1.isSome proc).2 =
        { w with name := w.returnedName paneId newCwd, revision := rev } ∧
      (newCwd = none → rev = w.revision) ∧
      (newCwd ≠ none → w.revision ≤ u64Max → saturatingAdd w.revision 1 ≤ rev) := by
  cases newCwd with
  | none => exact ⟨w.revision, rfl, fun _ => rfl, fun h => absurd rfl h⟩
  | some cwd =>
      have hrec : w.recordCwd paneId (some cwd) =
          (some (cwd, saturatingAdd w.revision 1), w.bumpRevision) := by
        simp [recordCwd, setPaneCwd, hpane]
      have hsat := saturatingAdd_le_max w.revision 1
      rw [hrec]
      by_cases hnames : w.paneNamesWorkspace paneId = true
      · have hnames' : w.bumpRevision.paneNamesWorkspace paneId = true := hnames
        obtain ⟨huser, hderived⟩ := derivedName_of_names (w := w.bumpRevision) hnames' hpane proc
        have heff : pane.effectiveCwd proc = some cwd := by
          simp [Pane.effectiveCwd, hcwd cwd rfl]
        rw [heff, Option.bind_some] at hderived
        have hstep : (w.bumpRevision.recordName paneId true proc).2 =
            (w.bumpRevision.refreshAutoName proc).2 := by
          simp [recordName, hnames']
        rw [Option.isSome_some, hstep]
        rcases refreshAutoName_cases w.bumpRevision proc with
          ⟨hkeeps, hres⟩ | ⟨name, _, hname, _, hres⟩
        · refine ⟨saturatingAdd w.revision 1, ?_, by simp, fun _ _ => Nat.le_refl _⟩
          have hsame : w.returnedName paneId (some cwd) = w.name := by
            rcases hkeeps with hu | hnone | hsome
            · rw [huser] at hu
              cases hu
            · rw [hderived] at hnone
              simp [returnedName, hnames, hnone]
            · rw [hderived] at hsome
              simp [returnedName, hnames, hsome]
          rw [hres, hsame]
          rfl
        · refine ⟨saturatingAdd (saturatingAdd w.revision 1) 1, ?_, by simp,
            fun _ _ => le_saturatingAdd hsat⟩
          rw [hderived] at hname
          have hnew : w.returnedName paneId (some cwd) = name := by
            simp [returnedName, hnames, hname]
          rw [hres, hnew]
          rfl
      · refine ⟨saturatingAdd w.revision 1, ?_, by simp, fun _ _ => Nat.le_refl _⟩
        have hnames' : w.bumpRevision.paneNamesWorkspace paneId = false :=
          Bool.eq_false_iff.mpr hnames
        have hstep : (w.bumpRevision.recordName paneId true proc).2 = w.bumpRevision := by
          simp only [recordName, hnames', Bool.and_false, Bool.false_eq_true, if_false]
        have hsame : w.returnedName paneId (some cwd) = w.name := by
          simp [returnedName, hnames]
        rw [Option.isSome_some, hstep, hsame]
        rfl

/-- Setting the title that the pane records already changes nothing durable. -/
theorem recordTitle_recorded {w : Workspace P G} {paneId : Uuid} {pane : Pane P G}
    {newTitle : Option String}
    (hpane : w.panes.lookup paneId = some pane)
    (htitle : ∀ title, newTitle = some title → pane.title = some title)
    (proc : ProcFs) :
    (w.recordTitle paneId newTitle).2.durableSpec proc = w.durableSpec proc ∧
      (w.recordTitle paneId newTitle).2.revision = w.revision := by
  cases newTitle with
  | none => exact ⟨rfl, rfl⟩
  | some title =>
      have hsame := htitle title rfl
      constructor
      · have hupdate := updatePane_durableSpec hpane proc
          (fun pane => pane.title ≠ some title) (fun pane => { pane with title := some title })
        have hentry : paneSpec proc ({ pane with title := some title } : Pane P G) =
            paneSpec proc pane := by
          simp [paneSpec, Pane.readProcCwd, hsame]
        rw [hentry] at hupdate
        refine hupdate.trans ?_
        rw [DurableSpec.setPane_eq_self_iff]
        simp [durableSpec, hpane]
      · simp [recordTitle, setPaneTitle, updatePane, hpane, hsame]

/-- The durable content and the revision after a screen was returned. -/
theorem returnOutput_durable {w : Workspace P G} {paneId : Uuid} {pane : Pane P G}
    (hpane : w.panes.lookup paneId = some pane)
    (screen : PaneScreen P G)
    (proc proc' : ProcFs) :
    (w.returnOutput paneId screen proc').2.durableSpec proc =
        { (w.durableSpec proc).setPane paneId
            (some (paneSpec proc (pane.returnScreen screen).2)) with
          name := w.returnedName paneId (pane.returnScreen screen).1.newCwd } ∧
      ((pane.returnScreen screen).1.newCwd = none →
        (w.returnOutput paneId screen proc').2.revision = w.revision) ∧
      ((pane.returnScreen screen).1.newCwd ≠ none → w.revision ≤ u64Max →
        saturatingAdd w.revision 1 ≤ (w.returnOutput paneId screen proc').2.revision) := by
  obtain ⟨htitle, hcwd⟩ := returnScreen_recorded pane screen
  generalize hret : pane.returnScreen screen = ret at *
  obtain ⟨result, pane'⟩ := ret
  simp only at htitle hcwd ⊢
  have hstored : ({ w with panes := w.panes.insert paneId pane' } : Workspace P G).panes.lookup
      paneId = some pane' := by
    simp
  obtain ⟨rev, hrec, hnone, hsome⟩ := recordName_recordCwd hstored hcwd proc'
  have hname : ({ w with panes := w.panes.insert paneId pane' } : Workspace P G).returnedName
      paneId result.newCwd = w.returnedName paneId result.newCwd := by
    simp only [returnedName, paneNamesWorkspace_insert hpane pane' paneId]
  rw [hname] at hrec
  have hout : (w.returnOutput paneId screen proc').2 =
      (({ w with
          panes := w.panes.insert paneId pane'
          name := w.returnedName paneId result.newCwd
          revision := rev } : Workspace P G).recordTitle paneId result.newTitle).2 := by
    simp only [returnOutput, hpane, hret]
    rw [hrec]
  have hlast : ({ w with
      panes := w.panes.insert paneId pane'
      name := w.returnedName paneId result.newCwd
      revision := rev } : Workspace P G).panes.lookup paneId = some pane' := by
    simp
  obtain ⟨hspec, hrev⟩ := recordTitle_recorded hlast htitle proc
  refine ⟨?_, ?_, ?_⟩
  · rw [hout, hspec]
    have hput := durableSpec_insert w proc paneId pane'
    exact congrArg
      (fun s : DurableSpec => { s with name := w.returnedName paneId result.newCwd }) hput
  · intro hno
    rw [hout, hrev]
    exact hnone hno
  · intro hyes hmax
    rw [hout, hrev]
    exact hsome hyes hmax

/-- Replacing an entry and the name changes nothing exactly when both were there. -/
theorem setPane_name_eq_self_iff (s : DurableSpec) (id : Uuid) (entry : Option PaneSpecV2)
    (name : String) :
    ({ s.setPane id entry with name := name } : DurableSpec) = s ↔
      entry = s.panes id ∧ name = s.name := by
  constructor
  · intro h
    have hentry := congrFun (congrArg DurableSpec.panes h) id
    have hname := congrArg DurableSpec.name h
    exact ⟨by simpa [DurableSpec.setPane] using hentry, hname⟩
  · rintro ⟨hentry, rfl⟩
    exact (s.setPane_eq_self_iff id entry).mpr hentry

/-- A returned screen changes nothing durable of the pane but its title and
working directory. -/
theorem returnScreen_frame (pane : Pane P G) (screen : PaneScreen P G) :
    (pane.returnScreen screen).2.id = pane.id ∧
      (pane.returnScreen screen).2.cols = pane.cols ∧
      (pane.returnScreen screen).2.rows = pane.rows ∧
      (pane.returnScreen screen).2.exitStatus = pane.exitStatus ∧
      (pane.returnScreen screen).2.childPid = pane.childPid ∧
      (pane.returnScreen screen).2.noPersist = pane.noPersist :=
  Pane.extractMetadata_frame _

/-- The returned pane's entry is the old one exactly when its title and its
working directory are. -/
theorem paneSpec_returnScreen_eq_iff (pane : Pane P G) (screen : PaneScreen P G)
    (proc : ProcFs) :
    paneSpec proc (pane.returnScreen screen).2 = paneSpec proc pane ↔
      screen.title.or pane.title = pane.title ∧
        (screen.cwd.or pane.cwd).or (pane.readProcCwd proc) = pane.effectiveCwd proc := by
  have htitle : (pane.returnScreen screen).2.title = screen.title.or pane.title :=
    Pane.extractMetadata_title _
  have hcwd : (pane.returnScreen screen).2.cwd = screen.cwd.or pane.cwd :=
    Pane.extractMetadata_cwd _
  obtain ⟨hid, hcols, hrows, hexit, hpid, hpersist⟩ := returnScreen_frame pane screen
  simp only [paneSpec, Pane.readProcCwd, Pane.effectiveCwd, htitle, hcwd, PaneSpecV2.mk.injEq,
    hid, hcols, hrows, hexit, hpid, hpersist, true_and, and_true]
  exact and_comm

/-- The name stays exactly when no new working directory of the naming pane
suggests another one. -/
theorem returnedName_eq_iff (w : Workspace P G) (paneId : Uuid) (pane : Pane P G)
    (screen : PaneScreen P G) :
    w.returnedName paneId (pane.returnScreen screen).1.newCwd = w.name ↔
      ∀ cwd, screen.cwd = some cwd → pane.cwd ≠ some cwd →
        w.paneNamesWorkspace paneId = true →
        autoNameFromCwd cwd = none ∨ autoNameFromCwd cwd = some w.name := by
  have hnew : (pane.returnScreen screen).1.newCwd = Pane.reportIfNew pane.cwd screen.cwd := rfl
  rw [hnew]
  cases hcwd : screen.cwd with
  | none => simp [Pane.reportIfNew, returnedName]
  | some cwd =>
      by_cases hsame : pane.cwd = some cwd
      · simp [Pane.reportIfNew, hsame, returnedName]
      · by_cases hnames : w.paneNamesWorkspace paneId = true
        · cases hauto : autoNameFromCwd cwd with
          | none => simp [Pane.reportIfNew, hsame, returnedName, hnames, hauto]
          | some name => simp [Pane.reportIfNew, hsame, returnedName, hnames, hauto]
        · simp [Pane.reportIfNew, hsame, returnedName, hnames]

/-- Returning a screen keeps the durable content exactly when its report repeats
what is recorded. -/
theorem returnOutput_spec_iff (w : Workspace P G) (paneId : Uuid) (screen : PaneScreen P G)
    (proc proc' : ProcFs) :
    (w.returnOutput paneId screen proc').2.durableSpec proc = w.durableSpec proc ↔
      KeepsSpec proc w (.returnOutput paneId screen proc') := by
  cases hpane : w.panes.lookup paneId with
  | none => simp [returnOutput, hpane, KeepsSpec]
  | some pane =>
      obtain ⟨hspec, _, _⟩ := returnOutput_durable hpane screen proc proc'
      have hentry : (w.durableSpec proc).panes paneId = some (paneSpec proc pane) := by
        simp [durableSpec, hpane]
      have hname : (w.durableSpec proc).name = w.name := rfl
      rw [hspec, setPane_name_eq_self_iff, hentry, hname, Option.some.injEq,
        paneSpec_returnScreen_eq_iff, returnedName_eq_iff]
      simp only [KeepsSpec, hpane, Option.some.injEq, forall_eq', and_assoc]

/-- A returned screen that changes the durable content bumps the revision,
except when it reports nothing but a title. -/
theorem returnOutput_bump {w : Workspace P G} {paneId : Uuid} {screen : PaneScreen P G}
    {proc proc' : ProcFs}
    (hkeeps : ¬ KeepsSpec proc w (.returnOutput paneId screen proc'))
    (htitle : ¬ w.TitleOnly (.returnOutput paneId screen proc'))
    (hmax : w.revision ≤ u64Max) :
    saturatingAdd w.revision 1 ≤ (w.returnOutput paneId screen proc').2.revision := by
  cases hpane : w.panes.lookup paneId with
  | none => simp [KeepsSpec, hpane] at hkeeps
  | some pane =>
      obtain ⟨_, _, hbump⟩ := returnOutput_durable hpane screen proc proc'
      refine hbump ?_ hmax
      intro hnone
      have hold : screen.cwd = none ∨ screen.cwd = pane.cwd :=
        Pane.reportIfNew_eq_none.mp hnone
      have hsame : screen.cwd.or pane.cwd = pane.cwd := by
        rcases hold with hno | heq
        · simp [hno]
        · cases hp : pane.cwd with
          | none => simp [heq, hp]
          | some cwd => simp [heq, hp]
      have htitleSame : screen.title.or pane.title = pane.title := by
        cases ht : screen.title with
        | none => simp
        | some title =>
            by_cases hrecorded : pane.title = some title
            · simp [hrecorded]
            · exact absurd ⟨pane, hpane, ⟨title, ht, hrecorded⟩, hold⟩ htitle
      refine hkeeps ?_
      intro p hp
      rw [hpane, Option.some.injEq] at hp
      subst hp
      refine ⟨htitleSame, by rw [hsame]; rfl, ?_⟩
      intro cwd hcwd hne _
      rcases hold with hno | heq
      · simp [hno] at hcwd
      · exact absurd (heq.symm.trans hcwd) hne

/-- A title-only batch changes the durable content and leaves the revision. -/
theorem returnOutput_titleOnly {w : Workspace P G} {paneId : Uuid} {screen : PaneScreen P G}
    {proc' : ProcFs}
    (h : w.TitleOnly (.returnOutput paneId screen proc'))
    (proc : ProcFs) :
    ¬ KeepsSpec proc w (.returnOutput paneId screen proc') ∧
      (w.returnOutput paneId screen proc').2.revision = w.revision := by
  obtain ⟨pane, hpane, ⟨title, ht, hne⟩, hcwd⟩ := h
  constructor
  · intro hkeeps
    have hsame := (hkeeps pane hpane).1
    rw [ht, Option.some_or] at hsame
    exact hne hsame.symm
  · obtain ⟨_, hrev, _⟩ := returnOutput_durable hpane screen proc proc'
    exact hrev (Pane.reportIfNew_eq_none.mpr hcwd)

end OutputPath

section Main

variable {P : Type u} {G : Type v}
variable [VteParser P] [Vt100Parser G]

theorem takeOutput_durableSpec (w : Workspace P G) (proc : ProcFs) (paneId : Uuid)
    (raw : Bytes) :
    (w.takeOutput paneId raw).2.durableSpec proc = w.durableSpec proc := by
  cases hpane : w.panes.lookup paneId with
  | none => simp [takeOutput, hpane]
  | some pane =>
      have hput := durableSpec_insert w proc paneId (takePaneOutput pane raw).2
      simp only [takeOutput, hpane]
      rw [hput, DurableSpec.setPane_eq_self_iff]
      simp only [durableSpec, hpane, Option.map_some]
      rfl

/-- Every operation but the return of a screen is tracked as its arguments say. -/
theorem apply_tracked {w : Workspace P G}
    (h : w.Coherent)
    (proc : ProcFs)
    (op : WorkspaceOp P G)
    (hop : ∀ paneId screen proc', op ≠ .returnOutput paneId screen proc') :
    Tracked proc w (w.apply op) (KeepsSpec proc w op) := by
  cases op with
  | addPane pane => exact addPane_tracked h proc pane
  | splitPane target pane axis ratio => exact splitPane_tracked h proc target pane axis ratio
  | removePane paneId => exact removePane_tracked w proc paneId
  | resizeSplit path ratio => exact resizeSplit_tracked w proc path ratio
  | setDefaultActivePane paneId => exact setDefaultActivePane_tracked w proc paneId
  | attachClient clientId mode now => exact (attachClient_effect w clientId mode now).tracked proc
  | detachClient clientId reason => exact (detachClient_effect w clientId reason).tracked proc
  | setAutoName name => exact setAutoName_tracked w proc name
  | refreshAutoName proc' => exact refreshAutoName_tracked w proc proc'
  | rename name => exact rename_tracked w proc name
  | resizePane paneId cols rows =>
      refine updatePane_tracked (fun pane => ?_) (fun pane => ?_)
      · simp [paneSpec, Pane.readProcCwd, eq_comm]
      · simp
  | setPaneTitle paneId title =>
      refine updatePane_tracked (fun pane => ?_) (fun pane => ?_)
      · simp [paneSpec, Pane.readProcCwd, eq_comm]
      · simp
  | setPaneNoPersist paneId noPersist =>
      refine updatePane_tracked (fun pane => ?_) (fun pane => ?_)
      · simp [paneSpec, Pane.readProcCwd, eq_comm]
      · simp
  | setPaneExitStatus paneId status =>
      refine updatePane_tracked (fun pane => ?_) (fun pane => ?_)
      · simp [paneSpec, Pane.readProcCwd, eq_comm]
      · simp
  | takeOutput paneId raw =>
      exact Tracked.of_same trivial (takeOutput_durableSpec w proc paneId raw)
  | returnOutput paneId screen proc' => exact absurd rfl (hop paneId screen proc')
  | markPersisted => exact Tracked.of_same trivial rfl

/-- An operation keeps the durable content exactly when its arguments do. -/
theorem apply_durableSpec_iff {w : Workspace P G}
    (h : w.Coherent)
    (proc : ProcFs)
    (op : WorkspaceOp P G) :
    (w.apply op).durableSpec proc = w.durableSpec proc ↔ KeepsSpec proc w op := by
  cases op with
  | returnOutput paneId screen proc' => exact returnOutput_spec_iff w paneId screen proc proc'
  | _ => exact (apply_tracked h proc _ (by simp)).spec

/-- An operation that changes the durable content bumps the revision, except
for a title-only batch. -/
theorem apply_bump {w : Workspace P G}
    (h : w.Coherent)
    (hmax : w.revision ≤ u64Max)
    {proc : ProcFs}
    {op : WorkspaceOp P G}
    (hkeeps : ¬ KeepsSpec proc w op)
    (htitle : ¬ w.TitleOnly op) :
    saturatingAdd w.revision 1 ≤ (w.apply op).revision := by
  cases op with
  | returnOutput paneId screen proc' => exact returnOutput_bump hkeeps htitle hmax
  | _ => exact Nat.le_of_eq ((apply_tracked h proc _ (by simp)).bump hkeeps).symm

/-- If the file's durable content changes, the revision rises and the workspace
is dirty. -/
def TracksDirt (proc : ProcFs) (now : Nat) (w : Workspace P G) (op : WorkspaceOp P G) : Prop :=
  ((w.apply op).toWorkspaceFile proc now).spec.durable ≠
      (w.toWorkspaceFile proc now).spec.durable →
    w.revision < (w.apply op).revision ∧ (w.apply op).isDirty = true

/-- **An operation on a reachable workspace is tracked exactly when** its
arguments repeat what is recorded, or the counter has room and the operation
is not a title-only batch. -/
theorem tracksDirt_iff {w : Workspace P G}
    (h : w.Reachable)
    (proc : ProcFs)
    (now : Nat)
    (op : WorkspaceOp P G) :
    TracksDirt proc now w op ↔
      KeepsSpec proc w op ∨ (w.revision < u64Max ∧ ¬ w.TitleOnly op) := by
  have hspec : ((w.apply op).toWorkspaceFile proc now).spec.durable =
      (w.toWorkspaceFile proc now).spec.durable ↔ KeepsSpec proc w op := by
    rw [toWorkspaceFile_durable h.keyedById, toWorkspaceFile_durable (h.apply op).keyedById]
    exact apply_durableSpec_iff h.coherent proc op
  have hmax := h.revision_le_max
  have hmax' := (h.apply op).revision_le_max
  constructor
  · intro htracks
    by_cases hkeeps : KeepsSpec proc w op
    · exact Or.inl hkeeps
    · right
      obtain ⟨hlt, _⟩ := htracks (fun hsame => hkeeps (hspec.mp hsame))
      refine ⟨by omega, ?_⟩
      intro htitle
      cases op with
      | returnOutput paneId screen proc' =>
          have hsame := (returnOutput_titleOnly htitle proc).2
          simp only [Workspace.apply] at hlt
          omega
      | _ => exact htitle
  · intro hcond hdiff
    rcases hcond with hkeeps | ⟨hroom, htitle⟩
    · exact absurd (hspec.mpr hkeeps) hdiff
    · have hkeeps : ¬ KeepsSpec proc w op := fun hkeeps => hdiff (hspec.mpr hkeeps)
      have hbump := apply_bump h.coherent hmax hkeeps htitle
      have hlt : w.revision < (w.apply op).revision :=
        Nat.lt_of_lt_of_le (saturatingAdd_lt.mpr hroom) hbump
      refine ⟨hlt, ?_⟩
      have hmark : op ≠ .markPersisted := by
        rintro rfl
        exact hkeeps trivial
      have hper := (apply_bumped w op hmark).persisted
      have hle := h.persistedRevision_le
      simp only [isDirty, decide_eq_true_eq]
      omega

/-- The condition at a pane resize of a workspace with one pane. -/
theorem tracksDirt_iff_resize :
    ∃ w : Workspace SampleParser SampleGrid,
      w.Reachable ∧ TracksDirt ⟨fun _ => none, fun _ => none⟩ 5 w (.resizePane 1 100 30) := by
  have hfresh : (Workspace.new 7 "work" 0 : Workspace SampleParser SampleGrid).IsFresh :=
    ⟨7, "work", 0, .persistent, rfl⟩
  have hreach := hfresh.reachable.apply (.addPane (Pane.new 1 80 24))
  refine ⟨_, hreach, (tracksDirt_iff hreach ⟨fun _ => none, fun _ => none⟩ 5
    (.resizePane 1 100 30)).mpr (Or.inr ⟨by decide, fun h => h⟩)⟩

/-- The phases of one batch that sets the title, on a workspace that was just
written to disk. -/
def titleBatchRun : Workspace SampleParser SampleGrid :=
  ((Workspace.new 7 "work" 0 : Workspace SampleParser SampleGrid).apply
    (.addPane (Pane.new 1 80 24))).apply .markPersisted

/-- The screen that the batch returns: the taken one, parsed. -/
def titleBatchScreen : PaneScreen SampleParser SampleGrid :=
  match (titleBatchRun.takeOutput 1 (bytesOf "\x1b]2;vim\x07")).1 with
  | none => PaneScreen.new defaultMaxScrollback
  | some taken => taken.screen.parse taken.data

/-- **A title change is lost**: the batch that sets the title changes the file,
the revision stays, and the workspace counts as clean. -/
theorem tracksDirt_fails_on_title :
    (titleBatchRun.apply (.takeOutput 1 (bytesOf "\x1b]2;vim\x07"))).Reachable ∧
      ¬ TracksDirt ⟨fun _ => none, fun _ => none⟩ 5
          (titleBatchRun.apply (.takeOutput 1 (bytesOf "\x1b]2;vim\x07")))
          (.returnOutput 1 titleBatchScreen ⟨fun _ => none, fun _ => none⟩) ∧
      ((titleBatchRun.apply (.takeOutput 1 (bytesOf "\x1b]2;vim\x07"))).apply
          (.returnOutput 1 titleBatchScreen ⟨fun _ => none, fun _ => none⟩)).isDirty = false := by
  have hfresh : (Workspace.new 7 "work" 0 : Workspace SampleParser SampleGrid).IsFresh :=
    ⟨7, "work", 0, .persistent, rfl⟩
  refine ⟨((hfresh.reachable.apply _).apply _).apply _, ?_, by decide +kernel⟩
  intro htracks
  have hclean : ((titleBatchRun.apply (.takeOutput 1 (bytesOf "\x1b]2;vim\x07"))).apply
      (.returnOutput 1 titleBatchScreen ⟨fun _ => none, fun _ => none⟩)).isDirty = false := by
    decide +kernel
  have htitle : ∀ s s' : DurableSpec, (s.panes 1).map PaneSpecV2.title ≠
      (s'.panes 1).map PaneSpecV2.title → s ≠ s' := by
    rintro s s' hne rfl
    exact hne rfl
  have hdirty := (htracks (htitle _ _ (by decide +kernel))).2
  rw [hclean] at hdirty
  cases hdirty

end Main

end Workspace

end Server
end Rttx
