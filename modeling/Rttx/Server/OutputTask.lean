import Rttx.Server.Workspace

/-!
# The output task of a pane

The task that reads a pane's PTY handles each batch in phases.  Under the
workspace lock it stores the batch and takes the screen out; without the lock
it parses; under the lock again it returns the screen and records what the
screen reports; then it writes replies to the PTY and sends the batch to the
clients that were attached in the first phase.

**Results.**
* `takeOutput_frame`, `returnOutput_frame`: neither locked phase touches the
  tree, the focus, the clients or the set of panes.
-/

namespace Rttx
namespace Server

open Kernel

universe u v

/-- What the first phase hands on: the screen, the sequence number of the
batch, and its filtered bytes. -/
structure TakenOutput (P : Type u) (G : Type v) where
  screen : PaneScreen P G
  outputSeq : Nat
  data : Bytes
deriving DecidableEq

/-- What the third phase reports, each change with the revision announced. -/
structure OutputReport where
  newCwd : Option (String × Nat)
  newName : Option (String × Nat)
  newTitle : Option (String × Nat)
  pendingReplies : List Bytes
  clipboardWrites : List ClipboardWrite
deriving DecidableEq

def OutputReport.empty : OutputReport :=
  ⟨none, none, none, [], []⟩

namespace Workspace

section Phases

variable {P : Type u} {G : Type v}
variable [VteParser P] [Vt100Parser G]

/-- Phase 1 on the pane: drop stray exits, lift clipboard writes, store the
batch, take the screen. -/
def takePaneOutput (pane : Pane P G) (raw : Bytes) : TakenOutput P G × Pane P G :=
  let data := pane.screen.sanitizeOutput raw
  let (pane, data) := pane.filterClipboardWrites data
  let pane := pane.acceptOutput data
  let seq := pane.outputSeq
  let (screen, pane) := pane.takeScreen
  (⟨screen, seq, data⟩, pane)

/-- Phase 1. -/
def takeOutput (w : Workspace P G) (paneId : Uuid) (raw : Bytes) :
    Option (TakenOutput P G) × Workspace P G :=
  match w.panes.lookup paneId with
  | none => (none, w)
  | some pane =>
      (some (takePaneOutput pane raw).1,
        { w with panes := w.panes.insert paneId (takePaneOutput pane raw).2 })

/-- Announce a reported working directory. -/
def recordCwd (w : Workspace P G) (paneId : Uuid) (newCwd : Option String) :
    Option (String × Nat) × Workspace P G :=
  match newCwd with
  | none => (none, w)
  | some cwd =>
      let (rev, w) := w.setPaneCwd paneId cwd
      (rev.map (fun r => (cwd, r)), w)

/-- Re-derive the name after a working directory change of the naming pane. -/
def recordName (w : Workspace P G) (paneId : Uuid) (cwdChanged : Bool) (proc : ProcFs) :
    Option (String × Nat) × Workspace P G :=
  if cwdChanged && w.paneNamesWorkspace paneId then
    let (name, w) := w.refreshAutoName proc
    (name.map (fun n => (n, w.revision)), w)
  else
    (none, w)

/-- Announce a reported title. -/
def recordTitle (w : Workspace P G) (paneId : Uuid) (newTitle : Option String) :
    Option (String × Nat) × Workspace P G :=
  match newTitle with
  | none => (none, w)
  | some title =>
      let (rev, w) := w.setPaneTitle paneId title
      (rev.map (fun r => (title, r)), w)

/-- Phase 3: return the parsed screen and record what it reports. -/
def returnOutput (w : Workspace P G) (paneId : Uuid) (screen : PaneScreen P G)
    (proc : ProcFs) : OutputReport × Workspace P G :=
  match w.panes.lookup paneId with
  | none => (.empty, w)
  | some pane =>
      let (result, pane) := pane.returnScreen screen
      let w := { w with panes := w.panes.insert paneId pane }
      let (cwd, w) := w.recordCwd paneId result.newCwd
      let (name, w) := w.recordName paneId cwd.isSome proc
      let (title, w) := w.recordTitle paneId result.newTitle
      (⟨cwd, name, title, result.pendingReplies, result.clipboardWrites⟩, w)

end Phases

section Frames

variable {P : Type u} {G : Type v}

/-- The structure of a workspace: everything but names, revisions, times and
the contents of panes. -/
structure SameStructure (w w' : Workspace P G) : Prop where
  tree : w'.tree = w.tree
  focus : w'.activePaneId = w.activePaneId
  keys : ∀ id, id ∈ w'.panes ↔ id ∈ w.panes

theorem SameStructure.refl (w : Workspace P G) : w.SameStructure w :=
  ⟨rfl, rfl, fun _ => Iff.rfl⟩

theorem SameStructure.trans {w₁ w₂ w₃ : Workspace P G}
    (h : w₁.SameStructure w₂)
    (h' : w₂.SameStructure w₃) :
    w₁.SameStructure w₃ :=
  ⟨h'.tree.trans h.tree, h'.focus.trans h.focus, fun id => (h'.keys id).trans (h.keys id)⟩

theorem SameStructure.bumpRevision {w w' : Workspace P G}
    (h : w.SameStructure w') :
    w.SameStructure w'.bumpRevision :=
  ⟨h.tree, h.focus, h.keys⟩

/-- Replacing a pane in place keeps the structure. -/
theorem SameStructure.insert {w : Workspace P G} {paneId : Uuid} {old : Pane P G}
    (h : w.panes.lookup paneId = some old)
    (pane : Pane P G) :
    w.SameStructure { w with panes := w.panes.insert paneId pane } := by
  refine ⟨rfl, rfl, ?_⟩
  intro id
  have hmem : paneId ∈ w.panes := by
    rw [← AList.lookup_isSome, h]
    rfl
  simp only [AList.mem_insert]
  constructor
  · rintro (heq | hin)
    · exact heq ▸ hmem
    · exact hin
  · exact Or.inr

theorem updatePane_frame (w : Workspace P G) (paneId : Uuid) (changed : Pane P G → Bool)
    (update : Pane P G → Pane P G) :
    w.SameStructure (w.updatePane paneId changed update).2 := by
  unfold updatePane
  cases hpane : w.panes.lookup paneId with
  | none => exact SameStructure.refl w
  | some pane =>
      have hmod : w.SameStructure { w with panes := w.panes.modify paneId update } :=
        ⟨rfl, rfl, fun id => HashMap.mem_modify w.panes paneId id update⟩
      by_cases hc : changed pane = true
      · simpa [hc] using hmod.bumpRevision
      · simpa [hc] using hmod

theorem setPaneCwd_frame (w : Workspace P G) (paneId : Uuid) (cwd : String) :
    w.SameStructure (w.setPaneCwd paneId cwd).2 := by
  unfold setPaneCwd
  cases w.panes.lookup paneId with
  | none => exact SameStructure.refl w
  | some pane => exact (SameStructure.refl w).bumpRevision

theorem refreshAutoName_frame (w : Workspace P G) (proc : ProcFs) :
    w.SameStructure (w.refreshAutoName proc).2 := by
  unfold refreshAutoName
  by_cases huser : w.userRenamed = true
  · simpa [huser] using SameStructure.refl w
  · cases hname : w.derivedName proc with
    | none => simpa [huser, hname] using SameStructure.refl w
    | some name =>
        by_cases hsame : name = w.name
        · simpa [huser, hname, hsame] using SameStructure.refl w
        · simpa [huser, hname, hsame] using
            (⟨rfl, rfl, fun _ => Iff.rfl⟩ :
              w.SameStructure ({ w with name := name } : Workspace P G).bumpRevision)

theorem recordCwd_frame (w : Workspace P G) (paneId : Uuid) (newCwd : Option String) :
    w.SameStructure (w.recordCwd paneId newCwd).2 := by
  cases newCwd with
  | none => exact SameStructure.refl w
  | some cwd => exact setPaneCwd_frame w paneId cwd

theorem recordName_frame (w : Workspace P G) (paneId : Uuid) (cwdChanged : Bool)
    (proc : ProcFs) :
    w.SameStructure (w.recordName paneId cwdChanged proc).2 := by
  unfold recordName
  by_cases h : (cwdChanged && w.paneNamesWorkspace paneId) = true
  · rw [if_pos h]
    exact refreshAutoName_frame w proc
  · rw [if_neg h]
    exact SameStructure.refl w

theorem recordTitle_frame (w : Workspace P G) (paneId : Uuid) (newTitle : Option String) :
    w.SameStructure (w.recordTitle paneId newTitle).2 := by
  cases newTitle with
  | none => exact SameStructure.refl w
  | some title => exact updatePane_frame w paneId _ _

theorem returnOutput_frame (w : Workspace P G) (paneId : Uuid) (screen : PaneScreen P G)
    (proc : ProcFs) :
    w.SameStructure (w.returnOutput paneId screen proc).2 := by
  unfold returnOutput
  cases hpane : w.panes.lookup paneId with
  | none => exact SameStructure.refl w
  | some pane =>
      have hput := SameStructure.insert hpane (pane.returnScreen screen).2
      exact ((hput.trans (recordCwd_frame _ _ _)).trans (recordName_frame _ _ _ _)).trans
        (recordTitle_frame _ _ _)

variable [VteParser P] [Vt100Parser G]

theorem takeOutput_frame (w : Workspace P G) (paneId : Uuid) (raw : Bytes) :
    w.SameStructure (w.takeOutput paneId raw).2 := by
  unfold takeOutput
  cases hpane : w.panes.lookup paneId with
  | none => exact SameStructure.refl w
  | some pane => exact SameStructure.insert hpane _

end Frames

end Workspace

end Server
end Rttx
