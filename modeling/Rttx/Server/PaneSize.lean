import Rttx.Server.PaneLookup
import Rttx.Server.PaneStructure
import Rttx.Server.SampleTerminal

/-!
# Pane sizes and grid sizes

A pane records its size, and the cell grid of its screen has one; the daemon
keeps them equal by resizing the grid whenever the recorded size changes.
While an output task parses a batch it holds the real screen, and the pane
holds a placeholder: a resize that lands then resizes the placeholder, the
task returns a screen of the old size, and a later resize to the recorded size
is skipped as unchanged.

The invariant speaks about the real screen of a pane, wherever it is.

**Results.**
* `grid_follows_pane`: in runs where no pane is resized to another size while
  its screen is out, the grid of a returned screen has the pane's size.
* `resize_lost_while_taken`: a run in which the grid keeps the old size.
-/

namespace Rttx
namespace Server

open Kernel

universe u v

/-- A workspace with the batches its output tasks hold, by pane. -/
structure PaneSizeState (P : Type u) (G : Type v) where
  workspace : Workspace P G
  taken : HashMap Uuid (TakenOutput P G)

/-- What may happen to the panes of a workspace.  A pane is created under a
fresh id; each pane has one output task. -/
inductive PaneSizeStep (P : Type u) (G : Type v)
  | createPane (paneId : Uuid) (cols rows : Nat)
  | splitPane (target paneId : Uuid) (cols rows : Nat) (axis : SplitAxis) (ratio : F32)
  | removePane (paneId : Uuid)
  | resizePane (paneId : Uuid) (cols rows : Nat)
  | takeScreen (paneId : Uuid) (raw : Bytes)
  | parse (paneId : Uuid)
  | returnScreen (paneId : Uuid) (proc : ProcFs)

namespace PaneSizeState

section Steps

variable {P : Type u} {G : Type v}

/-- The real screen of a pane: the one its output task holds, if any. -/
def realScreen (s : PaneSizeState P G) (paneId : Uuid) (pane : Pane P G) : PaneScreen P G :=
  match s.taken.lookup paneId with
  | some t => t.screen
  | none => pane.screen

def idIsFresh (s : PaneSizeState P G) (paneId : Uuid) : Bool :=
  (s.workspace.panes.lookup paneId).isNone && (s.taken.lookup paneId).isNone

variable [VteParser P] [Vt100Parser G]

/-- One step. -/
def next (s : PaneSizeState P G) : PaneSizeStep P G → Option (PaneSizeState P G)
  | .createPane paneId cols rows =>
      if s.idIsFresh paneId then
        some { s with workspace := s.workspace.addPane (Pane.new paneId cols rows) }
      else
        none
  | .splitPane target paneId cols rows axis ratio =>
      if s.idIsFresh paneId then
        some { s with workspace :=
          (s.workspace.splitPane target (Pane.new paneId cols rows) axis ratio).2 }
      else
        none
  | .removePane paneId => some { s with workspace := (s.workspace.removePane paneId).2 }
  | .resizePane paneId cols rows =>
      some { s with workspace := (s.workspace.resizePane paneId cols rows).2 }
  | .takeScreen paneId raw =>
      match s.taken.lookup paneId, s.workspace.takeOutput paneId raw with
      | none, (some t, w) => some ⟨w, s.taken.insert paneId t⟩
      | _, _ => none
  | .parse paneId =>
      match s.taken.lookup paneId with
      | some t =>
          some { s with taken :=
            s.taken.insert paneId { t with screen := t.screen.parse t.data } }
      | none => none
  | .returnScreen paneId proc =>
      match s.taken.lookup paneId with
      | some t => some ⟨(s.workspace.returnOutput paneId t.screen proc).2, s.taken.erase paneId⟩
      | none => none

variable (P G) in
/-- A fresh workspace without output tasks. -/
def system : System (PaneSizeState P G) (PaneSizeStep P G) where
  init := fun s => s.workspace.IsFresh ∧ s.taken = ∅
  next := next

omit [VteParser P] [Vt100Parser G] in
/-- The step does not resize a pane to another size while its screen is out. -/
def sizeSettled (s : PaneSizeState P G) : PaneSizeStep P G → Bool
  | .resizePane paneId cols rows =>
      match s.taken.lookup paneId, s.workspace.panes.lookup paneId with
      | some _, some pane => (max cols 1, max rows 1) = (max pane.cols 1, max pane.rows 1)
      | _, _ => true
  | _ => true

omit [VteParser P] in
/-- Where the screen is not taken, the grid has the pane's size. -/
def GridFollowsPane (s : PaneSizeState P G) : Prop :=
  ∀ id pane, s.workspace.panes.lookup id = some pane → s.taken.lookup id = none →
    pane.screen.gridSize = (max pane.cols 1, max pane.rows 1)

omit [VteParser P] in
/-- The grid of every pane's real screen has the pane's size. -/
def Inv (s : PaneSizeState P G) : Prop :=
  ∀ id pane, s.workspace.panes.lookup id = some pane →
    (s.realScreen id pane).gridSize = (max pane.cols 1, max pane.rows 1)

end Steps

section Preservation

variable {P : Type u} {G : Type v}
variable [VteParser P] [Vt100Parser G]

omit [VteParser P] in
theorem Inv.gridFollowsPane {s : PaneSizeState P G} (h : s.Inv) : s.GridFollowsPane := by
  intro id pane hpane htaken
  have hreal := h id pane hpane
  simp only [realScreen, htaken] at hreal
  exact hreal

/-- A pane under a fresh id that is new at the given size. -/
theorem Inv.insertNew [LawfulGrid G] {s : PaneSizeState P G} {w : Workspace P G}
    {paneId : Uuid} {cols rows : Nat}
    (h : s.Inv)
    (hfresh : s.idIsFresh paneId = true)
    (hpanes : w.panes = s.workspace.panes.insert paneId (Pane.new paneId cols rows)) :
    ({ s with workspace := w } : PaneSizeState P G).Inv := by
  simp only [idIsFresh, Bool.and_eq_true, Option.isNone_iff_eq_none] at hfresh
  intro id pane hpane
  rw [hpanes] at hpane
  rcases HashMap.lookup_insert_cases hpane with ⟨rfl, rfl⟩ | ⟨_, hpane⟩
  · simp [realScreen, hfresh.2, Pane.new]
  · exact h id pane hpane

theorem Inv.resizePane [LawfulGrid G] {s : PaneSizeState P G}
    {paneId : Uuid} {cols rows : Nat}
    (h : s.Inv)
    (hsettled : s.sizeSettled (.resizePane paneId cols rows) = true) :
    ({ s with workspace := (s.workspace.resizePane paneId cols rows).2 } :
      PaneSizeState P G).Inv := by
  intro id pane hpane
  simp only [Workspace.resizePane, Workspace.lookup_updatePane] at hpane
  by_cases hid : id = paneId
  · rw [if_pos hid] at hpane
    obtain ⟨old, hold, hnew⟩ := Option.map_eq_some_iff.mp hpane
    have hreal := h paneId old hold
    subst hid
    cases htaken : s.taken.lookup id with
    | some t =>
        -- The task's screen stays as it is; the guard says the size does too.
        simp only [sizeSettled, htaken, hold, decide_eq_true_eq] at hsettled
        simp only [realScreen, htaken] at hreal ⊢
        rw [hreal, ← hnew, hsettled]
    | none =>
        simp only [realScreen, htaken] at hreal ⊢
        subst hnew
        by_cases hchanged : old.cols ≠ cols ∨ old.rows ≠ rows
        · simp [hchanged]
        · have hsame : old.cols = cols ∧ old.rows = rows := by
            constructor
            · by_contra hne
              exact hchanged (Or.inl hne)
            · by_contra hne
              exact hchanged (Or.inr hne)
          simp [hsame.1, hsame.2, hreal]
  · rw [if_neg hid] at hpane
    exact h id pane hpane

theorem Inv.takeScreen {s : PaneSizeState P G} {paneId : Uuid} {pane : Pane P G}
    (h : s.Inv)
    (htaken : s.taken.lookup paneId = none)
    (hpane : s.workspace.panes.lookup paneId = some pane)
    (raw : Bytes) :
    (⟨(s.workspace.takeOutput paneId raw).2,
      s.taken.insert paneId (Workspace.takePaneOutput pane raw).1⟩ : PaneSizeState P G).Inv := by
  intro id p hp
  rw [Workspace.lookup_takeOutput] at hp
  simp only [realScreen, HashMap.lookup_insert_eq]
  by_cases hid : id = paneId
  · rw [if_pos hid, hpane, Option.map_some, Option.some.injEq] at hp
    have hreal := h paneId pane hpane
    simp only [realScreen, htaken] at hreal
    rw [if_pos hid, ← hp]
    exact hreal
  · rw [if_neg hid] at hp
    rw [if_neg hid]
    exact h id p hp

theorem Inv.parse [LawfulGrid G] {s : PaneSizeState P G} {paneId : Uuid} {t : TakenOutput P G}
    (h : s.Inv)
    (htaken : s.taken.lookup paneId = some t) :
    ({ s with taken := s.taken.insert paneId { t with screen := t.screen.parse t.data } } :
      PaneSizeState P G).Inv := by
  intro id p hp
  have hreal := h id p hp
  simp only [realScreen, HashMap.lookup_insert_eq] at hreal ⊢
  by_cases hid : id = paneId
  · subst hid
    rw [htaken] at hreal
    rw [if_pos rfl]
    simpa using hreal
  · rw [if_neg hid]
    exact hreal

omit [VteParser P] in
theorem Inv.returnScreen {s : PaneSizeState P G} {paneId : Uuid} {t : TakenOutput P G}
    (h : s.Inv)
    (htaken : s.taken.lookup paneId = some t)
    (proc : ProcFs) :
    (⟨(s.workspace.returnOutput paneId t.screen proc).2, s.taken.erase paneId⟩ :
      PaneSizeState P G).Inv := by
  intro id p hp
  rw [Workspace.lookup_returnOutput] at hp
  simp only [realScreen, HashMap.lookup_erase_eq]
  by_cases hid : id = paneId
  · rw [if_pos hid] at hp
    obtain ⟨old, hold, rfl⟩ := Option.map_eq_some_iff.mp hp
    have hreal := h paneId old hold
    simp only [realScreen, htaken] at hreal
    rw [if_pos hid]
    exact hreal
  · rw [if_neg hid] at hp
    rw [if_neg hid]
    exact h id p hp

/-- **Step lemma.** A step that resizes no taken screen keeps the invariant. -/
theorem Inv.next [LawfulGrid G] {s s' : PaneSizeState P G} {a : PaneSizeStep P G}
    (h : s.Inv)
    (hsettled : s.sizeSettled a = true)
    (hnext : s.next a = some s') :
    s'.Inv := by
  cases a with
  | createPane paneId cols rows =>
      simp only [PaneSizeState.next, Option.ite_none_right_eq_some, Option.some.injEq] at hnext
      obtain ⟨hfresh, rfl⟩ := hnext
      exact h.insertNew hfresh (Workspace.addPane_panes _ _)
  | splitPane target paneId cols rows axis ratio =>
      simp only [PaneSizeState.next, Option.ite_none_right_eq_some, Option.some.injEq] at hnext
      obtain ⟨hfresh, rfl⟩ := hnext
      rcases Workspace.splitPane_cases s.workspace target (Pane.new paneId cols rows) axis ratio
        with hres | ⟨_, _, _, _, hres⟩
      · rw [hres]
        exact h
      · exact h.insertNew hfresh (by rw [hres]; rfl)
  | removePane paneId =>
      simp only [PaneSizeState.next, Option.some.injEq] at hnext
      subst hnext
      intro id pane hpane
      rw [Workspace.lookup_removePane] at hpane
      by_cases hid : id = paneId
      · simp [hid] at hpane
      · rw [if_neg hid] at hpane
        exact h id pane hpane
  | resizePane paneId cols rows =>
      simp only [PaneSizeState.next, Option.some.injEq] at hnext
      subst hnext
      exact h.resizePane hsettled
  | takeScreen paneId raw =>
      simp only [PaneSizeState.next] at hnext
      cases htaken : s.taken.lookup paneId with
      | some t => simp [htaken] at hnext
      | none =>
          cases hpane : s.workspace.panes.lookup paneId with
          | none => simp [htaken, Workspace.takeOutput, hpane] at hnext
          | some pane =>
              simp only [htaken, Workspace.takeOutput, hpane, Option.some.injEq] at hnext
              have hkeep := h.takeScreen htaken hpane raw
              simp only [Workspace.takeOutput, hpane, hnext] at hkeep
              exact hkeep
  | parse paneId =>
      simp only [PaneSizeState.next] at hnext
      cases htaken : s.taken.lookup paneId with
      | none => simp [htaken] at hnext
      | some t =>
          simp only [htaken, Option.some.injEq] at hnext
          subst hnext
          exact h.parse htaken
  | returnScreen paneId proc =>
      simp only [PaneSizeState.next] at hnext
      cases htaken : s.taken.lookup paneId with
      | none => simp [htaken] at hnext
      | some t =>
          simp only [htaken, Option.some.injEq] at hnext
          subst hnext
          exact h.returnScreen htaken proc

/-- **Pane size and grid agree** in every state of a run that resizes no pane
while its screen is out. -/
theorem grid_follows_pane [LawfulGrid G] {s : PaneSizeState P G}
    (h : (system P G).ReachableUnder (fun s a => s.sizeSettled a = true) s) :
    s.GridFollowsPane := by
  refine (h.invariant (I := Inv) ?_ ?_).gridFollowsPane
  · rintro s ⟨⟨id, name, now, policy, hw⟩, _⟩ k pane hpane
    rw [hw] at hpane
    simp [Workspace.new] at hpane
  · intro s a s' hI hok hnext
    exact hI.next hok hnext

end Preservation

section Runs

/-- The fresh workspace that the runs below start from. -/
def freshSample : PaneSizeState SampleParser SampleGrid :=
  ⟨Workspace.new 7 "work" 0, ∅⟩

theorem freshSample_init : (system SampleParser SampleGrid).init freshSample :=
  ⟨⟨7, "work", 0, WorkspacePolicy.persistent, rfl⟩, rfl⟩

/-- Two batches with a resize between them. -/
def settledRun : List (PaneSizeStep SampleParser SampleGrid) :=
  [.createPane 1 80 24, .takeScreen 1 (bytesOf "ls"), .parse 1,
    .returnScreen 1 ⟨fun _ => none, fun _ => none⟩, .resizePane 1 100 30,
    .takeScreen 1 (bytesOf "cd"), .parse 1, .returnScreen 1 ⟨fun _ => none, fun _ => none⟩]

/-- The theorem after both batches, where the pane is 100 columns wide. -/
theorem grid_follows_pane_settledRun :
    ∃ s : PaneSizeState SampleParser SampleGrid,
      (s.workspace.panes.lookup 1).map (fun p => (p.cols, p.rows)) = some (100, 30) ∧
        s.GridFollowsPane := by
  obtain ⟨s, hreach, hsize⟩ := System.exists_reachableUnder
    (S := system SampleParser SampleGrid) sizeSettled settledRun
    (p := fun s => (s.workspace.panes.lookup 1).map (fun p => (p.cols, p.rows)) = some (100, 30))
    freshSample_init (by decide +kernel)
  exact ⟨s, hsize, grid_follows_pane hreach⟩

/-- A resize while the screen is out, and the same resize again afterwards. -/
def unsettledRun : List (PaneSizeStep SampleParser SampleGrid) :=
  [.createPane 1 80 24, .takeScreen 1 (bytesOf "ls"), .resizePane 1 100 30, .parse 1,
    .returnScreen 1 ⟨fun _ => none, fun _ => none⟩, .resizePane 1 100 30]

theorem unsettledRun_runs :
    ((system SampleParser SampleGrid).exec freshSample unsettledRun).isSome = true := by
  decide +kernel

/-- The state after the unsettled run. -/
def unsettledEnd : PaneSizeState SampleParser SampleGrid :=
  ((system SampleParser SampleGrid).exec freshSample unsettledRun).get unsettledRun_runs

/-- **A resize is lost**: the pane records 100 by 30, the grid of its returned
screen is 80 by 24, and asking for 100 by 30 again does not help. -/
theorem resize_lost_while_taken :
    ∃ s : PaneSizeState SampleParser SampleGrid,
      (system SampleParser SampleGrid).Reachable s ∧ ¬ s.GridFollowsPane := by
  refine ⟨unsettledEnd, System.reachable_get freshSample_init unsettledRun_runs, ?_⟩
  intro hfollows
  have hview : (unsettledEnd.workspace.panes.lookup 1).map
      (fun p => (p.screen.gridSize, max p.cols 1, max p.rows 1)) = some ((80, 24), 100, 30) := by
    decide +kernel
  have htaken : unsettledEnd.taken.lookup 1 = none := by
    decide +kernel
  obtain ⟨pane, hpane, hstate⟩ := Option.map_eq_some_iff.mp hview
  have hgrid := hfollows 1 pane hpane htaken
  simp only [Prod.mk.injEq] at hstate
  rw [hstate.1, hstate.2.1, hstate.2.2] at hgrid
  exact absurd hgrid (by decide)

end Runs

end PaneSizeState

end Server
end Rttx
