import Rttx.Client.WindowPanes
import Rttx.Server.SampleTerminal

/-!
# Recovering from lost pushes

A client that lost pushes is sent a snapshot and resynchronises.  It resets
the panes it knows to the snapshot and looks at nothing else in it: a split, a
close or a rename that was among the lost pushes stays lost until it attaches
again.  An attach with the same snapshot adopts the tree and the name too.

**Results.**
* `resync_recovers_panes`: a resynchronisation leaves the state alone, gives
  every pane that the client and the snapshot's tree have in common the view
  that an attach would give it, and agrees with an attach on the layout exactly
  when the client's layout has the shape of the tree.
* `resync_misses_split_and_rename`: a client that lost a split and a rename.
-/

namespace Rttx
namespace Client

open Kernel Server

namespace Window

section Outcomes

/-- The window after a resynchronisation. -/
def resynced (w : Window) (workspaceId runtimeId : String) (snapshot : WorkspaceSnapshot) :
    Window :=
  w.handleEndpointEvent (.workspaceResynced workspaceId runtimeId snapshot)

/-- The window after an attach. -/
def attached (w : Window) (workspaceId runtimeId : String) (snapshot : WorkspaceSnapshot) :
    Window :=
  w.handleEndpointEvent (.workspaceOpened workspaceId runtimeId snapshot)

def layoutShape (w : Window) (workspaceId : String) : Option LayoutShape :=
  (w.state.findWorkspace workspaceId).map (fun session => session.layout.shape)

def workspaceName (w : Window) (workspaceId : String) : Option String :=
  (w.state.findWorkspace workspaceId).map (fun session => session.name)

/-- The title and the working directory that a pane's view has. -/
def titleAndCwd (w : Window) (uuid : String) : Option (Option String × Option String) :=
  (w.persistentTerminals.lookup uuid).map (fun view => (view.title, view.currentDirectory))

/-- The tree's leaf ids, as the client reads the snapshot. -/
def treeUuids (snapshot : WorkspaceSnapshot) : List String :=
  ((renderLayoutFromSnapshot snapshot).map LayoutNode.terminalUuids).getD []

/-- Two windows agree on a workspace. -/
structure Agree (a b : Window) (workspaceId : String) : Prop where
  shape : a.layoutShape workspaceId = b.layoutShape workspaceId
  name : a.workspaceName workspaceId = b.workspaceName workspaceId
  panes : ∀ session uuid, b.state.findWorkspace workspaceId = some session →
    uuid ∈ session.layout.terminalUuids → a.titleAndCwd uuid = b.titleAndCwd uuid

end Outcomes

section Recovery

/-- The restores of one pane do not depend on the layout that contains it. -/
theorem restoresFor_filter {keep keep' : String → Bool} {uuid : String}
    (h : keep uuid = keep' uuid)
    (snapshot : WorkspaceSnapshot) :
    (restoresFor keep snapshot).filter (fun r => r.layoutTerminalUuid = uuid) =
      (restoresFor keep' snapshot).filter (fun r => r.layoutTerminalUuid = uuid) := by
  simp only [restoresFor, List.filter_filterMap]
  refine List.filterMap_congr ?_
  intro pane _
  cases hid : paneIdOfBytes pane.paneId with
  | none => rfl
  | some paneId =>
      by_cases heq : paneId = uuid
      · simp [heq, h]
      · cases hk : keep paneId <;> cases hk' : keep' paneId <;>
          simp [hk, hk', paneRestore, Option.filter, heq]

theorem foldl_restore_state (w : Window) (restores : List WorkspacePaneRestore) :
    (restores.foldl restoreManagedSnapshot w).state = w.state := by
  induction restores generalizing w with
  | nil => rfl
  | cons r rest ih =>
      rw [List.foldl_cons, ih]
      simp only [restoreManagedSnapshot]
      split <;> rfl

/-- Carrying out a transition does not touch the state. -/
theorem applyEndpointEventTransition_state (w : Window) (t : EndpointEventTransition) :
    (w.applyEndpointEventTransition t).state = w.state := by
  have hrebuild : ∀ (rebuilt : List (String × WorkspaceState)) (w : Window),
      (rebuilt.foldl (fun w rebuild => w.rebuildSessionContent rebuild.2) w).state =
        w.state := by
    intro rebuilt
    induction rebuilt with
    | nil => exact fun _ => rfl
    | cons rebuild rest ih => exact fun w => ih (w.rebuildSessionContent rebuild.2)
  simp only [applyEndpointEventTransition, foldl_restore_state, hrebuild]

variable {w : Window} {workspaceId uuid : String} {session : WorkspaceState}

theorem lookup_resynced
    (hsession : w.state.findWorkspace workspaceId = some session)
    (runtimeId : String)
    (snapshot : WorkspaceSnapshot) :
    (w.resynced workspaceId runtimeId snapshot).persistentTerminals.lookup uuid =
      (w.persistentTerminals.lookup uuid).map fun view =>
        ((restoresFor (fun id => session.layout.containsTerminal id) snapshot).filter
          (fun r => r.layoutTerminalUuid = uuid)).foldl PersistentPaneView.restore view := by
  simp only [resynced, handleEndpointEvent, WindowState.reconcileEndpointEvent,
    applyEndpointEventTransition, lookup_restoreAll, WindowState.buildResyncRestores, hsession]
  rfl

/-- An attach restores the views of the tree's panes in place. -/
theorem lookup_attached
    (hsession : w.state.findWorkspace workspaceId = some session)
    (runtimeId : String)
    {snapshot : WorkspaceSnapshot}
    {layout : LayoutNode}
    (hlayout : renderLayoutFromSnapshot snapshot = some layout)
    (huuid : uuid ∈ layout.terminalUuids)
    (hview : (w.persistentTerminals.lookup uuid).isSome = true) :
    (w.attached workspaceId runtimeId snapshot).persistentTerminals.lookup uuid =
      (w.persistentTerminals.lookup uuid).map fun view =>
        ((restoresFor (fun id => layout.terminalUuids.contains id) snapshot).filter
          (fun r => r.layoutTerminalUuid = uuid)).foldl PersistentPaneView.restore view := by
  obtain ⟨_, _, hshape, hrestores⟩ := openManagedWorkspace_spec session runtimeId snapshot
  rw [hlayout, Option.getD_some] at hshape
  rw [hlayout, Option.map_some, Option.getD_some] at hrestores
  have hadopted : uuid ∈
      (openManagedWorkspace session runtimeId snapshot).sessionState.layout.terminalUuids := by
    rw [LayoutNode.terminalUuids_of_shape hshape]
    exact huuid
  have hlive := mem_liveUuids (findWorkspace_opened hsession runtimeId snapshot) hadopted
  have htransition := reconcile_opened hsession runtimeId snapshot
  simp only [attached, handleEndpointEvent, applyEndpointEventTransition, lookup_restoreAll,
    htransition, List.foldl_cons, List.foldl_nil, hrestores]
  -- The pane is not among the removed ones, and rebuilding keeps its view.
  have hkept : (w.persistentTerminals.eraseAll
      ((openManagedWorkspace session runtimeId snapshot).previousLayoutTerminals.filter
        (fun id => !(openManagedWorkspace session runtimeId
          snapshot).sessionState.layout.terminalUuids.contains id))).lookup uuid =
      w.persistentTerminals.lookup uuid := by
    rw [HashMap.lookup_eraseAll, if_neg]
    simp [hadopted]
  rw [lookup_rebuildSessionContent _ _ hlive (by rw [hkept]; exact hview), hkept]

/-- What a resynchronisation recovers of a workspace, compared with an attach. -/
structure Recovers (w : Window) (workspaceId runtimeId : String) (snapshot : WorkspaceSnapshot)
    (session : WorkspaceState) : Prop where
  state : (w.resynced workspaceId runtimeId snapshot).state = w.state
  shape :
    (w.resynced workspaceId runtimeId snapshot).layoutShape workspaceId =
        (w.attached workspaceId runtimeId snapshot).layoutShape workspaceId ↔
      session.layout.shape = ((renderLayoutFromSnapshot snapshot).getD session.layout).shape
  name :
    (w.resynced workspaceId runtimeId snapshot).workspaceName workspaceId =
        (w.attached workspaceId runtimeId snapshot).workspaceName workspaceId ↔
      session.name = adoptedName session snapshot
  panes : ∀ uuid ∈ session.layout.terminalUuids, uuid ∈ treeUuids snapshot →
    (w.persistentTerminals.lookup uuid).isSome = true →
    (w.resynced workspaceId runtimeId snapshot).persistentTerminals.lookup uuid =
      (w.attached workspaceId runtimeId snapshot).persistentTerminals.lookup uuid

/-- **A resynchronisation recovers the panes**, and nothing of the structure. -/
theorem resync_recovers_panes
    (hsession : w.state.findWorkspace workspaceId = some session)
    (runtimeId : String)
    (snapshot : WorkspaceSnapshot) :
    w.Recovers workspaceId runtimeId snapshot session := by
  have hstate : (w.resynced workspaceId runtimeId snapshot).state = w.state :=
    applyEndpointEventTransition_state _ _
  have hattached : (w.attached workspaceId runtimeId snapshot).state.findWorkspace workspaceId =
      some (openManagedWorkspace session runtimeId snapshot).sessionState := by
    rw [attached, handleEndpointEvent, applyEndpointEventTransition_state]
    exact findWorkspace_opened hsession runtimeId snapshot
  obtain ⟨_, hname, hshape, _⟩ := openManagedWorkspace_spec session runtimeId snapshot
  refine ⟨hstate, ?_, ?_, ?_⟩
  · simp only [layoutShape, hstate, hsession, hattached, Option.map_some, Option.some.injEq,
      hshape]
  · simp only [workspaceName, hstate, hsession, hattached, Option.map_some, Option.some.injEq,
      hname]
  · intro uuid huuid htree hview
    cases hlayout : renderLayoutFromSnapshot snapshot with
    | none => simp [treeUuids, hlayout] at htree
    | some layout =>
        rw [treeUuids, hlayout, Option.map_some, Option.getD_some] at htree
        rw [lookup_resynced hsession, lookup_attached hsession runtimeId hlayout htree hview,
          restoresFor_filter]
        rw [LayoutNode.containsTerminal_iff.mpr huuid]
        simp [htree]

end Recovery

section Runs

/-- A process table that answers nothing. -/
def silentProc : ProcFs :=
  ⟨fun _ => none, fun _ => none⟩

/-- The daemon's workspace with one pane. -/
def daemonBefore : Workspace SampleParser SampleGrid :=
  (Workspace.new 7 "work" 0).addPane (Pane.new 1 80 24)

/-- After a split, a rename and a new title. -/
def daemonAfter : Workspace SampleParser SampleGrid :=
  let w := (daemonBefore.splitPane 1 (Pane.new 2 40 24) .horizontal F32.half).2
  let w := (w.rename "deploy").2
  (w.setPaneTitle 1 "vim").2

def snapshotOf (w : Workspace SampleParser SampleGrid) : WorkspaceSnapshot :=
  (w.buildV3WorkspaceSnapshot .writer silentProc).1

/-- A window whose only workspace waits for its first attach. -/
def placeholder : Window where
  state :=
    { workspaces :=
        [{ uuid := "w"
           name := "Workspace 1"
           layout := .terminal "t" none none none
           activeTerminalUuid := some "t"
           runtime := ⟨true, .localHost, none⟩
           zoomedTerminalUuid := none
           userRenamed := false }]
      paneReverseIndex := ∅ }
  persistentTerminals := ∅
  requests := []

/-- The client before it lost any push. -/
def staleClient : Window :=
  placeholder.attached "w" (uuidToString 7) (snapshotOf daemonBefore)

theorem staleClient_session : (staleClient.state.findWorkspace "w").isSome = true := by
  decide +kernel

/-- The theorem after the daemon split the pane and renamed the workspace. -/
theorem resync_recovers_panes_staleClient :
    (staleClient.resynced "w" (uuidToString 7) (snapshotOf daemonAfter)).titleAndCwd
        (uuidToString 1) = some (some "vim", some "") ∧
      staleClient.Recovers "w" (uuidToString 7) (snapshotOf daemonAfter)
        ((staleClient.state.findWorkspace "w").get staleClient_session) :=
  ⟨by decide +kernel, resync_recovers_panes (Option.some_get _).symm _ _⟩

/-- **A lost split and a lost rename stay lost**: after the resynchronisation the
layout and the name are not those that an attach with the same snapshot gives. -/
theorem resync_misses_split_and_rename :
    ¬ Agree (staleClient.resynced "w" (uuidToString 7) (snapshotOf daemonAfter))
        (staleClient.attached "w" (uuidToString 7) (snapshotOf daemonAfter)) "w" ∧
      (staleClient.resynced "w" (uuidToString 7) (snapshotOf daemonAfter)).layoutShape "w" =
        some (.terminal (uuidToString 1)) ∧
      (staleClient.attached "w" (uuidToString 7) (snapshotOf daemonAfter)).layoutShape "w" =
        some (.split .horizontal (.terminal (uuidToString 1)) (.terminal (uuidToString 2))) ∧
      (staleClient.resynced "w" (uuidToString 7) (snapshotOf daemonAfter)).workspaceName "w" =
        some "work" ∧
      (staleClient.attached "w" (uuidToString 7) (snapshotOf daemonAfter)).workspaceName "w" =
        some "deploy" := by
  have hnames : (staleClient.resynced "w" (uuidToString 7) (snapshotOf daemonAfter)).workspaceName
        "w" = some "work" ∧
      (staleClient.attached "w" (uuidToString 7) (snapshotOf daemonAfter)).workspaceName "w" =
        some "deploy" := by
    decide +kernel
  refine ⟨?_, by decide +kernel, by decide +kernel, hnames⟩
  intro hagree
  have hname := hagree.name
  rw [hnames.1, hnames.2] at hname
  simp at hname

end Runs

end Window

end Client
end Rttx
