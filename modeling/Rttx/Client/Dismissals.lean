import Mathlib.Data.Finset.Insert
import Mathlib.Data.Finset.Filter
import Rttx.Client.WorkspaceState
import Rttx.Kernel.TransitionSystem

/-!
# Dismissed runtimes

A workspace that the user closes leaves the client's state, and the id of its
runtime goes into a set of dismissed ids, so that the daemon's inventory, which
lists the runtime until it is gone, does not bring the workspace back.  Every
inventory prunes the set to the ids that it lists, before the runtimes that the
client does not know are recovered.

The set is one for all endpoints, and an inventory lists the runtimes of one.

**Results.**
* `dismissals_hold_iff`: after runs whose inventories list the runtimes dismissed
  at other endpoints, the next inventory keeps every dismissal in force if and
  only if it does so too.
* `dismissed_runtime_returns`: two endpoints, and a closed workspace that is
  recovered while its daemon lists it.
-/

namespace Rttx
namespace Client

open Kernel Server

section Inventory

/-- What an inventory says of a pane. -/
structure PaneInfo where
  id : Bytes
  title : String
  cwd : String
deriving DecidableEq, Repr

/-- What an inventory says of a runtime. -/
structure WorkspaceInfo where
  id : Bytes
  name : String
  userRenamed : Bool
  panes : List PaneInfo
deriving DecidableEq, Repr

def inventoryPaneId (pane : PaneInfo) : Option String :=
  (bytesToUuid pane.id).map uuidToString

/-- The text of a field that is empty when it is absent. -/
def nonEmpty (text : String) : Option String :=
  if text = "" then none else some text

/-- A leaf for a pane; `minted` is the id it gets if the pane has none. -/
def layoutTerminalFromInventory (pane : PaneInfo) (minted : String) : LayoutNode :=
  .terminal ((inventoryPaneId pane).getD minted) none (nonEmpty pane.cwd) (nonEmpty pane.title)

/-- One half. -/
def halfRatio : F64 := ⟨0x3FE0000000000000#64⟩

/-- The panes side by side, in the order of the inventory; `mint` supplies ids. -/
def layoutFromInventoryPanes (mint : Nat → String) : List PaneInfo → LayoutNode
  | [] => .terminal (mint 0) none none none
  | first :: rest =>
      (rest.foldl
        (fun (layout, index) pane =>
          (LayoutNode.split .horizontal halfRatio layout
            (layoutTerminalFromInventory pane (mint index)), index + 1))
        (layoutTerminalFromInventory first (mint 0), 1)).1

def inventoryWorkspaceId (endpoint : RuntimeEndpoint) (runtimeId : String) : String :=
  "inventory:" ++ endpoint.key ++ ":" ++ runtimeId

/-- The workspace of a listed runtime; none if its id is malformed. -/
def recoveredManagedWorkspace (endpoint : RuntimeEndpoint) (info : WorkspaceInfo)
    (mint : Nat → String) : Option WorkspaceState :=
  (bytesToUuid info.id).map fun id =>
    let layout := layoutFromInventoryPanes mint info.panes
    { uuid := inventoryWorkspaceId endpoint (uuidToString id)
      name := info.name
      layout := layout
      activeTerminalUuid := layout.terminalUuids.head?
      runtime := ⟨true, endpoint, some (uuidToString id)⟩
      zoomedTerminalUuid := none
      userRenamed := info.userRenamed }

/-- The ids of an inventory, malformed ones left out. -/
def inventoryIds (workspaces : List WorkspaceInfo) : List String :=
  workspaces.filterMap (fun info => (bytesToUuid info.id).map uuidToString)

end Inventory

/-- The window state with the runtimes that the user closed. -/
structure DismissingWindow extends WindowState where
  dismissedRuntimeIds : Finset String

namespace DismissingWindow

section Operations

/-- The runtime that a workspace is backed by. -/
def managedRuntime (session : WorkspaceState) : Option (RuntimeEndpoint × String) :=
  if session.usesManagedRuntime then
    session.runtime.runtimeId.map (fun runtimeId => (session.runtime.endpoint, runtimeId))
  else
    none

/-- Close a workspace and dismiss its runtime.  (The source dismisses only when
there is a connection manager; without one there are no inventories.) -/
def closeSession (s : DismissingWindow) (sessionUuid : String) : DismissingWindow :=
  match s.findWorkspace sessionUuid with
  | none => s
  | some session =>
      let window := { s.toWindowState with
        workspaces := s.workspaces.eraseP (fun w => w.uuid == sessionUuid) }
      { window.rebuildPaneReverseIndex with
        dismissedRuntimeIds :=
          match managedRuntime session with
          | some (_, runtimeId) => insert runtimeId s.dismissedRuntimeIds
          | none => s.dismissedRuntimeIds }

/-- The runtimes the client knows at an endpoint. -/
def knownRuntimeIds (s : DismissingWindow) (endpoint : RuntimeEndpoint) : List String :=
  (s.workspaces.filter
    (fun session => session.usesManagedRuntime && session.runtime.endpoint == endpoint)).filterMap
      (fun session => session.runtime.runtimeId)

/-- The workspaces to recover: those of listed runtimes that are neither
dismissed nor known; `mint` supplies the ids of one workspace after another. -/
def recoverFrom (endpoint : RuntimeEndpoint) (dismissed : Finset String) :
    (known : List String) → (mint : Nat → Nat → String) → List WorkspaceInfo →
      List WorkspaceState
  | _, _, [] => []
  | known, mint, info :: rest =>
      let more := fun known => recoverFrom endpoint dismissed known (fun n => mint (n + 1)) rest
      match recoveredManagedWorkspace endpoint info (mint 0) with
      | none => more known
      | some session =>
          match session.runtime.runtimeId with
          | none => more known
          | some runtimeId =>
              if runtimeId ∈ dismissed then
                more known
              else if runtimeId ∈ known then
                more known
              else
                session :: more (runtimeId :: known)

/-- Recover the runtimes of an inventory that the client does not have. -/
def recoverManagedWorkspacesFromInventory (s : DismissingWindow) (endpoint : RuntimeEndpoint)
    (workspaces : List WorkspaceInfo) (mint : Nat → Nat → String) :
    List WorkspaceState × DismissingWindow :=
  let recovered :=
    recoverFrom endpoint s.dismissedRuntimeIds (s.knownRuntimeIds endpoint) mint workspaces
  let window := { s.toWindowState with workspaces := s.workspaces ++ recovered }
  (recovered,
    { (if recovered = [] then window else window.rebuildPaneReverseIndex) with
      dismissedRuntimeIds := s.dismissedRuntimeIds })

/-- An inventory arrives: prune the dismissals, then recover. -/
def inventoryLoaded (s : DismissingWindow) (endpoint : RuntimeEndpoint)
    (workspaces : List WorkspaceInfo) (mint : Nat → Nat → String) :
    List WorkspaceState × DismissingWindow :=
  recoverManagedWorkspacesFromInventory
    { s with dismissedRuntimeIds :=
        s.dismissedRuntimeIds.filter (fun id => id ∈ inventoryIds workspaces) }
    endpoint workspaces mint

end Operations

section Lemmas

variable (s : DismissingWindow)

theorem closeSession_dismissed (sessionUuid : String) :
    (s.closeSession sessionUuid).dismissedRuntimeIds =
      match (s.findWorkspace sessionUuid).bind managedRuntime with
      | some (_, runtimeId) => insert runtimeId s.dismissedRuntimeIds
      | none => s.dismissedRuntimeIds := by
  unfold closeSession
  cases s.findWorkspace sessionUuid with
  | none => rfl
  | some session => rfl

/-- An inventory prunes the dismissals to what it lists. -/
theorem mem_inventoryLoaded_dismissed {endpoint : RuntimeEndpoint}
    {workspaces : List WorkspaceInfo} {mint : Nat → Nat → String} {id : String} :
    id ∈ (s.inventoryLoaded endpoint workspaces mint).2.dismissedRuntimeIds ↔
      id ∈ s.dismissedRuntimeIds ∧ id ∈ inventoryIds workspaces := by
  simp only [inventoryLoaded, recoverManagedWorkspacesFromInventory, Finset.mem_filter]

theorem recoverFrom_not_dismissed {endpoint : RuntimeEndpoint} {dismissed : Finset String}
    {known : List String} {mint : Nat → Nat → String} {workspaces : List WorkspaceInfo}
    {session : WorkspaceState}
    (h : session ∈ recoverFrom endpoint dismissed known mint workspaces)
    {id : String}
    (hid : session.runtime.runtimeId = some id) :
    id ∉ dismissed := by
  induction workspaces generalizing known mint with
  | nil => cases h
  | cons info rest ih =>
      simp only [recoverFrom] at h
      split at h
      · exact ih h
      · split at h
        · exact ih h
        · rename_i runtimeId hruntime
          split at h
          · exact ih h
          · rename_i hdismissed
            split at h
            · exact ih h
            · rcases List.mem_cons.mp h with rfl | h
              · rw [hruntime, Option.some.injEq] at hid
                exact hid ▸ hdismissed
              · exact ih h

/-- What is dismissed and listed is not recovered. -/
theorem inventoryLoaded_not_recovered {endpoint : RuntimeEndpoint}
    {workspaces : List WorkspaceInfo} {mint : Nat → Nat → String} {id : String}
    (hdismissed : id ∈ s.dismissedRuntimeIds)
    (hlisted : id ∈ inventoryIds workspaces)
    {session : WorkspaceState}
    (hsession : session ∈ (s.inventoryLoaded endpoint workspaces mint).1) :
    session.runtime.runtimeId ≠ some id := by
  intro hid
  have hnot := recoverFrom_not_dismissed hsession hid
  exact hnot (Finset.mem_filter.mpr ⟨hdismissed, hlisted⟩)

end Lemmas

end DismissingWindow

section Runs

/-- A window, and the dismissals in force: the runtimes that the user closed and
that every inventory of their endpoint has listed since. -/
structure DismissalRun where
  client : DismissingWindow
  inForce : List (RuntimeEndpoint × String)

inductive DismissalStep
  | closeSession (sessionUuid : String)
  | inventoryLoaded (endpoint : RuntimeEndpoint) (workspaces : List WorkspaceInfo)
      (mint : Nat → Nat → String)

namespace DismissalRun

/-- A dismissal ends when its own endpoint no longer lists the runtime. -/
def stillListed (endpoint : RuntimeEndpoint) (workspaces : List WorkspaceInfo)
    (dismissal : RuntimeEndpoint × String) : Bool :=
  dismissal.1 != endpoint || (inventoryIds workspaces).contains dismissal.2

def next (s : DismissalRun) : DismissalStep → DismissalRun
  | .closeSession sessionUuid =>
      { client := s.client.closeSession sessionUuid
        inForce := ((s.client.findWorkspace sessionUuid).bind
          DismissingWindow.managedRuntime).toList ++ s.inForce }
  | .inventoryLoaded endpoint workspaces mint =>
      { client := (s.client.inventoryLoaded endpoint workspaces mint).2
        inForce := s.inForce.filter (stillListed endpoint workspaces) }

end DismissalRun

/-- Dismissals and inventories in any order, from any window. -/
def dismissals : System DismissalRun DismissalStep where
  init := fun s => s.inForce = []
  next := fun s step => some (s.next step)

/-- An inventory lists the runtimes dismissed at the other endpoints. -/
def ListsOthers (s : DismissalRun) : DismissalStep → Prop
  | .closeSession _ => True
  | .inventoryLoaded endpoint workspaces _ =>
      ∀ dismissal ∈ s.inForce, dismissal.1 ≠ endpoint → dismissal.2 ∈ inventoryIds workspaces

/-- A runtime that is dismissed and still listed is not recovered, and the other
endpoints' dismissals remain. -/
structure KeepsDismissals (s : DismissalRun) (endpoint : RuntimeEndpoint)
    (workspaces : List WorkspaceInfo) (mint : Nat → Nat → String) : Prop where
  not_recovered : ∀ id, (endpoint, id) ∈ s.inForce → id ∈ inventoryIds workspaces →
    ∀ session ∈ (s.client.inventoryLoaded endpoint workspaces mint).1,
      session.runtime.runtimeId ≠ some id
  others_remain : ∀ other id, (other, id) ∈ s.inForce → other ≠ endpoint →
    id ∈ (s.client.inventoryLoaded endpoint workspaces mint).2.dismissedRuntimeIds

/-- The dismissals in force are in the set. -/
def InSet (s : DismissalRun) : Prop :=
  ∀ dismissal ∈ s.inForce, dismissal.2 ∈ s.client.dismissedRuntimeIds

theorem inSet_next {s : DismissalRun} {step : DismissalStep}
    (h : InSet s)
    (hlists : ListsOthers s step) :
    InSet (s.next step) := by
  intro dismissal hdismissal
  cases step with
  | closeSession sessionUuid =>
      simp only [DismissalRun.next] at hdismissal ⊢
      rw [DismissingWindow.closeSession_dismissed]
      cases hruntime :
          (s.client.findWorkspace sessionUuid).bind DismissingWindow.managedRuntime with
      | none =>
          rw [hruntime] at hdismissal
          exact h dismissal hdismissal
      | some closed =>
          rw [hruntime] at hdismissal
          rcases List.mem_cons.mp hdismissal with rfl | hdismissal
          · exact Finset.mem_insert_self _ _
          · exact Finset.mem_insert_of_mem (h dismissal hdismissal)
  | inventoryLoaded endpoint workspaces mint =>
      simp only [DismissalRun.next, List.mem_filter] at hdismissal
      refine (DismissingWindow.mem_inventoryLoaded_dismissed _).mpr
        ⟨h dismissal hdismissal.1, ?_⟩
      by_cases hown : dismissal.1 = endpoint
      · simpa [DismissalRun.stillListed, hown] using hdismissal.2
      · exact hlists dismissal hdismissal.1 hown

theorem inSet_of_reachable {s : DismissalRun}
    (h : dismissals.ReachableUnder ListsOthers s) :
    InSet s := by
  refine h.invariant (I := InSet) ?_ ?_
  · intro s hinit dismissal hdismissal
    rw [hinit] at hdismissal
    cases hdismissal
  · intro s step s' hs hlists hnext
    cases hnext
    exact inSet_next hs hlists

/-- **After inventories that list the runtimes dismissed at other endpoints, the
next one keeps every dismissal in force if and only if it does so too.** -/
theorem dismissals_hold_iff {s : DismissalRun}
    (h : dismissals.ReachableUnder ListsOthers s)
    (endpoint : RuntimeEndpoint) (workspaces : List WorkspaceInfo) (mint : Nat → Nat → String) :
    KeepsDismissals s endpoint workspaces mint ↔
      ListsOthers s (.inventoryLoaded endpoint workspaces mint) := by
  have hset := inSet_of_reachable h
  constructor
  · intro hkeeps dismissal hdismissal hother
    have hremains := hkeeps.others_remain dismissal.1 dismissal.2 hdismissal hother
    exact ((DismissingWindow.mem_inventoryLoaded_dismissed _).mp hremains).2
  · intro hlists
    constructor
    · intro id hid hlisted session hsession
      exact DismissingWindow.inventoryLoaded_not_recovered _ (hset _ hid) hlisted hsession
    · intro other id hid hother
      exact (DismissingWindow.mem_inventoryLoaded_dismissed _).mpr
        ⟨hset _ hid, hlists _ hid hother⟩

/-- A workspace on the local daemon. -/
def localWorkspace : WorkspaceState where
  uuid := "workspace"
  name := "work"
  layout := .terminal "terminal" none none none
  activeTerminalUuid := none
  runtime := ⟨true, .localHost, some (uuidToString 7)⟩
  zoomedTerminalUuid := none
  userRenamed := false

/-- The local daemon's inventory while it runs that workspace's runtime. -/
def localInventory : List WorkspaceInfo :=
  [⟨uuidToBytes 7, "work", false, []⟩]

def mintNumber (n k : Nat) : String :=
  toString n ++ "." ++ toString k

def openRun : DismissalRun :=
  ⟨⟨⟨[localWorkspace], ∅⟩, ∅⟩, []⟩

/-- The user has closed the workspace. -/
def closedRun : DismissalRun :=
  openRun.next (.closeSession "workspace")

theorem closedRun_reachable : dismissals.ReachableUnder ListsOthers closedRun := by
  have hinit : dismissals.ReachableUnder ListsOthers openRun := System.ReachableUnder.init rfl
  have hlists : ListsOthers openRun (.closeSession "workspace") := trivial
  exact hinit.step hlists rfl

/-- The local inventory keeps the dismissal. -/
theorem dismissals_hold_local :
    KeepsDismissals closedRun .localHost localInventory mintNumber := by
  refine (dismissals_hold_iff closedRun_reachable .localHost localInventory mintNumber).mpr ?_
  intro dismissal hdismissal hother
  have hlocal : ∀ dismissal ∈ closedRun.inForce, dismissal.1 = .localHost := by decide +kernel
  exact absurd (hlocal dismissal hdismissal) hother

/-- **A dismissed runtime returns**: another endpoint's inventory comes between. -/
theorem dismissed_runtime_returns :
    ¬ ∀ s : DismissalRun, dismissals.Reachable s →
      ∀ endpoint workspaces mint, KeepsDismissals s endpoint workspaces mint := by
  intro h
  have hreach : dismissals.Reachable
      (closedRun.next (.inventoryLoaded (.remote "host" none) [] mintNumber)) :=
    closedRun_reachable.reachable.next rfl
  have hlisted : uuidToString 7 ∈ inventoryIds localInventory := by decide +kernel
  have hrecovered : ∃ session ∈
      ((closedRun.next (.inventoryLoaded (.remote "host" none) [] mintNumber)).client.inventoryLoaded
        .localHost localInventory mintNumber).1,
      session.runtime.runtimeId = some (uuidToString 7) := by
    decide +kernel
  obtain ⟨session, hsession, hid⟩ := hrecovered
  exact (h _ hreach .localHost localInventory mintNumber).not_recovered (uuidToString 7)
    (by decide +kernel) hlisted session hsession hid

end Runs

end Client
end Rttx
