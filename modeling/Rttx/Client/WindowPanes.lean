import Rttx.Client.Reconcile

/-!
# The panes of a window

A window keeps one view for each terminal of its managed workspaces.  Applying
a reconciled event removes the views of dropped terminals, builds the missing
ones of a rebuilt workspace, and resets the restored ones to their snapshot.
The views of other terminals stay as they are.

The terminal widget is represented by the bytes it was fed since its last
reset.  The header label of a view is computed from its two titles and its
directory.

**Results.**
* `lookup_restoreAll`: a sequence of restores acts on each view alone.
* `lookup_rebuildSessionContent`: rebuilding keeps the views of live terminals.
-/

namespace Rttx
namespace Client

open Kernel Server

/-- The bytes that bring a terminal back to its ground state. -/
def terminalCleanupBytes : Bytes :=
  0x18 :: bytesOf
    ("\x1b[?1l\x1b[?1000l\x1b[?1002l\x1b[?1003l\x1b[?1006l\x1b[?1015l\x1b[?1004l" ++
      "\x1b[?2004l\x1b>\x1b[?25h\x1b[m")

/-- The query whose answer marks the end of a replay. -/
def replayBarrierQuery : Bytes := bytesOf "\x1b[6n"

def trackingValueFromMouseMode : MouseMode → Nat
  | .none => 0
  | .x10 => 9
  | .normal => 1000
  | .button => 1002
  | .any => 1003

/-- The view of one daemon-backed pane. -/
structure PersistentPaneView where
  uuid : String
  runtimeId : String
  customTitle : Option String
  daemonTitle : Option String
  currentDirectory : Option String
  connected : Bool
  crashed : Bool
  replaying : Bool
  cols : Nat
  rows : Nat
  vteFed : Bytes
  bracketedPasteMode : Bool
  applicationCursorKeys : Bool
  applicationKeypad : Bool
  mouseTracking : Nat
deriving DecidableEq

namespace PersistentPaneView

section View

/-- A new view, its widget at the default size. -/
def new (uuid runtimeId : String) : PersistentPaneView where
  uuid := uuid
  runtimeId := runtimeId
  customTitle := none
  daemonTitle := none
  currentDirectory := none
  connected := false
  crashed := false
  replaying := false
  cols := 80
  rows := 24
  vteFed := []
  bracketedPasteMode := false
  applicationCursorKeys := false
  applicationKeypad := false
  mouseTracking := 0

def feedVte (v : PersistentPaneView) (data : Bytes) : PersistentPaneView :=
  { v with vteFed := v.vteFed ++ data }

/-- Feed the bytes of a mode that is armed. -/
def feedIf (armed : Bool) (data : String) (v : PersistentPaneView) : PersistentPaneView :=
  if armed then v.feedVte (bytesOf data) else v

/-- Feed a snapshot without its bells. -/
def feedSnapshot (v : PersistentPaneView) (scrollback : Bytes) : PersistentPaneView :=
  if scrollback.isEmpty || v.crashed then
    v
  else
    v.feedVte (scrollback.filter (fun b => b ≠ 0x07))

/-- Arm the modes of a snapshot on a terminal in its ground state. -/
def restoreInteractionModes (v : PersistentPaneView) (modes : TerminalModeState) :
    PersistentPaneView :=
  let tracking := trackingValueFromMouseMode modes.mouseMode
  let v :=
    { v with
      applicationCursorKeys := modes.applicationCursorKeys
      applicationKeypad := modes.applicationKeypad
      mouseTracking := tracking }
  (v.feedVte terminalCleanupBytes)
    |> feedIf modes.applicationCursorKeys "\x1b[?1h"
    |> feedIf modes.applicationKeypad "\x1b="
    |> feedIf (tracking = 1000) "\x1b[?1000h"
    |> feedIf (tracking = 1002) "\x1b[?1002h"
    |> feedIf (tracking = 1003) "\x1b[?1003h"
    |> feedIf modes.sgrMouse "\x1b[?1006h"
    |> feedIf modes.focusReporting "\x1b[?1004h"
    |> feedIf modes.cursorHidden "\x1b[?25l"

/-- Restore the modes of a snapshot, or clear them when it has none. -/
def restoreModes (v : PersistentPaneView) (modes : Option TerminalModeState) :
    PersistentPaneView :=
  if v.crashed then
    v
  else
    match modes with
    | some modes =>
        { v with bracketedPasteMode := modes.bracketedPaste }.restoreInteractionModes modes
    | none => { v with mouseTracking := 0 }.feedVte terminalCleanupBytes

/-- Finish a replay: at once when the terminal is crashed, else when it answers. -/
def endReplay (v : PersistentPaneView) : PersistentPaneView :=
  if v.crashed then { v with replaying := false } else v.feedVte replayBarrierQuery

/-- Take the daemon's title unless the view has a custom or the title is empty. -/
def restoreTitle (v : PersistentPaneView) (title : String) : PersistentPaneView :=
  if title ≠ "" && v.customTitle.isNone then { v with daemonTitle := some title } else v

/-- Reset the view to a snapshot. -/
def restore (v : PersistentPaneView) (r : WorkspacePaneRestore) : PersistentPaneView :=
  let v := { v with vteFed := [], replaying := true }
  let v := (v.feedSnapshot r.scrollbackTail).restoreModes r.terminalModes
  let v := { v.endReplay with currentDirectory := some r.cwd }
  { v.restoreTitle r.title with connected := true }

/-- The size to ask the daemon for, when the snapshot was taken at another. -/
def resizeRequest (v : PersistentPaneView) (r : WorkspacePaneRestore) : Option (Nat × Nat) :=
  if 0 < v.cols ∧ 0 < v.rows ∧ (v.cols ≠ r.cols ∨ v.rows ≠ r.rows) then
    some (v.cols, v.rows)
  else
    none

/-- The title shown: the user's own, else the daemon's. -/
def title (v : PersistentPaneView) : Option String :=
  v.customTitle.or v.daemonTitle

end View

end PersistentPaneView

/-- What the window asks of a daemon. -/
inductive ClientRequest
  | renameRuntime (repair : WorkspaceNameRepair)
  | resizePane (binding : ManagedTerminalBinding) (cols rows : Nat)
deriving DecidableEq

/-- A window: the state, the views of the managed panes, and the requests sent. -/
structure Window where
  state : WindowState
  persistentTerminals : HashMap String PersistentPaneView
  requests : List ClientRequest

namespace Window

section Apply

/-- A new view for a terminal, unless it has one. -/
def materializePersistentTerminal (session : WorkspaceState)
    (views : HashMap String PersistentPaneView) (leaf : String × Option String) :
    HashMap String PersistentPaneView :=
  if (views.lookup leaf.1).isSome then
    views
  else
    let view := PersistentPaneView.new leaf.1 (session.runtime.runtimeId.getD "")
    views.insert leaf.1 { view with customTitle := leaf.2 }

/-- The leaves that are drawn, with their custom titles: all of the layout, or
only the zoomed one. -/
def drawnLeaves (session : WorkspaceState) : List (String × Option String) :=
  match session.zoomedTerminalUuid with
  | some uuid => [(uuid, session.layout.terminalCustomTitle uuid)]
  | none => session.layout.terminalTitles

/-- The terminals of any workspace. -/
def liveUuids (s : WindowState) : List String :=
  s.workspaces.flatMap (fun session => session.layout.terminalUuids)

/-- Draw a workspace anew, and drop the views that no layout has. -/
def rebuildSessionContent (w : Window) (session : WorkspaceState) : Window :=
  let views :=
    if session.usesManagedRuntime then
      (drawnLeaves session).foldl (materializePersistentTerminal session) w.persistentTerminals
    else
      w.persistentTerminals
  { w with persistentTerminals :=
      HashMap.retain (fun uuid => (liveUuids w.state).contains uuid) views }

/-- Ask the daemon for a size, if the terminal is routable. -/
def sendManagedTerminalResize (w : Window) (terminalUuid : String)
    (size : Option (Nat × Nat)) : List ClientRequest :=
  match w.state.managedTerminalBinding terminalUuid, size with
  | some binding, some (cols, rows) => [.resizePane binding cols rows]
  | _, _ => []

/-- Restore one pane, if it has a view. -/
def restoreManagedSnapshot (w : Window) (r : WorkspacePaneRestore) : Window :=
  match w.persistentTerminals.lookup r.layoutTerminalUuid with
  | none => w
  | some view =>
      { w with
        persistentTerminals := w.persistentTerminals.insert r.layoutTerminalUuid (view.restore r)
        requests :=
          w.requests ++ w.sendManagedTerminalResize r.layoutTerminalUuid (view.resizeRequest r) }

/-- Carry out what a reconciled event asks for. -/
def applyEndpointEventTransition (w : Window) (t : EndpointEventTransition) : Window :=
  let w := { w with
    persistentTerminals := w.persistentTerminals.eraseAll t.removedLayoutTerminals }
  let w := t.rebuiltWorkspaces.foldl (fun w rebuild => w.rebuildSessionContent rebuild.2) w
  let w := { w with requests := w.requests ++ t.nameRepairs.map .renameRuntime }
  t.paneSnapshotRestores.foldl restoreManagedSnapshot w

/-- Handle an event that carries a snapshot. -/
def handleEndpointEvent (w : Window) (event : EndpointEvent) : Window :=
  let (transition, state) := w.state.reconcileEndpointEvent event
  { w with state := state }.applyEndpointEventTransition transition

end Apply

section Effects

/-- Building the missing views keeps the present ones. -/
theorem lookup_materializeAll (session : WorkspaceState) (leaves : List (String × Option String))
    {views : HashMap String PersistentPaneView} {uuid : String}
    (hview : (views.lookup uuid).isSome = true) :
    (leaves.foldl (materializePersistentTerminal session) views).lookup uuid =
      views.lookup uuid := by
  induction leaves generalizing views with
  | nil => rfl
  | cons leaf rest ih =>
      have hkeep : (materializePersistentTerminal session views leaf).lookup uuid =
          views.lookup uuid := by
        simp only [materializePersistentTerminal]
        split
        · rfl
        · rename_i hmissing
          have hne : uuid ≠ leaf.1 := by
            intro heq
            exact hmissing (heq ▸ hview)
          rw [HashMap.lookup_insert_eq, if_neg hne]
      rw [List.foldl_cons, ih (by rw [hkeep]; exact hview), hkeep]

/-- Rebuilding a workspace keeps the views of live terminals. -/
theorem lookup_rebuildSessionContent (w : Window) (session : WorkspaceState) {uuid : String}
    (hlive : uuid ∈ liveUuids w.state)
    (hview : (w.persistentTerminals.lookup uuid).isSome = true) :
    (w.rebuildSessionContent session).persistentTerminals.lookup uuid =
      w.persistentTerminals.lookup uuid := by
  simp only [rebuildSessionContent, HashMap.lookup_retain, List.contains_eq_mem, hlive,
    decide_true, if_true]
  split
  · exact lookup_materializeAll session _ hview
  · rfl

theorem mem_liveUuids {s : WindowState} {workspaceId uuid : String} {session : WorkspaceState}
    (hsession : s.findWorkspace workspaceId = some session)
    (huuid : uuid ∈ session.layout.terminalUuids) :
    uuid ∈ liveUuids s :=
  List.mem_flatMap.mpr ⟨session, List.mem_of_find?_eq_some hsession, huuid⟩

theorem lookup_restoreManagedSnapshot (w : Window) (r : WorkspacePaneRestore) (uuid : String) :
    (w.restoreManagedSnapshot r).persistentTerminals.lookup uuid =
      if r.layoutTerminalUuid = uuid then
        (w.persistentTerminals.lookup uuid).map (fun view => view.restore r)
      else
        w.persistentTerminals.lookup uuid := by
  simp only [restoreManagedSnapshot]
  cases hview : w.persistentTerminals.lookup r.layoutTerminalUuid with
  | none =>
      by_cases heq : r.layoutTerminalUuid = uuid
      · subst heq
        simp [hview]
      · simp [heq]
  | some view =>
      rw [HashMap.lookup_insert_eq]
      by_cases heq : r.layoutTerminalUuid = uuid
      · subst heq
        simp [hview]
      · simp [heq, Ne.symm heq]

/-- A sequence of restores acts on each view alone. -/
theorem lookup_restoreAll (w : Window) (restores : List WorkspacePaneRestore) (uuid : String) :
    (restores.foldl restoreManagedSnapshot w).persistentTerminals.lookup uuid =
      (w.persistentTerminals.lookup uuid).map fun view =>
        (restores.filter (fun r => r.layoutTerminalUuid = uuid)).foldl
          PersistentPaneView.restore view := by
  induction restores generalizing w with
  | nil => simp
  | cons r rest ih =>
      rw [List.foldl_cons, ih, lookup_restoreManagedSnapshot]
      by_cases heq : r.layoutTerminalUuid = uuid
      · simp [heq, Function.comp_def]
      · simp [heq]

end Effects

end Window

end Client
end Rttx
