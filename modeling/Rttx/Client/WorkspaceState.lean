import Rttx.Client.Layout

/-!
# The client's workspaces

What a client window remembers of its workspaces: the name, the render layout,
the active and the zoomed terminal, and which daemon runtime backs it.  A
reverse index from runtime panes to layout terminals is derived from them.

**Results.**
* `findWorkspace_updateWorkspace`: an update through a found reference changes
  the workspace that a search finds.
-/

namespace Rttx
namespace Client

open Kernel Server

universe u

/-- Daemon endpoint that backs a managed workspace. -/
inductive RuntimeEndpoint
  | localHost
  | remote (host : String) (daemonBinaryPath : Option String)
deriving DecidableEq, Repr

/-- Stable key string for maps. -/
def RuntimeEndpoint.key : RuntimeEndpoint → String
  | localHost => "local"
  | remote host _ => "remote:" ++ host

/-- Managed-runtime metadata of a workspace. -/
structure WorkspaceRuntime where
  managed : Bool
  endpoint : RuntimeEndpoint
  runtimeId : Option String
deriving DecidableEq, Repr

/-- The client's state of one workspace. -/
structure WorkspaceState where
  uuid : String
  name : String
  layout : LayoutNode
  activeTerminalUuid : Option String
  runtime : WorkspaceRuntime
  zoomedTerminalUuid : Option String
  userRenamed : Bool
deriving DecidableEq

namespace WorkspaceState

def usesManagedRuntime (session : WorkspaceState) : Bool :=
  session.runtime.managed

/-- Keep the active terminal if the layout has it, else take the first one. -/
def normalizeActiveTerminal (session : WorkspaceState) : WorkspaceState :=
  if session.activeTerminalUuid.any (fun uuid => session.layout.containsTerminal uuid) then
    session
  else
    { session with activeTerminalUuid := session.layout.terminalUuids.head? }

@[simp] theorem normalizeActiveTerminal_uuid (session : WorkspaceState) :
    session.normalizeActiveTerminal.uuid = session.uuid := by
  simp only [normalizeActiveTerminal]
  split <;> rfl

@[simp] theorem normalizeActiveTerminal_layout (session : WorkspaceState) :
    session.normalizeActiveTerminal.layout = session.layout := by
  simp only [normalizeActiveTerminal]
  split <;> rfl

@[simp] theorem normalizeActiveTerminal_name (session : WorkspaceState) :
    session.normalizeActiveTerminal.name = session.name := by
  simp only [normalizeActiveTerminal]
  split <;> rfl

end WorkspaceState

/-- Routing metadata for a managed terminal. -/
structure ManagedTerminalBinding where
  workspaceId : String
  endpoint : RuntimeEndpoint
  runtimeId : String
  runtimePaneId : String
deriving DecidableEq, Repr

/-- The workspaces of a window, and the reverse index over their panes. -/
structure WindowState where
  workspaces : List WorkspaceState
  paneReverseIndex : HashMap String (String × String)

namespace WindowState

section Search

def findWorkspace (s : WindowState) (workspaceId : String) : Option WorkspaceState :=
  s.workspaces.find? (fun session => session.uuid == workspaceId)

/-- Resolve a layout terminal to its managed runtime; the runtime pane id is
the terminal's own. -/
def managedTerminalBinding (s : WindowState) (terminalUuid : String) :
    Option ManagedTerminalBinding :=
  (s.workspaces.find? (fun session =>
      session.usesManagedRuntime && session.layout.containsTerminal terminalUuid)).bind
    fun session => session.runtime.runtimeId.map fun runtimeId =>
      ⟨session.uuid, session.runtime.endpoint, runtimeId, terminalUuid⟩

/-- Replace the first workspace of this id. -/
def replaceFirst (workspaceId : String) (session : WorkspaceState) :
    List WorkspaceState → List WorkspaceState
  | [] => []
  | head :: rest =>
      if head.uuid = workspaceId then
        session :: rest
      else
        head :: replaceFirst workspaceId session rest

/-- Store a workspace that was found under its id and changed. -/
def updateWorkspace (s : WindowState) (session : WorkspaceState) : WindowState :=
  { s with workspaces := replaceFirst session.uuid session s.workspaces }

/-- Composite key for the reverse index. -/
def paneIndexKey (endpointKey runtimePaneId : String) : String :=
  endpointKey ++ "\x00" ++ runtimePaneId

/-- The entries of one workspace's terminals, each mapped to itself. -/
def indexWorkspace (index : HashMap String (String × String)) (session : WorkspaceState) :
    HashMap String (String × String) :=
  if session.usesManagedRuntime then
    session.layout.terminalUuids.foldl
      (fun index uuid =>
        index.insert (paneIndexKey session.runtime.endpoint.key uuid) (session.uuid, uuid))
      index
  else
    index

/-- Rebuild the reverse index from all layout terminals. -/
def rebuildPaneReverseIndex (s : WindowState) : WindowState :=
  { s with paneReverseIndex := s.workspaces.foldl indexWorkspace ∅ }

theorem findWorkspace_uuid {s : WindowState} {workspaceId : String} {session : WorkspaceState}
    (h : s.findWorkspace workspaceId = some session) :
    session.uuid = workspaceId := by
  have hfound := List.find?_some h
  simpa using hfound

theorem find_replaceFirst {workspaceId : String} {session old : WorkspaceState}
    {sessions : List WorkspaceState}
    (huuid : session.uuid = workspaceId)
    (hold : sessions.find? (fun w => w.uuid == workspaceId) = some old) :
    (replaceFirst workspaceId session sessions).find? (fun w => w.uuid == workspaceId) =
      some session := by
  induction sessions with
  | nil => simp at hold
  | cons head rest ih =>
      simp only [replaceFirst]
      split
      · simp [huuid]
      · rename_i hne
        rw [List.find?_cons_of_neg (by simpa using hne)] at hold ⊢
        exact ih hold

/-- A search finds the workspace that was stored. -/
theorem findWorkspace_updateWorkspace {s : WindowState} {session old : WorkspaceState}
    (hold : s.findWorkspace session.uuid = some old) :
    (s.updateWorkspace session).findWorkspace session.uuid = some session :=
  find_replaceFirst rfl hold

theorem map_uuid_replaceFirst {id : String} {new : WorkspaceState}
    (hid : new.uuid = id)
    (sessions : List WorkspaceState) :
    (replaceFirst id new sessions).map (fun w => w.uuid) =
      sessions.map (fun w => w.uuid) := by
  induction sessions with
  | nil => rfl
  | cons head rest ih =>
      simp only [replaceFirst]
      split
      · rename_i heq
        simp [hid, heq]
      · simp [ih]

theorem mem_replaceFirst {id : String} {new w : WorkspaceState} {sessions : List WorkspaceState}
    (h : w ∈ replaceFirst id new sessions) :
    w = new ∨ w ∈ sessions := by
  induction sessions with
  | nil => cases h
  | cons head rest ih =>
      simp only [replaceFirst] at h
      split at h
      · rcases List.mem_cons.mp h with rfl | hrest
        · exact Or.inl rfl
        · exact Or.inr (List.mem_cons_of_mem _ hrest)
      · rcases List.mem_cons.mp h with rfl | hrest
        · exact Or.inr List.mem_cons_self
        · exact (ih hrest).imp_right (List.mem_cons_of_mem _)

theorem find_replaceFirst_ne {id other : String} {new : WorkspaceState}
    (hid : new.uuid = id)
    (hne : id ≠ other)
    (sessions : List WorkspaceState) :
    (replaceFirst id new sessions).find? (fun w => w.uuid == other) =
      sessions.find? (fun w => w.uuid == other) := by
  induction sessions with
  | nil => rfl
  | cons head rest ih =>
      simp only [replaceFirst]
      split
      · rename_i heq
        have hnew : (new.uuid == other) = false := by simpa [hid] using hne
        have hhead : (head.uuid == other) = false := by simpa [heq] using hne
        simp [hnew, hhead]
      · simp [List.find?_cons, ih]

/-- Under distinct ids a workspace is the one found under its id. -/
theorem findWorkspace_of_mem {s : WindowState} {w : WorkspaceState}
    (hdistinct : (s.workspaces.map (fun session => session.uuid)).Nodup)
    (hw : w ∈ s.workspaces) :
    s.findWorkspace w.uuid = some w := by
  obtain ⟨found, hfound⟩ := Option.isSome_iff_exists.mp
    (List.find?_isSome.mpr ⟨w, hw, beq_self_eq_true w.uuid⟩ :
      (s.workspaces.find? (fun session => session.uuid == w.uuid)).isSome = true)
  have huuid : found.uuid = w.uuid := by simpa using List.find?_some hfound
  have heq : found = w :=
    List.inj_on_of_nodup_map hdistinct (List.mem_of_find?_eq_some hfound) hw huuid
  rw [findWorkspace, hfound, heq]

end Search

end WindowState

end Client
end Rttx
