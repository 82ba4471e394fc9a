import Rttx.Server.Snapshot

/-!
# The readers of a pane's screen

Besides the output task four handlers look at the screens of a workspace, all
under the workspace lock: terminal input is resolved against a pane's modes, a
serialization tick saves a snapshot of every pane, and an attach and a resync
render every pane for a client.  An attach first clears the modes that a dead
program left behind.

**Results.**
* `readScreens_screen`, `readEvents_of_not_looksAt`: what a reader does to a
  screen is a list of screen events, empty if it does not look at it.
-/

namespace Rttx
namespace Server

open Kernel

universe u v

section Input

/-- The kinds of structured terminal input. -/
inductive TerminalInputKind
  | raw (data : Bytes)
  | paste (text : Bytes)
  | focus (focused : Bool)
deriving DecidableEq

def bracketedPasteStart : Bytes := bytesOf "\x1b[200~"
def bracketedPasteEnd : Bytes := bytesOf "\x1b[201~"
def focusIn : Bytes := bytesOf "\x1b[I"
def focusOut : Bytes := bytesOf "\x1b[O"

/-- The bytes an input stands for under the pane's modes. -/
def resolveInput (kind : Option TerminalInputKind) (modes : TerminalModeState) : Bytes :=
  match kind with
  | some (.raw data) => data
  | some (.paste text) =>
      if modes.bracketedPaste then bracketedPasteStart ++ text ++ bracketedPasteEnd else text
  | some (.focus focused) =>
      if modes.focusReporting then (if focused then focusIn else focusOut) else []
  | none => []

end Input

section DiskSnapshot

/-- Maximum size of the rendering in a snapshot on disk. -/
def maxSnapshotBytes : Nat := 256 * 1024

def screenSnapshotSchemaVersion : Nat := 1

/-- The terminal modes of a snapshot on disk. -/
structure TerminalModeSnapshot where
  bracketedPaste : Bool
  applicationCursorKeys : Bool
  applicationKeypad : Bool
  mouseTrackingMode : Nat
  sgrMouse : Bool
  focusReporting : Bool
  alternateScreen : Bool
deriving DecidableEq

/-- The snapshot of a pane on disk. -/
structure ScreenSnapshotV1 where
  schemaVersion : Nat
  paneId : Uuid
  cols : Nat
  rows : Nat
  cursorRow : Nat
  cursorCol : Nat
  cursorVisible : Bool
  title : Option String
  cwd : Option String
  paneOutputSeq : Nat
  modes : TerminalModeSnapshot
  screenBytes : Bytes
  confidential : Bool
deriving DecidableEq

variable {P : Type u} {G : Type v}
variable [VteParser P] [Vt100Parser G]

/-- The primary buffer as the stream that rebuilds it after a restart. -/
def PaneScreen.primaryBufferStream (s : PaneScreen P G) : Bytes × PaneScreen P G :=
  let onAlternate := Vt100Parser.alternateScreen s.grid
  let grid := if onAlternate then Vt100Parser.process s.grid (bytesOf "\x1b[?47l") else s.grid
  let (out, grid) := renderPrimaryBuffer grid .afterContent
  let grid := if onAlternate then Vt100Parser.process grid (bytesOf "\x1b[?47h") else grid
  (out, { s with grid := grid })

namespace Pane

/-- The snapshot of a pane for the disk, and the pane after it was rendered. -/
def toScreenSnapshot (p : Pane P G) (proc : ProcFs) : ScreenSnapshotV1 × Pane P G :=
  let (cursorRow, cursorCol) := Vt100Parser.cursorPosition p.screen.grid
  let (stream, screen) := p.screen.primaryBufferStream
  ({ schemaVersion := screenSnapshotSchemaVersion
     paneId := p.id
     cols := p.cols
     rows := p.rows
     cursorRow := cursorRow % 2 ^ 16
     cursorCol := cursorCol % 2 ^ 16
     cursorVisible := screen.performer.cursorVisible
     title := p.title
     cwd := p.effectiveCwd proc
     paneOutputSeq := p.outputSeq
     modes :=
       { bracketedPaste := screen.performer.bracketedPasteMode
         applicationCursorKeys := screen.performer.applicationCursorKeys
         applicationKeypad := screen.performer.applicationKeypad
         mouseTrackingMode := screen.performer.mouseTrackingMode
         sgrMouse := screen.performer.sgrMouseMode
         focusReporting := screen.performer.focusEventMode
         alternateScreen := screen.performer.alternateScreen }
     screenBytes := dropOldestLinesOver stream maxSnapshotBytes
     confidential := p.noPersist },
    { p with screen := screen })

/-- Reset the modes of a pane whose process exited; returns the bytes applied. -/
def feedCleanup (p : Pane P G) : Bytes × Pane P G :=
  let cleanup := p.screen.cleanupSequence false
  (cleanup,
    { p with
      screen := p.screen.feed cleanup
      pendingFlush := p.pendingFlush ++ cleanup
      outputSeq := p.outputSeq + 1 })

/-- Release the scrollback of a pane whose process exited. -/
def releaseScrollback (p : Pane P G) : Pane P G :=
  { p with screen := p.screen.clearScrollback, pendingFlush := [] }

end Pane

end DiskSnapshot

section Readers

/-- A handler that looks at screens, with its arguments; a save is part of a
serialization tick, which is due for clean workspaces from time to time. -/
inductive ScreenRead
  | terminalInput (clientId paneId : Uuid) (kind : Option TerminalInputKind)
  | save (due : Bool) (proc : ProcFs)
  | attach (clientId : Uuid) (mode : AttachMode) (now : Nat) (proc : ProcFs)
  | resync (clientId : Uuid) (proc : ProcFs)

/-- What a reader makes of the screens. -/
inductive ScreenReadResult
  | input (resolved : Option Bytes)
  | saved (snapshots : List ScreenSnapshotV1)
  | attached (reply : Option Workspace.AttachReply)
  | resynced (snapshot : WorkspaceSnapshot)
deriving DecidableEq

variable {P : Type u} {G : Type v}

namespace Workspace

/-- The input handler under the workspace lock: the bytes for the PTY. -/
def handleV3TerminalInput [VteParser P] [Vt100Parser G] (w : Workspace P G)
    (clientId paneId : Uuid) (kind : Option TerminalInputKind) : Option Bytes :=
  match w.panes.lookup paneId with
  | none => none
  | some pane =>
      if !w.clientHasWriteAccess clientId then
        none
      else
        some (resolveInput kind pane.screen.terminalModeState)

/-- Whether a serialization tick saves the screens. -/
def savesScreens (w : Workspace P G) (due : Bool) : Bool :=
  w.policy = .persistent && (w.isDirty || due)

/-- A serialization tick under the workspace lock: the snapshots to save. -/
def collectScreens [VteParser P] [Vt100Parser G] (w : Workspace P G) (due : Bool)
    (proc : ProcFs) : List ScreenSnapshotV1 × Workspace P G :=
  if w.savesScreens due then
    ((w.panes.mapValues (fun p => (p.toScreenSnapshot proc).1)).values,
      { w with panes := w.panes.mapValues (fun p => (p.toScreenSnapshot proc).2) })
  else
    ([], w)

variable [VteParser P] [Vt100Parser G]

def readScreens (w : Workspace P G) : ScreenRead → ScreenReadResult × Workspace P G
  | .terminalInput clientId paneId kind =>
      (.input (w.handleV3TerminalInput clientId paneId kind), w)
  | .save due proc =>
      let (snapshots, w) := w.collectScreens due proc
      (.saved snapshots, w)
  | .attach clientId mode now proc =>
      let (reply, w) := w.handleV3Attach clientId mode now proc
      (.attached reply, w)
  | .resync clientId proc =>
      let (snapshot, w) := w.handleResync clientId proc
      (.resynced snapshot, w)

/-- Whether the reader looks at the screen of a pane.  Input looks at one pane,
with write access; a refused attach and a tick that is not due look at none. -/
def looksAt (w : Workspace P G) (r : ScreenRead) (k : Uuid) : Bool :=
  match r with
  | .terminalInput clientId paneId _ => k = paneId && w.clientHasWriteAccess clientId
  | .save due _ => w.savesScreens due
  | .attach clientId mode now proc => (w.handleV3Attach clientId mode now proc).1.isSome
  | .resync _ _ => true

end Workspace

end Readers

section Events

/-- What happens to a screen: a batch, fed cleanup bytes, a resize, and the
renderings, which move the grid's view. -/
inductive ScreenEvent
  | batch (data : Bytes)
  | fed (data : Bytes)
  | resized (cols rows : Nat)
  | rendered
  | captured
  | cleared
deriving DecidableEq

variable {P : Type u} {G : Type v}
variable [VteParser P] [Vt100Parser G]

namespace PaneScreen

def perform (s : PaneScreen P G) : ScreenEvent → PaneScreen P G
  | .batch data => ((s.acceptRaw data).parse data).takePendingReplies.2
  | .fed data => s.feed data
  | .resized cols rows => s.resize cols rows
  | .rendered => s.reattachStream.2
  | .captured => s.primaryBufferStream.2
  | .cleared => s.clearScrollback

def replay (s : PaneScreen P G) (events : List ScreenEvent) : PaneScreen P G :=
  events.foldl perform s

theorem replay_append (s : PaneScreen P G) (first second : List ScreenEvent) :
    s.replay (first ++ second) = (s.replay first).replay second :=
  List.foldl_append

end PaneScreen

/-- What an attach does to a pane's screen. -/
def Pane.attachEvents (p : Pane P G) (proc : ProcFs) : List ScreenEvent :=
  ((p.sanitizeModesIfIdle proc).1.map ScreenEvent.fed).toList ++ [.rendered]

namespace Workspace

/-- What a reader does to the screen of a pane. -/
def readEvents (w : Workspace P G) (r : ScreenRead) (k : Uuid) : List ScreenEvent :=
  match r with
  | .terminalInput _ _ _ => []
  | .save due _ => if w.savesScreens due then [.captured] else []
  | .attach clientId mode now proc =>
      if (w.handleV3Attach clientId mode now proc).1.isSome then
        ((w.panes.lookup k).map (fun p => p.attachEvents proc)).getD []
      else
        []
  | .resync _ _ => [.rendered]

end Workspace

section Laws

theorem sanitizeModesIfIdle_screen (p : Pane P G) (proc : ProcFs) :
    (p.sanitizeModesIfIdle proc).2.screen =
      p.screen.replay ((p.sanitizeModesIfIdle proc).1.map ScreenEvent.fed).toList := by
  simp only [Pane.sanitizeModesIfIdle]
  split
  · rfl
  · split
    · rfl
    · rfl

theorem attachEvents_screen (p : Pane P G) (proc : ProcFs) :
    (((p.sanitizeModesIfIdle proc).2.snapshot proc).2).screen =
      p.screen.replay (p.attachEvents proc) := by
  rw [Pane.attachEvents, PaneScreen.replay_append, ← sanitizeModesIfIdle_screen]
  rfl

namespace Workspace

/-- A reader changes the screen of a pane by its events there. -/
theorem readScreens_screen {w : Workspace P G} {r : ScreenRead} {k : Uuid} {pane' : Pane P G}
    (h : (w.readScreens r).2.panes.lookup k = some pane') :
    ∃ pane, w.panes.lookup k = some pane ∧
      pane'.screen = pane.screen.replay (w.readEvents r k) := by
  cases r with
  | terminalInput clientId paneId kind => exact ⟨pane', h, rfl⟩
  | save due proc =>
      by_cases hsaves : w.savesScreens due = true
      · simp only [readScreens, collectScreens, hsaves, if_true, HashMap.lookup_mapValues,
          Option.map_eq_some_iff] at h
        obtain ⟨pane, hpane, rfl⟩ := h
        exact ⟨pane, hpane, by simp only [readEvents, hsaves, if_true]; rfl⟩
      · simp only [readScreens, collectScreens, hsaves] at h
        exact ⟨pane', h, by simp only [readEvents, hsaves]; rfl⟩
  | attach clientId mode now proc =>
      rcases hres : w.handleV3Attach clientId mode now proc with ⟨_ | reply, w'⟩
      · simp only [readScreens, hres, handleV3Attach_none hres, attachClient_panes] at h
        exact ⟨pane', h, by simp only [readEvents, hres]; rfl⟩
      · simp only [readScreens, hres, (handleV3Attach_some hres).panes,
          Option.map_eq_some_iff] at h
        obtain ⟨pane, hpane, rfl⟩ := h
        refine ⟨pane, hpane, ?_⟩
        simp only [readEvents, hres, hpane, Option.isSome_some, if_true, Option.map_some,
          Option.getD_some]
        exact attachEvents_screen pane proc
  | resync clientId proc =>
      simp only [readScreens, lookup_handleResync, Option.map_eq_some_iff] at h
      obtain ⟨pane, hpane, rfl⟩ := h
      exact ⟨pane, hpane, rfl⟩

/-- A reader leaves the screens it does not look at. -/
theorem readEvents_of_not_looksAt {w : Workspace P G} {r : ScreenRead} {k : Uuid}
    (h : w.looksAt r k = false) :
    w.readEvents r k = [] := by
  cases r with
  | terminalInput clientId paneId kind => rfl
  | save due proc =>
      simp only [looksAt] at h
      simp [readEvents, h]
  | attach clientId mode now proc =>
      simp only [looksAt] at h
      simp [readEvents, h]
  | resync clientId proc => simp [looksAt] at h

end Workspace

end Laws

end Events

end Server
end Rttx
