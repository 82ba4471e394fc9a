import Rttx.Server.Osc52
import Rttx.Server.PaneScreen
import Rttx.Server.PaneTree

/-!
# Panes

A pane is one terminal: its screen state, the metadata the daemon persists
(working directory, title, size, exit status), and the bytes waiting for the
scrollback log.

The output task takes the screen out of the pane while it parses a batch
outside the workspace lock, leaving a fresh screen of the default size, and
puts the parsed screen back afterwards.

**Results.**
* `extractMetadata_title`, `extractMetadata_cwd`: what a screen's metadata does
  to the pane, and when it is reported as new.
* `feedOutput_eq_phases`: the one-call feed is the composition of its phases.
-/

namespace Rttx
namespace Server

universe u v

/-- Default scrollback byte limit per pane. -/
def defaultMaxScrollback : Nat := 10 * 1024 * 1024

/-- What the daemon reads about processes from `/proc`. -/
structure ProcFs where
  cwd : Nat → Option String
  foregroundIsShell : Nat → Option Bool

/-- What changed after feeding output to a pane. -/
structure FeedResult where
  newCwd : Option String
  newTitle : Option String
  pendingReplies : List Bytes
  clipboardWrites : List ClipboardWrite
deriving DecidableEq

/-- A single pane. -/
structure Pane (P : Type u) (G : Type v) where
  id : Uuid
  screen : PaneScreen P G
  cwd : Option String
  title : Option String
  cols : Nat
  rows : Nat
  exitStatus : Option Int
  reconstructed : Bool
  pendingFlush : Bytes
  childPid : Option Nat
  outputSeq : Nat
  noPersist : Bool
  osc52 : Osc52Filter
deriving DecidableEq

namespace Pane

section Operations

variable {P : Type u} {G : Type v}
variable [VteParser P] [Vt100Parser G]

/-- A new pane with default screen state. -/
def new (id : Uuid) (cols rows : Nat) : Pane P G where
  id := id
  screen := PaneScreen.newSized defaultMaxScrollback cols rows
  cwd := none
  title := none
  cols := cols
  rows := rows
  exitStatus := none
  reconstructed := false
  pendingFlush := []
  childPid := none
  outputSeq := 0
  noPersist := false
  osc52 := Osc52Filter.default

/-- Remove OSC 52 clipboard writes from a batch of output. -/
def filterClipboardWrites (p : Pane P G) (data : Bytes) : Pane P G × Bytes :=
  let (osc52, clean) := p.osc52.filter data
  ({ p with osc52 := osc52 }, clean)

/-- Store a batch without parsing it, and count it. -/
def acceptOutput (p : Pane P G) (data : Bytes) : Pane P G :=
  let pending := p.pendingFlush ++ stripClientQueries data
  { p with
    screen := p.screen.acceptRaw data
    pendingFlush := pending.drop (pending.length - defaultMaxScrollback)
    outputSeq := p.outputSeq + 1 }

/-- Take the screen out for parsing, leaving a default one. -/
def takeScreen (p : Pane P G) : PaneScreen P G × Pane P G :=
  (p.screen, { p with screen := PaneScreen.new defaultMaxScrollback })

/-- A value the screen reports, if the pane does not record it already. -/
def reportIfNew (recorded reported : Option String) : Option String :=
  match reported with
  | none => none
  | some value => if recorded = some value then none else some value

/-- Record the screen's title and working directory and drain what is pending. -/
def extractMetadata (p : Pane P G) : FeedResult × Pane P G :=
  let newTitle := reportIfNew p.title p.screen.title
  let newCwd := reportIfNew p.cwd p.screen.cwd
  let (pendingReplies, screen) := p.screen.takePendingReplies
  let (clipboardWrites, osc52) := p.osc52.takeWrites
  (⟨newCwd, newTitle, pendingReplies, clipboardWrites⟩,
    { p with
      title := newTitle.or p.title
      cwd := newCwd.or p.cwd
      screen := screen
      osc52 := osc52 })

/-- Put a parsed screen back and extract the metadata changes. -/
def returnScreen (p : Pane P G) (screen : PaneScreen P G) : FeedResult × Pane P G :=
  extractMetadata { p with screen := screen }

def parseAndExtract (p : Pane P G) (data : Bytes) : FeedResult × Pane P G :=
  extractMetadata { p with screen := p.screen.parse data }

/-- Feed output in one call: filter, store, parse, extract. -/
def feedOutput (p : Pane P G) (data : Bytes) : FeedResult × Pane P G :=
  let (p, clean) := p.filterClipboardWrites data
  (p.acceptOutput clean).parseAndExtract clean

def readProcCwd (p : Pane P G) (proc : ProcFs) : Option String :=
  p.childPid.bind proc.cwd

/-- The reported working directory, else the one of the child process. -/
def effectiveCwd (p : Pane P G) (proc : ProcFs) : Option String :=
  p.cwd.or (p.readProcCwd proc)

def isExited (p : Pane P G) : Bool :=
  p.exitStatus.isSome

def foregroundIsShell (p : Pane P G) (proc : ProcFs) : Option Bool :=
  p.childPid.bind proc.foregroundIsShell

/-- Clear modes that only a running full-screen program uses when the shell
itself is in the foreground; returns the cleanup bytes that were applied. -/
def sanitizeModesIfIdle (p : Pane P G) (proc : ProcFs) : Option Bytes × Pane P G :=
  if p.isExited || !p.screen.hasAppOnlyModes then
    (none, p)
  else if p.foregroundIsShell proc = some true then
    let cleanup := p.screen.cleanupSequence true
    (some cleanup, { p with screen := p.screen.feed cleanup })
  else
    (none, p)

end Operations

section Laws

variable {P : Type u} {G : Type v}

theorem reportIfNew_eq_none {recorded reported : Option String} :
    reportIfNew recorded reported = none ↔ reported = none ∨ reported = recorded := by
  cases reported with
  | none => simp [reportIfNew]
  | some value =>
      by_cases h : recorded = some value
      · simp [reportIfNew, h]
      · simp [reportIfNew, h, eq_comm]

/-- Recording a report: the reported value, or what was recorded before. -/
theorem reportIfNew_or (recorded reported : Option String) :
    (reportIfNew recorded reported).or recorded = reported.or recorded := by
  cases reported with
  | none => simp [reportIfNew]
  | some value =>
      by_cases h : recorded = some value
      · simp [reportIfNew, h]
      · simp [reportIfNew, h]

/-- A title is recorded whenever the screen has one. -/
theorem extractMetadata_title (p : Pane P G) :
    p.extractMetadata.2.title = p.screen.title.or p.title :=
  reportIfNew_or _ _

theorem extractMetadata_cwd (p : Pane P G) :
    p.extractMetadata.2.cwd = p.screen.cwd.or p.cwd :=
  reportIfNew_or _ _

/-- Nothing but the metadata of the screen reaches the persisted fields. -/
theorem extractMetadata_frame (p : Pane P G) :
    p.extractMetadata.2.id = p.id ∧
      p.extractMetadata.2.cols = p.cols ∧
      p.extractMetadata.2.rows = p.rows ∧
      p.extractMetadata.2.exitStatus = p.exitStatus ∧
      p.extractMetadata.2.childPid = p.childPid ∧
      p.extractMetadata.2.noPersist = p.noPersist :=
  ⟨rfl, rfl, rfl, rfl, rfl, rfl⟩

variable [VteParser P] [Vt100Parser G]

/-- The one-call feed is the composition of its phases: taking the screen out,
parsing it elsewhere and returning it makes no difference. -/
theorem feedOutput_eq_phases (p : Pane P G) (data : Bytes) :
    p.feedOutput data =
      (let filtered := p.filterClipboardWrites data
       let accepted := filtered.1.acceptOutput filtered.2
       let taken := accepted.takeScreen
       taken.2.returnScreen (taken.1.parse filtered.2)) := by
  simp only [feedOutput, parseAndExtract, returnScreen, takeScreen]

end Laws

end Pane

end Server
end Rttx
