import Rttx.Server.HistoryRendering
import Rttx.Server.WorkspaceFile

/-!
# The state store

Two tasks write the state of the daemon to disk: the serialization loop, tick by
tick, and the shutdown path, once.  A task goes through the workspaces twice, each
under its own lock: it drains the pending output of every pane, and then it collects
the workspace files and the screen snapshots.  What it holds by then it writes
without any lock: first the log chunks, then the files, then the snapshots.

In between, the output tasks of the panes store batches and handle exits, and
clients change the workspaces.  The daemon's index is a file of its own and is left
out, as are the diagnostics and the directory poll of a tick.

For the proofs, a log chunk carries its position in the stream that its pane
accepted, a snapshot the time at which it was taken and what the screen showed, and
the state carries the accepted stream of every pane, each byte with the pane's
`noPersist` flag at that moment.

**Results.**
* `nextStoring_stored`: the steps of a storing task, one by one.
-/

namespace Rttx
namespace Server

open Kernel

universe u v

/-- A pane of a workspace: the ids of both. -/
abbrev PaneKey := Uuid × Uuid

section Writes

/-- Bytes for a scrollback log, from position `start` of the accepted stream. -/
structure LogChunk where
  key : PaneKey
  start : Nat
  data : Bytes
deriving DecidableEq

/-- A snapshot for a pane's snapshot file, taken at time `taken` of a screen whose
visible part renders to `visible`. -/
structure ScreenSave where
  workspaceId : Uuid
  snapshot : ScreenSnapshotV1
  taken : Nat
  visible : Bytes
deriving DecidableEq

def ScreenSave.key (save : ScreenSave) : PaneKey :=
  (save.workspaceId, save.snapshot.paneId)

/-- Writes to the three kinds of files, those to each kind in order. -/
@[ext]
structure Writes where
  logs : List LogChunk
  files : List WorkspaceFileV2
  screens : List ScreenSave
deriving DecidableEq

namespace Writes

def none : Writes := ⟨[], [], []⟩

def append (w more : Writes) : Writes :=
  ⟨w.logs ++ more.logs, w.files ++ more.files, w.screens ++ more.screens⟩

@[simp] theorem append_none (w : Writes) : w.append none = w := by
  simp [append, none]

/-- The write that is carried out next: chunks first, then files, then snapshots. -/
def next : Writes → Writes
  | ⟨chunk :: _, _, _⟩ => ⟨[chunk], [], []⟩
  | ⟨[], file :: _, _⟩ => ⟨[], [file], []⟩
  | ⟨[], [], screen :: _⟩ => ⟨[], [], [screen]⟩
  | ⟨[], [], []⟩ => none

def rest : Writes → Writes
  | ⟨_ :: logs, files, screens⟩ => ⟨logs, files, screens⟩
  | ⟨[], _ :: files, screens⟩ => ⟨[], files, screens⟩
  | ⟨[], [], _ :: screens⟩ => ⟨[], [], screens⟩
  | ⟨[], [], []⟩ => none

theorem next_append_rest (w : Writes) : w.next.append w.rest = w := by
  match w with
  | ⟨_ :: _, _, _⟩ => rfl
  | ⟨[], _ :: _, _⟩ => rfl
  | ⟨[], [], _ :: _⟩ => rfl
  | ⟨[], [], []⟩ => rfl

end Writes

/-- The tasks that write to the state directory. -/
inductive StoringTask
  | tick
  | shutdown
deriving DecidableEq

def StoringTask.other : StoringTask → StoringTask
  | tick => shutdown
  | shutdown => tick

/-- Where a task is: the workspaces it has still to visit, and what it holds. -/
inductive StoringPhase
  | idle
  | draining (entries todo : List Uuid) (held : Writes)
  | collecting (todo : List Uuid) (held : Writes)
  | writing (held : Writes) (toMark : List Uuid)
  | done
deriving DecidableEq

/-- What a task has still to write. -/
def StoringPhase.held : StoringPhase → Writes
  | idle => Writes.none
  | draining _ _ held => held
  | collecting _ held => held
  | writing held _ => held
  | done => Writes.none

inductive StoringStep
  | begin
  | drain
  | drained
  | collect (due : Bool) (proc : ProcFs) (now : Nat)
  | collected
  | write (fails : Bool)
  | mark
  | finish

/-- A pass over one workspace that writes and marks so often. -/
def StoringStep.pass (writes marks : Nat) : List StoringStep :=
  [.begin, .drain, .drained, .collect false ⟨fun _ => none, fun _ => none⟩ 0, .collected] ++
    List.replicate writes (.write false) ++ List.replicate marks .mark ++ [.finish]

end Writes

section Draining

variable {P : Type u} {G : Type v}

/-- Drain the pending bytes of a pane: for the log, or for nothing when the pane is
not to be persisted. -/
def Pane.drainFlush (p : Pane P G) : Option Bytes × Pane P G :=
  if p.pendingFlush = [] || p.noPersist then
    (none, if p.noPersist then { p with pendingFlush := [] } else p)
  else
    (some p.pendingFlush, { p with pendingFlush := [] })

namespace Workspace

/-- Drain every pane of a workspace: the flush jobs, each with its pane's id. -/
def drainPanes (w : Workspace P G) : List (Uuid × Bytes) × Workspace P G :=
  (w.panes.values.filterMap (fun p => p.drainFlush.1.map (fun data => (p.id, data))),
    { w with panes := w.panes.mapValues (fun p => p.drainFlush.2) })

variable [VteParser P] [Vt100Parser G]

/-- The exit path, first section: reset the modes of the pane's screen. -/
def feedPaneCleanup (w : Workspace P G) (paneId : Uuid) : Bytes × Workspace P G :=
  match w.panes.lookup paneId with
  | none => ([], w)
  | some pane =>
      let (cleanup, pane) := pane.feedCleanup
      (cleanup, { w with panes := w.panes.insert paneId pane })

/-- The exit path, second section: record the status and release the scrollback. -/
def releasePane (w : Workspace P G) (paneId : Uuid) (status : Int) : Workspace P G :=
  let (_, w) := w.setPaneExitStatus paneId (some status)
  { w with panes := w.panes.modify paneId Pane.releaseScrollback }

/-- What a task collects from the workspace `id` at time `clock`.  The shutdown path
does not ask whether the workspace is dirty. -/
def collectWrites (w : Workspace P G) (id : Uuid) (task : StoringTask) (due : Bool)
    (proc : ProcFs) (now clock : Nat) : Writes :=
  let always := task = .shutdown
  { logs := []
    files :=
      if w.policy = .persistent && (w.isDirty || always) then
        [w.toWorkspaceFile proc now]
      else
        []
    screens :=
      if w.savesScreens (due || always) then
        w.panes.values.map (fun p =>
          ⟨id, (p.toScreenSnapshot proc).1, clock, p.screen.primaryParts.2⟩)
      else
        [] }

/-- The workspace after it was collected; the shutdown path marks it at once. -/
def afterCollect (w : Workspace P G) (task : StoringTask) (due : Bool) (proc : ProcFs) :
    Workspace P G :=
  let always := task = .shutdown
  let (_, w) := w.collectScreens (due || always) proc
  if always && w.policy = .persistent then w.markPersisted else w

/-- The operations that neither create panes nor touch what is pending. -/
def keepsBuffers : WorkspaceOp P G → Bool
  | .addPane _ => false
  | .splitPane _ _ _ _ => false
  | .takeOutput _ _ => false
  | .returnOutput _ _ _ => false
  | .setPaneNoPersist _ _ => false
  | .markPersisted => false
  | _ => true

end Workspace

end Draining

section System

variable {P : Type u} {G : Type v}

/-- Where the process of a pane is on its way out. -/
inductive ExitPhase
  | running
  | cleaned
  | released
deriving DecidableEq

/-- The registry, the batches that the output tasks are parsing, and the two tasks
with what they have written. -/
structure StoreState (P : Type u) (G : Type v) where
  workspaces : HashMap Uuid (Workspace P G)
  parsing : PaneKey → Option (TakenOutput P G)
  exit : PaneKey → ExitPhase
  phase : StoringTask → StoringPhase
  written : Writes
  accepted : PaneKey → List (UInt8 × Bool)
  clock : Nat

inductive StoreStep (P : Type u) (G : Type v)
  | take (key : PaneKey) (raw : Bytes)
  | giveBack (key : PaneKey) (proc : ProcFs)
  | cleanup (key : PaneKey)
  | release (key : PaneKey) (status : Int)
  | setNoPersist (key : PaneKey) (noPersist : Bool)
  | mutate (id : Uuid) (op : WorkspaceOp P G)
  | store (task : StoringTask) (a : StoringStep)

namespace StoreState

def paneAt (s : StoreState P G) (k : PaneKey) : Option (Pane P G) :=
  (s.workspaces.lookup k.1).bind (fun w => w.panes.lookup k.2)

def confidential (s : StoreState P G) (k : PaneKey) : Bool :=
  (s.paneAt k).any Pane.noPersist

def held (s : StoreState P G) (t : StoringTask) : Writes :=
  (s.phase t).held

def putWorkspace (s : StoreState P G) (id : Uuid) (w : Workspace P G) : StoreState P G :=
  { s with workspaces := s.workspaces.insert id w }

def setPhase (s : StoreState P G) (t : StoringTask) (phase : StoringPhase) :
    StoreState P G :=
  { s with phase := Function.update s.phase t phase }

/-- The stream of a pane goes on with `data`. -/
def accept (s : StoreState P G) (k : PaneKey) (data : Bytes) : StoreState P G :=
  { s with
    accepted := Function.update s.accepted k
      (s.accepted k ++ data.map (fun b => (b, s.confidential k))) }

/-- The log chunks of a workspace's flush jobs; a job holds all that is pending. -/
def chunks (s : StoreState P G) (id : Uuid) (jobs : List (Uuid × Bytes)) : List LogChunk :=
  jobs.map (fun job =>
    ⟨(id, job.1), (s.accepted (id, job.1)).length - job.2.length, job.2⟩)

variable [VteParser P] [Vt100Parser G]

/-- One step of a task that writes to disk. -/
def nextStoring (s : StoreState P G) (t : StoringTask) :
    StoringStep → Option (StoreState P G)
  | .begin =>
      match s.phase t with
      | .idle =>
          some (s.setPhase t (.draining s.workspaces.keys s.workspaces.keys Writes.none))
      | _ => none
  | .drain =>
      match s.phase t with
      | .draining entries (id :: todo) held =>
          (s.workspaces.lookup id).map fun w =>
            (s.putWorkspace id w.drainPanes.2).setPhase t
              (.draining entries todo (held.append ⟨s.chunks id w.drainPanes.1, [], []⟩))
      | _ => none
  | .drained =>
      match s.phase t with
      | .draining entries [] held => some (s.setPhase t (.collecting entries held))
      | _ => none
  | .collect due proc now =>
      match s.phase t with
      | .collecting (id :: todo) held =>
          (s.workspaces.lookup id).map fun w =>
            { (s.putWorkspace id (w.afterCollect t due proc)).setPhase t
                (.collecting todo (held.append (w.collectWrites id t due proc now s.clock))) with
              clock := s.clock + 1 }
      | _ => none
  | .collected =>
      match s.phase t with
      | .collecting [] held =>
          some (s.setPhase t (.writing held
            (if t = .tick then held.files.map (fun f => f.spec.id) else [])))
      | _ => none
  | .write fails =>
      match s.phase t with
      | .writing held toMark =>
          if held = Writes.none then
            none
          else
            some { s.setPhase t (.writing held.rest toMark) with
              written := if fails then s.written else s.written.append held.next }
      | _ => none
  | .mark =>
      match s.phase t with
      | .writing ⟨[], [], []⟩ (id :: toMark) =>
          some { s.setPhase t (.writing Writes.none toMark) with
            workspaces := s.workspaces.modify id Workspace.markPersisted }
      | _ => none
  | .finish =>
      match s.phase t with
      | .writing ⟨[], [], []⟩ [] => some (s.setPhase t (if t = .tick then .idle else .done))
      | _ => none

/-- One step.  The output task of a pane reads the next batch when it has returned
the last one, and handles the exit after the last batch. -/
def next (s : StoreState P G) : StoreStep P G → Option (StoreState P G)
  | .take k raw =>
      if s.exit k = .running ∧ (s.parsing k).isNone then
        (s.workspaces.lookup k.1).bind fun w =>
          (w.takeOutput k.2 raw).1.map fun taken =>
            { (s.accept k (stripClientQueries taken.data)).putWorkspace k.1
                (w.takeOutput k.2 raw).2 with
              parsing := Function.update s.parsing k (some taken) }
      else
        none
  | .giveBack k proc =>
      (s.parsing k).bind fun taken =>
        (s.workspaces.lookup k.1).map fun w =>
          { s.putWorkspace k.1
              (w.returnOutput k.2 (taken.screen.parse taken.data) proc).2 with
            parsing := Function.update s.parsing k none }
  | .cleanup k =>
      if s.exit k = .running ∧ (s.parsing k).isNone then
        (s.workspaces.lookup k.1).map fun w =>
          { (s.accept k (w.feedPaneCleanup k.2).1).putWorkspace k.1
              (w.feedPaneCleanup k.2).2 with
            exit := Function.update s.exit k .cleaned }
      else
        none
  | .release k status =>
      if s.exit k = .cleaned then
        (s.workspaces.lookup k.1).map fun w =>
          { s.putWorkspace k.1 (w.releasePane k.2 status) with
            exit := Function.update s.exit k .released }
      else
        none
  | .setNoPersist k noPersist =>
      (s.workspaces.lookup k.1).map fun w =>
        s.putWorkspace k.1 (w.setPaneNoPersist k.2 noPersist).2
  | .mutate id op =>
      if Workspace.keepsBuffers op then
        (s.workspaces.lookup id).map fun w => s.putWorkspace id (w.apply op)
      else
        none
  | .store t a => s.nextStoring t a

/-- Workspaces and panes under their own ids, nothing accepted and nothing held. -/
def IsStart (s : StoreState P G) : Prop :=
  (∀ id w, s.workspaces.lookup id = some w → w.id = id ∧ w.revision ≤ u64Max) ∧
    (∀ k p, s.paneAt k = some p → p.id = k.2 ∧ p.pendingFlush = []) ∧
    s.parsing = (fun _ => none) ∧
    s.exit = (fun _ => .running) ∧
    s.phase = (fun _ => .idle) ∧
    s.written = Writes.none ∧
    s.accepted = (fun _ => [])

variable (P G) in
def system : System (StoreState P G) (StoreStep P G) where
  init := IsStart
  next := next

end StoreState

end System

section Moves

variable {P : Type u} {G : Type v}
variable [VteParser P] [Vt100Parser G]

namespace StoreState

/-- What a storing task can do, step by step. -/
inductive Stored (s : StoreState P G) (t : StoringTask) : StoringStep → StoreState P G → Prop
  | begin :
      s.phase t = .idle →
      Stored s t .begin
        (s.setPhase t (.draining s.workspaces.keys s.workspaces.keys Writes.none))
  | drain {entries todo : List Uuid} {id : Uuid} {held : Writes} {w : Workspace P G} :
      s.phase t = .draining entries (id :: todo) held →
      s.workspaces.lookup id = some w →
      Stored s t .drain
        ((s.putWorkspace id w.drainPanes.2).setPhase t
          (.draining entries todo (held.append ⟨s.chunks id w.drainPanes.1, [], []⟩)))
  | drained {entries : List Uuid} {held : Writes} :
      s.phase t = .draining entries [] held →
      Stored s t .drained (s.setPhase t (.collecting entries held))
  | collect {todo : List Uuid} {id : Uuid} {held : Writes} {w : Workspace P G}
      {due : Bool} {proc : ProcFs} {now : Nat} :
      s.phase t = .collecting (id :: todo) held →
      s.workspaces.lookup id = some w →
      Stored s t (.collect due proc now)
        { (s.putWorkspace id (w.afterCollect t due proc)).setPhase t
            (.collecting todo (held.append (w.collectWrites id t due proc now s.clock))) with
          clock := s.clock + 1 }
  | collected {held : Writes} {toMark : List Uuid} :
      s.phase t = .collecting [] held →
      Stored s t .collected (s.setPhase t (.writing held toMark))
  | write {held : Writes} {toMark : List Uuid} {fails : Bool} :
      s.phase t = .writing held toMark →
      Stored s t (.write fails)
        { s.setPhase t (.writing held.rest toMark) with
          written := if fails then s.written else s.written.append held.next }
  | mark {id : Uuid} {toMark : List Uuid} :
      s.phase t = .writing Writes.none (id :: toMark) →
      Stored s t .mark
        { s.setPhase t (.writing Writes.none toMark) with
          workspaces := s.workspaces.modify id Workspace.markPersisted }
  | finish {phase : StoringPhase} :
      s.phase t = .writing Writes.none [] →
      phase.held = Writes.none →
      Stored s t .finish (s.setPhase t phase)

/-- **The steps of a storing task.** -/
theorem nextStoring_stored {s s' : StoreState P G} {t : StoringTask} {a : StoringStep}
    (h : s.nextStoring t a = some s') :
    s.Stored t a s' := by
  cases a with
  | begin =>
      simp only [nextStoring] at h
      split at h
      · next hphase =>
          simp only [Option.some.injEq] at h
          exact h ▸ .begin hphase
      · cases h
  | drain =>
      simp only [nextStoring] at h
      split at h
      · next hphase =>
          obtain ⟨w, hw, rfl⟩ := Option.map_eq_some_iff.mp h
          exact .drain hphase hw
      · cases h
  | drained =>
      simp only [nextStoring] at h
      split at h
      · next hphase =>
          simp only [Option.some.injEq] at h
          exact h ▸ .drained hphase
      · cases h
  | collect due proc now =>
      simp only [nextStoring] at h
      split at h
      · next hphase =>
          obtain ⟨w, hw, rfl⟩ := Option.map_eq_some_iff.mp h
          exact .collect hphase hw
      · cases h
  | collected =>
      simp only [nextStoring] at h
      split at h
      · next hphase =>
          simp only [Option.some.injEq] at h
          exact h ▸ .collected hphase
      · cases h
  | write fails =>
      simp only [nextStoring] at h
      split at h
      · next hphase =>
          split at h
          · cases h
          · simp only [Option.some.injEq] at h
            exact h ▸ .write hphase
      · cases h
  | mark =>
      simp only [nextStoring] at h
      split at h
      · next hphase =>
          simp only [Option.some.injEq] at h
          exact h ▸ .mark hphase
      · cases h
  | finish =>
      simp only [nextStoring] at h
      split at h
      · next hphase =>
          simp only [Option.some.injEq] at h
          refine h ▸ .finish hphase ?_
          split <;> rfl
      · cases h

end StoreState

end Moves

section Start

variable (P : Type u) (G : Type v)
variable [VteParser P] [Vt100Parser G]

namespace StoreState

/-- One persistent workspace with one pane, as created. -/
def singlePane : StoreState P G where
  workspaces := (∅ : HashMap Uuid (Workspace P G)).insert 7
    ((Workspace.new 7 "work" 0).addPane (Pane.new 1 80 24))
  parsing := fun _ => none
  exit := fun _ => .running
  phase := fun _ => .idle
  written := Writes.none
  accepted := fun _ => []
  clock := 0

theorem singlePane_isStart : (singlePane P G).IsStart := by
  refine ⟨?_, ?_, rfl, rfl, rfl, rfl, rfl⟩
  · intro id w hw
    rcases HashMap.lookup_insert_cases hw with ⟨rfl, rfl⟩ | ⟨_, hold⟩
    · refine ⟨rfl, (Workspace.addPane_bumped _ _).max ?_⟩
      simp [Workspace.new, defaultWorkspaceRevision, u64Max]
    · cases hold
  · rintro ⟨id, paneId⟩ p hp
    obtain ⟨w, hw, hpane⟩ := Option.bind_eq_some_iff.mp hp
    rcases HashMap.lookup_insert_cases hw with ⟨_, rfl⟩ | ⟨_, hold⟩
    · rcases HashMap.lookup_insert_cases hpane with ⟨rfl, rfl⟩ | ⟨_, hnone⟩
      · exact ⟨rfl, rfl⟩
      · cases hnone
    · cases hold

end StoreState

end Start

end Server
end Rttx
