import Rttx.Server.SampleTerminal
import Rttx.Server.StateStore

/-!
# Cleanup of the state directory

When a pane is closed, a thread removes its snapshot, its scrollback log, its history
and its shell-init directory; when a workspace is terminated, a thread removes its
directory.  A tick of the serialization loop goes on meanwhile: it holds on to the
workspaces that it started with, and writes what it has collected, creating the
directories that it needs.

The disk is a list of paths.  What is below the shell-init directory of a pane and the
directories between a workspace's directory and its files are left out, as are the
temporary files of an atomic write.

**Results.**
* `closed_is_gone`: what is closed leaves nothing behind, in runs whose ticks write
  every file before its removal and whose closed panes have no rotated logs.
* `closed_is_left`: runs that leave a snapshot, a directory and a rotated log.
-/

namespace Rttx
namespace Server

open Kernel

universe u v

section Files

/-- The files that are kept for a pane. -/
inductive PaneFile
  | screenSnapshot
  | scrollbackLog
  | rotatedLog (i : Nat)
  | historyFile
  | shellInitDir
deriving DecidableEq

/-- The paths below the state directory. -/
inductive StorePath
  | runtimeDir (id : Uuid)
  | runtimeFile (id : Uuid)
  | runtimePrev (id : Uuid)
  | runtimeBak (id : Uuid)
  | pane (key : PaneKey) (file : PaneFile)
deriving DecidableEq

namespace StorePath

def runtimeId : StorePath → Uuid
  | runtimeDir id => id
  | runtimeFile id => id
  | runtimePrev id => id
  | runtimeBak id => id
  | pane key _ => key.1

/-- The pane that a file is keyed on. -/
def paneKey : StorePath → Option PaneKey
  | pane key _ => some key
  | _ => none

def isRotatedLog : StorePath → Bool
  | pane _ (.rotatedLog _) => true
  | _ => false

end StorePath

def defaultMaxScrollbackLog : Nat := 10 * 1024 * 1024

def scrollbackRotateKeep : Nat := 3

/-- What exists on disk, and how long the current log of a pane is. -/
structure Disk where
  files : List StorePath
  logLength : PaneKey → Nat

namespace Disk

def create (d : Disk) (p : StorePath) : Disk :=
  { d with files := if p ∈ d.files then d.files else p :: d.files }

def remove (d : Disk) (p : StorePath) : Disk :=
  { files := d.files.filter (fun q => q ≠ p)
    logLength := fun k => if p = .pane k .scrollbackLog then 0 else d.logLength k }

def rename (d : Disk) (src dst : StorePath) : Disk :=
  if src ∈ d.files then (d.remove src).create dst else d

/-- Rotate the log of a pane when it exceeds the limit. -/
def rotateScrollbackLog (d : Disk) (k : PaneKey) : Disk :=
  if d.logLength k ≤ defaultMaxScrollbackLog then
    d
  else
    let shift := fun (d : Disk) (i : Nat) =>
      d.rename (.pane k (.rotatedLog i)) (.pane k (.rotatedLog (i + 1)))
    let d := (List.range' 1 (scrollbackRotateKeep - 1)).reverse.foldl shift d
    let d := d.remove (.pane k (.rotatedLog (scrollbackRotateKeep + 1)))
    d.rename (.pane k .scrollbackLog) (.pane k (.rotatedLog 1))

def appendLog (d : Disk) (c : LogChunk) : Disk :=
  { d.create (.pane c.key .scrollbackLog) with
    logLength := Function.update d.logLength c.key (d.logLength c.key + c.data.length) }

def writeScrollbackToDisk (d : Disk) (c : LogChunk) : Disk :=
  ((d.create (.runtimeDir c.key.1)).appendLog c).rotateScrollbackLog c.key

/-- The live file is copied before it is replaced. -/
def saveWorkspace (d : Disk) (id : Uuid) : Disk :=
  let d := d.create (.runtimeDir id)
  let d := if .runtimeFile id ∈ d.files then d.create (.runtimePrev id) else d
  (d.create (.runtimeBak id)).create (.runtimeFile id)

def saveScreenSnapshot (d : Disk) (k : PaneKey) : Disk :=
  (d.create (.runtimeDir k.1)).create (.pane k .screenSnapshot)

def carryOut (d : Disk) (w : Writes) : Disk :=
  let d := w.logs.foldl (fun d c => d.writeScrollbackToDisk c) d
  let d := w.files.foldl (fun d f => d.saveWorkspace f.spec.id) d
  w.screens.foldl (fun d x => d.saveScreenSnapshot x.key) d

/-- Every path lies in a directory that exists. -/
def HasDirs (d : Disk) : Prop :=
  ∀ p ∈ d.files, .runtimeDir p.runtimeId ∈ d.files

theorem mem_create {d : Disk} {p q : StorePath} :
    q ∈ (d.create p).files ↔ q = p ∨ q ∈ d.files := by
  simp only [create]
  split
  · next hmem => exact ⟨Or.inr, fun h => h.elim (fun heq => heq ▸ hmem) id⟩
  · exact List.mem_cons

theorem mem_remove {d : Disk} {p q : StorePath} :
    q ∈ (d.remove p).files ↔ q ∈ d.files ∧ q ≠ p := by
  simp [remove]

theorem HasDirs.createDir {d : Disk} (h : d.HasDirs) (id : Uuid) :
    (d.create (.runtimeDir id)).HasDirs := by
  intro q hq
  rw [mem_create] at hq ⊢
  rcases hq with rfl | hq
  · exact Or.inl rfl
  · exact Or.inr (h q hq)

theorem HasDirs.create {d : Disk} {id : Uuid} {p : StorePath}
    (h : d.HasDirs)
    (hp : p.runtimeId = id)
    (hdir : .runtimeDir id ∈ d.files) :
    (d.create p).HasDirs := by
  intro q hq
  rw [mem_create] at hq ⊢
  rcases hq with rfl | hq
  · exact Or.inr (hp ▸ hdir)
  · exact Or.inr (h q hq)

theorem HasDirs.remove {d : Disk} {p : StorePath}
    (h : d.HasDirs)
    (hdir : ∀ q ∈ d.files, q ≠ p → .runtimeDir q.runtimeId ≠ p) :
    (d.remove p).HasDirs := by
  intro q hq
  obtain ⟨hq, hne⟩ := mem_remove.mp hq
  exact mem_remove.mpr ⟨h q hq, hdir q hq hne⟩

theorem HasDirs.removePane {d : Disk} (h : d.HasDirs) (k : PaneKey) (f : PaneFile) :
    (d.remove (.pane k f)).HasDirs :=
  h.remove (fun _ _ _ => nofun)

theorem HasDirs.renamePane {d : Disk} (h : d.HasDirs) (k : PaneKey) (f g : PaneFile) :
    (d.rename (.pane k f) (.pane k g)).HasDirs := by
  simp only [rename]
  split
  · next hsrc =>
      have hdir : .runtimeDir k.1 ∈ (d.remove (.pane k f)).files :=
        mem_remove.mpr ⟨h _ hsrc, nofun⟩
      exact (h.removePane k f).create rfl hdir
  · exact h

theorem HasDirs.foldl {α : Type v} {step : Disk → α → Disk}
    (hstep : ∀ d x, d.HasDirs → (step d x).HasDirs)
    (xs : List α)
    {d : Disk}
    (h : d.HasDirs) :
    (xs.foldl step d).HasDirs := by
  induction xs generalizing d with
  | nil => exact h
  | cons x rest ih => exact ih (hstep d x h)

theorem HasDirs.rotateScrollbackLog {d : Disk} (h : d.HasDirs) (k : PaneKey) :
    (d.rotateScrollbackLog k).HasDirs := by
  simp only [Disk.rotateScrollbackLog]
  split
  · exact h
  · have hshift := HasDirs.foldl (fun _ i hd => hd.renamePane k (.rotatedLog i)
      (.rotatedLog (i + 1))) (List.range' 1 (scrollbackRotateKeep - 1)).reverse h
    exact (hshift.removePane k _).renamePane k _ _

theorem HasDirs.writeScrollbackToDisk {d : Disk} (h : d.HasDirs) (c : LogChunk) :
    (d.writeScrollbackToDisk c).HasDirs := by
  have hlog : ((d.create (.runtimeDir c.key.1)).create (.pane c.key .scrollbackLog)).HasDirs :=
    (h.createDir c.key.1).create rfl (mem_create.mpr (Or.inl rfl))
  exact HasDirs.rotateScrollbackLog
    (d := (d.create (.runtimeDir c.key.1)).appendLog c) hlog c.key

theorem HasDirs.saveWorkspace {d : Disk} (h : d.HasDirs) (id : Uuid) :
    (d.saveWorkspace id).HasDirs := by
  have hdir := h.createDir id
  have hmem : .runtimeDir id ∈ (d.create (.runtimeDir id)).files :=
    mem_create.mpr (Or.inl rfl)
  simp only [Disk.saveWorkspace]
  split
  · have hprev := hdir.create (p := .runtimePrev id) rfl hmem
    have hbak := hprev.create (p := .runtimeBak id) rfl (mem_create.mpr (Or.inr hmem))
    exact hbak.create rfl (mem_create.mpr (Or.inr (mem_create.mpr (Or.inr hmem))))
  · have hbak := hdir.create (p := .runtimeBak id) rfl hmem
    exact hbak.create rfl (mem_create.mpr (Or.inr hmem))

theorem HasDirs.saveScreenSnapshot {d : Disk} (h : d.HasDirs) (k : PaneKey) :
    (d.saveScreenSnapshot k).HasDirs :=
  (h.createDir k.1).create rfl (mem_create.mpr (Or.inl rfl))

/-- Writes create the directories that they need. -/
theorem HasDirs.carryOut {d : Disk} (h : d.HasDirs) (w : Writes) :
    (d.carryOut w).HasDirs :=
  HasDirs.foldl (fun _ x hd => hd.saveScreenSnapshot x.key) w.screens
    (HasDirs.foldl (fun _ f hd => hd.saveWorkspace f.spec.id) w.files
      (HasDirs.foldl (fun _ c hd => hd.writeScrollbackToDisk c) w.logs h))

end Disk

end Files

section System

variable {P : Type u} {G : Type v}

/-- The removal of a workspace's directory: what the thread has swept so far. -/
inductive RuntimeRemoval
  | sweeping (swept : List StorePath)
  | finished
deriving DecidableEq

/-- The stored state with the disk.  A closed pane has the files that are still to be
removed.  A terminated workspace has the removal of its directory; the object stays,
as the tick may hold on to it. -/
structure CleanupState (P : Type u) (G : Type v) where
  store : StoreState P G
  disk : Disk
  closed : HashMap PaneKey (List PaneFile)
  terminated : HashMap Uuid RuntimeRemoval

inductive CleanupStep (P : Type u) (G : Type v)
  | live (a : StoreStep P G)
  | tick (a : StoringStep)
  | closePane (clientId : Uuid) (key : PaneKey)
  | terminateWorkspace (id : Uuid)
  | removePaneState (key : PaneKey)
  | sweep (path : StorePath)
  | removeDir (id : Uuid)

/-- The workspace that an output task or a client works on.  Closing a pane is a step
of its own. -/
def StoreStep.worksOn : StoreStep P G → Option Uuid
  | .take k _ => some k.1
  | .giveBack k _ => some k.1
  | .cleanup k => some k.1
  | .release k _ => some k.1
  | .setNoPersist k _ => some k.1
  | .mutate _ (.removePane _) => none
  | .mutate id _ => some id
  | .store _ _ => none

/-- The durable artifacts of a pane, in the order in which they are removed. -/
def removePaneStateFiles : List PaneFile :=
  [.screenSnapshot, .scrollbackLog, .historyFile, .shellInitDir]

namespace CleanupState

def registered (s : CleanupState P G) (id : Uuid) : Bool :=
  (s.terminated.lookup id).isNone

variable [VteParser P] [Vt100Parser G]

/-- A step of the tick.  It starts with the registered workspaces, and marks those
that are still registered. -/
def nextTick (s : CleanupState P G) (a : StoringStep) : Option (CleanupState P G) :=
  match a with
  | .begin =>
      if s.store.phase .tick = .idle then
        let entries := s.store.workspaces.keys.filter s.registered
        some { s with store := s.store.setPhase .tick (.draining entries entries Writes.none) }
      else
        none
  | .write fails =>
      (s.store.nextStoring .tick a).map fun store =>
        { s with
          store := store
          disk := if fails then s.disk else s.disk.carryOut (s.store.held .tick).next }
  | .mark =>
      match s.store.phase .tick with
      | .writing ⟨[], [], []⟩ (id :: toMark) =>
          if s.registered id then
            (s.store.nextStoring .tick a).map fun store => { s with store := store }
          else
            some { s with store := s.store.setPhase .tick (.writing Writes.none toMark) }
      | _ => none
  | _ => (s.store.nextStoring .tick a).map fun store => { s with store := store }

/-- `ClosePane`: the pane leaves the tree, and a thread is to remove its files. -/
def closePane (s : CleanupState P G) (clientId : Uuid) (k : PaneKey) :
    Option (CleanupState P G) :=
  if s.registered k.1 then
    (s.store.workspaces.lookup k.1).bind fun w =>
      if w.clientHasWriteAccess clientId ∧ (w.removePane k.2).1.isSome then
        some { s with
          store := s.store.putWorkspace k.1 (w.removePane k.2).2
          closed := s.closed.insert k removePaneStateFiles }
      else
        none
  else
    none

/-- Take the workspace out of the registry.  No thread is started when there is no
directory. -/
def terminateWorkspace (s : CleanupState P G) (id : Uuid) : Option (CleanupState P G) :=
  if s.registered id ∧ id ∈ s.store.workspaces.keys then
    some { s with
      terminated := s.terminated.insert id
        (if .runtimeDir id ∈ s.disk.files then .sweeping [] else .finished) }
  else
    none

/-- The thread removes the next of the pane's files. -/
def removePaneState (s : CleanupState P G) (k : PaneKey) : Option (CleanupState P G) :=
  match s.closed.lookup k with
  | some (file :: rest) =>
      some { s with
        disk := s.disk.remove (.pane k file)
        closed := s.closed.insert k rest }
  | _ => none

/-- The thread comes past a path in the directory, in whatever order. -/
def sweep (s : CleanupState P G) (p : StorePath) : Option (CleanupState P G) :=
  match s.terminated.lookup p.runtimeId with
  | some (.sweeping swept) =>
      if p ∈ swept ∨ p = .runtimeDir p.runtimeId then
        none
      else
        some { s with
          disk := s.disk.remove p
          terminated := s.terminated.insert p.runtimeId (.sweeping (p :: swept)) }
  | _ => none

/-- When every path was swept, the directory is removed, unless it is not empty. -/
def removeDir (s : CleanupState P G) (id : Uuid) : Option (CleanupState P G) :=
  let inside := s.disk.files.filter fun p => p.runtimeId = id ∧ p ≠ .runtimeDir id
  match s.terminated.lookup id with
  | some (.sweeping swept) =>
      if inside.all (fun p => p ∈ swept) then
        some { s with
          disk := if inside = [] then s.disk.remove (.runtimeDir id) else s.disk
          terminated := s.terminated.insert id .finished }
      else
        none
  | _ => none

/-- One step. -/
def next (s : CleanupState P G) : CleanupStep P G → Option (CleanupState P G)
  | .live a =>
      if a.worksOn.any s.registered then
        (s.store.next a).map fun store => { s with store := store }
      else
        none
  | .tick a => s.nextTick a
  | .closePane clientId k => s.closePane clientId k
  | .terminateWorkspace id => s.terminateWorkspace id
  | .removePaneState k => s.removePaneState k
  | .sweep p => s.sweep p
  | .removeDir id => s.removeDir id

/-- Nothing was closed or terminated; the disk may hold anything. -/
def IsStart (s : CleanupState P G) : Prop :=
  s.store.IsStart ∧ s.disk.HasDirs ∧ s.closed = ∅ ∧ s.terminated = ∅

variable (P G) in
def system : System (CleanupState P G) (CleanupStep P G) where
  init := IsStart
  next := next

end CleanupState

end System

namespace CleanupState

section Property

variable {P : Type u} {G : Type v}

/-- The tick and every removal have finished. -/
def Finished (s : CleanupState P G) : Prop :=
  s.store.phase .tick = .idle ∧
    (∀ todo ∈ s.closed.values, todo = []) ∧
    ∀ removal ∈ s.terminated.values, removal = .finished

instance (s : CleanupState P G) : Decidable s.Finished :=
  inferInstanceAs (Decidable (_ ∧ _ ∧ _))

/-- The pane of the path was closed, or its workspace terminated. -/
def Gone (s : CleanupState P G) (p : StorePath) : Prop :=
  (p.paneKey.bind s.closed.lookup).isSome ∨ (s.terminated.lookup p.runtimeId).isSome

instance (s : CleanupState P G) (p : StorePath) : Decidable (s.Gone p) :=
  inferInstanceAs (Decidable (_ ∨ _))

/-- What is closed has left nothing behind. -/
def ClosedIsGone (s : CleanupState P G) : Prop :=
  s.Finished → ∀ p ∈ s.disk.files, ¬ s.Gone p

instance (s : CleanupState P G) : Decidable s.ClosedIsGone :=
  inferInstanceAs (Decidable (_ → _))

/-- The file is of a closed pane and no longer to be removed. -/
def pastPaneRemoval (s : CleanupState P G) : StorePath → Bool
  | .pane k file => (s.closed.lookup k).any fun todo => file ∉ todo
  | _ => false

/-- No thread will remove the path any more, though it is of a closed pane or of a
terminated workspace. -/
def pastRemoval (s : CleanupState P G) (p : StorePath) : Bool :=
  match s.terminated.lookup p.runtimeId with
  | none => s.pastPaneRemoval p
  | some (.sweeping swept) => p ∈ swept
  | some .finished => true

/-- The condition on a step.  The tick puts no file in place that is past its removal,
and a pane is closed only when it has no rotated log. -/
def writesInTime (s : CleanupState P G) : CleanupStep P G → Bool
  | .tick (.write false) =>
      (s.disk.carryOut (s.store.held .tick).next).files.all fun p =>
        p ∈ s.disk.files || !s.pastRemoval p
  | .closePane _ k => s.disk.files.all fun p => p.paneKey ≠ some k || !p.isRotatedLog
  | _ => true

/-- Paths lie in directories, and none is past its removal. -/
structure Clean (s : CleanupState P G) : Prop where
  dirs : s.disk.HasDirs
  files : ∀ p ∈ s.disk.files, s.pastRemoval p = false

end Property

section Steps

variable {P : Type u} {G : Type v}

theorem pastRemoval_registered {s : CleanupState P G} {p : StorePath}
    (h : s.terminated.lookup p.runtimeId = none) :
    s.pastRemoval p = s.pastPaneRemoval p := by
  simp only [pastRemoval, h]

theorem pastRemoval_sweeping {s : CleanupState P G} {p : StorePath} {swept : List StorePath}
    (h : s.terminated.lookup p.runtimeId = some (.sweeping swept)) :
    s.pastRemoval p = decide (p ∈ swept) := by
  simp only [pastRemoval, h]

theorem pastRemoval_finished {s : CleanupState P G} {p : StorePath}
    (h : s.terminated.lookup p.runtimeId = some .finished) :
    s.pastRemoval p = true := by
  simp only [pastRemoval, h]

theorem pastPaneRemoval_congr {s s' : CleanupState P G} {p : StorePath}
    (h : ∀ k, p.paneKey = some k → s'.closed.lookup k = s.closed.lookup k) :
    s'.pastPaneRemoval p = s.pastPaneRemoval p := by
  cases p with
  | pane k file => rw [pastPaneRemoval, pastPaneRemoval, h k rfl]
  | _ => rfl

/-- What is past its removal depends on the removals only. -/
theorem pastRemoval_congr {s s' : CleanupState P G} {p : StorePath}
    (hclosed : ∀ k, p.paneKey = some k → s'.closed.lookup k = s.closed.lookup k)
    (hterminated : s'.terminated.lookup p.runtimeId = s.terminated.lookup p.runtimeId) :
    s'.pastRemoval p = s.pastRemoval p := by
  simp only [pastRemoval, pastPaneRemoval_congr hclosed, hterminated]

theorem Clean.of_same {s s' : CleanupState P G}
    (h : s.Clean)
    (hdisk : s'.disk = s.disk)
    (hclosed : s'.closed = s.closed)
    (hterminated : s'.terminated = s.terminated) :
    s'.Clean := by
  refine ⟨hdisk ▸ h.dirs, fun p hp => ?_⟩
  rw [pastRemoval_congr (s := s) (fun _ _ => by rw [hclosed]) (by rw [hterminated])]
  exact h.files p (hdisk ▸ hp)

theorem closePane_frame {s s' : CleanupState P G} {clientId : Uuid} {k : PaneKey}
    (h : s.closePane clientId k = some s') :
    s.terminated.lookup k.1 = none ∧ s'.disk = s.disk ∧
      s'.closed = s.closed.insert k removePaneStateFiles ∧ s'.terminated = s.terminated := by
  simp only [closePane] at h
  split at h
  · next hregistered =>
      obtain ⟨w, _, h⟩ := Option.bind_eq_some_iff.mp h
      split at h
      · simp only [Option.some.injEq] at h
        exact h ▸ ⟨Option.isNone_iff_eq_none.mp hregistered, rfl, rfl, rfl⟩
      · cases h
  · cases h

theorem terminateWorkspace_frame {s s' : CleanupState P G} {id : Uuid}
    (h : s.terminateWorkspace id = some s') :
    s'.disk = s.disk ∧ s'.closed = s.closed ∧
      s'.terminated = s.terminated.insert id
        (if .runtimeDir id ∈ s.disk.files then .sweeping [] else .finished) := by
  simp only [terminateWorkspace] at h
  split at h
  · simp only [Option.some.injEq] at h
    exact h ▸ ⟨rfl, rfl, rfl⟩
  · cases h

theorem removePaneState_frame {s s' : CleanupState P G} {k : PaneKey}
    (h : s.removePaneState k = some s') :
    ∃ file rest, s.closed.lookup k = some (file :: rest) ∧
      s'.disk = s.disk.remove (.pane k file) ∧ s'.closed = s.closed.insert k rest ∧
        s'.terminated = s.terminated := by
  simp only [removePaneState] at h
  split at h
  · next file rest htodo =>
      simp only [Option.some.injEq] at h
      exact h ▸ ⟨file, rest, htodo, rfl, rfl, rfl⟩
  · cases h

theorem sweep_frame {s s' : CleanupState P G} {p : StorePath}
    (h : s.sweep p = some s') :
    ∃ swept, s.terminated.lookup p.runtimeId = some (.sweeping swept) ∧
      p ≠ .runtimeDir p.runtimeId ∧ s'.disk = s.disk.remove p ∧ s'.closed = s.closed ∧
        s'.terminated = s.terminated.insert p.runtimeId (.sweeping (p :: swept)) := by
  simp only [sweep] at h
  split at h
  · next swept hsweeping =>
      split at h
      · cases h
      · next hout =>
          simp only [Option.some.injEq] at h
          exact h ▸ ⟨swept, hsweeping, fun heq => hout (Or.inr heq), rfl, rfl, rfl⟩
  · cases h

theorem removeDir_frame {s s' : CleanupState P G} {id : Uuid}
    (h : s.removeDir id = some s') :
    ∃ swept, s.terminated.lookup id = some (.sweeping swept) ∧
      (∀ p ∈ s.disk.files, p.runtimeId = id → p ≠ .runtimeDir id → p ∈ swept) ∧
      ((∀ p ∈ s.disk.files, p.runtimeId = id → p = .runtimeDir id) →
        s'.disk = s.disk.remove (.runtimeDir id)) ∧
      s'.closed = s.closed ∧ s'.terminated = s.terminated.insert id .finished := by
  simp only [removeDir] at h
  split at h
  · next swept hsweeping =>
      split at h
      · next hall =>
          simp only [Option.some.injEq] at h
          subst h
          refine ⟨swept, hsweeping, fun p hp hid hne => ?_, fun hempty => ?_, rfl, rfl⟩
          · have hin := List.all_eq_true.mp hall p
              (List.mem_filter.mpr ⟨hp, by simp [hid, hne]⟩)
            simpa using hin
          · refine if_pos (List.filter_eq_nil_iff.mpr fun p hp hin => ?_)
            simp only [decide_eq_true_eq] at hin
            exact hin.2 (hempty p hp hin.1)
      · cases h
  · cases h

/-- All files of a pane without rotated logs are in the thread's list. -/
theorem Clean.closePane {s s' : CleanupState P G} {clientId : Uuid} {k : PaneKey}
    (h : s.Clean)
    (hok : s.writesInTime (.closePane clientId k) = true)
    (hnext : s.closePane clientId k = some s') :
    s'.Clean := by
  obtain ⟨hlive, hdisk, hclosed, hterminated⟩ := closePane_frame hnext
  refine ⟨hdisk ▸ h.dirs, fun p hp => ?_⟩
  rw [hdisk] at hp
  by_cases hkey : p.paneKey = some k
  · cases p with
    | pane key file =>
        obtain rfl : key = k := Option.some.inj hkey
        simp only [writesInTime, List.all_eq_true, Bool.or_eq_true, decide_eq_true_eq,
          Bool.not_eq_true'] at hok
        have hrotated := (hok _ hp).resolve_left (fun hne => hne rfl)
        rw [pastRemoval_registered (hterminated ▸ hlive), pastPaneRemoval, hclosed,
          AList.lookup_insert, Option.any_some]
        cases file with
        | rotatedLog i => cases hrotated
        | _ => decide
    | _ => cases hkey
  · rw [pastRemoval_congr (s := s) (fun key hk => ?_) (by rw [hterminated])]
    · exact h.files p hp
    · rw [hclosed, AList.lookup_insert_ne (fun heq : key = k => hkey (heq ▸ hk))]

/-- A directory that does not exist has no files. -/
theorem Clean.terminateWorkspace {s s' : CleanupState P G} {id : Uuid}
    (h : s.Clean)
    (hnext : s.terminateWorkspace id = some s') :
    s'.Clean := by
  obtain ⟨hdisk, hclosed, hterminated⟩ := terminateWorkspace_frame hnext
  refine ⟨hdisk ▸ h.dirs, fun p hp => ?_⟩
  rw [hdisk] at hp
  by_cases hid : p.runtimeId = id
  · have hdir : .runtimeDir id ∈ s.disk.files := hid ▸ h.dirs p hp
    rw [if_pos hdir] at hterminated
    rw [pastRemoval_sweeping (by rw [hterminated, hid, AList.lookup_insert])]
    rfl
  · rw [pastRemoval_congr (s := s) (fun _ _ => by rw [hclosed])
      (by rw [hterminated, AList.lookup_insert_ne hid])]
    exact h.files p hp

theorem Clean.removePaneState {s s' : CleanupState P G} {k : PaneKey}
    (h : s.Clean)
    (hnext : s.removePaneState k = some s') :
    s'.Clean := by
  obtain ⟨file, rest, htodo, hdisk, hclosed, hterminated⟩ := removePaneState_frame hnext
  refine ⟨hdisk ▸ h.dirs.removePane k file, fun p hp => ?_⟩
  rw [hdisk, Disk.mem_remove] at hp
  have hold := h.files p hp.1
  rw [pastRemoval] at hold ⊢
  rw [hterminated]
  cases hremoval : s.terminated.lookup p.runtimeId with
  | some removal =>
      rw [hremoval] at hold
      cases removal <;> exact hold
  | none =>
      simp only [hremoval] at hold ⊢
      by_cases hkey : p.paneKey = some k
      · cases p with
        | pane key g =>
            obtain rfl : key = k := Option.some.inj hkey
            rw [pastPaneRemoval, htodo, Option.any_some, decide_eq_false_iff_not,
              not_not] at hold
            rw [pastPaneRemoval, hclosed, AList.lookup_insert, Option.any_some,
              decide_eq_false_iff_not, not_not]
            -- the file that leaves the list is the one that was removed
            exact (List.mem_cons.mp hold).resolve_left (fun heq => hp.2 (heq ▸ rfl))
        | _ => cases hkey
      · rw [pastPaneRemoval_congr (s := s) (fun key hk => ?_)]
        · exact hold
        · rw [hclosed, AList.lookup_insert_ne (fun heq : key = k => hkey (heq ▸ hk))]

theorem Clean.sweep {s s' : CleanupState P G} {p : StorePath}
    (h : s.Clean)
    (hnext : s.sweep p = some s') :
    s'.Clean := by
  obtain ⟨swept, hsweeping, hdir, hdisk, hclosed, hterminated⟩ := sweep_frame hnext
  refine ⟨hdisk ▸ h.dirs.remove (fun q _ _ heq => hdir ?_), fun q hq => ?_⟩
  · rw [← heq]
    rfl
  · rw [hdisk, Disk.mem_remove] at hq
    have hold := h.files q hq.1
    by_cases hid : q.runtimeId = p.runtimeId
    · rw [pastRemoval_sweeping (hid ▸ hsweeping), decide_eq_false_iff_not] at hold
      rw [pastRemoval_sweeping (by rw [hterminated, hid, AList.lookup_insert]),
        decide_eq_false_iff_not]
      exact fun hmem => (List.mem_cons.mp hmem).elim hq.2 hold
    · rw [pastRemoval_congr (s := s) (fun _ _ => by rw [hclosed])
        (by rw [hterminated, AList.lookup_insert_ne hid])]
      exact hold

/-- Nothing that was swept is there, so the directory is empty when it is removed. -/
theorem Clean.removeDir {s s' : CleanupState P G} {id : Uuid}
    (h : s.Clean)
    (hnext : s.removeDir id = some s') :
    s'.Clean := by
  obtain ⟨swept, hsweeping, hswept, hempty, hclosed, hterminated⟩ := removeDir_frame hnext
  have hinside : ∀ p ∈ s.disk.files, p.runtimeId = id → p = .runtimeDir id := by
    intro p hp hid
    by_contra hne
    have hold := h.files p hp
    rw [pastRemoval_sweeping (hid ▸ hsweeping), decide_eq_false_iff_not] at hold
    exact hold (hswept p hp hid hne)
  have hdisk := hempty hinside
  refine ⟨hdisk ▸ h.dirs.remove (fun q hq hne heq => hne ?_), fun q hq => ?_⟩
  · exact hinside q hq (StorePath.runtimeDir.inj heq)
  · rw [hdisk, Disk.mem_remove] at hq
    have hid : q.runtimeId ≠ id := fun hid => hq.2 (hinside q hq.1 hid)
    rw [pastRemoval_congr (s := s) (fun _ _ => by rw [hclosed])
      (by rw [hterminated, AList.lookup_insert_ne hid])]
    exact h.files q hq.1

/-- A clean disk has nothing of what is gone, when all have finished. -/
theorem Clean.closedIsGone {s : CleanupState P G} (h : s.Clean) :
    s.ClosedIsGone := by
  rintro ⟨_, hclosed, hterminated⟩ p hp hgone
  have hfile := h.files p hp
  cases hremoval : s.terminated.lookup p.runtimeId with
  | some removal =>
      have hend := hterminated removal (HashMap.mem_values.mpr ⟨p.runtimeId, hremoval⟩)
      rw [pastRemoval_finished (hend ▸ hremoval)] at hfile
      cases hfile
  | none =>
      rw [Gone, hremoval] at hgone
      obtain ⟨todo, htodo⟩ := Option.isSome_iff_exists.mp (hgone.resolve_right nofun)
      obtain ⟨k, hkey, hlookup⟩ := Option.bind_eq_some_iff.mp htodo
      have hend := hclosed todo (HashMap.mem_values.mpr ⟨k, hlookup⟩)
      rw [pastRemoval_registered hremoval] at hfile
      cases p with
      | pane key file =>
          obtain rfl : key = k := Option.some.inj hkey
          rw [pastPaneRemoval, hlookup, hend] at hfile
          simp at hfile
      | _ => cases hkey

variable [VteParser P] [Vt100Parser G]

/-- The steps of a tick: only a write changes the disk. -/
theorem nextTick_frame {s s' : CleanupState P G} {a : StoringStep}
    (h : s.nextTick a = some s') :
    s'.closed = s.closed ∧ s'.terminated = s.terminated ∧
      (s'.disk = s.disk ∨
        a = .write false ∧ s'.disk = s.disk.carryOut (s.store.held .tick).next) := by
  cases a with
  | begin =>
      simp only [nextTick] at h
      split at h
      · simp only [Option.some.injEq] at h
        exact h ▸ ⟨rfl, rfl, Or.inl rfl⟩
      · cases h
  | mark =>
      simp only [nextTick] at h
      split at h
      · split at h
        · obtain ⟨store, _, rfl⟩ := Option.map_eq_some_iff.mp h
          exact ⟨rfl, rfl, Or.inl rfl⟩
        · simp only [Option.some.injEq] at h
          exact h ▸ ⟨rfl, rfl, Or.inl rfl⟩
      · cases h
  | write fails =>
      obtain ⟨store, _, rfl⟩ := Option.map_eq_some_iff.mp h
      cases fails with
      | true => exact ⟨rfl, rfl, Or.inl rfl⟩
      | false => exact ⟨rfl, rfl, Or.inr ⟨rfl, rfl⟩⟩
  | drain =>
      obtain ⟨store, _, rfl⟩ := Option.map_eq_some_iff.mp h
      exact ⟨rfl, rfl, Or.inl rfl⟩
  | drained =>
      obtain ⟨store, _, rfl⟩ := Option.map_eq_some_iff.mp h
      exact ⟨rfl, rfl, Or.inl rfl⟩
  | collect due proc now =>
      obtain ⟨store, _, rfl⟩ := Option.map_eq_some_iff.mp h
      exact ⟨rfl, rfl, Or.inl rfl⟩
  | collected =>
      obtain ⟨store, _, rfl⟩ := Option.map_eq_some_iff.mp h
      exact ⟨rfl, rfl, Or.inl rfl⟩
  | finish =>
      obtain ⟨store, _, rfl⟩ := Option.map_eq_some_iff.mp h
      exact ⟨rfl, rfl, Or.inl rfl⟩

theorem Clean.nextTick {s s' : CleanupState P G} {a : StoringStep}
    (h : s.Clean)
    (hok : s.writesInTime (.tick a) = true)
    (hnext : s.nextTick a = some s') :
    s'.Clean := by
  obtain ⟨hclosed, hterminated, hdisk | ⟨rfl, hdisk⟩⟩ := nextTick_frame hnext
  · exact h.of_same hdisk hclosed hterminated
  · refine ⟨hdisk ▸ h.dirs.carryOut _, fun p hp => ?_⟩
    rw [pastRemoval_congr (s := s) (fun _ _ => by rw [hclosed]) (by rw [hterminated])]
    -- a file that was there already is not past its removal by the invariant
    simp only [writesInTime, List.all_eq_true, Bool.or_eq_true, decide_eq_true_eq,
      Bool.not_eq_true'] at hok
    exact (hok p (hdisk ▸ hp)).elim (h.files p) id

/-- **Step lemma.** -/
theorem Clean.next {s s' : CleanupState P G} {a : CleanupStep P G}
    (h : s.Clean)
    (hok : s.writesInTime a = true)
    (hnext : s.next a = some s') :
    s'.Clean := by
  cases a with
  | live a =>
      simp only [CleanupState.next] at hnext
      split at hnext
      · obtain ⟨store, _, rfl⟩ := Option.map_eq_some_iff.mp hnext
        exact h.of_same rfl rfl rfl
      · cases hnext
  | tick a => exact h.nextTick hok hnext
  | closePane clientId k => exact h.closePane hok hnext
  | terminateWorkspace id => exact h.terminateWorkspace hnext
  | removePaneState k => exact h.removePaneState hnext
  | sweep p => exact h.sweep hnext
  | removeDir id => exact h.removeDir hnext

/-- **Run lemma.** -/
theorem ReachableUnder.clean {s : CleanupState P G}
    (h : (system P G).ReachableUnder (fun s a => s.writesInTime a = true) s) :
    s.Clean := by
  refine h.invariant ?_ (fun s a s' hI hok hnext => hI.next hok hnext)
  rintro s ⟨_, hdirs, hclosed, hterminated⟩
  refine ⟨hdirs, fun p _ => ?_⟩
  have hnone : s.terminated.lookup p.runtimeId = none := by
    rw [hterminated]
    rfl
  rw [pastRemoval_registered hnone]
  cases p with
  | pane k file =>
      rw [pastPaneRemoval, hclosed]
      rfl
  | _ => rfl

end Steps

section Results

variable {P : Type u} {G : Type v}
variable [VteParser P] [Vt100Parser G]

/-- **Closed means gone.**  When ticks write files before their removal and panes are
closed without rotated logs, nothing of what is closed is left. -/
theorem closed_is_gone {s : CleanupState P G}
    (h : (system P G).ReachableUnder (fun s a => s.writesInTime a = true) s) :
    s.ClosedIsGone :=
  (ReachableUnder.clean h).closedIsGone

end Results

section Samples

/-- One workspace with one pane, whose files exist. -/
def cleanupStart (files : List PaneFile) : CleanupState SampleParser SampleGrid where
  store := StoreState.singlePane SampleParser SampleGrid
  disk := ⟨.runtimeDir 7 :: files.map (.pane (7, 1)), fun _ => 0⟩
  closed := ∅
  terminated := ∅

theorem cleanupStart_isStart (files : List PaneFile) : (cleanupStart files).IsStart := by
  refine ⟨StoreState.singlePane_isStart _ _, fun p hp => ?_, rfl, rfl⟩
  rcases List.mem_cons.mp hp with rfl | hp
  · exact List.mem_cons_self
  · obtain ⟨file, _, rfl⟩ := List.mem_map.mp hp
    exact List.mem_cons_self

/-- A tick up to its writes, and the writes. -/
def collecting : List (CleanupStep SampleParser SampleGrid) :=
  [.tick .begin, .tick .drain, .tick .drained,
    .tick (.collect false ⟨fun _ => none, fun _ => none⟩ 0), .tick .collected]

def writing (writes : Nat) : List (CleanupStep SampleParser SampleGrid) :=
  List.replicate writes (.tick (.write false)) ++ [.tick .mark, .tick .finish]

/-- A client closes the pane, and its files are removed. -/
def closing : List (CleanupStep SampleParser SampleGrid) :=
  .closePane 9 (7, 1) :: List.replicate 4 (.removePaneState (7, 1))

/-- The pane is closed and removed, and then the workspace; a tick in between. -/
def closedInTime : List (CleanupStep SampleParser SampleGrid) :=
  collecting ++ writing 2 ++ closing ++ [.terminateWorkspace 7, .sweep (.runtimeFile 7),
    .sweep (.runtimeBak 7), .removeDir 7]

theorem closedInTime_runs :
    ((system SampleParser SampleGrid).execUnder (fun s a => s.writesInTime a)
      (cleanupStart [.scrollbackLog, .historyFile]) closedInTime).isSome = true := by
  decide +kernel

def closedInTimeEnd : CleanupState SampleParser SampleGrid :=
  ((system SampleParser SampleGrid).execUnder (fun s a => s.writesInTime a)
    (cleanupStart [.scrollbackLog, .historyFile]) closedInTime).get closedInTime_runs

theorem closed_is_gone_in_time :
    closedInTimeEnd.Finished ∧ closedInTimeEnd.disk.files = [] ∧
      closedInTimeEnd.ClosedIsGone :=
  ⟨by decide +kernel, by decide +kernel,
    closed_is_gone (System.reachableUnder_get (cleanupStart_isStart _) closedInTime_runs)⟩

/-- **Closed panes and workspaces leave files.**  The snapshot of a closed pane, the
directory of a terminated workspace, and the rotated log of a closed pane. -/
theorem closed_is_left :
    (∃ s, (system SampleParser SampleGrid).Reachable s ∧ s.Finished ∧
      .pane (7, 1) .screenSnapshot ∈ s.disk.files ∧ s.Gone (.pane (7, 1) .screenSnapshot)) ∧
    (∃ s, (system SampleParser SampleGrid).Reachable s ∧ s.Finished ∧
      .runtimeDir 7 ∈ s.disk.files ∧ s.Gone (.runtimeDir 7)) ∧
    ∃ s, (system SampleParser SampleGrid).Reachable s ∧ s.Finished ∧
      .pane (7, 1) (.rotatedLog 1) ∈ s.disk.files ∧ s.Gone (.pane (7, 1) (.rotatedLog 1)) := by
  refine ⟨?_, ?_, ?_⟩
  · -- The pane is closed after the tick has collected its snapshot.
    exact System.exists_reachable (collecting ++ closing ++ writing 2)
      (cleanupStart_isStart []) (by decide +kernel)
  · -- The workspace is terminated after the tick has collected from it.
    exact System.exists_reachable
      (collecting ++ [.terminateWorkspace 7, .removeDir 7] ++ writing 2)
      (cleanupStart_isStart []) (by decide +kernel)
  · -- The pane is closed when its log was rotated.
    exact System.exists_reachable closing (cleanupStart_isStart [.rotatedLog 1])
      (by decide +kernel)

end Samples

end CleanupState

end Server
end Rttx
