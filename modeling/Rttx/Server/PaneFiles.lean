import Rttx.Kernel.FileScripts
import Rttx.Kernel.RotatingLog
import Rttx.Server.StateCleanup

/-!
# The files of a pane

What the daemon and the shell write for a pane below the workspace's directory, with its
contents, and what the cleanup of a closed pane removes.  The scrollback log is rotated:
`log.1` is the newest of its old segments.

**Results.**
* `rotateScrollbackLog_holds`: the renames implement a rotating log.
* `rotation_keeps_suffix`: the log and its segments are the end of what was appended.
* `cleanupComplete_iff`: when the cleanup leaves nothing of a pane behind.
-/

namespace Rttx
namespace Server

open Kernel

section Names

/-- The names that are derived from a pane's id. -/
inductive PaneEntry
  /-- `screen/<pane>.snap` -/
  | screenSnapshot
  /-- `screen/<pane>.snap.tmp` -/
  | screenSnapshotTmp
  /-- `scrollback/<pane>.log` -/
  | scrollbackLog
  /-- `scrollback/<pane>.log.<i>` -/
  | rotatedLog (i : Nat)
  /-- `history/<pane>.hist` -/
  | historyFile
  /-- `shell-init/<pane>` -/
  | shellInitDir
  /-- `shell-init/<pane>/<name>` -/
  | shellInitFile (name : String)
deriving DecidableEq

/-- The shell-init directory and what is below it. -/
def PaneEntry.inShellInit : PaneEntry → Bool
  | .shellInitDir => true
  | .shellInitFile _ => true
  | _ => false

/-- The directory of a workspace, with what is kept for its panes. -/
abbrev PaneDir := Dir (Uuid × PaneEntry)

namespace PaneDir

/-- The content of a file; nothing when there is none. -/
def contentOf (d : PaneDir) (pane : Uuid) (e : PaneEntry) : Bytes :=
  (d.read (pane, e)).getD []

/-- Rename an entry over another one, if it exists. -/
def renameIfPresent (d : PaneDir) (pane : Uuid) (src dst : PaneEntry) : PaneDir :=
  match d (pane, src) with
  | none => d
  | some node => (d.set (pane, src) none).set (pane, dst) (some node)

def removeIfPresent (d : PaneDir) (pane : Uuid) (e : PaneEntry) : PaneDir :=
  d.set (pane, e) none

/-- Remove the shell-init directory of a pane with all that is below it. -/
def removeShellInit (d : PaneDir) (pane : Uuid) : PaneDir :=
  fun n => if n.1 = pane ∧ n.2.inShellInit = true then none else d n

def writeFile (d : PaneDir) (pane : Uuid) (e : PaneEntry) (data : Bytes) : PaneDir :=
  d.set (pane, e) (some (.file data))

end PaneDir

end Names

section Writers

open PaneDir

/-- Rotate a log that exceeds `maxBytes`, keeping `keep` segments.  The index of the
oldest segment wraps around like any 32-bit integer. -/
def rotateScrollbackLog (d : PaneDir) (pane : Uuid) (maxBytes : Nat) (keep : UInt32) : PaneDir :=
  if (d.contentOf pane .scrollbackLog).length ≤ maxBytes then
    d
  else
    let d := (List.range' 1 (keep.toNat - 1)).reverse.foldl
      (fun d i => d.renameIfPresent pane (.rotatedLog i) (.rotatedLog (i + 1))) d
    let d := d.removeIfPresent pane (.rotatedLog (keep + 1).toNat)
    d.renameIfPresent pane .scrollbackLog (.rotatedLog 1)

/-- Append to the log of a pane, then rotate it. -/
def writeScrollback (d : PaneDir) (pane : Uuid) (maxBytes : Nat) (keep : UInt32)
    (data : Bytes) : PaneDir :=
  rotateScrollbackLog (d.writeFile pane .scrollbackLog (d.contentOf pane .scrollbackLog ++ data))
    pane maxBytes keep

def writeScrollbackToDisk (d : PaneDir) (pane : Uuid) (data : Bytes) : PaneDir :=
  writeScrollback d pane defaultMaxScrollbackLog (.ofNat scrollbackRotateKeep) data

def saveScreenSnapshot (d : PaneDir) (pane : Uuid) (json : Bytes) : PaneDir :=
  (d.writeFile pane .screenSnapshotTmp json).renameIfPresent pane .screenSnapshotTmp
    .screenSnapshot

/-- Recognized interactive shells. -/
inductive ShellKind
  | bash
  | zsh
  | fish
  | other
deriving DecidableEq

/-- The generated init file of a shell that reads one. -/
def ShellKind.initFile : ShellKind → Option String
  | .bash => some "bashrc"
  | .zsh => some ".zshrc"
  | .fish => none
  | .other => none

/-- Generate the init file of a pane's shell, in a directory of its own. -/
def buildShellInit (d : PaneDir) (pane : Uuid) (shell : ShellKind) (noPersist : Bool)
    (contents : Bytes) : PaneDir :=
  if noPersist then
    d
  else
    match shell.initFile with
    | none => d
    | some name =>
        PaneDir.writeFile (d.set (pane, .shellInitDir) (some .folder)) pane (.shellInitFile name)
          contents

/-- Remove every durable artifact keyed on a pane. -/
def removePaneState (d : PaneDir) (pane : Uuid) : PaneDir :=
  let d := d.removeIfPresent pane .screenSnapshot
  let d := d.removeIfPresent pane .scrollbackLog
  let d := d.removeIfPresent pane .historyFile
  if d.present (pane, .shellInitDir) then d.removeShellInit pane else d

end Writers

section Rotation

open PaneDir

theorem renameIfPresent_apply (d : PaneDir) (pane : Uuid) {src dst : PaneEntry}
    (hne : src ≠ dst)
    (q : Uuid) (e : PaneEntry) :
    d.renameIfPresent pane src dst (q, e) =
      if q = pane ∧ e = dst then (d (pane, src)).or (d (pane, dst))
      else if q = pane ∧ e = src then none
      else d (q, e) := by
  unfold renameIfPresent
  cases hsrc : d (pane, src) with
  | none =>
      by_cases hdst : q = pane ∧ e = dst
      · simp [hdst.1, hdst.2]
      · by_cases hs : q = pane ∧ e = src
        · simp [hs.1, hs.2, hsrc, hne]
        · simp [hdst, hs]
  | some node =>
      by_cases hdst : q = pane ∧ e = dst
      · simp [hdst.1, hdst.2]
      · have hdst' : (q, e) ≠ (pane, dst) := fun heq => hdst (Prod.mk.inj heq)
        dsimp only
        rw [Dir.set_of_ne hdst', if_neg hdst]
        by_cases hs : q = pane ∧ e = src
        · simp [hs.1, hs.2]
        · have hs' : (q, e) ≠ (pane, src) := fun heq => hs (Prod.mk.inj heq)
          rw [Dir.set_of_ne hs', if_neg hs]

/-- The entries that rotation moves. -/
def IsRotated (pane : Uuid) (n : Uuid × PaneEntry) : Prop :=
  n.1 = pane ∧ ∃ i, n.2 = .rotatedLog i

theorem shift_other {pane : Uuid} {n : Uuid × PaneEntry}
    (hn : ¬ IsRotated pane n)
    (indices : List Nat) (d : PaneDir) :
    indices.foldl (fun d i => d.renameIfPresent pane (.rotatedLog i) (.rotatedLog (i + 1))) d n =
      d n := by
  have hfree : ∀ i, ¬ (n.1 = pane ∧ n.2 = .rotatedLog i) := fun i h => hn ⟨h.1, i, h.2⟩
  induction indices generalizing d with
  | nil => rfl
  | cons i rest ih =>
      have hne : PaneEntry.rotatedLog i ≠ .rotatedLog (i + 1) := by simp
      rw [List.foldl_cons, ih, renameIfPresent_apply d pane hne n.1 n.2, if_neg (hfree _),
        if_neg (hfree _)]

/-- Each segment takes the place of the one after it. -/
theorem shift_segments {pane : Uuid} {n : Nat} {d : PaneDir}
    (hfull : ∀ i, 0 < i → i ≤ n → d (pane, .rotatedLog i) = none →
      d (pane, .rotatedLog (i + 1)) = none)
    (i : Nat) :
    (List.range' 1 n).reverse.foldl
        (fun d i => d.renameIfPresent pane (.rotatedLog i) (.rotatedLog (i + 1))) d
        (pane, .rotatedLog i) =
      if 1 < i ∧ i ≤ n + 1 then d (pane, .rotatedLog (i - 1))
      else if i = 1 ∧ 0 < n then none
      else d (pane, .rotatedLog i) := by
  induction n generalizing d with
  | zero =>
      have hnone : ¬ (1 < i ∧ i ≤ 0 + 1) := by omega
      simp [hnone]
  | succ n ih =>
      -- the last segment is renamed first, the others by induction
      have hrange : (List.range' 1 (n + 1)).reverse = (n + 1) :: (List.range' 1 n).reverse := by
        rw [List.range'_concat, List.reverse_append, Nat.one_mul, Nat.add_comm]
        rfl
      have hne : PaneEntry.rotatedLog (n + 1) ≠ .rotatedLog (n + 1 + 1) := by simp
      have hmoved : ∀ j, d.renameIfPresent pane (.rotatedLog (n + 1)) (.rotatedLog (n + 1 + 1))
            (pane, .rotatedLog j) =
          if j = n + 2 then d (pane, .rotatedLog (n + 1))
          else if j = n + 1 then none
          else d (pane, .rotatedLog j) := by
        intro j
        rw [renameIfPresent_apply d pane hne]
        simp only [true_and, PaneEntry.rotatedLog.injEq]
        by_cases hlast : j = n + 2
        · rw [if_pos hlast, if_pos hlast]
          cases hsegment : d (pane, .rotatedLog (n + 1)) with
          | none => rw [Option.none_or, hfull (n + 1) (by omega) (by omega) hsegment]
          | some node => rfl
        · rw [if_neg hlast, if_neg hlast]
      rw [hrange, List.foldl_cons, ih ?_]
      · simp only [hmoved]
        by_cases hlast : i = n + 2
        · subst hlast
          simp
        · split_ifs <;> first | rfl | omega
      · intro j hpos hle hnone
        rw [hmoved, if_neg (by omega), if_neg (by omega)] at hnone
        rw [hmoved, if_neg (by omega)]
        split
        · rfl
        · exact hfull j hpos (by omega) hnone

/-- The log of a pane and its rotated segments, as they are on disk. -/
structure HoldsLog (d : PaneDir) (pane : Uuid) (l : RotatingLog UInt8) : Prop where
  live : d (pane, .scrollbackLog) = some (.file l.live) ∨
    d (pane, .scrollbackLog) = none ∧ l.live = []
  segments : ∀ i, d (pane, .rotatedLog (i + 1)) = l.segments[i]?.map Node.file
  unused : d (pane, .rotatedLog 0) = none

theorem contentOf_file {d : PaneDir} {pane : Uuid} {e : PaneEntry} {data : Bytes}
    (h : d (pane, e) = some (.file data)) :
    d.contentOf pane e = data := by
  have hplain : ∀ target, d (pane, e) ≠ some (.link target) := by
    intro target hlink
    rw [h] at hlink
    cases hlink
  rw [contentOf, (Dir.read_plain hplain).mpr h]
  rfl

theorem contentOf_none {d : PaneDir} {pane : Uuid} {e : PaneEntry}
    (h : d (pane, e) = none) :
    d.contentOf pane e = [] := by
  simp [contentOf, Dir.read, Dir.resolve, h]

theorem HoldsLog.contentOf {d : PaneDir} {pane : Uuid} {l : RotatingLog UInt8}
    (h : HoldsLog d pane l) :
    d.contentOf pane .scrollbackLog = l.live := by
  rcases h.live with hfile | ⟨hnone, hlive⟩
  · exact contentOf_file hfile
  · rw [contentOf_none hnone, hlive]

theorem HoldsLog.rotated {d : PaneDir} {pane : Uuid} {l : RotatingLog UInt8}
    (h : HoldsLog d pane l)
    {i : Nat}
    (hi : 0 < i) :
    d (pane, .rotatedLog i) = l.segments[i - 1]?.map Node.file := by
  rw [← h.segments, Nat.sub_add_cancel hi]

/-- The oldest index that is removed is one past the kept segments, or unused. -/
theorem oldest_index (keep : UInt32) :
    (keep + 1).toNat = keep.toNat + 1 ∨ (keep + 1).toNat = 0 := by
  have hlt := keep.toNat_lt
  rw [UInt32.toNat_add, UInt32.toNat_one]
  omega

/-- Entries outside the log of a pane are left alone. -/
theorem rotateScrollbackLog_other {pane : Uuid} {n : Uuid × PaneEntry}
    (hlog : n ≠ (pane, .scrollbackLog))
    (hn : ¬ IsRotated pane n)
    (d : PaneDir) (maxBytes : Nat) (keep : UInt32) :
    rotateScrollbackLog d pane maxBytes keep n = d n := by
  have hrotated : ∀ i, n ≠ (pane, .rotatedLog i) := by
    rintro i rfl
    exact hn ⟨rfl, i, rfl⟩
  rw [rotateScrollbackLog]
  split
  · rfl
  · rw [renameIfPresent_apply _ _ (by simp) n.1 n.2, if_neg, if_neg, removeIfPresent,
      Dir.set_of_ne (hrotated _), shift_other hn]
    · exact fun heq => hlog (Prod.ext heq.1 heq.2)
    · exact fun heq => hrotated 1 (Prod.ext heq.1 heq.2)

/-- **The renames implement a rotating log.** -/
theorem rotateScrollbackLog_holds {d : PaneDir} {pane : Uuid} {l : RotatingLog UInt8}
    {keep : UInt32}
    (hkeep : 1 ≤ keep)
    (hbounded : l.segments.length ≤ keep.toNat)
    (hlog : d (pane, .scrollbackLog) = some (.file l.live))
    (hsegments : ∀ i, d (pane, .rotatedLog (i + 1)) = l.segments[i]?.map Node.file)
    (hunused : d (pane, .rotatedLog 0) = none)
    (maxBytes : Nat) :
    HoldsLog (rotateScrollbackLog d pane maxBytes keep) pane
      (if l.live.length ≤ maxBytes then l
        else ⟨[], (l.live :: l.segments).take keep.toNat⟩) := by
  have hpos : 1 ≤ keep.toNat := UInt32.le_iff_toNat_le.mp hkeep
  rw [rotateScrollbackLog, contentOf_file hlog]
  split
  · exact ⟨Or.inl hlog, hsegments, hunused⟩
  · have hfull : ∀ i, 0 < i → i ≤ keep.toNat - 1 → d (pane, .rotatedLog i) = none →
        d (pane, .rotatedLog (i + 1)) = none := by
      intro i hi _ hnone
      obtain ⟨j, rfl⟩ := Nat.exists_eq_add_one.mpr hi
      rw [hsegments, Option.map_eq_none_iff, List.getElem?_eq_none_iff] at hnone ⊢
      omega
    have hshift := shift_segments hfull
    have hnot : ¬ IsRotated pane (pane, .scrollbackLog) := by
      rintro ⟨_, i, heq⟩
      cases heq
    have hother := shift_other hnot (List.range' 1 (keep.toNat - 1)).reverse d
    generalize (List.range' 1 (keep.toNat - 1)).reverse.foldl
      (fun d i => d.renameIfPresent pane (.rotatedLog i) (.rotatedLog (i + 1))) d = shifted
      at hshift hother
    have holdest := oldest_index keep
    have hremoved : ∀ i, shifted.removeIfPresent pane (.rotatedLog (keep + 1).toNat)
          (pane, .rotatedLog i) =
        if i = (keep + 1).toNat then none else shifted (pane, .rotatedLog i) := by
      intro i
      by_cases hi : i = (keep + 1).toNat
      · rw [if_pos hi, hi, removeIfPresent, Dir.set_self]
      · rw [if_neg hi, removeIfPresent, Dir.set_of_ne (by simpa using hi)]
    have hlive : shifted.removeIfPresent pane (.rotatedLog (keep + 1).toNat)
        (pane, .scrollbackLog) = some (.file l.live) := by
      rw [removeIfPresent, Dir.set_of_ne (by simp), hother, hlog]
    have hne : PaneEntry.scrollbackLog ≠ .rotatedLog 1 := by simp
    refine ⟨Or.inr ⟨?_, rfl⟩, ?_, ?_⟩
    · rw [renameIfPresent_apply _ _ hne]
      simp
    · intro i
      rw [renameIfPresent_apply _ _ hne]
      cases i with
      | zero =>
          obtain ⟨k, hk⟩ := Nat.exists_eq_add_of_le' hpos
          rw [if_pos ⟨rfl, rfl⟩, hlive, hk]
          rfl
      | succ i =>
          rw [if_neg (by simp), if_neg (by simp), hremoved, hshift, List.getElem?_take,
            List.getElem?_cons_succ]
          by_cases hkept : i + 1 < keep.toNat
          · rw [if_neg (by omega), if_pos (by omega), if_pos hkept]
            exact hsegments i
          · have hnone : l.segments[i + 1]? = none :=
              List.getElem?_eq_none_iff.mpr (by omega)
            rw [if_neg hkept, Option.map_none]
            split
            · rfl
            · rw [if_neg (by omega), if_neg (by omega), hsegments, hnone, Option.map_none]
    · rw [renameIfPresent_apply _ _ hne, if_neg (by simp), if_neg (by simp), hremoved, hshift]
      split
      · rfl
      · rw [if_neg (by omega), if_neg (by omega), hunused]

/-- A write appends to the rotating log. -/
theorem HoldsLog.writeScrollback {d : PaneDir} {pane : Uuid} {l : RotatingLog UInt8}
    {keep : UInt32}
    (h : HoldsLog d pane l)
    (hkeep : 1 ≤ keep)
    (hbounded : l.segments.length ≤ keep.toNat)
    (maxBytes : Nat) (data : Bytes) :
    HoldsLog (writeScrollback d pane maxBytes keep data) pane
      (l.append maxBytes keep.toNat data) := by
  rw [Server.writeScrollback, h.contentOf, RotatingLog.append]
  refine rotateScrollbackLog_holds (l := ⟨l.live ++ data, l.segments⟩) hkeep hbounded ?_ ?_ ?_
    maxBytes
  · exact Dir.set_self _ _ _
  · intro i
    rw [writeFile, Dir.set_of_ne (by simp)]
    exact h.segments i
  · rw [writeFile, Dir.set_of_ne (by simp)]
    exact h.unused

theorem HoldsLog.of_new {d : PaneDir} {pane : Uuid}
    (h : ∀ e, d (pane, e) = none) :
    HoldsLog d pane RotatingLog.empty :=
  ⟨Or.inr ⟨h _, rfl⟩, fun _ => h _, h _⟩

/-- The directory after appends to the log of a pane. -/
def writeAll (d : PaneDir) (pane : Uuid) (maxBytes : Nat) (keep : UInt32)
    (appends : List Bytes) : PaneDir :=
  appends.foldl (fun d data => writeScrollback d pane maxBytes keep data) d

theorem HoldsLog.writeAll {d : PaneDir} {pane : Uuid} {keep : UInt32}
    (h : ∀ e, d (pane, e) = none)
    (hkeep : 1 ≤ keep)
    (maxBytes : Nat) (appends : List Bytes) :
    HoldsLog (writeAll d pane maxBytes keep appends) pane
      (RotatingLog.appendAll maxBytes keep.toNat appends) := by
  induction appends using List.reverseRecOn with
  | nil => exact HoldsLog.of_new h
  | append_singleton appends data ih =>
      rw [RotatingLog.appendAll_concat, Server.writeAll, List.foldl_append]
      exact ih.writeScrollback hkeep (RotatingLog.segments_appendAll appends) maxBytes data

/-- The content of the log, from the oldest segment that may be kept to the live one. -/
def keptOutput (d : PaneDir) (pane : Uuid) (keep : UInt32) : Bytes :=
  (List.range' 1 keep.toNat).reverse.flatMap (fun i => d.contentOf pane (.rotatedLog i)) ++
    d.contentOf pane .scrollbackLog

/-- What is kept of the bytes that were appended to the log of a pane. -/
structure KeepsSuffix (d : PaneDir) (pane : Uuid) (maxBytes : Nat) (keep : UInt32)
    (appended : Bytes) : Prop where
  kept : keptOutput d pane keep <:+ appended
  segments : ∀ i, d (pane, .rotatedLog i) ≠ none → 1 ≤ i ∧ i ≤ keep.toNat
  live : (d.contentOf pane .scrollbackLog).length ≤ maxBytes

theorem HoldsLog.keptOutput {d : PaneDir} {pane : Uuid} {l : RotatingLog UInt8} {keep : UInt32}
    (h : HoldsLog d pane l)
    (hbounded : l.segments.length ≤ keep.toNat) :
    keptOutput d pane keep = l.contents := by
  have hsegment : ∀ i, d.contentOf pane (.rotatedLog (i + 1)) = l.segments[i]?.getD [] := by
    intro i
    cases hi : l.segments[i]? with
    | none => exact contentOf_none (by rw [h.segments, hi, Option.map_none])
    | some data =>
        refine contentOf_file ?_
        rw [h.segments, hi]
        rfl
  have hrange : (List.range' 1 keep.toNat).reverse.flatMap
        (fun i => d.contentOf pane (.rotatedLog i)) =
      ((List.range keep.toNat).map (fun i => l.segments[i]?.getD [])).reverse.flatten := by
    rw [← List.map_reverse, ← List.flatMap_def, List.range'_eq_map_range, ← List.map_reverse,
      List.flatMap_map]
    refine List.flatMap_congr fun i _ => ?_
    rw [Nat.add_comm, hsegment]
  rw [Server.keptOutput, hrange, h.contentOf, RotatingLog.padded_segments hbounded]
  rfl

/-- **Rotation keeps the end of what was appended**, at every limit and number of
segments. -/
theorem rotation_keeps_suffix {d : PaneDir} {pane : Uuid} {keep : UInt32}
    (hnew : ∀ e, d (pane, e) = none)
    (hkeep : 1 ≤ keep)
    (maxBytes : Nat) (appends : List Bytes) :
    KeepsSuffix (writeAll d pane maxBytes keep appends) pane maxBytes keep appends.flatten := by
  have hlog := HoldsLog.writeAll hnew hkeep maxBytes appends
  have hbounded : (RotatingLog.appendAll maxBytes keep.toNat appends).segments.length ≤
      keep.toNat := RotatingLog.segments_appendAll appends
  refine ⟨?_, ?_, ?_⟩
  · rw [hlog.keptOutput hbounded]
    exact RotatingLog.contents_appendAll appends
  · intro i hi
    cases i with
    | zero => exact absurd hlog.unused hi
    | succ i =>
        rw [hlog.segments, ne_eq, Option.map_eq_none_iff, List.getElem?_eq_none_iff] at hi
        omega
  · rw [hlog.contentOf]
    exact RotatingLog.live_appendAll appends

/-- The log of a pane after five bytes, with a limit of two and two segments. -/
theorem rotation_keeps_suffix_twoSegments :
    KeepsSuffix (writeAll (fun _ => none) 1 2 2 [[1, 2], [3], [4, 5]]) 1 2 2 [1, 2, 3, 4, 5] :=
  rotation_keeps_suffix (fun _ => rfl) (by decide) 2 [[1, 2], [3], [4, 5]]

end Rotation

section Cleanup

open PaneDir

/-- What is written for a pane.  A save of the snapshot that is interrupted between its
write and its rename leaves the temporary file. -/
inductive PaneWrite
  | scrollback (data : Bytes)
  | snapshot (json : Bytes)
  | interruptedSnapshot (json : Bytes)
  | shellInit (shell : ShellKind) (noPersist : Bool) (contents : Bytes)
  | history (contents : Bytes)
deriving DecidableEq

def PaneWrite.perform (d : PaneDir) (pane : Uuid) : PaneWrite → PaneDir
  | .scrollback data => writeScrollbackToDisk d pane data
  | .snapshot json => saveScreenSnapshot d pane json
  | .interruptedSnapshot json => d.writeFile pane .screenSnapshotTmp json
  | .shellInit shell noPersist contents => buildShellInit d pane shell noPersist contents
  | .history contents => d.writeFile pane .historyFile contents

def performAll (d : PaneDir) (pane : Uuid) (writes : List PaneWrite) : PaneDir :=
  writes.foldl (fun d w => w.perform d pane) d

/-- What is appended to the log. -/
def PaneWrite.appended : PaneWrite → Option Bytes
  | .scrollback data => some data
  | _ => none

/-- Whether a snapshot save is left interrupted. -/
def PaneWrite.interrupts (left : Bool) : PaneWrite → Bool
  | .snapshot _ => false
  | .interruptedSnapshot _ => true
  | _ => left

/-- Whether the last snapshot save was interrupted. -/
def leftInterrupted (writes : List PaneWrite) : Bool :=
  writes.foldl PaneWrite.interrupts false

/-- Init files are in their directory. -/
def ShellInitWhole (d : PaneDir) (pane : Uuid) : Prop :=
  d (pane, .shellInitDir) = some .folder ∨
    d (pane, .shellInitDir) = none ∧ ∀ name, d (pane, .shellInitFile name) = none

/-- What the writes for a pane leave behind. -/
structure PaneWritten (d : PaneDir) (pane : Uuid) (writes : List PaneWrite) : Prop where
  log : HoldsLog d pane (RotatingLog.appendAll defaultMaxScrollbackLog scrollbackRotateKeep
    (writes.filterMap PaneWrite.appended))
  tmp : d (pane, .screenSnapshotTmp) = none ↔ leftInterrupted writes = false
  init : ShellInitWhole d pane

/-- The log is what its own entries make it. -/
theorem HoldsLog.congr {d d' : PaneDir} {pane : Uuid} {l : RotatingLog UInt8}
    (h : HoldsLog d pane l)
    (hlog : d' (pane, .scrollbackLog) = d (pane, .scrollbackLog))
    (hrotated : ∀ i, d' (pane, .rotatedLog i) = d (pane, .rotatedLog i)) :
    HoldsLog d' pane l := by
  refine ⟨?_, fun i => ?_, ?_⟩
  · rw [hlog]
    exact h.live
  · rw [hrotated]
    exact h.segments i
  · rw [hrotated]
    exact h.unused

theorem writeScrollbackToDisk_other {pane : Uuid} {n : Uuid × PaneEntry}
    (hlog : n ≠ (pane, .scrollbackLog))
    (hn : ¬ IsRotated pane n)
    (d : PaneDir) (data : Bytes) :
    writeScrollbackToDisk d pane data n = d n := by
  rw [writeScrollbackToDisk, writeScrollback, rotateScrollbackLog_other hlog hn, writeFile,
    Dir.set_of_ne hlog]

/-- A save goes through the temporary file, which is gone afterwards. -/
theorem saveScreenSnapshot_apply (d : PaneDir) (pane q : Uuid) (json : Bytes) (e : PaneEntry) :
    saveScreenSnapshot d pane json (q, e) =
      if q = pane ∧ e = .screenSnapshot then some (.file json)
      else if q = pane ∧ e = .screenSnapshotTmp then none
      else d (q, e) := by
  rw [saveScreenSnapshot, renameIfPresent_apply _ _ (by simp), writeFile, Dir.set_self]
  by_cases htmp : q = pane ∧ e = .screenSnapshotTmp
  · obtain ⟨rfl, rfl⟩ := htmp
    simp
  · have hne : (q, e) ≠ (pane, .screenSnapshotTmp) := fun heq => htmp (Prod.mk.inj heq)
    rw [Dir.set_of_ne hne]
    rfl

/-- Init files come with their directory, and nothing else changes. -/
theorem buildShellInit_other {pane : Uuid} {n : Uuid × PaneEntry}
    (hdir : n ≠ (pane, .shellInitDir))
    (hfile : ∀ name, n ≠ (pane, .shellInitFile name))
    (d : PaneDir) (shell : ShellKind) (noPersist : Bool) (contents : Bytes) :
    buildShellInit d pane shell noPersist contents n = d n := by
  unfold buildShellInit
  split
  · rfl
  · cases shell.initFile with
    | none => rfl
    | some name =>
        dsimp only
        rw [writeFile, Dir.set_of_ne (hfile _), Dir.set_of_ne hdir]

theorem ShellInitWhole.build {d : PaneDir} {pane : Uuid}
    (h : ShellInitWhole d pane)
    (shell : ShellKind) (noPersist : Bool) (contents : Bytes) :
    ShellInitWhole (buildShellInit d pane shell noPersist contents) pane := by
  unfold buildShellInit
  split
  · exact h
  · cases shell.initFile with
    | none => exact h
    | some name =>
        left
        dsimp only
        rw [writeFile, Dir.set_of_ne (by simp), Dir.set_self]

theorem ShellInitWhole.congr {d d' : PaneDir} {pane : Uuid}
    (h : ShellInitWhole d pane)
    (hdir : d' (pane, .shellInitDir) = d (pane, .shellInitDir))
    (hfiles : ∀ name, d' (pane, .shellInitFile name) = d (pane, .shellInitFile name)) :
    ShellInitWhole d' pane := by
  rw [ShellInitWhole, hdir]
  simp only [hfiles]
  exact h

theorem isRotated_iff {pane : Uuid} {e : PaneEntry} :
    IsRotated pane (pane, e) ↔ ∃ i, e = .rotatedLog i :=
  and_iff_right rfl

/-- **Step lemma.** What a write for the pane adds. -/
theorem PaneWritten.perform {d : PaneDir} {pane : Uuid} {writes : List PaneWrite}
    (h : PaneWritten d pane writes)
    (w : PaneWrite) :
    PaneWritten (w.perform d pane) pane (writes ++ [w]) := by
  have hleft : leftInterrupted (writes ++ [w]) = w.interrupts (leftInterrupted writes) := by
    rw [leftInterrupted, List.foldl_append]
    rfl
  have hlog : ∀ {d' : PaneDir}, w.appended = none →
      d' (pane, .scrollbackLog) = d (pane, .scrollbackLog) →
      (∀ i, d' (pane, .rotatedLog i) = d (pane, .rotatedLog i)) →
      HoldsLog d' pane (RotatingLog.appendAll defaultMaxScrollbackLog scrollbackRotateKeep
        ((writes ++ [w]).filterMap PaneWrite.appended)) := by
    intro d' hnone hlive hrotated
    rw [List.filterMap_append, List.filterMap_cons_none hnone, List.filterMap_nil, List.append_nil]
    exact h.log.congr hlive hrotated
  cases w with
  | scrollback data =>
      have hother : ∀ e, e ≠ .scrollbackLog → (∀ i, e ≠ .rotatedLog i) →
          writeScrollbackToDisk d pane data (pane, e) = d (pane, e) := by
        intro e hlive hrotated
        refine writeScrollbackToDisk_other (by simpa using hlive) ?_ d data
        rw [isRotated_iff]
        exact fun ⟨i, hi⟩ => hrotated i hi
      refine ⟨?_, ?_, ?_⟩
      · have happended : (writes ++ [PaneWrite.scrollback data]).filterMap PaneWrite.appended =
            writes.filterMap PaneWrite.appended ++ [data] := by
          rw [List.filterMap_append]
          rfl
        rw [happended, RotatingLog.appendAll_concat]
        exact h.log.writeScrollback (by decide) (RotatingLog.segments_appendAll _)
          defaultMaxScrollbackLog data
      · rw [hleft, PaneWrite.perform, hother _ (by simp) (by simp)]
        exact h.tmp
      · exact h.init.congr (hother _ (by simp) (by simp)) fun _ => hother _ (by simp) (by simp)
  | snapshot json =>
      have hother : ∀ e, e ≠ .screenSnapshot → e ≠ .screenSnapshotTmp →
          saveScreenSnapshot d pane json (pane, e) = d (pane, e) := by
        intro e hsnap htmp
        rw [saveScreenSnapshot_apply, if_neg (by simpa using hsnap), if_neg (by simpa using htmp)]
      refine ⟨hlog rfl (hother _ (by simp) (by simp)) (fun i => hother _ (by simp) (by simp)),
        ?_, ?_⟩
      · rw [hleft, PaneWrite.perform, saveScreenSnapshot_apply]
        simp [PaneWrite.interrupts]
      · exact h.init.congr (hother _ (by simp) (by simp)) fun _ => hother _ (by simp) (by simp)
  | interruptedSnapshot json =>
      have hother : ∀ e, e ≠ .screenSnapshotTmp →
          d.writeFile pane .screenSnapshotTmp json (pane, e) = d (pane, e) := by
        intro e htmp
        rw [writeFile, Dir.set_of_ne (by simpa using htmp)]
      refine ⟨hlog rfl (hother _ (by simp)) (fun i => hother _ (by simp)), ?_, ?_⟩
      · rw [hleft, PaneWrite.perform, writeFile, Dir.set_self]
        simp [PaneWrite.interrupts]
      · exact h.init.congr (hother _ (by simp)) fun _ => hother _ (by simp)
  | shellInit shell noPersist contents =>
      have hother : ∀ e, e ≠ .shellInitDir → (∀ name, e ≠ .shellInitFile name) →
          buildShellInit d pane shell noPersist contents (pane, e) = d (pane, e) := by
        intro e hdir hfile
        exact buildShellInit_other (by simpa using hdir) (by simpa using hfile) d shell noPersist
          contents
      refine ⟨hlog rfl (hother _ (by simp) (by simp)) (fun i => hother _ (by simp) (by simp)),
        ?_, h.init.build shell noPersist contents⟩
      rw [hleft, PaneWrite.perform, hother _ (by simp) (by simp)]
      exact h.tmp
  | history contents =>
      have hother : ∀ e, e ≠ .historyFile →
          d.writeFile pane .historyFile contents (pane, e) = d (pane, e) := by
        intro e hhist
        rw [writeFile, Dir.set_of_ne (by simpa using hhist)]
      refine ⟨hlog rfl (hother _ (by simp)) (fun i => hother _ (by simp)), ?_, ?_⟩
      · rw [hleft, PaneWrite.perform, hother _ (by simp)]
        exact h.tmp
      · exact h.init.congr (hother _ (by simp)) fun _ => hother _ (by simp)

/-- **Run lemma.** What the writes for a new pane leave behind. -/
theorem paneWritten {d : PaneDir} {pane : Uuid}
    (hnew : ∀ e, d (pane, e) = none)
    (writes : List PaneWrite) :
    PaneWritten (performAll d pane writes) pane writes := by
  induction writes using List.reverseRecOn with
  | nil => exact ⟨HoldsLog.of_new hnew, by simp [performAll, hnew, leftInterrupted],
      Or.inr ⟨hnew _, fun _ => hnew _⟩⟩
  | append_singleton writes w ih =>
      rw [performAll, List.foldl_append]
      exact ih.perform w

theorem removeIfPresent_apply (d : PaneDir) (pane q : Uuid) (e e' : PaneEntry) :
    d.removeIfPresent pane e (q, e') = if q = pane ∧ e' = e then none else d (q, e') := by
  by_cases h : q = pane ∧ e' = e
  · rw [if_pos h, h.1, h.2, removeIfPresent, Dir.set_self]
  · rw [if_neg h, removeIfPresent, Dir.set_of_ne (fun heq => h (Prod.mk.inj heq))]

/-- What the cleanup of a pane does not look for. -/
def PaneEntry.outlives : PaneEntry → Bool
  | .screenSnapshotTmp => true
  | .rotatedLog _ => true
  | _ => false

/-- What the cleanup leaves, when the shell-init directory is whole. -/
theorem removePaneState_apply {d : PaneDir} {pane : Uuid}
    (h : ShellInitWhole d pane)
    (q : Uuid) (e : PaneEntry) :
    removePaneState d pane (q, e) =
      if q = pane ∧ e.outlives = false then none else d (q, e) := by
  have hdir : ((d.removeIfPresent pane .screenSnapshot).removeIfPresent pane
      .scrollbackLog).removeIfPresent pane .historyFile (pane, .shellInitDir) =
        d (pane, .shellInitDir) := by
    simp [removeIfPresent_apply]
  rw [removePaneState]
  by_cases hq : q = pane
  · subst hq
    rcases h with hfolder | ⟨hnone, hfiles⟩
    · rw [if_pos (by simp [Dir.present, Dir.resolve, hdir, hfolder])]
      cases e <;> simp [removeShellInit, removeIfPresent_apply, PaneEntry.inShellInit,
        PaneEntry.outlives]
    · rw [if_neg (by simp [Dir.present, Dir.resolve, hdir, hnone])]
      cases e <;> simp [removeIfPresent_apply, PaneEntry.outlives, hnone, hfiles]
  · split <;> simp [removeShellInit, removeIfPresent_apply, hq]

/-- What a cleanup is for: nothing of the pane remains, and the files of other panes
do. -/
structure CleanupComplete (d d' : PaneDir) (pane : Uuid) : Prop where
  gone : ∀ e, d' (pane, e) = none
  others : ∀ q e, q ≠ pane → d' (q, e) = d (q, e)

/-- The writes for a pane that its cleanup undoes: no log is rotated, as all that was
appended fits in one, and no snapshot save was interrupted for good. -/
structure Cleanable (writes : List PaneWrite) : Prop where
  fits : (writes.filterMap PaneWrite.appended).flatten.length ≤ defaultMaxScrollbackLog
  finished : leftInterrupted writes = false

/-- No segment of the log is there exactly when all that was appended fits. -/
theorem PaneWritten.rotated_iff {d : PaneDir} {pane : Uuid} {writes : List PaneWrite}
    (h : PaneWritten d pane writes) :
    (∀ i, d (pane, .rotatedLog i) = none) ↔
      (writes.filterMap PaneWrite.appended).flatten.length ≤ defaultMaxScrollbackLog := by
  have hsegments : (RotatingLog.appendAll defaultMaxScrollbackLog scrollbackRotateKeep
      (writes.filterMap PaneWrite.appended)).segments = [] ↔ _ :=
    RotatingLog.appendAll_segments_eq_nil_iff (by decide) _
  rw [← hsegments]
  constructor
  · intro hnone
    have hfirst := hnone 1
    rw [h.log.segments 0, Option.map_eq_none_iff, List.getElem?_eq_none_iff] at hfirst
    exact List.eq_nil_of_length_eq_zero (Nat.le_zero.mp hfirst)
  · intro hnil i
    cases i with
    | zero => exact h.log.unused
    | succ i => rw [h.log.segments, hnil, List.getElem?_nil, Option.map_none]

/-- What a complete cleanup had to undo. -/
theorem CleanupComplete.cleanable {d : PaneDir} {pane : Uuid} {writes : List PaneWrite}
    (h : CleanupComplete d (removePaneState d pane) pane)
    (hwritten : PaneWritten d pane writes) :
    Cleanable writes := by
  have hkept : ∀ e, e.outlives = true → d (pane, e) = none := by
    intro e houtlives
    rw [← h.gone e, removePaneState_apply hwritten.init, if_neg (by simp [houtlives])]
  exact ⟨hwritten.rotated_iff.mp fun _ => hkept _ rfl, hwritten.tmp.mp (hkept _ rfl)⟩

/-- **When the cleanup of a pane is complete.** -/
theorem cleanupComplete_iff {d : PaneDir} {pane : Uuid}
    (hnew : ∀ e, d (pane, e) = none)
    (writes : List PaneWrite) :
    CleanupComplete (performAll d pane writes)
        (removePaneState (performAll d pane writes) pane) pane ↔
      Cleanable writes := by
  have hwritten := paneWritten hnew writes
  constructor
  · exact fun h => h.cleanable hwritten
  · rintro ⟨hfits, hfinished⟩
    have happly := removePaneState_apply hwritten.init
    have hrotated := hwritten.rotated_iff.mpr hfits
    have htmp := hwritten.tmp.mpr hfinished
    refine ⟨fun e => ?_, fun q e hq => ?_⟩
    · rw [happly]
      split
      · rfl
      · next hleft =>
          cases e with
          | screenSnapshotTmp => exact htmp
          | rotatedLog i => exact hrotated i
          | _ => exact absurd ⟨rfl, rfl⟩ hleft
    · rw [happly, if_neg fun heq => hq heq.1]

/-- The cleanup of a pane with a short log, a snapshot and a bash. -/
theorem cleanupComplete_iff_shortLog :
    CleanupComplete
        (performAll (fun _ => none) 1
          [.scrollback [0x61], .snapshot [0x7b, 0x7d], .shellInit .bash false [0x23]])
        (removePaneState (performAll (fun _ => none) 1
          [.scrollback [0x61], .snapshot [0x7b, 0x7d], .shellInit .bash false [0x23]]) 1) 1 :=
  (cleanupComplete_iff (fun _ => rfl) _).mpr ⟨by decide, rfl⟩

/-- **What a cleanup leaves behind**: the rotated segment of a long log, and the temporary
file of an interrupted snapshot save. -/
theorem cleanup_leaves_files :
    ¬ CleanupComplete
        (performAll (fun _ => none) 1
          [.scrollback (List.replicate (defaultMaxScrollbackLog + 1) 0x61)])
        (removePaneState (performAll (fun _ => none) 1
          [.scrollback (List.replicate (defaultMaxScrollbackLog + 1) 0x61)]) 1) 1 ∧
      ¬ CleanupComplete (performAll (fun _ => none) 1 [.interruptedSnapshot [0x7b]])
          (removePaneState (performAll (fun _ => none) 1 [.interruptedSnapshot [0x7b]]) 1) 1 := by
  constructor
  · intro h
    have hfits := (h.cleanable (paneWritten (fun _ => rfl) _)).fits
    simp only [List.filterMap_cons, PaneWrite.appended, List.filterMap_nil, List.flatten_cons,
      List.flatten_nil, List.append_nil, List.length_replicate] at hfits
    exact Nat.not_succ_le_self _ hfits
  · intro h
    have hfinished := (h.cleanable (paneWritten (fun _ => rfl) _)).finished
    cases hfinished

end Cleanup

end Server
end Rttx
