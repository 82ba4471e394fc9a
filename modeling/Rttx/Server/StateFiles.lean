import Rttx.Kernel.FileScripts
import Rttx.Server.WorkspaceFile

/-!
# The daemon's state files

A state file is written next to the live one and renamed onto it; the live file is
copied to `.prev` before, and the `.bak` link leads there.  A document is looked for
in the live file and then behind the link.

**Results.**
* `Placed.leaves`: a write never makes a link of a file.
* `left_by_write`: what a crash in a write may leave.
* `write_survives_iff`: the document survives every crash if and only if the live file
  that is copied over the backup is itself a document.
-/

namespace Rttx
namespace Server

open Kernel

section Files

/-- The names a state file is kept under. -/
inductive StateFile
  | live
  | tmp
  | prev
  | bak
deriving DecidableEq

abbrev StateDir := Dir StateFile

/-- Write `content` to the state file with a backup. -/
def writeWithBackup (content : Bytes) : Script StateFile :=
  .must (.write .tmp content)
    (.mustIf .live (.copy .live .prev)
      (.may (.remove .bak)
        (.must (.symlink .prev .bak)
          (.must (.rename .tmp .live) .done))))

/-- The file behind the `.bak` link, or `.prev`. -/
def resolveBackupPath (d : StateDir) : StateFile :=
  match d .bak with
  | some (.link target) => target
  | _ => .prev

/-- A file that is there and not empty. -/
def readFilled (d : StateDir) (n : StateFile) : Option Bytes :=
  (d.read n).filter fun content => !content.isEmpty

def readPrimary (d : StateDir) : Option Bytes :=
  readFilled d .live

def readBackup (d : StateDir) : Option Bytes :=
  readFilled d (resolveBackupPath d)

end Files

section Loading

/-- The JSON reader for documents `D`, over the bytes of a file.  An empty text is no
JSON. -/
class StateJson (D : Type) where
  peekSchemaVersion : Bytes → Option Nat
  fromStr : Bytes → Option D
  peek_nil : peekSchemaVersion [] = none

def daemonIndexSchemaVersion : Nat := 1

variable {D : Type} [StateJson D]

open StateJson

/-- Read a daemon index of the only version there is. -/
def loadDaemonIndex (json : Bytes) : Option D :=
  (peekSchemaVersion D json).bind fun version =>
    if version = daemonIndexSchemaVersion then fromStr json else none

/-- The daemon index, from the backup where the live file is none. -/
def loadDaemonIndexWithFallback (d : StateDir) : Option D :=
  match (readPrimary d).bind loadDaemonIndex with
  | some index => some index
  | none => (readBackup d).bind loadDaemonIndex

/-- Outcome of loading a workspace file. -/
inductive WorkspaceLoad (D : Type)
  | loaded (file : D)
  | corrupt
  | notFound

/-- Only the current schema loads. -/
def classifyWorkspaceJson (json : Bytes) : WorkspaceLoad D :=
  match peekSchemaVersion D json with
  | none => .corrupt
  | some version =>
      if version = runtimeFileSchemaVersion then
        match fromStr json with
        | some file => .loaded file
        | none => .corrupt
      else
        .corrupt

/-- A workspace file, from the backup where the live file is corrupt or missing. -/
def loadWorkspace (d : StateDir) : WorkspaceLoad D :=
  let fallback :=
    match readBackup d with
    | some json => classifyWorkspaceJson json
    | none => .notFound
  match readPrimary d with
  | none => fallback
  | some json =>
      match classifyWorkspaceJson json with
      | .corrupt => fallback
      | recognized => recognized

/-- The kinds of state files that are written with a backup. -/
inductive StateFileKind
  | daemonIndex
  | workspace
deriving DecidableEq

namespace StateFileKind

def schemaVersion : StateFileKind → Nat
  | .daemonIndex => daemonIndexSchemaVersion
  | .workspace => runtimeFileSchemaVersion

/-- The document of a file's content. -/
def parse (kind : StateFileKind) (json : Bytes) : Option D :=
  (peekSchemaVersion D json).bind fun version =>
    if version = kind.schemaVersion then fromStr json else none

/-- What the loader finds. -/
def load (kind : StateFileKind) (d : StateDir) : Option D :=
  match kind with
  | .daemonIndex => loadDaemonIndexWithFallback d
  | .workspace =>
      match loadWorkspace d with
      | .loaded file => some file
      | _ => none

theorem classify_eq (json : Bytes) :
    (classifyWorkspaceJson json : WorkspaceLoad D) =
      match workspace.parse json with
      | some file => .loaded file
      | none => .corrupt := by
  rw [classifyWorkspaceJson, parse]
  cases peekSchemaVersion D json with
  | none => rfl
  | some version =>
      have hschema : workspace.schemaVersion = runtimeFileSchemaVersion := rfl
      simp only [Option.bind_some, hschema]
      by_cases hversion : version = runtimeFileSchemaVersion
      · simp only [if_pos hversion]
      · simp only [if_neg hversion]

/-- Either loader looks in the live file and then in the backup. -/
theorem load_eq (kind : StateFileKind) (d : StateDir) :
    (kind.load d : Option D) =
      ((readPrimary d).bind kind.parse).or ((readBackup d).bind kind.parse) := by
  cases kind with
  | daemonIndex =>
      change loadDaemonIndexWithFallback d = _
      rw [loadDaemonIndexWithFallback]
      change _ = ((readPrimary d).bind loadDaemonIndex).or ((readBackup d).bind loadDaemonIndex)
      cases (readPrimary d).bind (loadDaemonIndex (D := D)) <;> rfl
  | workspace =>
      rw [load, loadWorkspace]
      cases readPrimary d with
      | none =>
          cases readBackup d with
          | none => rfl
          | some json =>
              simp only [classify_eq, Option.bind_none, Option.bind_some, Option.none_or]
              generalize (workspace.parse json : Option D) = parsed
              cases parsed <;> rfl
      | some json =>
          simp only [classify_eq, Option.bind_some]
          generalize (workspace.parse json : Option D) = parsed
          cases parsed with
          | some file => rfl
          | none =>
              cases readBackup d with
              | none => rfl
              | some json =>
                  simp only [Option.bind_some, Option.none_or]
                  generalize (workspace.parse json : Option D) = parsed
                  cases parsed <;> rfl

theorem parse_nil (kind : StateFileKind) : kind.parse (D := D) [] = none := by
  rw [parse, peek_nil]
  rfl

/-- An empty file is no document. -/
theorem readFilled_bind (kind : StateFileKind) (d : StateDir) (n : StateFile) :
    (readFilled d n).bind (kind.parse (D := D)) = (d.read n).bind kind.parse := by
  rw [readFilled]
  cases d.read n with
  | none => rfl
  | some content =>
      cases content with
      | nil => exact (kind.parse_nil (D := D)).symm
      | cons b rest => rfl

end StateFileKind

end Loading

section Crashes

/-- A state directory as writes leave it: the only link is `.bak`, and it leads to
`.prev`. -/
structure Placed (d : StateDir) : Prop where
  live_plain : ∀ target, d .live ≠ some (.link target)
  tmp_plain : ∀ target, d .tmp ≠ some (.link target)
  prev_plain : ∀ target, d .prev ≠ some (.link target)
  bak_link : ∀ target, d .bak = some (.link target) → target = .prev

theorem Placed.set_file {d : StateDir}
    (h : Placed d)
    (n : StateFile)
    (hn : n ≠ .bak)
    (data : Bytes) :
    Placed (d.set n (some (.file data))) := by
  have hplain : ∀ m, (∀ target, d m ≠ some (.link target)) →
      ∀ target, d.set n (some (.file data)) m ≠ some (.link target) := by
    intro m hm target
    by_cases hmn : m = n
    · subst hmn
      rw [Dir.set_self]
      nofun
    · rw [Dir.set_of_ne hmn]
      exact hm target
  constructor
  · exact hplain .live h.live_plain
  · exact hplain .tmp h.tmp_plain
  · exact hplain .prev h.prev_plain
  · intro target hlink
    rw [Dir.set_of_ne hn.symm] at hlink
    exact h.bak_link target hlink

/-- The backup of a directory as writes leave it is `.prev`. -/
theorem Placed.resolveBackupPath {d : StateDir}
    (h : Placed d) :
    Server.resolveBackupPath d = .prev := by
  rw [Server.resolveBackupPath]
  split
  · rename_i target hlink
    exact h.bak_link target hlink
  · rfl

/-- The live file of a state in the middle of a write is the old one or the new one;
the backup is the old one or a first part of the live file. -/
inductive LeftByWrite (d : StateDir) (content : Bytes) : StateDir → Prop
  | before {c : StateDir} :
      c .live = d .live →
      c .prev = d .prev →
      LeftByWrite d content c
  | copied {c : StateDir} {data : Bytes} (k : Nat) :
      c .live = some (.file data) →
      d .live = some (.file data) →
      d .tmp ≠ some .folder →
      c .prev = some (.file (data.take k)) →
      LeftByWrite d content c
  | after {c : StateDir} :
      c .live = some (.file content) →
      LeftByWrite d content c

/-- The operations after the copy. -/
def publish : Script StateFile :=
  .may (.remove .bak) (.must (.symlink .prev .bak) (.must (.rename .tmp .live) .done))

/-- They leave the old live file or the new one. -/
theorem left_by_publish {e c : StateDir} {content : Bytes}
    (hplaced : Placed e)
    (htmp : e .tmp = some (.file content))
    (h : publish.Leaves e c) :
    Placed c ∧ ((c .live = e .live ∧ c .prev = e .prev) ∨ c .live = some (.file content)) := by
  have hinv : Placed c ∧
      ((c .live = e .live ∧ c .prev = e .prev ∧ c .tmp = some (.file content)) ∨
        (c .live = some (.file content) ∧ c .tmp = none)) := by
    refine h.invariant (P := fun c => Placed c ∧
      ((c .live = e .live ∧ c .prev = e .prev ∧ c .tmp = some (.file content)) ∨
        (c .live = some (.file content) ∧ c .tmp = none))) ?_ ?_
      ⟨hplaced, Or.inl ⟨rfl, rfl, htmp⟩⟩
    · have hbak : ∀ (d : StateDir) (node : Option (Node StateFile)),
          (∀ target, node = some (.link target) → target = .prev) →
          (Placed d ∧ ((d .live = e .live ∧ d .prev = e .prev ∧ d .tmp = some (.file content)) ∨
            (d .live = some (.file content) ∧ d .tmp = none))) →
          Placed (d.set .bak node) ∧
            ((d.set .bak node .live = e .live ∧ d.set .bak node .prev = e .prev ∧
                d.set .bak node .tmp = some (.file content)) ∨
              (d.set .bak node .live = some (.file content) ∧ d.set .bak node .tmp = none)) := by
        rintro d node hnode ⟨hd, hcases⟩
        refine ⟨⟨hd.live_plain, hd.tmp_plain, hd.prev_plain, ?_⟩, hcases⟩
        intro target hlink
        rw [Dir.set_self] at hlink
        exact hnode target hlink
      intro op hop d d' hd happly
      simp only [publish, Script.ops, List.mem_cons, List.not_mem_nil, or_false] at hop
      rcases hop with rfl | rfl | rfl
      · rw [FileOp.remove_eq_some happly]
        exact hbak d none (fun _ hlink => absurd hlink.symm (Option.some_ne_none _)) hd
      · have hset : d' = d.set .bak (some (.link .prev)) := by
          simp only [FileOp.apply] at happly
          split at happly
          · exact (Option.some.inj happly).symm
          · cases happly
        rw [hset]
        refine hbak d _ ?_ hd
        rintro target hlink
        injection Option.some.inj hlink with htarget
        exact htarget.symm
      · obtain ⟨hd, ⟨_, _, hcontent⟩ | ⟨_, hnone⟩⟩ := hd
        · simp only [FileOp.apply, hcontent, Option.bind_some] at happly
          split at happly
          · cases happly
          · rw [← Option.some.inj happly]
            refine ⟨?_, Or.inr ⟨Dir.set_self _ _ _, ?_⟩⟩
            · constructor
              · intro target hlink
                rw [Dir.set_self] at hlink
                cases hlink
              · intro target hlink
                rw [Dir.set_of_ne (by decide), Dir.set_self] at hlink
                cases hlink
              · exact hd.prev_plain
              · exact hd.bak_link
            · rw [Dir.set_of_ne (by decide), Dir.set_self]
        · simp only [FileOp.apply, hnone, Option.bind_none] at happly
          cases happly
    · intro op hop d c _ htorn
      simp only [publish, Script.ops, List.mem_cons, List.not_mem_nil, or_false] at hop
      rcases hop with rfl | rfl | rfl <;> exact htorn.elim
  obtain ⟨hc, ⟨hlive, hprev, _⟩ | ⟨hlive, _⟩⟩ := hinv
  · exact ⟨hc, Or.inl ⟨hlive, hprev⟩⟩
  · exact ⟨hc, Or.inr hlive⟩

/-- **What a crash in a write may leave.** -/
theorem left_by_write {d c : StateDir} {content : Bytes}
    (hplaced : Placed d)
    (h : (writeWithBackup content).Leaves d c) :
    Placed c ∧ LeftByWrite d content c := by
  have hset : ∀ data, Placed (d.set .tmp (some (.file data))) :=
    fun data => hplaced.set_file .tmp (by decide) data
  rcases h with rfl | ⟨k, hwrite⟩ | ⟨d₁, hwrite, h⟩
  · exact ⟨hplaced, .before rfl rfl⟩
  · rw [FileOp.writeFile_plain hplaced.tmp_plain hwrite]
    exact ⟨hset _, .before rfl rfl⟩
  · have htmp : d .tmp ≠ some .folder := by
      have hnot := FileOp.writeFile_not_folder hwrite
      rwa [Dir.resolve_plain hplaced.tmp_plain] at hnot
    obtain rfl := FileOp.writeFile_plain hplaced.tmp_plain hwrite
    have hplaced₁ := hset content
    have hread : ∀ data, (d.set .tmp (some (.file content))).read .live = some data →
        d .live = some (.file data) := by
      intro data hdata
      rw [Dir.read, Dir.resolve_plain hplaced₁.live_plain, Dir.set_of_ne (by decide)] at hdata
      split at hdata
      · rename_i found hfound
        rw [hfound, Option.some.inj hdata]
      · cases hdata
    rw [Script.Leaves] at h
    split at h
    · rcases h with rfl | ⟨data, k, hdata, hcopy⟩ | ⟨d₂, hcopy, h⟩
      · exact ⟨hplaced₁, .before rfl rfl⟩
      · obtain rfl := FileOp.writeFile_plain hplaced₁.prev_plain hcopy
        exact ⟨hplaced₁.set_file .prev (by decide) _,
          .copied k (hread data hdata) (hread data hdata) htmp rfl⟩
      · obtain ⟨data, hdata, hcopy⟩ := Option.bind_eq_some_iff.mp hcopy
        obtain rfl := FileOp.writeFile_plain hplaced₁.prev_plain hcopy
        have hplaced₂ := hplaced₁.set_file .prev (by decide) data
        obtain ⟨hc, ⟨hlive, hprev⟩ | hlive⟩ := left_by_publish hplaced₂ rfl h
        · refine ⟨hc, .copied data.length (hlive.trans (hread data hdata)) (hread data hdata) htmp
            ?_⟩
          rw [hprev, List.take_length]
          rfl
        · exact ⟨hc, .after hlive⟩
    · obtain ⟨hc, ⟨hlive, hprev⟩ | hlive⟩ := left_by_publish hplaced₁ rfl h
      · exact ⟨hc, .before hlive hprev⟩
      · exact ⟨hc, .after hlive⟩

end Crashes

section Survival

variable {D : Type} [StateJson D]

/-- A document is found in the live file or else in `.prev`. -/
theorem Placed.load {d : StateDir}
    (h : Placed d)
    (kind : StateFileKind) :
    (kind.load d : Option D) =
      ((d.read .live).bind kind.parse).or ((d.read .prev).bind kind.parse) := by
  rw [kind.load_eq, readPrimary, readBackup, h.resolveBackupPath, kind.readFilled_bind,
    kind.readFilled_bind]

/-- `text` is one of the copies that the directory keeps. -/
def Copy (d : StateDir) (text : Bytes) : Prop :=
  d.read .live = some text ∨ d.read .prev = some text

/-- One of the copies is a document. -/
def HoldsDocument (D : Type) [StateJson D] (kind : StateFileKind) (d : StateDir) : Prop :=
  ∃ text, Copy d text ∧ (kind.parse text : Option D).isSome

/-- Whatever a crash in the write leaves, the loader finds the new document or one
that was there before. -/
def Survives (D : Type) [StateJson D] (kind : StateFileKind) (d : StateDir) (content : Bytes) :
    Prop :=
  ∀ c, (writeWithBackup content).Leaves d c →
    ∃ text, ∃ document : D, (text = content ∨ Copy d text) ∧ kind.parse text = some document ∧
      kind.load c = some document

/-- A live file that is copied over the backup is a document.  Nothing is copied where
the new file cannot be written. -/
def CopiesDocument (D : Type) [StateJson D] (kind : StateFileKind) (d : StateDir) : Prop :=
  ∀ data, d .live = some (.file data) →
    (kind.parse data : Option D).isSome ∨ d .tmp = some .folder

theorem exists_of_holds {kind : StateFileKind} {d c : StateDir}
    (hc : Placed c)
    (hlive : c.read .live = d.read .live)
    (hprev : c.read .prev = d.read .prev)
    (h : HoldsDocument D kind d) :
    ∃ text, ∃ document : D, Copy d text ∧ kind.parse text = some document ∧
      kind.load c = some document := by
  obtain ⟨text, hcopy, hparse⟩ := h
  rw [hc.load, hlive, hprev]
  cases hfirst : (d.read .live).bind (kind.parse (D := D)) with
  | some document =>
      obtain ⟨found, hread, hfound⟩ := Option.bind_eq_some_iff.mp hfirst
      exact ⟨found, document, Or.inl hread, hfound, rfl⟩
  | none =>
      obtain ⟨document, hdocument⟩ := Option.isSome_iff_exists.mp hparse
      rcases hcopy with hread | hread
      · rw [hread, Option.bind_some, hdocument] at hfirst
        cases hfirst
      · refine ⟨text, document, Or.inr hread, hdocument, ?_⟩
        rw [hread, Option.none_or, Option.bind_some, hdocument]

/-- A broken live file is put over the backup, and a crash after that leaves no
document. -/
theorem lost_after_copy {kind : StateFileKind} {d : StateDir} {content data backup : Bytes}
    (hplaced : Placed d)
    (hlive : d .live = some (.file data))
    (hnone : kind.parse data = (none : Option D))
    (htmp : d .tmp ≠ some .folder)
    (hbackup : d .prev = some (.file backup)) :
    ¬ Survives D kind d content := by
  intro hsurvives
  have hwrite := FileOp.writeFile_of_plain hplaced.tmp_plain htmp content
  have hplaced₁ := hplaced.set_file .tmp (by decide) content
  have hlive₁ : (d.set .tmp (some (.file content))) .live = some (.file data) := hlive
  have hcopy : (FileOp.copy .live .prev).apply (d.set .tmp (some (.file content))) =
      some ((d.set .tmp (some (.file content))).set .prev (some (.file data))) := by
    rw [FileOp.apply, (Dir.read_plain hplaced₁.live_plain).mpr hlive₁, Option.bind_some,
      FileOp.writeFile, Dir.resolve_plain hplaced₁.prev_plain, Dir.set_of_ne (by decide), hbackup]
  have hplaced₂ := hplaced₁.set_file .prev (by decide) data
  have hpresent : (d.set .tmp (some (.file content))).present .live = true := by
    rw [Dir.present, Dir.resolve_plain hplaced₁.live_plain, hlive₁]
  have hleaves : (writeWithBackup content).Leaves d
      ((d.set .tmp (some (.file content))).set .prev (some (.file data))) := by
    refine Or.inr (Or.inr ⟨_, hwrite, ?_⟩)
    rw [Script.Leaves, if_pos hpresent]
    exact Or.inr (Or.inr ⟨_, hcopy, Script.leaves_start _ _⟩)
  obtain ⟨text, document, _, _, hload⟩ := hsurvives _ hleaves
  have hlive₂ : ((d.set .tmp (some (.file content))).set .prev (some (.file data))).read .live =
      some data := (Dir.read_plain hplaced₂.live_plain).mpr hlive
  have hprev₂ : ((d.set .tmp (some (.file content))).set .prev (some (.file data))).read .prev =
      some data := (Dir.read_plain hplaced₂.prev_plain).mpr (Dir.set_self _ _ _)
  rw [hplaced₂.load, hlive₂, hprev₂, Option.bind_some, hnone] at hload
  cases hload

/-- **A document survives every crash in a write if and only if the live file that is
copied over the backup is itself a document.** -/
theorem write_survives_iff (kind : StateFileKind) {d : StateDir} {content : Bytes}
    (hplaced : Placed d)
    (hnew : (kind.parse content : Option D).isSome)
    (hold : HoldsDocument D kind d) :
    Survives D kind d content ↔ CopiesDocument D kind d := by
  constructor
  · intro hsurvives data hlive
    by_contra hnot
    rw [not_or] at hnot
    have hnone : kind.parse data = (none : Option D) := Option.not_isSome_iff_eq_none.mp hnot.1
    have hprev : ∃ backup, d .prev = some (.file backup) := by
      obtain ⟨text, hcopy | hcopy, hparse⟩ := hold
      · have htext := (Dir.read_plain hplaced.live_plain).mp hcopy
        rw [hlive] at htext
        injection Option.some.inj htext with hsame
        rw [← hsame, hnone] at hparse
        cases hparse
      · exact ⟨text, (Dir.read_plain hplaced.prev_plain).mp hcopy⟩
    obtain ⟨backup, hbackup⟩ := hprev
    exact lost_after_copy hplaced hlive hnone hnot.2 hbackup hsurvives
  · intro hcopies c hleaves
    obtain ⟨hc, hleft⟩ := left_by_write hplaced hleaves
    cases hleft with
    | before hlive hprev =>
        have hread : ∀ n, (∀ target, c n ≠ some (.link target)) →
            (∀ target, d n ≠ some (.link target)) → c n = d n → c.read n = d.read n := by
          intro n hcn hdn hsame
          rw [Dir.read, Dir.resolve_plain hcn, hsame, Dir.read, Dir.resolve_plain hdn]
        obtain ⟨text, document, hcopy, hparse, hload⟩ := exists_of_holds hc
          (hread .live hc.live_plain hplaced.live_plain hlive)
          (hread .prev hc.prev_plain hplaced.prev_plain hprev) hold
        exact ⟨text, document, Or.inr hcopy, hparse, hload⟩
    | copied k hlive hbefore htmp hprev =>
        obtain ⟨document, hdocument⟩ :=
          Option.isSome_iff_exists.mp ((hcopies _ hbefore).resolve_right htmp)
        refine ⟨_, document, Or.inr (Or.inl ((Dir.read_plain hplaced.live_plain).mpr hbefore)),
          hdocument, ?_⟩
        rw [hc.load, (Dir.read_plain hc.live_plain).mpr hlive, Option.bind_some, hdocument]
        rfl
    | after hlive =>
        obtain ⟨document, hdocument⟩ := Option.isSome_iff_exists.mp hnew
        refine ⟨content, document, Or.inl rfl, hdocument, ?_⟩
        rw [hc.load, (Dir.read_plain hc.live_plain).mpr hlive, Option.bind_some, hdocument]
        rfl

end Survival

section Sample

/-- A document of one line: its version, a digit, and its text. -/
instance : StateJson Bytes where
  peekSchemaVersion := fun json => json.head?.map fun b => b.toNat - 0x30
  fromStr := fun json => some json.tail
  peek_nil := rfl

/-- A state directory with the live file `live` and the backup `prev`. -/
def twoCopies (live prev : String) : StateDir
  | .live => some (.file (bytesOf live))
  | .prev => some (.file (bytesOf prev))
  | .bak => some (.link .prev)
  | .tmp => none

theorem twoCopies_placed (live prev : String) : Placed (twoCopies live prev) := by
  constructor
  · nofun
  · nofun
  · nofun
  · intro target hlink
    injection Option.some.inj hlink with htarget
    exact htarget.symm

theorem write_survives_twoCopies :
    Survives Bytes .workspace (twoCopies "2b" "2a") (bytesOf "2c") ↔
      CopiesDocument Bytes .workspace (twoCopies "2b" "2a") :=
  write_survives_iff .workspace (twoCopies_placed "2b" "2a") (by decide +kernel)
    ⟨bytesOf "2a", Or.inr (by decide +kernel), by decide +kernel⟩

/-- With a broken live file and a good backup a write may lose both. -/
theorem write_loses_backup :
    HoldsDocument Bytes .workspace (twoCopies "" "2a") ∧
      ¬ Survives Bytes .workspace (twoCopies "" "2a") (bytesOf "2c") :=
  ⟨⟨bytesOf "2a", Or.inr (by decide +kernel), by decide +kernel⟩,
    lost_after_copy (twoCopies_placed "" "2a") rfl (by decide +kernel) (by decide) rfl⟩

end Sample

end Server
end Rttx
