import Rttx.Client.DocumentStore
import Rttx.Kernel.TransitionSystem

/-!
# The operations on the client's documents

The store loads and saves each document, keeps places and commands in one of them, and
exports, imports and resets the configuration; the window loads and saves three of them
at once.  A load that is refused gives no value, and saving one half of the library
takes the other from a load.

**Results.**
* `LeftBySave.run`: what a save may change.
* `perform_keeps`: an operation keeps the documents it is not about.
* `copyAt_pretty`: a written file is a readable copy.
* `documents_kept`: newer documents and the other half of the library are kept by runs
  that save no refused document and no library of which only the backup is there.
-/

namespace Rttx
namespace Client

open Kernel Server

section Models

/-- The library document. -/
structure Library (Place Command : Type) where
  places : List Place
  commands : List Command
deriving DecidableEq

/-- The contents of the documents. -/
structure StoreModels where
  Preferences : Type
  Hosts : Type
  Place : Type
  Command : Type
  Workspaces : Type
  Ui : Type
  RuntimeCache : Type

/-- The content of the document of a schema; two schemas are of no stored document. -/
def StoreModels.Document (M : StoreModels) : Schema → Type
  | .preferences => M.Preferences
  | .hosts => M.Hosts
  | .library => Library M.Place M.Command
  | .workspaces => M.Workspaces
  | .ui => M.Ui
  | .runtimeCache => M.RuntimeCache
  | .migrations => Unit
  | .exported => Unit

/-- What the client does to documents it reads or imports. -/
class StoreConversions (M : StoreModels) where
  migrateColorSchemeNames : M.Preferences → M.Preferences
  clearRuntimeRefs : M.Workspaces → M.Workspaces

/-- What an envelope is stamped with. -/
structure Stamp where
  appVersion : String
  writtenAt : String

/-- The documents that are present in an export. -/
structure ExportBundle (M : StoreModels) where
  preferences : Option M.Preferences
  library : Option (Library M.Place M.Command)
  hosts : Option M.Hosts
  workspaces : Option M.Workspaces

end Models

section Operations

variable {M : StoreModels} [StoreJson M.Document] [StoreConversions M]

open StoreJson

/-- A fresh envelope of this client's version. -/
def Stamp.envelope {T : Type} (stamp : Stamp) (schema : Schema) (data : T) :
    DocumentEnvelope T :=
  ⟨schema, currentVersion schema, stamp.appVersion, stamp.writtenAt, data⟩

/-- Save the document of a schema. -/
def saveDocument (schema : Schema) (stamp : Stamp) (data : M.Document schema) (d : StoreDir) :
    StoreDir × Bool :=
  (atomicSave schema (stamp.envelope schema data)).run d

def loadDocument (schema : Schema) (d : StoreDir) : LoadOutcome (M.Document schema) × StoreDir :=
  atomicLoad schema (currentVersion schema) d

def loadHosts (d : StoreDir) : LoadOutcome M.Hosts × StoreDir :=
  loadDocument (M := M) .hosts d

def loadLibrary (d : StoreDir) : LoadOutcome (Library M.Place M.Command) × StoreDir :=
  loadDocument (M := M) .library d

def loadWorkspaces (d : StoreDir) : LoadOutcome M.Workspaces × StoreDir :=
  loadDocument (M := M) .workspaces d

def loadUiState (d : StoreDir) : LoadOutcome M.Ui × StoreDir :=
  loadDocument (M := M) .ui d

def loadRuntimeCache (d : StoreDir) : LoadOutcome M.RuntimeCache × StoreDir :=
  loadDocument (M := M) .runtimeCache d

def savePreferences (stamp : Stamp) (prefs : M.Preferences) (d : StoreDir) : StoreDir × Bool :=
  saveDocument (M := M) .preferences stamp prefs d

def saveHosts (stamp : Stamp) (hosts : M.Hosts) (d : StoreDir) : StoreDir × Bool :=
  saveDocument (M := M) .hosts stamp hosts d

def saveLibrary (stamp : Stamp) (places : List M.Place) (commands : List M.Command)
    (d : StoreDir) : StoreDir × Bool :=
  saveDocument (M := M) .library stamp ⟨places, commands⟩ d

def saveWorkspaces (stamp : Stamp) (workspaces : M.Workspaces) (d : StoreDir) :
    StoreDir × Bool :=
  saveDocument (M := M) .workspaces stamp workspaces d

def saveUiState (stamp : Stamp) (ui : M.Ui) (d : StoreDir) : StoreDir × Bool :=
  saveDocument (M := M) .ui stamp ui d

def saveRuntimeCache (stamp : Stamp) (cache : M.RuntimeCache) (d : StoreDir) : StoreDir × Bool :=
  saveDocument (M := M) .runtimeCache stamp cache d

/-- The version a document is stored at, from the backup where the live file has none. -/
def storedDocumentVersion (M : StoreModels) [StoreJson M.Document] (schema : Schema)
    (d : StoreDir) : Option Nat :=
  let version := fun n => ((readToString d n).bind (peekHeader M.Document)).map
    EnvelopeHeader.version
  (version (.live schema)).or (version (.bak schema))

/-- Load the preferences; an older document is migrated and rewritten. -/
def loadPreferences (stamp : Stamp) (d : StoreDir) : LoadOutcome M.Preferences × StoreDir :=
  let stored := storedDocumentVersion M .preferences d
  let (outcome, d) := loadDocument (M := M) .preferences d
  if stored.any (· < currentVersion .preferences) then
    match outcome with
    | .loaded doc =>
        let doc := StoreConversions.migrateColorSchemeNames doc
        (.loaded doc, (savePreferences stamp doc d).1)
    | .recovered doc =>
        let doc := StoreConversions.migrateColorSchemeNames doc
        (.recovered doc, (savePreferences stamp doc d).1)
    | other => (other, d)
  else
    (outcome, d)

/-- Load only the commands. -/
def loadCommands (d : StoreDir) : List M.Command × StoreDir :=
  let (outcome, d) := loadLibrary (M := M) d
  (outcome.intoValue.elim [] Library.commands, d)

/-- Load only the places. -/
def loadPlaces (d : StoreDir) : List M.Place × StoreDir :=
  let (outcome, d) := loadLibrary (M := M) d
  (outcome.intoValue.elim [] Library.places, d)

/-- Save places, preserving the current commands. -/
def savePlaces (stamp : Stamp) (places : List M.Place) (d : StoreDir) :
    StoreDir × Bool :=
  let (commands, d) := loadCommands (M := M) d
  saveLibrary stamp places commands d

/-- Save commands, preserving the current places. -/
def saveCommands (stamp : Stamp) (commands : List M.Command) (d : StoreDir) :
    StoreDir × Bool :=
  let (places, d) := loadPlaces (M := M) d
  saveLibrary stamp places commands d

/-- The loads of an export. -/
def exportBundle (M : StoreModels) [StoreJson M.Document] (d : StoreDir) : StoreDir :=
  [Schema.preferences, .library, .hosts, .workspaces].foldl
    (fun d schema => (loadDocument (M := M) schema d).2) d

/-- Save a document that is present; after a failed save nothing follows. -/
def saveIfPresent (schema : Schema) (stamp : Stamp) (data : Option (M.Document schema))
    (st : StoreDir × Bool) : StoreDir × Bool :=
  match data with
  | some data => if st.2 then saveDocument schema stamp data st.1 else st
  | none => st

/-- Write each document of the bundle. -/
def importBundle (stamp : Stamp) (bundle : ExportBundle M) (d : StoreDir) : StoreDir × Bool :=
  let st := saveIfPresent (M := M) .preferences stamp bundle.preferences (d, true)
  let st := saveIfPresent (M := M) .library stamp bundle.library st
  let st := saveIfPresent (M := M) .hosts stamp bundle.hosts st
  saveIfPresent (M := M) .workspaces stamp
    (bundle.workspaces.map StoreConversions.clearRuntimeRefs) st

/-- Remove a live file if it is there; after a failure nothing follows. -/
def removeLive (st : StoreDir × Bool) (schema : Schema) : StoreDir × Bool :=
  if st.2 then
    match st.1 (.live schema) with
    | none => st
    | some _ =>
        match (FileOp.remove (.live schema)).apply st.1 with
        | some d => (d, true)
        | none => (st.1, false)
  else
    st

/-- Remove the user-facing documents. -/
def resetConfig (d : StoreDir) : StoreDir × Bool :=
  [Schema.preferences, .library, .hosts, .workspaces].foldl removeLive (d, true)

/-- The loads of a new window. -/
def loadState (M : StoreModels) [StoreJson M.Document] (d : StoreDir) : StoreDir :=
  let d := (loadWorkspaces (M := M) d).2
  let d := (loadUiState (M := M) d).2
  (loadRuntimeCache (M := M) d).2

/-- The saves of a window; a failed one is reported and the next follows. -/
def saveState (stamp : Stamp) (workspaces : M.Workspaces) (ui : M.Ui) (cache : M.RuntimeCache)
    (d : StoreDir) : StoreDir :=
  let d := (saveWorkspaces stamp workspaces d).1
  let d := (saveUiState stamp ui d).1
  (saveRuntimeCache stamp cache d).1

/-- An operation of the store or of a window. -/
inductive StoreOp (M : StoreModels)
  | loadPreferences (stamp : Stamp)
  | loadHosts
  | loadLibrary
  | loadWorkspaces
  | loadUiState
  | loadRuntimeCache
  | savePreferences (stamp : Stamp) (prefs : M.Preferences)
  | saveHosts (stamp : Stamp) (hosts : M.Hosts)
  | saveLibrary (stamp : Stamp) (places : List M.Place) (commands : List M.Command)
  | savePlaces (stamp : Stamp) (places : List M.Place)
  | saveCommands (stamp : Stamp) (commands : List M.Command)
  | saveWorkspaces (stamp : Stamp) (workspaces : M.Workspaces)
  | saveUiState (stamp : Stamp) (ui : M.Ui)
  | saveRuntimeCache (stamp : Stamp) (cache : M.RuntimeCache)
  | exportBundle
  | importBundle (stamp : Stamp) (bundle : ExportBundle M)
  | resetConfig
  | loadState
  | saveState (stamp : Stamp) (workspaces : M.Workspaces) (ui : M.Ui) (cache : M.RuntimeCache)

namespace StoreOp

def perform : StoreOp M → StoreDir → StoreDir
  | loadPreferences stamp, d => (Client.loadPreferences (M := M) stamp d).2
  | loadHosts, d => (Client.loadHosts (M := M) d).2
  | loadLibrary, d => (Client.loadLibrary (M := M) d).2
  | loadWorkspaces, d => (Client.loadWorkspaces (M := M) d).2
  | loadUiState, d => (Client.loadUiState (M := M) d).2
  | loadRuntimeCache, d => (Client.loadRuntimeCache (M := M) d).2
  | savePreferences stamp prefs, d => (Client.savePreferences stamp prefs d).1
  | saveHosts stamp hosts, d => (Client.saveHosts stamp hosts d).1
  | saveLibrary stamp places commands, d => (Client.saveLibrary stamp places commands d).1
  | savePlaces stamp places, d => (Client.savePlaces stamp places d).1
  | saveCommands stamp commands, d => (Client.saveCommands stamp commands d).1
  | saveWorkspaces stamp workspaces, d => (Client.saveWorkspaces stamp workspaces d).1
  | saveUiState stamp ui, d => (Client.saveUiState stamp ui d).1
  | saveRuntimeCache stamp cache, d => (Client.saveRuntimeCache stamp cache d).1
  | exportBundle, d => Client.exportBundle M d
  | importBundle stamp bundle, d => (Client.importBundle stamp bundle d).1
  | resetConfig, d => (Client.resetConfig d).1
  | loadState, d => Client.loadState M d
  | saveState stamp workspaces ui cache, d => Client.saveState stamp workspaces ui cache d

/-- The documents that the operation is asked to save or remove. -/
def targets : StoreOp M → List Schema
  | savePreferences _ _ => [.preferences]
  | saveHosts _ _ => [.hosts]
  | saveLibrary _ _ _ | savePlaces _ _ | saveCommands _ _ => [.library]
  | saveWorkspaces _ _ => [.workspaces]
  | saveUiState _ _ => [.ui]
  | saveRuntimeCache _ _ => [.runtimeCache]
  | importBundle _ bundle =>
      (if bundle.preferences.isSome then [.preferences] else []) ++
        (if bundle.library.isSome then [.library] else []) ++
        (if bundle.hosts.isSome then [.hosts] else []) ++
        (if bundle.workspaces.isSome then [.workspaces] else [])
  | resetConfig => [.preferences, .library, .hosts, .workspaces]
  | saveState _ _ _ _ => [.workspaces, .ui, .runtimeCache]
  | _ => []

end StoreOp

end Operations

section Rule

variable {M : StoreModels} [StoreJson M.Document] [StoreConversions M]

/-- **What loads, saves and removals keep, every operation keeps**; saves and removals
only of the documents it is asked to save or remove. -/
theorem StoreOp.perform_rule {P : StoreDir → Prop} (op : StoreOp M)
    (hload : ∀ schema d, P d → P (loadDocument (M := M) schema d).2)
    (hmigrate : ∀ stamp d, P d → P (Client.loadPreferences (M := M) stamp d).2)
    (hsave : ∀ schema ∈ op.targets, ∀ stamp data d, P d →
      P (saveDocument (M := M) schema stamp data d).1)
    (hremove : ∀ schema ∈ op.targets, ∀ d d', P d →
      (FileOp.remove (.live schema)).apply d = some d' → P d')
    {d : StoreDir}
    (hd : P d) :
    P (op.perform d) := by
  cases op with
  | loadPreferences stamp => exact hmigrate stamp d hd
  | loadHosts => exact hload .hosts d hd
  | loadLibrary => exact hload .library d hd
  | loadWorkspaces => exact hload .workspaces d hd
  | loadUiState => exact hload .ui d hd
  | loadRuntimeCache => exact hload .runtimeCache d hd
  | savePreferences stamp prefs => exact hsave .preferences (by simp [targets]) stamp prefs d hd
  | saveHosts stamp hosts => exact hsave .hosts (by simp [targets]) stamp hosts d hd
  | saveLibrary stamp places commands =>
      exact hsave .library (by simp [targets]) stamp ⟨places, commands⟩ d hd
  | savePlaces stamp places =>
      exact hsave .library (by simp [targets]) stamp ⟨places, _⟩ _ (hload .library d hd)
  | saveCommands stamp commands =>
      exact hsave .library (by simp [targets]) stamp ⟨_, commands⟩ _ (hload .library d hd)
  | saveWorkspaces stamp workspaces =>
      exact hsave .workspaces (by simp [targets]) stamp workspaces d hd
  | saveUiState stamp ui => exact hsave .ui (by simp [targets]) stamp ui d hd
  | saveRuntimeCache stamp cache => exact hsave .runtimeCache (by simp [targets]) stamp cache d hd
  | exportBundle =>
      exact hload .workspaces _ (hload .hosts _ (hload .library _ (hload .preferences d hd)))
  | importBundle stamp bundle =>
      have hone : ∀ schema (data : Option (M.Document schema)) (st : StoreDir × Bool),
          (data.isSome → schema ∈ (importBundle stamp bundle).targets) →
          P st.1 → P (saveIfPresent schema stamp data st).1 := by
        intro schema data st hmem hst
        cases data with
        | none => exact hst
        | some data =>
            rw [saveIfPresent]
            split
            · exact hsave schema (hmem rfl) stamp data st.1 hst
            · exact hst
      refine hone .workspaces _ _ ?_ (hone .hosts _ _ ?_ (hone .library _ _ ?_
        (hone .preferences _ _ ?_ hd)))
      · intro hsome
        have hworkspaces : bundle.workspaces.isSome = true := by
          cases hdata : bundle.workspaces with
          | none =>
              rw [hdata] at hsome
              cases hsome
          | some data => rfl
        simp [targets, hworkspaces]
      · intro hsome
        have hhosts : bundle.hosts.isSome = true := hsome
        simp [targets, hhosts]
      · intro hsome
        have hlibrary : bundle.library.isSome = true := hsome
        simp [targets, hlibrary]
      · intro hsome
        have hpreferences : bundle.preferences.isSome = true := hsome
        simp [targets, hpreferences]
  | resetConfig =>
      have hone : ∀ schema ∈ (resetConfig : StoreOp M).targets, ∀ st : StoreDir × Bool,
          P st.1 → P (removeLive st schema).1 := by
        intro schema hschema st hst
        rw [removeLive]
        split
        · split
          · exact hst
          · split
            · rename_i d' happly
              exact hremove schema hschema st.1 d' hst happly
            · exact hst
        · exact hst
      exact hone .workspaces (by simp [targets]) _ (hone .hosts (by simp [targets]) _
        (hone .library (by simp [targets]) _ (hone .preferences (by simp [targets]) _ hd)))
  | loadState => exact hload .runtimeCache _ (hload .ui _ (hload .workspaces d hd))
  | saveState stamp workspaces ui cache =>
      exact hsave .runtimeCache (by simp [targets]) stamp cache _
        (hsave .ui (by simp [targets]) stamp ui _
          (hsave .workspaces (by simp [targets]) stamp workspaces d hd))

end Rule

section Refusal

variable {M : StoreModels} [StoreJson M.Document]

open StoreJson

/-- The live file is a document of a version this client does not know. -/
def NewerDocument (M : StoreModels) [StoreJson M.Document] (schema : Schema) (data : Bytes)
    (d : StoreDir) : Prop :=
  readToString d (.live schema) = some data ∧
    ∃ header, peekHeader M.Document data = some header ∧ header.schema = schema ∧
      currentVersion schema < header.version

theorem NewerDocument.of_read {schema : Schema} {data : Bytes} {d c : StoreDir}
    (h : NewerDocument M schema data d)
    (hread : c.read (.live schema) = d.read (.live schema)) :
    NewerDocument M schema data c := by
  refine ⟨?_, h.2⟩
  rw [readToString, hread]
  exact h.1

/-- A newer document is refused. -/
theorem NewerDocument.load {schema : Schema} {data : Bytes} {d : StoreDir}
    (h : NewerDocument M schema data d) :
    ∃ found maxSupported,
      loadDocument (M := M) schema d = (.unsupportedVersion found maxSupported, d) := by
  obtain ⟨hread, header, hpeek, hschema, hversion⟩ := h
  have hvalid : validateHeader header schema (currentVersion schema) =
      .error (.unsupportedVersion schema header.version (currentVersion schema)) := by
    rw [validateHeader, if_neg (not_not_intro hschema), if_pos hversion]
  have hparse : (tryParse schema (currentVersion schema) data : ParseResult (M.Document schema)) =
      .unsupportedVersion header.version (currentVersion schema) := by
    rw [tryParse, hpeek]
    simp only [hvalid]
  refine ⟨header.version, currentVersion schema, ?_⟩
  rw [loadDocument, atomicLoad, hread]
  simp only [hparse]

/-- A state in which the newer document `data` stands. -/
structure Guarded (M : StoreModels) [StoreJson M.Document] (schema : Schema) (data : Bytes)
    (d : StoreDir) : Prop where
  links : LinksOut d
  newer : NewerDocument M schema data d

theorem LinksOut.loadDocument {d : StoreDir}
    (h : LinksOut d)
    (schema : Schema) :
    LinksOut (loadDocument (M := M) schema d).2 :=
  h.atomicLoad_snd schema _

theorem LinksOut.saveDocument {d : StoreDir}
    (h : LinksOut d)
    (schema : Schema) (stamp : Stamp) (content : M.Document schema) :
    LinksOut (saveDocument schema stamp content d).1 :=
  (untouched_of_leaves h (Script.leaves_run _ d)).links

/-- A load keeps a newer document. -/
theorem Guarded.load {schema : Schema} {data : Bytes} {d : StoreDir}
    (h : Guarded M schema data d)
    (schema' : Schema) :
    Guarded M schema data (loadDocument (M := M) schema' d).2 := by
  refine ⟨h.links.loadDocument schema', ?_⟩
  by_cases hsame : schema' = schema
  · subst hsame
    obtain ⟨found, maxSupported, hload⟩ := h.newer.load
    rw [hload]
    exact h.newer
  · refine h.newer.of_read ?_
    rcases atomicLoad_snd (T := M.Document) schema' (currentVersion schema') d with heq | heq
    · rw [loadDocument, heq]
    · rw [loadDocument, heq]
      have hlive : StoreFile.live schema ≠ .live schema' := by
        intro heq
        injection heq with hschema
        exact hsame hschema.symm
      rcases preserveMalformed_cases schema' d with hkept | hkept | ⟨node, _, hkept⟩
      · rw [hkept]
      · rw [hkept, h.links.read_set (.live schema) .backups nofun nofun]
      · refine read_congr h.links ?_ fun path => ?_
        · have hpreserved : StoreFile.live schema ≠ .preserved schema' := nofun
          have hbackups : StoreFile.live schema ≠ .backups := nofun
          rw [hkept, Dir.set_of_ne hpreserved, Dir.set_of_ne hlive, Dir.set_of_ne hbackups]
        · have hpreserved : StoreFile.outside path ≠ .preserved schema' := nofun
          have hmoved : StoreFile.outside path ≠ .live schema' := nofun
          have hbackups : StoreFile.outside path ≠ .backups := nofun
          rw [hkept, Dir.set_of_ne hpreserved, Dir.set_of_ne hmoved, Dir.set_of_ne hbackups]

/-- A save of another document keeps it. -/
theorem Guarded.save {schema schema' : Schema} {data : Bytes} {d : StoreDir}
    (h : Guarded M schema data d)
    (hne : schema ≠ schema')
    (stamp : Stamp) (content : M.Document schema') :
    Guarded M schema data (saveDocument schema' stamp content d).1 := by
  have huntouched : Untouched schema' d (saveDocument schema' stamp content d).1 :=
    untouched_of_leaves h.links (Script.leaves_run _ d)
  exact ⟨huntouched.links, h.newer.of_read (huntouched.read_live h.links hne)⟩

theorem LinksOut.remove {d d' : StoreDir} {n : StoreFile}
    (h : LinksOut d)
    (happly : (FileOp.remove n).apply d = some d') :
    d' = d.set n none ∧ LinksOut d' := by
  have hset : d' = d.set n none := FileOp.remove_eq_some happly
  refine ⟨hset, ?_⟩
  rw [hset]
  exact h.set n (by simp)

variable [StoreConversions M]

/-- Rewriting migrated preferences touches no newer document. -/
theorem loadPreferences_cases (stamp : Stamp) (d : StoreDir) :
    (loadPreferences (M := M) stamp d).2 = (loadDocument (M := M) .preferences d).2 ∨
      ∃ content : M.Document .preferences,
        (loadPreferences (M := M) stamp d).2 =
            (saveDocument .preferences stamp content (loadDocument (M := M) .preferences d).2).1 ∧
          ∀ found maxSupported,
            (loadDocument (M := M) .preferences d).1 ≠ .unsupportedVersion found maxSupported := by
  rw [loadPreferences]
  generalize hload : loadDocument (M := M) .preferences d = loaded
  obtain ⟨outcome, after⟩ := loaded
  dsimp only
  split
  · cases outcome with
    | loaded doc => exact Or.inr ⟨_, rfl, nofun⟩
    | recovered doc => exact Or.inr ⟨_, rfl, nofun⟩
    | default doc => exact Or.inl rfl
    | defaultAfterFailure doc => exact Or.inl rfl
    | unsupportedVersion found maxSupported => exact Or.inl rfl
  · exact Or.inl rfl

theorem Guarded.loadPreferences {schema : Schema} {data : Bytes} {d : StoreDir}
    (h : Guarded M schema data d)
    (stamp : Stamp) :
    Guarded M schema data (loadPreferences (M := M) stamp d).2 := by
  rcases loadPreferences_cases (M := M) stamp d with heq | ⟨content, heq, hknown⟩
  · rw [heq]
    exact h.load .preferences
  · rw [heq]
    refine (h.load .preferences).save ?_ stamp content
    rintro rfl
    obtain ⟨found, maxSupported, hload⟩ := h.newer.load
    exact hknown found maxSupported (congrArg Prod.fst hload)

/-- **An operation keeps the newer documents it is not asked to save or remove.** -/
theorem Guarded.perform {schema : Schema} {data : Bytes} {d : StoreDir} {op : StoreOp M}
    (h : Guarded M schema data d)
    (hop : schema ∉ op.targets) :
    Guarded M schema data (op.perform d) := by
  refine op.perform_rule (P := Guarded M schema data) ?_ ?_ ?_ ?_ h
  · exact fun schema' d hd => hd.load schema'
  · exact fun stamp d hd => hd.loadPreferences stamp
  · intro schema' hschema' stamp content d hd
    exact hd.save (fun heq => hop (heq ▸ hschema')) stamp content
  · intro schema' hschema' d d' hd happly
    obtain ⟨hset, hlinks⟩ := hd.links.remove happly
    refine ⟨hlinks, hd.newer.of_read ?_⟩
    rw [hset, hd.links.read_set (.live schema) (.live schema') nofun]
    intro heq
    injection heq with hschema
    exact hop (hschema ▸ hschema')

theorem LinksOut.perform {d : StoreDir}
    (h : LinksOut d)
    (op : StoreOp M) :
    LinksOut (op.perform d) := by
  refine op.perform_rule (P := LinksOut) ?_ ?_ ?_ ?_ h
  · exact fun schema d hd => hd.loadDocument schema
  · intro stamp d hd
    rcases loadPreferences_cases (M := M) stamp d with heq | ⟨content, heq, _⟩
    · rw [heq]
      exact hd.loadDocument .preferences
    · rw [heq]
      exact (hd.loadDocument .preferences).saveDocument .preferences stamp content
  · exact fun schema _ stamp content d hd => hd.saveDocument schema stamp content
  · exact fun schema _ d d' hd happly => (hd.remove happly).2

end Refusal

section Halves

variable {M : StoreModels} [StoreJson M.Document]

open StoreJson

/-- The document of a file, if it can be read. -/
def copyAt (M : StoreModels) [StoreJson M.Document] (schema : Schema) (n : StoreFile)
    (d : StoreDir) : Option (M.Document schema) :=
  match (readToString d n).map (tryParse schema (currentVersion schema)) with
  | some (.ok data) => some data
  | _ => none

/-- The readable copy of the library: the live file, or else the backup. -/
def readableLibrary (M : StoreModels) [StoreJson M.Document] (d : StoreDir) :
    Option (Library M.Place M.Command) :=
  (copyAt M .library (.live .library) d).or (copyAt M .library (.bak .library) d)

/-- The live library is there, or its backup is no readable copy. -/
def LibraryInPlace (M : StoreModels) [StoreJson M.Document] (d : StoreDir) : Prop :=
  d.present (.live .library) = true ∨ copyAt M .library (.bak .library) d = none

/-- Only a newer version is refused. -/
theorem newer_of_unsupported {schema : Schema} {json : Bytes} {found maxSupported : Nat}
    (h : (tryParse schema (currentVersion schema) json : ParseResult (M.Document schema)) =
      .unsupportedVersion found maxSupported) :
    ∃ header, peekHeader M.Document json = some header ∧ header.schema = schema ∧
      currentVersion schema < header.version := by
  rw [tryParse] at h
  cases hpeek : peekHeader M.Document json with
  | none =>
      rw [hpeek] at h
      cases h
  | some header =>
      refine ⟨header, rfl, ?_⟩
      by_cases hschema : header.schema = schema
      · refine ⟨hschema, ?_⟩
        by_contra hversion
        have hvalid : validateHeader header schema (currentVersion schema) = .ok () := by
          rw [validateHeader, if_neg (not_not_intro hschema), if_neg hversion]
        simp only [hpeek, hvalid] at h
        split at h <;> cases h
      · have hvalid : validateHeader header schema (currentVersion schema) =
            .error (.schemaMismatch schema header.schema) := by
          rw [validateHeader, if_pos hschema]
        simp only [hpeek, hvalid] at h
        cases h

theorem copyAt_congr {schema : Schema} {n : StoreFile} {d c : StoreDir}
    (h : c.read n = d.read n) :
    copyAt M schema n c = copyAt M schema n d := by
  rw [copyAt, readToString, h]
  rfl

theorem copyAt_pretty {schema : Schema} {n : StoreFile} {d : StoreDir}
    {envelope : DocumentEnvelope (M.Document schema)}
    (hschema : envelope.schema = schema)
    (hversion : envelope.version = currentVersion schema)
    (h : d n = some (.file (toStringPretty schema envelope))) :
    copyAt M schema n d = some envelope.data := by
  rw [copyAt, readToString_pretty h, Option.map_some, tryParse_pretty hschema hversion]

theorem copyAt_free {schema : Schema} {n : StoreFile} {d : StoreDir}
    (h : d n = none) :
    copyAt M schema n d = none := by
  have hresolve : d.resolve n = n := Dir.resolve_plain fun target hlink => by
    rw [h] at hlink
    cases hlink
  have hread : d.read n = none := by
    rw [Dir.read, hresolve, h]
  rw [copyAt, readToString, hread]
  rfl

theorem tryBackup_of_copy {schema : Schema} {d : StoreDir} {data : M.Document schema}
    (h : copyAt M schema (.bak schema) d = some data) :
    tryBackupOrDefault schema (currentVersion schema) d = .recovered data := by
  rw [copyAt] at h
  rw [tryBackupOrDefault]
  split at h
  · rename_i found hfound
    rw [hfound, ← Option.some.inj h]
  · cases h

/-- Preserving a malformed live file leaves no readable copy but the backup. -/
theorem readable_preserve {schema : Schema} {d : StoreDir}
    (h : LinksOut d)
    (hlive : copyAt M schema (.live schema) d = none) :
    copyAt M schema (.live schema) (preserveMalformed schema d) = none ∧
      copyAt M schema (.bak schema) (preserveMalformed schema d) =
        copyAt M schema (.bak schema) d := by
  refine ⟨?_, copyAt_congr (h.read_preserve schema schema)⟩
  rcases preserveMalformed_cases schema d with heq | heq | ⟨node, _, heq⟩
  · rw [heq]
    exact hlive
  · rw [heq, copyAt_congr (h.read_set (.live schema) .backups nofun nofun _)]
    exact hlive
  · have hne : StoreFile.live schema ≠ .preserved schema := nofun
    rw [heq]
    exact copyAt_free (by rw [Dir.set_of_ne hne, Dir.set_self])

/-- **A load of a library that has a readable copy gives that copy**, and leaves it
readable. -/
theorem loadLibrary_of_readable {d : StoreDir} {lib : Library M.Place M.Command}
    (h : LinksOut d)
    (hlib : readableLibrary M d = some lib)
    (hplace : LibraryInPlace M d)
    (hknown : ∀ data, ¬ NewerDocument M .library data d) :
    (loadLibrary (M := M) d).1.intoValue = some lib ∧
      readableLibrary M (loadLibrary (M := M) d).2 = some lib := by
  have hbackup : copyAt M .library (.live .library) d = none →
      copyAt M .library (.bak .library) d = some lib := by
    intro hlive
    rwa [readableLibrary, hlive, Option.none_or] at hlib
  rw [loadLibrary, loadDocument, atomicLoad]
  cases hread : readToString d (.live .library) with
  | none =>
      have hlive : copyAt M .library (.live .library) d = none := by
        rw [copyAt, hread]
        rfl
      have hcopy := hbackup hlive
      have hpresent : d.present (.live .library) = true := by
        refine hplace.resolve_right fun hnone => ?_
        rw [hnone] at hcopy
        cases hcopy
      dsimp only
      rw [if_pos hpresent]
      exact ⟨congrArg LoadOutcome.intoValue (tryBackup_of_copy hcopy), hlib⟩
  | some json =>
      dsimp only
      cases hparse : (tryParse .library (currentVersion .library) json :
          ParseResult (M.Document .library)) with
      | ok data =>
          have hlive : copyAt M .library (.live .library) d = some data := by
            rw [copyAt, hread, Option.map_some, hparse]
          rw [readableLibrary, hlive, Option.some_or] at hlib
          refine ⟨hlib, ?_⟩
          rw [readableLibrary, hlive, Option.some_or]
          exact hlib
      | unsupportedVersion found maxSupported =>
          exact absurd ⟨hread, newer_of_unsupported hparse⟩ (hknown json)
      | malformed =>
          have hlive : copyAt M .library (.live .library) d = none := by
            rw [copyAt, hread, Option.map_some, hparse]
          obtain ⟨hlive', hbak'⟩ := readable_preserve h hlive
          rw [hbackup hlive] at hbak'
          refine ⟨congrArg LoadOutcome.intoValue (tryBackup_of_copy hbak'), ?_⟩
          rw [readableLibrary, hlive', Option.none_or]
          exact hbak'

/-- The temporary file takes the place of a live file that is not there. -/
theorem rename_tmp {schema : Schema} {d : StoreDir} {json : Bytes}
    (htmp : d (.tmp schema) = some (.file json))
    (hlive : d (.live schema) ≠ some .folder) :
    ∃ d', (FileOp.rename (.tmp schema) (.live schema)).apply d = some d' ∧
      d' (.live schema) = some (.file json) := by
  have hfree : ¬ renameRefused (.file json) (d (.live schema)) = true := by
    cases hnode : d (.live schema) with
    | none => nofun
    | some node =>
        cases node with
        | file old => nofun
        | link target => nofun
        | folder => exact absurd hnode hlive
  refine ⟨(d.set (.tmp schema) none).set (.live schema) (some (.file json)), ?_,
    Dir.set_self _ _ _⟩
  rw [FileOp.apply, htmp, Option.bind_some, if_neg hfree]

/-- A save writes its document, or fails and leaves every file but the temporary one. -/
theorem run_save {d : StoreDir}
    (h : LinksOut d)
    (schema : Schema)
    (stamp : Stamp) (data : M.Document schema) :
    ((saveDocument schema stamp data d).2 = true ∧
        (saveDocument schema stamp data d).1 (.live schema) =
          some (.file (toStringPretty schema (stamp.envelope schema data)))) ∨
      ((saveDocument schema stamp data d).2 = false ∧
        ∀ n, n ≠ .tmp schema → (saveDocument schema stamp data d).1 n = d n) := by
  rw [saveDocument, atomicSave, Script.run]
  generalize toStringPretty schema (stamp.envelope schema data) = json
  cases hwrite : (FileOp.write (.tmp schema) json).apply d with
  | none => exact Or.inr ⟨rfl, fun _ _ => rfl⟩
  | some d₁ =>
      obtain rfl := FileOp.writeFile_plain (h.tmp_plain schema) hwrite
      dsimp only
      rw [Script.run]
      by_cases hpresent : (d.set (.tmp schema) (some (.file json))).present (.live schema) = true
      · rw [if_pos hpresent]
        cases hrename : (FileOp.rename (.live schema) (.bak schema)).apply
            (d.set (.tmp schema) (some (.file json))) with
        | none => exact Or.inr ⟨rfl, fun n hn => Dir.set_of_ne hn _ _⟩
        | some d₂ =>
            obtain ⟨node, _, hmoved⟩ := Option.bind_eq_some_iff.mp hrename
            split at hmoved
            · cases hmoved
            · obtain rfl := Option.some.inj hmoved
              have htmp : (((d.set (.tmp schema) (some (.file json))).set (.live schema)
                  none).set (.bak schema) (some node)) (.tmp schema) = some (.file json) := by
                have hbak : StoreFile.tmp schema ≠ .bak schema := by simp
                have hlive : StoreFile.tmp schema ≠ .live schema := by simp
                rw [Dir.set_of_ne hbak, Dir.set_of_ne hlive, Dir.set_self]
              have hlive : (((d.set (.tmp schema) (some (.file json))).set (.live schema)
                  none).set (.bak schema) (some node)) (.live schema) ≠ some .folder := by
                have hbak : StoreFile.live schema ≠ .bak schema := by simp
                rw [Dir.set_of_ne hbak, Dir.set_self]
                simp
              obtain ⟨d₃, happly, hwritten⟩ := rename_tmp htmp hlive
              left
              dsimp only
              rw [Script.run, happly]
              exact ⟨rfl, hwritten⟩
      · have hlive : (d.set (.tmp schema) (some (.file json))) (.live schema) ≠ some .folder := by
          intro hfolder
          have hresolve : (d.set (.tmp schema) (some (.file json))).resolve (.live schema) =
              .live schema := Dir.resolve_plain fun target hlink => by
            rw [hfolder] at hlink
            cases hlink
          rw [Dir.present, hresolve, hfolder] at hpresent
          exact hpresent rfl
        obtain ⟨d₃, happly, hwritten⟩ := rename_tmp (Dir.set_self _ _ _) hlive
        left
        rw [if_neg hpresent, Script.run, happly]
        exact ⟨rfl, hwritten⟩

/-- **After a save of the library it is readable**: what was written, or what was there. -/
theorem readable_saveLibrary {d : StoreDir} {lib : Library M.Place M.Command}
    (h : LinksOut d)
    (hlib : readableLibrary M d = some lib)
    (stamp : Stamp) (places : List M.Place) (commands : List M.Command) :
    readableLibrary M (saveLibrary stamp places commands d).1 = some ⟨places, commands⟩ ∨
      readableLibrary M (saveLibrary stamp places commands d).1 = some lib := by
  have hrun := run_save (M := M) h .library stamp
    (show M.Document .library from ⟨places, commands⟩)
  rcases hrun with ⟨_, hwritten⟩ | ⟨_, hsame⟩
  · left
    have hlive : copyAt M .library (.live .library)
        (saveLibrary (M := M) stamp places commands d).1 = some ⟨places, commands⟩ :=
      copyAt_pretty rfl rfl hwritten
    rw [readableLibrary]
    exact congrArg₂ Option.or hlive rfl
  · right
    have hread : ∀ n, n ≠ .tmp .library →
        (saveLibrary (M := M) stamp places commands d).1.read n = d.read n :=
      fun n hn => read_congr h (hsame n hn) fun path => hsame _ nofun
    have hlive := @copyAt_congr M _ .library _ _ _ (hread (.live .library) nofun)
    have hbak := @copyAt_congr M _ .library _ _ _ (hread (.bak .library) nofun)
    rw [readableLibrary] at hlib ⊢
    exact (congrArg₂ Option.or hlive hbak).trans hlib

/-- A save of the library after a load keeps what was loaded, or writes what is given. -/
theorem readable_loadSave {d : StoreDir} {lib : Library M.Place M.Command}
    (h : LinksOut d)
    (hlib : readableLibrary M d = some lib)
    (hplace : LibraryInPlace M d)
    (hknown : ∀ data, ¬ NewerDocument M .library data d)
    (stamp : Stamp) (places : List M.Place) (commands : List M.Command) :
    ∃ lib', readableLibrary M
        (saveLibrary stamp places commands (loadLibrary (M := M) d).2).1 = some lib' ∧
      (lib' = ⟨places, commands⟩ ∨ lib' = lib) := by
  obtain ⟨_, hafter⟩ := loadLibrary_of_readable h hlib hplace hknown
  rcases readable_saveLibrary (h.loadDocument .library) hafter stamp places commands with
    hsaved | hkept
  · exact ⟨_, hsaved, Or.inl rfl⟩
  · exact ⟨_, hkept, Or.inr rfl⟩

/-- **Saving places keeps the commands** of the readable copy. -/
theorem savePlaces_commands {d : StoreDir} {lib : Library M.Place M.Command}
    (h : LinksOut d)
    (hlib : readableLibrary M d = some lib)
    (hplace : LibraryInPlace M d)
    (hknown : ∀ data, ¬ NewerDocument M .library data d)
    (stamp : Stamp) (places : List M.Place) :
    ∃ lib', readableLibrary M (savePlaces stamp places d).1 = some lib' ∧
      lib'.commands = lib.commands := by
  obtain ⟨hload, _⟩ := loadLibrary_of_readable h hlib hplace hknown
  obtain ⟨lib', hlib', hcases⟩ :=
    readable_loadSave h hlib hplace hknown stamp places (loadCommands (M := M) d).1
  have hcommands : (loadCommands (M := M) d).1 = lib.commands :=
    congrArg (fun value => Option.elim value [] Library.commands) hload
  refine ⟨lib', hlib', ?_⟩
  rcases hcases with rfl | rfl
  · exact hcommands
  · rfl

/-- **Saving commands keeps the places** of the readable copy. -/
theorem saveCommands_places {d : StoreDir} {lib : Library M.Place M.Command}
    (h : LinksOut d)
    (hlib : readableLibrary M d = some lib)
    (hplace : LibraryInPlace M d)
    (hknown : ∀ data, ¬ NewerDocument M .library data d)
    (stamp : Stamp) (commands : List M.Command) :
    ∃ lib', readableLibrary M (saveCommands stamp commands d).1 = some lib' ∧
      lib'.places = lib.places := by
  obtain ⟨hload, _⟩ := loadLibrary_of_readable h hlib hplace hknown
  obtain ⟨lib', hlib', hcases⟩ :=
    readable_loadSave h hlib hplace hknown stamp (loadPlaces (M := M) d).1 commands
  have hplaces : (loadPlaces (M := M) d).1 = lib.places :=
    congrArg (fun value => Option.elim value [] Library.places) hload
  refine ⟨lib', hlib', ?_⟩
  rcases hcases with rfl | rfl
  · exact hplaces
  · rfl

end Halves

section Runs

variable {M : StoreModels} [StoreJson M.Document] [StoreConversions M]

/-- The client's operations on its store. -/
def storeSystem (M : StoreModels) [StoreJson M.Document] [StoreConversions M]
    (start : StoreDir) : System StoreDir (StoreOp M) where
  init := (· = start)
  next := fun d op => some (op.perform d)

/-- The operation saves one half of the library. -/
def StoreOp.SavesHalf : StoreOp M → Prop
  | savePlaces _ _ | saveCommands _ _ => True
  | _ => False

/-- Nothing newer is to be saved over or removed, and half of a library is saved only
where a load finds its readable copy. -/
def Safe (d : StoreDir) (op : StoreOp M) : Prop :=
  (∀ schema ∈ op.targets, ∀ data, ¬ NewerDocument M schema data d) ∧
    (op.SavesHalf → LibraryInPlace M d)

/-- **In runs of safe operations** newer documents stay as they are, saving places keeps
the commands of the library, and saving commands its places. -/
theorem documents_kept {start d : StoreDir}
    (hlinks : LinksOut start)
    (h : (storeSystem M start).ReachableUnder Safe d) :
    (∀ schema data, NewerDocument M schema data start → NewerDocument M schema data d) ∧
      ∀ lib, readableLibrary M d = some lib →
        (∀ stamp places, Safe d (StoreOp.savePlaces (M := M) stamp places) →
          ∃ lib', readableLibrary M ((StoreOp.savePlaces stamp places).perform d) = some lib' ∧
            lib'.commands = lib.commands) ∧
        (∀ stamp commands, Safe d (StoreOp.saveCommands (M := M) stamp commands) →
          ∃ lib', readableLibrary M ((StoreOp.saveCommands stamp commands).perform d) =
              some lib' ∧
            lib'.places = lib.places) := by
  have hinv : LinksOut d ∧
      ∀ schema data, NewerDocument M schema data start → NewerDocument M schema data d := by
    refine h.invariant (I := fun d => LinksOut d ∧
      ∀ schema data, NewerDocument M schema data start → NewerDocument M schema data d) ?_ ?_
    · rintro s rfl
      exact ⟨hlinks, fun _ _ hnewer => hnewer⟩
    · intro s op s' hs hsafe hstep
      obtain rfl := Option.some.inj hstep
      refine ⟨hs.1.perform op, fun schema data hstart => ?_⟩
      have hnewer := hs.2 schema data hstart
      exact (Guarded.perform ⟨hs.1, hnewer⟩ fun htarget => hsafe.1 schema htarget data hnewer).newer
  refine ⟨hinv.2, fun lib hlib => ⟨fun stamp places hsafe => ?_, fun stamp commands hsafe => ?_⟩⟩
  · exact savePlaces_commands hinv.1 hlib (hsafe.2 trivial)
      (hsafe.1 .library (by simp [StoreOp.targets])) stamp places
  · exact saveCommands_places hinv.1 hlib (hsafe.2 trivial)
      (hsafe.1 .library (by simp [StoreOp.targets])) stamp commands

section Example

/-- Places without content and commands of one bit. -/
@[reducible] def bitModels : StoreModels :=
  ⟨Unit, Unit, Unit, Bool, Unit, Unit, Unit⟩

namespace BitLibrary

def encode : (schema : Schema) → bitModels.Document schema → List Bool
  | .library, lib => List.replicate lib.places.length true ++ false :: lib.commands
  | _, _ => []

def decode : (schema : Schema) → List Bool → bitModels.Document schema
  | .library, bits =>
      (⟨List.replicate (bits.takeWhile id).length (), (bits.dropWhile id).tail⟩ :
        Library Unit Bool)
  | .preferences, _ | .hosts, _ | .workspaces, _ | .ui, _ | .runtimeCache, _ | .migrations, _
  | .exported, _ => ()

theorem decode_encode (schema : Schema) (data : bitModels.Document schema) :
    decode schema (encode schema data) = data := by
  cases schema with
  | library =>
      obtain ⟨places, commands⟩ : Library Unit Bool := data
      have htake : ∀ n, ((List.replicate n true ++ false :: commands).takeWhile id).length = n := by
        intro n
        induction n with
        | zero => rfl
        | succ n ih => exact congrArg Nat.succ ih
      have hdrop : ∀ n, ((List.replicate n true ++ false :: commands).dropWhile id).tail =
          commands := by
        intro n
        induction n with
        | zero => rfl
        | succ n ih => exact ih
      have hplaces : List.replicate places.length () = places :=
        (List.eq_replicate_iff.mpr ⟨rfl, fun _ _ => rfl⟩).symm
      have hlib : (⟨List.replicate ((List.replicate places.length true ++
          false :: commands).takeWhile id).length (), ((List.replicate places.length true ++
          false :: commands).dropWhile id).tail⟩ : Library Unit Bool) = ⟨places, commands⟩ := by
        rw [htake, hplaces, hdrop]
      exact hlib
  | preferences => rfl
  | hosts => rfl
  | workspaces => rfl
  | ui => rfl
  | runtimeCache => rfl
  | migrations => rfl
  | exported => rfl

end BitLibrary

instance bitLibrary : StoreJson bitModels.Document :=
  DocumentCode.storeJson
    ⟨fun schema => BitLibrary.decode schema [], BitLibrary.encode, BitLibrary.decode,
      BitLibrary.decode_encode⟩

instance : StoreConversions bitModels := ⟨id, id⟩

def bitStamp : Stamp := ⟨"0.1.0", ""⟩

/-- The text of a library without places and with one command. -/
def commandText (version : Nat) : Bytes :=
  StoreJson.toStringPretty (T := bitModels.Document) .library
    ⟨.library, version, "0.1.0", "", (⟨[], [true]⟩ : Library Unit Bool)⟩

/-- A store whose library a newer client has written. -/
def newerStore : StoreDir :=
  emptyStore.set (.live .library) (some (.file (commandText 2)))

/-- A store of whose library only the backup is left. -/
def backupStore : StoreDir :=
  emptyStore.set (.bak .library) (some (.file (commandText 1)))

theorem newer_newerStore : NewerDocument bitModels .library (commandText 2) newerStore := by
  refine ⟨readToString_pretty (T := bitModels.Document) (Dir.set_self _ _ _), ⟨.library, 2⟩, ?_,
    rfl, by decide⟩
  exact StoreJson.peek_pretty (T := bitModels.Document) _ _

theorem linksOut_newerStore : LinksOut newerStore :=
  linksOut_emptyStore.set _ nofun

theorem documents_kept_hosts :
    LinksOut newerStore ∧
      (storeSystem bitModels newerStore).ReachableUnder Safe
        ((StoreOp.saveHosts (M := bitModels) bitStamp ()).perform newerStore) ∧
      NewerDocument bitModels .library (commandText 2)
        ((StoreOp.saveHosts (M := bitModels) bitStamp ()).perform newerStore) := by
  have hsafe : Safe newerStore (StoreOp.saveHosts (M := bitModels) bitStamp ()) := by
    refine ⟨fun schema hschema data hnewer => ?_, nofun⟩
    obtain rfl := List.mem_singleton.mp hschema
    have hread : readToString newerStore (.live .hosts) = none := rfl
    rw [NewerDocument, hread] at hnewer
    cases hnewer.1
  have hreach : (storeSystem bitModels newerStore).ReachableUnder Safe
      ((StoreOp.saveHosts (M := bitModels) bitStamp ()).perform newerStore) :=
    .step (.init rfl) hsafe rfl
  exact ⟨linksOut_newerStore, hreach,
    (documents_kept linksOut_newerStore hreach).1 _ _ newer_newerStore⟩

/-- Loading a library that only a newer client reads gives no commands. -/
theorem loadCommands_newerStore :
    loadCommands (M := bitModels) newerStore = ([], newerStore) := by
  obtain ⟨found, maxSupported, hload⟩ := newer_newerStore.load
  have hlibrary : loadLibrary (M := bitModels) newerStore =
      (.unsupportedVersion found maxSupported, newerStore) := hload
  rw [loadCommands, hlibrary]
  rfl

/-- The text of a library with one place and without commands. -/
def placeText : Bytes :=
  StoreJson.toStringPretty (T := bitModels.Document) .library
    (bitStamp.envelope .library (⟨[()], []⟩ : Library Unit Bool))

/-- A save of one place over the live file `old`. -/
def overwritten (d : StoreDir) (old : Bytes) : StoreDir :=
  ((((d.set (.tmp .library) (some (.file placeText))).set (.live .library) none).set
    (.bak .library) (some (.file old))).set (.tmp .library) none).set (.live .library)
      (some (.file placeText))

theorem savePlaces_newerStore :
    (StoreOp.savePlaces (M := bitModels) bitStamp [()]).perform newerStore =
      overwritten newerStore (commandText 2) := by
  rw [StoreOp.perform, savePlaces, loadCommands_newerStore]
  rfl

/-- The newer version is in no file. -/
theorem commandText_ne_placeText : commandText 2 ≠ placeText := by
  intro heq
  have hnewer : StoreJson.peekHeader bitModels.Document (commandText 2) =
      some ⟨.library, 2⟩ := StoreJson.peek_pretty (T := bitModels.Document) _ _
  have hplace : StoreJson.peekHeader bitModels.Document placeText =
      some ⟨.library, 1⟩ := StoreJson.peek_pretty (T := bitModels.Document) _ _
  rw [heq, hplace] at hnewer
  cases hnewer

/-- A stored library without commands gives none. -/
theorem loadCommands_placeText {d : StoreDir}
    (h : d (.live .library) = some (.file placeText)) :
    loadCommands (M := bitModels) d = ([], d) := by
  have hread : readToString d (.live .library) = some placeText :=
    readToString_pretty (T := bitModels.Document) h
  have hparse := @tryParse_pretty bitModels.Document _ .library
    (bitStamp.envelope .library (⟨[()], []⟩ : Library Unit Bool)) rfl rfl
  have hload : loadLibrary (M := bitModels) d = (.loaded ⟨[()], []⟩, d) := by
    rw [loadLibrary, loadDocument, atomicLoad, hread]
    dsimp only
    rw [placeText, hparse]
    rfl
  rw [loadCommands, hload]
  rfl

/-- Saving places twice leaves no byte of a newer library; where only the backup is left,
saving places once loses its commands. -/
theorem savePlaces_destroys :
    (NewerDocument bitModels .library (commandText 2) newerStore ∧
      ∀ n, (StoreOp.savePlaces (M := bitModels) bitStamp [()]).perform
        ((StoreOp.savePlaces (M := bitModels) bitStamp [()]).perform newerStore) n ≠
          some (.file (commandText 2))) ∧
      readableLibrary bitModels backupStore = some ⟨[], [true]⟩ ∧
      readableLibrary bitModels
          ((StoreOp.savePlaces (M := bitModels) bitStamp [()]).perform backupStore) =
        some ⟨[()], []⟩ := by
  refine ⟨⟨newer_newerStore, ?_⟩, ?_, ?_⟩
  · have htwice : (StoreOp.savePlaces (M := bitModels) bitStamp [()]).perform
          (overwritten newerStore (commandText 2)) =
        overwritten (overwritten newerStore (commandText 2)) placeText := by
      have hload : loadCommands (M := bitModels) (overwritten newerStore (commandText 2)) =
          ([], _) := loadCommands_placeText (Dir.set_self _ _ _)
      rw [StoreOp.perform, savePlaces, hload]
      rfl
    intro n
    rw [savePlaces_newerStore, htwice]
    intro hfile
    have hne := commandText_ne_placeText
    generalize commandText 2 = newer at hfile hne
    simp only [overwritten, newerStore, emptyStore, Dir.set, Function.update_apply] at hfile
    split_ifs at hfile
    · exact hne (Node.file.inj (Option.some.inj hfile)).symm
    · exact hne (Node.file.inj (Option.some.inj hfile)).symm
  · have hbak : copyAt bitModels .library (.bak .library) backupStore = some ⟨[], [true]⟩ :=
      copyAt_pretty rfl rfl (Dir.set_self _ _ _)
    exact congrArg₂ Option.or (copyAt_free rfl) hbak
  · have hlive : copyAt bitModels .library (.live .library)
        ((StoreOp.savePlaces (M := bitModels) bitStamp [()]).perform backupStore) =
          some ⟨[()], []⟩ := by
      have hload : loadLibrary (M := bitModels) backupStore = (.default ⟨[], []⟩, backupStore) :=
        @atomicLoad_missing bitModels.Document _ .library backupStore rfl 1
      have hcommands : loadCommands (M := bitModels) backupStore = ([], backupStore) := by
        rw [loadCommands, hload]
        rfl
      refine @copyAt_pretty bitModels _ .library _ _ (bitStamp.envelope .library
        (⟨[()], []⟩ : Library Unit Bool)) rfl rfl ?_
      rw [StoreOp.perform, savePlaces, hcommands]
      rfl
    exact congrArg₂ Option.or hlive rfl

end Example

end Runs

end Client
end Rttx
