import Rttx.Kernel.FileScripts
import Rttx.Server.ScreenPerformer

/-!
# The client's documents

A document is written next to the live file, which is moved to `.bak` before the new
one takes its place.  A missing live file is taken for a first run; a malformed one is
moved into `backups/` and its backup is loaded; a newer version is refused.

**Results.**
* `atomicLoad_eq_default_iff`: the default is loaded exactly if the live file is missing.
* `loaded_set_tmp`: what is loaded does not depend on the temporary file.
* `tryParse_pretty`: what is written can be read.
* `save_survives_iff`: a document survives every crash in a save if and only if the save
  stops before it moves the live file.
-/

namespace Rttx
namespace Client

open Kernel Server

section Documents

/-- Known document schemas. -/
inductive Schema
  | preferences
  | hosts
  | library
  | workspaces
  | ui
  | runtimeCache
  | migrations
  | exported
deriving DecidableEq

/-- Self-describing envelope of every document. -/
structure DocumentEnvelope (T : Type) where
  schema : Schema
  version : Nat
  appVersion : String
  writtenAt : String
  data : T
deriving DecidableEq

structure EnvelopeHeader where
  schema : Schema
  version : Nat
deriving DecidableEq

inductive EnvelopeError
  | schemaMismatch (expected found : Schema)
  | unsupportedVersion (schema : Schema) (found maxSupported : Nat)
deriving DecidableEq

/-- The header is of the expected schema and of a supported version. -/
def validateHeader (header : EnvelopeHeader) (expected : Schema) (maxSupported : Nat) :
    Except EnvelopeError Unit :=
  if header.schema ≠ expected then
    .error (.schemaMismatch expected header.schema)
  else if header.version > maxSupported then
    .error (.unsupportedVersion expected header.version maxSupported)
  else
    .ok ()

/-- The version this client writes. -/
def currentVersion : Schema → Nat
  | .preferences => 2
  | _ => 1

/-- The JSON reader and writer for the documents `T`; what it writes is text that reads
back. -/
class StoreJson (T : Schema → Type) where
  default : (schema : Schema) → T schema
  peekHeader : Bytes → Option EnvelopeHeader
  fromStr : (schema : Schema) → Bytes → Option (DocumentEnvelope (T schema))
  toStringPretty : (schema : Schema) → DocumentEnvelope (T schema) → Bytes
  utf8_pretty : ∀ schema envelope, (utf8Text (toStringPretty schema envelope)).isSome
  peek_pretty : ∀ schema envelope,
    peekHeader (toStringPretty schema envelope) = some ⟨envelope.schema, envelope.version⟩
  fromStr_pretty : ∀ schema envelope,
    ((fromStr schema (toStringPretty schema envelope)).map DocumentEnvelope.data) =
      some envelope.data

end Documents

section Files

/-- The names of the store: of each document the live file, the temporary file, the
backup and what is preserved of a malformed file; the `backups/` folder; and what the
user keeps elsewhere. -/
inductive StoreFile
  | live (schema : Schema)
  | tmp (schema : Schema)
  | bak (schema : Schema)
  | preserved (schema : Schema)
  | backups
  | outside (path : String)
deriving DecidableEq

abbrev StoreDir := Dir StoreFile

/-- The text of a file. -/
def readToString (d : StoreDir) (n : StoreFile) : Option Bytes :=
  (d.read n).filter fun data => (utf8Text data).isSome

variable {T : Schema → Type} [StoreJson T]

open StoreJson

/-- Write a document. -/
def atomicSave (schema : Schema) (envelope : DocumentEnvelope (T schema)) : Script StoreFile :=
  .must (.write (.tmp schema) (toStringPretty schema envelope))
    (.mustIf (.live schema) (.rename (.live schema) (.bak schema))
      (.must (.rename (.tmp schema) (.live schema)) .done))

/-- Outcome of loading a document. -/
inductive LoadOutcome (A : Type)
  | loaded (a : A)
  | recovered (a : A)
  | default (a : A)
  | defaultAfterFailure (a : A)
  | unsupportedVersion (found maxSupported : Nat)
deriving DecidableEq

/-- The loaded value, if any. -/
def LoadOutcome.intoValue {A : Type} : LoadOutcome A → Option A
  | .loaded a | .recovered a | .default a | .defaultAfterFailure a => some a
  | .unsupportedVersion _ _ => none

inductive ParseResult (A : Type)
  | ok (a : A)
  | unsupportedVersion (found maxSupported : Nat)
  | malformed
deriving DecidableEq

def tryParse (schema : Schema) (maxVersion : Nat) (json : Bytes) : ParseResult (T schema) :=
  match peekHeader T json with
  | none => .malformed
  | some header =>
      match validateHeader header schema maxVersion with
      | .error (.unsupportedVersion _ found maxSupported) =>
          .unsupportedVersion found maxSupported
      | .error _ => .malformed
      | .ok _ =>
          match fromStr schema json with
          | some envelope => .ok envelope.data
          | none => .malformed

/-- Load the backup. -/
def tryBackupOrDefault (schema : Schema) (maxVersion : Nat) (d : StoreDir) :
    LoadOutcome (T schema) :=
  match (readToString d (.bak schema)).map (tryParse schema maxVersion) with
  | some (.ok data) => .recovered data
  | _ => .defaultAfterFailure (StoreJson.default schema)

/-- Move a malformed live file into `backups/`. -/
def preserveMalformed (schema : Schema) (d : StoreDir) : StoreDir :=
  match d .backups with
  | some (.file _) | some (.link _) => d
  | _ =>
      let d := d.set .backups (some .folder)
      ((FileOp.rename (.live schema) (.preserved schema)).apply d).getD d

/-- Load a document. -/
def atomicLoad (schema : Schema) (maxVersion : Nat) (d : StoreDir) :
    LoadOutcome (T schema) × StoreDir :=
  match readToString d (.live schema) with
  | none =>
      if d.present (.live schema) then
        (tryBackupOrDefault schema maxVersion d, d)
      else
        (.default (StoreJson.default schema), d)
  | some json =>
      match tryParse schema maxVersion json with
      | .ok data => (.loaded data, d)
      | .unsupportedVersion found maxSupported => (.unsupportedVersion found maxSupported, d)
      | .malformed =>
          let d := preserveMalformed schema d
          (tryBackupOrDefault schema maxVersion d, d)

end Files

section Loading

/-- Links lead out of the store, and no temporary file is one. -/
structure LinksOut (d : StoreDir) : Prop where
  target : ∀ n m, d n = some (.link m) → ∃ path, m = .outside path
  tmp_plain : ∀ schema m, d (.tmp schema) ≠ some (.link m)

theorem LinksOut.resolve_ne {d : StoreDir} {n m : StoreFile}
    (h : LinksOut d)
    (hm : ∀ path, m ≠ .outside path)
    (hn : n ≠ m) :
    d.resolve n ≠ m := by
  refine Dir.resolve_ne hn fun hlink => ?_
  obtain ⟨path, hpath⟩ := h.target n m hlink
  exact hm path hpath

/-- A name of the store that changes does not change what the others read. -/
theorem LinksOut.read_set {d : StoreDir}
    (h : LinksOut d)
    (n m : StoreFile)
    (hm : ∀ path, m ≠ .outside path)
    (hn : n ≠ m)
    (node : Option (Node StoreFile)) :
    (d.set m node).read n = d.read n :=
  Dir.read_set hn (h.resolve_ne hm hn) node

theorem LinksOut.present_set {d : StoreDir}
    (h : LinksOut d)
    (n m : StoreFile)
    (hm : ∀ path, m ≠ .outside path)
    (hn : n ≠ m)
    (node : Option (Node StoreFile)) :
    (d.set m node).present n = d.present n :=
  Dir.present_set hn (h.resolve_ne hm hn) node

theorem LinksOut.set {d : StoreDir}
    (h : LinksOut d)
    (n : StoreFile)
    {node : Option (Node StoreFile)}
    (hnode : ∀ m, node = some (.link m) → (∃ path, m = .outside path) ∧
      ∀ schema, n ≠ .tmp schema) :
    LinksOut (d.set n node) := by
  constructor
  · intro n' m hlink
    by_cases hn : n' = n
    · subst hn
      rw [Dir.set_self] at hlink
      exact (hnode m hlink).1
    · rw [Dir.set_of_ne hn] at hlink
      exact h.target n' m hlink
  · intro schema m hlink
    by_cases hn : StoreFile.tmp schema = n
    · subst hn
      rw [Dir.set_self] at hlink
      exact (hnode m hlink).2 schema rfl
    · rw [Dir.set_of_ne hn] at hlink
      exact h.tmp_plain schema m hlink

/-- The live file of a state after a malformed one has been preserved. -/
theorem preserveMalformed_cases (schema : Schema) (d : StoreDir) :
    preserveMalformed schema d = d ∨
      preserveMalformed schema d = d.set .backups (some .folder) ∨
      ∃ node, d (.live schema) = some node ∧
        preserveMalformed schema d =
          ((d.set .backups (some .folder)).set (.live schema) none).set (.preserved schema)
            (some node) := by
  rw [preserveMalformed]
  split
  · exact Or.inl rfl
  · exact Or.inl rfl
  · right
    dsimp only
    cases hrename : (FileOp.rename (.live schema) (.preserved schema)).apply
        (d.set .backups (some .folder)) with
    | none => exact Or.inl rfl
    | some d' =>
        obtain ⟨node, hnode, hmoved⟩ := Option.bind_eq_some_iff.mp hrename
        split at hmoved
        · cases hmoved
        · exact Or.inr ⟨node, hnode, (Option.some.inj hmoved).symm⟩

/-- Preserving a malformed file leaves the backups of documents alone. -/
theorem LinksOut.read_preserve {d : StoreDir}
    (h : LinksOut d)
    (schema schema' : Schema) :
    (preserveMalformed schema d).read (.bak schema') = d.read (.bak schema') := by
  have hbackups : LinksOut (d.set .backups (some .folder)) := h.set _ nofun
  have hread : (d.set .backups (some .folder)).read (.bak schema') = d.read (.bak schema') :=
    h.read_set (.bak schema') .backups nofun nofun _
  rcases preserveMalformed_cases schema d with heq | heq | ⟨node, hnode, heq⟩
  · rw [heq]
  · rw [heq, hread]
  · have hmoved : LinksOut ((d.set .backups (some .folder)).set (.live schema) none) :=
      hbackups.set _ nofun
    rw [heq, hmoved.read_set (.bak schema') (.preserved schema) nofun nofun,
      hbackups.read_set (.bak schema') (.live schema) nofun nofun, hread]

theorem LinksOut.preserve {d : StoreDir}
    (h : LinksOut d)
    (schema : Schema) :
    LinksOut (preserveMalformed schema d) := by
  have hbackups : LinksOut (d.set .backups (some .folder)) := h.set _ nofun
  rcases preserveMalformed_cases schema d with heq | heq | ⟨node, hnode, heq⟩
  · rw [heq]
    exact h
  · rw [heq]
    exact hbackups
  · have hmoved : LinksOut ((d.set .backups (some .folder)).set (.live schema) none) :=
      hbackups.set _ nofun
    rw [heq]
    refine hmoved.set _ fun m hlink => ⟨?_, nofun⟩
    exact h.target (.live schema) m (hnode.trans hlink)

variable {T : Schema → Type} [StoreJson T]

/-- The outcome for a live file that reads `live` and a backup that reads `bak`. -/
def outcomeOf (schema : Schema) (maxVersion : Nat) (live : Option Bytes) (present : Bool)
    (bak : Option Bytes) : LoadOutcome (T schema) :=
  let fallback : LoadOutcome (T schema) :=
    match bak.map (tryParse schema maxVersion) with
    | some (.ok data) => .recovered data
    | _ => .defaultAfterFailure (StoreJson.default schema)
  match live.map (tryParse schema maxVersion) with
  | none => if present then fallback else .default (StoreJson.default schema)
  | some (.ok data) => .loaded data
  | some (.unsupportedVersion found maxSupported) => .unsupportedVersion found maxSupported
  | some .malformed => fallback

theorem LinksOut.atomicLoad_fst {d : StoreDir}
    (h : LinksOut d)
    (schema : Schema) (maxVersion : Nat) :
    (atomicLoad schema maxVersion d).1 =
      (outcomeOf schema maxVersion (readToString d (.live schema)) (d.present (.live schema))
        (readToString d (.bak schema)) : LoadOutcome (T schema)) := by
  rw [atomicLoad, outcomeOf]
  cases readToString d (.live schema) with
  | none =>
      simp only [Option.map_none]
      split <;> rfl
  | some json =>
      simp only [Option.map_some]
      cases tryParse (T := T) schema maxVersion json with
      | ok data => rfl
      | unsupportedVersion found maxSupported => rfl
      | malformed =>
          simp only [tryBackupOrDefault, readToString, h.read_preserve]

/-- What is written at this client's version can be read. -/
theorem tryParse_pretty {schema : Schema} {envelope : DocumentEnvelope (T schema)}
    (hschema : envelope.schema = schema)
    (hversion : envelope.version = currentVersion schema) :
    tryParse schema (currentVersion schema) (StoreJson.toStringPretty schema envelope) =
      .ok envelope.data := by
  have hvalid : validateHeader ⟨envelope.schema, envelope.version⟩ schema
      (currentVersion schema) = .ok () := by
    rw [validateHeader, hschema, hversion, if_neg (not_not_intro rfl),
      if_neg (Nat.lt_irrefl _)]
  have hpeek := StoreJson.peek_pretty schema envelope
  obtain ⟨found, hfound, hdata⟩ := Option.map_eq_some_iff.mp
    (StoreJson.fromStr_pretty schema envelope)
  rw [tryParse, hpeek]
  simp only [hvalid, hfound, hdata]

/-- The text of a written file. -/
theorem readToString_pretty {schema : Schema} {envelope : DocumentEnvelope (T schema)}
    {n : StoreFile} {d : StoreDir}
    (h : d n = some (.file (StoreJson.toStringPretty schema envelope))) :
    readToString d n = some (StoreJson.toStringPretty schema envelope) := by
  have hplain : ∀ target, d n ≠ some (.link target) := by
    intro target hlink
    rw [h] at hlink
    cases hlink
  rw [readToString, (Dir.read_plain hplain).mpr h, Option.filter_some,
    if_pos (StoreJson.utf8_pretty schema envelope)]

end Loading

section Samples

/-- A short way to write the documents `T`. -/
structure DocumentCode (T : Schema → Type) where
  default : (schema : Schema) → T schema
  encode : (schema : Schema) → T schema → List Bool
  decode : (schema : Schema) → List Bool → T schema
  decode_encode : ∀ schema data, decode schema (encode schema data) = data

def schemaLetter : Schema → Char
  | .preferences => 'p'
  | .hosts => 'h'
  | .library => 'l'
  | .workspaces => 'w'
  | .ui => 'u'
  | .runtimeCache => 'r'
  | .migrations => 'm'
  | .exported => 'e'

def schemaOfLetter (c : Char) : Option Schema :=
  [Schema.preferences, .hosts, .library, .workspaces, .ui, .runtimeCache, .migrations,
    .exported].find? fun schema => schemaLetter schema == c

theorem schemaOfLetter_letter (schema : Schema) :
    schemaOfLetter (schemaLetter schema) = some schema := by
  cases schema <;> decide

namespace DocumentCode

variable {T : Schema → Type}

/-- The letter of the schema, a `v` for each version, and the bits of the document. -/
def text (code : DocumentCode T) (schema : Schema) (envelope : DocumentEnvelope (T schema)) :
    String :=
  String.ofList (schemaLetter envelope.schema :: (List.replicate envelope.version 'v' ++
    (code.encode schema envelope.data).map fun bit => if bit then '1' else '0'))

/-- The header and the bits of a text. -/
def parse (data : Bytes) : Option (EnvelopeHeader × List Bool) :=
  match (utf8Text data).map String.toList with
  | some (letter :: rest) =>
      (schemaOfLetter letter).map fun schema =>
        (⟨schema, rest.count 'v'⟩, (rest.filter (· != 'v')).map (· == '1'))
  | _ => none

theorem parse_text (code : DocumentCode T) (schema : Schema)
    (envelope : DocumentEnvelope (T schema)) :
    parse (bytesOf (code.text schema envelope)) =
      some (⟨envelope.schema, envelope.version⟩, code.encode schema envelope.data) := by
  have hbits : ∀ bits : List Bool,
      (bits.map fun bit => if bit then '1' else '0').count 'v' = 0 ∧
        ((bits.map fun bit => if bit then '1' else '0').filter (· != 'v')).map (· == '1') =
          bits := by
    intro bits
    induction bits with
    | nil => exact ⟨rfl, rfl⟩
    | cons bit rest ih =>
        cases bit with
        | false => exact ⟨ih.1, congrArg (false :: ·) ih.2⟩
        | true => exact ⟨ih.1, congrArg (true :: ·) ih.2⟩
  obtain ⟨hcount, hfilter⟩ := hbits (code.encode schema envelope.data)
  have hnone : (List.replicate envelope.version 'v').filter (· != 'v') = [] := by
    rw [List.filter_replicate]
    rfl
  rw [parse, utf8Text_bytesOf, text, Option.map_some, String.toList_ofList]
  dsimp only
  rw [schemaOfLetter_letter, Option.map_some, List.count_append, List.count_replicate_self,
    hcount, List.filter_append, hnone, List.nil_append, hfilter]
  rfl

/-- A reader and writer of documents. -/
@[reducible] def storeJson (code : DocumentCode T) : StoreJson T where
  default := code.default
  peekHeader := fun data => (parse data).map Prod.fst
  fromStr := fun schema data => (parse data).map fun found =>
    ⟨found.1.schema, found.1.version, "", "", code.decode schema found.2⟩
  toStringPretty := fun schema envelope => bytesOf (code.text schema envelope)
  utf8_pretty := by
    intro schema envelope
    rw [utf8Text_bytesOf]
    rfl
  peek_pretty := by
    intro schema envelope
    rw [parse_text]
    rfl
  fromStr_pretty := by
    intro schema envelope
    rw [parse_text, Option.map_some, Option.map_some, code.decode_encode]

end DocumentCode

/-- Documents that are bits. -/
instance bitDocuments : StoreJson fun _ => List Bool :=
  DocumentCode.storeJson ⟨fun _ => [], fun _ bits => bits, fun _ bits => bits, fun _ _ => rfl⟩

/-- An empty store. -/
def emptyStore : StoreDir := fun _ => none

theorem linksOut_emptyStore : LinksOut emptyStore :=
  ⟨nofun, nofun⟩

end Samples

section Survival

variable {T : Schema → Type} [StoreJson T]

open StoreJson

/-- Loading finds the document `data`. -/
def Returns (schema : Schema) (d : StoreDir) (data : T schema) : Prop :=
  (atomicLoad schema (currentVersion schema) d).1 = .loaded data ∨
    (atomicLoad schema (currentVersion schema) d).1 = .recovered data

/-- A missing live file is taken for a first run. -/
theorem atomicLoad_missing {schema : Schema} {d : StoreDir}
    (h : d.present (.live schema) = false)
    (maxVersion : Nat) :
    atomicLoad schema maxVersion d = (.default (StoreJson.default schema : T schema), d) := by
  have hread : readToString d (.live schema) = none := by
    rw [readToString]
    cases hdata : d.read (.live schema) with
    | none => rfl
    | some data =>
        rw [Dir.present_of_read hdata] at h
        cases h
  rw [atomicLoad, hread]
  simp only [h, Bool.false_eq_true, if_false]

theorem Returns.present {schema : Schema} {d : StoreDir} {data : T schema}
    (h : Returns schema d data) :
    d.present (.live schema) = true := by
  by_contra hmissing
  rw [Bool.not_eq_true] at hmissing
  rw [Returns, atomicLoad_missing hmissing] at h
  rcases h with h | h <;> cases h

theorem LinksOut.set_tmp {d : StoreDir}
    (h : LinksOut d)
    (schema : Schema) (data : Bytes) :
    LinksOut (d.set (.tmp schema) (some (.file data))) :=
  h.set _ nofun

/-- What is loaded does not depend on the temporary file. -/
theorem LinksOut.returns_set_tmp {d : StoreDir}
    (h : LinksOut d)
    (schema : Schema) (data : Bytes) (document : T schema) :
    Returns schema (d.set (.tmp schema) (some (.file data))) document ↔
      Returns schema d document := by
  have hlive := h.read_set (.live schema) (.tmp schema) nofun nofun (some (.file data))
  have hbak := h.read_set (.bak schema) (.tmp schema) nofun nofun (some (.file data))
  have hpresent := h.present_set (.live schema) (.tmp schema) nofun nofun (some (.file data))
  simp only [Returns, (h.set_tmp schema data).atomicLoad_fst, h.atomicLoad_fst, readToString,
    hlive, hbak, hpresent]

/-- Whatever a crash in the save leaves, loading finds the old document or the new. -/
def SaveSurvives (schema : Schema) (d : StoreDir) (old : T schema)
    (envelope : DocumentEnvelope (T schema)) : Prop :=
  ∀ c, (atomicSave schema envelope).Leaves d c →
    Returns schema c old ∨ Returns schema c envelope.data

/-- The save stops before it moves the live file: the temporary file is a folder, or the
live file cannot take the name of the backup. -/
def SaveStops (schema : Schema) (d : StoreDir) : Prop :=
  d (.tmp schema) = some .folder ∨
    ∃ node, d (.live schema) = some node ∧ renameRefused node (d (.bak schema)) = true

/-- A live file that is present is a node that can be moved. -/
theorem node_of_present {d : StoreDir} {n : StoreFile}
    (h : d.present n = true) :
    ∃ node, d n = some node := by
  cases hnode : d n with
  | some node => exact ⟨node, rfl⟩
  | none =>
      have hresolve : d.resolve n = n := Dir.resolve_plain fun target hlink => by
        rw [hnode] at hlink
        cases hlink
      rw [Dir.present, hresolve, hnode] at h
      cases h

/-- **Any state survives a save if and only if it holds a document and the save stops
before it moves the live file**: between the two renames there is no live file. -/
theorem saveSurvives_iff_stops {schema : Schema} {d : StoreDir}
    (h : LinksOut d)
    (old : T schema) (envelope : DocumentEnvelope (T schema)) :
    SaveSurvives schema d old envelope ↔
      (Returns schema d old ∨ Returns schema d envelope.data) ∧ SaveStops schema d := by
  constructor
  · intro hsurvives
    have hstart := hsurvives d (Script.leaves_start _ _)
    refine ⟨hstart, ?_⟩
    by_contra hgoes
    rw [SaveStops, not_or] at hgoes
    have hpresent : d.present (.live schema) = true := hstart.elim Returns.present Returns.present
    obtain ⟨node, hnode⟩ := node_of_present hpresent
    have hwrite := FileOp.writeFile_of_plain (h.tmp_plain schema) hgoes.1
      (toStringPretty schema envelope)
    have hpresent₁ : (d.set (.tmp schema) (some (.file (toStringPretty schema envelope)))).present
        (.live schema) = true := by
      rw [h.present_set (.live schema) (.tmp schema) (by simp) (by simp), hpresent]
    have hrename : (FileOp.rename (.live schema) (.bak schema)).apply
          (d.set (.tmp schema) (some (.file (toStringPretty schema envelope)))) =
        some (((d.set (.tmp schema) (some (.file (toStringPretty schema envelope)))).set
          (.live schema) none).set (.bak schema) (some node)) := by
      have hlive : (d.set (.tmp schema) (some (.file (toStringPretty schema envelope))))
          (.live schema) = some node := hnode
      have hfree : ¬ renameRefused node ((d.set (.tmp schema)
          (some (.file (toStringPretty schema envelope)))) (.bak schema)) = true :=
        fun hrefused => hgoes.2 ⟨node, hnode, hrefused⟩
      rw [FileOp.apply, hlive, Option.bind_some, if_neg hfree]
    have hleaves : (atomicSave schema envelope).Leaves d
        (((d.set (.tmp schema) (some (.file (toStringPretty schema envelope)))).set
          (.live schema) none).set (.bak schema) (some node)) := by
      refine Or.inr (Or.inr ⟨_, hwrite, ?_⟩)
      rw [Script.Leaves, if_pos hpresent₁]
      exact Or.inr (Or.inr ⟨_, hrename, Script.leaves_start _ _⟩)
    have hmissing := (hsurvives _ hleaves).elim Returns.present Returns.present
    obtain ⟨found, hfound⟩ := node_of_present hmissing
    have hne : StoreFile.live schema ≠ .bak schema := by simp
    rw [Dir.set_of_ne hne, Dir.set_self] at hfound
    cases hfound
  · rintro ⟨hreturns, hstops⟩ c hleaves
    have hpresent : d.present (.live schema) = true :=
      hreturns.elim Returns.present Returns.present
    have htmp : ∀ data, Returns schema (d.set (.tmp schema) (some (.file data))) old ∨
        Returns schema (d.set (.tmp schema) (some (.file data))) envelope.data := by
      intro data
      rw [h.returns_set_tmp, h.returns_set_tmp]
      exact hreturns
    rcases hleaves with rfl | ⟨k, hwrite⟩ | ⟨d₁, hwrite, hrest⟩
    · exact hreturns
    · rw [FileOp.writeFile_plain (h.tmp_plain schema) hwrite]
      exact htmp _
    · obtain rfl := FileOp.writeFile_plain (h.tmp_plain schema) hwrite
      have hnot := FileOp.writeFile_not_folder hwrite
      rw [Dir.resolve_plain (h.tmp_plain schema)] at hnot
      obtain ⟨node, hnode, hrefused⟩ := hstops.resolve_left hnot
      have hpresent₁ : (d.set (.tmp schema)
          (some (.file (toStringPretty schema envelope)))).present (.live schema) = true := by
        rw [h.present_set (.live schema) (.tmp schema) (by simp) (by simp), hpresent]
      rw [Script.Leaves, if_pos hpresent₁] at hrest
      rcases hrest with rfl | htorn | ⟨d₂, hrename, _⟩
      · exact htmp _
      · exact htorn.elim
      · have hlive : (d.set (.tmp schema) (some (.file (toStringPretty schema envelope))))
            (.live schema) = some node := hnode
        have hrefused₁ : renameRefused node ((d.set (.tmp schema)
            (some (.file (toStringPretty schema envelope)))) (.bak schema)) = true := hrefused
        rw [FileOp.apply, hlive, Option.bind_some, if_pos hrefused₁] at hrename
        cases hrename

/-- Loading changes nothing or preserves a malformed live file. -/
theorem atomicLoad_snd (schema : Schema) (maxVersion : Nat) (d : StoreDir) :
    (atomicLoad (T := T) schema maxVersion d).2 = d ∨
      (atomicLoad (T := T) schema maxVersion d).2 = preserveMalformed schema d := by
  rw [atomicLoad]
  cases readToString d (.live schema) with
  | none =>
      left
      dsimp only
      split <;> rfl
  | some json =>
      dsimp only
      cases tryParse (T := T) schema maxVersion json with
      | ok data => exact Or.inl rfl
      | unsupportedVersion found maxSupported => exact Or.inl rfl
      | malformed => exact Or.inr rfl

theorem LinksOut.atomicLoad_snd {d : StoreDir}
    (h : LinksOut d)
    (schema : Schema) (maxVersion : Nat) :
    LinksOut (atomicLoad (T := T) schema maxVersion d).2 := by
  rcases Client.atomicLoad_snd (T := T) schema maxVersion d with heq | heq
  · rw [heq]
    exact h
  · rw [heq]
    exact h.preserve schema

/-- A document that was found is found again unless loading moved the live file. -/
theorem Returns.again {schema : Schema} {d : StoreDir} {data : T schema}
    (h : Returns schema d data)
    (hlinks : LinksOut d)
    (hpresent : (atomicLoad (T := T) schema (currentVersion schema) d).2.present (.live schema) =
      true) :
    Returns schema (atomicLoad (T := T) schema (currentVersion schema) d).2 data := by
  rcases atomicLoad_snd (T := T) schema (currentVersion schema) d with heq | heq
  · rw [heq]
    exact h
  · rw [heq] at hpresent ⊢
    rcases preserveMalformed_cases schema d with hsame | hbackups | ⟨node, _, hmoved⟩
    · rw [hsame]
      exact h
    · have hlinks' : LinksOut (d.set .backups (some .folder)) := hlinks.set _ nofun
      rw [hbackups]
      simp only [Returns, hlinks'.atomicLoad_fst, readToString,
        hlinks.read_set (.live schema) .backups nofun nofun,
        hlinks.read_set (.bak schema) .backups nofun nofun,
        hlinks.present_set (.live schema) .backups nofun nofun]
      simpa only [Returns, hlinks.atomicLoad_fst, readToString] using h
    · obtain ⟨found, hfound⟩ := node_of_present hpresent
      have hne : StoreFile.live schema ≠ .preserved schema := nofun
      rw [hmoved, Dir.set_of_ne hne, Dir.set_self] at hfound
      cases hfound

/-- **A document survives every crash in a save if and only if the save stops before it
moves the live file**; and after a load that has moved a malformed live file away it
survives no save. -/
theorem save_survives_iff {schema : Schema} {d : StoreDir} {old : T schema}
    (hlinks : LinksOut d)
    (hold : Returns schema d old)
    (envelope : DocumentEnvelope (T schema)) :
    (SaveSurvives schema d old envelope ↔ SaveStops schema d) ∧
      (SaveSurvives schema (atomicLoad (T := T) schema (currentVersion schema) d).2 old envelope ↔
        (atomicLoad (T := T) schema (currentVersion schema) d).2.present (.live schema) = true ∧
          SaveStops schema (atomicLoad (T := T) schema (currentVersion schema) d).2) := by
  constructor
  · rw [saveSurvives_iff_stops hlinks]
    exact ⟨fun h => h.2, fun h => ⟨Or.inl hold, h⟩⟩
  · rw [saveSurvives_iff_stops (hlinks.atomicLoad_snd schema _)]
    constructor
    · rintro ⟨hreturns, hstops⟩
      exact ⟨hreturns.elim Returns.present Returns.present, hstops⟩
    · rintro ⟨hpresent, hstops⟩
      exact ⟨Or.inl (hold.again hlinks hpresent), hstops⟩

section Example

/-- The hosts document with the bit `bit`. -/
def hostsOf (bit : Bool) : DocumentEnvelope (List Bool) :=
  ⟨.hosts, 1, "0.1.0", "", [bit]⟩

/-- A store that holds a hosts document. -/
def hostsStore : StoreDir :=
  emptyStore.set (.live .hosts)
    (some (.file (StoreJson.toStringPretty (T := fun _ => List Bool) .hosts (hostsOf true))))

theorem linksOut_hostsStore : LinksOut hostsStore :=
  linksOut_emptyStore.set _ nofun

theorem returns_hostsStore :
    Returns (T := fun _ => List Bool) .hosts hostsStore [true] := by
  have hread : readToString hostsStore (.live .hosts) = some _ :=
    readToString_pretty (T := fun _ => List Bool) (Dir.set_self _ _ _)
  have hparse := @tryParse_pretty (fun _ => List Bool) _ .hosts (hostsOf true) rfl rfl
  left
  rw [atomicLoad, hread]
  simp only [hparse]
  rfl

theorem save_survives_iff_hosts :
    LinksOut hostsStore ∧
      Returns (T := fun _ => List Bool) .hosts hostsStore [true] ∧
      (SaveSurvives (T := fun _ => List Bool) .hosts hostsStore [true] (hostsOf false) ↔
        SaveStops .hosts hostsStore) :=
  ⟨linksOut_hostsStore, returns_hostsStore,
    (save_survives_iff linksOut_hostsStore returns_hostsStore (hostsOf false)).1⟩

/-- A crash between the two renames: the stored hosts are not loaded again. -/
theorem save_loses_hosts :
    Returns (T := fun _ => List Bool) .hosts hostsStore [true] ∧
      ∃ c, (atomicSave (T := fun _ => List Bool) .hosts (hostsOf false)).Leaves hostsStore c ∧
        (atomicLoad (T := fun _ => List Bool) .hosts 1 c).1 = .default [] := by
  have hne : StoreFile.live .hosts ≠ .bak .hosts := nofun
  refine ⟨returns_hostsStore, ?_⟩
  refine ⟨((hostsStore.set (.tmp .hosts) (some (.file
    (StoreJson.toStringPretty (T := fun _ => List Bool) .hosts (hostsOf false))))).set
    (.live .hosts) none).set (.bak .hosts) (some (.file
    (StoreJson.toStringPretty (T := fun _ => List Bool) .hosts (hostsOf true)))), ?_, ?_⟩
  · refine Or.inr (Or.inr ⟨_, rfl, ?_⟩)
    refine Or.inr (Or.inr ⟨_, rfl, Or.inl rfl⟩)
  · rw [atomicLoad_missing]
    · rfl
    · rfl

end Example

end Survival

section Frames

variable {T : Schema → Type} [StoreJson T]

open StoreJson

/-- What is the same about other documents after a save. -/
structure Untouched (schema : Schema) (d c : StoreDir) : Prop where
  links : LinksOut c
  same : ∀ n, n ≠ .live schema → n ≠ .tmp schema → n ≠ .bak schema → c n = d n

/-- A save touches the three files of its document. -/
theorem untouched_of_leaves {schema : Schema} {d c : StoreDir}
    {envelope : DocumentEnvelope (T schema)}
    (h : LinksOut d)
    (hleaves : (atomicSave schema envelope).Leaves d c) :
    Untouched schema d c := by
  have hset : ∀ {c : StoreDir} (n : StoreFile) {node : Option (Node StoreFile)},
      Untouched schema d c →
      (∀ m, node = some (.link m) → (∃ path, m = .outside path) ∧ ∀ schema, n ≠ .tmp schema) →
      (n = .live schema ∨ n = .tmp schema ∨ n = .bak schema) →
      Untouched schema d (c.set n node) := by
    intro c n node hc hnode hn
    refine ⟨hc.links.set n hnode, ?_⟩
    intro m hlive htmp hbak
    have hm : m ≠ n := by
      rintro rfl
      rcases hn with hn | hn | hn
      · exact hlive hn
      · exact htmp hn
      · exact hbak hn
    rw [Dir.set_of_ne hm]
    exact hc.same m hlive htmp hbak
  have hrename : ∀ {c c' : StoreDir} (src dst : StoreFile), Untouched schema d c →
      (src = .live schema ∨ src = .tmp schema) → (dst = .live schema ∨ dst = .bak schema) →
      (FileOp.rename src dst).apply c = some c' → Untouched schema d c' := by
    intro c c' src dst hc hsrc hdst happly
    obtain ⟨node, hnode, hmoved⟩ := Option.bind_eq_some_iff.mp happly
    split at hmoved
    · cases hmoved
    · rw [← Option.some.inj hmoved]
      refine hset dst (hset src hc nofun ?_) ?_ ?_
      · exact hsrc.elim Or.inl fun htmp => Or.inr (Or.inl htmp)
      · intro m hlink
        refine ⟨hc.links.target src m (hnode.trans hlink), ?_⟩
        rintro schema' rfl
        rcases hdst with hdst | hdst <;> cases hdst
      · exact hdst.elim Or.inl fun hbak => Or.inr (Or.inr hbak)
  refine hleaves.invariant ?_ ?_ ⟨h, fun _ _ _ _ => rfl⟩
  · intro op hop c c' hc happly
    simp only [atomicSave, Script.ops, List.mem_cons, List.not_mem_nil, or_false] at hop
    rcases hop with rfl | rfl | rfl
    · rw [FileOp.writeFile_plain (hc.links.tmp_plain schema) happly]
      exact hset _ hc nofun (Or.inr (Or.inl rfl))
    · exact hrename _ _ hc (Or.inl rfl) (Or.inr rfl) happly
    · exact hrename _ _ hc (Or.inr rfl) (Or.inl rfl) happly
  · intro op hop c c' hc htorn
    simp only [atomicSave, Script.ops, List.mem_cons, List.not_mem_nil, or_false] at hop
    rcases hop with rfl | rfl | rfl
    · obtain ⟨k, hwrite⟩ := htorn
      rw [FileOp.writeFile_plain (hc.links.tmp_plain schema) hwrite]
      exact hset _ hc nofun (Or.inr (Or.inl rfl))
    · exact htorn.elim
    · exact htorn.elim

/-- A name that is the same, and whose links lead to what is the same, reads the same. -/
theorem read_congr {d c : StoreDir} {n : StoreFile}
    (h : LinksOut d)
    (hsame : c n = d n)
    (houtside : ∀ path, c (.outside path) = d (.outside path)) :
    c.read n = d.read n := by
  have hresolve : c.resolve n = d.resolve n := by
    rw [Dir.resolve, hsame, Dir.resolve]
  have hat : c (d.resolve n) = d (d.resolve n) := by
    rw [Dir.resolve]
    split
    · rename_i target hlink
      obtain ⟨path, rfl⟩ := h.target n target hlink
      exact houtside path
    · exact hsame
  rw [Dir.read, hresolve, hat, Dir.read]

theorem Untouched.read_live {schema schema' : Schema} {d c : StoreDir}
    (hc : Untouched schema d c)
    (h : LinksOut d)
    (hne : schema' ≠ schema) :
    c.read (.live schema') = d.read (.live schema') := by
  refine read_congr h (hc.same _ ?_ nofun nofun) fun path => hc.same _ nofun nofun nofun
  intro heq
  injection heq with hschema
  exact hne hschema

end Frames

end Client
end Rttx
