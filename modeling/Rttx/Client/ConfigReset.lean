import Rttx.Client.StoreOperations

/-!
# What a reset of the configuration forgets

A reset removes the live files of the four user-facing documents and leaves their
backups.  A backup is loaded where the live file is there and cannot be read, and only a
save over a live file renews it, so that the backup of a time before the reset may be
loaded after it.

The runs here are of loads, saves, crashes in a save, resets, resets that stop on the way,
and files that are spoiled.  They carry the values that were saved since the last reset
that succeeded.

**Results.**
* `returns_iff`: what a load returns, from the two files of a document.
* `leaves_cases`: what a crash in a save leaves of the live file.
* `guarded_forgets`: a reset forgets in every run that spoils no live file whose backup is
  older than the reset; and such a step brings back what was forgotten.
* `reset_remembers`: a value from before the reset is recovered after it.
-/

namespace Rttx
namespace Client

open Kernel Server

section Returned

variable {M : StoreModels} [StoreJson M.Document]

open StoreJson

/-- The load takes the backup: the live file is there and is no document. -/
def FallsBack (M : StoreModels) [StoreJson M.Document] (schema : Schema) (d : StoreDir) : Prop :=
  match (readToString d (.live schema)).map
      (tryParse (T := M.Document) schema (currentVersion schema)) with
  | none => d.present (.live schema) = true
  | some .malformed => True
  | some _ => False

/-- **What a load returns**: the document of the live file, or that of the backup where
the load takes it. -/
theorem returns_iff {schema : Schema} {d : StoreDir}
    (h : LinksOut d)
    (data : M.Document schema) :
    Returns (T := M.Document) schema d data ↔
      copyAt M schema (.live schema) d = some data ∨
        FallsBack M schema d ∧ copyAt M schema (.bak schema) d = some data := by
  rw [Returns, h.atomicLoad_fst, outcomeOf, FallsBack, copyAt, copyAt]
  generalize (readToString d (.bak schema)).map
    (tryParse (T := M.Document) schema (currentVersion schema)) = bak
  cases (readToString d (.live schema)).map
      (tryParse (T := M.Document) schema (currentVersion schema)) with
  | none =>
      cases hpresent : d.present (.live schema) with
      | false => simp
      | true =>
          rcases bak with _ | parsed
          · simp
          · cases parsed <;> simp
  | some parsed =>
      cases parsed with
      | ok found => simp
      | unsupportedVersion found maxSupported => simp
      | malformed =>
          rcases bak with _ | parsed
          · simp
          · cases parsed <;> simp

end Returned

section Forgetting

variable {M : StoreModels} [StoreJson M.Document] [StoreConversions M]

open StoreJson

/-- Documents that were saved. -/
abbrev Saved (M : StoreModels) := (schema : Schema) → M.Document schema → Prop

/-- The documents that a reset removes. -/
def resetSchemas : List Schema :=
  [.preferences, .library, .hosts, .workspaces]

/-- The outcome of a load gives the value as one that was stored. -/
def LoadOutcome.Gives {A : Type} (outcome : LoadOutcome A) (a : A) : Prop :=
  outcome = .loaded a ∨ outcome = .recovered a

/-- No load gives a value that is not among the saved ones. -/
structure Forgets (since : Saved M) (d : StoreDir) : Prop where
  preferences : ∀ stamp prefs,
    (loadPreferences (M := M) stamp d).1.Gives prefs → since .preferences prefs
  library : ∀ lib, (loadLibrary (M := M) d).1.Gives lib → since .library lib
  hosts : ∀ hosts, (loadHosts (M := M) d).1.Gives hosts → since .hosts hosts
  workspaces : ∀ workspaces,
    (loadWorkspaces (M := M) d).1.Gives workspaces → since .workspaces workspaces

/-- A stored value as its load gives it: preferences of an older version are migrated. -/
def asLoaded (d : StoreDir) : (schema : Schema) → M.Document schema → M.Document schema
  | .preferences, (prefs : M.Preferences) =>
      if (storedDocumentVersion M .preferences d).any (· < currentVersion .preferences) then
        StoreConversions.migrateColorSchemeNames (M := M) prefs
      else
        prefs
  | _, data => data

/-- The load of a document gives no value that is not among the saved ones. -/
def ForgetsAt (since : Saved M) (schema : Schema) (d : StoreDir) : Prop :=
  ∀ data, Returns (T := M.Document) schema d data → since schema (asLoaded d schema data)

/-- The preferences are stored at an older version. -/
def StoredOlder (M : StoreModels) [StoreJson M.Document] (d : StoreDir) : Prop :=
  (storedDocumentVersion M .preferences d).any (· < currentVersion .preferences) = true

theorem asLoaded_older {d : StoreDir}
    (h : StoredOlder M d)
    (prefs : M.Document .preferences) :
    asLoaded d .preferences prefs = StoreConversions.migrateColorSchemeNames (M := M) prefs :=
  if_pos h

theorem asLoaded_current {d : StoreDir}
    (h : ¬ StoredOlder M d)
    (prefs : M.Document .preferences) :
    asLoaded d .preferences prefs = prefs :=
  if_neg h

omit [StoreJson M.Document] [StoreConversions M] in
/-- A stored value that is converted is given as what it is converted to. -/
theorem gives_converted {A : Type} (f : A → A) (outcome : LoadOutcome A) (a : A) :
    LoadOutcome.Gives (match outcome with
      | .loaded found => .loaded (f found)
      | .recovered found => .recovered (f found)
      | other => other) a ↔
      ∃ found, outcome.Gives found ∧ f found = a := by
  cases outcome <;> simp [LoadOutcome.Gives]

theorem loadPreferences_gives (stamp : Stamp) (d : StoreDir) (prefs : M.Preferences) :
    (loadPreferences (M := M) stamp d).1.Gives prefs ↔
      ∃ doc, Returns (T := M.Document) .preferences d doc ∧
        asLoaded d .preferences doc = prefs := by
  have hreturns : ∀ doc, Returns (T := M.Document) .preferences d doc ↔
      (loadDocument (M := M) .preferences d).1.Gives doc := fun _ => Iff.rfl
  simp only [hreturns]
  rw [loadPreferences]
  generalize loadDocument (M := M) .preferences d = loaded
  obtain ⟨outcome, after⟩ := loaded
  dsimp only
  split
  · rename_i hold
    have hgiven : asLoaded (M := M) d .preferences =
        StoreConversions.migrateColorSchemeNames (M := M) := funext (asLoaded_older hold)
    have hgives := gives_converted (StoreConversions.migrateColorSchemeNames (M := M))
      (show LoadOutcome M.Preferences from outcome) prefs
    rw [hgiven]
    cases outcome <;> exact hgives
  · rename_i hcurrent
    have hgiven : asLoaded (M := M) d .preferences = id := funext (asLoaded_current hcurrent)
    have hgives := gives_converted id (show LoadOutcome M.Preferences from outcome) prefs
    rw [hgiven]
    cases outcome <;> exact hgives

theorem forgets_iff (since : Saved M) (d : StoreDir) :
    Forgets since d ↔ ∀ schema ∈ resetSchemas, ForgetsAt since schema d := by
  constructor
  · intro h schema hschema
    simp only [resetSchemas, List.mem_cons, List.not_mem_nil, or_false] at hschema
    rcases hschema with rfl | rfl | rfl | rfl
    · intro doc hdoc
      exact h.preferences ⟨"", ""⟩ _ ((loadPreferences_gives _ d _).mpr ⟨doc, hdoc, rfl⟩)
    · exact h.library
    · exact h.hosts
    · exact h.workspaces
  · intro h
    refine ⟨?_, h .library (by decide), h .hosts (by decide), h .workspaces (by decide)⟩
    intro stamp prefs hgives
    obtain ⟨doc, hdoc, rfl⟩ := (loadPreferences_gives stamp d prefs).mp hgives
    exact h .preferences (by decide) doc hdoc

variable {since : Saved M} {schema : Schema} {d c : StoreDir}

/-- What a load gives depends on what is read of the live file and of the backup. -/
theorem ForgetsAt.of_read
    (h : ForgetsAt since schema d)
    (hd : LinksOut d)
    (hc : LinksOut c)
    (hlive : c.read (.live schema) = d.read (.live schema))
    (hpresent : c.present (.live schema) = d.present (.live schema))
    (hbak : c.read (.bak schema) = d.read (.bak schema)) :
    ForgetsAt since schema c := by
  intro data hdata
  have hreturns : Returns (T := M.Document) schema d data := by
    simp only [Returns, hc.atomicLoad_fst, readToString, hlive, hpresent, hbak] at hdata
    simpa only [Returns, hd.atomicLoad_fst, readToString] using hdata
  have hgiven : asLoaded c schema data = asLoaded d schema data := by
    cases schema with
    | preferences =>
        have hversion : storedDocumentVersion M .preferences c =
            storedDocumentVersion M .preferences d := by
          simp only [storedDocumentVersion, readToString, hlive, hbak]
        by_cases hold : StoredOlder M d
        · have hold' : StoredOlder M c := by rwa [StoredOlder, hversion]
          rw [asLoaded_older hold, asLoaded_older hold']
        · have hold' : ¬ StoredOlder M c := by rwa [StoredOlder, hversion]
          rw [asLoaded_current hold, asLoaded_current hold']
    | _ => rfl
  rw [hgiven]
  exact h data hreturns

theorem present_congr {n : StoreFile}
    (h : LinksOut d)
    (hsame : c n = d n)
    (houtside : ∀ path, c (.outside path) = d (.outside path)) :
    c.present n = d.present n := by
  have hresolve : c.resolve n = d.resolve n := by
    rw [Dir.resolve, hsame, Dir.resolve]
  have hat : c (d.resolve n) = d (d.resolve n) := by
    rw [Dir.resolve]
    split
    · rename_i target hlink
      obtain ⟨path, rfl⟩ := h.target n target hlink
      exact houtside path
    · exact hsame
  rw [Dir.present, hresolve, hat, Dir.present]

/-- A step that changes neither the two files of a document nor what their links lead to
changes nothing for its load. -/
theorem ForgetsAt.of_same
    (h : ForgetsAt since schema d)
    (hd : LinksOut d)
    (hc : LinksOut c)
    (hlive : c (.live schema) = d (.live schema))
    (hbak : c (.bak schema) = d (.bak schema))
    (houtside : ∀ path, c (.outside path) = d (.outside path)) :
    ForgetsAt since schema c :=
  h.of_read hd hc (read_congr hd hlive houtside) (present_congr hd hlive houtside)
    (read_congr hd hbak houtside)

/-- Without a live file nothing is loaded. -/
theorem forgetsAt_missing
    (h : d (.live schema) = none) :
    ForgetsAt since schema d := by
  intro data hdata
  obtain ⟨node, hnode⟩ := node_of_present hdata.present
  rw [h] at hnode
  cases hnode

/-- A live file that a save has written gives what was saved. -/
theorem forgetsAt_written {stamp : Stamp} {data : M.Document schema}
    (h : d (.live schema) = some (.file (toStringPretty schema (stamp.envelope schema data))))
    (hsince : since schema data) :
    ForgetsAt since schema d := by
  have hread := readToString_pretty (T := M.Document) h
  have hload : (atomicLoad (T := M.Document) schema (currentVersion schema) d).1 =
      .loaded data := by
    rw [atomicLoad, hread]
    simp only [@tryParse_pretty M.Document _ schema (stamp.envelope schema data) rfl rfl]
    rfl
  have hgiven : ∀ found : M.Document schema, asLoaded d schema found = found := by
    intro found
    cases schema with
    | preferences =>
        have hversion : storedDocumentVersion M .preferences d = some 2 := by
          simp only [storedDocumentVersion, hread, Option.bind_some, peek_pretty]
          rfl
        have hcurrent : ¬ StoredOlder M d := by
          rw [StoredOlder, hversion]
          decide
        exact asLoaded_current hcurrent found
    | _ => rfl
  intro found hfound
  rw [hgiven]
  rcases hfound with hloaded | hrecovered
  · rw [hload] at hloaded
    cases hloaded
    exact hsince
  · rw [hload] at hrecovered
    cases hrecovered

end Forgetting

section Steps

variable {M : StoreModels} [StoreJson M.Document] [StoreConversions M]
variable {since : Saved M} {schema : Schema} {d c : StoreDir}

open StoreJson

omit [StoreConversions M] in
/-- **What a crash in a save leaves**: every file but the temporary one, or no live file,
or the live file that is written. -/
theorem leaves_cases {envelope : DocumentEnvelope (M.Document schema)}
    (h : LinksOut d)
    (hleaves : (atomicSave (T := M.Document) schema envelope).Leaves d c) :
    (∀ n, n ≠ .tmp schema → c n = d n) ∨
      c (.live schema) = none ∨
      c (.live schema) = some (.file (toStringPretty schema envelope)) := by
  have htmp : ∀ data n, n ≠ StoreFile.tmp schema →
      (d.set (.tmp schema) (some (.file data))) n = d n := fun _ _ hn => Dir.set_of_ne hn _ _
  rw [atomicSave] at hleaves
  generalize toStringPretty schema envelope = json at hleaves ⊢
  rcases hleaves with rfl | ⟨k, hwrite⟩ | ⟨d₁, hwrite, hrest⟩
  · exact Or.inl fun _ _ => rfl
  · left
    rw [FileOp.writeFile_plain (h.tmp_plain schema) hwrite]
    exact htmp _
  · have hset : d₁ = d.set (.tmp schema) (some (.file json)) :=
      FileOp.writeFile_plain (h.tmp_plain schema) hwrite
    have hjson : d₁ (.tmp schema) = some (.file json) := by rw [hset, Dir.set_self]
    have hsame : ∀ n, n ≠ StoreFile.tmp schema → d₁ n = d n := by
      rw [hset]
      exact htmp json
    rw [Script.Leaves] at hrest
    split at hrest
    · rcases hrest with rfl | htorn | ⟨d₂, hrename, hlast⟩
      · exact Or.inl hsame
      · exact htorn.elim
      · obtain ⟨node, _, hmoved⟩ := Option.bind_eq_some_iff.mp hrename
        split at hmoved
        · cases hmoved
        · obtain rfl := Option.some.inj hmoved
          have hbak : StoreFile.live schema ≠ .bak schema := by simp
          have htmpBak : StoreFile.tmp schema ≠ .bak schema := by simp
          have htmpLive : StoreFile.tmp schema ≠ .live schema := by simp
          rcases hlast with rfl | htorn | ⟨d₃, hlastRename, rfl⟩
          · right
            left
            rw [Dir.set_of_ne hbak, Dir.set_self]
          · exact htorn.elim
          · right
            right
            obtain ⟨node', hnode', hmoved'⟩ := Option.bind_eq_some_iff.mp hlastRename
            rw [Dir.set_of_ne htmpBak, Dir.set_of_ne htmpLive, hjson] at hnode'
            cases hnode'
            split at hmoved'
            · cases hmoved'
            · rw [← Option.some.inj hmoved', Dir.set_self]
    · rcases hrest with rfl | htorn | ⟨d₃, hlastRename, rfl⟩
      · exact Or.inl hsame
      · exact htorn.elim
      · right
        right
        obtain ⟨node', hnode', hmoved'⟩ := Option.bind_eq_some_iff.mp hlastRename
        rw [hjson] at hnode'
        cases hnode'
        split at hmoved'
        · cases hmoved'
        · rw [← Option.some.inj hmoved', Dir.set_self]

/-- A save, also one that crashes, of a value that counts as saved. -/
theorem ForgetsAt.leaves {schema' : Schema} {stamp : Stamp} {data : M.Document schema'}
    (h : ForgetsAt since schema d)
    (hd : LinksOut d)
    (hsince : since schema' data)
    (hleaves : (atomicSave (T := M.Document) schema' (stamp.envelope schema' data)).Leaves d c) :
    ForgetsAt since schema c := by
  have huntouched := untouched_of_leaves hd hleaves
  by_cases hschema : schema = schema'
  · subst hschema
    rcases leaves_cases hd hleaves with hsame | hmissing | hwritten
    · exact h.of_same hd huntouched.links (hsame _ (by simp)) (hsame _ (by simp))
        fun _ => hsame _ (by simp)
    · exact forgetsAt_missing hmissing
    · exact forgetsAt_written hwritten hsince
  · have hlive : StoreFile.live schema ≠ .live schema' := by simpa using hschema
    have hbak : StoreFile.bak schema ≠ .bak schema' := by simpa using hschema
    exact h.of_same hd huntouched.links (huntouched.same _ hlive (by simp) (by simp))
      (huntouched.same _ (by simp) (by simp) hbak) fun _ => huntouched.same _ (by simp) (by simp) (by simp)

/-- A save that fails. -/
theorem ForgetsAt.failed {schema' : Schema} {stamp : Stamp} {data : M.Document schema'}
    (h : ForgetsAt since schema d)
    (hd : LinksOut d)
    (hfailed : (saveDocument schema' stamp data d).2 = false) :
    ForgetsAt since schema (saveDocument schema' stamp data d).1 := by
  rcases run_save hd schema' stamp data with ⟨hsaved, _⟩ | ⟨_, hsame⟩
  · exact absurd (hfailed.symm.trans hsaved) Bool.false_ne_true
  · exact h.of_same hd (hd.saveDocument schema' stamp data) (hsame _ (by simp)) (hsame _ (by simp))
      fun _ => hsame _ (by simp)

omit [StoreConversions M] in
/-- What a load may change: a malformed live file is moved away. -/
theorem load_cases (schema' : Schema) (d : StoreDir) :
    ((∀ n, n ≠ .backups → (loadDocument (M := M) schema' d).2 n = d n) ∨
      (loadDocument (M := M) schema' d).2 (.live schema') = none ∧
        ∀ n, n ≠ .backups → n ≠ .live schema' → n ≠ .preserved schema' →
          (loadDocument (M := M) schema' d).2 n = d n) := by
  rcases atomicLoad_snd (T := M.Document) schema' (currentVersion schema') d with heq | heq
  · rw [loadDocument, heq]
    exact Or.inl fun _ _ => rfl
  · rw [loadDocument, heq]
    rcases preserveMalformed_cases schema' d with hkept | hkept | ⟨node, _, hkept⟩
    · rw [hkept]
      exact Or.inl fun _ _ => rfl
    · rw [hkept]
      exact Or.inl fun n hn => Dir.set_of_ne hn _ _
    · have hlive : StoreFile.live schema' ≠ .preserved schema' := by simp
      rw [hkept]
      refine Or.inr ⟨by rw [Dir.set_of_ne hlive, Dir.set_self], fun n hbackups hn hpreserved => ?_⟩
      rw [Dir.set_of_ne hpreserved, Dir.set_of_ne hn, Dir.set_of_ne hbackups]

theorem ForgetsAt.load
    (h : ForgetsAt since schema d)
    (hd : LinksOut d)
    (schema' : Schema) :
    ForgetsAt since schema (loadDocument (M := M) schema' d).2 := by
  have hlinks := hd.loadDocument (M := M) schema'
  rcases load_cases (M := M) schema' d with hsame | ⟨hmissing, hsame⟩
  · exact h.of_same hd hlinks (hsame _ (by simp)) (hsame _ (by simp)) fun _ => hsame _ (by simp)
  · by_cases hschema : schema = schema'
    · subst hschema
      exact forgetsAt_missing hmissing
    · have hlive : StoreFile.live schema ≠ .live schema' := by simpa using hschema
      exact h.of_same hd hlinks (hsame _ (by simp) hlive (by simp)) (hsame _ (by simp) (by simp) (by simp))
        fun _ => hsame _ (by simp) (by simp) (by simp)

/-- Preferences that are migrated are rewritten as they are given. -/
theorem loadPreferences_saves (stamp : Stamp) (d : StoreDir) :
    (loadPreferences (M := M) stamp d).2 = (loadDocument (M := M) .preferences d).2 ∨
      ∃ prefs, (loadPreferences (M := M) stamp d).1.Gives prefs ∧
        (loadPreferences (M := M) stamp d).2 =
          (saveDocument (M := M) .preferences stamp prefs
            (loadDocument (M := M) .preferences d).2).1 := by
  rw [loadPreferences]
  generalize loadDocument (M := M) .preferences d = loaded
  obtain ⟨outcome, after⟩ := loaded
  dsimp only
  split
  · cases outcome with
    | loaded doc => exact Or.inr ⟨_, Or.inl rfl, rfl⟩
    | recovered doc => exact Or.inr ⟨_, Or.inr rfl, rfl⟩
    | default doc => exact Or.inl rfl
    | defaultAfterFailure doc => exact Or.inl rfl
    | unsupportedVersion found maxSupported => exact Or.inl rfl
  · exact Or.inl rfl

/-- A removal of live files. -/
theorem ForgetsAt.removeLive {st : StoreDir × Bool}
    (h : ForgetsAt since schema st.1)
    (hd : LinksOut st.1)
    (schema' : Schema) :
    ForgetsAt since schema (removeLive st schema').1 ∧ LinksOut (removeLive st schema').1 := by
  rw [Client.removeLive]
  split
  · split
    · exact ⟨h, hd⟩
    · split
      · rename_i d' happly
        obtain ⟨rfl, hlinks⟩ := hd.remove happly
        refine ⟨?_, hlinks⟩
        by_cases hschema : schema = schema'
        · subst hschema
          exact forgetsAt_missing (Dir.set_self _ _ _)
        · have hlive : StoreFile.live schema ≠ .live schema' := by simpa using hschema
          have hbak : StoreFile.bak schema ≠ .live schema' := by simp
          have houtside : ∀ path, StoreFile.outside path ≠ .live schema' := by simp
          exact h.of_same hd hlinks (Dir.set_of_ne hlive _ none) (Dir.set_of_ne hbak _ none)
            fun path => Dir.set_of_ne (houtside path) _ none
      · exact ⟨h, hd⟩
  · exact ⟨h, hd⟩

theorem ForgetsAt.removals
    (h : ForgetsAt since schema d)
    (hd : LinksOut d)
    (schemas : List Schema) (going : Bool) :
    ForgetsAt since schema (schemas.foldl Client.removeLive (d, going)).1 := by
  have hfold : ∀ st : StoreDir × Bool, ForgetsAt since schema st.1 → LinksOut st.1 →
      ForgetsAt since schema (schemas.foldl Client.removeLive st).1 := by
    induction schemas with
    | nil => exact fun _ hst _ => hst
    | cons schema' rest ih =>
        intro st hst hlinks
        have hone := hst.removeLive hlinks schema'
        exact ih _ hone.1 hone.2
  exact hfold (d, going) h hd

omit [StoreConversions M] in
/-- The version of readable preferences is that of the live file. -/
theorem storedVersion_of_live {prefs : M.Document .preferences}
    (hread : c.read (.live .preferences) = d.read (.live .preferences))
    (hlive : copyAt M .preferences (.live .preferences) c = some prefs) :
    storedDocumentVersion M .preferences c = storedDocumentVersion M .preferences d := by
  have htext : readToString c (.live .preferences) = readToString d (.live .preferences) := by
    rw [readToString, hread]
    rfl
  have hheader : ∃ header,
      (readToString c (.live .preferences)).bind (peekHeader M.Document) = some header := by
    rw [copyAt] at hlive
    cases hjson : readToString c (.live .preferences) with
    | none =>
        rw [hjson] at hlive
        cases hlive
    | some json =>
        rw [hjson, Option.map_some, tryParse] at hlive
        cases hpeek : peekHeader M.Document json with
        | none =>
            rw [hpeek] at hlive
            cases hlive
        | some header => exact ⟨header, hpeek⟩
  obtain ⟨header, hheader⟩ := hheader
  simp only [storedDocumentVersion, ← htext, hheader, Option.map_some, Option.some_or]

end Steps

section Runs

variable {M : StoreModels} [StoreJson M.Document] [StoreConversions M]

/-- The store, and what has been saved since the last reset that succeeded; before the
first one everything counts as saved. -/
structure ResetState (M : StoreModels) where
  dir : StoreDir
  since : Saved M

/-- One more document that is saved. -/
def Saved.add (since : Saved M) (schema : Schema) (data : M.Document schema) : Saved M :=
  fun schema' data' =>
    since schema' data' ∨ (⟨schema', data'⟩ : Sigma M.Document) = ⟨schema, data⟩

/-- A load, a save, a crash in a save and what it leaves, a reset, a reset that stops after
some of its removals, and a name that comes to stand for something else. -/
inductive ResetStep (M : StoreModels)
  | load (schema : Schema)
  | loadPreferences (stamp : Stamp)
  | save (schema : Schema) (stamp : Stamp) (data : M.Document schema)
  | crash (schema : Schema) (stamp : Stamp) (data : M.Document schema) (left : StoreDir)
  | reset
  | cutReset (removals : Nat)
  | spoil (n : StoreFile) (node : Option (Node StoreFile))

def ResetState.perform (s : ResetState M) : ResetStep M → ResetState M
  | .load schema => ⟨(loadDocument (M := M) schema s.dir).2, s.since⟩
  | .loadPreferences stamp => ⟨(loadPreferences (M := M) stamp s.dir).2, s.since⟩
  | .save schema stamp data =>
      let saved := saveDocument schema stamp data s.dir
      ⟨saved.1, if saved.2 then s.since.add schema data else s.since⟩
  | .crash schema _ data left => ⟨left, s.since.add schema data⟩
  | .reset =>
      let done := resetConfig s.dir
      ⟨done.1, if done.2 then fun _ _ => False else s.since⟩
  | .cutReset removals =>
      ⟨((resetSchemas.take removals).foldl removeLive (s.dir, true)).1, s.since⟩
  | .spoil n node => ⟨s.dir.set n node, s.since⟩

def resetSystem (M : StoreModels) [StoreJson M.Document] [StoreConversions M] :
    System (ResetState M) (ResetStep M) where
  init := fun s => LinksOut s.dir ∧ s.since = fun _ _ => True
  next := fun s step => some (s.perform step)

/-- A name comes to stand for something else, and no document becomes readable by it. -/
structure Spoils (M : StoreModels) [StoreJson M.Document] (d : StoreDir) (n : StoreFile)
    (node : Option (Node StoreFile)) : Prop where
  plain : ∀ target, node ≠ some (.link target)
  adds : ∀ schema file, file = .live schema ∨ file = .bak schema →
    ∀ data, copyAt M schema file (d.set n node) = some data →
      (d.set n node).read file = d.read file

/-- A crash leaves what a crash may leave, and what is spoiled is no readable document. -/
def Legal (s : ResetState M) : ResetStep M → Prop
  | .crash schema stamp data left =>
      (atomicSave (T := M.Document) schema (stamp.envelope schema data)).Leaves s.dir left
  | .spoil n node => Spoils M s.dir n node
  | _ => True

/-- No live file is spoiled of which the backup, which a load takes then, is a document
from before the reset. -/
def NotStale (s : ResetState M) : ResetStep M → Prop
  | .spoil n node =>
      ∀ schema ∈ resetSchemas, FallsBack M schema (s.dir.set n node) →
        ∀ data, copyAt M schema (.bak schema) (s.dir.set n node) = some data →
          s.since schema (asLoaded (s.dir.set n node) schema data)
  | _ => True

/-- A step that spoils no live file whose backup is older than the reset. -/
def GuardedStep (s : ResetState M) (step : ResetStep M) : Prop :=
  Legal s step ∧ NotStale s step

variable {s : ResetState M}

theorem ForgetsAt.mono {since since' : Saved M} {schema : Schema} {d : StoreDir}
    (h : ForgetsAt since schema d)
    (hmono : ∀ schema data, since schema data → since' schema data) :
    ForgetsAt since' schema d :=
  fun data hdata => hmono _ _ (h data hdata)

omit [StoreJson M.Document] [StoreConversions M] in
theorem Saved.le_add (since : Saved M) (schema : Schema) (data : M.Document schema) :
    ∀ schema' data', since schema' data' → since.add schema data schema' data' :=
  fun _ _ => Or.inl

/-- Links lead out in every state. -/
theorem LinksOut.perform_reset {step : ResetStep M}
    (h : LinksOut s.dir)
    (hlegal : Legal s step) :
    LinksOut (s.perform step).dir := by
  have hfold : ∀ (schemas : List Schema) (st : StoreDir × Bool), LinksOut st.1 →
      LinksOut (schemas.foldl removeLive st).1 := by
    intro schemas
    induction schemas with
    | nil => exact fun _ hst => hst
    | cons schema rest ih =>
        intro st hst
        have hnone : ForgetsAt (fun _ _ => True : Saved M) schema st.1 := fun _ _ => trivial
        exact ih _ (hnone.removeLive hst schema).2
  cases step with
  | load schema => exact h.loadDocument schema
  | loadPreferences stamp => exact h.perform (StoreOp.loadPreferences (M := M) stamp)
  | save schema stamp data => exact h.saveDocument schema stamp data
  | crash schema stamp data left => exact (untouched_of_leaves h hlegal).links
  | reset => exact hfold resetSchemas _ h
  | cutReset removals => exact hfold (resetSchemas.take removals) _ h
  | spoil n node =>
      exact h.set n fun target hlink => absurd hlink (hlegal.plain target)

/-- After a reset that has succeeded no live file is there. -/
theorem resetConfig_missing {d : StoreDir}
    (h : (resetConfig d).2 = true) :
    ∀ schema ∈ resetSchemas, (resetConfig d).1 (.live schema) = none := by
  have hstep : ∀ (st : StoreDir × Bool) (schema : Schema), (removeLive st schema).2 = true →
      st.2 = true ∧ (removeLive st schema).1 (.live schema) = none ∧
        ∀ n, st.1 n = none → (removeLive st schema).1 n = none := by
    intro st schema hdone
    rw [removeLive] at hdone ⊢
    split at hdone
    · rename_i hst
      rw [if_pos hst]
      split at hdone
      · rename_i hmissing
        exact ⟨hst, hmissing, fun _ hn => hn⟩
      · split at hdone
        · rename_i d' happly
          obtain rfl := FileOp.remove_eq_some happly
          refine ⟨hst, Dir.set_self _ _ _, fun n hn => ?_⟩
          by_cases hlive : n = .live schema
          · rw [hlive]
            exact Dir.set_self _ _ _
          · exact (Dir.set_of_ne hlive _ _).trans hn
        · cases hdone
    · rename_i hst
      exact absurd hdone hst
  have hfold : ∀ (schemas : List Schema) (st : StoreDir × Bool),
      (schemas.foldl removeLive st).2 = true →
      st.2 = true ∧ (∀ n, st.1 n = none → (schemas.foldl removeLive st).1 n = none) ∧
        ∀ schema ∈ schemas, (schemas.foldl removeLive st).1 (.live schema) = none := by
    intro schemas
    induction schemas with
    | nil => exact fun st hdone => ⟨hdone, fun _ hn => hn, List.forall_mem_nil _⟩
    | cons schema rest ih =>
        intro st hdone
        obtain ⟨hone, hkeep, hrest⟩ := ih _ hdone
        obtain ⟨hst, hmissing, hkeepOne⟩ := hstep st schema hone
        exact ⟨hst, fun n hn => hkeep n (hkeepOne n hn),
          List.forall_mem_cons.mpr ⟨hkeep _ hmissing, hrest⟩⟩
  exact (hfold resetSchemas (d, true) h).2.2

/-- **Spoiling brings back nothing that was forgotten exactly if no backup that a load
takes then is older than the reset.** -/
theorem forgets_spoil_iff {n : StoreFile} {node : Option (Node StoreFile)}
    (hlinks : LinksOut s.dir)
    (hforgets : Forgets s.since s.dir)
    (hspoils : Spoils M s.dir n node) :
    Forgets s.since (s.dir.set n node) ↔ NotStale s (.spoil n node) := by
  have hlinks' : LinksOut (s.dir.set n node) :=
    hlinks.set n fun target hlink => absurd hlink (hspoils.plain target)
  rw [forgets_iff] at hforgets ⊢
  constructor
  · intro h schema hschema hfalls data hcopy
    exact h schema hschema data ((returns_iff hlinks' data).mpr (Or.inr ⟨hfalls, hcopy⟩))
  · intro h schema hschema data hdata
    rcases (returns_iff hlinks' data).mp hdata with hlive | ⟨hfalls, hcopy⟩
    · -- The live file is readable, so it is the one that was there.
      have hread := hspoils.adds schema _ (Or.inl rfl) data hlive
      have hbefore : copyAt M schema (.live schema) s.dir = some data := by
        rw [← copyAt_congr hread]
        exact hlive
      have hgiven : asLoaded (s.dir.set n node) schema data = asLoaded s.dir schema data := by
        cases schema with
        | preferences =>
            have hversion := storedVersion_of_live hread hlive
            by_cases hold : StoredOlder M s.dir
            · have hold' : StoredOlder M (s.dir.set n node) := by rwa [StoredOlder, hversion]
              rw [asLoaded_older hold, asLoaded_older hold']
            · have hold' : ¬ StoredOlder M (s.dir.set n node) := by rwa [StoredOlder, hversion]
              rw [asLoaded_current hold, asLoaded_current hold']
        | _ => rfl
      rw [hgiven]
      exact hforgets schema hschema data ((returns_iff hlinks data).mpr (Or.inl hbefore))
    · exact h schema hschema hfalls data hcopy

/-- **A guarded step keeps what a reset has forgotten.** -/
theorem Forgets.perform {step : ResetStep M}
    (h : Forgets s.since s.dir)
    (hlinks : LinksOut s.dir)
    (hguard : GuardedStep s step) :
    Forgets (s.perform step).since (s.perform step).dir := by
  cases step with
  | spoil n node => exact (forgets_spoil_iff hlinks h hguard.1).mpr hguard.2
  | loadPreferences stamp =>
      have hsaves := loadPreferences_saves (M := M) stamp s.dir
      have hgives := h.preferences stamp
      rw [forgets_iff] at h ⊢
      intro schema hschema
      have hload := (h schema hschema).load hlinks .preferences
      rcases hsaves with heq | ⟨prefs, hprefs, heq⟩
      · change ForgetsAt s.since schema (loadPreferences (M := M) stamp s.dir).2
        rw [heq]
        exact hload
      · change ForgetsAt s.since schema (loadPreferences (M := M) stamp s.dir).2
        rw [heq]
        exact hload.leaves (hlinks.loadDocument .preferences) (hgives prefs hprefs)
          (Script.leaves_run _ _)
  | load schema' =>
      rw [forgets_iff] at h ⊢
      exact fun schema hschema => (h schema hschema).load hlinks schema'
  | save schema' stamp data =>
      rw [forgets_iff] at h ⊢
      intro schema hschema
      rw [ResetState.perform]
      dsimp only
      split
      · have hmore := (h schema hschema).mono (s.since.le_add schema' data)
        exact hmore.leaves hlinks (Or.inr rfl) (Script.leaves_run _ _)
      · rename_i hfailed
        exact (h schema hschema).failed hlinks (Bool.not_eq_true _ ▸ hfailed)
  | crash schema' stamp data left =>
      rw [forgets_iff] at h ⊢
      intro schema hschema
      have hmore := (h schema hschema).mono (s.since.le_add schema' data)
      exact hmore.leaves hlinks (Or.inr rfl) hguard.1
  | reset =>
      rw [forgets_iff] at h ⊢
      intro schema hschema
      rw [ResetState.perform]
      dsimp only
      split
      · rename_i hdone
        exact forgetsAt_missing (resetConfig_missing hdone schema hschema)
      · exact ((h schema hschema).removals hlinks resetSchemas true)
  | cutReset removals =>
      rw [forgets_iff] at h ⊢
      exact fun schema hschema =>
        (h schema hschema).removals hlinks (resetSchemas.take removals) true

theorem links_of_legal {ok : ResetState M → ResetStep M → Prop}
    (hok : ∀ s step, ok s step → Legal s step)
    (h : (resetSystem M).ReachableUnder ok s) :
    LinksOut s.dir := by
  refine h.invariant (I := fun s => LinksOut s.dir) ?_ ?_
  · rintro s ⟨hlinks, _⟩
    exact hlinks
  · intro s step s' hlinks hstep hnext
    obtain rfl := Option.some.inj hnext
    exact hlinks.perform_reset (hok s step hstep)

/-- Each operation of the store is a run of these steps. -/
theorem perform_legal (op : StoreOp M)
    (h : (resetSystem M).ReachableUnder Legal s) :
    ∃ since, (resetSystem M).ReachableUnder Legal ⟨op.perform s.dir, since⟩ := by
  refine op.perform_rule
    (P := fun d => ∃ since, (resetSystem M).ReachableUnder Legal ⟨d, since⟩) ?_ ?_ ?_ ?_
    ⟨s.since, h⟩
  · rintro schema d ⟨since, hd⟩
    exact ⟨since, hd.step (a := .load schema) trivial rfl⟩
  · rintro stamp d ⟨since, hd⟩
    exact ⟨since, hd.step (a := .loadPreferences stamp) trivial rfl⟩
  · rintro schema _ stamp data d ⟨since, hd⟩
    exact ⟨_, hd.step (a := .save schema stamp data) trivial rfl⟩
  · rintro schema _ d d' ⟨since, hd⟩ hremove
    obtain rfl := FileOp.remove_eq_some hremove
    have hlinks : LinksOut d := links_of_legal (fun _ _ hlegal => hlegal) hd
    have hspoils : Spoils M d (.live schema) none := by
      refine ⟨by simp, fun schema' file hfile data hcopy => ?_⟩
      by_cases hsame : file = .live schema
      · rw [copyAt_free (by rw [hsame, Dir.set_self])] at hcopy
        cases hcopy
      · exact hlinks.read_set file (.live schema) (by simp) hsame none
    exact ⟨since, hd.step (a := .spoil (.live schema) none) hspoils rfl⟩

/-- **In a run that spoils no live file whose backup is older than the reset, no load gives
a value that was saved only before the reset**; and spoiling such a file does bring one
back. -/
theorem guarded_forgets
    (h : (resetSystem M).ReachableUnder GuardedStep s) :
    Forgets s.since s.dir ∧
      ∀ n node, Spoils M s.dir n node →
        (Forgets s.since (s.dir.set n node) ↔ NotStale s (.spoil n node)) := by
  have hinv : LinksOut s.dir ∧ Forgets s.since s.dir := by
    refine h.invariant (I := fun s => LinksOut s.dir ∧ Forgets s.since s.dir) ?_ ?_
    · rintro s ⟨hlinks, hsince⟩
      rw [hsince]
      exact ⟨hlinks, fun _ _ _ => trivial, fun _ _ => trivial, fun _ _ => trivial,
        fun _ _ => trivial⟩
    · rintro s step s' ⟨hlinks, hforgets⟩ hguard hnext
      obtain rfl := Option.some.inj hnext
      exact ⟨hlinks.perform_reset hguard.1, hforgets.perform hlinks hguard⟩
  exact ⟨hinv.2, fun n node hspoils => forgets_spoil_iff hinv.1 hinv.2 hspoils⟩

section Example

/-- An empty store. -/
def firstRun : ResetState bitModels :=
  ⟨emptyStore, fun _ _ => True⟩

/-- Save the library with the command. -/
def saveCommand : ResetStep bitModels :=
  .save .library bitStamp (⟨[], [true]⟩ : Library Unit Bool)

/-- Save the library with the place. -/
def savePlace : ResetStep bitModels :=
  .save .library bitStamp (⟨[()], []⟩ : Library Unit Bool)

/-- The live library is cut to nothing. -/
def emptyLibrary : ResetStep bitModels :=
  .spoil (.live .library) (some (.file []))

/-- The state before the library is spoiled: the library was saved twice, and once more
after a reset. -/
def savedOnce : ResetState bitModels :=
  [saveCommand, savePlace, .reset, savePlace].foldl ResetState.perform firstRun

/-- The library was saved twice after a reset. -/
def savedTwice : ResetState bitModels :=
  [.reset, savePlace, savePlace].foldl ResetState.perform firstRun

theorem reachable_firstRun {ok : ResetState bitModels → ResetStep bitModels → Prop} :
    (resetSystem bitModels).ReachableUnder ok firstRun :=
  .init ⟨linksOut_emptyStore, rfl⟩

theorem reachable_savedOnce {ok : ResetState bitModels → ResetStep bitModels → Prop}
    (hsave : ∀ s data, ok s (.save .library bitStamp data))
    (hreset : ∀ s, ok s .reset) :
    (resetSystem bitModels).ReachableUnder ok savedOnce :=
  .step (.step (.step (.step reachable_firstRun (hsave _ _) rfl) (hsave _ _) rfl) (hreset _) rfl)
    (hsave _ _) rfl

theorem reachable_savedTwice {ok : ResetState bitModels → ResetStep bitModels → Prop}
    (hsave : ∀ s data, ok s (.save .library bitStamp data))
    (hreset : ∀ s, ok s .reset) :
    (resetSystem bitModels).ReachableUnder ok savedTwice :=
  .step (.step (.step reachable_firstRun (hreset _) rfl) (hsave _ _) rfl) (hsave _ _) rfl

/-- A library that is cut to nothing is read as such. -/
theorem read_emptyLibrary (d : StoreDir) :
    readToString (d.set (.live .library) (some (.file []))) (.live .library) = some [] := by
  have hplain : ∀ target, d.set (.live .library) (some (.file [])) (.live .library) ≠
      some (.link target) := by simp
  rw [readToString, (Dir.read_plain hplain).mpr (Dir.set_self _ _ _)]
  decide

theorem copyAt_emptyLibrary (d : StoreDir) :
    copyAt bitModels .library (.live .library) (d.set (.live .library) (some (.file []))) =
      none := by
  rw [copyAt, read_emptyLibrary]
  rfl

/-- It is no document. -/
theorem spoils_emptyLibrary {d : StoreDir}
    (h : LinksOut d) :
    Spoils bitModels d (.live .library) (some (.file [])) := by
  refine ⟨by simp, fun schema file hfile data hcopy => ?_⟩
  by_cases hsame : file = .live .library
  · have hschema : schema = .library := by
      rcases hfile with rfl | rfl
      · simpa using hsame
      · cases hsame
    subst hschema hsame
    rw [copyAt_emptyLibrary] at hcopy
    cases hcopy
  · exact h.read_set file (.live .library) (by simp) hsame _

/-- Its load takes the backup. -/
theorem load_emptyLibrary {d : StoreDir} {lib : bitModels.Document .library}
    (h : LinksOut d)
    (hbak : d (.bak .library) = some (.file (StoreJson.toStringPretty (T := bitModels.Document)
      .library (bitStamp.envelope .library lib)))) :
    (loadLibrary (M := bitModels) (d.set (.live .library) (some (.file [])))).1 =
      .recovered lib := by
  have hlinks : LinksOut (d.set (.live .library) (some (.file []))) := h.set _ (by simp)
  have hne : StoreFile.bak .library ≠ .live .library := by simp
  have hcopy : copyAt bitModels .library (.bak .library)
      (d.set (.live .library) (some (.file []))) = some lib :=
    @copyAt_pretty bitModels _ .library _ _ (bitStamp.envelope .library lib) rfl rfl
      ((Dir.set_of_ne hne _ _).trans hbak)
  have hparse : (tryParse .library 1 [] : ParseResult (bitModels.Document .library)) =
      .malformed := rfl
  rw [loadLibrary, loadDocument, atomicLoad, read_emptyLibrary]
  dsimp only
  have hkept := (readable_preserve hlinks (copyAt_emptyLibrary d)).2.trans hcopy
  exact tryBackup_of_copy hkept

/-- The library of a time before the reset is recovered after it. -/
theorem reset_remembers :
    (resetSystem bitModels).ReachableUnder Legal (savedOnce.perform emptyLibrary) ∧
      (loadLibrary (M := bitModels) (savedOnce.perform emptyLibrary).dir).1 =
        .recovered ⟨[], [true]⟩ ∧
      ¬ (savedOnce.perform emptyLibrary).since .library (⟨[], [true]⟩ : Library Unit Bool) ∧
      ¬ Forgets (savedOnce.perform emptyLibrary).since (savedOnce.perform emptyLibrary).dir := by
  have hreach : (resetSystem bitModels).ReachableUnder Legal savedOnce :=
    reachable_savedOnce (fun _ _ => trivial) fun _ => trivial
  have hlinks := links_of_legal (fun _ _ hlegal => hlegal) hreach
  have hload : (loadLibrary (M := bitModels) (savedOnce.perform emptyLibrary).dir).1 =
      .recovered ⟨[], [true]⟩ := load_emptyLibrary hlinks rfl
  have hforgotten : ¬ (savedOnce.perform emptyLibrary).since .library
      (⟨[], [true]⟩ : Library Unit Bool) := by
    intro hsince
    have hcases : False ∨ (⟨.library, (⟨[], [true]⟩ : Library Unit Bool)⟩ :
        Sigma bitModels.Document) = ⟨.library, (⟨[()], []⟩ : Library Unit Bool)⟩ := hsince
    rcases hcases with hfalse | hsame
    · exact hfalse
    · cases hsame
  exact ⟨hreach.step (a := emptyLibrary) (spoils_emptyLibrary hlinks) rfl, hload, hforgotten,
    fun hforgets => hforgotten (hforgets.library _ (Or.inr hload))⟩

/-- A library that was saved twice after the reset is recovered as it was saved then. -/
theorem guarded_forgets_savedTwice :
    Forgets (savedTwice.perform emptyLibrary).since (savedTwice.perform emptyLibrary).dir ∧
      (loadLibrary (M := bitModels) (savedTwice.perform emptyLibrary).dir).1 =
        .recovered ⟨[()], []⟩ := by
  have hreach : (resetSystem bitModels).ReachableUnder GuardedStep savedTwice :=
    reachable_savedTwice (fun _ _ => ⟨trivial, trivial⟩) fun _ => ⟨trivial, trivial⟩
  have hlinks := links_of_legal (fun _ _ hguard => hguard.1) hreach
  have hcopy : copyAt bitModels .library (.bak .library) (savedTwice.perform emptyLibrary).dir =
      some ⟨[()], []⟩ :=
    @copyAt_pretty bitModels _ .library _ _ (bitStamp.envelope .library
      (⟨[()], []⟩ : Library Unit Bool)) rfl rfl rfl
  have hfresh : NotStale savedTwice emptyLibrary := by
    intro schema hschema _ data hdata
    simp only [resetSchemas, List.mem_cons, List.not_mem_nil, or_false] at hschema
    rcases hschema with rfl | rfl | rfl | rfl
    · exact absurd hdata (by rw [copyAt_free rfl]; simp)
    · have hsame := Option.some.inj (hcopy.symm.trans hdata)
      subst hsame
      exact Or.inr rfl
    · exact absurd hdata (by rw [copyAt_free rfl]; simp)
    · exact absurd hdata (by rw [copyAt_free rfl]; simp)
  have hguard : GuardedStep savedTwice emptyLibrary := ⟨spoils_emptyLibrary hlinks, hfresh⟩
  exact ⟨(guarded_forgets (hreach.step hguard rfl)).1, load_emptyLibrary hlinks rfl⟩

end Example

end Runs

end Client
end Rttx
