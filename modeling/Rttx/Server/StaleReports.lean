import Rttx.Server.ModeCalls
import Rttx.Server.PaneLookup
import Rttx.Server.SampleTerminal

/-!
# Reports of a pane's directory and title

A pane's working directory is written by three tasks: the output task records
what the program last reported, the serialization loop records the directory of
the child process, and the pane is created with one.  Its title is written by
the output task and by clients.

The screen keeps the last report, and the output task compares it with the
pane's field after every batch.  So a report that another task has overwritten
comes back with the next batch, unless there is none or it is the same.

**Results.**
* `performAll_reports`: what a batch does to the last report.
* `reports_stay_fresh`: in runs where the other tasks overwrite no report, a
  batch that completes no report changes and announces nothing.
* `report_returns`: a run in which an overwritten report comes back.
-/

namespace Rttx
namespace Server

open Kernel

universe u v

section Calls

variable {P : Type u}
variable [VteParser P]

/-- Whether an OSC sequence of one of the codes completes. -/
def completesOsc (codes : List Bytes) (calls : List VteCall) : Bool :=
  calls.any fun call =>
    match call with
    | .oscDispatch (code :: _) _ => codes.contains code
    | _ => false

/-- The codes that report a working directory, and those that report a title. -/
def cwdCodes : List Bytes := [bytesOf "7"]

def titleCodes : List Bytes := [bytesOf "0", bytesOf "2"]

namespace ScreenPerformer

/-- The last reports of two performers are the same. -/
def SameReports (p p' : ScreenPerformer) : Prop :=
  p'.cwd = p.cwd ∧ p'.title = p.title

theorem setPrivateMode_reports (enabled : Bool) (p : ScreenPerformer) (param : List Nat) :
    p.SameReports (setPrivateMode enabled p param) := by
  unfold setPrivateMode
  simp only
  split <;> exact ⟨rfl, rfl⟩

theorem foldl_setPrivateMode_reports (enabled : Bool) (params : List (List Nat))
    (p : ScreenPerformer) :
    p.SameReports (params.foldl (setPrivateMode enabled) p) := by
  induction params generalizing p with
  | nil => exact ⟨rfl, rfl⟩
  | cons param rest ih =>
      obtain ⟨hcwd, htitle⟩ := setPrivateMode_reports enabled p param
      obtain ⟨hcwd', htitle'⟩ := ih (setPrivateMode enabled p param)
      exact ⟨hcwd'.trans hcwd, htitle'.trans htitle⟩

/-- A control sequence reports nothing. -/
theorem csiDispatch_reports (p : ScreenPerformer) (params : List (List Nat))
    (intermediates : Bytes) (action : Char) :
    p.SameReports (p.csiDispatch params intermediates action) := by
  by_cases hmode : intermediates = bytesOf "?" ∧ (action = 'h' ∨ action = 'l')
  · unfold csiDispatch
    rw [if_pos hmode]
    exact foldl_setPrivateMode_reports _ _ _
  · have hsame := @csiDispatch_sameModes p params _ _ hmode
    have hcwd := congrArg ScreenPerformer.cwd hsame
    have htitle := congrArg ScreenPerformer.title hsame
    exact ⟨hcwd, htitle⟩

/-- Only an OSC sequence of a directory code reports a directory. -/
theorem oscCwd_of_not_completes {params : List Bytes} {bell : Bool}
    (h : completesOsc cwdCodes [.oscDispatch params bell] = false) :
    oscCwd params = none := by
  match params with
  | [] => rfl
  | [_] => rfl
  | code :: uri :: _ =>
      have hcode : code ≠ bytesOf "7" := by simpa [completesOsc, cwdCodes] using h
      simp [oscCwd, hcode]

theorem oscTitle_of_not_completes {params : List Bytes} {bell : Bool}
    (h : completesOsc titleCodes [.oscDispatch params bell] = false) :
    oscTitle params = none := by
  match params with
  | [] => rfl
  | [_] => rfl
  | code :: text :: _ =>
      have hcode : code ≠ bytesOf "0" ∧ code ≠ bytesOf "2" := by
        simpa [completesOsc, titleCodes] using h
      simp [oscTitle, hcode]

/-- A call that completes no report leaves the last one. -/
theorem perform_reports (p : ScreenPerformer) (call : VteCall) :
    (completesOsc cwdCodes [call] = false → (p.perform call).cwd = p.cwd) ∧
      (completesOsc titleCodes [call] = false → (p.perform call).title = p.title) := by
  cases call with
  | oscDispatch params bell =>
      constructor
      · intro h
        simp [perform, oscDispatch, oscCwd_of_not_completes h]
      · intro h
        simp [perform, oscDispatch, oscTitle_of_not_completes h]
  | csiDispatch params intermediates ignore action =>
      obtain ⟨hcwd, htitle⟩ := csiDispatch_reports p params intermediates action
      exact ⟨fun _ => hcwd, fun _ => htitle⟩
  | execute byte =>
      simp only [perform, execute]
      repeat' split
      all_goals exact ⟨fun _ => rfl, fun _ => rfl⟩
  | escDispatch intermediates ignore byte =>
      simp only [perform, escDispatch]
      repeat' split
      all_goals exact ⟨fun _ => rfl, fun _ => rfl⟩
  | _ => exact ⟨fun _ => rfl, fun _ => rfl⟩

/-- **A batch that completes no report leaves the last one.** -/
theorem performAll_reports (p : ScreenPerformer) (calls : List VteCall) :
    (completesOsc cwdCodes calls = false → (p.performAll calls).cwd = p.cwd) ∧
      (completesOsc titleCodes calls = false → (p.performAll calls).title = p.title) := by
  induction calls generalizing p with
  | nil => exact ⟨fun _ => rfl, fun _ => rfl⟩
  | cons call rest ih =>
      obtain ⟨hcwd, htitle⟩ := perform_reports p call
      obtain ⟨hcwd', htitle'⟩ := ih (p.perform call)
      have hsplit : ∀ codes, completesOsc codes (call :: rest) = false →
          completesOsc codes [call] = false ∧ completesOsc codes rest = false := by
        intro codes h
        simpa [completesOsc] using h
      constructor
      · intro h
        obtain ⟨hfirst, hrest⟩ := hsplit _ h
        exact (hcwd' hrest).trans (hcwd hfirst)
      · intro h
        obtain ⟨hfirst, hrest⟩ := hsplit _ h
        exact (htitle' hrest).trans (htitle hfirst)

end ScreenPerformer

end Calls

namespace Pane

section Poll

variable {P : Type u} {G : Type v}

/-- The directory that a poll records: the child's, if the pane has another. -/
def polledCwd (p : Pane P G) (proc : ProcFs) : Option String :=
  if p.isExited || p.childPid.isNone then
    none
  else
    reportIfNew p.cwd (p.readProcCwd proc)

/-- A poll records what it read, and only what the pane does not record yet. -/
theorem polledCwd_eq_some {p : Pane P G} {proc : ProcFs} {cwd : String}
    (h : p.polledCwd proc = some cwd) :
    p.readProcCwd proc = some cwd ∧ p.cwd ≠ some cwd := by
  simp only [polledCwd] at h
  split at h
  · cases h
  · cases hread : p.readProcCwd proc with
    | none => simp [hread, reportIfNew] at h
    | some found =>
        by_cases hsame : p.cwd = some found
        · simp [hread, reportIfNew, hsame] at h
        · simp only [hread, reportIfNew, if_neg hsame, Option.some.injEq] at h
          exact h ▸ ⟨rfl, hsame⟩

end Poll

end Pane

/-- What a poll of a workspace has found: the directories of panes and the names
that changed, each with the revision announced. -/
structure CwdPoll where
  cwdChanges : List (Uuid × String × Nat)
  nameChanges : List (String × Nat)
deriving DecidableEq

namespace Workspace

section Poll

variable {P : Type u} {G : Type v}

/-- Poll one pane. -/
def pollPane (proc : ProcFs) (found : CwdPoll × Workspace P G) (paneId : Uuid) :
    CwdPoll × Workspace P G :=
  let (poll, w) := found
  match w.panes.lookup paneId with
  | none => (poll, w)
  | some pane =>
      match pane.polledCwd proc with
      | none => (poll, w)
      | some cwd =>
          let w := { w with panes := w.panes.insert paneId { pane with cwd := some cwd } }
          let (change, w) := w.recordCwd paneId (some cwd)
          let (name, w) := w.recordName paneId change.isSome proc
          (⟨poll.cwdChanges ++ (change.map (fun c => (paneId, c))).toList,
            poll.nameChanges ++ name.toList⟩, w)

/-- Poll the panes of a workspace that has clients. -/
def pollCwds (w : Workspace P G) (proc : ProcFs) : CwdPoll × Workspace P G :=
  if w.attachedClients.keys = [] then
    (⟨[], []⟩, w)
  else
    w.panes.keys.foldl (pollPane proc) (⟨[], []⟩, w)

end Poll

section PollLaws

variable {P : Type u} {G : Type v}

/-- The directories that a poll announced for a pane. -/
def changesOf (paneId : Uuid) (poll : CwdPoll) : List String :=
  poll.cwdChanges.filterMap (fun c => if c.1 = paneId then some c.2.1 else none)

/-- A pane after a poll. -/
def polledPane (p : Pane P G) (proc : ProcFs) : Pane P G :=
  match p.polledCwd proc with
  | none => p
  | some cwd => { p with cwd := some cwd }

/-- Polling a pane reaches no other pane. -/
theorem pollPane_spec (proc : ProcFs) (found : CwdPoll × Workspace P G) (paneId k : Uuid) :
    (pollPane proc found paneId).2.panes.lookup k =
        (if k = paneId then (found.2.panes.lookup k).map (fun p => polledPane p proc)
          else found.2.panes.lookup k) ∧
      changesOf k (pollPane proc found paneId).1 = changesOf k found.1 ++
        (if k = paneId then
          ((found.2.panes.lookup k).bind (fun p => p.polledCwd proc)).toList else []) := by
  obtain ⟨poll, w⟩ := found
  cases hpane : w.panes.lookup paneId with
  | none =>
      simp only [pollPane, hpane]
      by_cases hk : k = paneId
      · subst hk
        simp [hpane]
      · simp [hk]
  | some pane =>
      cases hcwd : pane.polledCwd proc with
      | none =>
          simp only [pollPane, hpane, hcwd]
          by_cases hk : k = paneId
          · subst hk
            simp [hpane, hcwd, polledPane]
          · simp [hk]
      | some cwd =>
          simp only [pollPane, hpane, hcwd]
          generalize hput : ({ w with
            panes := w.panes.insert paneId { pane with cwd := some cwd } } : Workspace P G) = put
          have hstored : put.panes.lookup paneId = some { pane with cwd := some cwd } := by
            rw [← hput]
            exact AList.lookup_insert _
          have hpanes : ((put.recordCwd paneId (some cwd)).2.recordName paneId
              (put.recordCwd paneId (some cwd)).1.isSome proc).2.panes = put.panes :=
            recordName_recordCwd_panes put paneId _ _ proc
          have hchange : (put.recordCwd paneId (some cwd)).1 =
              some (cwd, saturatingAdd put.revision 1) := by
            simp [recordCwd, setPaneCwd, hstored]
          constructor
          · refine (congrArg (fun m => AList.lookup k m) hpanes).trans ?_
            rw [← hput, HashMap.lookup_insert_eq]
            by_cases hk : k = paneId
            · subst hk
              simp [hpane, hcwd, polledPane]
            · simp [hk]
          · rw [hchange]
            by_cases hk : k = paneId
            · subst hk
              simp [changesOf, hpane, hcwd]
            · simp [changesOf, hk, Ne.symm hk]

/-- Polling distinct panes reaches each of them once. -/
theorem foldl_pollPane_spec (proc : ProcFs) {ids : List Uuid}
    (hnodup : ids.Nodup)
    (found : CwdPoll × Workspace P G)
    (k : Uuid) :
    (ids.foldl (pollPane proc) found).2.panes.lookup k =
        (if k ∈ ids then (found.2.panes.lookup k).map (fun p => polledPane p proc)
          else found.2.panes.lookup k) ∧
      changesOf k (ids.foldl (pollPane proc) found).1 = changesOf k found.1 ++
        (if k ∈ ids then
          ((found.2.panes.lookup k).bind (fun p => p.polledCwd proc)).toList else []) := by
  induction ids generalizing found with
  | nil => simp
  | cons id rest ih =>
      obtain ⟨hid, hrest⟩ := List.nodup_cons.mp hnodup
      obtain ⟨hlook, hchanges⟩ := pollPane_spec proc found id k
      obtain ⟨hlook', hchanges'⟩ := ih hrest (pollPane proc found id)
      rw [List.foldl_cons, hlook', hchanges', hlook, hchanges]
      by_cases hk : k = id
      · subst hk
        simp [hid]
      · simp [hk]

/-- **What a poll of a workspace does to a pane.** -/
theorem pollCwds_spec (w : Workspace P G) (proc : ProcFs) (k : Uuid) :
    (w.pollCwds proc).2.panes.lookup k =
        (if w.attachedClients.keys = [] then w.panes.lookup k
          else (w.panes.lookup k).map (fun p => polledPane p proc)) ∧
      changesOf k (w.pollCwds proc).1 =
        (if w.attachedClients.keys = [] then []
          else ((w.panes.lookup k).bind (fun p => p.polledCwd proc)).toList) := by
  unfold pollCwds
  split
  · exact ⟨rfl, rfl⟩
  · obtain ⟨hlook, hchanges⟩ :=
      foldl_pollPane_spec proc w.panes.keys_nodup (⟨[], []⟩, w) k
    rw [hlook, hchanges]
    by_cases hk : k ∈ w.panes.keys
    · simp [hk, changesOf]
    · have hnone : w.panes.lookup k = none := AList.lookup_eq_none.mpr hk
      simp [hk, hnone, changesOf]

end PollLaws

end Workspace

section System

variable {P : Type u} {G : Type v}

/-- A workspace, the batch that the output task of one of its panes is parsing,
and the directories announced for the pane. -/
structure ReportState (P : Type u) (G : Type v) where
  workspace : Workspace P G
  task : Option (TakenOutput P G)
  announced : List String

inductive ReportStep
  | take (raw : Bytes)
  | giveBack (proc : ProcFs)
  | poll (proc : ProcFs)
  | setTitle (clientId paneId : Uuid) (title : String)

namespace ReportState

variable [VteParser P] [Vt100Parser G]

/-- One step; `paneId` is the pane of the output task. -/
def next (paneId : Uuid) (s : ReportState P G) : ReportStep → Option (ReportState P G)
  | .take raw =>
      match s.task with
      | some _ => none
      | none =>
          match s.workspace.takeOutput paneId raw with
          | (none, _) => none
          | (some taken, w) => some { s with workspace := w, task := some taken }
  | .giveBack proc =>
      match s.task with
      | none => none
      | some taken =>
          let (report, w) :=
            s.workspace.returnOutput paneId (taken.screen.parse taken.data) proc
          some ⟨w, none, s.announced ++ (report.newCwd.map Prod.fst).toList⟩
  | .poll proc =>
      let (poll, w) := s.workspace.pollCwds proc
      some { s with
        workspace := w
        announced := s.announced ++ Workspace.changesOf paneId poll }
  | .setTitle clientId target title =>
      if s.workspace.clientHasWriteAccess clientId then
        some { s with workspace := (s.workspace.setPaneTitle target title).2 }
      else
        some s

variable (P G) in
/-- Output, polls and titles from a pane whose program has reported nothing yet. -/
def system (paneId : Uuid) : System (ReportState P G) ReportStep where
  init := fun s => s.task = none ∧ s.announced = [] ∧
    ∀ p, s.workspace.panes.lookup paneId = some p → p.screen.cwd = none ∧ p.screen.title = none
  next := next paneId

/-- Whether the batch that is being parsed completes a report of these codes. -/
def completing (s : ReportState P G) (codes : List Bytes) : Bool :=
  s.task.any (fun taken => completesOsc codes (callsOver taken.screen.parser taken.data))

omit [VteParser P] [Vt100Parser G] in
/-- The screen of a pane, wherever it is. -/
def liveScreen (s : ReportState P G) (pane : Pane P G) : PaneScreen P G :=
  (s.task.map TakenOutput.screen).getD pane.screen

/-- The condition on a step: a poll that records another directory, and a client
that sets another title, do so while the program has reported none, or the same,
or while a batch that completes a report is being parsed. -/
def overwritesNoReport (paneId : Uuid) (s : ReportState P G) : ReportStep → Bool
  | .poll proc =>
      s.workspace.attachedClients.keys = [] ||
        (s.workspace.panes.lookup paneId).all fun pane =>
          (pane.polledCwd proc).all fun cwd =>
            s.completing cwdCodes || (s.liveScreen pane).cwd = none ||
              (s.liveScreen pane).cwd = some cwd
  | .setTitle clientId target title =>
      target ≠ paneId || !s.workspace.clientHasWriteAccess clientId ||
        (s.workspace.panes.lookup paneId).all fun pane =>
          s.completing titleCodes || (s.liveScreen pane).title = none ||
            (s.liveScreen pane).title = some title
  | _ => true

/-- A batch that completes no report of a directory leaves the pane's and
announces none, and likewise for titles. -/
def NoStaleReport (paneId : Uuid) (s : ReportState P G) : Prop :=
  ∀ taken pane proc, s.task = some taken → s.workspace.panes.lookup paneId = some pane →
    let after := s.workspace.returnOutput paneId (taken.screen.parse taken.data) proc
    ∃ pane', after.2.panes.lookup paneId = some pane' ∧
      (s.completing cwdCodes = false → pane'.cwd = pane.cwd ∧ after.1.newCwd = none) ∧
      (s.completing titleCodes = false → pane'.title = pane.title ∧ after.1.newTitle = none)

/-- The program reports no directory, and every poll finds the same one. -/
def isQuiet (paneId : Uuid) (cwd : String) (s : ReportState P G) : ReportStep → Bool
  | .giveBack _ => !s.completing cwdCodes
  | .poll proc =>
      (s.workspace.panes.lookup paneId).all fun pane =>
        (pane.readProcCwd proc).all (fun found => found = cwd)
  | _ => true

end ReportState

end System

section Invariant

variable {P : Type u} {G : Type v}
variable [VteParser P] [Vt100Parser G]
variable {paneId : Uuid} {s s' : ReportState P G}

namespace ReportState

/-- The pane records what the program last reported, or it will. -/
def InAgreement (paneId : Uuid) (s : ReportState P G) : Prop :=
  ∀ pane, s.workspace.panes.lookup paneId = some pane →
    (s.completing cwdCodes = true ∨ (s.liveScreen pane).cwd = none ∨
        (s.liveScreen pane).cwd = pane.cwd) ∧
      (s.completing titleCodes = true ∨ (s.liveScreen pane).title = none ∨
        (s.liveScreen pane).title = pane.title)

/-- A parsed batch that completes no report has the reports from before. -/
theorem parse_reports (screen : PaneScreen P G) (data : Bytes) :
    (completesOsc cwdCodes (callsOver screen.parser data) = false →
        (screen.parse data).cwd = screen.cwd) ∧
      (completesOsc titleCodes (callsOver screen.parser data) = false →
        (screen.parse data).title = screen.title) := by
  have hperformer : (screen.parse data).performer =
      screen.performer.performAll (callsOver screen.parser data) :=
    advanceParser_performer screen.parser screen.performer data
  obtain ⟨hcwd, htitle⟩ :=
    ScreenPerformer.performAll_reports screen.performer (callsOver screen.parser data)
  constructor
  · intro h
    rw [PaneScreen.cwd, hperformer, hcwd h]
    rfl
  · intro h
    rw [PaneScreen.title, hperformer, htitle h]
    rfl

omit [VteParser P] [Vt100Parser G] in
theorem recordCwd_announced {w : Workspace P G} {pane : Pane P G}
    (hpane : w.panes.lookup paneId = some pane)
    (newCwd : Option String) :
    (w.recordCwd paneId newCwd).1.map Prod.fst = newCwd := by
  cases newCwd with
  | none => rfl
  | some cwd => simp [Workspace.recordCwd, Workspace.setPaneCwd, hpane]

omit [VteParser P] [Vt100Parser G] in
theorem recordTitle_announced {w : Workspace P G} {pane : Pane P G}
    (hpane : w.panes.lookup paneId = some pane)
    (newTitle : Option String) :
    (w.recordTitle paneId newTitle).1.map Prod.fst = newTitle := by
  cases newTitle with
  | none => rfl
  | some title =>
      simp [Workspace.recordTitle, Workspace.setPaneTitle, Workspace.updatePane, hpane]

omit [VteParser P] [Vt100Parser G] in
/-- What the output task announces when it returns a screen. -/
theorem returnOutput_report {w : Workspace P G} {pane : Pane P G}
    (hpane : w.panes.lookup paneId = some pane)
    (screen : PaneScreen P G)
    (proc : ProcFs) :
    (w.returnOutput paneId screen proc).1.newCwd.map Prod.fst =
        Pane.reportIfNew pane.cwd screen.cwd ∧
      (w.returnOutput paneId screen proc).1.newTitle.map Prod.fst =
        Pane.reportIfNew pane.title screen.title := by
  simp only [Workspace.returnOutput, hpane]
  generalize hput : ({ w with
    panes := w.panes.insert paneId (pane.returnScreen screen).2 } : Workspace P G) = put
  have hstored : put.panes.lookup paneId = some (pane.returnScreen screen).2 := by
    rw [← hput]
    exact AList.lookup_insert _
  have hnamed : ((put.recordCwd paneId (pane.returnScreen screen).1.newCwd).2.recordName paneId
      (put.recordCwd paneId (pane.returnScreen screen).1.newCwd).1.isSome
      proc).2.panes.lookup paneId = some (pane.returnScreen screen).2 := by
    rw [Workspace.recordName_recordCwd_panes]
    exact hstored
  exact ⟨recordCwd_announced hstored _, recordTitle_announced hnamed _⟩

omit [VteParser P] [Vt100Parser G] in
/-- Returning a screen to a pane. -/
theorem lookup_giveBack {pane : Pane P G}
    (hpane : s.workspace.panes.lookup paneId = some pane)
    (screen : PaneScreen P G)
    (proc : ProcFs) :
    ∃ pane', (s.workspace.returnOutput paneId screen proc).2.panes.lookup paneId = some pane' ∧
      pane'.cwd = screen.cwd.or pane.cwd ∧ pane'.title = screen.title.or pane.title ∧
      pane'.screen.cwd = screen.cwd ∧ pane'.screen.title = screen.title := by
  refine ⟨(pane.returnScreen screen).2, ?_, Pane.extractMetadata_cwd _,
    Pane.extractMetadata_title _, rfl, rfl⟩
  rw [Workspace.lookup_returnOutput, if_pos rfl, hpane, Option.map_some]

/-- **In agreement, no report comes back.** -/
theorem InAgreement.noStaleReport
    (h : s.InAgreement paneId) :
    s.NoStaleReport paneId := by
  intro taken pane proc htask hpane
  obtain ⟨hcwd, htitle⟩ := h pane hpane
  have hlive : s.liveScreen pane = taken.screen := by simp [liveScreen, htask]
  have hcompleting : ∀ codes, s.completing codes =
      completesOsc codes (callsOver taken.screen.parser taken.data) := by
    intro codes
    simp [completing, htask]
  obtain ⟨hsameCwd, hsameTitle⟩ := parse_reports taken.screen taken.data
  obtain ⟨hnewCwd, hnewTitle⟩ := returnOutput_report hpane (taken.screen.parse taken.data) proc
  obtain ⟨pane', hpane', hcwd', htitle', _, _⟩ :=
    lookup_giveBack hpane (taken.screen.parse taken.data) proc
  rw [hlive] at hcwd htitle
  refine ⟨pane', hpane', ?_, ?_⟩
  · intro hnone
    have hsticky := hcwd.resolve_left (by simp [hnone])
    rw [hcompleting] at hnone
    rw [hsameCwd hnone] at hcwd' hnewCwd
    constructor
    · rcases hsticky with heq | heq
      · rw [hcwd', heq, Option.none_or]
      · rw [hcwd', heq, Option.or_self]
    · rw [Pane.reportIfNew_eq_none.mpr hsticky] at hnewCwd
      exact Option.map_eq_none_iff.mp hnewCwd
  · intro hnone
    have hsticky := htitle.resolve_left (by simp [hnone])
    rw [hcompleting] at hnone
    rw [hsameTitle hnone] at htitle' hnewTitle
    constructor
    · rcases hsticky with heq | heq
      · rw [htitle', heq, Option.none_or]
      · rw [htitle', heq, Option.or_self]
    · rw [Pane.reportIfNew_eq_none.mpr hsticky] at hnewTitle
      exact Option.map_eq_none_iff.mp hnewTitle

/-- The output task takes a batch. -/
theorem InAgreement.take {raw : Bytes} {taken : TakenOutput P G} {w : Workspace P G}
    (h : s.InAgreement paneId)
    (htask : s.task = none)
    (htake : s.workspace.takeOutput paneId raw = (some taken, w)) :
    ({ s with workspace := w, task := some taken } : ReportState P G).InAgreement paneId ∧
      ∀ pane', w.panes.lookup paneId = some pane' →
        ∃ pane, s.workspace.panes.lookup paneId = some pane ∧ pane'.cwd = pane.cwd := by
  cases hpane : s.workspace.panes.lookup paneId with
  | none => simp [Workspace.takeOutput, hpane] at htake
  | some pane =>
      have hlook := Workspace.lookup_takeOutput s.workspace paneId raw paneId
      rw [htake, if_pos rfl, hpane, Option.map_some] at hlook
      simp only [Workspace.takeOutput, hpane, Prod.mk.injEq, Option.some.injEq] at htake
      obtain ⟨rfl, _⟩ := htake
      obtain ⟨hcwd, htitle⟩ := h pane hpane
      have hidle : ∀ codes, s.completing codes = false := fun codes => by simp [completing, htask]
      have hlive : s.liveScreen pane = pane.screen := by simp [liveScreen, htask]
      rw [hlive] at hcwd htitle
      have hscreen : (Workspace.takePaneOutput pane raw).1.screen.cwd = pane.screen.cwd ∧
          (Workspace.takePaneOutput pane raw).1.screen.title = pane.screen.title := ⟨rfl, rfl⟩
      constructor
      · intro pane' hpane'
        rw [hlook, Option.some.injEq] at hpane'
        subst hpane'
        exact ⟨Or.inr (hcwd.resolve_left (by simp [hidle])),
          Or.inr (htitle.resolve_left (by simp [hidle]))⟩
      · intro pane' hpane'
        rw [hlook, Option.some.injEq] at hpane'
        subst hpane'
        exact ⟨pane, rfl, rfl⟩

/-- The output task returns the screen. -/
theorem InAgreement.giveBack (taken : TakenOutput P G) (proc : ProcFs) (announced : List String) :
    (⟨(s.workspace.returnOutput paneId (taken.screen.parse taken.data) proc).2, none,
      announced⟩ : ReportState P G).InAgreement paneId := by
  intro pane' hpane'
  cases hpane : s.workspace.panes.lookup paneId with
  | none =>
      rw [Workspace.lookup_returnOutput, if_pos rfl, hpane] at hpane'
      cases hpane'
  | some pane =>
      obtain ⟨found, hfound, hcwd, htitle, hscreen, hscreenTitle⟩ :=
        lookup_giveBack hpane (taken.screen.parse taken.data) proc
      rw [hfound, Option.some.injEq] at hpane'
      subst hpane'
      have hfollows : ∀ sticky field recorded : Option String, recorded = sticky.or field →
          sticky = none ∨ sticky = recorded := by
        intro sticky field recorded heq
        cases sticky with
        | none => exact Or.inl rfl
        | some value => exact Or.inr (by rw [heq, Option.some_or])
      refine ⟨Or.inr ?_, Or.inr ?_⟩
      · rw [show (ReportState.mk _ none announced).liveScreen found = found.screen from rfl,
          hscreen]
        exact hfollows _ _ _ hcwd
      · rw [show (ReportState.mk _ none announced).liveScreen found = found.screen from rfl,
          hscreenTitle]
        exact hfollows _ _ _ htitle

omit [Vt100Parser G] in
/-- A poll that overwrites no report. -/
theorem InAgreement.poll {proc : ProcFs} {announced : List String}
    (h : s.InAgreement paneId)
    (hok : s.overwritesNoReport paneId (.poll proc) = true) :
    ({ s with workspace := (s.workspace.pollCwds proc).2, announced := announced } :
      ReportState P G).InAgreement paneId := by
  obtain ⟨hlook, _⟩ := Workspace.pollCwds_spec s.workspace proc paneId
  intro pane' hpane'
  rw [hlook] at hpane'
  by_cases hclients : s.workspace.attachedClients.keys = []
  · rw [if_pos hclients] at hpane'
    exact h pane' hpane'
  · rw [if_neg hclients] at hpane'
    obtain ⟨pane, hpane, rfl⟩ := Option.map_eq_some_iff.mp hpane'
    obtain ⟨hcwd, htitle⟩ := h pane hpane
    cases hpolled : pane.polledCwd proc with
    | none =>
        simp only [Workspace.polledPane, hpolled]
        exact ⟨hcwd, htitle⟩
    | some cwd =>
        have hallowed : s.completing cwdCodes = true ∨ (s.liveScreen pane).cwd = none ∨
            (s.liveScreen pane).cwd = some cwd := by
          simpa [overwritesNoReport, hclients, hpane, hpolled, or_assoc] using hok
        simp only [Workspace.polledPane, hpolled]
        exact ⟨hallowed, htitle⟩

omit [Vt100Parser G] in
/-- A title that overwrites no report. -/
theorem InAgreement.setTitle {clientId target : Uuid} {title : String}
    (h : s.InAgreement paneId)
    (haccess : s.workspace.clientHasWriteAccess clientId = true)
    (hok : s.overwritesNoReport paneId (.setTitle clientId target title) = true) :
    ({ s with workspace := (s.workspace.setPaneTitle target title).2 } :
      ReportState P G).InAgreement paneId := by
  intro pane' hpane'
  simp only [Workspace.setPaneTitle, Workspace.lookup_updatePane] at hpane'
  by_cases htarget : paneId = target
  · subst htarget
    rw [if_pos rfl] at hpane'
    obtain ⟨pane, hpane, rfl⟩ := Option.map_eq_some_iff.mp hpane'
    obtain ⟨hcwd, _⟩ := h pane hpane
    have hallowed : s.completing titleCodes = true ∨ (s.liveScreen pane).title = none ∨
        (s.liveScreen pane).title = some title := by
      simpa [overwritesNoReport, haccess, hpane, or_assoc] using hok
    exact ⟨hcwd, hallowed⟩
  · rw [if_neg htarget] at hpane'
    exact h pane' hpane'

/-- **A step that meets the condition keeps the agreement.** -/
theorem InAgreement.next {a : ReportStep}
    (h : s.InAgreement paneId)
    (hok : s.overwritesNoReport paneId a = true)
    (hnext : s.next paneId a = some s') :
    s'.InAgreement paneId := by
  cases a with
  | take raw =>
      simp only [ReportState.next] at hnext
      split at hnext
      · cases hnext
      · rename_i htask
        split at hnext
        · cases hnext
        · rename_i taken w htake
          rw [← Option.some.inj hnext]
          exact (h.take htask htake).1
  | giveBack proc =>
      simp only [ReportState.next] at hnext
      split at hnext
      · cases hnext
      · rename_i taken htask
        rw [← Option.some.inj hnext]
        exact InAgreement.giveBack taken proc _
  | poll proc =>
      simp only [ReportState.next, Option.some.injEq] at hnext
      subst hnext
      exact h.poll hok
  | setTitle clientId target title =>
      simp only [ReportState.next] at hnext
      split at hnext
      · rename_i haccess
        rw [← Option.some.inj hnext]
        exact h.setTitle haccess hok
      · rw [← Option.some.inj hnext]
        exact h

/-- The runs that meet the condition stay in agreement. -/
theorem inAgreement_of_reachable
    (h : (system P G paneId).ReachableUnder
      (fun s a => s.overwritesNoReport paneId a = true) s) :
    s.InAgreement paneId := by
  refine h.invariant (I := InAgreement paneId) ?_ (fun _ _ _ hI hok hnext => hI.next hok hnext)
  rintro s ⟨htask, _, hfresh⟩ pane hpane
  obtain ⟨hcwd, htitle⟩ := hfresh pane hpane
  have hlive : s.liveScreen pane = pane.screen := by simp [liveScreen, htask]
  rw [hlive]
  exact ⟨Or.inr (Or.inl hcwd), Or.inr (Or.inl htitle)⟩

end ReportState

end Invariant

section Quiet

variable {P : Type u} {G : Type v}
variable [VteParser P] [Vt100Parser G]
variable {paneId : Uuid} {s s' : ReportState P G}

namespace ReportState

/-- At most one directory was announced since there were `base`, and then the
pane has the directory that the polls find. -/
def AtMostOneSince (paneId : Uuid) (cwd : String) (base : Nat) (s : ReportState P G) : Prop :=
  s.announced.length ≤ base ∨
    s.announced.length ≤ base + 1 ∧
      ∀ pane, s.workspace.panes.lookup paneId = some pane → pane.cwd = some cwd

omit [VteParser P] [Vt100Parser G] in
/-- A step that announces nothing and keeps the directory. -/
theorem AtMostOneSince.of_same {cwd : String} {base : Nat}
    (h : s.AtMostOneSince paneId cwd base)
    (hannounced : s'.announced = s.announced)
    (hcwd : ∀ pane', s'.workspace.panes.lookup paneId = some pane' →
      ∃ pane, s.workspace.panes.lookup paneId = some pane ∧ pane'.cwd = pane.cwd) :
    s'.AtMostOneSince paneId cwd base := by
  rw [AtMostOneSince, hannounced]
  rcases h with hnone | ⟨hone, hpane⟩
  · exact Or.inl hnone
  · refine Or.inr ⟨hone, ?_⟩
    intro pane' hpane'
    obtain ⟨pane, hfound, heq⟩ := hcwd pane' hpane'
    rw [heq]
    exact hpane pane hfound

/-- A quiet step announces the directory of the polls at most once. -/
theorem AtMostOneSince.next {a : ReportStep} {cwd : String} {base : Nat}
    (h : s.AtMostOneSince paneId cwd base)
    (hagree : s.InAgreement paneId)
    (hquiet : s.isQuiet paneId cwd a = true)
    (hnext : s.next paneId a = some s') :
    s'.AtMostOneSince paneId cwd base := by
  cases a with
  | take raw =>
      simp only [ReportState.next] at hnext
      split at hnext
      · cases hnext
      · rename_i htask
        split at hnext
        · cases hnext
        · rename_i taken w htake
          rw [← Option.some.inj hnext]
          exact h.of_same rfl (hagree.take htask htake).2
  | giveBack proc =>
      simp only [ReportState.next] at hnext
      split at hnext
      · cases hnext
      · rename_i taken htask
        rw [← Option.some.inj hnext]
        have hnone : s.completing cwdCodes = false := by simpa [isQuiet] using hquiet
        cases hpane : s.workspace.panes.lookup paneId with
        | none =>
            refine h.of_same ?_ ?_
            · simp [Workspace.returnOutput, hpane, OutputReport.empty]
            · intro pane' hpane'
              rw [Workspace.lookup_returnOutput, if_pos rfl, hpane] at hpane'
              cases hpane'
        | some pane =>
            obtain ⟨found, hfound, hcwd, _⟩ := hagree.noStaleReport taken pane proc htask hpane
            obtain ⟨hsame, hannounced⟩ := hcwd hnone
            refine h.of_same (by simp [hannounced]) ?_
            intro pane' hpane'
            rw [hfound, Option.some.injEq] at hpane'
            subst hpane'
            exact ⟨pane, hpane, hsame⟩
  | poll proc =>
      simp only [ReportState.next, Option.some.injEq] at hnext
      subst hnext
      obtain ⟨hlook, hchanges⟩ := Workspace.pollCwds_spec s.workspace proc paneId
      by_cases hclients : s.workspace.attachedClients.keys = []
      · rw [if_pos hclients] at hlook hchanges
        refine h.of_same (by simp [hchanges]) ?_
        intro pane' hpane'
        exact ⟨pane', hlook ▸ hpane', rfl⟩
      · rw [if_neg hclients] at hlook hchanges
        cases hpane : s.workspace.panes.lookup paneId with
        | none =>
            refine h.of_same (by simp [hchanges, hpane]) ?_
            intro pane' hpane'
            simp [hlook, hpane] at hpane'
        | some pane =>
            rw [hpane, Option.map_some] at hlook
            rw [hpane, Option.bind_some] at hchanges
            cases hpolled : pane.polledCwd proc with
            | none =>
                refine h.of_same (by simp [hchanges, hpolled]) ?_
                intro pane' hpane'
                rw [hlook, Option.some.injEq] at hpane'
                subst hpane'
                exact ⟨pane, hpane, by simp [Workspace.polledPane, hpolled]⟩
            | some found =>
                obtain ⟨hread, hother⟩ := Pane.polledCwd_eq_some hpolled
                have hfound : found = cwd := by
                  simpa [isQuiet, hpane, hread] using hquiet
                subst hfound
                refine Or.inr ⟨?_, ?_⟩
                · rcases h with hnone | ⟨_, hsame⟩
                  · simpa [hchanges, hpolled] using hnone
                  · exact absurd (hsame pane hpane) hother
                · intro pane' hpane'
                  rw [hlook, Option.some.injEq] at hpane'
                  subst hpane'
                  simp [Workspace.polledPane, hpolled]
  | setTitle clientId target title =>
      simp only [ReportState.next] at hnext
      split at hnext
      · rw [← Option.some.inj hnext]
        refine h.of_same rfl ?_
        intro pane' hpane'
        simp only [Workspace.setPaneTitle, Workspace.lookup_updatePane] at hpane'
        split at hpane'
        · rename_i htarget
          obtain ⟨pane, hpane, rfl⟩ := Option.map_eq_some_iff.mp hpane'
          exact ⟨pane, htarget ▸ hpane, rfl⟩
        · exact ⟨pane', hpane', rfl⟩
      · rw [← Option.some.inj hnext]
        exact h

end ReportState

/-- **Stale reports do not return** in the runs whose polls and titles overwrite
no report, and while the program and the polls report nothing else, at most one
directory is announced. -/
theorem reports_stay_fresh
    (h : (ReportState.system P G paneId).ReachableUnder
      (fun s a => s.overwritesNoReport paneId a = true) s) :
    s.NoStaleReport paneId ∧
      ∀ cwd acts, (ReportState.system P G paneId).execUnder
          (fun s a => s.overwritesNoReport paneId a && s.isQuiet paneId cwd a) s acts = some s' →
        s'.announced.length ≤ s.announced.length + 1 := by
  have hagree := ReportState.inAgreement_of_reachable h
  refine ⟨hagree.noStaleReport, ?_⟩
  intro cwd acts hrun
  have hinv := System.execUnder_invariant
    (I := fun r => r.InAgreement paneId ∧ r.AtMostOneSince paneId cwd s.announced.length) ?_
    ⟨hagree, Or.inl (Nat.le_refl _)⟩ hrun
  · rcases hinv.2 with hnone | hone
    · omega
    · exact hone.1
  · rintro r a r' ⟨hagree', hmost⟩ hok hnext
    rw [Bool.and_eq_true] at hok
    exact ⟨hagree'.next hok.1 hnext, hmost.next hagree' hok.2 hnext⟩

end Quiet

section SampleRuns

/-- A workspace with one client and one pane, whose child runs. -/
def watchedWorkspace : Workspace SampleParser SampleGrid :=
  let empty : Workspace SampleParser SampleGrid := Workspace.new 7 "work" 0
  { empty.insertClient 9 .writer with
    panes := (∅ : HashMap Uuid _).insert 1 { Pane.new 1 80 24 with childPid := some 42 } }

def watched : ReportState SampleParser SampleGrid :=
  ⟨watchedWorkspace, none, []⟩

theorem watched_init : (ReportState.system SampleParser SampleGrid 1).init watched := by
  refine ⟨rfl, rfl, ?_⟩
  intro p hp
  have heq := Option.some.inj ((AList.lookup_insert _).symm.trans hp)
  exact heq ▸ ⟨rfl, rfl⟩

/-- Every process works in this directory. -/
def procIn (cwd : String) : ProcFs :=
  ⟨fun _ => some cwd, fun _ => none⟩

def batch (proc : ProcFs) (raw : Bytes) : List ReportStep :=
  [.take raw, .giveBack proc]

/-- The program reports a directory that the poll finds too, and prints. -/
def agreeingReports : List ReportStep :=
  batch (procIn "/a") (bytesOf "\x1b]7;file://h/a\x07") ++
    [.poll (procIn "/a"), .take (bytesOf "x")]

theorem agreeingReports_runs :
    ((ReportState.system SampleParser SampleGrid 1).execUnder
      (fun s a => s.overwritesNoReport 1 a) watched agreeingReports).isSome = true := by
  decide +kernel

/-- The theorem at the end of that run, with the last batch being parsed. -/
theorem reports_stay_fresh_agreeing :
    ∃ s : ReportState SampleParser SampleGrid,
      s.announced = ["/a"] ∧ s.task.isSome = true ∧ s.NoStaleReport 1 :=
  ⟨_, by decide +kernel, by decide +kernel, (@reports_stay_fresh SampleParser SampleGrid _ _ 1 _ watched
    (System.reachableUnder_get watched_init agreeingReports_runs)).1⟩

/-- The program reports a directory, the poll finds another, and the program
prints. -/
def overwrittenDirectory : List ReportStep :=
  batch (procIn "/a") (bytesOf "\x1b]7;file://h/a\x07") ++
    [.poll (procIn "/b"), .take (bytesOf "x")]

theorem overwrittenDirectory_runs :
    ((ReportState.system SampleParser SampleGrid 1).exec watched
      overwrittenDirectory).isSome = true := by
  decide +kernel

/-- The program reports a title, a client sets another, and the program prints. -/
def overwrittenTitle : List ReportStep :=
  batch (procIn "/a") (bytesOf "\x1b]2;vim\x07") ++ [.setTitle 9 1 "mine", .take (bytesOf "x")]

theorem overwrittenTitle_runs :
    ((ReportState.system SampleParser SampleGrid 1).exec watched
      overwrittenTitle).isSome = true := by
  decide +kernel

/-- **An overwritten report returns**, a directory as well as a title. -/
theorem report_returns :
    ∃ s t : ReportState SampleParser SampleGrid,
      ((ReportState.system _ _ 1).Reachable s ∧ s.completing cwdCodes = false ∧
        ¬ s.NoStaleReport 1) ∧
      (ReportState.system _ _ 1).Reachable t ∧ t.completing titleCodes = false ∧
        ¬ t.NoStaleReport 1 := by
  refine ⟨_, _,
    ⟨System.reachable_get watched_init overwrittenDirectory_runs, by decide +kernel, ?_⟩,
    System.reachable_get watched_init overwrittenTitle_runs, by decide +kernel, ?_⟩
  · intro h
    obtain ⟨_, _, hcwd, _⟩ := h _ _ (procIn "/b") (Option.some_get (by decide +kernel)).symm
      (Option.some_get (by decide +kernel)).symm
    exact absurd (hcwd (by decide +kernel)).2 (by decide +kernel)
  · intro h
    obtain ⟨_, _, _, htitle⟩ := h _ _ (procIn "/a") (Option.some_get (by decide +kernel)).symm
      (Option.some_get (by decide +kernel)).symm
    exact absurd (htitle (by decide +kernel)).2 (by decide +kernel)

end SampleRuns

end Server
end Rttx
