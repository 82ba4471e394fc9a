import Mathlib.Data.List.Infix
import Rttx.Server.PaneStructure
import Rttx.Server.SampleTerminal
import Rttx.Server.ScreenReaders

/-!
# Who sees the placeholder of a taken screen

While the output task of a pane parses a batch the pane holds an empty
placeholder.  The workspace is not locked meanwhile, so every reader of screens
may run, and the fields it reads are those of the placeholder.

For each pane a log records what the pane's real screen has been through, in
the pane or with its output task, and for each reader the workspace it found.
No step reads the records.

**Results.**
* `reads_real_screens`: in runs in which nobody looks at the screen of a pane
  while it is out, every reader finds the real screen after a prefix of what
  happened to it.
* `placeholder_seen_by_readers`: a run in which each of the four readers finds
  the placeholder; a paste is not wrapped although bracketed paste is on.
-/

namespace Rttx
namespace Server

open Kernel

universe u v

/-- A real screen as it was at first, and what has happened to it. -/
structure ScreenLog (P : Type u) (G : Type v) where
  origin : PaneScreen P G
  events : List ScreenEvent
deriving DecidableEq

/-- What an output task holds of its pane. -/
inductive OutScreen (P : Type u) (G : Type v)
  | taken (t : TakenOutput P G)
  | parsed (t : TakenOutput P G)

/-- A reader, the workspace as it found it, and what it made of it. -/
structure ScreenObservation (P : Type u) (G : Type v) where
  reader : ScreenRead
  workspace : Workspace P G
  result : ScreenReadResult

/-- A workspace, the screens that are out, and the records. -/
structure ScreenState (P : Type u) (G : Type v) where
  workspace : Workspace P G
  out : HashMap Uuid (OutScreen P G)
  logs : Uuid → Option (ScreenLog P G)
  observations : List (ScreenObservation P G)

/-- The steps of the output tasks, those that resize or add panes, the readers,
and the operations that leave the screens alone. -/
inductive ScreenStep (P : Type u) (G : Type v)
  | takeScreen (paneId : Uuid) (raw : Bytes)
  | parse (paneId : Uuid)
  | returnScreen (paneId : Uuid) (proc : ProcFs)
  | exitCleanup (paneId : Uuid)
  | exitRelease (paneId : Uuid) (status : Int)
  | resizePane (paneId : Uuid) (cols rows : Nat)
  | addPane (pane : Pane P G)
  | splitPane (target : Uuid) (pane : Pane P G) (axis : SplitAxis) (ratio : F32)
  | other (op : WorkspaceOp P G)
  | read (reader : ScreenRead)

section Logs

variable {P : Type u} {G : Type v}

namespace ScreenLog

def append (lg : ScreenLog P G) (events : List ScreenEvent) : ScreenLog P G :=
  { lg with events := lg.events ++ events }

variable [VteParser P] [Vt100Parser G]

/-- The real screen now. -/
def current (lg : ScreenLog P G) : PaneScreen P G :=
  lg.origin.replay lg.events

theorem current_append (lg : ScreenLog P G) (events : List ScreenEvent) :
    (lg.append events).current = lg.current.replay events :=
  PaneScreen.replay_append _ _ _

/-- The screen is the real one after a prefix of its log. -/
def Passed (lg : ScreenLog P G) (screen : PaneScreen P G) : Prop :=
  ∃ events, events <+: lg.events ∧ screen = lg.origin.replay events

theorem passed_current (lg : ScreenLog P G) : lg.Passed lg.current :=
  ⟨lg.events, List.prefix_rfl, rfl⟩

theorem Passed.append {lg : ScreenLog P G} {screen : PaneScreen P G}
    (h : lg.Passed screen)
    (events : List ScreenEvent) :
    (lg.append events).Passed screen := by
  obtain ⟨before, hprefix, hscreen⟩ := h
  exact ⟨before, hprefix.trans (List.prefix_append _ _), hscreen⟩

end ScreenLog

/-- The real screen as the output task has it, its pane's log not extended yet. -/
def OutScreen.Holds [VteParser P] [Vt100Parser G] (o : OutScreen P G)
    (screen : PaneScreen P G) : Prop :=
  match o with
  | .taken t => t.screen = screen.acceptRaw t.data
  | .parsed t => t.screen = (screen.acceptRaw t.data).parse t.data

end Logs

namespace ScreenState

section Steps

variable {P : Type u} {G : Type v}

/-- Whether the real screen of the pane is in place. -/
def inPlace (s : ScreenState P G) (k : Uuid) : Bool :=
  (s.out.lookup k).isNone

/-- Record what happened to the screens in place. -/
def record (s : ScreenState P G) (events : Uuid → List ScreenEvent) : ScreenState P G :=
  { s with logs := fun k =>
      (s.logs k).map (fun lg => if s.inPlace k then lg.append (events k) else lg) }

/-- Start the log of a new pane. -/
def startLog (s : ScreenState P G) (pane : Pane P G) : ScreenState P G :=
  { s with logs := fun k => if k = pane.id then some ⟨pane.screen, []⟩ else s.logs k }

/-- Events of one pane. -/
def only (paneId : Uuid) (events : List ScreenEvent) (k : Uuid) : List ScreenEvent :=
  if k = paneId then events else []

/-- What a resize does to the screen of a pane. -/
def resizeEvents (w : Workspace P G) (paneId : Uuid) (cols rows : Nat) (k : Uuid) :
    List ScreenEvent :=
  match w.panes.lookup k with
  | none => []
  | some pane =>
      only paneId (if pane.cols ≠ cols || pane.rows ≠ rows then [.resized cols rows] else []) k

/-- The operations that leave every screen as it is. -/
def keepsScreens : WorkspaceOp P G → Bool
  | .addPane _ => false
  | .splitPane _ _ _ _ => false
  | .resizePane _ _ _ => false
  | .takeOutput _ _ => false
  | .returnOutput _ _ _ => false
  | _ => true

variable [VteParser P] [Vt100Parser G]

/-- One step.  The output task of a pane is one task: it takes the screen when
it has it not, and handles the exit of the process after the last batch.  Ids
of new panes are minted. -/
def next (s : ScreenState P G) : ScreenStep P G → Option (ScreenState P G)
  | .takeScreen paneId raw =>
      match s.inPlace paneId, s.workspace.takeOutput paneId raw with
      | true, (some t, w) =>
          some { s with workspace := w, out := s.out.insert paneId (.taken t) }
      | _, _ => none
  | .parse paneId =>
      match s.out.lookup paneId with
      | some (.taken t) =>
          some { s with
            out := s.out.insert paneId (.parsed { t with screen := t.screen.parse t.data }) }
      | _ => none
  | .returnScreen paneId proc =>
      match s.out.lookup paneId with
      | some (.parsed t) =>
          let s' : ScreenState P G := { s with
            workspace := (s.workspace.returnOutput paneId t.screen proc).2
            out := s.out.erase paneId }
          some (s'.record (only paneId [.batch t.data]))
      | _ => none
  | .exitCleanup paneId =>
      match s.inPlace paneId, s.workspace.panes.lookup paneId with
      | true, some pane =>
          let (cleanup, pane) := pane.feedCleanup
          let w := { s.workspace with panes := s.workspace.panes.insert paneId pane }
          some ({ s with workspace := w }.record (only paneId [.fed cleanup]))
      | _, _ => none
  | .exitRelease paneId status =>
      if s.inPlace paneId then
        let (_, w) := s.workspace.setPaneExitStatus paneId (some status)
        let w := { w with panes := w.panes.modify paneId Pane.releaseScrollback }
        some ({ s with workspace := w }.record (only paneId [.cleared]))
      else
        none
  | .resizePane paneId cols rows =>
      let (_, w) := s.workspace.resizePane paneId cols rows
      some ({ s with workspace := w }.record (resizeEvents s.workspace paneId cols rows))
  | .addPane pane =>
      if (s.logs pane.id).isSome then
        none
      else
        some ({ s with workspace := s.workspace.addPane pane }.startLog pane)
  | .splitPane target pane axis ratio =>
      if (s.logs pane.id).isSome then
        none
      else
        match s.workspace.splitPane target pane axis ratio with
        | (none, _) => some s
        | (some _, w) => some ({ s with workspace := w }.startLog pane)
  | .other op =>
      if keepsScreens op then some { s with workspace := s.workspace.apply op } else none
  | .read reader =>
      let (result, w) := s.workspace.readScreens reader
      let s' : ScreenState P G := { s with
        workspace := w
        observations := s.observations ++ [⟨reader, s.workspace, result⟩] }
      some (s'.record (s.workspace.readEvents reader))

/-- Every screen is in place and nothing has happened to it yet. -/
def IsStart (s : ScreenState P G) : Prop :=
  s.out = ∅ ∧ s.observations = [] ∧
    ∀ k, s.logs k = (s.workspace.panes.lookup k).map (fun pane => ⟨pane.screen, []⟩)

variable (P G) in
def system : System (ScreenState P G) (ScreenStep P G) where
  init := IsStart
  next := next

/-- No reader looks at the screen of a pane while it is out. -/
def readsInPlace (s : ScreenState P G) : ScreenStep P G → Bool
  | .read reader =>
      s.workspace.panes.keys.all (fun k => !s.workspace.looksAt reader k || s.inPlace k)
  | _ => true

/-- The reader's result is computed from the workspace it found, and each
screen it looked at there was the real one after a prefix of its log. -/
structure SeesReal (logs : Uuid → Option (ScreenLog P G)) (o : ScreenObservation P G) :
    Prop where
  result : o.result = (o.workspace.readScreens o.reader).1
  screens : ∀ k pane, o.workspace.looksAt o.reader k = true →
    o.workspace.panes.lookup k = some pane →
    ∃ lg, logs k = some lg ∧ lg.Passed pane.screen

end Steps

section Invariant

variable {P : Type u} {G : Type v}
variable [VteParser P] [Vt100Parser G]

/-- The invariant of runs whose readers find the screens in place. -/
structure Inv (s : ScreenState P G) : Prop where
  out : ∀ k o, s.out.lookup k = some o → ∃ lg, s.logs k = some lg ∧ o.Holds lg.current
  real : ∀ k pane, s.workspace.panes.lookup k = some pane →
    ∃ lg, s.logs k = some lg ∧ (s.inPlace k = true → pane.screen = lg.current)
  seen : ∀ o ∈ s.observations, SeesReal s.logs o

/-- Logs only grow. -/
def LogsGrow (s s' : ScreenState P G) : Prop :=
  ∀ k lg, s.logs k = some lg → ∃ events, s'.logs k = some (lg.append events)

omit [VteParser P] [Vt100Parser G] in
theorem append_nil (lg : ScreenLog P G) : lg.append [] = lg := by
  simp [ScreenLog.append]

theorem SeesReal.of_grow {s s' : ScreenState P G} {o : ScreenObservation P G}
    (h : SeesReal s.logs o)
    (hgrow : s.LogsGrow s') :
    SeesReal s'.logs o := by
  refine ⟨h.result, ?_⟩
  intro k pane hlooks hpane
  obtain ⟨lg, hlg, hpassed⟩ := h.screens k pane hlooks hpane
  obtain ⟨events, hlg'⟩ := hgrow k lg hlg
  exact ⟨lg.append events, hlg', hpassed.append events⟩

omit [VteParser P] [Vt100Parser G] in
theorem logs_record {s : ScreenState P G} {k : Uuid} {lg : ScreenLog P G}
    (h : s.logs k = some lg)
    (events : Uuid → List ScreenEvent) :
    (s.record events).logs k = some (if s.inPlace k then lg.append (events k) else lg) := by
  simp only [record, h, Option.map_some]

omit [VteParser P] [Vt100Parser G] in
theorem logsGrow_record (s : ScreenState P G) (events : Uuid → List ScreenEvent) :
    s.LogsGrow (s.record events) := by
  intro k lg hlg
  rw [logs_record hlg]
  cases s.inPlace k with
  | true => exact ⟨events k, rfl⟩
  | false => exact ⟨[], by rw [append_nil]; rfl⟩

/-- Recording what was done to the screens in place; nothing is taken or
returned. -/
theorem Inv.record {s : ScreenState P G} {events : Uuid → List ScreenEvent}
    {w : Workspace P G} {observations : List (ScreenObservation P G)}
    (h : s.Inv)
    (hscreens : ∀ k pane', w.panes.lookup k = some pane' →
      ∃ pane, s.workspace.panes.lookup k = some pane ∧
        (s.inPlace k = true → pane'.screen = pane.screen.replay (events k)))
    (hseen : ∀ o ∈ observations, SeesReal s.logs o) :
    ({ s with workspace := w, observations := observations }.record events).Inv := by
  have hgrow : s.LogsGrow ({ s with workspace := w, observations := observations }.record events) :=
    logsGrow_record { s with workspace := w, observations := observations } events
  refine ⟨?_, ?_, fun o ho => (hseen o ho).of_grow hgrow⟩
  · intro k o ho
    obtain ⟨lg, hlg, hholds⟩ := h.out k o ho
    have hout : s.inPlace k = false := by
      have hsome : s.out.lookup k = some o := ho
      simp [inPlace, hsome]
    refine ⟨lg, ?_, hholds⟩
    have hlogs := logs_record (s := { s with workspace := w, observations := observations })
      hlg events
    have hplace : ({ s with workspace := w, observations := observations } :
        ScreenState P G).inPlace k = false := hout
    rw [hplace] at hlogs
    exact hlogs
  · intro k pane' hpane'
    obtain ⟨pane, hpane, hscreen⟩ := hscreens k pane' hpane'
    obtain ⟨lg, hlg, hreal⟩ := h.real k pane hpane
    refine ⟨_, logs_record (s := { s with workspace := w, observations := observations })
      hlg events, ?_⟩
    intro hplace
    have hin : s.inPlace k = true := hplace
    have hin' : ({ s with workspace := w, observations := observations } :
        ScreenState P G).inPlace k = true := hplace
    rw [hin', if_pos rfl, ScreenLog.current_append, hscreen hin, hreal hin]

/-- Recording what was done to the screen of one pane. -/
theorem Inv.recordOnly {s : ScreenState P G} {w : Workspace P G} {paneId : Uuid}
    {events : List ScreenEvent}
    (h : s.Inv)
    (hothers : ∀ k, k ≠ paneId → w.panes.lookup k = s.workspace.panes.lookup k)
    (hpane : ∀ pane', w.panes.lookup paneId = some pane' →
      ∃ pane, s.workspace.panes.lookup paneId = some pane ∧
        pane'.screen = pane.screen.replay events) :
    ({ s with workspace := w }.record (only paneId events)).Inv := by
  refine h.record ?_ h.seen
  intro k pane' hpane'
  by_cases hk : k = paneId
  · subst hk
    obtain ⟨pane, hlook, hscreen⟩ := hpane pane' hpane'
    exact ⟨pane, hlook, fun _ => by rw [only, if_pos rfl, hscreen]⟩
  · rw [hothers k hk] at hpane'
    exact ⟨pane', hpane', fun _ => by rw [only, if_neg hk]; rfl⟩

/-- A change of the workspace that keeps the screens. -/
theorem Inv.of_screens {s : ScreenState P G} {w : Workspace P G}
    (h : s.Inv)
    (hscreens : ∀ k pane', w.panes.lookup k = some pane' →
      ∃ pane, s.workspace.panes.lookup k = some pane ∧ pane'.screen = pane.screen) :
    ({ s with workspace := w } : ScreenState P G).Inv := by
  refine ⟨h.out, ?_, h.seen⟩
  intro k pane' hpane'
  obtain ⟨pane, hpane, hscreen⟩ := hscreens k pane' hpane'
  obtain ⟨lg, hlg, hreal⟩ := h.real k pane hpane
  exact ⟨lg, hlg, fun hplace => by rw [hscreen, hreal hplace]⟩

omit [VteParser P] [Vt100Parser G] in
/-- An update of one pane that keeps its screen. -/
theorem screen_updatePane {w : Workspace P G} {paneId k : Uuid} {changed : Pane P G → Bool}
    {update : Pane P G → Pane P G} {pane' : Pane P G}
    (h : (w.updatePane paneId changed update).2.panes.lookup k = some pane')
    (hkeeps : ∀ pane, (update pane).screen = pane.screen) :
    ∃ pane, w.panes.lookup k = some pane ∧ pane'.screen = pane.screen := by
  rw [Workspace.lookup_updatePane] at h
  by_cases hk : k = paneId
  · rw [if_pos hk] at h
    obtain ⟨pane, hpane, rfl⟩ := Option.map_eq_some_iff.mp h
    exact ⟨pane, hk ▸ hpane, hkeeps pane⟩
  · rw [if_neg hk] at h
    exact ⟨pane', h, rfl⟩

/-- The other operations keep the screens. -/
theorem apply_keepsScreens {w : Workspace P G} {op : WorkspaceOp P G} {k : Uuid}
    {pane' : Pane P G}
    (hop : keepsScreens op = true)
    (h : (w.apply op).panes.lookup k = some pane') :
    ∃ pane, w.panes.lookup k = some pane ∧ pane'.screen = pane.screen := by
  have hsame : ∀ {w' : Workspace P G}, w'.panes = w.panes → w'.panes.lookup k = some pane' →
      ∃ pane, w.panes.lookup k = some pane ∧ pane'.screen = pane.screen := by
    intro w' hpanes hlook
    exact ⟨pane', by rw [← hpanes, hlook], rfl⟩
  cases op with
  | addPane pane => cases hop
  | splitPane target pane axis ratio => cases hop
  | resizePane paneId cols rows => cases hop
  | takeOutput paneId raw => cases hop
  | returnOutput paneId screen proc => cases hop
  | removePane paneId =>
      have hlook := Workspace.lookup_removePane w paneId k
      rw [Workspace.apply, hlook] at h
      by_cases hk : k = paneId
      · simp [hk] at h
      · rw [if_neg hk] at h
        exact ⟨pane', h, rfl⟩
  | resizeSplit path ratio =>
      refine hsame ?_ h
      simp only [Workspace.apply, Workspace.resizeSplit]
      split <;> rfl
  | setDefaultActivePane paneId =>
      refine hsame ?_ h
      simp only [Workspace.apply, Workspace.setDefaultActivePane]
      split <;> rfl
  | attachClient clientId mode now =>
      exact hsame (Workspace.attachClient_effect w clientId mode now).panes h
  | detachClient clientId reason =>
      exact hsame (Workspace.detachClient_effect w clientId reason).panes h
  | setAutoName name => exact hsame (Workspace.setAutoName_effect w name).panes h
  | refreshAutoName proc => exact hsame (Workspace.refreshAutoName_panes w proc) h
  | rename name => exact hsame (Workspace.rename_effect w name).panes h
  | setPaneTitle paneId title =>
      rw [Workspace.apply, Workspace.setPaneTitle] at h
      exact screen_updatePane h (fun _ => rfl)
  | setPaneNoPersist paneId noPersist =>
      rw [Workspace.apply, Workspace.setPaneNoPersist] at h
      exact screen_updatePane h (fun _ => rfl)
  | setPaneExitStatus paneId status =>
      rw [Workspace.apply, Workspace.setPaneExitStatus] at h
      exact screen_updatePane h (fun _ => rfl)
  | markPersisted => exact hsame rfl h

/-- A new pane starts a new log. -/
theorem Inv.insertNew {s : ScreenState P G} {w : Workspace P G} {pane : Pane P G}
    (h : s.Inv)
    (hfresh : s.logs pane.id = none)
    (hpanes : w.panes = s.workspace.panes.insert pane.id pane) :
    ({ s with workspace := w }.startLog pane).Inv := by
  have hkeep : ∀ k lg, s.logs k = some lg →
      ({ s with workspace := w }.startLog pane).logs k = some lg := by
    intro k lg hlg
    have hne : k ≠ pane.id := by
      rintro rfl
      rw [hfresh] at hlg
      cases hlg
    simp only [startLog, if_neg hne, hlg]
  have hgrow : s.LogsGrow ({ s with workspace := w }.startLog pane) := by
    intro k lg hlg
    exact ⟨[], by rw [append_nil, hkeep k lg hlg]⟩
  refine ⟨?_, ?_, fun o ho => (h.seen o ho).of_grow hgrow⟩
  · intro k o ho
    obtain ⟨lg, hlg, hholds⟩ := h.out k o ho
    exact ⟨lg, hkeep k lg hlg, hholds⟩
  · intro k pane' hpane'
    have hlook : (s.workspace.panes.insert pane.id pane).lookup k = some pane' := hpanes ▸ hpane'
    rcases HashMap.lookup_insert_cases hlook with ⟨rfl, rfl⟩ | ⟨_, hold⟩
    · exact ⟨⟨pane'.screen, []⟩, by simp [startLog], fun _ => rfl⟩
    · obtain ⟨lg, hlg, hreal⟩ := h.real k pane' hold
      exact ⟨lg, hkeep k lg hlg, hreal⟩

end Invariant

section StepLemmas

variable {P : Type u} {G : Type v}
variable [VteParser P] [Vt100Parser G]

/-- The screen leaves with the batch stored; its log does not change. -/
theorem Inv.takeScreen {s : ScreenState P G} {paneId : Uuid} {raw : Bytes}
    {t : TakenOutput P G} {w : Workspace P G}
    (h : s.Inv)
    (hplace : s.inPlace paneId = true)
    (htake : s.workspace.takeOutput paneId raw = (some t, w)) :
    ({ s with
        workspace := w
        out := s.out.insert paneId (.taken t) } : ScreenState P G).Inv := by
  have hlook : ∀ k, w.panes.lookup k =
      if k = paneId then
        (s.workspace.panes.lookup paneId).map (fun p => (Workspace.takePaneOutput p raw).2)
      else s.workspace.panes.lookup k := by
    intro k
    have hres := Workspace.lookup_takeOutput s.workspace paneId raw k
    rw [htake] at hres
    exact hres
  refine ⟨?_, ?_, h.seen⟩
  · intro k o ho
    rcases HashMap.lookup_insert_cases ho with ⟨rfl, rfl⟩ | ⟨_, hold⟩
    · cases hpane : s.workspace.panes.lookup k with
      | none => simp [Workspace.takeOutput, hpane] at htake
      | some pane =>
          simp only [Workspace.takeOutput, hpane, Prod.mk.injEq, Option.some.injEq] at htake
          obtain ⟨rfl, _⟩ := htake
          obtain ⟨lg, hlg, hreal⟩ := h.real k pane hpane
          refine ⟨lg, hlg, ?_⟩
          rw [← hreal hplace]
          rfl
    · exact h.out k o hold
  · intro k pane' hpane'
    rw [hlook] at hpane'
    by_cases hk : k = paneId
    · subst hk
      rw [if_pos rfl] at hpane'
      obtain ⟨pane, hpane, rfl⟩ := Option.map_eq_some_iff.mp hpane'
      obtain ⟨lg, hlg, _⟩ := h.real k pane hpane
      refine ⟨lg, hlg, ?_⟩
      intro hin
      simp [inPlace] at hin
    · rw [if_neg hk] at hpane'
      obtain ⟨lg, hlg, hreal⟩ := h.real k pane' hpane'
      refine ⟨lg, hlg, ?_⟩
      intro hin
      simp only [inPlace, HashMap.lookup_insert_eq, if_neg hk] at hin
      exact hreal hin

theorem Inv.parse {s : ScreenState P G} {paneId : Uuid} {t : TakenOutput P G}
    (h : s.Inv)
    (hout : s.out.lookup paneId = some (.taken t)) :
    ({ s with
        out := s.out.insert paneId (.parsed { t with screen := t.screen.parse t.data }) } :
      ScreenState P G).Inv := by
  refine ⟨?_, ?_, h.seen⟩
  · intro k o ho
    rcases HashMap.lookup_insert_cases ho with ⟨rfl, rfl⟩ | ⟨_, hold⟩
    · obtain ⟨lg, hlg, hholds⟩ := h.out k _ hout
      have hscreen : t.screen = lg.current.acceptRaw t.data := hholds
      refine ⟨lg, hlg, ?_⟩
      simp only [OutScreen.Holds, hscreen]
    · exact h.out k o hold
  · intro k pane' hpane'
    obtain ⟨lg, hlg, hreal⟩ := h.real k pane' hpane'
    refine ⟨lg, hlg, ?_⟩
    intro hin
    by_cases hk : k = paneId
    · subst hk
      simp [inPlace] at hin
    · simp only [inPlace, HashMap.lookup_insert_eq, if_neg hk] at hin
      exact hreal hin

/-- The screen comes back having consumed the batch. -/
theorem Inv.returnScreen {s : ScreenState P G} {paneId : Uuid} {t : TakenOutput P G}
    (h : s.Inv)
    (hout : s.out.lookup paneId = some (.parsed t))
    (proc : ProcFs) :
    (({ s with
        workspace := (s.workspace.returnOutput paneId t.screen proc).2
        out := s.out.erase paneId } : ScreenState P G).record
          (only paneId [.batch t.data])).Inv := by
  obtain ⟨lg₀, hlg₀, hholds⟩ := h.out paneId _ hout
  have hscreen : t.screen = (lg₀.current.acceptRaw t.data).parse t.data := hholds
  refine ⟨?_, ?_, fun o ho => (h.seen o ho).of_grow ?_⟩
  · intro k o ho
    obtain ⟨hk, hold⟩ := HashMap.lookup_erase_cases ho
    obtain ⟨lg, hlg, hholds'⟩ := h.out k o hold
    refine ⟨lg, ?_, hholds'⟩
    simp only [ScreenState.record, hlg, only, if_neg hk, append_nil, ite_self, Option.map_some]
  · intro k pane' hpane'
    have hlook := Workspace.lookup_returnOutput s.workspace paneId t.screen proc k
    rw [show (s.workspace.returnOutput paneId t.screen proc).2.panes.lookup k = some pane' from
      hpane'] at hlook
    by_cases hk : k = paneId
    · subst hk
      rw [if_pos rfl] at hlook
      obtain ⟨pane, _, hret⟩ := Option.map_eq_some_iff.mp hlook.symm
      refine ⟨lg₀.append [.batch t.data], ?_, ?_⟩
      · simp [ScreenState.record, hlg₀, only, inPlace]
      · intro _
        rw [ScreenLog.current_append, ← hret]
        show t.screen.takePendingReplies.2 = _
        rw [hscreen]
        rfl
    · rw [if_neg hk] at hlook
      obtain ⟨lg, hlg, hreal⟩ := h.real k pane' hlook.symm
      refine ⟨lg, ?_, ?_⟩
      · simp only [ScreenState.record, hlg, only, if_neg hk, append_nil, ite_self,
          Option.map_some]
      · intro hin
        simp only [ScreenState.record, inPlace, HashMap.lookup_erase_eq, if_neg hk] at hin
        exact hreal hin
  · exact logsGrow_record
      ({ s with
        workspace := (s.workspace.returnOutput paneId t.screen proc).2
        out := s.out.erase paneId } : ScreenState P G) _

/-- A reader finds the screens it looks at in place. -/
theorem Inv.read {s : ScreenState P G} {reader : ScreenRead}
    (h : s.Inv)
    (hok : s.readsInPlace (.read reader) = true) :
    (({ s with
        workspace := (s.workspace.readScreens reader).2
        observations := s.observations ++
          [⟨reader, s.workspace, (s.workspace.readScreens reader).1⟩] } :
      ScreenState P G).record (s.workspace.readEvents reader)).Inv := by
  refine h.record ?_ ?_
  · intro k pane' hpane'
    obtain ⟨pane, hpane, hscreen⟩ := Workspace.readScreens_screen hpane'
    exact ⟨pane, hpane, fun _ => hscreen⟩
  · intro o ho
    rcases List.mem_append.mp ho with hold | hnew
    · exact h.seen o hold
    · rw [List.mem_singleton] at hnew
      subst hnew
      refine ⟨rfl, ?_⟩
      intro k pane hlooks hpane
      obtain ⟨lg, hlg, hreal⟩ := h.real k pane hpane
      have hplace : s.inPlace k = true := by
        have hkey : k ∈ s.workspace.panes.keys := by
          have hmem : k ∈ s.workspace.panes := AList.lookup_isSome.mp (by rw [hpane]; rfl)
          exact AList.mem_keys.mp hmem
        have hall := List.all_eq_true.mp hok k hkey
        rw [show s.workspace.looksAt reader k = true from hlooks] at hall
        simpa using hall
      exact ⟨lg, hlg, hreal hplace ▸ ScreenLog.passed_current lg⟩

/-- **Step lemma.** -/
theorem Inv.next {s s' : ScreenState P G} {a : ScreenStep P G}
    (h : s.Inv)
    (hok : s.readsInPlace a = true)
    (hnext : s.next a = some s') :
    s'.Inv := by
  cases a with
  | takeScreen paneId raw =>
      simp only [ScreenState.next] at hnext
      split at hnext
      · rename_i t w hplace htake
        rw [← Option.some.inj hnext]
        exact h.takeScreen hplace htake
      · cases hnext
  | parse paneId =>
      simp only [ScreenState.next] at hnext
      split at hnext
      · rename_i t hout
        rw [← Option.some.inj hnext]
        exact h.parse hout
      · cases hnext
  | returnScreen paneId proc =>
      simp only [ScreenState.next] at hnext
      split at hnext
      · rename_i t hout
        rw [← Option.some.inj hnext]
        exact h.returnScreen hout proc
      · cases hnext
  | exitCleanup paneId =>
      simp only [ScreenState.next] at hnext
      split at hnext
      · rename_i pane hplace hpane
        rw [← Option.some.inj hnext]
        refine h.recordOnly ?_ ?_
        · intro k hk
          exact AList.lookup_insert_ne hk
        · intro pane' hpane'
          rw [AList.lookup_insert, Option.some.injEq] at hpane'
          exact ⟨pane, hpane, by rw [← hpane']; rfl⟩
      · cases hnext
  | exitRelease paneId status =>
      simp only [ScreenState.next] at hnext
      split at hnext
      · rw [← Option.some.inj hnext]
        refine h.recordOnly ?_ ?_
        · intro k hk
          rw [HashMap.lookup_modify_ne _ _ hk]
          exact (Workspace.lookup_updatePane _ _ _ _ _).trans (if_neg hk)
        · intro pane' hpane'
          rw [HashMap.lookup_modify_self] at hpane'
          obtain ⟨pane₁, hpane₁, rfl⟩ := Option.map_eq_some_iff.mp hpane'
          obtain ⟨pane, hpane, hscreen⟩ := screen_updatePane hpane₁ (fun _ => rfl)
          exact ⟨pane, hpane, by rw [← hscreen]; rfl⟩
      · cases hnext
  | resizePane paneId cols rows =>
      rw [← Option.some.inj hnext]
      refine h.record ?_ h.seen
      intro k pane' hpane'
      have hlook := Workspace.lookup_updatePane s.workspace paneId k _ _ ▸ hpane'
      by_cases hk : k = paneId
      · rw [if_pos hk] at hlook
        obtain ⟨pane, hpane, rfl⟩ := Option.map_eq_some_iff.mp hlook
        refine ⟨pane, hk ▸ hpane, fun _ => ?_⟩
        have hpane' : s.workspace.panes.lookup k = some pane := hk ▸ hpane
        simp only [resizeEvents, hpane', only, if_pos hk]
        split <;> rfl
      · rw [if_neg hk] at hlook
        refine ⟨pane', hlook, fun _ => ?_⟩
        simp only [resizeEvents, hlook, only, if_neg hk]
        rfl
  | addPane pane =>
      simp only [ScreenState.next] at hnext
      split at hnext
      · cases hnext
      · rename_i hfresh
        rw [← Option.some.inj hnext]
        exact h.insertNew (by simpa using hfresh) (Workspace.addPane_panes _ _)
  | splitPane target pane axis ratio =>
      simp only [ScreenState.next] at hnext
      split at hnext
      · cases hnext
      · rename_i hfresh
        rcases Workspace.splitPane_cases s.workspace target pane axis ratio
          with hres | ⟨_, _, _, hsome, hres⟩
        · rw [hres] at hnext
          rw [← Option.some.inj hnext]
          exact h
        · split at hnext
          · rename_i hnone
            simp [hnone] at hsome
          · rename_i rev w hsplit
            rw [hsplit] at hres
            rw [← Option.some.inj hnext]
            exact h.insertNew (by simpa using hfresh) (by rw [show w = _ from hres]; rfl)
  | other op =>
      simp only [ScreenState.next, Option.ite_none_right_eq_some, Option.some.injEq] at hnext
      obtain ⟨hkeeps, rfl⟩ := hnext
      exact h.of_screens (fun k pane' hpane' => apply_keepsScreens hkeeps hpane')
  | read reader =>
      rw [← Option.some.inj hnext]
      exact h.read hok

theorem IsStart.inv {s : ScreenState P G} (h : s.IsStart) : s.Inv := by
  obtain ⟨hout, hobs, hlogs⟩ := h
  refine ⟨?_, ?_, ?_⟩
  · intro k o ho
    rw [hout] at ho
    simp at ho
  · intro k pane hpane
    exact ⟨⟨pane.screen, []⟩, by rw [hlogs, hpane, Option.map_some], fun _ => rfl⟩
  · intro o ho
    rw [hobs] at ho
    cases ho

/-- **The placeholder is not seen by readers that find the screens in place.**
In runs in which nobody looks at the screen of a pane while it is out, every
reader computes its result from real screens, each after a prefix of what
happened to it. -/
theorem reads_real_screens {s : ScreenState P G}
    (h : (system P G).ReachableUnder (fun s a => s.readsInPlace a = true) s) :
    ∀ o ∈ s.observations, SeesReal s.logs o :=
  (h.invariant (fun _ hinit => IsStart.inv hinit)
    (fun _ _ _ hinv hok hnext => Inv.next hinv hok hnext)).seen

end StepLemmas

section Runs

/-- A process table in which the shell of every pane is in the foreground. -/
def idleProc : ProcFs :=
  ⟨fun _ => none, fun _ => some true⟩

/-- A pane whose last program left bracketed paste and focus reporting on. -/
def armedPane : Pane SampleParser SampleGrid :=
  { ((Pane.new 1 8 2).feedOutput (bytesOf "\x1b[?2004h\x1b[?1004h")).2 with childPid := some 5 }

/-- A workspace with that pane, its screen in place, and a writer. -/
def armedStart : ScreenState SampleParser SampleGrid :=
  let w := ((Workspace.new 7 "work" 0).addPane armedPane).insertClient 9 .writer
  ⟨w, ∅, fun k => (w.panes.lookup k).map (fun pane => ⟨pane.screen, []⟩), []⟩

theorem armedStart_isStart : armedStart.IsStart :=
  ⟨rfl, rfl, fun _ => rfl⟩

def allReaders : List (ScreenStep SampleParser SampleGrid) :=
  [.read (.terminalInput 9 1 (some (.paste (bytesOf "ls")))), .read (.save false idleProc),
    .read (.resync 9 idleProc), .read (.attach 8 .readOnly 3 idleProc)]

/-- The readers come before and after a batch. -/
def readsBetween : List (ScreenStep SampleParser SampleGrid) :=
  allReaders ++ [.takeScreen 1 (bytesOf "a"), .parse 1, .returnScreen 1 idleProc] ++ allReaders

/-- The theorem at the end of that run; the paste was wrapped. -/
theorem reads_real_screens_readsBetween :
    ∃ s : ScreenState SampleParser SampleGrid,
      (s.observations.head?.map ScreenObservation.result =
        some (.input (some (bytesOf "\x1b[200~ls\x1b[201~")))) ∧
        ∀ o ∈ s.observations, SeesReal s.logs o := by
  obtain ⟨s, hreach, hwrapped⟩ := System.exists_reachableUnder
    (S := system SampleParser SampleGrid) readsInPlace readsBetween
    (p := fun s => s.observations.head?.map ScreenObservation.result =
      some (.input (some (bytesOf "\x1b[200~ls\x1b[201~")))) armedStart_isStart (by decide +kernel)
  exact ⟨s, hwrapped, reads_real_screens hreach⟩

/-- The readers come while the batch is parsed. -/
def readsDuringParse : List (ScreenStep SampleParser SampleGrid) :=
  [.takeScreen 1 (bytesOf "a")] ++ allReaders ++ [.parse 1, .returnScreen 1 idleProc]

theorem readsDuringParse_runs :
    ((system SampleParser SampleGrid).exec armedStart readsDuringParse).isSome = true := by
  decide

def readsDuringParseEnd : ScreenState SampleParser SampleGrid :=
  ((system SampleParser SampleGrid).exec armedStart readsDuringParse).get readsDuringParse_runs

/-- Whether the reader found the real screen of the pane after some prefix of
its log, if it looked at the pane at all. -/
def sawPrefix (s : ScreenState SampleParser SampleGrid) (paneId : Uuid)
    (o : ScreenObservation SampleParser SampleGrid) : Bool :=
  !o.workspace.looksAt o.reader paneId ||
    ((o.workspace.panes.lookup paneId).all fun pane =>
      (s.logs paneId).any fun lg =>
        lg.events.inits.any (fun events => pane.screen = lg.origin.replay events))

theorem SeesReal.sawPrefix {s : ScreenState SampleParser SampleGrid}
    {o : ScreenObservation SampleParser SampleGrid}
    (h : SeesReal s.logs o)
    (paneId : Uuid) :
    s.sawPrefix paneId o = true := by
  cases hlooks : o.workspace.looksAt o.reader paneId with
  | false => simp [ScreenState.sawPrefix, hlooks]
  | true =>
      cases hpane : o.workspace.panes.lookup paneId with
      | none => simp [ScreenState.sawPrefix, hpane]
      | some pane =>
          obtain ⟨lg, hlg, events, hprefix, hscreen⟩ := h.screens paneId pane hlooks hpane
          have hany : lg.events.inits.any
              (fun events => decide (pane.screen = lg.origin.replay events)) = true :=
            List.any_eq_true.mpr
              ⟨events, (List.mem_inits _ _).mpr hprefix, by simp [hscreen]⟩
          simp [ScreenState.sawPrefix, hpane, hlg, hany]

/-- **The placeholder is seen** by each of the four readers that come while a
batch is parsed: the paste is not wrapped although bracketed paste is on before
and after, and no screen they look at is a real one. -/
theorem placeholder_seen_by_readers :
    (system SampleParser SampleGrid).Reachable readsDuringParseEnd ∧
      readsDuringParseEnd.observations.length = 4 ∧
      (readsDuringParseEnd.observations.head?.map ScreenObservation.result =
        some (.input (some (bytesOf "ls")))) ∧
      ∀ o ∈ readsDuringParseEnd.observations, ¬ SeesReal readsDuringParseEnd.logs o := by
  refine ⟨System.reachable_get armedStart_isStart readsDuringParse_runs, by decide,
    by decide, ?_⟩
  intro o ho hsees
  have hnone : readsDuringParseEnd.observations.all
      (fun o => !readsDuringParseEnd.sawPrefix 1 o) = true := by
    decide
  have hthis := List.all_eq_true.mp hnone o ho
  rw [hsees.sawPrefix 1] at hthis
  cases hthis

end Runs

end ScreenState

end Server
end Rttx
