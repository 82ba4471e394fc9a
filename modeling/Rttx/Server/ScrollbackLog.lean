import Rttx.Server.SampleTerminal
import Rttx.Server.StoreProvenance

/-!
# The scrollback log of a pane

A byte that a pane accepts waits until a tick of the serialization loop drains it,
and is then on its way to the log.  When the process exits, its last bytes and the
bytes that reset its modes are accepted as well, and a little later what is still
pending is dropped together with the scrollback in memory.

**Results.**
* `log_is_complete`: in runs in which nothing is pending when the scrollback is
  released, the log is what the pane accepted.
* `log_is_incomplete`: a run in which the last bytes never reach the log.
-/

namespace Rttx
namespace Server

open Kernel

universe u v

section Bytes

/-- The bytes that a list of chunks adds to the log of a pane. -/
def logBytes (k : PaneKey) (chunks : List LogChunk) : Bytes :=
  chunks.flatMap (fun c => if c.key = k then c.data else [])

@[simp] theorem logBytes_nil (k : PaneKey) : logBytes k [] = [] :=
  rfl

@[simp] theorem logBytes_append (k : PaneKey) (chunks more : List LogChunk) :
    logBytes k (chunks ++ more) = logBytes k chunks ++ logBytes k more :=
  List.flatMap_append

theorem logBytes_eq_nil {k : PaneKey} {chunks : List LogChunk}
    (h : ∀ c ∈ chunks, c.key ≠ k) :
    logBytes k chunks = [] := by
  rw [logBytes, List.flatMap_eq_nil_iff]
  intro c hc
  exact if_neg (h c hc)

end Bytes

namespace StoreState

section Drains

variable {P : Type u} {G : Type v}

/-- What a drained workspace adds to the log of a pane: what is pending there. -/
theorem logBytes_chunks {s : StoreState P G} {id : Uuid} {w : Workspace P G} {k : PaneKey}
    {p : Pane P G}
    (hkeyed : s.Keyed)
    (hw : s.workspaces.lookup id = some w)
    (hk : k.1 = id)
    (hp : s.paneAt k = some p) :
    logBytes k (s.chunks id w.drainPanes.1) = p.drainFlush.1.getD [] := by
  have hlist : ∀ panes : List (Pane P G),
      logBytes k (s.chunks id
        (panes.filterMap (fun p => p.drainFlush.1.map (fun data => (p.id, data))))) =
      panes.flatMap (fun p => if (id, p.id) = k then p.drainFlush.1.getD [] else []) := by
    intro panes
    induction panes with
    | nil => rfl
    | cons p rest ih =>
        rw [List.flatMap_cons, ← ih]
        cases hdrain : p.drainFlush.1 with
        | none => simp [hdrain]
        | some data => simp [hdrain, chunks, logBytes]
  have hlook : w.panes.lookup k.2 = some p := by
    rw [← paneAt_eq (hk ▸ hw), hp]
  have hown : (id, p.id) = k := Prod.ext hk.symm (hkeyed.panes k p hp)
  refine (hlist w.panes.values).trans ((HashMap.flatMap_values hlook ?_).trans (if_pos hown))
  intro j q hq hne
  refine if_neg ?_
  have hid : q.id = j := hkeyed.panes (id, j) q ((paneAt_eq hw).trans hq)
  rintro rfl
  exact hne hid.symm

end Drains

section Account

variable {P : Type u} {G : Type v}
variable [VteParser P] [Vt100Parser G]

/-- The runs of a pane that is to be persisted: ticks without failing writes, no
more pending bytes than the limit, and no shutdown. -/
def ordinary (k : PaneKey) (s : StoreState P G) : StoreStep P G → Bool
  | .take k' raw =>
      k' ≠ k || (s.paneAt k).all fun p =>
        (p.pendingFlush ++
          stripClientQueries (Workspace.takePaneOutput p raw).1.data).length ≤
            defaultMaxScrollback
  | .setNoPersist k' _ => k' ≠ k
  | .store .tick (.write fails) => !fails
  | .store .shutdown _ => false
  | _ => true

/-- The condition on a step: nothing is pending when the scrollback is released. -/
def releasesDrained (k : PaneKey) (s : StoreState P G) : StoreStep P G → Bool
  | .release k' _ => k' ≠ k || (s.paneAt k).all (fun p => p.pendingFlush = [])
  | _ => true

omit [VteParser P] [Vt100Parser G] in
/-- Every accepted byte is in the log, held for it, or pending. -/
structure Accounted (k : PaneKey) (s : StoreState P G) : Prop where
  quiet : s.phase .shutdown = .idle
  account : ∀ p, s.paneAt k = some p → p.noPersist = false →
    logBytes k s.written.logs ++ logBytes k (s.held .tick).logs ++ p.pendingFlush =
      (s.accepted k).map Prod.fst
  released : s.exit k = .released → ∀ p, s.paneAt k = some p → p.pendingFlush = []

/-- What an ordinary step does to the bytes on their way to the log. -/
theorem logBytes_next {s s' : StoreState P G} {a : StoreStep P G} {k : PaneKey}
    (hok : s.ordinary k a = true)
    (hnext : s.next a = some s') :
    logBytes k s'.written.logs ++ logBytes k (s'.held .tick).logs =
      logBytes k s.written.logs ++ logBytes k (s.held .tick).logs ++
        logBytes k (s.newWrites a .tick).logs := by
  rcases next_writes hnext with ⟨t, fails, rfl, hheld, _, hwritten⟩ | ⟨hwritten, hheld⟩
  · cases t with
    | shutdown => cases hok
    | tick =>
        have hfails : fails = false := by simpa [ordinary] using hok
        subst hfails
        have hlogs : (s.held .tick).logs =
            (s.held .tick).next.logs ++ (s'.held .tick).logs := by
          rw [hheld]
          exact (congrArg Writes.logs (s.held .tick).next_append_rest).symm
        have hdisk : s'.written.logs = s.written.logs ++ (s.held .tick).next.logs :=
          congrArg Writes.logs hwritten
        have hnone : (s.newWrites (.store .tick (.write false)) .tick).logs = [] := rfl
        rw [hdisk, hnone, hlogs]
        simp
  · have hlogs : (s'.held .tick).logs = (s.held .tick).logs ++ (s.newWrites a .tick).logs :=
      congrArg Writes.logs (hheld .tick)
    rw [hlogs, hwritten]
    simp

/-- A step that does not drain the pane adds nothing to its log. -/
theorem logBytes_newWrites_of_ne {s : StoreState P G} {a : StoreStep P G} {k : PaneKey}
    {t : StoringTask}
    (hkeyed : s.Keyed)
    (heffect : s.effectOn a k ≠ .empties) :
    logBytes k (s.newWrites a t).logs = [] := by
  refine logBytes_eq_nil ?_
  rintro c hc rfl
  exact heffect (mem_newWrites_logs hkeyed hc).1

omit [VteParser P] in
/-- Draining a pane moves what is pending there. -/
theorem logBytes_newWrites_drain {s : StoreState P G} {k : PaneKey} {t : StoringTask}
    {p : Pane P G}
    (hkeyed : s.Keyed)
    (hid : s.drainsNext t = some k.1)
    (hp : s.paneAt k = some p)
    (hpersist : p.noPersist = false) :
    logBytes k (s.newWrites (.store t .drain) t).logs = p.pendingFlush := by
  have hsame : p.drainFlush.1.getD [] = p.pendingFlush := by
    rcases p.drainFlush_cases with ⟨hflag, _⟩ | ⟨_, hnil, hres⟩ | ⟨_, _, hres⟩
    · rw [hpersist] at hflag
      cases hflag
    · rw [hres, hnil]
      rfl
    · rw [hres]
      rfl
  obtain ⟨w, hw, _⟩ := Option.bind_eq_some_iff.mp hp
  have hnew : (s.newWrites (.store t .drain) t).logs = s.chunks k.1 w.drainPanes.1 := by
    simp only [drainsNext] at hid
    split at hid
    · next hphase =>
        rw [Option.some.injEq] at hid
        simp only [newWrites, hphase, hid, hw, if_true, Option.map_some, Option.getD_some]
    · cases hid
  rw [hnew, logBytes_chunks hkeyed hw rfl hp, hsame]

/-- The account after a step, from the effect of the step on the pane. -/
theorem Accounted.account_next {s s' : StoreState P G} {a : StoreStep P G} {k : PaneKey}
    {p' : Pane P G}
    (h : s.Accounted k)
    (hkeyed : s.Keyed)
    (hok : s.ordinary k a = true)
    (hrelease : s.releasesDrained k a = true)
    (hnext : s.next a = some s')
    (hp' : s'.paneAt k = some p')
    (hpersist' : p'.noPersist = false) :
    logBytes k (s.written.logs ++ (s.held .tick).logs ++ (s.newWrites a .tick).logs) ++
        p'.pendingFlush =
      (s.accepted k).map Prod.fst ++ (s.effectOn a k).data := by
  obtain ⟨p, hp, _, hbuffer⟩ := next_pane hnext hp'
  have hstays : ∀ {e : BufferEffect}, s.effectOn a k = e → e ≠ .empties →
      (e.apply p.buffer).2 = p.noPersist →
      (e.apply p.buffer).1 = p.pendingFlush ++ e.data →
      logBytes k (s.written.logs ++ (s.held .tick).logs ++ (s.newWrites a .tick).logs) ++
          p'.pendingFlush =
        (s.accepted k).map Prod.fst ++ (s.effectOn a k).data := by
    intro e heffect hne hflag hpending
    rw [heffect] at hbuffer
    have hpersist : p.noPersist = false := by
      rw [← hflag, ← hbuffer]
      exact hpersist'
    have hpend : p'.pendingFlush = p.pendingFlush ++ e.data := by
      rw [← hpending, ← hbuffer]
      rfl
    rw [logBytes_append, logBytes_newWrites_of_ne hkeyed (heffect ▸ hne), heffect, hpend,
      ← h.account p hp hpersist]
    simp
  have hempties : s.effectOn a k = .empties → p.noPersist = false ∧ p'.pendingFlush = [] := by
    intro heffect
    rw [heffect] at hbuffer
    exact ⟨(congrArg Prod.snd hbuffer).symm.trans hpersist', congrArg Prod.fst hbuffer⟩
  rcases s.effectOn_cases a k with heffect | ⟨raw, q, rfl, hq, heffect⟩ |
    ⟨q, rfl, hq, heffect⟩ | ⟨status, rfl, heffect⟩ | ⟨flag, rfl, _⟩ |
    ⟨t, rfl, hid, heffect⟩
  · exact hstays heffect (by simp) rfl
      (by simp [BufferEffect.apply, BufferEffect.data, Pane.buffer])
  · rw [hp, Option.some.injEq] at hq
    subst hq
    have hcap : (p.pendingFlush ++
        stripClientQueries (Workspace.takePaneOutput p raw).1.data).length ≤
          defaultMaxScrollback := by
      simpa [ordinary, hp] using hok
    refine hstays heffect (by simp) rfl ?_
    simp only [BufferEffect.apply, BufferEffect.data, Pane.buffer, Nat.sub_eq_zero_of_le hcap,
      List.drop_zero]
  · exact hstays heffect (by simp) rfl rfl
  · have hnil : p.pendingFlush = [] := by simpa [releasesDrained, hp] using hrelease
    obtain ⟨hpersist, hpend⟩ := hempties heffect
    have haccount := h.account p hp hpersist
    have hnone : (s.newWrites (.release k status) .tick).logs = [] := rfl
    rw [hnone, hpend, heffect, ← haccount, hnil]
    simp [BufferEffect.data]
  · simp [ordinary] at hok
  · cases t with
    | shutdown => cases hok
    | tick =>
        obtain ⟨hpersist, hpend⟩ := hempties heffect
        have haccount := h.account p hp hpersist
        rw [logBytes_append, logBytes_newWrites_drain hkeyed hid hp hpersist, hpend, heffect,
          ← haccount]
        simp [BufferEffect.data]

/-- **Step lemma.** -/
theorem Accounted.next {s s' : StoreState P G} {a : StoreStep P G} {k : PaneKey}
    (h : s.Accounted k)
    (hkeyed : s.Keyed)
    (hok : s.ordinary k a = true)
    (hrelease : s.releasesDrained k a = true)
    (hnext : s.next a = some s') :
    s'.Accounted k := by
  refine ⟨?_, ?_, ?_⟩
  · rw [next_phase hnext (by rintro b rfl; cases hok)]
    exact h.quiet
  · intro p' hp' hpersist'
    have hmap : (s.effectOn a k).data.map (Prod.fst ∘ fun b => (b, s.confidential k)) =
        (s.effectOn a k).data := by
      simp [Function.comp_def]
    rw [logBytes_next hok hnext, next_accepted hnext k, List.map_append, List.map_map, hmap,
      ← h.account_next hkeyed hok hrelease hnext hp' hpersist']
    simp
  · intro hexit p' hp'
    obtain ⟨p, hp, _, hbuffer⟩ := next_pane hnext hp'
    have hpending : p'.pendingFlush = ((s.effectOn a k).apply p.buffer).1 := by
      rw [← hbuffer]
      rfl
    have hpast : s.exit k = .released ∨ ∃ status, a = .release k status := by
      rcases next_exit (k := k) hnext with hsame | ⟨_, hcleaned⟩ | ⟨status, rfl, _⟩
      · exact Or.inl (hsame ▸ hexit)
      · rw [hexit] at hcleaned
        cases hcleaned
      · exact Or.inr ⟨status, rfl⟩
    rcases hpast with hreleased | ⟨status, rfl⟩
    · have hdata := effectOn_data_of_exited (k := k) hnext (by rw [hreleased]; nofun)
      have hsuffix := (s.effectOn a k).apply_suffix p.buffer
      have hnil : p.buffer.1 = [] := h.released hreleased p hp
      rw [hdata, hnil] at hsuffix
      rw [hpending]
      exact List.suffix_nil.mp hsuffix
    · rw [hpending, effectOn, if_pos rfl]
      rfl

omit [VteParser P] [Vt100Parser G] in
/-- The account holds at the start. -/
theorem IsStart.accounted {s : StoreState P G}
    (h : s.IsStart)
    (k : PaneKey) :
    s.Accounted k := by
  obtain ⟨_, hpanes, _, hexit, hphase, hwritten, haccepted⟩ := h
  refine ⟨by rw [hphase], ?_, ?_⟩
  · intro p hp _
    rw [hwritten, held, hphase, haccepted, (hpanes k p hp).2]
    rfl
  · intro hreleased
    rw [hexit] at hreleased
    cases hreleased

end Account

section Runs

variable {P : Type u} {G : Type v}
variable [VteParser P] [Vt100Parser G]

/-- The account holds throughout the runs that release no pending byte. -/
theorem ReachableUnder.accounted {s : StoreState P G} {k : PaneKey}
    (h : (system P G).ReachableUnder
      (fun s a => (s.ordinary k a && s.releasesDrained k a) = true) s) :
    s.Accounted k := by
  have hboth : s.Provenance ∧ s.Accounted k := by
    refine h.invariant (I := fun s => s.Provenance ∧ s.Accounted k) ?_ ?_
    · intro s hstart
      exact ⟨Reachable.provenance (System.Reachable.of_init hstart), hstart.accounted k⟩
    · intro s a s' hI hok hnext
      obtain ⟨hordinary, hrelease⟩ := Bool.and_eq_true_iff.mp hok
      exact ⟨hI.1.next hnext, hI.2.next hI.1.keyed hordinary hrelease hnext⟩
  exact hboth.2

/-- **The log is complete when nothing is pending at the release.**  After the exit
of a pane that is to be persisted, the ticks finished, its log is what it accepted,
the bytes of the exit included. -/
theorem log_is_complete {s : StoreState P G} {k : PaneKey} {p : Pane P G}
    (h : (system P G).ReachableUnder
      (fun s a => (s.ordinary k a && s.releasesDrained k a) = true) s)
    (hpane : s.paneAt k = some p)
    (hpersist : p.noPersist = false)
    (hexit : s.exit k = .released)
    (hidle : s.phase .tick = .idle) :
    logBytes k s.written.logs = (s.accepted k).map Prod.fst := by
  have haccounted := ReachableUnder.accounted h
  have haccount := haccounted.account p hpane hpersist
  rw [haccounted.released hexit p hpane, held, hidle] at haccount
  simpa [StoringPhase.held, Writes.none] using haccount

/-- The pane prints, the process exits, and a tick runs between the two sections of
the exit path. -/
def patientExit : List (StoreStep SampleParser SampleGrid) :=
  [.take (7, 1) (bytesOf "hi"), .giveBack (7, 1) ⟨fun _ => none, fun _ => none⟩,
    .cleanup (7, 1)] ++ (StoringStep.pass 3 1).map (.store .tick) ++ [.release (7, 1) 0]

theorem patientExit_runs :
    ((system SampleParser SampleGrid).execUnder
      (fun s a => s.ordinary (7, 1) a && s.releasesDrained (7, 1) a)
      (singlePane SampleParser SampleGrid) patientExit).isSome = true := by
  decide +kernel

def patientEnd : StoreState SampleParser SampleGrid :=
  ((system SampleParser SampleGrid).execUnder
    (fun s a => s.ordinary (7, 1) a && s.releasesDrained (7, 1) a)
    (singlePane SampleParser SampleGrid) patientExit).get patientExit_runs

theorem patientEnd_pane : (patientEnd.paneAt (7, 1)).isSome = true := by
  decide +kernel

/-- The log of a pane whose cleanup bytes a tick drained. -/
theorem log_is_complete_patientExit :
    logBytes (7, 1) patientEnd.written.logs = (patientEnd.accepted (7, 1)).map Prod.fst ∧
      logBytes (7, 1) patientEnd.written.logs = bytesOf "hi" ++ terminalCleanupBytes := by
  refine ⟨?_, by decide +kernel⟩
  exact log_is_complete (System.reachableUnder_get (singlePane_isStart _ _) patientExit_runs)
    (Option.some_get patientEnd_pane).symm (by decide +kernel) (by decide +kernel)
    (by decide +kernel)

/-- The scrollback is released right after the cleanup. -/
def hastyExit : List (StoreStep SampleParser SampleGrid) :=
  [.take (7, 1) (bytesOf "hi"), .giveBack (7, 1) ⟨fun _ => none, fun _ => none⟩,
    .cleanup (7, 1), .release (7, 1) 0] ++ (StoringStep.pass 2 1).map (.store .tick)

theorem hastyExit_runs :
    ((system SampleParser SampleGrid).execUnder (fun s a => s.ordinary (7, 1) a)
      (singlePane SampleParser SampleGrid) hastyExit).isSome = true := by
  decide +kernel

def hastyEnd : StoreState SampleParser SampleGrid :=
  ((system SampleParser SampleGrid).execUnder (fun s a => s.ordinary (7, 1) a)
    (singlePane SampleParser SampleGrid) hastyExit).get hastyExit_runs

/-- **The last bytes of a pane may never reach its log.**  What no tick drains between
the last batch and the release is lost, the cleanup bytes among it. -/
theorem log_is_incomplete :
    ∃ s : StoreState SampleParser SampleGrid,
      (system SampleParser SampleGrid).ReachableUnder
        (fun s a => s.ordinary (7, 1) a = true) s ∧
      ((s.paneAt (7, 1)).any (fun p => !p.noPersist)) = true ∧
      s.exit (7, 1) = .released ∧ s.phase .tick = .idle ∧
      logBytes (7, 1) s.written.logs = [] ∧
      (s.accepted (7, 1)).map Prod.fst = bytesOf "hi" ++ terminalCleanupBytes := by
  refine ⟨hastyEnd, System.reachableUnder_get (singlePane_isStart _ _) hastyExit_runs, ?_⟩
  decide +kernel

end Runs

end StoreState

end Server
end Rttx
