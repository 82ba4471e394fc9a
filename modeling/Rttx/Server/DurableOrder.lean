import Rttx.Kernel.OrderedWrites
import Rttx.Server.SampleTerminal
import Rttx.Server.StoreProvenance

/-!
# Whether durable state goes back

A tick of the serialization loop that has collected its files may still be writing
when the shutdown path collects and writes its own.  Both write without locks, so the
order of their writes is open.  What the shutdown path has collected later may be on
disk before the tick writes what it collected earlier.

**Results.**
* `durable_never_goes_back`: in runs in which no task overtakes an older write that
  the other one holds, neither revisions, nor snapshots, nor logs go back.
* `durable_goes_back`: a shutdown after which all three have gone back.
-/

namespace Rttx
namespace Server

open Kernel

universe u v w

section Order

/-- A log goes on where it was. -/
def LogChunk.Precedes (c c' : LogChunk) : Prop :=
  c.key = c'.key → c.start + c.data.length ≤ c'.start

/-- The revision of a workspace file does not decrease. -/
def WorkspaceFileV2.Precedes (f f' : WorkspaceFileV2) : Prop :=
  f.spec.id = f'.spec.id → f.instanceData.revision ≤ f'.instanceData.revision

/-- A snapshot is not replaced by one that was taken earlier. -/
def ScreenSave.Precedes (x x' : ScreenSave) : Prop :=
  x.key = x'.key → x.taken ≤ x'.taken

instance (c c' : LogChunk) : Decidable (c.Precedes c') :=
  inferInstanceAs (Decidable (c.key = c'.key → _))

instance (f f' : WorkspaceFileV2) : Decidable (f.Precedes f') :=
  inferInstanceAs (Decidable (f.spec.id = f'.spec.id → _))

instance (x x' : ScreenSave) : Decidable (x.Precedes x') :=
  inferInstanceAs (Decidable (x.key = x'.key → _))

/-- Each write of the first may precede each of the second. -/
def Writes.mayPrecede (w w' : Writes) : Bool :=
  w.logs.all (fun c => w'.logs.all (fun c' => c.Precedes c')) &&
    w.files.all (fun f => w'.files.all (fun f' => f.Precedes f')) &&
    w.screens.all (fun x => w'.screens.all (fun x' => x.Precedes x'))

end Order

namespace StoreState

section Guard

variable {P : Type u} {G : Type v}

/-- The condition on a step: a write that reaches the disk does not overtake an older
write to the same file that the other task still holds. -/
def overtakesNone (s : StoreState P G) : StoreStep P G → Bool
  | .store t (.write fails) => fails || (s.held t).next.mayPrecede (s.held t.other)
  | _ => true

/-- The writes to each kind of file are in order, and so is what the tasks hold. -/
structure InOrder (s : StoreState P G) : Prop where
  logs : Ordered LogChunk.Precedes s.written.logs (fun t => (s.held t).logs)
  files : Ordered WorkspaceFileV2.Precedes s.written.files (fun t => (s.held t).files)
  screens : Ordered ScreenSave.Precedes s.written.screens (fun t => (s.held t).screens)

/-- What is on disk or held is not ahead of its source. -/
structure Behind (s : StoreState P G) : Prop where
  revisions : ∀ id w, s.workspaces.lookup id = some w → w.revision ≤ u64Max
  files : ∀ f, (f ∈ s.written.files ∨ ∃ t, f ∈ (s.held t).files) →
    ∀ w, s.workspaces.lookup f.spec.id = some w → f.instanceData.revision ≤ w.revision
  screens : ∀ x, (x ∈ s.written.screens ∨ ∃ t, x ∈ (s.held t).screens) → x.taken < s.clock

end Guard

section New

variable {P : Type u} {G : Type v}
variable [Vt100Parser G]

theorem mem_newWrites_files {s : StoreState P G} {a : StoreStep P G} {t : StoringTask}
    {f : WorkspaceFileV2}
    (hkeyed : s.Keyed)
    (h : f ∈ (s.newWrites a t).files) :
    ∃ w, s.workspaces.lookup f.spec.id = some w ∧ f.instanceData.revision = w.revision := by
  rcases s.newWrites_cases a t with hnone | ⟨id, w, _, _, _, hnew⟩ |
    ⟨id, w, due, proc, now, _, _, hw, hnew⟩
  · rw [hnone] at h
    cases h
  · rw [hnew] at h
    cases h
  · rw [hnew, Workspace.collectWrites] at h
    split at h
    · obtain rfl := List.mem_singleton.mp h
      have hid : w.id = id := hkeyed.workspaces id w hw
      exact ⟨w, by rw [Workspace.toWorkspaceFile, hid]; exact hw, rfl⟩
    · cases h

theorem newWrites_files_length (s : StoreState P G) (a : StoreStep P G) (t : StoringTask) :
    (s.newWrites a t).files.length ≤ 1 := by
  rcases s.newWrites_cases a t with hnone | ⟨id, w, _, _, _, hnew⟩ |
    ⟨id, w, due, proc, now, _, _, _, hnew⟩
  · rw [hnone]
    exact Nat.zero_le _
  · rw [hnew]
    exact Nat.zero_le _
  · rw [hnew, Workspace.collectWrites]
    split
    · exact Nat.le_refl _
    · exact Nat.zero_le _

theorem mem_newWrites_screens {s : StoreState P G} {a : StoreStep P G} {t : StoringTask}
    {x : ScreenSave}
    (h : x ∈ (s.newWrites a t).screens) :
    x.taken = s.clock ∧ ∃ due proc now, a = .store t (.collect due proc now) := by
  rcases s.newWrites_cases a t with hnone | ⟨id, w, _, _, _, hnew⟩ |
    ⟨id, w, due, proc, now, rfl, _, _, hnew⟩
  · rw [hnone] at h
    cases h
  · rw [hnew] at h
    cases h
  · refine ⟨?_, due, proc, now, rfl⟩
    rw [hnew, Workspace.collectWrites] at h
    simp only at h
    split at h
    · obtain ⟨p, _, rfl⟩ := List.mem_map.mp h
      rfl
    · cases h

/-- The chunks of one drain are for different panes. -/
theorem newWrites_logs_pairwise {s : StoreState P G}
    (hkeyed : s.Keyed)
    (a : StoreStep P G)
    (t : StoringTask) :
    (s.newWrites a t).logs.Pairwise LogChunk.Precedes := by
  rcases s.newWrites_cases a t with hnone | ⟨id, w, _, _, hw, hnew⟩ |
    ⟨id, w, due, proc, now, _, _, _, hnew⟩
  · rw [hnone]
    exact List.Pairwise.nil
  · have hids : w.panes.values.Pairwise (fun p q => p.id ≠ q.id) := by
      refine HashMap.values_pairwise ?_
      intro j k p q hp hq hne
      have hpid : p.id = j := hkeyed.panes (id, j) p ((paneAt_eq hw).trans hp)
      have hqid : q.id = k := hkeyed.panes (id, k) q ((paneAt_eq hw).trans hq)
      rw [hpid, hqid]
      exact hne
    rw [hnew]
    simp only [chunks, Workspace.drainPanes, List.pairwise_map]
    refine List.Pairwise.filterMap _ ?_ hids
    intro p q hne job hjob job' hjob' heq
    obtain ⟨_, _, rfl⟩ := Option.map_eq_some_iff.mp hjob
    obtain ⟨_, _, rfl⟩ := Option.map_eq_some_iff.mp hjob'
    exact absurd (congrArg Prod.snd heq) hne
  · rw [hnew]
    exact List.Pairwise.nil

end New

section Steps

variable {P : Type u} {G : Type v}
variable [VteParser P] [Vt100Parser G]

/-- A step keeps the order of one kind of writes. -/
theorem next_ordered {α : Type w} {s s' : StoreState P G} {a : StoreStep P G}
    {R : α → α → Prop}
    (kind : Writes → List α)
    (hkind : ∀ w more, kind (w.append more) = kind w ++ kind more)
    (hnext : s.next a = some s')
    (h : Ordered R (kind s.written) (fun t => kind (s.held t)))
    (hguard : ∀ t, a = .store t (.write false) →
      ∀ x ∈ kind (s.held t).next, ∀ y ∈ kind (s.held t.other), R x y)
    (hold : ∀ t x, (x ∈ kind s.written ∨ x ∈ kind (s.held t)) →
      ∀ y ∈ kind (s.newWrites a t), R x y)
    (hnew : ∀ t, (kind (s.newWrites a t)).Pairwise R) :
    Ordered R (kind s'.written) (fun t => kind (s'.held t)) := by
  rcases next_writes hnext with ⟨t, fails, rfl, hheld, hothers, hwritten⟩ | ⟨hwritten, hheld⟩
  · have hqueue : kind (s.held t) = kind (s.held t).next ++ kind (s'.held t) := by
      rw [hheld, ← hkind, Writes.next_append_rest]
    have hsame : ∀ u, u ≠ t → kind (s'.held u) = kind (s.held u) := by
      intro u hu
      rw [hothers u hu]
    cases fails with
    | true =>
        rw [hwritten]
        exact h.lose hqueue hsame
    | false =>
        rw [hwritten]
        simp only [Bool.false_eq_true, if_false, hkind]
        refine h.carry hqueue hsame ?_
        intro u hu x hx y hy
        have hother : u = t.other := by
          cases t <;> cases u <;> first | rfl | exact absurd rfl hu
        exact hguard t rfl x hx y (hother ▸ hy)
  · have hpush := h.push (fun t => kind (s.newWrites a t))
      (fun t x hx => hold t x (Or.inl hx)) (fun t x hx => hold t x (Or.inr hx)) hnew
    have hqueues : (fun t => kind (s'.held t)) =
        fun t => kind (s.held t) ++ kind (s.newWrites a t) := by
      funext t
      rw [hheld, hkind]
    rw [hwritten, hqueues]
    exact hpush

theorem Behind.next {s s' : StoreState P G} {a : StoreStep P G}
    (h : s.Behind)
    (hkeyed : s.Keyed)
    (hnext : s.next a = some s') :
    s'.Behind := by
  refine ⟨?_, ?_, ?_⟩
  · intro id w' hw'
    obtain ⟨w, hw, hevolves⟩ := next_workspace hnext hw'
    exact hevolves.max (h.revisions id w hw)
  · intro f hf w' hw'
    obtain ⟨w, hw, hevolves⟩ := next_workspace hnext hw'
    have hgrow := hevolves.le (h.revisions _ w hw)
    rcases next_any Writes.files (fun _ _ => rfl) hnext hf with hold | ⟨t, hnew⟩
    · have hbehind := h.files f hold w hw
      omega
    · obtain ⟨u, hu, hrevision⟩ := mem_newWrites_files hkeyed hnew
      rw [hw, Option.some.injEq] at hu
      subst hu
      omega
  · intro x hx
    obtain ⟨hle, hcollect⟩ := next_clock hnext
    rcases next_any Writes.screens (fun _ _ => rfl) hnext hx with hold | ⟨t, hnew⟩
    · have hbefore := h.screens x hold
      omega
    · obtain ⟨hnow, due, proc, now, ha⟩ := mem_newWrites_screens hnew
      have hlater := hcollect t due proc now ha
      omega

theorem InOrder.next {s s' : StoreState P G} {a : StoreStep P G}
    (h : s.InOrder)
    (hbehind : s.Behind)
    (hprov : s.Provenance)
    (hok : s.overtakesNone a = true)
    (hnext : s.next a = some s') :
    s'.InOrder := by
  have hguard : ∀ t, a = .store t (.write false) →
      (s.held t).next.mayPrecede (s.held t.other) = true := by
    rintro t rfl
    simpa [overtakesNone] using hok
  refine ⟨?_, ?_, ?_⟩
  · refine next_ordered Writes.logs (fun _ _ => rfl) hnext h.logs ?_ ?_
      (newWrites_logs_pairwise hprov.keyed a)
    · intro t ha c hc c' hc'
      have hall := hguard t ha
      simp only [Writes.mayPrecede, Bool.and_eq_true, List.all_eq_true, decide_eq_true_eq] at hall
      exact hall.1.1 c hc c' hc'
    · intro t c hc c' hc' hkey
      obtain ⟨_, p, hp, _, _, _, hstart⟩ := mem_newWrites_logs hprov.keyed hc'
      have hdrained := hprov.chunks c (hc.imp_right (fun hheld => ⟨t, hheld⟩))
      have hpast := hdrained.past p (hkey ▸ hp)
      rw [hkey] at hpast
      omega
  · refine next_ordered Writes.files (fun _ _ => rfl) hnext h.files ?_ ?_ ?_
    · intro t ha f hf f' hf'
      have hall := hguard t ha
      simp only [Writes.mayPrecede, Bool.and_eq_true, List.all_eq_true, decide_eq_true_eq] at hall
      exact hall.1.2 f hf f' hf'
    · intro t f hf f' hf' hid
      obtain ⟨w, hw, hrevision⟩ := mem_newWrites_files hprov.keyed hf'
      rw [hrevision]
      exact hbehind.files f (hf.imp_right (fun hheld => ⟨t, hheld⟩)) w (hid ▸ hw)
    · intro t
      have hlen := s.newWrites_files_length a t
      match hfiles : (s.newWrites a t).files with
      | [] => exact List.Pairwise.nil
      | [f] => exact List.pairwise_singleton _ f
      | _ :: _ :: _ => simp [hfiles] at hlen
  · refine next_ordered Writes.screens (fun _ _ => rfl) hnext h.screens ?_ ?_ ?_
    · intro t ha x hx x' hx'
      have hall := hguard t ha
      simp only [Writes.mayPrecede, Bool.and_eq_true, List.all_eq_true, decide_eq_true_eq] at hall
      exact hall.2 x hx x' hx'
    · intro t x hx x' hx' _
      have hbefore := hbehind.screens x (hx.imp_right (fun hheld => ⟨t, hheld⟩))
      have hnow := (mem_newWrites_screens hx').1
      omega
    · intro t
      refine List.pairwise_of_forall_mem_list ?_
      intro x hx x' hx' _
      rw [(mem_newWrites_screens hx).1, (mem_newWrites_screens hx').1]

omit [VteParser P] [Vt100Parser G] in
/-- Nothing is written or held at the start. -/
theorem IsStart.inOrder {s : StoreState P G}
    (h : s.IsStart) :
    s.Behind ∧ s.InOrder := by
  obtain ⟨hworkspaces, _, _, _, hphase, hwritten, _⟩ := h
  have hheld : ∀ t, s.held t = Writes.none := by
    intro t
    rw [held, hphase]
    rfl
  refine ⟨⟨fun id w hw => (hworkspaces id w hw).2, ?_, ?_⟩, ⟨?_, ?_, ?_⟩⟩
  · rintro f (hf | ⟨t, hf⟩)
    · rw [hwritten] at hf
      cases hf
    · rw [hheld] at hf
      cases hf
  · rintro x (hx | ⟨t, hx⟩)
    · rw [hwritten] at hx
      cases hx
    · rw [hheld] at hx
      cases hx
  · simp only [hwritten, hheld]
    exact Ordered.nil _
  · simp only [hwritten, hheld]
    exact Ordered.nil _
  · simp only [hwritten, hheld]
    exact Ordered.nil _

end Steps

section Runs

variable {P : Type u} {G : Type v}
variable [VteParser P] [Vt100Parser G]

/-- The order holds throughout the runs without overtaking. -/
theorem ReachableUnder.inOrder {s : StoreState P G}
    (h : (system P G).ReachableUnder (fun s a => s.overtakesNone a = true) s) :
    s.InOrder := by
  have hall : s.Provenance ∧ s.Behind ∧ s.InOrder := by
    refine h.invariant (I := fun s => s.Provenance ∧ s.Behind ∧ s.InOrder) ?_ ?_
    · intro s hstart
      exact ⟨Reachable.provenance (System.Reachable.of_init hstart), hstart.inOrder⟩
    · rintro s a s' ⟨hprov, hbehind, horder⟩ hok hnext
      exact ⟨hprov.next hnext, hbehind.next hprov.keyed hnext,
        horder.next hbehind hprov hok hnext⟩
  exact hall.2.2

/-- **Durable state does not go back without overtaking.**  The revisions written to
each workspace file do not decrease, each snapshot was taken no earlier than the one it
replaces, and the chunks appended to each log are consecutive pieces of what the pane
accepted, in that order. -/
theorem durable_never_goes_back {s : StoreState P G}
    (h : (system P G).ReachableUnder (fun s a => s.overtakesNone a = true) s) :
    s.written.files.Pairwise
        (fun f f' => f.spec.id = f'.spec.id →
          f.instanceData.revision ≤ f'.instanceData.revision) ∧
      s.written.screens.Pairwise (fun x x' => x.key = x'.key → x.taken ≤ x'.taken) ∧
      s.written.logs.Pairwise
        (fun c c' => c.key = c'.key → c.start + c.data.length ≤ c'.start) ∧
      ∀ c ∈ s.written.logs,
        (((s.accepted c.key).map Prod.fst).drop c.start).take c.data.length = c.data := by
  have horder := ReachableUnder.inOrder h
  have hprov := Reachable.provenance h.reachable
  exact ⟨horder.files.done, horder.screens.done, horder.logs.done,
    fun c hc => (hprov.chunks c (Or.inl hc)).content⟩

/-- A tick drains and collects a workspace; then more output arrives, a client renames
the workspace, and the shutdown path drains and collects it as well. -/
def bothCollect : List (StoreStep SampleParser SampleGrid) :=
  [.take (7, 1) (bytesOf "a"), .giveBack (7, 1) ⟨fun _ => none, fun _ => none⟩] ++
    ((StoringStep.pass 0 0).take 5).map (.store .tick) ++
    [.take (7, 1) (bytesOf "b"), .giveBack (7, 1) ⟨fun _ => none, fun _ => none⟩,
      .mutate 7 (.rename "deploy")] ++
    ((StoringStep.pass 0 0).take 5).map (.store .shutdown)

/-- The shutdown path writes after the tick. -/
def inTurn : List (StoreStep SampleParser SampleGrid) :=
  bothCollect ++ List.replicate 3 (.store .tick (.write false)) ++
    List.replicate 3 (.store .shutdown (.write false))

/-- The shutdown path writes before the tick. -/
def outOfTurn : List (StoreStep SampleParser SampleGrid) :=
  bothCollect ++ List.replicate 3 (.store .shutdown (.write false)) ++
    List.replicate 3 (.store .tick (.write false))

theorem inTurn_runs :
    ((system SampleParser SampleGrid).execUnder (fun s a => s.overtakesNone a)
      (singlePane SampleParser SampleGrid) inTurn).isSome = true := by
  decide +kernel

def inTurnEnd : StoreState SampleParser SampleGrid :=
  ((system SampleParser SampleGrid).execUnder (fun s a => s.overtakesNone a)
    (singlePane SampleParser SampleGrid) inTurn).get inTurn_runs

/-- Two revisions, two snapshots and two chunks in order. -/
theorem durable_never_goes_back_inTurn :
    inTurnEnd.written.files.map (fun f => f.instanceData.revision) = [2, 3] ∧
      inTurnEnd.written.logs.map LogChunk.data = [bytesOf "a", bytesOf "b"] ∧
      inTurnEnd.written.files.Pairwise
        (fun f f' => f.spec.id = f'.spec.id →
          f.instanceData.revision ≤ f'.instanceData.revision) :=
  ⟨by decide +kernel, by decide +kernel, (durable_never_goes_back
    (System.reachableUnder_get (singlePane_isStart _ _) inTurn_runs)).1⟩

theorem outOfTurn_runs :
    ((system SampleParser SampleGrid).exec (singlePane SampleParser SampleGrid)
      outOfTurn).isSome = true := by
  decide +kernel

def outOfTurnEnd : StoreState SampleParser SampleGrid :=
  ((system SampleParser SampleGrid).exec (singlePane SampleParser SampleGrid)
    outOfTurn).get outOfTurn_runs

/-- **Durable state may go back at shutdown.**  A tick that had collected its writes
carries them out after the shutdown path: the revision decreases, the snapshot is
replaced by an older one, and the log has its bytes in another order. -/
theorem durable_goes_back :
    ∃ s : StoreState SampleParser SampleGrid,
      (system SampleParser SampleGrid).Reachable s ∧
      ¬ s.written.files.Pairwise
        (fun f f' => f.spec.id = f'.spec.id →
          f.instanceData.revision ≤ f'.instanceData.revision) ∧
      ¬ s.written.screens.Pairwise (fun x x' => x.key = x'.key → x.taken ≤ x'.taken) ∧
      s.written.logs.map (fun c => (c.key, c.data)) =
        [((7, 1), bytesOf "b"), ((7, 1), bytesOf "a")] ∧
      (s.accepted (7, 1)).map Prod.fst = bytesOf "ab" := by
  refine ⟨outOfTurnEnd, System.reachable_get (singlePane_isStart _ _) outOfTurn_runs, ?_⟩
  decide +kernel

end Runs

end StoreState

end Server
end Rttx
