import Rttx.Server.StateStore

/-!
# Where stored bytes come from

What each step of the state store does to a pane's pending bytes and its flag, to
the stream that the pane accepted, to the revision of a workspace, and to the writes
that the storing tasks hold.  The proofs about what reaches the disk go by these.

**Results.**
* `next_pane`, `next_accepted`, `next_workspace`: what a step does to a pane, to its
  stream and to a workspace.
* `next_writes`: what a step does to the writes.
* `Reachable.provenance`: pending bytes and log chunks are the bytes that were
  accepted at their positions.
-/

namespace Rttx
namespace Server

open Kernel

universe u v w

section Panes

variable {P : Type u} {G : Type v}

/-- What a step does to the pending bytes of a pane and to its flag. -/
inductive BufferEffect
  | keeps
  | accepts (data : Bytes)
  | appends (data : Bytes)
  | empties
  | sets (noPersist : Bool)

namespace BufferEffect

def apply : BufferEffect → Bytes × Bool → Bytes × Bool
  | keeps, buffer => buffer
  | accepts data, (pending, flag) =>
      ((pending ++ data).drop ((pending ++ data).length - defaultMaxScrollback), flag)
  | appends data, (pending, flag) => (pending ++ data, flag)
  | empties, (_, flag) => ([], flag)
  | sets noPersist, (pending, _) => (pending, noPersist)

/-- What the pane's stream goes on with. -/
def data : BufferEffect → Bytes
  | accepts data => data
  | appends data => data
  | _ => []

/-- What is pending afterwards ends what was pending and what was added. -/
theorem apply_suffix (e : BufferEffect) (buffer : Bytes × Bool) :
    (e.apply buffer).1 <:+ buffer.1 ++ e.data := by
  cases e with
  | keeps => simp [apply, data]
  | accepts more =>
      simp only [apply, data]
      exact List.drop_suffix _ _
  | appends more => exact List.suffix_rfl
  | empties => exact List.nil_suffix
  | sets noPersist => simp [apply, data]

end BufferEffect

/-- The pending bytes and the flag of a pane. -/
def Pane.buffer (p : Pane P G) : Bytes × Bool :=
  (p.pendingFlush, p.noPersist)

/-- The pane when it must not be persisted, has nothing pending, or is drained. -/
theorem Pane.drainFlush_cases (p : Pane P G) :
    (p.noPersist = true ∧ p.drainFlush = (none, { p with pendingFlush := [] })) ∨
      (p.noPersist = false ∧ p.pendingFlush = [] ∧ p.drainFlush = (none, p)) ∨
      (p.noPersist = false ∧ p.pendingFlush ≠ [] ∧
        p.drainFlush = (some p.pendingFlush, { p with pendingFlush := [] })) := by
  cases hflag : p.noPersist with
  | true => exact Or.inl ⟨rfl, by simp [Pane.drainFlush, hflag]⟩
  | false =>
      by_cases hnil : p.pendingFlush = []
      · exact Or.inr (Or.inl ⟨rfl, hnil, by simp [Pane.drainFlush, hflag, hnil]⟩)
      · exact Or.inr (Or.inr ⟨rfl, hnil, by simp [Pane.drainFlush, hflag, hnil]⟩)

/-- Draining keeps the id and leaves nothing pending. -/
theorem Pane.drainFlush_snd (p : Pane P G) :
    p.drainFlush.2.id = p.id ∧ p.drainFlush.2.buffer = ([], p.noPersist) := by
  rcases p.drainFlush_cases with ⟨_, hres⟩ | ⟨_, hnil, hres⟩ | ⟨_, _, hres⟩
  · rw [hres]
    exact ⟨rfl, rfl⟩
  · rw [hres]
    exact ⟨rfl, Prod.ext hnil rfl⟩
  · rw [hres]
    exact ⟨rfl, rfl⟩

namespace Workspace

/-- Taking a batch stores it without what only a terminal answers. -/
theorem takePaneOutput_buffer [VteParser P] [Vt100Parser G] (p : Pane P G) (raw : Bytes) :
    (takePaneOutput p raw).2.id = p.id ∧
      (takePaneOutput p raw).2.buffer =
        (BufferEffect.accepts (stripClientQueries (takePaneOutput p raw).1.data)).apply
          p.buffer := by
  simp only [takePaneOutput, Pane.filterClipboardWrites, Pane.acceptOutput, Pane.takeScreen,
    Pane.buffer, BufferEffect.apply, and_self]

theorem lookup_drainPanes (w : Workspace P G) (k : Uuid) :
    w.drainPanes.2.panes.lookup k = (w.panes.lookup k).map (fun p => p.drainFlush.2) :=
  HashMap.lookup_mapValues _ _ _

theorem lookup_releasePane [VteParser P] [Vt100Parser G] (w : Workspace P G)
    (paneId k : Uuid) (status : Int) :
    (w.releasePane paneId status).panes.lookup k =
      if k = paneId then
        (w.panes.lookup paneId).map
          (fun p => ({ p with exitStatus := some status } : Pane P G).releaseScrollback)
      else
        w.panes.lookup k := by
  have hstatus := lookup_updatePane w paneId k (fun p => p.exitStatus ≠ some status)
    (fun p => { p with exitStatus := some status })
  refine (HashMap.lookup_modify _ _ _ _).trans ?_
  by_cases hk : k = paneId
  · subst hk
    rw [if_pos rfl] at hstatus
    rw [if_pos rfl, if_pos rfl]
    exact (congrArg (Option.map Pane.releaseScrollback) hstatus).trans (Option.map_map _ _ _)
  · rw [if_neg hk] at hstatus
    rw [if_neg hk, if_neg hk]
    exact hstatus

theorem lookup_feedPaneCleanup [VteParser P] [Vt100Parser G] (w : Workspace P G)
    (paneId k : Uuid) :
    (w.feedPaneCleanup paneId).2.panes.lookup k =
      if k = paneId then (w.panes.lookup paneId).map (fun p => p.feedCleanup.2)
      else w.panes.lookup k := by
  cases hpane : w.panes.lookup paneId with
  | none =>
      simp only [feedPaneCleanup, hpane, Option.map_none]
      by_cases hk : k = paneId
      · rw [if_pos hk, hk, hpane]
      · rw [if_neg hk]
  | some pane =>
      simp only [feedPaneCleanup, hpane, Option.map_some]
      exact HashMap.lookup_insert_eq _ _ _ _

/-- Collecting renders the screens at most. -/
theorem lookup_afterCollect [VteParser P] [Vt100Parser G] {w : Workspace P G} {task : StoringTask}
    {due : Bool} {proc : ProcFs} {k : Uuid} {p' : Pane P G}
    (h : (w.afterCollect task due proc).panes.lookup k = some p') :
    ∃ p screen, w.panes.lookup k = some p ∧ p' = { p with screen := screen } := by
  have hpanes : (w.afterCollect task due proc).panes =
      (w.collectScreens (due || task = .shutdown) proc).2.panes := by
    simp only [afterCollect]
    split <;> rfl
  rw [hpanes, collectScreens] at h
  split at h
  · simp only [HashMap.lookup_mapValues, Option.map_eq_some_iff] at h
    obtain ⟨p, hp, rfl⟩ := h
    exact ⟨p, _, hp, rfl⟩
  · exact ⟨p', p'.screen, h, rfl⟩

/-- The operations that keep the buffers do. -/
theorem keepsBuffers_buffer [VteParser P] [Vt100Parser G] {w : Workspace P G}
    {op : WorkspaceOp P G} {k : Uuid} {p' : Pane P G}
    (hop : keepsBuffers op = true)
    (h : (w.apply op).panes.lookup k = some p') :
    ∃ p, w.panes.lookup k = some p ∧ p'.id = p.id ∧ p'.buffer = p.buffer := by
  have hin : inPlace op = true := by
    cases op with
    | addPane _ => cases hop
    | splitPane _ _ _ _ => cases hop
    | takeOutput _ _ => cases hop
    | returnOutput _ _ _ => cases hop
    | _ => rfl
  obtain ⟨p, hp, rfl⟩ := lookup_apply hin h
  refine ⟨p, hp, ?_⟩
  cases op with
  | setPaneNoPersist _ _ => cases hop
  | resizePane _ _ _ =>
      simp only [onPane]
      split <;> exact ⟨rfl, rfl⟩
  | setPaneTitle _ _ =>
      simp only [onPane]
      split <;> exact ⟨rfl, rfl⟩
  | setPaneExitStatus _ _ =>
      simp only [onPane]
      split <;> exact ⟨rfl, rfl⟩
  | _ => exact ⟨rfl, rfl⟩

end Workspace

namespace StoreState

/-- The workspace that a task drains next. -/
def drainsNext (s : StoreState P G) (t : StoringTask) : Option Uuid :=
  match s.phase t with
  | .draining _ (id :: _) _ => some id
  | _ => none

theorem paneAt_putWorkspace (s : StoreState P G) (id : Uuid) (w : Workspace P G)
    (k : PaneKey) :
    (s.putWorkspace id w).paneAt k = if k.1 = id then w.panes.lookup k.2 else s.paneAt k := by
  simp only [paneAt, putWorkspace, HashMap.lookup_insert_eq]
  split
  · rfl
  · rfl

theorem paneAt_eq {s : StoreState P G} {k : PaneKey} {w : Workspace P G}
    (hw : s.workspaces.lookup k.1 = some w) :
    s.paneAt k = w.panes.lookup k.2 := by
  simp [paneAt, hw]

/-- A change of one workspace, seen from a pane. -/
theorem paneAt_put_cases {s : StoreState P G} {id : Uuid} {w w' : Workspace P G}
    {k : PaneKey} {p' : Pane P G} {Q : Pane P G → Prop}
    (hw : s.workspaces.lookup id = some w)
    (h : (s.putWorkspace id w').paneAt k = some p')
    (hin : k.1 = id → w'.panes.lookup k.2 = some p' → ∃ p, w.panes.lookup k.2 = some p ∧ Q p)
    (hout : k.1 ≠ id → Q p') :
    ∃ p, s.paneAt k = some p ∧ Q p := by
  rw [paneAt_putWorkspace] at h
  by_cases hk : k.1 = id
  · rw [if_pos hk] at h
    obtain ⟨p, hp, hq⟩ := hin hk h
    exact ⟨p, by rw [paneAt_eq (hk ▸ hw), hp], hq⟩
  · rw [if_neg hk] at h
    exact ⟨p', h, hout hk⟩

/-- A change of one pane, seen from every pane. -/
theorem paneAt_put_key {s : StoreState P G} {w w' : Workspace P G} {k k' : PaneKey}
    {p' : Pane P G} {f : Pane P G → Pane P G}
    (hw : s.workspaces.lookup k'.1 = some w)
    (hlook : ∀ j, w'.panes.lookup j =
      if j = k'.2 then (w.panes.lookup k'.2).map f else w.panes.lookup j)
    (h : (s.putWorkspace k'.1 w').paneAt k = some p') :
    ∃ p, s.paneAt k = some p ∧ p' = if k = k' then f p else p := by
  refine paneAt_put_cases hw h ?_ ?_
  · intro hk hin
    rw [hlook] at hin
    by_cases hid : k.2 = k'.2
    · rw [if_pos hid] at hin
      obtain ⟨p, hp, rfl⟩ := Option.map_eq_some_iff.mp hin
      exact ⟨p, hid ▸ hp, by rw [if_pos (Prod.ext hk hid)]⟩
    · rw [if_neg hid] at hin
      exact ⟨p', hin, by rw [if_neg (fun heq => hid (congrArg Prod.snd heq))]⟩
  · intro hk
    rw [if_neg (fun heq => hk (congrArg Prod.fst heq))]

variable [VteParser P] [Vt100Parser G]

/-- What a step does to the buffer of a pane. -/
def effectOn (s : StoreState P G) (a : StoreStep P G) (k : PaneKey) : BufferEffect :=
  match a with
  | .take k' raw =>
      if k = k' then
        match s.paneAt k with
        | none => .keeps
        | some p => .accepts (stripClientQueries (Workspace.takePaneOutput p raw).1.data)
      else
        .keeps
  | .cleanup k' =>
      if k = k' then
        match s.paneAt k with
        | none => .keeps
        | some p => .appends p.feedCleanup.1
      else
        .keeps
  | .release k' _ => if k = k' then .empties else .keeps
  | .setNoPersist k' noPersist => if k = k' then .sets noPersist else .keeps
  | .store t .drain => if s.drainsNext t = some k.1 then .empties else .keeps
  | _ => .keeps

/-- The steps that have an effect on a pane. -/
theorem effectOn_cases (s : StoreState P G) (a : StoreStep P G) (k : PaneKey) :
    s.effectOn a k = .keeps ∨
      (∃ raw p, a = .take k raw ∧ s.paneAt k = some p ∧ s.effectOn a k =
        .accepts (stripClientQueries (Workspace.takePaneOutput p raw).1.data)) ∨
      (∃ p, a = .cleanup k ∧ s.paneAt k = some p ∧
        s.effectOn a k = .appends p.feedCleanup.1) ∨
      (∃ status, a = .release k status ∧ s.effectOn a k = .empties) ∨
      (∃ noPersist, a = .setNoPersist k noPersist ∧ s.effectOn a k = .sets noPersist) ∨
      ∃ t, a = .store t .drain ∧ s.drainsNext t = some k.1 ∧ s.effectOn a k = .empties := by
  match a with
  | .take k' raw =>
      by_cases hk : k = k'
      · subst hk
        cases hp : s.paneAt k with
        | none => exact Or.inl (by simp only [effectOn, if_true, hp])
        | some p =>
            exact Or.inr (Or.inl ⟨raw, p, rfl, rfl, by simp only [effectOn, if_true, hp]⟩)
      · exact Or.inl (by rw [effectOn, if_neg hk])
  | .cleanup k' =>
      by_cases hk : k = k'
      · subst hk
        cases hp : s.paneAt k with
        | none => exact Or.inl (by simp only [effectOn, if_true, hp])
        | some p =>
            exact Or.inr (Or.inr (Or.inl ⟨p, rfl, rfl, by simp only [effectOn, if_true, hp]⟩))
      · exact Or.inl (by rw [effectOn, if_neg hk])
  | .release k' status =>
      by_cases hk : k = k'
      · subst hk
        exact Or.inr (Or.inr (Or.inr (Or.inl ⟨status, rfl, by rw [effectOn, if_pos rfl]⟩)))
      · exact Or.inl (by rw [effectOn, if_neg hk])
  | .setNoPersist k' noPersist =>
      by_cases hk : k = k'
      · subst hk
        exact Or.inr (Or.inr (Or.inr (Or.inr (Or.inl
          ⟨noPersist, rfl, by rw [effectOn, if_pos rfl]⟩))))
      · exact Or.inl (by rw [effectOn, if_neg hk])
  | .store t .drain =>
      by_cases hid : s.drainsNext t = some k.1
      · exact Or.inr (Or.inr (Or.inr (Or.inr (Or.inr
          ⟨t, rfl, hid, by rw [effectOn, if_pos hid]⟩))))
      · exact Or.inl (by rw [effectOn, if_neg hid])
  | .store _ .begin => exact Or.inl rfl
  | .store _ .drained => exact Or.inl rfl
  | .store _ (.collect _ _ _) => exact Or.inl rfl
  | .store _ .collected => exact Or.inl rfl
  | .store _ (.write _) => exact Or.inl rfl
  | .store _ .mark => exact Or.inl rfl
  | .store _ .finish => exact Or.inl rfl
  | .giveBack _ _ => exact Or.inl rfl
  | .mutate _ _ => exact Or.inl rfl

/-- Only a client changes the flag. -/
theorem flag_next {s : StoreState P G} {a : StoreStep P G} {k : PaneKey} {p p' : Pane P G}
    (hbuffer : p'.buffer = (s.effectOn a k).apply p.buffer)
    (hne : p'.noPersist ≠ p.noPersist) :
    a = .setNoPersist k p'.noPersist ∧ s.effectOn a k = .sets p'.noPersist := by
  have hflag : p'.noPersist = ((s.effectOn a k).apply p.buffer).2 := congrArg Prod.snd hbuffer
  rcases s.effectOn_cases a k with heffect | ⟨_, _, _, _, heffect⟩ | ⟨_, _, _, heffect⟩ |
    ⟨_, _, heffect⟩ | ⟨noPersist, rfl, heffect⟩ | ⟨_, _, _, heffect⟩
  · rw [heffect] at hflag
    exact absurd hflag hne
  · rw [heffect] at hflag
    exact absurd hflag hne
  · rw [heffect] at hflag
    exact absurd hflag hne
  · rw [heffect] at hflag
    exact absurd hflag hne
  · rw [heffect] at hflag
    have hset : p'.noPersist = noPersist := hflag
    rw [hset, heffect]
    exact ⟨rfl, rfl⟩
  · rw [heffect] at hflag
    exact absurd hflag hne

/-- A storing task empties the panes that it drains, and keeps the other buffers. -/
theorem stored_pane {s s' : StoreState P G} {t : StoringTask} {a : StoringStep}
    {k : PaneKey} {p' : Pane P G}
    (h : s.Stored t a s')
    (hp : s'.paneAt k = some p') :
    ∃ p, s.paneAt k = some p ∧ p'.id = p.id ∧
      p'.buffer = (s.effectOn (.store t a) k).apply p.buffer := by
  cases h with
  | begin hphase => exact ⟨p', hp, rfl, rfl⟩
  | drained hphase => exact ⟨p', hp, rfl, rfl⟩
  | collected hphase => exact ⟨p', hp, rfl, rfl⟩
  | write hphase => exact ⟨p', hp, rfl, rfl⟩
  | finish hphase hnone => exact ⟨p', hp, rfl, rfl⟩
  | @drain entries todo id held w hphase hw =>
      have hnext : s.drainsNext t = some id := by rw [drainsNext, hphase]
      refine paneAt_put_cases hw hp ?_ ?_
      · intro hk hlook
        rw [Workspace.lookup_drainPanes] at hlook
        obtain ⟨p, hpane, rfl⟩ := Option.map_eq_some_iff.mp hlook
        refine ⟨p, hpane, p.drainFlush_snd.1, ?_⟩
        rw [effectOn, hnext, if_pos (congrArg some hk.symm)]
        exact p.drainFlush_snd.2
      · intro hk
        refine ⟨rfl, ?_⟩
        rw [effectOn, hnext, if_neg (fun heq => hk (Option.some.inj heq).symm)]
        rfl
  | collect hphase hw =>
      refine paneAt_put_cases hw hp ?_ (fun _ => ⟨rfl, rfl⟩)
      intro _ hlook
      obtain ⟨p, screen, hpane, rfl⟩ := Workspace.lookup_afterCollect hlook
      exact ⟨p, hpane, rfl, rfl⟩
  | @mark id toMark hphase =>
      rw [paneAt, HashMap.lookup_modify, Option.bind_eq_some_iff] at hp
      obtain ⟨w', hw', hlook⟩ := hp
      split at hw'
      · obtain ⟨w, hw, rfl⟩ := Option.map_eq_some_iff.mp hw'
        exact ⟨p', (paneAt_eq hw).trans hlook, rfl, rfl⟩
      · exact ⟨p', (paneAt_eq hw').trans hlook, rfl, rfl⟩

/-- **What a step does to a pane's buffer.** -/
theorem next_pane {s s' : StoreState P G} {a : StoreStep P G} {k : PaneKey} {p' : Pane P G}
    (h : s.next a = some s')
    (hp : s'.paneAt k = some p') :
    ∃ p, s.paneAt k = some p ∧ p'.id = p.id ∧ p'.buffer = (s.effectOn a k).apply p.buffer := by
  cases a with
  | take k' raw =>
      simp only [next] at h
      split at h
      · obtain ⟨w, hw, hmap⟩ := Option.bind_eq_some_iff.mp h
        obtain ⟨taken, htaken, rfl⟩ := Option.map_eq_some_iff.mp hmap
        obtain ⟨p, hpane, rfl⟩ := paneAt_put_key hw (Workspace.lookup_takeOutput w k'.2 raw) hp
        refine ⟨p, hpane, ?_⟩
        by_cases hk : k = k'
        · have heffect : s.effectOn (.take k' raw) k =
              .accepts (stripClientQueries (Workspace.takePaneOutput p raw).1.data) := by
            simp only [effectOn, if_pos hk, hpane]
          rw [heffect, if_pos hk]
          exact Workspace.takePaneOutput_buffer p raw
        · have heffect : s.effectOn (.take k' raw) k = .keeps := by rw [effectOn, if_neg hk]
          rw [heffect, if_neg hk]
          exact ⟨rfl, rfl⟩
      · cases h
  | giveBack k' proc =>
      obtain ⟨taken, htaken, hmap⟩ := Option.bind_eq_some_iff.mp h
      obtain ⟨w, hw, rfl⟩ := Option.map_eq_some_iff.mp hmap
      obtain ⟨p, hpane, rfl⟩ := paneAt_put_key hw (Workspace.lookup_returnOutput w k'.2 _ proc) hp
      refine ⟨p, hpane, ?_⟩
      split <;> exact ⟨rfl, rfl⟩
  | cleanup k' =>
      simp only [next] at h
      split at h
      · obtain ⟨w, hw, rfl⟩ := Option.map_eq_some_iff.mp h
        obtain ⟨p, hpane, rfl⟩ := paneAt_put_key hw (Workspace.lookup_feedPaneCleanup w k'.2) hp
        refine ⟨p, hpane, ?_⟩
        by_cases hk : k = k'
        · have heffect : s.effectOn (.cleanup k') k = .appends p.feedCleanup.1 := by
            simp only [effectOn, if_pos hk, hpane]
          rw [heffect, if_pos hk]
          exact ⟨rfl, rfl⟩
        · have heffect : s.effectOn (.cleanup k') k = .keeps := by rw [effectOn, if_neg hk]
          rw [heffect, if_neg hk]
          exact ⟨rfl, rfl⟩
      · cases h
  | release k' status =>
      simp only [next] at h
      split at h
      · obtain ⟨w, hw, rfl⟩ := Option.map_eq_some_iff.mp h
        obtain ⟨p, hpane, rfl⟩ :=
          paneAt_put_key hw (fun j => Workspace.lookup_releasePane w k'.2 j status) hp
        refine ⟨p, hpane, ?_⟩
        by_cases hk : k = k'
        · have heffect : s.effectOn (.release k' status) k = .empties := by
            rw [effectOn, if_pos hk]
          rw [heffect, if_pos hk]
          exact ⟨rfl, rfl⟩
        · have heffect : s.effectOn (.release k' status) k = .keeps := by
            rw [effectOn, if_neg hk]
          rw [heffect, if_neg hk]
          exact ⟨rfl, rfl⟩
      · cases h
  | setNoPersist k' noPersist =>
      obtain ⟨w, hw, rfl⟩ := Option.map_eq_some_iff.mp h
      obtain ⟨p, hpane, rfl⟩ :=
        paneAt_put_key hw (fun j => Workspace.lookup_updatePane w k'.2 j _ _) hp
      refine ⟨p, hpane, ?_⟩
      by_cases hk : k = k'
      · have heffect : s.effectOn (.setNoPersist k' noPersist) k = .sets noPersist := by
          rw [effectOn, if_pos hk]
        rw [heffect, if_pos hk]
        exact ⟨rfl, rfl⟩
      · have heffect : s.effectOn (.setNoPersist k' noPersist) k = .keeps := by
          rw [effectOn, if_neg hk]
        rw [heffect, if_neg hk]
        exact ⟨rfl, rfl⟩
  | mutate id op =>
      simp only [next] at h
      split at h
      · next hop =>
          obtain ⟨w, hw, rfl⟩ := Option.map_eq_some_iff.mp h
          refine paneAt_put_cases hw hp ?_ (fun _ => ⟨rfl, rfl⟩)
          intro _ hlook
          exact Workspace.keepsBuffers_buffer hop hlook
      · cases h
  | store t a => exact stored_pane (nextStoring_stored h) hp

omit [VteParser P] [Vt100Parser G] in
theorem accepted_accept (s : StoreState P G) (k k' : PaneKey) (data : Bytes) :
    (s.accept k' data).accepted k =
      s.accepted k ++ (if k = k' then data else []).map (fun b => (b, s.confidential k)) := by
  by_cases hk : k = k'
  · subst hk
    simp [accept]
  · simp [accept, hk]

/-- **What a step does to the accepted streams.** -/
theorem next_accepted {s s' : StoreState P G} {a : StoreStep P G}
    (h : s.next a = some s')
    (k : PaneKey) :
    s'.accepted k =
      s.accepted k ++ (s.effectOn a k).data.map (fun b => (b, s.confidential k)) := by
  cases a with
  | take k' raw =>
      simp only [next] at h
      split at h
      · obtain ⟨w, hw, hmap⟩ := Option.bind_eq_some_iff.mp h
        obtain ⟨taken, htaken, rfl⟩ := Option.map_eq_some_iff.mp hmap
        refine (accepted_accept s k k' _).trans ?_
        by_cases hk : k = k'
        · subst hk
          cases hpane : w.panes.lookup k.2 with
          | none => simp [Workspace.takeOutput, hpane] at htaken
          | some p =>
              simp only [Workspace.takeOutput, hpane, Option.some.injEq] at htaken
              have hat : s.paneAt k = some p := (paneAt_eq hw).trans hpane
              simp only [effectOn, hat, if_true, htaken, BufferEffect.data]
        · simp [effectOn, hk, BufferEffect.data]
      · cases h
  | giveBack k' proc =>
      obtain ⟨taken, htaken, hmap⟩ := Option.bind_eq_some_iff.mp h
      obtain ⟨w, hw, rfl⟩ := Option.map_eq_some_iff.mp hmap
      simp [effectOn, BufferEffect.data, putWorkspace]
  | cleanup k' =>
      simp only [next] at h
      split at h
      · obtain ⟨w, hw, rfl⟩ := Option.map_eq_some_iff.mp h
        refine (accepted_accept s k k' _).trans ?_
        by_cases hk : k = k'
        · subst hk
          have hat : s.paneAt k = w.panes.lookup k.2 := paneAt_eq hw
          cases hpane : w.panes.lookup k.2 with
          | none =>
              simp only [Workspace.feedPaneCleanup, effectOn, hat, hpane, if_true,
                BufferEffect.data]
          | some p =>
              simp only [Workspace.feedPaneCleanup, effectOn, hat, hpane, if_true,
                BufferEffect.data]
        · simp [effectOn, hk, BufferEffect.data]
      · cases h
  | release k' status =>
      simp only [next] at h
      split at h
      · obtain ⟨w, hw, rfl⟩ := Option.map_eq_some_iff.mp h
        by_cases hk : k = k'
        · simp [effectOn, hk, BufferEffect.data, putWorkspace]
        · simp [effectOn, hk, BufferEffect.data, putWorkspace]
      · cases h
  | setNoPersist k' noPersist =>
      obtain ⟨w, hw, rfl⟩ := Option.map_eq_some_iff.mp h
      by_cases hk : k = k'
      · simp [effectOn, hk, BufferEffect.data, putWorkspace]
      · simp [effectOn, hk, BufferEffect.data, putWorkspace]
  | mutate id op =>
      simp only [next] at h
      split at h
      · obtain ⟨w, hw, rfl⟩ := Option.map_eq_some_iff.mp h
        simp [effectOn, BufferEffect.data, putWorkspace]
      · cases h
  | store t a =>
      have hsame : s'.accepted = s.accepted := by
        cases nextStoring_stored h <;> rfl
      have hdata : (s.effectOn (.store t a) k).data = [] := by
        cases a with
        | drain =>
            simp only [effectOn]
            split <;> rfl
        | _ => rfl
      rw [hsame, hdata]
      simp

/-- What a step adds to what a task holds. -/
def newWrites (s : StoreState P G) (a : StoreStep P G) (t : StoringTask) : Writes :=
  match a with
  | .store t' .drain =>
      match s.phase t' with
      | .draining _ (id :: _) _ =>
          if t = t' then
            ((s.workspaces.lookup id).map
              (fun w => (⟨s.chunks id w.drainPanes.1, [], []⟩ : Writes))).getD Writes.none
          else
            Writes.none
      | _ => Writes.none
  | .store t' (.collect due proc now) =>
      match s.phase t' with
      | .collecting (id :: _) _ =>
          if t = t' then
            ((s.workspaces.lookup id).map
              (fun w => w.collectWrites id t due proc now s.clock)).getD Writes.none
          else
            Writes.none
      | _ => Writes.none
  | _ => Writes.none

omit [VteParser P] in
/-- The steps that add to what a task holds. -/
theorem newWrites_cases (s : StoreState P G) (a : StoreStep P G) (t : StoringTask) :
    s.newWrites a t = Writes.none ∨
      (∃ id w, a = .store t .drain ∧ s.drainsNext t = some id ∧
        s.workspaces.lookup id = some w ∧
        s.newWrites a t = ⟨s.chunks id w.drainPanes.1, [], []⟩) ∨
      ∃ id w due proc now, a = .store t (.collect due proc now) ∧
        (∃ todo held, s.phase t = .collecting (id :: todo) held) ∧
        s.workspaces.lookup id = some w ∧
        s.newWrites a t = w.collectWrites id t due proc now s.clock := by
  match a with
  | .store t' .drain =>
      cases hphase : s.phase t' with
      | draining entries todo held =>
          cases todo with
          | nil => exact Or.inl (by simp only [newWrites, hphase])
          | cons id todo =>
              by_cases ht : t = t'
              · subst ht
                cases hw : s.workspaces.lookup id with
                | none => exact Or.inl (by simp [newWrites, hphase, hw])
                | some w =>
                    exact Or.inr (Or.inl ⟨id, w, rfl, by simp only [drainsNext, hphase], hw,
                      by simp [newWrites, hphase, hw]⟩)
              · exact Or.inl (by simp only [newWrites, hphase, if_neg ht])
      | _ => exact Or.inl (by simp only [newWrites, hphase])
  | .store t' (.collect due proc now) =>
      cases hphase : s.phase t' with
      | collecting todo held =>
          cases todo with
          | nil => exact Or.inl (by simp only [newWrites, hphase])
          | cons id todo =>
              by_cases ht : t = t'
              · subst ht
                cases hw : s.workspaces.lookup id with
                | none => exact Or.inl (by simp [newWrites, hphase, hw])
                | some w =>
                    exact Or.inr (Or.inr ⟨id, w, due, proc, now, rfl, ⟨todo, held, hphase⟩, hw,
                      by simp [newWrites, hphase, hw]⟩)
              · exact Or.inl (by simp only [newWrites, hphase, if_neg ht])
      | _ => exact Or.inl (by simp only [newWrites, hphase])
  | .store _ .begin => exact Or.inl rfl
  | .store _ .drained => exact Or.inl rfl
  | .store _ .collected => exact Or.inl rfl
  | .store _ (.write _) => exact Or.inl rfl
  | .store _ .mark => exact Or.inl rfl
  | .store _ .finish => exact Or.inl rfl
  | .take _ _ => exact Or.inl rfl
  | .giveBack _ _ => exact Or.inl rfl
  | .cleanup _ => exact Or.inl rfl
  | .release _ _ => exact Or.inl rfl
  | .setNoPersist _ _ => exact Or.inl rfl
  | .mutate _ _ => exact Or.inl rfl

/-- A step that moves writes from what a task holds to the disk, or loses them. -/
def WritesOut (s s' : StoreState P G) (a : StoreStep P G) : Prop :=
  ∃ t fails, a = .store t (.write fails) ∧ s'.held t = (s.held t).rest ∧
    (∀ u, u ≠ t → s'.held u = s.held u) ∧
    s'.written = if fails then s.written else s.written.append (s.held t).next

omit [VteParser P] [Vt100Parser G] in
theorem held_setPhase (s : StoreState P G) (t u : StoringTask) (phase : StoringPhase) :
    (s.setPhase t phase).held u = if u = t then phase.held else s.held u := by
  by_cases hu : u = t
  · subst hu
    simp [held, setPhase]
  · simp [held, setPhase, hu]

/-- Only the storing tasks write. -/
theorem next_frame {s s' : StoreState P G} {a : StoreStep P G}
    (h : s.next a = some s')
    (hother : ∀ t b, a ≠ .store t b) :
    s'.phase = s.phase ∧ s'.written = s.written ∧ s'.clock = s.clock := by
  cases a with
  | take k raw =>
      simp only [next] at h
      split at h
      · obtain ⟨w, _, hmap⟩ := Option.bind_eq_some_iff.mp h
        obtain ⟨taken, _, rfl⟩ := Option.map_eq_some_iff.mp hmap
        exact ⟨rfl, rfl, rfl⟩
      · cases h
  | giveBack k proc =>
      obtain ⟨taken, _, hmap⟩ := Option.bind_eq_some_iff.mp h
      obtain ⟨w, _, rfl⟩ := Option.map_eq_some_iff.mp hmap
      exact ⟨rfl, rfl, rfl⟩
  | cleanup k =>
      simp only [next] at h
      split at h
      · obtain ⟨w, _, rfl⟩ := Option.map_eq_some_iff.mp h
        exact ⟨rfl, rfl, rfl⟩
      · cases h
  | release k status =>
      simp only [next] at h
      split at h
      · obtain ⟨w, _, rfl⟩ := Option.map_eq_some_iff.mp h
        exact ⟨rfl, rfl, rfl⟩
      · cases h
  | setNoPersist k noPersist =>
      obtain ⟨w, _, rfl⟩ := Option.map_eq_some_iff.mp h
      exact ⟨rfl, rfl, rfl⟩
  | mutate id op =>
      simp only [next] at h
      split at h
      · obtain ⟨w, _, rfl⟩ := Option.map_eq_some_iff.mp h
        exact ⟨rfl, rfl, rfl⟩
      · cases h
  | store t b => exact absurd rfl (hother t b)

/-- **What a step does to the writes.** -/
theorem next_writes {s s' : StoreState P G} {a : StoreStep P G}
    (h : s.next a = some s') :
    s.WritesOut s' a ∨
      (s'.written = s.written ∧ ∀ t, s'.held t = (s.held t).append (s.newWrites a t)) := by
  have hquiet : (∀ t b, a ≠ .store t b) → (∀ t, s.newWrites a t = Writes.none) →
      s.WritesOut s' a ∨
        (s'.written = s.written ∧ ∀ t, s'.held t = (s.held t).append (s.newWrites a t)) := by
    intro hother hnew
    obtain ⟨hphase, hwritten, _⟩ := next_frame h hother
    refine Or.inr ⟨hwritten, fun t => ?_⟩
    rw [hnew, Writes.append_none, held, hphase, held]
  cases a with
  | take k raw => exact hquiet nofun (fun _ => rfl)
  | giveBack k proc => exact hquiet nofun (fun _ => rfl)
  | cleanup k => exact hquiet nofun (fun _ => rfl)
  | release k status => exact hquiet nofun (fun _ => rfl)
  | setNoPersist k noPersist => exact hquiet nofun (fun _ => rfl)
  | mutate id op => exact hquiet nofun (fun _ => rfl)
  | store t a =>
      have hkeeps : ∀ {s₁ : StoreState P G} {phase : StoringPhase} (new : Writes),
          (∀ u, s₁.held u = if u = t then phase.held else s.held u) →
          phase.held = (s.held t).append new →
          (∀ u, s.newWrites (.store t a) u = if u = t then new else Writes.none) →
          ∀ u, s₁.held u = (s.held u).append (s.newWrites (.store t a) u) := by
        intro s₁ phase new hheld hphase hnew u
        rw [hheld, hnew]
        by_cases hu : u = t
        · rw [if_pos hu, if_pos hu, hphase, hu]
        · rw [if_neg hu, if_neg hu, Writes.append_none]
      cases nextStoring_stored h with
      | begin hphase =>
          refine Or.inr ⟨rfl, hkeeps Writes.none (fun u => held_setPhase s t u _) ?_ ?_⟩
          · rw [held, hphase]
            rfl
          · intro u
            rw [ite_self]
            rfl
      | @drain entries todo id held w hphase hw =>
          refine Or.inr ⟨rfl, hkeeps
            ⟨s.chunks id w.drainPanes.1, [], []⟩
            (fun u => held_setPhase (s.putWorkspace id w.drainPanes.2) t u _) ?_ ?_⟩
          · rw [StoreState.held, hphase]
            rfl
          · intro u
            simp only [newWrites, hphase, hw, Option.map_some, Option.getD_some]
      | drained hphase =>
          refine Or.inr ⟨rfl, hkeeps Writes.none (fun u => held_setPhase s t u _) ?_ ?_⟩
          · rw [held, hphase, Writes.append_none]
            rfl
          · intro u
            rw [ite_self]
            rfl
      | @collect todo id held w due proc now hphase hw =>
          refine Or.inr ⟨rfl, hkeeps
            (w.collectWrites id t due proc now s.clock)
            (fun u => held_setPhase (s.putWorkspace id (w.afterCollect t due proc)) t u _) ?_ ?_⟩
          · rw [StoreState.held, hphase]
            rfl
          · intro u
            simp only [newWrites, hphase, hw, Option.map_some, Option.getD_some]
            by_cases hu : u = t
            · rw [if_pos hu, if_pos hu, hu]
            · rw [if_neg hu, if_neg hu]
      | collected hphase =>
          refine Or.inr ⟨rfl, hkeeps Writes.none (fun u => held_setPhase s t u _) ?_ ?_⟩
          · rw [held, hphase, Writes.append_none]
            rfl
          · intro u
            rw [ite_self]
            rfl
      | @write held toMark fails hphase =>
          have hheld := fun u => held_setPhase s t u (.writing held.rest toMark)
          have hnow : s.held t = held := by
            rw [StoreState.held, hphase]
            rfl
          refine Or.inl ⟨t, fails, rfl, ?_, ?_, by rw [hnow]⟩
          · rw [hnow]
            exact (hheld t).trans (if_pos rfl)
          · intro u hu
            exact (hheld u).trans (if_neg hu)
      | @mark id toMark hphase =>
          refine Or.inr ⟨rfl, hkeeps Writes.none
            (fun u => held_setPhase s t u (.writing Writes.none toMark)) ?_ ?_⟩
          · rw [held, hphase, Writes.append_none]
            rfl
          · intro u
            rw [ite_self]
            rfl
      | finish hphase hnone =>
          refine Or.inr ⟨rfl, hkeeps Writes.none (fun u => held_setPhase s t u _) ?_ ?_⟩
          · rw [held, hphase, Writes.append_none, hnone]
            rfl
          · intro u
            rw [ite_self]
            rfl

end StoreState

end Panes

section Workspaces

variable {P : Type u} {G : Type v}

/-- The id stays, and the revision does not go back. -/
structure Workspace.Evolves (w w' : Workspace P G) : Prop where
  id : w'.id = w.id
  le : w.revision ≤ u64Max → w.revision ≤ w'.revision
  max : w.revision ≤ u64Max → w'.revision ≤ u64Max

namespace Workspace

theorem Evolves.of_eq {w w' : Workspace P G}
    (hid : w'.id = w.id)
    (hrevision : w'.revision = w.revision) :
    w.Evolves w' :=
  ⟨hid, fun _ => hrevision ▸ Nat.le_refl _, fun h => hrevision ▸ h⟩

theorem Evolves.refl (w : Workspace P G) : w.Evolves w :=
  Evolves.of_eq rfl rfl

/-- A change of the panes only, after another one. -/
theorem Evolves.withPanes {w w' : Workspace P G}
    (h : w.Evolves w')
    (panes : HashMap Uuid (Pane P G)) :
    w.Evolves { w' with panes := panes } :=
  ⟨h.id, h.le, h.max⟩

variable [VteParser P] [Vt100Parser G]

theorem Evolves.apply (w : Workspace P G) (op : WorkspaceOp P G)
    (hop : op ≠ .markPersisted) :
    w.Evolves (w.apply op) :=
  ⟨apply_id w op, (apply_bumped w op hop).le, (apply_bumped w op hop).max⟩

theorem Evolves.feedPaneCleanup (w : Workspace P G) (paneId : Uuid) :
    w.Evolves (w.feedPaneCleanup paneId).2 := by
  unfold Workspace.feedPaneCleanup
  split
  · exact Evolves.refl w
  · exact (Evolves.refl w).withPanes _

theorem Evolves.afterCollect (w : Workspace P G) (task : StoringTask) (due : Bool)
    (proc : ProcFs) :
    w.Evolves (w.afterCollect task due proc) := by
  have hscreens : w.Evolves (w.collectScreens (due || task = .shutdown) proc).2 := by
    unfold collectScreens
    split
    · exact (Evolves.refl w).withPanes _
    · exact Evolves.refl w
  simp only [Workspace.afterCollect]
  split
  · exact ⟨hscreens.id, hscreens.le, hscreens.max⟩
  · exact hscreens

end Workspace

namespace StoreState

theorem lookup_putWorkspace_cases {s : StoreState P G} {id j : Uuid} {w w' v : Workspace P G}
    (hw : s.workspaces.lookup id = some w)
    (hevolves : w.Evolves w')
    (h : (s.putWorkspace id w').workspaces.lookup j = some v) :
    ∃ u, s.workspaces.lookup j = some u ∧ u.Evolves v := by
  rcases HashMap.lookup_insert_cases h with ⟨rfl, rfl⟩ | ⟨_, hold⟩
  · exact ⟨w, hw, hevolves⟩
  · exact ⟨v, hold, Workspace.Evolves.refl v⟩

variable [VteParser P] [Vt100Parser G]

/-- **What a step does to a workspace.** -/
theorem next_workspace {s s' : StoreState P G} {a : StoreStep P G} {id : Uuid}
    {w' : Workspace P G}
    (h : s.next a = some s')
    (hw' : s'.workspaces.lookup id = some w') :
    ∃ w, s.workspaces.lookup id = some w ∧ w.Evolves w' := by
  cases a with
  | take k raw =>
      simp only [next] at h
      split at h
      · obtain ⟨w, hw, hmap⟩ := Option.bind_eq_some_iff.mp h
        obtain ⟨taken, _, rfl⟩ := Option.map_eq_some_iff.mp hmap
        exact lookup_putWorkspace_cases hw
          (Workspace.Evolves.apply w (.takeOutput k.2 raw) nofun) hw'
      · cases h
  | giveBack k proc =>
      obtain ⟨taken, _, hmap⟩ := Option.bind_eq_some_iff.mp h
      obtain ⟨w, hw, rfl⟩ := Option.map_eq_some_iff.mp hmap
      exact lookup_putWorkspace_cases hw
        (Workspace.Evolves.apply w (.returnOutput k.2 _ proc) nofun) hw'
  | cleanup k =>
      simp only [next] at h
      split at h
      · obtain ⟨w, hw, rfl⟩ := Option.map_eq_some_iff.mp h
        exact lookup_putWorkspace_cases hw (Workspace.Evolves.feedPaneCleanup w k.2) hw'
      · cases h
  | release k status =>
      simp only [next] at h
      split at h
      · obtain ⟨w, hw, rfl⟩ := Option.map_eq_some_iff.mp h
        exact lookup_putWorkspace_cases hw
          ((Workspace.Evolves.apply w (.setPaneExitStatus k.2 (some status))
            nofun).withPanes _) hw'
      · cases h
  | setNoPersist k noPersist =>
      obtain ⟨w, hw, rfl⟩ := Option.map_eq_some_iff.mp h
      exact lookup_putWorkspace_cases hw
        (Workspace.Evolves.apply w (.setPaneNoPersist k.2 noPersist) nofun) hw'
  | mutate j op =>
      simp only [next] at h
      split at h
      · next hop =>
          obtain ⟨w, hw, rfl⟩ := Option.map_eq_some_iff.mp h
          refine lookup_putWorkspace_cases hw (Workspace.Evolves.apply w op ?_) hw'
          rintro rfl
          cases hop
      · cases h
  | store t a =>
      cases nextStoring_stored h with
      | drain _ hw =>
          exact lookup_putWorkspace_cases hw ((Workspace.Evolves.refl _).withPanes _) hw'
      | collect _ hw =>
          exact lookup_putWorkspace_cases hw (Workspace.Evolves.afterCollect _ _ _ _) hw'
      | @mark j toMark _ =>
          rw [HashMap.lookup_modify] at hw'
          split at hw'
          · obtain ⟨w, hw, rfl⟩ := Option.map_eq_some_iff.mp hw'
            exact ⟨w, hw, Workspace.Evolves.of_eq rfl rfl⟩
          · exact ⟨w', hw', Workspace.Evolves.refl w'⟩
      | _ => exact ⟨w', hw', Workspace.Evolves.refl w'⟩

/-- A step leaves the storing tasks alone that do not take it. -/
theorem next_phase {s s' : StoreState P G} {a : StoreStep P G} {t : StoringTask}
    (h : s.next a = some s')
    (hother : ∀ b, a ≠ .store t b) :
    s'.phase t = s.phase t := by
  by_cases hstore : ∃ u b, a = .store u b
  · obtain ⟨u, b, rfl⟩ := hstore
    have hne : t ≠ u := fun heq => hother b (heq ▸ rfl)
    cases nextStoring_stored h <;> exact Function.update_of_ne hne _ _
  · rw [(next_frame h (fun u b heq => hstore ⟨u, b, heq⟩)).1]

/-- Time passes when a task collects from a workspace. -/
theorem next_clock {s s' : StoreState P G} {a : StoreStep P G}
    (h : s.next a = some s') :
    s.clock ≤ s'.clock ∧
      ∀ t due proc now, a = .store t (.collect due proc now) → s'.clock = s.clock + 1 := by
  by_cases hstore : ∃ u b, a = .store u b
  · obtain ⟨u, b, rfl⟩ := hstore
    cases nextStoring_stored h with
    | collect _ _ => exact ⟨Nat.le_succ _, fun _ _ _ _ _ => rfl⟩
    | _ => exact ⟨Nat.le_refl _, fun _ _ _ _ heq => by cases heq⟩
  · have hnone := fun u b heq => hstore ⟨u, b, heq⟩
    exact ⟨(next_frame h hnone).2.2.ge, fun t _ _ _ heq => absurd heq (hnone t _)⟩

/-- A write of some kind that a task holds after a step was held before, or the step
adds it. -/
theorem next_held {α : Type w} {s s' : StoreState P G} {a : StoreStep P G}
    {t : StoringTask} {x : α}
    (kind : Writes → List α)
    (hkind : ∀ w more, kind (w.append more) = kind w ++ kind more)
    (hnext : s.next a = some s')
    (hx : x ∈ kind (s'.held t)) :
    x ∈ kind (s.held t) ∨ x ∈ kind (s.newWrites a t) := by
  rcases next_writes hnext with ⟨u, fails, _, hheld, hothers, _⟩ | ⟨_, hheld⟩
  · by_cases hu : t = u
    · subst hu
      rw [hheld] at hx
      rw [← (s.held t).next_append_rest, hkind]
      exact Or.inl (List.mem_append_right _ hx)
    · rw [hothers t hu] at hx
      exact Or.inl hx
  · rw [hheld, hkind] at hx
    exact List.mem_append.mp hx

/-- A write of some kind that is on disk or held after a step was so before, or the
step adds it. -/
theorem next_any {α : Type w} {s s' : StoreState P G} {a : StoreStep P G} {x : α}
    (kind : Writes → List α)
    (hkind : ∀ w more, kind (w.append more) = kind w ++ kind more)
    (hnext : s.next a = some s')
    (hx : x ∈ kind s'.written ∨ ∃ t, x ∈ kind (s'.held t)) :
    (x ∈ kind s.written ∨ ∃ t, x ∈ kind (s.held t)) ∨ ∃ t, x ∈ kind (s.newWrites a t) := by
  rcases hx with hx | ⟨t, hx⟩
  · rcases next_writes hnext with ⟨t, fails, _, _, _, hwritten⟩ | ⟨hwritten, _⟩
    · rw [hwritten] at hx
      cases fails with
      | true => exact Or.inl (Or.inl hx)
      | false =>
          rcases List.mem_append.mp ((hkind _ _) ▸ hx) with hx | hx
          · exact Or.inl (Or.inl hx)
          · refine Or.inl (Or.inr ⟨t, ?_⟩)
            rw [← (s.held t).next_append_rest, hkind]
            exact List.mem_append_left _ hx
    · exact Or.inl (Or.inl (hwritten ▸ hx))
  · rcases next_held kind hkind hnext hx with hold | hnew
    · exact Or.inl (Or.inr ⟨t, hold⟩)
    · exact Or.inr ⟨t, hnew⟩

/-- **What a step does to the exit of a pane.** -/
theorem next_exit {s s' : StoreState P G} {a : StoreStep P G} {k : PaneKey}
    (h : s.next a = some s') :
    s'.exit k = s.exit k ∨
      (a = .cleanup k ∧ s'.exit k = .cleaned) ∨
      ∃ status, a = .release k status ∧ s'.exit k = .released := by
  cases a with
  | take k' raw =>
      simp only [next] at h
      split at h
      · obtain ⟨w, _, hmap⟩ := Option.bind_eq_some_iff.mp h
        obtain ⟨taken, _, rfl⟩ := Option.map_eq_some_iff.mp hmap
        exact Or.inl rfl
      · cases h
  | giveBack k' proc =>
      obtain ⟨taken, _, hmap⟩ := Option.bind_eq_some_iff.mp h
      obtain ⟨w, _, rfl⟩ := Option.map_eq_some_iff.mp hmap
      exact Or.inl rfl
  | cleanup k' =>
      simp only [next] at h
      split at h
      · obtain ⟨w, _, rfl⟩ := Option.map_eq_some_iff.mp h
        by_cases hk : k = k'
        · subst hk
          exact Or.inr (Or.inl ⟨rfl, by simp⟩)
        · exact Or.inl (by simp [hk])
      · cases h
  | release k' status =>
      simp only [next] at h
      split at h
      · obtain ⟨w, _, rfl⟩ := Option.map_eq_some_iff.mp h
        by_cases hk : k = k'
        · subst hk
          exact Or.inr (Or.inr ⟨status, rfl, by simp⟩)
        · exact Or.inl (by simp [hk])
      · cases h
  | setNoPersist k' noPersist =>
      obtain ⟨w, _, rfl⟩ := Option.map_eq_some_iff.mp h
      exact Or.inl rfl
  | mutate id op =>
      simp only [next] at h
      split at h
      · obtain ⟨w, _, rfl⟩ := Option.map_eq_some_iff.mp h
        exact Or.inl rfl
      · cases h
  | store t a =>
      refine Or.inl ?_
      cases nextStoring_stored h <;> rfl

/-- A pane accepts output only while its process runs. -/
theorem effectOn_data_of_exited {s s' : StoreState P G} {a : StoreStep P G} {k : PaneKey}
    (h : s.next a = some s')
    (hexit : s.exit k ≠ .running) :
    (s.effectOn a k).data = [] := by
  rcases s.effectOn_cases a k with heffect | ⟨raw, p, rfl, _, heffect⟩ |
    ⟨p, rfl, _, heffect⟩ | ⟨status, rfl, heffect⟩ | ⟨flag, rfl, heffect⟩ |
    ⟨t, rfl, _, heffect⟩
  · rw [heffect]
    rfl
  · simp only [next] at h
    split at h
    · next hrun => exact absurd hrun.1 hexit
    · cases h
  · simp only [next] at h
    split at h
    · next hrun => exact absurd hrun.1 hexit
    · cases h
  · rw [heffect]
    rfl
  · rw [heffect]
    rfl
  · rw [heffect]
    rfl

end StoreState

end Workspaces

section Provenance

variable {P : Type u} {G : Type v}

namespace StoreState

/-- Workspaces and panes are registered under their own ids. -/
structure Keyed (s : StoreState P G) : Prop where
  workspaces : ∀ id w, s.workspaces.lookup id = some w → w.id = id
  panes : ∀ k p, s.paneAt k = some p → p.id = k.2

/-- Log chunks, on disk or held. -/
def AnyChunk (s : StoreState P G) (c : LogChunk) : Prop :=
  c ∈ s.written.logs ∨ ∃ t, c ∈ (s.held t).logs

/-- The bytes of a chunk were accepted at its position and are no longer pending. -/
structure Drained (s : StoreState P G) (c : LogChunk) : Prop where
  content : (((s.accepted c.key).map Prod.fst).drop c.start).take c.data.length = c.data
  bound : c.start + c.data.length ≤ (s.accepted c.key).length
  past : ∀ p, s.paneAt c.key = some p →
    c.start + c.data.length + p.pendingFlush.length ≤ (s.accepted c.key).length

/-- Where the pending bytes and the chunks come from. -/
structure Provenance (s : StoreState P G) : Prop where
  keyed : s.Keyed
  pending : ∀ k p, s.paneAt k = some p → p.pendingFlush <:+ (s.accepted k).map Prod.fst
  chunks : ∀ c, s.AnyChunk c → s.Drained c

theorem mem_chunks {s : StoreState P G} {id : Uuid} {w : Workspace P G} {c : LogChunk}
    (hkeyed : s.Keyed)
    (hw : s.workspaces.lookup id = some w)
    (h : c ∈ s.chunks id w.drainPanes.1) :
    c.key.1 = id ∧ ∃ p, s.paneAt c.key = some p ∧ p.noPersist = false ∧
      p.pendingFlush ≠ [] ∧ c.data = p.pendingFlush ∧
      c.start = (s.accepted c.key).length - p.pendingFlush.length := by
  simp only [chunks, Workspace.drainPanes, List.mem_map, List.mem_filterMap,
    Option.map_eq_some_iff] at h
  obtain ⟨⟨paneId, data⟩, ⟨p, hmem, bytes, hdrain, hjob⟩, rfl⟩ := h
  obtain ⟨rfl, rfl⟩ := Prod.mk.inj hjob
  obtain ⟨k, hk⟩ := HashMap.mem_values.mp hmem
  have hat : s.paneAt (id, k) = some p := (paneAt_eq hw).trans hk
  have hid : p.id = k := hkeyed.panes (id, k) p hat
  rcases p.drainFlush_cases with ⟨_, hres⟩ | ⟨_, _, hres⟩ | ⟨hflag, hne, hres⟩
  · rw [hres] at hdrain
    cases hdrain
  · rw [hres] at hdrain
    cases hdrain
  · rw [hres, Option.some.injEq] at hdrain
    subst hdrain
    exact ⟨rfl, p, by rw [hid]; exact hat, hflag, hne, rfl, rfl⟩

variable [VteParser P] [Vt100Parser G]

/-- The chunks that a step adds: what a persistent pane has pending. -/
theorem mem_newWrites_logs {s : StoreState P G} {a : StoreStep P G} {t : StoringTask}
    {c : LogChunk}
    (hkeyed : s.Keyed)
    (h : c ∈ (s.newWrites a t).logs) :
    s.effectOn a c.key = .empties ∧ ∃ p, s.paneAt c.key = some p ∧ p.noPersist = false ∧
      p.pendingFlush ≠ [] ∧ c.data = p.pendingFlush ∧
      c.start = (s.accepted c.key).length - p.pendingFlush.length := by
  rcases s.newWrites_cases a t with hnone | ⟨id, w, rfl, hnext, hw, hnew⟩ |
    ⟨id, w, due, proc, now, rfl, _, _, hnew⟩
  · rw [hnone] at h
    cases h
  · rw [hnew] at h
    obtain ⟨hid, hpane⟩ := mem_chunks hkeyed hw h
    refine ⟨?_, hpane⟩
    rw [effectOn, hnext, if_pos (congrArg some hid.symm)]
  · rw [hnew] at h
    cases h

/-- A chunk stays drained. -/
theorem Drained.next {s s' : StoreState P G} {a : StoreStep P G} {c : LogChunk}
    (h : s.Drained c)
    (hnext : s.next a = some s') :
    s'.Drained c := by
  have haccepted := next_accepted hnext c.key
  have hlen : (s'.accepted c.key).length =
      (s.accepted c.key).length + (s.effectOn a c.key).data.length := by
    rw [haccepted, List.length_append, List.length_map]
  have hbound := h.bound
  refine ⟨?_, by omega, ?_⟩
  · rw [haccepted, List.map_append, List.drop_append_of_le_length (by rw [List.length_map]; omega),
      List.take_append_of_le_length (by rw [List.length_drop, List.length_map]; omega)]
    exact h.content
  · intro p' hp'
    obtain ⟨p, hp, _, hbuffer⟩ := next_pane hnext hp'
    have hpast := h.past p hp
    have hsuffix := ((s.effectOn a c.key).apply_suffix p.buffer).length_le
    rw [← hbuffer, List.length_append] at hsuffix
    simp only [Pane.buffer] at hsuffix
    omega

/-- What is pending stays the end of the stream. -/
theorem pending_next {s s' : StoreState P G} {a : StoreStep P G} {k : PaneKey}
    {p' : Pane P G}
    (h : ∀ p, s.paneAt k = some p → p.pendingFlush <:+ (s.accepted k).map Prod.fst)
    (hnext : s.next a = some s')
    (hp' : s'.paneAt k = some p') :
    p'.pendingFlush <:+ (s'.accepted k).map Prod.fst := by
  obtain ⟨p, hp, _, hbuffer⟩ := next_pane hnext hp'
  have hsuffix := (s.effectOn a k).apply_suffix p.buffer
  rw [← hbuffer] at hsuffix
  rw [next_accepted hnext k, List.map_append, List.map_map]
  have hsame : (s.effectOn a k).data.map (Prod.fst ∘ fun b => (b, s.confidential k)) =
      (s.effectOn a k).data := by
    simp [Function.comp_def]
  rw [hsame]
  obtain ⟨front, hfront⟩ := h p hp
  refine hsuffix.trans ⟨front, ?_⟩
  rw [← hfront, List.append_assoc]
  rfl

/-- The ids stay where they are. -/
theorem Keyed.next {s s' : StoreState P G} {a : StoreStep P G}
    (h : s.Keyed)
    (hnext : s.next a = some s') :
    s'.Keyed := by
  refine ⟨?_, ?_⟩
  · intro id w' hw'
    obtain ⟨w, hw, hevolves⟩ := next_workspace hnext hw'
    rw [hevolves.id]
    exact h.workspaces id w hw
  · intro k p' hp'
    obtain ⟨p, hp, hid, _⟩ := next_pane hnext hp'
    rw [hid]
    exact h.panes k p hp

/-- A new chunk is all that was pending, and nothing is pending afterwards. -/
theorem Provenance.drained_new {s s' : StoreState P G} {a : StoreStep P G} {t : StoringTask}
    {c : LogChunk}
    (h : s.Provenance)
    (hnext : s.next a = some s')
    (hc : c ∈ (s.newWrites a t).logs) :
    s'.Drained c := by
  obtain ⟨heffect, p, hp, _, _, hdata, hstart⟩ := mem_newWrites_logs h.keyed hc
  have haccepted : s'.accepted c.key = s.accepted c.key := by
    rw [next_accepted hnext, heffect]
    simp [BufferEffect.data]
  obtain ⟨front, hfront⟩ := h.pending c.key p hp
  have hlen : front.length + p.pendingFlush.length = (s.accepted c.key).length := by
    rw [← List.length_append, hfront, List.length_map]
  have hfrom : c.start = front.length := by omega
  refine ⟨?_, ?_, ?_⟩
  · rw [haccepted, ← hfront, hfrom, hdata, List.drop_left, List.take_length]
  · rw [haccepted, hfrom, hdata]
    omega
  · intro p' hp'
    obtain ⟨q, hq, _, hbuffer⟩ := next_pane hnext hp'
    have hnil : p'.pendingFlush = [] := by
      rw [heffect] at hbuffer
      exact congrArg Prod.fst hbuffer
    rw [haccepted, hfrom, hdata, hnil, List.length_nil]
    omega

/-- **Step lemma.** -/
theorem Provenance.next {s s' : StoreState P G} {a : StoreStep P G}
    (h : s.Provenance)
    (hnext : s.next a = some s') :
    s'.Provenance := by
  refine ⟨h.keyed.next hnext, ?_, ?_⟩
  · intro k p' hp'
    exact pending_next (h.pending k) hnext hp'
  · intro c hc
    rcases next_any Writes.logs (fun _ _ => rfl) hnext hc with hold | ⟨t, hnew⟩
    · exact (h.chunks c hold).next hnext
    · exact h.drained_new hnext hnew

/-- Pending bytes and log chunks are the bytes that were accepted there. -/
theorem Reachable.provenance {s : StoreState P G}
    (h : (system P G).Reachable s) :
    s.Provenance := by
  refine h.invariant ?_ (fun s a s' hI hnext => hI.next hnext)
  rintro s ⟨hworkspaces, hpanes, _, _, hphase, hwritten, haccepted⟩
  refine ⟨⟨fun id w hw => (hworkspaces id w hw).1, fun k p hp => (hpanes k p hp).1⟩, ?_, ?_⟩
  · intro k p hp
    rw [(hpanes k p hp).2]
    exact List.nil_suffix
  · rintro c (hc | ⟨t, hc⟩)
    · rw [hwritten] at hc
      cases hc
    · rw [held, hphase] at hc
      cases hc

end StoreState

end Provenance

end Server
end Rttx
