import Rttx.Server.SampleTerminal
import Rttx.Server.StoreProvenance

/-!
# Confidential panes

A pane whose `noPersist` flag is set keeps its scrollback and its history off the
disk; the snapshot of its screen is still saved.  The flag is consulted when a task
drains the pending bytes, not when they are accepted, and the snapshot is rendered
from the whole primary buffer, with what has scrolled off.

**Results.**
* `confidential_stays_off_disk`: what the flag protects in runs in which it is
  dropped and raised with care, and no history is captured under it.
* `confidential_reaches_disk`: runs in which a confidential byte reaches the log,
  and in which a confidential snapshot has a row of the history.
-/

namespace Rttx
namespace Server

open Kernel

universe u v

/-- A saved rendering that lies within the visible part. -/
def ScreenSave.OnlyVisible (x : ScreenSave) : Prop :=
  x.snapshot.screenBytes <:+ x.visible

instance (x : ScreenSave) : Decidable x.OnlyVisible :=
  inferInstanceAs (Decidable (_ <:+ _))

namespace StoreState

section Guard

variable {P : Type u} {G : Type v}

/-- The end of a pane's stream that is pending, each byte with its flag. -/
def pendingTags (s : StoreState P G) (k : PaneKey) (p : Pane P G) : List (UInt8 × Bool) :=
  (s.accepted k).drop ((s.accepted k).length - p.pendingFlush.length)

/-- The bytes of a log chunk as they were accepted, each with its flag. -/
def chunkTags (s : StoreState P G) (c : LogChunk) : List (UInt8 × Bool) :=
  ((s.accepted c.key).drop c.start).take c.data.length

variable [VteParser P] [Vt100Parser G]

/-- The condition on a step.  The flag is dropped only when no byte is pending that
was accepted under it, and raised only when no task holds a snapshot of the pane with
history in it.  While it is set, a snapshot is taken only of a screen of whose history
the trim leaves nothing. -/
def keepsConfidential (s : StoreState P G) : StoreStep P G → Bool
  | .setNoPersist k true =>
      (s.paneAt k).all fun p =>
        p.noPersist || [StoringTask.tick, .shutdown].all fun t =>
          (s.held t).screens.all fun x => x.key ≠ k || x.OnlyVisible
  | .setNoPersist k false =>
      (s.paneAt k).all fun p =>
        !p.noPersist || (s.pendingTags k p).all fun b => !b.2
  | .store t (.collect due _ _) =>
      match s.phase t with
      | .collecting (id :: _) _ =>
          (s.workspaces.lookup id).all fun w =>
            !w.savesScreens (due || t = .shutdown) || w.panes.values.all fun p =>
              !p.noPersist ||
                historyTrimmed p.screen.primaryParts.1 p.screen.primaryParts.2 maxSnapshotBytes
      | _ => true
  | _ => true

/-- What keeps confidential bytes and history off the disk. -/
structure Guarded (s : StoreState P G) : Prop where
  pending : ∀ k p, s.paneAt k = some p → p.noPersist = false →
    ∀ b ∈ s.pendingTags k p, b.2 = false
  chunks : ∀ c, s.AnyChunk c → ∀ b ∈ s.chunkTags c, b.2 = false
  screens : ∀ x, (x ∈ s.written.screens ∨ ∃ t, x ∈ (s.held t).screens) →
    x.snapshot.confidential = true → x.OnlyVisible
  held : ∀ t, ∀ x ∈ (s.held t).screens, s.confidential x.key = true →
    x.OnlyVisible

end Guard

section Steps

variable {P : Type u} {G : Type v}
variable [VteParser P] [Vt100Parser G]

omit [VteParser P] [Vt100Parser G] in
theorem confidential_iff {s : StoreState P G} {k : PaneKey} :
    s.confidential k = true ↔ ∃ p, s.paneAt k = some p ∧ p.noPersist = true := by
  simp [confidential, Option.any_eq_true]

/-- The bytes of a drained chunk stay as they were accepted. -/
theorem chunkTags_next {s s' : StoreState P G} {a : StoreStep P G} {c : LogChunk}
    (h : s.Drained c)
    (hnext : s.next a = some s') :
    s'.chunkTags c = s.chunkTags c := by
  have hbound := h.bound
  rw [chunkTags, next_accepted hnext, List.drop_append_of_le_length (by omega),
    List.take_append_of_le_length (by rw [List.length_drop]; omega)]
  rfl

/-- A snapshot that a step adds, and the pane it was taken of. -/
theorem mem_newWrites_screens_pane {s : StoreState P G} {a : StoreStep P G}
    {t : StoringTask} {x : ScreenSave}
    (hkeyed : s.Keyed)
    (hok : s.keepsConfidential a = true)
    (h : x ∈ (s.newWrites a t).screens) :
    s.effectOn a x.key = .keeps ∧ ∃ p, s.paneAt x.key = some p ∧
      x.snapshot.confidential = p.noPersist ∧ (p.noPersist = true → x.OnlyVisible) := by
  rcases s.newWrites_cases a t with hnone | ⟨id, w, _, _, _, hnew⟩ |
    ⟨id, w, due, proc, now, rfl, ⟨todo, held, hphase⟩, hw, hnew⟩
  · rw [hnone] at h
    cases h
  · rw [hnew] at h
    cases h
  · simp only [keepsConfidential, hphase, hw, Option.all_some] at hok
    rw [hnew, Workspace.collectWrites] at h
    simp only at h
    split at h
    · next hsaves =>
        obtain ⟨p, hp, rfl⟩ := List.mem_map.mp h
        obtain ⟨k, hk⟩ := HashMap.mem_values.mp hp
        have hat : s.paneAt (id, k) = some p := (paneAt_eq hw).trans hk
        have hid : p.id = k := hkeyed.panes (id, k) p hat
        refine ⟨rfl, p, ?_, rfl, ?_⟩
        · rw [← hid] at hat
          exact hat
        · intro hflag
          rw [hsaves, Bool.not_true, Bool.false_or, List.all_eq_true] at hok
          have htrim := hok p hp
          rw [hflag, Bool.not_true, Bool.false_or] at htrim
          have hsuffix := (dropOldestLinesOver_suffix_iff p.screen.primaryParts.1
            p.screen.primaryParts.2 maxSnapshotBytes).mpr htrim
          rw [← PaneScreen.primaryBufferStream_eq] at hsuffix
          exact hsuffix
    · cases h

/-- **Step lemma.** -/
theorem Guarded.next {s s' : StoreState P G} {a : StoreStep P G}
    (h : s.Guarded)
    (hprov : s.Provenance)
    (hok : s.keepsConfidential a = true)
    (hnext : s.next a = some s') :
    s'.Guarded := by
  refine ⟨?_, ?_, ?_, ?_⟩
  · intro k p' hp' hflag' b hb
    obtain ⟨p, hp, _, hbuffer⟩ := next_pane hnext hp'
    have hsuffix := ((s.effectOn a k).apply_suffix p.buffer).length_le
    rw [← hbuffer, List.length_append] at hsuffix
    simp only [Pane.buffer] at hsuffix
    have hlen := (hprov.pending k p hp).length_le
    rw [List.length_map] at hlen
    have haccepted := next_accepted hnext k
    have hconf : s.confidential k = p.noPersist := by simp [confidential, hp]
    -- what is pending was so before, or has just been accepted
    have hcases : b ∈ s.pendingTags k p ∨
        ∃ x ∈ (s.effectOn a k).data, b = (x, p.noPersist) := by
      rw [pendingTags, haccepted, hconf] at hb
      have hle : (s.accepted k).length - p.pendingFlush.length ≤
          (s.accepted k ++ (s.effectOn a k).data.map (fun b => (b, p.noPersist))).length -
            p'.pendingFlush.length := by
        rw [List.length_append, List.length_map]
        omega
      have hin := List.drop_subset_drop_left _ hle hb
      rw [List.drop_append_of_le_length (Nat.sub_le _ _), List.mem_append] at hin
      rcases hin with hin | hin
      · exact Or.inl hin
      · obtain ⟨x, hx, rfl⟩ := List.mem_map.mp hin
        exact Or.inr ⟨x, hx, rfl⟩
    have hflag : p.noPersist = false → b.2 = false := by
      intro hfalse
      rcases hcases with hin | ⟨x, _, rfl⟩
      · exact h.pending k p hp hfalse b hin
      · exact hfalse
    by_cases hsame : p'.noPersist = p.noPersist
    · exact hflag (hsame ▸ hflag')
    · obtain ⟨rfl, heffect⟩ := flag_next hbuffer hsame
      rw [hflag'] at hok
      rcases hcases with hin | ⟨x, hx, _⟩
      · simp only [keepsConfidential, hp, Option.all_some, Bool.or_eq_true,
          Bool.not_eq_true', List.all_eq_true] at hok
        rcases hok with hfalse | hall
        · exact hflag hfalse
        · exact hall b hin
      · rw [heffect] at hx
        cases hx
  · intro c hc b hb
    rcases next_any Writes.logs (fun _ _ => rfl) hnext hc with hold | ⟨t, hnew⟩
    · rw [chunkTags_next (hprov.chunks c hold) hnext] at hb
      exact h.chunks c hold b hb
    · obtain ⟨heffect, p, hp, hflag, _, hdata, hstart⟩ := mem_newWrites_logs hprov.keyed hnew
      have haccepted : s'.accepted c.key = s.accepted c.key := by
        rw [next_accepted hnext, heffect]
        simp [BufferEffect.data]
      rw [chunkTags, haccepted, hstart] at hb
      exact h.pending c.key p hp hflag b (List.mem_of_mem_take hb)
  · intro x hx hconf
    rcases next_any Writes.screens (fun _ _ => rfl) hnext hx with hold | ⟨t, hnew⟩
    · exact h.screens x hold hconf
    · obtain ⟨_, p, _, hflag, honly⟩ := mem_newWrites_screens_pane hprov.keyed hok hnew
      exact honly (hflag ▸ hconf)
  · intro t x hx hconf
    obtain ⟨p', hp', hflag'⟩ := confidential_iff.mp hconf
    obtain ⟨p, hp, _, hbuffer⟩ := next_pane hnext hp'
    rcases next_held Writes.screens (fun _ _ => rfl) hnext hx with hold | hnew
    · by_cases hflag : p.noPersist = true
      · exact h.held t x hold (confidential_iff.mpr ⟨p, hp, hflag⟩)
      · obtain ⟨rfl, _⟩ := flag_next hbuffer (by rw [hflag']; exact Ne.symm hflag)
        rw [hflag'] at hok
        simp only [keepsConfidential, hp, Option.all_some, hflag, Bool.false_or,
          List.all_eq_true] at hok
        have hall := hok t (by cases t <;> simp) x hold
        simpa using hall
    · obtain ⟨heffect, q, hq, _, honly⟩ := mem_newWrites_screens_pane hprov.keyed hok hnew
      rw [hp, Option.some.injEq] at hq
      subst hq
      rw [heffect] at hbuffer
      exact honly ((congrArg Prod.snd hbuffer).symm.trans hflag')

omit [VteParser P] [Vt100Parser G] in
/-- Nothing is accepted, written or held at the start. -/
theorem IsStart.guarded {s : StoreState P G}
    (h : s.IsStart) :
    s.Guarded := by
  obtain ⟨_, _, _, _, hphase, hwritten, haccepted⟩ := h
  have hheld : ∀ t, s.held t = Writes.none := by
    intro t
    rw [held, hphase]
    rfl
  refine ⟨?_, ?_, ?_, ?_⟩
  · intro k p _ _ b hb
    rw [pendingTags, haccepted] at hb
    simp at hb
  · rintro c _ b hb
    rw [chunkTags, haccepted] at hb
    simp at hb
  · rintro x (hx | ⟨t, hx⟩)
    · rw [hwritten] at hx
      cases hx
    · rw [hheld] at hx
      cases hx
  · intro t x hx
    rw [hheld] at hx
    cases hx

end Steps

section Runs

variable {P : Type u} {G : Type v}
variable [VteParser P] [Vt100Parser G]

/-- **What stays off the disk.**  In runs that meet the condition no log has a byte that
was accepted under the flag, a snapshot taken under it lies within the visible part, and
so does every snapshot that a task is about to save for a pane that has it now. -/
theorem confidential_stays_off_disk {s : StoreState P G}
    (h : (system P G).ReachableUnder (fun s a => s.keepsConfidential a = true) s) :
    (∀ c ∈ s.written.logs,
        (s.chunkTags c).map Prod.fst = c.data ∧ ∀ b ∈ s.chunkTags c, b.2 = false) ∧
      (∀ x ∈ s.written.screens, x.snapshot.confidential = true → x.OnlyVisible) ∧
      ∀ t, ∀ x ∈ (s.held t).screens, s.confidential x.key = true → x.OnlyVisible := by
  have hboth : s.Provenance ∧ s.Guarded := by
    refine h.invariant (I := fun s => s.Provenance ∧ s.Guarded) ?_ ?_
    · intro s hstart
      exact ⟨Reachable.provenance (System.Reachable.of_init hstart), hstart.guarded⟩
    · rintro s a s' ⟨hprov, hguarded⟩ hok hnext
      exact ⟨hprov.next hnext, hguarded.next hprov hok hnext⟩
  obtain ⟨hprov, hguarded⟩ := hboth
  refine ⟨?_, fun x hx => hguarded.screens x (Or.inl hx), hguarded.held⟩
  intro c hc
  refine ⟨?_, hguarded.chunks c (Or.inl hc)⟩
  have hcontent := (hprov.chunks c (Or.inl hc)).content
  rw [← List.map_drop, ← List.map_take] at hcontent
  exact hcontent

end Runs

end StoreState

section ScrollGrid

/-- A small grid that scrolls: its lines from the oldest on, and how far its view is
scrolled back.  It behaves like the real one on plain text. -/
structure ScrollGrid where
  rows : Nat
  cols : Nat
  lines : List Bytes
  offset : Nat
deriving DecidableEq

namespace ScrollGrid

def step (g : ScrollGrid) (byte : UInt8) : ScrollGrid :=
  if byte = 0x0a then
    { g with lines := g.lines ++ [[]] }
  else if byte = 0x0d then
    g
  else
    { g with lines := g.lines.dropLast ++ [g.lines.getLastD [] ++ [byte]] }

/-- The number of lines above the view. -/
def top (g : ScrollGrid) : Nat :=
  g.lines.length - g.rows - g.offset

def cell (g : ScrollGrid) (row col : Nat) : Option Cell :=
  if row < g.rows ∧ col < g.cols then
    match (g.lines.getD (g.top + row) [])[col]? with
    | some byte => some (SampleGrid.textCell byte)
    | none => some SampleGrid.blankCell
  else
    none

instance : Vt100Parser ScrollGrid where
  new := fun rows cols _ => ⟨rows, cols, [[]], 0⟩
  process := fun g data => data.foldl step g
  setSize := fun g rows cols => { g with rows := rows, cols := cols }
  setScrollback := fun g n => { g with offset := min n (g.lines.length - g.rows) }
  size := fun g => (g.rows, g.cols)
  scrollback := fun g => g.offset
  alternateScreen := fun _ => false
  cursorPosition := fun g => (min g.lines.length g.rows - 1, (g.lines.getLastD []).length)
  cell := cell
  rowWrapped := fun _ _ => false
  contentsFormatted := fun g => g.lines.flatten
  applicationKeypad := fun _ => false
  applicationCursor := fun _ => false
  bracketedPaste := fun _ => false
  mouseProtocolMode := fun _ => .none
  mouseProtocolEncoding := fun _ => .default
  hideCursor := fun _ => false

end ScrollGrid

end ScrollGrid

namespace StoreState

section Samples

def idleProcFs : ProcFs := ⟨fun _ => none, fun _ => none⟩

/-- A pane prints under the flag, and a tick runs while the flag is set. -/
def discreet : List (StoreStep SampleParser ScrollGrid) :=
  [.setNoPersist (7, 1) true, .take (7, 1) (bytesOf "key"), .giveBack (7, 1) idleProcFs] ++
    (StoringStep.pass 2 1).map (.store .tick) ++ [.setNoPersist (7, 1) false]

/-- The flag is dropped before the tick. -/
def droppedEarly : List (StoreStep SampleParser ScrollGrid) :=
  [.setNoPersist (7, 1) true, .take (7, 1) (bytesOf "key"), .giveBack (7, 1) idleProcFs,
    .setNoPersist (7, 1) false] ++ (StoringStep.pass 3 1).map (.store .tick)

/-- The first line scrolls off under the flag, and a tick saves the screen. -/
def scrolledOff : List (StoreStep SampleParser ScrollGrid) :=
  [.setNoPersist (7, 1) true,
    .take (7, 1) (bytesOf "key" ++ (List.replicate 24 (bytesOf "\r\n")).flatten),
    .giveBack (7, 1) idleProcFs] ++ (StoringStep.pass 2 1).map (.store .tick)

theorem discreet_runs :
    ((system SampleParser ScrollGrid).execUnder (fun s a => s.keepsConfidential a)
      (singlePane SampleParser ScrollGrid) discreet).isSome = true := by
  decide +kernel

def discreetEnd : StoreState SampleParser ScrollGrid :=
  ((system SampleParser ScrollGrid).execUnder (fun s a => s.keepsConfidential a)
    (singlePane SampleParser ScrollGrid) discreet).get discreet_runs

/-- The screen is saved, and no log is written. -/
theorem confidential_stays_off_disk_discreet :
    discreetEnd.written.screens.map (fun x => x.snapshot.screenBytes) = [bytesOf "key"] ∧
      discreetEnd.written.logs = [] ∧
      ∀ x ∈ discreetEnd.written.screens, x.snapshot.confidential = true → x.OnlyVisible :=
  ⟨by decide +kernel, by decide +kernel, (confidential_stays_off_disk
    (System.reachableUnder_get (singlePane_isStart _ _) discreet_runs)).2.1⟩

/-- **Confidential bytes and history may reach the disk.**  A byte that was accepted
under the flag is in the log, and the snapshot that a tick saves under the flag has the
row that has scrolled off. -/
theorem confidential_reaches_disk :
    (∃ s : StoreState SampleParser ScrollGrid,
      (system SampleParser ScrollGrid).Reachable s ∧
      s.written.logs.map (fun c => (c.key, c.data)) = [((7, 1), bytesOf "key")] ∧
      ∃ c ∈ s.written.logs, ∃ b ∈ s.chunkTags c, b.2 = true) ∧
    ∃ s : StoreState SampleParser ScrollGrid,
      (system SampleParser ScrollGrid).Reachable s ∧ s.confidential (7, 1) = true ∧
      s.written.screens.map (fun x => (x.snapshot.screenBytes, x.visible)) =
        [(bytesOf "key\r\n", [])] ∧
      ∃ x ∈ s.written.screens, x.snapshot.confidential = true ∧ ¬ x.OnlyVisible := by
  constructor
  · exact System.exists_reachable droppedEarly (singlePane_isStart _ _) (by decide +kernel)
  · exact System.exists_reachable scrolledOff (singlePane_isStart _ _) (by decide +kernel)

end Samples

end StoreState

end Server
end Rttx
