import Rttx.Kernel.PagedReading
import Rttx.Kernel.TransitionSystem
import Rttx.Server.ModeCalls
import Rttx.Server.OutputTask
import Rttx.Server.SampleTerminal

/-!
# Scrollback pages

A client reads the scrollback of a pane in chunks.  It asks at offset 0 first,
then at the end of the chunk it got, until a chunk is the last.  The offsets
count from the front of the bytes that the screen keeps.

The screen keeps the newest bytes up to its limit, so the front moves when
output arrives at a full screen, and the next chunk then skips what was dropped.
While a batch is parsed the pane holds a placeholder that keeps no bytes, and
whatever is asked then is answered with an empty last chunk.

**Results.**
* `pages_are_whole`: without these two the chunks are one range of the accepted
  output, with everything that was kept at the first request and at the last.
* `pages_are_not_whole`: a run for each of them.
-/

namespace Rttx
namespace Server

open Kernel

universe u v

section Chunks

/-- Maximum bytes the server will return in a single chunk. -/
def maxChunkSize : Nat := 256 * 1024

/-- Cap a requested limit. -/
def capLimit (requested : Nat) : Nat :=
  min requested maxChunkSize

/-- One answer to a request for scrollback. -/
structure ScrollbackChunk where
  offset : Nat
  data : Bytes
  isLast : Bool
deriving DecidableEq

variable {P : Type u} {G : Type v}

/-- The raw bytes that the screen keeps. -/
def PaneScreen.rawBytes (s : PaneScreen P G) : Bytes :=
  s.performer.rawBytes

/-- The scrollback handler, once it has found the pane. -/
def Pane.getScrollback (p : Pane P G) (offset requested : Nat) : ScrollbackChunk :=
  let limit := capLimit requested
  let raw := p.screen.rawBytes
  let (data, isLast) :=
    if raw.length ≤ offset then
      ([], true)
    else
      let stop := min raw.length (offset + limit)
      ((raw.take stop).drop offset, decide (raw.length ≤ stop))
  ⟨offset, data, isLast⟩

theorem getScrollback_page (p : Pane P G) (offset requested : Nat) :
    ((p.getScrollback offset requested).data, (p.getScrollback offset requested).isLast) =
      page p.screen.rawBytes offset (capLimit requested) :=
  rfl

/-- A screen that keeps nothing has an empty last chunk. -/
theorem page_of_empty {window : Bytes}
    (h : window = [])
    (offset limit : Nat) :
    page window offset limit = ([], true) := by
  simp [page, h]

end Chunks

section Kept

/-- The kept bytes and their limit. -/
def ScreenPerformer.kept (p : ScreenPerformer) : Bytes × Nat :=
  (p.rawBytes, p.maxBytes)

theorem SameModes.kept {p q : ScreenPerformer}
    (h : SameModes p q) :
    q.kept = p.kept := by
  rw [← h]
  rfl

namespace ScreenPerformer

theorem kept_setPrivateMode (enabled : Bool) (p : ScreenPerformer) (param : List Nat) :
    (setPrivateMode enabled p param).kept = p.kept := by
  unfold setPrivateMode
  dsimp only
  split <;> rfl

theorem kept_setPrivateModes (enabled : Bool) (params : List (List Nat)) (p : ScreenPerformer) :
    (params.foldl (setPrivateMode enabled) p).kept = p.kept := by
  induction params generalizing p with
  | nil => rfl
  | cons param rest ih => rw [List.foldl_cons, ih, kept_setPrivateMode]

theorem kept_perform (p : ScreenPerformer) (call : VteCall) :
    (p.perform call).kept = p.kept := by
  cases call with
  | execute byte =>
      simp only [perform, execute]
      split_ifs <;> rfl
  | csiDispatch params intermediates ignore action =>
      rw [perform]
      by_cases hmode : intermediates = bytesOf "?" ∧ (action = 'h' ∨ action = 'l')
      · rw [csiDispatch, if_pos hmode]
        exact kept_setPrivateModes _ params p
      · exact (csiDispatch_sameModes p hmode).kept
  | escDispatch intermediates ignore byte =>
      simp only [perform, escDispatch]
      split_ifs <;> rfl
  | _ => rfl

theorem kept_performAll (p : ScreenPerformer) (calls : List VteCall) :
    (p.performAll calls).kept = p.kept := by
  induction calls generalizing p with
  | nil => rfl
  | cons call rest ih =>
      have hrest := ih (p.perform call)
      rwa [kept_perform] at hrest

end ScreenPerformer

variable {P : Type u} {G : Type v}
variable [VteParser P] [Vt100Parser G]

/-- Parsing leaves the kept bytes alone. -/
theorem rawBytes_parse (s : PaneScreen P G) (data : Bytes) :
    (s.parse data).rawBytes = s.rawBytes := by
  have hparsed : (s.parse data).performer = s.performer.performAll (callsOver s.parser data) :=
    advanceParser_performer s.parser s.performer data
  rw [PaneScreen.rawBytes, hparsed]
  exact congrArg Prod.fst (ScreenPerformer.kept_performAll s.performer _)

omit [VteParser P] [Vt100Parser G] in
/-- So does what a pane takes out of a screen that comes back. -/
theorem rawBytes_returnScreen (p : Pane P G) (screen : PaneScreen P G) :
    (p.returnScreen screen).2.screen.rawBytes = screen.rawBytes :=
  rfl

omit [VteParser P] [Vt100Parser G] in
/-- A batch that fits is appended to the kept bytes. -/
theorem rawBytes_acceptRaw {s : PaneScreen P G} {data : Bytes}
    (hfits : s.rawBytes.length + data.length ≤ s.performer.maxBytes) :
    (s.acceptRaw data).rawBytes = s.rawBytes ++ data := by
  have hnone : (s.performer.rawBytes ++ data).length - s.performer.maxBytes = 0 := by
    rw [List.length_append]
    exact Nat.sub_eq_zero_of_le hfits
  simp only [PaneScreen.acceptRaw, PaneScreen.rawBytes, hnone, List.drop_zero]

omit [VteParser P] [Vt100Parser G] in
/-- The kept bytes are the newest of all. -/
theorem rawBytes_acceptRaw_suffix (s : PaneScreen P G) (data : Bytes) :
    (s.acceptRaw data).rawBytes <:+ s.rawBytes ++ data :=
  List.drop_suffix _ _

end Kept

section Paging

/-- A pane, what its output task holds of it, all output it has accepted, and
the reading of a client. -/
structure ScrollbackPaging (P : Type u) (G : Type v) where
  pane : Pane P G
  out : Option (TakenOutput P G)
  accepted : Bytes
  reading : Option (Reading UInt8)
deriving DecidableEq

/-- The steps of the output task and the requests of the client. -/
inductive PagingStep
  | takeScreen (raw : Bytes)
  | returnScreen
  | firstPage (limit : Nat)
  | nextPage (limit : Nat)

namespace ScrollbackPaging

section Steps

variable {P : Type u} {G : Type v}

/-- The bytes that the pane's real screen keeps, in place or not. -/
def kept (s : ScrollbackPaging P G) : Bytes :=
  match s.out with
  | none => s.pane.screen.rawBytes
  | some t => t.screen.rawBytes

/-- Where they stand in the accepted output. -/
def span (s : ScrollbackPaging P G) : Span :=
  windowSpan s.accepted s.kept

/-- The client gets the chunk that it asked for. -/
def request (s : ScrollbackPaging P G) (r : Reading UInt8) (limit : Nat) :
    ScrollbackPaging P G :=
  let chunk := s.pane.getScrollback r.offset limit
  { s with reading := some (r.answer (chunk.data, chunk.isLast) s.span) }

variable [VteParser P] [Vt100Parser G]

/-- The pane has accepted a batch, and the output task has the screen. -/
def taken (s : ScrollbackPaging P G) (raw : Bytes) : ScrollbackPaging P G :=
  let (taken, pane) := Workspace.takePaneOutput s.pane raw
  { s with pane := pane, out := some taken, accepted := s.accepted ++ taken.data }

/-- The screen is back, the batch parsed. -/
def returned (s : ScrollbackPaging P G) (taken : TakenOutput P G) : ScrollbackPaging P G :=
  { s with
    pane := (s.pane.returnScreen (taken.screen.parse taken.data)).2
    out := none }

/-- One step.  The output task returns the screen of a batch before it takes
the next; the client asks on until it got the last chunk, or starts over. -/
def next (s : ScrollbackPaging P G) : PagingStep → Option (ScrollbackPaging P G)
  | .takeScreen raw =>
      if s.out.isSome then none else some (s.taken raw)
  | .returnScreen =>
      s.out.map s.returned
  | .firstPage limit => some (s.request (Reading.start s.span) limit)
  | .nextPage limit =>
      match s.reading with
      | none => none
      | some r => if r.last.isSome then none else some (s.request r limit)

/-- Any pane at rest; what its screen keeps is the newest of what it accepted. -/
def IsStart (s : ScrollbackPaging P G) : Prop :=
  s.out = none ∧ s.reading = none ∧ s.pane.screen.rawBytes <:+ s.accepted

variable (P G) in
def system : System (ScrollbackPaging P G) PagingStep where
  init := IsStart
  next := next

/-- A batch that comes during a reading fits, unless nothing was read yet; and
a request is made while the screen is in place, unless all that was kept at the
first request has been read or dropped. -/
def pagesInPlace (s : ScrollbackPaging P G) : PagingStep → Bool
  | .takeScreen raw =>
      s.reading.all fun r => r.last.isSome || r.offset = 0 ||
        s.kept.length + (Workspace.takePaneOutput s.pane raw).1.data.length ≤
          s.pane.screen.performer.maxBytes
  | .returnScreen => true
  | .firstPage _ => s.out.isNone || s.kept = []
  | .nextPage _ => s.out.isNone || s.reading.all fun r => r.first.stop ≤ s.span.first + r.offset

end Steps

section Invariant

variable {P : Type u} {G : Type v}

/-- The placeholder keeps nothing, the kept bytes are the newest accepted ones,
and the reading is in order. -/
structure Inv (s : ScrollbackPaging P G) : Prop where
  placeholder : s.out.isSome = true → s.pane.screen.rawBytes = []
  newest : s.kept <:+ s.accepted
  reading : ∀ r, s.reading = some r → r.Ok s.accepted s.kept

/-- A request for the next page of a reading. -/
theorem Inv.request {s : ScrollbackPaging P G} {r : Reading UInt8}
    (h : s.Inv)
    (hr : r.Ok s.accepted s.kept)
    (hunderway : r.last = none)
    (hplace : s.out = none ∨ r.first.stop ≤ s.span.first + r.offset)
    (limit : Nat) :
    (s.request r limit).Inv := by
  refine ⟨h.placeholder, h.newest, ?_⟩
  intro r' hr'
  obtain rfl : r.answer (page s.pane.screen.rawBytes r.offset (capLimit limit)) s.span = r' :=
    Option.some.inj hr'
  cases hout : s.out with
  | none =>
      have hkept : s.pane.screen.rawBytes = s.kept := by
        simp [kept, hout]
      rw [hkept]
      exact hr.next h.newest hunderway (capLimit limit)
  | some taken =>
      have hempty : s.pane.screen.rawBytes = [] := h.placeholder (by rw [hout]; rfl)
      rw [page_of_empty hempty]
      rcases hplace with hnone | hread
      · rw [hout] at hnone
        cases hnone
      · exact hr.cutShort h.newest hunderway hread

variable [VteParser P] [Vt100Parser G]

omit [VteParser P] [Vt100Parser G] in
theorem IsStart.inv {s : ScrollbackPaging P G}
    (h : s.IsStart) :
    s.Inv := by
  obtain ⟨hout, hreading, hnewest⟩ := h
  have hkept : s.kept = s.pane.screen.rawBytes := by
    simp [kept, hout]
  exact ⟨by simp [hout], by rw [hkept]; exact hnewest, by simp [hreading]⟩

/-- A batch is accepted and the screen taken. -/
theorem Inv.takeScreen {s : ScrollbackPaging P G} {raw : Bytes}
    (h : s.Inv)
    (hok : s.pagesInPlace (.takeScreen raw) = true)
    (hplace : s.out = none) :
    (s.taken raw).Inv := by
  have hkept : s.kept = s.pane.screen.rawBytes := by
    simp [kept, hplace]
  have hnewest := h.newest
  rw [hkept] at hnewest
  refine ⟨fun _ => rfl, ?_, ?_⟩
  · refine (rawBytes_acceptRaw_suffix s.pane.screen _).trans ?_
    obtain ⟨before, hbefore⟩ := hnewest
    refine ⟨before, ?_⟩
    rw [← List.append_assoc, hbefore]
    rfl
  · intro r hr
    have hstays := hok
    simp only [pagesInPlace, hkept, Option.all_eq_true] at hstays
    have hguard := hstays r hr
    simp only [Bool.or_eq_true, decide_eq_true_eq, or_assoc] at hguard
    refine (h.reading r hr).slide (hguard.imp_right (Or.imp_right ?_))
    intro hfits
    rw [hkept]
    exact rawBytes_acceptRaw hfits

/-- The screen comes back. -/
theorem Inv.returnScreen {s : ScrollbackPaging P G} {taken : TakenOutput P G}
    (h : s.Inv)
    (hout : s.out = some taken) :
    (s.returned taken).Inv := by
  have hkept : s.kept = taken.screen.rawBytes := by
    simp [kept, hout]
  have hback : (s.pane.returnScreen (taken.screen.parse taken.data)).2.screen.rawBytes =
      s.kept := by
    rw [rawBytes_returnScreen, rawBytes_parse, hkept]
  refine ⟨by simp [returned], ?_, ?_⟩
  · simp only [ScrollbackPaging.kept, returned, hback]
    exact h.newest
  · simp only [ScrollbackPaging.kept, returned, hback]
    exact h.reading

/-- Every step under the guard keeps the invariant. -/
theorem Inv.next {s s' : ScrollbackPaging P G} {a : PagingStep}
    (h : s.Inv)
    (hok : s.pagesInPlace a = true)
    (hnext : s.next a = some s') :
    s'.Inv := by
  cases a with
  | takeScreen raw =>
      obtain ⟨hplace, rfl⟩ : s.out = none ∧ s.taken raw = s' := by
        simpa [ScrollbackPaging.next] using hnext
      exact h.takeScreen hok hplace
  | returnScreen =>
      obtain ⟨taken, hout, rfl⟩ := Option.map_eq_some_iff.mp hnext
      exact h.returnScreen hout
  | firstPage limit =>
      obtain rfl : s.request (Reading.start s.span) limit = s' := Option.some.inj hnext
      refine h.request (Reading.ok_start s.accepted s.kept) rfl ?_ limit
      simp only [pagesInPlace, Bool.or_eq_true, Option.isNone_iff_eq_none,
        decide_eq_true_eq] at hok
      refine hok.imp_right ?_
      intro hempty
      simp [Reading.start, span, windowSpan, hempty]
  | nextPage limit =>
      simp only [ScrollbackPaging.next] at hnext
      cases hreading : s.reading with
      | none => simp [hreading] at hnext
      | some r =>
          cases hlast : r.last with
          | some last => simp [hreading, hlast] at hnext
          | none =>
              simp only [hreading, hlast, Option.isSome_none, Bool.false_eq_true, if_false,
                Option.some.injEq] at hnext
              subst hnext
              refine h.request (h.reading r hreading) hlast ?_ limit
              simpa [pagesInPlace, hreading] using hok

/-- **The chunks of a reading are one range of the accepted output**, with
everything that was kept at the first request and at the last, in runs in which
no batch pushes bytes out after the first chunk, and no chunk is asked for that
is still missing while the screen is out. -/
theorem pages_are_whole {s : ScrollbackPaging P G}
    (h : (system P G).ReachableUnder (fun s a => s.pagesInPlace a = true) s)
    (r : Reading UInt8)
    (last : Span)
    (hreading : s.reading = some r)
    (hlast : r.last = some last) :
    r.Whole s.accepted last := by
  have hinv : s.Inv := h.invariant (fun _ hinit => IsStart.inv hinit)
    (fun _ _ _ hinv hok hnext => Inv.next hinv hok hnext)
  exact (hinv.reading r hreading).whole last hlast

end Invariant

section Runs

/-- A new pane of the daemon. -/
def newPaneStart : ScrollbackPaging SampleParser SampleGrid :=
  ⟨Pane.new 1 80 24, none, [], none⟩

/-- The same pane with a screen that keeps three bytes. -/
def smallPaneStart : ScrollbackPaging SampleParser SampleGrid :=
  ⟨{ (Pane.new 1 80 24 : Pane SampleParser SampleGrid) with screen := PaneScreen.new 3 },
    none, [], none⟩

theorem newPaneStart_isStart : newPaneStart.IsStart :=
  ⟨rfl, rfl, List.suffix_rfl⟩

theorem smallPaneStart_isStart : smallPaneStart.IsStart :=
  ⟨rfl, rfl, List.suffix_rfl⟩

/-- The theorem at the end of a reading with a batch between its two chunks. -/
theorem pages_are_whole_between_batches :
    ∃ s : ScrollbackPaging SampleParser SampleGrid,
      s.accepted = bytesOf "abcd" ∧
        s.reading = some ⟨4, bytesOf "abcd", ⟨0, 3⟩, some ⟨0, 4⟩⟩ ∧
        (⟨4, bytesOf "abcd", ⟨0, 3⟩, some ⟨0, 4⟩⟩ : Reading UInt8).Whole s.accepted ⟨0, 4⟩ := by
  obtain ⟨s, hreach, haccepted, hreading⟩ := System.exists_reachableUnder
    (S := system SampleParser SampleGrid) pagesInPlace
    [.takeScreen (bytesOf "abc"), .returnScreen, .firstPage 2,
      .takeScreen (bytesOf "d"), .returnScreen, .nextPage 10]
    (p := fun s => s.accepted = bytesOf "abcd" ∧
      s.reading = some ⟨4, bytesOf "abcd", ⟨0, 3⟩, some ⟨0, 4⟩⟩)
    newPaneStart_isStart (by decide +kernel)
  exact ⟨s, haccepted, hreading, pages_are_whole hreach _ _ hreading rfl⟩

/-- **Bytes are missing** in two runs.  The request of the first comes while a
batch is parsed, and the empty chunk it gets is the last.  In the second a batch
pushes a byte out between the two chunks, and a byte that was kept all along is
skipped. -/
theorem pages_are_not_whole :
    (∃ s : ScrollbackPaging SampleParser SampleGrid,
      (system SampleParser SampleGrid).Reachable s ∧
        s.accepted = bytesOf "abc" ∧
        s.reading = some ⟨0, [], ⟨0, 3⟩, some ⟨0, 3⟩⟩ ∧
        ¬ (⟨0, [], ⟨0, 3⟩, some ⟨0, 3⟩⟩ : Reading UInt8).Whole s.accepted ⟨0, 3⟩) ∧
      ∃ s : ScrollbackPaging SampleParser SampleGrid,
        (system SampleParser SampleGrid).Reachable s ∧
          s.accepted = bytesOf "abcd" ∧
          s.reading = some ⟨3, bytesOf "acd", ⟨0, 3⟩, some ⟨1, 4⟩⟩ ∧
          ¬ (⟨3, bytesOf "acd", ⟨0, 3⟩, some ⟨1, 4⟩⟩ : Reading UInt8).Whole s.accepted ⟨1, 4⟩ := by
  constructor
  · obtain ⟨s, hreach, haccepted, hreading⟩ := System.exists_reachable
      (S := system SampleParser SampleGrid)
      [.takeScreen (bytesOf "ab"), .returnScreen, .takeScreen (bytesOf "c"), .firstPage 10]
      (p := fun s => s.accepted = bytesOf "abc" ∧
        s.reading = some ⟨0, [], ⟨0, 3⟩, some ⟨0, 3⟩⟩)
      newPaneStart_isStart (by decide +kernel)
    refine ⟨s, hreach, haccepted, hreading, ?_⟩
    intro hwhole
    have hkept : (⟨0, 3⟩ : Span).Has 0 := ⟨Nat.le_refl 0, by decide⟩
    exact hwhole.received_ne_nil hkept hkept rfl
  · obtain ⟨s, hreach, haccepted, hreading⟩ := System.exists_reachable
      (S := system SampleParser SampleGrid)
      [.takeScreen (bytesOf "abc"), .returnScreen, .firstPage 1,
        .takeScreen (bytesOf "d"), .returnScreen, .nextPage 10]
      (p := fun s => s.accepted = bytesOf "abcd" ∧
        s.reading = some ⟨3, bytesOf "acd", ⟨0, 3⟩, some ⟨1, 4⟩⟩)
      smallPaneStart_isStart (by decide +kernel)
    refine ⟨s, hreach, haccepted, hreading, ?_⟩
    intro hwhole
    have hinfix := hwhole.isInfix
    rw [haccepted] at hinfix
    exact absurd hinfix (by decide +kernel)

end Runs

end ScrollbackPaging

end Paging

end Server
end Rttx
