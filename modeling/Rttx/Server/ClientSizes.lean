import Mathlib.Order.Lattice.Nat
import Rttx.Kernel.PendingWrites
import Rttx.Server.WorkspaceLifetime

/-!
# Panes shared by clients of different sizes

A client reports how large it renders panes.  The handler records the report
and resolves, under the server lock, the least size that anybody has reported
for each pane.  Without a lock it then resizes the panes' PTYs and records the
sizes in the workspace that the request names, one pane after the other.

The recorded reports are those of every client, attached to the workspace or
not: a detach leaves them, and a disconnect drops them without resolving sizes
again.

**Results.**
* `minClientPaneSize_eq_some_iff`: what is resolved is the least nonzero number
  of columns and of rows.
* `Settling.next`: in orderly runs every pane settles at the minimum over the
  clients attached to its workspace.
* `shared_size`: when no handler runs, that is its size.
* `size_not_shared`: a run for each way in which it is not.
* `isolated_iff`: when the handler reaches only panes of its workspace.
* `not_isolated`: a report that resizes a pane of another workspace.
-/

namespace Rttx
namespace Server

open Kernel

universe u v

section Request

/-- The rendering size of one pane on the wire. -/
structure PaneRenderSize where
  paneId : Bytes
  cols : Nat
  rows : Nat

structure ReportClientSize where
  runtimeId : Bytes
  panes : List PaneRenderSize

/-- A number as 16 bits, or zero if it does not fit. -/
def u16OrZero (n : Nat) : Nat :=
  if n < 2 ^ 16 then n else 0

/-- The sizes that a request reports. -/
def ReportClientSize.reported (req : ReportClientSize) : List (Uuid × (Nat × Nat)) :=
  req.panes.filterMap (fun p =>
    (bytesToUuid p.paneId).map (fun id => (id, (u16OrZero p.cols, u16OrZero p.rows))))

/-- The least nonzero number of columns and of rows. -/
def minClientPaneSize (sizes : List (Nat × Nat)) : Option (Nat × Nat) :=
  match sizes.foldl (fun m size => (takeMin m.1 size.1, takeMin m.2 size.2)) (none, none) with
  | (some cols, some rows) => some (cols, rows)
  | _ => none

/-- `size` is the componentwise minimum of the reports, zeros apart. -/
def IsMinSize (reports : Set (Nat × Nat)) (size : Nat × Nat) : Prop :=
  IsLeast {n | 0 < n ∧ ∃ x ∈ reports, x.1 = n} size.1 ∧
    IsLeast {n | 0 < n ∧ ∃ x ∈ reports, x.2 = n} size.2

theorem foldl_takeMin_pair (sizes : List (Nat × Nat)) (m : Option Nat × Option Nat) :
    sizes.foldl (fun m size => (takeMin m.1 size.1, takeMin m.2 size.2)) m =
      ((sizes.map Prod.fst).foldl takeMin m.1, (sizes.map Prod.snd).foldl takeMin m.2) := by
  induction sizes generalizing m with
  | nil => rfl
  | cons size rest ih => exact ih _

/-- What is resolved is the componentwise minimum. -/
theorem minClientPaneSize_eq_some_iff {sizes : List (Nat × Nat)} {size : Nat × Nat} :
    minClientPaneSize sizes = some size ↔ IsMinSize {x | x ∈ sizes} size := by
  obtain ⟨cols, rows⟩ := size
  have haxis : ∀ (axis : Nat × Nat → Nat) (n : Nat),
      leastNonzero (sizes.map axis) = some n ↔
        IsLeast {n | 0 < n ∧ ∃ x ∈ {x | x ∈ sizes}, axis x = n} n := by
    intro axis n
    rw [leastNonzero_eq_some_iff]
    have hset : {x | x ∈ sizes.map axis ∧ 0 < x} =
        {n | 0 < n ∧ ∃ x ∈ {x | x ∈ sizes}, axis x = n} := by
      ext x
      simp only [Set.mem_ofPred_eq, List.mem_map]
      exact and_comm
    rw [hset]
  unfold IsMinSize
  rw [← haxis Prod.fst cols, ← haxis Prod.snd rows, minClientPaneSize, foldl_takeMin_pair]
  simp only [leastNonzero]
  cases (sizes.map Prod.fst).foldl takeMin none with
  | none => simp
  | some c =>
      cases (sizes.map Prod.snd).foldl takeMin none with
      | none => simp
      | some r => simp

/-- Reports that are nonzero on both axes have a minimum. -/
theorem exists_isMinSize {reports : Set (Nat × Nat)}
    (hcols : ∃ x ∈ reports, 0 < x.1)
    (hrows : ∃ x ∈ reports, 0 < x.2) :
    ∃ size, IsMinSize reports size := by
  have haxis : ∀ axis : Nat × Nat → Nat, (∃ x ∈ reports, 0 < axis x) →
      ∃ n, IsLeast {n | 0 < n ∧ ∃ x ∈ reports, axis x = n} n := by
    rintro axis ⟨x, hx, hpos⟩
    have hne : {n | 0 < n ∧ ∃ x ∈ reports, axis x = n}.Nonempty := ⟨axis x, hpos, x, hx, rfl⟩
    exact ⟨_, Nat.sInf_mem hne, fun _ hn => Nat.sInf_le hn⟩
  obtain ⟨cols, hcols⟩ := haxis Prod.fst hcols
  obtain ⟨rows, hrows⟩ := haxis Prod.snd hrows
  exact ⟨(cols, rows), hcols, hrows⟩

/-- The minimum depends on which sizes there are only. -/
theorem minClientPaneSize_congr {sizes sizes' : List (Nat × Nat)}
    (h : ∀ x, x ∈ sizes ↔ x ∈ sizes') :
    minClientPaneSize sizes = minClientPaneSize sizes' := by
  have hset : {x | x ∈ sizes} = {x | x ∈ sizes'} := Set.ext h
  refine Option.ext (fun size => ?_)
  rw [minClientPaneSize_eq_some_iff, minClientPaneSize_eq_some_iff, hset]

end Request

namespace ServerState

section Handler

variable {P : Type u} {G : Type v}

/-- A registered workspace. -/
def registered (s : ServerState P G) (runtimeId : Uuid) : Option (Workspace P G) :=
  if runtimeId ∈ s.workspaces then s.objects.lookup runtimeId else none

def putWorkspace (s : ServerState P G) (runtimeId : Uuid) (w : Workspace P G) :
    ServerState P G :=
  { s with objects := s.objects.insert runtimeId w }

/-- The reported sizes of a pane. -/
def paneSizes (s : ServerState P G) (paneId : Uuid) : List (Nat × Nat) :=
  s.clientPaneSizes.values.filterMap (fun m => m.lookup paneId)

/-- Record what a client reports. -/
def recordSizes (s : ServerState P G) (clientId : Uuid)
    (reported : List (Uuid × (Nat × Nat))) : ServerState P G :=
  let entry := (s.clientPaneSizes.lookup clientId).getD ∅
  let entry := reported.foldl (fun m p => m.insert p.1 p.2) entry
  { s with clientPaneSizes := s.clientPaneSizes.insert clientId entry }

/-- The new size of each reported pane that has a PTY. -/
def resolveTargets (s : ServerState P G) (reported : List (Uuid × (Nat × Nat))) :
    List (Uuid × PtySize) :=
  reported.filterMap (fun p =>
    match minClientPaneSize (s.paneSizes p.1), s.ptyWriters.lookup p.1 with
    | some (cols, rows), some _ => some (p.1, ⟨cols, rows⟩)
    | _, _ => none)

/-- Phase 1 of the handler: the workspace it names, the panes it will resize, and
the state with the sizes recorded. -/
def reportClientSize (s : ServerState P G) (clientId : Uuid) (req : ReportClientSize) :
    Option (Uuid × List (Uuid × PtySize) × ServerState P G) :=
  match bytesToUuid req.runtimeId with
  | none => none
  | some runtimeId =>
      if req.reported = [] then
        none
      else
        match (s.registered runtimeId).bind (fun w => w.clientRole clientId) with
        | none => none
        | some _ =>
            let s := s.recordSizes clientId req.reported
            some (runtimeId, s.resolveTargets req.reported, s)

/-- Phase 2, for one pane: resize the PTY. -/
def resizePty (s : ServerState P G) (target : Uuid × PtySize) : ServerState P G :=
  { s with ptyWriters := s.ptyWriters.modify target.1 (fun _ => target.2) }

variable [VteParser P] [Vt100Parser G]

/-- Phase 2, for one pane: record the size in the workspace. -/
def recordPane (s : ServerState P G) (runtimeId : Uuid) (target : Uuid × PtySize) :
    ServerState P G :=
  match s.registered runtimeId with
  | none => s
  | some w => s.putWorkspace runtimeId (w.resizePane target.1 target.2.cols target.2.rows).2

end Handler

end ServerState

/-- A handler in its second phase: the panes it still has to resize, and whether
the PTY of the first one is done. -/
structure SizeHandler where
  runtimeId : Uuid
  targets : List (Uuid × PtySize)
  resized : Bool

/-- The daemon with the handlers of size reports that run, oldest first. -/
structure SizeState (P : Type u) (G : Type v) where
  server : ServerState P G
  handlers : List SizeHandler

inductive SizeStep (P : Type u) (G : Type v)
  | create (runtimeId : Uuid) (name : String) (now : Nat) (policy : WorkspacePolicy)
  | openPane (runtimeId : Uuid) (pane : Pane P G) (split : Option PaneSplitRequest)
  | closePane (runtimeId paneId : Uuid)
  | ptyExits (paneId : Uuid)
  | attach (clientId runtimeId : Uuid) (mode : AttachMode) (now : Nat)
  | report (clientId : Uuid) (req : ReportClientSize)
  | resizePty (index : Nat) (succeeds : Bool)
  | recordPane (index : Nat)
  | detach (clientId runtimeId : Uuid)
  | terminate (order : List Uuid) (runtimeId : Uuid) (finalRevision : Nat)
      (reason : TerminationReason) (exclude : Option Uuid)
  | disconnect (clientId : Uuid)
  | leave (clientId runtimeId : Uuid)

namespace SizeHandler

/-- The PTYs that are still to be resized. -/
def ptyWrites (h : SizeHandler) : List (Uuid × PtySize) :=
  if h.resized then h.targets.tail else h.targets

/-- The handler turns to the remaining panes, if there are any. -/
def goOn (runtimeId : Uuid) : List (Uuid × PtySize) → List SizeHandler
  | [] => []
  | targets => [⟨runtimeId, targets, false⟩]

end SizeHandler

namespace SizeState

section Steps

variable {P : Type u} {G : Type v}

def withServer (s : SizeState P G) (server : ServerState P G) : SizeState P G :=
  { s with server := server }

/-- What is left of a handler takes its place. -/
def replaceHandler (s : SizeState P G) (index : Nat) (left : List SizeHandler) :
    SizeState P G :=
  { s with handlers := s.handlers.take index ++ left ++ s.handlers.drop (index + 1) }

/-- Pane ids are minted. -/
def isMinted (s : SizeState P G) (paneId : Uuid) : Bool :=
  s.server.objects.values.all (fun w => (w.panes.lookup paneId).isNone) &&
    s.server.clientPaneSizes.values.all (fun m => (m.lookup paneId).isNone) &&
    s.handlers.all (fun h => h.targets.all (fun t => t.1 ≠ paneId))

variable [VteParser P] [Vt100Parser G]

/-- One step.  A client's cleanup has dropped its sizes before it leaves its
workspaces; the second half of a detach that ends a workspace is a
termination. -/
def next (s : SizeState P G) : SizeStep P G → Option (SizeState P G)
  | .create runtimeId name now policy =>
      if s.server.objects.lookup runtimeId = none then
        some (s.withServer
          { s.server.putWorkspace runtimeId
              { Workspace.new runtimeId name now with policy := policy } with
            workspaces := runtimeId :: s.server.workspaces })
      else
        none
  | .openPane runtimeId pane split =>
      if s.isMinted pane.id then
        (s.server.registered runtimeId).bind (fun w =>
          (LifetimeState.placeRequested w pane split).map (fun w =>
            s.withServer
              { s.server.putWorkspace runtimeId w with
                ptyWriters := s.server.ptyWriters.insert pane.id ⟨pane.cols, pane.rows⟩ }))
      else
        none
  | .closePane runtimeId paneId =>
      (s.server.registered runtimeId).map (fun w =>
        let server := s.server.putWorkspace runtimeId (w.removePane paneId).2
        if (w.panes.lookup paneId).isSome then
          s.withServer (server.killPane paneId)
        else
          s.withServer server)
  | .ptyExits paneId =>
      some (s.withServer { s.server with ptyWriters := s.server.ptyWriters.erase paneId })
  | .attach clientId runtimeId mode now =>
      (s.server.registered runtimeId).map (fun w =>
        s.withServer (s.server.putWorkspace runtimeId (w.attachClient clientId mode now).2))
  | .report clientId req =>
      match s.server.reportClientSize clientId req with
      | none => some s
      | some (runtimeId, targets, server) =>
          some ⟨server, s.handlers ++ SizeHandler.goOn runtimeId targets⟩
  | .resizePty index succeeds =>
      match s.handlers[index]? with
      | some ⟨runtimeId, target :: rest, false⟩ =>
          if succeeds then
            some ((s.withServer (s.server.resizePty target)).replaceHandler index
              [⟨runtimeId, target :: rest, true⟩])
          else
            some (s.replaceHandler index (SizeHandler.goOn runtimeId rest))
      | _ => none
  | .recordPane index =>
      match s.handlers[index]? with
      | some ⟨runtimeId, target :: rest, true⟩ =>
          some ((s.withServer (s.server.recordPane runtimeId target)).replaceHandler index
            (SizeHandler.goOn runtimeId rest))
      | _ => none
  | .detach clientId runtimeId =>
      (s.server.registered runtimeId).map (fun w =>
        s.withServer
          (s.server.putWorkspace runtimeId (w.detachClient clientId .explicitRequest).2))
  | .terminate order runtimeId finalRevision reason exclude =>
      some (s.withServer
        (s.server.terminateWorkspace order runtimeId finalRevision reason exclude).2)
  | .disconnect clientId =>
      some (s.withServer
        { s.server with clientPaneSizes := s.server.clientPaneSizes.erase clientId })
  | .leave clientId runtimeId =>
      if s.server.clientPaneSizes.lookup clientId = none then
        (s.server.objects.lookup runtimeId).map (fun w =>
          s.withServer
            (s.server.putWorkspace runtimeId (w.detachClient clientId .disconnect).2))
      else
        none

variable (P G) in
/-- A daemon without workspaces, clients and handlers. -/
def start : SizeState P G :=
  ⟨⟨∅, [], [], ∅, [], [], ∅, ∅, [], ∅, []⟩, []⟩

variable (P G) in
def system : System (SizeState P G) (SizeStep P G) where
  init := fun s => s = start P G
  next := next

end Steps

section Order

variable {P : Type u} {G : Type v}

/-- The sizes of a pane that some clients report. -/
def reportsOf (server : ServerState P G) (who : Uuid → Bool) (paneId : Uuid) :
    List (Nat × Nat) :=
  (server.clientPaneSizes.entries.filter (fun e => who e.1)).filterMap
    (fun e => e.2.lookup paneId)

/-- The minimum over the reports of some clients. -/
def minimum (server : ServerState P G) (who : Uuid → Bool) (paneId : Uuid) :
    Option (Nat × Nat) :=
  minClientPaneSize (reportsOf server who paneId)

def attachedTo (w : Workspace P G) (clientId : Uuid) : Bool :=
  (w.clientRole clientId).isSome

/-- With other clients attached, each pane of the workspace has the same minimum
or none. -/
def keepsMinimum (server : ServerState P G) (w : Workspace P G) (who : Uuid → Bool) : Bool :=
  w.panes.keys.all (fun k =>
    (minimum server who k).isNone || minimum server who k = minimum server (attachedTo w) k)

/-- The workspace would keep its minima without the client. -/
def keepsWithout (server : ServerState P G) (clientId runtimeId : Uuid) : Bool :=
  (server.registered runtimeId).all (fun w =>
    keepsMinimum server w (fun c => attachedTo w c && c ≠ clientId))

/-- A reported pane, wherever it is, is one of the workspace that the request
names; its PTY is there, and the resolved size is the minimum over those who are
attached. -/
def reportFits (server : ServerState P G) (runtimeId paneId : Uuid) : Bool :=
  server.workspaces.all (fun o =>
    (server.registered o).all (fun w =>
      (w.panes.lookup paneId).isNone ||
        (o = runtimeId && ((minimum server (attachedTo w) paneId).isNone ||
          ((server.ptyWriters.lookup paneId).isSome &&
            minClientPaneSize (server.paneSizes paneId) =
              minimum server (attachedTo w) paneId)))))

/-- The first pane of the handler is not one that an older handler still has to
resize. -/
def isNext (writes : SizeHandler → List (Uuid × PtySize)) (s : SizeState P G) (index : Nat) :
    Bool :=
  (s.handlers[index]?).all (fun h =>
    h.targets.head?.all (fun t =>
      ((s.handlers.take index).flatMap writes).all (fun older => older.1 ≠ t.1)))

/-- Reports name panes of their workspace and meet no report of a client that is
not attached; handlers that resize a pane do so in the order in which they
resolved its size, and succeed; nobody comes or goes who changes a minimum. -/
def orderly (s : SizeState P G) : SizeStep P G → Bool
  | .attach clientId runtimeId mode now =>
      (s.server.registered runtimeId).all (fun w =>
        keepsMinimum s.server w (attachedTo (w.attachClient clientId mode now).2))
  | .detach clientId runtimeId => keepsWithout s.server clientId runtimeId
  | .disconnect clientId => s.server.workspaces.all (keepsWithout s.server clientId)
  | .report clientId req =>
      match s.server.reportClientSize clientId req with
      | none => true
      | some (runtimeId, _, server) =>
          req.reported.all (fun p => reportFits server runtimeId p.1)
  | .resizePty index succeeds => succeeds && s.isNext SizeHandler.ptyWrites index
  | .recordPane index => s.isNext SizeHandler.targets index
  | _ => true

end Order

section Minima

variable {P : Type u} {G : Type v}

theorem mem_reportsOf {server : ServerState P G} {who : Uuid → Bool} {k : Uuid}
    {x : Nat × Nat} :
    x ∈ reportsOf server who k ↔
      ∃ c m, server.clientPaneSizes.lookup c = some m ∧ who c = true ∧ m.lookup k = some x := by
  simp only [reportsOf, List.mem_filterMap, List.mem_filter]
  constructor
  · rintro ⟨e, ⟨he, hwho⟩, hx⟩
    exact ⟨e.1, e.2, (HashMap.lookup_eq_some_iff_mem _ _ _).mpr he, hwho, hx⟩
  · rintro ⟨c, m, hm, hwho, hx⟩
    exact ⟨⟨c, m⟩, ⟨(HashMap.lookup_eq_some_iff_mem _ _ _).mp hm, hwho⟩, hx⟩

/-- The minimum depends on the reports that count only. -/
theorem minimum_congr {server server' : ServerState P G} {who who' : Uuid → Bool} {k : Uuid}
    (h : ∀ x,
      (∃ c m, server.clientPaneSizes.lookup c = some m ∧ who c = true ∧ m.lookup k = some x) ↔
        ∃ c m, server'.clientPaneSizes.lookup c = some m ∧ who' c = true ∧
          m.lookup k = some x) :
    minimum server who k = minimum server' who' k := by
  refine minClientPaneSize_congr (fun x => ?_)
  rw [mem_reportsOf, mem_reportsOf]
  exact h x

theorem minimum_of_who {server server' : ServerState P G} {who who' : Uuid → Bool}
    (hsizes : server'.clientPaneSizes = server.clientPaneSizes)
    (hwho : ∀ c, who' c = who c)
    (k : Uuid) :
    minimum server' who' k = minimum server who k := by
  refine minimum_congr (fun x => ?_)
  rw [hsizes]
  exact exists_congr fun c => exists_congr fun m => by rw [hwho c]

/-- Nobody has reported a size for the pane. -/
theorem minimum_eq_none {server : ServerState P G} {who : Uuid → Bool} {k : Uuid}
    (h : ∀ c m, server.clientPaneSizes.lookup c = some m → m.lookup k = none) :
    minimum server who k = none := by
  have hnil : reportsOf server who k = [] := by
    refine List.eq_nil_iff_forall_not_mem.mpr (fun x hx => ?_)
    obtain ⟨c, m, hm, _, hk⟩ := mem_reportsOf.mp hx
    rw [h c m hm] at hk
    cases hk
  rw [minimum, hnil]
  rfl

theorem lookup_foldl_insert_of_not_mem {reported : List (Uuid × (Nat × Nat))} {k : Uuid}
    (h : ∀ p ∈ reported, p.1 ≠ k)
    (m : HashMap Uuid (Nat × Nat)) :
    (reported.foldl (fun m p => m.insert p.1 p.2) m).lookup k = m.lookup k := by
  induction reported generalizing m with
  | nil => rfl
  | cons p rest ih =>
      rw [List.foldl_cons, ih (fun q hq => h q (List.mem_cons_of_mem _ hq))]
      exact AList.lookup_insert_ne (h p List.mem_cons_self).symm

/-- A report changes the minima of the reported panes only. -/
theorem minimum_recordSizes {reported : List (Uuid × (Nat × Nat))} {k : Uuid}
    (h : ∀ p ∈ reported, p.1 ≠ k)
    (server : ServerState P G)
    (clientId : Uuid)
    (who : Uuid → Bool) :
    minimum (server.recordSizes clientId reported) who k = minimum server who k := by
  refine minimum_congr (fun x => ?_)
  have hentry := lookup_foldl_insert_of_not_mem h
    ((server.clientPaneSizes.lookup clientId).getD ∅)
  constructor
  · rintro ⟨c, m, hm, hwho, hx⟩
    rcases HashMap.lookup_insert_cases hm with ⟨rfl, rfl⟩ | ⟨_, hm⟩
    · rw [hentry] at hx
      cases hold : server.clientPaneSizes.lookup c with
      | none => simp [hold, AList.lookup_empty] at hx
      | some old => exact ⟨c, old, hold, hwho, by simpa [hold] using hx⟩
    · exact ⟨c, m, hm, hwho, hx⟩
  · rintro ⟨c, m, hm, hwho, hx⟩
    by_cases hc : c = clientId
    · subst hc
      refine ⟨c, _, AList.lookup_insert _, hwho, ?_⟩
      rw [hentry, hm]
      exact hx
    · exact ⟨c, m, (AList.lookup_insert_ne hc).trans hm, hwho, hx⟩

end Minima

section Invariant

variable {P : Type u} {G : Type v}

/-- The PTYs that the handlers still have to resize, in order. -/
def ptyWrites (s : SizeState P G) : List (Uuid × PtySize) :=
  s.handlers.flatMap SizeHandler.ptyWrites

/-- The sizes they still have to record. -/
def recordWrites (s : SizeState P G) : List (Uuid × PtySize) :=
  s.handlers.flatMap SizeHandler.targets

/-- **Invariant.** A handler has panes of its own workspace only, and every pane
with a minimum settles at it. -/
structure Settling (s : SizeState P G) : Prop where
  own : ∀ h ∈ s.handlers, ∀ t ∈ h.targets, ∀ o w, s.server.registered o = some w →
    (w.panes.lookup t.1).isSome = true → o = h.runtimeId
  recorded : ∀ o w k pane size, s.server.registered o = some w →
    w.panes.lookup k = some pane → minimum s.server (attachedTo w) k = some size →
    settles s.recordWrites k ⟨pane.cols, pane.rows⟩ = ⟨size.1, size.2⟩
  resized : ∀ o w k pane size, s.server.registered o = some w →
    w.panes.lookup k = some pane → minimum s.server (attachedTo w) k = some size →
    ∀ pty, s.server.ptyWriters.lookup k = some pty →
      settles s.ptyWrites k pty = ⟨size.1, size.2⟩

/-- A pane was there before with the same size, its PTY too, and its minimum is
the same or gone; or it is new and nobody knows of it. -/
def Kept (s : SizeState P G) (server : ServerState P G) (o : Uuid) (w : Workspace P G)
    (k : Uuid) (pane : Pane P G) : Prop :=
  (∃ w₀ pane₀, s.server.registered o = some w₀ ∧ w₀.panes.lookup k = some pane₀ ∧
      pane₀.cols = pane.cols ∧ pane₀.rows = pane.rows ∧
      (∀ pty, server.ptyWriters.lookup k = some pty →
        s.server.ptyWriters.lookup k = some pty) ∧
      ∀ size, minimum server (attachedTo w) k = some size →
        minimum s.server (attachedTo w₀) k = some size) ∨
    (minimum server (attachedTo w) k = none ∧
      ∀ h ∈ s.handlers, ∀ t ∈ h.targets, t.1 ≠ k)

/-- A step that no handler takes. -/
theorem Settling.of_kept {s : SizeState P G} {server : ServerState P G}
    (h : s.Settling)
    (hkept : ∀ o w k pane, server.registered o = some w → w.panes.lookup k = some pane →
      s.Kept server o w k pane) :
    (s.withServer server).Settling := by
  refine ⟨?_, ?_, ?_⟩
  · intro hd hhd t ht o w hw hpane
    obtain ⟨pane, hpane⟩ := Option.isSome_iff_exists.mp hpane
    rcases hkept o w t.1 pane hw hpane with ⟨w₀, pane₀, hw₀, hpane₀, _⟩ | ⟨_, hnew⟩
    · exact h.own hd hhd t ht o w₀ hw₀ (by rw [hpane₀]; rfl)
    · exact absurd rfl (hnew hd hhd t ht)
  · intro o w k pane size hw hpane hmin
    rcases hkept o w k pane hw hpane with
      ⟨w₀, pane₀, hw₀, hpane₀, hcols, hrows, _, hmin₀⟩ | ⟨hnone, _⟩
    · have hsettles := h.recorded o w₀ k pane₀ size hw₀ hpane₀ (hmin₀ size hmin)
      rw [hcols, hrows] at hsettles
      exact hsettles
    · rw [show minimum server (attachedTo w) k = some size from hmin] at hnone
      cases hnone
  · intro o w k pane size hw hpane hmin pty hpty
    rcases hkept o w k pane hw hpane with
      ⟨w₀, pane₀, hw₀, hpane₀, _, _, hptys, hmin₀⟩ | ⟨hnone, _⟩
    · exact h.resized o w₀ k pane₀ size hw₀ hpane₀ (hmin₀ size hmin) pty (hptys pty hpty)
    · rw [show minimum server (attachedTo w) k = some size from hmin] at hnone
      cases hnone

theorem registered_eq_some {server : ServerState P G} {o : Uuid} {w : Workspace P G}
    (h : server.registered o = some w) :
    o ∈ server.workspaces ∧ server.objects.lookup o = some w := by
  simpa [ServerState.registered] using h

theorem registered_of_mem {server : ServerState P G} {o : Uuid} {w : Workspace P G}
    (hreg : o ∈ server.workspaces)
    (hlook : server.objects.lookup o = some w) :
    server.registered o = some w := by
  rw [ServerState.registered, if_pos hreg, hlook]

theorem registered_put_cases {server : ServerState P G} {runtimeId o : Uuid}
    {w w' : Workspace P G}
    (h : (server.putWorkspace runtimeId w').registered o = some w) :
    (o = runtimeId ∧ w = w' ∧ o ∈ server.workspaces) ∨
      (o ≠ runtimeId ∧ server.registered o = some w) := by
  obtain ⟨hreg, hlook⟩ := registered_eq_some h
  rcases HashMap.lookup_insert_cases hlook with ⟨ho, hw⟩ | ⟨ho, hlook⟩
  · exact Or.inl ⟨ho, hw, hreg⟩
  · exact Or.inr ⟨ho, registered_of_mem hreg hlook⟩

/-- A pane of a workspace that the step does not touch. -/
theorem Kept.of_same {s : SizeState P G} {server : ServerState P G} {o : Uuid}
    {w : Workspace P G} {k : Uuid} {pane : Pane P G}
    (hw : s.server.registered o = some w)
    (hpane : w.panes.lookup k = some pane)
    (hsizes : server.clientPaneSizes = s.server.clientPaneSizes)
    (hptys : ∀ pty, server.ptyWriters.lookup k = some pty →
      s.server.ptyWriters.lookup k = some pty) :
    s.Kept server o w k pane := by
  refine Or.inl ⟨w, pane, hw, hpane, rfl, rfl, hptys, fun size hmin => ?_⟩
  rw [← hmin]
  exact (minimum_of_who hsizes (fun _ => rfl) k).symm

/-- A step that changes who is attached to a workspace, or takes a pane from it. -/
theorem Settling.put {s : SizeState P G} {runtimeId : Uuid} {w₀ w' : Workspace P G}
    (h : s.Settling)
    (hw₀ : s.server.objects.lookup runtimeId = some w₀)
    (hpanes : ∀ k pane, w'.panes.lookup k = some pane → w₀.panes.lookup k = some pane)
    (hmin : ∀ k pane size, w₀.panes.lookup k = some pane →
      minimum s.server (attachedTo w') k = some size →
      minimum s.server (attachedTo w₀) k = some size) :
    (s.withServer (s.server.putWorkspace runtimeId w')).Settling := by
  refine h.of_kept (fun o w k pane hw hpane => ?_)
  rcases registered_put_cases hw with ⟨rfl, rfl, hreg⟩ | ⟨_, hw⟩
  · have hpane₀ := hpanes k pane hpane
    exact Or.inl ⟨w₀, pane, registered_of_mem hreg hw₀, hpane₀, rfl, rfl, fun _ hpty => hpty,
      fun size hsize => hmin k pane size hpane₀ hsize⟩
  · exact Kept.of_same hw hpane rfl (fun _ hpty => hpty)

theorem minimum_of_keeps {server : ServerState P G} {w : Workspace P G} {who : Uuid → Bool}
    {k : Uuid} {pane : Pane P G} {size : Nat × Nat}
    (h : keepsMinimum server w who = true)
    (hpane : w.panes.lookup k = some pane)
    (hmin : minimum server who k = some size) :
    minimum server (attachedTo w) k = some size := by
  have hkey : k ∈ w.panes.keys := AList.lookup_isSome.mp (by rw [hpane]; rfl)
  have hkeeps := List.all_eq_true.mp h k hkey
  rw [Bool.or_eq_true, decide_eq_true_eq] at hkeeps
  rcases hkeeps with hnone | hsame
  · rw [hmin] at hnone
    cases hnone
  · rw [← hsame, hmin]

theorem attachedTo_detachClient (w : Workspace P G) (clientId : Uuid) (reason : DetachReason)
    (c : Uuid) :
    attachedTo (w.detachClient clientId reason).2 c = (attachedTo w c && c ≠ clientId) := by
  by_cases hc : c = clientId
  · subst hc
    rcases w.detachClient_cases c reason with ⟨hnone, hres⟩ | ⟨_, hres⟩
    · rw [hres]
      simp [attachedTo, hnone]
    · have hnone : (w.detachClient c reason).2.clientRole c = none := by
        rw [hres]
        exact AList.lookup_erase _ _
      simp [attachedTo, hnone]
  · simp [attachedTo, Workspace.clientRole_detachClient hc, hc]

theorem Settling.detach {s : SizeState P G} {clientId runtimeId : Uuid} {w : Workspace P G}
    (h : s.Settling)
    (hw : s.server.registered runtimeId = some w)
    (hok : keepsWithout s.server clientId runtimeId = true)
    (reason : DetachReason) :
    (s.withServer
      (s.server.putWorkspace runtimeId (w.detachClient clientId reason).2)).Settling := by
  have hlook := (registered_eq_some hw).2
  have hkeeps : keepsMinimum s.server w (fun c => attachedTo w c && c ≠ clientId) = true := by
    simpa [keepsWithout, hw] using hok
  refine h.put hlook ?_ ?_
  · intro k pane hpane
    rw [(w.detachClient_effect clientId reason).panes] at hpane
    exact hpane
  · intro k pane size hpane hmin
    refine minimum_of_keeps hkeeps hpane ?_
    rw [← hmin]
    exact (minimum_of_who rfl (attachedTo_detachClient w clientId reason) k).symm

/-- A client without reports leaves a workspace. -/
theorem Settling.leave {s : SizeState P G} {clientId runtimeId : Uuid} {w : Workspace P G}
    (h : s.Settling)
    (hlook : s.server.objects.lookup runtimeId = some w)
    (hnone : s.server.clientPaneSizes.lookup clientId = none) :
    (s.withServer
      (s.server.putWorkspace runtimeId (w.detachClient clientId .disconnect).2)).Settling := by
  refine h.put hlook ?_ ?_
  · intro k pane hpane
    rw [(w.detachClient_effect clientId .disconnect).panes] at hpane
    exact hpane
  · intro k pane size _ hmin
    rw [← hmin]
    refine minimum_congr (fun x => ?_)
    refine exists_congr fun c => exists_congr fun m => and_congr_right fun hm => ?_
    have hne : c ≠ clientId := by
      rintro rfl
      rw [hnone] at hm
      cases hm
    simp [attachedTo_detachClient, hne]

/-- A client's reports are dropped. -/
theorem Settling.disconnect {s : SizeState P G} {clientId : Uuid}
    (h : s.Settling)
    (hok : s.server.workspaces.all (keepsWithout s.server clientId) = true) :
    (s.withServer { s.server with
      clientPaneSizes := s.server.clientPaneSizes.erase clientId }).Settling := by
  refine h.of_kept (fun o w k pane hw hpane => ?_)
  refine Or.inl ⟨w, pane, hw, hpane, rfl, rfl, fun _ hpty => hpty, fun size hmin => ?_⟩
  have hregistered : s.server.registered o = some w := hw
  have hreg := (registered_eq_some hregistered).1
  have hkeeps : keepsMinimum s.server w (fun c => attachedTo w c && c ≠ clientId) = true := by
    have hall := List.all_eq_true.mp hok o hreg
    simpa [keepsWithout, hregistered] using hall
  refine minimum_of_keeps hkeeps hpane ?_
  rw [← hmin]
  refine minimum_congr (fun x => ?_)
  refine exists_congr fun c => exists_congr fun m => ?_
  rw [HashMap.lookup_erase_eq]
  by_cases hc : c = clientId
  · simp [hc]
  · simp [hc]

end Invariant

section Handlers

variable {P : Type u} {G : Type v}

@[simp] theorem flatMap_targets_goOn (runtimeId : Uuid) (targets : List (Uuid × PtySize)) :
    (SizeHandler.goOn runtimeId targets).flatMap SizeHandler.targets = targets := by
  cases targets <;> simp [SizeHandler.goOn]

@[simp] theorem flatMap_ptyWrites_goOn (runtimeId : Uuid) (targets : List (Uuid × PtySize)) :
    (SizeHandler.goOn runtimeId targets).flatMap SizeHandler.ptyWrites = targets := by
  cases targets <;> simp [SizeHandler.goOn, SizeHandler.ptyWrites]

theorem flatMap_ptyWrites_resized (runtimeId : Uuid) (target : Uuid × PtySize)
    (rest : List (Uuid × PtySize)) :
    [(⟨runtimeId, target :: rest, true⟩ : SizeHandler)].flatMap SizeHandler.ptyWrites = rest := by
  simp [SizeHandler.ptyWrites]

theorem goOn_own {runtimeId : Uuid} {targets : List (Uuid × PtySize)} {h : SizeHandler}
    (hmem : h ∈ SizeHandler.goOn runtimeId targets) :
    h.runtimeId = runtimeId ∧ h.targets = targets := by
  cases targets with
  | nil => cases hmem
  | cons t rest =>
      rw [List.mem_singleton.mp hmem]
      exact ⟨rfl, rfl⟩

/-- What is resolved for a pane. -/
theorem mem_resolveTargets {server : ServerState P G} {reported : List (Uuid × (Nat × Nat))}
    {k : Uuid} {x : PtySize} :
    (k, x) ∈ server.resolveTargets reported ↔
      (∃ p ∈ reported, p.1 = k) ∧ minClientPaneSize (server.paneSizes k) = some (x.cols, x.rows) ∧
        (server.ptyWriters.lookup k).isSome = true := by
  simp only [ServerState.resolveTargets, List.mem_filterMap]
  constructor
  · rintro ⟨p, hp, htarget⟩
    split at htarget
    · next cols rows pty hmin hpty =>
      obtain ⟨rfl, rfl⟩ := Prod.mk.inj (Option.some.inj htarget)
      exact ⟨⟨p, hp, rfl⟩, hmin, by rw [hpty]; rfl⟩
    · cases htarget
  · rintro ⟨⟨p, hp, rfl⟩, hmin, hpty⟩
    obtain ⟨pty, hpty⟩ := Option.isSome_iff_exists.mp hpty
    exact ⟨p, hp, by rw [hmin, hpty]⟩

/-- What phase 1 resolved. -/
theorem reportClientSize_eq_some {server server' : ServerState P G} {clientId runtimeId : Uuid}
    {req : ReportClientSize} {targets : List (Uuid × PtySize)}
    (h : server.reportClientSize clientId req = some (runtimeId, targets, server')) :
    bytesToUuid req.runtimeId = some runtimeId ∧
      (∃ w, server.registered runtimeId = some w ∧ (w.clientRole clientId).isSome = true) ∧
      server' = server.recordSizes clientId req.reported ∧
      targets = server'.resolveTargets req.reported := by
  unfold ServerState.reportClientSize at h
  split at h
  · cases h
  · next id hid =>
    split at h
    · cases h
    · split at h
      · cases h
      · next role hrole =>
        obtain ⟨w, hw, hrole⟩ := Option.bind_eq_some_iff.mp hrole
        simp only [Option.some.injEq, Prod.mk.injEq] at h
        obtain ⟨rfl, rfl, rfl⟩ := h
        exact ⟨hid, ⟨w, hw, by rw [hrole]; rfl⟩, rfl, rfl⟩

/-- A report: the panes it names settle at the new minimum. -/
theorem Settling.report {s : SizeState P G} {server : ServerState P G}
    {clientId runtimeId : Uuid} {req : ReportClientSize} {targets : List (Uuid × PtySize)}
    (h : s.Settling)
    (hreport : s.server.reportClientSize clientId req = some (runtimeId, targets, server))
    (hok : req.reported.all (fun p => reportFits server runtimeId p.1) = true) :
    (⟨server, s.handlers ++ SizeHandler.goOn runtimeId targets⟩ : SizeState P G).Settling := by
  obtain ⟨_, _, hserver, htargets⟩ := reportClientSize_eq_some hreport
  have hregistered : server.registered = s.server.registered := by rw [hserver]; rfl
  have hptys : server.ptyWriters = s.server.ptyWriters := by rw [hserver]; rfl
  have hfits : ∀ p ∈ req.reported, ∀ o w, server.registered o = some w →
      (w.panes.lookup p.1).isSome = true → o = runtimeId ∧
        ∀ size, minimum server (attachedTo w) p.1 = some size →
          (p.1, (⟨size.1, size.2⟩ : PtySize)) ∈ targets := by
    intro p hp o w hw hpane
    have hall := List.all_eq_true.mp (List.all_eq_true.mp hok p hp) o (registered_eq_some hw).1
    simp only [hw, Option.all_some, Bool.or_eq_true, Bool.and_eq_true, decide_eq_true_eq,
      Option.isNone_iff_eq_none] at hall
    rcases hall with hnone | ⟨ho, hmin⟩
    · rw [hnone] at hpane
      cases hpane
    · refine ⟨ho, fun size hsize => ?_⟩
      rcases hmin with hnone | ⟨hpty, hsame⟩
      · rw [hsize] at hnone
        cases hnone
      · rw [htargets]
        exact mem_resolveTargets.mpr ⟨⟨p, hp, rfl⟩, hsame.trans hsize, hpty⟩
  have hreported : ∀ t ∈ targets, ∃ p ∈ req.reported, p.1 = t.1 := by
    intro t ht
    rw [htargets] at ht
    exact (mem_resolveTargets.mp ht).1
  have hagree : ∀ (k : Uuid) (x y : PtySize), (k, x) ∈ targets → (k, y) ∈ targets → y = x := by
    intro k x y hx hy
    rw [htargets] at hx hy
    have hxmin := (mem_resolveTargets.mp hx).2.1
    have hymin := (mem_resolveTargets.mp hy).2.1
    rw [hxmin, Option.some.injEq, Prod.mk.injEq] at hymin
    obtain ⟨xc, xr⟩ := x
    obtain ⟨yc, yr⟩ := y
    simp only at hymin
    rw [hymin.1, hymin.2]
  -- a pane that is not reported keeps its minimum, and no new write reaches it
  have hnew : ∀ o w k pane size (writes : List (Uuid × PtySize)) (v : PtySize),
      server.registered o = some w → w.panes.lookup k = some pane →
      minimum server (attachedTo w) k = some size →
      (minimum s.server (attachedTo w) k = some size →
        settles writes k v = ⟨size.1, size.2⟩) →
      settles (writes ++ targets) k v = ⟨size.1, size.2⟩ := by
    intro o w k pane size writes v hw hpane hmin hold
    rw [settles_append]
    by_cases hin : ∃ p ∈ req.reported, p.1 = k
    · obtain ⟨p, hp, rfl⟩ := hin
      have hmem := (hfits p hp o w hw (by rw [hpane]; rfl)).2 size hmin
      exact settles_of_agree hmem (fun y hy => hagree _ _ _ hmem hy) _
    · have hout : ∀ p ∈ req.reported, p.1 ≠ k := fun p hp heq => hin ⟨p, hp, heq⟩
      rw [hserver, minimum_recordSizes hout] at hmin
      have hnot : ∀ t ∈ targets, t.1 ≠ k := by
        intro t ht heq
        obtain ⟨p, hp, hpk⟩ := hreported t ht
        exact hout p hp (hpk.trans heq)
      rw [hold hmin]
      exact settles_of_not_mem hnot _
  refine ⟨?_, ?_, ?_⟩
  · intro hd hhd t ht o w hw hpane
    rcases List.mem_append.mp hhd with hhd | hhd
    · exact h.own hd hhd t ht o w (by rw [← hregistered]; exact hw) hpane
    · obtain ⟨hrun, htargets⟩ := goOn_own hhd
      rw [htargets] at ht
      obtain ⟨p, hp, hpk⟩ := hreported t ht
      rw [hrun]
      exact (hfits p hp o w hw (by rw [hpk]; exact hpane)).1
  · intro o w k pane size hw hpane hmin
    have hlast := hnew o w k pane size s.recordWrites ⟨pane.cols, pane.rows⟩ hw hpane hmin
      (fun hmin₀ => h.recorded o w k pane size (by rw [← hregistered]; exact hw) hpane hmin₀)
    simpa [recordWrites] using hlast
  · intro o w k pane size hw hpane hmin pty hpty
    have hlast := hnew o w k pane size s.ptyWrites pty hw hpane hmin
      (fun hmin₀ => h.resized o w k pane size (by rw [← hregistered]; exact hw) hpane hmin₀ pty
        (by rw [← hptys]; exact hpty))
    simpa [ptyWrites] using hlast

/-- A handler in its place among the others. -/
theorem handlers_split {s : SizeState P G} {index : Nat} {hd : SizeHandler}
    (h : s.handlers[index]? = some hd) :
    s.handlers = s.handlers.take index ++ hd :: s.handlers.drop (index + 1) := by
  obtain ⟨hlt, hget⟩ := List.getElem?_eq_some_iff.mp h
  rw [← hget, ← List.drop_eq_getElem_cons hlt, List.take_append_drop]

theorem writes_split {s : SizeState P G} {index : Nat} {hd : SizeHandler}
    (h : s.handlers[index]? = some hd)
    (writes : SizeHandler → List (Uuid × PtySize)) :
    s.handlers.flatMap writes =
      (s.handlers.take index).flatMap writes ++
        (writes hd ++ (s.handlers.drop (index + 1)).flatMap writes) := by
  have hsplit := congrArg (List.flatMap writes) (handlers_split h)
  rw [List.flatMap_append, List.flatMap_cons] at hsplit
  exact hsplit

theorem writes_replaceHandler (s : SizeState P G) (index : Nat) (left : List SizeHandler)
    (writes : SizeHandler → List (Uuid × PtySize)) :
    (s.replaceHandler index left).handlers.flatMap writes =
      (s.handlers.take index).flatMap writes ++
        (left.flatMap writes ++ (s.handlers.drop (index + 1)).flatMap writes) := by
  simp [replaceHandler]

/-- No older handler is about to write to the same pane. -/
theorem older_of_isNext {s : SizeState P G} {writes : SizeHandler → List (Uuid × PtySize)}
    {index : Nat} {runtimeId : Uuid} {target : Uuid × PtySize} {rest : List (Uuid × PtySize)}
    {resized : Bool}
    (h : s.isNext writes index = true)
    (hget : s.handlers[index]? = some ⟨runtimeId, target :: rest, resized⟩) :
    ∀ older ∈ (s.handlers.take index).flatMap writes, older.1 ≠ target.1 := by
  have hall : ((s.handlers.take index).flatMap writes).all
      (fun older => older.1 ≠ target.1) = true := by
    simpa only [isNext, hget, Option.all_some, List.head?_cons] using h
  intro older hmem
  simpa using List.all_eq_true.mp hall older hmem

/-- What is left of a handler has panes of its own workspace. -/
theorem Settling.own_replace {s : SizeState P G} {server : ServerState P G} {index : Nat}
    {hd : SizeHandler} {left : List SizeHandler}
    (h : s.Settling)
    (hget : s.handlers[index]? = some hd)
    (hleft : ∀ x ∈ left, x.runtimeId = hd.runtimeId ∧ ∀ t ∈ x.targets, t ∈ hd.targets)
    (hpanes : ∀ o w k, server.registered o = some w → (w.panes.lookup k).isSome = true →
      ∃ w₀, s.server.registered o = some w₀ ∧ (w₀.panes.lookup k).isSome = true) :
    ∀ x ∈ ((s.withServer server).replaceHandler index left).handlers, ∀ t ∈ x.targets,
      ∀ o w, server.registered o = some w → (w.panes.lookup t.1).isSome = true →
        o = x.runtimeId := by
  intro x hx t ht o w hw hpane
  obtain ⟨w₀, hw₀, hpane₀⟩ := hpanes o w t.1 hw hpane
  simp only [replaceHandler, withServer, List.mem_append] at hx
  rcases hx with (hx | hx) | hx
  · exact h.own x (List.mem_of_mem_take hx) t ht o w₀ hw₀ hpane₀
  · obtain ⟨hrun, hsub⟩ := hleft x hx
    rw [hrun]
    exact h.own hd (List.mem_of_getElem? hget) t (hsub t ht) o w₀ hw₀ hpane₀
  · exact h.own x (List.mem_of_mem_drop hx) t ht o w₀ hw₀ hpane₀

/-- A handler resizes a PTY. -/
theorem Settling.resizePty {s : SizeState P G} {index : Nat} {runtimeId : Uuid}
    {target : Uuid × PtySize} {rest : List (Uuid × PtySize)}
    (h : s.Settling)
    (hget : s.handlers[index]? = some ⟨runtimeId, target :: rest, false⟩)
    (hnext : s.isNext SizeHandler.ptyWrites index = true) :
    ((s.withServer (s.server.resizePty target)).replaceHandler index
      [⟨runtimeId, target :: rest, true⟩]).Settling := by
  have holder := older_of_isNext hnext hget
  refine ⟨?_, ?_, ?_⟩
  · refine h.own_replace hget ?_ (fun o w k hw hpane => ⟨w, hw, hpane⟩)
    intro x hx
    rw [List.mem_singleton.mp hx]
    exact ⟨rfl, fun t ht => ht⟩
  · intro o w k pane size hw hpane hmin
    have hold := h.recorded o w k pane size hw hpane hmin
    rw [recordWrites, writes_split hget] at hold
    rw [recordWrites, writes_replaceHandler]
    simpa [withServer] using hold
  · intro o w k pane size hw hpane hmin pty hpty
    obtain ⟨old, hold, hpty⟩ : ∃ old, s.server.ptyWriters.lookup k = some old ∧
        pty = if target.1 = k then target.2 else old := by
      have hlook : (s.server.ptyWriters.modify target.1 (fun _ => target.2)).lookup k =
          some pty := hpty
      rw [HashMap.lookup_modify] at hlook
      by_cases hk : k = target.1
      · rw [if_pos hk] at hlook
        obtain ⟨old, hold, hnew⟩ := Option.map_eq_some_iff.mp hlook
        exact ⟨old, hold, by rw [if_pos hk.symm]; exact hnew.symm⟩
      · rw [if_neg hk] at hlook
        exact ⟨pty, hlook, by rw [if_neg (fun heq => hk heq.symm)]⟩
    have hsettles := h.resized o w k pane size hw hpane hmin old hold
    rw [ptyWrites, writes_split hget] at hsettles
    rw [ptyWrites, writes_replaceHandler, hpty, flatMap_ptyWrites_resized]
    exact (settles_carry holder k old).trans hsettles

variable [VteParser P] [Vt100Parser G]

theorem lookup_resizePane (w : Workspace P G) (paneId k : Uuid) (cols rows : Nat) :
    ∃ update : Pane P G → Pane P G, (∀ pane, (update pane).cols = cols ∧
        (update pane).rows = rows) ∧
      (w.resizePane paneId cols rows).2.panes.lookup k =
        if k = paneId then (w.panes.lookup paneId).map update else w.panes.lookup k :=
  ⟨_, fun _ => ⟨rfl, rfl⟩, Workspace.lookup_updatePane w paneId k _ _⟩

/-- The panes after a size was recorded. -/
theorem recordPane_cases {server : ServerState P G} {runtimeId o k : Uuid}
    {target : Uuid × PtySize} {w : Workspace P G} {pane : Pane P G}
    (hw : (server.recordPane runtimeId target).registered o = some w)
    (hpane : w.panes.lookup k = some pane) :
    ∃ w₀ pane₀, server.registered o = some w₀ ∧ w₀.panes.lookup k = some pane₀ ∧
      attachedTo w = attachedTo w₀ ∧
      (⟨pane.cols, pane.rows⟩ : PtySize) =
        if o = runtimeId ∧ target.1 = k then target.2 else ⟨pane₀.cols, pane₀.rows⟩ := by
  unfold ServerState.recordPane at hw
  split at hw
  · next hnone =>
    have hne : o ≠ runtimeId := by
      rintro rfl
      rw [hw] at hnone
      cases hnone
    exact ⟨w, pane, hw, hpane, rfl, by rw [if_neg (fun h => hne h.1)]⟩
  · next w₀ hw₀ =>
    rcases registered_put_cases hw with ⟨rfl, rfl, _⟩ | ⟨hne, hw⟩
    · have hclients : attachedTo (w₀.resizePane target.1 target.2.cols target.2.rows).2 =
          attachedTo w₀ := by
        have heffect : (w₀.resizePane target.1 target.2.cols target.2.rows).2.attachedClients =
            w₀.attachedClients := (Workspace.updatePane_effect w₀ _ _ _).clients
        funext c
        rw [attachedTo, Workspace.clientRole, heffect]
        rfl
      obtain ⟨update, hupdate, hlook⟩ :=
        lookup_resizePane w₀ target.1 k target.2.cols target.2.rows
      rw [hlook] at hpane
      by_cases hk : k = target.1
      · rw [if_pos hk] at hpane
        obtain ⟨pane₀, hpane₀, rfl⟩ := Option.map_eq_some_iff.mp hpane
        refine ⟨w₀, pane₀, hw₀, hk ▸ hpane₀, hclients, ?_⟩
        rw [if_pos ⟨rfl, hk.symm⟩, (hupdate pane₀).1, (hupdate pane₀).2]
      · rw [if_neg hk] at hpane
        exact ⟨w₀, pane, hw₀, hpane, hclients, by rw [if_neg (fun h => hk h.2.symm)]⟩
    · exact ⟨w, pane, hw, hpane, rfl, by rw [if_neg (fun h => hne h.1)]⟩

/-- A handler records a size. -/
theorem Settling.recordPane {s : SizeState P G} {index : Nat} {runtimeId : Uuid}
    {target : Uuid × PtySize} {rest : List (Uuid × PtySize)}
    (h : s.Settling)
    (hget : s.handlers[index]? = some ⟨runtimeId, target :: rest, true⟩)
    (hnext : s.isNext SizeHandler.targets index = true) :
    ((s.withServer (s.server.recordPane runtimeId target)).replaceHandler index
      (SizeHandler.goOn runtimeId rest)).Settling := by
  have holder := older_of_isNext hnext hget
  have hserver : (s.server.recordPane runtimeId target).ptyWriters = s.server.ptyWriters ∧
      (s.server.recordPane runtimeId target).clientPaneSizes = s.server.clientPaneSizes := by
    unfold ServerState.recordPane
    split
    · exact ⟨rfl, rfl⟩
    · exact ⟨rfl, rfl⟩
  refine ⟨?_, ?_, ?_⟩
  · refine h.own_replace hget ?_ ?_
    · intro x hx
      obtain ⟨hrun, htargets⟩ := goOn_own hx
      exact ⟨hrun, fun t ht => List.mem_cons_of_mem _ (htargets ▸ ht)⟩
    · intro o w k hw hpane
      obtain ⟨pane, hpane⟩ := Option.isSome_iff_exists.mp hpane
      obtain ⟨w₀, pane₀, hw₀, hpane₀, _, _⟩ := recordPane_cases hw hpane
      exact ⟨w₀, hw₀, by rw [hpane₀]; rfl⟩
  · intro o w k pane size hw hpane hmin
    obtain ⟨w₀, pane₀, hw₀, hpane₀, hclients, hsize⟩ := recordPane_cases hw hpane
    have hmin₀ : minimum s.server (attachedTo w₀) k = some size := by
      rw [← hmin, hclients]
      exact (minimum_of_who hserver.2 (fun _ => rfl) k).symm
    have hsettles := h.recorded o w₀ k pane₀ size hw₀ hpane₀ hmin₀
    -- a write to a pane of another workspace would be nobody's own
    have hown : target.1 = k → o = runtimeId := by
      intro hk
      exact h.own _ (List.mem_of_getElem? hget) target List.mem_cons_self o w₀ hw₀
        (by rw [hk, hpane₀]; rfl)
    have hsize' : (⟨pane.cols, pane.rows⟩ : PtySize) =
        if target.1 = k then target.2 else ⟨pane₀.cols, pane₀.rows⟩ := by
      rw [hsize]
      by_cases hk : target.1 = k
      · rw [if_pos ⟨hown hk, hk⟩, if_pos hk]
      · rw [if_neg (fun h => hk h.2), if_neg hk]
    rw [recordWrites, writes_split hget] at hsettles
    rw [recordWrites, writes_replaceHandler, hsize', flatMap_targets_goOn]
    exact (settles_carry holder k _).trans hsettles
  · intro o w k pane size hw hpane hmin pty hpty
    obtain ⟨w₀, pane₀, hw₀, hpane₀, hclients, _⟩ := recordPane_cases hw hpane
    have hmin₀ : minimum s.server (attachedTo w₀) k = some size := by
      rw [← hmin, hclients]
      exact (minimum_of_who hserver.2 (fun _ => rfl) k).symm
    have hpty₀ : s.server.ptyWriters.lookup k = some pty := by
      rw [← hserver.1]
      exact hpty
    have hsettles := h.resized o w₀ k pane₀ size hw₀ hpane₀ hmin₀ pty hpty₀
    rw [ptyWrites, writes_split hget] at hsettles
    rw [ptyWrites, writes_replaceHandler, flatMap_ptyWrites_goOn]
    exact hsettles

end Handlers

section Tasks

variable {P : Type u} {G : Type v}

theorem panes_placeRequested {w w' : Workspace P G} {pane : Pane P G}
    {split : Option PaneSplitRequest}
    (h : LifetimeState.placeRequested w pane split = some w') :
    w'.panes = w.panes.insert pane.id pane := by
  cases split with
  | none =>
      rw [← Option.some.inj h]
      exact Workspace.addPane_panes w pane
  | some req =>
      simp only [LifetimeState.placeRequested] at h
      rcases Workspace.splitPane_cases w req.target pane req.axis req.ratio with
        hnone | ⟨_, _, _, hsome, hres⟩
      · simp [hnone] at h
      · rcases hsplit : w.splitPane req.target pane req.axis req.ratio with ⟨_ | revision, w₁⟩
        · simp [hsplit] at hsome
        · rw [hsplit] at h hres
          rw [← Option.some.inj h]
          simp only at hres
          rw [hres]
          rfl

theorem Settling.openPane {s : SizeState P G} {runtimeId : Uuid} {pane : Pane P G}
    {split : Option PaneSplitRequest} {w₀ w' : Workspace P G}
    (h : s.Settling)
    (hminted : s.isMinted pane.id = true)
    (hw₀ : s.server.registered runtimeId = some w₀)
    (hplace : LifetimeState.placeRequested w₀ pane split = some w') :
    (s.withServer
      { s.server.putWorkspace runtimeId w' with
        ptyWriters := s.server.ptyWriters.insert pane.id ⟨pane.cols, pane.rows⟩ }).Settling := by
  simp only [isMinted, Bool.and_eq_true, List.all_eq_true, decide_eq_true_eq] at hminted
  obtain ⟨⟨_, hunreported⟩, huntargeted⟩ := hminted
  have hclients : attachedTo w' = attachedTo w₀ := by
    funext c
    rw [attachedTo, Workspace.clientRole, LifetimeState.clients_placeRequested hplace]
    rfl
  refine h.of_kept (fun o w k p hw hp => ?_)
  by_cases hk : k = pane.id
  · refine Or.inr ⟨minimum_eq_none (fun c m hm => ?_), fun hd hhd t ht => ?_⟩
    · have hmem : m ∈ s.server.clientPaneSizes.values :=
        List.mem_map.mpr ⟨⟨c, m⟩, (HashMap.lookup_eq_some_iff_mem _ _ _).mp hm, rfl⟩
      rw [hk]
      exact Option.isNone_iff_eq_none.mp (hunreported m hmem)
    · rw [hk]
      exact huntargeted hd hhd t ht
  · have hptys : ∀ pty, (s.server.ptyWriters.insert pane.id ⟨pane.cols, pane.rows⟩).lookup k =
        some pty → s.server.ptyWriters.lookup k = some pty := by
      intro pty hpty
      rw [AList.lookup_insert_ne hk] at hpty
      exact hpty
    have hput : (s.server.putWorkspace runtimeId w').registered o = some w := hw
    rcases registered_put_cases hput with ⟨rfl, rfl, _⟩ | ⟨_, hw⟩
    · rw [panes_placeRequested hplace, AList.lookup_insert_ne hk] at hp
      refine Or.inl ⟨w₀, p, hw₀, hp, rfl, rfl, hptys, fun size hmin => ?_⟩
      rw [← hmin, hclients]
      rfl
    · exact Kept.of_same hw hp rfl hptys

theorem Settling.terminate {s : SizeState P G}
    (h : s.Settling)
    (order : List Uuid)
    (runtimeId : Uuid)
    (finalRevision : Nat)
    (reason : TerminationReason)
    (exclude : Option Uuid) :
    (s.withServer
      (s.server.terminateWorkspace order runtimeId finalRevision reason exclude).2).Settling := by
  have hsame : (s.withServer s.server).Settling := h
  unfold ServerState.terminateWorkspace
  split
  · exact hsame
  · cases hw : s.server.objects.lookup runtimeId with
    | none => exact hsame
    | some gone =>
        have hframe := ServerState.killPanes_frame gone.panes.keys
          { s.server with
            workspaces := s.server.workspaces.filter (fun id => id ≠ runtimeId) }
        obtain ⟨channels, senders, hbroadcast⟩ := ServerState.broadcastToClients_frame
          (gone.panes.keys.foldl ServerState.killPane
            { s.server with
              workspaces := s.server.workspaces.filter (fun id => id ≠ runtimeId) })
          order gone.attachedClients.keys exclude
          (.workspaceTerminated runtimeId finalRevision reason)
        refine h.of_kept (fun o w k pane hreg hpane => ?_)
        simp only [hbroadcast] at hreg ⊢
        obtain ⟨hmem, hlook⟩ := registered_eq_some hreg
        have hmem' : o ∈ s.server.workspaces := by
          have hfiltered := hmem
          rw [hframe.1] at hfiltered
          exact List.mem_of_mem_filter hfiltered
        have hlook' : s.server.objects.lookup o = some w := by
          rw [← hlook]
          exact congrArg (AList.lookup o) hframe.2.1.symm
        exact Kept.of_same (registered_of_mem hmem' hlook') hpane hframe.2.2.2.2
          (fun _ hpty => (ServerState.lookup_killPanes_writers hpty).2)

variable [VteParser P] [Vt100Parser G]

theorem Settling.of_init {s : SizeState P G}
    (h : (system P G).init s) :
    s.Settling := by
  have hstart : s = start P G := h
  have hnone : ∀ o, (start P G).server.registered o = none := fun _ => rfl
  subst hstart
  refine ⟨?_, ?_, ?_⟩
  · intro hd hhd
    cases hhd
  · intro o w k pane size hw
    rw [hnone] at hw
    cases hw
  · intro o w k pane size hw
    rw [hnone] at hw
    cases hw

/-- **Step lemma.** -/
theorem Settling.next {s s' : SizeState P G} {a : SizeStep P G}
    (h : s.Settling)
    (hok : s.orderly a = true)
    (hnext : s.next a = some s') :
    s'.Settling := by
  cases a with
  | create runtimeId name now policy =>
      simp only [SizeState.next, Option.ite_none_right_eq_some, Option.some.injEq] at hnext
      obtain ⟨_, rfl⟩ := hnext
      refine h.of_kept (fun o w k pane hw hpane => ?_)
      obtain ⟨hreg, hlook⟩ := registered_eq_some hw
      rcases HashMap.lookup_insert_cases hlook with ⟨_, rfl⟩ | ⟨hne, hlook⟩
      · cases hpane
      · have hmem : o ∈ s.server.workspaces := (List.mem_cons.mp hreg).resolve_left hne
        exact Kept.of_same (registered_of_mem hmem hlook) hpane rfl (fun _ hpty => hpty)
  | openPane runtimeId pane split =>
      simp only [SizeState.next, Option.ite_none_right_eq_some, Option.bind_eq_some_iff,
        Option.map_eq_some_iff] at hnext
      obtain ⟨hminted, w, hw, w', hplace, rfl⟩ := hnext
      exact h.openPane hminted hw hplace
  | closePane runtimeId paneId =>
      simp only [SizeState.next, Option.map_eq_some_iff] at hnext
      obtain ⟨w, hw, rfl⟩ := hnext
      have hput : (s.withServer
          (s.server.putWorkspace runtimeId (w.removePane paneId).2)).Settling := by
        refine h.put (registered_eq_some hw).2 ?_ ?_
        · intro k pane hpane
          rw [Workspace.lookup_removePane] at hpane
          split at hpane
          · cases hpane
          · exact hpane
        · intro k pane size _ hmin
          rw [← hmin]
          refine (minimum_of_who rfl (fun c => ?_) k).symm
          rw [attachedTo, Workspace.clientRole, (w.removePane_effect paneId).clients]
          rfl
      split
      · exact hput.of_kept (fun o w k pane hw hpane => Kept.of_same hw hpane rfl
          (fun _ hpty => (HashMap.lookup_erase_cases hpty).2))
      · exact hput
  | ptyExits paneId =>
      rw [← Option.some.inj hnext]
      exact h.of_kept (fun o w k pane hw hpane => Kept.of_same hw hpane rfl
        (fun _ hpty => (HashMap.lookup_erase_cases hpty).2))
  | attach clientId runtimeId mode now =>
      simp only [SizeState.next, Option.map_eq_some_iff] at hnext
      obtain ⟨w, hw, rfl⟩ := hnext
      simp only [orderly, hw, Option.all_some] at hok
      refine h.put (registered_eq_some hw).2 ?_ ?_
      · intro k pane hpane
        rw [Workspace.attachClient_panes] at hpane
        exact hpane
      · intro k pane size hpane hmin
        exact minimum_of_keeps hok hpane hmin
  | report clientId req =>
      simp only [SizeState.next] at hnext
      simp only [orderly] at hok
      split at hnext
      · rw [← Option.some.inj hnext]
        exact h
      · next runtimeId targets server hreport =>
        rw [hreport] at hok
        rw [← Option.some.inj hnext]
        exact h.report hreport hok
  | resizePty index succeeds =>
      simp only [SizeState.next] at hnext
      simp only [orderly, Bool.and_eq_true] at hok
      split at hnext
      · next runtimeId target rest hget =>
        rw [if_pos hok.1] at hnext
        rw [← Option.some.inj hnext]
        exact h.resizePty hget hok.2
      · cases hnext
  | recordPane index =>
      simp only [SizeState.next] at hnext
      split at hnext
      · next runtimeId target rest hget =>
        rw [← Option.some.inj hnext]
        exact h.recordPane hget hok
      · cases hnext
  | detach clientId runtimeId =>
      simp only [SizeState.next, Option.map_eq_some_iff] at hnext
      obtain ⟨w, hw, rfl⟩ := hnext
      exact h.detach hw hok .explicitRequest
  | terminate order runtimeId finalRevision reason exclude =>
      rw [← Option.some.inj hnext]
      exact h.terminate order runtimeId finalRevision reason exclude
  | disconnect clientId =>
      rw [← Option.some.inj hnext]
      exact h.disconnect hok
  | leave clientId runtimeId =>
      simp only [SizeState.next, Option.ite_none_right_eq_some, Option.map_eq_some_iff] at hnext
      obtain ⟨hnone, w, hw, rfl⟩ := hnext
      exact h.leave hw hnone

/-- **Run lemma.** -/
theorem settling {s : SizeState P G}
    (h : (system P G).ReachableUnder (fun s a => s.orderly a = true) s) :
    s.Settling :=
  h.invariant (fun _ h0 => Settling.of_init h0) (fun _ _ _ hI hok hnext => hI.next hok hnext)

end Tasks

section Shared

variable {P : Type u} {G : Type v}

/-- The sizes of a pane that the clients attached to its workspace report. -/
def attachedReports (server : ServerState P G) (w : Workspace P G) (paneId : Uuid) :
    Set (Nat × Nat) :=
  {x | ∃ c m, server.clientPaneSizes.lookup c = some m ∧ (w.clientRole c).isSome = true ∧
    m.lookup paneId = some x}

theorem minimum_eq_some_iff {server : ServerState P G} {w : Workspace P G} {k : Uuid}
    {size : Nat × Nat} :
    minimum server (attachedTo w) k = some size ↔
      IsMinSize (attachedReports server w k) size := by
  have hset : {x | x ∈ reportsOf server (attachedTo w) k} = attachedReports server w k :=
    Set.ext (fun x => mem_reportsOf)
  rw [minimum, minClientPaneSize_eq_some_iff, hset]

variable [VteParser P] [Vt100Parser G]

/-- **Shared sizes.** In every orderly run, when no handler runs: a pane with a
nonzero report has as its size, and its PTY as its size, the componentwise
minimum of what the clients attached to its workspace report. -/
theorem shared_size {s : SizeState P G} {runtimeId paneId : Uuid} {w : Workspace P G}
    {pane : Pane P G}
    (h : (system P G).ReachableUnder (fun s a => s.orderly a = true) s)
    (hdone : s.handlers = [])
    (hw : s.server.registered runtimeId = some w)
    (hpane : w.panes.lookup paneId = some pane)
    (hcols : ∃ x ∈ attachedReports s.server w paneId, 0 < x.1)
    (hrows : ∃ x ∈ attachedReports s.server w paneId, 0 < x.2) :
    IsMinSize (attachedReports s.server w paneId) (pane.cols, pane.rows) ∧
      ∀ pty, s.server.ptyWriters.lookup paneId = some pty → pty = ⟨pane.cols, pane.rows⟩ := by
  obtain ⟨size, hsize⟩ := exists_isMinSize hcols hrows
  have hmin := minimum_eq_some_iff.mpr hsize
  have hrecorded := (settling h).recorded runtimeId w paneId pane size hw hpane hmin
  have hresized := (settling h).resized runtimeId w paneId pane size hw hpane hmin
  simp only [recordWrites, ptyWrites, hdone, List.flatMap_nil, settles_nil] at hrecorded hresized
  refine ⟨?_, fun pty hpty => (hresized pty hpty).trans hrecorded.symm⟩
  have hcols : pane.cols = size.1 := congrArg PtySize.cols hrecorded
  have hrows : pane.rows = size.2 := congrArg PtySize.rows hrecorded
  rw [hcols, hrows]
  exact hsize

end Shared

section Runs

variable {P : Type u} {G : Type v}

/-- The recorded size of a pane, and the minimum that those who are attached report. -/
def sizeAndMinimum (s : SizeState P G) (runtimeId paneId : Uuid) :
    Option ((Nat × Nat) × Option (Nat × Nat)) :=
  (s.server.registered runtimeId).bind (fun w =>
    (w.panes.lookup paneId).map (fun pane =>
      ((pane.cols, pane.rows), minimum s.server (attachedTo w) paneId)))

theorem of_sizeAndMinimum {s : SizeState P G} {runtimeId paneId : Uuid} {size least : Nat × Nat}
    (h : s.sizeAndMinimum runtimeId paneId = some (size, some least)) :
    ∃ w pane, s.server.registered runtimeId = some w ∧ w.panes.lookup paneId = some pane ∧
      (pane.cols, pane.rows) = size ∧ IsMinSize (attachedReports s.server w paneId) least := by
  obtain ⟨w, hw, hpane⟩ := Option.bind_eq_some_iff.mp h
  obtain ⟨pane, hpane, hboth⟩ := Option.map_eq_some_iff.mp hpane
  obtain ⟨hsize, hleast⟩ := Prod.mk.inj hboth
  exact ⟨w, pane, hw, hpane, hsize, minimum_eq_some_iff.mp hleast⟩

/-- A report about one pane. -/
def reportOf (runtimeId paneId : Uuid) (cols rows : Nat) : ReportClientSize :=
  ⟨uuidToBytes runtimeId, [⟨uuidToBytes paneId, cols, rows⟩]⟩

/-- Two clients attached to a workspace with one pane. -/
def sharedPane : List (SizeStep SampleParser SampleGrid) :=
  [.create 7 "work" 0 .persistent, .openPane 7 (Pane.new 10 80 24) none,
    .attach 1 7 .readWrite 0, .attach 2 7 .readOnly 0]

/-- The oldest handler resizes its pane. -/
def applied : List (SizeStep SampleParser SampleGrid) :=
  [.resizePty 0 true, .recordPane 0]

/-- Two handlers at once; then the client with the larger window detaches, and
the other one reports again. -/
def settled : List (SizeStep SampleParser SampleGrid) :=
  sharedPane ++ [.report 1 (reportOf 7 10 100 30), .report 2 (reportOf 7 10 70 20),
    .resizePty 0 true, .resizePty 1 true, .recordPane 0, .recordPane 0,
    .detach 1 7, .report 2 (reportOf 7 10 90 24)] ++ applied

/-- The theorem at the end of that run. -/
theorem shared_size_settled :
    ∃ (s : SizeState SampleParser SampleGrid) (w : Workspace SampleParser SampleGrid)
        (pane : Pane SampleParser SampleGrid),
      s.server.registered 7 = some w ∧ w.panes.lookup 10 = some pane ∧
        (pane.cols, pane.rows) = (90, 24) ∧
        IsMinSize (attachedReports s.server w 10) (pane.cols, pane.rows) ∧
        ∀ pty, s.server.ptyWriters.lookup 10 = some pty → pty = ⟨pane.cols, pane.rows⟩ := by
  obtain ⟨s, hreach, hidle, hend⟩ := System.exists_reachableUnder
    (S := system SampleParser SampleGrid) orderly settled
    (p := fun s => s.handlers = [] ∧
      s.sizeAndMinimum 7 10 = some ((90, 24), some (90, 24))) rfl (by decide +kernel)
  obtain ⟨w, pane, hw, hpane, hsize, ⟨⟨hcols, xc, hxc, hc⟩, _⟩, ⟨⟨hrows, xr, hxr, hr⟩, _⟩⟩ :=
    of_sizeAndMinimum hend
  exact ⟨s, w, pane, hw, hpane, hsize,
    shared_size hreach hidle hw hpane
      ⟨xc, hxc, hc ▸ hcols⟩ ⟨xr, hxr, hr ▸ hrows⟩⟩

/-- Both clients have reported, the second one the smaller size. -/
def reportedBoth : List (SizeStep SampleParser SampleGrid) :=
  sharedPane ++ [.report 1 (reportOf 7 10 80 24)] ++ applied ++
    [.report 2 (reportOf 7 10 40 10)] ++ applied

/-- The second client detaches, and the first one reports a larger window. -/
def detached : List (SizeStep SampleParser SampleGrid) :=
  reportedBoth ++ [.detach 2 7, .report 1 (reportOf 7 10 100 30)] ++ applied

/-- The second client's connection ends. -/
def disconnected : List (SizeStep SampleParser SampleGrid) :=
  reportedBoth ++ [.disconnect 2, .leave 2 7]

/-- The handler that has resolved the size first is the last to apply it. -/
def inverted : List (SizeStep SampleParser SampleGrid) :=
  sharedPane ++ [.report 1 (reportOf 7 10 80 24), .report 2 (reportOf 7 10 60 20),
    .resizePty 1 true, .recordPane 1] ++ applied

/-- **Three sizes that are not shared.** No handler runs, and the pane has
another size than the minimum over the clients that are attached: after a
detach, after a disconnect, and after two reports at once. -/
theorem size_not_shared :
    (∃ (s : SizeState SampleParser SampleGrid) (w : Workspace SampleParser SampleGrid)
        (pane : Pane SampleParser SampleGrid),
      (system _ _).Reachable s ∧ s.handlers = [] ∧ s.server.registered 7 = some w ∧
        w.panes.lookup 10 = some pane ∧ (pane.cols, pane.rows) = (40, 10) ∧
        IsMinSize (attachedReports s.server w 10) (100, 30)) ∧
      (∃ (s : SizeState SampleParser SampleGrid) (w : Workspace SampleParser SampleGrid)
        (pane : Pane SampleParser SampleGrid),
      (system _ _).Reachable s ∧ s.handlers = [] ∧ s.server.registered 7 = some w ∧
        w.panes.lookup 10 = some pane ∧ (pane.cols, pane.rows) = (40, 10) ∧
        IsMinSize (attachedReports s.server w 10) (80, 24)) ∧
      ∃ (s : SizeState SampleParser SampleGrid) (w : Workspace SampleParser SampleGrid)
        (pane : Pane SampleParser SampleGrid),
      (system _ _).Reachable s ∧ s.handlers = [] ∧ s.server.registered 7 = some w ∧
        w.panes.lookup 10 = some pane ∧ (pane.cols, pane.rows) = (80, 24) ∧
        IsMinSize (attachedReports s.server w 10) (60, 20) := by
  have hend : ∀ (acts : List (SizeStep SampleParser SampleGrid)) (size min : Nat × Nat),
      ((system SampleParser SampleGrid).exec (start _ _) acts).any
          (fun s : SizeState SampleParser SampleGrid =>
            decide (s.handlers = [] ∧ s.sizeAndMinimum 7 10 = some (size, some min))) = true →
      ∃ s w pane, (system SampleParser SampleGrid).Reachable s ∧ s.handlers = [] ∧
        s.server.registered 7 = some w ∧ w.panes.lookup 10 = some pane ∧
        (pane.cols, pane.rows) = size ∧ IsMinSize (attachedReports s.server w 10) min := by
    intro acts size min hrun
    obtain ⟨s, hreach, hidle, hsize⟩ := System.exists_reachable acts
      (p := fun s : SizeState SampleParser SampleGrid =>
        s.handlers = [] ∧ s.sizeAndMinimum 7 10 = some (size, some min)) rfl hrun
    obtain ⟨w, pane, hall⟩ := of_sizeAndMinimum hsize
    exact ⟨s, w, pane, hreach, hidle, hall⟩
  exact ⟨hend detached _ _ (by decide +kernel), hend disconnected _ _ (by decide +kernel),
    hend inverted _ _ (by decide +kernel)⟩

end Runs

end SizeState

namespace ServerState

section Isolation

variable {P : Type u} {G : Type v}

/-- The recorded size of a pane. -/
def paneSize (s : ServerState P G) (runtimeId paneId : Uuid) : Option PtySize :=
  (s.objects.lookup runtimeId).bind (fun w =>
    (w.panes.lookup paneId).map (fun pane => ⟨pane.cols, pane.rows⟩))

def hasPane (s : ServerState P G) (runtimeId paneId : Uuid) : Bool :=
  (s.registered runtimeId).any (fun w => (w.panes.lookup paneId).isSome)

def isAttached (s : ServerState P G) (clientId runtimeId : Uuid) : Bool :=
  (s.registered runtimeId).any (fun w => (w.clientRole clientId).isSome)

/-- A reported pane would be resized: it has a PTY, and there is a size to give it
once the report is recorded. -/
def wouldResize (s : ServerState P G) (clientId : Uuid) (req : ReportClientSize)
    (paneId : Uuid) : Bool :=
  (s.ptyWriters.lookup paneId).isSome &&
    (minClientPaneSize ((s.recordSizes clientId req.reported).paneSizes paneId)).isSome

variable [VteParser P] [Vt100Parser G]

/-- What the handler of a report does is confined to the workspace it names, and
to clients attached there.  Its second phase meets whatever state `t` the other
tasks have made of the daemon by then. -/
def Isolated (s : ServerState P G) (clientId : Uuid) (req : ReportClientSize) : Prop :=
  ∀ runtimeId targets server, s.reportClientSize clientId req = some (runtimeId, targets, server) →
    s.isAttached clientId runtimeId = true ∧
      server.ptyWriters = s.ptyWriters ∧ server.objects = s.objects ∧
      ∀ target ∈ targets, ∀ t : ServerState P G,
        (∀ k, (t.resizePty target).ptyWriters.lookup k ≠ t.ptyWriters.lookup k →
          s.hasPane runtimeId k = true) ∧
        ∀ o k, (t.recordPane runtimeId target).paneSize o k ≠ t.paneSize o k →
          o = runtimeId ∧ t.hasPane runtimeId k = true

omit [VteParser P] [Vt100Parser G] in
theorem lookup_resizePty (t : ServerState P G) (target : Uuid × PtySize) (k : Uuid) :
    (t.resizePty target).ptyWriters.lookup k =
      if k = target.1 then (t.ptyWriters.lookup k).map (fun _ => target.2)
      else t.ptyWriters.lookup k :=
  HashMap.lookup_modify _ _ _ _

/-- Recording a size reaches one pane of the workspace that the request names. -/
theorem paneSize_recordPane {t : ServerState P G} {runtimeId o k : Uuid}
    {target : Uuid × PtySize}
    (h : (t.recordPane runtimeId target).paneSize o k ≠ t.paneSize o k) :
    o = runtimeId ∧ t.hasPane runtimeId k = true := by
  unfold recordPane at h
  cases hw : t.registered runtimeId with
  | none => simp [hw] at h
  | some w =>
      simp only [hw, paneSize, putWorkspace, HashMap.lookup_insert_eq] at h
      by_cases ho : o = runtimeId
      · refine ⟨ho, ?_⟩
        cases hpane : w.panes.lookup k with
        | some pane => simp [hasPane, hw, hpane]
        | none =>
            have hlook := (SizeState.registered_eq_some hw).2
            have hkey : ((w.resizePane target.1 target.2.cols target.2.rows).2.panes.lookup
                k) = none := by
              obtain ⟨update, _, hresized⟩ :=
                SizeState.lookup_resizePane w target.1 k target.2.cols target.2.rows
              rw [hresized]
              by_cases hk : k = target.1
              · rw [if_pos hk, ← hk, hpane, Option.map_none]
              · rw [if_neg hk, hpane]
            rw [ho, if_pos rfl, hlook] at h
            simp [hkey, hpane] at h
      · rw [if_neg ho] at h
        exact absurd rfl h

/-- A handler that is confined resizes panes of its workspace only. -/
theorem Isolated.hasPane {s : ServerState P G} {clientId runtimeId : Uuid}
    {req : ReportClientSize} {p : Uuid × (Nat × Nat)}
    (h : s.Isolated clientId req)
    (hid : bytesToUuid req.runtimeId = some runtimeId)
    (hattached : s.isAttached clientId runtimeId = true)
    (hp : p ∈ req.reported)
    (hresize : s.wouldResize clientId req p.1 = true) :
    s.hasPane runtimeId p.1 = true := by
  simp only [wouldResize, Bool.and_eq_true] at hresize
  obtain ⟨hpty, hmin⟩ := hresize
  obtain ⟨size, hmin⟩ := Option.isSome_iff_exists.mp hmin
  obtain ⟨w, role, hw, hrole⟩ : ∃ w role, s.registered runtimeId = some w ∧
      w.clientRole clientId = some role := by
    cases hw : s.registered runtimeId with
    | none => simp [isAttached, hw] at hattached
    | some w =>
        simp only [isAttached, hw, Option.any_some] at hattached
        obtain ⟨role, hrole⟩ := Option.isSome_iff_exists.mp hattached
        exact ⟨w, role, rfl, hrole⟩
  have hne : req.reported ≠ [] := List.ne_nil_of_mem hp
  have hreport : s.reportClientSize clientId req =
      some (runtimeId, (s.recordSizes clientId req.reported).resolveTargets req.reported,
        s.recordSizes clientId req.reported) := by
    simp [reportClientSize, hid, hne, hw, hrole]
  have htarget : (p.1, (⟨size.1, size.2⟩ : PtySize)) ∈
      (s.recordSizes clientId req.reported).resolveTargets req.reported :=
    SizeState.mem_resolveTargets.mpr ⟨⟨p, hp, rfl⟩, hmin, hpty⟩
  -- by the time the PTY is resized it may have any other size
  let t : ServerState P G :=
    { s with ptyWriters := s.ptyWriters.insert p.1 ⟨size.1 + 1, size.2⟩ }
  refine ((h _ _ _ hreport).2.2.2 _ htarget t).1 p.1 ?_
  rw [lookup_resizePty, if_pos rfl]
  simp [t]

/-- **Isolation.** The handler of a report is confined to the workspace it names
if and only if every pane that it would resize is one of that workspace's, or
the request is refused. -/
theorem isolated_iff (s : ServerState P G) (clientId : Uuid) (req : ReportClientSize) :
    s.Isolated clientId req ↔
      ∀ runtimeId, bytesToUuid req.runtimeId = some runtimeId →
        s.isAttached clientId runtimeId = true →
          ∀ p ∈ req.reported, s.wouldResize clientId req p.1 = true →
            s.hasPane runtimeId p.1 = true := by
  constructor
  · intro h runtimeId hid hattached p hp hresize
    exact h.hasPane hid hattached hp hresize
  · intro h runtimeId targets server hreport
    obtain ⟨hid, ⟨w, hw, hrole⟩, hserver, htargets⟩ := SizeState.reportClientSize_eq_some hreport
    have hattached : s.isAttached clientId runtimeId = true := by
      simp [isAttached, hw, hrole]
    refine ⟨hattached, by rw [hserver]; rfl, by rw [hserver]; rfl, fun target hmem t => ⟨?_, ?_⟩⟩
    · intro k hchange
      rw [lookup_resizePty] at hchange
      by_cases hk : k = target.1
      · rw [htargets] at hmem
        obtain ⟨⟨p, hp, hpk⟩, hmin, hpty⟩ := SizeState.mem_resolveTargets.mp hmem
        rw [hserver] at hmin hpty
        rw [hk, ← hpk]
        refine h runtimeId hid hattached p hp ?_
        have hpty' : (s.ptyWriters.lookup p.1).isSome = true := by
          rw [hpk]
          exact hpty
        simp [wouldResize, hpty', hpk, hmin]
      · rw [if_neg hk] at hchange
        exact absurd rfl hchange
    · intro o k hchange
      exact paneSize_recordPane hchange

end Isolation

section Foreign

open SizeState

/-- A client of one workspace reports a size for a pane of another one. -/
def foreignPane : List (SizeStep SampleParser SampleGrid) :=
  sharedPane ++ [.create 8 "play" 0 .persistent, .openPane 8 (Pane.new 20 80 24) none]

theorem foreignPane_runs :
    ((system SampleParser SampleGrid).exec (start _ _) foreignPane).isSome = true := by
  decide +kernel

theorem foreignReport_runs :
    ((system SampleParser SampleGrid).exec (start _ _)
      (foreignPane ++ [.report 1 (reportOf 7 20 60 20), .resizePty 0 true])).isSome = true := by
  decide +kernel

/-- **A foreign pane is resized.** In a reachable state a client that is attached
to one workspace only reports a size for a pane of another: the handler gives
the PTY of that pane the reported size. -/
theorem not_isolated :
    ∃ s s' : SizeState SampleParser SampleGrid,
      (system _ _).Reachable s ∧ s.server.isAttached 1 8 = false ∧
        s.server.hasPane 7 20 = false ∧ s.server.hasPane 8 20 = true ∧
        ¬ s.server.Isolated 1 (reportOf 7 20 60 20) ∧
        (system _ _).exec s [.report 1 (reportOf 7 20 60 20), .resizePty 0 true] = some s' ∧
        s.server.ptyWriters.lookup 20 = some ⟨80, 24⟩ ∧
        s'.server.ptyWriters.lookup 20 = some ⟨60, 20⟩ := by
  let s := ((system SampleParser SampleGrid).exec (start _ _) foreignPane).get foreignPane_runs
  have hrun : (system SampleParser SampleGrid).exec (start _ _) foreignPane = some s :=
    (Option.some_get foreignPane_runs).symm
  have hboth := System.exec_append (S := system SampleParser SampleGrid) (start _ _) foreignPane
    [.report 1 (reportOf 7 20 60 20), .resizePty 0 true]
  rw [hrun, Option.bind_some] at hboth
  refine ⟨s, _, System.reachable_get rfl foreignPane_runs, by decide +kernel, by decide +kernel,
    by decide +kernel, ?_, hboth.symm.trans (Option.some_get foreignReport_runs).symm,
    by decide +kernel, by decide +kernel⟩
  intro h
  have hattached : s.server.isAttached 1 7 = true := by decide +kernel
  have hresize : s.server.wouldResize 1 (reportOf 7 20 60 20) 20 = true := by decide +kernel
  have hmem : ((20 : Uuid), (60, 20)) ∈ (reportOf 7 20 60 20).reported := by decide +kernel
  have hpane := h.hasPane (bytesToUuid_uuidToBytes 7) hattached hmem hresize
  have hnone : s.server.hasPane 7 20 = false := by decide +kernel
  rw [hnone] at hpane
  cases hpane

end Foreign

end ServerState

end Server
end Rttx
