import Rttx.Server.ClientSizes
import Rttx.Server.RequestAuthorization

/-!
# Requested sizes

A request for a new pane carries a number of columns and of rows, 32 bits each.
The daemon works with 16 bits.  The handlers that make panes cast the numbers,
zero standing for the default; the one that resizes a pane refuses what does not
fit; and the one for rendering sizes takes it for zero, which the minimum leaves
out.

**Results.**
* `requested_sizes_honoured_iff`: a new pane, its PTY and its grid have the
  requested size if and only if it fits into 16 bits, and the handlers agree on
  the sizes that fit and are not zero, and on no others.
* `requested_size_truncated`: a pane of no columns that was asked for with 65536.
-/

namespace Rttx
namespace Server

open Kernel

universe u v

section Requests

/-- A request for a new pane. -/
inductive NewPaneRequest
  | createPane (cwd : Option String) (cols rows : Nat) (noPersist : Option Bool)
  | splitPane (target : Uuid) (axis : SplitAxis) (ratio : F32) (cwd : Option String)
      (cols rows : Nat) (noPersist : Option Bool)

namespace NewPaneRequest

def toWrite : NewPaneRequest → WriteRequest
  | createPane cwd cols rows noPersist => .createPane cwd cols rows noPersist
  | splitPane target axis ratio cwd cols rows noPersist =>
      .splitPane target axis ratio cwd cols rows noPersist

/-- The size on the wire. -/
def size : NewPaneRequest → Nat × Nat
  | createPane _ cols rows _ => (cols, rows)
  | splitPane _ _ _ _ cols rows _ => (cols, rows)

/-- The size that the engine is configured with. -/
def spawnSize (req : NewPaneRequest) : PtySize :=
  ⟨Workspace.requestedSize req.size.1 80, Workspace.requestedSize req.size.2 24⟩

end NewPaneRequest

/-- A child that was spawned for a pane which is not placed yet. -/
structure SpawnedChild (P : Type u) (G : Type v) where
  runtimeId : Uuid
  pane : Pane P G
  split : Option PaneSplitRequest
  pty : PtySize

/-- The pane that a pending change adds, and how it is placed. -/
def PendingChange.newPane {P : Type u} {G : Type v} :
    PendingChange P G → Option (Pane P G × Option PaneSplitRequest)
  | .addPane pane => some (pane, none)
  | .splitPane target pane axis ratio => some (pane, some ⟨target, axis, ratio⟩)
  | .resizePane _ _ _ => none

namespace ServerState

variable {P : Type u} {G : Type v}
variable [VteParser P] [Vt100Parser G]

/-- The first acquisition of the server lock: the checks, and the child, whose
PTY is opened at the size of the pane. -/
def spawnRequested (s : ServerState P G) (clientId runtimeId : Uuid) (env : HandlerEnv)
    (spawns : Bool) (req : NewPaneRequest) : Option (SpawnedChild P G) :=
  match s.registered runtimeId with
  | none => none
  | some w =>
      match w.handle clientId env req.toWrite with
      | .pending change =>
          if spawns then
            change.newPane.map (fun placed =>
              ⟨runtimeId, placed.1, placed.2, req.spawnSize⟩)
          else
            none
      | _ => none

omit [VteParser P] [Vt100Parser G] in
/-- The second one: the pane is placed and the PTY registered, unless the
workspace, or the pane to split, is gone. -/
def registerSpawned (s : ServerState P G) (child : SpawnedChild P G) :
    Option (ServerState P G) :=
  (s.registered child.runtimeId).bind (fun w =>
    (LifetimeState.placeRequested w child.pane child.split).map (fun w =>
      { s.putWorkspace child.runtimeId w with
        ptyWriters := s.ptyWriters.insert child.pane.id child.pty
        ptyKillSenders := child.pane.id :: s.ptyKillSenders }))

end ServerState

/-- What a client asks for: a number, or a default if it is zero. -/
def sizeOrDefault (requested default : Nat) : Nat :=
  if requested = 0 then default else requested

/-- The pane, its PTY and its grid have the requested size, at least one column
and row. -/
structure HasRequestedSize {P : Type u} {G : Type v} [Vt100Parser G] (s : ServerState P G)
    (runtimeId paneId : Uuid) (size : Nat × Nat) : Prop where
  exists_pane : ∃ w pane, s.registered runtimeId = some w ∧ w.panes.lookup paneId = some pane ∧
    pane.cols = sizeOrDefault size.1 80 ∧ pane.rows = sizeOrDefault size.2 24 ∧
    1 ≤ pane.cols ∧ 1 ≤ pane.rows ∧
    s.ptyWriters.lookup paneId = some ⟨pane.cols, pane.rows⟩ ∧
    pane.screen.gridSize = (pane.cols, pane.rows)

section Properties

variable (P : Type u) (G : Type v)
variable [VteParser P] [Vt100Parser G]

/-- Every request of this size either fails or makes a pane that has it; the
server is free between the two acquisitions. -/
def HonouredWhenCreated (size : Nat × Nat) : Prop :=
  ∀ (s later s' : ServerState P G) (clientId runtimeId : Uuid) (env : HandlerEnv)
    (spawns : Bool) (req : NewPaneRequest) (child : SpawnedChild P G),
    req.size = size →
    s.spawnRequested clientId runtimeId env spawns req = some child →
    later.registerSpawned child = some s' →
    HasRequestedSize s' runtimeId env.paneId size

/-- CreatePane does not refuse the size to a client with write access. -/
def AcceptedByCreate (size : Nat × Nat) : Prop :=
  ∀ (w : Workspace P G) (clientId : Uuid) (env : HandlerEnv) (cwd : Option String)
    (noPersist : Option Bool), w.clientHasWriteAccess clientId = true →
    w.handle clientId env (.createPane cwd size.1 size.2 noPersist) ≠ .refused

/-- SplitPane does not refuse the size when the target is there. -/
def AcceptedBySplit (size : Nat × Nat) : Prop :=
  ∀ (w : Workspace P G) (clientId target : Uuid) (env : HandlerEnv) (axis : SplitAxis)
    (ratio : F32) (cwd : Option String) (noPersist : Option Bool),
    w.clientHasWriteAccess clientId = true → w.tree.contains (.fromUuid target) = true →
    w.handle clientId env (.splitPane target axis ratio cwd size.1 size.2 noPersist) ≠ .refused

/-- Nor does ResizePane when the pane is there. -/
def AcceptedByResize (size : Nat × Nat) : Prop :=
  ∀ (w : Workspace P G) (clientId paneId : Uuid) (env : HandlerEnv),
    w.clientHasWriteAccess clientId = true → (w.panes.lookup paneId).isSome = true →
    w.handle clientId env (.resizePane paneId size.1 size.2) ≠ .refused

omit [VteParser P] [Vt100Parser G] in
/-- A client that is alone in reporting the size gets it. -/
def AcceptedByReport (size : Nat × Nat) : Prop :=
  ∀ (runtimeId paneId : Bytes), (bytesToUuid paneId).isSome = true →
    minClientPaneSize
        ((ReportClientSize.reported ⟨runtimeId, [⟨paneId, size.1, size.2⟩]⟩).map Prod.snd) =
      some size

/-- The four handlers agree on whether the size is acceptable. -/
def HandlersAgree (size : Nat × Nat) : Prop :=
  (AcceptedByCreate P G size ↔ AcceptedBySplit P G size) ∧
    (AcceptedByCreate P G size ↔ AcceptedByResize P G size) ∧
    (AcceptedByCreate P G size ↔ AcceptedByReport size)

end Properties

end Requests

section Casts

/-- The cast keeps what fits, and nothing else. -/
theorem requestedSize_eq_iff {requested default : Nat} :
    Workspace.requestedSize requested default = sizeOrDefault requested default ↔
      requested < 2 ^ 16 := by
  unfold Workspace.requestedSize sizeOrDefault
  by_cases hzero : requested = 0
  · simp [hzero]
  · have hpos : requested > 0 := Nat.pos_of_ne_zero hzero
    rw [if_pos hpos, if_neg hzero]
    exact Nat.mod_eq_iff_lt (by decide)

theorem one_le_sizeOrDefault {requested default : Nat}
    (h : 1 ≤ default) :
    1 ≤ sizeOrDefault requested default := by
  unfold sizeOrDefault
  split
  · exact h
  · omega

/-- A report alone resolves to what was reported if both numbers fit and neither
is zero. -/
theorem minClientPaneSize_single_iff {cols rows : Nat} :
    minClientPaneSize [(u16OrZero cols, u16OrZero rows)] = some (cols, rows) ↔
      (0 < cols ∧ cols < 2 ^ 16) ∧ (0 < rows ∧ rows < 2 ^ 16) := by
  have haxis : ∀ n : Nat, 0 < n ∧ u16OrZero n = n ↔ 0 < n ∧ n < 2 ^ 16 := by
    intro n
    unfold u16OrZero
    split <;> omega
  have hleast : ∀ a c : Nat, IsLeast {n | 0 < n ∧ a = n} c ↔ 0 < c ∧ a = c := by
    intro a c
    constructor
    · exact fun h => h.1
    · rintro ⟨hpos, rfl⟩
      exact ⟨⟨hpos, rfl⟩, fun n hn => hn.2.le⟩
  rw [minClientPaneSize_eq_some_iff, ← haxis cols, ← haxis rows, ← hleast, ← hleast]
  simp [IsMinSize]

end Casts

section Creation

variable {P : Type u} {G : Type v}
variable [VteParser P] [Vt100Parser G]

/-- The pane that a request adds has the size that the engine is configured with. -/
theorem handle_newPane {w : Workspace P G} {clientId : Uuid} {env : HandlerEnv}
    {req : NewPaneRequest} {change : PendingChange P G}
    {placed : Pane P G × Option PaneSplitRequest}
    (h : w.handle clientId env req.toWrite = .pending change)
    (hplaced : change.newPane = some placed) :
    ∃ cwd noPersist,
      placed.1 = Workspace.spawnedPane env req.size.1 req.size.2 cwd noPersist := by
  cases req with
  | createPane cwd cols rows noPersist =>
      simp only [NewPaneRequest.toWrite, Workspace.handle] at h
      split at h
      · cases h
      · cases h
        cases hplaced
        exact ⟨_, _, rfl⟩
  | splitPane target axis ratio cwd cols rows noPersist =>
      simp only [NewPaneRequest.toWrite, Workspace.handle] at h
      split at h
      · cases h
      · split at h
        · cases h
        · cases h
          cases hplaced
          exact ⟨_, _, rfl⟩

/-- What the first acquisition hands on. -/
theorem spawnRequested_child {s : ServerState P G} {clientId runtimeId : Uuid} {env : HandlerEnv}
    {spawns : Bool} {req : NewPaneRequest} {child : SpawnedChild P G}
    (h : s.spawnRequested clientId runtimeId env spawns req = some child) :
    child.runtimeId = runtimeId ∧ child.pty = req.spawnSize ∧
      ∃ cwd noPersist,
        child.pane = Workspace.spawnedPane env req.size.1 req.size.2 cwd noPersist := by
  unfold ServerState.spawnRequested at h
  cases hw : s.registered runtimeId with
  | none => simp [hw] at h
  | some w =>
      cases hhandle : w.handle clientId env req.toWrite with
      | refused => simp [hw, hhandle] at h
      | applied w' => simp [hw, hhandle] at h
      | pending change =>
          cases spawns with
          | false => simp [hw, hhandle] at h
          | true =>
              simp only [hw, hhandle, if_true] at h
              obtain ⟨placed, hplaced, rfl⟩ := Option.map_eq_some_iff.mp h
              refine ⟨rfl, rfl, ?_⟩
              exact handle_newPane hhandle hplaced

omit [VteParser P] [Vt100Parser G] in
/-- Where a child and its pane are after the second acquisition. -/
theorem registerSpawned_eq {later s' : ServerState P G} {child : SpawnedChild P G}
    (h : later.registerSpawned child = some s') :
    (∃ w, s'.registered child.runtimeId = some w ∧
        w.panes.lookup child.pane.id = some child.pane) ∧
      s'.ptyWriters.lookup child.pane.id = some child.pty := by
  obtain ⟨w, hw, hplace⟩ := Option.bind_eq_some_iff.mp h
  obtain ⟨w', hw', rfl⟩ := Option.map_eq_some_iff.mp hplace
  obtain ⟨hmem, -⟩ := SizeState.registered_eq_some hw
  refine ⟨⟨w', ?_, ?_⟩, ?_⟩
  · exact SizeState.registered_of_mem hmem (AList.lookup_insert _)
  · rw [SizeState.panes_placeRequested hw']
    exact AList.lookup_insert _
  · exact AList.lookup_insert _

/-- A request for a size that fits makes a pane that has it. -/
theorem honouredWhenCreated_of_fits [LawfulGrid G] {size : Nat × Nat}
    (hcols : size.1 < 2 ^ 16)
    (hrows : size.2 < 2 ^ 16) :
    HonouredWhenCreated P G size := by
  rintro s later s' clientId runtimeId env spawns req child rfl hspawn hregister
  obtain ⟨rfl, hpty, cwd, noPersist, hpane⟩ := spawnRequested_child hspawn
  obtain ⟨⟨w, hw, hlookup⟩, hwriter⟩ := registerSpawned_eq hregister
  have hid : child.pane.id = env.paneId := by
    rw [hpane]
    rfl
  have hc : child.pane.cols = sizeOrDefault req.size.1 80 := by
    rw [hpane]
    exact requestedSize_eq_iff.mpr hcols
  have hr : child.pane.rows = sizeOrDefault req.size.2 24 := by
    rw [hpane]
    exact requestedSize_eq_iff.mpr hrows
  have hc1 : 1 ≤ child.pane.cols := hc ▸ one_le_sizeOrDefault (by decide)
  have hr1 : 1 ≤ child.pane.rows := hr ▸ one_le_sizeOrDefault (by decide)
  have hsize : child.pty = ⟨child.pane.cols, child.pane.rows⟩ := by
    rw [hpty, hpane]
    rfl
  have hgrid : child.pane.screen.gridSize = (max child.pane.cols 1, max child.pane.rows 1) := by
    rw [hpane]
    exact PaneScreen.gridSize_newSized _ _ _
  rw [max_eq_left hc1, max_eq_left hr1] at hgrid
  rw [hid] at hlookup hwriter
  exact ⟨w, child.pane, hw, hlookup, hc, hr, hc1, hr1, hsize ▸ hwriter, hgrid⟩

variable (P G) in
/-- A daemon with one workspace, and a client that may write to it. -/
def oneWorkspace : ServerState P G :=
  let w := (Workspace.new 7 "work" 0).insertClient 9 .writer
  { (SizeState.start P G).server with
    workspaces := [7]
    objects := AList.insert 7 w ∅ }

def paneEnv : HandlerEnv :=
  ⟨1, none, ⟨fun _ => none, fun _ => none⟩⟩

/-- A request for a pane of any size goes through there. -/
theorem oneWorkspace_creates (size : Nat × Nat) :
    ∃ child s', (oneWorkspace P G).spawnRequested 9 7 paneEnv true
        (.createPane none size.1 size.2 none) = some child ∧
      (oneWorkspace P G).registerSpawned child = some s' :=
  ⟨_, _, rfl, rfl⟩

/-- A size that is honoured fits. -/
theorem fits_of_honouredWhenCreated {size : Nat × Nat}
    (h : HonouredWhenCreated P G size) :
    size.1 < 2 ^ 16 ∧ size.2 < 2 ^ 16 := by
  obtain ⟨child, s', hspawn, hregister⟩ := oneWorkspace_creates (P := P) (G := G) size
  obtain ⟨⟨w, pane, hw, hpane, hcols, hrows, -⟩⟩ :=
    h _ _ s' 9 7 paneEnv true _ child rfl hspawn hregister
  obtain ⟨hrt, -, cwd, noPersist, hspawned⟩ := spawnRequested_child hspawn
  obtain ⟨⟨w', hw', hpane'⟩, -⟩ := registerSpawned_eq hregister
  rw [hrt, hw, Option.some.injEq] at hw'
  subst hw'
  have hid : child.pane.id = paneEnv.paneId := by
    rw [hspawned]
    rfl
  have hsame : pane = child.pane := by
    rw [hid] at hpane'
    exact Option.some.inj (hpane.symm.trans hpane')
  rw [hsame, hspawned] at hcols hrows
  exact ⟨requestedSize_eq_iff.mp hcols, requestedSize_eq_iff.mp hrows⟩

end Creation

section Agreement

variable (P : Type u) (G : Type v)
variable [VteParser P] [Vt100Parser G]

theorem acceptedByCreate (size : Nat × Nat) : AcceptedByCreate P G size := by
  intro w clientId env cwd noPersist haccess
  simp [Workspace.handle, haccess]

theorem acceptedBySplit (size : Nat × Nat) : AcceptedBySplit P G size := by
  intro w clientId target env axis ratio cwd noPersist haccess htarget
  simp [Workspace.handle, haccess, htarget]

/-- A workspace with a pane and a writer. -/
def onePane : Workspace P G :=
  ((Workspace.new 7 "work" 0).addPane (Pane.new 1 80 24)).insertClient 9 .writer

theorem acceptedByResize_iff (size : Nat × Nat) :
    AcceptedByResize P G size ↔ size.1 < 2 ^ 16 ∧ size.2 < 2 ^ 16 := by
  constructor
  · intro h
    have hthere := h (onePane P G) 9 1 paneEnv rfl rfl
    by_contra hbig
    have hguard : (decide (size.1 ≥ 2 ^ 16) || decide (size.2 ≥ 2 ^ 16)) = true := by
      simp only [Bool.or_eq_true, decide_eq_true_eq]
      omega
    exact hthere (by rw [Workspace.handle, if_pos hguard])
  · rintro ⟨hcols, hrows⟩ w clientId paneId env haccess hpane
    have hguard : (decide (size.1 ≥ 2 ^ 16) || decide (size.2 ≥ 2 ^ 16)) = false := by
      simp only [Bool.or_eq_false_iff, decide_eq_false_iff_not]
      omega
    rw [Workspace.handle, hguard]
    simp [haccess, hpane]

/-- A wire id of a pane. -/
def wireId : Bytes :=
  uuidToBytes 1

theorem acceptedByReport_iff (size : Nat × Nat) :
    AcceptedByReport size ↔
      (0 < size.1 ∧ size.1 < 2 ^ 16) ∧ (0 < size.2 ∧ size.2 < 2 ^ 16) := by
  have hreported : ∀ runtimeId paneId, (bytesToUuid paneId).isSome = true →
      (ReportClientSize.reported ⟨runtimeId, [⟨paneId, size.1, size.2⟩]⟩).map Prod.snd =
        [(u16OrZero size.1, u16OrZero size.2)] := by
    intro runtimeId paneId hid
    obtain ⟨id, hid⟩ := Option.isSome_iff_exists.mp hid
    simp [ReportClientSize.reported, hid]
  rw [← minClientPaneSize_single_iff]
  constructor
  · intro h
    have hid : (bytesToUuid wireId).isSome = true := by decide
    have hmin := h [] wireId hid
    rwa [hreported [] wireId hid] at hmin
  · intro h runtimeId paneId hid
    rw [hreported runtimeId paneId hid]
    exact h

/-- The handlers agree on the sizes that fit and are not zero. -/
theorem handlersAgree_iff (size : Nat × Nat) :
    HandlersAgree P G size ↔
      (0 < size.1 ∧ size.1 < 2 ^ 16) ∧ (0 < size.2 ∧ size.2 < 2 ^ 16) := by
  have hcreate : AcceptedByCreate P G size ↔ True := iff_true_intro (acceptedByCreate P G size)
  have hsplit : AcceptedBySplit P G size ↔ True := iff_true_intro (acceptedBySplit P G size)
  rw [HandlersAgree, hcreate, hsplit, acceptedByResize_iff, acceptedByReport_iff]
  constructor
  · rintro ⟨-, -, hreport⟩
    exact hreport.mp trivial
  · intro h
    exact ⟨Iff.rfl, iff_of_true trivial ⟨h.1.2, h.2.2⟩, iff_of_true trivial h⟩

/-- **Requested sizes.**  What a new pane is asked to have, it has if and only
if both numbers fit into 16 bits; and the four handlers agree on a size if and
only if besides neither number is zero. -/
theorem requested_sizes_honoured_iff [LawfulGrid G] (size : Nat × Nat) :
    (HonouredWhenCreated P G size ↔ size.1 < 2 ^ 16 ∧ size.2 < 2 ^ 16) ∧
      (HandlersAgree P G size ↔
        (0 < size.1 ∧ size.1 < 2 ^ 16) ∧ (0 < size.2 ∧ size.2 < 2 ^ 16)) :=
  ⟨⟨fits_of_honouredWhenCreated, fun h => honouredWhenCreated_of_fits h.1 h.2⟩,
    handlersAgree_iff P G size⟩

end Agreement

section Samples

/-- The theorem on the small terminal, for a size that fits. -/
theorem requested_sizes_honoured_small :
    HonouredWhenCreated SampleParser SampleGrid (100, 30) ∧
      HandlersAgree SampleParser SampleGrid (100, 30) :=
  ⟨(requested_sizes_honoured_iff SampleParser SampleGrid (100, 30)).1.mpr (by decide),
    (requested_sizes_honoured_iff SampleParser SampleGrid (100, 30)).2.mpr (by decide)⟩

/-- **A size is truncated.**  The pane that was asked for with 65536 columns has
none, its PTY has none, and its grid has one; the same size is refused when a
pane is to be resized, and a pane is resized to no columns. -/
theorem requested_size_truncated :
    (((oneWorkspace SampleParser SampleGrid).spawnRequested 9 7 paneEnv true
        (.createPane none 65536 24 none)).map
          (fun child => (child.pane.cols, child.pty.cols, child.pane.screen.gridSize)) =
        some (0, 0, (1, 24))) ∧
      ¬ HonouredWhenCreated SampleParser SampleGrid (65536, 24) ∧
      ¬ HandlersAgree SampleParser SampleGrid (65536, 24) ∧
      ¬ HandlersAgree SampleParser SampleGrid (0, 24) := by
  refine ⟨rfl, ?_, ?_, ?_⟩
  · intro h
    exact absurd (fits_of_honouredWhenCreated h).1 (by decide)
  · rw [handlersAgree_iff]
    decide
  · rw [handlersAgree_iff]
    decide

end Samples

end Server
end Rttx
