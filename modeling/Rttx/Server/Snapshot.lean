import Rttx.Server.PaneLookup

/-!
# Workspace snapshots

What an attaching or resynchronising client is sent: the tree, the names, and
for each pane its metadata and a rendering of its screen.  Ids travel as byte
strings, the tree as nodes whose parts may be absent.

**Results.**
* `bytesToUuid_uuidToBytes`: ids survive the wire.
* `buildSnapshot_entry`: the snapshot describes every pane, with the sequence
  number the pane has.
* `lookup_buildSnapshot`, `lookup_sanitizePanes`: building a snapshot and
  clearing stale modes touch nothing of a pane but its screen.
-/

namespace Rttx
namespace Server

open Kernel

universe u v

section Wire

/-- The big-endian bytes of the last `count` base-256 digits of `n`. -/
def bigEndian : Nat → Nat → Bytes
  | 0, _ => []
  | count + 1, n => bigEndian count (n / 256) ++ [UInt8.ofNat n]

def uuidToBytes (id : Uuid) : Bytes :=
  bigEndian 16 id.toNat

/-- The id of exactly sixteen bytes. -/
def bytesToUuid (bytes : Bytes) : Option Uuid :=
  if bytes.length = 16 then
    some (BitVec.ofNat 128 (bytes.foldl (fun n b => 256 * n + b.toNat) 0))
  else
    none

theorem bigEndian_length (count n : Nat) : (bigEndian count n).length = count := by
  induction count generalizing n with
  | zero => rfl
  | succ count ih => simp [bigEndian, ih]

theorem foldl_bigEndian (count n : Nat) :
    (bigEndian count n).foldl (fun n b => 256 * n + b.toNat) 0 = n % 256 ^ count := by
  induction count generalizing n with
  | zero => simp [bigEndian, Nat.mod_one]
  | succ count ih =>
      have hdigit : (UInt8.ofNat n).toNat = n % 256 := by simp
      rw [bigEndian, List.foldl_append, ih, List.foldl_cons, List.foldl_nil, hdigit,
        Nat.pow_succ', Nat.mod_mul]
      omega

/-- Ids survive the wire. -/
theorem bytesToUuid_uuidToBytes (id : Uuid) : bytesToUuid (uuidToBytes id) = some id := by
  have hlt : id.toNat % 256 ^ 16 = id.toNat := Nat.mod_eq_of_lt id.isLt
  simp only [bytesToUuid, uuidToBytes, bigEndian_length, if_true, foldl_bigEndian, hlt,
    BitVec.ofNat_toNat, BitVec.setWidth_eq]

inductive PaneSplitAxis
  | unspecified
  | horizontal
  | vertical
deriving DecidableEq, Repr

/-- A tree node on the wire; `missing` is a node without content. -/
inductive PaneTreeNode
  | missing
  | leaf (paneId : Bytes)
  | split (axis : PaneSplitAxis) (ratio : F32) (first second : PaneTreeNode)
deriving DecidableEq

inductive WorkspaceClientRole
  | unattached
  | writer
  | reader
deriving DecidableEq, Repr

/-- The wire description of one pane. -/
structure PaneSnapshot where
  paneId : Bytes
  paneOutputSeq : Nat
  title : String
  cwd : String
  cols : Nat
  rows : Nat
  exitStatus : Option Int
  terminalModes : Option TerminalModeState
  scrollbackTail : Bytes
  totalScrollbackBytes : Nat
  scrollbackComplete : Bool
deriving DecidableEq

/-- The wire description of a workspace. -/
structure WorkspaceSnapshot where
  runtimeId : Bytes
  workspaceRevision : Nat
  clientRole : WorkspaceClientRole
  panes : List PaneSnapshot
  tree : Option PaneTreeNode
  defaultActivePaneId : Bytes
  name : String
  userRenamed : Bool
deriving DecidableEq

end Wire

section Build

def splitAxisToProto : SplitAxis → PaneSplitAxis
  | .horizontal => .horizontal
  | .vertical => .vertical

def paneTreeToProto : PaneTree → PaneTreeNode
  | .leaf pane => .leaf (uuidToBytes pane.uuid)
  | .split axis ratio first second =>
      .split (splitAxisToProto axis) ratio (paneTreeToProto first) (paneTreeToProto second)

def workspaceTreeToProto (tree : WorkspaceTree) : Option PaneTreeNode :=
  tree.root.map paneTreeToProto

def defaultActiveBytes (tree : WorkspaceTree) : Bytes :=
  (tree.defaultActive.map (fun pane => uuidToBytes pane.uuid)).getD []

def ClientRole.asV3Proto : ClientRole → WorkspaceClientRole
  | .writer => .writer
  | .reader => .reader

variable {P : Type u} {G : Type v}
variable [VteParser P] [Vt100Parser G]

namespace Pane

/-- The wire description of a pane, and the pane after its screen was rendered. -/
def snapshot (p : Pane P G) (proc : ProcFs) : PaneSnapshot × Pane P G :=
  let (scrollback, screen) := p.screen.reattachStream
  let total := scrollback.length
  ({ paneId := uuidToBytes p.id
     paneOutputSeq := p.outputSeq
     title := p.title.getD ""
     cwd := (p.effectiveCwd proc).getD ""
     cols := p.cols
     rows := p.rows
     exitStatus := p.exitStatus
     terminalModes := some screen.terminalModeState
     scrollbackTail := scrollback
     totalScrollbackBytes := total
     scrollbackComplete := total ≤ scrollback.length },
    { p with screen := screen })

end Pane

namespace Workspace

/-- Build the snapshot of a workspace for a client of the given role. -/
def buildV3WorkspaceSnapshot (w : Workspace P G) (role : WorkspaceClientRole)
    (proc : ProcFs) : WorkspaceSnapshot × Workspace P G :=
  ({ runtimeId := uuidToBytes w.id
     workspaceRevision := w.revision
     clientRole := role
     panes := (w.panes.mapValues (fun p => (p.snapshot proc).1)).values
     tree := workspaceTreeToProto w.tree
     defaultActivePaneId := defaultActiveBytes w.tree
     name := w.name
     userRenamed := w.userRenamed },
    { w with panes := w.panes.mapValues (fun p => (p.snapshot proc).2) })

/-- Clear in every pane the modes that a dead program left behind. -/
def sanitizePanes (w : Workspace P G) (proc : ProcFs) : List (Uuid × Bytes) × Workspace P G :=
  (w.panes.values.filterMap
      (fun p => ((p.sanitizeModesIfIdle proc).1).map (fun cleanup => (p.id, cleanup))),
    { w with panes := w.panes.mapValues (fun p => (p.sanitizeModesIfIdle proc).2) })

/-- What a successful attach answers, and what it announces to the others. -/
structure AttachReply where
  snapshot : WorkspaceSnapshot
  healed : List (Uuid × Bytes)
  renamed : Option (String × Nat)
deriving DecidableEq

/-- The attach handler under the workspace lock. -/
def handleV3Attach (w : Workspace P G) (clientId : Uuid) (mode : AttachMode) (now : Nat)
    (proc : ProcFs) : Option AttachReply × Workspace P G :=
  match w.attachClient clientId mode now with
  | (.ok (.attached role _), w) =>
      let (healed, w) := w.sanitizePanes proc
      let (name, w) := w.refreshAutoName proc
      let renamed := name.map (fun n => (n, w.revision))
      let (snapshot, w) := w.buildV3WorkspaceSnapshot role.asV3Proto proc
      (some ⟨snapshot, healed, renamed⟩, w)
  | (_, w) => (none, w)

/-- The resync handler under the workspace lock. -/
def handleResync (w : Workspace P G) (clientId : Uuid) (proc : ProcFs) :
    WorkspaceSnapshot × Workspace P G :=
  w.buildV3WorkspaceSnapshot ((w.clientRole clientId).elim .unattached ClientRole.asV3Proto) proc

end Workspace

end Build

section Laws

variable {P : Type u} {G : Type v}
variable [VteParser P] [Vt100Parser G]

namespace Workspace

omit [VteParser P] in
/-- The snapshot describes every pane. -/
theorem buildSnapshot_entry {w : Workspace P G} {paneId : Uuid} {pane : Pane P G}
    (hpane : w.panes.lookup paneId = some pane)
    (role : WorkspaceClientRole)
    (proc : ProcFs) :
    (pane.snapshot proc).1 ∈ (w.buildV3WorkspaceSnapshot role proc).1.panes := by
  have hlook : (w.panes.mapValues (fun p => (p.snapshot proc).1)).lookup paneId =
      some (pane.snapshot proc).1 := by
    simp [hpane]
  have hmem := (HashMap.lookup_eq_some_iff_mem _ _ _).mp hlook
  exact List.mem_map.mpr ⟨_, hmem, rfl⟩

omit [VteParser P] in
theorem lookup_buildSnapshot (w : Workspace P G) (role : WorkspaceClientRole) (proc : ProcFs)
    (k : Uuid) :
    (w.buildV3WorkspaceSnapshot role proc).2.panes.lookup k =
      (w.panes.lookup k).map (fun p => (p.snapshot proc).2) :=
  HashMap.lookup_mapValues _ _ _

omit [VteParser P] in
theorem lookup_handleResync (w : Workspace P G) (clientId : Uuid) (proc : ProcFs) (k : Uuid) :
    (w.handleResync clientId proc).2.panes.lookup k =
      (w.panes.lookup k).map (fun p => (p.snapshot proc).2) :=
  lookup_buildSnapshot _ _ _ _

theorem lookup_sanitizePanes (w : Workspace P G) (proc : ProcFs) (k : Uuid) :
    (w.sanitizePanes proc).2.panes.lookup k =
      (w.panes.lookup k).map (fun p => (p.sanitizeModesIfIdle proc).2) :=
  HashMap.lookup_mapValues _ _ _

omit [VteParser P] [Vt100Parser G] in
theorem attachClient_panes (w : Workspace P G) (clientId : Uuid) (mode : AttachMode)
    (now : Nat) :
    (w.attachClient clientId mode now).2.panes = w.panes :=
  (attachClient_effect w clientId mode now).panes

omit [VteParser P] [Vt100Parser G] in
/-- An attach detaches nobody. -/
theorem clientRole_attachClient {w : Workspace P G} {c : Uuid}
    (h : (w.clientRole c).isSome = true)
    (clientId : Uuid)
    (mode : AttachMode)
    (now : Nat) :
    ((w.attachClient clientId mode now).2.clientRole c).isSome = true := by
  cases mode with
  | readOnly =>
      have hrole : (w.attachClient clientId .readOnly now).2.clientRole c =
          if c = clientId then some .reader else w.clientRole c :=
        clientRole_insertClient _ _ _ _
      rw [hrole]
      split
      · rfl
      · exact h
  | readWrite =>
      rcases attachClient_readWrite_cases w clientId now with ⟨_, _, _, hres⟩ | ⟨_, hres⟩
      · rw [hres]
        exact h
      · rw [hres, clientRole_insertClient]
        split
        · rfl
        · exact h
  | takeOver =>
      rcases attachClient_takeOver_cases w clientId now with hres | ⟨previous, _, _, hres⟩
      · rw [hres]
        exact h
      · rw [hres, clientRole_takeOver]
        split
        · rfl
        · split
          · rfl
          · exact h

omit [VteParser P] [Vt100Parser G] in
/-- A client whose attach succeeds is attached. -/
theorem clientRole_of_attached {w w' : Workspace P G} {clientId : Uuid} {mode : AttachMode}
    {now : Nat} {role : ClientRole} {rev : Nat}
    (h : w.attachClient clientId mode now = (.ok (.attached role rev), w')) :
    (w'.clientRole clientId).isSome = true := by
  have hw' : w' = (w.attachClient clientId mode now).2 := by rw [h]
  rw [hw']
  cases mode with
  | readOnly =>
      rw [attachClient, clientRole_insertClient, if_pos rfl]
      rfl
  | readWrite =>
      rcases attachClient_readWrite_cases w clientId now with ⟨_, _, _, hres⟩ | ⟨_, hres⟩
      · simp [hres] at h
      · rw [hres, clientRole_insertClient, if_pos rfl]
        rfl
  | takeOver =>
      rcases attachClient_takeOver_cases w clientId now with hres | ⟨previous, _, _, hres⟩
      · simp [hres] at h
      · rw [hres, clientRole_takeOver, if_pos rfl]
        rfl

omit [VteParser P] [Vt100Parser G] in
theorem clientRole_detachClient {w : Workspace P G} {c clientId : Uuid}
    (hne : c ≠ clientId)
    (reason : DetachReason) :
    (w.detachClient clientId reason).2.clientRole c = w.clientRole c := by
  rcases detachClient_cases w clientId reason with ⟨_, hres⟩ | ⟨_, hres⟩
  · rw [hres]
  · rw [hres]
    exact (HashMap.lookup_erase_eq _ _ _).trans (if_neg hne)

/-- What a successful attach did: it attached the client, cleared stale modes,
rendered every pane, and touched nothing else of the panes and clients. -/
structure Attached (w w' : Workspace P G) (clientId : Uuid) (mode : AttachMode) (now : Nat)
    (proc : ProcFs) (reply : AttachReply) : Prop where
  outcome : ∃ role rev, (w.attachClient clientId mode now).1 = .ok (.attached role rev)
  clients : w'.attachedClients = (w.attachClient clientId mode now).2.attachedClients
  role : (w'.clientRole clientId).isSome = true
  panes : ∀ k, w'.panes.lookup k =
    (w.panes.lookup k).map (fun p => ((p.sanitizeModesIfIdle proc).2.snapshot proc).2)
  entries : ∀ k p, w.panes.lookup k = some p →
    ((p.sanitizeModesIfIdle proc).2.snapshot proc).1 ∈ reply.snapshot.panes

theorem handleV3Attach_some {w w' : Workspace P G} {clientId : Uuid} {mode : AttachMode}
    {now : Nat} {proc : ProcFs} {reply : AttachReply}
    (h : w.handleV3Attach clientId mode now proc = (some reply, w')) :
    Attached w w' clientId mode now proc reply := by
  have hpanes := attachClient_panes w clientId mode now
  rcases hattach : w.attachClient clientId mode now with ⟨_ | ⟨role, rev⟩ | _, wa⟩
  · simp [handleV3Attach, hattach] at h
  · simp only [handleV3Attach, hattach, Prod.mk.injEq, Option.some.injEq] at h
    obtain ⟨rfl, rfl⟩ := h
    rw [hattach] at hpanes
    obtain ⟨_, _, hrefresh⟩ := refreshAutoName_effect (wa.sanitizePanes proc).2 proc
    have hnamed : (((wa.sanitizePanes proc).2.refreshAutoName proc).2).panes =
        (wa.sanitizePanes proc).2.panes := refreshAutoName_panes _ _
    have hclients : (((wa.sanitizePanes proc).2.refreshAutoName proc).2).attachedClients =
        wa.attachedClients := by
      rw [hrefresh]
      rfl
    have hlook : ∀ k, (((wa.sanitizePanes proc).2.refreshAutoName proc).2).panes.lookup k =
        (w.panes.lookup k).map (fun p => (p.sanitizeModesIfIdle proc).2) := by
      intro k
      rw [hnamed, lookup_sanitizePanes, hpanes]
    refine ⟨⟨role, rev, by rw [hattach]⟩, ?_, ?_, ?_, ?_⟩
    · rw [hattach]
      exact hclients
    · have hrole := clientRole_of_attached hattach
      simp only [clientRole] at hrole ⊢
      rw [← hclients] at hrole
      exact hrole
    · intro k
      refine (lookup_buildSnapshot _ _ _ _).trans ?_
      rw [hlook, Option.map_map]
      rfl
    · intro k p hp
      have hhealed : (((wa.sanitizePanes proc).2.refreshAutoName proc).2).panes.lookup k =
          some (p.sanitizeModesIfIdle proc).2 := by
        rw [hlook, hp, Option.map_some]
      exact buildSnapshot_entry hhealed _ _
  · simp [handleV3Attach, hattach] at h

/-- A refused attach leaves the panes and the clients. -/
theorem handleV3Attach_none {w w' : Workspace P G} {clientId : Uuid} {mode : AttachMode}
    {now : Nat} {proc : ProcFs}
    (h : w.handleV3Attach clientId mode now proc = (none, w')) :
    w' = (w.attachClient clientId mode now).2 := by
  rcases hattach : w.attachClient clientId mode now with ⟨_ | ⟨role, rev⟩ | _, wa⟩
  · simp only [handleV3Attach, hattach, Prod.mk.injEq, true_and] at h
    exact h.symm
  · simp [handleV3Attach, hattach] at h
  · simp only [handleV3Attach, hattach, Prod.mk.injEq, true_and] at h
    exact h.symm

end Workspace

end Laws

end Server
end Rttx
