import Rttx.Kernel.ReplicaFeed
import Rttx.Server.Messages
import Rttx.Server.PaneStructure
import Rttx.Server.WriteLease

/-!
# Replicas of a workspace's tree and name

A client that keeps a copy of a workspace's tree and name takes it from the
snapshot that answers its attach, and applies the pushes about the workspace
and the responses to its own requests as they are delivered.

A change of the tree is told to the other attached clients while the daemon
still holds the server lock.  A rename is told after the workspace lock was
released, by the handler or by the output task, and a pane that is created
without a split is told to nobody.  The client that asked gets a response, which
its writer prefers to the pushes that wait.

**Results.**
* `ofSnapshot_build`: a snapshot carries the tree and the name.
* `apply_split`, `apply_close`, …: what is told about a change makes a copy
  follow it.
* `Converging.next`: in ordered runs the feed of every copy leads to the
  workspace.
* `replicas_converge`: when nothing is on its way, every copy agrees with it.
* `replicas_diverge`: a run for each way in which they do not.
-/

namespace Rttx
namespace Server

open Kernel

universe u v

section Replicas

/-- What a client that follows a workspace holds. -/
structure Replica where
  tree : WorkspaceTree
  name : String
deriving DecidableEq

def axisFromProto : PaneSplitAxis → SplitAxis
  | .vertical => .vertical
  | .horizontal => .horizontal
  | .unspecified => .horizontal

def paneTreeFromProto : PaneTreeNode → Option PaneTree
  | .missing => none
  | .leaf paneId => (bytesToUuid paneId).map (fun id => .leaf (.fromUuid id))
  | .split axis ratio first second =>
      match paneTreeFromProto first, paneTreeFromProto second with
      | some first, some second => some (.split (axisFromProto axis) ratio first second)
      | _, _ => none

namespace Replica

/-- The copy that a snapshot describes. -/
def ofSnapshot (snapshot : WorkspaceSnapshot) : Option Replica :=
  let active := (bytesToUuid snapshot.defaultActivePaneId).map PaneId.fromUuid
  match snapshot.tree with
  | none => some ⟨⟨none, active⟩, snapshot.name⟩
  | some node =>
      (paneTreeFromProto node).map (fun root => ⟨⟨some root, active⟩, snapshot.name⟩)

/-- A pane that was created without a split goes where the daemon puts it. -/
def addPane (r : Replica) (paneId : Uuid) : Replica :=
  { r with tree := placePane r.tree r.tree.defaultActive (.fromUuid paneId) }

/-- Apply a push, or a response to an own request. -/
def applyPayload : Option Replica → ServerPayload → Option Replica
  | _, .workspaceSnapshot _ snapshot => ofSnapshot snapshot
  | some r, .paneCreated _ paneId _ => some (r.addPane paneId)
  | some r, .paneSplit _ target newPane axis ratio _ =>
      some { r with tree :=
        (r.tree.split (.fromUuid target) (.fromUuid newPane) axis ratio).1 }
  | some r, .paneClosed _ paneId _ =>
      some { r with tree := (r.tree.close (.fromUuid paneId)).1 }
  | some r, .splitResized _ path ratio _ =>
      some { r with tree := (r.tree.resizeSplit path ratio).1 }
  | some r, .focusChanged _ paneId _ =>
      some { r with tree := (r.tree.setDefaultActive (.fromUuid paneId)).1 }
  | some r, .workspaceRenamed _ name _ _ => some { r with name := name }
  | r, _ => r

end Replica

namespace ServerPayload

def concernsName : ServerPayload → Bool
  | workspaceRenamed _ _ _ _ => true
  | _ => false

def concernsTree : ServerPayload → Bool
  | paneCreated _ _ _ => true
  | paneSplit _ _ _ _ _ _ => true
  | paneClosed _ _ _ => true
  | splitResized _ _ _ _ => true
  | focusChanged _ _ _ => true
  | _ => false

/-- One is about the name and the other about the tree. -/
def independent (p q : ServerPayload) : Bool :=
  (p.concernsName && q.concernsTree) || (p.concernsTree && q.concernsName)

end ServerPayload

/-- A rename commutes with every change of the tree. -/
theorem Replica.rename_commutes {p q : ServerPayload}
    (hname : p.concernsName = true)
    (htree : q.concernsTree = true)
    (r : Option Replica) :
    applyPayload (applyPayload r p) q = applyPayload (applyPayload r q) p := by
  obtain ⟨runtimeId, name, rev, userRenamed, rfl⟩ : ∃ runtimeId name rev userRenamed,
      p = .workspaceRenamed runtimeId name rev userRenamed := by
    cases p with
    | workspaceRenamed runtimeId name rev userRenamed => exact ⟨_, _, _, _, rfl⟩
    | _ => cases hname
  cases q with
  | paneCreated _ _ _ => cases r <;> rfl
  | paneSplit _ _ _ _ _ _ => cases r <;> rfl
  | paneClosed _ _ _ => cases r <;> rfl
  | splitResized _ _ _ _ => cases r <;> rfl
  | focusChanged _ _ _ => cases r <;> rfl
  | _ => cases htree

theorem Replica.commutes_of_independent {p q : ServerPayload}
    (h : p.independent q = true) :
    Feed.Commutes applyPayload p q := by
  intro r
  simp only [ServerPayload.independent, Bool.or_eq_true, Bool.and_eq_true] at h
  rcases h with ⟨hname, htree⟩ | ⟨htree, hname⟩
  · exact Replica.rename_commutes hname htree r
  · exact (Replica.rename_commutes hname htree r).symm

end Replicas

namespace Workspace

section Copies

variable {P : Type u} {G : Type v}

/-- The copy that agrees with a workspace. -/
def replica (w : Workspace P G) : Replica :=
  ⟨w.tree, w.name⟩

theorem paneTreeFromProto_toProto (t : PaneTree) :
    paneTreeFromProto (paneTreeToProto t) = some t := by
  induction t with
  | leaf pane => simp [paneTreeToProto, paneTreeFromProto, bytesToUuid_uuidToBytes]
  | split axis ratio first second ihF ihS =>
      simp only [paneTreeToProto, paneTreeFromProto, ihF, ihS]
      cases axis <;> rfl

theorem activeFromProto (tree : WorkspaceTree) :
    (bytesToUuid (defaultActiveBytes tree)).map PaneId.fromUuid = tree.defaultActive := by
  unfold defaultActiveBytes
  cases tree.defaultActive with
  | none => rfl
  | some pane => simp [bytesToUuid_uuidToBytes]

/-- A snapshot carries the tree and the name. -/
theorem ofSnapshot_build [Vt100Parser G] (w : Workspace P G) (role : WorkspaceClientRole)
    (proc : ProcFs) :
    Replica.ofSnapshot (w.buildV3WorkspaceSnapshot role proc).1 = some w.replica := by
  simp only [Replica.ofSnapshot, buildV3WorkspaceSnapshot, workspaceTreeToProto,
    activeFromProto]
  obtain ⟨tree, hw⟩ : ∃ tree, w.tree = tree := ⟨_, rfl⟩
  obtain ⟨root, active⟩ := tree
  rw [replica, hw]
  cases root with
  | none => rfl
  | some root => simp [paneTreeFromProto_toProto]

end Copies

section Follow

variable {P : Type u} {G : Type v}

theorem apply_addPane {w : Workspace P G}
    (h : w.Coherent)
    (pane : Pane P G)
    (runtimeId : Uuid)
    (rev : Nat) :
    Replica.applyPayload (some w.replica) (.paneCreated runtimeId pane.id rev) =
      some (w.addPane pane).replica := by
  have hfocus : w.activePaneId.map PaneId.fromUuid = w.tree.defaultActive := by
    rw [h.focus, Option.map_map]
    cases w.tree.defaultActive <;> rfl
  have htree : (w.addPane pane).tree =
      placePane w.tree (w.activePaneId.map PaneId.fromUuid) (.fromUuid pane.id) := by
    simp only [addPane]
    split <;> rfl
  obtain ⟨_, _, _, _, heffect⟩ := addPane_effect w pane
  have hname : (w.addPane pane).name = w.name := by rw [heffect]
  rw [hfocus] at htree
  simp only [Replica.applyPayload, Replica.addPane, replica, htree, hname]

theorem apply_split {w w' : Workspace P G} {target : Uuid} {pane : Pane P G}
    {axis : SplitAxis} {ratio : F32} {revision : Nat}
    (h : w.splitPane target pane axis ratio = (some revision, w'))
    (runtimeId : Uuid) :
    Replica.applyPayload (some w.replica)
      (.paneSplit runtimeId target pane.id axis ratio revision) = some w'.replica := by
  rcases splitPane_cases w target pane axis ratio with hnone | ⟨tree, _, hsplit, _, hres⟩
  · simp [hnone] at h
  · rw [h] at hres
    simp only at hres
    subst hres
    simp only [Replica.applyPayload, replica, hsplit]
    rfl

theorem apply_close {w w' : Workspace P G} {paneId : Uuid} {pane : Pane P G}
    (h : w.removePane paneId = (some pane, w'))
    (runtimeId : Uuid)
    (rev : Nat) :
    Replica.applyPayload (some w.replica) (.paneClosed runtimeId paneId rev) =
      some w'.replica := by
  rcases removePane_cases w paneId with ⟨_, hnone⟩ | ⟨_, _, _, hres⟩
  · simp [hnone] at h
  · rw [h] at hres
    simp only at hres
    subst hres
    rfl

theorem apply_resize {w w' : Workspace P G} {path : List Side} {ratio : F32} {revision : Nat}
    (h : w.resizeSplit path ratio = (some revision, w'))
    (runtimeId : Uuid) :
    Replica.applyPayload (some w.replica) (.splitResized runtimeId path ratio revision) =
      some w'.replica := by
  rcases resizeSplit_cases w path ratio with hnone | ⟨_, hres⟩
  · simp [hnone] at h
  · rw [h] at hres
    simp only at hres
    subst hres
    rfl

theorem apply_focus {w w' : Workspace P G} {paneId : Uuid} {revision : Nat}
    (h : w.setDefaultActivePane paneId = (some revision, w'))
    (runtimeId : Uuid) :
    Replica.applyPayload (some w.replica) (.focusChanged runtimeId paneId revision) =
      some w'.replica := by
  rcases setDefaultActivePane_cases w paneId with hnone | ⟨hmem, _, hres⟩
  · simp [hnone] at h
  · rw [h] at hres
    simp only at hres
    subst hres
    simp only [Replica.applyPayload, replica, WorkspaceTree.setDefaultActive_of_mem hmem]
    rfl

theorem apply_rename {w w' : Workspace P G} {name : String}
    (htree : w'.tree = w.tree)
    (hname : name = w'.name)
    (runtimeId : Uuid)
    (rev : Nat)
    (userRenamed : Bool) :
    Replica.applyPayload (some w.replica) (.workspaceRenamed runtimeId name rev userRenamed) =
      some w'.replica := by
  rw [hname, replica, ← htree]
  rfl

theorem replica_of_changesClients {w w' : Workspace P G}
    (h : w.ChangesClients w') :
    w'.replica = w.replica := by
  obtain ⟨_, _, _, rfl⟩ := h
  rfl

/-- A refused automatic rename changes nothing, another names the workspace. -/
theorem refreshAutoName_name (w : Workspace P G) (proc : ProcFs) :
    ((w.refreshAutoName proc).1 = none ∧ (w.refreshAutoName proc).2.name = w.name) ∨
      (w.refreshAutoName proc).1 = some (w.refreshAutoName proc).2.name := by
  simp only [refreshAutoName]
  split
  · exact Or.inl ⟨rfl, rfl⟩
  · split
    · exact Or.inl ⟨rfl, rfl⟩
    · split
      · exact Or.inl ⟨rfl, rfl⟩
      · exact Or.inr rfl

theorem setAutoName_of_none {w : Workspace P G} {name : String}
    (h : (w.setAutoName name).1 = none) :
    (w.setAutoName name).2 = w := by
  unfold setAutoName at h ⊢
  split
  · rfl
  · next hchange => simp [hchange] at h

/-- An automatic rename reports the name it gives, and none if it keeps the name. -/
theorem recordName_name (w : Workspace P G) (paneId : Uuid) (cwdChanged : Bool)
    (proc : ProcFs) :
    ((w.recordName paneId cwdChanged proc).1 = none →
        (w.recordName paneId cwdChanged proc).2.name = w.name) ∧
      (∀ name revision, (w.recordName paneId cwdChanged proc).1 = some (name, revision) →
        (w.recordName paneId cwdChanged proc).2.name = name) := by
  simp only [recordName]
  split
  · rcases refreshAutoName_name w proc with ⟨hnone, hname⟩ | hsome
    · simp [hnone, hname]
    · rw [hsome]
      simp
  · refine ⟨fun _ => rfl, ?_⟩
    intro name revision h
    cases h

theorem recordTitle_name (w : Workspace P G) (paneId : Uuid) (newTitle : Option String) :
    (w.recordTitle paneId newTitle).2.name = w.name := by
  cases newTitle with
  | none => rfl
  | some title =>
      simp only [recordTitle, setPaneTitle, updatePane]
      split
      · rfl
      · simp only
        split <;> rfl

/-- What an output task reports as the new name is the name, and without a
report the name is the old one. -/
theorem returnOutput_name (w : Workspace P G) (paneId : Uuid) (screen : PaneScreen P G)
    (proc : ProcFs) :
    ((w.returnOutput paneId screen proc).1.newName = none →
        (w.returnOutput paneId screen proc).2.name = w.name) ∧
      (∀ name revision, (w.returnOutput paneId screen proc).1.newName = some (name, revision) →
        (w.returnOutput paneId screen proc).2.name = name) := by
  cases hpane : w.panes.lookup paneId with
  | none =>
      simp only [returnOutput, hpane]
      refine ⟨fun _ => trivial, ?_⟩
      intro name revision h
      cases h
  | some pane =>
      let put : Workspace P G :=
        { w with panes := w.panes.insert paneId (pane.returnScreen screen).2 }
      let moved := put.recordCwd paneId (pane.returnScreen screen).1.newCwd
      let named := moved.2.recordName paneId moved.1.isSome proc
      have hmoved : moved.2.name = w.name := by
        obtain ⟨_, hcwd⟩ := recordCwd_effect put paneId (pane.returnScreen screen).1.newCwd
        simp only [moved, hcwd, put]
      have hreport : (w.returnOutput paneId screen proc).1.newName = named.1 := by
        simp only [returnOutput, hpane]
        rfl
      have hname : (w.returnOutput paneId screen proc).2.name = named.2.name := by
        have hout : (w.returnOutput paneId screen proc).2 =
            (named.2.recordTitle paneId (pane.returnScreen screen).1.newTitle).2 := by
          simp only [returnOutput, hpane]
          rfl
        rw [hout, recordTitle_name]
      rw [hreport, hname]
      have hnamed := recordName_name moved.2 paneId moved.1.isSome proc
      exact ⟨fun h => (hnamed.1 h).trans hmoved, hnamed.2⟩

/-- A successful attach changes neither the tree nor the panes there are, answers
with what the workspace then is, and reports the name it gave. -/
structure AttachedCopy (w w' : Workspace P G) (reply : AttachReply) : Prop where
  structure_eq : w.SameStructure w'
  copied : Replica.ofSnapshot reply.snapshot = some w'.replica
  unnamed : reply.renamed = none → w'.name = w.name
  named : ∀ name revision, reply.renamed = some (name, revision) → w'.name = name

theorem attachedCopy_of_handleV3Attach [VteParser P] [Vt100Parser G] {w w' : Workspace P G}
    {clientId : Uuid} {mode : AttachMode} {now : Nat} {proc : ProcFs} {reply : AttachReply}
    (h : w.handleV3Attach clientId mode now proc = (some reply, w')) :
    w.AttachedCopy w' reply := by
  have heffect := attachClient_effect w clientId mode now
  rcases hattach : w.attachClient clientId mode now with ⟨_ | ⟨role, rev⟩ | _, wa⟩
  · simp [handleV3Attach, hattach] at h
  · simp only [handleV3Attach, hattach, Prod.mk.injEq, Option.some.injEq] at h
    rw [hattach] at heffect
    obtain ⟨rfl, rfl⟩ := h
    have hwa : wa.name = w.name := congrArg Replica.name (replica_of_changesClients heffect)
    have hsane : wa.SameStructure (wa.sanitizePanes proc).2 := by
      refine ⟨rfl, rfl, fun id => ?_⟩
      rw [← AList.lookup_isSome, lookup_sanitizePanes, Option.isSome_map, AList.lookup_isSome]
    have hnamed := refreshAutoName_frame (wa.sanitizePanes proc).2 proc
    have hbuilt : ∀ v : Workspace P G,
        v.SameStructure (v.buildV3WorkspaceSnapshot role.asV3Proto proc).2 := by
      refine fun v => ⟨rfl, rfl, fun id => ?_⟩
      rw [← AList.lookup_isSome, lookup_buildSnapshot, Option.isSome_map, AList.lookup_isSome]
    have hname := refreshAutoName_name (wa.sanitizePanes proc).2 proc
    refine ⟨((heffect.sameStructure.trans hsane).trans hnamed).trans (hbuilt _),
      ofSnapshot_build _ _ _, ?_, ?_⟩
    · intro hnone
      rcases hname with ⟨_, hkept⟩ | hsome
      · exact hkept.trans hwa
      · rw [hsome] at hnone
        cases hnone
    · intro name revision hsome
      rcases hname with ⟨hnone, _⟩ | hgiven
      · rw [hnone] at hsome
        cases hsome
      · rw [hgiven] at hsome
        exact congrArg Prod.fst (Option.some.inj hsome)
  · simp [handleV3Attach, hattach] at h

end Follow

end Workspace

/-- Who announces a rename: the handler of a request, or an output task. -/
inductive Announcer
  | handler (clientId : Uuid)
  | output (task : Nat)
deriving DecidableEq

/-- A push that is still to be sent, each target once. -/
structure Announcement where
  announcer : Announcer
  targets : List Uuid
  nodup : targets.Nodup
  payload : ServerPayload

/-- What a shell is started for. -/
inductive SpawnRequest
  | createPane
  | splitPane (target : Uuid) (axis : SplitAxis) (ratio : F32)
deriving DecidableEq

/-- The handler of a client's requests: it waits for one, it has started a shell
with no lock held, or it has computed a response and not yet sent it. -/
inductive HandlerPhase
  | waiting
  | spawning (request : SpawnRequest)
  | answering (p : ServerPayload)
deriving DecidableEq

namespace SpawnRequest

/-- A split needs its target. -/
def accepted {P : Type u} {G : Type v} (w : Workspace P G) : SpawnRequest → Bool
  | createPane => true
  | splitPane target _ _ => w.tree.contains (.fromUuid target)

/-- A split without a valid ratio is an even one. -/
def normalized : SpawnRequest → SpawnRequest
  | createPane => createPane
  | splitPane target axis ratio =>
      splitPane target axis (if ratioIsValid ratio then ratio else F32.half)

end SpawnRequest

def HandlerPhase.response : HandlerPhase → Option ServerPayload
  | .answering p => some p
  | _ => none

/-- A connected client: its channels, its handler, whether it follows the
workspace since an attach, and its copy.  Of the feed the daemon and the client
know the copy only. -/
structure ReplicaClient where
  push : List ServerPayload
  resp : List ServerPayload
  phase : HandlerPhase
  watching : Bool
  feed : Feed (Option Replica) ServerPayload

/-- The clients an output task has collected for its batch. -/
structure OutputSenders where
  senders : List Uuid
  nodup : senders.Nodup

/-- One workspace, and what is on its way to the clients. -/
structure ReplicaState (P : Type u) (G : Type v) where
  workspace : Workspace P G
  clients : HashMap Uuid ReplicaClient
  announcements : List Announcement
  tasks : HashMap Nat OutputSenders

inductive ReplicaStep (P : Type u) (G : Type v)
  | connect (clientId : Uuid)
  | disconnect (clientId : Uuid)
  | leave (clientId : Uuid)
  | attach (clientId : Uuid) (mode : AttachMode) (now : Nat) (proc : ProcFs)
  | detach (clientId : Uuid)
  | takeover (clientId : Uuid) (now : Nat)
  | spawn (clientId : Uuid) (request : SpawnRequest)
  | spawnFails (clientId : Uuid)
  | spawned (clientId : Uuid) (pane : Pane P G)
  | closePane (clientId paneId : Uuid)
  | resizeSplit (clientId : Uuid) (path : List Side) (ratio : F32)
  | setFocus (clientId paneId : Uuid)
  | rename (clientId : Uuid) (name : String) (automatic : Bool)
  | announce (index : Nat)
  | answer (clientId : Uuid)
  | deliver (clientId : Uuid)
  | outputTake (task : Nat) (paneId : Uuid) (raw : Bytes)
  | outputReturn (task : Nat) (paneId : Uuid) (screen : PaneScreen P G) (proc : ProcFs)
  | resizePane (paneId : Uuid) (cols rows : Nat)
  | setPaneTitle (paneId : Uuid) (title : String)

namespace ReplicaClient

def new : ReplicaClient :=
  ⟨[], [], .waiting, false, ⟨none, []⟩⟩

/-- Something is on its way to the client. -/
def owe (cl : ReplicaClient) (p : ServerPayload) : ReplicaClient :=
  { cl with feed := cl.feed.owe p }

def enqueue (cl : ReplicaClient) (p : ServerPayload) : ReplicaClient :=
  { cl with push := cl.push ++ [p] }

/-- The message that the client's writer takes next, responses first. -/
def front (cl : ReplicaClient) : Option ServerPayload :=
  cl.resp.head?.or cl.push.head?

/-- The client applies it. -/
def deliver (cl : ReplicaClient) : Option ReplicaClient :=
  match cl.resp, cl.push with
  | p :: resp, _ => some { cl with resp := resp, feed := cl.feed.deliver Replica.applyPayload p }
  | [], p :: push => some { cl with push := push, feed := cl.feed.deliver Replica.applyPayload p }
  | [], [] => none

end ReplicaClient

namespace ReplicaState

section Updates

variable {P : Type u} {G : Type v}

/-- What an announcement holds for a client. -/
def announcedTo (clientId : Uuid) (a : Announcement) : Option ServerPayload :=
  if clientId ∈ a.targets then some a.payload else none

/-- Everything on its way to a client. -/
def located (s : ReplicaState P G) (clientId : Uuid) (cl : ReplicaClient) :
    List ServerPayload :=
  cl.push ++ cl.resp ++ cl.phase.response.toList ++ s.announcements.filterMap (announcedTo clientId)

/-- The attached clients but one. -/
def others (w : Workspace P G) (clientId : Uuid) : List Uuid :=
  w.attachedClients.keys.filter (fun c => c ≠ clientId)

theorem others_nodup (w : Workspace P G) (clientId : Uuid) : (others w clientId).Nodup :=
  w.attachedClients.keys_nodup.filter _

def announcing (s : ReplicaState P G) (a : Announcer) : Bool :=
  s.announcements.any (fun pending => pending.announcer = a)

/-- Whether the client is connected and its handler is waiting for a request. -/
def isIdle (s : ReplicaState P G) (clientId : Uuid) : Bool :=
  (s.clients.lookup clientId).any (fun cl => cl.phase = .waiting) &&
    !s.announcing (.handler clientId)

/-- What the client's handler has started a shell for. -/
def spawning (s : ReplicaState P G) (clientId : Uuid) : Option SpawnRequest :=
  match (s.clients.lookup clientId).map ReplicaClient.phase with
  | some (.spawning request) => some request
  | _ => none

def setPhase (s : ReplicaState P G) (clientId : Uuid) (phase : HandlerPhase) :
    ReplicaState P G :=
  { s with clients := s.clients.modify clientId (fun cl => { cl with phase := phase }) }

/-- Client ids are minted. -/
def isNew (s : ReplicaState P G) (clientId : Uuid) : Bool :=
  (s.clients.lookup clientId).isNone && (s.workspace.clientRole clientId).isNone &&
    s.announcements.all (fun a => clientId ∉ a.targets) &&
    s.tasks.values.all (fun t => clientId ∉ t.senders)

/-- The handler of a client's request has computed its response. -/
def respond (s : ReplicaState P G) (clientId : Uuid) (p : ServerPayload) : ReplicaState P G :=
  { s with
    clients := s.clients.modify clientId (fun cl => { cl.owe p with phase := .answering p }) }

/-- Push to clients under the server lock. -/
def broadcast (s : ReplicaState P G) (targets : List Uuid) (p : ServerPayload) :
    ReplicaState P G :=
  { s with clients := s.clients.modifyAll (fun cl => (cl.owe p).enqueue p) targets }

/-- A push that will be sent later. -/
def announceLater (s : ReplicaState P G) (announcer : Announcer) (targets : List Uuid)
    (nodup : targets.Nodup) (p : ServerPayload) : ReplicaState P G :=
  { s with
    clients := s.clients.modifyAll (fun cl => cl.owe p) targets
    announcements := s.announcements ++ [⟨announcer, targets, nodup, p⟩] }

/-- A change of the tree: the others are told, and the client that asked gets
the same as its response. -/
def change (s : ReplicaState P G) (clientId : Uuid) (w : Workspace P G) (p : ServerPayload) :
    ReplicaState P G :=
  ({ s with workspace := w }.broadcast (others w clientId) p).respond clientId p

/-- A client follows the workspace from a snapshot on. -/
def follow (s : ReplicaState P G) (clientId : Uuid) (w : Workspace P G)
    (snapshot : WorkspaceSnapshot) : ReplicaState P G :=
  ({ s with
      workspace := w
      clients := s.clients.modify clientId (fun cl => { cl with watching := true }) } :
    ReplicaState P G).respond clientId (.workspaceSnapshot w.id snapshot)

end Updates

section Steps

variable {P : Type u} {G : Type v}
variable [VteParser P] [Vt100Parser G]

/-- One step.  A handler that changes the tree holds the server lock from the
change to its broadcast.  A refused request changes nothing, and its error
response, which no copy depends on, is left out. -/
def next (s : ReplicaState P G) : ReplicaStep P G → Option (ReplicaState P G)
  | .connect clientId =>
      if s.isNew clientId then
        some { s with clients := s.clients.insert clientId .new }
      else
        none
  | .disconnect clientId =>
      if (s.clients.lookup clientId).isSome then
        some { s with clients := s.clients.erase clientId }
      else
        none
  | .leave clientId =>
      if (s.clients.lookup clientId).isNone then
        some { s with workspace := (s.workspace.detachClient clientId .disconnect).2 }
      else
        none
  | .attach clientId mode now proc =>
      if s.isIdle clientId then
        match s.workspace.handleV3Attach clientId mode now proc with
        | (none, w) => some { s with workspace := w }
        | (some reply, w) =>
            let s := s.follow clientId w reply.snapshot
            match reply.renamed with
            | none => some s
            | some (name, revision) =>
                some (s.announceLater (.handler clientId) (others w clientId)
                  (others_nodup w clientId) (.workspaceRenamed w.id name revision false))
      else
        none
  | .detach clientId =>
      if s.isIdle clientId then
        some { s with
          workspace := (s.workspace.detachClient clientId .explicitRequest).2
          clients := s.clients.modify clientId (fun cl => { cl with watching := false }) }
      else
        none
  | .takeover clientId now =>
      if s.isIdle clientId then
        some { s with workspace := (s.workspace.attachClient clientId .takeOver now).2 }
      else
        none
  | .spawn clientId request =>
      if s.isIdle clientId ∧ s.workspace.clientHasWriteAccess clientId ∧
          request.accepted s.workspace = true then
        some (s.setPhase clientId (.spawning request.normalized))
      else
        none
  | .spawnFails clientId =>
      match s.spawning clientId with
      | none => none
      | some _ => some (s.setPhase clientId .waiting)
  | .spawned clientId pane =>
      match s.spawning clientId with
      | none => none
      | some .createPane =>
          let w := s.workspace.addPane pane
          some ({ s with workspace := w }.respond clientId
            (.paneCreated w.id pane.id w.revision))
      | some (.splitPane target axis ratio) =>
          match s.workspace.splitPane target pane axis ratio with
          | (none, _) => some (s.setPhase clientId .waiting)
          | (some revision, w) =>
              some (s.change clientId w (.paneSplit w.id target pane.id axis ratio revision))
  | .closePane clientId paneId =>
      if s.isIdle clientId ∧ s.workspace.clientHasWriteAccess clientId then
        match s.workspace.removePane paneId with
        | (none, _) => none
        | (some _, w) => some (s.change clientId w (.paneClosed w.id paneId w.revision))
      else
        none
  | .resizeSplit clientId path ratio =>
      if s.isIdle clientId ∧ s.workspace.clientHasWriteAccess clientId then
        match s.workspace.resizeSplit path ratio with
        | (none, _) => none
        | (some revision, w) =>
            some (s.change clientId w (.splitResized w.id path ratio revision))
      else
        none
  | .setFocus clientId paneId =>
      if s.isIdle clientId ∧ s.workspace.clientHasWriteAccess clientId then
        match s.workspace.setDefaultActivePane paneId with
        | (none, _) => none
        | (some revision, w) =>
            some (s.change clientId w (.focusChanged w.id paneId revision))
      else
        none
  | .rename clientId name automatic =>
      if s.isIdle clientId ∧ s.workspace.clientHasWriteAccess clientId then
        let (changed, w) :=
          if automatic then
            s.workspace.setAutoName name
          else
            (some (s.workspace.rename name).1, (s.workspace.rename name).2)
        let p := .workspaceRenamed w.id w.name w.revision w.userRenamed
        let s := { s with workspace := w }.respond clientId p
        if changed.isSome then
          some (s.announceLater (.handler clientId) (others w clientId)
            (others_nodup w clientId) p)
        else
          some s
      else
        none
  | .announce index =>
      match s.announcements[index]? with
      | none => none
      | some a =>
          some { s with
            clients := s.clients.modifyAll (fun cl => cl.enqueue a.payload) a.targets
            announcements := s.announcements.eraseIdx index }
  | .answer clientId =>
      if s.announcing (.handler clientId) then
        none
      else
        match s.clients.lookup clientId with
        | none => none
        | some cl =>
            match cl.phase with
            | .answering p =>
                some { s with
                  clients := s.clients.insert clientId
                    { cl with resp := cl.resp ++ [p], phase := .waiting } }
            | _ => none
  | .deliver clientId =>
      ((s.clients.lookup clientId).bind ReplicaClient.deliver).map (fun cl =>
        { s with clients := s.clients.insert clientId cl })
  | .outputTake task paneId raw =>
      if s.tasks.lookup task = none ∧ !s.announcing (.output task) then
        let w := (s.workspace.takeOutput paneId raw).2
        some { s with
          workspace := w
          tasks := s.tasks.insert task
            ⟨w.attachedClients.keys.filter (fun c => (s.clients.lookup c).isSome),
              w.attachedClients.keys_nodup.filter _⟩ }
      else
        none
  | .outputReturn task paneId screen proc =>
      match s.tasks.lookup task with
      | none => none
      | some t =>
          match s.workspace.returnOutput paneId screen proc with
          | (report, w) =>
              let s := { s with workspace := w, tasks := s.tasks.erase task }
              match report.newName with
              | none => some s
              | some (name, revision) =>
                  some (s.announceLater (.output task) t.senders t.nodup
                    (.workspaceRenamed w.id name revision false))
  | .resizePane paneId cols rows =>
      some { s with workspace := (s.workspace.resizePane paneId cols rows).2 }
  | .setPaneTitle paneId title =>
      some { s with workspace := (s.workspace.setPaneTitle paneId title).2 }

variable (P G) in
/-- A workspace as the daemon creates it, with nobody connected. -/
def system : System (ReplicaState P G) (ReplicaStep P G) where
  init := fun s => ∃ w : Workspace P G, w.IsFresh ∧ s = ⟨w, ∅, [], ∅⟩
  next := next

end Steps

section Order

variable {P : Type u} {G : Type v}

/-- The clients that follow the workspace are among these. -/
def followersAmong (s : ReplicaState P G) (ids : List Uuid) : Bool :=
  s.clients.entries.all (fun e => !e.2.watching || e.1 ∈ ids)

/-- A client that follows the workspace is delivered a change after the older
ones, apart from a rename and a change of the tree. -/
def deliversInOrder (cl : ReplicaClient) : Bool :=
  !cl.watching || cl.front.all (fun p => (cl.feed.earlier p).all (fun k => k.independent p))

/-- A pane is created without a split while no other client follows the
workspace, an output task renames it while all who follow it are among the
clients it has collected, and changes are delivered in order. -/
def inOrder (s : ReplicaState P G) : ReplicaStep P G → Bool
  | .spawned clientId _ =>
      s.spawning clientId ≠ some .createPane || s.followersAmong [clientId]
  | .deliver clientId => (s.clients.lookup clientId).all deliversInOrder
  | .outputReturn task paneId screen proc =>
      (s.workspace.returnOutput paneId screen proc).1.newName.isNone ||
        (s.tasks.lookup task).all (fun t => s.followersAmong t.senders)
  | _ => true

theorem mem_of_followersAmong {s : ReplicaState P G} {ids : List Uuid} {j : Uuid}
    {cl : ReplicaClient}
    (h : s.followersAmong ids = true)
    (hj : s.clients.lookup j = some cl)
    (hwatching : cl.watching = true) :
    j ∈ ids := by
  have hentry := List.all_eq_true.mp h ⟨j, cl⟩ ((HashMap.lookup_eq_some_iff_mem _ _ _).mp hj)
  simpa [hwatching] using hentry

end Order

section Told

variable {P : Type u} {G : Type v}

theorem mem_others {w : Workspace P G} {j clientId : Uuid}
    (hrole : (w.clientRole j).isSome = true)
    (hne : j ≠ clientId) :
    j ∈ others w clientId :=
  List.mem_filter.mpr ⟨AList.lookup_isSome.mp hrole, by simpa using hne⟩

theorem not_mem_others (w : Workspace P G) (clientId : Uuid) : clientId ∉ others w clientId := by
  simp [others]

theorem lookup_respond (s : ReplicaState P G) (clientId : Uuid) (p : ServerPayload) (j : Uuid) :
    (s.respond clientId p).clients.lookup j =
      if j = clientId then
        (s.clients.lookup j).map (fun cl => { cl.owe p with phase := .answering p })
      else s.clients.lookup j :=
  HashMap.lookup_modify _ _ _ _

theorem lookup_broadcast {targets : List Uuid}
    (hnodup : targets.Nodup)
    (s : ReplicaState P G)
    (p : ServerPayload)
    (j : Uuid) :
    (s.broadcast targets p).clients.lookup j =
      if j ∈ targets then (s.clients.lookup j).map (fun cl => (cl.owe p).enqueue p)
      else s.clients.lookup j :=
  HashMap.lookup_modifyAll_of_nodup hnodup _ _ _

theorem lookup_announceLater {targets : List Uuid}
    (hnodup : targets.Nodup)
    (s : ReplicaState P G)
    (announcer : Announcer)
    (p : ServerPayload)
    (j : Uuid) :
    (s.announceLater announcer targets hnodup p).clients.lookup j =
      if j ∈ targets then (s.clients.lookup j).map (fun cl => cl.owe p)
      else s.clients.lookup j :=
  HashMap.lookup_modifyAll_of_nodup hnodup _ _ _

/-- Those who follow the workspace are attached to it. -/
def Attached (s : ReplicaState P G) (w : Workspace P G) : Prop :=
  ∀ j cl, s.clients.lookup j = some cl → cl.watching = true → (w.clientRole j).isSome = true

/-- What is due to a client is what is on its way to it. -/
def Located (s : ReplicaState P G) : Prop :=
  ∀ j cl, s.clients.lookup j = some cl → (s.located j cl).Perm cl.feed.due

/-- A client that follows the workspace is led to `r`. -/
def LeadsTo (s : ReplicaState P G) (j : Uuid) (r : Replica) : Prop :=
  ∀ cl, s.clients.lookup j = some cl → cl.watching = true →
    cl.feed.Leads Replica.applyPayload (some r)

/-- **Invariant.** -/
structure Converging (s : ReplicaState P G) : Prop where
  coherent : s.workspace.Coherent
  attached : s.Attached s.workspace
  located : s.Located
  leads : ∀ j, s.LeadsTo j s.workspace.replica

/-- The client's handler has no response that is not sent yet. -/
def Unanswered (s : ReplicaState P G) (clientId : Uuid) : Prop :=
  ∀ cl, s.clients.lookup clientId = some cl → cl.phase.response = none

theorem unanswered_of_isIdle {s : ReplicaState P G} {clientId : Uuid}
    (h : s.isIdle clientId = true) :
    s.Unanswered clientId := by
  intro cl hlook
  simp only [isIdle, hlook, Option.any_some, Bool.and_eq_true, decide_eq_true_eq] at h
  rw [h.1]
  rfl

theorem unanswered_of_spawning {s : ReplicaState P G} {clientId : Uuid} {request : SpawnRequest}
    (h : s.spawning clientId = some request) :
    s.Unanswered clientId := by
  intro cl hlook
  cases hphase : cl.phase with
  | answering p => simp [spawning, hlook, hphase] at h
  | _ => rfl

theorem Attached.respond {s : ReplicaState P G} {w : Workspace P G}
    (h : s.Attached w)
    (clientId : Uuid)
    (p : ServerPayload) :
    (s.respond clientId p).Attached w := by
  intro j cl' hj hwatching
  rw [lookup_respond] at hj
  split at hj
  · obtain ⟨cl, hlook, rfl⟩ := Option.map_eq_some_iff.mp hj
    exact h j cl hlook hwatching
  · exact h j cl' hj hwatching

theorem Attached.broadcast {s : ReplicaState P G} {w : Workspace P G} {targets : List Uuid}
    (h : s.Attached w)
    (hnodup : targets.Nodup)
    (p : ServerPayload) :
    (s.broadcast targets p).Attached w := by
  intro j cl' hj hwatching
  rw [lookup_broadcast hnodup] at hj
  split at hj
  · obtain ⟨cl, hlook, rfl⟩ := Option.map_eq_some_iff.mp hj
    exact h j cl hlook hwatching
  · exact h j cl' hj hwatching

theorem Attached.announceLater {s : ReplicaState P G} {w : Workspace P G} {targets : List Uuid}
    (h : s.Attached w)
    (hnodup : targets.Nodup)
    (announcer : Announcer)
    (p : ServerPayload) :
    (s.announceLater announcer targets hnodup p).Attached w := by
  intro j cl' hj hwatching
  rw [lookup_announceLater hnodup] at hj
  split at hj
  · obtain ⟨cl, hlook, rfl⟩ := Option.map_eq_some_iff.mp hj
    exact h j cl hlook hwatching
  · exact h j cl' hj hwatching

theorem Located.respond {s : ReplicaState P G} {clientId : Uuid}
    (h : s.Located)
    (hfree : s.Unanswered clientId)
    (p : ServerPayload) :
    (s.respond clientId p).Located := by
  intro j cl' hj
  rw [lookup_respond] at hj
  split at hj
  · next heq =>
    obtain ⟨cl, hlook, rfl⟩ := Option.map_eq_some_iff.mp hj
    have hnone := hfree cl (heq ▸ hlook)
    have hperm := (h j cl hlook).append_right [p]
    simp only [ReplicaState.located, hnone, Option.toList_none, List.append_nil] at hperm
    refine List.Perm.trans ?_ hperm
    simp only [ReplicaState.located, ReplicaState.respond, ReplicaClient.owe, List.append_assoc]
    exact ((List.perm_append_comm).append_left _).append_left _
  · exact h j cl' hj

theorem Located.broadcast {s : ReplicaState P G} {targets : List Uuid}
    (h : s.Located)
    (hnodup : targets.Nodup)
    (p : ServerPayload) :
    (s.broadcast targets p).Located := by
  intro j cl' hj
  rw [lookup_broadcast hnodup] at hj
  split at hj
  · obtain ⟨cl, hlook, rfl⟩ := Option.map_eq_some_iff.mp hj
    refine List.Perm.trans ?_ ((h j cl hlook).append_right [p])
    simp only [ReplicaState.located, ReplicaState.broadcast, ReplicaClient.owe,
      ReplicaClient.enqueue, List.append_assoc]
    have hback : ∀ rest : List ServerPayload, ([p] ++ rest).Perm (rest ++ [p]) :=
      fun _ => List.perm_append_comm
    refine List.Perm.append_left _ ?_
    simpa using hback (cl.resp ++ (cl.phase.response.toList ++
      s.announcements.filterMap (announcedTo j)))
  · exact h j cl' hj

theorem Located.announceLater {s : ReplicaState P G} {targets : List Uuid}
    (h : s.Located)
    (hnodup : targets.Nodup)
    (announcer : Announcer)
    (p : ServerPayload) :
    (s.announceLater announcer targets hnodup p).Located := by
  intro j cl' hj
  rw [lookup_announceLater hnodup] at hj
  split at hj
  · next hmem =>
    obtain ⟨cl, hlook, rfl⟩ := Option.map_eq_some_iff.mp hj
    have hperm := (h j cl hlook).append_right [p]
    simpa [ReplicaState.located, ReplicaState.announceLater, ReplicaClient.owe, Feed.owe,
      announcedTo, hmem] using hperm
  · next hmem =>
    have hperm := h j cl' hj
    simpa [ReplicaState.located, ReplicaState.announceLater, announcedTo, hmem] using hperm

/-- The client that asked follows a change with its response. -/
theorem LeadsTo.respond_self {s : ReplicaState P G} {clientId : Uuid} {p : ServerPayload}
    {r r' : Replica}
    (h : s.LeadsTo clientId r)
    (happly : Replica.applyPayload (some r) p = some r') :
    (s.respond clientId p).LeadsTo clientId r' := by
  intro cl' hj hwatching
  rw [lookup_respond, if_pos rfl] at hj
  obtain ⟨cl, hlook, rfl⟩ := Option.map_eq_some_iff.mp hj
  exact (h cl hlook hwatching).owe happly

/-- A response reaches nobody else. -/
theorem LeadsTo.respond_ne {s : ReplicaState P G} {clientId j : Uuid} {r : Replica}
    (h : s.LeadsTo j r)
    (hne : j ≠ clientId)
    (p : ServerPayload) :
    (s.respond clientId p).LeadsTo j r := by
  intro cl hj hwatching
  rw [lookup_respond, if_neg hne] at hj
  exact h cl hj hwatching

theorem LeadsTo.broadcast {s : ReplicaState P G} {targets : List Uuid} {j : Uuid}
    {p : ServerPayload} {r r' : Replica}
    (h : s.LeadsTo j r)
    (hnodup : targets.Nodup)
    (htold : ∀ cl, s.clients.lookup j = some cl → cl.watching = true → j ∈ targets)
    (happly : Replica.applyPayload (some r) p = some r') :
    (s.broadcast targets p).LeadsTo j r' := by
  intro cl' hj hwatching
  rw [lookup_broadcast hnodup] at hj
  split at hj
  · obtain ⟨cl, hlook, rfl⟩ := Option.map_eq_some_iff.mp hj
    exact (h cl hlook hwatching).owe happly
  · next hnot => exact absurd (htold cl' hj hwatching) hnot

theorem LeadsTo.broadcast_of_not_mem {s : ReplicaState P G} {targets : List Uuid} {j : Uuid}
    {r : Replica}
    (h : s.LeadsTo j r)
    (hnodup : targets.Nodup)
    (hnot : j ∉ targets)
    (p : ServerPayload) :
    (s.broadcast targets p).LeadsTo j r := by
  intro cl hj hwatching
  rw [lookup_broadcast hnodup, if_neg hnot] at hj
  exact h cl hj hwatching

theorem LeadsTo.announceLater {s : ReplicaState P G} {targets : List Uuid} {j : Uuid}
    {p : ServerPayload} {r r' : Replica}
    (h : s.LeadsTo j r)
    (hnodup : targets.Nodup)
    (htold : ∀ cl, s.clients.lookup j = some cl → cl.watching = true → j ∈ targets)
    (happly : Replica.applyPayload (some r) p = some r')
    (announcer : Announcer) :
    (s.announceLater announcer targets hnodup p).LeadsTo j r' := by
  intro cl' hj hwatching
  rw [lookup_announceLater hnodup] at hj
  split at hj
  · obtain ⟨cl, hlook, rfl⟩ := Option.map_eq_some_iff.mp hj
    exact (h cl hlook hwatching).owe happly
  · next hnot => exact absurd (htold cl' hj hwatching) hnot

theorem LeadsTo.announceLater_of_not_mem {s : ReplicaState P G} {targets : List Uuid} {j : Uuid}
    {r : Replica}
    (h : s.LeadsTo j r)
    (hnodup : targets.Nodup)
    (hnot : j ∉ targets)
    (announcer : Announcer)
    (p : ServerPayload) :
    (s.announceLater announcer targets hnodup p).LeadsTo j r := by
  intro cl hj hwatching
  rw [lookup_announceLater hnodup, if_neg hnot] at hj
  exact h cl hj hwatching

/-- A step that only touches the workspace, and neither its tree nor its name. -/
theorem Converging.of_workspace {s : ReplicaState P G} {w : Workspace P G}
    (h : s.Converging)
    (hcoherent : w.Coherent)
    (hreplica : w.replica = s.workspace.replica)
    (hroles : ∀ j cl, s.clients.lookup j = some cl → cl.watching = true →
      (s.workspace.clientRole j).isSome = true → (w.clientRole j).isSome = true) :
    ({ s with workspace := w } : ReplicaState P G).Converging := by
  refine ⟨hcoherent, ?_, h.located, ?_⟩
  · intro j cl hj hwatching
    exact hroles j cl hj hwatching (h.attached j cl hj hwatching)
  · intro j
    rw [hreplica]
    exact h.leads j

/-- A change that the one who asked gets as its response, and everybody else is
told under the server lock. -/
theorem Converging.change {s : ReplicaState P G} {clientId : Uuid} {w : Workspace P G}
    {p : ServerPayload}
    (h : s.Converging)
    (hfree : s.Unanswered clientId)
    (hcoherent : w.Coherent)
    (hclients : w.attachedClients = s.workspace.attachedClients)
    (happly : Replica.applyPayload (some s.workspace.replica) p = some w.replica) :
    (s.change clientId w p).Converging := by
  let s₁ : ReplicaState P G := { s with workspace := w }
  have hnodup := others_nodup w clientId
  have hattached : s₁.Attached w := by
    intro j cl hj hwatching
    have hrole := h.attached j cl hj hwatching
    simpa [Workspace.clientRole, hclients] using hrole
  have hlocated : s₁.Located := h.located
  have hbroadcast : (s₁.broadcast (others w clientId) p).Located := hlocated.broadcast hnodup p
  refine ⟨hcoherent, (hattached.broadcast hnodup p).respond clientId p, ?_, ?_⟩
  · refine hbroadcast.respond ?_ p
    intro cl hlook
    rw [lookup_broadcast hnodup, if_neg (not_mem_others w clientId)] at hlook
    exact hfree cl hlook
  · intro j
    have hleads : s₁.LeadsTo j s.workspace.replica := h.leads j
    by_cases hj : j = clientId
    · subst hj
      exact (hleads.broadcast_of_not_mem hnodup (not_mem_others w j) p).respond_self happly
    · refine (hleads.broadcast hnodup ?_ happly).respond_ne hj p
      intro cl hlook hwatching
      exact mem_others (hattached j cl hlook hwatching) hj

/-- The same for a change that the others are told later. -/
theorem Converging.respond_announceLater {s : ReplicaState P G} {clientId : Uuid}
    {w : Workspace P G} {p : ServerPayload}
    (h : s.Converging)
    (hfree : s.Unanswered clientId)
    (hcoherent : w.Coherent)
    (hclients : w.attachedClients = s.workspace.attachedClients)
    (happly : Replica.applyPayload (some s.workspace.replica) p = some w.replica) :
    ((({ s with workspace := w } : ReplicaState P G).respond clientId p).announceLater
      (.handler clientId) (others w clientId) (others_nodup w clientId) p).Converging := by
  let s₁ : ReplicaState P G := { s with workspace := w }
  have hnodup := others_nodup w clientId
  have hattached : s₁.Attached w := by
    intro j cl hj hwatching
    have hrole := h.attached j cl hj hwatching
    simpa [Workspace.clientRole, hclients] using hrole
  have hlocated : s₁.Located := h.located
  refine ⟨hcoherent, (hattached.respond clientId p).announceLater hnodup _ p, ?_, ?_⟩
  · exact (hlocated.respond hfree p).announceLater
      hnodup _ p
  · intro j
    have hleads : s₁.LeadsTo j s.workspace.replica := h.leads j
    by_cases hj : j = clientId
    · subst hj
      exact (hleads.respond_self happly).announceLater_of_not_mem hnodup (not_mem_others w j) _ p
    · refine (hleads.respond_ne hj p).announceLater hnodup ?_ happly _
      intro cl hlook hwatching
      exact mem_others ((hattached.respond clientId p) j cl hlook hwatching) hj

/-- A change that only the one who asked is told. -/
theorem Converging.respond {s : ReplicaState P G} {clientId : Uuid} {w : Workspace P G}
    {p : ServerPayload}
    (h : s.Converging)
    (hfree : s.Unanswered clientId)
    (hcoherent : w.Coherent)
    (hclients : w.attachedClients = s.workspace.attachedClients)
    (happly : Replica.applyPayload (some s.workspace.replica) p = some w.replica)
    (hothers : ∀ j cl, s.clients.lookup j = some cl → cl.watching = true → j ≠ clientId →
      w.replica = s.workspace.replica) :
    (({ s with workspace := w } : ReplicaState P G).respond clientId p).Converging := by
  let s₁ : ReplicaState P G := { s with workspace := w }
  have hattached : s₁.Attached w := by
    intro j cl hj hwatching
    have hrole := h.attached j cl hj hwatching
    simpa [Workspace.clientRole, hclients] using hrole
  have hlocated : s₁.Located := h.located
  refine ⟨hcoherent, hattached.respond clientId p, ?_, ?_⟩
  · exact hlocated.respond hfree p
  · intro j
    have hleads : s₁.LeadsTo j s.workspace.replica := h.leads j
    by_cases hj : j = clientId
    · subst hj
      exact hleads.respond_self happly
    · intro cl hlook hwatching
      have hsame : s.clients.lookup j = some cl := by
        rw [lookup_respond, if_neg hj] at hlook
        exact hlook
      have hlast := hleads.respond_ne hj p cl hlook hwatching
      rw [← hothers j cl hsame hwatching hj] at hlast
      exact hlast

/-- A client that follows the workspace from now on is led to it, the others are
where they were. -/
theorem Converging.follow {s : ReplicaState P G} {clientId : Uuid} {w : Workspace P G}
    {reply : Workspace.AttachReply}
    (h : s.Converging)
    (hfree : s.Unanswered clientId)
    (hcopy : s.workspace.AttachedCopy w reply)
    (hrole : (w.clientRole clientId).isSome = true)
    (hroles : ∀ j, (s.workspace.clientRole j).isSome = true → (w.clientRole j).isSome = true) :
    (s.follow clientId w reply.snapshot).Attached w ∧
      (s.follow clientId w reply.snapshot).Located ∧
      (s.follow clientId w reply.snapshot).LeadsTo clientId w.replica ∧
      ∀ j, j ≠ clientId →
        (s.follow clientId w reply.snapshot).LeadsTo j s.workspace.replica := by
  let s₁ : ReplicaState P G :=
    { s with
      workspace := w
      clients := s.clients.modify clientId (fun cl => { cl with watching := true }) }
  have hlook : ∀ j, s₁.clients.lookup j =
      if j = clientId then (s.clients.lookup j).map (fun cl => { cl with watching := true })
      else s.clients.lookup j :=
    fun j => HashMap.lookup_modify _ _ _ _
  have hattached : s₁.Attached w := by
    intro j cl hj hwatching
    rw [hlook] at hj
    split at hj
    · next heq => rw [heq]; exact hrole
    · exact hroles j (h.attached j cl hj hwatching)
  have hlocated : s₁.Located := by
    intro j cl' hj
    rw [hlook] at hj
    split at hj
    · obtain ⟨cl, hcl, rfl⟩ := Option.map_eq_some_iff.mp hj
      exact h.located j cl hcl
    · exact h.located j cl' hj
  have hnone : s₁.Unanswered clientId := by
    intro cl' hj
    rw [hlook, if_pos rfl] at hj
    obtain ⟨cl, hcl, rfl⟩ := Option.map_eq_some_iff.mp hj
    exact hfree cl hcl
  refine ⟨hattached.respond _ _, hlocated.respond hnone _, ?_, ?_⟩
  · intro cl' hj _
    rw [ReplicaState.follow, lookup_respond, if_pos rfl] at hj
    obtain ⟨cl, _, rfl⟩ := Option.map_eq_some_iff.mp hj
    have hsnapshot : ∀ r, Replica.applyPayload r (.workspaceSnapshot w.id reply.snapshot) =
        some w.replica := by
      intro r
      cases r <;> exact hcopy.copied
    exact Feed.Leads.owe rfl (hsnapshot _)
  · intro j hj
    have hleads : s₁.LeadsTo j s.workspace.replica := by
      intro cl hj' hwatching
      rw [hlook, if_neg hj] at hj'
      exact h.leads j cl hj' hwatching
    exact hleads.respond_ne hj _

end Told

section Steps

variable {P : Type u} {G : Type v}

/-- A delivery in order. -/
theorem Converging.deliver {s : ReplicaState P G} {clientId : Uuid} {cl cl' : ReplicaClient}
    (h : s.Converging)
    (hlook : s.clients.lookup clientId = some cl)
    (horder : deliversInOrder cl = true)
    (hdeliver : cl.deliver = some cl') :
    ({ s with clients := s.clients.insert clientId cl' } : ReplicaState P G).Converging := by
  obtain ⟨p, hfront, hwatching, hfeed, hlocated⟩ : ∃ p, cl.front = some p ∧
      cl'.watching = cl.watching ∧ cl'.feed = cl.feed.deliver Replica.applyPayload p ∧
      (s.located clientId cl).Perm (p :: s.located clientId cl') := by
    obtain ⟨push, resp, phase, watching, feed⟩ := cl
    cases resp with
    | cons p resp =>
        simp only [ReplicaClient.deliver, Option.some.injEq] at hdeliver
        subst hdeliver
        refine ⟨p, rfl, rfl, rfl, ?_⟩
        simp only [ReplicaState.located, List.append_assoc, List.cons_append]
        exact List.perm_middle
    | nil =>
        cases push with
        | cons p push =>
            simp only [ReplicaClient.deliver, Option.some.injEq] at hdeliver
            subst hdeliver
            exact ⟨p, rfl, rfl, rfl, List.Perm.refl _⟩
        | nil => cases hdeliver
  have hdue : (p :: s.located clientId cl').Perm cl.feed.due :=
    hlocated.symm.trans (h.located clientId cl hlook)
  refine ⟨h.coherent, ?_, ?_, ?_⟩
  · intro j cl₁ hj hfollows
    rcases HashMap.lookup_insert_cases hj with ⟨rfl, rfl⟩ | ⟨_, hj⟩
    · exact h.attached j cl hlook (hwatching.symm.trans hfollows)
    · exact h.attached j cl₁ hj hfollows
  · intro j cl₁ hj
    rcases HashMap.lookup_insert_cases hj with ⟨rfl, rfl⟩ | ⟨_, hj⟩
    · have herased := hdue.erase p
      rw [List.erase_cons_head] at herased
      rw [hfeed]
      exact herased
    · exact h.located j cl₁ hj
  · intro j cl₁ hj hfollows
    rcases HashMap.lookup_insert_cases hj with ⟨rfl, rfl⟩ | ⟨_, hj⟩
    · have hfollowed := hwatching.symm.trans hfollows
      have hearlier : ∀ k ∈ cl.feed.earlier p, k.independent p = true := by
        simpa [deliversInOrder, hfollowed, hfront] using horder
      rw [hfeed]
      exact (h.leads j cl hlook hfollowed).deliver (hdue.mem_iff.mp List.mem_cons_self)
        (fun k hk => Replica.commutes_of_independent (hearlier k hk))
    · exact h.leads j cl₁ hj hfollows

/-- An announcement reaches the queues of its targets. -/
theorem Converging.announce {s : ReplicaState P G} {index : Nat} {a : Announcement}
    (h : s.Converging)
    (ha : s.announcements[index]? = some a) :
    ({ s with
        clients := s.clients.modifyAll (fun cl => cl.enqueue a.payload) a.targets
        announcements := s.announcements.eraseIdx index } : ReplicaState P G).Converging := by
  have hlook : ∀ j, (s.clients.modifyAll (fun cl => cl.enqueue a.payload) a.targets).lookup j =
      if j ∈ a.targets then (s.clients.lookup j).map (fun cl => cl.enqueue a.payload)
      else s.clients.lookup j :=
    fun j => HashMap.lookup_modifyAll_of_nodup a.nodup _ _ _
  have hperm : s.announcements.Perm (a :: s.announcements.eraseIdx index) := by
    obtain ⟨hlt, hget⟩ := List.getElem?_eq_some_iff.mp ha
    rw [← hget]
    exact (List.getElem_cons_eraseIdx_perm hlt).symm
  refine ⟨h.coherent, ?_, ?_, ?_⟩
  · intro j cl' hj hwatching
    rw [hlook] at hj
    split at hj
    · obtain ⟨cl, hcl, rfl⟩ := Option.map_eq_some_iff.mp hj
      exact h.attached j cl hcl hwatching
    · exact h.attached j cl' hj hwatching
  · intro j cl' hj
    rw [hlook] at hj
    have hannounced := hperm.filterMap (announcedTo j)
    split at hj
    · next hmem =>
      obtain ⟨cl, hcl, rfl⟩ := Option.map_eq_some_iff.mp hj
      refine List.Perm.trans ?_ (h.located j cl hcl)
      have hhead : announcedTo j a = some a.payload := if_pos hmem
      rw [List.filterMap_cons_some hhead] at hannounced
      simp only [ReplicaState.located, ReplicaClient.enqueue, List.append_assoc]
      refine List.Perm.append_left _ ?_
      refine List.Perm.trans ?_ ((hannounced.symm.append_left _).append_left _)
      rw [List.singleton_append, ← List.append_assoc, ← List.append_assoc]
      exact List.perm_middle.symm
    · next hnot =>
      refine List.Perm.trans ?_ (h.located j cl' hj)
      have hhead : announcedTo j a = none := if_neg hnot
      rw [List.filterMap_cons_none hhead] at hannounced
      exact hannounced.symm.append_left _
  · intro j cl' hj hwatching
    rw [hlook] at hj
    split at hj
    · obtain ⟨cl, hcl, rfl⟩ := Option.map_eq_some_iff.mp hj
      exact h.leads j cl hcl hwatching
    · exact h.leads j cl' hj hwatching

/-- A response reaches its queue. -/
theorem Converging.answer {s : ReplicaState P G} {clientId : Uuid} {cl : ReplicaClient}
    {p : ServerPayload}
    (h : s.Converging)
    (hlook : s.clients.lookup clientId = some cl)
    (hanswering : cl.phase = .answering p) :
    ({ s with
        clients := s.clients.insert clientId
          { cl with resp := cl.resp ++ [p], phase := .waiting } } :
      ReplicaState P G).Converging := by
  refine ⟨h.coherent, ?_, ?_, ?_⟩
  · intro j cl' hj hwatching
    rcases HashMap.lookup_insert_cases hj with ⟨rfl, rfl⟩ | ⟨_, hj⟩
    · exact h.attached j cl hlook hwatching
    · exact h.attached j cl' hj hwatching
  · intro j cl' hj
    rcases HashMap.lookup_insert_cases hj with ⟨rfl, rfl⟩ | ⟨_, hj⟩
    · have hperm := h.located j cl hlook
      simpa [ReplicaState.located, HandlerPhase.response, hanswering] using hperm
    · exact h.located j cl' hj
  · intro j cl' hj hwatching
    rcases HashMap.lookup_insert_cases hj with ⟨rfl, rfl⟩ | ⟨_, hj⟩
    · exact h.leads j cl hlook hwatching
    · exact h.leads j cl' hj hwatching

/-- A response to a rename, and what the others are told of it. -/
theorem Converging.rename {s : ReplicaState P G} {clientId : Uuid} {changed : Option Nat}
    {w : Workspace P G} {name : String}
    (h : s.Converging)
    (hfree : s.Unanswered clientId)
    (heffect : s.workspace.ChangesName w)
    (hname : name = w.name)
    (hkept : changed = none → w = s.workspace)
    (rev : Nat)
    (userRenamed : Bool) :
    (if changed.isSome then
        ((({ s with workspace := w } : ReplicaState P G).respond clientId
          (.workspaceRenamed w.id name rev userRenamed)).announceLater
          (.handler clientId) (others w clientId) (others_nodup w clientId)
          (.workspaceRenamed w.id name rev userRenamed))
      else
        ({ s with workspace := w } : ReplicaState P G).respond clientId
          (.workspaceRenamed w.id name rev userRenamed)).Converging := by
  have hcoherent := h.coherent.of_sameStructure heffect.sameStructure
  have hclients := heffect.clients
  have happly := Workspace.apply_rename heffect.sameStructure.tree hname w.id rev userRenamed
  cases changed with
  | some revision =>
      rw [if_pos (Option.isSome_some)]
      exact h.respond_announceLater hfree hcoherent hclients happly
  | none =>
      rw [if_neg (by simp)]
      exact h.respond hfree hcoherent hclients happly (fun _ _ _ _ _ => by rw [hkept rfl])

/-- An update of a pane in place. -/
theorem Converging.updatePane {s : ReplicaState P G}
    (h : s.Converging)
    (paneId : Uuid)
    (changed : Pane P G → Bool)
    (update : Pane P G → Pane P G) :
    ({ s with workspace := (s.workspace.updatePane paneId changed update).2 } :
      ReplicaState P G).Converging := by
  have hsame : (s.workspace.updatePane paneId changed update).2.name = s.workspace.name ∧
      (s.workspace.updatePane paneId changed update).2.attachedClients =
        s.workspace.attachedClients := by
    simp only [Workspace.updatePane]
    split
    · exact ⟨rfl, rfl⟩
    · simp only
      split <;> exact ⟨rfl, rfl⟩
  have hframe := s.workspace.updatePane_frame paneId changed update
  refine h.of_workspace (h.coherent.of_sameStructure hframe) ?_ ?_
  · rw [Workspace.replica, hframe.tree, hsame.1]
    rfl
  · intro j _ _ _ hrole
    rw [Workspace.clientRole, hsame.2]
    exact hrole

/-- A handler that turns to something else than a response. -/
theorem Converging.setPhase {s : ReplicaState P G} {clientId : Uuid} {phase : HandlerPhase}
    (h : s.Converging)
    (hfree : s.Unanswered clientId)
    (hphase : phase.response = none) :
    (s.setPhase clientId phase).Converging := by
  refine ⟨h.coherent, ?_, ?_, ?_⟩
  · intro j cl' hj hwatching
    rw [ReplicaState.setPhase, HashMap.lookup_modify] at hj
    split at hj
    · obtain ⟨cl, hcl, rfl⟩ := Option.map_eq_some_iff.mp hj
      exact h.attached j cl hcl hwatching
    · exact h.attached j cl' hj hwatching
  · intro j cl' hj
    rw [ReplicaState.setPhase, HashMap.lookup_modify] at hj
    split at hj
    · next heq =>
      obtain ⟨cl, hcl, rfl⟩ := Option.map_eq_some_iff.mp hj
      have hperm := h.located j cl hcl
      have hnone := hfree cl (heq ▸ hcl)
      simpa [ReplicaState.located, ReplicaState.setPhase, hnone, hphase] using hperm
    · exact h.located j cl' hj
  · intro j cl' hj hwatching
    rw [ReplicaState.setPhase, HashMap.lookup_modify] at hj
    split at hj
    · obtain ⟨cl, hcl, rfl⟩ := Option.map_eq_some_iff.mp hj
      exact h.leads j cl hcl hwatching
    · exact h.leads j cl' hj hwatching

variable [VteParser P] [Vt100Parser G]

/-- The shell of a new pane has been started. -/
theorem Converging.spawned {s s' : ReplicaState P G} {clientId : Uuid} {pane : Pane P G}
    (h : s.Converging)
    (horder : s.inOrder (.spawned clientId pane) = true)
    (hnext : s.next (.spawned clientId pane) = some s') :
    s'.Converging := by
  cases hspawning : s.spawning clientId with
  | none => simp [ReplicaState.next, hspawning] at hnext
  | some request =>
      have hfree := unanswered_of_spawning hspawning
      cases request with
      | createPane =>
          simp only [ReplicaState.next, hspawning, Option.some.injEq] at hnext
          subst hnext
          have hamong : s.followersAmong [clientId] = true := by
            simpa [inOrder, hspawning] using horder
          have heffect := s.workspace.addPane_effect pane
          refine h.respond hfree (h.coherent.addPane pane) heffect.clients
            (Workspace.apply_addPane h.coherent pane _ _) ?_
          intro j cl hj hwatching hne
          exact absurd (mem_of_followersAmong hamong hj hwatching) (by simpa using hne)
      | splitPane target axis ratio =>
          have hcoherent := h.coherent.splitPane target pane axis ratio
          have heffect := s.workspace.splitPane_effect target pane axis ratio
          rcases hres : s.workspace.splitPane target pane axis ratio with ⟨_ | revision, w⟩
          · simp only [ReplicaState.next, hspawning, hres, Option.some.injEq] at hnext
            subst hnext
            exact h.setPhase hfree rfl
          · simp only [ReplicaState.next, hspawning, hres, Option.some.injEq] at hnext
            rw [hres] at hcoherent heffect
            subst hnext
            exact h.change hfree hcoherent heffect.clients (Workspace.apply_split hres _)

theorem Converging.attach {s s' : ReplicaState P G} {clientId : Uuid} {mode : AttachMode}
    {now : Nat} {proc : ProcFs}
    (h : s.Converging)
    (hnext : s.next (.attach clientId mode now proc) = some s') :
    s'.Converging := by
  simp only [ReplicaState.next] at hnext
  split at hnext
  · next hidle =>
    rcases hres : s.workspace.handleV3Attach clientId mode now proc with ⟨_ | reply, w⟩
    · rw [hres] at hnext
      simp only [Option.some.injEq] at hnext
      subst hnext
      have hw := Workspace.handleV3Attach_none hres
      have heffect := Workspace.attachClient_effect s.workspace clientId mode now
      rw [← hw] at heffect
      refine h.of_workspace (h.coherent.of_sameStructure heffect.sameStructure)
        (Workspace.replica_of_changesClients heffect) ?_
      intro j _ _ _ hrole
      rw [hw]
      exact Workspace.clientRole_attachClient hrole clientId mode now
    · have hattached := Workspace.handleV3Attach_some hres
      have hcopy := Workspace.attachedCopy_of_handleV3Attach hres
      have hroles : ∀ j, (s.workspace.clientRole j).isSome = true →
          (w.clientRole j).isSome = true := by
        intro j hrole
        have hkept := Workspace.clientRole_attachClient hrole clientId mode now
        simpa [Workspace.clientRole, hattached.clients] using hkept
      have hcoherent := h.coherent.of_sameStructure hcopy.structure_eq
      have hnodup := others_nodup w clientId
      obtain ⟨hat, hlocated, hself, hothers⟩ :=
        h.follow (unanswered_of_isIdle hidle) hcopy hattached.role hroles
      rw [hres] at hnext
      cases hrenamed : reply.renamed with
      | none =>
          simp only [hrenamed, Option.some.injEq] at hnext
          subst hnext
          have hreplica : w.replica = s.workspace.replica := by
            rw [Workspace.replica, hcopy.structure_eq.tree, hcopy.unnamed hrenamed]
            rfl
          refine ⟨hcoherent, hat, hlocated, ?_⟩
          intro j
          by_cases hj : j = clientId
          · rw [hj]
            exact hself
          · have hleads := hothers j hj
            rw [← hreplica] at hleads
            exact hleads
      | some named =>
          obtain ⟨name, revision⟩ := named
          simp only [hrenamed, Option.some.injEq] at hnext
          subst hnext
          have happly := Workspace.apply_rename hcopy.structure_eq.tree
            (hcopy.named name revision hrenamed).symm w.id revision false
          refine ⟨hcoherent, hat.announceLater hnodup _ _, hlocated.announceLater hnodup _ _, ?_⟩
          intro j
          by_cases hj : j = clientId
          · rw [hj]
            exact hself.announceLater_of_not_mem hnodup (not_mem_others w clientId) _ _
          · refine (hothers j hj).announceLater hnodup ?_ happly _
            intro cl hlook hwatching
            exact mem_others (hat j cl hlook hwatching) hj
  · cases hnext

/-- The end of an output batch. -/
theorem Converging.outputReturn {s s' : ReplicaState P G} {task : Nat} {paneId : Uuid}
    {screen : PaneScreen P G} {proc : ProcFs}
    (h : s.Converging)
    (horder : s.inOrder (.outputReturn task paneId screen proc) = true)
    (hnext : s.next (.outputReturn task paneId screen proc) = some s') :
    s'.Converging := by
  obtain ⟨hnone, hsome⟩ := s.workspace.returnOutput_name paneId screen proc
  have hframe := s.workspace.returnOutput_frame paneId screen proc
  obtain ⟨_, _, _, heffect⟩ := s.workspace.returnOutput_effect paneId screen proc
  cases htask : s.tasks.lookup task with
  | none => simp [ReplicaState.next, htask] at hnext
  | some t =>
      simp only [ReplicaState.next, htask] at hnext
      simp only [ReplicaState.inOrder, htask, Option.all_some, Bool.or_eq_true,
        Option.isNone_iff_eq_none] at horder
      rcases hres : s.workspace.returnOutput paneId screen proc with ⟨report, w⟩
      rw [hres] at hnone hsome hframe heffect horder hnext
      have hcoherent := h.coherent.of_sameStructure hframe
      have hroles : ∀ j, w.clientRole j = s.workspace.clientRole j := by
        intro j
        rw [show w = _ from heffect]
        rfl
      cases hname : report.newName with
      | none =>
          simp only [hname, Option.some.injEq] at hnext
          subst hnext
          have hreplica : w.replica = s.workspace.replica := by
            rw [Workspace.replica, show w.tree = _ from hframe.tree,
              show w.name = _ from hnone hname]
            rfl
          have hkept := h.of_workspace hcoherent hreplica
            (fun j _ _ _ hrole => (hroles j).symm ▸ hrole)
          exact ⟨hkept.coherent, hkept.attached, hkept.located, hkept.leads⟩
      | some named =>
          obtain ⟨name, revision⟩ := named
          simp only [hname, Option.some.injEq] at hnext
          subst hnext
          have hamong : s.followersAmong t.senders = true := by
            rcases horder with hnot | hall
            · simp [hname] at hnot
            · exact hall
          have happly := Workspace.apply_rename hframe.tree (hsome name revision hname).symm
            w.id revision false
          have hat : ({ s with workspace := w, tasks := s.tasks.erase task } :
              ReplicaState P G).Attached w := by
            intro j cl hj hwatching
            rw [hroles]
            exact h.attached j cl hj hwatching
          have hlocated : ({ s with workspace := w, tasks := s.tasks.erase task } :
              ReplicaState P G).Located := h.located
          refine ⟨hcoherent, hat.announceLater t.nodup _ _, hlocated.announceLater t.nodup _ _, ?_⟩
          intro j
          have hleads : ({ s with workspace := w, tasks := s.tasks.erase task } :
              ReplicaState P G).LeadsTo j s.workspace.replica := h.leads j
          refine hleads.announceLater t.nodup ?_ happly _
          intro cl hlook hwatching
          exact mem_of_followersAmong hamong hlook hwatching

theorem Converging.of_init {s : ReplicaState P G}
    (h : (system P G).init s) :
    s.Converging := by
  obtain ⟨w, hfresh, rfl⟩ := h
  have hnobody : ∀ j cl, (∅ : HashMap Uuid ReplicaClient).lookup j ≠ some cl := by
    intro j cl hj
    rw [AList.lookup_empty] at hj
    cases hj
  exact ⟨Workspace.Coherent.of_isFresh hfresh, fun j cl hj => absurd hj (hnobody j cl),
    fun j cl hj => absurd hj (hnobody j cl), fun j cl hj => absurd hj (hnobody j cl)⟩

/-- **Step lemma.** An ordered step keeps every feed in step. -/
theorem Converging.next {s s' : ReplicaState P G} {a : ReplicaStep P G}
    (h : s.Converging)
    (horder : s.inOrder a = true)
    (hnext : s.next a = some s') :
    s'.Converging := by
  cases a with
  | connect clientId =>
      simp only [ReplicaState.next, Option.ite_none_right_eq_some, Option.some.injEq] at hnext
      obtain ⟨hnew, rfl⟩ := hnext
      simp only [isNew, Bool.and_eq_true, List.all_eq_true] at hnew
      refine ⟨h.coherent, ?_, ?_, ?_⟩
      · intro j cl hj hwatching
        rcases HashMap.lookup_insert_cases hj with ⟨_, rfl⟩ | ⟨_, hj⟩
        · cases hwatching
        · exact h.attached j cl hj hwatching
      · intro j cl hj
        rcases HashMap.lookup_insert_cases hj with ⟨rfl, rfl⟩ | ⟨_, hj⟩
        · have hnone : s.announcements.filterMap (announcedTo j) = [] := by
            refine List.filterMap_eq_nil_iff.mpr ?_
            intro a ha
            have hnot : j ∉ a.targets := by simpa using hnew.1.2 a ha
            exact if_neg hnot
          simp [ReplicaState.located, ReplicaClient.new, HandlerPhase.response, hnone]
        · exact h.located j cl hj
      · intro j cl hj hwatching
        rcases HashMap.lookup_insert_cases hj with ⟨_, rfl⟩ | ⟨_, hj⟩
        · cases hwatching
        · exact h.leads j cl hj hwatching
  | disconnect clientId =>
      simp only [ReplicaState.next, Option.ite_none_right_eq_some, Option.some.injEq] at hnext
      obtain ⟨_, rfl⟩ := hnext
      exact ⟨h.coherent,
        fun j cl hj => h.attached j cl (HashMap.lookup_erase_cases hj).2,
        fun j cl hj => h.located j cl (HashMap.lookup_erase_cases hj).2,
        fun j cl hj => h.leads j cl (HashMap.lookup_erase_cases hj).2⟩
  | leave clientId =>
      simp only [ReplicaState.next, Option.ite_none_right_eq_some, Option.some.injEq] at hnext
      obtain ⟨hgone, rfl⟩ := hnext
      have heffect := Workspace.detachClient_effect s.workspace clientId .disconnect
      refine h.of_workspace (h.coherent.of_sameStructure heffect.sameStructure)
        (Workspace.replica_of_changesClients heffect) ?_
      intro j cl hj _ hrole
      have hne : j ≠ clientId := by
        rintro rfl
        simp [hj] at hgone
      rw [Workspace.clientRole_detachClient hne]
      exact hrole
  | attach clientId mode now proc => exact h.attach hnext
  | detach clientId =>
      simp only [ReplicaState.next, Option.ite_none_right_eq_some, Option.some.injEq] at hnext
      obtain ⟨_, rfl⟩ := hnext
      have heffect := Workspace.detachClient_effect s.workspace clientId .explicitRequest
      refine ⟨h.coherent.of_sameStructure heffect.sameStructure, ?_, ?_, ?_⟩
      · intro j cl' hj hwatching
        rw [HashMap.lookup_modify] at hj
        split at hj
        · obtain ⟨cl, _, rfl⟩ := Option.map_eq_some_iff.mp hj
          cases hwatching
        · next hne =>
          rw [Workspace.clientRole_detachClient hne]
          exact h.attached j cl' hj hwatching
      · intro j cl' hj
        rw [HashMap.lookup_modify] at hj
        split at hj
        · obtain ⟨cl, hcl, rfl⟩ := Option.map_eq_some_iff.mp hj
          exact h.located j cl hcl
        · exact h.located j cl' hj
      · intro j cl' hj hwatching
        rw [HashMap.lookup_modify] at hj
        rw [Workspace.replica_of_changesClients heffect]
        split at hj
        · obtain ⟨cl, _, rfl⟩ := Option.map_eq_some_iff.mp hj
          cases hwatching
        · exact h.leads j cl' hj hwatching
  | takeover clientId now =>
      simp only [ReplicaState.next, Option.ite_none_right_eq_some, Option.some.injEq] at hnext
      obtain ⟨_, rfl⟩ := hnext
      have heffect := Workspace.attachClient_effect s.workspace clientId .takeOver now
      exact h.of_workspace (h.coherent.of_sameStructure heffect.sameStructure)
        (Workspace.replica_of_changesClients heffect)
        (fun _ _ _ _ hrole => Workspace.clientRole_attachClient hrole clientId .takeOver now)
  | spawn clientId request =>
      simp only [ReplicaState.next, Option.ite_none_right_eq_some, Option.some.injEq] at hnext
      obtain ⟨hidle, rfl⟩ := hnext
      exact h.setPhase (unanswered_of_isIdle hidle.1) rfl
  | spawnFails clientId =>
      cases hspawning : s.spawning clientId with
      | none => simp [ReplicaState.next, hspawning] at hnext
      | some request =>
          simp only [ReplicaState.next, hspawning, Option.some.injEq] at hnext
          subst hnext
          exact h.setPhase (unanswered_of_spawning hspawning) rfl
  | spawned clientId pane => exact h.spawned horder hnext
  | closePane clientId paneId =>
      simp only [ReplicaState.next] at hnext
      split at hnext
      · next hidle =>
        have hcoherent := h.coherent.removePane paneId
        have heffect := s.workspace.removePane_effect paneId
        rcases hres : s.workspace.removePane paneId with ⟨_ | pane, w⟩
        · simp [hres] at hnext
        · rw [hres] at hcoherent heffect hnext
          rw [← Option.some.inj hnext]
          exact h.change (unanswered_of_isIdle hidle.1) hcoherent heffect.clients
            (Workspace.apply_close hres _ _)
      · cases hnext
  | resizeSplit clientId path ratio =>
      simp only [ReplicaState.next] at hnext
      split at hnext
      · next hidle =>
        have hcoherent := h.coherent.resizeSplit path ratio
        have heffect := s.workspace.resizeSplit_effect path ratio
        rcases hres : s.workspace.resizeSplit path ratio with ⟨_ | revision, w⟩
        · simp [hres] at hnext
        · rw [hres] at hcoherent heffect hnext
          rw [← Option.some.inj hnext]
          exact h.change (unanswered_of_isIdle hidle.1) hcoherent heffect.clients
            (Workspace.apply_resize hres _)
      · cases hnext
  | setFocus clientId paneId =>
      simp only [ReplicaState.next] at hnext
      split at hnext
      · next hidle =>
        have hcoherent := h.coherent.setDefaultActivePane paneId
        have heffect := s.workspace.setDefaultActivePane_effect paneId
        rcases hres : s.workspace.setDefaultActivePane paneId with ⟨_ | revision, w⟩
        · simp [hres] at hnext
        · rw [hres] at hcoherent heffect hnext
          rw [← Option.some.inj hnext]
          exact h.change (unanswered_of_isIdle hidle.1) hcoherent heffect.clients
            (Workspace.apply_focus hres _)
      · cases hnext
  | rename clientId name automatic =>
      simp only [ReplicaState.next] at hnext
      split at hnext
      · next hidle =>
        cases automatic with
        | true =>
            have hkept : (s.workspace.setAutoName name).1 = none →
                (s.workspace.setAutoName name).2 = s.workspace := Workspace.setAutoName_of_none
            have hrenamed := h.rename (unanswered_of_isIdle hidle.1)
              (s.workspace.setAutoName_effect name) rfl hkept
              (s.workspace.setAutoName name).2.revision
              (s.workspace.setAutoName name).2.userRenamed
            simp only [if_true] at hnext
            split at hnext
            · next hchanged =>
              rw [if_pos hchanged] at hrenamed
              rw [← Option.some.inj hnext]
              exact hrenamed
            · next hchanged =>
              rw [if_neg hchanged] at hrenamed
              rw [← Option.some.inj hnext]
              exact hrenamed
        | false =>
            have hkept : some (s.workspace.rename name).1 = none →
                (s.workspace.rename name).2 = s.workspace := fun hnone => nomatch hnone
            have hrenamed := h.rename (unanswered_of_isIdle hidle.1)
              (s.workspace.rename_effect name) rfl hkept
              (s.workspace.rename name).2.revision (s.workspace.rename name).2.userRenamed
            rw [← Option.some.inj hnext]
            exact hrenamed
      · cases hnext
  | announce index =>
      cases ha : s.announcements[index]? with
      | none => simp [ReplicaState.next, ha] at hnext
      | some a =>
          simp only [ReplicaState.next, ha, Option.some.injEq] at hnext
          rw [← hnext]
          exact h.announce ha
  | answer clientId =>
      simp only [ReplicaState.next] at hnext
      split at hnext
      · cases hnext
      · cases hlook : s.clients.lookup clientId with
        | none => simp [hlook] at hnext
        | some cl =>
            cases hanswering : cl.phase with
            | waiting => simp [hlook, hanswering] at hnext
            | spawning request => simp [hlook, hanswering] at hnext
            | answering p =>
                simp only [hlook, hanswering, Option.some.injEq] at hnext
                rw [← hnext]
                exact h.answer hlook hanswering
  | deliver clientId =>
      simp only [ReplicaState.next, Option.map_eq_some_iff, Option.bind_eq_some_iff] at hnext
      obtain ⟨cl', ⟨cl, hlook, hdeliver⟩, rfl⟩ := hnext
      have hinOrder : deliversInOrder cl = true := by simpa [inOrder, hlook] using horder
      exact h.deliver hlook hinOrder hdeliver
  | outputTake task paneId raw =>
      simp only [ReplicaState.next] at hnext
      split at hnext
      · obtain ⟨_, heffect⟩ := s.workspace.takeOutput_effect paneId raw
        have hkept := h.of_workspace
          (h.coherent.of_sameStructure (s.workspace.takeOutput_frame paneId raw))
          (by rw [heffect]; rfl) (fun j _ _ _ hrole => by rw [heffect]; exact hrole)
        rw [← Option.some.inj hnext]
        exact ⟨hkept.coherent, hkept.attached, hkept.located, hkept.leads⟩
      · cases hnext
  | outputReturn task paneId screen proc => exact h.outputReturn horder hnext
  | resizePane paneId cols rows =>
      rw [← Option.some.inj hnext]
      exact h.updatePane paneId _ _
  | setPaneTitle paneId title =>
      rw [← Option.some.inj hnext]
      exact h.updatePane paneId _ _

/-- **Run lemma.** -/
theorem converging {s : ReplicaState P G}
    (h : (system P G).ReachableUnder (fun s a => s.inOrder a = true) s) :
    s.Converging :=
  h.invariant (fun _ h0 => Converging.of_init h0)
    (fun _ _ _ hI horder hnext => hI.next horder hnext)

end Steps

section Quiet

variable {P : Type u} {G : Type v}

/-- All queues are empty, and no handler or task has something left to send. -/
def isQuiet (s : ReplicaState P G) : Bool :=
  s.announcements.isEmpty &&
    s.clients.values.all
      (fun cl => cl.push.isEmpty && cl.resp.isEmpty && cl.phase.response.isNone)

theorem located_of_isQuiet {s : ReplicaState P G} {clientId : Uuid} {cl : ReplicaClient}
    (h : s.isQuiet = true)
    (hlook : s.clients.lookup clientId = some cl) :
    s.located clientId cl = [] := by
  simp only [isQuiet, Bool.and_eq_true, List.all_eq_true, List.isEmpty_iff] at h
  have hmem : cl ∈ s.clients.values :=
    List.mem_map.mpr ⟨⟨clientId, cl⟩, (HashMap.lookup_eq_some_iff_mem _ _ _).mp hlook, rfl⟩
  obtain ⟨⟨hpush, hresp⟩, hanswering⟩ := h.2 cl hmem
  rw [Option.isNone_iff_eq_none] at hanswering
  simp [ReplicaState.located, h.1, hpush, hresp, hanswering]

variable [VteParser P] [Vt100Parser G]

/-- **Copies converge.** In every run in which a pane is created without a split
only while nobody else follows the workspace, the output task renames only
before all who follow it, and changes are delivered in order: when nothing is
on its way, every copy is the workspace's tree and name. -/
theorem replicas_converge {s : ReplicaState P G} {clientId : Uuid} {cl : ReplicaClient}
    (h : (system P G).ReachableUnder (fun s a => s.inOrder a = true) s)
    (hquiet : s.isQuiet = true)
    (hlook : s.clients.lookup clientId = some cl)
    (hwatching : cl.watching = true) :
    cl.feed.copy = some s.workspace.replica := by
  have hI := converging h
  have hdue : cl.feed.due = [] := by
    have hperm := hI.located clientId cl hlook
    rw [located_of_isQuiet hquiet hlook] at hperm
    exact hperm.nil_eq.symm
  exact (hI.leads clientId cl hlook hwatching).copy_eq hdue

end Quiet

section Runs

variable {P : Type u} {G : Type v}

/-- A client that follows the workspace holds something else. -/
def strays (s : ReplicaState P G) (clientId : Uuid) : Bool :=
  (s.clients.lookup clientId).any
    (fun cl => cl.watching && cl.feed.copy ≠ some s.workspace.replica)

variable (P G) in
/-- A workspace before its first pane. -/
def start : ReplicaState P G :=
  ⟨Workspace.new 7 "work" 0, ∅, [], ∅⟩

end Runs

section Samples

def quietProc : ProcFs :=
  ⟨fun _ => none, fun _ => none⟩

theorem start_init : (system SampleParser SampleGrid).init (start _ _) :=
  ⟨Workspace.new 7 "work" 0, ⟨7, "work", 0, .persistent, rfl⟩, rfl⟩

/-- A client connects, attaches and is delivered its snapshot. -/
def joins (clientId : Uuid) (mode : AttachMode) : List (ReplicaStep SampleParser SampleGrid) :=
  [.connect clientId, .attach clientId mode 0 quietProc, .answer clientId, .deliver clientId]

/-- The first client creates a pane, and the second one joins. -/
def joined : List (ReplicaStep SampleParser SampleGrid) :=
  joins 1 .readWrite ++
    [.spawn 1 .createPane, .spawned 1 (Pane.new 10 80 24), .answer 1, .deliver 1] ++
    joins 2 .readOnly

/-- The first client splits the pane, renames the workspace, moves the focus and
closes the old pane. -/
def rearranged : List (ReplicaStep SampleParser SampleGrid) :=
  joined ++ [.spawn 1 (.splitPane 10 .vertical F32.half), .spawned 1 (Pane.new 11 80 24),
    .answer 1, .deliver 1, .rename 1 "logs" false, .announce 0, .answer 1, .deliver 1, .deliver 2,
    .deliver 2,
    .setFocus 1 11, .answer 1, .deliver 1, .closePane 1 10, .answer 1, .deliver 1,
    .deliver 2, .deliver 2]

theorem rearranged_runs :
    ((system SampleParser SampleGrid).execUnder inOrder (start _ _) rearranged).isSome = true := by
  decide +kernel

def rearrangedEnd : ReplicaState SampleParser SampleGrid :=
  ((system _ _).execUnder inOrder (start _ _) rearranged).get rearranged_runs

theorem rearrangedEnd_follows : (rearrangedEnd.clients.lookup 2).isSome = true := by
  decide +kernel

/-- The theorem at the end of that run, for the second client. -/
theorem replicas_converge_rearranged :
    ∃ (s : ReplicaState SampleParser SampleGrid) (cl : ReplicaClient),
      s.clients.lookup 2 = some cl ∧
        s.workspace.replica = ⟨⟨some (.leaf ⟨11⟩), some ⟨11⟩⟩, "logs"⟩ ∧
        cl.feed.copy = some s.workspace.replica :=
  ⟨rearrangedEnd, (rearrangedEnd.clients.lookup 2).get rearrangedEnd_follows,
    (Option.some_get _).symm, by decide +kernel,
    replicas_converge (System.reachableUnder_get start_init rearranged_runs)
      (by decide +kernel) (Option.some_get _).symm (by decide +kernel)⟩

/-- A pane that the second client is not told of. -/
def unseenPane : List (ReplicaStep SampleParser SampleGrid) :=
  joined ++ [.spawn 1 .createPane, .spawned 1 (Pane.new 11 80 24), .answer 1, .deliver 1]

/-- The first client renames the workspace, the second takes it over and renames
it again, and the third is told of the second name first. -/
def swappedRenames : List (ReplicaStep SampleParser SampleGrid) :=
  joined ++ joins 3 .readOnly ++ [.rename 1 "logs" false, .takeover 2 0, .rename 2 "build" false,
    .announce 1, .announce 0, .answer 1, .answer 2, .deliver 1, .deliver 1, .deliver 2,
    .deliver 2, .deliver 3, .deliver 3]

/-- The first client splits its pane, the second takes the workspace over and
splits the same pane; its response overtakes the push about the first split. -/
def overtakenPush : List (ReplicaStep SampleParser SampleGrid) :=
  joined ++ [.spawn 1 (.splitPane 10 .vertical F32.half), .spawned 1 (Pane.new 11 80 24),
    .takeover 2 0, .spawn 2 (.splitPane 10 .horizontal F32.half),
    .spawned 2 (Pane.new 12 80 24), .answer 1, .answer 2,
    .deliver 1, .deliver 1, .deliver 2, .deliver 2]

/-- The shell reports another directory. -/
def movedScreen : PaneScreen SampleParser SampleGrid :=
  (Pane.new 10 80 24).screen.parse (esc :: bytesOf "]7;file:///srv" ++ [7])

/-- A client attaches while the output of the naming pane is parsed. -/
def lateFollower : List (ReplicaStep SampleParser SampleGrid) :=
  joined ++ [.outputTake 0 10 (esc :: bytesOf "]7;file:///srv" ++ [7])] ++ joins 3 .readOnly ++
    [.outputReturn 0 10 movedScreen quietProc, .announce 0, .deliver 1, .deliver 2]

/-- **Four ways to diverge.** All queues are empty and a copy differs: after a
creation, after two renames, after a response that overtook a push, and after an
automatic rename.  The pane that is missing, and the names, are as stated. -/
theorem replicas_diverge :
    (∃ s : ReplicaState SampleParser SampleGrid, (system _ _).Reachable s ∧
        s.isQuiet = true ∧ s.strays 2 = true ∧ s.workspace.tree.panes = [⟨10⟩, ⟨11⟩]) ∧
      (∃ s : ReplicaState SampleParser SampleGrid, (system _ _).Reachable s ∧
        s.isQuiet = true ∧ s.strays 3 = true ∧ s.workspace.name = "build") ∧
      (∃ s : ReplicaState SampleParser SampleGrid, (system _ _).Reachable s ∧
        s.isQuiet = true ∧ s.strays 2 = true ∧
        s.workspace.tree.panes = [⟨10⟩, ⟨12⟩, ⟨11⟩]) ∧
      ∃ s : ReplicaState SampleParser SampleGrid, (system _ _).Reachable s ∧
        s.isQuiet = true ∧ s.strays 3 = true ∧ s.workspace.name = "srv" := by
  refine ⟨System.exists_reachable unseenPane start_init ?_,
    System.exists_reachable swappedRenames start_init ?_,
    System.exists_reachable overtakenPush start_init ?_,
    System.exists_reachable lateFollower start_init ?_⟩
  all_goals decide +kernel

end Samples

end ReplicaState

end Server
end Rttx
