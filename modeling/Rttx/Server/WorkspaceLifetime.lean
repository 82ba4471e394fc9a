import Rttx.Server.BackgroundSteps

/-!
# The lifetime of a workspace

A handler looks a workspace up under the server lock and works on it under the
workspace's own lock.  An attach keeps the workspace it found however long it
waits for that lock.  A detach of the last client of an ephemeral workspace
decides the termination under the workspace lock and carries it out later,
under the server lock.  A terminate request keeps the server lock from its
look-up to its end, and lets go of the workspace lock before the workspace is
removed.

A state also records what the claims of the handlers rest on: the attaches that
were answered with a snapshot, the workspaces that were removed, and the
answers that say that a workspace is terminated.

**Results.**
* `terminate_of_closed`, `terminate_of_open`: the two outcomes of a termination.
* `no_dead_attach`: in runs in which no workspace is removed under an attach,
  and no attach slips in before a decided removal, attaches reach registered
  workspaces and an ephemeral workspace is removed with nobody attached.
* `dead_attach`: a run for each of the two races.
-/

namespace Rttx
namespace Server

open Kernel

universe u v

/-- A handler between two of its lock acquisitions.  `terminating` has decided
a termination; it holds the server lock already when a client asked for it. -/
inductive LifetimeHandler
  | attaching (clientId runtimeId : Uuid) (mode : AttachMode)
  | detaching (clientId runtimeId : Uuid)
  | terminating (clientId runtimeId : Uuid) (finalRevision : Nat) (reason : TerminationReason)
  | departing (clientId : Uuid) (runtimeIds : List Uuid)
deriving DecidableEq

namespace LifetimeHandler

def isAttaching (runtimeId : Uuid) : LifetimeHandler → Bool
  | attaching _ id _ => id = runtimeId
  | _ => false

/-- Whether the handler has decided to remove the workspace after its last detach. -/
def isEnding (runtimeId : Uuid) : LifetimeHandler → Bool
  | terminating _ id _ reason => id = runtimeId && reason = .ephemeralLastDetach
  | _ => false

end LifetimeHandler

/-- An attach that was answered with a snapshot, and whether the workspace was
registered when the client was added to it. -/
structure Admission where
  clientId : Uuid
  runtimeId : Uuid
  registered : Bool
deriving DecidableEq

/-- A removal of a workspace, and the clients attached to it then. -/
structure WorkspaceRemoval where
  runtimeId : Uuid
  reason : TerminationReason
  attached : List Uuid
deriving DecidableEq

/-- An answer that a workspace is terminated, and whether it was true. -/
structure TerminatedAnswer where
  clientId : Uuid
  runtimeId : Uuid
  truthful : Bool
deriving DecidableEq

/-- The daemon with its handlers.  `spawned` and `exited` record the panes whose
PTY was started, and those whose PTY has exited. -/
structure LifetimeState (P : Type u) (G : Type v) where
  base : OverflowState P G
  handlers : HashMap Nat LifetimeHandler
  serverLock : Option Nat
  admitted : List Admission
  removals : List WorkspaceRemoval
  answers : List TerminatedAnswer
  spawned : List Uuid
  exited : List Uuid

/-- How a new pane is placed: next to the active pane, or in a split of another. -/
structure PaneSplitRequest where
  target : Uuid
  axis : SplitAxis
  ratio : F32

inductive LifetimeStep (P : Type u) (G : Type v)
  | background (a : OverflowStep P G)
  | attachFind (task : Nat) (clientId runtimeId : Uuid) (mode : AttachMode)
  | attachLock (task : Nat) (now : Nat) (proc : ProcFs)
  | takeover (order : List Uuid) (clientId runtimeId : Uuid) (now : Nat)
  | detachFind (task : Nat) (clientId runtimeId : Uuid)
  | detachLock (task : Nat)
  | terminateCheck (task : Nat) (clientId runtimeId : Uuid)
  | terminateRun (task : Nat) (order : List Uuid)
  | departFind (task : Nat) (clientId : Uuid)
  | departLock (task : Nat)
  | openPane (runtimeId : Uuid) (pane : Pane P G) (split : Option PaneSplitRequest)
      (size : PtySize)
  | closePane (runtimeId paneId : Uuid)
  | reconstruct (runtimeId paneId : Uuid) (size : PtySize)
  | ptyExits (paneId : Uuid)

/-- A push that says that the workspace is terminated. -/
def ChannelEvent.tellsTerminated (runtimeId : Uuid) : ChannelEvent → Bool
  | .pushed (.workspaceTerminated id _ _) => id = runtimeId
  | _ => false

namespace LifetimeState

section Queries

variable {P : Type u} {G : Type v}

/-- Whether the client was sent that the workspace is terminated, as a push or
as the answer to a request of its own. -/
def told (s : LifetimeState P G) (clientId runtimeId : Uuid) : Bool :=
  (s.base.server.channels.lookup clientId).any (fun ch =>
      ch.log.any (ChannelEvent.tellsTerminated runtimeId)) ||
    s.answers.any (fun a => a.clientId = clientId && a.runtimeId = runtimeId)

/-- Whether a workspace is gone for everybody but `clientId`: it is not
registered, no process of its panes was left unsignalled, and the other attached
clients were told. -/
def isTerminated (s : LifetimeState P G) (clientId runtimeId : Uuid) : Bool :=
  runtimeId ∉ s.base.server.workspaces &&
    (s.base.server.objects.lookup runtimeId).all fun w =>
      w.panes.keys.all (fun p =>
          p ∉ s.base.server.ptyKillSenders &&
            (p ∉ s.spawned || p ∈ s.base.server.killed || p ∈ s.exited)) &&
        w.attachedClients.keys.all (fun c => c = clientId || s.told c runtimeId)

/-- Whether `task` can have the server lock. -/
def serverFreeFor (s : LifetimeState P G) (task : Nat) : Bool :=
  s.serverLock = none || s.serverLock = some task

/-- Whether no workspace but `runtimeId` has the pane; pane ids are minted. -/
def isMintedFor (s : LifetimeState P G) (runtimeId paneId : Uuid) : Bool :=
  s.base.server.objects.entries.all (fun e => e.1 = runtimeId || (e.2.panes.lookup paneId).isNone)

/-- A registered workspace whose lock is free. -/
def openWorkspace (s : LifetimeState P G) (runtimeId : Uuid) : Option (Workspace P G) :=
  if runtimeId ∈ s.base.server.workspaces ∧ runtimeId ∉ s.base.server.locked then
    s.base.server.objects.lookup runtimeId
  else
    none

/-- A workspace whose lock is free, registered or not. -/
def heldWorkspace (s : LifetimeState P G) (runtimeId : Uuid) : Option (Workspace P G) :=
  if runtimeId ∈ s.base.server.locked then
    none
  else
    s.base.server.objects.lookup runtimeId

end Queries

section Updates

variable {P : Type u} {G : Type v}

def withServer (s : LifetimeState P G) (server : ServerState P G) : LifetimeState P G :=
  { s with base := { s.base with server := server } }

def putWorkspace (s : LifetimeState P G) (runtimeId : Uuid) (w : Workspace P G) :
    LifetimeState P G :=
  s.withServer { s.base.server with objects := s.base.server.objects.insert runtimeId w }

def putHandler (s : LifetimeState P G) (task : Nat) (h : LifetimeHandler) :
    LifetimeState P G :=
  { s with handlers := s.handlers.insert task h }

def dropHandler (s : LifetimeState P G) (task : Nat) : LifetimeState P G :=
  { s with handlers := s.handlers.erase task }

/-- Register the PTY of a pane. -/
def startPty (s : LifetimeState P G) (paneId : Uuid) (size : PtySize) : LifetimeState P G :=
  { s.withServer
      { s.base.server with
        ptyWriters := s.base.server.ptyWriters.insert paneId size
        ptyKillSenders := paneId :: s.base.server.ptyKillSenders } with
    spawned := paneId :: s.spawned }

/-- Answer that a workspace is terminated. -/
def answerTerminated (s : LifetimeState P G) (clientId runtimeId : Uuid) : LifetimeState P G :=
  { s with answers := s.answers ++ [⟨clientId, runtimeId, s.isTerminated clientId runtimeId⟩] }

/-- Record the removal of a workspace, if it is about to be removed. -/
def recordRemoval (s : LifetimeState P G) (runtimeId : Uuid) (reason : TerminationReason) :
    LifetimeState P G :=
  { s with
    removals := s.removals ++
      (s.openWorkspace runtimeId).toList.map (fun w =>
        ⟨runtimeId, reason, w.attachedClients.keys⟩) }

/-- Carry out a decided termination and answer it, whether or not the workspace
was removed. -/
def conclude (s : LifetimeState P G) (task : Nat) (order : List Uuid)
    (clientId runtimeId : Uuid) (finalRevision : Nat) (reason : TerminationReason) :
    LifetimeState P G :=
  let server := (s.base.server.terminateWorkspace order runtimeId finalRevision reason
    (some clientId)).2
  let s := (s.recordRemoval runtimeId reason).withServer server
  { (s.answerTerminated clientId runtimeId).dropHandler task with serverLock := none }

end Updates

/-- Place a new pane in a workspace. -/
def placeRequested {P : Type u} {G : Type v} (w : Workspace P G) (pane : Pane P G) :
    Option PaneSplitRequest → Option (Workspace P G)
  | none => some (w.addPane pane)
  | some req =>
      match w.splitPane req.target pane req.axis req.ratio with
      | (none, _) => none
      | (some _, w) => some w

section Steps

variable {P : Type u} {G : Type v}
variable [VteParser P] [Vt100Parser G]

/-- One step.  The pushes that a handler sends after it is done with the
workspace are broadcasts of the background. -/
def next (s : LifetimeState P G) : LifetimeStep P G → Option (LifetimeState P G)
  | .background a =>
      if a.isBackground ∧ (a.takesServerLock → s.serverLock = none) then
        (s.base.next a).map (fun base => { s with base := base })
      else
        none
  | .attachFind task clientId runtimeId mode =>
      if s.serverLock = none ∧ runtimeId ∈ s.base.server.workspaces ∧
          s.handlers.lookup task = none then
        some (s.putHandler task (.attaching clientId runtimeId mode))
      else
        none
  | .attachLock task now proc =>
      match s.handlers.lookup task with
      | some (.attaching clientId runtimeId mode) =>
          match s.heldWorkspace runtimeId with
          | none => none
          | some w =>
              match w.handleV3Attach clientId mode now proc with
              | (none, w) => some ((s.putWorkspace runtimeId w).dropHandler task)
              | (some _, w) =>
                  some { (s.putWorkspace runtimeId w).dropHandler task with
                    admitted := s.admitted ++
                      [⟨clientId, runtimeId, runtimeId ∈ s.base.server.workspaces⟩] }
      | _ => none
  | .takeover order clientId runtimeId now =>
      if s.serverLock = none ∧ s.base.server.workspaces.all (· ∈ order) then
        match s.openWorkspace runtimeId with
        | none => none
        | some w =>
            match w.writerClientId, w.attachClient clientId .takeOver now with
            | some previous, (.ok (.attached _ revision), w) =>
                let s := s.putWorkspace runtimeId w
                some (s.withServer (s.base.server.broadcastToClients order [previous] none
                  (.leaseLost runtimeId revision clientId)))
            | _, (_, w) => some (s.putWorkspace runtimeId w)
      else
        none
  | .detachFind task clientId runtimeId =>
      if s.serverLock = none ∧ runtimeId ∈ s.base.server.workspaces ∧
          s.handlers.lookup task = none then
        some (s.putHandler task (.detaching clientId runtimeId))
      else
        none
  | .detachLock task =>
      match s.handlers.lookup task with
      | some (.detaching clientId runtimeId) =>
          match s.heldWorkspace runtimeId with
          | none => none
          | some w =>
              match w.detachClient clientId .explicitRequest with
              | (.terminated finalRevision reason, w) =>
                  some ((s.putWorkspace runtimeId w).putHandler task
                    (.terminating clientId runtimeId finalRevision reason))
              | (_, w) => some ((s.putWorkspace runtimeId w).dropHandler task)
      | _ => none
  | .terminateCheck task clientId runtimeId =>
      if s.serverLock = none ∧ s.handlers.lookup task = none then
        match s.openWorkspace runtimeId with
        | none => none
        | some w =>
            if w.writerClientId.isSome ∧ !w.clientHasWriteAccess clientId then
              some s
            else
              some { s.putHandler task
                  (.terminating clientId runtimeId (saturatingAdd w.revision 1) .explicit) with
                serverLock := some task }
      else
        none
  | .terminateRun task order =>
      match s.handlers.lookup task with
      | some (.terminating clientId runtimeId finalRevision reason) =>
          if s.serverFreeFor task ∧ s.base.server.workspaces.all (· ∈ order) then
            some (s.conclude task order clientId runtimeId finalRevision reason)
          else
            none
      | _ => none
  | .departFind task clientId =>
      if s.serverLock = none ∧ s.handlers.lookup task = none then
        (s.base.next (.cleanup clientId)).map (fun base =>
          { s with base := base }.putHandler task
            (.departing clientId s.base.server.workspaces))
      else
        none
  | .departLock task =>
      match s.handlers.lookup task with
      | some (.departing clientId (runtimeId :: rest)) =>
          (s.heldWorkspace runtimeId).map (fun w =>
            (s.putWorkspace runtimeId (w.detachClient clientId .disconnect).2).putHandler task
              (.departing clientId rest))
      | some (.departing _ []) => some (s.dropHandler task)
      | _ => none
  | .openPane runtimeId pane split size =>
      if s.serverLock = none ∧ s.isMintedFor runtimeId pane.id then
        (s.openWorkspace runtimeId).bind (fun w =>
          (placeRequested w pane split).map (fun w =>
            (s.putWorkspace runtimeId w).startPty pane.id size))
      else
        none
  | .closePane runtimeId paneId =>
      if s.serverLock = none then
        (s.openWorkspace runtimeId).map (fun w =>
          let s := s.putWorkspace runtimeId (w.removePane paneId).2
          if (w.panes.lookup paneId).isSome then
            s.withServer (s.base.server.killPane paneId)
          else
            s)
      else
        none
  | .reconstruct runtimeId paneId size =>
      if s.serverLock = none ∧ s.isMintedFor runtimeId paneId then
        (s.openWorkspace runtimeId).map (fun _ => s.startPty paneId size)
      else
        none
  | .ptyExits paneId =>
      if s.serverLock = none then
        some { s.withServer
            { s.base.server with
              ptyWriters := s.base.server.ptyWriters.erase paneId
              ptyKillSenders := s.base.server.ptyKillSenders.filter (fun id => id ≠ paneId) } with
          exited := paneId :: s.exited }
      else
        none

variable (P G) in
def start : LifetimeState P G :=
  ⟨OverflowState.start P G, ∅, none, [], [], [], [], []⟩

variable (P G) in
def system : System (LifetimeState P G) (LifetimeStep P G) where
  init := fun s => s = start P G
  next := next

end Steps

section Removals

variable {P : Type u} {G : Type v}

theorem openWorkspace_eq_some {s : LifetimeState P G} {id : Uuid} {w : Workspace P G}
    (h : s.openWorkspace id = some w) :
    id ∈ s.base.server.workspaces ∧ id ∉ s.base.server.locked ∧
      s.base.server.objects.lookup id = some w := by
  simp only [openWorkspace, Option.ite_none_right_eq_some] at h
  exact ⟨h.1.1, h.1.2, h.2⟩

theorem heldWorkspace_eq_some {s : LifetimeState P G} {id : Uuid} {w : Workspace P G}
    (h : s.heldWorkspace id = some w) :
    s.base.server.objects.lookup id = some w := by
  simp only [heldWorkspace, Option.ite_none_left_eq_some] at h
  exact h.2

/-- A termination that finds the workspace gone, or its lock taken, does nothing. -/
theorem terminate_of_closed {s : LifetimeState P G} {id : Uuid}
    (h : s.openWorkspace id = none)
    (order : List Uuid)
    (rev : Nat)
    (reason : TerminationReason)
    (exclude : Option Uuid) :
    (s.base.server.terminateWorkspace order id rev reason exclude).2 = s.base.server := by
  unfold ServerState.terminateWorkspace
  by_cases hopen : id ∈ s.base.server.workspaces ∧ id ∉ s.base.server.locked
  · rw [openWorkspace, if_pos hopen] at h
    simp [hopen.1, hopen.2, h]
  · rw [if_pos]
    simpa [or_iff_not_imp_left] using hopen

/-- Any other termination removes the workspace, signals its panes and tells
its clients. -/
theorem terminate_of_open {s : LifetimeState P G} {id : Uuid} {w : Workspace P G}
    (h : s.openWorkspace id = some w)
    (order : List Uuid)
    (rev : Nat)
    (reason : TerminationReason)
    (exclude : Option Uuid) :
    (s.base.server.terminateWorkspace order id rev reason exclude).2 =
      (w.panes.keys.foldl ServerState.killPane
          { s.base.server with
            workspaces := s.base.server.workspaces.filter (fun k => k ≠ id) }).broadcastToClients
        order w.attachedClients.keys exclude (.workspaceTerminated id rev reason) := by
  obtain ⟨hreg, hfree, hw⟩ := openWorkspace_eq_some h
  simp [ServerState.terminateWorkspace, hreg, hfree, hw]

/-- What a removal does to the registry: one workspace leaves it. -/
theorem terminate_registry {s : LifetimeState P G} {id : Uuid} {w : Workspace P G}
    (h : s.openWorkspace id = some w)
    (order : List Uuid)
    (rev : Nat)
    (reason : TerminationReason)
    (exclude : Option Uuid) :
    (s.base.server.terminateWorkspace order id rev reason exclude).2.workspaces =
        s.base.server.workspaces.filter (fun k => k ≠ id) ∧
      (s.base.server.terminateWorkspace order id rev reason exclude).2.objects =
        s.base.server.objects := by
  rw [terminate_of_open h]
  obtain ⟨_, _, hframe⟩ := ServerState.broadcastToClients_frame
    (w.panes.keys.foldl ServerState.killPane
      { s.base.server with workspaces := s.base.server.workspaces.filter (fun k => k ≠ id) })
    order w.attachedClients.keys exclude (.workspaceTerminated id rev reason)
  obtain ⟨hworkspaces, hobjects, _⟩ := ServerState.killPanes_frame w.panes.keys
    { s.base.server with workspaces := s.base.server.workspaces.filter (fun k => k ≠ id) }
  rw [hframe]
  exact ⟨hworkspaces, hobjects⟩

/-- The clients of a workspace after a pane was placed. -/
theorem clients_placeRequested {w w' : Workspace P G} {pane : Pane P G}
    {split : Option PaneSplitRequest}
    (h : placeRequested w pane split = some w') :
    w'.attachedClients = w.attachedClients := by
  cases split with
  | none =>
      rw [← Option.some.inj h]
      exact (Workspace.addPane_effect w pane).clients
  | some req =>
      have hclients := (Workspace.splitPane_effect w req.target pane req.axis req.ratio).clients
      simp only [placeRequested] at h
      split at h
      · cases h
      · rename_i w₁ hres
        rw [hres] at hclients
        rw [← Option.some.inj h]
        exact hclients

end Removals

section Admissions

variable {P : Type u} {G : Type v}

/-- Every attach that was answered with a snapshot reached a registered
workspace, or its client was told that the workspace is terminated; and every
ephemeral workspace that ended with its last detach was removed with nobody
attached to it. -/
def NoDeadAttach (s : LifetimeState P G) : Prop :=
  (∀ a ∈ s.admitted, a.registered = true ∨ s.told a.clientId a.runtimeId = true) ∧
    ∀ r ∈ s.removals, r.reason = .ephemeralLastDetach → r.attached = []

theorem mem_handlers {s : LifetimeState P G} {task : Nat} {h : LifetimeHandler}
    (hh : s.handlers.lookup task = some h) :
    h ∈ s.handlers.values :=
  List.mem_map.mpr ⟨_, (HashMap.lookup_eq_some_iff_mem _ _ _).mp hh, rfl⟩

/-- What carries the result along a run: an attach that waits has found a
registered workspace, and nobody is attached where a removal after the last
detach is decided. -/
structure Sound (s : LifetimeState P G) : Prop where
  attaching : ∀ t c id mode, s.handlers.lookup t = some (.attaching c id mode) →
    id ∈ s.base.server.workspaces
  ending : ∀ t c id rev, s.handlers.lookup t = some (.terminating c id rev .ephemeralLastDetach) →
    ∃ w, s.base.server.objects.lookup id = some w ∧ w.attachedClients.keys = []
  admitted : ∀ a ∈ s.admitted, a.registered = true
  removals : ∀ r ∈ s.removals, r.reason = .ephemeralLastDetach → r.attached = []

theorem Sound.noDeadAttach {s : LifetimeState P G}
    (h : s.Sound) :
    s.NoDeadAttach :=
  ⟨fun a ha => Or.inl (h.admitted a ha), h.removals⟩

/-- A change of the server that removes nothing, and attaches nobody where an
end is decided. -/
theorem Sound.server {s s' : LifetimeState P G}
    (h : s.Sound)
    (hhandlers : s'.handlers = s.handlers)
    (hadmitted : s'.admitted = s.admitted)
    (hremovals : s'.removals = s.removals)
    (hregistered : ∀ id ∈ s.base.server.workspaces, id ∈ s'.base.server.workspaces)
    (hobjects : ∀ t c id rev w,
      s.handlers.lookup t = some (.terminating c id rev .ephemeralLastDetach) →
      s.base.server.objects.lookup id = some w →
      w.attachedClients.keys = [] →
      ∃ w', s'.base.server.objects.lookup id = some w' ∧ w'.attachedClients.keys = []) :
    s'.Sound where
  attaching := by
    intro t c id mode ht
    rw [hhandlers] at ht
    exact hregistered id (h.attaching t c id mode ht)
  ending := by
    intro t c id rev ht
    rw [hhandlers] at ht
    obtain ⟨w, hw, hnobody⟩ := h.ending t c id rev ht
    exact hobjects t c id rev w ht hw hnobody
  admitted := by rw [hadmitted]; exact h.admitted
  removals := by rw [hremovals]; exact h.removals

/-- One workspace is replaced, by one that nobody attached to if an end is decided. -/
theorem Sound.putWorkspace {s : LifetimeState P G} {id : Uuid} {w w' : Workspace P G}
    (h : s.Sound)
    (hw : s.base.server.objects.lookup id = some w)
    (hclients : w.attachedClients.keys = [] → w'.attachedClients.keys = [] ∨
      ∀ t c rev, s.handlers.lookup t ≠ some (.terminating c id rev .ephemeralLastDetach)) :
    (s.putWorkspace id w').Sound := by
  refine h.server rfl rfl rfl (fun _ hid => hid) ?_
  intro t c id' rev old ht hold hnobody
  by_cases hsame : id' = id
  · subst hsame
    rw [hw, Option.some.injEq] at hold
    subst hold
    rcases hclients hnobody with hnew | hnone
    · exact ⟨w', AList.lookup_insert _, hnew⟩
    · exact absurd ht (hnone t c rev)
  · exact ⟨old, (AList.lookup_insert_ne hsame).trans hold, hnobody⟩

theorem Sound.dropHandler {s : LifetimeState P G}
    (h : s.Sound)
    (task : Nat) :
    (s.dropHandler task).Sound where
  attaching := fun t c id mode ht => h.attaching t c id mode (HashMap.lookup_erase_cases ht).2
  ending := fun t c id rev ht => h.ending t c id rev (HashMap.lookup_erase_cases ht).2
  admitted := h.admitted
  removals := h.removals

theorem Sound.putHandler {s : LifetimeState P G}
    (h : s.Sound)
    (task : Nat)
    (hnd : LifetimeHandler)
    (hattaching : ∀ c id mode, hnd = .attaching c id mode → id ∈ s.base.server.workspaces)
    (hending : ∀ c id rev, hnd = .terminating c id rev .ephemeralLastDetach →
      ∃ w, s.base.server.objects.lookup id = some w ∧ w.attachedClients.keys = []) :
    (s.putHandler task hnd).Sound where
  attaching := by
    intro t c id mode ht
    rcases HashMap.lookup_insert_cases ht with ⟨_, heq⟩ | ⟨_, hold⟩
    · exact hattaching c id mode heq.symm
    · exact h.attaching t c id mode hold
  ending := by
    intro t c id rev ht
    rcases HashMap.lookup_insert_cases ht with ⟨_, heq⟩ | ⟨_, hold⟩
    · exact hending c id rev heq.symm
    · exact h.ending t c id rev hold
  admitted := h.admitted
  removals := h.removals

end Admissions

section Runs

variable {P : Type u} {G : Type v}
variable [VteParser P] [Vt100Parser G]

/-- Whether a step keeps the two races away: a workspace is not removed while
an attach has found it and waits for its lock, and no attach is admitted to a
workspace whose removal after the last detach is decided. -/
def undisturbed (s : LifetimeState P G) : LifetimeStep P G → Bool
  | .attachLock task now proc =>
      match s.handlers.lookup task with
      | some (.attaching clientId runtimeId mode) =>
          (s.base.server.objects.lookup runtimeId).all (fun w =>
              (w.handleV3Attach clientId mode now proc).1.isNone) ||
            s.handlers.values.all (fun h => !h.isEnding runtimeId)
      | _ => true
  | .terminateRun task _ =>
      match s.handlers.lookup task with
      | some (.terminating _ runtimeId _ _) =>
          (s.openWorkspace runtimeId).isNone ||
            s.handlers.values.all (fun h => !h.isAttaching runtimeId)
      | _ => true
  | _ => true

/-- The steps of an attach. -/
theorem Sound.attachLock {s s' : LifetimeState P G} {task now : Nat} {proc : ProcFs}
    (h : s.Sound)
    (hok : s.undisturbed (.attachLock task now proc) = true)
    (hnext : s.next (.attachLock task now proc) = some s') :
    s'.Sound := by
  simp only [next] at hnext
  split at hnext
  · rename_i clientId runtimeId mode ht
    cases hw : s.heldWorkspace runtimeId with
    | none => simp [hw] at hnext
    | some w =>
        have hobject := heldWorkspace_eq_some hw
        simp only [hw] at hnext
        split at hnext
        · rename_i w' hres
          rw [← Option.some.inj hnext]
          refine (h.putWorkspace hobject ?_).dropHandler task
          intro hnobody
          rw [Workspace.clients_of_refused hres]
          exact Or.inl hnobody
        · rename_i reply w' hres
          have hnone : ∀ t c rev, s.handlers.lookup t ≠
              some (.terminating c runtimeId rev .ephemeralLastDetach) := by
            intro t c rev hother
            have hall : s.handlers.values.all (fun h => !h.isEnding runtimeId) = true := by
              simpa [undisturbed, ht, hobject, hres] using hok
            have hthis := List.all_eq_true.mp hall _ (mem_handlers hother)
            simp [LifetimeHandler.isEnding] at hthis
          have hput : (s.putWorkspace runtimeId w').Sound :=
            h.putWorkspace hobject (fun _ => Or.inr hnone)
          have hdrop := hput.dropHandler task
          rw [← Option.some.inj hnext]
          refine ⟨hdrop.attaching, hdrop.ending, ?_, hdrop.removals⟩
          intro a ha
          rcases List.mem_append.mp ha with hold | hnew
          · exact h.admitted a hold
          · rw [List.mem_singleton.mp hnew]
            simpa using h.attaching task clientId runtimeId mode ht
  · cases hnext

/-- The removal of a workspace. -/
theorem Sound.terminateRun {s s' : LifetimeState P G} {task : Nat} {order : List Uuid}
    (h : s.Sound)
    (hok : s.undisturbed (.terminateRun task order) = true)
    (hnext : s.next (.terminateRun task order) = some s') :
    s'.Sound := by
  simp only [next] at hnext
  split at hnext
  · rename_i clientId runtimeId rev reason ht
    simp only [Option.ite_none_right_eq_some, Option.some.injEq] at hnext
    obtain ⟨_, rfl⟩ := hnext
    have hdrop := h.dropHandler task
    cases hw : s.openWorkspace runtimeId with
    | none =>
        have hsame := terminate_of_closed hw order rev reason (some clientId)
        have hserver : (s.conclude task order clientId runtimeId rev reason).base.server =
            s.base.server := hsame
        refine hdrop.server rfl rfl ?_ ?_ ?_
        · simp [conclude, recordRemoval, hw, withServer, answerTerminated,
            LifetimeState.dropHandler]
        · intro id hid
          rw [hserver]
          exact hid
        · intro t c id rev' old _ hold hnobody
          rw [hserver]
          exact ⟨old, hold, hnobody⟩
    | some w =>
        obtain ⟨_, _, hobject⟩ := openWorkspace_eq_some hw
        obtain ⟨hworkspaces, hobjects⟩ := terminate_registry hw order rev reason (some clientId)
        have hall : s.handlers.values.all (fun h => !h.isAttaching runtimeId) = true := by
          simpa [undisturbed, ht, hw] using hok
        refine ⟨?_, ?_, h.admitted, ?_⟩
        · intro t c id mode hother
          have hold := (HashMap.lookup_erase_cases hother).2
          have hne : id ≠ runtimeId := by
            rintro rfl
            have hthis := List.all_eq_true.mp hall _ (mem_handlers hold)
            simp [LifetimeHandler.isAttaching] at hthis
          change id ∈ (s.base.server.terminateWorkspace order runtimeId rev reason _).2.workspaces
          rw [hworkspaces]
          exact List.mem_filter.mpr ⟨h.attaching t c id mode hold, by simpa using hne⟩
        · intro t c id rev' hother
          obtain ⟨old, hold, hnobody⟩ := hdrop.ending t c id rev' hother
          exact ⟨old, hobjects ▸ hold, hnobody⟩
        · intro r hr hlast
          rcases List.mem_append.mp hr with hold | hnew
          · exact h.removals r hold hlast
          · change r ∈ (s.openWorkspace runtimeId).toList.map _ at hnew
            simp only [hw, Option.toList_some, List.map_cons, List.map_nil,
              List.mem_singleton] at hnew
            subst hnew
            simp only at hlast
            subst hlast
            obtain ⟨old, hold, hnobody⟩ := h.ending task clientId runtimeId rev ht
            rw [hobject, Option.some.injEq] at hold
            rw [hold]
            exact hnobody
  · cases hnext

/-- **Step lemma.** -/
theorem Sound.next {s s' : LifetimeState P G} {a : LifetimeStep P G}
    (h : s.Sound)
    (hok : s.undisturbed a = true)
    (hnext : s.next a = some s') :
    s'.Sound := by
  cases a with
  | background a =>
      simp only [LifetimeState.next, Option.ite_none_right_eq_some] at hnext
      obtain ⟨⟨hback, _⟩, hnext⟩ := hnext
      obtain ⟨base, hbase, rfl⟩ := Option.map_eq_some_iff.mp hnext
      have hkeeps := OverflowState.next_background hback hbase
      refine h.server rfl rfl rfl hkeeps.registered ?_
      intro t c id rev w _ hw hnobody
      obtain ⟨w', hw', hsame⟩ := hkeeps.objects id w hw
      exact ⟨w', hw', by rw [hsame.clients]; exact hnobody⟩
  | attachFind task clientId runtimeId mode =>
      simp only [LifetimeState.next, Option.ite_none_right_eq_some, Option.some.injEq] at hnext
      obtain ⟨⟨_, hreg, _⟩, rfl⟩ := hnext
      refine h.putHandler task _ ?_ (by simp)
      rintro c id mode' heq
      simp only [LifetimeHandler.attaching.injEq] at heq
      exact heq.2.1 ▸ hreg
  | attachLock task now proc => exact h.attachLock hok hnext
  | takeover order clientId runtimeId now =>
      simp only [LifetimeState.next, Option.ite_none_right_eq_some] at hnext
      obtain ⟨_, hnext⟩ := hnext
      cases hw : s.openWorkspace runtimeId with
      | none => simp [hw] at hnext
      | some w =>
          have hobject := (openWorkspace_eq_some hw).2.2
          have htake : ∀ outcome w', w.attachClient clientId .takeOver now = (outcome, w') →
              (s.putWorkspace runtimeId w').Sound := by
            intro outcome w' hres
            refine h.putWorkspace hobject (fun hnobody => Or.inl ?_)
            have hstill := Workspace.takeOver_of_nobody hnobody clientId now
            rw [hres] at hstill
            exact hstill
          simp only [hw] at hnext
          split at hnext
          · rename_i previous role revision w' hwriter hres
            rw [← Option.some.inj hnext]
            have hkeeps := ServerState.Keeps.of_channelsOnly
              ((s.putWorkspace runtimeId w').base.server.broadcastToClients_frame order
                [previous] none (.leaseLost runtimeId revision clientId))
              ((s.putWorkspace runtimeId w').base.server.logsGrow_broadcast order
                [previous] none (.leaseLost runtimeId revision clientId))
            refine (htake _ _ hres).server rfl rfl rfl hkeeps.registered ?_
            intro t c id rev old _ hold hnobody
            obtain ⟨new, hnew, hsame⟩ := hkeeps.objects id old hold
            exact ⟨new, hnew, by rw [hsame.clients]; exact hnobody⟩
          · rename_i w' hres _
            rw [← Option.some.inj hnext]
            exact htake _ _ hres
  | detachFind task clientId runtimeId =>
      simp only [LifetimeState.next, Option.ite_none_right_eq_some, Option.some.injEq] at hnext
      obtain ⟨_, rfl⟩ := hnext
      exact h.putHandler task _ (by simp) (by simp)
  | detachLock task =>
      simp only [LifetimeState.next] at hnext
      split at hnext
      · rename_i clientId runtimeId ht
        cases hw : s.heldWorkspace runtimeId with
        | none => simp [hw] at hnext
        | some w =>
            have hput : ∀ outcome w',
                w.detachClient clientId .explicitRequest = (outcome, w') →
                (s.putWorkspace runtimeId w').Sound := by
              intro outcome w' hres
              refine h.putWorkspace (heldWorkspace_eq_some hw) (fun hnobody => Or.inl ?_)
              have hstill := Workspace.detach_of_nobody hnobody clientId .explicitRequest
              rw [hres] at hstill
              exact hstill
            simp only [hw] at hnext
            split at hnext
            · rename_i rev reason w' hres
              rw [← Option.some.inj hnext]
              refine (hput _ _ hres).putHandler task _ (by simp) ?_
              rintro c id rev' heq
              simp only [LifetimeHandler.terminating.injEq] at heq
              obtain ⟨_, rfl, _, _⟩ := heq
              exact ⟨w', AList.lookup_insert _, Workspace.detach_terminated hres⟩
            · rename_i outcome w' _ hres
              rw [← Option.some.inj hnext]
              exact (hput _ _ hres).dropHandler task
      · cases hnext
  | terminateCheck task clientId runtimeId =>
      simp only [LifetimeState.next, Option.ite_none_right_eq_some] at hnext
      obtain ⟨_, hnext⟩ := hnext
      cases hw : s.openWorkspace runtimeId with
      | none => simp [hw] at hnext
      | some w =>
          simp only [hw] at hnext
          split at hnext
          · rw [← Option.some.inj hnext]
            exact h
          · rw [← Option.some.inj hnext]
            have hput := h.putHandler task (.terminating clientId runtimeId
              (saturatingAdd w.revision 1) .explicit) (by simp) (by simp)
            exact ⟨hput.attaching, hput.ending, h.admitted, h.removals⟩
  | terminateRun task order => exact h.terminateRun hok hnext
  | departFind task clientId =>
      simp only [LifetimeState.next, Option.ite_none_right_eq_some] at hnext
      obtain ⟨_, hnext⟩ := hnext
      obtain ⟨base, hbase, rfl⟩ := Option.map_eq_some_iff.mp hnext
      have hkeeps := OverflowState.next_background rfl hbase
      have hmoved : ({ s with base := base } : LifetimeState P G).Sound := by
        refine h.server rfl rfl rfl hkeeps.registered ?_
        intro t c id rev w _ hw hnobody
        obtain ⟨w', hw', hsame⟩ := hkeeps.objects id w hw
        exact ⟨w', hw', by rw [hsame.clients]; exact hnobody⟩
      exact hmoved.putHandler task _ (by simp) (by simp)
  | departLock task =>
      simp only [LifetimeState.next] at hnext
      split at hnext
      · rename_i clientId runtimeId rest ht
        obtain ⟨w, hw, rfl⟩ := Option.map_eq_some_iff.mp hnext
        refine Sound.putHandler ?_ task _ (by simp) (by simp)
        exact h.putWorkspace (heldWorkspace_eq_some hw) (fun hnobody =>
          Or.inl (Workspace.detach_of_nobody hnobody clientId .disconnect))
      · rw [← Option.some.inj hnext]
        exact h.dropHandler task
      · cases hnext
  | openPane runtimeId pane split size =>
      simp only [LifetimeState.next, Option.ite_none_right_eq_some] at hnext
      obtain ⟨_, hnext⟩ := hnext
      obtain ⟨w, hw, hnext⟩ := Option.bind_eq_some_iff.mp hnext
      obtain ⟨w', hplace, rfl⟩ := Option.map_eq_some_iff.mp hnext
      have hput : (s.putWorkspace runtimeId w').Sound := by
        refine h.putWorkspace (openWorkspace_eq_some hw).2.2 (fun hnobody => Or.inl ?_)
        rw [clients_placeRequested hplace]
        exact hnobody
      exact hput.server rfl rfl rfl (fun _ hid => hid) (fun _ _ _ _ old _ hold hnobody =>
        ⟨old, hold, hnobody⟩)
  | closePane runtimeId paneId =>
      simp only [LifetimeState.next, Option.ite_none_right_eq_some] at hnext
      obtain ⟨_, hnext⟩ := hnext
      obtain ⟨w, hw, rfl⟩ := Option.map_eq_some_iff.mp hnext
      have hput : (s.putWorkspace runtimeId (w.removePane paneId).2).Sound := by
        refine h.putWorkspace (openWorkspace_eq_some hw).2.2 (fun hnobody => Or.inl ?_)
        rw [(Workspace.removePane_effect w paneId).clients]
        exact hnobody
      split
      · exact hput.server rfl rfl rfl (fun _ hid => hid) (fun _ _ _ _ old _ hold hnobody =>
          ⟨old, hold, hnobody⟩)
      · exact hput
  | reconstruct runtimeId paneId size =>
      simp only [LifetimeState.next, Option.ite_none_right_eq_some] at hnext
      obtain ⟨_, hnext⟩ := hnext
      obtain ⟨w, hw, rfl⟩ := Option.map_eq_some_iff.mp hnext
      exact h.server rfl rfl rfl (fun _ hid => hid) (fun _ _ _ _ old _ hold hnobody =>
        ⟨old, hold, hnobody⟩)
  | ptyExits paneId =>
      simp only [LifetimeState.next, Option.ite_none_right_eq_some, Option.some.injEq] at hnext
      obtain ⟨_, rfl⟩ := hnext
      exact h.server rfl rfl rfl (fun _ hid => hid) (fun _ _ _ _ old _ hold hnobody =>
        ⟨old, hold, hnobody⟩)

/-- **No attach to a dead workspace**, in undisturbed runs. -/
theorem no_dead_attach {s : LifetimeState P G}
    (h : (system P G).ReachableUnder (fun s a => s.undisturbed a = true) s) :
    s.NoDeadAttach := by
  refine Sound.noDeadAttach (h.invariant ?_ (fun _ _ _ hI hok hnext => hI.next hok hnext))
  rintro s rfl
  exact ⟨by simp [start], by simp [start], by simp [start], by simp [start]⟩

end Runs

section Races

def ownerId : Uuid := 7

def visitorId : Uuid := 9

def workId : Uuid := 1

def idleProc : ProcFs :=
  ⟨fun _ => none, fun _ => none⟩

def ephemeralWork : Workspace SampleParser SampleGrid :=
  { Workspace.new workId "work" 0 with policy := .ephemeral }

/-- An ephemeral workspace with its owner attached, and a visitor. -/
def opened : List (LifetimeStep SampleParser SampleGrid) :=
  [.background (.connect ownerId []), .background (.connect visitorId []),
    .background (.create workId ephemeralWork),
    .attachFind 0 ownerId workId .readWrite, .attachLock 0 0 idleProc]

/-- The owner leaves, and the workspace ends. -/
def lastDetach : List (LifetimeStep SampleParser SampleGrid) :=
  opened ++ [.detachFind 0 ownerId workId, .detachLock 0, .terminateRun 0 [workId]]

/-- The theorem at the end of that run, where the owner was admitted and the
workspace was removed. -/
theorem no_dead_attach_lastDetach :
    ∃ s : LifetimeState SampleParser SampleGrid,
      s.admitted = [⟨ownerId, workId, true⟩] ∧
        s.removals = [⟨workId, .ephemeralLastDetach, []⟩] ∧ s.NoDeadAttach := by
  obtain ⟨s, hreach, hadmitted, hremovals⟩ := System.exists_reachableUnder
    (S := system SampleParser SampleGrid) undisturbed lastDetach
    (p := fun s => s.admitted = [⟨ownerId, workId, true⟩] ∧
      s.removals = [⟨workId, .ephemeralLastDetach, []⟩]) rfl (by decide +kernel)
  exact ⟨s, hadmitted, hremovals, no_dead_attach hreach⟩

/-- The visitor finds the workspace, which the owner terminates before the
visitor has its lock. -/
def lateAttach : List (LifetimeStep SampleParser SampleGrid) :=
  opened ++ [.attachFind 1 visitorId workId .readOnly, .terminateCheck 0 ownerId workId,
    .terminateRun 0 [workId], .attachLock 1 0 idleProc]

/-- The visitor attaches after the owner's detach has decided the end. -/
def attachBeforeEnd : List (LifetimeStep SampleParser SampleGrid) :=
  opened ++ [.detachFind 0 ownerId workId, .detachLock 0,
    .attachFind 1 visitorId workId .readWrite, .attachLock 1 0 idleProc,
    .terminateRun 0 [workId]]

/-- **The two races.** A client gets a snapshot of a workspace that was removed
before it was added, no handler is left, and it was not told; and an ephemeral
workspace is removed while a client is attached to it. -/
theorem dead_attach :
    (∃ s : LifetimeState SampleParser SampleGrid, (system _ _).Reachable s ∧
        s.handlers.keys = [] ∧ ⟨visitorId, workId, false⟩ ∈ s.admitted ∧
        s.told visitorId workId = false ∧ ¬ s.NoDeadAttach) ∧
      ∃ s : LifetimeState SampleParser SampleGrid, (system _ _).Reachable s ∧
        ⟨workId, .ephemeralLastDetach, [visitorId]⟩ ∈ s.removals ∧ ¬ s.NoDeadAttach := by
  constructor
  · obtain ⟨s, hreach, hhandlers, hlate, huntold⟩ := System.exists_reachable
      (S := system SampleParser SampleGrid) lateAttach
      (p := fun s => s.handlers.keys = [] ∧ ⟨visitorId, workId, false⟩ ∈ s.admitted ∧
        s.told visitorId workId = false) rfl (by decide +kernel)
    refine ⟨s, hreach, hhandlers, hlate, huntold, ?_⟩
    intro hall
    rcases hall.1 _ hlate with hregistered | htold
    · cases hregistered
    · rw [huntold] at htold
      cases htold
  · obtain ⟨s, hreach, hremoved⟩ := System.exists_reachable
      (S := system SampleParser SampleGrid) attachBeforeEnd
      (p := fun s => ⟨workId, .ephemeralLastDetach, [visitorId]⟩ ∈ s.removals) rfl
      (by decide +kernel)
    refine ⟨s, hreach, hremoved, ?_⟩
    intro hall
    cases hall.2 _ hremoved rfl

end Races

end LifetimeState

end Server
end Rttx
