import Rttx.Server.SampleTerminal
import Rttx.Server.WorkspaceLifetime

/-!
# The registry of PTY handles

The server keeps, under the id of a pane, the writer of its PTY and the sender of the
signal that stops its read loop.  A handler that creates a pane spawns the child under
the server lock, lets go of it, and registers pane and handles under the lock again;
it kills the child itself when the workspace, or the pane to split, is gone by then.
Closing a pane, terminating a workspace and the exit of a child take the handles away.

A state also records for which workspace a child was spawned, which panes were closed,
which children were killed by their handler, and of which the exit was handled.

**Results.**
* `Tracked.next`: what each step does to the handles.
* `pty_handles_tracked`: handles belong to panes of registered workspaces, and no
  child of a closed pane or of a terminated workspace is forgotten.
* `exited_child_not_signalled`: a child of a closed pane that nobody signals.
-/

namespace Rttx
namespace Server

open Kernel

universe u v

section Model

variable {P : Type u} {G : Type v}

/-- A handler between two of its lock acquisitions. -/
inductive RegistryHandler (P : Type u) (G : Type v)
  | creating (runtimeId : Uuid) (pane : Pane P G) (split : Option PaneSplitRequest)
  | terminating (clientId runtimeId : Uuid) (finalRevision : Nat) (reason : TerminationReason)

structure RegistryState (P : Type u) (G : Type v) where
  server : ServerState P G
  serverLock : Option Nat
  handlers : HashMap Nat (RegistryHandler P G)
  children : HashMap Uuid Uuid
  closed : List Uuid
  handleKilled : List Uuid
  exited : List Uuid

inductive RegistryStep (P : Type u) (G : Type v)
  | createWorkspace (w : Workspace P G)
  | mutate (runtimeId : Uuid) (op : WorkspaceOp P G)
  | setLocked (runtimeId : Uuid) (locked : Bool)
  | spawn (task : Nat) (clientId runtimeId : Uuid) (pane : Pane P G)
      (split : Option PaneSplitRequest)
  | register (task : Nat) (size : PtySize)
  | closePane (clientId runtimeId paneId : Uuid)
  | detach (task : Nat) (clientId runtimeId : Uuid)
  | terminateCheck (task : Nat) (clientId runtimeId : Uuid)
  | terminateRun (task : Nat) (order : List Uuid)
  | childExits (paneId : Uuid)

/-- Whether an operation of a task with the workspace lock leaves the panes there. -/
def WorkspaceOp.keepsPanes : WorkspaceOp P G → Bool
  | .addPane _ => false
  | .splitPane _ _ _ _ => false
  | .removePane _ => false
  | _ => true

namespace RegistryState

/-- A registered workspace whose lock is free. -/
def openWorkspace (s : RegistryState P G) (runtimeId : Uuid) : Option (Workspace P G) :=
  if runtimeId ∈ s.server.workspaces ∧ runtimeId ∉ s.server.locked then
    s.server.objects.lookup runtimeId
  else
    none

/-- A workspace whose lock is free, registered or not. -/
def heldWorkspace (s : RegistryState P G) (runtimeId : Uuid) : Option (Workspace P G) :=
  if runtimeId ∈ s.server.locked then none else s.server.objects.lookup runtimeId

def putWorkspace (s : RegistryState P G) (runtimeId : Uuid) (w : Workspace P G) :
    RegistryState P G :=
  { s with server := { s.server with objects := s.server.objects.insert runtimeId w } }

def putHandler (s : RegistryState P G) (task : Nat) (h : RegistryHandler P G) :
    RegistryState P G :=
  { s with handlers := s.handlers.insert task h }

/-- The id of a new pane is minted: no pane and no child ever had it. -/
def isMinted (s : RegistryState P G) (paneId : Uuid) : Bool :=
  (s.children.lookup paneId).isNone && paneId ∉ s.closed &&
    s.server.objects.values.all (fun w => (w.panes.lookup paneId).isNone)

/-- The handler of a new pane registers it and its handles, or kills the child. -/
def registerChild (s : RegistryState P G) (runtimeId : Uuid) (pane : Pane P G)
    (split : Option PaneSplitRequest) (size : PtySize) : Option (RegistryState P G) :=
  if runtimeId ∉ s.server.workspaces then
    some { s with handleKilled := pane.id :: s.handleKilled }
  else
    (s.openWorkspace runtimeId).map fun w =>
      match LifetimeState.placeRequested w pane split with
      | none => { s with handleKilled := pane.id :: s.handleKilled }
      | some w =>
          { s with
            server :=
              { s.server with
                objects := s.server.objects.insert runtimeId w
                ptyWriters := s.server.ptyWriters.insert pane.id size
                ptyKillSenders := pane.id :: s.server.ptyKillSenders } }

variable [VteParser P] [Vt100Parser G]

/-- One step.  The steps that take the server lock need it free; a terminate request
keeps it from its check to its end. -/
def next (s : RegistryState P G) : RegistryStep P G → Option (RegistryState P G)
  | .createWorkspace w =>
      if s.serverLock = none ∧ (s.server.objects.lookup w.id).isNone ∧ w.panes.keys = [] then
        some { s with
          server :=
            { s.server with
              objects := s.server.objects.insert w.id w
              workspaces := w.id :: s.server.workspaces } }
      else
        none
  | .mutate runtimeId op =>
      if op.keepsPanes then
        (s.heldWorkspace runtimeId).map fun w => s.putWorkspace runtimeId (w.apply op)
      else
        none
  | .setLocked runtimeId locked =>
      some { s with
        server :=
          { s.server with
            locked :=
              if locked then runtimeId :: s.server.locked
              else s.server.locked.filter (fun id => id ≠ runtimeId) } }
  | .spawn task clientId runtimeId pane split =>
      if s.serverLock = none ∧ (s.handlers.lookup task).isNone ∧ s.isMinted pane.id then
        (s.openWorkspace runtimeId).bind fun w =>
          if w.clientHasWriteAccess clientId ∧
              split.all (fun req => w.tree.contains (.fromUuid req.target)) then
            some { s.putHandler task (.creating runtimeId pane split) with
              children := s.children.insert pane.id runtimeId }
          else
            none
      else
        none
  | .register task size =>
      match s.handlers.lookup task with
      | some (.creating runtimeId pane split) =>
          if s.serverLock = none then
            { s with handlers := s.handlers.erase task }.registerChild runtimeId pane split size
          else
            none
      | _ => none
  | .closePane clientId runtimeId paneId =>
      if s.serverLock = none then
        (s.openWorkspace runtimeId).bind fun w =>
          if w.clientHasWriteAccess clientId ∧ (w.removePane paneId).1.isSome then
            some { s with
              server := ServerState.killPane
                { s.server with
                  objects := s.server.objects.insert runtimeId (w.removePane paneId).2 } paneId
              closed := paneId :: s.closed }
          else
            none
      else
        none
  | .detach task clientId runtimeId =>
      if (s.handlers.lookup task).isNone then
        (s.heldWorkspace runtimeId).map fun w =>
          match w.detachClient clientId .explicitRequest with
          | (.terminated finalRevision reason, w) =>
              (s.putWorkspace runtimeId w).putHandler task
                (.terminating clientId runtimeId finalRevision reason)
          | (_, w) => s.putWorkspace runtimeId w
      else
        none
  | .terminateCheck task clientId runtimeId =>
      if s.serverLock = none ∧ (s.handlers.lookup task).isNone then
        (s.openWorkspace runtimeId).bind fun w =>
          if w.writerClientId.isSome ∧ !w.clientHasWriteAccess clientId then
            none
          else
            some { s.putHandler task
                (.terminating clientId runtimeId (saturatingAdd w.revision 1) .explicit) with
              serverLock := some task }
      else
        none
  | .terminateRun task order =>
      match s.handlers.lookup task with
      | some (.terminating clientId runtimeId finalRevision reason) =>
          if s.serverLock = none ∨ s.serverLock = some task then
            some { s with
              server := (s.server.terminateWorkspace order runtimeId finalRevision reason
                (some clientId)).2
              handlers := s.handlers.erase task
              serverLock := none }
          else
            none
      | _ => none
  | .childExits paneId =>
      -- the read loop runs from the registration on, and removes the handles at its end
      if s.serverLock = none ∧ paneId ∈ s.children ∧ paneId ∉ s.handleKilled ∧
          s.handlers.values.all (fun
            | .creating _ pane _ => pane.id ≠ paneId
            | .terminating _ _ _ _ => true) then
        some { s with
          server :=
            { s.server with
              ptyWriters := s.server.ptyWriters.erase paneId
              ptyKillSenders := s.server.ptyKillSenders.filter (fun id => id ≠ paneId) }
          exited := paneId :: s.exited }
      else
        none

/-- A server without panes; there may be clients and workspaces. -/
def IsStart (s : RegistryState P G) : Prop :=
  (∀ id w, s.server.objects.lookup id = some w → w.panes.keys = []) ∧
    s.server.ptyWriters = ∅ ∧ s.server.ptyKillSenders = [] ∧ s.handlers = ∅ ∧ s.children = ∅

variable (P G) in
def system : System (RegistryState P G) (RegistryStep P G) where
  init := IsStart
  next := next

end RegistryState

end Model

namespace RegistryState

section Property

variable {P : Type u} {G : Type v}

/-- The workspace has the pane. -/
def HasPane (s : RegistryState P G) (runtimeId paneId : Uuid) : Prop :=
  ∃ w, s.server.objects.lookup runtimeId = some w ∧ paneId ∈ w.panes

/-- The pane is one of a registered workspace. -/
def Registered (s : RegistryState P G) (paneId : Uuid) : Prop :=
  ∃ id ∈ s.server.workspaces, s.HasPane id paneId

/-- The child is with the handler that has spawned it. -/
def InHand (s : RegistryState P G) (paneId : Uuid) : Prop :=
  ∃ task runtimeId pane split,
    s.handlers.lookup task = some (.creating runtimeId pane split) ∧ pane.id = paneId

/-- The child was signalled, its handle was killed, or its exit was handled. -/
def Stopped (s : RegistryState P G) (paneId : Uuid) : Prop :=
  paneId ∈ s.server.killed ∨ paneId ∈ s.handleKilled ∨ paneId ∈ s.exited

/-- The child can be signalled, and its pane is there. -/
structure Running (s : RegistryState P G) (runtimeId paneId : Uuid) : Prop where
  sender : paneId ∈ s.server.ptyKillSenders
  unclosed : paneId ∉ s.closed
  registered : runtimeId ∈ s.server.workspaces
  pane : s.HasPane runtimeId paneId

/-- What is known of handles and children. -/
structure Tracked (s : RegistryState P G) : Prop where
  writers : ∀ k, (s.server.ptyWriters.lookup k).isSome = true → s.Registered k
  senders : ∀ k ∈ s.server.ptyKillSenders, s.Registered k
  fresh : ∀ task id pane split, s.handlers.lookup task = some (.creating id pane split) →
    s.children.lookup pane.id = some id ∧ pane.id ∉ s.closed ∧ ∀ j, ¬ s.HasPane j pane.id
  single : ∀ task task' id id' pane pane' split split',
    s.handlers.lookup task = some (.creating id pane split) →
      s.handlers.lookup task' = some (.creating id' pane' split') →
        pane.id = pane'.id → task = task'
  children : ∀ p id, s.children.lookup p = some id →
    s.InHand p ∨ s.Stopped p ∨ s.Running id p

end Property

section Panes

variable {P : Type u} {G : Type v}

/-- A workspace is replaced by one with the same panes. -/
theorem hasPane_put_same {s s' : RegistryState P G} {id : Uuid} {w w' : Workspace P G}
    (hw : s.server.objects.lookup id = some w)
    (hobjects : s'.server.objects = s.server.objects.insert id w')
    (hpanes : ∀ p, p ∈ w'.panes ↔ p ∈ w.panes)
    (j p : Uuid) :
    s'.HasPane j p ↔ s.HasPane j p := by
  simp only [HasPane, hobjects, HashMap.lookup_insert_eq]
  by_cases hj : j = id
  · subst hj
    simp only [if_true, hw, Option.some.injEq]
    constructor
    · rintro ⟨_, rfl, hp⟩
      exact ⟨w, rfl, (hpanes p).mp hp⟩
    · rintro ⟨_, rfl, hp⟩
      exact ⟨w', rfl, (hpanes p).mpr hp⟩
  · simp only [if_neg hj]

theorem hasPane_congr {s s' : RegistryState P G}
    (h : s'.server.objects = s.server.objects)
    (j p : Uuid) :
    s'.HasPane j p ↔ s.HasPane j p := by
  simp only [HasPane, h]

/-- A new pane is there afterwards, and so are the others. -/
theorem placeRequested_panes {w w' : Workspace P G} {pane : Pane P G}
    {split : Option PaneSplitRequest}
    (h : LifetimeState.placeRequested w pane split = some w') :
    w'.panes = w.panes.insert pane.id pane := by
  cases split with
  | none =>
      rw [← Option.some.inj h]
      exact Workspace.addPane_panes w pane
  | some req =>
      simp only [LifetimeState.placeRequested] at h
      rcases Workspace.splitPane_cases w req.target pane req.axis req.ratio with
        hres | ⟨tree, _, _, hsome, hres⟩
      · rw [hres] at h
        cases h
      · rcases hsplit : w.splitPane req.target pane req.axis req.ratio with ⟨rev, w₁⟩
        rw [hsplit] at h hsome hres
        cases rev with
        | none => cases hsome
        | some rev =>
            rw [← Option.some.inj h]
            exact (congrArg Workspace.panes hres).trans (Workspace.bumpRevision_panes _)

theorem mem_panes_of_removed {w : Workspace P G} {paneId : Uuid}
    (h : (w.removePane paneId).1.isSome = true) :
    paneId ∈ w.panes := by
  by_contra hnot
  rw [Workspace.removePane, AList.lookup_eq_none.mpr hnot] at h
  cases h

theorem mem_removePane {w : Workspace P G} {paneId k : Uuid} :
    k ∈ (w.removePane paneId).2.panes ↔ k ≠ paneId ∧ k ∈ w.panes := by
  rw [← AList.lookup_isSome, ← AList.lookup_isSome, Workspace.lookup_removePane]
  by_cases hk : k = paneId
  · simp [hk]
  · simp [hk]

variable [VteParser P] [Vt100Parser G]

/-- An operation that neither adds nor removes panes keeps them. -/
theorem mem_panes_apply {w : Workspace P G} {op : WorkspaceOp P G}
    (h : op.keepsPanes = true)
    (k : Uuid) :
    k ∈ (w.apply op).panes ↔ k ∈ w.panes := by
  by_cases hop : op.keepsMembers = true
  · exact (Workspace.sameMembers_apply hop).panes k
  · cases op with
    | addPane pane => cases h
    | splitPane target pane axis ratio => cases h
    | removePane paneId => cases h
    | attachClient clientId mode now =>
        rw [Workspace.apply, (Workspace.attachClient_effect w clientId mode now).panes]
    | detachClient clientId reason =>
        rw [Workspace.apply, (Workspace.detachClient_effect w clientId reason).panes]
    | _ => exact absurd rfl hop

end Panes

section Termination

variable {P : Type u} {G : Type v}

/-- What the removal of a workspace with the panes of `w` does to the handles. -/
structure Removed (s s' : ServerState P G) (id : Uuid) (w : Workspace P G) : Prop where
  objects : s'.objects = s.objects
  workspaces : s'.workspaces = s.workspaces.filter (fun k => k ≠ id)
  writers : ∀ k, (s'.ptyWriters.lookup k).isSome = true →
    k ∉ w.panes ∧ (s.ptyWriters.lookup k).isSome = true
  senders : ∀ k, k ∈ s'.ptyKillSenders ↔ k ∈ s.ptyKillSenders ∧ k ∉ w.panes
  keeps : ∀ k ∈ s.killed, k ∈ s'.killed
  signals : ∀ k ∈ s.ptyKillSenders, k ∈ w.panes → k ∈ s'.killed

/-- A termination does nothing, or it removes the workspace. -/
theorem terminateWorkspace_cases (s : ServerState P G) (order : List Uuid) (id : Uuid)
    (rev : Nat) (reason : TerminationReason) (exclude : Option Uuid) :
    (s.terminateWorkspace order id rev reason exclude).2 = s ∨
      ∃ w, s.objects.lookup id = some w ∧
        Removed s (s.terminateWorkspace order id rev reason exclude).2 id w := by
  unfold ServerState.terminateWorkspace
  split
  · exact Or.inl rfl
  · cases hw : s.objects.lookup id with
    | none => exact Or.inl rfl
    | some w =>
        refine Or.inr ⟨w, rfl, ?_⟩
        generalize hstart : ({ s with
          workspaces := s.workspaces.filter (fun k => k ≠ id) } : ServerState P G) = start
        obtain ⟨_, _, hframe⟩ := ServerState.broadcastToClients_frame
          (w.panes.keys.foldl ServerState.killPane start) order w.attachedClients.keys exclude
          (.workspaceTerminated id rev reason)
        obtain ⟨hworkspaces, hobjects, _⟩ := ServerState.killPanes_frame w.panes.keys start
        obtain ⟨hsenders, hkeep, hkilled⟩ := ServerState.killPanes_signals w.panes.keys start
        simp only [hframe]
        refine ⟨?_, ?_, ?_, ?_, ?_, ?_⟩
        · rw [hobjects, ← hstart]
        · rw [hworkspaces, ← hstart]
        · intro k hk
          obtain ⟨pty, hpty⟩ := Option.isSome_iff_exists.mp hk
          obtain ⟨hnot, hold⟩ := ServerState.lookup_killPanes_writers hpty
          rw [← hstart] at hold
          exact ⟨fun hmem => hnot (AList.mem_keys.mp hmem), Option.isSome_iff_exists.mpr ⟨_, hold⟩⟩
        · intro k
          rw [hsenders k, ← hstart, AList.mem_keys]
        · intro k hk
          exact hkeep k (by rw [← hstart]; exact hk)
        · intro k hk hmem
          exact hkilled k (by rw [← hstart]; exact hk) (AList.mem_keys.mp hmem)

end Termination

section Steps

variable {P : Type u} {G : Type v}

/-- A step that leaves handles, children and signals alone. -/
def Quiet (s s' : RegistryState P G) : Prop :=
  ∃ objects locked lock handlers,
    s' =
      { s with
        server := { s.server with objects := objects, locked := locked }
        serverLock := lock
        handlers := handlers }

/-- The panes are where they were, and the handlers of new panes go on. -/
theorem Tracked.quiet {s s' : RegistryState P G}
    (h : s.Tracked)
    (hquiet : s.Quiet s')
    (hpanes : ∀ j p, s'.HasPane j p ↔ s.HasPane j p)
    (hhandlers : ∀ task id pane split,
      s'.handlers.lookup task = some (.creating id pane split) ↔
        s.handlers.lookup task = some (.creating id pane split)) :
    s'.Tracked := by
  obtain ⟨objects, locked, lock, handlers, rfl⟩ := hquiet
  refine ⟨?_, ?_, ?_, ?_, ?_⟩
  · intro k hk
    obtain ⟨id, hid, hpane⟩ := h.writers k hk
    exact ⟨id, hid, (hpanes id k).mpr hpane⟩
  · intro k hk
    obtain ⟨id, hid, hpane⟩ := h.senders k hk
    exact ⟨id, hid, (hpanes id k).mpr hpane⟩
  · intro task id pane split hlook
    obtain ⟨hchild, hclosed, hnew⟩ := h.fresh task id pane split ((hhandlers _ _ _ _).mp hlook)
    exact ⟨hchild, hclosed, fun j hj => hnew j ((hpanes j _).mp hj)⟩
  · intro task task' id id' pane pane' split split' hlook hlook'
    exact h.single task task' id id' pane pane' split split' ((hhandlers _ _ _ _).mp hlook)
      ((hhandlers _ _ _ _).mp hlook')
  · intro p id hchild
    rcases h.children p id hchild with ⟨task, j, pane, split, hlook, hp⟩ | hstopped | hrunning
    · exact Or.inl ⟨task, j, pane, split, (hhandlers _ _ _ _).mpr hlook, hp⟩
    · exact Or.inr (Or.inl hstopped)
    · exact Or.inr (Or.inr ⟨hrunning.sender, hrunning.unclosed, hrunning.registered,
        (hpanes id p).mpr hrunning.pane⟩)

/-- The end of a handler of a new pane. -/
theorem lookup_creating_erase {s : RegistryState P G} {task task' : Nat}
    {h' : RegistryHandler P G} :
    (s.handlers.erase task).lookup task' = some h' →
      task' ≠ task ∧ s.handlers.lookup task' = some h' :=
  HashMap.lookup_erase_cases

theorem inHand_erase {s s' : RegistryState P G} {task : Nat} {id p : Uuid} {pane : Pane P G}
    {split : Option PaneSplitRequest}
    (hlook : s.handlers.lookup task = some (.creating id pane split))
    (hhandlers : s'.handlers = s.handlers.erase task)
    (h : s.InHand p) :
    p = pane.id ∨ s'.InHand p := by
  obtain ⟨task', j, pane', split', hlook', rfl⟩ := h
  by_cases htask : task' = task
  · subst htask
    rw [hlook, Option.some.injEq, RegistryHandler.creating.injEq] at hlook'
    exact Or.inl (by rw [hlook'.2.1])
  · refine Or.inr ⟨task', j, pane', split', ?_, rfl⟩
    rw [hhandlers, AList.lookup_erase_ne htask]
    exact hlook'

/-- The handler kills the child that it cannot register. -/
theorem Tracked.killHandle {s s' : RegistryState P G} {task : Nat} {id : Uuid}
    {pane : Pane P G} {split : Option PaneSplitRequest}
    (h : s.Tracked)
    (hlook : s.handlers.lookup task = some (.creating id pane split))
    (hs' : s' =
      { s with
        handlers := s.handlers.erase task
        handleKilled := pane.id :: s.handleKilled }) :
    s'.Tracked := by
  have hhandlers : s'.handlers = s.handlers.erase task := by rw [hs']
  have hhand := fun p => inHand_erase (p := p) hlook hhandlers
  subst hs'
  refine ⟨h.writers, h.senders, ?_, ?_, ?_⟩
  · intro task' j pane' split' hlook'
    exact h.fresh task' j pane' split' (lookup_creating_erase hlook').2
  · intro task₁ task₂ id₁ id₂ pane₁ pane₂ split₁ split₂ hlook₁ hlook₂
    exact h.single task₁ task₂ id₁ id₂ pane₁ pane₂ split₁ split₂
      (lookup_creating_erase hlook₁).2 (lookup_creating_erase hlook₂).2
  · intro p j hchild
    rcases h.children p j hchild with hin | (hkilled | hhandle | hexited) | hrunning
    · rcases hhand p hin with rfl | hin
      · exact Or.inr (Or.inl (Or.inr (Or.inl List.mem_cons_self)))
      · exact Or.inl hin
    · exact Or.inr (Or.inl (Or.inl hkilled))
    · exact Or.inr (Or.inl (Or.inr (Or.inl (List.mem_cons_of_mem _ hhandle))))
    · exact Or.inr (Or.inl (Or.inr (Or.inr hexited)))
    · exact Or.inr (Or.inr
        ⟨hrunning.sender, hrunning.unclosed, hrunning.registered, hrunning.pane⟩)

/-- The handler registers the pane and its handles. -/
theorem Tracked.place {s s' : RegistryState P G} {task : Nat} {id : Uuid} {w w' : Workspace P G}
    {pane : Pane P G} {split : Option PaneSplitRequest} {size : PtySize}
    (h : s.Tracked)
    (hlook : s.handlers.lookup task = some (.creating id pane split))
    (hw : s.server.objects.lookup id = some w)
    (hid : id ∈ s.server.workspaces)
    (hpanes : w'.panes = w.panes.insert pane.id pane)
    (hs' : s' =
      { s with
        handlers := s.handlers.erase task
        server :=
          { s.server with
            objects := s.server.objects.insert id w'
            ptyWriters := s.server.ptyWriters.insert pane.id size
            ptyKillSenders := pane.id :: s.server.ptyKillSenders } }) :
    s'.Tracked := by
  have hhandlers : s'.handlers = s.handlers.erase task := by rw [hs']
  have hhand := fun p => inHand_erase (p := p) hlook hhandlers
  obtain ⟨hchild, hopen, hnew⟩ := h.fresh task id pane split hlook
  have hhas : ∀ j p, s'.HasPane j p ↔ (j = id ∧ p = pane.id) ∨ s.HasPane j p := by
    intro j p
    rw [hs']
    simp only [HasPane, HashMap.lookup_insert_eq]
    by_cases hj : j = id
    · subst hj
      simp [hw, hpanes]
    · simp [hj]
  have hregistered : ∀ k, k = pane.id ∨ s.Registered k → s'.Registered k := by
    rintro k (rfl | ⟨j, hj, hpane⟩)
    · exact ⟨id, by rw [hs']; exact hid, (hhas id pane.id).mpr (Or.inl ⟨rfl, rfl⟩)⟩
    · exact ⟨j, by rw [hs']; exact hj, (hhas j k).mpr (Or.inr hpane)⟩
  refine ⟨?_, ?_, ?_, ?_, ?_⟩
  · intro k hk
    rw [hs', HashMap.lookup_insert_eq] at hk
    split at hk
    · next heq => exact hregistered k (Or.inl heq)
    · exact hregistered k (Or.inr (h.writers k hk))
  · intro k hk
    rw [hs'] at hk
    exact hregistered k ((List.mem_cons.mp hk).imp_right (h.senders k))
  · intro task' j pane' split' hlook'
    rw [hhandlers] at hlook'
    obtain ⟨hne, hlook'⟩ := lookup_creating_erase hlook'
    obtain ⟨hchild', hopen', hnew'⟩ := h.fresh task' j pane' split' hlook'
    refine ⟨by rw [hs']; exact hchild', by rw [hs']; exact hopen', fun i hi => ?_⟩
    rcases (hhas i pane'.id).mp hi with ⟨_, hsame⟩ | hold
    · exact hne (h.single task' task j id pane' pane split' split hlook' hlook hsame)
    · exact hnew' i hold
  · intro task₁ task₂ id₁ id₂ pane₁ pane₂ split₁ split₂ hlook₁ hlook₂
    rw [hhandlers] at hlook₁ hlook₂
    exact h.single task₁ task₂ id₁ id₂ pane₁ pane₂ split₁ split₂
      (lookup_creating_erase hlook₁).2 (lookup_creating_erase hlook₂).2
  · intro p j hp
    have hp : s.children.lookup p = some j := by
      rw [hs'] at hp
      exact hp
    rcases h.children p j hp with hin | hstopped | hrunning
    · rcases hhand p hin with rfl | hin
      · obtain rfl : j = id := by
          rw [hchild, Option.some.injEq] at hp
          exact hp.symm
        refine Or.inr (Or.inr ⟨?_, ?_, ?_, (hhas j pane.id).mpr (Or.inl ⟨rfl, rfl⟩)⟩)
        · rw [hs']
          exact List.mem_cons_self
        · rw [hs']
          exact hopen
        · rw [hs']
          exact hid
      · exact Or.inl hin
    · exact Or.inr (Or.inl (by rw [hs']; exact hstopped))
    · refine Or.inr (Or.inr ⟨?_, ?_, ?_, (hhas j p).mpr (Or.inr hrunning.pane)⟩)
      · rw [hs']
        exact List.mem_cons_of_mem _ hrunning.sender
      · rw [hs']
        exact hrunning.unclosed
      · rw [hs']
        exact hrunning.registered

/-- Closing a pane signals its child, if it can still be signalled. -/
theorem Tracked.closePane {s s' : RegistryState P G} {id paneId : Uuid} {w : Workspace P G}
    (h : s.Tracked)
    (hw : s.server.objects.lookup id = some w)
    (hmem : paneId ∈ w.panes)
    (hs' : s' =
      { s with
        server := ServerState.killPane
          { s.server with
            objects := s.server.objects.insert id (w.removePane paneId).2 } paneId
        closed := paneId :: s.closed }) :
    s'.Tracked := by
  have hhas : ∀ j p, p ≠ paneId → (s'.HasPane j p ↔ s.HasPane j p) := by
    intro j p hp
    rw [hs']
    simp only [HasPane, ServerState.killPane, HashMap.lookup_insert_eq]
    by_cases hj : j = id
    · subst hj
      simp [hw, mem_removePane, hp]
    · simp [hj]
  have hsub : ∀ j p, s'.HasPane j p → s.HasPane j p := by
    intro j p hp
    rw [hs'] at hp
    simp only [HasPane, ServerState.killPane, HashMap.lookup_insert_eq] at hp
    obtain ⟨w', hw', hp⟩ := hp
    split at hw'
    · next hj =>
        rw [Option.some.injEq] at hw'
        subst hj hw'
        exact ⟨w, hw, (mem_removePane.mp hp).2⟩
    · exact ⟨w', hw', hp⟩
  have hregistered : ∀ k, k ≠ paneId → s.Registered k → s'.Registered k := by
    rintro k hk ⟨j, hj, hpane⟩
    exact ⟨j, by rw [hs']; exact hj, (hhas j k hk).mpr hpane⟩
  refine ⟨?_, ?_, ?_, ?_, ?_⟩
  · intro k hk
    rw [hs'] at hk
    obtain ⟨pty, hpty⟩ := Option.isSome_iff_exists.mp hk
    obtain ⟨hne, hold⟩ := HashMap.lookup_erase_cases hpty
    exact hregistered k hne (h.writers k (Option.isSome_iff_exists.mpr ⟨pty, hold⟩))
  · intro k hk
    rw [hs'] at hk
    obtain ⟨hold, hne⟩ := List.mem_filter.mp hk
    exact hregistered k (of_decide_eq_true hne) (h.senders k hold)
  · intro task j pane split hlook
    rw [hs'] at hlook
    obtain ⟨hchild, hopen, hnew⟩ := h.fresh task j pane split hlook
    refine ⟨by rw [hs']; exact hchild, ?_, fun i hi => hnew i (hsub i _ hi)⟩
    rw [hs']
    refine List.not_mem_cons_of_ne_of_not_mem (fun heq => hnew id ?_) hopen
    exact ⟨w, hw, heq ▸ hmem⟩
  · intro task₁ task₂ id₁ id₂ pane₁ pane₂ split₁ split₂ hlook₁ hlook₂
    rw [hs'] at hlook₁ hlook₂
    exact h.single task₁ task₂ id₁ id₂ pane₁ pane₂ split₁ split₂ hlook₁ hlook₂
  · intro p j hp
    have hkilled : ∀ k ∈ s.server.killed, k ∈ s'.server.killed := by
      intro k hk
      rw [hs', ServerState.killPane]
      dsimp only
      split
      · exact List.mem_append_left _ hk
      · exact hk
    have hp : s.children.lookup p = some j := by
      rw [hs'] at hp
      exact hp
    rcases h.children p j hp with hin | (hold | hhandle | hexited) | hrunning
    · exact Or.inl (by rw [hs']; exact hin)
    · exact Or.inr (Or.inl (Or.inl (hkilled p hold)))
    · exact Or.inr (Or.inl (Or.inr (Or.inl (by rw [hs']; exact hhandle))))
    · exact Or.inr (Or.inl (Or.inr (Or.inr (by rw [hs']; exact hexited))))
    · by_cases hsame : p = paneId
      · subst hsame
        refine Or.inr (Or.inl (Or.inl ?_))
        rw [hs', ServerState.killPane]
        simp [hrunning.sender]
      · refine Or.inr (Or.inr ⟨?_, ?_, ?_, (hhas j p hsame).mpr hrunning.pane⟩)
        · rw [hs']
          exact List.mem_filter.mpr ⟨hrunning.sender, decide_eq_true hsame⟩
        · rw [hs']
          exact List.not_mem_cons_of_ne_of_not_mem hsame hrunning.unclosed
        · rw [hs']
          exact hrunning.registered

/-- Removing a workspace signals the children of its panes. -/
theorem Tracked.remove {s s' : RegistryState P G} {id : Uuid} {w : Workspace P G}
    {server : ServerState P G} {task : Nat}
    (h : s.Tracked)
    (hw : s.server.objects.lookup id = some w)
    (hremoved : Removed s.server server id w)
    (hhandlers : ∀ j pane split, s.handlers.lookup task ≠ some (.creating j pane split))
    (hs' : s' =
      { s with server := server, handlers := s.handlers.erase task, serverLock := none }) :
    s'.Tracked := by
  have hlookup : ∀ task' j pane split,
      s'.handlers.lookup task' = some (.creating j pane split) ↔
        s.handlers.lookup task' = some (.creating j pane split) := by
    intro task' j pane split
    rw [hs']
    by_cases htask : task' = task
    · subst htask
      simp [hhandlers]
    · rw [AList.lookup_erase_ne htask]
  have hhas : ∀ j p, s'.HasPane j p ↔ s.HasPane j p :=
    hasPane_congr (by rw [hs']; exact hremoved.objects)
  have hother : ∀ j k, j ∈ s.server.workspaces → s.HasPane j k → k ∉ w.panes →
      j ∈ s'.server.workspaces := by
    rintro j k hj ⟨w', hw', hk⟩ hnot
    rw [hs', hremoved.workspaces]
    refine List.mem_filter.mpr ⟨hj, decide_eq_true ?_⟩
    rintro rfl
    rw [hw, Option.some.injEq] at hw'
    exact hnot (hw' ▸ hk)
  have hregistered : ∀ k, k ∉ w.panes → s.Registered k → s'.Registered k := by
    rintro k hnot ⟨j, hj, hpane⟩
    exact ⟨j, hother j k hj hpane hnot, (hhas j k).mpr hpane⟩
  refine ⟨?_, ?_, ?_, ?_, ?_⟩
  · intro k hk
    rw [hs'] at hk
    obtain ⟨hnot, hold⟩ := hremoved.writers k hk
    exact hregistered k hnot (h.writers k hold)
  · intro k hk
    rw [hs'] at hk
    obtain ⟨hold, hnot⟩ := (hremoved.senders k).mp hk
    exact hregistered k hnot (h.senders k hold)
  · intro task' j pane split hlook
    obtain ⟨hchild, hclosed, hnew⟩ := h.fresh task' j pane split ((hlookup _ _ _ _).mp hlook)
    refine ⟨by rw [hs']; exact hchild, by rw [hs']; exact hclosed, fun i hi => ?_⟩
    exact hnew i ((hhas i _).mp hi)
  · intro task₁ task₂ id₁ id₂ pane₁ pane₂ split₁ split₂ hlook₁ hlook₂
    exact h.single task₁ task₂ id₁ id₂ pane₁ pane₂ split₁ split₂
      ((hlookup _ _ _ _).mp hlook₁) ((hlookup _ _ _ _).mp hlook₂)
  · intro p j hp
    have hp : s.children.lookup p = some j := by
      rw [hs'] at hp
      exact hp
    rcases h.children p j hp with ⟨task', i, pane, split, hlook, heq⟩ |
      (hold | hhandle | hexited) | hrunning
    · exact Or.inl ⟨task', i, pane, split, (hlookup _ _ _ _).mpr hlook, heq⟩
    · exact Or.inr (Or.inl (Or.inl (by rw [hs']; exact hremoved.keeps p hold)))
    · exact Or.inr (Or.inl (Or.inr (Or.inl (by rw [hs']; exact hhandle))))
    · exact Or.inr (Or.inl (Or.inr (Or.inr (by rw [hs']; exact hexited))))
    · by_cases hmem : p ∈ w.panes
      · exact Or.inr (Or.inl (Or.inl (by
          rw [hs']
          exact hremoved.signals p hrunning.sender hmem)))
      · refine Or.inr (Or.inr ⟨?_, ?_, ?_, (hhas j p).mpr hrunning.pane⟩)
        · rw [hs']
          exact (hremoved.senders p).mpr ⟨hrunning.sender, hmem⟩
        · rw [hs']
          exact hrunning.unclosed
        · exact hother j p hrunning.registered hrunning.pane hmem

/-- The exit of a child takes its handles away. -/
theorem Tracked.exit {s s' : RegistryState P G} {paneId : Uuid}
    (h : s.Tracked)
    (hs' : s' =
      { s with
        server :=
          { s.server with
            ptyWriters := s.server.ptyWriters.erase paneId
            ptyKillSenders := s.server.ptyKillSenders.filter (fun id => id ≠ paneId) }
        exited := paneId :: s.exited }) :
    s'.Tracked := by
  subst hs'
  refine ⟨?_, ?_, h.fresh, h.single, ?_⟩
  · intro k hk
    obtain ⟨pty, hpty⟩ := Option.isSome_iff_exists.mp hk
    exact h.writers k (Option.isSome_iff_exists.mpr ⟨pty, (HashMap.lookup_erase_cases hpty).2⟩)
  · intro k hk
    exact h.senders k (List.mem_of_mem_filter hk)
  · intro p j hp
    rcases h.children p j hp with hin | (hold | hhandle | hexited) | hrunning
    · exact Or.inl hin
    · exact Or.inr (Or.inl (Or.inl hold))
    · exact Or.inr (Or.inl (Or.inr (Or.inl hhandle)))
    · exact Or.inr (Or.inl (Or.inr (Or.inr (List.mem_cons_of_mem _ hexited))))
    · by_cases hsame : p = paneId
      · exact Or.inr (Or.inl (Or.inr (Or.inr (hsame ▸ List.mem_cons_self))))
      · exact Or.inr (Or.inr
          ⟨List.mem_filter.mpr ⟨hrunning.sender, decide_eq_true hsame⟩, hrunning.unclosed,
            hrunning.registered, hrunning.pane⟩)

/-- A child is spawned under an id that nothing has. -/
theorem Tracked.spawn {s s' : RegistryState P G} {task : Nat} {id : Uuid} {pane : Pane P G}
    {split : Option PaneSplitRequest}
    (h : s.Tracked)
    (htask : s.handlers.lookup task = none)
    (hminted : s.isMinted pane.id = true)
    (hs' : s' =
      { s with
        handlers := s.handlers.insert task (.creating id pane split)
        children := s.children.insert pane.id id }) :
    s'.Tracked := by
  simp only [isMinted, Bool.and_eq_true, Option.isNone_iff_eq_none, decide_eq_true_eq,
    List.all_eq_true] at hminted
  obtain ⟨⟨hchild, hclosed⟩, hpanes⟩ := hminted
  have hnew : ∀ j, ¬ s.HasPane j pane.id := by
    rintro j ⟨w, hw, hmem⟩
    exact AList.lookup_eq_none.mp (hpanes w (HashMap.mem_values.mpr ⟨j, hw⟩)) hmem
  have hold : ∀ task' j pane' split',
      s.handlers.lookup task' = some (.creating j pane' split') → pane'.id ≠ pane.id := by
    intro task' j pane' split' hlook heq
    have hsome := (h.fresh task' j pane' split' hlook).1
    rw [heq, hchild] at hsome
    cases hsome
  have hcases : ∀ task' j pane' split',
      s'.handlers.lookup task' = some (.creating j pane' split') →
        (task' = task ∧ j = id ∧ pane' = pane) ∨
          s.handlers.lookup task' = some (.creating j pane' split') := by
    intro task' j pane' split' hlook
    rw [hs'] at hlook
    rcases HashMap.lookup_insert_cases hlook with ⟨heq, hnew⟩ | ⟨_, hlook⟩
    · rw [RegistryHandler.creating.injEq] at hnew
      exact Or.inl ⟨heq, hnew.1, hnew.2.1⟩
    · exact Or.inr hlook
  refine ⟨?_, ?_, ?_, ?_, ?_⟩
  · rw [hs']
    exact h.writers
  · rw [hs']
    exact h.senders
  · intro task' j pane' split' hlook
    rcases hcases task' j pane' split' hlook with ⟨_, rfl, rfl⟩ | hlook
    · rw [hs']
      exact ⟨AList.lookup_insert _, hclosed, hnew⟩
    · obtain ⟨hc, ho, hn⟩ := h.fresh task' j pane' split' hlook
      rw [hs']
      exact ⟨(AList.lookup_insert_ne (hold _ _ _ _ hlook)).trans hc, ho, hn⟩
  · intro task₁ task₂ id₁ id₂ pane₁ pane₂ split₁ split₂ hlook₁ hlook₂ heq
    rcases hcases _ _ _ _ hlook₁ with ⟨rfl, _, rfl⟩ | hlook₁
    · rcases hcases _ _ _ _ hlook₂ with ⟨rfl, _, _⟩ | hlook₂
      · rfl
      · exact absurd heq.symm (hold _ _ _ _ hlook₂)
    · rcases hcases _ _ _ _ hlook₂ with ⟨_, _, rfl⟩ | hlook₂
      · exact absurd heq (hold _ _ _ _ hlook₁)
      · exact h.single task₁ task₂ id₁ id₂ pane₁ pane₂ split₁ split₂ hlook₁ hlook₂ heq
  · intro p j hp
    rw [hs'] at hp
    rcases HashMap.lookup_insert_cases hp with ⟨rfl, rfl⟩ | ⟨_, hp⟩
    · exact Or.inl ⟨task, j, pane, split, by rw [hs']; exact AList.lookup_insert _, rfl⟩
    · rcases h.children p j hp with ⟨task', i, pane', split', hlook, heq⟩ | hstopped | hrunning
      · refine Or.inl ⟨task', i, pane', split', ?_, heq⟩
        rw [hs']
        refine (AList.lookup_insert_ne ?_).trans hlook
        rintro rfl
        rw [htask] at hlook
        cases hlook
      · exact Or.inr (Or.inl (by rw [hs']; exact hstopped))
      · rw [hs']
        exact Or.inr (Or.inr
          ⟨hrunning.sender, hrunning.unclosed, hrunning.registered, hrunning.pane⟩)

/-- A new workspace has no panes. -/
theorem Tracked.createWorkspace {s s' : RegistryState P G} {w : Workspace P G}
    (h : s.Tracked)
    (hid : s.server.objects.lookup w.id = none)
    (hpanes : w.panes.keys = [])
    (hs' : s' =
      { s with
        server :=
          { s.server with
            objects := s.server.objects.insert w.id w
            workspaces := w.id :: s.server.workspaces } }) :
    s'.Tracked := by
  have hhas : ∀ j p, s'.HasPane j p ↔ s.HasPane j p := by
    intro j p
    rw [hs']
    simp only [HasPane, HashMap.lookup_insert_eq]
    by_cases hj : j = w.id
    · subst hj
      have hempty : p ∉ w.panes := by
        rw [AList.mem_keys, hpanes]
        exact List.not_mem_nil
      simp [hid, hempty]
    · simp [hj]
  have hregistered : ∀ k, s.Registered k → s'.Registered k := by
    rintro k ⟨j, hj, hpane⟩
    exact ⟨j, by rw [hs']; exact List.mem_cons_of_mem _ hj, (hhas j k).mpr hpane⟩
  refine ⟨?_, ?_, ?_, ?_, ?_⟩
  · intro k hk
    rw [hs'] at hk
    exact hregistered k (h.writers k hk)
  · intro k hk
    rw [hs'] at hk
    exact hregistered k (h.senders k hk)
  · intro task j pane split hlook
    rw [hs'] at hlook
    obtain ⟨hchild, hclosed, hnew⟩ := h.fresh task j pane split hlook
    refine ⟨by rw [hs']; exact hchild, by rw [hs']; exact hclosed, fun i hi => ?_⟩
    exact hnew i ((hhas i _).mp hi)
  · rw [hs']
    exact h.single
  · intro p j hp
    rw [hs'] at hp
    rcases h.children p j hp with hin | hstopped | hrunning
    · exact Or.inl (by rw [hs']; exact hin)
    · exact Or.inr (Or.inl (by rw [hs']; exact hstopped))
    · refine Or.inr (Or.inr ⟨?_, ?_, ?_, (hhas j p).mpr hrunning.pane⟩)
      · rw [hs']
        exact hrunning.sender
      · rw [hs']
        exact hrunning.unclosed
      · rw [hs']
        exact List.mem_cons_of_mem _ hrunning.registered

theorem openWorkspace_eq_some {s : RegistryState P G} {id : Uuid} {w : Workspace P G}
    (h : s.openWorkspace id = some w) :
    id ∈ s.server.workspaces ∧ s.server.objects.lookup id = some w := by
  simp only [openWorkspace, Option.ite_none_right_eq_some] at h
  exact ⟨h.1.1, h.2⟩

theorem heldWorkspace_eq_some {s : RegistryState P G} {id : Uuid} {w : Workspace P G}
    (h : s.heldWorkspace id = some w) :
    s.server.objects.lookup id = some w := by
  simp only [heldWorkspace, Option.ite_none_left_eq_some] at h
  exact h.2

/-- A handler that decides a termination creates no pane. -/
theorem lookup_putTerminating {s : RegistryState P G} {task : Nat} {clientId runtimeId : Uuid}
    {rev : Nat} {reason : TerminationReason}
    (htask : s.handlers.lookup task = none)
    (task' : Nat)
    (id : Uuid)
    (pane : Pane P G)
    (split : Option PaneSplitRequest) :
    (s.handlers.insert task (.terminating clientId runtimeId rev reason)).lookup task' =
        some (.creating id pane split) ↔
      s.handlers.lookup task' = some (.creating id pane split) := by
  rw [HashMap.lookup_insert_eq]
  by_cases hsame : task' = task
  · subst hsame
    simp [htask]
  · rw [if_neg hsame]

variable [VteParser P] [Vt100Parser G]

/-- **Step lemma.** -/
theorem Tracked.next {s s' : RegistryState P G} {a : RegistryStep P G}
    (h : s.Tracked)
    (hnext : s.next a = some s') :
    s'.Tracked := by
  cases a with
  | createWorkspace w =>
      simp only [RegistryState.next, Option.ite_none_right_eq_some, Option.some.injEq,
        Option.isNone_iff_eq_none] at hnext
      obtain ⟨⟨_, hid, hpanes⟩, hs'⟩ := hnext
      exact h.createWorkspace hid hpanes hs'.symm
  | mutate id op =>
      simp only [RegistryState.next, Option.ite_none_right_eq_some,
        Option.map_eq_some_iff] at hnext
      obtain ⟨hop, w, hw, rfl⟩ := hnext
      refine h.quiet ⟨_, _, _, _, rfl⟩ ?_ (fun _ _ _ _ => Iff.rfl)
      exact hasPane_put_same (heldWorkspace_eq_some hw) rfl (mem_panes_apply hop)
  | setLocked id locked =>
      rw [← Option.some.inj hnext]
      exact h.quiet ⟨_, _, _, _, rfl⟩ (fun _ _ => Iff.rfl) (fun _ _ _ _ => Iff.rfl)
  | spawn task clientId id pane split =>
      simp only [RegistryState.next, Option.ite_none_right_eq_some, Option.isNone_iff_eq_none,
        Option.bind_eq_some_iff, Option.some.injEq] at hnext
      obtain ⟨⟨_, htask, hminted⟩, w, _, _, hs'⟩ := hnext
      exact h.spawn htask hminted hs'.symm
  | register task size =>
      simp only [RegistryState.next] at hnext
      split at hnext
      · next id pane split hlook =>
          simp only [Option.ite_none_right_eq_some, registerChild] at hnext
          obtain ⟨_, hnext⟩ := hnext
          split at hnext
          · exact h.killHandle hlook (Option.some.inj hnext).symm
          · obtain ⟨w, hw, hres⟩ := Option.map_eq_some_iff.mp hnext
            obtain ⟨hid, hobject⟩ := openWorkspace_eq_some hw
            cases hplace : LifetimeState.placeRequested w pane split with
            | none =>
                rw [hplace] at hres
                exact h.killHandle hlook hres.symm
            | some w' =>
                rw [hplace] at hres
                exact h.place hlook hobject hid (placeRequested_panes hplace) hres.symm
      · cases hnext
  | closePane clientId id paneId =>
      simp only [RegistryState.next, Option.ite_none_right_eq_some, Option.bind_eq_some_iff,
        Option.some.injEq] at hnext
      obtain ⟨_, w, hw, ⟨_, hpane⟩, hs'⟩ := hnext
      exact h.closePane (openWorkspace_eq_some hw).2 (mem_panes_of_removed hpane) hs'.symm
  | detach task clientId id =>
      simp only [RegistryState.next, Option.ite_none_right_eq_some, Option.isNone_iff_eq_none,
        Option.map_eq_some_iff] at hnext
      obtain ⟨htask, w, hw, hres⟩ := hnext
      have hpanes := (Workspace.detachClient_effect w clientId .explicitRequest).panes
      rcases hdetach : w.detachClient clientId .explicitRequest with ⟨outcome, w'⟩
      rw [hdetach] at hpanes hres
      have hput : ∀ j p, (s.putWorkspace id w').HasPane j p ↔ s.HasPane j p :=
        hasPane_put_same (heldWorkspace_eq_some hw) rfl (fun p => by rw [hpanes])
      cases outcome with
      | terminated rev reason =>
          subst hres
          exact h.quiet ⟨_, _, _, _, rfl⟩ hput (lookup_putTerminating htask)
      | _ =>
          subst hres
          exact h.quiet ⟨_, _, _, _, rfl⟩ hput (fun _ _ _ _ => Iff.rfl)
  | terminateCheck task clientId id =>
      simp only [RegistryState.next, Option.ite_none_right_eq_some, Option.isNone_iff_eq_none,
        Option.bind_eq_some_iff, Option.ite_none_left_eq_some, Option.some.injEq] at hnext
      obtain ⟨⟨_, htask⟩, w, _, _, rfl⟩ := hnext
      exact h.quiet ⟨_, _, _, _, rfl⟩ (fun _ _ => Iff.rfl) (lookup_putTerminating htask)
  | terminateRun task order =>
      simp only [RegistryState.next] at hnext
      split at hnext
      · next clientId id rev reason hlook =>
          simp only [Option.ite_none_right_eq_some, Option.some.injEq] at hnext
          obtain ⟨_, hs'⟩ := hnext
          have hhandlers : ∀ j pane split,
              s.handlers.lookup task ≠ some (.creating j pane split) := by
            intro j pane split heq
            rw [hlook] at heq
            cases heq
          rcases terminateWorkspace_cases s.server order id rev reason (some clientId) with
            hsame | ⟨w, hw, hremoved⟩
          · rw [hsame] at hs'
            subst hs'
            refine h.quiet ⟨_, _, _, _, rfl⟩ (fun _ _ => Iff.rfl) ?_
            intro task' j pane split
            rw [HashMap.lookup_erase_eq]
            by_cases htask : task' = task
            · subst htask
              simp [hhandlers]
            · rw [if_neg htask]
          · exact h.remove hw hremoved hhandlers hs'.symm
      · cases hnext
  | childExits paneId =>
      simp only [RegistryState.next, Option.ite_none_right_eq_some, Option.some.injEq] at hnext
      exact h.exit hnext.2.symm

/-- **Run lemma.** -/
theorem Reachable.tracked {s : RegistryState P G}
    (h : (system P G).Reachable s) :
    s.Tracked := by
  refine h.invariant ?_ (fun s a s' hI hnext => hI.next hnext)
  rintro s ⟨hpanes, hwriters, hsenders, hhandlers, hchildren⟩
  refine ⟨?_, ?_, ?_, ?_, ?_⟩
  · intro k hk
    rw [hwriters] at hk
    cases hk
  · intro k hk
    rw [hsenders] at hk
    cases hk
  · intro task id pane split hlook
    rw [hhandlers] at hlook
    cases hlook
  · intro task task' id id' pane pane' split split' hlook
    rw [hhandlers] at hlook
    cases hlook
  · intro p id hp
    rw [hchildren] at hp
    cases hp

/-- A handler that finds the workspace gone kills the child. -/
theorem register_of_gone {s : RegistryState P G} {task : Nat} {id : Uuid} {pane : Pane P G}
    {split : Option PaneSplitRequest}
    (hlook : s.handlers.lookup task = some (.creating id pane split))
    (hgone : id ∉ s.server.workspaces)
    (hlock : s.serverLock = none)
    (size : PtySize) :
    ∃ s', s.next (.register task size) = some s' ∧ pane.id ∈ s'.handleKilled := by
  refine ⟨{ s with
    handlers := s.handlers.erase task
    handleKilled := pane.id :: s.handleKilled }, ?_, List.mem_cons_self⟩
  simp only [RegistryState.next, hlook, if_pos hlock, registerChild]
  exact if_pos hgone

end Steps

section Results

variable {P : Type u} {G : Type v}
variable [VteParser P] [Vt100Parser G]

/-- **Handles and children are tracked.**  Every handle belongs to a pane of a registered
workspace.  The child of a closed pane or of a workspace that is gone was signalled or
killed, unless its exit was handled, or it is still with the handler that spawned it;
that handler kills it next, when the workspace is gone. -/
theorem pty_handles_tracked {s : RegistryState P G}
    (h : (system P G).Reachable s) :
    (∀ k, (s.server.ptyWriters.lookup k).isSome = true → s.Registered k) ∧
      (∀ k ∈ s.server.ptyKillSenders, s.Registered k) ∧
      (∀ p id, s.children.lookup p = some id → p ∈ s.closed ∨ id ∉ s.server.workspaces →
        p ∈ s.server.killed ∨ p ∈ s.handleKilled ∨ p ∈ s.exited ∨ s.InHand p) ∧
      ∀ task id pane split size, s.handlers.lookup task = some (.creating id pane split) →
        id ∉ s.server.workspaces → s.serverLock = none →
          ∃ s', s.next (.register task size) = some s' ∧ pane.id ∈ s'.handleKilled := by
  have htracked := Reachable.tracked h
  refine ⟨htracked.writers, htracked.senders, ?_, ?_⟩
  · intro p id hp hgone
    rcases htracked.children p id hp with hin | (hkilled | hhandle | hexited) | hrunning
    · exact Or.inr (Or.inr (Or.inr hin))
    · exact Or.inl hkilled
    · exact Or.inr (Or.inl hhandle)
    · exact Or.inr (Or.inr (Or.inl hexited))
    · rcases hgone with hclosed | hgone
      · exact absurd hclosed hrunning.unclosed
      · exact absurd hrunning.registered hgone
  · intro task id pane split size hlook hgone hlock
    exact register_of_gone hlook hgone hlock size

end Results

section Samples

/-- One workspace without panes. -/
def emptyRegistry : RegistryState SampleParser SampleGrid where
  server := ⟨(∅ : HashMap Uuid (Workspace SampleParser SampleGrid)).insert 7
    (Workspace.new 7 "work" 0), [7], [], ∅, [], [], ∅, ∅, [], ∅, []⟩
  serverLock := none
  handlers := ∅
  children := ∅
  closed := []
  handleKilled := []
  exited := []

theorem emptyRegistry_isStart : emptyRegistry.IsStart := by
  refine ⟨fun id w hw => ?_, rfl, rfl, rfl, rfl⟩
  rcases HashMap.lookup_insert_cases hw with ⟨_, rfl⟩ | ⟨_, hold⟩
  · rfl
  · cases hold

/-- A client creates a pane. -/
def creates : List (RegistryStep SampleParser SampleGrid) :=
  [.spawn 0 9 7 (Pane.new 1 80 24) none, .register 0 ⟨80, 24⟩]

/-- **Children of closed panes that nobody has signalled**: one that has exited before,
and, in a workspace that is terminated, one that its handler has still to register. -/
theorem exited_child_not_signalled :
    (∃ s, (system SampleParser SampleGrid).Reachable s ∧ s.serverLock = none ∧
      (s.children.lookup 1).isSome = true ∧ 1 ∈ s.closed ∧
        1 ∉ s.server.killed ∧ 1 ∉ s.handleKilled) ∧
    ∃ s, (system SampleParser SampleGrid).Reachable s ∧ s.serverLock = none ∧
      s.children.lookup 1 = some 7 ∧ 7 ∉ s.server.workspaces ∧
        1 ∉ s.server.killed ∧ 1 ∉ s.handleKilled := by
  constructor
  · -- The child exits, and then the pane is closed.
    exact System.exists_reachable (creates ++ [.childExits 1, .closePane 9 7 1])
      emptyRegistry_isStart (by decide +kernel)
  · -- The workspace is terminated while the handler has let go of the server lock.
    exact System.exists_reachable [.spawn 0 9 7 (Pane.new 1 80 24) none, .terminateCheck 1 9 7,
      .terminateRun 1 [7]] emptyRegistry_isStart (by decide +kernel)

/-- A pane is created and split, one of the two closed, and the workspace terminated. -/
def splitAndTerminate : List (RegistryStep SampleParser SampleGrid) :=
  creates ++ [.spawn 0 9 7 (Pane.new 2 80 24) (some ⟨1, .vertical, F32.half⟩),
    .register 0 ⟨80, 24⟩, .closePane 9 7 1, .terminateCheck 1 9 7, .terminateRun 1 [7]]

theorem splitAndTerminate_runs :
    ((system SampleParser SampleGrid).exec emptyRegistry splitAndTerminate).isSome = true := by
  decide +kernel

def splitAndTerminateEnd : RegistryState SampleParser SampleGrid :=
  ((system SampleParser SampleGrid).exec emptyRegistry splitAndTerminate).get
    splitAndTerminate_runs

/-- Both children are signalled, and no handle is left. -/
theorem pty_handles_tracked_run :
    splitAndTerminateEnd.server.killed = [1, 2] ∧
      splitAndTerminateEnd.server.ptyKillSenders = [] ∧
      ∀ k, (splitAndTerminateEnd.server.ptyWriters.lookup k).isSome = true →
        splitAndTerminateEnd.Registered k :=
  ⟨by decide +kernel, by decide +kernel, (pty_handles_tracked
    (System.reachable_get emptyRegistry_isStart splitAndTerminate_runs)).1⟩

end Samples

end RegistryState

end Server
end Rttx
