import Rttx.Client.SplitRequests
import Rttx.Server.SampleTerminal

/-!
# Optimistic splits

The window splits a managed pane before the daemon does.  The two arrangements
agree once every split is answered, provided that no split targets a pane whose
own id is still a minted one, that the daemon accepts every split, and that the
command and the answer find room in their channels.

The split's request names its target by the layout terminal's id at the time of
the split.  That is the pane id only once the answer about the pane has been
applied; before that no pane has the id, and the daemon refuses.  A refused
split is reported, and its terminal stays in the layout.

**Results.**
* `splits_reconcile`: in runs that meet the condition the layout has the shape
  of the daemon's tree whenever no split is outstanding, every terminal is a pane
  of the daemon or awaits its id, and every split under way targets a pane.
* `splits_not_reconciled`: a failed split leaves its terminal behind, and a split
  of an unanswered pane targets no pane.
-/

namespace Rttx
namespace Client

open Kernel Server

universe u v

section Outstanding

/-- The terminal and the pane of an acknowledgement for the workspace. -/
def ActorEvent.createdIn (workspaceId : String) : ActorEvent → Option (String × String)
  | paneCreated w layoutTerminalUuid _ runtimePaneId =>
      if w = workspaceId then some (layoutTerminalUuid, runtimePaneId) else none
  | _ => none

/-- The split of the workspace that a command asks for. -/
def EndpointCommand.splitIn (workspaceId : String) :
    EndpointCommand → Option (ProvisionalEdit String SplitOrientation)
  | splitPane w _ targetPaneId layoutTerminalUuid axis _ _ =>
      if w = workspaceId then
        some ⟨targetPaneId, layoutTerminalUuid, orientationFromAxis axis⟩
      else
        none
  | _ => none

/-- The terminal of the workspace whose split the actor is busy with. -/
def Phase.splitIn (workspaceId : String) : Phase → Option String
  | .sending _ _ (.await _ _ (.splitPane w layoutTerminalUuid _)) =>
      if w = workspaceId then some layoutTerminalUuid else none
  | .receiving _ _ (.splitPane w layoutTerminalUuid _) =>
      if w = workspaceId then some layoutTerminalUuid else none
  | _ => none

/-- The envelope that the actor is writing. -/
def Phase.envelope? : Phase → Option ClientEnvelope
  | .sending _ env _ => some env
  | _ => none

/-- The target of a split request for the runtime. -/
def ClientCommand.splitTarget (runtimeId : Uuid) : ClientCommand → Option String
  | splitPane r targetPaneId _ _ _ =>
      if r = runtimeId then some (uuidToString targetPaneId) else none
  | _ => none

namespace SplitState

variable {P : Type u} {G : Type v}

/-- The terminals of the workspace whose pane id the window does not know yet:
their split is queued, under way, or answered by an event not yet taken. -/
def outstanding (s : SplitState P G) (workspaceId : String) : List String :=
  (s.actor.events.items.filterMap (ActorEvent.createdIn workspaceId)).map Prod.fst ++
    (s.actor.phase.splitIn workspaceId).toList ++
    (s.actor.commands.items.filterMap (EndpointCommand.splitIn workspaceId)).map
      ProvisionalEdit.added

/-- The targets of the splits that are on their way to the daemon. -/
def splitTargets (s : SplitState P G) (workspaceId : String) (runtimeId : Uuid) : List String :=
  (s.requests ++ s.actor.phase.envelope?.toList).filterMap
      (fun env => env.command.splitTarget runtimeId) ++
    (s.actor.commands.items.filterMap (EndpointCommand.splitIn workspaceId)).map
      ProvisionalEdit.target

def layoutShape (s : SplitState P G) (workspaceId : String) : Option LayoutShape :=
  (s.window.findWorkspace workspaceId).map (fun session => session.layout.shape)

/-- The shape of the daemon's tree. -/
def treeShape (s : SplitState P G) (runtimeId : Uuid) : Option LayoutShape :=
  (s.workspaces.lookup runtimeId).bind (fun w => w.tree.root.map renderShape)

def treeUuids (s : SplitState P G) (runtimeId : Uuid) : List String :=
  ((s.treeShape runtimeId).map LayoutShape.ids).getD []

def layoutUuids (s : SplitState P G) (workspaceId : String) : List String :=
  ((s.layoutShape workspaceId).map LayoutShape.ids).getD []

/-- Once every split is answered the layout has the shape and the leaf ids of the
daemon's tree. -/
def Reconciled (s : SplitState P G) (workspaceId : String) (runtimeId : Uuid) : Prop :=
  s.outstanding workspaceId = [] → s.layoutShape workspaceId = s.treeShape runtimeId

/-- Every terminal is a pane of the daemon or awaits its pane id. -/
def NoPhantom (s : SplitState P G) (workspaceId : String) (runtimeId : Uuid) : Prop :=
  ∀ uuid ∈ s.layoutUuids workspaceId,
    uuid ∈ s.treeUuids runtimeId ∨ uuid ∈ s.outstanding workspaceId

/-- Every split under way targets a pane of the daemon. -/
def TargetsPanes (s : SplitState P G) (workspaceId : String) (runtimeId : Uuid) : Prop :=
  ∀ target ∈ s.splitTargets workspaceId runtimeId, target ∈ s.treeUuids runtimeId

end SplitState

end Outstanding

section System

variable {P : Type u} {G : Type v}

/-- The workspace is attached to the runtime and shows its tree, and nothing is
under way.  No other workspace of the window is attached to the runtime. -/
structure SplitState.Attached [UuidText] (workspaceId : String) (runtimeId : Uuid)
    (s : SplitState P G) : Prop where
  link : s.actor.link = .split
  idle : ∃ paused, s.actor.phase = .idle paused
  commands : s.actor.commands.items = []
  events : s.actor.events.items = []
  requests : s.requests = []
  responses : s.responses = []
  distinct : (s.window.workspaces.map (fun session => session.uuid)).Nodup
  others : ∀ session ∈ s.window.workspaces, session.uuid ≠ workspaceId →
    ∀ r, session.runtime.runtimeId = some r → UuidText.parseStr r ≠ .ok runtimeId
  attached : ∃ session w root, s.window.findWorkspace workspaceId = some session ∧
    session.runtime = ⟨true, s.actor.endpoint, some (uuidToString runtimeId)⟩ ∧
    s.workspaces.lookup runtimeId = some w ∧ w.tree.WellFormed ∧ w.tree.root = some root ∧
    session.layout.shape = renderShape root

namespace SplitState

variable [VteParser P] [Vt100Parser G] [UuidText]

variable (P G) in
/-- Splits in the window, and what the actor and the daemon make of them. -/
def system (workspaceId : String) (runtimeId : Uuid) :
    System (SplitState P G) (SplitStep P G) where
  init := Attached workspaceId runtimeId
  next := next

omit [VteParser P] [Vt100Parser G] [UuidText] in
/-- The condition on a step: a split of the workspace targets no pane whose own id
is outstanding and finds room in the command channel, a request for the runtime
is made with write access and its shell starts, and an answer for the workspace
finds room in the event channel. -/
def isUndisturbed (workspaceId : String) (runtimeId : Uuid) (s : SplitState P G) :
    SplitStep P G → Bool
  | .split terminalUuid _ _ view =>
      ((s.window.unzoomed terminalUuid view).splitSource terminalUuid).all fun session =>
        session.uuid ≠ workspaceId ||
          (terminalUuid ∉ s.outstanding workspaceId && s.actor.commands.accepts)
  | .handle _ spawned =>
      match s.requests with
      | ⟨_, .splitPane r _ _ _ _⟩ :: _ =>
          r ≠ runtimeId ||
            (spawned.isOk &&
              (s.workspaces.lookup runtimeId).any (fun w => w.clientHasWriteAccess s.clientId))
      | _ => true
  | .receive => (s.actor.phase.splitIn workspaceId).isNone || s.actor.events.accepts
  | _ => true

end SplitState

end System

section Actor

/-- Whether the event leaves the state of the window alone. -/
def ActorEvent.isNotice : ActorEvent → Bool
  | workspaceConnectionChanged _ _ => true
  | workspaceMessage _ _ => true
  | workspaceError _ _ _ _ => true
  | _ => false

theorem createdIn_of_isNotice {event : ActorEvent}
    (h : event.isNotice = true)
    (workspaceId : String) :
    event.createdIn workspaceId = none := by
  cases event with
  | paneCreated w layoutTerminalUuid runtimeId runtimePaneId => cases h
  | _ => rfl

theorem filterMap_createdIn_of_isNotice {notices : List ActorEvent}
    (h : ∀ event ∈ notices, event.isNotice = true)
    (workspaceId : String) :
    notices.filterMap (ActorEvent.createdIn workspaceId) = [] := by
  rw [List.filterMap_eq_nil_iff]
  exact fun event hevent => createdIn_of_isNotice (h event hevent) workspaceId

namespace EndpointActor

variable {a b c : EndpointActor}

/-- The actor only told the window something. -/
structure Tells (a b : EndpointActor) : Prop where
  link : b.link = a.link
  endpoint : b.endpoint = a.endpoint
  commands : b.commands = a.commands
  events : ∃ notices, b.events.items = a.events.items ++ notices ∧
    ∀ event ∈ notices, event.isNotice = true

theorem Tells.refl (a : EndpointActor) : a.Tells a :=
  ⟨rfl, rfl, rfl, [], by simp, by simp⟩

theorem Tells.trans
    (h : a.Tells b)
    (h' : b.Tells c) :
    a.Tells c := by
  obtain ⟨notices, hevents, hnotices⟩ := h.events
  obtain ⟨notices', hevents', hnotices'⟩ := h'.events
  refine ⟨h'.link.trans h.link, h'.endpoint.trans h.endpoint, h'.commands.trans h.commands,
    notices ++ notices', by rw [hevents', hevents, List.append_assoc], ?_⟩
  intro event hevent
  rcases List.mem_append.mp hevent with hold | hnew
  · exact hnotices event hold
  · exact hnotices' event hnew

/-- Sending an event adds it to the channel if there is room. -/
theorem emit_events (a : EndpointActor) (event : ActorEvent) :
    (a.emit event).events = (a.events.trySend event).2 := by
  unfold emit
  split
  · rename_i events hres
    rw [hres]
    rfl
  · rename_i hne
    rcases a.events.trySend_cases event with ⟨_, hsent, _⟩ | ⟨_, hfull⟩ | ⟨_, hclosed⟩
    · exact (hne _ (Prod.ext hsent rfl)).elim
    · rw [hfull]
      rfl
    · rw [hclosed]
      rfl

theorem items_trySend {α : Type} (m : Mailbox α) (x : α) :
    (m.trySend x).2.items = m.items ∨ (m.trySend x).2.items = m.items ++ [x] := by
  rcases m.trySend_cases x with ⟨_, _, hitems, _⟩ | ⟨_, hfull⟩ | ⟨_, hclosed⟩
  · exact Or.inr hitems
  · exact Or.inl (by rw [hfull])
  · exact Or.inl (by rw [hclosed])

theorem tells_emit (a : EndpointActor) {event : ActorEvent}
    (h : event.isNotice = true) :
    a.Tells (a.emit event) := by
  obtain ⟨events, heq, _⟩ := a.emit_fields event
  refine ⟨a.link_emit event, by rw [heq], by rw [heq], ?_⟩
  rw [emit_events]
  rcases items_trySend a.events event with hsame | hadded
  · exact ⟨[], by rw [hsame, List.append_nil], by simp⟩
  · exact ⟨[event], hadded, by simpa using h⟩

theorem tells_emitStatus (a : EndpointActor) (workspaceId : String)
    (status : ConnectionStatus) :
    a.Tells (a.emitStatus workspaceId status) :=
  a.tells_emit rfl

theorem tells_toIdle (a : EndpointActor) : a.Tells a.toIdle :=
  ⟨rfl, rfl, rfl, [], by simp [toIdle], by simp⟩

/-- An error that is not the transport's is only reported. -/
theorem tells_handleCommandError (a : EndpointActor) (workspaceId : String)
    (operation : ManagerOperation) {error : DaemonError}
    (h : (classifyConnectionProblem error).isTransient = false) :
    a.Tells (a.handleCommandError workspaceId operation error) := by
  simp only [handleCommandError, h, Bool.false_eq_true, if_false]
  split
  · exact a.tells_emitStatus _ _
  · exact (a.tells_emit rfl).trans (tells_emitStatus _ _ _)

/-- An error that the daemon answers with is not the transport's. -/
theorem failure_ok_isTransient (payload : ServerPayload) :
    (classifyConnectionProblem (failure (.ok payload))).isTransient = false := by
  cases htransient : (classifyConnectionProblem (failure (.ok payload))).isTransient with
  | false => rfl
  | true =>
      rcases isTransient_classify htransient with hdisconnected | ⟨message, hio⟩
      · cases payload <;> cases hdisconnected
      · cases payload <;> cases hio

/-- A standing connection is used. -/
theorem withConnection_of_link
    (h : a.link ≠ .none)
    (workspaceId : String)
    (operation : ManagerOperation)
    (outcome : Except DaemonError Unit)
    (next : EndpointActor → EndpointActor) :
    a.withConnection workspaceId operation outcome next = next a := by
  simp [withConnection, ensureConnected, h]

/-- A write that went through changes the phase only. -/
theorem wrote_fields (a : EndpointActor) (after : AfterSend) :
    (a.wrote after).link = a.link ∧ (a.wrote after).endpoint = a.endpoint ∧
      (a.wrote after).commands = a.commands ∧ (a.wrote after).events = a.events := by
  cases after <;> exact ⟨rfl, rfl, rfl, rfl⟩

/-- Passing an event on, with the news that the connection stands. -/
theorem passOn_fields (a : EndpointActor) (event : ActorEvent) (workspaceId : String) :
    let b := ((a.emit event).emitStatus workspaceId .connected).toIdle
    b.link = a.link ∧ b.endpoint = a.endpoint ∧ b.commands = a.commands ∧
      ∃ notices, b.events.items = (a.events.trySend event).2.items ++ notices ∧
        ∀ e ∈ notices, e.isNotice = true := by
  intro b
  have htells : (a.emit event).Tells b := (tells_emitStatus _ workspaceId .connected).trans
    (tells_toIdle _)
  obtain ⟨events, heq, _⟩ := a.emit_fields event
  obtain ⟨notices, hnotices, hall⟩ := htells.events
  rw [emit_events] at hnotices
  refine ⟨?_, ?_, ?_, notices, hnotices, hall⟩
  · rw [htells.link, a.link_emit event]
  · rw [htells.endpoint, heq]
  · rw [htells.commands, heq]

variable [UuidText]

/-- The answer to a split acknowledges a pane, or it is reported. -/
theorem finish_splitPane_cases (a : EndpointActor) (payload : ServerPayload)
    (workspaceId layoutTerminalUuid runtimeId : String) :
    let b := a.finish (.ok payload) (.splitPane workspaceId layoutTerminalUuid runtimeId)
    (∃ runtimePaneId, b = ((a.emit (.paneCreated workspaceId layoutTerminalUuid runtimeId
        runtimePaneId)).emitStatus workspaceId .connected).toIdle) ∨
      (a.Tells b ∧ ∃ paused, b.phase = .idle paused) := by
  intro b
  have hother := (a.tells_handleCommandError workspaceId .createPane
    (failure_ok_isTransient payload)).trans (tells_toIdle _)
  cases payload with
  | paneSplit _ _ newPaneId _ _ _ => exact Or.inl ⟨_, rfl⟩
  | _ => exact Or.inr ⟨hother, _, rfl⟩

/-- An unreadable id is reported, and the actor is back in its main loop. -/
theorem withUuid_cases (a : EndpointActor) (workspaceId : String)
    (operation : ManagerOperation) (value : String) (next : Uuid → EndpointActor) :
    (∃ id, UuidText.parseStr value = .ok id ∧
        a.withUuid workspaceId operation value next = next id) ∨
      ((∀ id, UuidText.parseStr value ≠ .ok id) ∧
        a.Tells (a.withUuid workspaceId operation value next) ∧
        ∃ paused, (a.withUuid workspaceId operation value next).phase = .idle paused) := by
  simp only [withUuid]
  cases hparse : UuidText.parseStr value with
  | ok id => exact Or.inl ⟨id, rfl, rfl⟩
  | error text =>
      exact Or.inr ⟨fun id => by simp, (a.tells_emit rfl).trans (tells_toIdle _), _, rfl⟩

end EndpointActor

end Actor

section Invariant

variable [UuidText]

/-- A message that names the runtime names it for the workspace, and one for
another workspace names another runtime. -/
def Belongs (workspaceId : String) (runtimeId : Uuid) (w r : String) : Prop :=
  (w = workspaceId → r = uuidToString runtimeId) ∧
    (w ≠ workspaceId → UuidText.parseStr r ≠ .ok runtimeId)

/-- The commands that the window sends here. -/
inductive CommandRouted (workspaceId : String) (runtimeId : Uuid) : EndpointCommand → Prop
  | split {w r : String} (target layoutTerminalUuid : String) (axis : PaneSplitAxis)
      (ratio : F32) (spec : PaneSpec)
      (hbelongs : Belongs workspaceId runtimeId w r) :
      CommandRouted workspaceId runtimeId (.splitPane w r target layoutTerminalUuid axis ratio spec)
  | input (w r paneId : String) (data : Bytes) :
      CommandRouted workspaceId runtimeId (.sendInput w r paneId data)

/-- The events that the actor sends here. -/
inductive EventRouted (workspaceId : String) (runtimeId : Uuid) : ActorEvent → Prop
  | created {w r : String} (layoutTerminalUuid runtimePaneId : String)
      (hbelongs : Belongs workspaceId runtimeId w r) :
      EventRouted workspaceId runtimeId (.paneCreated w layoutTerminalUuid r runtimePaneId)
  | notice {event : ActorEvent}
      (hnotice : event.isNotice = true) :
      EventRouted workspaceId runtimeId event

/-- The window shows the workspace, attached to the runtime through the endpoint,
and no other workspace is attached to it. -/
structure Hosts (workspaceId : String) (runtimeId : Uuid) (s : WindowState)
    (endpoint : RuntimeEndpoint) (session : WorkspaceState) : Prop where
  distinct : (s.workspaces.map (fun session => session.uuid)).Nodup
  found : s.findWorkspace workspaceId = some session
  runtime : session.runtime = ⟨true, endpoint, some (uuidToString runtimeId)⟩
  others : ∀ other ∈ s.workspaces, other.uuid ≠ workspaceId →
    ∀ r, other.runtime.runtimeId = some r → UuidText.parseStr r ≠ .ok runtimeId

/-- The edit that a split request stands for, if it is the workspace's. -/
def editOf (workspaceId w layoutTerminalUuid : String) (target : Uuid) (axis : PaneSplitAxis) :
    List (ProvisionalEdit String SplitOrientation) :=
  if w = workspaceId then
    [⟨uuidToString target, layoutTerminalUuid, orientationFromAxis axis⟩]
  else
    []

/-- Where the split is that the actor is busy with, and what is on the wire: at
most one request that is answered, and input.  Indexed by the answers and the
edits of the workspace that this holds. -/
inductive Flight (workspaceId : String) (runtimeId : Uuid) :
    Phase → List ClientEnvelope → List ServerEnvelope → List (String × String) →
      List (ProvisionalEdit String SplitOrientation) → Prop
  | idle {requests : List ClientEnvelope} (paused : Bool)
      (hinput : ∀ env ∈ requests, env.command.isInput = true) :
      Flight workspaceId runtimeId (.idle paused) requests [] [] []
  | input {via : Link} {env : ClientEnvelope} {w : String} {operation : ManagerOperation}
      {requests : List ClientEnvelope}
      (henv : env.command.isInput = true)
      (hinput : ∀ env ∈ requests, env.command.isInput = true) :
      Flight workspaceId runtimeId (.sending via env (.report w operation)) requests [] [] []
  | sending {via : Link} {id : RequestId} {w r layoutTerminalUuid : String} {runtime target : Uuid}
      {axis : PaneSplitAxis} {ratio : F32} {spec : PaneSpec} {requests : List ClientEnvelope}
      (hbelongs : Belongs workspaceId runtimeId w r)
      (hruntime : w = workspaceId ↔ runtime = runtimeId)
      (hinput : ∀ env ∈ requests, env.command.isInput = true) :
      Flight workspaceId runtimeId
        (.sending via ⟨id.value, .splitPane runtime target axis ratio spec⟩
          (.await id false (.splitPane w layoutTerminalUuid r)))
        requests [] [] (editOf workspaceId w layoutTerminalUuid target axis)
  | asked {id : RequestId} {w r layoutTerminalUuid : String} {runtime target : Uuid}
      {axis : PaneSplitAxis} {ratio : F32} {spec : PaneSpec} {requests : List ClientEnvelope}
      (hbelongs : Belongs workspaceId runtimeId w r)
      (hruntime : w = workspaceId ↔ runtime = runtimeId)
      (hinput : ∀ env ∈ requests, env.command.isInput = true) :
      Flight workspaceId runtimeId (.receiving id false (.splitPane w layoutTerminalUuid r))
        (requests ++ [⟨id.value, .splitPane runtime target axis ratio spec⟩]) [] []
        (editOf workspaceId w layoutTerminalUuid target axis)
  | answered {id : RequestId} {w r layoutTerminalUuid : String} {payload : ServerPayload}
      {answers : List (String × String)} {requests : List ClientEnvelope}
      (hbelongs : Belongs workspaceId runtimeId w r)
      (hanswer : w = workspaceId → ∃ target paneId axis ratio revision,
        payload = .paneSplit runtimeId target paneId axis ratio revision ∧
          answers = [(layoutTerminalUuid, uuidToString paneId)])
      (hother : w ≠ workspaceId → answers = [])
      (hinput : ∀ env ∈ requests, env.command.isInput = true) :
      Flight workspaceId runtimeId (.receiving id false (.splitPane w layoutTerminalUuid r))
        requests [⟨id.value, payload⟩] answers []

/-- The invariant of the runs that meet the condition. -/
structure InStep {P : Type u} {G : Type v} (workspaceId : String) (runtimeId : Uuid)
    (s : SplitState P G) (session : WorkspaceState) (root : PaneTree)
    (answers : List (String × String))
    (pending : List (ProvisionalEdit String SplitOrientation)) : Prop where
  link : s.actor.link = .split
  commands : ∀ command ∈ s.actor.commands.items, CommandRouted workspaceId runtimeId command
  events : ∀ event ∈ s.actor.events.items, EventRouted workspaceId runtimeId event
  hosts : Hosts workspaceId runtimeId s.window s.actor.endpoint session
  tree : (s.workspaces.lookup runtimeId).bind (fun w => w.tree.root) = some root
  flight : Flight workspaceId runtimeId s.actor.phase s.requests s.responses answers pending
  reconciling : Reconciling LayoutShape.edits session.layout.shape (renderShape root)
    (s.actor.events.items.filterMap (ActorEvent.createdIn workspaceId) ++ answers)
    (pending ++ s.actor.commands.items.filterMap (EndpointCommand.splitIn workspaceId))

/-- The workspace and the daemon's tree are in step. -/
def SplitState.StaysInStep {P : Type u} {G : Type v} (workspaceId : String) (runtimeId : Uuid)
    (s : SplitState P G) : Prop :=
  ∃ session root answers pending, InStep workspaceId runtimeId s session root answers pending

end Invariant

section Windows

variable [UuidText]
variable {workspaceId : String} {runtimeId : Uuid} {s : WindowState} {endpoint : RuntimeEndpoint}
variable {session : WorkspaceState}

namespace Hosts

theorem uuid_eq
    (h : Hosts workspaceId runtimeId s endpoint session) :
    session.uuid = workspaceId :=
  WindowState.findWorkspace_uuid h.found

/-- The workspace of this id is the one shown. -/
theorem eq_of_mem {w : WorkspaceState}
    (h : Hosts workspaceId runtimeId s endpoint session)
    (hw : w ∈ s.workspaces)
    (huuid : w.uuid = workspaceId) :
    w = session := by
  have hfound := WindowState.findWorkspace_of_mem h.distinct hw
  rw [huuid, h.found] at hfound
  exact (Option.some.inj hfound).symm

/-- Whatever a workspace's runtime is, its requests name it as they should. -/
theorem belongs {w : WorkspaceState} {r : String}
    (h : Hosts workspaceId runtimeId s endpoint session)
    (hw : w ∈ s.workspaces)
    (hr : w.runtime.runtimeId = some r) :
    Belongs workspaceId runtimeId w.uuid r := by
  refine ⟨?_, fun hne => h.others w hw hne r hr⟩
  intro huuid
  have heq := h.eq_of_mem hw huuid
  subst heq
  rw [h.runtime] at hr
  exact (Option.some.inj hr).symm

/-- The workspace changes, but not its id and its runtime. -/
theorem update_self {new : WorkspaceState}
    (h : Hosts workspaceId runtimeId s endpoint session)
    (huuid : new.uuid = session.uuid)
    (hruntime : new.runtime = session.runtime) :
    Hosts workspaceId runtimeId (s.updateWorkspace new) endpoint new := by
  have hid : new.uuid = workspaceId := huuid.trans h.uuid_eq
  refine ⟨?_, ?_, hruntime.trans h.runtime, ?_⟩
  · rw [WindowState.updateWorkspace, WindowState.map_uuid_replaceFirst rfl]
    exact h.distinct
  · subst hid
    exact WindowState.findWorkspace_updateWorkspace h.found
  · intro other hother hne r hr
    rcases WindowState.mem_replaceFirst hother with rfl | hold
    · exact absurd hid hne
    · exact h.others other hold hne r hr

/-- Another workspace changes. -/
theorem update_other {new : WorkspaceState}
    (h : Hosts workspaceId runtimeId s endpoint session)
    (hne : new.uuid ≠ workspaceId)
    (hruntime : ∀ r, new.runtime.runtimeId = some r → UuidText.parseStr r ≠ .ok runtimeId) :
    Hosts workspaceId runtimeId (s.updateWorkspace new) endpoint session := by
  refine ⟨?_, ?_, h.runtime, ?_⟩
  · rw [WindowState.updateWorkspace, WindowState.map_uuid_replaceFirst rfl]
    exact h.distinct
  · rw [WindowState.findWorkspace, WindowState.updateWorkspace,
      WindowState.find_replaceFirst_ne rfl hne]
    exact h.found
  · intro other hother hother' r hr
    rcases WindowState.mem_replaceFirst hother with rfl | hold
    · exact hruntime r hr
    · exact h.others other hold hother' r hr

/-- A workspace changes what it shows zoomed. -/
theorem update_zoom {old : WorkspaceState} {id : String}
    (h : Hosts workspaceId runtimeId s endpoint session)
    (hold : s.findWorkspace id = some old)
    (zoomed : Option String) :
    ∃ session', Hosts workspaceId runtimeId
        (s.updateWorkspace { old with zoomedTerminalUuid := zoomed }) endpoint session' ∧
      session'.layout = session.layout := by
  have hmem : old ∈ s.workspaces := List.mem_of_find?_eq_some hold
  by_cases huuid : old.uuid = workspaceId
  · have heq := h.eq_of_mem hmem huuid
    subst heq
    exact ⟨_, h.update_self rfl rfl, rfl⟩
  · exact ⟨session, h.update_other huuid (fun r hr => h.others old hmem huuid r hr), rfl⟩

/-- Ending a zoom leaves the layouts alone. -/
theorem unzoomed
    (h : Hosts workspaceId runtimeId s endpoint session)
    (terminalUuid : String)
    (view : SplitView) :
    ∃ session', Hosts workspaceId runtimeId (s.unzoomed terminalUuid view) endpoint session' ∧
      session'.layout = session.layout := by
  simp only [WindowState.unzoomed]
  split
  · simp only [WindowState.togglePaneZoomFor]
    split
    · exact ⟨session, h, rfl⟩
    · rename_i old hold
      obtain ⟨id, _, hfound⟩ := Option.bind_eq_some_iff.mp hold
      split
      · exact h.update_zoom hfound none
      · split
        · exact ⟨session, h, rfl⟩
        · split
          · exact ⟨session, h, rfl⟩
          · exact h.update_zoom hfound _
  · exact ⟨session, h, rfl⟩

/-- The reverse index plays no part. -/
theorem rebuild
    (h : Hosts workspaceId runtimeId s endpoint session) :
    Hosts workspaceId runtimeId s.rebuildPaneReverseIndex endpoint session :=
  ⟨h.distinct, h.found, h.runtime, h.others⟩

end Hosts

end Windows

section Frames

variable {P : Type u} {G : Type v}
variable [UuidText]
variable {workspaceId : String} {runtimeId : Uuid} {s : SplitState P G}
variable {session : WorkspaceState} {root : PaneTree} {answers : List (String × String)}
variable {pending : List (ProvisionalEdit String SplitOrientation)}

namespace EndpointActor

omit [UuidText] in
/-- What the actor tells the window acknowledges no pane. -/
theorem Tells.created {a b : EndpointActor}
    (h : a.Tells b)
    (workspaceId : String) :
    b.events.items.filterMap (ActorEvent.createdIn workspaceId) =
      a.events.items.filterMap (ActorEvent.createdIn workspaceId) := by
  obtain ⟨notices, hevents, hnotices⟩ := h.events
  rw [hevents, List.filterMap_append, filterMap_createdIn_of_isNotice hnotices, List.append_nil]

theorem Tells.routed {a b : EndpointActor}
    (h : a.Tells b)
    (hrouted : ∀ event ∈ a.events.items, EventRouted workspaceId runtimeId event) :
    ∀ event ∈ b.events.items, EventRouted workspaceId runtimeId event := by
  obtain ⟨notices, hevents, hnotices⟩ := h.events
  intro event hevent
  rw [hevents] at hevent
  rcases List.mem_append.mp hevent with hold | hnew
  · exact hrouted event hold
  · exact .notice (hnotices event hnew)

end EndpointActor

/-- The split that the actor is busy with is outstanding. -/
theorem Flight.splitIn {phase : Phase} {requests : List ClientEnvelope}
    {responses : List ServerEnvelope}
    (h : Flight workspaceId runtimeId phase requests responses answers pending) :
    (phase.splitIn workspaceId).toList =
      answers.map Prod.fst ++ pending.map ProvisionalEdit.added := by
  cases h with
  | idle paused hinput => rfl
  | input henv hinput => rfl
  | sending hbelongs hruntime hinput =>
      simp only [Phase.splitIn, editOf]
      split <;> rfl
  | asked hbelongs hruntime hinput =>
      simp only [Phase.splitIn, editOf]
      split <;> rfl
  | @answered id w r layoutTerminalUuid payload answers requests hbelongs hanswer hother hinput =>
      by_cases hw : w = workspaceId
      · obtain ⟨_, _, _, _, _, _, rfl⟩ := hanswer hw
        simp [Phase.splitIn, hw]
      · simp [Phase.splitIn, hw, hother hw]

/-- In the main loop nothing is under way. -/
theorem Flight.of_idle {paused : Bool} {requests : List ClientEnvelope}
    {responses : List ServerEnvelope}
    (h : Flight workspaceId runtimeId (.idle paused) requests responses answers pending) :
    (∀ env ∈ requests, env.command.isInput = true) ∧ responses = [] ∧ answers = [] ∧
      pending = [] := by
  cases h with
  | idle paused hinput => exact ⟨hinput, rfl, rfl, rfl⟩

/-- What was written is on the wire. -/
theorem Flight.wrote {via : Link} {env : ClientEnvelope} {after : AfterSend}
    {requests : List ClientEnvelope} {responses : List ServerEnvelope}
    (h : Flight workspaceId runtimeId (.sending via env after) requests responses answers pending)
    (a : EndpointActor) :
    Flight workspaceId runtimeId (a.wrote after).phase (requests ++ [env]) responses answers
      pending := by
  cases h with
  | input henv hinput =>
      refine .idle _ ?_
      intro e he
      rcases List.mem_append.mp he with hold | hnew
      · exact hinput e hold
      · rw [List.mem_singleton.mp hnew]
        exact henv
  | sending hbelongs hruntime hinput => exact .asked hbelongs hruntime hinput

/-- The daemon takes input off the wire, or the request that is answered. -/
theorem Flight.handled {phase : Phase} {request : ClientEnvelope} {rest : List ClientEnvelope}
    {responses : List ServerEnvelope}
    (h : Flight workspaceId runtimeId phase (request :: rest) responses answers pending) :
    (request.command.isInput = true ∧
        Flight workspaceId runtimeId phase rest responses answers pending) ∨
      ∃ (id : RequestId) (w r layoutTerminalUuid : String) (runtime target : Uuid)
        (axis : PaneSplitAxis) (ratio : F32) (spec : PaneSpec),
        phase = .receiving id false (.splitPane w layoutTerminalUuid r) ∧
        request = ⟨id.value, .splitPane runtime target axis ratio spec⟩ ∧
        responses = [] ∧ answers = [] ∧
        pending = editOf workspaceId w layoutTerminalUuid target axis ∧
        Belongs workspaceId runtimeId w r ∧ (w = workspaceId ↔ runtime = runtimeId) ∧
        ∀ env ∈ rest, env.command.isInput = true := by
  generalize hrequests : request :: rest = requests at h
  cases h with
  | idle paused hinput =>
      subst hrequests
      exact Or.inl ⟨hinput _ List.mem_cons_self,
        .idle paused (fun e he => hinput e (List.mem_cons_of_mem _ he))⟩
  | input henv hinput =>
      subst hrequests
      exact Or.inl ⟨hinput _ List.mem_cons_self,
        .input henv (fun e he => hinput e (List.mem_cons_of_mem _ he))⟩
  | sending hbelongs hruntime hinput =>
      subst hrequests
      exact Or.inl ⟨hinput _ List.mem_cons_self,
        .sending hbelongs hruntime (fun e he => hinput e (List.mem_cons_of_mem _ he))⟩
  | @asked id w r layoutTerminalUuid runtime target axis ratio spec before hbelongs hruntime
      hinput =>
      cases before with
      | nil =>
          simp only [List.nil_append, List.cons.injEq] at hrequests
          obtain ⟨rfl, rfl⟩ := hrequests
          exact Or.inr ⟨id, w, r, layoutTerminalUuid, runtime, target, axis, ratio, spec, rfl, rfl,
            rfl, rfl, rfl, hbelongs, hruntime, by simp⟩
      | cons first before =>
          simp only [List.cons_append, List.cons.injEq] at hrequests
          obtain ⟨rfl, rfl⟩ := hrequests
          exact Or.inl ⟨hinput _ List.mem_cons_self,
            .asked hbelongs hruntime (fun e he => hinput e (List.mem_cons_of_mem _ he))⟩
  | answered hbelongs hanswer hother hinput =>
      subst hrequests
      exact Or.inl ⟨hinput _ List.mem_cons_self,
        .answered hbelongs hanswer hother (fun e he => hinput e (List.mem_cons_of_mem _ he))⟩

/-- A response is awaited, and it is the only one. -/
theorem Flight.received {phase : Phase} {requests : List ClientEnvelope}
    {response : ServerEnvelope} {rest : List ServerEnvelope}
    (h : Flight workspaceId runtimeId phase requests (response :: rest) answers pending) :
    ∃ (id : RequestId) (w r layoutTerminalUuid : String),
      phase = .receiving id false (.splitPane w layoutTerminalUuid r) ∧
      response.requestId = id.value ∧ rest = [] ∧ pending = [] ∧
      Belongs workspaceId runtimeId w r ∧
      (w = workspaceId → ∃ target paneId axis ratio revision,
        response.payload = .paneSplit runtimeId target paneId axis ratio revision ∧
          answers = [(layoutTerminalUuid, uuidToString paneId)]) ∧
      (w ≠ workspaceId → answers = []) ∧ ∀ env ∈ requests, env.command.isInput = true := by
  cases h with
  | @answered id w r layoutTerminalUuid payload answers requests hbelongs hanswer hother hinput =>
      exact ⟨id, w, r, layoutTerminalUuid, rfl, rfl, rfl, rfl, hbelongs, hanswer, hother, hinput⟩

/-- What is on its way to the daemon for the runtime is the workspace's edits. -/
theorem Flight.splitTargets {phase : Phase} {requests : List ClientEnvelope}
    {responses : List ServerEnvelope}
    (h : Flight workspaceId runtimeId phase requests responses answers pending) :
    (requests ++ phase.envelope?.toList).filterMap
        (fun env => env.command.splitTarget runtimeId) =
      pending.map ProvisionalEdit.target := by
  have hnone : ∀ {requests : List ClientEnvelope},
      (∀ env ∈ requests, env.command.isInput = true) →
        requests.filterMap (fun env => env.command.splitTarget runtimeId) = [] := by
    intro requests hinput
    rw [List.filterMap_eq_nil_iff]
    intro env henv
    have hin := hinput env henv
    cases hcommand : env.command with
    | splitPane _ _ _ _ _ => rw [hcommand] at hin; cases hin
    | _ => rfl
  cases h with
  | idle paused hinput => simpa [Phase.envelope?] using hnone hinput
  | @input via env w operation _ henv hinput =>
      rw [List.filterMap_append, hnone hinput, List.nil_append]
      exact hnone (by simpa [Phase.envelope?] using henv)
  | sending hbelongs hruntime hinput =>
      rw [List.filterMap_append, hnone hinput, List.nil_append]
      simp only [Phase.envelope?, ClientCommand.splitTarget, editOf, hruntime, Option.toList_some,
        List.filterMap_cons, List.filterMap_nil]
      split <;> simp_all
  | asked hbelongs hruntime hinput =>
      simp only [Phase.envelope?, Option.toList_none, List.append_nil]
      rw [List.filterMap_append, hnone hinput, List.nil_append]
      simp only [ClientCommand.splitTarget, editOf, hruntime, List.filterMap_cons,
        List.filterMap_nil]
      split <;> simp_all
  | answered hbelongs hanswer hother hinput => simpa [Phase.envelope?] using hnone hinput

namespace InStep

theorem outstanding_eq
    (h : InStep workspaceId runtimeId s session root answers pending) :
    s.outstanding workspaceId = NamedEdits.provisional
      (s.actor.events.items.filterMap (ActorEvent.createdIn workspaceId) ++ answers)
      (pending ++ s.actor.commands.items.filterMap (EndpointCommand.splitIn workspaceId)) := by
  simp [SplitState.outstanding, NamedEdits.provisional, h.flight.splitIn]

theorem layoutShape_eq
    (h : InStep workspaceId runtimeId s session root answers pending) :
    s.layoutShape workspaceId = some session.layout.shape := by
  rw [SplitState.layoutShape, h.hosts.found, Option.map_some]

theorem treeShape_eq
    (h : InStep workspaceId runtimeId s session root answers pending) :
    s.treeShape runtimeId = some (renderShape root) := by
  have htree := h.tree
  rw [SplitState.treeShape]
  cases hlookup : s.workspaces.lookup runtimeId with
  | none =>
      rw [hlookup] at htree
      cases htree
  | some w =>
      rw [hlookup, Option.bind_some] at htree
      rw [Option.bind_some, htree, Option.map_some]

/-- With no split outstanding the shapes agree. -/
theorem reconciled
    (h : InStep workspaceId runtimeId s session root answers pending) :
    s.Reconciled workspaceId runtimeId := by
  intro hnone
  rw [h.outstanding_eq, NamedEdits.provisional, List.append_eq_nil_iff, List.map_eq_nil_iff,
    List.map_eq_nil_iff] at hnone
  have hreconciling := h.reconciling
  rw [hnone.1, hnone.2] at hreconciling
  rw [h.layoutShape_eq, h.treeShape_eq, hreconciling.settled]

theorem noPhantom
    (h : InStep workspaceId runtimeId s session root answers pending) :
    s.NoPhantom workspaceId runtimeId := by
  intro uuid huuid
  rw [SplitState.layoutUuids, h.layoutShape_eq] at huuid
  rw [SplitState.treeUuids, h.treeShape_eq, h.outstanding_eq]
  exact h.reconciling.accounted uuid huuid

theorem targetsPanes
    (h : InStep workspaceId runtimeId s session root answers pending) :
    s.TargetsPanes workspaceId runtimeId := by
  intro target htarget
  rw [SplitState.splitTargets, h.flight.splitTargets, ← List.map_append] at htarget
  obtain ⟨e, he, rfl⟩ := List.mem_map.mp htarget
  rw [SplitState.treeUuids, h.treeShape_eq]
  exact h.reconciling.targets e he

/-- The actor moves messages on and leaves the rest alone. -/
theorem moved {b : EndpointActor} {answers' : List (String × String)}
    {pending' : List (ProvisionalEdit String SplitOrientation)}
    (requests : List ClientEnvelope)
    (responses : List ServerEnvelope)
    (h : InStep workspaceId runtimeId s session root answers pending)
    (hlink : b.link = s.actor.link)
    (hendpoint : b.endpoint = s.actor.endpoint)
    (hcommands : ∀ command ∈ b.commands.items, CommandRouted workspaceId runtimeId command)
    (hevents : ∀ event ∈ b.events.items, EventRouted workspaceId runtimeId event)
    (hflight : Flight workspaceId runtimeId b.phase requests responses answers' pending')
    (hanswers : b.events.items.filterMap (ActorEvent.createdIn workspaceId) ++ answers' =
      s.actor.events.items.filterMap (ActorEvent.createdIn workspaceId) ++ answers)
    (hpending : pending' ++ b.commands.items.filterMap (EndpointCommand.splitIn workspaceId) =
      pending ++ s.actor.commands.items.filterMap (EndpointCommand.splitIn workspaceId)) :
    InStep workspaceId runtimeId
      { s with actor := b, requests := requests, responses := responses } session root answers'
      pending' where
  link := hlink.trans h.link
  commands := hcommands
  events := hevents
  hosts := by
    rw [hendpoint]
    exact h.hosts
  tree := h.tree
  flight := hflight
  reconciling := by
    rw [hanswers, hpending]
    exact h.reconciling

/-- The daemon's tree is the workspace's. -/
theorem lookup
    (h : InStep workspaceId runtimeId s session root answers pending) :
    ∃ w, s.workspaces.lookup runtimeId = some w ∧ w.tree.root = some root :=
  Option.bind_eq_some_iff.mp h.tree

theorem nodup_leaves
    (h : InStep workspaceId runtimeId s session root answers pending) :
    root.leaves.Nodup := by
  have hnodup : (renderShape root).ids.Nodup := h.reconciling.nodup_base
  rw [ids_renderShape] at hnodup
  exact hnodup.of_map _

theorem nodup_layout
    (h : InStep workspaceId runtimeId s session root answers pending) :
    session.layout.terminalUuids.Nodup := by
  have hnodup : session.layout.shape.ids.Nodup := h.reconciling.nodup_replica
  rwa [LayoutNode.ids_shape] at hnodup

/-- A minted id is no terminal of the layout and no pane of the tree. -/
theorem minted {id : Uuid}
    (h : InStep workspaceId runtimeId s session root answers pending)
    (hminted : s.isMinted id = true) :
    uuidToString id ∉ session.layout.shape.ids ∧ uuidToString id ∉ (renderShape root).ids := by
  simp only [SplitState.isMinted, Bool.and_eq_true, List.all_eq_true, Bool.not_eq_true'] at hminted
  obtain ⟨hlayouts, htrees⟩ := hminted
  obtain ⟨w, hlookup, hroot⟩ := h.lookup
  constructor
  · have hout := hlayouts session (List.mem_of_find?_eq_some h.hosts.found)
    rw [LayoutNode.ids_shape]
    intro hin
    rw [LayoutNode.containsTerminal_iff.mpr hin] at hout
    cases hout
  · have hmem : w ∈ s.workspaces.values :=
      List.mem_map.mpr ⟨_, (HashMap.lookup_eq_some_iff_mem _ _ _).mp hlookup, rfl⟩
    have hout := htrees w hmem
    have hiff : uuidToString id ∈ (renderShape root).ids ↔ PaneId.fromUuid id ∈ root.leaves :=
      @mem_ids_renderShape (.fromUuid id) root
    rw [hiff]
    intro hin
    rw [WorkspaceTree.contains_iff.mpr (by rwa [WorkspaceTree.panes_of_root hroot])] at hout
    cases hout

end InStep

end Frames

section Steps

variable {P : Type u} {G : Type v}
variable [UuidText]
variable {workspaceId : String} {runtimeId : Uuid} {s s' : SplitState P G}
variable {session : WorkspaceState} {root : PaneTree} {answers : List (String × String)}
variable {pending : List (ProvisionalEdit String SplitOrientation)}

namespace InStep

/-- A command joins the queue; it is no split of the workspace. -/
theorem queued {command : EndpointCommand}
    (h : InStep workspaceId runtimeId s session root answers pending)
    (hrouted : CommandRouted workspaceId runtimeId command)
    (hother : command.splitIn workspaceId = none) :
    InStep workspaceId runtimeId { s with actor := s.actor.trySelf command } session root answers
      pending := by
  rcases EndpointActor.items_trySend s.actor.commands command with hsame | hadded
  · refine h.moved (b := s.actor.trySelf command) _ _ rfl rfl ?_ h.events h.flight rfl ?_
    · simp only [EndpointActor.trySelf, hsame]
      exact h.commands
    · simp only [EndpointActor.trySelf, hsame]
  · refine h.moved (b := s.actor.trySelf command) _ _ rfl rfl ?_ h.events h.flight rfl ?_
    · intro c hc
      simp only [EndpointActor.trySelf, hadded] at hc
      rcases List.mem_append.mp hc with hold | hnew
      · exact h.commands c hold
      · rw [List.mem_singleton.mp hnew]
        exact hrouted
    · simp [EndpointActor.trySelf, hadded, hother]

/-- A split of another workspace's terminal. -/
theorem splitOther {window : WindowState} {w session' : WorkspaceState}
    {terminalUuid newUuid : String} {orientation : SplitOrientation} {cwd : Option String}
    {view : SplitView}
    (h : InStep workspaceId runtimeId s session root answers pending)
    (hhosts : Hosts workspaceId runtimeId window s.actor.endpoint session')
    (hlayout : session'.layout = session.layout)
    (hne : w.uuid ≠ workspaceId)
    (hruntime : ∀ r, w.runtime.runtimeId = some r → UuidText.parseStr r ≠ .ok runtimeId) :
    InStep workspaceId runtimeId
      { s with
        window := window
        actor := s.actor.deliver (w.splitRequest terminalUuid newUuid orientation cwd view) }
      session' root answers pending := by
  have hwindow : InStep workspaceId runtimeId { s with window := window } session' root answers
      pending :=
    ⟨h.link, h.commands, h.events, hhosts, h.tree, h.flight, by rw [hlayout]; exact h.reconciling⟩
  cases hrequest : w.splitRequest terminalUuid newUuid orientation cwd view with
  | none => exact hwindow
  | some request =>
      obtain ⟨endpoint, command⟩ := request
      simp only [EndpointActor.deliver]
      split
      · simp only [WorkspaceState.splitRequest, Option.ite_none_right_eq_some] at hrequest
        obtain ⟨_, hrequest⟩ := hrequest
        obtain ⟨r, hr, hcommand⟩ := Option.map_eq_some_iff.mp hrequest
        simp only [Prod.mk.injEq] at hcommand
        obtain ⟨_, rfl⟩ := hcommand
        refine hwindow.queued (.split _ _ _ _ _ ⟨?_, ?_⟩) ?_
        · exact fun heq => absurd heq hne
        · exact fun _ => hruntime r hr
        · simp [EndpointCommand.splitIn, hne]
      · exact hwindow

/-- A split of the workspace's terminal: the layout and the queue gain it. -/
theorem splitSelf {window : WindowState} {session' : WorkspaceState}
    {terminalUuid newUuid : String} {orientation : SplitOrientation} {cwd : Option String}
    {view : SplitView}
    (h : InStep workspaceId runtimeId s session root answers pending)
    (hhosts : Hosts workspaceId runtimeId window s.actor.endpoint session')
    (hterminal : terminalUuid ∈ session.layout.terminalUuids)
    (hknown : terminalUuid ∉ s.outstanding workspaceId)
    (hroom : s.actor.commands.accepts = true)
    (hfresh : newUuid ∉ session.layout.shape.ids ∧ newUuid ∉ (renderShape root).ids)
    (hshape : session'.layout.shape =
      session.layout.shape.splitAt terminalUuid newUuid orientation) :
    InStep workspaceId runtimeId
      { s with
        window := window
        actor := s.actor.deliver
          (session'.splitRequest terminalUuid newUuid orientation cwd view) }
      session' root answers pending := by
  have hrequest : session'.splitRequest terminalUuid newUuid orientation cwd view =
      some (s.actor.endpoint, .splitPane workspaceId (uuidToString runtimeId) terminalUuid newUuid
        (orientationToAxis orientation) F32.half
        ⟨cwd, view.darkBackground, view.cols, view.rows, false⟩) := by
    simp [WorkspaceState.splitRequest, WorkspaceState.usesManagedRuntime, hhosts.runtime,
      hhosts.uuid_eq]
  rw [hrequest]
  simp only [EndpointActor.deliver, if_true]
  obtain ⟨_, hitems⟩ := Mailbox.trySend_of_accepts hroom (.splitPane workspaceId
    (uuidToString runtimeId) terminalUuid newUuid (orientationToAxis orientation) F32.half
    ⟨cwd, view.darkBackground, view.cols, view.rows, false⟩)
  refine ⟨h.link, ?_, h.events, hhosts, h.tree, h.flight, ?_⟩
  · intro command hcommand
    simp only [EndpointActor.trySelf, hitems] at hcommand
    rcases List.mem_append.mp hcommand with hold | hnew
    · exact h.commands command hold
    · rw [List.mem_singleton.mp hnew]
      exact .split _ _ _ _ _ ⟨fun _ => rfl, fun hne => absurd rfl hne⟩
  · rw [h.outstanding_eq] at hknown
    have hissued := h.reconciling.issue (by rwa [← LayoutNode.ids_shape] at hterminal) hknown
      hfresh.1 hfresh.2 orientation
    have hqueue : pending ++ (s.actor.trySelf (.splitPane workspaceId (uuidToString runtimeId)
        terminalUuid newUuid (orientationToAxis orientation) F32.half
        ⟨cwd, view.darkBackground, view.cols, view.rows, false⟩)).commands.items.filterMap
          (EndpointCommand.splitIn workspaceId) =
        pending ++ s.actor.commands.items.filterMap (EndpointCommand.splitIn workspaceId) ++
          [⟨terminalUuid, newUuid, orientation⟩] := by
      simp [EndpointActor.trySelf, hitems, EndpointCommand.splitIn]
    rw [hshape, hqueue]
    exact hissued

end InStep

namespace InStep

/-- **A split that meets the condition.** -/
theorem split {terminalUuid : String} {orientation : SplitOrientation} {newId : Uuid}
    {view : SplitView}
    (h : InStep workspaceId runtimeId s session root answers pending)
    (hminted : s.isMinted newId = true)
    (hok : s.isUndisturbed workspaceId runtimeId
      (.split terminalUuid orientation newId view) = true) :
    let out := s.window.splitTerminal terminalUuid (uuidToString newId) orientation view
    ({ s with window := out.1, actor := s.actor.deliver out.2 } :
      SplitState P G).StaysInStep workspaceId runtimeId := by
  obtain ⟨session₁, hhosts, hlayout⟩ := h.hosts.unzoomed terminalUuid view
  have hfresh := h.minted hminted
  simp only [WindowState.splitTerminal]
  split
  · refine ⟨session₁, root, answers, pending, h.link, h.commands, h.events, hhosts, h.tree,
      h.flight, ?_⟩
    rw [hlayout]
    exact h.reconciling
  · rename_i session₂ request hsome
    obtain ⟨w, hsource, hsplit⟩ := Option.bind_eq_some_iff.mp hsome
    obtain ⟨huuid, hruntime, newTerminalUuid, cwd, hrequest⟩ := splitTerminal_identity hsplit
    have hmem : w ∈ (s.window.unzoomed terminalUuid view).workspaces :=
      List.mem_of_find?_eq_some (Option.filter_eq_some_iff.mp hsource).1
    by_cases hw : w.uuid = workspaceId
    · have heq : w = session₁ := hhosts.eq_of_mem hmem hw
      subst heq
      simp only [SplitState.isUndisturbed, hsource, Option.all_some, hw, ne_eq, not_true_eq_false,
        decide_false, Bool.false_or, Bool.and_eq_true, decide_eq_true_eq] at hok
      obtain ⟨hterminal, hshape, cwd, rfl⟩ :=
        splitTerminal_eq_some (by rw [hlayout]; exact h.nodup_layout) hsplit
      rw [hlayout] at hterminal hshape
      exact ⟨session₂, root, answers, pending, h.splitSelf (hhosts.update_self huuid hruntime)
        hterminal hok.1 hok.2 hfresh hshape⟩
    · have hne : session₂.uuid ≠ workspaceId := huuid ▸ hw
      have hothers : ∀ r, session₂.runtime.runtimeId = some r →
          UuidText.parseStr r ≠ .ok runtimeId := by
        rw [hruntime]
        exact hhosts.others w hmem hw
      subst hrequest
      exact ⟨session₁, root, answers, pending,
        h.splitOther (hhosts.update_other hne hothers) hlayout hne hothers⟩

/-- Input joins the queue. -/
theorem input {command : EndpointCommand} {actor : EndpointActor}
    (h : InStep workspaceId runtimeId s session root answers pending)
    (hinput : command.isInput = true)
    (hnext : s.actor.next (.command command) = some actor) :
    ({ s with actor := actor } : SplitState P G).StaysInStep workspaceId runtimeId := by
  simp only [EndpointActor.next, Option.some.injEq] at hnext
  subst hnext
  cases command with
  | sendInput w r paneId data =>
      exact ⟨session, root, answers, pending, h.queued (.input w r paneId data) rfl⟩
  | _ => cases hinput

/-- The command that was taken needs no more than a report. -/
theorem reported {command : EndpointCommand} {commands : Mailbox EndpointCommand}
    {b : EndpointActor} {paused : Bool}
    (h : InStep workspaceId runtimeId s session root [] [])
    (hitems : s.actor.commands.items = command :: commands.items)
    (hother : command.splitIn workspaceId = none)
    (htells : ({ s.actor with commands := commands } : EndpointActor).Tells b)
    (hphase : b.phase = .idle paused)
    (hinput : ∀ env ∈ s.requests, env.command.isInput = true)
    (hresponses : s.responses = []) :
    InStep workspaceId runtimeId { s with actor := b } session root [] [] := by
  have hcommands : b.commands = commands := htells.commands
  refine h.moved s.requests s.responses htells.link htells.endpoint
    ?_ (htells.routed h.events) ?_ ?_ ?_
  · intro c hc
    rw [hcommands] at hc
    exact h.commands c (hitems ▸ List.mem_cons_of_mem _ hc)
  · rw [hphase, hresponses]
    exact .idle paused hinput
  · rw [htells.created workspaceId]
  · rw [hcommands, hitems, List.filterMap_cons_none hother]

/-- The actor takes input. -/
theorem takeInput {w r paneId : String} {data : Bytes} {commands : Mailbox EndpointCommand}
    (h : InStep workspaceId runtimeId s session root [] [])
    (hitems : s.actor.commands.items = .sendInput w r paneId data :: commands.items)
    (hinput : ∀ env ∈ s.requests, env.command.isInput = true)
    (hresponses : s.responses = []) :
    InStep workspaceId runtimeId
      { s with
        actor := ({ s.actor with commands := commands } : EndpointActor).handleCommand (.ok ())
          (.sendInput w r paneId data) }
      session root [] [] := by
  generalize ha : ({ s.actor with commands := commands } : EndpointActor) = a
  have hlink : a.link = .split := ha ▸ h.link
  simp only [EndpointActor.handleCommand]
  rcases a.withUuid_cases w .sendInput r (fun runtimeUuid =>
    a.withUuid w .sendInput paneId fun paneUuid =>
      a.post (.terminalInput runtimeUuid paneUuid data) w .sendInput) with
    ⟨runtimeUuid, _, heq⟩ | ⟨_, htells, paused, hphase⟩
  · rw [heq]
    rcases a.withUuid_cases w .sendInput paneId (fun paneUuid =>
      a.post (.terminalInput runtimeUuid paneUuid data) w .sendInput) with
      ⟨paneUuid, _, heq⟩ | ⟨_, htells, paused, hphase⟩
    · have hpost : a.post (.terminalInput runtimeUuid paneUuid data) w .sendInput =
          a.sendMessage 0 (.terminalInput runtimeUuid paneUuid data) (.report w .sendInput) :=
        if_pos hlink
      rw [heq, hpost]
      subst ha
      refine h.moved s.requests s.responses rfl rfl ?_ h.events ?_
        rfl ?_
      · intro c hc
        exact h.commands c (hitems ▸ List.mem_cons_of_mem _ hc)
      · rw [hresponses]
        exact .input rfl hinput
      · rw [hitems, List.filterMap_cons_none rfl]
        rfl
    · subst ha
      exact h.reported hitems rfl htells hphase hinput hresponses
  · subst ha
    exact h.reported hitems rfl htells hphase hinput hresponses

/-- The actor takes a split. -/
theorem takeSplit {w r target layoutTerminalUuid : String} {axis : PaneSplitAxis} {ratio : F32}
    {spec : PaneSpec} {commands : Mailbox EndpointCommand}
    (h : InStep workspaceId runtimeId s session root [] [])
    (hitems : s.actor.commands.items =
      .splitPane w r target layoutTerminalUuid axis ratio spec :: commands.items)
    (hinput : ∀ env ∈ s.requests, env.command.isInput = true)
    (hresponses : s.responses = []) :
    ({ s with
        actor := ({ s.actor with commands := commands } : EndpointActor).handleCommand (.ok ())
          (.splitPane w r target layoutTerminalUuid axis ratio spec) } :
      SplitState P G).StaysInStep workspaceId runtimeId := by
  have hbelongs : Belongs workspaceId runtimeId w r := by
    cases h.commands _ (hitems ▸ List.mem_cons_self) with
    | split _ _ _ _ _ hbelongs => exact hbelongs
  -- The target of a split of the workspace is a pane of the tree.
  have hpane : w = workspaceId → ∃ pane : PaneId, target = uuidToString pane.uuid := by
    intro hw
    have hmem : (⟨target, layoutTerminalUuid, orientationFromAxis axis⟩ :
        ProvisionalEdit String SplitOrientation) ∈
        [] ++ s.actor.commands.items.filterMap (EndpointCommand.splitIn workspaceId) := by
      simp [hitems, EndpointCommand.splitIn, hw]
    have hin : target ∈ (renderShape root).ids := h.reconciling.targets _ hmem
    rw [ids_renderShape] at hin
    obtain ⟨pane, _, heq⟩ := List.mem_map.mp hin
    exact ⟨pane, heq.symm⟩
  generalize ha : ({ s.actor with commands := commands } : EndpointActor) = a
  have hlink : a.link = .split := ha ▸ h.link
  rw [EndpointActor.handleCommand, EndpointActor.withConnection_of_link (by simp [hlink])]
  rcases a.withUuid_cases w .createPane r (fun runtimeUuid =>
    a.withUuid w .createPane target fun targetUuid =>
      a.sendAndRead (.splitPane runtimeUuid targetUuid axis ratio spec) false
        (.splitPane w layoutTerminalUuid r)) with
    ⟨runtimeUuid, hruntime, heq⟩ | ⟨hunread, htells, paused, hphase⟩
  · rw [heq]
    have hsame : w = workspaceId ↔ runtimeUuid = runtimeId := by
      constructor
      · intro hw
        rw [hbelongs.1 hw, UuidText.parseStr_uuidToString] at hruntime
        exact (Except.ok.inj hruntime).symm
      · rintro rfl
        by_contra hw
        exact hbelongs.2 hw hruntime
    rcases a.withUuid_cases w .createPane target (fun targetUuid =>
      a.sendAndRead (.splitPane runtimeUuid targetUuid axis ratio spec) false
        (.splitPane w layoutTerminalUuid r)) with
      ⟨targetUuid, htarget, heq⟩ | ⟨hunread, htells, paused, hphase⟩
    · rw [heq]
      have hedit : EndpointCommand.splitIn workspaceId
          (.splitPane w r target layoutTerminalUuid axis ratio spec) =
            (editOf workspaceId w layoutTerminalUuid targetUuid axis).head? := by
        by_cases hw : w = workspaceId
        · obtain ⟨pane, rfl⟩ := hpane hw
          rw [UuidText.parseStr_uuidToString] at htarget
          simp [EndpointCommand.splitIn, editOf, hw, Except.ok.inj htarget]
        · simp [EndpointCommand.splitIn, editOf, hw]
      subst ha
      refine ⟨session, root, [], editOf workspaceId w layoutTerminalUuid targetUuid axis,
        h.moved s.requests s.responses rfl rfl ?_ h.events ?_ rfl ?_⟩
      · intro c hc
        exact h.commands c (hitems ▸ List.mem_cons_of_mem _ hc)
      · rw [hresponses]
        exact .sending hbelongs hsame hinput
      · rw [hitems, List.filterMap_cons, hedit]
        by_cases hw : w = workspaceId
        · simp [editOf, hw, EndpointActor.sendAndRead]
        · simp [editOf, hw, EndpointActor.sendAndRead]
    · have hw : w ≠ workspaceId := by
        intro hw
        obtain ⟨pane, rfl⟩ := hpane hw
        exact hunread _ (UuidText.parseStr_uuidToString pane.uuid)
      subst ha
      exact ⟨session, root, [], [], h.reported hitems (by simp [EndpointCommand.splitIn, hw])
        htells hphase hinput hresponses⟩
  · have hw : w ≠ workspaceId := by
      intro hw
      rw [hbelongs.1 hw] at hunread
      exact hunread _ (UuidText.parseStr_uuidToString runtimeId)
    subst ha
    exact ⟨session, root, [], [], h.reported hitems (by simp [EndpointCommand.splitIn, hw])
      htells hphase hinput hresponses⟩

/-- The actor takes the oldest command. -/
theorem take {actor : EndpointActor}
    (h : InStep workspaceId runtimeId s session root answers pending)
    (hnext : s.actor.next (.take (.ok ())) = some actor) :
    ({ s with actor := actor } : SplitState P G).StaysInStep workspaceId runtimeId := by
  simp only [EndpointActor.next] at hnext
  split at hnext
  · rename_i paused command commands hphase hreceive
    simp only [Option.some.injEq] at hnext
    obtain ⟨hitems, _, _⟩ := Mailbox.receive_eq_some hreceive
    obtain ⟨hinput, hresponses, rfl, rfl⟩ := (hphase ▸ h.flight).of_idle
    have hrouted := h.commands command (hitems ▸ List.mem_cons_self)
    subst hnext
    cases hrouted with
    | split target layoutTerminalUuid axis ratio spec hbelongs =>
        exact h.takeSplit hitems hinput hresponses
    | input w r paneId data =>
        exact ⟨session, root, [], [], h.takeInput hitems hinput hresponses⟩
  · cases hnext

/-- The write that the actor is in goes through. -/
theorem written {env : ClientEnvelope} {via : Link} {after : AfterSend} {actor : EndpointActor}
    (h : InStep workspaceId runtimeId s session root answers pending)
    (hphase : s.actor.phase = .sending via env after)
    (hnext : s.actor.next .written = some actor) :
    InStep workspaceId runtimeId { s with actor := actor, requests := s.requests ++ [env] } session
      root answers pending := by
  simp only [EndpointActor.next, hphase, Option.ite_none_right_eq_some, Option.some.injEq] at hnext
  obtain ⟨_, rfl⟩ := hnext
  obtain ⟨hlink, hendpoint, hcommands, hevents⟩ :=
    EndpointActor.wrote_fields (s.actor.record (.sent env)) after
  refine h.moved _ s.responses hlink hendpoint ?_ ?_
    ((hphase ▸ h.flight).wrote (s.actor.record (.sent env))) ?_ ?_
  · rw [hcommands]
    exact h.commands
  · rw [hevents]
    exact h.events
  · rw [hevents]
    rfl
  · rw [hcommands]
    rfl

/-- The daemon carries out the split of the workspace that was asked. -/
theorem accepted {id : RequestId} {w r layoutTerminalUuid : String} {target paneId : Uuid}
    {axis : PaneSplitAxis} {rest : List ClientEnvelope} {tree : Workspace P G} {root' : PaneTree}
    {a : SplitAxis} {ratio : F32} {revision : Nat}
    (h : InStep workspaceId runtimeId s session root []
      (editOf workspaceId w layoutTerminalUuid target axis))
    (hw : w = workspaceId)
    (hphase : s.actor.phase = .receiving id false (.splitPane w layoutTerminalUuid r))
    (hbelongs : Belongs workspaceId runtimeId w r)
    (hinput : ∀ env ∈ rest, env.command.isInput = true)
    (hminted : s.isMinted paneId = true)
    (hroot : tree.tree.root = some root')
    (hshape : renderShape root' = (renderShape root).splitAt (uuidToString target)
      (uuidToString paneId) (orientationFromAxis axis)) :
    InStep workspaceId runtimeId
      { s with
        requests := rest
        responses := [⟨id.value, .paneSplit runtimeId target paneId a ratio revision⟩]
        workspaces := s.workspaces.insert runtimeId tree }
      session root' [(layoutTerminalUuid, uuidToString paneId)] [] := by
  obtain ⟨hlayout, htree⟩ := h.minted hminted
  have hreconciling := h.reconciling
  have hedit : editOf workspaceId w layoutTerminalUuid target axis =
      [⟨uuidToString target, layoutTerminalUuid, orientationFromAxis axis⟩] := if_pos hw
  rw [hedit, List.append_nil] at hreconciling
  refine ⟨h.link, h.commands, h.events, h.hosts, ?_, ?_, ?_⟩
  · simpa using hroot
  · show Flight workspaceId runtimeId s.actor.phase rest _ _ _
    rw [hphase]
    exact .answered hbelongs (fun _ => ⟨target, paneId, a, ratio, revision, rfl, rfl⟩)
      (fun hne => absurd hw hne) hinput
  · rw [hshape]
    exact hreconciling.answer htree hlayout

/-- The daemon answers a split of another workspace. -/
theorem answeredOther {id : RequestId} {w r layoutTerminalUuid : String} {target : Uuid}
    {axis : PaneSplitAxis} {rest : List ClientEnvelope} {payload : ServerPayload}
    {workspaces : HashMap Uuid (Workspace P G)}
    (h : InStep workspaceId runtimeId s session root []
      (editOf workspaceId w layoutTerminalUuid target axis))
    (hw : w ≠ workspaceId)
    (hphase : s.actor.phase = .receiving id false (.splitPane w layoutTerminalUuid r))
    (hbelongs : Belongs workspaceId runtimeId w r)
    (hinput : ∀ env ∈ rest, env.command.isInput = true)
    (hlookup : workspaces.lookup runtimeId = s.workspaces.lookup runtimeId) :
    InStep workspaceId runtimeId
      { s with requests := rest, responses := [⟨id.value, payload⟩], workspaces := workspaces }
      session root [] [] := by
  have hreconciling := h.reconciling
  have hedit : editOf workspaceId w layoutTerminalUuid target axis = [] := if_neg hw
  rw [hedit] at hreconciling
  refine ⟨h.link, h.commands, h.events, h.hosts, ?_, ?_, hreconciling⟩
  · simp only [hlookup]
    exact h.tree
  · show Flight workspaceId runtimeId s.actor.phase rest _ _ _
    rw [hphase]
    exact .answered hbelongs (fun heq => absurd heq hw) (fun _ => rfl) hinput

/-- The daemon takes input off the wire. -/
theorem handleInput {request : ClientEnvelope} {rest : List ClientEnvelope}
    (h : InStep workspaceId runtimeId s session root answers pending)
    (hrequests : s.requests = request :: rest)
    (hcommand : ∀ runtime target axis ratio spec,
      request.command ≠ .splitPane runtime target axis ratio spec) :
    InStep workspaceId runtimeId { s with requests := rest } session root answers pending := by
  rcases (hrequests ▸ h.flight).handled with ⟨_, hflight⟩ |
    ⟨_, _, _, _, runtime, target, axis, ratio, spec, _, rfl, _⟩
  · exact ⟨h.link, h.commands, h.events, h.hosts, h.tree, hflight, h.reconciling⟩
  · exact absurd rfl (hcommand runtime target axis ratio spec)

/-- The window takes an event that leaves its state alone. -/
theorem noticed {event : ActorEvent} {events : Mailbox ActorEvent}
    (h : InStep workspaceId runtimeId s session root answers pending)
    (hitems : s.actor.events.items = event :: events.items)
    (hother : event.createdIn workspaceId = none) :
    InStep workspaceId runtimeId { s with actor := { s.actor with events := events } } session root
      answers pending := by
  refine h.moved (b := { s.actor with events := events }) _ _ rfl rfl h.commands ?_ h.flight ?_ rfl
  · exact fun e he => h.events e (hitems ▸ List.mem_cons_of_mem _ he)
  · rw [hitems, List.filterMap_cons_none hother]

/-- The window takes the answer about a terminal of another workspace. -/
theorem createdOther {w r layoutTerminalUuid runtimePaneId : String}
    {events : Mailbox ActorEvent}
    (h : InStep workspaceId runtimeId s session root answers pending)
    (hitems : s.actor.events.items =
      .paneCreated w layoutTerminalUuid r runtimePaneId :: events.items)
    (hbelongs : Belongs workspaceId runtimeId w r)
    (hw : w ≠ workspaceId) :
    InStep workspaceId runtimeId
      { s with
        window := (s.window.applyManagedPaneCreated w layoutTerminalUuid r runtimePaneId).2
        actor := { s.actor with events := events } }
      session root answers pending := by
  have htaken := h.noticed hitems (by simp [ActorEvent.createdIn, hw])
  simp only [WindowState.applyManagedPaneCreated]
  split
  · exact htaken
  · rename_i old hold
    have huuid := WindowState.findWorkspace_uuid hold
    split
    · exact htaken
    · refine ⟨htaken.link, htaken.commands, htaken.events, ?_, htaken.tree, htaken.flight,
        htaken.reconciling⟩
      refine (h.hosts.update_other ?_ ?_).rebuild
      · split
        · rw [(replaceTerminalUuid_identity _ _ _).1]
          exact huuid ▸ hw
        · exact huuid ▸ hw
      · intro r' hr'
        have heq : r = r' := by
          split at hr'
          · rw [(replaceTerminalUuid_identity _ _ _).2] at hr'
            exact Option.some.inj hr'
          · exact Option.some.inj hr'
        exact heq ▸ hbelongs.2 hw

/-- The window takes the answer about a terminal of the workspace. -/
theorem createdSelf {r layoutTerminalUuid runtimePaneId : String} {events : Mailbox ActorEvent}
    (h : InStep workspaceId runtimeId s session root answers pending)
    (hitems : s.actor.events.items =
      .paneCreated workspaceId layoutTerminalUuid r runtimePaneId :: events.items)
    (hbelongs : Belongs workspaceId runtimeId workspaceId r) :
    ({ s with
        window :=
          (s.window.applyManagedPaneCreated workspaceId layoutTerminalUuid r runtimePaneId).2
        actor := { s.actor with events := events } } :
      SplitState P G).StaysInStep workspaceId runtimeId := by
  have hanswers : s.actor.events.items.filterMap (ActorEvent.createdIn workspaceId) ++ answers =
      (layoutTerminalUuid, runtimePaneId) ::
        (events.items.filterMap (ActorEvent.createdIn workspaceId) ++ answers) := by
    simp [hitems, ActorEvent.createdIn]
  have hreconciling := h.reconciling
  rw [hanswers] at hreconciling
  have hprovisional : layoutTerminalUuid ∈ session.layout.shape.ids :=
    (hreconciling.provisional_fresh layoutTerminalUuid List.mem_cons_self).1
  have hassigned : runtimePaneId ∉ session.layout.shape.ids :=
    (hreconciling.assigned _ List.mem_cons_self).2
  have hne : layoutTerminalUuid ≠ runtimePaneId := fun heq => hassigned (heq ▸ hprovisional)
  rw [LayoutNode.ids_shape] at hprovisional
  have hcontains := LayoutNode.containsTerminal_iff.mpr hprovisional
  simp only [WindowState.applyManagedPaneCreated, h.hosts.found, hcontains, Bool.not_true,
    Bool.false_eq_true, if_false, ne_eq, hne, not_false_eq_true, if_true]
  generalize hbound : ({ session with
    runtime := { session.runtime with runtimeId := some r } } : WorkspaceState) = bound
  have hlayout : bound.layout = session.layout := by rw [← hbound]
  have hruntime : bound.runtime = session.runtime := by
    rw [← hbound, h.hosts.runtime, hbelongs.1 rfl]
  have huuid : bound.uuid = session.uuid := by rw [← hbound]
  obtain ⟨huuid', hruntime'⟩ := replaceTerminalUuid_identity bound layoutTerminalUuid runtimePaneId
  have hshape := replaceTerminalUuid_layout (hlayout ▸ h.nodup_layout) hne (hlayout ▸ hprovisional)
  rw [hlayout] at hshape
  refine ⟨_, root, answers, pending, h.link, h.commands, ?_,
    (h.hosts.update_self (huuid'.trans huuid) (hruntime'.trans hruntime)).rebuild, h.tree,
    h.flight, ?_⟩
  · exact fun e he => h.events e (hitems ▸ List.mem_cons_of_mem _ he)
  · rw [hshape]
    exact hreconciling.acknowledge

/-- **The window takes the oldest event.** -/
theorem reconcile {event : ActorEvent} {events : Mailbox ActorEvent} {window : WindowState}
    (h : InStep workspaceId runtimeId s session root answers pending)
    (hreceive : s.actor.events.receive = some (event, events))
    (hwindow : s.window.reconcileSplitEvent event = some window) :
    ({ s with window := window, actor := { s.actor with events := events } } :
      SplitState P G).StaysInStep workspaceId runtimeId := by
  obtain ⟨hitems, _, _⟩ := Mailbox.receive_eq_some hreceive
  cases h.events event (hitems ▸ List.mem_cons_self) with
  | @created w r layoutTerminalUuid runtimePaneId hbelongs =>
      simp only [WindowState.reconcileSplitEvent, Option.some.injEq] at hwindow
      subst hwindow
      by_cases hw : w = workspaceId
      · subst hw
        exact h.createdSelf hitems hbelongs
      · exact ⟨session, root, answers, pending, h.createdOther hitems hbelongs hw⟩
  | notice hnotice =>
      have hsame : window = s.window := by
        cases event with
        | workspaceConnectionChanged w status => exact (Option.some.inj hwindow).symm
        | workspaceMessage endpoint message => exact (Option.some.inj hwindow).symm
        | workspaceError w operation problem detail => exact (Option.some.inj hwindow).symm
        | _ => cases hnotice
      subst hsame
      exact ⟨session, root, answers, pending,
        h.noticed hitems (createdIn_of_isNotice hnotice workspaceId)⟩

/-- Another message takes a place in the event channel. -/
theorem otherEvent {event : ActorEvent} {actor : EndpointActor}
    (h : InStep workspaceId runtimeId s session root answers pending)
    (hmessage : event.isMessage = true)
    (hnext : s.actor.next (.otherEvent event) = some actor) :
    InStep workspaceId runtimeId { s with actor := actor } session root answers pending := by
  simp only [EndpointActor.next, Option.some.injEq] at hnext
  subst hnext
  have hnotice : event.isNotice = true := by
    cases event with
    | workspaceMessage endpoint message => rfl
    | _ => cases hmessage
  have htells : s.actor.Tells { s.actor with events := (s.actor.events.trySend event).2 } := by
    refine ⟨rfl, rfl, rfl, ?_⟩
    rcases EndpointActor.items_trySend s.actor.events event with hsame | hadded
    · exact ⟨[], by simp [hsame], by simp⟩
    · exact ⟨[event], by simp [hadded], by simpa using hnotice⟩
  exact h.moved _ _ htells.link htells.endpoint h.commands (htells.routed h.events) h.flight
    (by rw [htells.created workspaceId]) rfl

/-- The actor is done with a request whose answer it passed on. -/
theorem answerRead {b : EndpointActor} {paused : Bool} {notices : List ActorEvent}
    (h : InStep workspaceId runtimeId s session root answers [])
    (hlink : b.link = s.actor.link)
    (hendpoint : b.endpoint = s.actor.endpoint)
    (hcommands : b.commands = s.actor.commands)
    (hphase : b.phase = .idle paused)
    (hevents : b.events.items = s.actor.events.items ++ notices)
    (hrouted : ∀ event ∈ notices, EventRouted workspaceId runtimeId event)
    (hanswers : notices.filterMap (ActorEvent.createdIn workspaceId) = answers)
    (hinput : ∀ env ∈ s.requests, env.command.isInput = true) :
    InStep workspaceId runtimeId { s with actor := b, responses := [] } session root [] [] := by
  refine h.moved s.requests _ hlink hendpoint ?_ ?_ ?_ ?_ ?_
  · rw [hcommands]
    exact h.commands
  · intro event hevent
    rw [hevents] at hevent
    rcases List.mem_append.mp hevent with hold | hnew
    · exact h.events event hold
    · exact hrouted event hnew
  · rw [hphase]
    exact .idle paused hinput
  · rw [hevents, List.filterMap_append, hanswers, List.append_nil]
  · rw [hcommands]

/-- **The actor reads a response under the condition.** -/
theorem receive {response : ServerEnvelope} {rest : List ServerEnvelope} {actor : EndpointActor}
    (h : InStep workspaceId runtimeId s session root answers pending)
    (hresponses : s.responses = response :: rest)
    (hnext : s.actor.next (.receive response) = some actor)
    (hok : s.isUndisturbed workspaceId runtimeId (.receive : SplitStep P G) = true) :
    InStep workspaceId runtimeId { s with actor := actor, responses := rest } session root []
      pending := by
  obtain ⟨id, w, r, layoutTerminalUuid, hphase, hid, rfl, rfl, hbelongs, hanswer, hother, hinput⟩ :=
    (hresponses ▸ h.flight).received
  simp only [EndpointActor.next, EndpointActor.receive, hphase, hid, if_true,
    Option.some.injEq] at hnext
  generalize ha : s.actor.record (.received response (s.actor.due response)) = a at hnext
  have hlink : a.link = s.actor.link := ha ▸ rfl
  have hendpoint : a.endpoint = s.actor.endpoint := ha ▸ rfl
  have hcommands : a.commands = s.actor.commands := ha ▸ rfl
  have hevents : a.events = s.actor.events := ha ▸ rfl
  subst hnext
  by_cases hw : w = workspaceId
  · obtain ⟨target, paneId, axis, ratio, revision, hpayload, hanswers⟩ := hanswer hw
    rw [hpayload]
    obtain ⟨hlink', hendpoint', hcommands', notices, hnotices, hall⟩ :=
      a.passOn_fields (.paneCreated w layoutTerminalUuid r (uuidToString paneId)) w
    have hroom : a.events.accepts = true := by
      rw [hevents]
      simpa [SplitState.isUndisturbed, hphase, Phase.splitIn, hw] using hok
    rw [(Mailbox.trySend_of_accepts hroom _).2, hevents, List.append_assoc] at hnotices
    refine h.answerRead (hlink'.trans hlink) (hendpoint'.trans hendpoint)
      (hcommands'.trans hcommands) rfl hnotices ?_ ?_ hinput
    · intro e he
      rcases List.mem_cons.mp he with rfl | hlater
      · exact .created _ _ hbelongs
      · exact .notice (hall e hlater)
    · simp [filterMap_createdIn_of_isNotice hall, hanswers, ActorEvent.createdIn, hw]
  · -- The answer is another workspace's, so it acknowledges no pane of this one.
    obtain rfl := hother hw
    rcases a.finish_splitPane_cases response.payload w layoutTerminalUuid r with
      ⟨paneId, heq⟩ | ⟨htells, paused, hidle⟩
    · rw [heq]
      obtain ⟨hlink', hendpoint', hcommands', notices, hnotices, hall⟩ :=
        a.passOn_fields (.paneCreated w layoutTerminalUuid r paneId) w
      have hnone := filterMap_createdIn_of_isNotice hall workspaceId
      rw [hevents] at hnotices
      rcases EndpointActor.items_trySend s.actor.events
        (.paneCreated w layoutTerminalUuid r paneId) with hsame | hadded
      · rw [hsame] at hnotices
        exact h.answerRead (hlink'.trans hlink) (hendpoint'.trans hendpoint)
          (hcommands'.trans hcommands) rfl hnotices (fun e he => .notice (hall e he)) hnone hinput
      · rw [hadded, List.append_assoc] at hnotices
        refine h.answerRead (hlink'.trans hlink) (hendpoint'.trans hendpoint)
          (hcommands'.trans hcommands) rfl hnotices ?_ ?_ hinput
        · intro e he
          rcases List.mem_cons.mp he with rfl | hlater
          · exact .created _ _ hbelongs
          · exact .notice (hall e hlater)
        · simp [hnone, ActorEvent.createdIn, hw]
    · obtain ⟨notices, hnotices, hall⟩ := htells.events
      rw [hevents] at hnotices
      refine h.answerRead (htells.link.trans hlink) (htells.endpoint.trans hendpoint)
        (htells.commands.trans hcommands) hidle hnotices (fun e he => .notice (hall e he))
        (filterMap_createdIn_of_isNotice hall workspaceId) hinput

end InStep

end Steps

section DaemonSteps

variable {P : Type u} {G : Type v}
variable [VteParser P] [Vt100Parser G] [UuidText]
variable {workspaceId : String} {runtimeId : Uuid} {s s' : SplitState P G}
variable {session : WorkspaceState} {root : PaneTree} {answers : List (String × String)}
variable {pending : List (ProvisionalEdit String SplitOrientation)}

namespace InStep

omit [UuidText] in
/-- A request for another runtime leaves the runtime's workspace alone. -/
theorem lookup_handleV3SplitPane_ne {workspaces : HashMap Uuid (Workspace P G)}
    {runtime : Uuid}
    (hne : runtime ≠ runtimeId)
    (clientId : Uuid)
    (env : HandlerEnv)
    (spawned : Except String Unit)
    (target : Uuid)
    (axis : PaneSplitAxis)
    (ratio : F32)
    (spec : PaneSpec) :
    (handleV3SplitPane workspaces clientId env spawned runtime target axis ratio
      spec).2.lookup runtimeId = workspaces.lookup runtimeId := by
  simp only [handleV3SplitPane]
  split
  · rfl
  · exact AList.lookup_insert_ne (Ne.symm hne)

/-- **The daemon handles a split that meets the condition.** -/
theorem handle {request : ClientEnvelope} {rest : List ClientEnvelope} {env : HandlerEnv}
    {spawned : Except String Unit} {runtime target : Uuid} {axis : PaneSplitAxis} {ratio : F32}
    {spec : PaneSpec}
    (h : InStep workspaceId runtimeId s session root answers pending)
    (hrequests : s.requests = request :: rest)
    (hcommand : request.command = .splitPane runtime target axis ratio spec)
    (hminted : s.isMinted env.paneId = true)
    (hok : s.isUndisturbed workspaceId runtimeId (.handle env spawned) = true) :
    let out := handleV3SplitPane s.workspaces s.clientId env spawned runtime target axis ratio spec
    ({ s with
        requests := rest
        responses := s.responses ++ [⟨request.requestId, out.1⟩]
        workspaces := out.2 } : SplitState P G).StaysInStep workspaceId runtimeId := by
  intro out
  rcases (hrequests ▸ h.flight).handled with ⟨hinput, _⟩ |
    ⟨id, w, r, layoutTerminalUuid, runtime', target', axis', ratio', spec', hphase, rfl, hresponses,
      rfl, rfl, hbelongs, hruntime, hinput⟩
  · rw [hcommand] at hinput
    cases hinput
  · simp only [ClientCommand.splitPane.injEq] at hcommand
    obtain ⟨rfl, rfl, rfl, rfl, rfl⟩ := hcommand
    rw [hresponses]
    by_cases hw : w = workspaceId
    · obtain rfl := hruntime.mp hw
      obtain ⟨tree, hlookup, hroot⟩ := h.lookup
      simp only [SplitState.isUndisturbed, hrequests, ne_eq, not_true_eq_false, decide_false,
        Bool.false_or, hlookup, Option.any_some, Bool.and_eq_true] at hok
      obtain ⟨hspawned, haccess⟩ := hok
      have hedit : editOf workspaceId w layoutTerminalUuid target' axis' =
          [⟨uuidToString target', layoutTerminalUuid, orientationFromAxis axis'⟩] := if_pos hw
      have htarget : PaneId.fromUuid target' ∈ root.leaves := by
        refine mem_ids_renderShape.mp (h.reconciling.targets
          ⟨uuidToString target', layoutTerminalUuid, orientationFromAxis axis'⟩ ?_)
        rw [hedit]
        exact List.mem_cons_self
      have hfresh : PaneId.fromUuid env.paneId ∉ root.leaves :=
        fun hin => (h.minted hminted).2 ((@mem_ids_renderShape (.fromUuid env.paneId) root).mpr hin)
      obtain ⟨tree', root', ratio'', revision, hout, hroot', hshape⟩ :=
        splitInWorkspace_of_accepted hroot h.nodup_leaves haccess htarget hfresh runtime' axis'
          ratio' spec'
      cases spawned with
      | error e => cases hspawned
      | ok started =>
          have hres : out = (.paneSplit runtime' target' env.paneId (protoAxisToSplit axis') ratio''
              revision, s.workspaces.insert runtime' tree') := by
            simp only [out, handleV3SplitPane, hlookup, hout]
          rw [hres]
          exact ⟨session, root', _, _, h.accepted hw hphase hbelongs hinput hminted hroot' hshape⟩
    · have hne : runtime' ≠ runtimeId := fun heq => hw (hruntime.mpr heq)
      exact ⟨session, root, [], [], h.answeredOther hw hphase hbelongs hinput
        (lookup_handleV3SplitPane_ne hne _ _ _ _ _ _ _)⟩

/-- The daemon's workspaces go on. -/
theorem background {runtime : Uuid} {op : WorkspaceOp P G}
    (h : InStep workspaceId runtimeId s session root answers pending)
    (hop : keepsArrangement op = true) :
    ({ s with workspaces := s.workspaces.modify runtime (fun w => w.apply op) } :
      SplitState P G).StaysInStep workspaceId runtimeId := by
  obtain ⟨tree, hlookup, hroot⟩ := h.lookup
  by_cases hr : runtime = runtimeId
  · subst hr
    have hshape := apply_renderShape hop tree
    rw [hroot, Option.map_some] at hshape
    obtain ⟨root', hroot', hrender⟩ := Option.map_eq_some_iff.mp hshape
    refine ⟨session, root', answers, pending, h.link, h.commands, h.events, h.hosts, ?_, h.flight,
      ?_⟩
    · simp [hlookup, hroot']
    · rw [hrender]
      exact h.reconciling
  · refine ⟨session, root, answers, pending, h.link, h.commands, h.events, h.hosts, ?_, h.flight,
      h.reconciling⟩
    rw [HashMap.lookup_modify_ne _ _ (Ne.symm hr)]
    exact h.tree

end InStep

end DaemonSteps

section Runs

variable {P : Type u} {G : Type v}
variable [VteParser P] [Vt100Parser G] [UuidText]
variable {workspaceId : String} {runtimeId : Uuid} {s s' : SplitState P G}

namespace SplitState

/-- **A step that meets the condition keeps the layout and the tree in step.** -/
theorem StaysInStep.next {step : SplitStep P G}
    (h : s.StaysInStep workspaceId runtimeId)
    (hok : s.isUndisturbed workspaceId runtimeId step = true)
    (hnext : s.next step = some s') :
    s'.StaysInStep workspaceId runtimeId := by
  obtain ⟨session, root, answers, pending, h⟩ := h
  cases step with
  | split terminalUuid orientation newId view =>
      simp only [SplitState.next, Option.ite_none_right_eq_some, Option.some.injEq] at hnext
      obtain ⟨hminted, rfl⟩ := hnext
      exact h.split hminted hok
  | input command =>
      simp only [SplitState.next, Option.ite_none_right_eq_some] at hnext
      obtain ⟨hinput, hnext⟩ := hnext
      obtain ⟨actor, hactor, rfl⟩ := Option.map_eq_some_iff.mp hnext
      exact h.input hinput hactor
  | take =>
      obtain ⟨actor, hactor, rfl⟩ := Option.map_eq_some_iff.mp hnext
      exact h.take hactor
  | written =>
      simp only [SplitState.next] at hnext
      split at hnext
      · rename_i via env after hphase
        obtain ⟨actor, hactor, rfl⟩ := Option.map_eq_some_iff.mp hnext
        exact ⟨_, _, _, _, h.written hphase hactor⟩
      · cases hnext
  | handle env spawned =>
      simp only [SplitState.next] at hnext
      split at hnext
      · cases hnext
      · rename_i request rest hrequests
        split at hnext
        · rename_i runtime target axis ratio spec hcommand
          simp only [Option.ite_none_right_eq_some, Option.some.injEq] at hnext
          obtain ⟨hminted, rfl⟩ := hnext
          exact h.handle hrequests hcommand hminted hok
        · rename_i hcommand
          simp only [Option.some.injEq] at hnext
          subst hnext
          exact ⟨_, _, _, _, h.handleInput hrequests hcommand⟩
  | receive =>
      simp only [SplitState.next] at hnext
      split at hnext
      · cases hnext
      · rename_i response rest hresponses
        obtain ⟨actor, hactor, rfl⟩ := Option.map_eq_some_iff.mp hnext
        exact ⟨_, _, _, _, h.receive hresponses hactor hok⟩
  | reconcile =>
      simp only [SplitState.next] at hnext
      split at hnext
      · cases hnext
      · rename_i event events hreceive
        obtain ⟨window, hwindow, hnext⟩ := Option.bind_eq_some_iff.mp hnext
        obtain ⟨actor, hactor, rfl⟩ := Option.map_eq_some_iff.mp hnext
        simp only [EndpointActor.next, hreceive, Option.map_some, Option.some.injEq] at hactor
        subst hactor
        exact h.reconcile hreceive hwindow
  | otherEvent event =>
      simp only [SplitState.next, Option.ite_none_right_eq_some] at hnext
      obtain ⟨hmessage, hnext⟩ := hnext
      obtain ⟨actor, hactor, rfl⟩ := Option.map_eq_some_iff.mp hnext
      exact ⟨_, _, _, _, h.otherEvent hmessage hactor⟩
  | background runtime op =>
      simp only [SplitState.next, Option.ite_none_right_eq_some, Option.some.injEq] at hnext
      obtain ⟨hop, rfl⟩ := hnext
      exact h.background hop

omit [VteParser P] [Vt100Parser G] in
/-- An attached workspace is in step. -/
theorem Attached.staysInStep
    (h : s.Attached workspaceId runtimeId) :
    s.StaysInStep workspaceId runtimeId := by
  obtain ⟨session, w, root, hfound, hruntime, hlookup, hwell, hroot, hshape⟩ := h.attached
  obtain ⟨paused, hphase⟩ := h.idle
  have hnodup : (renderShape root).ids.Nodup := by
    apply nodup_ids_renderShape
    rw [← WorkspaceTree.panes_of_root hroot]
    exact hwell.nodup
  refine ⟨session, root, [], [], h.link, ?_, ?_, ⟨h.distinct, hfound, hruntime, h.others⟩, ?_, ?_,
    ?_⟩
  · simp [h.commands]
  · simp [h.events]
  · rw [hlookup]
    exact hroot
  · rw [hphase, h.requests, h.responses]
    exact .idle paused (by simp)
  · rw [h.commands, h.events, hshape]
    exact Reconciling.start (E := LayoutShape.edits) hnodup

/-- **Runs that meet the condition keep the layout and the tree in step.** -/
theorem staysInStep_of_reachable
    (h : (system P G workspaceId runtimeId).ReachableUnder
      (fun s step => s.isUndisturbed workspaceId runtimeId step = true) s) :
    s.StaysInStep workspaceId runtimeId :=
  h.invariant (fun _ hinit => Attached.staysInStep hinit)
    (fun _ _ _ hstep hok hnext => StaysInStep.next hstep hok hnext)

end SplitState

/-- **Optimistic splits reconcile** in the runs that meet the condition. -/
theorem splits_reconcile
    (h : (SplitState.system P G workspaceId runtimeId).ReachableUnder
      (fun s step => s.isUndisturbed workspaceId runtimeId step = true) s) :
    s.Reconciled workspaceId runtimeId ∧ s.NoPhantom workspaceId runtimeId ∧
      s.TargetsPanes workspaceId runtimeId := by
  obtain ⟨session, root, answers, pending, hstep⟩ := SplitState.staysInStep_of_reachable h
  exact ⟨hstep.reconciled, hstep.noPhantom, hstep.targetsPanes⟩

end Runs

section SampleRuns

/-- A workspace of one pane, written by client nine. -/
def onePaneWorkspace : Workspace SampleParser SampleGrid :=
  let empty : Workspace SampleParser SampleGrid := Workspace.new 7 "work" 0
  { empty.insertClient 9 .writer with
    tree := ⟨some (.leaf (.fromUuid 1)), some (.fromUuid 1)⟩
    panes := (∅ : HashMap Uuid _).insert 1 (Pane.new 1 80 24) }

/-- The window that shows it. -/
def onePaneSession : WorkspaceState :=
  ⟨"w", "work", .terminal (uuidToString 1) none none none, some (uuidToString 1),
    ⟨true, .localHost, some (uuidToString 7)⟩, none, false⟩

def onePane : SplitState SampleParser SampleGrid :=
  ⟨⟨[onePaneSession], ∅⟩, { EndpointActor.new .localHost 10 with link := .split }, [], [], 9,
    (∅ : HashMap Uuid _).insert 7 onePaneWorkspace⟩

theorem onePane_attached : onePane.Attached "w" 7 := by
  refine ⟨rfl, ⟨false, rfl⟩, rfl, rfl, rfl, rfl, List.nodup_singleton _, ?_,
    onePaneSession, onePaneWorkspace, .leaf (.fromUuid 1), by decide, rfl, rfl, ?_, rfl, ?_⟩
  · intro session hsession hne
    rw [List.mem_singleton.mp hsession] at hne
    exact absurd rfl hne
  · exact (WorkspaceTree.validate_eq_ok_iff _).mp (by decide +kernel)
  · decide +kernel

def splitAt (target newId : Uuid) : SplitStep SampleParser SampleGrid :=
  .split (uuidToString target) .horizontal newId ⟨some "w", none, none, true, 80, 24⟩

def daemonEnv (paneId : Uuid) : HandlerEnv :=
  ⟨paneId, none, ⟨fun _ => none, fun _ => none⟩⟩

/-- The pane is split, and the answer is reconciled. -/
def acceptedSplit : List (SplitStep SampleParser SampleGrid) :=
  [splitAt 1 2, .take, .written, .handle (daemonEnv 3) (.ok ()), .receive, .reconcile, .reconcile]

/-- The theorem at the end of that run. -/
theorem splits_reconcile_acceptedSplit :
    ∃ s : SplitState SampleParser SampleGrid,
      s.outstanding "w" = [] ∧ s.layoutUuids "w" = [uuidToString 1, uuidToString 3] ∧
        s.Reconciled "w" 7 ∧ s.NoPhantom "w" 7 ∧ s.TargetsPanes "w" 7 := by
  have hinit : (SplitState.system SampleParser SampleGrid "w" 7).init onePane := onePane_attached
  obtain ⟨s, hreach, hdone, hlayout⟩ := System.exists_reachableUnder
    (fun s step => s.isUndisturbed "w" 7 step) acceptedSplit
    (p := fun s => s.outstanding "w" = [] ∧
      s.layoutUuids "w" = [uuidToString 1, uuidToString 3]) hinit (by decide +kernel)
  exact ⟨s, hdone, hlayout, splits_reconcile hreach⟩

/-- The shell of the new pane does not start, and the error is reconciled. -/
def refusedSplit : List (SplitStep SampleParser SampleGrid) :=
  [splitAt 1 2, .take, .written, .handle (daemonEnv 3) (.error "no shell"), .receive, .reconcile,
    .reconcile]

/-- The new terminal is split before the answer about its pane. -/
def hastySplit : List (SplitStep SampleParser SampleGrid) :=
  [splitAt 1 2, splitAt 2 5, .take, .written, .handle (daemonEnv 3) (.ok ()), .receive, .reconcile,
    .reconcile, .take]

/-- A refused split leaves its terminal behind, and a split of a terminal whose
pane was just created still targets the minted id once the answer is applied. -/
theorem splits_not_reconciled :
    ¬ (∀ s : SplitState SampleParser SampleGrid, (SplitState.system _ _ "w" 7).Reachable s →
        s.Reconciled "w" 7) ∧
      ¬ (∀ s : SplitState SampleParser SampleGrid, (SplitState.system _ _ "w" 7).Reachable s →
        s.TargetsPanes "w" 7) := by
  have hinit : (SplitState.system SampleParser SampleGrid "w" 7).init onePane := onePane_attached
  constructor
  · intro hall
    obtain ⟨s, hreach, hdone, hshape⟩ := System.exists_reachable refusedSplit
      (p := fun s => s.outstanding "w" = [] ∧ s.layoutShape "w" ≠ s.treeShape 7) hinit
      (by decide +kernel)
    exact hshape (hall s hreach hdone)
  · intro hall
    obtain ⟨s, hreach, htarget, hgone⟩ := System.exists_reachable hastySplit
      (p := fun s => uuidToString 2 ∈ s.splitTargets "w" 7 ∧ uuidToString 2 ∉ s.treeUuids 7) hinit
      (by decide +kernel)
    exact hgone (hall s hreach _ htarget)

end SampleRuns

end Client
end Rttx
