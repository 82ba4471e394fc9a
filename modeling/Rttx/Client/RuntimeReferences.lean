import Mathlib.Data.List.Perm.Subperm
import Rttx.Client.SessionEffects

/-!
# One workspace for a runtime

A managed workspace refers to a runtime by the endpoint of its daemon and the
runtime's id.  The actors are kept by the key of an endpoint, which leaves the path
of the daemon's binary out, and an actor puts the endpoint that it was started with
on its events.  The inventory and the routing of events compare whole endpoints: two
endpoints of one key with different paths are one actor, and two daemons for the
window.

Workspaces attached to an existing runtime, and those of saved documents, have no
path; an inventory is asked for with the path of its host.

**Results.**
* `one_workspace_per_runtime`: in every run whose steps meet `KeepsReferences`, a
  runtime has one workspace, a repeated inventory changes nothing, and events reach
  the workspace that refers to their runtime.
* `runtime_has_two_workspaces`: a host with a path, and a runtime with a workspace
  that misses its events and with two workspaces.
-/

namespace Rttx
namespace Client

open Kernel Server

/-- The endpoint's key and the runtime's id that a workspace refers to. -/
def WorkspaceRuntime.reference (runtime : WorkspaceRuntime) : Option (String × String) :=
  if runtime.managed then
    runtime.runtimeId.map (fun runtimeId => (runtime.endpoint.key, runtimeId))
  else
    none

theorem WorkspaceRuntime.reference_eq_some {runtime : WorkspaceRuntime} {key runtimeId : String} :
    runtime.reference = some (key, runtimeId) ↔
      runtime.managed = true ∧ runtime.endpoint.key = key ∧
        runtime.runtimeId = some runtimeId := by
  unfold WorkspaceRuntime.reference
  split
  · rename_i hmanaged
    rw [Option.map_eq_some_iff]
    constructor
    · rintro ⟨found, hfound, heq⟩
      obtain ⟨hkey, rfl⟩ := Prod.mk.inj heq
      exact ⟨hmanaged, hkey, hfound⟩
    · rintro ⟨_, rfl, hfound⟩
      exact ⟨runtimeId, hfound, rfl⟩
  · rename_i hmanaged
    exact ⟨nofun, fun h => absurd h.1 hmanaged⟩

/-- What a workspace is known by. -/
abbrev Identity := String × WorkspaceRuntime

def Session.identity (w : Session) : Identity :=
  (w.uuid, w.runtime)

/-- Two workspaces of different ids and different runtimes. -/
def Identity.Apart (a b : Identity) : Prop :=
  a.1 ≠ b.1 ∧ ∀ ref, a.2.reference = some ref → b.2.reference ≠ some ref

theorem Identity.Apart.symm {a b : Identity}
    (h : a.Apart b) :
    b.Apart a :=
  ⟨h.1.symm, fun ref hb ha => h.2 ref ha hb⟩

namespace SessionWindow

section Identities

def identities (s : SessionWindow) : List Identity :=
  s.workspaces.map Session.identity

/-- The operations that bring a workspace or change the runtime of one. -/
def changesIdentities : WindowOp → Bool
  | .addDirectSession _ _ | .addManagedSession _ _ _ _ | .attachToExistingRuntime _ _ _ _ => true
  | .closeAllSessions _ _ | .updateWorkspaceEndpoint _ _ => true
  | .workspaceOpened _ _ _ | .paneCreated _ _ _ _ | .workspaceTerminated _ => true
  | .inventoryLoaded _ _ _ => true
  | _ => false

variable {s : SessionWindow}

theorem identities_updateWorkspace {workspaceId : String} {f : Session → Session}
    (hf : ∀ w, (f w).identity = w.identity) :
    (s.updateWorkspace workspaceId f).identities = s.identities :=
  map_updateFirst fun w _ => hf w

theorem identities_updateWorkspaceOf {terminalUuid : String} {f : Session → Session}
    (hf : ∀ w, (f w).identity = w.identity) :
    (s.updateWorkspaceOf terminalUuid f).identities = s.identities :=
  map_updateFirst fun w _ => hf w

theorem identity_toggleZoom (w : Session) (target : Option String) :
    (w.toggleZoom target).identity = w.identity := by
  rcases w.toggleZoom_cases target with h | h | ⟨t, _, _, _, h⟩ <;> rw [h] <;> rfl

theorem identity_normalizeActive (w : Session) : w.normalizeActive.identity = w.identity :=
  Prod.ext w.normalizeActive_uuid w.normalizeActive_runtime

theorem identity_splitPane (w : Session) (terminalUuid newUuid : String)
    (orientation : SplitOrientation) (view : SplitView) :
    (w.splitPane terminalUuid newUuid orientation view).identity = w.identity := by
  rcases w.splitPane_cases terminalUuid newUuid orientation view with h | ⟨layout, _, h⟩
  · rw [h]
  · rw [h]
    exact identity_normalizeActive { w with layout := layout }

theorem identity_adoptPane {w : Session} {layoutTerminalUuid runtimeId runtimePaneId : String}
    (h : w.layout.containsTerminal layoutTerminalUuid = true) :
    (w.adoptPane layoutTerminalUuid runtimeId runtimePaneId).identity =
      (w.uuid, { w.runtime with runtimeId := some runtimeId }) := by
  unfold Session.adoptPane
  rw [h]
  simp only [Bool.not_true, Bool.false_eq_true, if_false]
  split
  · rcases Session.rekey_cases
      { w with runtime := { w.runtime with runtimeId := some runtimeId } } layoutTerminalUuid
      runtimePaneId with heq | ⟨layout, before, after, _, _, heq⟩ <;> rw [heq] <;> rfl
  · rfl

theorem identities_togglePaneZoomFor (visibleWorkspace target : Option String) :
    (s.togglePaneZoomFor visibleWorkspace target).identities = s.identities := by
  cases visibleWorkspace with
  | none => rfl
  | some workspaceId => exact identities_updateWorkspace fun w => identity_toggleZoom w target

theorem identities_unzoomed (terminalUuid : String)
    (visibleWorkspace focusedTerminal : Option String) :
    (s.unzoomed terminalUuid visibleWorkspace focusedTerminal).identities = s.identities := by
  unfold unzoomed
  split
  · exact identities_togglePaneZoomFor visibleWorkspace focusedTerminal
  · rfl

theorem identities_closeTerminal (terminalUuid : String)
    (visibleWorkspace focusedTerminal : Option String) :
    (s.closeTerminal terminalUuid visibleWorkspace focusedTerminal).identities.Sublist
      s.identities := by
  rw [← identities_unzoomed (s := s) terminalUuid visibleWorkspace focusedTerminal]
  simp only [closeTerminal]
  split
  · exact List.Sublist.refl _
  · split
    · exact List.Sublist.refl _
    · split
      · exact (closeSession_sublist _ _).map _
      · rw [identities_updateWorkspaceOf]
        intro w
        unfold Session.removeLocally
        split
        · rfl
        · exact identity_normalizeActive _

theorem identities_dispatch (endpoint : RuntimeEndpoint) (payload : Option PushPayload)
    (viewed : String → Bool) :
    (s.dispatchManagedRuntimeMessage endpoint payload viewed).identities = s.identities := by
  unfold dispatchManagedRuntimeMessage
  split
  · cases s.runtimeOwner endpoint _ <;> rfl
  · rename_i runtimeId name userRenamed
    cases s.runtimeOwner endpoint runtimeId with
    | none => rfl
    | some workspaceId =>
        simp only [Option.elim_some, applyDaemonWorkspaceName]
        split
        · rfl
        · refine identities_updateWorkspace fun w => ?_
          split <;> rfl
  · cases s.runtimeOwner endpoint _ <;> rfl
  · unfold applyCwdChanged
    split
    · rfl
    · split
      · exact identities_updateWorkspace fun w => rfl
      · rfl
  · rfl

/-- **The other operations take workspaces out or move them.** -/
theorem identities_subperm {op : WindowOp}
    (h : changesIdentities op = false) :
    (s.next op).identities.Subperm s.identities := by
  cases op with
  | closeSession workspaceId =>
      exact ((s.closeSession_sublist workspaceId).map Session.identity).subperm
  | detachRuntime workspaceId =>
      exact ((s.detachRuntime_sublist workspaceId).map Session.identity).subperm
  | closeTerminal terminalUuid visibleWorkspace focusedTerminal =>
      exact (identities_closeTerminal terminalUuid visibleWorkspace focusedTerminal).subperm
  | splitTerminal terminalUuid newId orientation view =>
      refine (List.Perm.of_eq ?_).subperm
      exact (identities_updateWorkspaceOf fun w => identity_splitPane w _ _ _ _).trans
        (identities_unzoomed _ _ _)
  | togglePaneZoomFor visibleWorkspace target =>
      exact (List.Perm.of_eq (identities_togglePaneZoomFor visibleWorkspace target)).subperm
  | moveFocusedPane current move =>
      simp only [SessionWindow.next, moveFocusedPane]
      split
      · exact List.Subperm.refl _
      · split
        · exact List.Subperm.refl _
        · split
          · refine (List.Perm.of_eq ?_).subperm
            exact identities_updateWorkspace fun w => rfl
          · exact List.Subperm.refl _
  | focusEntered terminalUuid =>
      refine (List.Perm.of_eq ?_).subperm
      exact identities_updateWorkspaceOf fun w => rfl
  | swapTerminals a b =>
      have hsame : (s.swapTerminals a b).identities = s.identities :=
        map_updateFirst fun w _ => rfl
      exact (List.Perm.of_eq hsame).subperm
  | rotateLayout visibleWorkspace =>
      cases visibleWorkspace with
      | none => exact List.Subperm.refl _
      | some workspaceId =>
          refine (List.Perm.of_eq ?_).subperm
          exact identities_updateWorkspace fun w => rfl
  | setTerminalRecovery terminalUuid recovery =>
      refine (List.Perm.of_eq ?_).subperm
      exact identities_updateWorkspaceOf fun w => rfl
  | reorderSession sourceUuid targetUuid =>
      exact ((s.reorderSession_perm sourceUuid targetUuid).map Session.identity).subperm
  | renameRuntime workspaceId name =>
      refine (List.Perm.of_eq ?_).subperm
      exact identities_updateWorkspace fun w => rfl
  | paneClosed workspaceId layoutTerminalUuid =>
      simp only [SessionWindow.next, paneClosed]
      split
      · have hsame : (s.updateWorkspace workspaceId
            (Session.removeClosed layoutTerminalUuid)).identities = s.identities := by
          refine identities_updateWorkspace fun w => ?_
          unfold Session.removeClosed
          split
          · rfl
          · exact identity_normalizeActive _
        exact (List.Perm.of_eq hsame).subperm
      · exact List.Subperm.refl _
  | workspaceMessage endpoint payload viewed =>
      exact (List.Perm.of_eq (identities_dispatch endpoint payload viewed)).subperm
  | workspaceConnectionChanged workspaceId status => exact List.Subperm.refl _
  | workspaceDetached workspaceId => exact List.Subperm.refl _
  | workspaceResynced workspaceId snapshot => exact List.Subperm.refl _
  | addDirectSession | addManagedSession | attachToExistingRuntime | closeAllSessions => cases h
  | updateWorkspaceEndpoint | workspaceOpened | paneCreated | workspaceTerminated => cases h
  | inventoryLoaded => cases h

/-- The search for the workspace of a runtime. -/
theorem workspaceForRuntime_eq (s : SessionWindow) (endpoint : RuntimeEndpoint)
    (runtimeId : String) :
    s.toWindowState.workspaceForRuntime endpoint runtimeId =
      (s.workspaces.find? (fun w : Session =>
        decide (w.runtime = ⟨true, endpoint, some runtimeId⟩))).map (fun w => w.uuid) := by
  have hmatches : ∀ w : Session,
      (w.usesManagedRuntime && decide (w.runtime.endpoint = endpoint) &&
        decide (w.runtime.runtimeId = some runtimeId)) =
      decide (w.runtime = ⟨true, endpoint, some runtimeId⟩) := by
    intro w
    rw [WorkspaceState.usesManagedRuntime, Bool.eq_iff_iff]
    cases w.runtime
    simp [and_assoc]
  rw [WindowState.workspaceForRuntime, toWindowState, List.find?_map, Option.map_map]
  simp only [Function.comp_def, hmatches]

end Identities

end SessionWindow

section Connection

/-- A window and its actors: the endpoint of the actor of each key, and every endpoint
an actor was ever started with (the events of a reset actor may still be queued). -/
structure ConnectedWindow where
  window : SessionWindow
  endpoints : HashMap String RuntimeEndpoint
  spawned : List RuntimeEndpoint

/-- An operation, a command for an endpoint, or the reset of its actor. -/
inductive ConnectedStep
  | operation (op : WindowOp)
  | endpointHandle (endpoint : RuntimeEndpoint)
  | resetEndpoint (endpoint : RuntimeEndpoint)

/-- The actor that an operation comes from, if it names one. -/
def WindowOp.sender? : WindowOp → Option RuntimeEndpoint
  | .inventoryLoaded endpoint _ _ => some endpoint
  | .workspaceMessage endpoint _ _ => some endpoint
  | _ => none

namespace ConnectedWindow

/-- One step; an actor is started for a key that has none. -/
def next (s : ConnectedWindow) : ConnectedStep → Option ConnectedWindow
  | .operation op =>
      if op.sender?.all (fun endpoint => endpoint ∈ s.spawned) then
        some { s with window := s.window.next op }
      else
        none
  | .endpointHandle endpoint =>
      some
        (if (s.endpoints.lookup endpoint.key).isSome then
          s
        else
          { s with
            endpoints := s.endpoints.insert endpoint.key endpoint
            spawned := endpoint :: s.spawned })
  | .resetEndpoint endpoint => some { s with endpoints := s.endpoints.erase endpoint.key }

/-- The messages about a runtime act on the workspace of this id. -/
structure ActsOn (window : SessionWindow) (endpoint : RuntimeEndpoint) (runtimeId : Bytes)
    (workspaceId : String) : Prop where
  leaseLost : ∀ viewed,
    window.dispatchManagedRuntimeMessage endpoint (some (.leaseLost runtimeId)) viewed =
      window.setConnectionStatus workspaceId (.blocked .takenOver)
  renamed : ∀ name userRenamed viewed,
    window.dispatchManagedRuntimeMessage endpoint
        (some (.workspaceRenamed runtimeId name userRenamed)) viewed =
      window.applyDaemonWorkspaceName workspaceId name userRenamed
  terminated : ∀ viewed,
    window.dispatchManagedRuntimeMessage endpoint (some (.workspaceTerminated runtimeId)) viewed =
      window.setConnectionStatus workspaceId .disconnected

/-- A runtime has one workspace, a repeated inventory changes nothing, and what an
actor says of a runtime acts on the workspace that refers to it. -/
structure OneWorkspacePerRuntime (s : ConnectedWindow) : Prop where
  distinct : s.window.workspaces.Pairwise fun w w' =>
    ∀ ref, w.runtime.reference = some ref → w'.runtime.reference ≠ some ref
  repeated : ∀ endpoint workspaces mint mint',
    (s.window.inventoryLoaded endpoint workspaces mint).inventoryLoaded endpoint workspaces mint' =
      s.window.inventoryLoaded endpoint workspaces mint
  routed : ∀ endpoint ∈ s.spawned, ∀ w ∈ s.window.workspaces, ∀ runtimeId id,
    bytesToUuid runtimeId = some id →
      w.runtime.reference = some (endpoint.key, uuidToString id) →
        s.window.findWorkspace w.uuid = some w ∧ ActsOn s.window endpoint runtimeId w.uuid

/-- The actors of the endpoint's key have the endpoint of the workspace. -/
def Agree (spawned : List RuntimeEndpoint) (a : Identity) : Prop :=
  ∀ ref, a.2.reference = some ref → ∀ endpoint ∈ spawned, endpoint.key = ref.1 →
    endpoint = a.2.endpoint

/-- A workspace that may stand next to the others. -/
def Admits (s : ConnectedWindow) (others : List Identity) (a : Identity) : Prop :=
  (∀ b ∈ others, b.Apart a) ∧ Agree s.spawned a

/-- The workspaces but the first one of an id. -/
def others (s : ConnectedWindow) (workspaceId : String) : List Identity :=
  (s.window.workspaces.eraseP (fun w => w.uuid == workspaceId)).map Session.identity

/-- **The steps that keep one workspace for a runtime.** -/
def KeepsReferences (s : ConnectedWindow) : ConnectedStep → Prop
  | .operation (.addDirectSession ids _) | .operation (.closeAllSessions ids _) =>
      s.Admits s.window.identities (uuidToString ids.workspace, ⟨false, .localHost, none⟩)
  | .operation (.addManagedSession ids _ remoteHost _) =>
      s.Admits s.window.identities (uuidToString ids.workspace,
        ⟨true, remoteHost.elim .localHost (fun host => .remote host none), none⟩)
  | .operation (.attachToExistingRuntime ids host runtimeId _) =>
      s.Admits s.window.identities
        (uuidToString ids.workspace, ⟨true, host.attachEndpoint, some runtimeId⟩)
  | .operation (.updateWorkspaceEndpoint workspaceId host) =>
      ∀ w, s.window.findWorkspace workspaceId = some w →
        s.Admits (s.others workspaceId)
          (w.uuid, { w.runtime with endpoint := .remote host none })
  | .operation (.workspaceOpened workspaceId runtimeId _) =>
      ∀ w, s.window.findWorkspace workspaceId = some w →
        s.Admits (s.others workspaceId) (w.uuid, { w.runtime with runtimeId := some runtimeId })
  | .operation (.paneCreated workspaceId layoutTerminalUuid runtimeId _) =>
      ∀ w, s.window.findWorkspace workspaceId = some w →
        layoutTerminalUuid ∈ w.layout.terminalUuids →
        s.Admits (s.others workspaceId) (w.uuid, { w.runtime with runtimeId := some runtimeId })
  | .operation (.inventoryLoaded endpoint workspaces _) =>
      -- the runtimes that it brings
      ∀ info ∈ workspaces, ∀ id, bytesToUuid info.id = some id →
        uuidToString id ∉ s.window.dismissedRuntimeIds →
        uuidToString id ∉ s.window.toDismissingWindow.knownRuntimeIds endpoint →
        (∀ b ∈ s.window.identities, b.1 ≠ inventoryWorkspaceId endpoint (uuidToString id)) ∧
          ∀ other ∈ s.spawned, other.key = endpoint.key → other = endpoint
  | .operation _ => True
  | .endpointHandle endpoint =>
      s.endpoints.lookup endpoint.key = none →
        ∀ a ∈ s.window.identities, ∀ runtimeId,
          a.2.reference = some (endpoint.key, runtimeId) → endpoint = a.2.endpoint
  | .resetEndpoint _ => True

/-- What carries through a run: the workspaces are apart, and the actors have their
endpoints. -/
structure References (identities : List Identity) (spawned : List RuntimeEndpoint) : Prop where
  apart : identities.Pairwise Identity.Apart
  agree : ∀ a ∈ identities, Agree spawned a

section Steps

variable {identities identities' : List Identity} {spawned : List RuntimeEndpoint}

theorem References.of_subperm
    (h : References identities spawned)
    (hsub : identities'.Subperm identities) :
    References identities' spawned := by
  obtain ⟨kept, hperm, hsublist⟩ := hsub
  constructor
  · exact (hperm.pairwise_iff (fun {a b} => Identity.Apart.symm)).mp (h.apart.sublist hsublist)
  · exact fun a ha => h.agree a (hsublist.subset (hperm.mem_iff.mpr ha))

/-- A workspace is added. -/
theorem References.push {a : Identity}
    (h : References identities spawned)
    (hnew : ∀ b ∈ identities, b.Apart a)
    (hagree : Agree spawned a) :
    References (identities ++ [a]) spawned := by
  constructor
  · rw [List.pairwise_append]
    exact ⟨h.apart, List.pairwise_singleton _ a, fun b hb c hc =>
      List.mem_singleton.mp hc ▸ hnew b hb⟩
  · intro b hb
    rcases List.mem_append.mp hb with hb | hb
    · exact h.agree b hb
    · exact List.mem_singleton.mp hb ▸ hagree

/-- A workspace is changed. -/
theorem References.updateWorkspace {s : SessionWindow} {workspaceId : String}
    {f : Session → Session}
    (h : References s.identities spawned)
    (hf : ∀ w, s.findWorkspace workspaceId = some w →
      (∀ b ∈ (s.workspaces.eraseP (fun w => w.uuid == workspaceId)).map Session.identity,
        b.Apart (f w).identity) ∧ Agree spawned (f w).identity) :
    References (s.updateWorkspace workspaceId f).identities spawned := by
  constructor
  · rw [SessionWindow.identities, List.pairwise_map]
    refine pairwise_updateFirst (fun x y => Identity.Apart.symm) (List.pairwise_map.mp h.apart) ?_
    intro w hw other hother _
    exact ((hf w hw).1 _ (List.mem_map_of_mem hother)).symm
  · intro a ha
    obtain ⟨w, hw, rfl⟩ := List.mem_map.mp ha
    refine forall_updateFirst (P := fun w => Agree spawned w.identity)
      (fun w hw => h.agree _ (List.mem_map_of_mem hw)) ?_ w hw
    exact fun found hfound _ => (hf found hfound).2

/-- Workspaces of different ids that refer to nothing else stay apart when one loses its
runtime. -/
theorem References.terminated {s : SessionWindow} {workspaceId : String}
    (h : References s.identities spawned) :
    References (s.workspaceTerminated workspaceId).identities spawned := by
  have hnone : ∀ runtime : WorkspaceRuntime,
      WorkspaceRuntime.reference { runtime with runtimeId := none } = none := by
    intro runtime
    simp [WorkspaceRuntime.reference]
  refine References.updateWorkspace h fun w hw => ⟨?_, ?_⟩
  · intro b hb
    obtain ⟨other, hother, rfl⟩ := List.mem_map.mp hb
    have hapart := (List.pairwise_cons.mp
      (((perm_of_find? hw).pairwise_iff (R := fun w w' : Session => w.identity.Apart w'.identity)
        (fun {x y} => Identity.Apart.symm)).mp (List.pairwise_map.mp h.apart))).1 other hother
    exact ⟨hapart.1.symm, fun ref _ href => by cases (hnone w.runtime).symm.trans href⟩
  · intro ref href
    cases (hnone w.runtime).symm.trans href

end Steps

section Inventories

/-- What a workspace that an inventory brings is known by. -/
def brought (endpoint : RuntimeEndpoint) (runtimeId : String) : Identity :=
  (inventoryWorkspaceId endpoint runtimeId, ⟨true, endpoint, some runtimeId⟩)

theorem brought_apart {endpoint : RuntimeEndpoint} {a b : String}
    (hne : a ≠ b) :
    (brought endpoint a).Apart (brought endpoint b) := by
  constructor
  · intro heq
    exact hne ((String.append_right_inj _).mp heq)
  · rintro ref ha hb
    cases ha
    exact hne (Prod.mk.inj (Option.some.inj hb)).2.symm

theorem identity_recovered {endpoint : RuntimeEndpoint} {info : WorkspaceInfo}
    {mint : Nat → String} {id : Uuid} {w : WorkspaceState}
    (hid : bytesToUuid info.id = some id)
    (h : recoveredManagedWorkspace endpoint info mint = some w) :
    (w.uuid, w.runtime) = brought endpoint (uuidToString id) := by
  simp only [recoveredManagedWorkspace, hid, Option.map_some, Option.some.injEq] at h
  rw [← h]
  rfl

theorem recoverFrom_apart (endpoint : RuntimeEndpoint) (dismissed : Finset String)
    (known : List String) (mint : Nat → Nat → String) (workspaces : List WorkspaceInfo) :
    (DismissingWindow.recoverFrom endpoint dismissed known mint workspaces).Pairwise
      fun w w' => Identity.Apart (w.uuid, w.runtime) (w'.uuid, w'.runtime) := by
  refine SessionWindow.recoverFrom_pairwise ?_
  intro i j info other id id' w w' _ _ _ hnew hnew' hne hw hw'
  rw [identity_recovered hnew.id_eq hw, identity_recovered hnew'.id_eq hw']
  exact brought_apart fun heq => hne (uuidToString_injective heq)

/-- **An inventory brings no second workspace for a runtime.** -/
theorem References.inventoryLoaded {s : SessionWindow} {spawned : List RuntimeEndpoint}
    {endpoint : RuntimeEndpoint} {workspaces : List WorkspaceInfo} {mint : Nat → Nat → Uuid}
    (h : References s.identities spawned)
    (hsender : endpoint ∈ spawned)
    (hok : ∀ info ∈ workspaces, ∀ id, bytesToUuid info.id = some id →
      uuidToString id ∉ s.dismissedRuntimeIds →
      uuidToString id ∉ s.toDismissingWindow.knownRuntimeIds endpoint →
      (∀ b ∈ s.identities, b.1 ≠ inventoryWorkspaceId endpoint (uuidToString id)) ∧
        ∀ other ∈ spawned, other.key = endpoint.key → other = endpoint) :
    References (s.inventoryLoaded endpoint workspaces mint).identities spawned := by
  -- a brought workspace has a condition of its own
  have hbrought : ∀ w ∈ s.recovered endpoint workspaces mint,
      ∃ id, w.identity = brought endpoint (uuidToString id) ∧
        uuidToString id ∉ s.toDismissingWindow.knownRuntimeIds endpoint ∧
        (∀ b ∈ s.identities, b.1 ≠ inventoryWorkspaceId endpoint (uuidToString id)) ∧
        ∀ other ∈ spawned, other.key = endpoint.key → other = endpoint := by
    intro w hw
    obtain ⟨state, hstate, rfl⟩ := List.mem_map.mp hw
    obtain ⟨i, info, id, hinfo, hid, hdismissed, hknown, _, hrecovered⟩ :=
      SessionWindow.mem_recoverFrom hstate
    have hlisted : info ∈ workspaces := List.mem_of_getElem? hinfo
    refine ⟨id, identity_recovered hid hrecovered, hknown, hok info hlisted id hid ?_ hknown⟩
    intro hin
    refine hdismissed (Finset.mem_filter.mpr ⟨hin, List.mem_filterMap.mpr ⟨info, hlisted, ?_⟩⟩)
    rw [hid, Option.map_some]
  have hlist : (s.inventoryLoaded endpoint workspaces mint).identities =
      s.identities ++ (s.recovered endpoint workspaces mint).map Session.identity := by
    rw [SessionWindow.identities, SessionWindow.inventoryLoaded_workspaces, List.map_append]
    rfl
  rw [hlist]
  constructor
  · rw [List.pairwise_append]
    refine ⟨h.apart, ?_, ?_⟩
    · rw [SessionWindow.recovered, List.map_map, List.pairwise_map]
      exact recoverFrom_apart endpoint _ _ _ workspaces
    · intro a ha b hb
      obtain ⟨w, hw, rfl⟩ := List.mem_map.mp hb
      obtain ⟨id, hidentity, hknown, hfresh, _⟩ := hbrought w hw
      rw [hidentity]
      refine ⟨hfresh a ha, fun ref hold hnew => ?_⟩
      cases hnew
      -- the actor has the endpoint of the workspace, which is therefore known
      obtain ⟨old, hold', rfl⟩ := List.mem_map.mp ha
      have hendpoint := h.agree _ ha _ hold endpoint hsender rfl
      refine hknown (SessionWindow.mem_knownRuntimeIds.mpr ⟨old, hold', ?_⟩)
      obtain ⟨hmanaged, _, hruntime⟩ := WorkspaceRuntime.reference_eq_some.mp hold
      rw [← hmanaged, hendpoint, ← hruntime]
      rfl
  · intro a ha
    rcases List.mem_append.mp ha with ha | ha
    · exact h.agree a ha
    · obtain ⟨w, hw, rfl⟩ := List.mem_map.mp ha
      obtain ⟨id, hidentity, _, _, hactors⟩ := hbrought w hw
      rw [hidentity]
      intro ref href other hother hkey
      cases href
      exact hactors other hother hkey

/-- **A repeated inventory changes nothing.** -/
theorem inventoryLoaded_twice (s : SessionWindow) (endpoint : RuntimeEndpoint)
    (workspaces : List WorkspaceInfo) (mint mint' : Nat → Nat → Uuid) :
    (s.inventoryLoaded endpoint workspaces mint).inventoryLoaded endpoint workspaces mint' =
      s.inventoryLoaded endpoint workspaces mint := by
  have hdismissed : ∀ m, (s.inventoryLoaded endpoint workspaces m).dismissedRuntimeIds =
      s.dismissedRuntimeIds.filter (fun id => id ∈ inventoryIds workspaces) := by
    intro m
    simp only [SessionWindow.inventoryLoaded]
    split
    · rfl
    · obtain ⟨statuses, hfold⟩ := SessionWindow.foldl_setConnectionStatus
        (SessionWindow.rebuildPaneReverseIndex
          { s with
            workspaces := s.workspaces ++ s.recovered endpoint workspaces m
            dismissedRuntimeIds :=
              s.dismissedRuntimeIds.filter (fun id => id ∈ inventoryIds workspaces) })
        .connecting (s.recovered endpoint workspaces m)
      rw [hfold]
      rfl
  have hagain : (s.inventoryLoaded endpoint workspaces mint).dismissedRuntimeIds.filter
      (fun id => id ∈ inventoryIds workspaces) =
        (s.inventoryLoaded endpoint workspaces mint).dismissedRuntimeIds := by
    rw [hdismissed, Finset.filter_filter]
    simp only [and_self]
  have hnone : (s.inventoryLoaded endpoint workspaces mint).recovered endpoint workspaces mint' =
      [] := by
    rw [SessionWindow.recovered, List.map_eq_nil_iff, List.eq_nil_iff_forall_not_mem]
    intro w hw
    obtain ⟨i, info, id, hinfo, hid, hin, hknown, _, _⟩ := SessionWindow.mem_recoverFrom hw
    rw [hagain, hdismissed] at hin
    rw [SessionWindow.mem_knownRuntimeIds, SessionWindow.inventoryLoaded_workspaces] at hknown
    by_cases hbefore : uuidToString id ∈ s.toDismissingWindow.knownRuntimeIds endpoint
    · obtain ⟨old, hold, hruntime⟩ := SessionWindow.mem_knownRuntimeIds.mp hbefore
      exact hknown ⟨old, List.mem_append_left _ hold, hruntime⟩
    · obtain ⟨new, hnew, hruntime⟩ := @SessionWindow.recoverFrom_covers _ _ _
        (fun i j => uuidToString (mint i j)) _ _ _ (List.mem_of_getElem? hinfo) hid hin hbefore
      exact hknown ⟨Session.ofRecovered new,
        List.mem_append_right _ (List.mem_map_of_mem hnew), hruntime⟩
  rw [SessionWindow.inventoryLoaded, hnone, if_pos rfl, hagain]

end Inventories

section Runs

variable {s : ConnectedWindow}

/-- Workspaces that are not apart are the same. -/
theorem References.eq_of_not_apart {window : SessionWindow} {spawned : List RuntimeEndpoint}
    (h : References window.identities spawned)
    {w w' : Session}
    (hw : w ∈ window.workspaces)
    (hw' : w' ∈ window.workspaces)
    (hnot : ¬ w.identity.Apart w'.identity) :
    w = w' := by
  by_contra hne
  have hsymm : Std.Symm fun w w' : Session => w.identity.Apart w'.identity :=
    ⟨fun _ _ hapart => hapart.symm⟩
  exact hnot ((List.pairwise_map.mp h.apart).forall hw hw' hne)

theorem References.findWorkspace {window : SessionWindow} {spawned : List RuntimeEndpoint}
    (h : References window.identities spawned)
    {w : Session}
    (hw : w ∈ window.workspaces) :
    window.findWorkspace w.uuid = some w := by
  obtain ⟨found, hfound⟩ := Option.isSome_iff_exists.mp
    (List.find?_isSome.mpr ⟨w, hw, beq_self_eq_true w.uuid⟩ :
      (window.workspaces.find? (fun other => other.uuid == w.uuid)).isSome = true)
  have huuid : found.uuid = w.uuid := by simpa using List.find?_some hfound
  have heq : found = w := h.eq_of_not_apart (List.mem_of_find?_eq_some hfound) hw
    fun hapart => hapart.1 huuid
  rw [SessionWindow.findWorkspace, hfound, heq]

theorem actsOn_of_owner {window : SessionWindow} {endpoint : RuntimeEndpoint}
    {runtimeId : Bytes} {workspaceId : String}
    (h : window.runtimeOwner endpoint runtimeId = some workspaceId) :
    ActsOn window endpoint runtimeId workspaceId := by
  constructor <;> intros <;>
    rw [SessionWindow.dispatchManagedRuntimeMessage, h, Option.elim_some]

theorem References.oneWorkspacePerRuntime
    (h : References s.window.identities s.spawned) :
    s.OneWorkspacePerRuntime := by
  constructor
  · exact (List.pairwise_map.mp h.apart).imp fun hapart => hapart.2
  · exact inventoryLoaded_twice s.window
  · intro endpoint hendpoint w hw runtimeId id hid href
    refine ⟨h.findWorkspace hw, actsOn_of_owner ?_⟩
    have hactor : endpoint = w.runtime.endpoint :=
      h.agree w.identity (List.mem_map_of_mem hw) _ href endpoint hendpoint rfl
    obtain ⟨hmanaged, _, hruntime⟩ := WorkspaceRuntime.reference_eq_some.mp href
    have hown : w.runtime = ⟨true, endpoint, some (uuidToString id)⟩ := by
      rw [hactor, ← hmanaged, ← hruntime]
    obtain ⟨found, hfound⟩ := Option.isSome_iff_exists.mp
      (List.find?_isSome.mpr ⟨w, hw, decide_eq_true hown⟩ :
        (s.window.workspaces.find? (fun w : Session =>
          decide (w.runtime = ⟨true, endpoint, some (uuidToString id)⟩))).isSome = true)
    have hsame : found = w := by
      refine h.eq_of_not_apart (List.mem_of_find?_eq_some hfound) hw fun hapart => ?_
      have hfoundRuntime : found.runtime = ⟨true, endpoint, some (uuidToString id)⟩ := by
        simpa using List.find?_some hfound
      exact hapart.2 _ (congrArg WorkspaceRuntime.reference hfoundRuntime)
        (congrArg WorkspaceRuntime.reference hown)
    rw [SessionWindow.runtimeOwner, hid, Option.bind_some, SessionWindow.workspaceForRuntime_eq,
      hfound, hsame, Option.map_some]

/-- **One step that meets its condition keeps the references.** -/
theorem references_next {step : ConnectedStep} {s' : ConnectedWindow}
    (h : References s.window.identities s.spawned)
    (hok : s.KeepsReferences step)
    (hnext : s.next step = some s') :
    References s'.window.identities s'.spawned := by
  have hadds : ∀ {a : Identity}, s.Admits s.window.identities a →
      References (s.window.identities ++ [a]) s.spawned :=
    fun hadmits => h.push hadmits.1 hadmits.2
  cases step with
  | endpointHandle endpoint =>
      rw [next, Option.some.injEq] at hnext
      split at hnext
      · exact hnext ▸ h
      · rename_i hfree
        subst hnext
        refine ⟨h.apart, fun a ha ref href other hother hkey => ?_⟩
        rcases List.mem_cons.mp hother with rfl | hother
        · exact hok (by simpa using hfree) a ha ref.2 (by rw [href, hkey])
        · exact h.agree a ha ref href other hother hkey
  | resetEndpoint endpoint =>
      cases hnext
      exact h
  | operation op =>
      rw [next] at hnext
      split at hnext
      · rename_i hsender
        cases hnext
        cases hop : SessionWindow.changesIdentities op with
        | false => exact h.of_subperm (SessionWindow.identities_subperm hop)
        | true =>
            cases op with
            | addDirectSession ids initialCwd =>
                change References (List.map _ (_ ++ [_])) _
                rw [List.map_append]
                exact hadds hok
            | addManagedSession ids name remoteHost initialCwd =>
                change References (List.map _ (_ ++ [_])) _
                rw [List.map_append]
                exact hadds hok
            | attachToExistingRuntime ids host runtimeId name =>
                change References (List.map _ (_ ++ [_])) _
                rw [List.map_append]
                exact hadds hok
            | closeAllSessions ids initialCwd =>
                have hsub := ((s.window.foldl_closeOne_sublist
                  (s.window.workspaces.map (fun w => w.uuid))).map Session.identity)
                change References (List.map _ (_ ++ [_])) _
                rw [List.map_append]
                exact (h.of_subperm hsub.subperm).push (fun b hb => hok.1 b (hsub.subset hb)) hok.2
            | updateWorkspaceEndpoint workspaceId host =>
                simp only [SessionWindow.next, SessionWindow.updateWorkspaceEndpoint]
                split
                · exact h
                · exact References.updateWorkspace h hok
            | workspaceOpened workspaceId runtimeId snapshot =>
                simp only [SessionWindow.next, SessionWindow.workspaceOpened]
                split
                · exact h
                · refine References.updateWorkspace h fun w hw => ?_
                  obtain ⟨name, userRenamed, active, layout, heq, _⟩ :=
                    w.adoptSnapshot_cases runtimeId snapshot
                  rw [heq]
                  exact hok w hw
            | paneCreated workspaceId layoutTerminalUuid runtimeId runtimePaneId =>
                simp only [SessionWindow.next, SessionWindow.paneCreated]
                split
                · rename_i hany
                  refine References.updateWorkspace h fun w hw => ?_
                  rw [hw, Option.any_some] at hany
                  rw [SessionWindow.identity_adoptPane hany]
                  exact hok w hw (LayoutNode.containsTerminal_iff.mp hany)
                · exact h
            | workspaceTerminated workspaceId => exact References.terminated h
            | inventoryLoaded endpoint workspaces mint =>
                exact References.inventoryLoaded h (by simpa [WindowOp.sender?] using hsender) hok
            | _ => cases hop
      · cases hnext

end Runs

end ConnectedWindow

/-- Records of different ids and different runtimes. -/
def DistinctRecords (records : List WorkspaceRecord) : Prop :=
  records.Pairwise fun r r' =>
    r.id ≠ r'.id ∧
      (r.endpointKey = r'.endpointKey → r.runtimeRef = r'.runtimeRef → r.runtimeRef = none)

/-- A window from such documents on; no actor is running yet. -/
def connectedWindows : System ConnectedWindow ConnectedStep where
  init := fun s => ∃ records dismissed ids,
    DistinctRecords records ∧ s = ⟨.loadState records dismissed ids, ∅, []⟩
  next := ConnectedWindow.next

theorem endpointKey_of_reference {r : WorkspaceRecord} {ref : String × String}
    (h : r.toSession.runtime.reference = some ref) :
    ref.1 = (if r.endpointKey = "local" then "local" else "remote:" ++ r.endpointKey) ∧
      r.runtimeRef = some ref.2 := by
  rw [WorkspaceRecord.toSession, Session.normalizeActive_runtime] at h
  obtain ⟨_, hkey, hruntime⟩ := WorkspaceRuntime.reference_eq_some.mp h
  refine ⟨?_, hruntime⟩
  rw [← hkey]
  simp only
  split <;> rfl

theorem references_loadState {records : List WorkspaceRecord}
    (h : DistinctRecords records)
    (dismissed : Finset String)
    (ids : NewIds) :
    ConnectedWindow.References
      (SessionWindow.loadState records dismissed ids).identities [] := by
  refine ⟨?_, fun a _ ref _ endpoint hendpoint => nomatch hendpoint⟩
  unfold SessionWindow.loadState
  split
  · exact List.pairwise_singleton _ _
  · change List.Pairwise _ (List.map _ (List.map _ records))
    rw [List.pairwise_map, List.pairwise_map]
    refine h.imp fun {r r'} hdistinct => ⟨?_, fun ref href href' => ?_⟩
    · simpa only [Session.identity, WorkspaceRecord.toSession, Session.normalizeActive_uuid]
        using hdistinct.1
    · obtain ⟨hkey, hruntime⟩ := endpointKey_of_reference href
      obtain ⟨hkey', hruntime'⟩ := endpointKey_of_reference href'
      have hremote : ∀ host : String, "local" ≠ "remote:" ++ host := by
        intro host heq
        have hchars := congrArg String.toList heq
        simp at hchars
      have hendpoint : r.endpointKey = r'.endpointKey := by
        rw [hkey] at hkey'
        split at hkey' <;> split at hkey'
        · rename_i hl hr
          rw [hl, hr]
        · exact absurd hkey' (hremote _)
        · exact absurd hkey'.symm (hremote _)
        · exact (String.append_right_inj _).mp hkey'
      have hnone := hdistinct.2 hendpoint (hruntime.trans hruntime'.symm)
      cases hnone.symm.trans hruntime

/-- **A runtime has one workspace in every run whose steps meet their conditions.** -/
theorem one_workspace_per_runtime {s : ConnectedWindow}
    (h : connectedWindows.ReachableUnder ConnectedWindow.KeepsReferences s) :
    s.OneWorkspacePerRuntime := by
  refine ConnectedWindow.References.oneWorkspacePerRuntime (h.invariant
    (I := fun s => ConnectedWindow.References s.window.identities s.spawned) ?_ ?_)
  · rintro s ⟨records, dismissed, ids, hrecords, rfl⟩
    exact references_loadState hrecords dismissed ids
  · intro s step s' hs hok hnext
    exact ConnectedWindow.references_next hs hok hnext

section Samples

def startWindow : ConnectedWindow :=
  ⟨.loadState [] ∅ ⟨1, 2⟩, ∅, []⟩

theorem startWindow_init : connectedWindows.init startWindow :=
  ⟨[], ∅, ⟨1, 2⟩, List.Pairwise.nil, rfl⟩

/-- The inventory of a daemon with one runtime. -/
def oneRuntime : List WorkspaceInfo :=
  [⟨uuidToBytes 7, "work", false, []⟩]

def mintOne (_ _ : Nat) : Uuid := 5

def listLocal : WindowOp :=
  .inventoryLoaded .localHost oneRuntime mintOne

/-- The local daemon is asked for its inventory, and answers. -/
def listedWindow : ConnectedWindow :=
  ⟨startWindow.window.next listLocal,
    (∅ : HashMap String RuntimeEndpoint).insert "local" .localHost,
    [.localHost]⟩

/-- A recovered workspace is the one of its runtime. -/
theorem one_workspace_per_runtime_listed :
    listedWindow.window.workspaces.length = 2 ∧ listedWindow.OneWorkspacePerRuntime := by
  refine ⟨by decide +kernel, one_workspace_per_runtime ?_⟩
  have hstart : connectedWindows.ReachableUnder ConnectedWindow.KeepsReferences startWindow :=
    .init startWindow_init
  have hasked : connectedWindows.ReachableUnder ConnectedWindow.KeepsReferences
      ⟨startWindow.window, (∅ : HashMap String RuntimeEndpoint).insert "local" .localHost,
        [.localHost]⟩ := by
    refine hstart.step (a := .endpointHandle .localHost) ?_ rfl
    have hunreferred : ∀ a ∈ startWindow.window.identities, a.2.reference = none := by
      decide +kernel
    rintro - a ha runtimeId href
    cases (hunreferred a ha).symm.trans href
  refine hasked.step (a := .operation listLocal) ?_ rfl
  have hother : ∀ b ∈ startWindow.window.identities, ∀ info ∈ oneRuntime,
      (bytesToUuid info.id).any (fun id =>
        b.1 == inventoryWorkspaceId .localHost (uuidToString id)) = false := by
    decide +kernel
  intro info hinfo id hid _ _
  constructor
  · intro b hb heq
    have hnot := hother b hb info hinfo
    rw [hid, Option.any_some, heq, beq_self_eq_true] at hnot
    cases hnot
  · intro other hspawned _
    exact List.mem_singleton.mp hspawned

/-- A host with a path for the daemon's binary. -/
def buildHost : Host :=
  ⟨"build", false, some "build", some "/opt/rttxd"⟩

/-- The host's inventory is asked for, and the user attaches to its runtime. -/
def attachToBuild : List ConnectedStep :=
  [.endpointHandle buildHost.endpoint,
    .operation (.attachToExistingRuntime ⟨3, 4⟩ buildHost (uuidToString 7) "work")]

theorem attachToBuild_runs : (connectedWindows.exec startWindow attachToBuild).isSome = true := rfl

/-- The next inventory of the host arrives. -/
def listBuild : List ConnectedStep :=
  attachToBuild ++ [.operation (.inventoryLoaded buildHost.endpoint oneRuntime mintOne)]

theorem listBuild_runs : (connectedWindows.exec startWindow listBuild).isSome = true := rfl

/-- What the host's actor says of the runtime misses the attached workspace. -/
theorem attached_workspace_missed :
    ∃ s, connectedWindows.Reachable s ∧ buildHost.endpoint ∈ s.spawned ∧
      (∃ w ∈ s.window.workspaces,
        w.runtime.reference = some (buildHost.endpoint.key, uuidToString 7)) ∧
      s.window.runtimeOwner buildHost.endpoint (uuidToBytes 7) = none := by
  refine ⟨_, System.reachable_get startWindow_init attachToBuild_runs, ?_, ?_, ?_⟩ <;>
    decide +kernel

/-- **A runtime has two workspaces**: the attached one and the listed one. -/
theorem runtime_has_two_workspaces :
    ¬ ∀ s : ConnectedWindow, connectedWindows.Reachable s → s.OneWorkspacePerRuntime := by
  intro hall
  have hdistinct := (hall _ (System.reachable_get startWindow_init listBuild_runs)).distinct
  have hreferences : ((connectedWindows.exec startWindow listBuild).get
      listBuild_runs).window.workspaces.map (fun w => w.runtime.reference) =
        [none, some ("remote:build", uuidToString 7), some ("remote:build", uuidToString 7)] := by
    decide +kernel
  have hmapped := (List.pairwise_map (f := fun w : Session => w.runtime.reference)
    (R := fun a b => ∀ ref, a = some ref → b ≠ some ref)).mpr hdistinct
  rw [hreferences] at hmapped
  simp at hmapped

end Samples

end Connection

end Client
end Rttx
