import Rttx.Client.OverflowResync

/-!
# Pushes on their way to the window

The actor hands each push on to the window as an event, through a bounded
channel it does not wait for.  The main loop stops reading when the poller of
the window sees that channel fill up; a read loop does not.  A read loop that
awaits the response to a detach or a terminate request skips every push about a
terminated workspace, and a request on a connection that is not split skips
every push.

**Results.**
* `pushes_delivered`: in runs in which every push is read where it is handed on
  and finds room, the window is handed the pushes received, in order.
* `push_lost`: a run for each way in which a push is lost.
-/

namespace Rttx
namespace Client

open Kernel Server

section Pushes

/-- A push that changes what a window shows. -/
def isStructuralPush (env : ServerEnvelope) : Bool :=
  env.requestId = 0 &&
    match env.payload with
    | .workspaceTerminated _ _ _ => true
    | .leaseLost _ _ _ => true
    | .paneSplit _ _ _ _ _ _ => true
    | .paneClosed _ _ _ => true
    | .paneExited _ _ _ _ => true
    | .workspaceRenamed _ _ _ _ => true
    | .outputDelta _ _ _ _ => true
    | _ => false

namespace ActorRecord

def receivedPush? : ActorRecord → Option ServerEnvelope
  | received env _ => if isStructuralPush env then some env else none
  | _ => none

def deliveredPush? : ActorRecord → Option ServerEnvelope
  | emitted (.workspaceMessage _ env) => if isStructuralPush env then some env else none
  | _ => none

theorem receivedPush?_of_isReport {entry : ActorRecord}
    (h : entry.isReport = true) :
    entry.receivedPush? = none := by
  cases entry with
  | received env due => cases h
  | _ => rfl

theorem deliveredPush?_of_isReport {entry : ActorRecord}
    (h : entry.isReport = true) :
    entry.deliveredPush? = none := by
  cases entry with
  | emitted event =>
      cases event with
      | workspaceMessage endpoint message => cases h
      | _ => rfl
  | _ => rfl

end ActorRecord

namespace EndpointActor

/-- The pushes received, in order. -/
def receivedPushes (a : EndpointActor) : List ServerEnvelope :=
  a.log.filterMap ActorRecord.receivedPush?

/-- The pushes that went into the event channel, in order. -/
def deliveredPushes (a : EndpointActor) : List ServerEnvelope :=
  a.log.filterMap ActorRecord.deliveredPush?

/-- Every push received was handed on to the window once, in order. -/
def AllDelivered (a : EndpointActor) : Prop :=
  a.deliveredPushes = a.receivedPushes

/-- Whether the step loses no push: it is read through a split connection, the
event channel has room, and no workspace is terminated while the response to a
detach or a terminate request is awaited. -/
def deliverable (a : EndpointActor) : ActorStep → Bool
  | .receive env =>
      !isStructuralPush env ||
        (a.link = .split && a.events.accepts &&
          match a.phase, env.payload with
          | .receiving _ expectTerminated _, .workspaceTerminated _ _ _ => !expectTerminated
          | _, _ => true)
  | _ => true

end EndpointActor

end Pushes

namespace EndpointActor

section Laws

/-- Handling a command or a response hands on no push. -/
theorem AllDelivered.of_continues {a b : EndpointActor}
    (h : a.AllDelivered)
    (hcontinues : a.Continues b) :
    b.AllDelivered := by
  obtain ⟨_, entries, hlog, hreports, _⟩ := hcontinues
  have hreceived : entries.filterMap ActorRecord.receivedPush? = [] :=
    List.filterMap_eq_nil_iff.mpr
      (fun entry hentry => ActorRecord.receivedPush?_of_isReport (hreports entry hentry))
  have hdelivered : entries.filterMap ActorRecord.deliveredPush? = [] :=
    List.filterMap_eq_nil_iff.mpr
      (fun entry hentry => ActorRecord.deliveredPush?_of_isReport (hreports entry hentry))
  simp only [AllDelivered, deliveredPushes, receivedPushes, hlog, List.filterMap_append,
    hreceived, hdelivered, List.append_nil]
  exact h

theorem AllDelivered.of_log {a b : EndpointActor}
    (h : a.AllDelivered)
    (hlog : b.log = a.log) :
    b.AllDelivered := by
  simp only [AllDelivered, deliveredPushes, receivedPushes, hlog]
  exact h

/-- An entry that is neither a push received nor one delivered. -/
theorem AllDelivered.snoc {a b : EndpointActor} {entry : ActorRecord}
    (h : a.AllDelivered)
    (hlog : b.log = a.log ++ [entry])
    (hreceived : entry.receivedPush? = none)
    (hdelivered : entry.deliveredPush? = none) :
    b.AllDelivered := by
  simp only [AllDelivered, deliveredPushes, receivedPushes, hlog, List.filterMap_append,
    List.filterMap_cons, hreceived, hdelivered, List.filterMap_nil, List.append_nil]
  exact h

/-- An envelope that is no such push may be handed on or not. -/
theorem AllDelivered.forward {a : EndpointActor} {env : ServerEnvelope}
    (h : a.AllDelivered)
    (hother : isStructuralPush env = false) :
    (a.forwardPush env).AllDelivered := by
  obtain ⟨events, _, hlog | hlog⟩ := a.emit_fields (.workspaceMessage a.endpoint env)
  · exact h.snoc hlog rfl (by simp [ActorRecord.deliveredPush?, hother])
  · exact h.snoc hlog rfl rfl

/-- A push that finds room is delivered. -/
theorem forwardPush_log {a : EndpointActor}
    (hroom : a.events.accepts = true)
    (env : ServerEnvelope) :
    (a.forwardPush env).log = a.log ++ [.emitted (.workspaceMessage a.endpoint env)] := by
  have hsent := (Mailbox.trySend_of_accepts hroom (.workspaceMessage a.endpoint env)).1
  unfold forwardPush emit
  split
  · rfl
  · rename_i hother
    exact (hother _ (Prod.ext hsent rfl)).elim

/-- A push recorded and handed on. -/
theorem AllDelivered.push {a b : EndpointActor} {env : ServerEnvelope} {due : Bool}
    (h : a.AllDelivered)
    (hroom : a.events.accepts = true)
    (hlog : b.log = a.log ++ [.received env due])
    (hevents : b.events = a.events)
    (hpush : isStructuralPush env = true) :
    (b.forwardPush env).AllDelivered := by
  have hforward := forwardPush_log (a := b) (by rw [hevents]; exact hroom) env
  simp only [AllDelivered, deliveredPushes, receivedPushes, hforward, hlog,
    List.filterMap_append, List.filterMap_cons, List.filterMap_nil, ActorRecord.receivedPush?,
    ActorRecord.deliveredPush?, hpush, if_true, List.append_nil]
  exact congrArg (fun pushes => pushes ++ [env]) h

/-- Nothing that reading does before it hands an envelope on is recorded. -/
theorem untrackTerminated_fields (a : EndpointActor) (payload : ServerPayload) :
    (a.untrackTerminated payload).log = a.log ∧
      (a.untrackTerminated payload).events = a.events := by
  unfold untrackTerminated
  split <;> exact ⟨rfl, rfl⟩

theorem observeInboundPong_fields (a : EndpointActor) (payload : ServerPayload) :
    (a.observeInboundPong payload).2.log = a.log ∧
      (a.observeInboundPong payload).2.events = a.events := by
  unfold observeInboundPong
  split
  · split <;> exact ⟨rfl, rfl⟩
  · exact ⟨rfl, rfl⟩

/-- The main loop hands on every envelope but pongs and overflow notices. -/
theorem handleRuntimeMessage_cases (a : EndpointActor) (env : ServerEnvelope) :
    ((a.handleRuntimeMessage env).log = a.log ∧ isStructuralPush env = false) ∨
      ∃ b : EndpointActor, b.log = a.log ∧ b.events = a.events ∧
        a.handleRuntimeMessage env = b.forwardPush env := by
  obtain ⟨hlog, hevents⟩ := a.observeInboundPong_fields env.payload
  unfold handleRuntimeMessage
  split
  · rename_i b hres
    rw [hres] at hlog
    refine Or.inl ⟨hlog, ?_⟩
    unfold observeInboundPong at hres
    split at hres
    · rename_i nonce hpayload
      simp [isStructuralPush, hpayload]
    · cases hres
  · rename_i b hres
    rw [hres] at hlog hevents
    obtain ⟨hlog', hevents'⟩ :=
      untrackTerminated_fields { b with heartbeat := b.heartbeat.reset } env.payload
    simp only
    split
    · rename_i runtimeId paneId count hpayload
      refine Or.inl ⟨?_, by simp [isStructuralPush, hpayload]⟩
      unfold handleStreamOverflow
      split
      · exact hlog'.trans hlog
      · exact hlog'.trans hlog
    · exact Or.inr ⟨_, hlog'.trans hlog, hevents'.trans hevents, rfl⟩

/-- A read loop hands on every envelope but pongs and the terminations it is
told to expect. -/
theorem readOther_cases (a : EndpointActor) (env : ServerEnvelope) (expectTerminated : Bool) :
    ((a.readOther env expectTerminated).log = a.log ∧
        (isStructuralPush env = false ∨
          expectTerminated = true ∧ ∃ runtimeId revision reason,
            env.payload = .workspaceTerminated runtimeId revision reason)) ∨
      ∃ b : EndpointActor, b.log = a.log ∧ b.events = a.events ∧
        a.readOther env expectTerminated = b.forwardPush env := by
  obtain ⟨hlog, hevents⟩ := a.untrackTerminated_fields env.payload
  unfold readOther
  split
  · rename_i nonce hpayload
    exact Or.inl ⟨(a.observeInboundPong_fields env.payload).1,
      Or.inl (by simp [isStructuralPush, hpayload])⟩
  · rename_i runtimeId revision reason hpayload
    split
    · rename_i hexpect
      exact Or.inl ⟨rfl, Or.inr ⟨hexpect, runtimeId, revision, reason, hpayload⟩⟩
    · exact Or.inr ⟨_, hlog, hevents, rfl⟩
  · exact Or.inr ⟨_, hlog, hevents, rfl⟩

end Laws

section Invariant

variable [UuidText]

theorem AllDelivered.receive {a b : EndpointActor} {env : ServerEnvelope}
    (h : a.AllDelivered)
    (hok : a.deliverable (.receive env) = true)
    (hnext : a.receive env = some b) :
    b.AllDelivered := by
  have hplain : isStructuralPush env = false →
      (a.record (.received env (a.due env))).AllDelivered := by
    intro hother
    exact h.snoc rfl (by simp [ActorRecord.receivedPush?, hother]) rfl
  have hready : isStructuralPush env = true → a.link = .split ∧ a.events.accepts = true := by
    intro hpush
    simp only [deliverable, hpush, Bool.not_true, Bool.false_or, Bool.and_eq_true,
      decide_eq_true_eq] at hok
    exact hok.1
  unfold EndpointActor.receive at hnext
  split at hnext
  · split at hnext
    · rw [Option.some.injEq] at hnext
      subst hnext
      refine AllDelivered.of_log ?_ rfl
      rcases handleRuntimeMessage_cases (a.record (.received env (a.due env))) env with
        ⟨hlog, hother⟩ | ⟨b, hlog, hevents, hres⟩
      · exact (hplain hother).of_log hlog
      · rw [hres]
        cases hpush : isStructuralPush env with
        | false => exact ((hplain hpush).of_log hlog).forward hpush
        | true => exact h.push (hready hpush).2 hlog hevents hpush
    · cases hnext
  · rename_i requestId expectTerminated awaiting hphase
    simp only at hnext
    split at hnext
    · rename_i hid
      rw [Option.some.injEq] at hnext
      subst hnext
      have hother : isStructuralPush env = false := by
        have hne : env.requestId ≠ 0 := hid ▸ requestId.value_ne_zero
        simp [isStructuralPush, hne]
      exact (hplain hother).of_continues (continues_finish _ _ awaiting)
    · split at hnext
      · rw [Option.some.injEq] at hnext
        subst hnext
        rcases readOther_cases (a.record (.received env (a.due env))) env expectTerminated with
          ⟨hlog, hother | ⟨hexpect, runtimeId, revision, reason, hpayload⟩⟩ |
            ⟨b, hlog, hevents, hres⟩
        · exact (hplain hother).of_log hlog
        · cases hpush : isStructuralPush env with
          | false => exact (hplain hpush).of_log hlog
          | true => simp [deliverable, hpush, hphase, hpayload, hexpect] at hok
        · rw [hres]
          cases hpush : isStructuralPush env with
          | false => exact ((hplain hpush).of_log hlog).forward hpush
          | true => exact h.push (hready hpush).2 hlog hevents hpush
      · rename_i hlink
        rw [Option.some.injEq] at hnext
        subst hnext
        refine hplain ?_
        rw [Bool.eq_false_iff]
        intro hpush
        exact hlink (hready hpush).1
  · cases hnext

theorem AllDelivered.readFailed {a b : EndpointActor} {error : DaemonError}
    (h : a.AllDelivered)
    (hnext : a.readFailed error = some b) :
    b.AllDelivered := by
  unfold EndpointActor.readFailed at hnext
  split at hnext
  · split at hnext
    · rw [← Option.some.inj hnext]
      exact h.of_continues (a.continues_handleDisconnect.trans (continues_toIdle _))
    · cases hnext
  · rename_i requestId expectTerminated awaiting hphase
    rw [← Option.some.inj hnext]
    exact h.of_continues (a.continues_finish _ awaiting)
  · cases hnext

/-- **Step lemma.** -/
theorem AllDelivered.next {a b : EndpointActor} {step : ActorStep}
    (h : a.AllDelivered)
    (hok : a.deliverable step = true)
    (hnext : a.next step = some b) :
    b.AllDelivered := by
  cases step with
  | command command =>
      rw [← Option.some.inj hnext]
      exact h.of_log rfl
  | take outcome =>
      simp only [EndpointActor.next] at hnext
      split at hnext
      · rename_i paused command commands hphase hreceive
        rw [← Option.some.inj hnext]
        have hpopped : ({ a with commands := commands } : EndpointActor).AllDelivered :=
          h.of_log rfl
        exact hpopped.of_continues (continues_handleCommand _ outcome command)
      · cases hnext
  | written =>
      simp only [EndpointActor.next] at hnext
      split at hnext
      · rename_i via env after hphase
        split at hnext
        · rw [← Option.some.inj hnext]
          have hsent : (a.record (.sent env)).AllDelivered := h.snoc rfl rfl rfl
          refine hsent.of_log ?_
          unfold wrote
          split <;> rfl
        · cases hnext
      · cases hnext
  | writeFails error =>
      simp only [EndpointActor.next] at hnext
      split at hnext
      · rename_i via env after hphase
        split at hnext
        · rw [← Option.some.inj hnext]
          exact h.of_continues (a.continues_writeFailed error after)
        · cases hnext
      · cases hnext
  | receive env => exact h.receive hok hnext
  | readFails error => exact h.readFailed hnext
  | peerCloses =>
      simp only [EndpointActor.next, Option.ite_none_left_eq_some, Option.some.injEq] at hnext
      obtain ⟨_, rfl⟩ := hnext
      have hreceived : ActorRecord.closed.receivedPush? = none := rfl
      exact h.snoc rfl hreceived rfl
  | endOfStream =>
      simp only [EndpointActor.next, Option.ite_none_right_eq_some] at hnext
      exact h.readFailed hnext.2
  | handshakeTimeout =>
      obtain ⟨workspaceId, _, rfl⟩ := Option.map_eq_some_iff.mp hnext
      exact h.of_continues
        (a.continues_closeLink.trans (a.continues_handshakeTimedOut workspaceId))
  | heartbeatTick =>
      simp only [EndpointActor.next, Option.ite_none_right_eq_some, Option.some.injEq] at hnext
      obtain ⟨_, rfl⟩ := hnext
      exact h.of_continues a.continues_handleHeartbeatTick
  | pausePoll =>
      simp only [EndpointActor.next, Option.ite_none_right_eq_some, Option.some.injEq] at hnext
      obtain ⟨_, rfl⟩ := hnext
      exact h.of_log rfl
  | timerFires delaySecs =>
      simp only [EndpointActor.next, Option.ite_none_right_eq_some, Option.some.injEq] at hnext
      obtain ⟨_, rfl⟩ := hnext
      exact h.of_log rfl
  | drain =>
      obtain ⟨⟨event, events⟩, _, rfl⟩ := Option.map_eq_some_iff.mp hnext
      exact h.of_log rfl
  | watermark =>
      rw [← Option.some.inj hnext]
      refine h.of_log ?_
      unfold checkWatermark
      simp only
      split
      · rfl
      · split <;> rfl
  | otherEvent event =>
      rw [← Option.some.inj hnext]
      exact h.of_log rfl
  | reorder tracked =>
      simp only [EndpointActor.next, Option.ite_none_right_eq_some, Option.some.injEq] at hnext
      obtain ⟨_, rfl⟩ := hnext
      exact h.of_log rfl

/-- **Pushes are delivered** once and in order in runs in which none is lost. -/
theorem pushes_delivered {a : EndpointActor}
    (h : system.ReachableUnder (fun a step => a.deliverable step = true) a) :
    a.AllDelivered := by
  refine h.invariant ?_ (fun _ _ _ hall hok hnext => hall.next hok hnext)
  rintro a ⟨endpoint, reconnectDelaySecs, rfl⟩
  rfl

end Invariant

section Runs

/-- The workspace is renamed by another client. -/
def renamedPush : ServerEnvelope :=
  ⟨0, .workspaceRenamed 7 "new" 2 true⟩

def terminatedPush : ServerEnvelope :=
  ⟨0, .workspaceTerminated 7 2 .explicit⟩

/-- A rename and a termination come in through the main loop. -/
def deliveredRun : List ActorStep :=
  opening ++ [.receive renamedPush, .drain, .receive terminatedPush]

/-- The theorem at the end of that run: both were handed on. -/
theorem pushes_delivered_deliveredRun :
    ∃ a : EndpointActor,
      a.receivedPushes = [renamedPush, terminatedPush] ∧ a.AllDelivered := by
  obtain ⟨a, hreach, hreceived⟩ := System.exists_reachableUnder deliverable deliveredRun
    (p := fun a => a.receivedPushes = [renamedPush, terminatedPush]) startActor_init
    (by decide +kernel)
  exact ⟨a, hreceived, pushes_delivered hreach⟩

/-- The termination comes in while the detach of another workspace is awaited. -/
def skippedTermination : List ActorStep :=
  opening ++ [.command (.detachWorkspace "v" (uuidToString 8)), .take (.ok ()), .written,
    .receive terminatedPush, .receive ⟨1, .workspaceDetached 8 3⟩]

/-- A rename comes in before the response to the first attach, on the
connection that is not split yet. -/
def skippedRename : List ActorStep :=
  opening.take 5 ++ [.receive renamedPush] ++ opening.drop 5

/-- The window has taken every event of the opening. -/
def drainedRun : List ActorStep :=
  opening ++ List.replicate 5 .drain

theorem drainedRun_runs : (system.exec startActor drainedRun).isSome = true := by
  decide +kernel

def drained : EndpointActor :=
  (system.exec startActor drainedRun).get drainedRun_runs

/-- An event of another actor. -/
def foreignEvent : ActorEvent :=
  .workspaceDetached "v" "8"

/-- The event channel with `n` events of other actors. -/
def crowded (n : Nat) (h : n ≤ eventChannelBound) : EndpointActor :=
  { drained with events :=
      ⟨eventChannelBound, List.replicate n foreignEvent, by rw [List.length_replicate]; exact h,
        true⟩ }

theorem crowded_next {n : Nat} (h : n + 1 ≤ eventChannelBound) :
    (crowded n (by omega)).next (.otherEvent foreignEvent) = some (crowded (n + 1) h) := by
  have hroom : n < eventChannelBound := by omega
  simp [next, crowded, Mailbox.trySend, hroom, List.replicate_succ']

/-- The event channel can fill up. -/
theorem crowded_reachable {n : Nat} (h : n ≤ eventChannelBound) :
    system.Reachable (crowded n h) := by
  induction n with
  | zero =>
      have hempty : drained.events = .empty eventChannelBound := by decide +kernel
      have hsame : crowded 0 h = drained :=
        calc crowded 0 h = { drained with events := .empty eventChannelBound } := rfl
          _ = { drained with events := drained.events } := by rw [hempty]
          _ = drained := rfl
      rw [hsame]
      exact System.reachable_get startActor_init drainedRun_runs
  | succ n ih =>
      exact System.Reachable.next (a := .otherEvent foreignEvent) (ih (by omega)) (crowded_next h)

theorem forwardPush_full {a : EndpointActor}
    (hfull : a.events.overflows = true)
    (env : ServerEnvelope) :
    (a.forwardPush env).log = a.log ++ [.dropped (.workspaceMessage a.endpoint env)] := by
  simp only [forwardPush, emit, Mailbox.trySend_of_overflows hfull, record]

/-- A push was received and not handed on, and no resync of a workspace was. -/
def PushLost (a : EndpointActor) (env : ServerEnvelope) : Prop :=
  env ∈ a.receivedPushes ∧ env ∉ a.deliveredPushes ∧
    a.log.all (fun
      | .emitted (.workspaceResynced _ _ _) => false
      | _ => true) = true

instance (a : EndpointActor) (env : ServerEnvelope) : Decidable (a.PushLost env) :=
  inferInstanceAs (Decidable (_ ∧ _ ∧ _))

theorem PushLost.not_delivered {a : EndpointActor} {env : ServerEnvelope}
    (h : a.PushLost env) :
    ¬ a.AllDelivered := by
  obtain ⟨hreceived, hdelivered, _⟩ := h
  intro hall
  rw [AllDelivered] at hall
  rw [hall] at hdelivered
  exact hdelivered hreceived

/-- With no slot left a push is lost in the main loop too. -/
theorem crowded_loses :
    ∃ b, (crowded eventChannelBound (Nat.le_refl _)).next (.receive renamedPush) = some b ∧
      b.PushLost renamedPush := by
  have hphase : (crowded eventChannelBound (Nat.le_refl _)).phase = .idle false := by
    show drained.phase = _
    decide +kernel
  have hlink : (crowded eventChannelBound (Nat.le_refl _)).link = .split := by
    show drained.link = _
    decide +kernel
  have hfull : (crowded eventChannelBound (Nat.le_refl _)).events.overflows = true := by
    simp [crowded, Mailbox.overflows]
  generalize hcrowded : crowded eventChannelBound (Nat.le_refl _) = a at hphase hlink hfull ⊢
  refine ⟨_, by rw [next, receive, hphase]; exact if_pos hlink, ?_⟩
  rcases handleRuntimeMessage_cases (a.record (.received renamedPush (a.due renamedPush)))
    renamedPush with ⟨_, hother⟩ | ⟨b, hlog, hevents, hres⟩
  · cases hother
  · have hdropped := forwardPush_full (a := b) (by rw [hevents]; exact hfull) renamedPush
    have hstart : a.log = drained.log := by rw [← hcrowded]; rfl
    have hdelivered : drained.log.filterMap ActorRecord.deliveredPush? = [] := by decide +kernel
    have hresynced : drained.log.all (fun
        | .emitted (.workspaceResynced _ _ _) => false
        | _ => true) = true := by
      decide +kernel
    have hend : (((a.record (.received renamedPush (a.due renamedPush))).handleRuntimeMessage
        renamedPush).toIdle).log = drained.log ++ [.received renamedPush (a.due renamedPush)] ++
          [.dropped (.workspaceMessage b.endpoint renamedPush)] := by
      show ((a.record _).handleRuntimeMessage renamedPush).log = _
      rw [hres, hdropped, hlog, ← hstart]
      rfl
    refine ⟨?_, ?_, ?_⟩
    · rw [receivedPushes, hend]
      simp [ActorRecord.receivedPush?, isStructuralPush, renamedPush]
    · rw [deliveredPushes, hend]
      simp [hdelivered, ActorRecord.deliveredPush?]
    · rw [hend, List.all_append, List.all_append, hresynced]
      rfl

/-- **A push is lost** when the termination of one workspace comes in while the
detach of another is awaited, when it comes in on a connection that is not split
yet, and when the event channel is full. -/
theorem push_lost :
    (∃ a, system.Reachable a ∧ a.PushLost terminatedPush ∧ ¬ a.AllDelivered) ∧
      (∃ a, system.Reachable a ∧ a.PushLost renamedPush ∧ ¬ a.AllDelivered) ∧
      ∃ a b, system.Reachable a ∧ a.next (.receive renamedPush) = some b ∧
        b.PushLost renamedPush ∧ ¬ b.AllDelivered := by
  refine ⟨?_, ?_, ?_⟩
  · obtain ⟨a, hreach, hlost⟩ := System.exists_reachable skippedTermination
      (p := fun a => a.PushLost terminatedPush) startActor_init (by decide +kernel)
    exact ⟨a, hreach, hlost, hlost.not_delivered⟩
  · obtain ⟨a, hreach, hlost⟩ := System.exists_reachable skippedRename
      (p := fun a => a.PushLost renamedPush) startActor_init (by decide +kernel)
    exact ⟨a, hreach, hlost, hlost.not_delivered⟩
  · obtain ⟨b, hnext, hlost⟩ := crowded_loses
    exact ⟨_, b, crowded_reachable (Nat.le_refl _), hnext, hlost, hlost.not_delivered⟩

end Runs

end EndpointActor

end Client
end Rttx
