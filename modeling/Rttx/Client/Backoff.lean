import Rttx.Client.FailureCounts

/-!
# Backoff and circuit breaker

Each failure of the connection in a row is to wait longer than the one before,
up to the configured delay, and after a limit no more reconnects are scheduled.
A reconnect goes on counting when a workspace cannot be reattached.  When it is
the connection that is refused, the failure is counted from zero, and the
attempt that was saved is put back over it.

**Results.**
* `backsOff_iff`: in all runs, failures in a row are counted, delayed and given
  up as intended, and a success ends the row, as long as no reconnect with a
  positive attempt is refused for a while, no workspace is missing when a
  reattach fails, and the counter is not at its largest value when a failure is
  counted; the step that breaks this is the one that goes wrong.
* `reconnect_repeats_attempt`: a refused reconnect leaves the attempt as it was.
-/

namespace Rttx
namespace Client

open Kernel Server

namespace EndpointActor

section Backoff

variable [UuidText]

/-- The delay after the given number of failures in a row; a reconnect that is
refused for good waits for the longest one. -/
def delayAfter (a : EndpointActor) (step : ActorStep) (failures : Nat) : Nat :=
  if (a.reconnects? step).any fun outcome => !outcome.isOk && !transient outcome then
    a.reconnectDelaySecs
  else
    min failures a.reconnectDelaySecs

/-- The number of failures in a row after the step. -/
def failuresAfter (a : EndpointActor) (failures : Nat) (step : ActorStep) : Nat :=
  if a.restoresConnection step then 0
  else if a.connectionFails step then failures + 1
  else failures

/-- The actor beside the number of failures in a row. -/
def failureSystem : System (EndpointActor × Nat) ActorStep where
  init := fun s => system.init s.1 ∧ s.2 = 0
  next := fun s step =>
    (s.1.next step).map fun b => (b, s.1.failuresAfter s.2 step)

/-- What a step is to do after so many failures in a row. -/
structure BacksOff (a : EndpointActor) (failures : Nat) (step : ActorStep) (b : EndpointActor) :
    Prop where
  counted : a.reconnectAttempt = failures
  increases : a.connectionFails step = true → a.reconnectAttempt < b.reconnectAttempt
  counts : a.connectionFails step = true → b.reconnectAttempt = failures + 1
  delays : a.connectionFails step = true → failures + 1 ≤ a.circuitBreakerLimit →
    b.timers = a.delayAfter step (failures + 1) :: a.timers
  givesUp : a.connectionFails step = true → a.circuitBreakerLimit < failures + 1 →
    b.timers = a.timers
  restores : a.restoresConnection step = true → b.reconnectAttempt = 0
  schedules : a.connectionFails step = false → b.timers.Sublist a.timers

/-- Whether the step goes on with the backoff: no reconnect with a positive
attempt is refused for a while, workspaces are tracked when a reattach fails,
and a failure can be counted. -/
def rampsUp (a : EndpointActor) (step : ActorStep) : Bool :=
  !((a.reconnects? step).any transient && 0 < a.reconnectAttempt) &&
    !(a.reattachFails step && a.trackedWorkspaces.keys = []) &&
    !(a.connectionFails step && 2 ^ 32 - 1 ≤ a.reconnectAttempt)

end Backoff

section Steps

variable [UuidText]
variable {a b : EndpointActor}

/-- The delay of a reconnect after the next failure. -/
def nextDelay (a : EndpointActor) (step : ActorStep) : Nat :=
  if (a.reconnects? step).any fun outcome => !outcome.isOk && !transient outcome then
    a.reconnectDelaySecs
  else
    a.nextReconnectDelaySecs

/-- A response to whatever request was made. -/
theorem advances_finish {result : Except DaemonError ServerPayload} {awaiting : Awaiting}
    (hinv : a.Tallies)
    (hsame : a.SameRetry b)
    (hphase : awaiting? a.phase = some awaiting)
    (htracked : failsReconnect result awaiting = true → a.trackedWorkspaces.keys ≠ []) :
    a.Advances (b.finish result awaiting) a.nextReconnectDelaySecs
      (failsReconnect result awaiting ||
        (endsConnection result awaiting && decide (a.trackedWorkspaces.keys ≠ [])))
      (standsAfter result awaiting) := by
  rw [← hsame.keeps.nextReconnectDelaySecs]
  refine hsame.keeps.trans_advances ?_
  rw [← hsame.tracked] at htracked ⊢
  cases awaiting with
  | reattach workspaceId runtimeId rest anyTransientFailure savedAttempt =>
      have hattempt : b.reconnectAttempt = savedAttempt :=
        hsame.attempt.trans (hinv savedAttempt (by rw [reattaching?, hphase]; rfl))
      rw [endsConnection, Bool.false_and, Bool.or_false]
      exact advances_finish_reattach hattempt htracked
  | _ => exact (handles_finish rfl).advances

theorem advances_of_result {step : ActorStep} {result : Except DaemonError ServerPayload}
    {awaiting : Awaiting}
    (hinv : a.Tallies)
    (htracked : a.reattachFails step = true → a.trackedWorkspaces.keys ≠ [])
    (hresult : a.result? step = some (result, awaiting))
    (hnext : a.next step = some b) :
    a.Advances b (a.nextDelay step) (a.connectionFails step) (a.restoresConnection step) := by
  obtain ⟨hphase, c, hsame, rfl⟩ := next_result hresult hnext
  have hreconnects : a.reconnects? step = none := by
    cases step with
    | take outcome => cases hresult
    | _ => rfl
  have hfails : a.connectionFails step = (failsReconnect result awaiting ||
      (endsConnection result awaiting && decide (a.trackedWorkspaces.keys ≠ []))) := by
    cases step with
    | take outcome => cases hresult
    | handshakeTimeout => cases hresult
    | _ => simp only [connectionFails, hreconnects, reattachFails, losesConnection, hresult]
  have hrestores : a.restoresConnection step = standsAfter result awaiting := by
    simp only [restoresConnection, hreconnects, hresult]
  rw [hfails, hrestores, nextDelay, hreconnects]
  refine advances_finish hinv hsame hphase (fun hfailed => htracked ?_)
  simp only [reattachFails, hresult, hfailed]

/-- A step with no response to a request that is neither a command taken nor
the end of an opening. -/
theorem flags_of_no_result {step : ActorStep}
    (htake : ∀ outcome, step ≠ .take outcome)
    (htimeout : step ≠ .handshakeTimeout)
    (hresult : a.result? step = none) :
    a.nextDelay step = a.nextReconnectDelaySecs ∧ a.restoresConnection step = false ∧
      a.connectionFails step =
        (a.losesConnection step && decide (a.trackedWorkspaces.keys ≠ [])) := by
  have hreconnects : a.reconnects? step = none := by
    cases step with
    | take outcome => exact absurd rfl (htake outcome)
    | _ => rfl
  refine ⟨by rw [nextDelay, hreconnects]; rfl, ?_, ?_⟩
  · simp only [restoresConnection, hreconnects, hresult]
  · cases step with
    | take outcome => exact absurd rfl (htake outcome)
    | handshakeTimeout => exact absurd rfl htimeout
    | _ => simp only [connectionFails, hreconnects, reattachFails, hresult, Bool.false_or]

omit [UuidText] in
/-- The connection is lost in the main loop. -/
theorem advances_handleDisconnect :
    a.Advances a.handleDisconnect.toIdle a.nextReconnectDelaySecs
      (decide (a.trackedWorkspaces.keys ≠ [])) false :=
  a.counted_handleDisconnect.toIdle.advances

/-- A command is taken that is no reconnect with workspaces to serve. -/
theorem flags_of_take {outcome : Except DaemonError Unit} {paused : Bool}
    {command : EndpointCommand} {commands : Mailbox EndpointCommand}
    (hphase : a.phase = .idle paused)
    (hreceive : a.commands.receive = some (command, commands))
    (hreconnects : a.reconnects? (.take outcome) = none) :
    a.nextDelay (.take outcome) = a.nextReconnectDelaySecs ∧
      a.restoresConnection (.take outcome) = false ∧
      a.connectionFails (.take outcome) = a.refuses outcome command := by
  refine ⟨by rw [nextDelay, hreconnects]; rfl, ?_, ?_⟩
  · simp only [restoresConnection, hreconnects, result?]
  · simp only [connectionFails, hreconnects, hphase, hreceive]

theorem advances_take {outcome : Except DaemonError Unit}
    (hrefused : (a.reconnects? (.take outcome)).any transient = true → a.reconnectAttempt = 0)
    (hnext : a.next (.take outcome) = some b) :
    a.Advances b (a.nextDelay (.take outcome)) (a.connectionFails (.take outcome))
      (a.restoresConnection (.take outcome)) := by
  simp only [EndpointActor.next] at hnext
  split at hnext
  · rename_i paused command commands hphase hreceive
    rw [Option.some.injEq] at hnext
    subst hnext
    have htaken : a.Keeps { a with commands := commands } := ⟨rfl, rfl, rfl⟩
    by_cases hcommand : command = .reconnect
    · subst hcommand
      by_cases hserves : a.link = .none ∧ a.trackedWorkspaces.keys ≠ []
      · have hreconnects : a.reconnects? (.take outcome) = some outcome := by
          simp only [reconnects?, hphase, hreceive, if_pos hserves]
        simp only [nextDelay, connectionFails, restoresConnection, hreconnects,
          Option.any_some] at hrefused ⊢
        cases outcome with
        | ok _ => exact htaken.trans_advances (advances_reconnect_ok hserves.1 hserves.2)
        | error error =>
            cases htransient : (classifyConnectionProblem error).isTransient with
            | true =>
                have hzero := hrefused htransient
                simp only [transient, htransient, Bool.not_true, Bool.and_false]
                exact htaken.trans_advances (advances_reconnect_transient
                  (a := { a with commands := commands }) hserves.1 hserves.2 hzero htransient)
            | false =>
                simp only [transient, htransient]
                exact htaken.trans_advances (advances_reconnect_permanent
                  (a := { a with commands := commands }) hserves.1 hserves.2 htransient)
      · have hreconnects : a.reconnects? (.take outcome) = none := by
          simp only [reconnects?, hphase, hreceive, if_neg hserves]
        have hidle : ({ a with commands := commands } : EndpointActor).handleCommand outcome
            .reconnect = ({ a with commands := commands } : EndpointActor).toIdle := by
          rw [handleCommand, reconnect]
          split
          · rfl
          · rename_i hlink
            have hnone : a.trackedWorkspaces.keys = [] :=
              not_not.mp (fun htracked => hserves ⟨not_not.mp hlink, htracked⟩)
            have hentries : a.trackedWorkspaces.entries = [] := List.map_eq_nil_iff.mp hnone
            simp only [hentries]
        obtain ⟨hdelay, hrestores, hfails⟩ := flags_of_take hphase hreceive hreconnects
        have hquiet : a.refuses outcome .reconnect = false := by
          simp only [refuses, connectsFor, Bool.and_false, Bool.false_and]
        rw [hdelay, hrestores, hfails, hidle, hquiet]
        exact htaken.toIdle.advances
    · have hreconnects : a.reconnects? (.take outcome) = none := by
        cases command with
        | reconnect => exact absurd rfl hcommand
        | _ => simp only [reconnects?, hphase, hreceive]
      obtain ⟨hdelay, hrestores, hfails⟩ := flags_of_take hphase hreceive hreconnects
      rw [hdelay, hrestores, hfails]
      exact htaken.trans_advances (handles_handleCommand
        (a := { a with commands := commands }) hcommand).advances
  · cases hnext

theorem advances_receive {env : ServerEnvelope}
    (hinv : a.Tallies)
    (htracked : a.reattachFails (.receive env) = true → a.trackedWorkspaces.keys ≠ [])
    (hnext : a.next (.receive env) = some b) :
    a.Advances b (a.nextDelay (.receive env)) (a.connectionFails (.receive env))
      (a.restoresConnection (.receive env)) := by
  cases hresult : a.result? (.receive env) with
  | some found =>
      obtain ⟨result, awaiting⟩ := found
      exact advances_of_result hinv htracked hresult hnext
  | none =>
      obtain ⟨hdelay, hrestores, hfails⟩ := flags_of_no_result
        (fun outcome htake => by cases htake) (fun htimeout => by cases htimeout) hresult
      have hstands : a.losesConnection (.receive env) = false := by
        simp only [losesConnection, hresult]
      rw [hdelay, hrestores, hfails, hstands, Bool.false_and]
      have hrecord : a.Keeps (a.record (.received env (a.due env))) := ⟨rfl, rfl, rfl⟩
      simp only [EndpointActor.next, EndpointActor.receive] at hnext
      split at hnext
      · split at hnext
        · rw [Option.some.injEq] at hnext
          subst hnext
          exact (hrecord.trans (keeps_handleRuntimeMessage _ env)).toIdle.advances
        · cases hnext
      · rename_i requestId expectTerminated awaiting hphase
        split at hnext
        · rename_i hid
          simp [result?, hphase, hid] at hresult
        · split at hnext
          · rw [Option.some.injEq] at hnext
            subst hnext
            refine (hrecord.trans (keeps_readOther _ env expectTerminated)).advances hinv ?_
            rw [reattaching?, (readsRetry_readOther _ env expectTerminated).phase]
            rfl
          · rw [Option.some.injEq] at hnext
            subst hnext
            exact hrecord.advances hinv rfl
      · cases hnext

theorem advances_writeFails {error : DaemonError}
    (hinv : a.Tallies)
    (htracked : a.reattachFails (.writeFails error) = true → a.trackedWorkspaces.keys ≠ [])
    (hnext : a.next (.writeFails error) = some b) :
    a.Advances b (a.nextDelay (.writeFails error)) (a.connectionFails (.writeFails error))
      (a.restoresConnection (.writeFails error)) := by
  cases hresult : a.result? (.writeFails error) with
  | some found =>
      obtain ⟨result, awaiting⟩ := found
      exact advances_of_result hinv htracked hresult hnext
  | none =>
      obtain ⟨hdelay, hrestores, hfails⟩ := flags_of_no_result
        (fun outcome htake => by cases htake) (fun htimeout => by cases htimeout) hresult
      rw [hdelay, hrestores, hfails]
      simp only [EndpointActor.next] at hnext
      split at hnext
      · rename_i via env after hphase
        rw [Option.ite_none_right_eq_some, Option.some.injEq] at hnext
        obtain ⟨_, rfl⟩ := hnext
        simp only [losesConnection, hresult, hphase]
        cases after with
        | ignore => exact (Keeps.refl a).toIdle.advances
        | report workspaceId operation =>
            exact (a.handles_handleCommandError workspaceId operation error).advances
        | heartbeat => exact advances_handleDisconnect
        | await requestId expectTerminated awaiting => simp [result?, hphase] at hresult
      · cases hnext

/-- A read fails in the main loop. -/
theorem advances_readFailed {step : ActorStep} {error : DaemonError}
    (hstep : step = .readFails error ∨ step = .endOfStream)
    (hresult : a.result? step = none)
    (hnext : a.readFailed error = some b) :
    a.Advances b (a.nextDelay step) (a.connectionFails step) (a.restoresConnection step) := by
  obtain ⟨hdelay, hrestores, hfails⟩ := flags_of_no_result
    (fun outcome htake => by rcases hstep with rfl | rfl <;> cases htake)
    (fun htimeout => by rcases hstep with rfl | rfl <;> cases htimeout) hresult
  have hloses : a.losesConnection step = true := by
    rcases hstep with rfl | rfl <;> simp only [losesConnection, hresult]
  rw [hdelay, hrestores, hfails, hloses, Bool.true_and]
  simp only [EndpointActor.readFailed] at hnext
  split at hnext
  · split at hnext
    · rw [Option.some.injEq] at hnext
      subst hnext
      exact advances_handleDisconnect
    · cases hnext
  · rename_i requestId expectTerminated awaiting hphase
    rcases hstep with rfl | rfl <;> simp [result?, hphase] at hresult
  · cases hnext

theorem advances_written
    (hinv : a.Tallies)
    (hnext : a.next .written = some b) :
    a.Advances b (a.nextDelay .written) (a.connectionFails .written)
      (a.restoresConnection .written) := by
  simp only [EndpointActor.next] at hnext
  split at hnext
  · rename_i via env after hphase
    rw [Option.ite_none_right_eq_some, Option.some.injEq] at hnext
    obtain ⟨_, rfl⟩ := hnext
    have hrecord : a.Keeps (a.record (.sent env)) := ⟨rfl, rfl, rfl⟩
    cases after with
    | await requestId expectTerminated awaiting =>
        refine Keeps.advances ⟨rfl, rfl, rfl⟩ hinv ?_
        rw [reattaching?, reattaching?, hphase]
        rfl
    | _ => exact hrecord.toIdle.advances
  · cases hnext

omit [UuidText] in
theorem schedules_handshakeTimedOut (a : EndpointActor) (workspaceId : String) :
    a.Schedules a.nextReconnectDelaySecs (a.handshakeTimedOut workspaceId) := by
  have hclosed : a.Keeps a.closeLink := ⟨rfl, rfl, rfl⟩
  have hlost := hclosed.trans (a.closeLink.sameRetry_emitStatus workspaceId .disconnected).keeps
  simp only [handshakeTimedOut]
  generalize a.closeLink.emitStatus workspaceId .disconnected = b at hlost ⊢
  have hreported := (b.sameRetry_emitStatus workspaceId
    (.reconnecting b.nextReconnectAttempt b.nextReconnectDelaySecs)).keeps
  rw [← hlost.nextReconnectDelaySecs]
  have hscheduled := hlost.schedules (hreported.schedules
    (schedules_scheduleReconnect _ b.nextReconnectDelaySecs))
  exact (hscheduled.keeps (sameRetry_emitError _ _ _ _ _).keeps).keeps (keeps_toIdle _)

theorem advances_handshakeTimeout
    (hnext : a.next .handshakeTimeout = some b) :
    a.Advances b (a.nextDelay .handshakeTimeout) (a.connectionFails .handshakeTimeout)
      (a.restoresConnection .handshakeTimeout) := by
  obtain ⟨workspaceId, _, rfl⟩ := Option.map_eq_some_iff.mp hnext
  exact .scheduled (a.schedules_handshakeTimedOut workspaceId) rfl

theorem advances_heartbeatTick
    (hnext : a.next .heartbeatTick = some b) :
    a.Advances b (a.nextDelay .heartbeatTick) (a.connectionFails .heartbeatTick)
      (a.restoresConnection .heartbeatTick) := by
  have hresult : a.result? .heartbeatTick = none := rfl
  obtain ⟨hdelay, hrestores, hfails⟩ := flags_of_no_result
    (fun outcome htake => by cases htake) (fun htimeout => by cases htimeout) hresult
  rw [hdelay, hrestores, hfails]
  simp only [EndpointActor.next, Option.ite_none_right_eq_some, Option.some.injEq] at hnext
  obtain ⟨_, rfl⟩ := hnext
  have hticked : a.Keeps { a with heartbeat := a.heartbeat.onTick.2 } := ⟨rfl, rfl, rfl⟩
  simp only [losesConnection, result?, handleHeartbeatTick]
  split
  · rename_i nonce haction
    have hstands : decide (HeartbeatAction.sendPing nonce = .declareLost) = false := rfl
    rw [haction, hstands, Bool.false_and]
    have hgenerated : ∀ idGen, a.Keeps
        { a with heartbeat := a.heartbeat.onTick.2, idGen := idGen } := fun _ => ⟨rfl, rfl, rfl⟩
    exact (hgenerated _).trans_advances (handles_sendMessage _ rfl).advances
  · rename_i haction
    rw [haction]
    exact hticked.trans_advances advances_handleDisconnect

/-- **Step lemma.** -/
theorem advances_next {step : ActorStep}
    (hinv : a.Tallies)
    (hrefused : (a.reconnects? step).any transient = true → a.reconnectAttempt = 0)
    (htracked : a.reattachFails step = true → a.trackedWorkspaces.keys ≠ [])
    (hnext : a.next step = some b) :
    a.Advances b (a.nextDelay step) (a.connectionFails step) (a.restoresConnection step) := by
  cases step with
  | command command =>
      rw [← Option.some.inj hnext]
      exact (a.sameRetry_trySelf command).keeps.advances hinv rfl
  | take outcome => exact advances_take hrefused hnext
  | written => exact advances_written hinv hnext
  | writeFails error => exact advances_writeFails hinv htracked hnext
  | receive env => exact advances_receive hinv htracked hnext
  | readFails error =>
      cases hresult : a.result? (.readFails error) with
      | some found => exact advances_of_result hinv htracked hresult hnext
      | none => exact advances_readFailed (Or.inl rfl) hresult hnext
  | peerCloses =>
      simp only [EndpointActor.next, Option.ite_none_left_eq_some, Option.some.injEq] at hnext
      obtain ⟨_, rfl⟩ := hnext
      exact Keeps.advances ⟨rfl, rfl, rfl⟩ hinv rfl
  | endOfStream =>
      cases hresult : a.result? .endOfStream with
      | some found => exact advances_of_result hinv htracked hresult hnext
      | none =>
          simp only [EndpointActor.next, Option.ite_none_right_eq_some] at hnext
          have hstep : ActorStep.endOfStream = .readFails .disconnected ∨
              ActorStep.endOfStream = .endOfStream := Or.inr rfl
          exact advances_readFailed hstep hresult hnext.2
  | handshakeTimeout => exact advances_handshakeTimeout hnext
  | heartbeatTick => exact advances_heartbeatTick hnext
  | pausePoll =>
      simp only [EndpointActor.next, Option.ite_none_right_eq_some, Option.some.injEq] at hnext
      obtain ⟨_, rfl⟩ := hnext
      exact (Keeps.refl a).toIdle.advances
  | timerFires delaySecs =>
      simp only [EndpointActor.next, Option.ite_none_right_eq_some, Option.some.injEq] at hnext
      obtain ⟨_, rfl⟩ := hnext
      exact .kept rfl List.erase_sublist hinv
  | drain =>
      obtain ⟨⟨event, events⟩, _, rfl⟩ := Option.map_eq_some_iff.mp hnext
      exact Keeps.advances ⟨rfl, rfl, rfl⟩ hinv rfl
  | watermark =>
      rw [← Option.some.inj hnext]
      unfold checkWatermark
      simp only
      split
      · exact Keeps.advances ⟨rfl, rfl, rfl⟩ hinv rfl
      · split
        · exact Keeps.advances ⟨rfl, rfl, rfl⟩ hinv rfl
        · exact (Keeps.refl a).advances hinv rfl
  | otherEvent event =>
      rw [← Option.some.inj hnext]
      exact Keeps.advances ⟨rfl, rfl, rfl⟩ hinv rfl
  | reorder tracked =>
      simp only [EndpointActor.next, Option.ite_none_right_eq_some, Option.some.injEq] at hnext
      obtain ⟨_, rfl⟩ := hnext
      exact Keeps.advances ⟨rfl, rfl, rfl⟩ hinv rfl

theorem rampsUp_iff {step : ActorStep} :
    a.rampsUp step = true ↔
      ((a.reconnects? step).any transient = true → a.reconnectAttempt = 0) ∧
      (a.reattachFails step = true → a.trackedWorkspaces.keys ≠ []) ∧
      (a.connectionFails step = true → a.reconnectAttempt < 2 ^ 32 - 1) := by
  simp only [rampsUp, Bool.and_eq_true, Bool.not_eq_true', Bool.and_eq_false_imp,
    decide_eq_false_iff_not, Nat.not_lt, Nat.le_zero, Nat.not_le, and_assoc]

/-- A step that goes on with the count does what it is to do. -/
theorem backsOff_of_advances {step : ActorStep} {failures : Nat}
    (hcounted : a.reconnectAttempt = failures)
    (hroom : a.connectionFails step = true → a.reconnectAttempt < 2 ^ 32 - 1)
    (h : a.Advances b (a.nextDelay step) (a.connectionFails step) (a.restoresConnection step)) :
    a.BacksOff failures step b := by
  generalize hfails : a.connectionFails step = fails at h hroom
  generalize hrestores : a.restoresConnection step = restores at h
  have hnever : fails = false → a.connectionFails step ≠ true := by
    intro hfalse htrue
    rw [hfails, hfalse] at htrue
    cases htrue
  cases h with
  | kept attempt timers tallies =>
      refine ⟨hcounted, fun h => absurd h (hnever rfl), fun h => absurd h (hnever rfl),
        fun h => absurd h (hnever rfl), fun h => absurd h (hnever rfl), ?_, fun _ => timers⟩
      intro h
      rw [hrestores] at h
      cases h
  | scheduled schedules settled =>
      have hnext : a.nextReconnectAttempt = failures + 1 := by
        have hbelow := hroom rfl
        rw [nextReconnectAttempt]
        omega
      have hattempt : b.reconnectAttempt = failures + 1 := schedules.attempt.trans hnext
      have hdelay : a.nextDelay step = a.delayAfter step (failures + 1) := by
        rw [nextDelay, delayAfter, nextReconnectDelaySecs, hnext]
      have htimers := schedules.timers
      rw [hnext, hdelay] at htimers
      refine ⟨hcounted, fun _ => ?_, fun _ => hattempt, fun _ hle => ?_, fun _ hover => ?_, ?_, ?_⟩
      · rw [hattempt, hcounted]
        exact Nat.lt_succ_self failures
      · rw [htimers, if_pos hle]
      · rw [htimers, if_neg (Nat.not_le.mpr hover)]
      · intro h
        rw [hrestores] at h
        cases h
      · intro h
        rw [hfails] at h
        cases h
  | restored attempt timers settled =>
      exact ⟨hcounted, fun h => absurd h (hnever rfl), fun h => absurd h (hnever rfl),
        fun h => absurd h (hnever rfl), fun h => absurd h (hnever rfl), fun _ => attempt,
        fun _ => timers ▸ List.Sublist.refl _⟩

theorem Advances.failuresAfter {step : ActorStep} {failures : Nat}
    (hcounted : a.reconnectAttempt = failures)
    (hroom : a.connectionFails step = true → a.reconnectAttempt < 2 ^ 32 - 1)
    (h : a.Advances b (a.nextDelay step) (a.connectionFails step) (a.restoresConnection step)) :
    b.reconnectAttempt = a.failuresAfter failures step := by
  unfold EndpointActor.failuresAfter
  generalize a.connectionFails step = fails at h hroom
  generalize a.restoresConnection step = restores at h
  cases h with
  | kept attempt timers tallies => exact attempt.trans hcounted
  | scheduled schedules settled =>
      have hbelow := hroom rfl
      rw [schedules.attempt, nextReconnectAttempt]
      simp only [Bool.false_eq_true, if_false, if_true]
      omega
  | restored attempt timers settled => exact attempt

end Steps

section Exactness

variable {a b : EndpointActor}

theorem reconnects?_eq_some {step : ActorStep} {outcome : Except DaemonError Unit}
    (h : a.reconnects? step = some outcome) :
    step = .take outcome ∧ a.link = .none ∧ a.trackedWorkspaces.keys ≠ [] ∧
      ∃ paused commands, a.phase = .idle paused ∧
        a.commands.receive = some (.reconnect, commands) := by
  cases step with
  | take outcome' =>
      simp only [reconnects?] at h
      split at h
      · rename_i paused commands hphase hreceive
        rw [Option.ite_none_right_eq_some, Option.some.injEq] at h
        obtain ⟨⟨hlink, htracked⟩, rfl⟩ := h
        exact ⟨rfl, hlink, htracked, paused, commands, hphase, hreceive⟩
      · cases h
  | _ => cases h

variable [UuidText]

/-- A reconnect that is refused while failures are counted is not counted. -/
theorem stays_of_refused {step : ActorStep}
    (hrefused : (a.reconnects? step).any transient = true)
    (hpos : 0 < a.reconnectAttempt)
    (hnext : a.next step = some b) :
    a.connectionFails step = true ∧ b.reconnectAttempt = a.reconnectAttempt := by
  obtain ⟨outcome, hreconnects, htransient⟩ := (Option.any_eq_true _ _).mp hrefused
  obtain ⟨rfl, hlink, htracked, paused, commands, hphase, hreceive⟩ :=
    reconnects?_eq_some hreconnects
  cases outcome with
  | ok _ => cases htransient
  | error error =>
      refine ⟨by simp only [connectionFails, hreconnects]; rfl, ?_⟩
      simp only [EndpointActor.next, hphase, hreceive, Option.some.injEq] at hnext
      subst hnext
      exact reconnectAttempt_reconnect (a := { a with phase := .idle paused, commands := commands })
        hlink htracked hpos htransient

/-- Neither is a failed reattach that leaves no workspaces. -/
theorem stays_of_untracked {step : ActorStep}
    (hinv : a.Tallies)
    (hfails : a.reattachFails step = true)
    (hnone : a.trackedWorkspaces.keys = [])
    (hnext : a.next step = some b) :
    a.connectionFails step = true ∧ b.reconnectAttempt = a.reconnectAttempt := by
  cases hresult : a.result? step with
  | none => simp only [reattachFails, hresult] at hfails; cases hfails
  | some found =>
      obtain ⟨result, awaiting⟩ := found
      have hcounted : a.connectionFails step = true := by
        cases step with
        | take outcome => cases hresult
        | handshakeTimeout => cases hresult
        | _ => simp only [connectionFails, reconnects?, hfails, Bool.true_or]
      refine ⟨hcounted, ?_⟩
      obtain ⟨hphase, c, hsame, rfl⟩ := next_result hresult hnext
      simp only [reattachFails, hresult] at hfails
      cases awaiting with
      | reattach workspaceId runtimeId rest anyTransientFailure savedAttempt =>
          have hsaved : a.reconnectAttempt = savedAttempt :=
            hinv savedAttempt (by rw [reattaching?, hphase]; rfl)
          rw [failsReconnect, Bool.and_eq_true] at hfails
          obtain ⟨b, hsame', heq⟩ :=
            c.finish_reattach result workspaceId runtimeId rest anyTransientFailure savedAttempt
          have hempty : ({ b with reconnectAttempt := savedAttempt } :
              EndpointActor).trackedWorkspaces.keys = [] := by
            rw [← hnone, ← hsame.tracked, ← hsame'.tracked]
          have hlost := counted_handleDisconnect { b with reconnectAttempt := savedAttempt }
          rw [decide_eq_false (not_not.mpr hempty)] at hlost
          rw [heq, hfails.1, reattachNext_end hfails.2, reattachNext, if_pos rfl, hsaved]
          cases hlost with
          | kept hkeeps => exact hkeeps.attempt
      | _ => cases hfails

/-- Any other step breaks the count. -/
theorem not_increases_of_not_rampsUp {step : ActorStep}
    (hinv : a.Tallies)
    (hbad : a.rampsUp step ≠ true)
    (hnext : a.next step = some b) :
    a.connectionFails step = true ∧ b.reconnectAttempt ≤ a.reconnectAttempt := by
  by_cases hrefused : (a.reconnects? step).any transient = true → a.reconnectAttempt = 0
  · by_cases htracked : a.reattachFails step = true → a.trackedWorkspaces.keys ≠ []
    · have hfull : ¬ (a.connectionFails step = true → a.reconnectAttempt < 2 ^ 32 - 1) :=
        fun hroom => hbad (rampsUp_iff.mpr ⟨hrefused, htracked, hroom⟩)
      rw [Classical.not_imp, Nat.not_lt] at hfull
      have hadvances := advances_next hinv hrefused htracked hnext
      rw [hfull.1] at hadvances
      generalize a.restoresConnection step = restores at hadvances
      cases hadvances with
      | scheduled schedules settled =>
          refine ⟨hfull.1, ?_⟩
          rw [schedules.attempt, nextReconnectAttempt]
          omega
    · rw [Classical.not_imp, not_not] at htracked
      obtain ⟨hfails, hstays⟩ := stays_of_untracked hinv htracked.1 htracked.2 hnext
      exact ⟨hfails, Nat.le_of_eq hstays⟩
  · rw [Classical.not_imp] at hrefused
    obtain ⟨hfails, hstays⟩ :=
      stays_of_refused hrefused.1 (Nat.pos_of_ne_zero hrefused.2) hnext
    exact ⟨hfails, Nat.le_of_eq hstays⟩

end Exactness

section Runs

variable [UuidText]

/-- **Run lemma.** -/
theorem counted_of_reachable {s : EndpointActor × Nat}
    (h : failureSystem.ReachableUnder (fun s step => s.1.rampsUp step = true) s) :
    s.1.Tallies ∧ s.1.reconnectAttempt = s.2 := by
  refine h.invariant (I := fun s => s.1.Tallies ∧ s.1.reconnectAttempt = s.2) ?_ ?_
  · rintro ⟨a, failures⟩ ⟨⟨endpoint, reconnectDelaySecs, rfl⟩, rfl⟩
    exact ⟨tallies_of_settled rfl, rfl⟩
  · rintro ⟨a, failures⟩ step s' ⟨hinv, hcounted⟩ hok hnext
    obtain ⟨b, hb, rfl⟩ := Option.map_eq_some_iff.mp hnext
    obtain ⟨hrefused, htracked, hroom⟩ := rampsUp_iff.mp hok
    have hadvances := advances_next hinv hrefused htracked hb
    exact ⟨hadvances.tallies, hadvances.failuresAfter hcounted hroom⟩

/-- **Failures in a row back off** in all runs whose steps go on with the count,
and only as long as they do. -/
theorem backsOff_iff {s : EndpointActor × Nat} {step : ActorStep} {b : EndpointActor}
    (h : failureSystem.ReachableUnder (fun s step => s.1.rampsUp step = true) s)
    (hnext : s.1.next step = some b) :
    s.1.BacksOff s.2 step b ↔ s.1.rampsUp step = true := by
  obtain ⟨hinv, hcounted⟩ := counted_of_reachable h
  constructor
  · intro hbacksOff
    refine of_not_not (fun hbad => ?_)
    obtain ⟨hfails, hle⟩ := not_increases_of_not_rampsUp hinv hbad hnext
    exact absurd (hbacksOff.increases hfails) (Nat.not_lt.mpr hle)
  · intro hok
    obtain ⟨hrefused, htracked, hroom⟩ := rampsUp_iff.mp hok
    exact backsOff_of_advances hcounted hroom (advances_next hinv hrefused htracked hnext)

end Runs

section Schedules

theorem failureSystem_init : failureSystem.init (freshActor, 0) :=
  ⟨freshActor_init, rfl⟩

/-- A workspace was opened, the connection broke, and a reconnect is due. -/
def reconnectDue : List ActorStep :=
  [.command (.openWorkspace ⟨"w", "work", .persistent, none, none, none, false⟩),
    .take (.ok ()), .written, .receive ⟨1, .workspaceCreated 7 1⟩, .written,
    .receive ⟨2, .workspaceSnapshot 7 ⟨uuidToBytes 7, 1, .writer, [], none, [], "work", false⟩⟩,
    .readFails .disconnected, .timerFires 1]

/-- The theorem at a reattach that fails: the second failure is counted, and
waits for two seconds. -/
theorem backsOff_iff_reattach :
    ∃ (s : EndpointActor × Nat) (b : EndpointActor),
      s.1.BacksOff s.2 (.readFails .disconnected) b ∧
        b.reconnectAttempt = 2 ∧ b.timers = [2] := by
  obtain ⟨s, hreach, hok, hlost⟩ := System.exists_reachableUnder
    (fun s step => s.1.rampsUp step) (reconnectDue ++ [.take (.ok ()), .written])
    (p := fun s => s.1.rampsUp (.readFails .disconnected) = true ∧
      (s.1.next (.readFails .disconnected)).any
        (fun b => b.reconnectAttempt = 2 ∧ b.timers = [2]) = true)
    failureSystem_init (by decide +kernel)
  obtain ⟨b, hnext, hb⟩ := (Option.any_eq_true _ _).mp hlost
  rw [decide_eq_true_eq] at hb
  exact ⟨s, b, (backsOff_iff hreach hnext).mpr hok, hb.1, hb.2⟩

/-- **The backoff stands still** when a reconnect is refused: the first failure
was counted, the second one waits for one second again. -/
theorem reconnect_repeats_attempt :
    ¬ ∀ (s : EndpointActor × Nat) (step : ActorStep) (b : EndpointActor),
      failureSystem.Reachable s → s.1.next step = some b → s.1.BacksOff s.2 step b := by
  intro hall
  obtain ⟨s, hreach, hfails, hstays⟩ := System.exists_reachable reconnectDue
    (p := fun s => s.1.connectionFails (.take (.error (.io "Connection refused"))) = true ∧
      (s.1.next (.take (.error (.io "Connection refused")))).any
        (fun b => s.1.reconnectAttempt = 1 ∧ b.reconnectAttempt = 1 ∧ b.timers = [1]) = true)
    failureSystem_init (by decide +kernel)
  obtain ⟨b, hnext, hb⟩ := (Option.any_eq_true _ _).mp hstays
  rw [decide_eq_true_eq] at hb
  have hincreases := (hall s _ b hreach hnext).increases hfails
  omega

end Schedules

end EndpointActor

end Client
end Rttx
