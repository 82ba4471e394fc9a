import Rttx.Client.OverflowResync

/-!
# When a connection is declared lost

A heartbeat tick sends a ping or counts one more tick without its pong; at the eighth the
connection is declared lost.  The main loop takes whatever it reads for a sign of life,
except a pong of an earlier ping.  The read loop of a request takes only the pong of the
last ping for one, neither the response nor what it hands on.

**Results.**
* `next_calm`: besides reading and ticking, no step counts a tick as missed.
* `verdict_justified`: in runs in which every envelope that comes in after a missed tick is
  taken for a sign of life, a lost connection has been silent for eight ticks.
-/

namespace Rttx
namespace Client

open Kernel Server

namespace EndpointActor

section Calm

variable {a b c : EndpointActor}

/-- No tick is counted as missed that was not on the connection there was. -/
def Calm (a b : EndpointActor) : Prop :=
  b.link = .split → b.heartbeat.missedTicks = 0 ∨ (a.link = .split ∧ b.heartbeat = a.heartbeat)

theorem Calm.of_eq
    (hlink : b.link = a.link)
    (hheartbeat : b.heartbeat = a.heartbeat) :
    a.Calm b :=
  fun hsplit => Or.inr ⟨hlink.symm.trans hsplit, hheartbeat⟩

theorem Calm.trans
    (h : a.Calm b)
    (h' : b.Calm c) :
    a.Calm c := by
  intro hsplit
  rcases h' hsplit with hzero | ⟨hsplit', hsame⟩
  · exact Or.inl hzero
  · rcases h hsplit' with hzero | ⟨hsplit'', hsame'⟩
    · exact Or.inl (by rw [hsame, hzero])
    · exact Or.inr ⟨hsplit'', hsame.trans hsame'⟩

theorem calm_emit (a : EndpointActor) (event : ActorEvent) : a.Calm (a.emit event) := by
  obtain ⟨events, heq, _⟩ := a.emit_fields event
  refine Calm.of_eq (a.link_emit event) ?_
  rw [heq]

theorem Handled.calm
    (h : a.Handled b) :
    a.Calm b := by
  induction h with
  | refl => exact Calm.of_eq rfl rfl
  | @tail c d _ hchange ih =>
      refine ih.trans ?_
      cases hchange with
      | emit report => exact c.calm_emit _
      | trySelf command => exact Calm.of_eq rfl rfl
      | closeLink => exact nofun
      | resetHeartbeat => exact fun _ => Or.inl rfl
      | connect free => exact nofun
      | splitConnection =>
          unfold splitConnection
          split
          · exact fun _ => Or.inl rfl
          · exact Calm.of_eq rfl rfl
      | stop => exact Calm.of_eq rfl rfl
      | quiet commands log link peerClosed heartbeat => exact Calm.of_eq link heartbeat

end Calm

section Steps

variable [UuidText]

/-- **Besides reading and ticking no step counts a tick as missed.** -/
theorem next_calm {a b : EndpointActor} {step : ActorStep}
    (hread : ∀ env, step ≠ .receive env)
    (htick : step ≠ .heartbeatTick)
    (h : a.next step = some b) :
    a.Calm b := by
  have hfailed : ∀ {error : DaemonError}, a.readFailed error = some b → a.Calm b := by
    intro error hread
    unfold readFailed at hread
    split at hread
    · split at hread
      · obtain rfl := Option.some.inj hread
        exact Handled.calm (a.handled_handleDisconnect.trans (handled_toIdle _))
      · cases hread
    · obtain rfl := Option.some.inj hread
      exact (a.handled_finish (.error error) _).calm
    · cases hread
  cases step with
  | receive env => exact absurd rfl (hread env)
  | heartbeatTick => exact absurd rfl htick
  | command command =>
      obtain rfl := Option.some.inj h
      exact Calm.of_eq rfl rfl
  | take outcome =>
      simp only [next] at h
      split at h
      · rename_i command commands _ _
        obtain rfl := Option.some.inj h
        have hpopped : a.Calm { a with commands := commands } := Calm.of_eq rfl rfl
        exact hpopped.trans (handled_handleCommand _ outcome command).calm
      · cases h
  | written =>
      simp only [next] at h
      split at h
      · split at h
        · obtain rfl := Option.some.inj h
          unfold wrote
          split <;> exact Calm.of_eq rfl rfl
        · cases h
      · cases h
  | writeFails error =>
      simp only [next] at h
      split at h
      · split at h
        · obtain rfl := Option.some.inj h
          exact (a.handled_writeFailed error _).calm
        · cases h
      · cases h
  | readFails error => exact hfailed h
  | peerCloses =>
      simp only [next] at h
      split at h
      · cases h
      · obtain rfl := Option.some.inj h
        exact Calm.of_eq rfl rfl
  | endOfStream =>
      simp only [next] at h
      split at h
      · exact hfailed h
      · cases h
  | handshakeTimeout =>
      obtain ⟨workspaceId, _, rfl⟩ := Option.map_eq_some_iff.mp h
      exact Handled.calm (a.handled_closeLink.trans (a.handled_handshakeTimedOut workspaceId))
  | pausePoll =>
      simp only [next] at h
      split at h
      · obtain rfl := Option.some.inj h
        exact Calm.of_eq rfl rfl
      · cases h
  | timerFires delaySecs =>
      simp only [next] at h
      split at h
      · obtain rfl := Option.some.inj h
        exact Calm.of_eq rfl rfl
      · cases h
  | drain =>
      obtain ⟨_, _, rfl⟩ := Option.map_eq_some_iff.mp h
      exact Calm.of_eq rfl rfl
  | watermark =>
      obtain rfl := Option.some.inj h
      simp only [checkWatermark]
      split
      · exact Calm.of_eq rfl rfl
      · split <;> exact Calm.of_eq rfl rfl
  | otherEvent event =>
      obtain rfl := Option.some.inj h
      exact Calm.of_eq rfl rfl
  | reorder tracked =>
      simp only [next] at h
      split at h
      · obtain rfl := Option.some.inj h
        exact Calm.of_eq rfl rfl
      · cases h

end Steps

end EndpointActor

section Watching

variable [UuidText]

/-- The actor, with the number of ticks since the last envelope of its connection. -/
structure WatchedActor where
  actor : EndpointActor
  silentTicks : Nat

namespace WatchedActor

/-- The count after a step; a connection that is made has not been silent. -/
def silentAfter (s : WatchedActor) (step : ActorStep) (a : EndpointActor) : Nat :=
  match step with
  | .receive _ => 0
  | .heartbeatTick => s.silentTicks + 1
  | _ => if s.actor.link = .none ∧ a.link ≠ .none then 0 else s.silentTicks

def next (s : WatchedActor) (step : ActorStep) : Option WatchedActor :=
  (s.actor.next step).map fun a => ⟨a, s.silentAfter step a⟩

def system : System WatchedActor ActorStep where
  init := fun s => EndpointActor.system.init s.actor
  next := next

/-- At the next tick the connection is declared lost. -/
def DeclaresLost (s : WatchedActor) : Prop :=
  (s.actor.next .heartbeatTick).isSome = true ∧ s.actor.heartbeat.onTick.1 = .declareLost

instance (s : WatchedActor) : Decidable s.DeclaresLost :=
  inferInstanceAs (Decidable (_ ∧ _))

/-- The envelope is taken for a sign of life. -/
def noted (a : EndpointActor) (env : ServerEnvelope) : Bool :=
  match a.phase, env.payload with
  | .receiving requestId _ _, .pong nonce =>
      env.requestId ≠ requestId.value && a.heartbeat.pendingNonce = some nonce
  | .receiving _ _ _, _ => false
  | _, .pong nonce => a.heartbeat.pendingNonce = some nonce
  | _, _ => true

/-- An envelope that comes in after a missed tick is taken for a sign of life. -/
def notes (s : WatchedActor) : ActorStep → Bool
  | .receive env =>
      s.actor.link ≠ .split || s.actor.heartbeat.missedTicks = 0 || noted s.actor env
  | _ => true

open EndpointActor

/-- On a split connection no more ticks are counted as missed than there were. -/
def Counted (s : WatchedActor) : Prop :=
  s.actor.link = .split → s.actor.heartbeat.missedTicks ≤ s.silentTicks

omit [UuidText] in
theorem heartbeat_forward (a : EndpointActor) (payload : ServerPayload) (env : ServerEnvelope) :
    ((a.untrackTerminated payload).forwardPush env).heartbeat = a.heartbeat := by
  obtain ⟨events, heq, _⟩ := (a.untrackTerminated payload).emit_fields
    (.workspaceMessage (a.untrackTerminated payload).endpoint env)
  rw [forwardPush, heq]
  unfold untrackTerminated
  split <;> rfl

omit [UuidText] in
/-- The main loop takes everything but an old pong for a sign of life. -/
theorem heartbeat_handleRuntimeMessage (a : EndpointActor) (env : ServerEnvelope) :
    (a.handleRuntimeMessage env).heartbeat.missedTicks = 0 ∨
      ∃ nonce, env.payload = .pong nonce ∧ a.heartbeat.pendingNonce ≠ some nonce ∧
        (a.handleRuntimeMessage env).heartbeat = a.heartbeat := by
  obtain ⟨requestId, payload⟩ := env
  by_cases hpong : ∃ nonce, payload = .pong nonce
  · obtain ⟨nonce, rfl⟩ := hpong
    by_cases hpending : a.heartbeat.pendingNonce = some nonce
    · left
      simp only [handleRuntimeMessage, observeInboundPong, if_pos hpending]
      rfl
    · right
      refine ⟨nonce, rfl, hpending, ?_⟩
      simp only [handleRuntimeMessage, observeInboundPong, if_neg hpending]
  · left
    have hother : a.observeInboundPong payload = (false, a) := by
      cases payload with
      | pong nonce => exact absurd ⟨nonce, rfl⟩ hpong
      | _ => rfl
    have huntracked : ({ a with heartbeat := a.heartbeat.reset }.untrackTerminated
        payload).heartbeat.missedTicks = 0 := by
      unfold untrackTerminated
      split <;> rfl
    simp only [handleRuntimeMessage, hother]
    split
    · unfold handleStreamOverflow
      split <;> exact huntracked
    · rw [heartbeat_forward]
      rfl

omit [UuidText] in
/-- A read loop takes only the pong of the last ping for one. -/
theorem heartbeat_readOther (a : EndpointActor) (env : ServerEnvelope) (expectTerminated : Bool) :
    (a.readOther env expectTerminated).heartbeat.missedTicks = 0 ∨
      ((¬ ∃ nonce, env.payload = .pong nonce ∧ a.heartbeat.pendingNonce = some nonce) ∧
        (a.readOther env expectTerminated).heartbeat = a.heartbeat) := by
  unfold readOther
  split
  · rename_i nonce hpayload
    rw [hpayload, observeInboundPong]
    split
    · exact Or.inl rfl
    · rename_i hpending
      refine Or.inr ⟨?_, rfl⟩
      rintro ⟨other, hpong, hother⟩
      injection hpong with hnonce
      exact hpending (hnonce ▸ hother)
  · rename_i hpayload
    refine Or.inr ⟨?_, ?_⟩
    · rintro ⟨nonce, hpong, _⟩
      rw [hpayload] at hpong
      cases hpong
    · split
      · rfl
      · exact heartbeat_forward a _ env
  · rename_i hpong _
    refine Or.inr ⟨?_, heartbeat_forward a _ env⟩
    rintro ⟨nonce, hnonce, _⟩
    exact hpong nonce hnonce

omit [UuidText] in
/-- What a read loop takes for a sign of life. -/
theorem noted_receiving {a : EndpointActor} {env : ServerEnvelope} {requestId : RequestId}
    {expectTerminated : Bool} {awaiting : Awaiting}
    (h : a.phase = .receiving requestId expectTerminated awaiting) :
    noted a env = true ↔ env.requestId ≠ requestId.value ∧
      ∃ nonce, env.payload = .pong nonce ∧ a.heartbeat.pendingNonce = some nonce := by
  rw [noted, h]
  cases env.payload <;> simp

/-- **An envelope that comes in as it should leaves no missed tick.** -/
theorem missedTicks_receive {a b : EndpointActor} {env : ServerEnvelope}
    (h : a.receive env = some b)
    (hnotes : a.link = .split → a.heartbeat.missedTicks = 0 ∨ noted a env = true)
    (hsplit : b.link = .split) :
    b.heartbeat.missedTicks = 0 := by
  unfold receive at h
  split at h
  · rename_i hphase
    split at h
    · rename_i hlink
      obtain rfl := Option.some.inj h
      rcases heartbeat_handleRuntimeMessage (a.record (.received env (a.due env))) env with
        hzero | ⟨nonce, hpong, hpending, hsame⟩
      · exact hzero
      · have hold : noted a env = false := by
          rw [noted, hphase, hpong]
          exact decide_eq_false hpending
        have hmissed := (hnotes hlink).resolve_right (Bool.eq_false_iff.mp hold)
        exact (congrArg HeartbeatMonitor.missedTicks hsame).trans hmissed
    · cases h
  · rename_i requestId expectTerminated awaiting hphase
    have hreading : a.link = .split → noted a env ≠ true → a.heartbeat.missedTicks = 0 :=
      fun hlink hold => (hnotes hlink).resolve_right hold
    split at h
    · rename_i hresponse
      obtain rfl := Option.some.inj h
      rcases Handled.calm (handled_finish _ (.ok env.payload) awaiting) hsplit with
        hzero | ⟨hlink, hsame⟩
      · exact hzero
      · refine (congrArg HeartbeatMonitor.missedTicks hsame).trans (hreading hlink fun hnoted => ?_)
        exact ((noted_receiving hphase).mp hnoted).1 hresponse
    · rename_i hother
      dsimp only at h
      split at h
      · rename_i hlink
        obtain rfl := Option.some.inj h
        rcases heartbeat_readOther (a.record (.received env (a.due env))) env expectTerminated with
          hzero | ⟨hnot, hsame⟩
        · exact hzero
        · refine (congrArg HeartbeatMonitor.missedTicks hsame).trans
            (hreading hlink fun hnoted => hnot ?_)
          exact ((noted_receiving hphase).mp hnoted).2
      · rename_i hlink
        obtain rfl := Option.some.inj h
        exact absurd hsplit hlink
  · cases h

omit [UuidText] in
theorem missedTicks_onTick (h : HeartbeatMonitor) :
    h.onTick.2.missedTicks ≤ h.missedTicks + 1 := by
  unfold HeartbeatMonitor.onTick
  split
  · dsimp only
    split <;> exact Nat.min_le_left _ _
  · exact Nat.zero_le _

omit [UuidText] in
theorem missedTicks_of_lost {h : HeartbeatMonitor}
    (hlost : h.onTick.1 = .declareLost) :
    heartbeatMissLimit ≤ h.missedTicks + 1 := by
  unfold HeartbeatMonitor.onTick at hlost
  split at hlost
  · dsimp only at hlost
    split at hlost
    · rename_i hlimit
      exact Nat.le_trans hlimit (Nat.min_le_left _ _)
    · cases hlost
  · cases hlost

omit [UuidText] in
theorem missedTicks_tick {a : EndpointActor}
    (hsplit : a.handleHeartbeatTick.link = .split) :
    a.handleHeartbeatTick.heartbeat.missedTicks ≤ a.heartbeat.missedTicks + 1 := by
  have hticked := missedTicks_onTick a.heartbeat
  unfold handleHeartbeatTick at hsplit ⊢
  dsimp only at hsplit ⊢
  split
  · exact hticked
  · rename_i hlost
    rw [hlost] at hsplit
    rcases Handled.calm (({ a with heartbeat := a.heartbeat.onTick.2 } :
      EndpointActor).handled_handleDisconnect.trans (handled_toIdle _)) hsplit with
      hzero | ⟨_, hsame⟩
    · rw [hzero]
      exact Nat.zero_le _
    · rw [hsame]
      exact hticked

/-- **Step lemma.** -/
theorem Counted.next {s s' : WatchedActor} {step : ActorStep}
    (h : s.Counted)
    (hnotes : s.notes step = true)
    (hnext : s.next step = some s') :
    s'.Counted := by
  obtain ⟨a, ha, rfl⟩ := Option.map_eq_some_iff.mp hnext
  intro hsplit
  by_cases hread : ∃ env, step = .receive env
  · obtain ⟨env, rfl⟩ := hread
    refine le_of_eq (missedTicks_receive ha (fun hlink => ?_) hsplit)
    simpa [notes, hlink] using hnotes
  · by_cases htick : step = .heartbeatTick
    · subst htick
      simp only [EndpointActor.next] at ha
      split at ha
      · rename_i hready
        obtain rfl := Option.some.inj ha
        have hticked := missedTicks_tick hsplit
        have hcounted := h hready.2.1
        exact Nat.le_trans hticked (Nat.succ_le_succ hcounted)
      · cases ha
    · rcases next_calm (fun env heq => hread ⟨env, heq⟩) htick ha hsplit with
        hzero | ⟨hold, hsame⟩
      · show a.heartbeat.missedTicks ≤ _
        rw [hzero]
        exact Nat.zero_le _
      · have hkept : s.silentAfter step a = s.silentTicks := by
          cases step with
          | receive env => exact absurd ⟨env, rfl⟩ hread
          | heartbeatTick => exact absurd rfl htick
          | _ => exact if_neg fun hnew => by simp [hold] at hnew
        show a.heartbeat.missedTicks ≤ s.silentAfter step a
        rw [hsame, hkept]
        exact h hold

/-- **A lost connection has been silent for eight ticks**, the last of them included, in
runs in which every envelope that comes in after a missed tick is taken for a sign of
life. -/
theorem verdict_justified {s : WatchedActor}
    (h : system.ReachableUnder (fun s step => s.notes step = true) s)
    (hlost : s.DeclaresLost) :
    heartbeatMissLimit ≤ s.silentTicks + 1 := by
  have hcounted : s.Counted := by
    refine h.invariant (I := Counted) ?_ fun s step s' hs hok hnext => hs.next hok hnext
    rintro ⟨a, silentTicks⟩ ⟨endpoint, delay, rfl⟩
    exact nofun
  obtain ⟨hready, hverdict⟩ := hlost
  have hsplit : s.actor.link = .split := by
    simp only [EndpointActor.next] at hready
    split at hready
    · rename_i hguard
      exact hguard.2.1
    · cases hready
  exact Nat.le_trans (missedTicks_of_lost hverdict) (Nat.succ_le_succ (hcounted hsplit))

end WatchedActor

end Watching

section Samples

namespace WatchedActor

open EndpointActor

/-- An actor that has just started. -/
def startWatched : WatchedActor :=
  ⟨startActor, 0⟩

theorem startWatched_init : system.init startWatched :=
  startActor_init

/-- A connection on which nothing comes in after it has been opened. -/
def silentRun : List ActorStep :=
  opening ++ (List.replicate 8 [.heartbeatTick, .written]).flatten

theorem verdict_justified_silentRun :
    ∃ s : WatchedActor, s.DeclaresLost ∧ heartbeatMissLimit ≤ s.silentTicks + 1 := by
  obtain ⟨s, hreach, hlost⟩ := System.exists_reachableUnder notes silentRun
    (p := fun s => s.DeclaresLost) startWatched_init (by decide +kernel)
  exact ⟨s, hlost, verdict_justified hreach hlost⟩

/-- A daemon whose pongs are late answers a request; two ticks later the connection is
declared lost. -/
def busyRun : List ActorStep :=
  opening ++ (List.replicate 7 [.heartbeatTick, .written]).flatten ++
    [.command .refreshInventory, .take (.ok ()), .written,
      .receive ⟨0, .workspaceRenamed 7 "busy" 2 false⟩, .receive ⟨1, .workspaceList [7]⟩,
      .heartbeatTick, .written]

/-- **A live connection is declared lost**: two envelopes came in since the last tick but
one. -/
theorem live_connection_lost :
    ∃ s : WatchedActor, system.Reachable s ∧ s.DeclaresLost ∧ s.silentTicks = 1 ∧
      ¬ heartbeatMissLimit ≤ s.silentTicks + 1 :=
  System.exists_reachable busyRun startWatched_init (by decide +kernel)

end WatchedActor

end Samples

end Client
end Rttx
