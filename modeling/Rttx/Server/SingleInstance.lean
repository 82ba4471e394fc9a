import Mathlib.Logic.Function.Basic
import Rttx.Kernel.TransitionSystem

/-!
# A single daemon

A daemon takes the lock of its runtime directory before anything else and holds it until
its process ends, by whatever cause.  Under the lock it writes its process id to a file,
removes what stands at the path of its socket, and binds the socket there; in the end it
removes both files.  A daemon that crashes leaves them behind.

Any number of daemons may be started, and the steps of their processes come in any order.

**Results.**
* `daemon_unique`: at most one process has got past the lock; whoever connects reaches the
  daemon that serves, and none other; and the process id in the file is its own.
* `start_iff`: a daemon gets past the lock if and only if none is running, and then binds
  its socket, whatever others have left behind.
-/

namespace Rttx
namespace Server

open Kernel

section Processes

/-- How far the process of a daemon has come. -/
inductive DaemonPhase
  | notStarted
  | locked
  | pidWritten
  | pathCleared
  | serving
  | closed
  | cleanedUp
  | exited
deriving DecidableEq, Repr

/-- Between the lock and the end of the process. -/
def DaemonPhase.isRunning : DaemonPhase → Bool
  | .notStarted => false
  | .exited => false
  | _ => true

/-- The lock, the socket at the path by the process that has bound it, the file with the
process id, and the processes. -/
structure Instances where
  lock : Option Nat
  socketFile : Option Nat
  pidFile : Option Nat
  phase : Nat → DaemonPhase

inductive InstanceStep
  | tryAcquire (p : Nat)
  | writePid (p : Nat)
  | removeStale (p : Nat)
  | bind (p : Nat)
  | shutdown (p : Nat)
  | removePid (p : Nat)
  | exit (p : Nat)
  | crash (p : Nat)
deriving DecidableEq, Repr

namespace Instances

def setPhase (s : Instances) (p : Nat) (phase : DaemonPhase) : Instances :=
  { s with phase := Function.update s.phase p phase }

/-- The lock goes with the process. -/
def releaseLock (s : Instances) (p : Nat) : Instances :=
  if s.lock = some p then { s with lock := none } else s

def next (s : Instances) : InstanceStep → Option Instances
  | .tryAcquire p =>
      if s.phase p = .notStarted then
        if s.lock = none then
          some ({ s with lock := some p }.setPhase p .locked)
        else
          some (s.setPhase p .exited)
      else none
  | .writePid p =>
      if s.phase p = .locked then some ({ s with pidFile := some p }.setPhase p .pidWritten)
      else none
  | .removeStale p =>
      if s.phase p = .pidWritten then some ({ s with socketFile := none }.setPhase p .pathCleared)
      else none
  | .bind p =>
      if s.phase p = .pathCleared then
        if s.socketFile = none then
          some ({ s with socketFile := some p }.setPhase p .serving)
        else
          some (s.setPhase p .closed)
      else none
  | .shutdown p =>
      if s.phase p = .serving then some ({ s with socketFile := none }.setPhase p .closed)
      else none
  | .removePid p =>
      if s.phase p = .closed then some ({ s with pidFile := none }.setPhase p .cleanedUp)
      else none
  | .exit p =>
      if s.phase p = .cleanedUp then some ((s.releaseLock p).setPhase p .exited) else none
  | .crash p =>
      if (s.phase p).isRunning then some ((s.releaseLock p).setPhase p .exited) else none

/-- No daemon runs at first; there may be files of earlier ones. -/
def system : System Instances InstanceStep where
  init s := s.lock = none ∧ ∀ p, s.phase p = .notStarted
  next := next

/-- The process that a client reaches; a socket whose process is gone refuses. -/
def connect (s : Instances) : Option Nat :=
  s.socketFile.filter fun p => s.phase p = .serving

end Instances

end Processes

section Invariant

namespace Instances

/-- No process is past the lock. -/
structure Free (s : Instances) : Prop where
  lock : s.lock = none
  idle : ∀ q, (s.phase q).isRunning = false

/-- One process is past the lock, and the files are as far as its phase says. -/
structure Held (s : Instances) (p : Nat) : Prop where
  lock : s.lock = some p
  running : (s.phase p).isRunning = true
  others : ∀ q, q ≠ p → (s.phase q).isRunning = false
  cleared : s.phase p = .pathCleared → s.socketFile = none
  bound : s.phase p = .serving → s.socketFile = some p
  pid : s.phase p ∈ [.pidWritten, .pathCleared, .serving, .closed] → s.pidFile = some p

/-- What holds between any steps. -/
def Inv (s : Instances) : Prop :=
  s.Free ∨ ∃ p, s.Held p

variable {s s' : Instances} {p q : Nat}

@[simp] theorem setPhase_phase_self (s : Instances) (p : Nat) (phase : DaemonPhase) :
    (s.setPhase p phase).phase p = phase := by
  change Function.update s.phase p phase p = phase
  exact Function.update_self ..

theorem setPhase_phase_of_ne (s : Instances) (phase : DaemonPhase)
    (h : q ≠ p) :
    (s.setPhase p phase).phase q = s.phase q := by
  change Function.update s.phase p phase q = s.phase q
  exact Function.update_of_ne h ..

/-- A process that runs is the one past the lock. -/
theorem Inv.held
    (h : Inv s)
    (hp : (s.phase p).isRunning = true) :
    s.Held p := by
  obtain hfree | ⟨q, hheld⟩ := h
  · rw [hfree.idle p] at hp
    cases hp
  · by_cases hsame : p = q
    · exact hsame ▸ hheld
    · rw [hheld.others p hsame] at hp
      cases hp

/-- **A step of the process that runs**: what its next phase says of the files must hold. -/
theorem Held.advance {phase : DaemonPhase} {socketFile pidFile : Option Nat}
    (h : s.Held p)
    (hphase : phase.isRunning = true)
    (hcleared : phase = .pathCleared → socketFile = none)
    (hbound : phase = .serving → socketFile = some p)
    (hpid : phase ∈ [.pidWritten, .pathCleared, .serving, .closed] → pidFile = some p) :
    Inv ({ s with socketFile := socketFile, pidFile := pidFile }.setPhase p phase) := by
  refine Or.inr ⟨p, h.lock, ?_, fun q hne => ?_, fun hq => ?_, fun hq => ?_, fun hq => ?_⟩
  · rw [setPhase_phase_self]
    exact hphase
  · rw [setPhase_phase_of_ne _ _ hne]
    exact h.others q hne
  · rw [setPhase_phase_self] at hq
    exact hcleared hq
  · rw [setPhase_phase_self] at hq
    exact hbound hq
  · rw [setPhase_phase_self] at hq
    exact hpid hq

/-- The end of the process that runs releases the lock. -/
theorem Held.release
    (h : s.Held p) :
    Inv ((s.releaseLock p).setPhase p .exited) := by
  have hrelease : s.releaseLock p = { s with lock := none } := if_pos h.lock
  rw [hrelease]
  refine Or.inl ⟨rfl, fun q => ?_⟩
  by_cases hsame : q = p
  · rw [hsame, setPhase_phase_self]
    rfl
  · rw [setPhase_phase_of_ne _ _ hsame]
    exact h.others q hsame

/-- The first process gets past the lock. -/
theorem Free.acquire
    (h : s.Free)
    (p : Nat) :
    Inv ({ s with lock := some p }.setPhase p .locked) := by
  refine Or.inr ⟨p, rfl, ?_, fun q hne => ?_, fun hq => ?_, fun hq => ?_, fun hq => ?_⟩
  · rw [setPhase_phase_self]
    rfl
  · rw [setPhase_phase_of_ne _ _ hne]
    exact h.idle q
  · rw [setPhase_phase_self] at hq
    cases hq
  · rw [setPhase_phase_self] at hq
    cases hq
  · rw [setPhase_phase_self] at hq
    exact absurd hq (by decide)

/-- The others are turned away. -/
theorem Held.reject
    (h : s.Held p)
    (hne : q ≠ p) :
    Inv (s.setPhase q .exited) := by
  have hphase := setPhase_phase_of_ne s .exited hne.symm
  refine Or.inr ⟨p, h.lock, ?_, fun r hr => ?_, fun hr => ?_, fun hr => ?_, fun hr => ?_⟩
  · rw [hphase]
    exact h.running
  · by_cases hsame : r = q
    · rw [hsame, setPhase_phase_self]
      rfl
    · rw [setPhase_phase_of_ne _ _ hsame]
      exact h.others r hr
  · rw [hphase] at hr
    exact h.cleared hr
  · rw [hphase] at hr
    exact h.bound hr
  · rw [hphase] at hr
    exact h.pid hr

/-- **Every step keeps the invariant.** -/
theorem Inv.next {step : InstanceStep}
    (h : Inv s)
    (hnext : s.next step = some s') :
    Inv s' := by
  have hheld : ∀ p phase, s.phase p = phase → phase.isRunning = true → s.Held p :=
    fun p phase hphase hrunning => h.held (hphase ▸ hrunning)
  cases step with
  | tryAcquire p =>
      rw [Instances.next] at hnext
      split_ifs at hnext with hphase hlock
      · cases hnext
        obtain hfree | ⟨q, hq⟩ := h
        · exact hfree.acquire p
        · rw [hq.lock] at hlock
          cases hlock
      · cases hnext
        obtain hfree | ⟨q, hq⟩ := h
        · exact absurd hfree.lock hlock
        · refine hq.reject fun hsame => ?_
          have hrunning := hq.running
          rw [← hsame, hphase] at hrunning
          cases hrunning
  | writePid p =>
      rw [Instances.next] at hnext
      split_ifs at hnext with hphase
      cases hnext
      exact (hheld p _ hphase rfl).advance rfl (fun h => by cases h) (fun h => by cases h)
        fun _ => rfl
  | removeStale p =>
      rw [Instances.next] at hnext
      split_ifs at hnext with hphase
      cases hnext
      have hp := hheld p _ hphase rfl
      exact hp.advance rfl (fun _ => rfl) (fun h => by cases h)
        fun _ => hp.pid (by rw [hphase]; decide)
  | bind p =>
      rw [Instances.next] at hnext
      split_ifs at hnext with hphase hfree
      · cases hnext
        have hp := hheld p _ hphase rfl
        exact hp.advance rfl (fun h => by cases h) (fun _ => rfl)
          fun _ => hp.pid (by rw [hphase]; decide)
      · exact absurd ((hheld p _ hphase rfl).cleared hphase) hfree
  | shutdown p =>
      rw [Instances.next] at hnext
      split_ifs at hnext with hphase
      cases hnext
      have hp := hheld p _ hphase rfl
      exact hp.advance rfl (fun h => by cases h) (fun h => by cases h)
        fun _ => hp.pid (by rw [hphase]; decide)
  | removePid p =>
      rw [Instances.next] at hnext
      split_ifs at hnext with hphase
      cases hnext
      exact (hheld p _ hphase rfl).advance rfl (fun h => by cases h) (fun h => by cases h)
        fun h => absurd h (by decide)
  | exit p =>
      rw [Instances.next] at hnext
      split_ifs at hnext with hphase
      cases hnext
      exact (hheld p _ hphase rfl).release
  | crash p =>
      rw [Instances.next] at hnext
      split_ifs at hnext with hphase
      cases hnext
      exact (h.held hphase).release

theorem reachable_inv
    (h : system.Reachable s) :
    Inv s := by
  refine h.invariant ?_ fun s step s' hinv hnext => hinv.next hnext
  rintro s ⟨hlock, hphase⟩
  refine Or.inl ⟨hlock, fun p => ?_⟩
  rw [hphase p]
  rfl

/-- **A single daemon**, in every order of the steps and with any crashes: at most one
process has got past the lock, a client reaches a process exactly if that one serves, and
the process id in the file is that of the one that serves. -/
theorem daemon_unique
    (h : system.Reachable s) :
    (∀ p q, (s.phase p).isRunning = true → (s.phase q).isRunning = true → p = q) ∧
      (∀ p, s.connect = some p ↔ s.phase p = .serving) ∧
      ∀ p, s.phase p = .serving → s.pidFile = some p := by
  have hinv := reachable_inv h
  refine ⟨fun p q hp hq => ?_, fun p => ?_, fun p hp => ?_⟩
  · have hlock := (hinv.held hp).lock
    rw [(hinv.held hq).lock] at hlock
    exact (Option.some.inj hlock).symm
  · rw [connect, Option.filter_eq_some_iff, decide_eq_true_iff]
    refine ⟨And.right, fun hp => ⟨(hinv.held (hp ▸ rfl)).bound hp, hp⟩⟩
  · exact (hinv.held (hp ▸ rfl)).pid (by rw [hp]; decide)

/-- **Starting a daemon**, in every order of the steps: it gets past the lock if and only if
none is running.  Whatever files crashed daemons have left, the path is free once it comes to
bind its socket, and it serves. -/
theorem start_iff
    (h : system.Reachable s) :
    (∀ p, s.phase p = .notStarted →
      ∃ s', s.next (.tryAcquire p) = some s' ∧
        (s'.phase p = .locked ↔ ∀ q, (s.phase q).isRunning = false)) ∧
      ∀ p, s.phase p = .pathCleared →
        ∃ s', s.next (.bind p) = some s' ∧ s'.connect = some p := by
  have hinv := reachable_inv h
  constructor
  · intro p hp
    obtain hfree | ⟨q, hq⟩ := hinv
    · refine ⟨{ s with lock := some p }.setPhase p .locked, ?_, ?_⟩
      · rw [Instances.next, if_pos hp, if_pos hfree.lock]
      · rw [setPhase_phase_self]
        exact iff_of_true rfl hfree.idle
    · have hlock : s.lock ≠ none := by
        rw [hq.lock]
        exact Option.some_ne_none q
      refine ⟨s.setPhase p .exited, ?_, ?_⟩
      · rw [Instances.next, if_pos hp, if_neg hlock]
      · rw [setPhase_phase_self]
        refine iff_of_false (by decide) fun hnone => ?_
        exact absurd (hnone q) (by rw [hq.running]; decide)
  · intro p hp
    have hfree : s.socketFile = none := (hinv.held (hp ▸ rfl)).cleared hp
    refine ⟨{ s with socketFile := some p }.setPhase p .serving, ?_, ?_⟩
    · rw [Instances.next, if_pos hp, if_pos hfree]
    · rw [connect, Option.filter_eq_some_iff, decide_eq_true_iff]
      exact ⟨rfl, setPhase_phase_self ..⟩

/-- A second daemon is turned away while the first one starts. -/
def served : List InstanceStep :=
  [.tryAcquire 1, .writePid 1, .removeStale 1, .tryAcquire 2, .bind 1]

/-- The first one crashes. -/
def crashed : List InstanceStep :=
  served ++ [.crash 1]

theorem init_first : system.init ⟨none, none, none, fun _ => .notStarted⟩ :=
  ⟨rfl, fun _ => rfl⟩

theorem served_runs :
    (system.exec ⟨none, none, none, fun _ => .notStarted⟩ served).isSome = true := by
  decide

theorem crashed_runs :
    (system.exec ⟨none, none, none, fun _ => .notStarted⟩ crashed).isSome = true := by
  decide

/-- The theorem for the first daemon, which serves. -/
theorem daemon_unique_served :
    ((system.exec ⟨none, none, none, fun _ => .notStarted⟩ served).get
        served_runs).connect = some 1 ↔
      ((system.exec ⟨none, none, none, fun _ => .notStarted⟩ served).get
        served_runs).phase 1 = .serving :=
  (daemon_unique (System.reachable_get init_first served_runs)).2.1 1

/-- The theorem on the start of a third daemon then. -/
theorem start_iff_crashed :
    ∃ s', next ((system.exec ⟨none, none, none, fun _ => .notStarted⟩ crashed).get crashed_runs)
        (.tryAcquire 3) = some s' ∧
      (s'.phase 3 = .locked ↔
        ∀ q, (((system.exec ⟨none, none, none, fun _ => .notStarted⟩ crashed).get
          crashed_runs).phase q).isRunning = false) :=
  (start_iff (System.reachable_get init_first crashed_runs)).1 3 (by decide)

end Instances

end Invariant

end Server
end Rttx
