import Mathlib.Data.List.Basic

/-!
# Kernel: transition systems with guarded runs

A transition system is a set of start states and a partial step function on
labels.  A label that is not enabled in a state yields `none`, so a concrete
schedule can be executed and its end state evaluated.

Reachability is parametrised by a guard on (state, label) pairs.  With the
guard that is always true it is ordinary reachability; with a proper guard it
is reachability through runs all of whose steps meet a condition.

**Results.**
* `ReachableUnder.invariant`: an inductive property holds in every state
  reached by guarded runs.
* `reachable_of_exec`, `reachableUnder_get`: the end of an executed schedule
  is reachable, under the guard if every step met it.
* `Simulation.reachable`: a simulation maps reachable states to reachable
  states.
-/

namespace Rttx
namespace Kernel

universe u v w z

/-- Start states and a partial step function on labels. -/
structure System (σ : Type u) (α : Type v) where
  init : σ → Prop
  next : σ → α → Option σ

namespace System

section Runs

variable {σ : Type u} {α : Type v}
variable (S : System σ α)

/-- States reached by runs whose every step meets the guard `ok`. -/
inductive ReachableUnder (ok : σ → α → Prop) : σ → Prop
  | init {s : σ} :
      S.init s →
      ReachableUnder ok s
  | step {s s' : σ} {a : α} :
      ReachableUnder ok s →
      ok s a →
      S.next s a = some s' →
      ReachableUnder ok s'

/-- States reached by arbitrary runs. -/
def Reachable (s : σ) : Prop :=
  S.ReachableUnder (fun _ _ => True) s

/-- Execute a schedule; `none` when some label is not enabled. -/
def exec (s : σ) : List α → Option σ
  | [] => some s
  | a :: rest =>
      match S.next s a with
      | none => none
      | some s' => exec s' rest

variable {S}

theorem Reachable.of_init {s : σ} (h : S.init s) : S.Reachable s :=
  ReachableUnder.init h

theorem Reachable.next {s s' : σ} {a : α}
    (h : S.Reachable s)
    (hstep : S.next s a = some s') :
    S.Reachable s' :=
  ReachableUnder.step h trivial hstep

/-- **Invariant rule.** -/
theorem ReachableUnder.invariant {ok : σ → α → Prop}
    {I : σ → Prop}
    (hinit : ∀ s, S.init s → I s)
    (hstep : ∀ s a s', I s → ok s a → S.next s a = some s' → I s')
    {s : σ}
    (h : S.ReachableUnder ok s) :
    I s := by
  induction h with
  | init h0 => exact hinit _ h0
  | step _ hok hnext ih => exact hstep _ _ _ ih hok hnext

/-- The invariant rule for arbitrary runs. -/
theorem Reachable.invariant
    {I : σ → Prop}
    (hinit : ∀ s, S.init s → I s)
    (hstep : ∀ s a s', I s → S.next s a = some s' → I s')
    {s : σ}
    (h : S.Reachable s) :
    I s :=
  ReachableUnder.invariant hinit (fun s a s' hI _ => hstep s a s' hI) h

/-- A run under a guard is a run. -/
theorem ReachableUnder.reachable {ok : σ → α → Prop} {s : σ}
    (h : S.ReachableUnder ok s) :
    S.Reachable s := by
  induction h with
  | init h0 => exact Reachable.of_init h0
  | step _ _ hnext ih => exact ih.next hnext

/-- A run under a guard is a run under every weaker one. -/
theorem ReachableUnder.mono {ok ok' : σ → α → Prop} {s : σ}
    (h : S.ReachableUnder ok s)
    (hweaker : ∀ s a, ok s a → ok' s a) :
    S.ReachableUnder ok' s := by
  induction h with
  | init h0 => exact ReachableUnder.init h0
  | step _ hok hnext ih => exact ReachableUnder.step ih (hweaker _ _ hok) hnext

/-- Executing a schedule from a reachable state ends in a reachable state. -/
theorem Reachable.exec {s s' : σ} {acts : List α}
    (h : S.Reachable s)
    (hrun : S.exec s acts = some s') :
    S.Reachable s' := by
  induction acts generalizing s with
  | nil =>
      simp only [System.exec, Option.some.injEq] at hrun
      exact hrun ▸ h
  | cons a rest ih =>
      cases hnext : S.next s a with
      | none => simp [System.exec, hnext] at hrun
      | some s₁ =>
          rw [System.exec, hnext] at hrun
          exact ih (h.next hnext) hrun

/-- The end of a schedule executed from a start state is reachable. -/
theorem reachable_of_exec {s s' : σ} {acts : List α}
    (hinit : S.init s)
    (hrun : S.exec s acts = some s') :
    S.Reachable s' :=
  (Reachable.of_init hinit).exec hrun

/-- Execute a schedule whose steps must meet a decidable guard. -/
def execUnder (S : System σ α) (ok : σ → α → Bool) (s : σ) : List α → Option σ
  | [] => some s
  | a :: rest =>
      if ok s a then
        match S.next s a with
        | none => none
        | some s' => execUnder S ok s' rest
      else
        none

/-- The end of a guarded schedule is reached by a guarded run. -/
theorem ReachableUnder.execUnder {ok : σ → α → Bool} {s s' : σ} {acts : List α}
    (h : S.ReachableUnder (fun s a => ok s a = true) s)
    (hrun : S.execUnder ok s acts = some s') :
    S.ReachableUnder (fun s a => ok s a = true) s' := by
  induction acts generalizing s with
  | nil =>
      simp only [System.execUnder, Option.some.injEq] at hrun
      exact hrun ▸ h
  | cons a rest ih =>
      cases hok : ok s a with
      | false => simp [System.execUnder, hok] at hrun
      | true =>
          cases hnext : S.next s a with
          | none => simp [System.execUnder, hok, hnext] at hrun
          | some s₁ =>
              simp only [System.execUnder, hok, hnext, if_true] at hrun
              exact ih (ReachableUnder.step h hok hnext) hrun

/-- The invariant rule for a guarded schedule executed from any state. -/
theorem execUnder_invariant {ok : σ → α → Bool} {I : σ → Prop}
    (hstep : ∀ s a s', I s → ok s a = true → S.next s a = some s' → I s')
    {s s' : σ} {acts : List α}
    (hs : I s)
    (hrun : S.execUnder ok s acts = some s') :
    I s' := by
  induction acts generalizing s with
  | nil =>
      simp only [System.execUnder, Option.some.injEq] at hrun
      exact hrun ▸ hs
  | cons a rest ih =>
      cases hok : ok s a with
      | false => simp [System.execUnder, hok] at hrun
      | true =>
          cases hnext : S.next s a with
          | none => simp [System.execUnder, hok, hnext] at hrun
          | some s₁ =>
              simp only [System.execUnder, hok, hnext, if_true] at hrun
              exact ih (hstep s a s₁ hs hok hnext) hrun

/-- The end of a guarded schedule executed from a start state, as a value. -/
theorem reachableUnder_get {ok : σ → α → Bool} {s : σ} {acts : List α}
    (hinit : S.init s)
    (hrun : (S.execUnder ok s acts).isSome = true) :
    S.ReachableUnder (fun s a => ok s a = true) ((S.execUnder ok s acts).get hrun) :=
  ReachableUnder.execUnder (ReachableUnder.init hinit) (Option.some_get hrun).symm

/-- The end of a schedule executed from a start state, as a value. -/
theorem reachable_get {s : σ} {acts : List α}
    (hinit : S.init s)
    (hrun : (S.exec s acts).isSome = true) :
    S.Reachable ((S.exec s acts).get hrun) :=
  reachable_of_exec hinit (Option.some_get hrun).symm

/-- A schedule executed from a start state shows that a state with a decidable
property is reached. -/
theorem exists_reachable {s : σ} (acts : List α) {p : σ → Prop} [DecidablePred p]
    (hinit : S.init s)
    (hrun : (S.exec s acts).any (fun s => decide (p s)) = true) :
    ∃ s', S.Reachable s' ∧ p s' := by
  obtain ⟨hs', hp⟩ := (Option.any_eq_true_iff_get _ _).mp hrun
  exact ⟨_, reachable_get hinit hs', of_decide_eq_true hp⟩

/-- The same for a guarded schedule. -/
theorem exists_reachableUnder (ok : σ → α → Bool) {s : σ} (acts : List α) {p : σ → Prop}
    [DecidablePred p]
    (hinit : S.init s)
    (hrun : (S.execUnder ok s acts).any (fun s => decide (p s)) = true) :
    ∃ s', S.ReachableUnder (fun s a => ok s a = true) s' ∧ p s' := by
  obtain ⟨hs', hp⟩ := (Option.any_eq_true_iff_get _ _).mp hrun
  exact ⟨_, reachableUnder_get hinit hs', of_decide_eq_true hp⟩

theorem exec_append (s : σ) (as bs : List α) :
    S.exec s (as ++ bs) = (S.exec s as).bind (fun s' => S.exec s' bs) := by
  induction as generalizing s with
  | nil => rfl
  | cons a rest ih =>
      cases hnext : S.next s a with
      | none => simp [System.exec, hnext]
      | some s₁ => simpa [System.exec, hnext] using ih s₁

end Runs

end System

/-- A forward simulation: every concrete step is matched by a schedule of the
abstract system between the images of its two states. -/
structure Simulation {σ : Type u} {α : Type v} {τ : Type w} {β : Type z}
    (S : System σ α)
    (T : System τ β) where
  abs : σ → τ
  inv : σ → Prop
  init_inv : ∀ s, S.init s → inv s
  init_abs : ∀ s, S.init s → T.init (abs s)
  step_inv : ∀ s a s', inv s → S.next s a = some s' → inv s'
  step_abs : ∀ s a s', inv s → S.next s a = some s' →
    ∃ acts, T.exec (abs s) acts = some (abs s')

/-- A simulation maps reachable states to reachable states. -/
theorem Simulation.reachable
    {σ : Type u} {α : Type v} {τ : Type w} {β : Type z}
    {S : System σ α} {T : System τ β}
    (sim : Simulation S T)
    {s : σ}
    (h : S.Reachable s) :
    T.Reachable (sim.abs s) := by
  have hboth : sim.inv s ∧ T.Reachable (sim.abs s) := by
    refine h.invariant (I := fun s => sim.inv s ∧ T.Reachable (sim.abs s)) ?_ ?_
    · intro s hs
      exact ⟨sim.init_inv s hs, System.Reachable.of_init (sim.init_abs s hs)⟩
    · intro s a s' hI hnext
      obtain ⟨hinv, hreach⟩ := hI
      obtain ⟨acts, hacts⟩ := sim.step_abs s a s' hinv hnext
      exact ⟨sim.step_inv s a s' hinv hnext, hreach.exec hacts⟩
  exact hboth.2

end Kernel
end Rttx
