import Mathlib.Data.List.Perm.Basic

/-!
# Kernel: feeds of a replica

A replica holds a copy of a value and is sent the changes made to the value.
Its feed is the copy together with the changes that are on their way to it, in
the order in which they were made.  The feed leads to a value if the replica
will hold that value once it has applied them.

A change may be delivered before older ones when it commutes with each of them.

**Results.**
* `Leads.owe`: a change that is sent keeps the feed in step.
* `Leads.deliver`: so does a delivery that only overtakes changes it commutes
  with.
* `Leads.copy_eq`: a replica to which nothing is on its way holds the value.
-/

namespace Rttx
namespace Kernel

universe u v

/-- A replica's copy, and the changes on their way to it, oldest first. -/
structure Feed (ρ : Type u) (μ : Type v) where
  copy : ρ
  due : List μ

namespace Feed

section Operations

variable {ρ : Type u} {μ : Type v}

/-- One more change is on its way. -/
def owe (f : Feed ρ μ) (m : μ) : Feed ρ μ :=
  { f with due := f.due ++ [m] }

variable [DecidableEq μ]

/-- The replica applies a change that has reached it. -/
def deliver (apply : ρ → μ → ρ) (f : Feed ρ μ) (m : μ) : Feed ρ μ :=
  ⟨apply f.copy m, f.due.erase m⟩

/-- The changes that are older than `m` and still on their way. -/
def earlier (f : Feed ρ μ) (m : μ) : List μ :=
  f.due.takeWhile (fun k => k ≠ m)

end Operations

section Laws

variable {ρ : Type u} {μ : Type v}
variable {apply : ρ → μ → ρ}

/-- The replica holds `value` once it has applied what is on its way. -/
def Leads (apply : ρ → μ → ρ) (f : Feed ρ μ) (value : ρ) : Prop :=
  f.due.foldl apply f.copy = value

/-- Applying two changes in either order gives the same. -/
def Commutes (apply : ρ → μ → ρ) (m k : μ) : Prop :=
  ∀ r, apply (apply r m) k = apply (apply r k) m

theorem Leads.owe {f : Feed ρ μ} {value value' : ρ} {m : μ}
    (h : f.Leads apply value)
    (hchange : apply value m = value') :
    (f.owe m).Leads apply value' := by
  unfold Leads Feed.owe at *
  rw [List.foldl_append, h]
  exact hchange

theorem Leads.copy_eq {f : Feed ρ μ} {value : ρ}
    (h : f.Leads apply value)
    (hdue : f.due = []) :
    f.copy = value := by
  unfold Leads at h
  rw [hdue] at h
  exact h

/-- A change that commutes with those before it may be applied first. -/
theorem foldl_front {older : List μ} {m : μ}
    (h : ∀ k ∈ older, Commutes apply k m)
    (r : ρ) :
    (older ++ [m]).foldl apply r = older.foldl apply (apply r m) := by
  induction older generalizing r with
  | nil => rfl
  | cons k rest ih =>
      have hrest := ih (fun k' hk' => h k' (List.mem_cons_of_mem _ hk')) (apply r k)
      rw [List.cons_append, List.foldl_cons, hrest, h k List.mem_cons_self r]
      rfl

variable [DecidableEq μ]

theorem due_eq_earlier {f : Feed ρ μ} {m : μ}
    (h : m ∈ f.due) :
    ∃ later, f.due = f.earlier m ++ m :: later ∧ f.due.erase m = f.earlier m ++ later := by
  obtain ⟨copy, due⟩ := f
  simp only [earlier]
  induction due with
  | nil => cases h
  | cons k rest ih =>
      by_cases hk : k = m
      · subst hk
        exact ⟨rest, by simp, by simp⟩
      · have hin : m ∈ rest := (List.mem_cons.mp h).resolve_left (fun heq => hk heq.symm)
        obtain ⟨later, hdue, herase⟩ := ih hin
        refine ⟨later, ?_, ?_⟩
        · simpa [hk] using hdue
        · simpa [hk] using herase

/-- A delivery that only overtakes changes it commutes with. -/
theorem Leads.deliver {f : Feed ρ μ} {value : ρ} {m : μ}
    (h : f.Leads apply value)
    (hmem : m ∈ f.due)
    (hcommutes : ∀ k ∈ f.earlier m, Commutes apply k m) :
    (f.deliver apply m).Leads apply value := by
  obtain ⟨later, hdue, herase⟩ := due_eq_earlier hmem
  have hsplit : f.earlier m ++ m :: later = (f.earlier m ++ [m]) ++ later := by simp
  unfold Leads at h ⊢
  rw [← h, hdue, Feed.deliver, herase, hsplit, List.foldl_append, List.foldl_append,
    foldl_front hcommutes]

end Laws

end Feed

end Kernel
end Rttx
