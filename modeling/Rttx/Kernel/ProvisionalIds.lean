import Mathlib.Data.List.Nodup
import Mathlib.Data.List.Perm.Basic

/-!
# Kernel: edits under provisional ids

An authority holds a value with named parts.  A replica carries out an edit on
its own copy at once, names the part that it adds provisionally, and asks the
authority for the same edit.  The authority carries out what it is asked in
order and names the added parts itself; its answer makes the replica rename.

The replica is in step if its copy, renamed by the answers under way, is the
authority's value after the edits that are still to be carried out.  It stays
so as long as no edit targets a part with a provisional name.

**Results.**
* `Reconciling.issue`, `Reconciling.answer`, `Reconciling.acknowledge`: an edit,
  its answer and the renaming keep the replica in step.
* `Reconciling.settled`: with nothing under way the two values are equal.
* `Reconciling.accounted`: every part of the replica is the authority's or has
  the provisional name of an edit under way.
-/

namespace Rttx
namespace Kernel

universe u v w

/-- Values with named parts: an edit adds a part next to a target, and a part
can be renamed. -/
structure NamedEdits (ι : Type u) (ω : Type v) (σ : Type w) [DecidableEq ι] where
  ids : σ → List ι
  edit : ι → ι → ω → σ → σ
  rename : ι → ι → σ → σ
  ids_edit : ∀ {target added : ι} {op : ω} {s : σ}, (ids s).Nodup → target ∈ ids s →
    (ids (edit target added op s)).Perm (added :: ids s)
  ids_rename : ∀ (old new : ι) (s : σ),
    ids (rename old new s) = (ids s).map (fun i => if i = old then new else i)
  rename_edit : ∀ {old new target added : ι} (op : ω) (s : σ),
    old ≠ target → old ≠ added → new ≠ target →
    rename old new (edit target added op s) = edit target added op (rename old new s)
  rename_added : ∀ {target added : ι} (new : ι) (op : ω) {s : σ},
    target ≠ added → added ∉ ids s →
    rename added new (edit target added op s) = edit target new op s

/-- An edit that the replica has made and the authority has not. -/
structure ProvisionalEdit (ι : Type u) (ω : Type v) where
  target : ι
  added : ι
  op : ω
deriving DecidableEq

namespace NamedEdits

section Operations

variable {ι : Type u} {ω : Type v} {σ : Type w}
variable [DecidableEq ι]

/-- The edits in order. -/
def replay (E : NamedEdits ι ω σ) (pending : List (ProvisionalEdit ι ω)) (s : σ) : σ :=
  pending.foldl (fun s e => E.edit e.target e.added e.op s) s

/-- The answers in order; each names a part that had a provisional name. -/
def rekey (E : NamedEdits ι ω σ) (answers : List (ι × ι)) (s : σ) : σ :=
  answers.foldl (fun s a => E.rename a.1 a.2 s) s

/-- The provisional names of the edits under way, answered or not. -/
def provisional (answers : List (ι × ι)) (pending : List (ProvisionalEdit ι ω)) : List ι :=
  answers.map Prod.fst ++ pending.map ProvisionalEdit.added

end Operations

section Laws

variable {ι : Type u} {ω : Type v} {σ : Type w}
variable [DecidableEq ι]
variable {E : NamedEdits ι ω σ}

theorem mem_ids_edit {target : ι} {s : σ}
    (hnodup : (E.ids s).Nodup)
    (htarget : target ∈ E.ids s)
    (added : ι)
    (op : ω)
    (i : ι) :
    i ∈ E.ids (E.edit target added op s) ↔ i = added ∨ i ∈ E.ids s := by
  rw [(E.ids_edit hnodup htarget).mem_iff, List.mem_cons]

theorem nodup_edit {target added : ι} {op : ω} {s : σ}
    (hnodup : (E.ids s).Nodup)
    (htarget : target ∈ E.ids s)
    (hadded : added ∉ E.ids s) :
    (E.ids (E.edit target added op s)).Nodup := by
  rw [(E.ids_edit hnodup htarget).nodup_iff, List.nodup_cons]
  exact ⟨hadded, hnodup⟩

theorem mem_ids_rename {old : ι} {s : σ}
    (hold : old ∈ E.ids s)
    (new i : ι) :
    i ∈ E.ids (E.rename old new s) ↔ i = new ∨ (i ∈ E.ids s ∧ i ≠ old) := by
  rw [E.ids_rename, List.mem_map]
  constructor
  · rintro ⟨j, hj, rfl⟩
    by_cases h : j = old
    · exact Or.inl (if_pos h)
    · rw [if_neg h]
      exact Or.inr ⟨hj, h⟩
  · rintro (rfl | ⟨hi, hne⟩)
    · exact ⟨old, hold, if_pos rfl⟩
    · exact ⟨i, hi, if_neg hne⟩

theorem nodup_rename {old new : ι} {s : σ}
    (hnodup : (E.ids s).Nodup)
    (hnew : new ∉ E.ids s) :
    (E.ids (E.rename old new s)).Nodup := by
  rw [E.ids_rename]
  refine hnodup.map_on ?_
  intro i hi j hj h
  by_cases hiold : i = old
  · by_cases hjold : j = old
    · exact hiold.trans hjold.symm
    · rw [if_pos hiold, if_neg hjold] at h
      exact absurd (h ▸ hj) hnew
  · by_cases hjold : j = old
    · rw [if_neg hiold, if_pos hjold] at h
      exact absurd (h ▸ hi) hnew
    · rwa [if_neg hiold, if_neg hjold] at h

/-- Renamings pass an edit that uses none of the names. -/
theorem rekey_edit {answers : List (ι × ι)} {target added : ι}
    (hold : ∀ a ∈ answers, a.1 ≠ target ∧ a.1 ≠ added ∧ a.2 ≠ target)
    (op : ω)
    (s : σ) :
    E.rekey answers (E.edit target added op s) = E.edit target added op (E.rekey answers s) := by
  induction answers generalizing s with
  | nil => rfl
  | cons a rest ih =>
      obtain ⟨htarget, hadded, hnew⟩ := hold a List.mem_cons_self
      have hrest := ih (fun b hb => hold b (List.mem_cons_of_mem _ hb))
      simp only [rekey, List.foldl_cons] at hrest ⊢
      rw [E.rename_edit op s htarget hadded hnew, hrest]

/-- A renaming passes edits that use none of the names. -/
theorem rename_replay {pending : List (ProvisionalEdit ι ω)} {old new : ι}
    (hold : ∀ e ∈ pending, old ≠ e.target ∧ old ≠ e.added ∧ new ≠ e.target)
    (s : σ) :
    E.rename old new (E.replay pending s) = E.replay pending (E.rename old new s) := by
  induction pending generalizing s with
  | nil => rfl
  | cons e rest ih =>
      obtain ⟨htarget, hadded, hnew⟩ := hold e List.mem_cons_self
      have hrest := ih (fun d hd => hold d (List.mem_cons_of_mem _ hd))
      simp only [replay, List.foldl_cons] at hrest ⊢
      rw [hrest, E.rename_edit e.op s htarget hadded hnew]

end Laws

end NamedEdits

open NamedEdits

/-- The replica is in step with the authority's value: `answers` are on their
way to it, and `pending` is still to be carried out. -/
structure Reconciling {ι : Type u} {ω : Type v} {σ : Type w} [DecidableEq ι]
    (E : NamedEdits ι ω σ) (replica base : σ) (answers : List (ι × ι))
    (pending : List (ProvisionalEdit ι ω)) : Prop where
  agree : E.rekey answers replica = E.replay pending base
  nodup_base : (E.ids base).Nodup
  nodup_replica : (E.ids replica).Nodup
  nodup_provisional : (provisional answers pending).Nodup
  nodup_assigned : (answers.map Prod.snd).Nodup
  provisional_fresh : ∀ i ∈ provisional answers pending, i ∈ E.ids replica ∧ i ∉ E.ids base
  assigned : ∀ a ∈ answers, a.2 ∈ E.ids base ∧ a.2 ∉ E.ids replica
  targets : ∀ e ∈ pending, e.target ∈ E.ids base
  accounted : ∀ i ∈ E.ids replica, i ∈ E.ids base ∨ i ∈ provisional answers pending

namespace Reconciling

section Steps

variable {ι : Type u} {ω : Type v} {σ : Type w}
variable [DecidableEq ι]
variable {E : NamedEdits ι ω σ}
variable {replica base : σ} {answers : List (ι × ι)} {pending : List (ProvisionalEdit ι ω)}

/-- A replica that starts as a copy. -/
theorem start {s : σ}
    (hnodup : (E.ids s).Nodup) :
    Reconciling E s s [] [] where
  agree := rfl
  nodup_base := hnodup
  nodup_replica := hnodup
  nodup_provisional := List.nodup_nil
  nodup_assigned := List.nodup_nil
  provisional_fresh := by simp [provisional]
  assigned := by simp
  targets := by simp
  accounted := fun _ => Or.inl

/-- With nothing under way the replica has the authority's value. -/
theorem settled
    (h : Reconciling E replica base [] []) :
    replica = base :=
  h.agree

/-- The replica edits its copy and asks for the same edit. -/
theorem issue {target added : ι}
    (h : Reconciling E replica base answers pending)
    (htarget : target ∈ E.ids replica)
    (hknown : target ∉ provisional answers pending)
    (hreplica : added ∉ E.ids replica)
    (hbase : added ∉ E.ids base)
    (op : ω) :
    Reconciling E (E.edit target added op replica) base answers
      (pending ++ [⟨target, added, op⟩]) := by
  have hprovisional : provisional answers (pending ++ [⟨target, added, op⟩]) =
      provisional answers pending ++ [added] := by
    simp [provisional]
  have hanswer : ∀ a ∈ answers, a.1 ∈ provisional answers pending :=
    fun a ha => List.mem_append_left _ (List.mem_map_of_mem ha)
  have hmem := mem_ids_edit h.nodup_replica htarget added op
  refine ⟨?_, h.nodup_base, nodup_edit h.nodup_replica htarget hreplica, ?_, h.nodup_assigned,
    ?_, ?_, ?_, ?_⟩
  · have hapart : ∀ a ∈ answers, a.1 ≠ target ∧ a.1 ≠ added ∧ a.2 ≠ target := by
      intro a ha
      refine ⟨?_, ?_, ?_⟩
      · rintro rfl
        exact hknown (hanswer a ha)
      · rintro rfl
        exact hreplica (h.provisional_fresh a.1 (hanswer a ha)).1
      · rintro rfl
        exact (h.assigned a ha).2 htarget
    rw [rekey_edit hapart, h.agree]
    simp [replay]
  · rw [hprovisional]
    refine List.Nodup.append h.nodup_provisional (List.nodup_singleton added) ?_
    intro i hi hadded
    rw [List.mem_singleton] at hadded
    exact hreplica (hadded ▸ (h.provisional_fresh i hi).1)
  · intro i hi
    rw [hprovisional, List.mem_append, List.mem_singleton] at hi
    rcases hi with hold | rfl
    · obtain ⟨hin, hout⟩ := h.provisional_fresh i hold
      exact ⟨(hmem i).mpr (Or.inr hin), hout⟩
    · exact ⟨(hmem i).mpr (Or.inl rfl), hbase⟩
  · intro a ha
    obtain ⟨hin, hout⟩ := h.assigned a ha
    refine ⟨hin, ?_⟩
    rw [hmem, not_or]
    refine ⟨?_, hout⟩
    rintro heq
    exact hbase (heq ▸ hin)
  · intro e he
    rcases List.mem_append.mp he with hold | hnew
    · exact h.targets e hold
    · rw [List.mem_singleton] at hnew
      subst hnew
      exact (h.accounted target htarget).resolve_right hknown
  · intro i hi
    rw [hprovisional, List.mem_append, List.mem_singleton]
    rcases (hmem i).mp hi with rfl | hold
    · exact Or.inr (Or.inr rfl)
    · exact (h.accounted i hold).imp_right Or.inl

/-- The authority carries out the oldest edit under a name of its own. -/
theorem answer {e : ProvisionalEdit ι ω} {name : ι}
    (h : Reconciling E replica base answers (e :: pending))
    (hbase : name ∉ E.ids base)
    (hreplica : name ∉ E.ids replica) :
    Reconciling E replica (E.edit e.target name e.op base) (answers ++ [(e.added, name)])
      pending := by
  have htarget : e.target ∈ E.ids base := h.targets e List.mem_cons_self
  have hsplit : provisional answers (e :: pending) =
      answers.map Prod.fst ++ e.added :: pending.map ProvisionalEdit.added := rfl
  have hprovisional : provisional (answers ++ [(e.added, name)]) pending =
      provisional answers (e :: pending) := by
    simp [provisional]
  have hadded : e.added ∈ provisional answers (e :: pending) := by
    rw [hsplit]
    exact List.mem_append_right _ List.mem_cons_self
  have haddedBase : e.added ∉ E.ids base := (h.provisional_fresh e.added hadded).2
  have hmem := mem_ids_edit h.nodup_base htarget name e.op
  refine ⟨?_, nodup_edit h.nodup_base htarget hbase, h.nodup_replica, ?_, ?_, ?_, ?_, ?_, ?_⟩
  · have hapart : ∀ d ∈ pending, e.added ≠ d.target ∧ e.added ≠ d.added ∧ name ≠ d.target := by
      intro d hd
      have hdtarget := h.targets d (List.mem_cons_of_mem _ hd)
      refine ⟨?_, ?_, ?_⟩
      · intro heq
        exact haddedBase (heq ▸ hdtarget)
      · intro heq
        have hnodup := hsplit ▸ h.nodup_provisional
        have hcons := (List.nodup_append.mp hnodup).2.1
        exact (List.nodup_cons.mp hcons).1 (heq ▸ List.mem_map_of_mem hd)
      · intro heq
        exact hbase (heq ▸ hdtarget)
    have hne : e.target ≠ e.added := fun heq => haddedBase (heq ▸ htarget)
    have hagree := h.agree
    calc E.rekey (answers ++ [(e.added, name)]) replica
        = E.rename e.added name (E.rekey answers replica) := by simp [rekey]
      _ = E.rename e.added name (E.replay pending (E.edit e.target e.added e.op base)) := by
          rw [hagree]
          rfl
      _ = E.replay pending (E.rename e.added name (E.edit e.target e.added e.op base)) :=
          rename_replay hapart _
      _ = E.replay pending (E.edit e.target name e.op base) := by
          rw [E.rename_added name e.op hne haddedBase]
  · rw [hprovisional]
    exact h.nodup_provisional
  · rw [List.map_append]
    refine List.Nodup.append h.nodup_assigned (List.nodup_singleton name) ?_
    intro i hi hname
    obtain ⟨a, ha, rfl⟩ := List.mem_map.mp hi
    have heq : a.2 = name := by simpa using hname
    exact hbase (heq ▸ (h.assigned a ha).1)
  · intro i hi
    rw [hprovisional] at hi
    obtain ⟨hin, hout⟩ := h.provisional_fresh i hi
    refine ⟨hin, ?_⟩
    rw [hmem, not_or]
    refine ⟨?_, hout⟩
    rintro rfl
    exact hreplica hin
  · intro a ha
    rcases List.mem_append.mp ha with hold | hnew
    · obtain ⟨hin, hout⟩ := h.assigned a hold
      exact ⟨(hmem a.2).mpr (Or.inr hin), hout⟩
    · rw [List.mem_singleton] at hnew
      subst hnew
      exact ⟨(hmem name).mpr (Or.inl rfl), hreplica⟩
  · intro d hd
    exact (hmem d.target).mpr (Or.inr (h.targets d (List.mem_cons_of_mem _ hd)))
  · intro i hi
    rw [hprovisional]
    rcases h.accounted i hi with hin | hprov
    · exact Or.inl ((hmem i).mpr (Or.inr hin))
    · exact Or.inr hprov

/-- The replica renames the part that the oldest answer is about. -/
theorem acknowledge {added name : ι}
    (h : Reconciling E replica base ((added, name) :: answers) pending) :
    Reconciling E (E.rename added name replica) base answers pending := by
  have hsplit : provisional ((added, name) :: answers) pending =
      added :: provisional answers pending := rfl
  obtain ⟨hnotMem, hnodup⟩ := List.nodup_cons.mp (hsplit ▸ h.nodup_provisional)
  obtain ⟨hnotAssigned, hnodupAssigned⟩ := List.nodup_cons.mp h.nodup_assigned
  have hadded : added ∈ E.ids replica :=
    (h.provisional_fresh added (hsplit ▸ List.mem_cons_self)).1
  obtain ⟨hname, hnameOut⟩ := h.assigned (added, name) List.mem_cons_self
  have hmem := mem_ids_rename (E := E) hadded name
  refine ⟨h.agree, h.nodup_base, nodup_rename h.nodup_replica hnameOut, hnodup, hnodupAssigned,
    ?_, ?_, h.targets, ?_⟩
  · intro i hi
    obtain ⟨hin, hout⟩ := h.provisional_fresh i (hsplit ▸ List.mem_cons_of_mem _ hi)
    refine ⟨(hmem i).mpr (Or.inr ⟨hin, ?_⟩), hout⟩
    rintro rfl
    exact hnotMem hi
  · intro a ha
    obtain ⟨hin, hout⟩ := h.assigned a (List.mem_cons_of_mem _ ha)
    refine ⟨hin, ?_⟩
    rw [hmem, not_or]
    refine ⟨?_, fun hold => hout hold.1⟩
    intro heq
    exact hnotAssigned (List.mem_map.mpr ⟨a, ha, heq⟩)
  · intro i hi
    rcases (hmem i).mp hi with rfl | ⟨hold, hne⟩
    · exact Or.inl hname
    · rcases h.accounted i hold with hin | hprov
      · exact Or.inl hin
      · rw [hsplit, List.mem_cons] at hprov
        exact Or.inr (hprov.resolve_left hne)

end Steps

end Reconciling

end Kernel
end Rttx
