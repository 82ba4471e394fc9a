import Mathlib.Data.List.AList
import Mathlib.Data.List.Induction

/-!
# Kernel: finite maps with in-place update

A hash map is an association list with distinct keys.  Insertion, removal and
look-up are those of the association list; this file adds the operations that
work through a reference into the map: updating one value in place, and
visiting every value.

The iteration order of the list is one of the orders a hash map may show, so
nothing outside this file depends on it.

**Results.**
* `lookup_modify_self`, `lookup_modify_ne`: an in-place update changes one
  value.
* `mem_modify`, `lookup_mapValues`: neither operation changes the key set.
* `mem_values`, `values_pairwise`, `flatMap_values`: the values are those found under
  some key, each once.
* `lookup_modifyAll`, `lookup_modifyAll_of_nodup`, `lookup_insertAll_of_mem`:
  updates and insertions over a list of keys.
* `lookup_foldl_insert`: what was stored can be read back.
* `lookup_eraseAll`, `lookup_retain`: removing several keys.
* `findKey_eq_some`, `findKey_eq_none`: a search for an entry by its value.
-/

namespace Rttx
namespace Kernel

universe u v w

/-- A finite map: an association list with distinct keys. -/
abbrev HashMap (κ : Type u) (ν : Type v) :=
  AList (fun _ : κ => ν)

namespace HashMap

section Maps

variable {κ : Type u} {ν : Type v}

/-- The values of the map, in iteration order. -/
def values (m : HashMap κ ν) : List ν :=
  m.entries.map (fun e => e.2)

/-- Apply `f` to every value. -/
def mapValues {ν' : Type w} (f : ν → ν') (m : HashMap κ ν) : HashMap κ ν' :=
  ⟨m.entries.map (fun e => ⟨e.1, f e.2⟩), by
    have hkeys := m.nodupKeys
    simpa [List.NodupKeys, List.keys, List.map_map, Function.comp_def] using hkeys⟩

/-- The key of the first entry whose value satisfies `p`. -/
def findKey (p : ν → Bool) (m : HashMap κ ν) : Option κ :=
  (m.entries.find? (fun e => p e.2)).map (fun e => e.1)

variable [DecidableEq κ]

/-- Update the value under `k`, if there is one. -/
def modify (m : HashMap κ ν) (k : κ) (f : ν → ν) : HashMap κ ν :=
  match m.lookup k with
  | none => m
  | some v => m.insert k (f v)

@[simp] theorem lookup_modify_self (m : HashMap κ ν) (k : κ) (f : ν → ν) :
    (m.modify k f).lookup k = (m.lookup k).map f := by
  unfold modify
  cases hk : m.lookup k with
  | none => simp [hk]
  | some v => simp

theorem lookup_modify_ne (m : HashMap κ ν) {k j : κ} (f : ν → ν)
    (hne : j ≠ k) :
    (m.modify k f).lookup j = m.lookup j := by
  unfold modify
  cases hk : m.lookup k with
  | none => rfl
  | some v => simp [AList.lookup_insert_ne hne]

theorem lookup_modify (m : HashMap κ ν) (k j : κ) (f : ν → ν) :
    (m.modify k f).lookup j =
      if j = k then (m.lookup j).map f else m.lookup j := by
  by_cases hj : j = k
  · subst hj; simp
  · simp [hj, lookup_modify_ne m f hj]

@[simp] theorem mem_modify (m : HashMap κ ν) (k j : κ) (f : ν → ν) :
    j ∈ m.modify k f ↔ j ∈ m := by
  rw [← AList.lookup_isSome, ← AList.lookup_isSome, lookup_modify]
  by_cases hj : j = k <;> simp [hj]

theorem lookup_insert_eq (m : HashMap κ ν) (k j : κ) (v : ν) :
    (m.insert k v).lookup j = if j = k then some v else m.lookup j := by
  by_cases hj : j = k
  · subst hj; simp
  · simp [hj, AList.lookup_insert_ne hj]

/-- What is found after an insertion is the new value, or was there before. -/
theorem lookup_insert_cases {m : HashMap κ ν} {k j : κ} {v u : ν}
    (h : (m.insert k v).lookup j = some u) :
    (j = k ∧ u = v) ∨ (j ≠ k ∧ m.lookup j = some u) := by
  rw [lookup_insert_eq] at h
  by_cases hj : j = k
  · rw [if_pos hj, Option.some.injEq] at h
    exact Or.inl ⟨hj, h.symm⟩
  · rw [if_neg hj] at h
    exact Or.inr ⟨hj, h⟩

theorem lookup_erase_eq (m : HashMap κ ν) (k j : κ) :
    (m.erase k).lookup j = if j = k then none else m.lookup j := by
  by_cases hj : j = k
  · subst hj; simp
  · simp [hj, AList.lookup_erase_ne hj]

/-- What is found after an erasure was there before, under another key. -/
theorem lookup_erase_cases {m : HashMap κ ν} {k j : κ} {u : ν}
    (h : (m.erase k).lookup j = some u) :
    j ≠ k ∧ m.lookup j = some u := by
  rw [lookup_erase_eq] at h
  by_cases hj : j = k
  · simp [hj] at h
  · rw [if_neg hj] at h
    exact ⟨hj, h⟩

@[simp] theorem lookup_mapValues {ν' : Type w} (f : ν → ν') (m : HashMap κ ν)
    (k : κ) :
    (m.mapValues f).lookup k = (m.lookup k).map f := by
  have hlist : ∀ l : List (Sigma fun _ : κ => ν),
      List.dlookup k (l.map (fun e => (⟨e.1, f e.2⟩ : Sigma fun _ : κ => ν'))) =
        (List.dlookup k l).map f := by
    intro l
    induction l with
    | nil => rfl
    | cons e rest ih =>
        obtain ⟨j, v⟩ := e
        by_cases hj : k = j
        · subst hj
          simp
        · have hleft := List.dlookup_cons_ne (β := fun _ : κ => ν) rest ⟨j, v⟩ hj
          have hright := List.dlookup_cons_ne (β := fun _ : κ => ν')
            (rest.map (fun e => ⟨e.1, f e.2⟩)) ⟨j, f v⟩ hj
          rw [hleft, ← ih]
          exact hright
  exact hlist m.entries

theorem lookup_eq_some_iff_mem (m : HashMap κ ν) (k : κ) (v : ν) :
    m.lookup k = some v ↔ (⟨k, v⟩ : Sigma fun _ : κ => ν) ∈ m.entries :=
  AList.mem_lookup_iff

theorem mem_values {m : HashMap κ ν} {v : ν} :
    v ∈ m.values ↔ ∃ k, m.lookup k = some v := by
  simp only [values, List.mem_map, lookup_eq_some_iff_mem]
  constructor
  · rintro ⟨⟨k, u⟩, hmem, rfl⟩
    exact ⟨k, hmem⟩
  · rintro ⟨k, hmem⟩
    exact ⟨⟨k, v⟩, hmem, rfl⟩

/-- The values of distinct keys stand in a relation. -/
theorem values_pairwise {m : HashMap κ ν} {R : ν → ν → Prop}
    (h : ∀ j k u v, m.lookup j = some u → m.lookup k = some v → j ≠ k → R u v) :
    m.values.Pairwise R := by
  have hkeys : m.entries.Pairwise (fun e e' => e.1 ≠ e'.1) :=
    List.pairwise_map.mp m.nodupKeys
  rw [values, List.pairwise_map]
  refine hkeys.imp_of_mem ?_
  intro e e' he he' hne
  exact h e.1 e'.1 e.2 e'.2 ((lookup_eq_some_iff_mem m e.1 e.2).mpr he)
    ((lookup_eq_some_iff_mem m e'.1 e'.2).mpr he') hne

/-- A list built from the values to which the value under one key contributes only. -/
theorem flatMap_values {β : Type w} {m : HashMap κ ν} {k : κ} {v : ν} {f : ν → List β}
    (hv : m.lookup k = some v)
    (hothers : ∀ j u, m.lookup j = some u → j ≠ k → f u = []) :
    m.values.flatMap f = f v := by
  have hlist : ∀ l : List (Sigma fun _ : κ => ν), l.NodupKeys → ⟨k, v⟩ ∈ l →
      (∀ e ∈ l, e.1 ≠ k → f e.2 = []) → l.flatMap (fun e => f e.2) = f v := by
    intro l
    induction l with
    | nil => intro _ hmem _; cases hmem
    | cons e rest ih =>
        intro hnodup hmem hrest
        obtain ⟨hfresh, hnodup'⟩ := List.nodupKeys_cons.mp hnodup
        rw [List.flatMap_cons]
        by_cases hk : e.1 = k
        · have hhead : e = ⟨k, v⟩ := by
            refine ((List.mem_cons.mp hmem).resolve_right ?_).symm
            intro hin
            exact hfresh (hk ▸ List.mem_keys_of_mem hin)
          have hnone : rest.flatMap (fun e => f e.2) = [] := by
            rw [List.flatMap_eq_nil_iff]
            intro e' he'
            refine hrest e' (List.mem_cons_of_mem _ he') ?_
            rintro rfl
            exact hfresh (hk ▸ List.mem_keys_of_mem he')
          rw [hnone, hhead, List.append_nil]
        · rw [hrest e List.mem_cons_self hk, List.nil_append]
          refine ih hnodup' ?_ (fun e' he' => hrest e' (List.mem_cons_of_mem _ he'))
          refine (List.mem_cons.mp hmem).resolve_left ?_
          rintro rfl
          exact hk rfl
  have hmem := (lookup_eq_some_iff_mem m k v).mp hv
  have hall := hlist m.entries m.nodupKeys hmem (fun e he hne =>
    hothers e.1 e.2 ((lookup_eq_some_iff_mem m e.1 e.2).mpr he) hne)
  rw [values, List.flatMap_map]
  exact hall

/-- Update the values under several keys. -/
def modifyAll (f : ν → ν) (ks : List κ) (m : HashMap κ ν) : HashMap κ ν :=
  ks.foldl (fun m k => m.modify k f) m

/-- Updating by an idempotent function: each key counts once. -/
theorem lookup_modifyAll {f : ν → ν}
    (hidem : ∀ v, f (f v) = f v)
    (ks : List κ)
    (m : HashMap κ ν)
    (j : κ) :
    (m.modifyAll f ks).lookup j =
      if j ∈ ks then (m.lookup j).map f else m.lookup j := by
  induction ks generalizing m with
  | nil => simp [modifyAll]
  | cons k rest ih =>
      have hstep : m.modifyAll f (k :: rest) = (m.modify k f).modifyAll f rest := rfl
      rw [hstep, ih, lookup_modify]
      by_cases hjk : j = k
      · subst hjk
        cases hj : m.lookup j with
        | none => simp
        | some v => simp [hidem]
      · simp [hjk]

/-- Updating several keys, each once. -/
theorem lookup_modifyAll_of_nodup {ks : List κ}
    (hnodup : ks.Nodup)
    (f : ν → ν)
    (m : HashMap κ ν)
    (j : κ) :
    (m.modifyAll f ks).lookup j = if j ∈ ks then (m.lookup j).map f else m.lookup j := by
  induction ks generalizing m with
  | nil => simp [modifyAll]
  | cons k rest ih =>
      obtain ⟨hfresh, hrest⟩ := List.nodup_cons.mp hnodup
      have hstep : m.modifyAll f (k :: rest) = (m.modify k f).modifyAll f rest := rfl
      rw [hstep, ih hrest, lookup_modify]
      by_cases hjk : j = k
      · subst hjk
        simp [hfresh]
      · simp [hjk]

/-- Store several entries. -/
def insertAll (key : ν → κ) (vs : List ν) (m : HashMap κ ν) : HashMap κ ν :=
  vs.foldl (fun m v => m.insert (key v) v) m

theorem lookup_insertAll_of_not_mem {key : ν → κ} {vs : List ν} {j : κ}
    (m : HashMap κ ν)
    (h : ∀ v ∈ vs, key v ≠ j) :
    (m.insertAll key vs).lookup j = m.lookup j := by
  induction vs generalizing m with
  | nil => rfl
  | cons v rest ih =>
      have hstep : m.insertAll key (v :: rest) =
          HashMap.insertAll key rest (m.insert (key v) v) := rfl
      have hv : j ≠ key v := fun heq => h v (by simp) heq.symm
      rw [hstep, ih _ (fun u hu => h u (List.mem_cons_of_mem _ hu))]
      exact AList.lookup_insert_ne hv

theorem mem_insertAll {key : ν → κ} {vs : List ν} {j : κ} {m : HashMap κ ν} :
    j ∈ m.insertAll key vs ↔ j ∈ m ∨ ∃ v ∈ vs, key v = j := by
  induction vs generalizing m with
  | nil => simp [insertAll]
  | cons v rest ih =>
      have hstep : m.insertAll key (v :: rest) =
          HashMap.insertAll key rest (m.insert (key v) v) := rfl
      rw [hstep, ih, AList.mem_insert]
      simp only [List.mem_cons, exists_eq_or_imp]
      constructor
      · rintro ((heq | hin) | hrest)
        · exact Or.inr (Or.inl heq.symm)
        · exact Or.inl hin
        · exact Or.inr (Or.inr hrest)
      · rintro (hin | heq | hrest)
        · exact Or.inl (Or.inr hin)
        · exact Or.inl (Or.inl heq.symm)
        · exact Or.inr hrest

/-- Entries that agree on their keys can be read back. -/
theorem lookup_insertAll_of_mem {key : ν → κ} {vs : List ν} {v : ν}
    (m : HashMap κ ν)
    (hv : v ∈ vs)
    (hagree : ∀ u ∈ vs, key u = key v → u = v) :
    (m.insertAll key vs).lookup (key v) = some v := by
  induction vs generalizing m with
  | nil => simp at hv
  | cons u rest ih =>
      have hstep : m.insertAll key (u :: rest) =
          HashMap.insertAll key rest (m.insert (key u) u) := rfl
      rw [hstep]
      by_cases hrest : v ∈ rest
      · exact ih _ hrest (fun x hx => hagree x (List.mem_cons_of_mem _ hx))
      · have huv : u = v := by
          rcases List.mem_cons.mp hv with heq | hin
          · exact heq.symm
          · exact absurd hin hrest
        subst huv
        rw [lookup_insertAll_of_not_mem]
        · simp
        · intro x hx hkey
          exact hrest (hagree x (List.mem_cons_of_mem _ hx) hkey ▸ hx)

/-- Entries that agree on their keys are the entries of the map they are stored in. -/
theorem lookup_foldl_insert {entries : List (κ × ν)} {k : κ} {v : ν}
    (hagree : ∀ e ∈ entries, ∀ e' ∈ entries, e.1 = e'.1 → e.2 = e'.2) :
    (entries.foldl (fun m e => m.insert e.1 e.2) (∅ : HashMap κ ν)).lookup k = some v ↔
      (k, v) ∈ entries := by
  induction entries using List.reverseRecOn with
  | nil => simp
  | append_singleton rest e ih =>
      have hrest := ih fun a ha b hb =>
        hagree a (List.mem_append_left _ ha) b (List.mem_append_left _ hb)
      rw [List.foldl_append, List.foldl_cons, List.foldl_nil, lookup_insert_eq, List.mem_append,
        List.mem_singleton]
      by_cases hk : k = e.1
      · rw [if_pos hk, Option.some.injEq]
        constructor
        · rintro rfl
          exact Or.inr (Prod.ext hk rfl)
        · rintro (hin | heq)
          · exact (hagree (k, v) (List.mem_append_left _ hin) e (by simp) hk).symm
          · exact heq ▸ rfl
      · rw [if_neg hk, hrest]
        constructor
        · exact Or.inl
        · rintro (hin | heq)
          · exact hin
          · exact absurd (congrArg Prod.fst heq) hk

/-- Remove several keys. -/
def eraseAll (ks : List κ) (m : HashMap κ ν) : HashMap κ ν :=
  ks.foldl (fun m k => m.erase k) m

theorem lookup_eraseAll (ks : List κ) (m : HashMap κ ν) (j : κ) :
    (m.eraseAll ks).lookup j = if j ∈ ks then none else m.lookup j := by
  induction ks generalizing m with
  | nil => simp [eraseAll]
  | cons k rest ih =>
      have hstep : m.eraseAll (k :: rest) = HashMap.eraseAll rest (m.erase k) := rfl
      rw [hstep, ih, lookup_erase_eq]
      by_cases hjk : j = k
      · simp [hjk]
      · simp [hjk]

/-- Keep the entries whose key satisfies `p`. -/
def retain (p : κ → Bool) (m : HashMap κ ν) : HashMap κ ν :=
  m.eraseAll (m.keys.filter (fun k => !p k))

theorem lookup_retain (p : κ → Bool) (m : HashMap κ ν) (j : κ) :
    (m.retain p).lookup j = if p j then m.lookup j else none := by
  rw [retain, lookup_eraseAll]
  cases hp : p j with
  | true => simp [hp]
  | false =>
      by_cases hj : j ∈ m.keys
      · simp [hp, hj]
      · have hnone : m.lookup j = none := AList.lookup_eq_none.mpr hj
        simp [hnone]

/-- What a successful search returns. -/
theorem findKey_eq_some {p : ν → Bool} {m : HashMap κ ν} {k : κ}
    (h : m.findKey p = some k) :
    ∃ v, m.lookup k = some v ∧ p v = true := by
  unfold findKey at h
  obtain ⟨e, he, hk⟩ := Option.map_eq_some_iff.mp h
  subst hk
  have hp : p e.2 = true := by simpa using List.find?_some he
  exact ⟨e.2, (lookup_eq_some_iff_mem m _ _).mpr (List.mem_of_find?_eq_some he), hp⟩

/-- A search fails exactly when no value satisfies the predicate. -/
theorem findKey_eq_none {p : ν → Bool} {m : HashMap κ ν} :
    m.findKey p = none ↔ ∀ k v, m.lookup k = some v → p v = false := by
  unfold findKey
  rw [Option.map_eq_none_iff, List.find?_eq_none]
  constructor
  · intro h k v hkv
    simpa using h ⟨k, v⟩ ((lookup_eq_some_iff_mem m k v).mp hkv)
  · intro h e he
    simpa using h e.1 e.2 ((lookup_eq_some_iff_mem m _ _).mpr he)

end Maps

end HashMap

end Kernel
end Rttx
