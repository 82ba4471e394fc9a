import Mathlib.Logic.Function.Basic

/-!
# Kernel: file operations and crashes

A directory gives names to files, links and folders.  A script is a run of file
operations of which some may fail; a crash may come between any two of them, or
while one is writing, which leaves a first part of what it writes.

Reading and writing follow a link; removing and renaming act on the name itself.
A folder is taken to hold something, so that nothing is renamed onto it.

**Results.**
* `Dir.read_set`: a name that does not lead to another reads the same when that one
  changes.
* `Script.leaves_start`, `Script.leaves_run`: a script may leave the state it starts in
  and the one it ends in.
* `Script.Leaves.invariant`: what every operation keeps holds in every state that a
  script leaves.
-/

namespace Rttx
namespace Kernel

universe u

section Directories

variable {N : Type u}

/-- What a name stands for. -/
inductive Node (N : Type u)
  | file (data : List UInt8)
  | link (target : N)
  | folder
deriving DecidableEq

abbrev Dir (N : Type u) := N → Option (Node N)

namespace Dir

/-- The name behind a link. -/
def resolve (d : Dir N) (n : N) : N :=
  match d n with
  | some (.link target) => target
  | _ => n

/-- The content of the file `n`. -/
def read (d : Dir N) (n : N) : Option (List UInt8) :=
  match d (d.resolve n) with
  | some (.file data) => some data
  | _ => none

/-- There is a file or a folder under `n`. -/
def present (d : Dir N) (n : N) : Bool :=
  match d (d.resolve n) with
  | some (.file _) | some .folder => true
  | _ => false

variable [DecidableEq N]

/-- Put `node` under `n`. -/
def set (d : Dir N) (n : N) (node : Option (Node N)) : Dir N :=
  Function.update d n node

@[simp] theorem set_self (d : Dir N) (n : N) (node : Option (Node N)) : d.set n node n = node :=
  Function.update_self ..

theorem set_of_ne {n m : N}
    (h : m ≠ n)
    (d : Dir N) (node : Option (Node N)) :
    d.set n node m = d m :=
  Function.update_of_ne h ..

/-- A name that does not lead to `n` reads as before. -/
theorem read_set {d : Dir N} {n m : N}
    (h : m ≠ n)
    (hlink : d.resolve m ≠ n)
    (node : Option (Node N)) :
    (d.set n node).read m = d.read m := by
  have hresolve : (d.set n node).resolve m = d.resolve m := by
    rw [resolve, set_of_ne h, resolve]
  rw [read, hresolve, set_of_ne hlink, read]

omit [DecidableEq N] in
/-- A name that is no link leads to itself. -/
theorem resolve_plain {d : Dir N} {n : N}
    (h : ∀ target, d n ≠ some (.link target)) :
    d.resolve n = n := by
  rw [resolve]
  split
  · rename_i target hlink
    exact absurd hlink (h target)
  · rfl

omit [DecidableEq N] in
theorem read_plain {d : Dir N} {n : N} {data : List UInt8}
    (h : ∀ target, d n ≠ some (.link target)) :
    d.read n = some data ↔ d n = some (.file data) := by
  rw [read, resolve_plain h]
  constructor
  · intro hread
    split at hread
    · rename_i found hfound
      rw [hfound, Option.some.inj hread]
    · cases hread
  · intro hfile
    rw [hfile]

omit [DecidableEq N] in
/-- Only a link to `n` leads there. -/
theorem resolve_ne {d : Dir N} {n m : N}
    (h : m ≠ n)
    (hlink : d m ≠ some (.link n)) :
    d.resolve m ≠ n := by
  rw [resolve]
  split
  · rename_i target hm
    rintro rfl
    exact hlink hm
  · exact h

omit [DecidableEq N] in
theorem present_of_read {d : Dir N} {n : N} {data : List UInt8}
    (h : d.read n = some data) :
    d.present n = true := by
  rw [read] at h
  rw [present]
  split at h
  · rename_i found hfound
    rw [hfound]
  · cases h

theorem present_set {d : Dir N} {n m : N}
    (h : m ≠ n)
    (hlink : d.resolve m ≠ n)
    (node : Option (Node N)) :
    (d.set n node).present m = d.present m := by
  have hresolve : (d.set n node).resolve m = d.resolve m := by
    rw [resolve, set_of_ne h, resolve]
  rw [present, hresolve, set_of_ne hlink, present]

end Dir

end Directories

section Operations

variable {N : Type u}

/-- A file operation. -/
inductive FileOp (N : Type u)
  | write (n : N) (data : List UInt8)
  | copy (src dst : N)
  | remove (n : N)
  | symlink (target n : N)
  | rename (src dst : N)
deriving DecidableEq

/-- A rename is refused onto a folder, and for a folder onto anything. -/
def renameRefused : Node N → Option (Node N) → Bool
  | _, none => false
  | _, some .folder => true
  | .folder, some _ => true
  | _, some _ => false

variable [DecidableEq N]

namespace FileOp

/-- Write `data` through `n`. -/
def writeFile (n : N) (data : List UInt8) (d : Dir N) : Option (Dir N) :=
  match d (d.resolve n) with
  | none | some (.file _) => some (d.set (d.resolve n) (some (.file data)))
  | _ => none

/-- The operation, if it succeeds. -/
def apply : FileOp N → Dir N → Option (Dir N)
  | .write n data, d => writeFile n data d
  | .copy src dst, d => (d.read src).bind fun data => writeFile dst data d
  | .remove n, d =>
      match d n with
      | some (.file _) | some (.link _) => some (d.set n none)
      | _ => none
  | .symlink target n, d =>
      match d n with
      | none => some (d.set n (some (.link target)))
      | some _ => none
  | .rename src dst, d =>
      (d src).bind fun node =>
        if renameRefused node (d dst) then none
        else some ((d.set src none).set dst (some node))

/-- What an interrupted operation may leave: a first part of what it writes. -/
def Torn : FileOp N → Dir N → Dir N → Prop
  | .write n data, d, c => ∃ k, writeFile n (data.take k) d = some c
  | .copy src dst, d, c => ∃ data k, d.read src = some data ∧ writeFile dst (data.take k) d = some c
  | _, _, _ => False

theorem writeFile_eq_some {n : N} {data : List UInt8} {d c : Dir N}
    (h : writeFile n data d = some c) :
    c = d.set (d.resolve n) (some (.file data)) := by
  unfold writeFile at h
  split at h
  · exact (Option.some.inj h).symm
  · exact (Option.some.inj h).symm
  · cases h

/-- A file is written where it is. -/
theorem writeFile_plain {d c : Dir N} {n : N} {data : List UInt8}
    (h : ∀ target, d n ≠ some (.link target))
    (hwrite : writeFile n data d = some c) :
    c = d.set n (some (.file data)) := by
  have hset := writeFile_eq_some hwrite
  rwa [Dir.resolve_plain h] at hset

/-- What is no folder can be written. -/
theorem writeFile_of_plain {d : Dir N} {n : N}
    (h : ∀ target, d n ≠ some (.link target))
    (hfolder : d n ≠ some .folder)
    (data : List UInt8) :
    writeFile n data d = some (d.set n (some (.file data))) := by
  rw [writeFile, Dir.resolve_plain h]
  cases hnode : d n with
  | none => rfl
  | some node =>
      cases node with
      | file old => rfl
      | link target => exact absurd hnode (h target)
      | folder => exact absurd hnode hfolder

/-- Nothing is written into a folder. -/
theorem writeFile_not_folder {n : N} {data : List UInt8} {d c : Dir N}
    (h : writeFile n data d = some c) :
    d (d.resolve n) ≠ some .folder := by
  intro hfolder
  rw [writeFile, hfolder] at h
  cases h

theorem remove_eq_some {n : N} {d c : Dir N}
    (h : (remove n).apply d = some c) :
    c = d.set n none := by
  rw [apply] at h
  split at h
  · exact (Option.some.inj h).symm
  · exact (Option.some.inj h).symm
  · cases h

end FileOp

/-- A script: operations that must succeed, operations that may fail, and
operations that are left out where a name is free. -/
inductive Script (N : Type u)
  | done
  | must (op : FileOp N) (next : Script N)
  | may (op : FileOp N) (next : Script N)
  | mustIf (n : N) (op : FileOp N) (next : Script N)

namespace Script

/-- Run the script; it stops where an operation that must succeed fails. -/
def run : Script N → Dir N → Dir N × Bool
  | .done, d => (d, true)
  | .must op next, d =>
      match op.apply d with
      | some d' => next.run d'
      | none => (d, false)
  | .may op next, d => next.run ((op.apply d).getD d)
  | .mustIf n op next, d =>
      if d.present n then
        match op.apply d with
        | some d' => next.run d'
        | none => (d, false)
      else
        next.run d

/-- The states that a crash in the script may leave, its end included. -/
def Leaves : Script N → Dir N → Dir N → Prop
  | .done, d, c => c = d
  | .must op next, d, c =>
      c = d ∨ op.Torn d c ∨ ∃ d', op.apply d = some d' ∧ next.Leaves d' c
  | .may op next, d, c =>
      c = d ∨ op.Torn d c ∨ next.Leaves ((op.apply d).getD d) c
  | .mustIf n op next, d, c =>
      if d.present n then
        c = d ∨ op.Torn d c ∨ ∃ d', op.apply d = some d' ∧ next.Leaves d' c
      else
        next.Leaves d c

/-- A crash may come before the first operation. -/
theorem leaves_start (s : Script N) (d : Dir N) : s.Leaves d d := by
  induction s with
  | done => rfl
  | must op next _ => exact Or.inl rfl
  | may op next _ => exact Or.inl rfl
  | mustIf n op next ih =>
      rw [Leaves]
      split
      · exact Or.inl rfl
      · exact ih

/-- A script that is not interrupted leaves the state it ends in. -/
theorem leaves_run (s : Script N) (d : Dir N) : s.Leaves d (s.run d).1 := by
  induction s generalizing d with
  | done => rfl
  | must op next ih =>
      rw [Leaves, run]
      cases happly : op.apply d with
      | none => exact Or.inl rfl
      | some d' => exact Or.inr (Or.inr ⟨d', rfl, ih d'⟩)
  | may op next ih => exact Or.inr (Or.inr (ih _))
  | mustIf n op next ih =>
      rw [Leaves, run]
      split
      · cases happly : op.apply d with
        | none => exact Or.inl rfl
        | some d' => exact Or.inr (Or.inr ⟨d', rfl, ih d'⟩)
      · exact ih d

/-- The operations of a script. -/
def ops : Script N → List (FileOp N)
  | .done => []
  | .must op next | .may op next | .mustIf _ op next => op :: next.ops

/-- **What every operation keeps holds in every state that a script leaves.** -/
theorem Leaves.invariant {s : Script N} {P : Dir N → Prop}
    (happly : ∀ op ∈ s.ops, ∀ d d', P d → op.apply d = some d' → P d')
    (htorn : ∀ op ∈ s.ops, ∀ d c, P d → op.Torn d c → P c)
    {d c : Dir N}
    (hd : P d)
    (h : s.Leaves d c) :
    P c := by
  induction s generalizing d with
  | done => exact h ▸ hd
  | must op next ih =>
      have hnext : ∀ {d : Dir N}, P d → next.Leaves d c → P c :=
        ih (fun o ho => happly o (List.mem_cons_of_mem _ ho))
          (fun o ho => htorn o (List.mem_cons_of_mem _ ho))
      rcases h with rfl | htear | ⟨d', hop, hrest⟩
      · exact hd
      · exact htorn op List.mem_cons_self d c hd htear
      · exact hnext (happly op List.mem_cons_self d d' hd hop) hrest
  | may op next ih =>
      have hnext : ∀ {d : Dir N}, P d → next.Leaves d c → P c :=
        ih (fun o ho => happly o (List.mem_cons_of_mem _ ho))
          (fun o ho => htorn o (List.mem_cons_of_mem _ ho))
      rcases h with rfl | htear | hrest
      · exact hd
      · exact htorn op List.mem_cons_self d c hd htear
      · refine hnext ?_ hrest
        cases hop : op.apply d with
        | none => exact hd
        | some d' => exact happly op List.mem_cons_self d d' hd hop
  | mustIf n op next ih =>
      have hnext : ∀ {d : Dir N}, P d → next.Leaves d c → P c :=
        ih (fun o ho => happly o (List.mem_cons_of_mem _ ho))
          (fun o ho => htorn o (List.mem_cons_of_mem _ ho))
      rw [Leaves] at h
      split at h
      · rcases h with rfl | htear | ⟨d', hop, hrest⟩
        · exact hd
        · exact htorn op List.mem_cons_self d c hd htear
        · exact hnext (happly op List.mem_cons_self d d' hd hop) hrest
      · exact hnext hd h

end Script

end Operations

end Kernel
end Rttx
