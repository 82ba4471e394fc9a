import Mathlib.Data.List.Nodup
import Rttx.Kernel.TransitionSystem

/-!
# Leader keys

Behind the leader key the next keys are matched against the key sequences of the saved
commands that are visible on the host.  While they only begin some of these sequences the
window waits for more; once they are a whole sequence its first command is run, and keys
that begin none end the mode.

The keys are taken by a controller of the window, which stops each of them from reaching
the terminal.  The mode also ends after a while without its keys; the controller, however,
goes away with a key only.

**Results.**
* `shortcut_reached_iff`: typing the keys of a command runs it if and only if no visible
  command has keys that begin them.
* `held_iff_active`: keys are held back exactly while the mode is active, in every run in
  which it does not time out and is not activated again.
* `timedOut_key_held`: after a time-out the next key is held back, whatever it is, and may
  still run a command.
-/

namespace Rttx
namespace Client

open Kernel

section Resolution

inductive CommandRunMode
  | run
  | insert
  | runInNewPane
deriving DecidableEq, Repr

/-- A saved command, as far as its shortcut is concerned. -/
structure SavedCommand where
  uuid : String
  defaultRunMode : CommandRunMode
  hostTags : List String
  shortcutKeys : List String
deriving DecidableEq, Repr

/-- A command without tags is visible everywhere. -/
def isVisibleOn (command : SavedCommand) (hostKey : String) : Bool :=
  command.hostTags.isEmpty || command.hostTags.any (· == hostKey)

inductive LeaderMatch
  | noMatch
  | partialMatch
  | complete (uuid : String)
deriving DecidableEq, Repr

/-- Look at one command after the other; `hasPartial` tells that one begins with the keys. -/
def resolveFrom (keys : List String) (hostKey : Option String) :
    (hasPartial : Bool) → List SavedCommand → LeaderMatch
  | hasPartial, [] => if hasPartial then .partialMatch else .noMatch
  | hasPartial, cmd :: rest =>
      if cmd.shortcutKeys.isEmpty then
        resolveFrom keys hostKey hasPartial rest
      else if hostKey.any fun hk => !isVisibleOn cmd hk then
        resolveFrom keys hostKey hasPartial rest
      else if cmd.shortcutKeys = keys then
        .complete cmd.uuid
      else
        resolveFrom keys hostKey
          (hasPartial || (cmd.shortcutKeys.length > keys.length &&
            keys.isPrefixOf cmd.shortcutKeys)) rest

def resolve (commands : List SavedCommand) (keys : List String) (hostKey : Option String) :
    LeaderMatch :=
  resolveFrom keys hostKey false commands

/-- The commands that have keys and are visible on the host. -/
def candidates (commands : List SavedCommand) (hostKey : Option String) : List SavedCommand :=
  commands.filter fun cmd =>
    !cmd.shortcutKeys.isEmpty && hostKey.all fun hk => isVisibleOn cmd hk

/-- The keys are the beginning of longer ones. -/
def Begins (keys : List String) (cmd : SavedCommand) : Prop :=
  keys <+: cmd.shortcutKeys ∧ keys ≠ cmd.shortcutKeys

theorem begins_iff (keys : List String) (cmd : SavedCommand) :
    (decide (cmd.shortcutKeys.length > keys.length) && keys.isPrefixOf cmd.shortcutKeys) = true ↔
      Begins keys cmd := by
  rw [Bool.and_eq_true, decide_eq_true_iff, List.isPrefixOf_iff_prefix, Begins]
  constructor
  · rintro ⟨hlength, hlead⟩
    exact ⟨hlead, fun heq => absurd hlength (by rw [heq]; exact Nat.lt_irrefl _)⟩
  · rintro ⟨hlead, hne⟩
    refine ⟨Nat.lt_of_le_of_ne hlead.length_le fun hlength => hne ?_, hlead⟩
    exact hlead.eq_of_length hlength

/-- **What the keys resolve to**: the first candidate with exactly these keys, or more keys
to come, or nothing. -/
theorem resolveFrom_eq (keys : List String) (hostKey : Option String) (hasPartial : Bool)
    (commands : List SavedCommand) :
    resolveFrom keys hostKey hasPartial commands =
      match (candidates commands hostKey).find? fun cmd => cmd.shortcutKeys = keys with
      | some cmd => .complete cmd.uuid
      | none =>
          if hasPartial || (candidates commands hostKey).any fun cmd =>
              cmd.shortcutKeys.length > keys.length && keys.isPrefixOf cmd.shortcutKeys then
            .partialMatch
          else .noMatch := by
  induction commands generalizing hasPartial with
  | nil =>
      rw [resolveFrom]
      simp [candidates]
  | cons cmd rest ih =>
      rw [resolveFrom]
      by_cases hempty : cmd.shortcutKeys.isEmpty = true
      · have hskip : candidates (cmd :: rest) hostKey = candidates rest hostKey := by
          rw [candidates, List.filter_cons, if_neg (by simp [hempty])]
          rfl
        rw [if_pos hempty, ih, hskip]
      · by_cases hhidden : (hostKey.any fun hk => !isVisibleOn cmd hk) = true
        · have hskip : candidates (cmd :: rest) hostKey = candidates rest hostKey := by
            have hnot : (hostKey.all fun hk => isVisibleOn cmd hk) = false := by
              cases hostKey with
              | none => cases hhidden
              | some hk => simpa using hhidden
            rw [candidates, List.filter_cons, if_neg (by simp [hnot])]
            rfl
          rw [if_neg hempty, if_pos hhidden, ih, hskip]
        · have htake : candidates (cmd :: rest) hostKey = cmd :: candidates rest hostKey := by
            have hall : (hostKey.all fun hk => isVisibleOn cmd hk) = true := by
              cases hostKey with
              | none => rfl
              | some hk => simpa using hhidden
            rw [candidates, List.filter_cons, if_pos (by simp [hall, hempty])]
            rfl
          rw [if_neg hempty, if_neg hhidden, htake, List.find?_cons, List.any_cons]
          by_cases hkeys : cmd.shortcutKeys = keys
          · rw [if_pos hkeys]
            simp [hkeys]
          · rw [if_neg hkeys, ih, Bool.or_assoc]
            simp [hkeys]

theorem mem_candidates {commands : List SavedCommand} {hostKey : Option String}
    {cmd : SavedCommand}
    (h : cmd ∈ candidates commands hostKey) :
    cmd ∈ commands ∧ cmd.shortcutKeys ≠ [] := by
  obtain ⟨hmem, hcandidate⟩ := List.mem_filter.mp h
  rw [Bool.and_eq_true, Bool.not_eq_true', List.isEmpty_eq_false_iff] at hcandidate
  exact ⟨hmem, hcandidate.1⟩

theorem resolve_complete {commands : List SavedCommand} {keys : List String}
    {hostKey : Option String} {cmd : SavedCommand}
    (h : (candidates commands hostKey).find? (·.shortcutKeys = keys) = some cmd) :
    resolve commands keys hostKey = .complete cmd.uuid := by
  rw [resolve, resolveFrom_eq, h]

theorem resolve_pending {commands : List SavedCommand} {keys : List String}
    {hostKey : Option String} {cmd : SavedCommand}
    (hnone : ∀ other ∈ candidates commands hostKey, other.shortcutKeys ≠ keys)
    (hmem : cmd ∈ candidates commands hostKey)
    (hbegins : Begins keys cmd) :
    resolve commands keys hostKey = .partialMatch := by
  have hfind : (candidates commands hostKey).find? (·.shortcutKeys = keys) = none := by
    rw [List.find?_eq_none]
    intro other hother heq
    exact hnone other hother (of_decide_eq_true heq)
  have hany : ((candidates commands hostKey).any fun cmd =>
      cmd.shortcutKeys.length > keys.length && keys.isPrefixOf cmd.shortcutKeys) = true :=
    List.any_eq_true.mpr ⟨cmd, hmem, (begins_iff keys cmd).mpr hbegins⟩
  rw [resolve, resolveFrom_eq, hfind, hany]
  rfl

end Resolution

section Mode

/-- The mode of a window, and what has come of the keys: commands that were run, and keys
that reached the terminal. -/
structure LeaderState where
  controllers : Nat
  leaderKeys : List String
  leaderTimeout : Bool
  executed : List SavedCommand
  passed : List String
deriving DecidableEq, Repr

/-- A key comes with the commands and the host of that moment. -/
inductive LeaderEvent
  | activate
  | timeout
  | key (name : String) (commands : List SavedCommand) (hostKey : Option String)

namespace LeaderState

def isLeaderActive (s : LeaderState) : Bool :=
  s.leaderTimeout

def finishLeaderMode (s : LeaderState) : LeaderState :=
  { s with leaderKeys := [], leaderTimeout := false }

def cancelLeaderMode (s : LeaderState) : LeaderState :=
  s.finishLeaderMode

def activateLeaderMode (s : LeaderState) : LeaderState :=
  { s with leaderKeys := [], leaderTimeout := true, controllers := s.controllers + 1 }

def removeController (s : LeaderState) : LeaderState :=
  { s with controllers := s.controllers - 1 }

/-- A key is taken by a controller, if there is one. -/
def keyPressed (s : LeaderState) (name : String) (commands : List SavedCommand)
    (hostKey : Option String) : LeaderState :=
  if s.controllers = 0 then
    { s with passed := s.passed ++ [name] }
  else if name = "" ∨ name = "Escape" then
    s.cancelLeaderMode.removeController
  else
    let keys := s.leaderKeys ++ [name]
    match resolve commands keys hostKey with
    | .complete uuid =>
        let s := s.finishLeaderMode.removeController
        { s with executed := s.executed ++ (commands.find? (·.uuid = uuid)).toList }
    | .partialMatch => { s with leaderKeys := keys }
    | .noMatch => s.cancelLeaderMode.removeController

def next (s : LeaderState) : LeaderEvent → Option LeaderState
  | .activate => some s.activateLeaderMode
  | .timeout => if s.leaderTimeout then some s.cancelLeaderMode else none
  | .key name commands hostKey => some (s.keyPressed name commands hostKey)

def system : System LeaderState LeaderEvent where
  init s := s = ⟨0, [], false, [], []⟩
  next := next

/-- Keys pressed one after the other, while the commands and the host stay. -/
def typed (commands : List SavedCommand) (hostKey : Option String) (s : LeaderState)
    (keys : List String) : LeaderState :=
  keys.foldl (fun s name => s.keyPressed name commands hostKey) s

end LeaderState

end Mode

section Typing

variable {commands : List SavedCommand} {hostKey : Option String}

/-- Other keys begin these. -/
def Shadowed (commands : List SavedCommand) (hostKey : Option String) (keys : List String) :
    Prop :=
  ∃ cmd ∈ candidates commands hostKey, cmd.shortcutKeys <+: keys ∧ cmd.shortcutKeys ≠ keys

namespace LeaderState

theorem typed_cons (s : LeaderState) (name : String) (keys : List String) :
    typed commands hostKey s (name :: keys) =
      typed commands hostKey (s.keyPressed name commands hostKey) keys :=
  rfl

/-- Without a controller the keys reach the terminal. -/
theorem typed_passed {s : LeaderState}
    (h : s.controllers = 0)
    (keys : List String) :
    typed commands hostKey s keys = { s with passed := s.passed ++ keys } := by
  induction keys generalizing s with
  | nil => simp [typed]
  | cons name keys ih =>
      have hpass : s.keyPressed name commands hostKey =
          { s with passed := s.passed ++ [name] } := if_pos h
      rw [typed_cons, hpass, @ih { s with passed := s.passed ++ [name] } h]
      simp

/-- The command is found by its id. -/
theorem find?_uuid {cmd : SavedCommand}
    (hnodup : (commands.map SavedCommand.uuid).Nodup)
    (hmem : cmd ∈ commands) :
    commands.find? (·.uuid = cmd.uuid) = some cmd := by
  cases hfind : commands.find? (·.uuid = cmd.uuid) with
  | none => exact absurd (decide_eq_true rfl) (List.find?_eq_none.mp hfind cmd hmem)
  | some found =>
      have huuid : found.uuid = cmd.uuid := by simpa using List.find?_some hfind
      rw [List.inj_on_of_nodup_map hnodup (List.mem_of_find?_eq_some hfind) hmem huuid]

/-- **The keys of a command are typed to their end**, if no others begin them. -/
theorem typed_pending {cmd : SavedCommand} {keys : List String} {s : LeaderState}
    (hnodup : (commands.map SavedCommand.uuid).Nodup)
    (hcmd : (candidates commands hostKey).find? (·.shortcutKeys = s.leaderKeys ++ keys) = some cmd)
    (hfree : ¬ Shadowed commands hostKey (s.leaderKeys ++ keys))
    (hnames : ∀ name ∈ keys, name ≠ "" ∧ name ≠ "Escape")
    (hkeys : keys ≠ [])
    (hcontrollers : s.controllers = 1) :
    typed commands hostKey s keys = ⟨0, [], false, s.executed ++ [cmd], s.passed⟩ := by
  induction keys generalizing s with
  | nil => exact absurd rfl hkeys
  | cons name keys ih =>
      have hheld : s.controllers ≠ 0 := by omega
      rw [List.forall_mem_cons] at hnames
      have hname : ¬ (name = "" ∨ name = "Escape") := by
        rintro (heq | heq)
        · exact hnames.1.1 heq
        · exact hnames.1.2 heq
      have hmem : cmd ∈ candidates commands hostKey := List.mem_of_find?_eq_some hcmd
      have hsame : cmd.shortcutKeys = s.leaderKeys ++ name :: keys := by
        simpa using List.find?_some hcmd
      rw [typed_cons]
      by_cases hlast : keys = []
      · subst hlast
        have hkey : s.keyPressed name commands hostKey =
            ⟨0, [], false, s.executed ++ [cmd], s.passed⟩ := by
          rw [keyPressed, if_neg hheld, if_neg hname]
          simp [resolve_complete hcmd, finishLeaderMode, removeController, hcontrollers,
            find?_uuid hnodup (mem_candidates hmem).1]
        rw [hkey]
        rfl
      · have hbegins : Begins (s.leaderKeys ++ [name]) cmd := by
          rw [Begins, hsame, List.append_cons s.leaderKeys name keys]
          exact ⟨List.prefix_append _ _, fun heq => hlast (List.self_eq_append_right.mp heq)⟩
        have hnone : ∀ other ∈ candidates commands hostKey,
            other.shortcutKeys ≠ s.leaderKeys ++ [name] := by
          intro other hother heq
          rw [Begins, hsame, ← heq] at hbegins
          exact hfree ⟨other, hother, hbegins⟩
        have hkey : s.keyPressed name commands hostKey =
            { s with leaderKeys := s.leaderKeys ++ [name] } := by
          rw [keyPressed, if_neg hheld, if_neg hname]
          dsimp only
          rw [resolve_pending hnone hmem hbegins]
        rw [List.append_cons] at hcmd hfree
        rw [hkey]
        exact ih hcmd hfree hnames.2 hlast hcontrollers

/-- **Keys behind which a command is run** go no further; the others reach the terminal. -/
theorem typed_activated {cmd : SavedCommand} {keys : List String} {s : LeaderState}
    (hnodup : (commands.map SavedCommand.uuid).Nodup)
    (hcmd : (candidates commands hostKey).find? (·.shortcutKeys = keys) = some cmd)
    (hfree : ¬ Shadowed commands hostKey keys)
    (hnames : ∀ name ∈ keys, name ≠ "" ∧ name ≠ "Escape")
    (hidle : s.controllers = 0)
    (more : List String) :
    typed commands hostKey s.activateLeaderMode (keys ++ more) =
      ⟨0, [], false, s.executed ++ [cmd], s.passed ++ more⟩ := by
  have hkeys : keys ≠ [] := by
    have hsame : cmd.shortcutKeys = keys := by simpa using List.find?_some hcmd
    rw [← hsame]
    exact (mem_candidates (List.mem_of_find?_eq_some hcmd)).2
  have hcontrollers : s.activateLeaderMode.controllers = 1 := by
    rw [activateLeaderMode, hidle]
  have hsplit : typed commands hostKey s.activateLeaderMode (keys ++ more) =
      typed commands hostKey (typed commands hostKey s.activateLeaderMode keys) more :=
    List.foldl_append
  rw [hsplit, typed_pending (s := s.activateLeaderMode) hnodup hcmd hfree hnames hkeys
    hcontrollers, typed_passed rfl]
  rfl

/-- Of the keys that begin others the shortest are begun by none. -/
theorem exists_shortest {keys : List String}
    (h : Shadowed commands hostKey keys) :
    ∃ cmd more, (candidates commands hostKey).find? (·.shortcutKeys = cmd.shortcutKeys) = some cmd ∧
      ¬ Shadowed commands hostKey cmd.shortcutKeys ∧ keys = cmd.shortcutKeys ++ more ∧
        more ≠ [] := by
  induction hlength : keys.length using Nat.strongRecOn generalizing keys with
  | ind length ih =>
      obtain ⟨cmd, hmem, ⟨more, hsplit⟩, hne⟩ := h
      have hmore : more ≠ [] := by
        rintro rfl
        exact hne (by rw [← hsplit, List.append_nil])
      by_cases hshadowed : Shadowed commands hostKey cmd.shortcutKeys
      · have hshorter : cmd.shortcutKeys.length < length := by
          rw [← hlength, ← hsplit, List.length_append]
          exact Nat.lt_add_of_pos_right (List.length_pos_iff.mpr hmore)
        obtain ⟨first, between, hfirst, hfree, hfound, hbetween⟩ := ih _ hshorter hshadowed rfl
        refine ⟨first, between ++ more, hfirst, hfree, ?_,
          List.append_ne_nil_of_left_ne_nil hbetween _⟩
        rw [← List.append_assoc, ← hfound, hsplit]
      · cases hfind : (candidates commands hostKey).find? (·.shortcutKeys = cmd.shortcutKeys) with
        | none => exact absurd (decide_eq_true rfl) (List.find?_eq_none.mp hfind cmd hmem)
        | some first =>
            have hsame : first.shortcutKeys = cmd.shortcutKeys := by
              simpa using List.find?_some hfind
            rw [← hsame] at hfind hshadowed hsplit
            exact ⟨first, more, hfind, hshadowed, hsplit.symm, hmore⟩

/-- **A command is reached by its keys** if and only if no visible command has keys that
begin them. -/
theorem shortcut_reached_iff {cmd : SavedCommand} {s : LeaderState}
    (hnodup : (commands.map SavedCommand.uuid).Nodup)
    (hcmd : (candidates commands hostKey).find? (·.shortcutKeys = cmd.shortcutKeys) = some cmd)
    (hnames : ∀ name ∈ cmd.shortcutKeys, name ≠ "" ∧ name ≠ "Escape")
    (hidle : s.controllers = 0) :
    (typed commands hostKey s.activateLeaderMode cmd.shortcutKeys).executed =
        s.executed ++ [cmd] ↔
      ¬ Shadowed commands hostKey cmd.shortcutKeys := by
  constructor
  · intro hreached hshadowed
    obtain ⟨other, more, hother, hfree, hsplit, hmore⟩ := exists_shortest hshadowed
    have hnames' : ∀ name ∈ other.shortcutKeys, name ≠ "" ∧ name ≠ "Escape" := fun name hname =>
      hnames name (hsplit ▸ List.mem_append_left _ hname)
    have htyped := typed_activated hnodup hother hfree hnames' hidle more
    rw [← hsplit] at htyped
    rw [htyped] at hreached
    have hsame : other = cmd := by
      simpa using hreached
    rw [hsame] at hsplit
    exact hmore (List.self_eq_append_right.mp hsplit)
  · intro hfree
    have htyped := typed_activated hnodup hcmd hfree hnames hidle []
    rw [List.append_nil] at htyped
    rw [htyped]

end LeaderState

/-- Commands of which one has the keys of another in front of its own. -/
def sampleCommands : List SavedCommand :=
  [⟨"deploy", .run, [], ["d", "k"]⟩, ⟨"docs", .insert, ["local"], ["d"]⟩]

/-- The theorem where the other command is not visible. -/
theorem shortcut_reached_iff_sample :
    (LeaderState.typed sampleCommands (some "example.com")
        (LeaderState.activateLeaderMode ⟨0, [], false, [], []⟩) ["d", "k"]).executed =
          [⟨"deploy", .run, [], ["d", "k"]⟩] ↔
      ¬ Shadowed sampleCommands (some "example.com") ["d", "k"] :=
  @LeaderState.shortcut_reached_iff sampleCommands (some "example.com")
    ⟨"deploy", .run, [], ["d", "k"]⟩ ⟨0, [], false, [], []⟩ (by decide) (by decide) (by decide) rfl

end Typing

section Modes

namespace LeaderState

/-- No time-out, and no activation while keys are held back. -/
def undisturbed (s : LeaderState) : LeaderEvent → Bool
  | .activate => s.controllers == 0
  | .timeout => false
  | .key _ _ _ => true

/-- **A key reaches the terminal** if and only if there is no controller. -/
theorem keyPressed_passed (s : LeaderState) (name : String) (commands : List SavedCommand)
    (hostKey : Option String) :
    (s.keyPressed name commands hostKey).passed =
      if s.controllers = 0 then s.passed ++ [name] else s.passed := by
  rw [keyPressed]
  split
  · rfl
  · split
    · rfl
    · dsimp only
      split <;> rfl

/-- What a key leaves of the mode: a controller, or none and nothing else. -/
theorem keyPressed_mode (s : LeaderState) (name : String) (commands : List SavedCommand)
    (hostKey : Option String) :
    ((s.keyPressed name commands hostKey).controllers = s.controllers ∧
      (s.keyPressed name commands hostKey).leaderTimeout = s.leaderTimeout) ∨
    ((s.keyPressed name commands hostKey).controllers = s.controllers - 1 ∧
      (s.keyPressed name commands hostKey).leaderTimeout = false) := by
  rw [keyPressed]
  split
  · exact Or.inl ⟨rfl, rfl⟩
  · split
    · exact Or.inr ⟨rfl, rfl⟩
    · dsimp only
      split
      · exact Or.inr ⟨rfl, rfl⟩
      · exact Or.inl ⟨rfl, rfl⟩
      · exact Or.inr ⟨rfl, rfl⟩

/-- **Keys are held back exactly while the mode is active**, in every run in which it does
not time out and is not activated again. -/
theorem held_iff_active {s : LeaderState}
    (h : system.ReachableUnder (fun s e => undisturbed s e = true) s)
    (name : String)
    (commands : List SavedCommand)
    (hostKey : Option String) :
    (s.keyPressed name commands hostKey).passed = s.passed ↔ s.isLeaderActive = true := by
  have hinv : s.controllers = if s.leaderTimeout then 1 else 0 := by
    refine System.ReachableUnder.invariant
      (I := fun s : LeaderState => s.controllers = if s.leaderTimeout then 1 else 0) ?_ ?_ h
    · rintro s rfl
      rfl
    · intro s e s' hs hok hnext
      cases e with
      | activate =>
          cases hnext
          have hzero : s.controllers = 0 := eq_of_beq hok
          rw [activateLeaderMode, hzero]
          rfl
      | timeout => cases hok
      | key name commands hostKey =>
          cases hnext
          obtain ⟨hsame, hactive⟩ | ⟨hless, hactive⟩ := keyPressed_mode s name commands hostKey
          · rw [hsame, hactive]
            exact hs
          · rw [hless, hactive, hs]
            split <;> rfl
  rw [keyPressed_passed, hinv, isLeaderActive]
  cases s.leaderTimeout with
  | false => simp
  | true => simp

/-- **After a time-out the next key is held back** all the same, in every run.  If it is
all the keys of a visible command, that command is run. -/
theorem timedOut_key_held {s : LeaderState}
    (h : system.Reachable s)
    (hactive : s.isLeaderActive = true)
    (name : String)
    (commands : List SavedCommand)
    (hostKey : Option String) :
    ∃ s', s.next .timeout = some s' ∧ s'.isLeaderActive = false ∧
      (s'.keyPressed name commands hostKey).passed = s.passed ∧
      ∀ cmd, (candidates commands hostKey).find? (·.shortcutKeys = [name]) = some cmd →
        (commands.map SavedCommand.uuid).Nodup → name ≠ "" → name ≠ "Escape" →
        (s'.keyPressed name commands hostKey).executed = s.executed ++ [cmd] := by
  have hcontrollers : s.leaderTimeout = true → s.controllers ≠ 0 := by
    refine System.Reachable.invariant
      (I := fun s : LeaderState => s.leaderTimeout = true → s.controllers ≠ 0) ?_ ?_ h
    · rintro s rfl hactive
      cases hactive
    · intro s e s' hs hnext hactive
      cases e with
      | activate =>
          cases hnext
          exact Nat.succ_ne_zero _
      | timeout =>
          change (if s.leaderTimeout then _ else none) = some s' at hnext
          split at hnext
          · cases hnext
            cases hactive
          · cases hnext
      | key name commands hostKey =>
          cases hnext
          obtain ⟨hsame, hsame'⟩ | ⟨_, hnot⟩ := keyPressed_mode s name commands hostKey
          · rw [hsame]
            exact hs (hsame' ▸ hactive)
          · rw [hnot] at hactive
            cases hactive
  have hheld := hcontrollers hactive
  have hheld' : s.cancelLeaderMode.controllers ≠ 0 := hheld
  refine ⟨s.cancelLeaderMode, if_pos hactive, rfl, ?_, ?_⟩
  · rw [keyPressed_passed, if_neg hheld']
    rfl
  · intro cmd hcmd hnodup hempty hescape
    have hname : ¬ (name = "" ∨ name = "Escape") := by
      rintro (heq | heq)
      · exact hempty heq
      · exact hescape heq
    have hkeys : s.cancelLeaderMode.leaderKeys ++ [name] = [name] := rfl
    have hmem := (mem_candidates (List.mem_of_find?_eq_some hcmd)).1
    rw [keyPressed, if_neg hheld', if_neg hname, hkeys]
    simp [resolve_complete hcmd, find?_uuid hnodup hmem, cancelLeaderMode, finishLeaderMode,
      removeController]

/-- Activated, and one key towards a command. -/
def waiting : List LeaderEvent :=
  [.activate, .key "d" sampleCommands (some "example.com")]

theorem waiting_runs :
    (system.execUnder undisturbed ⟨0, [], false, [], []⟩ waiting).isSome = true := by
  decide

/-- The theorem on that run. -/
theorem held_iff_active_waiting :
    (((system.execUnder undisturbed ⟨0, [], false, [], []⟩ waiting).get waiting_runs).keyPressed
        "k" sampleCommands none).passed = [] ↔
      ((system.execUnder undisturbed ⟨0, [], false, [], []⟩ waiting).get
        waiting_runs).isLeaderActive = true :=
  held_iff_active (System.reachableUnder_get rfl waiting_runs) "k" sampleCommands none

/-- The theorem right after an activation. -/
theorem timedOut_key_held_activated :
    ∃ s', next ⟨1, [], true, [], []⟩ .timeout = some s' ∧ s'.isLeaderActive = false ∧
      (s'.keyPressed "d" sampleCommands (some "local")).passed = [] ∧
      (s'.keyPressed "d" sampleCommands (some "local")).executed =
        [⟨"docs", .insert, ["local"], ["d"]⟩] := by
  have hactivated : system.Reachable ⟨1, [], true, [], []⟩ :=
    System.Reachable.next (a := .activate) (System.Reachable.of_init rfl) rfl
  obtain ⟨s', hnext, hinactive, hpassed, hexecuted⟩ :=
    timedOut_key_held hactivated rfl "d" sampleCommands (some "local")
  exact ⟨s', hnext, hinactive, hpassed,
    hexecuted _ (by decide) (by decide) (by decide) (by decide)⟩

end LeaderState

end Modes

end Client
end Rttx
