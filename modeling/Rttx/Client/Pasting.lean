import Rttx.Server.ScreenReaders

/-!
# Pasting into a pane

A paste reaches the pty in two ways.  The client of a managed pane converts the
line endings of the clipboard text and brackets it under the mode that it tracks
itself; a structured paste is bracketed by the daemon under the modes of the
screen, and its line endings are left alone.  Neither looks into the text.

**Results.**
* `pastify_eq_self_iff`: the texts that the conversion keeps.
* `infix_pastify_iff`: a conversion neither makes nor breaks a sequence without
  line endings.
* `paste_bracketed_iff`: the texts that stay inside their brackets on both ways
  and are sent alike.
-/

namespace Rttx
namespace Client

open Kernel Server

section Conversion

/-- Convert line endings to carriage returns. -/
def pastify : Bytes → Bytes
  | [] => []
  | 0x0d :: 0x0a :: rest => 0x0d :: pastify rest
  | 0x0a :: rest => 0x0d :: pastify rest
  | byte :: rest => byte :: pastify rest

/-- The bytes of a paste into a managed pane. -/
def pastifyForPane (bracketedPasteMode : Bool) (text : Bytes) : Bytes :=
  let payload := pastify text
  if bracketedPasteMode then bracketedPasteStart ++ payload ++ bracketedPasteEnd else payload

theorem lf_not_mem_pastify (text : Bytes) : 0x0a ∉ pastify text := by
  induction text using pastify.induct with
  | case1 => simp [pastify]
  | case2 rest ih => simp [pastify, ih]
  | case3 rest ih => simp [pastify, ih]
  | case4 byte rest hcrlf hlf ih =>
      rw [pastify.eq_4 _ _ hcrlf hlf, List.mem_cons, not_or]
      exact ⟨fun h => hlf h.symm, ih⟩

/-- **The texts that the conversion keeps** are those without line feeds. -/
theorem pastify_eq_self_iff {text : Bytes} : pastify text = text ↔ 0x0a ∉ text := by
  constructor
  · intro h
    rw [← h]
    exact lf_not_mem_pastify text
  · intro h
    induction text using pastify.induct with
    | case1 => rfl
    | case2 rest ih => simp at h
    | case3 rest ih => simp at h
    | case4 byte rest hcrlf hlf ih =>
        rw [pastify.eq_4 _ _ hcrlf hlf, ih fun hmem => h (List.mem_cons_of_mem _ hmem)]

variable {sequence : Bytes}

theorem prefix_pastify_iff
    (hcr : 0x0d ∉ sequence)
    (hlf : 0x0a ∉ sequence)
    (text : Bytes) :
    sequence <+: pastify text ↔ sequence <+: text := by
  induction sequence generalizing text with
  | nil => simp
  | cons first others ih =>
      simp only [List.mem_cons, not_or] at hcr hlf
      cases text using pastify.fun_cases with
      | case1 => rfl
      | case2 rest =>
          simp only [pastify, List.cons_prefix_cons]
          exact ⟨fun h => absurd h.1.symm hcr.1, fun h => absurd h.1.symm hcr.1⟩
      | case3 rest =>
          simp only [pastify, List.cons_prefix_cons]
          exact ⟨fun h => absurd h.1.symm hcr.1, fun h => absurd h.1.symm hlf.1⟩
      | case4 byte rest hcrlf hnotlf =>
          rw [pastify.eq_4 _ _ hcrlf hnotlf, List.cons_prefix_cons, List.cons_prefix_cons,
            ih hcr.2 hlf.2]

/-- An item that is not in a sequence can be left out before it. -/
theorem infix_cons_of_not_mem {item : UInt8} {rest : Bytes}
    (h : item ∉ sequence) :
    sequence <:+: item :: rest ↔ sequence <:+: rest := by
  rw [List.infix_cons_iff]
  refine ⟨fun hor => hor.elim (fun hprefix => ?_) id, Or.inr⟩
  rcases List.prefix_cons_iff.mp hprefix with rfl | ⟨others, rfl, -⟩
  · exact List.nil_infix
  · exact absurd List.mem_cons_self h

/-- **A sequence without line endings** is neither made nor broken. -/
theorem infix_pastify_iff
    (hcr : 0x0d ∉ sequence)
    (hlf : 0x0a ∉ sequence)
    (text : Bytes) :
    sequence <:+: pastify text ↔ sequence <:+: text := by
  induction text using pastify.induct with
  | case1 => rfl
  | case2 rest ih =>
      rw [pastify, infix_cons_of_not_mem hcr, infix_cons_of_not_mem hcr,
        infix_cons_of_not_mem hlf]
      exact ih
  | case3 rest ih =>
      rw [pastify, infix_cons_of_not_mem hcr, infix_cons_of_not_mem hlf]
      exact ih
  | case4 byte rest hcrlf hnotlf ih =>
      have hhere := prefix_pastify_iff hcr hlf (byte :: rest)
      have hrest : sequence <:+: pastify rest ↔ sequence <:+: rest := ih
      rw [pastify.eq_4 _ _ hcrlf hnotlf] at hhere ⊢
      rw [List.infix_cons_iff, List.infix_cons_iff, hhere, hrest]

end Conversion

section Brackets

/-- An opening bracket, a body that does not close it, and a closing bracket. -/
def Bracketed (sent : Bytes) : Prop :=
  ∃ body, sent = bracketedPasteStart ++ body ++ bracketedPasteEnd ∧ ¬ bracketedPasteEnd <:+: body

theorem bracketed_iff (body : Bytes) :
    Bracketed (bracketedPasteStart ++ body ++ bracketedPasteEnd) ↔
      ¬ bracketedPasteEnd <:+: body := by
  constructor
  · rintro ⟨other, hsent, hnone⟩
    obtain rfl := List.append_cancel_left (List.append_cancel_right hsent)
    exact hnone
  · exact fun h => ⟨body, rfl, h⟩

/-- **The texts that are pasted safely.**  On both ways the text stays inside its
brackets, and the ways send the same, iff it has no closing bracket and no line
feed. -/
theorem paste_bracketed_iff {modes : TerminalModeState}
    (hon : modes.bracketedPaste = true)
    (text : Bytes) :
    Bracketed (resolveInput (some (.paste text)) modes) ∧
        Bracketed (pastifyForPane true text) ∧
        resolveInput (some (.paste text)) modes = pastifyForPane true text ↔
      ¬ bracketedPasteEnd <:+: text ∧ 0x0a ∉ text := by
  have hcr : 0x0d ∉ bracketedPasteEnd := by decide
  have hlf : 0x0a ∉ bracketedPasteEnd := by decide
  have hdaemon : resolveInput (some (.paste text)) modes =
      bracketedPasteStart ++ text ++ bracketedPasteEnd := by
    simp only [resolveInput, hon, if_true]
  have hclient : pastifyForPane true text =
      bracketedPasteStart ++ pastify text ++ bracketedPasteEnd := rfl
  rw [hdaemon, hclient, bracketed_iff, bracketed_iff, infix_pastify_iff hcr hlf,
    ← pastify_eq_self_iff]
  constructor
  · rintro ⟨hnone, -, hsame⟩
    exact ⟨hnone, (List.append_cancel_left (List.append_cancel_right hsame)).symm⟩
  · rintro ⟨hnone, hsame⟩
    exact ⟨hnone, hnone, by rw [hsame]⟩

/-- The modes of a shell that edits its line. -/
def lineEditing : TerminalModeState :=
  ⟨true, false, false, false, false, false, .none, false⟩

theorem paste_bracketed_iff_word :
    Bracketed (resolveInput (some (.paste (bytesOf "ls"))) lineEditing) :=
  ((@paste_bracketed_iff lineEditing rfl (bytesOf "ls")).mpr
    ⟨by decide, by decide⟩).1

/-- A clipboard text that runs a command. -/
theorem paste_breaks_out :
    let text := bytesOf "x\x1b[201~\nreboot\n"
    ¬ Bracketed (resolveInput (some (.paste text)) lineEditing) ∧
      ¬ Bracketed (pastifyForPane true text) ∧
      resolveInput (some (.paste text)) lineEditing ≠ pastifyForPane true text := by
  intro text
  have hdaemon : resolveInput (some (.paste text)) lineEditing =
      bracketedPasteStart ++ text ++ bracketedPasteEnd := rfl
  have hclient : pastifyForPane true text =
      bracketedPasteStart ++ pastify text ++ bracketedPasteEnd := rfl
  rw [hdaemon, hclient, bracketed_iff, bracketed_iff]
  decide +kernel

end Brackets

end Client
end Rttx
