import Mathlib.Data.List.Basic

/-!
# Kernel: the words of a shell script

A shell reads a script token by token.  In a word a backslash quotes the next character,
single quotes all that is between them, and double quotes most of it; the quotes are then
removed.  A quoted character stands for itself: it is no blank, no operator, no pattern and
no start of an expansion.

The reader here stops at what would have to be expanded or is an operator other than a
parenthesis.  What it reads is thus what the shell reads.

**Results.**
* `readWord_bare`, `readWord_single`: how plain and single-quoted text is read.
* `readTokens_append`: a script is read part by part.
-/

namespace Rttx
namespace Kernel

section Words

/-- A character of a word, and whether it is quoted. -/
structure WordChar where
  char : Char
  quoted : Bool
deriving DecidableEq, Repr

/-- Text that is not quoted. -/
def bareWord (text : List Char) : List WordChar :=
  text.map fun c => ⟨c, false⟩

def quotedWord (text : List Char) : List WordChar :=
  text.map fun c => ⟨c, true⟩

def isBlank (c : Char) : Bool :=
  c == ' ' || c == '\t'

/-- The characters of which operators are made, and the end of a line. -/
def isMeta (c : Char) : Bool :=
  c == '\n' || c == '(' || c == ')' || c == '|' || c == '&' || c == ';' || c == '<' || c == '>'

/-- The characters that begin an expansion. -/
def isExpansion (c : Char) : Bool :=
  c == '$' || c == '\x60'

def isQuote (c : Char) : Bool :=
  c == '\\' || c == '\'' || c == '"'

/-- A character that is read as it is in any place of a word. -/
def isPlain (c : Char) : Bool :=
  !isBlank c && !isMeta c && !isExpansion c && !isQuote c

/-- What quotes the next character. -/
inductive Quoting
  | bare
  | escaped
  | single
  | double
  | doubleEscaped
deriving DecidableEq, Repr

/-- Put a character before the word that was read. -/
def consChar (c : WordChar) : List WordChar × List Char → List WordChar × List Char :=
  Prod.map (c :: ·) id

/-- Read a word up to the character that ends it; `none` if a quote is left open or
something must be expanded. -/
def readWord : Quoting → List Char → Option (List WordChar × List Char)
  | .bare, [] => some ([], [])
  | .bare, c :: rest =>
      if isBlank c || isMeta c then some ([], c :: rest)
      else if isExpansion c then none
      else if c = '\\' then readWord .escaped rest
      else if c = '\'' then readWord .single rest
      else if c = '"' then readWord .double rest
      else (readWord .bare rest).map (consChar ⟨c, false⟩)
  | .escaped, c :: rest =>
      if c = '\n' then readWord .bare rest
      else (readWord .bare rest).map (consChar ⟨c, true⟩)
  | .single, c :: rest =>
      if c = '\'' then readWord .bare rest
      else (readWord .single rest).map (consChar ⟨c, true⟩)
  | .double, c :: rest =>
      if c = '"' then readWord .bare rest
      else if isExpansion c then none
      else if c = '\\' then readWord .doubleEscaped rest
      else (readWord .double rest).map (consChar ⟨c, true⟩)
  | .doubleEscaped, c :: rest =>
      if c = '\n' then readWord .double rest
      else if isExpansion c || c == '\\' || c == '"' then
        (readWord .double rest).map (consChar ⟨c, true⟩)
      else
        (readWord .double rest).map fun read => consChar ⟨'\\', true⟩ (consChar ⟨c, true⟩ read)
  | _, [] => none

/-- Put a text before the word that was read. -/
def prependWord (w : List WordChar) : List WordChar × List Char → List WordChar × List Char :=
  Prod.map (w ++ ·) id

theorem map_prependWord_nil (read : Option (List WordChar × List Char)) :
    read.map (prependWord []) = read := by
  cases read <;> rfl

theorem map_consChar (c : WordChar) (w : List WordChar)
    (read : Option (List WordChar × List Char)) :
    (read.map (prependWord w)).map (consChar c) = read.map (prependWord (c :: w)) := by
  cases read <;> rfl

/-- **Plain text is read as it is.** -/
theorem readWord_bare {text : List Char}
    (h : ∀ c ∈ text, isPlain c = true)
    (rest : List Char) :
    readWord .bare (text ++ rest) = (readWord .bare rest).map (prependWord (bareWord text)) := by
  induction text with
  | nil => exact (map_prependWord_nil _).symm
  | cons c text ih =>
      rw [List.forall_mem_cons] at h
      have hplain := h.1
      simp only [isPlain, isQuote, Bool.and_eq_true, Bool.not_eq_true', Bool.or_eq_false_iff,
        beq_eq_false_iff_ne] at hplain
      obtain ⟨⟨⟨hblank, hmeta⟩, hexpansion⟩, ⟨hback, hsingle⟩, hdouble⟩ := hplain
      rw [List.cons_append, readWord]
      simp only [hblank, hmeta, hexpansion, hback, hsingle, hdouble, Bool.or_self,
        Bool.false_eq_true, if_false, ih h.2]
      exact map_consChar ⟨c, false⟩ (bareWord text) _

/-- **Between single quotes each character stands for itself.** -/
theorem readWord_single {text : List Char}
    (h : '\'' ∉ text)
    (rest : List Char) :
    readWord .single (text ++ '\'' :: rest) =
      (readWord .bare rest).map (prependWord (quotedWord text)) := by
  induction text with
  | nil => exact (map_prependWord_nil _).symm
  | cons c text ih =>
      rw [List.mem_cons, not_or] at h
      have hc : ¬ c = '\'' := fun heq => h.1 heq.symm
      rw [List.cons_append, readWord, if_neg hc, ih h.2]
      exact map_consChar ⟨c, true⟩ (quotedWord text) _

/-- **Text whose quotes are rewritten** is read between single quotes as it was before, if
what a quote is rewritten to puts one in and goes on behind another. -/
theorem readWord_requoted {rewrite : Char → List Char}
    (hquote : ∀ rest, readWord .single (rewrite '\'' ++ rest) =
      (readWord .single rest).map (consChar ⟨'\'', true⟩))
    (hother : ∀ c, c ≠ '\'' → rewrite c = [c])
    (text rest : List Char) :
    readWord .single (text.flatMap rewrite ++ '\'' :: rest) =
      (readWord .bare rest).map (prependWord (quotedWord text)) := by
  induction text with
  | nil => exact readWord_single List.not_mem_nil rest
  | cons c text ih =>
      rw [List.flatMap_cons, List.append_assoc]
      by_cases hc : c = '\''
      · subst hc
        rw [hquote, ih]
        exact map_consChar ⟨'\'', true⟩ (quotedWord text) _
      · rw [hother c hc, List.singleton_append, readWord, if_neg hc, ih]
        exact map_consChar ⟨c, true⟩ (quotedWord text) _

/-- A word ends where a blank or an operator stands. -/
theorem readWord_end {c : Char}
    (h : isBlank c = true ∨ isMeta c = true)
    (rest : List Char) :
    readWord .bare (c :: rest) = some ([], c :: rest) := by
  rw [readWord, if_pos (Bool.or_eq_true_iff.mpr h)]

end Words

section Tokens

/-- A token of a script. -/
inductive ShellToken
  | word (w : List WordChar)
  | opening
  | closing
  | newline
deriving DecidableEq, Repr

/-- Read a token; `comment` tells that a comment is being passed over. -/
def readToken : (comment : Bool) → List Char → Option (ShellToken × List Char)
  | _, [] => none
  | true, c :: rest => if c = '\n' then some (.newline, rest) else readToken true rest
  | false, c :: rest =>
      if isBlank c then readToken false rest
      else if c = '\n' then some (.newline, rest)
      else if c = '(' then some (.opening, rest)
      else if c = ')' then some (.closing, rest)
      else if c = '#' then readToken true rest
      else if isMeta c || (c == '\\' && rest.head? == some '\n') then none
      else (readWord .bare (c :: rest)).map (Prod.map .word id)

/-- Read `n` tokens. -/
def readTokens : (n : Nat) → List Char → Option (List ShellToken × List Char)
  | 0, script => some ([], script)
  | n + 1, script =>
      (readToken false script).bind fun first =>
        (readTokens n first.2).map (Prod.map (first.1 :: ·) id)

/-- **A script is read part by part.** -/
theorem readTokens_append {n m : Nat} {script middle rest : List Char}
    {first second : List ShellToken}
    (hfirst : readTokens n script = some (first, middle))
    (hsecond : readTokens m middle = some (second, rest)) :
    readTokens (n + m) script = some (first ++ second, rest) := by
  induction n generalizing script first with
  | zero =>
      cases hfirst
      rw [Nat.zero_add]
      exact hsecond
  | succ n ih =>
      rw [readTokens] at hfirst
      obtain ⟨token, htoken, hread⟩ := Option.bind_eq_some_iff.mp hfirst
      obtain ⟨read, hmore, hboth⟩ := Option.map_eq_some_iff.mp hread
      obtain ⟨tokens, middle'⟩ := read
      cases hboth
      rw [Nat.succ_add, readTokens, htoken, Option.bind_some, ih hmore]
      rfl

/-- A token that begins as a word does is a word. -/
theorem readToken_word {c : Char}
    (hplain : isPlain c = true)
    (hcomment : c ≠ '#')
    (rest : List Char) :
    readToken false (c :: rest) = (readWord .bare (c :: rest)).map (Prod.map .word id) := by
  simp only [isPlain, isQuote, isMeta, Bool.and_eq_true, Bool.not_eq_true',
    Bool.or_eq_false_iff, beq_eq_false_iff_ne] at hplain
  obtain ⟨⟨⟨hblank, hmeta⟩, _⟩, ⟨hback, _⟩, _⟩ := hplain
  obtain ⟨⟨⟨⟨⟨⟨⟨hnl, hopen⟩, hclose⟩, hpipe⟩, hand⟩, hsemi⟩, hless⟩, hgreater⟩ := hmeta
  rw [readToken, if_neg (by simp [hblank]), if_neg hnl, if_neg hopen, if_neg hclose,
    if_neg hcomment, if_neg (by simp [isMeta, *])]

/-- A text that is no comment and needs no quotes. -/
structure PlainText (text : List Char) : Prop where
  plain : ∀ c ∈ text, isPlain c = true
  first : ∃ c rest, text = c :: rest ∧ c ≠ '#'

/-- **A plain text is a word.** -/
theorem PlainText.readToken {text : List Char} {c : Char}
    (h : PlainText text)
    (hend : isBlank c = true ∨ isMeta c = true)
    (rest : List Char) :
    readToken false (text ++ c :: rest) = some (.word (bareWord text), c :: rest) := by
  have hword : readWord .bare (text ++ c :: rest) = some (bareWord text, c :: rest) := by
    rw [readWord_bare h.plain, readWord_end hend]
    simp [prependWord]
  obtain ⟨first, text, rfl, hcomment⟩ := h.first
  rw [List.cons_append] at hword ⊢
  rw [readToken_word (h.plain first List.mem_cons_self) hcomment, hword]
  rfl

end Tokens

section Assignments

/-- A name of the shell: letters, digits and underscores, and no digit in front. -/
def isShellName : List Char → Bool
  | [] => false
  | c :: rest =>
      (c.isAlpha || c == '_') && rest.all fun c => c.isAlphanum || c == '_'

/-- The text of a word all of whose characters are quoted. -/
def literal? (w : List WordChar) : Option (List Char) :=
  if w.all WordChar.quoted then some (w.map WordChar.char) else none

/-- The name and the value of a word that assigns: a bare name before the first bare
equals sign. -/
def assignment? (w : List WordChar) : Option (List Char × List WordChar) :=
  let name := w.takeWhile (· != ⟨'=', false⟩)
  match w.dropWhile (· != ⟨'=', false⟩) with
  | [] => none
  | _ :: value =>
      if name.all (fun c => !c.quoted) && isShellName (name.map WordChar.char) then
        some (name.map WordChar.char, value)
      else
        none

/-- The name of the command that exports variables. -/
def exportName : List Char :=
  ['e', 'x', 'p', 'o', 'r', 't']

/-- The name and the literal value of a line that exports one assignment. -/
def exported? : List ShellToken → Option (List Char × List Char)
  | [.word command, .word operand, .newline] =>
      if command = bareWord exportName then
        (assignment? operand).bind fun assigned =>
          (literal? assigned.2).map fun value => (assigned.1, value)
      else
        none
  | _ => none

theorem literal_quotedWord (text : List Char) : literal? (quotedWord text) = some text := by
  have hall : (quotedWord text).all WordChar.quoted = true := by
    simp [quotedWord]
  have hchars : (quotedWord text).map WordChar.char = text := by
    simp [quotedWord, Function.comp_def]
  rw [literal?, if_pos hall, hchars]

/-- The characters of a name are read as they are. -/
theorem plain_of_isShellName {name : List Char}
    (h : isShellName name = true) :
    ∀ c ∈ name, isPlain c = true ∧ c ≠ '=' ∧ c ≠ '#' := by
  have hname : ∀ c ∈ name, (c.isAlphanum || c == '_') = true := by
    cases name with
    | nil => cases h
    | cons c rest =>
        rw [isShellName, Bool.and_eq_true, List.all_eq_true] at h
        refine List.forall_mem_cons.mpr ⟨?_, h.2⟩
        rcases Bool.or_eq_true_iff.mp h.1 with halpha | hunder
        · rw [Char.isAlphanum, halpha, Bool.true_or, Bool.true_or]
        · rw [hunder, Bool.or_true]
  have hnot : ∀ c d : Char, (c.isAlphanum || c == '_') = true →
      (d.isAlphanum || d == '_') = false → c ≠ d := by
    rintro c d hc hd rfl
    rw [hc] at hd
    cases hd
  intro c hc
  have hne := hnot c
  have hthis := hname c hc
  refine ⟨?_, hne '=' hthis (by decide), hne '#' hthis (by decide)⟩
  simp only [isPlain, isBlank, isMeta, isExpansion, isQuote, Bool.and_eq_true,
    Bool.not_eq_true', Bool.or_eq_false_iff, beq_eq_false_iff_ne]
  refine ⟨⟨⟨⟨?_, ?_⟩, ⟨⟨⟨⟨⟨⟨⟨?_, ?_⟩, ?_⟩, ?_⟩, ?_⟩, ?_⟩, ?_⟩, ?_⟩⟩, ?_, ?_⟩, ⟨?_, ?_⟩, ?_⟩ <;>
    exact hne _ hthis (by decide)

/-- A bare name, an equals sign and a quoted value assign the value to the name. -/
theorem assignment_of_name {name : List Char}
    (h : isShellName name = true)
    (value : List WordChar) :
    assignment? (bareWord (name ++ ['=']) ++ value) = some (name, value) := by
  have hne : ∀ c ∈ bareWord name, (c != ⟨'=', false⟩) = true := by
    intro c hc
    obtain ⟨d, hd, rfl⟩ := List.mem_map.mp hc
    have heq := (plain_of_isShellName h d hd).2.1
    simpa using heq
  have hword : bareWord (name ++ ['=']) ++ value = bareWord name ++ ⟨'=', false⟩ :: value := by
    simp [bareWord]
  have htake : (bareWord name ++ ⟨'=', false⟩ :: value).takeWhile (· != ⟨'=', false⟩) =
      bareWord name := by
    rw [List.takeWhile_append_of_pos hne, List.takeWhile_cons_of_neg (by simp), List.append_nil]
  have hdrop : (bareWord name ++ ⟨'=', false⟩ :: value).dropWhile (· != ⟨'=', false⟩) =
      ⟨'=', false⟩ :: value := by
    rw [List.dropWhile_append_of_pos hne, List.dropWhile_cons_of_neg (by simp)]
  have hbare : (bareWord name).all (fun c => !c.quoted) = true := by
    simp [bareWord]
  have hchars : (bareWord name).map WordChar.char = name := by
    simp [bareWord, Function.comp_def]
  rw [hword, assignment?]
  simp only [htake, hdrop, hbare, hchars, h, Bool.and_self, if_true]

end Assignments

end Kernel
end Rttx
