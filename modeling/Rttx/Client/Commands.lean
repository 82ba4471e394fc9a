import Rttx.Kernel.ShellWords

/-!
# Saved commands with parameters

A saved command may declare parameters.  Before it runs, the chosen values are put in
front of its body as exported variables, each value in single quotes.

**Results.**
* `readWord_shellEscape`: an escaped value is read as the value, all of it quoted.
* `renderEnvBlock_parsed`: in front of the body a shell reads one export for each value.
-/

namespace Rttx
namespace Client

open Kernel

section Escaping

/-- A character between single quotes; a quote is put outside of them. -/
def escapeQuote (c : Char) : List Char :=
  if c = '\'' then ['\'', '\\', '\'', '\''] else [c]

/-- Wrap a value in single quotes. -/
def shellEscape (value : String) : String :=
  String.ofList ('\'' :: (value.toList.flatMap escapeQuote ++ ['\'']))

/-- The escaped text is read up to the quote that ends it. -/
theorem readWord_escapeQuote (text rest : List Char) :
    readWord .single (text.flatMap escapeQuote ++ '\'' :: rest) =
      (readWord .bare rest).map (prependWord (quotedWord text)) := by
  induction text with
  | nil => exact readWord_single List.not_mem_nil rest
  | cons c text ih =>
      rw [List.flatMap_cons, List.append_assoc]
      by_cases hc : c = '\''
      · subst hc
        -- The quote ends the quotes, is escaped, and begins them again.
        have hquote : readWord .single (escapeQuote '\'' ++
              (text.flatMap escapeQuote ++ '\'' :: rest)) =
            (readWord .single (text.flatMap escapeQuote ++ '\'' :: rest)).map
              (consChar ⟨'\'', true⟩) := rfl
        rw [hquote, ih]
        exact map_consChar ⟨'\'', true⟩ (quotedWord text) _
      · have hsame : escapeQuote c = [c] := if_neg hc
        rw [hsame, List.singleton_append, readWord, if_neg hc, ih]
        exact map_consChar ⟨c, true⟩ (quotedWord text) _

/-- **An escaped value is read as the value, all of it quoted.** -/
theorem readWord_shellEscape (value : String) (rest : List Char) :
    readWord .bare ((shellEscape value).toList ++ rest) =
      (readWord .bare rest).map (prependWord (quotedWord value.toList)) := by
  have hopen : (shellEscape value).toList ++ rest =
      '\'' :: (value.toList.flatMap escapeQuote ++ '\'' :: rest) := by
    rw [shellEscape, String.toList_ofList]
    simp
  rw [hopen]
  exact readWord_escapeQuote value.toList rest

end Escaping

section Rendering

/-- A fixed-choice parameter of a saved command. -/
structure CommandParameter where
  name : String
  choices : List String
  default : Option String
deriving DecidableEq

/-- The default if it is one of the choices, or else the first of them. -/
def resolveDefault (param : CommandParameter) : String :=
  match param.default.filter (param.choices.contains ·) with
  | some default => default
  | none => param.choices.head?.getD ""

/-- The chosen value of each parameter. -/
def collectValues (parameters : List CommandParameter) (selected : List Nat) :
    List (String × String) :=
  (parameters.zip selected).map fun row => (row.1.name, (row.1.choices[row.2]?).getD "")

/-- The body in a subshell, with an export for each value in front of it. -/
def renderEnvBlock (body : String) (values : List (String × String)) : String :=
  let result := values.foldl
    (fun result v => result ++ "export " ++ v.1 ++ "=" ++ shellEscape v.2 ++ "\n") "(\n"
  let result := result ++ body
  let result := if body.toList.getLast? = some '\n' then result else result ++ "\n"
  result ++ ")"

/-- The default of a parameter is one of its choices. -/
theorem resolveDefault_mem {param : CommandParameter}
    (h : param.choices ≠ []) :
    resolveDefault param ∈ param.choices := by
  rw [resolveDefault]
  split
  · rename_i default hdefault
    exact List.contains_iff_mem.mp (Option.filter_eq_some_iff.mp hdefault).2
  · obtain ⟨first, rest, hchoices⟩ := List.exists_cons_of_ne_nil h
    rw [hchoices]
    exact List.mem_cons_self

/-- A collected value belongs to a parameter: a choice of it, or nothing. -/
theorem mem_collectValues {parameters : List CommandParameter} {selected : List Nat}
    {v : String × String}
    (h : v ∈ collectValues parameters selected) :
    ∃ param ∈ parameters, v.1 = param.name ∧ (v.2 ∈ param.choices ∨ v.2 = "") := by
  obtain ⟨⟨param, row⟩, hrow, rfl⟩ := List.mem_map.mp h
  refine ⟨param, (List.of_mem_zip hrow).1, rfl, ?_⟩
  cases hchoice : param.choices[row]? with
  | none => exact Or.inr (by simp)
  | some choice => exact Or.inl (by simpa [hchoice] using List.mem_of_getElem? hchoice)

/-- The line that exports a value. -/
def exportLine (v : String × String) : List Char :=
  exportName ++ ' ' :: (v.1.toList ++ ['='] ++ (shellEscape v.2).toList ++ ['\n'])

/-- The body and what closes the block. -/
def closedBody (body : String) : List Char :=
  body.toList ++ (if body.toList.getLast? = some '\n' then [] else ['\n']) ++ [')']

theorem toList_renderEnvBlock (body : String) (values : List (String × String)) :
    (renderEnvBlock body values).toList =
      ['(', '\n'] ++ values.flatMap exportLine ++ closedBody body := by
  have hopen : "(\n".toList = ['(', '\n'] := by decide
  have hcommand : "export ".toList = exportName ++ [' '] := by decide
  have hequals : "=".toList = ['='] := by decide
  have hnewline : "\n".toList = ['\n'] := by decide
  have hclose : ")".toList = [')'] := by decide
  have hlines : ∀ start : String, (values.foldl (fun result v =>
        result ++ "export " ++ v.1 ++ "=" ++ shellEscape v.2 ++ "\n") start).toList =
      start.toList ++ values.flatMap exportLine := by
    intro start
    induction values generalizing start with
    | nil => exact (List.append_nil _).symm
    | cons v values ih =>
        rw [List.foldl_cons, ih, List.flatMap_cons, exportLine]
        simp only [String.toList_append, hcommand, hequals, hnewline, List.append_assoc,
          List.cons_append, List.nil_append]
  have hstart := hlines "(\n"
  rw [renderEnvBlock, closedBody]
  by_cases hend : body.toList.getLast? = some '\n'
  · simp only [hend, if_true, String.toList_append, hstart, hopen, hclose, List.append_nil,
      List.append_assoc]
  · simp only [hend, if_false, String.toList_append, hstart, hopen, hnewline, hclose,
      List.append_assoc]

end Rendering

section Reading

/-- The tokens of the line that exports a value. -/
def exportTokens (v : String × String) : List ShellToken :=
  [.word (bareWord exportName),
    .word (bareWord (v.1.toList ++ ['=']) ++ quotedWord v.2.toList), .newline]

/-- What a shell makes of the line is the assignment of the value. -/
theorem exported_exportTokens {v : String × String}
    (hname : isShellName v.1.toList = true) :
    exported? (exportTokens v) = some (v.1.toList, v.2.toList) := by
  rw [exportTokens, exported?, if_pos rfl, assignment_of_name hname, Option.bind_some,
    literal_quotedWord, Option.map_some]

/-- The word that assigns a value is read up to the end of its line. -/
theorem readToken_assignment {v : String × String}
    (hname : isShellName v.1.toList = true)
    (rest : List Char) :
    readToken false (v.1.toList ++ ['='] ++ ((shellEscape v.2).toList ++ '\n' :: rest)) =
      some (.word (bareWord (v.1.toList ++ ['=']) ++ quotedWord v.2.toList), '\n' :: rest) := by
  have hplain : ∀ c ∈ v.1.toList ++ ['='], isPlain c = true := by
    intro c hc
    rcases List.mem_append.mp hc with hmem | hmem
    · exact (plain_of_isShellName hname c hmem).1
    · rw [List.mem_singleton.mp hmem]
      decide
  have hend : readWord .bare ('\n' :: rest) = some ([], '\n' :: rest) := rfl
  have hword : readWord .bare (v.1.toList ++ ['='] ++ ((shellEscape v.2).toList ++ '\n' :: rest)) =
      some (bareWord (v.1.toList ++ ['=']) ++ quotedWord v.2.toList, '\n' :: rest) := by
    rw [readWord_bare hplain, readWord_shellEscape, hend]
    simp [prependWord]
  have hfirst : v.1.toList ≠ [] := by
    intro hnil
    rw [hnil] at hname
    cases hname
  obtain ⟨c, name, hc⟩ := List.exists_cons_of_ne_nil hfirst
  obtain ⟨hplainc, _, hcomment⟩ := plain_of_isShellName hname c (hc ▸ List.mem_cons_self)
  rw [hc] at hword ⊢
  rw [List.cons_append, List.cons_append] at hword ⊢
  rw [readToken_word hplainc hcomment, hword]
  rfl

/-- An exporting line is read as its three tokens. -/
theorem readTokens_exportLine {v : String × String}
    (hname : isShellName v.1.toList = true)
    (rest : List Char) :
    readTokens 3 (exportLine v ++ rest) = some (exportTokens v, rest) := by
  have hline : exportLine v ++ rest =
      exportName ++ ' ' :: (v.1.toList ++ ['='] ++ ((shellEscape v.2).toList ++ '\n' :: rest)) := by
    rw [exportLine]
    simp
  generalize htail : v.1.toList ++ ['='] ++ ((shellEscape v.2).toList ++ '\n' :: rest) = tail
  have hoperand := readToken_assignment hname rest
  have hcommand : readToken false (exportName ++ ' ' :: tail) =
      some (.word (bareWord exportName), ' ' :: tail) := by
    have hplain : ∀ c ∈ exportName, isPlain c = true := List.all_eq_true.mp (by decide)
    have hend : readWord .bare (' ' :: tail) = some ([], ' ' :: tail) := rfl
    have hword : readWord .bare (exportName ++ ' ' :: tail) =
        some (bareWord exportName, ' ' :: tail) := by
      rw [readWord_bare hplain, hend]
      rfl
    have hstart := readToken_word (c := 'e') (by decide) (by decide)
      (['x', 'p', 'o', 'r', 't'] ++ ' ' :: tail)
    rw [exportName] at hword ⊢
    rw [List.cons_append] at hword ⊢
    rw [hstart, hword]
    rfl
  have hblank : readToken false (' ' :: tail) = readToken false tail := rfl
  have hnewline : readToken false ('\n' :: rest) = some (.newline, rest) := rfl
  rw [hline, htail]
  rw [htail] at hoperand
  simp only [readTokens, hcommand, Option.bind_some, hblank, hoperand, hnewline, Option.map_some]
  rfl

/-- The lines are read one by one. -/
theorem readTokens_exportLines {values : List (String × String)}
    (hnames : ∀ v ∈ values, isShellName v.1.toList = true)
    (rest : List Char) :
    readTokens (3 * values.length) (values.flatMap exportLine ++ rest) =
      some (values.flatMap exportTokens, rest) := by
  induction values with
  | nil => rfl
  | cons v values ih =>
      rw [List.forall_mem_cons] at hnames
      have hcount : 3 * (v :: values).length = 3 + 3 * values.length := by
        rw [List.length_cons]
        omega
      rw [hcount, List.flatMap_cons, List.flatMap_cons, List.append_assoc]
      exact readTokens_append (readTokens_exportLine hnames.1 _) (ih hnames.2)

/-- **In front of the body a shell reads one export for each value**, in order, of the
given name and of literally the given value; the body is what is left to read. -/
theorem renderEnvBlock_parsed {values : List (String × String)}
    (hnames : ∀ v ∈ values, isShellName v.1.toList = true)
    (body : String) :
    ∃ lines : List (List ShellToken),
      readTokens (2 + 3 * values.length) (renderEnvBlock body values).toList =
          some ([.opening, .newline] ++ lines.flatten, closedBody body) ∧
        lines.map exported? = values.map fun v => some (v.1.toList, v.2.toList) := by
  refine ⟨values.map exportTokens, ?_, ?_⟩
  · have hopen : readTokens 2 (['(', '\n'] ++ (values.flatMap exportLine ++ closedBody body)) =
        some ([.opening, .newline], values.flatMap exportLine ++ closedBody body) := rfl
    rw [toList_renderEnvBlock, List.append_assoc, ← List.flatMap_def]
    exact readTokens_append hopen (readTokens_exportLines hnames _)
  · rw [List.map_map]
    exact List.map_congr_left fun v hv => exported_exportTokens (hnames v hv)

theorem renderEnvBlock_parsed_quotes :
    (∀ v ∈ [("MSG", "it's; \\ (\n$HOME")], isShellName v.1.toList = true) ∧
      ∃ lines : List (List ShellToken),
        readTokens 5 (renderEnvBlock "echo" [("MSG", "it's; \\ (\n$HOME")]).toList =
            some ([.opening, .newline] ++ lines.flatten, closedBody "echo") ∧
          lines.map exported? =
            [("MSG", "it's; \\ (\n$HOME")].map fun v => some (v.1.toList, v.2.toList) := by
  have hnames : ∀ v ∈ [("MSG", "it's; \\ (\n$HOME")], isShellName v.1.toList = true := by
    decide
  exact ⟨hnames, renderEnvBlock_parsed hnames "echo"⟩

end Reading

end Client
end Rttx
