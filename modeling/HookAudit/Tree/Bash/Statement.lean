/-
# HookAudit.Tree.Bash.Statement — commands and what holds them together.

Statements are read from left to right: commands joined by pipes, these joined by `&&` and `||`,
and redirections, which apply to everything before them.  What has been redirected may be joined
again.
-/
import HookAudit.Tree.Bash.Condition

namespace HookAudit.Bash

open Parse

/-! ## Redirections -/

/-- A word on the same line. -/
def spacedWord (goals : Goals) : P Forest := do space; goals .literal

/-- Digits right before a redirection. -/
def fileDescriptor : P Forest := do
  let stop ← stopOf Char.isDigit
  let length := stop - (← pos)
  require (length > 0)
  require ((← peekAt length).any fun c => c == '<' || c == '>')
  inField "descriptor" (takeLeaf "file_descriptor" length)

/-- The marks of redirections from and to files, longer ones first. -/
def fileMarks : List String := ["&>>", "&>", "<&", ">&", ">>", ">|", "<", ">"]

/-- A redirection from or to a file, or to nowhere. -/
def fileRedirect (destinations : P Forest) : P Forest :=
  construct "file_redirect" <| inOrder
    [maybe fileDescriptor,
     firstOf
       [firstOf (["<&-", ">&-"].map exact),
        do
          require !(← looksAt "<<")
          require !((← looksAt "<(") || (← looksAt ">("))
          inOrder [firstOf (fileMarks.map exact), inField "destination" destinations]]]

/-- A word handed over as input. -/
def herestring (goals : Goals) : P Forest :=
  construct "herestring_redirect"
    (inOrder [maybe fileDescriptor, exact "<<<", spacedWord goals])

/-! ## Documents -/

/-- The delimiter of a document without its quotes. -/
def bareDelimiter (word : List Char) : List Char :=
  word.filter fun c => c != '\'' && c != '"' && c != '\\'

/-- The position of the line that is the delimiter, tabs before it aside where they may be. -/
def findDelimiter (tabs : Bool) (delimiter : List Char) : (fuel : Nat) → Nat → P Nat
  | 0, _ => failure
  | fuel + 1, line => do
    let s ← read
    let start := if tabs then s.skipWhile (· == '\t') s.size line else line
    let stop := s.skipWhile (· != '\n') s.size line
    if s.extract start stop == delimiter then return start
    else if stop < s.size then findDelimiter tabs delimiter fuel (stop + 1)
    else failure

/-- The text of a document up to a position; expansions in it are built unless it is quoted. -/
def documentBody (goals : Goals) (quoted : Bool) (stop : Nat) : P Forest := do
  if quoted then
    let start ← pos
    goto stop
    leafFrom "heredoc_body" start
  else
    let start ← pos
    let inside ← manyOf do
      require ((← pos) < stop)
      (if ← looksAt "\\" then failure else unquotedExpansion goals) <|> do
        goto (min stop ((← pos) + (if ← looksAt "\\" then 2 else 1)))
        return []
    goto stop
    return [.mk "heredoc_body" true none ((← read).span start stop) inside]

/-- What may follow on the line that announces a document. -/
def behindDocument (goals : Goals) : P Forest := firstOf
  [construct "pipeline"
     (inOrder [firstOf (["|&", "|"].map fun m => do space; exact m), gap, goals .statement]),
   inOrder [inField "operator" (firstOf (["&&", "||"].map fun m => do space; exact m)), gap,
     inField "right" (goals .statement)],
   do space; inField "redirect" (fileRedirect (spacedWord goals)),
   inField "argument" (spacedWord goals)]

/-- A document in the script that is handed over as input. -/
def heredoc (goals : Goals) : P Forest := construct "heredoc_redirect" do
  let descriptor ← maybe fileDescriptor
  require !(← looksAt "<<<")
  let mark ← exact "<<-" <|> exact "<<"
  let tabs := mark.any (·.kind == "<<-")
  space
  let first ← pos
  let label ← goals .literal
  let raw := (← read).extract first (← pos)
  let delimiter := bareDelimiter raw
  let name ← leafFrom "heredoc_start" first
  require !label.isEmpty
  let more ← manyOf (behindDocument goals)
  space
  let remarks ← maybe comment
  require (← looksAt "\n")
  goto ((← pos) + 1)
  let stop ← findDelimiter tabs delimiter ((← read).size + 1) (← pos)
  let body ← documentBody goals (raw != delimiter) stop
  let closing ← do
    goto (stop + delimiter.length)
    leafFrom "heredoc_end" stop
  return descriptor ++ mark ++ name ++ more ++ remarks ++ body ++ closing

/-- One redirection behind a statement. -/
def redirection (goals : Goals) : P Forest := do
  space
  inField "redirect" <| firstOf
    [heredoc goals, herestring goals, fileRedirect (someOf (spacedWord goals))]

/-- One redirection before a command, which takes a single word. -/
def leadingRedirection (goals : Goals) : P Forest := do
  space
  inField "redirect" (herestring goals <|> fileRedirect (spacedWord goals))

/-! ## Commands -/

/-- The value of an assignment, right behind its sign. -/
def assignedValue (goals : Goals) : P Forest := firstOf
  [construct "array" (inOrder
     [exact "(", gap, manyOf (inOrder [goals .literal, gap]), exact ")"]),
   goals .literal, pure []]

/-- An assignment. -/
def assignment (goals : Goals) : P Forest :=
  construct "variable_assignment" <| inOrder
    [inField "name" (element goals <|> variableName), firstOf (["=", "+="].map exact),
     inField "value" (assignedValue goals)]

/-- Whether a word that starts here belongs to what surrounds the statement. -/
def closesScript : P Bool := isAhead <| firstOf
  ((["\x7d", ")", "]]", ";;", ";&"].map exact) ++
    (["then", "elif", "else", "fi", "do", "done", "esac"].map keyword))

/-- An argument of a command. -/
def argument (goals : Goals) : P Forest := do
  space
  require !(← isAhead fileDescriptor)
  inField "redirect" (herestring goals) <|> inField "argument" (goals .literal)

/-- An assignment behind space. -/
def spacedAssignment (goals : Goals) : P Forest := do space; assignment goals

/-- The name of a command with the arguments behind it; more redirections and assignments may stand
before it. -/
def named (goals : Goals) : P Forest := inOrder
  [manyOf (leadingRedirection goals <|> spacedAssignment goals),
   do
     space
     require !(← isAhead fileDescriptor)
     require !(← closesScript)
     inField "name" (construct "command_name" (goals .literal)),
   manyOf (argument goals)]

/-- A command: assignments and redirections, its name, and its arguments.  Assignments without a
name behind them stand on their own. -/
def command (goals : Goals) : P Forest := do
  let assigned ← manyOf (spacedAssignment goals)
  match ← maybe (named goals), assigned with
  | [], [] => failure
  | [], [_] => return assigned
  | [], _ => return wrap "variable_assignments" assigned
  | rest, _ => return wrap "command" (assigned ++ rest)

/-- The words that declare variables. -/
def declarators : List String := ["declare", "typeset", "export", "readonly", "local"]

/-- A plain variable name as a whole word. -/
def variableWord : P Forest := do
  let name ← variableName
  require ((← wordHere true) == 0)
  require !((← peek).any fun c => "$\"'`[(\x7b".toList.contains c)
  return name

/-- A declaration of variables. -/
def declaration (goals : Goals) : P Forest := construct "declaration_command" <| inOrder
  [firstOf (declarators.map keyword),
   manyOf (do
     space
     require !(← isAhead fileDescriptor)
     firstOf [assignment goals, variableWord, goals .literal])]

/-- The removal of variables. -/
def removal (goals : Goals) : P Forest := construct "unset_command" <| inOrder
  [firstOf (["unset", "unsetenv"].map keyword),
   manyOf (do
     space
     require !(← isAhead fileDescriptor)
     firstOf [variableWord, goals .literal])]

/-! ## Compound statements -/

/-- Statements between two keywords, the closing one left to what follows. -/
def body (goals : Goals) : P Forest := inOrder [gap, goals .script, gap]

/-- An end of a statement within its line. -/
def semicolon : P Forest := do
  space
  require !(← looksAt ";;")
  maybe (exact ";")

/-- Statements between `do` and `done`. -/
def doGroup (goals : Goals) : P Forest :=
  construct "do_group" (inOrder [keyword "do", body goals, keyword "done"])

/-- Statements in braces. -/
def braces (goals : Goals) : P Forest := construct "compound_statement" <| inOrder
  [do
     let opening ← exact "\x7b"
     require ((← peek).all isSpace)
     return opening,
   body goals, exact "\x7d"]

/-- Statements in parentheses. -/
def subshell (goals : Goals) : P Forest := construct "subshell" (bracketed goals "(" ")")

/-- A loop over words. -/
def forStatement (goals : Goals) : P Forest := construct "for_statement" <| inOrder
  [firstOf (["for", "select"].map keyword), gap, inField "variable" variableName, gap,
   maybe (inOrder [keyword "in", manyOf (inField "value" (spacedWord goals))]),
   semicolon, gap, inField "body" (doGroup goals)]

/-- A loop with a counter. -/
def countingStatement (goals : Goals) : P Forest := construct "c_style_for_statement" <| inOrder
  [keyword "for", gap, exact "((", gap, maybe (goals .arithmetic), gap, exact ";", gap,
   maybe (goals .arithmetic), gap, exact ";", gap, maybe (goals .arithmetic), gap, exact "))",
   semicolon, gap, inField "body" (doGroup goals <|> braces goals)]

/-- A loop with a condition. -/
def whileStatement (goals : Goals) : P Forest := construct "while_statement" <| inOrder
  [firstOf (["while", "until"].map keyword), inField "condition" (body goals),
   inField "body" (doGroup goals)]

/-- A choice by conditions. -/
def ifStatement (goals : Goals) : P Forest := construct "if_statement" <| inOrder
  [keyword "if", inField "condition" (body goals), keyword "then", body goals,
   manyOf (construct "elif_clause" <| inOrder
     [keyword "elif", body goals, keyword "then", body goals]),
   maybe (construct "else_clause" (inOrder [keyword "else", body goals])),
   keyword "fi"]

/-- A pattern of a choice: a word, or text with shell patterns up to a bar or a bracket. -/
def casePattern (goals : Goals) : P Forest := firstOf
  [(do
      let w ← goals .literal
      gap' w),
   (do
      let start ← pos
      skipWhile fun c => !isSpace c && c != '|' && c != ')'
      require (start < (← pos))
      leafFrom "extglob_pattern" start)]
where
  /-- The word, provided that the pattern ends behind it. -/
  gap' (w : Forest) : P Forest := do
    require (← isAhead (do space; exact "|" <|> exact ")"))
    return w

/-- One alternative of a choice by patterns. -/
def caseItem (goals : Goals) : P Forest := construct "case_item" <| inOrder
  [maybe (inOrder [exact "(", gap]), inField "value" (casePattern goals), gap,
   manyOf (inOrder [exact "|", gap, inField "value" (casePattern goals), gap]),
   exact ")", body goals,
   maybe (firstOf
     [inField "fallthrough" (firstOf [exact ";;&", exact ";&"]),
      inField "termination" (exact ";;")])]

/-- A choice by patterns. -/
def caseStatement (goals : Goals) : P Forest := construct "case_statement" <| inOrder
  [keyword "case", gap, inField "value" (goals .literal), gap, keyword "in", gap,
   manyOf (do
     require !(← isAhead (keyword "esac"))
     inOrder [caseItem goals, gap]),
   keyword "esac"]

/-- A function. -/
def functionDefinition (goals : Goals) : P Forest := construct "function_definition" <| inOrder
  [firstOf
     [inOrder [keyword "function", gap, name, maybe (do space; parens)],
      inOrder [name, (do space; parens)]],
   gap,
   inField "body"
     (firstOf [braces goals, testCommand goals, subshell goals, ifStatement goals]),
   maybe (do space; inField "redirect" (herestring goals <|> fileRedirect (spacedWord goals)))]
where
  name : P Forest := do inField "name" (takeLeaf "word" (← wordHere false))
  parens : P Forest := inOrder [exact "(", (do space; exact ")")]

/-- A refused outcome. -/
def negation (goals : Goals) : P Forest := construct "negated_command" <| inOrder
  [keyword "!",
   (do space; firstOf [testCommand goals, subshell goals, command goals])]

/-! ## Statements -/

/-- A statement without pipes, connectives and redirections behind it. -/
def part (goals : Goals) : P Forest := do
  require !(← closesScript)
  firstOf
    [negation goals, countingStatement goals, forStatement goals, whileStatement goals,
     ifStatement goals, caseStatement goals, functionDefinition goals, declaration goals,
     removal goals, braces goals, testCommand goals, subshell goals, command goals,
     construct "redirected_statement" (someOf (redirection goals))]

/-- Pipes, each with the part behind it. -/
def pipes (goals : Goals) : P Forest := someOf do
  space
  require !(← looksAt "||")
  inOrder [exact "|&" <|> exact "|", gap, part goals]

/-- Parts joined by pipes. -/
def piped (goals : Goals) : P Forest := do
  let first ← part goals
  match ← maybe (pipes goals) with
  | [] => return first
  | more => return wrap "pipeline" (first ++ more)

/-- A statement. -/
def statement (goals : Goals) : P Forest :=
  extended (piped goals) fun left => firstOf
    [construct "list" (do
       space
       inOrder [pure left, exact "&&" <|> exact "||", gap, piped goals]),
     construct "redirected_statement"
       (inOrder [pure (asField "body" left), someOf (redirection goals)]),
     construct "pipeline" (inOrder [pure left, pipes goals])]

/-- What ends a statement within its line. -/
def terminator : P Forest := do
  space
  if (← looksAt ";;") || (← looksAt ";&") then return []
  maybe (exact ";" <|> exact "&")

/-- A statement with what ends it. -/
def ended (goals : Goals) : P Forest := inOrder [goals .statement, terminator, gap]

/-- Statements with what ends them. -/
def script (goals : Goals) : P Forest := manyOf (ended goals)

/-! ## The grammar -/

/-- One step of the grammar: each goal with the help of all goals. -/
def step (goals : Goals) : Goal → P Forest
  | .script => script goals
  | .statement => statement goals
  | .literal => word goals true
  | .arithmetic => arithmetic goals
  | .condition => condition goals

/-- A line that no statement starts on, skipped. -/
def skippedLine : P Forest := do
  require !(← atEnd)
  skipWhile (· != '\n')
  goto ((← pos) + 1)
  return []

/-- The statements of a whole script. -/
def program : P Forest := do
  let goals := knot step (depth (← read))
  inOrder [gap, manyOf (ended goals <|> inOrder [skippedLine, gap])]

/-- The tree of a shell script. -/
def tree (source : Source) : Node :=
  source.root "program" (((program source ⟨0, {}⟩).map (·.1)).getD [])

end HookAudit.Bash
