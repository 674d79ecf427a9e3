/-
# HookAudit.Tree.Bash.Expansion — words, quotes and expansions.

A word is made of pieces without space between them: plain characters, quoted text, and
expansions.  Two or more pieces are a concatenation.
-/
import HookAudit.Tree.Bash.Basic

namespace HookAudit.Bash

open Parse

/-! ## Variables -/

/-- The name behind a dollar sign: that of a variable, a position, or one of the special
parameters. -/
def parameterName : P Forest := do
  match ← peek with
  | some c =>
    if isNameChar c && (c != '_' || ((← peekAt 1).any isNameChar)) && c != '0' then
      let start ← pos
      skipWhile isNameChar
      leafFrom "variable_name" start
    else if "*@?!#-$0_".toList.contains c then takeLeaf "special_variable_name" 1
    else failure
  | none => failure

/-- A dollar sign with a name. -/
def simpleExpansion : P Forest :=
  construct "simple_expansion" (inOrder [exact "$", parameterName])

/-! ## Braces -/

/-- Text without blanks and special characters of its own, up to a closing mark. -/
def rawRun (stops : List Char) : P Forest := do
  let start ← pos
  let _ ← manyOf do
    match ← peek with
    | some '\\' => goto ((← pos) + 2)
    | some c => require (!stops.contains c); goto ((← pos) + 1)
    | none => failure
    return []
  require (start < (← pos))
  leafFrom "word" start

/-- An element of an array: its name and index. -/
def element (goals : Goals) : P Forest :=
  construct "subscript" <| inOrder
    [inField "name" variableName, exact "[",
     inField "index" (firstOf
       [do
          let index ← goals .arithmetic
          require (← looksAt "]")
          return index,
        rawRun [']']]),
     exact "]"]

/-- The operators between the name and the operand of an expansion in braces, longer ones first. -/
def braceOperators : List String :=
  [":-", ":=", ":+", ":?", "##", "%%", "//", "/#", "/%", "^^", ",,", "#", "%", "/", "^", ",", "-",
   "=", "+", "?", ":", "@"]

/-- One piece of an operand in braces. -/
def operandPiece (pieces : P Forest) : P Forest := pieces <|> rawRun ['\x7d', '"', '\'', '$', backquote]

/-- An expansion in braces; `pieces` parses quotes and expansions inside it. -/
def bracedExpansion (goals : Goals) (pieces : P Forest) : P Forest :=
  construct "expansion" <| inOrder
    [exact "$\x7b",
     maybe (do
       let mark ← firstOf (["#", "!"].map exact)
       require !(← looksAt "\x7d")
       return mark),
     firstOf [element goals, parameterName],
     maybe (inField "operator" (firstOf (braceOperators.map exact))),
     manyOf (operandPiece pieces),
     exact "\x7d"]

/-! ## Substitutions -/

/-- Statements inside brackets. -/
def bracketed (goals : Goals) (opening closing : String) : P Forest :=
  inOrder [exact opening, gap,
    withMode (fun _ => {}) (inOrder [goals .script, gap]), exact closing]

/-- The output of statements. -/
def commandSubstitution (goals : Goals) : P Forest := do
  construct "command_substitution" <|
    bracketed goals "$(" ")" <|> do
      require !(← mode).backquoted
      inOrder [exact "`", gap,
        withMode (fun _ => { backquoted := true }) (inOrder [goals .script, gap]), exact "`"]

/-- The value of an arithmetic expression. -/
def arithmeticExpansion (goals : Goals) : P Forest :=
  construct "arithmetic_expansion" <|
    inOrder [exact "$((", gap, separated (inOrder [exact ",", gap]) (inOrder [goals .arithmetic, gap]),
      exact "))"] <|> inOrder [exact "$[", gap, goals .arithmetic, gap, exact "]"]

/-- A name for the output or input of statements. -/
def processSubstitution (goals : Goals) : P Forest :=
  construct "process_substitution"
    (bracketed goals "<(" ")" <|> bracketed goals ">(" ")")

/-! ## Quotes -/

/-- Text in single quotes. -/
def rawString : P Forest := do
  require (← looksAt "'")
  let stop ← stopOf (· != '\'') 1
  takeLeaf "raw_string" (stop + 1 - (← pos))

/-- The length of escaped text from an offset up to behind its closing quote. -/
def escapedLength : (fuel : Nat) → Nat → P Nat
  | 0, _ => failure
  | fuel + 1, offset => do
    match ← peekAt offset with
    | some '\\' => escapedLength fuel (offset + 2)
    | some '\'' => return offset + 1
    | some _ => escapedLength fuel (offset + 1)
    | none => failure

/-- Text in single quotes in which a backslash escapes. -/
def escapedString : P Forest := do
  require (← looksAt "$'")
  takeLeaf "ansi_c_string" (← escapedLength (← read).size 2)

/-- Quoted text in which `piece` is expanded: everything else up to a closing quote is content. -/
def quotedContent (piece : P Forest) : P Forest := manyOf <| firstOf
  [piece,
   do
     let start ← pos
     let _ ← manyOf do
       match ← peek with
       | some '\\' => goto ((← pos) + 2)
       | some c => require (c != '"' && c != '$' && c != backquote); goto ((← pos) + 1)
       | none => failure
       return []
     require (start < (← pos))
     leafFrom "string_content" start,
   exact "$"]

/-- Everything that a dollar sign or a backquote starts. -/
def expansion (goals : Goals) (quotes : P Forest) : P Forest := do
  if ← looksAt "$" then
    firstOf [arithmeticExpansion goals, commandSubstitution goals,
      bracedExpansion goals quotes, simpleExpansion]
  else commandSubstitution goals

/-- Quotes and expansions, as deep as they nest. -/
def quoteOrExpansion (goals : Goals) : (fuel : Nat) → P Forest
  | 0 => failure
  | fuel + 1 => do
    let inner := expansion goals (quoteOrExpansion goals fuel)
    let text := construct "string" (inOrder [exact "\"", quotedContent inner, exact "\""])
    match ← peek with
    | some '"' => text
    | some '\'' => rawString
    | some '$' =>
      firstOf [escapedString, construct "translated_string" (inOrder [exact "$", text]), inner]
    | _ => inner

/-- Quotes and expansions. -/
def quoted (goals : Goals) : P Forest := do quoteOrExpansion goals ((← read).size + 1)

/-- Expansions inside text that no quotes end. -/
def unquotedExpansion (goals : Goals) : P Forest := expansion goals (quoted goals)

/-! ## Words -/

/-- A range of numbers in braces. -/
def braceRange : P Forest :=
  construct "brace_expression"
    (inOrder [exact "\x7b", plainNumber, exact "..", plainNumber, exact "\x7d"])
where
  plainNumber : P Forest := do
    let stop ← stopOf Char.isDigit (if ← looksAt "-" then 1 else 0)
    takeLeaf "number" (stop - (← pos))

/-- A bracket or brace that stands for itself. -/
def bracketMark : P Forest := do
  match ← peek with
  | some c => require ("\x7b\x7d[]".toList.contains c); takeLeaf "word" 1
  | none => failure

/-- A piece of a word; `glued` when another piece stands before it. -/
def wordPiece (goals : Goals) (brackets glued : Bool) : P Forest := firstOf
  [quoted goals, processSubstitution goals, braceRange, plainWord glued,
   (do require brackets; bracketMark), exact "$"]

/-- A word made of pieces. -/
def word (goals : Goals) (brackets : Bool) : P Forest := do
  let start ← pos
  let pieces ← inOrder [wordPiece goals brackets false, manyOf (wordPiece goals brackets true)]
  match pieces with
  | [_] => return pieces
  | _ =>
    let stop ← pos
    let marks := (← read).extract start stop
    if marks.all "\x7b\x7d[]".toList.contains then leafFrom "word" start
    else return wrap "concatenation" pieces

end HookAudit.Bash
