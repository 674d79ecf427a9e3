/-
# HookAudit.Tree.Python.Basic — the ground of the Python grammar.

Inside brackets line ends are space like any other; outside they end statements, and the indentation
of a line says which block it belongs to.  The mode remembers both.
-/
import HookAudit.Text.Word
import HookAudit.Tree.Parse

namespace HookAudit.Python

open Parse

/-- What the Python grammar parses. -/
inductive Goal where
  /-- The statements of one block. -/
  | statements
  /-- An expression. -/
  | expression
  /-- An expression without a condition of its own. -/
  | disjunction
  /-- An operand of `and` and `or`. -/
  | negation
  /-- An operand of arithmetic. -/
  | factor
deriving DecidableEq

/-- Where a parser stands. -/
structure Mode where
  /-- Whether line ends are space. -/
  bracketed : Bool := false
  /-- The indentation of the current block. -/
  indent : Nat := 0

/-- A parser for pieces of Python. -/
abbrev P := Parse Mode

/-- A parser for every goal. -/
abbrev Goals := Goal → P Forest

/-! ## Space -/

/-- Whether a character separates tokens of a line. -/
def isSpace (c : Char) : Bool :=
  let n := c.toNat
  n == 9 || (11 ≤ n && n ≤ 13) || n == 32 || n == 0x85 || n == 0xA0 || n == 0x1680
    || (0x2000 ≤ n && n ≤ 0x200B) || n == 0x2028 || n == 0x2029 || n == 0x202F || n == 0x205F
    || n == 0x2060 || n == 0x3000 || n == 0xFEFF

/-- A backslash at the end of a line, with the line end. -/
def lineContinuation : P Forest := do
  let length ← if ← looksAt "\\\n" then pure 2 else if ← looksAt "\\\r\n" then pure 3 else failure
  let start ← pos
  goto (start + length)
  leafFrom "line_continuation" start

/-- A comment: everything up to the end of the line. -/
def comment : P Forest := do
  require (← looksAt "#")
  let start ← pos
  skipWhile (· != '\n')
  leafFrom "comment" start

/-- Skips space, inside brackets line ends and comments too; builds what is no plain space. -/
def gap : P Forest := do
  let open_ := (← mode).bracketed
  manyOf (firstOf
    [skipSome fun c => isSpace c || (open_ && c == '\n'),
     lineContinuation,
     (do require open_; comment)])

/-- What a parser builds behind space. -/
def after (p : P Forest) : P Forest := inOrder [gap, p]

/-! ## Tokens -/

/-- Whether a character may stand in a name. -/
def isNameChar (c : Char) : Bool := (CodePoint.ofChar c).isWord

/-- Whether a character may start a name. -/
def startsName (c : Char) : Bool := isNameChar c && !c.isDigit

/-- A keyword: these characters as a whole name. -/
def keyword (word : String) : P Forest := do
  require !((← peekAt word.length).any isNameChar)
  exact word

/-- The words that are no names. -/
def reserved : List String :=
  ["False", "None", "True", "and", "as", "assert", "break", "class", "continue", "def", "del",
   "elif", "else", "except", "finally", "for", "from", "global", "if", "import", "in", "is",
   "lambda", "nonlocal", "not", "or", "pass", "raise", "return", "try", "while", "with", "yield"]

/-- A name. -/
def identifier : P Forest := do
  require ((← peek).any startsName)
  let start ← pos
  let stop ← stopOf isNameChar
  require !(reserved.contains (String.ofList ((← read).extract start stop)))
  goto stop
  leafFrom "identifier" start

/-- The marks between operands, longer ones first. -/
def operatorMarks : List String :=
  ["**=", "//=", "<<=", ">>=", "+=", "-=", "*=", "/=", "%=", "@=", "&=", "|=", "^=", "->", ":=",
   "==", "!=", "<=", ">=", "<>", "**", "//", "<<", ">>", "+", "-", "*", "/", "%", "@", "&", "|",
   "^", "~", "<", ">", "=", ":"]

/-- The longest mark that stands here. -/
def longestMark : List String → P String
  | [] => failure
  | m :: rest => do if ← looksAt m then return m else longestMark rest

/-- One of some marks, provided that it is the longest that stands here. -/
def operator (marks : List String) : P Forest := do
  let found ← longestMark operatorMarks
  require (marks.contains found)
  exact found

/-- A punctuation mark behind space. -/
def mark (m : String) : P Forest := after (exact m)

/-- A keyword behind space. -/
def word (w : String) : P Forest := after (keyword w)

/-! ## Brackets and lists -/

/-- What a parser builds between brackets. -/
def enclosed (opening : String) (inner : P Forest) (closing : String) : P Forest :=
  inOrder [exact opening,
    withMode ({ · with bracketed := true }) (inOrder [inner, mark closing])]

/-- Further elements between commas, a comma at the end included. -/
def moreElements (element : P Forest) : P Forest :=
  inOrder [manyOf (inOrder [mark ",", after element]), maybe (mark ",")]

/-- Elements between commas, a comma at the end included, or nothing. -/
def elements (element : P Forest) : P Forest :=
  maybe (inOrder [after element, moreElements element])

/-! ## Lines -/

/-- The indentation of the line up to the current position: a tab counts for eight columns. -/
def indentHere : P Nat := do
  let s ← read
  let here ← pos
  let column := ((s.marks[here]?).getD default).column
  return (s.extract (here - column) here).foldl
    (fun width c => if c == ' ' then width + 1 else if c == '\t' then width + 8 else 0) 0

/-- Skips empty lines and the indentation of the next line that is not; builds comments. -/
def blankLines : P Forest :=
  manyOf (firstOf
    [skipSome fun c => isSpace c || c == '\n', comment, lineContinuation])

/-- The end of a line. -/
def lineEnd : P Forest := do
  let remarks ← inOrder [gap, maybe comment]
  if ← looksAt "\n" then goto ((← pos) + 1) else require (← atEnd)
  return remarks

/-- What a parser builds on a line of the current block. -/
def aligned (p : P Forest) : P Forest := do
  let remarks ← blankLines
  require ((← indentHere) == (← mode).indent)
  return remarks ++ (← p)

end HookAudit.Python
