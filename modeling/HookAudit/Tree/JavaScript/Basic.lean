/-
# HookAudit.Tree.JavaScript.Basic — the ground of the JavaScript grammar.

TypeScript is read by the same grammar with type syntax switched on in the mode.  Line ends are
space, except that a statement may end at one without a semicolon.
-/
import HookAudit.Tree.Parse

namespace HookAudit.JavaScript

open Parse

/-- What the JavaScript grammar parses. -/
inductive Goal where
  /-- A statement. -/
  | statement
  /-- Expressions between commas. -/
  | sequence
  /-- One expression. -/
  | assignment
  /-- An operand with signs and calls. -/
  | unary
  /-- Something that takes a value. -/
  | binding
  /-- A type. -/
  | type
deriving DecidableEq

/-- Which of the two languages is read. -/
structure Mode where
  /-- Whether type syntax is read. -/
  typed : Bool

/-- A parser for pieces of JavaScript. -/
abbrev P := Parse Mode

/-- A parser for every goal. -/
abbrev Goals := Goal → P Forest

/-- What a parser builds where type syntax is read. -/
def typedOnly (p : P Forest) : P Forest := do
  require (← mode).typed
  p

/-! ## Space -/

/-- Whether a character separates tokens. -/
def isSpace (c : Char) : Bool :=
  let n := c.toNat
  (9 ≤ n && n ≤ 13) || n == 32 || n == 0x85 || n == 0xA0 || n == 0x1680
    || (0x2000 ≤ n && n ≤ 0x200B) || n == 0x2028 || n == 0x2029 || n == 0x202F || n == 0x205F
    || n == 0x2060 || n == 0x3000 || n == 0xFEFF

/-- Whether a character ends a line. -/
def isLineEnd (c : Char) : Bool :=
  c == '\n' || c == '\r' || c.toNat == 0x2028 || c.toNat == 0x2029

/-- The position behind the end of a block comment, from an offset on. -/
def blockEnd : (fuel : Nat) → Nat → P Nat
  | 0, _ => failure
  | fuel + 1, offset => do
    match ← peekAt offset with
    | none => failure
    | some '*' =>
      if (← peekAt (offset + 1)) == some '/' then return (← pos) + offset + 2
      else blockEnd fuel (offset + 1)
    | some _ => blockEnd fuel (offset + 1)

/-- A comment up to the end of its line, or up to its closing mark. -/
def comment : P Forest := do
  let start ← pos
  if ← looksAt "//" then skipWhile (!isLineEnd ·)
  else
    require (← looksAt "/*")
    goto (← blockEnd (← read).size 2)
  leafFrom "comment" start

/-- Skips space and line ends; builds the comments between them. -/
def gap : P Forest := manyOf (comment <|> skipSome isSpace)

/-- What a parser builds behind space. -/
def after (p : P Forest) : P Forest := inOrder [gap, p]

/-- Whether the next token stands on a later line. -/
def lineEndAhead : P Bool := do
  let s ← read
  let start ← pos
  let _ ← gap
  let stop ← pos
  goto start
  return (s.extract start stop).any isLineEnd

/-- What a parser builds behind space on the same line. -/
def sameLine (p : P Forest) : P Forest := do
  require !(← lineEndAhead)
  after p

/-! ## Tokens -/

/-- The mark of text with expressions in it. -/
def backquote : Char := Char.ofNat 96

/-- Whether a character may stand in a name. -/
def isNameChar (c : Char) : Bool :=
  if c.toNat < 128 then c.isAlphanum || c == '_' || c == '$' else !isSpace c

/-- Whether a character may start a name. -/
def startsName (c : Char) : Bool := isNameChar c && !c.isDigit

/-- A keyword: these characters as a whole name. -/
def keyword (word : String) : P Forest := do
  require !((← peekAt word.length).any isNameChar)
  exact word

/-- The words that are no names of values. -/
def reserved : List String :=
  ["break", "case", "catch", "class", "const", "continue", "debugger", "default", "delete", "do",
   "else", "export", "extends", "false", "finally", "for", "function", "if", "import", "in",
   "instanceof", "new", "null", "return", "super", "switch", "this", "throw", "true", "try",
   "typeof", "var", "void", "while", "with"]

/-- Any word, as a leaf of a kind. -/
def wordLeaf (kind : String) : P Forest := do
  require ((← peek).any startsName)
  let start ← pos
  skipWhile isNameChar
  leafFrom kind start

/-- A word that may name a value, as a leaf of a kind. -/
def nameLeaf (kind : String) : P Forest := do
  let start ← pos
  let leaf ← wordLeaf kind
  let stop ← pos
  require !(reserved.contains (String.ofList ((← read).extract start stop)))
  return leaf

/-- A name of a value. -/
def identifier : P Forest := nameLeaf "identifier"

/-- A keyword that stands for a construct. -/
def keywordLeaf (word kind : String) : P Forest := do
  let start ← pos
  let _ ← keyword word
  leafFrom kind start

/-- The marks between operands, longer ones first. -/
def operatorMarks : List String :=
  [">>>=", "...", "===", "!==", "**=", "<<=", ">>=", ">>>", "&&=", "||=", "??=", "=>", "==", "!=",
   "<=", ">=", "&&", "||", "??", "?.", "++", "--", "+=", "-=", "*=", "/=", "%=", "&=", "|=", "^=",
   "<<", ">>", "**", "+", "-", "*", "/", "%", "&", "|", "^", "!", "~", "<", ">", "=", "?", ":",
   "."]

/-- The longest mark that stands here.  A question mark before a decimal fraction stands alone. -/
def longestMark : List String → P String
  | [] => failure
  | m :: rest => do
    let fraction := m == "?." && (← peekAt 2).any Char.isDigit
    if (← looksAt m) && !fraction then return m else longestMark rest

/-- One of some marks, provided that it is the longest that stands here. -/
def operator (marks : List String) : P Forest := do
  let found ← longestMark operatorMarks
  require (marks.contains found)
  exact found

/-- A punctuation mark behind space. -/
def mark (m : String) : P Forest := after (exact m)

/-- A keyword behind space. -/
def word (w : String) : P Forest := after (keyword w)

/-! ## Lists -/

/-- Elements between commas, any of which may be missing. -/
def elements (element : P Forest) : P Forest :=
  inOrder [maybe (after element), manyOf (inOrder [mark ",", maybe (after element)])]

/-- What a parser builds between brackets. -/
def enclosed (opening : String) (inner : P Forest) (closing : String) : P Forest :=
  inOrder [exact opening, inner, mark closing]

/-- The end of a statement: a semicolon, or a place where one may be missing. -/
def semicolon : P Forest := firstOf
  [mark ";",
   do
     let ends ← isAhead (after (exact "\x7d" <|> do require (← atEnd); return []))
     require ((← lineEndAhead) || ends)
     return []]

end HookAudit.JavaScript
