/-
# HookAudit.Tree.Bash.Basic — the ground of the shell grammar.

The goals of the grammar, what separates its words, and the characters that end a word.  Inside a
substitution written with backquotes a further backquote closes it; the mode remembers that.
-/
import HookAudit.Tree.Parse

namespace HookAudit.Bash

open Parse

/-- What the shell grammar parses. -/
inductive Goal where
  /-- Statements up to something that starts none. -/
  | script
  /-- One statement. -/
  | statement
  /-- One word, with everything glued to it. -/
  | literal
  /-- An arithmetic expression. -/
  | arithmetic
  /-- The inside of a test. -/
  | condition
deriving DecidableEq

/-- Where a parser stands in nested substitutions. -/
structure Mode where
  /-- Whether a backquote closes the innermost substitution. -/
  backquoted : Bool := false

/-- A parser for pieces of shell scripts. -/
abbrev P := Parse Mode

/-- A parser for every goal. -/
abbrev Goals := Goal → P Forest

/-! ## Space -/

/-- Whether a character separates words. -/
def isSpace (c : Char) : Bool :=
  let n := c.toNat
  (9 ≤ n && n ≤ 13) || n == 32 || n == 0x85 || n == 0xA0 || n == 0x1680
    || (0x2000 ≤ n && n ≤ 0x200A) || n == 0x2028 || n == 0x2029 || n == 0x202F || n == 0x205F
    || n == 0x3000

/-- Skips a backslash at the end of a line, with the line end. -/
def joinedLine : P Forest := do
  if ← looksAt "\\\n" then goto ((← pos) + 2)
  else if ← looksAt "\\\r\n" then goto ((← pos) + 3)
  else failure
  return []

/-- Skips space within a line. -/
def space : P Unit := do
  let _ ← manyOf (joinedLine <|> skipSome fun c => isSpace c && c != '\n')

/-- A comment: everything up to the end of the line. -/
def comment : P Forest := do
  require (← looksAt "#")
  let start ← pos
  skipWhile (· != '\n')
  leafFrom "comment" start

/-- Skips space and line ends; builds the comments between them. -/
def gap : P Forest :=
  manyOf (firstOf [comment, joinedLine, skipSome isSpace])

/-! ## Words -/

/-- The mark that opens and closes a substitution of the older form. -/
def backquote : Char := Char.ofNat 96

/-- Whether a character is part of a word on its own. -/
def isWordChar (c : Char) : Bool := !isSpace c && !"'\"<>\x7b\x7d[]()`$|&;\\".toList.contains c

/-- Whether a character may stand in the name of a variable. -/
def isNameChar (c : Char) : Bool := c.isAlphanum || c == '_'

/-- The number of characters that a word takes up at an offset: a plain character, or a backslash
with what it protects. -/
def wordStep (inside : Bool) (offset : Nat) : P Nat := do
  match ← peekAt offset with
  | none => return 0
  | some '\\' =>
    match ← peekAt (offset + 1) with
    | none => return 0
    | some c => return if !isSpace c || (inside && c == ' ') then 2 else 0
  | some c => return if isWordChar c then 1 else 0

/-- The length of the rest of a word from an offset on. -/
def wordLength : (fuel : Nat) → Nat → P Nat
  | 0, offset => return offset
  | fuel + 1, offset => do
    match ← wordStep true offset with
    | 0 => return offset
    | k => wordLength fuel (offset + k)

/-- The length of the word that starts here, zero if there is none.  A number sign starts a word
only behind another piece of it. -/
def wordHere (glued : Bool) : P Nat := do
  if !glued && (← looksAt "#") then return 0
  match ← wordStep false 0 with
  | 0 => return 0
  | k => wordLength (← read).size k

/-- Goes a number of characters on and builds a leaf of them. -/
def takeLeaf (kind : String) (length : Nat) : P Forest := do
  require (length > 0)
  let start ← pos
  goto (start + length)
  leafFrom kind start

/-- A keyword: these characters as a whole word. -/
def keyword (word : String) : P Forest := do
  require ((← wordHere false) == word.length)
  exact word

/-- The length of the number that starts here: an optional sign and prefix, digits, and an optional
base with its digits. -/
def numberHere : P Nat := do
  let sign := if ← looksAt "-" then 1 else 0
  let lead := if (← peekAt sign) == some '0' && (← peekAt (sign + 1)) == some 'x' then 2 else 0
  let here ← pos
  let plain ← stopOf Char.isDigit sign
  let prefixed ← stopOf Char.isDigit (sign + lead)
  let stop := if lead > 0 && prefixed > here + sign + lead then prefixed else plain
  if stop == here + sign then return 0
  let length := stop - here
  if (← peekAt length) == some '#' then
    let last ← stopOf (fun c => c.isAlphanum || c == '@' || c == '_') (length + 1)
    return if last > stop + 1 then last - here else length
  return length

/-- A plain word or a number. -/
def plainWord (glued : Bool) : P Forest := do
  let word ← wordHere glued
  let number ← numberHere
  if number > 0 && number ≥ word then takeLeaf "number" number else takeLeaf "word" word

/-- Names of variables. -/
def variableName : P Forest := do
  let start ← pos
  match ← peek with
  | some c => require (c.isAlpha || c == '_')
  | none => failure
  skipWhile isNameChar
  leafFrom "variable_name" start

end HookAudit.Bash
