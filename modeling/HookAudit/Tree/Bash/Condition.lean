/-
# HookAudit.Tree.Bash.Condition — tests and arithmetic.

Operators are taken from left to right: no query looks at how they nest, only at the words and
expansions between them.
-/
import HookAudit.Tree.Bash.Expansion

namespace HookAudit.Bash

open Parse

/-! ## Arithmetic -/

/-- Operators between two arithmetic operands, longer ones first. -/
def arithmeticOperators : List String :=
  ["<<=", ">>=", "**", "+=", "-=", "*=", "/=", "%=", "&=", "|=", "^=", "<<", ">>", "<=", ">=",
   "==", "!=", "=~", "&&", "||", "=", "<", ">", "+", "-", "*", "/", "%", "&", "|", "^", "?", ":"]

/-- A number in an arithmetic expression. -/
def arithmeticNumber : P Forest := do
  require ((← peek).any Char.isDigit)
  takeLeaf "number" (← numberHere)

/-- An operand of arithmetic. -/
def operand (goals : Goals) : P Forest := firstOf
  [construct "unary_expression" (do
     let mark ← firstOf (["++", "--", "!", "~", "-", "+"].map exact)
     inOrder [pure mark, gap, goals .arithmetic]),
   construct "parenthesized_expression"
     (inOrder [exact "(", gap, goals .arithmetic, gap, exact ")"]),
   do
     let plain ← firstOf [element goals, variableName, quoted goals, arithmeticNumber]
     match ← maybe (inOrder [gap, inField "operator" (firstOf (["++", "--"].map exact))]) with
     | [] => return plain
     | step => return wrap "postfix_expression" (plain ++ step)]

/-- Operands between operators. -/
def arithmetic (goals : Goals) : P Forest :=
  extended (operand goals) fun left => construct "binary_expression" <|
    inOrder [pure left, gap, inField "operator" (firstOf (arithmeticOperators.map exact)), gap,
      operand goals]

/-! ## Tests -/

/-- Operators between two words of a test, longer ones first. -/
def testOperators : List String := ["==", "!=", "<=", ">=", "=", "<", ">"]

/-- An option letter that asks about what follows it, or compares what stands around it. -/
def testLetters : P Forest := do
  require (← looksAt "-")
  let stop ← stopOf Char.isAlpha 1
  let length := stop - (← pos)
  require (length > 1)
  require ((← peekAt length).all isSpace)
  takeLeaf "test_operator" length

/-- A word of a test, which a closing bracket is not. -/
def testWord (goals : Goals) : P Forest := do
  require !(← looksAt "]")
  goals .literal

/-- How many brackets of each kind are open within a pattern. -/
structure OpenBrackets where
  /-- Parentheses. -/
  round : Nat := 0
  /-- Square brackets. -/
  square : Nat := 0
  /-- Curly brackets. -/
  curly : Nat := 0

/-- The brackets that are open behind a character, if it closes none that was never opened. -/
def OpenBrackets.after? (o : OpenBrackets) : Char → Option OpenBrackets
  | '(' => some { o with round := o.round + 1 }
  | '[' => some { o with square := o.square + 1 }
  | '\x7b' => some { o with curly := o.curly + 1 }
  | ')' => if o.round == 0 then none else some { o with round := o.round - 1 }
  | ']' => if o.square == 0 then none else some { o with square := o.square - 1 }
  | '\x7d' => if o.curly == 0 then none else some { o with curly := o.curly - 1 }
  | _ => some o

/-- The length of the pattern from an offset on: up to a space outside parentheses, or up to a
bracket that closes what stands around the pattern.  A backslash protects the next character. -/
def patternLength : (fuel : Nat) → OpenBrackets → Nat → P Nat
  | 0, _, offset => return offset
  | fuel + 1, brackets, offset => do
    match ← peekAt offset with
    | none => return offset
    | some '\\' => patternLength fuel brackets (offset + 2)
    | some c =>
      if isSpace c && brackets.round == 0 then return offset
      match brackets.after? c with
      | some more => patternLength fuel more (offset + 1)
      | none => return offset

/-- The pattern behind a match operator. -/
def testPattern : P Forest := do
  require !((← peek).any fun c => c == '"' || c == '\'' || c == '$')
  let length ← patternLength (← read).size {} 0
  takeLeaf "regex" length

/-- One question of a test. -/
def question (goals : Goals) : P Forest := firstOf
  [construct "unary_expression" (do
     let mark ← keyword "!"
     inOrder [pure mark, gap, goals .condition]),
   construct "parenthesized_expression"
     (inOrder [exact "(", gap, goals .condition, gap, exact ")"]),
   construct "unary_expression"
     (inOrder [testLetters, (do space; testWord goals)]),
   construct "binary_expression" (inOrder
     [testWord goals, (do space; exact "=~"), (do space; testPattern <|> testWord goals)]),
   construct "binary_expression" (inOrder
     [testWord goals,
      (do space; inField "operator" (firstOf (testLetters :: testOperators.map exact))),
      (do space; testWord goals)]),
   testWord goals]

/-- Questions between connectives. -/
def condition (goals : Goals) : P Forest :=
  extended (question goals) fun left => construct "binary_expression" <|
    inOrder [pure left, gap,
      inField "operator" (firstOf [exact "&&", exact "||", keyword "-a", keyword "-o"]), gap,
      question goals]

/-- A test in brackets. -/
def testCommand (goals : Goals) : P Forest :=
  construct "test_command" <| firstOf
    [inOrder [keyword2 "[[", gap, goals .condition, gap, exact "]]"],
     inOrder [keyword2 "[", gap, maybe (goals .condition), gap, exact "]"],
     inOrder [exact "((", gap,
       maybe (separated (inOrder [exact ",", gap]) (inOrder [goals .arithmetic, gap])),
       exact "))"]]
where
  /-- An opening bracket with space behind it. -/
  keyword2 (mark : String) : P Forest := do
    let opening ← exact mark
    require ((← peek).any isSpace)
    return opening

end HookAudit.Bash
