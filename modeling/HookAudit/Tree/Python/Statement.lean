/-
# HookAudit.Tree.Python.Statement — statements, lines and blocks.

A block is either the rest of a line or the following lines that are indented further.
-/
import HookAudit.Tree.Python.Expression

namespace HookAudit.Python

open Parse

/-! ## Imports -/

/-- Names between dots. -/
def dottedName : P Forest :=
  construct "dotted_name" (inOrder [identifier, manyOf (inOrder [mark ".", after identifier])])

/-- A module or name, possibly under another name. -/
def imported : P Forest := do
  let name ← dottedName
  match ← maybe (word "as") with
  | [] => return asField "name" name
  | as_ =>
    return asField "name" (wrap "aliased_import"
      (asField "name" name ++ as_ ++ (← inField "alias" (after identifier))))

/-- Imports of modules. -/
def importStatement : P Forest := construct "import_statement" (inOrder
  [keyword "import", after imported, moreElements imported])

/-- A module named from where the importing one is. -/
def relativeImport : P Forest := construct "relative_import" (inOrder
  [construct "import_prefix" (someOf (after (exact "."))), maybe (after dottedName)])

/-- Imports out of a module. -/
def importFrom : P Forest := do
  let from_ ← keyword "from"
  let future ← isAhead (word "__future__")
  let module ← after (relativeImport <|> dottedName)
  let rest ← inOrder
    [word "import", gap, firstOf
      [(do
          let start ← pos
          let _ ← exact "*"
          leafFrom "wildcard_import" start),
       enclosed "(" (elements imported) ")",
       inOrder [imported, moreElements imported]]]
  if future then return wrap "future_import_statement" (from_ ++ module ++ rest)
  else return wrap "import_from_statement" (from_ ++ asField "module_name" module ++ rest)

/-! ## Assignments and expressions -/

/-- Expressions between commas. -/
def expressionList (goals : Goals) : P Forest :=
  elementList "expression_list" (starElement goals)

/-- The marks that assign the outcome of an operation. -/
def augmentedMarks : List String :=
  ["+=", "-=", "*=", "/=", "@=", "//=", "%=", "**=", ">>=", "<<=", "&=", "^=", "|="]

/-- A type. -/
def typeOf (goals : Goals) : P Forest := construct "type" (starElement goals)

/-- An expression that takes values, as a pattern. -/
def asPattern (nodes : Forest) : Forest := nodes.map fun
  | .mk kind named field span children =>
    let renamed := match kind with
      | "expression_list" => "pattern_list"
      | "tuple" => "tuple_pattern"
      | "list" => "list_pattern"
      | "list_splat" => "list_splat_pattern"
      | other => other
    .mk renamed named field span children

/-- What stands behind the first operand of an assignment, `fuel` assignments deep. -/
def assignmentTail (goals : Goals) : (fuel : Nat) → Forest → P Forest
  | 0, left => return left
  | fuel + 1, left => firstOf
    [(do
        let sign ← after (operator ["="])
        let right ← value fuel
        return wrap "assignment" (asField "left" (asPattern left) ++ sign ++ asField "right" right)),
     (do
        let sign ← after (inField "operator" (operator augmentedMarks))
        let right ← value fuel
        return wrap "augmented_assignment" (asField "left" left ++ sign ++ asField "right" right)),
     (do
        let colon ← after (operator [":"])
        let type ← inField "type" (after (typeOf goals))
        let given ← maybe (do
          let sign ← after (operator ["="])
          return sign ++ asField "right" (← value fuel))
        return wrap "assignment" (asField "left" left ++ colon ++ type ++ given)),
     pure left]
where
  /-- What is assigned: a yield, or expressions that may be assigned further. -/
  value (fuel : Nat) : P Forest := do
    let space ← gap
    match ← maybe (yieldExpression goals) with
    | [] => return space ++ (← assignmentTail goals fuel (← expressionList goals))
    | found => return space ++ found

/-- An expression or assignment as a statement. -/
def expressionStatement (goals : Goals) : P Forest := construct "expression_statement" do
  match ← maybe (yieldExpression goals) with
  | [] => assignmentTail goals ((← read).size + 1) (← expressionList goals)
  | found => return found

/-! ## Simple statements -/

/-- A statement that is a keyword alone. -/
def bareStatement (w kind : String) : P Forest := do
  let start ← pos
  let _ ← keyword w
  leafFrom kind start

/-- A statement that prints or runs what stands behind its name without brackets. -/
def namedStatement (goals : Goals) (name kind : String) : P Forest := construct kind (do
  let name ← keyword name
  let space ← gap
  require ((← isAhead identifier) || (← isAhead stringStart) || (← peek).any Char.isDigit)
  return name ++ space ++ (← elementList "expression_list" (goals .expression)))

/-- A statement within a line. -/
def simpleStatement (goals : Goals) : P Forest := firstOf
  [importStatement, importFrom, bareStatement "pass" "pass_statement",
   bareStatement "break" "break_statement", bareStatement "continue" "continue_statement",
   construct "return_statement" (inOrder
     [keyword "return", maybe (after (expressionList goals))]),
   construct "delete_statement" (inOrder [keyword "del", after (expressionList goals)]),
   construct "assert_statement" (inOrder
     [keyword "assert", after (goals .expression), moreElements (goals .expression)]),
   construct "raise_statement" (inOrder
     [keyword "raise", maybe (after (expressionList goals)),
      maybe (inOrder [word "from", inField "cause" (after (goals .expression))])]),
   construct "global_statement" (inOrder
     [keyword "global", after identifier, moreElements identifier]),
   construct "nonlocal_statement" (inOrder
     [keyword "nonlocal", after identifier, moreElements identifier]),
   construct "type_alias_statement" (inOrder
     [keyword "type", inField "left" (after (do
        require (← isAhead identifier)
        typeOf goals)),
      after (operator ["="]), inField "right" (after (typeOf goals))]),
   namedStatement goals "print" "print_statement", namedStatement goals "exec" "exec_statement",
   expressionStatement goals]

/-- The statements of one line. -/
def simpleLine (goals : Goals) : P Forest := inOrder
  [simpleStatement goals, manyOf (inOrder [mark ";", after (simpleStatement goals)]),
   maybe (mark ";"), lineEnd]

/-! ## Blocks -/

/-- A colon and what it announces. -/
def block (goals : Goals) : P Forest := inOrder
  [mark ":", gap, inField "body" (firstOf
    [construct "block" (simpleLine goals),
     inOrder [lineEnd, blankLines, do
       let indent ← indentHere
       require (indent > (← mode).indent)
       construct "block" (withMode ({ · with indent }) (goals .statements))]])]

/-- A clause of a statement, at the same indentation. -/
def clause (kind : String) (head : P Forest) (goals : Goals) : P Forest :=
  aligned (construct kind (inOrder [head, block goals]))

/-- What is run otherwise. -/
def elseClause (goals : Goals) : P Forest :=
  inField "alternative" (clause "else_clause" (keyword "else") goals)

/-- A choice by conditions. -/
def ifStatement (goals : Goals) : P Forest := construct "if_statement" (inOrder
  [keyword "if", inField "condition" (after (goals .expression)), block goals,
   manyOf (inField "alternative" (clause "elif_clause"
     (inOrder [keyword "elif", inField "condition" (after (goals .expression))]) goals)),
   maybe (elseClause goals)])

/-- A loop with a condition. -/
def whileStatement (goals : Goals) : P Forest := construct "while_statement" (inOrder
  [keyword "while", inField "condition" (after (goals .expression)), block goals,
   maybe (elseClause goals)])

/-- The word that marks what may wait. -/
def async : P Forest := maybe (inOrder [keyword "async", gap])

/-- A loop over values. -/
def forStatement (goals : Goals) : P Forest := construct "for_statement" (inOrder
  [async, keyword "for", inField "left" (after (elementList "pattern_list" (target goals))),
   word "in", inField "right" (after (expressionList goals)), block goals,
   maybe (elseClause goals)])

/-- A value, possibly under a name. -/
def named (goals : Goals) : P Forest := do
  let value ← goals .expression
  match ← maybe (word "as") with
  | [] => return value
  | as_ =>
    let name ← inField "alias" (construct "as_pattern_target" (after (target goals)))
    return wrap "as_pattern" (value ++ as_ ++ name)

/-- Values that are closed in the end. -/
def withStatement (goals : Goals) : P Forest := construct "with_statement" (inOrder
  [async, keyword "with", gap,
   firstOf
     [(do
         let items ← enclosed "(" (elements item) ")"
         require (← isAhead (mark ":"))
         return wrap "with_clause" items),
      construct "with_clause" (inOrder [item, moreElements item])],
   block goals])
where
  item : P Forest := construct "with_item" (inField "value" (named goals))

/-- Statements with what is run when they fail. -/
def tryStatement (goals : Goals) : P Forest := construct "try_statement" (inOrder
  [keyword "try", block goals,
   manyOf (clause "except_clause" (inOrder
     [keyword "except", maybe (after (operator ["*"])),
      maybe (inField "value" (after (named goals))), moreElements (goals .expression)]) goals),
   maybe (elseClause goals), maybe (clause "finally_clause" (keyword "finally") goals)])

/-! ## Definitions -/

/-- A parameter of a function. -/
def parameter (goals : Goals) : P Forest := do
  let name ← firstOf
    [construct "dictionary_splat_pattern" (inOrder [operator ["**"], after identifier]),
     construct "list_splat_pattern" (inOrder [operator ["*"], after identifier]),
     separator "*" "keyword_separator", separator "/" "positional_separator", identifier]
  let type ← maybe (inOrder
    [after (operator [":"]), inField "type" (after (typeOf goals))])
  let value ← maybe (inOrder
    [after (operator ["="]), inField "value" (after (goals .expression))])
  match type.isEmpty, value.isEmpty with
  | true, true => return name
  | false, true => return wrap "typed_parameter" (name ++ type)
  | true, false => return wrap "default_parameter" (asField "name" name ++ value)
  | false, false => return wrap "typed_default_parameter" (asField "name" name ++ type ++ value)
where
  separator (m kind : String) : P Forest := do
    let start ← pos
    let _ ← operator [m]
    leafFrom kind start

/-- Type parameters in brackets. -/
def typeParameters (goals : Goals) : P Forest := maybe (after (inField "type_parameters"
  (construct "type_parameter" (enclosed "[" (elements (typeOf goals)) "]"))))

/-- A function. -/
def functionDefinition (goals : Goals) : P Forest := construct "function_definition" (inOrder
  [async, keyword "def", inField "name" (after identifier), typeParameters goals, gap,
   inField "parameters" (construct "parameters" (enclosed "(" (elements (parameter goals)) ")")),
   maybe (inOrder [after (operator ["->"]), inField "return_type" (after (typeOf goals))]),
   block goals])

/-- A class. -/
def classDefinition (goals : Goals) : P Forest := construct "class_definition" (inOrder
  [keyword "class", inField "name" (after identifier), typeParameters goals,
   maybe (inField "superclasses" (after (arguments goals))), block goals])

/-- A definition that is handed through other functions. -/
def decoratedDefinition (goals : Goals) : P Forest := construct "decorated_definition" (inOrder
  [construct "decorator" (inOrder [operator ["@"], after (goals .expression), lineEnd]),
   manyOf (aligned (construct "decorator"
     (inOrder [operator ["@"], after (goals .expression), lineEnd]))),
   aligned (inField "definition" (functionDefinition goals <|> classDefinition goals))])

/-! ## Choices by pattern -/

/-- Text in brackets of any kind, `fuel` deep. -/
def balanced (goals : Goals) : (fuel : Nat) → P Forest
  | 0 => failure
  | fuel + 1 => firstOf
    [string (goals .expression),
     enclosed "(" (manyOf (after (balanced goals fuel))) ")",
     enclosed "[" (manyOf (after (balanced goals fuel))) "]",
     enclosed "\x7b" (manyOf (after (balanced goals fuel <|> exact ":"))) "\x7d",
     (do
        require ((← peek).any fun c => !isSpace c && !"()[]\x7b\x7d:\n".toList.contains c)
        let word ← stopOf isNameChar
        goto (max word ((← pos) + 1))
        return [])]

/-- A pattern with its condition and what is run then. -/
def caseClause (goals : Goals) : P Forest := aligned (construct "case_clause" (do
  let head ← keyword "case"
  let space ← gap
  let start ← pos
  let depth := (← read).size + 1
  let _ ← someOf (do
    require !(← isAhead (word "if"))
    after (balanced goals depth))
  let pattern ← leafFrom "case_pattern" start
  let guard ← maybe (inField "guard" (construct "if_clause"
    (after (inOrder [keyword "if", after (goals .expression)]))))
  return head ++ space ++ pattern ++ guard ++ (← block goals)))

/-- A choice by patterns. -/
def matchStatement (goals : Goals) : P Forest := construct "match_statement" (inOrder
  [keyword "match", inField "subject" (after (expressionList goals)), mark ":", lineEnd, blankLines,
   do
     let indent ← indentHere
     require (indent > (← mode).indent)
     inField "body" (construct "block"
       (withMode ({ · with indent }) (someOf (caseClause goals))))])

/-! ## Whole sources -/

/-- A statement with everything that belongs to it. -/
def statement (goals : Goals) : P Forest := firstOf
  [ifStatement goals, whileStatement goals, forStatement goals, withStatement goals,
   tryStatement goals, functionDefinition goals, classDefinition goals, decoratedDefinition goals,
   matchStatement goals, simpleLine goals]

/-- The statements of one block. -/
def statements (goals : Goals) : P Forest := someOf (aligned (statement goals))

/-- One step of the grammar: each goal with the help of all goals. -/
def step (goals : Goals) : Goal → P Forest
  | .statements => statements goals
  | .expression => expression goals
  | .disjunction => disjunction goals
  | .negation => negation goals
  | .factor => factor goals

/-- A line that no statement starts on, skipped. -/
def skippedLine : P Forest := do
  require !(← atEnd)
  skipWhile (· != '\n')
  goto ((← pos) + 1)
  return []

/-- The statements of a whole source, at whatever indentation they start. -/
def module : P Forest := do
  let goals := knot step (depth (← read))
  let run : P Forest := do
    let remarks ← blankLines
    let indent ← indentHere
    let found ← maybe (withMode ({ · with indent }) (goals .statements))
    if found.isEmpty then inOrder [pure remarks, skippedLine] else return remarks ++ found
  inOrder [manyOf run, blankLines]

/-- The tree of a Python source. -/
def tree (source : Source) : Node :=
  source.root "module" (((module source ⟨0, {}⟩).map (·.1)).getD [])

end HookAudit.Python
