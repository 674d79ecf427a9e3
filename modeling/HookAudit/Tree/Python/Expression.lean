/-
# HookAudit.Tree.Python.Expression — expressions.

Operators bind in levels.  Whatever may continue in several ways is read once and continued, so
deep nesting costs no more than its length.
-/
import HookAudit.Tree.Python.Literal

namespace HookAudit.Python

open Parse

/-! ## Parts of displays and calls -/

/-- An expression, possibly unpacked. -/
def starElement (goals : Goals) : P Forest := firstOf
  [construct "list_splat" (inOrder [operator ["*"], after (goals .expression)]),
   goals .expression]

/-- Elements between commas: one stands for itself, several are a construct of their own. -/
def elementList (kind : String) (element : P Forest) : P Forest := do
  let first ← element
  match ← moreElements element with
  | [] => return first
  | more => return wrap kind (first ++ more)

/-- A value handed out to a consumer. -/
def yieldExpression (goals : Goals) : P Forest := construct "yield" (inOrder
  [keyword "yield",
   maybe (firstOf
     [inOrder [word "from", after (goals .expression)],
      after (elementList "expression_list" (starElement goals))])])

/-- Names and places that take values. -/
def target (goals : Goals) : P Forest := firstOf
  [construct "list_splat_pattern" (inOrder [operator ["*"], after (goals .factor)]),
   goals .factor]

/-- The source of values of a comprehension, with its conditions. -/
def comprehensionClauses (goals : Goals) : P Forest := inOrder [forClause, manyOf (firstOf
  [forClause,
   construct "if_clause" (after (inOrder [keyword "if", after (condition)]))])]
where
  condition : P Forest := goals .disjunction
  forClause : P Forest := construct "for_in_clause" (after (inOrder
    [maybe (inOrder [keyword "async", gap]), keyword "for",
     inField "left" (after (elementList "pattern_list" (target goals))), word "in",
     inField "right" (after (elementList "expression_list" (goals .disjunction)))]))

/-- A named argument. -/
def keywordArgument (goals : Goals) : P Forest := construct "keyword_argument" (inOrder
  [inField "name" identifier, after (operator ["="]), inField "value" (after (goals .expression))])

/-- An argument. -/
def argument (goals : Goals) : P Forest := firstOf
  [construct "dictionary_splat" (inOrder [operator ["**"], after (goals .expression)]),
   keywordArgument goals, starElement goals]

/-- The arguments of a call. -/
def arguments (goals : Goals) : P Forest := do
  let opening ← exact "("
  withMode ({ · with bracketed := true }) do
    match ← maybe (after (argument goals)) with
    | [] => return wrap "argument_list" (opening ++ (← mark ")"))
    | first =>
      match ← maybe (comprehensionClauses goals) with
      | [] =>
        return wrap "argument_list"
          (opening ++ first ++ (← inOrder [moreElements (argument goals), mark ")"]))
      | clauses =>
        return wrap "generator_expression"
          (opening ++ asField "body" first ++ clauses ++ (← mark ")"))

/-! ## Displays -/

/-- Elements in brackets or a comprehension. -/
def display (goals : Goals) (element : P Forest) (opening closing : String)
    (kind comprehension : String) : P Forest := do
  let mark₀ ← exact opening
  withMode ({ · with bracketed := true }) do
    match ← maybe (after element) with
    | [] => return wrap kind (mark₀ ++ (← mark closing))
    | first =>
      match ← maybe (comprehensionClauses goals) with
      | [] => return wrap kind (mark₀ ++ first ++ (← inOrder [moreElements element, mark closing]))
      | clauses =>
        return wrap comprehension (mark₀ ++ asField "body" first ++ clauses ++ (← mark closing))

/-- Something in parentheses: an expression, a tuple, or values made one by one. -/
def parenthesized (goals : Goals) : P Forest := do
  let opening ← exact "("
  withMode ({ · with bracketed := true }) do
    match ← maybe (after (yieldExpression goals <|> starElement goals)) with
    | [] => return wrap "tuple" (opening ++ (← mark ")"))
    | first =>
      match ← maybe (comprehensionClauses goals) with
      | [] =>
        match ← moreElements (starElement goals) with
        | [] => return wrap "parenthesized_expression" (opening ++ first ++ (← mark ")"))
        | more => return wrap "tuple" (opening ++ first ++ more ++ (← mark ")"))
      | clauses =>
        return wrap "generator_expression"
          (opening ++ asField "body" first ++ clauses ++ (← mark ")"))

/-- A key with its value, or a splat. -/
def pair (goals : Goals) : P Forest := firstOf
  [construct "dictionary_splat" (inOrder [operator ["**"], after (goals .expression)]),
   do
     let key ← starElement goals
     match ← maybe (mark ":") with
     | [] => return key
     | colon =>
       return wrap "pair"
         (asField "key" key ++ colon ++ (← inField "value" (after (goals .expression))))]

/-- Something in braces, a set unless it is empty or holds keys. -/
def asSet : Node → Node
  | .mk kind named field span children =>
    let isDictionary := children.any (fun n => n.kind == "pair" || n.kind == "dictionary_splat")
      || children.all fun n => !n.named || n.isExtra
    let renamed := if isDictionary then kind
      else if kind == "dictionary" then "set" else "set_comprehension"
    .mk renamed named field span children

/-- Something in braces: a dictionary or a set, in full or as a comprehension. -/
def braced (goals : Goals) : P Forest := do
  let found ← display goals (pair goals) "\x7b" "\x7d" "dictionary" "dictionary_comprehension"
  return found.map asSet

/-! ## Operands -/

/-- The simplest expressions. -/
def atom (goals : Goals) : P Forest := firstOf
  [strings (after (yieldExpression goals <|> elementList "expression_list" (starElement goals))),
   number, parenthesized goals,
   display goals (starElement goals) "[" "]" "list" "list_comprehension",
   braced goals, word₀ "True" "true", word₀ "False" "false", word₀ "None" "none",
   (do
      let start ← pos
      let _ ← exact "..."
      leafFrom "ellipsis" start),
   identifier]
where
  /-- A keyword that stands for a value. -/
  word₀ (w kind : String) : P Forest := do
    let start ← pos
    let _ ← keyword w
    leafFrom kind start

/-- A piece of a sequence. -/
def sliceOrIndex (goals : Goals) : P Forest := do
  let start ← maybe (starElement goals)
  match ← maybe (mark ":") with
  | [] => require !start.isEmpty; return start
  | colon =>
    let rest ← inOrder [maybe (after (goals .expression)),
      maybe (inOrder [mark ":", maybe (after (goals .expression))])]
    return wrap "slice" (start ++ colon ++ rest)

/-- An operand with calls, attributes and subscripts behind it. -/
def primary (goals : Goals) : P Forest :=
  extended (atom goals) fun left => do
    let space ← gap
    firstOf
      [(do
          let given ← inField "arguments" (arguments goals)
          return wrap "call" (asField "function" left ++ space ++ given)),
       (do
          require !(← looksAt "...")
          let dot ← exact "."
          let name ← inField "attribute" (after identifier)
          return wrap "attribute" (asField "object" left ++ space ++ dot ++ name)),
       (do
          let index ← enclosed "["
            (inOrder [inField "subscript" (after (sliceOrIndex goals)),
              moreElements (inField "subscript" (sliceOrIndex goals))]) "]"
          return wrap "subscript" (asField "value" left ++ space ++ index))]

/-- An operand of arithmetic: signs bind tighter than products and looser than powers. -/
def factor (goals : Goals) : P Forest := firstOf
  [construct "unary_operator" (inOrder
     [inField "operator" (operator ["-", "+", "~"]), inField "argument" (after (goals .factor))]),
   do
     let base ← firstOf
       [construct "await" (inOrder [keyword "await", after (primary goals)]), primary goals]
     match ← maybe (after (inField "operator" (operator ["**"]))) with
     | [] => return base
     | power =>
       return wrap "binary_operator"
         (asField "left" base ++ power ++ (← inField "right" (after (goals .factor))))]

/-- The operators of arithmetic by level, looser ones first. -/
def levels : List (List String) :=
  [["|"], ["^"], ["&"], ["<<", ">>"], ["+", "-"], ["*", "/", "//", "%", "@"]]

/-- Operands joined by the operators of some levels. -/
def arithmetic (goals : Goals) : List (List String) → P Forest
  | [] => goals .factor
  | marks :: tighter =>
    extended (arithmetic goals tighter) fun left => construct "binary_operator" (inOrder
      [pure (asField "left" left), after (inField "operator" (operator marks)),
       inField "right" (after (arithmetic goals tighter))])

/-- An operator between compared operands. -/
def comparison : P Forest := firstOf
  [operator ["<", "<=", "==", "!=", ">=", ">", "<>"], keyword "in",
   inOrder [keyword "not", word "in"], inOrder [keyword "is", maybe (word "not")]]

/-- A comparison, or the negation of one. -/
def negation (goals : Goals) : P Forest := firstOf
  [construct "not_operator" (inOrder
     [keyword "not", inField "argument" (after (goals .negation))]),
   do
     let first ← arithmetic goals levels
     match ← manyOf (inOrder
       [after (inField "operators" comparison), after (arithmetic goals levels)]) with
     | [] => return first
     | more => return wrap "comparison_operator" (first ++ more)]

/-- Operands joined by one of the connectives. -/
def connected (connective : String) (operand : P Forest) : P Forest :=
  extended operand fun left => construct "boolean_operator" (inOrder
    [pure (asField "left" left), after (inField "operator" (keyword connective)),
     inField "right" (after operand)])

/-- Operands joined by connectives. -/
def disjunction (goals : Goals) : P Forest := connected "or" (connected "and" (goals .negation))

/-! ## Whole expressions -/

/-- A parameter of a function without a body of its own. -/
def lambdaParameter (goals : Goals) : P Forest := firstOf
  [construct "dictionary_splat_pattern" (inOrder [operator ["**"], after identifier]),
   construct "list_splat_pattern" (inOrder [operator ["*"], after identifier]),
   operator ["*"], operator ["/"],
   do
     let name ← identifier
     match ← maybe (after (operator ["="])) with
     | [] => return name
     | sign =>
       return wrap "default_parameter"
         (asField "name" name ++ sign ++ (← inField "value" (after (goals .expression))))]

/-- A function without a name. -/
def lambda (goals : Goals) : P Forest := construct "lambda" (inOrder
  [keyword "lambda",
   inField "parameters" (construct "lambda_parameters" (elements (lambdaParameter goals))),
   mark ":", inField "body" (after (goals .expression))])

/-- A value that is named where it is used. -/
def namedExpression (goals : Goals) : P Forest := construct "named_expression" (inOrder
  [inField "name" identifier, after (operator [":="]), inField "value" (after (goals .expression))])

/-- An expression. -/
def expression (goals : Goals) : P Forest := firstOf
  [lambda goals, namedExpression goals,
   do
     let first ← goals .disjunction
     match ← maybe (inOrder [word "if", after (goals .disjunction), word "else",
       after (goals .expression)]) with
     | [] => return first
     | more => return wrap "conditional_expression" (first ++ more)]

end HookAudit.Python
