/-
# HookAudit.Tree.JavaScript.Expression — expressions, functions and classes.
-/
import HookAudit.Tree.JavaScript.Element
import HookAudit.Tree.JavaScript.Signature

namespace HookAudit.JavaScript

open Parse

/-! ## Functions -/

/-- Statements in braces. -/
def block (goals : Goals) : P Forest := construct "statement_block"
  (enclosed "\x7b" (manyOf (after (goals .statement))) "\x7d")

/-- The word that marks what may wait. -/
def async : P Forest := maybe (do
  let lead ← keyword "async"
  require !(← lineEndAhead)
  return lead ++ (← gap))

/-- A function without a name of its own in short form. -/
def arrowFunction (goals : Goals) : P Forest := construct "arrow_function" (inOrder
  [async, firstOf [signature goals, inField "parameter" identifier],
   after (operator ["=>"]), inField "body" (after (block goals <|> goals .assignment))])

/-- A function that starts with the keyword, of one kind or another. -/
def functionExpression (goals : Goals) (plain generator : String) : P Forest := do
  let head ← inOrder [async, keyword "function"]
  let star ← maybe (mark "*")
  let rest ← inOrder [maybe (inField "name" (after identifier)), signature goals,
    inField "body" (after (block goals))]
  return wrap (if star.isEmpty then plain else generator) (head ++ star ++ rest)

/-! ## Members of objects and classes -/

/-- The words before a method. -/
def methodModifiers : P Forest := manyOf (firstOf
  [modifier "static" "static", do
     let lead ← keyword "async"
     require !(← lineEndAhead)
     let space ← gap
     require ((← peek).any fun c => startsName c || "[\x7b\"'#*".toList.contains c || c.isDigit)
     return lead ++ space,
   modifier "get" "get", modifier "set" "set", inOrder [exact "*", gap]])

/-- A method. -/
def method (goals : Goals) : P Forest := construct "method_definition" (inOrder
  [methodModifiers, inField "name" (memberName goals), maybe (mark "?"), signature goals,
   inField "body" (after (block goals))])

/-- A member of an object. -/
def objectMember (goals : Goals) : P Forest := firstOf
  [construct "spread_element" (inOrder [exact "...", after (goals .assignment)]),
   method goals,
   construct "pair" (inOrder
     [inField "key" (memberName goals), mark ":", inField "value" (after (goals .assignment))]),
   do
     let name ← nameLeaf "shorthand_property_identifier"
     match ← maybe (after (operator ["="])) with
     | [] => return name
     | sign =>
       return wrap "object_assignment_pattern"
         (asField "left" name ++ sign ++ (← inField "right" (after (goals .assignment))))]

/-- An object. -/
def object (goals : Goals) : P Forest :=
  construct "object" (enclosed "\x7b" (elements (objectMember goals)) "\x7d")

/-- The words before a member of a class. -/
def memberModifiers : P Forest := manyOf (firstOf
  ((accessWords.map fun w => modifier w "accessibility_modifier") ++
    [modifier "static" "static", modifier "override" "override_modifier",
     modifier "readonly" "readonly", modifier "abstract" "abstract", modifier "declare" "declare",
     modifier "accessor" "accessor"]))

/-- A field of a class. -/
def fieldDefinition (goals : Goals) : P Forest := do
  let typed := (← mode).typed
  construct (if typed then "public_field_definition" else "field_definition") (inOrder
    [inField (if typed then "name" else "property") (memberName goals),
     maybe (typedOnly (mark "?" <|> mark "!")), maybe (after (typeMark goals)),
     maybe (inOrder [after (operator ["="]), inField "value" (after (goals .assignment))]),
     semicolon])

/-- A member of a class. -/
def classMember (goals : Goals) : P Forest := firstOf
  [exact ";",
   inOrder [decorator goals, gap],
   construct "class_static_block" (inOrder [keyword "static", inField "body" (after (block goals))]),
   do
     let words ← memberModifiers
     let member ← firstOf
       [method goals,
        typedOnly (construct "index_signature" (inOrder
          [exact "[", after identifier, after (typeMark goals), mark "]",
           after (typeMark goals), semicolon])),
        typedOnly (construct "method_signature" (inOrder
          [methodModifiers, inField "name" (memberName goals), maybe (mark "?"),
           signature goals, semicolon])),
        fieldDefinition goals]
     match member with
     | .mk kind named field span children :: rest =>
       let all := words ++ (.mk kind named field span children :: rest)
       let inside := match words with
         | [] => member
         | _ => wrap kind (words ++ children)
       return if words.isEmpty || !rest.isEmpty then all else inside
     | [] => failure]

/-- What a class builds on. -/
def heritage (goals : Goals) : P Forest := construct "class_heritage" (inOrder
  [maybe (inOrder [word "extends", after (goals .unary),
     maybe (after (typeArguments goals))]),
   maybe (typedOnly (construct "implements_clause" (inOrder
     [word "implements", elements (goals .type)])))])

/-- The name and the body of a class. -/
def classRest (goals : Goals) : P Forest := inOrder
  [keyword "class",
   maybe (do
     require !(← isAhead (word "extends" <|> word "implements"))
     inField "name" (after (nameLeaf (if (← mode).typed then "type_identifier" else "identifier")))),
   maybe (after (typeParameters goals)), heritage goals,
   inField "body" (after (construct "class_body"
     (enclosed "\x7b" (manyOf (after (classMember goals))) "\x7d")))]

/-- A class with the decorators before it. -/
def classOf (goals : Goals) (kind : String) : P Forest := construct kind (inOrder
  [manyOf (inOrder [decorator goals, gap]), classRest goals])

/-! ## Operands -/

/-- Values between brackets. -/
def array (goals : Goals) : P Forest := construct "array" (enclosed "["
  (elements (firstOf
    [construct "spread_element" (inOrder [exact "...", after (goals .assignment)]),
     goals .assignment]))
  "]")

/-- An expression in parentheses. -/
def parenthesized (goals : Goals) : P Forest := construct "parenthesized_expression"
  (enclosed "(" (inOrder [after (goals .sequence), maybe (after (typeMark goals))]) ")")

/-- The simplest expressions. -/
def atom (goals : Goals) : P Forest := firstOf
  [parenthesized goals, array goals, object goals, string,
   template "template_string" (goals .sequence), regex, number, element goals,
   functionExpression goals "function_expression" "generator_function",
   classOf goals "class",
   keywordLeaf "this" "this", keywordLeaf "super" "super", keywordLeaf "null" "null",
   keywordLeaf "true" "true", keywordLeaf "false" "false",
   keywordLeaf "undefined" "undefined",
   construct "meta_property" (inOrder [keyword "import", mark ".", word "meta"]),
   construct "meta_property" (inOrder [keyword "new", mark ".", word "target"]),
   (do
      let called ← keywordLeaf "import" "import"
      require (← isAhead (mark "("))
      return called),
   identifier, privateName]

/-- The name of a member behind a dot. -/
def property : P Forest :=
  inField "property" (after (firstOf [wordLeaf "property_identifier", privateName]))

/-- A member behind an operand, by name or by value. -/
def memberSuffix (goals : Goals) (left : Forest) : P Forest := do
  let space ← gap
  let chain ← maybe (inOrder [construct "optional_chain" (leaf "?."), gap])
  firstOf
    [(do
        require chain.isEmpty
        let dot ← operator ["."]
        return wrap "member_expression" (asField "object" left ++ space ++ dot ++ (← property))),
     (do
        require !chain.isEmpty
        require !(← looksAt "[")
        return wrap "member_expression" (asField "object" left ++ space ++ chain ++ (← property))),
     (do
        let index ← enclosed "[" (inField "index" (after (goals .sequence))) "]"
        return wrap "subscript_expression" (asField "object" left ++ space ++ chain ++ index))]
where
  leaf (m : String) : P Forest := operator [m]

/-- An object made by a constructor. -/
def newExpression (goals : Goals) : (fuel : Nat) → P Forest
  | 0 => failure
  | fuel + 1 => construct "new_expression" (inOrder
    [keyword "new",
     inField "constructor" (after (extended (newExpression goals fuel <|> atom goals)
       (memberSuffix goals))),
     maybe (inField "type_arguments" (after (typeArguments goals))),
     maybe (inField "arguments" (after (arguments goals)))])

/-- A call behind an operand. -/
def callSuffix (goals : Goals) (left : Forest) : P Forest := do
  let space ← gap
  let chain ← maybe (inOrder [construct "optional_chain" (operator ["?."]), gap])
  let given ← inField "arguments"
    (arguments goals <|> template "template_string" (goals .sequence))
  return wrap "call_expression" (asField "function" left ++ space ++ chain ++ given)

/-- A call with type arguments.  It binds looser than signs and sums, so these belong to what is
called. -/
def generalCallSuffix (goals : Goals) (left : Forest) : P Forest := do
  let types ← after (inField "type_arguments" (typeArguments goals))
  let given ← after (inField "arguments"
    (arguments goals <|> template "template_string" (goals .sequence)))
  return wrap "call_expression" (asField "function" left ++ types ++ given)

/-- Members and calls behind an operand. -/
def suffixes (goals : Goals) (operand : P Forest) : P Forest :=
  extended operand fun left => firstOf
    [memberSuffix goals left, callSuffix goals left,
     typedOnly (do
       require !(← lineEndAhead)
       let space ← gap
       return wrap "non_null_expression" (left ++ space ++ (← operator ["!"])))]

/-- An operand with members and calls behind it. -/
def primary (goals : Goals) : P Forest := do
  let depth := (← read).size + 1
  suffixes goals (newExpression goals depth <|> atom goals)

/-- The words before an operand. -/
def operandWords : List String := ["typeof", "void", "delete"]

/-- An operand with signs. -/
def unary (goals : Goals) : P Forest := firstOf
  [construct "update_expression" (inOrder
     [inField "operator" (operator ["++", "--"]), inField "argument" (after (goals .unary))]),
   construct "unary_expression" (inOrder
     [inField "operator" (firstOf (operator ["!", "~", "-", "+"] :: operandWords.map keyword)),
      inField "argument" (after (goals .unary))]),
   construct "await_expression" (inOrder [keyword "await", after (goals .unary)]),
   typedOnly (construct "type_assertion" (inOrder [typeArguments goals, after (goals .unary)])),
   do
     let operand ← primary goals
     match ← maybe (sameLine (inField "operator" (operator ["++", "--"]))) with
     | [] => return operand
     | sign => return wrap "update_expression" (asField "argument" operand ++ sign)]

/-! ## Operators -/

/-- The operators by level, looser ones first. -/
def levels : List (List String) :=
  [["??"], ["||"], ["&&"], ["|"], ["^"], ["&"], ["==", "!=", "===", "!=="],
   ["<", "<=", ">", ">=", "instanceof", "in"], ["<<", ">>", ">>>"], ["+", "-"], ["*", "/", "%"]]

/-- One of some operators, marks or words. -/
def operatorOf (names : List String) : P Forest :=
  operator names <|>
    firstOf ((names.filter fun n => n.toList.all Char.isAlpha).map keyword)

/-- A type claimed for an operand. -/
def claimedType (goals : Goals) (left : Forest) : P Forest := typedOnly (firstOf
  [construct "as_expression"
     (inOrder [pure left, sameLine (keyword "as"), after (goals .type)]),
   construct "satisfies_expression"
     (inOrder [pure left, sameLine (keyword "satisfies"), after (goals .type)])])

/-- A power, which binds to the right. -/
def power (goals : Goals) : (fuel : Nat) → P Forest
  | 0 => failure
  | fuel + 1 => do
    let base ← goals .unary
    match ← maybe (after (inField "operator" (operator ["**"]))) with
    | [] => return base
    | sign =>
      return wrap "binary_expression"
        (asField "left" base ++ sign ++ (← inField "right" (after (power goals fuel))))

/-- Operands joined by the operators of some levels; `first` parses the leftmost. -/
def binary (goals : Goals) (depth : Nat) (first : P Forest) : List (List String) → P Forest
  | [] => first
  | names :: tighter =>
    extended (binary goals depth first tighter) fun left => firstOf
      [(do
          require (names.contains "instanceof")
          typedOnly (binary goals depth (suffixes goals (generalCallSuffix goals left)) tighter)),
       construct "binary_expression" (inOrder
         [pure (asField "left" left), after (inField "operator" (operatorOf names)),
          inField "right" (after (binary goals depth (power goals depth) tighter))]),
       do
         require (names.contains "instanceof")
         claimedType goals left]

/-- The marks that assign the outcome of an operation. -/
def augmentedMarks : List String :=
  ["+=", "-=", "*=", "/=", "%=", "^=", "&=", "|=", ">>=", ">>>=", "<<=", "**=", "&&=", "||=",
   "??="]

/-- An expression that takes a value, as a pattern. -/
def asPattern (nodes : Forest) : Forest := nodes.map fun
  | .mk kind named field span children =>
    let renamed := match kind with
      | "object" => "object_pattern"
      | "array" => "array_pattern"
      | other => other
    .mk renamed named field span children

/-- One expression. -/
def assignment (goals : Goals) : P Forest := firstOf
  [arrowFunction goals,
   construct "yield_expression" (inOrder
     [keyword "yield", maybe (mark "*"), maybe (sameLine (goals .assignment))]),
   do
     let depth := (← read).size + 1
     let first ← binary goals depth (power goals depth) levels
     let rest ← firstOf
       [(do
           let sign ← after (operator ["="])
           return wrap "assignment_expression" (asField "left" (asPattern first) ++ sign ++
             (← inField "right" (after (goals .assignment))))),
        (do
           let sign ← after (inField "operator" (operator augmentedMarks))
           return wrap "augmented_assignment_expression" (asField "left" first ++ sign ++
             (← inField "right" (after (goals .assignment))))),
        (do
           let question ← after (operator ["?"])
           let yes ← inField "consequence" (after (goals .assignment))
           let colon ← mark ":"
           let no ← inField "alternative" (after (goals .assignment))
           return wrap "ternary_expression"
             (asField "condition" first ++ question ++ yes ++ colon ++ no)),
        pure first]
     return rest]

/-- Expressions between commas. -/
def sequence (goals : Goals) : P Forest := do
  let first ← goals .assignment
  match ← manyOf (inOrder [mark ",", after (goals .assignment)]) with
  | [] => return first
  | more => return wrap "sequence_expression" (first ++ more)

/-! ## Patterns -/

/-- A name, or a pattern for the parts of a value. -/
def binding (goals : Goals) : P Forest := firstOf
  [construct "object_pattern" (enclosed "\x7b" (elements (firstOf
     [restBinding goals,
      construct "pair_pattern" (inOrder
        [inField "key" (memberName goals), mark ":",
         inField "value" (after (plainParameter goals))]),
      do
        let name ← nameLeaf "shorthand_property_identifier_pattern"
        match ← maybe (after (operator ["="])) with
        | [] => return name
        | sign =>
          return wrap "object_assignment_pattern" (asField "left" name ++ sign ++
            (← inField "right" (after (goals .assignment))))])) "\x7d"),
   construct "array_pattern" (enclosed "[" (elements (plainParameter goals)) "]"),
   identifier]

end HookAudit.JavaScript
