/-
# HookAudit.Tree.JavaScript.Statement — statements and declarations.
-/
import HookAudit.Tree.JavaScript.Expression

namespace HookAudit.JavaScript

open Parse

/-! ## Declarations -/

/-- A variable with its value. -/
def declarator (goals : Goals) : P Forest := construct "variable_declarator" (inOrder
  [inField "name" (goals .binding), maybe (typedOnly (sameLine (operator ["!"]))),
   maybe (after (typeMark goals)),
   maybe (inOrder [after (operator ["="]), inField "value" (after (goals .assignment))])])

/-- Variables, without what ends the declaration. -/
def declarators (goals : Goals) (words : List String) : P Forest := inOrder
  [inField "kind" (firstOf (words.map keyword)), after (declarator goals),
   manyOf (inOrder [mark ",", after (declarator goals)])]

/-- A declaration of variables. -/
def variableDeclaration (goals : Goals) : P Forest := firstOf
  [construct "lexical_declaration" (inOrder [declarators goals ["const", "let"], semicolon]),
   construct "variable_declaration" (inOrder [declarators goals ["var"], semicolon])]

/-- A function with a name; where types are read it may lack a body. -/
def functionDeclaration (goals : Goals) : P Forest := firstOf
  [do
     let head ← inOrder [async, keyword "function"]
     let star ← maybe (mark "*")
     let rest ← inOrder [inField "name" (after identifier), signature goals,
       inField "body" (after (block goals))]
     let kind := if star.isEmpty then "function_declaration" else "generator_function_declaration"
     return wrap kind (head ++ star ++ rest),
   typedOnly (construct "function_signature" (inOrder
     [async, keyword "function", inField "name" (after identifier), signature goals, semicolon]))]

/-! ## Imports and exports -/

/-- A name of something that is imported or exported. -/
def specifier (goals : Goals) (kind : String) : P Forest := construct kind (inOrder
  [maybe (typedOnly (do
     let lead ← keyword "type"
     require (← isAhead (after (wordLeaf "identifier")))
     require !(← isAhead (word "as"))
     return lead ++ (← gap))),
   inField "name" (wordLeaf "identifier" <|> string),
   maybe (inOrder [word "as", inField "alias" (after (wordLeaf "identifier" <|> string))]),
   maybe (do let _ := goals; failure)])

/-- Names in braces. -/
def specifiers (goals : Goals) (kind item : String) : P Forest :=
  construct kind (enclosed "\x7b" (elements (specifier goals item)) "\x7d")

/-- Everything under one name. -/
def namespaceImport : P Forest :=
  construct "namespace_import" (inOrder [exact "*", word "as", after identifier])

/-- What is imported. -/
def importClause (goals : Goals) : P Forest := construct "import_clause" (firstOf
  [namespaceImport, specifiers goals "named_imports" "import_specifier",
   inOrder [identifier, maybe (inOrder [mark ",", after (firstOf
     [namespaceImport, specifiers goals "named_imports" "import_specifier"])])]])

/-- Where something is imported from. -/
def fromClause : P Forest := inOrder [word "from", inField "source" (after string)]

/-- What is said about an import. -/
def importAttribute (goals : Goals) : P Forest := construct "import_attribute"
  (inOrder [word "with" <|> word "assert", after (object goals)])

/-- Imports. -/
def importStatement (goals : Goals) : P Forest := firstOf
  [typedOnly (construct "import_alias" (inOrder
     [keyword "import", after identifier, after (operator ["="]), dotted, semicolon])),
   construct "import_statement" (inOrder
     [keyword "import",
      firstOf
        [inOrder
           [maybe (typedOnly (firstOf [kindWord "type", kindWord "typeof"])),
            after (importClause goals), fromClause],
         typedOnly (inOrder [maybe (kindWord "type"), after requireClause]),
         inField "source" (after string)],
      maybe (importAttribute goals), semicolon])]
where
  /-- A word before an import that is not what is imported. -/
  kindWord (w : String) : P Forest := do
    let lead ← word w
    require !(← isAhead (word "from" <|> mark "," <|> after (operator ["="])))
    return lead
  requireClause : P Forest := construct "import_require_clause" (inOrder
    [identifier, after (operator ["="]), word "require", mark "(", inField "source" (after string),
     mark ")"])
  dotted : P Forest := do
    let first ← after identifier
    require !(← isAhead (mark "("))
    match ← manyOf (inOrder [mark ".", after (wordLeaf "property_identifier")]) with
    | [] => return first
    | more => return wrap "nested_identifier" (first ++ more)

/-! ## Typed declarations -/

/-- The members of an enumeration. -/
def enumDeclaration (goals : Goals) : P Forest := construct "enum_declaration" (inOrder
  [maybe (inOrder [keyword "const", gap]), keyword "enum", inField "name" (after identifier),
   inField "body" (after (construct "enum_body" (enclosed "\x7b" (elements (do
     let name ← inField "name" (memberName goals)
     match ← maybe (after (operator ["="])) with
     | [] => return name
     | sign =>
       return wrap "enum_assignment"
         (name ++ sign ++ (← inField "value" (after (goals .assignment)))))) "\x7d")))])

/-- The declarations that only typed sources have. -/
def typedDeclaration (goals : Goals) : (fuel : Nat) → P Forest
  | 0 => failure
  | fuel + 1 => typedOnly (firstOf
    [enumDeclaration goals,
     construct "interface_declaration" (inOrder
       [keyword "interface", inField "name" (after (nameLeaf "type_identifier")),
        maybe (after (typeParameters goals)),
        maybe (construct "extends_type_clause" (inOrder [word "extends", elements (goals .type)])),
        inField "body" (after (objectType goals "interface_body"))]),
     construct "type_alias_declaration" (inOrder
       [keyword "type", inField "name" (sameLine (nameLeaf "type_identifier")),
        maybe (after (typeParameters goals)), after (operator ["="]),
        inField "value" (after (goals .type)), semicolon]),
     construct "abstract_class_declaration" (inOrder
       [manyOf (inOrder [decorator goals, gap]), keyword "abstract", after (classRest goals)]),
     construct "internal_module" (inOrder
       [firstOf [keyword "namespace", keyword "module"],
        inField "name" (sameLine (string <|> inOrder
          [identifier, manyOf (inOrder [mark ".", after identifier])])),
        inField "body" (after (block goals))]),
     construct "ambient_declaration" (inOrder
       [keyword "declare", sameLine (firstOf
         [inOrder [keyword "global", after (block goals)],
          typedDeclaration goals fuel, classOf goals "class_declaration",
          functionDeclaration goals, variableDeclaration goals,
          inOrder [keyword "module", after string, semicolon]])])])

/-- A declaration. -/
def declaration (goals : Goals) : P Forest := do
  let depth := (← read).size + 1
  firstOf
    [typedDeclaration goals depth, functionDeclaration goals, classOf goals "class_declaration",
     variableDeclaration goals]

/-- Exports. -/
def exportStatement (goals : Goals) : P Forest := construct "export_statement" (inOrder
  [manyOf (inOrder [decorator goals, gap]), keyword "export",
   firstOf
     [inOrder [mark "*", fromClause, semicolon],
      inOrder [after (construct "namespace_export"
        (inOrder [exact "*", word "as", after (wordLeaf "identifier" <|> string)])),
        fromClause, semicolon],
      inOrder [maybe (typedOnly (word "type")),
        after (specifiers goals "export_clause" "export_specifier"), maybe fromClause, semicolon],
      inOrder [word "default", firstOf
        [inField "declaration" (after (declaration goals)),
         inOrder [inField "value" (after (goals .assignment)), semicolon]]],
      typedOnly (inOrder [after (operator ["="]), after (goals .assignment), semicolon]),
      typedOnly (inOrder [word "as", word "namespace", after identifier, semicolon]),
      typedOnly (after (importStatement goals)),
      inField "declaration" (after (declaration goals))]])

/-! ## Loops and choices -/

/-- A condition in parentheses. -/
def condition (goals : Goals) : P Forest := after (parenthesized goals)

/-- A choice by a condition. -/
def ifStatement (goals : Goals) : P Forest := construct "if_statement" (inOrder
  [keyword "if", inField "condition" (condition goals),
   inField "consequence" (after (goals .statement)),
   maybe (inField "alternative" (after (construct "else_clause"
     (inOrder [keyword "else", after (goals .statement)]))))])

/-- A loop over the keys or elements of a value. -/
def forInStatement (goals : Goals) : P Forest := construct "for_in_statement" (inOrder
  [keyword "for", maybe (word "await"), mark "(", gap,
   firstOf
     [inOrder [inField "kind" (firstOf (["const", "let", "var"].map keyword)),
        inField "left" (after (goals .binding)), maybe (after (typeMark goals)),
        maybe (inOrder [after (operator ["="]), after (goals .unary)])],
      inField "left" (goals .unary)],
   inField "operator" (word "in" <|> word "of"), inField "right" (after (goals .sequence)),
   mark ")", inField "body" (after (goals .statement))])

/-- A loop with a start, a condition and a step. -/
def forStatement (goals : Goals) : P Forest := construct "for_statement" (inOrder
  [keyword "for", mark "(", gap,
   inField "initializer" (firstOf
     [construct "lexical_declaration" (inOrder [declarators goals ["const", "let"], mark ";"]),
      construct "variable_declaration" (inOrder [declarators goals ["var"], mark ";"]),
      construct "expression_statement" (inOrder [goals .sequence, mark ";"]),
      construct "empty_statement" (exact ";")]),
   inField "condition" (firstOf
     [after (construct "expression_statement" (inOrder [goals .sequence, mark ";"])),
      after (construct "empty_statement" (exact ";"))]),
   maybe (inField "increment" (after (goals .sequence))), mark ")",
   inField "body" (after (goals .statement))])

/-- A loop with its condition first. -/
def whileStatement (goals : Goals) : P Forest := construct "while_statement" (inOrder
  [keyword "while", inField "condition" (condition goals),
   inField "body" (after (goals .statement))])

/-- A loop with its condition last. -/
def doStatement (goals : Goals) : P Forest := construct "do_statement" (inOrder
  [keyword "do", inField "body" (after (goals .statement)), word "while",
   inField "condition" (condition goals), maybe (mark ";")])

/-- Statements with what is run when they fail. -/
def tryStatement (goals : Goals) : P Forest := construct "try_statement" (inOrder
  [keyword "try", inField "body" (after (block goals)),
   maybe (inField "handler" (after (construct "catch_clause" (inOrder
     [keyword "catch",
      maybe (inOrder [mark "(", inField "parameter" (after (goals .binding)),
        maybe (after (typeMark goals)), mark ")"]),
      inField "body" (after (block goals))])))),
   maybe (inField "finalizer" (after (construct "finally_clause"
     (inOrder [keyword "finally", inField "body" (after (block goals))]))))])

/-- A choice by value. -/
def switchStatement (goals : Goals) : P Forest := construct "switch_statement" (inOrder
  [keyword "switch", inField "value" (condition goals),
   inField "body" (after (construct "switch_body" (enclosed "\x7b"
     (manyOf (after (firstOf
       [construct "switch_case" (inOrder
          [keyword "case", inField "value" (after (goals .sequence)), mark ":", statements]),
        construct "switch_default" (inOrder [keyword "default", mark ":", statements])])))
     "\x7d")))])
where
  statements : P Forest := manyOf (after (inField "body" (goals .statement)))

/-- A statement that leaves what surrounds it, possibly with a value. -/
def leavingStatement (w kind : String) (value : P Forest) : P Forest :=
  construct kind (inOrder [keyword w, maybe (sameLine value), semicolon])

/-- A statement with a label. -/
def labeledStatement (goals : Goals) : P Forest := construct "labeled_statement" (inOrder
  [inField "label" (nameLeaf "statement_identifier"), mark ":",
   inField "body" (after (goals .statement))])

/-! ## Statements -/

/-- A statement. -/
def statement (goals : Goals) : P Forest := firstOf
  [construct "empty_statement" (exact ";"), block goals, exportStatement goals,
   importStatement goals, declaration goals, ifStatement goals, forInStatement goals,
   forStatement goals, whileStatement goals, doStatement goals, tryStatement goals,
   switchStatement goals,
   leavingStatement "return" "return_statement" (goals .sequence),
   leavingStatement "throw" "throw_statement" (goals .sequence),
   leavingStatement "break" "break_statement"
     (inField "label" (nameLeaf "statement_identifier")),
   leavingStatement "continue" "continue_statement"
     (inField "label" (nameLeaf "statement_identifier")),
   leavingStatement "debugger" "debugger_statement" failure,
   construct "with_statement" (inOrder
     [keyword "with", inField "object" (condition goals),
      inField "body" (after (goals .statement))]),
   labeledStatement goals,
   construct "expression_statement" (inOrder [goals .sequence, semicolon])]

/-- One step of the grammar: each goal with the help of all goals. -/
def step (goals : Goals) : Goal → P Forest
  | .statement => statement goals
  | .sequence => sequence goals
  | .assignment => assignment goals
  | .unary => unary goals
  | .binding => binding goals
  | .type => typeExpression goals

/-- The line that names the program to run a script with. -/
def hashBang : P Forest := maybe (do
  require (← looksAt "#!")
  let start ← pos
  skipWhile (· != '\n')
  leafFrom "hash_bang_line" start)

/-- A line that no statement starts on, skipped. -/
def skippedLine : P Forest := do
  require !(← atEnd)
  skipWhile (· != '\n')
  goto ((← pos) + 1)
  return []

/-- The statements of a whole source. -/
def program : P Forest := do
  let goals := knot step (depth (← read))
  inOrder [hashBang, gap, manyOf (inOrder [goals .statement <|> skippedLine, gap])]

/-- The tree of a source; `typed` says whether type syntax is read. -/
def tree (typed : Bool) (source : Source) : Node :=
  source.root "program" (((program source ⟨0, { typed }⟩).map (·.1)).getD [])

end HookAudit.JavaScript
