/-
# HookAudit.Tree.JavaScript.Signature — names of members, parameters and types.

Types hold no calls and no strings that are run, apart from the operand of a type query, which
looks like a call.
-/
import HookAudit.Tree.JavaScript.Literal

namespace HookAudit.JavaScript

open Parse

/-! ## Names of members -/

/-- The name of a member that only the class itself sees. -/
def privateName : P Forest := do
  require (← looksAt "#")
  let start ← pos
  goto (start + 1)
  require ((← peek).any startsName)
  skipWhile isNameChar
  leafFrom "private_property_identifier" start

/-- The name of a member. -/
def memberName (goals : Goals) : P Forest := firstOf
  [wordLeaf "property_identifier", privateName, string, number,
   construct "computed_property_name" (enclosed "[" (after (goals .assignment)) "]")]

/-! ## Types in brackets and annotations -/

/-- A type behind a colon. -/
def typeMark (goals : Goals) : P Forest := typedOnly (inField "type"
  (construct "type_annotation" (inOrder [exact ":", after (goals .type)])))

/-- Types that something general is used with. -/
def typeArguments (goals : Goals) : P Forest := typedOnly (construct "type_arguments"
  (enclosed "<" (elements (goals .type)) ">"))

/-- A type that something general ranges over. -/
def typeParameter (goals : Goals) : P Forest := construct "type_parameter" (inOrder
  [maybe (inOrder [keyword "const", gap]),
   maybe (do
     let variance ← firstOf (["in", "out"].map keyword)
     let space ← gap
     require ((← peek).any startsName)
     return variance ++ space),
   inField "name" (nameLeaf "type_identifier"),
   maybe (construct "constraint" (inOrder [word "extends", after (goals .type)])),
   maybe (construct "default_type" (inOrder [after (operator ["="]), after (goals .type)]))])

/-- The types that something general ranges over. -/
def typeParameters (goals : Goals) : P Forest := typedOnly (inField "type_parameters"
  (construct "type_parameters" (enclosed "<" (elements (typeParameter goals)) ">")))

/-! ## Parameters -/

/-- The words before a parameter or member that say who may use it. -/
def accessWords : List String := ["public", "private", "protected"]

/-- A decorator. -/
def decorator (goals : Goals) : P Forest :=
  construct "decorator" (inOrder [exact "@", goals .unary])

/-- A word before a name that says something about it. -/
def modifier (w kind : String) : P Forest := do
  let leaf ← keywordLeaf w kind
  let space ← gap
  require ((← peek).any fun c => startsName c || "[\x7b\"'#*.@".toList.contains c || c.isDigit)
  return leaf ++ space

/-- The words before a parameter that make it a member. -/
def parameterModifiers : P Forest := manyOf (firstOf
  ((accessWords.map fun w => modifier w "accessibility_modifier") ++
    [modifier "override" "override_modifier", modifier "readonly" "readonly"]))

/-- Further values gathered in one. -/
def restBinding (goals : Goals) : P Forest :=
  construct "rest_pattern" (inOrder [exact "...", after (goals .binding <|> goals .unary)])

/-- A parameter without types. -/
def plainParameter (goals : Goals) : P Forest := restBinding goals <|> do
  let name ← goals .binding
  match ← maybe (after (operator ["="])) with
  | [] => return name
  | sign =>
    return wrap "assignment_pattern"
      (asField "left" name ++ sign ++ (← inField "right" (after (goals .assignment))))

/-- A parameter where types may stand. -/
def typedParameter (goals : Goals) : P Forest := do
  let before ← inOrder [manyOf (inOrder [decorator goals, gap]), parameterModifiers]
  let name ← inField "pattern"
    (firstOf [restBinding goals, goals .binding, keywordLeaf "this" "this"])
  let question ← maybe (mark "?")
  let type ← maybe (after (typeMark goals))
  let value ← maybe (inOrder
    [after (operator ["="]), inField "value" (after (goals .assignment))])
  let kind := if question.isEmpty then "required_parameter" else "optional_parameter"
  return wrap kind (before ++ name ++ question ++ type ++ value)

/-- The parameters of a function. -/
def parameters (goals : Goals) : P Forest := do
  let parameter := if (← mode).typed then typedParameter goals
    else inOrder [manyOf (inOrder [decorator goals, gap]), plainParameter goals]
  inField "parameters" (construct "formal_parameters" (enclosed "(" (elements parameter) ")"))

/-- What a function gives back. -/
def returnType (goals : Goals) : P Forest := typedOnly (inField "return_type"
  (construct "type_annotation" (inOrder [exact ":", after (goals .type)])))

/-- Parameters with the types around them. -/
def signature (goals : Goals) : P Forest := inOrder
  [maybe (after (typeParameters goals)), after (parameters goals),
   maybe (after (returnType goals))]

/-! ## Types -/

/-- The types that are part of the language. -/
def predefined : List String :=
  ["any", "number", "boolean", "string", "symbol", "unknown", "never", "object", "void", "bigint"]

/-- The name of a type, possibly inside modules, possibly general. -/
def typeName (goals : Goals) : P Forest := do
  let first ← nameLeaf "type_identifier"
  let name ← match ← manyOf (inOrder [mark ".", after (wordLeaf "type_identifier")]) with
    | [] => pure first
    | more => pure (wrap "nested_type_identifier" (first ++ more))
  match ← maybe (sameLine (typeArguments goals)) with
  | [] => return name
  | given => return wrap "generic_type" (asField "name" name ++ asField "type_arguments" given)

/-- The arguments of a call. -/
def arguments (goals : Goals) : P Forest := construct "arguments" (enclosed "("
  (elements (firstOf
    [construct "spread_element" (inOrder [exact "...", after (goals .assignment)]),
     goals .assignment]))
  ")")

/-- The type of a value. -/
def typeQuery (goals : Goals) : P Forest := construct "type_query" (inOrder
  [keyword "typeof", gap,
   extended (firstOf [keywordLeaf "import" "import", keywordLeaf "this" "this", identifier])
     fun left => do
       let space ← gap
       firstOf
         [(do
             let given ← inField "arguments" (arguments goals)
             return wrap "call_expression" (asField "function" left ++ space ++ given)),
          (do
             let dot ← exact "."
             let name ← inField "property" (after (wordLeaf "property_identifier"))
             return wrap "member_expression" (asField "object" left ++ space ++ dot ++ name)),
          (do
             let index ← enclosed "[" (inField "index" (after (string <|> number))) "]"
             return wrap "subscript_expression" (asField "object" left ++ space ++ index)),
          (do
             let given ← typeArguments goals
             return wrap "instantiation_expression" (left ++ space ++ given))]])

/-- A member of an object type. -/
def typeMember (goals : Goals) : P Forest := firstOf
  [construct "construct_signature" (inOrder [keyword "new", signature goals]),
   construct "call_signature" (signature goals),
   construct "index_signature" (inOrder
     [maybe (inOrder [maybe (firstOf [exact "-", exact "+"]), modifier "readonly" "readonly"]),
      exact "[", after (nameLeaf "identifier"),
      firstOf [inOrder [mark ":", after (goals .type)],
        inOrder [word "in", after (goals .type),
          maybe (inOrder [word "as", after (goals .type)])]],
      mark "]", maybe (after (firstOf [exact "-?", exact "+?", exact "?"])),
      maybe (after (typeMark goals))]),
   do
     let before ← manyOf (firstOf
       ((accessWords.map fun w => modifier w "accessibility_modifier") ++
         [modifier "readonly" "readonly", modifier "get" "get", modifier "set" "set"]))
     let name ← inField "name" (memberName goals)
     let question ← maybe (mark "?")
     match ← maybe (signature goals) with
     | [] =>
       return wrap "property_signature"
         (before ++ name ++ question ++ (← maybe (after (typeMark goals))))
     | given => return wrap "method_signature" (before ++ name ++ question ++ given)]

/-- The members of an object type. -/
def objectType (goals : Goals) (kind : String) : P Forest := construct kind (enclosed "\x7b"
  (manyOf (inOrder [after (typeMember goals), maybe (mark ";" <|> mark ",")])) "\x7d")

/-- The type of a function. -/
def functionType (goals : Goals) : P Forest := construct "function_type" (inOrder
  [maybe (typeParameters goals), after (parameters goals), after (operator ["=>"]),
   inField "return_type" (after (goals .type))])

/-- A member of a tuple type. -/
def tupleMember (goals : Goals) : P Forest := firstOf
  [construct "rest_type" (inOrder
     [exact "...", maybe (do
        let name ← after identifier
        return name ++ (← mark ":")),
      after (goals .type)]),
   construct "required_parameter" (do
     let name ← identifier
     return name ++ (← inOrder [maybe (mark "?"), after (typeMark goals)])),
   do
     let type ← goals .type
     match ← maybe (mark "?") with
     | [] => return type
     | question => return wrap "optional_type" (type ++ question)]

/-- The simplest types. -/
def simpleType (goals : Goals) : P Forest := firstOf
  [functionType goals,
   construct "constructor_type" (inOrder
     [maybe (inOrder [keyword "abstract", gap]), keyword "new", gap, functionType goals]),
   construct "parenthesized_type" (enclosed "(" (after (goals .type)) ")"),
   construct "tuple_type" (enclosed "[" (elements (tupleMember goals)) "]"),
   objectType goals "object_type", typeQuery goals,
   construct "literal_type" (firstOf
     [string, number, inOrder [exact "-", after number], keywordLeaf "true" "true",
      keywordLeaf "false" "false", keywordLeaf "null" "null",
      keywordLeaf "undefined" "undefined"]),
   template "template_literal_type" (goals .type), keywordLeaf "this" "this_type",
   keywordLeaf "void" "predefined_type", keywordLeaf "const" "const",
   (do
      let asserts ← maybe (do
        let lead ← keyword "asserts"
        sameLine (do require ((← peek).any startsName); return lead))
      let name ← if asserts.isEmpty then identifier
        else firstOf [identifier, keywordLeaf "this" "this"]
      match asserts, ← maybe (sameLine (inOrder [keyword "is", after (goals .type)])) with
      | [], [] => failure
      | _, claim =>
        let inner := wrap "type_predicate" (asField "name" name ++ claim)
        return if asserts.isEmpty then inner else wrap "asserts" (asserts ++ inner)),
   firstOf (predefined.map fun w => keywordLeaf w "predefined_type"),
   construct "import_type" (inOrder [keyword "import", after (arguments goals),
     manyOf (inOrder [mark ".", after (wordLeaf "type_identifier")])]),
   typeName goals]

/-- A type with brackets behind it. -/
def suffixedType (goals : Goals) : P Forest :=
  extended (simpleType goals) fun left => do
    require !(← lineEndAhead)
    let space ← gap
    firstOf
      [(do return wrap "array_type" (left ++ space ++ (← inOrder [exact "[", mark "]"]))),
       (do return wrap "lookup_type"
             (left ++ space ++ (← enclosed "[" (after (goals .type)) "]")))]

/-- A type with words before it, at most `fuel`. -/
def prefixedType (goals : Goals) : (fuel : Nat) → P Forest
  | 0 => failure
  | fuel + 1 => firstOf
    [construct "index_type_query" (inOrder [leading "keyof", after (prefixedType goals fuel)]),
     construct "readonly_type"
       (inOrder [leading "readonly" <|> leading "unique", after (prefixedType goals fuel)]),
     construct "infer_type" (inOrder
       [leading "infer", after (nameLeaf "type_identifier"),
        maybe (inOrder [word "extends", after (prefixedType goals fuel)])]),
     suffixedType goals]
where
  /-- A word that a type follows. -/
  leading (w : String) : P Forest := do
    let found ← keyword w
    require (← isAhead (after (do
      require ((← peek).any fun c => startsName c || "(\x7b[\"'".toList.contains c)
      return [])))
    return found

/-- Types joined by a mark. -/
def joinedTypes (kind joint : String) (operand : P Forest) : P Forest := do
  let lead ← maybe (inOrder [operator [joint], gap])
  let first ← operand
  let more ← manyOf (inOrder [after (operator [joint]), after operand])
  if lead.isEmpty && more.isEmpty then return first else return wrap kind (lead ++ first ++ more)

/-- A type. -/
def typeExpression (goals : Goals) : P Forest := do
  let depth := (← read).size + 1
  let union := joinedTypes "union_type" "|"
    (joinedTypes "intersection_type" "&" (prefixedType goals depth))
  let first ← union
  match ← maybe (inOrder
    [sameLine (keyword "extends"), after union, mark "?", after (goals .type), mark ":",
     after (goals .type)]) with
  | [] => return first
  | more => return wrap "conditional_type" (first ++ more)

end HookAudit.JavaScript
