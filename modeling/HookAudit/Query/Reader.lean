/-
# HookAudit.Query.Reader — queries in their notation.

A node is written by its kind between parentheses, with patterns for its children behind the kind;
an unnamed node is written by its text between quotation marks.  A pattern may have a role in front
of it and quantities and captures behind it.  Brackets enclose alternatives, parentheses around
patterns enclose siblings, a dot is an anchor, and an exclamation mark says that a role is not
taken.  Predicates start with a number sign; semicolons start comments.

Kinds and roles have to belong to the grammar, and predicates may only mention captures that were
declared before.
-/
import HookAudit.Query.Pattern
import HookAudit.Query.Vocabulary
import HookAudit.Regex.Reader
import HookAudit.Text.Utf8

namespace HookAudit.Query

/-! ## Faults -/

/-- What is wrong with a text that is no query. -/
inductive Fault where
  | malformed
  | unknownKind
  | unknownRole
  | unknownCapture
  /-- A predicate has operands that make no sense. -/
  | predicate
deriving DecidableEq, Repr

/-- A fault with what was left of the text where it was noticed. -/
structure Stuck where
  fault : Fault
  rest : Text

/-- An operand of a predicate as written. -/
inductive Argument where
  | capture (name : Text)
  | word (value : Text)

/-- Where a reader stands. -/
structure Cursor where
  /-- What is left to read. -/
  rest : Text
  /-- The captures that have been declared. -/
  declared : List Text := []
  /-- The predicates of the pattern that is being read, with their operands, last one first. -/
  predicates : List (Text × List Argument) := []

/-- A reader. -/
abbrev Reader := StateT Cursor (Except Stuck)

namespace Reader

/-- What is left to read. -/
def rest : Reader Text := return (← get).rest

/-- The next code point. -/
def peek : Reader (Option CodePoint) := return (← rest).head?

/-- Whether the next code point is a given character. -/
def sees (x : Char) : Reader Bool := return ((← peek).map (·.is x)).getD false

/-- Ends with a fault in front of some rest of the text. -/
def failAt {α : Type} (fault : Fault) (rest : Text) : Reader α :=
  throw ⟨fault, rest⟩

/-- Ends with a fault here. -/
def fail {α : Type} (fault : Fault) : Reader α := do failAt fault (← rest)

/-- Goes on behind some code points. -/
def skip (n : Nat) : Reader Unit := modify fun c => { c with rest := c.rest.drop n }

end Reader

/-! ## Words and blanks -/

/-- A text behind its blanks and comments. -/
def dropBlanks (inComment : Bool) : Text → Text
  | [] => []
  | c :: rest =>
    if inComment then dropBlanks (!c.is '\n') rest
    else if c.is ';' then dropBlanks true rest
    else if c.isBlank then dropBlanks false rest
    else c :: rest

/-- Goes on behind blanks and comments. -/
def skipBlanks : Reader Unit := modify fun c => { c with rest := dropBlanks false c.rest }

/-- Whether a word may start with a code point. -/
def startsWord (c : CodePoint) : Bool := c.isWord || c.is '-'

/-- Whether a word starts here. -/
def seesWord : Reader Bool := return ((← Reader.peek).map startsWord).getD false

/-- The word that a text starts with. -/
def wordOf (t : Text) : Text := t.takeWhile fun c => startsWord c || c.is '.'

/-- Reads a word. -/
def word : Reader Text := do
  let w := wordOf (← Reader.rest)
  Reader.skip w.length
  return w

/-- What a code point stands for behind a backslash. -/
def escaped (c : CodePoint) : CodePoint :=
  if c.is 'n' then .ofNat 10 else if c.is 'r' then .ofNat 13 else if c.is 't' then .ofNat 9
  else if c.is '0' then .ofNat 0 else c

/-- The content of a string up to its closing quotation mark, with what stands behind that. -/
def stringContent? : Text → Option (Text × Text)
  | [] => none
  | [c] => if c.is '"' then some ([], []) else none
  | c :: d :: rest =>
    if c.is '"' then some ([], d :: rest)
    else if c.is '\n' then none
    else if c.is '\\' then (stringContent? rest).map fun (t, rest) => (escaped d :: t, rest)
    else (stringContent? (d :: rest)).map fun (t, rest) => (c :: t, rest)

/-- Reads a string, which has to end on its line. -/
def string : Reader Text := do
  match stringContent? ((← Reader.rest).drop 1) with
  | some (content, behind) =>
    modify fun c => { c with rest := behind }
    return content
  | none => Reader.fail .malformed

/-! ## Predicates -/

/-- Reads the operands of a predicate up to its closing parenthesis. -/
def arguments : (fuel : Nat) → Reader (List Argument)
  | 0 => Reader.fail .malformed
  | fuel + 1 => do
    skipBlanks
    if ← Reader.sees ')' then
      Reader.skip 1
      skipBlanks
      return []
    else if ← Reader.sees '@' then
      Reader.skip 1
      if !(← seesWord) then Reader.fail .malformed
      let start ← Reader.rest
      let name ← word
      if !(← get).declared.contains name then Reader.failAt .unknownCapture start
      return .capture name :: (← arguments fuel)
    else if ← Reader.sees '"' then
      let value ← string
      return .word value :: (← arguments fuel)
    else if ← seesWord then
      let value ← word
      return .word value :: (← arguments fuel)
    else Reader.fail .malformed

/-- Reads a predicate behind its number sign. -/
def predicate (fuel : Nat) : Reader Unit := do
  if !(← seesWord) then Reader.fail .malformed
  let name ← word
  if !((← Reader.sees '?') || (← Reader.sees '!')) then Reader.fail .malformed
  let mark := (← Reader.rest).take 1
  Reader.skip 1
  let operands ← arguments fuel
  modify fun c => { c with predicates := (name ++ mark, operands) :: c.predicates }

/-- The words among the operands of a predicate. -/
def wordsOf : List Argument → List Text
  | [] => []
  | .word value :: rest => value :: wordsOf rest
  | .capture _ :: rest => wordsOf rest

/-- A predicate whose name says whether it is negated and whether one captured node is enough. -/
def readPredicate (name : Text) (operands : List Argument) : Except Unit (Option Predicate) :=
  let (any, name) : Bool × Text := if name.startsWith ("any-" : Text) && name != ("any-of?" : Text)
    then (true, name.drop 4) else (false, name)
  let (wanted, name) : Bool × Text := if name.startsWith ("not-" : Text) then (false, name.drop 4)
    else (true, name)
  if name == ("eq?" : Text) then
    match operands with
    | [.capture c, .capture other] => .ok (some (.equal c wanted any (.capture other)))
    | [.capture c, .word value] => .ok (some (.equal c wanted any (.text value)))
    | _ => .error ()
  else if name == ("match?" : Text) then
    match operands with
    | [.capture c, .word pattern] =>
      match Regex.read? pattern with
      | some regex => .ok (some (.search c wanted any regex))
      | none => .error ()
    | _ => .error ()
  else if name == ("any-of?" : Text) then
    match operands with
    | .capture c :: words => .ok (some (.member c wanted (wordsOf words)))
    | _ => .error ()
  else .ok none

/-- The predicates of a pattern in the order in which they were written. -/
def readPredicates : List (Text × List Argument) → Except Unit (List Predicate)
  | [] => .ok []
  | (name, operands) :: rest =>
    match readPredicates rest with
    | .error e => .error e
    | .ok before =>
      match readPredicate name operands with
      | .error e => .error e
      | .ok none => .ok before
      | .ok (some p) => .ok (before ++ [p])

/-! ## Patterns -/

/-- A pattern among its siblings. -/
structure Member where
  pattern : Pattern
  anchored : Bool := false
  field : Option String := none
  quantity : Quantity := .once

/-- Patterns for children, in order. -/
def Sequence.ofMembers (closed : Bool) (members : List Member) : Sequence :=
  members.foldr (fun m rest => .next m.anchored m.field m.quantity m.pattern rest) (.done closed)

/-- One quantity on top of another. -/
def Quantity.join : Quantity → Quantity → Quantity
  | .once, q => q
  | q, .once => q
  | .optional, .optional => .optional
  | .some, .some => .some
  | _, _ => .many

/-- A change of the first of some members. -/
def changeFirst (change : Member → Member) : List Member → List Member
  | [] => []
  | m :: rest => change m :: rest

/-- Reads the quantities and captures behind some siblings.  A quantity counts for each of them,
captures are of the first. -/
def suffixes : (fuel : Nat) → List Member → Reader (List Member)
  | 0, members => return members
  | fuel + 1, members => do
    skipBlanks
    let quantified (q : Quantity) : Reader (List Member) := do
      Reader.skip 1
      suffixes fuel (members.map fun m => { m with quantity := m.quantity.join q })
    if ← Reader.sees '+' then quantified .some
    else if ← Reader.sees '*' then quantified .many
    else if ← Reader.sees '?' then quantified .optional
    else if ← Reader.sees '@' then
      Reader.skip 1
      if !(← seesWord) then Reader.fail .malformed
      let name ← word
      modify fun c => { c with declared := c.declared ++ [name] }
      suffixes fuel (changeFirst (fun m => { m with pattern := m.pattern.as name }) members)
    else return members

/-- The pattern for a named node, with what it says about the children. -/
def nodePattern (vocabulary : Vocabulary) (name : Text) (absent : List String)
    (inside : Sequence) : Option Pattern :=
  if name == ("_" : Text) then some (.node .anyNamed absent inside [])
  else match vocabulary.test? name with
    | some [kind] => some (.node (.kind kind true) absent inside [])
    | some kinds =>
      some (.choice (kinds.foldr (fun kind rest =>
        .more (.node (.kind kind true) absent inside []) rest) .none) [])
    | none => none

/-- What stands between the parentheses of a node behind its kind. -/
structure Inside where
  absent : List String := []
  members : List Member := []
  /-- Whether an anchor stands behind the last member. -/
  closed : Bool := false

/-- Reads a role that is not taken, behind its exclamation mark. -/
def absentRole (vocabulary : Vocabulary) : Reader String := do
  skipBlanks
  if !(← seesWord) then Reader.fail .malformed
  let start ← Reader.rest
  let name ← word
  skipBlanks
  if !vocabulary.fields.contains name then Reader.failAt .unknownRole start
  return Text.toString name

/-- Reads an anchor if there is one. -/
def anchor : Reader Bool := do
  if ← Reader.sees '.' then
    Reader.skip 1
    skipBlanks
    return true
  else return false

mutual

/-- Reads a pattern with all that belongs to it.  Nothing is read in front of a closing parenthesis
or bracket.  A group comes to several siblings and a predicate to none. -/
def members? : (fuel : Nat) → Vocabulary → (anchored : Bool) → Reader (Option (List Member))
  | 0, _, _ => Reader.fail .malformed
  | fuel + 1, vocabulary, anchored => do
    if (← Reader.rest).isEmpty then Reader.fail .malformed
    if (← Reader.sees ')') || (← Reader.sees ']') then return none
    if ← Reader.sees '(' then
      Reader.skip 1
      skipBlanks
      if (← Reader.sees '(') || (← Reader.sees '"') || (← Reader.sees '[') then
        let group ← siblings fuel vocabulary anchored
        return some (← suffixes fuel group)
      else if (← Reader.sees '.') || (← Reader.sees '#') then
        Reader.skip 1
        predicate fuel
        return some []
      else
        let pattern ← namedNode fuel vocabulary
        return some (← suffixes fuel [{ pattern, anchored }])
    else if ← Reader.sees '[' then
      Reader.skip 1
      skipBlanks
      let options ← alternatives fuel vocabulary
      return some (← suffixes fuel [{ pattern := .choice options [], anchored }])
    else if ← Reader.sees '_' then
      Reader.skip 1
      return some (← suffixes fuel [{ pattern := .node .any [] (.done false) [], anchored }])
    else if ← Reader.sees '"' then
      let start := (← Reader.rest).drop 1
      let content ← string
      if !vocabulary.tokens.contains content then Reader.failAt .unknownKind start
      let test := NodeTest.kind (Text.toString content) false
      return some (← suffixes fuel [{ pattern := .node test [] (.done false) [], anchored }])
    else if ← seesWord then
      let start ← Reader.rest
      let name ← word
      skipBlanks
      if !(← Reader.sees ':') then Reader.failAt .malformed start
      Reader.skip 1
      skipBlanks
      match ← members? fuel vocabulary anchored with
      | none => Reader.fail .malformed
      | some members =>
        if !vocabulary.fields.contains name then Reader.failAt .unknownRole start
        let field := some (Text.toString name)
        return some (← suffixes fuel (changeFirst (fun m => { m with field }) members))
    else Reader.fail .malformed

/-- Reads siblings up to the closing parenthesis of their group. -/
def siblings : (fuel : Nat) → Vocabulary → (anchored : Bool) → Reader (List Member)
  | 0, _, _ => Reader.fail .malformed
  | fuel + 1, vocabulary, anchored => do
    let anchoredHere := (← anchor) || anchored
    match ← members? fuel vocabulary anchoredHere with
    | none =>
      if !(← Reader.sees ')') then Reader.fail .malformed
      Reader.skip 1
      return []
    | some members => return members ++ (← siblings fuel vocabulary false)

/-- Reads alternatives up to their closing bracket; there has to be one at least. -/
def alternatives : (fuel : Nat) → Vocabulary → Reader Options
  | 0, _ => Reader.fail .malformed
  | fuel + 1, vocabulary => do
    match ← members? fuel vocabulary false with
    | none => Reader.fail .malformed
    | some members =>
      let others ← if ← Reader.sees ']' then
          Reader.skip 1
          pure Options.none
        else alternatives fuel vocabulary
      return match members with
        | [] => others
        | m :: _ => .more m.pattern others

/-- Reads a named node from its kind on. -/
def namedNode : (fuel : Nat) → Vocabulary → Reader Pattern
  | 0, _ => Reader.fail .malformed
  | fuel + 1, vocabulary => do
    if !(← seesWord) then Reader.fail .malformed
    let start ← Reader.rest
    let name ← word
    if (nodePattern vocabulary name [] (.done false)).isNone then
      Reader.failAt .unknownKind start
    skipBlanks
    let inside ← children fuel vocabulary {}
    match nodePattern vocabulary name inside.absent (.ofMembers inside.closed inside.members) with
    | some pattern => return pattern
    | none => Reader.failAt .unknownKind start

/-- Reads patterns for children up to the closing parenthesis of their parent. -/
def children : (fuel : Nat) → Vocabulary → Inside → Reader Inside
  | 0, _, _ => Reader.fail .malformed
  | fuel + 1, vocabulary, inside => do
    if ← Reader.sees '!' then
      Reader.skip 1
      let role ← absentRole vocabulary
      children fuel vocabulary { inside with absent := inside.absent ++ [role] }
    else
      let anchored ← anchor
      match ← members? fuel vocabulary anchored with
      | none =>
        if !(← Reader.sees ')') then Reader.fail .malformed
        if anchored && inside.members.isEmpty then Reader.fail .malformed
        Reader.skip 1
        return { inside with closed := anchored }
      | some members =>
        children fuel vocabulary { inside with members := inside.members ++ members }

end

/-! ## Queries -/

/-- The pattern that some siblings come to: several of them are looked for below any node. -/
def patternOf : List Member → Option Pattern
  | [] => none
  | [m] => some m.pattern
  | several => some (.node .any [] (.ofMembers false several) [])

/-- Reads rules up to the end of the text. -/
def readRules : (fuel : Nat) → Vocabulary → Reader (List Rule)
  | 0, _ => Reader.fail .malformed
  | fuel + 1, vocabulary => do
    skipBlanks
    if (← Reader.rest).isEmpty then return []
    modify fun c => { c with predicates := [] }
    match ← members? fuel vocabulary false with
    | none => Reader.fail .malformed
    | some members =>
      match readPredicates (← get).predicates with
      | .error () => Reader.fail .predicate
      | .ok predicates =>
        let others ← readRules fuel vocabulary
        return (patternOf members).toList.map (fun pattern => { pattern, predicates }) ++ others

/-- Why a text is no query, and where that shows. -/
structure ReadError where
  fault : Fault
  /-- The byte at which the fault was noticed. -/
  offset : Nat
  /-- Whether the text ends there. -/
  atEnd : Bool
  /-- The row, counted from zero; empty rows do not count. -/
  row : Nat
  /-- The column, counted in bytes from zero. -/
  column : Nat
  /-- The word that stands there. -/
  culprit : Text

/-- The row and the column of a byte, given the rows that are not empty. -/
def place (offset start row : Nat) : List Text → Nat × Nat
  | [] => (row, offset - start)
  | line :: rest =>
    let stop := start + Text.encodedLength line + 1
    if stop > offset then (row, offset - start) else place offset stop (row + 1) rest

/-- The place of a fault in a text. -/
def Stuck.located (t : Text) (stuck : Stuck) : ReadError :=
  let offset := Text.encodedLength t - Text.encodedLength stuck.rest
  let (row, column) := place offset 0 0 ((t.splitOn '\n').filter (!·.isEmpty))
  { fault := stuck.fault, offset, atEnd := stuck.rest.isEmpty, row, column
    culprit := wordOf stuck.rest }

/-- The wording of an error. -/
def ReadError.message (e : ReadError) : Text :=
  let at_ : Text := " at row " ++ Text.ofNat e.row ++ ", column " ++ Text.ofNat e.column
  match e.fault with
  | .malformed => if e.atEnd then "Unexpected EOF" else "Invalid syntax" ++ at_
  | .unknownKind => "Invalid node type" ++ at_ ++ ": " ++ e.culprit
  | .unknownRole => "Invalid field name" ++ at_ ++ ": " ++ e.culprit
  | .unknownCapture => "Invalid capture name" ++ at_ ++ ": " ++ e.culprit
  | .predicate => "Invalid predicate" ++ at_

/-- The query that a text writes in the words of a grammar. -/
def read (vocabulary : Vocabulary) (t : Text) : Except ReadError Query :=
  match (readRules (3 * t.length + 3) vocabulary).run { rest := t } with
  | .ok (rules, _) => .ok { rules }
  | .error stuck => .error (stuck.located t)

end HookAudit.Query
