/-
# HookAudit.Query.Pattern — declarative patterns over syntax trees.

A pattern describes a node by its kind and by patterns for some of its children, in order.  Between
two of these any other children may stand, unless an *anchor* forbids named ones.  Parts of a match
are captured under names.  A rule is a pattern with predicates on the text of captures, and a query
is a list of rules.
-/
import HookAudit.Regex.Basic
import HookAudit.Taxonomy

namespace HookAudit.Query

/-- What a pattern asks of the node itself. -/
inductive NodeTest where
  /-- A node of this kind, named or not. -/
  | kind (name : String) (named : Bool)
  /-- Any named node. -/
  | anyNamed
  /-- Any node. -/
  | any
deriving DecidableEq, Repr

/-- How often a part may occur. -/
inductive Quantity where
  | once | optional | many | some
deriving DecidableEq, Repr

mutual

/-- A pattern for a node. -/
inductive Pattern where
  /-- A node that passes a test, lacks some fields and whose children match. -/
  | node (test : NodeTest) (absent : List String) (inside : Sequence) (captures : List Text)
  /-- Any of several patterns. -/
  | choice (options : Options) (captures : List Text)

/-- Patterns for children, in order. -/
inductive Sequence where
  /-- No more patterns; `closed` forbids further named children. -/
  | done (closed : Bool)
  /-- A child in a role, then the rest; `anchored` forbids named children before it. -/
  | next (anchored : Bool) (field : Option String) (quantity : Quantity) (pattern : Pattern)
      (rest : Sequence)

/-- Patterns to choose from. -/
inductive Options where
  | none
  | more (pattern : Pattern) (rest : Options)

end

instance : Inhabited Pattern := ⟨.choice .none []⟩

/-- A pattern whose node is captured under a further name. -/
def Pattern.as (p : Pattern) (name : Text) : Pattern :=
  match p with
  | .node test absent inside captures => .node test absent inside (captures ++ [name])
  | .choice options captures => .choice options (captures ++ [name])

/-! ## Names of captures -/

mutual

/-- The captures that a pattern declares, inner ones first. -/
def Pattern.captureNames : Pattern → List Text
  | .node _ _ inside captures => inside.captureNames ++ captures
  | .choice options captures => options.captureNames ++ captures

/-- The captures that patterns for children declare. -/
def Sequence.captureNames : Sequence → List Text
  | .done _ => []
  | .next _ _ _ pattern rest => pattern.captureNames ++ rest.captureNames

/-- The captures that alternatives declare. -/
def Options.captureNames : Options → List Text
  | .none => []
  | .more pattern rest => pattern.captureNames ++ rest.captureNames

end

/-! ## Rules -/

/-- What the text of a capture is compared with. -/
inductive Operand where
  | capture (name : Text)
  | text (value : Text)
deriving DecidableEq

/-- A condition on the text of captures.  `wanted` is false for the negated forms; `any` asks it of
one captured node instead of all. -/
inductive Predicate where
  /-- The text equals another text. -/
  | equal (capture : Text) (wanted any : Bool) (other : Operand)
  /-- A regular expression is found in the text. -/
  | search (capture : Text) (wanted any : Bool) (regex : Regex)
  /-- The text is one of several. -/
  | member (capture : Text) (wanted : Bool) (values : List Text)
deriving DecidableEq

/-- A pattern with predicates. -/
structure Rule where
  /-- What a node has to look like. -/
  pattern : Pattern
  /-- What the text of its captures has to satisfy. -/
  predicates : List Predicate := []
deriving Inhabited

end HookAudit.Query

namespace HookAudit

/-- A query: its rules, and the captures they declare in order of first mention. -/
structure Query where
  /-- The rules. -/
  rules : List Query.Rule
deriving Inhabited

namespace Query

/-- The members of a list without those that occurred before. -/
def dedup : List Text → List Text
  | [] => []
  | name :: rest => name :: (dedup rest).filter (· != name)

/-- The captures that a query declares, each once. -/
def captureNames (q : Query) : List Text := dedup (q.rules.flatMap (·.pattern.captureNames))

end Query

end HookAudit
