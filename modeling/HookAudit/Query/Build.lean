/-
# HookAudit.Query.Build — vocabulary for writing patterns.

The packs are written with these words: nodes by kind, children with a role or at the front,
captures, and predicates on the text of captures.
-/
import HookAudit.Query.Pattern

namespace HookAudit

/-- A query of a pack: the name it is known by, and its rules. -/
structure PackedQuery where
  /-- The name, unique in its pack. -/
  name : Text
  /-- The query. -/
  query : Query

namespace Query

/-- A part of a pattern: a pattern for a child, its role, and whether it comes first. -/
structure Part where
  pattern : Pattern
  field : Option String := none
  anchored : Bool := false

/-- A named node of a kind with some parts. -/
def node (kind : String) (parts : List Part) : Pattern :=
  .node (.kind kind true) []
    (parts.foldr (fun part rest => .next part.anchored part.field .once part.pattern rest)
      (.done false)) []

/-- One of several patterns. -/
def oneOf (patterns : List Pattern) : Pattern :=
  .choice (patterns.foldr .more .none) []

/-- One of several named kinds of node. -/
def kinds (names : List String) : Pattern := oneOf (names.map fun name => node name [])

/-- A child somewhere behind the parts before it. -/
def child (p : Pattern) : Part := { pattern := p }

/-- A child with a role. -/
def role (field : String) (p : Pattern) : Part := { pattern := p, field := some field }

/-- A child with no named child between it and the part before it. -/
def first (p : Pattern) : Part := { pattern := p, anchored := true }

/-- The text of a capture equals a given text. -/
def captureIs (capture value : Text) : Predicate := .equal capture true false (.text value)

/-- A regular expression is found in the text of a capture. -/
def captureHas (capture : Text) (regex : Regex) : Predicate := .search capture true false regex

/-- The text of a capture is one of several words. -/
def captureIn (capture : Text) (words : List String) : Predicate :=
  captureHas capture (.whole (.anyOf words))

/-- The words that give away a secret, anywhere in a name and in any letter case. -/
def secretWord : Regex :=
  Regex.ignoreCase (.seq (.many .dot)
    (.anyOf ["password", "secret", "key", "token", "credential", "auth"]))

/-- A query of a pack. -/
def packed (name : Text) (rules : List (Pattern × List Predicate)) : PackedQuery :=
  ⟨name, ⟨rules.map fun (pattern, predicates) => { pattern, predicates }⟩⟩

end Query

end HookAudit
