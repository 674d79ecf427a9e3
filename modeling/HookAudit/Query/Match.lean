/-
# HookAudit.Query.Match — every embedding of a pattern.

A pattern matches a node in as many ways as its parts can be assigned to children; each way is a
list of captured nodes.  A rule is tried at every node of the tree, parents first, and keeps the
embeddings whose captured texts satisfy all predicates.
-/
import HookAudit.Query.Pattern
import HookAudit.Regex.Match
import HookAudit.Tree.Node

namespace HookAudit.Query

/-- Captured nodes in the order in which they were captured. -/
abbrev Bindings := List (Text × Node)

/-- Whether a node passes a test. -/
def NodeTest.accepts : NodeTest → Node → Bool
  | .kind name named, n => n.kind == name && n.named == named
  | .anyNamed, n => n.named
  | .any, _ => true

/-- The children at which the next pattern may be tried, each with the children after it.  An anchor
ends the list behind the first named child. -/
def candidates (anchored : Bool) : List Node → List (Node × List Node)
  | [] => []
  | n :: rest => (n, rest) :: (if anchored && n.named then [] else candidates anchored rest)

/-- Whether a node has the role that a pattern asks for. -/
def hasRole (field : Option String) (n : Node) : Bool :=
  match field with
  | none => true
  | some name => n.field == some name

/-- A node under each of some names. -/
def bindAll (captures : List Text) (n : Node) : Bindings := captures.map (·, n)

mutual

/-- The ways in which a pattern matches a node.  The node of a choice is captured under the names of
the alternative first and then under those of the choice, which are handed down as `further`. -/
def Pattern.matches (further : List Text) : Pattern → Node → List Bindings
  | .node test absent inside captures, n =>
    if test.accepts n && absent.all fun name => n.children.all (·.field != some name) then
      (inside.matches n.children).map (bindAll (captures ++ further) n ++ ·)
    else []
  | .choice options captures, n => options.matches (captures ++ further) n

/-- The ways in which patterns match some of the children, in order. -/
def Sequence.matches : Sequence → List Node → List Bindings
  | .done closed, ns => if closed && ns.any (·.named) then [] else [[]]
  | .next anchored field quantity pattern rest, ns =>
    let found := (candidates anchored ns).flatMap fun (n, after) =>
      if hasRole field n then (pattern.matches [] n).map (·, after) else []
    let continued := found.flatMap fun (bound, after) => (rest.matches after).map (bound ++ ·)
    let skipped := rest.matches ns
    let repeated := match found.getLast? with
      | none => []
      | some (_, after) => (rest.matches after).map ((found.flatMap (·.1)) ++ ·)
    match quantity with
    | .once => continued
    | .optional => if found.isEmpty then skipped else continued
    | .some => repeated
    | .many => if found.isEmpty then skipped else repeated

/-- The ways in which one of several patterns matches a node. -/
def Options.matches (further : List Text) : Options → Node → List Bindings
  | .none, _ => []
  | .more pattern rest, n => pattern.matches further n ++ rest.matches further n

end

/-! ## Predicates -/

/-- The nodes captured under a name. -/
def captured (name : Text) (bound : Bindings) : List Node :=
  (bound.filter (·.1 == name)).map (·.2)

/-- Whether a condition holds of all members of a list or, where only one is asked for, of one.  No
member at all is no objection. -/
def holdsOf {α : Type} (any : Bool) (xs : List α) (condition : α → Bool) : Bool :=
  if any && !xs.isEmpty then xs.any condition else xs.all condition

/-- Whether captured texts satisfy a predicate. -/
def Predicate.holds (source : Text.Octets) (bound : Bindings) : Predicate → Bool
  | .equal capture wanted any (.text value) =>
    holdsOf any (captured capture bound) fun n => (n.text source == value) == wanted
  | .equal capture wanted any (.capture other) =>
    holdsOf any ((captured capture bound).zip (captured other bound)) fun (a, b) =>
      (a.text source == b.text source) == wanted
  | .search capture wanted any regex =>
    holdsOf any (captured capture bound) fun n => regex.found (n.text source) == wanted
  | .member capture wanted values =>
    (captured capture bound).all fun n => values.contains (n.text source) == wanted

/-- The embeddings of a rule at a node that satisfy its predicates. -/
def Rule.matchesAt (rule : Rule) (source : Text.Octets) (n : Node) : List Bindings :=
  (rule.pattern.matches [] n).filter fun bound => rule.predicates.all (·.holds source bound)

/-! ## Matches -/

/-- What was captured by one match: each name with its nodes, in the order of first capture. -/
abbrev Match := List (Text × List Node)

/-- Captured nodes gathered under their names. -/
def Match.ofBindings (bound : Bindings) : Match :=
  (dedup (bound.map (·.1))).map fun name => (name, captured name bound)

end HookAudit.Query

namespace HookAudit

/-- All matches of a query in a tree. -/
def Query.matches (q : Query) (root : Node) (source : Text.Octets) : List Query.Match :=
  root.preorder.flatMap fun n =>
    q.rules.flatMap fun rule => (rule.matchesAt source n).map Query.Match.ofBindings

end HookAudit
