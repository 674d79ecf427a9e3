/-
# HookAudit.Detection — from matches to captures.

A match is reported once, at the first of its captured names that names a risk and has a node.  The
other names only serve the predicates of a query.
-/
import HookAudit.Capture
import HookAudit.Query.Match
import HookAudit.Snippet

namespace HookAudit

namespace Detection

/-- A node captured under a risk name, as a capture. -/
def ofSpan (name : Text) (span : Span) (source : Text.Octets) (limit : Int) : Capture where
  name := name
  start := span.start
  stop := span.stop
  line := span.row + 1
  column := span.column + 1
  snippet := Snippet.normalize (Text.decodeLossy (Node.slice source span)) limit

/-- The name and node that stand for a match. -/
def representative? : List (Text × List Span) → Option (Text × Span)
  | [] => none
  | (_, []) :: rest => representative? rest
  | (name, span :: _) :: rest =>
    if isRiskName name then some (name, span) else representative? rest

/-- The capture that a match amounts to. -/
def ofMatch? (found : List (Text × List Span)) (source : Text.Octets) (limit : Int) :
    Option Capture :=
  (representative? found).map fun (name, span) => ofSpan name span source limit

end Detection

/-- The places of the nodes that a match captured. -/
def Query.Match.spans (m : Query.Match) : List (Text × List Span) :=
  m.map fun (name, nodes) => (name, nodes.map (·.span))

/-- The captures of some queries in a tree, query by query. -/
def Detection.captures (queries : List Query) (root : Node) (source : Text.Octets) (limit : Int) :
    List Capture :=
  queries.flatMap fun query =>
    (query.matches root source).filterMap fun m => ofMatch? m.spans source limit

end HookAudit
