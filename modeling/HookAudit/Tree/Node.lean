/-
# HookAudit.Tree.Node — syntax trees.

A node has a kind, the range of bytes it covers, the place where it starts and its children in
source order.  Named nodes stand for constructs, the others for the punctuation and keywords
between them.  A node may have a role in its parent, its *field*.  Comments and line continuations
may stand anywhere and belong to no construct.
-/
import HookAudit.Text.Utf8

namespace HookAudit

/-- A range of bytes and the place where it starts. -/
structure Span where
  /-- The offset of the first byte. -/
  start : Nat
  /-- The offset after the last byte. -/
  stop : Nat
  /-- The row of the first byte, counted from zero. -/
  row : Nat
  /-- The column of the first byte, counted in bytes from zero. -/
  column : Nat
deriving DecidableEq, Repr, Inhabited

/-- A node of a syntax tree. -/
inductive Node where
  | mk (kind : String) (named : Bool) (field : Option String) (span : Span) (children : List Node)
deriving Inhabited

namespace Node

/-- What the node is. -/
def kind : Node → String
  | mk kind _ _ _ _ => kind

/-- Whether the node stands for a construct. -/
def named : Node → Bool
  | mk _ named _ _ _ => named

/-- The role of the node in its parent. -/
def field : Node → Option String
  | mk _ _ field _ _ => field

/-- The bytes the node covers. -/
def span : Node → Span
  | mk _ _ _ span _ => span

/-- The children in source order. -/
def children : Node → List Node
  | mk _ _ _ _ children => children

/-- The node in another role. -/
def withField (field : Option String) : Node → Node
  | mk kind named _ span children => mk kind named field span children

/-- A construct without parts. -/
def leaf (kind : String) (span : Span) : Node := mk kind true none span []

/-- Whether the node may stand anywhere. -/
def isExtra (n : Node) : Bool :=
  n.kind == "comment" || n.kind == "line_continuation" || n.kind == "html_comment"

mutual

/-- A node and everything below it, parents first. -/
def preorder : Node → List Node
  | mk kind named field span children =>
    mk kind named field span children :: preorderAll children

/-- Some nodes and everything below them. -/
def preorderAll : List Node → List Node
  | [] => []
  | n :: rest => preorder n ++ preorderAll rest

end

/-- The bytes of the source that a node covers. -/
def slice (source : Text.Octets) (span : Span) : Text.Octets :=
  (source.take span.stop).drop span.start

/-- The source text that a node covers. -/
def text (source : Text.Octets) (n : Node) : Text := Text.decodeLossy (slice source n.span)

end Node

end HookAudit
