/-
# HookAudit.Tree.Parse — parsers that build trees.

A parser reads a source from a position and gives the nodes it built, or fails and leaves the
position as it was, so alternatives may be tried in order.  Constructs are made by wrapping nodes:
comments at either end of what is wrapped stay outside, because they belong to no construct.

A grammar is written as one step that parses each of its goals with the help of a parser for all
goals, and `knot` closes it: the fuel bounds how deep goals nest, and repetition is bounded by the
length of the source, so every grammar is a total function.
-/
import HookAudit.Tree.Source

namespace HookAudit

/-- Nodes in source order. -/
abbrev Forest := List Node

/-- Where a parser stands, with what a grammar keeps besides. -/
structure ParseState (σ : Type) where
  /-- The position in the source. -/
  pos : Nat
  /-- What the grammar keeps. -/
  mode : σ

/-- A parser. -/
abbrev Parse (σ : Type) := ReaderT Source (StateT (ParseState σ) Option)

namespace Parse

variable {σ α : Type}

/-! ## Positions -/

/-- The current position. -/
def pos : Parse σ Nat := return (← get).pos

/-- Goes to a position. -/
def goto (p : Nat) : Parse σ Unit := modify fun s => { s with pos := p }

/-- What the grammar keeps. -/
def mode : Parse σ σ := return (← get).mode

/-- Changes what the grammar keeps. -/
def setMode (m : σ) : Parse σ Unit := modify fun s => { s with mode := m }

/-- Runs a parser with something else kept, and keeps what was kept before. -/
def withMode (change : σ → σ) (p : Parse σ α) : Parse σ α := do
  let old ← mode
  setMode (change old)
  let a ← p
  setMode old
  return a

/-- The character some positions ahead. -/
def peekAt (k : Nat) : Parse σ (Option Char) := return (← read).get? ((← pos) + k)

/-- The next character. -/
def peek : Parse σ (Option Char) := peekAt 0

/-- Whether the next characters are these. -/
def looksAt (word : String) : Parse σ Bool := return (← read).startsAt (← pos) word.toList

/-- Whether the source ends here. -/
def atEnd : Parse σ Bool := return (← peek).isNone

/-- The position behind the characters from here on that pass a test. -/
def stopOf (test : Char → Bool) (offset : Nat := 0) : Parse σ Nat := do
  let s ← read
  return s.skipWhile test s.size ((← pos) + offset)

/-- Goes behind the characters that pass a test. -/
def skipWhile (test : Char → Bool) : Parse σ Unit := do goto (← stopOf test)

/-- Goes behind the characters that pass a test, of which there is at least one. -/
def skipSome (test : Char → Bool) : Parse σ Forest := do
  let stop ← stopOf test
  if stop ≤ (← pos) then failure
  goto stop
  return []

/-- Fails unless a condition holds. -/
def require (condition : Bool) : Parse σ Unit := if condition then pure () else failure

/-- Whether a parser would succeed here. -/
def isAhead (p : Parse σ α) : Parse σ Bool := fun source state =>
  match p source state with
  | some _ => some (true, state)
  | none => some (false, state)

/-! ## Nodes -/

/-- A construct made of the characters between two positions. -/
def leafAt (kind : String) (start stop : Nat) : Parse σ Forest := do
  return [Node.leaf kind ((← read).span start stop)]

/-- A construct made of the characters from a position up to here. -/
def leafFrom (kind : String) (start : Nat) : Parse σ Forest := do
  leafAt kind start (← pos)

/-- Punctuation or a keyword: exactly these characters. -/
def exact (word : String) : Parse σ Forest := do
  require (← looksAt word)
  let start ← pos
  goto (start + word.length)
  return [.mk word false none ((← read).span start (start + word.length)) []]

/-- The span from the first to the last of some nodes. -/
def spanOf : Forest → Option Span
  | [] => none
  | n :: rest =>
    let last := (rest.getLast?).getD n
    some { n.span with stop := last.span.stop }

/-- Some nodes wrapped as a construct; comments at either end stay outside. -/
def wrap (kind : String) (nodes : Forest) : Forest :=
  let before := nodes.takeWhile (·.isExtra)
  let rest := nodes.dropWhile (·.isExtra)
  let after := (rest.reverse.takeWhile (·.isExtra)).reverse
  let inside := (rest.reverse.dropWhile (·.isExtra)).reverse
  match spanOf inside with
  | none => nodes
  | some span => before ++ [.mk kind true none span inside] ++ after

/-- A construct: what a parser builds, wrapped. -/
def construct (kind : String) (p : Parse σ Forest) : Parse σ Forest := return wrap kind (← p)

/-- Gives every node a role, comments aside. -/
def asField (name : String) (nodes : Forest) : Forest :=
  nodes.map fun n => if n.isExtra then n else n.withField (some name)

/-- What a parser builds, in a role. -/
def inField (name : String) (p : Parse σ Forest) : Parse σ Forest := return asField name (← p)

/-! ## Combination -/

/-- What some parsers build one after the other. -/
def inOrder : List (Parse σ Forest) → Parse σ Forest
  | [] => pure []
  | p :: rest => do
    let nodes ← p
    return nodes ++ (← inOrder rest)

/-- The first of some parsers that succeeds. -/
def firstOf : List (Parse σ α) → Parse σ α
  | [] => failure
  | p :: rest => p <|> firstOf rest

/-- What a parser builds, or nothing. -/
def maybe (p : Parse σ Forest) : Parse σ Forest := p <|> pure []

/-- What a parser builds as often as it succeeds and moves on, at most `fuel` times. -/
def repeatedly (p : Parse σ Forest) : (fuel : Nat) → Parse σ Forest
  | 0 => pure []
  | fuel + 1 => (do
      let start ← pos
      let nodes ← p
      require (start < (← pos))
      return nodes ++ (← repeatedly p fuel)) <|> pure []

/-- What a parser builds as often as it succeeds. -/
def manyOf (p : Parse σ Forest) : Parse σ Forest := do repeatedly p ((← read).size + 1)

/-- What a parser builds as often as it succeeds, at least once. -/
def someOf (p : Parse σ Forest) : Parse σ Forest := inOrder [p, manyOf p]

/-- What a parser builds between separators. -/
def separated (separator p : Parse σ Forest) : Parse σ Forest :=
  inOrder [p, manyOf (inOrder [separator, p])]

/-- Extends what has been built as often as a continuation succeeds and moves on. -/
def extendBy (more : Forest → Parse σ Forest) : (fuel : Nat) → Forest → Parse σ Forest
  | 0, built => pure built
  | fuel + 1, built => (do
      let start ← pos
      let longer ← more built
      require (start < (← pos))
      extendBy more fuel longer) <|> pure built

/-- What a parser builds, extended as often as a continuation succeeds. -/
def extended (p : Parse σ Forest) (more : Forest → Parse σ Forest) : Parse σ Forest := do
  extendBy more ((← read).size + 1) (← p)

/-! ## Closing a grammar -/

/-- Closes a grammar whose goals are parsed with the help of each other. -/
def knot {γ : Type} (step : (γ → Parse σ Forest) → γ → Parse σ Forest) :
    (fuel : Nat) → γ → Parse σ Forest
  | 0, _ => failure
  | fuel + 1, goal => step (knot step fuel) goal

/-- How deep goals may nest in a source. -/
def depth (source : Source) : Nat := 24 * (source.size + 8)

/-- Parses a goal of a grammar from the start of a source. -/
def parseGoal {γ : Type} (step : (γ → Parse σ Forest) → γ → Parse σ Forest) (goal : γ)
    (mode : σ) (source : Source) : Option Forest :=
  (knot step (depth source) goal source ⟨0, mode⟩).map (·.1)

end Parse

/-- The tree of a whole source: a root over what was built.  It starts at the first node and ends
where the source ends. -/
def Source.root (source : Source) (kind : String) (nodes : Forest) : Node :=
  let whole := source.span 0 source.size
  match nodes with
  | [] => .mk kind true none { whole with start := whole.stop } []
  | n :: _ =>
    .mk kind true none { n.span with stop := whole.stop } nodes

end HookAudit
