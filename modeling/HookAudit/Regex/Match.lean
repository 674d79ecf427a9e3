/-
# HookAudit.Regex.Match — the backtracking matcher.

The matcher tries alternatives in order and repetitions as their preference says, and hands each
way to match an expression to a continuation that decides about the rest.  It recurses on the
expression; a repetition goes round at most once for each code point that is left, because a round
that consumes nothing ends it.  A search tries the positions of the text from left to right, so it
finds the leftmost match, and counting goes on behind each match.
-/
import HookAudit.Regex.Basic

namespace HookAudit.Regex

/-- A position in a text: the code point before it, if any, and the text after it. -/
structure Cursor where
  /-- The code point before the position. -/
  behind : Option CodePoint
  /-- The text after the position. -/
  ahead : Text
deriving DecidableEq

/-- The position before a text. -/
def Cursor.atStart (t : Text) : Cursor := ⟨none, t⟩

/-- The pieces that numbered groups matched last. -/
abbrev Groups := List (Nat × Text)

/-- The text between two positions, the second further on. -/
def Cursor.between (a b : Cursor) : Text := a.ahead.take (a.ahead.length - b.ahead.length)

/-- Whether a position has a word character on exactly one side. -/
def Cursor.atBoundary (c : Cursor) : Bool :=
  (c.behind.any CodePoint.isWord) != (c.ahead.head?.any CodePoint.isWord)

/-- Whether an assertion holds at a position. -/
def holdsAt : Regex → Cursor → Bool
  | textStart, c => c.behind.isNone
  | lineStart, c => c.behind.all (·.is '\n')
  | textEnd, c => c.ahead.isEmpty || (c.ahead.length == 1 && c.ahead.all (·.is '\n'))
  | absoluteEnd, c => c.ahead.isEmpty
  | lineEnd, c => c.ahead.head?.all (·.is '\n')
  | boundary inside, c => !(c.behind.isNone && c.ahead.isEmpty) && c.atBoundary == inside
  | _, _ => true

/-- What decides about the text after a match. -/
abbrev Continuation (α : Type) := Groups → Cursor → Option α

/-- The first of two attempts that succeeds; the second is made only if the first fails. -/
def firstOf {α : Type} (first second : Unit → Option α) : Option α :=
  match first () with
  | Option.some a => Option.some a
  | none => second ()

/-- Rounds of a repetition: one more, or none, in the order of preference. -/
def rounds {α : Type} (greedy : Bool) (body : Groups → Cursor → Continuation α → Option α) :
    (fuel : Nat) → Groups → Cursor → Continuation α → Option α
  | 0, groups, c, k => k groups c
  | fuel + 1, groups, c, k =>
    let again := fun _ : Unit => body groups c fun groups' c' =>
      if c'.ahead.length < c.ahead.length then rounds greedy body fuel groups' c' k else none
    let stay := fun _ : Unit => k groups c
    if greedy then firstOf again stay else firstOf stay again

/-- Matches an expression at a position and continues behind it. -/
def run {α : Type} : Regex → Groups → Cursor → Continuation α → Option α
  | empty, groups, c, k => k groups c
  | one set, groups, c, k =>
    match c.ahead with
    | [] => none
    | x :: rest => if set.has x then k groups ⟨Option.some x, rest⟩ else none
  | seq a b, groups, c, k => run a groups c fun groups' c' => run b groups' c' k
  | alt a b, groups, c, k => firstOf (fun _ => run a groups c k) fun _ => run b groups c k
  | star greedy r, groups, c, k =>
    rounds greedy (fun groups' c' k' => run r groups' c' k') c.ahead.length groups c k
  | group n r, groups, c, k =>
    run r groups c fun groups' c' => k ((n, c.between c') :: groups') c'
  | assertion, groups, c, k => if holdsAt assertion c then k groups c else none

/-- The match of an expression at a position: its groups and where it ends. -/
def matchAt (r : Regex) (c : Cursor) : Option (Groups × Cursor) :=
  r.run [] c fun groups c' => Option.some (groups, c')

/-- The match of an expression at the start of a text. -/
def matchStart (r : Regex) (t : Text) : Option Groups := (r.matchAt (.atStart t)).map (·.1)

/-- The position one code point further on. -/
def Cursor.next (c : Cursor) : Cursor :=
  match c.ahead with
  | [] => c
  | x :: rest => ⟨Option.some x, rest⟩

/-- The first match at or after a position: where it starts and where it ends. -/
def findFrom (r : Regex) (behind : Option CodePoint) : Text → Option (Cursor × Cursor)
  | [] => (r.matchAt ⟨behind, []⟩).map fun m => (⟨behind, []⟩, m.2)
  | x :: rest =>
    match r.matchAt ⟨behind, x :: rest⟩ with
    | Option.some m => Option.some (⟨behind, x :: rest⟩, m.2)
    | none => findFrom r (Option.some x) rest

/-- Whether an expression matches somewhere in a text. -/
def found (r : Regex) (t : Text) : Bool := (r.findFrom none t).isSome

/-- The number of matches from a position on, each search starting behind the last match. -/
def countFrom (r : Regex) : (fuel : Nat) → Cursor → Nat
  | 0, _ => 0
  | fuel + 1, c =>
    match r.findFrom c.behind c.ahead with
    | none => 0
    | Option.some (start, stop) =>
      if stop.ahead.length < start.ahead.length then countFrom r fuel stop + 1
      else if start.ahead.isEmpty then 1
      else countFrom r fuel start.next + 1

/-- The number of matches in a text that do not overlap, taken from left to right. -/
def count (r : Regex) (t : Text) : Nat := r.countFrom (t.length + 1) (.atStart t)

/-- Whether an expression matches a text from its start to its end. -/
def matchesAll (r : Regex) (t : Text) : Bool :=
  (r.run [] (.atStart t) fun _ c => if c.ahead.isEmpty then Option.some () else none).isSome

end HookAudit.Regex
