/-
# HookAudit.Tree.Source — source text with places.

A source is an array of characters together with the byte offset, row and column of every position.
Ranges of positions become spans by looking their ends up, so grammars count characters and never
bytes.
-/
import HookAudit.Tree.Node

namespace HookAudit

/-- Where a position lies: its byte offset, row and column in bytes. -/
structure Mark where
  byte : Nat
  row : Nat
  column : Nat
deriving Inhabited

/-- Source text with the place of every position. -/
structure Source where
  /-- The characters. -/
  chars : Array Char
  /-- The place of each position, the one behind the last character included. -/
  marks : Array Mark

namespace Source

/-- The place behind a character. -/
def nextMark (m : Mark) (c : Char) : Mark :=
  if c == '\n' then ⟨m.byte + 1, m.row + 1, 0⟩
  else ⟨m.byte + c.utf8Size, m.row, m.column + c.utf8Size⟩

/-- The source with the given characters. -/
def ofChars (chars : List Char) : Source where
  chars := chars.toArray
  marks := (chars.foldl (fun (marks, m) c => (marks.push (nextMark m c), nextMark m c))
    (#[⟨0, 0, 0⟩], ⟨0, 0, 0⟩)).1

/-- The source that octets encode. -/
def ofOctets (octets : Text.Octets) : Source :=
  ofChars ((Text.decodeLossy octets).map CodePoint.toChar)

/-- The number of characters. -/
def size (s : Source) : Nat := s.chars.size

/-- The character at a position. -/
def get? (s : Source) (pos : Nat) : Option Char := s.chars[pos]?

/-- The span between two positions. -/
def span (s : Source) (start stop : Nat) : Span :=
  let first := (s.marks[start]?).getD default
  let last := (s.marks[stop]?).getD default
  ⟨first.byte, last.byte, first.row, first.column⟩

/-- The characters between two positions. -/
def extract (s : Source) (start stop : Nat) : List Char := (s.chars.extract start stop).toList

/-- Whether a word stands at a position. -/
def startsAt (s : Source) (pos : Nat) : List Char → Bool
  | [] => true
  | c :: rest => s.get? pos == some c && startsAt s (pos + 1) rest

/-- The first position from `pos` on where a test fails, `fuel` positions on at the latest. -/
def skipWhile (s : Source) (test : Char → Bool) : (fuel : Nat) → Nat → Nat
  | 0, pos => pos
  | fuel + 1, pos =>
    match s.get? pos with
    | some c => if test c then skipWhile s test fuel (pos + 1) else pos
    | none => pos

end Source

end HookAudit
