/-
# HookAudit.Regex.Basic — regular expressions over code points.

An expression is built from single code points, sequence, choice and repetition, with numbered
groups and the usual assertions on positions.  Case is a property of each set of code points, not a
mode of the matcher, so an expression that ignores case everywhere is the image of one that does
not under `Regex.ignoreCase`.
-/
import HookAudit.Text.Blank
import HookAudit.Text.Case
import HookAudit.Text.Digit
import HookAudit.Text.Word

namespace HookAudit

/-! ## Sets of code points -/

/-- One item of a set. -/
inductive SetItem where
  /-- The code points from one number to another, both included. -/
  | range (low high : Nat)
  /-- White space, or everything else. -/
  | blank (inside : Bool)
  /-- Decimal digits, or everything else. -/
  | digit (inside : Bool)
  /-- Characters of words, or everything else. -/
  | word (inside : Bool)
deriving DecidableEq, Repr

/-- Whether an item has a code point, case as written. -/
def SetItem.has : SetItem → CodePoint → Bool
  | .range low high, c => low ≤ c.val && c.val ≤ high
  | .blank inside, c => c.isBlank == inside
  | .digit inside, c => c.isDigit == inside
  | .word inside, c => c.isWord == inside

/-- A set of code points, given by items, possibly complemented. -/
structure CodeSet where
  /-- Whether the set holds what the items do not. -/
  negated : Bool := false
  /-- Whether letters that differ in case count as one. -/
  ignoreCase : Bool := false
  /-- What the set is made of. -/
  items : List SetItem
deriving DecidableEq, Repr

namespace Text

/-- The upper case letters that share a lower case form, by its number. -/
def upperForms (n : Nat) : List Nat :=
  if n < 128 then (if 97 ≤ n && n ≤ 122 then [n - 32] else [])
  else lowerRuns.filterMap fun (first, last, step, offset) =>
    let m := ((n : Int) - offset).toNat
    if first ≤ m && m ≤ last && (m - first) % step == 0 then some m else none

end Text

namespace CodePoint

/-- The code points that differ from this one at most in case. -/
def cases (c : CodePoint) : List CodePoint :=
  let folded := c.fold
  let lowers := folded :: (Text.caseTwins.filter (·.2 == folded)).map (·.1)
  let dotted := if folded == 0x69 then [0x130] else []
  let kelvin := if folded == 0x6B then [0x212A] else []
  (lowers ++ lowers.flatMap Text.upperForms ++ dotted ++ kelvin).map ofNat

end CodePoint

namespace CodeSet

/-- Whether one of the items has a code point. -/
def listed (s : CodeSet) (c : CodePoint) : Bool :=
  if s.ignoreCase then s.items.any fun item => item.has c || c.cases.any item.has
  else s.items.any (·.has c)

/-- Whether a code point belongs to the set. -/
def has (s : CodeSet) (c : CodePoint) : Bool := s.listed c != s.negated

end CodeSet

/-! ## Expressions -/

/-- A regular expression. -/
inductive Regex where
  /-- The empty piece. -/
  | empty
  /-- One code point of a set. -/
  | one (set : CodeSet)
  /-- One expression, then another. -/
  | seq (first second : Regex)
  /-- One expression or, failing that, another. -/
  | alt (first second : Regex)
  /-- Any number of times, as often as possible or as seldom as possible. -/
  | star (greedy : Bool) (body : Regex)
  /-- A numbered group. -/
  | group (number : Nat) (body : Regex)
  /-- The start of the text. -/
  | textStart
  /-- The start of a line. -/
  | lineStart
  /-- The end of the text, or the newline that ends it. -/
  | textEnd
  /-- The very end of the text. -/
  | absoluteEnd
  /-- The end of a line. -/
  | lineEnd
  /-- A place between a word character and something else, or any other place; an empty text has
  neither. -/
  | boundary (inside : Bool)
deriving DecidableEq, Repr

namespace Regex

/-- One of the expressions that matches nothing at all. -/
def never : Regex := one ⟨false, false, []⟩

/-- Expressions one after the other. -/
def seqs : List Regex → Regex
  | [] => empty
  | [r] => r
  | r :: rest => seq r (seqs rest)

/-- Expressions to choose from, the earlier preferred. -/
def alts : List Regex → Regex
  | [] => never
  | [r] => r
  | r :: rest => alt r (alts rest)

/-- One given character. -/
def char (x : Char) : Regex := one ⟨false, false, [.range x.toNat x.toNat]⟩

/-- A given text, case as written. -/
def literal (s : String) : Regex := seqs (s.toList.map char)

/-- Any of several texts. -/
def anyOf (words : List String) : Regex := alts (words.map literal)

/-- One character of those in a string. -/
def charOf (s : String) : Regex := one ⟨false, false, s.toList.map fun x => .range x.toNat x.toNat⟩

/-- One character not among those in a string. -/
def charNotOf (s : String) : Regex :=
  one ⟨true, false, s.toList.map fun x => .range x.toNat x.toNat⟩

/-- One ASCII letter. -/
def letter : Regex := one ⟨false, false, [.range 97 122, .range 65 90]⟩

/-- One white space. -/
def blank : Regex := one ⟨false, false, [.blank true]⟩

/-- One code point that is no white space. -/
def nonBlank : Regex := one ⟨false, false, [.blank false]⟩

/-- One character of a word. -/
def wordChar : Regex := one ⟨false, false, [.word true]⟩

/-- Any code point but a newline. -/
def dot : Regex := charNotOf "\n"

/-- Any number of times. -/
def many (r : Regex) : Regex := star true r

/-- At least once. -/
def some (r : Regex) : Regex := seq r (star true r)

/-- At most once. -/
def opt (r : Regex) : Regex := alt r empty

/-- A whole text that matches. -/
def whole (r : Regex) : Regex := seqs [textStart, r, textEnd]

/-- The same expression with case ignored everywhere. -/
def ignoreCase : Regex → Regex
  | one set => one { set with ignoreCase := true }
  | seq a b => seq a.ignoreCase b.ignoreCase
  | alt a b => alt a.ignoreCase b.ignoreCase
  | star greedy r => star greedy r.ignoreCase
  | group n r => group n r.ignoreCase
  | r => r

end Regex

end HookAudit
