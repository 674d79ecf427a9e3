/-
# HookAudit.Text.Number — reading a whole number.

A number is an optional sign and one or more decimal digits of any script, with single underscores
allowed between digits and space around the whole.  Numbers of more than 4300 digits are refused.
-/
import HookAudit.Text.Blank
import HookAudit.Text.Digit

namespace HookAudit.Text

/-- The most digits a number may have. -/
def digitLimit : Nat := 4300

/-- The space that may surround a number: white space without the four ASCII separators. -/
def isNumberSpace (c : CodePoint) : Bool := c.isBlank && !(28 ≤ c.val && c.val ≤ 31)

/-- The digit values of a text in which single underscores may stand between digits.  `after` tells
whether a digit has just been read. -/
def digits? (after : Bool) : Text → Option (List Nat)
  | [] => if after then some [] else none
  | c :: rest =>
    match c.digit? with
    | some n => (digits? true rest).map (n :: ·)
    | none => if after && c.is '_' then digits? false rest else none

/-- The number that digits spell in base ten. -/
def valueOf (digits : List Nat) : Nat := digits.foldl (fun n d => 10 * n + d) 0

/-- The number that a text spells. -/
def toNat? (t : Text) : Option Nat :=
  match digits? false t with
  | some ds => if ds.length ≤ digitLimit then some (valueOf ds) else none
  | none => none

/-- The whole number that a text spells. -/
def toInt? (t : Text) : Option Int :=
  let bare := ((t.dropWhile isNumberSpace).reverse.dropWhile isNumberSpace).reverse
  match bare with
  | [] => none
  | c :: rest =>
    if c.is '-' then (toNat? rest).map fun n => -(n : Int)
    else if c.is '+' then (toNat? rest).map Int.ofNat
    else (toNat? (c :: rest)).map Int.ofNat

end HookAudit.Text
