/-
# HookAudit.Text.Blank — white space, stripping and words.

White space is the Unicode property together with the four ASCII separator controls.  The words of
a text are its maximal runs of other code points; `collapse` joins them by single spaces, which is
the same as replacing every run of white space by one space and stripping both ends.
-/
import HookAudit.Text.CodePoint

namespace HookAudit

/-- The white space code points. -/
def CodePoint.isBlank (c : CodePoint) : Bool :=
  let n := c.val
  (9 ≤ n && n ≤ 13) || (28 ≤ n && n ≤ 32) || n == 0x85 || n == 0xA0 || n == 0x1680
    || (0x2000 ≤ n && n ≤ 0x200A) || n == 0x2028 || n == 0x2029 || n == 0x202F || n == 0x205F
    || n == 0x3000

namespace Text

/-- Whether nothing but white space is there. -/
def isBlank (t : Text) : Bool := t.all CodePoint.isBlank

/-- A text without the white space at its start. -/
def stripLeft (t : Text) : Text := t.dropWhile CodePoint.isBlank

/-- A text without the white space at its end. -/
def stripRight (t : Text) : Text := (t.reverse.dropWhile CodePoint.isBlank).reverse

/-- A text without the white space at either end. -/
def strip (t : Text) : Text := stripRight (stripLeft t)

/-- The maximal runs of code points that are not white space, in order. -/
def words (t : Text) : List Text := (splitWhere CodePoint.isBlank t).filter (!·.isEmpty)

/-- The words of a text joined by single spaces. -/
def collapse (t : Text) : Text := join " " (words t)

end Text

end HookAudit
