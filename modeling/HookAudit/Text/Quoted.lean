/-
# HookAudit.Text.Quoted — a text between quotes, as messages show it.

A quoted text stands between apostrophes, or between quotation marks when it holds an apostrophe
and no quotation mark.  The quote in use, the backslash and everything that is not printable are
written as escapes, so the quoted form is one line of printable characters.
-/
import HookAudit.Text.Printable

namespace HookAudit.Text

/-- The mark that quotes a text. -/
def quoteMark (t : Text) : Char :=
  if t.any (·.is '\'') && !t.any (·.is '"') then '"' else '\''

/-- One code point inside the given quotes. -/
def quoteOne (mark : Char) (c : CodePoint) : Text :=
  if c.is mark || c.is '\\' then .ofChar '\\' :: [c]
  else if c.is '\t' then "\\t"
  else if c.is '\n' then "\\n"
  else if c.is '\r' then "\\r"
  else if c.isPrintable then [c]
  else if c.val < 0x100 then "\\x" ++ ofHex 2 c.val
  else if c.val < 0x10000 then "\\u" ++ ofHex 4 c.val
  else "\\U" ++ ofHex 8 c.val

/-- A text between quotes. -/
def quoted (t : Text) : Text :=
  let mark := quoteMark t
  .ofChar mark :: t.flatMap (quoteOne mark) ++ [.ofChar mark]

end HookAudit.Text
