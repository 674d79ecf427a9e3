/-
# HookAudit.Json.Writer — writing a document.

Documents are written in ASCII: everything else becomes an escape of four hexadecimal digits, a
code point beyond the first plane a pair of them.  The compact form puts one space behind commas
and colons; the indented form puts each item on a line of its own.
-/
import HookAudit.Json.Value

namespace HookAudit.Json

/-- One sixteen-bit unit as an escape. -/
def unitEscape (n : Nat) : Text := "\\u" ++ Text.ofHex 4 n

/-- One code point inside a written string. -/
def writeCodePoint (c : CodePoint) : Text :=
  if c.is '"' then "\\\""
  else if c.is '\\' then "\\\\"
  else if c.is '\n' then "\\n"
  else if c.is '\r' then "\\r"
  else if c.is '\t' then "\\t"
  else if c.val == 8 then "\\b"
  else if c.val == 12 then "\\f"
  else if 32 ≤ c.val && c.val < 127 then [c]
  else if c.val < 0x10000 then unitEscape c.val
  else unitEscape (0xD800 + (c.val - 0x10000) / 0x400) ++ unitEscape (0xDC00 + c.val % 0x400)

/-- A written string. -/
def writeString (t : Text) : Text := "\"" ++ t.flatMap writeCodePoint ++ "\""

/-- How items are laid out: on one line, or on lines of their own from some depth on. -/
inductive Layout where
  | compact
  | indented (depth : Nat)

/-- The layout one level further in. -/
def Layout.deeper : Layout → Layout
  | compact => compact
  | indented depth => indented (depth + 1)

/-- What stands before the first item and, after a comma, before each further one. -/
def Layout.breaks : Layout → Text × Text
  | compact => ("", " ")
  | indented depth =>
    let line : Text := .ofChar '\n' :: List.replicate (2 * depth) (.ofChar ' ')
    (line, line)

/-- Items between brackets. -/
def enclose (layout : Layout) (left right : Text) (items : List Text) : Text :=
  if items.isEmpty then left ++ right
  else left ++ layout.deeper.breaks.1 ++ Text.join ("," ++ layout.deeper.breaks.2) items
    ++ layout.breaks.1 ++ right

mutual

/-- A written value. -/
def write (layout : Layout) : Json → Text
  | null => "null"
  | bool true => "true"
  | bool false => "false"
  | int n => Text.ofInt n
  | real spelling => spelling
  | str t => writeString t
  | arr items => enclose layout "[" "]" (writeItems layout.deeper items)
  | obj members => enclose layout "\x7b" "\x7d" (writeMembers layout.deeper members)

/-- Written items. -/
def writeItems (layout : Layout) : List Json → List Text
  | [] => []
  | x :: rest => write layout x :: writeItems layout rest

/-- Written members. -/
def writeMembers (layout : Layout) : List (Text × Json) → List Text
  | [] => []
  | (name, x) :: rest => (writeString name ++ ": " ++ write layout x) :: writeMembers layout rest

end

end HookAudit.Json
