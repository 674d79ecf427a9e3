/-
# HookAudit.Tree.Python.Literal — numbers and strings.

The content of a string is one node, however many escapes it holds; only interpolations divide it.
-/
import HookAudit.Tree.Python.Basic

namespace HookAudit.Python

open Parse

/-! ## Numbers -/

/-- Goes behind an exponent, if one stands here. -/
def skipExponent : P Unit := do
  if (← peek).any fun c => c == 'e' || c == 'E' then
    let sign := if (← peekAt 1).any fun c => c == '+' || c == '-' then 1 else 0
    if (← peekAt (1 + sign)).any Char.isDigit then
      goto ((← pos) + 1 + sign)
      skipWhile fun c => c.isDigit || c == '_'

/-- A number. -/
def number : P Forest := do
  let start ← pos
  let second ← peekAt 1
  if (← looksAt "0") && second.any ("xXoObB".toList.contains ·) then
    goto (start + 2)
    skipWhile fun c => c.isAlphanum || c == '_'
    leafFrom "integer" start
  else
    let startsFraction := (← looksAt ".") && second.any Char.isDigit
    require (startsFraction || (← peek).any Char.isDigit)
    skipWhile fun c => c.isDigit || c == '_'
    let whole ← pos
    if ← looksAt "." then
      goto (whole + 1)
      skipWhile fun c => c.isDigit || c == '_'
    skipExponent
    let kind := if (← pos) == whole then "integer" else "float"
    skipWhile fun c => "jJlL".toList.contains c
    leafFrom kind start

/-! ## Strings -/

/-- The letters and quotes that open a string. -/
structure StringStart where
  /-- The letters before the quotes. -/
  letters : List Char
  /-- The quotes, one or three of a kind. -/
  quotes : String

/-- The start of a string, if one stands here. -/
def stringStart : P StringStart := do
  let start ← pos
  let stop ← stopOf fun c => "rRbBuUfFtT".toList.contains c
  let letters := (← read).extract start stop
  require (letters.length ≤ 3)
  goto stop
  for quotes in ["\"\"\"", "'''", "\"", "'"] do
    if ← looksAt quotes then return ⟨letters, quotes⟩
  failure

/-- The length of the next piece of content, zero at its end.  A backslash protects the character
behind it, and in text with interpolations a doubled brace is content. -/
def contentStep (s : StringStart) (interpolated : Bool) : P Nat := do
  if ← looksAt s.quotes then return 0
  match ← peek with
  | none => return 0
  | some '\\' => return if (← peekAt 1).isSome then 2 else 1
  | some '\n' => return if s.quotes.length == 3 then 1 else 0
  | some c =>
    if interpolated && c == '\x7b' then
      return if (← peekAt 1) == some '\x7b' then 2 else 0
    else if interpolated && c == '\x7d' && (← peekAt 1) == some '\x7d' then return 2
    else return 1

/-- The content of a string up to an interpolation or its end. -/
def stringContent (s : StringStart) (interpolated : Bool) : P Forest := do
  let start ← pos
  let _ ← manyOf do
    let length ← contentStep s interpolated
    require (length > 0)
    goto ((← pos) + length)
    return []
  require (start < (← pos))
  leafFrom "string_content" start

/-- A conversion in an interpolation. -/
def conversion : P Forest := do
  require (← looksAt "!")
  require ((← peekAt 1).any Char.isAlpha)
  let start ← pos
  goto (start + 1)
  skipWhile isNameChar
  leafFrom "type_conversion" start

/-- The format of an interpolation; `inner` parses interpolations inside it. -/
def formatSpecifier (inner : P Forest) : P Forest :=
  construct "format_specifier" (inOrder
    [exact ":",
     manyOf (inner <|> do
       let start ← pos
       skipWhile fun c => c != '\x7b' && c != '\x7d'
       require (start < (← pos))
       return [])])

/-- An expression inside a string, nested at most `fuel` deep in formats. -/
def interpolation (value : P Forest) : (fuel : Nat) → P Forest
  | 0 => failure
  | fuel + 1 => construct "interpolation" (do
      let opening ← exact "\x7b"
      let rest ← withMode ({ · with bracketed := true }) (inOrder
        [inField "expression" value, maybe (after (operator ["="])),
         gap, maybe (inField "type_conversion" conversion),
         maybe (inField "format_specifier" (formatSpecifier (interpolation value fuel))),
         mark "\x7d"])
      return opening ++ rest)

/-- A string whose interpolations hold what `value` parses. -/
def string (value : P Forest) : P Forest := construct "string" do
  let start ← pos
  let s ← stringStart
  let interpolated := s.letters.any fun c => "fFtT".toList.contains c
  goto ((← pos) + s.quotes.length)
  let opening ← leafFrom "string_start" start
  let depth := (← read).size + 1
  let piece := if interpolated then stringContent s true <|> interpolation value depth
    else stringContent s false
  let pieces ← manyOf piece
  let stop ← pos
  let _ ← exact s.quotes
  return opening ++ pieces ++ (← leafFrom "string_end" stop)

/-- One string, or several that are one. -/
def strings (value : P Forest) : P Forest := do
  let first ← string value
  match ← manyOf (after (string value)) with
  | [] => return first
  | more => return wrap "concatenated_string" (first ++ more)

end HookAudit.Python
