/-
# HookAudit.Tree.JavaScript.Literal — numbers, strings, templates and regular expressions.

Escapes divide the text of a string into fragments.
-/
import HookAudit.Tree.JavaScript.Basic

namespace HookAudit.JavaScript

open Parse

/-- A number. -/
def number : P Forest := do
  let start ← pos
  let second ← peekAt 1
  require ((← peek).any Char.isDigit || ((← looksAt ".") && second.any Char.isDigit))
  if (← looksAt "0") && second.any ("xXoObB".toList.contains ·) then
    goto (start + 2)
    skipWhile fun c => c.isAlphanum || c == '_'
  else
    let digits : P Unit := skipWhile fun c => c.isDigit || c == '_'
    digits
    if ← looksAt "." then
      goto ((← pos) + 1)
      digits
    if (← peek).any fun c => c == 'e' || c == 'E' then
      let sign := if (← peekAt 1).any fun c => c == '+' || c == '-' then 1 else 0
      if (← peekAt (1 + sign)).any Char.isDigit then
        goto ((← pos) + 1 + sign)
        digits
    skipWhile (· == 'n')
  leafFrom "number" start

/-- The length of an escape that starts here. -/
def escapeLength : P Nat := do
  match ← peekAt 1 with
  | none => failure
  | some 'x' => return 4
  | some 'u' =>
    if (← peekAt 2) == some '\x7b' then
      let stop ← stopOf (· != '\x7d') 3
      return stop + 1 - (← pos)
    else return 6
  | some '\r' => return if (← peekAt 2) == some '\n' then 3 else 2
  | some c =>
    if '0' ≤ c && c ≤ '7' then
      let stop ← stopOf (fun d => '0' ≤ d && d ≤ '7') 1
      return min (stop - (← pos)) 4
    else return 2

/-- An escape. -/
def escape : P Forest := do
  require (← looksAt "\\")
  let start ← pos
  goto (start + (← escapeLength))
  leafFrom "escape_sequence" start

/-- Text up to something that is no plain content. -/
def fragment (plain : Char → Bool) : P Forest := do
  let start ← pos
  skipWhile plain
  require (start < (← pos))
  leafFrom "string_fragment" start

/-- A string in one kind of quotes. -/
def quotedWith (quote : String) : P Forest := construct "string" (inOrder
  [exact quote,
   manyOf (escape <|> fragment fun c => !quote.toList.contains c && c != '\\' && c != '\n'),
   exact quote])

/-- A string. -/
def string : P Forest := quotedWith "\"" <|> quotedWith "'"

/-- Plain text of a template: a dollar sign counts unless a brace follows. -/
def templateText : P Forest := do
  let start ← pos
  let _ ← manyOf do
    require !(← looksAt "$\x7b")
    require ((← peek).any fun c => c != backquote && c != '\\')
    goto ((← pos) + 1)
    return []
  require (start < (← pos))
  leafFrom "string_fragment" start

/-- A template whose substitutions hold what `value` parses. -/
def template (kind : String) (value : P Forest) : P Forest := construct kind (inOrder
  [exact "`",
   manyOf (firstOf
     [escape,
      construct "template_substitution" (enclosed "$\x7b" (after value) "\x7d"),
      templateText]),
   exact "`"])

/-- The position of the slash that ends a regular expression, from an offset on; within a class of
characters a slash is an ordinary character. -/
def regexEnd : (fuel : Nat) → (inClass : Bool) → Nat → P Nat
  | 0, _, _ => failure
  | fuel + 1, inClass, offset => do
    match ← peekAt offset with
    | none => failure
    | some '\n' => failure
    | some '\\' => regexEnd fuel inClass (offset + 2)
    | some '[' => regexEnd fuel true (offset + 1)
    | some ']' => regexEnd fuel false (offset + 1)
    | some '/' => if inClass then regexEnd fuel true (offset + 1) else return (← pos) + offset
    | some _ => regexEnd fuel inClass (offset + 1)

/-- A regular expression. -/
def regex : P Forest := do
  require (← looksAt "/")
  let start ← pos
  let stop ← regexEnd (← read).size false 1
  require (stop > start + 1)
  let opening ← exact "/"
  let pattern ← inField "pattern" (leafAt "regex_pattern" (start + 1) stop)
  goto stop
  let closing ← exact "/"
  let flags ← pos
  skipWhile Char.isAlpha
  let marks ← if flags < (← pos) then inField "flags" (leafFrom "regex_flags" flags) else pure []
  return wrap "regex" (opening ++ pattern ++ closing ++ marks)

end HookAudit.JavaScript
