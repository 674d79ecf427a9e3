/-
# HookAudit.Tree.JavaScript.Element — elements of a page, written among expressions.

An element is an opening tag, what stands in it, and a closing tag, or one tag that closes itself.
Text between tags is a node of its own unless it is nothing but line ends and the indentation behind
them.  Expressions stand in braces, between tags and as values of attributes.
-/
import HookAudit.Tree.JavaScript.Literal

namespace HookAudit.JavaScript

open Parse

/-! ## Names -/

/-- A name that may hold hyphens. -/
def hyphenated (kind : String) : P Forest := do
  require ((← peek).any startsName)
  let start ← pos
  skipWhile fun c => isNameChar c || c == '-'
  leafFrom kind start

/-- A name with a prefix. -/
def prefixedName : P Forest := construct "jsx_namespace_name"
  (inOrder [hyphenated "identifier", mark ":", after (hyphenated "identifier")])

/-- The name of an element, which may be a member of something. -/
def elementName : P Forest := prefixedName <|>
  extended (hyphenated "identifier") fun left => construct "member_expression" (inOrder
    [pure (asField "object" left), mark ".",
     inField "property" (after (wordLeaf "property_identifier"))])

/-! ## Values and text -/

/-- A character written by its name or number. -/
def characterReference : P Forest := do
  require (← looksAt "&")
  let start ← pos
  let first := if ← looksAt "&#" then 2 else 1
  let stop ← stopOf Char.isAlphanum first
  require (start + first < stop)
  goto stop
  let _ ← exact ";"
  leafFrom "html_character_reference" start

/-- A quoted value of an attribute, in which a backslash stands for itself. -/
def attributeText : P Forest := firstOf (["\"", "'"].map fun quote => construct "string" (inOrder
  [exact quote,
   manyOf (firstOf
     [characterReference,
      fragment fun c => !quote.toList.contains c && c != '&',
      do let start ← pos; let _ ← exact "&"; leafFrom "string_fragment" start]),
   exact quote]))

/-- An expression in braces, which may be missing. -/
def embedded (goals : Goals) : P Forest := construct "jsx_expression" (enclosed "\x7b"
  (maybe (after (firstOf
    [construct "spread_element" (inOrder [exact "...", after (goals .assignment)]),
     goals .sequence])))
  "\x7d")

/-- Whether text is more than line ends and the space right behind them. -/
def showsText (text : List Char) : Bool :=
  (text.foldl (fun (shown, fresh) c =>
    if c == '\n' then (shown, true)
    else (shown || !(fresh && isSpace c), fresh && isSpace c)) (false, false)).1

/-- Text between tags. -/
def elementText : P Forest := do
  let start ← pos
  let stop ← stopOf fun c => !"<>\x7b\x7d&".toList.contains c
  require (start < stop)
  goto stop
  if showsText ((← read).extract start stop) then leafFrom "jsx_text" start else return []

/-! ## Elements -/

/-- The name and the attributes of a tag; `inner` parses elements. -/
def tagContent (goals : Goals) (inner : P Forest) : P Forest := inOrder
  [inField "name" (after elementName),
   manyOf (inField "attribute" (after (embedded goals <|> construct "jsx_attribute" (inOrder
     [prefixedName <|> hyphenated "property_identifier",
      maybe (inOrder [mark "=", after (firstOf [attributeText, embedded goals, inner])])]))))]

/-- An element with everything in it, at most `fuel` deep. -/
def elementOf (goals : Goals) : (fuel : Nat) → P Forest
  | 0 => failure
  | fuel + 1 =>
    let inner := elementOf goals fuel
    let tag := tagContent goals inner
    firstOf
      [construct "jsx_self_closing_element" (inOrder [exact "<", tag, mark "/", exact ">"]),
       construct "jsx_element" (inOrder
         [inField "open_tag"
            (construct "jsx_opening_element" (inOrder [exact "<", maybe tag, mark ">"])),
          manyOf (firstOf
            [elementText, characterReference, embedded goals, inner]),
          inField "close_tag" (construct "jsx_closing_element" (inOrder
            [exact "<", mark "/", maybe (inField "name" (after elementName)), mark ">"]))])]

/-- An element, where no type syntax is read. -/
def element (goals : Goals) : P Forest := do
  require !(← mode).typed
  require (← looksAt "<")
  elementOf goals ((← read).size + 1)

end HookAudit.JavaScript
