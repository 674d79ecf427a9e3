/-
# HookAudit.Terminal.Markup — text with tags.

A tag stands between square brackets and starts with a lower case letter, `#`, `/` or `@`; other
brackets are text.  Backslashes in front of a tag count in pairs, and one left over makes the tag
itself text.  A closing tag has to name a style that is open, or any open one when it names none.
Since nothing is coloured here, what remains of markup is its text, with short names of emoji
replaced and a few controls dropped.
-/
import HookAudit.Terminal.Emoji
import HookAudit.Terminal.Style

namespace HookAudit.Terminal

/-- Why markup has no text. -/
inductive MarkupError where
  /-- A closing tag names a style that is not open. -/
  | notOpen (tag : Text) (position : Nat)
  /-- A closing tag without a name stands where nothing is open. -/
  | nothingOpen (position : Nat)
deriving DecidableEq

/-- The wording of an error. -/
def MarkupError.message : MarkupError → Text
  | notOpen tag position =>
    "closing tag '[" ++ tag ++ "]' at position " ++ Text.ofNat position ++
      " doesn't match any open tag"
  | nothingOpen position =>
    "closing tag '[/]' at position " ++ Text.ofNat position ++ " has nothing to close"

/-! ## Pieces -/

/-- A piece of markup. -/
inductive Piece where
  | text (content : Text)
  /-- What a tag encloses, and where the tag stands. -/
  | tag (inside : Text) (position : Nat)

/-- Whether a tag may start with a code point. -/
def startsTag (c : CodePoint) : Bool :=
  (97 ≤ c.val && c.val ≤ 122) || c.is '#' || c.is '/' || c.is '@'

/-- A tag at the start of a text: the backslashes before it, what it encloses, and what follows. -/
def tag? (t : Text) : Option (Nat × Text × Text) :=
  let slashes := (t.takeWhile (·.is '\\')).length
  match t.drop slashes with
  | bracket :: first :: rest =>
    if bracket.is '[' && startsTag first then
      let inside := rest.takeWhile fun c => !c.is '[' && !c.is ']'
      match rest.drop inside.length with
      | close :: after => if close.is ']' then some (slashes, first :: inside, after) else none
      | [] => none
    else none
  | _ => none

/-- The first tag of a text, with the text before it. -/
def firstTag? (before : Text) : Text → Option (Text × Nat × Text × Text)
  | [] => none
  | c :: rest =>
    match tag? (c :: rest) with
    | some found => some (before.reverse, found)
    | none => firstTag? (c :: before) rest

/-- The pieces of markup from a position on, `fuel` tags at most. -/
def pieces : (fuel : Nat) → (position : Nat) → Text → List Piece
  | 0, _, t => [.text t]
  | fuel + 1, position, t =>
    match firstTag? [] t with
    | none => [.text t]
    | some (before, slashes, inside, after) =>
      let start := position + before.length + 2 * (slashes / 2)
      let tagged : Text := "[" ++ inside ++ "]"
      [.text before, .text (List.replicate (slashes / 2) (.ofChar '\\')),
        if slashes % 2 == 1 then .text tagged else .tag inside start] ++
      pieces fuel (start + slashes % 2 + tagged.length) after

/-! ## Text -/

/-- A text in which a bracket behind a backslash stands for itself. -/
def unescape : Text → Text
  | [] => []
  | [c] => [c]
  | c :: d :: rest =>
    if c.is '\\' && d.is '[' then d :: unescape rest else c :: unescape (d :: rest)

/-- Whether a code point is a control that is never printed. -/
def isDropped (c : CodePoint) : Bool :=
  c.val == 7 || c.val == 8 || c.val == 11 || c.val == 12 || c.val == 13

/-- A text without controls, and with short names of emoji replaced. -/
def plain (t : Text) : Text := (expandEmoji t).filter fun c => !isDropped c

/-- What a tag names: everything before an equals sign. -/
def tagName (inside : Text) : Text := inside.takeWhile fun c => !c.is '='

/-- The open styles after a tag. -/
def applyTag (open_ : List Text) (inside : Text) (position : Nat) :
    Except MarkupError (List Text) :=
  let name := tagName inside
  match name with
  | c :: closed =>
    if c.is '/' then
      let closed := Text.strip closed
      if closed.isEmpty then
        match open_ with
        | [] => .error (.nothingOpen position)
        | _ :: rest => .ok rest
      else
        let style := Style.normalize closed
        if open_.contains style then .ok (open_.erase style)
        else .error (.notOpen inside position)
    else .ok (Style.normalize name :: open_)
  | [] => .ok open_

/-- The text of pieces, given the open styles. -/
def textOf (open_ : List Text) : List Piece → Except MarkupError Text
  | [] => .ok []
  | .text t :: rest => (textOf open_ rest).map (plain (unescape t) ++ ·)
  | .tag inside position :: rest =>
    match applyTag open_ inside position with
    | .error e => .error e
    | .ok open_ => textOf open_ rest

/-- The text of markup. -/
def markupText (t : Text) : Except MarkupError Text := textOf [] (pieces t.length 0 t)

end HookAudit.Terminal
