/-
# HookAudit.Terminal.Layout — lines of a given width.

A text is broken between words.  A word that is wider than a line is folded over several lines or,
where that is not wanted, stays whole and is cut.  Lines may be filled up to the width on the
right, on the left or on both sides.
-/
import HookAudit.Terminal.Width
import HookAudit.Text.Blank

namespace HookAudit.Terminal

/-- What happens to a word that is wider than a line. -/
inductive Overflow where
  /-- It goes on in the next line. -/
  | fold
  /-- It is cut, and an ellipsis says so. -/
  | ellipsis
deriving DecidableEq

/-- Where the text of a line stands. -/
inductive Align where
  /-- At the left; nothing is filled up. -/
  | natural
  | left | center | right
deriving DecidableEq

/-! ## Breaks -/

/-- The words of a line, each with the white space behind it, the first also with that before. -/
def wordsWithin : (fuel : Nat) → Text → List Text
  | 0, _ => []
  | fuel + 1, t =>
    let before := t.takeWhile CodePoint.isBlank
    let afterBefore := t.drop before.length
    let word := afterBefore.takeWhile fun c => !c.isBlank
    let afterWord := afterBefore.drop word.length
    let behind := afterWord.takeWhile CodePoint.isBlank
    if word.isEmpty then []
    else (before ++ word ++ behind) :: wordsWithin fuel (afterWord.drop behind.length)

/-- The pieces of a word, each as wide as a line can hold. -/
def chop (width used : Nat) (piece : Text) : Text → List Text
  | [] => [piece.reverse]
  | c :: rest =>
    if used + c.cells > width then piece.reverse :: chop width c.cells [c] rest
    else chop width (used + c.cells) (c :: piece) rest

/-- The positions before each of some pieces, the start of the line excepted. -/
def startsOf (start : Nat) : List Text → List Nat
  | [] => []
  | piece :: rest => (if start == 0 then [] else [start]) ++ startsOf (start + piece.length) rest

/-- The positions at which a line is broken, given where the next word starts and how many cells
are taken. -/
def breaks (width : Nat) (overflow : Overflow) (start used : Nat) : List Text → List Nat
  | [] => []
  | word :: rest =>
    let needed := (Text.stripRight word).cells
    let next := start + word.length
    if needed + used ≤ width then breaks width overflow next (used + word.cells) rest
    else if needed > width then
      match overflow with
      | .fold =>
        let parts := chop width 0 [] word
        startsOf start parts ++
          breaks width overflow next ((parts.getLast?.map Text.cells).getD 0) rest
      | .ellipsis =>
        (if start == 0 then [] else [start]) ++ breaks width overflow next word.cells rest
    else if used != 0 && start != 0 then start :: breaks width overflow next word.cells rest
    else breaks width overflow next used rest

/-- A text cut at positions, which are counted from `at_`. -/
def cutAt (at_ : Nat) : List Nat → Text → List Text
  | [], t => [t]
  | p :: ps, t => t.take (p - at_) :: cutAt p ps (t.drop (p - at_))

/-! ## Lines -/

/-- A line without white space at its end as far as it sticks out. -/
def trimEnd (width : Nat) (t : Text) : Text :=
  let blank := (t.reverse.takeWhile CodePoint.isBlank).length
  t.take (t.length - min blank (t.length - width))

/-- A line in at most `width` cells. -/
def shorten (width : Nat) (overflow : Overflow) (t : Text) : Text :=
  if t.cells ≤ width then t
  else match overflow with
    | .fold => t.fit width
    | .ellipsis => t.fit (width - 1) ++ "…"

/-- A line filled up to its width. -/
def Align.fill (align : Align) (width : Nat) (overflow : Overflow) (t : Text) : Text :=
  match align with
  | .natural => shorten width overflow t
  | .left => (shorten width overflow t).padTo width
  | .center =>
    let t := shorten width overflow t.stripRight
    (Text.spaces ((width - t.cells) / 2) ++ t).padTo width
  | .right =>
    let t := shorten width overflow t.stripRight
    Text.spaces (width - t.cells) ++ t

/-- A line in which tabs lead to the next multiple of eight cells. -/
def expandTabs (used : Nat) : Text → Text
  | [] => []
  | c :: rest =>
    if c.is '\t' then
      let n := 8 - used % 8
      Text.spaces n ++ expandTabs (used + n) rest
    else c :: expandTabs (used + c.cells) rest

/-- A text as lines of a given width. -/
def layOut (width : Nat) (overflow : Overflow) (align : Align) (t : Text) : List Text :=
  (t.splitOn '\n').flatMap fun line =>
    let line := expandTabs 0 line
    let cuts := breaks width overflow 0 0 (wordsWithin line.length line)
    (cutAt 0 cuts line).map fun part => align.fill width overflow (trimEnd width part)

/-! ## Measures -/

/-- Whether a code point ends a line. -/
def endsLine (c : CodePoint) : Bool :=
  (10 ≤ c.val && c.val ≤ 13) || (28 ≤ c.val && c.val ≤ 30) || c.val == 0x85 || c.val == 0x2028
    || c.val == 0x2029

/-- The width of the widest line of a text. -/
def naturalWidth (t : Text) : Nat := ((Text.splitWhere endsLine t).map Text.cells).foldl max 0

end HookAudit.Terminal
