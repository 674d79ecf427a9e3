/-
# HookAudit.Text.CodePoint — text as a sequence of code points.

A hook reaches the analyser from a decoded document, and such a document may hold a *lone
surrogate*: a code point that is no scalar value and that no UTF-8 text can carry.  `Char` rules
these out, so a text here is a list of `CodePoint`s, each any number below `0x110000`.  Lengths,
limits and comparisons count code points; bytes appear only in `HookAudit.Text.Utf8`.

The file closes with the rendering of numbers and the small vocabulary on texts (membership of a
piece, cutting at a separator, joining) that the other modules share.
-/
namespace HookAudit

/-- A Unicode code point; unlike a `Char` it may be a surrogate. -/
structure CodePoint where
  /-- The number of the code point. -/
  val : Nat
  /-- Code points end at `0x10FFFF`. -/
  isLt : val < 0x110000
deriving DecidableEq

namespace CodePoint

/-- Every character is a code point. -/
def ofChar (c : Char) : CodePoint where
  val := c.toNat
  isLt := by
    have h := c.valid
    simp only [UInt32.isValidChar, Nat.isValidChar] at h
    show c.val.toNat < 0x110000
    omega

/-- The code point with a given number; numbers out of range stand for U+FFFD. -/
def ofNat (n : Nat) : CodePoint :=
  if h : n < 0x110000 then ⟨n, h⟩ else ⟨0xFFFD, by decide⟩

instance : Inhabited CodePoint := ⟨⟨0xFFFD, by decide⟩⟩

/-- Surrogates are the code points that no UTF-8 text can carry. -/
def isSurrogate (c : CodePoint) : Bool := 0xD800 ≤ c.val && c.val ≤ 0xDFFF

/-- The character with this number, unless the code point is a surrogate. -/
def toChar? (c : CodePoint) : Option Char :=
  if c.isSurrogate then none else some (Char.ofNat c.val)

/-- The character with this number; a surrogate reads as the replacement character. -/
def toChar (c : CodePoint) : Char := c.toChar?.getD (Char.ofNat 0xFFFD)

/-- Whether a code point is the given character. -/
def is (c : CodePoint) (x : Char) : Bool := c.val == x.toNat

/-- The ASCII letters. -/
def isAsciiLetter (c : CodePoint) : Bool :=
  (65 ≤ c.val && c.val ≤ 90) || (97 ≤ c.val && c.val ≤ 122)

/-- The ASCII decimal digits. -/
def isAsciiDigit (c : CodePoint) : Bool := 48 ≤ c.val && c.val ≤ 57

end CodePoint

/-- A text is a sequence of code points. -/
abbrev Text := List CodePoint

namespace Text

/-- The text that a string spells. -/
def ofString (s : String) : Text := s.toList.map CodePoint.ofChar

instance : Coe String Text := ⟨ofString⟩

/-- The string with the same characters; surrogates read as the replacement character. -/
def toString (t : Text) : String := String.ofList (t.map CodePoint.toChar)

/-! ## Numbers -/

/-- A natural number in decimal digits. -/
def ofNat (n : Nat) : Text := (Nat.toDigits 10 n).map CodePoint.ofChar

/-- An integer in decimal digits, with a minus sign when it is negative. -/
def ofInt : Int → Text
  | .ofNat n => ofNat n
  | .negSucc n => CodePoint.ofChar '-' :: ofNat (n + 1)

/-- The `width` lowest hexadecimal digits of a number, in lower case. -/
def ofHex : (width : Nat) → Nat → Text
  | 0, _ => []
  | width + 1, n => ofHex width (n / 16) ++ [CodePoint.ofChar (Nat.digitChar (n % 16))]

/-! ## Pieces of a text -/

/-- Whether a text starts with a given piece. -/
def startsWith (t piece : Text) : Bool := piece.isPrefixOf t

/-- Whether a text ends with a given piece. -/
def endsWith (t piece : Text) : Bool := piece.isSuffixOf t

/-- Whether a piece occurs somewhere in a text. -/
def contains (piece : Text) : Text → Bool
  | [] => piece.isEmpty
  | c :: rest => piece.isPrefixOf (c :: rest) || contains piece rest

/-- The offset of the first occurrence of a piece, counted in code points. -/
def indexOf? (piece : Text) : Text → Option Nat
  | [] => if piece.isEmpty then some 0 else none
  | c :: rest =>
    if piece.isPrefixOf (c :: rest) then some 0 else (indexOf? piece rest).map (· + 1)

/-- The pieces between the code points that satisfy a test, the empty ones included. -/
def splitWhere (cut : CodePoint → Bool) : Text → List Text
  | [] => [[]]
  | c :: rest =>
    if cut c then [] :: splitWhere cut rest
    else match splitWhere cut rest with
      | [] => [[c]]
      | piece :: pieces => (c :: piece) :: pieces

/-- The pieces between occurrences of a character. -/
def splitOn (x : Char) (t : Text) : List Text := splitWhere (·.is x) t

/-- Texts joined by a separator. -/
def join (separator : Text) (ts : List Text) : Text := List.intercalate separator ts

/-- The text before the first newline. -/
def firstLine (t : Text) : Text := t.takeWhile (!·.is '\n')

/-- The order of texts: by the first code point that differs, a proper beginning first. -/
def le : Text → Text → Bool
  | [], _ => true
  | _ :: _, [] => false
  | a :: as, b :: bs => a.val < b.val || (a.val == b.val && le as bs)

end Text

end HookAudit
