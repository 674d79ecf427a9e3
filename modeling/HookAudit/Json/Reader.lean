/-
# HookAudit.Json.Reader — reading a document.

Strict reading: no comments, no trailing commas, no control characters inside strings; beyond the
standard the three words `NaN`, `Infinity` and `-Infinity` are numbers.  Each way in which a text
fails to be a document is a cause of its own, reported with the line where the reader stood.
-/
import HookAudit.Json.Value
import HookAudit.Text.Number

namespace HookAudit.Json

/-- What is wrong with a text that is no document. -/
inductive Fault where
  | expectingValue
  | extraData
  | expectingName
  | expectingColon
  | expectingComma
  | unterminatedString
  | controlCharacter
  | badEscape
  | badUnicodeEscape
  | byteOrderMark
  /-- A whole number with more digits than can be converted. -/
  | hugeNumber (digits : Nat)
deriving DecidableEq, Repr

/-- The wording of a fault. -/
def Fault.message : Fault → Text
  | expectingValue => "Expecting value"
  | extraData => "Extra data"
  | expectingName => "Expecting property name enclosed in double quotes"
  | expectingColon => "Expecting ':' delimiter"
  | expectingComma => "Expecting ',' delimiter"
  | unterminatedString => "Unterminated string starting at"
  | controlCharacter => "Invalid control character at"
  | badEscape => "Invalid \\escape"
  | badUnicodeEscape => "Invalid \\uXXXX escape"
  | byteOrderMark => "Unexpected UTF-8 BOM (decode using utf-8-sig)"
  | hugeNumber digits =>
    "Exceeds the limit (4300 digits) for integer string conversion: value has "
      ++ Text.ofNat digits ++ " digits; use sys.set_int_max_str_digits() to increase the limit"

/-- A fault with what was left of the text where it was noticed. -/
structure Stuck where
  fault : Fault
  rest : Text

/-- A reader: a value and the rest of the text, or a fault. -/
abbrev Read (α : Type) := Except Stuck (α × Text)

/-- A text without the blanks of the format at its start. -/
def skipBlanks (t : Text) : Text :=
  t.dropWhile fun c => c.is ' ' || c.is '\t' || c.is '\n' || c.is '\r'

/-- The value of exactly four hexadecimal digits with something behind them. -/
def hexFour? : Text → Option (Nat × Text)
  | a :: b :: c :: d :: rest =>
    match a.hexDigit?, b.hexDigit?, c.hexDigit?, d.hexDigit? with
    | some a, some b, some c, some d => some (((a * 16 + b) * 16 + c) * 16 + d, rest)
    | _, _, _, _ => none
  | _ => none

/-- What a short escape stands for. -/
def shortEscape? (c : CodePoint) : Option Char :=
  if c.is '"' then some '"' else if c.is '\\' then some '\\' else if c.is '/' then some '/'
  else if c.is 'b' then some '\x08' else if c.is 'f' then some '\x0c'
  else if c.is 'n' then some '\n' else if c.is 'r' then some '\r'
  else if c.is 't' then some '\t' else none

/-- Joins a high surrogate with the escaped low surrogate that follows it, if one does. -/
def joinSurrogates (n : Nat) (rest : Text) : CodePoint × Text :=
  match rest with
  | a :: b :: more =>
    if 0xD800 ≤ n && n ≤ 0xDBFF && a.is '\\' && b.is 'u' then
      match hexFour? more with
      | some (m, more) =>
        if 0xDC00 ≤ m && m ≤ 0xDFFF then
          (.ofNat (0x10000 + (n - 0xD800) * 0x400 + (m - 0xDC00)), more)
        else (.ofNat n, rest)
      | none => (.ofNat n, rest)
    else (.ofNat n, rest)
  | _ => (.ofNat n, rest)

/-- Reads a string behind its opening quote, which `opening` still shows. -/
def readString (opening : Text) : (fuel : Nat) → Text → Read Text
  | 0, _ => .error ⟨.unterminatedString, opening⟩
  | _, [] => .error ⟨.unterminatedString, opening⟩
  | fuel + 1, c :: rest =>
    if c.is '"' then .ok ([], rest)
    else if c.is '\\' then
      match rest with
      | [] => .error ⟨.unterminatedString, opening⟩
      | e :: rest' =>
        if e.is 'u' then
          match hexFour? rest' with
          | none => .error ⟨.badUnicodeEscape, rest⟩
          | some (n, rest'') =>
            if rest''.isEmpty then .error ⟨.badUnicodeEscape, rest⟩
            else
              let (x, rest'') := joinSurrogates n rest''
              (readString opening fuel rest'').map fun (t, r) => (x :: t, r)
        else match shortEscape? e with
          | none => .error ⟨.badEscape, c :: rest⟩
          | some x => (readString opening fuel rest').map fun (t, r) => (.ofChar x :: t, r)
    else if c.val < 32 then .error ⟨.controlCharacter, c :: rest⟩
    else (readString opening fuel rest).map fun (t, r) => (c :: t, r)

/-- The digits at the start of a text, and the rest. -/
def takeDigits (t : Text) : Text × Text :=
  (t.takeWhile (·.isAsciiDigit), t.dropWhile (·.isAsciiDigit))

/-- The fraction at the start of a text, empty unless a digit follows the point. -/
def takeFraction : Text → Text × Text
  | p :: d :: rest =>
    if p.is '.' && d.isAsciiDigit then
      let (ds, rest') := takeDigits (d :: rest)
      (p :: ds, rest')
    else ([], p :: d :: rest)
  | t => ([], t)

/-- The exponent at the start of a text, empty unless a digit follows its mark and sign. -/
def takeExponent : Text → Text × Text
  | e :: rest =>
    if e.is 'e' || e.is 'E' then
      let (sign, rest') := match rest with
        | s :: more => if s.is '+' || s.is '-' then ([s], more) else ([], rest)
        | [] => ([], rest)
      let (ds, rest'') := takeDigits rest'
      if ds.isEmpty then ([], e :: rest) else (e :: sign ++ ds, rest'')
    else ([], e :: rest)
  | [] => ([], [])

/-- Reads a number. -/
def readNumber (t : Text) : Read Json :=
  let (sign, body) := match t with
    | c :: rest => if c.is '-' then ([c], rest) else ([], t)
    | [] => ([], t)
  let (whole, rest) := match body with
    | c :: rest => if c.is '0' then ([c], rest) else takeDigits body
    | [] => ([], body)
  if whole.isEmpty then .error ⟨.expectingValue, t⟩
  else
    let (fraction, rest) := takeFraction rest
    let (exponent, rest) := takeExponent rest
    if fraction.isEmpty && exponent.isEmpty then
      if whole.length > Text.digitLimit then .error ⟨.hugeNumber whole.length, t⟩
      else
        let n := Text.valueOf (whole.map fun c => c.val - 48)
        .ok (.int (if sign.isEmpty then (n : Int) else -(n : Int)), rest)
    else .ok (.real (sign ++ whole ++ fraction ++ exponent), rest)

/-- The words that are values. -/
def wordValues : List (Text × Json) :=
  [("null", .null), ("true", .bool true), ("false", .bool false), ("NaN", .real "NaN"),
   ("Infinity", .real "Infinity"), ("-Infinity", .real "-Infinity")]

mutual

/-- Reads a value at the start of a text. -/
def readValue : (fuel : Nat) → Text → Read Json
  | 0, t => .error ⟨.expectingValue, t⟩
  | fuel + 1, t =>
    match t with
    | [] => .error ⟨.expectingValue, t⟩
    | c :: rest =>
      if c.is '"' then (readString t (rest.length + 1) rest).map fun (s, r) => (.str s, r)
      else if c.is '\x7b' then
        match skipBlanks rest with
        | [] => .error ⟨.expectingName, []⟩
        | d :: more =>
          if d.is '\x7d' then .ok (.obj [], more)
          else (readMembers fuel (d :: more)).map fun (ms, r) => (.obj (entriesOf ms), r)
      else if c.is '[' then
        match skipBlanks rest with
        | [] => .error ⟨.expectingValue, []⟩
        | d :: more =>
          if d.is ']' then .ok (.arr [], more)
          else (readItems fuel (d :: more)).map fun (xs, r) => (.arr xs, r)
      else match wordValues.find? fun word => t.startsWith word.1 with
        | some (word, value) => .ok (value, t.drop word.length)
        | none => readNumber t

/-- Reads the members of an object up to its closing brace. -/
def readMembers : (fuel : Nat) → Text → Read (List (Text × Json))
  | 0, t => .error ⟨.expectingName, t⟩
  | fuel + 1, t =>
    match t with
    | [] => .error ⟨.expectingName, t⟩
    | c :: rest =>
      if !c.is '"' then .error ⟨.expectingName, t⟩
      else match readString t (rest.length + 1) rest with
        | .error stuck => .error stuck
        | .ok (name, rest) =>
          match skipBlanks rest with
          | [] => .error ⟨.expectingColon, []⟩
          | colon :: rest =>
            if !colon.is ':' then .error ⟨.expectingColon, colon :: rest⟩
            else match readValue fuel (skipBlanks rest) with
              | .error stuck => .error stuck
              | .ok (value, rest) =>
                match skipBlanks rest with
                | [] => .error ⟨.expectingComma, []⟩
                | d :: rest =>
                  if d.is '\x7d' then .ok ([(name, value)], rest)
                  else if !d.is ',' then .error ⟨.expectingComma, d :: rest⟩
                  else (readMembers fuel (skipBlanks rest)).map fun (ms, r) =>
                    ((name, value) :: ms, r)

/-- Reads the items of an array up to its closing bracket. -/
def readItems : (fuel : Nat) → Text → Read (List Json)
  | 0, t => .error ⟨.expectingValue, t⟩
  | fuel + 1, t =>
    match readValue fuel t with
    | .error stuck => .error stuck
    | .ok (value, rest) =>
      match skipBlanks rest with
      | [] => .error ⟨.expectingComma, []⟩
      | d :: rest =>
        if d.is ']' then .ok ([value], rest)
        else if !d.is ',' then .error ⟨.expectingComma, d :: rest⟩
        else (readItems fuel (skipBlanks rest)).map fun (xs, r) => (value :: xs, r)

end

/-- Why a text is no document, and on which line that shows. -/
structure ReadError where
  /-- What is wrong. -/
  fault : Fault
  /-- The line, counted from one. -/
  line : Nat
deriving DecidableEq, Repr

/-- The place of a fault in a text. -/
def Stuck.located (t : Text) (stuck : Stuck) : ReadError where
  fault := stuck.fault
  line := (t.take (t.length - stuck.rest.length)).countP (·.is '\n') + 1

/-- The document that a text writes. -/
def read (t : Text) : Except ReadError Json :=
  if t.startsWith [.ofNat 0xFEFF] then .error ⟨.byteOrderMark, 1⟩
  else match readValue (t.length + 1) (skipBlanks t) with
    | .error stuck => .error (stuck.located t)
    | .ok (value, rest) =>
      let rest := skipBlanks rest
      if rest.isEmpty then .ok value else .error (Stuck.located t ⟨.extraData, rest⟩)

end HookAudit.Json
