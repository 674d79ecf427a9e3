/-
# HookAudit.Regex.Reader — regular expressions in their usual notation.

Sequence, choice, repetition (greedy or reluctant, counted or not), groups, sets with ranges and
the classes of digits, blanks and word characters, assertions on positions, and flags for letter
case, lines and the dot, for the whole expression or for a group.  References to groups and
assertions on what follows or precedes are not read.
-/
import HookAudit.Regex.Basic
import HookAudit.Text.Number

namespace HookAudit.Regex

/-! ## Flags -/

/-- What holds for a part of an expression. -/
structure Flags where
  /-- Letters match in either case. -/
  ignoreCase : Bool := false
  /-- The ends of lines count as ends. -/
  lines : Bool := false
  /-- A dot matches newlines, too. -/
  dotAll : Bool := false

/-- The flags with one more. -/
def Flags.with? (f : Flags) (c : CodePoint) : Option Flags :=
  if c.is 'i' then Option.some { f with ignoreCase := true }
  else if c.is 'm' then Option.some { f with lines := true }
  else if c.is 's' then Option.some { f with dotAll := true }
  else if c.is 'u' then Option.some f
  else none

/-- Flags by their letters. -/
def Flags.add (f : Flags) : Text → Option Flags
  | [] => Option.some f
  | c :: rest => (f.with? c).bind fun f => f.add rest

/-! ## Escapes -/

/-- What an escape stands for inside and outside of sets. -/
def classEscape? (c : CodePoint) : Option SetItem :=
  if c.is 'd' then Option.some (.digit true) else if c.is 'D' then Option.some (.digit false)
  else if c.is 's' then Option.some (.blank true) else if c.is 'S' then Option.some (.blank false)
  else if c.is 'w' then Option.some (.word true) else if c.is 'W' then Option.some (.word false)
  else none

/-- The control that a letter stands for behind a backslash. -/
def controlEscape? (c : CodePoint) : Option Nat :=
  [('n', 10), ('t', 9), ('r', 13), ('f', 12), ('v', 11), ('a', 7), ('0', 0)].lookup c.toChar

/-- The number that exactly `n` hexadecimal digits spell, with the rest of the text. -/
def hexNumber? (n : Nat) (t : Text) : Option (Nat × Text) :=
  let digits := (t.take n).map CodePoint.hexDigit?
  if digits.length == n && digits.all (·.isSome) then
    Option.some (digits.foldl (fun v d => 16 * v + d.getD 0) 0, t.drop n)
  else none

/-- The code point that a text behind a backslash stands for, with the rest of the text. -/
def pointEscape? : Text → Option (Nat × Text)
  | [] => none
  | c :: rest =>
    if c.is 'x' then hexNumber? 2 rest
    else if c.is 'u' then hexNumber? 4 rest
    else if c.is 'U' then hexNumber? 8 rest
    else match controlEscape? c with
      | Option.some n => Option.some (n, rest)
      | none => if c.isAsciiLetter || c.isAsciiDigit then none else Option.some (c.val, rest)

/-! ## Sets -/

/-- One member of a set that may start a range: a code point, or else a class. -/
def setMember? : Text → Option ((Nat ⊕ SetItem) × Text)
  | [] => none
  | c :: rest =>
    if !c.is '\\' then Option.some (.inl c.val, rest)
    else match rest with
      | [] => none
      | d :: behind =>
        match classEscape? d with
        | Option.some item => Option.some (.inr item, behind)
        | none =>
          if d.is 'b' then Option.some (.inl 8, behind)
          else (pointEscape? rest).map fun (n, behind) => (.inl n, behind)

/-- The members of a set up to its closing bracket, which does not count at the very start. -/
def setItems? : (fuel : Nat) → (atStart : Bool) → Text → Option (List SetItem × Text)
  | 0, _, _ => none
  | _, _, [] => none
  | fuel + 1, atStart, c :: rest =>
    if c.is ']' && !atStart then Option.some ([], rest)
    else match setMember? (c :: rest) with
      | none => none
      | Option.some (.inr item, rest) =>
        (setItems? fuel false rest).map fun (items, rest) => (item :: items, rest)
      | Option.some (.inl low, rest) =>
        let single := (setItems? fuel false rest).map fun (items, rest) =>
          (SetItem.range low low :: items, rest)
        match rest with
        | dash :: next :: behind =>
          if dash.is '-' && !next.is ']' then
            match setMember? (next :: behind) with
            | Option.some (.inl high, rest) =>
              if high < low then none
              else (setItems? fuel false rest).map fun (items, rest) =>
                (.range low high :: items, rest)
            | _ => none
          else single
        | _ => single

/-- A set behind its opening bracket. -/
def set? (flags : Flags) (t : Text) : Option (Regex × Text) :=
  let (negated, t) := match t with
    | c :: rest => if c.is '^' then (true, rest) else (false, t)
    | [] => (false, t)
  (setItems? (t.length + 1) true t).map fun (items, rest) =>
    (one { negated, ignoreCase := flags.ignoreCase, items }, rest)

/-! ## Repetition -/

/-- A number of repetitions with a lower and perhaps an upper bound. -/
structure Bounds where
  low : Nat
  high : Option Nat

/-- The bounds between braces, if there are any. -/
def bounds? (t : Text) : Option (Bounds × Text) :=
  let inside := t.takeWhile fun c => c.isAsciiDigit || c.is ','
  match t.drop inside.length with
  | close :: rest =>
    if !close.is '\x7d' then none
    else match Text.splitOn ',' inside with
      | [n] => (Text.toNat? n).map fun n => (⟨n, Option.some n⟩, rest)
      | [low, high] =>
        if low.isEmpty && high.isEmpty then none
        else Option.some (⟨(Text.toNat? low).getD 0, Text.toNat? high⟩, rest)
      | _ => none
  | [] => none

/-- The repetition that a text starts with. -/
def repetition? : Text → Option (Bounds × Text)
  | [] => none
  | c :: rest =>
    if c.is '*' then Option.some (⟨0, none⟩, rest)
    else if c.is '+' then Option.some (⟨1, none⟩, rest)
    else if c.is '?' then Option.some (⟨0, Option.some 1⟩, rest)
    else if c.is '\x7b' then bounds? rest
    else none

/-- Up to `n` times. -/
def upTo (greedy : Bool) (r : Regex) : Nat → Regex
  | 0 => empty
  | n + 1 => if greedy then alt (seq r (upTo greedy r n)) empty
    else alt empty (seq r (upTo greedy r n))

/-- An expression repeated. -/
def times (greedy : Bool) (b : Bounds) (r : Regex) : Regex :=
  let must := List.replicate b.low r
  match b.high with
  | none => seqs (must ++ [star greedy r])
  | Option.some high => seqs (must ++ [upTo greedy r (high - b.low)])

/-- An expression with the repetition behind it. -/
def repeated (r : Regex) (t : Text) : Regex × Text :=
  match repetition? t with
  | none => (r, t)
  | Option.some (b, rest) =>
    match rest with
    | c :: behind =>
      if c.is '?' then (times false b r, behind)
      else if c.is '+' then (times true b r, behind)
      else (times true b r, rest)
    | [] => (times true b r, rest)

/-! ## Expressions -/

/-- An assertion that a letter stands for behind a backslash. -/
def assertion? (c : CodePoint) : Option Regex :=
  if c.is 'b' then Option.some (boundary true) else if c.is 'B' then Option.some (boundary false)
  else if c.is 'A' then Option.some textStart else if c.is 'Z' then Option.some absoluteEnd
  else none

/-- One code point, case as the flags say. -/
def point (flags : Flags) (n : Nat) : Regex :=
  one { ignoreCase := flags.ignoreCase, items := [.range n n] }

/-- What a backslash and the text behind it stand for. -/
def escape? (flags : Flags) : Text → Option (Regex × Text)
  | [] => none
  | c :: rest =>
    match assertion? c, classEscape? c with
    | Option.some r, _ => Option.some (r, rest)
    | none, Option.some item => Option.some (one { items := [item] }, rest)
    | none, none => (pointEscape? (c :: rest)).map fun (n, rest) => (point flags n, rest)

/-- How a group starts: with the flags that hold inside and what stands behind them. -/
def groupHead? (flags : Flags) : Text → Option (Flags × Text)
  | mark :: kind :: rest =>
    if !mark.is '?' then Option.some (flags, mark :: kind :: rest)
    else if kind.is ':' then Option.some (flags, rest)
    else if kind.is 'P' then
      match rest with
      | c :: behind =>
        if c.is '<' then
          Option.some (flags, (behind.dropWhile fun c => !c.is '>').drop 1)
        else none
      | [] => none
    else
      let letters := (kind :: rest).takeWhile fun c => !c.is ':'
      match (kind :: rest).drop letters.length with
      | _ :: behind => (flags.add letters).map (·, behind)
      | [] => none
  | t => Option.some (flags, t)

mutual

/-- Reads alternatives up to a closing parenthesis or the end. -/
def alternatives? : (fuel : Nat) → Flags → Text → Option (Regex × Text)
  | 0, _, _ => none
  | fuel + 1, flags, t =>
    match sequence? fuel flags t with
    | none => none
    | Option.some (first, rest) =>
      match rest with
      | c :: behind =>
        if c.is '|' then
          (alternatives? fuel flags behind).map fun (others, rest) => (alt first others, rest)
        else Option.some (first, rest)
      | [] => Option.some (first, rest)

/-- Reads what stands one after the other. -/
def sequence? : (fuel : Nat) → Flags → Text → Option (Regex × Text)
  | 0, _, _ => none
  | _, _, [] => Option.some (empty, [])
  | fuel + 1, flags, c :: rest =>
    if c.is '|' || c.is ')' then Option.some (empty, c :: rest)
    else match atom? fuel flags c rest with
      | none => none
      | Option.some (r, rest) =>
        let (r, rest) := repeated r rest
        (sequence? fuel flags rest).map fun (others, rest) => (seq r others, rest)

/-- Reads the smallest part of an expression that can be repeated. -/
def atom? : (fuel : Nat) → Flags → CodePoint → Text → Option (Regex × Text)
  | 0, _, _, _ => none
  | fuel + 1, flags, c, rest =>
    if c.is '(' then
      match groupHead? flags rest with
      | none => none
      | Option.some (inner, inside) =>
        match alternatives? fuel inner inside with
        | Option.some (r, close :: behind) =>
          if close.is ')' then Option.some (r, behind) else none
        | _ => none
    else if c.is '[' then set? flags rest
    else if c.is '\\' then escape? flags rest
    else if c.is '.' then
      Option.some (if flags.dotAll then one { negated := true, items := [] } else dot, rest)
    else if c.is '^' then Option.some (if flags.lines then lineStart else textStart, rest)
    else if c.is '$' then Option.some (if flags.lines then lineEnd else textEnd, rest)
    else if c.is '*' || c.is '+' || c.is '?' then none
    else Option.some (point flags c.val, rest)

end

/-- The flags that hold for a whole expression, and what stands behind them. -/
def leadingFlags (t : Text) : Flags × Text :=
  match t with
  | open_ :: mark :: rest =>
    let letters := rest.takeWhile CodePoint.isAsciiLetter
    match open_.is '(' && mark.is '?' && !letters.isEmpty, rest.drop letters.length with
    | true, close :: behind =>
      if close.is ')' then
        match Flags.add {} letters with
        | Option.some flags => (flags, behind)
        | none => ({}, t)
      else ({}, t)
    | _, _ => ({}, t)
  | _ => ({}, t)

/-- The expression that a text writes. -/
def read? (t : Text) : Option Regex :=
  let (flags, body) := leadingFlags t
  match alternatives? (3 * body.length + 3) flags body with
  | Option.some (r, []) => Option.some r
  | _ => none

end HookAudit.Regex
