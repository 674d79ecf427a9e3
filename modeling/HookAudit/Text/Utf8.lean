/-
# HookAudit.Text.Utf8 — UTF-8 as an octet machine.

`encode` writes each code point in one to four octets; a surrogate, which has no encoding, is
written as a question mark, so every text has one.  Reading is a machine with two kinds of state:
between code points, or inside one with a range for the next octet.  The machine refuses an octet
as soon as it rules the sequence out, so a fault covers exactly the *maximal ill-formed part*: the
octets that still began a legal sequence, or the one octet that begins none.  `decodeLossy`
replaces each fault by U+FFFD; `decode` stops at the first.
-/
import HookAudit.Text.CodePoint

namespace HookAudit.Text

/-- The bytes of a text. -/
abbrev Octets := List UInt8

/-! ## Writing -/

/-- The octets of one scalar value, lead octet first. -/
def encodeScalar (n : Nat) : Octets :=
  if n < 0x80 then [n.toUInt8]
  else if n < 0x800 then [(0xC0 + n / 64).toUInt8, (0x80 + n % 64).toUInt8]
  else if n < 0x10000 then
    [(0xE0 + n / 4096).toUInt8, (0x80 + n / 64 % 64).toUInt8, (0x80 + n % 64).toUInt8]
  else
    [(0xF0 + n / 262144).toUInt8, (0x80 + n / 4096 % 64).toUInt8, (0x80 + n / 64 % 64).toUInt8,
      (0x80 + n % 64).toUInt8]

/-- The scalar value written for a code point: itself, or a question mark for a surrogate. -/
def scalarOf (c : CodePoint) : Nat := if c.isSurrogate then 0x3F else c.val

/-- The UTF-8 octets of a text. -/
def encode (t : Text) : Octets := t.flatMap fun c => encodeScalar (scalarOf c)

/-- The number of octets of a text. -/
def encodedLength (t : Text) : Nat := (encode t).length

/-! ## Reading -/

/-- Why octets are no UTF-8. -/
inductive DecodeReason where
  /-- No sequence begins with this octet. -/
  | start
  /-- The octet after this beginning continues no sequence. -/
  | continuation
  /-- The text ends inside a sequence. -/
  | truncated
deriving DecidableEq, Repr

/-- What the machine reports: a code point, or a fault, with the number of octets it covers. -/
inductive DecodeEvent where
  /-- A code point was read. -/
  | scalar (c : CodePoint) (size : Nat)
  /-- An ill-formed part was passed over. -/
  | fault (reason : DecodeReason) (size : Nat)

/-- Where the machine stands. -/
inductive DecodeState where
  /-- Between code points. -/
  | start
  /-- Inside a code point: `size` octets read with value `value`, `more` octets to come after the
  next one, which lies in the range from `low` to `high`. -/
  | inside (size value more low high : Nat)

/-- The machine reads an octet between code points. -/
def decodeLead (b : Nat) : List DecodeEvent × DecodeState :=
  if b < 0x80 then ([.scalar (.ofNat b) 1], .start)
  else if b < 0xC2 then ([.fault .start 1], .start)
  else if b < 0xE0 then ([], .inside 1 (b - 0xC0) 0 0x80 0xBF)
  else if b < 0xF0 then
    ([], .inside 1 (b - 0xE0) 1 (if b == 0xE0 then 0xA0 else 0x80)
      (if b == 0xED then 0x9F else 0xBF))
  else if b < 0xF5 then
    ([], .inside 1 (b - 0xF0) 2 (if b == 0xF0 then 0x90 else 0x80)
      (if b == 0xF4 then 0x8F else 0xBF))
  else ([.fault .start 1], .start)

/-- The machine reads one octet. -/
def decodeStep : DecodeState → Nat → List DecodeEvent × DecodeState
  | .start, b => decodeLead b
  | .inside size value more low high, b =>
    if low ≤ b && b ≤ high then
      let value := value * 64 + (b - 0x80)
      match more with
      | 0 => ([.scalar (.ofNat value) (size + 1)], .start)
      | more + 1 => ([], .inside (size + 1) value more 0x80 0xBF)
    else
      let (events, state) := decodeLead b
      (.fault .continuation size :: events, state)

/-- Everything the machine reports on a sequence of octets. -/
def decodeEvents : DecodeState → Octets → List DecodeEvent
  | .start, [] => []
  | .inside size _ _ _ _, [] => [.fault .truncated size]
  | state, b :: rest =>
    let (events, state) := decodeStep state b.toNat
    events ++ decodeEvents state rest

/-- The text of a sequence of octets, each ill-formed part read as U+FFFD. -/
def decodeLossy (octets : Octets) : Text :=
  (decodeEvents .start octets).map fun
    | .scalar c _ => c
    | .fault _ _ => .ofNat 0xFFFD

/-- The first ill-formed part of a sequence of octets. -/
structure DecodeFault where
  /-- The offset of its first octet. -/
  offset : Nat
  /-- How many octets it covers. -/
  size : Nat
  /-- Its first octet. -/
  octet : Nat
  /-- What is wrong with it. -/
  reason : DecodeReason
deriving DecidableEq, Repr

/-- Collects code points until a fault. -/
def collectScalars (octets : Octets) : Nat → List DecodeEvent → Except DecodeFault Text
  | _, [] => .ok []
  | offset, .scalar c size :: rest =>
    match collectScalars octets (offset + size) rest with
    | .ok t => .ok (c :: t)
    | .error fault => .error fault
  | offset, .fault reason size :: _ =>
    .error ⟨offset, size, ((octets.drop offset).head?.getD 0).toNat, reason⟩

/-- The text of a sequence of octets, or its first ill-formed part. -/
def decode (octets : Octets) : Except DecodeFault Text :=
  collectScalars octets 0 (decodeEvents .start octets)

/-- The wording of a fault. -/
def DecodeReason.message : DecodeReason → Text
  | .start => "invalid start byte"
  | .continuation => "invalid continuation byte"
  | .truncated => "unexpected end of data"

/-- The wording of a fault with its place: one octet is shown, several are numbered. -/
def DecodeFault.message (fault : DecodeFault) : Text :=
  let place : Text :=
    if fault.size == 1 then
      "byte 0x" ++ ofHex 2 fault.octet ++ " in position " ++ ofNat fault.offset
    else
      "bytes in position " ++ ofNat fault.offset ++ "-" ++ ofNat (fault.offset + fault.size - 1)
  "'utf-8' codec can't decode " ++ place ++ ": " ++ fault.reason.message

end HookAudit.Text
