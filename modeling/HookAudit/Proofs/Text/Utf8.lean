/-
# HookAudit.Proofs.Text.Utf8 — what is written can be read back.

The machine that reads octets reports one code point for the octets of each code point that was
written, and no fault (`decodeEvents_encode`): behind the octets of a code point it stands between
code points again, with whatever follows still to come.  So a text is read back as it was written,
by both ways of reading (`decode_encode`, `decodeLossy_encode`), with a question mark for every
surrogate.  The number of octets is a sum over the code points (`encodedLength_eq`).
-/
import HookAudit.Sum
import HookAudit.Text.Utf8
import Mathlib.Data.List.Basic
import Mathlib.Tactic.SplitIfs

namespace HookAudit

namespace CodePoint

/-- What is written of a code point: itself, or a question mark for a surrogate. -/
def plain (c : CodePoint) : CodePoint := if c.isSurrogate then .ofChar '?' else c

/-- How many octets a code point takes. -/
def octetCount (c : CodePoint) : Nat :=
  if c.val < 0x80 ∨ c.isSurrogate then 1
  else if c.val < 0x800 then 2
  else if c.val < 0x10000 then 3
  else 4

theorem ofNat_val (c : CodePoint) : CodePoint.ofNat c.val = c := dif_pos c.isLt

theorem isSurrogate_plain (c : CodePoint) : c.plain.isSurrogate = false := by
  unfold plain
  split
  · decide
  · rename_i h
    simpa using h

theorem octetCount_plain (c : CodePoint) : c.plain.octetCount = c.octetCount := by
  unfold plain
  split
  · rename_i h
    unfold octetCount
    rw [if_pos (by decide), if_pos (.inr h)]
  · rfl

end CodePoint

namespace Text

/-- A text as it is written, with a question mark for every surrogate. -/
def plain (t : Text) : Text := t.map CodePoint.plain

/-! ## Writing -/

theorem scalarOf_eq (c : CodePoint) : scalarOf c = c.plain.val := by
  unfold scalarOf CodePoint.plain
  split <;> rfl

theorem length_encodeScalar {c : CodePoint} (h : c.isSurrogate = false) :
    (encodeScalar c.val).length = c.octetCount := by
  unfold encodeScalar CodePoint.octetCount
  simp only [h, Bool.false_eq_true, or_false]
  split_ifs <;> rfl

theorem encode_cons (c : CodePoint) (t : Text) :
    encode (c :: t) = encodeScalar c.plain.val ++ encode t := by
  show encodeScalar (scalarOf c) ++ encode t = _
  rw [scalarOf_eq]

theorem encode_append (a b : Text) : encode (a ++ b) = encode a ++ encode b :=
  List.flatMap_append

/-- **`encodedLength_eq`** — every code point takes its octets, whatever stands beside it. -/
theorem encodedLength_eq (t : Text) : encodedLength t = sumOf CodePoint.octetCount t := by
  unfold encodedLength
  induction t with
  | nil => rfl
  | cons c t ih =>
    rw [encode_cons, List.length_append, length_encodeScalar c.isSurrogate_plain,
      c.octetCount_plain, ih]
    rfl

theorem encodedLength_append (a b : Text) :
    encodedLength (a ++ b) = encodedLength a + encodedLength b := by
  unfold encodedLength
  rw [encode_append, List.length_append]

/-! ## The machine, octet by octet -/

theorem toNat_toUInt8 {n : Nat} (h : n < 256) : n.toUInt8.toNat = n := by
  simp [Nat.toUInt8, h]

theorem decodeEvents_cons (state : DecodeState) (b : UInt8) (rest : Octets) :
    decodeEvents state (b :: rest) =
      (decodeStep state b.toNat).1 ++ decodeEvents (decodeStep state b.toNat).2 rest := by
  cases state <;> rfl

/-! ### Lead octets -/

theorem decodeLead_two {k : Nat} (hlow : 2 ≤ k) (hhigh : k < 32) :
    decodeLead (0xC0 + k) = ([], .inside 1 k 0 0x80 0xBF) := by
  unfold decodeLead
  rw [if_neg (by omega), if_neg (by omega), if_pos (by omega), Nat.add_sub_cancel_left]

theorem decodeLead_three {k : Nat} (hhigh : k < 16) :
    decodeLead (0xE0 + k) =
      ([], .inside 1 k 1 (if k = 0 then 0xA0 else 0x80) (if k = 13 then 0x9F else 0xBF)) := by
  unfold decodeLead
  rw [if_neg (by omega), if_neg (by omega), if_neg (by omega), if_pos (by omega),
    Nat.add_sub_cancel_left]
  have hfirst : 0xE0 + k = 0xE0 ↔ k = 0 := by omega
  have hlast : 0xE0 + k = 0xED ↔ k = 13 := by omega
  simp only [beq_iff_eq, hfirst, hlast]

theorem decodeLead_four {k : Nat} (hhigh : k < 5) :
    decodeLead (0xF0 + k) =
      ([], .inside 1 k 2 (if k = 0 then 0x90 else 0x80) (if k = 4 then 0x8F else 0xBF)) := by
  unfold decodeLead
  rw [if_neg (by omega), if_neg (by omega), if_neg (by omega), if_neg (by omega),
    if_pos (by omega), Nat.add_sub_cancel_left]
  have hfirst : 0xF0 + k = 0xF0 ↔ k = 0 := by omega
  have hlast : 0xF0 + k = 0xF4 ↔ k = 4 := by omega
  simp only [beq_iff_eq, hfirst, hlast]

theorem decodeEvents_lead {b : Nat} {state : DecodeState} (hb : b < 256)
    (hlead : decodeLead b = ([], state)) (rest : Octets) :
    decodeEvents .start (b.toUInt8 :: rest) = decodeEvents state rest := by
  rw [decodeEvents_cons, toNat_toUInt8 hb]
  show (decodeLead b).1 ++ decodeEvents (decodeLead b).2 rest = _
  rw [hlead]
  rfl

/-! ### Octets that go on -/

section Continuation

variable {size value low high k : Nat} (hlow : low ≤ 0x80 + k) (hhigh : 0x80 + k ≤ high)
  (hk : k < 64) (rest : Octets)

include hlow hhigh hk

theorem decodeEvents_more {more : Nat} :
    decodeEvents (.inside size value (more + 1) low high) ((0x80 + k).toUInt8 :: rest) =
      decodeEvents (.inside (size + 1) (value * 64 + k) more 0x80 0xBF) rest := by
  rw [decodeEvents_cons, toNat_toUInt8 (by omega)]
  simp [decodeStep, hlow, hhigh]

theorem decodeEvents_last :
    decodeEvents (.inside size value 0 low high) ((0x80 + k).toUInt8 :: rest) =
      .scalar (.ofNat (value * 64 + k)) (size + 1) :: decodeEvents .start rest := by
  rw [decodeEvents_cons, toNat_toUInt8 (by omega)]
  simp [decodeStep, hlow, hhigh]

end Continuation

/-! ## Reading what was written -/

/-- **`decodeEvents_encodeScalar`** — the octets of a code point are read as this code point, and
the machine is ready for the next. -/
theorem decodeEvents_encodeScalar {c : CodePoint} (hplain : c.isSurrogate = false) (rest : Octets) :
    decodeEvents .start (encodeScalar c.val ++ rest) =
      .scalar c c.octetCount :: decodeEvents .start rest := by
  obtain ⟨n, hn⟩ := c
  have hval : CodePoint.ofNat n = ⟨n, hn⟩ := CodePoint.ofNat_val ⟨n, hn⟩
  -- the ranges for a second octet shut out surrogates and shorter spellings, and no more
  have hrange : ¬ (0xD800 ≤ n ∧ n ≤ 0xDFFF) := by
    simpa [CodePoint.isSurrogate] using hplain
  unfold CodePoint.octetCount encodeScalar
  simp only [hplain, Bool.false_eq_true, or_false]
  split_ifs with hone htwo hthree
  · show decodeEvents .start (n.toUInt8 :: rest) = _
    rw [decodeEvents_cons, toNat_toUInt8 (by omega)]
    simp [decodeStep, decodeLead, hone, hval]
  · show decodeEvents .start ((0xC0 + n / 64).toUInt8 :: (0x80 + n % 64).toUInt8 :: rest) = _
    rw [decodeEvents_lead (by omega) (decodeLead_two (by omega) (by omega)),
      decodeEvents_last (by omega) (by omega) (by omega), Nat.div_add_mod', hval]
  · show decodeEvents .start ((0xE0 + n / 4096).toUInt8 :: (0x80 + n / 64 % 64).toUInt8 ::
      (0x80 + n % 64).toUInt8 :: rest) = _
    have hnumber : (n / 4096 * 64 + n / 64 % 64) * 64 + n % 64 = n := by omega
    rw [decodeEvents_lead (by omega) (decodeLead_three (by omega)),
      decodeEvents_more (by split <;> omega) (by split <;> omega) (by omega),
      decodeEvents_last (by omega) (by omega) (by omega), hnumber, hval]
  · show decodeEvents .start ((0xF0 + n / 262144).toUInt8 :: (0x80 + n / 4096 % 64).toUInt8 ::
      (0x80 + n / 64 % 64).toUInt8 :: (0x80 + n % 64).toUInt8 :: rest) = _
    have hnumber : ((n / 262144 * 64 + n / 4096 % 64) * 64 + n / 64 % 64) * 64 + n % 64 = n := by
      omega
    rw [decodeEvents_lead (by omega) (decodeLead_four (by omega)),
      decodeEvents_more (by split <;> omega) (by split <;> omega) (by omega),
      decodeEvents_more (by omega) (by omega) (by omega),
      decodeEvents_last (by omega) (by omega) (by omega), hnumber, hval]

/-- **`decodeEvents_encode`** — what was written is read without a fault, code point by code
point. -/
theorem decodeEvents_encode (t : Text) :
    decodeEvents .start (encode t) = t.map fun c => .scalar c.plain c.octetCount := by
  induction t with
  | nil => rfl
  | cons c t ih =>
    rw [encode_cons, decodeEvents_encodeScalar c.isSurrogate_plain, ih, c.octetCount_plain]
    rfl

theorem decodeLossy_encode (t : Text) : decodeLossy (encode t) = t.plain := by
  unfold decodeLossy plain
  rw [decodeEvents_encode, List.map_map]
  rfl

theorem collectScalars_scalars (octets : Octets) (offset : Nat) (t : Text) :
    collectScalars octets offset (t.map fun c => .scalar c.plain c.octetCount) = .ok t.plain := by
  induction t generalizing offset with
  | nil => rfl
  | cons c t ih =>
    rw [List.map_cons, collectScalars, ih]
    rfl

theorem decode_encode (t : Text) : decode (encode t) = .ok t.plain := by
  unfold decode
  rw [decodeEvents_encode]
  exact collectScalars_scalars _ _ t

end Text

end HookAudit
