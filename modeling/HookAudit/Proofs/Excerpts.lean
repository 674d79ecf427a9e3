/-
# HookAudit.Proofs.Excerpts — the snippet of a capture is of the text that its node covers.

Nodes count octets and snippets show code points.  A node that takes up the octets of a part of a
text cuts exactly these out of the whole, since the octets of a text are those of its parts in turn,
and they are read back as the part.  So what stands before the node, however many octets it takes,
does not move the snippet, and no code point is read in halves.
-/
import HookAudit.Proofs.Detection
import HookAudit.Proofs.Snippet
import HookAudit.Proofs.Text.Utf8

namespace HookAudit.Detection

open Text

variable {name : Text} {span : Span} {limit : Int} {before part : Text}

/-- **`Covers before part span`** — the node takes up the octets of a part of a text, which stands
behind `before`. -/
structure Covers (before part : Text) (span : Span) : Prop where
  start : span.start = encodedLength before
  stop : span.stop = encodedLength before + encodedLength part

/-- **`Covers.slice_encode`** — the node cuts out the octets of its part and no others. -/
theorem Covers.slice_encode (h : Covers before part span) (after : Text) :
    Node.slice (encode (before ++ part ++ after)) span = encode part := by
  have hstart : span.start = (encode before).length := h.start
  have hstop : span.stop = (encode (before ++ part)).length :=
    h.stop.trans (encodedLength_append before part).symm
  unfold Node.slice
  rw [encode_append, hstop, List.take_left, encode_append, hstart, List.drop_left]

/-- The capture of a covering node is at its place, with the snippet of its part. -/
theorem Covers.ofSpan_encode (h : Covers before part span) (after : Text) :
    ofSpan name span (encode (before ++ part ++ after)) limit =
      { name := name
        start := encodedLength before
        stop := (encodedLength before + encodedLength part : Nat)
        line := span.row + 1
        column := span.column + 1
        snippet := Snippet.normalize part.plain limit } := by
  unfold ofSpan
  rw [h.slice_encode, decodeLossy_encode, h.start, h.stop]

/-- A capture was made from a node with its range. -/
theorem exists_span_of_mem_captures {queries : List Query} {root : Node} {source : Octets}
    {capture : Capture} (h : capture ∈ captures queries root source limit) :
    ∃ span : Span, capture = ofSpan capture.name span source limit ∧
      capture.start = span.start ∧ capture.stop = span.stop := by
  obtain ⟨query, _, hmatch⟩ := List.mem_flatMap.mp h
  obtain ⟨m, _, hm⟩ := List.mem_filterMap.mp hmatch
  obtain ⟨name, span, _, rfl⟩ := ofMatch?_eq_some_iff.mp hm
  exact ⟨span, rfl, rfl, rfl⟩

/-- **`captures_show_what_they_cover`** — every text is encoded, read back with a question mark for
every surrogate and without a fault, and encoded part by part.  So however a text is split in three,
a match whose node covers the middle part has a capture there with the snippet of that part, and
every capture of the text that has this range has this snippet; nothing is in it but the part,
spaces and the dots of a cut. -/
theorem captures_show_what_they_cover :
    (∀ t : Text, decodeLossy (encode t) = t.plain ∧ decode (encode t) = .ok t.plain) ∧
    (∀ a b : Text, encode (a ++ b) = encode a ++ encode b) ∧
    ∀ (before part after : Text) (limit : Int),
      let source := encode (before ++ part ++ after)
      let start := encodedLength before
      let stop := start + encodedLength part
      (∀ found name span, Represents found name span → Covers before part span →
        ofMatch? found source limit =
          some ⟨name, start, stop, span.row + 1, span.column + 1,
            Snippet.normalize part.plain limit⟩) ∧
      (∀ queries root, ∀ capture ∈ captures queries root source limit,
        capture.start = start → capture.stop = stop →
          capture.snippet = Snippet.normalize part.plain limit) ∧
      ∀ c ∈ Snippet.normalize part.plain limit,
        c ∈ part.plain ∨ c = space ∨ c = .ofChar '.' := by
  refine ⟨fun t => ⟨decodeLossy_encode t, decode_encode t⟩, encode_append, ?parts⟩
  case parts =>
    intro before part after limit source start stop
    refine ⟨?one, ?all, fun c => Snippet.mem_normalize⟩
    case one =>
      intro found name span hfirst hcovers
      exact ofMatch?_eq_some_iff.mpr ⟨name, span, hfirst, hcovers.ofSpan_encode after⟩
    case all =>
      intro queries root capture hcapture hstart hstop
      obtain ⟨span, hspan, hfirst, hlast⟩ := exists_span_of_mem_captures hcapture
      have hcovers : Covers before part span :=
        ⟨Int.ofNat.inj (hfirst.symm.trans hstart), Int.ofNat.inj (hlast.symm.trans hstop)⟩
      rw [hspan, hcovers.ofSpan_encode after]

/-- Two and four octets before the node and a lone surrogate inside it. -/
theorem snippet_behind_wide_code_points :
    let before : Text := "é😀"
    let part : Text := ("x " : Text) ++ [CodePoint.ofNat 0xD800]
    let span : Span := ⟨6, 9, 0, 6⟩
    Covers before part span ∧
      ofMatch? [("danger.exec", [span])] (encode (before ++ part ++ "ü")) 10 =
        some ⟨"danger.exec", 6, 9, 1, 7, "x ?"⟩ := by
  intro before part span
  obtain ⟨-, -, hparts⟩ := captures_show_what_they_cover
  have hfirst : Represents [("danger.exec", [span])] "danger.exec" span :=
    ⟨[], [], [], rfl, by decide, by simp⟩
  have hcovers : Covers before part span := ⟨by decide, by decide⟩
  exact ⟨hcovers, (hparts before part "ü" 10).1 _ _ span hfirst hcovers⟩

end HookAudit.Detection
