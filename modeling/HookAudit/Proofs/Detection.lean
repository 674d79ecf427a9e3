/-
# HookAudit.Proofs.Detection — the capture that stands for a match.

A match lists captured names with their nodes.  Its first name that is a risk name and has a node
stands for it, with its first node: `Represents`.  A match with such a name always has a capture, a
match without one never has; helper names play no part.

Two captures with the same name and range come from nodes that start and end alike.  In a tree the
start of a node decides its row and column (`PlacedByStart`), so such captures are the same
altogether, which is what the report needs to see a set of captures.
-/
import HookAudit.Detection
import HookAudit.Proofs.Score.Unique

namespace HookAudit.Detection

variable {found : List (Text × List Span)} {name : Text} {span : Span} {source : Text.Octets}
  {limit : Int}

/-! ## The first risk -/

/-- A captured name that is a risk name and has a node. -/
def Risky (captured : Text × List Span) : Prop := isRiskName captured.1 = true ∧ captured.2 ≠ []

/-- **`Represents found name span`** — `name` is the first risk name with a node in a match, and
`span` the place of its first node. -/
def Represents (found : List (Text × List Span)) (name : Text) (span : Span) : Prop :=
  ∃ before more after, found = before ++ (name, span :: more) :: after ∧
    isRiskName name = true ∧ ∀ p ∈ before, ¬ Risky p

theorem represents_cons_of_not_risky {p : Text × List Span} (hp : ¬ Risky p) :
    Represents (p :: found) name span ↔ Represents found name span := by
  constructor
  · rintro ⟨before, more, after, hsplit, hrisk, hbefore⟩
    cases before with
    | nil =>
      obtain ⟨rfl, rfl⟩ := List.cons.inj hsplit
      exact absurd ⟨hrisk, List.cons_ne_nil _ _⟩ hp
    | cons q before =>
      obtain ⟨rfl, rfl⟩ := List.cons.inj hsplit
      exact ⟨before, more, after, rfl, hrisk, fun r hr => hbefore r (List.mem_cons_of_mem _ hr)⟩
  · rintro ⟨before, more, after, rfl, hrisk, hbefore⟩
    refine ⟨p :: before, more, after, rfl, hrisk, ?_⟩
    intro r hr
    rcases List.mem_cons.mp hr with rfl | hr
    · exact hp
    · exact hbefore r hr

theorem represents_cons_of_risky {first : Text} {node : Span} {more : List Span}
    (hrisk : isRiskName first = true) :
    Represents ((first, node :: more) :: found) name span ↔ first = name ∧ node = span := by
  constructor
  · rintro ⟨before, rest, after, hsplit, _, hbefore⟩
    cases before with
    | nil =>
      obtain ⟨hfirst, _⟩ := List.cons.inj hsplit
      exact ⟨(Prod.mk.inj hfirst).1, (List.cons.inj (Prod.mk.inj hfirst).2).1⟩
    | cons q before =>
      obtain ⟨rfl, _⟩ := List.cons.inj hsplit
      exact absurd ⟨hrisk, List.cons_ne_nil _ _⟩ (hbefore _ List.mem_cons_self)
  · rintro ⟨rfl, rfl⟩
    exact ⟨[], more, found, rfl, hrisk, by simp⟩

/-- **`representative?_eq_some_iff`** — what is looked for is the first risk. -/
theorem representative?_eq_some_iff :
    representative? found = some (name, span) ↔ Represents found name span := by
  fun_induction representative? found with
  | case1 => simp [Represents]
  | case2 first rest ih =>
    -- a name without a node is passed over, whatever it is
    have hbare : ¬ Risky (first, []) := fun h => h.2 rfl
    rw [represents_cons_of_not_risky hbare, ih]
  | case3 first node more rest hrisk =>
    rw [represents_cons_of_risky hrisk, Option.some.injEq, Prod.mk.injEq]
  | case4 first node more rest hhelper ih =>
    have hnot : ¬ Risky (first, node :: more) := fun h => hhelper h.1
    rw [represents_cons_of_not_risky hnot, ih]

/-- A match with a risk has a first one. -/
theorem exists_represents (h : ∃ p ∈ found, Risky p) :
    ∃ name span, Represents found name span := by
  induction found with
  | nil => simp at h
  | cons p found ih =>
    by_cases hp : Risky p
    · obtain ⟨first, nodes⟩ := p
      obtain ⟨node, more, rfl⟩ := List.exists_cons_of_ne_nil hp.2
      exact ⟨first, node, (represents_cons_of_risky hp.1).mpr ⟨rfl, rfl⟩⟩
    · have hrest : ∃ q ∈ found, Risky q := by simpa [hp] using h
      obtain ⟨name, span, hfirst⟩ := ih hrest
      exact ⟨name, span, (represents_cons_of_not_risky hp).mpr hfirst⟩

theorem ofMatch?_eq_some_iff {c : Capture} :
    ofMatch? found source limit = some c ↔
      ∃ name span, Represents found name span ∧ ofSpan name span source limit = c := by
  simp only [ofMatch?, Option.map_eq_some_iff, Prod.exists, representative?_eq_some_iff]

/-! ## Captures from one tree -/

variable {matched : List (List (Text × List Span))}

/-- The places of all nodes that some matches captured. -/
def spans (matched : List (List (Text × List Span))) : List Span :=
  matched.flatMap fun found => found.flatMap (·.2)

/-- **`PlacedByStart matched`** — among captured nodes, the first byte decides row and column. -/
def PlacedByStart (matched : List (List (Text × List Span))) : Prop :=
  ∀ a ∈ spans matched, ∀ b ∈ spans matched, a.start = b.start →
    a.row = b.row ∧ a.column = b.column

theorem Represents.mem_spans (h : Represents found name span) (hfound : found ∈ matched) :
    span ∈ spans matched := by
  obtain ⟨before, more, after, rfl, _⟩ := h
  refine List.mem_flatMap.mpr ⟨_, hfound, ?_⟩
  simp

/-- The captures of matches are those of their representatives. -/
theorem mem_captures {c : Capture} :
    c ∈ matched.filterMap (fun found => ofMatch? found source limit) ↔
      ∃ found ∈ matched, ∃ name span, Represents found name span ∧
        ofSpan name span source limit = c := by
  simp only [List.mem_filterMap, ofMatch?_eq_some_iff]

/-- Captures with one name and range are the same, if these ranges start at one place. -/
theorem ofSpan_eq_of_key_eq {name' : Text} {a b : Span}
    (hkey : (ofSpan name a source limit).key = (ofSpan name' b source limit).key)
    (hplaced : a.start = b.start → a.row = b.row ∧ a.column = b.column) :
    ofSpan name a source limit = ofSpan name' b source limit := by
  obtain ⟨hname, hrange⟩ := Prod.mk.inj hkey
  have hstart : a.start = b.start := Int.ofNat.inj (Prod.mk.inj hrange).1
  have hstop : a.stop = b.stop := Int.ofNat.inj (Prod.mk.inj hrange).2
  obtain ⟨hrow, hcolumn⟩ := hplaced hstart
  have hspan : a = b := by
    show Span.mk a.start a.stop a.row a.column = Span.mk b.start b.stop b.row b.column
    rw [hstart, hstop, hrow, hcolumn]
  have hname' : name = name' := hname
  rw [hspan, hname']

/-- **`PlacedByStart.agreeing`** — captures from one tree that share name and range are the same. -/
theorem PlacedByStart.agreeing (hplaced : PlacedByStart matched) :
    Score.Agreeing (matched.filterMap fun found => ofMatch? found source limit) := by
  intro c hc d hd hkey
  obtain ⟨found, hfound, name, a, ha, rfl⟩ := mem_captures.mp hc
  obtain ⟨found', hfound', name', b, hb, rfl⟩ := mem_captures.mp hd
  exact ofSpan_eq_of_key_eq hkey (hplaced a (ha.mem_spans hfound) b (hb.mem_spans hfound'))

end HookAudit.Detection
