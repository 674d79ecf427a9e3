/-
# HookAudit.Proofs.Engine.Reordering — order and repetition do not matter.

The captures of a hook come in the order of the queries and, for each query, in the order in which
its matches are found, and the same piece may be captured any number of times.  The report on them
depends on none of that (`report_depends_on_capture_set`): not on the order or number of captures,
so not on the order or number of queries or of matches either.
-/
import HookAudit.Proofs.Detection
import HookAudit.Proofs.Engine.Preparation
import HookAudit.Proofs.Score.Invariance

namespace HookAudit.Engine

open Action Detection Score

variable {w w' : World} {s s' t t' : State} {lang : Language} {grammar grammar' : GrammarRef}
  {queries queries' : List NamedQuery} {source : Text.Octets} {limit : Int}

/-- **`SameFinds w grammar queries w' grammar' queries' source`** — up to order and repetition, the
queries are the same in two worlds, and each finds the same in the tree of the source text. -/
structure SameFinds (w : World) (grammar : GrammarRef) (queries : List NamedQuery) (w' : World)
    (grammar' : GrammarRef) (queries' : List NamedQuery) (source : Text.Octets) : Prop where
  sameQueries : ∀ q, q ∈ queries ↔ q ∈ queries'
  sameFound : ∀ q ∈ queries, ∀ found,
    found ∈ w.search q.compiled (w.parse grammar source) source ↔
      found ∈ w'.search q.compiled (w'.parse grammar' source) source

theorem SameFinds.mem_foundIn (h : SameFinds w grammar queries w' grammar' queries' source)
    {found : Found} :
    found ∈ foundIn w grammar queries source ↔ found ∈ foundIn w' grammar' queries' source := by
  unfold foundIn
  rw [List.mem_flatMap, List.mem_flatMap]
  constructor
  · rintro ⟨q, hq, hfound⟩
    exact ⟨q, (h.sameQueries q).mp hq, (h.sameFound q hq found).mp hfound⟩
  · rintro ⟨q, hq', hfound⟩
    have hq : q ∈ queries := (h.sameQueries q).mpr hq'
    exact ⟨q, hq, (h.sameFound q hq found).mpr hfound⟩

/-- The same finds are the same captures. -/
theorem SameFinds.mem_capturesIn (h : SameFinds w grammar queries w' grammar' queries' source)
    (c : Capture) :
    c ∈ capturesIn w grammar queries source limit ↔
      c ∈ capturesIn w' grammar' queries' source limit := by
  unfold capturesIn
  simp only [List.mem_filterMap, h.mem_foundIn]

/-- The same finds make the same assessment. -/
theorem SameFinds.ofCaptures_eq (h : SameFinds w grammar queries w' grammar' queries' source)
    (hplaced : PlacedByStart (foundIn w grammar queries source)) :
    Assessment.ofCaptures (capturesIn w grammar queries source limit) =
      Assessment.ofCaptures (capturesIn w' grammar' queries' source limit) :=
  ofCaptures_eq_of_same_captures hplaced.agreeing h.mem_capturesIn

/-- **`report_depends_on_capture_set`** — lists with the same captures have the same report, where
name and range decide the rest of a capture; in any case lists with the same names and ranges have
the same score, the same capabilities and the same counted names and ranges.  So two engines with
the same queries that find the same matches, in whichever order and however often, answer a request
by the same assessment. -/
theorem report_depends_on_capture_set :
    (∀ (A B : List Capture) (limit : Int), Agreeing A → (∀ c, c ∈ A ↔ c ∈ B) →
      report A limit = report B limit) ∧
    (∀ (A B : List Capture) (limit : Int),
      (∀ k, k ∈ A.map Capture.key ↔ k ∈ B.map Capture.key) →
      (report A limit).riskScore = (report B limit).riskScore ∧
        (report A limit).capabilities = (report B limit).capabilities ∧
        (report A limit).counted.map Capture.key = (report B limit).counted.map Capture.key) ∧
    ∀ (w w' : World) (s s' t t' : State) (lang : Language) (grammar grammar' : GrammarRef)
      (queries queries' : List NamedQuery) (content : Text),
      Prepares w s lang grammar queries t → Prepares w' s' lang grammar' queries' t' →
      s.config.snippetLength = s'.config.snippetLength →
      SameFinds w grammar queries w' grammar' queries' (Text.encode content) →
      PlacedByStart (foundIn w grammar queries (Text.encode content)) →
      ∃ assessment, (scanRequest content (some lang) w s).1 = .ok (.assessed assessment) ∧
        (scanRequest content (some lang) w' s').1 = .ok (.assessed assessment) := by
  refine ⟨?captures, ?keys, ?engine⟩
  case captures =>
    intro A B limit hagree hsame
    exact report_eq_of_same_captures hagree hsame limit
  case keys =>
    intro A B limit hsame
    exact report_keys_eq_of_same_keys hsame limit
  case engine =>
    intro w w' s s' t t' lang grammar grammar' queries queries' content hprepares hprepares' hlimit
      hsame hplaced
    refine ⟨_, hprepares.scanRequest_eq content, ?_⟩
    rw [hprepares'.scanRequest_eq content, ← hlimit, hsame.ofCaptures_eq hplaced]

/-- A query for calls. -/
def callQuery : NamedQuery := ⟨"bash/call", .text "call" ["danger.exec"]⟩

/-- A query for paths, which finds the call too. -/
def pathQuery : NamedQuery := ⟨"bash/path", .text "call path" ["danger.exec", "warn.fs"]⟩

/-- What the queries find in `rm -rf /`. -/
def shellFinds : List Cue :=
  [⟨"call", [("danger.exec", [⟨0, 8, 0, 0⟩])]⟩, ⟨"path", [("warn.fs", [⟨7, 8, 0, 7⟩])]⟩]

/-- Queries in another order and one of them twice, their matches the other way round. -/
theorem reversed_shell_finds_same_assessment :
    ∃ assessment,
      (scanRequest "rm -rf /" (some .bash) (rehearsal [] {} shellFinds)
        (shellEngine [callQuery, pathQuery])).1 = .ok (.assessed assessment) ∧
      (scanRequest "rm -rf /" (some .bash) (rehearsal [] {} shellFinds.reverse)
        (shellEngine [pathQuery, callQuery, pathQuery])).1 = .ok (.assessed assessment) := by
  have hplaced : PlacedByStart (foundIn (rehearsal [] {} shellFinds) (.language .bash)
      [callQuery, pathQuery] (Text.encode "rm -rf /")) := by
    unfold PlacedByStart
    decide
  have hsame : SameFinds (rehearsal [] {} shellFinds) (.language .bash) [callQuery, pathQuery]
      (rehearsal [] {} shellFinds.reverse) (.language .bash) [pathQuery, callQuery, pathQuery]
      (Text.encode "rm -rf /") := by
    refine ⟨?queries, ?found⟩
    case queries =>
      intro q
      simp only [List.mem_cons, List.not_mem_nil, or_false]
      rw [or_left_comm (b := q = callQuery), or_self]
    case found =>
      intro q hq found
      rcases List.mem_pair.mp hq with rfl | rfl
      · simp [rehearsal, callQuery]
      · simp [rehearsal, pathQuery]
  have hprepares := prepares_shellEngine (w := rehearsal [] {} shellFinds)
    (List.cons_ne_nil callQuery [pathQuery])
  have hprepares' := prepares_shellEngine (w := rehearsal [] {} shellFinds.reverse)
    (List.cons_ne_nil pathQuery [callQuery, pathQuery])
  have hlimit : (shellEngine [callQuery, pathQuery]).config.snippetLength =
      (shellEngine [pathQuery, callQuery, pathQuery]).config.snippetLength := by
    rw [shellEngine_config, shellEngine_config]
  exact report_depends_on_capture_set.2.2 _ _ _ _ _ _ .bash _ _ _ _ "rm -rf /" hprepares
    hprepares' hlimit hsame hplaced

end HookAudit.Engine
