/-
# HookAudit.Proofs.Scanner.Unmasked — no match is ever masked.

Between a match and what a user reads lie the choice of its capture, the dropping of repetitions,
the counting of ranges, the cap, the join of capabilities, the dropping of equal findings and the
merge with the heuristics.  Any of them could lose a match that others overlap, repeat or outweigh.
None does: `no_match_is_masked`.

One fact about trees is used, that the first byte of a node decides its row and column.  Without it
two nodes with one range and different places would be one capture with two findings.
-/
import HookAudit.Proofs.Detection
import HookAudit.Proofs.Engine.Preparation
import HookAudit.Proofs.Scanner.Hook
import HookAudit.Proofs.Score.Reporting

namespace HookAudit

open Detection Engine

/-- **`a.ShowsMatches matched source limit`** — an assessment shows every match with a risk, by the
capture of its first risk. -/
def Assessment.ShowsMatches (a : Assessment) (matched : List Found) (source : Text.Octets)
    (limit : Int) : Prop :=
  ∀ found ∈ matched, (∃ p ∈ found, Risky p) →
    ∃ name span, Represents found name span ∧ a.Reports (ofSpan name span source limit)

/-- **`a.OnlyShows matched source limit`** — every finding of an assessment is that of the first
risk of some match. -/
def Assessment.OnlyShows (a : Assessment) (matched : List Found) (source : Text.Octets)
    (limit : Int) : Prop :=
  ∀ finding ∈ a.findings, ∃ found ∈ matched, ∃ name span, Represents found name span ∧
    (ofSpan name span source limit).finding = finding

namespace Detection

variable {matched : List Found} {source : Text.Octets} {limit : Int}

theorem showsMatches_ofCaptures (hplaced : PlacedByStart matched) :
    (Assessment.ofCaptures <| matched.filterMap fun found =>
      ofMatch? found source limit).ShowsMatches matched source limit := by
  intro found hfound hrisky
  obtain ⟨name, span, hfirst⟩ := exists_represents hrisky
  refine ⟨name, span, hfirst, ?_⟩
  apply Score.reports_ofCaptures hplaced.agreeing
  exact mem_captures.mpr ⟨found, hfound, name, span, hfirst, rfl⟩

theorem onlyShows_ofCaptures :
    (Assessment.ofCaptures <| matched.filterMap fun found =>
      ofMatch? found source limit).OnlyShows matched source limit := by
  intro finding hfinding
  obtain ⟨c, hc, rfl⟩ := Score.exists_capture_of_mem_findings hfinding
  obtain ⟨found, hfound, name, span, hfirst, rfl⟩ := mem_captures.mp hc
  exact ⟨found, hfound, name, span, hfirst, rfl⟩

end Detection

theorem Assessment.ShowsMatches.merge {a : Assessment} {matched : List Found}
    {source : Text.Octets} {limit : Int} (h : a.ShowsMatches matched source limit)
    (b : Assessment) : (a.merge b).ShowsMatches matched source limit := by
  intro found hfound hrisky
  obtain ⟨name, span, hfirst, hreports⟩ := h found hfound hrisky
  exact ⟨name, span, hfirst, hreports.merge b⟩

namespace Scanner

/-- **`no_match_is_masked`** — an assessment by the engine rests on a grammar and queries; and
whatever grammar and queries there are, and whatever they find, the engine's assessment shows every
match with a risk and lists no finding but theirs.  Within the size limit the scanner's assessment
of the hook shows them too. -/
theorem no_match_is_masked (w : World) (s : State) (content : Text) (lang : Language) :
    let source := Text.encode content
    let limit := s.config.snippetLength
    (∀ assessment, (scanRequest content (some lang) w s).1 = .ok (.assessed assessment) →
      ∃ grammar queries s', Prepares w s lang grammar queries s') ∧
    ∀ grammar queries s', Prepares w s lang grammar queries s' →
      let matched := foundIn w grammar queries source
      ∃ assessment, (scanRequest content (some lang) w s).1 = .ok (.assessed assessment) ∧
        assessment.OnlyShows matched source limit ∧
        (PlacedByStart matched → assessment.ShowsMatches matched source limit) ∧
        ∀ config filename requested, languageOf content requested filename = .ok (some lang) →
          (Text.encodedLength content : Int) ≤ config.maxContentBytes →
          ∃ merged, (scanHook config scan content filename requested w s).1 = .ok merged ∧
            (PlacedByStart matched → merged.ShowsMatches matched source limit) := by
  intro source limit
  refine ⟨?rests, ?shows⟩
  case rests =>
    intro assessment hscan
    obtain ⟨grammar, queries, s', hprepares, _⟩ := scanRequest_eq_assessed_iff.mp hscan
    exact ⟨grammar, queries, s', hprepares⟩
  case shows =>
    intro grammar queries s' hprepares matched
    have hscan := hprepares.scanRequest_eq content
    refine ⟨_, hscan, onlyShows_ofCaptures, showsMatches_ofCaptures, ?_⟩
    intro config filename requested hlang hsize
    rw [← scan_eq_scanRequest hlang] at hscan
    refine ⟨_, scanHook_of_assessed hsize hscan, ?_⟩
    intro hplaced
    exact (showsMatches_ofCaptures hplaced).merge _

/-- A query that finds a call and, inside its range, an argument. -/
def nestedQuery : NamedQuery := ⟨"bash/call", .text "call" ["cmd", "danger.exec", "warn.fs"]⟩

/-- What the query finds in `rm -rf /`: the call by its helper and its risk, then the path. -/
def nestedFinds : List Cue :=
  [⟨"call", [("cmd", [⟨0, 2, 0, 0⟩]), ("danger.exec", [⟨0, 8, 0, 0⟩])]⟩,
   ⟨"call", [("warn.fs", [⟨7, 8, 0, 7⟩])]⟩]

/-- The path inside the call is shown although the call outweighs it. -/
theorem nested_path_is_shown :
    let w := rehearsal [] {} nestedFinds
    let content : Text := "rm -rf /"
    let matched := foundIn w (.language .bash) [nestedQuery] (Text.encode content)
    PlacedByStart matched ∧
      ∃ merged,
        (scanHook {} scan content (some "hook.sh") none w (shellEngine [nestedQuery])).1 =
          .ok merged ∧
        merged.ShowsMatches matched (Text.encode content) Snippet.defaultLimit := by
  intro w content matched
  have hprepares := prepares_shellEngine (w := w) (List.cons_ne_nil nestedQuery [])
  have hplaced : PlacedByStart matched := by
    unfold PlacedByStart
    decide
  obtain ⟨_, _, _, _, hmerged⟩ :=
    (no_match_is_masked w (shellEngine [nestedQuery]) content .bash).2 _ _ _ hprepares
  obtain ⟨merged, hscan, hshows⟩ := hmerged {} (some "hook.sh") none (by decide) (by decide)
  exact ⟨hplaced, merged, hscan, hshows hplaced⟩

end Scanner

end HookAudit
