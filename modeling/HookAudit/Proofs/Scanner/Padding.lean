/-
# HookAudit.Proofs.Scanner.Padding — what more lines can hide.

Whoever adds lines above and below a text can keep the engine from having an opinion, and can make a
family of the heuristics occur less often.  He cannot make it occur no more: no expression of the
catalogue asks about the ends of the whole text (`families_isLocal`).  As the heuristics have their
say in every assessment, an assessment of the longer text shows all that the heuristics show of the
text in its middle (`padding_hides_nothing`), also where the size limit leaves them alone with it.
-/
import HookAudit.Engine.Installed
import HookAudit.Engine.Scan
import HookAudit.Proofs.Capabilities
import HookAudit.Proofs.Heuristics
import HookAudit.Proofs.Regex.Lines
import HookAudit.Proofs.FirstCome
import HookAudit.Proofs.Scanner.Hook

namespace HookAudit

variable {content t : Text} {a b : Assessment}

/-! ## Covering -/

/-- **`a.Covers content`** — the assessment shows at least what the heuristics show of the
content. -/
structure Assessment.Covers (a : Assessment) (content : Text) : Prop where
  score : (Heuristics.scan content).riskScore ≤ a.riskScore
  level : (Heuristics.scan content).level.rank ≤ a.level.rank
  capabilities : (Heuristics.scan content).capabilities.Within a.capabilities
  families : ∀ hit ∈ Heuristics.hits content,
    ∃ n, 0 < n ∧ Heuristics.finding hit.1 n ∈ a.findings

/-- A higher score is shown in no lower tier. -/
theorem RiskLevel.rank_ofScore_le {score higher : Int} (h : score ≤ higher) :
    (ofScore score).rank ≤ (ofScore higher).rank := by
  unfold ofScore
  split_ifs <;> first | decide | omega

/-- Merging hides nothing. -/
theorem Assessment.Covers.merge (h : b.Covers content) : (a.merge b).Covers content := by
  have hscore : (Heuristics.scan content).riskScore ≤ (a.merge b).riskScore :=
    h.score.trans (Nat.le_max_right _ _)
  refine ⟨hscore, RiskLevel.rank_ofScore_le (Int.ofNat_le.mpr hscore),
    h.capabilities.trans (Capabilities.within_union_right _ _), fun hit hhit => ?_⟩
  obtain ⟨n, hpos, hmem⟩ := h.families hit hhit
  exact ⟨n, hpos, mem_distinct.mpr (List.mem_append_right _ hmem)⟩

namespace Heuristics

/-- What is reported of a text is reported of one in which all of its families occur. -/
theorem scan_covers (h : ∀ family ∈ families,
    0 < family.pattern.count content → 0 < family.pattern.count t) :
    (scan t).Covers content := by
  have hfamilies : ((hits content).map (·.1)).Sublist ((hits t).map (·.1)) := by
    rw [map_fst_hits, map_fst_hits]
    have hboth : families.filter (fun family => 0 < family.pattern.count content) =
        (families.filter fun family => 0 < family.pattern.count t).filter
          fun family => 0 < family.pattern.count content := by
      rw [List.filter_filter]
      refine List.filter_congr fun family hfamily => ?_
      simpa using h family hfamily
    rw [hboth]
    exact List.filter_sublist
  have hscore : (scan content).riskScore ≤ (scan t).riskScore := by
    have htotal := sumOf_le_of_sublist HeuristicFamily.weight hfamilies
    rw [sumOf_map, sumOf_map] at htotal
    exact Nat.le_min.mpr ⟨(Nat.min_le_left _ _).trans htotal, Nat.min_le_right _ _⟩
  have hshown : ∀ hit ∈ hits content, ∃ other ∈ hits t, other.1 = hit.1 :=
    fun hit hhit => List.mem_map.mp (hfamilies.subset (List.mem_map_of_mem hhit))
  refine ⟨hscore, RiskLevel.rank_ofScore_le (Int.ofNat_le.mpr hscore), ?_, fun hit hhit => ?_⟩
  · refine Capabilities.unions_within fun flags hflags => Capabilities.within_unions ?_
    obtain ⟨hit, hhit, rfl⟩ := List.mem_map.mp hflags
    obtain ⟨other, hother, hsame⟩ := hshown hit hhit
    exact List.mem_map.mpr ⟨other, hother, congrArg HeuristicFamily.capabilities hsame⟩
  · obtain ⟨other, hother, hsame⟩ := hshown hit hhit
    refine ⟨other.2, (mem_hits_iff.mp hother).2.2, List.mem_map.mpr ⟨other, hother, ?_⟩⟩
    exact congrArg (finding · other.2) hsame

/-- No family asks about the ends of the whole text. -/
theorem families_isLocal {family : HeuristicFamily} (h : family ∈ families) :
    family.pattern.isLocal = true := by
  have hall : ∀ family ∈ families, family.pattern.isLocal = true := by decide +kernel
  exact hall family h

end Heuristics

/-! ## Padding -/

/-- A text with lines above and below it. -/
def padded (above content below : Text) : Text := above ++ "\n" ++ content ++ "\n" ++ below

/-- The heuristics see a text among further lines. -/
theorem Heuristics.scan_padded_covers (above content below : Text) :
    (scan (padded above content below)).Covers content := by
  refine scan_covers fun family hfamily hoccurs => ?_
  have hlines : padded above content below =
      above ++ Regex.newline :: (content ++ Regex.newline :: below) := by
    simp [padded, Text.ofString, Regex.newline]
  rw [hlines]
  exact Regex.count_pos_inLines (families_isLocal hfamily) above below hoccurs

namespace Scanner

open Engine Action

/-- What a scan concludes covers what the heuristics cover. -/
theorem Concluded.covers {P : Assessment → Prop} (h : Concluded P t a)
    (hcovers : (Heuristics.scan t).Covers content) : a.Covers content := by
  cases h with
  | heuristic => exact hcovers
  | merged analysis => exact hcovers.merge

/-- Above the size limit the heuristics have the only say. -/
theorem scanHook_of_oversized {config : ScannerConfig} {analyst : Analyst}
    (hsize : config.maxContentBytes < Text.encodedLength content) (filename : Option Text)
    (requested : Option LanguageName) (w : World) (s : State) :
    (scanHook config analyst content filename requested w s).1 = .ok (Heuristics.scan content) :=
  congrArg Prod.fst (scanHook_above_limit hsize)

/-- **`padding_hides_nothing`** — whatever analyst is asked and whatever it says, an assessment of a
text with lines added above and below shows at least the score, the tier, the flags and the
families that the heuristics show of the text.  Where the lines make it too long for the analyst,
there is such an assessment. -/
theorem padding_hides_nothing (config : ScannerConfig) (analyst : Analyst) (filename : Option Text)
    (requested : Option LanguageName) (w : World) (s : State) (above content below : Text) :
    let answer :=
      (scanHook config analyst (padded above content below) filename requested w s).1
    (∀ a, answer = .ok a → a.Covers content) ∧
      (config.maxContentBytes < Text.encodedLength (padded above content below) →
        ∃ a, answer = .ok a ∧ a.Covers content) := by
  have hcovers := Heuristics.scan_padded_covers above content below
  have hany : Analyst.Promises analyst fun _ => True := fun _ _ _ _ _ _ _ _ _ => True.intro
  refine ⟨fun a ha => ?_, fun hsize => ⟨_, scanHook_of_oversized hsize _ _ _ _, hcovers⟩⟩
  exact (scanHook_promises hany config _ filename requested w s a ha).covers hcovers

/-- A text that writes to two files, by the catalogue. -/
def twoWrites : Text := "> > , 'w"

/-- A line above can make one occurrence of two, and still the family is shown, within the size
limit and above it. -/
theorem swallowed_writes_are_shown :
    (Heuristics.scan twoWrites).findings = ["fileSystemWrite: 2 occurrence(s)"] ∧
      (Heuristics.scan (padded "open(" twoWrites "")).findings =
        ["fileSystemWrite: 1 occurrence(s)"] ∧
      (scanHook {} Engine.scan (padded "open(" twoWrites "") none none (installed {} [])
          { config := {} }).1 = .ok (Heuristics.scan (padded "open(" twoWrites "")) ∧
      (Heuristics.scan (padded "open(" twoWrites "")).Covers twoWrites ∧
      ∃ a, (scanHook { maxContentBytes := 9 } Engine.scan (padded "open(" twoWrites "") none none
          (installed {} []) { config := {} }).1 = .ok a ∧ a.Covers twoWrites := by
  have hanswer : (scanHook {} Engine.scan (padded "open(" twoWrites "") none none (installed {} [])
      { config := {} }).1 = .ok (Heuristics.scan (padded "open(" twoWrites "")) := rfl
  obtain ⟨hcovers, -⟩ := padding_hides_nothing {} Engine.scan none none (installed {} [])
    { config := {} } "open(" twoWrites ""
  obtain ⟨-, hoversized⟩ := padding_hides_nothing { maxContentBytes := 9 } Engine.scan none none
    (installed {} []) { config := {} } "open(" twoWrites ""
  exact ⟨by decide +kernel, by decide +kernel, hanswer, hcovers _ hanswer,
    hoversized (by decide +kernel)⟩

end Scanner

end HookAudit
