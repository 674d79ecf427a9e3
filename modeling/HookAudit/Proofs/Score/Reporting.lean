/-
# HookAudit.Proofs.Score.Reporting — nothing captured goes unreported.

A capture may add nothing to a score: it may repeat another, or overlap a heavier one.  It still
shows in the assessment: the score is at least its weight, its capabilities are among those of the
assessment, and its finding is listed (`Reports`).  For the score this is what counting exactly
gives: what is left out overlaps something counted that weighs at least as much.

Reporting survives merging with any other assessment of the same hook.
-/
import HookAudit.Proofs.Capabilities
import HookAudit.Proofs.Score.Greedy
import Mathlib.Algebra.Order.BigOperators.Group.List
import Mathlib.Algebra.Order.Group.Nat

namespace HookAudit

namespace Assessment

/-- **`a.Reports c`** — an assessment shows a capture: its weight in the score, its capabilities,
both those of its category and those its name gives away, and its finding. -/
structure Reports (a : Assessment) (c : Capture) : Prop where
  score : severity c.name ≤ a.riskScore
  declared : (RiskCategory.classify c.name).capabilities.Within a.capabilities
  named : (Capabilities.ofRiskName c.name).Within a.capabilities
  finding : c.finding ∈ a.findings

/-- Merging with another assessment hides nothing. -/
theorem Reports.merge {a : Assessment} {c : Capture} (h : a.Reports c) (b : Assessment) :
    (a.merge b).Reports c where
  score := h.score.trans (Nat.le_max_left _ _)
  declared := h.declared.trans (Capabilities.within_union_left _ _)
  named := h.named.trans (Capabilities.within_union_left _ _)
  finding := mem_distinct.mpr (List.mem_append_left _ h.finding)

end Assessment

namespace Score

variable {captures : List Capture} {c : Capture}

/-- No single weight exceeds the cap. -/
theorem severity_le_maxRiskScore (name : Text) : severity name ≤ maxRiskScore := by
  unfold severity
  cases RiskCategory.classify name <;> decide

/-- A counted capture adds its weight. -/
theorem severity_le_total (h : c ∈ captures) : severity c.name ≤ total captures := by
  rw [total_eq_sum]
  exact List.le_sum_of_mem (List.mem_map_of_mem h)

/-- The total is at least the weight of every first capture, counted or not. -/
theorem severity_le_total_counted (hfirst : FirstOfKey captures c) :
    severity c.name ≤ total (counted captures) := by
  by_cases hc : c ∈ counted captures
  -- a capture that does not count is outweighed by one that does
  · exact severity_le_total hc
  · obtain ⟨k, hk, _, hheavier⟩ := exists_heavier_of_not_counted hfirst hc
    exact hheavier.trans (severity_le_total hk)

theorem capabilitiesOf_within (hfirst : FirstOfKey captures c) :
    ((RiskCategory.classify c.name).capabilitiesOf c.name).Within (capabilities captures) :=
  Capabilities.within_unions <| List.mem_map.mpr ⟨c, mem_unique_iff.mpr hfirst, rfl⟩

/-- An assessment shows the first capture of every key. -/
theorem reports_of_firstOfKey (hfirst : FirstOfKey captures c) :
    (Assessment.ofCaptures captures).Reports c := by
  have hwithin := capabilitiesOf_within hfirst
  refine ⟨?score, ?declared, ?named, ?finding⟩
  case score =>
    show severity c.name ≤ min (total (counted captures)) maxRiskScore
    exact Nat.le_min.mpr ⟨severity_le_total_counted hfirst, severity_le_maxRiskScore c.name⟩
  case declared => exact (Capabilities.within_union_left _ _).trans hwithin
  case named => exact (Capabilities.within_union_right _ _).trans hwithin
  case finding => exact mem_findings.mpr ⟨c, hfirst, rfl⟩

/-- **`reports_ofCaptures`** — where key decides the rest of a capture, an assessment shows every
capture it is made of. -/
theorem reports_ofCaptures (hagree : Agreeing captures) (hc : c ∈ captures) :
    (Assessment.ofCaptures captures).Reports c :=
  reports_of_firstOfKey (mem_unique_iff.mp ((mem_unique_of_agreeing hagree).mpr hc))

/-- Every finding of an assessment is that of a capture it is made of. -/
theorem exists_capture_of_mem_findings {finding : Text}
    (h : finding ∈ (Assessment.ofCaptures captures).findings) :
    ∃ c ∈ captures, c.finding = finding := by
  obtain ⟨c, hfirst, rfl⟩ := mem_findings.mp h
  exact ⟨c, hfirst.mem, rfl⟩

end Score

end HookAudit
