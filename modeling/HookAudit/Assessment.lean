/-
# HookAudit.Assessment — what a scan concludes about a hook.

An assessment holds capabilities, findings and a risk score from 0 to 100; the bound is part of the
type, so an assessment out of range cannot be built.  Assessments of the same hook are merged by
joining capabilities and findings and keeping the higher score.
-/
import HookAudit.Taxonomy

namespace HookAudit

/-- The highest risk score. -/
def maxRiskScore : Nat := 100

/-- The outcome of assessing one hook. -/
structure Assessment where
  /-- What the hook is able to do. -/
  capabilities : Capabilities := {}
  /-- What was found, in order. -/
  findings : List Text := []
  /-- The aggregate risk. -/
  riskScore : Nat := 0
  /-- Risk is capped. -/
  riskScore_le : riskScore ≤ maxRiskScore := by decide
deriving DecidableEq

/-- Why an assessment cannot be built. -/
inductive AssessmentError where
  /-- The score is no risk score. -/
  | scoreOutOfRange (score : Int)
deriving DecidableEq

/-- The wording of an error. -/
def AssessmentError.message : AssessmentError → Text
  | .scoreOutOfRange score => "risk_score must be within [0, 100], got " ++ Text.ofInt score

/-- The distinct members of a list, in the order of their first occurrence. -/
def distinct {α : Type} [BEq α] (xs : List α) : List α :=
  xs.foldl (fun seen x => if seen.contains x then seen else seen ++ [x]) []

namespace Assessment

/-- Nothing found. -/
def empty : Assessment := {}

/-- An assessment with a given score, which has to be a risk score. -/
def ofScore? (capabilities : Capabilities) (findings : List Text) (score : Int) :
    Except AssessmentError Assessment :=
  match score with
  | .ofNat n =>
    if h : n ≤ maxRiskScore then .ok ⟨capabilities, findings, n, h⟩
    else .error (.scoreOutOfRange score)
  | .negSucc _ => .error (.scoreOutOfRange score)

/-- An assessment whose score is a sum of weights, capped. -/
def capped (capabilities : Capabilities) (findings : List Text) (total : Nat) : Assessment :=
  ⟨capabilities, findings, min total maxRiskScore, Nat.min_le_right ..⟩

/-- Neither a finding nor any risk. -/
def isClean (a : Assessment) : Bool := a.riskScore == 0 && a.findings.isEmpty

/-- Two assessments of the same hook as one. -/
def merge (a b : Assessment) : Assessment where
  capabilities := a.capabilities.union b.capabilities
  findings := distinct (a.findings ++ b.findings)
  riskScore := max a.riskScore b.riskScore
  riskScore_le := Nat.max_le.2 ⟨a.riskScore_le, b.riskScore_le⟩

end Assessment

/-! ## Tiers -/

/-- The three tiers in which a risk score is shown. -/
inductive RiskLevel where
  | safe | warning | dangerous
deriving DecidableEq, Repr

namespace RiskLevel

/-- The tier of a score: dangerous from 70, a warning from 30. -/
def ofScore (score : Int) : RiskLevel :=
  if score ≥ 70 then dangerous else if score ≥ 30 then warning else safe

/-- The rank of a tier. -/
def rank : RiskLevel → Nat
  | safe => 1
  | warning => 2
  | dangerous => 3

/-- The name of a tier. -/
def name : RiskLevel → Text
  | safe => "SAFE"
  | warning => "WARNING"
  | dangerous => "DANGEROUS"

/-- The name of a tier in lower case. -/
def label : RiskLevel → Text
  | safe => "safe"
  | warning => "warning"
  | dangerous => "dangerous"

/-- The sign of a tier in the safety report. -/
def marker : RiskLevel → Text
  | safe => "✅"
  | warning => "⚠️"
  | dangerous => "🔴"

end RiskLevel

/-- The tier of an assessment. -/
def Assessment.level (a : Assessment) : RiskLevel := .ofScore a.riskScore

end HookAudit
