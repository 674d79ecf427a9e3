/-
# HookAudit.Score — from captures to a risk score.

Captures with the same name and range count once.  The rest are visited by descending weight and
then by position, and a capture that overlaps one already counted adds nothing: each stretch of
source is counted once, at its most severe reading.  The score is the capped sum of the counted
weights.  Capabilities and findings come from all captures, counted or not.
-/
import HookAudit.Assessment
import HookAudit.Capture
import HookAudit.Sum

namespace HookAudit

/-- What scoring yields. -/
structure ScoreReport where
  /-- The capped score. -/
  riskScore : Int
  /-- What the captured pieces are able to do. -/
  capabilities : Capabilities
  /-- The distinct findings in source order. -/
  findings : List Text
  /-- The captures that added to the score, in source order. -/
  counted : List Capture
deriving DecidableEq

namespace Score

/-- The first capture of each name and range. -/
def unique (captures : List Capture) : List Capture :=
  captures.foldl
    (fun seen c => if seen.any (·.key == c.key) then seen else seen ++ [c]) []

/-- The order in which captures are counted: heavier first, then by position. -/
def countingLe (a b : Capture) : Bool :=
  if severity a.name != severity b.name then severity a.name > severity b.name
  else a.positionLe b

/-- Visits captures in counting order and keeps those that overlap none kept before. -/
def select (captures : List Capture) : List Capture :=
  captures.foldl
    (fun kept c => if kept.any fun k => c.overlaps k.start k.stop then kept else kept ++ [c]) []

/-- The captures that add to the score. -/
def counted (captures : List Capture) : List Capture :=
  (select ((unique captures).mergeSort countingLe)).mergeSort Capture.positionLe

/-- The sum of the weights of captures. -/
def total (captures : List Capture) : Nat := sumOf (fun c => severity c.name) captures

/-- The capabilities of all captures. -/
def capabilities (captures : List Capture) : Capabilities :=
  Capabilities.unions <| (unique captures).map fun c =>
    (RiskCategory.classify c.name).capabilitiesOf c.name

/-- The distinct findings of all captures in source order. -/
def findings (captures : List Capture) : List Text :=
  distinct (((unique captures).mergeSort Capture.positionLe).map Capture.finding)

/-- The report on a list of captures, with the score capped at `limit`. -/
def report (captures : List Capture) (limit : Int := 100) : ScoreReport where
  riskScore := min (total (counted captures) : Int) limit
  capabilities := capabilities captures
  findings := findings captures
  counted := counted captures

end Score

/-- The assessment that a report amounts to. -/
def ScoreReport.assessment? (r : ScoreReport) : Except AssessmentError Assessment :=
  Assessment.ofScore? r.capabilities r.findings r.riskScore

/-- The assessment of a list of captures. -/
def Assessment.ofCaptures (captures : List Capture) : Assessment :=
  .capped (Score.capabilities captures) (Score.findings captures)
    (Score.total (Score.counted captures))

end HookAudit
