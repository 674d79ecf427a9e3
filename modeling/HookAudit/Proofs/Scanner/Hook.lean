/-
# HookAudit.Proofs.Scanner.Hook — what the scanner makes of an analysis.

The scanner has the last word on a hook, and it says what the engine says merged with the
heuristics.  Two steps lie between the engine's answer to a request and the scanner's answer about a
hook: finding the language of the hook, and the merge.  Whoever is asked, and whatever was asked
before, every answer about a hook is made in one of two ways (`scanHook_promises`).
-/
import HookAudit.Proofs.Engine.Promises
import HookAudit.Proofs.Scanner.Gate

namespace HookAudit

open Engine Action

variable {w : World} {s : State} {content : Text} {requested : Option LanguageName}
  {filename : Option Text}

/-- Once its language is known, scanning a hook is answering the request for that language. -/
theorem Engine.scan_eq_scanRequest {lang : Language}
    (hlang : languageOf content requested filename = .ok (some lang)) :
    scan content requested filename = scanRequest content (some lang) := by
  unfold scan
  rw [hlang]

namespace Scanner

variable {config : ScannerConfig} {analyst : Analyst} {assessment : Assessment}

/-- **`scanHook_of_assessed`** — a hook within the size limit that the analyst assesses is assessed,
by what the analyst says merged with the heuristics. -/
theorem scanHook_of_assessed (hsize : (Text.encodedLength content : Int) ≤ config.maxContentBytes)
    (hassessed : (analyst content requested filename w s).1 = .ok (.assessed assessment)) :
    (scanHook config analyst content filename requested w s).1 =
      .ok (assessment.merge (Heuristics.scan content)) := by
  rw [scanHook_within_limit hsize, hassessed]
  rfl

/-- **`Concluded P content assessment`** — the assessment of a hook is that of the heuristics, or an
assessment with `P` merged with it. -/
inductive Concluded (P : Assessment → Prop) (content : Text) : Assessment → Prop where
  | heuristic : Concluded P content (Heuristics.scan content)
  | merged {a : Assessment} (analysis : P a) :
      Concluded P content (a.merge (Heuristics.scan content))

/-- An analyst whose assessments all have `P`. -/
def Analyst.Promises (analyst : Analyst) (P : Assessment → Prop) : Prop :=
  ∀ content requested filename,
    (analyst content requested filename).Promises fun outcome => ∀ a, outcome = .assessed a → P a

theorem assess_promises {P : Assessment → Prop} (hanalyst : Analyst.Promises analyst P)
    (config : ScannerConfig) (content : Text) (filename : Option Text)
    (requested : Option LanguageName) :
    (assess config analyst content filename requested).Promises fun assessed =>
      Concluded P content assessed.1 := by
  unfold assess
  dsimp only
  split
  · exact .behind fun _ => .pure .heuristic
  · refine (hanalyst content requested filename).bind fun outcome houtcome => ?_
    cases outcome with
    | noOpinion reason detail => exact .pure .heuristic
    | assessed a => exact .pure (.merged (houtcome a rfl))

/-- **`scanHook_promises`** — the heuristics have their say in every assessment of a hook. -/
theorem scanHook_promises {P : Assessment → Prop} (hanalyst : Analyst.Promises analyst P)
    (config : ScannerConfig) (content : Text) (filename : Option Text)
    (requested : Option LanguageName) :
    (scanHook config analyst content filename requested).Promises (Concluded P content) :=
  (assess_promises hanalyst config content filename requested).bind fun _ h => .pure h

end Scanner

end HookAudit
