/-
# HookAudit.Scanner.Report — the safety report.

A plain text for people: each hook with the sign of its tier, then its findings.
-/
import HookAudit.Scanner.Hook

namespace HookAudit.Scanner

/-- The line of a finding. -/
def findingLine (finding : Text) : Text := "    • " ++ finding

/-- An event by name, or as unknown. -/
def eventName (event : Option Text) : Text :=
  match event with
  | some name => if name.isEmpty then "unknown" else name
  | none => "unknown"

/-- The lines about a hook file. -/
def HookFile.lines (hook : HookFile) : List Text :=
  [("  " : Text) ++ hook.assessment.level.marker ++ " " ++ hook.name ++ " (" ++
      eventName hook.eventType ++ ")"] ++
    (if hook.analyzed then [] else
      [("    (could not analyze this hook; heuristic scan only)" : Text)]) ++
    hook.assessment.findings.map findingLine ++
    (match hook.description with
      | some text => if text.isEmpty then [] else [("    Description: " : Text) ++ text]
      | none => [])

/-- The lines about an inline hook. -/
def inlineLines (key : Text) (assessment : Assessment) : List Text :=
  (("  " : Text) ++ assessment.level.marker ++ " " ++ key ++ " (risk: " ++
      Text.ofNat assessment.riskScore ++ ")") ::
    assessment.findings.map findingLine

/-- The report on hook files and inline hooks. -/
def safetyReport (hooks : List HookFile) (inline : List (Text × Assessment)) : Text :=
  Text.join "\n" <|
    (if hooks.isEmpty then [] else
      ("\n📄 File-based hooks:" : Text) :: hooks.flatMap HookFile.lines) ++
    (if inline.isEmpty then [] else
      ("\n📝 Inline hooks:" : Text) :: inline.flatMap fun (key, assessment) =>
        inlineLines key assessment)

end HookAudit.Scanner
