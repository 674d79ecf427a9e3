/-
# HookAudit.CommandLine.Languages — the page about what can be analysed.

A table of the languages, and the reason when none of them can be analysed.
-/
import HookAudit.CommandLine.Page
import HookAudit.Engine.Scan

namespace HookAudit.CommandLine

open Engine

/-- The page about what can be analysed. -/
def languagesPage (a : Availability) : Page :=
  [Page.table "Syntax-tree analysis support"
    [{ head := "Language" }, { head := "Status", align := .center }]
    (Language.all.map fun lang =>
      [lang.name, if a.languages.contains lang then "available" else "heuristic only"])] ++
  (match a.available, a.reason with
    | false, some reason => [Page.words ("Engine unavailable: " ++ reason.name)]
    | _, _ => [])

end HookAudit.CommandLine
