/-
# HookAudit.CommandLine.Queries — the page about query files.

For each language, what became of each query file: whether it compiled, what its captures are, and
what is doubtful about them.
-/
import HookAudit.CommandLine.Page
import HookAudit.Engine.Queries

namespace HookAudit.CommandLine

open Engine Terminal

/-- The first line about a query file. -/
def fileLine (f : FileReport) : Text :=
  if f.empty then "  [yellow]empty[/yellow]  " ++ f.name
  else if !f.compiled then
    "  [bold red]error[/bold red]  " ++ f.name ++ ": " ++ f.error.getD "None"
  else "  [green]ok[/green]     " ++ f.name ++ ": " ++ Text.ofNat f.captureCount ++ " captures"

/-- The lines about a query file. -/
def filePage (f : FileReport) : Page :=
  [Page.markup (fileLine f)] ++
  (if f.riskless then
    [Page.markup ("         [yellow]no danger/warn/taint capture in " ++ f.name ++ "[/yellow]")]
   else []) ++
  f.unusual.map fun capture =>
    Page.markup ("         [yellow]unusual capture @" ++ capture ++ "[/yellow]")

/-- The lines about the queries of a language. -/
def packPage (r : PackReport) : Page :=
  Page.words ("\n" ++ r.lang.capitals ++ " queries") ::
    (if !r.grammarAvailable then
      [Page.words ("  Grammar not available for " ++ r.lang.name)]
    else if r.files.isEmpty then [Page.words "  No query files found"]
    else r.files.flatMap filePage)

/-- The page about the queries of several languages. -/
def queriesPage (reports : List PackReport) : Page :=
  let total := sumOf (·.files.length) reports
  let errors := sumOf PackReport.errorCount reports
  let warnings := sumOf PackReport.warningCount reports
  reports.flatMap packPage ++
    [Page.words ("\n" ++ Text.ofNat total ++ " query files | " ++ Text.ofNat (total - errors) ++
      " ok | " ++ Text.ofNat errors ++ " errors | " ++ Text.ofNat warnings ++ " warnings")]

end HookAudit.CommandLine
