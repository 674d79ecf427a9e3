/-
# HookAudit.CommandLine.Scan — the command that assesses hooks.

Directories are searched for files with the extension of a language; a file whose name ends in
`.json` is a settings document, and any other file is a hook.  The outcome is a table with the
findings below it, or a document.
-/
import HookAudit.CommandLine.Page
import HookAudit.CommandLine.Request
import HookAudit.Json.Writer
import HookAudit.Scanner.Settings

namespace HookAudit.CommandLine

open Engine Action Terminal

/-! ## Targets -/

/-- What is to be assessed. -/
structure Targets where
  hooks : List Path := []
  settings : List Path := []

/-- The extension of settings documents. -/
def settingsExtension : Text := ".json"

/-- Whether a file name has the extension of a language. -/
def isHookFile (path : Path) : Bool :=
  Language.extensions.any (·.1 == path.suffix.lower)

/-- What a path adds to the targets. -/
def Targets.add (files : Files) (targets : Targets) (path : Path) : Targets :=
  if files.isDirectory path then
    { targets with hooks := targets.hooks ++ (files.filesBelow path).filter isHookFile }
  else if path.suffix.lower == settingsExtension then
    { targets with settings := targets.settings ++ [path] }
  else { targets with hooks := targets.hooks ++ [path] }

/-- The targets that paths name. -/
def Targets.ofPaths (files : Files) (paths : List Text) : Targets :=
  paths.foldl (fun targets path => targets.add files (.ofText path)) {}

/-! ## Findings -/

/-- What a scan found: hooks in files, and hooks in settings documents by their keys. -/
structure Findings where
  hooks : List Scanner.HookFile
  inline : List (Text × Assessment)

namespace Findings

/-- All assessments. -/
def assessments (f : Findings) : List Assessment :=
  f.hooks.map (·.assessment) ++ f.inline.map (·.2)

/-- Whether there was nothing to assess. -/
def isEmpty (f : Findings) : Bool := f.hooks.isEmpty && f.inline.isEmpty

/-- Whether a hook reaches a tier. -/
def reach (f : Findings) (tier : RiskLevel) : Bool :=
  f.assessments.any fun a => tier.rank ≤ a.level.rank

/-- The hooks that are not safe. -/
def risky (f : Findings) : Findings where
  hooks := f.hooks.filter fun hook => hook.assessment.level != .safe
  inline := f.inline.filter fun entry => entry.2.level != .safe

end Findings

/-- Assesses the hooks in a settings document; their keys start with the name of the file. -/
def auditSettings (path : Path) : Action (List (Text × Assessment)) := do
  let settings ← Scanner.readSettings path
  let found ← Scanner.scanSettings {} Engine.scan settings
  return found.map fun (key, assessment) => (path.name ++ ":" ++ key, assessment)

/-- Assesses all targets of a request. -/
def audit (request : ScanRequest) : Action Findings := do
  let targets := Targets.ofPaths (← files) request.paths
  let hooks ← Scanner.scanFiles {} Engine.scan targets.hooks none
    (request.lang.map fun lang => .written lang.name)
  let inline ← each auditSettings targets.settings
  return { hooks, inline := entriesOf inline.flatten }

/-! ## The document -/

/-- The members of an object that describe an assessment. -/
def assessmentMembers (a : Assessment) : List (Text × Json) :=
  [("hasFileSystemAccess", .bool a.capabilities.fileSystem),
   ("hasNetworkAccess", .bool a.capabilities.network),
   ("hasProcessExecution", .bool a.capabilities.processExecution),
   ("hasDangerousImports", .bool a.capabilities.dangerousImports),
   ("hasCredentialAccess", .bool a.capabilities.credentialAccess),
   ("findings", .arr (a.findings.map .str)),
   ("riskScore", .int a.riskScore)]

/-- The document of an outcome. -/
def Findings.document (f : Findings) : Json :=
  .obj [
    ("hooks", .arr (f.hooks.map fun hook => .obj ([
      (("name" : Text), Json.str hook.name),
      ("riskLevel", .str hook.assessment.level.label),
      ("analyzed", .bool hook.analyzed)] ++ assessmentMembers hook.assessment))),
    ("inline", .obj (f.inline.map fun (key, a) =>
      (key, .obj ((("riskLevel" : Text), Json.str a.level.label) :: assessmentMembers a)))),
    ("summary", .obj [
      ("total", .int f.assessments.length),
      ("maxRiskScore", .int ((f.assessments.map (·.riskScore)).foldl max 0 : Nat))])]

/-- The document when there was nothing to assess. -/
def emptyDocument : Json :=
  .obj [("hooks", .arr []), ("inline", .obj []), ("summary", .str "No hooks found")]

/-! ## The page -/

/-- A line of the table: what a hook is called, its assessment, and whether the engine had an
opinion. -/
structure Row where
  name : Text
  assessment : Assessment
  analyzed : Bool := true

/-- The lines of the table. -/
def Findings.rows (f : Findings) : List Row :=
  (f.hooks.map fun hook => ⟨hook.name, hook.assessment, hook.analyzed⟩) ++
    f.inline.map fun (key, assessment) => { name := key, assessment }

/-- Capabilities by their short names. -/
def shortCapabilities (c : Capabilities) : Text :=
  let names := [(c.fileSystem, ("fs" : Text)), (c.network, "net"), (c.processExecution, "exec"),
    (c.dangerousImports, "imports"), (c.credentialAccess, "creds")]
  let present := names.filterMap fun (has, name) => if has then some name else none
  if present.isEmpty then "-" else Text.join ", " present

/-- The cells of a line. -/
def Row.cells (r : Row) : List Text :=
  [r.name, r.assessment.level.name ++ (if r.analyzed then "" else "*"),
   Text.ofNat r.assessment.riskScore, shortCapabilities r.assessment.capabilities,
   Text.ofNat r.assessment.findings.length]

/-- The columns of the table. -/
def hookColumns : List Column :=
  [{ head := "Hook" }, { head := "Risk", align := .center }, { head := "Score", align := .right },
   { head := "Capabilities" }, { head := "Findings", align := .right }]

/-- The findings of a line, under its name. -/
def Row.details (r : Row) : Page :=
  if r.assessment.findings.isEmpty then []
  else Page.markup ("\n[bold]" ++ r.name ++ "[/bold]") ::
    r.assessment.findings.map fun finding => Page.words ("  • " ++ finding)

/-- How many hooks there are, all in all and in each tier. -/
def summaryLine (rows : List Row) : Text :=
  Text.join " | " ((Text.ofNat rows.length ++ " hooks scanned") ::
    [RiskLevel.safe, .warning, .dangerous].filterMap fun tier =>
      let count := rows.countP fun r => r.assessment.level == tier
      if count == 0 then none else some (Text.ofNat count ++ " " ++ tier.label))

/-- The page of an outcome. -/
def Findings.page (f : Findings) : Page :=
  let rows := f.rows
  if rows.isEmpty then [Page.words "All hooks are safe."]
  else
    [Page.table "hookwarden Scan Results" hookColumns (rows.map Row.cells)] ++
    (if rows.all (·.analyzed) then [] else
      [Page.words "* could not analyze this hook; heuristic scan only"]) ++
    rows.flatMap Row.details ++ [Page.words (summaryLine rows)]

end HookAudit.CommandLine
