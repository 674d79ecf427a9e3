/-
# HookAudit.CommandLine.Run — running the program.

A run prints to two channels and ends with a code: zero when all is well, one when a hook is too
risky or a query does not compile, two when the request cannot be carried out.  What is no fault of
the request ends the run with an error.
-/
import HookAudit.CommandLine.Languages
import HookAudit.CommandLine.Queries
import HookAudit.CommandLine.Scan

namespace HookAudit.CommandLine

open Engine Action

/-- Why a run breaks off. -/
inductive Breakdown where
  /-- A name does not read as markup. -/
  | markup (error : Terminal.MarkupError)
  /-- The engine met an error of its own. -/
  | engine (fault : Fault)

/-- The wording of a breakdown. -/
def Breakdown.message : Breakdown → Text
  | .markup e => e.message
  | .engine e => e.message

/-- How a run ends. -/
inductive Ending where
  | exit (code : Nat)
  | broken (cause : Breakdown)

/-- What a run leaves behind. -/
structure Run where
  out : Text := []
  err : Text := []
  ending : Ending

/-- What a program finds around it. -/
structure Surroundings where
  world : World
  environment : Environment := []
  /-- The home directory. -/
  home : Text := []

/-! ## Parts of a run -/

/-- A run that cannot be carried out. -/
def refuse (logged message : Text) : Run where
  err := logged ++ message ++ "\n"
  ending := .exit 2

/-- What is shown of a log. -/
def shownLog (trace : Trace) : Text :=
  (trace.logs.filter (·.level == .warning)).flatMap fun entry =>
    entry.level.name ++ " " ++ entry.source ++ ": " ++ entry.message ++ "\n"

/-- Whether a fault is one of the request and not of the engine. -/
def isRefusal : Fault → Bool
  | .outside _ | .language _ => false
  | _ => true

/-- Runs an operation of a fresh engine and goes on with its answer. -/
def withEngine {α : Type} (world : World) (config : EngineConfig) (act : Action α)
    (finish : Text → α → Run) : Run :=
  match config.check world.files.isDirectory with
  | .error e => refuse [] ("Error: " ++ e.message)
  | .ok () =>
    let (answer, _, trace) := act world { config }
    let logged := shownLog trace
    match answer with
    | .ok a => finish logged a
    | .error e =>
      if isRefusal e then refuse logged ("Error: " ++ e.message)
      else { err := logged, ending := .broken (.engine e) }

/-- Prints a page and ends with a code. -/
def printPage (logged : Text) (page : Page) (code : Nat) : Run :=
  let (out, e) := page.print
  { out, err := logged
    ending := match e with
      | some e => .broken (.markup e)
      | none => .exit code }

/-! ## Commands -/

/-- The source of queries that a request and the environment give. -/
def chooseQueries (directory : Option Text) (otherwise : QuerySource) : QuerySource :=
  match directory with
  | some path => .directory (.ofText path)
  | none => otherwise

/-- The end of a scan. -/
def finishScan (request : ScanRequest) (logged : Text) (found : Findings) : Run :=
  if found.isEmpty then
    { out := (match request.format with
        | .json => Json.write .compact emptyDocument
        | .text => "No hooks found to scan.") ++ "\n"
      err := logged
      ending := .exit 2 }
  else
    let code := if found.reach request.failOn then 1 else 0
    match request.format with
    | .json =>
      { out := Json.write (.indented 0) found.document ++ "\n", err := logged,
        ending := .exit code }
    | .text =>
      printPage logged (if request.showSafe then found else found.risky).page code

/-- Carries out a scan. -/
def runScan (around : Surroundings) (request : ScanRequest) : Run :=
  match EngineConfig.ofEnvironment around.home around.environment with
  | .error e => refuse [] ("Error: " ++ e.message)
  | .ok config =>
    let config := { config with queries := chooseQueries request.queryDirectory config.queries }
    withEngine around.world config (audit request) (finishScan request)

/-- The reports on some languages, once the toolkit is there. -/
def lint (languages : List Language) : Action (Option (List PackReport)) := do
  if !(← ensureRuntime) then return none
  return some (← each validate languages)

/-- Looks at the query files. -/
def runQueries (around : Surroundings) (lang : Option Language) (directory : Option Text) : Run :=
  let config : EngineConfig := { queries := chooseQueries directory .packaged }
  let languages := match lang with
    | some lang => [lang]
    | none => Language.all
  withEngine around.world config (lint languages) fun logged reports? =>
    match reports? with
    | none => refuse logged "tree-sitter runtime is not installed; cannot compile queries."
    | some reports =>
      printPage logged (queriesPage reports)
        (if reports.any fun r => r.errorCount != 0 then 1 else 0)

/-- Tells what can be analysed. -/
def runLanguages (around : Surroundings) : Run :=
  withEngine around.world {} availability fun logged a => printPage logged (languagesPage a) 0

/-- Carries out a request. -/
def Request.run (around : Surroundings) : Request → Run
  | .version =>
    { out := programName ++ ", version " ++ programVersion ++ "\n", ending := .exit 0 }
  | .help command => { out := usageLine command, ending := .exit 0 }
  | .scan request => runScan around request
  | .queries lang directory => runQueries around lang directory
  | .languages => runLanguages around

/-- Runs the program with some arguments. -/
def run (around : Surroundings) (args : List Text) : Run :=
  match readRequest around.world.files args with
  | .error (command, misuse) =>
    { err := misuse.report command, ending := .exit 2 }
  | .ok request => request.run around

end HookAudit.CommandLine
