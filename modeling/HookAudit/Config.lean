/-
# HookAudit.Config — settings of the engine and of the scanner.

Settings come from code or from environment variables.  A variable that is set has to read as its
type; the bounds on the numbers are checked separately, when an engine or scanner is built.
-/
import HookAudit.Files.Path
import HookAudit.Language.Basic
import HookAudit.Snippet
import HookAudit.Text.Number

namespace HookAudit

/-- Why a configuration is refused. -/
inductive ConfigError where
  | missingQueryDirectory (path : Text)
  | snippetLength (value : Int)
  | contentLimit
  | workerCount
  | notInteger (name value : Text)
  | notBoolean (name value : Text)
deriving DecidableEq

/-- The wording of a refusal. -/
def ConfigError.message : ConfigError → Text
  | .missingQueryDirectory path => "Query directory does not exist: " ++ path
  | .snippetLength value => "snippet_length must be positive, got " ++ Text.ofInt value
  | .contentLimit => "max_content_bytes must be positive"
  | .workerCount => "max_workers must be positive"
  | .notInteger name value => name ++ " must be an integer, got " ++ value.quoted
  | .notBoolean name value => name ++ " must be a boolean, got " ++ value.quoted

/-! ## The environment -/

/-- Environment variables. -/
abbrev Environment := List (Text × Text)

namespace Environment

/-- A variable that holds a boolean; unset means the default. -/
def bool (env : Environment) (name : Text) (default : Bool) : Except ConfigError Bool :=
  match env.lookup name with
  | none => .ok default
  | some raw =>
    let value := raw.strip.lower
    if ["1", "true", "yes", "on"].any fun word => Text.ofString word == value then .ok true
    else if ["0", "false", "no", "off", ""].any fun word => Text.ofString word == value then
      .ok false
    else .error (.notBoolean name raw)

/-- A variable that holds a whole number; unset or blank means the default. -/
def int (env : Environment) (name : Text) (default : Int) : Except ConfigError Int :=
  match env.lookup name with
  | none => .ok default
  | some raw =>
    if raw.isBlank then .ok default
    else match raw.toInt? with
      | some n => .ok n
      | none => .error (.notInteger name raw)

end Environment

/-! ## The engine -/

/-- Where the security queries come from. -/
inductive QuerySource where
  /-- The packs of this library. -/
  | packaged
  /-- A directory with one subdirectory for each language. -/
  | directory (path : Path)
deriving DecidableEq

/-- Where the grammar of each language comes from: a module and its factory. -/
abbrev GrammarTable := List (Language × Text × Text)

/-- The modules that hold the grammars unless others are configured. -/
def defaultGrammars : GrammarTable :=
  [(.python, "tree_sitter_python", "language"), (.bash, "tree_sitter_bash", "language"),
   (.javascript, "tree_sitter_javascript", "language"),
   (.typescript, "tree_sitter_typescript", "language_typescript")]

/-- Settings of the engine. -/
structure EngineConfig where
  /-- Where the queries come from. -/
  queries : QuerySource := .packaged
  /-- The longest snippet. -/
  snippetLength : Int := Snippet.defaultLimit
  /-- Whether failed loads are tried again. -/
  retryUnavailable : Bool := false
  /-- Where the grammars come from. -/
  grammars : GrammarTable := defaultGrammars
deriving DecidableEq

/-- A leading `~` stands for the home directory. -/
def expandHome (home : Text) (path : Path) : Path :=
  match path.parts with
  | first :: rest =>
    if path.anchor.isEmpty && first == ("~" : Text) then
      let base := Path.ofText home
      { base with parts := base.parts ++ rest }
    else path
  | [] => path

/-- The settings of the engine that the environment gives. -/
def EngineConfig.ofEnvironment (home : Text) (env : Environment) :
    Except ConfigError EngineConfig := do
  let directory := (env.lookup ("HOOKWARDEN_QUERY_DIR" : Text)).getD []
  let snippetLength ← env.int "HOOKWARDEN_SNIPPET_LENGTH" Snippet.defaultLimit
  let retryUnavailable ← env.bool "HOOKWARDEN_RETRY_UNAVAILABLE" false
  return {
    queries :=
      if directory.isEmpty then .packaged
      else .directory (expandHome home (.ofText directory))
    snippetLength
    retryUnavailable }

/-- Checks the settings of the engine, given which directories exist. -/
def EngineConfig.check (config : EngineConfig) (isDirectory : Path → Bool) :
    Except ConfigError Unit :=
  let found := match config.queries with
    | .packaged => true
    | .directory path => isDirectory path
  match config.queries, found with
  | .directory path, false => .error (.missingQueryDirectory path.toText)
  | _, _ =>
    if config.snippetLength ≤ 0 then .error (.snippetLength config.snippetLength) else .ok ()

/-! ## The scanner -/

/-- Settings of the scanner. -/
structure ScannerConfig where
  /-- Larger hooks are not given to the engine. -/
  maxContentBytes : Int := 1048576
  /-- How many hooks may be assessed at a time. -/
  maxWorkers : Int := 8
deriving DecidableEq

/-- The settings of the scanner that the environment gives. -/
def ScannerConfig.ofEnvironment (env : Environment) : Except ConfigError ScannerConfig := do
  let maxContentBytes ← env.int "HOOKWARDEN_MAX_CONTENT_BYTES" 1048576
  let maxWorkers ← env.int "HOOKWARDEN_MAX_WORKERS" 8
  return { maxContentBytes, maxWorkers }

/-- Checks the settings of the scanner. -/
def ScannerConfig.check (config : ScannerConfig) : Except ConfigError Unit :=
  if config.maxContentBytes ≤ 0 then .error .contentLimit
  else if config.maxWorkers ≤ 0 then .error .workerCount
  else .ok ()

end HookAudit
