/-
# HookAudit.CommandLine.Request — what the arguments ask for.

The options of a command are looked at in the order in which they are first given, then its paths;
the first that is not acceptable decides.
-/
import HookAudit.Assessment
import HookAudit.CommandLine.Arguments
import HookAudit.Files.Tree
import HookAudit.Language.Basic

namespace HookAudit.CommandLine

/-! ## Requests -/

/-- How the outcome of a scan is written. -/
inductive Format where
  | text | json
deriving DecidableEq

/-- The name of a format. -/
def Format.name : Format → Text
  | .text => "text"
  | .json => "json"

/-- A request for a scan. -/
structure ScanRequest where
  /-- Files and directories, as written. -/
  paths : List Text
  /-- The language of all hooks, unless their names decide. -/
  lang : Option Language := none
  format : Format := .text
  /-- The tier from which on a hook is a failure. -/
  failOn : RiskLevel := .dangerous
  /-- Whether safe hooks are shown. -/
  showSafe : Bool := false
  /-- The directory of the queries. -/
  queryDirectory : Option Text := none

/-- What the arguments ask for. -/
inductive Request where
  | version
  | help (command : Option Command)
  | scan (request : ScanRequest)
  | queries (lang : Option Language) (directory : Option Text)
  | languages

/-! ## Acceptance -/

/-- The tiers from which on a hook may be a failure. -/
def thresholds : List RiskLevel := [.dangerous, .warning]

/-- The values that an option may have, if only some are allowed. -/
def choices (option : Text) : Option (List Text) :=
  [(("--language" : Text), Language.all.map Language.name),
   ("--format", [Format.text, .json].map Format.name),
   ("--fail-on", thresholds.map RiskLevel.label)].lookup option

/-- Whether an option may have a value. -/
def checkOption (files : Files) (option value : Text) : Except Misuse Unit :=
  match choices option with
  | some allowed =>
    if allowed.contains value then .ok () else .error (.notOneOf option value allowed)
  | none =>
    if option == ("--query-dir" : Text) then
      match files.findWritten value with
      | .ok (.directory _) => .ok ()
      | .ok (.file _) => .error (.notDirectory option value)
      | .error _ => .error (.noDirectory option value)
    else .ok ()

/-- Looks at the options in the order of their first mention. -/
def checkOptions (files : Files) (a : Arguments) : List Text → Except Misuse Unit
  | [] => .ok ()
  | name :: rest =>
    match checkOption files name ((a.value? name).getD []) with
    | .error misuse => .error misuse
    | .ok () => checkOptions files a rest

/-- Looks at the paths of a scan, of which there has to be one at least. -/
def checkPaths (files : Files) (paths : List Text) : Except Misuse Unit :=
  if paths.isEmpty then .error .missingPaths
  else match paths.find? fun path => !(files.findWritten path).isOk with
    | some path => .error (.noPath path)
    | none => .ok ()

/-! ## Reading a request -/

/-- The language that an option names. -/
def languageOption (a : Arguments) : Option Language := (a.value? "--language").bind Language.ofName?

/-- The request for a scan in acceptable arguments. -/
def scanRequest (a : Arguments) : ScanRequest where
  paths := a.others
  lang := languageOption a
  format := ([Format.text, .json].find? fun f => a.value? "--format" == some f.name).getD .text
  failOn := (thresholds.find? fun l => a.value? "--fail-on" == some l.label).getD .dangerous
  showSafe := a.has "--show-safe"
  queryDirectory := a.value? "--query-dir"

/-- The request in the arguments of a command. -/
def Command.request (files : Files) (command : Command) (args : List Text) :
    Except Misuse Request := do
  let a ← readArguments command.options true args
  if a.has "--help" then return .help (some command)
  checkOptions files a a.names
  match command with
  | .scan =>
    checkPaths files a.others
    return .scan (scanRequest a)
  | .queries =>
    if !a.others.isEmpty then throw (.extraArguments a.others)
    return .queries (languageOption a) (a.value? "--query-dir")
  | .languages =>
    if !a.others.isEmpty then throw (.extraArguments a.others)
    return .languages

/-- What the options of the program itself ask for, if that settles the matter. -/
def programRequest? (a : Arguments) : Option Request :=
  (a.names.findSome? fun name =>
    if name == ("--version" : Text) then some Request.version
    else if name == ("--help" : Text) then some (Request.help none)
    else none)

/-- The command of a name.  A name that looks like an option is read as one, so that a misplaced
option is told from a command that does not exist. -/
def commandNamed (name : Text) (args : List Text) : Except Misuse (Request ⊕ Command) :=
  match Command.all.find? (·.name == name) with
  | some command => .ok (.inr command)
  | none => do
    if isOption name then
      if let some request := programRequest? (← readArguments programOptions false args) then
        return .inl request
    throw (.noSuchCommand name)

/-- The request in the arguments of the program, or the misuse together with the command that it
concerns. -/
def readRequest (files : Files) (args : List Text) :
    Except (Option Command × Misuse) Request :=
  match readArguments programOptions false args with
  | .error misuse => .error (none, misuse)
  | .ok a =>
    match programRequest? a, a.others with
    | some request, _ => .ok request
    | none, [] => if args.isEmpty then .ok (.help none) else .error (none, .missingCommand)
    | none, name :: rest =>
      match commandNamed name (name :: rest) with
      | .error misuse => .error (none, misuse)
      | .ok (.inl request) => .ok request
      | .ok (.inr command) =>
        match command.request files rest with
        | .error misuse => .error (some command, misuse)
        | .ok request => .ok request

end HookAudit.CommandLine
