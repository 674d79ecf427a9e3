/-
# HookAudit.CommandLine.Usage — commands, their options, and how they can be misused.

The program has three commands.  Every misuse is a cause of its own; most are shown together with
the usage line of the command they concern.
-/
import HookAudit.Text.Quoted
import HookAudit.Text.Similar

namespace HookAudit.CommandLine

/-- The name of the program. -/
def programName : Text := "hookwarden"

/-- The version of the program. -/
def programVersion : Text := "0.1.0"

/-! ## Commands -/

/-- The commands. -/
inductive Command where
  /-- Assesses hooks. -/
  | scan
  /-- Looks at the query files. -/
  | queries
  /-- Tells what can be analysed. -/
  | languages
deriving DecidableEq

namespace Command

/-- All commands. -/
def all : List Command := [scan, queries, languages]

/-- The name of a command. -/
def name : Command → Text
  | scan => "scan"
  | queries => "queries"
  | languages => "languages"

/-- What may follow the name of a command. -/
def parameters : Command → Text
  | scan => "[OPTIONS] PATHS..."
  | queries | languages => "[OPTIONS]"

end Command

/-- An option. -/
structure OptionSpec where
  /-- The name, with its two hyphens. -/
  name : Text
  /-- The letter behind a single hyphen, if there is one. -/
  letter : Option Char := none
  /-- Whether a value follows. -/
  takesValue : Bool := false

/-- The options of the program itself. -/
def programOptions : List OptionSpec :=
  [{ name := "--version" }, { name := "--verbose", letter := some 'v' }, { name := "--help" }]

/-- The options of a command. -/
def Command.options : Command → List OptionSpec
  | scan =>
    [{ name := "--language", takesValue := true }, { name := "--format", takesValue := true },
     { name := "--fail-on", takesValue := true }, { name := "--show-safe" },
     { name := "--query-dir", takesValue := true }, { name := "--help" }]
  | queries =>
    [{ name := "--language", takesValue := true }, { name := "--query-dir", takesValue := true },
     { name := "--help" }]
  | languages => [{ name := "--help" }]

/-! ## Misuse -/

/-- What is wrong with the arguments. -/
inductive Misuse where
  /-- There is no such option, but perhaps similar ones. -/
  | noSuchOption (name : Text) (similar : List Text)
  | needsValue (name : Text)
  | takesNoValue (name : Text)
  /-- The value of an option is none of those it may have. -/
  | notOneOf (name value : Text) (choices : List Text)
  | noDirectory (name value : Text)
  | notDirectory (name value : Text)
  | noPath (value : Text)
  | missingPaths
  | extraArguments (values : List Text)
  | noSuchCommand (name : Text)
  | missingCommand
deriving DecidableEq

namespace Misuse

/-- What to say about similar options. -/
def hint : List Text → Text
  | [] => []
  | [one] => " Did you mean " ++ one ++ "?"
  | several => " (Possible options: " ++ Text.join ", " (several.mergeSort Text.le) ++ ")"

/-- What is said about a value that an option cannot have. -/
def invalid (name : Text) (reason : Text) : Text :=
  "Invalid value for " ++ name.quoted ++ ": " ++ reason

/-- The wording of a misuse. -/
def message : Misuse → Text
  | noSuchOption name similar => "No such option: " ++ name ++ hint similar
  | needsValue name => "Option " ++ name.quoted ++ " requires an argument."
  | takesNoValue name => "Option " ++ name.quoted ++ " does not take a value."
  | notOneOf name value choices =>
    invalid name (value.quoted ++ " is not one of " ++
      Text.join ", " (choices.map Text.quoted) ++ ".")
  | noDirectory name value => invalid name ("Directory " ++ value.quoted ++ " does not exist.")
  | notDirectory name value => invalid name ("Directory " ++ value.quoted ++ " is a file.")
  | noPath value => invalid "PATHS..." ("Path " ++ value.quoted ++ " does not exist.")
  | missingPaths => "Missing argument 'PATHS...'."
  | extraArguments values =>
    "Got unexpected extra argument" ++ (if values.length == 1 then "" else "s") ++ " (" ++
      Text.join " " values ++ ")"
  | noSuchCommand name => "No such command " ++ name.quoted ++ "."
  | missingCommand => "Missing command."

/-- Whether the usage line is shown with a misuse. -/
def showsUsage : Misuse → Bool
  | needsValue _ | takesNoValue _ => false
  | _ => true

end Misuse

/-- The usage line of the program or of one of its commands. -/
def usageLine : Option Command → Text
  | none => "Usage: " ++ programName ++ " [OPTIONS] COMMAND [ARGS]...\n"
  | some c => "Usage: " ++ programName ++ " " ++ c.name ++ " " ++ c.parameters ++ "\n"

/-- Where to find help. -/
def helpLine : Option Command → Text
  | none => "Try '" ++ programName ++ " --help' for help.\n"
  | some c => "Try '" ++ programName ++ " " ++ c.name ++ " --help' for help.\n"

/-- All that is shown about a misuse. -/
def Misuse.report (command : Option Command) (misuse : Misuse) : Text :=
  (if misuse.showsUsage then usageLine command ++ helpLine command ++ "\n" else []) ++
    "Error: " ++ misuse.message ++ "\n"

end HookAudit.CommandLine
