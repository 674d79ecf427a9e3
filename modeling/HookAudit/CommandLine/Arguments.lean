/-
# HookAudit.CommandLine.Arguments — options and other arguments told apart.

An argument that starts with a hyphen and goes on is an option; after `--` there are none.  A long
option may hold its value behind an equals sign, otherwise the next argument is its value, whatever
it looks like.  Behind a single hyphen every letter is an option.
-/
import HookAudit.CommandLine.Usage

namespace HookAudit.CommandLine

/-- Arguments told apart. -/
structure Arguments where
  /-- The options that were given, in order, each with its value. -/
  options : List (Text × Text) := []
  /-- The other arguments, in order. -/
  others : List Text := []

namespace Arguments

/-- The value of an option, which is the last one given. -/
def value? (a : Arguments) (name : Text) : Option Text := a.options.reverse.lookup name

/-- Whether an option was given. -/
def has (a : Arguments) (name : Text) : Bool := a.options.any (·.1 == name)

/-- The names of the options that were given, in the order of their first mention. -/
def names (a : Arguments) : List Text :=
  a.options.foldl (fun names given =>
    if names.contains given.1 then names else names ++ [given.1]) []

end Arguments

/-- What an option in an argument comes to. -/
inductive OptionArgument where
  /-- Options with their values. -/
  | complete (given : List (Text × Text))
  /-- An option whose value is the next argument. -/
  | awaits (name : Text)

/-- Whether an argument is an option. -/
def isOption : Text → Bool
  | c :: _ :: _ => c.is '-'
  | _ => false

/-- The options behind a single hyphen, letter by letter. -/
def readLetters (specs : List OptionSpec) : Text → Except Misuse (List (Text × Text))
  | [] => .ok []
  | c :: rest =>
    match specs.find? fun spec => (spec.letter.map c.is).getD false with
    | some spec => (readLetters specs rest).map ((spec.name, []) :: ·)
    | none => .error (.noSuchOption (.ofChar '-' :: [c]) [])

/-- The option in an argument. -/
def readOption (specs : List OptionSpec) (arg : Text) : Except Misuse OptionArgument :=
  let name := arg.takeWhile fun c => !c.is '='
  let value? : Option Text := match arg.drop name.length with
    | [] => none
    | _ :: value => some value
  match specs.find? (·.name == name), value? with
  | some spec, none => .ok (if spec.takesValue then .awaits name else .complete [(name, [])])
  | some spec, some value =>
    if spec.takesValue then .ok (.complete [(name, value)]) else .error (.takesNoValue name)
  | none, _ =>
    if arg.startsWith ("--" : Text) then
      .error (.noSuchOption name (Text.closeMatches name (specs.map (·.name))))
    else (readLetters specs (arg.drop 1)).map .complete

/-- Tells arguments apart.  Unless options may stand `anywhere`, they end at the first argument
that is none. -/
def readArguments (specs : List OptionSpec) (anywhere : Bool) :
    List Text → Except Misuse Arguments
  | [] => .ok {}
  | arg :: rest =>
    if arg == ("--" : Text) then .ok { others := rest }
    else if !isOption arg then
      if anywhere then
        (readArguments specs anywhere rest).map fun a => { a with others := arg :: a.others }
      else .ok { others := arg :: rest }
    else match readOption specs arg with
      | .error misuse => .error misuse
      | .ok (.complete given) =>
        (readArguments specs anywhere rest).map fun a => { a with options := given ++ a.options }
      | .ok (.awaits name) =>
        match rest with
        | [] => .error (.needsValue name)
        | value :: rest =>
          (readArguments specs anywhere rest).map fun a =>
            { a with options := (name, value) :: a.options }

end HookAudit.CommandLine
