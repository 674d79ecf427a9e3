/-
# HookAudit.Language.Basic — the languages of hooks, and how a request names one.

A request may name its language outright (by name or alias, letter case and surrounding space
aside); otherwise the extension of the file name decides.  Naming an unknown language is an error;
an unknown extension is none.
-/
import HookAudit.Files.Path
import HookAudit.Text.Blank
import HookAudit.Text.Case
import HookAudit.Text.Quoted

namespace HookAudit

/-- The languages that can be analysed. -/
inductive Language where
  | python | bash | javascript | typescript
deriving DecidableEq, Repr

/-- Why a request names no language. -/
inductive LanguageError where
  /-- The name is neither a language nor an alias. -/
  | unsupported (name : Text)
deriving DecidableEq

/-- The wording of an error. -/
def LanguageError.message : LanguageError → Text
  | .unsupported name => "Unsupported hook language: " ++ name.quoted

namespace Language

/-- All languages, in their fixed order. -/
def all : List Language := [python, bash, javascript, typescript]

/-- The name of a language. -/
def name : Language → Text
  | python => "python"
  | bash => "bash"
  | javascript => "javascript"
  | typescript => "typescript"

/-- The name of a language in capitals. -/
def capitals : Language → Text
  | python => "PYTHON"
  | bash => "BASH"
  | javascript => "JAVASCRIPT"
  | typescript => "TYPESCRIPT"

/-- Short names. -/
def aliases : List (Text × Language) :=
  [("py", python), ("sh", bash), ("shell", bash), ("js", javascript), ("node", javascript),
   ("ts", typescript)]

/-- The language with exactly this name. -/
def ofName? (name : Text) : Option Language := all.find? (·.name == name)

/-- The language that a request names. -/
def parse (value : Text) : Except LanguageError Language :=
  let key := value.strip.lower
  match aliases.lookup key with
  | some lang => .ok lang
  | none => match ofName? key with
    | some lang => .ok lang
    | none => .error (.unsupported value)

/-- File name extensions. -/
def extensions : List (Text × Language) :=
  [(".py", python), (".sh", bash), (".bash", bash), (".ts", typescript), (".tsx", typescript),
   (".js", javascript), (".jsx", javascript), (".mjs", javascript), (".cjs", javascript)]

/-- The language of a file name, by its extension in any letter case. -/
def ofFilename? : Option Text → Option Language
  | none => none
  | some [] => none
  | some name => extensions.lookup (Path.ofText name).suffix.lower

/-- The language of a request: the one it names, else the one of its file name. -/
def resolve (requested : Option Text) (filename : Option Text) :
    Except LanguageError (Option Language) :=
  match requested with
  | some name => (parse name).map some
  | none => .ok (ofFilename? filename)

end Language

/-- How a request names its language: as written, or as one that is settled. -/
inductive LanguageName where
  | written (name : Text)
  | known (lang : Language)
deriving DecidableEq

/-- The language of a request, whichever way it is named. -/
def Language.choose (requested : Option LanguageName) (filename : Option Text) :
    Except LanguageError (Option Language) :=
  match requested with
  | some (.known lang) => .ok (some lang)
  | some (.written name) => Language.resolve (some name) filename
  | none => Language.resolve none filename

end HookAudit
