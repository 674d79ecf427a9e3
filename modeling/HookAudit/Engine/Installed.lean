/-
# HookAudit.Engine.Installed — the world in which everything is installed.

The toolkit opens the grammars of the four languages, compiles queries to rules and matches these.
-/
import HookAudit.Engine.World
import HookAudit.Query.Match
import HookAudit.Query.Reader
import HookAudit.Detection
import HookAudit.Tree.Read

namespace HookAudit.Engine

/-- The toolkit. -/
def toolkit : Module where
  offers _ := true
  openGrammar
    | .language _ => .ok ()
    | .labelled _ => .error ⟨.badType, "an integer is required"⟩
  compile
    | .language _, .packed query => .ok (.rules query)
    | .language lang, .written source =>
      match Query.read lang.vocabulary source with
      | .ok query => .ok (.rules query)
      | .error e => .error ⟨.badQuery, e.message⟩
    | .labelled _, _ => .error ⟨.badType, []⟩

/-- A module with the grammar of a language under one name. -/
def grammarModule (factory : Text) (lang : Language) : Module where
  lookUp name := if name == factory then .factory (.ok (.language lang)) else .absent

/-- The installed modules by name. -/
def installedModules : List (Text × Except Failure Module) :=
  [("tree_sitter", .ok toolkit),
   ("tree_sitter_python", .ok (grammarModule "language" .python)),
   ("tree_sitter_bash", .ok (grammarModule "language" .bash)),
   ("tree_sitter_javascript", .ok (grammarModule "language" .javascript)),
   ("tree_sitter_typescript", .ok (grammarModule "language_typescript" .typescript))]

/-- The tree of source text under an installed grammar; under any other there is nothing to see. -/
def parseInstalled : GrammarRef → Text.Octets → Node
  | .language lang, source => lang.tree source
  | .labelled _, _ => .mk "program" true none default []

/-- The matches of compiled rules. -/
def searchInstalled : Compiled → Node → Text.Octets → List Found
  | .rules query, root, source => (query.matches root source).map Query.Match.spans
  | .text _ _, _, _ => []

/-- The world in which everything is installed but the modules with some names. -/
def installed (files : Files) (absent : List Text) : World where
  importModule := importFrom (installedModules.filter fun m => !absent.contains m.1)
  files := files
  parse := parseInstalled
  search := searchInstalled

end HookAudit.Engine
