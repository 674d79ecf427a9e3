/-
# HookAudit.Query.Pack — the security queries that come with the library.

Each language has a directory of queries, known as `language/name`.  A language whose grammar
extends another's is searched with the other's queries first.
-/
import HookAudit.Language.Basic
import HookAudit.Query.Pack.Bash
import HookAudit.Query.Pack.JavaScript
import HookAudit.Query.Pack.Python

namespace HookAudit

/-- The languages whose queries a language is searched with, in order. -/
def Language.queryLanguages : Language → List Language
  | .typescript => [.javascript, .typescript]
  | lang => [lang]

/-- The queries that come with the library for one language, in order of their names. -/
def Language.pack : Language → List PackedQuery
  | .python => Query.Python.pack
  | .bash => Query.Bash.pack
  | .javascript => Query.JavaScript.pack
  | .typescript => Query.JavaScript.typedPack

/-- The name of a query with its language. -/
def PackedQuery.qualified (lang : Language) (packed : PackedQuery) : Text :=
  lang.name ++ "/" ++ packed.name

/-- All queries that a language is searched with. -/
def Language.packedQueries (lang : Language) : List Query :=
  lang.queryLanguages.flatMap fun source => source.pack.map (·.query)

end HookAudit
