/-
# HookAudit.Engine.Queries — the query files of a language, compiled and remembered.

Files are read in the order of their names.  A file that cannot be read or compiled, or that names
no risk, is skipped with a warning; an empty one silently.  Validation looks at the same files and
reports what became of each.
-/
import HookAudit.Engine.Loader
import HookAudit.Query.Pack
import HookAudit.Sum

namespace HookAudit.Engine

open Action

/-- The part of the program that warns about queries. -/
def queriesSource : Text := "hookwarden.core.queries"

/-! ## Files -/

/-- A query file: its name, its path, and what it holds. -/
structure QueryFile where
  name : Text
  path : Path
  content : Except Text QueryText

/-- Whether a query file has nothing to compile. -/
def QueryText.isBlank : QueryText → Bool
  | .written source => source.isBlank
  | .packed _ => false

/-- The query files in the directory of one language. -/
def filesOf (files : Files) (source : QuerySource) (lang : Language) : List QueryFile :=
  match source with
  | .packaged => lang.pack.map fun packed =>
    { name := packed.qualified lang, path := ⟨[], [lang.name, packed.name ++ ".scm"]⟩,
      content := .ok (.packed packed.query) }
  | .directory root =>
    ((files.filesIn (root.child lang.name)).filter (·.suffix == (".scm" : Text))).map fun path =>
      { name := path.parent.name ++ "/" ++ path.stem, path
        content := match files.text path with
          | .ok text => .ok (.written text)
          | .error e => .error (e.message path.toText) }

/-- The query files of a language in the order in which they are compiled. -/
def queryFiles (files : Files) (source : QuerySource) (lang : Language) : List QueryFile :=
  lang.queryLanguages.flatMap (filesOf files source)

/-! ## Compilation -/

/-- Compiles one query. -/
def compileQuery (toolkit : Module) (grammar : GrammarRef) (name : Text) (text : QueryText) :
    Action NamedQuery :=
  match toolkit.compile grammar text with
  | .ok compiled => return { name, compiled }
  | .error failure =>
    if failure.kind == .badQuery then fail (.malformedQuery name failure.message)
    else fail (.outside failure)

/-- The query of a file, unless it has to be skipped. -/
def compileFile (toolkit : Module) (grammar : GrammarRef) (file : QueryFile) :
    Action (Option NamedQuery) := do
  let warn (message : Text) : Action (Option NamedQuery) := do
    log .warning queriesSource message
    return none
  match file.content with
  | .error reason => warn ("Cannot read query " ++ file.path.toText ++ ": " ++ reason)
  | .ok text =>
    if text.isBlank then return none
    match ← attempt (compileQuery toolkit grammar file.name text) with
    | .error (.malformedQuery name reason) =>
      warn ("Skipping malformed query " ++ (Fault.malformedQuery name reason).message)
    | .error e => fail e
    | .ok query =>
      if query.riskCaptures.isEmpty then
        warn ("Query " ++ file.name ++ " declares no danger/warn/taint capture; skipping")
      else return some query

/-- The toolkit, which has to be there once a grammar is. -/
def requireToolkit : Action Module := do
  match (← state).loader.toolkit? with
  | some toolkit => return toolkit
  | none => fail .queriesWithoutRuntime

/-- The compiled queries of a language, compiled when they are first asked for.  Without a grammar
there are none, and that is not remembered. -/
def getQueries (lang : Language) : Action (List NamedQuery) := do
  let s ← state
  match s.queries.lookup lang with
  | some queries => return queries
  | none =>
    match ← loadGrammar lang with
    | none => return []
    | some grammar =>
      let toolkit ← requireToolkit
      let found ← each (compileFile toolkit grammar)
        (queryFiles (← files) s.config.queries lang)
      let queries := found.filterMap id
      if queries.isEmpty then
        log .warning queriesSource ("No security queries compiled for " ++ lang.name)
      update fun s => { s with queries := (lang, queries) :: s.queries }
      return queries

/-- Forgets the compiled queries. -/
def resetQueries : Action Unit := update fun s => { s with queries := [] }

/-! ## Validation -/

/-- The captures that only serve predicates. -/
def helperCaptures : List Text :=
  ["arg", "attr", "cmd", "ctor", "dl", "exp", "flag", "fn", "func", "key", "key_var", "kwarg",
   "method", "mod", "mode", "module", "name", "obj", "path", "prop", "sh", "target", "var"]

/-- What validation says about one query file. -/
structure FileReport where
  name : Text
  compiled : Bool := false
  captureCount : Nat := 0
  error : Option Text := none
  empty : Bool := false
  /-- The captures that name no risk and are no known helpers. -/
  unusual : List Text := []
  riskless : Bool := false
deriving DecidableEq

/-- Looks at one query file. -/
def reportFile (toolkit : Module) (grammar : GrammarRef) (file : QueryFile) :
    Action FileReport := do
  match file.content with
  | .error reason => return { name := file.name, error := some reason }
  | .ok text =>
    if text.isBlank then return { name := file.name, empty := true }
    match ← attempt (compileQuery toolkit grammar file.name text) with
    | .error (.malformedQuery _ reason) => return { name := file.name, error := some reason }
    | .error e => fail e
    | .ok query =>
      return {
        name := file.name
        compiled := true
        captureCount := query.captureNames.length
        unusual := query.captureNames.filter fun c => !isRiskName c && !helperCaptures.contains c
        riskless := query.riskCaptures.isEmpty }

/-- What validation says about a language. -/
structure PackReport where
  lang : Language
  grammarAvailable : Bool
  files : List FileReport
deriving DecidableEq

namespace PackReport

/-- The number of files that failed. -/
def errorCount (r : PackReport) : Nat :=
  (r.files.filter fun f => !f.compiled && !f.empty).length

/-- The number of files that compiled. -/
def compiledCount (r : PackReport) : Nat := (r.files.filter (·.compiled)).length

/-- The number of doubts about a file. -/
def doubts (f : FileReport) : Nat := f.unusual.length + f.riskless.toNat + f.empty.toNat

/-- The number of doubts about a pack. -/
def warningCount (r : PackReport) : Nat :=
  sumOf doubts r.files + (!r.grammarAvailable).toNat

end PackReport

/-- Looks at every query file of a language; nothing is remembered but the grammar. -/
def validate (lang : Language) : Action PackReport := do
  match ← loadGrammar lang with
  | none => return { lang, grammarAvailable := false, files := [] }
  | some grammar =>
    let toolkit ← requireToolkit
    let s ← state
    let reports ← each (reportFile toolkit grammar) (queryFiles (← files) s.config.queries lang)
    return { lang, grammarAvailable := true, files := reports }

end HookAudit.Engine
