/-
# HookAudit.Engine.Scan — analysing one hook.

The language is what the request says, else what the file name says, else what the first line says.
Then toolkit, grammar and queries are asked for in this order; the first that is not there decides
why there is no opinion.
-/
import HookAudit.Detection
import HookAudit.Engine.Queries
import HookAudit.Language.Shebang
import HookAudit.Score

namespace HookAudit.Engine

open Action

/-! ## Matching -/

/-- The tree of source text, which takes a toolkit and a grammar. -/
def parse (toolkit : Option Module) (grammar : Option GrammarRef) (source : Text.Octets) :
    Action Node :=
  match toolkit, grammar with
  | none, _ => fail .matcherWithoutRuntime
  | some _, none => fail .parseWithoutGrammar
  | some _, some ref => parseWith ref source

/-- The captures of some queries in a tree, query by query. -/
def matchAll (root : Node) (source : Text.Octets) (limit : Int) (queries : List NamedQuery) :
    Action (List Capture) := do
  let found ← each (fun q : NamedQuery => search q.compiled root source) queries
  return found.flatten.filterMap fun m => Detection.ofMatch? m source limit

/-- The matcher, built when it is first asked for. -/
def getMatcher : Action Module := do
  let s ← state
  match s.matcher with
  | some toolkit => return toolkit
  | none =>
    match s.loader.toolkit? with
    | none => fail .matcherWithoutRuntime
    | some toolkit =>
      update fun s => { s with matcher := some toolkit }
      return toolkit

/-! ## Scanning -/

/-- Analyses a hook whose language is settled. -/
def scanRequest (content : Text) (lang : Option Language) : Action Outcome := do
  match lang with
  | none => return .noOpinion .unsupportedLanguage "no language given"
  | some lang =>
    if !(← ensureRuntime) then
      return .noOpinion .runtimeUnavailable "tree-sitter is not installed"
    match ← loadGrammar lang with
    | none => return .noOpinion .grammarUnavailable ("no " ++ lang.name ++ " grammar available")
    | some grammar =>
      let queries ← getQueries lang
      if queries.isEmpty then
        return .noOpinion .noQueries ("no " ++ lang.name ++ " queries compiled")
      let toolkit ← getMatcher
      let source := Text.encode content
      let root ← parse (some toolkit) (some grammar) source
      let captures ← matchAll root source (← state).config.snippetLength queries
      return .assessed (Assessment.ofCaptures captures)

/-- What a request calls its hook. -/
def displayName (filename : Option Text) : Text :=
  match filename with
  | some name => if name.isEmpty then "<inline hook>" else name
  | none => "<inline hook>"

/-- The language of a hook: named, else by file name, else by its first line. -/
def languageOf (content : Text) (lang : Option LanguageName) (filename : Option Text) :
    Except LanguageError (Option Language) := do
  match ← Language.choose lang filename with
  | some lang => return some lang
  | none => return Language.ofShebang? content

/-- Analyses a hook. -/
def scan (content : Text) (lang : Option LanguageName) (filename : Option Text) :
    Action Outcome :=
  match languageOf content lang filename with
  | .error e => fail (.language e)
  | .ok none =>
    return .noOpinion .unsupportedLanguage
      ("cannot determine language of " ++ displayName filename)
  | .ok (some lang) => scanRequest content (some lang)

/-! ## Availability -/

/-- What the engine can analyse. -/
structure Availability where
  available : Bool
  reason : Option NoOpinion := none
  languages : List Language := []
deriving DecidableEq

/-- Loads everything that is there and tells what can be analysed. -/
def availability : Action Availability := do
  if !(← ensureRuntime) then
    return { available := false, reason := some .runtimeUnavailable }
  let usable ← select (fun lang => do
    match ← loadGrammar lang with
    | none => return false
    | some _ => return !(← getQueries lang).isEmpty) Language.all
  if usable.isEmpty then return { available := false, reason := some .grammarUnavailable }
  return { available := true, languages := usable }

/-- Forgets everything that has been loaded, compiled or built. -/
def reset : Action Unit := do
  resetQueries
  resetLoader
  update fun s => { s with matcher := none }

end HookAudit.Engine
