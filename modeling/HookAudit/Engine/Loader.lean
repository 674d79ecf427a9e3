/-
# HookAudit.Engine.Loader — loading the toolkit and the grammars.

Each is loaded when it is first needed, and remembered.  A failure to load is remembered too,
unless the configuration asks to try again, and is warned about once.  Failures that are no
absence go through and leave nothing behind.
-/
import HookAudit.Engine.Action

namespace HookAudit.Engine

open Action

/-- The part of the program that warns about loading. -/
def loaderSource : Text := "hookwarden.core.grammar"

/-- The module of the toolkit. -/
def toolkitModule : Text := "tree_sitter"

/-- The names that a toolkit has to offer. -/
def toolkitNames : List Text := ["Language", "Parser", "Query", "QueryCursor", "QueryError"]

/-- Warns about a subject, unless that has happened before. -/
def warnOnce (subject : Subject) (message : Text) : Action Unit := do
  let s ← state
  if s.loader.warned.contains subject then return
  updateLoader fun l => { l with warned := subject :: l.warned }
  log .warning loaderSource message

/-! ## The toolkit -/

/-- Imports the toolkit and looks whether it offers everything. -/
def importToolkit : Action (Option Module) := do
  match ← importModule toolkitModule with
  | .error failure =>
    if failure.kind == .missing then
      warnOnce .runtime ("tree-sitter runtime not installed: " ++ failure.message)
      return none
    else fail (.outside failure)
  | .ok toolkit =>
    let lacking := toolkitNames.filter (!toolkit.offers ·)
    if lacking.isEmpty then return some toolkit
    warnOnce .runtime ("tree-sitter runtime lacks " ++ Text.join ", " lacking ++
      "; upgrade to py-tree-sitter >= 0.25")
    return none

/-- Looks for the toolkit and remembers what came of it; tells whether it is there. -/
def loadToolkit : Action Bool := do
  match ← importToolkit with
  | none =>
    updateLoader fun l => { l with runtime := .unavailable }
    return false
  | some toolkit =>
    updateLoader fun l => { l with runtime := .ready toolkit }
    return true

/-- Loads the toolkit unless that is settled; tells whether it is there. -/
def ensureRuntime : Action Bool := do
  let s ← state
  match s.loader.runtime with
  | .ready _ => return true
  | .unavailable => if s.config.retryUnavailable then loadToolkit else return false
  | .uninitialized => loadToolkit

/-! ## Grammars -/

/-- Where the grammars come from; an empty table stands for the usual one. -/
def grammarTable (config : EngineConfig) : GrammarTable :=
  if config.grammars.isEmpty then defaultGrammars else config.grammars

/-- What a factory yields, opened by the toolkit. -/
def openWith (toolkit : Option Module) (result : Except Failure GrammarRef) :
    Except Failure GrammarRef := do
  let ref ← result
  match toolkit with
  | some toolkit => toolkit.openGrammar ref
  | none => .ok ()
  return ref

/-- Imports a grammar. -/
def importGrammar (lang : Language) : Action (Option GrammarRef) := do
  let s ← state
  let warn (message : Text) : Action (Option GrammarRef) := do
    warnOnce (.grammar lang) message
    return none
  match (grammarTable s.config).lookup lang with
  | none => warn ("No grammar module configured for " ++ lang.name)
  | some (module, factory) =>
    match ← importModule module with
    | .error failure =>
      if failure.kind == .missing then
        warn ("Grammar for " ++ lang.name ++ " not installed (" ++ module ++ "): " ++
          failure.message)
      else fail (.outside failure)
    | .ok found =>
      match found.lookUp factory with
      | .factory result =>
        match openWith s.loader.toolkit? result with
        | .ok ref => return some ref
        | .error failure =>
          if failure.kind == .badType || failure.kind == .badValue then
            warn ("Grammar " ++ module ++ " failed to load: " ++ failure.message)
          else fail (.outside failure)
      | _ => warn ("Grammar module " ++ module ++ " has no " ++ factory ++ "()")

/-- Whether a grammar is loaded. -/
def isLoaded (lang : Language) : Action Bool := do
  return ((← state).loader.loaded.lookup lang).isSome

/-- The grammar of a language, loaded when it is first asked for. -/
def loadGrammar (lang : Language) : Action (Option GrammarRef) := do
  let s ← state
  match s.loader.loaded.lookup lang with
  | some ref => return some ref
  | none =>
    if s.loader.missing.contains lang && !s.config.retryUnavailable then return none
    if !(← ensureRuntime) then return none
    match ← importGrammar lang with
    | none =>
      updateLoader fun l =>
        { l with missing := if l.missing.contains lang then l.missing else lang :: l.missing }
      return none
    | some ref =>
      updateLoader fun l =>
        { l with missing := l.missing.filter (· != lang), loaded := (lang, ref) :: l.loaded }
      return some ref

/-- The languages whose grammar can be loaded. -/
def availableLanguages : Action (List Language) :=
  select (fun lang => return (← loadGrammar lang).isSome) Language.all

/-- Forgets what has been loaded and what could not be. -/
def resetLoader : Action Unit := updateLoader fun _ => {}

end HookAudit.Engine
