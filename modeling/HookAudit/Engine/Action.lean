/-
# HookAudit.Engine.Action — operations with state, a trace and errors.

An operation changes the state of the engine also when it ends in an error, and leaves a trace: the
modules it tried to import and the messages it logged, in order.
-/
import HookAudit.Config
import HookAudit.Engine.World
import HookAudit.Json.Reader
import HookAudit.Outcome

namespace HookAudit.Engine

/-! ## Errors -/

/-- Why an operation ends without an answer. -/
inductive Fault where
  /-- A failure from outside went through. -/
  | outside (failure : Failure)
  /-- A matcher was asked for before the toolkit is there. -/
  | matcherWithoutRuntime
  /-- Source was to be parsed without a grammar. -/
  | parseWithoutGrammar
  /-- Queries were to be compiled before the toolkit is there. -/
  | queriesWithoutRuntime
  /-- A query is malformed. -/
  | malformedQuery (name reason : Text)
  /-- The language of a hook is unknown. -/
  | language (error : LanguageError)
  /-- A hook cannot be read. -/
  | unreadableHook (path reason : Text)
  /-- A settings document is no object but of some other kind. -/
  | settingsKind (kind : Text)
  /-- A settings document cannot be read. -/
  | unreadableSettings (path reason : Text)
  /-- A settings document is no text from some octet on. -/
  | undecodableSettings (path : Text) (offset : Nat)
  /-- A settings document is malformed. -/
  | malformedSettings (path : Text) (error : Json.ReadError)
deriving DecidableEq

/-- The wording of an error. -/
def Fault.message : Fault → Text
  | .outside failure => failure.message
  | .matcherWithoutRuntime => "PatternMatcher needs an initialized tree-sitter runtime"
  | .parseWithoutGrammar => "Cannot parse without a loaded grammar"
  | .queriesWithoutRuntime => "Grammar loaded before the tree-sitter runtime was ready"
  | .malformedQuery name reason => name ++ ": " ++ reason
  | .language error => error.message
  | .unreadableHook path reason => path ++ ": cannot read hook (" ++ reason ++ ")"
  | .settingsKind kind => "Hook settings must be a JSON object, got " ++ kind
  | .unreadableSettings path reason => path ++ ": cannot read settings (" ++ reason ++ ")"
  | .undecodableSettings path offset =>
    path ++ ": not valid UTF-8 (byte " ++ Text.ofNat offset ++ ")"
  | .malformedSettings path error =>
    path ++ ": invalid JSON (" ++ error.fault.message ++ " at line " ++ Text.ofNat error.line ++ ")"

/-! ## Traces -/

/-- How serious a message is. -/
inductive LogLevel where
  | info | warning
deriving DecidableEq

/-- The name of a level. -/
def LogLevel.name : LogLevel → Text
  | .info => "INFO"
  | .warning => "WARNING"

/-- A message for the log. -/
structure LogEntry where
  level : LogLevel
  /-- The part of the program that speaks. -/
  source : Text
  message : Text
deriving DecidableEq

/-- What an operation did beside its answer. -/
structure Trace where
  /-- The modules it tried to import. -/
  imports : List Text := []
  /-- The messages it logged. -/
  logs : List LogEntry := []
deriving DecidableEq

/-- One trace after another. -/
def Trace.append (a b : Trace) : Trace := ⟨a.imports ++ b.imports, a.logs ++ b.logs⟩

instance : Append Trace := ⟨Trace.append⟩

/-! ## The state of an engine -/

/-- Whether the toolkit is there. -/
inductive RuntimeState where
  | uninitialized
  | ready (toolkit : Module)
  | unavailable

/-- The name of a state. -/
def RuntimeState.name : RuntimeState → Text
  | .uninitialized => "uninitialized"
  | .ready _ => "ready"
  | .unavailable => "unavailable"

/-- What a warning is about. -/
inductive Subject where
  | runtime
  | grammar (lang : Language)
deriving DecidableEq

/-- What has been loaded, and what could not be. -/
structure Loader where
  runtime : RuntimeState := .uninitialized
  /-- The loaded grammars. -/
  loaded : List (Language × GrammarRef) := []
  /-- The languages whose grammar could not be loaded. -/
  missing : List Language := []
  /-- What has been warned about. -/
  warned : List Subject := []

/-- The toolkit, once it is there. -/
def Loader.toolkit? (l : Loader) : Option Module :=
  match l.runtime with
  | .ready toolkit => some toolkit
  | _ => none

/-- A compiled query with its name. -/
structure NamedQuery where
  name : Text
  compiled : Compiled

/-- The captures that a query declares. -/
def NamedQuery.captureNames (q : NamedQuery) : List Text := q.compiled.captureNames

/-- The captures that name a risk. -/
def NamedQuery.riskCaptures (q : NamedQuery) : List Text := q.captureNames.filter isRiskName

/-- The state of an engine. -/
structure State where
  config : EngineConfig
  loader : Loader := {}
  /-- The compiled queries of each language. -/
  queries : List (Language × List NamedQuery) := []
  /-- The toolkit that a matcher was built for. -/
  matcher : Option Module := none

/-! ## Operations -/

/-- An operation that yields an answer of some type. -/
def Action (α : Type) := World → State → Except Fault α × State × Trace

namespace Action

variable {α β : Type}

/-- An answer without effects. -/
protected def pure (a : α) : Action α := fun _ s => (.ok a, s, {})

/-- One operation after another; the second is skipped when the first ends in an error. -/
protected def bind (act : Action α) (next : α → Action β) : Action β := fun w s =>
  match act w s with
  | (.error e, s, trace) => (.error e, s, trace)
  | (.ok a, s, trace) =>
    let (answer, s, more) := next a w s
    (answer, s, trace ++ more)

instance : Monad Action where
  pure := Action.pure
  bind := Action.bind

/-- Ends in an error. -/
def fail (e : Fault) : Action α := fun _ s => (.error e, s, {})

/-- The state. -/
def state : Action State := fun _ s => (.ok s, s, {})

/-- Changes the state. -/
def update (change : State → State) : Action Unit := fun _ s => (.ok (), change s, {})

/-- Changes what is loaded. -/
def updateLoader (change : Loader → Loader) : Action Unit :=
  update fun s => { s with loader := change s.loader }

/-- The files. -/
def files : Action Files := fun w s => (.ok w.files, s, {})

/-- Imports a module. -/
def importModule (name : Text) : Action (Except Failure Module) := fun w s =>
  (.ok (w.importModule name), s, { imports := [name] })

/-- The tree of source text. -/
def parseWith (grammar : GrammarRef) (source : Text.Octets) : Action Node := fun w s =>
  (.ok (w.parse grammar source), s, {})

/-- The matches of a compiled query in a tree. -/
def search (compiled : Compiled) (root : Node) (source : Text.Octets) : Action (List Found) :=
  fun w s => (.ok (w.search compiled root source), s, {})

/-- Logs a message. -/
def log (level : LogLevel) (source message : Text) : Action Unit := fun _ s =>
  (.ok (), s, { logs := [⟨level, source, message⟩] })

/-- The answers of an operation for each member of a list, in order. -/
def each (act : α → Action β) : List α → Action (List β)
  | [] => pure []
  | a :: rest => do
    let b ← act a
    return b :: (← each act rest)

/-- What comes of an operation, be it an error. -/
def attempt (act : Action α) : Action (Except Fault α) := fun w s =>
  let (answer, s, trace) := act w s
  (.ok answer, s, trace)

/-- The answers of an operation for each member of a list, in order.  All are tried, and the first
error decides. -/
def every (act : α → Action β) : List α → Action (List β)
  | [] => pure []
  | a :: rest => do
    let first ← attempt (act a)
    let others ← attempt (every act rest)
    match first, others with
    | .ok b, .ok bs => return b :: bs
    | .error e, _ => fail e
    | _, .error e => fail e

/-- The members of a list that pass a test. -/
def select (test : α → Action Bool) : List α → Action (List α)
  | [] => pure []
  | a :: rest => do
    let keep ← test a
    let others ← select test rest
    return if keep then a :: others else others

end Action

end HookAudit.Engine
