/-
# HookAudit.Engine.World — what the engine finds outside itself.

The parsing toolkit and the grammars are optional modules, imported by name when they are first
needed.  Importing a module, opening a grammar and compiling a query may each fail with a failure
of some kind; the engine answers some kinds with a remembered absence and lets the others through.
A world fixes all answers from outside, so an operation of the engine is a function of the world
and of the state of the engine.
-/
import HookAudit.Files.Tree
import HookAudit.Language.Basic
import HookAudit.Query.Pattern
import HookAudit.Tree.Node

namespace HookAudit.Engine

/-! ## Failures from outside -/

/-- The kinds of failure that the engine tells apart. -/
inductive FailureKind where
  /-- A module is not there or cannot be loaded. -/
  | missing
  /-- A value is refused. -/
  | badValue
  /-- A value of another kind was expected. -/
  | badType
  /-- A query is malformed. -/
  | badQuery
  /-- Anything else, by name. -/
  | other (name : Text)
deriving DecidableEq

/-- A failure with its message. -/
structure Failure where
  kind : FailureKind
  message : Text
deriving DecidableEq

/-! ## Modules -/

/-- What a grammar module hands out for a toolkit to open. -/
inductive GrammarRef where
  /-- The grammar of a language. -/
  | language (lang : Language)
  /-- Something else, known by a label. -/
  | labelled (label : Text)
deriving DecidableEq

/-- What a module has under a name. -/
inductive Export where
  /-- Nothing. -/
  | absent
  /-- A value that cannot be called. -/
  | value
  /-- A factory, with what a call of it yields. -/
  | factory (result : Except Failure GrammarRef)

/-- The source of a query. -/
inductive QueryText where
  /-- Text in the notation of queries. -/
  | written (source : Text)
  /-- A query that comes with the library. -/
  | packed (query : Query)

/-- A compiled query. -/
inductive Compiled where
  /-- Rules to match. -/
  | rules (query : Query)
  /-- Text whose matches are known elsewhere, with the captures it declares. -/
  | text (source : Text) (names : List Text)

/-- The captures that a compiled query declares. -/
def Compiled.captureNames : Compiled → List Text
  | .rules query => query.captureNames
  | .text _ names => names

/-- A module, with what can be done with it. -/
structure Module where
  /-- Whether it has something under a name that a toolkit needs. -/
  offers : Text → Bool := fun _ => false
  /-- What it has under the name of a factory. -/
  lookUp : Text → Export := fun _ => .absent
  /-- Opens a grammar. -/
  openGrammar : GrammarRef → Except Failure Unit := fun _ => .ok ()
  /-- Compiles a query for a grammar. -/
  compile : GrammarRef → QueryText → Except Failure Compiled :=
    fun _ _ => .error ⟨.other "", []⟩

instance : Inhabited Module := ⟨{}⟩

/-! ## The world -/

/-- Captured places by name, in the order in which a match lists them. -/
abbrev Found := List (Text × List Span)

/-- Everything the engine finds outside itself. -/
structure World where
  /-- Imports a module by name. -/
  importModule : Text → Except Failure Module
  /-- The files. -/
  files : Files := {}
  /-- The tree of source text under a grammar. -/
  parse : GrammarRef → Text.Octets → Node
  /-- The matches of a compiled query in a tree. -/
  search : Compiled → Node → Text.Octets → List Found

/-- The failure of importing a module that is not there. -/
def notInstalled (name : Text) : Failure := ⟨.missing, "No module named '" ++ name ++ "'"⟩

/-- Imports from a table of modules, some of which fail to load. -/
def importFrom (table : List (Text × Except Failure Module)) (name : Text) :
    Except Failure Module :=
  (table.lookup name).getD (.error (notInstalled name))

end HookAudit.Engine
