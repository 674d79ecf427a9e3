/-
# HookAudit.Engine.Rehearsal — a world with stand-ins.

For rehearsing the engine without grammars, a stand-in for the toolkit accepts every source, knows
the captures of a query from its text, and finds what a script says it finds.
-/
import HookAudit.Engine.Installed

namespace HookAudit.Engine

/-! ## Queries known by their text -/

/-- The word that makes a query malformed. -/
def brokenWord : Text := "BROKEN"

/-- The captures that the text of a query names, each once: the words that start with an at sign,
brackets set aside. -/
def namesInText (source : Text) : List Text :=
  let open_ := source.map fun c => if c.is '(' || c.is ')' then CodePoint.ofChar ' ' else c
  Query.dedup <| (Text.words open_).filterMap fun word =>
    match word with
    | c :: rest => if c.is '@' then some rest else none
    | [] => none

/-- Compiles the text of a query. -/
def compileText (source : Text) : Except Failure Compiled :=
  match Text.indexOf? brokenWord source with
  | some offset => .error ⟨.badQuery, "Invalid syntax at offset " ++ Text.ofNat offset⟩
  | none => .ok (.text source (namesInText source))

/-! ## Modules -/

/-- A stand-in for the toolkit that lacks some names. -/
def standIn (lacks : List Text) : Module where
  offers name := !lacks.contains name
  openGrammar
    | .labelled label =>
      if label == ("bad-abi" : Text) then .error ⟨.badValue, "Incompatible Language version"⟩
      else if label == ("bad-type" : Text) then .error ⟨.badType, "expected a grammar pointer"⟩
      else .ok ()
    | .language _ => .ok ()
  compile
    | _, .written source => compileText source
    | _, .packed query => .ok (.text [] query.captureNames)

/-- A module that has one thing under one name. -/
def moduleWith (name : Text) (found : Export) : Module where
  offers wanted := wanted == name
  lookUp wanted := if wanted == name then found else .absent

/-! ## Scripts -/

/-- What is found by the queries whose text contains some words. -/
structure Cue where
  words : Text
  found : Found

/-- The world of some modules in which queries known by their text find what a script says. -/
def rehearsal (modules : List (Text × Except Failure Module)) (files : Files)
    (script : List Cue) : World where
  importModule := importFrom modules
  files := files
  parse := parseInstalled
  search compiled root source :=
    match compiled with
    | .text text _ => (script.filter fun cue => Text.contains cue.words text).map (·.found)
    | .rules _ => searchInstalled compiled root source

end HookAudit.Engine
