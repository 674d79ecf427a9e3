/-
# HookAudit.Scanner.Hook — assessing hooks.

The engine is asked first and the heuristics always: an analysis is merged with the heuristic
assessment, and without an analysis that assessment stands alone.  Hooks above the size limit are
not given to the engine.
-/
import HookAudit.Engine.Scan
import HookAudit.Heuristics

namespace HookAudit.Scanner

open Engine Action

/-- Something that has an opinion on hooks: given the content of a hook, how its language is named
and its file name, it says what it has to say. -/
abbrev Analyst := Text → Option LanguageName → Option Text → Action Outcome

/-- A hook with its assessment. -/
structure HookFile where
  name : Text
  content : Text
  assessment : Assessment
  /-- The event that the hook is attached to. -/
  eventType : Option Text := none
  description : Option Text := none
  /-- Whether the engine had an opinion. -/
  analyzed : Bool := true

/-- The part of the program that speaks about hooks. -/
def scannerSource : Text := "hookwarden.scanner.service"

/-- Assesses a hook; tells also whether the engine had an opinion. -/
def assess (config : ScannerConfig) (analyst : Analyst) (content : Text)
    (filename : Option Text) (lang : Option LanguageName) : Action (Assessment × Bool) := do
  let heuristic := Heuristics.scan content
  if (Text.encodedLength content : Int) > config.maxContentBytes then
    log .info scannerSource ("Hook " ++ displayName filename ++ " exceeds " ++
      Text.ofInt config.maxContentBytes ++ " bytes; using heuristic scan only")
    return (heuristic, false)
  match ← analyst content lang filename with
  | .noOpinion _ _ => return (heuristic, false)
  | .assessed assessment => return (assessment.merge heuristic, true)

/-- Assesses a hook. -/
def scanHook (config : ScannerConfig) (analyst : Analyst) (content : Text)
    (filename : Option Text) (lang : Option LanguageName) : Action Assessment :=
  return (← assess config analyst content filename lang).1

/-- Reads and assesses a hook file. -/
def scanFile (config : ScannerConfig) (analyst : Analyst) (eventType : Option Text)
    (lang : Option LanguageName) (path : Path) : Action HookFile := do
  match (← files).textLossy path with
  | .error e => fail (.unreadableHook path.toText (e.reason path.toText))
  | .ok content =>
    let (assessment, analyzed) ← assess config analyst content (some path.name) lang
    return { name := path.name, content, assessment, eventType, analyzed }

/-- Reads and assesses hook files; the first in order that cannot be read decides the error. -/
def scanFiles (config : ScannerConfig) (analyst : Analyst) (paths : List Path)
    (eventType : Option Text) (lang : Option LanguageName) : Action (List HookFile) :=
  every (scanFile config analyst eventType lang) paths

end HookAudit.Scanner
