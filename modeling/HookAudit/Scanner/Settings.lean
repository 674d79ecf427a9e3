/-
# HookAudit.Scanner.Settings — hooks inside settings documents.

Under `hooks` a settings document lists configurations for each event.  A configuration may hold
code of its own and a list of further hooks, each with code or with a shell command.  Whatever has
another shape is passed over; positions count everything, also what is passed over.
-/
import HookAudit.Json.Value
import HookAudit.Scanner.Hook

namespace HookAudit.Scanner

open Engine Action

/-- A hook inside a settings document: where it stands, its content and its language. -/
structure InlineHook where
  key : Text
  content : Text
  lang : Option Language
deriving DecidableEq

/-- The text of an object under a name. -/
def textOf? (j : Json) (name : Text) : Option Text :=
  match j.get? name with
  | some (.str t) => some t
  | _ => none

/-- A position in a list, as keys write it. -/
def position (key : Text) (index : Nat) : Text := key ++ "[" ++ Text.ofNat index ++ "]"

/-- The hook that an object has as text under a name. -/
def hookUnder (j : Json) (name key : Text) (lang : Option Language) : List InlineHook :=
  match textOf? j name with
  | some content => [{ key, content, lang }]
  | none => []

/-- The hooks of one of the further hooks of a configuration. -/
def nestedHooks (key : Text) (j : Json) : List InlineHook :=
  hookUnder j "code" (key ++ ".inline") none ++
    hookUnder j "command" (key ++ ".command") (some .bash)

/-- The members of a list under a name, each with its position. -/
def itemsUnder (j : Json) (name : Text) : List (Json × Nat) :=
  match j.get? name with
  | some (.arr items) => items.zipIdx
  | _ => []

/-- The hooks of a configuration. -/
def configurationHooks (key : Text) (j : Json) : List InlineHook :=
  hookUnder j "code" (key ++ ".inline") none ++
    (itemsUnder j "hooks").flatMap fun (hook, index) =>
      nestedHooks (position (key ++ ".hooks") index) hook

/-- The hooks of an event. -/
def eventHooks (event : Text) : Json → List InlineHook
  | .arr configurations => configurations.zipIdx.flatMap fun (configuration, index) =>
    configurationHooks (position event index) configuration
  | _ => []

/-- The hooks of a settings document, in document order. -/
def inlineHooks (settings : Json) : List InlineHook :=
  match settings.get? "hooks" with
  | some (.obj events) => events.flatMap fun (event, configurations) =>
    eventHooks event configurations
  | _ => []

/-- Assesses every hook inside a settings document; a key that occurs twice keeps its first place
and its last assessment. -/
def scanSettings (config : ScannerConfig) (analyst : Analyst) (settings : Json) :
    Action (List (Text × Assessment)) := do
  match settings with
  | .obj _ =>
    let found ← each (fun hook : InlineHook => do
      let assessment ← scanHook config analyst hook.content none (hook.lang.map .known)
      return (hook.key, assessment)) (inlineHooks settings)
    return entriesOf found
  | other => fail (.settingsKind other.kindName)

/-- Reads a settings document.  A number that is too long to convert is no fault of the document,
so its failure goes through. -/
def readSettings (path : Path) : Action Json := do
  match (← files).text path with
  | .error (.unreadable e) => fail (.unreadableSettings path.toText (e.reason path.toText))
  | .error (.undecodable fault) => fail (.undecodableSettings path.toText fault.offset)
  | .ok text => match Json.read text with
    | .ok settings => return settings
    | .error e => match e.fault with
      | .hugeNumber _ => fail (.outside ⟨.badValue, e.fault.message⟩)
      | _ => fail (.malformedSettings path.toText e)

end HookAudit.Scanner
