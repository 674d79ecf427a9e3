/-
# HookAudit.Json.Value — documents.

A document value.  Strings are texts, so a document may hold lone surrogates; an object keeps its
members in document order with each name once; a number with a fraction or an exponent keeps its
spelling, since no rule of the analyser looks at its value.
-/
import HookAudit.Text.CodePoint

namespace HookAudit

/-- A document value. -/
inductive Json where
  | null
  | bool (value : Bool)
  | int (value : Int)
  | real (spelling : Text)
  | str (value : Text)
  | arr (items : List Json)
  | obj (members : List (Text × Json))

namespace Json

instance : Inhabited Json := ⟨null⟩

/-- The kind of a value, as messages name it. -/
def kindName : Json → Text
  | null => "NoneType"
  | bool _ => "bool"
  | int _ => "int"
  | real _ => "float"
  | str _ => "str"
  | arr _ => "list"
  | obj _ => "dict"

/-- The value of an object under a name. -/
def get? (name : Text) : Json → Option Json
  | obj members => members.lookup name
  | _ => none

end Json

/-- Adds an entry to a list of named values: a name keeps its first place and takes its last
value. -/
def putEntry {α : Type} (entries : List (Text × α)) (name : Text) (value : α) :
    List (Text × α) :=
  if entries.any (·.1 == name) then
    entries.map fun entry => if entry.1 == name then (name, value) else entry
  else entries ++ [(name, value)]

/-- The entries of a list of named values, each name once. -/
def entriesOf {α : Type} (pairs : List (Text × α)) : List (Text × α) :=
  pairs.foldl (fun entries pair => putEntry entries pair.1 pair.2) []

end HookAudit
