/-
# HookAudit.Files.Path — paths and the parts of a file name.

A path is read once into its anchor and its components; empty components and single dots say
nothing and are dropped, double dots are kept.  A suffix starts at the last dot of the last
component, provided something stands before and after that dot.
-/
import HookAudit.Text.CodePoint

namespace HookAudit

/-- A path: the slashes it starts from, and the components after them. -/
structure Path where
  /-- `/`, `//` or nothing. -/
  anchor : Text
  /-- The components that lead from the anchor to the file. -/
  parts : List Text
deriving DecidableEq

namespace Path

/-- The anchor of a written path: exactly two leading slashes are kept, more count as one. -/
def anchorOf (t : Text) : Text :=
  match (t.takeWhile (·.is '/')).length with
  | 0 => ""
  | 2 => "//"
  | _ => "/"

/-- The path that a text writes. -/
def ofText (t : Text) : Path where
  anchor := anchorOf t
  parts := (t.splitOn '/').filter fun part => !part.isEmpty && part != ("." : Text)

/-- The shortest spelling of a path. -/
def toText (p : Path) : Text :=
  if p.anchor.isEmpty && p.parts.isEmpty then "."
  else p.anchor ++ Text.join "/" p.parts

/-- The last component, empty when there is none. -/
def name (p : Path) : Text := p.parts.getLast?.getD []

/-- The number of code points before the last dot of a name. -/
def lastDot? (name : Text) : Option Nat :=
  (name.reverse.findIdx? (·.is '.')).map fun i => name.length - 1 - i

/-- Where the suffix of a name starts, if it has one. -/
def suffixStart? (name : Text) : Option Nat :=
  (lastDot? name).filter fun i => 0 < i && i + 1 < name.length

/-- The suffix of the last component, with its dot. -/
def suffix (p : Path) : Text :=
  match suffixStart? p.name with
  | some i => p.name.drop i
  | none => []

/-- The last component without its suffix. -/
def stem (p : Path) : Text :=
  match suffixStart? p.name with
  | some i => p.name.take i
  | none => p.name

/-- The path without its last component. -/
def parent (p : Path) : Path := { p with parts := p.parts.dropLast }

/-- A path continued by one component. -/
def child (p : Path) (name : Text) : Path := { p with parts := p.parts ++ [name] }

/-- The order of paths: by their components, each compared by code point. -/
def partsLe : List Text → List Text → Bool
  | [], _ => true
  | _ :: _, [] => false
  | a :: as, b :: bs => if a == b then partsLe as bs else Text.le a b

end Path

end HookAudit
