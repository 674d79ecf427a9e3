/-
# HookAudit.CommandLine.Page — what a command prints.

A page is printed part by part.  A part in which markup is wrong prints nothing, and neither does
anything behind it.
-/
import HookAudit.Terminal.Markup
import HookAudit.Terminal.Table

namespace HookAudit.CommandLine

open Terminal

/-- The width of the terminal. -/
def pageWidth : Nat := 200

/-- Parts of a page, each of them lines or an error. -/
abbrev Page := List (Except MarkupError (List Text))

namespace Page

/-- A part in which tags and short names of emoji count. -/
def markup (t : Text) : Except MarkupError (List Text) :=
  (markupText t).map (layOut pageWidth .fold .natural)

/-- A part in which only short names of emoji count. -/
def words (t : Text) : Except MarkupError (List Text) :=
  .ok (layOut pageWidth .fold .natural (plain t))

/-- Tags count in all members of a list. -/
def readAll : List Text → Except MarkupError (List Text)
  | [] => .ok []
  | t :: rest =>
    match markupText t with
    | .error e => .error e
    | .ok t => (readAll rest).map (t :: ·)

/-- Tags count in all cells of a table. -/
def readRows : List (List Text) → Except MarkupError (List (List Text))
  | [] => .ok []
  | row :: rest =>
    match readAll row with
    | .error e => .error e
    | .ok row => (readRows rest).map (row :: ·)

/-- A part that is a table; tags count in its cells. -/
def table (title : Text) (columns : List Column) (rows : List (List Text)) :
    Except MarkupError (List Text) :=
  (readRows rows).map fun rows => Table.lines { title, columns, rows } pageWidth

/-- What is printed of a page, and the error that ended it. -/
def print : Page → Text × Option MarkupError
  | [] => ([], none)
  | .error e :: _ => ([], some e)
  | .ok lines :: rest =>
    let (behind, e) := print rest
    (lines.flatMap (fun line => line ++ [.ofChar '\n']) ++ behind, e)

end Page

end HookAudit.CommandLine
