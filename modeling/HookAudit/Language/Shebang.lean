/-
# HookAudit.Language.Shebang — the interpreter line.

A hook whose first line starts with `#!` names the program that runs it.  When that program is
`env`, the first argument that is no option names it instead (the last argument, if all are
options).  Directories and a version suffix of digits and dots are dropped before the program is
looked up.
-/
import HookAudit.Language.Basic
import HookAudit.Regex.Match

namespace HookAudit.Language

open Regex

/-- The shape of an interpreter line: the program, and behind options the first argument. -/
def shebangLine : Regex :=
  seqs [textStart, literal "#!", many blank, group 1 (Regex.some nonBlank),
    opt (seqs [Regex.some blank,
      many (seqs [char '-', Regex.some nonBlank, Regex.some blank]),
      group 2 (Regex.some nonBlank)])]

/-- The programs that run hooks. -/
def interpreters : List (Text × Language) :=
  [("python", python), ("bash", bash), ("sh", bash), ("zsh", bash), ("dash", bash),
   ("node", javascript), ("deno", typescript), ("ts-node", typescript), ("tsx", typescript)]

/-- A program name without the digits and dots that end it, unless nothing else is there. -/
def dropVersion (program : Text) : Text :=
  let bare := (program.reverse.dropWhile fun c => c.isDigit || c.is '.').reverse
  if bare.isEmpty then program else bare

/-- The language of the interpreter that the first line of a hook names. -/
def ofShebang? (content : Text) : Option Language :=
  match shebangLine.matchStart content.firstLine with
  | none => none
  | Option.some groups =>
    match groups.lookup 1 with
    | none => none
    | Option.some written =>
      let program := (Path.ofText written).name
      let program := match groups.lookup 2 with
        | Option.some argument =>
          if program == ("env" : Text) then (Path.ofText argument).name else program
        | none => program
      interpreters.lookup (dropVersion program)

end HookAudit.Language
