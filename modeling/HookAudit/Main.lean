/-
# HookAudit.Main — the program.

Reads what the arguments name into a tree of files, runs, and prints.  Every decision is made by
`CommandLine.run`.
-/
import HookAudit.CommandLine.Run
import HookAudit.Engine.Installed

namespace HookAudit

/-! ## Files -/

/-- Reads a file or a directory with all that is in it; what cannot be read counts as withheld. -/
partial def readEntry (entry : IO.FS.DirEntry) (parts : List Text) :
    IO (FileTree × List (List Text × FileError)) := do
  if ← entry.path.isDir then
    let mut below := #[]
    let mut withheld := []
    for child in ← entry.path.readDir do
      let name := Text.ofString child.fileName
      let (tree, more) ← readEntry child (parts ++ [name])
      below := below.push (name, tree)
      withheld := withheld ++ more
    return (.directory below.toList, withheld)
  else
    try
      return (.file (← IO.FS.readBinFile entry.path).toList, [])
    catch _ =>
      return (.file [], [(parts, .denied "Permission denied")])

/-- Files with what a path leads to, if it leads to anything. -/
def addPath (files : Files) (written : String) : IO Files := do
  let entry : IO.FS.DirEntry := { root := ← IO.currentDir, fileName := written }
  if written.isEmpty || !(← entry.path.pathExists) then return files
  let path := Path.ofText (Text.ofString written)
  let (tree, withheld) ← readEntry entry path.parts
  let place := Path.ofText (Text.ofString (← IO.FS.realPath entry.path).toString)
  return { files with tree := files.tree.put tree place.parts, denied := files.denied ++ withheld }

/-- Files with what several paths lead to. -/
def addPaths (files : Files) : List String → IO Files
  | [] => return files
  | written :: rest => do addPaths (← addPath files written) rest

/-! ## The environment -/

/-- The variables that the program looks at. -/
def variableNames : List String :=
  ["HOOKWARDEN_QUERY_DIR", "HOOKWARDEN_SNIPPET_LENGTH", "HOOKWARDEN_RETRY_UNAVAILABLE"]

/-- The variables that are set. -/
def readEnvironment : List String → IO Environment
  | [] => return []
  | name :: rest => do
    let others ← readEnvironment rest
    return match ← IO.getEnv name with
      | some value => (Text.ofString name, Text.ofString value) :: others
      | none => others

/-! ## The program -/

/-- Runs the program. -/
def runProgram (args : List String) : IO UInt32 := do
  let environment ← readEnvironment variableNames
  let home := (← IO.getEnv "HOME").getD ""
  let here := Path.ofText (Text.ofString (← IO.currentDir).toString)
  let named := args ++ environment.map fun (_, value) => Text.toString value
  let files ← addPaths { tree := FileTree.empty.put .empty here.parts, here := here.parts } named
  let around : CommandLine.Surroundings :=
    { world := Engine.installed files [], environment, home := Text.ofString home }
  let result := CommandLine.run around (args.map Text.ofString)
  IO.print (Text.toString result.out)
  IO.eprint (Text.toString result.err)
  match result.ending with
  | .exit code => return code.toUInt32
  | .broken cause =>
    IO.eprintln (Text.toString cause.message)
    return 1

end HookAudit

/-- The entry point. -/
def main (args : List String) : IO UInt32 := HookAudit.runProgram args
