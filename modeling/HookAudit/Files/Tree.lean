/-
# HookAudit.Files.Tree — a tree of files and what can be read from it.

A directory lists its entries by name.  A path is followed component by component: each one but the
last has to be a directory, and `..` goes back to the directory above.  Reading may fail for reasons
of the tree (nothing there, a directory, a file used as a directory) or because a file is withheld;
every failure is a cause, with the short reason and the full wording that messages use.
-/
import HookAudit.Files.Path
import HookAudit.Text.Quoted
import HookAudit.Text.Utf8

namespace HookAudit

/-- A file, or a directory with named entries. -/
inductive FileTree where
  | file (octets : Text.Octets)
  | directory (entries : List (Text × FileTree))

/-- Why a file cannot be read. -/
inductive FileError where
  | notFound
  | notDirectory
  | isDirectory
  /-- The file is withheld, with this reason. -/
  | denied (reason : Text)
  /-- Reading broke off with a message of its own. -/
  | failed (message : Text)
deriving DecidableEq

namespace FileError

/-- The number and the short reason of an error of the file system. -/
def coded : FileError → Option (Nat × Text)
  | notFound => some (2, "No such file or directory")
  | notDirectory => some (20, "Not a directory")
  | isDirectory => some (21, "Is a directory")
  | denied reason => some (13, reason)
  | failed _ => none

/-- The wording of an error about a path. -/
def message (path : Text) (e : FileError) : Text :=
  match e with
  | failed text => text
  | e => match e.coded with
    | some (number, reason) =>
      "[Errno " ++ Text.ofNat number ++ "] " ++ reason ++ ": " ++ path.quoted
    | none => []

/-- The short reason of an error, or its wording when it has none. -/
def reason (path : Text) (e : FileError) : Text :=
  match e.coded with
  | some (_, text) => if text.isEmpty then e.message path else text
  | none => e.message path

end FileError

namespace FileTree

/-- The empty directory. -/
def empty : FileTree := directory []

/-- The entries of a directory. -/
def entries : FileTree → List (Text × FileTree)
  | file _ => []
  | directory entries => entries

/-- What a path leads to, from a directory and the directories above it. -/
def follow (here : FileTree) (above : List FileTree) : List Text → Except FileError FileTree
  | [] => .ok here
  | part :: rest =>
    match here with
    | file _ => .error .notDirectory
    | directory entries =>
      if part == (".." : Text) then
        match above with
        | [] => .error .notFound
        | parent :: above => follow parent above rest
      else match entries.lookup part with
        | none => .error .notFound
        | some next => follow next (here :: above) rest

/-- A tree with something put at a path; directories on the way are made. -/
def put (tree : FileTree) (body : FileTree) : List Text → FileTree
  | [] => body
  | part :: rest =>
    let old := tree.entries
    let next := put ((old.lookup part).getD empty) body rest
    if old.any (·.1 == part) then
      directory (old.map fun entry => if entry.1 == part then (part, next) else entry)
    else directory (old ++ [(part, next)])

/-- A tree without what a path leads to. -/
def remove (tree : FileTree) : List Text → FileTree
  | [] => tree
  | [part] => directory (tree.entries.filter (·.1 != part))
  | part :: rest =>
    directory (tree.entries.map fun entry =>
      if entry.1 == part then (part, remove entry.2 rest) else entry)

mutual

/-- The paths of all files below a tree. -/
def filePaths : FileTree → List (List Text)
  | file _ => [[]]
  | directory entries => filePathsIn entries

/-- The paths of all files below the entries of a directory. -/
def filePathsIn : List (Text × FileTree) → List (List Text)
  | [] => []
  | (name, tree) :: rest => (filePaths tree).map (name :: ·) ++ filePathsIn rest

end

end FileTree

/-! ## Files with access rules -/

/-- Files, and the paths that are withheld from reading. -/
structure Files where
  /-- Everything there is. -/
  tree : FileTree := .empty
  /-- The directory from which relative paths start. -/
  here : List Text := []
  /-- The withheld paths, each with the error that reading it gives. -/
  denied : List (List Text × FileError) := []

namespace Files

/-- The components from the top of the tree to what a path names. -/
def locate (files : Files) (path : Path) : List Text :=
  (if path.anchor.isEmpty then files.here else []) ++ path.parts

/-- What a path leads to. -/
def find (files : Files) (path : Path) : Except FileError FileTree :=
  files.tree.follow [] (files.locate path)

/-- Whether a path leads to something. -/
def exist (files : Files) (path : Path) : Bool := (files.find path).isOk

/-- Whether a path leads to a directory. -/
def isDirectory (files : Files) (path : Path) : Bool :=
  match files.find path with
  | .ok (.directory _) => true
  | _ => false

/-- Whether a path leads to a file. -/
def isFile (files : Files) (path : Path) : Bool :=
  match files.find path with
  | .ok (.file _) => true
  | _ => false

/-- What a written path leads to.  Nothing is named by an empty path, and a path that ends in a
slash or a dot names a directory. -/
def findWritten (files : Files) (written : Text) : Except FileError FileTree :=
  if written.isEmpty then .error .notFound
  else match files.find (.ofText written) with
    | .ok (.file octets) =>
      let last := (written.splitOn '/').getLast?.getD []
      if last.isEmpty || last == ("." : Text) then .error .notDirectory else .ok (.file octets)
    | other => other

/-- The octets of a file. -/
def octets (files : Files) (path : Path) : Except FileError Text.Octets :=
  match files.denied.lookup path.parts with
  | some e => .error e
  | none => match files.find path with
    | .ok (.file octets) => .ok octets
    | .ok (.directory _) => .error .isDirectory
    | .error e => .error e

/-- Every way to end a line becomes a newline: a carriage return is one, and a newline right behind
it says nothing more. -/
def unifyLines (behindReturn : Bool) : Text → Text
  | [] => []
  | c :: rest =>
    if c.is '\r' then .ofChar '\n' :: unifyLines true rest
    else if behindReturn && c.is '\n' then unifyLines false rest
    else c :: unifyLines false rest

/-- The text of a file, ill-formed parts replaced. -/
def textLossy (files : Files) (path : Path) : Except FileError Text :=
  (files.octets path).map fun octets => unifyLines false (Text.decodeLossy octets)

/-- Why a file has no text. -/
inductive TextError where
  | unreadable (error : FileError)
  | undecodable (fault : Text.DecodeFault)

/-- The text of a file, which has to be well-formed. -/
def text (files : Files) (path : Path) : Except TextError Text :=
  match files.octets path with
  | .error e => .error (.unreadable e)
  | .ok octets => match Text.decode octets with
    | .ok t => .ok (unifyLines false t)
    | .error fault => .error (.undecodable fault)

/-- The wording of an error about the text of a file. -/
def TextError.message (path : Text) : TextError → Text
  | unreadable e => e.message path
  | undecodable fault => fault.message

/-- The paths of all files below a directory, in the order of paths. -/
def filesBelow (files : Files) (path : Path) : List Path :=
  match files.find path with
  | .ok tree =>
    (tree.filePaths.mergeSort Path.partsLe).map fun parts =>
      { path with parts := path.parts ++ parts }
  | .error _ => []

/-- The paths of the files in a directory, by name. -/
def filesIn (files : Files) (path : Path) : List Path :=
  match files.find path with
  | .ok tree =>
    let names := tree.entries.filterMap fun
      | (name, .file _) => some name
      | (_, .directory _) => none
    (names.mergeSort Text.le).map path.child
  | .error _ => []

/-- The files with something put at a path. -/
def put (files : Files) (path : Path) (body : FileTree) : Files :=
  { files with tree := files.tree.put body (files.locate path) }

/-- The files without what a path leads to. -/
def remove (files : Files) (path : Path) : Files :=
  { files with tree := files.tree.remove (files.locate path) }

end Files

end HookAudit
