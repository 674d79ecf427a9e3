/-
# HookAudit.Query.Pack.JavaScript — the security queries for JavaScript and TypeScript.

TypeScript hooks are searched with the JavaScript queries first and then with their own.
-/
import HookAudit.Query.Build

namespace HookAudit.Query.JavaScript

open Regex (seqs literal anyOf)

/-- An identifier captured under a name. -/
def ident (capture : Text) : Pattern := (node "identifier" []).as capture

/-- The name of a property captured under a name. -/
def property (capture : Text) : Pattern := (node "property_identifier" []).as capture

/-- A string literal with captured content. -/
def quotedText (capture : Text) : Pattern :=
  node "string" [child ((node "string_fragment" []).as capture)]

/-- A property of a plain name, both captured. -/
def member (object prop : Text) : Pattern :=
  node "member_expression" [role "object" (ident object), role "property" (property prop)]

/-- A call of something, whatever the arguments. -/
def callOf (function : Pattern) : Pattern := node "call_expression" [role "function" function]

/-- The functions that start a program. -/
def runners : List String :=
  ["exec", "execSync", "execFile", "execFileSync", "spawn", "spawnSync"]

/-- The names under which the file system is imported. -/
def fileModules : List String := ["fs", "fsp", "fse", "fsExtra"]

/-- Modules that give raw access to processes, code or sockets. -/
def rawModules : Regex :=
  .whole (.seq (.opt (literal "node:"))
    (anyOf ["child_process", "vm", "net", "dgram", "worker_threads"]))

/-- Programs started by a bare function. -/
def childProcessDirect : PackedQuery := packed "child_process_direct"
  [((callOf (ident "fn")).as "danger.exec", [captureIn "fn" runners])]

/-- Programs started through the module. -/
def childProcessMember : PackedQuery := packed "child_process_member"
  [((callOf (member "obj" "method")).as "danger.exec",
    [captureIn "obj" ["child_process", "childProcess", "cp", "proc"],
     captureIn "method" (runners ++ ["fork"])])]

/-- Imports of modules with raw access. -/
def dangerousImport : PackedQuery := packed "dangerous_import"
  [((node "import_statement" [role "source" (quotedText "module")]).as "danger.import",
    [captureHas "module" rawModules]),
   ((node "call_expression"
      [role "function" (ident "fn"),
       role "arguments" (node "arguments" [first (quotedText "module")])]).as "danger.import",
    [captureIs "fn" "require", captureHas "module" rawModules])]

/-- Environment variables with a computed name. -/
def envDynamic : PackedQuery := packed "env_dynamic"
  [((node "subscript_expression"
      [role "object" (member "obj" "prop"), role "index" (ident "key_var")]).as "warn.env",
    [captureIs "obj" "process", captureIs "prop" "env"])]

/-- Environment variables with a secret name. -/
def envSecret : PackedQuery := packed "env_secret"
  [((node "member_expression"
      [role "object" (member "obj" "prop"), role "property" (property "key")]).as "taint.env",
    [captureIs "obj" "process", captureIs "prop" "env", captureHas "key" secretWord]),
   ((node "subscript_expression"
      [role "object" (member "obj" "prop"), role "index" (quotedText "key")]).as "taint.env",
    [captureIs "obj" "process", captureIs "prop" "env", captureHas "key" secretWord])]

/-- Code made from text. -/
def eval : PackedQuery := packed "eval"
  [((callOf (ident "fn")).as "danger.eval", [captureIs "fn" "eval"]),
   ((node "new_expression" [role "constructor" (ident "ctor")]).as "danger.eval",
    [captureIs "ctor" "Function"]),
   ((callOf (member "obj" "method")).as "danger.eval",
    [captureIs "obj" "vm",
     captureIn "method"
       ["runInContext", "runInNewContext", "runInThisContext", "compileFunction"]])]

/-- Files removed. -/
def fsDelete : PackedQuery := packed "fs_delete"
  [((callOf (member "obj" "method")).as "danger.fsdelete",
    [captureIn "obj" fileModules,
     captureIn "method"
       ["rm", "rmSync", "rmdir", "rmdirSync", "unlink", "unlinkSync", "remove", "removeSync",
        "emptyDir", "emptyDirSync"]])]

/-- Files written. -/
def fsWrite : PackedQuery := packed "fs_write"
  [((callOf (member "obj" "method")).as "warn.fswrite",
    [captureIn "obj" fileModules,
     captureIn "method"
       ["writeFile", "writeFileSync", "appendFile", "appendFileSync", "createWriteStream",
        "copyFile", "copyFileSync", "rename", "renameSync", "chmod", "chmodSync"]])]

/-- Requests. -/
def networkFetch : PackedQuery := packed "network_fetch"
  [((callOf (ident "fn")).as "warn.net", [captureIn "fn" ["fetch", "axios", "got"]]),
   ((callOf (member "obj" "method")).as "warn.net",
    [captureIn "obj" ["axios", "got", "http", "https", "net", "request"],
     captureIn "method"
       ["get", "post", "put", "delete", "patch", "head", "request", "connect",
        "createConnection"]])]

/-- The queries for JavaScript, by name. -/
def pack : List PackedQuery :=
  [childProcessDirect, childProcessMember, dangerousImport, envDynamic, envSecret, eval,
   fsDelete, fsWrite, networkFetch]

/-- Imports of modules with raw access by assignment. -/
def importRequire : PackedQuery := packed "import_require"
  [((node "import_require_clause" [role "source" (quotedText "module")]).as "danger.import",
    [captureHas "module" rawModules])]

/-- The queries for TypeScript alone, by name. -/
def typedPack : List PackedQuery := [importRequire]

end HookAudit.Query.JavaScript
