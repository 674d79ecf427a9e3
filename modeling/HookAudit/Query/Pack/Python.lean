/-
# HookAudit.Query.Pack.Python — the security queries for Python.
-/
import HookAudit.Query.Build

namespace HookAudit.Query.Python

open Regex (seqs alts literal anyOf charOf charNotOf char textStart textEnd)

/-- An identifier captured under a name. -/
def ident (capture : Text) : Pattern := (node "identifier" []).as capture

/-- A string literal with captured content. -/
def quotedText (capture : Text) : Pattern :=
  node "string" [child ((node "string_content" []).as capture)]

/-- An attribute of a plain name, both captured. -/
def member (object attr : Text) : Pattern :=
  node "attribute" [role "object" (ident object), role "attribute" (ident attr)]

/-- A call of something with the given arguments. -/
def callOf (function : Pattern) (arguments : List Part) : Pattern :=
  node "call" [role "function" function, role "arguments" (node "argument_list" arguments)]

/-- A call of something, whatever the arguments. -/
def anyCallOf (function : Pattern) : Pattern := node "call" [role "function" function]

/-- Expressions whose value is not known before the hook runs. -/
def computed : Pattern := kinds ["identifier", "subscript", "attribute", "call"]

/-- Computed expressions, operators included. -/
def computedOrOperator : Pattern :=
  kinds ["identifier", "subscript", "attribute", "call", "binary_operator"]

/-- Modules that give a hook raw process, terminal, memory or socket access, or that deserialise
code. -/
def rawModules : List String := ["subprocess", "pty", "ctypes", "marshal", "pickle", "socket"]

/-- The functions that start a program. -/
def runners : List String := ["run", "Popen", "call", "check_call", "check_output"]

/-- The functions that start a program or a shell. -/
def shellRunners : List String := runners ++ ["getoutput", "getstatusoutput"]

/-- A dotted name that starts with a captured module. -/
def moduleName : Pattern := node "dotted_name" [first (ident "module")]

/-- Imports of modules with raw access. -/
def dangerousImport : PackedQuery := packed "dangerous_import"
  [((node "import_statement" [role "name" moduleName]).as "danger.import",
    [captureIn "module" rawModules]),
   ((node "import_statement"
      [role "name" (node "aliased_import" [role "name" moduleName])]).as "danger.import",
    [captureIn "module" rawModules]),
   ((node "import_from_statement" [role "module_name" moduleName]).as "danger.import",
    [captureIn "module" rawModules])]

/-- Imports of a computed module name. -/
def dynamicImport : PackedQuery := packed "dynamic_import"
  [((callOf (ident "fn") [first computed]).as "danger.eval", [captureIs "fn" "__import__"]),
   ((callOf (member "mod" "func") [first computed]).as "danger.eval",
    [captureIs "mod" "importlib", captureIs "func" "import_module"])]

/-- Environment variables with a secret name, looked up by function. -/
def envSecretLookup : PackedQuery := packed "env_secret_lookup"
  [((callOf (member "mod" "func") [first (quotedText "key")]).as "taint.env",
    [captureIs "mod" "os", captureIs "func" "getenv", captureHas "key" secretWord]),
   ((callOf
      (node "attribute" [role "object" (member "mod" "attr"), role "attribute" (ident "func")])
      [first (quotedText "key")]).as "taint.env",
    [captureIs "mod" "os", captureIs "attr" "environ", captureIs "func" "get",
     captureHas "key" secretWord])]

/-- Environment variables with a secret name, looked up by key. -/
def envSecretSubscript : PackedQuery := packed "env_secret_subscript"
  [((node "subscript"
      [role "value" (member "obj" "attr"), role "subscript" (quotedText "key")]).as "taint.env",
    [captureIs "obj" "os", captureIs "attr" "environ", captureHas "key" secretWord])]

/-- Environment variables with a computed name. -/
def envVariableSubscript : PackedQuery := packed "env_variable_subscript"
  [((node "subscript"
      [role "value" (member "obj" "attr"), role "subscript" (ident "key_var")]).as "warn.env",
    [captureIs "obj" "os", captureIs "attr" "environ"])]

/-- Evaluation of anything but a plain literal. -/
def evalDynamic : PackedQuery := packed "eval_dynamic"
  [((callOf (ident "name") [first computedOrOperator]).as "danger.eval",
    [captureIn "name" ["eval", "exec"]]),
   ((callOf (ident "name") [first (node "string" [child (node "interpolation" [])])]).as
      "danger.eval",
    [captureIn "name" ["eval", "exec"]])]

/-- Removal of single files and directories. -/
def fileDeleteOs : PackedQuery := packed "file_delete_os"
  [((anyCallOf (member "mod" "func")).as "warn.fs",
    [captureIs "mod" "os", captureIn "func" ["remove", "unlink", "rmdir", "removedirs"]])]

/-- Removal of whole trees. -/
def fileDeleteTree : PackedQuery := packed "file_delete_tree"
  [((anyCallOf (member "mod" "func")).as "danger.fsdelete",
    [captureIs "mod" "shutil", captureIs "func" "rmtree"])]

/-- The modes that open a file for writing. -/
def writingMode : Predicate := captureHas "mode" (.seq textStart (charOf "wax"))

/-- Paths of the system, of keys and of hidden files in home directories. -/
def sensitivePath : Regex :=
  .seq textStart <| alts
    [seqs [char '/',
       anyOf ["etc", "bin", "sbin", "boot", "root", "usr/bin", "usr/sbin", "usr/lib"],
       .alt (char '/') textEnd],
     seqs [.opt (char '~'), .opt (char '/'), literal ".ssh/"],
     seqs [literal "/home/", .some (charNotOf "/"), literal "/."]]

/-- Sensitive files opened for writing. -/
def fileWriteSensitive : PackedQuery := packed "file_write_sensitive"
  [((callOf (ident "func") [first (quotedText "path"), first (quotedText "mode")]).as
      "danger.fswrite",
    [captureIs "func" "open", writingMode, captureHas "path" sensitivePath])]

/-- Files with a computed path opened for writing. -/
def fileWriteVariable : PackedQuery := packed "file_write_variable"
  [((callOf (ident "func")
      [first ((kinds ["identifier", "attribute", "subscript", "call", "binary_operator"]).as
         "path"),
       first (quotedText "mode")]).as "warn.fswrite",
    [captureIs "func" "open", writingMode])]

/-- Requests through a client library. -/
def networkRequests : PackedQuery := packed "network_requests"
  [((anyCallOf (member "mod" "method")).as "warn.net",
    [captureIn "mod" ["requests", "httpx"],
     captureIn "method"
       ["get", "post", "put", "delete", "patch", "head", "options", "request", "stream"]])]

/-- Raw sockets, which bypass any inspection of requests. -/
def networkSocket : PackedQuery := packed "network_socket"
  [((anyCallOf (member "mod" "func")).as "danger.net",
    [captureIs "mod" "socket",
     captureIn "func" ["socket", "create_connection", "create_server"]])]

/-- Requests by address. -/
def networkUrlopen : PackedQuery := packed "network_urlopen"
  [((anyCallOf (ident "fn")).as "warn.net", [captureIs "fn" "urlopen"]),
   ((anyCallOf (node "attribute" [role "attribute" (ident "fn")])).as "warn.net",
    [captureIn "fn" ["urlopen", "urlretrieve"]])]

/-- The families of functions that always go through a process. -/
def osSystem : PackedQuery := packed "os_system"
  [((anyCallOf (member "mod" "func")).as "danger.exec",
    [captureIs "mod" "os",
     captureHas "func" (.whole (alts
       [literal "system", literal "popen",
        seqs [literal "exec", charOf "lv", .opt (char 'p'), .opt (char 'e')],
        seqs [literal "spawn", charOf "lv", .opt (char 'p'), .opt (char 'e')]]))])]

/-- Programs that destroy or need privileges, started by name. -/
def subprocessDangerousCommand : PackedQuery := packed "subprocess_dangerous_command"
  [((callOf (member "mod" "func") [first (node "list" [first (quotedText "cmd")])]).as
      "danger.exec",
    [captureIs "mod" "subprocess", captureIn "func" runners,
     captureIn "cmd"
       ["rm", "rmdir", "dd", "mkfs", "fdisk", "sudo", "su", "chmod", "chown", "kill",
        "pkill"]])]

/-- Programs started through a shell. -/
def subprocessShell : PackedQuery := packed "subprocess_shell"
  [((callOf (member "mod" "func")
      [child (node "keyword_argument"
        [role "name" (ident "kwarg"), role "value" (node "true" [])])]).as "danger.exec",
    [captureIs "mod" "subprocess", captureIn "func" shellRunners, captureIs "kwarg" "shell"])]

/-- Computed commands. -/
def subprocessVariable : PackedQuery := packed "subprocess_variable"
  [((callOf (member "mod" "func") [first computedOrOperator]).as "danger.exec",
    [captureIs "mod" "subprocess", captureIn "func" shellRunners]),
   ((callOf (member "mod" "func") [first (node "list" [child (node "identifier" [])])]).as
      "danger.exec",
    [captureIs "mod" "subprocess", captureIn "func" runners])]

/-- Deserialisation that runs code. -/
def unsafeDeserialization : PackedQuery := packed "unsafe_deserialization"
  [((anyCallOf (member "mod" "func")).as "danger.eval",
    [captureIn "mod" ["pickle", "marshal", "dill"],
     captureHas "func" (.whole (.seq (literal "load") (.opt (char 's'))))])]

/-- The queries for Python, by name. -/
def pack : List PackedQuery :=
  [dangerousImport, dynamicImport, envSecretLookup, envSecretSubscript, envVariableSubscript,
   evalDynamic, fileDeleteOs, fileDeleteTree, fileWriteSensitive, fileWriteVariable,
   networkRequests, networkSocket, networkUrlopen, osSystem, subprocessDangerousCommand,
   subprocessShell, subprocessVariable, unsafeDeserialization]

end HookAudit.Query.Python
