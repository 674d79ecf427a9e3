/-
# HookAudit.Heuristics — the scan that always has an answer.

Ten families of risky vocabulary, each with a regular expression, a weight and the capability it
implies.  The scan knows no language: it counts occurrences, so it over-reports.  A family adds its
weight once, however often it occurs.
-/
import HookAudit.Assessment
import HookAudit.Regex.Match
import HookAudit.Sum

namespace HookAudit

/-- A family of risky vocabulary. -/
structure HeuristicFamily where
  /-- The name in findings. -/
  name : Text
  /-- What counts as an occurrence, letter case aside. -/
  pattern : Regex
  /-- What the family adds to the score. -/
  weight : Nat
  /-- The capabilities it implies. -/
  capabilities : Capabilities

namespace Heuristics

open Regex

/-- One or more white space. -/
def blanks : Regex := Regex.some blank

/-- The modules whose import is reported. -/
def riskyModules : Regex := anyOf ["subprocess", "shutil", "requests", "urllib", "os", "sys"]

/-- The families, in the order of their findings. -/
def families : List HeuristicFamily :=
  [{ name := "fileSystemDelete"
     pattern := ignoreCase <| alts
       [anyOf ["shutil.rmtree", "os.remove", "fs.unlink"],
        seqs [literal "rm", blanks, literal "-rf"], seq (literal "del") blanks,
        literal "Remove-Item"]
     weight := 20, capabilities := { fileSystem := true } },
   { name := "networkRequests"
     pattern := ignoreCase <| alts
       [anyOf ["requests.", "urllib.", "fetch(", "axios"], seq (literal "curl") blanks,
        seq (literal "wget") blanks, anyOf ["Invoke-WebRequest", "Net.WebClient"]]
     weight := 15, capabilities := { network := true } },
   { name := "processExecution"
     pattern := ignoreCase <| anyOf
       ["subprocess.", "os.system", "exec(", "eval(", "shell_exec", "system(", "popen",
        "Invoke-Expression", "Start-Process"]
     weight := 25, capabilities := { processExecution := true } },
   { name := "dangerousImports"
     pattern := ignoreCase <| alts
       [seqs [literal "import", blanks, riskyModules, alts [blank, char ';', lineEnd]],
        seqs [literal "from", blanks, riskyModules, blanks, literal "import"]]
     weight := 10, capabilities := { dangerousImports := true } },
   { name := "credentialAccess"
     pattern := ignoreCase <| anyOf
       ["password", "token", "secret", "api_key", "credential", "ssh", "gpg", "aws_access_key",
        "github_token"]
     weight := 30, capabilities := { credentialAccess := true } },
   { name := "envVarAccess"
     pattern := ignoreCase <| alts
       [anyOf ["os.environ", "process.env"],
        seqs [char '$', opt (char '\x7b'), Regex.some wordChar, opt (char '\x7d')],
        anyOf ["getenv(", "Environment.GetEnvironmentVariable"]]
     weight := 5, capabilities := {} },
   { name := "fileSystemWrite"
     pattern := ignoreCase <| alts
       [seqs [literal "open(", many (charNotOf ","), char ',', many blank, charOf "'\"",
          many wordChar, char 'w'],
        anyOf ["fs.writeFile", "File.WriteAllText", "Out-File"], seq (char '>') (many blank)]
     weight := 20, capabilities := { fileSystem := true } },
   { name := "databaseAccess"
     pattern := ignoreCase <| alts
       [anyOf ["sqlite3", "mysql", "postgresql", "mongodb", "redis"],
        seqs [literal "connect(", many dot, literal "database"]]
     weight := 10, capabilities := {} },
   { name := "cryptoOperations"
     pattern := ignoreCase <| anyOf
       ["hashlib", "crypto", "bcrypt", "scrypt", "pbkdf2", "AES", "RSA", "encrypt", "decrypt"]
     weight := 5, capabilities := {} },
   { name := "systemModification"
     pattern := ignoreCase <| alts
       [anyOf ["chmod", "chown", "mkdir", "rmdir"],
        seqs [boundary true, literal "mv", boundary true],
        seqs [boundary true, literal "cp", boundary true],
        anyOf ["move", "copy", "New-Item", "Set-Acl"]]
     weight := 20, capabilities := { fileSystem := true } }]

/-- The families that occur in a text, with the number of occurrences. -/
def hits (content : Text) : List (HeuristicFamily × Nat) :=
  families.filterMap fun family =>
    let n := family.pattern.count content
    if n == 0 then none else Option.some (family, n)

/-- The finding that reports a family. -/
def finding (family : HeuristicFamily) (n : Nat) : Text :=
  family.name ++ ": " ++ Text.ofNat n ++ " occurrence(s)"

/-- The heuristic assessment of a hook. -/
def scan (content : Text) : Assessment :=
  let found := hits content
  .capped (.unions (found.map (·.1.capabilities))) (found.map fun (family, n) => finding family n)
    (sumOf (·.1.weight) found)

end Heuristics

end HookAudit
