/-
# HookAudit.Query.Pack.Bash — the security queries for shell scripts.
-/
import HookAudit.Query.Build

namespace HookAudit.Query.Bash

open Regex (seqs alts literal anyOf charOf char letter many textStart textEnd)

/-- The name of a command when it is a plain word, captured. -/
def commandWord (capture : Text) : Part :=
  role "name" (node "command_name" [child ((node "word" []).as capture)])

/-- A command with a captured name and some parts. -/
def commandOf (capture : Text) (parts : List Part) : Pattern :=
  node "command" (commandWord capture :: parts)

/-- A plain variable, with or without braces. -/
def expansions : Pattern := kinds ["simple_expansion", "expansion"]

/-- Files opened to everyone. -/
def chmodWorldWritable : PackedQuery := packed "chmod_world_writable"
  [((commandOf "cmd" [role "argument" ((kinds ["word", "number"]).as "mode")]).as "danger.fs",
    [captureIs "cmd" "chmod",
     captureHas "mode" (.whole (alts
       [seqs [.opt (char '0'), literal "777"], literal "a+rwx", literal "ugo+rwx"]))])]

/-- The output of a command used as an argument. -/
def commandSubstitution : PackedQuery := packed "command_substitution"
  [(node "command" [role "argument" ((node "command_substitution" []).as "danger.subst")], [])]

/-- Tools that overwrite raw devices or the content of files for good. -/
def diskTools : PackedQuery := packed "disk_tools"
  [((commandOf "cmd" []).as "danger.fswrite",
    [captureHas "cmd" (.whole (alts
       [anyOf ["dd", "shred", "fdisk", "mkfs"],
        seqs [literal "mkfs.",
          .some (.one ⟨false, false, [.range 97 122, .range 48 57]⟩)],
        literal "wipefs"]))])]

/-- Text run as a script. -/
def evalBuiltin : PackedQuery := packed "eval_builtin"
  [((commandOf "cmd" []).as "danger.eval", [captureIn "cmd" ["eval", "source", "."]])]

/-- Tools that reach the network. -/
def networkTools : PackedQuery := packed "network_tools"
  [((commandOf "cmd" []).as "warn.net",
    [captureIn "cmd"
       ["curl", "wget", "nc", "ncat", "socat", "scp", "sftp", "rsync", "ssh", "ftp",
        "telnet"]])]

/-- The programs that download. -/
def downloaders : List String := ["curl", "wget", "fetch"]

/-- The programs that run what they read, as a shape of names. -/
def readers : Regex := alts
  [anyOf ["sh", "bash", "zsh", "dash", "ksh"], .seq (literal "python") (.opt (char '3')),
   anyOf ["perl", "ruby", "node"]]

/-- A download handed to an interpreter. -/
def pipeToShell : PackedQuery := packed "pipe_to_shell"
  [((node "pipeline" [child (commandOf "dl" []), child (commandOf "sh" [])]).as
      "danger.netexec",
    [captureIn "dl" downloaders, captureHas "sh" (.whole readers)])]

/-- Programs that raise privileges. -/
def privilegeEscalation : PackedQuery := packed "privilege_escalation"
  [((commandOf "cmd" []).as "danger.exec", [captureIn "cmd" ["sudo", "doas", "su", "pkexec"]])]

/-- Option letters that contain both the recursive and the forced flag. -/
def recursiveForced : Regex :=
  seqs [textStart, char '-', many letter,
    alts [seqs [charOf "rR", many letter, char 'f'],
      seqs [char 'f', many letter, charOf "rR"]]]

/-- Recursive forced removal. -/
def recursiveDelete : PackedQuery := packed "recursive_delete"
  [((commandOf "cmd" [role "argument" ((node "word" []).as "arg")]).as "danger.fsdelete",
    [captureIs "cmd" "rm", captureHas "arg" recursiveForced])]

/-- Paths of the system configuration and of raw devices. -/
def systemPath : Regex :=
  .seq textStart <| alts
    [seqs [char '/', anyOf ["etc", "boot", "proc", "sys", "root"], .alt (char '/') textEnd],
     seqs [literal "/dev/", anyOf ["sd", "hd", "nvme", "disk"]]]

/-- Output written over the system configuration or raw devices. -/
def redirectSensitive : PackedQuery := packed "redirect_sensitive"
  [(node "file_redirect" [role "destination" ((node "word" []).as "danger.fswrite")],
    [captureHas "danger.fswrite" systemPath])]

/-- Variables with a secret name. -/
def secretExpansion : PackedQuery := packed "secret_expansion"
  [((node "simple_expansion" [child ((node "variable_name" []).as "var")]).as "taint.env",
    [captureHas "var" secretWord]),
   ((node "expansion" [child ((node "variable_name" []).as "var")]).as "taint.env",
    [captureHas "var" secretWord])]

/-- A string run by a shell. -/
def shellDashC : PackedQuery := packed "shell_dash_c"
  [((commandOf "name" [role "argument" ((node "word" []).as "flag")]).as "danger.eval",
    [captureIn "name" ["sh", "bash", "zsh", "dash", "ksh"], captureIs "flag" "-c"])]

/-- Variables outside quotes, which are split into words. -/
def unquotedExpansion : PackedQuery := packed "unquoted_expansion"
  [(node "command" [role "argument" (expansions.as "danger.unquoted_expansion")], []),
   (node "command"
      [role "name" (node "command_name" [child (expansions.as "danger.unquoted_expansion")])],
    [])]

/-- The queries for shell scripts, by name. -/
def pack : List PackedQuery :=
  [chmodWorldWritable, commandSubstitution, diskTools, evalBuiltin, networkTools, pipeToShell,
   privilegeEscalation, recursiveDelete, redirectSensitive, secretExpansion, shellDashC,
   unquotedExpansion]

end HookAudit.Query.Bash
