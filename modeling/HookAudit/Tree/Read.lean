/-
# HookAudit.Tree.Read — from source to tree.
-/
import HookAudit.Language.Basic
import HookAudit.Tree.Bash.Statement
import HookAudit.Tree.JavaScript.Statement
import HookAudit.Tree.Python.Statement

namespace HookAudit

/-- The syntax tree of source text in a language. -/
def Language.tree (lang : Language) (source : Text.Octets) : Node :=
  match lang with
  | .bash => Bash.tree (Source.ofOctets source)
  | .python => Python.tree (Source.ofOctets source)
  | .javascript => JavaScript.tree false (Source.ofOctets source)
  | .typescript => JavaScript.tree true (Source.ofOctets source)

end HookAudit
