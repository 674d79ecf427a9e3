/-
# HookAudit.Outcome — what the engine has to say about a hook.

An engine that cannot analyse a hook says so with a reason; that is an ordinary outcome and no
error, so that a host can fall back to the heuristics.
-/
import HookAudit.Assessment

namespace HookAudit

/-- Why the engine has no opinion. -/
inductive NoOpinion where
  | unsupportedLanguage | runtimeUnavailable | grammarUnavailable | noQueries
deriving DecidableEq, Repr

/-- The name of a reason. -/
def NoOpinion.name : NoOpinion → Text
  | .unsupportedLanguage => "unsupported_language"
  | .runtimeUnavailable => "runtime_unavailable"
  | .grammarUnavailable => "grammar_unavailable"
  | .noQueries => "no_queries"

/-- What the engine says about a hook. -/
inductive Outcome where
  /-- The hook was analysed. -/
  | assessed (assessment : Assessment)
  /-- The hook was not analysed, with the reason and some detail. -/
  | noOpinion (reason : NoOpinion) (detail : Text)
deriving DecidableEq

end HookAudit
