/-
# HookAudit.Snippet — source text cut to a line.

A snippet is the words of a piece of source joined by single spaces, cut to a limit.  A cut is
marked by three dots where the limit leaves room for them.  Limits are counted in code points; a
limit that is not positive counts from the end, as the configuration check for positive limits
comes before any scan and the cut itself refuses nothing.
-/
import HookAudit.Text.Blank

namespace HookAudit.Snippet

/-- The longest snippet when nothing else is configured. -/
def defaultLimit : Int := 140

/-- What marks a cut. -/
def ellipsis : Text := "..."

/-- The first `limit` code points, or all but the last `-limit` for a negative limit. -/
def cut (t : Text) : Int → Text
  | .ofNat n => t.take n
  | .negSucc n => t.take (t.length - (n + 1))

/-- Source text as a snippet of at most `limit` code points. -/
def normalize (t : Text) (limit : Int) : Text :=
  let whole := t.collapse
  if (whole.length : Int) ≤ limit then whole
  else if limit ≤ 3 then cut whole limit
  else (cut whole (limit - 3)).stripRight ++ ellipsis

end HookAudit.Snippet
