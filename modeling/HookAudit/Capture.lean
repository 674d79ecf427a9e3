/-
# HookAudit.Capture — one risky piece of source.

A capture is a risk name with the byte range of the piece it names, the place where the piece
starts and a snippet of it.  Two ranges overlap when they share a byte; an empty range overlaps
only itself.
-/
import HookAudit.Text.CodePoint

namespace HookAudit

/-- A piece of source that a security query singled out. -/
structure Capture where
  /-- The risk name. -/
  name : Text
  /-- The offset of the first byte. -/
  start : Int
  /-- The offset after the last byte. -/
  stop : Int
  /-- The line of the first byte, counted from one. -/
  line : Int
  /-- The column of the first byte, counted in bytes from one. -/
  column : Int
  /-- The piece on one line, cut to the snippet limit. -/
  snippet : Text
deriving DecidableEq

namespace Capture

/-- What identifies a capture: its name and range. -/
def key (c : Capture) : Text × Int × Int := (c.name, c.start, c.stop)

/-- Whether the range of a capture overlaps another range. -/
def overlaps (c : Capture) (start stop : Int) : Bool :=
  if c.start == c.stop || start == stop then c.start == start && c.stop == stop
  else c.start < stop && start < c.stop

/-- The finding that reports a capture. -/
def finding (c : Capture) : Text :=
  c.name ++ " at " ++ Text.ofInt c.line ++ ":" ++ Text.ofInt c.column ++ ": " ++ c.snippet

/-- The order of captures by position: start, end, then name. -/
def positionLe (a b : Capture) : Bool :=
  if a.start != b.start then a.start < b.start
  else if a.stop != b.stop then a.stop < b.stop
  else Text.le a.name b.name

end Capture

end HookAudit
