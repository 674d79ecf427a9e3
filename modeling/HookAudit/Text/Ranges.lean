/-
# HookAudit.Text.Ranges — membership in a table of ranges.

A property of code points is stored as the ranges of numbers that have it.
-/
namespace HookAudit.Text

/-- Ranges of numbers, both ends included. -/
abbrev Ranges := List (Nat × Nat)

/-- Whether a number lies in one of the ranges. -/
def Ranges.has (table : Ranges) (n : Nat) : Bool :=
  table.any fun (low, high) => low ≤ n && n ≤ high

end HookAudit.Text
