/-
# HookAudit.Text.Similar — how alike two texts are.

Two texts share their longest common piece and, recursively, what the parts before it and the parts
behind it share.  Their likeness is twice the number of shared code points over the length of both
together; it is compared without division.
-/
import HookAudit.Text.CodePoint

namespace HookAudit.Text

/-- The length of the common beginning of two texts. -/
def commonBeginning : Text → Text → Nat
  | a :: as, b :: bs => if a == b then commonBeginning as bs + 1 else 0
  | _, _ => 0

/-- A common piece: where it starts in either text, and how long it is. -/
structure CommonPiece where
  left : Nat
  right : Nat
  length : Nat

/-- The better of a piece and the pieces that start at one place of the first text. -/
def bestFrom (a : Text) (left : Nat) (best : CommonPiece) (right : Nat) : Text → CommonPiece
  | [] => best
  | c :: rest =>
    let n := commonBeginning a (c :: rest)
    bestFrom a left (if n > best.length then ⟨left, right, n⟩ else best) (right + 1) rest

/-- The longest common piece of two texts, the earliest of several. -/
def longestCommon (b : Text) (left : Nat) (best : CommonPiece) : Text → CommonPiece
  | [] => best
  | c :: rest => longestCommon b (left + 1) (bestFrom (c :: rest) left best 0 b) rest

/-- The number of code points that two texts share, `fuel` pieces deep at most. -/
def sharedWithin : (fuel : Nat) → Text → Text → Nat
  | 0, _, _ => 0
  | fuel + 1, a, b =>
    let piece := longestCommon b 0 ⟨0, 0, 0⟩ a
    if piece.length == 0 then 0
    else piece.length +
      sharedWithin fuel (a.take piece.left) (b.take piece.right) +
      sharedWithin fuel (a.drop (piece.left + piece.length)) (b.drop (piece.right + piece.length))

/-- The number of code points that two texts share. -/
def shared (a b : Text) : Nat := sharedWithin (a.length + 1) a b

/-- Candidates with their likeness to a text as a fraction. -/
structure Likeness where
  candidate : Text
  shared : Nat
  total : Nat

/-- The likeness of a candidate to a text. -/
def likeness (t candidate : Text) : Likeness :=
  ⟨candidate, 2 * shared candidate t, candidate.length + t.length⟩

/-- Whether a candidate comes before another: the more alike one first, of two equals the one that
is later in the order of texts. -/
def Likeness.before (a b : Likeness) : Bool :=
  a.shared * b.total > b.shared * a.total ||
    (a.shared * b.total == b.shared * a.total && le b.candidate a.candidate)

/-- The three candidates that are most like a text, provided three fifths are shared. -/
def closeMatches (t : Text) (candidates : List Text) : List Text :=
  let close := (candidates.map (likeness t)).filter fun l => 5 * l.shared ≥ 3 * l.total
  ((close.mergeSort Likeness.before).take 3).map (·.candidate)

end HookAudit.Text
