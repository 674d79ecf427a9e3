/-
# HookAudit.Terminal.Table — tables with a title, a head and a frame.

Columns are as wide as their widest cell, with one space on either side.  When that is more than
there is room for, the widest columns shrink to the next narrower ones until the table fits, and
their cells are broken into several lines.
-/
import HookAudit.Terminal.Layout

namespace HookAudit.Terminal

/-- A column: its head, and where its cells stand. -/
structure Column where
  head : Text
  align : Align := .left

/-- A table. -/
structure Table where
  title : Text
  columns : List Column
  /-- The cells row by row, one for each column. -/
  rows : List (List Text)

namespace Table

/-! ## Widths -/

/-- The cells of each column, its head first. -/
def cellsByColumn (t : Table) : List (List Text) :=
  t.columns.zipIdx.map fun (column, i) =>
    column.head :: t.rows.map fun row => row[i]?.getD []

/-- The width of a column that may take as much as it likes. -/
def wishedWidth (cells : List Text) : Nat := (cells.map naturalWidth).foldl max 0 + 2

/-- A quotient rounded to the nearest number, a half to the even one. -/
def roundedQuotient (n d : Nat) : Nat :=
  let q := n / d
  let r := n % d
  if 2 * r > d || (2 * r == d && q % 2 == 1) then q + 1 else q

/-- Takes `total` away from the marked widths in equal shares, at most `share` from each; `marked`
is how many marked widths are left. -/
def takeAway (share : Nat) : (total marked : Nat) → List (Nat × Bool) → List Nat
  | _, _, [] => []
  | total, marked, (w, true) :: rest =>
    let taken := min share (roundedQuotient total marked)
    (w - taken) :: takeAway share (total - taken) (marked - 1) rest
  | total, marked, (w, false) :: rest => w :: takeAway share total marked rest

/-- Shrinks the widest columns to the next narrower ones until all fit, in `fuel` steps at most. -/
def shrink (room : Nat) : (fuel : Nat) → List Nat → List Nat
  | 0, widths => widths
  | fuel + 1, widths =>
    let excess := sumOf id widths - room
    let widest := widths.foldl max 0
    let second := (widths.filter (· != widest)).foldl max 0
    if excess == 0 || widest == second then widths
    else shrink room fuel (takeAway (min excess (widest - second)) excess
      (widths.countP (· == widest)) (widths.map fun w => (w, w == widest)))

/-- The widths of the columns in a table of at most `width` cells.  No column wishes for more than
there is room for all of them. -/
def widths (t : Table) (width : Nat) : List Nat :=
  let room := width - (t.columns.length + 1)
  let wished := t.cellsByColumn.map fun cells => min room (wishedWidth cells)
  if sumOf id wished ≤ room then wished
  else shrink room (sumOf id wished + 1) wished

/-! ## Lines -/

/-- A horizontal line of the frame. -/
def rule (left dash cross right : Text) (widths : List Nat) : Text :=
  left ++ Text.join cross (widths.map fun w => (List.replicate w dash).flatten) ++ right

/-- The lines of a row; shorter cells are filled up below or, in the head, above. -/
def rowLines (bar : Text) (isHead : Bool) (columns : List (Column × Nat)) (cells : List Text) :
    List Text :=
  let blocks := (columns.zip cells).map fun ((column, w), cell) =>
    (w, (layOut (w - 2) .ellipsis column.align cell).map fun line =>
      Text.spaces 1 ++ line ++ Text.spaces 1)
  let height := (blocks.map fun block => block.2.length).foldl max 1
  let filled := blocks.map fun (w, lines) =>
    let missing := List.replicate (height - lines.length) (Text.spaces w)
    if isHead then missing ++ lines else lines ++ missing
  (List.range height).map fun i =>
    bar ++ Text.join (if isHead then bar else "│")
      (filled.map fun lines => lines[i]?.getD []) ++ bar

/-- The lines of a table in at most `width` cells. -/
def lines (t : Table) (width : Nat) : List Text :=
  let widths := t.widths width
  let columns := t.columns.zip widths
  layOut (sumOf id widths + widths.length + 1) .fold .center t.title ++
    [rule "┏" "━" "┳" "┓" widths] ++
    rowLines "┃" true columns (t.columns.map (·.head)) ++
    [rule "┡" "━" "╇" "┩" widths] ++
    t.rows.flatMap (rowLines "│" false columns) ++
    [rule "└" "─" "┴" "┘" widths]

end Table

end HookAudit.Terminal
