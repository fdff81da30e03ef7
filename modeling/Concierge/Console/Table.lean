import Concierge.Console.Markup
import Concierge.Console.Wrap

/-!
# Tables

A table has a heading, and columns as wide as their widest cell with two spaces between them, unless
that is wider than the console. A cell of several lines makes its row as high. Tabs go on to the next
eighth column; a column is measured without them, and its cells are wrapped when they do not fit.
-/

namespace Concierge.Console

/-- The cells of a line of the console. -/
def consoleWidth : Nat := 1000

/-- How the cells of a column are aligned. -/
inductive Align where
  | left
  | right
  deriving DecidableEq, Repr

/-- The pieces of a line between its tabs, filled up to the next eighth column. -/
def expandPieces (used : Nat) : List (List Char) → List Char
  | [] => []
  | [piece] => piece
  | piece :: rest =>
    let used := used + Text.width piece
    let spaces := 8 - used % 8
    piece ++ List.replicate spaces ' ' ++ expandPieces (used + spaces) rest

/-- A line with its tabs expanded. -/
def expandTabs (line : List Char) : List Char := expandPieces 0 (Text.split (· == '\t') line)

/-- The lines of a text as the console wraps them. -/
def shownLines (overflow : Overflow) (width : Nat) (cs : List Char) : List (List Char) :=
  (Text.split (· == '\n') cs).flatMap fun line => wrapped overflow width (expandTabs line)

/-- The lines of a text with markup that is printed on its own. -/
def printedLines (s : String) : Except Markup.MarkupError (List String) := do
  let lines := shownLines .fold consoleWidth (← Markup.shown s)
  return lines.map fun line => String.ofList (truncated .fold consoleWidth line)

/-- A line of a cell filled up with spaces. -/
def aligned (align : Align) (width : Nat) (line : List Char) : List Char :=
  let line := match align with
    | .left => line
    | .right => Text.trimEnd Text.isBlank line
  let line := truncated .ellipsis width line
  let fill := List.replicate (width - Text.width line) ' '
  match align with
  | .left => line ++ fill
  | .right => fill ++ line

/-- A character that ends a line when a cell is measured. -/
def isLineEnd (c : Char) : Bool :=
  ('\n' ≤ c && c ≤ '\r') || ('\x1c' ≤ c && c ≤ '\x1e') || c == '\x85' || c == '\u2028' ||
    c == '\u2029'

/-- The cells that the widest line of a text takes. -/
def measured (cs : List Char) : Nat := ((Text.split isLineEnd cs).map Text.width).foldl max 0

/-- The spaces around the cells of a column: one at each side that has a neighbour. -/
def paddings (columns : Nat) : List Nat :=
  (List.range columns).map fun i => (if i = 0 then 0 else 1) + (if i + 1 = columns then 0 else 1)

/-- What some widths take together. -/
def total (widths : List Nat) : Nat := widths.foldl (· + ·) 0

/-- A quotient rounded to the nearest integer, and to the even one of two. -/
def rounded (n count : Nat) : Nat :=
  let q := n / count
  if 2 * (n % count) > count then q + 1
  else if 2 * (n % count) = count then q + q % 2
  else q

/-- Takes an excess from the widths that a rule picks, in equal shares of at most so much; `count` says
how many of them share it. -/
def shrink (picks : Nat → Bool) (most : Nat → Nat) (excess count : Nat) : List Nat → List Nat
  | [] => []
  | w :: ws =>
    if picks w && 0 < count then
      let share := min (most w) (rounded excess count)
      (w - share) :: shrink picks most (excess - share) (count - 1) ws
    else w :: shrink picks most excess count ws

/-- Narrows the widest columns to the next widest, over and over, until all fit into a limit. -/
def narrowed (limit : Nat) : Nat → List Nat → List Nat
  | 0, widths => widths
  | fuel + 1, widths =>
    let excess := total widths - limit
    let widest := widths.foldl max 0
    let next := (widths.filter (· ≠ widest)).foldl max 0
    if excess = 0 ∨ widest = next then widths
    else
      let step := min excess (widest - next)
      narrowed limit fuel
        (shrink (· == widest) (fun _ => step) excess (widths.countP (· == widest)) widths)

/-- The widths of columns, with their paddings, that fit into the console. -/
def fitted (widths : List Nat) : List Nat :=
  let narrow := narrowed consoleWidth (total widths) widths
  shrink (0 < ·) id (total narrow - consoleWidth) (narrow.countP (0 < ·)) narrow

/-- The widths of the columns of some rows, without their paddings. -/
def columnWidths (columns : Nat) (rows : List (List (List Char))) : List Nat :=
  let pads := paddings columns
  let natural := (List.range columns).map fun i =>
    (rows.map fun row => measured (row.getD i [])).foldl max 0
  let outer := (natural.zip pads).map fun (w, pad) => max 1 (min consoleWidth (w + pad))
  let outer := if total outer > consoleWidth then fitted outer else outer
  (outer.zip pads).map fun (w, pad) => w - pad

/-- The lines of a row of cells. -/
def rowLines (layout : List (Align × Nat)) (row : List (List Char)) : List (List Char) :=
  let cells := (layout.zip row).map fun ((align, width), cell) =>
    (width, (shownLines .ellipsis width cell).map (aligned align width))
  let height := (cells.map (·.2.length)).foldl max 1
  (List.range height).map fun i =>
    List.intercalate [' ', ' '] (cells.map fun (width, lines) =>
      lines.getD i (List.replicate width ' '))

/-- The cells of some rows as they are shown. They are looked at column by column. -/
def shownCells (columns : Nat) (rows : List (List String)) :
    Except Markup.MarkupError (List (List (List Char))) := do
  let shown ← (List.range columns).mapM fun i => rows.mapM fun row => Markup.shown (row.getD i "")
  return (List.range rows.length).map fun j => shown.map fun column => column.getD j []

/-- The lines of a table with a heading. -/
def table (columns : List (String × Align)) (rows : List (List String)) :
    Except Markup.MarkupError (List String) := do
  let all ← shownCells columns.length (columns.map Prod.fst :: rows)
  let layout := (columns.map Prod.snd).zip (columnWidths columns.length all)
  return (all.flatMap (rowLines layout)).map String.ofList

end Concierge.Console
