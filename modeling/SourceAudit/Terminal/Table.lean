import SourceAudit.Terminal.Screen

/-!
# Tables

A table has a title, a row of headings, and rows of cells. A column is as wide as its
widest cell; when the table is wider than the screen, the widest columns that may be
broken are narrowed first, until the table fits.
-/

namespace SourceAudit.Terminal

open Text

/-- A column of a table. -/
structure Column where
  heading : String
  /-- Whether the cells of the column are never broken. -/
  keepWhole : Bool := false

/-- The cells of a row from left to right. -/
abbrev Row := List (List Char)

/-- A table to be shown. -/
structure Table where
  title : List Char
  columns : List Column
  rows : List Row

/-! ### Widths of columns -/

/-- The width of the longest line of a cell. -/
def cellWidth (cell : List Char) : Nat :=
  ((boundaryLines cell).map width).foldl max 0

/-- The width of columns side by side. -/
def totalWidth (sizes : List Nat) : Nat :=
  sizes.foldl (· + ·) 0

/-- A quotient rounded to the nearest whole number, a half to the even neighbour. -/
def nearestQuotient (n d : Nat) : Nat :=
  let q := n / d
  let r := 2 * (n % d)
  if r < d then q else if d < r then q + 1 else q + q % 2

/-- Takes an excess off columns: equal parts of what is left, each part bounded. The flags
say which columns take part. -/
def takeOff : Nat → List (Nat × Nat × Bool) → List Nat
  | _, [] => []
  | excess, (size, most, takesPart) :: rest =>
    let parts := (rest.countP fun (_, most, takesPart) => takesPart && most ≠ 0) + 1
    if takesPart && most ≠ 0 then
      let part := min most (nearestQuotient excess parts)
      (size - part) :: takeOff (excess - part) rest
    else size :: takeOff excess rest

/-- Narrows the widest of the columns that may be broken, down to the next width, until
they fit or are equal; the budget is the excess. -/
def narrowWidest (limit : Nat) (breakable : List Bool) : Nat → List Nat → List Nat
  | 0, sizes => sizes
  | budget + 1, sizes =>
    let excess := totalWidth sizes - limit
    let movable := (sizes.zip breakable).filterMap fun (n, b) => if b then some n else none
    let widest := movable.foldl max 0
    let second := (movable.filter (· ≠ widest)).foldl max 0
    if excess = 0 || movable.isEmpty || widest = second then sizes
    else
      let most := min excess (widest - second)
      let parts := (sizes.zip breakable).map fun (n, b) => (n, most, b && n = widest)
      narrowWidest limit breakable budget (takeOff excess parts)

/-- The widths of columns, within a limit on their sum. -/
def fittedWidths (limit : Nat) (breakable : List Bool) (sizes : List Nat) : List Nat :=
  if totalWidth sizes ≤ limit then sizes
  else
    let sizes := narrowWidest limit breakable (totalWidth sizes - limit) sizes
    takeOff (totalWidth sizes - limit) (sizes.map fun n => (n, n, true))

namespace Table

/-- The rows with the headings as the first. -/
def allRows (t : Table) : List Row :=
  t.columns.map (·.heading.toList) :: t.rows

/-- The widths of the columns, with a blank on both sides of each cell. -/
def widths (t : Table) : List Nat :=
  let limit := screenWidth - (t.columns.length + 1)
  let sizes := t.columns.zipIdx.map fun (_, k) =>
    let cells := t.allRows.map fun row => row[k]?.getD []
    min limit ((cells.map cellWidth).foldl max 0 + 2)
  fittedWidths limit (t.columns.map fun c => !c.keepWhole) sizes

/-! ### Lines -/

/-- A line of a box: a piece for every column, with ends and dividers. -/
def boxLine (left divider right : Char) (parts : List (List Char)) : List Char :=
  left :: joined [divider] parts ++ [right]

/-- A border line. -/
def border (left fill divider right : Char) (sizes : List Nat) : List Char :=
  boxLine left divider right (sizes.map fun n => List.replicate n fill)

/-- The lines of a cell in a column; a column that has room for blanks alone shows
nothing. -/
def cellLines (column : Column) (size : Nat) (cell : List Char) : Screen :=
  if size < 3 then [] else broken .ellipsis column.keepWhole (size - 2) cell

/-- A line of a cell with a blank on both sides. -/
def cellLine (size : Nat) (line : Option (List Char)) : List Char :=
  match line with
  | some line => ' ' :: padded (size - 2) line ++ [' ']
  | none => List.replicate size ' '

/-- The lines of a row. -/
def rowLines (columns : List Column) (sizes : List Nat) (edge divider : Char)
    (row : Row) : Screen :=
  let cells := (columns.zip (sizes.zip row)).map fun (column, size, cell) =>
    (size, cellLines column size cell)
  let height := (cells.map fun (_, lines) => lines.length).foldl max 1
  (List.range height).map fun k =>
    boxLine edge divider edge (cells.map fun (size, lines) => cellLine size lines[k]?)

/-- The lines of a table: the title, broken to the width of the table, and the box. -/
def shown (t : Table) : Screen :=
  let sizes := t.widths
  let total := totalWidth sizes + t.columns.length + 1
  broken .fold false total t.title
    ++ [border '┏' '━' '┳' '┓' sizes]
    ++ rowLines t.columns sizes '┃' '┃' (t.columns.map (·.heading.toList))
    ++ [border '┡' '━' '╇' '┩' sizes]
    ++ t.rows.flatMap (rowLines t.columns sizes '│' '│')
    ++ [border '└' '─' '┴' '┘' sizes]

end Table

end SourceAudit.Terminal
