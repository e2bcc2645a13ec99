import PipeShell.Text.Plain

/-!
# Columns

Short texts are laid out in columns that fit on a line. The number of columns is the largest one
with which every line is short enough (`Columns.count`); the texts go down the columns or along the
lines (`Columns.Direction`). `Columns.write` gives the lines.
-/

namespace PipeShell.Columns

/-- A text and how much room it takes. -/
structure Cell where
  shown : Bytes
  width : Nat
deriving Repr

/-- Which way the texts go. -/
inductive Direction
  | down
  | along
deriving DecidableEq, Repr

/-- The room that a page has for texts. -/
structure Page where
  direction : Direction
  /-- The length that lines stay below. -/
  lineLength : Nat
  /-- The distance of tab stops, or zero if there are none. -/
  tab : Nat

/-- The least width of a column. -/
def leastWidth : Nat := 3

/-- The column of the text at a place, `total` texts being laid out in `columns` columns. -/
def Page.columnOf (page : Page) (total columns place : Nat) : Nat :=
  match page.direction with
  | .down => place / ((total + columns - 1) / columns)
  | .along => place % columns

/-- The widths of the columns if there are some. A text is followed by two blanks, but not in the
last column. -/
def Page.widths (page : Page) (cells : List Cell) (columns : Nat) : Array Nat :=
  let total := cells.length
  (cells.zipIdx).foldl (fun (widths : Array Nat) (cell, place) =>
    let column := page.columnOf total columns place
    let width := cell.width + if column + 1 == columns then 0 else 2
    widths.modify column (max width)) (Array.replicate columns leastWidth)

/-- Whether columns fit on a line; those of the least width always do. -/
def Page.fits (page : Page) (widths : Array Nat) : Bool :=
  widths.all (· == leastWidth) || widths.foldl (· + ·) 0 < page.lineLength

/-- The widths of the columns that are used: as many as fit, but at least one. -/
def Page.chosen (page : Page) (cells : List Cell) : Nat → Array Nat
  | 0 => #[leastWidth]
  | 1 => page.widths cells 1
  | columns + 1 =>
    let widths := page.widths cells (columns + 1)
    if page.fits widths then widths else page.chosen cells columns

/-- The number of columns that a page may have. -/
def Page.most (page : Page) (total : Nat) : Nat :=
  min ((page.lineLength + leastWidth - 1) / leastWidth) total

/-- Blanks and tabs that lead from one place of a line to another; `fuel` bounds their number. -/
def blanks (tab : Nat) : Nat → (start stop : Nat) → Bytes
  | 0, _, _ => []
  | fuel + 1, start, stop =>
    if stop ≤ start then []
    else if tab != 0 && (start + 1) / tab < stop / tab then
      0x09 :: blanks tab fuel (start + (tab - start % tab)) stop
    else 0x20 :: blanks tab fuel (start + 1) stop

/-- The line that cells make, the first one of which stands at a place. -/
def Page.line (page : Page) (place : Nat) : List Cell → List Nat → Bytes
  | [], _ => []
  | [cell], _ => cell.shown
  | cell :: cells, widths =>
    let next := place + widths.headD 0
    cell.shown ++ blanks page.tab (next + 1) (place + cell.width) next ++
      page.line next cells widths.tail

/-- The cells of each line. -/
def Page.rows (page : Page) (cells : List Cell) (columns : Nat) : List (List Cell) :=
  let table := cells.toArray
  let lines := (table.size + columns - 1) / columns
  (List.range lines).map fun line =>
    (List.range columns).filterMap fun column =>
      match page.direction with
      | .down => table[line + column * lines]?
      | .along => table[line * columns + column]?

/-- The lines that texts make, each with an ending. -/
def write (page : Page) (ending : UInt8) (cells : List Cell) : Bytes :=
  let widths := page.chosen cells (page.most cells.length)
  (page.rows cells widths.size).flatMap fun row => page.line 0 row widths.toList ++ [ending]

/-- Texts one after the other with separators between them; a line that gets too long is broken. -/
def listed (lineLength : Nat) (separator ending : UInt8) (place : Nat) : List Cell → Bytes
  | [] => [ending]
  | [cell] => cell.shown ++ [ending]
  | cell :: next :: cells =>
    let after := place + cell.width
    if lineLength == 0 || after + next.width + 2 < lineLength then
      cell.shown ++ separator :: 0x20 :: listed lineLength separator ending (after + 2)
        (next :: cells)
    else
      cell.shown ++ separator :: ending :: listed lineLength separator ending 0 (next :: cells)

end PipeShell.Columns
