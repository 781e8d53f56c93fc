import Gridbook.Sheet

/-!
# The table of a sheet

The table of a sheet is the smallest rectangle that holds all of its text, white space included.  A
sheet without text has none.  The exports show the cells of the table, row by row.
-/

namespace Gridbook

/-- The first and the last row and column of a rectangle, both inside it. -/
structure Bounds where
  first : Address
  last : Address
deriving DecidableEq, Repr

namespace Bounds

/-- The smallest rectangle around the given one and one more address. -/
def enclose (b : Bounds) (a : Address) : Bounds :=
  ⟨⟨min b.first.row a.row, min b.first.col a.col⟩, ⟨max b.last.row a.row, max b.last.col a.col⟩⟩

def around? : List Address → Option Bounds
  | [] => none
  | a :: rest => some (rest.foldl enclose ⟨a, a⟩)

def rows (b : Bounds) : List Nat :=
  List.range' b.first.row (b.last.row + 1 - b.first.row)

def cols (b : Bounds) : List Nat :=
  List.range' b.first.col (b.last.col + 1 - b.first.col)

end Bounds

namespace Sheet

def bounds? (s : Sheet) : Option Bounds :=
  Bounds.around? ((s.grid.written.filter fun (_, cell) => cell.content ≠ "").map Prod.fst)

/-- The text shown at an address, nothing outside the sheet. -/
def display (s : Sheet) (a : Address) : String :=
  ((s.grid.get? a).map Cell.display).getD ""

def shownRow (s : Sheet) (b : Bounds) (row : Nat) : List String :=
  b.cols.map fun col => s.display ⟨row, col⟩

end Sheet

end Gridbook
