import Gridbook.Grid
import Gridbook.Text.Lower

/-!
# Sheets

A sheet is a grid with a name.  Names are compared without regard to letter case, and without the
white space around the name that is asked for.
-/

namespace Gridbook

open Text

structure Sheet where
  name : String
  grid : Grid

namespace Sheet

/-- Whether a name asks for a sheet that is called `own`. -/
def sameName (own asked : List Char) : Bool :=
  lower own == lower (trim asked)

def answersTo (s : Sheet) (asked : String) : Bool :=
  sameName s.name.toList asked.toList

/-- The sheet with a cell put at an address, or as it is if the address is outside. -/
def put (s : Sheet) (a : Address) (c : Cell) : Sheet :=
  { s with grid := s.grid.put a c }

def put? (s : Sheet) (a : Address) (c : Cell) : Option Sheet :=
  (s.grid.put? a c).map fun grid => { s with grid }

end Sheet

end Gridbook
