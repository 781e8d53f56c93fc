import Gridbook.Extent

/-!
# Layouts

A layout says how a new workbook looks: the name of its first sheet and the extent of all its
sheets.
-/

namespace Gridbook

/-- The name of the first sheet and the extent of every sheet. -/
structure Layout where
  firstSheet : String
  extent : Extent
deriving DecidableEq, Repr

def Layout.standard : Layout := ⟨"Sheet 1", Extent.standard⟩

end Gridbook
