import Gridbook.Document

/-!
# The table between the bounds

The bounds of the text on a sheet are in order, so that there is at least one row and one column
between them.  The rows and columns that the exports go through are those from the first one to the
last one, each once and in order.
-/

namespace Gridbook

namespace Bounds

/-- The first row and column do not come after the last ones. -/
structure Ordered (b : Bounds) : Prop where
  rows : b.first.row ≤ b.last.row
  cols : b.first.col ≤ b.last.col

/-- The number of rows from the first one to the last one. -/
def height (b : Bounds) : Nat :=
  b.last.row - b.first.row + 1

/-- The number of columns from the first one to the last one. -/
def width (b : Bounds) : Nat :=
  b.last.col - b.first.col + 1

variable {b : Bounds}

theorem Ordered.enclose (ordered : b.Ordered) (a : Address) : (b.enclose a).Ordered :=
  ⟨Nat.le_trans (Nat.min_le_left _ _) (Nat.le_trans ordered.rows (Nat.le_max_left _ _)),
    Nat.le_trans (Nat.min_le_left _ _) (Nat.le_trans ordered.cols (Nat.le_max_left _ _))⟩

theorem Ordered.foldl_enclose (ordered : b.Ordered) (addresses : List Address) :
    (addresses.foldl Bounds.enclose b).Ordered := by
  induction addresses generalizing b with
  | nil => exact ordered
  | cons a rest ih => exact ih (ordered.enclose a)

theorem ordered_of_around? {addresses : List Address} (found : around? addresses = some b) :
    b.Ordered := by
  cases addresses with
  | nil => cases found
  | cons a rest =>
      obtain rfl := Option.some.inj found
      exact Ordered.foldl_enclose ⟨Nat.le_refl _, Nat.le_refl _⟩ rest

theorem Ordered.rows_eq (ordered : b.Ordered) :
    b.rows = (List.range b.height).map (b.first.row + ·) := by
  rw [Bounds.rows, Nat.sub_add_comm ordered.rows, List.range'_eq_map_range, height]

theorem Ordered.cols_eq (ordered : b.Ordered) :
    b.cols = (List.range b.width).map (b.first.col + ·) := by
  rw [Bounds.cols, Nat.sub_add_comm ordered.cols, List.range'_eq_map_range, width]

theorem Ordered.length_cols (ordered : b.Ordered) : b.cols.length = b.width := by
  rw [ordered.cols_eq, List.length_map, List.length_range]

end Bounds

theorem Sheet.ordered_of_bounds? {s : Sheet} {b : Bounds} (bounded : s.bounds? = some b) :
    b.Ordered :=
  Bounds.ordered_of_around? bounded

namespace Document

/-- The texts shown between some bounds, row by row. -/
def table (d : Document) (b : Bounds) : List (List String) :=
  (List.range b.height).map fun i =>
    (List.range b.width).map fun j => d.workbook.display ⟨b.first.row + i, b.first.col + j⟩

variable {d : Document} {b : Bounds}

/-- The exports show the table between the bounds of the text. -/
theorem map_shownRow (bounded : d.bounds? = some b) :
    b.rows.map (d.workbook.currentSheet.shownRow b) = d.table b := by
  have ordered := Sheet.ordered_of_bounds? bounded
  rw [ordered.rows_eq, List.map_map, table]
  apply List.map_congr_left
  intro i _
  dsimp only [Function.comp_apply]
  rw [Sheet.shownRow, ordered.cols_eq, List.map_map]
  rfl

end Document

end Gridbook
