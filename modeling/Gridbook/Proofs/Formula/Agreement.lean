import Gridbook.Proofs.Formula.Reading
import Gridbook.Proofs.Formula.Rectangle
import Gridbook.Workbook

/-!
# Ranges and lists of points agree

A range over the current sheet yields the number that a list of all the points between its corners
yields.  The list names points on row zero, on column zero and far outside the sheet, and all of
them are read and looked up; the range never comes to them.  What is left of the list is a block of
addresses, and on the sheet that block is the rectangle that the range walks.
-/

namespace Gridbook

open Text

namespace Formula

/-! ## The points between two corners -/

/-- The coordinates from one to another, neither of which is negative. -/
def coordinatesBetween (first last : Int64) : List Int64 :=
  (List.range' first.toInt.toNat (last.toInt.toNat + 1 - first.toInt.toNat)).map Int64.ofNat

/-- The points from one corner to the opposite one, row by row. -/
def Point.block (first last : Point) : List Point :=
  (coordinatesBetween first.row last.row).flatMap fun row =>
    (coordinatesBetween first.col last.col).map fun col => ⟨row, col⟩

/-- What a coordinate counts to from zero, unless it lies below one. -/
def index? (n : Int64) : Option Nat :=
  if 1 ≤ n.toInt then some (n.toInt - 1).toNat else none

theorem address?_eq (row col : Int64) :
    Point.address? ⟨row, col⟩ =
      (index? row).bind fun row => (index? col).map fun col => ⟨row, col⟩ := by
  rw [Point.address?, Address.ofCoordinates?, index?, index?]
  by_cases low : 1 ≤ row.toInt <;> by_cases left : 1 ≤ col.toInt <;> simp [low, left]

/-- Points in rows have their addresses in rows. -/
theorem filterMap_address? (rows cols : List Int64) :
    (rows.flatMap fun row => cols.map fun col => Point.mk row col).filterMap Point.address? =
      Address.product (rows.filterMap index?) (cols.filterMap index?) := by
  induction rows with
  | nil => rfl
  | cons row rows ih =>
      rw [List.flatMap_cons, List.filterMap_append, ih, List.filterMap_map]
      cases known : index? row with
      | none =>
          have none : cols.filterMap (Point.address? ∘ (⟨row, ·⟩)) = [] := by
            rw [List.filterMap_eq_nil_iff]
            intro col _
            rw [Function.comp_apply, address?_eq, known, Option.bind_none]
          rw [none, List.filterMap_cons_none known, List.nil_append]
      | some index =>
          have all : cols.filterMap (Point.address? ∘ (⟨row, ·⟩)) =
              (cols.filterMap index?).map fun col => ⟨index, col⟩ := by
            rw [List.map_filterMap]
            apply List.filterMap_congr
            intro col _
            rw [Function.comp_apply, address?_eq, known, Option.bind_some]
          rw [all, List.filterMap_cons_some known]
          rfl

/-- The coordinates from one to another count to an interval. -/
theorem filterMap_index?_coordinatesBetween (first last : Int64) :
    (coordinatesBetween first last).filterMap index? =
      List.range' (first.toInt.toNat - 1)
        (last.toInt.toNat - (first.toInt.toNat - 1)) := by
  have below := last.toInt_lt
  -- the only coordinate that is passed over is zero
  have counted : (coordinatesBetween first last).filterMap index? =
      ((List.range' first.toInt.toNat (last.toInt.toNat + 1 - first.toInt.toNat)).filter
        fun n => 1 ≤ n ∧ n < last.toInt.toNat + 1).map (· - 1) := by
    rw [coordinatesBetween, List.filterMap_map, ← List.filterMap_eq_filter, List.map_filterMap]
    apply List.filterMap_congr
    intro n mem
    have bounds := List.mem_range'_1.mp mem
    have value : (Int64.ofNat n).toInt = n := Int64.toInt_ofNat_of_lt (by omega)
    rw [Function.comp_apply, index?, value, Option.guard]
    by_cases positive : 1 ≤ n
    · have index : ((n : Int) - 1).toNat = n - 1 := by omega
      rw [if_pos (by omega), if_pos (decide_eq_true ⟨positive, by omega⟩), index]
      rfl
    · rw [if_neg (by omega), if_neg (by rw [decide_eq_true_eq]; omega)]
      rfl
  rw [counted, filter_range', List.map_sub_range' (by omega)]
  congr 1 <;> omega

end Formula

/-! ## Looking up -/

namespace Grid

/-- Addresses outside a grid add no number. -/
theorem filterMap_numericAt?_of_contains (g : Grid) (addresses : List Address) :
    (addresses.filter fun a => g.extent.Contains a).filterMap g.numericAt? =
      addresses.filterMap g.numericAt? := by
  rw [List.filterMap_filter]
  apply List.filterMap_congr
  intro a _
  split
  · rfl
  · rename_i outside
    rw [numericAt?, (g.get?_eq_none_iff a).mpr (by simpa using outside), Option.bind_none]

end Grid

namespace Extent

open Formula

variable {e : Extent} {first last : Point}

/-- The part of an interval that clipping leaves is the part inside the dimension. -/
theorem filter_lt_eq_range'_span {size : Nat} (bounded : size ≤ maxCells) {first last : Int64}
    (start : 0 ≤ first.toInt) (stop : 0 ≤ last.toInt) :
    (List.range' (first.toInt.toNat - 1) (last.toInt.toNat - (first.toInt.toNat - 1))).filter
        (fun n => n < size) =
      List.range' (span size first last).1 (span size first last).2 := by
  have bounds := filter_range' (first.toInt.toNat - 1)
    (last.toInt.toNat - (first.toInt.toNat - 1)) 0 size
  simp only [Nat.zero_le, true_and] at bounds
  rw [bounds, span_eq bounded start stop]
  congr 1 <;> omega

/-- The points between two corners, where they lie on the sheet, are the range between them. -/
theorem filter_contains_block (sized : e.Sized) (fits : e.Fits) (start : first.Unsigned)
    (stop : last.Unsigned) :
    ((Point.block first last).filterMap Point.address?).filter (fun a => e.Contains a) =
      e.rectangle first last := by
  have inside : (fun a : Address => decide (e.Contains a)) =
      fun a => decide (a.row < e.rows) && decide (a.col < e.cols) := by
    funext a
    exact Bool.decide_and _ _
  rw [Point.block, filterMap_address?, filterMap_index?_coordinatesBetween,
    filterMap_index?_coordinatesBetween, inside,
    Address.filter_product (fun n => n < e.rows) (fun n => n < e.cols),
    filter_lt_eq_range'_span (sized.rows_le fits) start.row stop.row,
    filter_lt_eq_range'_span (sized.cols_le fits) start.col stop.col, rectangle_eq_product]

end Extent

namespace Workbook

open Formula

variable {w : Workbook} {name : String} {keyword : List Char} {aggregate : Aggregate}
  {first last : Point}

/-- A formula finds the sheet that the name of the sheet finds, although it asks in lower case. -/
theorem scope_find?_lower (trimmed : trim name.toList = name.toList) :
    w.scope.find? (lower name.toList) = w.find? name := by
  have same : (fun sheet : Sheet => Sheet.sameName sheet.name.toList (lower name.toList)) =
      fun sheet => sheet.answersTo name := by
    funext sheet
    rw [Sheet.answersTo, Sheet.sameName, Sheet.sameName, trim_lower, lower_lower, trimmed]
  rw [Scope.find?, same]
  rfl

theorem evaluate_of_parse {body : List Char} {formula : Formula} (attached : w.evaluating = true)
    (read : parse body = .ok formula) : w.evaluate body = .number (formula.value w.scope) := by
  rw [evaluate, if_pos attached, Formula.evaluate, read]

/-- The numbers of a range on the current sheet are those of the points between its corners. -/
theorem numbers_block {name : List Char} (found : w.scope.find? name = some w.currentSheet)
    (sized : w.currentSheet.grid.extent.Sized) (start : first.Unsigned) (stop : last.Unsigned) :
    (Formula.mk aggregate (.cells (Point.block first last))).numbers w.scope =
      (Formula.mk aggregate (.range name first last)).numbers w.scope := by
  have listed : (Formula.mk aggregate (.cells (Point.block first last))).numbers w.scope =
      ((Point.block first last).filterMap Point.address?).filterMap
        w.currentSheet.grid.numericAt? := rfl
  rw [listed, numbers_range found, ← Grid.filterMap_numericAt?_of_contains,
    Extent.filter_contains_block sized w.currentSheet.grid.fits start stop]

/-- A range over the current sheet yields the number that the list of its points yields. -/
theorem evaluate_range_eq_evaluate_points (attached : w.evaluating = true)
    (known : (keyword, aggregate) ∈ Aggregate.keywords) (named : SheetName name.toList)
    (found : w.find? name = some w.currentSheet)
    (sized : w.currentSheet.grid.extent.Sized) (start : first.Unsigned)
    (rows : first.row ≤ last.row) (cols : first.col ≤ last.col)
    (several : 2 ≤ (Point.block first last).length) :
    ∃ total,
      w.evaluate (callText keyword (rangeText name.toList first last)) = .number total ∧
      w.evaluate (callText keyword (pointsText (Point.block first last))) = .number total := by
  have small := map_toLower_keyword known
  have stop : last.Unsigned :=
    ⟨Int.le_trans start.row (Int64.le_iff_toInt_le.mp rows),
      Int.le_trans start.col (Int64.le_iff_toInt_le.mp cols)⟩
  have here := (scope_find?_lower named.trimmed).trans found
  have same : (Formula.mk aggregate (.cells (Point.block first last))).value w.scope =
      (Formula.mk aggregate (.range (lower name.toList) first last)).value w.scope :=
    congrArg aggregate.fold (numbers_block here sized start stop)
  have range := evaluate_of_parse attached (parse_rangeText known small named start stop)
  have points := evaluate_of_parse attached (parse_pointsText known small several)
  exact ⟨_, range, points.trans (congrArg Outcome.number same)⟩

/-- Four points in a corner of a sheet, of which one lies on the sheet. -/
theorem evaluate_range_eq_evaluate_points_of_corner :
    let sheet : Sheet := ⟨"Data", (Grid.empty ⟨2, 1⟩).put ⟨0, 0⟩ ⟨"2", .number 2.0⟩⟩
    let w : Workbook := ⟨[sheet], 0, ⟨2, 1⟩, true, by decide, by decide⟩
    ∃ total, w.evaluate "mult(Data,(0,1),(1,2))".toList = .number total ∧
      w.evaluate "mult((0,1),(0,2),(1,1),(1,2))".toList = .number total := by
  intro sheet w
  have found : w.find? "Data" = some w.currentSheet := List.find?_cons_of_pos (by decide)
  exact @evaluate_range_eq_evaluate_points w "Data" "mult".toList .product ⟨0, 1⟩ ⟨1, 2⟩ rfl
    (by decide) (by decide) found (by decide) (by decide) (by decide) (by decide) (by decide)

end Workbook

end Gridbook
