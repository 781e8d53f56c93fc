import Gridbook.Proofs.Formula.Dependence
import Gridbook.Proofs.Session.Reopening
import Gridbook.Proofs.Session.Saving

/-!
# Evaluations that break off

The dimensions of a sheet are unsigned counts, and a range clips its corners to them in signed
words.  A sheet with a row and a column has at most `maxCells` of each, so that its dimensions keep
their values as words, and so does what is counted back from them.  A sheet without rows may have any
count of columns, and the other way around.  Such a count can be too large for a signed word, and
the first one that is becomes the smallest word, from which there is no counting back.  The corners
of a range that was read are never the smallest word.
-/

namespace Gridbook

open Text Formula

/-! ## Counts as words -/

/-- Of all counts only one becomes the smallest word. -/
theorem ofNat_eq_minValue_iff {n : Nat} (bound : n < countLimit) :
    Int64.ofNat n = Int64.minValue ↔ n = coordinateLimit := by
  constructor
  · intro least
    have value := congrArg Int64.toInt least
    have size : Int64.size = 2 ^ 64 := rfl
    rw [Int64.toInt_ofNat', Int64.toInt_minValue, size, Int.bmod] at value
    rw [coordinateLimit_eq]
    change n < 2 ^ 64 at bound
    split at value <;> omega
  · rintro rfl
    decide

/-! ## Dimensions -/

namespace Extent

variable {e : Extent}

/-- The dimensions keep their values as words, also where they are counted back by one. -/
structure Exact (e : Extent) : Prop where
  rows : (Int64.ofNat e.rows).toInt = e.rows
  cols : (Int64.ofNat e.cols).toInt = e.cols
  lastRow : (Int64.ofNat e.rows - 1).toInt = e.rows - 1
  lastCol : (Int64.ofNat e.cols - 1).toInt = e.cols - 1

theorem exact_iff : e.Exact ↔ e.rows < coordinateLimit ∧ e.cols < coordinateLimit := by
  have back {n : Nat} (below : n < coordinateLimit) : (Int64.ofNat n - 1).toInt = n - 1 := by
    have kept := toInt_ofNat_eq_iff.mpr below
    rw [toInt_pred (by omega), kept]
  constructor
  · intro exact
    exact ⟨toInt_ofNat_eq_iff.mp exact.rows, toInt_ofNat_eq_iff.mp exact.cols⟩
  · rintro ⟨rows, cols⟩
    exact ⟨toInt_ofNat_eq_iff.mpr rows, toInt_ofNat_eq_iff.mpr cols, back rows, back cols⟩

theorem Exact.ne_minValue (exact : e.Exact) :
    Int64.ofNat e.rows ≠ Int64.minValue ∧ Int64.ofNat e.cols ≠ Int64.minValue := by
  rw [← toInt_sub_one_eq_iff, ← toInt_sub_one_eq_iff, exact.rows, exact.cols]
  exact ⟨exact.lastRow, exact.lastCol⟩

/-- An extent without rows or columns is not shrunk. -/
theorem shrunk_of_not_sized (empty : ¬ e.Sized) : e.shrunk = e := by
  apply shrunk_of_fits
  rcases not_sized_iff.mp empty with rows | cols
  · rw [Fits, area, rows, Nat.zero_mul]
    exact Nat.zero_le _
  · rw [Fits, area, cols, Nat.mul_zero]
    exact Nat.zero_le _

theorem Sized.exact (sized : e.Sized) (fits : e.Fits) : e.Exact :=
  have bound : maxCells < coordinateLimit := by decide
  exact_iff.mpr ⟨Nat.lt_of_le_of_lt (sized.rows_le fits) bound,
    Nat.lt_of_le_of_lt (sized.cols_le fits) bound⟩

theorem exact_shrunk_iff :
    e.shrunk.Exact ↔ e.Sized ∨ e.rows < coordinateLimit ∧ e.cols < coordinateLimit := by
  by_cases sized : e.Sized
  · exact iff_of_true (sized.shrunk.exact e.shrunk_fits) (.inl sized)
  · rw [shrunk_of_not_sized sized, exact_iff, or_iff_right sized]

/-- A dimension becomes the smallest word only beside one that is zero. -/
theorem ofNat_shrunk_eq_minValue_iff (rows : e.rows < countLimit) (cols : e.cols < countLimit) :
    Int64.ofNat e.shrunk.rows = Int64.minValue ∨ Int64.ofNat e.shrunk.cols = Int64.minValue ↔
      ¬ e.Sized ∧ (e.rows = coordinateLimit ∨ e.cols = coordinateLimit) := by
  by_cases sized : e.Sized
  · have other := (sized.shrunk.exact e.shrunk_fits).ne_minValue
    exact iff_of_false (not_or.mpr other) fun broken => broken.1 sized
  · rw [shrunk_of_not_sized sized, ofNat_eq_minValue_iff rows, ofNat_eq_minValue_iff cols]
    exact (and_iff_right sized).symm

end Extent

/-! ## Coordinates -/

namespace Formula

/-- Both coordinates keep their values where they are counted back by one. -/
structure Point.Exact (p : Point) : Prop where
  row : (p.row - 1).toInt = p.row.toInt - 1
  col : (p.col - 1).toInt = p.col.toInt - 1

theorem Point.Unsigned.exact {p : Point} (unsigned : p.Unsigned) : p.Exact :=
  ⟨toInt_pred unsigned.row, toInt_pred unsigned.col⟩

theorem Point.exact_iff {p : Point} :
    p.Exact ↔ p.row ≠ Int64.minValue ∧ p.col ≠ Int64.minValue := by
  rw [← toInt_sub_one_eq_iff, ← toInt_sub_one_eq_iff]
  constructor
  · intro exact
    exact ⟨exact.row, exact.col⟩
  · rintro ⟨row, col⟩
    exact ⟨row, col⟩

/-! ## Ranges that break off -/

variable {scope : Scope} {body name : List Char} {aggregate : Aggregate} {first last : Point}
  {sheet : Sheet}

/-- Only a range that reaches a sheet breaks off. -/
theorem exists_range_of_breaksOff (broken : breaksOff scope body = true) :
    ∃ aggregate name first last sheet,
      parse body = .ok ⟨aggregate, .range name first last⟩ ∧ scope.find? name = some sheet := by
  unfold breaksOff at broken
  split at broken
  case h_2 => cases broken
  case h_1 f read =>
    obtain ⟨aggregate, operands⟩ := f
    cases operands with
    | cells points => cases broken
    | malformed => cases broken
    | range name first last =>
        cases found : scope.find? name with
        | none => simp [overflows, found] at broken
        | some sheet => exact ⟨aggregate, name, first, last, sheet, read, found⟩

/-- A range breaks off if one of the dimensions of its sheet is the smallest word. -/
theorem breaksOff_range_iff (read : parse body = .ok ⟨aggregate, .range name first last⟩)
    (found : scope.find? name = some sheet) :
    breaksOff scope body = true ↔
      Int64.ofNat sheet.grid.extent.rows = Int64.minValue ∨
        Int64.ofNat sheet.grid.extent.cols = Int64.minValue := by
  obtain ⟨start, stop⟩ := cornered_of_parse read
  obtain ⟨row, col⟩ := Point.exact_iff.mp start.exact
  obtain ⟨lastRow, lastCol⟩ := Point.exact_iff.mp stop.exact
  have reduced : breaksOff scope body =
      (sheet.grid.extent.countedBack first last).contains Int64.minValue := by
    rw [breaksOff, read]
    change ((scope.find? name).map _).getD false = _
    rw [found]
    rfl
  rw [reduced, List.contains_iff_mem]
  simp only [Extent.countedBack, List.mem_cons, List.not_mem_nil, row.symm, col.symm,
    lastRow.symm, lastCol.symm, or_false, eq_comm]

end Formula

/-! ## Workbooks of a layout -/

namespace Workbook

variable {w : Workbook} {layout : Layout} {aggregate : Aggregate} {name body : List Char}
  {first last : Point} {sheet : Sheet}

/-- In a workbook of a layout, the corners of a range are counted back exactly.  The dimensions of
its sheet are exact if the layout has a row and a column, or if neither of its counts is too large
for a signed word; and the range breaks off if one of them is the first that is too large and the
other one is zero. -/
theorem range_exact_iff (edits : Relation.ReflTransGen Edit (ofLayout layout) w)
    (rows : layout.extent.rows < countLimit) (cols : layout.extent.cols < countLimit)
    (read : parse body = .ok ⟨aggregate, .range name first last⟩)
    (found : w.scope.find? name = some sheet) :
    first.Exact ∧ last.Exact ∧
      (sheet.grid.extent.Exact ↔ layout.extent.Sized ∨
        layout.extent.rows < coordinateLimit ∧ layout.extent.cols < coordinateLimit) ∧
      (Formula.breaksOff w.scope body = true ↔ ¬ layout.extent.Sized ∧
        (layout.extent.rows = coordinateLimit ∨ layout.extent.cols = coordinateLimit)) := by
  obtain ⟨start, stop⟩ := cornered_of_parse read
  have extent := extent_of_edits edits sheet (List.mem_of_find?_eq_some found)
  rw [breaksOff_range_iff read found, extent]
  exact ⟨start.exact, stop.exact, Extent.exact_shrunk_iff,
    Extent.ofNat_shrunk_eq_minValue_iff rows cols⟩

/-- A sheet without rows and the largest count of columns that a signed word can keep. -/
theorem range_exact_iff_of_largest :
    let layout : Layout := ⟨"Z", ⟨0, 9223372036854775807⟩⟩
    let w := ofLayout layout
    let sheet := w.currentSheet
    Point.Exact ⟨1, 1⟩ ∧ Point.Exact ⟨5, 5⟩ ∧
      (sheet.grid.extent.Exact ↔ layout.extent.Sized ∨
        layout.extent.rows < coordinateLimit ∧ layout.extent.cols < coordinateLimit) ∧
      (Formula.breaksOff w.scope "mult(Z,(1,1),(5,5))".toList = true ↔ ¬ layout.extent.Sized ∧
        (layout.extent.rows = coordinateLimit ∨ layout.extent.cols = coordinateLimit)) := by
  intro layout w sheet
  have read : parse "mult(Z,(1,1),(5,5))".toList =
      .ok ⟨.product, .range ['z'] ⟨1, 1⟩ ⟨5, 5⟩⟩ := by decide
  have found : w.scope.find? ['z'] = some sheet := by
    change [sheet].find? _ = some sheet
    exact List.find?_cons_of_pos (by decide)
  exact range_exact_iff .refl (by decide) (by decide) read found

/-- A sheet without rows and one column more: its columns do not keep their value, there is no
counting back from them, and the range is not evaluated to the end. -/
theorem range_inexact_of_empty :
    let layout : Layout := ⟨"Z", ⟨0, 9223372036854775808⟩⟩
    let w := ofLayout layout
    let cols := w.currentSheet.grid.extent.cols
    layout.extent.rows < countLimit ∧ layout.extent.cols < countLimit ∧
      parse "mult(Z,(1,1),(5,5))".toList = .ok ⟨.product, .range ['z'] ⟨1, 1⟩ ⟨5, 5⟩⟩ ∧
      (w.scope.find? ['z']).isSome ∧ (Int64.ofNat cols).toInt ≠ cols ∧
      (Int64.ofNat cols - 1).toInt ≠ (Int64.ofNat cols).toInt - 1 ∧
      w.breaksOff "mult(Z,(1,1),(5,5))".toList = true := by
  decide

/-- Where every sheet has a row and a column, formulas are evaluated to the end. -/
theorem Sized.breaksOff_eq_false (sized : w.Sized) (body : List Char) :
    w.breaksOff body = false := by
  rw [Bool.eq_false_iff]
  intro broken
  have reached := (Bool.and_eq_true_iff.mp broken).2
  obtain ⟨aggregate, name, first, last, sheet, read, found⟩ := exists_range_of_breaksOff reached
  have listed : sheet ∈ w.sheets := List.mem_of_find?_eq_some found
  have other := ((sized sheet listed).exact sheet.grid.fits).ne_minValue
  exact not_or.mpr other ((breaksOff_range_iff read found).mp reached)

end Workbook

/-! ## Sessions -/

namespace Session

/-- A session never breaks off that starts with a layout with a row and a column, or with a document
that was loaded. -/
theorem breaksOff_eq_false {s : Session} (reachable : s.document.ReachableFrom Document.Begun)
    (request : Request) : s.breaksOff request = false := by
  have sized := reachable.sized fun d begun => begun.wellFormed
  rw [breaksOff]
  cases s.evaluated? request with
  | none => rfl
  | some body => exact sized.breaksOff_eq_false body

end Session

end Gridbook
