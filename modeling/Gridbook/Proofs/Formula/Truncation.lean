import Gridbook.Proofs.Formula.Agreement

/-!
# Ranges that end behind the sheet

A range that ends behind the last row and the last column folds what a range folds that ends there.
This holds as long as its last corner is one of coordinates.  Digits that stand for a number beyond
all coordinates make the operands malformed, so that the formula folds nothing instead.
-/

namespace Gridbook

open Text

namespace Formula

/-! ## Coordinates of any length -/

variable {row col : List Char} {m n : Nat}

theorem numeral_of_natural? (readRow : natural? row = some m) (readCol : natural? col = some n) :
    (Corner.mk row col).Numeral :=
  ⟨isDigit_of_natural? readRow, isDigit_of_natural? readCol⟩

theorem point?_of_natural? (readRow : natural? row = some m) (readCol : natural? col = some n) :
    (Corner.mk row col).point? =
      if m < coordinateLimit ∧ n < coordinateLimit then some ⟨Int64.ofNat m, Int64.ofNat n⟩
      else none := by
  rw [Corner.point?, coordinate?_of_natural? readRow, coordinate?_of_natural? readCol]
  by_cases rows : m < coordinateLimit <;> by_cases cols : n < coordinateLimit <;> simp [rows, cols]

/-! ## Truncation -/

/-- A corner at the last row and the last column of an extent, or behind them. -/
structure Point.Beyond (p : Point) (e : Extent) : Prop where
  rows : e.rows ≤ p.row.toInt
  cols : e.cols ≤ p.col.toInt

theorem Point.Beyond.unsigned {p : Point} {e : Extent} (beyond : p.Beyond e) : p.Unsigned :=
  ⟨Int.le_trans (Int.natCast_nonneg _) beyond.rows, Int.le_trans (Int.natCast_nonneg _) beyond.cols⟩

theorem Point.beyond_of_le {e : Extent} (low : m < coordinateLimit) (left : n < coordinateLimit)
    (rows : e.rows ≤ m) (cols : e.cols ≤ n) :
    Point.Beyond ⟨Int64.ofNat m, Int64.ofNat n⟩ e where
  rows := by
    rw [toInt_ofNat_eq_iff.mpr low]
    exact Int.ofNat_le.mpr rows
  cols := by
    rw [toInt_ofNat_eq_iff.mpr left]
    exact Int.ofNat_le.mpr cols

/-- Inside the extent, the corners that lie beyond it bound nothing. -/
theorem Point.Beyond.between_iff {last : Point} {e : Extent} (beyond : last.Beyond e) (first : Point)
    {a : Address} (inside : e.Contains a) :
    Point.Between first last a ↔ first.row.toInt ≤ a.row + 1 ∧ first.col.toInt ≤ a.col + 1 := by
  have rows := beyond.rows
  have cols := beyond.cols
  obtain ⟨low, left⟩ := inside
  unfold Between
  omega

theorem numbersBetween_of_beyond {g : Grid} {last other : Point} (beyond : last.Beyond g.extent)
    (further : other.Beyond g.extent) (first : Point) :
    numbersBetween g first last = numbersBetween g first other := by
  have listed (corner : Point) := filterMap_numericAt? g fun a => Point.Between first corner a
  rw [numbersBetween, ← listed, numbersBetween, ← listed]
  congr 1
  apply List.filter_congr
  intro a mem
  have inside := Extent.mem_addresses.mp mem
  rw [decide_eq_decide, beyond.between_iff first inside, further.between_iff first inside]

end Formula

namespace Workbook

open Formula

variable {w : Workbook} {name : String} {sheet : Sheet} {word keyword row col : List Char}
  {aggregate : Aggregate} {first : Point} {m n : Nat}

/-- What a range with a corner of any digits yields: the numbers up to the corner, or none of them if
the corner is no point. -/
theorem evaluate_spanText (attached : w.evaluating = true)
    (known : (keyword, aggregate) ∈ Aggregate.keywords) (same : word.map Char.toLower = keyword)
    (named : SheetName name.toList) (found : w.find? name = some sheet) (start : first.Unsigned)
    (readRow : natural? row = some m) (readCol : natural? col = some n) :
    w.evaluate (callText word (spanText name.toList first.corner ⟨row, col⟩)) =
      .number (aggregate.fold (if m < coordinateLimit ∧ n < coordinateLimit then
        numbersBetween sheet.grid first ⟨Int64.ofNat m, Int64.ofNat n⟩ else [])) := by
  have read := parse_spanText known same named.not_allBlank named.trimmed named.comma named.line
    start.numeral (numeral_of_natural? readRow readCol)
  rw [named.normal_eq, bareName_of_unmarked named.lower.unmarked, Point.point?_corner,
    Option.bind_some, point?_of_natural? readRow readCol] at read
  rw [evaluate_of_parse attached read, Formula.value]
  split
  · rename_i bound
    have reached := (scope_find?_lower named.trimmed).trans found
    have stop : Point.Unsigned ⟨Int64.ofNat m, Int64.ofNat n⟩ :=
      (Point.beyond_of_le (e := ⟨0, 0⟩) bound.1 bound.2 (Nat.zero_le _) (Nat.zero_le _)).unsigned
    rw [Option.map_some, Option.getD_some, numbers_eq_numbersBetween reached start stop]
  · rfl

/-- A range that ends at the last row and column or behind them folds the same numbers, if its last
corner is one of coordinates, and otherwise none. -/
theorem evaluate_range_beyond (attached : w.evaluating = true)
    (known : (keyword, aggregate) ∈ Aggregate.keywords) (same : word.map Char.toLower = keyword)
    (named : SheetName name.toList) (found : w.find? name = some sheet)
    (sized : sheet.grid.extent.Sized) (start : first.Unsigned) (readRow : natural? row = some m)
    (readCol : natural? col = some n) (rows : sheet.grid.extent.rows ≤ m)
    (cols : sheet.grid.extent.cols ≤ n) :
    ∃ total,
      w.evaluate (callText word (spanText name.toList first.corner
        ⟨digits sheet.grid.extent.rows, digits sheet.grid.extent.cols⟩)) = .number total ∧
      w.evaluate (callText word (spanText name.toList first.corner ⟨row, col⟩)) =
        .number (if m < coordinateLimit ∧ n < coordinateLimit then total
          else aggregate.identity) := by
  have low : sheet.grid.extent.rows < coordinateLimit :=
    Nat.lt_of_le_of_lt (sized.rows_le sheet.grid.fits) (by decide)
  have left : sheet.grid.extent.cols < coordinateLimit :=
    Nat.lt_of_le_of_lt (sized.cols_le sheet.grid.fits) (by decide)
  have last := Point.beyond_of_le low left (Nat.le_refl _) (Nat.le_refl _)
  have whole := evaluate_spanText attached known same named found start
    (natural?_digits sheet.grid.extent.rows) (natural?_digits sheet.grid.extent.cols)
  rw [if_pos ⟨low, left⟩] at whole
  refine ⟨_, whole, ?_⟩
  rw [evaluate_spanText attached known same named found start readRow readCol]
  by_cases bound : m < coordinateLimit ∧ n < coordinateLimit
  · have beyond := Point.beyond_of_le bound.1 bound.2 rows cols
    rw [if_pos bound, if_pos bound, numbersBetween_of_beyond beyond last first]
  · rw [if_neg bound, if_neg bound]
    rfl

/-- Leading zeros and the largest coordinate. -/
theorem evaluate_range_beyond_of_largest :
    let sheet : Sheet := ⟨"a", (Grid.empty ⟨1, 1⟩).put ⟨0, 0⟩ ⟨"5", .number 5.0⟩⟩
    let w : Workbook := ⟨[sheet], 0, ⟨1, 1⟩, true, by decide, by decide⟩
    ∃ total,
      w.evaluate "mult(a,(1,1),(1,1))".toList = .number total ∧
      w.evaluate "mult(a,(1,1),(0001,9223372036854775807))".toList = .number total := by
  intro sheet w
  have found : w.find? "a" = some sheet := List.find?_cons_of_pos (by decide)
  have largest : natural? "9223372036854775807".toList = some 9223372036854775807 := by decide
  have bound : 1 < coordinateLimit ∧ 9223372036854775807 < coordinateLimit := by decide
  obtain ⟨total, whole, further⟩ := @evaluate_range_beyond w "a" sheet "mult".toList "mult".toList
    "0001".toList "9223372036854775807".toList .product ⟨1, 1⟩ 1 9223372036854775807 rfl
    (by decide) (by decide) (by decide) found (by decide) (by decide) (by decide) largest
    (by decide) (by decide)
  have written : callText "mult".toList (spanText "a".toList (Point.corner ⟨1, 1⟩)
      ⟨digits sheet.grid.extent.rows, digits sheet.grid.extent.cols⟩) =
        "mult(a,(1,1),(1,1))".toList := by decide
  rw [written] at whole
  rw [if_pos bound] at further
  exact ⟨total, whole, further⟩

/-- One more than the largest coordinate, and the cell in the first row is not folded any more. -/
theorem evaluate_range_beyond_limit :
    let sheet : Sheet := ⟨"a", (Grid.empty ⟨1, 1⟩).put ⟨0, 0⟩ ⟨"5", .number 5.0⟩⟩
    let w : Workbook := ⟨[sheet], 0, ⟨1, 1⟩, true, by decide, by decide⟩
    natural? "9223372036854775808".toList = some 9223372036854775808 ∧
      sheet.grid.extent = ⟨1, 1⟩ ∧ w.find? "a" = some sheet ∧ SheetName "a".toList ∧
      w.evaluate "sum(a,(1,1),(9223372036854775808,1))".toList ≠
        w.evaluate "sum(a,(1,1),(1,1))".toList := by
  intro sheet w
  have found : w.find? "a" = some sheet := List.find?_cons_of_pos (by decide)
  exact ⟨by decide, rfl, found, by decide, by decide⟩

end Workbook

end Gridbook
