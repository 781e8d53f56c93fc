import Gridbook.Proofs.Formula.Written
import Gridbook.Proofs.Workbook.WellFormed
import Mathlib.Data.List.Nodup

/-!
# Ranges

A range is walked over the part of its rectangle that lies on the sheet.  The two corners are
clipped to the extent in machine words, one dimension at a time; as no sheet has more than
`maxCells` rows or columns, nothing wraps, and what is left of each dimension is an interval.  The
addresses that are walked are therefore the addresses of the sheet, row by row, without those outside
the rectangle, and the numbers that are folded are those of the cells that were put there.
-/

namespace Gridbook

open Formula

/-! ## Intervals -/

/-- The part of an interval that lies between two bounds, the upper one left out. -/
theorem filter_range' (start size low high : Nat) :
    (List.range' start size).filter (fun n => low ≤ n ∧ n < high) =
      List.range' (max start low) (min (start + size) high - max start low) := by
  induction size with
  | zero =>
      have none : min (start + 0) high - max start low = 0 := by omega
      rw [none, List.range'_zero, List.filter_nil, List.range'_zero]
  | succ size ih =>
      rw [List.range'_1_concat, List.filter_append, ih]
      by_cases between : low ≤ start + size ∧ start + size < high
      · have longer : min (start + (size + 1)) high - max start low =
            (min (start + size) high - max start low) + 1 := by omega
        have next : max start low + (min (start + size) high - max start low) = start + size := by
          omega
        rw [longer, List.range'_1_concat, next,
          List.filter_cons_of_pos (by simpa using between), List.filter_nil]
      · have same : min (start + (size + 1)) high - max start low =
            min (start + size) high - max start low := by omega
        rw [same, List.filter_cons_of_neg (by simpa using between), List.filter_nil, List.append_nil]

namespace Address

/-! ## Blocks of addresses -/

/-- The addresses with the given rows and columns, row by row. -/
def product (rows cols : List Nat) : List Address :=
  rows.flatMap fun row => cols.map fun col => ⟨row, col⟩

theorem product_append (rows more cols : List Nat) :
    product (rows ++ more) cols = product rows cols ++ product more cols :=
  List.flatMap_append

theorem filter_product (p q : Nat → Bool) (rows cols : List Nat) :
    (product rows cols).filter (fun a => p a.row && q a.col) =
      product (rows.filter p) (cols.filter q) := by
  induction rows with
  | nil => rfl
  | cons row rows ih =>
      rw [product, List.flatMap_cons, ← product, List.filter_append, ih, List.filter_map]
      cases kept : p row with
      | false =>
          have none : cols.filter ((fun a : Address => p a.row && q a.col) ∘ (⟨row, ·⟩)) = [] := by
            simp [kept]
          rw [none, List.filter_cons_of_neg (by simp [kept])]
          rfl
      | true =>
          have all : (fun a : Address => p a.row && q a.col) ∘ (⟨row, ·⟩) = q := by
            funext col
            simp [kept]
          rw [all, List.filter_cons_of_pos kept]
          rfl

/-- Counting through the cells of a block row by row gives its addresses. -/
theorem product_range' (row rows col cols : Nat) :
    product (List.range' row rows) (List.range' col cols) =
      (List.range (rows * cols)).map fun index => ⟨row + index / cols, col + index % cols⟩ := by
  induction rows with
  | zero => rw [Nat.zero_mul]; rfl
  | succ rows ih =>
      -- the places of the last row follow those of all rows before it
      rw [List.range'_1_concat, product_append, ih, Nat.succ_mul, List.range_add, List.map_append,
        List.map_map]
      congr 1
      rw [product, List.flatMap_singleton, List.range'_eq_map_range, List.map_map]
      apply List.map_congr_left
      intro index mem
      have inside := List.mem_range.mp mem
      have back : Extent.address ⟨rows + 1, cols⟩ (rows * cols + index) = ⟨rows, index⟩ :=
        Extent.address_position (e := ⟨rows + 1, cols⟩) (a := ⟨rows, index⟩)
          ⟨Nat.lt_succ_self rows, inside⟩
      obtain ⟨quotient, remainder⟩ := Address.mk.inj back
      simp only [Function.comp_apply, quotient, remainder]

end Address

namespace Extent

/-- The addresses of an extent, row by row. -/
def addresses (e : Extent) : List Address :=
  (List.range e.area).map e.address

theorem addresses_eq_product (e : Extent) :
    e.addresses = Address.product (List.range' 0 e.rows) (List.range' 0 e.cols) := by
  rw [Address.product_range', addresses, area]
  simp only [Nat.zero_add]
  rfl

theorem mem_addresses {e : Extent} {a : Address} : a ∈ e.addresses ↔ e.Contains a := by
  rw [addresses, List.mem_map]
  constructor
  · rintro ⟨position, mem, rfl⟩
    exact contains_address (List.mem_range.mp mem)
  · intro inside
    exact ⟨e.position a, List.mem_range.mpr (position_lt inside), address_position inside⟩

/-- Every address of an extent is listed once. -/
theorem nodup_addresses (e : Extent) : e.addresses.Nodup := by
  refine List.nodup_range.map fun first second same => ?_
  rw [← e.position_address first, same, e.position_address]

end Extent

/-! ## Clipping -/

/-- The counts that keep their values as signed words. -/
theorem toInt_ofNat_eq_iff {n : Nat} :
    (Int64.ofNat n).toInt = n ↔ n < Text.coordinateLimit := by
  rw [Text.coordinateLimit_eq]
  constructor
  · intro kept
    have below := (Int64.ofNat n).toInt_lt
    omega
  · exact Int64.toInt_ofNat_of_lt

/-- Only from the smallest word there is no counting back by one. -/
theorem toInt_sub_one_eq_iff {n : Int64} : (n - 1).toInt = n.toInt - 1 ↔ n ≠ Int64.minValue := by
  constructor
  · rintro back rfl
    exact absurd back (by decide)
  · intro other
    have least : n.toInt ≠ -2 ^ 63 := fun same =>
      other (Int64.toInt.inj (same.trans Int64.toInt_minValue.symm))
    have above := n.le_toInt
    have below := n.toInt_lt
    rw [Int64.toInt_sub, Int64.toInt_one]
    exact Int.bmod_eq_of_le (by omega) (by omega)

theorem toInt_pred {n : Int64} (nonneg : 0 ≤ n.toInt) : (n - 1).toInt = n.toInt - 1 := by
  rw [toInt_sub_one_eq_iff]
  rintro rfl
  exact absurd nonneg (by decide)

theorem toInt_max (m n : Int64) : (max m n).toInt = max m.toInt n.toInt := by
  change (if m ≤ n then n else m).toInt = _
  split
  case isTrue ordered => exact (Int.max_eq_right (Int64.le_iff_toInt_le.mp ordered)).symm
  case isFalse ordered =>
    rw [Int64.le_iff_toInt_le, Int.not_le] at ordered
    exact (Int.max_eq_left (Int.le_of_lt ordered)).symm

theorem toInt_min (m n : Int64) : (min m n).toInt = min m.toInt n.toInt := by
  change (if m ≤ n then m else n).toInt = _
  split
  case isTrue ordered => exact (Int.min_eq_left (Int64.le_iff_toInt_le.mp ordered)).symm
  case isFalse ordered =>
    rw [Int64.le_iff_toInt_le, Int.not_le] at ordered
    exact (Int.min_eq_right (Int.le_of_lt ordered)).symm

/-- An address between two corners, which count from one. -/
def Formula.Point.Between (first last : Point) (a : Address) : Prop :=
  (first.row.toInt ≤ a.row + 1 ∧ a.row + 1 ≤ last.row.toInt) ∧
    first.col.toInt ≤ a.col + 1 ∧ a.col + 1 ≤ last.col.toInt

instance (first last : Point) (a : Address) : Decidable (Point.Between first last a) :=
  inferInstanceAs (Decidable (_ ∧ _))

namespace Extent

variable {e : Extent} {first last : Point}

theorem span_eq {size : Nat} (bounded : size ≤ maxCells) {first last : Int64}
    (start : 0 ≤ first.toInt) (stop : 0 ≤ last.toInt) :
    span size first last =
      (first.toInt.toNat - 1, min size last.toInt.toNat - (first.toInt.toNat - 1)) := by
  have whole : (Int64.ofNat size).toInt = size :=
    Int64.toInt_ofNat_of_lt (Nat.lt_of_le_of_lt bounded (by decide))
  have extent : (Int64.ofNat size - 1).toInt = size - 1 := by
    rw [toInt_pred (by omega), whole]
  -- every word is now the integer it stands for, so that only integers are left to compare
  unfold span
  simp only [toInt_max, toInt_min, toInt_pred start, toInt_pred stop, extent, Int64.toInt_zero,
    Prod.mk.injEq]
  omega

/-- Clipping keeps what an interval of coordinates and the dimension have in common. -/
theorem range'_span {size : Nat} (bounded : size ≤ maxCells) {first last : Int64}
    (start : 0 ≤ first.toInt) (stop : 0 ≤ last.toInt) :
    List.range' (span size first last).1 (span size first last).2 =
      (List.range' 0 size).filter fun n : Nat => first.toInt ≤ n + 1 ∧ n + 1 ≤ last.toInt := by
  have bounds : ∀ n ∈ List.range' 0 size,
      decide (first.toInt ≤ n + 1 ∧ n + 1 ≤ last.toInt) =
        decide (first.toInt.toNat - 1 ≤ n ∧ n < last.toInt.toNat) := by
    intro n _
    rw [decide_eq_decide]
    omega
  rw [span_eq bounded start stop, List.filter_congr bounds, filter_range']
  simp only [Nat.zero_add, Nat.zero_max]

/-- A rectangle is walked as a block of addresses. -/
theorem rectangle_eq_product (e : Extent) (first last : Point) :
    e.rectangle first last =
      Address.product
        (List.range' (span e.rows first.row last.row).1 (span e.rows first.row last.row).2)
        (List.range' (span e.cols first.col last.col).1 (span e.cols first.col last.col).2) :=
  (Address.product_range' _ _ _ _).symm

/-- The addresses of a range are those of the sheet that lie between the corners. -/
theorem rectangle_eq_filter (sized : e.Sized) (fits : e.Fits) (start : first.Unsigned)
    (stop : last.Unsigned) :
    e.rectangle first last = e.addresses.filter fun a => Point.Between first last a := by
  rw [rectangle_eq_product, range'_span (sized.rows_le fits) start.row stop.row,
    range'_span (sized.cols_le fits) start.col stop.col, ← Address.filter_product,
    ← addresses_eq_product]
  apply List.filter_congr
  intro a _
  rw [← Bool.decide_and]
  rfl

end Extent

/-! ## Folding -/

namespace Formula

/-- The numbers at the addresses that pass a test, in the order of the sheet, are the numbers of the
cells that were put there. -/
theorem filterMap_numericAt? (g : Grid) (p : Address → Bool) :
    (g.extent.addresses.filter p).filterMap g.numericAt? =
      (g.written.filter fun entry => p entry.1).filterMap fun entry => entry.2.numeric? := by
  rw [Extent.addresses, List.filterMap_filter, List.filterMap_map, Grid.written_eq,
    List.filter_filterMap, List.filterMap_filterMap]
  apply List.filterMap_congr
  intro position mem
  have inside := Extent.contains_address (List.mem_range.mp mem)
  have number : g.numericAt? (g.extent.address position) =
      (g.slots.getD position none).bind Cell.numeric? := by
    rw [Grid.numericAt?, Grid.get?_of_contains inside, Grid.slot, Extent.position_address]
    cases g.slots.getD position none <;> rfl
  rw [Function.comp_apply, number]
  cases stored : g.slots.getD position none with
  | none => simp
  | some cell =>
      cases kept : p (g.extent.address position) <;> simp [Option.filter, kept]

variable {scope : Scope} {name : List Char} {sheet : Sheet} {first last : Point}

theorem operandAddresses?_range (found : scope.find? name = some sheet) (aggregate : Aggregate)
    (first last : Point) :
    (Formula.mk aggregate (.range name first last)).operandAddresses? scope =
      some (sheet, sheet.grid.extent.rectangle first last) := by
  change (scope.find? name).map _ = _
  rw [found]
  rfl

theorem numbers_range (found : scope.find? name = some sheet) (aggregate : Aggregate)
    (first last : Point) :
    (Formula.mk aggregate (.range name first last)).numbers scope =
      (sheet.grid.extent.rectangle first last).filterMap sheet.grid.numericAt? := by
  rw [numbers, operandAddresses?_range found]

/-- The numbers of the cells that were put between two corners, in the order of the grid. -/
def numbersBetween (g : Grid) (first last : Point) : List Float :=
  (g.written.filter fun entry => Point.Between first last entry.1).filterMap
    fun entry => entry.2.numeric?

/-- On an extent without rows or without columns no number is folded, whatever is walked there. -/
theorem filterMap_numericAt?_of_not_sized {g : Grid} (flat : ¬ g.extent.Sized)
    (addresses : List Address) : addresses.filterMap g.numericAt? = [] := by
  rw [List.filterMap_eq_nil_iff]
  intro a _
  have outside : ¬ g.extent.Contains a := fun inside =>
    flat ⟨Nat.zero_lt_of_lt inside.1, Nat.zero_lt_of_lt inside.2⟩
  rw [Grid.numericAt?, (g.get?_eq_none_iff a).mpr outside, Option.bind_none]

/-- A range folds the numbers that were put between its corners. -/
theorem numbers_eq_numbersBetween (found : scope.find? name = some sheet) (start : first.Unsigned)
    (stop : last.Unsigned) (aggregate : Aggregate) :
    (Formula.mk aggregate (.range name first last)).numbers scope =
      numbersBetween sheet.grid first last := by
  have listed := filterMap_numericAt? sheet.grid fun a => Point.Between first last a
  rw [numbers_range found, numbersBetween, ← listed]
  by_cases sized : sheet.grid.extent.Sized
  · rw [Extent.rectangle_eq_filter sized sheet.grid.fits start stop]
  · rw [filterMap_numericAt?_of_not_sized sized, filterMap_numericAt?_of_not_sized sized]

/-- A range walks every address of the sheet that lies between its corners once, and no other one;
its value is the fold of the numbers among the cells that were put there, in the order in which the
grid lists them. -/
theorem value_range (found : scope.find? name = some sheet) (sized : sheet.grid.extent.Sized)
    (start : first.Unsigned) (stop : last.Unsigned) (aggregate : Aggregate) :
    (∃ addresses,
      (Formula.mk aggregate (.range name first last)).operandAddresses? scope =
        some (sheet, addresses) ∧
      addresses.Nodup ∧
      ∀ a, a ∈ addresses ↔ sheet.grid.extent.Contains a ∧ Point.Between first last a) ∧
    (Formula.mk aggregate (.range name first last)).value scope =
      ((sheet.grid.written.filter fun entry => Point.Between first last entry.1).filterMap
        fun entry => entry.2.numeric?).foldl aggregate.combine aggregate.identity := by
  have walked := Extent.rectangle_eq_filter sized sheet.grid.fits start stop
  constructor
  · refine ⟨_, operandAddresses?_range found aggregate first last, ?_, fun a => ?_⟩
    · rw [walked]
      exact sheet.grid.extent.nodup_addresses.filter _
    · rw [walked, List.mem_filter, Extent.mem_addresses, decide_eq_true_eq]
  · rw [value, numbers_range found, walked, filterMap_numericAt?]
    rfl

/-- Of two cells that were put on a sheet, the one that is left by a range that starts before the
first row and ends far behind the last column. -/
theorem value_range_of_clipped :
    let sheet : Sheet := ⟨"a", ((Grid.empty ⟨2, 2⟩).put ⟨0, 0⟩ ⟨"2", .number 2.0⟩).put ⟨1, 1⟩
      ⟨"3", .number 3.0⟩⟩
    let scope : Scope := ⟨none, [sheet]⟩
    let formula : Formula := ⟨.sum, .range "A".toList ⟨0, 2⟩ ⟨9, Int64.maxValue⟩⟩
    (∃ addresses, formula.operandAddresses? scope = some (sheet, addresses) ∧ addresses.Nodup ∧
      ∀ a, a ∈ addresses ↔
        sheet.grid.extent.Contains a ∧ Point.Between ⟨0, 2⟩ ⟨9, Int64.maxValue⟩ a) ∧
    formula.value scope = [3.0].foldl (· + ·) 0.0 := by
  intro sheet scope formula
  have found : scope.find? "A".toList = some sheet := List.find?_cons_of_pos (by decide)
  have start : Point.Unsigned ⟨0, 2⟩ := by decide
  have stop : Point.Unsigned ⟨9, Int64.maxValue⟩ := by decide
  obtain ⟨walked, folded⟩ := value_range found (by decide) start stop .sum
  have listed : sheet.grid.written =
      [(⟨0, 0⟩, ⟨"2", .number 2.0⟩), (⟨1, 1⟩, ⟨"3", .number 3.0⟩)] := by
    unfold sheet
    rfl
  rw [listed, List.filter_cons_of_neg (by decide), List.filter_cons_of_pos (by decide)] at folded
  exact ⟨walked, folded⟩

end Formula

end Gridbook
