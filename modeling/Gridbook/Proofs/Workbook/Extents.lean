import Gridbook.Proofs.Grid.Words
import Gridbook.Proofs.Workbook.WellFormed
import Mathlib.Logic.Relation

/-!
# The extents of sheets

An extent that has too many cells keeps its rows, up to the limit, and as many of its columns as fit
beside them.  What is left fits and is not shrunk again.  So the sheets that are added to a workbook
all have the extent of its first sheet, whatever else is done with it.
-/

namespace Gridbook

/-! ## Shrinking -/

namespace Extent

variable {e : Extent}

theorem rows_shrunk_le (e : Extent) : e.shrunk.rows ≤ e.rows := by
  unfold shrunk
  split
  · exact Nat.le_refl _
  · exact Nat.min_le_left _ _

theorem cols_shrunk_le (e : Extent) : e.shrunk.cols ≤ e.cols := by
  unfold shrunk
  split
  · exact Nat.le_refl _
  · exact Nat.min_le_left _ _

theorem shrunk_eq_self_iff : e.shrunk = e ↔ e.Fits :=
  ⟨fun same => same ▸ e.shrunk_fits, shrunk_of_fits⟩

/-- An extent with too many cells keeps as many rows as there may be cells. -/
theorem rows_shrunk (large : ¬ e.Fits) : e.shrunk.rows = min e.rows maxCells := by
  rw [shrunk, if_neg large]

/-- Beside the rows that are kept, there is no room for more columns than are kept. -/
theorem le_cols_shrunk (large : ¬ e.Fits) {cols : Nat} (available : cols ≤ e.cols)
    (room : e.shrunk.rows * cols ≤ maxCells) : cols ≤ e.shrunk.cols := by
  have rows : 0 < e.rows := by
    apply Nat.pos_of_ne_zero
    intro zero
    rw [Fits, area, zero, Nat.zero_mul] at large
    exact large (Nat.zero_le _)
  have kept : 0 < min e.rows maxCells := Nat.lt_min.mpr ⟨rows, by decide⟩
  rw [rows_shrunk large] at room
  rw [shrunk, if_neg large]
  dsimp only
  rw [Nat.max_eq_left kept]
  exact Nat.le_min.mpr ⟨available, (Nat.le_div_iff_mul_le kept).mpr (Nat.mul_comm cols _ ▸ room)⟩

/-- How an extent becomes another one that has no more cells than a grid may hold. -/
structure ShrinksTo (e s : Extent) : Prop where
  rows_le : s.rows ≤ e.rows
  cols_le : s.cols ≤ e.cols
  cells_le : s.rows * s.cols ≤ maxCells
  kept_iff : s = e ↔ e.rows * e.cols ≤ maxCells
  sized : 1 ≤ e.rows → 1 ≤ e.cols → 1 ≤ s.rows ∧ 1 ≤ s.cols
  rows_eq : s ≠ e → s.rows = min e.rows maxCells
  widest : s ≠ e → ∀ cols ≤ e.cols, s.rows * cols ≤ maxCells → cols ≤ s.cols
  again : (Grid.empty s).extent = s

theorem shrinksTo_shrunk (e : Extent) : e.ShrinksTo e.shrunk where
  rows_le := e.rows_shrunk_le
  cols_le := e.cols_shrunk_le
  cells_le := e.shrunk_fits
  kept_iff := shrunk_eq_self_iff
  sized rows cols := Sized.shrunk ⟨rows, cols⟩
  rows_eq other := rows_shrunk (mt shrunk_of_fits other)
  widest other _ available room := le_cols_shrunk (mt shrunk_of_fits other) available room
  again := shrunk_of_fits e.shrunk_fits

end Extent

/-! ## Workbooks -/

namespace Workbook

variable {w v : Workbook} {layout : Layout}

/-- The extents of the sheets, in order. -/
def extents (w : Workbook) : List Extent :=
  w.sheets.map fun s => s.grid.extent

theorem Edit.extent_eq (edit : w.Edit v) : v.extent = w.extent := by
  cases edit with
  | write done => exact (write?_eq_some_iff.mp done).extent
  | addSheet done => exact (addSheet?_eq_some_iff.mp done).extent
  | switch done => exact (switch?_eq_some_iff.mp done).extent
  | evaluator attached => rfl

/-- An edit changes the extent of no sheet, and a sheet that it adds gets the one that is kept for
further sheets. -/
theorem Edit.extents_eq (edit : w.Edit v) (fits : w.extent.Fits) :
    ∃ added, v.extents = w.extents ++ List.replicate added w.extent := by
  have kept (same : v.extents = w.extents) :
      ∃ added, v.extents = w.extents ++ List.replicate added w.extent :=
    ⟨0, same.trans (List.append_nil _).symm⟩
  cases edit with
  | write done => exact kept (write?_eq_some_iff.mp done).extents
  | addSheet done =>
      refine ⟨1, ?_⟩
      rw [extents, (addSheet?_eq_some_iff.mp done).sheets, List.map_append]
      exact congrArg (w.extents ++ [·]) (Extent.shrunk_of_fits fits)
  | switch done =>
      apply kept
      rw [extents, (switch?_eq_some_iff.mp done).sheets, extents]
  | evaluator attached => exact kept rfl

/-- However a workbook is edited, its sheets keep their extents, and all that are added have the one
that is kept for them. -/
theorem extents_of_edits (edits : Relation.ReflTransGen Edit w v) (fits : w.extent.Fits) :
    v.extent = w.extent ∧ ∃ added, v.extents = w.extents ++ List.replicate added w.extent := by
  induction edits with
  | refl => exact ⟨rfl, 0, (List.append_nil _).symm⟩
  | tail _ edit ih =>
      obtain ⟨same, earlier, before⟩ := ih
      obtain ⟨later, after⟩ := edit.extents_eq (same ▸ fits)
      refine ⟨edit.extent_eq.trans same, earlier + later, ?_⟩
      rw [after, before, same, List.append_assoc, List.replicate_append_replicate]

/-- However a workbook of a layout is edited, all its sheets have the extent of the layout, shrunk
if it does not fit. -/
theorem extent_of_edits (edits : Relation.ReflTransGen Edit (ofLayout layout) w) :
    ∀ s ∈ w.sheets, s.grid.extent = layout.extent.shrunk := by
  obtain ⟨_, added, extents⟩ := extents_of_edits edits layout.extent.shrunk_fits
  intro s mem
  have listed : s.grid.extent ∈ w.extents := List.mem_map_of_mem mem
  rw [extents] at listed
  rcases List.mem_append.mp listed with first | further
  · exact List.mem_singleton.mp first
  · exact (List.mem_replicate.mp further).2

/-- A workbook that was just made, from a layout or from sheets of any extents. -/
inductive Fresh : Workbook → Prop where
  | ofLayout (layout : Layout) : Fresh (ofLayout layout)
  | ofSheets {sheets : List Sheet} {index : Nat} {w : Workbook}
      (made : ofSheets? sheets index = some w) : Fresh w

theorem Fresh.first (fresh : w.Fresh) :
    ∃ first, w.sheets.head? = some first ∧ first.grid.extent = w.extent := by
  cases fresh with
  | ofLayout layout => exact ⟨_, rfl, rfl⟩
  | @ofSheets sheets index _ made =>
      cases sheets with
      | nil => cases made
      | cons first rest =>
          rw [ofSheets?] at made
          split at made <;> obtain rfl := Option.some.inj made <;> exact ⟨first, rfl, rfl⟩

/-- An extent is shrunk in the same way in words and in numbers, and it can be told in words whether
that is needed.  The first sheet of a workbook gets what is left, and however any workbook is
edited, the sheets that are added to it get the extent of its first one. -/
theorem extents_shrunk (rows cols : UInt64) :
    ∃ r c, Extent.shrunkWords? rows cols = some (r, c) ∧
      let asked := Extent.ofWords rows cols
      let given := Extent.ofWords r c
      (Grid.empty asked).extent = given ∧ asked.ShrinksTo given ∧
      (∃ cells, Count.product? r c = some cells ∧ cells ≤ Extent.mostCells) ∧
      (asked.Fits ↔ rows.toNat * cols.toNat ≤ maxCells) ∧
      (Extent.fitsWords rows cols = true ↔ rows.toNat * cols.toNat ≤ maxCells) ∧
      (∀ name, (ofLayout ⟨name, asked⟩).extents = [given]) ∧
      ∀ w v : Workbook, w.Fresh → Relation.ReflTransGen Edit w v →
        ∃ first added, w.sheets.head? = some first ∧
          v.extents = w.extents ++ List.replicate added first.grid.extent := by
  obtain ⟨r, c, computed, shrunk⟩ := Extent.exists_shrunkWords? rows cols
  have shrinks := (Extent.ofWords rows cols).shrinksTo_shrunk
  rw [shrunk] at shrinks
  refine ⟨r, c, computed, shrunk, shrinks, ?_, Iff.rfl, Extent.fitsWords_iff,
    fun _ => congrArg ([·]) shrunk, ?_⟩
  · obtain ⟨cells, counted, size⟩ := Extent.exists_area shrinks.cells_le
    refine ⟨cells, counted, ?_⟩
    rw [UInt64.le_iff_toNat_le, size, Extent.toNat_mostCells]
    exact shrinks.cells_le
  · intro w v fresh edits
    obtain ⟨first, head, same⟩ := fresh.first
    obtain ⟨_, added, extents⟩ := extents_of_edits edits (same ▸ first.grid.fits)
    exact ⟨first, added, head, same ▸ extents⟩

end Workbook

end Gridbook
