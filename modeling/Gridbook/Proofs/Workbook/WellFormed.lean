import Gridbook.Proofs.Workbook.Classification
import Gridbook.Proofs.Workbook.Operations
import Mathlib.Logic.Relation

/-!
# Well-formed workbooks

In a well-formed workbook every sheet has a name that is not blank, every cell means what its
content tells, and the extent for further sheets is the extent of the first one.  New workbooks are
well formed, and every edit keeps them so.  Edits also keep sheets from being without rows or
columns, once no sheet is.
-/

namespace Gridbook

open Text

/-! ## Extents -/

namespace Extent

/-- There is at least one row and one column. -/
def Sized (e : Extent) : Prop :=
  1 ≤ e.rows ∧ 1 ≤ e.cols

instance (e : Extent) : Decidable e.Sized :=
  inferInstanceAs (Decidable (_ ∧ _))

variable {e : Extent}

theorem shrunk_of_fits (fits : e.Fits) : e.shrunk = e :=
  if_pos fits

theorem Sized.rows_le (sized : e.Sized) (fits : e.Fits) : e.rows ≤ maxCells :=
  Nat.le_trans (Nat.le_mul_of_pos_right _ sized.2) fits

theorem Sized.cols_le (sized : e.Sized) (fits : e.Fits) : e.cols ≤ maxCells :=
  Nat.le_trans (Nat.le_mul_of_pos_left _ sized.1) fits

/-- An extent does not lose its last row or column when it is shrunk. -/
theorem Sized.shrunk (sized : e.Sized) : e.shrunk.Sized := by
  unfold Extent.shrunk
  split
  · exact sized
  · have rows : 1 ≤ min e.rows maxCells := Nat.le_min.mpr ⟨sized.1, by decide⟩
    have kept : max (min e.rows maxCells) 1 ≤ maxCells :=
      Nat.max_le.mpr ⟨Nat.min_le_right _ _, by decide⟩
    have cols : 1 ≤ maxCells / max (min e.rows maxCells) 1 :=
      Nat.div_pos kept (Nat.lt_of_lt_of_le Nat.zero_lt_one (Nat.le_max_right _ _))
    exact ⟨rows, Nat.le_min.mpr ⟨sized.2, cols⟩⟩

end Extent

/-! ## Cells on a grid -/

namespace Grid

/-- Every cell that was put on the grid means what its content tells. -/
def MeansContent (g : Grid) : Prop :=
  ∀ c : Cell, some c ∈ g.slots → c.MeansContent

variable {g : Grid} {a : Address} {c : Cell}

theorem meansContent_empty (e : Extent) : (Grid.empty e).MeansContent := by
  intro c mem
  cases (Array.mem_replicate.mp mem).2

theorem MeansContent.put (cells : g.MeansContent) (a : Address) (means : c.MeansContent) :
    (g.put a c).MeansContent := by
  unfold Grid.put
  split
  · intro d mem
    rcases Array.mem_or_eq_of_mem_setIfInBounds mem with old | new
    · exact cells d old
    · obtain rfl := Option.some.inj new
      exact means
  · exact cells

theorem MeansContent.of_get? (cells : g.MeansContent) (found : g.get? a = some c) :
    c.MeansContent := by
  rw [get?_of_contains (contains_of_get? found), Option.some.injEq] at found
  cases stored : g.slot a with
  | none =>
      rw [stored] at found
      subst found
      exact Cell.meansContent_blank
  | some d =>
      rw [stored] at found
      subst found
      apply cells d
      rw [slot, Array.getD_eq_getD_getElem?] at stored
      cases known : g.slots[g.extent.position a]? with
      | none =>
          rw [known] at stored
          cases stored
      | some entry =>
          rw [known] at stored
          subst stored
          exact Array.mem_of_getElem? known

end Grid

/-! ## Workbooks -/

/-- The name of the sheet is not blank and its cells mean what their contents tell. -/
structure Sheet.Sound (s : Sheet) : Prop where
  named : ¬ AllBlank s.name.toList
  cells : s.grid.MeansContent

namespace Workbook

variable {w v : Workbook} {a : Address} {c : Cell} {name : String} {index : Nat}

structure WellFormed (w : Workbook) : Prop where
  sound : ∀ s ∈ w.sheets, s.Sound
  first : w.sheets.head?.map (fun s => s.grid.extent) = some w.extent

/-- No sheet is without rows or columns. -/
def Sized (w : Workbook) : Prop :=
  ∀ s ∈ w.sheets, s.grid.extent.Sized

theorem WellFormed.exists_first (formed : w.WellFormed) :
    ∃ s ∈ w.sheets, s.grid.extent = w.extent := by
  obtain ⟨s, found, same⟩ := Option.map_eq_some_iff.mp formed.first
  exact ⟨s, List.mem_of_head? found, same⟩

/-- A further sheet gets the whole extent that is kept for it. -/
theorem WellFormed.extent_empty (formed : w.WellFormed) :
    (Grid.empty w.extent).extent = w.extent := by
  obtain ⟨s, _, same⟩ := formed.exists_first
  exact Extent.shrunk_of_fits (same ▸ s.grid.fits)

theorem wellFormed_ofLayout (layout : Layout) : (ofLayout layout).WellFormed := by
  refine ⟨fun s mem => ?_, rfl⟩
  obtain rfl := List.mem_singleton.mp mem
  refine ⟨?_, Grid.meansContent_empty _⟩
  dsimp only
  split
  · decide
  · assumption

theorem sized_ofLayout {layout : Layout} (sized : layout.extent.Sized) :
    (ofLayout layout).Sized := by
  intro s mem
  obtain rfl := List.mem_singleton.mp mem
  exact sized.shrunk

/-! ## Edits keep workbooks well formed -/

/-- What a put cell leaves of its sheet as it is, it leaves of all sheets. -/
theorem PutTo.map_sheets {α : Type} {part : Sheet → α} (done : w.PutTo a c v)
    (kept : part (w.currentSheet.put a c) = part w.currentSheet) :
    v.sheets.map part = w.sheets.map part := by
  have here : (w.sheets.map part)[w.current]? = some (part w.currentSheet) := by
    rw [List.getElem?_map, w.getElem?_current, Option.map_some]
  obtain ⟨inside, here⟩ := List.getElem?_eq_some_iff.mp here
  rw [done.sheets, List.map_set, kept, ← here, List.set_getElem_self]

/-- Putting a cell changes the extent of no sheet. -/
theorem PutTo.extents (done : w.PutTo a c v) :
    v.sheets.map (fun s => s.grid.extent) = w.sheets.map (fun s => s.grid.extent) :=
  done.map_sheets (Grid.extent_put _ _ _)

theorem PutTo.wellFormed (done : w.PutTo a c v) (formed : w.WellFormed)
    (means : c.MeansContent) : v.WellFormed := by
  constructor
  · intro s mem
    rw [done.sheets] at mem
    rcases List.mem_or_eq_of_mem_set mem with old | rfl
    · exact formed.sound s old
    · have sound := formed.sound _ w.currentSheet_mem
      exact ⟨sound.named, sound.cells.put a means⟩
  · rw [← List.head?_map, done.extents, List.head?_map, formed.first, done.extent]

theorem PutTo.sized (done : w.PutTo a c v) (sized : w.Sized) : v.Sized := by
  intro s mem
  have known := List.mem_map_of_mem (f := fun s : Sheet => s.grid.extent) mem
  rw [done.extents] at known
  obtain ⟨old, mem, same⟩ := List.mem_map.mp known
  exact same ▸ sized old mem

theorem AddedTo.wellFormed (done : w.AddedTo name v) (formed : w.WellFormed) :
    v.WellFormed := by
  constructor
  · intro s mem
    rw [done.sheets] at mem
    rcases List.mem_append.mp mem with old | new
    · exact formed.sound s old
    · obtain rfl := List.mem_singleton.mp new
      exact ⟨done.named, Grid.meansContent_empty _⟩
  · obtain ⟨s, found, same⟩ := Option.map_eq_some_iff.mp formed.first
    rw [done.sheets, List.head?_append, found, done.extent]
    exact congrArg some same

theorem AddedTo.sized (done : w.AddedTo name v) (formed : w.WellFormed) (sized : w.Sized) :
    v.Sized := by
  intro s mem
  rw [done.sheets] at mem
  rcases List.mem_append.mp mem with old | new
  · exact sized s old
  · obtain rfl := List.mem_singleton.mp new
    obtain ⟨first, mem, same⟩ := formed.exists_first
    dsimp only
    rw [formed.extent_empty, ← same]
    exact sized first mem

theorem Edit.wellFormed (edit : w.Edit v) (formed : w.WellFormed) : v.WellFormed := by
  cases edit with
  | write done =>
      exact (write?_eq_some_iff.mp done).wellFormed formed (Cell.meansContent_ofInput _ _)
  | addSheet done => exact (addSheet?_eq_some_iff.mp done).wellFormed formed
  | switch done =>
      have moved := switch?_eq_some_iff.mp done
      exact ⟨moved.sheets ▸ formed.sound, moved.sheets ▸ moved.extent ▸ formed.first⟩
  | evaluator attached => exact ⟨formed.sound, formed.first⟩

theorem Edit.sized (edit : w.Edit v) (formed : w.WellFormed) (sized : w.Sized) : v.Sized := by
  cases edit with
  | write done => exact (write?_eq_some_iff.mp done).sized sized
  | addSheet done => exact (addSheet?_eq_some_iff.mp done).sized formed sized
  | switch done =>
      have moved := switch?_eq_some_iff.mp done
      intro s mem
      exact sized s (moved.sheets ▸ mem)
  | evaluator attached => exact sized

theorem wellFormed_of_edits (edits : Relation.ReflTransGen Edit w v) (formed : w.WellFormed) :
    v.WellFormed := by
  induction edits with
  | refl => exact formed
  | tail _ edit ih => exact edit.wellFormed ih

theorem sized_of_edits (edits : Relation.ReflTransGen Edit w v) (formed : w.WellFormed)
    (sized : w.Sized) : v.Sized := by
  induction edits with
  | refl => exact sized
  | tail before edit ih => exact edit.sized (wellFormed_of_edits before formed) ih

end Workbook

end Gridbook
