import Gridbook.Proofs.Grid.Contents

/-!
# What the operations on a workbook do

Each operation succeeds under a condition on the workbook before it, and changes one of its parts:
writing replaces the current sheet by one with a cell put on it, adding appends a sheet, switching
moves the index.  An edit is any of them.  Every cell of a workbook is reached by the index of its
sheet and its address there.
-/

namespace Gridbook

open Text

namespace Sheet

variable {s t : Sheet} {a : Address} {c : Cell}

theorem put?_eq_some_iff :
    s.put? a c = some t ↔ s.grid.extent.Contains a ∧ s.put a c = t := by
  unfold put? Grid.put?
  by_cases inside : s.grid.extent.Contains a
  · rw [if_pos inside, Option.map_some, Option.some.injEq]
    exact ⟨fun same => ⟨inside, same⟩, fun found => found.2⟩
  · rw [if_neg inside]
    constructor
    · intro impossible
      cases impossible
    · intro found
      exact absurd found.1 inside

end Sheet

namespace Workbook

variable {w v : Workbook} {a : Address} {c : Cell} {content name : String} {index : Nat}

theorem getElem?_current (w : Workbook) : w.sheets[w.current]? = some w.currentSheet :=
  List.getElem?_eq_getElem w.current_lt

theorem currentSheet_mem (w : Workbook) : w.currentSheet ∈ w.sheets :=
  List.mem_of_getElem? w.getElem?_current

/-- A workbook is its sheets, the index of the current one, the extent of further ones, and whether
formulas are evaluated. -/
theorem eq_of_fields (sheets : w.sheets = v.sheets) (current : w.current = v.current)
    (extent : w.extent = v.extent) (evaluating : w.evaluating = v.evaluating) : w = v := by
  cases w
  cases v
  subst sheets current extent evaluating
  rfl

/-! ## Putting and writing cells -/

/-- How a workbook differs from the one before a cell was put on its current sheet. -/
structure PutTo (w : Workbook) (a : Address) (c : Cell) (v : Workbook) : Prop where
  inside : w.currentSheet.grid.extent.Contains a
  sheets : v.sheets = w.sheets.set w.current (w.currentSheet.put a c)
  current : v.current = w.current
  extent : v.extent = w.extent
  evaluating : v.evaluating = w.evaluating

theorem put?_eq_some_iff : w.put? a c = some v ↔ w.PutTo a c v := by
  unfold put?
  rw [Option.map_eq_some_iff]
  constructor
  · rintro ⟨sheet, found, rfl⟩
    obtain ⟨inside, rfl⟩ := Sheet.put?_eq_some_iff.mp found
    exact ⟨inside, rfl, rfl, rfl, rfl⟩
  · intro done
    refine ⟨_, Sheet.put?_eq_some_iff.mpr ⟨done.inside, rfl⟩, ?_⟩
    exact eq_of_fields done.sheets.symm done.current.symm done.extent.symm done.evaluating.symm

theorem isSome_put?_iff : (w.put? a c).isSome = true ↔ w.currentSheet.grid.extent.Contains a := by
  rw [put?, Option.isSome_map, Sheet.put?, Option.isSome_map, Grid.put?]
  split
  · exact ⟨fun _ => ‹_›, fun _ => rfl⟩
  · constructor
    · intro impossible
      cases impossible
    · exact fun inside => absurd inside ‹_›

theorem write?_eq_some_iff :
    w.write? a content = some v ↔ w.PutTo a (Cell.ofInput w.evaluate content) v :=
  put?_eq_some_iff

/-- A text cannot be written outside the current sheet, and nowhere else. -/
theorem write?_eq_none_iff :
    w.write? a content = none ↔ ¬ w.currentSheet.grid.extent.Contains a := by
  rw [← Option.not_isSome_iff_eq_none, write?, isSome_put?_iff]

theorem exists_write? (inside : w.currentSheet.grid.extent.Contains a) (content : String) :
    ∃ v, w.write? a content = some v :=
  Option.isSome_iff_exists.mp (isSome_put?_iff.mpr inside)

/-! ## Adding and switching sheets -/

/-- How a workbook differs from the one before a sheet was added. -/
structure AddedTo (w : Workbook) (name : String) (v : Workbook) : Prop where
  named : ¬ AllBlank name.toList
  sheets : v.sheets = w.sheets ++ [⟨name, Grid.empty w.extent⟩]
  current : v.current = w.current
  extent : v.extent = w.extent
  evaluating : v.evaluating = w.evaluating

theorem addSheet?_eq_some_iff : w.addSheet? name = some v ↔ w.AddedTo name v := by
  unfold addSheet?
  constructor
  · intro found
    split at found
    · cases found
    · rename_i named
      obtain rfl := Option.some.inj found
      exact ⟨named, rfl, rfl, rfl, rfl⟩
  · intro done
    rw [if_neg done.named]
    exact congrArg some
      (eq_of_fields done.sheets.symm done.current.symm done.extent.symm done.evaluating.symm)

theorem addSheet?_eq_none_iff : w.addSheet? name = none ↔ AllBlank name.toList := by
  simp [addSheet?]

/-- How a workbook differs from the one before another sheet became current. -/
structure SwitchedTo (w : Workbook) (index : Nat) (v : Workbook) : Prop where
  index_lt : index < w.sheets.length
  index_count : index < countLimit
  sheets : v.sheets = w.sheets
  current : v.current = index
  extent : v.extent = w.extent
  evaluating : v.evaluating = w.evaluating

theorem switch?_eq_some_iff : w.switch? index = some v ↔ w.SwitchedTo index v := by
  unfold switch?
  constructor
  · intro found
    split at found
    · rename_i known
      obtain rfl := Option.some.inj found
      exact ⟨known.1, known.2, rfl, rfl, rfl, rfl⟩
    · cases found
  · intro done
    rw [dif_pos ⟨done.index_lt, done.index_count⟩]
    exact congrArg some
      (eq_of_fields done.sheets.symm done.current.symm done.extent.symm done.evaluating.symm)

theorem switch?_eq_none_iff :
    w.switch? index = none ↔ ¬ (index < w.sheets.length ∧ index < countLimit) := by
  simp [switch?]

/-! ## Edits -/

/-- The ways in which one workbook becomes another. -/
inductive Edit (w : Workbook) : Workbook → Prop where
  | write {v : Workbook} {a : Address} {content : String}
      (done : w.write? a content = some v) : Edit w v
  | addSheet {v : Workbook} {name : String} (done : w.addSheet? name = some v) : Edit w v
  | switch {v : Workbook} {index : Nat} (done : w.switch? index = some v) : Edit w v
  | evaluator (attached : Bool) : Edit w (w.withEvaluator attached)

/-! ## The cells of all sheets -/

/-- The cell at an address of the sheet with some index. -/
def cellAt? (w : Workbook) (index : Nat) (a : Address) : Option Cell :=
  w.sheets[index]?.bind fun sheet => sheet.grid.get? a

theorem PutTo.cellAt?_self (done : w.PutTo a c v) : v.cellAt? w.current a = some c := by
  rw [cellAt?, done.sheets, List.getElem?_set_self w.current_lt]
  exact Grid.get?_put_self done.inside c

/-- Putting a cell changes nothing at other addresses, nor on other sheets. -/
theorem PutTo.cellAt?_of_ne {b : Address} (done : w.PutTo a c v)
    (other : w.current ≠ index ∨ a ≠ b) : v.cellAt? index b = w.cellAt? index b := by
  rw [cellAt?, cellAt?, done.sheets]
  by_cases here : w.current = index
  · subst here
    rw [List.getElem?_set_self w.current_lt, w.getElem?_current]
    exact Grid.get?_put_of_ne _ c (other.resolve_left fun clash => clash rfl)
  · rw [List.getElem?_set_ne here]

theorem AddedTo.cellAt?_eq (done : w.AddedTo name v) (known : index < w.sheets.length)
    (a : Address) : v.cellAt? index a = w.cellAt? index a := by
  rw [cellAt?, cellAt?, done.sheets, List.getElem?_append_left known]

/-- An added sheet has blank cells only. -/
theorem AddedTo.getD_cellAt? (done : w.AddedTo name v) (index : Nat) (a : Address) :
    (v.cellAt? index a).getD Cell.blank = (w.cellAt? index a).getD Cell.blank := by
  by_cases known : index < w.sheets.length
  · rw [done.cellAt?_eq known]
  · have unknown := Nat.le_of_not_lt known
    rw [cellAt?, cellAt?, done.sheets, List.getElem?_append_right unknown,
      List.getElem?_eq_none unknown]
    cases found : [(⟨name, Grid.empty w.extent⟩ : Sheet)][index - w.sheets.length]? with
    | none => rfl
    | some s =>
        obtain rfl := List.mem_singleton.mp (List.mem_of_getElem? found)
        exact Grid.getD_get?_empty w.extent a

theorem index_lt_of_cellAt? (found : w.cellAt? index a = some c) : index < w.sheets.length := by
  obtain ⟨s, known, _⟩ := Option.bind_eq_some_iff.mp found
  exact (List.getElem?_eq_some_iff.mp known).1

/-- No edit takes an address away from a sheet. -/
theorem Edit.exists_cellAt? (edit : w.Edit v) (found : w.cellAt? index a = some c) :
    ∃ d, v.cellAt? index a = some d := by
  cases edit with
  | @write _ b content done =>
      have put := write?_eq_some_iff.mp done
      by_cases here : w.current = index ∧ b = a
      · obtain ⟨rfl, rfl⟩ := here
        exact ⟨_, put.cellAt?_self⟩
      · rw [put.cellAt?_of_ne (Decidable.not_and_iff_not_or_not.mp here)]
        exact ⟨c, found⟩
  | addSheet done =>
      have added := addSheet?_eq_some_iff.mp done
      rw [added.cellAt?_eq (index_lt_of_cellAt? found)]
      exact ⟨c, found⟩
  | switch done =>
      have moved := switch?_eq_some_iff.mp done
      rw [cellAt?, moved.sheets]
      exact ⟨c, found⟩
  | evaluator attached => exact ⟨c, found⟩

end Workbook

end Gridbook
