import Gridbook.Export.Csv
import Gridbook.Export.Markdown
import Gridbook.Proofs.Workbook.Operations

/-!
# What can be read of a workbook

The view of a sheet is its name, its extent and the cell that is read at every address.  It does not
show whether a blank cell was put somewhere or the slot was never used.  Everything that is computed
from a workbook, formulas and exports and snapshots alike, is determined by the views of its sheets,
and every operation takes workbooks that look alike to workbooks that look alike.
-/

namespace Gridbook

open Text Formula Snapshot

namespace Grid

theorem get?_put (g : Grid) (a b : Address) (c : Cell) :
    (g.put a c).get? b = if a = b ∧ g.extent.Contains a then some c else g.get? b := by
  by_cases same : a = b
  · subst same
    by_cases inside : g.extent.Contains a
    · rw [if_pos ⟨rfl, inside⟩, get?_put_self inside]
    · rw [if_neg fun both => inside both.2, put, if_neg inside]
  · rw [if_neg fun both => same both.1, get?_put_of_ne g c same]

end Grid

namespace Sheet

/-- The name of a sheet, its extent, and the cell at every address. -/
structure View where
  name : String
  extent : Extent
  cell? : Address → Option Cell

/-- What can be read of a sheet. -/
def view (s : Sheet) : View :=
  ⟨s.name, s.grid.extent, s.grid.get?⟩

variable {s t : Sheet}

theorem name_congr (same : s.view = t.view) : s.name = t.name :=
  congrArg View.name same

theorem extent_congr (same : s.view = t.view) : s.grid.extent = t.grid.extent :=
  congrArg View.extent same

theorem get?_congr (same : s.view = t.view) : s.grid.get? = t.grid.get? :=
  congrArg View.cell? same

theorem view_congr (name : s.name = t.name) (extent : s.grid.extent = t.grid.extent)
    (cells : s.grid.get? = t.grid.get?) : s.view = t.view := by
  rw [view, view, name, extent, cells]

theorem put_congr (same : s.view = t.view) (a : Address) (c : Cell) :
    (s.put a c).view = (t.put a c).view := by
  have name : (s.put a c).name = (t.put a c).name := congrArg View.name same
  refine view_congr name ?_ ?_
  · exact (Grid.extent_put _ _ _).trans ((extent_congr same).trans (Grid.extent_put _ _ _).symm)
  · funext b
    rw [put, put, Grid.get?_put, Grid.get?_put, extent_congr same, get?_congr same]

theorem numericAt?_congr (same : s.view = t.view) :
    s.grid.numericAt? = t.grid.numericAt? := by
  funext a
  rw [Grid.numericAt?, Grid.numericAt?, get?_congr same]

theorem filledCells_congr (same : s.view = t.view) :
    filledCells s.grid = filledCells t.grid :=
  Gridbook.filledCells_congr (extent_congr same) (get?_congr same)

theorem bounds?_congr (same : s.view = t.view) : s.bounds? = t.bounds? := by
  change Bounds.around? ((filledCells s.grid).map Prod.fst) = _
  rw [filledCells_congr same]
  rfl

theorem shownRow_congr (same : s.view = t.view) : s.shownRow = t.shownRow := by
  funext bounds row
  apply List.map_congr_left
  intro col _
  rw [display, display, get?_congr same]

theorem csv_congr (same : s.view = t.view) : Csv.render s = Csv.render t := by
  rw [Csv.render, Csv.render, bounds?_congr same, shownRow_congr same]

theorem markdown_congr (same : s.view = t.view) : Markdown.render s = Markdown.render t := by
  have tables : Markdown.table s = Markdown.table t := by
    funext bounds
    rw [Markdown.table, Markdown.table, shownRow_congr same]
  rw [Markdown.render, Markdown.render, bounds?_congr same, name_congr same, tables]

theorem sheetLines_congr (same : s.view = t.view) : sheetLines s = sheetLines t := by
  rw [sheetLines, sheetLines, name_congr same, extent_congr same, filledCells_congr same]

/-! ## Several sheets -/

/-- What is determined by the view of a sheet is determined by the view of one that may be
missing. -/
theorem map_congr {β : Type} {found other : Option Sheet} {f : Sheet → β}
    (same : found.map view = other.map view)
    (respects : ∀ s t : Sheet, s.view = t.view → f s = f t) : found.map f = other.map f := by
  cases found with
  | none =>
      cases other with
      | none => rfl
      | some t => cases same
  | some s =>
      cases other with
      | none => cases same
      | some t => exact congrArg some (respects s t (Option.some.inj same))

/-- The first sheet whose name has some property is found by the views. -/
theorem find?_congr {sheets others : List Sheet} (same : sheets.map view = others.map view)
    (p : String → Bool) :
    (sheets.find? fun s => p s.name).map view = (others.find? fun s => p s.name).map view := by
  have found (sheets : List Sheet) : (sheets.find? fun s => p s.name).map view =
      (sheets.map view).find? fun s => p s.name := by
    rw [List.find?_map]
    rfl
  rw [found, found, same]

theorem findIdx?_congr {sheets others : List Sheet} (same : sheets.map view = others.map view)
    (p : String → Bool) :
    (sheets.findIdx? fun s => p s.name) = others.findIdx? fun s => p s.name := by
  have found (sheets : List Sheet) : (sheets.findIdx? fun s => p s.name) =
      (sheets.map view).findIdx? fun s => p s.name := by
    rw [List.findIdx?_map]
    rfl
  rw [found, found, same]

/-- What is determined by the view of a sheet is the same along sheets that look alike. -/
theorem mapAll_congr {β : Type} {sheets others : List Sheet} {f : Sheet → β}
    (same : sheets.map view = others.map view)
    (respects : ∀ s t : Sheet, s.view = t.view → f s = f t) : sheets.map f = others.map f := by
  induction sheets generalizing others with
  | nil =>
      cases others with
      | nil => rfl
      | cons t rest => cases same
  | cons s sheets ih =>
      cases others with
      | nil => cases same
      | cons t others =>
          obtain ⟨first, rest⟩ := List.cons.inj same
          rw [List.map_cons, List.map_cons, respects s t first, ih rest]

theorem length_congr {sheets others : List Sheet} (same : sheets.map view = others.map view) :
    sheets.length = others.length := by
  rw [← List.length_map view, same, List.length_map]

end Sheet

/-! ## Formulas -/

namespace Formula

variable {scope other : Scope}

theorem numbers_eq (f : Formula) (scope : Scope) :
    f.numbers scope = ((f.operandAddresses? scope).map fun operands =>
      operands.2.filterMap operands.1.grid.numericAt?).getD [] := by
  rw [numbers]
  cases f.operandAddresses? scope <;> rfl

/-- A formula folds the same numbers on sheets that look alike. -/
theorem numbers_congr (f : Formula)
    (current : scope.current.map Sheet.view = other.current.map Sheet.view)
    (sheets : scope.sheets.map Sheet.view = other.sheets.map Sheet.view) :
    f.numbers scope = f.numbers other := by
  rw [numbers_eq, numbers_eq, operandAddresses?, operandAddresses?]
  congr 1
  cases f.operands with
  | cells points =>
      dsimp only
      rw [Option.map_map, Option.map_map]
      refine Sheet.map_congr current fun s t same => ?_
      rw [Function.comp, Function.comp, Sheet.numericAt?_congr same]
  | range name first last =>
      dsimp only
      rw [Option.map_map, Option.map_map]
      have found := Sheet.find?_congr sheets fun own => Sheet.sameName own.toList name
      refine Sheet.map_congr found fun s t same => ?_
      rw [Function.comp, Function.comp, Sheet.numericAt?_congr same, Sheet.extent_congr same]
  | malformed => rfl

theorem evaluate_congr (body : List Char)
    (current : scope.current.map Sheet.view = other.current.map Sheet.view)
    (sheets : scope.sheets.map Sheet.view = other.sheets.map Sheet.view) :
    evaluate scope body = evaluate other body := by
  rw [evaluate, evaluate]
  cases parse body with
  | ok f =>
      dsimp only
      rw [value, value, numbers_congr f current sheets]
  | error fault => rfl

theorem breaksOff_congr (body : List Char)
    (sheets : scope.sheets.map Sheet.view = other.sheets.map Sheet.view) :
    breaksOff scope body = breaksOff other body := by
  rw [breaksOff, breaksOff]
  cases parse body with
  | error fault => rfl
  | ok f =>
      dsimp only
      rw [overflows, overflows]
      cases f.operands with
      | range name first last =>
          have found := Sheet.find?_congr sheets fun own => Sheet.sameName own.toList name
          refine congrArg (·.getD false) (Sheet.map_congr found fun s t same => ?_)
          rw [Sheet.extent_congr same]
      | _ => rfl

end Formula

/-! ## Workbooks -/

namespace Workbook

/-- The views of all sheets, and the rest of a workbook. -/
structure View where
  sheets : List Sheet.View
  current : Nat
  extent : Extent
  evaluating : Bool

/-- What can be read of a workbook. -/
def view (w : Workbook) : View :=
  ⟨w.sheets.map Sheet.view, w.current, w.extent, w.evaluating⟩

variable {w v : Workbook}

theorem sheets_congr (same : w.view = v.view) : w.sheets.map Sheet.view = v.sheets.map Sheet.view :=
  congrArg View.sheets same

theorem current_congr (same : w.view = v.view) : w.current = v.current :=
  congrArg View.current same

theorem extent_congr (same : w.view = v.view) : w.extent = v.extent :=
  congrArg View.extent same

theorem evaluating_congr (same : w.view = v.view) : w.evaluating = v.evaluating :=
  congrArg View.evaluating same

theorem view_congr (sheets : w.sheets.map Sheet.view = v.sheets.map Sheet.view)
    (current : w.current = v.current) (extent : w.extent = v.extent)
    (evaluating : w.evaluating = v.evaluating) : w.view = v.view := by
  rw [view, view, sheets, current, extent, evaluating]

theorem currentSheet_congr (same : w.view = v.view) :
    w.currentSheet.view = v.currentSheet.view := by
  have found (w : Workbook) : (w.sheets.map Sheet.view)[w.current]? = some w.currentSheet.view := by
    rw [List.getElem?_map, w.getElem?_current, Option.map_some]
  apply Option.some.inj
  rw [← found, ← found, sheets_congr same, current_congr same]

theorem length_congr (same : w.view = v.view) : w.sheets.length = v.sheets.length :=
  Sheet.length_congr (sheets_congr same)

/-! ### What is computed from a workbook -/

theorem evaluate_congr (same : w.view = v.view) : w.evaluate = v.evaluate := by
  funext body
  have current : w.scope.current.map Sheet.view = v.scope.current.map Sheet.view :=
    congrArg some (currentSheet_congr same)
  rw [evaluate, evaluate, evaluating_congr same,
    Formula.evaluate_congr body current (sheets_congr same)]

theorem breaksOff_congr (same : w.view = v.view) : w.breaksOff = v.breaksOff := by
  funext body
  have sheets : w.scope.sheets.map Sheet.view = v.scope.sheets.map Sheet.view :=
    sheets_congr same
  rw [breaksOff, breaksOff, evaluating_congr same, Formula.breaksOff_congr body sheets]

theorem cell?_congr (same : w.view = v.view) : w.cell? = v.cell? :=
  Sheet.get?_congr (currentSheet_congr same)

theorem content_congr (same : w.view = v.view) : w.content = v.content := by
  funext a
  rw [content, content, cell?_congr same]

theorem display_congr (same : w.view = v.view) : w.display = v.display := by
  funext a
  rw [display, display, cell?_congr same]

theorem numberOn_congr (same : w.view = v.view) : w.numberOn = v.numberOn := by
  funext name a
  have found := Sheet.find?_congr (sheets_congr same) fun own =>
    Sheet.sameName own.toList name.toList
  have numbers := Sheet.map_congr found fun s t alike =>
    congrFun (Sheet.numericAt?_congr alike) a
  have joined (found : Option Sheet) : (found.bind fun sheet => sheet.grid.numericAt? a) =
      (found.map fun sheet => sheet.grid.numericAt? a).join := by
    cases found <;> rfl
  rw [numberOn, numberOn, joined, joined]
  exact congrArg (fun found : Option (Option Float) => found.join.getD 0.0) numbers

theorem indexOf?_congr (same : w.view = v.view) : w.indexOf? = v.indexOf? := by
  funext name
  exact Sheet.findIdx?_congr (sheets_congr same) fun own => Sheet.sameName own.toList name.toList

/-- Workbooks that look alike have one snapshot. -/
theorem write_congr (sheets : w.sheets.map Sheet.view = v.sheets.map Sheet.view)
    (current : w.current = v.current) : Snapshot.write w = Snapshot.write v := by
  have lines := Sheet.mapAll_congr sheets fun s t alike => Sheet.sheetLines_congr alike
  rw [Snapshot.write, Snapshot.write, workbookLines, workbookLines, current,
    List.flatMap_def, List.flatMap_def, lines]

/-! ### Operations -/

theorem map_view_congr {next other : Option Workbook} (defined : next.isSome = other.isSome)
    (alike : ∀ w v : Workbook, next = some w → other = some v → w.view = v.view) :
    next.map view = other.map view := by
  cases next with
  | none =>
      cases other with
      | none => rfl
      | some v => cases defined
  | some w =>
      cases other with
      | none => cases defined
      | some v => exact congrArg some (alike w v rfl rfl)

theorem PutTo.view_eq {a : Address} {c : Cell} (done : w.PutTo a c v) : v.view =
    { w.view with sheets := w.view.sheets.set w.current (w.currentSheet.put a c).view } := by
  rw [view, done.sheets, done.current, done.extent, done.evaluating, List.map_set]
  rfl

theorem AddedTo.view_eq {name : String} (done : w.AddedTo name v) : v.view =
    { w.view with sheets := w.view.sheets ++ [Sheet.view ⟨name, Grid.empty w.extent⟩] } := by
  rw [view, done.sheets, done.current, done.extent, done.evaluating, List.map_append]
  rfl

theorem SwitchedTo.view_eq {index : Nat} (done : w.SwitchedTo index v) :
    v.view = { w.view with current := index } := by
  rw [view, done.sheets, done.current, done.extent, done.evaluating]
  rfl

theorem write?_congr (same : w.view = v.view) (a : Address) (content : String) :
    (w.write? a content).map view = (v.write? a content).map view := by
  rw [write?, write?, evaluate_congr same]
  have sheet := currentSheet_congr same
  apply map_view_congr
  · rw [Bool.eq_iff_iff, isSome_put?_iff, isSome_put?_iff, Sheet.extent_congr sheet]
  · intro next other left right
    rw [(put?_eq_some_iff.mp left).view_eq, (put?_eq_some_iff.mp right).view_eq, same,
      current_congr same, Sheet.put_congr sheet]

theorem addSheet?_congr (same : w.view = v.view) (name : String) :
    (w.addSheet? name).map view = (v.addSheet? name).map view := by
  apply map_view_congr
  · rw [addSheet?, addSheet?]
    split <;> rfl
  · intro next other left right
    rw [(addSheet?_eq_some_iff.mp left).view_eq, (addSheet?_eq_some_iff.mp right).view_eq, same,
      extent_congr same]

theorem switch?_congr (same : w.view = v.view) (index : Nat) :
    (w.switch? index).map view = (v.switch? index).map view := by
  apply map_view_congr
  · simp only [switch?, length_congr same]
    split <;> rfl
  · intro next other left right
    rw [(switch?_eq_some_iff.mp left).view_eq, (switch?_eq_some_iff.mp right).view_eq, same]

theorem view_withEvaluator (w : Workbook) (attached : Bool) :
    (w.withEvaluator attached).view = { w.view with evaluating := attached } := rfl

theorem withEvaluator_congr (same : w.view = v.view) (attached : Bool) :
    (w.withEvaluator attached).view = (v.withEvaluator attached).view := by
  rw [view_withEvaluator, view_withEvaluator, same]

end Workbook

end Gridbook
