import Gridbook.Formula.Evaluation
import Gridbook.Layout

/-!
# Workbooks

A workbook is a row of sheets of which one is current.  Sheets are only ever added at the end, all
with one extent.  A formula is evaluated once, when it is written, against the workbook as it stands
before the write.
-/

namespace Gridbook

open Text Formula

/-- Sheets, one of them current, and the extent that further sheets get.  The index of the current
sheet is a count, so it lies below the limit of counts. -/
structure Workbook where
  sheets : List Sheet
  current : Nat
  extent : Extent
  evaluating : Bool
  current_lt : current < sheets.length
  current_count : current < countLimit

namespace Workbook

/-- The workbook of a layout; a blank name gives way to the standard one. -/
def ofLayout (layout : Layout) : Workbook :=
  let name :=
    if AllBlank layout.firstSheet.toList then Layout.standard.firstSheet else layout.firstSheet
  let grid := Grid.empty layout.extent
  { sheets := [⟨name, grid⟩]
    current := 0
    extent := grid.extent
    evaluating := true
    current_lt := Nat.zero_lt_one
    current_count := countLimit_pos }

/-- The workbook of some sheets, unless there are none.  The first sheet gives the extent, and it is
current if the index asked for is too large. -/
def ofSheets? (sheets : List Sheet) (current : Nat) : Option Workbook :=
  match sheets with
  | [] => none
  | first :: rest =>
      if h : current < (first :: rest).length ∧ current < countLimit then
        some ⟨first :: rest, current, first.grid.extent, true, h.1, h.2⟩
      else some ⟨first :: rest, 0, first.grid.extent, true, Nat.zero_lt_succ _, countLimit_pos⟩

def currentSheet (w : Workbook) : Sheet :=
  have := w.current_lt
  w.sheets[w.current]

def withEvaluator (w : Workbook) (attached : Bool) : Workbook :=
  { w with evaluating := attached }

/-- The sheets as a formula on the current sheet reaches them. -/
def scope (w : Workbook) : Scope :=
  ⟨some w.currentSheet, w.sheets⟩

def evaluate (w : Workbook) (body : List Char) : Outcome :=
  if w.evaluating then Formula.evaluate w.scope body else .fault .noEvaluator

def breaksOff (w : Workbook) (body : List Char) : Bool :=
  w.evaluating && Formula.breaksOff w.scope body

/-- The workbook with a cell put on the current sheet, if its address is inside. -/
def put? (w : Workbook) (a : Address) (c : Cell) : Option Workbook :=
  (w.currentSheet.put? a c).map fun sheet =>
    { w with
      sheets := w.sheets.set w.current sheet
      current_lt := by
        rw [List.length_set]
        exact w.current_lt }

def write? (w : Workbook) (a : Address) (content : String) : Option Workbook :=
  w.put? a (Cell.ofInput w.evaluate content)

/-- The workbook with an empty sheet added at the end, unless its name is blank. -/
def addSheet? (w : Workbook) (name : String) : Option Workbook :=
  if AllBlank name.toList then none
  else
    some { w with
      sheets := w.sheets ++ [⟨name, Grid.empty w.extent⟩]
      current_lt := by
        rw [List.length_append]
        exact Nat.lt_of_lt_of_le w.current_lt (Nat.le_add_right _ _) }

def switch? (w : Workbook) (index : Nat) : Option Workbook :=
  if h : index < w.sheets.length ∧ index < countLimit then
    some { w with current := index, current_lt := h.1, current_count := h.2 }
  else none

def find? (w : Workbook) (name : String) : Option Sheet :=
  w.sheets.find? (·.answersTo name)

def indexOf? (w : Workbook) (name : String) : Option Nat :=
  w.sheets.findIdx? (·.answersTo name)

def cell? (w : Workbook) (a : Address) : Option Cell :=
  w.currentSheet.grid.get? a

/-- The text to edit at an address of the current sheet, nothing outside it. -/
def content (w : Workbook) (a : Address) : String :=
  ((w.cell? a).map Cell.content).getD ""

def value (w : Workbook) (a : Address) : Value :=
  ((w.cell? a).map Cell.value).getD .empty

def display (w : Workbook) (a : Address) : String :=
  ((w.cell? a).map Cell.display).getD ""

/-- The number at an address of a named sheet, zero where there is none. -/
def numberOn (w : Workbook) (name : String) (a : Address) : Float :=
  ((w.find? name).bind fun sheet => sheet.grid.numericAt? a).getD 0.0

end Workbook

end Gridbook
