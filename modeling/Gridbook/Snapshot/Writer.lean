import Gridbook.Snapshot.Quoted
import Gridbook.Text.Lines
import Gridbook.Workbook

/-!
# Writing snapshots

A snapshot is a comment, the index of the current sheet, and then each sheet: a header line with its
extent and name, and a line for every cell that holds text, row by row.  A formula's line also
carries its outcome, so that reading it back needs no evaluation.
-/

namespace Gridbook.Snapshot

open Text Formula

def title : List Char := "# Sheetline Workbook".toList

def currentLabel : List Char := "current:".toList

def headerLabel : List Char := "[sheet".toList

def outcomeLabel : List Char := "->".toList

def faultTag : Fault → List Char
  | .unrecognized => "#unrecognized".toList
  | .noEvaluator => "#no-evaluator".toList

def outcomeText : Outcome → List Char
  | .number value => Number.positional value
  | .fault fault => faultTag fault

def currentLine (index : Nat) : List Char :=
  currentLabel ++ ' ' :: digits index

def headerLine (name : String) (extent : Extent) : List Char :=
  headerLabel ++ ' ' :: digits extent.rows ++ 'x' :: digits extent.cols ++ ']' :: ' ' ::
    quote name.toList

/-- What follows the text of a cell. -/
def outcomeSuffix : Meaning → List Char
  | .formula outcome => ' ' :: outcomeLabel ++ ' ' :: outcomeText outcome
  | _ => []

def cellLine (address : Address) (cell : Cell) : List Char :=
  address.text ++ ':' :: ' ' :: quote cell.content.toList ++ outcomeSuffix cell.meaning

/-- The cells of a sheet that hold text. -/
def filledCells (grid : Grid) : List (Address × Cell) :=
  grid.written.filter fun (_, cell) => cell.content ≠ ""

def sheetLines (sheet : Sheet) : List (List Char) :=
  headerLine sheet.name sheet.grid.extent ::
    (filledCells sheet.grid).map fun (address, cell) => cellLine address cell

def workbookLines (w : Workbook) : List (List Char) :=
  title :: currentLine w.current :: w.sheets.flatMap sheetLines

def write (w : Workbook) : String :=
  String.ofList (unlines (workbookLines w))

end Gridbook.Snapshot
