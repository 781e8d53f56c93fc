import Gridbook.Snapshot.Failure
import Gridbook.Snapshot.Writer

/-!
# Reading snapshots

A snapshot is read line by line, without the white space around each line.  Empty lines and lines
that start with `#` count for nothing.  A header opens a sheet, and a cell belongs to the sheet that
was opened last.  The line with the current sheet may stand anywhere; the last one counts, and it is
checked once all sheets are known.
-/

namespace Gridbook.Snapshot

open Text Formula

inductive Entry where
  | skipped
  | current (text : List Char)
  | header (line : List Char)
  | cell (line : List Char)
deriving DecidableEq, Repr

def Entry.ofLine (line : List Char) : Entry :=
  if line = [] ∨ line.head? = some '#' then .skipped
  else match after? currentLabel line with
    | some text => .current (trim text)
    | none => if (after? headerLabel line).isSome then .header line else .cell line

/-- What follows white space, of which there is some. -/
def afterBlank? (s : List Char) : Option (List Char) :=
  if (s.head?.map isBlank).getD false then some (trimStart s) else none

/-- The two dimensions and the written name in a sheet's header. -/
def headerParts? (line : List Char) : Option (List Char × List Char × List Char) := do
  let opened ← afterBlank? (← after? headerLabel line)
  let rows := opened.takeWhile Char.isDigit
  let second ← after? ['x'] (opened.dropWhile Char.isDigit)
  let cols := second.takeWhile Char.isDigit
  let name ← afterBlank? (← after? [']'] (second.dropWhile Char.isDigit))
  let (inner, behind) ← quoted? name
  if rows = [] ∨ cols = [] ∨ behind ≠ [] then none else return (rows, cols, inner)

def readHeader (line : List Char) : Except Cause Sheet := do
  let some (rows, cols, written) := headerParts? line
    | throw (.badHeader (String.ofList line))
  let (some rows, some cols) := (count? rows, count? cols)
    | throw .dimensionsOutOfRange
  let extent : Extent := ⟨rows, cols⟩
  let name := unescape written
  if rows = 0 ∨ cols = 0 then throw .dimensionsZero
  else if ¬ extent.Fits then throw (.tooManyCells extent)
  else if AllBlank name then throw .blankName
  else return ⟨String.ofList name, Grid.empty extent⟩

def readOutcome (text : List Char) : Except Cause Outcome :=
  if text = faultTag .unrecognized then return .fault .unrecognized
  else if text = faultTag .noEvaluator then return .fault .noEvaluator
  else match Number.read? text with
    | some value => return .number value
    | none => throw (.badOutcome (String.ofList text))

/-- The outcome behind the text of a cell, if there is one. -/
def readSuffix (text : List Char) : Except Cause (Option Outcome) :=
  match after? outcomeLabel text with
  | some outcome => some <$> readOutcome (trim outcome)
  | none => if text = [] then return none else throw (.trailingText (String.ofList text))

/-- The cell of a quoted text and what is behind it.  A formula comes with its outcome and is not
evaluated. -/
def readCell (text : List Char) : Except Cause Cell := do
  let some (written, behind) := quoted? text
    | throw (.notQuoted (String.ofList text))
  let content := unescape written
  match (Cell.formulaBody? content).isSome, ← readSuffix (trim behind) with
  | true, some outcome => return Cell.formula (String.ofList content) outcome
  | true, none => throw .missingOutcome
  | false, some _ => throw .unexpectedOutcome
  | false, none => return ⟨String.ofList content, Cell.plainMeaning content⟩

def readCellLine (sheet : Sheet) (line : List Char) : Except Cause Sheet := do
  let some (before, behind) := cut? ':' line
    | throw .noColon
  let some address := Address.read? (trim before)
    | throw (.badAddress ⟨String.ofList (trim before)⟩)
  if ¬ sheet.grid.extent.Contains address then throw (.outsideSheet address sheet.name)
  return sheet.put address (← readCell (trim behind))

/-- The sheets opened so far, the last one first, and the current sheet with the line that gave
it. -/
structure Progress where
  sheets : List Sheet
  current : Option (Nat × Nat)

namespace Progress

def start : Progress := ⟨[], none⟩

/-- Read one more line, given its number and without the white space around it. -/
def advance (p : Progress) (number : Nat) (line : List Char) : Except Cause Progress :=
  match Entry.ofLine line with
  | .skipped => return p
  | .current text =>
      match count? text with
      | some index => return { p with current := some (index, number) }
      | none => throw (.badCurrent (String.ofList text))
  | .header line => do return { p with sheets := (← readHeader line) :: p.sheets }
  | .cell line =>
      match p with
      | ⟨[], _⟩ => throw .noSheetYet
      | ⟨sheet :: earlier, current⟩ => do return ⟨(← readCellLine sheet line) :: earlier, current⟩

def step (p : Progress) (numbered : List Char × Nat) : Except Failure Progress :=
  (p.advance numbered.2 (trim numbered.1)).mapError (.atLine numbered.2)

def finish (p : Progress) : Except Failure Workbook :=
  let sheets := p.sheets.reverse
  match p.current with
  | some (index, number) =>
      if sheets = [] ∨ index < sheets.length then ofSheets sheets index
      else throw (.atLine number (.currentOutOfRange index sheets.length))
  | none => ofSheets sheets 0
where
  ofSheets (sheets : List Sheet) (index : Nat) : Except Failure Workbook :=
    match Workbook.ofSheets? sheets index with
    | some workbook => return workbook
    | none => throw .noSheets

end Progress

/-- The workbook of a snapshot; lines are numbered from one. -/
def read (text : String) : Except Failure Workbook := do
  let progress ← ((lines text.toList).zipIdx 1).foldlM Progress.step Progress.start
  progress.finish

end Gridbook.Snapshot
