import Gridbook.Formula.Parser
import Gridbook.Sheet

/-!
# Evaluating formulas

Points that are listed are looked up on the current sheet, a rectangle on the first sheet that
answers to its name.  The rectangle is clipped to the extent of that sheet and walked row by row.
Addresses outside a sheet and cells without a number are passed over; where there is no sheet, no
number is folded.

Clipping counts back by one from signed words, which fails for the smallest one.  A range that meets
it is not evaluated to the end, and the outcome given for it here, where words wrap around, is never
seen.
-/

namespace Gridbook

/-- The part of one dimension that lies between two coordinates, as its start and its length.
The coordinates count from one, the start counts from zero. -/
def Extent.span (size : Nat) (first last : Int64) : Nat × Nat :=
  let low := max (first - 1) 0
  let high := min (last - 1) (Int64.ofNat size - 1)
  (low.toInt.toNat, (high.toInt - low.toInt + 1).toNat)

def Extent.rectangle (e : Extent) (first last : Formula.Point) : List Address :=
  let (row, rows) := Extent.span e.rows first.row last.row
  let (col, cols) := Extent.span e.cols first.col last.col
  (List.range (rows * cols)).map fun index => ⟨row + index / cols, col + index % cols⟩

/-- The words that clipping a range to an extent counts back from by one. -/
def Extent.countedBack (e : Extent) (first last : Formula.Point) : List Int64 :=
  [Int64.ofNat e.rows, Int64.ofNat e.cols, first.row, first.col, last.row, last.col]

namespace Formula

/-- The sheets that a formula can reach, and the one that listed points are looked up on. -/
structure Scope where
  current : Option Sheet
  sheets : List Sheet

def Scope.find? (scope : Scope) (name : List Char) : Option Sheet :=
  scope.sheets.find? fun sheet => Sheet.sameName sheet.name.toList name

/-- The sheet that the operands are on, and their addresses in the order of the fold. -/
def operandAddresses? (f : Formula) (scope : Scope) : Option (Sheet × List Address) :=
  match f.operands with
  | .cells points => scope.current.map fun sheet => (sheet, points.filterMap Point.address?)
  | .range name first last =>
      (scope.find? name).map fun sheet => (sheet, sheet.grid.extent.rectangle first last)
  | .malformed => none

def numbers (f : Formula) (scope : Scope) : List Float :=
  match f.operandAddresses? scope with
  | some (sheet, addresses) => addresses.filterMap sheet.grid.numericAt?
  | none => []

def value (f : Formula) (scope : Scope) : Float :=
  f.aggregate.fold (f.numbers scope)

def evaluate (scope : Scope) (body : List Char) : Outcome :=
  match parse body with
  | .ok formula => .number (formula.value scope)
  | .error fault => .fault fault

/-- Whether the formula counts back from the smallest word. -/
def overflows (f : Formula) (scope : Scope) : Bool :=
  match f.operands with
  | .range name first last =>
      ((scope.find? name).map fun sheet =>
        (sheet.grid.extent.countedBack first last).contains Int64.minValue).getD false
  | .cells _ | .malformed => false

/-- Whether the text of a formula is not evaluated to the end. -/
def breaksOff (scope : Scope) (body : List Char) : Bool :=
  match parse body with
  | .ok formula => formula.overflows scope
  | .error _ => false

end Formula

end Gridbook
