import Gridbook.Extent

/-!
# Failures of reading a snapshot

A snapshot fails at its first line that cannot be read, or at its end if it has no sheets or its
current sheet is not among them.
-/

namespace Gridbook.Snapshot

open Text

inductive Cause where
  | badCurrent (text : String)
  | badHeader (line : String)
  | dimensionsOutOfRange
  | dimensionsZero
  | tooManyCells (extent : Extent)
  | blankName
  | noSheetYet
  | noColon
  | badAddress (address : InvalidAddress)
  | outsideSheet (address : Address) (name : String)
  | notQuoted (text : String)
  | badOutcome (text : String)
  | trailingText (text : String)
  | missingOutcome
  | unexpectedOutcome
  | currentOutOfRange (index count : Nat)
deriving DecidableEq, Repr

def Cause.message : Cause → String
  | .badCurrent text => "Invalid current sheet index: " ++ text
  | .badHeader line => "Invalid sheet header: " ++ line
  | .dimensionsOutOfRange => "Sheet dimensions out of range"
  | .dimensionsZero => "Sheet dimensions must be at least 1x1"
  | .tooManyCells extent =>
      "Sheet extent " ++ extent.rows.repr ++ "x" ++ extent.cols.repr ++ " exceeds " ++
        maxCells.repr ++ " cells"
  | .blankName => "Sheet name must not be blank"
  | .noSheetYet => "Cell entry before any [sheet] header"
  | .noColon => "Expected '(r,c): \"content\"' format"
  | .badAddress address => address.message
  | .outsideSheet address name =>
      "Cell " ++ String.ofList address.text ++ " is outside sheet '" ++ name ++ "'"
  | .notQuoted text => "Invalid value: " ++ text ++ ". Cell content must be quoted."
  | .badOutcome text => "Invalid cached value: " ++ text
  | .trailingText text => "Unexpected text after cell content: " ++ text
  | .missingOutcome => "Formula cell is missing its cached value"
  | .unexpectedOutcome => "Cached value on a non-formula cell"
  | .currentOutOfRange index count =>
      "Current sheet " ++ index.repr ++ " out of range (" ++ count.repr ++ " sheets)"

inductive Failure where
  | atLine (line : Nat) (cause : Cause)
  | noSheets
deriving DecidableEq, Repr

def Failure.message : Failure → String
  | .atLine line cause => "Parse error at line " ++ line.repr ++ ": " ++ cause.message
  | .noSheets => "Workbook file contains no sheets"

end Gridbook.Snapshot
