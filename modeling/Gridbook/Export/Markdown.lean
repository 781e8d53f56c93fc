import Gridbook.Export.Table
import Gridbook.Text.Numeral

/-!
# Markdown

A sheet is shown as a heading with its name and a table.  The first line of the table numbers the
columns and the first cell of each further line numbers its row, both counted from one.  A bar in a
text is escaped, a line feed becomes a space and a carriage return is left out.
-/

namespace Gridbook.Markdown

open Text

def escapeChar : Char → List Char
  | '|' => ['\\', '|']
  | '\n' => [' ']
  | '\r' => []
  | c => [c]

def escape (s : List Char) : List Char :=
  s.flatMap escapeChar

/-- One cell of a table, with the bar that closes it. -/
def cell (text : List Char) : List Char :=
  ' ' :: text ++ [' ', '|']

def tableLine (texts : List (List Char)) : List Char :=
  '|' :: texts.flatMap cell ++ ['\n']

/-- The line under the head of a table with so many cells. -/
def ruleLine (cells : Nat) : List Char :=
  '|' :: (List.replicate cells "---|".toList).flatten ++ ['\n']

def table (s : Sheet) (bounds : Bounds) : List Char :=
  tableLine ([' '] :: bounds.cols.map fun col => digits (col + 1)) ++
    ruleLine (bounds.cols.length + 1) ++
    bounds.rows.flatMap fun row =>
      tableLine (digits (row + 1) :: (s.shownRow bounds row).map fun text => escape text.toList)

def heading (name : String) : List Char :=
  '#' :: ' ' :: escape name.toList ++ ['\n', '\n']

def render (s : Sheet) : String :=
  String.ofList <| heading s.name ++
    match s.bounds? with
    | none => "*Empty sheet*\n".toList
    | some bounds => table s bounds

end Gridbook.Markdown
