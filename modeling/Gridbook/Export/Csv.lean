import Gridbook.Export.Table

/-!
# Comma-separated values

A record is a row of the table, closed by a line feed, with commas between its fields.  A field that
holds a comma, a quote or a line break stands in quotes, and a quote inside it is written twice.
-/

namespace Gridbook.Csv

def needsQuotes (c : Char) : Bool :=
  c == ',' || c == '"' || c == '\n' || c == '\r'

def doubled (c : Char) : List Char :=
  if c = '"' then ['"', '"'] else [c]

def field (s : List Char) : List Char :=
  if s.any needsQuotes then '"' :: s.flatMap doubled ++ ['"'] else s

def record (fields : List String) : List Char :=
  [','].intercalate (fields.map fun text => field text.toList) ++ ['\n']

/-- The table of a sheet as comma-separated values; nothing if the sheet has no text. -/
def render (s : Sheet) : String :=
  match s.bounds? with
  | none => ""
  | some bounds => String.ofList (bounds.rows.flatMap fun row => record (s.shownRow bounds row))

end Gridbook.Csv
