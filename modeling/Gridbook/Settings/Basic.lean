import Gridbook.Layout
import Gridbook.Text.Blank

/-!
# Settings

Settings may give the rows and columns of sheets and the name of the first one.  A setting that
cannot be used is reported and the standard one is used in its place; an extent with too many cells
is given up as a whole.
-/

namespace Gridbook

open Text

structure Settings where
  rows : Option Nat
  cols : Option Nat
  firstSheet : Option String
deriving DecidableEq, Repr

namespace Settings

/-- A problem with settings, none of which keeps the program from running. -/
inductive Warning where
  | notFound (path : String)
  | notRead (path : String)
  | notParsed (path : String)
  | noRows
  | noCols
  | tooManyCells (extent : Extent)
  | blankFirstSheet
deriving DecidableEq, Repr

def extentText (e : Extent) : String :=
  e.rows.repr ++ "x" ++ e.cols.repr

def Warning.message : Warning → String
  | .notFound path => "Config file not found: " ++ path
  | .notRead path => "Failed to read " ++ path
  | .notParsed path => "Failed to parse " ++ path
  | .noRows => "Config: rows must be at least 1"
  | .noCols => "Config: cols must be at least 1"
  | .tooManyCells extent =>
      "Config: " ++ extentText extent ++ " sheets exceed " ++ maxCells.repr ++ " cells, using " ++
        extentText Extent.standard
  | .blankFirstSheet => "Config: first_sheet must not be blank"

/-- A dimension from the settings, or the standard one with a warning if it is zero. -/
def dimension (given : Option Nat) (standard : Nat) (warning : Warning) : Nat × List Warning :=
  match given with
  | none => (standard, [])
  | some 0 => (standard, [warning])
  | some n => (n, [])

/-- The extent from the settings, or the standard one with a warning if it has too many cells. -/
def extent (s : Settings) : Extent × List Warning :=
  let (rows, rowWarnings) := dimension s.rows Extent.standard.rows .noRows
  let (cols, colWarnings) := dimension s.cols Extent.standard.cols .noCols
  let asked : Extent := ⟨rows, cols⟩
  if asked.Fits then (asked, rowWarnings ++ colWarnings)
  else (Extent.standard, rowWarnings ++ colWarnings ++ [.tooManyCells asked])

/-- The first sheet's name from the settings, or the standard one with a warning if it is blank. -/
def firstName (s : Settings) : String × List Warning :=
  match s.firstSheet with
  | none => (Layout.standard.firstSheet, [])
  | some name =>
      if AllBlank name.toList then (Layout.standard.firstSheet, [.blankFirstSheet])
      else (name, [])

def layout (s : Settings) : Layout × List Warning :=
  (⟨s.firstName.1, s.extent.1⟩, s.extent.2 ++ s.firstName.2)

end Settings

end Gridbook
