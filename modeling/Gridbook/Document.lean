import Gridbook.Export.Csv
import Gridbook.Export.Markdown
import Gridbook.Files
import Gridbook.Snapshot.Reader

/-!
# Documents

A document is a workbook that is being edited, the path of the file behind it, and whether it
differs from that file.  An operation that fails yields no document, so the one before it stays as
it was.
-/

namespace Gridbook

open Text Formula

/-- A workbook, the path of its file, and whether it was changed since it was saved or loaded. -/
structure Document where
  workbook : Workbook
  path : Option String
  modified : Bool

namespace Document

inductive Error where
  | inaccessible
  | unreadable (failure : Snapshot.Failure)
  | noPath
  | unknownSheet (name : String)
deriving DecidableEq, Repr

def Error.message : Error → String
  | .inaccessible => "IO error"
  | .unreadable failure => failure.message
  | .noPath => "No file path set"
  | .unknownSheet name => "No sheet named '" ++ name ++ "'"

def ofLayout (layout : Layout) : Document :=
  ⟨Workbook.ofLayout layout, none, false⟩

def write? (d : Document) (a : Address) (content : String) : Option Document :=
  (d.workbook.write? a content).map fun workbook => { d with workbook, modified := true }

def addSheet? (d : Document) (name : String) : Option Document :=
  (d.workbook.addSheet? name).map fun workbook => { d with workbook, modified := true }

/-- The document with another sheet current; this changes nothing that is saved as content. -/
def switch? (d : Document) (index : Nat) : Option Document :=
  (d.workbook.switch? index).map fun workbook => { d with workbook }

/-- The document with the first sheet current that answers to a name, and the sheet's index. -/
def switchTo (d : Document) (name : String) : Except Error (Document × Nat) :=
  match d.workbook.indexOf? name with
  | some index => .ok ((d.switch? index).getD d, index)
  | none => .error (.unknownSheet (String.ofList (trim name.toList)))

/-- The body of a formula without the white space around it and without an `=` before it. -/
def formulaBody (formula : String) : List Char :=
  let trimmed := trim formula.toList
  (Cell.formulaBody? trimmed).getD trimmed

def evaluate (d : Document) (formula : String) : Outcome :=
  d.workbook.evaluate (formulaBody formula)

def bounds? (d : Document) : Option Bounds :=
  d.workbook.currentSheet.bounds?

def csv (d : Document) : String :=
  Csv.render d.workbook.currentSheet

def markdown (d : Document) : String :=
  Markdown.render d.workbook.currentSheet

def snapshot (d : Document) : String :=
  Snapshot.write d.workbook

/-- The document with the workbook of a snapshot, its evaluator attached or detached as before. -/
def withSnapshot (d : Document) (text : String) : Except Snapshot.Failure Document :=
  (Snapshot.read text).map fun workbook =>
    { d with workbook := workbook.withEvaluator d.workbook.evaluating }

section Access

variable {m : Type → Type} [Monad m] [FileAccess m]

/-- Save to a path, which becomes the path of the document. -/
def saveAs (d : Document) (path : String) : m (Except Error Document) := do
  if ← FileAccess.writeText path d.snapshot then
    return .ok { d with path := some path, modified := false }
  else return .error .inaccessible

def save (d : Document) : m (Except Error Document) :=
  match d.path with
  | some path => d.saveAs path
  | none => return .error .noPath

def load (d : Document) (path : String) : m (Except Error Document) := do
  match ← FileAccess.readText path with
  | none => return .error .inaccessible
  | some text =>
      match d.withSnapshot text with
      | .ok loaded => return .ok { loaded with path := some path, modified := false }
      | .error failure => return .error (.unreadable failure)

/-- Open the file at a path.  If there is none yet, the document of a layout gets that path. -/
def opened (path : Option String) (layout : Layout) : m (Except Error Document) := do
  let fresh := ofLayout layout
  match path with
  | none => return .ok fresh
  | some path =>
      if ← FileAccess.isPresent path then fresh.load path
      else return .ok { fresh with path := some path }

def exportText (path text : String) : m (Except Error Unit) := do
  if ← FileAccess.writeText path text then return .ok () else return .error .inaccessible

def exportCsv (d : Document) (path : String) : m (Except Error Unit) :=
  exportText path d.csv

def exportMarkdown (d : Document) (path : String) : m (Except Error Unit) :=
  exportText path d.markdown

end Access

end Document

end Gridbook
