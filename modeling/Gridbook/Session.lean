import Gridbook.Document

/-!
# Sessions

A session is a document being edited beside the files that it can reach.  Every operation on it is a
request with an answer, so that a run is a list of requests.  A run ends early at a request for which
a formula is not evaluated to the end: that request is not answered, and nothing is asked after it.

Saving under another path can also be done in place, by giving the document its new path before
anything is written.  If nothing can be written, the document gets its old path back.
-/

namespace Gridbook

open Formula

structure Session where
  document : Document
  files : Files

namespace Session

inductive Request where
  | write (address : Address) (content : String)
  | store (address : Address) (content : Option String)
  | addSheet (name : String)
  | switch (index : Nat)
  | switchTo (name : String)
  | setEvaluator (attached : Bool)
  | evaluate (formula : String)
  | evaluateBody (body : String)
  | cell (address : Address)
  | display (address : Address)
  | content (address : Address)
  | numberOn (name : String) (address : Address)
  | bounds
  | csv
  | markdown
  | snapshot
  | save
  | saveAs (path : String)
  | load (path : String)
  | exportCsv (path : String)
  | exportMarkdown (path : String)

inductive Answer where
  | done
  | accepted (yes : Bool)
  | index (index : Option Nat)
  | failed (error : Document.Error)
  | outcome (outcome : Outcome)
  | cell (cell : Option Cell)
  | number (value : Float)
  | bounds (bounds : Option Bounds)
  | text (text : String)
  | path (path : Option String)

/-- The session with a changed document, or the same one where there is none. -/
def keep (s : Session) (document : Option Document) : Session × Answer :=
  match document with
  | some document => ({ s with document }, .accepted true)
  | none => (s, .accepted false)

def replace (s : Session) (operation : StateM Files (Except Document.Error Document))
    (answer : Document → Answer) : Session × Answer :=
  match operation.run s.files with
  | (.ok document, files) => (⟨document, files⟩, answer document)
  | (.error e, files) => ({ s with files }, .failed e)

def emit (s : Session) (operation : StateM Files (Except Document.Error Unit)) :
    Session × Answer :=
  match operation.run s.files with
  | (.ok (), files) => ({ s with files }, .done)
  | (.error e, files) => ({ s with files }, .failed e)

def step (s : Session) : Request → Session × Answer
  | .write address content => s.keep (s.document.write? address content)
  | .store address content =>
      s.keep ((content.bind (s.document.workbook.write? address)).map fun workbook =>
        { s.document with workbook })
  | .addSheet name =>
      match s.document.addSheet? name with
      | some document =>
          ({ s with document }, .index (some (document.workbook.sheets.length - 1)))
      | none => (s, .index none)
  | .switch index => s.keep (s.document.switch? index)
  | .switchTo name =>
      match s.document.switchTo name with
      | .ok (document, index) => ({ s with document }, .index (some index))
      | .error e => (s, .failed e)
  | .setEvaluator attached =>
      ({ s with
          document := { s.document with
            workbook := s.document.workbook.withEvaluator attached } }, .accepted attached)
  | .evaluate formula => (s, .outcome (s.document.evaluate formula))
  | .evaluateBody body => (s, .outcome (s.document.workbook.evaluate body.toList))
  | .cell address => (s, .cell (s.document.workbook.cell? address))
  | .display address => (s, .text (s.document.workbook.display address))
  | .content address => (s, .text (s.document.workbook.content address))
  | .numberOn name address => (s, .number (s.document.workbook.numberOn name address))
  | .bounds => (s, .bounds s.document.bounds?)
  | .csv => (s, .text s.document.csv)
  | .markdown => (s, .text s.document.markdown)
  | .snapshot => (s, .text s.document.snapshot)
  | .save => s.replace s.document.save fun document => .path document.path
  | .saveAs path => s.replace (s.document.saveAs path) fun document => .path document.path
  | .load path => s.replace (s.document.load path) fun _ => .done
  | .exportCsv path => s.emit (s.document.exportCsv path)
  | .exportMarkdown path => s.emit (s.document.exportMarkdown path)

/-- The body of the formula that is evaluated to answer a request. -/
def evaluated? (s : Session) : Request → Option (List Char)
  | .write address content => written? address content
  | .store address content => content.bind (written? address)
  | .evaluate formula => some (Document.formulaBody formula)
  | .evaluateBody body => some body.toList
  | _ => none
where
  written? (address : Address) (content : String) : Option (List Char) :=
    if s.document.workbook.currentSheet.grid.extent.Contains address then
      Cell.formulaBody? content.toList
    else none

/-- Whether the session ends at a request, without an answer, because a formula is not evaluated to
the end. -/
def breaksOff (s : Session) (request : Request) : Bool :=
  ((s.evaluated? request).map s.document.workbook.breaksOff).getD false

/-- The session after a list of requests, and their answers in order, up to the first request at
which the session ends. -/
def run (s : Session) : List Request → Session × List Answer
  | [] => (s, [])
  | request :: rest =>
      if s.breaksOff request then (s, [])
      else
        let (next, answer) := s.step request
        let (last, answers) := next.run rest
        (last, answer :: answers)

/-! ## In place -/

/-- Give the document another path, and tell which one it had. -/
def exchangePath (path : Option String) : StateM Session (Option String) :=
  modifyGet fun s => (s.document.path, { s with document := { s.document with path } })

/-- Save to the path of the document, and tell which one it is. -/
def saveInPlace : StateM Session (Except Document.Error String) := do
  let s ← get
  match s.document.path with
  | none => return .error .noPath
  | some path =>
      match s.files.write? path s.document.snapshot with
      | none => return .error .inaccessible
      | some files =>
          set (Session.mk { s.document with modified := false } files)
          return .ok path

/-- Save to another path, which the document gets before anything is written.  If nothing can be
written, it gets the one back that it had. -/
def saveAsInPlace (path : String) : StateM Session (Except Document.Error String) := do
  let previous ← exchangePath (some path)
  let saved ← saveInPlace
  if saved.toOption.isNone then
    let _ ← exchangePath previous
  return saved

def Answer.ofSaved : Except Document.Error String → Answer
  | .ok saved => .path (some saved)
  | .error e => .failed e

/-- Answer a request in place. -/
def perform : Request → StateM Session Answer
  | .save => Answer.ofSaved <$> saveInPlace
  | .saveAs path => Answer.ofSaved <$> saveAsInPlace path
  | request => modifyGet fun s => (s.step request).swap

end Session

end Gridbook
