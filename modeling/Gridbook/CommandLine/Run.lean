import Gridbook.CommandLine.Arguments
import Gridbook.Document
import Gridbook.Settings.Loading

/-!
# Running the command

The command opens its file, or starts a new document, and takes the actions of its arguments in
order.  It stops at the first action that fails; what was printed and written before stays.  If no
action has output of its own, the current sheet is shown at the end.  A formula that yields a fault
does not stop the command, but makes it report failure.
-/

namespace Gridbook.CommandLine

open Text Formula

/-- What the command leaves behind: whether it succeeded, its output, and its own messages.  The log
and what the system or a reader of settings says about an error are not among the messages. -/
structure Report where
  succeeded : Bool
  output : String
  messages : List String
deriving DecidableEq, Repr

def Report.code (r : Report) : Nat :=
  if r.succeeded then 0 else 1

def usage : List String :=
  [ "Usage: sheetline [OPTIONS] [FILE]",
    "",
    "Arguments:",
    "  [FILE]                    Workbook file to open (.grd)",
    "",
    "Options (applied in order):",
    "  --add-sheet <NAME>        Append a sheet",
    "  --sheet <NAME|INDEX>      Switch sheet (INDEX is 1-based)",
    "  -s, --set <R,C=TEXT>      Set a cell on the current sheet (1-based)",
    "  -c, --command <FORMULA>   Evaluate a formula and print the result",
    "  -o, --output <FILE>       Export the current sheet to markdown",
    "  --csv <FILE>              Export the current sheet to CSV",
    "  -w, --write               Save the workbook back to FILE",
    "  --config <FILE>           Read settings from FILE",
    "  --no-config               Ignore the user config file",
    "  -h, --help                Print help",
    "",
    "Without -c, -o or --csv the current sheet is printed as markdown." ]

inductive Failure where
  | notOpened (path : String) (error : Document.Error)
  | blankSheetName
  | indexOutOfRange (index count : Nat)
  | outsideSheet (address : Address)
  | document (error : Document.Error)
deriving DecidableEq, Repr

def Failure.message : Failure → String
  | .notOpened path error => "Failed to open " ++ path ++ ": " ++ error.message
  | .blankSheetName => "Sheet name must not be blank"
  | .indexOutOfRange index count =>
      "Sheet index " ++ index.repr ++ " out of range (1..=" ++ count.repr ++ ")"
  | .outsideSheet address =>
      "Cell " ++ String.ofList address.text ++ " is outside the current sheet"
  | .document error => error.message

def errorLine (message : String) : String :=
  "Error: " ++ message

/-- A document on which actions are taken, and what was printed so far. -/
structure Progress where
  document : Document
  succeeded : Bool
  output : String
  messages : List String

namespace Progress

def print (p : Progress) (line : String) : Progress :=
  { p with output := p.output ++ line ++ "\n" }

def printOutcome (p : Progress) : Outcome → Progress
  | .number value => p.print (String.ofList (Number.display value))
  | .fault fault => { p.print fault.message with succeeded := false }

/-- Make another sheet current: the one at an index that counts from one, or else the first one that
answers to the target as a name. -/
def switch (p : Progress) (target : String) : Except Failure Progress :=
  match count? (trim target.toList) with
  | some index =>
      match (if index = 0 then none else p.document.switch? (index - 1)) with
      | some document => .ok { p with document }
      | none => .error (.indexOutOfRange index p.document.workbook.sheets.length)
  | none =>
      match p.document.switchTo target with
      | .ok (document, _) => .ok { p with document }
      | .error e => .error (.document e)

section Access

variable {m : Type → Type} [Monad m] [FileAccess m]

def exported (p : Progress) (path : String) :
    Except Document.Error Unit → Except Failure Progress
  | .ok () => .ok (p.print ("Exported to " ++ path))
  | .error e => .error (.document e)

def saved (p : Progress) : Except Document.Error Document → Except Failure Progress
  | .ok document =>
      .ok { p with
        document
        messages := p.messages ++ ["Saved " ++ document.path.getD ""] }
  | .error e => .error (.document e)

def take (p : Progress) : Action → m (Except Failure Progress)
  | .addSheet name => return match p.document.addSheet? name with
      | some document => .ok { p with document }
      | none => .error .blankSheetName
  | .switchSheet target => return p.switch target
  | .set address text => return match p.document.write? address text with
      | some document => .ok { p with document }
      | none => .error (.outsideSheet address)
  | .evaluate formula => return .ok (p.printOutcome (p.document.evaluate formula))
  | .exportMarkdown path => return p.exported path (← p.document.exportMarkdown path)
  | .exportCsv path => return p.exported path (← p.document.exportCsv path)
  | .write => return p.saved (← p.document.save)

/-- Take actions in order, up to the first that fails. -/
def takeAll (p : Progress) : List Action → m (Progress × Option Failure)
  | [] => return (p, none)
  | action :: rest => do
      match ← p.take action with
      | .ok next => next.takeAll rest
      | .error e => return (p, some e)

end Access

/-- The report at the end of all actions, or at the failure of one. -/
def report (p : Progress) (showsSheet : Bool) : Option Failure → Report
  | some e => ⟨false, p.output, p.messages ++ [errorLine e.message]⟩
  | none =>
      let sheet := if showsSheet then p.document.markdown else ""
      ⟨p.succeeded, p.output ++ sheet, p.messages⟩

end Progress

section Access

variable {m : Type → Type} [Monad m] [FileAccess m]

/-- Do what arguments ask for, other than help, given how settings files are read. -/
def performWith (read : String → Option Settings) (a : Arguments) (ownSettings : Option String) :
    m Report := do
  let (layout, warnings) ←
    if a.noSettings then pure (Layout.standard, [])
    else Settings.loadWith read a.settings ownSettings
  let messages := warnings.map fun warning => "Warning: " ++ warning.message
  match ← Document.opened a.file layout with
  | .error e =>
      let failure := Failure.notOpened (a.file.getD "") e
      return ⟨false, "", messages ++ [errorLine failure.message]⟩
  | .ok document =>
      let (progress, failure) ← (Progress.mk document true "" messages).takeAll a.actions
      return progress.report (!a.actions.any Action.hasOutput) failure

/-- Run the command with its arguments and the path of the user's own settings, given how settings
files are read. -/
def runWith (read : String → Option Settings) (arguments : List String)
    (ownSettings : Option String) : m Report :=
  match Arguments.parse arguments with
  | .error e => return ⟨false, "", errorLine e.message :: usage⟩
  | .ok a => if a.help then return ⟨true, "", usage⟩ else performWith read a ownSettings

def run (arguments : List String) (ownSettings : Option String) : m Report :=
  runWith Settings.parse? arguments ownSettings

end Access

end Gridbook.CommandLine
