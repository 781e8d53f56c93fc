import Gridbook.Formula.Outcome
import Gridbook.Number.Display
import Gridbook.Text.Blank

/-!
# Cells

A cell keeps the text that it was given, verbatim, together with what that text means.  A text that
starts with `=` is a formula, whose outcome is fixed when the cell is made.  Apart from white space
at its ends, any other text is a finite number, or nothing, or text.
-/

namespace Gridbook

open Text Formula

/-- What the text of a cell means. -/
inductive Meaning where
  | blank
  | text
  | number (value : Float)
  | formula (outcome : Outcome)
deriving DecidableEq

/-- A text as it was given, and its meaning.  A cell that means a text or a formula has no second
string for it.  Such a string could not differ from the content: every cell is made of one text,
which would be both, and there is no operation that changes a part of a cell. -/
structure Cell where
  content : String
  meaning : Meaning
deriving DecidableEq

inductive Value where
  | empty
  | text (text : String)
  | number (value : Float)
  | fault (fault : Fault)
deriving DecidableEq

namespace Cell

def blank : Cell := ⟨"", .blank⟩

/-- A formula with an outcome that is known already. -/
def formula (content : String) (outcome : Outcome) : Cell :=
  ⟨content, .formula outcome⟩

/-- A finite number with at least one digit; words such as `nan` stay text. -/
def finiteNumber? (s : List Char) : Option Float :=
  if s.any Char.isDigit then (Number.read? s).filter Number.isFinite else none

/-- The meaning of a text that is no formula. -/
def plainMeaning (s : List Char) : Meaning :=
  let trimmed := trim s
  match finiteNumber? trimmed with
  | some value => .number value
  | none => if trimmed = [] then .blank else .text

/-- The body of a formula: what follows its first `=`. -/
def formulaBody? : List Char → Option (List Char)
  | '=' :: body => some body
  | _ => none

/-- The cell for a text, given how the body of a formula is evaluated. -/
def ofInput (evaluate : List Char → Outcome) (content : String) : Cell :=
  match formulaBody? content.toList with
  | some body => formula content (evaluate body)
  | none => ⟨content, plainMeaning content.toList⟩

def formulaText (c : Cell) : String :=
  match c.meaning with
  | .formula _ => c.content
  | _ => ""

def value (c : Cell) : Value :=
  match c.meaning with
  | .blank => .empty
  | .text => .text c.content
  | .number value => .number value
  | .formula (.number value) => .number value
  | .formula (.fault fault) => .fault fault

/-- The number that the cell counts as in a formula. -/
def numeric? (c : Cell) : Option Float :=
  match c.meaning with
  | .number value => some value
  | .formula outcome => outcome.number?
  | .blank | .text => none

def display (c : Cell) : String :=
  match c.value with
  | .empty => ""
  | .text text => text
  | .number value => String.ofList (Number.display value)
  | .fault fault => fault.message

end Cell

end Gridbook
