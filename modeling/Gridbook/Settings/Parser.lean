import Gridbook.Settings.Basic
import Gridbook.Settings.Scalar

/-!
# Reading settings files

Every line of a settings file is empty, or gives one setting a value; a comment may end it.  A name
stands bare or in quotes.  A file with any other line, with a name that is no setting, or with the
same setting twice gives no settings at all.
-/

namespace Gridbook.Settings

open Text

abbrev Assignment := List Char × Scalar

/-- What follows the end of a line: white space, a comment, and a line break or nothing. -/
def lineEnd? (s : List Char) : Option (List Char) :=
  let opened := s.dropWhile isSpace
  let rest := if opened.head? = some '#' then opened.dropWhile isPrintable else opened
  if rest = [] then some [] else afterBreak? rest

def isNameChar (c : Char) : Bool :=
  c.isAlphanum || c == '_' || c == '-'

def name? (s : List Char) : Option (List Char × List Char) :=
  if s.head? = some '"' then do
    let (body, rest) ← oneLine? '"' true (s.drop 1)
    return (← unescape? false false body, rest)
  else if s.head? = some '\x27' then do
    let (body, rest) ← oneLine? '\x27' false (s.drop 1)
    return (← verbatim? false body, rest)
  else
    let name := s.takeWhile isNameChar
    if name = [] then none else some (name, s.dropWhile isNameChar)

def assignment? (s : List Char) : Option (Assignment × List Char) := do
  let (name, rest) ← name? (s.dropWhile isSpace)
  let rest ← after? ['='] (rest.dropWhile isSpace)
  let (value, rest) ← scalar? (rest.dropWhile isSpace)
  return ((name, value), rest)

/-- The assignment of a line, if it has one, and what follows the line. -/
def line? (s : List Char) : Option (Option Assignment × List Char) :=
  match lineEnd? s with
  | some rest => some (none, rest)
  | none => do
      let (assignment, rest) ← assignment? s
      return (some assignment, ← lineEnd? rest)

def assignments? (s : List Char) : Option (List Assignment) :=
  if s = [] then some []
  else match line? s with
    | none => none
    | some (assignment, rest) =>
        if _h : rest.length < s.length then (assignments? rest).map (assignment.toList ++ ·) else none
termination_by s.length

def assign (s : Settings) (assignment : Assignment) : Option Settings :=
  match String.ofList assignment.1, assignment.2 with
  | "rows", .number value => if s.rows.isSome then none else some { s with rows := some value }
  | "cols", .number value => if s.cols.isSome then none else some { s with cols := some value }
  | "first_sheet", .text value =>
      if s.firstSheet.isSome then none
      else some { s with firstSheet := some (String.ofList value) }
  | _, _ => none

/-- The settings of a file, which may start with a byte order mark. -/
def parse? (content : String) : Option Settings :=
  (assignments? (skip '\uFEFF' content.toList)).bind fun assignments =>
    assignments.foldlM assign ⟨none, none, none⟩

end Gridbook.Settings
