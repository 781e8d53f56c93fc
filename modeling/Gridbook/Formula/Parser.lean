import Gridbook.Formula.Basic
import Gridbook.Formula.Outcome
import Gridbook.Text.Lower

/-!
# Reading formulas

A formula is an aggregate's keyword and its arguments in parentheses.  Letter case does not count,
nor does white space at the ends or next to a parenthesis or comma.  The arguments are points
`(row,col)` with commas between them, of which there are at least two, or the name of a sheet and
two points.  A text that starts with no keyword is no formula; one whose arguments have neither form
is a formula with malformed operands.
-/

namespace Gridbook.Formula

open Text

def isMark (c : Char) : Bool :=
  c == '(' || c == ')' || c == ','

def marksNext (s : List Char) : Bool :=
  ((trimStart s).head?.map isMark).getD false

/-- A text without the white space next to its marks; `behind` says whether a mark came last. -/
def tighten (behind : Bool) : List Char → List Char
  | [] => []
  | c :: rest =>
      if isBlank c then
        if behind || marksNext rest then tighten behind rest else c :: tighten false rest
      else c :: tighten (isMark c) rest

def normal (body : List Char) : List Char :=
  tighten false (lower (trim body))

/-- The aggregate whose keyword and parenthesis open a text, and what follows them. -/
def opening? (s : List Char) : Option (Aggregate × List Char) :=
  Aggregate.keywords.findSome? fun (word, aggregate) =>
    (after? (word ++ ['(']) s).map fun rest => (aggregate, rest)

/-- Whether a point that ends is followed by another one that starts. -/
def hasPointBreak : List Char → Bool
  | [] => false
  | c :: rest => (after? "),(".toList (c :: rest)).isSome || hasPointBreak rest

def consPart (c : Char) : List (List Char) → List (List Char)
  | [] => [[c]]
  | part :: parts => (c :: part) :: parts

/-- The parts of a text between the places where a comma precedes a parenthesis. -/
def splitPoints : List Char → List (List Char)
  | [] => [[]]
  | ',' :: '(' :: rest => [] :: splitPoints rest
  | c :: rest => consPart c (splitPoints rest)

/-- A point: two coordinates with a comma between them, once all parentheses are taken away. -/
def point? (part : List Char) : Option Point := do
  let (row, col) ← cut? ',' (part.filter fun c => c != '(' && c != ')')
  return ⟨← coordinate? row, ← coordinate? col⟩

def points? (arguments : List Char) : Option (List Point) :=
  if hasPointBreak arguments then (splitPoints arguments).mapM point? else none

/-- The coordinate in digits that ends a text given backwards, and what is before it. -/
def lastCoordinate? (backwards : List Char) : Option (Int64 × List Char) :=
  (coordinate? (backwards.takeWhile Char.isDigit).reverse).map fun coordinate =>
    (coordinate, backwards.dropWhile Char.isDigit)

/-- The point that ends a text given backwards, and what is before it and a comma. -/
def lastPoint? (backwards : List Char) : Option (Point × List Char) := do
  let (col, rest) ← lastCoordinate? (← after? [')'] backwards)
  let (row, rest) ← lastCoordinate? (← after? [','] rest)
  return (⟨row, col⟩, ← after? ['(', ','] rest)

/-- A sheet's name without opening parentheses before it and closing ones behind it. -/
def bareName (name : List Char) : List Char :=
  ((name.dropWhile (· == '(')).reverse.dropWhile (· == ')')).reverse

/-- A sheet's name on one line, and the two points that span a rectangle on the sheet. -/
def range? (arguments : List Char) : Option Operands := do
  let (last, rest) ← lastPoint? arguments.reverse
  let (first, rest) ← lastPoint? rest
  if rest = [] ∨ '\n' ∈ rest then none else return .range (bareName rest.reverse) first last

def Operands.ofArguments (arguments : List Char) : Operands :=
  match points? arguments with
  | some points => .cells points
  | none => (range? arguments).getD .malformed

def ofNormal? (s : List Char) : Option Formula :=
  (opening? s).map fun (aggregate, rest) =>
    ⟨aggregate, ((beforeLast? ')' rest).map Operands.ofArguments).getD .malformed⟩

def parse (body : List Char) : Except Fault Formula :=
  match ofNormal? (normal body) with
  | some formula => .ok formula
  | none => .error .unrecognized

end Gridbook.Formula
