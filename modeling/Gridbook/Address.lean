import Gridbook.Text.Blank
import Gridbook.Text.Numeral
import Gridbook.Text.Scan

/-!
# Cell addresses

A cell is addressed by its row and its column, counted from zero.  In text both count from one and
stand in parentheses, `(row,column)`.  The parentheses may be left out on reading, and white space
may stand at either end and next to every mark.
-/

namespace Gridbook

open Text

/-- A row and a column, both counted from zero. -/
structure Address where
  row : Nat
  col : Nat
deriving DecidableEq, Repr

structure InvalidAddress where
  text : String
deriving DecidableEq, Repr

def InvalidAddress.message (e : InvalidAddress) : String :=
  "Invalid cell reference: " ++ e.text

namespace Address

/-- An address in text, counted from one. -/
def text (a : Address) : List Char :=
  '(' :: digits (a.row + 1) ++ ',' :: digits (a.col + 1) ++ [')']

/-- The address with two coordinates that count from one. -/
def ofCoordinates? (row col : Int64) : Option Address :=
  if 1 ≤ row.toInt ∧ 1 ≤ col.toInt then some ⟨(row.toInt - 1).toNat, (col.toInt - 1).toNat⟩
  else none

/-- A coordinate in text, which counts from one and lies below the limit, counted from zero. -/
def component? (s : List Char) : Option Nat :=
  (natural? s).bind fun n => if 1 ≤ n ∧ n < coordinateLimit then some (n - 1) else none

def read? (s : List Char) : Option Address := do
  let opened := trimStart (skip '(' (trimStart s))
  let row ← component? (opened.takeWhile Char.isDigit)
  let rest ← after? [','] (trimStart (opened.dropWhile Char.isDigit))
  let second := trimStart rest
  let col ← component? (second.takeWhile Char.isDigit)
  let closed := trimStart (skip ')' (trimStart (second.dropWhile Char.isDigit)))
  if closed = [] then some ⟨row, col⟩ else none

def parse (s : String) : Except InvalidAddress Address :=
  match read? s.toList with
  | some a => .ok a
  | none => .error ⟨s⟩

end Address

end Gridbook
