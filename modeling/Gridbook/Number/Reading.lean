import Gridbook.Number.Double
import Gridbook.Text.Numeral

/-!
# Reading numbers

A number in text is an optional sign followed by decimal digits, of which a point may precede,
divide or follow some, and perhaps by a power of ten after `e` or `E`.  The words `inf`, `infinity`
and `nan` in any letter case stand for the doubles that have no digits.  The double is the one
nearest to the number written.
-/

namespace Gridbook.Number

open Gridbook.Text

def signedExponent? : List Char → Option Int
  | '-' :: rest => (natural? rest).map fun n => -(n : Int)
  | '+' :: rest => (natural? rest).map fun n => (n : Int)
  | s => (natural? s).map fun n => (n : Int)

/-- The power of ten that ends a number; nothing stands for the power zero. -/
def exponent? : List Char → Option Int
  | [] => some 0
  | c :: rest => if c = 'e' ∨ c = 'E' then signedExponent? rest else none

/-- The digits behind the point, and what follows them. -/
def fraction : List Char → List Char × List Char
  | '.' :: rest => (rest.takeWhile Char.isDigit, rest.dropWhile Char.isDigit)
  | s => ([], s)

/-- A number without its sign, as a significand and a power of ten. -/
def decimal? (s : List Char) : Option (Nat × Int) :=
  let whole := s.takeWhile Char.isDigit
  let (places, rest) := fraction (s.dropWhile Char.isDigit)
  if whole = [] ∧ places = [] then none
  else (exponent? rest).map fun e => (ofDigits (whole ++ places), e - places.length)

def magnitude? (s : List Char) : Option Nat :=
  let word := s.map Char.toLower
  if word = "inf".toList ∨ word = "infinity".toList then some infinityPattern
  else if word = "nan".toList then some (infinityPattern + twoPow 51)
  else (decimal? s).map fun (significand, exponent) => nearestDecimal significand exponent

def read? : List Char → Option Float
  | '-' :: rest => (magnitude? rest).map (ofPattern true)
  | '+' :: rest => (magnitude? rest).map (ofPattern false)
  | s => (magnitude? s).map (ofPattern false)

end Gridbook.Number
