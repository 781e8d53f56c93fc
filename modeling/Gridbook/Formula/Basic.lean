import Gridbook.Address

/-!
# Formulas

A formula folds numbers with an aggregate, a sum or a product.  Its operands are listed one by one,
or they are the cells of a rectangle on a named sheet.  Points are kept as they are written: counted
from one, and not yet known to lie on a sheet.
-/

namespace Gridbook

/-- How a formula folds its numbers. -/
inductive Aggregate where
  | sum
  | product
deriving DecidableEq, Repr

namespace Aggregate

def identity : Aggregate → Float
  | .sum => 0.0
  | .product => 1.0

def combine : Aggregate → Float → Float → Float
  | .sum, total, operand => total + operand
  | .product, total, operand => total * operand

/-- The numbers folded from left to right. -/
def fold (a : Aggregate) (operands : List Float) : Float :=
  operands.foldl a.combine a.identity

/-- The words that name the aggregates, in the order in which they are looked for. -/
def keywords : List (List Char × Aggregate) :=
  [("sum".toList, .sum), ("multiplication".toList, .product), ("mult".toList, .product)]

end Aggregate

namespace Formula

/-- A row and a column as a formula writes them. -/
structure Point where
  row : Int64
  col : Int64
deriving DecidableEq

/-- The address of a point, unless one of its coordinates lies below one. -/
def Point.address? (p : Point) : Option Address :=
  Address.ofCoordinates? p.row p.col

/-- Where a formula takes its numbers from. -/
inductive Operands where
  | cells (points : List Point)
  | range (sheet : List Char) (first last : Point)
  | malformed
deriving DecidableEq

end Formula

structure Formula where
  aggregate : Aggregate
  operands : Formula.Operands
deriving DecidableEq

end Gridbook
