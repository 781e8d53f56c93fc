import Gridbook.Number.Shortest

/-!
# Numbers as they are shown

A whole number below `10 ^ 10` is shown with all its digits.  Any other number from `10 ^ (-4)` up
to that bound is rounded to six places and loses the zeros at its end.  The rest is shown in
scientific notation, with the fewest digits that read back.
-/

namespace Gridbook.Number

/-- The form in which a finite pattern is shown, without its sign. -/
def displayMagnitude (pattern : Nat) : List Char :=
  let units := unitsOf pattern
  if units % unitsPerOne = 0 ∧ units < tenPow 10 * unitsPerOne then
    Text.digits (units / unitsPerOne)
  else if tenPow 10 * unitsPerOne ≤ units ∨ units * tenPow 4 < unitsPerOne then
    (Scaled.shortest pattern).scientific
  else
    (Decimal.rounded 6 units unitsPerOne).trimmed.text

def display (x : Float) : List Char :=
  match parts x with
  | .nan => "#NAN!".toList
  | .infinite _ => "#INF!".toList
  | .finite negative pattern => signed negative (displayMagnitude pattern)

end Gridbook.Number
