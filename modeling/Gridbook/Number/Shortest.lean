import Gridbook.Number.Decimal
import Gridbook.Number.Reading

/-!
# The fewest digits that read back

A finite double is written with as few significant digits as still read back as the same double,
and of the numbers with that many digits the nearest one is taken; of two equally near, the larger.
For each count of digits the two neighbours of the exact value on that decimal grid are tried.
Should no count up to seventeen do, the exact expansion is written, which always reads back.
-/

namespace Gridbook.Number

open Gridbook.Text

/-- A number `significand * 10 ^ exponent`. -/
structure Scaled where
  significand : Nat
  exponent : Int
deriving DecidableEq, Repr

namespace Scaled

/-- Whether a scaled number rounds to the double with the given pattern. -/
def readsAs (number : Scaled) (pattern : Nat) : Bool :=
  nearestDecimal number.significand number.exponent == pattern

/-- A number without factors of ten in its significand, which keep their weight in the exponent. -/
def withoutTens (number : Scaled) : Scaled :=
  let trimmed := Decimal.trimmedFrom number.significand (digits number.significand).length
  ⟨trimmed.significand, number.exponent + ((digits number.significand).length - trimmed.places)⟩

/-- The exact value of a finite pattern: a unit is `5 ^ 1074 / 10 ^ 1074`. -/
def exact (pattern : Nat) : Scaled :=
  ⟨unitsOf pattern * Nat.pow 5 1074, -1074⟩

/-- Whether a finite pattern stands for at least a power of ten. -/
def reaches (pattern : Nat) (exponent : Int) : Bool :=
  tenPow exponent.toNat * unitsPerOne ≤ unitsOf pattern * tenPow (-exponent).toNat

/-- The power of ten of the leading digit of a finite pattern other than zero.  The estimate from
the leading bit, with three tenths of a digit to a bit, is off by one at most. -/
def leadingExponent (pattern : Nat) : Int :=
  let estimate := ((Nat.log2 (unitsOf pattern) : Int) - 1074) * 30103 / 100000
  if reaches pattern (estimate + 1) then estimate + 1
  else if reaches pattern estimate then estimate
  else estimate - 1

/-- Of the two neighbours of a value the nearer one that reads back. -/
def choose (pattern : Nat) (below above : Scaled) (nearerBelow : Bool) : Option Scaled :=
  match below.readsAs pattern, above.readsAs pattern with
  | true, true => some (if nearerBelow then below else above)
  | true, false => some below
  | false, true => some above
  | false, false => none

theorem choose_readsAs {pattern : Nat} {below above number : Scaled} {nearerBelow : Bool}
    (h : choose pattern below above nearerBelow = some number) :
    number.readsAs pattern = true := by
  unfold choose at h
  split at h
  · obtain rfl := Option.some.inj h
    split <;> assumption
  · obtain rfl := Option.some.inj h
    assumption
  · obtain rfl := Option.some.inj h
    assumption
  · simp at h

/-- The choice between the two neighbours with `count` significant digits. -/
def neighbour? (pattern count : Nat) : Option Scaled :=
  let exponent := leadingExponent pattern + 1 - count
  let dividend := unitsOf pattern * tenPow (-exponent).toNat
  let divisor := unitsPerOne * tenPow exponent.toNat
  choose pattern (withoutTens ⟨dividend / divisor, exponent⟩)
    (withoutTens ⟨dividend / divisor + 1, exponent⟩) (2 * (dividend % divisor) < divisor)

theorem neighbour?_readsAs {pattern count : Nat} {number : Scaled}
    (h : neighbour? pattern count = some number) : number.readsAs pattern = true :=
  choose_readsAs h

/-- The shortest number that reads back as a finite pattern. -/
def shortest (pattern : Nat) : Scaled :=
  if pattern = 0 then ⟨0, 0⟩
  else ((List.range 17).findSome? fun index => neighbour? pattern (index + 1)).getD (exact pattern)

/-- Scientific notation: one digit before the point, the power of ten after `e`. -/
def scientific (number : Scaled) : List Char :=
  let mantissa := digits number.significand
  let exponent := number.exponent + (mantissa.length - 1 : Nat)
  let places := mantissa.drop 1
  mantissa.take 1 ++ (if places = [] then [] else '.' :: places) ++ 'e' ::
    (if exponent < 0 then '-' :: digits exponent.natAbs else digits exponent.natAbs)

end Scaled

def signed (negative : Bool) (text : List Char) : List Char :=
  if negative then '-' :: text else text

/-- A double in positional notation, with the fewest digits that read back. -/
def positional (x : Float) : List Char :=
  match parts x with
  | .nan => "NaN".toList
  | .infinite negative => signed negative "inf".toList
  | .finite negative pattern =>
      let number := Scaled.shortest pattern
      signed negative (Decimal.ofScaled number.significand number.exponent).text

end Gridbook.Number
