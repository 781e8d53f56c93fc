import Gridbook.Power

/-!
# Doubles as exact numbers

Every finite double is a whole number of units of `1 / 2 ^ 1074`.  Apart from its sign, a double is
a pattern of sixty-three bits, and larger patterns stand for larger magnitudes: a pattern below
infinity is `scale * 2 ^ 52 + significand` and stands for `significand * 2 ^ scale` units.  Rounding
an exact quotient to the nearest double is division of whole numbers, a tie going to the even
pattern.
-/

namespace Gridbook.Number

def unitsPerOne : Nat := twoPow 1074

/-- The pattern of infinity; the patterns above it are not numbers. -/
def infinityPattern : Nat := 2047 * twoPow 52

theorem twoPow_52 : twoPow 52 = 4503599627370496 := by decide

theorem twoPow_53 : twoPow 53 = 9007199254740992 := by decide

theorem twoPow_63 : twoPow 63 = 9223372036854775808 := by decide

theorem infinityPattern_eq : infinityPattern = 9218868437227405312 := by decide

/-- The power of two that the significand of a finite pattern is scaled by. -/
def scaleOf (pattern : Nat) : Nat :=
  pattern / twoPow 52 - 1

/-- The significand of a finite pattern, leading bit included. -/
def significandOf (pattern : Nat) : Nat :=
  pattern - scaleOf pattern * twoPow 52

def unitsOf (pattern : Nat) : Nat :=
  significandOf pattern * twoPow (scaleOf pattern)

/-- What a double stands for: not a number, an infinity, or a whole number of units with a sign. -/
inductive Parts where
  | nan
  | infinite (negative : Bool)
  | finite (negative : Bool) (pattern : Nat)
deriving DecidableEq, Repr

def parts (x : Float) : Parts :=
  let bits := x.toBits.toNat
  let negative : Bool := twoPow 63 ≤ bits
  let pattern := bits % twoPow 63
  if infinityPattern < pattern then .nan
  else if pattern = infinityPattern then .infinite negative
  else .finite negative pattern

def ofPattern (negative : Bool) (pattern : Nat) : Float :=
  Float.ofBits (UInt64.ofNat (if negative then twoPow 63 + pattern else pattern))

def isFinite (x : Float) : Bool :=
  match parts x with
  | .finite .. => true
  | _ => false

/-- The whole number nearest to a quotient; of two equally near, the even one. -/
def roundQuotient (dividend divisor : Nat) : Nat :=
  let floor := dividend / divisor
  let twice := 2 * (dividend % divisor)
  if twice < divisor then floor
  else if divisor < twice then floor + 1
  else floor + floor % 2

/-- The pattern of the double nearest to a quotient, infinity for one beyond all finite doubles. -/
def nearest (dividend divisor : Nat) : Nat :=
  let units := dividend * unitsPerOne
  let scale := Nat.log2 (units / divisor) - 52
  min infinityPattern (scale * twoPow 52 + roundQuotient units (divisor * twoPow scale))

/-- The pattern of the double nearest to `significand * 10 ^ exponent`.  A number of at least
`10 ^ 401` rounds to infinity and one below `10 ^ (-400)` to zero; neither power is computed. -/
def nearestDecimal (significand : Nat) (exponent : Int) : Nat :=
  if significand = 0 then 0
  else if 400 < exponent then infinityPattern
  else if exponent + Nat.log2 significand + 400 < 0 then 0
  else if 0 ≤ exponent then nearest (significand * tenPow exponent.toNat) 1
  else nearest significand (tenPow (-exponent).toNat)

end Gridbook.Number
