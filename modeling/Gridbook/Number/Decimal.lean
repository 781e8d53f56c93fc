import Gridbook.Number.Double
import Gridbook.Text.Numeral

/-!
# Positional decimals

A decimal is a whole number of units of `1 / 10 ^ places`.  It is written with all its places, or
with the zeros at its end left out.
-/

namespace Gridbook.Number

open Gridbook.Text

/-- The number `significand / 10 ^ places`. -/
structure Decimal where
  significand : Nat
  places : Nat
deriving DecidableEq, Repr

namespace Decimal

/-- The decimal `significand * 10 ^ exponent`. -/
def ofScaled (significand : Nat) (exponent : Int) : Decimal :=
  if 0 ≤ exponent then ⟨significand * tenPow exponent.toNat, 0⟩
  else ⟨significand, (-exponent).toNat⟩

/-- The decimal with a given number of places nearest to a quotient. -/
def rounded (places dividend divisor : Nat) : Decimal :=
  ⟨roundQuotient (dividend * tenPow places) divisor, places⟩

/-- The last digits of a number, as many as asked for. -/
def lastDigits : Nat → Nat → List Char
  | 0, _ => []
  | count + 1, n => lastDigits count (n / 10) ++ [Nat.digitChar (n % 10)]

theorem length_lastDigits (count n : Nat) : (lastDigits count n).length = count := by
  induction count generalizing n with
  | zero => rfl
  | succ count ih => simp [lastDigits, ih]

/-- A decimal with all its places; without places it has no point. -/
def text (d : Decimal) : List Char :=
  if d.places = 0 then digits d.significand
  else digits (d.significand / tenPow d.places) ++ '.' :: lastDigits d.places d.significand

/-- Leave out zeros at the end, down to the point and no further. -/
def trimmedFrom : Nat → Nat → Decimal
  | significand, 0 => ⟨significand, 0⟩
  | significand, places + 1 =>
      if significand % 10 = 0 then trimmedFrom (significand / 10) places
      else ⟨significand, places + 1⟩

def trimmed (d : Decimal) : Decimal :=
  trimmedFrom d.significand d.places

/-- The last place of a trimmed decimal, if it has places, is no zero. -/
theorem trimmedFrom_last (significand places : Nat) :
    (trimmedFrom significand places).places = 0 ∨
      (trimmedFrom significand places).significand % 10 ≠ 0 := by
  induction places generalizing significand with
  | zero => exact .inl rfl
  | succ places ih =>
      unfold trimmedFrom
      split
      · exact ih _
      · exact .inr ‹_›

end Decimal

end Gridbook.Number
