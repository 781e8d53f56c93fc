import Gridbook.Number.Display
import Gridbook.Proofs.Number.RoundTrip
import Gridbook.Proofs.Number.Value
import Gridbook.Proofs.Text.Runs

/-!
# Displayed numbers are accurate

A double below `10 ^ 10` that is a whole number or at least `10 ^ (-4)` is shown as a decimal with
six places at most and without a zero that could be left out.  A whole number is shown exactly.
Anything else is rounded once, to the nearest millionth; leaving out zeros does not change what the
decimal stands for, so the error is that of the rounding.
-/

namespace Gridbook.Number

open Gridbook.Text

/-! ## Decimals in text -/

/-- A decimal as it stands in text: a sign, the digits before the point and those behind it. -/
structure Positional where
  negative : Bool
  whole : List Char
  places : List Char

namespace Positional

/-- The point is written only in front of places. -/
def text (d : Positional) : List Char :=
  signed d.negative (d.whole ++ if d.places = [] then [] else '.' :: d.places)

/-- The number that the digits stand for. -/
def magnitude (d : Positional) : ℚ :=
  ofDigits d.whole + ofDigits d.places / 10 ^ d.places.length

/-- The number that the whole text stands for. -/
def value (d : Positional) : ℚ :=
  withSign d.negative d.magnitude

/-- No zero is written that could be left out, and no place behind the sixth. -/
structure Canonical (d : Positional) : Prop where
  whole : DigitRun d.whole
  leading : d.whole.head? = some '0' → d.whole = ['0']
  places : ∀ c ∈ d.places, c.isDigit = true
  count : d.places.length ≤ 6
  last : d.places.getLast? ≠ some '0'

end Positional

/-- Only zero is written with a zero in front. -/
theorem eq_zero_of_head?_digits {n : Nat} (first : (digits n).head? = some '0') : n = 0 := by
  induction n using Nat.strong_induction_on with
  | h n ih =>
      by_cases small : n < 10
      · rw [digits, Nat.toDigits_of_lt_base small] at first
        exact Nat.digitChar_eq_zero.mp (Option.some.inj first)
      · have large := Nat.not_lt.mp small
        have front : (digits (n / 10)).head? = some '0' := by
          rw [digits, Nat.toDigits_of_base_le (by decide) large, List.head?_append] at first
          cases start : (digits (n / 10)).head? with
          | none => exact absurd (List.head?_eq_none_iff.mp start) (digits_ne_nil _)
          | some c =>
              rw [← digits, start] at first
              exact first
        have zero := ih (n / 10) (by omega) front
        omega

theorem ofDigits_append (s t : List Char) :
    ofDigits (s ++ t) = 10 ^ t.length * ofDigits s + ofDigits t := by
  unfold ofDigits
  rw [Nat.ofDigitChars_append, Nat.ofDigitChars_eq_ofDigitChars_zero]

namespace Decimal

/-- The number that a decimal stands for. -/
def value (d : Decimal) : ℚ :=
  d.significand / 10 ^ d.places

/-- The digits of a decimal, cut at the point. -/
def positional (negative : Bool) (d : Decimal) : Positional :=
  ⟨negative, digits (d.significand / tenPow d.places), lastDigits d.places d.significand⟩

theorem text_positional (negative : Bool) (d : Decimal) :
    (d.positional negative).text = signed negative d.text := by
  obtain ⟨significand, places⟩ := d
  cases places with
  | zero => simp [positional, Positional.text, text, lastDigits, tenPow]
  | succ places => simp [positional, Positional.text, text, lastDigits]

/-- The digits stand for the decimal. -/
theorem magnitude_positional (negative : Bool) (d : Decimal) :
    (d.positional negative).magnitude = d.value := by
  have whole := ofDigits_append_lastDigits d.places d.significand
  rw [ofDigits_append, length_lastDigits] at whole
  have power : (10 : ℚ) ^ d.places ≠ 0 := by positivity
  rw [value, ← whole]
  simp only [positional, Positional.magnitude, length_lastDigits]
  push_cast
  field_simp

theorem canonical_positional (negative : Bool) {d : Decimal} (count : d.places ≤ 6)
    (last : d.places = 0 ∨ d.significand % 10 ≠ 0) : (d.positional negative).Canonical where
  whole := digitRun_digits _
  leading first := by
    have zero := eq_zero_of_head?_digits first
    simp only [positional, zero]
    rfl
  places _ := isDigit_of_mem_lastDigits
  count := (length_lastDigits _ _).trans_le count
  last := by
    obtain ⟨significand, places⟩ := d
    cases places with
    | zero => nofun
    | succ places =>
        simpa [positional, lastDigits, Nat.digitChar_eq_zero] using last

theorem value_trimmedFrom (significand places : Nat) :
    (trimmedFrom significand places).value = (⟨significand, places⟩ : Decimal).value := by
  induction places generalizing significand with
  | zero => rfl
  | succ places ih =>
      unfold trimmedFrom
      split
      · rename_i zero
        have whole : 10 * (significand / 10) = significand :=
          Nat.mul_div_cancel' (Nat.dvd_of_mod_eq_zero zero)
        rw [ih, value, value]
        dsimp only
        conv_rhs => rw [← whole]
        push_cast
        rw [pow_succ']
        field_simp
      · rfl

theorem places_trimmedFrom_le (significand places : Nat) :
    (trimmedFrom significand places).places ≤ places := by
  induction places generalizing significand with
  | zero => exact Nat.le_refl 0
  | succ places ih =>
      unfold trimmedFrom
      split
      · exact (ih _).trans (Nat.le_succ _)
      · exact Nat.le_refl _

end Decimal

/-! ## Rounding -/

/-- A quotient is rounded down only if its remainder is half the divisor at most, and up only if it
is at least half. -/
theorem roundQuotient_cases (dividend divisor : Nat) :
    roundQuotient dividend divisor = dividend / divisor ∧ 2 * (dividend % divisor) ≤ divisor ∨
      roundQuotient dividend divisor = dividend / divisor + 1 ∧
        divisor ≤ 2 * (dividend % divisor) := by
  unfold roundQuotient
  generalize dividend / divisor = floor
  generalize dividend % divisor = rest
  dsimp only
  split
  · omega
  · split <;> omega

/-- A quotient is rounded by half a unit at most. -/
theorem abs_roundQuotient_sub_le (dividend : Nat) {divisor : Nat} (positive : 0 < divisor) :
    |(roundQuotient dividend divisor : ℚ) - dividend / divisor| ≤ 1 / 2 := by
  have filled : (0 : ℚ) < divisor := Nat.cast_pos.mpr positive
  have quotient : (dividend / divisor : ℚ) =
      (dividend / divisor : Nat) + (dividend % divisor : Nat) / (divisor : ℚ) := by
    rw [div_eq_iff filled.ne', add_mul, div_mul_cancel₀ _ filled.ne']
    exact mod_cast (Nat.div_add_mod' dividend divisor).symm
  have least : (0 : ℚ) ≤ (dividend % divisor : Nat) / (divisor : ℚ) := by positivity
  have below : ((dividend % divisor : Nat) : ℚ) / divisor ≤ 1 :=
    (div_le_one filled).mpr (mod_cast (Nat.mod_lt _ positive).le)
  rw [quotient, abs_le]
  rcases roundQuotient_cases dividend divisor with ⟨down, half⟩ | ⟨up, half⟩
  · have bound : ((dividend % divisor : Nat) : ℚ) / divisor ≤ 1 / 2 := by
      rw [div_le_div_iff₀ filled two_pos]
      exact mod_cast by omega
    rw [down]
    constructor <;> linarith
  · have bound : 1 / 2 ≤ ((dividend % divisor : Nat) : ℚ) / divisor := by
      rw [div_le_div_iff₀ two_pos filled]
      exact mod_cast by omega
    rw [up, Nat.cast_succ]
    constructor <;> linarith

/-- A decimal with a given number of places is off by half of the last place at most. -/
theorem Decimal.abs_rounded_sub_le (places dividend : Nat) {divisor : Nat}
    (positive : 0 < divisor) :
    |(rounded places dividend divisor).value - dividend / divisor| ≤ 1 / 2 / 10 ^ places := by
  have power : (0 : ℚ) < 10 ^ places := by positivity
  have near := abs_roundQuotient_sub_le (dividend * tenPow places) positive
  have shifted : (rounded places dividend divisor).value - dividend / divisor =
      (roundQuotient (dividend * tenPow places) divisor -
        (dividend * tenPow places : Nat) / divisor) / 10 ^ places := by
    have ten : (tenPow places : ℚ) = 10 ^ places := Nat.cast_pow 10 places
    rw [value, rounded, Nat.cast_mul, ten]
    field_simp
  rw [shifted, abs_div, abs_of_pos power]
  gcongr

/-! ## The displayed number -/

/-- The pattern of the double nearest to `10 ^ 10`. -/
def largePattern : Nat := 0x4202A05F20000000

/-- The pattern of the double nearest to `10 ^ (-4)`. -/
def smallPattern : Nat := 0x3F1A36E2EB1C432D

theorem parts_large : parts 1e10 = .finite false largePattern := by decide +kernel

theorem parts_small : parts 1e-4 = .finite false smallPattern := by decide +kernel

theorem unitsPerOne_pos : 0 < unitsPerOne := twoPow_pos _

/-- Doubles below `10 ^ 10` are as many units below as that has. -/
theorem unitsOf_lt_of_lt {pattern : Nat} (below : pattern < largePattern) :
    unitsOf pattern < tenPow 10 * unitsPerOne := by
  have large : unitsOf largePattern = tenPow 10 * unitsPerOne := by decide +kernel
  rw [← large]
  exact unitsOf_strictMono below

/-- The double nearest to `10 ^ (-4)` is not less. -/
theorem unitsPerOne_le_of_le {pattern : Nat} (least : smallPattern ≤ pattern) :
    unitsPerOne ≤ unitsOf pattern * tenPow 4 := by
  have small : unitsPerOne ≤ unitsOf smallPattern * tenPow 4 := by decide +kernel
  exact small.trans (Nat.mul_le_mul_right _ (unitsOf_strictMono.monotone least))

/-- A double is a whole number only if its units make up whole ones. -/
theorem dvd_of_whole {x : Float} {negative : Bool} {pattern : Nat}
    (found : parts x = .finite negative pattern) (whole : ∃ k : Int, value x = k) :
    unitsPerOne ∣ unitsOf pattern := by
  obtain ⟨k, same⟩ := whole
  rw [value_of_finite found] at same
  obtain ⟨m, quotient⟩ := exists_eq_of_withSign same
  apply (Rat.den_div_natCast_eq_one_iff _ _ unitsPerOne_pos.ne').mp
  rw [quotient, Rat.den_intCast]

/-- A pattern in range is shown as a decimal that stands for its value. -/
theorem displayMagnitude_eq {pattern : Nat} (small : unitsOf pattern < tenPow 10 * unitsPerOne)
    (plain : unitsPerOne ∣ unitsOf pattern ∨ unitsPerOne ≤ unitsOf pattern * tenPow 4) :
    ∃ d : Decimal, displayMagnitude pattern = d.text ∧
      d.places ≤ 6 ∧ (d.places = 0 ∨ d.significand % 10 ≠ 0) ∧
      (unitsPerOne ∣ unitsOf pattern → d.value = unitsOf pattern / unitsPerOne) ∧
      |d.value - unitsOf pattern / unitsPerOne| ≤ 5 / 10 ^ 7 := by
  have positive := unitsPerOne_pos
  unfold displayMagnitude
  -- the units are too many to be counted out
  generalize unitsOf pattern = units at small plain ⊢
  generalize unitsPerOne = unit at positive small plain ⊢
  dsimp only
  by_cases whole : unit ∣ units
  · have same : (⟨units / unit, 0⟩ : Decimal).value = units / unit := by
      rw [Decimal.value, pow_zero, div_one]
      exact Nat.cast_div whole (Nat.cast_ne_zero.mpr positive.ne')
    refine ⟨⟨units / unit, 0⟩, ?_, Nat.zero_le 6, .inl rfl, fun _ => same, ?_⟩
    · rw [if_pos ⟨Nat.mod_eq_zero_of_dvd whole, small⟩, Decimal.text, if_pos rfl]
    · rw [same, sub_self, abs_zero]
      positivity
  · have notSmaller := plain.resolve_left whole
    have near := Decimal.abs_rounded_sub_le 6 units positive
    refine ⟨(Decimal.rounded 6 units unit).trimmed, ?_, Decimal.places_trimmedFrom_le _ _,
      Decimal.trimmedFrom_last _ _, fun exactly => absurd exactly whole, ?_⟩
    · rw [if_neg fun both => whole (Nat.dvd_of_mod_eq_zero both.1),
        if_neg (not_or.mpr ⟨Nat.not_le.mpr small, Nat.not_lt.mpr notSmaller⟩)]
    · rw [Decimal.trimmed, Decimal.value_trimmedFrom]
      exact near.trans_eq (by norm_num)

/-- A number below `10 ^ 10` that is whole or at least `10 ^ (-4)` is shown with its sign, without
superfluous zeros and with six places at most: exactly if it is whole, and otherwise with an error
of half a millionth at most. -/
theorem display_accurate {x : Float} (finite : x.isFinite = true) (small : x.abs < 1e10)
    (plain : (∃ k : Int, value x = k) ∨ 1e-4 ≤ x.abs) :
    ∃ d : Positional, display x = d.text ∧ d.Canonical ∧ d.negative = x.toBits.toBitVec.msb ∧
      ((∃ k : Int, value x = k) → d.value = value x) ∧ |d.value - value x| ≤ 5 / 10 ^ 7 := by
  obtain ⟨negative, pattern, found⟩ := isFinite_iff.mp finite
  have magnitude := parts_abs found
  have below := unitsOf_lt_of_lt ((lt_iff_of_finite magnitude parts_large).mp small)
  have shown : unitsPerOne ∣ unitsOf pattern ∨ unitsPerOne ≤ unitsOf pattern * tenPow 4 :=
    plain.imp (dvd_of_whole found) fun least =>
      unitsPerOne_le_of_le ((le_iff_of_finite parts_small magnitude).mp least)
  obtain ⟨d, text, count, last, exactly, near⟩ := displayMagnitude_eq below shown
  have value_eq : (d.positional negative).value = withSign negative d.value := by
    rw [Positional.value, Decimal.magnitude_positional, Decimal.positional]
  refine ⟨d.positional negative, ?_, Decimal.canonical_positional negative count last, ?_, ?_, ?_⟩
  · rw [Decimal.text_positional, ← text, display, found]
  · rw [BitVec.msb_eq_decide]
    exact (parts_eq_finite_iff.mp found).1.symm
  · intro whole
    rw [value_eq, exactly (dvd_of_whole found whole), value_of_finite found]
  · rw [value_eq, value_of_finite found, abs_withSign_sub]
    exact near

/-- Where rounding carries into the whole part, nothing is left behind the point. -/
theorem display_accurate_of_carry :
    (-0.9999999 : Float).isFinite = true ∧ (-0.9999999 : Float).abs < 1e10 ∧
      1e-4 ≤ (-0.9999999 : Float).abs ∧ display (-0.9999999) = "-1".toList ∧
      ∃ d : Positional, display (-0.9999999) = d.text ∧ d.Canonical ∧
        d.negative = (-0.9999999 : Float).toBits.toBitVec.msb ∧
        ((∃ k : Int, value (-0.9999999) = k) → d.value = value (-0.9999999)) ∧
        |d.value - value (-0.9999999)| ≤ 5 / 10 ^ 7 := by
  have finite : (-0.9999999 : Float).isFinite = true := by decide +kernel
  have small : (-0.9999999 : Float).abs < 1e10 := by decide +kernel
  have plain : 1e-4 ≤ (-0.9999999 : Float).abs := by decide +kernel
  exact ⟨finite, small, plain, by decide +kernel, display_accurate finite small (.inr plain)⟩

end Gridbook.Number
