import Gridbook.Proofs.Number.Nearest
import Gridbook.Proofs.Number.Word
import Mathlib

/-!
# The exact value of a double

A finite double is unpacked into a sign, a mantissa and a power of two, which make up a rational
number.  The parts that a double is taken into tell the same number in units, and of two positive
doubles the one with the smaller pattern is the smaller.  So a comparison with a fixed double is a
comparison of units.
-/

namespace Gridbook.Number

open Float.Model
open Float.Model.UnpackedFloat (unpackExponent unpackMantissa unpackSign)

/-! ## Unpacking -/

/-- The number that a double stands for; one that is not finite stands for none, counted as zero. -/
def unpackedValue : UnpackedFloat → ℚ
  | .finite .positive mantissa exponent _ => mantissa * 2 ^ exponent
  | .finite .negative mantissa exponent _ => -(mantissa * 2 ^ exponent)
  | .zero _ | .infinity _ | .notANumber => 0

/-- The exact value of a finite double. -/
def value (x : Float) : ℚ :=
  unpackedValue x.toModel.unpack

/-- The sign of a double that is negative or not. -/
def signOf (negative : Bool) : UnpackedFloat.Sign :=
  if negative then .negative else .positive

/-- What a finite pattern is unpacked into. -/
def unpacked (negative : Bool) (pattern : Nat) : UnpackedFloat :=
  if filled : 0 < significandOf pattern then
    .finite (signOf negative) (significandOf pattern) (scaleOf pattern - 1074) filled
  else .zero (signOf negative)

theorem ofBitVec_unpackSign (x : Float) :
    UnpackedFloat.Sign.ofBitVec (@unpackSign Format.binary64 x.toBits.toBitVec) =
      signOf (decide (twoPow 63 ≤ x.toBits.toNat)) := by
  have bound := x.toBits.toNat_lt
  have bit := toNat_unpackSign x.toBits
  have zero : @unpackSign Format.binary64 x.toBits.toBitVec = 0#1 ↔
      ¬ twoPow 63 ≤ x.toBits.toNat := by
    rw [← BitVec.toNat_inj, bit, twoPow_63, BitVec.toNat_zero]
    omega
  by_cases negative : twoPow 63 ≤ x.toBits.toNat
  · simp [UnpackedFloat.Sign.ofBitVec, signOf, zero, negative]
  · simp [UnpackedFloat.Sign.ofBitVec, signOf, zero, negative]

/-- The fields of a finite double are those of its pattern. -/
theorem fields_of_finite {x : Float} {negative : Bool} {pattern : Nat}
    (found : parts x = .finite negative pattern) :
    (@unpackExponent Format.binary64 x.toBits.toBitVec).toNat = pattern / twoPow 52 ∧
      (@unpackMantissa Format.binary64 x.toBits.toBitVec).toNat = pattern % twoPow 52 := by
  have exponent := toNat_unpackExponent x.toBits
  have mantissa := toNat_unpackMantissa x.toBits
  obtain ⟨-, word, finite⟩ := parts_eq_finite_iff.mp found
  rw [twoPow_63] at word
  rw [infinityPattern_eq] at finite
  rw [twoPow_52] at exponent mantissa ⊢
  omega

/-- The leading bit of a mantissa counts as much as its place. -/
theorem toNat_leading {pattern : Nat} (mantissa : BitVec 52)
    (field : mantissa.toNat = pattern % twoPow 52) :
    (1#1 ++ mantissa).toNat = twoPow 52 + pattern % twoPow 52 := by
  rw [BitVec.toNat_append, ← Nat.shiftLeft_add_eq_or_of_lt mantissa.isLt, field]
  rfl

theorem scaleOf_low {pattern : Nat} (low : pattern / twoPow 52 = 0) :
    scaleOf pattern = 0 ∧ significandOf pattern = pattern % twoPow 52 := by
  have whole := Nat.div_add_mod pattern (twoPow 52)
  simp only [significandOf, scaleOf, low, Nat.zero_sub, Nat.zero_mul, Nat.sub_zero, true_and]
  rwa [low, Nat.mul_zero, Nat.zero_add, eq_comm] at whole

theorem scaleOf_high {pattern : Nat} (high : pattern / twoPow 52 ≠ 0) :
    scaleOf pattern + 1 = pattern / twoPow 52 ∧
      significandOf pattern = twoPow 52 + pattern % twoPow 52 := by
  simp only [significandOf, scaleOf]
  rw [twoPow_52] at high ⊢
  omega

theorem unpacked_of_filled {pattern mantissa : Nat} {exponent : Int} (negative : Bool)
    (filled : 0 < mantissa) (significand : significandOf pattern = mantissa)
    (scale : (scaleOf pattern : Int) - 1074 = exponent) :
    unpacked negative pattern = .finite (signOf negative) mantissa exponent filled := by
  subst significand scale
  exact dif_pos filled

theorem unpacked_of_zero {pattern : Nat} (negative : Bool) (zero : significandOf pattern = 0) :
    unpacked negative pattern = .zero (signOf negative) :=
  dif_neg (Nat.not_lt.mpr zero.le)

/-- A finite double is unpacked into the significand and the scale of its pattern. -/
theorem unpack_of_finite {x : Float} {negative : Bool} {pattern : Nat}
    (found : parts x = .finite negative pattern) :
    x.toModel.unpack = unpacked negative pattern := by
  obtain ⟨exponent, mantissa⟩ := fields_of_finite found
  obtain ⟨rfl, word, finite⟩ := parts_eq_finite_iff.mp found
  have bias : (Format.binary64.exponentBias : Int) = 1023 := by decide
  have notTop := (unpackExponent_eq_top_iff x.toBits).not.mpr (Nat.not_le.mpr (word ▸ finite))
  change UnpackedFloat.unpack Format.binary64 x.toBits.toBitVec = _
  unfold UnpackedFloat.unpack
  dsimp only
  rw [if_neg notTop, ofBitVec_unpackSign]
  split
  · rename_i low
    rw [low, BitVec.toNat_zero] at exponent
    obtain ⟨scale, significand⟩ := scaleOf_low exponent.symm
    rw [← mantissa] at significand
    split
    · rename_i none
      rw [none, BitVec.toNat_zero] at significand
      exact (unpacked_of_zero _ significand).symm
    · refine (unpacked_of_filled _ _ significand ?_).symm
      rw [scale, low, bias]
      rfl
  · rename_i high
    rw [← BitVec.toNat_inj, exponent, BitVec.toNat_zero] at high
    obtain ⟨scale, significand⟩ := scaleOf_high high
    refine (unpacked_of_filled _ _ (significand.trans (toNat_leading _ mantissa).symm) ?_).symm
    rw [exponent, ← scale, bias]
    push_cast
    ring

/-- A double is finite exactly if it is taken into a sign and a finite pattern. -/
theorem isFinite_iff {x : Float} :
    x.isFinite = true ↔ ∃ negative pattern, parts x = .finite negative pattern := by
  constructor
  · intro finite
    refine ⟨_, _, parts_eq_finite_iff.mpr ⟨rfl, rfl, ?_⟩⟩
    by_contra notBelow
    have top := (unpackExponent_eq_top_iff x.toBits).mpr (Nat.not_lt.mp notBelow)
    change (UnpackedFloat.unpack Format.binary64 x.toBits.toBitVec).isFinite = true at finite
    unfold UnpackedFloat.unpack at finite
    dsimp only at finite
    rw [if_pos top] at finite
    split at finite <;> cases finite
  · rintro ⟨negative, pattern, found⟩
    change x.toModel.unpack.isFinite = true
    rw [unpack_of_finite found]
    unfold unpacked
    split <;> rfl

/-! ## Order -/

/-- Patterns are ordered by their scales and then by their significands. -/
theorem lt_iff_scaleOf {first second : Nat} : first < second ↔
    scaleOf first < scaleOf second ∨
      scaleOf first = scaleOf second ∧ significandOf first < significandOf second := by
  unfold significandOf scaleOf
  rw [twoPow_52]
  omega

/-- A larger pattern stands for more units. -/
theorem unitsOf_strictMono : StrictMono unitsOf := by
  intro first second ordered
  unfold unitsOf
  rcases lt_iff_scaleOf.mp ordered with below | ⟨same, below⟩
  · have scaled : scaleOf second ≠ 0 := Nat.ne_zero_of_lt below
    calc significandOf first * twoPow (scaleOf first)
      _ < twoPow 53 * twoPow (scaleOf first) :=
        Nat.mul_lt_mul_of_pos_right (significandOf_lt first) (twoPow_pos _)
      _ = twoPow 52 * twoPow (scaleOf first + 1) := by
        rw [← twoPow_add, ← twoPow_add, Nat.add_comm (scaleOf first), ← Nat.add_assoc]
      _ ≤ significandOf second * twoPow (scaleOf second) :=
        Nat.mul_le_mul (significandOf_bounds scaled).1 (Nat.pow_le_pow_right (by decide) below)
  · rw [same]
    exact Nat.mul_lt_mul_of_pos_right below (twoPow_pos _)

theorem compare_of_lt {first second : Nat} (below : first < second) :
    (compare (scaleOf first - 1074 : Int) (scaleOf second - 1074)).then
      (compare (significandOf first) (significandOf second)) = .lt := by
  rcases lt_iff_scaleOf.mp below with scale | ⟨same, significand⟩
  · rw [compare_lt_iff_lt.mpr (by omega)]
    rfl
  · rw [same, compare_eq_iff_eq.mpr rfl, compare_lt_iff_lt.mpr significand]
    rfl

theorem compare_of_gt {first second : Nat} (above : second < first) :
    (compare (scaleOf first - 1074 : Int) (scaleOf second - 1074)).then
      (compare (significandOf first) (significandOf second)) = .gt := by
  rcases lt_iff_scaleOf.mp above with scale | ⟨same, significand⟩
  · rw [compare_gt_iff_gt.mpr (by omega)]
    rfl
  · rw [same, compare_eq_iff_eq.mpr rfl, compare_gt_iff_gt.mpr significand]
    rfl

/-- Positive doubles are compared like their patterns. -/
theorem compare_unpacked (first second : Nat) :
    (unpacked false first).compare (unpacked false second) = some (compare first second) := by
  by_cases left : 0 < first
  · rw [unpacked_of_filled false (significandOf_pos.mpr left) rfl rfl]
    by_cases right : 0 < second
    · rw [unpacked_of_filled false (significandOf_pos.mpr right) rfl rfl]
      apply congrArg some
      rcases lt_trichotomy first second with below | rfl | above
      · exact (compare_of_lt below).trans (compare_lt_iff_lt.mpr below).symm
      · simp
      · exact (compare_of_gt above).trans (compare_gt_iff_gt.mpr above).symm
    · obtain rfl := Nat.eq_zero_of_not_pos right
      rw [compare_gt_iff_gt.mpr left]
      rfl
  · obtain rfl := Nat.eq_zero_of_not_pos left
    by_cases right : 0 < second
    · rw [unpacked_of_filled false (significandOf_pos.mpr right) rfl rfl,
        compare_lt_iff_lt.mpr right]
      rfl
    · obtain rfl := Nat.eq_zero_of_not_pos right
      rfl

section Comparison

variable {x y : Float} {first second : Nat} (left : parts x = .finite false first)
  (right : parts y = .finite false second)

include left right

theorem lt_iff_of_finite : x < y ↔ first < second := by
  change decide ((x.toModel.unpack.compare y.toModel.unpack == some .lt) = true) = true ↔ _
  rw [unpack_of_finite left, unpack_of_finite right, compare_unpacked]
  simp [compare_lt_iff_lt]

theorem le_iff_of_finite : x ≤ y ↔ first ≤ second := by
  change decide (((x.toModel.unpack.compare y.toModel.unpack).any (·.isLE)) = true) = true ↔ _
  rw [unpack_of_finite left, unpack_of_finite right, compare_unpacked]
  simp [Nat.isLE_compare]

end Comparison

theorem abs_unpacked (negative : Bool) (pattern : Nat) :
    (unpacked negative pattern).abs = unpacked false pattern := by
  unfold unpacked
  split <;> rfl

/-- The magnitude of a finite double has its pattern and no sign. -/
theorem parts_abs {x : Float} {negative : Bool} {pattern : Nat}
    (found : parts x = .finite negative pattern) : parts x.abs = .finite false pattern := by
  have positive := parts_ofPattern false (parts_eq_finite_iff.mp found).2.2
  suffices same : x.abs = ofPattern false pattern by rw [same, positive]
  apply Float.toBits_inj.mp
  apply UInt64.toBitVec_inj.mp
  change UnpackedFloat.pack _ x.toModel.unpack.abs = _
  rw [unpack_of_finite found, abs_unpacked, ← unpack_of_finite positive]
  exact UnpackedFloat.pack_unpack_of_valid (ofPattern false pattern).toModel.valid (by decide)

/-! ## Units -/

theorem twoPow_div_twoPow (m n : Nat) : (twoPow m / twoPow n : ℚ) = 2 ^ (m - n : Int) := by
  have two : (2 : ℚ) ≠ 0 := by norm_num
  have power (k : Nat) : (twoPow k : ℚ) = 2 ^ k := Nat.cast_pow 2 k
  rw [power, power, zpow_sub₀ two, zpow_natCast, zpow_natCast]

theorem units_div_unitsPerOne (pattern : Nat) :
    (unitsOf pattern / unitsPerOne : ℚ) =
      significandOf pattern * 2 ^ (scaleOf pattern - 1074 : Int) := by
  rw [unitsOf, unitsPerOne, Nat.cast_mul, mul_div_assoc, twoPow_div_twoPow, Nat.cast_ofNat]

/-- A number with a sign in front of it. -/
def withSign (negative : Bool) (number : ℚ) : ℚ :=
  if negative then -number else number

theorem abs_withSign_sub (negative : Bool) (first second : ℚ) :
    |withSign negative first - withSign negative second| = |first - second| := by
  cases negative with
  | false => rfl
  | true => rw [withSign, withSign, if_pos rfl, if_pos rfl, neg_sub_neg, abs_sub_comm]

theorem exists_eq_of_withSign {negative : Bool} {number : ℚ} {k : Int}
    (same : withSign negative number = k) : ∃ m : Int, number = m := by
  cases negative with
  | false => exact ⟨k, same⟩
  | true => exact ⟨-k, by rw [Int.cast_neg, ← same, withSign, if_pos rfl, neg_neg]⟩

/-- A finite double is as many units as its pattern stands for. -/
theorem value_of_finite {x : Float} {negative : Bool} {pattern : Nat}
    (found : parts x = .finite negative pattern) :
    value x = withSign negative (unitsOf pattern / unitsPerOne) := by
  rw [value, unpack_of_finite found, units_div_unitsPerOne]
  by_cases filled : 0 < significandOf pattern
  · rw [unpacked_of_filled negative filled rfl rfl]
    cases negative <;> rfl
  · have zero := Nat.eq_zero_of_not_pos filled
    rw [unpacked_of_zero negative zero, zero, Nat.cast_zero, zero_mul, withSign, neg_zero,
      ite_self]
    rfl

end Gridbook.Number
