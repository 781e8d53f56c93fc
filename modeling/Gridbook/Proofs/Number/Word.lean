import Gridbook.Number.Double
import Mathlib

/-!
# Doubles and their words

A double is made again from the word of sixty-four bits that it is kept in, and there is only one
word for what is no number.  So the parts that a double is taken into determine it: sign and pattern
make up its word, and a finite pattern is found in that word again.
-/

namespace Gridbook.Number

open Float.Model
open Float.Model.UnpackedFloat (unpackExponent unpackMantissa unpackSign)

/-! ## Fields of a word -/

theorem toNat_unpackExponent (word : UInt64) :
    (@unpackExponent Format.binary64 word.toBitVec).toNat = word.toNat / twoPow 52 % 2048 := by
  rw [unpackExponent, BitVec.toNat_cast, BitVec.extractLsb_toNat, Nat.shiftRight_eq_div_pow]
  rfl

theorem toNat_unpackMantissa (word : UInt64) :
    (@unpackMantissa Format.binary64 word.toBitVec).toNat = word.toNat % twoPow 52 := by
  rw [unpackMantissa, BitVec.toNat_cast, BitVec.extractLsb_toNat, Nat.shiftRight_zero]
  rfl

theorem toNat_unpackSign (word : UInt64) :
    (@unpackSign Format.binary64 word.toBitVec).toNat = word.toNat / twoPow 63 % 2 := by
  rw [unpackSign, BitVec.toNat_cast, BitVec.extractLsb_toNat, Nat.shiftRight_eq_div_pow]
  rfl

/-- The words of what is infinite or no number are those with the largest exponent. -/
theorem unpackExponent_eq_top_iff (word : UInt64) :
    @unpackExponent Format.binary64 word.toBitVec = -1#11 ↔
      infinityPattern ≤ word.toNat % twoPow 63 := by
  have exponent := toNat_unpackExponent word
  have top : (-1#11).toNat = 2047 := by decide
  have same := @BitVec.toNat_inj 11 (@unpackExponent Format.binary64 word.toBitVec) (-1#11)
  rw [← same, exponent, top, twoPow_52, twoPow_63, infinityPattern_eq]
  omega

/-- The word of a finite double is kept. -/
theorem toBits_ofBits {word : UInt64} (finite : word.toNat % twoPow 63 < infinityPattern) :
    (Float.ofBits word).toBits = word := by
  apply UInt64.toBitVec_inj.mp
  refine UnpackedFloat.pack_unpack_of_valid ⟨fun top _ => ?_⟩ (by decide)
  exact absurd ((unpackExponent_eq_top_iff word).mp top) (Nat.not_le.mpr finite)

/-! ## Parts of a double -/

/-- The double of a sign and a pattern is the one whose word they make up. -/
theorem ofPattern_eq {x : Float} {negative : Bool} {pattern : Nat}
    (word : (if negative then twoPow 63 + pattern else pattern) = x.toBits.toNat) :
    ofPattern negative pattern = x := by
  unfold ofPattern
  rw [word, UInt64.ofNat_toNat, Float.ofBits_toBits]

/-- The sign and the last sixty-three bits make up the word. -/
theorem ofPattern_toBits (x : Float) :
    ofPattern (decide (twoPow 63 ≤ x.toBits.toNat)) (x.toBits.toNat % twoPow 63) = x := by
  apply ofPattern_eq
  have bound := x.toBits.toNat_lt
  simp only [twoPow_63, decide_eq_true_eq]
  split <;> omega

/-- A double is finite if its last sixty-three bits are below those of infinity. -/
theorem parts_eq_finite_iff {x : Float} {negative : Bool} {pattern : Nat} :
    parts x = .finite negative pattern ↔ decide (twoPow 63 ≤ x.toBits.toNat) = negative ∧
      x.toBits.toNat % twoPow 63 = pattern ∧ pattern < infinityPattern := by
  unfold parts
  dsimp only
  split
  · rename_i above
    exact iff_of_false nofun fun ⟨_, same, below⟩ => Nat.lt_asymm above (same ▸ below)
  · rename_i notAbove
    split
    · rename_i infinite
      exact iff_of_false nofun fun ⟨_, same, below⟩ => Nat.ne_of_lt (same ▸ below) infinite
    · rename_i notInfinite
      have below := Nat.lt_of_le_of_ne (Nat.not_lt.mp notAbove) notInfinite
      rw [Parts.finite.injEq]
      exact and_congr_right fun _ =>
        ⟨fun same => ⟨same, same ▸ below⟩, fun both => both.1⟩

theorem ofPattern_of_finite {x : Float} {negative : Bool} {pattern : Nat}
    (found : parts x = .finite negative pattern) :
    ofPattern negative pattern = x ∧ pattern < infinityPattern := by
  obtain ⟨rfl, rfl, below⟩ := parts_eq_finite_iff.mp found
  exact ⟨ofPattern_toBits x, below⟩

/-- A finite pattern and a sign are the parts of the double that they make up. -/
theorem parts_ofPattern (negative : Bool) {pattern : Nat} (finite : pattern < infinityPattern) :
    parts (ofPattern negative pattern) = .finite negative pattern := by
  have whole : (UInt64.ofNat (if negative then twoPow 63 + pattern else pattern)).toNat =
      if negative then twoPow 63 + pattern else pattern := by
    rw [infinityPattern_eq] at finite
    rw [twoPow_63, UInt64.toNat_ofNat', Nat.mod_eq_of_lt]
    split <;> omega
  have rest : (if negative then twoPow 63 + pattern else pattern) % twoPow 63 = pattern := by
    rw [infinityPattern_eq] at finite
    rw [twoPow_63]
    split <;> omega
  have kept := toBits_ofBits (whole.symm ▸ rest.symm ▸ finite)
  rw [parts_eq_finite_iff, ofPattern, kept, whole]
  refine ⟨?_, rest, finite⟩
  cases negative with
  | false =>
      rw [infinityPattern_eq] at finite
      rw [twoPow_63]
      exact decide_eq_false (by simp; omega)
  | true => exact decide_eq_true (Nat.le_add_right _ _)

theorem ofPattern_of_infinite {x : Float} {negative : Bool}
    (found : parts x = .infinite negative) : ofPattern negative infinityPattern = x := by
  unfold parts at found
  dsimp only at found
  split at found
  · cases found
  · split at found
    · rename_i infinite
      obtain rfl := Parts.infinite.inj found
      rw [← infinite]
      exact ofPattern_toBits x
    · cases found

/-- There is only one double that is no number. -/
theorem ofPattern_of_nan {x : Float} (found : parts x = .nan) :
    ofPattern false (infinityPattern + twoPow 51) = x := by
  have above : infinityPattern < x.toBits.toNat % twoPow 63 := by
    unfold parts at found
    dsimp only at found
    split at found
    · assumption
    · split at found <;> cases found
  have top := (unpackExponent_eq_top_iff x.toBits).mpr above.le
  have rest : @unpackMantissa Format.binary64 x.toBits.toBitVec ≠ 0#_ := by
    intro zero
    have fraction := toNat_unpackMantissa x.toBits
    rw [zero, BitVec.toNat_zero, twoPow_52] at fraction
    rw [twoPow_63, infinityPattern_eq] at above
    omega
  apply ofPattern_eq
  have word := x.toModel.valid.eq_packedNaN top rest
  exact (congrArg BitVec.toNat word).symm

end Gridbook.Number
