import Gridbook.Number.Shortest

/-!
# Rounding to the nearest double

A quotient that is exactly the value of a finite pattern is rounded to that pattern.  A decimal is
rounded to the same pattern however many of its zeros stand in the significand, as long as it rounds
to a finite pattern at all.  So both the exact expansion of a double and its shortest form read
back.
-/

namespace Gridbook.Number

theorem twoPow_pos (n : Nat) : 0 < twoPow n := Nat.pow_pos (by decide)

theorem tenPow_pos (n : Nat) : 0 < tenPow n := Nat.pow_pos (by decide)

theorem twoPow_add (m n : Nat) : twoPow (m + n) = twoPow m * twoPow n := Nat.pow_add 2 m n

theorem twoPow_le_fivePow (n : Nat) : twoPow n ≤ Nat.pow 5 n := Nat.pow_le_pow_left (by decide) n

theorem tenPow_eq_mul (n : Nat) : tenPow n = Nat.pow 5 n * twoPow n := Nat.mul_pow 5 2 n

/-! ## Patterns and their exact values -/

theorem scaleOf_mul_le (pattern : Nat) : scaleOf pattern * twoPow 52 ≤ pattern :=
  Nat.le_trans (Nat.mul_le_mul_right _ (Nat.sub_le _ _)) (Nat.div_mul_le_self _ _)

/-- A pattern is its scale and its significand. -/
theorem scaleOf_mul_add_significandOf (pattern : Nat) :
    scaleOf pattern * twoPow 52 + significandOf pattern = pattern :=
  Nat.add_sub_cancel' (scaleOf_mul_le pattern)

/-- A significand that is scaled has its leading bit. -/
theorem significandOf_bounds {pattern : Nat} (scaled : scaleOf pattern ≠ 0) :
    twoPow 52 ≤ significandOf pattern ∧ significandOf pattern < twoPow 53 := by
  have whole := scaleOf_mul_add_significandOf pattern
  unfold scaleOf at whole scaled
  rw [twoPow_52] at whole scaled ⊢
  rw [twoPow_53]
  omega

theorem significandOf_lt (pattern : Nat) : significandOf pattern < twoPow 53 := by
  by_cases scaled : scaleOf pattern = 0
  · have whole := scaleOf_mul_add_significandOf pattern
    unfold scaleOf at whole scaled
    rw [twoPow_52] at whole scaled
    rw [twoPow_53]
    omega
  · exact (significandOf_bounds scaled).2

/-- Only the pattern of zero has no significand. -/
theorem significandOf_pos {pattern : Nat} : 0 < significandOf pattern ↔ 0 < pattern := by
  unfold significandOf scaleOf
  rw [twoPow_52]
  omega

/-- The leading bit of a pattern's value tells its scale. -/
theorem log2_unitsOf (pattern : Nat) : Nat.log2 (unitsOf pattern) - 52 = scaleOf pattern := by
  unfold unitsOf
  by_cases scaled : scaleOf pattern = 0
  · rw [scaled, show twoPow 0 = 1 from rfl, Nat.mul_one]
    by_cases zero : significandOf pattern = 0
    · rw [zero, Nat.log2_zero]
    · have leading : Nat.log2 (significandOf pattern) < 53 :=
        (Nat.log2_lt zero).2 (significandOf_lt pattern)
      omega
  · obtain ⟨lower, upper⟩ := significandOf_bounds scaled
    have positive : 0 < twoPow (scaleOf pattern) := twoPow_pos _
    have nonzero : significandOf pattern * twoPow (scaleOf pattern) ≠ 0 :=
      Nat.pos_iff_ne_zero.mp (Nat.mul_pos (Nat.lt_of_lt_of_le (twoPow_pos 52) lower) positive)
    have leading : Nat.log2 (significandOf pattern * twoPow (scaleOf pattern)) =
        52 + scaleOf pattern := by
      rw [Nat.log2_eq_iff nonzero]
      constructor
      · change twoPow (52 + scaleOf pattern) ≤ _
        rw [twoPow_add]
        exact Nat.mul_le_mul_right _ lower
      · change _ < twoPow (52 + scaleOf pattern + 1)
        rw [Nat.add_right_comm, twoPow_add]
        exact Nat.mul_lt_mul_of_pos_right upper positive
    rw [leading]
    omega

/-- A quotient without remainder is its own rounding. -/
theorem roundQuotient_mul {divisor : Nat} (n : Nat) (positive : 0 < divisor) :
    roundQuotient (n * divisor) divisor = n := by
  unfold roundQuotient
  rw [Nat.mul_mod_left, Nat.mul_div_cancel _ positive]
  exact if_pos positive

/-- The exact value of a finite pattern is rounded to that pattern. -/
theorem nearest_of_units {dividend divisor pattern : Nat} (positive : 0 < divisor)
    (finite : pattern < infinityPattern)
    (exactly : dividend * unitsPerOne = unitsOf pattern * divisor) :
    nearest dividend divisor = pattern := by
  have split : unitsOf pattern * divisor =
      significandOf pattern * (divisor * twoPow (scaleOf pattern)) := by
    rw [unitsOf, Nat.mul_assoc, Nat.mul_comm divisor]
  unfold nearest
  dsimp only
  rw [exactly, Nat.mul_div_cancel _ positive, log2_unitsOf, split,
    roundQuotient_mul _ (Nat.mul_pos positive (twoPow_pos _)), scaleOf_mul_add_significandOf]
  exact Nat.min_eq_right (Nat.le_of_lt finite)

/-! ## Decimals -/

/-- Zeros at the end of the significand count like a power of ten behind it. -/
theorem nearestDecimal_mul_tenPow {significand exponent pattern : Nat}
    (found : nearestDecimal significand exponent = pattern) (finite : pattern < infinityPattern) :
    nearestDecimal (significand * tenPow exponent) 0 = pattern := by
  unfold nearestDecimal at found ⊢
  by_cases zero : significand = 0
  · rw [if_pos zero] at found
    rw [zero, Nat.zero_mul, if_pos rfl]
    exact found
  · have nonzero : significand * tenPow exponent ≠ 0 :=
      Nat.pos_iff_ne_zero.mp (Nat.mul_pos (Nat.pos_of_ne_zero zero) (tenPow_pos _))
    rw [if_neg zero] at found
    rw [if_neg nonzero, if_neg (by decide), if_neg (by omega), if_pos (by decide)]
    by_cases large : (400 : Int) < exponent
    · rw [if_pos large] at found
      exact absurd found (Nat.ne_of_gt finite)
    · rw [if_neg large, if_neg (by omega), if_pos (by omega), Int.toNat_natCast] at found
      rw [Int.toNat_zero, show tenPow 0 = 1 from rfl, Nat.mul_one]
      exact found

theorem unitsOf_pos {pattern : Nat} (nonzero : pattern ≠ 0) : 0 < unitsOf pattern :=
  Nat.mul_pos (significandOf_pos.mpr (Nat.pos_of_ne_zero nonzero)) (twoPow_pos _)

/-- A finite pattern's value is a decimal with as many places as a unit has, and is rounded to the
pattern. -/
theorem nearestDecimal_units {places pattern : Nat} (unit : unitsPerOne = twoPow places)
    (positive : 0 < places) (nonzero : pattern ≠ 0) (finite : pattern < infinityPattern) :
    nearestDecimal (unitsOf pattern * Nat.pow 5 places) (-places) = pattern := by
  have large : twoPow places ≤ unitsOf pattern * Nat.pow 5 places :=
    Nat.le_trans (twoPow_le_fivePow places) (Nat.le_mul_of_pos_left _ (unitsOf_pos nonzero))
  have value : unitsOf pattern * Nat.pow 5 places * unitsPerOne =
      unitsOf pattern * tenPow places := by
    rw [tenPow_eq_mul, Nat.mul_assoc, unit]
  generalize unitsOf pattern * Nat.pow 5 places = significand at large value
  have significant : significand ≠ 0 :=
    Nat.pos_iff_ne_zero.mp (Nat.lt_of_lt_of_le (twoPow_pos _) large)
  have leading : places ≤ Nat.log2 significand := (Nat.le_log2 significant).2 large
  unfold nearestDecimal
  rw [if_neg significant, if_neg (by omega), if_neg (by omega), if_neg (by omega), Int.neg_neg,
    Int.toNat_natCast]
  exact nearest_of_units (tenPow_pos _) finite value

/-- The shortest form of a finite pattern reads back. -/
theorem nearestDecimal_shortest {pattern : Nat} (finite : pattern < infinityPattern) :
    nearestDecimal (Scaled.shortest pattern).significand (Scaled.shortest pattern).exponent =
      pattern := by
  unfold Scaled.shortest
  by_cases zero : pattern = 0
  · rw [if_pos zero, zero]
    rfl
  · rw [if_neg zero]
    apply beq_iff_eq.mp
    change Scaled.readsAs _ pattern = true
    cases found : (List.range 17).findSome? fun index => Scaled.neighbour? pattern (index + 1) with
    | none =>
        have unit : unitsPerOne = twoPow 1074 := rfl
        have positive : 0 < 1074 := by decide
        rw [Option.getD_none, Scaled.readsAs, Scaled.exact,
          show (-1074 : Int) = -(1074 : Nat) from rfl]
        -- the powers are too large to be computed
        generalize 1074 = places at unit positive ⊢
        exact beq_iff_eq.mpr (nearestDecimal_units unit positive zero finite)
    | some number =>
        obtain ⟨index, _, chosen⟩ := List.exists_of_findSome?_eq_some found
        exact Scaled.neighbour?_readsAs chosen

end Gridbook.Number
