import Gridbook.Proofs.Number.Nearest
import Gridbook.Proofs.Number.Word
import Gridbook.Proofs.Text.Runs

/-!
# Doubles are read back from their text

The text of a double in positional notation is read as the same double, whether it is finite,
infinite, a zero with a sign, or no number.  Nothing is assumed of the shortest digits but that they
round to the pattern they were chosen for.
-/

namespace Gridbook.Number

open Gridbook.Text

/-! ## Decimals -/

theorem isDigit_of_mem_lastDigits {count n : Nat} {c : Char}
    (mem : c ∈ Decimal.lastDigits count n) : c.isDigit = true := by
  induction count generalizing n with
  | zero => cases mem
  | succ count ih =>
      rcases List.mem_append.mp mem with earlier | last
      · exact ih earlier
      · rw [List.mem_singleton.mp last, Nat.isDigit_digitChar]
        exact decide_eq_true (Nat.mod_lt _ (by decide))

/-- The leading digits and the last ones are all digits of the number. -/
theorem ofDigits_append_lastDigits (places n : Nat) :
    ofDigits (digits (n / tenPow places) ++ Decimal.lastDigits places n) = n := by
  induction places generalizing n with
  | zero =>
      rw [show tenPow 0 = 1 from rfl, Nat.div_one, Decimal.lastDigits, List.append_nil]
      exact ofDigits_digits n
  | succ places ih =>
      have leading : n / tenPow (places + 1) = n / 10 / tenPow places := by
        rw [tenPow_succ, Nat.mul_comm, Nat.div_div_eq_div_mul]
      have earlier := ih (n / 10)
      unfold ofDigits at earlier ⊢
      rw [leading, Decimal.lastDigits, ← List.append_assoc, Nat.ofDigitChars_append, earlier,
        Nat.ofDigitChars_cons_digitChar_of_lt_ten (Nat.mod_lt _ (by decide)), Nat.ofDigitChars_nil]
      exact Nat.div_add_mod n 10

/-- What stands before the places of a decimal, and the point with its places. -/
theorem Decimal.text_eq (d : Decimal) : ∃ whole places rest, d.text = digits whole ++ rest ∧
    fraction rest = (places, []) ∧ (∀ c ∈ rest.head?, c.isDigit = false) ∧
    ofDigits (digits whole ++ places) = d.significand ∧ places.length = d.places := by
  unfold Decimal.text
  by_cases none : d.places = 0
  · refine ⟨d.significand, [], [], ?_, rfl, fun c mem => (nomatch mem), ?_, none.symm⟩
    · rw [if_pos none, List.append_nil]
    · rw [List.append_nil]
      exact ofDigits_digits _
  · have all : ∀ c ∈ lastDigits d.places d.significand, c.isDigit = true :=
      fun _ => isDigit_of_mem_lastDigits
    refine ⟨d.significand / tenPow d.places, lastDigits d.places d.significand,
      '.' :: lastDigits d.places d.significand, if_neg none, ?_, ?_,
      ofDigits_append_lastDigits _ _, length_lastDigits _ _⟩
    · have run := @takeWhile_run Char.isDigit _ [] all (fun _ mem => nomatch mem)
      have rest := @dropWhile_run Char.isDigit _ [] all (fun _ mem => nomatch mem)
      rw [List.append_nil] at run rest
      exact Prod.ext run rest
    · intro c mem
      obtain rfl := Option.some.inj mem
      rfl

/-- A decimal is read back as its significand and a power of ten. -/
theorem decimal?_text (d : Decimal) :
    decimal? d.text = some (d.significand, -(d.places : Int)) := by
  obtain ⟨whole, places, rest, text, behind, stop, value, count⟩ := d.text_eq
  have all : ∀ c ∈ digits whole, c.isDigit = true := fun _ => isDigit_of_mem_digits
  unfold decimal?
  rw [text, takeWhile_run all stop, dropWhile_run all stop, behind]
  dsimp only
  rw [if_neg (fun none => digits_ne_nil whole none.1), value, count]
  exact congrArg (fun e => some (d.significand, e)) (Int.zero_sub _)

/-- The decimal that is written for a number in digits has the same value. -/
theorem nearestDecimal_ofScaled {significand pattern : Nat} {exponent : Int}
    (found : nearestDecimal significand exponent = pattern) (finite : pattern < infinityPattern) :
    nearestDecimal (Decimal.ofScaled significand exponent).significand
      (-((Decimal.ofScaled significand exponent).places : Int)) = pattern := by
  unfold Decimal.ofScaled
  by_cases whole : 0 ≤ exponent
  · obtain ⟨zeros, rfl⟩ := Int.eq_ofNat_of_zero_le whole
    rw [if_pos whole]
    exact nearestDecimal_mul_tenPow found finite
  · rw [if_neg whole]
    dsimp only
    rw [Int.toNat_of_nonneg (by omega), Int.neg_neg]
    exact found

/-! ## Signs and words -/

/-- A text that starts with a digit is none of the words. -/
theorem magnitude?_of_digit {s : List Char} {significand : Nat} {exponent : Int} {c : Char}
    (first : c ∈ s.head?) (digit : c.isDigit = true)
    (read : decimal? s = some (significand, exponent)) :
    magnitude? s = some (nearestDecimal significand exponent) := by
  have head : (s.map Char.toLower).head? = some c := by
    rw [List.head?_map, first, Option.map_some, toLower_of_isDigit digit]
  have apart (word : List Char) (letter : word.head?.any Char.isDigit = false) :
      s.map Char.toLower ≠ word := by
    intro same
    rw [← same, head, Option.any_some, digit] at letter
    cases letter
  unfold magnitude?
  dsimp only
  rw [if_neg (not_or.mpr ⟨apart _ rfl, apart _ rfl⟩), if_neg (apart _ rfl), read]
  rfl

/-- A sign before a magnitude is read as the sign of the double. -/
theorem read?_signed (negative : Bool) {s : List Char}
    (unsigned : ∀ c ∈ s.head?, c ≠ '-' ∧ c ≠ '+') :
    read? (signed negative s) = (magnitude? s).map (ofPattern negative) := by
  cases negative with
  | true => rfl
  | false =>
      change read? s = _
      unfold read?
      split
      · exact absurd rfl (unsigned _ rfl).1
      · exact absurd rfl (unsigned _ rfl).2
      · rfl

theorem head?_text (d : Decimal) : ∃ c ∈ d.text.head?, c.isDigit = true := by
  obtain ⟨whole, _, rest, text, _⟩ := d.text_eq
  rw [text]
  cases first : (digits whole ++ rest).head? with
  | none =>
      have both := List.append_eq_nil_iff.mp (List.head?_eq_none_iff.mp first)
      exact absurd both.1 (digits_ne_nil whole)
  | some c => exact ⟨c, rfl, isDigit_of_head?_digits first⟩

/-- A double is read back from its text in positional notation. -/
theorem read?_positional (x : Float) : read? (positional x) = some x := by
  unfold positional
  split
  · rename_i nan
    exact congrArg some (ofPattern_of_nan nan)
  · rename_i negative infinite
    have unsigned : ∀ c ∈ "inf".toList.head?, c ≠ '-' ∧ c ≠ '+' := by
      rintro c ⟨⟩
      decide
    rw [read?_signed negative unsigned]
    exact congrArg some (ofPattern_of_infinite infinite)
  · rename_i negative pattern found
    obtain ⟨same, finite⟩ := ofPattern_of_finite found
    dsimp only
    generalize written : Decimal.ofScaled (Scaled.shortest pattern).significand
      (Scaled.shortest pattern).exponent = d
    have value := nearestDecimal_ofScaled (nearestDecimal_shortest finite) finite
    rw [written] at value
    obtain ⟨c, first, digit⟩ := head?_text d
    have unsigned : ∀ c ∈ d.text.head?, c ≠ '-' ∧ c ≠ '+' := by
      intro other mem
      obtain rfl := Option.some.inj (first.symm.trans mem)
      constructor
      · rintro rfl
        cases digit
      · rintro rfl
        cases digit
    rw [read?_signed negative unsigned, magnitude?_of_digit first digit (decimal?_text d), value]
    exact congrArg some same

/-! ## The characters of a double's text -/

/-- What a double's text is made of. -/
def isNumeral (c : Char) : Bool :=
  c.isDigit || ['-', '.', 'N', 'a', 'i', 'n', 'f'].contains c

theorem isNumeral_of_isDigit {c : Char} (digit : c.isDigit = true) : isNumeral c = true := by
  rw [isNumeral, digit, Bool.true_or]

theorem isNumeral_of_mem_text {d : Decimal} {c : Char} (mem : c ∈ d.text) : isNumeral c = true := by
  unfold Decimal.text at mem
  split at mem
  · exact isNumeral_of_isDigit (isDigit_of_mem_digits mem)
  · rcases List.mem_append.mp mem with leading | behind
    · exact isNumeral_of_isDigit (isDigit_of_mem_digits leading)
    · rcases List.mem_cons.mp behind with rfl | last
      · rfl
      · exact isNumeral_of_isDigit (isDigit_of_mem_lastDigits last)

theorem isNumeral_of_mem_signed {negative : Bool} {s : List Char}
    (all : ∀ c ∈ s, isNumeral c = true) : ∀ c ∈ signed negative s, isNumeral c = true := by
  intro c mem
  cases negative with
  | false => exact all c mem
  | true =>
      rcases List.mem_cons.mp mem with rfl | rest
      · rfl
      · exact all c rest

theorem isNumeral_of_mem_positional {x : Float} {c : Char} (mem : c ∈ positional x) :
    isNumeral c = true := by
  unfold positional at mem
  split at mem
  · exact List.all_eq_true.mp (by decide) c mem
  · exact isNumeral_of_mem_signed (List.all_eq_true.mp (by decide)) c mem
  · exact isNumeral_of_mem_signed (fun _ => isNumeral_of_mem_text) c mem

/-- The text of a double holds no white space. -/
theorem isBlank_of_isNumeral {c : Char} (numeral : isNumeral c = true) : isBlank c = false := by
  rcases Bool.or_eq_true _ _ |>.mp numeral with digit | sign
  · exact isBlank_of_isDigit digit
  · have each : ['-', '.', 'N', 'a', 'i', 'n', 'f'].all (fun d => !isBlank d) = true := by decide
    exact Bool.not_eq_true' _ |>.mp (List.all_eq_true.mp each c (List.contains_iff_mem.mp sign))

end Gridbook.Number
