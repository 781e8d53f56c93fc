import Gridbook.Proofs.Grid.Contents

/-!
# Extents and places in words

Rows, columns and places are counts that are kept in words of sixty-four bits.  A product or a sum
of words may be too large for a word, and nothing is divided by zero, so that these operations can
fail.  Shrinking an extent, counting its cells and going from addresses to places and back are
carried out in words without a failure, and with the same results as in numbers.
-/

namespace Gridbook

/-! ## Operations on words -/

namespace Count

variable {m n p : UInt64}

/-- The product of two words, unless it is too large for a word. -/
def product? (m n : UInt64) : Option UInt64 :=
  if BitVec.umulOverflow m.toBitVec n.toBitVec then none else some (m * n)

/-- The sum of two words, unless it is too large for a word. -/
def sum? (m n : UInt64) : Option UInt64 :=
  if BitVec.uaddOverflow m.toBitVec n.toBitVec then none else some (m + n)

/-- The quotient of two words, unless the second one is zero. -/
def quotient? (m n : UInt64) : Option UInt64 :=
  if n = 0 then none else some (m / n)

/-- The remainder of two words, unless the second one is zero. -/
def remainder? (m n : UInt64) : Option UInt64 :=
  if n = 0 then none else some (m % n)

/-- A word that wraps around is kept exactly if it has the value of the number it stands for. -/
theorem checked_eq_some_iff {value : Nat} (wraps : m.toNat = value % UInt64.size) :
    (if decide (UInt64.size ≤ value) then none else some m) = some p ↔ value = p.toNat := by
  have bound : p.toNat < UInt64.size := p.toNat_lt
  split
  case isTrue large =>
    rw [decide_eq_true_eq] at large
    exact iff_of_false nofun (by omega)
  case isFalse small =>
    rw [decide_eq_true_eq, Nat.not_le] at small
    rw [Option.some.injEq, ← UInt64.toNat_inj, wraps, Nat.mod_eq_of_lt small]

theorem product?_eq_some_iff : product? m n = some p ↔ m.toNat * n.toNat = p.toNat :=
  checked_eq_some_iff (UInt64.toNat_mul m n)

theorem sum?_eq_some_iff : sum? m n = some p ↔ m.toNat + n.toNat = p.toNat :=
  checked_eq_some_iff (UInt64.toNat_add m n)

theorem quotient?_of_ne (nonzero : n ≠ 0) : quotient? m n = some (m / n) :=
  if_neg nonzero

theorem remainder?_of_ne (nonzero : n ≠ 0) : remainder? m n = some (m % n) :=
  if_neg nonzero

end Count

namespace Extent

open Gridbook.Count

/-! ## Extents -/

/-- The extent with some words as its dimensions. -/
def ofWords (rows cols : UInt64) : Extent :=
  ⟨rows.toNat, cols.toNat⟩

/-- The largest number of cells that a grid may hold, as a word. -/
def mostCells : UInt64 :=
  UInt64.ofNat maxCells

/-- Whether the cells of an extent can be counted in a word and are not too many. -/
def fitsWords (rows cols : UInt64) : Bool :=
  (product? rows cols).any (· ≤ mostCells)

/-- The rows and columns to which an extent is shrunk, in words. -/
def shrunkWords? (rows cols : UInt64) : Option (UInt64 × UInt64) :=
  if fitsWords rows cols then some (rows, cols)
  else
    let kept := min rows mostCells
    (quotient? mostCells (max kept 1)).map fun widest => (kept, min cols widest)

variable {rows cols : UInt64}

theorem toNat_mostCells : mostCells.toNat = maxCells := by
  decide

/-- Counting the cells in a word tells correctly whether they are too many. -/
theorem fitsWords_iff : fitsWords rows cols = true ↔ (ofWords rows cols).Fits := by
  rw [fitsWords, Option.any_eq_true]
  constructor
  · rintro ⟨cells, counted, few⟩
    rw [decide_eq_true_eq, UInt64.le_iff_toNat_le, toNat_mostCells] at few
    exact Nat.le_trans (Nat.le_of_eq (product?_eq_some_iff.mp counted)) few
  · intro fits
    have word : (UInt64.ofNat (ofWords rows cols).area).toNat = (ofWords rows cols).area :=
      UInt64.toNat_ofNat_of_lt' (Nat.lt_of_le_of_lt fits (by decide))
    refine ⟨_, product?_eq_some_iff.mpr word.symm, ?_⟩
    rw [decide_eq_true_eq, UInt64.le_iff_toNat_le, word, toNat_mostCells]
    exact fits

/-- In words an extent is shrunk as in numbers. -/
theorem exists_shrunkWords? (rows cols : UInt64) :
    ∃ r c, shrunkWords? rows cols = some (r, c) ∧ (ofWords rows cols).shrunk = ofWords r c := by
  by_cases fits : (ofWords rows cols).Fits
  · exact ⟨rows, cols, if_pos (fitsWords_iff.mpr fits), if_pos fits⟩
  · have divisor : max (min rows mostCells) 1 ≠ 0 := by
      intro zero
      have least := congrArg UInt64.toNat zero
      rw [UInt64.toNat_max, UInt64.toNat_one, UInt64.toNat_zero] at least
      omega
    refine ⟨min rows mostCells, min cols (mostCells / max (min rows mostCells) 1), ?_, ?_⟩
    · rw [shrunkWords?, if_neg (mt fitsWords_iff.mp fits)]
      dsimp only
      rw [quotient?_of_ne divisor, Option.map_some]
    · rw [shrunk, if_neg fits]
      simp only [ofWords, UInt64.toNat_min, UInt64.toNat_max, UInt64.toNat_div, toNat_mostCells,
        UInt64.toNat_one]

/-! ## Places -/

/-- The place of an address among cells with so many columns, in words. -/
def placeInWords? (cols row col : UInt64) : Option UInt64 :=
  (product? row cols).bind fun start => sum? start col

/-- The row and the column of a place among cells with so many columns, in words. -/
def addressInWords? (cols place : UInt64) : Option (UInt64 × UInt64) :=
  (quotient? place cols).bind fun row => (remainder? place cols).map fun col => (row, col)

/-- An extent that fits has a word for the number of its cells. -/
theorem exists_area (fits : (ofWords rows cols).Fits) :
    ∃ cells, product? rows cols = some cells ∧ cells.toNat = (ofWords rows cols).area := by
  obtain ⟨cells, counted, _⟩ := Option.any_eq_true _ _ |>.mp (fitsWords_iff.mpr fits)
  exact ⟨cells, counted, (product?_eq_some_iff.mp counted).symm⟩

/-- An address inside has a word for its place. -/
theorem exists_placeInWords? {row col : UInt64} (fits : (ofWords rows cols).Fits)
    (inside : (ofWords rows cols).Contains ⟨row.toNat, col.toNat⟩) :
    ∃ place, placeInWords? cols row col = some place ∧
      place.toNat = (ofWords rows cols).position ⟨row.toNat, col.toNat⟩ := by
  have small : (ofWords rows cols).position ⟨row.toNat, col.toNat⟩ < UInt64.size :=
    Nat.lt_of_lt_of_le (position_lt inside) (Nat.le_trans fits (by decide))
  have word {n : Nat} (below : n < UInt64.size) : n = (UInt64.ofNat n).toNat :=
    (UInt64.toNat_ofNat_of_lt' below).symm
  have start := word (Nat.lt_of_le_of_lt (Nat.le_add_right (row.toNat * cols.toNat) _) small)
  have place := word small
  refine ⟨_, ?_, place.symm⟩
  rw [placeInWords?, product?_eq_some_iff.mpr start, Option.bind_some, sum?_eq_some_iff, ← start]
  exact place

/-- The place of a cell has words for its row and its column. -/
theorem exists_addressInWords? {place : UInt64} (inside : place.toNat < (ofWords rows cols).area) :
    ∃ row col, addressInWords? cols place = some (row, col) ∧
      (ofWords rows cols).address place.toNat = ⟨row.toNat, col.toNat⟩ := by
  have divisor : cols ≠ 0 := by
    rintro rfl
    exact Nat.not_lt_zero _ inside
  refine ⟨place / cols, place % cols, ?_, ?_⟩
  · rw [addressInWords?, quotient?_of_ne divisor, remainder?_of_ne divisor]
    rfl
  · rw [UInt64.toNat_div, UInt64.toNat_mod]
    rfl

end Extent

end Gridbook
