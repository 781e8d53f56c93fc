import Gridbook.Address
import Gridbook.Proofs.Text.Runs
import Mathlib.Algebra.Group.Nat.Defs

/-!
# Coordinates in text

A coordinate is a run of decimal digits, perhaps behind a sign, whose value fits a signed word.  Two
of them that count from one make an address, whose row and column count from zero.
-/

namespace Gridbook

namespace Text

variable {s : List Char} {m : Nat}

theorem coordinateLimit_eq : coordinateLimit = 2 ^ 63 := by decide

theorem isDigit_of_natural? (read : natural? s = some m) : ∀ c ∈ s, c.isDigit = true :=
  (natural?_eq_some_iff.mp read).1.digits

theorem coordinate?_of_unsigned (unsigned : ∀ c ∈ s.head?, c.isDigit = true) :
    coordinate? s = coordinate?.unsigned s := by
  unfold coordinate?
  split
  · exact absurd (unsigned '-' rfl) (by decide)
  · exact absurd (unsigned '+' rfl) (by decide)
  · rfl

/-- Digits are read as a coordinate if their number lies below the limit, whatever their length. -/
theorem coordinate?_of_natural? (read : natural? s = some m) :
    coordinate? s = if m < coordinateLimit then some (Int64.ofNat m) else none := by
  have unsigned : ∀ c ∈ s.head?, c.isDigit = true := fun c first =>
    isDigit_of_natural? read c (List.mem_of_mem_head? first)
  rw [coordinate?_of_unsigned unsigned, coordinate?.unsigned, read, Option.bind_some]

/-- The digits of a number below the limit are read as a coordinate. -/
theorem coordinate?_digits (bound : m < coordinateLimit) :
    coordinate? (digits m) = some (Int64.ofNat m) := by
  rw [coordinate?_of_natural? (natural?_digits m), if_pos bound]

/-- Decimal digits, perhaps behind a minus sign. -/
inductive SignedRun : List Char → Prop where
  | plain {s : List Char} (run : DigitRun s) : SignedRun s
  | negated {s : List Char} (run : DigitRun s) : SignedRun ('-' :: s)

end Text

open Text

/-- The address of two coordinates counts from zero what they count from one. -/
theorem Address.ofCoordinates?_eq_some_iff {row col : Int64} {a : Address} :
    ofCoordinates? row col = some a ↔ row.toInt = a.row + 1 ∧ col.toInt = a.col + 1 := by
  unfold ofCoordinates?
  constructor
  · intro found
    split at found
    case isFalse => cases found
    case isTrue positive =>
      obtain rfl := Option.some.inj found
      dsimp only
      omega
  · rintro ⟨rows, cols⟩
    have sameRow : (row.toInt - 1).toNat = a.row := by omega
    have sameCol : (col.toInt - 1).toNat = a.col := by omega
    rw [if_pos (by omega), sameRow, sameCol]

end Gridbook
