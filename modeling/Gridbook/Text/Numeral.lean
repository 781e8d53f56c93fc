import Gridbook.Power

/-!
# Whole numbers in text

Numbers are written in decimal digits without leading zeros.  They are read with any number of
leading zeros, and only within the sixty-four bits that a count or a signed coordinate has.
-/

namespace Gridbook.Text

def digits (n : Nat) : List Char :=
  Nat.toDigits 10 n

def ofDigits (s : List Char) : Nat :=
  Nat.ofDigitChars 10 s 0

theorem ofDigits_digits (n : Nat) : ofDigits (digits n) = n :=
  Nat.ofDigitChars_ten_toDigits

theorem digits_ne_nil (n : Nat) : digits n ≠ [] :=
  Nat.toDigits_ne_nil

theorem isDigit_of_mem_digits {n : Nat} {c : Char} (h : c ∈ digits n) : c.isDigit = true :=
  Nat.isDigit_of_mem_toDigits (by decide) (by decide) h

theorem notMem_digits {c : Char} (h : c.isDigit = false) (n : Nat) : c ∉ digits n := by
  intro mem
  cases h.symm.trans (isDigit_of_mem_digits mem)

/-- A number given by one or more decimal digits and nothing else. -/
def natural? (s : List Char) : Option Nat :=
  if s ≠ [] ∧ s.all Char.isDigit then some (ofDigits s) else none

theorem natural?_digits (n : Nat) : natural? (digits n) = some n := by
  have all : (digits n).all Char.isDigit = true :=
    List.all_eq_true.2 fun _ mem => isDigit_of_mem_digits mem
  simp [natural?, digits_ne_nil, all, ofDigits_digits]

def countLimit : Nat := twoPow 64

theorem countLimit_pos : 0 < countLimit := by decide

/-- A count: decimal digits, perhaps after a plus sign, whose value lies below the limit. -/
def count? (s : List Char) : Option Nat :=
  let body := match s with
    | '+' :: rest => rest
    | _ => s
  (natural? body).filter (· < countLimit)

/-- Coordinates in formulas and addresses in text stay below this bound. -/
def coordinateLimit : Nat := twoPow 63

/-- A signed coordinate: decimal digits, perhaps after a sign, whose value fits sixty-four bits. -/
def coordinate? : List Char → Option Int64
  | '-' :: rest =>
      (natural? rest).bind fun n => if n ≤ coordinateLimit then some (-(Int64.ofNat n)) else none
  | '+' :: rest => unsigned rest
  | s => unsigned s
where
  unsigned (s : List Char) : Option Int64 :=
    (natural? s).bind fun n => if n < coordinateLimit then some (Int64.ofNat n) else none

end Gridbook.Text
