import Gridbook.Address
import Gridbook.Proofs.Text.Runs

/-!
# Addresses in text

An address is read back from its text, which has parentheses, and from the pair of its coordinates
alone.  What is read is decided by two runs of digits, the comma between them, and what is left once
the parentheses are skipped.
-/

namespace Gridbook.Address

open Text

variable {a : Address} {s : List Char}

theorem component?_digits {n : Nat} (small : n + 1 < coordinateLimit) :
    component? (digits (n + 1)) = some n := by
  rw [component?, natural?_digits, Option.bind_some, if_pos ⟨Nat.succ_pos n, small⟩,
    Nat.add_sub_cancel]

/-- The coordinates of an address without parentheses. -/
def pairText (a : Address) : List Char :=
  digits (a.row + 1) ++ ',' :: digits (a.col + 1)

theorem trimStart_digits (n : Nat) (rest : List Char) :
    trimStart (digits n ++ rest) = digits n ++ rest :=
  trimStart_eq_self fun _ first => isBlank_of_isDigit (isDigit_of_head?_digits first)

/-- A run of digits has no mark to skip. -/
theorem skip_digits {mark : Char} (other : mark.isDigit = false) (n : Nat) (rest : List Char) :
    skip mark (digits n ++ rest) = digits n ++ rest := by
  obtain ⟨d, run, written⟩ := List.exists_cons_of_ne_nil (digits_ne_nil n)
  have digit : d.isDigit = true := isDigit_of_mem_digits (written ▸ List.mem_cons_self)
  have apart : mark ≠ d := by
    rintro rfl
    cases other.symm.trans digit
  rw [written, List.cons_append, skip, after?, if_neg apart]
  rfl

section Pair

variable (row : a.row + 1 < coordinateLimit) (col : a.col + 1 < coordinateLimit)

include row col

/-- An address is read where its coordinates stand behind the opening parenthesis, and nothing is
left behind them but a closing one. -/
theorem read?_of_pair (closing : List Char)
    (opened : trimStart (skip '(' (trimStart s)) = pairText a ++ closing)
    (stop : ∀ c ∈ closing.head?, c.isDigit = false)
    (closed : trimStart (skip ')' (trimStart closing)) = []) : read? s = some a := by
  have digital (n : Nat) : ∀ c ∈ digits n, c.isDigit = true := fun _ => isDigit_of_mem_digits
  have comma : ∀ c ∈ (',' :: (digits (a.col + 1) ++ closing)).head?, c.isDigit = false := by
    rintro c ⟨⟩
    rfl
  have between : after? [','] (trimStart (',' :: (digits (a.col + 1) ++ closing))) =
      some (digits (a.col + 1) ++ closing) := rfl
  rw [pairText, List.append_assoc, List.cons_append] at opened
  simp only [read?, opened, takeWhile_run (digital _) comma, dropWhile_run (digital _) comma,
    component?_digits row, between, trimStart_digits, takeWhile_run (digital _) stop,
    dropWhile_run (digital _) stop, component?_digits col, closed, Option.bind_eq_bind,
    Option.bind_some, if_true]

/-- The text of an address leads back to it. -/
theorem read?_text : read? a.text = some a := by
  apply read?_of_pair row col [')']
  · change trimStart (digits (a.row + 1) ++ (',' :: digits (a.col + 1)) ++ [')']) = _
    rw [List.append_assoc, trimStart_digits, pairText, List.append_assoc]
  · rintro c ⟨⟩
    rfl
  · rfl

/-- The parentheses may be left out. -/
theorem read?_pairText : read? (pairText a) = some a := by
  apply read?_of_pair row col []
  · rw [pairText, trimStart_digits, skip_digits rfl, trimStart_digits, List.append_nil]
  · nofun
  · rfl

end Pair

end Gridbook.Address
