/-!
# White space and trimming

White space is the Unicode property White_Space, which has twenty-five characters.  Trimming takes
them from one end or from both ends of a text and leaves those inside it.
-/

namespace Gridbook.Text

/-- The characters with the Unicode property White_Space. -/
def isBlank (c : Char) : Bool :=
  let code := c.toNat
  (0x9 ≤ code && code ≤ 0xD) || code == 0x20 || code == 0x85 || code == 0xA0 || code == 0x1680 ||
    (0x2000 ≤ code && code ≤ 0x200A) || code == 0x2028 || code == 0x2029 || code == 0x202F ||
    code == 0x205F || code == 0x3000

/-- Every character that counts as white space in ASCII is blank. -/
theorem isBlank_of_isWhitespace {c : Char} (h : c.isWhitespace = true) : isBlank c = true := by
  simp only [Char.isWhitespace, Bool.or_eq_true, decide_eq_true_eq] at h
  rcases h with ((rfl | rfl) | rfl) | rfl <;> decide

def trimStart (s : List Char) : List Char :=
  s.dropWhile isBlank

def trimEnd (s : List Char) : List Char :=
  (trimStart s.reverse).reverse

def trim (s : List Char) : List Char :=
  trimEnd (trimStart s)

theorem trim_nil : trim [] = [] := rfl

def AllBlank (s : List Char) : Prop :=
  s.all isBlank = true

instance (s : List Char) : Decidable (AllBlank s) :=
  inferInstanceAs (Decidable (_ = true))

end Gridbook.Text
