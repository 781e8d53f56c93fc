/-!
# Reading a text from the left and from the right

Small steps of which the readers are made: take away an expected beginning or end, or divide a text
at the first place where a character stands.
-/

namespace Gridbook.Text

/-- What follows an expected beginning. -/
def after? : List Char → List Char → Option (List Char)
  | [], s => some s
  | _ :: _, [] => none
  | e :: expected, c :: s => if e = c then after? expected s else none

theorem after?_append (expected s : List Char) : after? expected (expected ++ s) = some s := by
  induction expected with
  | nil => rfl
  | cons c rest ih => simp [after?, ih]

theorem eq_append_of_after? {expected s rest : List Char} (h : after? expected s = some rest) :
    s = expected ++ rest := by
  induction expected generalizing s with
  | nil => simpa [after?] using h
  | cons e expected ih =>
      cases s with
      | nil => simp [after?] at h
      | cons c s =>
          simp only [after?] at h
          split at h
          · subst e
            simp [ih h]
          · simp at h

/-- What precedes an expected last character. -/
def beforeLast? (last : Char) (s : List Char) : Option (List Char) :=
  if s.getLast? = some last then some s.dropLast else none

theorem beforeLast?_append (last : Char) (s : List Char) :
    beforeLast? last (s ++ [last]) = some s := by
  simp [beforeLast?]

/-- The parts before and after the first place where a character stands. -/
def cut? (mark : Char) : List Char → Option (List Char × List Char)
  | [] => none
  | c :: rest =>
      if c = mark then some ([], rest)
      else (cut? mark rest).map fun (before, behind) => (c :: before, behind)

theorem cut?_append (mark : Char) (before behind : List Char) (h : mark ∉ before) :
    cut? mark (before ++ mark :: behind) = some (before, behind) := by
  induction before with
  | nil => simp [cut?]
  | cons c rest ih =>
      have hc : c ≠ mark := fun e => h (by simp [e])
      have := ih fun mem => h (by simp [mem])
      simp [cut?, hc, this]

/-- A text without one particular first character, if it has that one. -/
def skip (optional : Char) (s : List Char) : List Char :=
  (after? [optional] s).getD s

end Gridbook.Text
