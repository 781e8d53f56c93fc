/-!
# Lines of a text

A line ends at a line feed; the last one may lack it, and a text that ends in a line feed has no
further, empty line.  The line feed belongs to no line.
-/

namespace Gridbook.Text

/-- Put one character in front of the lines of the text that follows it. -/
def consLine (c : Char) (following : List (List Char)) : List (List Char) :=
  if c = '\n' then [] :: following
  else match following with
    | [] => [[c]]
    | line :: rest => (c :: line) :: rest

def lines (s : List Char) : List (List Char) :=
  s.foldr consLine []

theorem lines_nil : lines [] = [] := rfl

theorem lines_lineFeed (s : List Char) : lines ('\n' :: s) = [] :: lines s := rfl

/-- A text without a line feed, closed by one, is the first line of what follows. -/
theorem lines_append (line rest : List Char) (h : '\n' ∉ line) :
    lines (line ++ '\n' :: rest) = line :: lines rest := by
  induction line with
  | nil => rfl
  | cons c tail ih =>
      have hc : c ≠ '\n' := fun e => h (by simp [e])
      have ih := ih fun e => h (by simp [e])
      simp only [lines, List.cons_append, List.foldr_cons] at ih ⊢
      rw [ih]
      simp [consLine, hc]

/-- Lines written out, each closed by a line feed. -/
def unlines (text : List (List Char)) : List Char :=
  text.flatMap fun line => line ++ ['\n']

theorem lines_unlines (text : List (List Char)) (h : ∀ line ∈ text, '\n' ∉ line) :
    lines (unlines text) = text := by
  induction text with
  | nil => rfl
  | cons line rest ih =>
      simp only [unlines, List.flatMap_cons, List.append_assoc, List.singleton_append]
      rw [lines_append line _ (h line (by simp))]
      exact congrArg _ (ih fun other mem => h other (by simp [mem]))

end Gridbook.Text
