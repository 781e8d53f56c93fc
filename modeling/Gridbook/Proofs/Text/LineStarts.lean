import Gridbook.Text.Lines
import Mathlib.Data.List.Induction

/-!
# Where a line starts

A text can be cut where a line starts: the lines of the whole are those of the two parts.  In
particular the first lines of a text are the lines of a beginning of it.
-/

namespace Gridbook.Text

variable {s : List Char} {c : Char}

theorem lines_cons (c : Char) (s : List Char) : lines (c :: s) = consLine c (lines s) := rfl

theorem consLine_ne_nil (c : Char) (following : List (List Char)) : consLine c following ≠ [] := by
  unfold consLine
  split
  · exact List.cons_ne_nil _ _
  · split <;> exact List.cons_ne_nil _ _

theorem consLine_append {following : List (List Char)} (reach : c = '\n' ∨ following ≠ [])
    (later : List (List Char)) :
    consLine c (following ++ later) = consLine c following ++ later := by
  unfold consLine
  split
  · rfl
  · rename_i inside
    cases following with
    | nil => exact absurd rfl (reach.resolve_left inside)
    | cons line rest => rfl

theorem consLine_nil (inside : c ≠ '\n') : consLine c [] = [[c]] :=
  if_neg inside

theorem consLine_cons (inside : c ≠ '\n') (line : List Char) (rest : List (List Char)) :
    consLine c (line :: rest) = (c :: line) :: rest :=
  if_neg inside

/-- A text without a line feed is a line, unless it is empty. -/
theorem lines_of_single (single : '\n' ∉ s) (filled : s ≠ []) : lines s = [s] := by
  induction s with
  | nil => exact absurd rfl filled
  | cons c s ih =>
      obtain ⟨inside, others⟩ := not_or.mp (List.mem_cons.not.mp single)
      cases s with
      | nil => exact consLine_nil (Ne.symm inside)
      | cons d s => rw [lines_cons, ih others (List.cons_ne_nil d s), consLine_cons (Ne.symm inside)]

/-- The next character after a text starts a line. -/
def LineStart (s : List Char) : Prop :=
  ∀ c ∈ s.getLast?, c = '\n'

theorem lineStart_concat (s : List Char) : LineStart (s ++ ['\n']) := by
  intro c last
  rw [List.getLast?_concat] at last
  exact (Option.some.inj last).symm

/-- The lines of a text that is cut where a line starts are those of its parts. -/
theorem lines_append_of_lineStart (start : LineStart s) (rest : List Char) :
    lines (s ++ rest) = lines s ++ lines rest := by
  induction s with
  | nil => rfl
  | cons c s ih =>
      have after : LineStart s := fun d last => by
        refine start d ?_
        rw [List.getLast?_cons, Option.mem_def.mp last]
        rfl
      have reach : c = '\n' ∨ lines s ≠ [] := by
        cases s with
        | nil => exact .inl (start c rfl)
        | cons d s => exact .inr (consLine_ne_nil d _)
      calc lines (c :: (s ++ rest))
          = consLine c (lines s ++ lines rest) := congrArg (consLine c) (ih after)
        _ = lines (c :: s) ++ lines rest := consLine_append reach _

/-- Every text can be cut where its last line starts, which may be empty. -/
theorem exists_lineStart_append (s : List Char) :
    ∃ front last, s = front ++ last ∧ LineStart front ∧ '\n' ∉ last := by
  induction s using List.reverseRecOn with
  | nil => exact ⟨[], [], rfl, nofun, List.not_mem_nil⟩
  | append_singleton s c ih =>
      by_cases inside : c = '\n'
      · exact ⟨s ++ [c], [], (List.append_nil _).symm, inside ▸ lineStart_concat s,
          List.not_mem_nil⟩
      · obtain ⟨front, last, rfl, start, single⟩ := ih
        refine ⟨front, last ++ [c], List.append_assoc .., start, ?_⟩
        rw [List.mem_append, List.mem_singleton]
        exact not_or.mpr ⟨single, Ne.symm inside⟩

/-- The first lines of a text, with their line feeds. -/
def firstLines : Nat → List Char → List Char
  | 0, _ => []
  | _ + 1, [] => []
  | n + 1, c :: s => c :: firstLines (if c = '\n' then n else n + 1) s

theorem lines_firstLines (n : Nat) (s : List Char) : lines (firstLines n s) = (lines s).take n := by
  induction s generalizing n with
  | nil => cases n <;> rfl
  | cons c s ih =>
      cases n with
      | zero => rfl
      | succ n =>
          rw [firstLines, lines_cons, lines_cons, ih]
          unfold consLine
          split
          · rfl
          · cases lines s with
            | nil => rw [List.take_nil, List.take_succ_cons, List.take_nil]
            | cons line rest => rfl

end Gridbook.Text
