import Gridbook.Proofs.Snapshot.Elements
import Gridbook.Proofs.Snapshot.LineByLine
import Mathlib.Data.List.Forall2

/-!
# Texts with the same elements

Two texts that have the same elements are read alike: both as the same workbook, or both with the same
failure, which names the line of the same element in each of them.  They are read side by side.  The
progress is the same but for the number of the line that gave the current sheet, and the two numbers
that are kept belong to one element.
-/

namespace Gridbook.Snapshot

open Text

variable {s t : List Char} {R : Nat → Nat → Prop} {m n : Nat}

/-! ## Elements with their lines -/

/-- The elements of a text, each with the number of its line. -/
def numbered (s : List Char) : List (List Char × Nat) :=
  (((lines s).map trim).zipIdx 1).filter fun x => counts x.1

theorem map_fst_numbered (s : List Char) : (numbered s).map Prod.fst = elements s := by
  have whole : (((lines s).map trim).zipIdx 1).map Prod.fst = (lines s).map trim :=
    List.zipIdx_map_fst 1 _
  rw [elements, ← whole, List.filter_map]
  rfl

/-- The two lines, one in each text, hold the same element. -/
def SameElement (s t : List Char) (m n : Nat) : Prop :=
  ∃ (place : Nat) (line : List Char),
    (numbered s)[place]? = some (line, m) ∧ (numbered t)[place]? = some (line, n)

/-- The same text with numbers that are related. -/
def Alongside (R : Nat → Nat → Prop) {α : Type} (x y : α × Nat) : Prop :=
  x.1 = y.1 ∧ R x.2 y.2

theorem numbered_alongside (same : elements s = elements t) :
    List.Forall₂ (Alongside (SameElement s t)) (numbered s) (numbered t) := by
  rw [← map_fst_numbered, ← map_fst_numbered] at same
  have sizes : (numbered s).length = (numbered t).length := by
    simpa using congrArg List.length same
  refine List.forall₂_iff_get.mpr ⟨sizes, fun place here there => ?_⟩
  have lines : (numbered s)[place].1 = (numbered t)[place].1 := by
    simpa [here, there] using congrArg (·[place]?) same
  refine ⟨lines, place, (numbered s)[place].1, List.getElem?_eq_getElem here, ?_⟩
  rw [lines]
  exact List.getElem?_eq_getElem there

/-! ## Lines that count for nothing -/

namespace Progress

theorem step_of_not_counts (p : Progress) {line : List Char} (skipped : ¬ counts (trim line) = true)
    (number : Nat) : p.step (line, number) = .ok p := by
  have nothing : Entry.ofLine (trim line) = .skipped := by
    simp only [counts, decide_eq_true_eq, not_and_or, not_not] at skipped
    exact if_pos skipped
  simp only [step, advance, nothing]
  rfl

/-- Lines that count for nothing may be left out. -/
theorem foldlM_step_counts (l : List (List Char × Nat)) (p : Progress) :
    l.foldlM step p =
      ((l.map fun x => (trim x.1, x.2)).filter fun x => counts x.1).foldlM step p := by
  induction l generalizing p with
  | nil => rfl
  | cons x rest ih =>
      by_cases counted : counts (trim x.1) = true
      · simp only [List.map_cons, List.filter_cons, counted, if_true, List.foldlM_cons, step_trim]
        exact bind_congr ih
      · simp only [List.map_cons, List.filter_cons, counted, List.foldlM_cons,
          p.step_of_not_counts counted]
        exact ih p

end Progress

theorem read_eq_numbered (source : String) : read source =
    (numbered source.toList).foldlM Progress.step .start >>= Progress.finish := by
  have rows : numbered source.toList =
      (((lines source.toList).zipIdx 1).map fun x => (trim x.1, x.2)).filter
        fun x => counts x.1 := congrArg _ List.zipIdx_map
  rw [read, Progress.foldlM_step_counts, rows]

/-! ## Results that agree -/

/-- Both succeed, with results that are related, or both fail for the same cause, at lines that are
related or at none. -/
inductive Agree (R : Nat → Nat → Prop) {α : Type} (P : α → α → Prop) :
    Except Failure α → Except Failure α → Prop where
  | ok {x y : α} (related : P x y) : Agree R P (.ok x) (.ok y)
  | atLine {m n : Nat} {cause : Cause} (lines : R m n) :
      Agree R P (.error (.atLine m cause)) (.error (.atLine n cause))
  | noSheets : Agree R P (.error .noSheets) (.error .noSheets)

theorem Agree.bind {α β : Type} {P : α → α → Prop} {Q : β → β → Prop} {r r' : Except Failure α}
    {f g : α → Except Failure β} (first : Agree R P r r')
    (later : ∀ x y, P x y → Agree R Q (f x) (g y)) : Agree R Q (r >>= f) (r' >>= g) := by
  cases first with
  | ok related => exact later _ _ related
  | atLine lines => exact .atLine lines
  | noSheets => exact .noSheets

/-- The same sheets, and the same index of the current one, from lines that are related. -/
structure Progress.Alike (R : Nat → Nat → Prop) (p q : Progress) : Prop where
  sheets : p.sheets = q.sheets
  current : Option.Rel (Alongside R) p.current q.current

namespace Progress.Alike

variable {p q : Progress}

theorem step (alike : Alike R p q) (same : R m n) (line : List Char) :
    Agree R (Alike R) (p.step (line, m)) (q.step (line, n)) := by
  obtain ⟨sheets, current⟩ := p
  obtain ⟨_, current'⟩ := q
  obtain ⟨rfl, given⟩ := alike
  unfold Progress.step advance
  cases Entry.ofLine (trim line) with
  | skipped => exact .ok ⟨rfl, given⟩
  | current text =>
      dsimp only
      cases count? text with
      | none => exact .atLine same
      | some index => exact .ok ⟨rfl, .some ⟨rfl, same⟩⟩
  | header line =>
      dsimp only
      cases readHeader line with
      | error cause => exact .atLine same
      | ok opened => exact .ok ⟨rfl, given⟩
  | cell line =>
      cases sheets with
      | nil => exact .atLine same
      | cons s earlier =>
          dsimp only
          cases readCellLine s line with
          | error cause => exact .atLine same
          | ok t => exact .ok ⟨rfl, given⟩

theorem foldlM {l l' : List (List Char × Nat)} (rows : List.Forall₂ (Alongside R) l l')
    (alike : Alike R p q) :
    Agree R (Alike R) (l.foldlM Progress.step p) (l'.foldlM Progress.step q) := by
  induction rows generalizing p q with
  | nil => exact .ok alike
  | @cons x y _ _ first _ ih =>
      obtain ⟨line, m⟩ := x
      obtain ⟨_, n⟩ := y
      obtain ⟨rfl, same⟩ := first
      simp only [List.foldlM_cons]
      exact (alike.step same line).bind fun _ _ next => ih next

theorem finish (alike : Alike R p q) : Agree R Eq p.finish q.finish := by
  have made (sheets : List Sheet) (index : Nat) :
      Agree R Eq (finish.ofSheets sheets index) (finish.ofSheets sheets index) := by
    unfold finish.ofSheets
    cases Workbook.ofSheets? sheets index with
    | none => exact .noSheets
    | some w => exact .ok rfl
  obtain ⟨sheets, current⟩ := p
  obtain ⟨_, current'⟩ := q
  obtain ⟨rfl, given⟩ := alike
  unfold Progress.finish
  cases given with
  | none => exact made _ _
  | @some x y given =>
      obtain ⟨index, m⟩ := x
      obtain ⟨_, n⟩ := y
      obtain ⟨rfl, same⟩ := given
      dsimp only
      split
      · exact made _ _
      · exact .atLine same

end Progress.Alike

/-! ## Reading -/

/-- Texts with the same elements are read alike. -/
theorem agree_of_elements_eq {source other : String}
    (same : elements source.toList = elements other.toList) :
    Agree (SameElement source.toList other.toList) Eq (read source) (read other) := by
  rw [read_eq_numbered, read_eq_numbered]
  have start : Progress.start.Alike (SameElement source.toList other.toList) .start := ⟨rfl, .none⟩
  exact (start.foldlM (numbered_alongside same)).bind fun _ _ alike => alike.finish

/-- The layout of a text does not matter: texts with the same elements are read alike, and so are
texts that differ in their layout only. -/
theorem agree_of_layout (source : String) :
    (∀ other : String, elements source.toList = elements other.toList →
      Agree (SameElement source.toList other.toList) Eq (read source) (read other)) ∧
    ∀ other : String, Relation.EqvGen Relaid source.toList other.toList →
      Agree (SameElement source.toList other.toList) Eq (read source) (read other) :=
  ⟨fun _ same => agree_of_elements_eq same,
    fun _ relaid => agree_of_elements_eq (elements_eq_of_relaid relaid)⟩

/-- A text that fails at its second element, with a comment, an indentation, a blank line and other
line ends, and then with a carriage return alone. -/
theorem agree_of_layout_of_carriage_returns :
    Agree (SameElement "[sheet 1x1] \"a\"\n(1,1)".toList
        "# b\r\n\t[sheet 1x1] \"a\"\r\n\r\n(1,1)\r\n".toList) Eq
      (read "[sheet 1x1] \"a\"\n(1,1)") (read "# b\r\n\t[sheet 1x1] \"a\"\r\n\r\n(1,1)\r\n") ∧
    Agree (SameElement "[sheet 1x1] \"a\"\n(1,1)".toList "[sheet 1x1] \"a\"\r\n(1,1)".toList) Eq
      (read "[sheet 1x1] \"a\"\n(1,1)") (read "[sheet 1x1] \"a\"\r\n(1,1)") := by
  obtain ⟨same, relaid⟩ := agree_of_layout "[sheet 1x1] \"a\"\n(1,1)"
  have closed : Relaid "[sheet 1x1] \"a\"\n(1,1)".toList "[sheet 1x1] \"a\"\r\n(1,1)".toList :=
    .trailing "[sheet 1x1] \"a\"".toList "(1,1)".toList (w := ['\r']) (by decide)
  exact ⟨same _ (by decide +kernel), relaid _ (.rel _ _ closed)⟩

end Gridbook.Snapshot
