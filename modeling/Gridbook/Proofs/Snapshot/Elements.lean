import Gridbook.Proofs.Text.LineStarts
import Gridbook.Proofs.Text.Trimming
import Mathlib.Logic.Relation

/-!
# The elements of a text

A line counts for something if it is neither blank nor a comment.  The elements of a text are its
lines that count, without the white space around them.  How the text is laid out otherwise makes no
difference to them: white space at either end of a line, which includes a carriage return, further
blank lines and comments, and whether the last line is closed.
-/

namespace Gridbook.Snapshot

open Text

variable {s line w rest : List Char}

/-- Whether a line counts for something, given without the white space around it. -/
def counts (line : List Char) : Bool :=
  decide (line ≠ [] ∧ line.head? ≠ some '#')

/-- The lines of a text that count, without the white space around them. -/
def elements (s : List Char) : List (List Char) :=
  ((lines s).map trim).filter counts

/-! ## Elements of parts -/

theorem elements_append_of_lineStart (start : LineStart s) (rest : List Char) :
    elements (s ++ rest) = elements s ++ elements rest := by
  rw [elements, lines_append_of_lineStart start, List.map_append, List.filter_append]
  rfl

/-- A text without a line feed is a line, unless it is empty. -/
theorem elements_of_single (single : '\n' ∉ s) : elements s = [trim s].filter counts := by
  cases s with
  | nil => rfl
  | cons c s => rw [elements, lines_of_single single (List.cons_ne_nil c s), List.map_singleton]

theorem elements_closed (single : '\n' ∉ line) (rest : List Char) :
    elements (line ++ '\n' :: rest) = elements line ++ elements rest := by
  rw [elements, lines_append line rest single, List.map_cons, ← List.singleton_append,
    List.filter_append, ← elements_of_single single]
  rfl

/-! ## White space -/

theorem elements_cons_blank {c : Char} (blank : isBlank c = true) (s : List Char) :
    elements (c :: s) = elements s := by
  rw [elements, elements]
  by_cases inside : c = '\n'
  · rw [inside, lines_lineFeed]
    rfl
  · rw [lines_cons]
    cases lines s with
    | nil =>
        rw [consLine_nil inside, List.map_singleton, trim_cons blank]
        rfl
    | cons line rest => rw [consLine_cons inside, List.map_cons, List.map_cons, trim_cons blank]

/-- White space in front of a text makes no difference, whatever line feeds there are. -/
theorem elements_blank_append (blank : AllBlank w) (s : List Char) :
    elements (w ++ s) = elements s := by
  induction w with
  | nil => rfl
  | cons c w ih =>
      obtain ⟨first, others⟩ := allBlank_cons.mp blank
      rw [List.cons_append, elements_cons_blank first, ih others]

theorem elements_of_blank (blank : AllBlank w) : elements w = [] := by
  have whole := elements_blank_append blank []
  rw [List.append_nil] at whole
  exact whole

theorem elements_single_append_blank (single : '\n' ∉ line) (blank : AllBlank w) :
    elements (line ++ w) = elements line := by
  induction w generalizing line with
  | nil => rw [List.append_nil]
  | cons c w ih =>
      obtain ⟨first, others⟩ := allBlank_cons.mp blank
      by_cases inside : c = '\n'
      · rw [inside, elements_closed single, elements_of_blank others, List.append_nil]
      · have longer : '\n' ∉ line ++ [c] := by
          rw [List.mem_append, List.mem_singleton]
          exact not_or.mpr ⟨single, Ne.symm inside⟩
        have alone : AllBlank [c] := allBlank_cons.mpr ⟨first, rfl⟩
        rw [← List.singleton_append, ← List.append_assoc, ih longer others,
          elements_of_single longer, trim_append_blank_right alone, elements_of_single single]

/-- White space behind a text makes no difference, whatever line feeds there are. -/
theorem elements_append_blank (blank : AllBlank w) (s : List Char) :
    elements (s ++ w) = elements s := by
  obtain ⟨front, last, rfl, start, single⟩ := exists_lineStart_append s
  rw [List.append_assoc, elements_append_of_lineStart start, elements_append_of_lineStart start,
    elements_single_append_blank single blank]

/-- The elements of a text that is cut behind a line feed are those of its parts. -/
theorem elements_append (s rest : List Char) :
    elements (s ++ '\n' :: rest) = elements s ++ elements rest := by
  have closed : AllBlank ['\n'] := by decide
  rw [← List.singleton_append, ← List.append_assoc,
    elements_append_of_lineStart (lineStart_concat s), elements_append_blank closed]

theorem elements_of_comment (single : '\n' ∉ line) (comment : (trim line).head? = some '#') :
    elements line = [] := by
  have skipped : ¬ counts (trim line) = true := by
    rw [counts, decide_eq_true_eq]
    exact fun both => both.2 comment
  rw [elements_of_single single, List.filter_cons_of_neg skipped, List.filter_nil]

/-! ## Another layout -/

/-- One change of the layout. -/
inductive Relaid : List Char → List Char → Prop where
  /-- White space is added to the end of a line, such as a carriage return. -/
  | trailing (before : List Char) {w : List Char} (after : List Char) (blank : AllBlank w) :
      Relaid (before ++ '\n' :: after) (before ++ (w ++ '\n' :: after))
  /-- White space is added where a line starts: an indentation, or blank lines. -/
  | leading {before w : List Char} (after : List Char) (start : LineStart before)
      (blank : AllBlank w) : Relaid (before ++ after) (before ++ (w ++ after))
  /-- A comment is added where a line starts. -/
  | comment {before line : List Char} (after : List Char) (start : LineStart before)
      (single : '\n' ∉ line) (comment : (trim line).head? = some '#') :
      Relaid (before ++ after) (before ++ (line ++ '\n' :: after))
  /-- White space is added at the end, such as a final line feed. -/
  | final (s : List Char) {w : List Char} (blank : AllBlank w) : Relaid s (s ++ w)

theorem Relaid.elements_eq {s t : List Char} (relaid : Relaid s t) : elements s = elements t := by
  cases relaid with
  | trailing before after blank =>
      rw [← List.append_assoc, elements_append, elements_append, elements_append_blank blank]
  | leading after start blank =>
      rw [elements_append_of_lineStart start, elements_append_of_lineStart start,
        elements_blank_append blank]
  | comment after start single comment =>
      rw [elements_append_of_lineStart start, elements_append_of_lineStart start,
        elements_closed single, elements_of_comment single comment, List.nil_append]
  | final s blank => exact (elements_append_blank blank s).symm

/-- Any changes of the layout, made or undone, keep the elements. -/
theorem elements_eq_of_relaid {s t : List Char} (relaid : Relation.EqvGen Relaid s t) :
    elements s = elements t := by
  induction relaid with
  | rel _ _ one => exact one.elements_eq
  | refl _ => rfl
  | symm _ _ _ ih => exact ih.symm
  | trans _ _ _ _ _ first second => exact first.trans second

end Gridbook.Snapshot
