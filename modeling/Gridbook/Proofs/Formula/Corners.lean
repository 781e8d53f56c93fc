import Gridbook.Proofs.Formula.PointLists
import Gridbook.Proofs.Formula.Spacing

/-!
# Corners with any number of digits

A range is asked for with a name and two corners.  The name is whatever stands in front of the two
corners, as long as it holds no comma, and it may well hold parentheses.  The digits of a corner may
be more than a coordinate has room for.  Such a text is never a list of points; it is a range on the
name that is left when white space beside the marks and stray parentheses are taken away, unless a
coordinate is too large, the name is empty, or it does not stand on one line.
-/

namespace Gridbook.Formula

open Text

/-! ## Written corners -/

/-- A corner of a rectangle: the texts of its row and of its column. -/
structure Corner where
  row : List Char
  col : List Char

namespace Corner

/-- A corner in text. -/
def text (k : Corner) : List Char :=
  '(' :: k.row ++ ',' :: k.col ++ [')']

/-- The point that a corner stands for, if both of its coordinates are within the limits. -/
def point? (k : Corner) : Option Point :=
  (coordinate? k.row).bind fun row => (coordinate? k.col).map fun col => ⟨row, col⟩

/-- Both coordinates are decimal digits and nothing else. -/
structure Numeral (k : Corner) : Prop where
  row : ∀ c ∈ k.row, c.isDigit = true
  col : ∀ c ∈ k.col, c.isDigit = true

theorem Numeral.terse {k : Corner} (numeral : k.Numeral) {c : Char} (mem : c ∈ k.text) :
    Terse c := by
  simp only [text, List.cons_append, List.append_assoc, List.mem_cons, List.mem_append,
    List.not_mem_nil, or_false] at mem
  rcases mem with rfl | row | rfl | col | rfl
  · exact terse_of_isMark rfl
  · exact terse_of_isDigit (numeral.row c row)
  · exact terse_of_isMark rfl
  · exact terse_of_isDigit (numeral.col c col)
  · exact terse_of_isMark rfl

end Corner

/-- A point as the corner that is written for it. -/
def Point.corner (p : Point) : Corner :=
  ⟨coordinateText p.row, coordinateText p.col⟩

theorem Point.corner_text (p : Point) : p.corner.text = p.text := rfl

theorem Point.point?_corner (p : Point) : p.corner.point? = some p := by
  rw [corner, Corner.point?, coordinate?_coordinateText, coordinate?_coordinateText,
    Option.bind_some, Option.map_some]

theorem Point.Unsigned.numeral {p : Point} (unsigned : p.Unsigned) : p.corner.Numeral where
  row c mem := by
    rw [corner, coordinateText_of_nonneg unsigned.row] at mem
    exact isDigit_of_mem_digits mem
  col c mem := by
    rw [corner, coordinateText_of_nonneg unsigned.col] at mem
    exact isDigit_of_mem_digits mem

/-- A name and two corners in text, with commas between them. -/
def spanText (name : List Char) (first last : Corner) : List Char :=
  name ++ ',' :: first.text ++ ',' :: last.text

theorem rangeText_eq (name : List Char) (first last : Point) :
    rangeText name first last = spanText name first.corner last.corner := rfl

/-! ## Reading from behind -/

variable {name : List Char} {first last : Corner} {m : Char}

/-- The digits that end a text are read from behind, up to the mark before them. -/
theorem lastCoordinate?_digits {s : List Char} (digits : ∀ c ∈ s, c.isDigit = true)
    (stop : m.isDigit = false) (rest : List Char) :
    lastCoordinate? (s.reverse ++ m :: rest) = (coordinate? s).map fun n => (n, m :: rest) := by
  have all : ∀ c ∈ s.reverse, c.isDigit = true := fun c mem => digits c (List.mem_reverse.mp mem)
  have ends : ∀ c ∈ (m :: rest).head?, c.isDigit = false := by
    rintro c ⟨⟩
    exact stop
  rw [lastCoordinate?, takeWhile_run all ends, dropWhile_run all ends, List.reverse_reverse]

theorem lastPoint?_corner {k : Corner} (numeral : k.Numeral) (before : List Char) :
    lastPoint? (before ++ ',' :: k.text).reverse = k.point?.map fun p => (p, before.reverse) := by
  have backwards : (before ++ ',' :: k.text).reverse =
      ')' :: (k.col.reverse ++ ',' :: (k.row.reverse ++ '(' :: ',' :: before.reverse)) := by
    simp [Corner.text]
  rw [backwards, Corner.point?]
  change (lastCoordinate? _).bind _ = _
  rw [lastCoordinate?_digits numeral.col rfl]
  -- the column is read first, and the row only if the column is a coordinate
  cases readCol : coordinate? k.col with
  | none => cases coordinate? k.row <;> rfl
  | some col =>
      change (lastCoordinate? (k.row.reverse ++ '(' :: ',' :: before.reverse)).bind _ = _
      rw [lastCoordinate?_digits numeral.row rfl]
      cases coordinate? k.row <;> rfl

theorem range?_spanText (start : first.Numeral) (stop : last.Numeral) (name : List Char) :
    range? (spanText name first last) =
      if name = [] ∨ '\n' ∈ name then none
      else first.point?.bind fun p => last.point?.map fun q => .range (bareName name) p q := by
  rw [range?, spanText, lastPoint?_corner stop]
  cases last.point? with
  | none => cases first.point? <;> simp
  | some q =>
      change (lastPoint? (name ++ ',' :: first.text).reverse).bind _ = _
      rw [lastPoint?_corner start]
      cases first.point? with
      | none => simp
      | some p =>
          change (if name.reverse = [] ∨ '\n' ∈ name.reverse then none else _) = _
          simp only [List.reverse_eq_nil_iff, List.mem_reverse, List.reverse_reverse]
          rfl

/-- What holds no comma is no point, so that what starts with it is no list of points. -/
theorem points?_append (comma : ',' ∉ name) (rest : List Char) :
    points? (name ++ ',' :: '(' :: rest) = none := by
  have whole : Unbroken name := fun inside => comma (inside.subset (by simp))
  have noPoint : point? name = none := by
    rw [Option.eq_none_iff_forall_ne_some]
    intro p read
    obtain ⟨row, col, shape, _⟩ := point?_eq_some_iff.mp read
    have inside : ',' ∈ bare name := by simp [shape]
    exact comma (List.mem_filter.mp inside).1
  -- the name is the first part that is cut off, and one part that is no point spoils the list
  rw [points?, splitPoints_append whole, List.mapM_cons, noPoint]
  split <;> rfl

theorem points?_spanText (comma : ',' ∉ name) (first last : Corner) :
    points? (spanText name first last) = none := by
  rw [spanText, List.append_assoc, List.cons_append]
  exact points?_append comma _

/-! ## The name in the form that is read -/

theorem tighten_sublist (behind : Bool) (s : List Char) : (tighten behind s).Sublist s := by
  induction s generalizing behind with
  | nil => exact List.Sublist.refl []
  | cons c s ih =>
      rw [tighten]
      split
      · split
        · exact (ih behind).cons c
        · exact (ih false).cons_cons c
      · exact (ih (isMark c)).cons_cons c

theorem tighten_of_first {s : List Char} (first : ∀ c ∈ s.head?, isBlank c = false)
    (behind : Bool) : tighten behind s = tighten false s := by
  cases s with
  | nil => rfl
  | cons c s => rw [tighten_cons (first c rfl), tighten_cons (first c rfl)]

/-- What comes first does not depend on what follows a text that is not all white space. -/
theorem marksNext_append_last {s : List Char} (filled : s ≠ [])
    (last : ∀ c ∈ s.getLast?, isBlank c = false) (rest : List Char) :
    marksNext (s ++ rest) = marksNext s := by
  obtain ⟨front, c, rfl⟩ := List.eq_nil_or_concat s |>.resolve_left filled
  have solid : isBlank c = false := last c (by simp)
  rw [List.concat_eq_append, List.append_assoc, List.singleton_append, marksNext, marksNext,
    trimStart_append_solid solid, trimStart_append_solid solid]
  cases trimStart front <;> rfl

/-- A mark that follows a text takes nothing away from it, unless the text ends in white space. -/
theorem tighten_concat {s : List Char} (mark : isMark m = true)
    (last : ∀ c ∈ s.getLast?, isBlank c = false) (behind : Bool) :
    tighten behind (s ++ [m]) = tighten behind s ++ [m] := by
  induction s generalizing behind with
  | nil => exact tighten_cons (isBlank_of_isMark mark) behind []
  | cons c s ih =>
      have end' : ∀ d ∈ s.getLast?, isBlank d = false := by
        intro d mem
        apply last
        rw [List.getLast?_cons, Option.mem_def.mp mem]
        rfl
      rw [List.cons_append, tighten, tighten]
      cases blank : isBlank c with
      | false => exact congrArg (c :: ·) (ih end' (isMark c))
      | true =>
          have filled : s ≠ [] := by
            rintro rfl
            exact absurd (last c rfl) (by simp [blank])
          rw [marksNext_append_last filled end', if_pos rfl, if_pos rfl, ih end', ih end']
          split <;> rfl

theorem tighten_lower_spanText (trimmed : trim name = name) (start : first.Numeral)
    (stop : last.Numeral) :
    tighten true (lower (spanText name first last) ++ [')']) =
      spanText (normal name) first last ++ [')'] := by
  have terse : ∀ c ∈ first.text ++ ',' :: last.text, Terse c := by
    intro c mem
    rcases List.mem_append.mp mem with here | later
    · exact start.terse here
    · rcases List.mem_cons.mp later with rfl | there
      · exact terse_of_isMark rfl
      · exact stop.terse there
  have solid : ∀ c ∈ first.text ++ ',' :: last.text ++ [')'], isBlank c = false := by
    intro c mem
    rcases List.mem_append.mp mem with inner | closing
    · exact (terse c inner).solid
    · obtain rfl := List.mem_singleton.mp closing
      rfl
  have small : trim (lower name) = lower name := by rw [trim_lower, trimmed]
  have shape : tighten true (lower name ++ [',']) = normal name ++ [','] := by
    rw [tighten_concat rfl (last_of_trim small), tighten_of_first (first_of_trim small), normal,
      trimmed]
  rw [spanText, List.append_assoc, List.cons_append, lower_append (divides_of_isMark rfl),
    lower_of_terse terse, List.append_assoc, List.cons_append, tighten_append_mark rfl, shape,
    tighten_of_solid solid, spanText]
  simp only [List.append_assoc, List.cons_append, List.nil_append]

/-- The form that is read has no mark and no white space that is not in the text. -/
theorem mem_normal {s : List Char} (mem : m ∈ normal s) (low : m.toNat ≤ 0x60) : m ∈ s := by
  rcases mem_lower ((tighten_sublist false _).subset mem) with own | formed
  · exact (trim_sublist s).subset own
  · exact absurd formed.above (by omega)

theorem normal_ne_nil {s : List Char} (filled : ¬ AllBlank s) : normal s ≠ [] := by
  have inner : lower (trim s) ≠ [] := lower_ne_nil (mt (trim_eq_nil_iff s).mp filled)
  have trimmed : trim (lower (trim s)) = lower (trim s) := by rw [trim_lower, trim_trim]
  obtain ⟨c, rest, shape⟩ := List.exists_cons_of_ne_nil inner
  have solid : isBlank c = false := first_of_trim trimmed c (by rw [shape]; rfl)
  rw [normal, shape, tighten_cons solid]
  exact List.cons_ne_nil _ _

/-! ## Formulas -/

section Call

variable {word keyword : List Char} {aggregate : Aggregate}

theorem parse_spanText (known : (keyword, aggregate) ∈ Aggregate.keywords)
    (same : word.map Char.toLower = keyword) (filled : ¬ AllBlank name)
    (trimmed : trim name = name) (comma : ',' ∉ name) (line : '\n' ∉ name)
    (start : first.Numeral) (stop : last.Numeral) :
    parse (callText word (spanText name first last)) =
      .ok ⟨aggregate, (first.point?.bind fun p => last.point?.map fun q =>
        .range (bareName (normal name)) p q).getD .malformed⟩ := by
  have sole : ¬ (normal name = [] ∨ '\n' ∈ normal name) := by
    rw [not_or]
    exact ⟨normal_ne_nil filled, mt (mem_normal · (by decide)) line⟩
  rw [parse_callText known same (tighten_lower_spanText trimmed start stop), Operands.ofArguments,
    points?_spanText (mt (mem_normal · (by decide)) comma), range?_spanText start stop, if_neg sole]

end Call

end Gridbook.Formula
