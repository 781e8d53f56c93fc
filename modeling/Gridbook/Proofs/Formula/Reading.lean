import Gridbook.Proofs.Formula.Corners

/-!
# Written formulas are read back

A keyword in any letter case, followed by two or more points or by the name of a sheet and two
corners, is read as the keyword's aggregate over exactly those operands.  Both kinds of arguments
are first tried as a list of points.  A list of points is one; the name of a sheet is cut off as a
part of its own that holds no comma, so that the arguments of a range are none.
-/

namespace Gridbook.Formula

open Text

/-! ## Points -/

theorem bare_append (s t : List Char) : bare (s ++ t) = bare s ++ bare t :=
  List.filter_append s t

theorem bare_of_unmarked {s : List Char} (unmarked : ∀ c ∈ s, isMark c = false) : bare s = s := by
  rw [bare, List.filter_eq_self]
  intro c mem
  have plain := unmarked c mem
  simp only [isMark, Bool.or_eq_false_iff, beq_eq_false_iff_ne] at plain
  simp [plain.1.1, plain.1.2]

/-- A written point is accepted, also when its first parenthesis is missing. -/
theorem loosePoint_of_front (p : Point) (front : List Char) (open' : ∀ c ∈ front, c = '(') :
    LoosePoint (front ++ (coordinateText p.row ++ ',' :: coordinateText p.col ++ [')'])) p := by
  have rowMarks : ∀ c ∈ coordinateText p.row, isMark c = false := fun c =>
    isMark_of_mem_coordinateText
  have colMarks : ∀ c ∈ coordinateText p.col, isMark c = false := fun c =>
    isMark_of_mem_coordinateText
  constructor
  · have comma : ',' ∉ front ++ coordinateText p.row := by
      intro mem
      rcases List.mem_append.mp mem with early | late
      · cases open' _ early
      · cases rowMarks _ late
    have paren : '(' ∉ coordinateText p.col ++ [')'] := by
      intro mem
      rcases List.mem_append.mp mem with early | late
      · cases colMarks _ early
      · cases List.mem_singleton.mp late
    have whole := unbroken_append comma paren
    simpa only [List.append_assoc, List.cons_append] using whole
  · have none : bare front = [] := by
      rw [bare, List.filter_eq_nil_iff]
      intro c mem
      rw [open' c mem]
      decide
    refine ⟨coordinateText p.row, coordinateText p.col, ?_, coordinate?_coordinateText p.row,
      coordinate?_coordinateText p.col⟩
    have parts : bare (',' :: coordinateText p.col) = ',' :: coordinateText p.col :=
      congrArg (',' :: ·) (bare_of_unmarked colMarks)
    rw [bare_append, bare_append, bare_append, none, bare_of_unmarked rowMarks, parts]
    exact List.append_nil _

/-- Written points are a list of points as they are accepted, whatever the first one looks like. -/
theorem listing_intercalate {part : List Char} {p : Point} (here : LoosePoint part p)
    (rest : List Point) :
    Listing [',', '('] LoosePoint ([','].intercalate (part :: rest.map Point.text)) (p :: rest) := by
  induction rest generalizing part p with
  | nil =>
      rw [List.map_nil, List.intercalate_singleton]
      exact .last here
  | cons q rest ih =>
      have next : LoosePoint q.text.tail q := loosePoint_of_front q [] nofun
      have opened : q.text = '(' :: q.text.tail := rfl
      rw [List.map_cons, List.intercalate_cons_cons, opened, List.intercalate_cons_cons_left,
        List.append_assoc]
      exact .cons here (ih next)

theorem points?_pointsText {points : List Point} (several : 2 ≤ points.length) :
    points? (pointsText points) = some points := by
  match points, several with
  | p :: q :: rest, _ =>
    rw [points?_eq_some_iff]
    constructor
    · refine ⟨'(' :: coordinateText p.row ++ ',' :: coordinateText p.col,
        (pointsText (q :: rest)).tail, ?_⟩
      have opened : q.text = '(' :: q.text.tail := rfl
      simp only [pointsText, List.map_cons, List.intercalate_cons_cons, Point.text]
      rw [← Point.text, opened, List.intercalate_cons_cons_left]
      simp
    · exact listing_intercalate (loosePoint_of_front p ['('] (by simp)) (q :: rest)

/-! ## Ranges -/

theorem bareName_of_unmarked {name : List Char} (unmarked : ∀ c ∈ name, isMark c = false) :
    bareName name = name := by
  have stay {m : Char} (mark : isMark m = true) {s : List Char}
      (plain : ∀ c ∈ s, isMark c = false) : s.dropWhile (· == m) = s := by
    refine @dropWhile_run (· == m) [] s nofun fun c first => ?_
    rw [beq_eq_false_iff_ne]
    rintro rfl
    have unmarked := plain _ (List.mem_of_mem_head? first)
    rw [mark] at unmarked
    cases unmarked
  rw [bareName, stay (m := '(') rfl unmarked, stay (m := ')') rfl, List.reverse_reverse]
  exact fun c mem => unmarked c (List.mem_reverse.mp mem)

/-- White space inside a text without marks is kept. -/
theorem tighten_of_unmarked {s : List Char} (unmarked : ∀ c ∈ s, isMark c = false)
    (last : ∀ c ∈ s.getLast?, isBlank c = false) : tighten false s = s := by
  have mark : isMark ',' = true := rfl
  have kept : tighten false (s ++ [',']) = s ++ [','] :=
    tighten_append mark unmarked (fun impossible => absurd impossible Bool.false_ne_true) last
  rw [tighten_concat mark last] at kept
  exact List.append_cancel_right kept

theorem SheetName.normal_eq {name : List Char} (named : SheetName name) :
    normal name = Text.lower name := by
  have plain := named.lower
  rw [normal, named.trimmed, tighten_of_unmarked plain.unmarked plain.last]

theorem SheetName.not_allBlank {name : List Char} (named : SheetName name) : ¬ AllBlank name := by
  rw [← trim_eq_nil_iff, named.trimmed]
  exact named.filled

theorem SheetName.comma {name : List Char} (named : SheetName name) : ',' ∉ name :=
  fun mem => absurd (named.unmarked _ mem) (by decide)

/-! ## Whole formulas -/

section Call

variable {word keyword : List Char} {aggregate : Aggregate}

theorem parse_pointsText (known : (keyword, aggregate) ∈ Aggregate.keywords)
    (same : word.map Char.toLower = keyword) {points : List Point} (several : 2 ≤ points.length) :
    parse (callText word (pointsText points)) = .ok ⟨aggregate, .cells points⟩ := by
  rw [parse_callText known same (tighten_lower_pointsText points), Operands.ofArguments,
    points?_pointsText several]

theorem parse_rangeText (known : (keyword, aggregate) ∈ Aggregate.keywords)
    (same : word.map Char.toLower = keyword) {name : List Char} (named : SheetName name)
    {first last : Point} (start : first.Unsigned) (stop : last.Unsigned) :
    parse (callText word (rangeText name first last)) =
      .ok ⟨aggregate, .range (lower name) first last⟩ := by
  rw [rangeText_eq, parse_spanText known same named.not_allBlank named.trimmed named.comma
    named.line start.numeral stop.numeral, named.normal_eq,
    bareName_of_unmarked named.lower.unmarked, Point.point?_corner, Point.point?_corner]
  rfl

/-- Both kinds of written formulas are read as what they were written from, the name of a sheet in
lower case. -/
theorem parse_written (known : (keyword, aggregate) ∈ Aggregate.keywords)
    (same : word.map Char.toLower = keyword) :
    (∀ points : List Point, 2 ≤ points.length →
      parse (callText word (pointsText points)) = .ok ⟨aggregate, .cells points⟩) ∧
    ∀ (name : List Char) (first last : Point), SheetName name → first.Unsigned → last.Unsigned →
      parse (callText word (rangeText name first last)) =
        .ok ⟨aggregate, .range (lower name) first last⟩ := by
  constructor
  · exact fun points several => parse_pointsText known same several
  · exact fun name first last named start stop => parse_rangeText known same named start stop

end Call

/-- A product over the corners of the coordinates, and one over a range on a sheet whose name looks
like a number. -/
theorem parse_written_of_corners :
    parse (callText "mULt".toList (pointsText [⟨Int64.minValue, -1⟩, ⟨0, Int64.maxValue⟩])) =
        .ok ⟨.product, .cells [⟨Int64.minValue, -1⟩, ⟨0, Int64.maxValue⟩]⟩ ∧
      parse (callText "mULt".toList (rangeText "12 Σ".toList ⟨0, 1⟩ ⟨Int64.maxValue, 1⟩)) =
        .ok ⟨.product, .range (lower "12 Σ".toList) ⟨0, 1⟩ ⟨Int64.maxValue, 1⟩⟩ := by
  have both := @parse_written "mULt".toList "mult".toList .product (by decide) (by decide)
  exact ⟨both.1 _ (by decide), both.2 _ _ _ (by decide) (by decide) (by decide)⟩

end Gridbook.Formula
