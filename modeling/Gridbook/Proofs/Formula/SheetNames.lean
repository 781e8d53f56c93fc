import Gridbook.Proofs.Formula.Agreement
import Gridbook.Proofs.Workbook.Operations
import Mathlib.Data.List.Chain
import Mathlib.Data.List.TakeWhile

/-!
# Names of sheets that ranges can ask for

A sheet may have parentheses in its name, and they may have white space beside them.  In a formula
the same characters are marks: white space beside them is taken away, and so are the parentheses
at the ends of the name.  The name that a range asks for is therefore a part of the one that was
written, in lower case.  It is the whole of it, and leads to the sheet that the written name leads
to, exactly if there was nothing to take away.
-/

namespace Gridbook

open Text

namespace Formula

variable {behind : Bool} {c d : Char} {before s name : List Char}

/-! ## White space beside marks -/

/-- Of two neighbours, one is not white space or the other one is no mark. -/
def Apart (c d : Char) : Prop :=
  ¬ (isBlank c = true ∧ isMark d = true) ∧ ¬ (isMark c = true ∧ isBlank d = true)

instance (c d : Char) : Decidable (Apart c d) :=
  inferInstanceAs (Decidable (_ ∧ _))

/-- A character that is neither white space nor a mark. -/
structure Plain (c : Char) : Prop where
  solid : isBlank c = false
  unmarked : isMark c = false

theorem Plain.apart_left (plain : Plain c) (d : Char) : Apart c d := by
  simp [Apart, plain.solid, plain.unmarked]

theorem Plain.apart_right (plain : Plain d) (c : Char) : Apart c d := by
  simp [Apart, plain.solid, plain.unmarked]

theorem marksNext_of_isChain (blank : isBlank c = true) (snug : (c :: s).IsChain Apart) :
    marksNext s = false := by
  induction s generalizing c with
  | nil => rfl
  | cons d s ih =>
      obtain ⟨here, later⟩ := List.isChain_cons_cons.mp snug
      cases next : isBlank d with
      | true => rw [marksNext_cons_blank next, ih next later]
      | false =>
          rw [marksNext_cons_solid next, Bool.eq_false_iff]
          exact fun mark => here.1 ⟨blank, mark⟩

theorem apart_of_marksNext (blank : isBlank c = true) (calm : marksNext s = false) :
    ∀ d ∈ s.head?, Apart c d := by
  intro d first
  have unmarked : isMark c = false := Bool.eq_false_iff.mpr fun mark => by
    simp [isBlank_of_isMark mark] at blank
  obtain ⟨rest, rfl⟩ := List.head?_eq_some_iff.mp first
  constructor
  · rintro ⟨_, mark⟩
    rw [marksNext_cons_solid (isBlank_of_isMark mark), mark] at calm
    cases calm
  · rintro ⟨mark, _⟩
    cases unmarked.symm.trans mark

/-- Nothing is taken away exactly where white space and marks are apart everywhere. -/
theorem tighten_eq_self_iff :
    tighten behind s = s ↔
      (behind = true → ∀ c ∈ s.head?, isBlank c = false) ∧ s.IsChain Apart := by
  induction s generalizing behind with
  | nil => simp [tighten]
  | cons c s ih =>
      rw [List.isChain_cons]
      cases blank : isBlank c with
      | false =>
          have apart (d : Char) : Apart c d ↔ (isMark c = true → isBlank d = false) := by
            simp [Apart, blank]
          rw [tighten_cons blank, List.cons.injEq, ih]
          simp only [apart, List.head?_cons, Option.mem_def, Option.some.injEq, true_and]
          constructor
          · rintro ⟨first, snug⟩
            exact ⟨fun _ _ same => same ▸ blank, fun d next mark => first mark d next, snug⟩
          · rintro ⟨_, next, snug⟩
            exact ⟨fun mark d first => next d first mark, snug⟩
      | true =>
          rw [tighten, if_pos blank]
          constructor
          · intro kept
            split at kept
            case isTrue =>
              -- a character that is taken away is missing
              have short := (tighten_sublist behind s).length_le
              rw [kept, List.length_cons] at short
              omega
            case isFalse calm =>
              rw [Bool.not_eq_true, Bool.or_eq_false_iff] at calm
              obtain ⟨_, snug⟩ := ih.mp (List.cons.inj kept).2
              refine ⟨fun impossible => ?_, apart_of_marksNext blank calm.2, snug⟩
              cases calm.1.symm.trans impossible
          · rintro ⟨first, apart, snug⟩
            have open' : behind = false := by
              rw [Bool.eq_false_iff]
              intro after
              cases blank.symm.trans (first after c rfl)
            have calm := marksNext_of_isChain blank (List.isChain_cons.mpr ⟨apart, snug⟩)
            have kept : tighten false s = s :=
              ih.mpr ⟨fun impossible => absurd impossible Bool.false_ne_true, snug⟩
            rw [open', calm, if_neg (by decide), kept]

/-! ## Lower case -/

theorem isMark_of_formed (formed : Formed c) : isMark c = false :=
  isMark_of_letter (by have := formed.above; omega)

/-- White space and marks are their own small forms, and any other character has plain ones. -/
theorem lowerAt_cases (before : List Char) (c : Char) (rest : List Char) :
    lowerAt before c rest = [c] ∨ Plain c ∧ ∀ d ∈ lowerAt before c rest, Plain d := by
  by_cases divides : Divides c
  · left
    have sigma : c ≠ 'Σ' := by
      rintro rfl
      exact absurd divides.uncased (by decide +kernel)
    rw [lowerAt, if_neg sigma, divides.kept]
  · have plain : Plain c :=
      ⟨Bool.eq_false_iff.mpr (mt divides_of_isBlank divides),
        Bool.eq_false_iff.mpr (mt divides_of_isMark divides)⟩
    refine .inr ⟨plain, fun d mem => ?_⟩
    rcases (mem_lowerAt mem).2 with rfl | formed
    · exact plain
    · exact ⟨formed.solid, isMark_of_formed formed⟩

/-- What stands beside a character is a mark or white space in lower case as in the text. -/
theorem apart_head?_lowerFrom_iff :
    (∀ d ∈ (lowerFrom before s).head?, Apart c d) ↔ ∀ d ∈ s.head?, Apart c d := by
  cases s with
  | nil => rfl
  | cons e rest =>
      rw [lowerFrom_cons]
      rcases lowerAt_cases before e rest with kept | ⟨plain, small⟩
      · rw [kept]
        rfl
      · obtain ⟨made, others, shape⟩ := List.exists_cons_of_ne_nil (lowerAt_ne_nil before e rest)
        rw [shape] at small ⊢
        have first := small made List.mem_cons_self
        simp [first.apart_right, plain.apart_right]

theorem isChain_of_plain (plain : ∀ c ∈ s, Plain c) : s.IsChain Apart := by
  induction s with
  | nil => exact .nil
  | cons c s ih =>
      rw [List.isChain_cons]
      exact ⟨fun d _ => (plain c List.mem_cons_self).apart_left d,
        ih fun d mem => plain d (.tail _ mem)⟩

theorem isChain_lowerFrom_iff : (lowerFrom before s).IsChain Apart ↔ s.IsChain Apart := by
  induction s generalizing before with
  | nil => rfl
  | cons c rest ih =>
      rw [lowerFrom_cons, List.isChain_cons]
      rcases lowerAt_cases before c rest with kept | ⟨plain, small⟩
      · rw [kept, List.singleton_append, List.isChain_cons, ih, apart_head?_lowerFrom_iff]
      · have ends : ∀ d ∈ (lowerAt before c rest).getLast?,
            ∀ e ∈ (lowerFrom (c :: before) rest).head?, Apart d e := fun d last e _ =>
          (small d (List.mem_of_mem_getLast? last)).apart_left e
        rw [List.isChain_append, ih]
        constructor
        · rintro ⟨_, snug, _⟩
          exact ⟨fun d _ => plain.apart_left d, snug⟩
        · rintro ⟨_, snug⟩
          exact ⟨isChain_of_plain small, snug, ends⟩

/-! ## Stray parentheses -/

theorem bareName_sublist_dropWhile (s : List Char) :
    (bareName s).Sublist (s.dropWhile (· == '(')) := by
  rw [← List.reverse_sublist, bareName, List.reverse_reverse]
  exact List.dropWhile_sublist _

theorem bareName_sublist (s : List Char) : (bareName s).Sublist s :=
  (bareName_sublist_dropWhile s).trans (List.dropWhile_sublist _)

theorem dropWhile_beq_eq_self_iff {m : Char} :
    s.dropWhile (· == m) = s ↔ s.head? ≠ some m := by
  rw [List.dropWhile_eq_self_iff]
  cases s with
  | nil => simp
  | cons c s => simp

theorem bareName_eq_self_iff :
    bareName s = s ↔ s.head? ≠ some '(' ∧ s.getLast? ≠ some ')' := by
  rw [← dropWhile_beq_eq_self_iff, ← List.head?_reverse, ← dropWhile_beq_eq_self_iff]
  constructor
  · intro kept
    have front : s.dropWhile (· == '(') = s := by
      have back := bareName_sublist_dropWhile s
      rw [kept] at back
      exact (List.dropWhile_sublist _).antisymm back
    rw [bareName, front, List.reverse_eq_iff] at kept
    exact ⟨front, kept⟩
  · rintro ⟨front, back⟩
    rw [bareName, front, back, List.reverse_reverse]

/-! ## The name that a range asks for -/

/-- The name that is left of the one that a range was written with. -/
def asked (name : List Char) : List Char :=
  bareName (normal name)

/-- A name from which nothing is taken away: it has no white space next to a mark, no opening
parenthesis at its start, and no closing one at its end. -/
structure Quotable (name : List Char) : Prop where
  snug : name.IsChain Apart
  opened : name.head? ≠ some '('
  closed : name.getLast? ≠ some ')'

instance (name : List Char) : Decidable (Quotable name) :=
  decidable_of_iff (name.IsChain Apart ∧ name.head? ≠ some '(' ∧ name.getLast? ≠ some ')')
    ⟨fun ⟨snug, opened, closed⟩ => ⟨snug, opened, closed⟩,
      fun ⟨snug, opened, closed⟩ => ⟨snug, opened, closed⟩⟩

theorem head?_lower_iff {m : Char} (mark : isMark m = true) :
    (lower s).head? = some m ↔ s.head? = some m := by
  constructor
  · intro first
    refine (head?_lower first).resolve_right fun formed => ?_
    cases (isMark_of_formed formed).symm.trans mark
  · intro first
    obtain ⟨rest, rfl⟩ := List.head?_eq_some_iff.mp first
    rw [← List.nil_append (m :: rest), lower_append (divides_of_isMark mark)]
    rfl

theorem getLast?_lower_iff {m : Char} (mark : isMark m = true) :
    (lower s).getLast? = some m ↔ s.getLast? = some m := by
  constructor
  · intro last
    refine (getLast?_lower last).resolve_right fun formed => ?_
    cases (isMark_of_formed formed).symm.trans mark
  · intro last
    obtain ⟨front, rfl⟩ := List.getLast?_eq_some_iff.mp last
    rw [lower_append (divides_of_isMark mark), List.getLast?_append]
    rfl

/-- The name that is asked for is the whole name exactly if it can be asked for as it stands. -/
theorem asked_eq_iff (trimmed : trim name = name) : asked name = lower name ↔ Quotable name := by
  have tight : normal name = tighten false (lower name) := by rw [normal, trimmed]
  constructor
  · intro kept
    have whole : normal name = lower name := by
      apply (tight ▸ tighten_sublist false (lower name)).antisymm
      rw [← kept]
      exact bareName_sublist (normal name)
    rw [asked, whole, bareName_eq_self_iff, ne_eq, ne_eq, head?_lower_iff rfl,
      getLast?_lower_iff rfl] at kept
    rw [tight] at whole
    exact ⟨isChain_lowerFrom_iff.mp (tighten_eq_self_iff.mp whole).2, kept.1, kept.2⟩
  · rintro ⟨snug, opened, closed⟩
    have whole : normal name = lower name := by
      rw [tight]
      exact tighten_eq_self_iff.mpr
        ⟨fun impossible => absurd impossible Bool.false_ne_true, isChain_lowerFrom_iff.mpr snug⟩
    rw [asked, whole, bareName_eq_self_iff, ne_eq, ne_eq, head?_lower_iff rfl,
      getLast?_lower_iff rfl]
    exact ⟨opened, closed⟩

/-- Whatever is left of a name is in lower case, so that it is compared as it is. -/
theorem lower_trim_asked (name : List Char) : lower (trim (asked name)) = trim (asked name) := by
  have left : (trim (asked name)).Sublist (lower (trim name)) :=
    (trim_sublist _).trans ((bareName_sublist _).trans (tighten_sublist false _))
  exact lowerFrom_of_settled fun c mem => (mem_lowerFrom (left.subset mem)).1

theorem trim_asked_eq_iff (trimmed : trim name = name) :
    trim (asked name) = lower name ↔ Quotable name := by
  rw [← asked_eq_iff trimmed]
  constructor
  · intro kept
    have left : (asked name).Sublist (lower name) := by
      have inner := (bareName_sublist (normal name)).trans (tighten_sublist false _)
      rwa [trimmed] at inner
    apply left.antisymm
    rw [← kept]
    exact trim_sublist (asked name)
  · intro whole
    rw [whole, trim_lower, trimmed]

end Formula

namespace Workbook

open Formula

variable {w : Workbook} {name : String} {sheet : Sheet} {word keyword : List Char}
  {aggregate : Aggregate} {first last : Point}

/-- The name that a range asks for leads to the sheet that the written name leads to exactly if
nothing was taken away. -/
theorem scope_find?_asked_iff (trimmed : trim name.toList = name.toList)
    (found : w.find? name = some sheet) :
    w.scope.find? (asked name.toList) = some sheet ↔ Quotable name.toList := by
  constructor
  · intro reached
    rw [← trim_asked_eq_iff trimmed, ← lower_trim_asked]
    have here := List.find?_some found
    have there := List.find?_some reached
    rw [Sheet.answersTo, Sheet.sameName, beq_iff_eq, trimmed] at here
    rw [Sheet.sameName, beq_iff_eq] at there
    exact there.symm.trans here
  · intro quotable
    rw [(asked_eq_iff trimmed).mpr quotable, scope_find?_lower trimmed, found]

/-- A range that is written with the name of a sheet is read as a range.  It folds the numbers of the
sheet that the name leads to if nothing is taken away from the name, and otherwise the name that is
read does not lead there. -/
theorem range_reaches_iff (attached : w.evaluating = true)
    (known : (keyword, aggregate) ∈ Aggregate.keywords) (same : word.map Char.toLower = keyword)
    (accepted : w.addSheet? name ≠ none) (trimmed : trim name.toList = name.toList)
    (comma : ',' ∉ name.toList) (line : '\n' ∉ name.toList) (start : first.Unsigned)
    (stop : last.Unsigned) (found : w.find? name = some sheet) :
    ∃ asked,
      parse (callText word (rangeText name.toList first last)) =
        .ok ⟨aggregate, .range asked first last⟩ ∧
      (w.scope.find? asked = some sheet ↔ Quotable name.toList) ∧
      (Quotable name.toList →
        w.evaluate (callText word (rangeText name.toList first last)) =
          .number (aggregate.fold (numbersBetween sheet.grid first last))) := by
  have filled : ¬ AllBlank name.toList := mt addSheet?_eq_none_iff.mpr accepted
  have read : parse (callText word (rangeText name.toList first last)) =
      .ok ⟨aggregate, .range (asked name.toList) first last⟩ := by
    rw [rangeText_eq, parse_spanText known same filled trimmed comma line start.numeral
      stop.numeral, Point.point?_corner, Point.point?_corner]
    rfl
  refine ⟨_, read, scope_find?_asked_iff trimmed found, fun quotable => ?_⟩
  have reached := (scope_find?_asked_iff trimmed found).mpr quotable
  rw [evaluate_of_parse attached read, Formula.value,
    numbers_eq_numbersBetween reached start stop]

/-- A sheet with parentheses inside its name, which a range asks for as it stands. -/
theorem range_reaches_iff_of_inner_parentheses :
    let sheet : Sheet := ⟨"Q(1)x", (Grid.empty ⟨1, 1⟩).put ⟨0, 0⟩ ⟨"5", .number 5.0⟩⟩
    let w : Workbook := ⟨[sheet], 0, ⟨1, 1⟩, true, by decide, by decide⟩
    ∃ asked,
      parse "SUM(Q(1)x,(1,1),(1,1))".toList = .ok ⟨.sum, .range asked ⟨1, 1⟩ ⟨1, 1⟩⟩ ∧
      (w.scope.find? asked = some sheet ↔ Quotable "Q(1)x".toList) ∧
      (Quotable "Q(1)x".toList →
        w.evaluate "SUM(Q(1)x,(1,1),(1,1))".toList =
          .number (Aggregate.sum.fold (numbersBetween sheet.grid ⟨1, 1⟩ ⟨1, 1⟩))) := by
  intro sheet w
  have found : w.find? "Q(1)x" = some sheet := List.find?_cons_of_pos (by decide)
  have accepted : w.addSheet? "Q(1)x" ≠ none := mt addSheet?_eq_none_iff.mp (by decide)
  exact @range_reaches_iff w "Q(1)x" sheet "SUM".toList "sum".toList .sum ⟨1, 1⟩ ⟨1, 1⟩ rfl
    (by decide) (by decide) accepted (by decide) (by decide) (by decide) (by decide) (by decide)
    found

/-- Sheets that their names lead to, but not the ranges that are written with these names. -/
theorem range_misses_of_stray_marks :
    let sheet (name : String) : Sheet :=
      ⟨name, (Grid.empty ⟨1, 1⟩).put ⟨0, 0⟩ ⟨"5", .number 5.0⟩⟩
    let w (name : String) : Workbook :=
      ⟨[sheet name], 0, ⟨1, 1⟩, true, Nat.zero_lt_one, countLimit_pos⟩
    let missed (name : String) : Prop :=
      ((w name).addSheet? name).isSome ∧ trim name.toList = name.toList ∧ ',' ∉ name.toList ∧
        ((w name).find? name).isSome ∧ numbersBetween (sheet name).grid ⟨1, 1⟩ ⟨1, 1⟩ = [5.0] ∧
        (w name).evaluate (callText "sum".toList (rangeText name.toList ⟨1, 1⟩ ⟨1, 1⟩)) ≠
          .number (Aggregate.sum.fold [5.0])
    missed "x (y)" ∧ missed "(a" ∧ missed "a)" := by
  dsimp only
  decide

end Workbook

end Gridbook
