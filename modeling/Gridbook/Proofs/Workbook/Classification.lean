import Gridbook.Cell
import Gridbook.Proofs.Text.Trimming

/-!
# The classification of cells

A cell means what its content tells: a formula if it starts with `=`, and otherwise a finite number,
nothing, or text.  Only the outcome of a formula is not determined by the content.  The four
meanings are told apart by conditions on the content alone.
-/

namespace Gridbook

open Text Formula

namespace Cell

/-- The meaning of a cell is the one that its content has, the outcome of a formula apart. -/
def MeansContent (c : Cell) : Prop :=
  match formulaBody? c.content.toList with
  | some _ => ∃ outcome, c.meaning = .formula outcome
  | none => c.meaning = plainMeaning c.content.toList

theorem isSome_formulaBody?_iff (s : List Char) :
    (formulaBody? s).isSome = true ↔ s.head? = some '=' := by
  unfold formulaBody?
  split
  · exact ⟨fun _ => rfl, fun _ => rfl⟩
  · rename_i other
    constructor
    · intro impossible
      cases impossible
    · intro first
      obtain ⟨rest, rfl⟩ := List.head?_eq_some_iff.mp first
      exact absurd rfl (other rest)

theorem formulaBody?_eq_none_iff (s : List Char) : formulaBody? s = none ↔ s.head? ≠ some '=' := by
  rw [ne_eq, ← isSome_formulaBody?_iff, Bool.not_eq_true, Option.isSome_eq_false_iff,
    Option.isNone_iff_eq_none]

theorem meansContent_blank : blank.MeansContent := rfl

theorem meansContent_plain {content : String}
    (plain : content.toList.head? ≠ some '=') :
    MeansContent ⟨content, plainMeaning content.toList⟩ := by
  unfold MeansContent
  rw [(formulaBody?_eq_none_iff _).mpr plain]

theorem meansContent_formula {content : String} (outcome : Outcome)
    (marked : content.toList.head? = some '=') : (formula content outcome).MeansContent := by
  unfold MeansContent formula
  obtain ⟨body, found⟩ := Option.isSome_iff_exists.mp ((isSome_formulaBody?_iff _).mpr marked)
  rw [found]
  exact ⟨outcome, rfl⟩

/-- A cell that is made from a text means what the text tells, however formulas are evaluated. -/
theorem meansContent_ofInput (evaluate : List Char → Outcome) (content : String) :
    (ofInput evaluate content).MeansContent := by
  unfold ofInput
  cases found : formulaBody? content.toList with
  | none => exact meansContent_plain ((formulaBody?_eq_none_iff _).mp found)
  | some body =>
      exact meansContent_formula _ ((isSome_formulaBody?_iff _).mp (Option.isSome_of_eq_some found))

/-- A cell without content is the blank one. -/
theorem MeansContent.eq_blank {c : Cell} (means : c.MeansContent) (empty : c.content = "") :
    c = blank := by
  obtain ⟨content, meaning⟩ := c
  subst empty
  exact congrArg (Cell.mk "") means

/-- The meaning of a cell that is no formula. -/
theorem MeansContent.meaning_eq {c : Cell} (means : c.MeansContent)
    (plain : c.content.toList.head? ≠ some '=') : c.meaning = plainMeaning c.content.toList := by
  unfold MeansContent at means
  rw [(formulaBody?_eq_none_iff _).mpr plain] at means
  exact means

theorem MeansContent.exists_outcome {c : Cell} (means : c.MeansContent)
    (marked : c.content.toList.head? = some '=') : ∃ outcome, c.meaning = .formula outcome := by
  unfold MeansContent at means
  obtain ⟨body, found⟩ := Option.isSome_iff_exists.mp ((isSome_formulaBody?_iff _).mpr marked)
  rw [found] at means
  exact means

/-! ## The meaning of a text that is no formula -/

/-- A text stands for a number if it has a digit and is read, without the white space around it, as
a finite number. -/
def IsNumber (s : List Char) (x : Float) : Prop :=
  (∃ c ∈ trim s, c.isDigit = true) ∧ Number.read? (trim s) = some x ∧ Number.isFinite x = true

theorem finiteNumber?_eq_some_iff (s : List Char) (x : Float) :
    finiteNumber? (trim s) = some x ↔ IsNumber s x := by
  unfold finiteNumber? IsNumber
  by_cases digit : (trim s).any Char.isDigit = true
  · rw [if_pos digit, Option.filter_eq_some_iff]
    exact ⟨fun found => ⟨List.any_eq_true.mp digit, found⟩, fun found => found.2⟩
  · rw [if_neg digit]
    constructor
    · intro impossible
      cases impossible
    · intro found
      exact absurd (List.any_eq_true.mpr found.1) digit

/-- A text of white space stands for no number. -/
theorem not_isNumber_of_allBlank {s : List Char} (empty : AllBlank s) (x : Float) :
    ¬ IsNumber s x := by
  rintro ⟨⟨c, mem, _⟩, _⟩
  rw [(trim_eq_nil_iff s).mpr empty] at mem
  cases mem

theorem plainMeaning_eq_number_iff (s : List Char) (x : Float) :
    plainMeaning s = .number x ↔ IsNumber s x := by
  rw [← finiteNumber?_eq_some_iff, plainMeaning]
  cases finiteNumber? (trim s) with
  | some value => simp only [Meaning.number.injEq, Option.some.injEq]
  | none =>
      dsimp only
      split <;> constructor <;> intro clash <;> cases clash

theorem plainMeaning_eq_blank_iff (s : List Char) : plainMeaning s = .blank ↔ AllBlank s := by
  rw [← trim_eq_nil_iff, plainMeaning]
  cases found : finiteNumber? (trim s) with
  | some value =>
      have numeral := (finiteNumber?_eq_some_iff s value).mp found
      constructor
      · intro same
        cases same
      · intro empty
        exact absurd numeral (not_isNumber_of_allBlank ((trim_eq_nil_iff s).mp empty) value)
  | none =>
      dsimp only
      split
      · exact ⟨fun _ => ‹_›, fun _ => rfl⟩
      · constructor
        · intro clash
          cases clash
        · exact fun empty => absurd empty ‹_›

theorem plainMeaning_ne_formula (s : List Char) (outcome : Outcome) :
    plainMeaning s ≠ .formula outcome := by
  rw [plainMeaning]
  cases finiteNumber? (trim s) with
  | some value =>
      intro clash
      cases clash
  | none =>
      dsimp only
      split <;> intro clash <;> cases clash

theorem plainMeaning_eq_text_iff (s : List Char) :
    plainMeaning s = .text ↔ ¬ AllBlank s ∧ ∀ x, ¬ IsNumber s x := by
  rw [← plainMeaning_eq_blank_iff]
  simp only [← plainMeaning_eq_number_iff]
  cases meaning : plainMeaning s with
  | formula outcome => exact absurd meaning (plainMeaning_ne_formula s outcome)
  | _ => simp

/-! ## The classification -/

/-- When a cell is a formula, a number, blank, or text, in terms of its content. -/
structure Classified (c : Cell) : Prop where
  formula_iff : (∃ outcome, c.meaning = .formula outcome) ↔ c.content.toList.head? = some '='
  formulaText_eq : ∀ outcome, c.meaning = .formula outcome → c.formulaText = c.content
  number_iff : ∀ x, c.meaning = .number x ↔
    c.content.toList.head? ≠ some '=' ∧ IsNumber c.content.toList x
  blank_iff : c.meaning = .blank ↔ AllBlank c.content.toList
  text_iff : c.meaning = .text ↔ c.content.toList.head? ≠ some '=' ∧
    ¬ AllBlank c.content.toList ∧ ∀ x, ¬ IsNumber c.content.toList x
  value_eq : c.meaning = .text → c.value = .text c.content

theorem head?_ne_of_allBlank {s : List Char} (empty : AllBlank s) : s.head? ≠ some '=' := by
  intro first
  have dark : isBlank '=' = true := List.all_eq_true.mp empty '=' (List.mem_of_head? first)
  cases dark

theorem MeansContent.formula_iff {c : Cell} (means : c.MeansContent) :
    (∃ outcome, c.meaning = .formula outcome) ↔ c.content.toList.head? = some '=' := by
  constructor
  · rintro ⟨outcome, same⟩
    by_cases marked : c.content.toList.head? = some '='
    · exact marked
    · exact absurd ((means.meaning_eq marked).symm.trans same) (plainMeaning_ne_formula _ _)
  · exact means.exists_outcome

/-- A cell has a meaning other than a formula's if its content is no formula and has it. -/
theorem MeansContent.plain_iff {c : Cell} (means : c.MeansContent) {m : Meaning}
    (plain : ∀ outcome, m ≠ .formula outcome) : c.meaning = m ↔
      c.content.toList.head? ≠ some '=' ∧ plainMeaning c.content.toList = m := by
  constructor
  · intro same
    have unmarked : c.content.toList.head? ≠ some '=' := by
      intro marked
      obtain ⟨outcome, found⟩ := means.exists_outcome marked
      exact plain outcome (same.symm.trans found)
    exact ⟨unmarked, (means.meaning_eq unmarked).symm.trans same⟩
  · rintro ⟨unmarked, same⟩
    exact (means.meaning_eq unmarked).trans same

/-- A cell that means its content is classified by it. -/
theorem MeansContent.classified {c : Cell} (means : c.MeansContent) : c.Classified := by
  refine ⟨means.formula_iff, ?_, ?_, ?_, ?_, ?_⟩
  · intro outcome same
    rw [formulaText, same]
  · intro x
    rw [means.plain_iff fun _ => Meaning.noConfusion, plainMeaning_eq_number_iff]
  · rw [means.plain_iff fun _ => Meaning.noConfusion, plainMeaning_eq_blank_iff]
    exact and_iff_right_of_imp head?_ne_of_allBlank
  · rw [means.plain_iff fun _ => Meaning.noConfusion, plainMeaning_eq_text_iff]
  · intro same
    rw [value, same]

end Cell

end Gridbook
