import Gridbook.Formula.Parser
import Gridbook.Proofs.Text.Coordinates
import Gridbook.Proofs.Text.Lower

/-!
# Formulas as they are written

A formula is written as a word and its arguments in parentheses: points with commas between them, or
the name of a sheet and the two corners of a rectangle.  Written points are in lower case already
and hold no white space, and a sheet's name is put into lower case apart from them.  So the form in
which a written formula is read differs from the text only in the case of the word and the name.
-/

namespace Gridbook.Formula

open Text

/-! ## Written formulas -/

/-- A coordinate in text: its decimal digits, after a minus sign if it is negative. -/
def coordinateText (n : Int64) : List Char :=
  match n.toInt with
  | .ofNat size => digits size
  | .negSucc size => '-' :: digits (size + 1)

/-- A point in text. -/
def Point.text (p : Point) : List Char :=
  '(' :: coordinateText p.row ++ ',' :: coordinateText p.col ++ [')']

/-- Points in text, with commas between them. -/
def pointsText (points : List Point) : List Char :=
  [','].intercalate (points.map Point.text)

/-- The name of a sheet and two corners in text, with commas between them. -/
def rangeText (name : List Char) (first last : Point) : List Char :=
  name ++ ',' :: first.text ++ ',' :: last.text

/-- A word and its arguments in parentheses. -/
def callText (word arguments : List Char) : List Char :=
  word ++ '(' :: arguments ++ [')']

/-- A point neither of whose coordinates is negative. -/
structure Point.Unsigned (p : Point) : Prop where
  row : 0 ≤ p.row.toInt
  col : 0 ≤ p.col.toInt

/-- A text by which a formula can ask for a sheet: it is not empty, has no white space at its ends,
no mark of a formula in it, and stands on one line. -/
structure SheetName (name : List Char) : Prop where
  filled : name ≠ []
  trimmed : trim name = name
  unmarked : ∀ c ∈ name, isMark c = false
  line : '\n' ∉ name

instance (p : Point) : Decidable p.Unsigned :=
  decidable_of_iff (0 ≤ p.row.toInt ∧ 0 ≤ p.col.toInt)
    ⟨fun ⟨row, col⟩ => ⟨row, col⟩, fun ⟨row, col⟩ => ⟨row, col⟩⟩

instance (name : List Char) : Decidable (SheetName name) :=
  decidable_of_iff
    (name ≠ [] ∧ trim name = name ∧ (name.all fun c => !isMark c) = true ∧ '\n' ∉ name)
    ⟨fun ⟨filled, trimmed, unmarked, line⟩ => ⟨filled, trimmed, by simpa using unmarked, line⟩,
      fun ⟨filled, trimmed, unmarked, line⟩ => ⟨filled, trimmed, by simpa using unmarked, line⟩⟩

/-! ## Coordinates -/

theorem coordinateText_of_nonneg {n : Int64} (nonneg : 0 ≤ n.toInt) :
    coordinateText n = digits n.toInt.toNat := by
  unfold coordinateText
  obtain ⟨size, same⟩ := Int.eq_ofNat_of_zero_le nonneg
  rw [same]
  rfl

/-- A written coordinate is read back, down to the smallest one. -/
theorem coordinate?_coordinateText (n : Int64) : coordinate? (coordinateText n) = some n := by
  have above := n.le_toInt
  have below := n.toInt_lt
  unfold coordinateText
  cases same : n.toInt with
  | ofNat size =>
      have bound : size < 2 ^ 63 := by
        rw [same] at below
        exact Int.ofNat_lt.mp below
      have value : Int64.ofNat size = n := by
        apply Int64.toInt.inj
        rw [Int64.toInt_ofNat_of_lt bound, same]
        rfl
      dsimp only
      rw [coordinate?_digits (coordinateLimit_eq ▸ bound), value]
  | negSucc size =>
      have bound : size + 1 ≤ 2 ^ 63 := by
        rw [same] at above
        omega
      have value : -Int64.ofNat (size + 1) = n := by
        apply Int64.toInt.inj
        rw [Int64.toInt_neg_ofNat_of_le bound, same]
        rfl
      dsimp only
      rw [coordinate?, natural?_digits, Option.bind_some, if_pos (coordinateLimit_eq ▸ bound), value]

/-! ## Characters of written points -/

/-- An ASCII character other than a capital letter and white space. -/
structure Terse (c : Char) : Prop where
  ascii : c.toNat < 0x80
  small : c.toLower = c
  solid : isBlank c = false

theorem terse_of_isDigit {c : Char} (digit : c.isDigit = true) : Terse c := by
  obtain ⟨_, upper⟩ := toNat_of_isDigit digit
  exact ⟨by omega, toLower_of_isDigit digit, isBlank_of_isDigit digit⟩

theorem terse_of_isMark {c : Char} (mark : isMark c = true) : Terse c := by
  simp only [isMark, Bool.or_eq_true, beq_iff_eq] at mark
  rcases mark with (rfl | rfl) | rfl <;> exact ⟨by decide, by decide, by decide⟩

/-- A coordinate is written with digits and a minus sign. -/
theorem mem_coordinateText {n : Int64} {c : Char} (mem : c ∈ coordinateText n) :
    c.isDigit = true ∨ c = '-' := by
  unfold coordinateText at mem
  split at mem
  · exact .inl (isDigit_of_mem_digits mem)
  · rcases List.mem_cons.mp mem with sign | digit
    · exact .inr sign
    · exact .inl (isDigit_of_mem_digits digit)

theorem terse_of_mem_coordinateText {n : Int64} {c : Char} (mem : c ∈ coordinateText n) :
    Terse c := by
  rcases mem_coordinateText mem with digit | rfl
  · exact terse_of_isDigit digit
  · exact ⟨by decide, by decide, by decide⟩

theorem isMark_of_isDigit {c : Char} (digit : c.isDigit = true) : isMark c = false := by
  rw [Bool.eq_false_iff]
  intro mark
  simp only [isMark, Bool.or_eq_true, beq_iff_eq] at mark
  rcases mark with (rfl | rfl) | rfl <;> cases digit

theorem isMark_of_mem_coordinateText {n : Int64} {c : Char} (mem : c ∈ coordinateText n) :
    isMark c = false := by
  rcases mem_coordinateText mem with digit | rfl
  · exact isMark_of_isDigit digit
  · rfl

theorem Point.terse_of_mem_text {p : Point} {c : Char} (mem : c ∈ p.text) : Terse c := by
  simp only [text, List.cons_append, List.append_assoc, List.mem_cons, List.mem_append,
    List.not_mem_nil, or_false] at mem
  rcases mem with rfl | row | rfl | col | rfl
  · exact terse_of_isMark rfl
  · exact terse_of_mem_coordinateText row
  · exact terse_of_isMark rfl
  · exact terse_of_mem_coordinateText col
  · exact terse_of_isMark rfl

theorem terse_of_mem_pointsText {points : List Point} {c : Char} (mem : c ∈ pointsText points) :
    Terse c := by
  unfold pointsText at mem
  induction points with
  | nil => cases mem
  | cons p rest ih =>
      cases rest with
      | nil =>
          rw [List.map_singleton, List.intercalate_singleton] at mem
          exact p.terse_of_mem_text mem
      | cons q rest =>
          rw [List.map_cons, List.map_cons, List.intercalate_cons_cons, List.mem_append,
            List.mem_append, List.mem_singleton] at mem
          rcases mem with (here | rfl) | later
          · exact p.terse_of_mem_text here
          · exact terse_of_isMark rfl
          · exact ih later

theorem lower_of_terse {s : List Char} (terse : ∀ c ∈ s, Terse c) : lower s = s := by
  rw [lower_of_ascii fun c mem => (terse c mem).ascii]
  exact (List.map_congr_left fun c mem => (terse c mem).small).trans (List.map_id s)

theorem divides_of_isMark {c : Char} (mark : isMark c = true) : Divides c := by
  simp only [isMark, Bool.or_eq_true, beq_iff_eq] at mark
  rcases mark with (rfl | rfl) | rfl <;>
    exact ⟨by decide +kernel, by decide +kernel, lowerChar_of_ascii (by decide)⟩

/-! ## Taking away white space -/

variable {behind : Bool} {s rest : List Char} {m : Char}

theorem isBlank_of_isMark (mark : isMark m = true) : isBlank m = false :=
  (terse_of_isMark mark).solid

theorem tighten_cons (solid : isBlank m = false) (behind : Bool) (rest : List Char) :
    tighten behind (m :: rest) = m :: tighten (isMark m) rest := by
  rw [tighten, if_neg (Bool.eq_false_iff.mp solid)]

/-- Where there is no white space, none is taken away. -/
theorem tighten_of_solid (solid : ∀ c ∈ s, isBlank c = false) : tighten behind s = s := by
  induction s generalizing behind with
  | nil => rfl
  | cons c s ih =>
      rw [tighten_cons (solid c List.mem_cons_self), ih fun d mem => solid d (.tail _ mem)]

theorem marksNext_append (unmarked : ∀ c ∈ s, isMark c = false) (filled : s ≠ [])
    (last : ∀ c ∈ s.getLast?, isBlank c = false) : marksNext (s ++ rest) = false := by
  induction s with
  | nil => exact absurd rfl filled
  | cons c s ih =>
      cases blank : isBlank c with
      | false =>
          rw [List.cons_append, marksNext, trimStart_eq_self]
          · simpa using unmarked c List.mem_cons_self
          · rintro d ⟨⟩
            exact blank
      | true =>
          rw [List.cons_append, marksNext, trimStart_cons blank]
          cases s with
          | nil => exact absurd (last c rfl) (by simp [blank])
          | cons d s =>
              rw [List.getLast?_cons_cons] at last
              exact ih (fun e mem => unmarked e (.tail _ mem)) (List.cons_ne_nil _ _) last

/-- White space inside a text without marks is kept up to the mark that follows the text. -/
theorem tighten_append (mark : isMark m = true) (unmarked : ∀ c ∈ s, isMark c = false)
    (first : behind = true → ∀ c ∈ s.head?, isBlank c = false)
    (last : ∀ c ∈ s.getLast?, isBlank c = false) :
    tighten behind (s ++ m :: rest) = s ++ m :: tighten true rest := by
  induction s generalizing behind with
  | nil => rw [List.nil_append, tighten_cons (isBlank_of_isMark mark), mark, List.nil_append]
  | cons c s ih =>
      have others : ∀ d ∈ s, isMark d = false := fun d mem => unmarked d (.tail _ mem)
      have end' : ∀ d ∈ s.getLast?, isBlank d = false := by
        intro d mem
        apply last
        rw [List.getLast?_cons, Option.mem_def.mp mem]
        rfl
      have inner : tighten false (s ++ m :: rest) = s ++ m :: tighten true rest :=
        ih others (fun impossible => by cases impossible) end'
      cases blank : isBlank c with
      | false =>
          rw [List.cons_append, tighten_cons blank, unmarked c List.mem_cons_self, inner]
          rfl
      | true =>
          -- white space stays because it is neither behind a mark nor in front of one
          have filled : s ≠ [] := by
            rintro rfl
            exact absurd (last c rfl) (by simp [blank])
          have open' : behind = false := by
            rw [Bool.eq_false_iff]
            intro after
            exact absurd (first after c rfl) (by simp [blank])
          have calm : marksNext (s ++ m :: rest) = false := marksNext_append others filled end'
          rw [List.cons_append, tighten, if_pos blank, open', calm, inner]
          rfl

/-! ## The form in which a written formula is read -/

section Call

variable {word keyword arguments tight : List Char} {aggregate : Aggregate} {c : Char}

theorem opening?_append (known : (keyword, aggregate) ∈ Aggregate.keywords) (rest : List Char) :
    opening? (keyword ++ '(' :: rest) = some (aggregate, rest) := by
  simp only [Aggregate.keywords, List.mem_cons, Prod.mk.injEq, List.not_mem_nil, or_false] at known
  rcases known with ⟨rfl, rfl⟩ | ⟨rfl, rfl⟩ | ⟨rfl, rfl⟩ <;> rfl

/-- Keywords are made of small letters. -/
theorem small_of_mem_keyword (known : (keyword, aggregate) ∈ Aggregate.keywords)
    (mem : c ∈ keyword) : 0x61 ≤ c.toNat ∧ c.toNat ≤ 0x7A := by
  have letters : ∀ entry ∈ Aggregate.keywords,
      (entry.1.all fun c => 0x61 ≤ c.toNat ∧ c.toNat ≤ 0x7A) = true := by decide
  exact of_decide_eq_true (List.all_eq_true.mp (letters _ known) c mem)

theorem keyword_ne_nil (known : (keyword, aggregate) ∈ Aggregate.keywords) : keyword ≠ [] := by
  have filled : ∀ entry ∈ Aggregate.keywords, entry.1 ≠ [] := by decide
  exact filled _ known

theorem map_toLower_keyword (known : (keyword, aggregate) ∈ Aggregate.keywords) :
    keyword.map Char.toLower = keyword := by
  have small : ∀ entry ∈ Aggregate.keywords, entry.1.map Char.toLower = entry.1 := by decide
  exact small _ known

theorem isBlank_of_letter (above : 0x41 ≤ c.toNat) (below : c.toNat ≤ 0x7A) :
    isBlank c = false := by
  simp only [isBlank, Bool.or_eq_false_iff, Bool.and_eq_false_iff, decide_eq_false_iff_not,
    beq_eq_false_iff_ne]
  omega

theorem isMark_of_letter (above : 0x41 ≤ c.toNat) : isMark c = false := by
  rw [Bool.eq_false_iff]
  intro mark
  simp only [isMark, Bool.or_eq_true, beq_iff_eq] at mark
  rcases mark with (rfl | rfl) | rfl <;> exact absurd above (by decide)

theorem isMark_of_mem_keyword (known : (keyword, aggregate) ∈ Aggregate.keywords)
    (mem : c ∈ keyword) : isMark c = false :=
  isMark_of_letter (Nat.le_trans (by decide) (small_of_mem_keyword known mem).1)

/-- The characters of a word that is a keyword in some letter case. -/
theorem letter_of_mem_word (known : (keyword, aggregate) ∈ Aggregate.keywords)
    (same : word.map Char.toLower = keyword) (mem : c ∈ word) :
    0x41 ≤ c.toNat ∧ c.toNat ≤ 0x7A := by
  have small := small_of_mem_keyword known (same ▸ List.mem_map_of_mem mem)
  by_cases capital : 0x41 ≤ c.toNat ∧ c.toNat ≤ 0x5A
  · omega
  · rw [toLower_of_not_capital capital] at small
    omega

theorem trim_callText (known : (keyword, aggregate) ∈ Aggregate.keywords)
    (same : word.map Char.toLower = keyword) (arguments : List Char) :
    trim (callText word arguments) = callText word arguments := by
  apply trim_eq_self
  · intro c first
    cases word with
    | nil => exact absurd same.symm (keyword_ne_nil known)
    | cons d word =>
        obtain rfl := Option.some.inj first
        obtain ⟨above, below⟩ := letter_of_mem_word known same List.mem_cons_self
        exact isBlank_of_letter above below
  · intro c last
    rw [callText, List.getLast?_append] at last
    obtain rfl := Option.some.inj last
    rfl

/-- Only the arguments of a written formula are left to be put into the form that is read. -/
theorem normal_callText (known : (keyword, aggregate) ∈ Aggregate.keywords)
    (same : word.map Char.toLower = keyword) (arguments : List Char) :
    normal (callText word arguments) =
      keyword ++ '(' :: tighten true (lower arguments ++ [')']) := by
  have closing := lower_append (divides_of_isMark (c := ')') rfl) arguments []
  have small : lower word = keyword := by
    rw [lower_of_ascii, same]
    intro c mem
    have := (letter_of_mem_word known same mem).2
    omega
  rw [normal, trim_callText known same, callText, List.append_assoc, List.cons_append,
    lower_append (divides_of_isMark rfl), small, closing]
  apply tighten_append rfl
  · exact fun c mem => isMark_of_mem_keyword known mem
  · exact fun impossible => nomatch impossible
  · intro c last
    have := small_of_mem_keyword known (List.mem_of_mem_getLast? last)
    exact isBlank_of_letter (by omega) (by omega)

/-- A written formula is read as its keyword's aggregate, with the operands that its arguments have
once they are in lower case and without white space next to their marks. -/
theorem parse_callText (known : (keyword, aggregate) ∈ Aggregate.keywords)
    (same : word.map Char.toLower = keyword)
    (form : tighten true (lower arguments ++ [')']) = tight ++ [')']) :
    parse (callText word arguments) = .ok ⟨aggregate, .ofArguments tight⟩ := by
  have formula : ofNormal? (keyword ++ '(' :: (tight ++ [')'])) =
      some ⟨aggregate, .ofArguments tight⟩ := by
    rw [ofNormal?, opening?_append known, Option.map_some]
    dsimp only
    rw [beforeLast?_append, Option.map_some, Option.getD_some]
  rw [parse, normal_callText known same, form, formula]

end Call

/-! ### Points and the names of sheets -/

theorem tighten_lower_pointsText (points : List Point) :
    tighten true (lower (pointsText points) ++ [')']) = pointsText points ++ [')'] := by
  rw [lower_of_terse fun _ => terse_of_mem_pointsText]
  apply tighten_of_solid
  intro c mem
  rcases List.mem_append.mp mem with inner | closing
  · exact (terse_of_mem_pointsText inner).solid
  · obtain rfl := List.mem_singleton.mp closing
    rfl

theorem SheetName.first {name : List Char} (named : SheetName name) :
    ∀ c ∈ name.head?, isBlank c = false :=
  first_of_trim named.trimmed

theorem SheetName.last {name : List Char} (named : SheetName name) :
    ∀ c ∈ name.getLast?, isBlank c = false :=
  last_of_trim named.trimmed

/-- A sheet's name stays one in lower case. -/
theorem SheetName.lower {name : List Char} (named : SheetName name) : SheetName (lower name) := by
  have first : ∀ c ∈ (Text.lower name).head?, isBlank c = false := fun c mem =>
    (head?_lower mem).elim (named.first c) Formed.solid
  have last : ∀ c ∈ (Text.lower name).getLast?, isBlank c = false := fun c mem =>
    (getLast?_lower mem).elim (named.last c) Formed.solid
  refine ⟨lower_ne_nil named.filled, trim_eq_self first last, ?_, ?_⟩
  · intro c mem
    rcases mem_lower mem with own | formed
    · exact named.unmarked c own
    · exact isMark_of_letter (by have := formed.above; omega)
  · intro mem
    rcases mem_lower mem with own | formed
    · exact named.line own
    · exact absurd formed.above (by decide)

end Gridbook.Formula
