import Gridbook.Proofs.Text.Addresses
import Gridbook.Proofs.Text.Coordinates
import Gridbook.Proofs.Text.Trimming

/-!
# Addresses with white space

White space may stand at both ends of an address and on either side of each of its marks, and each
parenthesis may be left out.  A text is read as an address exactly if it is two runs of decimal
digits in such a setting, whose values count the row and the column from one and have room in
sixty-three bits.  Reading a pair of signed coordinates and counting down by one gives the same
addresses.
-/

namespace Gridbook

open Text

namespace Text

variable {s : List Char}

/-- A mark that may be left out. -/
def optionally (stands : Bool) (mark : Char) : List Char :=
  if stands then [mark] else []

theorem mem_optionally {stands : Bool} {mark c : Char} (mem : c ∈ optionally stands mark) :
    c = mark := by
  cases stands with
  | true => exact List.mem_singleton.mp mem
  | false => cases mem

theorem erase_optionally_append {mark : Char} (other : mark ∉ s) (stands : Bool) :
    (optionally stands mark ++ s).erase mark = s := by
  cases stands <;> simp [optionally, List.erase_of_not_mem other]

theorem erase_append_optionally {mark : Char} (other : mark ∉ s) (stands : Bool) :
    (s ++ optionally stands mark).erase mark = s := by
  rw [List.erase_append_right _ other]
  cases stands <;> simp [optionally]

/-- What is skipped is the mark or nothing. -/
theorem exists_eq_optionally_append (mark : Char) (s : List Char) :
    ∃ stands, s = optionally stands mark ++ skip mark s := by
  unfold skip
  cases found : after? [mark] s with
  | none => exact ⟨false, rfl⟩
  | some rest => exact ⟨true, eq_append_of_after? found⟩

/-- Skipping a mark and the white space around it takes nothing else. -/
theorem exists_eq_append_trimStart_skip (mark : Char) (s : List Char) :
    ∃ before stands behind, AllBlank before ∧ AllBlank behind ∧
      s = before ++ (optionally stands mark ++
        (behind ++ trimStart (skip mark (trimStart s)))) := by
  obtain ⟨before, blank, first⟩ := exists_eq_append_trimStart s
  obtain ⟨stands, second⟩ := exists_eq_optionally_append mark (trimStart s)
  obtain ⟨behind, blank', third⟩ := exists_eq_append_trimStart (skip mark (trimStart s))
  exact ⟨before, stands, behind, blank, blank', by rw [← third, ← second, ← first]⟩

/-- A mark that may be left out, and the white space around it, do not count. -/
theorem trimStart_skip_trimStart {before behind rest : List Char} (mark : Char)
    (solid : isBlank mark = false) (blank : AllBlank before) (blank' : AllBlank behind)
    (stop : ∀ c ∈ rest.head?, isBlank c = false ∧ c ≠ mark) (stands : Bool) :
    trimStart (skip mark (trimStart (before ++ (optionally stands mark ++ (behind ++ rest))))) =
      rest := by
  have start : trimStart rest = rest := trimStart_eq_self fun c first => (stop c first).1
  rw [trimStart_append_blank blank]
  cases stands with
  | true =>
      change trimStart (skip mark (trimStart (mark :: (behind ++ rest)))) = rest
      simp [trimStart_cons_solid solid, skip, after?, trimStart_append_blank blank', start]
  | false =>
      change trimStart (skip mark (trimStart (behind ++ rest))) = rest
      have kept : skip mark rest = rest := by
        cases rest with
        | nil => rfl
        | cons c rest => simp [skip, after?, (stop c rfl).2.symm]
      rw [trimStart_append_blank blank', start, kept, start]

end Text

namespace Address

variable {a : Address} {s t row col : List Char}

/-- A coordinate is read from a run of digits that counts from one and stays below the limit. -/
theorem component?_eq_some_iff {n : Nat} : component? s = some n ↔
    DigitRun s ∧ ofDigits s = n + 1 ∧ n + 1 < coordinateLimit := by
  simp only [component?, Option.bind_eq_some_iff, natural?_eq_some_iff,
    Option.ite_none_right_eq_some, Option.some.injEq]
  constructor
  · rintro ⟨m, ⟨run, rfl⟩, ⟨positive, small⟩, rfl⟩
    rw [Nat.sub_add_cancel positive]
    exact ⟨run, rfl, small⟩
  · rintro ⟨run, value, small⟩
    exact ⟨n + 1, ⟨run, value⟩, ⟨Nat.succ_pos n, small⟩, Nat.add_sub_cancel n 1⟩

/-- A run that may be negative is read as a coordinate of the address exactly if the signed
coordinate is one more. -/
theorem component?_of_signedRun (signed : SignedRun s) {n : Nat} :
    component? s = some n ↔ ∃ c, coordinate? s = some c ∧ c.toInt = n + 1 := by
  rw [component?_eq_some_iff]
  cases signed with
  | plain run =>
      rw [coordinate?_of_natural? (natural?_eq_some_iff.mpr ⟨run, rfl⟩)]
      have kept (small : ofDigits s < coordinateLimit) :
          (Int64.ofNat (ofDigits s)).toInt = ofDigits s :=
        Int64.toInt_ofNat_of_lt (coordinateLimit_eq ▸ small)
      constructor
      · rintro ⟨_, value, small⟩
        rw [← value] at small
        refine ⟨_, if_pos small, ?_⟩
        rw [kept small]
        omega
      · rintro ⟨c, read, value⟩
        obtain ⟨small, same⟩ := Option.ite_none_right_eq_some.mp read
        obtain rfl := Option.some.inj same
        rw [kept small] at value
        exact ⟨run, by omega, by omega⟩
  | @negated s run =>
      constructor
      · rintro ⟨other, _⟩
        cases other.digits '-' List.mem_cons_self
      · rintro ⟨c, read, value⟩
        rw [coordinate?, natural?_eq_some_iff.mpr ⟨run, rfl⟩, Option.bind_some] at read
        obtain ⟨small, same⟩ := Option.ite_none_right_eq_some.mp read
        obtain rfl := Option.some.inj same
        rw [Int64.toInt_neg_ofNat_of_le (coordinateLimit_eq ▸ small)] at value
        omega

/-! ## Settings -/

/-- The white space around the marks of an address in text, and the parentheses that stand. -/
structure Setting where
  opened : Bool
  closed : Bool
  front : List Char
  afterOpening : List Char
  beforeComma : List Char
  afterComma : List Char
  beforeClosing : List Char
  back : List Char

namespace Setting

variable {w : Setting}

/-- Nothing but white space stands around the marks. -/
structure Blank (w : Setting) : Prop where
  front : AllBlank w.front
  afterOpening : AllBlank w.afterOpening
  beforeComma : AllBlank w.beforeComma
  afterComma : AllBlank w.afterComma
  beforeClosing : AllBlank w.beforeClosing
  back : AllBlank w.back

/-- What follows the column. -/
def closing (w : Setting) : List Char :=
  w.beforeClosing ++ (optionally w.closed ')' ++ w.back)

/-- Two coordinates in a setting. -/
def text (w : Setting) (row col : List Char) : List Char :=
  w.front ++ (optionally w.opened '(' ++ (w.afterOpening ++
    (row ++ (w.beforeComma ++ ',' :: (w.afterComma ++ (col ++ w.closing))))))

/-- Both parentheses and no white space. -/
def plain : Setting := ⟨true, true, [], [], [], [], [], []⟩

/-- What follows the column does not continue its digits. -/
theorem Blank.isDigit_of_head?_closing (blank : w.Blank) :
    ∀ c ∈ w.closing.head?, c.isDigit = false := by
  apply blank.beforeClosing.isDigit_of_head?_append _
  cases w.closed with
  | true =>
      rintro c ⟨⟩
      rfl
  | false =>
      have stop := blank.back.isDigit_of_head?_append [] (by simp)
      rwa [List.append_nil] at stop

end Setting

/-- An address in a setting, counted from one. -/
def textIn (a : Address) (w : Setting) : List Char :=
  w.text (digits (a.row + 1)) (digits (a.col + 1))

theorem textIn_plain (a : Address) : a.textIn .plain = a.text := by
  simp [textIn, Setting.plain, Setting.text, Setting.closing, optionally, text]

/-! ## Reading -/

section Reading

variable {w : Setting}

/-- An address in any setting is read by reading its two coordinates. -/
theorem read?_setting (blank : w.Blank) (rows : DigitRun row) (cols : DigitRun col) :
    read? (w.text row col) =
      (component? row).bind fun r => (component? col).map fun c => ⟨r, c⟩ := by
  have opening : trimStart (skip '(' (trimStart (w.text row col))) =
      row ++ (w.beforeComma ++ ',' :: (w.afterComma ++ (col ++ w.closing))) := by
    apply trimStart_skip_trimStart '(' rfl blank.front blank.afterOpening
    intro c first
    have digit := rows.isDigit_of_head? first
    exact ⟨isBlank_of_isDigit digit, ne_of_isDigit digit rfl⟩
  have comma := blank.beforeComma.isDigit_of_head?_append (',' :: (w.afterComma ++
    (col ++ w.closing))) (by simp)
  have between : trimStart (w.beforeComma ++ ',' :: (w.afterComma ++ (col ++ w.closing))) =
      ',' :: (w.afterComma ++ (col ++ w.closing)) := by
    rw [trimStart_append_blank blank.beforeComma, trimStart_cons_solid rfl]
  have beyond (rest : List Char) : after? [','] (',' :: rest) = some rest :=
    after?_append [','] rest
  have second : trimStart (w.afterComma ++ (col ++ w.closing)) = col ++ w.closing := by
    rw [trimStart_append_blank blank.afterComma]
    exact trimStart_eq_self fun c first => isBlank_of_isDigit (cols.isDigit_of_head? first)
  have stop := blank.isDigit_of_head?_closing
  have closing : trimStart (skip ')' (trimStart w.closing)) = [] := by
    have none : ∀ c ∈ ([] : List Char).head?, isBlank c = false ∧ c ≠ ')' := nofun
    have ends := trimStart_skip_trimStart ')' rfl blank.beforeClosing blank.back none w.closed
    rwa [List.append_nil] at ends
  simp only [read?, opening, takeWhile_run rows.digits comma, dropWhile_run rows.digits comma,
    between, beyond, second, takeWhile_run cols.digits stop, dropWhile_run cols.digits stop,
    closing, Option.bind_eq_bind, Option.bind_some, if_true]
  cases component? row <;> cases component? col <;> rfl

/-- Every text that is read as an address is two coordinates in a setting. -/
theorem exists_setting_of_read? (found : read? t = some a) : ∃ w row col, Setting.Blank w ∧
    component? row = some a.row ∧ component? col = some a.col ∧ t = w.text row col := by
  unfold read? at found
  obtain ⟨front, opened, afterOpening, blankFront, blankOpening, opening⟩ :=
    exists_eq_append_trimStart_skip '(' t
  generalize trimStart (skip '(' (trimStart t)) = pair at found opening
  obtain ⟨r, readRow, found⟩ := Option.bind_eq_some_iff.mp found
  obtain ⟨rest, comma, found⟩ := Option.bind_eq_some_iff.mp found
  obtain ⟨c, readCol, found⟩ := Option.bind_eq_some_iff.mp found
  obtain ⟨nothing, same⟩ := Option.ite_none_right_eq_some.mp found
  obtain rfl := Option.some.inj same
  obtain ⟨beforeComma, blankBefore, divided⟩ :=
    exists_eq_append_trimStart (pair.dropWhile Char.isDigit)
  obtain ⟨afterComma, blankAfter, spaced⟩ := exists_eq_append_trimStart rest
  generalize trimStart rest = second at readCol nothing spaced
  obtain ⟨beforeClosing, closed, back, blankClosing, blankBack, closing⟩ :=
    exists_eq_append_trimStart_skip ')' (second.dropWhile Char.isDigit)
  rw [eq_append_of_after? comma, spaced] at divided
  rw [nothing, List.append_nil] at closing
  have first : pair = pair.takeWhile Char.isDigit ++
      (beforeComma ++ ([','] ++ (afterComma ++ second))) := by
    rw [← divided, List.takeWhile_append_dropWhile]
  have last : second = second.takeWhile Char.isDigit ++
      (beforeClosing ++ (optionally closed ')' ++ back)) := by
    rw [← closing, List.takeWhile_append_dropWhile]
  refine ⟨⟨opened, closed, front, afterOpening, beforeComma, afterComma, beforeClosing, back⟩, _, _,
    ⟨blankFront, blankOpening, blankBefore, blankAfter, blankClosing, blankBack⟩, readRow, readCol,
    ?_⟩
  conv_lhs => rw [opening, first, last]
  rfl

/-- A text is read as an address exactly if it is the address's coordinates in a setting. -/
theorem read?_eq_some_iff : read? t = some a ↔ ∃ w row col, Setting.Blank w ∧
    component? row = some a.row ∧ component? col = some a.col ∧ t = w.text row col := by
  refine ⟨exists_setting_of_read?, ?_⟩
  rintro ⟨w, row, col, blank, readRow, readCol, rfl⟩
  rw [read?_setting blank (component?_eq_some_iff.mp readRow).1
    (component?_eq_some_iff.mp readCol).1, readRow, readCol]
  rfl

/-- Reading is matching a pair of signed coordinates in a setting, reading them as words, and
counting down by one. -/
theorem read?_eq_some_iff_signed : read? t = some a ↔ ∃ w row col r c, Setting.Blank w ∧
    SignedRun row ∧ SignedRun col ∧ t = w.text row col ∧ coordinate? row = some r ∧
      coordinate? col = some c ∧ ofCoordinates? r c = some a := by
  rw [read?_eq_some_iff]
  constructor
  · rintro ⟨w, row, col, blank, readRow, readCol, shape⟩
    have rows := SignedRun.plain (component?_eq_some_iff.mp readRow).1
    have cols := SignedRun.plain (component?_eq_some_iff.mp readCol).1
    obtain ⟨r, foundRow, above⟩ := (component?_of_signedRun rows).mp readRow
    obtain ⟨c, foundCol, left⟩ := (component?_of_signedRun cols).mp readCol
    exact ⟨w, row, col, r, c, blank, rows, cols, shape, foundRow, foundCol,
      ofCoordinates?_eq_some_iff.mpr ⟨above, left⟩⟩
  · rintro ⟨w, row, col, r, c, blank, rows, cols, shape, foundRow, foundCol, found⟩
    obtain ⟨above, left⟩ := ofCoordinates?_eq_some_iff.mp found
    exact ⟨w, row, col, blank, (component?_of_signedRun rows).mpr ⟨r, foundRow, above⟩,
      (component?_of_signedRun cols).mpr ⟨c, foundCol, left⟩, shape⟩

/-! ## What is left without white space and parentheses -/

/-- A text without white space, one opening and one closing parenthesis. -/
def stripped (t : List Char) : List Char :=
  ((t.filter fun c => !isBlank c).erase '(').erase ')'

theorem solid_setting (blank : w.Blank) (rows : DigitRun row) (cols : DigitRun col) :
    (w.text row col).filter (fun c => !isBlank c) =
      optionally w.opened '(' ++ (row ++ ',' :: col ++ optionally w.closed ')') := by
  have gone {s : List Char} (blank : AllBlank s) : s.filter (fun c => !isBlank c) = [] := by
    simpa [List.filter_eq_nil_iff] using List.all_eq_true.mp blank
  have kept {s : List Char} (solid : ∀ c ∈ s, isBlank c = false) :
      s.filter (fun c => !isBlank c) = s := by
    simpa [List.filter_eq_self] using solid
  have run {s : List Char} (run : DigitRun s) :=
    kept fun c mem => isBlank_of_isDigit (run.digits c mem)
  have opening := kept (s := optionally w.opened '(') fun c mem => mem_optionally mem ▸ rfl
  have closing := kept (s := optionally w.closed ')') fun c mem => mem_optionally mem ▸ rfl
  have comma : isBlank ',' = false := rfl
  simp [Setting.text, Setting.closing, gone blank.front, gone blank.afterOpening,
    gone blank.beforeComma, gone blank.afterComma, gone blank.beforeClosing, gone blank.back,
    run rows, run cols, opening, closing, comma]

theorem stripped_setting (blank : w.Blank) (rows : DigitRun row) (cols : DigitRun col) :
    stripped (w.text row col) = row ++ ',' :: col := by
  have unopened : '(' ∉ row ++ ',' :: col ++ optionally w.closed ')' := by
    have apart : '(' ∉ optionally w.closed ')' := fun mem => absurd (mem_optionally mem) (by decide)
    simp [rows.notMem '(' rfl, cols.notMem '(' rfl, apart]
  have unclosed : ')' ∉ row ++ ',' :: col := by
    simp [rows.notMem ')' rfl, cols.notMem ')' rfl]
  rw [stripped, solid_setting blank rows cols, erase_optionally_append unopened,
    erase_append_optionally unclosed]

end Reading

/-! ## Both directions -/

/-- An address is read from its text in any setting, as long as its coordinates are signed words.
Whatever is read as an address is, apart from white space and the parentheses, two decimal numbers
with a comma between them, which count the row and the column from one and are no larger than the
largest signed word. -/
theorem read?_in_settings :
    (∀ a : Address, a.textIn .plain = a.text) ∧
    (∀ (a : Address) (w : Setting), a.row < 2 ^ 63 - 1 → a.col < 2 ^ 63 - 1 → w.Blank →
      read? (a.textIn w) = some a) ∧
    ∀ (t : List Char) (a : Address), read? t = some a → ∃ row col, DigitRun row ∧ DigitRun col ∧
      stripped t = row ++ ',' :: col ∧
        (ofDigits row = a.row + 1 ∧ 1 ≤ ofDigits row ∧ ofDigits row ≤ 2 ^ 63 - 1) ∧
        ofDigits col = a.col + 1 ∧ 1 ≤ ofDigits col ∧ ofDigits col ≤ 2 ^ 63 - 1 := by
  have limit := coordinateLimit_eq
  refine ⟨textIn_plain, ?_, ?_⟩
  · intro a w rows cols blank
    have readRow : component? (digits (a.row + 1)) = some a.row := component?_digits (by omega)
    have readCol : component? (digits (a.col + 1)) = some a.col := component?_digits (by omega)
    exact read?_eq_some_iff.mpr ⟨w, _, _, blank, readRow, readCol, rfl⟩
  · intro t a found
    obtain ⟨w, row, col, blank, readRow, readCol, rfl⟩ := read?_eq_some_iff.mp found
    obtain ⟨rows, above, smallRow⟩ := component?_eq_some_iff.mp readRow
    obtain ⟨cols, left, smallCol⟩ := component?_eq_some_iff.mp readCol
    exact ⟨row, col, rows, cols, stripped_setting blank rows cols, by omega, by omega⟩

/-- The last row is read without parentheses and with white space of several kinds around it.
Leading zeros and a parenthesis that is never closed count for nothing. -/
theorem read?_in_settings_of_last_row :
    ((⟨9223372036854775806, 0⟩ : Address).textIn
          ⟨false, false, ['\u2003'], [' '], ['\u00A0'], ['\n'], ['\t', ' '], []⟩ =
        "\u2003 9223372036854775807\u00A0,\n1\t ".toList ∧
      read? "\u2003 9223372036854775807\u00A0,\n1\t ".toList = some ⟨9223372036854775806, 0⟩) ∧
    read? " ( 0009 ,7".toList = some ⟨8, 6⟩ ∧
    ∃ row col, DigitRun row ∧ DigitRun col ∧ stripped " ( 0009 ,7".toList = row ++ ',' :: col ∧
      (ofDigits row = 9 ∧ 1 ≤ ofDigits row ∧ ofDigits row ≤ 2 ^ 63 - 1) ∧
      ofDigits col = 7 ∧ 1 ≤ ofDigits col ∧ ofDigits col ≤ 2 ^ 63 - 1 := by
  have written : (⟨9223372036854775806, 0⟩ : Address).textIn
      ⟨false, false, ['\u2003'], [' '], ['\u00A0'], ['\n'], ['\t', ' '], []⟩ =
        "\u2003 9223372036854775807\u00A0,\n1\t ".toList := by decide
  have loose : read? " ( 0009 ,7".toList = some ⟨8, 6⟩ := by decide
  refine ⟨⟨written, ?_⟩, loose, read?_in_settings.2.2 _ ⟨8, 6⟩ loose⟩
  rw [← written]
  refine read?_in_settings.2.1 ⟨9223372036854775806, 0⟩ _ (by decide) (by decide) ?_
  exact ⟨rfl, rfl, rfl, rfl, rfl, rfl⟩

end Address

end Gridbook
