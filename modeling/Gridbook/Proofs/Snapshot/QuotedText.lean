import Gridbook.Proofs.Text.Trimming
import Gridbook.Snapshot.Reader

/-!
# Readers of quoted text

What stands between quotes is read in three ways.  A scanner looks for the closing quote and keeps
one bit, which says whether the next character is escaped.  A pattern takes a backslash together
with the character behind it.  Taking the escapes back goes by the same pairs.  The first two find
the same end of every text on one line, and all three agree on the written form of a text, whatever
backslashes and quotes it holds.
-/

namespace Gridbook.Snapshot

open Text

variable {s inner behind rows cols name line : List Char}

/-! ## The scanner -/

/-- The text up to the first quote that is not escaped, and what is behind it, where `escaped` says
whether the first character is. -/
def scan (escaped : Bool) : List Char → Option (List Char × List Char)
  | [] => none
  | c :: rest =>
      if !escaped && c == '"' then some ([], rest)
      else (scan (!escaped && c == '\\') rest).map fun (inner, behind) => (c :: inner, behind)

/-- Going by pairs finds the same quote as keeping one bit. -/
theorem toQuote?_eq_scan (s : List Char) : toQuote? s = scan false s := by
  induction s using toQuote?.induct with
  | case1 => rfl
  | case2 rest => rfl
  | case3 c rest ih =>
      rw [toQuote?, ih]
      simp [scan, Function.comp_def]
  | case4 c rest unquoted unpaired ih =>
      by_cases backslash : c = '\\'
      · -- a backslash that is no pair ends the text
        subst backslash
        cases rest with
        | nil => rfl
        | cons d rest => exact absurd rfl (unpaired d rest rfl)
      · have plain : (c == '\\') = false := beq_false_of_ne backslash
        rw [toQuote?_cons backslash unquoted, ih]
        simp [scan, plain, show c ≠ '"' from unquoted]

/-! ## The pattern -/

/-- The texts that the pattern for a name takes: one after the other, any character but a quote and
a backslash, or a backslash and any character but a line feed. -/
inductive Enclosed : List Char → Prop where
  | nil : Enclosed []
  | plain {c : Char} {rest : List Char} (unescaped : c ≠ '\\') (unquoted : c ≠ '"')
      (later : Enclosed rest) : Enclosed (c :: rest)
  | pair {c : Char} {rest : List Char} (inLine : c ≠ '\n') (later : Enclosed rest) :
      Enclosed ('\\' :: c :: rest)

/-- What the pattern takes ends at the quote that the scanner finds. -/
theorem Enclosed.toQuote?_append (enclosed : Enclosed inner) (behind : List Char) :
    toQuote? (inner ++ '"' :: behind) = some (inner, behind) := by
  induction enclosed with
  | nil => rfl
  | plain unescaped unquoted later ih =>
      rw [List.cons_append, toQuote?_cons unescaped unquoted, ih]
      rfl
  | pair inLine later ih =>
      rw [List.cons_append, List.cons_append, toQuote?, ih]
      rfl

/-- On one line, the scanner finds what the pattern takes. -/
theorem enclosed_of_toQuote? (found : toQuote? s = some (inner, behind)) (inLine : '\n' ∉ s) :
    Enclosed inner ∧ s = inner ++ '"' :: behind := by
  induction s using toQuote?.induct generalizing inner with
  | case1 => cases found
  | case2 rest =>
      obtain ⟨rfl, rfl⟩ := Prod.mk.inj (Option.some.inj found)
      exact ⟨.nil, rfl⟩
  | case3 c rest ih =>
      obtain ⟨⟨front, back⟩, later, same⟩ := Option.map_eq_some_iff.mp found
      obtain ⟨rfl, rfl⟩ := Prod.mk.inj same
      simp only [List.mem_cons, not_or] at inLine
      obtain ⟨enclosed, rfl⟩ := ih later inLine.2.2
      exact ⟨.pair (Ne.symm inLine.2.1) enclosed, rfl⟩
  | case4 c rest unquoted unpaired ih =>
      by_cases backslash : c = '\\'
      · subst backslash
        cases rest with
        | nil => cases found
        | cons d rest => exact absurd rfl (unpaired d rest rfl)
      · rw [toQuote?_cons backslash unquoted] at found
        obtain ⟨⟨front, back⟩, later, same⟩ := Option.map_eq_some_iff.mp found
        obtain ⟨rfl, rfl⟩ := Prod.mk.inj same
        simp only [List.mem_cons, not_or] at inLine
        obtain ⟨enclosed, rfl⟩ := ih later inLine.2
        exact ⟨.plain backslash unquoted enclosed, rfl⟩

/-- The pattern takes every written form. -/
theorem enclosed_escape (s : List Char) : Enclosed (escape s) := by
  induction s with
  | nil => exact .nil
  | cons c rest ih =>
      rw [escape, List.flatMap_cons]
      rcases escapeChar_cases c with ⟨d, written, _, inLine⟩ | ⟨written, unescaped, unquoted, _⟩
      · rw [written]
        exact .pair inLine ih
      · rw [written]
        exact .plain unescaped unquoted ih

/-- No line ends inside a written form. -/
theorem inLine_of_mem_escape {c : Char} (mem : c ∈ escape s) : c ≠ '\n' ∧ c ≠ '\r' := by
  obtain ⟨d, _, written⟩ := List.mem_flatMap.mp mem
  have pair {e : Char} (letter : e ≠ '\n' ∧ e ≠ '\r') (written : c ∈ ['\\', e]) :
      c ≠ '\n' ∧ c ≠ '\r' := by
    rcases List.mem_cons.mp written with rfl | last
    · decide
    · rwa [List.mem_singleton.mp last]
  unfold escapeChar at written
  split at written
  case h_5 lineFeed carriageReturn =>
    rw [List.mem_singleton.mp written]
    exact ⟨lineFeed, carriageReturn⟩
  all_goals exact pair (by decide) written

theorem lineFeed_notMem_escape (s : List Char) : '\n' ∉ escape s :=
  fun mem => (inLine_of_mem_escape mem).1 rfl

theorem quoted?_quote (s behind : List Char) :
    quoted? (quote s ++ behind) = some (escape s, behind) := by
  rw [quote, List.cons_append, List.cons_append, List.append_assoc]
  exact toQuote?_escape s behind

theorem exists_of_quoted? (found : quoted? s = some (inner, behind)) :
    ∃ rest, s = '"' :: rest ∧ toQuote? rest = some (inner, behind) := by
  unfold quoted? at found
  split at found
  · exact ⟨_, rfl, found⟩
  · cases found

/-! ## The header of a sheet -/

/-- White space between two parts of a header, of which there is some. -/
structure Gap (s : List Char) : Prop where
  filled : s ≠ []
  blank : AllBlank s

theorem Gap.afterBlank?_append (gap : Gap s) {rest : List Char}
    (first : ∀ c ∈ rest.head?, isBlank c = false) : afterBlank? (s ++ rest) = some rest := by
  obtain ⟨c, tail, rfl⟩ := List.exists_cons_of_ne_nil gap.filled
  have blank : isBlank c = true := (allBlank_cons.mp gap.blank).1
  have trimmed : trimStart (c :: (tail ++ rest)) = rest := by
    rw [← List.cons_append, trimStart_append_blank gap.blank, trimStart_eq_self first]
  simp [afterBlank?, blank, trimmed]

theorem exists_gap_of_afterBlank? {rest : List Char} (found : afterBlank? s = some rest) :
    ∃ w, Gap w ∧ s = w ++ rest := by
  obtain ⟨starts, same⟩ := Option.ite_none_right_eq_some.mp found
  obtain rfl := Option.some.inj same
  obtain ⟨w, blank, shape⟩ := exists_eq_append_trimStart s
  refine ⟨w, ⟨?_, blank⟩, shape⟩
  rintro rfl
  -- a text from which nothing is trimmed does not start with white space
  cases first : s.head? with
  | none =>
      rw [first] at starts
      cases starts
  | some c =>
      rw [first] at starts
      rw [shape, List.nil_append] at first
      cases (isBlank_of_head?_trimStart first).symm.trans starts

/-- A header with white space before its dimensions and before what is behind its bracket. -/
def headerText (gap rows cols gap' behind : List Char) : List Char :=
  headerLabel ++ (gap ++ (rows ++ 'x' :: (cols ++ ']' :: (gap' ++ behind))))

/-- The pattern of a header, and what it takes for the dimensions and the name. -/
structure HeaderPattern (line rows cols name : List Char) : Prop where
  shape : ∃ gap gap', Gap gap ∧ Gap gap' ∧
    line = headerText gap rows cols gap' ('"' :: (name ++ ['"']))
  rows : DigitRun rows
  cols : DigitRun cols
  name : Enclosed name

/-- A header is read up to its closing quote, behind which there must be nothing. -/
theorem headerParts?_headerText {gap gap' : List Char} (before : Gap gap) (between : Gap gap')
    (rowRun : DigitRun rows) (colRun : DigitRun cols) (enclosed : Enclosed name)
    (behind : List Char) :
    headerParts? (headerText gap rows cols gap' ('"' :: (name ++ '"' :: behind))) =
      if behind = [] then some (rows, cols, name) else none := by
  have opened (rest : List Char) : afterBlank? (gap ++ (rows ++ rest)) = some (rows ++ rest) :=
    before.afterBlank?_append fun c first => isBlank_of_isDigit (rowRun.isDigit_of_head? first)
  have stop (mark : Char) (other : mark.isDigit = false) (rest : List Char) :
      ∀ c ∈ (mark :: rest).head?, c.isDigit = false := by
    rintro c ⟨⟩
    exact other
  have beyond (mark : Char) (rest : List Char) : after? [mark] (mark :: rest) = some rest :=
    after?_append [mark] rest
  have quoted : quoted? ('"' :: (name ++ '"' :: behind)) = some (name, behind) :=
    enclosed.toQuote?_append behind
  have named : afterBlank? (gap' ++ '"' :: (name ++ '"' :: behind)) =
      some ('"' :: (name ++ '"' :: behind)) :=
    between.afterBlank?_append fun c first => Option.some.inj first ▸ rfl
  simp only [headerParts?, headerText, after?_append, opened, beyond, named, quoted,
    takeWhile_run rowRun.digits (stop 'x' rfl _), dropWhile_run rowRun.digits (stop 'x' rfl _),
    takeWhile_run colRun.digits (stop ']' rfl _), dropWhile_run colRun.digits (stop ']' rfl _),
    rowRun.filled, colRun.filled, Option.bind_eq_bind, Option.bind_some, false_or]
  by_cases nothing : behind = [] <;> simp [nothing]

/-- A run of digits that was read up to a mark. -/
theorem eq_run_append_of_after? {mark : Char} {rest : List Char}
    (found : after? [mark] (s.dropWhile Char.isDigit) = some rest) :
    s = s.takeWhile Char.isDigit ++ mark :: rest := by
  conv_lhs => rw [← List.takeWhile_append_dropWhile (p := Char.isDigit) (l := s),
    eq_append_of_after? found]
  rfl

/-- On one line, the pattern matches every header that is read. -/
theorem headerPattern_of_headerParts? (found : headerParts? line = some (rows, cols, name))
    (inLine : '\n' ∉ line) : HeaderPattern line rows cols name := by
  unfold headerParts? at found
  obtain ⟨spaced, label, found⟩ := Option.bind_eq_some_iff.mp found
  obtain ⟨opened, spaces, found⟩ := Option.bind_eq_some_iff.mp found
  obtain ⟨second, cross, found⟩ := Option.bind_eq_some_iff.mp found
  obtain ⟨closed, bracket, found⟩ := Option.bind_eq_some_iff.mp found
  obtain ⟨quoted, spaces', found⟩ := Option.bind_eq_some_iff.mp found
  obtain ⟨⟨inner, behind⟩, ends, found⟩ := Option.bind_eq_some_iff.mp found
  dsimp only at found
  split at found
  case isTrue => cases found
  case isFalse whole =>
    obtain ⟨rfl, rfl, rfl⟩ : opened.takeWhile Char.isDigit = rows ∧
        second.takeWhile Char.isDigit = cols ∧ inner = name := by
      simpa using Option.some.inj found
    simp only [not_or, not_not] at whole
    obtain ⟨rowsFilled, colsFilled, rfl⟩ := whole
    obtain ⟨gap, before, rfl⟩ := exists_gap_of_afterBlank? spaces
    obtain ⟨gap', between, rfl⟩ := exists_gap_of_afterBlank? spaces'
    obtain ⟨rest, rfl, ends⟩ := exists_of_quoted? ends
    have shape : line = headerText gap (opened.takeWhile Char.isDigit)
        (second.takeWhile Char.isDigit) gap' ('"' :: rest) := by
      conv_lhs => rw [eq_append_of_after? label, eq_run_append_of_after? cross,
        eq_run_append_of_after? bracket]
      rfl
    have restInLine : '\n' ∉ rest := fun mem => inLine (by simp [shape, headerText, mem])
    obtain ⟨enclosed, rfl⟩ := enclosed_of_toQuote? ends restInLine
    exact ⟨⟨gap, gap', before, between, shape⟩, digitRun_takeWhile rowsFilled,
      digitRun_takeWhile colsFilled, enclosed⟩

/-- Where the pattern matches, the header is read, and as its parts. -/
theorem HeaderPattern.headerParts? (pattern : HeaderPattern line rows cols name) :
    headerParts? line = some (rows, cols, name) := by
  obtain ⟨⟨gap, gap', before, between, rfl⟩, rowRun, colRun, enclosed⟩ := pattern
  rw [headerParts?_headerText before between rowRun colRun enclosed [], if_pos rfl]

/-- On one line, the pattern and the reader of headers find the same parts. -/
theorem headerParts?_eq_some_iff (inLine : '\n' ∉ line) :
    headerParts? line = some (rows, cols, name) ↔ HeaderPattern line rows cols name :=
  ⟨fun found => headerPattern_of_headerParts? found inLine, HeaderPattern.headerParts?⟩

/-! ## All readers -/

/-- The written form of a text holds no line end.  Between quotes and before whatever text, it is
what the scanner takes, and taking its escapes back gives the text.  As the name of a header it is
what the pattern takes, and the header is read as long as nothing is behind the name. -/
theorem escape_read_alike (s t : List Char) {rows cols : List Char} (rowRun : DigitRun rows)
    (colRun : DigitRun cols) :
    ('\n' ∉ escape s ∧ '\r' ∉ escape s) ∧
    quoted? ('"' :: (escape s ++ '"' :: t)) = some (escape s, t) ∧
    scan false (escape s ++ '"' :: t) = some (escape s, t) ∧
    unescape (escape s) = s ∧
    (∀ r c name, HeaderPattern (headerText [' '] rows cols [' '] (quote s)) r c name ↔
      r = rows ∧ c = cols ∧ name = escape s) ∧
    ∀ behind, headerParts? (headerText [' '] rows cols [' '] (quote s ++ behind)) =
      if behind = [] then some (rows, cols, escape s) else none := by
  have gap : Gap [' '] := ⟨List.cons_ne_nil _ _, rfl⟩
  have enclosed := enclosed_escape s
  have pattern : HeaderPattern (headerText [' '] rows cols [' '] (quote s)) rows cols (escape s) :=
    ⟨⟨[' '], [' '], gap, gap, rfl⟩, rowRun, colRun, enclosed⟩
  refine ⟨⟨lineFeed_notMem_escape s, fun mem => (inLine_of_mem_escape mem).2 rfl⟩,
    enclosed.toQuote?_append t, ?_, unescape_escape s, fun r c name => ⟨fun other => ?_, ?_⟩,
    fun behind => ?_⟩
  · rw [← toQuote?_eq_scan, enclosed.toQuote?_append]
  · simpa using other.headerParts?.symm.trans pattern.headerParts?
  · rintro ⟨rfl, rfl, rfl⟩
    exact pattern
  · have shape : quote s ++ behind = '"' :: (escape s ++ '"' :: behind) := by simp [quote]
    rw [shape, headerParts?_headerText gap gap rowRun colRun enclosed]

/-- Backslashes before a quote, a line feed and the letter that stands for one are told apart. -/
theorem escape_read_alike_of_backslashes :
    (DigitRun "007".toList ∧ DigitRun "20".toList) ∧
    quoted? "\"\\\\\\\"\\n\\\\n\"\\\" -> 3".toList =
      some ("\\\\\\\"\\n\\\\n".toList, "\\\" -> 3".toList) ∧
    unescape "\\\\\\\"\\n\\\\n".toList = ['\\', '"', '\n', '\\', 'n'] ∧
    headerParts? "[sheet 007x20] \"\\\\\\\"\\n\\\\n\"".toList =
      some ("007".toList, "20".toList, "\\\\\\\"\\n\\\\n".toList) := by
  have rows : DigitRun "007".toList := ⟨by decide, List.all_eq_true.mp (by decide)⟩
  have cols : DigitRun "20".toList := ⟨by decide, List.all_eq_true.mp (by decide)⟩
  obtain ⟨_, taken, _, read, _, header⟩ :=
    escape_read_alike ['\\', '"', '\n', '\\', 'n'] "\\\" -> 3".toList rows cols
  exact ⟨⟨rows, cols⟩, taken, read, header []⟩

end Gridbook.Snapshot
