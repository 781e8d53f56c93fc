import Gridbook.Proofs.Number.RoundTrip
import Gridbook.Proofs.Snapshot.Accepted
import Gridbook.Proofs.Snapshot.QuotedText
import Gridbook.Proofs.Text.Addresses

/-!
# Written lines are read back

Every line of a snapshot keeps to itself: it holds no line feed, and neither of its ends is white
space.  Reading the line that gives the current sheet sets the index, reading a header opens the
empty sheet it was written for, and reading the line of a cell puts that cell at its address.
-/

namespace Gridbook

open Text Formula

/-! ## Counts -/

namespace Text

theorem count?_digits {n : Nat} (small : n < countLimit) : count? (digits n) = some n := by
  have unsigned : ∀ rest, digits n ≠ '+' :: rest := by
    intro rest written
    have digit : '+'.isDigit = true := isDigit_of_mem_digits (n := n) (written ▸ List.mem_cons_self)
    cases digit
  unfold count?
  split
  · rename_i rest written
    exact absurd written (unsigned rest)
  · dsimp only
    rw [natural?_digits, Option.filter_some, if_pos (decide_eq_true small)]

end Text

/-! ## Quoted text and outcomes -/

namespace Snapshot

theorem lineFeed_notMem_quote (s : List Char) : '\n' ∉ quote s := by
  simp [quote, lineFeed_notMem_escape]

theorem isBlank_of_mem_outcomeText {outcome : Outcome} {c : Char} (mem : c ∈ outcomeText outcome) :
    isBlank c = false := by
  cases outcome with
  | number value => exact Number.isBlank_of_isNumeral (Number.isNumeral_of_mem_positional mem)
  | fault fault =>
      have dark : (faultTag fault).all (fun d => !isBlank d) = true := by cases fault <;> decide
      exact Bool.not_eq_true' _ |>.mp (List.all_eq_true.mp dark c mem)

theorem outcomeText_ne_nil (outcome : Outcome) : outcomeText outcome ≠ [] := by
  cases outcome with
  | number value =>
      intro empty
      have read := Number.read?_positional value
      rw [show Number.positional value = [] from empty] at read
      cases read
  | fault fault => cases fault <;> decide

theorem positional_ne_faultTag (value : Float) (fault : Fault) :
    Number.positional value ≠ faultTag fault := by
  intro same
  have marked : '#' ∈ faultTag fault := by cases fault <;> decide
  have numeral := Number.isNumeral_of_mem_positional (same ▸ marked)
  cases numeral

/-- The written form of an outcome is read back. -/
theorem readOutcome_outcomeText (outcome : Outcome) :
    readOutcome (outcomeText outcome) = .ok outcome := by
  cases outcome with
  | number value =>
      rw [outcomeText, readOutcome, if_neg (positional_ne_faultTag value _),
        if_neg (positional_ne_faultTag value _), Number.read?_positional]
      rfl
  | fault fault => cases fault <;> rfl

/-! ## The ends of a line -/

/-- A text that starts and ends with characters that are no white space. -/
structure Closed (s : List Char) : Prop where
  first : ∃ c ∈ s.head?, isBlank c = false
  last : ∃ c ∈ s.getLast?, isBlank c = false

theorem Closed.trim_eq {s : List Char} (closed : Closed s) : trim s = s := by
  obtain ⟨c, first, dark⟩ := closed.first
  obtain ⟨d, last, dark'⟩ := closed.last
  refine trim_eq_self ?_ ?_
  · intro other found
    obtain rfl := Option.some.inj (first.symm.trans found)
    exact dark
  · intro other found
    obtain rfl := Option.some.inj (last.symm.trans found)
    exact dark'

/-- What stands between two closed texts does not matter. -/
theorem Closed.append {s t : List Char} (start : Closed s) (stop : Closed t) (between : List Char) :
    Closed (s ++ (between ++ t)) := by
  obtain ⟨c, first, dark⟩ := start.first
  obtain ⟨d, last, dark'⟩ := stop.last
  refine ⟨⟨c, ?_, dark⟩, ⟨d, ?_, dark'⟩⟩
  · rw [List.head?_append, Option.mem_def.mp first]
    rfl
  · rw [List.getLast?_append, List.getLast?_append, Option.mem_def.mp last]
    rfl

theorem closed_of_forall {s : List Char} (filled : s ≠ []) (dark : ∀ c ∈ s, isBlank c = false) :
    Closed s := by
  refine ⟨⟨s.head filled, List.head?_eq_some_head filled, dark _ (List.head_mem filled)⟩, ?_⟩
  exact ⟨s.getLast filled, List.getLast?_eq_some_getLast filled, dark _ (List.getLast_mem filled)⟩

theorem closed_digits (n : Nat) : Closed (digits n) :=
  closed_of_forall (digits_ne_nil n) fun _ mem => isBlank_of_isDigit (isDigit_of_mem_digits mem)

theorem closed_outcomeText (outcome : Outcome) : Closed (outcomeText outcome) :=
  closed_of_forall (outcomeText_ne_nil outcome) fun _ => isBlank_of_mem_outcomeText

theorem closed_quote (s : List Char) : Closed (quote s) := by
  have mark : Closed ['"'] := ⟨⟨'"', rfl, rfl⟩, ⟨'"', rfl, rfl⟩⟩
  exact mark.append mark (escape s)

/-! ## The line of a cell -/

theorem readSuffix_formula (outcome : Outcome) :
    readSuffix (trim (outcomeSuffix (.formula outcome))) = .ok (some outcome) := by
  have arrow : Closed outcomeLabel := ⟨⟨'-', rfl, rfl⟩, ⟨'>', rfl, rfl⟩⟩
  have closed := arrow.append (closed_outcomeText outcome) [' ']
  have trimmed : trim (outcomeSuffix (.formula outcome)) =
      outcomeLabel ++ ([' '] ++ outcomeText outcome) :=
    (trim_cons rfl _).trans closed.trim_eq
  have inner : trim ([' '] ++ outcomeText outcome) = outcomeText outcome :=
    (trim_cons rfl _).trans (closed_outcomeText outcome).trim_eq
  rw [trimmed, readSuffix, after?_append]
  dsimp only
  rw [inner, readOutcome_outcomeText]
  rfl

theorem outcomeSuffix_plain (s : List Char) : outcomeSuffix (Cell.plainMeaning s) = [] := by
  cases meaning : Cell.plainMeaning s with
  | formula outcome => exact absurd meaning (Cell.plainMeaning_ne_formula s outcome)
  | _ => rfl

/-- A cell that means its content is read back from its written form. -/
theorem readCell_written {c : Cell} (means : c.MeansContent) :
    readCell (quote c.content.toList ++ outcomeSuffix c.meaning) = .ok c := by
  rw [readCell_eq_ok_iff]
  refine ⟨_, _, quoted?_quote _ _, ?_⟩
  rw [unescape_escape, String.ofList_toList]
  by_cases marked : c.content.toList.head? = some '='
  · obtain ⟨outcome, meaning⟩ := means.exists_outcome marked
    rw [meaning]
    refine .inl ⟨outcome, readSuffix_formula outcome, marked, ?_⟩
    rw [Cell.formula, ← meaning]
  · have meaning := means.meaning_eq marked
    rw [meaning, outcomeSuffix_plain]
    refine .inr ⟨rfl, marked, ?_⟩
    rw [← meaning]

theorem closed_written (c : Cell) :
    Closed (quote c.content.toList ++ outcomeSuffix c.meaning) := by
  cases c.meaning with
  | formula outcome =>
      have closed := (closed_quote c.content.toList).append (closed_outcomeText outcome)
        (' ' :: outcomeLabel ++ [' '])
      rw [List.append_assoc] at closed
      exact closed
  | _ =>
      change Closed (_ ++ [])
      rw [List.append_nil]
      exact closed_quote _

theorem closed_text (a : Address) : Closed a.text := by
  have start : Closed ['('] := ⟨⟨'(', rfl, rfl⟩, ⟨'(', rfl, rfl⟩⟩
  have stop : Closed [')'] := ⟨⟨')', rfl, rfl⟩, ⟨')', rfl, rfl⟩⟩
  exact start.append stop (digits (a.row + 1) ++ ',' :: digits (a.col + 1))

theorem cellLine_eq (a : Address) (c : Cell) : cellLine a c =
    a.text ++ ':' :: ' ' :: (quote c.content.toList ++ outcomeSuffix c.meaning) := by
  rw [cellLine, List.append_assoc]
  rfl

theorem closed_cellLine (a : Address) (c : Cell) : Closed (cellLine a c) := by
  rw [cellLine_eq]
  exact (closed_text a).append (closed_written c) [':', ' ']

theorem notMem_text {a : Address} {c : Char} (digit : c.isDigit = false)
    (mark : c ∉ ['(', ',', ')']) : c ∉ a.text := by
  simp only [List.mem_cons, List.not_mem_nil, or_false, not_or] at mark
  simp [Address.text, notMem_digits digit, mark]

/-- Reading the line of a cell puts the cell on the sheet. -/
theorem readCellLine_cellLine {s : Sheet} {a : Address} {c : Cell}
    (inside : s.grid.extent.Contains a) (means : c.MeansContent) :
    readCellLine s (cellLine a c) = .ok (s.put a c) := by
  have sized : s.grid.extent.Sized :=
    ⟨Nat.lt_of_le_of_lt (Nat.zero_le _) inside.1, Nat.lt_of_le_of_lt (Nat.zero_le _) inside.2⟩
  have small : maxCells < coordinateLimit := by decide
  have row : a.row + 1 < coordinateLimit :=
    Nat.lt_of_le_of_lt (Nat.le_trans inside.1 (sized.rows_le s.grid.fits)) small
  have col : a.col + 1 < coordinateLimit :=
    Nat.lt_of_le_of_lt (Nat.le_trans inside.2 (sized.cols_le s.grid.fits)) small
  have divided := cut?_append ':' a.text (' ' :: (quote c.content.toList ++
    outcomeSuffix c.meaning)) (notMem_text rfl (by decide))
  rw [← cellLine_eq] at divided
  refine readCellLine_eq_ok_iff.mpr ⟨_, _, a, c, divided, ?_, inside, ?_, rfl⟩
  · rw [(closed_text a).trim_eq]
    exact Address.read?_text row col
  · rw [trim_cons rfl, (closed_written c).trim_eq]
    exact readCell_written means

/-! ## The header of a sheet -/

theorem headerLine_eq (name : String) (e : Extent) : headerLine name e =
    headerLabel ++ ' ' :: (digits e.rows ++ 'x' :: (digits e.cols ++ ']' :: ' ' ::
      (quote name.toList ++ []))) := by
  simp [headerLine]

theorem closed_headerLine (name : String) (e : Extent) : Closed (headerLine name e) := by
  have label : Closed headerLabel := ⟨⟨'[', rfl, rfl⟩, ⟨'t', rfl, rfl⟩⟩
  have closed := label.append (closed_quote name.toList)
    (' ' :: digits e.rows ++ 'x' :: digits e.cols ++ [']', ' '])
  rw [headerLine_eq]
  simpa using closed

theorem headerParts?_headerLine (name : String) (e : Extent) :
    headerParts? (headerLine name e) =
      some (digits e.rows, digits e.cols, escape name.toList) := by
  have gap : Gap [' '] := ⟨List.cons_ne_nil _ _, rfl⟩
  have shape : headerLine name e = headerText [' '] (digits e.rows) (digits e.cols) [' ']
      ('"' :: (escape name.toList ++ ['"'])) := by
    simp [headerLine, headerText, quote]
  have pattern : HeaderPattern (headerLine name e) (digits e.rows) (digits e.cols)
      (escape name.toList) :=
    ⟨⟨_, _, gap, gap, shape⟩, digitRun_digits _, digitRun_digits _, enclosed_escape _⟩
  exact pattern.headerParts?

/-- Reading a header opens the sheet that it was written for, without its cells. -/
theorem readHeader_headerLine {name : String} {e : Extent} (named : ¬ AllBlank name.toList)
    (sized : e.Sized) (fits : e.Fits) :
    readHeader (headerLine name e) = .ok ⟨name, Grid.empty e⟩ := by
  have small : maxCells < countLimit := by decide
  have rows := count?_digits (Nat.lt_of_le_of_lt (sized.rows_le fits) small)
  have cols := count?_digits (Nat.lt_of_le_of_lt (sized.cols_le fits) small)
  refine readHeader_eq_ok_iff.mpr ⟨escape name.toList, e, ⟨?_, sized, fits, ?_⟩, ?_⟩
  · exact ⟨_, _, headerParts?_headerLine name e, rows, cols⟩
  · rw [unescape_escape]
    exact named
  · rw [unescape_escape, String.ofList_toList]

/-! ## Reading one written line -/

theorem step_of_closed {line : List Char} (closed : Closed line) (p : Progress) (number : Nat) :
    p.step (line, number) = (p.advance number line).mapError (.atLine number) := by
  rw [Progress.step, closed.trim_eq]

theorem closed_title : Closed title := ⟨⟨'#', rfl, rfl⟩, ⟨'k', rfl, rfl⟩⟩

theorem step_title (p : Progress) (number : Nat) : p.step (title, number) = .ok p :=
  step_of_closed closed_title p number

theorem closed_currentLine (index : Nat) : Closed (currentLine index) := by
  have label : Closed currentLabel := ⟨⟨'c', rfl, rfl⟩, ⟨':', rfl, rfl⟩⟩
  exact label.append (closed_digits index) [' ']

theorem step_currentLine (p : Progress) {index : Nat} (small : index < countLimit) (number : Nat) :
    p.step (currentLine index, number) = .ok { p with current := some (index, number) } := by
  have entry : Entry.ofLine (currentLine index) = .current (digits index) := by
    change Entry.current (trim (' ' :: digits index)) = _
    rw [trim_cons rfl, (closed_digits index).trim_eq]
  rw [step_of_closed (closed_currentLine index), Progress.advance, entry]
  dsimp only
  rw [count?_digits small]
  rfl

theorem step_headerLine (p : Progress) {name : String} {e : Extent}
    (named : ¬ AllBlank name.toList) (sized : e.Sized) (fits : e.Fits) (number : Nat) :
    p.step (headerLine name e, number) =
      .ok { p with sheets := ⟨name, Grid.empty e⟩ :: p.sheets } := by
  have entry : Entry.ofLine (headerLine name e) = .header (headerLine name e) := by
    rw [headerLine_eq]
    rfl
  rw [step_of_closed (closed_headerLine name e), Progress.advance, entry]
  dsimp only
  rw [readHeader_headerLine named sized fits]
  rfl

theorem step_cellLine {s : Sheet} {a : Address} {c : Cell} (inside : s.grid.extent.Contains a)
    (means : c.MeansContent) (earlier : List Sheet) (current : Option (Nat × Nat)) (number : Nat) :
    Progress.step ⟨s :: earlier, current⟩ (cellLine a c, number) =
      .ok ⟨s.put a c :: earlier, current⟩ := by
  have entry : Entry.ofLine (cellLine a c) = .cell (cellLine a c) := by
    rw [cellLine_eq]
    rfl
  rw [step_of_closed (closed_cellLine a c), Progress.advance, entry]
  dsimp only
  rw [readCellLine_cellLine inside means]
  rfl

/-! ## Line feeds -/

theorem lineFeed_notMem_digits (n : Nat) : '\n' ∉ digits n :=
  notMem_digits rfl n

theorem lineFeed_notMem_outcomeSuffix (m : Meaning) : '\n' ∉ outcomeSuffix m := by
  cases m with
  | formula outcome =>
      have plain : '\n' ∉ outcomeText outcome := by
        intro mem
        cases (isBlank_of_mem_outcomeText mem : isBlank '\n' = false)
      have arrow : '\n' ∉ outcomeLabel := by decide
      simp [outcomeSuffix, plain, arrow]
  | _ => exact List.not_mem_nil

theorem lineFeed_notMem_currentLine (index : Nat) : '\n' ∉ currentLine index := by
  have label : '\n' ∉ currentLabel := by decide
  simp [currentLine, label, lineFeed_notMem_digits]

theorem lineFeed_notMem_headerLine (name : String) (e : Extent) : '\n' ∉ headerLine name e := by
  have label : '\n' ∉ headerLabel := by decide
  simp [headerLine, label, lineFeed_notMem_digits, lineFeed_notMem_quote]

theorem lineFeed_notMem_cellLine (a : Address) (c : Cell) : '\n' ∉ cellLine a c := by
  have address : '\n' ∉ a.text := notMem_text rfl (by decide)
  simp [cellLine, address, lineFeed_notMem_quote, lineFeed_notMem_outcomeSuffix]

/-- No line of a snapshot holds a line feed. -/
theorem lineFeed_notMem_of_mem {w : Workbook} {line : List Char} (mem : line ∈ workbookLines w) :
    '\n' ∉ line := by
  rw [workbookLines, List.mem_cons, List.mem_cons, List.mem_flatMap] at mem
  rcases mem with rfl | rfl | ⟨s, _, mem⟩
  · decide
  · exact lineFeed_notMem_currentLine w.current
  · rcases List.mem_cons.mp mem with rfl | mem
    · exact lineFeed_notMem_headerLine s.name s.grid.extent
    · obtain ⟨⟨a, c⟩, _, rfl⟩ := List.mem_map.mp mem
      exact lineFeed_notMem_cellLine a c

end Snapshot

end Gridbook
