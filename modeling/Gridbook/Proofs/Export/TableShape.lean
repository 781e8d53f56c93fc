import Mathlib.Algebra.Ring.Parity
import Mathlib.Data.List.DropRight
import Mathlib.Data.List.Forall2
import Gridbook.Proofs.Export.Bounds

/-!
# The shape of a Markdown table

A backslash escapes the character behind it, also if that is another backslash, and a line of a
table is split into cells at the bars that are not escaped.  The lines of an exported table number
the columns, rule off the head, and show one row each.  A bar is written with a backslash in front
of it, but a backslash is written as it is.  So the bars that stand behind an odd number of
backslashes split their cells, and a row has one cell for each column, besides its number, exactly
if none of its texts holds such a bar.
-/

namespace Gridbook

namespace Markdown

open Text

/-! ## Cells of a line -/

/-- Whether the end of a text is escaped, given whether its start is. -/
def escaping (escaped : Bool) (s : List Char) : Bool :=
  s.foldl (fun escaped c => !escaped && c == '\\') escaped

/-- The parts of a text between the bars that are not escaped, given whether its start is. -/
def parts (escaped : Bool) : List Char → List (List Char)
  | [] => [[]]
  | c :: rest =>
    let others := parts (!escaped && c == '\\') rest
    if c = '|' ∧ escaped = false then [] :: others else others.modifyHead (c :: ·)

/-- A line starts and ends with a bar and is split into so many cells by the bars between. -/
def HasCells (line : List Char) (count : Nat) : Prop :=
  ∃ cells, parts false line = [] :: cells ++ [[]] ∧ cells.length = count

variable {e : Bool} {c : Char} {s : List Char}

theorem escaping_append (e : Bool) (s t : List Char) :
    escaping e (s ++ t) = escaping (escaping e s) t :=
  List.foldl_append

theorem escaping_concat (e : Bool) (s : List Char) (c : Char) :
    escaping e (s ++ [c]) = (!escaping e s && c == '\\') :=
  escaping_append e s [c]

theorem exists_parts (e : Bool) (s : List Char) : ∃ part rest, parts e s = part :: rest := by
  induction s generalizing e with
  | nil => exact ⟨[], [], rfl⟩
  | cons c s ih =>
      obtain ⟨part, rest, split⟩ := ih (!e && c == '\\')
      rw [parts, split]
      split
      · exact ⟨_, _, rfl⟩
      · exact ⟨_, _, rfl⟩

theorem parts_bar (s : List Char) : parts false ('|' :: s) = [] :: parts false s := rfl

theorem parts_cons (plain : ¬ (c = '|' ∧ e = false)) (s : List Char) :
    parts e (c :: s) = (parts (!e && c == '\\') s).modifyHead (c :: ·) :=
  if_neg plain

/-- A bar that is not escaped divides a text. -/
theorem parts_append (ends : escaping e s = false) (rest : List Char) :
    parts e (s ++ '|' :: rest) = parts e s ++ parts false rest := by
  induction s generalizing e with
  | nil =>
      obtain rfl : e = false := ends
      rfl
  | cons c s ih =>
      have later := ih ends
      by_cases bar : c = '|' ∧ e = false
      · obtain ⟨rfl, rfl⟩ := bar
        rw [List.cons_append, parts_bar, parts_bar, List.cons_append]
        exact congrArg _ later
      · obtain ⟨part, others, split⟩ := exists_parts (!e && c == '\\') s
        rw [List.cons_append, parts_cons bar, parts_cons bar, later, split]
        rfl

/-- A text without bars joins the first part of what follows. -/
theorem length_parts_append (clean : '|' ∉ s) (e : Bool) (t : List Char) :
    (parts e (s ++ t)).length = (parts (escaping e s) t).length := by
  induction s generalizing e with
  | nil => rfl
  | cons c s ih =>
      obtain ⟨other, clean⟩ := not_or.mp (mt List.mem_cons.mpr clean)
      have plain : ¬ (c = '|' ∧ e = false) := fun bar => other bar.1.symm
      rw [List.cons_append, parts_cons plain, List.length_modifyHead, ih clean]
      rfl

theorem length_parts_of_notMem (clean : '|' ∉ s) (e : Bool) : (parts e s).length = 1 := by
  have whole := length_parts_append clean e []
  rw [List.append_nil] at whole
  exact whole

theorem length_parts_concat (other : c ≠ '|') (e : Bool) (s : List Char) :
    (parts e (s ++ [c])).length = (parts e s).length := by
  induction s generalizing e with
  | nil => exact length_parts_of_notMem (by simpa using other.symm) e
  | cons d s ih =>
      by_cases bar : d = '|' ∧ e = false
      · obtain ⟨rfl, rfl⟩ := bar
        rw [List.cons_append, parts_bar, parts_bar, List.length_cons, List.length_cons, ih]
      · rw [List.cons_append, parts_cons bar, parts_cons bar, List.length_modifyHead,
          List.length_modifyHead, ih]

/-! ## Lines made of cells -/

/-- Cells between bars. -/
def barred (cells : List (List Char)) : List Char :=
  '|' :: cells.flatMap (· ++ ['|'])

variable {cells : List (List Char)}

theorem parts_barred (ends : ∀ cell ∈ cells, escaping false cell = false) :
    parts false (barred cells) = [] :: cells.flatMap (parts false) ++ [[]] := by
  rw [barred, parts_bar, List.cons_append]
  apply congrArg
  induction cells with
  | nil => rfl
  | cons cell cells ih =>
      obtain ⟨here, others⟩ := List.forall_mem_cons.mp ends
      rw [List.flatMap_cons, List.flatMap_cons, List.append_assoc, List.singleton_append,
        parts_append here, ih others, List.append_assoc]

theorem length_parts_pos (e : Bool) (s : List Char) : 0 < (parts e s).length := by
  obtain ⟨part, rest, split⟩ := exists_parts e s
  rw [split]
  exact Nat.succ_pos _

theorem length_le_length_flatMap_parts (cells : List (List Char)) :
    cells.length ≤ (cells.flatMap (parts false)).length := by
  induction cells with
  | nil => exact Nat.le_refl _
  | cons cell cells ih =>
      rw [List.flatMap_cons, List.length_append, List.length_cons, Nat.add_comm]
      exact Nat.add_le_add (length_parts_pos false cell) ih

/-- Only a cell with a bar that is not escaped adds to the number of cells. -/
theorem length_flatMap_parts_iff (cells : List (List Char)) :
    (cells.flatMap (parts false)).length = cells.length ↔
      ∀ cell ∈ cells, (parts false cell).length = 1 := by
  induction cells with
  | nil => exact iff_of_true rfl fun _ mem => absurd mem List.not_mem_nil
  | cons cell cells ih =>
      -- No cell is without parts, so the sums agree only if every cell has exactly one.
      have here := length_parts_pos false cell
      have others := length_le_length_flatMap_parts cells
      rw [List.flatMap_cons, List.length_append, List.length_cons, List.forall_mem_cons, ← ih]
      omega

theorem hasCells_barred (ends : ∀ cell ∈ cells, escaping false cell = false) :
    HasCells (barred cells) (cells.flatMap (parts false)).length :=
  ⟨_, parts_barred ends, rfl⟩

/-- A line made of cells without bars has those cells. -/
theorem hasCells_of_whole (ends : ∀ cell ∈ cells, escaping false cell = false)
    (whole : ∀ cell ∈ cells, (parts false cell).length = 1) :
    HasCells (barred cells) cells.length := by
  rw [← (length_flatMap_parts_iff cells).mpr whole]
  exact hasCells_barred ends

theorem HasCells.eq {line : List Char} {m n : Nat} (first : HasCells line m)
    (second : HasCells line n) : m = n := by
  obtain ⟨cells, split, rfl⟩ := first
  obtain ⟨others, same, rfl⟩ := second
  rw [split] at same
  rw [List.append_cancel_right (List.tail_eq_of_cons_eq same)]

/-! ## Bars in a text -/

/-- The number of backslashes at the end of a text, carriage returns left out. -/
def backslashes (s : List Char) : Nat :=
  ((s.filter (· ≠ '\r')).rtakeWhile (· = '\\')).length

/-- A text has a bar behind an odd number of backslashes.  The last of them is written as it is and
escapes the backslash that is written for the bar. -/
def Exposes (s : List Char) : Prop :=
  ∃ before behind, s = before ++ '|' :: behind ∧ Odd (backslashes before)

theorem escape_cons (c : Char) (s : List Char) : escape (c :: s) = escapeChar c ++ escape s :=
  List.flatMap_cons

theorem escape_concat (s : List Char) (c : Char) :
    escape (s ++ [c]) = escape s ++ escapeChar c := by
  rw [escape, List.flatMap_append, List.flatMap_singleton, escape]

theorem bar_notMem_escapeChar (other : c ≠ '|') : '|' ∉ escapeChar c := by
  unfold escapeChar
  split <;> simp_all [eq_comm]

theorem lineFeed_notMem_escape (s : List Char) : '\n' ∉ escape s := by
  intro mem
  obtain ⟨c, -, mem⟩ := List.mem_flatMap.mp mem
  unfold escapeChar at mem
  split at mem <;> simp_all [eq_comm]

/-- Of what is written for a character only a backslash can escape what follows. -/
theorem escaping_escapeChar (e : Bool) (c : Char) :
    escaping e (escapeChar c) = if c = '\r' then e else !e && c == '\\' := by
  unfold escapeChar
  split <;> simp_all [escaping]

theorem backslashes_concat (s : List Char) (c : Char) :
    backslashes (s ++ [c]) =
      if c = '\r' then backslashes s else if c = '\\' then backslashes s + 1 else 0 := by
  rw [backslashes, backslashes, List.filter_append]
  split
  · next back => simp [back]
  · next kept =>
      have last : [c].filter (· ≠ '\r') = [c] := by simp [kept]
      rw [last, List.rtakeWhile_concat]
      split <;> simp_all

/-- The end of a written text is escaped exactly behind an odd number of backslashes. -/
theorem escaping_escape_iff (s : List Char) :
    escaping false (escape s) = true ↔ Odd (backslashes s) := by
  induction s using List.reverseRecOn with
  | nil => exact iff_of_false Bool.false_ne_true (by decide)
  | append_singleton s c ih =>
      rw [escape_concat, escaping_append, escaping_escapeChar, backslashes_concat]
      split
      · exact ih
      · split
        · next slash =>
            rw [Nat.odd_add_one, ← ih, slash]
            simp
        · next other => simp [other]

/-- A bar is the first character or stands among the others. -/
theorem forall_bar_cons_iff {P : List Char → Prop} :
    (∀ before behind, c :: s = before ++ '|' :: behind → P before) ↔
      (c = '|' → P []) ∧ ∀ before behind, s = before ++ '|' :: behind → P (c :: before) := by
  constructor
  · intro all
    refine ⟨?_, ?_⟩
    · rintro rfl
      exact all [] s rfl
    · rintro before behind rfl
      exact all (c :: before) behind rfl
  · rintro ⟨first, others⟩ before behind split
    cases before with
    | nil => exact first (List.head_eq_of_cons_eq split)
    | cons d before =>
        obtain ⟨rfl, rest⟩ := List.cons.inj split
        exact others before behind rest

theorem length_parts_escapeChar_bar (e : Bool) (s : List Char) :
    (parts e (escapeChar '|' ++ s)).length = (parts false s).length + e.toNat := by
  change (parts e ('\\' :: '|' :: s)).length = _
  rw [parts_cons (by simp), List.length_modifyHead]
  cases e with
  | false => rw [parts_cons (by simp), List.length_modifyHead]; rfl
  | true => rfl

/-- A written text stays in one part unless what stands in front of a bar escapes the backslash
that is written for the bar. -/
theorem length_parts_escape_iff (e : Bool) (s : List Char) :
    (parts e (escape s)).length = 1 ↔
      ∀ before behind, s = before ++ '|' :: behind → escaping e (escape before) = false := by
  induction s generalizing e with
  | nil =>
      refine iff_of_true rfl ?_
      intro before behind split
      simp at split
  | cons c s ih =>
      rw [forall_bar_cons_iff, escape_cons]
      simp only [escape_cons, escaping_append]
      rw [← ih]
      by_cases bar : c = '|'
      · subst bar
        have after : escaping e (escapeChar '|') = false := by
          rw [escaping_escapeChar]
          simp
        have some := length_parts_pos false (escape s)
        rw [length_parts_escapeChar_bar, after]
        cases e with
        | false => exact (and_iff_right fun _ => rfl).symm
        | true =>
            -- The backslash for the bar is escaped itself, and the bar divides the text.
            refine iff_of_false ?_ fun both => Bool.noConfusion (both.1 rfl)
            rw [Bool.toNat_true]
            omega
      · rw [length_parts_append (bar_notMem_escapeChar bar)]
        exact (and_iff_right fun same => absurd same bar).symm

/-! ## Lines of the table -/

/-- The contents of a cell with the space around its text. -/
def spaced (text : List Char) : List Char :=
  ' ' :: text ++ [' ']

theorem escaping_spaced (text : List Char) : escaping false (spaced text) = false := by
  rw [spaced, escaping_concat]
  exact Bool.and_false _

theorem length_parts_spaced (text : List Char) :
    (parts false (spaced text)).length = (parts false text).length := by
  rw [spaced, length_parts_concat (by decide), parts_cons (by decide), List.length_modifyHead]
  rfl

/-- A text in a cell stays in one part exactly if it exposes no bar. -/
theorem length_parts_spaced_escape_iff (text : List Char) :
    (parts false (spaced (escape text))).length = 1 ↔ ¬ Exposes text := by
  rw [length_parts_spaced, length_parts_escape_iff]
  simp only [Exposes, not_exists, not_and, ← escaping_escape_iff, Bool.not_eq_true]

theorem tableLine_eq (texts : List (List Char)) :
    tableLine texts = barred (texts.map spaced) ++ ['\n'] := by
  have same : (fun text => spaced text ++ ['|']) = cell := by
    funext text
    rw [cell, spaced, List.append_assoc]
    rfl
  rw [tableLine, barred, List.flatMap_map, same]

theorem ruleLine_eq (count : Nat) :
    ruleLine count = barred (List.replicate count "---".toList) ++ ['\n'] := by
  rw [ruleLine, barred, List.flatMap_replicate]
  rfl

/-- The cells that number the columns between some bounds. -/
def numberCells (b : Bounds) : List (List Char) :=
  ([' '] :: b.cols.map fun col => digits (col + 1)).map spaced

/-- The cells of the line under the head. -/
def ruleCells (b : Bounds) : List (List Char) :=
  List.replicate (b.cols.length + 1) "---".toList

/-- The cells of a row with its number and texts. -/
def rowCells (row : Nat) (texts : List String) : List (List Char) :=
  (digits (row + 1) :: texts.map fun text => escape text.toList).map spaced

/-- The lines of a table. -/
def tableLines (sheet : Sheet) (b : Bounds) : List (List Char) :=
  barred (numberCells b) :: barred (ruleCells b) ::
    b.rows.map fun row => barred (rowCells row (sheet.shownRow b row))

theorem table_eq (sheet : Sheet) (b : Bounds) : table sheet b = unlines (tableLines sheet b) := by
  rw [table, tableLines, unlines, List.flatMap_cons, List.flatMap_cons, List.flatMap_map,
    tableLine_eq, ruleLine_eq, List.append_assoc]
  simp only [tableLine_eq]
  rfl

/-! ## The number of cells -/

variable {b : Bounds}

theorem escaping_of_mem_spaced {texts : List (List Char)} :
    ∀ cell ∈ texts.map spaced, escaping false cell = false :=
  List.forall_mem_map.mpr fun text _ => escaping_spaced text

theorem hasCells_numberCells (ordered : b.Ordered) :
    HasCells (barred (numberCells b)) (b.width + 1) := by
  have counted : (numberCells b).length = b.width + 1 := by
    rw [numberCells, List.length_map, List.length_cons, List.length_map, ordered.length_cols]
  rw [← counted]
  apply hasCells_of_whole escaping_of_mem_spaced
  rw [List.forall_mem_map, List.forall_mem_cons, List.forall_mem_map]
  refine ⟨by decide, fun col _ => ?_⟩
  rw [length_parts_spaced, length_parts_of_notMem (notMem_digits rfl _)]

theorem hasCells_ruleCells (ordered : b.Ordered) :
    HasCells (barred (ruleCells b)) (b.width + 1) := by
  have counted : (ruleCells b).length = b.width + 1 := by
    rw [ruleCells, List.length_replicate, ordered.length_cols]
  rw [← counted]
  apply hasCells_of_whole <;>
  · intro cell mem
    rw [List.eq_of_mem_replicate mem]
    rfl

/-- No cell of a row is lost, and none is added exactly if its texts expose no bar. -/
theorem hasCells_rowCells (row : Nat) (texts : List String) :
    ∃ count, HasCells (barred (rowCells row texts)) count ∧ texts.length + 1 ≤ count ∧
      (count = texts.length + 1 ↔ ∀ text ∈ texts, ¬ Exposes text.toList) := by
  have counted : (rowCells row texts).length = texts.length + 1 := by
    rw [rowCells, List.length_map, List.length_cons, List.length_map]
  refine ⟨_, hasCells_barred escaping_of_mem_spaced, ?_, ?_⟩
  · rw [← counted]
    exact length_le_length_flatMap_parts _
  · have number : (parts false (spaced (digits (row + 1)))).length = 1 := by
      rw [length_parts_spaced, length_parts_of_notMem (notMem_digits rfl _)]
    rw [← counted]
    change ((rowCells row texts).flatMap (parts false)).length = _ ↔ _
    rw [length_flatMap_parts_iff, rowCells, List.forall_mem_map, List.forall_mem_cons,
      List.forall_mem_map]
    simp only [number, true_and, length_parts_spaced_escape_iff]

/-! ## Line feeds -/

theorem lineFeed_notMem_barred (clean : ∀ cell ∈ cells, '\n' ∉ cell) : '\n' ∉ barred cells := by
  simp only [barred, List.mem_cons, List.mem_flatMap, List.mem_append, List.not_mem_nil]
  rintro (bar | ⟨cell, mem, here | bar | none⟩)
  · cases bar
  · exact clean cell mem here
  · cases bar
  · exact none

theorem lineFeed_notMem_spaced {text : List Char} (clean : '\n' ∉ text) : '\n' ∉ spaced text := by
  simp [spaced, clean]

theorem lineFeed_notMem_tableLines (sheet : Sheet) (b : Bounds) :
    ∀ line ∈ tableLines sheet b, '\n' ∉ line := by
  have number (n : Nat) : '\n' ∉ spaced (digits (n + 1)) :=
    lineFeed_notMem_spaced (notMem_digits rfl _)
  rw [tableLines, List.forall_mem_cons, List.forall_mem_cons, List.forall_mem_map]
  refine ⟨lineFeed_notMem_barred ?_, lineFeed_notMem_barred ?_, fun row _ =>
    lineFeed_notMem_barred ?_⟩
  · rw [numberCells, List.forall_mem_map, List.forall_mem_cons, List.forall_mem_map]
    exact ⟨by decide, fun col _ => number col⟩
  · intro cell mem
    rw [List.eq_of_mem_replicate mem]
    decide
  · rw [rowCells, List.forall_mem_map, List.forall_mem_cons, List.forall_mem_map]
    exact ⟨number row, fun text _ => lineFeed_notMem_spaced (lineFeed_notMem_escape _)⟩

end Markdown

/-! ## The export of a document -/

namespace Document

open Text Markdown

variable {d : Document} {b : Bounds}

theorem toList_markdown (bounded : d.bounds? = some b) :
    d.markdown.toList =
      unlines (('#' :: ' ' :: escape d.workbook.currentSheet.name.toList) :: [] ::
        tableLines d.workbook.currentSheet b) := by
  have found : d.workbook.currentSheet.bounds? = some b := bounded
  rw [markdown, Markdown.render, String.toList_ofList, found]
  dsimp only
  rw [table_eq, heading, unlines, unlines, List.flatMap_cons, List.flatMap_cons, List.append_assoc,
    List.append_assoc]
  rfl

/-- The Markdown of a document with text is a heading with the name of the current sheet, an empty
line, and a table of a head, the rule under it, and a line for each row between the bounds of the
text.  The head and the rule have one cell more than there are columns.  So has the line of a row
exactly if no text in the row has a bar behind an odd number of backslashes; otherwise it has more
cells. -/
theorem lines_markdown (bounded : d.bounds? = some b) :
    ∃ numbers rule rows,
      lines d.markdown.toList = ('#' :: ' ' :: escape d.workbook.currentSheet.name.toList) ::
        [] :: numbers :: rule :: rows ∧
      rows.length = b.height ∧ HasCells numbers (b.width + 1) ∧ HasCells rule (b.width + 1) ∧
      List.Forall₂ (fun row texts => ∃ count, HasCells row count ∧ b.width + 1 ≤ count ∧
        (count = b.width + 1 ↔ ∀ text ∈ texts, ¬ Exposes text.toList)) rows (d.table b) := by
  have ordered := Sheet.ordered_of_bounds? bounded
  let s := d.workbook.currentSheet
  refine ⟨_, _, b.rows.map fun row => barred (rowCells row (s.shownRow b row)), ?_, ?_,
    hasCells_numberCells ordered, hasCells_ruleCells ordered, ?_⟩
  · rw [toList_markdown bounded, lines_unlines]
    · rfl
    · rw [List.forall_mem_cons, List.forall_mem_cons]
      refine ⟨?_, List.not_mem_nil, lineFeed_notMem_tableLines _ _⟩
      simp [lineFeed_notMem_escape]
  · rw [List.length_map, ordered.rows_eq, List.length_map, List.length_range]
  · rw [← map_shownRow bounded, List.forall₂_map_left_iff, List.forall₂_map_right_iff,
      List.forall₂_same]
    intro row _
    have shown := hasCells_rowCells row (s.shownRow b row)
    have wide : (s.shownRow b row).length = b.width := by
      rw [Sheet.shownRow, List.length_map, ordered.length_cols]
    rw [wide] at shown
    exact shown

/-- A table of two rows, one with a bar and one with a bar behind a backslash. -/
theorem lines_markdown_of_two_rows :
    let first := ((ofLayout ⟨"a", ⟨2, 1⟩⟩).write? ⟨0, 0⟩ "b|c").getD (ofLayout Layout.standard)
    let d := (first.write? ⟨1, 0⟩ "\\|").getD first
    let b : Bounds := ⟨⟨0, 0⟩, ⟨1, 0⟩⟩
    d.bounds? = some b ∧ ∃ numbers rule rows,
      lines d.markdown.toList = ('#' :: ' ' :: escape d.workbook.currentSheet.name.toList) ::
        [] :: numbers :: rule :: rows ∧
      rows.length = b.height ∧ HasCells numbers (b.width + 1) ∧ HasCells rule (b.width + 1) ∧
      List.Forall₂ (fun row texts => ∃ count, HasCells row count ∧ b.width + 1 ≤ count ∧
        (count = b.width + 1 ↔ ∀ text ∈ texts, ¬ Exposes text.toList)) rows (d.table b) := by
  intro first d b
  have bounded : d.bounds? = some b := by decide
  exact ⟨bounded, lines_markdown bounded⟩

/-- A text of a backslash and a bar takes up two cells of a table with one column. -/
theorem lines_markdown_of_exposed_bar :
    let d := ((ofLayout ⟨"a", ⟨1, 1⟩⟩).write? ⟨0, 0⟩ "\\|").getD (ofLayout Layout.standard)
    d.bounds? = some ⟨⟨0, 0⟩, ⟨0, 0⟩⟩ ∧
      ∃ line ∈ (lines d.markdown.toList).drop 2, HasCells line 3 ∧ ¬ HasCells line 2 := by
  intro d
  have three : HasCells "| 1 | \\\\| |".toList 3 :=
    ⟨[" 1 ".toList, " \\\\".toList, " ".toList], by decide, rfl⟩
  have written : (lines d.markdown.toList).drop 2 =
      ["|   | 1 |".toList, "|---|---|".toList, "| 1 | \\\\| |".toList] := by decide
  refine ⟨by decide, _, ?_, three, fun two => ?_⟩
  · rw [written]
    exact List.mem_cons_of_mem _ (List.mem_cons_of_mem _ List.mem_cons_self)
  · cases three.eq two

end Document

end Gridbook
