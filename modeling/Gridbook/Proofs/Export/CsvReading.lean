import Gridbook.Proofs.Export.Bounds

/-!
# Comma-separated values are read back

A record ends at a line feed and its fields are separated by commas.  A field that starts with a
quote runs to the quote that closes it, and two quotes inside it stand for one; any other field runs
to the next comma or line feed.  A reader goes through a text with these rules character by
character.  What it reads in the export of a document is the table that the document shows.
-/

namespace Gridbook

namespace Csv

/-! ## The reader -/

/-- The place in a field that was reached: its start, inside it without or with quotes, or behind a
quote that closes it unless another one follows. -/
inductive Place where
  | start
  | plain
  | quoted
  | closed
deriving DecidableEq

/-- The records that are complete, the complete fields of the next record, and what was read of its
next field. -/
structure Reader where
  records : List (List String)
  fields : List String
  field : List Char
  place : Place

namespace Reader

/-- The reader at the start of a text. -/
def initial : Reader := ⟨[], [], [], .start⟩

/-- One more character of the field. -/
def take (r : Reader) (c : Char) (place : Place) : Reader :=
  { r with field := r.field ++ [c], place }

/-- The fields of the record with the one that ends here. -/
def ended (r : Reader) : List String :=
  r.fields ++ [String.ofList r.field]

/-- Read one character; a quoted field must not go on behind its closing quote. -/
def step (r : Reader) (c : Char) : Option Reader :=
  match r.place, c with
  | .start, '"' => some { r with place := .quoted }
  | .quoted, '"' => some { r with place := .closed }
  | .closed, '"' => some (r.take '"' .quoted)
  | .quoted, c => some (r.take c .quoted)
  | _, ',' => some ⟨r.records, r.ended, [], .start⟩
  | _, '\n' => some ⟨r.records ++ [r.ended], [], [], .start⟩
  | .closed, _ => none
  | _, c => some (r.take c .plain)

end Reader

/-- The records of a text, of which the last one must be complete. -/
def read? (text : String) : Option (List (List String)) := do
  let r ← text.toList.foldlM Reader.step Reader.initial
  if r.fields = [] ∧ r.place = .start then some r.records else none

namespace Reader

variable {r : Reader} {c : Char}

theorem step_quoted (inside : r.place = .quoted) (plain : c ≠ '"') :
    r.step c = some (r.take c .quoted) := by
  unfold step
  rw [inside]
  split <;> simp_all

theorem step_plain (outside : r.place = .start ∨ r.place = .plain) (plain : needsQuotes c = false) :
    r.step c = some (r.take c .plain) := by
  simp only [needsQuotes, Bool.or_eq_false_iff, beq_eq_false_iff_ne] at plain
  unfold step
  rcases outside with outside | outside <;> rw [outside] <;> split <;> simp_all

theorem step_comma (outside : r.place ≠ .quoted) :
    r.step ',' = some ⟨r.records, r.ended, [], .start⟩ := by
  unfold step
  cases known : r.place <;> simp_all

theorem step_lineFeed (outside : r.place ≠ .quoted) :
    r.step '\n' = some ⟨r.records ++ [r.ended], [], [], .start⟩ := by
  unfold step
  cases known : r.place <;> simp_all

/-- Reading a text leads from one reader to another. -/
def Reads (r : Reader) (s : List Char) (t : Reader) : Prop :=
  s.foldlM step r = some t

variable {s rest : List Char} {t u : Reader}

theorem Reads.nil (r : Reader) : r.Reads [] r := rfl

theorem Reads.cons (here : r.step c = some t) (later : t.Reads s u) : r.Reads (c :: s) u := by
  rw [Reads, List.foldlM_cons, here]
  exact later

theorem Reads.append (first : r.Reads s t) (later : t.Reads rest u) : r.Reads (s ++ rest) u := by
  rw [Reads, List.foldlM_append, first]
  exact later

/-! ## Reading written fields and records -/

/-- Between quotes, a text whose quotes are doubled is read as it is. -/
theorem reads_doubled (records : List (List String)) (fields : List String) (read s : List Char) :
    Reads ⟨records, fields, read, .quoted⟩ (s.flatMap doubled)
      ⟨records, fields, read ++ s, .quoted⟩ := by
  induction s generalizing read with
  | nil => rw [List.append_nil]; exact .nil _
  | cons c s ih =>
      have later := ih (read ++ [c])
      rw [List.append_assoc, List.singleton_append] at later
      rw [List.flatMap_cons]
      by_cases quote : c = '"'
      · subst quote
        exact .cons rfl (.cons rfl later)
      · rw [doubled, if_neg quote]
        exact .cons (step_quoted rfl quote) later

/-- Without quotes, a text is read as it is that holds nothing for which quotes are needed. -/
theorem reads_plain (outside : r.place = .start ∨ r.place = .plain)
    (plain : ∀ c ∈ s, needsQuotes c = false) :
    ∃ place ≠ .quoted, r.Reads s { r with field := r.field ++ s, place } := by
  induction s generalizing r with
  | nil =>
      refine ⟨r.place, ?_, by simp [Reads]⟩
      rcases outside with same | same <;> rw [same] <;> decide
  | cons c s ih =>
      obtain ⟨here, others⟩ := List.forall_mem_cons.mp plain
      obtain ⟨place, open', later⟩ := ih (r := r.take c .plain) (.inr rfl) others
      refine ⟨place, open', .cons (step_plain outside here) ?_⟩
      rw [take, List.append_assoc, List.singleton_append] at later
      exact later

/-- A written field is read up to a place where it can end.  A closing quote is known as such only
by what follows it, so the place may be behind one. -/
theorem reads_field (records : List (List String)) (fields : List String) (s : List Char) :
    ∃ place ≠ .quoted, Reads ⟨records, fields, [], .start⟩ (Csv.field s)
      ⟨records, fields, s, place⟩ := by
  unfold Csv.field
  cases quotes : s.any needsQuotes with
  | true =>
      refine ⟨.closed, by decide, ?_⟩
      have inner := reads_doubled records fields [] s
      exact .append (.cons rfl inner) (.cons rfl (.nil _))
  | false =>
      rw [List.any_eq_false] at quotes
      exact reads_plain (.inl rfl) fun c mem => Bool.eq_false_iff.mpr (quotes c mem)

theorem reads_record (records : List (List String)) (earlier : List String) {fields : List String}
    (filled : fields ≠ []) :
    Reads ⟨records, earlier, [], .start⟩ (record fields)
      ⟨records ++ [earlier ++ fields], [], [], .start⟩ := by
  induction fields generalizing earlier with
  | nil => exact absurd rfl filled
  | cons field rest ih =>
      obtain ⟨place, open', here⟩ := reads_field records earlier field.toList
      cases rest with
      | nil =>
          have ends := step_lineFeed (r := ⟨records, earlier, field.toList, place⟩) open'
          rw [ended, String.ofList_toList] at ends
          rw [record, List.map_singleton, List.intercalate_singleton]
          exact here.append (.cons ends (.nil _))
      | cons next rest =>
          have ends := step_comma (r := ⟨records, earlier, field.toList, place⟩) open'
          have later := ih (earlier ++ [field]) (List.cons_ne_nil _ _)
          rw [ended, String.ofList_toList] at ends
          rw [List.append_assoc, List.singleton_append] at later
          rw [record, List.map_cons, List.map_cons, List.intercalate_cons_cons, List.append_assoc,
            List.append_assoc]
          exact here.append (.cons ends later)

theorem reads_rows (records : List (List String)) {rows : List (List String)}
    (filled : ∀ row ∈ rows, row ≠ []) :
    Reads ⟨records, [], [], .start⟩ (rows.flatMap record) ⟨records ++ rows, [], [], .start⟩ := by
  induction rows generalizing records with
  | nil => rw [List.append_nil]; exact .nil _
  | cons row rest ih =>
      obtain ⟨here, others⟩ := List.forall_mem_cons.mp filled
      have later := ih (records ++ [row]) others
      rw [List.append_assoc, List.singleton_append] at later
      exact (reads_record records [] here).append later

end Reader

/-- Written rows are read back, unless one of them has no field. -/
theorem read?_rows {rows : List (List String)} (filled : ∀ row ∈ rows, row ≠ []) :
    read? (String.ofList (rows.flatMap record)) = some rows := by
  have done : (rows.flatMap record).foldlM Reader.step Reader.initial =
      some ⟨rows, [], [], .start⟩ := Reader.reads_rows [] filled
  simp only [read?, String.toList_ofList, done, Option.bind_eq_bind, Option.bind_some, and_self,
    if_true]

end Csv

/-! ## The export of a document -/

namespace Document

variable {d : Document} {b : Bounds}

theorem csv_eq (bounded : d.bounds? = some b) :
    d.csv = String.ofList ((d.table b).flatMap Csv.record) := by
  have found : d.workbook.currentSheet.bounds? = some b := bounded
  rw [csv, Csv.render, found]
  dsimp only
  rw [← map_shownRow bounded, List.flatMap_map]

theorem csv_of_unbounded (unbounded : d.bounds? = none) : d.csv = "" := by
  have missing : d.workbook.currentSheet.bounds? = none := unbounded
  rw [csv, Csv.render, missing]

/-- No row of the table is without fields. -/
theorem ne_nil_of_mem_table {row : List String} (mem : row ∈ d.table b) : row ≠ [] := by
  obtain ⟨i, _, rfl⟩ := List.mem_map.mp mem
  simp [Bounds.width]

/-- What is read in the comma-separated values of a document is the table between the bounds of its
text, with every text as it is shown.  There is nothing to read exactly if there is no text. -/
theorem read_csv (d : Document) :
    Csv.read? d.csv = some ((d.bounds?.map d.table).getD []) ∧ (d.csv = "" ↔ d.bounds? = none) := by
  cases bounded : d.bounds? with
  | none =>
      rw [csv_of_unbounded bounded]
      exact ⟨rfl, iff_of_true rfl rfl⟩
  | some b =>
      have read : Csv.read? d.csv = some (d.table b) := by
        rw [csv_eq bounded]
        exact Csv.read?_rows fun row mem => ne_nil_of_mem_table mem
      refine ⟨read, iff_of_false ?_ (Option.some_ne_none b)⟩
      intro empty
      have nothing : Csv.read? "" = some [] := rfl
      rw [empty, nothing] at read
      have rows := congrArg List.length (Option.some.inj read)
      simp [table, Bounds.height] at rows

end Document

end Gridbook
