import Gridbook.Proofs.Snapshot.Accepted
import Gridbook.Proofs.Text.Trimming

/-!
# Reading line by line

What a line does to the progress depends on its number and on its entry, which is its kind and its
text without the white space around it.  When an entry is accepted and what comes of it is said here
once.  Reading breaks off at the first line that is refused by the progress that the lines before it
have made, and a line is never refused for what is only checked at the end.
-/

namespace Gridbook

open Text

namespace Snapshot

variable {line : List Char} {s t : Sheet} {a : Address} {c : Cell} {number : Nat}

/-! ## Entries -/

namespace Entry

/-- The index on a line that gives the current sheet, as it is written. -/
def current? : Entry → Option (List Char)
  | .current text => some text
  | _ => none

/-- The line of a cell. -/
def cell? : Entry → Option (List Char)
  | .cell line => some line
  | _ => none

/-- Whether the line opens a sheet. -/
def isHeader : Entry → Bool
  | .header _ => true
  | _ => false

end Entry

/-- The entry of a line. -/
def entry (line : List Char) : Entry :=
  Entry.ofLine (trim line)

/-- The entries of a text, one for each line. -/
def entries (source : String) : List Entry :=
  (lines source.toList).map entry

/-! ## The lines of cells -/

/-- The address and the cell that a line gives. -/
def cellOf? (line : List Char) : Option (Address × Cell) := do
  let (before, behind) ← cut? ':' line
  return (← Address.read? (trim before), ← (readCell (trim behind)).toOption)

theorem toOption_eq_some_iff {ε α : Type} {r : Except ε α} {x : α} :
    r.toOption = some x ↔ r = .ok x := by
  cases r <;> simp [Except.toOption]

theorem cellOf?_eq_some_iff : cellOf? line = some (a, c) ↔ ∃ before behind,
    cut? ':' line = some (before, behind) ∧ Address.read? (trim before) = some a ∧
      readCell (trim behind) = .ok c := by
  simp only [cellOf?, Option.bind_eq_bind, Option.bind_eq_some_iff, Option.pure_def,
    Option.some.injEq, Prod.mk.injEq, toOption_eq_some_iff]
  constructor
  · rintro ⟨⟨before, behind⟩, divided, _, address, _, content, rfl, rfl⟩
    exact ⟨before, behind, divided, address, content⟩
  · rintro ⟨before, behind, divided, address, content⟩
    exact ⟨(before, behind), divided, a, address, c, content, rfl, rfl⟩

/-- The line of a cell is accepted on a sheet if its address is inside, whatever else is there. -/
theorem readCellLine_iff_cellOf? : readCellLine s line = .ok t ↔ ∃ a c,
    cellOf? line = some (a, c) ∧ s.grid.extent.Contains a ∧ t = s.put a c := by
  rw [readCellLine_eq_ok_iff]
  constructor
  · rintro ⟨before, behind, a, c, divided, address, inside, content, rfl⟩
    exact ⟨a, c, cellOf?_eq_some_iff.mpr ⟨before, behind, divided, address, content⟩, inside, rfl⟩
  · rintro ⟨a, c, given, inside, rfl⟩
    obtain ⟨before, behind, divided, address, content⟩ := cellOf?_eq_some_iff.mp given
    exact ⟨before, behind, a, c, divided, address, inside, content, rfl⟩

/-! ## One line -/

/-- What becomes of the progress by an entry that is accepted. -/
inductive Takes (number : Nat) (p : Progress) : Entry → Progress → Prop where
  | skipped : Takes number p .skipped p
  | current {text : List Char} {index : Nat} (counted : count? text = some index) :
      Takes number p (.current text) ⟨p.sheets, some (index, number)⟩
  | header {line : List Char} {s : Sheet} (opened : readHeader line = .ok s) :
      Takes number p (.header line) ⟨s :: p.sheets, p.current⟩
  | cell {line : List Char} {s : Sheet} {earlier : List Sheet} {a : Address} {c : Cell}
      (last : p.sheets = s :: earlier) (given : cellOf? line = some (a, c))
      (inside : s.grid.extent.Contains a) :
      Takes number p (.cell line) ⟨s.put a c :: earlier, p.current⟩

namespace Progress

variable {p q : Progress}

theorem advance_eq_ok_iff :
    p.advance number line = .ok q ↔ Takes number p (Entry.ofLine line) q := by
  unfold advance
  generalize Entry.ofLine line = entry
  cases entry with
  | skipped =>
      constructor
      · intro accepted
        obtain rfl := Except.ok.inj accepted
        exact .skipped
      · rintro ⟨⟩
        rfl
  | current text =>
      dsimp only
      constructor
      · intro accepted
        split at accepted
        · rename_i counted
          obtain rfl := Except.ok.inj accepted
          exact .current counted
        · cases accepted
      · rintro (_ | counted)
        rw [counted]
        rfl
  | header line =>
      constructor
      · intro accepted
        obtain ⟨s, opened, accepted⟩ := bind_eq_ok_iff.mp accepted
        obtain rfl := Except.ok.inj accepted
        exact .header opened
      · rintro (_ | _ | opened)
        exact bind_eq_ok_iff.mpr ⟨_, opened, rfl⟩
  | cell line =>
      obtain ⟨sheets, current⟩ := p
      cases sheets with
      | nil =>
          constructor
          · intro accepted
            cases accepted
          · rintro (_ | _ | _ | ⟨last, _, _⟩)
            cases last
      | cons s earlier =>
          constructor
          · intro accepted
            obtain ⟨t, put, accepted⟩ := bind_eq_ok_iff.mp accepted
            obtain rfl := Except.ok.inj accepted
            obtain ⟨a, c, given, inside, rfl⟩ := readCellLine_iff_cellOf?.mp put
            exact .cell rfl given inside
          · rintro (_ | _ | _ | ⟨last, given, inside⟩)
            obtain ⟨rfl, rfl⟩ := List.cons.inj last
            have put := readCellLine_iff_cellOf?.mpr ⟨_, _, given, inside, rfl⟩
            exact bind_eq_ok_iff.mpr ⟨_, put, rfl⟩

/-- White space around a line makes no difference. -/
theorem step_trim (p : Progress) (line : List Char) (number : Nat) :
    p.step (trim line, number) = p.step (line, number) := by
  simp only [step, trim_trim]

theorem foldlM_step_map_trim (text : List (List Char)) (number : Nat) (p : Progress) :
    ((text.map trim).zipIdx number).foldlM step p = (text.zipIdx number).foldlM step p := by
  simp only [List.zipIdx_map, List.foldlM_map]
  exact congrArg (fun f => (text.zipIdx number).foldlM f p)
    (funext fun p => funext fun x => p.step_trim x.1 x.2)

theorem step_eq_ok_iff {x : List Char × Nat} :
    p.step x = .ok q ↔ Takes x.2 p (entry x.1) q := by
  rw [entry, ← advance_eq_ok_iff, step]
  cases p.advance x.2 (trim x.1) with
  | ok next =>
      exact ⟨fun done => congrArg Except.ok (Except.ok.inj done),
        fun done => congrArg Except.ok (Except.ok.inj done)⟩
  | error cause => exact ⟨nofun, nofun⟩

theorem step_eq_error_iff {x : List Char × Nat} {failure : Failure} :
    p.step x = .error failure ↔
      ∃ cause, p.advance x.2 (trim x.1) = .error cause ∧ failure = .atLine x.2 cause := by
  rw [step]
  cases p.advance x.2 (trim x.1) with
  | ok next => exact ⟨nofun, nofun⟩
  | error cause =>
      constructor
      · intro failed
        exact ⟨cause, rfl, (Except.error.inj failed).symm⟩
      · rintro ⟨_, same, rfl⟩
        obtain rfl := Except.error.inj same
        rfl

end Progress

/-! ## All lines -/

/-- What becomes of the progress by numbered entries that are all accepted. -/
inductive TakesAll : Progress → List (Entry × Nat) → Progress → Prop where
  | nil (p : Progress) : TakesAll p [] p
  | cons {p q r : Progress} {e : Entry} {number : Nat} {rest : List (Entry × Nat)}
      (first : Takes number p e q) (later : TakesAll q rest r) :
      TakesAll p ((e, number) :: rest) r

variable {p q : Progress} {l : List (List Char × Nat)}

theorem foldlM_step_eq_ok_iff :
    l.foldlM Progress.step p = .ok q ↔ TakesAll p (l.map fun x => (entry x.1, x.2)) q := by
  induction l generalizing p with
  | nil =>
      constructor
      · intro done
        obtain rfl := Except.ok.inj done
        exact .nil p
      · rintro ⟨⟩
        rfl
  | cons x rest ih =>
      simp only [List.foldlM_cons, bind_eq_ok_iff, Progress.step_eq_ok_iff, ih]
      constructor
      · rintro ⟨next, first, later⟩
        exact .cons first later
      · rintro (_ | ⟨first, later⟩)
        exact ⟨_, first, later⟩

theorem foldlM_lines_eq_ok_iff {source : String} :
    ((lines source.toList).zipIdx 1).foldlM Progress.step .start = .ok q ↔
      TakesAll .start ((entries source).zipIdx 1) q := by
  have numbered : (entries source).zipIdx 1 =
      ((lines source.toList).zipIdx 1).map fun x => (entry x.1, x.2) := List.zipIdx_map
  rw [foldlM_step_eq_ok_iff, numbered]

theorem read_eq_ok_iff_takesAll {source : String} {w : Workbook} : read source = .ok w ↔
    ∃ q, TakesAll .start ((entries source).zipIdx 1) q ∧ q.finish = .ok w := by
  unfold read
  simp only [bind_eq_ok_iff, foldlM_lines_eq_ok_iff]

end Snapshot

end Gridbook
