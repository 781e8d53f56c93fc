import Gridbook.Proofs.Session.Modified
import Gridbook.Proofs.Snapshot.RoundTrip
import Gridbook.Proofs.Workbook.Extents

/-!
# Saved documents are opened again

A layout may ask for no rows or for no columns.  Whatever is done with its document short of loading
another one, the sheets keep the extent of the layout.  So the file that the document is saved to
holds a snapshot that is read as its workbook, provided that the layout asks for at least one row
and one column.  Otherwise it is saved as well, but its first header is refused.
-/

namespace Gridbook

open Text

/-! ## Extents without rows or columns -/

namespace Extent

variable {e : Extent}

theorem sized_shrunk_iff : e.shrunk.Sized ↔ e.Sized := by
  constructor
  · intro sized
    exact ⟨Nat.le_trans sized.1 e.rows_shrunk_le, Nat.le_trans sized.2 e.cols_shrunk_le⟩
  · exact Sized.shrunk

theorem not_sized_iff : ¬ e.Sized ↔ e.rows = 0 ∨ e.cols = 0 := by
  unfold Sized
  omega

end Extent

namespace Snapshot

section Empty

variable {e : Extent} (empty : ¬ e.Sized) (rows : e.rows < countLimit) (cols : e.cols < countLimit)

include empty rows cols

theorem readHeader_headerLine_of_empty (name : String) :
    readHeader (headerLine name e) = .error .dimensionsZero := by
  simp only [readHeader, headerParts?_headerLine, count?_digits rows, count?_digits cols,
    if_pos (Extent.not_sized_iff.mp empty)]
  rfl

/-- The header of a sheet without rows or columns is refused. -/
theorem step_headerLine_of_empty (p : Progress) (name : String) (number : Nat) :
    p.step (headerLine name e, number) = .error (.atLine number .dimensionsZero) := by
  have entry : Entry.ofLine (headerLine name e) = .header (headerLine name e) := by
    rw [headerLine_eq]
    rfl
  rw [step_of_closed (closed_headerLine name e), Progress.advance, entry]
  dsimp only
  rw [readHeader_headerLine_of_empty empty rows cols]
  rfl

end Empty

/-- The first header of a snapshot is refused if the sheets have no rows or no columns. -/
theorem read_write_of_empty {w : Workbook} (formed : w.WellFormed) (empty : ¬ w.extent.Sized)
    (rows : w.extent.rows < countLimit) (cols : w.extent.cols < countLimit) :
    read (write w) = .error (.atLine 3 .dimensionsZero) := by
  -- The header of the first sheet has the extent of further ones and stands on the third line.
  obtain ⟨s, first, same⟩ := Option.map_eq_some_iff.mp formed.first
  obtain ⟨rest, sheets⟩ := List.head?_eq_some_iff.mp first
  rw [← same] at empty rows cols
  rw [read_write, sheets, List.flatMap_cons, sheetLines, List.cons_append, List.zipIdx_cons,
    List.foldlM_cons, step_headerLine_of_empty empty rows cols]
  rfl

end Snapshot

/-! ## The extent of further sheets -/

namespace Session

variable {s t : Session} {request : Request} {answer : Answer}
  {record : List (Request × Answer)} {d e : Document} {first : Document → Prop}

theorem extent_step (s : Session) (stays : ∀ path, request ≠ .load path) :
    (s.step request).1.document.workbook.extent = s.document.workbook.extent := by
  rw [workbook_step]
  cases made : s.changed? request with
  | none => rfl
  | some w =>
      rcases edit_or_load made with edit | ⟨path, _, _, loads, _⟩
      · exact edit.extent_eq
      · exact absurd loads (stays path)

/-- As long as nothing is loaded, further sheets get the extent that they would have got. -/
theorem Course.extent_eq (course : Course d record e)
    (stays : ∀ entry ∈ record, ∀ path, entry.1 ≠ .load path) :
    e.workbook.extent = d.workbook.extent := by
  induction course with
  | nil d => rfl
  | @cons d next last files left request answer record answered here later ih =>
      obtain ⟨first, others⟩ := List.forall_mem_cons.mp stays
      have kept := extent_step ⟨d, files⟩ first
      rw [here] at kept
      exact (ih others).trans kept

/-- A course leads from one reachable document to another. -/
theorem Course.reachable (course : Course d record e) (start : d.ReachableFrom first) :
    e.ReachableFrom first := by
  induction course with
  | nil d => exact start
  | @cons d next last files left request answer record answered here later ih =>
      have one := start.step answered
      rw [here] at one
      exact ih one

/-- A file that a document was saved to holds its snapshot. -/
theorem Effect.read?_of_saved {path : String} (effect : Effect s request t answer)
    (saved : answer = .path (some path)) : t.files.read? path = some s.document.snapshot := by
  cases effect with
  | refused blocked => cases blocked <;> cases saved
  | shown looks => cases request <;> cases looks <;> cases saved
  | saved known done =>
      cases saved
      exact Files.read?_of_write? done
  | savedAs done =>
      cases saved
      exact Files.read?_of_write? done
  | _ => cases saved

end Session

namespace Document

open Session

variable {layout : Layout} {record : List (Request × Answer)} {d : Document}

/-- Whatever is done with the document of a layout, short of loading another one, a file that it is
saved to holds its snapshot.  If the layout asks for a row and a column, the snapshot is read as a
workbook that looks like that of the document.  Otherwise it is never read, because of its first
header. -/
theorem read_saved (rows : layout.extent.rows < countLimit) (cols : layout.extent.cols < countLimit)
    (course : Course (ofLayout layout) record d)
    (stays : ∀ entry ∈ record, ∀ path, entry.1 ≠ .load path) :
    (∀ files request path, (step ⟨d, files⟩ request).2 = .path (some path) →
      (step ⟨d, files⟩ request).1.files.read? path = some d.snapshot) ∧
    (layout.extent.Sized → ∃ w, Snapshot.read d.snapshot = .ok w ∧
      w.view = (d.workbook.withEvaluator true).view) ∧
    (¬ layout.extent.Sized →
      Snapshot.read d.snapshot = .error (.atLine 3 .dimensionsZero)) := by
  have reachable : d.ReachableFrom (· = ofLayout layout) := course.reachable (.first rfl)
  have formed : d.workbook.WellFormed := by
    apply reachable.wellFormed
    rintro _ rfl
    exact Workbook.wellFormed_ofLayout layout
  refine ⟨?_, ?_, ?_⟩
  · intro files request path saved
    exact (effect_step ⟨d, files⟩ request).read?_of_saved saved
  · intro sized
    apply Snapshot.exists_read_write formed
    apply reachable.sized
    rintro _ rfl
    exact ⟨Workbook.wellFormed_ofLayout layout, Workbook.sized_ofLayout sized⟩
  · intro empty
    have extent : d.workbook.extent = layout.extent.shrunk := course.extent_eq stays
    apply Snapshot.read_write_of_empty formed <;> rw [extent]
    · exact mt Extent.sized_shrunk_iff.mp empty
    · exact Nat.lt_of_le_of_lt layout.extent.rows_shrunk_le rows
    · exact Nat.lt_of_le_of_lt layout.extent.cols_shrunk_le cols

/-- A layout with a blank name and more columns than fit. -/
theorem read_saved_of_oversized :
    let layout : Layout := ⟨" ", ⟨3, 1000000⟩⟩
    let requests : List Request := [.addSheet "a", .switch 1, .write ⟨2, 70000⟩ "\"\n=->"]
    let s := (run ⟨ofLayout layout, Files.empty⟩ requests).1
    layout.extent.rows < countLimit ∧ layout.extent.cols < countLimit ∧
      (∃ record, Course (ofLayout layout) record s.document ∧
        ∀ entry ∈ record, ∀ path, entry.1 ≠ .load path) ∧
      layout.extent.Sized ∧ ∃ w, Snapshot.read s.document.snapshot = .ok w ∧
        w.view = (s.document.workbook.withEvaluator true).view := by
  intro layout requests s
  have rows : layout.extent.rows < countLimit := by decide
  have cols : layout.extent.cols < countLimit := by decide
  have course : Course (ofLayout layout) _ s.document :=
    course_run ⟨ofLayout layout, Files.empty⟩ requests
  have sized : layout.extent.Sized := by decide
  have stays : ∀ entry ∈ requests.zip (run ⟨ofLayout layout, Files.empty⟩ requests).2,
      ∀ path, entry.1 ≠ .load path := by
    intro entry mem path
    have asked : entry.1 ∈ requests := (List.of_mem_zip mem).1
    simp only [requests, List.mem_cons, List.not_mem_nil, or_false] at asked
    rcases asked with same | same | same <;> rw [same] <;> nofun
  have read := read_saved rows cols course stays
  exact ⟨rows, cols, ⟨_, course, stays⟩, sized, read.2.1 sized⟩

/-- A document without rows is saved to a file that cannot be loaded. -/
theorem read_saved_of_no_rows :
    let saved := step ⟨ofLayout ⟨"a", ⟨0, 1⟩⟩, Files.empty⟩ (.saveAs "b")
    saved.2 = .path (some "b") ∧ ∃ source, saved.1.files.read? "b" = some source ∧
      Snapshot.read source = .error (.atLine 3 .dimensionsZero) :=
  ⟨rfl, _, rfl, rfl⟩

end Document

end Gridbook
