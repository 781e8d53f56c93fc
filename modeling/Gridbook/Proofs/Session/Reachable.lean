import Gridbook.Proofs.Session.Steps
import Gridbook.Proofs.Snapshot.Accepted

/-!
# Documents that requests lead to

A document is reached from a first one by requests that are answered, each of which may find other
files.  If the
workbooks of the first documents are well formed, so are all that are reached, and if moreover no
sheet is without rows or columns at first, none ever is.  All documents that are created from a
layout or opened from a file have well-formed workbooks, whatever the files hold.
-/

namespace Gridbook

open Text

namespace Session

variable {s : Session}

theorem wellFormed_step (formed : s.document.workbook.WellFormed) (request : Request) :
    (s.step request).1.document.workbook.WellFormed := by
  rw [workbook_step]
  cases made : s.changed? request with
  | none => exact formed
  | some w =>
      rcases edit_or_load made with edit | ⟨_, _, v, _, accepted, rfl⟩
      · exact edit.wellFormed formed
      · exact (Workbook.Edit.evaluator _).wellFormed (Snapshot.read_eq_ok accepted).1

theorem sized_step (formed : s.document.workbook.WellFormed) (sized : s.document.workbook.Sized)
    (request : Request) : (s.step request).1.document.workbook.Sized := by
  rw [workbook_step]
  cases made : s.changed? request with
  | none => exact sized
  | some w =>
      rcases edit_or_load made with edit | ⟨_, _, v, _, accepted, rfl⟩
      · exact edit.sized formed sized
      · exact (Snapshot.read_eq_ok accepted).2.1

end Session

namespace Document

/-- The documents that requests lead to from some first ones, whatever files each request finds.
Nothing is reached by a request at which the session ends. -/
inductive ReachableFrom (first : Document → Prop) : Document → Prop where
  | first {d : Document} (start : first d) : ReachableFrom first d
  | step {d : Document} {files : Files} {request : Session.Request}
      (before : ReachableFrom first d)
      (answered : Session.breaksOff ⟨d, files⟩ request = false) :
      ReachableFrom first (Session.step ⟨d, files⟩ request).1.document

variable {first : Document → Prop} {d : Document}

theorem ReachableFrom.wellFormed (reachable : d.ReachableFrom first)
    (start : ∀ d, first d → d.workbook.WellFormed) : d.workbook.WellFormed := by
  induction reachable with
  | first found => exact start _ found
  | @step _ files request _ _ ih => exact Session.wellFormed_step (s := ⟨_, files⟩) ih request

theorem ReachableFrom.sized (reachable : d.ReachableFrom first)
    (start : ∀ d, first d → d.workbook.WellFormed ∧ d.workbook.Sized) : d.workbook.Sized := by
  induction reachable with
  | first found => exact (start _ found).2
  | @step _ files request before _ ih =>
      have formed := before.wellFormed fun d found => (start d found).1
      exact Session.sized_step (s := ⟨_, files⟩) formed ih request

/-! ## Loading and opening -/

variable {e : Document} {path : String} {files next : Files} {layout : Layout}

/-- A document is loaded from a text that is read as a snapshot. -/
theorem loaded_eq
    (loaded : (d.load path : StateM Files (Except Error Document)).run files = (.ok e, next)) :
    ∃ source w, files.read? path = some source ∧ Snapshot.read source = .ok w ∧
      e = ⟨w.withEvaluator d.workbook.evaluating, some path, false⟩ := by
  rw [load_run] at loaded
  obtain ⟨loaded, _⟩ := Prod.mk.inj loaded
  cases found : files.read? path with
  | none =>
      rw [found] at loaded
      cases loaded
  | some source =>
      rw [found] at loaded
      dsimp only at loaded
      cases accepted : Snapshot.read source with
      | error failure =>
          rw [withSnapshot, accepted] at loaded
          cases loaded
      | ok w =>
          rw [withSnapshot, accepted] at loaded
          exact ⟨source, w, rfl, accepted, (Except.ok.inj loaded).symm⟩

theorem wellFormed_of_load
    (loaded : (d.load path : StateM Files (Except Error Document)).run files = (.ok e, next)) :
    e.workbook.WellFormed ∧ e.workbook.Sized := by
  obtain ⟨source, w, _, accepted, rfl⟩ := loaded_eq loaded
  obtain ⟨formed, sized, _⟩ := Snapshot.read_eq_ok accepted
  exact ⟨(Workbook.Edit.evaluator _).wellFormed formed, sized⟩

/-- A document that is opened is that of the layout, perhaps with a path, or it is loaded. -/
theorem opened_eq_or_loaded {path : Option String}
    (success : (opened path layout : StateM Files (Except Error Document)).run files =
      (.ok d, next)) :
    d = { ofLayout layout with path } ∨
      ∃ file, ((ofLayout layout).load file : StateM Files (Except Error Document)).run files =
        (.ok d, next) := by
  cases path with
  | none =>
      obtain ⟨same, _⟩ := Prod.mk.inj success
      exact .inl (Except.ok.inj same).symm
  | some path =>
      cases present : files.isPresent path with
      | true =>
          rw [opened_run_of_isPresent present] at success
          exact .inr ⟨path, success⟩
      | false =>
          rw [opened_run_of_absent present] at success
          obtain ⟨same, _⟩ := Prod.mk.inj success
          exact .inl (Except.ok.inj same).symm

theorem wellFormed_of_opened {path : Option String}
    (success : (opened path layout : StateM Files (Except Error Document)).run files =
      (.ok d, next)) : d.workbook.WellFormed := by
  rcases opened_eq_or_loaded success with rfl | ⟨file, loaded⟩
  · exact Workbook.wellFormed_ofLayout layout
  · exact (wellFormed_of_load loaded).1

theorem sized_of_opened {path : Option String} (sized : layout.extent.Sized)
    (success : (opened path layout : StateM Files (Except Error Document)).run files =
      (.ok d, next)) : d.workbook.Sized := by
  rcases opened_eq_or_loaded success with rfl | ⟨file, loaded⟩
  · exact Workbook.sized_ofLayout sized
  · exact (wellFormed_of_load loaded).2

/-! ## The invariant -/

/-- A document that was just created from a layout or opened, whatever the files hold. -/
inductive Created : Document → Prop where
  | ofLayout (layout : Layout) : Created (ofLayout layout)
  | opened {path : Option String} {layout : Layout} {files next : Files} {d : Document}
      (success : (opened path layout : StateM Files (Except Error Document)).run files =
        (.ok d, next)) : Created d

theorem Created.wellFormed (created : d.Created) : d.workbook.WellFormed := by
  cases created with
  | ofLayout layout => exact Workbook.wellFormed_ofLayout layout
  | opened success => exact wellFormed_of_opened success

/-- What holds of the sheets of a document at all times. -/
structure Sound (d : Document) : Prop where
  sheets_ne : d.workbook.sheets ≠ []
  current_lt : d.workbook.current < d.workbook.sheets.length
  named : ∀ s ∈ d.workbook.sheets, ¬ AllBlank s.name.toList
  slots : ∀ s ∈ d.workbook.sheets, s.grid.slots.size = s.grid.extent.rows * s.grid.extent.cols
  limit : ∀ s ∈ d.workbook.sheets, s.grid.extent.rows * s.grid.extent.cols ≤ maxCells
  extent : d.workbook.sheets.head?.map (fun s => s.grid.extent) = some d.workbook.extent
  added : ∀ name w, d.workbook.addSheet? name = some w →
    ∃ s, w.sheets = d.workbook.sheets ++ [s] ∧ s.grid.extent = d.workbook.extent
  classified : ∀ s ∈ d.workbook.sheets, ∀ c, some c ∈ s.grid.slots → c.Classified
  evaluator : ∀ files request, (∀ attached, request ≠ .setEvaluator attached) →
    (Session.step ⟨d, files⟩ request).1.document.workbook.evaluating = d.workbook.evaluating

theorem sound_of_reachable (reachable : d.ReachableFrom Created) : d.Sound := by
  have formed := reachable.wellFormed fun _ => Created.wellFormed
  refine ⟨?_, d.workbook.current_lt, ?_, ?_, ?_, formed.first, ?_, ?_, ?_⟩
  · exact List.ne_nil_of_mem d.workbook.currentSheet_mem
  · exact fun s mem => (formed.sound s mem).named
  · exact fun s _ => s.grid.size_slots
  · exact fun s _ => s.grid.fits
  · intro name w found
    have done := Workbook.addSheet?_eq_some_iff.mp found
    exact ⟨_, done.sheets, formed.extent_empty⟩
  · exact fun s mem c stored => ((formed.sound s mem).cells c stored).classified
  · exact fun files request other => Session.evaluating_step ⟨d, files⟩ other

/-- A formula that is written on a sheet, before another sheet is added. -/
theorem sound_of_formula_written :
    let written := (Session.step ⟨ofLayout Layout.standard, Files.empty⟩
      (.write ⟨0, 1⟩ "=sum((1,1),(1,2))")).1.document
    let added := (Session.step ⟨written, Files.empty⟩ (.addSheet "b")).1.document
    added.ReachableFrom Created ∧ added.Sound := by
  intro written added
  have evaluated : Session.breaksOff ⟨ofLayout Layout.standard, Files.empty⟩
      (.write ⟨0, 1⟩ "=sum((1,1),(1,2))") = false := by decide +kernel
  have reachable : added.ReachableFrom Created :=
    .step (.step (.first (.ofLayout Layout.standard)) evaluated) rfl
  exact ⟨reachable, sound_of_reachable reachable⟩

end Document

end Gridbook
