import Gridbook.Proofs.Session.Reachable
import Gridbook.Proofs.Snapshot.RoundTrip

/-!
# Reopening a saved document

Sessions whose workbooks look alike answer every request that reaches no file in the same way, and
their workbooks look alike afterwards.  If they also share their path and their files, this holds of
all requests.  The document that is opened from a file looks like the one that was saved there while
its evaluator was attached, so no run of requests tells the two apart.
-/

namespace Gridbook

open Text Formula

namespace Session

/-- Whether answering a request takes files. -/
def Request.reachesFiles : Request → Bool
  | .save | .saveAs _ | .load _ | .exportCsv _ | .exportMarkdown _ => true
  | _ => false

/-- The workbooks of two sessions look the same. -/
def Alike (s t : Session) : Prop :=
  s.document.workbook.view = t.document.workbook.view

variable {s t : Session} {request : Request}

/-! ## Requests that reach no file -/

theorem answer_keep (s : Session) (document : Option Document) :
    (s.keep document).2 = .accepted document.isSome := by
  cases document <;> rfl

theorem isSome_congr {next other : Option Workbook}
    (same : next.map Workbook.view = other.map Workbook.view) : next.isSome = other.isSome := by
  rw [← Option.isSome_map (f := Workbook.view), same, Option.isSome_map]

theorem changed?_congr (alike : Alike s t)
    (files : request.reachesFiles = false ∨ s.files = t.files) :
    (s.changed? request).map Workbook.view = (t.changed? request).map Workbook.view := by
  cases request with
  | write a content => exact Workbook.write?_congr alike a content
  | store a content =>
      cases content with
      | none => rfl
      | some text => exact Workbook.write?_congr alike a text
  | addSheet name => exact Workbook.addSheet?_congr alike name
  | switch index => exact Workbook.switch?_congr alike index
  | switchTo name =>
      rw [changed?, changed?, Workbook.indexOf?_congr alike]
      cases t.document.workbook.indexOf? name with
      | none => rfl
      | some index => exact Workbook.switch?_congr alike index
  | setEvaluator attached => exact congrArg some (Workbook.withEvaluator_congr alike attached)
  | load path =>
      rcases files with quiet | files
      · cases quiet
      · rw [changed?, changed?, files, Workbook.evaluating_congr alike]
  | _ => rfl

/-- Sessions that look alike still do after a request. -/
theorem Alike.step (alike : Alike s t) (files : request.reachesFiles = false ∨ s.files = t.files) :
    Alike (s.step request).1 (t.step request).1 := by
  have same := changed?_congr alike files
  rw [Alike, workbook_step, workbook_step]
  have shown (next : Option Workbook) (w : Workbook) :
      (next.getD w).view = (next.map Workbook.view).getD w.view := by
    cases next <;> rfl
  rw [shown, shown, same, alike]

theorem answer_addSheet (s : Session) (name : String) : (s.step (.addSheet name)).2 =
    .index ((s.document.workbook.addSheet? name).map fun w => w.sheets.length - 1) := by
  rw [Session.step, Document.addSheet?]
  cases s.document.workbook.addSheet? name <;> rfl

theorem length_congr {next other : Option Workbook}
    (same : next.map Workbook.view = other.map Workbook.view) :
    next.map (fun w => w.sheets.length) = other.map (fun w => w.sheets.length) := by
  have counted (next : Option Workbook) : next.map (fun w => w.sheets.length) =
      (next.map Workbook.view).map fun v => v.sheets.length := by
    cases next with
    | none => rfl
    | some w => exact congrArg some (List.length_map _).symm
  rw [counted, counted, same]

/-- Sessions that look alike answer alike, as long as no file is reached. -/
theorem Alike.answer (alike : Alike s t) (quiet : request.reachesFiles = false) :
    (s.step request).2 = (t.step request).2 := by
  have made := changed?_congr alike (.inl quiet)
  cases request with
  | write a content =>
      rw [Session.step, Session.step, answer_keep, answer_keep, Document.write?, Document.write?,
        Option.isSome_map, Option.isSome_map]
      exact congrArg Answer.accepted (isSome_congr made)
  | store a content =>
      rw [Session.step, Session.step, answer_keep, answer_keep, Option.isSome_map,
        Option.isSome_map]
      exact congrArg Answer.accepted (isSome_congr made)
  | addSheet name =>
      have counts := congrArg (Option.map (· - 1)) (length_congr made)
      rw [Option.map_map, Option.map_map] at counts
      rw [answer_addSheet, answer_addSheet]
      exact congrArg Answer.index counts
  | switch index =>
      rw [Session.step, Session.step, answer_keep, answer_keep, Document.switch?, Document.switch?,
        Option.isSome_map, Option.isSome_map]
      exact congrArg Answer.accepted (isSome_congr made)
  | switchTo name =>
      rw [Session.step, Session.step, Document.switchTo, Document.switchTo,
        Workbook.indexOf?_congr alike]
      cases t.document.workbook.indexOf? name <;> rfl
  | setEvaluator attached => rfl
  | evaluate formula =>
      rw [Session.step, Session.step, Document.evaluate, Document.evaluate,
        Workbook.evaluate_congr alike]
  | evaluateBody body => rw [Session.step, Session.step, Workbook.evaluate_congr alike]
  | cell a => rw [Session.step, Session.step, Workbook.cell?_congr alike]
  | display a => rw [Session.step, Session.step, Workbook.display_congr alike]
  | content a => rw [Session.step, Session.step, Workbook.content_congr alike]
  | numberOn name a => rw [Session.step, Session.step, Workbook.numberOn_congr alike]
  | bounds =>
      exact congrArg Answer.bounds (Sheet.bounds?_congr (Workbook.currentSheet_congr alike))
  | csv => exact congrArg Answer.text (Sheet.csv_congr (Workbook.currentSheet_congr alike))
  | markdown =>
      exact congrArg Answer.text (Sheet.markdown_congr (Workbook.currentSheet_congr alike))
  | snapshot =>
      exact congrArg Answer.text
        (Workbook.write_congr (Workbook.sheets_congr alike) (Workbook.current_congr alike))
  | _ => cases quiet

/-- Sessions that look alike end at the same requests. -/
theorem Alike.breaksOff (alike : Alike s t) (request : Request) :
    s.breaksOff request = t.breaksOff request := by
  have extent := Sheet.extent_congr (Workbook.currentSheet_congr alike)
  have written : evaluated?.written? s = evaluated?.written? t := by
    funext a content
    rw [evaluated?.written?, evaluated?.written?, extent]
  have asked : s.evaluated? request = t.evaluated? request := by
    cases request <;> simp only [evaluated?, written]
  rw [Session.breaksOff, Session.breaksOff, asked, Workbook.breaksOff_congr alike]

/-! ## All requests -/

/-- Sessions that look alike and share their path and their files. -/
structure Twin (s t : Session) : Prop where
  alike : Alike s t
  path : s.document.path = t.document.path
  files : s.files = t.files

theorem path_step_of_quiet (s : Session) (quiet : request.reachesFiles = false) :
    (s.step request).1.document.path = s.document.path ∧ (s.step request).1.files = s.files := by
  cases request with
  | write a content =>
      rw [Session.step, Document.write?]
      cases s.document.workbook.write? a content <;> exact ⟨rfl, rfl⟩
  | store a content =>
      rw [Session.step]
      cases content.bind (s.document.workbook.write? a) <;> exact ⟨rfl, rfl⟩
  | addSheet name =>
      rw [Session.step, Document.addSheet?]
      cases s.document.workbook.addSheet? name <;> exact ⟨rfl, rfl⟩
  | switch index =>
      rw [Session.step, Document.switch?]
      cases s.document.workbook.switch? index <;> exact ⟨rfl, rfl⟩
  | switchTo name =>
      rw [Session.step, Document.switchTo]
      cases s.document.workbook.indexOf? name with
      | none => exact ⟨rfl, rfl⟩
      | some index =>
          dsimp only
          rw [Document.switch?]
          cases s.document.workbook.switch? index <;> exact ⟨rfl, rfl⟩
  | save => cases quiet
  | saveAs path => cases quiet
  | load path => cases quiet
  | exportCsv path => cases quiet
  | exportMarkdown path => cases quiet
  | _ => exact ⟨rfl, rfl⟩

theorem Alike.sheet (alike : Alike s t) :
    s.document.workbook.currentSheet.view = t.document.workbook.currentSheet.view :=
  Workbook.currentSheet_congr alike

theorem Alike.snapshot (alike : Alike s t) : s.document.snapshot = t.document.snapshot :=
  Workbook.write_congr (Workbook.sheets_congr alike) (Workbook.current_congr alike)

/-- Sessions that share their path and their files answer alike what takes files, and share both
afterwards. -/
theorem Twin.step_files (twin : Twin s t) (reaches : request.reachesFiles = true) :
    (s.step request).2 = (t.step request).2 ∧
      (s.step request).1.document.path = (t.step request).1.document.path ∧
      (s.step request).1.files = (t.step request).1.files := by
  cases request with
  | save =>
      rw [Session.step, Session.step, replace, replace, Document.save, Document.save, twin.path]
      cases t.document.path with
      | none => exact ⟨rfl, twin.path, twin.files⟩
      | some path =>
          dsimp only
          rw [Document.saveAs_run, Document.saveAs_run, twin.alike.snapshot, twin.files]
          cases t.files.write? path t.document.snapshot with
          | none => exact ⟨rfl, twin.path, rfl⟩
          | some next => exact ⟨rfl, rfl, rfl⟩
  | saveAs path =>
      rw [Session.step, Session.step, replace, replace, Document.saveAs_run, Document.saveAs_run,
        twin.alike.snapshot, twin.files]
      cases t.files.write? path t.document.snapshot with
      | none => exact ⟨rfl, twin.path, rfl⟩
      | some next => exact ⟨rfl, rfl, rfl⟩
  | load path =>
      rw [Session.step, Session.step, replace, replace, Document.load_run, Document.load_run,
        twin.files]
      cases t.files.read? path with
      | none => exact ⟨rfl, twin.path, rfl⟩
      | some source =>
          dsimp only
          rw [Document.withSnapshot, Document.withSnapshot]
          cases Snapshot.read source with
          | error failure => exact ⟨rfl, twin.path, rfl⟩
          | ok w => exact ⟨rfl, rfl, rfl⟩
  | exportCsv path =>
      have shown : s.document.csv = t.document.csv := Sheet.csv_congr twin.alike.sheet
      rw [Session.step, Session.step, emit, emit, Document.exportCsv, Document.exportCsv,
        Document.exportText_run, Document.exportText_run, shown, twin.files]
      cases t.files.write? path t.document.csv <;> exact ⟨rfl, twin.path, rfl⟩
  | exportMarkdown path =>
      have shown : s.document.markdown = t.document.markdown :=
        Sheet.markdown_congr twin.alike.sheet
      rw [Session.step, Session.step, emit, emit, Document.exportMarkdown,
        Document.exportMarkdown, Document.exportText_run, Document.exportText_run, shown,
        twin.files]
      cases t.files.write? path t.document.markdown <;> exact ⟨rfl, twin.path, rfl⟩
  | _ => cases reaches

theorem Twin.step (twin : Twin s t) (request : Request) :
    Twin (s.step request).1 (t.step request).1 := by
  have alike : Alike (s.step request).1 (t.step request).1 := twin.alike.step (.inr twin.files)
  cases reaches : request.reachesFiles with
  | true =>
      obtain ⟨_, path, files⟩ := twin.step_files reaches
      exact ⟨alike, path, files⟩
  | false =>
      obtain ⟨path, files⟩ := path_step_of_quiet s reaches
      obtain ⟨path', files'⟩ := path_step_of_quiet t reaches
      exact ⟨alike, path.trans (twin.path.trans path'.symm),
        files.trans (twin.files.trans files'.symm)⟩

theorem Twin.answer (twin : Twin s t) (request : Request) :
    (s.step request).2 = (t.step request).2 := by
  cases reaches : request.reachesFiles with
  | true => exact (twin.step_files reaches).1
  | false => exact twin.alike.answer reaches

/-! ## Runs -/

/-- Two sessions that answer the first request alike, or both end there, have the same answers if
those to the other requests are the same. -/
theorem answers_cons_congr {rest : List Request} (ends : s.breaksOff request = t.breaksOff request)
    (first : (s.step request).2 = (t.step request).2)
    (others : ((s.step request).1.run rest).2 = ((t.step request).1.run rest).2) :
    (s.run (request :: rest)).2 = (t.run (request :: rest)).2 := by
  cases broken : t.breaksOff request with
  | true => rw [run_cons_of_breaksOff broken, run_cons_of_breaksOff (ends.trans broken)]
  | false =>
      rw [run_cons broken, run_cons (ends.trans broken)]
      exact congrArg₂ List.cons first others

/-- No run of requests that reach no file tells sessions apart that look alike. -/
theorem Alike.run {requests : List Request} (alike : Alike s t)
    (quiet : ∀ request ∈ requests, request.reachesFiles = false) :
    (s.run requests).2 = (t.run requests).2 := by
  induction requests generalizing s t with
  | nil => rfl
  | cons request rest ih =>
      obtain ⟨first, others⟩ := List.forall_mem_cons.mp quiet
      exact answers_cons_congr (alike.breaksOff request) (alike.answer first)
        (ih (alike.step (.inl first)) others)

theorem Twin.run (twin : Twin s t) (requests : List Request) :
    (s.run requests).2 = (t.run requests).2 := by
  induction requests generalizing s t with
  | nil => rfl
  | cons request rest ih =>
      exact answers_cons_congr (twin.alike.breaksOff request) (twin.answer request)
        (ih (twin.step request))

end Session

namespace Document

/-! ## Saving and opening -/

/-- A document of a layout with at least one row and one column, or one that was loaded. -/
inductive Begun : Document → Prop where
  | ofLayout {layout : Layout} (sized : layout.extent.Sized) : Begun (ofLayout layout)
  | loaded {d e : Document} {path : String} {files next : Files}
      (success : (d.load path : StateM Files (Except Error Document)).run files =
        (.ok e, next)) : Begun e

variable {d saved : Document} {path : String} {files next : Files}

theorem Begun.wellFormed (begun : d.Begun) : d.workbook.WellFormed ∧ d.workbook.Sized := by
  cases begun with
  | ofLayout sized => exact ⟨Workbook.wellFormed_ofLayout _, Workbook.sized_ofLayout sized⟩
  | loaded success => exact wellFormed_of_load success

theorem saved_eq (success : (d.saveAs path : StateM Files (Except Error Document)).run files =
      (.ok saved, next)) :
    files.write? path d.snapshot = some next ∧ saved = ⟨d.workbook, some path, false⟩ := by
  rw [saveAs_run] at success
  cases written : files.write? path d.snapshot with
  | none =>
      rw [written] at success
      cases success
  | some after =>
      rw [written] at success
      obtain ⟨same, rfl⟩ := Prod.mk.inj success
      exact ⟨rfl, (Except.ok.inj same).symm⟩

/-- What is opened from the file that a document was saved to looks like the document. -/
theorem opened_of_saved (formed : d.workbook.WellFormed) (sized : d.workbook.Sized)
    (attached : d.workbook.evaluating = true)
    (success : (d.saveAs path : StateM Files (Except Error Document)).run files =
      (.ok saved, next)) (layout : Layout) :
    ∃ w : Workbook, (opened (some path) layout : StateM Files (Except Error Document)).run next =
        (.ok ⟨w, some path, false⟩, next) ∧ w.view = d.workbook.view := by
  obtain ⟨written, rfl⟩ := saved_eq success
  obtain ⟨w, accepted, same⟩ := Snapshot.exists_read_write formed sized
  have unchanged : d.workbook.withEvaluator true = d.workbook :=
    Workbook.eq_of_fields rfl rfl rfl attached.symm
  refine ⟨w.withEvaluator true, ?_, ?_⟩
  · have found : next.read? path = some (Snapshot.write d.workbook) := Files.read?_of_write? written
    rw [opened_run_of_isPresent (Files.isPresent_of_write? written), load_run, found]
    dsimp only
    rw [withSnapshot, accepted]
    rfl
  · rw [unchanged] at same
    rw [Workbook.withEvaluator_congr same true, unchanged]

/-- A document that was saved while its evaluator was attached and the one that is then opened from
the file give the same answers to every run of requests.  So does the document before it was saved,
if the requests reach no file. -/
theorem reopened_answers (reachable : d.ReachableFrom Begun)
    (attached : d.workbook.evaluating = true)
    (success : (d.saveAs path : StateM Files (Except Error Document)).run files =
      (.ok saved, next)) (layout : Layout) :
    ∃ reopened : Document,
      (opened (some path) layout : StateM Files (Except Error Document)).run next =
        (.ok reopened, next) ∧
      (∀ requests, (Session.run ⟨saved, next⟩ requests).2 =
        (Session.run ⟨reopened, next⟩ requests).2) ∧
      ∀ requests, (∀ request ∈ requests, Session.Request.reachesFiles request = false) →
        (Session.run ⟨d, files⟩ requests).2 = (Session.run ⟨reopened, next⟩ requests).2 := by
  have formed := reachable.wellFormed fun _ begun => begun.wellFormed.1
  have sized := reachable.sized fun _ => Begun.wellFormed
  obtain ⟨w, opens, same⟩ := opened_of_saved formed sized attached success layout
  obtain ⟨_, rfl⟩ := saved_eq success
  refine ⟨⟨w, some path, false⟩, opens, ?_, ?_⟩
  · have twin : Session.Twin ⟨⟨d.workbook, some path, false⟩, next⟩ ⟨⟨w, some path, false⟩, next⟩ :=
      ⟨same.symm, rfl, rfl⟩
    exact twin.run
  · intro requests quiet
    have alike : Session.Alike ⟨d, files⟩ ⟨⟨w, some path, false⟩, next⟩ := same.symm
    exact alike.run quiet

/-- A cell that was emptied again is not in the file, and the reopened document does not show
it. -/
theorem reopened_answers_of_emptied_cell :
    let d := (Session.step ⟨ofLayout ⟨"a", ⟨2, 2⟩⟩, Files.empty⟩ (.write ⟨0, 1⟩ "")).1.document
    ∃ saved next, d.ReachableFrom Begun ∧ d.workbook.evaluating = true ∧
      (d.saveAs "b" : StateM Files (Except Error Document)).run Files.empty = (.ok saved, next) ∧
      ∃ reopened : Document,
        (opened (some "b") Layout.standard : StateM Files (Except Error Document)).run next =
          (.ok reopened, next) ∧
        (∀ requests, (Session.run ⟨saved, next⟩ requests).2 =
          (Session.run ⟨reopened, next⟩ requests).2) ∧
        ∀ requests, (∀ request ∈ requests, Session.Request.reachesFiles request = false) →
          (Session.run ⟨d, Files.empty⟩ requests).2 =
            (Session.run ⟨reopened, next⟩ requests).2 := by
  intro d
  have reachable : d.ReachableFrom Begun := .step (.first (.ofLayout (by decide))) rfl
  have attached : d.workbook.evaluating = true :=
    Session.evaluating_step ⟨ofLayout ⟨"a", ⟨2, 2⟩⟩, Files.empty⟩ fun _ clash => nomatch clash
  obtain ⟨next, written⟩ : ∃ next, Files.empty.write? "b" d.snapshot = some next := by
    have located : Files.empty.locate? "b" = some ["work", "b"] := by decide
    have vacant : Files.empty.isDirectory ["work", "b"] = false := by decide
    rw [Files.write?, Files.store?, located, Option.bind_eq_bind, Option.bind_some, vacant]
    exact ⟨_, rfl⟩
  have success : (d.saveAs "b" : StateM Files (Except Error Document)).run Files.empty =
      (.ok ⟨d.workbook, some "b", false⟩, next) := by
    rw [saveAs_run, written]
  exact ⟨_, next, reachable, attached, success, reopened_answers reachable attached success _⟩

end Document

end Gridbook
