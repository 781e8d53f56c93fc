import Gridbook.Proofs.Workbook.Operations
import Gridbook.Session

/-!
# What one request does

Saving leaves the workbook as it is and loading leaves the files as they are.  The workbook after a
request is the one that the request makes, if it makes any, and otherwise the one before.  What is
written to a path of the files is what is read there afterwards.
-/

namespace Gridbook

/-! ## Files -/

namespace Files

variable {fs next : Files} {path text : String}

theorem lookup?_put_self (fs : Files) (place : Place) (content : FileContent) :
    (fs.put place content).lookup? place = some content :=
  List.lookup_cons_self

/-- Putting a file at one place leaves the others as they are. -/
theorem lookup?_put_of_ne (fs : Files) {place other : Place} (content : FileContent)
    (apart : other ≠ place) : (fs.put place content).lookup? other = fs.lookup? other := by
  obtain ⟨working, contents, directories⟩ := fs
  simp only [lookup?, put, List.lookup_cons, beq_false_of_ne apart]
  induction contents with
  | nil => rfl
  | cons entry rest ih =>
      by_cases same : entry.1 = place
      · rw [List.filter_cons_of_neg (by simpa using same), ih, List.lookup_cons, same,
          beq_false_of_ne apart]
      · rw [List.filter_cons_of_pos (by simpa using same), List.lookup_cons, List.lookup_cons, ih]

theorem locate?_put (fs : Files) (place : Place) (content : FileContent) :
    (fs.put place content).locate? = fs.locate? := rfl

theorem write?_eq_some (done : fs.write? path text = some next) :
    ∃ place, fs.locate? path = some place ∧ next = fs.put place (.text text) := by
  unfold write? store? at done
  obtain ⟨place, located, done⟩ := Option.bind_eq_some_iff.mp done
  split at done
  · cases done
  · exact ⟨place, located, (Option.some.inj done).symm⟩

theorem locate?_of_write? (done : fs.write? path text = some next) :
    next.locate? = fs.locate? := by
  obtain ⟨place, _, rfl⟩ := write?_eq_some done
  exact locate?_put fs place (.text text)

/-- Writing to a path leaves the files at other places as they are. -/
theorem lookup?_of_write? {place : Place} (done : fs.write? path text = some next)
    (apart : fs.locate? path ≠ some place) : next.lookup? place = fs.lookup? place := by
  obtain ⟨target, located, rfl⟩ := write?_eq_some done
  apply lookup?_put_of_ne
  rintro rfl
  exact apart located

/-- A text that was written is read back. -/
theorem read?_of_write? (done : fs.write? path text = some next) :
    next.read? path = some text := by
  obtain ⟨place, located, rfl⟩ := write?_eq_some done
  rw [read?, file?, locate?_put, located]
  change ((fs.put place (.text text)).lookup? place).bind _ = _
  rw [lookup?_put_self]
  rfl

/-- A file that is found at the same place and is the same there holds the same text. -/
theorem read?_congr (located : next.locate? = fs.locate?)
    (same : ∀ place, fs.locate? path = some place → next.lookup? place = fs.lookup? place) :
    next.read? path = fs.read? path := by
  unfold read? file?
  rw [located]
  cases found : fs.locate? path with
  | none => rfl
  | some place =>
      change (next.lookup? place).bind _ = (fs.lookup? place).bind _
      rw [same place found]

theorem isPresent_of_write? (done : fs.write? path text = some next) :
    next.isPresent path = true := by
  obtain ⟨place, located, rfl⟩ := write?_eq_some done
  rw [isPresent, locate?_put, located]
  dsimp only
  rw [lookup?_put_self, Option.isSome_some, Bool.or_true]

end Files

/-! ## Documents and files -/

namespace Document

variable (d : Document) (path text : String) (files : Files)

theorem writeText_run : (FileAccess.writeText path text : StateM Files Bool).run files =
    match files.write? path text with
    | some next => (true, next)
    | none => (false, files) := by
  simp only [FileAccess.writeText, StateT.run_bind, StateT.run_get, pure_bind]
  cases files.write? path text <;> rfl

theorem saveAs_run : (d.saveAs path : StateM Files (Except Error Document)).run files =
    match files.write? path d.snapshot with
    | some next => (.ok { d with path := some path, modified := false }, next)
    | none => (.error .inaccessible, files) := by
  simp only [saveAs, StateT.run_bind, writeText_run]
  cases files.write? path d.snapshot <;> rfl

theorem load_run : (d.load path : StateM Files (Except Error Document)).run files =
    (match files.read? path with
      | none => .error .inaccessible
      | some source =>
          match d.withSnapshot source with
          | .ok loaded => .ok { loaded with path := some path, modified := false }
          | .error failure => .error (.unreadable failure), files) := by
  have found : (FileAccess.readText path : StateM Files (Option String)).run files =
      pure (files.read? path, files) := rfl
  rw [load, StateT.run_bind, found, pure_bind]
  cases files.read? path with
  | none => rfl
  | some source =>
      dsimp only
      cases d.withSnapshot source <;> rfl

theorem exportText_run : (exportText path text : StateM Files (Except Error Unit)).run files =
    match files.write? path text with
    | some next => (.ok (), next)
    | none => (.error .inaccessible, files) := by
  simp only [exportText, StateT.run_bind, writeText_run]
  cases files.write? path text <;> rfl

/-- Opening a path that is there loads it into the document of the layout. -/
theorem opened_run_of_isPresent {path : String} {files : Files}
    (present : files.isPresent path = true) (layout : Layout) :
    (opened (some path) layout : StateM Files (Except Error Document)).run files =
      ((ofLayout layout).load path : StateM Files (Except Error Document)).run files := by
  have found : (FileAccess.isPresent path : StateM Files Bool).run files =
      pure (files.isPresent path, files) := rfl
  simp only [opened, StateT.run_bind, found, pure_bind, present, if_true]

/-- Opening a path that leads nowhere gives the document of the layout that path. -/
theorem opened_run_of_absent {path : String} {files : Files}
    (absent : files.isPresent path = false) (layout : Layout) :
    (opened (some path) layout : StateM Files (Except Error Document)).run files =
      (.ok { ofLayout layout with path := some path }, files) := by
  have found : (FileAccess.isPresent path : StateM Files Bool).run files =
      pure (files.isPresent path, files) := rfl
  simp only [opened, StateT.run_bind, found, pure_bind, absent]
  rfl

end Document

/-! ## The workbook after a request -/

namespace Session

/-- The workbook that a request makes out of the present one, unless it keeps it. -/
def changed? (s : Session) : Request → Option Workbook
  | .write a content => s.document.workbook.write? a content
  | .store a content => content.bind (s.document.workbook.write? a)
  | .addSheet name => s.document.workbook.addSheet? name
  | .switch index => s.document.workbook.switch? index
  | .switchTo name => (s.document.workbook.indexOf? name).bind s.document.workbook.switch?
  | .setEvaluator attached => some (s.document.workbook.withEvaluator attached)
  | .load path => (s.files.read? path).bind fun source =>
      (Snapshot.read source).toOption.map fun w => w.withEvaluator s.document.workbook.evaluating
  | _ => none

theorem workbook_step (s : Session) (request : Request) :
    (s.step request).1.document.workbook = (s.changed? request).getD s.document.workbook := by
  cases request with
  | write a content =>
      rw [step, changed?, Document.write?]
      cases s.document.workbook.write? a content <;> rfl
  | store a content =>
      rw [step, changed?]
      cases content.bind (s.document.workbook.write? a) <;> rfl
  | addSheet name =>
      rw [step, changed?, Document.addSheet?]
      cases s.document.workbook.addSheet? name <;> rfl
  | switch index =>
      rw [step, changed?, Document.switch?]
      cases s.document.workbook.switch? index <;> rfl
  | switchTo name =>
      rw [step, changed?, Document.switchTo]
      cases s.document.workbook.indexOf? name with
      | none => rfl
      | some index =>
          dsimp only
          rw [Option.bind_some, Document.switch?]
          cases s.document.workbook.switch? index <;> rfl
  | save =>
      rw [step, replace, Document.save]
      cases s.document.path with
      | none => rfl
      | some path =>
          dsimp only
          rw [Document.saveAs_run]
          cases s.files.write? path s.document.snapshot <;> rfl
  | saveAs path =>
      rw [step, replace, Document.saveAs_run]
      cases s.files.write? path s.document.snapshot <;> rfl
  | load path =>
      rw [step, replace, Document.load_run, changed?]
      cases s.files.read? path with
      | none => rfl
      | some source =>
          dsimp only
          rw [Option.bind_some, Document.withSnapshot]
          cases Snapshot.read source <;> rfl
  | exportCsv path =>
      rw [step, emit, Document.exportCsv, Document.exportText_run]
      cases s.files.write? path s.document.csv <;> rfl
  | exportMarkdown path =>
      rw [step, emit, Document.exportMarkdown, Document.exportText_run]
      cases s.files.write? path s.document.markdown <;> rfl
  | _ => rfl

theorem run_cons_of_breaksOff {s : Session} {request : Request}
    (broken : s.breaksOff request = true) (rest : List Request) :
    s.run (request :: rest) = (s, []) :=
  if_pos broken

theorem run_cons {s : Session} {request : Request} (answered : s.breaksOff request = false)
    (rest : List Request) :
    s.run (request :: rest) = (((s.step request).1.run rest).1,
      (s.step request).2 :: ((s.step request).1.run rest).2) := by
  rw [run, answered]
  rfl

/-- A request makes a workbook by an edit, or it loads one that keeps the evaluator as it was. -/
theorem edit_or_load {s : Session} {request : Request} {w : Workbook}
    (made : s.changed? request = some w) : s.document.workbook.Edit w ∨
      ∃ path source v, request = .load path ∧ Snapshot.read source = .ok v ∧
        w = v.withEvaluator s.document.workbook.evaluating := by
  cases request with
  | write a content => exact .inl (.write made)
  | store a content =>
      obtain ⟨text, _, made⟩ := Option.bind_eq_some_iff.mp made
      exact .inl (.write made)
  | addSheet name => exact .inl (.addSheet made)
  | switch index => exact .inl (.switch made)
  | switchTo name =>
      obtain ⟨index, _, made⟩ := Option.bind_eq_some_iff.mp made
      exact .inl (.switch made)
  | setEvaluator attached =>
      obtain rfl := Option.some.inj made
      exact .inl (.evaluator attached)
  | load path =>
      obtain ⟨source, _, made⟩ := Option.bind_eq_some_iff.mp made
      obtain ⟨v, accepted, rfl⟩ := Option.map_eq_some_iff.mp made
      refine .inr ⟨path, source, v, rfl, ?_, rfl⟩
      cases outcome : Snapshot.read source with
      | error failure =>
          rw [outcome] at accepted
          cases accepted
      | ok u =>
          rw [outcome] at accepted
          exact congrArg Except.ok (Option.some.inj accepted)
  | _ => cases made

/-- Only a request for it attaches or detaches the evaluator. -/
theorem evaluating_step (s : Session) {request : Request}
    (other : ∀ attached, request ≠ .setEvaluator attached) :
    (s.step request).1.document.workbook.evaluating = s.document.workbook.evaluating := by
  rw [workbook_step]
  cases made : s.changed? request with
  | none => rfl
  | some w =>
      cases request with
      | write a content => exact (Workbook.write?_eq_some_iff.mp made).evaluating
      | store a content =>
          obtain ⟨text, _, made⟩ := Option.bind_eq_some_iff.mp made
          exact (Workbook.write?_eq_some_iff.mp made).evaluating
      | addSheet name => exact (Workbook.addSheet?_eq_some_iff.mp made).evaluating
      | switch index => exact (Workbook.switch?_eq_some_iff.mp made).evaluating
      | switchTo name =>
          obtain ⟨index, _, made⟩ := Option.bind_eq_some_iff.mp made
          exact (Workbook.switch?_eq_some_iff.mp made).evaluating
      | setEvaluator attached => exact absurd rfl (other attached)
      | load path =>
          obtain ⟨source, _, made⟩ := Option.bind_eq_some_iff.mp made
          obtain ⟨v, _, rfl⟩ := Option.map_eq_some_iff.mp made
          rfl
      | _ => cases made

end Session

end Gridbook
