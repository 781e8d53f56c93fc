import Gridbook.Proofs.Session.Steps

/-!
# What a request does to a session

A request is refused, or it only shows something, or it changes the document, the files or both in
the one way that belongs to it.  A request is refused for a reason that lies in the session before
it, and the session is then left exactly as it was: the workbook, the path, whether there is
something to save, and the files.

Requests that are answered in place have the same effects and answers.  In particular nothing has
changed if the document got another path before it was found that nothing can be written there.
-/

namespace Gridbook

open Text

namespace Session

/-! ## Refusals and their reasons -/

/-- An answer by which a request is refused. -/
inductive Refusal : Request → Answer → Prop where
  | write (a : Address) (content : String) : Refusal (.write a content) (.accepted false)
  | store (a : Address) (content : Option String) : Refusal (.store a content) (.accepted false)
  | addSheet (name : String) : Refusal (.addSheet name) (.index none)
  | switch (index : Nat) : Refusal (.switch index) (.accepted false)
  | failed (request : Request) (error : Document.Error) : Refusal request (.failed error)

/-- What stands in the way of a request, with the answer by which it is refused for that. -/
inductive Blocked (s : Session) : Request → Answer → Prop where
  | outside {a : Address} {content : String}
      (outside : ¬ s.document.workbook.currentSheet.grid.extent.Contains a) :
      Blocked s (.write a content) (.accepted false)
  | storeNothing {a : Address} : Blocked s (.store a none) (.accepted false)
  | storeOutside {a : Address} {content : String}
      (outside : ¬ s.document.workbook.currentSheet.grid.extent.Contains a) :
      Blocked s (.store a (some content)) (.accepted false)
  | blankName {name : String} (blank : AllBlank name.toList) :
      Blocked s (.addSheet name) (.index none)
  | noSuchIndex {index : Nat}
      (beyond : ¬ (index < s.document.workbook.sheets.length ∧ index < countLimit)) :
      Blocked s (.switch index) (.accepted false)
  | unknownName {name : String}
      (unknown : ∀ sheet ∈ s.document.workbook.sheets, sheet.answersTo name = false) :
      Blocked s (.switchTo name) (.failed (.unknownSheet (String.ofList (trim name.toList))))
  | noPath (unset : s.document.path = none) : Blocked s .save (.failed .noPath)
  | unwritable {path : String} (known : s.document.path = some path)
      (closed : s.files.write? path s.document.snapshot = none) :
      Blocked s .save (.failed .inaccessible)
  | unwritableAs {path : String} (closed : s.files.write? path s.document.snapshot = none) :
      Blocked s (.saveAs path) (.failed .inaccessible)
  | unreadable {path : String} (closed : s.files.read? path = none) :
      Blocked s (.load path) (.failed .inaccessible)
  | noSnapshot {path source : String} {failure : Snapshot.Failure}
      (found : s.files.read? path = some source)
      (rejected : Snapshot.read source = .error failure) :
      Blocked s (.load path) (.failed (.unreadable failure))
  | unwritableCsv {path : String} (closed : s.files.write? path s.document.csv = none) :
      Blocked s (.exportCsv path) (.failed .inaccessible)
  | unwritableMarkdown {path : String} (closed : s.files.write? path s.document.markdown = none) :
      Blocked s (.exportMarkdown path) (.failed .inaccessible)

/-! ## Effects -/

/-- A request that only asks what is there. -/
def Request.looks : Request → Bool
  | .evaluate _ | .evaluateBody _ | .cell _ | .display _ | .content _ | .numberOn _ _ | .bounds
  | .csv | .markdown | .snapshot => true
  | _ => false

/-- The session with another workbook. -/
def withWorkbook (s : Session) (w : Workbook) : Session :=
  { s with document := { s.document with workbook := w } }

/-- The session whose document is or is not to be saved. -/
def withModified (s : Session) (modified : Bool) : Session :=
  { s with document := { s.document with modified } }

/-- What becomes of a session by a request, and what is answered. -/
inductive Effect (s : Session) : Request → Session → Answer → Prop where
  | refused {request : Request} {answer : Answer} (blocked : Blocked s request answer) :
      Effect s request s answer
  | shown {request : Request} (looks : request.looks = true) :
      Effect s request s (s.step request).2
  | written {a : Address} {content : String} {w : Workbook}
      (done : s.document.workbook.write? a content = some w) :
      Effect s (.write a content) ((s.withWorkbook w).withModified true) (.accepted true)
  | stored {a : Address} {content : String} {w : Workbook}
      (done : s.document.workbook.write? a content = some w) :
      Effect s (.store a (some content)) (s.withWorkbook w) (.accepted true)
  | added {name : String} {w : Workbook} (done : s.document.workbook.addSheet? name = some w) :
      Effect s (.addSheet name) ((s.withWorkbook w).withModified true)
        (.index (some (w.sheets.length - 1)))
  | switched {index : Nat} {w : Workbook} (done : s.document.workbook.switch? index = some w) :
      Effect s (.switch index) (s.withWorkbook w) (.accepted true)
  | switchedTo {name : String} {index : Nat}
      (found : s.document.workbook.indexOf? name = some index) :
      Effect s (.switchTo name)
        (s.withWorkbook ((s.document.workbook.switch? index).getD s.document.workbook))
        (.index (some index))
  | setEvaluator (attached : Bool) :
      Effect s (.setEvaluator attached)
        (s.withWorkbook (s.document.workbook.withEvaluator attached)) (.accepted attached)
  | saved {path : String} {next : Files} (known : s.document.path = some path)
      (done : s.files.write? path s.document.snapshot = some next) :
      Effect s .save ⟨⟨s.document.workbook, some path, false⟩, next⟩ (.path (some path))
  | savedAs {path : String} {next : Files}
      (done : s.files.write? path s.document.snapshot = some next) :
      Effect s (.saveAs path) ⟨⟨s.document.workbook, some path, false⟩, next⟩ (.path (some path))
  | loaded {path source : String} {w : Workbook} (found : s.files.read? path = some source)
      (accepted : Snapshot.read source = .ok w) :
      Effect s (.load path)
        ⟨⟨w.withEvaluator s.document.workbook.evaluating, some path, false⟩, s.files⟩ .done
  | exportedCsv {path : String} {next : Files}
      (done : s.files.write? path s.document.csv = some next) :
      Effect s (.exportCsv path) { s with files := next } .done
  | exportedMarkdown {path : String} {next : Files}
      (done : s.files.write? path s.document.markdown = some next) :
      Effect s (.exportMarkdown path) { s with files := next } .done

/-- Every request has one of these effects. -/
theorem effect_step (s : Session) (request : Request) :
    Effect s request (s.step request).1 (s.step request).2 := by
  cases request with
  | write a content =>
      rw [step, Document.write?]
      cases done : s.document.workbook.write? a content with
      | none => exact .refused (.outside (Workbook.write?_eq_none_iff.mp done))
      | some w => exact .written done
  | store a content =>
      cases content with
      | none => exact .refused .storeNothing
      | some content =>
          rw [step, Option.bind_some]
          cases done : s.document.workbook.write? a content with
          | none => exact .refused (.storeOutside (Workbook.write?_eq_none_iff.mp done))
          | some w => exact .stored done
  | addSheet name =>
      rw [step, Document.addSheet?]
      cases done : s.document.workbook.addSheet? name with
      | none => exact .refused (.blankName (Workbook.addSheet?_eq_none_iff.mp done))
      | some w => exact .added done
  | switch index =>
      rw [step, Document.switch?]
      cases done : s.document.workbook.switch? index with
      | none => exact .refused (.noSuchIndex (Workbook.switch?_eq_none_iff.mp done))
      | some w => exact .switched done
  | switchTo name =>
      rw [step, Document.switchTo]
      cases found : s.document.workbook.indexOf? name with
      | none => exact .refused (.unknownName (List.findIdx?_eq_none_iff.mp found))
      | some index =>
          have effect := Effect.switchedTo found
          dsimp only
          rw [Document.switch?]
          cases moved : s.document.workbook.switch? index with
          | none =>
              rw [moved] at effect
              exact effect
          | some w =>
              rw [moved] at effect
              exact effect
  | setEvaluator attached => exact .setEvaluator attached
  | save =>
      rw [step, replace, Document.save]
      cases known : s.document.path with
      | none => exact .refused (.noPath known)
      | some path =>
          dsimp only
          rw [Document.saveAs_run]
          cases done : s.files.write? path s.document.snapshot with
          | none => exact .refused (.unwritable known done)
          | some next => exact .saved known done
  | saveAs path =>
      rw [step, replace, Document.saveAs_run]
      cases done : s.files.write? path s.document.snapshot with
      | none => exact .refused (.unwritableAs done)
      | some next => exact .savedAs done
  | load path =>
      rw [step, replace, Document.load_run]
      cases found : s.files.read? path with
      | none => exact .refused (.unreadable found)
      | some source =>
          dsimp only
          rw [Document.withSnapshot]
          cases accepted : Snapshot.read source with
          | error failure => exact .refused (.noSnapshot found accepted)
          | ok w => exact .loaded found accepted
  | exportCsv path =>
      rw [step, emit, Document.exportCsv, Document.exportText_run]
      cases done : s.files.write? path s.document.csv with
      | none => exact .refused (.unwritableCsv done)
      | some next => exact .exportedCsv done
  | exportMarkdown path =>
      rw [step, emit, Document.exportMarkdown, Document.exportText_run]
      cases done : s.files.write? path s.document.markdown with
      | none => exact .refused (.unwritableMarkdown done)
      | some next => exact .exportedMarkdown done
  | _ => exact .shown rfl

/-! ## Refused requests -/

variable {s t : Session} {request : Request} {answer : Answer}

/-- Only what stands in the way of a request has it refused, and nothing is changed then. -/
theorem Effect.of_refusal (effect : Effect s request t answer) (refusal : Refusal request answer) :
    t = s ∧ Blocked s request answer := by
  cases effect with
  | refused blocked => exact ⟨rfl, blocked⟩
  | shown looks =>
      generalize given : (s.step request).2 = answer at refusal
      cases refusal with
      | failed _ error => cases request <;> cases looks <;> cases given
      | _ => cases looks
  | _ => cases refusal

theorem refusal_of_blocked (blocked : Blocked s request answer) : Refusal request answer := by
  cases blocked <;> constructor

/-- What stands in the way of a request does have it refused. -/
theorem answer_of_blocked (blocked : Blocked s request answer) :
    (s.step request).2 = answer := by
  cases blocked with
  | outside outside =>
      rw [step, Document.write?, Workbook.write?_eq_none_iff.mpr outside]
      rfl
  | storeNothing => rfl
  | storeOutside outside =>
      rw [step, Option.bind_some, Workbook.write?_eq_none_iff.mpr outside]
      rfl
  | blankName blank =>
      rw [step, Document.addSheet?, Workbook.addSheet?_eq_none_iff.mpr blank]
      rfl
  | noSuchIndex beyond =>
      rw [step, Document.switch?, Workbook.switch?_eq_none_iff.mpr beyond]
      rfl
  | unknownName unknown =>
      rw [step, Document.switchTo, Workbook.indexOf?, List.findIdx?_eq_none_iff.mpr unknown]
  | noPath unset =>
      rw [step, replace, Document.save, unset]
      rfl
  | unwritable known closed =>
      rw [step, replace, Document.save, known]
      dsimp only
      rw [Document.saveAs_run, closed]
  | unwritableAs closed => rw [step, replace, Document.saveAs_run, closed]
  | unreadable closed => rw [step, replace, Document.load_run, closed]
  | noSnapshot found rejected =>
      rw [step, replace, Document.load_run, found]
      dsimp only
      rw [Document.withSnapshot, rejected]
      rfl
  | unwritableCsv closed =>
      rw [step, emit, Document.exportCsv, Document.exportText_run, closed]
  | unwritableMarkdown closed =>
      rw [step, emit, Document.exportMarkdown, Document.exportText_run, closed]

/-- A request is refused exactly if something stands in its way. -/
theorem refusal_iff_blocked :
    Refusal request (s.step request).2 ↔ ∃ answer, Blocked s request answer := by
  constructor
  · intro refusal
    exact ⟨_, ((effect_step s request).of_refusal refusal).2⟩
  · rintro ⟨answer, blocked⟩
    rw [answer_of_blocked blocked]
    exact refusal_of_blocked blocked

/-! ## Saving in place -/

theorem saveInPlace_run (s : Session) : saveInPlace.run s =
    match s.document.path with
    | none => (.error .noPath, s)
    | some path =>
        match s.files.write? path s.document.snapshot with
        | none => (.error .inaccessible, s)
        | some files => (.ok path, ⟨{ s.document with modified := false }, files⟩) := by
  simp only [saveInPlace, StateT.run_bind, StateT.run_get, pure_bind]
  cases s.document.path with
  | none => rfl
  | some path =>
      dsimp only
      cases s.files.write? path s.document.snapshot <;> rfl

theorem saveAsInPlace_run (s : Session) (path : String) : (saveAsInPlace path).run s =
    match s.files.write? path s.document.snapshot with
    | none => (.error .inaccessible, s)
    | some files => (.ok path, ⟨⟨s.document.workbook, some path, false⟩, files⟩) := by
  have moved : (exchangePath (some path)).run s =
      pure (s.document.path, { s with document := { s.document with path := some path } }) := rfl
  have same : Document.snapshot ⟨s.document.workbook, some path, s.document.modified⟩ =
      s.document.snapshot := rfl
  simp only [saveAsInPlace, StateT.run_bind, moved, pure_bind, saveInPlace_run, same]
  cases s.files.write? path s.document.snapshot <;> rfl

/-- In place or not, a request has the same answer and leaves the same session. -/
theorem perform_run (s : Session) (request : Request) :
    (perform request).run s = ((s.step request).2, (s.step request).1) := by
  cases request with
  | save =>
      rw [perform, StateT.run_map, saveInPlace_run, step, replace, Document.save]
      cases known : s.document.path with
      | none => rfl
      | some path =>
          dsimp only
          rw [Document.saveAs_run]
          cases s.files.write? path s.document.snapshot with
          | none => rfl
          | some next => rw [known]; rfl
  | saveAs path =>
      rw [perform, StateT.run_map, saveAsInPlace_run, step, replace, Document.saveAs_run]
      cases s.files.write? path s.document.snapshot <;> rfl
  | _ => rfl

/-! ## Nothing is left of a refused request -/

/-- A request that is refused, whether it is answered in place or not, leaves the session as it was,
and what stood in its way was there before. -/
theorem unchanged_of_refusal (refusal : Refusal request (s.step request).2) :
    (s.step request).1 = s ∧ (perform request).run s = ((s.step request).2, s) ∧
      Blocked s request (s.step request).2 := by
  obtain ⟨same, blocked⟩ := (effect_step s request).of_refusal refusal
  refine ⟨same, ?_, blocked⟩
  rw [perform_run, same]

/-- A file whose third line is bad, after a sheet and a cell that are good, and a directory that is
not there; the document has a path and is not saved. -/
theorem unchanged_of_refusal_of_bad_line :
    let source := "[sheet 1x1] \"a\"\n(1,1): \"2\"\n(2,1): \"3\"\n"
    let s : Session := ⟨⟨Workbook.ofLayout Layout.standard, some "b", true⟩,
      Files.empty.place "c" (.text source)⟩
    (Refusal (.load "c") (s.step (.load "c")).2 ∧ (s.step (.load "c")).1 = s ∧
      (perform (.load "c")).run s = ((s.step (.load "c")).2, s) ∧
      Blocked s (.load "c") (s.step (.load "c")).2) ∧
    Refusal (.saveAs "d/e") (s.step (.saveAs "d/e")).2 ∧ (s.step (.saveAs "d/e")).1 = s ∧
      (perform (.saveAs "d/e")).run s = ((s.step (.saveAs "d/e")).2, s) ∧
      Blocked s (.saveAs "d/e") (s.step (.saveAs "d/e")).2 := by
  intro source s
  have found : s.files.read? "c" = some source := by decide
  have rejected : Snapshot.read "[sheet 1x1] \"a\"\n(1,1): \"2\"\n(2,1): \"3\"\n" =
      .error (.atLine 3 (.outsideSheet ⟨1, 0⟩ "a")) := by
    rfl
  have closed : s.files.write? "d/e" s.document.snapshot = none := by
    have away : s.files.locate? "d/e" = none := by decide
    rw [Files.write?, Files.store?, away]
    rfl
  have load : Refusal (.load "c") (s.step (.load "c")).2 :=
    refusal_iff_blocked.mpr ⟨_, .noSnapshot found rejected⟩
  have save : Refusal (.saveAs "d/e") (s.step (.saveAs "d/e")).2 :=
    refusal_iff_blocked.mpr ⟨_, .unwritableAs closed⟩
  exact ⟨⟨load, unchanged_of_refusal load⟩, save, unchanged_of_refusal save⟩

end Session

end Gridbook
