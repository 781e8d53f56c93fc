import Gridbook.CommandLine.Run
import Gridbook.Proofs.Session.Steps
import Mathlib.Logic.Relation

/-!
# Actions taken one after another

An action that fails leaves the files as they are.  One that does not fail edits the document, or it
prints a line for a formula, or it writes one file, namely the target of an export or the file of the
document.  A course of actions takes each of them where the one before it left off.  So its output is
one line for every action that has output, and it changes no file but the targets of its actions.
-/

namespace Gridbook

namespace Document

variable {d e : Document} {a : Address} {content name : String} {index : Nat}

/-- Another document on the same path, whose workbook comes about by edits. -/
structure EditedTo (d e : Document) : Prop where
  path : e.path = d.path
  edits : Relation.ReflTransGen Workbook.Edit d.workbook e.workbook

theorem editedTo_of_write? (done : d.write? a content = some e) : d.EditedTo e := by
  obtain ⟨w, made, rfl⟩ := Option.map_eq_some_iff.mp done
  exact ⟨rfl, .single (.write made)⟩

theorem editedTo_of_addSheet? (done : d.addSheet? name = some e) : d.EditedTo e := by
  obtain ⟨w, made, rfl⟩ := Option.map_eq_some_iff.mp done
  exact ⟨rfl, .single (.addSheet made)⟩

theorem editedTo_of_switch? (done : d.switch? index = some e) : d.EditedTo e := by
  obtain ⟨w, made, rfl⟩ := Option.map_eq_some_iff.mp done
  exact ⟨rfl, .single (.switch made)⟩

theorem editedTo_of_switchTo (done : d.switchTo name = .ok (e, index)) : d.EditedTo e := by
  unfold switchTo at done
  split at done
  · cases done
    rename_i found _
    cases moved : d.switch? index with
    | none => exact ⟨rfl, .refl⟩
    | some e => exact editedTo_of_switch? moved
  · cases done

end Document

namespace CommandLine

/-- The path that an action writes to, given that of the document. -/
def Action.target? (own : Option String) : Action → Option String
  | .exportMarkdown path | .exportCsv path => some path
  | .write => own
  | .addSheet _ | .switchSheet _ | .set _ _ | .evaluate _ => none

/-- The lines that an action may print. -/
inductive Action.Prints : Action → String → Prop where
  | number (formula : String) (value : Float) :
      Prints (.evaluate formula) (String.ofList (Number.display value))
  | fault (formula : String) (fault : Formula.Fault) : Prints (.evaluate formula) fault.message
  | markdown (path : String) : Prints (.exportMarkdown path) ("Exported to " ++ path)
  | csv (path : String) : Prints (.exportCsv path) ("Exported to " ++ path)

theorem Action.hasOutput_of_prints {action : Action} {line : String}
    (prints : action.Prints line) : action.hasOutput = true := by
  cases prints <;> rfl

namespace Progress

variable {p q next last : Progress} {fs gs after : Files} {action : Action}
  {actions before rest : List Action} {place : Place}

/-! ## One action -/

/-- What becomes of the progress and of the files by an action that does not fail. -/
inductive Takes (p : Progress) (fs : Files) : Action → Progress → Files → Prop where
  | edited {action : Action} {d : Document} (quiet : action.hasOutput = false)
      (harmless : ∀ own, action.target? own = none) (edited : p.document.EditedTo d) :
      Takes p fs action { p with document := d } fs
  | evaluated (formula : String) :
      Takes p fs (.evaluate formula) (p.printOutcome (p.document.evaluate formula)) fs
  | exported {action : Action} {path text : String} {next : Files}
      (prints : action.Prints ("Exported to " ++ path))
      (target : ∀ own, action.target? own = some path)
      (written : fs.write? path text = some next) :
      Takes p fs action (p.print ("Exported to " ++ path)) next
  | saved {path : String} {next : Files} (known : p.document.path = some path)
      (written : fs.write? path p.document.snapshot = some next) (messages : List String) :
      Takes p fs .write
        { p with document := ⟨p.document.workbook, some path, false⟩, messages } next

theorem editedTo_of_switch {target : String} (done : p.switch target = .ok next) :
    next = { p with document := next.document } ∧ p.document.EditedTo next.document := by
  unfold switch at done
  split at done
  · split at done
    · rename_i d moved
      cases done
      split at moved
      · cases moved
      · exact ⟨rfl, Document.editedTo_of_switch? moved⟩
    · cases done
  · split at done
    · rename_i moved
      cases done
      exact ⟨rfl, Document.editedTo_of_switchTo moved⟩
    · cases done

/-- An action fails and changes nothing, or it is taken. -/
theorem take_run (p : Progress) (fs : Files) (action : Action) :
    (∃ e, (p.take action : StateM Files (Except Failure Progress)).run fs = (.error e, fs)) ∨
      ∃ next after, (p.take action : StateM Files (Except Failure Progress)).run fs =
        (.ok next, after) ∧ p.Takes fs action next after := by
  cases action with
  | addSheet name =>
      rw [take]
      cases done : p.document.addSheet? name with
      | none => exact .inl ⟨_, rfl⟩
      | some d =>
          exact .inr ⟨_, _, rfl, .edited rfl (fun _ => rfl) (Document.editedTo_of_addSheet? done)⟩
  | switchSheet target =>
      rw [take]
      cases done : p.switch target with
      | error e => exact .inl ⟨_, rfl⟩
      | ok next =>
          obtain ⟨same, edited⟩ := editedTo_of_switch done
          refine .inr ⟨_, _, rfl, ?_⟩
          rw [same]
          exact .edited rfl (fun _ => rfl) edited
  | set a text =>
      rw [take]
      cases done : p.document.write? a text with
      | none => exact .inl ⟨_, rfl⟩
      | some d =>
          exact .inr ⟨_, _, rfl, .edited rfl (fun _ => rfl) (Document.editedTo_of_write? done)⟩
  | evaluate formula => exact .inr ⟨_, _, rfl, .evaluated formula⟩
  | exportMarkdown path =>
      simp only [take, StateT.run_bind, Document.exportMarkdown, Document.exportText_run]
      cases done : fs.write? path p.document.markdown with
      | none => exact .inl ⟨_, rfl⟩
      | some next => exact .inr ⟨_, _, rfl, .exported (.markdown path) (fun _ => rfl) done⟩
  | exportCsv path =>
      simp only [take, StateT.run_bind, Document.exportCsv, Document.exportText_run]
      cases done : fs.write? path p.document.csv with
      | none => exact .inl ⟨_, rfl⟩
      | some next => exact .inr ⟨_, _, rfl, .exported (.csv path) (fun _ => rfl) done⟩
  | write =>
      simp only [take, StateT.run_bind, Document.save]
      cases known : p.document.path with
      | none => exact .inl ⟨_, rfl⟩
      | some path =>
          simp only [Document.saveAs_run]
          cases done : fs.write? path p.document.snapshot with
          | none => exact .inl ⟨_, rfl⟩
          | some next => exact .inr ⟨_, _, rfl, .saved known done _⟩

theorem document_printOutcome (p : Progress) (outcome : Formula.Outcome) :
    (p.printOutcome outcome).document = p.document := by
  cases outcome <;> rfl

namespace Takes

theorem path (takes : p.Takes fs action next after) : next.document.path = p.document.path := by
  cases takes with
  | edited quiet harmless edited => exact edited.path
  | evaluated formula => rw [document_printOutcome]
  | exported prints target written => rfl
  | saved known written messages => exact known.symm

theorem edits (takes : p.Takes fs action next after) :
    Relation.ReflTransGen Workbook.Edit p.document.workbook next.document.workbook := by
  cases takes with
  | edited quiet harmless edited => exact edited.edits
  | evaluated formula => rw [document_printOutcome]
  | exported prints target written => exact .refl
  | saved known written messages => exact .refl

/-- No action makes or removes a directory, so paths lead where they led. -/
theorem locate? (takes : p.Takes fs action next after) : after.locate? = fs.locate? := by
  cases takes with
  | edited quiet harmless edited => rfl
  | evaluated formula => rfl
  | exported prints target written => exact Files.locate?_of_write? written
  | saved known written messages => exact Files.locate?_of_write? written

/-- An action leaves all files as they are but its target. -/
theorem lookup? (takes : p.Takes fs action next after)
    (apart : ∀ path ∈ action.target? p.document.path, fs.locate? path ≠ some place) :
    after.lookup? place = fs.lookup? place := by
  cases takes with
  | edited quiet harmless edited => rfl
  | evaluated formula => rfl
  | exported prints target written => exact Files.lookup?_of_write? written (apart _ (target _))
  | saved known written messages => exact Files.lookup?_of_write? written (apart _ known)

/-- What is saved goes to the file of the document. -/
theorem write? (takes : p.Takes fs .write next after) :
    ∃ path, p.document.path = some path ∧ fs.write? path p.document.snapshot = some after := by
  cases takes with
  | edited quiet harmless edited => cases harmless (some "")
  | exported prints target written => cases prints
  | saved known written messages => exact ⟨_, known, written⟩

/-- An action with output prints one line, and another one prints nothing. -/
theorem output (takes : p.Takes fs action next after) :
    if action.hasOutput then ∃ line, action.Prints line ∧ next.output = p.output ++ line ++ "\n"
    else next.output = p.output := by
  cases takes with
  | edited quiet harmless edited => rw [quiet]; rfl
  | evaluated formula =>
      cases p.document.evaluate formula with
      | number value => exact ⟨_, .number formula value, rfl⟩
      | fault fault => exact ⟨_, .fault formula fault, rfl⟩
  | exported prints target written =>
      rw [Action.hasOutput_of_prints prints]
      exact ⟨_, prints, rfl⟩
  | saved known written messages => rfl

/-- Only a formula that yields a fault makes the command report failure. -/
theorem succeeded (takes : p.Takes fs action next after) : next.succeeded = true ↔
    p.succeeded = true ∧ ∀ formula, action = .evaluate formula →
      ∃ value, p.document.evaluate formula = .number value := by
  cases takes with
  | edited quiet harmless edited =>
      refine ⟨fun kept => ⟨kept, ?_⟩, And.left⟩
      rintro formula rfl
      cases quiet
  | evaluated formula =>
      cases outcome : p.document.evaluate formula with
      | number value =>
          refine ⟨fun kept => ⟨kept, ?_⟩, And.left⟩
          rintro other ⟨⟩
          exact ⟨value, outcome⟩
      | fault fault =>
          refine ⟨nofun, fun fine => ?_⟩
          obtain ⟨value, number⟩ := fine.2 formula rfl
          cases outcome.symm.trans number
  | exported prints target written =>
      refine ⟨fun kept => ⟨kept, ?_⟩, And.left⟩
      rintro formula rfl
      cases target none
  | saved known written messages => exact ⟨fun kept => ⟨kept, nofun⟩, And.left⟩

end Takes

/-! ## Courses of actions -/

/-- Actions that are taken one after another without a failure. -/
inductive Course : Progress → Files → List Action → Progress → Files → Prop where
  | nil (p : Progress) (fs : Files) : Course p fs [] p fs
  | cons {p next last : Progress} {fs between after : Files} {action : Action}
      {rest : List Action}
      (here : (p.take action : StateM Files (Except Failure Progress)).run fs =
        (.ok next, between))
      (later : Course next between rest last after) : Course p fs (action :: rest) last after

theorem takes_of_take_run
    (here : (p.take action : StateM Files (Except Failure Progress)).run fs = (.ok next, after)) :
    p.Takes fs action next after := by
  rcases take_run p fs action with ⟨e, failed⟩ | ⟨other, files, done, takes⟩
  · cases here.symm.trans failed
  · cases here.symm.trans done
    exact takes

namespace Course

/-- A course is cut at any place. -/
theorem append_iff : Course p fs (before ++ rest) last after ↔
    ∃ q gs, Course p fs before q gs ∧ Course q gs rest last after := by
  constructor
  · intro course
    induction before generalizing p fs with
    | nil => exact ⟨p, fs, .nil p fs, course⟩
    | cons action before ih =>
        cases course with
        | cons here later =>
            obtain ⟨q, gs, front, back⟩ := ih later
            exact ⟨q, gs, .cons here front, back⟩
  · rintro ⟨q, gs, front, back⟩
    induction front with
    | nil p fs => exact back
    | cons here later ih => exact .cons here (ih back)

theorem path (course : Course p fs actions last after) :
    last.document.path = p.document.path := by
  induction course with
  | nil p fs => rfl
  | cons here later ih => exact ih.trans (takes_of_take_run here).path

/-- A course makes nothing of the workbook but by edits. -/
theorem edits (course : Course p fs actions last after) :
    Relation.ReflTransGen Workbook.Edit p.document.workbook last.document.workbook := by
  induction course with
  | nil p fs => exact .refl
  | cons here later ih => exact (takes_of_take_run here).edits.trans ih

theorem locate? (course : Course p fs actions last after) : after.locate? = fs.locate? := by
  induction course with
  | nil p fs => rfl
  | cons here later ih => exact ih.trans (takes_of_take_run here).locate?

/-- A course leaves all files as they are but the targets of its actions. -/
theorem lookup? (course : Course p fs actions last after)
    (apart : ∀ action ∈ actions, ∀ path ∈ action.target? p.document.path,
      fs.locate? path ≠ some place) : after.lookup? place = fs.lookup? place := by
  induction course with
  | nil p fs => rfl
  | cons here later ih =>
      have takes := takes_of_take_run here
      obtain ⟨first, others⟩ := List.forall_mem_cons.mp apart
      rw [ih ?_, takes.lookup? first]
      -- the targets behind the first action are found where they were before it
      rw [takes.path, takes.locate?]
      exact others

/-- What a file holds is kept by a course whose actions write elsewhere. -/
theorem read? (course : Course p fs actions last after) {path : String}
    (apart : ∀ action ∈ actions, ∀ other ∈ action.target? p.document.path,
      fs.locate? other ≠ fs.locate? path) : after.read? path = fs.read? path := by
  refine Files.read?_congr course.locate? fun place found => course.lookup? ?_
  rw [← found]
  exact apart

/-- What was saved last is held by the file of the document. -/
theorem read?_of_write (course : Course p fs (.write :: actions) last after) {path : String}
    (known : p.document.path = some path)
    (apart : ∀ action ∈ actions, ∀ other ∈ action.target? p.document.path,
      fs.locate? other ≠ fs.locate? path) : after.read? path = some p.document.snapshot := by
  cases course with
  | cons here later =>
      have takes := takes_of_take_run here
      obtain ⟨own, same, written⟩ := takes.write?
      cases known.symm.trans same
      rw [later.read? ?_, Files.read?_of_write? written]
      rw [takes.path, takes.locate?]
      exact apart

/-- The output of a course is one line for every action that has output. -/
theorem output (course : Course p fs actions last after) :
    ∃ lines, List.Forall₂ Action.Prints (actions.filter Action.hasOutput) lines ∧
      last.output = p.output ++ String.join (lines.map (· ++ "\n")) := by
  induction course with
  | nil p fs => exact ⟨[], .nil, by simp⟩
  | @cons p next last fs between after action rest here later ih =>
      obtain ⟨lines, printed, output⟩ := ih
      have first := (takes_of_take_run here).output
      cases loud : action.hasOutput with
      | true =>
          rw [loud, if_pos rfl] at first
          obtain ⟨line, prints, appended⟩ := first
          refine ⟨line :: lines, ?_, ?_⟩
          · rw [List.filter_cons_of_pos loud]
            exact .cons prints printed
          · rw [output, appended, List.map_cons, String.join_cons, String.append_assoc,
              String.append_assoc, String.append_assoc]
      | false =>
          rw [loud] at first
          refine ⟨lines, ?_, ?_⟩
          · rwa [List.filter_cons_of_neg (by rw [loud]; decide)]
          · rw [output]
            exact congrArg (· ++ _) first

end Course

/-- Every formula that a course comes to yields a number there. -/
def Faultless (p : Progress) (fs : Files) (actions : List Action) : Prop :=
  ∀ before formula rest q gs, actions = before ++ .evaluate formula :: rest →
    Course p fs before q gs → ∃ value, q.document.evaluate formula = .number value

theorem faultless_cons_iff
    (here : (p.take action : StateM Files (Except Failure Progress)).run fs = (.ok next, gs)) :
    Faultless p fs (action :: rest) ↔
      (∀ formula, action = .evaluate formula →
        ∃ value, p.document.evaluate formula = .number value) ∧ Faultless next gs rest := by
  constructor
  · intro faultless
    constructor
    · rintro formula rfl
      exact faultless [] formula rest p fs rfl (.nil p fs)
    · rintro before formula behind q hs rfl course
      exact faultless (action :: before) formula behind q hs rfl (.cons here course)
  · rintro ⟨first, others⟩ before formula behind q hs split course
    cases course with
    | nil =>
        obtain ⟨rfl, _⟩ := List.cons.inj split
        exact first formula rfl
    | cons there later =>
        obtain ⟨rfl, rest⟩ := List.cons.inj split
        cases here.symm.trans there
        exact others _ formula behind q hs rest later

/-- The command reports failure exactly if a formula of the course yields a fault. -/
theorem Course.succeeded (course : Course p fs actions last after) :
    last.succeeded = true ↔ p.succeeded = true ∧ Faultless p fs actions := by
  induction course with
  | nil p fs =>
      refine ⟨fun kept => ⟨kept, ?_⟩, And.left⟩
      intro before formula rest q gs split
      cases List.append_ne_nil_of_right_ne_nil before (List.cons_ne_nil _ rest) split.symm
  | cons here later ih =>
      rw [ih, (takes_of_take_run here).succeeded, faultless_cons_iff here, and_assoc]

/-! ## The first failure -/

/-- An action that fails. -/
def Fails (p : Progress) (fs : Files) (action : Action) (e : Failure) : Prop :=
  (p.take action : StateM Files (Except Failure Progress)).run fs = (.error e, fs)

/-- A course is taken before what follows it. -/
theorem Course.takeAll_append (course : Course p fs before q gs) (rest : List Action) :
    (p.takeAll (before ++ rest) : StateM Files (Progress × Option Failure)).run fs =
      (q.takeAll rest : StateM Files (Progress × Option Failure)).run gs := by
  induction course with
  | nil p fs => rfl
  | cons here later ih =>
      rw [List.cons_append, takeAll, StateT.run_bind, here]
      exact ih

/-- Nothing is done behind an action that fails. -/
theorem Fails.takeAll_cons {e : Failure} (fails : p.Fails fs action e) (rest : List Action) :
    (p.takeAll (action :: rest) : StateM Files (Progress × Option Failure)).run fs =
      ((p, some e), fs) := by
  rw [takeAll, StateT.run_bind, fails]
  rfl

/-- Actions make a course, or the first ones make a course at whose end the next one fails. -/
theorem course_or_failure (p : Progress) (fs : Files) (actions : List Action) :
    ∃ done last after, Course p fs done last after ∧
      (actions = done ∨ ∃ action rest e, actions = done ++ action :: rest ∧
        last.Fails after action e) := by
  induction actions generalizing p fs with
  | nil => exact ⟨[], p, fs, .nil p fs, .inl rfl⟩
  | cons action rest ih =>
      rcases take_run p fs action with ⟨e, fails⟩ | ⟨next, between, here, _⟩
      · exact ⟨[], p, fs, .nil p fs, .inr ⟨action, rest, e, rfl, fails⟩⟩
      · obtain ⟨done, last, after, course, outcome⟩ := ih next between
        refine ⟨action :: done, last, after, .cons here course, ?_⟩
        rcases outcome with rfl | ⟨failing, behind, e, rfl, fails⟩
        · exact .inl rfl
        · exact .inr ⟨failing, behind, e, rfl, fails⟩

end Progress

end CommandLine

end Gridbook
