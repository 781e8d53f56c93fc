import Gridbook.Proofs.Session.Effects
import Gridbook.Proofs.Session.Reachable

/-!
# Whether there is something to save

A document tells whether it was changed.  In every run it does so exactly if a text was written or a
sheet was added through the document after it was last saved or loaded.  As long as it tells that it
was not changed, its sheets are those that were saved or loaded last, or those that it was created
with, and at most another one of them is current.
-/

namespace Gridbook

/-- Two workbooks that differ at most in which of their sheets is current. -/
structure Workbook.SameContents (w v : Workbook) : Prop where
  sheets : v.sheets = w.sheets
  extent : v.extent = w.extent
  evaluating : v.evaluating = w.evaluating

namespace Workbook.SameContents

variable {w v u : Workbook}

theorem refl (w : Workbook) : w.SameContents w :=
  ⟨rfl, rfl, rfl⟩

theorem trans (first : w.SameContents v) (second : v.SameContents u) : w.SameContents u :=
  ⟨second.sheets.trans first.sheets, second.extent.trans first.extent,
    second.evaluating.trans first.evaluating⟩

theorem of_switch? {index : Nat} (moved : w.switch? index = some v) : w.SameContents v := by
  have done := switch?_eq_some_iff.mp moved
  exact ⟨done.sheets, done.extent, done.evaluating⟩

end Workbook.SameContents

namespace Session

/-! ## What is asked of a document -/

/-- What is asked of a document, one request after the other, with the answers, and the document
that it leads to.  Each request may find other files, and each is answered. -/
inductive Course : Document → List (Request × Answer) → Document → Prop where
  | nil (d : Document) : Course d [] d
  | cons {d next last : Document} {files left : Files} {request : Request} {answer : Answer}
      {record : List (Request × Answer)} (answered : breaksOff ⟨d, files⟩ request = false)
      (here : step ⟨d, files⟩ request = (⟨next, left⟩, answer))
      (later : Course next record last) : Course d ((request, answer) :: record) last

/-- A request that reaches the workbook past its document. -/
def Request.bypasses : Request → Bool
  | .store _ _ | .setEvaluator _ => true
  | _ => false

/-- A request that was accepted and changed what is to be saved. -/
inductive Edits : Request × Answer → Prop where
  | write (a : Address) (content : String) : Edits (.write a content, .accepted true)
  | addSheet (name : String) (index : Nat) : Edits (.addSheet name, .index (some index))

/-- A request after which the document is as it is in its file. -/
inductive Settles : Request × Answer → Prop where
  | save (path : Option String) : Settles (.save, .path path)
  | saveAs (target : String) (path : Option String) : Settles (.saveAs target, .path path)
  | load (path : String) : Settles (.load path, .done)

/-- Something to be saved was changed, and the document was neither saved nor loaded since. -/
def Unsaved (record : List (Request × Answer)) : Prop :=
  ∃ before entry after, record = before ++ entry :: after ∧ Edits entry ∧
    ∀ later ∈ after, ¬ Settles later

variable {s t : Session} {request : Request} {answer : Answer}
  {entry : Request × Answer} {record more : List (Request × Answer)} {d e last : Document}

theorem Course.append (first : Course d record e) (later : Course e more last) :
    Course d (record ++ more) last := by
  induction first with
  | nil d => exact later
  | cons answered here _ ih => exact .cons answered here (ih later)

/-- A run of a session is what is asked of its document. -/
theorem course_run (s : Session) (requests : List Request) :
    Course s.document (requests.zip (s.run requests).2) (s.run requests).1.document := by
  induction requests generalizing s with
  | nil => exact .nil _
  | cons request rest ih =>
      cases ends : s.breaksOff request with
      | true =>
          rw [run_cons_of_breaksOff ends, List.zip_nil_right]
          exact .nil _
      | false =>
          rw [run_cons ends]
          exact .cons ends rfl (ih (s.step request).1)

theorem not_unsaved_nil : ¬ Unsaved [] := by
  rintro ⟨before, entry, after, shape, _⟩
  cases before <;> cases shape

theorem unsaved_cons : Unsaved (entry :: record) ↔
    Unsaved record ∨ (Edits entry ∧ ∀ later ∈ record, ¬ Settles later) := by
  constructor
  · rintro ⟨before, found, after, shape, edits, unsettled⟩
    cases before with
    | nil =>
        obtain ⟨rfl, rfl⟩ := List.cons.inj shape
        exact .inr ⟨edits, unsettled⟩
    | cons first before =>
        obtain ⟨rfl, rfl⟩ := List.cons.inj shape
        exact .inl ⟨before, found, after, rfl, edits, unsettled⟩
  · rintro (⟨before, found, after, rfl, edits, unsettled⟩ | ⟨edits, unsettled⟩)
    · exact ⟨entry :: before, found, after, rfl, edits, unsettled⟩
    · exact ⟨[], entry, record, rfl, edits, unsettled⟩

/-- What was not settled and need not be saved was not edited either. -/
theorem not_edits_of_not_unsaved (saved : ¬ Unsaved record)
    (unsettled : ∀ entry ∈ record, ¬ Settles entry) : ∀ entry ∈ record, ¬ Edits entry := by
  intro entry mem edits
  obtain ⟨before, after, rfl⟩ := List.append_of_mem mem
  have later : ∀ other ∈ after, ¬ Settles other := fun other behind =>
    unsettled other (List.mem_append_right _ (.tail _ behind))
  exact saved ⟨before, entry, after, rfl, edits, later⟩

/-! ## One request -/

theorem unmarked_of_refusal (refusal : Refusal request answer) :
    ¬ Edits (request, answer) ∧ ¬ Settles (request, answer) := by
  cases refusal <;> constructor <;> rintro ⟨⟩

theorem unmarked_of_looks (looks : request.looks = true) :
    ¬ Edits (request, answer) ∧ ¬ Settles (request, answer) := by
  constructor <;> rintro ⟨⟩ <;> cases looks

/-- A document is changed by what edits it, and otherwise stays changed until it is settled. -/
theorem Effect.modified_iff (effect : Effect s request t answer) :
    t.document.modified = true ↔
      Edits (request, answer) ∨ (s.document.modified = true ∧ ¬ Settles (request, answer)) := by
  have kept (unmarked : ¬ Edits (request, answer) ∧ ¬ Settles (request, answer)) :
      s.document.modified = true ↔
        Edits (request, answer) ∨ (s.document.modified = true ∧ ¬ Settles (request, answer)) := by
    simp [unmarked.1, unmarked.2]
  have cleared (quiet : ¬ Edits (request, answer)) (settles : Settles (request, answer)) :
      false = true ↔
        Edits (request, answer) ∨ (s.document.modified = true ∧ ¬ Settles (request, answer)) := by
    simp [quiet, settles]
  cases effect with
  | refused blocked => exact kept (unmarked_of_refusal (refusal_of_blocked blocked))
  | shown looks => exact kept (unmarked_of_looks looks)
  | written done => exact iff_of_true rfl (.inl (.write _ _))
  | added done => exact iff_of_true rfl (.inl (.addSheet _ _))
  | saved known done => exact cleared nofun (.save _)
  | savedAs done => exact cleared nofun (.saveAs _ _)
  | loaded found accepted => exact cleared nofun (.load _)
  | _ => exact kept ⟨nofun, nofun⟩

/-- What neither edits a document nor settles it leaves its sheets as they are. -/
theorem Effect.sameContents (effect : Effect s request t answer)
    (direct : request.bypasses = false) (quiet : ¬ Edits (request, answer))
    (unsettled : ¬ Settles (request, answer)) :
    s.document.workbook.SameContents t.document.workbook := by
  cases effect with
  | stored done => cases direct
  | setEvaluator attached => cases direct
  | written done => exact absurd (.write _ _) quiet
  | added done => exact absurd (.addSheet _ _) quiet
  | loaded found accepted => exact absurd (.load _) unsettled
  | switched moved => exact .of_switch? moved
  | @switchedTo name index found =>
      cases moved : s.document.workbook.switch? index with
      | none => exact .refl _
      | some w => exact .of_switch? moved
  | _ => exact .refl _

/-! ## Several requests -/

/-- A document tells in the end that it was changed exactly if it was edited and not settled since,
or had been changed before and was never settled. -/
theorem Course.modified_iff (course : Course d record e) :
    e.modified = true ↔
      Unsaved record ∨ (d.modified = true ∧ ∀ entry ∈ record, ¬ Settles entry) := by
  induction course with
  | nil d => simp [not_unsaved_nil]
  | @cons d next last files left request answer record answered here later ih =>
      have effect := effect_step ⟨d, files⟩ request
      rw [here] at effect
      rw [ih, effect.modified_iff, unsaved_cons, List.forall_mem_cons, or_and_right, and_assoc,
        or_assoc]

/-- What is neither edited nor settled on the way keeps its sheets. -/
theorem Course.sameContents (course : Course d record e)
    (direct : ∀ entry ∈ record, entry.1.bypasses = false)
    (quiet : ∀ entry ∈ record, ¬ Edits entry) (unsettled : ∀ entry ∈ record, ¬ Settles entry) :
    d.workbook.SameContents e.workbook := by
  induction course with
  | nil d => exact .refl _
  | @cons d next last files left request answer record answered here later ih =>
      rw [List.forall_mem_cons] at direct quiet unsettled
      have effect := effect_step ⟨d, files⟩ request
      rw [here] at effect
      have first := effect.sameContents direct.1 quiet.1 unsettled.1
      exact first.trans (ih direct.2 quiet.2 unsettled.2)

end Session

namespace Document

open Session

variable {d m e : Document} {before after : List (Request × Answer)}

theorem Created.not_modified (created : d.Created) : d.modified = false := by
  cases created with
  | ofLayout layout => rfl
  | opened success =>
      rcases opened_eq_or_loaded success with rfl | ⟨file, loaded⟩
      · rfl
      · obtain ⟨source, w, _, _, rfl⟩ := loaded_eq loaded
        rfl

/-- Whatever is asked of a document that was just created or opened, it tells that it was changed
exactly if a text was written or a sheet was added through it since it was last saved or loaded, or
since the start.  If it tells that it was not changed, then from any point on after which it was
neither saved nor loaded, such as the one where it last was or the start, its sheets are the same,
and only another one of them may be current. -/
theorem modified_iff_unsaved (created : d.Created) (first : Course d before m)
    (later : Course m after e) :
    (e.modified = true ↔ Unsaved (before ++ after)) ∧
      ((∀ entry ∈ after, entry.1.bypasses = false) → (∀ entry ∈ after, ¬ Settles entry) →
        e.modified = false → m.workbook.SameContents e.workbook) := by
  constructor
  · rw [(first.append later).modified_iff, created.not_modified]
    simp
  · intro direct unsettled clean
    have saved : ¬ Unsaved after := by
      intro unsaved
      rw [later.modified_iff.mpr (.inl unsaved)] at clean
      cases clean
    exact later.sameContents direct (not_edits_of_not_unsaved saved unsettled) unsettled

/-- A document with a second sheet is saved; then a sheet without a name is not added, the second
sheet becomes current, and a file is not loaded that is not there. -/
theorem modified_iff_unsaved_of_switched :
    let d := ofLayout ⟨"a", ⟨1, 1⟩⟩
    let two := (step ⟨d, Files.empty⟩ (.addSheet "b")).1.document
    let m : Document := ⟨two.workbook, some "c", false⟩
    let e := (m.switch? 1).getD m
    let before : List (Request × Answer) :=
      [(.addSheet "b", .index (some 1)), (.saveAs "c", .path (some "c"))]
    let after : List (Request × Answer) :=
      [(.addSheet " ", .index none), (.switchTo "B", .index (some 1)),
        (.load "d", .failed .inaccessible)]
    d.Created ∧ Course d before m ∧ Course m after e ∧
      (e.modified = true ↔ Unsaved (before ++ after)) ∧
      (∀ entry ∈ after, ¬ Settles entry) ∧ e.modified = false ∧
      m.workbook.SameContents e.workbook := by
  intro d two m e before after
  have created : d.Created := .ofLayout _
  have saved : step ⟨two, Files.empty⟩ (.saveAs "c") =
      (⟨m, Files.empty.put ["work", "c"] (.text two.snapshot)⟩, .path (some "c")) := by
    have written : Files.empty.write? "c" two.snapshot =
        some (Files.empty.put ["work", "c"] (.text two.snapshot)) := rfl
    rw [step, replace, saveAs_run, written]
  have blank : step ⟨m, Files.empty⟩ (.addSheet " ") = (⟨m, Files.empty⟩, .index none) :=
    Prod.ext rfl rfl
  have found : step ⟨m, Files.empty⟩ (.switchTo "B") = (⟨e, Files.empty⟩, .index (some 1)) := by
    have known : m.workbook.indexOf? "B" = some 1 := by
      unfold m two d
      decide
    rw [step, switchTo, known]
  have absent : step ⟨e, Files.empty⟩ (.load "d") =
      (⟨e, Files.empty⟩, .failed .inaccessible) :=
    Prod.ext rfl rfl
  have added : step ⟨d, Files.empty⟩ (.addSheet "b") = (⟨two, Files.empty⟩, .index (some 1)) :=
    rfl
  have first : Course d before m := .cons rfl added (.cons rfl saved (.nil m))
  have later : Course m after e :=
    .cons rfl blank (.cons rfl found (.cons rfl absent (.nil e)))
  have unsettled : ∀ entry ∈ after, ¬ Settles entry := by
    simp only [after, List.forall_mem_cons]
    refine ⟨?_, ?_, ?_, List.forall_mem_nil _⟩ <;> rintro ⟨⟩
  have clean : e.modified = false := by
    unfold e m two d
    rfl
  obtain ⟨told, same⟩ := modified_iff_unsaved created first later
  exact ⟨created, first, later, told, unsettled, clean, same (by decide) unsettled clean⟩

end Document

end Gridbook
