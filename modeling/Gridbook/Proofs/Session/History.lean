import Gridbook.Proofs.Session.Steps

/-!
# The history of writes

The writes that succeed in a run make up its history: on which sheet each was made, at which
address, and the cell for its text, whose formula is evaluated against the workbook just before the
write.  If no file is loaded, the cell at an address of a sheet is always the one of the last write
made there, and the blank cell if there was none.  Nothing is ever evaluated again.
-/

namespace Gridbook

namespace Session

/-- A cell that was put at an address of the sheet with some index. -/
structure Write where
  sheet : Nat
  address : Address
  cell : Cell

/-- The address and the text that a request writes. -/
def Request.input? : Request → Option (Address × String)
  | .write a text => some (a, text)
  | .store a (some text) => some (a, text)
  | _ => none

/-- The write that a request makes, if it is accepted.  The cell is made of the text in the workbook
as it stands before. -/
def written? (s : Session) (request : Request) : Option Write :=
  match request.input?, (s.step request).2 with
  | some (a, content), .accepted true =>
      some ⟨s.document.workbook.current, a, Cell.ofInput s.document.workbook.evaluate content⟩
  | _, _ => none

/-- The writes of a run, in order. -/
def history (s : Session) : List Request → List Write
  | [] => []
  | request :: rest =>
      if s.breaksOff request then []
      else (s.written? request).toList ++ (s.step request).1.history rest

/-- The cell that was put last at an address of a sheet. -/
def lastAt? (writes : List Write) (index : Nat) (a : Address) : Option Cell :=
  ((writes.filter fun w => w.sheet = index ∧ w.address = a).getLast?).map Write.cell

/-- No request of a run loads a file. -/
def LoadsFail (s : Session) : List Request → Prop
  | [] => True
  | request :: rest =>
      (∀ path, request = .load path → ∃ e, (s.step request).2 = .failed e) ∧
        (s.breaksOff request = false → (s.step request).1.LoadsFail rest)

/-- The session that starts with the document of a layout. -/
def ofLayout (layout : Layout) (files : Files) : Session :=
  ⟨Document.ofLayout layout, files⟩

/-- The cell at an address of a sheet, the blank one where there is none. -/
def stored (s : Session) (index : Nat) (a : Address) : Cell :=
  (s.document.workbook.cellAt? index a).getD Cell.blank

variable {s : Session} {request : Request} {index : Nat} {a b : Address} {content : String}

/-! ## The last write -/

theorem lastAt?_append (earlier later : List Write) (index : Nat) (a : Address) :
    lastAt? (earlier ++ later) index a =
      (lastAt? later index a).or (lastAt? earlier index a) := by
  rw [lastAt?, List.filter_append, List.getLast?_append, Option.map_or]
  rfl

theorem lastAt?_single (w : Write) (index : Nat) (a : Address) :
    lastAt? [w] index a = if w.sheet = index ∧ w.address = a then some w.cell else none := by
  rw [lastAt?, List.filter_singleton]
  by_cases here : w.sheet = index ∧ w.address = a
  · rw [if_pos here, decide_eq_true here]
    rfl
  · rw [if_neg here, decide_eq_false here]
    rfl

/-! ## One request -/

theorem written?_of_input (input : request.input? = some (b, content)) :
    s.changed? request = s.document.workbook.write? b content ∧
      s.written? request = (s.document.workbook.write? b content).map fun _ =>
        ⟨s.document.workbook.current, b, Cell.ofInput s.document.workbook.evaluate content⟩ := by
  cases request with
  | write b' content' =>
      cases input
      refine ⟨rfl, ?_⟩
      rw [written?, step, Document.write?]
      cases s.document.workbook.write? b content <;> rfl
  | store b' content' =>
      cases content' with
      | none => cases input
      | some text =>
          cases input
          refine ⟨rfl, ?_⟩
          rw [written?, step, Option.bind_some]
          cases s.document.workbook.write? b content <;> rfl
  | _ => cases input

theorem written?_of_no_input (silent : request.input? = none) : s.written? request = none := by
  rw [written?, silent]

/-- A file that is not loaded changes nothing. -/
theorem changed?_of_failed {path : String} {e : Document.Error}
    (failed : (s.step (.load path)).2 = .failed e) : s.changed? (.load path) = none := by
  rw [step, replace, Document.load_run] at failed
  rw [changed?]
  cases found : s.files.read? path with
  | none => rfl
  | some source =>
      rw [found] at failed
      dsimp only at failed
      cases outcome : Snapshot.read source with
      | error failure =>
          rw [Option.bind_some, outcome]
          rfl
      | ok w =>
          rw [Document.withSnapshot, outcome] at failed
          cases failed

/-- A request that writes nothing leaves every cell as it is. -/
theorem stored_of_no_input (silent : request.input? = none)
    (fail : ∀ path, request = .load path → ∃ e, (s.step request).2 = .failed e) :
    (s.step request).1.stored index a = s.stored index a := by
  rw [stored, stored, workbook_step]
  cases made : s.changed? request with
  | none => rfl
  | some w =>
      rw [Option.getD_some]
      cases request with
      | write b content => cases silent
      | store b content =>
          obtain ⟨text, rfl, _⟩ := Option.bind_eq_some_iff.mp made
          cases silent
      | addSheet name =>
          exact (Workbook.addSheet?_eq_some_iff.mp made).getD_cellAt? index a
      | switch index =>
          have moved := Workbook.switch?_eq_some_iff.mp made
          rw [Workbook.cellAt?, Workbook.cellAt?, moved.sheets]
      | switchTo name =>
          obtain ⟨index, _, made⟩ := Option.bind_eq_some_iff.mp made
          have moved := Workbook.switch?_eq_some_iff.mp made
          rw [Workbook.cellAt?, Workbook.cellAt?, moved.sheets]
      | setEvaluator attached =>
          obtain rfl := Option.some.inj made
          rfl
      | load path =>
          obtain ⟨e, failed⟩ := fail path rfl
          cases made.symm.trans (changed?_of_failed failed)
      | _ => cases made

/-- What a request leaves at an address of a sheet is what it writes there, and otherwise what was
there before. -/
theorem stored_step (fail : ∀ path, request = .load path → ∃ e, (s.step request).2 = .failed e) :
    (s.step request).1.stored index a =
      (lastAt? (s.written? request).toList index a).getD (s.stored index a) := by
  cases input : request.input? with
  | none =>
      rw [written?_of_no_input input]
      exact stored_of_no_input input fail
  | some entry =>
      obtain ⟨b, content⟩ := entry
      obtain ⟨changed, written⟩ := written?_of_input (s := s) input
      rw [stored, workbook_step, changed, written]
      cases made : s.document.workbook.write? b content with
      | none => rfl
      | some w =>
          have put := Workbook.write?_eq_some_iff.mp made
          rw [Option.map_some, Option.toList_some, lastAt?_single, Option.getD_some]
          by_cases here : s.document.workbook.current = index ∧ b = a
          · rw [if_pos here, ← here.1, ← here.2, put.cellAt?_self]
            rfl
          · have apart : s.document.workbook.current ≠ index ∨ b ≠ a := by
              rw [← not_and_or]
              exact here
            rw [if_neg here, put.cellAt?_of_ne apart]
            rfl

theorem exists_cellAt?_step {c : Cell}
    (fail : ∀ path, request = .load path → ∃ e, (s.step request).2 = .failed e)
    (found : s.document.workbook.cellAt? index a = some c) :
    ∃ d, (s.step request).1.document.workbook.cellAt? index a = some d := by
  rw [workbook_step]
  cases made : s.changed? request with
  | none => exact ⟨c, found⟩
  | some w =>
      rcases edit_or_load made with edit | ⟨path, _, _, rfl, _⟩
      · exact edit.exists_cellAt? found
      · obtain ⟨e, failed⟩ := fail path rfl
        cases made.symm.trans (changed?_of_failed failed)

/-! ## Runs -/

/-- After a run each cell is the one that was put last, or the one before the run. -/
theorem stored_run {requests : List Request} (fail : s.LoadsFail requests) :
    (s.run requests).1.stored index a =
      (lastAt? (s.history requests) index a).getD (s.stored index a) := by
  induction requests generalizing s with
  | nil => rfl
  | cons request rest ih =>
      cases ends : s.breaksOff request with
      | true =>
          rw [run_cons_of_breaksOff ends, history, if_pos ends]
          rfl
      | false =>
          rw [run_cons ends, ih (fail.2 ends), stored_step fail.1, history, ends,
            if_neg Bool.false_ne_true, lastAt?_append]
          cases lastAt? ((s.step request).1.history rest) index a <;> rfl

theorem stored_ofLayout (layout : Layout) (files : Files) (index : Nat) (a : Address) :
    (ofLayout layout files).stored index a = Cell.blank := by
  cases index with
  | zero => exact Grid.getD_get?_empty layout.extent a
  | succ index => rfl

theorem cellAt?_eq_stored {sheet : Sheet} (known : s.document.workbook.sheets[index]? = some sheet)
    (inside : sheet.grid.extent.Contains a) :
    s.document.workbook.cellAt? index a = some (s.stored index a) := by
  rw [stored, Workbook.cellAt?, known, Option.bind_some, Grid.get?_of_contains inside,
    Option.getD_some]

/-- In every run from a layout in which no file is loaded, the cell at an address of a sheet is the
one of the last write that was accepted there, and the blank one if there was none.  A request that
writes nothing there leaves it as it is. -/
theorem cellAt?_run {layout : Layout} {files : Files} {requests : List Request} {sheet : Sheet}
    (fail : (ofLayout layout files).LoadsFail requests)
    (known : ((ofLayout layout files).run requests).1.document.workbook.sheets[index]? = some sheet)
    (inside : sheet.grid.extent.Contains a) :
    let reached := ((ofLayout layout files).run requests).1
    reached.document.workbook.cellAt? index a =
      some ((lastAt? ((ofLayout layout files).history requests) index a).getD Cell.blank) ∧
    ∀ request, reached.LoadsFail [request] →
      (∀ w, reached.written? request = some w → ¬ (w.sheet = index ∧ w.address = a)) →
      (reached.step request).1.document.workbook.cellAt? index a =
        reached.document.workbook.cellAt? index a := by
  intro reached
  have here := cellAt?_eq_stored known inside
  constructor
  · rw [here, stored_run fail, stored_ofLayout]
  · intro request fail elsewhere
    have unchanged : (reached.step request).1.stored index a = reached.stored index a := by
      rw [stored_step fail.1]
      cases written : reached.written? request with
      | none => rfl
      | some w =>
          rw [Option.toList_some, lastAt?_single, if_neg (elsewhere w written)]
          rfl
    obtain ⟨d, still⟩ := exists_cellAt?_step fail.1 here
    rw [here, still, ← unchanged, stored, still, Option.getD_some]

/-- A number, a formula that reads it and itself, another number in place of the first, and a file
that is not there. -/
theorem cellAt?_run_of_formula_kept :
    let start := ofLayout ⟨"a", ⟨2, 2⟩⟩ Files.empty
    let requests : List Request := [.write ⟨0, 0⟩ "2", .write ⟨0, 1⟩ "=sum((1,1),(1,2))",
      .write ⟨0, 0⟩ "3", .load "b"]
    let reached := (start.run requests).1
    start.LoadsFail requests ∧ ∃ sheet, reached.document.workbook.sheets[0]? = some sheet ∧
      sheet.grid.extent.Contains ⟨0, 1⟩ ∧
      reached.document.workbook.cellAt? 0 ⟨0, 1⟩ =
        some ((lastAt? (start.history requests) 0 ⟨0, 1⟩).getD Cell.blank) ∧
      ∀ request, reached.LoadsFail [request] →
        (∀ w, reached.written? request = some w → ¬ (w.sheet = 0 ∧ w.address = ⟨0, 1⟩)) →
        (reached.step request).1.document.workbook.cellAt? 0 ⟨0, 1⟩ =
          reached.document.workbook.cellAt? 0 ⟨0, 1⟩ := by
  intro start requests reached
  have fail : start.LoadsFail requests := by
    refine ⟨nofun, fun _ => ⟨nofun, fun _ => ⟨nofun, fun _ => ⟨?_, fun _ => trivial⟩⟩⟩⟩
    rintro path ⟨⟩
    exact ⟨.inaccessible, rfl⟩
  have known : reached.document.workbook.sheets[0]? = some reached.document.workbook.currentSheet :=
    rfl
  have inside : reached.document.workbook.currentSheet.grid.extent.Contains ⟨0, 1⟩ := by decide
  exact ⟨fail, _, known, inside, cellAt?_run fail known inside⟩

end Session

end Gridbook
