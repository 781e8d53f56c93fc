import Gridbook.Proofs.Snapshot.Lines
import Gridbook.Proofs.Workbook.View

/-!
# Snapshots are read back

Reading the snapshot of a well-formed workbook whose sheets all have a row and a column succeeds.
It yields a workbook that looks the same, apart from its evaluator, which is attached, and with the
same snapshot.  Workbooks that arise from a layout or from a snapshot by edits are well formed, so
this holds of all of them.
-/

namespace Gridbook

open Text Snapshot

/-- A sheet of the same name and extent on which only the cells with text are put. -/
def Sheet.reread (s : Sheet) : Sheet :=
  ⟨s.name, (Grid.empty s.grid.extent).putAll (filledCells s.grid)⟩

/-- A sheet without its blank cells looks the same. -/
theorem Sheet.view_reread {s : Sheet} (sound : s.Sound) : s.reread.view = s.view := by
  have extent : (Grid.empty s.grid.extent).extent = s.grid.extent :=
    Extent.shrunk_of_fits s.grid.fits
  apply Sheet.view_congr
  · rfl
  · exact (Grid.extent_putAll _ _).trans extent
  · apply Grid.get?_putAll_filledCells extent
    intro a c found
    exact (sound.cells.of_get? found).eq_blank

namespace Snapshot

/-! ## Reading the lines of sheets -/

theorem foldlM_cellLines {g : Grid} {cells : List (Address × Cell)}
    (inside : ∀ entry ∈ cells, g.extent.Contains entry.1)
    (means : ∀ entry ∈ cells, entry.2.MeansContent) (name : String) (earlier : List Sheet)
    (current : Option (Nat × Nat)) (number : Nat) :
    ((cells.map fun (a, c) => cellLine a c).zipIdx number).foldlM Progress.step
        ⟨⟨name, g⟩ :: earlier, current⟩ =
      .ok ⟨⟨name, g.putAll cells⟩ :: earlier, current⟩ := by
  induction cells generalizing g number with
  | nil => rfl
  | cons entry rest ih =>
      obtain ⟨here, others⟩ := List.forall_mem_cons.mp inside
      obtain ⟨first, meant⟩ := List.forall_mem_cons.mp means
      have still : ∀ entry' ∈ rest, (g.put entry.1 entry.2).extent.Contains entry'.1 := by
        intro entry' mem
        rw [Grid.extent_put]
        exact others entry' mem
      rw [List.map_cons, List.zipIdx_cons, List.foldlM_cons,
        step_cellLine (s := ⟨name, g⟩) here first]
      exact ih still meant (number + 1)

variable {s : Sheet}

theorem foldlM_sheetLines (sound : s.Sound) (sized : s.grid.extent.Sized) (p : Progress)
    (number : Nat) : ((sheetLines s).zipIdx number).foldlM Progress.step p =
      .ok { p with sheets := s.reread :: p.sheets } := by
  rw [sheetLines, List.zipIdx_cons, List.foldlM_cons,
    step_headerLine p sound.named sized s.grid.fits]
  apply foldlM_cellLines
  · intro entry mem
    have found := (mem_filledCells.mp mem).1
    change s.grid.extent.shrunk.Contains entry.1
    rw [Extent.shrunk_of_fits s.grid.fits]
    exact Grid.contains_of_get? found
  · intro entry mem
    exact sound.cells.of_get? (mem_filledCells.mp mem).1

theorem foldlM_flatMap_sheetLines {sheets : List Sheet} (sound : ∀ s ∈ sheets, s.Sound)
    (sized : ∀ s ∈ sheets, s.grid.extent.Sized) (p : Progress) (number : Nat) :
    ((sheets.flatMap sheetLines).zipIdx number).foldlM Progress.step p =
      .ok { p with sheets := (sheets.map Sheet.reread).reverse ++ p.sheets } := by
  induction sheets generalizing p number with
  | nil => rfl
  | cons s rest ih =>
      obtain ⟨first, sounds⟩ := List.forall_mem_cons.mp sound
      obtain ⟨here, others⟩ := List.forall_mem_cons.mp sized
      rw [List.flatMap_cons, List.zipIdx_append, List.foldlM_append,
        foldlM_sheetLines first here]
      refine (ih sounds others _ _).trans ?_
      rw [List.map_cons, List.reverse_cons, List.append_assoc]
      rfl

/-! ## Reading a whole snapshot -/

variable {w v : Workbook}

/-- Behind its first two lines a snapshot is read sheet by sheet. -/
theorem read_write (w : Workbook) : read (write w) =
    ((w.sheets.flatMap sheetLines).zipIdx 3).foldlM Progress.step ⟨[], some (w.current, 2)⟩ >>=
      Progress.finish := by
  have divided : lines (write w).toList = workbookLines w := by
    rw [write, String.toList_ofList]
    exact lines_unlines _ fun line mem => lineFeed_notMem_of_mem mem
  have folded : ((workbookLines w).zipIdx 1).foldlM Progress.step Progress.start =
      ((w.sheets.flatMap sheetLines).zipIdx 3).foldlM Progress.step
        ⟨[], some (w.current, 2)⟩ := by
    rw [workbookLines, List.zipIdx_cons, List.foldlM_cons, step_title, List.zipIdx_cons]
    change List.foldlM _ _ _ = _
    rw [List.foldlM_cons, step_currentLine _ w.current_count]
    rfl
  rw [read, divided, folded]

theorem read_write_eq (formed : w.WellFormed) (sized : w.Sized) :
    read (write w) =
      Progress.finish ⟨(w.sheets.map Sheet.reread).reverse, some (w.current, 2)⟩ := by
  rw [read_write, foldlM_flatMap_sheetLines formed.sound sized, List.append_nil]
  rfl

/-- The snapshot of a well-formed workbook is read as one that looks the same, its evaluator
attached. -/
theorem exists_read_write (formed : w.WellFormed) (sized : w.Sized) :
    ∃ v, read (write w) = .ok v ∧ v.view = (w.withEvaluator true).view := by
  have known : w.current < (w.sheets.map Sheet.reread).reverse.reverse.length := by
    rw [List.reverse_reverse, List.length_map]
    exact w.current_lt
  obtain ⟨v, found, current⟩ := Progress.ofSheets?_of_lt known w.current_count
  obtain ⟨sheets, first, evaluating⟩ := Progress.ofSheets?_eq_some found
  refine ⟨v, ?_, ?_⟩
  · rw [read_write_eq formed sized, Progress.finish]
    dsimp only
    rw [if_pos (.inr known), Progress.finish.ofSheets, found]
    rfl
  · rw [List.reverse_reverse] at sheets
    have alike : v.sheets.map Sheet.view = w.sheets.map Sheet.view := by
      rw [sheets, List.map_map]
      exact List.map_congr_left fun s mem => Sheet.view_reread (formed.sound s mem)
    have extents : v.sheets.map (fun s => s.grid.extent) = w.sheets.map (fun s => s.grid.extent) :=
      Sheet.mapAll_congr alike fun s t same => Sheet.extent_congr same
    have extent : v.extent = w.extent := by
      apply Option.some.inj
      rw [← first, ← formed.first, ← List.head?_map, extents, List.head?_map]
    exact Workbook.view_congr (v := w.withEvaluator true) alike current extent evaluating

end Snapshot

/-! ## Workbooks that arise by edits -/

namespace Workbook

/-- A workbook that arises from a layout or from a text read as a snapshot, by edits. -/
inductive Reachable : Workbook → Prop where
  | ofLayout (layout : Layout) : Reachable (ofLayout layout)
  | read {source : String} {w : Workbook} (accepted : Snapshot.read source = .ok w) : Reachable w
  | edit {w v : Workbook} (before : Reachable w) (edit : w.Edit v) : Reachable v

theorem Reachable.wellFormed {w : Workbook} (reachable : w.Reachable) : w.WellFormed := by
  induction reachable with
  | ofLayout layout => exact wellFormed_ofLayout layout
  | read accepted => exact (read_eq_ok accepted).1
  | edit _ edit ih => exact edit.wellFormed ih

theorem cellAt?_congr {w v : Workbook} (same : w.sheets.map Sheet.view = v.sheets.map Sheet.view)
    (index : Nat) (a : Address) : w.cellAt? index a = v.cellAt? index a := by
  have cells (w : Workbook) : w.cellAt? index a =
      (w.sheets.map Sheet.view)[index]?.bind fun s => s.cell? a := by
    rw [cellAt?, List.getElem?_map]
    cases w.sheets[index]? <;> rfl
  rw [cells, cells, same]

end Workbook

/-- A snapshot is read back as a workbook with the same sheets in the same order, the same current
sheet and the same cell at every address of every sheet, and with the same snapshot. -/
theorem read_write_of_reachable {w : Workbook} (reachable : w.Reachable) (sized : w.Sized) :
    ∃ v, Snapshot.read (Snapshot.write w) = .ok v ∧
      v.sheets.map (fun s => (s.name, s.grid.extent)) =
        w.sheets.map (fun s => (s.name, s.grid.extent)) ∧
      v.current = w.current ∧
      (∀ index a, v.cellAt? index a = w.cellAt? index a) ∧
      Snapshot.write v = Snapshot.write w := by
  obtain ⟨v, accepted, same⟩ := exists_read_write reachable.wellFormed sized
  have sheets : v.sheets.map Sheet.view = w.sheets.map Sheet.view :=
    congrArg Workbook.View.sheets same
  have current : v.current = w.current := congrArg Workbook.View.current same
  refine ⟨v, accepted, ?_, current, ?_, ?_⟩
  · apply Sheet.mapAll_congr sheets
    intro s t alike
    rw [Sheet.name_congr alike, Sheet.extent_congr alike]
  · exact Workbook.cellAt?_congr sheets
  · exact Workbook.write_congr sheets current

/-- A sheet whose name has a quote and a backslash, with a cell that looks like a header, a comment
and an outcome on four lines. -/
theorem read_write_of_marked_text : ∃ w : Workbook,
    (Workbook.ofLayout ⟨"a\"b\\", ⟨2, 3⟩⟩).write? ⟨1, 2⟩ "[sheet 1x1] \"\"\n#\r\n-> :\n" = some w ∧
      w.Reachable ∧ w.Sized ∧
      ∃ v, Snapshot.read (Snapshot.write w) = .ok v ∧
        v.sheets.map (fun s => (s.name, s.grid.extent)) =
          w.sheets.map (fun s => (s.name, s.grid.extent)) ∧
        v.current = w.current ∧
        (∀ index a, v.cellAt? index a = w.cellAt? index a) ∧
        Snapshot.write v = Snapshot.write w := by
  let before := Workbook.ofLayout ⟨"a\"b\\", ⟨2, 3⟩⟩
  have inside : before.currentSheet.grid.extent.Contains ⟨1, 2⟩ := by decide
  obtain ⟨w, written⟩ := Workbook.exists_write? inside "[sheet 1x1] \"\"\n#\r\n-> :\n"
  have edit : before.Edit w := .write written
  have reachable : w.Reachable := .edit (.ofLayout _) edit
  have sized : w.Sized :=
    edit.sized (Workbook.wellFormed_ofLayout _) (Workbook.sized_ofLayout (by decide))
  exact ⟨w, written, reachable, sized, read_write_of_reachable reachable sized⟩

end Gridbook
