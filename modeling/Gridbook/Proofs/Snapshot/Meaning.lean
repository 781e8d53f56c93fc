import Gridbook.Proofs.Snapshot.Blocks
import Mathlib.Data.List.Forall2

/-!
# What an accepted text means

A text is accepted as a workbook exactly if it describes the workbook: its blocks describe the
sheets in order, each of them by the dimensions and the name in its header and by the last line for
every address, and the last line that gives the current sheet gives the one of the workbook, wherever
that line stands.  So the lines of cells of one sheet may be put in another order, as long as lines
for one address stay in theirs, and a line that alone gives the current sheet may be moved anywhere.
-/

namespace Gridbook.Snapshot

open Text

variable {b : Block} {s : Sheet} {w : Workbook} {p : Progress} {es : List Entry} {source : String}

/-! ## Sheets -/

/-- The sheet has the dimensions and the name of the header.  Every line of a cell gives an address
inside.  At every address inside there is the cell of the last line for it, and nothing was put
there if there is no such line. -/
structure Block.Describes (b : Block) (s : Sheet) : Prop where
  header : ∃ written, HeaderOf b.header written s.grid.extent ∧
    s.name = String.ofList (unescape written)
  inside : Inside s.grid.extent b.cells
  cells : ∀ a, s.grid.extent.Contains a → s.grid.slot a = Grid.lastPut? (cellEntries b.cells) a

theorem extent_empty {e : Extent} (fits : e.Fits) : (Grid.empty e).extent = e :=
  Extent.shrunk_of_fits fits

theorem slot_filled {e : Extent} {a : Address} (inside : (Grid.empty e).extent.Contains a)
    (name : String) (cells : List (List Char)) :
    (filled ⟨name, Grid.empty e⟩ cells).grid.slot a = Grid.lastPut? (cellEntries cells) a := by
  have put := Grid.slot_putAll inside (cellEntries cells)
  rw [Grid.slot_empty, Option.or_none] at put
  exact put

/-- A block makes the sheet that it describes. -/
theorem makes_iff_describes : Makes b s ↔ b.Describes s := by
  constructor
  · rintro ⟨opened, accepted, inside, rfl⟩
    obtain ⟨written, extent, header, rfl⟩ := readHeader_eq_ok_iff.mp accepted
    have start := extent_empty header.fits
    have same : (filled ⟨String.ofList (unescape written), Grid.empty extent⟩ b.cells).grid.extent =
        extent := (Grid.extent_putAll _ _).trans start
    refine ⟨⟨written, ?_, rfl⟩, ?_, ?_⟩
    · rw [same]
      exact header
    · rw [same, ← start]
      exact inside
    · intro a here
      rw [same, ← start] at here
      exact slot_filled here _ b.cells
  · intro describes
    obtain ⟨written, header, named⟩ := describes.header
    have start := extent_empty header.fits
    refine ⟨⟨s.name, Grid.empty s.grid.extent⟩, ?_, ?_, ?_⟩
    · exact readHeader_eq_ok_iff.mpr ⟨written, _, header, by rw [named]⟩
    · rw [start]
      exact describes.inside
    · have grids : s.grid = (Grid.empty s.grid.extent).putAll (cellEntries b.cells) := by
        apply Grid.eq_of_slots
        · rw [Grid.extent_putAll, start]
        · intro a here
          rw [describes.cells a here]
          rw [← start] at here
          exact (slot_filled here s.name b.cells).symm
      exact congrArg (Sheet.mk s.name) grids

/-! ## The current sheet -/

theorem lt_countLimit_of_count? {text : List Char} {n : Nat} (counted : count? text = some n) :
    n < countLimit := by
  unfold count? at counted
  exact of_decide_eq_true (Option.filter_eq_some_iff.mp counted).2

theorem getLast?_filterMap {α β : Type} {f : α → Option β} {l : List α}
    (all : ∀ x ∈ l, (f x).isSome) : (l.filterMap f).getLast? = l.getLast?.bind f := by
  rcases l.eq_nil_or_concat' with rfl | ⟨front, x, rfl⟩
  · rfl
  · obtain ⟨y, found⟩ := Option.isSome_iff_exists.mp (all x List.mem_concat_self)
    rw [List.filterMap_append, List.filterMap_cons_some found, List.filterMap_nil,
      List.getLast?_concat, List.getLast?_concat, Option.bind_some, found]

/-- The index that is given last, zero if none is given. -/
def currentIndex (es : List Entry) : Nat :=
  ((currentTexts es).getLast?.bind count?).getD 0

theorem map_indices (l : List (Entry × Nat)) :
    (indices l).map Prod.fst = (currentTexts (l.map Prod.fst)).filterMap count? := by
  rw [indices, currentTexts, List.map_filterMap, List.filterMap_filterMap, List.filterMap_map]
  apply List.filterMap_congr
  intro e _
  rw [Option.map_map]
  exact Option.map_id'

theorem currentIndex_eq (counted : Counted es) (number : Nat) :
    ((indices (es.zipIdx number)).getLast?.map Prod.fst).getD 0 = currentIndex es := by
  rw [← List.getLast?_map, map_indices, List.zipIdx_map_fst, getLast?_filterMap counted,
    currentIndex]

theorem currentIndex_lt (es : List Entry) : currentIndex es < countLimit := by
  rw [currentIndex]
  cases given : (currentTexts es).getLast?.bind count? with
  | none => exact countLimit_pos
  | some index =>
      obtain ⟨text, _, counted⟩ := Option.bind_eq_some_iff.mp given
      exact lt_countLimit_of_count? counted

/-! ## Workbooks -/

/-- The blocks describe the sheets.  No line of a cell comes before them, and whatever index is given
counts.  The last one that is given is the index of the current sheet.  The extent of the first
sheet is that of further sheets, and formulas are evaluated. -/
structure Describes (es : List Entry) (w : Workbook) : Prop where
  sheets : List.Forall₂ Block.Describes (blocks es) w.sheets
  stray : leadingCells es = []
  counted : Counted es
  current : w.current = currentIndex es
  extent : w.sheets.head?.map (fun s => s.grid.extent) = some w.extent
  evaluating : w.evaluating = true

/-- A text is accepted as the workbook that it describes. -/
theorem read_eq_ok_iff_describes : read source = .ok w ↔ Describes (entries source) w := by
  simp only [read_eq_ok_iff_takesAll, takesAll_start_iff, Progress.finish_eq_ok_iff]
  generalize entries source = es
  constructor
  · rintro ⟨q, accepts, known, found⟩
    rw [accepts.current, currentIndex_eq accepts.counted] at known found
    rw [← List.length_reverse] at known
    obtain ⟨v, again, current⟩ := Progress.ofSheets?_of_lt known (currentIndex_lt es)
    obtain rfl := Option.some.inj (found.symm.trans again)
    obtain ⟨same, extent, evaluating⟩ := Progress.ofSheets?_eq_some found
    refine ⟨?_, accepts.stray, accepts.counted, current, extent, evaluating⟩
    rw [same]
    exact accepts.sheets.imp fun _ _ => makes_iff_describes.mp
  · intro describes
    refine ⟨⟨w.sheets.reverse, (indices (es.zipIdx 1)).getLast?⟩, ?_, ?_, ?_⟩
    · refine ⟨describes.counted, describes.stray, ?_, rfl⟩
      rw [List.reverse_reverse]
      exact describes.sheets.imp fun _ _ => makes_iff_describes.mpr
    · rw [currentIndex_eq describes.counted, ← describes.current, List.length_reverse]
      exact w.current_lt
    · rw [currentIndex_eq describes.counted, ← describes.current, List.reverse_reverse]
      obtain ⟨v, found, current⟩ := Progress.ofSheets?_of_lt w.current_lt w.current_count
      obtain ⟨sheets, extent, evaluating⟩ := Progress.ofSheets?_eq_some found
      have extents : v.extent = w.extent := by
        rw [sheets, describes.extent] at extent
        exact (Option.some.inj extent).symm
      rw [found, Workbook.eq_of_fields sheets current extents
        (evaluating.trans describes.evaluating.symm)]

end Gridbook.Snapshot
