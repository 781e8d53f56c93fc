import Gridbook.Proofs.Export.CsvReading
import Gridbook.Proofs.Grid.Contents

/-!
# The bounds of the text

The bounds of the text on a sheet are those of the smallest rectangle that holds it.  They grow by
one address after the other: what was enclosed stays enclosed, and every edge keeps an address that
lies on it, or gets the new one.  So there are bounds exactly if there is text, even if it is white
space only, no smaller rectangle holds it all, and none of it is missing from the exports.
-/

namespace Gridbook

namespace Bounds

/-- An address lies in the rectangle. -/
def Encloses (b : Bounds) (a : Address) : Prop :=
  (b.first.row ≤ a.row ∧ a.row ≤ b.last.row) ∧ b.first.col ≤ a.col ∧ a.col ≤ b.last.col

/-- The rectangle lies in another one. -/
def Within (b other : Bounds) : Prop :=
  (other.first.row ≤ b.first.row ∧ b.last.row ≤ other.last.row) ∧
    other.first.col ≤ b.first.col ∧ b.last.col ≤ other.last.col

/-- All held addresses lie in the rectangle, and there is one on each of its four edges. -/
structure Tight (b : Bounds) (held : Address → Prop) : Prop where
  encloses : ∀ a, held a → b.Encloses a
  firstRow : ∃ a, held a ∧ a.row = b.first.row
  lastRow : ∃ a, held a ∧ a.row = b.last.row
  firstCol : ∃ a, held a ∧ a.col = b.first.col
  lastCol : ∃ a, held a ∧ a.col = b.last.col

variable {b other : Bounds} {held : Address → Prop} {a : Address}

/-- No rectangle around the same addresses is smaller. -/
theorem Tight.within (tight : b.Tight held) (around : ∀ a, held a → other.Encloses a) :
    b.Within other := by
  obtain ⟨top, atTop, top_eq⟩ := tight.firstRow
  obtain ⟨bottom, atBottom, bottom_eq⟩ := tight.lastRow
  obtain ⟨left, atLeft, left_eq⟩ := tight.firstCol
  obtain ⟨right, atRight, right_eq⟩ := tight.lastCol
  exact ⟨⟨top_eq ▸ (around top atTop).1.1, bottom_eq ▸ (around bottom atBottom).1.2⟩,
    left_eq ▸ (around left atLeft).2.1, right_eq ▸ (around right atRight).2.2⟩

/-! ## One more address -/

/-- With one more address, what is picked of an old coordinate and the new one is still the
coordinate of an address. -/
theorem exists_eq_pick {part : Address → Nat} {pick : Nat → Nat → Nat} {extreme : Nat}
    (picks : ∀ m n, pick m n = m ∨ pick m n = n) (found : ∃ x, held x ∧ part x = extreme)
    (a : Address) : ∃ x, (held x ∨ x = a) ∧ part x = pick extreme (part a) := by
  rcases picks extreme (part a) with old | new
  · obtain ⟨x, known, same⟩ := found
    exact ⟨x, .inl known, same.trans old.symm⟩
  · exact ⟨a, .inr rfl, new.symm⟩

theorem tight_single (a : Address) : (Bounds.mk a a).Tight (· = a) where
  encloses x same := by
    subst same
    exact ⟨⟨Nat.le_refl _, Nat.le_refl _⟩, Nat.le_refl _, Nat.le_refl _⟩
  firstRow := ⟨a, rfl, rfl⟩
  lastRow := ⟨a, rfl, rfl⟩
  firstCol := ⟨a, rfl, rfl⟩
  lastCol := ⟨a, rfl, rfl⟩

theorem Tight.enclose (tight : b.Tight held) (a : Address) :
    (b.enclose a).Tight fun x => held x ∨ x = a where
  encloses x known := by
    rcases known with old | rfl
    · obtain ⟨⟨top, bottom⟩, left, right⟩ := tight.encloses x old
      exact ⟨⟨Nat.le_trans (Nat.min_le_left _ _) top, Nat.le_trans bottom (Nat.le_max_left _ _)⟩,
        Nat.le_trans (Nat.min_le_left _ _) left, Nat.le_trans right (Nat.le_max_left _ _)⟩
    · exact ⟨⟨Nat.min_le_right _ _, Nat.le_max_right _ _⟩, Nat.min_le_right _ _,
        Nat.le_max_right _ _⟩
  firstRow := exists_eq_pick (fun _ _ => Std.min_eq_or) tight.firstRow a
  lastRow := exists_eq_pick (fun _ _ => Std.max_eq_or) tight.lastRow a
  firstCol := exists_eq_pick (fun _ _ => Std.min_eq_or) tight.firstCol a
  lastCol := exists_eq_pick (fun _ _ => Std.max_eq_or) tight.lastCol a

/-! ## Any number of addresses -/

theorem Tight.foldl_enclose (tight : b.Tight held) (addresses : List Address) :
    (addresses.foldl Bounds.enclose b).Tight fun x => held x ∨ x ∈ addresses := by
  induction addresses generalizing b held with
  | nil => simpa using tight
  | cons a rest ih =>
      have all := ih (tight.enclose a)
      simp only [or_assoc] at all
      simpa only [List.foldl_cons, List.mem_cons] using all

theorem around?_eq_none_iff {addresses : List Address} :
    around? addresses = none ↔ addresses = [] := by
  cases addresses with
  | nil => exact iff_of_true rfl rfl
  | cons a rest => exact iff_of_false nofun nofun

theorem tight_of_around? {addresses : List Address} (found : around? addresses = some b) :
    b.Tight (· ∈ addresses) := by
  cases addresses with
  | nil => cases found
  | cons a rest =>
      obtain rfl := Option.some.inj found
      simpa only [List.mem_cons] using (tight_single a).foldl_enclose rest

/-! ## The rows and columns of a rectangle -/

theorem Ordered.getElem?_rows (ordered : b.Ordered) (inside : b.Encloses a) :
    b.rows[a.row - b.first.row]? = some a.row := by
  have place : a.row - b.first.row < b.height := by
    have bound := inside.1
    rw [height]
    omega
  rw [ordered.rows_eq, List.getElem?_map, List.getElem?_range place, Option.map_some,
    Nat.add_sub_cancel' inside.1.1]

theorem Ordered.getElem?_cols (ordered : b.Ordered) (inside : b.Encloses a) :
    b.cols[a.col - b.first.col]? = some a.col := by
  have place : a.col - b.first.col < b.width := by
    have bound := inside.2
    rw [width]
    omega
  rw [ordered.cols_eq, List.getElem?_map, List.getElem?_range place, Option.map_some,
    Nat.add_sub_cancel' inside.2.1]

end Bounds

namespace Document

open Text Snapshot

variable {d : Document} {b : Bounds} {a : Address}

/-! ## The bounds of a document -/

/-- The addresses of the cells that hold text are those with a content. -/
theorem mem_map_filledCells :
    a ∈ (filledCells d.workbook.currentSheet.grid).map Prod.fst ↔ d.workbook.content a ≠ "" := by
  rw [List.mem_map, Workbook.content, Workbook.cell?]
  constructor
  · rintro ⟨⟨_, c⟩, listed, rfl⟩
    obtain ⟨found, filled⟩ := mem_filledCells.mp listed
    rw [found]
    exact filled
  · intro filled
    cases found : d.workbook.currentSheet.grid.get? a with
    | none =>
        rw [found] at filled
        exact absurd rfl filled
    | some c =>
        rw [found] at filled
        exact ⟨(a, c), mem_filledCells.mpr ⟨found, filled⟩, rfl⟩

theorem bounds?_eq_none_iff : d.bounds? = none ↔ ∀ a, d.workbook.content a = "" := by
  change Bounds.around? ((filledCells d.workbook.currentSheet.grid).map Prod.fst) = none ↔ _
  rw [Bounds.around?_eq_none_iff, List.eq_nil_iff_forall_not_mem]
  simp only [mem_map_filledCells, Decidable.not_not]

theorem tight_of_bounds? (bounded : d.bounds? = some b) :
    b.Tight fun a => d.workbook.content a ≠ "" := by
  have tight := Bounds.tight_of_around? bounded
  change b.Tight (· ∈ (filledCells d.workbook.currentSheet.grid).map Prod.fst) at tight
  simpa only [mem_map_filledCells] using tight

/-! ## The exports -/

/-- What is shown at an address stands at its place in the table, and the row of the table in which
it stands is written in both exports. -/
def Exported (d : Document) (b : Bounds) (a : Address) : Prop :=
  ∃ row, (d.table b)[a.row - b.first.row]? = some row ∧
    row[a.col - b.first.col]? = some (d.workbook.display a) ∧
    Csv.record row <:+: d.csv.toList ∧
    Markdown.tableLine (digits (a.row + 1) :: row.map fun text => Markdown.escape text.toList) <:+:
      d.markdown.toList

theorem infix_flatMap {α β : Type} (f : α → List β) {x : α} {xs : List α} (mem : x ∈ xs) :
    f x <:+: xs.flatMap f :=
  List.infix_of_mem_flatten (List.mem_map_of_mem mem)

theorem exported_of_encloses (bounded : d.bounds? = some b) (inside : b.Encloses a) :
    d.Exported b a := by
  have ordered := Sheet.ordered_of_bounds? bounded
  have row : (d.table b)[a.row - b.first.row]? =
      some (d.workbook.currentSheet.shownRow b a.row) := by
    rw [← map_shownRow bounded, List.getElem?_map, ordered.getElem?_rows inside, Option.map_some]
  refine ⟨_, row, ?_, ?_, ?_⟩
  · rw [Sheet.shownRow, List.getElem?_map, ordered.getElem?_cols inside, Option.map_some]
    rfl
  · rw [csv_eq bounded, String.toList_ofList]
    exact infix_flatMap Csv.record (List.mem_of_getElem? row)
  · have found : d.workbook.currentSheet.bounds? = some b := bounded
    have line := infix_flatMap (fun row => Markdown.tableLine (digits (row + 1) ::
        (d.workbook.currentSheet.shownRow b row).map fun text => Markdown.escape text.toList))
      (List.mem_of_getElem? (ordered.getElem?_rows inside))
    rw [markdown, Markdown.render, found, String.toList_ofList]
    exact line.trans ((List.suffix_append _ _).trans (List.suffix_append _ _)).isInfix

/-- A document has no bounds exactly if no cell of its current sheet has a content.  Otherwise its
bounds enclose all cells with a content, one of them is in the first and in the last row and in the
first and in the last column, no other rectangle around them is smaller, and each of them is in the
exports. -/
theorem bounds_tight (d : Document) :
    (d.bounds? = none ↔ ∀ a, d.workbook.content a = "") ∧
    ∀ b, d.bounds? = some b →
      b.Tight (fun a => d.workbook.content a ≠ "") ∧
      (∀ other : Bounds, (∀ a, d.workbook.content a ≠ "" → other.Encloses a) → b.Within other) ∧
      ∀ a, d.workbook.content a ≠ "" → d.Exported b a := by
  refine ⟨bounds?_eq_none_iff, fun b bounded => ?_⟩
  have tight := tight_of_bounds? bounded
  exact ⟨tight, fun _ around => tight.within around,
    fun a filled => exported_of_encloses bounded (tight.encloses a filled)⟩

/-- White space and a text are enclosed, a text that was cleared is not. -/
example : ((ofLayout ⟨"a", ⟨3, 4⟩⟩).write? ⟨2, 1⟩ " " >>= fun d => d.write? ⟨1, 2⟩ "x" >>=
    fun d => d.write? ⟨0, 3⟩ "").bind bounds? = some ⟨⟨1, 1⟩, ⟨2, 2⟩⟩ := by
  decide

end Document

end Gridbook
