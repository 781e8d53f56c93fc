import Gridbook.Proofs.Snapshot.Meaning

/-!
# Lines in another order

What an accepted text means depends, for each sheet, only on which lines of cells there are and on
the last one for each address.  So lines of cells of one sheet may change places, as long as lines
for one address keep their order, and a line that alone gives the current sheet may stand anywhere.
-/

namespace Gridbook.Snapshot

variable {w : Workbook} {es es' mid mid' : List Entry} {cells cells' : List (List Char)}

/-! ## Texts that mean the same -/

/-- The same lines of cells, with the same last one for every address. -/
structure CellsAlike (cells cells' : List (List Char)) : Prop where
  lines : ∀ line, line ∈ cells ↔ line ∈ cells'
  last : ∀ a, Grid.lastPut? (cellEntries cells) a = Grid.lastPut? (cellEntries cells') a

namespace CellsAlike

theorem refl (cells : List (List Char)) : CellsAlike cells cells :=
  ⟨fun _ => Iff.rfl, fun _ => rfl⟩

theorem append {later later' : List (List Char)} (first : CellsAlike cells cells')
    (second : CellsAlike later later') : CellsAlike (cells ++ later) (cells' ++ later') := by
  constructor
  · intro line
    rw [List.mem_append, List.mem_append, first.lines, second.lines]
  · intro a
    rw [cellEntries, cellEntries, List.filterMap_append, List.filterMap_append,
      Grid.lastPut?_append, Grid.lastPut?_append]
    exact congrArg₂ Option.or (second.last a) (first.last a)

theorem eq_nil (alike : CellsAlike cells cells') (none : cells = []) : cells' = [] := by
  refine List.eq_nil_iff_forall_not_mem.mpr fun line there => ?_
  rw [← alike.lines, none] at there
  exact List.not_mem_nil there

end CellsAlike

/-- The same header over lines of cells that are alike. -/
structure Block.Alike (b b' : Block) : Prop where
  header : b.header = b'.header
  cells : CellsAlike b.cells b'.cells

theorem Block.Alike.refl (b : Block) : b.Alike b :=
  ⟨rfl, .refl _⟩

theorem Block.Alike.describes {b b' : Block} {s : Sheet} (alike : b.Alike b')
    (describes : b.Describes s) : b'.Describes s := by
  refine ⟨?_, ?_, ?_⟩
  · rw [← alike.header]
    exact describes.header
  · intro line there
    exact describes.inside line ((alike.cells.lines line).mpr there)
  · intro a inside
    rw [← alike.cells.last a]
    exact describes.cells a inside

theorem describe_of_alike {bs bs' : List Block} {sheets : List Sheet}
    (alike : List.Forall₂ Block.Alike bs bs') (describe : List.Forall₂ Block.Describes bs sheets) :
    List.Forall₂ Block.Describes bs' sheets := by
  induction alike generalizing sheets with
  | nil => exact describe
  | cons first _ ih =>
      obtain _ | ⟨described, rest⟩ := describe
      exact .cons (first.describes described) (ih rest)

/-- The same headers in order, each over lines of cells that are alike, and the same indices of the
current sheet. -/
structure Alike (es es' : List Entry) : Prop where
  leading : CellsAlike (leadingCells es) (leadingCells es')
  blocks : List.Forall₂ Block.Alike (blocks es) (blocks es')
  current : currentTexts es = currentTexts es'

namespace Alike

theorem cons (e : Entry) (alike : Alike es es') : Alike (e :: es) (e :: es') := by
  obtain ⟨leading, blocks, current⟩ := alike
  cases e with
  | skipped => exact ⟨leading, blocks, current⟩
  | current text => exact ⟨leading, blocks, congrArg (text :: ·) current⟩
  | header line => exact ⟨.refl [], .cons ⟨rfl, leading⟩ blocks, current⟩
  | cell line => exact ⟨(CellsAlike.refl [line]).append leading, blocks, current⟩

theorem append (before : List Entry) (alike : Alike es es') :
    Alike (before ++ es) (before ++ es') := by
  induction before with
  | nil => exact alike
  | cons e before ih => exact ih.cons e

theorem describes (alike : Alike es es') (describes : Describes es w) : Describes es' w := by
  refine ⟨?_, alike.leading.eq_nil describes.stray, ?_, ?_, describes.extent,
    describes.evaluating⟩
  · exact describe_of_alike alike.blocks describes.sheets
  · have counted := describes.counted
    rw [Counted, alike.current] at counted
    exact counted
  · rw [describes.current, currentIndex, currentIndex, alike.current]

end Alike

/-! ## Lines of cells in another order -/

/-- Some neighbouring lines, of which none opens a sheet, are put in another order.  Lines of cells
for one address keep theirs, and so do lines that give the current sheet. -/
inductive Reordered : List Entry → List Entry → Prop where
  | intro (before after : List Entry) {mid mid' : List Entry} (lines : mid.Perm mid')
      (within : ∀ e ∈ mid, e.isHeader = false)
      (cells : ∀ a, (cellEntries (mid.filterMap Entry.cell?)).filter (·.1 = a) =
        (cellEntries (mid'.filterMap Entry.cell?)).filter (·.1 = a))
      (current : currentTexts mid = currentTexts mid') :
      Reordered (before ++ (mid ++ after)) (before ++ (mid' ++ after))

theorem leadingCells_append (within : ∀ e ∈ mid, e.isHeader = false) (after : List Entry) :
    leadingCells (mid ++ after) = mid.filterMap Entry.cell? ++ leadingCells after := by
  have plain : ∀ e ∈ mid, (!e.isHeader) = true := fun e there => by rw [within e there]; rfl
  rw [leadingCells, List.takeWhile_append_of_pos plain, List.filterMap_append]
  rfl

theorem blocks_append (within : ∀ e ∈ mid, e.isHeader = false) (after : List Entry) :
    blocks (mid ++ after) = blocks after := by
  induction mid with
  | nil => rfl
  | cons e mid ih =>
      obtain ⟨plain, others⟩ := List.forall_mem_cons.mp within
      cases e with
      | header line => cases plain
      | _ => exact ih others

theorem Reordered.alike (reordered : Reordered es es') : Alike es es' := by
  obtain ⟨before, after, lines, within, cells, current⟩ := reordered
  have within' := fun e there => within e (lines.mem_iff.mpr there)
  refine Alike.append before ⟨?_, ?_, ?_⟩
  · rw [leadingCells_append within, leadingCells_append within']
    refine CellsAlike.append ⟨fun line => (lines.filterMap _).mem_iff, fun a => ?_⟩ (.refl _)
    rw [Grid.lastPut?, Grid.lastPut?, cells a]
  · rw [blocks_append within, blocks_append within']
    exact List.forall₂_same.mpr fun b _ => .refl b
  · rw [currentTexts, currentTexts, List.filterMap_append, List.filterMap_append]
    exact congrArg (· ++ _) current

/-- Of the entries with one key there is at most one if the keys are distinct, so that their order
is the same in every permutation. -/
theorem filter_eq_of_distinct {α β : Type} [DecidableEq β] {key : α → β} {l l' : List α}
    (perm : l.Perm l') (distinct : l.Pairwise fun x y => key x ≠ key y) (b : β) :
    l.filter (key · = b) = l'.filter (key · = b) := by
  have same := perm.filter (key · = b)
  have apart := distinct.filter (key · = b)
  have all : ∀ x ∈ l.filter (key · = b), key x = b := fun x there =>
    of_decide_eq_true (List.mem_filter.mp there).2
  generalize l.filter (key · = b) = found at same apart all
  match found with
  | [] => exact same.nil_eq
  | [x] => exact List.singleton_perm.mp same
  | x :: y :: rest =>
      obtain ⟨first, others⟩ := List.forall_mem_cons.mp all
      have second := (List.forall_mem_cons.mp others).1
      have clash := List.rel_of_pairwise_cons apart List.mem_cons_self
      exact absurd (first.trans second.symm) clash

/-- Lines of cells with distinct addresses may be put in any order. -/
theorem Reordered.of_distinct (before after : List Entry) {lines lines' : List (List Char)}
    (perm : lines.Perm lines')
    (distinct : (cellEntries lines).Pairwise fun first second => first.1 ≠ second.1) :
    Reordered (before ++ (lines.map .cell ++ after)) (before ++ (lines'.map .cell ++ after)) := by
  have all (l : List (List Char)) : (l.map Entry.cell).filterMap Entry.cell? = l := by
    rw [List.filterMap_map]
    exact List.filterMap_some
  have none (l : List (List Char)) : currentTexts (l.map .cell) = [] := by
    rw [currentTexts, List.filterMap_map]
    exact List.filterMap_eq_nil_iff.mpr fun _ _ => rfl
  refine .intro before after (perm.map _) ?_ (fun a => ?_) ?_
  · intro e there
    obtain ⟨line, _, rfl⟩ := List.mem_map.mp there
    rfl
  · rw [all, all]
    exact filter_eq_of_distinct (perm.filterMap cellOf?) distinct a
  · rw [none, none]

/-! ## The line that gives the current sheet -/

/-- The only line that gives the current sheet is moved. -/
inductive CurrentMoved : List Entry → List Entry → Prop where
  | intro {before after before' after' : List Entry} (text : List Char)
      (others : before ++ after = before' ++ after') (only : currentTexts (before ++ after) = []) :
      CurrentMoved (before ++ .current text :: after) (before' ++ .current text :: after')

theorem leadingCells_insert (before : List Entry) (text : List Char) (after : List Entry) :
    leadingCells (before ++ .current text :: after) = leadingCells (before ++ after) := by
  induction before with
  | nil => rfl
  | cons e before ih =>
      cases e with
      | header line => rfl
      | cell line => exact congrArg (line :: ·) ih
      | _ => exact ih

theorem blocks_insert (before : List Entry) (text : List Char) (after : List Entry) :
    blocks (before ++ .current text :: after) = blocks (before ++ after) := by
  induction before with
  | nil => rfl
  | cons e before ih =>
      cases e with
      | header line =>
          exact congrArg₂ List.cons (congrArg _ (leadingCells_insert before text after)) ih
      | _ => exact ih

theorem currentTexts_insert {before after : List Entry} (only : currentTexts (before ++ after) = [])
    (text : List Char) : currentTexts (before ++ .current text :: after) = [text] := by
  rw [currentTexts, List.filterMap_append, List.append_eq_nil_iff] at only
  rw [currentTexts, List.filterMap_append, only.1, List.nil_append]
  exact congrArg (text :: ·) only.2

theorem CurrentMoved.alike (moved : CurrentMoved es es') : Alike es es' := by
  obtain ⟨text, others, only⟩ := moved
  refine ⟨?_, ?_, ?_⟩
  · rw [leadingCells_insert, leadingCells_insert, others]
    exact .refl _
  · rw [blocks_insert, blocks_insert, others]
    exact List.forall₂_same.mpr fun b _ => .refl b
  · rw [currentTexts_insert only, currentTexts_insert (others ▸ only)]

/-- A text is accepted as the workbook that it describes, of which the current sheet is one of its
sheets.  Lines in another order do not change that: neither lines of one sheet, as long as those for
one address keep their order, nor the only line that gives the current sheet. -/
theorem meaning_of_read (source : String) (w : Workbook) :
    (read source = .ok w ↔ Describes (entries source) w) ∧
      (read source = .ok w → w.current < w.sheets.length ∧
        (∀ other, Reordered (entries source) (entries other) → read other = .ok w) ∧
        ∀ other, CurrentMoved (entries source) (entries other) → read other = .ok w) := by
  refine ⟨read_eq_ok_iff_describes, fun accepted => ?_⟩
  have describes := read_eq_ok_iff_describes.mp accepted
  refine ⟨w.current_lt, fun other reordered => ?_, fun other moved => ?_⟩
  · exact read_eq_ok_iff_describes.mpr (reordered.alike.describes describes)
  · exact read_eq_ok_iff_describes.mpr (moved.alike.describes describes)

/-- A line for another address goes behind the one that overwrites, and the line that gives the
current sheet goes to the end. -/
theorem meaning_of_read_of_overwritten_address : ∃ w,
    read "current: 0\n[sheet 1x2] \"a\"\n(1,1): \"x\"\n(1,2): \"y\"\n(1,1): \"z\"" = .ok w ∧
    read "current: 0\n[sheet 1x2] \"a\"\n(1,1): \"x\"\n(1,1): \"z\"\n(1,2): \"y\"" = .ok w ∧
    read "[sheet 1x2] \"a\"\n(1,1): \"x\"\n(1,2): \"y\"\n(1,1): \"z\"\ncurrent: 0" = .ok w := by
  let opened : List Entry := [.header "[sheet 1x2] \"a\"".toList, .cell "(1,1): \"x\"".toList]
  let apart : List (List Char) := ["(1,2): \"y\"".toList, "(1,1): \"z\"".toList]
  generalize given :
    "current: 0\n[sheet 1x2] \"a\"\n(1,1): \"x\"\n(1,2): \"y\"\n(1,1): \"z\"" = source
  have all : entries source = .current ['0'] :: (opened ++ (apart.map .cell ++ [])) := by
    rw [← given]
    decide +kernel
  obtain ⟨w, found⟩ : ∃ w, (read source).toOption = some w := by
    rw [← given]
    exact Option.isSome_iff_exists.mp (by decide +kernel)
  have accepted := toOption_eq_some_iff.mp found
  obtain ⟨-, reordered, moved⟩ := (meaning_of_read source w).2 accepted
  refine ⟨w, accepted, reordered _ ?_, moved _ ?_⟩
  · have other : entries
        "current: 0\n[sheet 1x2] \"a\"\n(1,1): \"x\"\n(1,1): \"z\"\n(1,2): \"y\"" =
          .current ['0'] :: (opened ++ (apart.reverse.map .cell ++ [])) := by
      decide +kernel
    rw [all, other]
    exact .of_distinct (.current ['0'] :: opened) [] apart.reverse_perm.symm (by decide +kernel)
  · have other : entries
        "[sheet 1x2] \"a\"\n(1,1): \"x\"\n(1,2): \"y\"\n(1,1): \"z\"\ncurrent: 0" =
          opened ++ (apart.map .cell ++ []) ++ [.current ['0']] := by
      decide +kernel
    have same : [] ++ (opened ++ (apart.map .cell ++ [])) = opened ++ (apart.map .cell ++ []) ++ [] :=
      (List.append_nil _).symm
    have moving := CurrentMoved.intro ['0'] same (by decide +kernel)
    rw [all, other]
    exact moving

end Gridbook.Snapshot
