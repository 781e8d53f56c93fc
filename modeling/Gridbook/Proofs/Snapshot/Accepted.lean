import Gridbook.Proofs.Workbook.WellFormed
import Gridbook.Snapshot.Reader

/-!
# Snapshots that are accepted

Each kind of line is accepted under conditions on its parts, which are stated here without the order
in which they are checked.  It follows that whatever text is read as a snapshot, the workbook is
well formed, none of its sheets is without rows or columns, and its evaluator is attached: the
sheets read so far have these properties after every line.
-/

namespace Gridbook

open Text Formula

namespace Snapshot

variable {line text : List Char} {s t : Sheet} {c : Cell}

theorem bind_eq_ok_iff {ε α β : Type} {first : Except ε α} {next : α → Except ε β} {y : β} :
    first >>= next = .ok y ↔ ∃ x, first = .ok x ∧ next x = .ok y := by
  cases first with
  | error e =>
      constructor
      · intro failed
        cases failed
      · rintro ⟨x, failed, _⟩
        cases failed
  | ok x =>
      constructor
      · exact fun done => ⟨x, rfl, done⟩
      · rintro ⟨_, same, done⟩
        obtain rfl := Except.ok.inj same
        exact done

/-! ## One line -/

/-- A header line with the digits of an extent and the written form of a name, which may be given to
a sheet. -/
structure HeaderOf (line : List Char) (written : List Char) (extent : Extent) : Prop where
  parts : ∃ rows cols, headerParts? line = some (rows, cols, written) ∧
    count? rows = some extent.rows ∧ count? cols = some extent.cols
  sized : extent.Sized
  fits : extent.Fits
  named : ¬ AllBlank (unescape written)

theorem readHeader_eq_ok_iff : readHeader line = .ok s ↔ ∃ written extent,
    HeaderOf line written extent ∧ s = ⟨String.ofList (unescape written), Grid.empty extent⟩ := by
  unfold readHeader
  constructor
  · intro accepted
    split at accepted
    · rename_i parts
      split at accepted
      · rename_i counts
        obtain ⟨rows, cols⟩ := Prod.mk.inj counts
        dsimp only at accepted
        split at accepted
        · cases accepted
        · rename_i positive
          split at accepted
          · cases accepted
          · rename_i fits
            split at accepted
            · cases accepted
            · rename_i named
              obtain rfl := Except.ok.inj accepted
              have sized := not_or.mp positive
              refine ⟨_, ⟨_, _⟩, ⟨⟨_, _, parts, rows, cols⟩, ?_, not_not.mp fits, named⟩, rfl⟩
              exact ⟨Nat.pos_of_ne_zero sized.1, Nat.pos_of_ne_zero sized.2⟩
      · cases accepted
    · cases accepted
  · rintro ⟨written, extent, header, rfl⟩
    obtain ⟨rows, cols, parts, readRows, readCols⟩ := header.parts
    have positive : ¬ (extent.rows = 0 ∨ extent.cols = 0) :=
      not_or.mpr ⟨Nat.ne_of_gt header.sized.1, Nat.ne_of_gt header.sized.2⟩
    simp only [parts, readRows, readCols, if_neg positive, not_not.mpr header.fits, if_false,
      if_neg header.named]
    rfl

/-- A cell is read from a quoted text, with an outcome behind it exactly if the text is a
formula. -/
theorem readCell_eq_ok_iff : readCell text = .ok c ↔ ∃ written behind,
    quoted? text = some (written, behind) ∧
      ((∃ outcome, readSuffix (trim behind) = .ok (some outcome) ∧
          (unescape written).head? = some '=' ∧
          c = Cell.formula (String.ofList (unescape written)) outcome) ∨
        (readSuffix (trim behind) = .ok none ∧ (unescape written).head? ≠ some '=' ∧
          c = ⟨String.ofList (unescape written), Cell.plainMeaning (unescape written)⟩)) := by
  unfold readCell
  constructor
  · intro accepted
    split at accepted
    · rename_i written behind found
      obtain ⟨suffix, readBehind, accepted⟩ := bind_eq_ok_iff.mp accepted
      refine ⟨written, behind, found, ?_⟩
      split at accepted
      · rename_i marked
        obtain rfl := Except.ok.inj accepted
        exact .inl ⟨_, readBehind, (Cell.isSome_formulaBody?_iff _).mp marked, rfl⟩
      · cases accepted
      · cases accepted
      · rename_i plain
        obtain rfl := Except.ok.inj accepted
        have unmarked := Option.isNone_iff_eq_none.mp (Option.isSome_eq_false_iff.mp plain)
        exact .inr ⟨readBehind, (Cell.formulaBody?_eq_none_iff _).mp unmarked, rfl⟩
    · cases accepted
  · rintro ⟨written, behind, found, ⟨outcome, readBehind, marked, rfl⟩ | ⟨readBehind, plain, rfl⟩⟩
    · have isFormula := (Cell.isSome_formulaBody?_iff _).mpr marked
      rw [found]
      refine bind_eq_ok_iff.mpr ⟨_, readBehind, ?_⟩
      rw [isFormula]
      rfl
    · have noFormula := (Cell.formulaBody?_eq_none_iff _).mpr plain
      rw [found]
      refine bind_eq_ok_iff.mpr ⟨_, readBehind, ?_⟩
      rw [noFormula]
      rfl

theorem meansContent_of_readCell (accepted : readCell text = .ok c) : c.MeansContent := by
  obtain ⟨written, behind, _, ⟨outcome, _, marked, rfl⟩ | ⟨_, plain, rfl⟩⟩ :=
    readCell_eq_ok_iff.mp accepted
  · apply Cell.meansContent_formula
    rw [String.toList_ofList]
    exact marked
  · rw [← String.toList_ofList (l := unescape written)] at plain
    have means := Cell.meansContent_plain plain
    rw [String.toList_ofList] at means
    exact means

theorem readCellLine_eq_ok_iff : readCellLine s line = .ok t ↔ ∃ before behind a c,
    cut? ':' line = some (before, behind) ∧ Address.read? (trim before) = some a ∧
      s.grid.extent.Contains a ∧ readCell (trim behind) = .ok c ∧ t = s.put a c := by
  unfold readCellLine
  constructor
  · intro accepted
    split at accepted
    · rename_i before behind divided
      split at accepted
      · rename_i a address
        split at accepted
        · cases accepted
        · rename_i inside
          obtain ⟨c, content, accepted⟩ := bind_eq_ok_iff.mp accepted
          obtain rfl := Except.ok.inj accepted
          exact ⟨before, behind, a, c, divided, address, not_not.mp inside, content, rfl⟩
      · cases accepted
    · cases accepted
  · rintro ⟨before, behind, a, c, divided, address, inside, content, rfl⟩
    simp only [divided, address, not_not.mpr inside, if_false, content]
    rfl

/-! ## All lines -/

/-- The sheet is sound and has at least one row and one column. -/
structure Opened (s : Sheet) : Prop where
  sound : s.Sound
  sized : s.grid.extent.Sized

theorem opened_of_readHeader (accepted : readHeader line = .ok s) : Opened s := by
  obtain ⟨written, extent, header, rfl⟩ := readHeader_eq_ok_iff.mp accepted
  refine ⟨⟨?_, Grid.meansContent_empty _⟩, ?_⟩
  · rw [String.toList_ofList]
    exact header.named
  · exact header.sized.shrunk

theorem Opened.of_readCellLine (opened : Opened s) (accepted : readCellLine s line = .ok t) :
    Opened t := by
  obtain ⟨_, _, a, c, _, _, _, content, rfl⟩ := readCellLine_eq_ok_iff.mp accepted
  refine ⟨⟨opened.sound.named, opened.sound.cells.put a (meansContent_of_readCell content)⟩, ?_⟩
  exact (Grid.extent_put _ _ _).symm ▸ opened.sized

namespace Progress

variable {p q : Progress} {number : Nat}

/-- Every sheet read so far is sound and has at least one row and one column. -/
def Opened (p : Progress) : Prop :=
  ∀ s ∈ p.sheets, Snapshot.Opened s

theorem Opened.advance (opened : p.Opened) (accepted : p.advance number line = .ok q) :
    q.Opened := by
  unfold Progress.advance at accepted
  split at accepted
  · obtain rfl := Except.ok.inj accepted
    exact opened
  · split at accepted
    · obtain rfl := Except.ok.inj accepted
      exact opened
    · cases accepted
  · obtain ⟨s, header, accepted⟩ := bind_eq_ok_iff.mp accepted
    obtain rfl := Except.ok.inj accepted
    exact List.forall_mem_cons.mpr ⟨opened_of_readHeader header, opened⟩
  · split at accepted
    · cases accepted
    · obtain ⟨t, cell, accepted⟩ := bind_eq_ok_iff.mp accepted
      obtain rfl := Except.ok.inj accepted
      obtain ⟨first, earlier⟩ := List.forall_mem_cons.mp opened
      exact List.forall_mem_cons.mpr ⟨first.of_readCellLine cell, earlier⟩

theorem Opened.step {numbered : List Char × Nat} (opened : p.Opened)
    (accepted : p.step numbered = .ok q) : q.Opened := by
  unfold Progress.step at accepted
  cases advanced : p.advance numbered.2 (trim numbered.1) with
  | error cause =>
      rw [advanced] at accepted
      cases accepted
  | ok next =>
      rw [advanced] at accepted
      obtain rfl := Except.ok.inj accepted
      exact opened.advance advanced

/-- What holds of the sheets after one more line holds of them after all lines. -/
theorem Opened.foldlM {numbered : List (List Char × Nat)} (opened : p.Opened)
    (accepted : numbered.foldlM Progress.step p = .ok q) : q.Opened := by
  induction numbered generalizing p with
  | nil =>
      obtain rfl := Except.ok.inj accepted
      exact opened
  | cons first rest ih =>
      rw [List.foldlM_cons] at accepted
      obtain ⟨next, stepped, accepted⟩ := bind_eq_ok_iff.mp accepted
      exact ih (opened.step stepped) accepted

variable {w : Workbook}

/-- The workbook of some sheets has them all, and its evaluator is attached. -/
theorem ofSheets?_eq_some {sheets : List Sheet} {index : Nat}
    (found : Workbook.ofSheets? sheets index = some w) : w.sheets = sheets ∧
      w.sheets.head?.map (fun s => s.grid.extent) = some w.extent ∧ w.evaluating = true := by
  unfold Workbook.ofSheets? at found
  split at found
  · cases found
  · split at found
    · obtain rfl := Option.some.inj found
      exact ⟨rfl, rfl, rfl⟩
    · obtain rfl := Option.some.inj found
      exact ⟨rfl, rfl, rfl⟩

theorem ofSheets?_of_lt {sheets : List Sheet} {index : Nat} (known : index < sheets.length)
    (small : index < countLimit) :
    ∃ v, Workbook.ofSheets? sheets index = some v ∧ v.current = index := by
  cases sheets with
  | nil => cases known
  | cons first rest =>
      refine ⟨_, dif_pos ⟨known, small⟩, rfl⟩

theorem ofSheets_eq_ok_iff {sheets : List Sheet} {index : Nat} :
    finish.ofSheets sheets index = .ok w ↔ Workbook.ofSheets? sheets index = some w := by
  unfold finish.ofSheets
  cases Workbook.ofSheets? sheets index with
  | none => exact ⟨nofun, nofun⟩
  | some v =>
      exact ⟨fun done => congrArg some (Except.ok.inj done),
        fun done => congrArg Except.ok (Option.some.inj done)⟩

theorem length_pos_of_ofSheets? {sheets : List Sheet} {index : Nat}
    (found : Workbook.ofSheets? sheets index = some w) : 0 < sheets.length := by
  cases sheets with
  | nil => cases found
  | cons first rest => exact Nat.zero_lt_succ _

/-- The progress ends in a workbook if it has a sheet with the index that was given. -/
theorem finish_eq_ok_iff : p.finish = .ok w ↔
    (p.current.map Prod.fst).getD 0 < p.sheets.length ∧
      Workbook.ofSheets? p.sheets.reverse ((p.current.map Prod.fst).getD 0) = some w := by
  obtain ⟨sheets, current⟩ := p
  unfold finish
  cases current with
  | none =>
      refine ofSheets_eq_ok_iff.trans ⟨fun found => ⟨?_, found⟩, fun both => both.2⟩
      rw [← List.length_reverse]
      exact length_pos_of_ofSheets? found
  | some given =>
      obtain ⟨index, number⟩ := given
      simp only [List.length_reverse, List.reverse_eq_nil_iff]
      by_cases known : index < sheets.length
      · rw [if_pos (.inr known)]
        exact ofSheets_eq_ok_iff.trans ⟨fun found => ⟨known, found⟩, fun both => both.2⟩
      · refine ⟨fun done => ?_, fun both => absurd both.1 known⟩
        split at done
        · rename_i either
          obtain rfl := either.resolve_right known
          cases done
        · cases done

end Progress

/-- What is read as a snapshot is well formed, whatever the text. -/
theorem read_eq_ok {source : String} {w : Workbook} (accepted : read source = .ok w) :
    w.WellFormed ∧ w.Sized ∧ w.evaluating = true := by
  obtain ⟨progress, folded, finished⟩ := bind_eq_ok_iff.mp accepted
  have before : Progress.start.Opened := List.forall_mem_nil _
  have opened := before.foldlM folded
  have found := (Progress.finish_eq_ok_iff.mp finished).2
  obtain ⟨sheets, first, evaluating⟩ := Progress.ofSheets?_eq_some found
  have all (s : Sheet) (mem : s ∈ w.sheets) : Opened s :=
    opened s (List.mem_reverse.mp (sheets ▸ mem))
  exact ⟨⟨fun s mem => (all s mem).sound, first⟩, fun s mem => (all s mem).sized, evaluating⟩

end Snapshot

end Gridbook
