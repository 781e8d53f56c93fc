import Gridbook.Document
import Gridbook.Proofs.Snapshot.RoundTrip
import Gridbook.Settings.Loading

/-!
# Layouts from settings

Whatever a settings file says, and whether or not there is one, the layout that is loaded can be
used: its document has one sheet with the name and the extent of the layout, and its snapshot is
read back.  A setting is never left aside without a warning, and without a warning every setting
that is given is the one of the layout and every other one is the standard one.
-/

namespace Gridbook

open Text

/-! ## Usable layouts -/

/-- There is a row and a column, not too many cells, and a name. -/
structure Layout.Usable (l : Layout) : Prop where
  rows : 1 ≤ l.extent.rows
  cols : 1 ≤ l.extent.cols
  cells : l.extent.rows * l.extent.cols ≤ maxCells
  named : ¬ AllBlank l.firstSheet.toList

namespace Layout

variable {l : Layout}

theorem usable_standard : standard.Usable := by
  constructor <;> decide

/-- The document of a usable layout has one sheet, with the name and the extent of the layout. -/
theorem Usable.exists_sheet (usable : l.Usable) :
    ∃ sheet, (Document.ofLayout l).workbook.sheets = [sheet] ∧ sheet.name = l.firstSheet ∧
      sheet.grid.extent = l.extent :=
  ⟨_, rfl, if_neg usable.named, Extent.shrunk_of_fits usable.cells⟩

/-- The snapshot of the document of a usable layout is read as a workbook that looks the same. -/
theorem Usable.exists_read (usable : l.Usable) :
    ∃ w, Snapshot.read (Document.ofLayout l).snapshot = .ok w ∧
      w.view = (Document.ofLayout l).workbook.view :=
  Snapshot.exists_read_write (Workbook.wellFormed_ofLayout l)
    (Workbook.sized_ofLayout ⟨usable.rows, usable.cols⟩)

end Layout

namespace Settings

variable {s : Settings}

/-! ## What the layout takes over -/

/-- Every setting that is given is the one of the layout, and every other one is the standard
one. -/
structure TakenOver (s : Settings) (l : Layout) : Prop where
  rows : l.extent.rows = s.rows.getD Extent.standard.rows
  cols : l.extent.cols = s.cols.getD Extent.standard.cols
  firstSheet : l.firstSheet = s.firstSheet.getD Layout.standard.firstSheet

/-- Some setting that is given is not the one of the layout. -/
def LeftAside (s : Settings) (l : Layout) : Prop :=
  (∃ rows, s.rows = some rows ∧ l.extent.rows ≠ rows) ∨
    (∃ cols, s.cols = some cols ∧ l.extent.cols ≠ cols) ∨
    ∃ name, s.firstSheet = some name ∧ l.firstSheet ≠ name

/-- A value is the given one, or else the standard one, exactly if no other one is given. -/
theorem eq_getD_iff {α : Type} {given : Option α} {value standard : α}
    (absent : given = none → value = standard) :
    value = given.getD standard ↔ ¬ ∃ other, given = some other ∧ value ≠ other := by
  cases given with
  | none => exact iff_of_true (absent rfl) nofun
  | some other => simp

/-! ## Dimensions -/

section Dimension

variable {given : Option Nat} {standard : Nat} {warning : Warning}

theorem dimension_pos (positive : 1 ≤ standard) : 1 ≤ (dimension given standard warning).1 := by
  unfold dimension
  split
  · exact positive
  · exact positive
  · exact Nat.pos_of_ne_zero ‹_›

/-- Any dimension but zero is taken over without a warning. -/
theorem dimension_of_ne_zero (other : given.getD standard ≠ 0) (warning : Warning) :
    dimension given standard warning = (given.getD standard, []) := by
  unfold dimension
  split
  · rfl
  · exact absurd rfl other
  · rfl

theorem dimension_of_no_warning (quiet : (dimension given standard warning).2 = []) :
    (dimension given standard warning).1 = given.getD standard := by
  unfold dimension at quiet ⊢
  split at quiet
  · rfl
  · cases quiet
  · rfl

end Dimension

/-! ## Extents -/

/-- The extent that is asked for, zero dimensions apart. -/
def asked (s : Settings) : Extent :=
  ⟨(dimension s.rows Extent.standard.rows .noRows).1,
    (dimension s.cols Extent.standard.cols .noCols).1⟩

/-- The warnings about dimensions that are zero. -/
def zeroWarnings (s : Settings) : List Warning :=
  (dimension s.rows Extent.standard.rows .noRows).2 ++
    (dimension s.cols Extent.standard.cols .noCols).2

theorem extent_of_fits (fits : s.asked.Fits) : s.extent = (s.asked, s.zeroWarnings) :=
  if_pos fits

theorem extent_of_not_fits (large : ¬ s.asked.Fits) :
    s.extent = (Extent.standard, s.zeroWarnings ++ [.tooManyCells s.asked]) :=
  if_neg large

/-- The extent is the one that is asked for, if it fits, or else the standard one. -/
theorem extent_cases (s : Settings) :
    s.asked.Fits ∧ s.extent.1 = s.asked ∨ s.extent.1 = Extent.standard := by
  by_cases fits : s.asked.Fits
  · exact .inl ⟨fits, congrArg Prod.fst (extent_of_fits fits)⟩
  · exact .inr (congrArg Prod.fst (extent_of_not_fits fits))

theorem sized_extent (s : Settings) : s.extent.1.Sized := by
  rcases s.extent_cases with ⟨_, same⟩ | same
  · rw [same]
    exact ⟨dimension_pos (by decide), dimension_pos (by decide)⟩
  · rw [same]
    exact ⟨Layout.usable_standard.rows, Layout.usable_standard.cols⟩

theorem fits_extent (s : Settings) : s.extent.1.Fits := by
  rcases s.extent_cases with ⟨fits, same⟩ | same
  · exact same ▸ fits
  · exact same ▸ Layout.usable_standard.cells

theorem rows_extent_of_absent (absent : s.rows = none) :
    s.extent.1.rows = Extent.standard.rows := by
  rcases s.extent_cases with ⟨_, same⟩ | same
  · rw [same, asked, absent]
    rfl
  · rw [same]

theorem cols_extent_of_absent (absent : s.cols = none) :
    s.extent.1.cols = Extent.standard.cols := by
  rcases s.extent_cases with ⟨_, same⟩ | same
  · rw [same, asked, absent]
    rfl
  · rw [same]

/-- There is no warning about the extent exactly if both dimensions that are given are taken
over. -/
theorem extent_warnings_iff : s.extent.2 = [] ↔
    s.extent.1 = ⟨s.rows.getD Extent.standard.rows, s.cols.getD Extent.standard.cols⟩ := by
  constructor
  · intro quiet
    by_cases fits : s.asked.Fits
    · rw [extent_of_fits fits] at quiet ⊢
      obtain ⟨rows, cols⟩ := List.append_eq_nil_iff.mp quiet
      rw [asked, dimension_of_no_warning rows, dimension_of_no_warning cols]
    · rw [extent_of_not_fits fits] at quiet
      cases (List.append_eq_nil_iff.mp quiet).2
  · intro taken
    -- What is taken over is neither zero nor too large, since the extent never is.
    have sized := s.sized_extent
    have fits := s.fits_extent
    rw [taken] at sized fits
    have rows := dimension_of_ne_zero (Nat.ne_of_gt sized.1) .noRows
    have cols := dimension_of_ne_zero (Nat.ne_of_gt sized.2) .noCols
    have same : s.asked = ⟨s.rows.getD Extent.standard.rows, s.cols.getD Extent.standard.cols⟩ := by
      rw [asked, rows, cols]
    rw [extent_of_fits (same ▸ fits), zeroWarnings, rows, cols]
    rfl

/-! ## Names -/

section FirstName

variable {name : String}

theorem firstName_of_absent (absent : s.firstSheet = none) :
    s.firstName = (Layout.standard.firstSheet, []) := by
  rw [firstName, absent]

theorem firstName_of_blank (given : s.firstSheet = some name) (blank : AllBlank name.toList) :
    s.firstName = (Layout.standard.firstSheet, [.blankFirstSheet]) := by
  rw [firstName, given]
  exact if_pos blank

theorem firstName_of_named (given : s.firstSheet = some name) (named : ¬ AllBlank name.toList) :
    s.firstName = (name, []) := by
  rw [firstName, given]
  exact if_neg named

end FirstName

theorem named_firstName (s : Settings) : ¬ AllBlank s.firstName.1.toList := by
  cases given : s.firstSheet with
  | none =>
      rw [firstName_of_absent given]
      exact Layout.usable_standard.named
  | some name =>
      by_cases blank : AllBlank name.toList
      · rw [firstName_of_blank given blank]
        exact Layout.usable_standard.named
      · rw [firstName_of_named given blank]
        exact blank

/-- There is no warning about the name exactly if a name that is given is taken over. -/
theorem firstName_warnings_iff :
    s.firstName.2 = [] ↔ s.firstName.1 = s.firstSheet.getD Layout.standard.firstSheet := by
  cases given : s.firstSheet with
  | none =>
      rw [firstName_of_absent given]
      exact iff_of_true rfl rfl
  | some name =>
      by_cases blank : AllBlank name.toList
      · rw [firstName_of_blank given blank]
        refine iff_of_false nofun ?_
        rintro rfl
        exact Layout.usable_standard.named blank
      · rw [firstName_of_named given blank]
        exact iff_of_true rfl rfl

/-! ## Layouts -/

theorem usable_layout (s : Settings) : s.layout.1.Usable where
  rows := s.sized_extent.1
  cols := s.sized_extent.2
  cells := s.fits_extent
  named := s.named_firstName

/-- There is no warning about settings exactly if they are all taken over. -/
theorem layout_warnings_iff : s.layout.2 = [] ↔ s.TakenOver s.layout.1 := by
  have both : s.layout.2 = [] ↔ s.extent.2 = [] ∧ s.firstName.2 = [] := List.append_eq_nil_iff
  rw [both, extent_warnings_iff, firstName_warnings_iff, Extent.mk.injEq]
  constructor
  · rintro ⟨⟨rows, cols⟩, name⟩
    exact ⟨rows, cols, name⟩
  · rintro ⟨rows, cols, name⟩
    exact ⟨⟨rows, cols⟩, name⟩

/-- Settings are all taken over or some of them is left aside. -/
theorem takenOver_layout_iff : s.TakenOver s.layout.1 ↔ ¬ s.LeftAside s.layout.1 := by
  have rows : s.layout.1.extent.rows = s.rows.getD Extent.standard.rows ↔ _ :=
    eq_getD_iff rows_extent_of_absent
  have cols : s.layout.1.extent.cols = s.cols.getD Extent.standard.cols ↔ _ :=
    eq_getD_iff cols_extent_of_absent
  have name : s.layout.1.firstSheet = s.firstSheet.getD Layout.standard.firstSheet ↔ _ :=
    eq_getD_iff fun absent => congrArg Prod.fst (firstName_of_absent absent)
  rw [LeftAside, not_or, not_or]
  constructor
  · intro taken
    exact ⟨rows.mp taken.rows, cols.mp taken.cols, name.mp taken.firstSheet⟩
  · rintro ⟨sameRows, sameCols, sameName⟩
    exact ⟨rows.mpr sameRows, cols.mpr sameCols, name.mpr sameName⟩

/-! ## Loading -/

variable {read : String → Option Settings} {path content : String} {files : Files}

/-- Loading settings reads at most one file and changes none. -/
theorem loadWith_run (read : String → Option Settings) (asked own : Option String)
    (files : Files) :
    (loadWith read asked own : StateM Files (Layout × List Warning)).run files =
      (match asked.or own with
        | none => (Layout.standard, [])
        | some path =>
            if files.isPresent path then
              match files.read? path with
              | some content => fromContent read path content
              | none => (Layout.standard, [.notRead path])
            else (Layout.standard, if asked.isSome then [.notFound path] else []), files) := by
  unfold loadWith
  cases asked.or own with
  | none => rfl
  | some path =>
      have present : (FileAccess.isPresent path : StateM Files Bool).run files =
        pure (files.isPresent path, files) := rfl
      have source : (FileAccess.readText path : StateM Files (Option String)).run files =
        pure (files.read? path, files) := rfl
      simp only [StateT.run_bind, present, pure_bind]
      cases files.isPresent path with
      | false => rfl
      | true =>
          simp only [if_true, StateT.run_bind, source, pure_bind]
          cases files.read? path <;> rfl

/-- Whatever is loaded, the layout is usable. -/
theorem usable_loadWith (read : String → Option Settings) (asked own : Option String)
    (files : Files) :
    ((loadWith read asked own : StateM Files (Layout × List Warning)).run files).1.1.Usable := by
  rw [loadWith_run]
  cases asked.or own with
  | none => exact Layout.usable_standard
  | some path =>
      dsimp only
      split
      · cases files.read? path with
        | none => exact Layout.usable_standard
        | some content =>
            dsimp only
            rw [fromContent]
            cases read content with
            | none => exact Layout.usable_standard
            | some s => exact s.usable_layout
      · exact Layout.usable_standard

/-- A path that leads to a text leads somewhere. -/
theorem isPresent_of_read? (found : files.read? path = some content) :
    files.isPresent path = true := by
  obtain ⟨file, known, _⟩ := Option.bind_eq_some_iff.mp found
  obtain ⟨place, located, stored⟩ := Option.bind_eq_some_iff.mp known
  rw [Files.isPresent, located]
  dsimp only
  rw [stored, Option.isSome_some, Bool.or_true]

/-- A settings file that is asked for is read and gives the layout, or there is a warning and the
standard layout. -/
theorem loadWith_asked (read : String → Option Settings) (path : String) (own : Option String)
    (files : Files) :
    ∃ loaded, (loadWith read (some path) own : StateM Files (Layout × List Warning)).run files =
        (loaded, files) ∧
      ((∃ content s, files.read? path = some content ∧ read content = some s ∧
          loaded = s.layout) ∨
        (∀ content s, files.read? path = some content → read content ≠ some s) ∧
          ∃ warning, loaded = (Layout.standard, [warning])) := by
  rw [loadWith_run, Option.some_or]
  dsimp only
  cases found : files.read? path with
  | none =>
      refine ⟨_, rfl, .inr ⟨nofun, ?_⟩⟩
      cases files.isPresent path with
      | false => exact ⟨.notFound path, rfl⟩
      | true => exact ⟨.notRead path, rfl⟩
  | some content =>
      rw [if_pos (isPresent_of_read? found)]
      refine ⟨_, rfl, ?_⟩
      dsimp only
      cases given : read content with
      | none =>
          refine .inr ⟨?_, .notParsed path, by rw [fromContent, given]⟩
          rintro _ s ⟨⟩ same
          cases given.symm.trans same
      | some s => exact .inl ⟨content, s, rfl, given, by rw [fromContent, given]⟩

/-- However settings files are read, whatever is at the path that is asked for and whatever its
settings are, the layout that is loaded is usable.  There is no warning exactly if the file is read
and all its settings are taken over, and if it is read there is a warning exactly if one of its
settings is left aside. -/
theorem usable_of_load (read : String → Option Settings) (path : String) (own : Option String)
    (files : Files) :
    ∃ layout warnings,
      (loadWith read (some path) own : StateM Files (Layout × List Warning)).run files =
        ((layout, warnings), files) ∧
      layout.Usable ∧
      (∃ sheet, (Document.ofLayout layout).workbook.sheets = [sheet] ∧
        sheet.name = layout.firstSheet ∧ sheet.grid.extent = layout.extent) ∧
      (∃ w, Snapshot.read (Document.ofLayout layout).snapshot = .ok w ∧
        w.view = (Document.ofLayout layout).workbook.view) ∧
      (warnings = [] ↔ ∃ content s, files.read? path = some content ∧ read content = some s ∧
        s.TakenOver layout) ∧
      ∀ content s, files.read? path = some content → read content = some s →
        (warnings ≠ [] ↔ s.LeftAside layout) := by
  obtain ⟨loaded, run, outcome⟩ := loadWith_asked read path own files
  have usable : loaded.1.Usable := by
    have always := usable_loadWith read (some path) own files
    rwa [run] at always
  refine ⟨loaded.1, loaded.2, run, usable, usable.exists_sheet, usable.exists_read, ?_, ?_⟩
  · rcases outcome with ⟨content, s, found, given, rfl⟩ | ⟨unread, _, rfl⟩
    · rw [layout_warnings_iff]
      constructor
      · exact fun taken => ⟨content, s, found, given, taken⟩
      · rintro ⟨_, _, known, told, taken⟩
        obtain rfl := Option.some.inj (found.symm.trans known)
        obtain rfl := Option.some.inj (given.symm.trans told)
        exact taken
    · refine iff_of_false nofun ?_
      rintro ⟨content, s, found, given, _⟩
      exact unread content s found given
  · intro content s known told
    rcases outcome with ⟨_, _, found, given, rfl⟩ | ⟨unread, _⟩
    · obtain rfl := Option.some.inj (found.symm.trans known)
      obtain rfl := Option.some.inj (given.symm.trans told)
      rw [ne_eq, layout_warnings_iff, takenOver_layout_iff, Classical.not_not]
    · exact absurd told (unread content s known)

end Settings

end Gridbook
