import Gridbook.Document
import Gridbook.Proofs.Text.Trimming
import Gridbook.Proofs.Workbook.Addition

/-!
# Sheets found by the names that they were given

A sheet keeps its name as it was given, and a name that is asked for is trimmed before it is
compared.  So a sheet answers to its own name exactly if there is nothing to trim, and one whose
name has white space at an end answers to no name at all.  Asked for by its own name, such a new
sheet is missed, unless an older one is found in its place.
-/

namespace Gridbook

open Text

/-! ## The names that a sheet answers to -/

namespace Sheet

variable {s : Sheet} {asked : String}

theorem answersTo_iff :
    s.answersTo asked = true ↔ lower s.name.toList = lower (trim asked.toList) :=
  beq_iff_eq

/-- Only a sheet whose name has no white space at its ends answers to any name. -/
theorem trim_name_of_answersTo (answers : s.answersTo asked = true) :
    trim s.name.toList = s.name.toList := by
  apply trim_eq_self_of_lower
  rw [answersTo_iff.mp answers, trim_lower, trim_trim]

theorem answersTo_name_iff : s.answersTo s.name = true ↔ trim s.name.toList = s.name.toList := by
  constructor
  · exact trim_name_of_answersTo
  · intro trimmed
    rw [answersTo_iff, trimmed]

theorem answersTo_eq_false (padded : trim s.name.toList ≠ s.name.toList) (asked : String) :
    s.answersTo asked = false :=
  Bool.eq_false_iff.mpr (mt trim_name_of_answersTo padded)

end Sheet

/-! ## The names that lead to a sheet -/

namespace Workbook

variable {w v : Workbook} {name : String} {index last : Nat}

/-- A name leads to a sheet: one is found, at an index that is at most the given one, and a document
with the workbook can switch to it. -/
structure Leads (w : Workbook) (name : String) (last : Nat) : Prop where
  found : ∃ index ≤ last, ∃ s, w.indexOf? name = some index ∧ w.sheets[index]? = some s ∧
    w.find? name = some s
  switched : ∀ d : Document, d.workbook = w → ∃ e index, d.switchTo name = .ok (e, index)

/-- A name leads nowhere: no sheet is found, and no document with the workbook can switch to it. -/
structure Misses (w : Workbook) (name : String) : Prop where
  index : w.indexOf? name = none
  found : w.find? name = none
  switched : ∀ d : Document, d.workbook = w →
    d.switchTo name = .error (.unknownSheet (String.ofList (trim name.toList)))

theorem leads_of_indexOf? (known : w.indexOf? name = some index) (bound : index ≤ last) :
    w.Leads name last where
  found := by
    obtain ⟨below, _⟩ := List.findIdx?_eq_some_iff_getElem.mp known
    have here := List.getElem?_eq_getElem below
    refine ⟨index, bound, _, known, here, ?_⟩
    rw [find?, List.find?_eq_bind_findIdx?_getElem?, ← indexOf?, known, Option.bind_some, here]
  switched := by
    rintro d rfl
    rw [Document.switchTo, known]
    exact ⟨_, _, rfl⟩

theorem misses_of_indexOf? (unknown : w.indexOf? name = none) : w.Misses name where
  index := unknown
  found := by
    rw [find?, List.find?_eq_bind_findIdx?_getElem?, ← indexOf?, unknown, Option.bind_none]
  switched := by
    rintro d rfl
    rw [Document.switchTo, unknown]

theorem Leads.not_misses (leads : w.Leads name last) : ¬ w.Misses name := by
  intro misses
  obtain ⟨index, _, s, known, _⟩ := leads.found
  cases misses.index.symm.trans known

/-- A name leads to a sheet if one of the sheets answers to it, and otherwise nowhere. -/
theorem leads_or_misses (w : Workbook) (name : String) :
    (w.Leads name (w.sheets.length - 1) ∧ ∃ s ∈ w.sheets, s.answersTo name = true) ∨
      (w.Misses name ∧ ∀ s ∈ w.sheets, s.answersTo name = false) := by
  cases known : w.indexOf? name with
  | none => exact .inr ⟨misses_of_indexOf? known, List.findIdx?_eq_none_iff.mp known⟩
  | some index =>
      obtain ⟨below, answers, _⟩ := List.findIdx?_eq_some_iff_getElem.mp known
      exact .inl ⟨leads_of_indexOf? known (Nat.le_sub_one_of_lt below), _,
        List.getElem_mem below, answers⟩

theorem leads_iff :
    w.Leads name (w.sheets.length - 1) ↔ ∃ s ∈ w.sheets, s.answersTo name = true := by
  rcases leads_or_misses w name with ⟨leads, answers⟩ | ⟨misses, silent⟩
  · exact ⟨fun _ => answers, fun _ => leads⟩
  · constructor
    · intro leads
      exact absurd misses leads.not_misses
    · rintro ⟨s, mem, answers⟩
      cases (silent s mem).symm.trans answers

theorem misses_of_not_leads (never : ¬ w.Leads name (w.sheets.length - 1)) : w.Misses name := by
  rcases leads_or_misses w name with ⟨leads, _⟩ | ⟨misses, _⟩
  · exact absurd leads never
  · exact misses

/-- The name of the first sheet is that of the layout unless it is blank. -/
theorem sheets_ofLayout {layout : Layout} (named : ¬ AllBlank layout.firstSheet.toList) :
    (ofLayout layout).sheets = [⟨layout.firstSheet, Grid.empty layout.extent⟩] := by
  simp only [ofLayout, if_neg named]

/-- After a sheet was added, its name leads to a sheet exactly if it has no white space at its ends
or an older sheet answers to it, and otherwise it leads nowhere.  The name that a layout gives to
the first sheet leads to that sheet exactly if it has no white space at its ends. -/
theorem leads_of_given_name (w v : Workbook) (name : String) (layout : Layout) :
    (w.addSheet? name = some v →
      (v.Leads name (v.sheets.length - 1) ↔
        trim name.toList = name.toList ∨ ∃ s ∈ w.sheets, s.answersTo name = true) ∧
      (¬ v.Leads name (v.sheets.length - 1) → v.Misses name)) ∧
    (¬ AllBlank layout.firstSheet.toList →
      ((ofLayout layout).Leads layout.firstSheet 0 ↔
        trim layout.firstSheet.toList = layout.firstSheet.toList) ∧
      (¬ (ofLayout layout).Leads layout.firstSheet 0 →
        (ofLayout layout).Misses layout.firstSheet)) := by
  constructor
  · intro done
    refine ⟨?_, misses_of_not_leads⟩
    rw [leads_iff, (addSheet?_eq_some_iff.mp done).sheets]
    simp only [List.mem_append, List.mem_singleton, or_and_right, exists_or, exists_eq_left]
    rw [Sheet.answersTo_name_iff, or_comm]
  · intro named
    have sheets := sheets_ofLayout named
    have only : (ofLayout layout).sheets.length - 1 = 0 := by rw [sheets]; rfl
    rw [← only]
    refine ⟨?_, misses_of_not_leads⟩
    rw [leads_iff, sheets]
    simp only [List.mem_singleton, exists_eq_left]
    rw [Sheet.answersTo_name_iff]

/-- A name with white space around it leads to an older sheet of that name in other letter case, and
the name of a layout leads to the first sheet. -/
theorem leads_of_given_name_of_older_sheet :
    let layout : Layout := ⟨"b", ⟨2, 2⟩⟩
    let w := ofLayout layout
    let sheets := w.sheets ++ [⟨" B ", Grid.empty ⟨2, 2⟩⟩]
    let v : Workbook := ⟨sheets, 0, ⟨2, 2⟩, true, by decide, by decide⟩
    w.addSheet? " B " = some v ∧ (∃ s ∈ w.sheets, s.answersTo " B " = true) ∧
      v.Leads " B " (v.sheets.length - 1) ∧ ¬ AllBlank layout.firstSheet.toList ∧
      w.Leads layout.firstSheet 0 := by
  intro layout w sheets v
  have done : w.addSheet? " B " = some v := rfl
  have named : ¬ AllBlank layout.firstSheet.toList := by decide
  have older : ∃ s ∈ w.sheets, s.answersTo " B " = true := by
    rw [show w.sheets = _ from sheets_ofLayout named]
    exact ⟨_, List.mem_singleton.mpr rfl, by decide +kernel⟩
  have leads := leads_of_given_name w v " B " layout
  exact ⟨done, older, (leads.1 done).1.mpr (.inr older), named, (leads.2 named).1.mpr (by decide)⟩

/-- A sheet that is added under a name with white space around it is not found by that name. -/
theorem misses_of_padded_name :
    ∃ v, (ofLayout Layout.standard).addSheet? " b " = some v ∧ v.Misses " b " :=
  ⟨_, rfl, misses_of_indexOf? (by decide +kernel)⟩

end Workbook

end Gridbook
