import Gridbook.Proofs.Workbook.Operations

/-!
# Adding sheets

A sheet that is added comes after all others and holds no number.  A name that was found before
finds the same sheet as before, also if the new sheet answers to it.  A name that was not found may
now find the new sheet, but to fold none of the numbers of a sheet without numbers is to fold none,
as where there is no sheet.  Adding sheets therefore changes nothing that could be read of a
workbook before.
-/

namespace Gridbook

open Text

/-! ## Sheets without numbers -/

/-- No cell of the sheet counts as a number. -/
def Sheet.Numberless (s : Sheet) : Prop :=
  ∀ a, s.grid.numericAt? a = none

theorem Sheet.numberless_empty (name : String) (e : Extent) :
    Sheet.Numberless ⟨name, Grid.empty e⟩ := by
  intro a
  by_cases inside : (Grid.empty e).extent.Contains a
  · rw [Grid.numericAt?, Grid.get?_empty inside]
    rfl
  · rw [Grid.numericAt?, ((Grid.empty e).get?_eq_none_iff a).mpr inside, Option.bind_none]

/-- The first sheet with some property, once a sheet was added, is the one before, or it is the new
one and there was none before. -/
theorem Sheet.find?_concat (p : Sheet → Bool) (sheets : List Sheet) (fresh : Sheet) :
    (sheets ++ [fresh]).find? p = sheets.find? p ∨
      sheets.find? p = none ∧ (sheets ++ [fresh]).find? p = some fresh := by
  rw [List.find?_append]
  cases sheets.find? p with
  | some s => exact .inl rfl
  | none =>
      rw [Option.none_or]
      cases answers : p fresh with
      | true => exact .inr ⟨rfl, List.find?_cons_of_pos answers⟩
      | false => exact .inl (List.find?_cons_of_neg (by simp [answers]))

namespace Formula

/-- A formula folds the same numbers once a sheet without numbers was added. -/
theorem numbers_concat {fresh : Sheet} (numberless : fresh.Numberless) (f : Formula)
    (current : Option Sheet) (sheets : List Sheet) :
    f.numbers ⟨current, sheets ++ [fresh]⟩ = f.numbers ⟨current, sheets⟩ := by
  obtain ⟨aggregate, operands⟩ := f
  cases operands with
  | cells points => rfl
  | malformed => rfl
  | range name first last =>
      have found := Sheet.find?_concat (fun s => Sheet.sameName s.name.toList name) sheets fresh
      unfold numbers operandAddresses? Scope.find?
      rcases found with same | ⟨missing, added⟩
      · simp only [same]
      · simp only [missing, added, Option.map_some, Option.map_none]
        -- the rectangle of the new sheet is walked, where nothing was walked before
        rw [List.filterMap_eq_nil_iff]
        exact fun a _ => numberless a

end Formula

namespace Workbook

variable {w v u : Workbook} {name asked : String} {index : Nat} {s : Sheet}

/-- Whatever could be read of a workbook is read of another one as well: the outcomes of formulas,
the sheets that names find and their indices, the numbers on named sheets, which sheet is current,
and all sheets. -/
structure Conserves (w v : Workbook) : Prop where
  evaluate : ∀ body, v.evaluate body = w.evaluate body
  found : ∀ asked s, w.find? asked = some s → v.find? asked = some s ∧
    ∃ index, w.indexOf? asked = some index ∧ v.indexOf? asked = some index ∧
      w.sheets[index]? = some s ∧ v.sheets[index]? = some s
  numberOn : ∀ asked a, v.numberOn asked a = w.numberOn asked a
  current : v.current = w.current
  sheets : ∀ (index : Nat) (s : Sheet), w.sheets[index]? = some s → v.sheets[index]? = some s

theorem exists_indexOf? (found : w.find? asked = some s) :
    ∃ index, w.indexOf? asked = some index ∧ w.sheets[index]? = some s := by
  rw [find?, List.find?_eq_bind_findIdx?_getElem?] at found
  exact Option.bind_eq_some_iff.mp found

namespace AddedTo

theorem names (done : w.AddedTo name v) :
    v.sheets.map Sheet.name = w.sheets.map Sheet.name ++ [name] := by
  rw [done.sheets, List.map_append, List.map_singleton]

theorem getElem?_eq_some (done : w.AddedTo name v) (known : w.sheets[index]? = some s) :
    v.sheets[index]? = some s := by
  rw [done.sheets, List.getElem?_append_left (List.getElem?_eq_some_iff.mp known).1, known]

theorem currentSheet_eq (done : w.AddedTo name v) : v.currentSheet = w.currentSheet := by
  have here := done.getElem?_eq_some w.getElem?_current
  rw [← done.current, v.getElem?_current] at here
  exact Option.some.inj here

theorem evaluate_eq (done : w.AddedTo name v) (body : List Char) :
    v.evaluate body = w.evaluate body := by
  rw [Workbook.evaluate, Workbook.evaluate, done.evaluating, scope, scope, done.currentSheet_eq,
    done.sheets, Formula.evaluate, Formula.evaluate]
  cases Formula.parse body with
  | error fault => rfl
  | ok f =>
      dsimp only
      rw [Formula.value, Formula.value,
        Formula.numbers_concat (Sheet.numberless_empty name w.extent)]

theorem find?_eq_some (done : w.AddedTo name v) (found : w.find? asked = some s) :
    v.find? asked = some s := by
  rw [find?, done.sheets, List.find?_append, ← find?, found, Option.some_or]

theorem indexOf?_eq_some (done : w.AddedTo name v) (found : w.indexOf? asked = some index) :
    v.indexOf? asked = some index := by
  rw [indexOf?, done.sheets, List.findIdx?_append, ← indexOf?, found, Option.some_or]

theorem numberOn_eq (done : w.AddedTo name v) (asked : String) (a : Address) :
    v.numberOn asked a = w.numberOn asked a := by
  have found := Sheet.find?_concat (·.answersTo asked) w.sheets ⟨name, Grid.empty w.extent⟩
  rw [← done.sheets] at found
  rw [numberOn, numberOn]
  rcases found with same | ⟨missing, added⟩
  · rw [find?, same, find?]
  · rw [find?, added, find?, missing, Option.bind_some, Option.bind_none,
      Sheet.numberless_empty name w.extent a]

theorem conserves (done : w.AddedTo name v) : w.Conserves v where
  evaluate := done.evaluate_eq
  found asked s found := by
    obtain ⟨index, known, here⟩ := exists_indexOf? found
    exact ⟨done.find?_eq_some found, index, known, done.indexOf?_eq_some known, here,
      done.getElem?_eq_some here⟩
  numberOn := done.numberOn_eq
  current := done.current
  sheets _ _ := done.getElem?_eq_some

end AddedTo

/-- Adding a sheet puts a name behind those of the other sheets and conserves the workbook, whether
or not it is the name of another sheet, or one that a formula mentions. -/
theorem conserves_of_addSheet? (done : w.addSheet? name = some v) :
    v.sheets.map Sheet.name = w.sheets.map Sheet.name ++ [name] ∧ w.Conserves v := by
  have added := addSheet?_eq_some_iff.mp done
  exact ⟨added.names, added.conserves⟩

/-- The name of the new sheet, in other letter case, was not found before. -/
theorem conserves_of_addSheet?_of_missing_name :
    let w := ofLayout ⟨"a", ⟨2, 2⟩⟩
    let sheets := w.sheets ++ [⟨"B", Grid.empty ⟨2, 2⟩⟩]
    let v : Workbook := ⟨sheets, 0, ⟨2, 2⟩, true, by decide, by decide⟩
    w.addSheet? "B" = some v ∧ w.find? "b" = none ∧ (v.find? "b").isSome = true ∧
      v.sheets.map Sheet.name = w.sheets.map Sheet.name ++ ["B"] ∧ w.Conserves v := by
  intro w sheets v
  have done : w.addSheet? "B" = some v := rfl
  exact ⟨done, by rfl, by rfl, conserves_of_addSheet? done⟩

namespace Conserves

theorem refl (w : Workbook) : w.Conserves w where
  evaluate _ := rfl
  found asked s found := by
    obtain ⟨index, known, here⟩ := exists_indexOf? found
    exact ⟨found, index, known, known, here, here⟩
  numberOn _ _ := rfl
  current := rfl
  sheets _ _ known := known

theorem trans (first : w.Conserves v) (second : v.Conserves u) : w.Conserves u where
  evaluate body := (second.evaluate body).trans (first.evaluate body)
  found asked s found := by
    obtain ⟨found, index, known, moved, here, there⟩ := first.found asked s found
    obtain ⟨found, other, known', moved', here', there'⟩ := second.found asked s found
    obtain rfl := Option.some.inj (moved.symm.trans known')
    exact ⟨found, index, known, moved', here, there'⟩
  numberOn asked a := (second.numberOn asked a).trans (first.numberOn asked a)
  current := second.current.trans first.current
  sheets index s known := second.sheets index s (first.sheets index s known)

end Conserves

/-- However many sheets are added, the workbook is conserved. -/
theorem conserves_of_foldlM_addSheet? {names : List String}
    (done : names.foldlM addSheet? w = some v) : w.Conserves v := by
  induction names generalizing w with
  | nil =>
      obtain rfl := Option.some.inj done
      exact .refl w
  | cons name names ih =>
      rw [List.foldlM_cons] at done
      obtain ⟨u, here, later⟩ := Option.bind_eq_some_iff.mp done
      exact (addSheet?_eq_some_iff.mp here).conserves.trans (ih later)

end Workbook

end Gridbook
