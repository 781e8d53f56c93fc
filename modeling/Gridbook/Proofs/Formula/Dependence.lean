import Gridbook.Proofs.Formula.Agreement
import Gridbook.Proofs.Formula.PointLists

/-!
# What a formula depends on

A formula reads nothing of a workbook but the numbers of its operands.  The operands of a list are
the cells at its points on the current sheet, those of a range are the cells between its corners on
the first sheet that answers to its name.  Two workbooks whose sheets have the same names and
extents and whose cells have the same numbers there therefore give a formula the same outcome: what
else their cells hold, how those numbers came about, and where the formula is written does not
count, nor does it count for a range which sheet is current.
-/

namespace Gridbook

open Text

namespace Formula

/-! ## The addresses of operands -/

/-- The addresses that operands name, on whichever sheet they are. -/
inductive Operands.Names : Operands → Address → Prop where
  | point {points : List Point} {p : Point} {a : Address} (listed : p ∈ points)
      (row : p.row.toInt = a.row + 1) (col : p.col.toInt = a.col + 1) : Names (.cells points) a
  | between {sheet : List Char} {first last : Point} {a : Address}
      (between : Point.Between first last a) : Names (.range sheet first last) a

/-- The addresses that operands come to on a sheet of some extent. -/
def Operands.addresses (e : Extent) : Operands → List Address
  | .cells points => points.filterMap Point.address?
  | .range _ first last => e.rectangle first last
  | .malformed => []

variable {s rest arguments body : List Char} {n : Int64} {p : Point}
  {a : Address} {e : Extent} {o : Operands} {f : Formula}

/-- A point has the address that counts from zero what the point counts from one. -/
theorem address?_eq_some_iff :
    p.address? = some a ↔ p.row.toInt = a.row + 1 ∧ p.col.toInt = a.col + 1 :=
  Address.ofCoordinates?_eq_some_iff

/-! ## The corners of a range that was read -/

theorem nonneg_of_lastCoordinate? (read : lastCoordinate? s = some (n, rest)) : 0 ≤ n.toInt := by
  obtain ⟨coordinate, found, same⟩ := Option.map_eq_some_iff.mp read
  obtain ⟨rfl, _⟩ := Prod.mk.inj same
  have digits : ∀ c ∈ (s.takeWhile Char.isDigit).reverse.head?, c.isDigit = true := by
    intro c mem
    have listed := List.mem_reverse.mp (List.mem_of_mem_head? mem)
    exact List.all_eq_true.mp List.all_takeWhile c listed
  rw [coordinate?_of_unsigned digits] at found
  obtain ⟨size, _, bounded⟩ := Option.bind_eq_some_iff.mp found
  split at bounded
  case isFalse => cases bounded
  case isTrue below =>
    obtain rfl := Option.some.inj bounded
    rw [Int64.toInt_ofNat_of_lt (coordinateLimit_eq ▸ below)]
    exact Int.natCast_nonneg size

theorem unsigned_of_lastPoint? (read : lastPoint? s = some (p, rest)) : p.Unsigned := by
  obtain ⟨closed, _, read⟩ := Option.bind_eq_some_iff.mp read
  obtain ⟨⟨col, before⟩, readCol, read⟩ := Option.bind_eq_some_iff.mp read
  obtain ⟨divided, _, read⟩ := Option.bind_eq_some_iff.mp read
  obtain ⟨⟨row, opened⟩, readRow, read⟩ := Option.bind_eq_some_iff.mp read
  obtain ⟨named, _, same⟩ := Option.bind_eq_some_iff.mp read
  obtain ⟨rfl, _⟩ := Prod.mk.inj (Option.some.inj same)
  exact ⟨nonneg_of_lastCoordinate? readRow, nonneg_of_lastCoordinate? readCol⟩

/-- Corners are written without signs. -/
def Operands.Cornered : Operands → Prop
  | .range _ first last => first.Unsigned ∧ last.Unsigned
  | _ => True

theorem cornered_of_range? (read : range? arguments = some o) : o.Cornered := by
  obtain ⟨⟨last, before⟩, readLast, read⟩ := Option.bind_eq_some_iff.mp read
  obtain ⟨⟨first, named⟩, readFirst, read⟩ := Option.bind_eq_some_iff.mp read
  dsimp only at read
  split at read
  · cases read
  · obtain rfl := Option.some.inj read
    exact ⟨unsigned_of_lastPoint? readFirst, unsigned_of_lastPoint? readLast⟩

theorem cornered_ofArguments (arguments : List Char) :
    (Operands.ofArguments arguments).Cornered := by
  unfold Operands.ofArguments
  cases points? arguments with
  | some points => trivial
  | none =>
      cases read : range? arguments with
      | none => trivial
      | some o => exact cornered_of_range? read

theorem cornered_of_parse (read : parse body = .ok f) : f.operands.Cornered := by
  obtain ⟨⟨aggregate, inner⟩, _, rfl⟩ := Option.map_eq_some_iff.mp (parse_eq_ok_iff.mp read)
  dsimp only
  cases beforeLast? ')' inner with
  | none => trivial
  | some arguments => exact cornered_ofArguments arguments

/-- Of the addresses of a sheet, operands come to those that they name. -/
theorem mem_addresses_iff (cornered : o.Cornered) (sized : e.Sized) (fits : e.Fits)
    (inside : e.Contains a) : a ∈ o.addresses e ↔ o.Names a := by
  constructor
  · intro mem
    cases o with
    | cells points =>
        obtain ⟨p, listed, found⟩ := List.mem_filterMap.mp mem
        obtain ⟨row, col⟩ := address?_eq_some_iff.mp found
        exact .point listed row col
    | range name first last =>
        rw [Operands.addresses, Extent.rectangle_eq_filter sized fits cornered.1 cornered.2] at mem
        exact .between (of_decide_eq_true (List.mem_filter.mp mem).2)
    | malformed => cases mem
  · intro named
    cases named with
    | point listed row col =>
        exact List.mem_filterMap.mpr ⟨_, listed, address?_eq_some_iff.mpr ⟨row, col⟩⟩
    | between between =>
        rw [Operands.addresses, Extent.rectangle_eq_filter sized fits cornered.1 cornered.2]
        exact List.mem_filter.mpr ⟨Extent.mem_addresses.mpr inside, decide_eq_true between⟩

end Formula

/-! ## Workbooks that agree on operands -/

namespace Workbook

open Formula

/-- The sheets of two workbooks have the same names and extents, and both workbooks evaluate
formulas or neither does. -/
structure SameShape (w v : Workbook) : Prop where
  names : w.sheets.map Sheet.name = v.sheets.map Sheet.name
  extents : w.sheets.map (fun s => s.grid.extent) = v.sheets.map fun s => s.grid.extent
  evaluating : w.evaluating = v.evaluating

/-- The index of the sheet that operands are on. -/
def operandIndex? (w : Workbook) : Operands → Option Nat
  | .cells _ => some w.current
  | .range name _ _ => w.indexOf? (String.ofList name)
  | .malformed => none

/-- Wherever operands name a cell of their sheet, it counts as the same number in two workbooks, or
as none in both. -/
def AgreeOn (w v : Workbook) (o : Operands) : Prop :=
  ∀ (index : Nat) (a : Address) (c d : Cell), w.operandIndex? o = some index → o.Names a →
    w.cellAt? index a = some c → v.cellAt? index a = some d → c.numeric? = d.numeric?

variable {w v : Workbook} {body : List Char} {f : Formula} {o : Operands} {index : Nat}
  {s t : Sheet}

/-- The first sheet that answers to a name in a formula has the index that the name finds. -/
theorem scope_find?_eq (w : Workbook) (name : List Char) :
    w.scope.find? name = (w.indexOf? (String.ofList name)).bind (w.sheets[·]?) := by
  have same : (fun sheet : Sheet => sheet.answersTo (String.ofList name)) =
      fun sheet => Sheet.sameName sheet.name.toList name := by
    funext sheet
    rw [Sheet.answersTo, String.toList_ofList]
  rw [indexOf?, same]
  exact List.find?_eq_bind_findIdx?_getElem?

theorem operandAddresses?_eq (w : Workbook) (f : Formula) :
    f.operandAddresses? w.scope = ((w.operandIndex? f.operands).bind (w.sheets[·]?)).map
      fun s => (s, f.operands.addresses s.grid.extent) := by
  obtain ⟨aggregate, operands⟩ := f
  cases operands with
  | cells points =>
      rw [operandIndex?, Option.bind_some, w.getElem?_current]
      rfl
  | range name first last =>
      rw [operandIndex?, ← w.scope_find?_eq]
      rfl
  | malformed => rfl

namespace SameShape

theorem indexOf?_eq (shape : w.SameShape v) (name : String) :
    w.indexOf? name = v.indexOf? name := by
  have found (w : Workbook) : w.indexOf? name =
      (w.sheets.map Sheet.name).findIdx? fun own => Sheet.sameName own.toList name.toList := by
    rw [List.findIdx?_map]
    rfl
  rw [found, found, shape.names]

theorem operandIndex?_eq (shape : w.SameShape v)
    (current : ∀ points, o = .cells points → w.current = v.current) :
    w.operandIndex? o = v.operandIndex? o := by
  cases o with
  | cells points => exact congrArg some (current points rfl)
  | range name first last => exact shape.indexOf?_eq _
  | malformed => rfl

theorem extent_eq (shape : w.SameShape v) (here : w.sheets[index]? = some s)
    (there : v.sheets[index]? = some t) : s.grid.extent = t.grid.extent := by
  have same := congrArg (·[index]?) shape.extents
  simpa only [List.getElem?_map, here, there, Option.map_some, Option.some.injEq] using same

theorem getElem?_eq_none_iff (shape : w.SameShape v) :
    w.sheets[index]? = none ↔ v.sheets[index]? = none := by
  have same := congrArg List.length shape.extents
  simp only [List.length_map] at same
  rw [List.getElem?_eq_none_iff, List.getElem?_eq_none_iff, same]

end SameShape

/-- What operands come to on their sheet counts as the same numbers in workbooks that agree. -/
theorem AgreeOn.filterMap_eq (agree : w.AgreeOn v o) (cornered : o.Cornered)
    (asked : w.operandIndex? o = some index) (here : w.sheets[index]? = some s)
    (there : v.sheets[index]? = some t) (extent : s.grid.extent = t.grid.extent)
    (sized : s.grid.extent.Sized) :
    (o.addresses s.grid.extent).filterMap s.grid.numericAt? =
      (o.addresses t.grid.extent).filterMap t.grid.numericAt? := by
  rw [← extent]
  apply List.filterMap_congr
  intro a mem
  rw [Grid.numericAt?, Grid.numericAt?]
  by_cases inside : s.grid.extent.Contains a
  · have named := (mem_addresses_iff cornered sized s.grid.fits inside).mp mem
    have own := Grid.get?_of_contains inside
    have other := Grid.get?_of_contains (extent ▸ inside)
    rw [own, other, Option.bind_some, Option.bind_some]
    apply agree index a _ _ asked named
    · rw [cellAt?, here, Option.bind_some, own]
    · rw [cellAt?, there, Option.bind_some, other]
  · rw [(s.grid.get?_eq_none_iff a).mpr inside, (t.grid.get?_eq_none_iff a).mpr (extent ▸ inside)]

/-- A formula folds the same numbers in workbooks that agree on its operands. -/
theorem SameShape.numbers_eq (shape : w.SameShape v) (sized : w.Sized)
    (cornered : f.operands.Cornered)
    (current : ∀ points, f.operands = .cells points → w.current = v.current)
    (agree : w.AgreeOn v f.operands) : f.numbers w.scope = f.numbers v.scope := by
  rw [numbers, numbers, operandAddresses?_eq, operandAddresses?_eq,
    ← shape.operandIndex?_eq current]
  cases asked : w.operandIndex? f.operands with
  | none => rfl
  | some index =>
      rw [Option.bind_some, Option.bind_some]
      cases here : w.sheets[index]? with
      | none => rw [shape.getElem?_eq_none_iff.mp here]
      | some s =>
          cases there : v.sheets[index]? with
          | none =>
              rw [shape.getElem?_eq_none_iff.mpr there] at here
              cases here
          | some t =>
              exact agree.filterMap_eq cornered asked here there (shape.extent_eq here there)
                (sized s (List.mem_of_getElem? here))

/-- A formula that is written is kept with its text and its outcome. -/
theorem cell?_of_write?_formula {a : Address}
    (done : w.write? a (String.ofList ('=' :: body)) = some v) :
    v.cell? a = some (Cell.formula (String.ofList ('=' :: body)) (w.evaluate body)) := by
  have put := write?_eq_some_iff.mp done
  have kept := put.cellAt?_self
  rw [cellAt?, ← put.current, v.getElem?_current, Option.bind_some] at kept
  rw [cell?, kept, Cell.ofInput, String.toList_ofList]
  rfl

/-- A formula has the same outcome in two workbooks that have the same shape and the same numbers
where its operands are, and that outcome is written wherever the formula is written.  Which sheet is
current counts only for a list of points. -/
theorem evaluate_eq_of_agreeOn (shape : w.SameShape v) (sized : w.Sized)
    (current : ∀ aggregate points, parse body = .ok ⟨aggregate, .cells points⟩ →
      w.current = v.current)
    (agree : ∀ f, parse body = .ok f → w.AgreeOn v f.operands) :
    w.evaluate body = v.evaluate body ∧
      ∀ (a b : Address) (next other : Workbook),
        w.write? a (String.ofList ('=' :: body)) = some next →
        v.write? b (String.ofList ('=' :: body)) = some other → next.cell? a = other.cell? b := by
  have outcome : w.evaluate body = v.evaluate body := by
    rw [Workbook.evaluate, Workbook.evaluate, ← shape.evaluating, Formula.evaluate,
      Formula.evaluate]
    cases read : parse body with
    | error fault => rfl
    | ok f =>
        have listed : ∀ points, f.operands = .cells points → w.current = v.current := by
          intro points same
          exact current f.aggregate points (same ▸ read)
        have same := shape.numbers_eq sized (cornered_of_parse read) listed (agree f read)
        dsimp only
        rw [Formula.value, Formula.value, same]
  refine ⟨outcome, fun a b next other here there => ?_⟩
  rw [cell?_of_write?_formula here, cell?_of_write?_formula there, outcome]

/-- A range over two cells.  In one workbook they hold a number and a text, in the other one a
formula with the same number and a formula with a fault; the other sheet is current there, and the
cell behind the range holds something else. -/
theorem evaluate_eq_of_agreeOn_of_other_contents :
    let data : Sheet := ⟨"a", (((Grid.empty ⟨1, 3⟩).put ⟨0, 0⟩ ⟨"2", .number 2.0⟩).put ⟨0, 1⟩
      ⟨"x", .text⟩).put ⟨0, 2⟩ ⟨"5", .number 5.0⟩⟩
    let computed : Sheet := ⟨"a", ((Grid.empty ⟨1, 3⟩).put ⟨0, 0⟩
      (.formula "=mult((1,1),(1,2))" (.number 2.0))).put ⟨0, 1⟩
      (.formula "=y" (.fault .unrecognized))⟩
    let more : Sheet := ⟨"b", Grid.empty ⟨2, 2⟩⟩
    let w : Workbook := ⟨[data, more], 0, ⟨1, 3⟩, true, by decide, by decide⟩
    let v : Workbook := ⟨[computed, more], 1, ⟨2, 2⟩, true, by decide, by decide⟩
    let body := "sum(A,(1,1),(1,2))".toList
    w.SameShape v ∧ w.Sized ∧
      (∀ aggregate points, parse body = .ok ⟨aggregate, .cells points⟩ → w.current = v.current) ∧
      (∀ f, parse body = .ok f → w.AgreeOn v f.operands) ∧ w.evaluate body = v.evaluate body ∧
      ∀ (a b : Address) (next other : Workbook),
        w.write? a (String.ofList ('=' :: body)) = some next →
        v.write? b (String.ofList ('=' :: body)) = some other → next.cell? a = other.cell? b := by
  intro data computed more w v body
  have read : parse body = .ok ⟨.sum, .range ['a'] ⟨1, 1⟩ ⟨1, 2⟩⟩ := by decide
  have shape : w.SameShape v := ⟨rfl, rfl, rfl⟩
  have sized : w.Sized := by
    have wide : Extent.Sized ⟨1, 3⟩ := by decide
    have square : Extent.Sized ⟨2, 2⟩ := by decide
    exact List.forall_mem_cons.mpr ⟨wide, List.forall_mem_singleton.mpr square⟩
  have current : ∀ aggregate points, parse body = .ok ⟨aggregate, .cells points⟩ →
      w.current = v.current := by
    intro aggregate points listed
    rw [read] at listed
    cases listed
  have agree : ∀ f, parse body = .ok f → w.AgreeOn v f.operands := by
    intro f found index a c d asked named here there
    rw [read] at found
    obtain rfl := Except.ok.inj found
    have first : w.operandIndex? (.range ['a'] ⟨1, 1⟩ ⟨1, 2⟩) = some 0 := by
      unfold w data more
      decide
    rw [first] at asked
    obtain rfl := Option.some.inj asked
    obtain _ | ⟨⟨⟨low, high⟩, left, right⟩⟩ := named
    obtain ⟨row, col⟩ := a
    obtain rfl : row = 0 := by
      change 1 ≤ (row : Int) + 1 at low
      change (row : Int) + 1 ≤ 1 at high
      omega
    obtain rfl | rfl : col = 0 ∨ col = 1 := by
      change (col : Int) + 1 ≤ 2 at right
      omega
    -- both cells of the range are looked up in both workbooks
    all_goals
      cases here
      cases there
      rfl
  exact ⟨shape, sized, current, agree, evaluate_eq_of_agreeOn shape sized current agree⟩

end Workbook

end Gridbook
