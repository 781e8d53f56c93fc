import Gridbook.Proofs.Formula.Dependence
import Gridbook.Proofs.Grid.Slots

/-!
# Independent writes

A text is evaluated once, when it is written, against the workbook as it stands before the write.
So the order of two writes counts only if one of the texts is a formula that reads the address of
the other one, or if both go to one address.  Writing changes neither the names of sheets nor which
of them is current, and so it does not change which addresses a text reads.  Writes that are
independent of each other can therefore be made in any order.
-/

namespace Gridbook

open Formula

/-! ## Cells at different addresses -/

namespace Grid

variable {a b : Address}

/-- Cells at different addresses are put in any order. -/
theorem put_comm (g : Grid) (apart : a ≠ b) (c d : Cell) :
    (g.put a c).put b d = (g.put b d).put a c := by
  by_cases first : g.extent.Contains a
  · by_cases second : g.extent.Contains b
    · have places : g.extent.position a ≠ g.extent.position b :=
        fun same => apart (Extent.eq_of_position_eq first second same)
      apply eq_of_fields
      · simp only [extent_put]
      · simp only [put, if_pos first, if_pos second]
        exact Array.setIfInBounds_comm _ _ places
    · have still : ¬ (g.put a c).extent.Contains b := (g.extent_put a c).symm ▸ second
      rw [put_of_outside second, put_of_outside still]
  · have still : ¬ (g.put b d).extent.Contains a := (g.extent_put b d).symm ▸ first
    rw [put_of_outside first, put_of_outside still]

end Grid

theorem Sheet.put_comm (s : Sheet) {a b : Address} (apart : a ≠ b) (c d : Cell) :
    (s.put a c).put b d = (s.put b d).put a c :=
  congrArg (Sheet.mk s.name) (s.grid.put_comm apart c d)

theorem Sheet.extent_put (s : Sheet) (a : Address) (c : Cell) :
    (s.put a c).grid.extent = s.grid.extent :=
  s.grid.extent_put a c

namespace Workbook

variable {w v u : Workbook} {a b : Address} {c d : Cell} {content other : String} {f : Formula}

/-! ## What a text reads -/

/-- The text is a formula one of whose operands is at an address of the current sheet. -/
def Reads (w : Workbook) (content : String) (a : Address) : Prop :=
  ∃ body f, Cell.formulaBody? content.toList = some body ∧ parse body = .ok f ∧
    w.operandIndex? f.operands = some w.current ∧ f.operands.Names a

namespace PutTo

theorem sameShape (done : w.PutTo a c v) : w.SameShape v where
  names := (done.map_sheets rfl).symm
  extents := done.extents.symm
  evaluating := done.evaluating.symm

theorem currentSheet_eq (done : w.PutTo a c v) : v.currentSheet = w.currentSheet.put a c := by
  apply Option.some.inj
  rw [← v.getElem?_current, done.sheets, done.current, List.getElem?_set_self w.current_lt]

theorem operandIndex?_eq (done : w.PutTo a c v) (o : Operands) :
    v.operandIndex? o = w.operandIndex? o :=
  (done.sameShape.operandIndex?_eq fun _ _ => done.current.symm).symm

/-- A formula that has no operand at an address folds the same numbers whatever is put there. -/
theorem numbers_eq (done : w.PutTo a c v) (cornered : f.operands.Cornered)
    (unread : w.operandIndex? f.operands = some w.current → ¬ f.operands.Names a) :
    f.numbers v.scope = f.numbers w.scope := by
  rw [numbers, numbers, operandAddresses?_eq, operandAddresses?_eq, done.operandIndex?_eq]
  cases asked : w.operandIndex? f.operands with
  | none => rfl
  | some index =>
      rw [Option.bind_some, Option.bind_some]
      by_cases here : w.current = index
      · subst here
        have sized : w.currentSheet.grid.extent.Sized :=
          ⟨Nat.zero_lt_of_lt done.inside.1, Nat.zero_lt_of_lt done.inside.2⟩
        rw [done.sheets, List.getElem?_set_self w.current_lt, w.getElem?_current, Option.map_some,
          Option.map_some, Sheet.extent_put]
        apply List.filterMap_congr
        intro b mem
        have apart : a ≠ b := by
          rintro rfl
          exact unread asked
            ((mem_addresses_iff cornered sized w.currentSheet.grid.fits done.inside).mp mem)
        exact congrArg (·.bind Cell.numeric?) (Grid.get?_put_of_ne _ c apart)
      · rw [done.sheets, List.getElem?_set_ne here]

/-- A text that does not read an address has the same meaning whatever is put there. -/
theorem ofInput_eq (done : w.PutTo a c v) (unread : ¬ w.Reads content a) :
    Cell.ofInput v.evaluate content = Cell.ofInput w.evaluate content := by
  rw [Cell.ofInput, Cell.ofInput]
  cases marked : Cell.formulaBody? content.toList with
  | none => rfl
  | some body =>
      dsimp only
      rw [Workbook.evaluate, Workbook.evaluate, done.evaluating, Formula.evaluate,
        Formula.evaluate]
      cases read : parse body with
      | error fault => rfl
      | ok f =>
          have apart : w.operandIndex? f.operands = some w.current → ¬ f.operands.Names a :=
            fun here named => unread ⟨body, f, marked, read, here, named⟩
          dsimp only
          rw [Formula.value, Formula.value, done.numbers_eq (cornered_of_parse read) apart]

/-- What a text reads is not changed by what is put. -/
theorem reads_iff (done : w.PutTo a c v) : v.Reads content b ↔ w.Reads content b := by
  unfold Reads
  simp only [done.operandIndex?_eq, done.current]

/-- Two cells are put in either order, with the same workbook in the end. -/
theorem exchange {z : Workbook} (first : w.PutTo a c v) (second : v.PutTo b d u) (apart : a ≠ b)
    (other : w.PutTo b d z) : z.PutTo a c u where
  inside := by
    rw [other.currentSheet_eq, Sheet.extent_put]
    exact first.inside
  sheets := by
    rw [second.sheets, first.sheets, first.current, first.currentSheet_eq, other.sheets,
      other.current, other.currentSheet_eq, List.set_set, List.set_set,
      w.currentSheet.put_comm apart]
  current := by rw [second.current, first.current, other.current]
  extent := by rw [second.extent, first.extent, other.extent]
  evaluating := by rw [second.evaluating, first.evaluating, other.evaluating]

theorem contains_iff (done : w.PutTo a c v) :
    v.currentSheet.grid.extent.Contains b ↔ w.currentSheet.grid.extent.Contains b := by
  rw [done.currentSheet_eq, Sheet.extent_put]

end PutTo

/-! ## Writes in any order -/

/-- Two writes go to different addresses, and neither text reads the address of the other one. -/
structure Independent (w : Workbook) (one another : Address × String) : Prop where
  apart : one.1 ≠ another.1
  first : ¬ w.Reads one.2 another.1
  second : ¬ w.Reads another.2 one.1

theorem Independent.symm {one another : Address × String} (free : w.Independent one another) :
    w.Independent another one :=
  ⟨free.apart.symm, free.second, free.first⟩

/-- Independent writes stay independent, whatever is put in between. -/
theorem PutTo.independent {one another : Address × String} (done : w.PutTo a c v)
    (free : w.Independent one another) : v.Independent one another :=
  ⟨free.apart, mt done.reads_iff.mp free.first, mt done.reads_iff.mp free.second⟩

/-- Two independent writes are made in either order, or neither order can be carried through. -/
theorem write?_swap {one another : Address × String} (free : w.Independent one another) :
    (w.write? one.1 one.2).bind (·.write? another.1 another.2) =
      (w.write? another.1 another.2).bind (·.write? one.1 one.2) := by
  cases first : w.write? one.1 one.2 with
  | none =>
      have outside := write?_eq_none_iff.mp first
      cases second : w.write? another.1 another.2 with
      | none => rfl
      | some z =>
          have still := mt (write?_eq_some_iff.mp second).contains_iff.mp outside
          exact (write?_eq_none_iff.mpr still).symm
  | some v =>
      have put := write?_eq_some_iff.mp first
      rw [Option.bind_some]
      cases second : w.write? another.1 another.2 with
      | none =>
          exact write?_eq_none_iff.mpr (mt put.contains_iff.mp (write?_eq_none_iff.mp second))
      | some z =>
          have other := write?_eq_some_iff.mp second
          obtain ⟨u, later⟩ := exists_write? (put.contains_iff.mpr other.inside) another.2
          -- both texts are evaluated as if each had been written first
          have behind := write?_eq_some_iff.mp later
          rw [put.ofInput_eq free.second] at behind
          have exchanged := put.exchange behind free.apart other
          rw [← other.ofInput_eq free.first] at exchanged
          rw [later, Option.bind_some, write?_eq_some_iff.mpr exchanged]

/-- The workbook with texts written one after the other, if all their addresses are inside. -/
def writeAll? (w : Workbook) (entries : List (Address × String)) : Option Workbook :=
  entries.foldlM (fun next entry => next.write? entry.1 entry.2) w

theorem writeAll?_cons (w : Workbook) (entry : Address × String)
    (rest : List (Address × String)) :
    w.writeAll? (entry :: rest) = (w.write? entry.1 entry.2).bind (·.writeAll? rest) :=
  List.foldlM_cons

/-- Any number of writes that are independent of each other are made in any order. -/
theorem writeAll?_of_perm {entries others : List (Address × String)}
    (free : entries.Pairwise w.Independent) (same : entries.Perm others) :
    w.writeAll? entries = w.writeAll? others := by
  induction same generalizing w with
  | nil => rfl
  | cons entry same ih =>
      rw [writeAll?_cons, writeAll?_cons]
      cases done : w.write? entry.1 entry.2 with
      | none => rfl
      | some v =>
          have put := write?_eq_some_iff.mp done
          exact ih ((List.pairwise_cons.mp free).2.imp put.independent)
  | swap one another rest =>
      have apart := (List.pairwise_cons.mp free).1 one List.mem_cons_self
      simp only [writeAll?_cons, ← Option.bind_assoc]
      rw [write?_swap apart]
  | trans first second ihFirst ihSecond =>
      exact (ihFirst free).trans
        (ihSecond ((first.pairwise_iff Independent.symm).mp free))

/-- Two texts are written to different addresses of the current sheet in either order, and the same
workbook comes out, if neither text is a formula with an operand at the address of the other one. -/
theorem write?_comm (apart : a ≠ b) (inside : w.currentSheet.grid.extent.Contains a)
    (within : w.currentSheet.grid.extent.Contains b) (first : ¬ w.Reads content b)
    (second : ¬ w.Reads other a) :
    ∃ v, (w.write? a content).bind (·.write? b other) = some v ∧
      (w.write? b other).bind (·.write? a content) = some v := by
  obtain ⟨u, here⟩ := exists_write? inside content
  have put := write?_eq_some_iff.mp here
  obtain ⟨v, there⟩ := exists_write? (put.contains_iff.mpr within) other
  have done : (w.write? a content).bind (·.write? b other) = some v := by
    rw [here, Option.bind_some, there]
  have free : w.Independent (a, content) (b, other) := ⟨apart, first, second⟩
  exact ⟨v, done, (write?_swap free).symm.trans done⟩

/-- A list of points and a range that both end at the cell behind the two addresses. -/
theorem write?_comm_of_shared_operand :
    let sheet : Sheet := ⟨"a", (Grid.empty ⟨1, 3⟩).put ⟨0, 2⟩ ⟨"5", .number 5.0⟩⟩
    let w : Workbook := ⟨[sheet], 0, ⟨1, 3⟩, true, by decide, by decide⟩
    let content := "=sum((1,3),(1,3))"
    let other := "=mult(A,(1,3),(1,9))"
    w.currentSheet.grid.extent.Contains ⟨0, 0⟩ ∧ w.currentSheet.grid.extent.Contains ⟨0, 1⟩ ∧
      ¬ w.Reads content ⟨0, 1⟩ ∧ ¬ w.Reads other ⟨0, 0⟩ ∧
      ∃ v, (w.write? ⟨0, 0⟩ content).bind (·.write? ⟨0, 1⟩ other) = some v ∧
        (w.write? ⟨0, 1⟩ other).bind (·.write? ⟨0, 0⟩ content) = some v := by
  intro sheet w content other
  have inside : w.currentSheet.grid.extent.Contains ⟨0, 0⟩ := by decide
  have within : w.currentSheet.grid.extent.Contains ⟨0, 1⟩ := by decide
  have first : ¬ w.Reads content ⟨0, 1⟩ := by
    rintro ⟨body, f, marked, read, _, named⟩
    have opened : Cell.formulaBody? content.toList = some "sum((1,3),(1,3))".toList := by decide
    obtain rfl := Option.some.inj (opened.symm.trans marked)
    have points : parse "sum((1,3),(1,3))".toList = .ok ⟨.sum, .cells [⟨1, 3⟩, ⟨1, 3⟩]⟩ := by decide
    cases points.symm.trans read
    obtain ⟨listed, row, col⟩ := named
    obtain rfl : _ = Point.mk 1 3 := by simpa using listed
    cases col
  have second : ¬ w.Reads other ⟨0, 0⟩ := by
    rintro ⟨body, f, marked, read, _, named⟩
    have opened : Cell.formulaBody? other.toList = some "mult(A,(1,3),(1,9))".toList := by decide
    obtain rfl := Option.some.inj (opened.symm.trans marked)
    have range : parse "mult(A,(1,3),(1,9))".toList =
        .ok ⟨.product, .range ['a'] ⟨1, 3⟩ ⟨1, 9⟩⟩ := by decide
    cases range.symm.trans read
    obtain _ | ⟨_, left, _⟩ := named
    exact absurd left (by decide)
  exact ⟨inside, within, first, second,
    write?_comm (by decide) inside within first second⟩

end Workbook

end Gridbook
