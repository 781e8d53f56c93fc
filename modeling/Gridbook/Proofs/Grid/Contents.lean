import Gridbook.Snapshot.Writer
import Mathlib.Data.List.Basic

/-!
# The contents of a grid

The cells of a grid that hold text, listed row by row, are determined by what is read at every
address, however its slots are filled.  Putting them one after the other into an empty grid of the
same extent gives a grid from which the same cells are read, as long as every cell without text is
the blank one.
-/

namespace Gridbook

open Snapshot

/-! ## Places and addresses -/

namespace Extent

theorem contains_address {e : Extent} {position : Nat} (inside : position < e.area) :
    e.Contains (e.address position) := by
  have wide : 0 < e.cols := by
    apply Nat.pos_of_ne_zero
    intro zero
    rw [area, zero, Nat.mul_zero] at inside
    exact Nat.not_lt_zero _ inside
  exact ⟨Nat.div_lt_of_lt_mul (Nat.mul_comm e.rows e.cols ▸ inside), Nat.mod_lt _ wide⟩

theorem position_address (e : Extent) (position : Nat) :
    e.position (e.address position) = position := by
  rw [Extent.position, address, Nat.mul_comm]
  exact Nat.div_add_mod _ _

end Extent

namespace Grid

theorem get?_of_contains {g : Grid} {a : Address} (inside : g.extent.Contains a) :
    g.get? a = some ((g.slot a).getD Cell.blank) :=
  if_pos inside

theorem contains_of_get? {g : Grid} {a : Address} {c : Cell} (found : g.get? a = some c) :
    g.extent.Contains a := by
  by_cases inside : g.extent.Contains a
  · exact inside
  · rw [(g.get?_eq_none_iff a).mpr inside] at found
    cases found

/-- An empty grid has blank cells only. -/
theorem get?_empty {e : Extent} {a : Address} (inside : (Grid.empty e).extent.Contains a) :
    (Grid.empty e).get? a = some Cell.blank := by
  rw [get?_of_contains inside]
  have place := Extent.position_lt inside
  change e.shrunk.position a < e.shrunk.area at place
  simp [slot, empty, Array.getD_eq_getD_getElem?, place]

theorem getD_get?_empty (e : Extent) (a : Address) :
    ((Grid.empty e).get? a).getD Cell.blank = Cell.blank := by
  by_cases inside : (Grid.empty e).extent.Contains a
  · rw [get?_empty inside, Option.getD_some]
  · rw [(get?_eq_none_iff _ a).mpr inside, Option.getD_none]

/-- The cells that were put, by their places. -/
theorem written_eq (g : Grid) :
    g.written = (List.range g.extent.area).filterMap fun position =>
      (g.slots.getD position none).map fun cell => (g.extent.address position, cell) := by
  have indexed : g.slots.toList.zipIdx =
      (List.range g.extent.area).map fun position => (g.slots.getD position none, position) := by
    apply List.ext_getElem
    · rw [List.length_zipIdx, List.length_map, List.length_range, Array.length_toList,
        g.size_slots]
    · intro position first second
      have inside : position < g.slots.size := by
        rw [List.length_zipIdx, Array.length_toList] at first
        exact first
      simp [inside]
  rw [written, indexed, List.filterMap_map]
  rfl

end Grid

/-! ## Cells that hold text -/

/-- The cell at an address with that address, if it holds text. -/
def Grid.entry? (g : Grid) (a : Address) : Option (Address × Cell) :=
  ((g.get? a).filter fun cell => cell.content ≠ "").map fun cell => (a, cell)

theorem entry?_eq_some_iff {g : Grid} {a b : Address} {c : Cell} :
    g.entry? a = some (b, c) ↔ b = a ∧ g.get? a = some c ∧ c.content ≠ "" := by
  simp only [Grid.entry?, Option.map_eq_some_iff, Option.filter_eq_some_iff, decide_eq_true_eq,
    Prod.mk.injEq]
  constructor
  · rintro ⟨_, ⟨found, filled⟩, rfl, rfl⟩
    exact ⟨rfl, found, filled⟩
  · rintro ⟨rfl, found, filled⟩
    exact ⟨c, ⟨found, filled⟩, rfl, rfl⟩

/-- What holds text is read off the addresses, row by row. -/
theorem filledCells_eq (g : Grid) :
    filledCells g = (List.range g.extent.area).filterMap fun position =>
      g.entry? (g.extent.address position) := by
  rw [filledCells, Grid.written_eq, List.filter_filterMap]
  apply List.filterMap_congr
  intro position mem
  have inside := Extent.contains_address (List.mem_range.mp mem)
  rw [Grid.entry?, Grid.get?_of_contains inside, Grid.slot, Extent.position_address]
  cases g.slots.getD position none with
  | none => rfl
  | some cell =>
      by_cases filled : cell.content = "" <;> simp [Option.filter, filled]

theorem mem_filledCells {g : Grid} {a : Address} {c : Cell} :
    (a, c) ∈ filledCells g ↔ g.get? a = some c ∧ c.content ≠ "" := by
  rw [filledCells_eq, List.mem_filterMap]
  constructor
  · rintro ⟨position, _, found⟩
    obtain ⟨rfl, rest⟩ := entry?_eq_some_iff.mp found
    exact rest
  · rintro ⟨found, filled⟩
    have inside := Grid.contains_of_get? found
    refine ⟨g.extent.position a, List.mem_range.mpr (Extent.position_lt inside), ?_⟩
    rw [Extent.address_position inside]
    exact entry?_eq_some_iff.mpr ⟨rfl, found, filled⟩

/-- Grids that are read alike hold the same text. -/
theorem filledCells_congr {g h : Grid} (extent : g.extent = h.extent) (same : g.get? = h.get?) :
    filledCells g = filledCells h := by
  have entries : g.entry? = h.entry? := by
    funext a
    rw [Grid.entry?, Grid.entry?, same]
  rw [filledCells_eq, filledCells_eq, extent, entries]

/-! ## Putting many cells -/

/-- The grid with cells put one after the other. -/
def Grid.putAll (g : Grid) (cells : List (Address × Cell)) : Grid :=
  cells.foldl (fun grid entry => grid.put entry.1 entry.2) g

namespace Grid

variable {cells : List (Address × Cell)} {a : Address} {c : Cell}

theorem extent_putAll (g : Grid) (cells : List (Address × Cell)) :
    (g.putAll cells).extent = g.extent := by
  induction cells generalizing g with
  | nil => rfl
  | cons entry rest ih => exact (ih _).trans (g.extent_put _ _)

theorem get?_putAll_of_forall_ne (g : Grid) (absent : ∀ entry ∈ cells, entry.1 ≠ a) :
    (g.putAll cells).get? a = g.get? a := by
  induction cells generalizing g with
  | nil => rfl
  | cons entry rest ih =>
      have first := absent entry List.mem_cons_self
      have others := ih (g.put entry.1 entry.2) fun other mem => absent other (.tail _ mem)
      exact others.trans (g.get?_put_of_ne _ first)

theorem get?_putAll_of_mem {g : Grid} (inside : g.extent.Contains a) (mem : (a, c) ∈ cells)
    (unique : ∀ d, (a, d) ∈ cells → d = c) : (g.putAll cells).get? a = some c := by
  induction cells generalizing g with
  | nil => cases mem
  | cons entry rest ih =>
      obtain ⟨b, d⟩ := entry
      by_cases later : ∃ e, (a, e) ∈ rest
      · obtain ⟨e, behind⟩ := later
        obtain rfl := unique e (.tail _ behind)
        have still : (g.put b d).extent.Contains a := by
          rw [extent_put]
          exact inside
        exact ih still behind fun other mem => unique other (.tail _ mem)
      · have absent : ∀ entry ∈ rest, entry.1 ≠ a := by
          rintro ⟨_, e⟩ behind rfl
          exact later ⟨e, behind⟩
        rcases List.mem_cons.mp mem with same | behind
        · obtain ⟨rfl, rfl⟩ := Prod.mk.inj same
          exact (get?_putAll_of_forall_ne _ absent).trans (get?_put_self inside c)
        · exact absurd ⟨c, behind⟩ later

/-- A grid is read as before when its text is put into an empty grid of its extent. -/
theorem get?_putAll_filledCells {g : Grid} {e : Extent} (extent : (Grid.empty e).extent = g.extent)
    (blank : ∀ a c, g.get? a = some c → c.content = "" → c = Cell.blank) :
    ((Grid.empty e).putAll (filledCells g)).get? = g.get? := by
  funext a
  cases found : g.get? a with
  | none =>
      have outside := (g.get?_eq_none_iff a).mp found
      rw [get?_eq_none_iff, extent_putAll, extent]
      exact outside
  | some c =>
      have inside : (Grid.empty e).extent.Contains a := by
        rw [extent]
        exact contains_of_get? found
      by_cases filled : c.content = ""
      · have absent : ∀ entry ∈ filledCells g, entry.1 ≠ a := by
          rintro ⟨_, d⟩ mem rfl
          obtain ⟨same, text⟩ := mem_filledCells.mp mem
          obtain rfl := Option.some.inj (found.symm.trans same)
          exact text filled
        rw [get?_putAll_of_forall_ne _ absent, get?_empty inside, blank a c found filled]
      · refine get?_putAll_of_mem inside (mem_filledCells.mpr ⟨found, filled⟩) ?_
        intro d mem
        exact Option.some.inj ((mem_filledCells.mp mem).1.symm.trans found)

end Grid

end Gridbook
