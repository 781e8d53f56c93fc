import Gridbook.Proofs.Grid.Slots
import Gridbook.Proofs.Grid.Words

/-!
# Grids as maps

A grid is a map from the addresses of its extent to cells.  Whatever is put on it, one cell after
the other, it takes the cells with an address inside and no others; each address is read as the last
cell that was put there, and the cells are listed in the order of their addresses.  The places
behind all this are found in words.
-/

namespace Gridbook

/-! ## The order of addresses -/

/-- One address comes before another one, row by row. -/
def Address.Before (a b : Address) : Prop :=
  a.row < b.row ∨ a.row = b.row ∧ a.col < b.col

/-- The addresses of an extent are in the order of their places. -/
theorem Extent.before_of_lt (e : Extent) {first second : Nat} (ordered : first < second) :
    (e.address first).Before (e.address second) := by
  have rows : first / e.cols ≤ second / e.cols := Nat.div_le_div_right (Nat.le_of_lt ordered)
  rcases Nat.lt_or_eq_of_le rows with above | same
  · exact .inl above
  · have whole := Nat.div_add_mod first e.cols
    have other := Nat.div_add_mod second e.cols
    rw [← same] at other
    exact .inr ⟨same, by change first % e.cols < second % e.cols; omega⟩

namespace Grid

variable {g : Grid} {e : Extent} {a : Address} {c : Cell} {puts : List (Address × Cell)}

/-! ## The cells that are listed -/

theorem mem_written : (a, c) ∈ g.written ↔ g.extent.Contains a ∧ g.slot a = some c := by
  rw [written_eq, List.mem_filterMap]
  constructor
  · rintro ⟨place, mem, found⟩
    obtain ⟨cell, stored, same⟩ := Option.map_eq_some_iff.mp found
    obtain ⟨rfl, rfl⟩ := Prod.mk.inj same
    rw [slot, Extent.position_address]
    exact ⟨Extent.contains_address (List.mem_range.mp mem), stored⟩
  · rintro ⟨inside, stored⟩
    refine ⟨g.extent.position a, List.mem_range.mpr (Extent.position_lt inside), ?_⟩
    rw [← slot, stored, Option.map_some, Extent.address_position inside]

/-- The cells of a grid are listed in the order of their addresses. -/
theorem pairwise_written (g : Grid) : (g.written.map Prod.fst).Pairwise Address.Before := by
  rw [written_eq, List.pairwise_map, List.pairwise_filterMap]
  refine List.pairwise_lt_range.imp ?_
  intro first second ordered entry found other known
  obtain ⟨_, _, rfl⟩ := Option.map_eq_some_iff.mp found
  obtain ⟨_, _, rfl⟩ := Option.map_eq_some_iff.mp known
  exact g.extent.before_of_lt ordered

/-! ## Putting cells, and being told whether they were put -/

/-- The grid after a cell was to be put at an address, and whether it was put there. -/
def tryPut (g : Grid) (entry : Address × Cell) : Grid × Bool :=
  match g.put? entry.1 entry.2 with
  | some next => (next, true)
  | none => (g, false)

/-- The grid after cells were to be put one after the other, and for each whether it was put. -/
def tryPutAll (g : Grid) : List (Address × Cell) → Grid × List Bool
  | [] => (g, [])
  | entry :: rest =>
      let (next, accepted) := g.tryPut entry
      let (last, answers) := next.tryPutAll rest
      (last, accepted :: answers)

theorem tryPut_eq (g : Grid) (entry : Address × Cell) :
    g.tryPut entry = (g.put entry.1 entry.2, decide (g.extent.Contains entry.1)) := by
  unfold tryPut put?
  by_cases inside : g.extent.Contains entry.1
  · rw [if_pos inside, decide_eq_true inside]
  · rw [if_neg inside, put_of_outside inside, decide_eq_false inside]

theorem tryPutAll_eq (g : Grid) (puts : List (Address × Cell)) :
    g.tryPutAll puts =
      (g.putAll puts, puts.map fun entry => decide (g.extent.Contains entry.1)) := by
  induction puts generalizing g with
  | nil => rfl
  | cons entry rest ih =>
      rw [tryPutAll, tryPut_eq]
      dsimp only
      rw [ih, extent_put]
      rfl

/-! ## The map -/

/-- A grid with some rows and columns remembers the last one of the cells that were put at each
address inside, lists them in order, and has no room for any others. -/
structure Remembers (g : Grid) (e : Extent) (puts : List (Address × Cell)) : Prop where
  accepts : ∀ a c, (g.tryPut (a, c)).2 = true ↔ a.row < e.rows ∧ a.col < e.cols
  refuses : ∀ a c, (g.tryPut (a, c)).2 = false → (g.tryPut (a, c)).1 = g
  missing : ∀ a, g.get? a = none ↔ ¬ (a.row < e.rows ∧ a.col < e.cols)
  latest : ∀ a, a.row < e.rows → a.col < e.cols →
    g.get? a = some ((lastPut? puts a).getD Cell.blank)
  listed : ∀ a c, (a, c) ∈ g.written ↔
    (a.row < e.rows ∧ a.col < e.cols) ∧ lastPut? puts a = some c
  ordered : (g.written.map Prod.fst).Pairwise Address.Before

theorem slot_putAll_empty (inside : (Grid.empty e).extent.Contains a)
    (puts : List (Address × Cell)) : ((Grid.empty e).putAll puts).slot a = lastPut? puts a := by
  rw [slot_putAll inside, slot_empty, Option.or_none]

theorem remembers_putAll (e : Extent) (puts : List (Address × Cell)) :
    ((Grid.empty e).putAll puts).Remembers e.shrunk puts := by
  have extent : ((Grid.empty e).putAll puts).extent = e.shrunk := extent_putAll _ _
  refine ⟨?_, ?_, ?_, ?_, ?_, pairwise_written _⟩
  · intro a c
    rw [tryPut_eq, decide_eq_true_iff, extent]
    rfl
  · intro a c refused
    rw [tryPut_eq, decide_eq_false_iff_not] at refused
    rw [tryPut_eq, put_of_outside refused]
  · intro a
    rw [get?_eq_none_iff, extent]
    rfl
  · intro a row col
    rw [get?_of_contains (extent ▸ ⟨row, col⟩), slot_putAll_empty ⟨row, col⟩]
  · intro a c
    rw [mem_written, extent]
    exact and_congr_right fun inside => by rw [slot_putAll_empty inside]

/-! ## The map in words -/

/-- The number of slots, the place of every address and the address of every place are found in
words: nothing gets too large, nothing is divided by zero, and no place lies behind the slots. -/
structure FoundInWords (g : Grid) (rows cols : UInt64) : Prop where
  slots : ∃ size, Count.product? rows cols = some size ∧ size.toNat = g.slots.size
  place : ∀ row col : UInt64, g.extent.Contains ⟨row.toNat, col.toNat⟩ →
    ∃ place, Extent.placeInWords? cols row col = some place ∧
      place.toNat = g.extent.position ⟨row.toNat, col.toNat⟩ ∧ place.toNat < g.slots.size
  address : ∀ place : UInt64, place.toNat < g.slots.size →
    ∃ row col, Extent.addressInWords? cols place = some (row, col) ∧
      g.extent.address place.toNat = ⟨row.toNat, col.toNat⟩ ∧
      g.extent.Contains ⟨row.toNat, col.toNat⟩

theorem foundInWords {rows cols : UInt64} (extent : g.extent = Extent.ofWords rows cols) :
    g.FoundInWords rows cols := by
  have fits : (Extent.ofWords rows cols).Fits := extent ▸ g.fits
  have size : g.slots.size = (Extent.ofWords rows cols).area := extent ▸ g.size_slots
  constructor
  · rw [size]
    exact Extent.exists_area fits
  · intro row col inside
    rw [extent] at inside ⊢
    obtain ⟨place, found, same⟩ := Extent.exists_placeInWords? fits inside
    have below := Extent.position_lt inside
    rw [← same, ← size] at below
    exact ⟨place, found, same, below⟩
  · intro place inside
    rw [size] at inside
    rw [extent]
    obtain ⟨row, col, found, same⟩ := Extent.exists_addressInWords? inside
    exact ⟨row, col, found, same, same ▸ Extent.contains_address inside⟩

/-- Whatever is put on a grid with any rows and columns, shrunk if they are too many, it is told of
each cell whether it was put, which is the case exactly if its address is inside.  The grid is the
map of what was put there last, and everything about its places is found in words. -/
theorem remembers_puts (rows cols : UInt64) (puts : List (Address × Cell)) :
    ∃ r c, Extent.shrunkWords? rows cols = some (r, c) ∧
      let start := Grid.empty (Extent.ofWords rows cols)
      let reached := (start.tryPutAll puts).1
      start.extent = Extent.ofWords r c ∧ reached.extent = Extent.ofWords r c ∧
      (start.tryPutAll puts).2 =
        puts.map (fun entry => decide (entry.1.row < r.toNat ∧ entry.1.col < c.toNat)) ∧
      reached.Remembers (Extent.ofWords r c) puts ∧ reached.FoundInWords r c := by
  obtain ⟨r, c, computed, shrunk⟩ := Extent.exists_shrunkWords? rows cols
  have extent : (Grid.empty (Extent.ofWords rows cols)).extent = Extent.ofWords r c := shrunk
  have kept (puts : List (Address × Cell)) :
      ((Grid.empty (Extent.ofWords rows cols)).putAll puts).extent = Extent.ofWords r c :=
    (extent_putAll _ _).trans extent
  refine ⟨r, c, computed, ?_⟩
  dsimp only
  rw [tryPutAll_eq]
  refine ⟨extent, kept puts, ?_, shrunk ▸ remembers_putAll _ puts, foundInWords (kept puts)⟩
  rw [extent]
  rfl

end Grid

end Gridbook
