import Gridbook.Cell
import Gridbook.Extent

/-!
# Grids

A grid has a slot for every address of its extent, row by row.  A slot is empty until a cell is put
there; reading an empty slot gives the blank cell, and outside the extent there is nothing to read
or to write.
-/

namespace Gridbook

/-- Slots for the cells of an extent, row by row. -/
structure Grid where
  extent : Extent
  slots : Array (Option Cell)
  size_slots : slots.size = extent.area
  fits : extent.Fits

namespace Grid

/-- The grid without cells whose extent is the given one, shrunk if it does not fit. -/
def empty (extent : Extent) : Grid where
  extent := extent.shrunk
  slots := Array.replicate extent.shrunk.area none
  size_slots := Array.size_replicate
  fits := extent.shrunk_fits

def slot (g : Grid) (a : Address) : Option Cell :=
  g.slots.getD (g.extent.position a) none

/-- The cell at an address, the blank one where nothing was put. -/
def get? (g : Grid) (a : Address) : Option Cell :=
  if g.extent.Contains a then some ((g.slot a).getD Cell.blank) else none

/-- The grid with a cell put at an address, or as it is if the address is outside. -/
def put (g : Grid) (a : Address) (c : Cell) : Grid :=
  if g.extent.Contains a then
    { g with
      slots := g.slots.setIfInBounds (g.extent.position a) (some c)
      size_slots := by rw [Array.size_setIfInBounds, g.size_slots] }
  else g

def put? (g : Grid) (a : Address) (c : Cell) : Option Grid :=
  if g.extent.Contains a then some (g.put a c) else none

theorem extent_put (g : Grid) (a : Address) (c : Cell) : (g.put a c).extent = g.extent := by
  unfold put
  split <;> rfl

theorem position_lt_size {g : Grid} {a : Address} (h : g.extent.Contains a) :
    g.extent.position a < g.slots.size :=
  g.size_slots ▸ Extent.position_lt h

theorem get?_put_self {g : Grid} {a : Address} (h : g.extent.Contains a) (c : Cell) :
    (g.put a c).get? a = some c := by
  have inside := position_lt_size h
  simp [get?, put, slot, h, Array.getD_eq_getD_getElem?, inside]

theorem get?_put_of_ne (g : Grid) {a b : Address} (c : Cell) (h : a ≠ b) :
    (g.put a c).get? b = g.get? b := by
  unfold get?
  rw [extent_put]
  by_cases inside : g.extent.Contains b
  · rw [if_pos inside, if_pos inside]
    by_cases target : g.extent.Contains a
    · have apart : g.extent.position a ≠ g.extent.position b :=
        fun same => h (Extent.eq_of_position_eq target inside same)
      simp [put, slot, target, Array.getD_eq_getD_getElem?, Array.getElem?_setIfInBounds_ne apart]
    · simp [put, target]
  · rw [if_neg inside, if_neg inside]

theorem get?_eq_none_iff (g : Grid) (a : Address) : g.get? a = none ↔ ¬ g.extent.Contains a := by
  unfold get?
  split <;> simp_all

/-- The cells that were put, with their addresses, row by row. -/
def written (g : Grid) : List (Address × Cell) :=
  g.slots.toList.zipIdx.filterMap fun (slot, position) =>
    slot.map fun cell => (g.extent.address position, cell)

def numericAt? (g : Grid) (a : Address) : Option Float :=
  (g.get? a).bind Cell.numeric?

end Grid

end Gridbook
