import Gridbook.Proofs.Grid.Contents

/-!
# The slots of a grid

A slot tells more than reading does, since it is empty until something is put at its address.  Of
all the cells that are put at an address the last one stays in the slot, and the slots of the
addresses inside make up the whole grid.
-/

namespace Gridbook.Grid

variable {g h : Grid} {a b : Address} {c : Cell}

theorem eq_of_fields (extent : g.extent = h.extent) (slots : g.slots = h.slots) : g = h := by
  cases g
  cases h
  subst extent slots
  rfl

/-- Grids of one extent are the same if they have the same slots at the addresses inside. -/
theorem eq_of_slots (extent : g.extent = h.extent)
    (same : ∀ a, g.extent.Contains a → g.slot a = h.slot a) : g = h := by
  refine eq_of_fields extent (Array.ext_getElem? fun place => ?_)
  by_cases inside : place < g.extent.area
  · have slots := same _ (Extent.contains_address inside)
    have first : place < g.slots.size := g.size_slots.symm ▸ inside
    have second : place < h.slots.size := by rw [h.size_slots, ← extent]; exact inside
    rw [slot, slot, ← extent, Extent.position_address] at slots
    simpa [Array.getD_eq_getD_getElem?, first, second] using slots
  · have first : g.slots.size ≤ place := g.size_slots.symm ▸ Nat.le_of_not_lt inside
    have second : h.slots.size ≤ place := by
      rw [h.size_slots, ← extent]
      exact Nat.le_of_not_lt inside
    rw [Array.getElem?_eq_none first, Array.getElem?_eq_none second]

theorem put_of_outside (outside : ¬ g.extent.Contains a) (c : Cell) : g.put a c = g :=
  if_neg outside

theorem slot_empty (e : Extent) (a : Address) : (Grid.empty e).slot a = none := by
  rw [slot, empty, Array.getD_eq_getD_getElem?, Array.getElem?_replicate]
  split <;> rfl

theorem slot_put (inside : g.extent.Contains a) (b : Address) (c : Cell) :
    (g.put b c).slot a = if b = a then some c else g.slot a := by
  by_cases target : g.extent.Contains b
  · by_cases same : b = a
    · subst same
      simp [put, slot, inside, Array.getD_eq_getD_getElem?, position_lt_size inside]
    · have apart : g.extent.position b ≠ g.extent.position a :=
        fun places => same (Extent.eq_of_position_eq target inside places)
      simp [put, slot, target, same, Array.getD_eq_getD_getElem?,
        Array.getElem?_setIfInBounds_ne apart]
  · have apart : b ≠ a := by
      rintro rfl
      exact target inside
    rw [put_of_outside target, if_neg apart]

/-! ## Putting many cells -/

/-- The cell that is put last at an address. -/
def lastPut? (cells : List (Address × Cell)) (a : Address) : Option Cell :=
  ((cells.filter fun entry => entry.1 = a).getLast?).map Prod.snd

theorem lastPut?_append (earlier later : List (Address × Cell)) (a : Address) :
    lastPut? (earlier ++ later) a = (lastPut? later a).or (lastPut? earlier a) := by
  rw [lastPut?, List.filter_append, List.getLast?_append, Option.map_or]
  rfl

theorem lastPut?_single (b : Address) (c : Cell) (a : Address) :
    lastPut? [(b, c)] a = if b = a then some c else none := by
  by_cases same : b = a <;> simp [lastPut?, same]

/-- Of the cells that are put one after the other, the last one at an address stays there. -/
theorem slot_putAll (inside : g.extent.Contains a) (cells : List (Address × Cell)) :
    (g.putAll cells).slot a = (lastPut? cells a).or (g.slot a) := by
  induction cells generalizing g with
  | nil => rfl
  | cons entry rest ih =>
      have still : (g.put entry.1 entry.2).extent.Contains a := (g.extent_put _ _).symm ▸ inside
      have first : (g.put entry.1 entry.2).slot a =
          (lastPut? [entry] a).or (g.slot a) := by
        rw [slot_put inside, lastPut?_single]
        split <;> rfl
      calc (g.putAll (entry :: rest)).slot a
          = (lastPut? rest a).or ((g.put entry.1 entry.2).slot a) := ih still
        _ = ((lastPut? rest a).or (lastPut? [entry] a)).or (g.slot a) := by
            rw [first, Option.or_assoc]
        _ = (lastPut? (entry :: rest) a).or (g.slot a) := by
            rw [← lastPut?_append, List.singleton_append]

end Gridbook.Grid
