import Gridbook.Address

/-!
# Extents

An extent is a count of rows and a count of columns.  A grid holds at most `2 ^ 18` cells; an extent
that has more is shrunk, its columns giving way before its rows.
-/

namespace Gridbook

def maxCells : Nat := twoPow 18

structure Extent where
  rows : Nat
  cols : Nat
deriving DecidableEq, Repr

namespace Extent

def standard : Extent := ⟨20, 20⟩

def area (e : Extent) : Nat :=
  e.rows * e.cols

def Fits (e : Extent) : Prop :=
  e.area ≤ maxCells

instance (e : Extent) : Decidable e.Fits :=
  inferInstanceAs (Decidable (_ ≤ _))

/-- The extent itself if it fits, and otherwise the largest number of its columns that fits beside
its rows, of which at most `maxCells` are kept. -/
def shrunk (e : Extent) : Extent :=
  if e.Fits then e
  else
    let rows := min e.rows maxCells
    ⟨rows, min e.cols (maxCells / max rows 1)⟩

def Contains (e : Extent) (a : Address) : Prop :=
  a.row < e.rows ∧ a.col < e.cols

instance (e : Extent) (a : Address) : Decidable (e.Contains a) :=
  inferInstanceAs (Decidable (_ ∧ _))

/-- The place of an address among the cells of the extent, taken row by row. -/
def position (e : Extent) (a : Address) : Nat :=
  a.row * e.cols + a.col

def address (e : Extent) (position : Nat) : Address :=
  ⟨position / e.cols, position % e.cols⟩

theorem position_lt {e : Extent} {a : Address} (h : e.Contains a) : e.position a < e.area :=
  calc a.row * e.cols + a.col
      < a.row * e.cols + e.cols := Nat.add_lt_add_left h.2 _
    _ = (a.row + 1) * e.cols := (Nat.succ_mul _ _).symm
    _ ≤ e.rows * e.cols := Nat.mul_le_mul_right _ h.1

theorem address_position {e : Extent} {a : Address} (h : e.Contains a) :
    e.address (e.position a) = a := by
  have positive : 0 < e.cols := Nat.lt_of_le_of_lt (Nat.zero_le _) h.2
  have quotient : (a.row * e.cols + a.col) / e.cols = a.row := by
    rw [Nat.add_comm, Nat.add_mul_div_right _ _ positive, Nat.div_eq_of_lt h.2, Nat.zero_add]
  have remainder : (a.row * e.cols + a.col) % e.cols = a.col := by
    rw [Nat.add_comm, Nat.add_mul_mod_self_right, Nat.mod_eq_of_lt h.2]
  simp [address, position, quotient, remainder]

/-- Two addresses inside an extent never share a place. -/
theorem eq_of_position_eq {e : Extent} {a b : Address} (ha : e.Contains a) (hb : e.Contains b)
    (same : e.position a = e.position b) : a = b := by
  rw [← address_position ha, ← address_position hb, same]

theorem shrunk_fits (e : Extent) : e.shrunk.Fits := by
  unfold shrunk
  split
  · assumption
  · exact Nat.le_trans (Nat.mul_le_mul_left _ (Nat.min_le_right _ _))
      (Nat.le_trans (Nat.mul_le_mul_right _ (Nat.le_max_left _ 1)) (Nat.mul_div_le _ _))

end Extent

end Gridbook
