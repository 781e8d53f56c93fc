import Gridbook.Proofs.Grid.Slots
import Gridbook.Proofs.Snapshot.LineByLine

/-!
# The blocks of a snapshot

A header opens a block, to which the lines of cells up to the next header belong.  A block makes one
sheet: the empty sheet of its header, on which the cells of its lines are put.  If all lines of a
text are accepted, its blocks make the sheets in order, no line of a cell comes before the first
header, and the index of the current sheet is the one that was given last.  The converse holds as
well, so that what is accepted can be told block by block.
-/

namespace Gridbook.Snapshot

open Text

variable {line : List Char} {cells : List (List Char)} {s t : Sheet} {sheets top : List Sheet}
  {p q : Progress} {es : List Entry}

/-! ## Entries in blocks -/

/-- The line of a header and the lines of the cells between it and the next one. -/
structure Block where
  header : List Char
  cells : List (List Char)

/-- The lines of cells before the next header. -/
def leadingCells (es : List Entry) : List (List Char) :=
  (es.takeWhile fun e => !e.isHeader).filterMap Entry.cell?

/-- The blocks of a text, in order. -/
def blocks : List Entry → List Block
  | [] => []
  | .header line :: rest => ⟨line, leadingCells rest⟩ :: blocks rest
  | _ :: rest => blocks rest

/-- The indices of the current sheet that a text gives, as they are written. -/
def currentTexts (es : List Entry) : List (List Char) :=
  es.filterMap Entry.current?

/-- The indices of the current sheet that can be counted, each with the number of its line. -/
def indices (es : List (Entry × Nat)) : List (Nat × Nat) :=
  es.filterMap fun e => (e.1.current?.bind count?).map fun index => (index, e.2)

theorem indices_cons {text : List Char} {index : Nat} (counted : count? text = some index)
    (number : Nat) (rest : List (Entry × Nat)) :
    indices ((.current text, number) :: rest) = (index, number) :: indices rest :=
  List.filterMap_cons_some (congrArg (Option.map _) counted)

theorem indices_append (l l' : List (Entry × Nat)) :
    indices (l ++ l') = indices l ++ indices l' :=
  List.filterMap_append

/-- An index is passed over for later ones, and it takes the place of one before. -/
theorem getLast?_indices_cons {text : List Char} {index : Nat} (counted : count? text = some index)
    (number : Nat) (rest : List (Entry × Nat)) (before : Option (Nat × Nat)) :
    (indices ((.current text, number) :: rest)).getLast?.or before =
      (indices rest).getLast?.or (some (index, number)) := by
  rw [indices_cons counted, List.getLast?_cons]
  cases (indices rest).getLast? <;> rfl

/-- Every index of the current sheet can be counted. -/
def Counted (es : List Entry) : Prop :=
  ∀ text ∈ currentTexts es, (count? text).isSome

/-! ## Cells on a sheet -/

/-- The cells that lines give, in order. -/
def cellEntries (cells : List (List Char)) : List (Address × Cell) :=
  cells.filterMap cellOf?

/-- Every line gives a cell at an address inside an extent. -/
def Inside (e : Extent) (cells : List (List Char)) : Prop :=
  ∀ line ∈ cells, ∃ a c, cellOf? line = some (a, c) ∧ e.Contains a

/-- The sheet with the cells of some lines put on it. -/
def filled (s : Sheet) (cells : List (List Char)) : Sheet :=
  ⟨s.name, s.grid.putAll (cellEntries cells)⟩

/-- The sheets after lines of cells were accepted, which belong to the sheet that was opened
last. -/
inductive Fills : List Sheet → List (List Char) → List Sheet → Prop where
  | nil (sheets : List Sheet) : Fills sheets [] sheets
  | cons {s : Sheet} {earlier : List Sheet} {line : List Char} {cells : List (List Char)}
      {a : Address} {c : Cell} {top : List Sheet} (given : cellOf? line = some (a, c))
      (inside : s.grid.extent.Contains a) (rest : Fills (s.put a c :: earlier) cells top) :
      Fills (s :: earlier) (line :: cells) top

theorem fills_iff {earlier : List Sheet} : Fills (s :: earlier) cells top ↔
    Inside s.grid.extent cells ∧ top = filled s cells :: earlier := by
  induction cells generalizing s with
  | nil =>
      constructor
      · rintro ⟨⟩
        exact ⟨nofun, rfl⟩
      · rintro ⟨_, rfl⟩
        exact .nil _
  | cons line cells ih =>
      have extent (a : Address) (c : Cell) : (s.put a c).grid.extent = s.grid.extent :=
        s.grid.extent_put a c
      have put {a : Address} {c : Cell} (given : cellOf? line = some (a, c)) :
          filled s (line :: cells) = filled (s.put a c) cells := by
        rw [filled, cellEntries, List.filterMap_cons_some given]
        rfl
      constructor
      · rintro (_ | ⟨given, inside, rest⟩)
        obtain ⟨others, rfl⟩ := ih.mp rest
        rw [extent] at others
        exact ⟨List.forall_mem_cons.mpr ⟨⟨_, _, given, inside⟩, others⟩, by rw [put given]⟩
      · rintro ⟨inside, rfl⟩
        obtain ⟨⟨a, c, given, here⟩, others⟩ := List.forall_mem_cons.mp inside
        rw [← extent a c] at others
        exact .cons given here (ih.mpr ⟨others, by rw [put given]⟩)

theorem fills_nil_iff : Fills [] cells top ↔ cells = [] ∧ top = [] := by
  constructor
  · rintro ⟨⟩
    exact ⟨rfl, rfl⟩
  · rintro ⟨rfl, rfl⟩
    exact .nil []

/-- A block makes a sheet if its header opens one and its cells can be put there. -/
def Makes (b : Block) (t : Sheet) : Prop :=
  ∃ s, readHeader b.header = .ok s ∧ Inside s.grid.extent b.cells ∧ t = filled s b.cells

/-! ## All entries -/

/-- What all entries of a text make of the progress, if they are accepted. -/
structure Makeup (p : Progress) (es : List (Entry × Nat)) (q : Progress) : Prop where
  counted : Counted (es.map Prod.fst)
  sheets : ∃ top sheets, Fills p.sheets (leadingCells (es.map Prod.fst)) top ∧
    List.Forall₂ Makes (blocks (es.map Prod.fst)) sheets ∧ q.sheets = sheets.reverse ++ top
  current : q.current = (indices es).getLast?.or p.current

variable {l : List (Entry × Nat)}

theorem TakesAll.makeup (takes : TakesAll p l q) : Makeup p l q := by
  induction takes with
  | nil p => exact ⟨nofun, ⟨p.sheets, [], .nil _, .nil, rfl⟩, rfl⟩
  | @cons p q r e number rest first later ih =>
      obtain ⟨top, sheets, fills, makes, made⟩ := ih.sheets
      cases first with
      | skipped => exact ⟨ih.counted, ⟨top, sheets, fills, makes, made⟩, ih.current⟩
      | @current text index counted =>
          refine ⟨?_, ⟨top, sheets, fills, makes, made⟩, ?_⟩
          · exact List.forall_mem_cons.mpr ⟨Option.isSome_of_eq_some counted, ih.counted⟩
          · rw [ih.current, getLast?_indices_cons counted]
      | @header line s opened =>
          let own : Block := ⟨line, leadingCells (rest.map Prod.fst)⟩
          obtain ⟨inside, rfl⟩ := fills_iff.mp fills
          have first : Makes own (filled s own.cells) := ⟨s, opened, inside, rfl⟩
          refine ⟨ih.counted, ⟨p.sheets, _ :: sheets, .nil _, .cons first makes, ?_⟩, ih.current⟩
          rw [made, List.reverse_cons, List.append_assoc, List.singleton_append]
      | cell last given inside =>
          refine ⟨ih.counted, ⟨top, sheets, ?_, makes, made⟩, ih.current⟩
          rw [last]
          exact .cons given inside fills

theorem Makeup.takesAll (makeup : Makeup p l q) : TakesAll p l q := by
  induction l generalizing p with
  | nil =>
      obtain ⟨counted, ⟨top, sheets, fills, makes, made⟩, current⟩ := makeup
      cases makes
      generalize before : p.sheets = opened at fills
      cases fills
      obtain rfl : p = q := by
        cases p
        cases q
        simp_all [indices]
      exact .nil p
  | cons first rest ih =>
      obtain ⟨e, number⟩ := first
      obtain ⟨counted, ⟨top, sheets, fills, makes, made⟩, current⟩ := makeup
      cases e with
      | skipped => exact .cons .skipped (ih ⟨counted, ⟨top, sheets, fills, makes, made⟩, current⟩)
      | current text =>
          obtain ⟨here, others⟩ := List.forall_mem_cons.mp counted
          obtain ⟨index, read⟩ := Option.isSome_iff_exists.mp here
          refine .cons (.current read) (ih ⟨others, ⟨top, sheets, fills, makes, made⟩, ?_⟩)
          rw [current, getLast?_indices_cons read]
      | header line =>
          obtain _ | ⟨⟨s, opened, inside, rfl⟩, makes⟩ := makes
          generalize before : p.sheets = earlier at fills
          cases fills
          have filling : Fills (s :: p.sheets) _ _ := fills_iff.mpr ⟨inside, rfl⟩
          refine .cons (.header opened) (ih ⟨counted, ⟨_, _, filling, makes, ?_⟩, current⟩)
          rw [made, List.reverse_cons, List.append_assoc, List.singleton_append, before]
      | cell line =>
          generalize before : p.sheets = opened at fills
          obtain _ | ⟨given, inside, fills⟩ := fills
          exact .cons (.cell before given inside)
            (ih ⟨counted, ⟨top, sheets, fills, makes, made⟩, current⟩)

/-- What a text whose lines are all accepted makes of the progress from the start. -/
structure Accepts (es : List Entry) (q : Progress) : Prop where
  counted : Counted es
  stray : leadingCells es = []
  sheets : List.Forall₂ Makes (blocks es) q.sheets.reverse
  current : q.current = (indices (es.zipIdx 1)).getLast?

theorem takesAll_start_iff : TakesAll .start (es.zipIdx 1) q ↔ Accepts es q := by
  constructor
  · intro takes
    obtain ⟨counted, ⟨top, sheets, fills, makes, made⟩, current⟩ := takes.makeup
    rw [List.zipIdx_map_fst] at counted fills makes
    obtain ⟨stray, rfl⟩ := fills_nil_iff.mp fills
    rw [List.append_nil] at made
    refine ⟨counted, stray, ?_, current.trans (Option.or_none ..)⟩
    rw [made, List.reverse_reverse]
    exact makes
  · intro accepts
    refine Makeup.takesAll ⟨?_, ⟨[], q.sheets.reverse, ?_, ?_, ?_⟩, ?_⟩
    · rw [List.zipIdx_map_fst]
      exact accepts.counted
    · rw [List.zipIdx_map_fst]
      exact fills_nil_iff.mpr ⟨accepts.stray, rfl⟩
    · rw [List.zipIdx_map_fst]
      exact accepts.sheets
    · rw [List.reverse_reverse, List.append_nil]
    · exact accepts.current.trans (Option.or_none ..).symm

end Gridbook.Snapshot
