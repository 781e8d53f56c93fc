import Gridbook.Proofs.Formula.Written

/-!
# Lists of points

Arguments are read as a list of points by cutting them wherever an opening parenthesis follows a
comma and by taking all parentheses away from the parts.  The grammar of the accepted texts says
which these are, without cutting: parts that hold one comma between two coordinates, and
parentheses anywhere, with `,(` between them, and `),(` in at least one place.  So the parentheses
of an accepted text need not be balanced, and the last point may lend its own one to the formula.
-/

namespace Gridbook.Formula

open Text

/-! ## Grammars of lists -/

/-- Points that are written one after the other, with a separator between them. -/
inductive Listing (separator : List Char) (writes : List Char → Point → Prop) :
    List Char → List Point → Prop where
  | last {part : List Char} {p : Point} (here : writes part p) : Listing separator writes part [p]
  | cons {part rest : List Char} {p : Point} {points : List Point} (here : writes part p)
      (later : Listing separator writes rest points) :
      Listing separator writes (part ++ (separator ++ rest)) (p :: points)

/-- A text in which no comma stands before an opening parenthesis. -/
def Unbroken (s : List Char) : Prop :=
  ¬ [',', '('] <:+: s

/-- A text without its parentheses. -/
def bare (s : List Char) : List Char :=
  s.filter fun c => c != '(' && c != ')'

/-- Two coordinates with a comma between them. -/
def CoordinatePair (s : List Char) (p : Point) : Prop :=
  ∃ row col, s = row ++ ',' :: col ∧ coordinate? row = some p.row ∧ coordinate? col = some p.col

/-- A point as it is accepted: nothing but the parentheses may be out of place. -/
def LoosePoint (part : List Char) (p : Point) : Prop :=
  Unbroken part ∧ CoordinatePair (bare part) p

/-- A point as it should be written, between its own parentheses. -/
def StrictPoint (part : List Char) (p : Point) : Prop :=
  ∃ pair, CoordinatePair pair p ∧ part = '(' :: pair ++ [')']

/-! ## Reading one point -/

theorem mem_of_coordinate? {s : List Char} {n : Int64} {c : Char} (read : coordinate? s = some n)
    (mem : c ∈ s) : c.isDigit = true ∨ c = '-' ∨ c = '+' := by
  have unsigned {body : List Char} (found : coordinate?.unsigned body = some n) :
      ∀ d ∈ body, d.isDigit = true := by
    obtain ⟨size, numeral, _⟩ := Option.bind_eq_some_iff.mp found
    exact isDigit_of_natural? numeral
  unfold coordinate? at read
  split at read
  · rcases List.mem_cons.mp mem with sign | digit
    · exact .inr (.inl sign)
    · obtain ⟨size, numeral, _⟩ := Option.bind_eq_some_iff.mp read
      exact .inl (isDigit_of_natural? numeral c digit)
  · rcases List.mem_cons.mp mem with sign | digit
    · exact .inr (.inr sign)
    · exact .inl (unsigned read c digit)
  · exact .inl (unsigned read c mem)

theorem isMark_of_coordinate? {s : List Char} {n : Int64} {c : Char}
    (read : coordinate? s = some n) (mem : c ∈ s) : isMark c = false := by
  rcases mem_of_coordinate? read mem with digit | rfl | rfl
  · exact isMark_of_isDigit digit
  · rfl
  · rfl

theorem eq_append_of_cut? {mark : Char} {s before behind : List Char}
    (found : cut? mark s = some (before, behind)) : s = before ++ mark :: behind := by
  induction s generalizing before with
  | nil => cases found
  | cons c rest ih =>
      rw [cut?] at found
      split at found
      · rename_i same
        cases found
        rw [same, List.nil_append]
      · obtain ⟨⟨front, tail⟩, inner, same⟩ := Option.map_eq_some_iff.mp found
        cases same
        rw [ih inner, List.cons_append]

/-- A part is read as a point exactly when it holds a pair of coordinates once it is bare. -/
theorem point?_eq_some_iff {part : List Char} {p : Point} :
    point? part = some p ↔ CoordinatePair (bare part) p := by
  unfold point?
  constructor
  · intro read
    obtain ⟨⟨row, col⟩, divided, rest⟩ := Option.bind_eq_some_iff.mp read
    obtain ⟨r, readRow, rest⟩ := Option.bind_eq_some_iff.mp rest
    obtain ⟨c, readCol, rest⟩ := Option.bind_eq_some_iff.mp rest
    cases rest
    exact ⟨row, col, eq_append_of_cut? divided, readRow, readCol⟩
  · rintro ⟨row, col, shape, readRow, readCol⟩
    have comma : ',' ∉ row := fun mem => absurd (isMark_of_coordinate? readRow mem) (by decide)
    have divided := cut?_append ',' row col comma
    rw [← shape] at divided
    unfold bare at divided
    rw [divided]
    change (coordinate? row).bind _ = _
    rw [readRow]
    change (coordinate? col).bind _ = _
    rw [readCol]
    rfl

/-! ## Cutting a text into parts -/

theorem unbroken_nil : Unbroken [] := by
  intro inside
  cases List.infix_nil.mp inside

theorem unbroken_cons {c : Char} {s : List Char} :
    Unbroken (c :: s) ↔ ¬ (c = ',' ∧ s.head? = some '(') ∧ Unbroken s := by
  have start : [',', '('] <+: c :: s ↔ c = ',' ∧ s.head? = some '(' := by
    cases s with
    | nil => simp
    | cons d s => simp [eq_comm]
  rw [Unbroken, List.infix_cons_iff, start, not_or, Unbroken]

/-- A comma divides a text that is unbroken if none comes before it and no parenthesis is opened
behind it. -/
theorem unbroken_append {before behind : List Char} (comma : ',' ∉ before) (open' : '(' ∉ behind) :
    Unbroken (before ++ ',' :: behind) := by
  induction before with
  | nil =>
      rintro ⟨front, back, shape⟩
      have mem : '(' ∈ ',' :: behind := by
        rw [List.nil_append] at shape
        rw [← shape]
        simp
      rcases List.mem_cons.mp mem with same | later
      · cases same
      · exact open' later
  | cons c before ih =>
      rw [List.mem_cons, not_or] at comma
      rw [List.cons_append, unbroken_cons]
      exact ⟨fun clash => comma.1 clash.1.symm, ih comma.2⟩

theorem splitPoints_cons {c : Char} {s : List Char} (whole : ¬ (c = ',' ∧ s.head? = some '(')) :
    splitPoints (c :: s) = consPart c (splitPoints s) := by
  rw [splitPoints]
  rintro rest rfl rfl
  exact whole ⟨rfl, rfl⟩

theorem splitPoints_of_unbroken {s : List Char} (whole : Unbroken s) : splitPoints s = [s] := by
  induction s with
  | nil => rfl
  | cons c s ih =>
      obtain ⟨here, later⟩ := unbroken_cons.mp whole
      rw [splitPoints_cons here, ih later, consPart]

/-- The first part ends where a comma stands before an opening parenthesis for the first time. -/
theorem splitPoints_append {part : List Char} (whole : Unbroken part) (rest : List Char) :
    splitPoints (part ++ ',' :: '(' :: rest) = part :: splitPoints rest := by
  induction part with
  | nil => rfl
  | cons c part ih =>
      obtain ⟨here, later⟩ := unbroken_cons.mp whole
      have still : ¬ (c = ',' ∧ (part ++ ',' :: '(' :: rest).head? = some '(') := by
        rintro ⟨comma, first⟩
        cases part with
        | nil => cases first
        | cons d part => exact here ⟨comma, first⟩
      rw [List.cons_append, splitPoints_cons still, ih later, consPart]

/-- Every text is unbroken, or it has a first part. -/
theorem unbroken_or_broken (s : List Char) :
    Unbroken s ∨ ∃ part rest, Unbroken part ∧ s = part ++ ',' :: '(' :: rest := by
  induction s with
  | nil => exact .inl unbroken_nil
  | cons c s ih =>
      by_cases here : c = ',' ∧ s.head? = some '('
      · obtain ⟨rfl, first⟩ := here
        obtain ⟨rest, rfl⟩ := List.head?_eq_some_iff.mp first
        exact .inr ⟨[], rest, unbroken_nil, rfl⟩
      · rcases ih with whole | ⟨part, rest, whole, rfl⟩
        · exact .inl (unbroken_cons.mpr ⟨here, whole⟩)
        · refine .inr ⟨c :: part, rest, unbroken_cons.mpr ⟨?_, whole⟩, rfl⟩
          rintro ⟨comma, first⟩
          apply here
          rw [List.head?_append, first]
          exact ⟨comma, rfl⟩

/-- All parts are read as points exactly when the text lists points as they are accepted. -/
theorem mapM_splitPoints_iff {s : List Char} {points : List Point} :
    (splitPoints s).mapM point? = some points ↔ Listing [',', '('] LoosePoint s points := by
  constructor
  · -- what follows the first part is shorter than the text, but it is no tail of a fixed length
    intro read
    induction known : s.length using Nat.strongRecOn generalizing s points with
    | ind size ih =>
        rcases unbroken_or_broken s with whole | ⟨part, rest, whole, rfl⟩
        · rw [splitPoints_of_unbroken whole, List.mapM_cons] at read
          obtain ⟨p, here, rest⟩ := Option.bind_eq_some_iff.mp read
          cases rest
          exact .last ⟨whole, point?_eq_some_iff.mp here⟩
        · rw [splitPoints_append whole, List.mapM_cons] at read
          obtain ⟨p, here, read⟩ := Option.bind_eq_some_iff.mp read
          obtain ⟨others, later, same⟩ := Option.bind_eq_some_iff.mp read
          cases same
          have shorter : rest.length < size := by
            rw [← known, List.length_append, List.length_cons, List.length_cons]
            omega
          exact .cons ⟨whole, point?_eq_some_iff.mp here⟩ (ih _ shorter later rfl)
  · intro listed
    induction listed with
    | last here =>
        rw [splitPoints_of_unbroken here.1, List.mapM_cons, point?_eq_some_iff.mpr here.2]
        rfl
    | @cons part rest p points here later ih =>
        change (splitPoints (part ++ ',' :: '(' :: rest)).mapM point? = _
        rw [splitPoints_append here.1, List.mapM_cons, point?_eq_some_iff.mpr here.2, ih]
        rfl

theorem isSome_after?_iff {expected s : List Char} :
    (after? expected s).isSome = true ↔ expected <+: s := by
  constructor
  · intro found
    obtain ⟨rest, found⟩ := Option.isSome_iff_exists.mp found
    exact ⟨rest, (eq_append_of_after? found).symm⟩
  · rintro ⟨rest, rfl⟩
    rw [after?_append]
    rfl

theorem hasPointBreak_iff {s : List Char} :
    hasPointBreak s = true ↔ [')', ',', '('] <:+: s := by
  induction s with
  | nil => simp [hasPointBreak]
  | cons c s ih =>
      rw [hasPointBreak, Bool.or_eq_true, isSome_after?_iff, ih, List.infix_cons_iff]
      rfl

/-- Which arguments are read as lists of points. -/
theorem points?_eq_some_iff {arguments : List Char} {points : List Point} :
    points? arguments = some points ↔
      [')', ',', '('] <:+: arguments ∧ Listing [',', '('] LoosePoint arguments points := by
  rw [points?, ← hasPointBreak_iff, ← mapM_splitPoints_iff]
  split
  · rename_i broken
    exact ⟨fun read => ⟨broken, read⟩, And.right⟩
  · rename_i whole
    constructor
    · intro impossible
      cases impossible
    · exact fun both => absurd both.1 whole

/-- A text in which one point ends and another starts lists at least two. -/
theorem Listing.two_le {s : List Char} {points : List Point}
    (listed : Listing [',', '('] LoosePoint s points) (broken : [')', ',', '('] <:+: s) :
    2 ≤ points.length := by
  cases listed with
  | last here =>
      have inner : [',', '('] <:+: [')', ',', '('] := ⟨[')'], [], rfl⟩
      exact absurd (inner.trans broken) here.1
  | cons here later =>
      cases later with
      | last next => exact Nat.le_refl _
      | cons next more => exact Nat.succ_le_succ (Nat.succ_le_succ (Nat.zero_le _))

/-! ## Formulas over lists of points -/

theorem opening?_eq_some_iff {s rest : List Char} {aggregate : Aggregate} :
    opening? s = some (aggregate, rest) ↔
      ∃ keyword, (keyword, aggregate) ∈ Aggregate.keywords ∧ s = keyword ++ '(' :: rest := by
  constructor
  · intro found
    obtain ⟨⟨keyword, own⟩, known, opened⟩ := List.exists_of_findSome?_eq_some found
    obtain ⟨tail, after, same⟩ := Option.map_eq_some_iff.mp opened
    cases same
    have shape := eq_append_of_after? after
    rw [List.append_assoc] at shape
    exact ⟨keyword, known, shape⟩
  · rintro ⟨keyword, known, rfl⟩
    exact opening?_append known rest

theorem beforeLast?_eq_some_iff {last : Char} {s before : List Char} :
    beforeLast? last s = some before ↔ s = before ++ [last] := by
  constructor
  · intro found
    unfold beforeLast? at found
    split at found
    · rename_i ends
      obtain ⟨front, rfl⟩ := List.getLast?_eq_some_iff.mp ends
      rw [List.dropLast_concat] at found
      rw [Option.some.inj found]
    · cases found
  · rintro rfl
    exact beforeLast?_append last before

theorem ofArguments_eq_cells_iff {arguments : List Char} {points : List Point} :
    Operands.ofArguments arguments = .cells points ↔ points? arguments = some points := by
  unfold Operands.ofArguments
  cases points? arguments with
  | some others => simp
  | none =>
      have other : (range? arguments).getD .malformed ≠ .cells points := by
        unfold range?
        cases lastPoint? arguments.reverse with
        | none => exact Operands.noConfusion
        | some found =>
            obtain ⟨last, rest⟩ := found
            dsimp only [Option.bind_eq_bind, Option.bind_some]
            cases lastPoint? rest with
            | none => exact Operands.noConfusion
            | some found =>
                obtain ⟨first, rest⟩ := found
                dsimp only [Option.bind_some]
                split <;> exact Operands.noConfusion
      exact ⟨fun impossible => absurd impossible other, fun impossible => nomatch impossible⟩

theorem parse_eq_ok_iff {body : List Char} {f : Formula} :
    parse body = .ok f ↔ ofNormal? (normal body) = some f := by
  unfold parse
  cases ofNormal? (normal body) with
  | none => exact ⟨nofun, nofun⟩
  | some found => simp

/-- A formula over listed points is read from exactly those texts whose form to be read opens with a
keyword, ends in a parenthesis, and has in between a list of points as they are accepted. -/
theorem parse_eq_cells_iff {body : List Char} {aggregate : Aggregate} {points : List Point} :
    parse body = .ok ⟨aggregate, .cells points⟩ ↔
      ∃ keyword arguments, (keyword, aggregate) ∈ Aggregate.keywords ∧
        normal body = callText keyword arguments ∧ 2 ≤ points.length ∧
        [')', ',', '('] <:+: arguments ∧ Listing [',', '('] LoosePoint arguments points := by
  rw [parse_eq_ok_iff, ofNormal?, Option.map_eq_some_iff]
  constructor
  · rintro ⟨⟨own, rest⟩, opened, same⟩
    obtain ⟨keyword, known, shape⟩ := opening?_eq_some_iff.mp opened
    obtain ⟨rfl, operands⟩ := Formula.mk.inj same
    cases closed : beforeLast? ')' rest with
    | none =>
        rw [closed] at operands
        cases operands
    | some arguments =>
        rw [closed, Option.map_some, Option.getD_some, ofArguments_eq_cells_iff,
          points?_eq_some_iff] at operands
        rw [beforeLast?_eq_some_iff.mp closed] at shape
        refine ⟨keyword, arguments, known, ?_, operands.2.two_le operands.1, operands⟩
        rw [shape, callText, List.append_assoc, List.cons_append]
  · rintro ⟨keyword, arguments, known, shape, _, listed⟩
    rw [callText, List.append_assoc, List.cons_append] at shape
    refine ⟨(aggregate, arguments ++ [')']), opening?_eq_some_iff.mpr ⟨keyword, known, shape⟩, ?_⟩
    dsimp only
    rw [beforeLast?_append, Option.map_some, Option.getD_some,
      ofArguments_eq_cells_iff.mpr (points?_eq_some_iff.mpr listed)]

/-! ## Parentheses in their places -/

/-- A text that lists at least two points, each between its own parentheses, inside the parentheses
of a keyword. -/
def StrictList (s : List Char) (aggregate : Aggregate) (points : List Point) : Prop :=
  ∃ keyword arguments, (keyword, aggregate) ∈ Aggregate.keywords ∧ s = callText keyword arguments ∧
    2 ≤ points.length ∧ Listing [','] StrictPoint arguments points

theorem count_eq_zero_of_unmarked {s : List Char} {m : Char} (mark : isMark m = true)
    (unmarked : ∀ c ∈ s, isMark c = false) : s.count m = 0 := by
  rw [List.count_eq_zero]
  intro mem
  rw [unmarked m mem] at mark
  cases mark

/-- As many parentheses are opened as are closed. -/
def Balanced (s : List Char) : Prop :=
  s.count '(' = s.count ')'

theorem StrictPoint.balanced {part : List Char} {p : Point} (written : StrictPoint part p) :
    Balanced part := by
  obtain ⟨pair, ⟨row, col, rfl, readRow, readCol⟩, rfl⟩ := written
  have rowMarks : ∀ m, isMark m = true → row.count m = 0 := fun m mark =>
    count_eq_zero_of_unmarked mark fun c mem => isMark_of_coordinate? readRow mem
  have colMarks : ∀ m, isMark m = true → col.count m = 0 := fun m mark =>
    count_eq_zero_of_unmarked mark fun c mem => isMark_of_coordinate? readCol mem
  simp [Balanced, List.count_append, rowMarks '(' rfl, rowMarks ')' rfl,
    colMarks '(' rfl, colMarks ')' rfl]

theorem Listing.balanced {s : List Char} {points : List Point}
    (listed : Listing [','] StrictPoint s points) : Balanced s := by
  induction listed with
  | last here => exact here.balanced
  | cons here later ih =>
      have first := here.balanced
      unfold Balanced at first ih ⊢
      simp [List.count_append, first, ih]

/-- Where every parenthesis is in its place, as many are opened as are closed. -/
theorem StrictList.balanced {s : List Char} {aggregate : Aggregate} {points : List Point}
    (strict : StrictList s aggregate points) : Balanced s := by
  obtain ⟨keyword, arguments, known, rfl, _, listed⟩ := strict
  have inner := listed.balanced
  have marks : ∀ m, isMark m = true → keyword.count m = 0 := fun m mark =>
    count_eq_zero_of_unmarked mark fun c mem => isMark_of_mem_keyword known mem
  unfold Balanced at inner ⊢
  simp [callText, List.count_append, marks '(' rfl, marks ')' rfl, inner]

/-- A formula over a list of points is read although its own parenthesis is never closed. -/
theorem parse_unclosed :
    parse "sum((1,1),(2,2)".toList = .ok ⟨.sum, .cells [⟨1, 1⟩, ⟨2, 2⟩]⟩ ∧
      ¬ StrictList (normal "sum((1,1),(2,2)".toList) .sum [⟨1, 1⟩, ⟨2, 2⟩] := by
  have form : normal "sum((1,1),(2,2)".toList = "sum((1,1),(2,2)".toList := by decide +kernel
  constructor
  · rw [parse_eq_ok_iff, form]
    decide +kernel
  · -- no list of points is looked for: in this text the parentheses do not even balance
    intro strict
    rw [form] at strict
    exact absurd strict.balanced (by unfold Balanced; decide)

end Gridbook.Formula
