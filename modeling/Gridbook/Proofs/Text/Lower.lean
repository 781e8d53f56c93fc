import Gridbook.Text.Lower
import Gridbook.Proofs.Text.Runs

/-!
# Lower case of texts

Every character of a text in lower case is one that lower case leaves alone, so that putting a text
into lower case twice is the same as doing it once.  A character of the text is kept, or it makes
way for small forms, which all come after the ASCII capitals and are no white space.  A character
that neither has case nor is passed over in search of a letter divides a text into two parts that
are put into lower case independently.
-/

namespace Gridbook.Text

/-! ## Single characters -/

/-- Lower case leaves the character as it is, wherever it stands. -/
structure Settled (c : Char) : Prop where
  ne_sigma : c ≠ 'Σ'
  kept : lowerChar c = [c]

/-- The character comes after the ASCII capitals and is no white space. -/
structure Formed (c : Char) : Prop where
  above : 0x60 < c.toNat
  solid : isBlank c = false

namespace CaseRun

/-- The last small form of a run. -/
def lastSmall (run : CaseRun) : Nat :=
  run.small + (run.last - run.first)

/-- Whether the small forms of a run stay away from a range of code points. -/
def avoids (run : CaseRun) (low high : Nat) : Bool :=
  Nat.blt run.lastSmall low || Nat.blt high run.small

/-- Whether no small form of a run is a capital of another one, either because it lies outside that
run or because it is one of the letters that the run steps over. -/
def misses (run other : CaseRun) : Bool :=
  run.avoids other.first other.last ||
    (Nat.beq other.stride 2 && (Nat.beq run.stride 2 || Nat.beq run.first run.last) &&
      Nat.beq ((run.small + other.first) % 2) 1)

end CaseRun

/-- The code points at which no small form lies: the ASCII characters before the small letters, the
white space, the one capital outside the table and the surrogates. -/
def unformedRanges : List (Nat × Nat) :=
  [(0, 0x60), (0x85, 0x85), (0xA0, 0xA0), (0x130, 0x130), (0x1680, 0x1680), (0x2000, 0x200A),
    (0x2028, 0x2029), (0x202F, 0x202F), (0x205F, 0x205F), (0x3000, 0x3000), (0xD800, 0xDFFF)]

theorem caseRuns_avoid : (caseRuns.all fun run => unformedRanges.all fun range =>
    run.avoids range.1 range.2 && Nat.blt run.lastSmall 0x110000) = true := by
  decide +kernel

theorem caseRuns_miss :
    (caseRuns.all fun run => caseRuns.all fun other => run.misses other) = true := by
  decide +kernel

theorem caseRuns_tail_beyond :
    (caseRuns.tail.all fun run => Nat.blt 0x7F run.first) = true := by
  decide +kernel

namespace CaseRun

variable {run other : CaseRun} {code low high : Nat}

theorem contains_iff : run.contains code = true ↔
    run.first ≤ code ∧ code ≤ run.last ∧ (code - run.first) % run.stride = 0 := by
  simp [contains, and_assoc]

theorem lower_bounds (capital : run.contains code = true) :
    run.small ≤ run.lower code ∧ run.lower code ≤ run.lastSmall := by
  obtain ⟨above, below, _⟩ := contains_iff.mp capital
  unfold lower lastSmall
  omega

theorem outside_of_avoids (away : run.avoids low high = true) (capital : run.contains code = true) :
    run.lower code < low ∨ high < run.lower code := by
  obtain ⟨above, below⟩ := lower_bounds capital
  simp only [avoids, Bool.or_eq_true, Nat.blt_eq] at away
  omega

/-- What a run misses is no capital of the other run. -/
theorem not_contains_of_misses (miss : run.misses other = true)
    (capital : run.contains code = true) : other.contains (run.lower code) = false := by
  rw [Bool.eq_false_iff]
  intro clash
  obtain ⟨above, below, step⟩ := contains_iff.mp clash
  simp only [misses, Bool.or_eq_true, Bool.and_eq_true, Nat.beq_eq] at miss
  rcases miss with away | ⟨⟨even, single⟩, odd⟩
  · have outside := outside_of_avoids away capital
    omega
  · -- the other run steps over every second code point, and this small form is one of those
    obtain ⟨first, last, place⟩ := contains_iff.mp capital
    have aligned : (code - run.first) % 2 = 0 := by
      rcases single with even | single
      · rwa [even] at place
      · omega
    rw [even] at step
    unfold lower at above step
    omega

end CaseRun

/-- White space is found among the code points without a small form. -/
theorem inRanges_of_isBlank {c : Char} (blank : isBlank c = true) :
    inRanges unformedRanges c.toNat = true := by
  simp only [isBlank, Bool.or_eq_true, Bool.and_eq_true, decide_eq_true_eq, beq_iff_eq] at blank
  simp only [inRanges, unformedRanges, List.any_cons, List.any_nil, Bool.or_eq_true,
    Bool.and_eq_true, decide_eq_true_eq]
  omega

/-- A small form in the table lies at none of the code points that the table avoids. -/
theorem lower_formed {run : CaseRun} {code : Nat} (known : run ∈ caseRuns)
    (capital : run.contains code = true) :
    inRanges unformedRanges (run.lower code) = false ∧ run.lower code < 0x110000 := by
  have avoid := List.all_eq_true.mp caseRuns_avoid run known
  rw [List.all_eq_true] at avoid
  constructor
  · rw [inRanges, List.any_eq_false]
    intro range mem
    have outside := CaseRun.outside_of_avoids (Bool.and_eq_true_iff.mp (avoid range mem)).1 capital
    simp only [Bool.and_eq_true, decide_eq_true_eq]
    omega
  · have bound := (Bool.and_eq_true_iff.mp (avoid (0, 0x60) List.mem_cons_self)).2
    rw [Nat.blt_eq] at bound
    exact Nat.lt_of_le_of_lt (CaseRun.lower_bounds capital).2 bound

/-- The character at the code point of a small form. -/
theorem toNat_smallForm {run : CaseRun} {code : Nat} (known : run ∈ caseRuns)
    (capital : run.contains code = true) :
    (Char.ofNat (run.lower code)).toNat = run.lower code := by
  obtain ⟨outside, bound⟩ := lower_formed known capital
  have surrogates : ¬ (0xD800 ≤ run.lower code ∧ run.lower code ≤ 0xDFFF) := by
    simp only [inRanges, List.any_eq_false, Bool.and_eq_true, decide_eq_true_eq] at outside
    exact outside (0xD800, 0xDFFF) (by decide)
  have valid : (run.lower code).isValidChar := by
    unfold Nat.isValidChar
    omega
  rw [Char.ofNat, dif_pos valid]
  rfl

/-! ## One character of a text -/

theorem lowerChar_of_find? {c : Char} {run : CaseRun} (plain : c ≠ 'İ')
    (found : caseRuns.find? (·.contains c.toNat) = some run) :
    lowerChar c = [Char.ofNat (run.lower c.toNat)] := by
  rw [lowerChar, if_neg plain, found]

theorem lowerChar_of_unknown {c : Char} (plain : c ≠ 'İ')
    (unknown : caseRuns.find? (·.contains c.toNat) = none) : lowerChar c = [c] := by
  rw [lowerChar, if_neg plain, unknown]

theorem settled_smallForm {run : CaseRun} {code : Nat} (known : run ∈ caseRuns)
    (capital : run.contains code = true) : Settled (Char.ofNat (run.lower code)) := by
  have unknown : caseRuns.find? (·.contains (Char.ofNat (run.lower code)).toNat) = none := by
    rw [List.find?_eq_none, toNat_smallForm known capital]
    intro other mem
    have miss := List.all_eq_true.mp (List.all_eq_true.mp caseRuns_miss run known) other mem
    rw [CaseRun.not_contains_of_misses miss capital]
    decide
  have plain : Char.ofNat (run.lower code) ≠ 'İ' := by
    intro same
    have place := toNat_smallForm known capital
    rw [same] at place
    have outside := (lower_formed known capital).1
    rw [← place] at outside
    exact absurd outside (by decide)
  constructor
  · intro same
    rw [same] at unknown
    exact absurd unknown (by decide +kernel)
  · exact lowerChar_of_unknown plain unknown

theorem formed_smallForm {run : CaseRun} {code : Nat} (known : run ∈ caseRuns)
    (capital : run.contains code = true) : Formed (Char.ofNat (run.lower code)) := by
  have outside := (lower_formed known capital).1
  constructor
  · rw [toNat_smallForm known capital]
    simp only [inRanges, List.any_eq_false, Bool.and_eq_true, decide_eq_true_eq] at outside
    have above := outside (0, 0x60) (by decide)
    omega
  · rw [Bool.eq_false_iff]
    intro blank
    have clash := inRanges_of_isBlank blank
    rw [toNat_smallForm known capital, outside] at clash
    cases clash

/-- What lower case puts in the place of a character: the small sigma between its neighbours, or
the small form of the character alone. -/
def lowerAt (before : List Char) (c : Char) (rest : List Char) : List Char :=
  if c = 'Σ' then [lowerSigma before rest] else lowerChar c

theorem lowerFrom_cons (before rest : List Char) (c : Char) :
    lowerFrom before (c :: rest) = lowerAt before c rest ++ lowerFrom (c :: before) rest := rfl

theorem lowerSigma_cases (before rest : List Char) :
    lowerSigma before rest = 'ς' ∨ lowerSigma before rest = 'σ' := by
  unfold lowerSigma
  split
  · exact .inl rfl
  · exact .inr rfl

theorem lowerAt_ne_nil (before : List Char) (c : Char) (rest : List Char) :
    lowerAt before c rest ≠ [] := by
  unfold lowerAt lowerChar
  split
  · exact List.cons_ne_nil _ _
  · split
    · exact List.cons_ne_nil _ _
    · split <;> exact List.cons_ne_nil _ _

variable {before s rest : List Char} {c d : Char}

/-- A character of a text is kept, or it makes way for small forms. -/
theorem mem_lowerAt (mem : d ∈ lowerAt before c rest) : Settled d ∧ (d = c ∨ Formed d) := by
  unfold lowerAt at mem
  by_cases sigma : c = 'Σ'
  · rw [if_pos sigma, List.mem_singleton] at mem
    subst mem
    rcases lowerSigma_cases before rest with final | inner
    · rw [final]
      exact ⟨⟨by decide, by decide +kernel⟩, .inr ⟨by decide, by decide⟩⟩
    · rw [inner]
      exact ⟨⟨by decide, by decide +kernel⟩, .inr ⟨by decide, by decide⟩⟩
  · rw [if_neg sigma] at mem
    by_cases dotted : c = 'İ'
    · rw [lowerChar, if_pos dotted] at mem
      simp only [List.mem_cons, List.not_mem_nil, or_false] at mem
      rcases mem with rfl | rfl
      · exact ⟨⟨by decide, by decide +kernel⟩, .inr ⟨by decide, by decide⟩⟩
      · exact ⟨⟨by decide, by decide +kernel⟩, .inr ⟨by decide, by decide⟩⟩
    · cases found : caseRuns.find? (·.contains c.toNat) with
      | none =>
          have kept := lowerChar_of_unknown dotted found
          rw [kept, List.mem_singleton] at mem
          subst mem
          exact ⟨⟨sigma, kept⟩, .inl rfl⟩
      | some run =>
          rw [lowerChar_of_find? dotted found, List.mem_singleton] at mem
          subst mem
          have known := List.mem_of_find?_eq_some found
          have capital := List.find?_some found
          exact ⟨settled_smallForm known capital, .inr (formed_smallForm known capital)⟩

/-! ## Whole texts -/

theorem mem_lowerFrom (mem : d ∈ lowerFrom before s) : Settled d ∧ (d ∈ s ∨ Formed d) := by
  induction s generalizing before with
  | nil => cases mem
  | cons c rest ih =>
      rw [lowerFrom_cons, List.mem_append] at mem
      rcases mem with here | later
      · obtain ⟨settled, kept⟩ := mem_lowerAt here
        refine ⟨settled, kept.imp_left ?_⟩
        rintro rfl
        exact List.mem_cons_self
      · obtain ⟨settled, kept⟩ := ih later
        exact ⟨settled, kept.imp_left (List.mem_cons_of_mem _)⟩

theorem lowerFrom_ne_nil (filled : s ≠ []) : lowerFrom before s ≠ [] := by
  cases s with
  | nil => exact absurd rfl filled
  | cons c rest => exact List.append_ne_nil_of_left_ne_nil (lowerAt_ne_nil before c rest) _

theorem lower_ne_nil (filled : s ≠ []) : lower s ≠ [] :=
  lowerFrom_ne_nil filled

/-- A character in lower case is one of the text itself or a small form. -/
theorem mem_lower (mem : d ∈ lower s) : d ∈ s ∨ Formed d :=
  (mem_lowerFrom mem).2

theorem head?_lower (first : d ∈ (lower s).head?) : d ∈ s.head? ∨ Formed d := by
  cases s with
  | nil => cases first
  | cons c rest =>
      obtain ⟨made, others, shape⟩ := List.exists_cons_of_ne_nil (lowerAt_ne_nil [] c rest)
      rw [lower, lowerFrom_cons, shape] at first
      obtain rfl := Option.some.inj first
      have here : made ∈ lowerAt [] c rest := shape ▸ List.mem_cons_self
      refine (mem_lowerAt here).2.imp_left ?_
      rintro rfl
      rfl

theorem getLast?_lowerFrom (last : d ∈ (lowerFrom before s).getLast?) :
    d ∈ s.getLast? ∨ Formed d := by
  induction s generalizing before with
  | nil => cases last
  | cons c rest ih =>
      rw [lowerFrom_cons] at last
      cases rest with
      | nil =>
          rw [lowerFrom, List.append_nil] at last
          refine (mem_lowerAt (List.mem_of_mem_getLast? last)).2.imp_left ?_
          rintro rfl
          rfl
      | cons next rest =>
          have filled : lowerFrom (c :: before) (next :: rest) ≠ [] :=
            lowerFrom_ne_nil (List.cons_ne_nil _ _)
          have known := List.getLast?_eq_some_getLast filled
          rw [List.getLast?_append, known, Option.some_or, ← known] at last
          rw [List.getLast?_cons_cons]
          exact ih last

theorem getLast?_lower (last : d ∈ (lower s).getLast?) : d ∈ s.getLast? ∨ Formed d :=
  getLast?_lowerFrom last

theorem lowerFrom_of_settled (settled : ∀ c ∈ s, Settled c) : lowerFrom before s = s := by
  induction s generalizing before with
  | nil => rfl
  | cons c rest ih =>
      have here := settled c List.mem_cons_self
      rw [lowerFrom_cons, lowerAt, if_neg here.ne_sigma, here.kept,
        ih fun d mem => settled d (List.mem_cons_of_mem _ mem)]
      rfl

/-- Lower case is reached in one step. -/
theorem lower_lower (s : List Char) : lower (lower s) = lower s :=
  lowerFrom_of_settled fun _ mem => (mem_lowerFrom mem).1

/-! ## ASCII texts -/

theorem toLower_of_not_capital (plain : ¬ (0x41 ≤ c.toNat ∧ c.toNat ≤ 0x5A)) : c.toLower = c := by
  unfold Char.toLower
  rw [dif_neg]
  rintro ⟨above, below⟩
  exact plain ⟨UInt32.le_iff_toNat_le.mp above, UInt32.le_iff_toNat_le.mp below⟩

theorem lowerChar_of_ascii (ascii : c.toNat < 0x80) : lowerChar c = [c.toLower] := by
  have plain : c ≠ 'İ' := by
    rintro rfl
    exact absurd ascii (by decide)
  have shape : caseRuns = ⟨0x41, 0x5A, 1, 0x61⟩ :: caseRuns.tail := rfl
  by_cases capital : 0x41 ≤ c.toNat ∧ c.toNat ≤ 0x5A
  · have found : caseRuns.find? (·.contains c.toNat) = some ⟨0x41, 0x5A, 1, 0x61⟩ := by
      rw [shape]
      apply List.find?_cons_of_pos
      rw [CaseRun.contains_iff]
      exact ⟨capital.1, capital.2, Nat.mod_one _⟩
    have small : ∀ n < 26, Char.ofNat (n + 0x61) = (Char.ofNat (n + 0x41)).toLower := by decide
    have here := small (c.toNat - 0x41) (by omega)
    rw [Nat.sub_add_cancel capital.1, Char.ofNat_toNat] at here
    rw [lowerChar_of_find? plain found, CaseRun.lower, here]
  · have unknown : caseRuns.find? (·.contains c.toNat) = none := by
      rw [List.find?_eq_none]
      intro run mem contained
      obtain ⟨above, below, _⟩ := CaseRun.contains_iff.mp contained
      rw [shape, List.mem_cons] at mem
      rcases mem with rfl | later
      · exact capital ⟨above, below⟩
      · have beyond := List.all_eq_true.mp caseRuns_tail_beyond run later
        rw [Nat.blt_eq] at beyond
        omega
    rw [lowerChar_of_unknown plain unknown, toLower_of_not_capital capital]

/-- An ASCII text is put into lower case letter by letter. -/
theorem lower_of_ascii (ascii : ∀ c ∈ s, c.toNat < 0x80) : lower s = s.map Char.toLower := by
  suffices general : ∀ before, lowerFrom before s = s.map Char.toLower from general []
  induction s with
  | nil => exact fun _ => rfl
  | cons c rest ih =>
      intro before
      have here := ascii c List.mem_cons_self
      have sigma : c ≠ 'Σ' := by
        rintro rfl
        exact absurd here (by decide)
      rw [lowerFrom_cons, lowerAt, if_neg sigma, lowerChar_of_ascii here,
        ih fun d mem => ascii d (List.mem_cons_of_mem _ mem)]
      rfl

/-! ## Dividing characters -/

/-- The character has no case, the search for a letter does not pass over it, and lower case leaves
it as it is. -/
structure Divides (c : Char) : Prop where
  uncased : isCased c = false
  counted : isCaseIgnorable c = false
  kept : lowerChar c = [c]

theorem startsWithCased_append {m : Char} (divides : Divides m) (s rest : List Char) :
    startsWithCased (s ++ m :: rest) = startsWithCased s := by
  induction s with
  | nil => simp [startsWithCased, divides.counted, divides.uncased]
  | cons c s ih =>
      cases passed : isCaseIgnorable c with
      | true => simpa [startsWithCased, passed] using ih
      | false => simp [startsWithCased, passed]

/-- What stands before a dividing character has no say in what stands behind it. -/
theorem lowerFrom_append_context {m : Char} (divides : Divides m) (near far s : List Char) :
    lowerFrom (near ++ m :: far) s = lowerFrom near s := by
  induction s generalizing near with
  | nil => rfl
  | cons c rest ih =>
      have rest := ih (c :: near)
      rw [List.cons_append] at rest
      rw [lowerFrom_cons, lowerFrom_cons, rest]
      simp only [lowerAt, lowerSigma, startsWithCased_append divides]

theorem lowerFrom_append {m : Char} (divides : Divides m) (before s rest : List Char) :
    lowerFrom before (s ++ m :: rest) = lowerFrom before s ++ m :: lower rest := by
  induction s generalizing before with
  | nil =>
      have sigma : m ≠ 'Σ' := by
        rintro rfl
        exact absurd divides.uncased (by decide +kernel)
      have behind := lowerFrom_append_context divides [] before rest
      rw [List.nil_append] at behind
      rw [List.nil_append, lowerFrom_cons, lowerAt, if_neg sigma, divides.kept, behind]
      rfl
  | cons c s ih =>
      rw [List.cons_append, lowerFrom_cons, lowerFrom_cons, ih, List.append_assoc]
      simp only [lowerAt, lowerSigma, startsWithCased_append divides]

/-- The two parts beside a dividing character are put into lower case on their own. -/
theorem lower_append {m : Char} (divides : Divides m) (s rest : List Char) :
    lower (s ++ m :: rest) = lower s ++ m :: lower rest :=
  lowerFrom_append divides [] s rest

end Gridbook.Text
