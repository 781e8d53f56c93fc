import Gridbook.Proofs.Text.Lower
import Mathlib.Data.List.DropRight

/-!
# Trimming and its neighbours

White space at the ends of a text is trimmed without regard to what it precedes or follows, and the
end that is trimmed first does not matter.  A character that is no white space keeps the parts of a
text apart, so that each is trimmed at its own end only.  White space has no case, and no letter
becomes white space, so trimming and lower case may change places.
-/

namespace Gridbook.Text

variable {s w : List Char} {c : Char}

theorem allBlank_cons : AllBlank (c :: s) ↔ isBlank c = true ∧ AllBlank s := by
  rw [AllBlank, List.all_cons, Bool.and_eq_true]
  rfl

/-! ## One end -/

theorem trimStart_eq_nil_iff (s : List Char) : trimStart s = [] ↔ AllBlank s := by
  rw [trimStart, List.dropWhile_eq_nil_iff, AllBlank, List.all_eq_true]

theorem trimEnd_eq_nil_iff (s : List Char) : trimEnd s = [] ↔ AllBlank s := by
  rw [trimEnd, List.reverse_eq_nil_iff, trimStart_eq_nil_iff, AllBlank, AllBlank, List.all_reverse]

/-- What is trimmed from the start of a text is white space. -/
theorem exists_eq_append_trimStart (s : List Char) : ∃ w, AllBlank w ∧ s = w ++ trimStart s :=
  ⟨s.takeWhile isBlank, List.all_takeWhile, List.takeWhile_append_dropWhile.symm⟩

theorem trimStart_append_blank (blank : AllBlank w) (s : List Char) :
    trimStart (w ++ s) = trimStart s :=
  List.dropWhile_append_of_pos (List.all_eq_true.mp blank)

theorem trimStart_cons_solid (solid : isBlank c = false) (s : List Char) :
    trimStart (c :: s) = c :: s :=
  trimStart_eq_self fun _ first => Option.some.inj first ▸ solid

/-- A character that is no white space stays, and so does what is behind it. -/
theorem trimStart_append_solid (solid : isBlank c = false) (s rest : List Char) :
    trimStart (s ++ c :: rest) = trimStart s ++ c :: rest := by
  induction s with
  | nil => exact trimStart_cons_solid solid rest
  | cons d s ih =>
      cases blank : isBlank d with
      | true => rw [List.cons_append, trimStart_cons blank, trimStart_cons blank, ih]
      | false =>
          rw [List.cons_append, trimStart_cons_solid blank, trimStart_cons_solid blank,
            List.cons_append]

/-- A blank text continues no run of digits, unless what is behind it does. -/
theorem AllBlank.isDigit_of_head?_append (blank : AllBlank w) (rest : List Char)
    (stop : ∀ c ∈ rest.head?, c.isDigit = false) : ∀ c ∈ (w ++ rest).head?, c.isDigit = false := by
  intro c first
  cases w with
  | nil => exact stop c first
  | cons d w =>
      obtain rfl := Option.some.inj first
      rw [Bool.eq_false_iff]
      intro digit
      cases (allBlank_cons.mp blank).1.symm.trans (isBlank_of_isDigit digit)

theorem trimEnd_append_blank (blank : AllBlank w) (s : List Char) :
    trimEnd (s ++ w) = trimEnd s := by
  have turned : AllBlank w.reverse := by
    rw [AllBlank, List.all_reverse]
    exact blank
  rw [trimEnd, List.reverse_append, trimStart_append_blank turned, trimEnd]

/-- A character that is no white space stays, and so does what is in front of it. -/
theorem trimEnd_append_solid (solid : isBlank c = false) (s rest : List Char) :
    trimEnd (s ++ c :: rest) = s ++ c :: trimEnd rest := by
  rw [trimEnd, List.reverse_append, List.reverse_cons, List.append_assoc, List.singleton_append,
    trimStart_append_solid solid]
  simp [trimEnd]

theorem trimEnd_eq_self (last : ∀ c ∈ s.getLast?, isBlank c = false) : trimEnd s = s := by
  rw [trimEnd, trimStart_eq_self, List.reverse_reverse]
  rw [List.head?_reverse]
  exact last

theorem trimEnd_concat_blank (blank : isBlank c = true) (s : List Char) :
    trimEnd (s ++ [c]) = trimEnd s :=
  trimEnd_append_blank (by simp [AllBlank, blank]) s

/-- White space in front of a text is kept unless nothing is left of the text. -/
theorem trimEnd_cons_blank (blank : isBlank c = true) (s : List Char) :
    trimEnd (c :: s) = trimEnd s ∨ trimEnd (c :: s) = c :: trimEnd s := by
  have turned : trimStart (s.reverse ++ [c]) =
      if (trimStart s.reverse).isEmpty then trimStart [c] else trimStart s.reverse ++ [c] :=
    List.dropWhile_append
  rw [trimEnd, List.reverse_cons, turned]
  split
  · rename_i empty
    left
    rw [trimEnd, List.isEmpty_iff.mp empty, trimStart_cons blank]
    rfl
  · right
    rw [List.reverse_append]
    rfl

/-! ## Both ends -/

/-- Trimming leaves nothing exactly when there was nothing but white space. -/
theorem trim_eq_nil_iff (s : List Char) : trim s = [] ↔ AllBlank s := by
  have again : trimStart (trimStart s) = trimStart s :=
    List.dropWhile_idempotent isBlank s
  rw [trim, trimEnd_eq_nil_iff, ← trimStart_eq_nil_iff, again, trimStart_eq_nil_iff]

/-- It does not matter which end is trimmed first. -/
theorem trimStart_trimEnd (s : List Char) : trimStart (trimEnd s) = trim s := by
  induction s with
  | nil => rfl
  | cons c s ih =>
      cases blank : isBlank c with
      | false =>
          have ends : trimEnd (c :: s) = c :: trimEnd s := trimEnd_append_solid blank [] s
          rw [trim, trimStart_cons_solid blank, ends, trimStart_cons_solid blank]
      | true =>
          rw [trim_cons blank, ← ih]
          rcases trimEnd_cons_blank blank s with ends | ends
          · rw [ends]
          · rw [ends, trimStart_cons blank]

theorem trim_append_blank_left (blank : AllBlank w) (s : List Char) : trim (w ++ s) = trim s := by
  rw [trim, trimStart_append_blank blank, trim]

theorem trim_append_blank_right (blank : AllBlank w) (s : List Char) : trim (s ++ w) = trim s := by
  rw [← trimStart_trimEnd, trimEnd_append_blank blank, trimStart_trimEnd]

/-- A character that is no white space leaves the two parts beside it one end each. -/
theorem trim_append_solid (solid : isBlank c = false) (s rest : List Char) :
    trim (s ++ c :: rest) = trimStart s ++ c :: trimEnd rest := by
  rw [trim, trimStart_append_solid solid, trimEnd_append_solid solid]

theorem trim_sublist (s : List Char) : (trim s).Sublist s := by
  have back : (trim s).Sublist (trimStart s) := by
    rw [← List.reverse_sublist, trim, trimEnd, List.reverse_reverse]
    exact List.dropWhile_sublist isBlank
  exact back.trans (List.dropWhile_sublist isBlank)

/-- Trimming leaves nothing to trim. -/
theorem trim_trim (s : List Char) : trim (trim s) = trim s := by
  apply trim_eq_self
  · intro c first
    rw [← trimStart_trimEnd] at first
    exact isBlank_of_head?_trimStart first
  · intro c last
    rw [trim, trimEnd, List.getLast?_reverse] at last
    exact isBlank_of_head?_trimStart last

theorem trimEnd_trimEnd (s : List Char) : trimEnd (trimEnd s) = trimEnd s := by
  apply trimEnd_eq_self
  intro c last
  rw [trimEnd, List.getLast?_reverse] at last
  exact isBlank_of_head?_trimStart last

theorem trim_trimEnd (s : List Char) : trim (trimEnd s) = trim s := by
  rw [← trimStart_trimEnd, trimEnd_trimEnd, trimStart_trimEnd]

/-! ## Lower case -/

/-- The code points of white space. -/
def blankCodes : List Nat :=
  [0x9, 0xA, 0xB, 0xC, 0xD, 0x20, 0x85, 0xA0, 0x1680, 0x2000, 0x2001, 0x2002, 0x2003, 0x2004,
    0x2005, 0x2006, 0x2007, 0x2008, 0x2009, 0x200A, 0x2028, 0x2029, 0x202F, 0x205F, 0x3000]

theorem mem_blankCodes (blank : isBlank c = true) : c.toNat ∈ blankCodes := by
  simp only [isBlank, Bool.or_eq_true, Bool.and_eq_true, decide_eq_true_eq, beq_iff_eq] at blank
  simp only [blankCodes, List.mem_cons, List.not_mem_nil, or_false]
  omega

/-- No white space is a letter with case, a mark inside a word or a capital. -/
theorem blankCodes_caseless : (blankCodes.all fun code =>
    !inRanges casedRanges code && !inRanges caseIgnorableRanges code &&
      caseRuns.all fun run => !run.contains code) = true := by
  decide +kernel

/-- White space divides a text into parts that are put into lower case independently. -/
theorem divides_of_isBlank (blank : isBlank c = true) : Divides c := by
  have known := mem_blankCodes blank
  have caseless := List.all_eq_true.mp blankCodes_caseless _ known
  simp only [Bool.and_eq_true, Bool.not_eq_true'] at caseless
  obtain ⟨⟨uncased, counted⟩, unlisted⟩ := caseless
  refine ⟨uncased, counted, lowerChar_of_unknown ?_ ?_⟩
  · rintro rfl
    exact absurd known (by decide)
  · rw [List.find?_eq_none]
    intro run mem
    simpa using List.all_eq_true.mp unlisted run mem

theorem trimStart_lower (s : List Char) : trimStart (lower s) = lower (trimStart s) := by
  induction s with
  | nil => rfl
  | cons c s ih =>
      cases blank : isBlank c with
      | true =>
          have kept : lower (c :: s) = c :: lower s := lower_append (divides_of_isBlank blank) [] s
          rw [kept, trimStart_cons blank, trimStart_cons blank, ih]
      | false =>
          rw [trimStart_cons_solid blank]
          apply trimStart_eq_self
          intro d first
          rcases head?_lower first with same | formed
          · obtain rfl := Option.some.inj same
            exact blank
          · exact formed.solid

theorem trimEnd_lower (s : List Char) : trimEnd (lower s) = lower (trimEnd s) := by
  induction s using List.reverseRecOn with
  | nil => rfl
  | append_singleton s c ih =>
      cases blank : isBlank c with
      | true =>
          have kept : lower (s ++ [c]) = lower s ++ [c] :=
            lower_append (divides_of_isBlank blank) s []
          rw [kept, trimEnd_concat_blank blank, trimEnd_concat_blank blank, ih]
      | false =>
          have ends : trimEnd (s ++ [c]) = s ++ [c] := trimEnd_append_solid blank s []
          rw [ends]
          apply trimEnd_eq_self
          intro d last
          rcases getLast?_lower last with same | formed
          · rw [List.getLast?_concat] at same
            obtain rfl := Option.some.inj same
            exact blank
          · exact formed.solid

theorem trim_lower (s : List Char) : trim (lower s) = lower (trim s) := by
  rw [trim, trimStart_lower, trimEnd_lower, trim]

/-- Lower case takes no white space away from the ends of a text. -/
theorem trim_eq_self_of_lower (trimmed : trim (lower s) = lower s) : trim s = s := by
  apply trim_eq_self
  · intro c first
    obtain ⟨rest, rfl⟩ := List.head?_eq_some_iff.mp first
    rw [Bool.eq_false_iff]
    intro blank
    have kept : lower (c :: rest) = c :: lower rest :=
      lower_append (divides_of_isBlank blank) [] rest
    have solid := first_of_trim trimmed c (by rw [kept]; rfl)
    cases blank.symm.trans solid
  · intro c last
    obtain ⟨front, rfl⟩ := List.getLast?_eq_some_iff.mp last
    rw [Bool.eq_false_iff]
    intro blank
    have kept : lower (front ++ [c]) = lower front ++ [c] :=
      lower_append (divides_of_isBlank blank) front []
    have solid := last_of_trim trimmed c (by rw [kept, List.getLast?_concat]; rfl)
    cases blank.symm.trans solid

end Gridbook.Text
