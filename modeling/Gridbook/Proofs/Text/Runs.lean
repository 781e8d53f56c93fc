import Gridbook.Text.Blank
import Gridbook.Text.Numeral

/-!
# Runs of characters

A reader takes the longest run of one kind of character.  Where a text consists of such a run and a
rest that does not continue it, the run and the rest are what it finds.  Trimming leaves a text as
it is if neither its first nor its last character is white space.
-/

namespace Gridbook.Text

section Run

variable {p : Char → Bool} {run rest : List Char}

theorem takeWhile_run (all : ∀ c ∈ run, p c = true) (stop : ∀ c ∈ rest.head?, p c = false) :
    (run ++ rest).takeWhile p = run := by
  rw [List.takeWhile_append_of_pos all]
  cases rest with
  | nil => exact List.append_nil run
  | cons c rest =>
      have ends : ¬ p c = true := Bool.eq_false_iff.mp (stop c rfl)
      rw [List.takeWhile_cons_of_neg ends, List.append_nil]

theorem dropWhile_run (all : ∀ c ∈ run, p c = true) (stop : ∀ c ∈ rest.head?, p c = false) :
    (run ++ rest).dropWhile p = rest := by
  rw [List.dropWhile_append_of_pos all]
  cases rest with
  | nil => rfl
  | cons c rest => exact List.dropWhile_cons_of_neg (Bool.eq_false_iff.mp (stop c rfl))

end Run

/-! ## Trimming -/

theorem trimStart_eq_self {s : List Char} (first : ∀ c ∈ s.head?, isBlank c = false) :
    trimStart s = s :=
  @dropWhile_run isBlank [] s (fun _ mem => nomatch mem) first

/-- Nothing is trimmed where both ends are no white space. -/
theorem trim_eq_self {s : List Char} (first : ∀ c ∈ s.head?, isBlank c = false)
    (last : ∀ c ∈ s.getLast?, isBlank c = false) : trim s = s := by
  rw [trim, trimStart_eq_self first, trimEnd, trimStart_eq_self, List.reverse_reverse]
  rw [List.head?_reverse]
  exact last

/-- What is left by trimming at the start does not start with white space. -/
theorem isBlank_of_head?_trimStart {s : List Char} {c : Char}
    (first : c ∈ (trimStart s).head?) : isBlank c = false := by
  have start := List.head?_dropWhile_not isBlank s
  rw [← trimStart, Option.mem_def.mp first] at start
  simpa using start

theorem trimStart_eq_of_trim {s : List Char} (trimmed : trim s = s) : trimStart s = s := by
  apply (List.dropWhile_suffix isBlank).eq_of_length_le
  have shorter : (trim s).length ≤ (trimStart s).length := by
    have kept := (List.dropWhile_suffix isBlank (l := (trimStart s).reverse)).length_le
    rwa [List.length_reverse, ← List.length_reverse, ← trimStart, ← trimEnd, ← trim] at kept
  rwa [trimmed] at shorter

/-- A text from which nothing is trimmed does not start with white space. -/
theorem first_of_trim {s : List Char} (trimmed : trim s = s) :
    ∀ c ∈ s.head?, isBlank c = false := by
  intro c first
  rw [← trimStart_eq_of_trim trimmed] at first
  exact isBlank_of_head?_trimStart first

/-- A text from which nothing is trimmed does not end in white space. -/
theorem last_of_trim {s : List Char} (trimmed : trim s = s) :
    ∀ c ∈ s.getLast?, isBlank c = false := by
  intro c last
  have turned : trimStart s.reverse = s.reverse := by
    rw [trim, trimStart_eq_of_trim trimmed, trimEnd, List.reverse_eq_iff] at trimmed
    exact trimmed
  rw [← List.head?_reverse, ← turned] at last
  exact isBlank_of_head?_trimStart last

theorem trimStart_cons {c : Char} (blank : isBlank c = true) (s : List Char) :
    trimStart (c :: s) = trimStart s :=
  List.dropWhile_cons_of_pos blank

/-- White space at the start does not count. -/
theorem trim_cons {c : Char} (blank : isBlank c = true) (s : List Char) :
    trim (c :: s) = trim s := by
  rw [trim, trimStart_cons blank, trim]

/-! ## Digits -/

theorem toNat_of_isDigit {c : Char} (digit : c.isDigit = true) : 48 ≤ c.toNat ∧ c.toNat ≤ 57 := by
  simp only [Char.isDigit, Bool.and_eq_true, decide_eq_true_eq] at digit
  exact ⟨UInt32.le_iff_toNat_le.mp digit.1, UInt32.le_iff_toNat_le.mp digit.2⟩

/-- A digit is no white space. -/
theorem isBlank_of_isDigit {c : Char} (digit : c.isDigit = true) : isBlank c = false := by
  obtain ⟨lower, upper⟩ := toNat_of_isDigit digit
  simp only [isBlank, Bool.or_eq_false_iff, Bool.and_eq_false_iff, decide_eq_false_iff_not,
    beq_eq_false_iff_ne]
  omega

theorem ne_of_isDigit {c mark : Char} (digit : c.isDigit = true) (other : mark.isDigit = false) :
    c ≠ mark := by
  rintro rfl
  cases other.symm.trans digit

/-- A digit has no other letter case. -/
theorem toLower_of_isDigit {c : Char} (digit : c.isDigit = true) : c.toLower = c := by
  obtain ⟨_, upper⟩ := toNat_of_isDigit digit
  unfold Char.toLower
  rw [dif_neg]
  rintro ⟨capital, _⟩
  have above : 65 ≤ c.toNat := UInt32.le_iff_toNat_le.mp capital
  omega

/-- One or more decimal digits. -/
structure DigitRun (s : List Char) : Prop where
  filled : s ≠ []
  digits : ∀ c ∈ s, c.isDigit = true

theorem digitRun_digits (n : Nat) : DigitRun (digits n) :=
  ⟨digits_ne_nil n, fun _ => isDigit_of_mem_digits⟩

theorem digitRun_takeWhile {s : List Char} (filled : s.takeWhile Char.isDigit ≠ []) :
    DigitRun (s.takeWhile Char.isDigit) :=
  ⟨filled, List.all_eq_true.mp List.all_takeWhile⟩

theorem DigitRun.isDigit_of_head? {s rest : List Char} {c : Char} (run : DigitRun s)
    (first : c ∈ (s ++ rest).head?) : c.isDigit = true := by
  obtain ⟨d, tail, written⟩ := List.exists_cons_of_ne_nil run.filled
  rw [written] at first
  obtain rfl := Option.some.inj first
  exact run.digits d (written ▸ List.mem_cons_self)

theorem DigitRun.notMem {s : List Char} (run : DigitRun s) (mark : Char)
    (other : mark.isDigit = false) : mark ∉ s :=
  fun mem => ne_of_isDigit (run.digits mark mem) other rfl

/-- The first character of a number's digits is one of them. -/
theorem isDigit_of_head?_digits {n : Nat} {rest : List Char} {c : Char}
    (first : c ∈ (digits n ++ rest).head?) : c.isDigit = true :=
  (digitRun_digits n).isDigit_of_head? first

/-- A number is read exactly from a run of digits, as its value. -/
theorem natural?_eq_some_iff {s : List Char} {n : Nat} :
    natural? s = some n ↔ DigitRun s ∧ ofDigits s = n := by
  have digital : (s ≠ [] ∧ s.all Char.isDigit) ↔ DigitRun s :=
    ⟨fun both => ⟨both.1, List.all_eq_true.mp both.2⟩,
      fun run => ⟨run.filled, List.all_eq_true.mpr run.digits⟩⟩
  simp only [natural?, digital, Option.ite_none_right_eq_some, Option.some.injEq]

end Gridbook.Text
