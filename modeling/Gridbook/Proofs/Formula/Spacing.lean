import Gridbook.Proofs.Formula.Written
import Gridbook.Proofs.Text.Trimming

/-!
# White space beside the marks of a formula

A mark divides a formula into two parts, each of which enters the form that is read without the
white space at its ends.  So white space that is put next to a mark, or in front of the text or
behind it, changes nothing, whether or not the text is a formula.
-/

namespace Gridbook.Formula

open Text

variable {behind : Bool} {m c : Char} {s u v w : List Char}

/-! ## Single white space characters -/

theorem marksNext_cons_blank (blank : isBlank c = true) (s : List Char) :
    marksNext (c :: s) = marksNext s := by
  rw [marksNext, trimStart_cons blank, marksNext]

theorem marksNext_cons_solid (solid : isBlank c = false) (s : List Char) :
    marksNext (c :: s) = isMark c := by
  rw [marksNext, trimStart_cons_solid solid]
  rfl

/-- What comes first is found in front of a mark or is the mark itself. -/
theorem marksNext_append_mark (mark : isMark m = true) (s v : List Char) :
    marksNext (s ++ m :: v) = marksNext (s ++ [m]) := by
  rw [marksNext, marksNext, trimStart_append_solid (isBlank_of_isMark mark),
    trimStart_append_solid (isBlank_of_isMark mark), List.head?_append, List.head?_append]
  rfl

/-- White space in front of the last character is passed over. -/
theorem marksNext_append_blank (blank : isBlank c = true) (m : Char) (s : List Char) :
    marksNext (s ++ [c, m]) = marksNext (s ++ [m]) := by
  induction s with
  | nil => exact marksNext_cons_blank blank [m]
  | cons d s ih =>
      cases before : isBlank d with
      | true =>
          rw [List.cons_append, List.cons_append, marksNext_cons_blank before,
            marksNext_cons_blank before, ih]
      | false =>
          rw [List.cons_append, List.cons_append, marksNext_cons_solid before,
            marksNext_cons_solid before]

/-- White space in front of a mark is taken away. -/
theorem tighten_append_blank (mark : isMark m = true) (blank : isBlank c = true) (behind : Bool)
    (s : List Char) : tighten behind (s ++ [c, m]) = tighten behind (s ++ [m]) := by
  induction s generalizing behind with
  | nil =>
      have next : marksNext [m] = true := by
        rw [marksNext, trimStart_cons_solid (isBlank_of_isMark mark)]
        exact mark
      rw [List.nil_append, List.nil_append, tighten, if_pos blank, next, Bool.or_true]
      rfl
  | cons d s ih =>
      rw [List.cons_append, List.cons_append, tighten, tighten,
        marksNext_append_blank blank, ih, ih, ih]

/-! ## The parts beside a mark -/

/-- What is taken away behind a mark does not depend on what stands in front of it, nor the other
way around. -/
theorem tighten_append_mark (mark : isMark m = true) (behind : Bool) (s v : List Char) :
    tighten behind (s ++ m :: v) = tighten behind (s ++ [m]) ++ tighten true v := by
  induction s generalizing behind with
  | nil =>
      rw [List.nil_append, List.nil_append, tighten_cons (isBlank_of_isMark mark),
        tighten_cons (isBlank_of_isMark mark), mark]
      rfl
  | cons d s ih =>
      rw [List.cons_append, List.cons_append, tighten, tighten, marksNext_append_mark mark]
      split
      · split
        · exact ih behind
        · rw [ih, List.cons_append]
      · rw [ih, List.cons_append]

theorem tighten_trimStart (s : List Char) : tighten true (trimStart s) = tighten true s := by
  induction s with
  | nil => rfl
  | cons c s ih =>
      cases blank : isBlank c with
      | true =>
          rw [trimStart_cons blank, ih, tighten, if_pos blank, Bool.true_or, if_pos rfl]
      | false => rw [trimStart_cons_solid blank]

theorem tighten_trimEnd (mark : isMark m = true) (behind : Bool) (s : List Char) :
    tighten behind (trimEnd s ++ [m]) = tighten behind (s ++ [m]) := by
  induction s using List.reverseRecOn with
  | nil => rfl
  | append_singleton s c ih =>
      cases blank : isBlank c with
      | true =>
          rw [trimEnd_concat_blank blank, ih, List.append_assoc]
          exact (tighten_append_blank mark blank behind s).symm
      | false => rw [trimEnd_append_solid blank s []]; rfl

/-- Of a text that a mark divides, each part is read without the white space at its ends. -/
theorem normal_append_mark (mark : isMark m = true) (u v : List Char) :
    normal (u ++ m :: v) =
      tighten false (lower (trim u) ++ [m]) ++ tighten true (lower (trim v)) := by
  have front : lower (trim u) = trimEnd (lower (trimStart u)) := (trimEnd_lower _).symm
  have back : lower (trim v) = trimStart (lower (trimEnd v)) := by
    rw [trimStart_lower, trimStart_trimEnd]
  rw [normal, trim_append_solid (isBlank_of_isMark mark), lower_append (divides_of_isMark mark),
    tighten_append_mark mark, front, back, tighten_trimEnd mark, tighten_trimStart]

/-! ## White space where two parts meet -/

/-- Two parts of a text of which one is empty, the first ends in a mark, or the second starts with
one. -/
inductive MeetAtMark : List Char → List Char → Prop where
  | start (v : List Char) : MeetAtMark [] v
  | finish (u : List Char) : MeetAtMark u []
  | behind (u v : List Char) {m : Char} (mark : m ∈ ['(', ')', ',']) : MeetAtMark (u ++ [m]) v
  | before (u v : List Char) {m : Char} (mark : m ∈ ['(', ')', ',']) : MeetAtMark u (m :: v)

theorem isMark_iff : isMark m = true ↔ m ∈ ['(', ')', ','] := by
  simp [isMark, or_assoc]

theorem normal_append_blank (blank : AllBlank w) (meet : MeetAtMark u v) :
    normal (u ++ w ++ v) = normal (u ++ v) := by
  cases meet with
  | start v => rw [List.nil_append, normal, trim_append_blank_left blank, normal, List.nil_append]
  | finish u =>
      rw [List.append_nil, normal, trim_append_blank_right blank, normal, List.append_nil]
  | behind u v mark =>
      rw [List.append_assoc, List.append_assoc, List.append_assoc, List.singleton_append,
        List.singleton_append, normal_append_mark (isMark_iff.mpr mark),
        normal_append_mark (isMark_iff.mpr mark), trim_append_blank_left blank]
  | before u v mark =>
      rw [normal_append_mark (isMark_iff.mpr mark), normal_append_mark (isMark_iff.mpr mark),
        trim_append_blank_right blank]

/-- White space next to a parenthesis or comma, or at an end of the text, changes nothing: the same
formula is read, or there is none in either text. -/
theorem parse_append_blank (blank : AllBlank w) (meet : MeetAtMark u v) :
    parse (u ++ w ++ v) = parse (u ++ v) := by
  rw [parse, parse, normal_append_blank blank meet]

/-- An em space and a line feed between a capital keyword and its parenthesis. -/
theorem parse_append_blank_of_keyword :
    AllBlank "\u2003\n".toList ∧ MeetAtMark " MULT".toList "((1,1) , ( 3,4))".toList ∧
      parse (" MULT".toList ++ "\u2003\n".toList ++ "((1,1) , ( 3,4))".toList) =
        parse (" MULT".toList ++ "((1,1) , ( 3,4))".toList) := by
  have blank : AllBlank "\u2003\n".toList := by decide
  have meet : MeetAtMark " MULT".toList "((1,1) , ( 3,4))".toList := .before _ _ (by decide)
  exact ⟨blank, meet, parse_append_blank blank meet⟩

end Gridbook.Formula
