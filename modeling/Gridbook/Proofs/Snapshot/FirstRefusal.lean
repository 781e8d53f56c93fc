import Gridbook.Proofs.Snapshot.Meaning
import Gridbook.Proofs.Text.LineStarts

/-!
# The first line that is refused

Reading fails at the first line that is refused.  What is wrong there depends on the lines up to that
one only, and the lines before it have nothing wrong.  Only if no line is refused the text as a whole
is judged: it fails at the line that gives the current sheet last if that sheet is missing, and
without a line if there are no sheets.
-/

namespace Gridbook.Snapshot

open Text

variable {text text' : List (List Char)} {line : List Char} {number m : Nat} {cause c : Cause}
  {p q : Progress} {failure : Failure} {es : List Entry} {source : String}

/-! ## What is found at a line -/

/-- The cause is found at the line itself, and not once all lines are known. -/
def Cause.Immediate : Cause → Prop
  | .currentOutOfRange _ _ => False
  | _ => True

/-- Whatever goes wrong is found at the line itself. -/
def FoundHere {α : Type} (r : Except Cause α) : Prop :=
  ∀ cause, r = .error cause → cause.Immediate

namespace FoundHere

variable {α β : Type}

theorem ok (x : α) : FoundHere (.ok x) := nofun

theorem error (immediate : cause.Immediate) : FoundHere (.error cause : Except Cause α) := by
  rintro _ ⟨⟩
  exact immediate

theorem bind {first : Except Cause α} {next : α → Except Cause β} (start : FoundHere first)
    (later : ∀ x, FoundHere (next x)) : FoundHere (first >>= next) := by
  cases first with
  | ok x => exact later x
  | error cause => exact error (start cause rfl)

end FoundHere

theorem foundHere_readHeader (line : List Char) : FoundHere (readHeader line) := by
  unfold readHeader
  split
  · split
    · dsimp only
      repeat' split
      all_goals first | exact .ok _ | exact .error trivial
    · exact .error trivial
  · exact .error trivial

theorem foundHere_readOutcome (text : List Char) : FoundHere (readOutcome text) := by
  unfold readOutcome
  repeat' split
  all_goals first | exact .ok _ | exact .error trivial

theorem foundHere_readSuffix (text : List Char) : FoundHere (readSuffix text) := by
  unfold readSuffix
  split
  · exact (foundHere_readOutcome _).bind fun _ => .ok _
  · split
    · exact .ok _
    · exact .error trivial

theorem foundHere_readCell (text : List Char) : FoundHere (readCell text) := by
  unfold readCell
  split
  · refine (foundHere_readSuffix _).bind fun outcome => ?_
    split
    all_goals first | exact .ok _ | exact .error trivial
  · exact .error trivial

theorem foundHere_readCellLine (s : Sheet) (line : List Char) : FoundHere (readCellLine s line) := by
  unfold readCellLine
  split
  · split
    · dsimp only
      split
      · exact .error trivial
      · exact (foundHere_readCell _).bind fun _ => .ok _
    · exact .error trivial
  · exact .error trivial

theorem Progress.foundHere_advance (p : Progress) (number : Nat) (line : List Char) :
    FoundHere (p.advance number line) := by
  unfold advance
  split
  · exact .ok _
  · split
    · exact .ok _
    · exact .error trivial
  · exact (foundHere_readHeader _).bind fun _ => .ok _
  · split
    · exact .error trivial
    · exact (foundHere_readCellLine _ _).bind fun _ => .ok _

/-! ## The first refusal -/

theorem bind_eq_error_iff {ε α β : Type} {first : Except ε α} {next : α → Except ε β} {e : ε} :
    first >>= next = .error e ↔ first = .error e ∨ ∃ x, first = .ok x ∧ next x = .error e := by
  cases first with
  | error other =>
      constructor
      · exact fun failed => .inl (congrArg _ (Except.error.inj failed))
      · rintro (same | ⟨x, never, _⟩)
        · exact congrArg _ (Except.error.inj same)
        · cases never
  | ok x =>
      constructor
      · exact fun failed => .inr ⟨x, rfl, failed⟩
      · rintro (never | ⟨_, same, failed⟩)
        · cases never
        · obtain rfl := Except.ok.inj same
          exact failed

/-- A fold fails at one element, after it went through what is in front of that. -/
theorem foldlM_eq_error_iff {ε α β : Type} {f : β → α → Except ε β} {l : List α} {x : β} {e : ε} :
    l.foldlM f x = .error e ↔ ∃ before a after y, l = before ++ a :: after ∧
      before.foldlM f x = .ok y ∧ f y a = .error e := by
  constructor
  · intro failed
    induction l generalizing x with
    | nil => cases failed
    | cons a rest ih =>
        rw [List.foldlM_cons] at failed
        obtain failed | ⟨y, first, failed⟩ := bind_eq_error_iff.mp failed
        · exact ⟨[], a, rest, x, rfl, rfl, failed⟩
        · obtain ⟨before, b, after, z, rfl, passed, failed⟩ := ih failed
          refine ⟨a :: before, b, after, z, rfl, ?_, failed⟩
          rw [List.foldlM_cons]
          exact bind_eq_ok_iff.mpr ⟨y, first, passed⟩
  · rintro ⟨before, a, after, y, rfl, passed, failed⟩
    rw [List.foldlM_append]
    refine bind_eq_error_iff.mpr (.inr ⟨y, passed, ?_⟩)
    rw [List.foldlM_cons]
    exact bind_eq_error_iff.mpr (.inl failed)

/-- The lines before the one with the number are accepted, and that one is refused. -/
def Refused (text : List (List Char)) (number : Nat) (cause : Cause) : Prop :=
  ∃ before line after p, text = before ++ line :: after ∧ number = before.length + 1 ∧
    (before.zipIdx 1).foldlM Progress.step .start = .ok p ∧
    p.advance number (trim line) = .error cause

/-- No line is refused. -/
def Unrefused (text : List (List Char)) : Prop :=
  ∀ number cause, ¬ Refused text number cause

theorem foldlM_step_eq_error_iff :
    (text.zipIdx 1).foldlM Progress.step .start = .error failure ↔
      ∃ number cause, Refused text number cause ∧ failure = .atLine number cause := by
  constructor
  · intro failed
    obtain ⟨before, ⟨line, number⟩, after, p, numbered, passed, failed⟩ :=
      foldlM_eq_error_iff.mp failed
    obtain ⟨front, back, rfl, rfl, rest⟩ := List.zipIdx_eq_append_iff.mp numbered
    obtain ⟨last, behind, rfl, same, rfl⟩ := List.zipIdx_eq_cons_iff.mp rest.symm
    obtain ⟨rfl, rfl⟩ := Prod.mk.inj same
    obtain ⟨cause, refused, rfl⟩ := Progress.step_eq_error_iff.mp failed
    exact ⟨_, cause, ⟨front, line, behind, p, rfl, Nat.add_comm .., passed, refused⟩, rfl⟩
  · rintro ⟨number, cause, ⟨before, line, after, p, rfl, rfl, passed, failed⟩, rfl⟩
    refine foldlM_eq_error_iff.mpr ⟨before.zipIdx 1, (line, before.length + 1),
      after.zipIdx (before.length + 2), p, ?_, passed, ?_⟩
    · rw [List.zipIdx_append, List.zipIdx_cons, Nat.add_comm 1]
    · exact Progress.step_eq_error_iff.mpr ⟨cause, failed, rfl⟩

theorem unrefused_iff :
    Unrefused text ↔ ∃ p, (text.zipIdx 1).foldlM Progress.step .start = .ok p := by
  constructor
  · intro unrefused
    cases read : (text.zipIdx 1).foldlM Progress.step .start with
    | ok p => exact ⟨p, rfl⟩
    | error failure =>
        obtain ⟨number, cause, refused, _⟩ := foldlM_step_eq_error_iff.mp read
        exact absurd refused (unrefused number cause)
  · rintro ⟨p, passed⟩ number cause refused
    have failed := foldlM_step_eq_error_iff.mpr ⟨number, cause, refused, rfl⟩
    cases passed.symm.trans failed

namespace Refused

theorem immediate (refused : Refused text number cause) : cause.Immediate := by
  obtain ⟨before, line, after, p, rfl, rfl, passed, failed⟩ := refused
  exact p.foundHere_advance _ _ cause failed

theorem within (refused : Refused text number cause) : 1 ≤ number ∧ number ≤ text.length := by
  obtain ⟨before, line, after, p, rfl, rfl, passed, failed⟩ := refused
  rw [List.length_append, List.length_cons]
  exact ⟨Nat.le_add_left .., Nat.add_le_add_left (Nat.le_add_left ..) _⟩

/-- Only the lines up to the one that is refused matter, without the white space around them. -/
theorem of_take (refused : Refused text number cause)
    (same : (text'.take number).map trim = (text.take number).map trim) :
    Refused text' number cause := by
  obtain ⟨before, line, after, p, rfl, rfl, passed, failed⟩ := refused
  have front : (before ++ line :: after).take (before.length + 1) = before ++ [line] := by
    rw [List.take_append, List.take_of_length_le (Nat.le_succ _), Nat.add_sub_cancel_left]
    rfl
  rw [front, List.map_append, List.map_singleton] at same
  obtain ⟨before', last, cut, fronts, lasts⟩ := List.map_eq_append_iff.mp same
  obtain ⟨line', rfl, trimmed⟩ := List.map_eq_singleton_iff.mp lasts
  have size : before'.length = before.length := by
    simpa using congrArg List.length fronts
  refine ⟨before', line', text'.drop (before.length + 1), p, ?_, by rw [size], ?_, ?_⟩
  · calc text' = text'.take (before.length + 1) ++ text'.drop (before.length + 1) :=
          (List.take_append_drop ..).symm
      _ = before' ++ line' :: text'.drop (before.length + 1) := by
          rw [cut, List.append_assoc, List.singleton_append]
  · rw [← Progress.foldlM_step_map_trim, fronts, Progress.foldlM_step_map_trim]
    exact passed
  · rw [trimmed]
    exact failed

/-- The lines before the one that is refused are not. -/
theorem unrefused_take (refused : Refused text number cause)
    (same : text'.map trim = (text.take (number - 1)).map trim) : Unrefused text' := by
  obtain ⟨before, line, after, p, rfl, rfl, passed, failed⟩ := refused
  rw [Nat.add_sub_cancel, List.take_left] at same
  refine unrefused_iff.mpr ⟨p, ?_⟩
  rw [← Progress.foldlM_step_map_trim, same, Progress.foldlM_step_map_trim]
  exact passed

end Refused

/-! ## The text as a whole -/

theorem ofSheets?_eq_none_iff {sheets : List Sheet} {index : Nat} :
    Workbook.ofSheets? sheets index = none ↔ sheets = [] := by
  cases sheets with
  | nil => exact ⟨fun _ => rfl, fun _ => rfl⟩
  | cons first rest =>
      refine ⟨fun none => ?_, nofun⟩
      unfold Workbook.ofSheets? at none
      dsimp only at none
      split at none <;> cases none

theorem ofSheets_eq_error_iff {sheets : List Sheet} {index : Nat} :
    Progress.finish.ofSheets sheets index = .error failure ↔
      sheets = [] ∧ failure = .noSheets := by
  rw [← ofSheets?_eq_none_iff]
  unfold Progress.finish.ofSheets
  cases Workbook.ofSheets? sheets index with
  | none =>
      constructor
      · exact fun failed => ⟨rfl, (Except.error.inj failed).symm⟩
      · rintro ⟨-, rfl⟩
        rfl
  | some w => exact ⟨nofun, nofun⟩

/-- At the end there may be no sheets, or not the one with the index that was given. -/
theorem Progress.finish_eq_error_iff : p.finish = .error failure ↔
    (p.sheets = [] ∧ failure = .noSheets) ∨
      ∃ index number, p.current = some (index, number) ∧ 0 < p.sheets.length ∧
        p.sheets.length ≤ index ∧
        failure = .atLine number (.currentOutOfRange index p.sheets.length) := by
  obtain ⟨sheets, current⟩ := p
  unfold finish
  cases current with
  | none =>
      dsimp only
      rw [ofSheets_eq_error_iff, List.reverse_eq_nil_iff]
      refine ⟨.inl, fun either => either.resolve_right ?_⟩
      rintro ⟨_, _, never, _⟩
      cases never
  | some given =>
      obtain ⟨index, number⟩ := given
      simp only [List.length_reverse, List.reverse_eq_nil_iff]
      split
      · rename_i fine
        rw [ofSheets_eq_error_iff, List.reverse_eq_nil_iff]
        refine ⟨.inl, fun either => either.resolve_right ?_⟩
        rintro ⟨_, _, same, filled, beyond, _⟩
        obtain ⟨rfl, rfl⟩ := Prod.mk.inj (Option.some.inj same)
        rcases fine with rfl | within
        · cases filled
        · exact absurd within (Nat.not_lt.mpr beyond)
      · rename_i missing
        obtain ⟨filled, beyond⟩ := not_or.mp missing
        constructor
        · intro failed
          exact .inr ⟨index, number, rfl, List.length_pos_iff.mpr filled, Nat.not_lt.mp beyond,
            (Except.error.inj failed).symm⟩
        · rintro (⟨empty, _⟩ | ⟨_, _, same, _, _, rfl⟩)
          · exact absurd empty filled
          · obtain ⟨rfl, rfl⟩ := Prod.mk.inj (Option.some.inj same)
            rfl

theorem length_blocks (es : List Entry) : (blocks es).length = es.countP Entry.isHeader := by
  induction es with
  | nil => rfl
  | cons e es ih =>
      cases e with
      | header line => rw [List.countP_cons_of_pos rfl, ← ih, blocks, List.length_cons]
      | _ => exact ih

/-- Every header has opened a sheet. -/
theorem Accepts.length_sheets (accepts : Accepts es p) :
    p.sheets.length = es.countP Entry.isHeader := by
  rw [← length_blocks, accepts.sheets.length_eq, List.length_reverse]

/-- The last line that gives the current sheet has the number, and the index is on it. -/
def LastCurrent (es : List Entry) (number index : Nat) : Prop :=
  ∃ before text after, es = before ++ .current text :: after ∧ number = before.length + 1 ∧
    count? text = some index ∧ currentTexts after = []

theorem indices_eq_nil_iff (counted : Counted es) :
    indices (es.zipIdx m) = [] ↔ currentTexts es = [] := by
  rw [← List.map_eq_nil_iff, map_indices, List.zipIdx_map_fst, List.filterMap_eq_nil_iff]
  constructor
  · refine fun none => List.eq_nil_iff_forall_not_mem.mpr fun text there => ?_
    have some := counted text there
    rw [none text there] at some
    cases some
  · intro none text there
    rw [none] at there
    cases there

theorem Counted.of_cut {before after : List Entry} {e : Entry}
    (counted : Counted (before ++ e :: after)) : Counted after := by
  have behind : after.Sublist (before ++ e :: after) :=
    (List.sublist_cons_self e after).trans (List.sublist_append_right before _)
  exact fun text there => counted text ((behind.filterMap _).subset there)

/-- If every index can be counted, the last one that is found is the one on the last line. -/
theorem getLast?_indices_iff {index : Nat} (counted : Counted es) :
    (indices (es.zipIdx 1)).getLast? = some (index, number) ↔ LastCurrent es number index := by
  constructor
  · intro last
    obtain ⟨front, all⟩ := List.getLast?_eq_some_iff.mp last
    obtain ⟨l, l', parts, -, back⟩ := List.filterMap_eq_append_iff.mp all
    obtain ⟨between, ⟨e, k⟩, behind, rfl, -, given, none⟩ := List.filterMap_eq_cons_iff.mp back
    rw [← List.append_assoc] at parts
    obtain ⟨before, rest, parted, -, parts⟩ := List.zipIdx_eq_append_iff.mp parts
    obtain ⟨_, after, rfl, same, rfl⟩ := List.zipIdx_eq_cons_iff.mp parts.symm
    obtain ⟨rfl, rfl⟩ := Prod.mk.inj same
    obtain ⟨_, read, pair⟩ := Option.map_eq_some_iff.mp given
    obtain ⟨text, kind, read⟩ := Option.bind_eq_some_iff.mp read
    obtain ⟨rfl, rfl⟩ := Prod.mk.inj pair
    cases e with
    | current text =>
        obtain rfl := Option.some.inj kind
        have rest := (indices_eq_nil_iff (Counted.of_cut (parted ▸ counted))).mp none
        exact ⟨before, _, after, parted, Nat.add_comm .., read, rest⟩
    | _ => cases kind
  · rintro ⟨before, text, after, rfl, rfl, read, rest⟩
    have own : indices ((Entry.current text :: after).zipIdx (1 + before.length)) =
        (index, before.length + 1) :: indices (after.zipIdx (1 + before.length + 1)) := by
      rw [Nat.add_comm before.length]
      exact indices_cons read _ _
    rw [(indices_eq_nil_iff counted.of_cut).mpr rest] at own
    rw [List.zipIdx_append, indices_append, own, List.getLast?_concat]

theorem Accepts.current_eq_some_iff {index : Nat} (accepts : Accepts es p) :
    p.current = some (index, number) ↔ LastCurrent es number index := by
  rw [accepts.current, getLast?_indices_iff accepts.counted]

/-! ## How a text fails -/

theorem read_eq_error_iff : read source = .error failure ↔
    (∃ number cause, Refused (lines source.toList) number cause ∧
      failure = .atLine number cause) ∨
    ∃ p, Accepts (entries source) p ∧ p.finish = .error failure := by
  unfold read
  rw [bind_eq_error_iff, foldlM_step_eq_error_iff]
  simp only [foldlM_lines_eq_ok_iff, takesAll_start_iff]

theorem unrefused_lines_iff :
    Unrefused (lines source.toList) ↔ ∃ p, Accepts (entries source) p := by
  simp only [unrefused_iff, foldlM_lines_eq_ok_iff, takesAll_start_iff]

/-- A text fails with what is found at a line exactly if that line is the first that is refused. -/
theorem read_eq_error_iff_refused (immediate : cause.Immediate) :
    read source = .error (.atLine number cause) ↔ Refused (lines source.toList) number cause := by
  rw [read_eq_error_iff]
  constructor
  · rintro (⟨n, c, refused, same⟩ | ⟨p, _, failed⟩)
    · obtain ⟨rfl, rfl⟩ := Failure.atLine.inj same
      exact refused
    · obtain ⟨_, never⟩ | ⟨index, n, _, _, _, same⟩ := Progress.finish_eq_error_iff.mp failed
      · cases never
      · obtain ⟨rfl, rfl⟩ := Failure.atLine.inj same
        cases immediate
  · exact fun refused => .inl ⟨number, cause, refused, rfl⟩

theorem read_eq_error_iff_missing {index count : Nat} :
    read source = .error (.atLine number (.currentOutOfRange index count)) ↔
      Unrefused (lines source.toList) ∧ (entries source).countP Entry.isHeader = count ∧
        0 < count ∧ count ≤ index ∧ LastCurrent (entries source) number index := by
  rw [read_eq_error_iff, unrefused_lines_iff]
  constructor
  · rintro (⟨n, c, refused, same⟩ | ⟨p, accepts, failed⟩)
    · obtain ⟨rfl, rfl⟩ := Failure.atLine.inj same
      cases refused.immediate
    · obtain ⟨_, never⟩ | ⟨i, n, given, filled, beyond, same⟩ :=
        Progress.finish_eq_error_iff.mp failed
      · cases never
      · obtain ⟨rfl, causes⟩ := Failure.atLine.inj same
        obtain ⟨rfl, rfl⟩ := Cause.currentOutOfRange.inj causes
        exact ⟨⟨p, accepts⟩, accepts.length_sheets.symm, filled, beyond,
          accepts.current_eq_some_iff.mp given⟩
  · rintro ⟨⟨p, accepts⟩, rfl, filled, beyond, last⟩
    rw [← accepts.length_sheets] at filled beyond ⊢
    have given := accepts.current_eq_some_iff.mpr last
    exact .inr ⟨p, accepts, Progress.finish_eq_error_iff.mpr
      (.inr ⟨index, number, given, filled, beyond, rfl⟩)⟩

theorem read_eq_error_iff_noSheets : read source = .error .noSheets ↔
    Unrefused (lines source.toList) ∧ (entries source).countP Entry.isHeader = 0 := by
  rw [read_eq_error_iff, unrefused_lines_iff]
  constructor
  · rintro (⟨n, c, refused, same⟩ | ⟨p, accepts, failed⟩)
    · cases same
    · refine ⟨⟨p, accepts⟩, ?_⟩
      obtain ⟨empty, _⟩ | ⟨index, n, _, _, _, same⟩ := Progress.finish_eq_error_iff.mp failed
      · rw [← accepts.length_sheets, empty, List.length_nil]
      · cases same
  · rintro ⟨⟨p, accepts⟩, none⟩
    rw [← accepts.length_sheets, List.length_eq_zero_iff] at none
    exact .inr ⟨p, accepts, Progress.finish_eq_error_iff.mpr (.inl ⟨none, rfl⟩)⟩

/-- A failure that is found at a line is the first, and it depends only on the lines up to that one,
without the white space around them.  Otherwise the failure is that the current sheet is missing,
named at the last line that gives it, or that there are no sheets. -/
theorem failures_of_read (source : String) :
    (∀ number cause, cause.Immediate → read source = .error (.atLine number cause) →
      Refused (lines source.toList) number cause ∧
      1 ≤ number ∧ number ≤ (lines source.toList).length ∧
      (∀ other : String, ((lines other.toList).take number).map trim =
          ((lines source.toList).take number).map trim →
        read other = .error (.atLine number cause)) ∧
      ∀ shorter : String, (lines shorter.toList).map trim =
          ((lines source.toList).take (number - 1)).map trim →
        ∀ m c, c.Immediate → read shorter ≠ .error (.atLine m c)) ∧
    (∀ number index count, read source = .error (.atLine number (.currentOutOfRange index count)) ↔
      Unrefused (lines source.toList) ∧ (entries source).countP Entry.isHeader = count ∧
        0 < count ∧ count ≤ index ∧ LastCurrent (entries source) number index) ∧
    (read source = .error .noSheets ↔
      Unrefused (lines source.toList) ∧ (entries source).countP Entry.isHeader = 0) := by
  refine ⟨fun number cause immediate failed => ?_, ?_, read_eq_error_iff_noSheets⟩
  · have refused := (read_eq_error_iff_refused immediate).mp failed
    refine ⟨refused, refused.within.1, refused.within.2, fun other same => ?_, ?_⟩
    · exact (read_eq_error_iff_refused immediate).mpr (refused.of_take same)
    · intro shorter same m c found failed
      have before := refused.unrefused_take same
      exact before m c ((read_eq_error_iff_refused found).mp failed)
  · exact fun number index count => read_eq_error_iff_missing

/-- The second line is refused.  Neither the missing sheet of the third one is found nor what is
wrong behind that line in another text, and the first line alone lacks nothing that is found there. -/
theorem failures_of_read_of_missing_colon :
    read "[sheet 1x1] \"a\"\n(1,1)\ncurrent: 7" = .error (.atLine 2 .noColon) ∧
    read "[sheet 1x1] \"a\"\r\n(1,1)\r\n(2,2): \"x\"\r\n" = .error (.atLine 2 .noColon) ∧
    ∀ m c, c.Immediate →
      read (String.ofList (firstLines 1 "[sheet 1x1] \"a\"\n(1,1)\ncurrent: 7".toList)) ≠
        .error (.atLine m c) := by
  have failed : read "[sheet 1x1] \"a\"\n(1,1)\ncurrent: 7" = .error (.atLine 2 .noColon) := by
    rfl
  obtain ⟨immediate, -, -⟩ := failures_of_read "[sheet 1x1] \"a\"\n(1,1)\ncurrent: 7"
  obtain ⟨-, -, -, others, shorter⟩ := immediate 2 .noColon trivial failed
  refine ⟨failed, others _ (by decide +kernel), shorter _ ?_⟩
  rw [String.toList_ofList]
  exact congrArg (List.map trim) (lines_firstLines 1 _)

end Gridbook.Snapshot
