import Gridbook.Proofs.CommandLine.Reading

/-!
# Argument lists behind one another

Two accepted lists of arguments make one that asks for what both ask for, with the actions of the
second behind those of the first.  Only if both name a file is their composition refused, and what
is reported then is the second file.
-/

namespace Gridbook.CommandLine.Arguments

variable {a b one : Arguments} {words xs ys : List String} {path other : String}

/-- Rows of options and operands may stand behind one another. -/
theorem Lists.append (front : Lists xs a) (back : Lists ys b) (single : a.OneFile b) :
    Lists (xs ++ ys) (a.combine b) := by
  induction front with
  | nil => rwa [List.nil_append, empty_combine]
  | cons first later among ih =>
      obtain ⟨behind, here⟩ := oneFile_combine_iff.mp ⟨among, single⟩
      rw [List.append_assoc, combine_assoc]
      exact .cons first (ih behind) here

theorem eq_of_file_of_asks (asks : Asks words one) (named : one.file = some path) :
    words = [path] ∧ Token.ofArgument path = .operand := by
  cases asks with
  | operand token =>
      cases named
      exact ⟨rfl, token⟩
  | value token taken =>
      rw [file_of_take taken] at named
      cases named
  | _ => cases named

/-- A second file is refused wherever it stands in a list. -/
theorem readFrom_of_second_file (lists : Lists xs b) (known : a.file = some path)
    (again : b.file = some other) : a.readFrom xs = .error (.unexpected other) := by
  induction lists generalizing a with
  | nil => cases again
  | @cons words rest one others first later single ih =>
      cases named : one.file with
      | none =>
          rw [readFrom_append_of_asks first (.inr named)]
          apply ih
          · rw [combine, known, Option.some_or]
          · rwa [combine, named, Option.none_or] at again
      | some file =>
          obtain ⟨rfl, token⟩ := eq_of_file_of_asks first named
          rw [combine, named, Option.some_or] at again
          cases again
          rw [List.singleton_append, readFrom, token]
          dsimp only
          rw [known, Option.isSome_some, if_pos rfl]

/-- One accepted list behind another asks for what both ask for, unless both name a file: then the
second file is refused. -/
theorem parse_append (first : parse xs = .ok a) (second : parse ys = .ok b) :
    (a.OneFile b → parse (xs ++ ys) = .ok (a.combine b)) ∧
      ∀ path other, a.file = some path → b.file = some other →
        parse (xs ++ ys) = .error (.unexpected other) := by
  obtain ⟨front, written⟩ := parse_eq_ok_iff.mp first
  obtain ⟨back, saved⟩ := parse_eq_ok_iff.mp second
  constructor
  · intro single
    refine parse_eq_ok_iff.mpr ⟨front.append back single, ?_⟩
    intro mem
    rw [combine, Option.isSome_or, Bool.or_eq_true]
    exact (List.mem_append.mp mem).imp written saved
  · intro path other known again
    rw [parse, readFrom_append_of_lists front (.inl rfl), empty_combine,
      readFrom_of_second_file back known again]

/-- A value that looks like an option stays a value, and the settings file of the second list is
used.  Behind a list with a file, another file is refused. -/
theorem parse_append_of_values :
    let xs := ["-w", "a", "--config", "b", "--csv", "-o"]
    let ys := ["--config", "--help", "--no-config", "--sheet", "-w"]
    let zs := ["-h", "-"]
    let a : Arguments := ⟨some "a", some "b", false, false, [.write, .exportCsv "-o"]⟩
    let b : Arguments := ⟨none, some "--help", true, false, [.switchSheet "-w"]⟩
    let c : Arguments := ⟨some "-", none, false, true, []⟩
    parse xs = .ok a ∧ parse ys = .ok b ∧ a.OneFile b ∧
      parse (xs ++ ys) = .ok ⟨some "a", some "--help", true, false,
        [.write, .exportCsv "-o", .switchSheet "-w"]⟩ ∧
      parse zs = .ok c ∧ parse (xs ++ zs) = .error (.unexpected "-") := by
  intro xs ys zs a b c
  have first : parse xs = .ok a := by rfl
  have second : parse ys = .ok b := by rfl
  have third : parse zs = .ok c := by rfl
  exact ⟨first, second, .inr rfl, (parse_append first second).1 (.inr rfl), third,
    (parse_append first third).2 "a" "-" rfl rfl⟩

end Gridbook.CommandLine.Arguments
