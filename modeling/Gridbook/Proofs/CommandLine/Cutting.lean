import Gridbook.Proofs.CommandLine.Reading

/-!
# Command lines without their last actions

The actions behind the first ones can be left out of a command line, while the file, the settings and
the options without a value are kept, also where they stand behind the actions that are left out.
If the whole command line is accepted then so is the shorter one, and it asks for the same apart from
the actions that it lacks.
-/

namespace Gridbook.CommandLine.Arguments

/-- A command line without the actions behind the first ones, of which there are as many as given.
Everything else is kept. -/
def cutAfter (count : Nat) : List String → List String
  | [] => []
  | argument :: rest =>
      match Token.ofArgument argument with
      | .write =>
          if count = 0 then cutAfter 0 rest else argument :: cutAfter (count - 1) rest
      | .takesValue option =>
          match rest with
          | [] => [argument]
          | value :: rest =>
              if option = .config then argument :: value :: cutAfter count rest
              else if count = 0 then cutAfter 0 rest
              else argument :: value :: cutAfter (count - 1) rest
      | .help | .noSettings | .unknown | .operand => argument :: cutAfter count rest

/-- The arguments with their first actions only. -/
def withFirst (count : Nat) (a : Arguments) : Arguments :=
  { a with actions := a.actions.take count }

/-- Arguments that ask for nothing but actions. -/
def OnlyActs (a : Arguments) : Prop :=
  a.file = none ∧ a.settings = none ∧ a.noSettings = false ∧ a.help = false

variable {a one others : Arguments} {words xs ys : List String} {value : String} {count : Nat}

/-- A complete option or an operand stands for no action or for nothing but one action. -/
theorem actions_of_take {option : ValueOption} (taken : empty.take value option = .ok one) :
    (option = .config ∧ one.actions = []) ∨
      (option ≠ .config ∧ ∃ action, one = empty.act action) := by
  cases option with
  | config =>
      cases taken
      exact .inl ⟨rfl, rfl⟩
  | set =>
      rw [take] at taken
      cases read : assignment value with
      | error e => rw [read] at taken; cases taken
      | ok action => rw [read] at taken; cases taken; exact .inr ⟨by decide, action, rfl⟩
  | _ => cases taken; exact .inr ⟨by decide, _, rfl⟩

/-- What stands for no action is kept, and an action is kept as long as it is one of the first. -/
theorem cutAfter_append (asks : Asks words one) (rest : List String) :
    (one.actions = [] ∧ ∀ count, cutAfter count (words ++ rest) = words ++ cutAfter count rest) ∨
      (∃ action, one = empty.act action) ∧ cutAfter 0 (words ++ rest) = cutAfter 0 rest ∧
        ∀ count, cutAfter (count + 1) (words ++ rest) = words ++ cutAfter count rest := by
  cases asks with
  | help token => exact .inl ⟨rfl, by simp [cutAfter, token]⟩
  | noSettings token => exact .inl ⟨rfl, by simp [cutAfter, token]⟩
  | operand token => exact .inl ⟨rfl, by simp [cutAfter, token]⟩
  | write token => exact .inr ⟨⟨.write, rfl⟩, by simp [cutAfter, token], by simp [cutAfter, token]⟩
  | value token taken =>
      rcases actions_of_take taken with ⟨rfl, none⟩ | ⟨other, action⟩
      · exact .inl ⟨none, by simp [cutAfter, token]⟩
      · exact .inr ⟨action, by simp [cutAfter, token, other], by simp [cutAfter, token, other]⟩

/-- A command line is cut off behind its first actions, and what is no action is put back. -/
theorem cutAfter_append_of_lists (lists : Lists xs a) (ys : List String) :
    cutAfter a.actions.length (xs ++ ys) = xs ++ cutAfter 0 ys := by
  induction lists with
  | nil => rfl
  | @cons words rest one others first later single ih =>
      rw [List.append_assoc, combine]
      rcases cutAfter_append first (rest ++ ys) with ⟨none, kept⟩ | ⟨⟨action, rfl⟩, _, kept⟩
      · rw [none, List.nil_append, kept, ih, List.append_assoc]
      · change cutAfter ([action] ++ others.actions).length _ = _
        rw [List.singleton_append, List.length_cons, kept, ih, List.append_assoc]

theorem onlyActs_combine_iff : (one.combine others).OnlyActs ↔ one.OnlyActs ∧ others.OnlyActs := by
  simp only [OnlyActs, combine, Option.or_eq_none_iff, Bool.or_eq_false_iff]
  constructor
  · rintro ⟨⟨file, otherFile⟩, ⟨other, settings⟩, ⟨no, otherNo⟩, help, otherHelp⟩
    exact ⟨⟨file, settings, no, help⟩, otherFile, other, otherNo, otherHelp⟩
  · rintro ⟨⟨file, settings, no, help⟩, otherFile, other, otherNo, otherHelp⟩
    exact ⟨⟨file, otherFile⟩, ⟨other, settings⟩, ⟨no, otherNo⟩, help, otherHelp⟩

theorem actions_ne_nil_of_onlyActs (asks : Asks words one) (only : one.OnlyActs) :
    one.actions ≠ [] := by
  obtain ⟨file, settings, noSettings, help⟩ := only
  cases asks with
  | help token => cases help
  | noSettings token => cases noSettings
  | write token => exact List.cons_ne_nil _ _
  | value token taken =>
      rcases actions_of_take taken with ⟨rfl, _⟩ | ⟨_, action, rfl⟩
      · cases taken
        cases settings
      · exact List.cons_ne_nil _ _
  | operand token => cases file

/-- Nothing is left of a row of actions. -/
theorem cutAfter_zero_of_onlyActs (lists : Lists xs a) (only : a.OnlyActs) :
    cutAfter 0 xs = [] := by
  induction lists with
  | nil => rfl
  | @cons words rest one others first later single ih =>
      obtain ⟨here, behind⟩ := onlyActs_combine_iff.mp only
      rcases cutAfter_append first rest with ⟨none, _⟩ | ⟨_, left, _⟩
      · exact absurd none (actions_ne_nil_of_onlyActs first here)
      · rw [left, ih behind]

theorem withFirst_combine_of_none (none : one.actions = []) (count : Nat) (others : Arguments) :
    (one.combine others).withFirst count = one.combine (others.withFirst count) := by
  simp [withFirst, combine, none]

theorem withFirst_zero_combine (action : Action) (others : Arguments) :
    ((empty.act action).combine others).withFirst 0 = others.withFirst 0 := by
  simp [withFirst, combine, act, empty]

theorem withFirst_succ_combine (action : Action) (count : Nat) (others : Arguments) :
    ((empty.act action).combine others).withFirst (count + 1) =
      (empty.act action).combine (others.withFirst count) := by
  simp [withFirst, combine, act, empty]

/-- The shorter command line is a row of options and operands that asks for the first actions. -/
theorem lists_cutAfter (lists : Lists xs a) (count : Nat) :
    Lists (cutAfter count xs) (a.withFirst count) := by
  induction lists generalizing count with
  | nil =>
      rw [cutAfter, withFirst, show empty.actions = [] from rfl, List.take_nil]
      exact .nil
  | @cons words rest one others first later single ih =>
      rcases cutAfter_append first rest with ⟨none, kept⟩ | ⟨⟨action, rfl⟩, left, kept⟩
      · rw [kept, withFirst_combine_of_none none]
        exact .cons first (ih count) single
      · cases count with
        | zero =>
            rw [left, withFirst_zero_combine]
            exact ih 0
        | succ count =>
            rw [kept, withFirst_succ_combine]
            exact .cons first (ih count) (.inl rfl)

/-- A command line without its last actions is accepted. -/
theorem parse_cutAfter (accepted : parse xs = .ok a) (count : Nat) :
    parse (cutAfter count xs) = .ok (a.withFirst count) := by
  obtain ⟨lists, target⟩ := parse_eq_ok_iff.mp accepted
  refine parse_eq_ok_iff.mpr ⟨lists_cutAfter lists count, ?_⟩
  intro mem
  exact target (List.mem_of_mem_take mem)

end Gridbook.CommandLine.Arguments
