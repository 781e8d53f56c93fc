import Gridbook.CommandLine.Arguments

/-!
# Lists of arguments and what they ask for

An accepted list of arguments is a row of complete options and operands, each of which asks for
something of its own.  What the list asks for is put together from that: the actions in order, the
last of the settings files, and the file, which may be named only once.  Reading from left to right
accepts exactly these lists.
-/

namespace Gridbook.CommandLine.Arguments

/-! ## Putting together what is asked for -/

/-- What is asked for by arguments and by further ones behind them. -/
def combine (a b : Arguments) : Arguments :=
  ⟨a.file.or b.file, b.settings.or a.settings, a.noSettings || b.noSettings, a.help || b.help,
    a.actions ++ b.actions⟩

theorem empty_combine (a : Arguments) : empty.combine a = a := by
  simp [combine, empty]

theorem combine_empty (a : Arguments) : a.combine empty = a := by
  simp [combine, empty]

theorem combine_assoc (a b c : Arguments) : (a.combine b).combine c = a.combine (b.combine c) := by
  simp [combine, Option.or_assoc, Bool.or_assoc]

/-- Not both of two parts name a file. -/
def OneFile (a b : Arguments) : Prop :=
  a.file = none ∨ b.file = none

/-- Of three parts not more than one names a file, whichever two are put together first. -/
theorem oneFile_combine_iff {a b c : Arguments} :
    a.OneFile b ∧ (a.combine b).OneFile c ↔ b.OneFile c ∧ a.OneFile (b.combine c) := by
  obtain ⟨_ | _, _⟩ := a <;> obtain ⟨_ | _, _⟩ := b <;> simp [OneFile, combine]

/-! ## The lists that are accepted -/

/-- What one complete option or one operand asks for. -/
inductive Asks : List String → Arguments → Prop where
  | help {argument : String} (token : Token.ofArgument argument = .help) :
      Asks [argument] { empty with help := true }
  | noSettings {argument : String} (token : Token.ofArgument argument = .noSettings) :
      Asks [argument] { empty with noSettings := true }
  | write {argument : String} (token : Token.ofArgument argument = .write) :
      Asks [argument] (empty.act .write)
  | value {argument value : String} {option : ValueOption} {one : Arguments}
      (token : Token.ofArgument argument = .takesValue option)
      (taken : empty.take value option = .ok one) : Asks [argument, value] one
  | operand {argument : String} (token : Token.ofArgument argument = .operand) :
      Asks [argument] { empty with file := some argument }

/-- What a row of complete options and operands asks for, of which at most one is an operand. -/
inductive Lists : List String → Arguments → Prop where
  | nil : Lists [] empty
  | cons {words rest : List String} {one others : Arguments} (first : Asks words one)
      (later : Lists rest others) (single : one.OneFile others) :
      Lists (words ++ rest) (one.combine others)

variable {a b one : Arguments} {words xs ys : List String} {value : String} {option : ValueOption}

/-- An option and its value add what they ask for on their own. -/
theorem take_eq (a : Arguments) (value : String) (option : ValueOption) :
    a.take value option = (empty.take value option).map a.combine := by
  cases option with
  | set =>
      simp only [take]
      cases assignment value with
      | error e => rfl
      | ok action => simp [Except.map, act, combine, empty]
  | _ => simp [take, Except.map, act, combine, empty]

theorem file_of_take (taken : empty.take value option = .ok one) : one.file = none := by
  cases option with
  | set =>
      simp only [take] at taken
      cases read : assignment value with
      | error e => rw [read] at taken; cases taken
      | ok action => rw [read] at taken; cases taken; rfl
  | _ => cases taken; rfl

/-- Reading a complete option or an operand adds what it asks for, unless it is a second operand. -/
theorem readFrom_append_of_asks (asks : Asks words one) (single : a.OneFile one)
    (rest : List String) : a.readFrom (words ++ rest) = (a.combine one).readFrom rest := by
  cases asks with
  | help token => simp [readFrom, token, combine, empty]
  | noSettings token => simp [readFrom, token, combine, empty]
  | write token => simp [readFrom, token, combine, empty, act]
  | value token taken => simp [readFrom, token, take_eq a, taken, Except.map]
  | operand token =>
      have free : a.file = none := single.resolve_right nofun
      simp [readFrom, token, combine, empty, free]

/-- Reading a row of complete options and operands adds what it asks for. -/
theorem readFrom_append_of_lists (lists : Lists xs b) (single : a.OneFile b) (ys : List String) :
    a.readFrom (xs ++ ys) = (a.combine b).readFrom ys := by
  induction lists generalizing a with
  | nil => rw [List.nil_append, combine_empty]
  | cons first later among ih =>
      obtain ⟨here, behind⟩ := oneFile_combine_iff.mpr ⟨among, single⟩
      rw [List.append_assoc, readFrom_append_of_asks first here, ih behind, combine_assoc]

theorem readFrom_of_lists (lists : Lists xs b) (single : a.OneFile b) :
    a.readFrom xs = .ok (a.combine b) := by
  have whole := readFrom_append_of_lists lists single []
  rwa [List.append_nil, readFrom] at whole

/-- What is asked for by a list is put in front of a complete option or an operand. -/
theorem exists_lists_append {rest : List String} (asks : Asks words one) (single : a.OneFile one)
    (behind : ∃ c, Lists rest c ∧ (a.combine one).OneFile c ∧ b = (a.combine one).combine c) :
    ∃ c, Lists (words ++ rest) c ∧ a.OneFile c ∧ b = a.combine c := by
  obtain ⟨c, later, others, rfl⟩ := behind
  obtain ⟨among, here⟩ := oneFile_combine_iff.mp ⟨single, others⟩
  exact ⟨one.combine c, .cons asks later among, here, combine_assoc a one c⟩

/-- A list that is read is a row of complete options and operands. -/
theorem lists_of_readFrom (accepted : a.readFrom xs = .ok b) :
    ∃ c, Lists xs c ∧ a.OneFile c ∧ b = a.combine c := by
  fun_induction readFrom a xs with
  | case1 a =>
      cases accepted
      exact ⟨empty, .nil, .inr rfl, (combine_empty _).symm⟩
  | case2 a argument rest token ih =>
      apply exists_lists_append (.help token) (.inr rfl)
      simpa [combine, empty] using ih accepted
  | case3 a argument rest token ih =>
      apply exists_lists_append (.noSettings token) (.inr rfl)
      simpa [combine, empty] using ih accepted
  | case4 a argument rest token ih =>
      apply exists_lists_append (.write token) (.inr rfl)
      simpa [combine, empty, act] using ih accepted
  | case6 a argument option token value rest next taken ih =>
      rw [take_eq] at taken
      cases alone : empty.take value option with
      | error e => rw [alone] at taken; cases taken
      | ok one =>
          rw [alone] at taken
          cases taken
          exact exists_lists_append (.value token alone) (.inr (file_of_take alone)) (ih accepted)
  | case10 a argument rest token free ih =>
      have free : a.file = none := Option.not_isSome_iff_eq_none.mp free
      apply exists_lists_append (.operand token) (.inl free)
      simpa [combine, empty, free] using ih accepted
  | _ => cases accepted

theorem writesNowhere_eq_false_iff :
    a.writesNowhere = false ↔ (.write ∈ a.actions → a.file.isSome = true) := by
  unfold writesNowhere
  cases a.file <;> simp

/-- Arguments are accepted if they are a row of complete options and operands, unless the document
would be written without a file. -/
theorem parse_eq_ok_iff :
    parse xs = .ok a ↔ Lists xs a ∧ (.write ∈ a.actions → a.file.isSome = true) := by
  rw [← writesNowhere_eq_false_iff]
  unfold parse
  constructor
  · intro accepted
    cases read : empty.readFrom xs with
    | error e => rw [read] at accepted; cases accepted
    | ok b =>
        rw [read] at accepted
        dsimp only at accepted
        split at accepted
        · cases accepted
        · rename_i writes
          cases accepted
          obtain ⟨c, lists, _, rfl⟩ := lists_of_readFrom read
          rw [empty_combine] at *
          exact ⟨lists, Bool.eq_false_iff.mpr writes⟩
  · rintro ⟨lists, writes⟩
    rw [readFrom_of_lists lists (.inl rfl), empty_combine]
    dsimp only
    rw [writes]
    rfl

end Gridbook.CommandLine.Arguments
