import Gridbook.Proofs.CommandLine.Reading
import Gridbook.Proofs.Text.Addresses

/-!
# Written command lines

Every action is written as its option, in one of its spellings, with its value behind it.  The file,
the settings and the options without a value may stand anywhere between the actions.  Whatever the
values look like, the command line that is written for some arguments is read as these arguments.
-/

namespace Gridbook.CommandLine

open Text

/-! ## Actions in words -/

/-- The value of an action that sets a cell: the coordinates, an equality sign and the text. -/
def assignmentText (address : Address) (text : String) : String :=
  String.ofList (address.pairText ++ '=' :: text.toList)

/-- The option of an action and its value.  Some options have a short spelling besides. -/
def Action.words (short : Bool) : Action → List String
  | .addSheet name => ["--add-sheet", name]
  | .switchSheet target => ["--sheet", target]
  | .set address text => [if short then "-s" else "--set", assignmentText address text]
  | .evaluate formula => [if short then "-c" else "--command", formula]
  | .exportMarkdown path => [if short then "-o" else "--output", path]
  | .exportCsv path => ["--csv", path]
  | .write => [if short then "-w" else "--write"]

/-- One part of a written command line. -/
inductive Item where
  | action (short : Bool) (action : Action)
  | file (path : String)
  | settings (path : String)
  | noSettings
  | help (short : Bool)
deriving DecidableEq

namespace Item

/-- The words of a part of a command line. -/
def words : Item → List String
  | .action short wanted => wanted.words short
  | .file path => [path]
  | .settings path => ["--config", path]
  | .noSettings => ["--no-config"]
  | .help short => [if short then "-h" else "--help"]

/-- The action that is written. -/
def action? : Item → Option Action
  | .action _ wanted => some wanted
  | _ => none

/-- The file that is named. -/
def file? : Item → Option String
  | .file path => some path
  | _ => none

/-- The settings file that is named. -/
def settings? : Item → Option String
  | .settings path => some path
  | _ => none

/-- Whether it is the option that asks for help. -/
def isHelp : Item → Bool
  | .help _ => true
  | _ => false

end Item

namespace Arguments

/-- What one part of a command line asks for. -/
def ofItem : Item → Arguments
  | .action _ wanted => empty.act wanted
  | .file path => { empty with file := some path }
  | .settings path => { empty with settings := some path }
  | .noSettings => { empty with noSettings := true }
  | .help _ => { empty with help := true }

/-- What the parts of a command line ask for: of several files the first, and of several settings
files the last. -/
def ofItems (items : List Item) : Arguments where
  file := (items.filterMap Item.file?).head?
  settings := (items.filterMap Item.settings?).getLast?
  noSettings := items.contains .noSettings
  help := items.any Item.isHelp
  actions := items.filterMap Item.action?

/-- A command line is written for arguments: it has their actions in order, and their file, their
settings and their options without a value anywhere between them. -/
structure WrittenAs (a : Arguments) (items : List Item) : Prop where
  actions : items.filterMap Item.action? = a.actions
  file : items.filterMap Item.file? = a.file.toList
  settings : items.filterMap Item.settings? = a.settings.toList
  noSettings : Item.noSettings ∈ items ↔ a.noSettings = true
  help : (∃ short, Item.help short ∈ items) ↔ a.help = true

/-- Arguments that can be written: the cells have addresses in text, the file is no option, and it
is there if the document is written to it. -/
structure Writable (a : Arguments) : Prop where
  addresses : ∀ address text, .set address text ∈ a.actions →
    address.row + 1 < coordinateLimit ∧ address.col + 1 < coordinateLimit
  operand : ∀ path ∈ a.file, path = "-" ∨ path.toList.head? ≠ some '-'
  target : .write ∈ a.actions → a.file.isSome = true

variable {a : Arguments} {item : Item} {items : List Item} {wanted : Action}

/-! ## Reading one part -/

theorem cut?_assignmentText (address : Address) (text : String) :
    cut? '=' (assignmentText address text).toList = some (address.pairText, text.toList) := by
  have clear : '=' ∉ address.pairText := by
    simp [Address.pairText, notMem_digits (show '='.isDigit = false from rfl)]
  rw [assignmentText, String.toList_ofList, cut?_append '=' _ _ clear]

theorem assignment_assignmentText {address : Address} (row : address.row + 1 < coordinateLimit)
    (col : address.col + 1 < coordinateLimit) (text : String) :
    assignment (assignmentText address text) = .ok (.set address text) := by
  simp only [assignment, cut?_assignmentText, Address.read?_pairText row col, String.ofList_toList]

/-- A lone hyphen, and what does not start with a hyphen, is an operand. -/
theorem ofArgument_eq_operand {path : String}
    (plain : path = "-" ∨ path.toList.head? ≠ some '-') : Token.ofArgument path = .operand := by
  unfold Token.ofArgument
  split
  case h_16 =>
    rcases plain with rfl | plain
    · rfl
    · split
      · rename_i first
        rw [first] at plain
        exact absurd rfl plain
      · rfl
  all_goals exact absurd plain (by decide)

/-- The words of an action are a complete option that asks for this action. -/
theorem asks_words (addressed : ∀ address text, wanted = .set address text →
      address.row + 1 < coordinateLimit ∧ address.col + 1 < coordinateLimit) (short : Bool) :
    Asks (wanted.words short) (empty.act wanted) := by
  cases wanted with
  | set address text =>
      obtain ⟨row, col⟩ := addressed address text rfl
      have taken : empty.take (assignmentText address text) .set =
          .ok (empty.act (.set address text)) := by
        rw [take, assignment_assignmentText row col]
        rfl
      cases short <;> exact .value rfl taken
  | evaluate formula => cases short <;> exact .value rfl rfl
  | exportMarkdown path => cases short <;> exact .value rfl rfl
  | write => cases short <;> exact .write rfl
  | _ => exact .value rfl rfl

/-- Each part of a command line that is written for arguments asks for what it stands for. -/
theorem WrittenAs.asks (written : a.WrittenAs items) (writable : a.Writable) (mem : item ∈ items) :
    Asks item.words (ofItem item) := by
  cases item with
  | action short wanted =>
      apply asks_words
      rintro address text rfl
      apply writable.addresses address text
      rw [← written.actions]
      exact List.mem_filterMap.mpr ⟨_, mem, rfl⟩
  | file path =>
      have named : path ∈ a.file.toList := by
        rw [← written.file]
        exact List.mem_filterMap.mpr ⟨_, mem, rfl⟩
      exact .operand (ofArgument_eq_operand (writable.operand path (Option.mem_toList.mp named)))
  | settings path => exact .value rfl rfl
  | noSettings => exact .noSettings rfl
  | help short => cases short <;> exact .help rfl

/-! ## Reading all parts -/

theorem ofItems_cons (item : Item) (items : List Item) :
    ofItems (item :: items) = (ofItem item).combine (ofItems items) := by
  cases item <;>
    simp [ofItems, ofItem, combine, empty, act, Item.file?, Item.settings?, Item.action?,
      Item.isHelp, List.filterMap_cons, List.getLast?_cons]

theorem oneFile_ofItem (single : ((item :: items).filterMap Item.file?).length ≤ 1) :
    (ofItem item).OneFile (ofItems items) := by
  cases item with
  | file path =>
      right
      have others : items.filterMap Item.file? = [] := by
        simpa [Item.file?] using single
      rw [ofItems, others, List.head?_nil]
  | _ => exact .inl rfl

/-- The words of all parts are a row of complete options and operands. -/
theorem lists_words (asks : ∀ item ∈ items, Asks item.words (ofItem item))
    (single : (items.filterMap Item.file?).length ≤ 1) :
    Lists (items.flatMap Item.words) (ofItems items) := by
  induction items with
  | nil => exact .nil
  | cons item items ih =>
      obtain ⟨first, others⟩ := List.forall_mem_cons.mp asks
      have fewer : (items.filterMap Item.file?).length ≤ 1 :=
        Nat.le_trans ((List.sublist_cons_self item items).filterMap Item.file?).length_le single
      rw [List.flatMap_cons, ofItems_cons]
      exact .cons first (ih others fewer) (oneFile_ofItem single)

theorem WrittenAs.ofItems_eq (written : a.WrittenAs items) : ofItems items = a := by
  have unset : items.contains .noSettings = a.noSettings := by
    rw [Bool.eq_iff_iff, List.contains_iff_mem, written.noSettings]
  have help : items.any Item.isHelp = a.help := by
    rw [Bool.eq_iff_iff, ← written.help, List.any_eq_true]
    constructor
    · rintro ⟨item, mem, helps⟩
      cases item with
      | help short => exact ⟨short, mem⟩
      | _ => cases helps
    · rintro ⟨short, mem⟩
      exact ⟨_, mem, rfl⟩
  have file : (items.filterMap Item.file?).head? = a.file := by
    rw [written.file]
    cases a.file <;> rfl
  have settings : (items.filterMap Item.settings?).getLast? = a.settings := by
    rw [written.settings]
    cases a.settings <;> rfl
  rw [ofItems, file, settings, unset, help, written.actions]

/-- A command line that is written for arguments is read as these arguments, whatever the texts and
paths in it look like and wherever the file and the options without a value stand. -/
theorem parse_words (written : a.WrittenAs items) (writable : a.Writable) :
    parse (items.flatMap Item.words) = .ok a := by
  have single : (items.filterMap Item.file?).length ≤ 1 := by
    rw [written.file]
    exact Option.length_toList_le
  have lists := lists_words (fun item => written.asks writable) single
  rw [written.ofItems_eq] at lists
  exact parse_eq_ok_iff.mpr ⟨lists, writable.target⟩

/-- Values that look like options are read as values, and a text that starts with an equality sign
keeps it. -/
theorem parse_words_of_misleading_values :
    let items : List Item := [.help true, .action true (.set ⟨0, 4⟩ "=-w="), .file "-",
      .action false .write, .settings "--help", .action true (.evaluate ""), .noSettings]
    let a : Arguments := ⟨some "-", some "--help", true, true,
      [.set ⟨0, 4⟩ "=-w=", .write, .evaluate ""]⟩
    items.flatMap Item.words = ["-h", "-s", "1,5==-w=", "-", "--write", "--config", "--help", "-c",
      "", "--no-config"] ∧ a.WrittenAs items ∧ a.Writable ∧
      parse (items.flatMap Item.words) = .ok a := by
  intro items a
  have written : a.WrittenAs items := ⟨rfl, rfl, rfl, by decide, by simp [items, a]⟩
  have writable : a.Writable := by
    refine ⟨?_, ?_, by decide⟩
    · intro address text mem
      simp only [a, List.mem_cons, List.not_mem_nil, or_false, reduceCtorEq, or_self] at mem
      cases mem
      decide
    · rintro path ⟨⟩
      exact .inl rfl
  exact ⟨by cbv, written, writable, parse_words written writable⟩

end Arguments

end Gridbook.CommandLine
