import Gridbook.Address

/-!
# Arguments of the command

The arguments are a file, options without a value, and options that take the argument behind them as
their value, whatever it looks like.  The options that act on the document do so in the order in
which they are given; the file and the other options may stand anywhere between them.
-/

namespace Gridbook.CommandLine

open Text

inductive Action where
  | addSheet (name : String)
  | switchSheet (target : String)
  | set (address : Address) (text : String)
  | evaluate (formula : String)
  | exportMarkdown (path : String)
  | exportCsv (path : String)
  | write
deriving DecidableEq, Repr

/-- Whether an action has output of its own, in place of the sheet that is shown at the end. -/
def Action.hasOutput : Action → Bool
  | .evaluate _ | .exportMarkdown _ | .exportCsv _ => true
  | .addSheet _ | .switchSheet _ | .set _ _ | .write => false

structure Arguments where
  file : Option String
  settings : Option String
  noSettings : Bool
  help : Bool
  actions : List Action
deriving DecidableEq, Repr

def Arguments.empty : Arguments := ⟨none, none, false, false, []⟩

inductive ValueOption where
  | addSheet
  | sheet
  | set
  | command
  | output
  | csv
  | config
deriving DecidableEq, Repr

/-- What the value of an option is called when it is missing. -/
def ValueOption.wants : ValueOption → String
  | .addSheet => "a sheet name"
  | .sheet => "a sheet name or index"
  | .set => "R,C=TEXT"
  | .command => "a formula"
  | .output | .csv | .config => "a file path"

inductive Token where
  | help
  | write
  | noSettings
  | takesValue (option : ValueOption)
  | unknown
  | operand
deriving DecidableEq, Repr

/-- The meaning of one argument that is no value.  A lone hyphen is an operand. -/
def Token.ofArgument (argument : String) : Token :=
  match argument with
  | "-h" | "--help" => .help
  | "--add-sheet" => .takesValue .addSheet
  | "--sheet" => .takesValue .sheet
  | "-s" | "--set" => .takesValue .set
  | "-c" | "--command" => .takesValue .command
  | "-o" | "--output" => .takesValue .output
  | "--csv" => .takesValue .csv
  | "-w" | "--write" => .write
  | "--config" => .takesValue .config
  | "--no-config" => .noSettings
  | _ =>
      match argument.toList with
      | '-' :: _ :: _ => .unknown
      | _ => .operand

inductive UsageError where
  | missingValue (argument : String) (option : ValueOption)
  | noAssignment (spec : String)
  | badAddress (text : String)
  | unknownOption (argument : String)
  | unexpected (argument : String)
  | writeWithoutFile
deriving DecidableEq, Repr

def UsageError.message : UsageError → String
  | .missingValue argument option => argument ++ " requires " ++ option.wants
  | .noAssignment spec => "--set expects R,C=TEXT, got '" ++ spec ++ "'"
  | .badAddress text => "Invalid cell address '" ++ text ++ "' (rows and columns start at 1)"
  | .unknownOption argument => "Unknown option: " ++ argument
  | .unexpected argument => "Unexpected argument: " ++ argument
  | .writeWithoutFile => "--write requires a FILE argument"

namespace Arguments

def act (a : Arguments) (action : Action) : Arguments :=
  { a with actions := a.actions ++ [action] }

/-- The action that an assignment `R,C=TEXT` stands for; the text starts behind the first `=`. -/
def assignment (spec : String) : Except UsageError Action :=
  match cut? '=' spec.toList with
  | none => .error (.noAssignment spec)
  | some (before, text) =>
      match Address.read? before with
      | some address => .ok (.set address (String.ofList text))
      | none => .error (.badAddress (String.ofList before))

def take (a : Arguments) (value : String) : ValueOption → Except UsageError Arguments
  | .addSheet => .ok (a.act (.addSheet value))
  | .sheet => .ok (a.act (.switchSheet value))
  | .set => (assignment value).map a.act
  | .command => .ok (a.act (.evaluate value))
  | .output => .ok (a.act (.exportMarkdown value))
  | .csv => .ok (a.act (.exportCsv value))
  | .config => .ok { a with settings := some value }

/-- Read arguments from left to right, adding to those that were read before. -/
def readFrom (a : Arguments) : List String → Except UsageError Arguments
  | [] => .ok a
  | argument :: rest =>
      match Token.ofArgument argument with
      | .help => readFrom { a with help := true } rest
      | .noSettings => readFrom { a with noSettings := true } rest
      | .write => readFrom (a.act .write) rest
      | .takesValue option =>
          match rest with
          | [] => .error (.missingValue argument option)
          | value :: rest =>
              match a.take value option with
              | .ok a => readFrom a rest
              | .error e => .error e
      | .unknown => .error (.unknownOption argument)
      | .operand =>
          if a.file.isSome then .error (.unexpected argument)
          else readFrom { a with file := some argument } rest

def writesNowhere (a : Arguments) : Bool :=
  a.file.isNone && a.actions.contains .write

def parse (arguments : List String) : Except UsageError Arguments :=
  match empty.readFrom arguments with
  | .ok a => if a.writesNowhere then .error .writeWithoutFile else .ok a
  | .error e => .error e

end Arguments

end Gridbook.CommandLine
