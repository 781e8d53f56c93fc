import Gridbook.CommandLine.Run

/-!
# The program

The command on the files of the system.  The user's own settings are found through the environment.
-/

namespace Gridbook

/-- Files of the system: a path leads somewhere if it can be followed to its end. -/
instance : FileAccess IO where
  isPresent path := do
    match ← (IO.FS.realPath path).toBaseIO with
    | .ok _ => return true
    | .error _ => return false
  readText path := do
    match ← (IO.FS.readFile path).toBaseIO with
    | .ok text => return some text
    | .error _ => return none
  writeText path text := do
    match ← (IO.FS.writeFile path text).toBaseIO with
    | .ok () => return true
    | .error _ => return false

/-- The settings file of the user, below the directory that the environment names for settings. -/
def ownSettings : IO (Option String) := do
  let below (directory : String) : String := directory ++ "/sheetline/config.toml"
  match ← IO.getEnv "XDG_CONFIG_HOME", ← IO.getEnv "HOME" with
  | some directory, home =>
      if directory.startsWith "/" then return some (below directory)
      else return home.map fun home => below (home ++ "/.config")
  | none, home => return home.map fun home => below (home ++ "/.config")

end Gridbook

def main (arguments : List String) : IO UInt32 := do
  let report ← Gridbook.CommandLine.run arguments (← Gridbook.ownSettings)
  IO.print report.output
  for message in report.messages do
    IO.eprintln message
  return report.code.toUInt32
