import Gridbook.Files
import Gridbook.Settings.Parser

/-!
# Loading settings

The layout of new workbooks comes from a settings file, either one that is asked for or the user's
own.  Whatever is wrong with the file ends in warnings and the standard layout; only the user's own
file may be missing without one.
-/

namespace Gridbook.Settings

/-- The layout from the content of a settings file, given how such files are read. -/
def fromContent (read : String → Option Settings) (path content : String) :
    Layout × List Warning :=
  match read content with
  | some settings => settings.layout
  | none => (Layout.standard, [.notParsed path])

section Access

variable {m : Type → Type} [Monad m] [FileAccess m]

/-- The layout from the settings file that is asked for, or else from the user's own, given how such
files are read. -/
def loadWith (read : String → Option Settings) (asked own : Option String) :
    m (Layout × List Warning) := do
  match asked.or own with
  | none => return (Layout.standard, [])
  | some path =>
      if ← FileAccess.isPresent path then
        match ← FileAccess.readText path with
        | some content => return fromContent read path content
        | none => return (Layout.standard, [.notRead path])
      else return (Layout.standard, if asked.isSome then [.notFound path] else [])

def load (asked own : Option String) : m (Layout × List Warning) :=
  loadWith parse? asked own

end Access

end Gridbook.Settings
