import Gridbook.Text.Utf8

/-!
# Files

Documents reach files through three operations: ask whether a path is there, read a text, and write
one.  A store in memory has them too.  It knows directories, so a path leads somewhere only if every
step before its last one is a directory; a directory is there but holds no text, and neither do
bytes that are no text.  The working directory and those above it, up to the root, are always there.
-/

namespace Gridbook

class FileAccess (m : Type → Type) where
  /-- Whether a path leads to a file or a directory. -/
  isPresent : String → m Bool
  /-- The text at a path, if it leads to a file that holds text. -/
  readText : String → m (Option String)
  /-- Write a text to a path, and tell whether it could be written. -/
  writeText : String → String → m Bool

inductive FileContent where
  | text (text : String)
  | binary (bytes : List UInt8)
deriving DecidableEq

/-- Bytes are text if they are valid UTF-8. -/
def FileContent.ofBytes (bytes : List UInt8) : FileContent :=
  match String.fromUTF8? ⟨bytes.toArray⟩ with
  | some s => .text s
  | none => .binary bytes

def FileContent.text? : FileContent → Option String
  | .text s => some s
  | .binary _ => none

/-- The text that a file is shown as. -/
def FileContent.shown : FileContent → String
  | .text s => s
  | .binary bytes => String.ofList (Text.shown bytes)

/-- The names on the way to a place from the root. -/
abbrev Place := List String

/-- Files and directories in memory, and the directory from which paths lead on that do not start at
the root. -/
structure Files where
  working : Place
  contents : List (Place × FileContent)
  directories : List Place

namespace Files

/-- A store without files, whose working directory is not the root. -/
def empty : Files := ⟨["work"], [], []⟩

def isDirectory (fs : Files) (place : Place) : Bool :=
  place.isPrefixOf fs.working || fs.directories.contains place

def lookup? (fs : Files) (place : Place) : Option FileContent :=
  fs.contents.lookup place

def maxNameBytes : Nat := 255

def maxPathBytes : Nat := 4095

/-- One step of a path from a place, which has to be a directory.  The root is in itself. -/
def walk? (fs : Files) (here : Place) (name : String) : Option Place :=
  if ¬ fs.isDirectory here then none
  else if name = "" ∨ name = "." then some here
  else if name = ".." then some here.dropLast
  else if maxNameBytes < name.utf8ByteSize then none
  else some (here ++ [name])

def pathNames (path : String) : List String :=
  (path.toList.splitOn '/').map String.ofList

/-- The names in a path that lead from one place to another. -/
def steps (path : String) : List String :=
  (pathNames path).filter fun name => name ≠ "" ∧ name ≠ "."

/-- The place from which a path leads on: the root, if it starts with a slash. -/
def origin (fs : Files) (path : String) : Place :=
  if path.toList.head? = some '/' then [] else fs.working

/-- The place that a path leads to.  The empty path and one that is too long lead nowhere. -/
def locate? (fs : Files) (path : String) : Option Place :=
  if path.isEmpty ∨ maxPathBytes < path.utf8ByteSize ∨ path.toList.contains '\x00' then none
  else (pathNames path).foldlM fs.walk? (fs.origin path)

def isPresent (fs : Files) (path : String) : Bool :=
  match fs.locate? path with
  | some place => fs.isDirectory place || (fs.lookup? place).isSome
  | none => false

def file? (fs : Files) (path : String) : Option FileContent := do
  fs.lookup? (← fs.locate? path)

def read? (fs : Files) (path : String) : Option String := do
  (← fs.file? path).text?

def put (fs : Files) (place : Place) (content : FileContent) : Files :=
  { fs with contents := (place, content) :: fs.contents.filter fun entry => entry.1 ≠ place }

/-- The store with a file at a path that leads to no directory. -/
def store? (fs : Files) (path : String) (content : FileContent) : Option Files := do
  let place ← fs.locate? path
  if fs.isDirectory place then none else return fs.put place content

def write? (fs : Files) (path text : String) : Option Files :=
  fs.store? path (.text text)

/-- The store with directories on the way that names lead from a place, as far as no file is in the
way. -/
def makeWay (fs : Files) (here : Place) : List String → Files
  | [] => fs
  | name :: rest =>
      if name = ".." then fs.makeWay here.dropLast rest
      else
        let next := here ++ [name]
        if (fs.lookup? next).isSome then fs
        else { fs with directories := next :: fs.directories }.makeWay next rest

/-- The store with a file at a path, if it may be there, and all directories on the way to it. -/
def place (fs : Files) (path : String) (content : FileContent) : Files :=
  let fs := fs.makeWay (fs.origin path) (steps path).dropLast
  (fs.store? path content).getD fs

def placeDirectory (fs : Files) (path : String) : Files :=
  fs.makeWay (fs.origin path) (steps path)

/-- All files in the working directory and below it, each with its path from there. -/
def toList (fs : Files) : List (String × FileContent) :=
  (fs.contents.filter fun entry => fs.working.isPrefixOf entry.1).map fun (place, content) =>
    ("/".intercalate (place.drop fs.working.length), content)

end Files

instance : FileAccess (StateM Files) where
  isPresent path := do return (← get).isPresent path
  readText path := do return (← get).read? path
  writeText path text := do
    match (← get).write? path text with
    | some fs =>
        set fs
        return true
    | none => return false

end Gridbook
