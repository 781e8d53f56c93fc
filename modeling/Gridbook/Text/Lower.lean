import Gridbook.Text.CaseTable
import Gridbook.Text.CaseContext

/-!
# Lower case

A text is put into lower case one character at a time.  Only the capital sigma looks at its
neighbours: at the end of a word it becomes `ς`, elsewhere `σ`.
-/

namespace Gridbook.Text

/-- The small form of a single character, apart from its neighbours. -/
def lowerChar (c : Char) : List Char :=
  if c = 'İ' then ['i', '\u0307']
  else match caseRuns.find? (·.contains c.toNat) with
    | some run => [Char.ofNat (run.lower c.toNat)]
    | none => [c]

/-- Whether a letter with case comes first, once marks are passed over. -/
def startsWithCased (s : List Char) : Bool :=
  ((s.dropWhile isCaseIgnorable).head?.map isCased).getD false

/-- The small sigma between two stretches of text, of which the first is given backwards: the final
form follows a letter and has none after it. -/
def lowerSigma (before rest : List Char) : Char :=
  if startsWithCased before && !startsWithCased rest then 'ς' else 'σ'

/-- Lower case of a text that follows another one, given backwards. -/
def lowerFrom (before : List Char) : List Char → List Char
  | [] => []
  | c :: rest =>
      (if c = 'Σ' then [lowerSigma before rest] else lowerChar c) ++ lowerFrom (c :: before) rest

def lower (s : List Char) : List Char :=
  lowerFrom [] s

end Gridbook.Text
