/-!
# Quoted text

Text in a snapshot stands between quotes on one line.  A backslash escapes a backslash, a quote, a
line feed (`\n`) and a carriage return (`\r`); before any other character it stands for itself.
Reading undoes writing, and the end of a quoted text is its first quote that is not escaped.
-/

namespace Gridbook.Snapshot

def escapeChar : Char → List Char
  | '\\' => ['\\', '\\']
  | '"' => ['\\', '"']
  | '\n' => ['\\', 'n']
  | '\r' => ['\\', 'r']
  | c => [c]

def escape (s : List Char) : List Char :=
  s.flatMap escapeChar

/-- What a backslash and the character behind it stand for. -/
def unescapePair : Char → List Char
  | '\\' => ['\\']
  | '"' => ['"']
  | 'n' => ['\n']
  | 'r' => ['\r']
  | c => ['\\', c]

def unescape : List Char → List Char
  | [] => []
  | '\\' :: c :: rest => unescapePair c ++ unescape rest
  | c :: rest => c :: unescape rest

/-- The written form up to the first quote that is not escaped, and what is behind that quote. -/
def toQuote? : List Char → Option (List Char × List Char)
  | [] => none
  | '"' :: rest => some ([], rest)
  | '\\' :: c :: rest =>
      (toQuote? rest).map fun (inner, behind) => ('\\' :: c :: inner, behind)
  | c :: rest => (toQuote? rest).map fun (inner, behind) => (c :: inner, behind)

def quote (s : List Char) : List Char :=
  '"' :: escape s ++ ['"']

/-- The written form between the quotes that a text starts with, and what is behind them. -/
def quoted? : List Char → Option (List Char × List Char)
  | '"' :: rest => toQuote? rest
  | _ => none

theorem escapeChar_cases (c : Char) :
    (∃ d, escapeChar c = ['\\', d] ∧ unescapePair d = [c] ∧ d ≠ '\n') ∨
      (escapeChar c = [c] ∧ c ≠ '\\' ∧ c ≠ '"' ∧ c ≠ '\n' ∧ c ≠ '\r') := by
  unfold escapeChar
  split
  · exact .inl ⟨'\\', rfl, rfl, by decide⟩
  · exact .inl ⟨'"', rfl, rfl, by decide⟩
  · exact .inl ⟨'n', rfl, rfl, by decide⟩
  · exact .inl ⟨'r', rfl, rfl, by decide⟩
  · exact .inr ⟨rfl, by assumption, by assumption, by assumption, by assumption⟩

theorem unescape_cons {c : Char} (h : c ≠ '\\') (rest : List Char) :
    unescape (c :: rest) = c :: unescape rest := by
  rw [unescape]
  exact fun _ _ e _ => h e

theorem toQuote?_cons {c : Char} (hb : c ≠ '\\') (hq : c ≠ '"') (rest : List Char) :
    toQuote? (c :: rest) = (toQuote? rest).map fun (inner, behind) => (c :: inner, behind) := by
  rw [toQuote?]
  · exact hq
  · exact fun _ _ e _ => hb e

theorem unescape_escape (s : List Char) : unescape (escape s) = s := by
  induction s with
  | nil => rfl
  | cons c rest ih =>
      simp only [escape, List.flatMap_cons] at ih ⊢
      rcases escapeChar_cases c with ⟨d, written, read, _⟩ | ⟨written, plain, _⟩
      · simp [written, unescape, read, ih]
      · simp [written, unescape_cons plain, ih]

/-- A quoted text ends at its own closing quote. -/
theorem toQuote?_escape (s behind : List Char) :
    toQuote? (escape s ++ '"' :: behind) = some (escape s, behind) := by
  induction s with
  | nil => rfl
  | cons c rest ih =>
      simp only [escape, List.flatMap_cons, List.append_assoc] at ih ⊢
      rcases escapeChar_cases c with ⟨d, written, _⟩ | ⟨written, plain, unquoted, _⟩
      · simp [written, toQuote?, ih]
      · simp [written, toQuote?_cons plain unquoted, ih]

end Gridbook.Snapshot
