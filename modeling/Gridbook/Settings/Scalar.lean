import Gridbook.Text.Numeral
import Gridbook.Text.Scan

/-!
# Values in a settings file

A settings file follows TOML.  Of its values settings use whole numbers, in decimal, hexadecimal,
octal or binary digits with single underscores between them, and strings: with escapes between
quotes or verbatim between apostrophes, either on one line or between three marks across lines.
-/

namespace Gridbook.Settings

open Text

inductive Scalar where
  | number (value : Nat)
  | text (value : List Char)
deriving DecidableEq, Repr

/-- A space or a tab. -/
def isSpace (c : Char) : Bool :=
  c == ' ' || c == '\t'

/-- The characters that may stand for themselves: no control character but the tab. -/
def isPrintable (c : Char) : Bool :=
  c == '\t' || (' ' ≤ c && c != '\x7f')

/-- What follows a line break, which is a line feed with or without a carriage return before it. -/
def afterBreak? : List Char → Option (List Char)
  | '\n' :: rest => some rest
  | '\r' :: '\n' :: rest => some rest
  | _ => none

/-- Line breaks written with a single line feed. -/
def withLineFeeds : List Char → List Char
  | [] => []
  | '\r' :: '\n' :: rest => '\n' :: withLineFeeds rest
  | c :: rest => c :: withLineFeeds rest

/-! ## Numbers -/

/-- The digits of a group that has single underscores between digits. -/
def ungrouped? (isDigit : Char → Bool) (s : List Char) : Option (List Char) :=
  let groups := s.splitOn '_'
  if groups.all fun group => !group.isEmpty && group.all isDigit then some groups.flatten else none

def digitValue (c : Char) : Nat :=
  if c.isDigit then c.toNat - '0'.toNat else c.toLower.toNat - 'a'.toNat + 10

def radixValue (radix : Nat) (digits : List Char) : Nat :=
  digits.foldl (fun value c => radix * value + digitValue c) 0

def radixNumber? (radix : Nat) (s : List Char) : Option Nat :=
  (ungrouped? (fun c => c.isHexDigit && digitValue c < radix) s).map (radixValue radix)

/-- A number in decimal digits without leading zeros. -/
def decimalNumber? (s : List Char) : Option Nat :=
  (ungrouped? Char.isDigit s).bind fun digits =>
    if 1 < digits.length ∧ digits.head? = some '0' then none else some (ofDigits digits)

/-- A number, which is not negative and fits sixty-four bits with a sign. -/
def number? (s : List Char) : Option Nat :=
  Option.filter (· < coordinateLimit) <|
    match s with
    | '0' :: 'x' :: rest => radixNumber? 16 rest
    | '0' :: 'o' :: rest => radixNumber? 8 rest
    | '0' :: 'b' :: rest => radixNumber? 2 rest
    | '+' :: rest => decimalNumber? rest
    | '-' :: rest => (decimalNumber? rest).filter (· = 0)
    | _ => decimalNumber? s

/-! ## Strings -/

/-- The character for a code point in hexadecimal digits. -/
def codePoint? (s : List Char) : Option Char :=
  let code := radixValue 16 s
  if s.all Char.isHexDigit ∧ code.isValidChar then some (Char.ofNat code) else none

/-- The character for a letter behind a backslash. -/
def escaped? : Char → Option Char
  | 'b' => some '\x08'
  | 't' => some '\t'
  | 'n' => some '\n'
  | 'f' => some '\x0c'
  | 'r' => some '\r'
  | '"' => some '"'
  | '\\' => some '\\'
  | _ => none

/-- Whether nothing but spaces comes before a line feed. -/
def breaksLine (s : List Char) : Bool :=
  (s.dropWhile isSpace).head? == some '\n'

/-- The text that stands between quotes.  A string across lines may hold line feeds, and leaves out
all white space behind a backslash at the end of a line; `joining` says that it does so now. -/
def unescape? (multiline joining : Bool) : List Char → Option (List Char)
  | [] => some []
  | '\\' :: 'u' :: a :: b :: c :: d :: rest => do
      return (← codePoint? [a, b, c, d]) :: (← unescape? multiline false rest)
  | '\\' :: 'U' :: a :: b :: c :: d :: e :: f :: g :: h :: rest => do
      return (← codePoint? [a, b, c, d, e, f, g, h]) :: (← unescape? multiline false rest)
  | '\\' :: c :: rest =>
      match escaped? c with
      | some character => (unescape? multiline false rest).map (character :: ·)
      | none =>
          if multiline && breaksLine (c :: rest) then unescape? multiline true (c :: rest)
          else none
  | c :: rest =>
      if joining && (isSpace c || c == '\n') then unescape? multiline true rest
      else if isPrintable c && c != '\\' || (multiline && c == '\n') then
        (unescape? multiline false rest).map (c :: ·)
      else none

/-- The text that stands between apostrophes. -/
def verbatim? (multiline : Bool) (s : List Char) : Option (List Char) :=
  if s.all fun c => isPrintable c || (multiline && c == '\n') then some s else none

/-- The body of a string on one line up to its closing mark, and what follows the mark. -/
def oneLine? (mark : Char) (escapes : Bool) : List Char → Option (List Char × List Char)
  | [] => none
  | c :: rest =>
      if c = mark then some ([], rest)
      else if escapes && c = '\\' then
        match rest with
        | [] => none
        | d :: behind =>
            (oneLine? mark escapes behind).map fun (body, after) => (c :: d :: body, after)
      else (oneLine? mark escapes rest).map fun (body, after) => (c :: body, after)

/-- Up to two marks before three closing ones belong to the body. -/
def closing (mark : Char) : List Char → List Char × List Char
  | c :: d :: rest =>
      if c = mark then (if d = mark then ([c, d], rest) else ([c], d :: rest)) else ([], c :: d :: rest)
  | [c] => if c = mark then ([c], []) else ([], [c])
  | [] => ([], [])

/-- The body of a string up to three closing marks, and what follows them. -/
def acrossLines? (mark : Char) (escapes : Bool) : List Char → Option (List Char × List Char)
  | [] => none
  | c :: rest =>
      match after? [mark, mark, mark] (c :: rest) with
      | some behind => some (closing mark behind)
      | none =>
          if escapes && c = '\\' then
            match rest with
            | [] => none
            | d :: behind =>
                (acrossLines? mark escapes behind).map fun (body, after) => (c :: d :: body, after)
          else (acrossLines? mark escapes rest).map fun (body, after) => (c :: body, after)

def skipBreak (s : List Char) : List Char :=
  (afterBreak? s).getD s

def marked? (mark : Char) (escapes : Bool) (s : List Char) : Option (List Char × List Char) :=
  let decode (multiline : Bool) (body : List Char) : Option (List Char) :=
    if escapes then unescape? multiline false body else verbatim? multiline body
  match after? [mark, mark, mark] s with
  | some rest => do
      let (body, after) ← acrossLines? mark escapes (skipBreak rest)
      return (← decode true (withLineFeeds body), after)
  | none => do
      let (body, after) ← oneLine? mark escapes (← after? [mark] s)
      return (← decode false body, after)

def string? (s : List Char) : Option (List Char × List Char) :=
  if s.head? = some '\x27' then marked? '\x27' false s else marked? '"' true s

/-- The characters of which a value that is no string is made. -/
def isWordChar (c : Char) : Bool :=
  c.isAlphanum || c == '_' || c == '+' || c == '-' || c == '.' || c == ':'

def scalar? (s : List Char) : Option (Scalar × List Char) :=
  if s.head? = some '"' ∨ s.head? = some '\x27' then
    (string? s).map fun (text, rest) => (.text text, rest)
  else
    (number? (s.takeWhile isWordChar)).map fun value => (.number value, s.dropWhile isWordChar)

end Gridbook.Settings
