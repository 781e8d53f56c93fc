/-!
# Bytes as text

Bytes that are no valid UTF-8 are shown with replacement characters: one for each longest stretch
that starts a character but does not complete it, and one for each byte that starts none.
-/

namespace Gridbook.Text

def replacement : Char := '\uFFFD'

/-- How a first byte continues: the count of further bytes, the bits of the character that it holds,
and the range that the second byte has to lie in. -/
def lead? (b : Nat) : Option (Nat × Nat × Nat × Nat) :=
  if 0xC2 ≤ b ∧ b ≤ 0xDF then some (1, b - 0xC0, 0x80, 0xBF)
  else if b = 0xE0 then some (2, 0, 0xA0, 0xBF)
  else if b = 0xED then some (2, 0xD, 0x80, 0x9F)
  else if 0xE1 ≤ b ∧ b ≤ 0xEF then some (2, b - 0xE0, 0x80, 0xBF)
  else if b = 0xF0 then some (3, 0, 0x90, 0xBF)
  else if 0xF1 ≤ b ∧ b ≤ 0xF3 then some (3, b - 0xF0, 0x80, 0xBF)
  else if b = 0xF4 then some (3, 4, 0x80, 0x8F)
  else none

/-- A character that is being read: further bytes due, bits so far, and the range of the next
byte. -/
structure Pending where
  due : Nat
  code : Nat
  low : Nat
  high : Nat

def firstByte (b : Nat) : List Char × Option Pending :=
  if b < 0x80 then ([Char.ofNat b], none)
  else match lead? b with
    | some (due, code, low, high) => ([], some ⟨due, code, low, high⟩)
    | none => ([replacement], none)

def nextByte (pending : Option Pending) (b : Nat) : List Char × Option Pending :=
  match pending with
  | none => firstByte b
  | some p =>
      if p.low ≤ b ∧ b ≤ p.high then
        let code := 64 * p.code + b % 64
        if p.due = 1 then ([Char.ofNat code], none)
        else ([], some ⟨p.due - 1, code, 0x80, 0xBF⟩)
      else
        let (chars, next) := firstByte b
        (replacement :: chars, next)

/-- The text that bytes are shown as, after a character that is being read. -/
def shownFrom (pending : Option Pending) : List Nat → List Char
  | [] => if pending.isSome then [replacement] else []
  | b :: rest =>
      let (chars, next) := nextByte pending b
      chars ++ shownFrom next rest

def shown (bytes : List UInt8) : List Char :=
  shownFrom none (bytes.map UInt8.toNat)

end Gridbook.Text
