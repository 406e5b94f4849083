/-!
# `Text/Utf8.lean` — text in bytes, shown as far as possible

Bytes that are no text are shown with the replacement character U+FFFD. A sequence that begins as
a character of several bytes and is not completed is replaced as a whole, up to where it goes
wrong; every other stray byte is replaced by itself.
-/

set_option autoImplicit false

namespace ClusterKeeper.Text

def replacement : Char := '\uFFFD'

/-- Of a first byte: how many bytes follow it, the bounds of the second byte, and what the first
byte contributes to the code point. -/
def leadOf (b : Nat) : Option (Nat × Nat × Nat × Nat) :=
  if 0xC2 ≤ b ∧ b ≤ 0xDF then some (1, 0x80, 0xBF, b - 0xC0)
  else if b = 0xE0 then some (2, 0xA0, 0xBF, 0)
  else if b = 0xED then some (2, 0x80, 0x9F, 0xD)
  else if 0xE1 ≤ b ∧ b ≤ 0xEF then some (2, 0x80, 0xBF, b - 0xE0)
  else if b = 0xF0 then some (3, 0x90, 0xBF, 0)
  else if 0xF1 ≤ b ∧ b ≤ 0xF3 then some (3, 0x80, 0xBF, b - 0xF0)
  else if b = 0xF4 then some (3, 0x80, 0x8F, 4)
  else none

/-- Where in a character the reader stands: how many bytes are to come, the bounds of the next one
and the code point so far. -/
structure Partial where
  left : Nat
  least : Nat
  greatest : Nat
  code : Nat
  deriving DecidableEq, Repr

/-- A byte at the beginning of a character: what it shows at once and what it begins. -/
def beginChar (b : Nat) : List Char × Option Partial :=
  if b < 0x80 then ([Char.ofNat b], none)
  else
    match leadOf b with
    | some (left, least, greatest, code) => ([], some ⟨left, least, greatest, code⟩)
    | none => ([replacement], none)

/-- Reads a byte within or between characters. -/
def decodeByte (b : Nat) : Option Partial → List Char × Option Partial
  | none => beginChar b
  | some p =>
    if p.least ≤ b ∧ b ≤ p.greatest then
      let code := p.code * 64 + (b - 0x80)
      if p.left ≤ 1 then ([Char.ofNat code], none)
      else ([], some ⟨p.left - 1, 0x80, 0xBF, code⟩)
    else
      let (shown, next) := beginChar b
      (replacement :: shown, next)

/-- Reads bytes from a place within or between characters. -/
def decodeFrom : Option Partial → List UInt8 → List Char
  | none, [] => []
  | some _, [] => [replacement]
  | place, b :: rest =>
    let (shown, place) := decodeByte b.toNat place
    shown ++ decodeFrom place rest

/-- The text that bytes show. -/
def shownBytes (bytes : ByteArray) : String := String.ofList (decodeFrom none bytes.toList)

end ClusterKeeper.Text
