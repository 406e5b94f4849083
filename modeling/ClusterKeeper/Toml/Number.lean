import ClusterKeeper.Toml.Text

/-!
# `Toml/Number.lean` — numbers, dates and times

Digits may be grouped with underscores, each between two digits. Decimal numbers have a sign and
no needless zero in front; integers fit 64 bits with sign. A float too large for the format is
refused if it is positive, and is the infinite number if it is negative.

Dates and times are checked against the calendar and the clock and then forgotten.
-/

set_option autoImplicit false

namespace ClusterKeeper.Toml

open Decimal (Binary64 Magnitude)

/-- The digits of a group that has begun: an underscore must stand between two digits. -/
def groupRest (isDigit : Char → Bool) : List Char → Option (List Char × List Char)
  | [] => some ([], [])
  | '_' :: c :: cs => if isDigit c then emit c (groupRest isDigit cs) else none
  | c :: cs => if isDigit c then emit c (groupRest isDigit cs)
    else if c = '_' then none
    else some ([], c :: cs)

/-- Reads digits, at least one, without their underscores. -/
def group (isDigit : Char → Bool) : Reader (List Char)
  | c :: cs => if isDigit c then emit c (groupRest isDigit cs) else none
  | [] => none

/-- Takes a sign, if there is one, and says whether it is a minus. -/
def sign : Reader Bool
  | '+' :: cs => some (false, cs)
  | '-' :: cs => some (true, cs)
  | cs => some (false, cs)

/-- The sign and the digits of a decimal integer. -/
def decimal : Reader (Bool × List Char) := do
  let negative ← sign
  match ← peek with
  | some '0' => expect '0'; return (negative, ['0'])
  | _ => return (negative, ← group Char.isDigit)

/-! ## 1. Integers -/

def integerOf (negative : Bool) (n : Nat) : Reader Int :=
  if negative then if n ≤ signedLimit then return -n else failure
  else if n < signedLimit then return n else failure

/-- A base other than ten: its mark, the digits. -/
def markedInteger (mark : Char) (base : Nat) (isDigit : Char → Bool) : Reader Int := do
  expect '0'
  expect mark
  integerOf false (digitsValue base (← group isDigit))

def integer : Reader Int :=
  markedInteger 'x' 16 (fun c => (hexValue? c).isSome)
    <|> markedInteger 'o' 8 (fun c => '0' ≤ c ∧ c ≤ '7')
    <|> markedInteger 'b' 2 (fun c => c = '0' ∨ c = '1')
    <|> do
      let (negative, digits) ← decimal
      integerOf negative (digitsValue 10 digits)

/-! ## 2. Floats -/

def floatExponent : Reader Int := do
  expect 'e' <|> expect 'E'
  let negative ← sign
  let n : Int := digitsValue 10 (← group Char.isDigit)
  return if negative then -n else n

/-- Reads the digits of a fraction and the exponent that may follow. -/
def floatFraction : Reader (List Char × Int) := do
  expect '.'
  let digits ← group Char.isDigit
  let e ← floatExponent <|> return 0
  return (digits, e)

def floatDigits : Reader Binary64 := do
  let (negative, whole) ← decimal
  let (fraction, e) ← (do return ([], ← floatExponent)) <|> floatFraction
  match Magnitude.ofDecimal? (digitsValue 10 (whole ++ fraction)) (e - fraction.length) with
  | some x => return .finite negative x
  | none => if negative then return .infinite true else failure

def floatWord : Reader Binary64 := do
  let negative ← sign
  (do expectAll ['i', 'n', 'f']; return .infinite negative)
    <|> (do expectAll ['n', 'a', 'n']; return .notANumber)

def float : Reader Binary64 := floatDigits <|> floatWord

/-! ## 3. Dates and times -/

/-- Reads a number of exactly so many digits. -/
def fixedDigits : Nat → Nat → Reader Nat
  | 0, n => return n
  | more + 1, n => fun cs =>
    match cs with
    | c :: rest => if c.isDigit then fixedDigits more (n * 10 + (c.toNat - 48)) rest else none
    | [] => none

/-- Reads a number of two digits between two bounds. -/
def twoDigits (least greatest : Nat) : Reader Nat := do
  let n ← fixedDigits 2 0
  if least ≤ n ∧ n ≤ greatest then return n else failure

def isLeap (year : Nat) : Bool := year % 4 = 0 && (year % 100 ≠ 0 || year % 400 = 0)

def daysIn (year month : Nat) : Nat :=
  if month = 2 then if isLeap year then 29 else 28
  else if month ∈ [4, 6, 9, 11] then 30
  else 31

def date : Reader Unit := do
  let year ← fixedDigits 4 0
  expect '-'
  let month ← twoDigits 1 12
  expect '-'
  let _ ← twoDigits 1 (daysIn year month)

def secondFraction : Reader Unit := do
  expect '.'
  let _ ← fixedDigits 1 0
  modify (·.dropWhile Char.isDigit)

def time : Reader Unit := do
  let _ ← twoDigits 0 23
  expect ':'
  let _ ← twoDigits 0 59
  expect ':'
  let _ ← twoDigits 0 60
  secondFraction <|> return ()

/-- How far the time is off the world's. -/
def offset : Reader Unit :=
  expect 'Z' <|> expect 'z' <|> do
    expect '+' <|> expect '-'
    let _ ← twoDigits 0 23
    expect ':'
    let _ ← twoDigits 0 59

/-- The time that may follow a date. -/
def timeOfDate : Reader Unit := do
  expect 'T' <|> expect 't' <|> expect ' '
  time
  offset <|> return ()

def dateTime : Reader Unit := (do date; timeOfDate <|> return ()) <|> time

end ClusterKeeper.Toml
