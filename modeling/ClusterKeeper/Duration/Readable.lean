import ClusterKeeper.Duration.Unit
import ClusterKeeper.Text.Character

/-!
# `Duration/Readable.lean` — durations as people write them

`Duration.render` writes `1year 2months 3days 4h 5m 6s 7ms 8us 9ns`, without the parts that are
zero. `Duration.read` accepts much more: spans `number unit` in any order and number, blanks
almost everywhere, fractions where they come out whole.

Reading is one pass over the characters with a small state (`Scan`): what has been summed up so
far, and where in a span the reader stands. A text either is no duration (`ReadError.malformed`)
or, in one corner, makes the sum leave the range in the very step that carries a full second out
of the nanoseconds (`ReadError.overflow`); the two are kept apart because the second one is not
an answer about the text but the end of the reader's arithmetic.
-/

set_option autoImplicit false

namespace ClusterKeeper

namespace Duration

/-! ## 1. Writing -/

/-- A part of the written form: a count and its unit, with an `s` for several where the unit's
word takes one. Zero parts are not written. -/
def renderPart (count : Nat) (word : String) (takesPlural : Bool) : List String :=
  if count = 0 then []
  else [toString count ++ word ++ (if takesPlural && count > 1 then "s" else "")]

/-- The parts of the written form from the longest unit to the shortest. -/
def renderParts (seconds nanos : Nat) : List String :=
  let yearRest := seconds % 31557600
  let monthRest := yearRest % 2630016
  let dayRest := monthRest % 86400
  renderPart (seconds / 31557600) "year" true
    ++ renderPart (yearRest / 2630016) "month" true
    ++ renderPart (monthRest / 86400) "day" true
    ++ renderPart (dayRest / 3600) "h" false
    ++ renderPart (dayRest % 3600 / 60) "m" false
    ++ renderPart (dayRest % 60) "s" false
    ++ renderPart (nanos / 1000000) "ms" false
    ++ renderPart (nanos / 1000 % 1000) "us" false
    ++ renderPart (nanos % 1000) "ns" false

def render (d : Duration) : String :=
  if d.isZero then "0s" else " ".intercalate (renderParts d.seconds d.subsecond)

/-! ## 2. Reading -/

inductive ReadError
  /-- The text is no duration, or one that no part of the sum could hold. -/
  | malformed
  /-- A full second carried out of the nanoseconds left the range. -/
  | overflow
  deriving DecidableEq, Repr

/-- Where in a span the reader stands. -/
inductive Phase
  | start
  | gap
  /-- Among the digits of a number. -/
  | whole (n : Nat)
  /-- Behind the point of a number: its whole part, then the fraction read so far. -/
  | fraction (n numerator denominator : Nat)
  /-- Within a unit's name: the number before it and the letters read so far. -/
  | unit (n : Nat) (part : Option (Nat × Nat)) (name : List Char)
  deriving DecidableEq, Repr

/-- The state of reading: the sum of the finished spans and the place in the current one. -/
structure Scan where
  total : Duration
  phase : Phase
  deriving DecidableEq, Repr

def isUnitLetter (c : Char) : Bool := c.isAlpha || c == 'µ'

def digitValue (c : Char) : Nat := c.toNat - '0'.toNat

/-- Adds seconds and nanoseconds to a sum. More than a second's nanoseconds are carried first and
checked; exactly a second's are carried last. -/
def addParts (total : Duration) (seconds nanos : Nat) : Except ReadError Duration :=
  match word? (nanos + total.subsecond) with
  | none => .error .malformed
  | some n =>
    let carry := if n > nanosPerSecond then n / nanosPerSecond else 0
    let rest := if n > nanosPerSecond then n % nanosPerSecond else n
    match word? (seconds + carry) with
    | none => .error .malformed
    | some s =>
      match word? (s + total.seconds) with
      | none => .error .malformed
      | some s' =>
        match ofParts? s' rest with
        | some d => .ok d
        | none => .error .overflow

/-- Adds optional parts; a part that did not fit its word is no duration. -/
def addParts? (total : Duration) : Option (Nat × Nat) → Except ReadError Duration
  | none => .error .malformed
  | some (seconds, nanos) => addParts total seconds nanos

/-- Adds a finished span: its whole units, then its fraction of a unit. -/
def addSpan (total : Duration) (n : Nat) (part : Option (Nat × Nat)) (name : List Char) :
    Except ReadError Duration :=
  match TimeUnit.ofName? (String.ofList name) with
  | none => .error .malformed
  | some u => do
    let total ← addParts? total (u.multiple? n)
    match part with
    | none => return total
    | some (numerator, denominator) => addParts? total (u.fraction? numerator denominator)

def Scan.step (s : Scan) (c : Char) : Except ReadError Scan :=
  match s.phase with
  | .start | .gap =>
    if c.isDigit then .ok { s with phase := .whole (digitValue c) }
    else if Text.isBlank c then .ok s
    else .error .malformed
  | .whole n =>
    if c.isDigit then
      match word? (n * 10 + digitValue c) with
      | some n' => .ok { s with phase := .whole n' }
      | none => .error .malformed
    else if Text.isBlank c then .ok s
    else if isUnitLetter c then .ok { s with phase := .unit n none [c] }
    else if c = '.' then .ok { s with phase := .fraction n 0 1 }
    else .error .malformed
  | .fraction n numerator denominator =>
    if c.isDigit then
      match word? (numerator * 10 + digitValue c), word? (denominator * 10) with
      | some a, some b => .ok { s with phase := .fraction n a b }
      | _, _ => .error .malformed
    else if Text.isBlank c then .ok s
    else if isUnitLetter c && denominator ≠ 1 then
      .ok { s with phase := .unit n (some (numerator, denominator)) [c] }
    else .error .malformed
  | .unit n part name =>
    if c.isDigit then do
      let total ← addSpan s.total n part name
      return ⟨total, .whole (digitValue c)⟩
    else if Text.isBlank c then do
      let total ← addSpan s.total n part name
      return ⟨total, .gap⟩
    else if isUnitLetter c then .ok { s with phase := .unit n part (name ++ [c]) }
    else .error .malformed

/-- The duration read when the text ends. -/
def Scan.finish (s : Scan) : Except ReadError Duration :=
  match s.phase with
  | .gap => .ok s.total
  | .unit n part name => addSpan s.total n part name
  | _ => .error .malformed

/-- Reads a duration. The bare `0` is the one number that needs no unit. -/
def read (text : String) : Except ReadError Duration :=
  if text = "0" then .ok zero
  else do
    let s ← text.toList.foldlM Scan.step ⟨zero, .start⟩
    s.finish

end Duration

end ClusterKeeper
