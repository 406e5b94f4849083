import ClusterKeeper.Json.Value

/-!
# `Json/Reader.lean` — reading JSON from left to right

A `Reader` takes what it needs from the front of the remaining characters or fails. Values are
read in one pass and in the order of the text, so of several things wrong with a text the first
one is reported, whether it is the text or the data that is wrong.

Three ways of reading a value differ in what they refuse:

* `readValue` keeps the value. It refuses numbers beyond the floating-point range and nesting
  deeper than `nestingLimit`.
* `skipValue` only finds the end of a value nobody asked for. Numbers may be of any size, nesting
  of any depth, and the code points that `\u` escapes name need not exist.
* The typed readers (`readString`, `readArray`, `readFields`) read what they are asked for and
  otherwise say what they found (`refuse`), without reading arrays and objects to their end.
-/

set_option autoImplicit false

namespace ClusterKeeper.Json

/-- Takes characters from the front of a text. -/
abbrev Reader := StateT (List Char) (Except Error)

/-- How many arrays and objects may be open at a time. -/
def nestingLimit : Nat := 127

def isBlank (c : Char) : Bool := c = ' ' || c = '\n' || c = '\t' || c = '\r'

/-- Passes over blanks and shows the next character without taking it. -/
def peek : Reader (Option Char) := fun cs =>
  let rest := cs.dropWhile isBlank
  .ok (rest.head?, rest)

def drop : Reader Unit := fun cs => .ok ((), cs.tail)

/-- Takes the letters of a word, whose first one has been taken. -/
def readLetters : List Char → Reader Unit
  | [] => return ()
  | l :: ls => fun cs =>
    match cs with
    | [] => .error .truncated
    | c :: rest => if c = l then readLetters ls rest else .error .malformed

/-! ## 1. Strings -/

/-- Where in a string the reader stands. -/
inductive StringPhase
  | plain
  | escape
  /-- In a `\u` escape with `left` digits to come; `lead` is the first half of a pair. -/
  | hex (lead : Option Nat) (left value : Nat)
  /-- Behind the first half of a pair, where a backslash must follow. -/
  | pairEscape (lead : Nat)
  /-- Behind that backslash, where a `u` must follow. -/
  | pairMark (lead : Nat)
  deriving DecidableEq, Repr

/-- Whether four bytes are left, the length of the digits of a `\u` escape. -/
def hasFourBytes (cs : List Char) : Bool := 4 ≤ (cs.take 4).foldl (fun n c => n + c.utf8Size) 0

/-- The character that a one-letter escape names. -/
def shortEscape? (c : Char) : Option Char :=
  match c with
  | '"' => some '"'
  | '\\' => some '\\'
  | '/' => some '/'
  | 'b' => some '\x08'
  | 'f' => some '\x0c'
  | 'n' => some '\n'
  | 'r' => some '\r'
  | 't' => some '\t'
  | _ => none

def isLeadHalf (n : Nat) : Bool := 0xD800 ≤ n && n ≤ 0xDBFF
def isTrailHalf (n : Nat) : Bool := 0xDC00 ≤ n && n ≤ 0xDFFF

/-- The code point that two halves of a pair make up. -/
def pairedCode (lead trail : Nat) : Nat := (lead - 0xD800) * 0x400 + (trail - 0xDC00) + 0x10000

/-- What the digits of a `\u` escape lead to: the character they complete, if any, and the phase
that follows. A half of a pair cannot stand alone. -/
def endOfHex (lead : Option Nat) (n : Nat) : Except Error (List Char × StringPhase) :=
  match lead with
  | none =>
    if isTrailHalf n then .error .malformed
    else if isLeadHalf n then .ok ([], .pairEscape n)
    else .ok ([Char.ofNat n], .plain)
  | some l =>
    if isTrailHalf n then .ok ([Char.ofNat (pairedCode l n)], .plain) else .error .malformed

/-- Reads the characters of a string up to its closing quote. A `lenient` reader, which throws
them away, does not ask whether the code points of escapes exist. -/
def stringBody (lenient : Bool) : StringPhase → List Char → Except Error (List Char × List Char)
  | .plain, '"' :: rest => .ok ([], rest)
  | .plain, '\\' :: rest => stringBody lenient .escape rest
  | .plain, c :: rest =>
    if c.toNat < 0x20 then .error .malformed
    else do
      let (s, rest) ← stringBody lenient .plain rest
      return (c :: s, rest)
  | .escape, 'u' :: rest =>
    if hasFourBytes rest then stringBody lenient (.hex none 4 0) rest else .error .truncated
  | .escape, c :: rest =>
    match shortEscape? c with
    | none => .error .malformed
    | some e => do
      let (s, rest) ← stringBody lenient .plain rest
      return (e :: s, rest)
  | .hex lead left value, c :: rest =>
    match hexValue? c with
    | none => .error .malformed
    | some h =>
      let n := value * 16 + h
      if left ≤ 1 then
        if lenient then stringBody lenient .plain rest
        else do
          let (known, next) ← endOfHex lead n
          let (s, rest) ← stringBody lenient next rest
          return (known ++ s, rest)
      else stringBody lenient (.hex lead (left - 1) n) rest
  | .pairEscape lead, c :: rest =>
    if c = '\\' then stringBody lenient (.pairMark lead) rest else .error .malformed
  | .pairMark lead, c :: rest =>
    if c = 'u' then
      if hasFourBytes rest then stringBody lenient (.hex (some lead) 4 0) rest
      else .error .truncated
    else .error .malformed
  | _, [] => .error .truncated

/-- Reads a string whose opening quote has been taken. -/
def stringRest : Reader String := fun cs => do
  let (s, rest) ← stringBody false .plain cs
  return (String.ofList s, rest)

def skipStringRest : Reader Unit := fun cs => do
  let (_, rest) ← stringBody true .plain cs
  return ((), rest)

/-! ## 2. Numbers -/

/-- The first digits of a numeral as long as they fit 64 bits, and how many were left over. -/
def takeWord : Nat → List Char → Nat × Nat
  | n, [] => (n, 0)
  | n, c :: cs =>
    let n' := n * 10 + (c.toNat - 48)
    if n' < wordLimit then takeWord n' cs else (n, cs.length + 1)

open Decimal in
/-- `digits · 10 ^ exponent` as it comes out of one multiplication or of divisions by powers of
ten that the format holds; none if it leaves the range upwards. -/
def floatOfParts? (digits : Nat) (exponent : Int) : Option Magnitude := do
  let f ← Magnitude.ofRatio? digits 1
  if f.isZero then return f
  let power (k : Nat) := Magnitude.ofRatio? (Nat.pow 10 k) 1
  if 308 < exponent then none
  else if 0 ≤ exponent then f.times? (← power exponent.toNat)
  else if -308 ≤ exponent then f.over? (← power (-exponent).toNat)
  else if -616 ≤ exponent then
    (← f.over? (← power 308)).over? (← power (-exponent - 308).toNat)
  else return .zero

/-- A number with a fraction or an exponent, or an integer beyond 64 bits. -/
def floatNumber (negative : Bool) (digits : Nat) (exponent : Int) : Except Error Number :=
  match floatOfParts? digits exponent with
  | some x => .ok (.float (.finite negative x))
  | none => .error .malformed

/-- An integer of 64 bits; a negative one below their range, or a negative zero, is a float. -/
def integerNumber (negative : Bool) (n : Nat) : Except Error Number :=
  if !negative then .ok (.natural n)
  else if 0 < n && n ≤ signedLimit then .ok (.negative n)
  else floatNumber true n 0

/-- The digits at the front, and what follows them. -/
def spanDigits (cs : List Char) : List Char × List Char :=
  (cs.takeWhile Char.isDigit, cs.dropWhile Char.isDigit)

/-- Reads the exponent behind its mark, if there is a mark. -/
def readExponent : Reader (Option Int) := fun cs =>
  match cs with
  | c :: rest =>
    if c = 'e' || c = 'E' then
      let (negative, rest) := match rest with
        | '+' :: r => (false, r)
        | '-' :: r => (true, r)
        | r => (false, r)
      let (digits, rest) := spanDigits rest
      if digits.isEmpty then .error (if rest.isEmpty then .truncated else .malformed)
      else
        let n : Int := digits.foldl (fun n d => n * 10 + (d.toNat - 48)) (0 : Nat)
        .ok (some (if negative then -n else n), rest)
    else .ok (none, cs)
  | [] => .ok (none, cs)

/-- Reads the digits behind a point, if there is a point. -/
def readFraction : Reader (Option (List Char)) := fun cs =>
  match cs with
  | '.' :: rest =>
    let (digits, rest) := spanDigits rest
    if digits.isEmpty then .error (if rest.isEmpty then .truncated else .malformed)
    else .ok (some digits, rest)
  | _ => .ok (none, cs)

/-- Reads the integer digits of a number: a zero stands alone. -/
def readInteger : Reader (List Char) := fun cs =>
  match cs with
  | [] => .error .truncated
  | '0' :: rest =>
    match rest with
    | d :: _ => if d.isDigit then .error .malformed else .ok (['0'], rest)
    | [] => .ok (['0'], rest)
  | c :: _ => if c.isDigit then .ok (spanDigits cs) else .error .malformed

/-- The number that its parts spell. -/
def numberOfParts (negative : Bool) (whole : List Char) (fraction : Option (List Char))
    (exponent : Option Int) : Except Error Number :=
  let (n, unread) := takeWord 0 whole
  match fraction, exponent with
  | none, none => if unread = 0 then integerNumber negative n else floatNumber negative n unread
  | none, some e => floatNumber negative n (unread + e)
  | some ds, e =>
    let (n', left) := takeWord n ds
    let used : Int := ds.length - left
    floatNumber negative n' (unread - used + e.getD 0)

/-- Reads a number whose sign has been taken. -/
def readNumber (negative : Bool) : Reader Number := do
  let whole ← readInteger
  let fraction ← readFraction
  let exponent ← readExponent
  numberOfParts negative whole fraction exponent

/-- Finds the end of a number whose sign has been taken. -/
def skipNumber : Reader Unit := fun cs => do
  let strict {α : Type} : Except Error α → Except Error α := fun
    | .error _ => .error .malformed
    | .ok a => .ok a
  let (_, cs) ← strict (readInteger cs)
  let (_, cs) ← strict (readFraction cs)
  let (_, cs) ← strict (readExponent cs)
  return ((), cs)

/-! ## 3. Arrays and objects -/

/-- Whether another item follows in an array; its comma is taken. -/
def hasItem (first : Bool) : Reader Bool := do
  match ← peek with
  | none => throw .truncated
  | some ']' => return false
  | some c =>
    if first then return true
    else if c = ',' then
      drop
      match ← peek with
      | none => throw .truncated
      | some ']' => throw .malformed
      | some _ => return true
    else throw .malformed

def endArray : Reader Unit := do
  match ← peek with
  | none => throw .truncated
  | some ']' => drop
  | some _ => throw .malformed

/-- Whether another member follows in an object; its comma and its opening quote are taken. -/
def hasMember (first : Bool) : Reader Bool := do
  match ← peek with
  | none => throw .truncated
  | some '}' => return false
  | some '"' => if first then drop; return true else throw .malformed
  | some ',' =>
    if first then throw .malformed
    else
      drop
      match ← peek with
      | none => throw .truncated
      | some '"' => drop; return true
      | some _ => throw .malformed
  | some _ => throw .malformed

def endObject : Reader Unit := do
  match ← peek with
  | none => throw .truncated
  | some '}' => drop
  | some _ => throw .malformed

/-- Takes the colon between a name and its value. -/
def colon : Reader Unit := do
  match ← peek with
  | none => throw .truncated
  | some ':' => drop
  | some _ => throw .malformed

/-- Reads items until none follows. The length of the fuel bounds their number. -/
def items {α : Type} (item : Reader α) : (fuel : List Char) → (first : Bool) → Reader (List α)
  | [], _ => throw .truncated
  | _ :: fuel, first => do
    if ← hasItem first then
      let a ← item
      let rest ← items item fuel false
      return a :: rest
    else return []

/-- Reads members until none follows; each is told its name and changes what is known so far. -/
def members {σ : Type} (member : String → σ → Reader σ) :
    (fuel : List Char) → (first : Bool) → σ → Reader σ
  | [], _, _ => throw .truncated
  | _ :: fuel, first, known => do
    if ← hasMember first then
      let name ← stringRest
      let known ← member name known
      members member fuel false known
    else return known

/-- Every item takes a character, so the text itself is fuel enough: when it is used up, nothing
is left to be read. -/
def bounded {α : Type} (reader : List Char → Reader α) : Reader α := fun cs => reader cs cs

/-! ## 4. Values -/

/-- Reads a value that is neither array nor object; `c` is its first character. -/
def readScalar (c : Char) : Reader Value := do
  if c = 'n' then drop; readLetters ['u', 'l', 'l']; return .null
  else if c = 't' then drop; readLetters ['r', 'u', 'e']; return .boolean true
  else if c = 'f' then drop; readLetters ['a', 'l', 's', 'e']; return .boolean false
  else if c = '"' then drop; return .string (← stringRest)
  else if c = '-' then drop; return .number (← readNumber true)
  else if c.isDigit then return .number (← readNumber false)
  else throw .malformed

/-- Reads a value whose items are read by `nested`; without one, arrays and objects are too deep. -/
def readValueWith (nested : Option (Reader Value)) : Reader Value := do
  match ← peek with
  | none => throw .truncated
  | some '[' =>
    match nested with
    | none => throw .malformed
    | some item =>
      drop
      let vs ← bounded fun fuel => items item fuel true
      endArray
      return .array vs
  | some '{' =>
    match nested with
    | none => throw .malformed
    | some item =>
      drop
      let ms ← bounded fun fuel =>
        members (fun name ms => do
          colon
          return ms ++ [(name, ← item)]) fuel true []
      endObject
      return .object ms
  | some c => readScalar c

/-- Reads a value in which arrays and objects are nested at most `depth` deep. -/
def readValue : (depth : Nat) → Reader Value
  | 0 => readValueWith none
  | depth + 1 => readValueWith (some (readValue depth))

/-- Finds the end of a scalar whose first character is `c`. -/
def skipScalar (c : Char) : Reader Unit := do
  if c = '"' then drop; skipStringRest
  else if c = '-' then drop; skipNumber
  else if c.isDigit then skipNumber
  else
    let _ ← readScalar c

/-- The name of a member that is skipped, and its colon. -/
def skipName : Reader Unit := do
  match ← peek with
  | none => throw .truncated
  | some '"' => drop; skipStringRest; colon
  | some _ => throw .malformed

/-- Behind a value within open brackets, the innermost first: passes over closing brackets up to a
comma, and over the name behind it. False if all brackets are closed. -/
def closeBrackets : (brackets : List Char) → Reader (Bool × List Char)
  | [] => return (false, [])
  | b :: bs => do
    match ← peek with
    | none => throw .truncated
    | some c =>
      if c = ',' then
        drop
        if b = '{' then skipName
        return (true, b :: bs)
      else if c = (if b = '[' then ']' else '}') then
        drop
        closeBrackets bs
      else throw .malformed

/-- Finds the end of a value within open brackets. -/
def skipNested : (fuel : List Char) → (brackets : List Char) → Reader Unit
  | [], _ => throw .truncated
  | _ :: fuel, brackets => do
    match ← peek with
    | none => throw .truncated
    | some c =>
      let (more, brackets) ←
        if c = '[' || c = '{' then do
          drop
          match ← peek with
          | none => throw .truncated
          | some d =>
            if d = (if c = '[' then ']' else '}') then
              drop
              closeBrackets brackets
            else
              if c = '{' then skipName
              pure (true, c :: brackets)
        else do
          skipScalar c
          closeBrackets brackets
      if more then skipNested fuel brackets

/-- Finds the end of a value nobody asked for. -/
def skipValue : Reader Unit := bounded fun fuel => skipNested fuel []

end ClusterKeeper.Json
