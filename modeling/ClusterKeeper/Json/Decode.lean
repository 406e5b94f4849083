import ClusterKeeper.Json.Reader

/-!
# `Json/Decode.lean` — reading what was asked for

Two kinds of decoder. The readers of this module read straight from the text: `readString`,
`readArray`, `readRecord`. The decoders of a `Value` (`Value.asString` and its like) look at a
value that has been read before. Both name what they found when it is not what they want, and
both report the first thing wrong.
-/

set_option autoImplicit false

namespace ClusterKeeper.Json

/-- Refuses the next value by saying what it is. A scalar is read to its end first. -/
def refuse {α : Type} (expected : String) : Reader α := do
  match ← peek with
  | some '[' => throw (.data (wrongType "sequence" expected))
  | some '{' => throw (.data (wrongType "map" expected))
  | some c =>
    let v ← readScalar c
    throw (.data (wrongType v.describe expected))
  | none => throw .truncated

/-- Reads a string; anything else is refused as not being `expected`. -/
def readString (expected : String) : Reader String := do
  match ← peek with
  | some '"' => drop; stringRest
  | _ => refuse expected

/-- Reads an array of what `item` reads. -/
def readArray {α : Type} (expected : String) (item : Reader α) : Reader (List α) := do
  match ← peek with
  | some '[' =>
    drop
    let xs ← bounded fun fuel => items item fuel true
    endArray
    return xs
  | _ => refuse expected

/-- Reads a record that is written as an object, by its members, or as an array, by position. -/
def readRecord {α : Type} (expected : String) (byPosition : Reader α) (byName : Reader α) :
    Reader α := do
  match ← peek with
  | some '[' =>
    drop
    let a ← byPosition
    endArray
    return a
  | some '{' =>
    drop
    let a ← byName
    endObject
    return a
  | _ => refuse expected

/-- The item at a position of a record that is written as an array. -/
def readPosition {α : Type} (position : Nat) (expected : String) (item : Reader α) : Reader α := do
  if ← hasItem (position = 0) then item
  else throw (.data (wrongLength position expected))

/-- A member that may be given once. -/
def readOnce {α : Type} (name : String) (known : Option α) (item : Reader α) : Reader α := do
  if known.isSome then throw (.data (duplicateField name))
  colon
  item

/-- A member that must have been given. -/
def required {α : Type} (name : String) : Option α → Except Error α
  | some a => .ok a
  | none => .error (.data (missingField name))

/-- Reads a whole text: behind the value nothing but blanks may follow. -/
def readText {α : Type} (reader : Reader α) (text : String) : Except Error α := do
  let (a, rest) ← reader text.toList
  if (rest.dropWhile isBlank).isEmpty then return a else throw .malformed

/-! ## Decoders of values -/

namespace Value

def refused {α : Type} (v : Value) (expected : String) : Except Error α :=
  .error (.data (wrongType v.describe expected))

def asString (expected : String) : Value → Except Error String
  | string s => .ok s
  | v => v.refused expected

def asBoolean (expected : String) : Value → Except Error Bool
  | boolean b => .ok b
  | v => v.refused expected

/-- An integer from zero to below `bound`. -/
def asNatural (expected : String) (bound : Nat) : Value → Except Error Nat
  | number (.natural n) =>
    if n < bound then .ok n
    else .error (.data (wrongValue (Number.natural n).describe expected))
  | number (.negative n) => .error (.data (wrongValue (Number.negative n).describe expected))
  | v => v.refused expected

def asArray (expected : String) : Value → Except Error (List Value)
  | array vs => .ok vs
  | v => v.refused expected

end Value

end ClusterKeeper.Json
