import ClusterKeeper.Decimal.Shortest
import ClusterKeeper.Text.Character

/-!
# `Json/Value.lean` — JSON values and what can be wrong with a text

An object keeps its members in the order of the text, repetitions included: which of two members
of one name is the wrong one is for the reader of the object to say.

A text can fail in four ways (`Json.Error`): it is not JSON, it ends too early, it is JSON but not
what was asked for, or the number it spells cannot be carried any further. Only the third has a
message.
-/

set_option autoImplicit false

namespace ClusterKeeper.Json

/-- A number: integers that fit 64 bits are kept exact. -/
inductive Number
  | natural (n : Nat)
  | negative (n : Nat)
  | float (x : Decimal.Binary64)
  deriving DecidableEq, Repr, Inhabited

inductive Value
  | null
  | boolean (b : Bool)
  | number (n : Number)
  | string (s : String)
  | array (items : List Value)
  | object (members : List (String × Value))
  deriving Inhabited

inductive Error
  | malformed
  /-- The text ends before its value does. -/
  | truncated
  /-- The value is not the one that was asked for. -/
  | data (message : String)
  /-- The arithmetic of a value left its range; there is no answer. -/
  | overflow
  deriving DecidableEq, Repr

/-- Up to sixteen digits before the point of a number or four zeros behind it are written out; an
exponent that is not negative has a plus sign. -/
def numberStyle : Decimal.Style := ⟨fun point => -5 < point && point ≤ 16, true, .toEven⟩

def Number.render : Number → String
  | natural n => toString n
  | negative n => "-" ++ toString n
  | float x => x.render numberStyle

/-! ## What messages call a value -/

def Number.describe : Number → String
  | .float x => "floating point `" ++ x.render numberStyle ++ "`"
  | n => "integer `" ++ n.render ++ "`"

def Value.describe : Value → String
  | null => "null"
  | boolean b => "boolean `" ++ (if b then "true" else "false") ++ "`"
  | number n => n.describe
  | string s => "string " ++ Text.quoted s
  | array _ => "sequence"
  | object _ => "map"

/-- The message for a value of the wrong type. -/
def wrongType (found expected : String) : String :=
  "invalid type: " ++ found ++ ", expected " ++ expected

/-- The message for a value of the right type that is not allowed. -/
def wrongValue (found expected : String) : String :=
  "invalid value: " ++ found ++ ", expected " ++ expected

def duplicateField (name : String) : String := "duplicate field `" ++ name ++ "`"

def missingField (name : String) : String := "missing field `" ++ name ++ "`"

/-- Names in a row, each marked off. -/
def listNames (names : List String) : String :=
  ", ".intercalate (names.map fun n => "`" ++ n ++ "`")

def unknownVariant (name : String) (known : List String) : String :=
  "unknown variant `" ++ name ++ "`, expected one of " ++ listNames known

def unknownField (name : String) (known : List String) : String :=
  "unknown field `" ++ name ++ "`, expected one of " ++ listNames known

def wrongLength (length : Nat) (expected : String) : String :=
  "invalid length " ++ toString length ++ ", expected " ++ expected

/-- A count of elements in words. -/
def countElements (n : Nat) : String := if n = 1 then "1 element" else toString n ++ " elements"

end ClusterKeeper.Json
