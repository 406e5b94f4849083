import ClusterKeeper.Status
import ClusterKeeper.Json.Decode

/-!
# `Status/Json.lean` — statuses as JSON

A status is the string that publishes it. It may also stand as an object with that name as its
only member and nothing as its value. What else a value may be is refused differently where it
is read straight from a text and where it is part of a value read before.
-/

set_option autoImplicit false

namespace ClusterKeeper.Status

open Json

def toJson (s : Status) : Value := .string s.text

def ofName (name : String) : Except Error Status :=
  match ofText? name with
  | some s => .ok s
  | none => .error (.data (unknownVariant name (all.map text)))

def readName : Reader Status := do ofName (← readString "variant identifier")

def readNothing : Reader Unit := do
  match ← peek with
  | some 'n' =>
    let _ ← readScalar 'n'
  | _ => refuse "unit"

def readJson : Reader Status := do
  match ← peek with
  | none => throw .truncated
  | some '{' =>
    drop
    match ← peek with
    | none => throw .truncated
    | some '"' =>
      let s ← readName
      colon
      readNothing
      endObject
      return s
    | some _ => throw .malformed
  | some '"' => readName
  | some _ => throw .malformed

def ofJson : Value → Except Error Status
  | .string name => ofName name
  | .object [(name, v)] => do
    let s ← ofName name
    match v with
    | .null | .object [] => return s
    | v => v.refused "unit"
  | .object _ => .error (.data (wrongValue "map" "map with a single key"))
  | v => v.refused "string or map"

end ClusterKeeper.Status
