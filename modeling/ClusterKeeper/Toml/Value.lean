import ClusterKeeper.Decimal.Shortest
import ClusterKeeper.Text.Character

/-!
# `Toml/Value.lean` — the values and tables of a configuration document

A table lists its entries in the order of the document. Which tables may be added to, and how,
depends on what brought them about, so every table knows its `Origin`. The two ways of adding to
a table are here:

* `Table.insert` puts a value under a dotted key. The tables on the way must have come from
  dotted keys themselves; one that a header opened or a value wrote out is closed to this.
* `Table.within` goes where a header points. It passes through every table that is not written
  out as a value, and into the last row of an array of tables.

Neither overwrites anything: a key is given once.
-/

set_option autoImplicit false

namespace ClusterKeeper.Toml

/-- What brought a table about. -/
inductive Origin
  | header
  /-- A header of a table further in. -/
  | implied
  /-- A dotted key that goes through it. -/
  | dotted
  /-- It was written out as a value. -/
  | value
  deriving DecidableEq, Repr

inductive Value
  | string (s : String)
  | integer (n : Int)
  | float (x : Decimal.Binary64)
  | boolean (b : Bool)
  /-- A date, a time or both. Which one it is has no use here. -/
  | dateTime
  | array (items : List Value)
  | table (origin : Origin) (entries : List (String × Value))
  /-- An array of tables that headers opened one by one. -/
  | tables (rows : List (List (String × Value)))
  deriving Inhabited

abbrev Table := List (String × Value)

/-- A dotted key: the tables it goes through and the name in the last of them. -/
structure Key where
  path : List String
  name : String
  deriving DecidableEq, Repr, Inhabited

namespace Table

/-- Changes the value under a name that the table has. -/
def replace (name : String) (v : Value) (t : Table) : Table :=
  t.map fun entry => if entry.1 = name then (name, v) else entry

/-- The last row of an array of tables changed by `f`. -/
def inLastRow (f : Table → Option Table) (rows : List Table) : Option (List Table) := do
  let last ← rows.getLast?
  return rows.dropLast ++ [← f last]

/-- Puts a value under a dotted key. -/
def insert : (path : List String) → (name : String) → Value → Table → Option Table
  | [], name, v, t => if (t.lookup name).isSome then none else some (t ++ [(name, v)])
  | p :: path, name, v, t =>
    match t.lookup p with
    | none => do return t ++ [(p, .table .dotted (← insert path name v []))]
    | some (.table .dotted inner) => do
      return t.replace p (.table .dotted (← insert path name v inner))
    | some (.table .implied inner) =>
      if path.isEmpty then none
      else do return t.replace p (.table .implied (← insert path name v inner))
    | some (.tables rows) =>
      if path.isEmpty then none
      else do return t.replace p (.tables (← inLastRow (insert path name v) rows))
    | some _ => none

/-- Changes the table at the end of a header's path. -/
def within : (path : List String) → (Table → Option Table) → Table → Option Table
  | [], f, t => f t
  | p :: path, f, t =>
    match t.lookup p with
    | none => do return t ++ [(p, .table .implied (← within path f []))]
    | some (.table .value _) => none
    | some (.table origin inner) => do return t.replace p (.table origin (← within path f inner))
    | some (.tables rows) => do return t.replace p (.tables (← inLastRow (within path f) rows))
    | some _ => none

def insertAll (entries : List (Key × Value)) (t : Table) : Option Table :=
  entries.foldlM (fun t (key, v) => insert key.path key.name v t) t

end Table

/-! ## What messages call a value -/

/-- All digits of a number are written out, however many they are. -/
def numberStyle : Decimal.Style := ⟨fun _ => true, false, .up⟩

def Value.describe : Value → String
  | string s => "string " ++ Text.quoted s
  | integer n => "integer `" ++ toString n ++ "`"
  | float x => "floating point `" ++ x.render numberStyle ++ "`"
  | boolean b => "boolean `" ++ (if b then "true" else "false") ++ "`"
  | dateTime | table _ _ => "map"
  | array _ | tables _ => "sequence"

end ClusterKeeper.Toml
