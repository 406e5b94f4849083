import ClusterKeeper.Toml.Number

/-!
# `Toml/Document.lean` — documents

A document is a list of statements, one a line: entries, and headers that say into which table
the entries after them go. `read` splits it into sections and adds them up; either a document is
right as a whole or there is no document, and of a right one the entries of the outermost table
are given in order (`read`).

A table opened by its header although headers further in have already implied it keeps what it
has, and takes its place among the entries anew, at the end.
-/

set_option autoImplicit false

namespace ClusterKeeper.Toml

/-! ## 1. Values -/

/-- Every item takes a character, so the length of the text bounds their number. -/
def bounded {α : Type} (reader : Nat → Reader α) : Reader α := fun cs => reader (cs.length + 1) cs

/-- The items of an array up to its closing bracket; the last one may have a comma behind it. -/
def arrayRest (item : Reader Value) : (fuel : Nat) → Reader (List Value)
  | 0 => failure
  | fuel + 1 => do
    gap
    if (← peek) = some ']' then
      expect ']'
      return []
    let v ← item
    gap
    match ← peek with
    | some ',' =>
      expect ','
      return v :: (← arrayRest item fuel)
    | _ =>
      expect ']'
      return [v]

def entry (item : Reader Value) : Reader (Key × Value) := do
  let k ← key
  expect '='
  blanks
  return (k, ← item)

/-- The entries of a table that is written out, up to its closing brace. -/
def entriesRest (item : Reader Value) : (fuel : Nat) → Reader (List (Key × Value))
  | 0 => failure
  | fuel + 1 => do
    let e ← entry item
    blanks
    match ← peek with
    | some ',' =>
      expect ','
      return e :: (← entriesRest item fuel)
    | _ =>
      expect '\x7d'
      return [e]

/-- The entries of a table that is written out. -/
def writtenTable (item : Reader Value) : Reader Table := do
  blanks
  if (← peek) = some '\x7d' then
    expect '\x7d'
    return []
  let entries ← bounded (entriesRest item)
  match Table.insertAll entries [] with
  | some t => return t
  | none => failure

/-- Reads a value whose items are read by `nested`; without one, arrays and tables are too deep. -/
def valueWith (nested : Option (Reader Value)) : Reader Value := do
  match ← peek, nested with
  | some '"', _ | some '\'', _ => return .string (← string)
  | some '[', some item =>
    expect '['
    return .array (← bounded (arrayRest item))
  | some '\x7b', some item =>
    expect '\x7b'
    return .table .value (← writtenTable item)
  | some 't', _ => expectAll ['t', 'r', 'u', 'e']; return .boolean true
  | some 'f', _ => expectAll ['f', 'a', 'l', 's', 'e']; return .boolean false
  | _, _ =>
    (do dateTime; return .dateTime)
      <|> (do return .float (← float))
      <|> (do return .integer (← integer))

/-- Reads a value in which arrays and tables are nested at most `depth` deep. -/
def value : (depth : Nat) → Reader Value
  | 0 => valueWith none
  | depth + 1 => valueWith (some (value depth))

/-! ## 2. Statements -/

inductive Statement
  | entry (key : Key) (value : Value)
  | header (key : Key)
  /-- Opens another row of an array of tables. -/
  | row (key : Key)

/-- Reads a header: its key in brackets, in double ones if it opens a row. -/
def header : Reader Statement := do
  expect '['
  if (← peek) = some '[' then
    expect '['
    let k ← key
    expectAll [']', ']']
    lineEnd
    return .row k
  else
    let k ← key
    expect ']'
    lineEnd
    return .header k

/-- Reads statements up to the end of the text. -/
def statements : (fuel : Nat) → Reader (List Statement)
  | 0 => failure
  | fuel + 1 => do
    blanks
    match ← peek with
    | none => return []
    | some '\n' | some '\r' | some '#' =>
      lineEnd
      statements fuel
    | some '[' =>
      let s ← header
      return s :: (← statements fuel)
    | some _ =>
      let (k, v) ← entry (value (nestingLimit - 1))
      lineEnd
      return .entry k v :: (← statements fuel)

/-! ## 3. Sections -/

/-- The entries up to the next header, and the statements from there. -/
def leadingEntries : List Statement → List (Key × Value) × List Statement
  | .entry k v :: rest =>
    let (entries, rest) := leadingEntries rest
    ((k, v) :: entries, rest)
  | rest => ([], rest)

/-- Opens the table `name` and fills it. -/
def openTable (name : String) (entries : List (Key × Value)) (t : Table) : Option Table :=
  match t.lookup name with
  | none => do return t ++ [(name, .table .header (← Table.insertAll entries []))]
  | some (.table .implied inner) => do
    return t.filter (fun e => e.1 ≠ name)
      ++ [(name, .table .header (← Table.insertAll entries inner))]
  | some _ => none

/-- Opens another row of the array of tables `name` and fills it. -/
def openRow (name : String) (entries : List (Key × Value)) (t : Table) : Option Table :=
  match t.lookup name with
  | none => do return t ++ [(name, .tables [← Table.insertAll entries []])]
  | some (.tables rows) => do
    return t.replace name (.tables (rows ++ [← Table.insertAll entries []]))
  | some _ => none

def addSections : List Statement → Table → Option Table
  | [], t => some t
  | .entry _ _ :: rest, t => addSections rest t
  | .header k :: rest, t => do
    addSections rest (← t.within k.path (openTable k.name (leadingEntries rest).1))
  | .row k :: rest, t => do
    addSections rest (← t.within k.path (openRow k.name (leadingEntries rest).1))

def tableOf (statements : List Statement) : Option Table := do
  addSections statements (← Table.insertAll (leadingEntries statements).1 [])

/-- Reads a document. A byte order mark at its beginning is passed over. -/
def read (text : String) : Option Table := do
  let cs := match text.toList with
    | '\uFEFF' :: cs => cs
    | cs => cs
  let (lines, _) ← bounded statements cs
  tableOf lines

end ClusterKeeper.Toml
