import ClusterKeeper.Status

/-!
# `StatusCell.lean` — the shared local status and those who watch it

The local status is shared by everything that runs on a node. Each write raises the cell's
version, also a write of the status that is already there; a watcher remembers the version it has
seen, so "something was written since" is a comparison of two numbers. Copies of the cell share
its state: there is one cell, however many hold it.
-/

set_option autoImplicit false

namespace ClusterKeeper

/-- The status of a node and the number of writes made so far. -/
structure StatusCell where
  status : Status
  version : Nat
  deriving DecidableEq, Repr, Inhabited

/-- One who watches a cell: the number of writes seen so far. -/
structure StatusWatcher where
  seen : Nat
  deriving DecidableEq, Repr, Inhabited

namespace StatusCell

def ofStatus (s : Status) : StatusCell := ⟨s, 0⟩

def set (c : StatusCell) (s : Status) : StatusCell := ⟨s, c.version + 1⟩

/-- A new watcher has seen every write made before it came. -/
def subscribe (c : StatusCell) : StatusWatcher := ⟨c.version⟩

/-- Whether something was written since the watcher last took notice. -/
def hasChanged (c : StatusCell) (w : StatusWatcher) : Bool := c.version != w.seen

/-- The watcher takes notice of all writes made so far. -/
def acknowledge (c : StatusCell) : StatusWatcher := ⟨c.version⟩

/-- The cell as debugging output shows it. -/
def debug (c : StatusCell) : String := "StatusCell(" ++ c.status.debugName ++ ")"

end StatusCell

/-! ## Histories of use -/

/-- A use of a cell through one of its holders, or of one of its watchers. -/
inductive CellAction
  | get
  | set (status : Status)
  | debug
  | share
  | subscribe
  | hasChanged (watcher : Nat)
  | peek (watcher : Nat)
  | take (watcher : Nat)
  deriving DecidableEq, Repr

inductive CellAnswer
  | status (status : Status)
  | text (text : String)
  | number (number : Nat)
  | truth (holds : Bool)
  | noSuchWatcher
  deriving DecidableEq, Repr

/-- A cell in use: the cell, the number of its holders, its watchers in the order they came. -/
structure CellUse where
  cell : StatusCell
  holders : Nat
  watchers : List StatusWatcher
  deriving DecidableEq, Repr, Inhabited

namespace CellUse

def start (s : Status) : CellUse := ⟨.ofStatus s, 1, []⟩

def step (u : CellUse) : CellAction → CellUse × CellAnswer
  | .get => (u, .status u.cell.status)
  | .set s => ({ u with cell := u.cell.set s }, .status u.cell.status)
  | .debug => (u, .text u.cell.debug)
  | .share => ({ u with holders := u.holders + 1 }, .number u.holders)
  | .subscribe =>
    ({ u with watchers := u.watchers ++ [u.cell.subscribe] }, .number u.watchers.length)
  | .hasChanged w =>
    match u.watchers[w]? with
    | some watcher => (u, .truth (u.cell.hasChanged watcher))
    | none => (u, .noSuchWatcher)
  | .peek w =>
    match u.watchers[w]? with
    | some _ => (u, .status u.cell.status)
    | none => (u, .noSuchWatcher)
  | .take w =>
    match u.watchers[w]? with
    | some _ =>
      ({ u with watchers := u.watchers.set w u.cell.acknowledge }, .status u.cell.status)
    | none => (u, .noSuchWatcher)

def run (u : CellUse) : List CellAction → CellUse × List CellAnswer
  | [] => (u, [])
  | a :: rest =>
    let (u', answer) := u.step a
    let (last, answers) := u'.run rest
    (last, answer :: answers)

end CellUse

end ClusterKeeper
